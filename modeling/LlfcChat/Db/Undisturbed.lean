/-
What `AddChatMsg` does when nothing goes wrong.

The invariants of the database say what no run can do.  This file is about
what a run does: a text with a new client id, sent by a member of the thread,
is stored, published and announced to the other member by one call without a
fault.
-/
import LlfcChat.Db.Published

namespace LlfcChat

open Txn

variable {μ : Type} {s w : Db} {o : μ}

/-- The event goes into the log of its recipient. -/
theorem recordEvent_calm {r : Int} {row : Nat → UserEventRow} {assign : Nat → μ → μ}
    {u : UserRow} (hu : w.user r = some u)
    (hone : (w.users.countP fun v => v.userId = r ∧ v.lastEventSeq ≠ w.nextEventSeq r) = 1)
    (hadm : (w.setLastEventSeq r (w.nextEventSeq r)).AdmitsUserEvent (row (w.nextEventSeq r))) :
    recordEvent r row assign ⟨s, w, o, []⟩ =
      (.ok (some (w.nextEventSeq r)), ⟨s, w.notify r row, assign (w.nextEventSeq r) o, []⟩) := by
  have hseq : w.nextEventSeq r = u64 (u.lastEventSeq + 1) := by
    rw [Db.nextEventSeq, Db.lastEventSeq, hu, Option.elim_some]
  have halloc : allocateEventSeq r assign ⟨s, w, o, []⟩ = (.ok (some (w.nextEventSeq r)),
      ⟨s, w.setLastEventSeq r (w.nextEventSeq r), assign (w.nextEventSeq r) o, []⟩) := by
    refine bind_ok (query_calm hu) (bind_ok rfl (bind_ok (exec_calm rfl) ?_))
    rw [← hseq, hone]
    rfl
  have hinsert : insertEvent (row (w.nextEventSeq r)) ⟨s, w.setLastEventSeq r (w.nextEventSeq r),
      assign (w.nextEventSeq r) o, []⟩ =
      (.ok true, ⟨s, w.notify r row, assign (w.nextEventSeq r) o, []⟩) :=
    bind_ok (exec_calm (if_pos hadm)) rfl
  exact bind_ok halloc (bind_ok hinsert rfl)

/-- The row that a text is stored in. -/
def Db.textRow (db : Db) (m : ChatMessage) : ChatMessageRow :=
  { chatMessageRow m with messageId := db.nextMessageId }

/-- The database with a new text and its event. -/
def Db.withText (db : Db) (m : ChatMessage) (recipient : Int) : Db :=
  (db.addChatMessage (db.textRow m)).notify recipient
    (messageEventRow recipient m.messageType db.nextMessageId)

/-- The message as the caller gets it back. -/
def Db.storedText (db : Db) (m : ChatMessage) (recipient : Int) : ChatMessage :=
  { m with
    recipientUserId := recipient
    status := .published
    messageId := db.nextMessageId
    eventSeq := db.nextEventSeq recipient }

theorem textRow_textContent (db : Db) {m : ChatMessage} (htype : m.messageType = chatMsgText) :
    (db.textRow m).textContent = some m.textContent := by
  show (if m.isResource then none else some m.textContent) = _
  rw [ChatMessage.isResource, htype]
  rfl

theorem storeNew_calm {m : ChatMessage} (htype : m.messageType = chatMsgText)
    (hadm : w.AdmitsChatMessage (w.textRow m)) {u : UserRow}
    (hu : w.user m.recipientUserId = some u)
    (hone : (w.users.countP fun v => v.userId = m.recipientUserId ∧
      v.lastEventSeq ≠ w.nextEventSeq m.recipientUserId) = 1)
    (hev : ((w.addChatMessage (w.textRow m)).setLastEventSeq m.recipientUserId
      (w.nextEventSeq m.recipientUserId)).AdmitsUserEvent
        (messageEventRow m.recipientUserId m.messageType w.nextMessageId
          (w.nextEventSeq m.recipientUserId))) :
    storeNew ⟨s, w, m, []⟩ = (.ok .stored,
      ⟨w.withText m m.recipientUserId, w.withText m m.recipientUserId,
        w.storedText m m.recipientUserId, []⟩) := by
  have hres : m.isResource = false := by
    unfold ChatMessage.isResource
    rw [htype]
    rfl
  have hinsert : Db.insertChatMessage (chatMessageRow m) w =
      .ok ((1, (w.nextMessageId : Int)), w.addChatMessage (w.textRow m)) := if_pos hadm
  refine bind_ok rfl ?_
  rw [if_neg (by simp [hres, htype])]
  refine bind_ok rfl (bind_ok (exec_calm hinsert) ?_)
  refine bind_ok (query_calm rfl) (bind_ok rfl ?_)
  rw [hres]
  exact bind_ok (recordEvent_calm hu hone hev) (bind_ok rfl rfl)

/-- **A new text is stored.** -/
theorem addChatMsgTransaction_calm {db : Db} {m : ChatMessage} {pc : PrivateChatRow}
    (htype : m.messageType = chatMsgText) (hpc : db.privateChat m.threadId = some pc)
    (hmem : m.senderUserId = pc.lowerUserId ∨ m.senderUserId = pc.higherUserId)
    (hnew : db.messageByClientId m.senderUserId m.clientMessageId = none)
    (hadm : db.AdmitsChatMessage (db.textRow m)) {u : UserRow} {r : Int}
    (hr : r = if m.senderUserId = pc.lowerUserId then pc.higherUserId else pc.lowerUserId)
    (hu : db.user r = some u)
    (hone : (db.users.countP fun v => v.userId = r ∧ v.lastEventSeq ≠ db.nextEventSeq r) = 1)
    (hev : ((db.addChatMessage (db.textRow m)).setLastEventSeq r
      (db.nextEventSeq r)).AdmitsUserEvent
        (messageEventRow r m.messageType db.nextMessageId (db.nextEventSeq r))) :
    addChatMsgTransaction (Conn.start db m []) =
      (.ok .stored, ⟨db.withText m r, db.withText m r, db.storedText m r, []⟩) := by
  subst hr
  have hstore := storeNew_calm (s := db) (w := db)
    (m := { m with recipientUserId :=
      if m.senderUserId = pc.lowerUserId then pc.higherUserId else pc.lowerUserId })
    htype hadm hu hone hev
  refine bind_ok (query_calm rfl) (bind_ok rfl (bind_ok (query_calm hpc) ?_))
  have hmem' : ¬(m.senderUserId ≠ pc.lowerUserId ∧ m.senderUserId ≠ pc.higherUserId) := by tauto
  show (ite _ _ _ : Sql ChatMessage SaveMessageResult) _ = _
  rw [if_neg hmem']
  exact bind_ok rfl (bind_ok (query_calm hnew) hstore)

/-! ### The call -/

/-- Exactly one user takes the next number. -/
theorem countP_users {db : Db} (hids : (db.users.map (·.userId)).Nodup) (hb : db.Budget) {r : Int}
    (hr : db.HasUser r) :
    (db.users.countP fun v => v.userId = r ∧ v.lastEventSeq ≠ db.nextEventSeq r) = 1 := by
  obtain ⟨v, hv, hid⟩ := hr
  have hlast : db.lastEventSeq r = v.lastEventSeq := by
    have hfind : db.user v.userId = some v := Table.find?_key hids hv
    rw [Db.lastEventSeq, ← hid, hfind, Option.elim_some]
  rw [List.countP_eq_length_filter]
  apply Nat.le_antisymm
  · apply Table.length_filter_key_le_one hids (k := r)
    intro x hx
    exact (of_decide_eq_true hx).1
  · apply List.length_pos_of_mem (a := v)
    rw [List.mem_filter]
    refine ⟨hv, decide_eq_true ⟨hid, ?_⟩⟩
    rw [nextEventSeq_eq hb]
    omega

/-- The numbers in the log go up to the head. -/
theorem nextEventSeq_fresh {db : Db} (hn : db.Budget ∧ db.Numbered) {f : UserEventRow} {r : Int}
    (hf : f ∈ db.userEvents) (hrec : f.recipientUserId = r) : f.eventSeq ≠ db.nextEventSeq r := by
  have hseq : f.eventSeq ∈ db.eventSeqs r :=
    List.mem_map_of_mem (List.mem_filter.mpr ⟨hf, decide_eq_true hrec⟩)
  rw [hn.2.eventSeqs, List.mem_range'_1, ← hn.2.lastEventSeq] at hseq
  rw [nextEventSeq_eq hn.1]
  omega

/-- The number and the message of the new event are both new. -/
theorem admitsUserEvent_text {db : Db} (hdb : db.Consistent) (hn : db.Budget ∧ db.Numbered)
    {m : ChatMessage} (htype : m.messageType = chatMsgText) {r : Int} (hr : db.HasUser r) :
    ((db.addChatMessage (db.textRow m)).setLastEventSeq r (db.nextEventSeq r)).AdmitsUserEvent
      (messageEventRow r m.messageType db.nextMessageId (db.nextEventSeq r)) := by
  refine ⟨?_, fun f hf hrec => ⟨?_, fun _ => ⟨.inr ?_, .inl rfl⟩⟩,
    .inl ⟨.inl htype, rfl, db.textRow m, List.mem_append_right _ (List.mem_singleton.mpr rfl), rfl⟩⟩
  · obtain ⟨v, hv, hid⟩ := hr
    refine ⟨_, Table.mem_update.mpr ⟨v, hv, rfl⟩, ?_⟩
    rw [Table.updated_pos]
    · exact hid
    · exact hid
  · exact nextEventSeq_fresh hn hf hrec
  · -- an event refers to a message that is there already
    intro hid
    obtain ⟨n, hmem, hnid⟩ := hdb.referenced f hf _ hid
    have hbelow := hdb.messagesBelow n hmem
    rw [hnid] at hbelow
    exact lt_irrefl _ hbelow

/-- **A new text is stored.**  In every reachable state an undisturbed call of
`AddChatMsg` with a text from a member of the thread, under a client id that
the sender has not used, stores it and appends its event to the log of the
other member. -/
theorem serve_text {s : Sys} (h : Reachable s) {m : ChatMessage} {pc : PrivateChatRow}
    (hargs : AddChatMsgArgs m) (htype : m.messageType = chatMsgText)
    (hpc : s.db.privateChat m.threadId = some pc)
    (hmem : m.senderUserId = pc.lowerUserId ∨ m.senderUserId = pc.higherUserId)
    (hnew : ∀ n ∈ s.db.chatMessages,
      ¬(n.senderUserId = m.senderUserId ∧ n.clientMessageId = m.clientMessageId))
    (hlim : s.db.nextMessageId < idLimit) (hids : (s.db.users.map (·.userId)).Nodup)
    (hsender : s.db.HasUser m.senderUserId) (hrec : s.db.HasUser (pc.other m.senderUserId))
    (caller : SaveCaller) (retries : Nat) :
    (Call.addChatMsg caller retries m).turn 0 (some []) s.db =
      (s.db.withText m (pc.other m.senderUserId),
        .returned (.saved .stored (s.db.storedText m (pc.other m.senderUserId)))) := by
  have hnumbered := h.numbered
  obtain ⟨u, hu⟩ := user_isSome hrec
  have hnone : s.db.messageByClientId m.senderUserId m.clientMessageId = none := by
    have hfind : (s.db.chatMessages.find? fun n => decide
        (n.senderUserId = m.senderUserId ∧ n.clientMessageId = m.clientMessageId)) = none :=
      List.find?_eq_none.mpr fun n hn => by simpa using hnew n hn
    rw [Db.messageByClientId, hfind, Option.bind_none]
  have hadm : s.db.AdmitsChatMessage (s.db.textRow m) := by
    refine ⟨hlim, ⟨pc, List.mem_of_find?_eq_some hpc, ?_⟩, hsender, hnew, .inl ⟨htype, ?_⟩⟩
    · have hthread := List.find?_some hpc
      exact of_decide_eq_true hthread
    · rw [textRow_textContent _ htype]
      exact Option.some_ne_none _
  have hother : pc.other m.senderUserId =
      if m.senderUserId = pc.lowerUserId then pc.higherUserId else pc.lowerUserId := by
    simp only [PrivateChatRow.other, eq_comm]
  have htrans := addChatMsgTransaction_calm htype hpc hmem hnone hadm hother hu
    (countP_users hids hnumbered.1 hrec) (admitsUserEvent_text h.consistent hnumbered htype hrec)
  rw [turn_addChatMsg, if_neg (by simp [hargs])]
  unfold perform
  rw [Option.getD_some, addChatMsgTurn_of_ok htrans]

end LlfcChat
