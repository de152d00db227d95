/-
Every user has one event log, and the numbers in it have no gaps.

What the tables `users.last_event_seq` and `user_events` are for is a journal:
for every user a list of notes that only grows at its end.  The numbers are
its positions, counted from 1, and `last_event_seq` is its length.  This is
`Db.Numbered`; every change keeps it and either leaves the journal alone or
appends one note to it.

The numbers are `std::uint64_t`, so `last_event_seq + 1` could wrap around.
It does not: an event costs a message or a friend request, and the ids of
those run out first (`Db.Budget`).
-/
import LlfcChat.Db.System

namespace LlfcChat

open Txn

/-! ### Journals -/

/-- What an event says, its number left out. -/
structure Note where
  eventType : Int
  messageId : Option Int
  friendRequestId : Option Int
  deriving DecidableEq

/-- A list of notes for every user. -/
abbrev Journal : Type := Int → List Note

/-- A journal grows at the end of one user's list. -/
def Journal.append (J : Journal) (userId : Int) (n : Note) : Journal :=
  Function.update J userId (J userId ++ [n])

def UserEventRow.note (e : UserEventRow) : Note := ⟨e.eventType, e.messageId, e.friendRequestId⟩

/-- The rows of one user, in the order of insertion. -/
def Db.eventsOf (db : Db) (userId : Int) : List UserEventRow :=
  db.userEvents.filter (·.recipientUserId = userId)

/-- The numbers of one user's rows. -/
def Db.eventSeqs (db : Db) (userId : Int) : List Nat := (db.eventsOf userId).map (·.eventSeq)

/-- The journal the tables stand for. -/
def Db.journal (db : Db) : Journal := fun userId => (db.eventsOf userId).map UserEventRow.note

/-- The numbers are the positions in the journal, the head is its length. -/
structure Db.Numbered (db : Db) : Prop where
  eventSeqs : ∀ u, db.eventSeqs u = List.range' 1 (db.journal u).length
  lastEventSeq : ∀ u, db.lastEventSeq u = (db.journal u).length

/-! ### The head of a log -/

theorem user_setLastEventSeq (db : Db) (r : Int) (n : Nat) (u : Int) :
    (db.setLastEventSeq r n).user u =
      (db.user u).map
        (Table.updated (·.userId = r) fun v => { v with lastEventSeq := n }) := by
  unfold Db.user Db.setLastEventSeq
  rw [Table.find?_update fun _ => ?_]
  rfl

variable {db db' s : Db} {r : Int}

theorem user_isSome (h : db.HasUser r) : ∃ v, db.user r = some v := by
  obtain ⟨v, hv, hid⟩ := h
  refine Option.isSome_iff_exists.mp (List.find?_isSome.mpr ⟨v, hv, ?_⟩)
  simpa using hid

theorem userId_of_user {u : Int} {v : UserRow} (h : db.user u = some v) :
    v.userId = u := by simpa using List.find?_some h

theorem lastEventSeq_notify (db : Db) (h : db.HasUser r) (row : Nat → UserEventRow) (u : Int) :
    (db.notify r row).lastEventSeq u = if u = r then db.nextEventSeq r else db.lastEventSeq u := by
  show ((db.setLastEventSeq r _).user u).elim 0 (·.lastEventSeq) = _
  rw [user_setLastEventSeq]
  split
  · rename_i hur
    subst hur
    obtain ⟨v, hv⟩ := user_isSome h
    rw [hv, Option.map_some, Option.elim_some, Table.updated_pos]
    exact userId_of_user hv
  · rename_i hur
    rw [Db.lastEventSeq]
    rcases hv : db.user u with - | v
    · rfl
    · rw [Option.map_some, Option.elim_some, Option.elim_some, Table.updated_neg]
      exact fun e => hur (by rw [← userId_of_user hv, e])

theorem lastEventSeq_addUser {v : UserRow} (hv : v.lastEventSeq = 0) (u : Int) :
    (db.addUser v).lastEventSeq u = db.lastEventSeq u := by
  have hfind : (db.addUser v).user u = (db.user u).or ([v].find? fun x => decide (x.userId = u)) :=
    List.find?_append
  rw [Db.lastEventSeq, hfind, Db.lastEventSeq]
  rcases db.user u with - | w
  · rw [Option.none_or, List.find?_singleton]
    split
    · exact hv
    · rfl
  · rfl

theorem lastEventSeq_setAvatarKey (userId : Int) (key : String) (u : Int) :
    (db.setAvatarKey userId key).lastEventSeq u = db.lastEventSeq u := by
  unfold Db.lastEventSeq Db.user Db.setAvatarKey
  rw [Table.find?_update fun _ => ?_]
  · cases db.users.find? _ with
    | none => rfl
    | some v =>
      show (Table.updated _ _ v).lastEventSeq = v.lastEventSeq
      refine Table.updated_column ?_ v
      exact fun _ => rfl
  · rfl

/-- What two states have in common when nobody's log has changed. -/
def SameLogs (db db' : Db) : Prop :=
  db'.userEvents = db.userEvents ∧ ∀ u, db'.lastEventSeq u = db.lastEventSeq u

/-- The log of `r` has got the row `row n`, where `n` is its next number. -/
structure Appends (db db' : Db) (r : Int) (row : Nat → UserEventRow) : Prop where
  user : db.HasUser r
  recipient : ∀ n, (row n).recipientUserId = r
  eventSeq : ∀ n, (row n).eventSeq = n
  userEvents : db'.userEvents = db.userEvents ++ [row (db.nextEventSeq r)]
  lastEventSeq : ∀ u,
    db'.lastEventSeq u = if u = r then db.nextEventSeq r else db.lastEventSeq u

/-- **A change and the logs.**  It touches none of them, or appends one row to
one of them. -/
theorem Change.logs (h : Change db db') : SameLogs db db' ∨ ∃ r row, Appends db db' r row := by
  cases h with
  | skipIds u t m r | newChat pc hid hlim hpc hnew | newFriendship f hf hnew
  | storeResource m pc hm hs r hr hadm | fail id =>
    exact .inl ⟨rfl, fun _ => rfl⟩
  | newAvatar userId key => exact .inl ⟨rfl, lastEventSeq_setAvatarKey userId key⟩
  | newUser u hid hseq hu => exact .inl ⟨rfl, lastEventSeq_addUser hseq⟩
  | apply r hid hr hs ht =>
    have hu : db.HasUser r.targetUserId := hr.2.2.2.1
    exact .inr ⟨_, _, hu, fun _ => rfl, fun _ => rfl, rfl,
      lastEventSeq_notify (db.addFriendRequest r) hu _⟩
  | accept r hr hs pc hpc hlo hhi hu | reject r hr hs hu | storeText m pc hm hs hu
  | publish m hm hs pc hpc hu =>
    exact .inr ⟨_, _, hu, fun _ => rfl, fun _ => rfl, rfl, lastEventSeq_notify _ (by exact hu) _⟩

/-! ### The numbers do not run out -/

def Db.pendingMessages (db : Db) : Nat := db.chatMessages.countP (·.status = .pending)

def Db.pendingRequestsOf (db : Db) (u : Int) : Nat :=
  db.friendRequests.countP fun r => r.status = .pending ∧ r.requesterUserId = u

/-- Every event is paid for by a row with an id of its own.  A message pays
for one event, now or when it is published; a friend request pays for the
event of its target at once and for that of its requester when it is handled,
which are logs of different users. -/
structure Db.Budget (db : Db) : Prop where
  messageIds : db.chatMessages.length < db.nextMessageId
  messageLimit : db.chatMessages.length < idLimit
  requestIds : db.friendRequests.length < db.nextFriendRequestId
  requestLimit : db.friendRequests.length < idLimit
  spent : ∀ u, db.lastEventSeq u + db.pendingMessages + db.pendingRequestsOf u ≤
    db.chatMessages.length + db.friendRequests.length

theorem budget_empty : Db.Budget .empty where
  messageIds := by decide
  messageLimit := by decide
  requestIds := by decide
  requestLimit := by decide
  spent _ := Nat.le_refl 0

theorem nextEventSeq_le (db : Db) (u : Int) : db.nextEventSeq u ≤ db.lastEventSeq u + 1 :=
  Nat.mod_le _ _

theorem lastEventSeq_notify_le (h : db.HasUser r) (row : Nat → UserEventRow) (u : Int) :
    (db.notify r row).lastEventSeq u ≤ db.lastEventSeq u + if u = r then 1 else 0 := by
  rw [lastEventSeq_notify db h]
  split
  · rename_i hur
    exact hur ▸ nextEventSeq_le db u
  · exact Nat.le_refl _

theorem pendingMessages_add (db : Db) (m : ChatMessageRow) :
    (db.addChatMessage m).pendingMessages =
      db.pendingMessages + if m.status = .pending then 1 else 0 := by
  simp [Db.pendingMessages, Db.addChatMessage, List.countP_append, List.countP_singleton]

theorem pendingMessages_set_le (db : Db) (id : Int) {st : MessageStatus} (h : st ≠ .pending) :
    (db.setPendingMessage id st).pendingMessages ≤ db.pendingMessages :=
  Table.countP_update_le (by simp [h]) _

theorem pendingMessages_set_lt {m : ChatMessageRow} (hm : m ∈ db.chatMessages)
    (hs : m.status = .pending) {st : MessageStatus} (h : st ≠ .pending) :
    (db.setPendingMessage m.messageId st).pendingMessages < db.pendingMessages :=
  Table.countP_update_lt (by simp [h]) hm ⟨rfl, hs⟩ (by simpa using hs) (by simpa using h)

theorem pendingRequestsOf_add (db : Db) {r : FriendRequestRow} (hs : r.status = .pending)
    (u : Int) :
    (db.addFriendRequest r).pendingRequestsOf u =
      db.pendingRequestsOf u + if r.requesterUserId = u then 1 else 0 := by
  simp [Db.pendingRequestsOf, Db.addFriendRequest, List.countP_append, List.countP_singleton, hs]

theorem pendingRequestsOf_accept_le (db : Db) (lower higher threadId u : Int) :
    (db.acceptRequests lower higher threadId).pendingRequestsOf u ≤ db.pendingRequestsOf u :=
  Table.countP_update_le (by simp) _

theorem pendingRequestsOf_accept_lt {r : FriendRequestRow} (hr : r ∈ db.friendRequests)
    (hs : r.status = .pending) (threadId : Int) :
    (db.acceptRequests (min r.requesterUserId r.targetUserId)
        (max r.requesterUserId r.targetUserId) threadId).pendingRequestsOf r.requesterUserId <
      db.pendingRequestsOf r.requesterUserId := by
  refine Table.countP_update_lt (by simp) hr ⟨hs, ?_⟩ (by simpa using hs) (by simp)
  omega

theorem pendingRequestsOf_reject_le (db : Db) (id u : Int) :
    (db.rejectRequest id).pendingRequestsOf u ≤ db.pendingRequestsOf u :=
  Table.countP_update_le (by simp) _

theorem pendingRequestsOf_reject_lt {r : FriendRequestRow} (hr : r ∈ db.friendRequests)
    (hs : r.status = .pending) :
    (db.rejectRequest r.friendRequestId).pendingRequestsOf r.requesterUserId <
      db.pendingRequestsOf r.requesterUserId :=
  Table.countP_update_lt (by simp) hr ⟨rfl, hs⟩ (by simpa using hs) (by simp)

section Budget

variable {db : Db} (h : db.Budget)
include h

theorem Db.Budget.notify {r : Int} (hu : db.HasUser r) (row : Nat → UserEventRow)
    (hpaid : db.lastEventSeq r + db.pendingMessages + db.pendingRequestsOf r <
      db.chatMessages.length + db.friendRequests.length) : (db.notify r row).Budget where
  messageIds := h.messageIds
  messageLimit := h.messageLimit
  requestIds := h.requestIds
  requestLimit := h.requestLimit
  spent u := by
    have hle := lastEventSeq_notify_le hu row u
    have hu := h.spent u
    show (db.notify r row).lastEventSeq u + db.pendingMessages + db.pendingRequestsOf u ≤
      db.chatMessages.length + db.friendRequests.length
    split at hle
    · rename_i hur
      subst hur
      omega
    · omega

theorem Db.Budget.addFriendRequest {r : FriendRequestRow} (hlim : db.nextFriendRequestId < idLimit)
    (hs : r.status = .pending) : (db.addFriendRequest r).Budget where
  messageIds := h.messageIds
  messageLimit := h.messageLimit
  requestIds := by simpa [Db.addFriendRequest] using h.requestIds
  requestLimit := by
    have := h.requestIds
    simp only [Db.addFriendRequest, List.length_append, List.length_singleton]
    omega
  spent u := by
    have := h.spent u
    rw [pendingRequestsOf_add db hs]
    simp only [Db.addFriendRequest, List.length_append, List.length_singleton]
    show db.lastEventSeq u + db.pendingMessages + _ ≤ _
    split <;> omega

theorem Db.Budget.setRequests {rs : List FriendRequestRow}
    (hlen : rs.length = db.friendRequests.length)
    (hle : ∀ u, { db with friendRequests := rs }.pendingRequestsOf u ≤ db.pendingRequestsOf u) :
    Db.Budget { db with friendRequests := rs } where
  messageIds := h.messageIds
  messageLimit := h.messageLimit
  requestIds := hlen ▸ h.requestIds
  requestLimit := hlen ▸ h.requestLimit
  spent u := by
    rw [hlen]
    exact Nat.le_trans (Nat.add_le_add_left (hle u) _) (h.spent u)

theorem Db.Budget.addChatMessage {m : ChatMessageRow} (hlim : db.nextMessageId < idLimit) :
    (db.addChatMessage m).Budget where
  messageIds := by simpa [Db.addChatMessage] using h.messageIds
  messageLimit := by
    have := h.messageIds
    simp only [Db.addChatMessage, List.length_append, List.length_singleton]
    omega
  requestIds := h.requestIds
  requestLimit := h.requestLimit
  spent u := by
    have := h.spent u
    rw [pendingMessages_add]
    simp only [Db.addChatMessage, List.length_append, List.length_singleton]
    show db.lastEventSeq u + _ + db.pendingRequestsOf u ≤ _
    split <;> omega

theorem Db.Budget.setPendingMessage (id : Int) {st : MessageStatus} (hst : st ≠ .pending) :
    (db.setPendingMessage id st).Budget where
  messageIds := by simpa [Db.setPendingMessage] using h.messageIds
  messageLimit := by simpa [Db.setPendingMessage] using h.messageLimit
  requestIds := h.requestIds
  requestLimit := h.requestLimit
  spent u := by
    have hle := pendingMessages_set_le db id hst
    have hu := h.spent u
    simp only [Db.setPendingMessage, Table.length_update]
    show db.lastEventSeq u + (db.setPendingMessage id st).pendingMessages +
      db.pendingRequestsOf u ≤ _
    omega

/-- **The budget is kept**, case by case: what a change spends it has paid. -/
theorem Db.Budget.change {db' : Db} (hc : Change db db') : db'.Budget := by
  cases hc with
  | skipIds u t m r =>
    exact { h with
      messageIds := Nat.lt_add_right _ h.messageIds
      requestIds := Nat.lt_add_right _ h.requestIds }
  | newUser u hid hseq hu =>
    refine { h with spent := fun v => ?_ }
    rw [lastEventSeq_addUser hseq]
    exact h.spent v
  | newAvatar userId key =>
    refine { h with spent := fun v => ?_ }
    rw [lastEventSeq_setAvatarKey]
    exact h.spent v
  | newChat pc hid hlim hpc hnew | newFriendship f hf hnew => exact { h with }
  | apply r hid hr hs ht =>
    refine (h.addFriendRequest hr.1 hs).notify hr.2.2.2.1 _ ?_
    -- the target is not the requester, so the request is not pending on its account
    have := h.spent r.targetUserId
    rw [pendingRequestsOf_add db hs, if_neg hr.2.1]
    simp only [Db.addFriendRequest, List.length_append, List.length_singleton]
    show db.lastEventSeq _ + db.pendingMessages + _ < _
    omega
  | accept r hr hs pc hpc hlo hhi hu =>
    rw [hlo, hhi]
    refine Db.Budget.notify (h.setRequests (Table.length_update _) fun u =>
      pendingRequestsOf_accept_le db _ _ _ u) hu _ ?_
    have hlt := pendingRequestsOf_accept_lt hr hs pc.threadId
    have := h.spent r.requesterUserId
    simp only [Table.length_update]
    show db.lastEventSeq _ + db.pendingMessages + (db.acceptRequests _ _ _).pendingRequestsOf _ < _
    omega
  | reject r hr hs hu =>
    refine Db.Budget.notify (h.setRequests (Table.length_update _) fun u =>
      pendingRequestsOf_reject_le db _ u) hu _ ?_
    have hlt := pendingRequestsOf_reject_lt hr hs
    have := h.spent r.requesterUserId
    simp only [Table.length_update]
    show db.lastEventSeq _ + db.pendingMessages + (db.rejectRequest _).pendingRequestsOf _ < _
    omega
  | storeText m pc hm hs hu =>
    refine (h.addChatMessage hm.admitted.1).notify hu _ ?_
    have := h.spent (pc.other m.senderUserId)
    rw [pendingMessages_add, if_neg (by rw [hs]; decide)]
    simp only [Db.addChatMessage, List.length_append, List.length_singleton]
    show db.lastEventSeq _ + _ + db.pendingRequestsOf _ < _
    omega
  | storeResource m pc hm hs r hr hadm => exact { h.addChatMessage hm.admitted.1 with }
  | publish m hm hs pc hpc hu =>
    refine (h.setPendingMessage _ (by decide)).notify hu _ ?_
    have hlt : (db.setPendingMessage m.messageId .published).pendingMessages < db.pendingMessages :=
      pendingMessages_set_lt (List.mem_of_find?_eq_some hm) hs (by decide)
    have := h.spent (pc.other m.senderUserId)
    simp only [Db.setPendingMessage, Table.length_update]
    show db.lastEventSeq _ + (db.setPendingMessage _ _).pendingMessages + db.pendingRequestsOf _ < _
    omega
  | fail id => exact h.setPendingMessage id (by decide)

end Budget

/-! ### The numbers have no gaps -/

theorem nextEventSeq_eq (h : db.Budget) (u : Int) : db.nextEventSeq u = db.lastEventSeq u + 1 := by
  have hs := h.spent u
  have hm := h.messageLimit
  have hr := h.requestLimit
  unfold idLimit at hm hr
  exact u64_of_lt (by omega)

theorem numbered_empty : Db.Numbered .empty := ⟨fun _ => rfl, fun _ => rfl⟩

theorem journal_eq_of_sameLogs (h : SameLogs db db') : db'.journal = db.journal := by
  unfold Db.journal Db.eventsOf
  rw [h.1]

theorem eventsOf_appends {row : Nat → UserEventRow} (h : Appends db db' r row) (u : Int) :
    db'.eventsOf u = db.eventsOf u ++ if u = r then [row (db.nextEventSeq r)] else [] := by
  rw [Db.eventsOf, h.userEvents, List.filter_append, List.filter_singleton, h.recipient,
    Bool.cond_decide]
  simp only [eq_comm, Db.eventsOf]

theorem journal_appends {row : Nat → UserEventRow} (h : Appends db db' r row) :
    db'.journal = db.journal.append r (row (db.nextEventSeq r)).note := by
  funext u
  rw [Db.journal, eventsOf_appends h, Journal.append, Function.update_apply]
  split
  · rename_i hur
    rw [hur, List.map_append]
    rfl
  · rw [List.append_nil]
    rfl

/-- **A change refines the journal.**  It leaves the journal alone or appends
one note to it, and the numbers go on being the positions. -/
theorem Change.journal (hb : db.Budget) (hn : db.Numbered) (h : Change db db') :
    db'.Numbered ∧ (db'.journal = db.journal ∨ ∃ u n, db'.journal = db.journal.append u n) := by
  rcases h.logs with hsame | ⟨r, row, happ⟩
  · have hj := journal_eq_of_sameLogs hsame
    refine ⟨⟨fun u => ?_, fun u => ?_⟩, .inl hj⟩
    · rw [hj, ← hn.eventSeqs u, Db.eventSeqs, Db.eventsOf, hsame.1]
      rfl
    · rw [hj, hsame.2, hn.lastEventSeq]
  · have hnext : db.nextEventSeq r = (db.journal r).length + 1 := by
      rw [nextEventSeq_eq hb, hn.lastEventSeq]
    have hlen : ∀ u, (db'.journal u).length = (db.journal u).length + if u = r then 1 else 0 := by
      intro u
      unfold Db.journal
      rw [eventsOf_appends happ]
      split <;> simp
    refine ⟨⟨fun u => ?_, fun u => ?_⟩, .inr ⟨_, _, journal_appends happ⟩⟩
    · have hu := hn.eventSeqs u
      unfold Db.eventSeqs at hu ⊢
      rw [eventsOf_appends happ, hlen, List.map_append, hu]
      split
      · rename_i hur
        rw [List.map_singleton, happ.eventSeq, hnext, hur, List.range'_concat, Nat.one_mul,
          Nat.add_comm 1]
      · rw [List.map_nil, List.append_nil, Nat.add_zero]
    · rw [happ.lastEventSeq, hlen]
      split
      · rename_i hur
        rw [hnext, hur]
      · rw [hn.lastEventSeq, Nat.add_zero]

/-- The invariant of the log, along any number of changes. -/
theorem Changes.numbered (h : Changes db db') (hdb : db.Budget ∧ db.Numbered) :
    db'.Budget ∧ db'.Numbered :=
  h.invariant (P := fun db => db.Budget ∧ db.Numbered)
    (fun _ _ hi hc => ⟨hi.1.change hc, (hc.journal hi.1 hi.2).1⟩) hdb

theorem Reachable.numbered {s : Sys} (h : Reachable s) : s.db.Budget ∧ s.db.Numbered :=
  Changes.numbered (Steps.changes h) ⟨budget_empty, numbered_empty⟩

/-- Rows of a log are only added. -/
theorem Changes.eventsOf (h : Changes db db') (u : Int) : db.eventsOf u <+: db'.eventsOf u := by
  induction h with
  | refl => exact List.prefix_rfl
  | tail _ hc ih =>
    rcases hc.logs with hsame | ⟨r, row, happ⟩
    · rwa [Db.eventsOf, Db.eventsOf, hsame.1]
    · rw [eventsOf_appends happ]
      exact ih.trans (List.prefix_append _ _)

/-! ### Operations that store nothing -/

/-- The four operations that record events. -/
def Call.RecordsEvents : Call → Prop
  | .addFriendApply .. | .handleFriendApply .. | .addChatMsg .. | .completeResourceUpload .. => True
  | _ => False

/-- The turn returned `Stored`, or `Published` by this very call. -/
def Outcome.storesEvent : Outcome → Bool
  | .returned (.friendApply .stored _) => true
  | .returned (.friendHandled .stored _) => true
  | .returned (.saved .stored _) => true
  | .returned (.publish .published _) => true
  | _ => false

/-- With these faults, an exception in the call's transaction means that the
transaction was rolled back. -/
def Call.RolledBackOnThrow (db : Db) (faults : Option (List (Fault SqlError))) : Call → Prop
  | .addFriendApply requester target message key now =>
    Txn.RolledBackOnThrow (addFriendApplyTransaction requester target message key now) db none
      (faults.getD [])
  | .handleFriendApply handler id accept =>
    Txn.RolledBackOnThrow (handleFriendApplyTransaction handler id accept) db {} (faults.getD [])
  | .addChatMsg _ _ m => Txn.RolledBackOnThrow addChatMsgTransaction db m (faults.getD [])
  | .completeResourceUpload id sender =>
    Txn.RolledBackOnThrow (completeResourceUploadTransaction id sender) db 0 (faults.getD [])
  | _ => True

section Keeps

variable {μ ρ : Type} {db : Db} {o : μ} {fs : List (Fault SqlError)}

/-- The turn ends with one of the results in `stores`, or commits nothing. -/
def Keeps (db : Db) (stores : ρ → Bool) (t : Turn ρ) (s : Db) : Prop :=
  (∃ r, t = .returned r ∧ stores r = true) ∨ s = db

theorem perform_keeps {m : Sql μ (Turn ρ)} {ret : ρ → μ → Result} {again : μ → Call}
    (stores : ρ → Bool)
    (h : EndsIn (fun t s _ _ => Keeps db stores t s) (fun s _ => s = db) (m (Conn.start db o fs)))
    (hret : ∀ r o', stores r = true → (Outcome.returned (ret r o')).storesEvent = true)
    (hout : (perform m o fs db ret again).2.storesEvent = false) :
    (perform m o fs db ret again).1 = db := by
  obtain ⟨s, out, e, ⟨r, o', rfl, h'⟩ | ⟨o', rfl, h'⟩ | ⟨o', rfl, h'⟩⟩ := perform_spec ret again h
  · rw [e] at hout ⊢
    rcases h' with ⟨r', hr', hs⟩ | h'
    · cases hr'
      rw [hret r o' hs] at hout
      cases hout
    · exact h'
  · rw [e]
    rcases h' with ⟨r', hr', -⟩ | h'
    · cases hr'
    · exact h'
  · rw [e]
    exact h'

theorem withConnection_keeps {faults : Option (List (Fault SqlError))} {failure : Result}
    {run : List (Fault SqlError) → Db × Outcome}
    (h : ∀ fs, faults = some fs → (run fs).2.storesEvent = false → (run fs).1 = db)
    (hout : (withConnection faults db failure run).2.storesEvent = false) :
    (withConnection faults db failure run).1 = db := by
  cases faults with
  | none => rfl
  | some fs => exact h fs rfl hout

/-- A transaction inside its `try` block: what it returns without storing, and
what it throws, commits nothing; so does the handler. -/
theorem endsIn_keeps {body : Sql μ ρ} {stores : ρ → Bool} {Q : ρ → Db → μ → Prop}
    {E : Db → μ → Prop} {handler : SqlError → Sql μ (Turn ρ)}
    (hbody : wp body (fun r s _ o' => Q r s o') E db db o)
    (hQ : ∀ r s o', Q r s o' → stores r = true ∨ s = db)
    (hroll : Txn.RolledBackOnThrow body db o fs)
    (hhandler : ∀ e w' o', wp (handler e) (fun _ s _ _ => s = db) (fun s _ => s = db) db w' o') :
    EndsIn (fun t s _ _ => Keeps db stores t s) (fun s _ => s = db)
      (tryCatch (once body) handler (Conn.start db o fs)) := by
  have hb := (hbody fs).rolledBack hroll
  refine EndsIn.tryCatch (F := fun s _ => s = db) ?_ ?_
  · show EndsIn _ _ (Program.bind body _ _)
    unfold Program.bind
    rcases e : body (Conn.start db o fs) with ⟨e' | r, c⟩
    · rw [e] at hb
      exact hb.2
    · rw [e] at hb
      exact (hQ r _ _ hb).imp (fun h => ⟨r, rfl, h⟩) fun h => h
  · rintro e s' w' o' rfl
    exact wp_mono (hhandler e w' o') (fun _ _ _ _ h => .inr h) fun _ _ h => h

/-- `once` goes into a `try` block. -/
theorem once_tryCatch (m : Sql μ ρ) (k : SqlError → Sql μ ρ) (c : Conn Db μ SqlError) :
    once (tryCatch m k) c = tryCatch (once m) (fun e => once (k e)) c := by
  show Program.bind (Txn.tryCatch m k) _ c = Txn.tryCatch (Program.bind m _) _ c
  unfold Program.bind Txn.tryCatch
  beta_reduce
  rcases m c with ⟨e | r, c'⟩
  · rfl
  · rfl

end Keeps

theorem stores_or_same_of_friendEnds {r : FriendOperationResult} (h : FriendEnds db r s) :
    decide (r = .stored) = true ∨ s = db := by
  unfold FriendEnds at h
  split at h
  · exact .inl (decide_eq_true ‹_›)
  · exact .inr h

theorem stores_or_same_of_publishEnds {r : PublishResult} (h : PublishEnds db r s) :
    decide (r = .published) = true ∨ s = db := by
  unfold PublishEnds at h
  split at h
  · exact .inl (decide_eq_true ‹_›)
  · exact .inr h

theorem stores_or_same_of_saveEnds {m o : ChatMessage} {r : SaveMessageResult}
    (h : SaveEnds db m r s o) : decide (r = .stored) = true ∨ s = db := by
  obtain ⟨-, -, h⟩ := h
  cases r with
  | stored => exact .inl rfl
  | duplicate | conflict | failed => exact .inr h.1

theorem wp_once_rollbackWith {μ ρ : Type} {w : Db} {o : μ} (r : ρ) :
    wp (once (rollbackWith r : Sql μ ρ)) (fun _ s _ _ => s = db) (fun s _ => s = db) db w o :=
  wp_once (wp_rollbackWith rfl rfl)

/-- **A turn that stores nothing commits nothing**, provided that an exception
means a rollback. -/
theorem turn_eq_of_not_stores {c : Call} {attempt : Nat} {faults : Option (List (Fault SqlError))}
    (hc : c.RecordsEvents) (hroll : c.RolledBackOnThrow db faults)
    (hout : (c.turn attempt faults db).2.storesEvent = false) :
    (c.turn attempt faults db).1 = db := by
  cases c with
  | addFriendApply requester target message key now =>
    refine withConnection_keeps (fun fs hfs hout => ?_) hout
    subst hfs
    refine perform_keeps (fun r => decide (r = .stored)) ?_ ?_ hout
    · show EndsIn _ _ (once (if _ then _ else _) (Conn.start db none fs))
      split
      · exact .inr rfl
      · rw [once_tryCatch]
        exact endsIn_keeps wp_addFriendApplyTransaction
          (fun _ _ _ => stores_or_same_of_friendEnds) hroll fun _ _ _ => wp_once_rollbackWith _
    · rintro r o' hr
      rw [of_decide_eq_true hr]
      rfl
  | handleFriendApply handler id accept =>
    refine withConnection_keeps (fun fs hfs hout => ?_) hout
    subst hfs
    refine perform_keeps (fun r => decide (r = .stored)) ?_ ?_ hout
    · show EndsIn _ _ (once (tryCatch (handleFriendApplyTransaction handler id accept)
        fun _ => rollbackWith .failed) (Conn.start db {} fs))
      rw [once_tryCatch]
      exact endsIn_keeps wp_handleFriendApplyTransaction
        (fun _ _ _ => stores_or_same_of_friendEnds) hroll fun _ _ _ => wp_once_rollbackWith _
    · rintro r o' hr
      rw [of_decide_eq_true hr]
      rfl
  | addChatMsg caller retries m =>
    rw [turn_addChatMsg] at hout ⊢
    split
    · rfl
    · rename_i hargs
      rw [if_neg hargs] at hout
      refine perform_keeps (fun r => decide (r = .stored)) ?_ ?_ hout
      · refine endsIn_keeps (wp_addChatMsgTransaction (.refl m))
          (fun _ _ _ => stores_or_same_of_saveEnds) hroll fun e w' o' => ?_
        exact wp_tryCatch (wp_bind (wp_rollback rfl (wp_pure rfl))) fun _ _ _ _ h => wp_pure h
      · rintro r o' hr
        rw [of_decide_eq_true hr]
        rfl
  | completeResourceUpload id sender =>
    refine withConnection_keeps (fun fs hfs hout => ?_) hout
    subst hfs
    refine perform_keeps (fun r => decide (r = .published)) ?_ ?_ hout
    · refine endsIn_keeps wp_completeResourceUploadTransaction
        (fun _ _ _ => stores_or_same_of_publishEnds) hroll fun e w' o' => ?_
      exact wp_bind (wp_tryCatch (wp_bind (wp_rollback rfl (wp_query rfl (wp_pure rfl))))
        fun _ _ _ _ h => wp_pure (wp_pure h))
    · rintro r o' hr
      rw [of_decide_eq_true hr]
      rfl
  | regUser | regUserTransaction | updateHeadInfo | createPrivateChat | markResourceFailed
  | markResourceExpired =>
    exact hc.elim

/-- **The event logs have no gaps and no doubles.**  In every state that any
number of servers can bring the database into, the numbers of a user's events
are 1, 2, .., `last_event_seq`; and a turn of one of the four operations that
does not end in `Stored` or `Published` leaves every log as it was.  (A turn
that ends in a retry is such a turn, so this holds for a whole operation.) -/
theorem eventSeqs_contiguous {s : Sys} (h : Reachable s) :
    (∀ u, (s.db.eventSeqs u).Perm (List.range' 1 (s.db.lastEventSeq u))) ∧
      ∀ l a r faults, s.active = l ++ a :: r → a.current.RecordsEvents →
        a.current.RolledBackOnThrow s.db faults →
        (a.current.turn a.attempt faults s.db).2.storesEvent = false →
        SameLogs s.db (a.current.turn a.attempt faults s.db).1 := by
  obtain ⟨-, hn⟩ := h.numbered
  refine ⟨fun u => ?_, fun l a r faults _ hc hroll hout => ?_⟩
  · rw [hn.eventSeqs, hn.lastEventSeq]
  · rw [turn_eq_of_not_stores hc hroll hout]
    exact ⟨rfl, fun _ => rfl⟩

/-- Two users, a friend request, and the same request on its way once more. -/
def resentApply : Sys :=
  let apply : Call := .addFriendApply 1 2 "hello" "k1" "2026-08-30 12:00:00.000"
  { ([.regUser "ann" "ann@mail", .regUser "bob" "bob@mail", apply].foldl Sys.serve {}) with
    active := [⟨apply, apply, 0⟩] }

theorem eventSeqs_contiguous_resentApply :
    resentApply.db.eventSeqs 2 = [1] ∧
      (resentApply.db.eventSeqs 2).Perm (List.range' 1 (resentApply.db.lastEventSeq 2)) ∧
      ∀ a ∈ resentApply.active,
        SameLogs resentApply.db (a.current.turn a.attempt (some []) resentApply.db).1 := by
  have hreach : Reachable resentApply := (reachable_serve .refl _).tail (.call _)
  refine ⟨by decide, (eventSeqs_contiguous hreach).1 2, fun a ha => ?_⟩
  obtain rfl := List.mem_singleton.mp ha
  exact (eventSeqs_contiguous hreach).2 [] _ [] (some []) rfl trivial
    (rolledBackOnThrow_of_ok (a := .duplicate) (by decide)) (by decide)

end LlfcChat
