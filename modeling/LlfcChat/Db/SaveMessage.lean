/-
What one transaction of `AddChatMsg` does, in every detail its callers rely
on: the result, the message it hands back, and what is committed.
-/
import LlfcChat.Db.Refine

namespace LlfcChat

open Txn

/-! ### What a request says -/

/-- The part of a message that makes two requests with one client id equal. -/
def ChatMessage.content (m : ChatMessage) :
    Int × Int × Int × String × Option (String × Nat × String × String) :=
  (m.threadId, m.senderUserId, m.messageType, m.textContent,
    m.resource.map fun r => (r.originalFileName, r.fileSizeBytes, r.sha256, r.mimeType))

theorem sameMessage_iff (stored message : ChatMessage) :
    sameMessage stored message = true ↔ stored.content = message.content := by
  unfold sameMessage ChatMessage.content
  rcases stored.resource with - | r <;> rcases message.resource with - | q <;>
    simp [and_assoc]

/-- The message of a call may be rewritten between two attempts, but it goes
on asking for the same thing. -/
def SameRequest (m m' : ChatMessage) : Prop :=
  m'.clientMessageId = m.clientMessageId ∧ m'.content = m.content

theorem SameRequest.refl (m : ChatMessage) : SameRequest m m := ⟨rfl, rfl⟩

theorem SameRequest.trans {m₁ m₂ m₃ : ChatMessage} (h : SameRequest m₁ m₂)
    (h' : SameRequest m₂ m₃) : SameRequest m₁ m₃ := ⟨h'.1.trans h.1, h'.2.trans h.2⟩

theorem SameRequest.senderUserId {m m' : ChatMessage} (h : SameRequest m m') :
    m'.senderUserId = m.senderUserId := congrArg (fun c => c.2.1) h.2

theorem SameRequest.threadId {m m' : ChatMessage} (h : SameRequest m m') :
    m'.threadId = m.threadId := congrArg (fun c => c.1) h.2

/-! ### The specification -/

/-- The thread exists and the sender is one of its two members. -/
def Db.IsMember (db : Db) (m : ChatMessage) : Prop :=
  ∃ pc, db.privateChat m.threadId = some pc ∧
    (m.senderUserId = pc.lowerUserId ∨ m.senderUserId = pc.higherUserId)

/-- No message is stored under this client id. -/
def Db.NoMessage (db : Db) (sender : Int) (clientMessageId : String) : Prop :=
  ∀ n ∈ db.chatMessages, ¬(n.senderUserId = sender ∧ n.clientMessageId = clientMessageId)

/-- What `o` says about a message is so in the tables: the id, and the number
of the event once the message is published. -/
def Db.Reports (db : Db) (o : ChatMessage) : Prop :=
  ∃ n ∈ db.chatMessages, n.senderUserId = o.senderUserId ∧
    n.clientMessageId = o.clientMessageId ∧ n.messageId = o.messageId ∧
    (o.status = .published → n.status = .published ∧
      ∃ e ∈ db.userEvents, e.messageId = some n.messageId ∧ e.eventSeq = o.eventSeq)

/-- The stored message as a duplicate is answered with it. -/
def Db.withEventSeq (db : Db) (stored : ChatMessage) : ChatMessage :=
  if stored.status = .published then
    { stored with
      eventSeq :=
        (db.messageEvent stored.recipientUserId stored.messageType stored.messageId).elim
          stored.eventSeq (·.eventSeq) }
  else stored

/-- The end of a transaction that returned `r` and left the message `o`. -/
def SaveEnds (db : Db) (m : ChatMessage) (r : SaveMessageResult) (s : Db) (o : ChatMessage) :
    Prop :=
  SameRequest m o ∧ (r ≠ .failed → db.IsMember m) ∧
  match r with
  | .stored => Changes db s ∧ db.NoMessage m.senderUserId m.clientMessageId ∧ s.Reports o
  | .duplicate => s = db ∧ ∃ stored,
      db.messageByClientId m.senderUserId m.clientMessageId = some stored ∧
        stored.content = m.content ∧ o = db.withEventSeq stored
  | .conflict => s = db ∧ ∃ stored,
      db.messageByClientId m.senderUserId m.clientMessageId = some stored ∧
        stored.content ≠ m.content
  | .failed => s = db ∧
      (db.messageByClientId m.senderUserId m.clientMessageId = none ∨ ¬db.IsMember m)

/-- The end of a transaction that threw.  Only a new message can have been
committed by it. -/
def SaveThrows (db : Db) (m : ChatMessage) (s : Db) (o : ChatMessage) : Prop :=
  SameRequest m o ∧
    (s = db ∨ db.messageByClientId m.senderUserId m.clientMessageId = none ∧ Changes db s)

/-! ### A known client id -/

theorem messageByClientId_eq_some {db : Db} {sender : Int} {key : String} {stored : ChatMessage}
    (h : db.messageByClientId sender key = some stored) :
    ∃ n ∈ db.chatMessages, n.senderUserId = sender ∧ n.clientMessageId = key ∧
      ∃ pc, db.privateChat n.threadId = some pc ∧
        stored = readMessage n pc (db.messageResource n.messageId) := by
  simp only [Db.messageByClientId, Option.bind_eq_some_iff, Db.projectMessage,
    Option.map_eq_some_iff] at h
  obtain ⟨n, hn, pc, hpc, hs⟩ := h
  have hkey := List.find?_some hn
  simp only [decide_eq_true_eq] at hkey
  exact ⟨n, List.mem_of_find?_eq_some hn, hkey.1, hkey.2, pc, hpc, hs.symm⟩

theorem wp_answerExisting {db : Db} {m o stored : ChatMessage} (hreq : SameRequest m o)
    (hmem : db.IsMember m)
    (hst : db.messageByClientId m.senderUserId m.clientMessageId = some stored) :
    wp (answerExisting stored) (fun r s _ o' => SaveEnds db m r s o')
      (fun s o' => SaveThrows db m s o') db db o := by
  have hkey : stored.clientMessageId = m.clientMessageId := by
    obtain ⟨n, -, -, hn, pc, -, rfl⟩ := messageByClientId_eq_some hst
    exact hn
  refine wp_bind (wp_getOut (wp_ite (fun hne => ?_) fun heq => ?_))
  · have hdiff : stored.content ≠ m.content := by
      rw [← hreq.2, ne_eq, ← sameMessage_iff, hne]
      exact Bool.false_ne_true
    exact wp_rollbackWith ⟨hreq, .inl rfl⟩ ⟨hreq, fun _ => hmem, rfl, stored, hst, hdiff⟩
  · have hsame : stored.content = m.content := by
      rw [← hreq.2, ← sameMessage_iff]
      exact Bool.of_not_eq_false heq
    have hreq' : SameRequest m stored := ⟨hkey, hsame⟩
    refine wp_bind (wp_modifyOut (wp_ite (fun hpub => ?_) fun hpub => ?_))
    · refine wp_bind (wp_query ⟨hreq', .inl rfl⟩ (wp_bind (wp_modifyOut ?_)))
      refine wp_commitWith ⟨⟨hkey, hsame⟩, .inl rfl⟩ ⟨⟨hkey, hsame⟩, .inl rfl⟩
        ⟨⟨hkey, hsame⟩, fun _ => hmem, rfl, stored, hst, hsame, ?_⟩
      rw [Db.withEventSeq, if_pos hpub]
    · refine wp_commitWith ⟨hreq', .inl rfl⟩ ⟨hreq', .inl rfl⟩
        ⟨hreq', fun _ => hmem, rfl, stored, hst, hsame, ?_⟩
      rw [Db.withEventSeq, if_neg hpub]

/-! ### A new client id -/

theorem wp_storeNew {db : Db} {m o : ChatMessage} {pc : PrivateChatRow} (hreq : SameRequest m o)
    (hpc : db.privateChat m.threadId = some pc)
    (hsender : m.senderUserId = pc.lowerUserId ∨ m.senderUserId = pc.higherUserId)
    (hrec : o.recipientUserId = pc.other o.senderUserId)
    (hnone : db.messageByClientId m.senderUserId m.clientMessageId = none) :
    wp storeNew (fun r s _ o' => SaveEnds db m r s o') (fun s o' => SaveThrows db m s o')
      db db o := by
  have hmem : db.IsMember m := ⟨pc, hpc, hsender⟩
  have throws : ∀ {o'}, SameRequest m o' → SaveThrows db m db o' := fun h => ⟨h, .inl rfl⟩
  have roll : ∀ {w' : Db} {o'}, SameRequest m o' → wp (rollbackWith .failed : Sql _ _)
      (fun r s _ o' => SaveEnds db m r s o') (fun s o' => SaveThrows db m s o') db w' o' :=
    fun h => wp_rollbackWith (throws h) ⟨h, fun h => absurd rfl h, rfl, .inl hnone⟩
  refine wp_bind (wp_getOut (wp_ite (fun _ => roll hreq) fun htype => ?_))
  refine wp_bind (wp_modifyOut (wp_bind (wp_exec (throws hreq) fun a w hw => ?_)))
  obtain ⟨hadm, rfl, rfl⟩ := Db.insertRow_eq_ok hw
  have hthread : db.privateChat o.threadId = some pc := by rw [hreq.threadId]; exact hpc
  have hsender' : o.senderUserId = pc.lowerUserId ∨ o.senderUserId = pc.higherUserId := by
    rw [hreq.senderUserId]; exact hsender
  have hnew : NewMessage db { chatMessageRow o with messageId := db.nextMessageId } pc :=
    ⟨rfl, hadm, hthread, hsender'⟩
  have hfree : db.NoMessage m.senderUserId m.clientMessageId := by
    rw [← hreq.senderUserId, ← hreq.1]
    exact hadm.2.2.2.1
  refine wp_ite (fun h => absurd rfl h) fun _ => wp_bind (wp_query (throws hreq) ?_)
  refine wp_bind (wp_modifyOut (wp_ite (fun hres => ?_) fun hres => ?_))
  · -- a resource message: the row and its resource, no event yet
    have hreq' : SameRequest m
        { o with
          messageId := db.nextMessageId
          status := if o.isResource = true then .pending else .published
          resource := o.resource.map fun r => { r with messageId := db.nextMessageId } } := by
      refine ⟨hreq.1, Eq.trans ?_ hreq.2⟩
      simp [ChatMessage.content, Function.comp_def]
    refine wp_bind (wp_modifyOut (wp_bind (wp_exec (throws hreq') fun b w' hw' => ?_)))
    obtain ⟨hadm', rfl, rfl⟩ := Db.insertRow_eq_ok hw'
    have hstat : (chatMessageRow o).status = .pending := if_pos hres
    have change : Changes db _ := .single (.storeResource _ pc hnew hstat _ rfl hadm')
    refine wp_ite (fun h => absurd rfl h) fun _ => wp_commitWith (throws hreq')
      ⟨hreq', .inr ⟨hnone, change⟩⟩ ⟨hreq', fun _ => hmem, change, hfree, ?_⟩
    refine ⟨_, List.mem_append_right _ (List.mem_singleton_self _), rfl, rfl, rfl, fun hp => ?_⟩
    rw [if_pos hres] at hp
    cases hp
  · -- a text: the row and the event of the recipient
    rw [hrec]
    have hstat : (chatMessageRow o).status = .published := if_neg hres
    refine wp_bind (wp_recordEvent (fun o' h => throws ?_) (fun _ o' h => roll ?_) fun hu => ?_)
    · rcases h with rfl | rfl <;> exact ⟨hreq.1, hreq.2⟩
    · rcases h with rfl | rfl <;> exact ⟨hreq.1, hreq.2⟩
    have change : Changes db _ := .single (.storeText _ pc hnew hstat hu)
    refine wp_commitWith (throws ⟨hreq.1, hreq.2⟩) ⟨⟨hreq.1, hreq.2⟩, .inr ⟨hnone, change⟩⟩
      ⟨⟨hreq.1, hreq.2⟩, fun _ => hmem, change, hfree, ?_⟩
    exact ⟨_, List.mem_append_right _ (List.mem_singleton_self _), rfl, rfl, rfl, fun _ =>
      ⟨hstat, _, List.mem_append_right _ (List.mem_singleton_self _), rfl, rfl⟩⟩

/-- **One transaction of `AddChatMsg`.** -/
theorem wp_addChatMsgTransaction {db : Db} {m o : ChatMessage} (hreq : SameRequest m o) :
    wp addChatMsgTransaction (fun r s _ o' => SaveEnds db m r s o')
      (fun s o' => SaveThrows db m s o') db db o := by
  have throws : ∀ {o'}, SameRequest m o' → SaveThrows db m db o' := fun h => ⟨h, .inl rfl⟩
  have roll : ∀ {o'}, SameRequest m o' → ¬db.IsMember m → wp (rollbackWith .failed : Sql _ _)
      (fun r s _ o' => SaveEnds db m r s o') (fun s o' => SaveThrows db m s o') db db o' :=
    fun h hm => wp_rollbackWith (throws h) ⟨h, fun h => absurd rfl h, rfl, .inr hm⟩
  refine wp_bind
    (wp_query (throws hreq) (wp_bind (wp_getOut (wp_bind (wp_query (throws hreq) ?_)))))
  rw [hreq.threadId]
  rcases hpc : db.privateChat m.threadId with - | pc
  · refine roll hreq ?_
    rintro ⟨pc, hpc', -⟩
    rw [hpc] at hpc'
    cases hpc'
  refine wp_ite (fun hno => roll hreq ?_) fun hyes => ?_
  · rintro ⟨pc', hpc', hsender⟩
    rw [hpc] at hpc'
    cases hpc'
    rw [hreq.senderUserId] at hno
    exact hsender.elim hno.1 hno.2
  have hsender : m.senderUserId = pc.lowerUserId ∨ m.senderUserId = pc.higherUserId := by
    rw [hreq.senderUserId] at hyes
    exact Decidable.or_iff_not_not_and_not.mpr hyes
  refine wp_bind (wp_modifyOut (wp_bind (wp_query (throws ⟨hreq.1, hreq.2⟩) ?_)))
  rcases hst : db.messageByClientId o.senderUserId o.clientMessageId with - | stored <;>
    rw [hreq.senderUserId, hreq.1] at hst
  · refine wp_storeNew ⟨hreq.1, hreq.2⟩ hpc hsender ?_ hst
    simp only [PrivateChatRow.other, eq_comm]
  · exact wp_answerExisting ⟨hreq.1, hreq.2⟩ ⟨pc, hpc, hsender⟩ hst

end LlfcChat
