/-
What the transactions do to resource messages: their rows stay as they are but
for the status, and the one call that publishes a picture or a file is
`CompleteResourceUpload`, and of the message it is called for.
-/
import LlfcChat.Db.ExactlyOnce

namespace LlfcChat

open Txn

variable {μ ρ : Type}

/-! ### Statements on the other tables -/

/-- The statement leaves `chat_messages` alone. -/
def SparesMessages {α : Type} (f : Db → Except SqlError (α × Db)) : Prop :=
  ∀ db a db', f db = .ok (a, db') → db'.chatMessages = db.chatMessages

theorem sparesMessages_insertRow {admitted : Db → Prop} [∀ db, Decidable (admitted db)]
    {id : Db → Int} {after : Db → Db} (h : ∀ db, (after db).chatMessages = db.chatMessages) :
    SparesMessages fun db => Db.insertRow (admitted db) (id db) (after db) := by
  intro db a db' hok
  obtain ⟨-, -, rfl⟩ := Db.insertRow_eq_ok hok
  exact h db

theorem sparesMessages_ok {α : Type} {result : Db → α} {after : Db → Db}
    (h : ∀ db, (after db).chatMessages = db.chatMessages) :
    SparesMessages fun db => .ok (result db, after db) := by
  intro db a db' hok
  simp only [Except.ok.injEq, Prod.mk.injEq] at hok
  exact hok.2 ▸ h db

theorem sparesMessages_insertPrivateChat (lower higher : Int) :
    SparesMessages (Db.insertPrivateChat lower higher) := by
  intro db a db' hok
  unfold Db.insertPrivateChat at hok
  split at hok
  · simp only [Except.ok.injEq, Prod.mk.injEq] at hok
    rw [hok.2]
  · obtain ⟨-, -, rfl⟩ := Db.insertRow_eq_ok hok
    rfl

theorem sparesMessages_insertIgnoreFriendship (lower higher : Int) :
    SparesMessages (Db.insertIgnoreFriendship lower higher) := by
  intro db a db' hok
  unfold Db.insertIgnoreFriendship at hok
  split at hok <;> simp only [Except.ok.injEq, Prod.mk.injEq] at hok <;> exact hok.2 ▸ rfl

/-! ### Programs that leave the messages alone -/

section Spares

variable {P : Db → Prop} (hP : ∀ {db db' : Db}, db'.chatMessages = db.chatMessages → P db → P db')
include hP

theorem inv_exec_spares {α : Type} {f : Db → Except SqlError (α × Db)} (h : SparesMessages f) :
    Inv P (exec f : Sql μ α) :=
  inv_exec fun w a w' hw hf => hP (h w a w' hf) hw

theorem inv_autoExec_spares {α : Type} {f : Db → Except SqlError (α × Db)}
    (h : SparesMessages f) : Inv P (autoExec f : Sql μ α) :=
  inv_autoExec fun w a w' hw hf => hP (h w a w' hf) hw

theorem inv_recordEvent (recipient : Int) (row : Nat → UserEventRow) (assign : Nat → μ → μ) :
    Inv P (recordEvent recipient row assign) := by
  refine inv_bind (inv_bind (inv_query _) fun u => ?_) fun seq => ?_
  · cases u with
    | none => exact inv_pure _
    | some u =>
      exact inv_bind (inv_modifyOut _) fun _ =>
        inv_bind (inv_exec_spares hP (sparesMessages_ok fun _ => rfl)) fun _ => inv_pure _
  · cases seq with
    | none => exact inv_pure _
    | some seq =>
      exact inv_bind (inv_bind (inv_exec_spares hP (sparesMessages_insertRow fun _ => rfl))
        fun _ => inv_pure _) fun _ => inv_pure _

theorem inv_addFriendApply (requester target : Int) (message key now : String) :
    Inv P (addFriendApply requester target message key now) := by
  have hinsert : Inv P (insertFriendApply requester target message key now) := by
    refine inv_bind (inv_exec_spares hP (sparesMessages_insertRow fun _ => rfl)) fun a => ?_
    refine inv_guard <| inv_bind (inv_query _) fun id => ?_
    refine inv_guard <|
      inv_bind (inv_recordEvent hP _ _ _) fun seq => ?_
    cases seq with
    | none => exact inv_rollbackWith _
    | some seq =>
      refine inv_bind (inv_query _) fun r => ?_
      cases r with
      | none => exact inv_rollbackWith _
      | some r => exact inv_bind (inv_modifyOut _) fun _ => inv_commitWith _
  refine inv_bind (inv_modifyOut _) fun _ => inv_ite (fun _ => inv_pure _) fun _ =>
    inv_tryCatch ?_ fun _ => inv_rollbackWith _
  refine inv_bind (inv_query _) fun _ => inv_bind (inv_query _) fun _ =>
    inv_guard <| inv_bind (inv_query _) fun _ =>
    inv_guard <| inv_bind (inv_query _) fun _ =>
    inv_guard <| inv_bind (inv_query _) fun r => ?_
  cases r with
  | some r => exact inv_bind (inv_modifyOut _) fun _ => inv_commitWith _
  | none =>
    refine inv_bind (inv_query _) fun r => ?_
    cases r with
    | some r => exact inv_bind (inv_modifyOut _) fun _ => inv_commitWith _
    | none => exact hinsert

theorem inv_handleFriendApply (handler id : Int) (accept : Bool) :
    Inv P (handleFriendApply handler id accept) := by
  have hnotify : ∀ requester eventType, Inv P (notifyRequester requester eventType id) := by
    intro requester eventType
    refine inv_bind (inv_recordEvent hP _ _ _) fun seq => ?_
    cases seq with
    | none => exact inv_rollbackWith _
    | some seq => exact inv_bind (inv_modifyOut _) fun _ => inv_commitWith _
  refine inv_bind (inv_modifyOut _) fun _ => inv_tryCatch ?_ fun _ => inv_rollbackWith _
  refine inv_bind (inv_query _) fun _ => inv_bind (inv_query _) fun r => ?_
  cases r with
  | none => exact inv_rollbackWith _
  | some r =>
    refine inv_bind (inv_modifyOut _) fun _ => inv_guard <|
      inv_bind (inv_modifyOut _) fun _ =>
      inv_ite (fun _ => inv_bind (inv_modifyOut _) fun _ => inv_commitWith _) fun _ =>
      inv_ite (fun _ => ?_) fun _ => ?_
    · refine inv_bind (inv_exec_spares hP (sparesMessages_insertPrivateChat _ _)) fun _ =>
        inv_bind (inv_query _) fun _ => inv_bind (inv_modifyOut _) fun _ =>
        inv_guard <| ?_
      exact inv_bind (inv_exec_spares hP (sparesMessages_insertIgnoreFriendship _ _)) fun _ =>
        inv_bind (inv_exec_spares hP (sparesMessages_ok fun _ => rfl)) fun _ =>
        inv_bind (inv_modifyOut _) fun _ => hnotify _ _
    · exact inv_bind (inv_exec_spares hP (sparesMessages_ok fun _ => rfl)) fun _ =>
        inv_guard <|
        inv_bind (inv_modifyOut _) fun _ => hnotify _ _

theorem inv_createPrivateChat (requester target : Int) :
    Inv P (createPrivateChat requester target) := by
  refine inv_bind (inv_modifyOut _) fun _ => inv_ite (fun _ => inv_pure _) fun _ =>
    inv_tryCatch ?_ fun _ => inv_pure _
  exact inv_bind (inv_autoExec_spares hP (sparesMessages_insertPrivateChat _ _)) fun _ =>
    inv_bind (inv_query _) fun _ => inv_bind (inv_modifyOut _) fun _ => inv_pure _

theorem inv_regUser (name email : String) : Inv P (regUser name email) :=
  inv_tryCatch
    (inv_bind (inv_autoExec_spares hP (sparesMessages_insertRow fun _ => rfl)) fun _ =>
      inv_ite (fun _ => inv_pure _) fun _ => inv_query _)
    fun _ => inv_pure _

theorem inv_regUserTransaction (name email icon : String) :
    Inv P (regUserTransaction name email icon) := by
  refine inv_tryCatch ?_ fun _ => inv_rollbackWith _
  refine inv_bind (inv_query _) fun _ => inv_bind (inv_query _) fun _ => inv_guard <| ?_
  refine inv_bind (inv_query _) fun _ => inv_guard <| ?_
  exact inv_bind (inv_exec_spares hP (sparesMessages_insertRow fun _ => rfl)) fun _ =>
    inv_bind (inv_query _) fun _ => inv_commitWith _

theorem inv_updateHeadInfo (userId : Int) (avatarKey : String) :
    Inv P (updateHeadInfo userId avatarKey) :=
  inv_tryCatch (inv_bind (inv_autoExec_spares hP (sparesMessages_ok fun _ => rfl)) fun _ =>
    inv_pure _) fun _ => inv_pure _

/-- `AddChatMsg` inserts one message. -/
theorem inv_addChatMsgTurn (retries attempt : Nat)
    (hnew : ∀ m db db' a, P db → db.insertChatMessage (chatMessageRow m) = .ok (a, db') → P db') :
    Inv P (addChatMsgTurn retries attempt) := by
  have hstore : Inv P storeNew := by
    refine inv_bind inv_getOut fun m => inv_guard <|
      inv_bind (inv_modifyOut _) fun _ =>
      inv_bind (inv_exec fun w a w' hw hf => hnew m w w' a hw hf) fun _ =>
      inv_guard <| inv_bind (inv_query _) fun _ =>
      inv_bind (inv_modifyOut _) fun _ => inv_ite (fun _ => ?_) fun _ => ?_
    · exact inv_bind (inv_modifyOut _) fun _ =>
        inv_bind (inv_exec_spares hP (sparesMessages_insertRow fun _ => rfl)) fun _ =>
        inv_guard <| inv_commitWith _
    · refine inv_bind (inv_recordEvent hP _ _ _) fun seq => ?_
      cases seq with
      | none => exact inv_rollbackWith _
      | some seq => exact inv_commitWith _
  have hexisting : ∀ stored, Inv P (answerExisting stored) := fun stored =>
    inv_bind inv_getOut fun _ => inv_guard <|
      inv_bind (inv_modifyOut _) fun _ =>
      inv_ite (fun _ => inv_bind (inv_query _) fun _ => inv_bind (inv_modifyOut _) fun _ =>
        inv_commitWith _) fun _ => inv_commitWith _
  have htransaction : Inv P addChatMsgTransaction := by
    refine inv_bind (inv_query _) fun _ => inv_bind inv_getOut fun _ =>
      inv_bind (inv_query _) fun pc => ?_
    cases pc with
    | none => exact inv_rollbackWith _
    | some pc =>
      refine inv_guard <|
        inv_bind (inv_modifyOut _) fun _ => inv_bind (inv_query _) fun stored => ?_
      cases stored with
      | some stored => exact hexisting stored
      | none => exact hstore
  exact inv_tryCatch (inv_bind htransaction fun _ => inv_pure _) fun _ =>
    inv_tryCatch (inv_bind inv_rollback fun _ => inv_pure _) fun _ => inv_pure _

/-- `CompleteResourceUpload` publishes one message. -/
theorem inv_completeResourceUploadTurn (id sender : Int) (attempt : Nat)
    (hpub : ∀ db db' a, P db → db.updatePendingMessage id .published = .ok (a, db') → P db') :
    Inv P (completeResourceUploadTurn id sender attempt) := by
  have hroll : ∀ r, Inv P (finishRollback r) := fun r =>
    inv_bind inv_rollback fun _ => inv_bind (inv_query _) fun _ => inv_pure _
  have hcommit : ∀ r, Inv P (finishCommit r) := fun r =>
    inv_bind inv_commit fun _ => inv_bind (inv_query _) fun _ => inv_pure _
  have hpending : ∀ row, Inv P (publishPending id row) := by
    intro row
    refine inv_bind (inv_query _) fun u => ?_
    cases u with
    | none => exact hroll _
    | some u =>
      exact inv_bind (inv_modifyOut _) fun _ =>
        inv_bind (inv_exec_spares hP (sparesMessages_ok fun _ => rfl)) fun _ =>
        inv_ite (fun _ => hroll _) fun _ =>
        inv_bind (inv_exec fun w a w' hw hf => hpub w w' a hw hf) fun _ =>
        inv_ite (fun _ => hroll _) fun _ =>
        inv_bind (inv_exec_spares hP (sparesMessages_insertRow fun _ => rfl)) fun _ =>
        inv_ite (fun _ => hroll _) fun _ => hcommit _
  have htransaction : Inv P (completeResourceUploadTransaction id sender) := by
    refine inv_bind (inv_query _) fun _ => inv_bind (inv_query _) fun row => ?_
    cases row with
    | none => exact hroll _
    | some row =>
      refine inv_ite (fun _ => hroll _) fun _ => inv_ite (fun _ => hroll _) fun _ =>
        inv_ite (fun _ => inv_bind (inv_query _) fun e => ?_) fun _ =>
        inv_ite (fun _ => hroll _) fun _ => hpending _
      cases e with
      | none => exact hroll _
      | some e => exact inv_bind (inv_modifyOut _) fun _ => hcommit _
  exact inv_bind (inv_modifyOut _) fun _ =>
    inv_tryCatch (inv_bind htransaction fun _ => inv_pure _) fun _ =>
    inv_bind (inv_tryCatch (inv_bind inv_rollback fun _ => inv_query _) fun _ =>
      inv_pure _) fun _ => inv_pure _

end Spares

section Fails

variable {P : Db → Prop}
  (hfail : ∀ id db db' a, P db → db.updatePendingMessage id .failed = .ok (a, db') → P db')
include hfail

theorem inv_markResourceFailed (id : Int) : Inv P (markResourceFailed id) :=
  inv_tryCatch (inv_bind (inv_autoExec fun w a w' hw hf => hfail id w w' a hw hf) fun _ =>
    inv_pure _) fun _ => inv_pure _

theorem inv_markResourceExpired (ids : List Int) : Inv P (markResourceExpired ids) := by
  have hall : Inv P (expireAll ids) := by
    induction ids with
    | nil => exact inv_pure _
    | cons id ids ih =>
      exact inv_bind (inv_exec fun w a w' hw hf => hfail id w w' a hw hf) fun _ => ih
  exact inv_ite (fun _ => inv_pure _) fun _ => inv_tryCatch
    (inv_bind (inv_query _) fun _ => inv_bind hall fun _ => inv_bind inv_commit fun _ =>
      inv_bind (inv_query _) fun _ => inv_pure _) fun _ =>
    inv_bind (inv_tryCatch (inv_bind inv_rollback fun _ => inv_query _) fun _ =>
      inv_pure _) fun _ => inv_pure _

end Fails

/-! ### Turns -/

variable {msg : ChatMessage} {m : ChatMessageRow} {db db' : Db} {P : Db → Prop} {id : Int}
  {r : MessageResource}

theorem perform_of_inv {m : Sql μ (Turn ρ)} {o : μ} {fs : List (Fault SqlError)}
    {ret : ρ → μ → Result} {again : μ → Call} (h : Inv P m) (hdb : P db) :
    P (perform m o fs db ret again).1 := by
  have hend := (h (Conn.start db o fs) hdb hdb).1
  unfold perform
  rcases e : m (Conn.start db o fs) with ⟨r | t, c⟩
  · rw [e] at hend
    exact hend
  · rw [e] at hend
    cases t with
    | returned r | retry => exact hend

theorem inv_once {m : Sql μ ρ} (h : Inv P m) : Inv P (once m) :=
  inv_bind h fun _ => inv_pure _

theorem withConnection_of_inv {faults : Option (List (Fault SqlError))} {failure : Result}
    {run : List (Fault SqlError) → Db × Outcome} (hdb : P db) (h : ∀ fs, P (run fs).1) :
    P (withConnection faults db failure run).1 := by
  cases faults with
  | none => exact hdb
  | some fs => exact h fs

/-- What a turn keeps, from what the statements on `chat_messages` keep. -/
theorem turn_inv (hP : ∀ {db db' : Db}, db'.chatMessages = db.chatMessages → P db → P db')
    (hnew : ∀ m db db' a, P db → db.insertChatMessage (chatMessageRow m) = .ok (a, db') → P db')
    (hfail : ∀ id db db' a, P db → db.updatePendingMessage id .failed = .ok (a, db') → P db')
    (c : Call) (hpub : ∀ id sender, c = .completeResourceUpload id sender → ∀ db db' a, P db →
      db.updatePendingMessage id .published = .ok (a, db') → P db') (attempt : Nat)
    (faults : Option (List (Fault SqlError))) (hdb : P db) :
    P (c.turn attempt faults db).1 := by
  cases c with
  | regUser name email =>
    exact withConnection_of_inv hdb fun _ =>
      perform_of_inv (inv_once (inv_regUser hP _ _)) hdb
  | regUserTransaction name email icon =>
    exact withConnection_of_inv hdb fun _ =>
      perform_of_inv (inv_once (inv_regUserTransaction hP _ _ _)) hdb
  | updateHeadInfo userId avatarKey =>
    exact withConnection_of_inv hdb fun _ =>
      perform_of_inv (inv_once (inv_updateHeadInfo hP _ _)) hdb
  | createPrivateChat requester target =>
    exact withConnection_of_inv hdb fun _ =>
      perform_of_inv (inv_once (inv_createPrivateChat hP _ _)) hdb
  | addFriendApply requester target message key now =>
    exact withConnection_of_inv hdb fun _ =>
      perform_of_inv (inv_once (inv_addFriendApply hP _ _ _ _ _)) hdb
  | handleFriendApply handler id accept =>
    exact withConnection_of_inv hdb fun _ =>
      perform_of_inv (inv_once (inv_handleFriendApply hP _ _ _)) hdb
  | addChatMsg caller retries m =>
    rw [turn_addChatMsg]
    split
    · exact hdb
    · exact perform_of_inv (inv_addChatMsgTurn hP _ _ hnew) hdb
  | completeResourceUpload id sender =>
    exact withConnection_of_inv hdb fun _ =>
      perform_of_inv (inv_completeResourceUploadTurn hP _ _ _ (hpub id sender rfl)) hdb
  | markResourceFailed id =>
    exact withConnection_of_inv hdb fun _ =>
      perform_of_inv (inv_once (inv_markResourceFailed hfail _)) hdb
  | markResourceExpired items =>
    exact withConnection_of_inv hdb fun _ =>
      perform_of_inv (inv_once (inv_markResourceExpired hfail _)) hdb

/-! ### Who publishes -/

/-- A picture or a file that is published. -/
def Db.PublishedResource (db : Db) (m : ChatMessageRow) : Prop :=
  m ∈ db.chatMessages ∧ m.status = .published ∧
    (m.messageType = chatMsgPic ∨ m.messageType = chatMsgFile)

/-- The message a call may publish. -/
def Call.publishes : Call → Option Int
  | .completeResourceUpload id _ => some id
  | _ => none

/-- **Only `CompleteResourceUpload` publishes a picture or a file**, and only
the one it is called for. -/
theorem turn_publishes (c : Call) (attempt : Nat) (faults : Option (List (Fault SqlError)))
    (db : Db) (h : (c.turn attempt faults db).1.PublishedResource m) :
    db.PublishedResource m ∨ c.publishes = some m.messageId := by
  refine turn_inv (P := fun s => ∀ n, s.PublishedResource n →
    db.PublishedResource n ∨ c.publishes = some n.messageId) ?_ ?_ ?_ c ?_ attempt faults
    (fun _ => .inl) m h
  · intro s s' hs hP n hn
    exact hP n ⟨hs ▸ hn.1, hn.2⟩
  · -- a new picture or file is pending
    intro r s s' a hP hok n ⟨hn, hs, htype⟩
    obtain ⟨-, -, rfl⟩ := Db.insertRow_eq_ok hok
    rcases List.mem_append.mp hn with hn | hn
    · exact hP n ⟨hn, hs, htype⟩
    · obtain rfl := List.mem_singleton.mp hn
      have hres : r.isResource = true := decide_eq_true htype
      simp only [chatMessageRow, hres, if_true] at hs
      cases hs
  · intro id s s' a hP hok n ⟨hn, hs, htype⟩
    simp only [Db.updatePendingMessage, Except.ok.injEq, Prod.mk.injEq] at hok
    rw [← hok.2, mem_setPendingMessage] at hn
    rcases hn with ⟨r, -, -, -, rfl⟩ | ⟨hn, -⟩
    · cases hs
    · exact hP n ⟨hn, hs, htype⟩
  · rintro id sender rfl s s' a hP hok n ⟨hn, hs, htype⟩
    simp only [Db.updatePendingMessage, Except.ok.injEq, Prod.mk.injEq] at hok
    rw [← hok.2, mem_setPendingMessage] at hn
    rcases hn with ⟨r, -, hid, -, rfl⟩ | ⟨hn, -⟩
    · exact .inr (congrArg some hid.symm)
    · exact hP n ⟨hn, hs, htype⟩

/-! ### Rows that stay -/

theorem Change.appends (h : Change db db') :
    (∃ rs, db'.messageResources = db.messageResources ++ rs) ∧
      (∃ cs, db'.privateChats = db.privateChats ++ cs) ∧
      ∃ es, db'.userEvents = db.userEvents ++ es := by
  have same : ∀ {α : Type} {l : List α}, ∃ l', l = l ++ l' := ⟨[], (List.append_nil _).symm⟩
  cases h with
  | newChat pc hid hlim hpc hnew => exact ⟨same, ⟨[pc], rfl⟩, same⟩
  | apply r hid hr hs ht => exact ⟨same, same, ⟨[_], rfl⟩⟩
  | accept r hr hs pc hpc hlo hhi hu => exact ⟨same, same, ⟨[_], rfl⟩⟩
  | reject r hr hs hu => exact ⟨same, same, ⟨[_], rfl⟩⟩
  | storeText m pc hm hs hu => exact ⟨same, same, ⟨[_], rfl⟩⟩
  | storeResource m pc hm hs r hr hadm => exact ⟨⟨[r], rfl⟩, same, same⟩
  | publish m hm hs pc hpc hu => exact ⟨same, same, ⟨[_], rfl⟩⟩
  | _ => exact ⟨same, same, same⟩

/-- What is found in these tables is found for ever. -/
theorem Changes.keepsFound (h : Changes db db') :
    (∀ {p : MessageResource → Bool} {r}, db.messageResources.find? p = some r →
      db'.messageResources.find? p = some r) ∧
    (∀ {p : PrivateChatRow → Bool} {pc}, db.privateChats.find? p = some pc →
      db'.privateChats.find? p = some pc) ∧
    ∀ {p : UserEventRow → Bool} {e}, db.userEvents.find? p = some e →
      db'.userEvents.find? p = some e := by
  induction h with
  | refl => exact ⟨id, id, id⟩
  | tail _ hc ih =>
    obtain ⟨⟨rs, hrs⟩, ⟨cs, hcs⟩, ⟨es, hes⟩⟩ := hc.appends
    rw [hrs, hcs, hes]
    refine ⟨fun hr => ?_, fun hpc => ?_, fun he => ?_⟩
    · exact Table.find?_append_of_some (ih.1 hr) rs
    · exact Table.find?_append_of_some (ih.2.1 hpc) cs
    · exact Table.find?_append_of_some (ih.2.2 he) es

theorem Changes.keepsResource (h : Changes db db') (hr : db.messageResource id = some r) :
    db'.messageResource id = some r :=
  h.keepsFound.1 hr

/-- The resource of a message comes with the message. -/
theorem Change.resource_back (h : Change db db') (hr : db'.messageResource id = some r)
    (hid : id ≠ db.nextMessageId) :
    db.messageResource id = some r := by
  cases h with
  | storeResource m pc hm hs q hq hadm =>
    have hne : decide (q.messageId = id) = false := by
      rw [hq, hm.id]
      exact decide_eq_false (Ne.symm hid)
    have hfind := Table.find?_append_of_not (q := fun r => decide (r.messageId = id)) hne
      db.messageResources
    exact hfind.symm.trans hr
  | _ => exact hr

theorem Changes.consistent (h : Changes db db') (hdb : db.Consistent) :
    db'.Consistent := h.invariant (fun _ _ => Db.Consistent.change) hdb

theorem Db.Keyed.chatMessage (h : db.Keyed) (hm : m ∈ db.chatMessages) :
    db.chatMessage m.messageId = some m :=
  Table.find?_key h.messageIds hm

theorem chatMessage_mem (h : db.chatMessage id = some m) : m ∈ db.chatMessages ∧ m.messageId = id :=
  ⟨List.mem_of_find?_eq_some h, by simpa using List.find?_some h⟩

theorem Changes.resource_back (h : Changes db db') (hdb : db.Consistent) (hm : m ∈ db.chatMessages)
    (hr : db'.messageResource m.messageId = some r) :
    db.messageResource m.messageId = some r := by
  induction h with
  | refl => exact hr
  | tail hs hc ih =>
    obtain ⟨st, hst, -⟩ := Changes.keepsMessage hm hs
    have hlt := (Changes.consistent hs hdb).messagesBelow _ hst
    exact ih (hc.resource_back hr (Int.ne_of_lt hlt))

/-- The message of an id keeps everything but its status. -/
theorem Changes.chatMessage (h : Changes db db') (hdb : db.Consistent)
    (hm : db.chatMessage id = some m) :
    ∃ st, db'.chatMessage id = some { m with status := st } ∧
      (m.status ≠ .pending → st = m.status) := by
  obtain ⟨hmem, rfl⟩ := chatMessage_mem hm
  obtain ⟨st, hst, hfinal⟩ := h.keepsMessage hmem
  exact ⟨st, (h.consistent hdb).toKeyed.chatMessage hst, hfinal⟩

/-! ### `GetChatMsgById` -/

/-- What the row of `GetChatMsgById` is made of. -/
theorem resourceMessage_eq_some (h : db.resourceMessage id = some msg) :
    ∃ m pc r, db.chatMessage id = some m ∧ db.privateChat m.threadId = some pc ∧
      db.messageResource id = some r ∧ msg.messageId = id ∧ msg.senderUserId = m.senderUserId ∧
      msg.recipientUserId = pc.other m.senderUserId ∧ msg.messageType = m.messageType ∧
      msg.status = m.status ∧ msg.resource = some { r with messageId := id } ∧
      msg.eventSeq = (db.messageEvent (pc.other m.senderUserId) m.messageType id).elim 0
        (·.eventSeq) := by
  simp only [Db.resourceMessage, Option.bind_eq_bind, Option.bind_eq_some_iff] at h
  obtain ⟨m, hm, pc, hpc, r, hr, hmsg⟩ := h
  obtain ⟨-, rfl⟩ := chatMessage_mem hm
  cases hmsg
  exact ⟨m, pc, r, hm, hpc, hr, rfl, rfl, rfl, rfl, rfl, rfl, rfl⟩

theorem messageEvent_eq_some {recipient eventType : Int} {e : UserEventRow}
    (h : db.messageEvent recipient eventType id = some e) :
    e ∈ db.userEvents ∧ e.recipientUserId = recipient ∧ e.eventType = eventType ∧
      e.messageId = some id :=
  ⟨List.mem_of_find?_eq_some h, by simpa using List.find?_some h⟩

/-- The event of a published message is the one its key finds. -/
theorem messageEvent_of_published (hdb : db.Consistent) (hm : db.chatMessage id = some m)
    (hs : m.status = .published) {pc : PrivateChatRow} (hpc : db.privateChat m.threadId = some pc) :
    ∃ e, db.messageEvent (pc.other m.senderUserId) m.messageType id = some e ∧
      db.eventsAbout id = [e] := by
  obtain ⟨hmem, rfl⟩ := chatMessage_mem hm
  obtain ⟨pc', hpc', hlog⟩ := hdb.logged m hmem
  obtain rfl : pc = pc' := Option.some.inj (hpc.symm.trans hpc'.1)
  rw [if_pos hs] at hlog
  obtain ⟨e, hab, hrec, htype⟩ := hlog
  have hmem' : ∀ f, f ∈ db.eventsAbout m.messageId → f = e := by
    intro f hf
    rw [hab] at hf
    exact List.mem_singleton.mp hf
  have he : e ∈ db.eventsAbout m.messageId := hab ▸ List.mem_singleton_self e
  have hef := List.mem_filter.mp he
  -- the event is found, and whatever is found refers to the message
  have hfound : (db.messageEvent (pc.other m.senderUserId) m.messageType m.messageId).isSome :=
    List.find?_isSome.mpr ⟨e, hef.1, decide_eq_true ⟨hrec, htype, of_decide_eq_true hef.2⟩⟩
  obtain ⟨f, hf⟩ := Option.isSome_iff_exists.mp hfound
  obtain ⟨hfm, -, -, hfid⟩ := messageEvent_eq_some hf
  have hfe : f = e := hmem' f (List.mem_filter.mpr ⟨hfm, decide_eq_true hfid⟩)
  exact ⟨e, hfe ▸ hf, hab⟩

/-- A row that has been read stays as it is but for its status, and a published
row stays as it is. -/
theorem Changes.resourceMessage (h : Changes db db') (hdb : db.Consistent)
    (hmsg : db.resourceMessage id = some msg) :
    ∃ msg', db'.resourceMessage id = some msg' ∧ msg'.senderUserId = msg.senderUserId ∧
      msg'.recipientUserId = msg.recipientUserId ∧ msg'.messageType = msg.messageType ∧
      msg'.resource = msg.resource ∧
      (msg.status = .published → msg'.status = .published ∧ msg'.eventSeq = msg.eventSeq) := by
  obtain ⟨m, pc, r, hm, hpc, hr, -, hsender, hrec, htype, hstatus, hres, hseq⟩ :=
    resourceMessage_eq_some hmsg
  obtain ⟨-, rfl⟩ := chatMessage_mem hm
  obtain ⟨st, hm', hfinal⟩ := h.chatMessage hdb hm
  have hpc' : db'.privateChat m.threadId = some pc := h.keepsFound.2.1 hpc
  have hr' : db'.messageResource m.messageId = some r := h.keepsResource hr
  have hmsg' : ∃ msg', db'.resourceMessage m.messageId = some msg' := by
    simp [Db.resourceMessage, hm', hpc', hr']
  obtain ⟨msg', hmsg'⟩ := hmsg'
  obtain ⟨m₂, pc₂, r₂, hm₂, hpc₂, hr₂, -, hsender₂, hrec₂, htype₂, hstatus₂, hres₂, hseq₂⟩ :=
    resourceMessage_eq_some hmsg'
  obtain rfl : { m with status := st } = m₂ := Option.some.inj (hm'.symm.trans hm₂)
  obtain rfl : pc = pc₂ := Option.some.inj (hpc'.symm.trans hpc₂)
  obtain rfl : r = r₂ := Option.some.inj (hr'.symm.trans hr₂)
  refine ⟨msg', hmsg', hsender₂.trans hsender.symm, hrec₂.trans hrec.symm,
    htype₂.trans htype.symm, hres₂.trans hres.symm, fun hpub => ?_⟩
  rw [hstatus] at hpub
  have hst : st = .published := (hfinal (by rw [hpub]; decide)).trans hpub
  obtain ⟨e, he, -⟩ := messageEvent_of_published hdb hm hpub hpc
  have he' : db'.messageEvent (pc.other m.senderUserId) m.messageType m.messageId = some e :=
    h.keepsFound.2.2 he
  rw [hseq, hseq₂, he, he']
  exact ⟨hstatus₂.trans hst, rfl⟩

/-! ### What `CompleteResourceUpload` reports -/

/-- The message is published, and an event with this number says so. -/
def Db.AnnouncedAs (db : Db) (id : Int) (eventSeq : Nat) : Prop :=
  ∃ m ∈ db.chatMessages, m.messageId = id ∧ m.status = .published ∧
    ∃ e ∈ db.userEvents, e.messageId = some id ∧ e.eventSeq = eventSeq

theorem Db.AnnouncedAs.changes {eventSeq : Nat} (h : db.AnnouncedAs id eventSeq)
    (hc : Changes db db') : db'.AnnouncedAs id eventSeq := by
  obtain ⟨m, hm, hid, hs, e, he, heid, heseq⟩ := h
  refine ⟨m, hc.keepsFinal hm (by rw [hs]; decide), hid, hs, e, ?_, heid, heseq⟩
  exact hc.keepsEvent he

/-- The row of `GetChatMsgById` of a published message. -/
theorem announcedAs_of_resourceMessage (hdb : db.Consistent) (h : db.resourceMessage id = some msg)
    (hs : msg.status = .published) :
    db.AnnouncedAs id msg.eventSeq := by
  obtain ⟨m, pc, r, hm, hpc, -, -, -, -, -, hstatus, -, hseq⟩ := resourceMessage_eq_some h
  rw [hstatus] at hs
  obtain ⟨e, he, -⟩ := messageEvent_of_published hdb hm hs hpc
  obtain ⟨hmem, -, -, hid⟩ := messageEvent_eq_some he
  obtain ⟨hm', rfl⟩ := chatMessage_mem hm
  refine ⟨m, hm', rfl, hs, e, hmem, hid, ?_⟩
  rw [hseq, he]
  rfl

/-- The result of a publication that went through. -/
def PublishResult.Succeeds (r : PublishResult) : Prop := r = .published ∨ r = .alreadyPublished

theorem wp_completeResourceUploadTransaction_announces {sender : Int} {o : Nat} :
    wp (completeResourceUploadTransaction id sender)
      (fun r s _ seq => r.Succeeds → s.AnnouncedAs id seq) (fun _ _ => True) db db o := by
  have roll : ∀ {r : PublishResult} {w : Db} {o' : Nat}, ¬r.Succeeds → wp (finishRollback r)
      (fun r s _ seq => r.Succeeds → s.AnnouncedAs id seq) (fun _ _ => True) db w o' :=
    fun hr => wp_finishRollback trivial fun h => absurd h hr
  refine wp_bind (wp_query trivial (wp_bind (wp_query trivial ?_)))
  rcases hrow : db.uploadRow id with - | row
  · exact roll nofun
  refine wp_ite (fun _ => roll nofun) fun _ => wp_ite (fun _ => roll nofun) fun _ =>
    wp_ite (fun hs => wp_bind (wp_query trivial ?_)) fun _ =>
      wp_ite (fun _ => roll nofun) fun hs => ?_
  · obtain ⟨m, pc, hm, -, rfl⟩ := uploadRow_eq_some hrow
    obtain ⟨hm', hid⟩ := chatMessage_mem hm
    split
    · exact roll nofun
    · rename_i e he
      obtain ⟨hmem, -, -, heid⟩ := messageEvent_eq_some he
      exact wp_bind (wp_modifyOut (wp_finishCommit trivial trivial fun _ =>
        ⟨m, hm', hid, hs, e, hmem, heid, rfl⟩))
  · obtain ⟨m, pc, hm, -, rfl⟩ := uploadRow_eq_some hrow
    obtain ⟨hm', hid⟩ := chatMessage_mem hm
    refine wp_bind (wp_query trivial ?_)
    rcases db.user (pc.other m.senderUserId) with - | u
    · exact roll nofun
    refine wp_bind (wp_modifyOut (wp_bind (wp_exec trivial fun n w hw =>
      wp_ite (fun _ => roll nofun) fun _ => wp_bind (wp_exec trivial fun k w₂ hw₂ =>
      wp_ite (fun _ => roll nofun) fun _ => wp_bind (wp_exec trivial fun a w₃ hw₃ =>
      wp_ite (fun _ => roll nofun) fun _ => wp_finishCommit trivial trivial fun _ => ?_)))))
    obtain ⟨-, rfl⟩ := hw
    obtain ⟨-, rfl⟩ := hw₂
    obtain ⟨-, -, rfl⟩ := Db.insertRow_eq_ok hw₃
    refine ⟨{ m with status := .published }, ?_, hid, rfl, _,
      List.mem_append_right _ (List.mem_singleton_self _), rfl, rfl⟩
    exact mem_setPendingMessage.mpr (.inl ⟨m, hm', hid, not_not.mp hs, rfl⟩)

/-- **A publication that is reported has been committed**, under the number that
is reported. -/
theorem turn_announces {sender : Int} {attempt : Nat} {faults : Option (List (Fault SqlError))}
    {r : PublishResult} {seq : Nat}
    (h : ((Call.completeResourceUpload id sender).turn attempt faults db).2 =
      .returned (.publish r seq)) (hr : r.Succeeds) :
    ((Call.completeResourceUpload id sender).turn attempt faults db).1.AnnouncedAs id seq := by
  cases faults with
  | none =>
    simp only [Call.turn, withConnection, Outcome.returned.injEq, Result.publish.injEq] at h
    rw [← h.1] at hr
    exact absurd hr nofun
  | some fs =>
    have hwp : wp (completeResourceUploadTurn id sender (attempt + 1))
        (fun t s _ seq => ∀ r : PublishResult, t = .returned r → r.Succeeds → s.AnnouncedAs id seq)
        (fun _ _ => True) db db 0 := by
      refine wp_bind (wp_modifyOut (wp_tryCatch (F := fun _ _ => True) (wp_bind (wp_mono
        wp_completeResourceUploadTransaction_announces (fun r s w o' hr => wp_pure ?_)
        fun _ _ h => h)) fun e s' w' o' _ => ?_))
      · intro r' hr'
        cases hr'
        exact hr
      · refine wp_bind (wp_tryCatch (F := fun _ _ => True) (wp_bind (wp_rollback trivial
          (wp_query trivial ?_))) fun _ _ _ _ _ => wp_pure ?_)
        all_goals
          refine wp_pure fun r' hr' hsucc => ?_
          split at hr'
          · cases hr'
          · cases hr'
            exact absurd hsucc nofun
    obtain ⟨s, out, e, ⟨r', o', hout, hQ⟩ | ⟨o', hout, -⟩ | ⟨o', hout, -⟩⟩ :=
      perform_spec Result.publish (fun _ => Call.completeResourceUpload id sender) (hwp fs)
    all_goals
      simp only [Call.turn, withConnection] at h ⊢
      rw [e] at h ⊢
      rw [hout] at h
    · simp only [Outcome.returned.injEq, Result.publish.injEq] at h
      obtain ⟨rfl, rfl⟩ := h
      exact hQ r' rfl hr
    · cases h
    · cases h

/-! ### The event of a published message -/

/-- The message is published, and `e` is the one event that tells its recipient. -/
def Db.PublishedAs (db : Db) (id : Int) (e : UserEventRow) : Prop :=
  ∃ m pc, m ∈ db.chatMessages ∧ m.messageId = id ∧ m.status = .published ∧ db.ChatOf m pc ∧
    db.eventsAbout id = [e] ∧ Announces e m pc

theorem Db.AnnouncedAs.publishedAs {seq : Nat} (h : db.AnnouncedAs id seq) (hdb : db.Consistent) :
    ∃ e, db.PublishedAs id e ∧ e.eventSeq = seq := by
  obtain ⟨m, hm, rfl, hs, e, he, heid, rfl⟩ := h
  obtain ⟨pc, hpc, hlog⟩ := hdb.logged m hm
  rw [if_pos hs] at hlog
  obtain ⟨e', habout, hann⟩ := hlog
  have hmem : e ∈ db.eventsAbout m.messageId := List.mem_filter.mpr ⟨he, decide_eq_true heid⟩
  rw [habout] at hmem
  obtain rfl := List.mem_singleton.mp hmem
  exact ⟨e, ⟨m, pc, hm, rfl, hs, hpc, habout, hann⟩, rfl⟩

/-- Numbers of events start at 1. -/
theorem Db.Numbered.eventSeq_pos (h : db.Numbered) {e : UserEventRow} (he : e ∈ db.userEvents) :
    0 < e.eventSeq := by
  have hmem : e.eventSeq ∈ db.eventSeqs e.recipientUserId :=
    List.mem_map_of_mem (List.mem_filter.mpr ⟨he, decide_eq_true rfl⟩)
  rw [h.eventSeqs, List.mem_range'_1] at hmem
  exact hmem.1

end LlfcChat
