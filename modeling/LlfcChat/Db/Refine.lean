/-
The transactions of the two servers refine the changes of `Db/Change.lean`.

For every transaction there is one specification, proved by walking along its
statements with the rules of `Lib/Txn.lean`: what it has committed when it
returns, for each of its results, and what may be committed when a statement
throws.  A thrown exception leaves either the old state or, if the answer to
the final `commit` was lost, the new one.
-/
import LlfcChat.Db.Change

namespace LlfcChat

open Txn

variable {μ α : Type}

/-! ### Allocating and recording an event -/

variable {db w : Db} {o : FriendHandleOutput} {id requester target : Int}

theorem lastEventSeq_of_user {u : UserRow} (h : db.user id = some u) :
    db.lastEventSeq id = u.lastEventSeq := by
  simp only [Db.lastEventSeq, h, Option.elim_some]

theorem hasUser_of_user {u : UserRow} (h : db.user id = some u) : db.HasUser id := by
  refine ⟨u, List.mem_of_find?_eq_some h, ?_⟩
  simpa using List.find?_some h

section Record

variable {Q : Option Nat → Db → Db → μ → Prop} {E : Db → μ → Prop} {s w : Db} {o : μ}
  {recipient : Int} {assign : Nat → μ → μ}

theorem wp_allocateEventSeq (hE : ∀ o', o' = o ∨ o' = assign (w.nextEventSeq recipient) o → E s o')
    (hnone : ∀ w' o', o' = o ∨ o' = assign (w.nextEventSeq recipient) o → Q none s w' o')
    (hsome : w.HasUser recipient →
      Q (some (w.nextEventSeq recipient)) s
        (w.setLastEventSeq recipient (w.nextEventSeq recipient))
        (assign (w.nextEventSeq recipient) o)) :
    wp (allocateEventSeq recipient assign) Q E s w o := by
  refine wp_bind (wp_query (hE o (.inl rfl)) ?_)
  rcases hu : w.user recipient with - | u
  · exact wp_pure (hnone _ _ (.inl rfl))
  · have hseq : u64 (u.lastEventSeq + 1) = w.nextEventSeq recipient := by
      rw [Db.nextEventSeq, lastEventSeq_of_user hu]
    refine wp_bind (wp_modifyOut (wp_bind (wp_exec (hE _ (.inr (hseq ▸ rfl))) ?_)))
    intro changed w' hw
    refine wp_pure ?_
    obtain ⟨-, rfl⟩ := hw
    rw [hseq]
    split
    · exact hsome (hasUser_of_user hu)
    · exact hnone _ _ (.inr rfl)

/-- **The event is recorded or the caller rolls back.**  A recorded event is a
`notify` of the working state.  The out-parameter is assigned or it is not. -/
theorem wp_recordEvent {row : Nat → UserEventRow}
    (hE : ∀ o', o' = o ∨ o' = assign (w.nextEventSeq recipient) o → E s o')
    (hnone : ∀ w' o', o' = o ∨ o' = assign (w.nextEventSeq recipient) o → Q none s w' o')
    (hsome : w.HasUser recipient →
      Q (some (w.nextEventSeq recipient)) s (w.notify recipient row)
        (assign (w.nextEventSeq recipient) o)) :
    wp (recordEvent recipient row assign) Q E s w o := by
  refine wp_bind (wp_allocateEventSeq hE (fun _ _ h => wp_pure (hnone _ _ h)) fun hu => ?_)
  refine wp_bind (wp_bind (wp_exec (hE _ (.inr rfl)) fun a w' hw => wp_pure ?_))
  obtain ⟨-, rfl, rfl⟩ := Db.insertRow_eq_ok hw
  exact wp_pure (hsome hu)

end Record

/-! ### The friend transactions -/

/-- What a friend transaction may leave behind: nothing, unless it reports
that it stored something. -/
def FriendEnds (db : Db) (r : FriendOperationResult) (s : Db) : Prop :=
  if r = .stored then Changes db s else s = db

theorem friendEnds_self (db : Db) (r : FriendOperationResult) : FriendEnds db r db := by
  unfold FriendEnds
  split
  · exact .refl
  · rfl

/-- The rest of a transaction that has prepared `w` ends as it may. -/
abbrev FriendSafe {μ : Type} (db w : Db) (o : μ) (p : Sql μ FriendOperationResult) : Prop :=
  wp p (fun r s _ _ => FriendEnds db r s) (fun s _ => Changes db s) db w o

theorem wp_friendRollback {μ : Type} {o : μ} {r : FriendOperationResult} :
    FriendSafe db w o (rollbackWith r) := wp_rollbackWith .refl (friendEnds_self _ _)

theorem wp_insertFriendApply {message key now : String} {o : Option FriendRequest} :
    FriendSafe db db o (insertFriendApply requester target message key now) := by
  have same : Changes db db := .refl
  refine wp_bind (wp_exec same fun a w hw => ?_)
  obtain ⟨hadm, rfl, rfl⟩ := Db.insertRow_eq_ok hw
  refine wp_bind (wp_query same ?_)
  split
  · exact wp_friendRollback
  refine wp_bind (wp_recordEvent (fun _ _ => same) (fun _ _ _ => wp_friendRollback) fun hu => ?_)
  refine wp_bind (wp_query same ?_)
  split
  · exact wp_friendRollback
  have change := Relation.ReflTransGen.single (Change.apply _ rfl hadm rfl rfl)
  exact wp_bind (wp_modifyOut (wp_commitWith same change change))

theorem wp_addFriendApplyTransaction {message key now : String} {o : Option FriendRequest} :
    FriendSafe db db o (addFriendApplyTransaction requester target message key now) := by
  have same : Changes db db := .refl
  refine wp_bind (wp_query same (wp_bind (wp_query same ?_)))
  split
  · exact wp_friendRollback
  refine wp_bind (wp_query same ?_)
  split
  · exact wp_friendRollback
  refine wp_bind (wp_query same ?_)
  split
  · exact wp_friendRollback
  refine wp_bind (wp_query same ?_)
  split
  · exact wp_bind (wp_modifyOut (wp_commitWith same same (friendEnds_self _ _)))
  refine wp_bind (wp_query same ?_)
  split
  · exact wp_bind (wp_modifyOut (wp_commitWith same same (friendEnds_self _ _)))
  · exact wp_insertFriendApply

theorem insertPrivateChat_eq_ok {lower higher : Int} {a : Nat × Int}
    (h : db.insertPrivateChat lower higher = .ok (a, w)) :
    Changes db w ∧ w.users = db.users ∧ w.friendRequests = db.friendRequests ∧
      ∃ pc ∈ w.privateChats,
        pc.lowerUserId = lower ∧ pc.higherUserId = higher ∧ pc.threadId = a.2 := by
  unfold Db.insertPrivateChat at h
  split at h
  · rename_i pc hpc
    obtain ⟨rfl, rfl⟩ := h
    have hpair := List.find?_some hpc
    simp only [decide_eq_true_eq] at hpair
    exact ⟨.refl, rfl, rfl, pc, List.mem_of_find?_eq_some hpc, hpair.1, hpair.2, rfl⟩
  · rename_i hnone
    obtain ⟨⟨hlim, hpair⟩, rfl, rfl⟩ := Db.insertRow_eq_ok h
    refine ⟨.single (.newChat _ rfl hlim hpair ?_), rfl, rfl, ⟨db.nextThreadId, lower, higher⟩, ?_,
      rfl, rfl, rfl⟩
    · simpa using hnone
    · simp [Db.addPrivateChat]

theorem insertIgnoreFriendship_eq_ok {lower higher : Int} {n : Nat}
    (h : db.insertIgnoreFriendship lower higher = .ok (n, w)) :
    Changes db w ∧ w.users = db.users ∧ w.friendRequests = db.friendRequests ∧
      w.privateChats = db.privateChats := by
  unfold Db.insertIgnoreFriendship at h
  split at h
  · rename_i hadm
    obtain ⟨-, rfl⟩ := h
    exact ⟨.single (.newFriendship _ hadm.1 hadm.2), rfl, rfl, rfl⟩
  · obtain ⟨-, rfl⟩ := h
    exact ⟨.refl, rfl, rfl, rfl⟩

/-- The event for the requester ends the transaction: `w` is what the branch
before it has prepared. -/
theorem wp_notifyRequester {eventType : Int} (h : w.HasUser requester →
      Changes db (w.notify requester (friendEventRow requester eventType id))) :
    FriendSafe db w o (notifyRequester requester eventType id) := by
  have same : Changes db db := .refl
  refine wp_bind (wp_recordEvent (fun _ _ => same)
    (fun _ _ _ => wp_friendRollback) fun hu => ?_)
  exact wp_bind (wp_modifyOut (wp_commitWith same (h hu) (h hu)))

theorem wp_acceptFriendApply {row : FriendRequestRow} (hrow : row ∈ db.friendRequests)
    (hs : row.status = .pending) :
    FriendSafe db db o (acceptFriendApply (readFriendRequest row) row.friendRequestId) := by
  have same : Changes db db := .refl
  refine wp_bind (wp_exec same fun a w hw => ?_)
  obtain ⟨hchat, husers, hreqs, pc, hpc, hlo, hhi, hid⟩ := insertPrivateChat_eq_ok hw
  refine wp_bind (wp_query same (wp_bind (wp_modifyOut ?_)))
  split
  · exact wp_friendRollback
  refine wp_bind (wp_exec same fun n w₂ hw₂ => ?_)
  obtain ⟨hfriend, husers₂, hreqs₂, hchats₂⟩ := insertIgnoreFriendship_eq_ok hw₂
  refine wp_bind (wp_exec same fun u w₃ hw₃ => wp_bind (wp_modifyOut (wp_notifyRequester ?_)))
  obtain ⟨-, rfl⟩ := hw₃
  intro hu
  -- the three changes of an acceptance, in the order of the statements
  refine (hchat.trans hfriend).tail ?_
  rw [← hlo, ← hhi, ← hid]
  refine Change.accept row ?_ hs pc (hchats₂ ▸ hpc) hlo hhi hu
  rw [hreqs₂, hreqs]
  exact hrow

theorem wp_rejectFriendApply {row : FriendRequestRow} (hrow : row ∈ db.friendRequests)
    (hs : row.status = .pending) :
    FriendSafe db db o (rejectFriendApply (readFriendRequest row) row.friendRequestId) := by
  have same : Changes db db := .refl
  refine wp_bind (wp_exec same fun n w hw => ?_)
  obtain ⟨-, rfl⟩ := hw
  split
  · exact wp_friendRollback
  exact wp_bind (wp_modifyOut (wp_notifyRequester fun hu => .single (.reject row hrow hs hu)))

theorem wp_handleFriendApplyTransaction {handler : Int} {accept : Bool} :
    FriendSafe db db o (handleFriendApplyTransaction handler id accept) := by
  have same : Changes db db := .refl
  refine wp_bind (wp_query same (wp_bind (wp_query same ?_)))
  rcases hrow : db.friendRequest id with - | row
  · exact wp_friendRollback
  have hmem : row ∈ db.friendRequests := List.mem_of_find?_eq_some hrow
  have hid : row.friendRequestId = id := by simpa using List.find?_some hrow
  subst hid
  refine wp_bind (wp_modifyOut ?_)
  split
  · exact wp_friendRollback
  refine wp_bind (wp_modifyOut (wp_ite (fun _ => ?_) fun hpending => ?_))
  · exact wp_bind (wp_modifyOut (wp_commitWith same same (friendEnds_self _ _)))
  have hs : row.status = .pending := not_not.mp hpending
  exact wp_ite (fun _ => wp_acceptFriendApply hmem hs) fun _ => wp_rejectFriendApply hmem hs

/-! ### Publishing and failing a resource -/

/-- What an attempt to publish may leave behind. -/
def PublishEnds (db : Db) (r : PublishResult) (s : Db) : Prop :=
  if r = .published then Changes db s else s = db

theorem publishEnds_self (db : Db) (r : PublishResult) : PublishEnds db r db := by
  unfold PublishEnds
  split
  · exact .refl
  · rfl

section Finish

variable {Q : PublishResult → Db → Db → Nat → Prop} {E : Db → Nat → Prop} {s w : Db} {o : Nat}
  {r : PublishResult}

theorem wp_finishCommit (hE : E s o) (hE' : E w o) (h : Q r w w o) :
    wp (finishCommit r) Q E s w o :=
  wp_bind (wp_commit hE hE' (wp_bind (wp_query hE' (wp_pure h))))

theorem wp_finishRollback (hE : E s o) (h : Q r s s o) : wp (finishRollback r) Q E s w o :=
  wp_bind (wp_rollback hE (wp_bind (wp_query hE (wp_pure h))))

end Finish

theorem uploadRow_eq_some {row : UploadRow} (h : db.uploadRow id = some row) :
    ∃ m pc, db.chatMessage id = some m ∧ db.privateChat m.threadId = some pc ∧
      row = ⟨m.senderUserId, m.messageType, m.status, pc.other m.senderUserId⟩ := by
  simp only [Db.uploadRow, Option.bind_eq_bind, Option.bind_eq_some_iff] at h
  obtain ⟨m, hm, pc, hpc, r, -, hrow⟩ := h
  exact ⟨m, pc, hm, hpc, (Option.some.inj hrow).symm⟩

theorem wp_publishPending {row : UploadRow} {o : Nat} (h : db.uploadRow id = some row)
    (hs : row.status = .pending) :
    wp (publishPending id row) (fun r s _ _ => PublishEnds db r s) (fun s _ => Changes db s)
      db db o := by
  have same : Changes db db := .refl
  have roll : ∀ (r : PublishResult) (w' : Db) (o' : Nat), wp (finishRollback r)
      (fun r s _ _ => PublishEnds db r s) (fun s _ => Changes db s) db w' o' :=
    fun r _ _ => wp_finishRollback same (publishEnds_self _ _)
  obtain ⟨m, pc, hm, hpc, rfl⟩ := uploadRow_eq_some h
  have hid : m.messageId = id := by simpa using List.find?_some hm
  subst hid
  refine wp_bind (wp_query same ?_)
  rcases hu : db.user (pc.other m.senderUserId) with - | u
  · exact roll _ _ _
  refine wp_bind (wp_modifyOut (wp_bind (wp_exec same fun n w hw => wp_ite (fun _ => roll _ _ _)
    fun _ => wp_bind (wp_exec same fun k w₂ hw₂ => wp_ite (fun _ => roll _ _ _)
    fun _ => wp_bind (wp_exec same fun a w₃ hw₃ => wp_ite (fun _ => roll _ _ _) fun _ => ?_)))))
  obtain ⟨-, rfl⟩ := hw
  obtain ⟨-, rfl⟩ := hw₂
  obtain ⟨-, -, rfl⟩ := Db.insertRow_eq_ok hw₃
  have hseq : u64 (u.lastEventSeq + 1) = db.nextEventSeq (pc.other m.senderUserId) := by
    rw [Db.nextEventSeq, lastEventSeq_of_user hu]
  have change : Changes db _ := .single (.publish m hm hs pc hpc (hasUser_of_user hu))
  rw [hseq]
  exact wp_finishCommit same change change

theorem wp_completeResourceUploadTransaction {sender : Int} {o : Nat} :
    wp (completeResourceUploadTransaction id sender) (fun r s _ _ => PublishEnds db r s)
      (fun s _ => Changes db s) db db o := by
  have same : Changes db db := .refl
  have roll : ∀ (r : PublishResult) (o' : Nat), wp (finishRollback r)
      (fun r s _ _ => PublishEnds db r s) (fun s _ => Changes db s) db db o' :=
    fun _ _ => wp_finishRollback same (publishEnds_self _ _)
  refine wp_bind (wp_query same (wp_bind (wp_query same ?_)))
  rcases hrow : db.uploadRow id with - | row
  · exact roll _ _
  refine wp_ite (fun _ => roll _ _) fun _ => wp_ite (fun _ => roll _ _) fun _ =>
    wp_ite (fun _ => ?_) fun _ => wp_ite (fun _ => roll _ _) fun hs => ?_
  · refine wp_bind (wp_query same ?_)
    split
    · exact roll _ _
    · exact wp_bind (wp_modifyOut (wp_finishCommit same same (publishEnds_self _ _)))
  · exact wp_publishPending hrow (not_not.mp hs)

/-- `MarkResourceFailed` is one change or none. -/
theorem wp_markResourceFailed :
    wp (markResourceFailed id) (fun _ s _ _ => Changes db s) (fun _ _ => False) db w () := by
  have hupd : ∀ a s', db.updatePendingMessage id .failed = .ok (a, s') → Changes db s' := by
    intro a s' h
    simp only [Db.updatePendingMessage, Except.ok.injEq, Prod.mk.injEq] at h
    exact h.2 ▸ .single (.fail id)
  refine wp_tryCatch (F := fun s _ => Changes db s)
    (wp_bind (wp_autoExec .refl hupd fun a s' h => wp_pure (hupd a s' h)))
    fun _ _ _ _ h => wp_pure h

theorem wp_expireAll (ids : List Int) (h : Changes db w) :
    wp (expireAll ids) (fun _ s w' _ => s = db ∧ Changes db w') (fun s _ => s = db) db w () := by
  induction ids generalizing w with
  | nil => exact wp_pure ⟨rfl, h⟩
  | cons id ids ih =>
    refine wp_bind (wp_exec rfl fun n w' hw => ih ?_)
    simp only [Db.updatePendingMessage, Except.ok.injEq, Prod.mk.injEq] at hw
    exact hw.2 ▸ h.tail (.fail id)

theorem wp_markResourceExpired {ids : List Int} :
    wp (markResourceExpired ids) (fun _ s _ _ => Changes db s) (fun _ _ => False) db db () := by
  refine wp_ite (fun _ => wp_pure .refl) fun _ => ?_
  refine wp_tryCatch (F := fun s _ => Changes db s) (wp_bind (wp_query .refl (wp_bind ?_))) ?_
  · refine wp_mono (wp_expireAll ids .refl) ?_ fun s' _ h => h ▸ .refl
    rintro - s' w' o' ⟨rfl, hw⟩
    exact wp_bind (wp_commit .refl hw (wp_bind (wp_query hw (wp_pure hw))))
  · intro e s' w' o' h
    refine wp_bind (wp_tryCatch (F := fun s _ => Changes db s) ?_ fun _ _ _ _ h' =>
      wp_pure (wp_pure h'))
    exact wp_bind (wp_rollback h (wp_query h (wp_pure h)))

/-! ### Creating a private chat and registering -/

theorem wp_createPrivateChat {o : Int} :
    wp (createPrivateChat requester target) (fun _ s _ _ => Changes db s) (fun _ _ => False)
      db w o := by
  refine wp_bind (wp_modifyOut (wp_ite (fun _ => wp_pure .refl) fun _ => ?_))
  refine wp_tryCatch (F := fun s _ => Changes db s) (wp_bind (wp_autoExec .refl ?_ ?_))
    fun _ _ _ _ h => wp_pure h
  · exact fun a s' h => (insertPrivateChat_eq_ok h).1
  · intro a s' h
    have hc := (insertPrivateChat_eq_ok h).1
    exact wp_bind (wp_query hc (wp_bind (wp_modifyOut (wp_pure hc))))

theorem changes_insertUser {name email icon : String} {a : Nat × Int} {s : Db}
    (h : db.insertUser name email icon = .ok (a, s)) : Changes db s := by
  obtain ⟨hadm, -, rfl⟩ := Db.insertRow_eq_ok h
  exact .single (.newUser _ rfl rfl hadm)

theorem wp_regUserTransaction {name email icon : String} :
    wp (regUserTransaction name email icon) (fun _ s _ _ => Changes db s)
      (fun s _ => Changes db s) db db () := by
  refine wp_tryCatch (F := fun s _ => Changes db s) ?_ fun _ _ _ _ h => wp_rollbackWith h h
  refine wp_bind (wp_query .refl (wp_bind (wp_query .refl ?_)))
  refine wp_ite (fun _ => wp_rollbackWith .refl .refl) fun _ => wp_bind (wp_query .refl ?_)
  refine wp_ite (fun _ => wp_rollbackWith .refl .refl) fun _ => ?_
  refine wp_bind (wp_exec .refl fun a w' hw => wp_bind (wp_query .refl ?_))
  exact wp_commitWith .refl (changes_insertUser hw) (changes_insertUser hw)

theorem wp_updateHeadInfo {userId : Int} {avatarKey : String} :
    wp (updateHeadInfo userId avatarKey) (fun _ s _ _ => Changes db s) (fun _ _ => False)
      db w () := by
  have hupd : ∀ a s', db.updateAvatarKey userId avatarKey = .ok (a, s') → Changes db s' := by
    intro a s' h
    cases h
    exact .single (.newAvatar userId avatarKey)
  refine wp_tryCatch (F := fun s _ => Changes db s)
    (wp_bind (wp_autoExec .refl hupd fun a s' h => wp_pure (hupd a s' h)))
    fun _ _ _ _ h => wp_pure h

theorem wp_regUser {name email : String} :
    wp (regUser name email) (fun _ s _ _ => Changes db s) (fun _ _ => False) db w () := by
  have hins : ∀ a s', db.insertUser name email "" = .ok (a, s') → Changes db s' :=
    fun _ _ => changes_insertUser
  refine wp_tryCatch (F := fun s _ => Changes db s) (wp_bind (wp_autoExec .refl hins ?_))
    fun _ _ _ _ h => wp_pure h
  intro a s' h
  exact wp_ite (fun _ => wp_pure (hins a s' h)) fun _ => wp_query (hins a s' h) (hins a s' h)

end LlfcChat
