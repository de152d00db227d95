/-
Any number of servers on one database.

A call of a DAO function is active until it returns.  Between two turns of a
retry loop, and between the calls of different servers, anything else may
happen, so the unit of interleaving is the turn: one transaction, from
`setAutoCommit(false)` to its end.  A turn runs under an arbitrary fault
script; a server that dies in the middle of a call is a call that is never
taken up again.
-/
import LlfcChat.Db.SaveMessage

namespace LlfcChat

open Txn

variable {μ ρ : Type}

/-! ### Calls and their turns -/

/-- Who called `AddChatMsg`. -/
inductive SaveCaller
  | dealChatTextMsg | dealCreateResourceMsg
  deriving DecidableEq

/-- A call of a DAO function.  `deadlockRetries` is the setting of the server
that makes the call. -/
inductive Call
  | regUser (name email : String)
  | regUserTransaction (name email icon : String)
  | updateHeadInfo (userId : Int) (avatarKey : String)
  | createPrivateChat (requester target : Int)
  | addFriendApply (requester target : Int) (requestMessage clientRequestId now : String)
  | handleFriendApply (handler friendRequestId : Int) (accept : Bool)
  | addChatMsg (caller : SaveCaller) (deadlockRetries : Nat) (message : ChatMessage)
  | completeResourceUpload (messageId sender : Int)
  | markResourceFailed (messageId : Int)
  | markResourceExpired (items : List Int)
  deriving DecidableEq

/-- The result of a call together with its out-parameters. -/
inductive Result
  | userId (id : Int)
  | chat (ok : Bool) (threadId : Int)
  | friendApply (r : FriendOperationResult) (request : Option FriendRequest)
  | friendHandled (r : FriendOperationResult) (output : FriendHandleOutput)
  | saved (r : SaveMessageResult) (message : ChatMessage)
  | publish (r : PublishResult) (eventSeq : Nat)
  | done (ok : Bool)
  deriving DecidableEq

/-- The end of a turn; `threw` is an exception that leaves the DAO function. -/
inductive Outcome
  | returned (r : Result)
  | retry (c : Call)
  | threw
  deriving DecidableEq

/-- Run a program on the committed state and read off what it left. -/
def perform (m : Sql μ (Turn ρ)) (o : μ) (fs : List (Fault SqlError)) (db : Db)
    (ret : ρ → μ → Result) (again : μ → Call) : Db × Outcome :=
  match m (Conn.start db o fs) with
  | (.ok (.returned r), c) => (c.committed, .returned (ret r c.out))
  | (.ok .retry, c) => (c.committed, .retry (again c.out))
  | (.error _, c) => (c.committed, .threw)

/-- A function without a retry loop has one turn. -/
def once (m : Sql μ ρ) : Sql μ (Turn ρ) := do return .returned (← m)

/-- `pool_->getConnection()`: with `none` the pool has no connection to give
and the call fails without a statement, with `some` the statements of the call
meet these faults. -/
def withConnection (faults : Option (List (Fault SqlError))) (db : Db) (failure : Result)
    (run : List (Fault SqlError) → Db × Outcome) : Db × Outcome :=
  match faults with
  | none => (db, .returned failure)
  | some fs => run fs

/-- One turn of a call.  `AddChatMsg` asks for a connection before its first
turn only. -/
def Call.turn (attempt : Nat) (faults : Option (List (Fault SqlError))) (db : Db)
    (c : Call) : Db × Outcome :=
  match c with
  | .regUser name email =>
    withConnection faults db (.userId (-1)) fun fs =>
      perform (once (LlfcChat.regUser name email)) () fs db (fun r _ => .userId r) fun _ => c
  | .regUserTransaction name email icon =>
    withConnection faults db (.userId 0) fun fs =>
      perform (once (LlfcChat.regUserTransaction name email icon)) () fs db (fun r _ => .userId r)
        fun _ => c
  | .updateHeadInfo userId avatarKey =>
    withConnection faults db (.done false) fun fs =>
      perform (once (LlfcChat.updateHeadInfo userId avatarKey)) () fs db (fun r _ => .done r)
        fun _ => c
  | .createPrivateChat requester target =>
    withConnection faults db (.chat false 0) fun fs =>
      perform (once (LlfcChat.createPrivateChat requester target)) 0 fs db .chat fun _ => c
  | .addFriendApply requester target message key now =>
    withConnection faults db (.friendApply .failed none) fun fs =>
      perform (once (LlfcChat.addFriendApply requester target message key now)) none fs db
        .friendApply fun _ => c
  | .handleFriendApply handler id accept =>
    withConnection faults db (.friendHandled .failed {}) fun fs =>
      perform (once (LlfcChat.handleFriendApply handler id accept)) {} fs db .friendHandled
        fun _ => c
  | .addChatMsg caller retries m =>
    if ¬AddChatMsgArgs m ∨ (faults = none ∧ attempt = 0) then (db, .returned (.saved .failed m))
    else perform (addChatMsgTurn retries attempt) m (faults.getD []) db .saved
      (.addChatMsg caller retries)
  | .completeResourceUpload id sender =>
    withConnection faults db (.publish .transient 0) fun fs =>
      perform (completeResourceUploadTurn id sender (attempt + 1)) 0 fs db .publish fun _ => c
  | .markResourceFailed id =>
    withConnection faults db (.done false) fun fs =>
      perform (once (LlfcChat.markResourceFailed id)) () fs db (fun r _ => .done r) fun _ => c
  | .markResourceExpired items =>
    withConnection faults db (.done (decide (items = []))) fun fs =>
      perform (once (LlfcChat.markResourceExpired items)) () fs db (fun r _ => .done r) fun _ => c

/-! ### The system -/

/-- A call in progress: the call as it was made, and as it stands after the
turns it has taken. -/
structure Active where
  origin : Call
  current : Call
  attempt : Nat
  deriving DecidableEq

structure Sys where
  db : Db := .empty
  active : List Active := []
  /-- The calls that have returned, in this order, with their results. -/
  log : List (Call × Result) := []
  /-- The messages `DealChatTextMsg` has handed to `DeliverUserEvent`. -/
  delivered : List ChatMessage := []

/-- `DealChatTextMsg` delivers when `AddChatMsg` has returned `Stored`. -/
def deliveries : Call → Result → List ChatMessage
  | .addChatMsg .dealChatTextMsg _ _, .saved .stored m => [m]
  | _, _ => []

/-- The system after the active call between `l` and `r` took a turn. -/
def Sys.after (s : Sys) (l : List Active) (a : Active) (r : List Active) : Db × Outcome → Sys
  | (db, .returned res) =>
    { db := db, active := l ++ r, log := s.log ++ [(a.origin, res)]
      delivered := s.delivered ++ deliveries a.origin res }
  | (db, .retry c) =>
    { s with db := db, active := l ++ ⟨a.origin, c, a.attempt + 1⟩ :: r }
  | (db, .threw) => { s with db := db, active := l ++ r }

/-- One step of the system. -/
inductive Step (s : Sys) : Sys → Prop
  | skipIds (users threads messages requests : Nat) :
      Step s
        { s with
          db :=
            { s.db with
              nextUserId := s.db.nextUserId + users
              nextThreadId := s.db.nextThreadId + threads
              nextMessageId := s.db.nextMessageId + messages
              nextFriendRequestId := s.db.nextFriendRequestId + requests } }
  | call (c : Call) : Step s { s with active := s.active ++ [⟨c, c, 0⟩] }
  | turn (l : List Active) (a : Active) (r : List Active) (h : s.active = l ++ a :: r)
      (faults : Option (List (Fault SqlError))) :
      Step s (s.after l a r (a.current.turn a.attempt faults s.db))

/-- Finitely many steps. -/
abbrev Steps : Sys → Sys → Prop := Relation.ReflTransGen Step

/-- The states the system can get into from empty tables. -/
def Reachable (s : Sys) : Prop := Steps {} s

/-! ### A turn changes the database in the known ways -/

/-- The end of a turn of `AddChatMsg`: the end of its transaction, or the
answer to an exception. -/
def SaveTurnEnds (db : Db) (m : ChatMessage) (t : Turn SaveMessageResult) (s : Db)
    (o : ChatMessage) : Prop :=
  match t with
  | .returned r => SaveEnds db m r s o ∨ r = .failed ∧ SaveThrows db m s o
  | .retry => SaveThrows db m s o

variable {m : ChatMessage} {db s : Db}

/-- `P` holds of the committed state at the end of a turn, by result. -/
theorem perform_spec {m : Sql μ (Turn ρ)} {o : μ} {fs : List (Fault SqlError)}
    {Q : Turn ρ → Db → μ → Prop} {E : Db → μ → Prop} (ret : ρ → μ → Result) (again : μ → Call)
    (h : EndsIn (fun t s _ o' => Q t s o') E (m (Conn.start db o fs))) :
    ∃ s out, perform m o fs db ret again = (s, out) ∧
      ((∃ r o', out = .returned (ret r o') ∧ Q (.returned r) s o') ∨
        (∃ o', out = .retry (again o') ∧ Q .retry s o') ∨ (∃ o', out = .threw ∧ E s o')) := by
  unfold perform
  rcases e : m (Conn.start db o fs) with ⟨e' | t, c⟩
  · rw [e] at h
    exact ⟨_, _, rfl, .inr (.inr ⟨c.out, rfl, h⟩)⟩
  · rw [e] at h
    cases t with
    | returned r => exact ⟨_, _, rfl, .inl ⟨r, c.out, rfl, h⟩⟩
    | retry => exact ⟨_, _, rfl, .inr (.inl ⟨c.out, rfl, h⟩)⟩

theorem perform_changes {m : Sql μ (Turn ρ)} {o : μ} {fs : List (Fault SqlError)}
    {ret : ρ → μ → Result} {again : μ → Call}
    (h : wp m (fun _ s _ _ => Changes db s) (fun s _ => Changes db s) db db o) :
    Changes db (perform m o fs db ret again).1 := by
  obtain ⟨s, out, e, ⟨-, -, -, h'⟩ | ⟨-, -, h'⟩ | ⟨-, -, h'⟩⟩ := perform_spec ret again (h fs)
  all_goals
    rw [e]
    exact h'

theorem wp_once {m : Sql μ ρ} {P : Db → Prop} {E : Db → μ → Prop} {w : Db} {o : μ}
    (h : wp m (fun _ s _ _ => P s) E s w o) : wp (once m) (fun _ s _ _ => P s) E s w o :=
  wp_bind (wp_mono h (fun _ _ _ _ h => wp_pure h) fun _ _ h => h)

theorem FriendEnds.changes {r : FriendOperationResult} (h : FriendEnds db r s) :
    Changes db s := by
  unfold FriendEnds at h
  split at h
  · exact h
  · exact h ▸ .refl

theorem PublishEnds.changes {r : PublishResult} (h : PublishEnds db r s) :
    Changes db s := by
  unfold PublishEnds at h
  split at h
  · exact h
  · exact h ▸ .refl

theorem SaveThrows.changes {o : ChatMessage} (h : SaveThrows db m s o) :
    Changes db s := by
  rcases h.2 with rfl | h'
  · exact .refl
  · exact h'.2

theorem SaveEnds.changes {o : ChatMessage} {r : SaveMessageResult} (h : SaveEnds db m r s o) :
    Changes db s := by
  obtain ⟨-, -, h⟩ := h
  cases r with
  | stored => exact h.1
  | duplicate | conflict | failed => exact h.1 ▸ .refl

theorem SaveTurnEnds.changes {o : ChatMessage} {t : Turn SaveMessageResult}
    (h : SaveTurnEnds db m t s o) : Changes db s := by
  cases t with
  | returned r => exact h.elim (·.changes) (·.2.changes)
  | retry => exact SaveThrows.changes h

theorem wp_addFriendApply {requester target : Int} {message key now : String}
    {o : Option FriendRequest} :
    wp (addFriendApply requester target message key now) (fun _ s _ _ => Changes db s)
      (fun s _ => Changes db s) db db o := by
  refine wp_bind (wp_modifyOut (wp_ite (fun _ => wp_pure .refl) fun _ => ?_))
  refine wp_tryCatch (wp_mono wp_addFriendApplyTransaction (fun _ _ _ _ h => h.changes)
    fun _ _ h => h) fun _ _ _ _ h => wp_rollbackWith h h

theorem wp_handleFriendApply {handler id : Int} {accept : Bool} {o : FriendHandleOutput} :
    wp (handleFriendApply handler id accept) (fun _ s _ _ => Changes db s)
      (fun s _ => Changes db s) db db o := by
  refine wp_tryCatch (wp_mono wp_handleFriendApplyTransaction (fun _ _ _ _ h => h.changes)
    fun _ _ h => h) fun _ _ _ _ h => wp_rollbackWith h h

/-- **One turn of `AddChatMsg`**, for every fault script. -/
theorem wp_addChatMsgTurn (retries attempt : Nat) :
    wp (addChatMsgTurn retries attempt) (fun t s _ o' => SaveTurnEnds db m t s o')
      (fun _ _ => False) db db m := by
  refine wp_tryCatch (wp_bind (wp_mono (wp_addChatMsgTransaction (.refl m))
    (fun _ _ _ _ h => wp_pure (.inl h)) fun _ _ h => h)) fun e s' w' o' h => ?_
  refine wp_tryCatch (wp_bind (wp_rollback h (wp_pure ?_))) fun _ _ _ _ h =>
    wp_pure (.inr ⟨rfl, h⟩)
  split
  · exact .inr ⟨rfl, h⟩
  · exact h

theorem wp_completeResourceUploadTurn {id sender : Int} {attempt o : Nat} :
    wp (completeResourceUploadTurn id sender attempt) (fun _ s _ _ => Changes db s)
      (fun s _ => Changes db s) db db o := by
  refine wp_bind (wp_modifyOut (wp_tryCatch (wp_bind (wp_mono
    wp_completeResourceUploadTransaction (fun _ _ _ _ h => wp_pure h.changes) fun _ _ h => h))
    fun e s' w' o' h => ?_))
  refine wp_bind (wp_tryCatch (wp_bind (wp_rollback h (wp_query h (wp_pure h))))
    fun _ _ _ _ h => wp_pure (wp_pure h))

theorem turn_addChatMsg (attempt : Nat) (faults : Option (List (Fault SqlError))) (db : Db)
    (caller : SaveCaller) (retries : Nat) (m : ChatMessage) :
    (Call.addChatMsg caller retries m).turn attempt faults db =
      if ¬AddChatMsgArgs m ∨ (faults = none ∧ attempt = 0) then
        (db, .returned (.saved .failed m))
      else perform (addChatMsgTurn retries attempt) m (faults.getD []) db .saved
        (.addChatMsg caller retries) := rfl

/-- The turn of a transaction that returned. -/
theorem addChatMsgTurn_of_ok {retries attempt : Nat} {c c' : Conn Db ChatMessage SqlError}
    {r : SaveMessageResult} (h : addChatMsgTransaction c = (.ok r, c')) :
    addChatMsgTurn retries attempt c = (.ok (.returned r), c') := by
  have hbind : (do return Turn.returned (← addChatMsgTransaction) :
      Sql ChatMessage (Turn SaveMessageResult)) c = (.ok (.returned r), c') := bind_ok h rfl
  unfold addChatMsgTurn Txn.tryCatch
  rw [hbind]

theorem withConnection_changes {faults : Option (List (Fault SqlError))} {failure : Result}
    {run : List (Fault SqlError) → Db × Outcome} (h : ∀ fs, Changes db (run fs).1) :
    Changes db (withConnection faults db failure run).1 := by
  cases faults with
  | none => exact .refl
  | some fs => exact h fs

/-- **Every turn is made of changes.** -/
theorem turn_changes (attempt : Nat) (faults : Option (List (Fault SqlError))) (db : Db)
    (c : Call) : Changes db (c.turn attempt faults db).1 := by
  have weaken : ∀ {μ ρ : Type} {m : Sql μ ρ} {w : Db} {o : μ},
      wp m (fun _ s _ _ => Changes db s) (fun _ _ => False) db w o →
      wp m (fun _ s _ _ => Changes db s) (fun s _ => Changes db s) db w o :=
    fun h => wp_mono h (fun _ _ _ _ h => h) fun _ _ h => h.elim
  cases c with
  | addChatMsg caller retries m =>
    rw [turn_addChatMsg]
    split
    · exact .refl
    · exact perform_changes (weaken (wp_mono (wp_addChatMsgTurn retries attempt)
        (fun _ _ _ _ h => h.changes) fun _ _ h => h))
  | regUser name email =>
    exact withConnection_changes fun _ => perform_changes (wp_once (weaken wp_regUser))
  | regUserTransaction name email icon =>
    exact withConnection_changes fun _ => perform_changes (wp_once wp_regUserTransaction)
  | updateHeadInfo userId avatarKey =>
    exact withConnection_changes fun _ => perform_changes (wp_once (weaken wp_updateHeadInfo))
  | createPrivateChat requester target =>
    exact withConnection_changes fun _ => perform_changes (wp_once (weaken wp_createPrivateChat))
  | addFriendApply requester target message key now =>
    exact withConnection_changes fun _ => perform_changes (wp_once wp_addFriendApply)
  | handleFriendApply handler id accept =>
    exact withConnection_changes fun _ => perform_changes (wp_once wp_handleFriendApply)
  | completeResourceUpload id sender =>
    exact withConnection_changes fun _ => perform_changes wp_completeResourceUploadTurn
  | markResourceFailed id =>
    exact withConnection_changes fun _ => perform_changes (wp_once (weaken wp_markResourceFailed))
  | markResourceExpired items =>
    exact withConnection_changes fun _ => perform_changes (wp_once (weaken wp_markResourceExpired))

@[simp] theorem Sys.after_db (s : Sys) (l : List Active) (a : Active) (r : List Active)
    (p : Db × Outcome) : (s.after l a r p).db = p.1 := by
  rcases p with ⟨db, _ | _ | _⟩ <;> rfl

theorem Step.changes {s s' : Sys} (h : Step s s') : Changes s.db s'.db := by
  cases h with
  | skipIds u t m r => exact .single (.skipIds u t m r)
  | call c => exact .refl
  | turn l a r _ faults =>
    rw [Sys.after_db]
    exact turn_changes _ _ _ _

/-- **The database of a run.**  Along any run of the system the committed
state evolves by changes. -/
theorem Steps.changes {s s' : Sys} (h : Steps s s') : Changes s.db s'.db := by
  induction h with
  | refl => exact .refl
  | tail _ hstep ih => exact ih.trans hstep.changes

/-! ### Calls that nothing disturbs -/

/-- A call that is made, runs its first turn without a fault and returns. -/
def Sys.serve (s : Sys) (c : Call) : Sys :=
  Sys.after { s with active := s.active ++ [⟨c, c, 0⟩] } s.active ⟨c, c, 0⟩ []
    (c.turn 0 (some []) s.db)

theorem steps_serve (s : Sys) (c : Call) : Steps s (s.serve c) :=
  (Relation.ReflTransGen.single (Step.call c)).tail
    (Step.turn s.active ⟨c, c, 0⟩ [] rfl (some []))

theorem reachable_serve {s : Sys} (h : Reachable s) (cs : List Call) :
    Reachable (cs.foldl Sys.serve s) := by
  induction cs generalizing s with
  | nil => exact h
  | cons c cs ih => exact ih (Relation.ReflTransGen.trans h (steps_serve s c))

end LlfcChat
