/-
What a fault leaves behind in the local store.

Every method that writes more than one row ends its transaction with a COMMIT or, where
a statement has failed, with a ROLLBACK, and looks at the result of neither.  If that
statement itself fails, the transaction stays open, the next BEGIN IMMEDIATE fails, and
since a method that cannot begin does not roll back, no method of this kind succeeds any
more.  This is the only way: the transaction is open if and only if a COMMIT or ROLLBACK
has failed.

The bodies of the transactions are `Neutral` and the methods are `Tidy`, by the rules
of `Sqlite`.
-/
import LlfcChat.Client.LocalStore

namespace LlfcChat.LocalStore

open Sqlite LocalDb

variable {α : Type}

/-! ### Statements -/

theorem neutral_onDb (f : LocalDb → Option (α × LocalDb)) : Neutral (onDb f) := neutral_exec _

theorem neutral_fill (out : Bool) (c : String) : Neutral (fillMessageByClientId out c) :=
  neutral_ite (neutral_select _) (neutral_pure _)

theorem neutral_leaveOutbox (out : Bool) (c : String) : Neutral (leaveOutbox out c) :=
  (neutral_onDb _).bind fun _ => neutral_fill out c

theorem neutral_insertMessageIgnore (message : LocalMessageDTO)
    (resource : LocalMessageResourceDTO) : Neutral (insertMessageIgnore message resource) := by
  refine (neutral_check _).bind fun _ => (neutral_onDb _).bind fun newId => ?_
  have hcheck : Neutral (check resource.Complete : Stmt Store Unit) := neutral_check _
  have hresource := fun localId : Int => hcheck.bind fun _ =>
    (neutral_onDb (quiet fun db => some (db.upsertResource localId resource))).bind fun _ =>
      neutral_pure newId.isSome
  cases newId with
  | some localId =>
    exact (neutral_pure localId).bind fun i => neutral_ite (neutral_pure _) (hresource i)
  | none => exact (neutral_select _).bind fun i => neutral_ite (neutral_pure _) (hresource i)

theorem neutral_upsertConversationOnMessage (self : Int) (message : LocalMessageDTO) :
    Neutral (upsertConversationOnMessage self message) := by
  refine neutral_ite ((neutral_pure _).bind fun _ => ?_) ((neutral_select _).bind fun _ => ?_)
  · exact (neutral_check _).bind fun _ => neutral_onDb _
  · exact (neutral_check _).bind fun _ => neutral_onDb _

theorem neutral_receive (self : Int) (message : LocalMessageDTO)
    (resource : LocalMessageResourceDTO) : Neutral (receive self message resource) := by
  refine (neutral_insertMessageIgnore message resource).bind fun _ => neutral_ite ?_
    (neutral_pure _)
  exact (neutral_upsertConversationOnMessage self message).bind fun _ => neutral_pure _

theorem neutral_collect {round : α → Stmt Store (List Int)} (h : ∀ a, Neutral (round a)) :
    ∀ l, Neutral (collect round l)
  | [] => neutral_pure _
  | a :: rest => (h a).bind fun _ => (neutral_collect h rest).bind fun _ => neutral_pure _

theorem neutral_insertPageLoop (threadId : Int) : ∀ page oldest,
    Neutral (insertPageLoop threadId page oldest)
  | [], oldest => neutral_pure oldest
  | (message, resource) :: page, _ => (neutral_check _).bind fun _ =>
    (neutral_insertMessageIgnore message resource).bind fun _ =>
      neutral_insertPageLoop threadId page _

theorem neutral_upsertConversations (now : Int) : ∀ l, Neutral (upsertConversations now l)
  | [] => neutral_pure ()
  | _ :: rest => (neutral_check _).bind fun _ => (neutral_onDb _).bind fun _ =>
    neutral_upsertConversations now rest

theorem neutral_applyFriendEvent (self now : Int) (event : UserEventDTO)
    (friendRequests : List LocalFriendRequestDTO) (contacts : List LocalContactDTO) :
    Neutral (applyFriendEvent self now event friendRequests contacts) := by
  unfold applyFriendEvent
  split
  · exact neutral_fail
  · refine ((neutral_check _).bind fun _ => neutral_exec _).bind fun _ => neutral_ite ?_ ?_
    · exact (neutral_check _).bind fun _ => neutral_pure _
    · refine (neutral_exec _).bind fun _ => ?_
      split
      · exact neutral_fail
      · refine ((neutral_check _).bind fun _ => neutral_exec _).bind fun _ => ?_
        exact (neutral_upsertConversations now _).bind fun _ => neutral_pure _

theorem neutral_applyEvent (self now : Int) (messages : List LocalMessageDTO)
    (resources : List LocalMessageResourceDTO) (friendRequests : List LocalFriendRequestDTO)
    (contacts : List LocalContactDTO) (event : UserEventDTO) :
    Neutral (applyEvent self now messages resources friendRequests contacts event) := by
  refine neutral_ite ?_ (neutral_applyFriendEvent self now event friendRequests contacts)
  split
  · exact neutral_fail
  · exact neutral_receive self _ _

/-! ### Methods -/

/-- The methods with a transaction of their own. -/
def Op.Transactional : Op → Prop
  | .updateResourceLocalPath .. => False
  | _ => True

/-- What a method does that begins a transaction after some tests. -/
def Bracketed (m : Stmt Store α) : Prop := Tidy m ∧ Blocked m

theorem bracketed_transaction {body : Stmt Store α} (h : Neutral body) :
    Bracketed (transaction body) :=
  ⟨Tidy.transaction h, blocked_transaction body⟩

theorem Bracketed.after {β : Type} {m : Stmt Store β} {f : β → Stmt Store α} (hm : Neutral m)
    (h : ∀ b, Bracketed (f b)) : Bracketed (m >>= f) :=
  ⟨hm.tidy.bind fun b => (h b).1, Blocked.bind hm fun b => (h b).2⟩

/-- What a call does to the transaction. -/
def Ends (op : Conn Store → Bool × Conn Store) : Prop :=
  ∀ c, c.working.isSome = c.endFailed → (op c).2.working.isSome = (op c).2.endFailed

theorem Bracketed.report {m : Stmt Store α} (h : Bracketed m) :
    Ends (report m) ∧ ∀ c, c.working.isSome = true → (LocalStore.report m c).1 = false := by
  refine ⟨h.1, fun c hc => ?_⟩
  unfold LocalStore.report
  rw [h.2 c hc]
  rfl

/-- Every transactional method, from its tests to the end of its transaction. -/
theorem perform_bracketed (self : Int) {op : Op} (h : op.Transactional) :
    Ends (perform self op) ∧ ∀ c, c.working.isSome = true → (perform self op c).1 = false := by
  cases op with
  | enqueueSend now message resource outbox =>
    refine Bracketed.report (.after (neutral_check _) fun _ => bracketed_transaction ?_)
    refine (neutral_onDb _).bind fun _ => neutral_ite ?_ (neutral_onDb _)
    exact (neutral_onDb _).bind fun _ => neutral_onDb _
  | confirmTextSent now c m createdAt out =>
    refine Bracketed.report (.after (neutral_check _) fun _ => bracketed_transaction ?_)
    exact (neutral_onDb _).bind fun _ => neutral_leaveOutbox out c
  | updateResourceStage c m stage out =>
    refine Bracketed.report (.after (neutral_check _) fun _ => bracketed_transaction ?_)
    exact (neutral_onDb _).bind fun _ => (neutral_onDb _).bind fun _ => neutral_fill out c
  | confirmResourceSent c path out =>
    refine Bracketed.report (.after (neutral_check _) fun _ => bracketed_transaction ?_)
    exact (neutral_onDb _).bind fun _ => (neutral_onDb _).bind fun _ => neutral_leaveOutbox out c
  | markSendFailed c out =>
    refine Bracketed.report (bracketed_transaction ?_)
    exact (neutral_onDb _).bind fun _ => neutral_leaveOutbox out c
  | insertIncoming messages resources =>
    refine Bracketed.report (.after (neutral_check _) fun _ => bracketed_transaction ?_)
    exact neutral_collect (fun _ => neutral_receive self _ _) _
  | applySyncPage now events messages resources friendRequests contacts newEventSeq =>
    refine Bracketed.report
      (.after (neutral_check _) fun _ => .after (neutral_select _) fun _ => ?_)
    refine .after (neutral_check _) fun _ => bracketed_transaction ?_
    refine (neutral_collect (fun e => neutral_applyEvent self now _ _ _ _ e) _).bind fun _ => ?_
    exact (neutral_exec _).bind fun _ => neutral_pure _
  | insertHistoryPage threadId messages resources historyComplete =>
    refine Bracketed.report (.after (neutral_check _) fun _ => bracketed_transaction ?_)
    exact (neutral_insertPageLoop threadId _ 0).bind fun _ => neutral_onDb _
  | updateResourceLocalPath m path expectedUid => exact h.elim

theorem perform_ends (self : Int) (op : Op) : Ends (perform self op) := by
  by_cases h : op.Transactional
  · exact (perform_bracketed self h).1
  · cases op with
    | updateResourceLocalPath m path expectedUid =>
      exact ((neutral_check _).bind fun _ => neutral_onDb _).tidy
    | _ => exact absurd trivial h

/-! ### Runs -/

theorem run_ends (self : Int) (ops : List Op) (c : Conn Store)
    (hc : c.working.isSome = c.endFailed) :
    (run self ops c).working.isSome = (run self ops c).endFailed := by
  induction ops generalizing c with
  | nil => exact hc
  | cons op ops ih => exact ih _ (perform_ends self op c hc)

/-- After any sequence of calls with any faults: a transaction is open if and only if a
COMMIT or ROLLBACK has failed.  If none has, a call without further faults ends as it
would on a new connection to the same rows; if one has, every transactional call fails,
with or without further faults. -/
theorem recovers_iff (self : Int) (ops : List Op) (s : Store) (faults : List Bool) :
    let c := run self ops { committed := s, faults := faults }
    (c.working = none ↔ c.endFailed = false) ∧
    (c.endFailed = false → ∀ op, perform self op { c with faults := [] } =
      perform self op { committed := c.committed }) ∧
    (c.endFailed = true → ∀ op, op.Transactional → ∀ more,
      (perform self op { c with faults := more }).1 = false) := by
  intro c
  have hends : c.working.isSome = c.endFailed := run_ends self ops _ rfl
  have hnone : c.endFailed = false → c.working = none := fun h =>
    Option.not_isSome_iff_eq_none.mp (ne_true_of_eq_false (hends.trans h))
  refine ⟨⟨fun h => ?_, hnone⟩, fun h op => ?_, fun h op hop more => ?_⟩
  · rw [← hends, h]
    rfl
  · have hc : ({ c with faults := [] } : Conn Store) = { committed := c.committed } := by
      rw [hnone h, h]
    rw [hc]
  · exact (perform_bracketed self hop).2 _ (hends.trans h)

/-- A text that is written. -/
def textCall (clientMessageId : String) : Op :=
  .enqueueSend 100 { clientMessageId := clientMessageId, threadId := 5, senderUserId := 7 } {}
    { clientMessageId := clientMessageId, operationType := .sendText, stage := .none
      payloadJson := "x" }

/-- A text was written, and its COMMIT has failed. -/
def commitFailed : Conn Store :=
  run 7 [textCall "c1"] { committed := {}, faults := [false, false, false, true] }

/-- The next text cannot be written, although it can on a new connection. -/
theorem recovers_fails_at_commit :
    commitFailed.working.isSome = true ∧ commitFailed.faults = [] ∧
      (perform 7 (textCall "c2") commitFailed).1 = false ∧
      (perform 7 (textCall "c2") { committed := commitFailed.committed }).1 = true := by
  decide +kernel

end LlfcChat.LocalStore
