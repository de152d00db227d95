/-
The DAO of GateServer and its pool of connections.

A DAO method borrows a connection from `MySqlPool`, runs statements on it and
gives it back through `returnConnection`: some methods by a scope guard (`Defer`),
others by hand at each exit.  Every call of the driver may throw; the state carries
two scripts that decide which do, one for the statements of the methods and one for
the calls the pool itself makes.  The connection a method has borrowed is the `con`
of the state; giving it back moves it out.  When a method ends, a connection
that is still in `con` is destroyed with the variable.

`connections_given_back_iff` says when a sequence of calls keeps the pool whole:
each call gives back what it took, exactly once, unless `CheckEmail` finds no user
of the name it is asked for; and then, while no call of the pool itself throws, as
many connections are idle as before.
-/
import LlfcChat.Lib.Effect

namespace LlfcChat.Gate

open Effect

/-! ### The pool and the database -/

/-- A connection of the pool (`SqlConnection`). -/
structure SqlConnection where
  id : Nat
  autoCommit : Bool := true
  deriving DecidableEq

/-- `MySqlPool`: the idle connections, the stop flag, and the number of connections
that were lost and wait for the health check to replace them. -/
structure MySqlPool where
  idle : List SqlConnection
  stopped : Bool := false
  failCount : Nat := 0
  nextId : Nat
  deriving DecidableEq

/-- A row of `users`. -/
structure UserRow where
  userId : Int
  username : String
  email : String
  passwordHash : String
  nickname : String
  avatarKey : String
  deriving DecidableEq

/-- The state a DAO method works on. -/
structure World where
  /-- the committed rows of `users`, and the rows the open transaction sees -/
  users : List UserRow
  working : List UserRow
  nextUserId : Int
  pool : MySqlPool
  /-- the local variable `con` of the running method -/
  con : Option SqlConnection := none
  /-- which of the coming statements throw, and which of the coming calls by which the
  pool resets and replaces connections -/
  faults : List Bool := []
  poolFaults : List Bool := []
  /-- the connections that were handed out and those given to `returnConnection` -/
  taken : List Nat := []
  returned : List Nat := []
  deriving DecidableEq

/-- How a method can stop. -/
inductive Stop
  | sqlException
  /-- `getConnection` waits for ever -/
  | blocked
  deriving DecidableEq

/-- A piece of a DAO method. -/
abbrev Dao := Effect World Stop

/-- One call of the driver: it throws or does its work. -/
def driverCall {α : Type} (throws : Bool) (f : World → α × World) : Dao α := fun g =>
  if throws then (.error .sqlException, g) else (.ok (f g).1, (f g).2)

def statement {α : Type} (f : World → α × World) : Dao α := fun g =>
  driverCall (g.faults.headD false) f { g with faults := g.faults.tail }

/-- A call of the driver by the pool. -/
def poolCall {α : Type} (f : World → α × World) : Dao α := fun g =>
  driverCall (g.poolFaults.headD false) f { g with poolFaults := g.poolFaults.tail }

/-- A call of the driver that only reads. -/
def query {α : Type} (f : World → α) : Dao α := statement fun g => (f g, g)

/-- Binding a parameter, preparing a statement. -/
def touch : Dao Unit := query fun _ => ()

/-- A call of the pool that changes nothing of what is modelled. -/
def poolTouch : Dao Unit := poolCall fun g => ((), g)

/-- `catch (sql::SQLException&)` -/
def catchSql {α : Type} (m : Dao α) (k : Dao α) : Dao α :=
  tryCatch m fun
    | .sqlException => some k
    | .blocked => none

def setAutoCommit (b : Bool) : Dao Unit :=
  statement fun g => ((), { g with
    con := g.con.map fun c => { c with autoCommit := b }
    working := g.users })

def rollback : Dao Unit := statement fun g => ((), { g with working := g.users })

def commit : Dao Unit := statement fun g => ((), { g with users := g.working })

/-! ### Borrowing and giving back -/

/-- `MySqlPool::getConnection` into `con`: null when the pool was stopped, and a
wait without end when there is no connection left. -/
def getConnection : Dao Unit := fun g =>
  if g.pool.stopped then (.ok (), { g with con := none })
  else match g.pool.idle with
    | [] => (.error .blocked, g)
    | c :: rest => (.ok (), { g with
        con := some c
        pool := { g.pool with idle := rest }
        taken := g.taken ++ [c.id] })

/-- `con == nullptr` -/
def noConnection : Dao Bool := read fun g => g.con.isNone

/-- `MySqlPool::reconnect`: connect, choose the schema, push. -/
def reconnect : Dao Bool :=
  catchSql
    (do
      poolTouch
      poolTouch
      modify fun g => { g with pool :=
        { g.pool with idle := g.pool.idle ++ [⟨g.pool.nextId, true⟩]
                      nextId := g.pool.nextId + 1 } }
      return true)
    (return false)

/-- Push a clean connection. -/
def pushConnection (c : SqlConnection) : Dao Unit :=
  modify fun g => { g with pool := { g.pool with idle := g.pool.idle ++ [c] } }

/-- A connection whose reset threw is replaced, now or by the health check. -/
def replaceConnection : Dao Unit := do
  if !(← reconnect) then
    modify fun g => { g with pool := { g.pool with failCount := g.pool.failCount + 1 } }

/-- `std::move(con)` -/
def moveConnection : Dao (Option SqlConnection) :=
  call fun g => (g.con, { g with
    con := none
    returned := g.returned ++ (g.con.map (·.id)).toList })

/-- `MySqlPool::returnConnection(std::move(con))` -/
def returnConnection : Dao Unit := do
  let con ← moveConnection
  match con with
  | none => return
  | some c =>
    if ← read fun g => g.pool.stopped then return
    catchSql
      (do
        -- every borrower gets a clean connection in autocommit mode
        poolTouch
        if !c.autoCommit then
          poolCall fun g => ((), { g with working := g.users })
          poolTouch
        pushConnection { c with autoCommit := true })
      replaceConnection

/-! ### The methods -/

/-- What the methods compute with: the functions on passwords, and the comparison by the
collation of `users`, which ignores case and accents. -/
structure Env where
  hashPassword : String → String
  verifyPassword : String → String → Bool
  same : String → String → Bool

section Methods

variable (env : Env)

/-- The part of `RegUserTransaction` inside `try`. -/
def regUserBody (name email pwd icon : String) : Dao Int := do
  setAutoCommit false
  touch
  touch
  let byEmail ← query fun g => g.working.filter (env.same email ·.email)
  let emailExist ← query fun _ => !byEmail.isEmpty
  if emailExist then
    rollback
    return 0
  touch
  touch
  let byName ← query fun g => g.working.filter (env.same name ·.username)
  let nameExist ← query fun _ => !byName.isEmpty
  if nameExist then
    rollback
    return 0
  let hashed := env.hashPassword pwd
  if hashed.isEmpty then
    rollback
    return -1
  touch
  -- the five parameters of the INSERT
  touch; touch; touch; touch; touch
  statement fun g => ((), { g with
    working := g.working ++ [⟨g.nextUserId, name, email, hashed, name, icon⟩]
    nextUserId := g.nextUserId + 1 })
  touch
  touch
  let hasId ← query fun _ => true
  if !hasId then
    rollback
    return -1
  let newId ← query fun g => g.nextUserId - 1
  commit
  return newId

/-- `MysqlDao::RegUserTransaction` -/
def regUserTransaction (name email pwd icon : String) : Dao Int := do
  getConnection
  if ← noConnection then return 0
  defer returnConnection
    (catchSql (regUserBody env name email pwd icon) do
      -- a rollback that throws leaves the method, through the guard
      rollback
      return -1)

/-- Prepare `SELECT .. FROM users WHERE ..`, bind its parameter, run it and ask for
the first row. -/
def selectUser (p : UserRow → Bool) : Dao (Option UserRow) := do
  touch
  touch
  let res ← query fun g => g.users.filter p
  query fun _ => res.head?

/-- `CheckEmail` behind the null check.  The result set is left at its first row, and
without a row nothing gives the connection back. -/
def checkEmailBody (name email : String) : Dao Bool := do
  match ← selectUser (env.same name ·.username) with
  | some row =>
    touch
    let stored ← query fun _ => row.email
    if email ≠ stored then
      returnConnection
      return false
    else
      returnConnection
      return true
  | none => return false

/-- `MysqlDao::CheckEmail` -/
def checkEmail (name email : String) : Dao Bool := do
  getConnection
  catchSql
    (do if ← noConnection then return false else checkEmailBody env name email)
    (do
      returnConnection
      return false)

/-- `UpdatePwd` behind the null check. -/
def updatePwdBody (name newpwd : String) : Dao Bool :=
  let hashed := env.hashPassword newpwd
  if hashed.isEmpty then do
    returnConnection
    return false
  else do
    touch
    touch
    touch
    statement fun g => ((), { g with
      users := g.users.map fun u =>
        if env.same name u.username then { u with passwordHash := hashed } else u })
    returnConnection
    return true

/-- `MysqlDao::UpdatePwd` -/
def updatePwd (name newpwd : String) : Dao Bool := do
  getConnection
  catchSql
    (do if ← noConnection then return false else updatePwdBody env name newpwd)
    (do
      returnConnection
      return false)

/-- The part of `CheckPwd` inside `try`. -/
def checkPwdBody (email pwd : String) : Dao Bool := do
  match ← selectUser (env.same email ·.email) with
  | some row =>
    let originPwd ← query fun _ => row.passwordHash
    -- user name, e-mail and user id go to the out-parameter
    touch; touch; touch
    return env.verifyPassword pwd originPwd
  | none => return env.verifyPassword pwd ""

/-- `MysqlDao::CheckPwd` -/
def checkPwd (email pwd : String) : Dao Bool := do
  getConnection
  if ← noConnection then return false
  defer returnConnection (catchSql (checkPwdBody env email pwd) (return false))

/-- The part of `TestProcedure` that the guard protects. -/
def testProcedureBody (email : String) : Dao Bool := do
  match ← selectUser (env.same email ·.email) with
  | some _ =>
    touch
    touch
    return true
  | none => return false

/-- `MysqlDao::TestProcedure` -/
def testProcedure (email : String) : Dao Bool := do
  getConnection
  catchSql
    (do
      if ← noConnection then return false
      else defer returnConnection (testProcedureBody env email))
    (return false)

/-! ### Sequences of calls -/

/-- A call of the DAO. -/
inductive Call
  | regUserTransaction (name email pwd icon : String)
  | checkEmail (name email : String)
  | updatePwd (name newpwd : String)
  | checkPwd (email pwd : String)
  | testProcedure (email : String)
  deriving DecidableEq

/-- The method of a call; what it returns is of no interest here. -/
def Call.method : Call → Dao Unit
  | .regUserTransaction name email pwd icon => do
    let _ ← Gate.regUserTransaction env name email pwd icon
  | .checkEmail name email => do let _ ← Gate.checkEmail env name email
  | .updatePwd name newpwd => do let _ ← Gate.updatePwd env name newpwd
  | .checkPwd email pwd => do let _ ← Gate.checkPwd env email pwd
  | .testProcedure email => do let _ ← Gate.testProcedure env email

/-- The state after a call: it returned or threw, and `con` is out of scope.
A call that waits for a connection for ever does not end. -/
def Call.finish (c : Call) (g : World) : Option World :=
  match c.method env g with
  | (.error .blocked, _) => none
  | (_, g') => some { g' with con := none }

/-- One call after the other. -/
def finishAll : List Call → World → Option World
  | [], g => some g
  | c :: cs, g => (c.finish env g).bind (finishAll cs)

end Methods

/-! ### What a method does to the pool -/

/-- The connections of the pool, those included that wait to be replaced. -/
def World.size (g : World) : Nat := g.pool.idle.length + g.pool.failCount

/-- The connections stay healthy: no call by which the pool resets one throws. -/
def World.Healthy (g : World) : Prop := true ∉ g.poolFaults

/-- No connection becomes one that waits to be replaced. -/
def KeepsHealth (g g' : World) : Prop :=
  g.Healthy → g'.Healthy ∧ g'.pool.failCount = g.pool.failCount

/-- Only statements ran on the borrowed connection. -/
structure Inside (g g' : World) : Prop where
  pool : g'.pool = g.pool
  taken : g'.taken = g.taken
  returned : g'.returned = g.returned
  con : g'.con.map (·.id) = g.con.map (·.id)
  healthy : g.Healthy → g'.Healthy

/-- The connection in `con` was given back. -/
structure Gave (g g' : World) : Prop where
  stopped : g'.pool.stopped = g.pool.stopped
  size : g'.size = g.size + 1
  taken : g'.taken = g.taken
  returned : g'.returned = g.returned ++ (g.con.map (·.id)).toList
  healthy : KeepsHealth g g'

/-- A connection is borrowed and the pool is open. -/
def World.Borrowed (g : World) : Prop := g.con.isSome ∧ g.pool.stopped = false

variable {α β : Type} {g g' g'' : World}

theorem inside_refl (g : World) : Inside g g := ⟨rfl, rfl, rfl, rfl, id⟩

theorem Inside.trans (h : Inside g g') (h' : Inside g' g'') : Inside g g'' :=
  ⟨h'.pool.trans h.pool, h'.taken.trans h.taken, h'.returned.trans h.returned,
    h'.con.trans h.con, h'.healthy ∘ h.healthy⟩

theorem Inside.keepsHealth (h : Inside g g') : KeepsHealth g g' := fun hg =>
  ⟨h.healthy hg, h.pool ▸ rfl⟩

theorem KeepsHealth.trans (h : KeepsHealth g g') (h' : KeepsHealth g' g'') : KeepsHealth g g'' :=
  fun hg => ⟨(h' (h hg).1).1, (h' (h hg).1).2.trans (h hg).2⟩

theorem Inside.borrowed (h : Inside g g') (hg : g.Borrowed) : g'.Borrowed := by
  refine ⟨?_, h.pool ▸ hg.2⟩
  have hcon := congrArg Option.isSome h.con
  rw [Option.isSome_map, Option.isSome_map] at hcon
  exact hcon.trans hg.1

theorem Inside.gave (h : Inside g g') (h' : Gave g' g'') : Gave g g'' := by
  refine ⟨h'.stopped.trans (h.pool ▸ rfl), ?_, h'.taken.trans h.taken, ?_,
    h.keepsHealth.trans h'.healthy⟩
  · rw [h'.size]
    unfold World.size
    rw [h.pool]
  · rw [h'.returned, h.returned, h.con]

variable {m : Dao α} {k : α → Dao β}

/-- One statement or several: they throw or run through. -/
def Steps (m : Dao α) : Prop :=
  ∀ g, (∃ g', m g = (.error .sqlException, g') ∧ Inside g g') ∨
    ∃ a g', m g = (.ok a, g') ∧ Inside g g'

/-- A statement throws or does its work, and the script goes on. -/
theorem steps_statement {f : World → α × World} (hf : ∀ g, Inside g (f g).2) :
    Steps (statement f) := by
  intro g
  have htail : Inside g { g with faults := g.faults.tail } := ⟨rfl, rfl, rfl, rfl, id⟩
  unfold statement driverCall
  split
  · exact .inl ⟨_, rfl, htail⟩
  · exact .inr ⟨_, _, rfl, htail.trans (hf _)⟩

theorem steps_query (f : World → α) : Steps (query f) := steps_statement inside_refl

theorem steps_touch : Steps touch := steps_query _

theorem steps_rollback : Steps rollback := steps_statement fun _ => ⟨rfl, rfl, rfl, rfl, id⟩

theorem steps_return (a : α) : Steps (pure a : Dao α) := fun g => .inr ⟨a, g, rfl, inside_refl g⟩

theorem Steps.bind (h : Steps m) (h' : ∀ a, Steps (k a)) : Steps (m >>= k) := by
  intro g
  rcases h g with ⟨g₁, e₁, h₁⟩ | ⟨a, g₁, e₁, h₁⟩
  · exact .inl ⟨g₁, bind_eq_error e₁, h₁⟩
  · rw [bind_eq_ok e₁]
    rcases h' a g₁ with ⟨g₂, e₂, h₂⟩ | ⟨b, g₂, e₂, h₂⟩
    · exact .inl ⟨g₂, e₂, h₁.trans h₂⟩
    · exact .inr ⟨b, g₂, e₂, h₁.trans h₂⟩

theorem Steps.ite {c : Prop} [Decidable c] {m' : Dao α} (h : Steps m) (h' : Steps m') :
    Steps (if c then m else m') := by
  split
  · exact h
  · exact h'

theorem Steps.catch {k : Dao α} (h : Steps m) (h' : Steps k) : Steps (catchSql m k) := by
  intro g
  unfold catchSql Effect.tryCatch
  rcases h g with ⟨g₁, e₁, h₁⟩ | ⟨a, g₁, e₁, h₁⟩
  · rw [e₁]
    rcases h' g₁ with ⟨g₂, e₂, h₂⟩ | ⟨b, g₂, e₂, h₂⟩
    · exact .inl ⟨g₂, e₂, h₁.trans h₂⟩
    · exact .inr ⟨b, g₂, e₂, h₁.trans h₂⟩
  · rw [e₁]
    exact .inr ⟨a, g₁, rfl, h₁⟩

theorem Steps.inside (h : Steps m) (g : World) : Inside g (m g).2 := by
  rcases h g with ⟨g', e, h⟩ | ⟨a, g', e, h⟩ <;> rw [e] <;> exact h

theorem steps_selectUser (p : UserRow → Bool) : Steps (selectUser p) :=
  steps_touch.bind fun _ => steps_touch.bind fun _ => (steps_query _).bind fun _ => steps_query _

/-! ### Giving back -/

/-- A call of the pool throws, which no healthy connection lets happen, or does its
work. -/
theorem poolCall_cases {f : World → Unit × World} (hf : ∀ g, Inside g (f g).2) (g : World) :
    (∃ g', poolCall f g = (.error .sqlException, g') ∧ Inside g g' ∧ ¬g.Healthy) ∨
      ∃ g', poolCall f g = (.ok (), g') ∧ Inside g g' := by
  have htail : Inside g { g with poolFaults := g.poolFaults.tail } :=
    ⟨rfl, rfl, rfl, rfl, mt List.mem_of_mem_tail⟩
  unfold poolCall driverCall
  split
  · rename_i hthrows
    refine .inl ⟨_, rfl, htail, fun hhealthy => hhealthy ?_⟩
    cases hfaults : g.poolFaults with
    | nil =>
      rw [hfaults] at hthrows
      cases hthrows
    | cons b bs =>
      rw [hfaults] at hthrows
      exact hthrows ▸ List.mem_cons_self
  · exact .inr ⟨_, rfl, htail.trans (hf _)⟩

/-- What a step of `returnConnection` leaves alone. -/
structure Beside (g g' : World) : Prop where
  stopped : g'.pool.stopped = g.pool.stopped
  taken : g'.taken = g.taken
  returned : g'.returned = g.returned

theorem Beside.trans (h : Beside g g') (h' : Beside g' g'') : Beside g g'' :=
  ⟨h'.stopped.trans h.stopped, h'.taken.trans h.taken, h'.returned.trans h.returned⟩

theorem Inside.beside (h : Inside g g') : Beside g g' := ⟨h.pool ▸ rfl, h.taken, h.returned⟩

theorem Inside.size (h : Inside g g') : g'.size = g.size := by
  unfold World.size
  rw [h.pool]

/-- A reconnection adds a connection or nothing. -/
theorem reconnect_spec (g : World) :
    ∃ b g', reconnect g = (.ok b, g') ∧ Beside g g' ∧
      g'.size = if b then g.size + 1 else g.size := by
  unfold reconnect catchSql Effect.tryCatch
  rcases poolCall_cases (f := fun g => ((), g)) inside_refl g with ⟨g₁, e₁, h₁, -⟩ | ⟨g₁, e₁, h₁⟩
  · rw [bind_eq_error (m := poolTouch) e₁]
    exact ⟨false, g₁, rfl, h₁.beside, h₁.size⟩
  · rw [bind_eq_ok (m := poolTouch) e₁]
    rcases poolCall_cases (f := fun g => ((), g)) inside_refl g₁ with
      ⟨g₂, e₂, h₂, -⟩ | ⟨g₂, e₂, h₂⟩
    · rw [bind_eq_error (m := poolTouch) e₂]
      exact ⟨false, g₂, rfl, (h₁.trans h₂).beside, (h₁.trans h₂).size⟩
    · rw [bind_eq_ok (m := poolTouch) e₂]
      have hbeside := (h₁.trans h₂).beside
      refine ⟨true, _, rfl, ⟨hbeside.stopped, hbeside.taken, hbeside.returned⟩, ?_⟩
      have hsize := (h₁.trans h₂).size
      simp only [World.size, List.length_append, List.length_singleton, if_true] at hsize ⊢
      omega

theorem replaceConnection_spec (g : World) :
    ∃ g', replaceConnection g = (.ok (), g') ∧ Beside g g' ∧ g'.size = g.size + 1 := by
  obtain ⟨b, g', e, hbeside, hsize⟩ := reconnect_spec g
  unfold replaceConnection
  rw [bind_eq_ok e]
  cases b with
  | true => exact ⟨g', rfl, hbeside, hsize⟩
  | false =>
    refine ⟨_, rfl, ⟨hbeside.stopped, hbeside.taken, hbeside.returned⟩, ?_⟩
    simp only [World.size] at hsize ⊢
    simp only [Bool.false_eq_true, if_false] at hsize
    omega

/-- Calls of the pool: one of them throws, or the connection is pushed. -/
def Pushes (m : Dao Unit) : Prop := ∀ g,
  (∃ g', m g = (.error .sqlException, g') ∧ Inside g g' ∧ ¬g.Healthy) ∨
    ∃ g', m g = (.ok (), g') ∧ Beside g g' ∧ g'.size = g.size + 1 ∧ KeepsHealth g g'

theorem pushes_pushConnection (c : SqlConnection) : Pushes (pushConnection c) := fun g => by
  refine .inr ⟨_, rfl, ⟨rfl, rfl, rfl⟩, ?_, fun hg => ⟨hg, rfl⟩⟩
  simp only [World.size, List.length_append, List.length_singleton]
  omega

theorem pushes_then {f : World → Unit × World} (hf : ∀ g, Inside g (f g).2) {m : Dao Unit}
    (hm : Pushes m) : Pushes (do poolCall f; m) := by
  intro g
  rcases poolCall_cases hf g with ⟨g₁, e₁, h₁, hsick⟩ | ⟨g₁, e₁, h₁⟩
  · exact .inl ⟨g₁, bind_eq_error e₁, h₁, hsick⟩
  · rw [bind_eq_ok e₁]
    rcases hm g₁ with ⟨g₂, e₂, h₂, hsick⟩ | ⟨g₂, e₂, h₂, hsize, hkeeps⟩
    · exact .inl ⟨g₂, e₂, h₁.trans h₂, mt h₁.healthy hsick⟩
    · exact .inr ⟨g₂, e₂, h₁.beside.trans h₂, hsize.trans (by rw [h₁.size]),
        h₁.keepsHealth.trans hkeeps⟩

/-- Resetting the connection throws, or the connection is pushed. -/
theorem pushes_reset (c : SqlConnection) :
    Pushes (do
      poolTouch
      if !c.autoCommit then
        poolCall fun g => ((), { g with working := g.users })
        poolTouch
      pushConnection { c with autoCommit := true }) := by
  refine pushes_then inside_refl ?_
  cases hauto : c.autoCommit with
  | true => exact pushes_pushConnection _
  | false =>
    exact pushes_then (fun _ => ⟨rfl, rfl, rfl, rfl, id⟩)
      (pushes_then inside_refl (pushes_pushConnection _))

/-- **`returnConnection` gives back**, whatever the reset of the connection does. -/
theorem returnConnection_spec (hg : g.Borrowed) :
    ∃ g', returnConnection g = (.ok (), g') ∧ Gave g g' := by
  obtain ⟨c, hc⟩ := Option.isSome_iff_exists.mp hg.1
  obtain ⟨g₁, hg₁⟩ : ∃ g₁ : World, g₁ =
      { g with con := none, returned := g.returned ++ (g.con.map (·.id)).toList } := ⟨_, rfl⟩
  have hmove : moveConnection g = (.ok (some c), g₁) := by
    simp [moveConnection, call, hc, hg₁]
  have hread : (read fun g => g.pool.stopped : Dao Bool) g₁ = (.ok false, g₁) := by
    show (Except.ok g₁.pool.stopped, g₁) = _
    rw [hg₁, hg.2]
  unfold returnConnection
  rw [bind_eq_ok hmove]
  dsimp only
  rw [bind_eq_ok hread]
  simp only [Bool.false_eq_true, if_false]
  have hgave : ∀ {g' : World}, Beside g₁ g' → g'.size = g₁.size + 1 → KeepsHealth g₁ g' →
      Gave g g' := fun h hs hk => by
    subst hg₁
    exact ⟨h.stopped, hs, h.taken, h.returned, hk⟩
  unfold catchSql Effect.tryCatch
  rcases pushes_reset c g₁ with ⟨g₂, e₂, h₂, hsick⟩ | ⟨g₂, e₂, h₂, hsize, hkeeps⟩
  · obtain ⟨g₃, e₃, h₃, hsize⟩ := replaceConnection_spec g₂
    simp only [e₂]
    exact ⟨g₃, e₃, hgave (h₂.beside.trans h₃) (hsize.trans (by rw [h₂.size]))
      fun hhealthy => absurd hhealthy hsick⟩
  · simp only [e₂]
    exact ⟨g₂, rfl, hgave h₂ hsize hkeeps⟩

/-! ### Methods with a scope guard -/

/-- Whatever happens, the borrowed connection is given back. -/
def Settles (m : Dao α) : Prop := ∀ g, g.Borrowed → Gave g (m g).2

theorem settles_defer (h : Steps m) : Settles (defer returnConnection m) := by
  intro g hg
  rw [defer_snd]
  obtain ⟨g', e, hgave⟩ := returnConnection_spec ((h.inside g).borrowed hg)
  rw [e]
  exact (h.inside g).gave hgave

/-- `con` is not null. -/
theorem noConnection_of_borrowed {m' : Dao α} (hg : g.Borrowed) :
    (do if ← noConnection then m' else m : Dao α) g = m g := by
  have hread : noConnection g = (.ok false, g) := by
    show (Except.ok g.con.isNone, g) = _
    rw [Option.isNone_eq_false_iff.mpr hg.1]
  rw [bind_eq_ok hread]
  rfl

theorem settles_noConnection (m' : Dao α) (h : Settles m) :
    Settles (do if ← noConnection then m' else m) := by
  intro g hg
  rw [noConnection_of_borrowed hg]
  exact h g hg

/-- An exception that is caught with nothing to do. -/
theorem settles_catch (h : Settles m) (a : α) : Settles (catchSql m (return a)) := by
  intro g hg
  have hs := h g hg
  unfold catchSql Effect.tryCatch
  rcases e : m g with ⟨(- | -) | b, g'⟩ <;> rw [e] at hs <;> exact hs

/-! ### Methods that give back by hand -/

/-- Inside `try`: an exit gives back, and an exception leaves the connection to
the handler. -/
def Ends (m : Dao α) (g : World) : Prop :=
  (∃ a g', m g = (.ok a, g') ∧ Gave g g') ∨ ∃ g', m g = (.error .sqlException, g') ∧ Inside g g'

theorem ends_then (h : Steps m) (h' : ∀ a g', Inside g g' → Ends (k a) g') : Ends (m >>= k) g := by
  rcases h g with ⟨g₁, e₁, h₁⟩ | ⟨a, g₁, e₁, h₁⟩
  · exact .inr ⟨g₁, bind_eq_error e₁, h₁⟩
  · unfold Ends
    rw [bind_eq_ok e₁]
    rcases h' a g₁ h₁ with ⟨b, g₂, e₂, h₂⟩ | ⟨g₂, e₂, h₂⟩
    · exact .inl ⟨b, g₂, e₂, h₁.gave h₂⟩
    · exact .inr ⟨g₂, e₂, h₁.trans h₂⟩

theorem ends_return (hg : g.Borrowed) (a : α) : Ends (do returnConnection; return a) g := by
  obtain ⟨g', e, hgave⟩ := returnConnection_spec hg
  exact .inl ⟨a, g', by rw [bind_eq_ok e]; rfl, hgave⟩

theorem Ends.ite {c : Prop} [Decidable c] {m' : Dao α} (h : c → Ends m g) (h' : ¬c → Ends m' g) :
    Ends (if c then m else m') g := by
  split
  · exact h ‹_›
  · exact h' ‹_›

theorem Ends.behind (h : Ends m g) (hg : g.Borrowed) (m' : Dao α) :
    Ends (do if ← noConnection then m' else m) g := by
  unfold Ends
  rw [noConnection_of_borrowed hg]
  exact h

/-- The handler gives back what the exception left. -/
theorem Ends.catch (h : Ends m g) (hg : g.Borrowed) (a : α) :
    Gave g (catchSql m (do returnConnection; return a) g).2 := by
  unfold catchSql Effect.tryCatch
  rcases h with ⟨b, g', e, hgave⟩ | ⟨g', e, hinside⟩
  · rw [e]
    exact hgave
  · rw [e]
    obtain ⟨g'', e', hgave⟩ := returnConnection_spec (hinside.borrowed hg)
    show Gave g ((do returnConnection; return a : Dao α) g').2
    rw [bind_eq_ok e']
    exact hinside.gave hgave

/-! ### Each method -/

section Methods

variable (env : Env)

theorem steps_regUserBody (name email pwd icon : String) :
    Steps (regUserBody env name email pwd icon) := by
  have hexit : ∀ i : Int, Steps (do rollback; return i : Dao Int) := fun i =>
    steps_rollback.bind fun _ => steps_return i
  have htouch : ∀ {k : Dao Int}, Steps k → Steps (do touch; k) := fun h =>
    steps_touch.bind fun _ => h
  have hquery : ∀ {γ : Type} {f : World → γ} {k : γ → Dao Int}, (∀ a, Steps (k a)) →
      Steps (query f >>= k) := fun h => (steps_query _).bind h
  have hauto : Steps (setAutoCommit false) :=
    steps_statement fun g => ⟨rfl, rfl, rfl, by rw [Option.map_map]; rfl, id⟩
  have hcommit : Steps commit := steps_statement fun _ => ⟨rfl, rfl, rfl, rfl, id⟩
  refine hauto.bind fun _ => htouch (htouch ?_)
  refine hquery fun _ => hquery fun _ => (hexit 0).ite ?_
  refine htouch (htouch (hquery fun _ => hquery fun _ => (hexit 0).ite ?_))
  refine (hexit (-1)).ite ?_
  refine htouch (htouch (htouch (htouch (htouch (htouch ?_)))))
  refine (steps_statement fun _ => ⟨rfl, rfl, rfl, rfl, id⟩).bind fun _ => ?_
  refine htouch (htouch (hquery fun _ => (hexit (-1)).ite ?_))
  exact hquery fun _ => hcommit.bind fun _ => steps_return _

theorem steps_checkPwdBody (email pwd : String) : Steps (checkPwdBody env email pwd) := by
  refine (steps_selectUser _).bind fun row => ?_
  cases row with
  | none => exact steps_return _
  | some row =>
    exact (steps_query _).bind fun _ => steps_touch.bind fun _ => steps_touch.bind fun _ =>
      steps_touch.bind fun _ => steps_return _

theorem steps_testProcedureBody (email : String) : Steps (testProcedureBody env email) := by
  refine (steps_selectUser _).bind fun row => ?_
  cases row with
  | none => exact steps_return _
  | some row => exact steps_touch.bind fun _ => steps_touch.bind fun _ => steps_return _

theorem ends_updatePwdBody (name newpwd : String) (hg : g.Borrowed) :
    Ends (updatePwdBody env name newpwd) g := by
  refine Ends.ite (fun _ => ends_return hg false) fun _ => ?_
  refine ends_then steps_touch fun _ g₁ h₁ => ends_then steps_touch fun _ g₂ h₂ => ?_
  refine ends_then steps_touch fun _ g₃ h₃ => ?_
  refine ends_then (steps_statement fun _ => ⟨rfl, rfl, rfl, rfl, id⟩) fun _ g₄ h₄ => ?_
  exact ends_return (h₄.borrowed (h₃.borrowed (h₂.borrowed (h₁.borrowed hg)))) true

end Methods

/-- With a row, every exit of `CheckEmail` gives back. -/
theorem ends_checkEmailBody {name : String} (email : String) (hg : g.Borrowed)
    (hrow : (selectUser (env.same name ·.username) g).1 ≠ .ok none) :
    Ends (checkEmailBody env name email) g := by
  rcases steps_selectUser (env.same name ·.username) g with ⟨g₁, e₁, h₁⟩ | ⟨found, g₁, e₁, h₁⟩
  · exact .inr ⟨g₁, bind_eq_error e₁, h₁⟩
  · rw [e₁] at hrow
    obtain ⟨row, rfl⟩ := Option.ne_none_iff_exists'.mp fun h => hrow (congrArg Except.ok h)
    have hrest : Ends (do
        touch
        let stored ← query fun _ => row.email
        if email ≠ stored then
          returnConnection
          return false
        else
          returnConnection
          return true) g₁ := by
      refine ends_then steps_touch fun _ g₂ h₂ => ends_then (steps_query _) fun _ g₃ h₃ => ?_
      have hborrowed := h₃.borrowed (h₂.borrowed (h₁.borrowed hg))
      exact Ends.ite (fun _ => ends_return hborrowed false) fun _ => ends_return hborrowed true
    unfold Ends checkEmailBody
    rw [bind_eq_ok e₁]
    rcases hrest with ⟨b, g₂, e₂, h₂⟩ | ⟨g₂, e₂, h₂⟩
    · exact .inl ⟨b, g₂, e₂, h₁.gave h₂⟩
    · exact .inr ⟨g₂, e₂, h₁.trans h₂⟩

/-- Without a row, the connection stays in `con`. -/
theorem checkEmailBody_miss {name : String} (email : String)
    (hmiss : (selectUser (env.same name ·.username) g).1 = .ok none) :
    ∃ g', checkEmailBody env name email g = (.ok false, g') ∧ Inside g g' := by
  have hin := (steps_selectUser (env.same name ·.username)).inside g
  rcases e : selectUser (env.same name ·.username) g with ⟨r, g'⟩
  rw [e] at hmiss hin
  cases hmiss
  refine ⟨g', ?_, hin⟩
  unfold checkEmailBody
  rw [bind_eq_ok e]
  rfl

/-! ### Calls -/

/-- `getConnection` took a connection. -/
structure Took (g g' : World) : Prop where
  borrowed : g'.Borrowed
  size : g'.size + 1 = g.size
  taken : g'.taken = g.taken ++ (g'.con.map (·.id)).toList
  returned : g'.returned = g.returned
  users : g'.users = g.users
  faults : g'.faults = g.faults
  healthy : KeepsHealth g g'

theorem getConnection_cases (hopen : g.pool.stopped = false) :
    getConnection g = (.error .blocked, g) ∨ ∃ g', getConnection g = (.ok (), g') ∧ Took g g' := by
  unfold getConnection
  rw [if_neg (by simp [hopen])]
  rcases h : g.pool.idle with - | ⟨c, rest⟩
  · exact .inl rfl
  · refine .inr ⟨_, rfl, ⟨⟨rfl, hopen⟩, ?_, rfl, rfl, rfl, rfl, fun hg => ⟨hg, rfl⟩⟩⟩
    simp only [World.size, h, List.length_cons]
    omega

/-- The call took a connection and gave it back, once. -/
structure GaveBack (g g' : World) : Prop where
  once : ∃ id, g'.taken = g.taken ++ [id] ∧ g'.returned = g.returned ++ [id]
  size : g'.size = g.size
  stopped : g'.pool.stopped = g.pool.stopped
  healthy : KeepsHealth g g'

/-- The call took a connection, and it is gone. -/
structure Lost (g g' : World) : Prop where
  once : ∃ id, g'.taken = g.taken ++ [id] ∧ g'.returned = g.returned
  size : g'.size + 1 = g.size
  stopped : g'.pool.stopped = g.pool.stopped
  healthy : KeepsHealth g g'

theorem Took.gaveBack (h : Took g g') (hopen : g.pool.stopped = false) (h' : Gave g' g'') :
    GaveBack g g'' := by
  obtain ⟨c, hc⟩ := Option.isSome_iff_exists.mp h.borrowed.1
  refine ⟨⟨c.id, ?_, ?_⟩, h'.size.trans h.size, h'.stopped.trans (h.borrowed.2.trans hopen.symm),
    h.healthy.trans h'.healthy⟩
  · rw [h'.taken, h.taken, hc]
    rfl
  · rw [h'.returned, h.returned, hc]
    rfl

theorem Took.lost (h : Took g g') (hopen : g.pool.stopped = false) (h' : Inside g' g'') :
    Lost g g'' := by
  obtain ⟨c, hc⟩ := Option.isSome_iff_exists.mp h.borrowed.1
  refine ⟨⟨c.id, ?_, ?_⟩, ?_, (congrArg _ h'.pool).trans (h.borrowed.2.trans hopen.symm),
    h.healthy.trans h'.keepsHealth⟩
  · rw [h'.taken, h.taken, hc]
    rfl
  · rw [h'.returned, h.returned]
  · rw [h'.size]
    exact h.size

/-- What the rows and the script decide is not changed by borrowing. -/
theorem selectUser_fst (p : UserRow → Bool) (hu : g'.users = g.users)
    (hf : g'.faults = g.faults) : (selectUser p g').1 = (selectUser p g).1 := by
  simp only [selectUser, touch, query, statement, driverCall, Bind.bind, Effect.bind, hu, hf]
  -- one question for each of the four statements: does the script let it throw?
  split_ifs
  · rfl
  dsimp only
  split_ifs
  · rfl
  dsimp only
  split_ifs
  · rfl
  dsimp only
  split_ifs <;> rfl

/-- The call is a `CheckEmail` whose `SELECT` runs through and has no row. -/
def Call.Misses (env : Env) (c : Call) (g : World) : Prop :=
  match c with
  | .checkEmail name _ => (selectUser (env.same name ·.username) g).1 = .ok none
  | _ => False

section Calls

variable (env : Env)

/-- A call that ends has run behind `getConnection`. -/
theorem finish_of_method {m : Dao α} {c : Call} {r : World}
    (hm : c.method env = do let _ ← (getConnection >>= fun _ => m))
    (hopen : g.pool.stopped = false) (h : c.finish env g = some r) :
    ∃ g', Took g g' ∧ r = { (m g').2 with con := none } := by
  unfold Call.finish at h
  rw [hm] at h
  rcases getConnection_cases hopen with e | ⟨g', e, htook⟩
  · rw [bind_eq_error (bind_eq_error e)] at h
    cases h
  · refine ⟨g', htook, ?_⟩
    have hbind := bind_eq_ok (f := fun _ => m) e
    rcases e' : m g' with ⟨(- | -) | a, g''⟩
    · rw [bind_eq_error (hbind.trans e')] at h
      exact (Option.some.inj h).symm
    · rw [bind_eq_error (hbind.trans e')] at h
      cases h
    · rw [bind_eq_ok (hbind.trans e')] at h
      exact (Option.some.inj h).symm

/-- Leaving the scope of `con` changes nothing that is counted. -/
theorem GaveBack.leave (h : GaveBack g g') : GaveBack g { g' with con := none } :=
  ⟨h.once, h.size, h.stopped, h.healthy⟩

theorem Lost.leave (h : Lost g g') : Lost g { g' with con := none } :=
  ⟨h.once, h.size, h.stopped, h.healthy⟩

/-- **One call** gives its connection back, or it misses and the connection is lost. -/
theorem finish_spec {c : Call} {r : World} (hopen : g.pool.stopped = false)
    (h : c.finish env g = some r) :
    (¬c.Misses env g → GaveBack g r) ∧ (c.Misses env g → Lost g r) := by
  cases c with
  | regUserTransaction name email pwd icon =>
    obtain ⟨g', htook, rfl⟩ := finish_of_method env rfl hopen h
    have hbody := (steps_regUserBody env name email pwd icon).catch
      (steps_rollback.bind fun _ => steps_return (-1))
    have hgave := settles_noConnection (return 0) (settles_defer hbody) g' htook.borrowed
    exact ⟨fun _ => (htook.gaveBack hopen hgave).leave, False.elim⟩
  | checkEmail name email =>
    obtain ⟨g', htook, rfl⟩ := finish_of_method env rfl hopen h
    have hmisses : (selectUser (env.same name ·.username) g').1 = .ok none ↔
        (Call.checkEmail name email).Misses env g := by
      rw [selectUser_fst _ htook.users htook.faults]
      exact Iff.rfl
    refine ⟨fun hrow => ?_, fun hmiss => ?_⟩
    · have hends := ends_checkEmailBody email htook.borrowed (mt hmisses.mp hrow)
      have hgave := (hends.behind htook.borrowed (return false)).catch htook.borrowed false
      exact (htook.gaveBack hopen hgave).leave
    · obtain ⟨g'', e, hinside⟩ := checkEmailBody_miss email (hmisses.mpr hmiss)
      refine (htook.lost hopen ?_).leave
      unfold catchSql Effect.tryCatch
      rw [noConnection_of_borrowed htook.borrowed, e]
      exact hinside
  | updatePwd name newpwd =>
    obtain ⟨g', htook, rfl⟩ := finish_of_method env rfl hopen h
    have hends := ends_updatePwdBody env name newpwd htook.borrowed
    have hgave := (hends.behind htook.borrowed (return false)).catch htook.borrowed false
    exact ⟨fun _ => (htook.gaveBack hopen hgave).leave, False.elim⟩
  | checkPwd email pwd =>
    obtain ⟨g', htook, rfl⟩ := finish_of_method env rfl hopen h
    have hbody := (steps_checkPwdBody env email pwd).catch (steps_return false)
    have hgave := settles_noConnection (return false) (settles_defer hbody) g'
      htook.borrowed
    exact ⟨fun _ => (htook.gaveBack hopen hgave).leave, False.elim⟩
  | testProcedure email =>
    obtain ⟨g', htook, rfl⟩ := finish_of_method env rfl hopen h
    have hbody := settles_noConnection (return false)
      (settles_defer (steps_testProcedureBody env email))
    have hgave := settles_catch hbody false g' htook.borrowed
    exact ⟨fun _ => (htook.gaveBack hopen hgave).leave, False.elim⟩

/-! ### Sequences of calls -/

/-- `P` holds of every call of the sequence and the states around it. -/
def ForEach (P : Call → World → World → Prop) (calls : List Call) (g : World) : Prop :=
  ∀ before c after g₁ g₂, calls = before ++ c :: after →
    finishAll env before g = some g₁ →
    c.finish env g₁ = some g₂ → P c g₁ g₂

variable {env}

theorem forEach_cons {P : Call → World → World → Prop} {c : Call} {cs : List Call} {g₁ : World}
    (hc : c.finish env g = some g₁) :
    ForEach env P (c :: cs) g ↔
      P c g g₁ ∧ ForEach env P cs g₁ := by
  constructor
  · intro h
    refine ⟨h [] c cs g g₁ rfl rfl hc, fun before d after g₂ g₃ e h₂ h₃ => ?_⟩
    refine h (c :: before) d after g₂ g₃ (by rw [e]; rfl) ?_ h₃
    simp [finishAll, hc, h₂]
  · rintro ⟨hP, hrest⟩ before d after g₂ g₃ e h₂ h₃
    rcases before with - | ⟨c', before⟩
    · cases e
      cases h₂
      cases hc.symm.trans h₃
      exact hP
    · cases e
      simp only [finishAll, hc, Option.bind_some] at h₂
      exact hrest before d after g₂ g₃ rfl h₂ h₃

/-- The sizes and the open pool along a sequence without a miss, and what a miss costs:
every call ends whole or one connection poorer, and no call makes a healthy pool sick. -/
theorem finishAll_size {calls : List Call} {r : World} (hopen : g.pool.stopped = false)
    (h : finishAll env calls g = some r) :
    KeepsHealth g r ∧ r.size ≤ g.size ∧
      (r.size = g.size ↔ ForEach env (fun c g _ => ¬c.Misses env g) calls g) ∧
      (ForEach env (fun c g _ => ¬c.Misses env g) calls g →
        ForEach env (fun _ => GaveBack) calls g) := by
  induction calls generalizing g with
  | nil =>
    cases h
    have hnone : ∀ {P}, ForEach env P [] r := fun before c after _ _ e =>
      absurd e (by simp)
    exact ⟨fun hg => ⟨hg, rfl⟩, Nat.le_refl _, iff_of_true rfl hnone, fun _ => hnone⟩
  | cons c cs ih =>
    obtain ⟨g₁, hc, hrest⟩ := Option.bind_eq_some_iff.mp h
    obtain ⟨hgave, hlost⟩ := finish_spec env hopen hc
    rw [forEach_cons hc, forEach_cons hc]
    by_cases hmiss : c.Misses env g
    · have hl := hlost hmiss
      obtain ⟨hkeeps, hle, -, -⟩ := ih (hl.stopped.trans hopen) hrest
      have hsize := hl.size
      refine ⟨hl.healthy.trans hkeeps, by omega,
        ⟨fun e => absurd e (by omega), fun h => absurd hmiss h.1⟩, fun h => ?_⟩
      exact absurd hmiss h.1
    · have hg := hgave hmiss
      obtain ⟨hkeeps, hle, hiff, hall⟩ := ih (hg.stopped.trans hopen) hrest
      rw [hg.size] at hle hiff
      exact ⟨hg.healthy.trans hkeeps, hle, hiff.trans (by simp [hmiss]), fun h => ⟨hg, hall h.2⟩⟩

/-- **The pool stays whole exactly if no `CheckEmail` misses.**  For every sequence
of calls that end, on an open pool, with any rows and any scripts of exceptions: each
call has given back exactly the connection it took, and the pool has as many
connections as before, if and only if no call is a `CheckEmail` whose `SELECT` runs
through without a row.  While the connections stay healthy, those that are idle are as
many as before in exactly the same sequences. -/
theorem connections_given_back_iff (calls : List Call) (g r : World)
    (hopen : g.pool.stopped = false)
    (h : finishAll env calls g = some r) :
    ((ForEach env (fun _ => GaveBack) calls g ∧
        r.pool.idle.length + r.pool.failCount = g.pool.idle.length + g.pool.failCount) ↔
      ForEach env (fun c g _ => ¬c.Misses env g) calls g) ∧
    (g.Healthy → (r.pool.idle.length = g.pool.idle.length ↔
      ForEach env (fun c g _ => ¬c.Misses env g) calls g)) := by
  obtain ⟨hkeeps, -, hiff, hall⟩ := finishAll_size hopen h
  refine ⟨⟨fun hboth => hiff.mp hboth.2, fun hmiss => ⟨hall hmiss, hiff.mpr hmiss⟩⟩,
    fun hhealthy => ?_⟩
  rw [← hiff]
  unfold World.size
  rw [(hkeeps hhealthy).2]
  exact Nat.add_right_cancel_iff.symm

end Calls

/-! ### A pool of five -/

/-- GateServer after its start, with one registered user. -/
def started : World where
  users := [⟨1, "ada", "ada@x", "h", "ada", ""⟩]
  working := []
  nextUserId := 2
  pool := { idle := [⟨0, true⟩, ⟨1, true⟩, ⟨2, true⟩, ⟨3, true⟩, ⟨4, true⟩], nextId := 5 }

/-- Passwords in the clear, and names compared letter by letter. -/
def exactEnv : Env := ⟨id, (· == ·), (· == ·)⟩

/-- A reset of the password of a user that does not exist costs a connection, of a pool
whose connections are healthy. -/
theorem connection_lost_on_miss : started.Healthy ∧
    (finishAll exactEnv [.checkEmail "bob" "bob@x"] started).map
        (fun r => (r.taken, r.returned, r.pool.idle.length, r.pool.failCount)) =
      some ([0], [], 4, 0) := ⟨List.not_mem_nil, by decide +kernel⟩

/-- A password reset leaves the pool whole: its two calls are `CheckEmail` and
`UpdatePwd`. -/
theorem connections_given_back_started :
    ∃ r, finishAll exactEnv [.checkEmail "ada" "ada@x", .updatePwd "ada" "h2"] started = some r ∧
      (ForEach exactEnv (fun _ => GaveBack)
          [.checkEmail "ada" "ada@x", .updatePwd "ada" "h2"] started ∧
        r.pool.idle.length + r.pool.failCount = 5 ↔
      ForEach exactEnv (fun c g _ => ¬c.Misses exactEnv g)
        [.checkEmail "ada" "ada@x", .updatePwd "ada" "h2"] started) ∧
      (started.Healthy → (r.pool.idle.length = 5 ↔
        ForEach exactEnv (fun c g _ => ¬c.Misses exactEnv g)
          [.checkEmail "ada" "ada@x", .updatePwd "ada" "h2"] started)) := by
  obtain ⟨r, hr⟩ : ∃ r, finishAll exactEnv
      [.checkEmail "ada" "ada@x", .updatePwd "ada" "h2"] started = some r :=
    Option.isSome_iff_exists.mp (by decide +kernel)
  exact ⟨r, hr, connections_given_back_iff _ started r rfl hr⟩

end LlfcChat.Gate
