/-
Code that changes a state and may throw.

A computation maps the state it finds to a value or an exception, and to the
state it leaves; what was done before a `throw` stays done.  `defer` runs a
computation when a scope is left, by `return` and by an exception alike.

One question is asked of a computation here, and each way to build one has its rule
for it: does it return?  `Returns` asks it of one state, `Total` of all.
-/
import Mathlib

/-- A computation on the state `σ` that may throw an `ε`. -/
def Effect (σ ε α : Type) : Type := σ → Except ε α × σ

namespace Effect

variable {σ ε α β : Type}

/-! ### Computations -/

protected def pure (a : α) : Effect σ ε α := fun s => (.ok a, s)

protected def bind (m : Effect σ ε α) (f : α → Effect σ ε β) : Effect σ ε β := fun s =>
  match m s with
  | (.ok a, s') => f a s'
  | (.error e, s') => (.error e, s')

instance : Monad (Effect σ ε) where
  pure := Effect.pure
  bind := Effect.bind

/-- A call that cannot throw. -/
def call (f : σ → α × σ) : Effect σ ε α := fun s => (.ok (f s).1, (f s).2)

/-- Read off the state. -/
def read (f : σ → α) : Effect σ ε α := call fun s => (f s, s)

/-- Change the state. -/
def modify (f : σ → σ) : Effect σ ε Unit := call fun s => ((), f s)

/-- A computation that is pure but may throw. -/
def ofExcept (x : Except ε α) : Effect σ ε α := fun s => (x, s)

/-- Run `m`, and `last` whenever the scope of `m` is left. -/
def defer (last : Effect σ ε Unit) (m : Effect σ ε α) : Effect σ ε α := fun s =>
  match m s with
  | (r, s') => match last s' with
    | (.ok _, s'') => (r, s'')
    | (.error e, s'') => (.error e, s'')

/-- `try`/`catch` of the exceptions that the handler knows. -/
def tryCatch (m : Effect σ ε α) (handler : ε → Option (Effect σ ε α)) : Effect σ ε α := fun s =>
  match m s with
  | (.ok a, s') => (.ok a, s')
  | (.error e, s') => match handler e with
    | some k => k s'
    | none => (.error e, s')

/-- The loop over a list. -/
def forEach (f : α → Effect σ ε Unit) : List α → Effect σ ε Unit
  | [] => pure ()
  | a :: as => do f a; forEach f as

/-! ### Returning -/

/-- From this state the computation returns: no exception leaves it. -/
def Returns (m : Effect σ ε α) (s : σ) : Prop := ∃ a s', m s = (.ok a, s')

/-- The computation never throws. -/
def Total (m : Effect σ ε α) : Prop := ∀ s, m.Returns s

variable {m m' : Effect σ ε α} {s : σ}

variable {f : α → Effect σ ε β}

theorem bind_eq_ok {a : α} {s' : σ} (h : m s = (.ok a, s')) : (m >>= f) s = f a s' := by
  show Effect.bind m f s = f a s'
  simp [Effect.bind, h]

theorem bind_eq_error {e : ε} {s' : σ} (h : m s = (.error e, s')) :
    (m >>= f) s = (.error e, s') := by
  show Effect.bind m f s = _
  simp [Effect.bind, h]

theorem returns_pure (a : α) : (pure a : Effect σ ε α).Returns s := ⟨a, s, rfl⟩

theorem returns_bind : (m >>= f).Returns s ↔ ∃ a s', m s = (.ok a, s') ∧ (f a).Returns s' := by
  rcases e : m s with ⟨err | a, s'⟩
  · constructor
    · rintro ⟨b, t, h⟩
      rw [bind_eq_error e] at h
      simp at h
    · rintro ⟨a, t, h, -⟩
      simp at h
  · constructor
    · rintro ⟨b, t, h⟩
      rw [bind_eq_ok e] at h
      exact ⟨a, s', rfl, b, t, h⟩
    · rintro ⟨a', t, h, b, t', h'⟩
      simp only [Prod.mk.injEq, Except.ok.injEq] at h
      obtain ⟨rfl, rfl⟩ := h
      exact ⟨b, t', (bind_eq_ok e).trans h'⟩

@[simp] theorem returns_call_bind {f : σ → α × σ} {g : α → Effect σ ε β} :
    (call f >>= g).Returns s ↔ (g (f s).1).Returns (f s).2 := by
  rw [returns_bind]
  constructor
  · rintro ⟨a, s', h, h'⟩
    simp only [call, Prod.mk.injEq, Except.ok.injEq] at h
    obtain ⟨rfl, rfl⟩ := h
    exact h'
  · intro h
    exact ⟨_, _, rfl, h⟩

@[simp] theorem returns_ofExcept {x : Except ε α} :
    (ofExcept x : Effect σ ε α).Returns s ↔ ∃ a, x = .ok a := by
  constructor
  · rintro ⟨a, s', h⟩
    exact ⟨a, (Prod.mk.inj h).1⟩
  · rintro ⟨a, rfl⟩
    exact ⟨a, s, rfl⟩

@[simp] theorem returns_ofExcept_bind {x : Except ε α} {g : α → Effect σ ε β} :
    (ofExcept x >>= g).Returns s ↔ ∃ a, x = .ok a ∧ (g a).Returns s := by
  rw [returns_bind]
  constructor
  · rintro ⟨a, s', h, h'⟩
    simp only [ofExcept, Prod.mk.injEq] at h
    obtain ⟨rfl, rfl⟩ := h
    exact ⟨a, rfl, h'⟩
  · rintro ⟨a, rfl, h⟩
    exact ⟨a, s, rfl, h⟩

/-! ### Never throwing -/

theorem total_pure (a : α) : (pure a : Effect σ ε α).Total := fun _ => returns_pure a

theorem total_call (f : σ → α × σ) : (call f : Effect σ ε α).Total := fun _ => ⟨_, _, rfl⟩

theorem total_read (f : σ → α) : (read f : Effect σ ε α).Total := total_call _

theorem total_modify (f : σ → σ) : (modify f : Effect σ ε Unit).Total := total_call _

theorem Total.bind (h : m.Total) (h' : ∀ a, (f a).Total) : (m >>= f).Total := by
  intro s
  obtain ⟨a, s', e⟩ := h s
  exact returns_bind.mpr ⟨a, s', e, h' a s'⟩

/-- Behind it comes nothing that throws. -/
theorem returns_bind_of_total (h : ∀ a, (f a).Total) : (m >>= f).Returns s ↔ m.Returns s := by
  rw [returns_bind]
  constructor
  · rintro ⟨a, s', e, -⟩
    exact ⟨a, s', e⟩
  · rintro ⟨a, s', e⟩
    exact ⟨a, s', e, h a s'⟩

theorem Total.ite {c : Prop} [Decidable c] (h : m.Total) (h' : m'.Total) :
    (if c then m else m').Total := by
  split
  · exact h
  · exact h'

theorem total_forEach {f : α → Effect σ ε Unit} (h : ∀ a, (f a).Total) (as : List α) :
    (forEach f as).Total := by
  induction as with
  | nil => exact total_pure ()
  | cons a as ih => exact (h a).bind fun _ => ih

/-- What runs at the end of the scope does not decide whether the scope is left
by an exception, unless it throws itself. -/
theorem returns_defer {last : Effect σ ε Unit} (h : last.Total) :
    (defer last m).Returns s ↔ m.Returns s := by
  rcases e : m s with ⟨r, s'⟩
  obtain ⟨u, s'', e'⟩ := h s'
  have hdefer : defer last m s = (r, s'') := by simp [defer, e, e']
  constructor
  · rintro ⟨a, t, ht⟩
    rw [hdefer] at ht
    exact ⟨a, s', by rw [e, (Prod.mk.inj ht).1]⟩
  · rintro ⟨a, t, ht⟩
    rw [e] at ht
    exact ⟨a, s'', by rw [hdefer, (Prod.mk.inj ht).1]⟩

theorem Total.defer {last : Effect σ ε Unit} (h : m.Total) (h' : last.Total) :
    (defer last m).Total := fun s => (returns_defer h').mpr (h s)

/-- At the end of the scope the deferred computation runs on what was left. -/
theorem defer_snd (last : Effect σ ε Unit) : (defer last m s).2 = (last (m s).2).2 := by
  unfold defer
  rcases m s with ⟨r, s'⟩
  dsimp only
  rcases last s' with ⟨err | u, s''⟩ <;> rfl

end Effect
