/-
A connection to a database with one writer, where any statement may fail.

Outside a transaction a statement takes effect at once; inside one it changes a
working copy, which COMMIT makes the committed state.  A statement that fails changes
nothing.  In particular a COMMIT or ROLLBACK that fails leaves the transaction open,
and BEGIN fails while one is open.  Which statements fail is an argument: a list with
one entry for every statement that is still to come.

There are rules for the inside of a transaction (`Holds`), for what a sequence of
statements does to the committed state (`Atomic`) and for whether it leaves a transaction
open (`Neutral`, `Tidy`).  A transaction whose body takes `I` to `I` is atomic
(`Atomic.transaction`), and one with a neutral body is tidy (`Tidy.transaction`).
-/
import Mathlib

namespace Sqlite

variable {σ α β : Type}

/-! ### Connections and statements -/

/-- The committed state, the working copy of an open transaction, for each of the next
statements whether it fails, and whether a COMMIT or ROLLBACK has failed so far. -/
structure Conn (σ : Type) where
  committed : σ
  working : Option σ := none
  faults : List Bool := []
  endFailed : Bool := false

namespace Conn

/-- Whether the next statement fails. -/
def faulty (c : Conn σ) : Bool := c.faults.headD false

/-- The connection after a statement without effect. -/
def next (c : Conn σ) : Conn σ := { c with faults := c.faults.tail }

/-- The rows a statement sees. -/
def view (c : Conn σ) : σ := c.working.getD c.committed

/-- What a statement writes: the working copy, if there is one. -/
def store (s : σ) (c : Conn σ) : Conn σ :=
  if c.working.isSome then { c with working := some s } else { c with committed := s }

end Conn

/-- A sequence of statements; it ends at the first one that fails. -/
def Stmt (σ α : Type) : Type := Conn σ → Option α × Conn σ

instance : Monad (Stmt σ) where
  pure a := fun c => (some a, c)
  bind m f := fun c => match m c with
    | (some a, c) => f a c
    | (none, c) => (none, c)

/-- Failure without a statement. -/
def fail : Stmt σ α := fun c => (none, c)

/-- A test in the program that uses the connection. -/
def check (p : Prop) [Decidable p] : Stmt σ Unit := if p then pure () else fail

/-- One statement; `f` is none where a constraint is violated, or where the caller
rejects the number of rows. -/
def exec (f : σ → Option (α × σ)) : Stmt σ α := fun c =>
  if c.faulty then (none, c.next)
  else match f c.view with
    | none => (none, c.next)
    | some (a, s) => (some a, c.next.store s)

/-- A SELECT. -/
def select (f : σ → Option α) : Stmt σ α := exec fun s => (f s).map (·, s)

/-- `BEGIN IMMEDIATE` -/
def begin : Stmt σ Unit := fun c =>
  if c.faulty ∨ c.working.isSome then (none, c.next)
  else (some (), { c.next with working := some c.committed })

/-- `COMMIT` -/
def commit : Stmt σ Unit := fun c =>
  if c.faulty then (none, { c.next with endFailed := true })
  else match c.working with
    | none => (none, c.next)
    | some w => (some (), { c.next with committed := w, working := none })

/-- `ROLLBACK` -/
def rollback : Stmt σ Unit := fun c =>
  if c.faulty then (none, { c.next with endFailed := true })
  else if c.working = none then (none, c.next)
  else (some (), { c.next with working := none })

/-- BEGIN, the body and COMMIT; ROLLBACK where the body fails. -/
def transaction (body : Stmt σ α) : Stmt σ α := fun c =>
  match begin c with
  | (none, c) => (none, c)
  | (some _, c) => match body c with
    | (none, c) => (none, (rollback c).2)
    | (some a, c) => match commit c with
      | (none, c) => (none, c)
      | (some _, c) => (some a, c)

/-! ### Inside a transaction -/

/-- Inside a transaction with the working copy `w`, `m` leaves the committed state alone and,
if it succeeds, makes `Q` true of its result and the new working copy. -/
def Holds (m : Stmt σ α) (w : σ) (Q : α → σ → Prop) : Prop :=
  ∀ s faults ended, (m ⟨s, some w, faults, ended⟩).2.committed = s ∧
    ∀ a, (m ⟨s, some w, faults, ended⟩).1 = some a →
      ∃ w', (m ⟨s, some w, faults, ended⟩).2.working = some w' ∧ Q a w'

section Holds

variable {m : Stmt σ α} {w : σ} {Q Q' : α → σ → Prop}

theorem Holds.mono (h : Holds m w Q) (hQ : ∀ a w', Q a w' → Q' a w') : Holds m w Q' := by
  intro s faults ended
  refine ⟨(h s faults ended).1, fun a ha => ?_⟩
  obtain ⟨w', hw, hq⟩ := (h s faults ended).2 a ha
  exact ⟨w', hw, hQ a w' hq⟩

theorem holds_pure {a : α} (h : Q a w) : Holds (pure a : Stmt σ α) w Q := by
  intro s faults ended
  refine ⟨rfl, fun b hb => ⟨w, rfl, ?_⟩⟩
  rwa [← Option.some.inj hb]

theorem holds_fail : Holds (fail : Stmt σ α) w Q := fun _ _ _ => ⟨rfl, fun _ h => nomatch h⟩

theorem Holds.bind {f : α → Stmt σ β} {R : β → σ → Prop}
    (h : Holds m w fun a w' => Holds (f a) w' R) : Holds (m >>= f) w R := by
  intro s faults ended
  obtain ⟨hs, hq⟩ := h s faults ended
  rw [show (m >>= f) ⟨s, some w, faults, ended⟩ = (match m ⟨s, some w, faults, ended⟩ with
    | (some a, c) => f a c
    | (none, c) => (none, c)) from rfl]
  generalize m ⟨s, some w, faults, ended⟩ = r at hs hq
  rcases r with ⟨_ | a, c⟩
  · exact ⟨hs, fun b hb => nomatch hb⟩
  · obtain ⟨w', hw, hf⟩ := hq a rfl
    have hc : c = ⟨s, some w', c.faults, c.endFailed⟩ := by
      rcases c with ⟨_, _, _, _⟩
      exact hs ▸ hw ▸ rfl
    rw [hc]
    exact hf s c.faults c.endFailed

theorem holds_check {p : Prop} [Decidable p] {Q : Unit → σ → Prop} (h : p → Q () w) :
    Holds (check p) w Q := by
  unfold check
  split
  · next hp => exact holds_pure (h hp)
  · exact holds_fail

theorem holds_exec {f : σ → Option (α × σ)} (h : ∀ a w', f w = some (a, w') → Q a w') :
    Holds (exec f) w Q := by
  intro s faults ended
  unfold exec
  split
  · exact ⟨rfl, fun _ ha => nomatch ha⟩
  · cases hf : f w with
    | none =>
      have hv : f (Conn.view ⟨s, some w, faults, ended⟩) = none := hf
      rw [hv]
      exact ⟨rfl, fun _ ha => nomatch ha⟩
    | some r =>
      have hv : f (Conn.view ⟨s, some w, faults, ended⟩) = some r := hf
      rw [hv]
      refine ⟨rfl, fun a ha => ⟨r.2, rfl, h a r.2 ?_⟩⟩
      rw [hf, ← Option.some.inj ha]

theorem holds_select {f : σ → Option α} (h : ∀ a, f w = some a → Q a w) : Holds (select f) w Q := by
  refine holds_exec fun a w' hf => ?_
  obtain ⟨b, hb, heq⟩ := Option.map_eq_some_iff.mp hf
  cases heq
  exact h a hb

end Holds

/-! ### From the outside -/

/-- `m` keeps the invariant `I` of the committed state, and this state itself if it fails. -/
def Atomic (I : σ → Prop) (m : Stmt σ α) : Prop :=
  ∀ c, I c.committed → I (m c).2.committed ∧ ((m c).1 = none → (m c).2.committed = c.committed)

section Atomic

variable {I : σ → Prop} {m : Stmt σ α}

theorem atomic_fail : Atomic I (fail : Stmt σ α) := fun _ h => ⟨h, fun _ => rfl⟩

@[simp] theorem next_committed (c : Conn σ) : c.next.committed = c.committed := rfl

theorem view_of_closed {c : Conn σ} (h : ¬c.next.working.isSome) : c.view = c.committed := by
  have hw : c.working = none := Option.not_isSome_iff_eq_none.mp h
  rw [Conn.view, hw, Option.getD_none]

theorem rollback_committed (c : Conn σ) : (rollback c).2.committed = c.committed := by
  unfold rollback
  split_ifs <;> rfl

/-- A transaction fails without effect, or commits what its body has computed. -/
theorem transaction_cases {c : Conn σ} {Q : α → σ → Prop} (h : Holds m c.committed Q) :
    (transaction m c).1 = none ∧ (transaction m c).2.committed = c.committed ∨
      ∃ a, (transaction m c).1 = some a ∧ Q a (transaction m c).2.committed := by
  unfold Sqlite.transaction begin
  split
  · next hb =>
    split at hb
    · cases hb
      exact .inl ⟨rfl, rfl⟩
    · cases hb
  · next hb =>
    split at hb
    · cases hb
    · cases hb
      obtain ⟨hs, hq⟩ := h c.committed c.faults.tail c.endFailed
      split
      · -- the body failed
        next c' hm =>
        have hm' : m ⟨c.committed, some c.committed, c.faults.tail, c.endFailed⟩ = (none, c') := hm
        rw [hm'] at hs
        exact .inl ⟨rfl, (rollback_committed c').trans hs⟩
      · next a c' hm =>
        have hm' : m ⟨c.committed, some c.committed, c.faults.tail, c.endFailed⟩ = (some a, c') :=
          hm
        rw [hm'] at hs hq
        obtain ⟨w', hw, hi⟩ := hq a rfl
        change c'.committed = _ at hs
        change c'.working = _ at hw
        unfold commit
        split
        · next hk =>
          split at hk
          · cases hk
            exact .inl ⟨rfl, hs⟩
          · rw [hw] at hk
            cases hk
        · next hk =>
          split at hk
          · cases hk
          · rw [hw] at hk
            cases hk
            exact .inr ⟨a, rfl, hi⟩

/-- A transaction whose body keeps the invariant. -/
theorem Atomic.transaction (h : ∀ s, I s → Holds m s fun _ s' => I s') :
    Atomic I (transaction m) := by
  intro c hI
  rcases transaction_cases (h c.committed hI) with ⟨-, hsame⟩ | ⟨a, hsome, hQ⟩
  · exact ⟨hsame ▸ hI, fun _ => hsame⟩
  · exact ⟨hQ, fun hnone => by rw [hnone] at hsome; cases hsome⟩

/-- A test and a transaction that have succeeded. -/
theorem of_check_transaction {p : Prop} [Decidable p] {c : Conn σ} {Q : α → σ → Prop}
    (h : p → Holds m c.committed Q) {a : α}
    (ha : ((check p >>= fun _ => transaction m) c).1 = some a) :
    Q a ((check p >>= fun _ => transaction m) c).2.committed := by
  by_cases hp : p
  · have heq : (check p >>= fun _ => transaction m) c = transaction m c := by
      rw [check, if_pos hp]
      rfl
    rw [heq] at ha ⊢
    rcases transaction_cases (h hp) with ⟨hnone, -⟩ | ⟨b, hsome, hQ⟩
    · rw [hnone] at ha
      cases ha
    · cases hsome.symm.trans ha
      exact hQ
  · rw [check, if_neg hp] at ha
    cases ha

/-- A single statement, with or without a transaction around it. -/
theorem Atomic.exec {f : σ → Option (α × σ)} (h : ∀ s a s', I s → f s = some (a, s') → I s') :
    Atomic I (exec f) := by
  intro c hI
  unfold Sqlite.exec
  split
  · exact ⟨hI, fun _ => rfl⟩
  · split
    · exact ⟨hI, fun _ => rfl⟩
    · next a s hf =>
      refine ⟨?_, fun hn => nomatch hn⟩
      unfold Conn.store
      split
      · exact hI
      · next hw =>
        rw [view_of_closed hw] at hf
        exact h c.committed a s hI hf

/-- A SELECT changes nothing. -/
theorem select_committed (f : σ → Option α) (c : Conn σ) :
    (select f c).2.committed = c.committed := by
  unfold select Sqlite.exec
  split
  · rfl
  · split
    · rfl
    · next a s hf =>
      obtain ⟨b, _, heq⟩ := Option.map_eq_some_iff.mp hf
      cases heq
      unfold Conn.store
      split
      · rfl
      · next hw => exact view_of_closed hw

/-- A SELECT in front of an atomic sequence. -/
theorem Atomic.select_bind {g : σ → Option β} {f : β → Stmt σ α} (h : ∀ b, Atomic I (f b)) :
    Atomic I (select g >>= f) := by
  intro c hI
  have hs := select_committed g c
  rw [show (select g >>= f) c =
    (match select g c with | (some a, c) => f a c | (none, c) => (none, c)) from rfl]
  generalize select g c = r at hs
  rcases r with ⟨_ | b, c'⟩
  · exact ⟨by rw [hs]; exact hI, fun _ => hs⟩
  · have hb := h b c' (by rw [hs]; exact hI)
    exact ⟨hb.1, fun hn => (hb.2 hn).trans hs⟩

/-- A test in front of an atomic sequence. -/
theorem Atomic.check_bind {p : Prop} [Decidable p] {f : Unit → Stmt σ α}
    (h : p → Atomic I (f ())) : Atomic I (check p >>= f) := by
  unfold check
  split
  · next hp => exact h hp
  · exact atomic_fail

end Atomic

/-! ### Open transactions -/

/-- `m` neither opens nor ends a transaction. -/
def Neutral (m : Stmt σ α) : Prop :=
  ∀ c, (m c).2.working.isSome = c.working.isSome ∧ (m c).2.endFailed = c.endFailed

/-- After `m` a transaction is open exactly when a COMMIT or ROLLBACK has failed, if so before. -/
def Tidy (m : Stmt σ α) : Prop :=
  ∀ c, c.working.isSome = c.endFailed → (m c).2.working.isSome = (m c).2.endFailed

section Neutral

variable {m : Stmt σ α}

theorem neutral_pure (a : α) : Neutral (pure a : Stmt σ α) := fun _ => ⟨rfl, rfl⟩

theorem neutral_fail : Neutral (fail : Stmt σ α) := fun _ => ⟨rfl, rfl⟩

theorem neutral_check (p : Prop) [Decidable p] : Neutral (check p : Stmt σ Unit) := by
  unfold check
  split
  · exact neutral_pure ()
  · exact neutral_fail

theorem neutral_exec (f : σ → Option (α × σ)) : Neutral (exec f) := by
  intro c
  unfold exec
  split
  · exact ⟨rfl, rfl⟩
  · split
    · exact ⟨rfl, rfl⟩
    · unfold Conn.store
      split
      · next hopen => exact ⟨Eq.symm hopen, rfl⟩
      · exact ⟨rfl, rfl⟩

theorem neutral_select (f : σ → Option α) : Neutral (select f) := neutral_exec _

variable {c : Conn σ} {f : α → Stmt σ β}

theorem bind_apply (m : Stmt σ α) (f : α → Stmt σ β) (c : Conn σ) :
    (m >>= f) c = (match m c with | (some a, c) => f a c | (none, c) => (none, c)) := rfl

theorem Neutral.bind (h : Neutral m) (hf : ∀ a, Neutral (f a)) : Neutral (m >>= f) := by
  intro c
  have hm := h c
  rw [bind_apply]
  generalize m c = r at hm
  rcases r with ⟨_ | a, c'⟩
  · exact hm
  · exact ⟨(hf a c').1.trans hm.1, (hf a c').2.trans hm.2⟩

theorem neutral_ite {p : Prop} {_ : Decidable p} {m' : Stmt σ α} (h : Neutral m) (h' : Neutral m') :
    Neutral (if p then m else m') := by
  split
  · exact h
  · exact h'

theorem Neutral.tidy (h : Neutral m) : Tidy m := by
  intro c hc
  rw [(h c).1, (h c).2]
  exact hc

theorem Tidy.bind (h : Tidy m) (hf : ∀ a, Tidy (f a)) : Tidy (m >>= f) := by
  intro c hc
  have hm := h c hc
  rw [bind_apply]
  generalize m c = r at hm
  rcases r with ⟨_ | a, c'⟩
  · exact hm
  · exact hf a c' hm

theorem begin_of_open (h : c.working.isSome = true) : begin c = (none, c.next) :=
  if_pos (.inr h)

/-- While a transaction is open no other can be begun. -/
theorem transaction_of_open (body : Stmt σ α) (h : c.working.isSome = true) :
    transaction body c = (none, c.next) := by
  unfold transaction
  rw [begin_of_open h]

/-- The sequence fails while a transaction is open. -/
def Blocked (m : Stmt σ α) : Prop := ∀ c, c.working.isSome = true → (m c).1 = none

theorem blocked_transaction (body : Stmt σ α) : Blocked (transaction body) := fun c h => by
  rw [transaction_of_open body h]

theorem Blocked.bind (h : Neutral m) (hf : ∀ a, Blocked (f a)) : Blocked (m >>= f) := by
  intro c hc
  have hm := (h c).1
  rw [bind_apply]
  generalize m c = r at hm
  rcases r with ⟨_ | a, c'⟩
  · rfl
  · exact hf a c' (hm.trans hc)

theorem rollback_tidy (h : c.working.isSome = true) (he : c.endFailed = false) :
    (rollback c).2.working.isSome = (rollback c).2.endFailed := by
  unfold rollback
  split_ifs with hfault hnone
  · exact h
  · rw [hnone] at h
    cases h
  · exact he.symm

theorem commit_tidy (h : c.working.isSome = true) (he : c.endFailed = false) :
    (commit c).2.working.isSome = (commit c).2.endFailed := by
  obtain ⟨w, hw⟩ := Option.isSome_iff_exists.mp h
  unfold commit
  rw [hw]
  split_ifs with hfault
  · exact h
  · exact he.symm

/-- **A transaction stays open exactly when its COMMIT or ROLLBACK fails.** -/
theorem Tidy.transaction (h : Neutral m) : Tidy (transaction m) := by
  intro c hc
  cases hopen : c.working.isSome with
  | true =>
    rw [transaction_of_open m hopen]
    exact hc
  | false =>
    have hended : c.endFailed = false := hc.symm.trans hopen
    unfold Sqlite.transaction begin
    rw [hopen]
    by_cases hfault : c.faulty
    · rw [if_pos (.inl hfault)]
      exact hc
    · rw [if_neg fun hor => hor.elim hfault Bool.noConfusion]
      obtain ⟨hw, he⟩ := h { c.next with working := some c.committed }
      simp only
      generalize m { c.next with working := some c.committed } = r at hw he
      rcases r with ⟨_ | a, c'⟩
      · exact rollback_tidy hw (he.trans hended)
      · have ht := commit_tidy hw (he.trans hended)
        simp only
        generalize commit c' = e at ht
        rcases e with ⟨_ | _, c''⟩
        · exact ht
        · exact ht

end Neutral

end Sqlite
