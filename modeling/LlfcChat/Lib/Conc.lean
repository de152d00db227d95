/-
Threads that share a state, and a rely–guarantee calculus for them.

A program is a tree of calls of operations; what an operation does is left to
a relation between the state before it, its result and the state after it, so
a call can fail in as many ways as the relation allows.  One call is one atomic
step: between two calls of a thread the other threads, and the environment, do
what they like.

A thread is verified on its own.  It *relies* on what the others do between
two of its calls (`rely`), and every one of its calls *guarantees* something to
the others (`guar`) and keeps the invariant of the state (`inv`).  `Safe Q p w`
says that `p`, from `w` on, does so at each of its calls and ends in `Q`.  The
theorem at the end puts verified threads together: if the guarantee of each
one is part of what the others rely on, the invariant holds in every reachable
state, and so does what is known of every thread.
-/
import Mathlib

namespace Conc

variable {Op : Type} {Res : Op → Type} {W α β : Type}

/-! ### Programs -/

/-- A program that calls the operations `Op` and returns an `α`. -/
inductive Prog (Op : Type) (Res : Op → Type) (α : Type) : Type
  | pure (a : α)
  | call (op : Op) (k : Res op → Prog Op Res α)

namespace Prog

def bind : Prog Op Res α → (α → Prog Op Res β) → Prog Op Res β
  | .pure a, f => f a
  | .call op k, f => .call op fun r => (k r).bind f

instance : Monad (Prog Op Res) where
  pure := Prog.pure
  bind := Prog.bind

/-- The program that makes one call and returns its result. -/
def perform (op : Op) : Prog Op Res (Res op) := .call op .pure

/-- Every call that `p` can make, whatever the earlier ones return, is in `C`. -/
def Calls (C : Op → Prop) : Prog Op Res α → Prop
  | .pure _ => True
  | .call op k => C op ∧ ∀ r, (k r).Calls C

variable {C : Op → Prop}

theorem calls_pure (a : α) : (Pure.pure a : Prog Op Res α).Calls C := trivial

theorem calls_perform {op : Op} (h : C op) : (perform op : Prog Op Res (Res op)).Calls C :=
  ⟨h, fun _ => trivial⟩

variable {p : Prog Op Res α}

theorem calls_bind {f : α → Prog Op Res β} (hp : p.Calls C) (hf : ∀ a, (f a).Calls C) :
    (p >>= f).Calls C := by
  induction p with
  | pure a => exact hf a
  | call op k ih => exact ⟨hp.1, fun r => ih r (hp.2 r)⟩

theorem calls_step {op : Op} {f : Res op → Prog Op Res β} (h : C op) (hf : ∀ r, (f r).Calls C) :
    (perform op >>= f).Calls C := calls_bind (calls_perform h) hf

theorem calls_then {f : α → β} (hp : p.Calls C) : (p >>= fun a => Pure.pure (f a)).Calls C :=
  calls_bind hp fun a => calls_pure (f a)

theorem Calls.mono {C' : Op → Prop} (h : p.Calls C) (hC : ∀ op, C op → C' op) : p.Calls C' := by
  induction p with
  | pure a => trivial
  | call op k ih => exact ⟨hC op h.1, fun r => ih r (h.2 r)⟩

theorem calls_ite {c : Prop} [Decidable c] {q : Prog Op Res α} (hp : c → p.Calls C)
    (hq : ¬c → q.Calls C) : (if c then p else q).Calls C := by
  split
  · exact hp ‹_›
  · exact hq ‹_›

theorem calls_guard {c : Prop} [Decidable c] {a : α} (hp : ¬c → p.Calls C) :
    (if c then Pure.pure a else p).Calls C := calls_ite (fun _ => calls_pure a) hp

/-- Every value that `p` can return, whatever its calls return, is in `V`. -/
def Returns (V : α → Prop) : Prog Op Res α → Prop
  | .pure a => V a
  | .call _ k => ∀ r, (k r).Returns V

variable {V : α → Prop}

theorem returns_pure {a : α} (h : V a) : (Pure.pure a : Prog Op Res α).Returns V := h

theorem returns_perform {op : Op} {V : Res op → Prop} (h : ∀ r, V r) :
    (perform op : Prog Op Res (Res op)).Returns V := h

theorem returns_bind {V : β → Prop} {f : α → Prog Op Res β} (h : p.Returns fun a => (f a).Returns V)
    : (p >>= f).Returns V := by
  induction p with
  | pure a => exact h
  | call op k ih => exact fun r => ih r (h r)

theorem returns_ite {c : Prop} [Decidable c] {q : Prog Op Res α} (hp : c → p.Returns V)
    (hq : ¬c → q.Returns V) : (if c then p else q).Returns V := by
  split
  · exact hp ‹_›
  · exact hq ‹_›

theorem Returns.mono {V' : α → Prop} (h : p.Returns V) (hV : ∀ a, V a → V' a) : p.Returns V' := by
  induction p with
  | pure a => exact hV a h
  | call op k ih => exact fun r => ih r (h r)

theorem returns_true (p : Prog Op Res α) : p.Returns fun _ => True := by
  induction p with
  | pure a => trivial
  | call op k ih => exact ih

/-- What `p` returns does not matter. -/
theorem returns_skip {V : β → Prop} {f : α → Prog Op Res β} (hf : ∀ a, (f a).Returns V) :
    (p >>= f).Returns V := returns_bind ((returns_true p).mono fun a _ => hf a)

/-- Run a program by itself.  `exec op c w` is what the call of `op` does when
the environment chooses `c`, or `none` if the call has to wait; the choices are
used up one by one, and `d` stands for all the later ones. -/
def run {Choice : Type} (exec : (op : Op) → Choice → W → Option (Res op × W)) (d : Choice) :
    Prog Op Res α → List Choice → W → Option (α × W)
  | .pure a, _, w => some (a, w)
  | .call op k, cs, w =>
    match exec op (cs.headD d) w with
    | none => none
    | some (r, w') => (k r).run exec d cs.tail w'

/-- Run a program by itself up to a call that `stop` picks, or to its end. -/
def runTo (exec : (op : Op) → W → Option (Res op × W)) (stop : Op → Bool) :
    Prog Op Res α → W → Option (Prog Op Res α × W)
  | .pure a, w => some (.pure a, w)
  | .call op k, w =>
    if stop op then some (.call op k, w)
    else match exec op w with
      | none => none
      | some (r, w') => (k r).runTo exec stop w'

/-- Run a program by itself to its end. -/
def runAll (exec : (op : Op) → W → Option (Res op × W)) (p : Prog Op Res α) (w : W) :
    Option (α × W) :=
  match p.runTo exec (fun _ => false) w with
  | some (.pure a, w) => some (a, w)
  | _ => none

end Prog

/-! ### Rules for one thread -/

/-- What is assumed and what is asked of a thread. -/
structure Rules (Op : Type) (Res : Op → Type) (W : Type) where
  sem : (op : Op) → W → Res op → W → Prop
  inv : W → Prop
  rely : W → W → Prop
  guar : Op → W → W → Prop
  rely_refl : ∀ w, rely w w
  rely_trans : ∀ w w' w'', rely w w' → rely w' w'' → rely w w''

namespace Rules

variable (R : Rules Op Res W)

/-- The program makes its calls as it should and ends in `Q`, whatever the
others do in between. -/
def Safe (Q : α → W → Prop) : Prog Op Res α → W → Prop
  | .pure a, w => ∀ w', R.rely w w' → R.inv w' → Q a w'
  | .call op k, w => ∀ w', R.rely w w' → R.inv w' → ∀ r w'', R.sem op w' r w'' →
      R.guar op w' w'' ∧ R.inv w'' ∧ Safe Q (k r) w''

/-- The others do not invalidate `P`. -/
def Stable (P : W → Prop) : Prop := ∀ w w', P w → R.rely w w' → R.inv w' → P w'

/-- A call that looks to its own thread like a step of the others. -/
def Quiet (op : Op) : Prop := ∀ w r w', R.inv w → R.sem op w r w' →
  R.guar op w w' ∧ R.inv w' ∧ R.rely w w'

/-- A call of a thread that knows `P` and still knows it afterwards. -/
def Keeps (P : W → Prop) (op : Op) : Prop := ∀ w r w', P w → R.inv w → R.sem op w r w' →
  R.guar op w w' ∧ R.inv w' ∧ P w'

variable {R} {Q : α → W → Prop} {w : W}

variable {p : Prog Op Res α} {P : W → Prop}

theorem Safe.later {w' : W} (h : R.Safe Q p w) (hr : R.rely w w') : R.Safe Q p w' := by
  cases p with
  | pure a | call op k => exact fun w'' hr' => h w'' (R.rely_trans _ _ _ hr hr')

theorem stable_safe : R.Stable (R.Safe Q p) := fun _ _ h hr _ => h.later hr

/-- It is enough to look at the states in which the invariant holds. -/
theorem safe_of_inv (h : ∀ w', R.rely w w' → R.inv w' → R.Safe Q p w') : R.Safe Q p w := by
  cases p with
  | pure a | call op k => exact fun w' hr hi => h w' hr hi w' (R.rely_refl w') hi

theorem safe_pure {a : α} (hs : R.Stable (Q a)) (h : Q a w) :
    R.Safe Q (Pure.pure a : Prog Op Res α) w := fun w' hr hi => hs w w' h hr hi

theorem safe_bind {Q : β → W → Prop} {f : α → Prog Op Res β}
    (h : R.Safe (fun a => R.Safe Q (f a)) p w) : R.Safe Q (p >>= f) w := by
  induction p generalizing w with
  | pure a => exact safe_of_inv h
  | call op k ih =>
    intro w' hr hi r w'' hs
    obtain ⟨hg, hi', hk⟩ := h w' hr hi r w'' hs
    exact ⟨hg, hi', ih r hk⟩

theorem Safe.mono {Q' : α → W → Prop} (h : R.Safe Q p w) (hQ : ∀ a w, Q a w → Q' a w) :
    R.Safe Q' p w := by
  induction p generalizing w with
  | pure a => exact fun w' hr hi => hQ a w' (h w' hr hi)
  | call op k ih =>
    intro w' hr hi r w'' hs
    obtain ⟨hg, hi', hk⟩ := h w' hr hi r w'' hs
    exact ⟨hg, hi', ih r hk⟩

theorem Safe.bind {Q' : β → W → Prop} {f : α → Prog Op Res β} (h : R.Safe Q p w)
    (hf : ∀ a w, Q a w → R.Safe Q' (f a) w) : R.Safe Q' (p >>= f) w := safe_bind (h.mono hf)

theorem safe_call {op : Op} {k : Res op → Prog Op Res α} (hP : R.Stable P) (h : P w)
    (hop : ∀ w r w', P w → R.inv w → R.sem op w r w' →
      R.guar op w w' ∧ R.inv w' ∧ R.Safe Q (k r) w') : R.Safe Q (.call op k) w :=
  fun w' hr hi r w'' hs => hop w' r w'' (hP w w' h hr hi) hi hs

/-- A call with a stable precondition and a stable postcondition. -/
theorem safe_perform {op : Op} {Q : Res op → W → Prop} (hP : R.Stable P) (h : P w)
    (hQ : ∀ r, R.Stable (Q r)) (hop : ∀ w r w', P w → R.inv w → R.sem op w r w' →
      R.guar op w w' ∧ R.inv w' ∧ Q r w') : R.Safe Q (Prog.perform op) w :=
  safe_call hP h fun w r w' hw hi hs =>
    ⟨(hop w r w' hw hi hs).1, (hop w r w' hw hi hs).2.1,
      safe_pure (hQ r) (hop w r w' hw hi hs).2.2⟩

/-- A quiet call, and what its result tells. -/
theorem safe_quiet {op : Op} {Q : Res op → W → Prop} (hop : R.Quiet op) (hP : R.Stable P) (h : P w)
    (hQ : ∀ r, R.Stable (Q r)) (hpost : ∀ w r w', P w → P w' → R.sem op w r w' → Q r w') :
    R.Safe Q (Prog.perform op) w := by
  refine safe_perform hP h hQ fun w r w' hw hi hs => ?_
  obtain ⟨hg, hi', hr⟩ := hop w r w' hi hs
  exact ⟨hg, hi', hpost w r w' hw (hP w w' hw hr hi') hs⟩

theorem safe_ite {c : Prop} [Decidable c] {q : Prog Op Res α} (hp : c → R.Safe Q p w)
    (hq : ¬c → R.Safe Q q w) : R.Safe Q (if c then p else q) w := by
  split
  · exact hp ‹_›
  · exact hq ‹_›

/-- A program of quiet calls leaves alone what the others leave alone. -/
theorem safe_of_calls (hp : p.Calls R.Quiet) (hP : R.Stable P) (h : P w) :
    R.Safe (fun _ => P) p w := by
  induction p generalizing w with
  | pure a => exact fun w' hr hi => hP w w' h hr hi
  | call op k ih =>
    intro w' hr hi r w'' hs
    obtain ⟨hg, hi', hr'⟩ := hp.1 w' r w'' hi hs
    exact ⟨hg, hi', ih r (hp.2 r) (hP w' w'' (hP w w' h hr hi) hr' hi')⟩

/-- A program whose calls keep `P`. -/
theorem safe_of_keeps {V : α → Prop} (hp : p.Calls (R.Keeps P)) (hV : p.Returns V) (hP : R.Stable P)
    (h : P w) :
    R.Safe (fun a w => V a ∧ P w) p w := by
  induction p generalizing w with
  | pure a => exact fun w' hr hi => ⟨hV, hP w w' h hr hi⟩
  | call op k ih =>
    intro w' hr hi r w'' hs
    obtain ⟨hg, hi', hP'⟩ := hp.1 w' r w'' (hP w w' h hr hi) hi hs
    exact ⟨hg, hi', ih r (hp.2 r) (hV r) hP'⟩

/-- A program of quiet calls, and what follows it. -/
theorem safe_then {Q : β → W → Prop} {f : α → Prog Op Res β} {V : α → Prop} (hp : p.Calls R.Quiet)
    (hV : p.Returns V) (hP : R.Stable P) (h : P w) (hf : ∀ a w, V a → P w → R.Safe Q (f a) w) :
    R.Safe Q (p >>= f) w := by
  induction p generalizing w with
  | pure a => exact safe_of_inv fun w' hr hi => hf a w' hV (hP w w' h hr hi)
  | call op k ih =>
    intro w' hr hi r w'' hs
    obtain ⟨hg, hi', hr'⟩ := hp.1 w' r w'' hi hs
    exact ⟨hg, hi', ih r (hp.2 r) (hV r) (hP w' w'' (hP w w' h hr hi) hr' hi')⟩

/-- A program of quiet calls whose value is not used. -/
theorem safe_next {Q : β → W → Prop} {f : α → Prog Op Res β} (hp : p.Calls R.Quiet)
    (hP : R.Stable P) (h : P w) (hf : ∀ a w, P w → R.Safe Q (f a) w) : R.Safe Q (p >>= f) w :=
  safe_then hp (Prog.returns_true p) hP h fun a w _ hw => hf a w hw

theorem safe_then_pure {p : Prog Op Res β} {a : α} (hp : p.Calls R.Quiet) (hQ : R.Stable (Q a))
    (h : Q a w) : R.Safe Q (p >>= fun _ => Pure.pure a) w :=
  safe_next hp hQ h fun _ _ hw => safe_pure hQ hw

/-- The frame rule: a program that is verified with weaker rules keeps, in
addition, what its guarantees leave alone. -/
theorem Safe.frame {R' : Rules Op Res W} {F : W → Prop}
    (hsem : ∀ op w r w', R'.sem op w r w' → R.sem op w r w') (hinv : ∀ w, R'.inv w ↔ R.inv w)
    (hrely : ∀ w w', R'.rely w w' → R.rely w w')
    (hguar : ∀ op w w', R.guar op w w' → R'.guar op w w') (hF : R'.Stable F)
    (hkeep : ∀ op w w', F w → R.inv w' → R.guar op w w' → F w') (h : R.Safe Q p w) (hw : F w) :
    R'.Safe (fun a w => Q a w ∧ F w) p w := by
  induction p generalizing w with
  | pure a =>
    intro w' hr hi
    exact ⟨h w' (hrely w w' hr) ((hinv w').mp hi), hF w w' hw hr hi⟩
  | call op k ih =>
    intro w' hr hi r w'' hs
    obtain ⟨hg, hi', hk⟩ := h w' (hrely w w' hr) ((hinv w').mp hi) r w'' (hsem op w' r w'' hs)
    exact ⟨hguar op w' w'' hg, (hinv w'').mpr hi',
      ih r hk (hkeep op w' w'' (hF w w' hw hr hi) hi' hg)⟩

/-- What the guarantees of its calls leave alone, a program keeps. -/
theorem Safe.and_calls {C : Op → Prop} {F : W → Prop} (h : R.Safe Q p w) (hp : p.Calls C)
    (hF : R.Stable F) (hkeep : ∀ op w w', C op → F w → R.inv w' → R.guar op w w' → F w')
    (hw : F w) : R.Safe (fun a w => Q a w ∧ F w) p w := by
  induction p generalizing w with
  | pure a => exact fun w' hr hi => ⟨h w' hr hi, hF w w' hw hr hi⟩
  | call op k ih =>
    intro w' hr hi r w'' hs
    obtain ⟨hg, hi', hk⟩ := h w' hr hi r w'' hs
    exact ⟨hg, hi', ih r hk (hp.2 r) (hkeep op w' w'' hp.1 (hF w w' hw hr hi) hi' hg)⟩

theorem Stable.and {P' : W → Prop} (h : R.Stable P) (h' : R.Stable P') :
    R.Stable fun w => P w ∧ P' w :=
  fun w w' hw hr hi => ⟨h w w' hw.1 hr hi, h' w w' hw.2 hr hi⟩

theorem stable_const (c : Prop) : R.Stable fun _ => c := fun _ _ h _ _ => h

theorem safe_done {a : α} : R.Safe (fun _ _ => True) (Pure.pure a) w :=
  safe_pure (stable_const True) trivial

theorem stable_forall {ι : Sort*} {P : ι → W → Prop} (h : ∀ i, R.Stable (P i)) :
    R.Stable fun w => ∀ i, P i w := fun w w' hw hr hi i => h i w w' (hw i) hr hi

theorem stable_exists {ι : Sort*} {P : ι → W → Prop} (h : ∀ i, R.Stable (P i)) :
    R.Stable fun w => ∃ i, P i w := fun w w' ⟨i, hw⟩ hr hi => ⟨i, h i w w' hw hr hi⟩

theorem stable_imp {c : Prop} (h : R.Stable P) : R.Stable fun w => c → P w :=
  fun w w' hw hr hi hc => h w w' (hw hc) hr hi

end Rules

/-! ### Threads -/

/-- The threads `T` of a process.  A thread that is not running a program holds
a local state; `task` says which programs it may start from there. -/
structure System (Op : Type) (Res : Op → Type) (W T : Type) where
  Local : T → Type
  sem : T → (op : Op) → W → Res op → W → Prop
  task : (t : T) → Local t → Prog Op Res (Local t) → Prop
  /-- What happens outside the process. -/
  env : W → W → Prop
  /-- What becomes of the state when the process dies and is started again. -/
  restart : W → W → Prop
  fresh : (t : T) → Local t

variable {T : Type}

structure Config (S : System Op Res W T) where
  world : W
  prog : (t : T) → Prog Op Res (S.Local t)

variable {S : System Op Res W T}

/-- The process with all threads at rest. -/
def System.boot (S : System Op Res W T) (w : W) : Config S := ⟨w, fun t => .pure (S.fresh t)⟩

/-- The rules of the threads fit together. -/
structure Verified (S : System Op Res W T) (R : T → Rules Op Res W)
    (Q : (t : T) → S.Local t → W → Prop) (I : W → Prop) : Prop where
  sem : ∀ t, (R t).sem = S.sem t
  inv : ∀ t, (R t).inv = I
  guar : ∀ t t' op w w', t ≠ t' → I w → I w' → (R t).guar op w w' → (R t').rely w w'
  env : ∀ w w', I w → S.env w w' → I w' ∧ ∀ t, (R t).rely w w'
  task : ∀ t a p w, I w → Q t a w → S.task t a p → (R t).Safe (Q t) p w
  restart : ∀ w w', I w → S.restart w w' → I w' ∧ ∀ t, (R t).Safe (Q t) (.pure (S.fresh t)) w'

variable {R : T → Rules Op Res W} {Q : (t : T) → S.Local t → W → Prop} {I : W → Prop}

/-- What is known of a state that verified threads have reached. -/
def Config.Ok (R : T → Rules Op Res W) (Q : (t : T) → S.Local t → W → Prop) (I : W → Prop)
    (c : Config S) : Prop :=
  I c.world ∧ ∀ t, (R t).Safe (Q t) (c.prog t) c.world

variable {c : Config S}

/-- What is known of a thread at rest. -/
theorem Config.Ok.rest (hv : Verified S R Q I) (h : c.Ok R Q I) {t : T} {a : S.Local t}
    (ht : c.prog t = .pure a) : Q t a c.world := by
  have hsafe := h.2 t
  rw [ht] at hsafe
  exact hsafe c.world ((R t).rely_refl _) (hv.inv t ▸ h.1)

/-- What is known of the call a thread makes next. -/
theorem Config.Ok.guar (hv : Verified S R Q I) (h : c.Ok R Q I) {t : T} {op : Op}
    {k : Res op → Prog Op Res (S.Local t)} (ht : c.prog t = .call op k) {r : Res op} {w : W}
    (hs : S.sem t op c.world r w) : (R t).guar op c.world w := by
  have hsafe := h.2 t
  rw [ht] at hsafe
  exact (hsafe c.world ((R t).rely_refl _) (hv.inv t ▸ h.1) r w (hv.sem t ▸ hs)).1

/-! ### Runs -/

variable [DecidableEq T]

theorem Config.prog_update (w : W) (f : (t : T) → Prog Op Res (S.Local t)) (t : T)
    (p : Prog Op Res (S.Local t)) : (⟨w, Function.update f t p⟩ : Config S).prog t = p :=
  Function.update_self t p f

theorem Config.prog_of_ne {w : W} {f : (t : T) → Prog Op Res (S.Local t)} {t t' : T}
    {p : Prog Op Res (S.Local t)} (h : t' ≠ t) :
    (⟨w, Function.update f t p⟩ : Config S).prog t' = f t' := Function.update_of_ne h p f

inductive Step (S : System Op Res W T) (c : Config S) : Config S → Prop
  | run (t : T) (op : Op) (k : Res op → Prog Op Res (S.Local t)) (r : Res op) (w : W)
      (h : c.prog t = .call op k) (hs : S.sem t op c.world r w) :
      Step S c ⟨w, Function.update c.prog t (k r)⟩
  | start (t : T) (a : S.Local t) (p : Prog Op Res (S.Local t)) (h : c.prog t = .pure a)
      (hp : S.task t a p) : Step S c ⟨c.world, Function.update c.prog t p⟩
  | env (w : W) (h : S.env c.world w) : Step S c ⟨w, c.prog⟩
  | crash (w : W) (h : S.restart c.world w) : Step S c (S.boot w)

abbrev Steps (S : System Op Res W T) : Config S → Config S → Prop :=
  Relation.ReflTransGen (Step S)

theorem Config.Ok.step {c' : Config S} (hv : Verified S R Q I) (h : c.Ok R Q I) (hs : Step S c c') :
    c'.Ok R Q I := by
  obtain ⟨hI, hsafe⟩ := h
  cases hs with
  | run t op k r w hp hs =>
    have ht := hsafe t
    rw [hp] at ht
    have hinv : (R t).inv c.world := hv.inv t ▸ hI
    have hsem : (R t).sem op c.world r w := hv.sem t ▸ hs
    obtain ⟨hg, hi, hk⟩ := ht c.world ((R t).rely_refl _) hinv r w hsem
    have hI' : I w := hv.inv t ▸ hi
    refine ⟨hI', fun t' => ?_⟩
    show (R t').Safe (Q t') (Function.update c.prog t (k r) t') w
    -- the thread that moved goes on, the others have relied on what it guarantees
    by_cases e : t' = t
    · subst e
      rw [Function.update_self]
      exact hk
    · rw [Function.update_of_ne e]
      exact (hsafe t').later (hv.guar t t' op _ _ (Ne.symm e) hI hI' hg)
  | start t a p hp htask =>
    refine ⟨hI, fun t' => ?_⟩
    show (R t').Safe (Q t') (Function.update c.prog t p t') c.world
    by_cases e : t' = t
    · subst e
      have ht := hsafe t'
      rw [hp] at ht
      rw [Function.update_self]
      exact hv.task t' a p c.world hI (ht c.world ((R t').rely_refl _) (hv.inv t' ▸ hI)) htask
    · rw [Function.update_of_ne e]
      exact hsafe t'
  | env w henv =>
    obtain ⟨hI', hr⟩ := hv.env _ _ hI henv
    exact ⟨hI', fun t => (hsafe t).later (hr t)⟩
  | crash w hw => exact hv.restart _ _ hI hw

/-- **Verified threads stay verified**, along every run. -/
theorem Config.Ok.steps {c' : Config S} (hv : Verified S R Q I) (h : c.Ok R Q I) (hs : Steps S c c')
    : c'.Ok R Q I := by
  induction hs with
  | refl => exact h
  | tail _ hstep ih => exact ih.step hv hstep

/-- A thread that runs up to a call while the others wait. -/
theorem steps_of_runTo {t : T} {exec : (op : Op) → W → Option (Res op × W)}
    (hexec : ∀ op w r w', exec op w = some (r, w') → S.sem t op w r w') {stop : Op → Bool}
    {p p' : Prog Op Res (S.Local t)} {w w' : W} (h : p.runTo exec stop w = some (p', w'))
    {f : (t : T) → Prog Op Res (S.Local t)} (hp : f t = p) :
    Steps S ⟨w, f⟩ ⟨w', Function.update f t p'⟩ := by
  induction p generalizing w f with
  | pure b =>
    simp only [Prog.runTo, Option.some.injEq, Prod.mk.injEq] at h
    obtain ⟨rfl, rfl⟩ := h
    rw [← hp, Function.update_eq_self]
  | call op k ih =>
    unfold Prog.runTo at h
    split_ifs at h
    · simp only [Option.some.injEq, Prod.mk.injEq] at h
      obtain ⟨rfl, rfl⟩ := h
      rw [← hp, Function.update_eq_self]
    · rcases hc : exec op w with - | ⟨r, w₁⟩
      · rw [hc] at h
        cases h
      · rw [hc] at h
        have hstep : Step S ⟨w, f⟩ ⟨w₁, Function.update f t (k r)⟩ :=
          .run t op k r w₁ hp (hexec _ _ _ _ hc)
        have hrest := ih r h (Function.update_self t (k r) f)
        rw [Function.update_idem] at hrest
        exact .head hstep hrest

/-- A thread that runs to the end of its program while the others wait. -/
theorem steps_of_runAll {t : T} {exec : (op : Op) → W → Option (Res op × W)}
    (hexec : ∀ op w r w', exec op w = some (r, w') → S.sem t op w r w')
    {p : Prog Op Res (S.Local t)} {a : S.Local t} {w w' : W} (h : p.runAll exec w = some (a, w'))
    {f : (t : T) → Prog Op Res (S.Local t)} (hp : f t = p) :
    Steps S ⟨w, f⟩ ⟨w', Function.update f t (.pure a)⟩ := by
  unfold Prog.runAll at h
  split at h
  · rename_i hto
    cases h
    exact steps_of_runTo hexec hto hp
  · cases h

end Conc
