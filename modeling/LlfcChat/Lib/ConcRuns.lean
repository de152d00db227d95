/-
Three ways to say more about the runs of threads.

What one verification has shown, the next one may assume: the guarantees of
verified threads can be added to the steps of the system (`System.assuming`).
A system can be given a history variable that holds the states it has been in
(`System.recorded`), so that an invariant may speak of the past.  And the steps
while one thread works on one task (`During`) keep the program of the task safe
even if the rules are made for this task alone.
-/
import LlfcChat.Lib.Conc

namespace Conc

variable {Op : Type} {Res : Op → Type} {W T : Type} [DecidableEq T] {S : System Op Res W T}
variable {R : T → Rules Op Res W} {Q : (t : T) → S.Local t → W → Prop} {I : W → Prop}

/-! ### Assuming what has been shown -/

/-- The system whose calls also do what `G` says. -/
@[reducible] def System.assuming (S : System Op Res W T) (G : T → Op → W → W → Prop) :
    System Op Res W T :=
  { S with sem := fun t op w r w' => S.sem t op w r w' ∧ G t op w w' }

/-- **Guarantees may be assumed**: a run of verified threads is one whose calls
do what the rules ask. -/
theorem Config.Ok.assuming {c c' : Config S} (hv : Verified S R Q I) (h : c.Ok R Q I)
    (hs : Steps S c c') :
    Steps (S.assuming fun t => (R t).guar) ⟨c.world, c.prog⟩ ⟨c'.world, c'.prog⟩ := by
  induction hs with
  | refl => exact .refl
  | tail hrun hstep ih =>
    refine ih.tail ?_
    cases hstep with
    | run t op k r w hp hs =>
      have hguar := (h.steps hv hrun).guar hv hp hs
      exact Step.run (S := S.assuming fun t => (R t).guar) t op k r w hp ⟨hs, hguar⟩
    | start t a p hp htask =>
      exact Step.start (S := S.assuming fun t => (R t).guar) t a p hp htask
    | env w henv => exact Step.env (S := S.assuming fun t => (R t).guar) w henv
    | crash w hw => exact Step.crash (S := S.assuming fun t => (R t).guar) w hw

theorem Steps.of_assuming {G : T → Op → W → W → Prop} {c c' : Config (S.assuming G)}
    (hs : Steps (S.assuming G) c c') : Steps S ⟨c.world, c.prog⟩ ⟨c'.world, c'.prog⟩ := by
  induction hs with
  | refl => exact .refl
  | tail _ hstep ih =>
    refine ih.tail ?_
    cases hstep with
    | run t op k r w hp hs => exact Step.run (S := S) t op k r w hp hs.1
    | start t a p hp htask => exact Step.start (S := S) t a p hp htask
    | env w henv => exact Step.env (S := S) w henv
    | crash w hw => exact Step.crash (S := S) w hw

/-! ### Histories -/

/-- A state and the states before it. -/
structure Recorded (W : Type) where
  now : W
  past : W → Prop

/-- The next state, and one more in the past. -/
def Recorded.Moves (w w' : Recorded W) : Prop := w'.past = fun v => w.past v ∨ v = w'.now

/-- The system with a history variable. -/
@[reducible] def System.recorded (S : System Op Res W T) : System Op Res (Recorded W) T where
  Local := S.Local
  sem t op w r w' := S.sem t op w.now r w'.now ∧ w.Moves w'
  task := S.task
  env w w' := S.env w.now w'.now ∧ w.Moves w'
  restart w w' := S.restart w.now w'.now ∧ w.Moves w'
  fresh := S.fresh

/-- A state that a run has passed through. -/
def Passed (S : System Op Res W T) (c c' : Config S) (w : W) : Prop :=
  ∃ c₀, Steps S c c₀ ∧ Steps S c₀ c' ∧ c₀.world = w

theorem Passed.tail {c b c' : Config S} {w : W} (h : Passed S c b w) (hstep : Step S b c') :
    Passed S c c' w := by
  obtain ⟨c₀, h₀, h₁, hw⟩ := h
  exact ⟨c₀, h₀, h₁.tail hstep, hw⟩

/-- The history after a step to another state. -/
theorem passed_or {c b c' : Config S} {past : W → Prop} (hpast : ∀ w, past w → Passed S c b w)
    (hrun : Steps S c b) (hstep : Step S b c') :
    ∀ w, past w ∨ w = c'.world → Passed S c c' w := by
  rintro w (hw | rfl)
  · exact (hpast w hw).tail hstep
  · exact ⟨c', hrun.tail hstep, .refl, rfl⟩

/-- **Every run has a history**, of states that it has passed through. -/
theorem Steps.recorded {c c' : Config S} (hs : Steps S c c') :
    ∃ past, (∀ w, past w → Passed S c c' w) ∧
      Steps S.recorded ⟨⟨c.world, (· = c.world)⟩, c.prog⟩ ⟨⟨c'.world, past⟩, c'.prog⟩ := by
  induction hs with
  | refl => exact ⟨_, fun w hw => ⟨c, .refl, .refl, hw.symm⟩, .refl⟩
  | tail hrun hstep ih =>
    obtain ⟨past, hpast, ih⟩ := ih
    have hnext := passed_or hpast hrun hstep
    cases hstep with
    | run t op k r w hp hs =>
      exact ⟨_, hnext, ih.tail (Step.run (S := S.recorded) t op k r ⟨w, _⟩ hp ⟨hs, rfl⟩)⟩
    | start t a p hp htask =>
      -- the state is the same, and so is the history
      exact ⟨past, fun w hw => (hpast w hw).tail (.start t a p hp htask),
        ih.tail (Step.start (S := S.recorded) t a p hp htask)⟩
    | env w henv => exact ⟨_, hnext, ih.tail (Step.env (S := S.recorded) ⟨w, _⟩ ⟨henv, rfl⟩)⟩
    | crash w hw => exact ⟨_, hnext, ih.tail (Step.crash (S := S.recorded) ⟨w, _⟩ ⟨hw, rfl⟩)⟩

/-! ### One task of one thread -/

/-- A step while thread `t` works on a task: it starts no other, and the process
does not die. -/
inductive StepIn (S : System Op Res W T) (t : T) (c : Config S) : Config S → Prop
  | run (t' : T) (op : Op) (k : Res op → Prog Op Res (S.Local t')) (r : Res op) (w : W)
      (h : c.prog t' = .call op k) (hs : S.sem t' op c.world r w) :
      StepIn S t c ⟨w, Function.update c.prog t' (k r)⟩
  | start (t' : T) (hne : t' ≠ t) (a : S.Local t') (p : Prog Op Res (S.Local t'))
      (h : c.prog t' = .pure a) (hp : S.task t' a p) :
      StepIn S t c ⟨c.world, Function.update c.prog t' p⟩
  | env (w : W) (h : S.env c.world w) : StepIn S t c ⟨w, c.prog⟩

abbrev During (S : System Op Res W T) (t : T) : Config S → Config S → Prop :=
  Relation.ReflTransGen (StepIn S t)

/-- **A task stays safe while it runs**, under rules that are made for it: they
need only cover what the other threads and the outside do. -/
theorem Rules.Safe.during {t : T} {R : Rules Op Res W} {Q : S.Local t → W → Prop}
    {c c' : Config S} (hsem : R.sem = S.sem t)
    (hothers : ∀ t' op w r w', t' ≠ t → R.inv w → S.sem t' op w r w' → R.inv w' ∧ R.rely w w')
    (henv : ∀ w w', R.inv w → S.env w w' → R.inv w' ∧ R.rely w w')
    (h : R.Safe Q (c.prog t) c.world) (hinv : R.inv c.world) (hd : During S t c c') :
    R.Safe Q (c'.prog t) c'.world ∧ R.inv c'.world := by
  induction hd with
  | refl => exact ⟨h, hinv⟩
  | tail _ hstep ih =>
    obtain ⟨h, hinv⟩ := ih
    cases hstep with
    | run t' op k r w hp hs =>
      by_cases e : t' = t
      · subst e
        rw [hp] at h
        obtain ⟨-, hinv', hk⟩ := h _ (R.rely_refl _) hinv r w (hsem ▸ hs)
        refine ⟨?_, hinv'⟩
        rw [Config.prog_update]
        exact hk
      · obtain ⟨hinv', hrely⟩ := hothers t' op _ r w e hinv hs
        refine ⟨?_, hinv'⟩
        rw [Config.prog_of_ne (Ne.symm e)]
        exact h.later hrely
    | start t' hne a p hp htask =>
      refine ⟨?_, hinv⟩
      rw [Config.prog_of_ne (Ne.symm hne)]
      exact h
    | env w henv' =>
      obtain ⟨hinv', hrely⟩ := henv _ w hinv henv'
      exact ⟨h.later hrely, hinv'⟩

end Conc
