/-
What a program says on its way, whatever its calls return.

A path through a program is the list of its calls with what they returned.  Some
calls are notable: `note op` is what an observer writes down about them.
`p.Says note ok Q` means that on every path whose results are in `ok` the program ends
with a value and a log that satisfy `Q`.  Nothing is assumed about the state between
two calls, so the statement holds whatever the other threads do.
-/
import LlfcChat.Lib.Conc

namespace Conc.Prog

variable {Op : Type} {Res : Op → Type} {α β σ : Type}

/-- The calls of a program with their results, and the value it ends with. -/
inductive Path : Prog Op Res α → List ((op : Op) × Res op) → α → Prop
  | pure (a : α) : Path (.pure a) [] a
  | call {op : Op} {k : Res op → Prog Op Res α} {r : Res op} {tr : List ((op : Op) × Res op)}
      {a : α} (h : Path (k r) tr a) : Path (.call op k) (⟨op, r⟩ :: tr) a

/-- Whatever the calls return, as far as `ok` allows it, `Q` holds of the value the program
ends with and of the lines that `note` makes of its calls. -/
def Says (note : Op → Option σ) (ok : (op : Op) → Res op → Prop) :
    Prog Op Res α → (α → List σ → Prop) → Prop
  | .pure a, Q => Q a []
  | .call op k, Q => ∀ r, ok op r → Says note ok (k r) fun a l => Q a ((note op).toList ++ l)

variable {note : Op → Option σ} {ok : (op : Op) → Res op → Prop} {Q Q' : α → List σ → Prop}

variable {p : Prog Op Res α}

theorem Says.mono (h : p.Says note ok Q) (hQ : ∀ a l, Q a l → Q' a l) : p.Says note ok Q' := by
  induction p generalizing Q Q' with
  | pure a => exact hQ a [] h
  | call op k ih => exact fun r hr => ih r (h r hr) fun a l hl => hQ a _ hl

/-- The log of a path. -/
theorem Says.path (h : p.Says note ok Q) {tr : List ((op : Op) × Res op)} {a : α} (hp : Path p tr a)
    (hok : ∀ x ∈ tr, ok x.1 x.2) :
    Q a (tr.filterMap fun x => note x.1) := by
  induction hp generalizing Q with
  | pure a => exact h
  | @call op k r tr a _ ih =>
    have hk := ih (h r (hok ⟨op, r⟩ List.mem_cons_self)) fun x hx => hok x (.tail _ hx)
    cases hn : note op with
    | none =>
      rw [List.filterMap_cons_none (f := fun x : (op : Op) × Res op => note x.1) hn]
      rwa [hn] at hk
    | some s =>
      rw [List.filterMap_cons_some (f := fun x : (op : Op) × Res op => note x.1) hn]
      rwa [hn] at hk

/-- There is a path wherever every call can return. -/
theorem Says.exists (h : p.Says note ok Q) (hok : ∀ op, ∃ r, ok op r) : ∃ a l, Q a l := by
  induction p generalizing Q with
  | pure a => exact ⟨a, [], h⟩
  | call op k ih =>
    obtain ⟨r, hr⟩ := hok op
    obtain ⟨a, l, hl⟩ := ih r (h r hr)
    exact ⟨a, _, hl⟩

end Conc.Prog
