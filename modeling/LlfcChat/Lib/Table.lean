/-
Tables as lists of rows: `UPDATE .. SET .. WHERE ..`, and what survives it.

An update maps the rows that satisfy the condition and keeps the others, so
whatever a column function `g` reads is the same before and after as long as
the update does not write it.
-/
import Mathlib

namespace Table

variable {α β : Type} {p : α → Prop} [DecidablePred p] {f : α → α}

/-- Apply `f` to the rows that satisfy `p`. -/
def update (p : α → Prop) [DecidablePred p] (f : α → α) (l : List α) : List α :=
  l.map fun x => if p x then f x else x

/-- The row `x` after the update. -/
def updated (p : α → Prop) [DecidablePred p] (f : α → α) (x : α) : α := if p x then f x else x

variable {l : List α} {x : α} {q : α → Bool} {g key : α → β}

theorem updated_pos (h : p x) : updated p f x = f x := if_pos h

theorem updated_neg (h : ¬p x) : updated p f x = x := if_neg h

/-- A column the update does not write. -/
theorem updated_column (h : ∀ x, g (f x) = g x) (x : α) : g (updated p f x) = g x := by
  unfold updated
  split
  · exact h x
  · rfl

theorem update_eq_map (l : List α) : update p f l = l.map (updated p f) := rfl

theorem mem_update : x ∈ update p f l ↔ ∃ y ∈ l, updated p f y = x :=
  List.mem_map

@[simp] theorem length_update (l : List α) : (update p f l).length = l.length := List.length_map _

theorem map_update (h : ∀ x, g (f x) = g x) (l : List α) : (update p f l).map g = l.map g := by
  rw [update_eq_map, List.map_map]
  exact List.map_congr_left fun x _ => updated_column h x

/-- The same for a column that the update writes, but not in the rows it is for. -/
theorem map_update_of (h : ∀ x, p x → g (f x) = g x) (l : List α) :
    (update p f l).map g = l.map g := by
  rw [update_eq_map, List.map_map]
  refine List.map_congr_left fun x _ => ?_
  show g (updated p f x) = g x
  unfold updated
  split
  · rename_i hp
    exact h x hp
  · rfl

/-- A lookup by a column that is not written finds the same row, updated. -/
theorem find?_update (h : ∀ x, q (f x) = q x) (l : List α) :
    (update p f l).find? q = (l.find? q).map (updated p f) := by
  rw [update_eq_map, List.find?_map]
  congr 2
  exact funext fun x => updated_column h x

/-- An update that never makes `q` true does not add to its rows. -/
theorem countP_update_le (h : ∀ x, p x → q (f x) = true → q x = true) (l : List α) :
    (update p f l).countP q ≤ l.countP q := by
  rw [update_eq_map, List.countP_map]
  refine List.countP_mono_left fun x _ hx => ?_
  by_cases hp : p x
  · exact h x hp (by rwa [Function.comp, updated_pos hp] at hx)
  · rwa [Function.comp, updated_neg hp] at hx

/-- The same where the rows of the table are known to be so. -/
theorem countP_update_le_of_mem (h : ∀ x ∈ l, p x → q (f x) = true → q x = true) :
    (update p f l).countP q ≤ l.countP q := by
  rw [update_eq_map, List.countP_map]
  refine List.countP_mono_left fun x hx hq => ?_
  by_cases hp : p x
  · exact h x hx hp (by rwa [Function.comp, updated_pos hp] at hq)
  · rwa [Function.comp, updated_neg hp] at hq

/-- An update takes none away if the rows that satisfy `q` still do. -/
theorem le_countP_update_of_mem (h : ∀ x ∈ l, p x → q x = true → q (f x) = true) :
    l.countP q ≤ (update p f l).countP q := by
  rw [update_eq_map, List.countP_map]
  refine List.countP_mono_left fun x hx hq => ?_
  by_cases hp : p x
  · rw [Function.comp, updated_pos hp]
    exact h x hx hp hq
  · rwa [Function.comp, updated_neg hp]

/-- An update of the row with one key adds at most one. -/
theorem countP_update_key_le [DecidableEq β] (h : (l.map key).Nodup) (k : β) :
    (update (fun x => key x = k) f l).countP q ≤ l.countP q + 1 := by
  induction l with
  | nil => exact Nat.zero_le _
  | cons x l ih =>
    rw [List.map_cons, List.nodup_cons] at h
    simp only [update_eq_map, List.map_cons, List.countP_cons] at ih ⊢
    by_cases hx : key x = k
    · -- no other row has the key
      have hrest : l.map (updated (fun y => key y = k) f) = l := by
        refine (List.map_congr_left fun y hy => updated_neg fun hyk => ?_).trans (List.map_id _)
        exact h.1 (hx.trans hyk.symm ▸ List.mem_map_of_mem hy)
      rw [hrest]
      split <;> split <;> omega
    · have hsame : updated (fun y => key y = k) f x = x := updated_neg hx
      have := ih h.2
      rw [hsame]
      omega

/-- It takes one away where a row has stopped to satisfy `q`. -/
theorem countP_update_lt (h : ∀ x, p x → q (f x) = true → q x = true) (hx : x ∈ l) (hp : p x)
    (hq : q x = true) (hf : q (f x) = false) :
    (update p f l).countP q < l.countP q := by
  induction l with
  | nil => cases hx
  | cons y l ih =>
    have hle : (update p f l).countP q ≤ l.countP q := countP_update_le h l
    simp only [update_eq_map, List.map_cons, List.countP_cons] at ih hle ⊢
    rcases List.mem_cons.mp hx with rfl | hx
    · rw [updated_pos hp, hf, hq]
      simpa using Nat.lt_succ_of_le hle
    · refine Nat.add_lt_add_of_lt_of_le (ih hx) ?_
      by_cases hy : p y
      · rw [updated_pos hy]
        by_cases hqy : q (f y) = true
        · simp [hqy, h y hy hqy]
        · simp [hqy]
      · simp [updated_neg hy]

/-- Looking up by a key after appending a row. -/
theorem find?_append_of_not (h : q x = false) (l : List α) : (l ++ [x]).find? q = l.find? q := by
  rw [List.find?_append, List.find?_cons_of_neg (by rw [h]; exact Bool.false_ne_true),
    List.find?_nil, Option.or_none]

theorem find?_append_of_some {y : α} (h : l.find? q = some y) (r : List α) :
    (l ++ r).find? q = some y := by
  rw [List.find?_append, h, Option.some_or]

/-- A row with a new key. -/
theorem nodup_concat (h : (l.map key).Nodup) (hx : ∀ y ∈ l, key y ≠ key x) :
    ((l ++ [x]).map key).Nodup := by
  rw [List.map_append, List.map_singleton, ← List.concat_eq_append]
  refine h.concat fun hmem => ?_
  obtain ⟨y, hy, hyx⟩ := List.mem_map.mp hmem
  exact hx y hy hyx

/-- With distinct keys, at most one row has a given key. -/
theorem length_filter_key_le_one (h : (l.map key).Nodup) {p : α → Bool} {k : β}
    (hp : ∀ x, p x → key x = k) : (l.filter p).length ≤ 1 := by
  induction l with
  | nil => exact Nat.zero_le 1
  | cons y l ih =>
    rw [List.map_cons, List.nodup_cons] at h
    rcases hy : p y with - | -
    · rw [List.filter_cons_of_neg (by simp [hy])]
      exact ih h.2
    · -- the rows behind it have other keys
      have hnil : l.filter p = [] := List.filter_eq_nil_iff.mpr fun x hx hpx =>
        h.1 ((hp y hy).trans (hp x hpx).symm ▸ List.mem_map_of_mem hx)
      rw [List.filter_cons_of_pos hy, hnil]
      exact Nat.le_refl 1

/-- With distinct keys, the row of a key is the row of that key. -/
theorem find?_key [DecidableEq β] (h : (l.map key).Nodup) (hx : x ∈ l) :
    l.find? (fun y => decide (key y = key x)) = some x := by
  induction l with
  | nil => cases hx
  | cons y l ih =>
    rw [List.map_cons, List.nodup_cons] at h
    rcases List.mem_cons.mp hx with rfl | hx
    · exact List.find?_cons_of_pos (by simp)
    · have hne : key y ≠ key x := fun e => h.1 (e ▸ List.mem_map_of_mem hx)
      rw [List.find?_cons_of_neg (by simpa using hne)]
      exact ih h.2 hx

end Table
