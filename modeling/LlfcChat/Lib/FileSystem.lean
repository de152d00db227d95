/-
A file system with hard links.

A name leads to an inode and the inode holds the bytes, so two names may share
one file: a change made through one of them is seen through the other.  An
inode is known by the name it was created under and a serial number; neither is
used again, so an open file keeps its inode after its name is gone.
-/
import Mathlib

namespace FileSystem

structure Inode (P : Type) where
  birth : P
  serial : Nat
  deriving DecidableEq

structure Disk (P : Type) where
  names : P → Option (Inode P) := fun _ => none
  data : Inode P → List UInt8 := fun _ => []
  /-- The next serial number. -/
  serial : Nat := 0

/-! ### Bytes of a file -/

/-- The bytes of a file after `bytes` were written at `offset`; a gap is filled
with zeros. -/
def overlay (old : List UInt8) (offset : Nat) (bytes : List UInt8) : List UInt8 :=
  (old ++ List.replicate (offset - old.length) 0).take offset ++ bytes ++
    old.drop (offset + bytes.length)

/-- The bytes of a file after its size was set. -/
def resized (old : List UInt8) (size : Nat) : List UInt8 :=
  (old ++ List.replicate (size - old.length) 0).take size

/-- `length` bytes from `offset` on, or as many as there are. -/
def slice (bytes : List UInt8) (offset length : Nat) : List UInt8 :=
  (bytes.drop offset).take length

theorem resized_of_le {old : List UInt8} {size : Nat} (h : size ≤ old.length) :
    resized old size = old.take size := by
  rw [resized, Nat.sub_eq_zero_of_le h, List.replicate_zero, List.append_nil]

theorem overlay_of_le {old : List UInt8} {offset : Nat} (h : offset ≤ old.length)
    (bytes : List UInt8) :
    overlay old offset bytes = old.take offset ++ bytes ++ old.drop (offset + bytes.length) := by
  rw [overlay, Nat.sub_eq_zero_of_le h, List.replicate_zero, List.append_nil]

namespace Disk

variable {P : Type} [DecidableEq P] (d : Disk P)

/-- The bytes of a file, by its name. -/
def contents (p : P) : Option (List UInt8) := (d.names p).map d.data

/-- Give an empty new file the name `p`. -/
def create (p : P) : Disk P :=
  { names := fun q => if q = p then some ⟨p, d.serial⟩ else d.names q
    data := fun i => if i = ⟨p, d.serial⟩ then [] else d.data i
    serial := d.serial + 1 }

def setData (i : Inode P) (bytes : List UInt8) : Disk P :=
  { d with data := fun j => if j = i then bytes else d.data j }

/-- Give an inode one more name. -/
def link (i : Inode P) (p : P) : Disk P :=
  { d with names := fun q => if q = p then some i else d.names q }

def unlink (p : P) : Disk P :=
  { d with names := fun q => if q = p then none else d.names q }

/-- Serial numbers of named files have been handed out. -/
def Numbered : Prop := ∀ p i, d.names p = some i → i.serial < d.serial

/-! ### What a change does to names and bytes -/

variable {d}

theorem setData_data_self (i : Inode P) (bytes : List UInt8) :
    (d.setData i bytes).data i = bytes := if_pos rfl

variable {i : Inode P} {p q : P}

theorem setData_data_of_ne {j : Inode P} (h : j ≠ i) (bytes : List UInt8) :
    (d.setData i bytes).data j = d.data j := if_neg h

theorem link_names_self (i : Inode P) (p : P) : (d.link i p).names p = some i := if_pos rfl

theorem link_names_of_ne (i : Inode P) (h : q ≠ p) : (d.link i p).names q = d.names q := if_neg h

theorem unlink_names_self (p : P) : (d.unlink p).names p = none := if_pos rfl

theorem unlink_names_of_ne (h : q ≠ p) : (d.unlink p).names q = d.names q := if_neg h

theorem create_names_self (p : P) : (d.create p).names p = some ⟨p, d.serial⟩ := if_pos rfl

theorem create_names_of_ne (h : q ≠ p) : (d.create p).names q = d.names q := if_neg h

theorem create_data_self (p : P) : (d.create p).data ⟨p, d.serial⟩ = [] := if_pos rfl

theorem create_data_of_ne (h : i ≠ ⟨p, d.serial⟩) : (d.create p).data i = d.data i := if_neg h

omit [DecidableEq P] in
/-- A file that has a name is not the next new one. -/
theorem Numbered.ne_next (h : d.Numbered) (hi : d.names q = some i) : i ≠ ⟨p, d.serial⟩ := by
  rintro rfl
  exact Nat.lt_irrefl _ (h q _ hi)

theorem Numbered.create (h : d.Numbered) (p : P) : (d.create p).Numbered := by
  intro q i hi
  by_cases hq : q = p
  · subst hq
    rw [create_names_self, Option.some.injEq] at hi
    rw [← hi]
    exact Nat.lt_succ_self _
  · rw [create_names_of_ne hq] at hi
    exact Nat.lt_succ_of_lt (h q i hi)

theorem Numbered.link (h : d.Numbered) (hq : d.names q = some i) : (d.link i p).Numbered := by
  intro r j hj
  by_cases hr : r = p
  · subst hr
    rw [link_names_self, Option.some.injEq] at hj
    exact hj ▸ h q i hq
  · rw [link_names_of_ne i hr] at hj
    exact h r j hj

theorem Numbered.unlink (h : d.Numbered) (p : P) : (d.unlink p).Numbered := by
  intro r j hj
  by_cases hr : r = p
  · subst hr
    rw [unlink_names_self] at hj
    cases hj
  · rw [unlink_names_of_ne hr] at hj
    exact h r j hj

end Disk

end FileSystem
