/-
Bytes on a connection and the integer conversions around them.

A 16-bit field travels with its high byte first and is read back as a signed
`short`.  A negative `int` that is converted to `std::size_t` wraps modulo
2^64.  Text travels as UTF-8.
-/
import Mathlib

namespace Wire

/-! ### Integer conversions -/

/-- The value of an expression of type `short`. -/
def short (i : Int) : Int := Int.bmod i 65536

/-- The conversion of an `int` to `std::size_t`. -/
def sizeT (i : Int) : Nat := (i % 2 ^ 64).toNat

theorem short_of_range {i : Int} (h : -2 ^ 15 ≤ i) (h' : i < 2 ^ 15) : short i = i := by
  unfold short
  exact Int.bmod_eq_of_le (by omega) (by omega)

theorem sizeT_of_nonneg {i : Int} (h : 0 ≤ i) (h' : i < 2 ^ 64) : sizeT i = i.toNat := by
  unfold sizeT
  rw [Int.emod_eq_of_lt h h']

/-! ### Fields of two bytes -/

/-- The two bytes of a field, the high byte first. -/
def field (n : Nat) : List UInt8 := [UInt8.ofNat (n / 256), UInt8.ofNat n]

/-- `network_to_host_short` of two bytes. -/
def readShort (hi lo : UInt8) : Int := short (hi.toNat * 256 + lo.toNat)

/-- A field is read back as the `short` with the same low sixteen bits. -/
theorem readShort_field (n : Nat) :
    readShort (UInt8.ofNat (n / 256)) (UInt8.ofNat n) = short n := by
  unfold readShort short
  simp only [UInt8.toNat_ofNat']
  have hn : ((n / 256 % 2 ^ 8 : Nat) : Int) * 256 + ((n % 2 ^ 8 : Nat) : Int) =
      (n : Int) % 65536 := by omega
  rw [hn]
  exact Int.emod_bmod (n : Int) 65536

/-- The one field that is read as -1. -/
theorem readShort_eq_neg_one_iff {hi lo : UInt8} :
    readShort hi lo = -1 ↔ hi = 0xFF ∧ lo = 0xFF := by
  have hhi : hi.toNat < 256 := hi.toNat_lt
  have hlo : lo.toNat < 256 := lo.toNat_lt
  have h255 : (0xFF : UInt8).toNat = 255 := rfl
  simp only [← UInt8.toNat_inj, h255, readShort, short, Int.bmod_def]
  constructor
  · intro h
    split at h <;> omega
  · rintro ⟨h, h'⟩
    rw [h, h']
    decide

/-! ### Text -/

/-- The bytes of a text. -/
def utf8 (s : String) : List UInt8 := s.toList.flatMap String.utf8EncodeChar

theorem length_utf8 (s : String) : (utf8 s).length = s.utf8ByteSize := by
  have h : s.toByteArray = (utf8 s).toByteArray := by
    rw [← String.ofList_toList (s := s), String.toByteArray_ofList]
    simp [utf8, List.utf8Encode]
  rw [← String.size_toByteArray, h, List.size_toByteArray]

end Wire
