/-
How many bytes `dump` writes.

A text takes the bytes of its characters, where a quotation mark, a backslash
and a control character take more than in UTF-8.  An array or an object takes
what its parts take, one byte in front of each for the bracket or the comma,
one at the end, and in the pretty form the new lines with their indentation.
So the size of a document whose keys are known is a constant plus the sizes of
its leaves, and `simp` with the lemmas of this file finds it.
-/
import LlfcChat.Lib.Json

namespace Json

/-! ### Texts -/

/-- What one character of a text takes. -/
def charBytes (c : Char) : Nat :=
  if c = '"' ∨ c = '\\' then 2
  else if 0x20 ≤ c.toNat then c.utf8Size
  else if c.toNat = 0x08 ∨ c.toNat = 0x09 ∨ c.toNat = 0x0A ∨ c.toNat = 0x0C ∨ c.toNat = 0x0D then 2
  else 6

/-- What a text takes, with the quotation marks around it. -/
def textBytes (s : String) : Nat := 2 + (s.toList.map charBytes).sum

theorem utf8Size_escapeChar (c : Char) : ((escapeChar c).map Char.utf8Size).sum = charBytes c := by
  by_cases hp : 0x20 ≤ c.toNat
  · unfold escapeChar charBytes
    by_cases hq : c = '"'
    · subst hq
      rfl
    by_cases hb : c = '\\'
    · subst hb
      rfl
    simp [hq, hb, hp]
  · -- there are 32 control characters
    have hall : ∀ n < 0x20,
        ((escapeChar (Char.ofNat n)).map Char.utf8Size).sum = charBytes (Char.ofNat n) := by decide
    rw [← Char.ofNat_toNat c]
    exact hall c.toNat (Nat.lt_of_not_le hp)

theorem utf8ByteSize_ofList_eq_sum (cs : List Char) :
    (String.ofList cs).utf8ByteSize = (cs.map Char.utf8Size).sum := by
  induction cs with
  | nil => rfl
  | cons c cs ih =>
    rw [String.ofList_cons, String.utf8ByteSize_append, String.utf8ByteSize_singleton, ih]
    simp

@[simp] theorem utf8ByteSize_quote (s : String) : (quote s).utf8ByteSize = textBytes s := by
  have hescaped : ∀ cs : List Char, ((cs.flatMap escapeChar).map Char.utf8Size).sum =
      (cs.map charBytes).sum := by
    intro cs
    induction cs with
    | nil => rfl
    | cons c cs ih => simp [utf8Size_escapeChar, ih]
  have hmark : ("\"" : String).utf8ByteSize = 1 := rfl
  rw [quote, String.utf8ByteSize_append, String.utf8ByteSize_append, hmark,
    utf8ByteSize_ofList_eq_sum, hescaped, textBytes]
  omega

/-- A text of one character, many times over. -/
theorem textBytes_replicate (n : Nat) (c : Char) :
    textBytes (String.ofList (List.replicate n c)) = 2 + n * charBytes c := by
  simp [textBytes]

theorem charBytes_le (c : Char) : charBytes c ≤ 6 := by
  have hutf8 := c.utf8Size_le_four
  unfold charBytes
  split_ifs <;> omega

/-- No character takes more than six bytes. -/
theorem textBytes_le (s : String) : textBytes s ≤ 2 + 6 * s.toList.length := by
  have hsum := List.sum_le_card_nsmul (s.toList.map charBytes) 6
    (List.forall_mem_map.mpr fun c _ => charBytes_le c)
  rw [List.length_map, smul_eq_mul] at hsum
  unfold textBytes
  omega

theorem utf8ByteSize_le (s : String) : s.utf8ByteSize ≤ 4 * s.toList.length := by
  have hsum := List.sum_le_card_nsmul (s.toList.map Char.utf8Size) 4
    (List.forall_mem_map.mpr fun c _ => c.utf8Size_le_four)
  have hsize := utf8ByteSize_ofList_eq_sum s.toList
  rw [String.ofList_toList] at hsize
  rw [List.length_map, smul_eq_mul] at hsum
  omega

/-- The text of a 64-bit number. -/
theorem length_toString_le {i : Int} (h : -2 ^ 63 ≤ i) (h' : i < 2 ^ 63) :
    (toString i).toList.length ≤ 20 := by
  have hnat : ∀ n : Nat, n ≤ 2 ^ 63 → (Nat.repr n).toList.length ≤ 19 := by
    intro n hn
    have hdigits := (Nat.length_toDigits_le_iff (b := 10) (n := n) (k := 19) (by decide)
      (by decide)).mpr (by omega)
    unfold Nat.repr
    rwa [String.toList_ofList]
  rw [Int.toString_eq_repr, Int.repr_eq_if]
  split
  · exact Nat.le_succ_of_le (hnat i.toNat (by omega))
  · have hdigits := hnat (-i).toNat (by omega)
    rw [String.toList_append, List.length_append]
    show 1 + _ ≤ 20
    omega

/-! ### Documents -/

/-- What `dump` takes for a value that starts at this indentation. -/
def bytesAt (pretty : Bool) (indent : Nat) (j : Json) : Nat :=
  (dumpAt pretty indent j).utf8ByteSize

/-- What a new line takes. -/
def newlineBytes (pretty : Bool) (indent : Nat) : Nat := if pretty then 1 + indent else 0

/-- What a member takes: its key, the colon and its value. -/
def memberBytes (pretty : Bool) (indent : Nat) (m : String × Json) : Nat :=
  textBytes m.1 + (if pretty then 2 else 1) + bytesAt pretty indent m.2

@[simp] theorem utf8ByteSize_newline (pretty : Bool) (indent : Nat) :
    (newline pretty indent).utf8ByteSize = newlineBytes pretty indent := by
  cases pretty with
  | false => rfl
  | true =>
    have hnl : ("\n" : String).utf8ByteSize = 1 := rfl
    have hblank : (' ' : Char).utf8Size = 1 := rfl
    simp [newline, newlineBytes, utf8ByteSize_ofList_eq_sum, hnl, hblank]

theorem utf8ByteSize_dumpMember (pretty : Bool) (indent : Nat) (m : String × Json) :
    (dumpMember pretty indent m).utf8ByteSize = memberBytes pretty indent m := by
  have hcolon : (colon pretty).utf8ByteSize = if pretty then 2 else 1 := by cases pretty <;> rfl
  obtain ⟨key, value⟩ := m
  simp [dumpMember, memberBytes, bytesAt, hcolon]

theorem utf8ByteSize_dumpItems (pretty : Bool) (indent : Nat) (xs : List Json) :
    (dumpItems pretty indent xs).utf8ByteSize =
      (xs.map fun x => 1 + newlineBytes pretty indent + bytesAt pretty indent x).sum := by
  have hcomma : ("," : String).utf8ByteSize = 1 := rfl
  induction xs with
  | nil => rfl
  | cons x xs ih => simp [dumpItems, bytesAt, hcomma, ih]

theorem utf8ByteSize_dumpMembers (pretty : Bool) (indent : Nat) (ms : List (String × Json)) :
    (dumpMembers pretty indent ms).utf8ByteSize =
      (ms.map fun m => 1 + newlineBytes pretty indent + memberBytes pretty indent m).sum := by
  have hcomma : ("," : String).utf8ByteSize = 1 := rfl
  induction ms with
  | nil => rfl
  | cons m ms ih => simp [dumpMembers, utf8ByteSize_dumpMember, hcomma, ih]

section Values

variable (pretty : Bool) (indent : Nat)

@[simp] theorem bytesAt_null : bytesAt pretty indent .null = 4 := rfl

@[simp] theorem bytesAt_bool (b : Bool) : bytesAt pretty indent (.bool b) = if b then 4 else 5 := by
  cases b <;> rfl

@[simp] theorem bytesAt_int (i : Int) :
    bytesAt pretty indent (.int i) = (toString i).utf8ByteSize := by simp [bytesAt, dumpAt]

@[simp] theorem bytesAt_uint (n : Nat) :
    bytesAt pretty indent (.uint n) = (toString n).utf8ByteSize := by simp [bytesAt, dumpAt]

@[simp] theorem bytesAt_str (s : String) : bytesAt pretty indent (.str s) = textBytes s := by
  simp [bytesAt, dumpAt]

/-- Each item has its bracket or comma in front. -/
theorem bytesAt_arr_cons (x : Json) (xs : List Json) :
    bytesAt pretty indent (.arr (x :: xs)) =
      ((x :: xs).map fun x => 1 + newlineBytes pretty (indent + 4) +
        bytesAt pretty (indent + 4) x).sum + newlineBytes pretty indent + 1 := by
  have hopen : ("[" : String).utf8ByteSize = 1 := rfl
  have hclose : ("]" : String).utf8ByteSize = 1 := rfl
  simp [bytesAt, dumpAt, utf8ByteSize_dumpItems, hopen, hclose]

/-- Each member has its brace or comma in front. -/
theorem bytesAt_obj_cons (m : String × Json) (ms : List (String × Json)) :
    bytesAt pretty indent (.obj (m :: ms)) =
      ((m :: ms).map fun m => 1 + newlineBytes pretty (indent + 4) +
        memberBytes pretty (indent + 4) m).sum + newlineBytes pretty indent + 1 := by
  have hopen : ("\x7b" : String).utf8ByteSize = 1 := rfl
  have hclose : ("\x7d" : String).utf8ByteSize = 1 := rfl
  simp [bytesAt, dumpAt, utf8ByteSize_dumpMembers, utf8ByteSize_dumpMember, hopen, hclose]

/-- The order of the members does not matter. -/
theorem bytesAt_obj_of_perm {ms l : List (String × Json)} (h : ms.Perm l) (hne : l ≠ []) :
    bytesAt pretty indent (.obj ms) =
      (l.map fun m => 1 + newlineBytes pretty (indent + 4) +
        memberBytes pretty (indent + 4) m).sum + newlineBytes pretty indent + 1 := by
  rcases ms with - | ⟨m, ms⟩
  · exact absurd h.nil_eq.symm hne
  · rw [bytesAt_obj_cons, (h.map _).sum_nat]

end Values

/-- What a member takes in the compact form: the comma or brace in front of it,
its key, the colon and its value. -/
def fieldBytes (key : String) (value : Nat) : Nat := 2 + textBytes key + value

/-- An object in the compact form: its members, and the brace at the end. -/
theorem bytesAt_compact {indent : Nat} {ms l : List (String × Json)} (h : ms.Perm l)
    (hne : l ≠ []) :
    bytesAt false indent (.obj ms) =
      1 + (l.map fun m => fieldBytes m.1 (bytesAt false (indent + 4) m.2)).sum := by
  have hfield : (fun m : String × Json => 1 + newlineBytes false (indent + 4) +
      memberBytes false (indent + 4) m) =
      fun m => fieldBytes m.1 (bytesAt false (indent + 4) m.2) := by
    funext m
    simp only [newlineBytes, memberBytes, fieldBytes, Bool.false_eq_true, if_false]
    omega
  rw [bytesAt_obj_of_perm _ _ h hne, hfield]
  simp only [newlineBytes, Bool.false_eq_true, if_false]
  omega

/-- What a member takes in the pretty form, on a line of its own. -/
def lineBytes (indent : Nat) (key : String) (value : Nat) : Nat :=
  4 + indent + textBytes key + value

/-- An object in the pretty form: the lines of its members, and the brace on the
last line. -/
theorem bytesAt_pretty {indent : Nat} {ms l : List (String × Json)} (h : ms.Perm l) (hne : l ≠ []) :
    bytesAt true indent (.obj ms) =
      2 + indent +
        (l.map fun m => lineBytes (indent + 4) m.1 (bytesAt true (indent + 4) m.2)).sum := by
  have hline : (fun m : String × Json => 1 + newlineBytes true (indent + 4) +
      memberBytes true (indent + 4) m) =
      fun m => lineBytes (indent + 4) m.1 (bytesAt true (indent + 4) m.2) := by
    funext m
    simp only [newlineBytes, memberBytes, lineBytes, if_true]
    omega
  rw [bytesAt_obj_of_perm _ _ h hne, hline]
  simp only [newlineBytes, if_true]
  omega

/-- What an array takes in the pretty form, from what its items take. -/
def arrayBytes (indent : Nat) (items : List Nat) : Nat :=
  if items = [] then 2
  else 2 + indent + (items.map fun n => 6 + indent + n).sum

theorem bytesAt_arr_pretty (indent : Nat) (xs : List Json) :
    bytesAt true indent (.arr xs) = arrayBytes indent (xs.map (bytesAt true (indent + 4))) := by
  cases xs with
  | nil => rfl
  | cons x xs =>
    rw [bytesAt_arr_cons, arrayBytes, if_neg (by simp), List.map_map]
    have hitem : (fun x => 1 + newlineBytes true (indent + 4) + bytesAt true (indent + 4) x) =
        (fun n => 6 + indent + n) ∘ bytesAt true (indent + 4) := by
      funext y
      simp only [newlineBytes, if_true, Function.comp_apply]
      omega
    rw [hitem]
    simp only [newlineBytes, if_true]
    omega

end Json
