/-
JSON values as nlohmann::json keeps them, with the operations that the servers
use.

A value that did not parse is `discarded`.  The members of an object are a
list in the order of the keys, as in the `std::map` behind the library.
Reading is where the library throws: `operator[]` with a key on a value that
is neither an object nor null, and `get` on a value of another kind.  Writing
is `dump`: compact, or pretty with four blanks a level.

Texts are `String`s, since both the parser and `dump` refuse text that is not
UTF-8.  The parser itself is no part of this file; whoever reads a request
takes it as a parameter.
-/
import Mathlib

/-- A JSON value.  A floating-point number is known by its shortest text and
by its integer part, the two things anyone asks of it here. -/
inductive Json
  | null
  | bool (b : Bool)
  | int (i : Int)
  | uint (n : Nat)
  | float (text : String) (whole : Int)
  | str (s : String)
  | arr (items : List Json)
  | obj (members : List (String × Json))
  | discarded

namespace Json

/-- The `exceptions that reading can throw, by their number. -/
inductive Error
  /-- 302: `get` of a value of another kind. -/
  | wrongType
  /-- 304, 305: access by a key to a value that has no members. -/
  | noMembers
  /-- 403: `at` with a key that is not there. -/
  | noKey
  deriving DecidableEq

/-! ### Reading -/

def isObject : Json → Bool
  | .obj _ => true
  | _ => false

/-- The member of a key. -/
def find? (key : String) (members : List (String × Json)) : Option Json :=
  (members.find? fun m => decide (m.1 = key)).map (·.2)

def contains (key : String) : Json → Bool
  | .obj members => (find? key members).isSome
  | _ => false

/-- `operator[]` on a variable: a missing member is created as null, and null
itself turns into an object. -/
def index (key : String) : Json → Except Error Json
  | .null => .ok .null
  | .obj members => .ok ((find? key members).getD .null)
  | _ => .error .noMembers

/-- `at`: a missing member throws as well. -/
def atKey (key : String) : Json → Except Error Json
  | .obj members => (find? key members).elim (.error .noKey) .ok
  | _ => .error .noMembers

/-- `get<std::string>`. -/
def getString : Json → Except Error String
  | .str s => .ok s
  | _ => .error .wrongType

/-- `static_cast<int>`. -/
def toInt32 (i : Int) : Int := Int.bmod i (2 ^ 32)

theorem toInt32_of_lt {n : Nat} (h : n < 2 ^ 31) : toInt32 n = n := by
  unfold toInt32
  apply Int.bmod_eq_of_le <;> omega

/-- `get<int>`: every number, and a truth value, is converted. -/
def getInt : Json → Except Error Int
  | .uint n => .ok (toInt32 n)
  | .int i => .ok (toInt32 i)
  | .float _ whole => .ok (toInt32 whole)
  | .bool b => .ok (if b then 1 else 0)
  | _ => .error .wrongType

/-- `j[key].get<int>()`. -/
def intAt (key : String) (j : Json) : Except Error Int := do (← j.index key).getInt

/-- `j[key].get<std::string>()`. -/
def textAt (key : String) (j : Json) : Except Error String := do (← j.index key).getString

/-- What `get<int>` takes. -/
def isNumeric : Json → Bool
  | .uint _ => true
  | .int _ => true
  | .float _ _ => true
  | .bool _ => true
  | _ => false

/-- The member of a value that may be no object. -/
def field (key : String) : Json → Option Json
  | .obj members => find? key members
  | _ => none

variable {j : Json} {members : List (String × Json)} {key : String}

theorem getInt_isOk : (∃ i, j.getInt = .ok i) ↔ j.isNumeric := by
  cases j <;> simp [getInt, isNumeric]

theorem getString_isOk {s : String} : j.getString = .ok s ↔ j = .str s := by
  cases j <;> simp [getString]

/-- `get<int>` goes through exactly where the member is there and is a number
or a truth value. -/
theorem intAt_isOk : (∃ i, j.intAt key = .ok i) ↔ ∃ v, j.field key = some v ∧ v.isNumeric := by
  cases j with
  | obj members =>
    show (∃ i, ((find? key members).getD .null).getInt = .ok i) ↔ _
    rw [getInt_isOk]
    rcases e : find? key members with - | v
    · simp [field, e, isNumeric]
    · simp [field, e]
  | _ => simp [intAt, index, field, getInt, bind, Except.bind]

/-- `get<std::string>` goes through exactly where the member is a text. -/
theorem textAt_eq_ok {s : String} : j.textAt key = .ok s ↔ j.field key = some (.str s) := by
  cases j with
  | obj members =>
    show ((find? key members).getD .null).getString = .ok s ↔ _
    rw [getString_isOk]
    rcases e : find? key members with - | v
    · simp [field, e]
    · simp [field, e]
  | _ => simp [textAt, index, field, getString, bind, Except.bind]

/-- `operator[]` throws on everything but objects and null. -/
theorem index_isOk (key : String) : (∃ v, j.index key = .ok v) ↔ j = .null ∨ j.isObject := by
  cases j <;> simp [index, isObject]

/-! ### Building objects

A `json` variable that is only assigned to by key is the list of its members. -/

/-- `j[key] = value`. -/
def insert (key : String) (value : Json) : List (String × Json) → List (String × Json)
  | [] => [(key, value)]
  | m :: members =>
    if key < m.1 then (key, value) :: m :: members
    else if key = m.1 then (key, value) :: members
    else m :: insert key value members

/-- `j.update(other)`: the members of `other` win. -/
def update (members other : List (String × Json)) : List (String × Json) :=
  other.foldl (fun ms m => insert m.1 m.2 ms) members

/-- `j[key].push_back(value)`, where the key is absent or holds an array. -/
def pushBack (key : String) (value : Json) (members : List (String × Json)) :
    List (String × Json) :=
  match find? key members with
  | some (.arr items) => insert key (.arr (items ++ [value])) members
  | _ => insert key (.arr [value]) members

/-- The object with these members, assigned from left to right. -/
def ofMembers (members : List (String × Json)) : Json := .obj (update [] members)

/-- A member goes behind those with smaller keys. -/
theorem insert_append {value : Json} (h : ∀ k ∈ members.map (·.1), k < key)
    (rest : List (String × Json)) :
    insert key value (members ++ rest) = members ++ insert key value rest := by
  induction members with
  | nil => rfl
  | cons m members ih =>
    have hm : m.1 < key := h m.1 List.mem_cons_self
    rw [List.cons_append, insert, if_neg hm.not_gt, if_neg hm.ne',
      ih fun k hk => h k (List.mem_cons_of_mem _ hk)]
    rfl

/-- The keys of an object stand in their order, each once. -/
def KeysSorted (members : List (String × Json)) : Prop := members.Pairwise fun m n => m.1 < n.1

theorem filter_key_of_lt (h : ∀ m ∈ members, key < m.1) :
    members.filter (fun m => decide (m.1 ≠ key)) = members := by
  rw [List.filter_eq_self]
  intro m hm
  exact decide_eq_true (h m hm).ne'

/-- An assignment puts the member in its place and takes away the old one. -/
theorem keysSorted_insert (key : String) (value : Json) (h : KeysSorted members) :
    KeysSorted (insert key value members) ∧
      (insert key value members).Perm
        ((key, value) :: members.filter fun m => decide (m.1 ≠ key)) := by
  induction members with
  | nil => exact ⟨List.pairwise_singleton _ _, .refl _⟩
  | cons m members ih =>
    obtain ⟨hm, hrest⟩ := List.pairwise_cons.mp h
    obtain ⟨ihs, ihp⟩ := ih hrest
    unfold insert
    split
    · rename_i hlt
      have hall : ∀ n ∈ m :: members, key < n.1 := by
        intro n hn
        rcases List.mem_cons.mp hn with rfl | hn
        · exact hlt
        · exact hlt.trans (hm n hn)
      rw [filter_key_of_lt hall]
      exact ⟨List.pairwise_cons.mpr ⟨hall, h⟩, .refl _⟩
    · rename_i hge
      split
      · rename_i heq
        subst heq
        rw [List.filter_cons_of_neg (by simp), filter_key_of_lt hm]
        exact ⟨List.pairwise_cons.mpr ⟨hm, hrest⟩, .refl _⟩
      · rename_i hne
        have hlt : m.1 < key := lt_of_le_of_ne (not_lt.mp hge) (Ne.symm hne)
        rw [List.filter_cons_of_pos (by simpa using Ne.symm hne)]
        refine ⟨List.pairwise_cons.mpr ⟨fun n hn => ?_, ihs⟩,
          (ihp.cons m).trans (List.Perm.swap _ _ _)⟩
        rcases List.mem_cons.mp (ihp.subset hn) with rfl | hn
        · exact hlt
        · exact hm n (List.mem_of_mem_filter hn)

/-- After `update` the object has its old members under other keys, and the new
ones. -/
theorem keysSorted_update {other : List (String × Json)} (h : KeysSorted members)
    (hother : (other.map (·.1)).Nodup) : KeysSorted (update members other) ∧
      (update members other).Perm
        (members.filter (fun m => decide (m.1 ∉ other.map (·.1))) ++ other) := by
  induction other generalizing members with
  | nil => exact ⟨h, by simp [update]⟩
  | cons m other ih =>
    obtain ⟨hm, hrest⟩ := List.nodup_cons.mp hother
    obtain ⟨hs, hp⟩ := keysSorted_insert m.1 m.2 h
    obtain ⟨ihs, ihp⟩ := ih hs hrest
    refine ⟨ihs, ihp.trans ?_⟩
    have hfilter : ((m.1, m.2) :: members.filter fun n => decide (n.1 ≠ m.1)).filter
        (fun n => decide (n.1 ∉ other.map (·.1))) =
        m :: members.filter fun n => decide (n.1 ∉ (m :: other).map (·.1)) := by
      rw [List.filter_cons_of_pos (by simpa using hm), List.filter_filter]
      simp only [List.map_cons, List.mem_cons, not_or, Bool.decide_and, Bool.and_comm]
    exact ((hfilter ▸ hp.filter _).append_right other).trans List.perm_middle.symm

theorem update_nil_perm (h : (members.map (·.1)).Nodup) :
    KeysSorted (update [] members) ∧ (update [] members).Perm members := by
  simpa using keysSorted_update List.Pairwise.nil h

/-- Two rounds of assignments to a new variable. -/
theorem update_update_perm {other : List (String × Json)} (h : (members.map (·.1)).Nodup)
    (hother : (other.map (·.1)).Nodup) :
    (update (update [] members) other).Perm
      (members.filter (fun m => decide (m.1 ∉ other.map (·.1))) ++ other) := by
  obtain ⟨hs, hp⟩ := update_nil_perm h
  exact (keysSorted_update hs hother).2.trans ((hp.filter _).append_right other)

/-! ### Writing -/

/-- A hexadecimal digit, in lower case. -/
def hexDigit (n : Nat) : Char := if n < 10 then Char.ofNat (48 + n) else Char.ofNat (87 + n)

/-- What `dump` writes for one character of a text. -/
def escapeChar (c : Char) : List Char :=
  if c = '"' then ['\\', '"']
  else if c = '\\' then ['\\', '\\']
  else if 0x20 ≤ c.toNat then [c]
  else if c.toNat = 0x08 then ['\\', 'b']
  else if c.toNat = 0x09 then ['\\', 't']
  else if c.toNat = 0x0A then ['\\', 'n']
  else if c.toNat = 0x0C then ['\\', 'f']
  else if c.toNat = 0x0D then ['\\', 'r']
  else ['\\', 'u', '0', '0', hexDigit (c.toNat / 16), hexDigit (c.toNat % 16)]

/-- A text between quotation marks. -/
def quote (s : String) : String :=
  "\"" ++ String.ofList (s.toList.flatMap escapeChar) ++ "\""

/-- The start of a new line in the pretty form. -/
def newline (pretty : Bool) (indent : Nat) : String :=
  if pretty then "\n" ++ String.ofList (List.replicate indent ' ') else ""

/-- What stands between a key and its value. -/
def colon (pretty : Bool) : String := if pretty then ": " else ":"

mutual

/-- `dump` of a value that starts at this indentation. -/
def dumpAt (pretty : Bool) (indent : Nat) : Json → String
  | .null => "null"
  | .bool b => if b then "true" else "false"
  | .int i => toString i
  | .uint n => toString n
  | .float text _ => text
  | .str s => quote s
  | .arr [] => "[]"
  | .arr (x :: xs) =>
    "[" ++ newline pretty (indent + 4) ++ dumpAt pretty (indent + 4) x ++
      dumpItems pretty (indent + 4) xs ++ newline pretty indent ++ "]"
  | .obj [] => "\x7b\x7d"
  | .obj (m :: ms) =>
    "\x7b" ++ newline pretty (indent + 4) ++ dumpMember pretty (indent + 4) m ++
      dumpMembers pretty (indent + 4) ms ++ newline pretty indent ++ "\x7d"
  | .discarded => "<discarded>"

/-- The items behind the first one. -/
def dumpItems (pretty : Bool) (indent : Nat) : List Json → String
  | [] => ""
  | x :: xs =>
    "," ++ newline pretty indent ++ dumpAt pretty indent x ++ dumpItems pretty indent xs

/-- The members behind the first one. -/
def dumpMembers (pretty : Bool) (indent : Nat) : List (String × Json) → String
  | [] => ""
  | m :: ms =>
    "," ++ newline pretty indent ++ dumpMember pretty indent m ++ dumpMembers pretty indent ms

def dumpMember (pretty : Bool) (indent : Nat) : String × Json → String
  | (key, value) => quote key ++ colon pretty ++ dumpAt pretty indent value

end

attribute [grind =] dumpAt

/-- `dump()`. -/
def dump (j : Json) : String := dumpAt false 0 j

/-- `dump(4)`. -/
def dumpPretty (j : Json) : String := dumpAt true 0 j

end Json
