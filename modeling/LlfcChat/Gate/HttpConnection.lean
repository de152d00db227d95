/-
The query string of a GET request: `UrlEncode`, `UrlDecode` and `PreParseGetParam`.

`UrlDecode` trusts its input: behind a '%' it asserts that two more characters are there,
and `FromHex` asserts that each is a letter or a digit; a build without assertions goes on
with the unset `y` of `FromHex`.  `none` stands for both.
-/
import Mathlib

namespace LlfcChat.Http

abbrev Bytes := List UInt8

/-! ### The code -/

/-- `isalnum` in the C locale. -/
def isalnum (c : UInt8) : Bool := (65 ≤ c && c ≤ 90) || (97 ≤ c && c ≤ 122) || (48 ≤ c && c ≤ 57)

/-- `ToHex` -/
def toHex (x : UInt8) : UInt8 := if x > 9 then x + 55 else x + 48

/-- `FromHex`: letters behind 'F' have a value, too. -/
def fromHex (x : UInt8) : Option UInt8 :=
  if 65 ≤ x && x ≤ 90 then some (x - 65 + 10)
  else if 97 ≤ x && x ≤ 122 then some (x - 97 + 10)
  else if 48 ≤ x && x ≤ 57 then some (x - 48)
  else none

/-- One round of `UrlEncode`. -/
def encodeByte (c : UInt8) : Bytes :=
  if isalnum c || c == 0x2D || c == 0x5F || c == 0x2E || c == 0x7E then [c]
  else if c = 0x20 then [0x2B]
  else [0x25, toHex (c >>> 4), toHex (c &&& 0x0F)]

/-- `UrlEncode` -/
def urlEncode (str : Bytes) : Bytes := str.flatMap encodeByte

/-- `UrlDecode`, at the characters from `str[i]` on. -/
def urlDecode : Bytes → Option Bytes
  | [] => some []
  | c :: rest =>
    if c = 0x2B then (urlDecode rest).map (0x20 :: ·)
    else if c = 0x25 then
      match rest with
      | high :: low :: rest => do
        let high ← fromHex high
        let low ← fromHex low
        (urlDecode rest).map ((high * 16 + low) :: ·)
      | _ => none
    else (urlDecode rest).map (c :: ·)

/-- `_get_params` -/
abbrev Params := Bytes → Option Bytes

/-- `_get_params[key] = value` -/
def Params.assign (params : Params) (p : Bytes × Bytes) : Params :=
  fun k => if k = p.1 then some p.2 else params k

/-- `find` with the two `substr` around it: the text before and behind the first `c`. -/
def cutAt (c : UInt8) : Bytes → Option (Bytes × Bytes)
  | [] => none
  | x :: s => if x = c then some ([], s) else (cutAt c s).map fun p => (x :: p.1, p.2)

/-- What is done for each pair. -/
def parsePair (params : Params) (pair : Bytes) : Option Params :=
  match cutAt 0x3D pair with
  | none => some params
  | some (key, value) => do
    let key ← urlDecode key
    let value ← urlDecode value
    return params.assign (key, value)

/-- What `PreParseGetParam` writes. -/
structure HttpConnection where
  getUrl : Bytes := []
  getParams : Params := fun _ => none

/-- `PreParseGetParam` on the target of the request.  The loop cuts the query string at
each '&'; the part behind the last one is skipped if it is empty, as any part without '='. -/
def preParseGetParam (conn : HttpConnection) (uri : Bytes) : Option HttpConnection :=
  match cutAt 0x3F uri with
  | none => some { conn with getUrl := uri }
  | some (url, query) => do
    let params ← (query.splitOn 0x26).foldlM parsePair conn.getParams
    return ⟨url, params⟩

/-! ### What is decoded -/

section Cut

variable {c : UInt8} {s a b : Bytes}

theorem cutAt_append (h : c ∉ a) : cutAt c (a ++ c :: b) = some (a, b) := by
  induction a with
  | nil => simp [cutAt]
  | cons x a ih =>
    obtain ⟨hx, ha⟩ := not_or.mp (mt List.mem_cons.mpr h)
    simp [cutAt, Ne.symm hx, ih ha]

theorem cutAt_some (h : cutAt c s = some (a, b)) : s = a ++ c :: b ∧ c ∉ a := by
  induction s generalizing a with
  | nil => cases h
  | cons x s ih =>
    unfold cutAt at h
    split_ifs at h with hx
    · cases h
      simp [hx]
    · obtain ⟨p, hp, heq⟩ := Option.map_eq_some_iff.mp h
      cases heq
      obtain ⟨rfl, hc⟩ := ih hp
      simp [hc, Ne.symm hx]

/-- There is one way to cut at the first `c`, at most. -/
theorem forall_cut {P : Bytes → Bytes → Prop} :
    (∀ a b, s = a ++ c :: b → c ∉ a → P a b) ↔ ∀ p, cutAt c s = some p → P p.1 p.2 :=
  ⟨fun h _ hp => h _ _ (cutAt_some hp).1 (cutAt_some hp).2,
    fun h a b heq hc => h (a, b) (heq ▸ cutAt_append hc)⟩

/-- Every '%' is followed by two letters or digits. -/
def WellEscaped (s : Bytes) : Prop :=
  ∀ before after, s = before ++ 0x25 :: after →
    ∃ high low rest, after = high :: low :: rest ∧ isalnum high ∧ isalnum low

theorem fromHex_isSome : (fromHex c).isSome = isalnum c := by
  unfold fromHex isalnum
  split_ifs <;> simp_all

theorem wellEscaped_cons (hc : c ≠ 0x25) : WellEscaped (c :: s) ↔ WellEscaped s := by
  constructor
  · rintro h before after rfl
    exact h (c :: before) after rfl
  · intro h before after heq
    cases before with
    | nil => exact absurd (List.cons.inj heq).1 hc
    | cons d before => exact h before after (List.cons.inj heq).2

theorem wellEscaped_percent {high low : UInt8} :
    WellEscaped (0x25 :: high :: low :: s) ↔ isalnum high ∧ isalnum low ∧ WellEscaped s := by
  have htail (hh : isalnum high) (hl : isalnum low) :
      WellEscaped (high :: low :: s) ↔ WellEscaped s := by
    rw [wellEscaped_cons (by rintro rfl; cases hh), wellEscaped_cons (by rintro rfl; cases hl)]
  constructor
  · intro h
    obtain ⟨_, _, _, heq, hh, hl⟩ := h [] _ rfl
    cases heq
    exact ⟨hh, hl, (htail hh hl).mp fun before after heq => h (0x25 :: before) after (heq ▸ rfl)⟩
  · rintro ⟨hh, hl, h⟩ before after heq
    cases before with
    | nil => exact ⟨high, low, s, (List.cons.inj heq).2.symm, hh, hl⟩
    | cons d before => exact (htail hh hl).mpr h before after (List.cons.inj heq).2

/-- `UrlDecode` comes to its end exactly on a text that is well escaped. -/
theorem urlDecode_isSome (s : Bytes) : (urlDecode s).isSome ↔ WellEscaped s := by
  fun_induction urlDecode s with
  | case1 => exact iff_of_true rfl fun before after h => by simp at h
  | case2 rest ih => rw [Option.isSome_map, ih, wellEscaped_cons (by decide)]
  | case3 high low rest _ ih =>
    rw [wellEscaped_percent, ← ih, ← fromHex_isSome, ← fromHex_isSome]
    cases fromHex high <;> cases fromHex low <;> simp
  | case4 rest hshort =>
    refine iff_of_false Bool.false_ne_true fun h => ?_
    obtain ⟨high, low, tail, rfl, -⟩ := h [] rest rfl
    exact hshort high low tail rfl
  | case5 c rest _ hc ih => rw [Option.isSome_map, ih, wellEscaped_cons hc]

end Cut

/-- Key and value of the pair, if there is an '=', are well escaped. -/
def Decodable (pair : Bytes) : Prop :=
  ∀ key value, pair = key ++ 0x3D :: value → 0x3D ∉ key → WellEscaped key ∧ WellEscaped value

theorem parsePair_isSome (params : Params) (pair : Bytes) :
    (parsePair params pair).isSome ↔ Decodable pair := by
  rw [Decodable, forall_cut, parsePair]
  cases cutAt 0x3D pair with
  | none => simp
  | some p =>
    simp only [Option.some.injEq, forall_eq', ← urlDecode_isSome]
    cases urlDecode p.1 <;> cases urlDecode p.2 <;> simp

theorem foldlM_isSome (params : Params) (pairs : List Bytes) :
    (pairs.foldlM parsePair params).isSome ↔ ∀ pair ∈ pairs, Decodable pair := by
  induction pairs generalizing params with
  | nil => simp
  | cons pair pairs ih =>
    rw [List.foldlM_cons, List.forall_mem_cons, ← parsePair_isSome params]
    cases parsePair params pair <;> simp [ih]

/-- **A target is parsed without a failure exactly if every '%' of a key or value is
followed there by two letters or digits.** -/
theorem preParseGetParam_isSome_iff (conn : HttpConnection) (uri : Bytes) :
    (preParseGetParam conn uri).isSome ↔ ∀ url query, uri = url ++ 0x3F :: query → 0x3F ∉ url →
      ∀ pair ∈ query.splitOn 0x26, Decodable pair := by
  rw [forall_cut, preParseGetParam]
  cases cutAt 0x3F uri with
  | none => simp
  | some p =>
    simp only [Option.some.injEq, forall_eq', ← foldlM_isSome conn.getParams]
    cases (p.2.splitOn 0x26).foldlM parsePair conn.getParams <;> simp

/-- The target "/a?x=%" fails. -/
theorem preParseGetParam_percent : preParseGetParam {} [47, 97, 63, 120, 61, 37] = none := by decide

/-! ### What is encoded -/

theorem forall_byte {p : UInt8 → Prop} (h : ∀ n : Fin 256, p (UInt8.ofFin n)) (c : UInt8) : p c :=
  h c.toFin

set_option maxRecDepth 8000

/-- What stands for one byte is decoded to it, whatever is behind it. -/
theorem urlDecode_encodeByte (c : UInt8) (rest : Bytes) :
    urlDecode (encodeByte c ++ rest) = (urlDecode rest).map (c :: ·) := by
  unfold encodeByte
  conv_lhs => unfold urlDecode
  split_ifs with hkept hspace
  · have hne : c ≠ 0x2B ∧ c ≠ 0x25 := by constructor <;> rintro rfl <;> cases hkept
    simp [hne]
  · simp [hspace]
  · have hhex : ∀ c : UInt8, fromHex (toHex (c >>> 4)) = some (c >>> 4) ∧
        fromHex (toHex (c &&& 0x0F)) = some (c &&& 0x0F) ∧ (c >>> 4) * 16 + (c &&& 0x0F) = c :=
      forall_byte (by decide)
    simp [hhex]

theorem urlDecode_urlEncode (s : Bytes) : urlDecode (urlEncode s) = some s := by
  induction s with
  | nil => rfl
  | cons c s ih =>
    rw [urlEncode, List.flatMap_cons, urlDecode_encodeByte, ← urlEncode, ih]
    rfl

theorem separator_notMem_urlEncode (s : Bytes) : 0x26 ∉ urlEncode s ∧ 0x3D ∉ urlEncode s := by
  have hbyte : ∀ c, 0x26 ∉ encodeByte c ∧ 0x3D ∉ encodeByte c := forall_byte (by decide)
  simp [urlEncode, hbyte]

/-- A pair as it stands in a query string. -/
def encodePair (p : Bytes × Bytes) : Bytes := urlEncode p.1 ++ 0x3D :: urlEncode p.2

theorem parsePair_encodePair (params : Params) (p : Bytes × Bytes) :
    parsePair params (encodePair p) = some (params.assign p) := by
  rw [parsePair, encodePair, cutAt_append (separator_notMem_urlEncode p.1).2]
  simp [urlDecode_urlEncode]

/-- **What is encoded is parsed back**: the path, and the pairs assigned from left to right. -/
theorem preParseGetParam_queryString (path : Bytes) (hpath : 0x3F ∉ path)
    (pairs : List (Bytes × Bytes)) :
    preParseGetParam {} (path ++ 0x3F :: [0x26].intercalate (pairs.map encodePair)) =
      some ⟨path, pairs.foldl Params.assign fun _ => none⟩ := by
  have hfold : ∀ params, (pairs.map encodePair).foldlM parsePair params =
      some (pairs.foldl Params.assign params) := by
    induction pairs with
    | nil => exact fun _ => rfl
    | cons p pairs ih =>
      intro params
      rw [List.map_cons, List.foldlM_cons, parsePair_encodePair]
      exact ih _
  have hsplit : ([0x26].intercalate (pairs.map encodePair)).splitOn 0x26 = pairs.map encodePair ∨
      pairs = [] := by
    refine or_iff_not_imp_right.mpr fun hne => List.splitOn_intercalate _ ?_ (by simpa using hne)
    intro pair hpair
    obtain ⟨q, -, rfl⟩ := List.mem_map.mp hpair
    simp [encodePair, separator_notMem_urlEncode]
  rw [preParseGetParam, cutAt_append hpath]
  obtain hsplit | rfl := hsplit
  · simp [hsplit, hfold]
  · rfl

/-- "/a?%2B=+" -/
theorem preParseGetParam_plus :
    (0x3F : UInt8) ∉ [47, 97] ∧ preParseGetParam {} [47, 97, 63, 37, 50, 66, 61, 43] =
      some ⟨[47, 97], Params.assign (fun _ => none) ([43], [32])⟩ :=
  ⟨by decide, preParseGetParam_queryString [47, 97] (by decide) [([43], [32])]⟩

end LlfcChat.Http
