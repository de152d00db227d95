/-
The time of a message, from the server's clock to the client's list.

The server writes the reading of its wall clock as a text, without its offset
from UTC; the text goes through a DATETIME(3) column, which adds the
milliseconds, or straight into a reply.  Both parsers of the client read the text
as a time of the client's own zone and then take the reading for one of UTC.  So
the epoch time they find is off by the offset of the server's host; and a reading
that the client's zone skips, when its clocks are put forward, is not valid.

A client's zone is the set of the readings, in seconds of a calendar without
offset, that its clocks show.
-/
import LlfcChat.Client.LocalChatDb
import LlfcChat.Lib.Calendar

namespace LlfcChat.Timestamps

open Calendar

/-! ### Digits -/

def digit (n : Nat) : Char := Char.ofNat (48 + n)

/-- A number with leading zeros. -/
def pad : Nat → Nat → List Char
  | 0, _ => []
  | w + 1, n => digit (n / 10 ^ w) :: pad w (n % 10 ^ w)

/-- So many digits, after what was read before them. -/
def readDigits : Nat → Nat → List Char → Option (Nat × List Char)
  | 0, acc, s => some (acc, s)
  | _ + 1, _, [] => none
  | w + 1, acc, c :: s =>
    if c.isDigit then readDigits w (10 * acc + (c.toNat - 48)) s else none

theorem digit_spec {n : Nat} (h : n < 10) :
    (digit n).isDigit = true ∧ (digit n).toNat - 48 = n := by
  have hall : ∀ n < 10, (digit n).isDigit = true ∧ (digit n).toNat - 48 = n := by decide
  exact hall n h

theorem readDigits_pad (w n acc : Nat) (h : n < 10 ^ w) (rest : List Char) :
    readDigits w acc (pad w n ++ rest) = some (acc * 10 ^ w + n, rest) := by
  induction w generalizing n acc with
  | zero =>
    have hzero : n = 0 := by simpa using h
    simp [readDigits, pad, hzero]
  | succ w ih =>
    have hdigit : n / 10 ^ w < 10 := by
      rw [Nat.div_lt_iff_lt_mul (Nat.pow_pos (by decide))]
      rwa [Nat.pow_succ, Nat.mul_comm] at h
    obtain ⟨his, hval⟩ := digit_spec hdigit
    show readDigits (w + 1) acc (digit (n / 10 ^ w) :: (pad w (n % 10 ^ w) ++ rest)) = _
    rw [readDigits, if_pos his, hval, ih _ _ (Nat.mod_lt _ (Nat.pow_pos (by decide)))]
    have hsplit := Nat.div_add_mod n (10 ^ w)
    congr 2
    rw [Nat.pow_succ]
    calc (10 * acc + n / 10 ^ w) * 10 ^ w + n % 10 ^ w
        = acc * (10 ^ w * 10) + (10 ^ w * (n / 10 ^ w) + n % 10 ^ w) := by ring
      _ = acc * (10 ^ w * 10) + n := by rw [hsplit]

/-! ### The server -/

/-- `"%Y-%m-%d %H:%M:%S"` -/
def timeFacet (d : Date) (second : Int) : List Char :=
  pad 4 d.year.toNat ++ '-' :: (pad 2 d.month.toNat ++ '-' :: (pad 2 d.day.toNat ++
    ' ' :: (pad 2 (second / 3600).toNat ++ ':' :: (pad 2 (second / 60 % 60).toNat ++
      ':' :: pad 2 (second % 60).toNat))))

/-- `getCurrentTimestamp` at `t` milliseconds since the epoch, on a host so many seconds ahead of
UTC; years outside of the library's range throw. -/
def getCurrentTimestamp (utcOffset t : Int) : Option (List Char) :=
  let now := t / 1000 + utcOffset
  let d := Date.ofDays (now / 86400)
  if 1400 ≤ d.year ∧ d.year ≤ 9999 then some (timeFacet d (now % 86400)) else none

/-- What a `DATETIME(3)` column makes of the text. -/
def datetime3 (text : List Char) : List Char := text ++ ['.', '0', '0', '0']

/-! ### The client -/

def literal (c : Char) : List Char → Option (List Char)
  | [] => none
  | x :: s => if x = c then some s else none

/-- A date and a time up to the seconds: the reading, and the rest of the text. -/
def readStamp (sep : Char → Bool) (s : List Char) : Option (Int × List Char) := do
  let (year, s) ← readDigits 4 0 s
  let s ← literal '-' s
  let (month, s) ← readDigits 2 0 s
  let s ← literal '-' s
  let (day, s) ← readDigits 2 0 s
  let s ← if s.head?.any sep then some s.tail else none
  let (hour, s) ← readDigits 2 0 s
  let s ← literal ':' s
  let (minute, s) ← readDigits 2 0 s
  let s ← literal ':' s
  let (second, s) ← readDigits 2 0 s
  let d : Date := ⟨year, month, day⟩
  if d.Valid ∧ hour < 24 ∧ minute < 60 ∧ second < 60 then
    some (d.toDays * 86400 + hour * 3600 + minute * 60 + second, s)
  else none

/-- A reading that the zone has, in milliseconds. -/
def inZone (zone : Int → Bool) (reading : Int) (ms : Nat) : Option Int :=
  if zone reading then some (reading * 1000 + ms) else none

/-- `QDateTime::fromString(text, "yyyy-MM-dd HH:mm:ss.zzz")` -/
def fromFormat (zone : Int → Bool) (text : List Char) : Option Int := do
  let (reading, s) ← readStamp (· = ' ') text
  let s ← literal '.' s
  let (ms, s) ← readDigits 3 0 s
  if s = [] then inZone zone reading ms else none

/-- `QDateTime::fromString(text, Qt::ISODate)`, for a text without an offset. -/
def fromISODate (zone : Int → Bool) (text : List Char) : Option Int := do
  let (reading, s) ← readStamp (fun c => c = 'T' || c = ' ') text
  if s = [] then inZone zone reading 0
  else
    let s ← literal '.' s
    let (ms, s) ← readDigits 3 0 s
    if s = [] then inZone zone reading ms else none

/-- The epoch time of a text, taken for one of UTC. -/
def parseTime (zone : Int → Bool) (text : List Char) : Option Int :=
  (fromFormat zone text).or (fromISODate zone text)

/-- `ServerTimeToEpoch` -/
def serverTimeToEpoch (zone : Int → Bool) (text : List Char) : Int := (parseTime zone text).getD 0

/-- The time `slot_text_msg_rsp` confirms a text with. -/
def confirmedAt (zone : Int → Bool) (now : Int) (text : List Char) : Int :=
  (parseTime zone text).getD now

/-! ### What the client reads -/

theorem literal_cons (c : Char) (s : List Char) : literal c (c :: s) = some s := if_pos rfl

theorem readStamp_timeFacet {sep : Char → Bool} (hsep : sep ' ' = true) {z second : Int}
    (hyear : 0 ≤ (Date.ofDays z).year ∧ (Date.ofDays z).year ≤ 9999) (h₀ : 0 ≤ second)
    (h₁ : second < 86400) (rest : List Char) :
    readStamp sep (timeFacet (Date.ofDays z) second ++ rest) = some (z * 86400 + second, rest) := by
  obtain ⟨hmonth, hday⟩ := ofDays_bounds z
  have hvalid := ofDays_valid z
  have hdays := toDays_ofDays z
  generalize Date.ofDays z = d at *
  obtain ⟨year, month, day⟩ := d
  simp only at *
  have hy : year.toNat < 10 ^ 4 := by omega
  have hm : month.toNat < 10 ^ 2 := by omega
  have hd : day.toNat < 10 ^ 2 := by omega
  have hh : (second / 3600).toNat < 10 ^ 2 := by omega
  have hmin : (second / 60 % 60).toNat < 10 ^ 2 := by omega
  have hs : (second % 60).toNat < 10 ^ 2 := by omega
  have hdate : (⟨(year.toNat : Int), (month.toNat : Int), (day.toNat : Int)⟩ : Date) =
      ⟨year, month, day⟩ := by
    rw [Int.toNat_of_nonneg hyear.1, Int.toNat_of_nonneg (by omega), Int.toNat_of_nonneg (by omega)]
  simp only [readStamp, timeFacet, List.append_assoc, List.cons_append, readDigits_pad _ _ _ hy,
    readDigits_pad _ _ _ hm, readDigits_pad _ _ _ hd, readDigits_pad _ _ _ hh,
    readDigits_pad _ _ _ hmin, readDigits_pad _ _ _ hs, literal_cons, Option.bind_eq_bind,
    Option.bind_some, List.head?_cons, Option.any_some, hsep, if_true, List.tail_cons,
    Nat.zero_mul, Nat.zero_add, hdate]
  rw [if_pos ⟨hvalid, by omega, by omega, by omega⟩, hdays]
  congr 2
  omega

theorem getCurrentTimestamp_some {utcOffset t : Int} {text : List Char}
    (h : getCurrentTimestamp utcOffset t = some text) {sep : Char → Bool} (hsep : sep ' ' = true)
    (rest : List Char) : readStamp sep (text ++ rest) = some (t / 1000 + utcOffset, rest) := by
  unfold getCurrentTimestamp at h
  simp only at h
  split at h
  · rename_i hyear
    cases h
    have hnow := Int.mul_ediv_add_emod (t / 1000 + utcOffset) 86400
    rw [readStamp_timeFacet hsep ⟨by omega, hyear.2⟩ (by omega) (by omega)]
    congr 2
    omega
  · cases h

/-- A text of the server's clock, with or without milliseconds, is read as it was written. -/
theorem parseTime_eq {utcOffset t : Int} {text text' : List Char}
    (h : getCurrentTimestamp utcOffset t = some text) (zone : Int → Bool)
    (hstored : text' = text ∨ text' = datetime3 text) :
    parseTime zone text' = inZone zone (t / 1000 + utcOffset) 0 := by
  have hmillis : readDigits 3 0 ['0', '0', '0'] = some (0, []) := by decide
  rcases hstored with rfl | rfl
  · -- the text that is not stored yet has no milliseconds, and only the second parser takes it
    have hformat : fromFormat zone text' = none := by
      have hread : readStamp (· = ' ') (text' ++ []) = some (t / 1000 + utcOffset, []) :=
        getCurrentTimestamp_some h rfl []
      rw [List.append_nil] at hread
      simp only [fromFormat, hread, Option.bind_eq_bind, Option.bind_some, literal,
        Option.bind_none]
    have hread : readStamp (fun c => c = 'T' || c = ' ') (text' ++ []) =
        some (t / 1000 + utcOffset, []) := getCurrentTimestamp_some h rfl []
    rw [List.append_nil] at hread
    rw [parseTime, hformat, Option.none_or]
    simp only [fromISODate, hread, Option.bind_eq_bind, Option.bind_some, if_true]
  · have hformat : fromFormat zone (datetime3 text) = inZone zone (t / 1000 + utcOffset) 0 := by
      have hread : readStamp (· = ' ') (text ++ ['.', '0', '0', '0']) =
          some (t / 1000 + utcOffset, ['.', '0', '0', '0']) := getCurrentTimestamp_some h rfl _
      simp only [fromFormat, datetime3, hread, Option.bind_eq_bind, Option.bind_some, literal_cons,
        hmillis, if_true]
    have hiso : fromISODate zone (datetime3 text) = inZone zone (t / 1000 + utcOffset) 0 := by
      have hread : readStamp (fun c => c = 'T' || c = ' ') (text ++ ['.', '0', '0', '0']) =
          some (t / 1000 + utcOffset, ['.', '0', '0', '0']) := getCurrentTimestamp_some h rfl _
      simp only [fromISODate, datetime3, hread, Option.bind_eq_bind, Option.bind_some,
        literal_cons, hmillis, if_true, reduceCtorEq, if_false]
    rw [parseTime, hformat, hiso, Option.or_self]

/-- The time found is the right one if the host's clock shows UTC; where the client's zone has no
such reading, if the value taken in its place is right by chance. -/
theorem parseTime_getD_iff {utcOffset t : Int} {text text' : List Char}
    (h : getCurrentTimestamp utcOffset t = some text) (zone : Int → Bool) (dflt : Int)
    (hstored : text' = text ∨ text' = datetime3 text) :
    (parseTime zone text').getD dflt = t / 1000 * 1000 ↔
      if zone (t / 1000 + utcOffset) then utcOffset = 0 else dflt = t / 1000 * 1000 := by
  rw [parseTime_eq h zone hstored, inZone]
  split
  · show (t / 1000 + utcOffset) * 1000 + ((0 : Nat) : Int) = t / 1000 * 1000 ↔ utcOffset = 0
    omega
  · rfl

/-! ### The client's list -/

/-- `ORDER BY created_at DESC, local_message_id DESC` -/
def Newer (a b : MessageRow) : Prop :=
  b.createdAt < a.createdAt ∨ b.createdAt = a.createdAt ∧ b.localMessageId ≤ a.localMessageId

instance : DecidableRel Newer := fun _ _ => inferInstanceAs (Decidable (_ ∨ _ ∧ _))

/-- `loadRecentMessages`; the rows are prepended as they are read, and a negative limit is none. -/
def loadRecentMessages (threadId limit : Int) (db : LocalDb) : List MessageRow :=
  let rows := (db.messages.filter (·.threadId = threadId)).insertionSort Newer
  (if limit < 0 then rows else rows.take limit.toNat).reverse

theorem loadRecentMessages_sorted (threadId limit : Int) (db : LocalDb) :
    (loadRecentMessages threadId limit db).Pairwise fun a b => a.createdAt ≤ b.createdAt := by
  have : Std.Total Newer := ⟨fun a b => by unfold Newer; omega⟩
  have : IsTrans MessageRow Newer := ⟨fun a b c => by unfold Newer; omega⟩
  have hsorted := List.pairwise_insertionSort Newer (db.messages.filter (·.threadId = threadId))
  have hle : ∀ {a b}, Newer a b → b.createdAt ≤ a.createdAt := fun {a b} h => by
    unfold Newer at h
    omega
  unfold loadRecentMessages
  rw [List.pairwise_reverse]
  split
  · exact hsorted.imp hle
  · exact (hsorted.sublist (List.take_sublist _ _)).imp hle

/-- Rows of different times stand in their order. -/
theorem loadRecentMessages_after {threadId limit : Int} {db : LocalDb} {r r' : MessageRow}
    {before after : List MessageRow}
    (hlist : loadRecentMessages threadId limit db = before ++ r' :: after)
    (hlt : r.createdAt < r'.createdAt) : r ∉ after := by
  intro hmem
  have hsorted := loadRecentMessages_sorted threadId limit db
  rw [hlist] at hsorted
  have hle := (List.pairwise_cons.mp (List.pairwise_append.mp hsorted).2.1).1 r hmem
  omega

/-- A client finds the time of a message to the second if and only if the host's clock shows UTC,
provided that the client's own clocks have such a reading; and then a message written at least one
second later on the client is listed after it. -/
theorem timestamps_agree_iff (utcOffset t now : Int) (text text' : List Char) (zone : Int → Bool)
    (h : getCurrentTimestamp utcOffset t = some text)
    (hstored : text' = text ∨ text' = datetime3 text) :
    (serverTimeToEpoch zone text' = t / 1000 * 1000 ↔
      if zone (t / 1000 + utcOffset) then utcOffset = 0 else 0 = t / 1000 * 1000) ∧
    (confirmedAt zone now text' = t / 1000 * 1000 ↔
      if zone (t / 1000 + utcOffset) then utcOffset = 0 else now = t / 1000 * 1000) ∧
    (utcOffset = 0 → zone (t / 1000) = true →
      ∀ (threadId limit : Int) (db : LocalDb) (r r' : MessageRow) (before after : List MessageRow),
        r.createdAt = serverTimeToEpoch zone text' → t + 1000 ≤ r'.createdAt →
        loadRecentMessages threadId limit db = before ++ r' :: after → r ∉ after) := by
  refine ⟨parseTime_getD_iff h zone 0 hstored, parseTime_getD_iff h zone now hstored, ?_⟩
  intro hutc hzone threadId limit db r r' before after hr hr' hlist
  have hepoch : serverTimeToEpoch zone text' = t / 1000 * 1000 := by
    refine (parseTime_getD_iff h zone 0 hstored).mpr ?_
    rw [hutc, Int.add_zero, if_pos hzone]
  refine loadRecentMessages_after hlist ?_
  rw [hr, hepoch]
  omega

/-- A host on UTC. -/
theorem timestamps_agree_utc :
    serverTimeToEpoch (fun _ => true) "2023-11-14 22:13:20.000".toList = 1700000000000 := by
  have htext : getCurrentTimestamp 0 1700000000123 = some "2023-11-14 22:13:20".toList := by
    decide +kernel
  have hagree := (timestamps_agree_iff 0 1700000000123 0 _ "2023-11-14 22:13:20.000".toList
    (fun _ => true) htext (.inr (by decide +kernel))).1
  exact hagree.mpr rfl

/-- A text received from a host eight hours ahead of UTC, and one written a minute later here. -/
def twoRows : LocalDb :=
  { messages :=
      [{ localMessageId := 1
         messageId := some 7
         clientMessageId := none
         threadId := 1
         senderUserId := 2
         messageType := 0
         textContent := some "question"
         sendStatus := .sent
         createdAt := serverTimeToEpoch (fun _ => true) "2023-11-15 06:13:20.000".toList },
       { localMessageId := 2
         messageId := none
         clientMessageId := some "k"
         threadId := 1
         senderUserId := 3
         messageType := 0
         textContent := some "answer"
         sendStatus := .sending
         createdAt := 1700000060000 }] }

/-- The time found is eight hours late, and the answer is listed before the question. -/
theorem timestamps_disagree_ahead :
    getCurrentTimestamp 28800 1700000000000 = some "2023-11-15 06:13:20".toList ∧
      serverTimeToEpoch (fun _ => true) (datetime3 "2023-11-15 06:13:20".toList) =
        1700000000000 + 28800000 ∧
      confirmedAt (fun _ => true) 0 "2023-11-15 06:13:20".toList = 1700000000000 + 28800000 ∧
      (loadRecentMessages 1 20 twoRows).map (·.textContent) = [some "answer", some "question"] := by
  decide +kernel

end LlfcChat.Timestamps
