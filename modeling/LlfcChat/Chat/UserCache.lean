/-
The profiles that `ChatServer` and `ResourceServer` keep in Redis.

A profile is cached without expiry, under `ubaseinfo_` with the digits of a search or the
number of a login, and under `nameinfo_` with the text of a search by name.  An avatar that
was uploaded is written to the table and to one of these keys, the one with the number of the
user in its usual digits.  A key goes to Redis as a C string and ends at the first NUL, so that
a search whose text has one finds, or writes, the entry of another name.  The operations run one
after the other; a profile that was written is taken to be read back (`Reads`), and the
collation of the names is a parameter.
-/
import LlfcChat.Chat.LogicSystem

namespace LlfcChat.UserCache

open Effect Handler

/-- The `users` table and Redis. -/
structure Store where
  users : List UserInfo
  redis : String → Option (List UInt8) := fun _ => none

variable (parse : List UInt8 → Json) (same : String → String → Bool)

/-- `MysqlDao::GetUser` with a number. -/
def Store.user (s : Store) (uid : Int) : Option UserInfo := s.users.find? (·.userId = uid)

/-- `MysqlDao::GetUser` with a name. -/
def Store.userNamed (s : Store) (name : String) : Option UserInfo :=
  s.users.find? fun u => same name u.username

/-- What `%s` prints of the text. -/
def cString (s : String) : String := String.ofList (s.toList.takeWhile (· ≠ '\x00'))

/-- `RedisMgr::Get` -/
def Store.get (s : Store) (key : String) : Option (List UInt8) := s.redis (cString key)

/-- `RedisMgr::Set` -/
def Store.set (s : Store) (key : String) (value : List UInt8) : Store :=
  { s with redis := Function.update s.redis (cString key) (some value) }

def services : Services Store :=
  { idleServices Store parse with
    redisGet := fun key s => (s.get key, s)
    redisSet := fun key value s => s.set key value
    getUser := fun uid s => (s.user uid, s)
    getUserByName := fun name s => (s.userNamed same name, s) }

/-! ### Operations -/

/-- What asks for a profile: `SearchInfo` with its text, `LoginHandler` with its number. -/
inductive Question
  | search (text : String)
  | login (uid : Int32)

/-- The response of a search, or what `GetBaseInfo` hands to the login. -/
inductive Report
  | search (rtvalue : List (String × Json))
  | login (userinfo : Except CppException (Option UserInfo))

abbrev start (s : Store) : HandlerState Store := { world := s, userUid := 0 }

/-- The key of a number in its usual digits. -/
abbrev baseKey (uid : Int32) : String := "ubaseinfo_" ++ toString uid.toInt

def Question.ask (s : Store) : Question → Report × Store
  | .search text =>
    let st := ((if isPureDigit text then getUserByUid (services parse same) text
      else getUserByName (services parse same) text) (start s)).2
    (.search st.rtvalue, st.world)
  | .login uid =>
    let r := getBaseInfo (services parse same) (baseKey uid) uid.toInt (start s)
    (.login r.1, r.2.world)

/-- `UPDATE users SET avatar_key=? WHERE user_id=?` -/
def retouch (uid : Int) (filename : String) (u : UserInfo) : UserInfo :=
  if u.userId = uid then { u with avatarKey := filename } else u

/-- The handler of `ID_UPLOAD_HEAD_ICON_REQ` in `FileWorker`, behind its file: `written` if the
packet could be written. -/
def uploadHeadIcon (uid : Int32) (filename : String) (written last : Bool) (s : Store) : Store :=
  if written && last then
    let s := { s with users := s.users.map (retouch uid.toInt filename) }
    match s.user uid.toInt with
    | none => s
    | some u => s.set (baseKey uid) (cachedProfile { u with userId := uid.toInt })
  else s

inductive Event
  | ask (q : Question)
  | uploadHeadIcon (uid : Int32) (filename : String) (written last : Bool)

def step (s : Store) : Event → Store
  | .ask q => (q.ask parse same s).2
  | .uploadHeadIcon uid filename written last =>
    UserCache.uploadHeadIcon uid filename written last s

def run (s : Store) (es : List Event) : Store := es.foldl (step parse same) s

/-! ### What the table says -/

/-- The text has no NUL. -/
def Question.Plain : Question → Prop
  | .search text => '\x00' ∉ text.toList
  | .login _ => True

def Event.Plain : Event → Prop
  | .ask q => q.Plain
  | .uploadHeadIcon .. => True

/-- The key that is looked up. -/
def Question.key : Question → String
  | .search text => (if isPureDigit text then "ubaseinfo_" else "nameinfo_") ++ text
  | .login uid => baseKey uid

/-- The row that is asked for. -/
def Question.row (s : Store) : Question → Option UserInfo
  | .search text =>
    if isPureDigit text then (stoi text).toOption.bind s.user else s.userNamed same text
  | .login uid => s.user uid.toInt

/-- The fields of the row, and no others. -/
def Report.Shows : Report → Option UserInfo → Prop
  | .search rtvalue, some u =>
    rtvalue = Json.update [("error", ErrorCodes.success.json)] (profileMembers u)
  | .search rtvalue, none => ∃ error, rtvalue = [("error", error)]
  | .login userinfo, row => userinfo = .ok row

/-- A profile that was written can be read. -/
def Reads (s : Store) : Prop := ∀ u ∈ s.users, readProfile (parse (cachedProfile u)) = .ok u

/-- Whoever asks now, without a NUL, is told what the table says. -/
def Coherent (s : Store) : Prop :=
  ∀ q : Question, q.Plain → (q.ask parse same s).1.Shows (q.row same s)

/-- An avatar is not new, or no other key has the profile of its user. -/
def Event.Clean (s : Store) : Event → Prop
  | .ask _ => True
  | .uploadHeadIcon uid filename written last => (written && last) = true →
    ∀ q : Question, q.Plain → q.key ≠ baseKey uid → (s.get q.key).isSome = true →
      ∀ u, q.row same s = some u → u.userId = uid.toInt → u.avatarKey = filename

def Clean (s : Store) : List Event → Prop
  | [] => True
  | e :: es => e.Clean same s ∧ Clean (step parse same s e) es

variable {parse same} {s : Store} {q q' : Question} {u : UserInfo} {uid : Int}

/-! ### Keys -/

/-- The usual digits of a number are read as this number. -/
theorem stoi_toString (uid : Int32) (h : isPureDigit (toString uid.toInt) = true) :
    stoi (toString uid.toInt) = .ok uid.toInt := by
  have hlt := uid.toInt_lt
  cases hi : uid.toInt with
  | negSucc n =>
    rw [hi] at h
    exact absurd h (by rw [show toString (Int.negSucc n) = "-" ++ Nat.repr (n + 1) from rfl,
      isPureDigit, String.toList_append]; exact Bool.false_ne_true)
  | ofNat n =>
    show stoi (Nat.repr n) = _
    rw [hi] at hlt
    rw [stoi, if_neg (repr_ne_empty n), digitsValue_repr,
      if_neg (by rw [Int.ofNat_eq_natCast] at hlt; omega)]
    rfl

theorem toString_injective {i j : Int} (h : toString i = toString j) : i = j := by
  have hdash : ∀ m n : Nat, Nat.repr m ≠ "-" ++ Nat.repr n := fun m n he => by
    have hhead : '-' ∈ Nat.toDigits 10 m := by
      rw [← toList_repr, he, String.toList_append]
      exact List.mem_append_left _ (List.mem_singleton_self _)
    exact absurd (Nat.isDigit_of_mem_toDigits (by decide) (by decide) hhead) (by decide)
  have hrepr : ∀ m n : Nat, Nat.repr m = Nat.repr n → m = n := fun m n he => by
    rw [← digitsValue_repr m, he, digitsValue_repr]
  cases i with
  | ofNat m =>
    cases j with
    | ofNat n => rw [hrepr m n h]
    | negSucc n => exact absurd h (hdash m (n + 1))
  | negSucc m =>
    cases j with
    | ofNat n => exact absurd h.symm (hdash n (m + 1))
    | negSucc n => rw [Nat.succ.inj (hrepr _ _ ((String.append_right_inj "-").mp h))]

theorem cString_of_plain {s : String} (h : '\x00' ∉ s.toList) : cString s = s := by
  have htake : s.toList.takeWhile (· ≠ '\x00') = s.toList := by
    rw [List.takeWhile_eq_self_iff]
    intro c hc
    exact decide_eq_true fun he => h (he ▸ hc)
  rw [cString, htake, String.ofList_toList]

theorem nul_not_mem_toString (i : Int) : '\x00' ∉ (toString i).toList := by
  have hrepr : ∀ n : Nat, '\x00' ∉ (Nat.repr n).toList := fun n hc => by
    rw [toList_repr] at hc
    exact absurd (Nat.isDigit_of_mem_toDigits (by decide) (by decide) hc) (by decide)
  cases i with
  | ofNat n => exact hrepr n
  | negSucc n =>
    rw [show toString (Int.negSucc n) = "-" ++ Nat.repr (n + 1) from rfl, String.toList_append]
    exact fun hc => (List.mem_append.mp hc).elim (by decide) (hrepr _)

/-- A question without a NUL is looked up under its whole key. -/
theorem cString_key (h : q.Plain) : cString q.key = q.key := by
  refine cString_of_plain ?_
  cases q with
  | search text =>
    simp only [Question.key, String.toList_append, List.mem_append, not_or]
    refine ⟨?_, h⟩
    split <;> decide
  | login uid =>
    simp only [Question.key, String.toList_append, List.mem_append, not_or]
    exact ⟨by decide, nul_not_mem_toString _⟩

theorem base_ne_name (a b : String) : "ubaseinfo_" ++ a ≠ "nameinfo_" ++ b := fun h => by
  have hlist := congrArg String.toList h
  rw [String.toList_append, String.toList_append] at hlist
  exact absurd (List.cons.inj hlist).1 (by decide)

theorem row_search_login {text : String} (uid : Int32)
    (h : (Question.search text).key = (Question.login uid).key) :
    (Question.search text).row same s = (Question.login uid).row same s := by
  by_cases hd : isPureDigit text = true
  · simp only [Question.key, hd, if_true] at h
    obtain rfl := (String.append_right_inj _).mp h
    simp only [Question.row, hd, if_true, stoi_toString uid hd]
    rfl
  · simp only [Question.key, hd] at h
    exact absurd h.symm (base_ne_name _ _)

/-- Who finds the same entry asks for the same row. -/
theorem row_of_key (h : q.key = q'.key) : q.row same s = q'.row same s := by
  cases q with
  | search text =>
    cases q' with
    | search text' =>
      by_cases hd : isPureDigit text = true <;> by_cases hd' : isPureDigit text' = true <;>
        simp only [Question.key, hd, hd', if_true, Bool.false_eq_true, if_false] at h
      · rw [(String.append_right_inj _).mp h]
      · exact absurd h (base_ne_name _ _)
      · exact absurd h.symm (base_ne_name _ _)
      · rw [(String.append_right_inj _).mp h]
    | login uid => exact row_search_login uid h
  | login uid =>
    cases q' with
    | search text => exact (row_search_login uid h.symm).symm
    | login uid' =>
      show s.user uid.toInt = s.user uid'.toInt
      rw [toString_injective ((String.append_right_inj _).mp h)]

/-! ### A question -/

theorem user_some (h : s.user uid = some u) : u ∈ s.users ∧ u.userId = uid :=
  ⟨List.mem_of_find?_eq_some h, by simpa using List.find?_some h⟩

theorem row_mem (h : q.row same s = some u) : u ∈ s.users := by
  cases q with
  | search text =>
    simp only [Question.row] at h
    split at h
    · obtain ⟨uid, -, hu⟩ := Option.bind_eq_some_iff.mp h
      exact (user_some hu).1
    · exact List.mem_of_find?_eq_some h
  | login uid => exact (user_some h).1

/-- The handler has begun. -/
def begun (s : Store) : HandlerState Store :=
  { world := s, userUid := 0, rtvalue := [("error", ErrorCodes.success.json)] }

theorem begun_eq (s : Store) :
    (assignError .success : Handler Store Unit) (start s) = (.ok (), begun s) := rfl

theorem ask_redis {key : String} {o : Option (List UInt8)} {w : HandlerState Store}
    (h : w.world.get key = o) :
    Handler.ask ((services parse same).redisGet key) w = (.ok o, w) :=
  ask_query (congrArg (·, w.world) h)

/-- What an answer of the table leaves. -/
def Store.fill (s : Store) (key : String) : Option UserInfo → Store
  | none => s
  | some u => s.set key (cachedProfile u)

section

variable {key : String} {b : List UInt8} {load : Handler Store (Option UserInfo)}

theorem getUserCached_hit (h : s.get key = some b) :
    getUserCached (services parse same) key load (start s) =
      match readProfile (parse b) with
      | .ok u => updateWith (profileMembers u) (begun s)
      | .error e => (.error (.json e), begun s) := by
  refine (bind_eq_ok (begun_eq s)).trans ((bind_eq_ok (ask_redis h)).trans ?_)
  show (json (readProfile (parse b)) >>= _) (begun s) = _
  cases readProfile (parse b) <;> rfl

theorem getUserCached_miss (h : s.get key = none) {r : Except CppException (Option UserInfo)}
    (hload : load (begun s) = (r, begun s)) {row : Option UserInfo} (hrow : r.toOption.join = row) :
    (Report.search (getUserCached (services parse same) key load (start s)).2.rtvalue).Shows row ∧
    (getUserCached (services parse same) key load (start s)).2.world = s.fill key row := by
  have hask : getUserCached (services parse same) key load (start s) =
      (load >>= fun row => match row with
        | none => assignError .uidInvalid
        | some u => do
          tell ((services parse same).redisSet key (cachedProfile u))
          updateWith (profileMembers u)) (begun s) :=
    (bind_eq_ok (begun_eq s)).trans (bind_eq_ok (ask_redis (w := begun s) h))
  rw [hask]
  subst hrow
  cases r with
  | error e =>
    rw [bind_eq_error hload]
    exact ⟨⟨_, rfl⟩, rfl⟩
  | ok found =>
    rw [bind_eq_ok hload]
    cases found with
    | none =>
      refine ⟨⟨ErrorCodes.uidInvalid.json, ?_⟩, rfl⟩
      show Json.insert "error" ErrorCodes.uidInvalid.json [("error", ErrorCodes.success.json)] = _
      rw [Json.insert, if_neg (lt_irrefl _), if_pos rfl]
    | some u =>
      refine ⟨?_, rfl⟩
      simp only [Report.Shows, Except.toOption, Option.join_some]
      -- nothing depends on the members: they must not be evaluated
      generalize profileMembers u = ms
      rfl

end

/-- An entry is used as it is. -/
theorem ask_hit {b : List UInt8} (h : s.get q.key = some b) :
    (q.ask parse same s).2 = s ∧
      ∀ u, readProfile (parse b) = .ok u → (q.ask parse same s).1.Shows (some u) := by
  have hsearch : ∀ {key : String} {load : Handler Store (Option UserInfo)}, s.get key = some b →
      (getUserCached (services parse same) key load (start s)).2.world = s ∧
      ∀ u, readProfile (parse b) = .ok u → (Report.search (getUserCached (services parse same) key
        load (start s)).2.rtvalue).Shows (some u) := fun h => by
    rw [getUserCached_hit h]
    cases readProfile (parse b) with
    | error e => exact ⟨rfl, nofun⟩
    | ok v =>
      refine ⟨rfl, fun u hu => ?_⟩
      cases hu
      simp only [Report.Shows]
      generalize profileMembers v = ms
      rfl
  cases q with
  | search text =>
    simp only [Question.key] at h
    simp only [Question.ask]
    split
    · rename_i hd
      rw [if_pos hd] at h
      exact hsearch h
    · rename_i hd
      rw [if_neg hd] at h
      exact hsearch h
  | login uid =>
    have hask : getBaseInfo (services parse same) (baseKey uid) uid.toInt (start s) =
        match readProfile (parse b) with
        | .ok u => (.ok (some u), start s)
        | .error e => (.error (.json e), start s) := by
      refine (bind_eq_ok (ask_redis h)).trans ?_
      show (json (readProfile (parse b)) >>= _) _ = _
      cases readProfile (parse b) <;> rfl
    simp only [Question.ask, hask]
    cases readProfile (parse b) with
    | error e => exact ⟨rfl, nofun⟩
    | ok v =>
      refine ⟨rfl, fun u hu => ?_⟩
      cases hu
      rfl

/-- Without an entry the table is asked, and what it says is kept. -/
theorem ask_miss (h : s.get q.key = none) :
    (q.ask parse same s).1.Shows (q.row same s) ∧
      (q.ask parse same s).2 = s.fill q.key (q.row same s) := by
  cases q with
  | search text =>
    simp only [Question.key] at h
    simp only [Question.ask, Question.row, Question.key]
    split
    · rename_i hd
      rw [if_pos hd] at h
      refine getUserCached_miss h (r := (stoi text).map s.user) ?_ ?_
      · cases hi : stoi text with
        | error e => rfl
        | ok uid => rfl
      · cases stoi text <;> rfl
    · rename_i hd
      rw [if_neg hd] at h
      have hload : ask ((services parse same).getUserByName text) (begun s) =
          (.ok (s.userNamed same text), begun s) := rfl
      exact getUserCached_miss h hload rfl
  | login uid =>
    have hask : getBaseInfo (services parse same) (baseKey uid) uid.toInt (start s) =
        (.ok (s.user uid.toInt), start (s.fill (baseKey uid) (s.user uid.toInt))) := by
      have huser : ask ((services parse same).getUser uid.toInt) (start s) =
          (.ok (s.user uid.toInt), start s) := rfl
      refine (bind_eq_ok (ask_redis h)).trans ((bind_eq_ok huser).trans ?_)
      cases hu : s.user uid.toInt with
      | none => rfl
      | some u =>
        have hsame : ({ u with userId := uid.toInt } : UserInfo) = u := by rw [← (user_some hu).2]
        show (Except.ok (some u), _) = _
        dsimp only
        rw [hsame]
        rfl
    simp only [Question.ask, hask, Question.row, Question.key]
    exact ⟨rfl, trivial⟩

/-! ### Coherence -/

/-- Every entry is the profile of the row it is asked for. -/
def Valid (same : String → String → Bool) (s : Store) : Prop :=
  ∀ (q : Question) b, q.Plain → s.get q.key = some b →
    ∃ u, q.row same s = some u ∧ b = cachedProfile u

theorem Valid.coherent (h : Valid same s) (hreads : Reads parse s) : Coherent parse same s := by
  intro q hq
  cases hb : s.get q.key with
  | none => exact (ask_miss hb).1
  | some b =>
    obtain ⟨u, hu, hbu⟩ := h q b hq hb
    rw [hu]
    refine (ask_hit hb).2 u ?_
    rw [hbu]
    exact hreads u (row_mem hu)

theorem row_set {key : String} {value : List UInt8} :
    q.row same (s.set key value) = q.row same s := by
  have huser : (s.set key value).user = s.user := rfl
  have hnamed : (s.set key value).userNamed same = s.userNamed same := rfl
  cases q <;> simp only [Question.row, huser, hnamed]

/-- An entry with the profile of the row that its key asks for. -/
theorem Valid.set (h : ∀ (q : Question) b, q.Plain → q.key ≠ q'.key → s.get q.key = some b →
    ∃ u, q.row same s = some u ∧ b = cachedProfile u) (hq' : q'.Plain)
    (hu : q'.row same s = some u) : Valid same (s.set q'.key (cachedProfile u)) := by
  intro q b hq hb
  rw [row_set]
  by_cases hk : q.key = q'.key
  · rw [row_of_key hk]
    refine ⟨u, hu, ?_⟩
    rw [hk] at hb
    exact Option.some.inj (hb.symm.trans (Function.update_self ..))
  · have hne : cString q.key ≠ cString q'.key := by
      rw [cString_key hq, cString_key hq']
      exact hk
    exact h q b hq hk ((Function.update_of_ne hne ..).symm.trans hb)

theorem Valid.ask (h : Valid same s) (hq : q.Plain) : Valid same (q.ask parse same s).2 := by
  cases hb : s.get q.key with
  | some b =>
    rw [(ask_hit hb).1]
    exact h
  | none =>
    rw [(ask_miss hb).2]
    cases hu : q.row same s with
    | none => exact h
    | some u => exact Valid.set (fun q b hp _ => h q b hp) hq hu

theorem user_retouch (uid : Int) (filename : String) (i : Int) :
    Store.user { s with users := s.users.map (retouch uid filename) } i =
      (s.user i).map (retouch uid filename) := by
  have hid : ∀ u, (retouch uid filename u).userId = u.userId := fun u => by
    unfold retouch
    split <;> rfl
  simp only [Store.user, List.find?_map, Function.comp_def, hid]

theorem row_retouch (uid : Int) (filename : String) :
    q.row same { s with users := s.users.map (retouch uid filename) } =
      (q.row same s).map (retouch uid filename) := by
  have hname : ∀ u, (retouch uid filename u).username = u.username := fun u => by
    unfold retouch
    split <;> rfl
  cases q with
  | search text =>
    simp only [Question.row]
    split
    · cases stoi text with
      | error e => rfl
      | ok i => exact user_retouch uid filename i
    · simp only [Store.userNamed, List.find?_map, Function.comp_def, hname]
  | login i => exact user_retouch uid filename i.toInt

/-- A report shows one avatar. -/
theorem shows_avatar {report : Report} {v : UserInfo} (h : report.Shows (some u))
    (h' : report.Shows (some v)) : u.avatarKey = v.avatarKey := by
  cases report with
  | search rtvalue =>
    have hperm : ∀ {w : UserInfo}, (Report.search rtvalue).Shows (some w) →
        rtvalue.Perm (("error", ErrorCodes.success.json) :: profileMembers w) := fun {w} hw => by
      have hnodup : ((("error", ErrorCodes.success.json) :: profileMembers w).map (·.1)).Nodup := by
        show ["error", "uid", "name", "email", "nick", "desc", "sex", "icon"].Nodup
        decide
      have hcons : ∀ l, Json.update [("error", ErrorCodes.success.json)] l =
          Json.update [] (("error", ErrorCodes.success.json) :: l) := fun _ => rfl
      rw [show rtvalue = _ from hw, hcons]
      exact (Json.update_nil_perm hnodup).2
    have hmem := (hperm h').mem_iff.mp ((hperm h).mem_iff.mpr
      (show ("icon", Json.str u.avatarKey) ∈ _ by simp [profileMembers]))
    simpa [profileMembers] using hmem
  | login userinfo =>
    cases h.symm.trans h'
    rfl

section

variable {uid : Int32} {filename : String}

theorem uploadHeadIcon_eq (s : Store) : uploadHeadIcon uid filename true true s =
    Store.fill { s with users := s.users.map (retouch uid.toInt filename) }
      (Question.login uid).key ((s.user uid.toInt).map (retouch uid.toInt filename)) := by
  rw [← user_retouch]
  unfold uploadHeadIcon
  simp only [Bool.and_self, if_true]
  cases hu : Store.user { s with users := s.users.map (retouch uid.toInt filename) } uid.toInt with
  | none => rfl
  | some u =>
    have hsame : ({ u with userId := uid.toInt } : UserInfo) = u := by rw [← (user_some hu).2]
    dsimp only
    rw [hsame]
    rfl

theorem row_uploadHeadIcon : q.row same (uploadHeadIcon uid filename true true s) =
    (q.row same s).map (retouch uid.toInt filename) := by
  rw [uploadHeadIcon_eq, ← row_retouch]
  cases s.user uid.toInt with
  | none => rfl
  | some u => exact row_set

theorem get_uploadHeadIcon (hq : q.Plain) (hk : q.key ≠ (Question.login uid).key) :
    (uploadHeadIcon uid filename true true s).get q.key = s.get q.key := by
  rw [uploadHeadIcon_eq]
  cases s.user uid.toInt with
  | none => rfl
  | some u =>
    refine Function.update_of_ne ?_ ..
    rw [cString_key hq, cString_key (q := .login uid) trivial]
    exact hk

/-- A clean upload leaves no old profile behind. -/
theorem Valid.uploadHeadIcon (h : Valid same s)
    (hclean : (Event.uploadHeadIcon uid filename true true).Clean same s) :
    Valid same (uploadHeadIcon uid filename true true s) := by
  have hrest : ∀ (q : Question) b, q.Plain → q.key ≠ (Question.login uid).key →
      s.get q.key = some b →
      ∃ u, q.row same { s with users := s.users.map (retouch uid.toInt filename) } = some u ∧
        b = cachedProfile u := fun q b hq hk hb => by
    obtain ⟨u, hu, hbu⟩ := h q b hq hb
    refine ⟨u, ?_, hbu⟩
    rw [row_retouch, hu, Option.map_some, retouch]
    split
    · rename_i hid
      rw [← hclean rfl q hq hk (by rw [hb]; rfl) u hu hid]
    · rfl
  rw [uploadHeadIcon_eq]
  cases hu : s.user uid.toInt with
  | some u =>
    exact Valid.set hrest trivial ((user_retouch _ _ _).trans (congrArg (Option.map _) hu))
  | none =>
    intro q b hq hb
    by_cases hk : q.key = (Question.login uid).key
    · -- nobody has cached a user who is not there
      obtain ⟨u, hu', -⟩ := h q b hq hb
      rw [row_of_key hk] at hu'
      exact absurd (hu'.symm.trans hu) nofun
    · exact hrest q b hq hk hb

/-- Any other upload leaves one. -/
theorem clean_of_coherent (h : Valid same s) (hreads : Reads parse s)
    (hcoherent : Coherent parse same (uploadHeadIcon uid filename true true s)) :
    (Event.uploadHeadIcon uid filename true true).Clean same s := by
  intro _ q hq hk hsome u hu hid
  obtain ⟨b, hb⟩ := Option.isSome_iff_exists.mp hsome
  obtain ⟨v, hv, hbv⟩ := h q b hq hb
  obtain rfl := Option.some.inj (hu.symm.trans hv)
  -- the entry is still there, the row has changed
  have hkept : (uploadHeadIcon uid filename true true s).get q.key = some b :=
    (get_uploadHeadIcon hq hk).trans hb
  have hrow := hcoherent q hq
  rw [row_uploadHeadIcon, hu, Option.map_some, retouch, if_pos hid] at hrow
  exact shows_avatar ((ask_hit hkept).2 u (hbv ▸ hreads u (row_mem hu))) hrow

end

theorem Valid.step (h : Valid same s) {e : Event} (hplain : e.Plain) (hclean : e.Clean same s) :
    Valid same (step parse same s e) := by
  cases e with
  | ask q => exact h.ask hplain
  | uploadHeadIcon uid filename written last =>
    cases written <;> cases last
    · exact h
    · exact h
    · exact h
    · exact h.uploadHeadIcon hclean

theorem Valid.run {es : List Event} (h : Valid same s) (hplain : ∀ e ∈ es, e.Plain)
    (hclean : Clean parse same s es) : Valid same (run parse same s es) := by
  induction es generalizing s with
  | nil => exact h
  | cons e es ih =>
    exact ih (h.step (hplain e List.mem_cons_self) hclean.1)
      (fun e' he' => hplain e' (List.mem_cons_of_mem _ he')) hclean.2

theorem valid_empty (users : List UserInfo) : Valid same { users := users } := fun _ _ _ hb =>
  nomatch hb

/-- As long as no text that was searched had a NUL and no upload found its user under another
key, every search and every login is told what the table says; the next event, if it has no NUL
either, ends this exactly if it is such an upload. -/
theorem cache_coherent_iff (parse : List UInt8 → Json) (same : String → String → Bool)
    (users : List UserInfo) (es : List Event) (e : Event) (hplain : ∀ e' ∈ es ++ [e], e'.Plain)
    (hclean : Clean parse same { users := users } es)
    (hreads : Reads parse (run parse same { users := users } es))
    (hreads' : Reads parse (run parse same { users := users } (es ++ [e]))) :
    Coherent parse same (run parse same { users := users } (es ++ [e])) ↔
      e.Clean same (run parse same { users := users } es) := by
  have hvalid := (valid_empty users).run
    (fun e' he' => hplain e' (List.mem_append_left _ he')) hclean
  rw [run, List.foldl_append] at hreads' ⊢
  change Coherent parse same (step parse same (run parse same { users := users } es) e) ↔ _
  constructor
  · intro hcoherent
    cases e with
    | ask q => trivial
    | uploadHeadIcon uid filename written last =>
      cases written <;> cases last
      · exact nofun
      · exact nofun
      · exact nofun
      · exact clean_of_coherent hvalid hreads hcoherent
  · have hlast := hplain e (List.mem_append_right _ List.mem_cons_self)
    exact fun h => (hvalid.step hlast h).coherent hreads'

def alice : UserInfo := { userId := 1, username := "alice", avatarKey := "old.png" }

/-- A parser that knows the text of one profile. -/
def parseAlice (text : List UInt8) : Json :=
  if text = cachedProfile alice then .obj (profileMembers alice) else .discarded

theorem parseAlice_reads : readProfile (parseAlice (cachedProfile alice)) = .ok alice := by
  rw [parseAlice, if_pos rfl]
  rfl

theorem cache_coherent_search : Coherent parseAlice (· == ·)
    (run parseAlice (· == ·) { users := [alice] } ([] ++ [.ask (.search "alice")])) := by
  have hreads : ∀ s : Store, s.users = [alice] → Reads parseAlice s := fun s hs u hu => by
    rw [hs] at hu
    rw [List.mem_singleton.mp hu]
    exact parseAlice_reads
  have hplain : ∀ e ∈ [] ++ [Event.ask (.search "alice")], e.Plain := fun e he => by
    rw [List.mem_singleton.mp he]
    show '\x00' ∉ "alice".toList
    decide
  refine (cache_coherent_iff parseAlice (· == ·) [alice] [] (.ask (.search "alice")) hplain trivial
    (hreads _ rfl) (hreads _ ?_)).mpr trivial
  show ((Question.search "alice").ask parseAlice (· == ·) { users := [alice] }).2.users = [alice]
  rw [(ask_miss rfl).2]
  rfl

/-- The store after a search by the name. -/
theorem search_alice :
    ((Question.search "alice").ask parseAlice (· == ·) { users := [alice] }).2 =
      Store.set { users := [alice] } "nameinfo_alice" (cachedProfile alice) := (ask_miss rfl).2

/-- A search by name after an upload still shows the old avatar, and one with a NUL and anything
behind it shows the user of the name before, whom the table does not have under this name. -/
theorem cache_stale :
    (∃ s, s = run parseAlice (· == ·) { users := [alice] }
        [.ask (.search "alice"), .uploadHeadIcon 1 "new.png" true true] ∧
      ((Question.search "alice").ask parseAlice (· == ·) s).1.Shows (some alice) ∧
      (Question.search "alice").row (· == ·) s = some { alice with avatarKey := "new.png" }) ∧
    ∃ s, s = run parseAlice (· == ·) { users := [alice] } [.ask (.search "alice")] ∧
      ((Question.search "alice\x00x").ask parseAlice (· == ·) s).1.Shows (some alice) ∧
      (Question.search "alice\x00x").row (· == ·) s = none := by
  have hentry : ∀ {q : Question}, cString q.key = "nameinfo_alice" →
      (Store.set { users := [alice] } "nameinfo_alice" (cachedProfile alice)).get q.key =
        some (cachedProfile alice) := fun hkey => by
    have hname : cString "nameinfo_alice" = "nameinfo_alice" := by decide
    simp only [Store.get, Store.set, hkey, hname, Function.update_self]
  refine ⟨⟨_, rfl, ?_⟩, _, rfl, ?_⟩
  · show (Question.ask parseAlice _ (uploadHeadIcon 1 "new.png" true true
      ((Question.search "alice").ask parseAlice (· == ·) { users := [alice] }).2) _).1.Shows _ ∧
      Question.row _ (uploadHeadIcon 1 "new.png" true true
      ((Question.search "alice").ask parseAlice (· == ·) { users := [alice] }).2) _ = _
    rw [search_alice]
    have hplain : (Question.search "alice").Plain := by
      show '\x00' ∉ "alice".toList
      decide
    have hne : (Question.search "alice").key ≠ (Question.login 1).key := by decide
    constructor
    · exact (ask_hit ((get_uploadHeadIcon hplain hne).trans (hentry (by decide)))).2 alice
        parseAlice_reads
    · rw [row_uploadHeadIcon, row_set]
      rfl
  · show (Question.ask parseAlice _
      ((Question.search "alice").ask parseAlice (· == ·) { users := [alice] }).2 _).1.Shows _ ∧
      Question.row _
        ((Question.search "alice").ask parseAlice (· == ·) { users := [alice] }).2 _ = _
    rw [search_alice]
    constructor
    · exact (ask_hit (hentry (by decide))).2 alice parseAlice_reads
    · rw [row_set]
      rfl

end LlfcChat.UserCache
