/-
The challenge of the instant upload, over whole runs.

The journal of a message says in which order its requests were processed: it is
written by the one worker of the message only.  What the session of the message
says about its challenge is compared with it: an active challenge was issued by
an event of the journal, and no later event has spoilt it.  What a proof was
compared with was read from the blob, which is a fact about an earlier state; so
the server is looked at with its history.
-/
import LlfcChat.Lib.ConcRuns
import LlfcChat.Resource.Blobs

namespace LlfcChat.Resource.Challenge

open Conc Conc.Rules FileSystem
open Conc.Prog hiding pure bind
open Upload (Owns Elsewhere elsewhere_evictIdle)

/-! ### Journals -/

def Compared : Event → Prop
  | .proofCompared .. => True
  | _ => False

def Failed : Event → Prop
  | .proofCompared _ ok => ok = false
  | _ => False

def Issued : Event → Prop
  | .challengeIssued .. => True
  | _ => False

def Loaded : Event → Prop
  | .sessionLoaded => True
  | _ => False

/-- Between two events of kind `p` there is one of kind `q`. -/
def Separated (p q : Event → Prop) (J : List Event) : Prop :=
  ∀ l₁ x l₂ y l₃, J = l₁ ++ x :: (l₂ ++ y :: l₃) → p x → p y → ∃ z ∈ l₂, q z

variable {p q : Event → Prop} {J l l' : List Event} {e : Event}

theorem separated_nil : Separated p q [] := by
  intro l₁ x l₂ y l₃ h
  simp at h

/-- One more event; one of kind `p` needs an event of kind `q` after the last of
its own kind. -/
theorem Separated.concat (h : Separated p q J)
    (he : p e → ∀ l₁ x l₂, J = l₁ ++ x :: l₂ → p x → ∃ z ∈ l₂, q z) :
    Separated p q (J ++ [e]) := by
  intro l₁ x l₂ y l₃ heq hx hy
  rcases l₃.eq_nil_or_concat with rfl | ⟨l₃, z, rfl⟩
  · have heq : J ++ [e] = (l₁ ++ x :: l₂) ++ [y] := by simpa using heq
    obtain ⟨hJ, hlast⟩ := List.append_inj' heq rfl
    cases hlast
    exact he hy l₁ x l₂ hJ hx
  · have heq : J ++ [e] = (l₁ ++ x :: (l₂ ++ y :: l₃)) ++ [z] := by simpa using heq
    exact h l₁ x l₂ y l₃ (List.append_inj_left' heq rfl) hx hy

/-- After the last event of kind `p` comes the event that none of this kind
follows. -/
theorem after_last (hJ : J = l ++ e :: l') (he : ¬p e) (hl' : ∀ x ∈ l', ¬p x) {l₁ l₂ : List Event}
    {x : Event} (h : J = l₁ ++ x :: l₂) (hx : p x) : e ∈ l₂ := by
  rw [hJ, List.append_eq_append_iff] at h
  obtain ⟨k, -, hk⟩ | ⟨k, -, hk⟩ := h
  · cases k with
    | nil =>
      rw [List.nil_append, List.cons.injEq] at hk
      exact absurd (hk.1 ▸ hx) he
    | cons y k =>
      rw [List.cons_append, List.cons.injEq] at hk
      exact absurd hx (hl' x (hk.2 ▸ List.mem_append_right k List.mem_cons_self))
  · cases k with
    | nil =>
      rw [List.nil_append, List.cons.injEq] at hk
      exact absurd (hk.1 ▸ hx) he
    | cons y k =>
      rw [List.cons_append, List.cons.injEq] at hk
      exact hk.2 ▸ List.mem_append_right k List.mem_cons_self

/-- What may come after a challenge was issued and leave it as it is; a 1505 is
of another user, or of nobody. -/
def Leaves (sender : Int) : Event → Prop
  | .challengeIssued .. | .proofCompared .. => False
  | .chunkRequest _ uid => uid = 0 ∨ uid ≠ sender
  | _ => True

/-- The challenge is the last one, and nobody has spoilt it: `rest` came after it. -/
structure Open (sender : Int) (session : Nat) (nonce : List UInt8) (offset length issued : Nat)
    (J rest : List Event) : Prop where
  since : ∃ l, J = l ++ .challengeIssued session nonce offset length issued :: rest
  leaves : ∀ e ∈ rest, Leaves sender e
  /-- The holder has not come to the check in time. -/
  unchecked : ∀ time, .proofChecked session time ∈ rest →
    issued + instantProofChallengeTtlSeconds < time

/-- No comparison has failed since the session was made. -/
def Calm (J : List Event) : Prop := ∃ l l', J = l ++ .sessionLoaded :: l' ∧ ∀ e ∈ l', ¬Failed e

theorem Calm.concat (h : Calm J) (he : ¬Failed e) : Calm (J ++ [e]) := by
  obtain ⟨l, l', rfl, hl'⟩ := h
  refine ⟨l, l' ++ [e], by simp, fun x hx => ?_⟩
  rcases List.mem_append.mp hx with hx | hx
  · exact hl' x hx
  · exact List.mem_singleton.mp hx ▸ he

section Open

variable {sender : Int} {session : Nat} {nonce : List UInt8} {offset length issued : Nat}
  {rest : List Event}

theorem Open.concat (h : Open sender session nonce offset length issued J rest)
    (he : Leaves sender e)
    (hchecked : ∀ time, e = .proofChecked session time →
      issued + instantProofChallengeTtlSeconds < time) :
    Open sender session nonce offset length issued (J ++ [e]) (rest ++ [e]) := by
  obtain ⟨⟨l, rfl⟩, hleaves, hunchecked⟩ := h
  refine ⟨⟨l, by simp⟩, fun x hx => ?_, fun time hx => ?_⟩
  · rcases List.mem_append.mp hx with hx | hx
    · exact hleaves x hx
    · exact List.mem_singleton.mp hx ▸ he
  · rcases List.mem_append.mp hx with hx | hx
    · exact hunchecked time hx
    · exact hchecked time (List.mem_singleton.mp hx).symm

theorem open_new : Open sender session nonce offset length issued
    (J ++ [.challengeIssued session nonce offset length issued]) [] :=
  ⟨⟨J, rfl⟩, nofun, nofun⟩

end Open

/-! ### What is known of a message -/

/-- The message exists and was sent by this user. -/
def Sender (m uid : Int) (w : World) : Prop :=
  ∃ row ∈ w.db.chatMessages, row.messageId = m ∧ row.senderUserId = uid

theorem dbFact_sender (m uid : Int) : DbFact (Sender m uid) := by
  rintro w w' hc ⟨row, hrow, hid, huid⟩
  obtain ⟨st, hst, -⟩ := hc.keepsMessage hrow
  exact ⟨_, hst, hid, huid⟩

theorem Sender.unique {m uid uid' : Int} {w : World} (hdb : w.db.Consistent) (h : Sender m uid w)
    (h' : Sender m uid' w) : uid = uid' := by
  obtain ⟨row, hrow, hid, rfl⟩ := h
  obtain ⟨row', hrow', hid', rfl⟩ := h'
  have e := hdb.toKeyed.chatMessage hrow
  rw [hid, ← hid', hdb.toKeyed.chatMessage hrow'] at e
  rw [Option.some.inj e]

/-- The section of a challenge lies within the file. -/
def Within (m : Int) (offset length : Nat) (w : World) : Prop :=
  0 < length ∧ length ≤ maxProofSection ∧
    ∃ r, w.db.messageResource m = some r ∧ offset + length ≤ r.fileSizeBytes

theorem dbFact_within (m : Int) (offset length : Nat) : DbFact (Within m offset length) := by
  rintro w w' hc ⟨hpos, hmax, r, hr, hle⟩
  exact ⟨hpos, hmax, r, hc.keepsResource hr, hle⟩

/-- What a session says of its challenge is right. -/
structure SessionOk (m : Int) (J : List Event) (s : UploadSession) (w : World) : Prop where
  sender : Sender m s.senderUserId w
  calm : s.challengeSuppressed = false → Calm J
  active : s.challengeActive = true → s.challengeSuppressed = false ∧
    Within m s.challengeOffset s.challengeLength w ∧
    ∃ session rest, s.challengeSession = some session ∧
      Open s.senderUserId session s.challengeNonceRaw s.challengeOffset s.challengeLength
        s.challengeIssuedAt J rest

theorem dbFact_sessionOk (m : Int) (J : List Event) (s : UploadSession) :
    DbFact (SessionOk m J s) := by
  intro w w' hc h
  refine ⟨dbFact_sender _ _ w w' hc h.sender, h.calm, fun ha => ?_⟩
  obtain ⟨hs, hwithin, hopen⟩ := h.active ha
  exact ⟨hs, dbFact_within _ _ _ w w' hc hwithin, hopen⟩

/-- A session without a challenge that will not get one. -/
def Muffled (s : UploadSession) : Prop :=
  s.challengeActive = false ∧ s.challengeSuppressed = true

theorem Muffled.sessionOk {m : Int} {s : UploadSession} {w : World} (h : Muffled s)
    (hs : Sender m s.senderUserId w) : SessionOk m J s w := by
  refine ⟨hs, fun hf => ?_, fun ha => ?_⟩
  · rw [h.2] at hf
    cases hf
  · rw [h.1] at ha
    cases ha

/-! ### Rules -/

section Rules

variable (sha : List UInt8 → String) (fmt : Int → String)

/-- ResourceServer with its history, and with what is known of its lock. -/
@[reducible] def tracedServer : System Op Res (Recorded World) Thread :=
  ((server sha fmt anything).assuming fun t => (publishRules sha fmt t).guar).recorded

/-- The journals so far are as they should be. -/
structure ChallengeInv (w : Recorded World) : Prop where
  past : w.past w.now
  consistent : w.now.db.Consistent
  compared : ∀ m, Separated Compared Issued (w.now.journal m)
  failed : ∀ m, Separated Failed Loaded (w.now.journal m)
  times : ∀ m session time, .proofChecked session time ∈ w.now.journal m → time ≤ w.now.clock

/-- What goes on: the journals of `S` are left alone. -/
structure Onward (S : Int → Prop) (w w' : Recorded World) : Prop where
  db : Changes w.now.db w'.now.db
  clock : w.now.clock ≤ w'.now.clock
  past : ∀ v, w.past v → w'.past v
  journal : ∀ m, S m → w'.now.journal m = w.now.journal m

/-- The lock of a thread, and the blobs under it. -/
def Locked (t : Thread) (w w' : World) : Prop :=
  w.mutex = some t → w'.mutex = some t ∧ KeepsBlobs w w'

theorem Onward.refl (S : Int → Prop) (w : Recorded World) : Onward S w w where
  db := .refl
  clock := Nat.le_refl _
  past _ := id
  journal _ _ := rfl

theorem Onward.trans {S : Int → Prop} {w w' w'' : Recorded World} (h : Onward S w w')
    (h' : Onward S w' w'') : Onward S w w'' where
  db := Relation.ReflTransGen.trans h.db h'.db
  clock := Nat.le_trans h.clock h'.clock
  past v hv := h'.past v (h.past v hv)
  journal m hm := (h'.journal m hm).trans (h.journal m hm)

theorem Onward.mono {S S' : Int → Prop} {w w' : Recorded World} (h : Onward S w w')
    (hS : ∀ m, S' m → S m) : Onward S' w w' :=
  ⟨h.db, h.clock, h.past, fun m hm => h.journal m (hS m hm)⟩

theorem Locked.refl (t : Thread) (w : World) : Locked t w w := fun h => ⟨h, .refl w⟩

theorem Locked.trans {t : Thread} {w w' w'' : World} (h : Locked t w w')
    (h' : Locked t w' w'') : Locked t w w'' := by
  intro hw
  obtain ⟨hw', hblobs⟩ := h hw
  obtain ⟨hw'', hblobs'⟩ := h' hw'
  exact ⟨hw'', fun s i hi => hblobs' s i (hblobs s i hi)⟩

theorem locked_of_rely {t : Thread} {w w' : World} (h : PublishRely t w w') : Locked t w w' :=
  fun hw => ⟨h.mutex hw, h.blobs hw⟩

/-- A proof has licensed the publication of a message: of all that has happened to
the message, the last are this request, its check against the challenge and the
comparison that found it right.  `was` says which states there have been; in one
of them the blob had the bytes that the proof is made of. -/
def Proved (was : World → Prop) (m : Int) (w : World) : Prop :=
  ∃ session uid proof nonce offset length issued time l rest r data v,
    w.journal m = l ++ .challengeIssued session nonce offset length issued :: (rest ++
      [.proofRequest session uid proof, .proofChecked session time,
        .proofCompared session true]) ∧
    (∀ e ∈ rest, Leaves uid e) ∧ (∀ time', .proofChecked session time' ∉ rest) ∧
    time ≤ issued + instantProofChallengeTtlSeconds ∧ uid ≠ 0 ∧ Sender m uid w ∧
    0 < length ∧ length ≤ maxProofSection ∧ w.db.messageResource m = some r ∧
    offset + length ≤ r.fileSizeBytes ∧
    was v ∧ v.journal m = l ++ .challengeIssued session nonce offset length issued :: (rest ++
      [.proofRequest session uid proof, .proofChecked session time]) ∧
    v.disk.contents (resourceBlobPath r.sha256) = some data ∧
    (slice data offset length).length = length ∧ proof = sha (nonce ++ slice data offset length)

/-- A publication is started for a chunk that was just accepted, or for a proof. -/
def Licensed (was : World → Prop) (m : Int) (w : World) : Prop :=
  (∃ l offset data, w.journal m = l ++ [.chunkAccepted offset data]) ∨ Proved sha was m w

/-- What is asked of a call. -/
def CallOk (w : Recorded World) : Op → Prop
  | .dao (.completeResourceUpload m _) _ => Licensed sha w.past m w.now
  | _ => True

/-- Thread `t` at work for message `m`. -/
@[reducible] def messageRules (t : Thread) (m : Int) : Rules Op Res (Recorded World) where
  sem := (tracedServer sha fmt).sem t
  inv := ChallengeInv
  rely w w' := Onward (· = m) w w' ∧ Locked t w.now w'.now
  guar op w w' := Onward (· ≠ m) w w' ∧ (∀ t', t' ≠ t → Locked t' w.now w'.now) ∧ CallOk sha w op
  rely_refl w := ⟨.refl _ w, .refl t _⟩
  rely_trans _ _ _ h h' := ⟨h.1.trans h'.1, h.2.trans h'.2⟩

end Rules

variable {sha : List UInt8 → String} {fmt : Int → String} {t : Thread} {m : Int}
  {w : Recorded World} {s : UploadSession} {fw fw₀ : FileWorker}

/-! ### Calls -/

/-- A step of the server: a note goes to the journal of its message. -/
theorem onward_of_sem {op : Op} {r : Res op} {w w' : Recorded World}
    (hs : (tracedServer sha fmt).sem t op w r w') :
    Onward (fun n => ∀ e, op ≠ .note n e) w w' ∧ (∀ t', t' ≠ t → Locked t' w.now w'.now) ∧
      w'.past w'.now := by
  obtain ⟨⟨⟨c, -, he⟩, hgc⟩, hmoves⟩ := hs
  obtain ⟨hdb, hclock, -, hjournal⟩ := exec_frame he
  refine ⟨⟨hdb, hclock.ge, fun v hv => ?_, hjournal⟩, fun t' ht =>
    locked_of_rely (hgc.1 t' ht), ?_⟩
  · rw [hmoves]
    exact .inl hv
  · rw [hmoves]
    exact .inr rfl

theorem ChallengeInv.onward {w w' : Recorded World} (hinv : ChallengeInv w)
    (h : Onward (fun _ => True) w w') (hpast : w'.past w'.now) : ChallengeInv w' where
  past := hpast
  consistent := h.db.consistent hinv.consistent
  compared m := h.journal m trivial ▸ hinv.compared m
  failed m := h.journal m trivial ▸ hinv.failed m
  times m session time hm :=
    Nat.le_trans (hinv.times m session time (h.journal m trivial ▸ hm)) h.clock

/-- What stays true while the database, the clock and the history go on. -/
def Lasting (P : Recorded World → Prop) : Prop :=
  ∀ w w', Onward (fun _ => False) w w' → P w → P w'

theorem lasting_db {P : World → Prop} (h : DbFact P) : Lasting fun w => P w.now :=
  fun w w' hw hP => h w.now w'.now hw.db hP

theorem Lasting.and {P P' : Recorded World → Prop} (h : Lasting P) (h' : Lasting P') :
    Lasting fun w => P w ∧ P' w := fun w w' hw hP => ⟨h w w' hw hP.1, h' w w' hw hP.2⟩

/-- The journal of the message is `J`, and `P` is known. -/
def At (m : Int) (J : List Event) (P : Recorded World → Prop) (w : Recorded World) : Prop :=
  w.now.journal m = J ∧ P w

section At

variable {P : Recorded World → Prop} (hP : Lasting P)
include hP

theorem At.onward {w w' : Recorded World} (hw : Onward (· = m) w w') (h : At m J P w) :
    At m J P w' :=
  ⟨(hw.journal m rfl).trans h.1, hP w w' (hw.mono fun _ => False.elim) h.2⟩

theorem stable_at : (messageRules sha fmt t m).Stable (At m J P) :=
  fun _ _ h hr _ => h.onward hP hr.1

end At

/-- All calls but notes keep what the others keep. -/
theorem keeps_onward {F : Recorded World → Prop} (hF : ∀ w w', Onward (· = m) w w' → F w → F w')
    {op : Op} (hop : ∀ n e, op ≠ .note n e) (hcall : ∀ w, F w → CallOk sha w op) :
    (messageRules sha fmt t m).Keeps F op := by
  intro w r w' hw hinv hs
  obtain ⟨hon, hlocked, hpast⟩ := onward_of_sem hs
  exact ⟨⟨hon.mono fun n _ => hop n, hlocked, hcall w hw⟩,
    hinv.onward (hon.mono fun n _ => hop n) hpast, hF w w' (hon.mono fun n _ => hop n) hw⟩

theorem keeps_at {P : Recorded World → Prop} (hP : Lasting P) {op : Op}
    (hop : ∀ n e, op ≠ .note n e) (hcall : ∀ w, At m J P w → CallOk sha w op) :
    (messageRules sha fmt t m).Keeps (At m J P) op :=
  keeps_onward (fun _ _ hon hw => hw.onward hP hon) hop hcall

/-- Calls on files, answers, the lock, and transactions that do not publish. -/
def Plain : Op → Prop
  | .lock | .send .. | .post _ => True
  | .dao c _ => c.publishes = none
  | op => op.Files

theorem Plain.ne_note {op : Op} (h : Plain op) (n : Int) (e : Event) : op ≠ .note n e := by
  rintro rfl
  exact h

theorem callOk_of_plain {op : Op} (h : Plain op) : CallOk sha w op := by
  cases op with
  | dao c attempt => cases c <;> trivial
  | _ => trivial

theorem Op.Files.plain {op : Op} (h : op.Files) : Plain op := by
  cases op <;> first | exact h | exact h.elim

/-- Such a call does not let the lock go. -/
theorem locked_of_plain {op : Op} (h : Plain op) {c : Choice} {r : Res op} {w w' : World}
    (he : exec sha t op c w = some (r, w')) : Locked t w w' := by
  intro hw
  cases op with
  | lock =>
    exact absurd hw ((exec_lock he).1 _)
  | send session reply =>
    obtain rfl := exec_send he
    exact ⟨hw, .refl _⟩
  | post n =>
    obtain rfl := exec_post he
    exact ⟨hw, .refl _⟩
  | dao call attempt =>
    obtain ⟨-, rfl⟩ := exec_dao he
    exact ⟨hw, fun _ _ hi => hi⟩
  | _ =>
    have hfiles := fun hop => exec_files hop he
    obtain ⟨⟨d, rfl⟩, hblobs⟩ := hfiles h
    exact ⟨hw, hblobs⟩

theorem quiet_of_plain {op : Op} (h : Plain op) : (messageRules sha fmt t m).Quiet op := by
  intro w r w' hinv hs
  obtain ⟨hon, hlocked, hpast⟩ := onward_of_sem hs
  obtain ⟨⟨⟨c, -, he⟩, -⟩, -⟩ := hs
  exact ⟨⟨hon.mono fun n _ => h.ne_note n, hlocked, callOk_of_plain h⟩,
    hinv.onward (hon.mono fun n _ => h.ne_note n) hpast, hon.mono fun n _ => h.ne_note n,
    locked_of_plain h he⟩

theorem quiet_files {α : Type} {p : Prog α} (h : p.Calls Op.Files) :
    p.Calls (messageRules sha fmt t m).Quiet :=
  h.mono fun _ hop => quiet_of_plain (Op.Files.plain hop)

theorem quiet_call {op : Op} (h : Plain op) :
    (call op).Calls (messageRules sha fmt t m).Quiet := calls_perform (quiet_of_plain h)

/-! ### Notes -/

/-- The event may be noted after `J`. -/
structure Fits (J : List Event) (e : Event) (clock : Nat) : Prop where
  compared : Compared e → ∀ l₁ x l₂, J = l₁ ++ x :: l₂ → Compared x → ∃ z ∈ l₂, Issued z
  failed : Failed e → ∀ l₁ x l₂, J = l₁ ++ x :: l₂ → Failed x → ∃ z ∈ l₂, Loaded z
  time : ∀ session time, e = .proofChecked session time → time ≤ clock

/-- Events that are no checks and no comparisons. -/
def Casual : Event → Prop
  | .proofChecked .. | .proofCompared .. => False
  | _ => True

theorem Casual.fits {clock : Nat} (h : Casual e) : Fits J e clock := by
  refine ⟨fun he => ?_, fun he => ?_, ?_⟩
  · cases e <;> first | exact he.elim | exact h.elim
  · cases e <;> first | exact he.elim | exact h.elim
  · rintro session time rfl
    exact h.elim

section Note

variable {P : Recorded World → Prop} (hP : Lasting P)
include hP

theorem safe_note (h : At m J P w) (hfits : ∀ w, At m J P w → ChallengeInv w →
    Fits J e w.now.clock) :
    (messageRules sha fmt t m).Safe (fun _ => At m (J ++ [e]) P) (call (.note m e)) w := by
  refine safe_perform (stable_at hP) h (fun _ => stable_at hP) fun w r w' hw hinv hs => ?_
  obtain ⟨hon, hlocked, hpast⟩ := onward_of_sem hs
  obtain ⟨⟨⟨c, -, he⟩, -⟩, -⟩ := hs
  have hnow := exec_note he
  have hother : ∀ n, n ≠ m → ∀ e', Op.note m e ≠ .note n e' := by
    rintro n hn e' heq
    injection heq with hmn
    exact hn hmn.symm
  have hself : w'.now.journal m = J ++ [e] := by
    rw [hnow, ← hw.1]
    exact if_pos rfl
  have hclock : w.now.clock = w'.now.clock := by rw [hnow]
  obtain ⟨hcompared, hfailed, htime⟩ := hfits w hw hinv
  refine ⟨⟨hon.mono hother, hlocked, trivial⟩, ⟨hpast, hon.db.consistent hinv.consistent,
    fun n => ?_, fun n => ?_, fun n session time hn => ?_⟩, hself,
    hP w w' (hon.mono fun _ => False.elim) hw.2⟩
  · by_cases hn : n = m
    · rw [hn, hself]
      exact (hw.1 ▸ hinv.compared m).concat hcompared
    · rw [hon.journal n (hother n hn)]
      exact hinv.compared n
  · by_cases hn : n = m
    · rw [hn, hself]
      exact (hw.1 ▸ hinv.failed m).concat hfailed
    · rw [hon.journal n (hother n hn)]
      exact hinv.failed n
  · rw [← hclock]
    by_cases hnm : n = m
    · rw [hnm, hself, List.mem_append, List.mem_singleton] at hn
      rcases hn with hn | hn
      · exact hinv.times m session time (hw.1 ▸ hn)
      · exact htime session time hn.symm
    · rw [hon.journal n (hother n hnm)] at hn
      exact hinv.times n session time hn

/-- A note that nothing depends on. -/
theorem safe_casual (h : At m J P w) (he : Casual e) :
    (messageRules sha fmt t m).Safe (fun _ => At m (J ++ [e]) P) (call (.note m e)) w :=
  safe_note hP h fun _ _ _ => he.fits

end Note

/-! ### Tables -/

/-- The session of the message, if there is one, is right. -/
def Sessions (m : Int) (J : List Event) (fw : FileWorker) (w : World) : Prop :=
  ∀ s, fw.uploadSessions m = some s → SessionOk m J s w

theorem dbFact_sessions (m : Int) (J : List Event) (fw : FileWorker) : DbFact (Sessions m J fw) :=
  fun w w' hc h s hs => dbFact_sessionOk m J s w w' hc (h s hs)

/-- What a handler of `m` that was started with the table `fw₀` leaves. -/
def Ends (m : Int) (fw₀ fw : FileWorker) (w : Recorded World) : Prop :=
  Elsewhere m fw₀ fw ∧ Sessions m (w.now.journal m) fw w.now

theorem Ends.onward {w w' : Recorded World} (h : Ends m fw₀ fw w) (hon : Onward (· = m) w w') :
    Ends m fw₀ fw w' := by
  refine ⟨h.1, ?_⟩
  rw [hon.journal m rfl]
  exact dbFact_sessions m _ fw w.now w'.now hon.db h.2

theorem stable_ends : (messageRules sha fmt t m).Stable (Ends m fw₀ fw) :=
  fun _ _ h hr _ => h.onward hr.1

theorem sessions_put {w : World} (hs : SessionOk m J s w) : Sessions m J (fw.put m s) w := by
  intro s' hs'
  obtain rfl : s = s' := Option.some.inj ((if_pos rfl).symm.trans hs')
  exact hs

theorem sessions_erase {w : World} : Sessions m J (fw.erase m) w := by
  intro s hs
  have hnone : (fw.erase m).uploadSessions m = none := if_pos rfl
  rw [hnone] at hs
  cases hs

theorem Sessions.evictIdle {w : World} (h : Sessions m J fw w) (now : Nat) :
    Sessions m J (fw.evictIdle now) w :=
  fun s hs => h s (Option.filter_eq_some_iff.mp hs).1

theorem SessionOk.refresh {w : World} (h : SessionOk m J s w) (now : Nat) :
    SessionOk m J { s with lastActive := now } w := ⟨h.sender, h.calm, h.active⟩

/-- One more event that does not touch the challenge. -/
theorem SessionOk.concat {w : World} (h : SessionOk m J s w) (hcalm : ¬Failed e)
    (hleaves : s.challengeActive = true → Leaves s.senderUserId e)
    (hchecked : s.challengeActive = true → ∀ session time, s.challengeSession = some session →
      e = .proofChecked session time →
        s.challengeIssuedAt + instantProofChallengeTtlSeconds < time) :
    SessionOk m (J ++ [e]) s w := by
  refine ⟨h.sender, fun hs => (h.calm hs).concat hcalm, fun ha => ?_⟩
  obtain ⟨hs, hwithin, session, rest, hsession, hopen⟩ := h.active ha
  exact ⟨hs, hwithin, session, rest ++ [e], hsession,
    hopen.concat (hleaves ha) fun time he => hchecked ha session time hsession he⟩

/-- The end of a handler: an answer, and the table. -/
theorem safe_answer {α : Type} {p : Prog α}
    (hp : p.Calls (messageRules sha fmt t m).Quiet) (hfw : Elsewhere m fw₀ fw)
    (h : At m J (fun w => Sessions m J fw w.now) w) :
    (messageRules sha fmt t m).Safe (Ends m fw₀) (do let _ ← p; return fw) w :=
  safe_then_pure hp stable_ends ⟨hfw, h.1 ▸ h.2⟩

theorem quiet_send (session : Nat) (reply : Reply) :
    (messageRules sha fmt t m).Quiet (.send session reply) := quiet_of_plain trivial

theorem safe_sent {session : Nat} {reply : Reply} (hfw : Elsewhere m fw₀ fw)
    (h : At m J (fun w => Sessions m J fw w.now) w) :
    (messageRules sha fmt t m).Safe (Ends m fw₀) (call (.send session reply) >>= fun _ => pure fw)
      w := safe_answer (send_calls quiet_send) hfw h

theorem safe_end (hfw : Elsewhere m fw₀ fw) (h : At m J (fun w => Sessions m J fw w.now) w) :
    (messageRules sha fmt t m).Safe (Ends m fw₀) (pure fw) w :=
  safe_pure stable_ends ⟨hfw, h.1 ▸ h.2⟩

end LlfcChat.Resource.Challenge
