/-
Upload sessions, the file, the counter, the running digest and the cached one.

Each handler takes a session that agrees with its `.part` file and leaves one
that does, or none.  The handlers of a worker run one after the other, so the
table of the worker is right whenever it is at rest, and the rules of
`PartFile.lean` carry this over what the other threads do.
-/
import LlfcChat.Resource.PartPrograms

namespace LlfcChat.Resource.Upload

open Conc Conc.Rules FileSystem
open Conc.Prog hiding pure bind

variable {sha : List UInt8 → String} {fmt : Int → String} {care : Care sha} {w : World}
  {t : Thread} {m : Int} {acc : Nat → Option (List UInt8)} {d : List UInt8} {s : UploadSession}
  {fw fw' fw₀ : FileWorker}

/-! ### Sessions -/

/-- What the session knows of the digest of the bytes it has received. -/
def HashOk {sha : List UInt8 → String} (care : Care sha) (s : UploadSession)
    (bytes : List UInt8) : Prop :=
  (s.finalHex ≠ "" → s.received = s.fileSizeBytes ∧ care.Digest bytes s.finalHex) ∧
    (s.hashValid = true → s.finalHex = "" → s.hasher = ⟨bytes, ""⟩)

/-- The session of `m` agrees with the file and with the row of the message. -/
structure SessionIs (sha : List UInt8 → String) (care : Care sha) (m : Int) (s : UploadSession)
    (acc : Nat → Option (List UInt8)) (d : List UInt8) (w : World) : Prop where
  part : Part care m acc d w
  received : Received acc s.fileSizeBytes s.received d
  hash : HashOk care s (d.take s.received)
  row : Row m s.sha256 w

def SessionOk (sha : List UInt8 → String) (care : Care sha) (m : Int) (s : UploadSession)
    (w : World) : Prop := ∃ acc d, SessionIs sha care m s acc d w

/-- The entry of `m` in the table is right. -/
def EntryOk (sha : List UInt8 → String) (care : Care sha) (m : Int) (fw : FileWorker)
    (w : World) : Prop :=
  (∃ acc d, Part care m acc d w) ∧
    ∀ s, fw.uploadSessions m = some s → SessionOk sha care m s w

/-- The other entries are as they were, or gone. -/
def Elsewhere (m : Int) (fw₀ fw : FileWorker) : Prop :=
  ∀ n, n ≠ m → fw.uploadSessions n = fw₀.uploadSessions n ∨ fw.uploadSessions n = none

/-- A session of another message was there before. -/
theorem Elsewhere.session {n : Int} (h : Elsewhere m fw₀ fw) (hn : n ≠ m)
    (hs : fw.uploadSessions n = some s) : fw₀.uploadSessions n = some s := by
  rcases h n hn with he | he
  · exact he ▸ hs
  · rw [he] at hs
    cases hs

/-- What a handler of `m` that was started with the table `fw₀` leaves. -/
def TableOk (sha : List UInt8 → String) (care : Care sha) (m : Int) (fw₀ fw : FileWorker)
    (w : World) : Prop := Elsewhere m fw₀ fw ∧ EntryOk sha care m fw w

theorem stable_sessionIs : (partRules sha fmt care t m).Stable (SessionIs sha care m s acc d) :=
  fun w w' h hr hi => ⟨stable_part w w' h.part hr hi, h.received, h.hash,
    dbFact_stable (dbFact_row m s.sha256) w w' h.row hr hi⟩

theorem EntryOk.frame {w' : World} (h : EntryOk sha care m fw w)
    (hf : Frame care (· = m) w w') (hinv : FileInv sha w') : EntryOk sha care m fw w' := by
  obtain ⟨⟨acc, d, hpart⟩, hsessions⟩ := h
  refine ⟨⟨acc, d, hpart.frame hf hinv⟩, fun s hs => ?_⟩
  obtain ⟨acc, d, hs⟩ := hsessions s hs
  exact ⟨acc, d, hs.part.frame hf hinv, hs.received, hs.hash, dbFact_row m _ w w' hf.db hs.row⟩

theorem stable_entryOk : (partRules sha fmt care t m).Stable (EntryOk sha care m fw) :=
  fun _ _ h hrely hinv => h.frame hrely.1 hinv

/-- The program leaves a good table behind. -/
abbrev Leaves (sha : List UInt8 → String) (fmt : Int → String) (care : Care sha) (t : Thread)
    (m : Int) (fw₀ : FileWorker) (p : Prog FileWorker) (w : World) : Prop :=
  (partRules sha fmt care t m).Safe (TableOk sha care m fw₀) p w

theorem stable_tableOk : (partRules sha fmt care t m).Stable (TableOk sha care m fw₀ fw) :=
  (stable_const _).and stable_entryOk

theorem Elsewhere.refl (m : Int) (fw : FileWorker) : Elsewhere m fw fw := fun _ _ => .inl rfl

theorem Elsewhere.put (h : Elsewhere m fw₀ fw) (s : UploadSession) :
    Elsewhere m fw₀ (fw.put m s) := by
  intro n hn
  have he : (fw.put m s).uploadSessions n = fw.uploadSessions n := if_neg hn
  rw [he]
  exact h n hn

theorem Elsewhere.erase (h : Elsewhere m fw₀ fw) : Elsewhere m fw₀ (fw.erase m) := by
  intro n hn
  have he : (fw.erase m).uploadSessions n = fw.uploadSessions n := if_neg hn
  rw [he]
  exact h n hn

theorem elsewhere_evictIdle (m : Int) (fw : FileWorker) (now : Nat) :
    Elsewhere m fw (fw.evictIdle now) := by
  intro n _
  show (fw.uploadSessions n).filter _ = _ ∨ (fw.uploadSessions n).filter _ = none
  cases fw.uploadSessions n with
  | none => exact .inr rfl
  | some s =>
    rw [Option.filter_some]
    split
    · exact .inl rfl
    · exact .inr rfl

theorem tableOk_put (h : Elsewhere m fw₀ fw) (hs : SessionIs sha care m s acc d w) :
    TableOk sha care m fw₀ (fw.put m s) w := by
  refine ⟨h.put s, ⟨acc, d, hs.part⟩, fun s' hs' => ?_⟩
  obtain rfl : s = s' := Option.some.inj ((if_pos rfl).symm.trans hs')
  exact ⟨acc, d, hs⟩

theorem tableOk_erase (h : Elsewhere m fw₀ fw) (hp : Part care m acc d w) :
    TableOk sha care m fw₀ (fw.erase m) w := by
  refine ⟨h.erase, ⟨acc, d, hp⟩, fun s' hs' => ?_⟩
  have hnone : (fw.erase m).uploadSessions m = none := if_pos rfl
  rw [hnone] at hs'
  cases hs'

/-- A table that already has the session. -/
theorem tableOk_of_session (h : Elsewhere m fw₀ fw) (hfw : fw.uploadSessions m = some s)
    (hs : SessionIs sha care m s acc d w) : TableOk sha care m fw₀ fw w := by
  refine ⟨h, ⟨acc, d, hs.part⟩, fun s' hs' => ?_⟩
  obtain rfl : s = s' := Option.some.inj (hfw.symm.trans hs')
  exact ⟨acc, d, hs⟩

/-- An answer at the end of a handler. -/
theorem safe_answer {α : Type} {p : Prog α} (hp : p.Calls (partRules sha fmt care t m).Quiet)
    (h : TableOk sha care m fw₀ fw w) :
    (partRules sha fmt care t m).Safe (TableOk sha care m fw₀)
      (p >>= fun _ => pure fw) w := safe_then_pure hp stable_tableOk h

theorem safe_sent {session : Nat} {reply : Reply} (h : TableOk sha care m fw₀ fw w) :
    Leaves sha fmt care t m fw₀ (call (.send session reply) >>= fun _ => pure fw) w :=
  safe_answer (send_calls quiet_send) h

/-! ### The digest of the whole file -/

variable {msg : ChatMessage} {task : ChunkTask} {q : MessageResource} {P : World → Prop}

theorem safe_digestFinal (hP : (partRules sha fmt care t m).Stable P) (h : P w)
    (data : List UInt8) :
    (partRules sha fmt care t m).Safe (fun r w => P w ∧ (r ≠ "" → care.Digest data r))
      (call (.digestFinal data)) w := by
  refine safe_look trivial hP h (fun _ => stable_const _) fun c w r _ hinv he hne => ?_
  simp only [exec, Option.some.injEq, Prod.mk.injEq, and_true] at he
  subst he
  split at hne
  · exact absurd rfl hne
  · rename_i hf
    exact ⟨hinv.2 rfl, (if_neg hf).symm⟩

/-- The digest of the stream is the one of the bytes. -/
theorem safe_streamedHash {bytes : List UInt8}
    (hP : (partRules sha fmt care t m).Stable P) (h : P w)
    (hs : s.hashValid = true → s.hasher = ⟨bytes, ""⟩) :
    (partRules sha fmt care t m).Safe
      (fun r w => P w ∧ (r.1 ≠ "" → care.Digest bytes r.1) ∧
        (s.hashValid = true → r.1 = "" → r.2 = ⟨bytes, ""⟩))
      (streamedHash s) w := by
  refine safe_ite (fun hvalid => ?_) fun hvalid => ?_
  · rw [hs hvalid]
    refine (safe_digestFinal hP h bytes).bind fun hex w hw => ?_
    refine safe_pure (hP.and (stable_const _)) ⟨hw.1, hw.2, fun _ he => ?_⟩
    rw [show hex = "" from he]
  · exact safe_pure (hP.and (stable_const _))
      ⟨h, fun hne => absurd rfl hne, fun hv => absurd hv hvalid⟩

theorem safe_wholeHash (h : SessionIs sha care m s acc d w)
    (htotal : s.received = s.fileSizeBytes) :
    (partRules sha fmt care t m).Safe
      (fun r w => ∃ hasher, r.2 = { s with hasher := hasher, finalHex := r.1 } ∧
        SessionIs sha care m r.2 acc d w)
      (wholeHash (resourceUploadingPartPath m) s) w := by
  have hstable : ∀ r : String × UploadSession,
      (partRules sha fmt care t m).Stable fun w =>
        ∃ hasher, r.2 = { s with hasher := hasher, finalHex := r.1 } ∧
          SessionIs sha care m r.2 acc d w :=
    fun r => stable_exists fun _ => (stable_const _).and stable_sessionIs
  have hall : d.take s.received = d := by
    rw [htotal]
    exact List.take_of_length_le h.received.short
  refine safe_ite (fun _ => safe_pure (hstable _) ⟨s.hasher, rfl, h⟩) fun hnone => ?_
  rw [not_not] at hnone
  refine (safe_streamedHash stable_sessionIs h fun hv => h.hash.2 hv hnone).bind
    fun r w hw => ?_
  obtain ⟨streamed, hasher⟩ := r
  obtain ⟨h, hstreamed, hhasher⟩ := hw
  refine safe_ite (fun hne => safe_pure (hstable _) ⟨hasher, rfl, ?_⟩) fun hempty => ?_
  · exact ⟨h.part, h.received, ⟨fun _ => ⟨htotal, hstreamed hne⟩, fun _ e => absurd e hne⟩, h.row⟩
  · rw [not_not] at hempty
    refine (safe_with (lockFact_db (dbFact_row m s.sha256)) (safe_sha256FileHex h.part)
      (files_ne_unlock (calls_files (sha256FileHex_observes _))) h.row).bind fun hex w hw => ?_
    obtain ⟨⟨hpart, hhex⟩, hrow⟩ := hw
    refine safe_pure (hstable _) ⟨hasher, rfl, hpart, h.received,
      ⟨fun hne => ⟨htotal, ?_⟩, fun hv _ => hhasher hv hempty⟩, hrow⟩
    rw [hall]
    exact hhex hne

theorem safe_wholeHashMismatch (h : SessionIs sha care task.messageId s acc d w)
    (hfw : Elsewhere task.messageId fw₀ fw) :
    Leaves sha fmt care t task.messageId fw₀ (wholeHashMismatch task s fw) w := by
  have hrowKept := lockFact_db (t := t) (dbFact_row task.messageId s.sha256)
  have hsame : ∀ {w : World}, SessionIs sha care task.messageId s acc d w →
      SessionIs sha care task.messageId
        { s with wholeHashMismatches := s.wholeHashMismatches + 1 } acc d w :=
    fun h => ⟨h.part, h.received, h.hash, h.row⟩
  refine safe_ite (fun _ => ?_) fun _ => ?_
  · refine safe_next (markResourceFailedDao_calls _ (quiet_of_hushed trivial))
      stable_sessionIs h fun _ w h => safe_ite (fun _ => ?_) fun _ => ?_
    · refine (safe_remove h.part).bind fun r w hw => ?_
      exact safe_sent (tableOk_erase hfw hw)
    · exact safe_sent (tableOk_put hfw (hsame h))
  · refine (safe_with hrowKept (safe_remove h.part) (calls_perform nofun) h.row).bind
      fun r w hw => ?_
    obtain ⟨hpart, hrow⟩ := hw
    -- the file is gone, and the upload starts over
    have hrestart : Part care task.messageId acc [] w →
        SessionIs sha care task.messageId
          { s with
            wholeHashMismatches := s.wholeHashMismatches + 1
            received := 0
            hasher := {}
            hashValid := true
            finalHex := "" } acc [] w :=
      fun hpart => ⟨hpart, received_zero, ⟨fun hne => absurd rfl hne, fun _ _ => rfl⟩, hrow⟩
    cases r with
    | failed =>
      exact safe_sent
        (tableOk_put hfw (hsame ⟨hpart, h.received, h.hash, hrow⟩))
    | removed | missing =>
      exact safe_sent (tableOk_put hfw (hrestart hpart))

/-! ### Publication -/

/-- A session whose file has the declared digest, and the table it is in. -/
structure Ready {sha : List UInt8 → String} (care : Care sha) (m : Int)
    (acc : Nat → Option (List UInt8)) (s : UploadSession) (d : List UInt8) (fw₀ fw : FileWorker) :
    Prop where
  received : Received acc s.fileSizeBytes s.received d
  hash : HashOk care s (d.take s.received)
  whole : Whole care acc s d
  entry : fw.uploadSessions m = some s
  elsewhere : Elsewhere m fw₀ fw

/-- Inside the critical section. -/
def Leaving {sha : List UInt8 → String} (care : Care sha) (t : Thread) (m : Int)
    (acc : Nat → Option (List UInt8))
    (s : UploadSession) (d : List UInt8) (w : World) : Prop :=
  Moved care m acc d w ∧ w.mutex = some t ∧ Row m s.sha256 w

/-- At its end. -/
def SectionEnds (sha : List UInt8 → String) (care : Care sha) (t : Thread) (m : Int)
    (fw₀ : FileWorker) (out : PublishOutcome) (w : World) : Prop :=
  w.mutex = some t ∧ (∃ acc d, Part care m acc d w) ∧
    ∀ fw, out = .replied fw → TableOk sha care m fw₀ fw w

theorem lockFact_leaving : LockFact t fun w => w.mutex = some t ∧ Row m s.sha256 w :=
  lockFact_holds.and (lockFact_db (dbFact_row m s.sha256))

theorem stable_leaving : (partRules sha fmt care t m).Stable (Leaving care t m acc s d) :=
  stable_moved.and lockFact_leaving.stable

theorem stable_sectionEnds (out : PublishOutcome) :
    (partRules sha fmt care t m).Stable (SectionEnds sha care t m fw₀ out) :=
  stable_holds.and ((stable_exists fun _ => stable_exists fun _ => stable_part).and
    (stable_forall fun _ => stable_imp stable_tableOk))

theorem sectionEnds_replied (hheld : w.mutex = some t) (h : TableOk sha care m fw₀ fw w) :
    SectionEnds sha care t m fw₀ (.replied fw) w := by
  refine ⟨hheld, h.2.1, fun fw' e => ?_⟩
  cases e
  exact h

theorem Moved.part (h : Moved care m acc d w) : ∃ acc d, Part care m acc d w := by
  obtain ⟨d', -, hpart⟩ := h
  exact ⟨acc, d', hpart⟩

theorem sectionEnds_published {seq : Nat} (h : Leaving care t m acc s d w) :
    SectionEnds sha care t m fw₀ (.published msg seq) w := ⟨h.2.1, h.1.part, nofun⟩

theorem safe_retryLater {error : ErrorCode}
    (hr : Ready care task.messageId acc s d fw₀ fw) (h : Leaving care t task.messageId acc s d w) :
    (partRules sha fmt care t task.messageId).Safe
      (SectionEnds sha care t task.messageId fw₀)
      (do return .replied (← retryLater task s error fw)) w := by
  obtain ⟨hmoved, hkept⟩ := h
  refine safe_bind ((safe_with lockFact_leaving (safe_restorePart hr.whole hmoved hkept.1)
    (files_ne_unlock (restorePart_files _ _ _)) hkept).bind fun r w hw => ?_)
  obtain ⟨serverOffset, fw'⟩ := r
  obtain ⟨hrestored, hheld, hrow⟩ := hw
  have htable : TableOk sha care task.messageId fw₀ fw' w := by
    rcases hrestored with ⟨rfl, hpart⟩ | ⟨rfl, d', hpart⟩
    · exact tableOk_of_session hr.elsewhere hr.entry ⟨hpart, hr.received, hr.hash, hrow⟩
    · exact tableOk_erase hr.elsewhere hpart
  refine safe_next (send_calls quiet_send)
    (stable_sectionEnds (.replied fw')) (sectionEnds_replied hheld htable) fun _ w hw => ?_
  exact safe_pure stable_safe (safe_pure (stable_sectionEnds _) hw)

/-- An answer inside the critical section. -/
theorem safe_replied {session : Nat} {reply : Reply} (hheld : w.mutex = some t)
    (h : TableOk sha care m fw₀ fw w) :
    (partRules sha fmt care t m).Safe (SectionEnds sha care t m fw₀)
      (call (.send session reply) >>= fun _ => pure (.replied fw)) w :=
  safe_then_pure (send_calls quiet_send) (stable_sectionEnds _) (sectionEnds_replied hheld h)

theorem tableOk_gone (hel : Elsewhere m fw₀ fw) (h : Leaving care t m acc s d w) :
    TableOk sha care m fw₀ (fw.erase m) w := by
  obtain ⟨⟨d', -, hpart⟩, -⟩ := h
  exact tableOk_erase hel hpart

theorem safe_publishCanonical
    (hr : Ready care task.messageId acc s d fw₀ fw) (h : Leaving care t task.messageId acc s d w) :
    (partRules sha fmt care t task.messageId).Safe
      (SectionEnds sha care t task.messageId fw₀) (publishCanonical task s fw) w := by
  refine safe_next (quiet_call trivial) stable_leaving h fun found w h => ?_
  cases found with
  | notFound => exact safe_replied h.2.1 (tableOk_gone hr.elsewhere h)
  | transient => exact safe_retryLater hr h
  | found msg =>
    refine safe_next (completeResourceUploadDao_calls _ _ fun _ => quiet_of_hushed trivial)
      stable_leaving h fun r w h => ?_
    obtain ⟨r, seq⟩ := r
    cases r with
    | published | alreadyPublished =>
      exact safe_pure (stable_sectionEnds _) (sectionEnds_published h)
    | notPending | notFound => exact safe_replied h.2.1 (tableOk_gone hr.elsewhere h)
    | transient => exact safe_retryLater hr h

theorem safe_installAndPublish
    (hr : Ready care task.messageId acc s d fw₀ fw) (h : Part care task.messageId acc d w)
    (hheld : w.mutex = some t) (hrow : Row task.messageId s.sha256 w) :
    (partRules sha fmt care t task.messageId).Safe
      (SectionEnds sha care t task.messageId fw₀) (installAndPublish task s fw) w := by
  refine safe_next (quiet_observes (ensureDirectoryDurable_observes _))
    (stable_part.and lockFact_leaving.stable) ⟨h, hheld, hrow⟩ fun _ w hw => ?_
  obtain ⟨h, hkept⟩ := hw
  refine safe_ite (fun _ => ?_) fun _ => safe_retryLater hr ⟨h.moved, hkept⟩
  refine (safe_with lockFact_leaving
    (safe_durableRename h hkept.2 hr.whole.digest.2 hr.whole.nonempty)
    (files_ne_unlock (durableRename_files (partPath_ne_blobPath _) _)) hkept).bind
    fun r w h => ?_
  obtain ⟨renamed, existed⟩ := r
  cases renamed with
  | false => exact safe_retryLater hr h
  | true =>
    cases existed with
    | false => exact safe_publishCanonical hr h
    | true =>
      refine safe_next (quiet_observes (blobTrusted_observes _ _)) stable_leaving h
        fun _ w h => safe_ite (fun _ => ?_) fun _ => safe_retryLater hr h
      obtain ⟨⟨d', hd', hpart⟩, hkept⟩ := h
      refine (safe_with lockFact_leaving (safe_remove hpart) (calls_perform nofun)
        hkept).bind fun r w hw => ?_
      refine safe_publishCanonical hr ⟨⟨_, ?_, hw.1⟩, hw.2⟩
      split
      · exact hd'
      · exact .inr rfl

/-- The end of the lock. -/
theorem safe_leave {out : PublishOutcome} (h : SectionEnds sha care t m fw₀ out w) :
    (partRules sha fmt care t m).Safe
      (fun _ w => (∃ acc d, Part care m acc d w) ∧
        ∀ fw, out = .replied fw → TableOk sha care m fw₀ fw w) (call .unlock) w := by
  refine safe_unlock ((stable_exists fun _ => stable_exists fun _ => stable_part).and
    (stable_forall fun _ => stable_imp stable_tableOk)) ?_ h.1 h.2
  -- nothing of this is about the lock
  have hpart : ∀ w x acc d, Part care m acc d w → Part care m acc d { w with mutex := x } :=
    fun w x acc d h => ⟨h.content, h.clear, h.there, h.journal⟩
  rintro w x ⟨⟨acc, d, hp⟩, htable⟩
  refine ⟨⟨acc, d, hpart w x acc d hp⟩, fun fw e => ⟨(htable fw e).1, ⟨acc, d, hpart w x acc d hp⟩,
    fun s hs => ?_⟩⟩
  obtain ⟨acc, d, h⟩ := (htable fw e).2.2 s hs
  exact ⟨acc, d, hpart w x acc d h.part, h.received, h.hash, h.row⟩

/-- The mutex is waited for. -/
theorem safe_lockSession (h : SessionIs sha care m s acc d w) :
    (partRules sha fmt care t m).Safe
      (fun _ w => w.mutex = some t ∧ SessionIs sha care m s acc d w) (call .lock) w :=
  safe_lock stable_sessionIs (fun _ _ h => ⟨⟨h.part.content, h.part.clear, h.part.there,
    h.part.journal⟩, h.received, h.hash, h.row⟩) h

theorem safe_publishUpload
    (hr : Ready care task.messageId acc s d fw₀ fw)
    (h : SessionIs sha care task.messageId s acc d w) :
    Leaves sha fmt care t task.messageId fw₀ (publishUpload task s fw) w := by
  refine safe_next (quiet_call trivial) stable_sessionIs h fun _ w h =>
    safe_ite (fun _ => ?_) fun _ => safe_sent
      (tableOk_of_session hr.elsewhere hr.entry h)
  refine (safe_lockSession h).bind fun _ w hw => ?_
  obtain ⟨hheld, h⟩ := hw
  refine (safe_installAndPublish hr h.part hheld h.row).bind fun out w hw => ?_
  refine (safe_leave hw).bind fun _ w hw => ?_
  cases out with
  | replied fw' => exact safe_pure stable_tableOk (hw.2 fw' rfl)
  | published msg seq =>
    obtain ⟨⟨acc, d, hpart⟩, -⟩ := hw
    refine safe_next (send_calls quiet_send) stable_part hpart
      fun _ w hpart => ?_
    exact safe_answer (quiet_call trivial) (tableOk_erase hr.elsewhere hpart)

theorem safe_completeResourceUpload
    (h : SessionIs sha care task.messageId s acc d w) (htotal : s.received = s.fileSizeBytes)
    (hpos : 0 < s.received) (hfw : Elsewhere task.messageId fw₀ fw) :
    Leaves sha fmt care t task.messageId fw₀ (completeResourceUpload task s fw) w := by
  refine (safe_wholeHash h htotal).bind fun r w hw => ?_
  obtain ⟨fullHash, s'⟩ := r
  obtain ⟨hasher, hs', h⟩ := hw
  obtain rfl : s' = { s with hasher := hasher, finalHex := fullHash } := hs'
  refine safe_ite (fun _ => ?_) fun hne => safe_ite (fun _ => ?_) fun heq => ?_
  · exact safe_sent (tableOk_put hfw h)
  · exact safe_wholeHashMismatch h (hfw.put _)
  · rw [not_not] at heq
    have hall : d.take s.received = d := by
      rw [htotal]
      exact List.take_of_length_le h.received.short
    have hdigest := (h.hash.1 hne).2
    have hacc := h.received.accepted
    have hlen : s.received ≤ d.length := h.received.le_length
    have hlen' : d.length ≤ s.fileSizeBytes := h.received.short
    rw [hall] at hdigest hacc
    refine safe_publishUpload ⟨h.received, h.hash, ⟨hacc, heq ▸ hdigest, ?_, ?_⟩,
      if_pos rfl, hfw.put _⟩ h
    · show d.length = s.received
      omega
    · rintro rfl
      rw [List.length_nil] at hlen
      omega

/-! ### Chunks -/

/-- The stream follows the bytes. -/
theorem advanceHash_follows {bytes : List UInt8} (offset : Nat) (data : List UInt8)
    (hs : s.hashValid = true → s.finalHex = "" → s.hasher = ⟨bytes, ""⟩) :
    (advanceHash s offset data).Returns fun s' => ∃ hasher ok,
      s' = { s with hasher := hasher, hashValid := ok } ∧
        (ok = true → s.finalHex = "" →
          hasher = ⟨if offset = s.received then bytes ++ data else bytes, ""⟩) := by
  refine returns_ite (fun hc => ?_) fun hc => ?_
  · refine returns_bind (returns_ite (fun hfinal => ?_) fun hfinal => ?_)
    · exact returns_pure (returns_pure ⟨_, false, rfl, nofun⟩)
    · refine returns_bind (returns_perform fun ok => ?_)
      refine returns_ite (fun _ => ?_) fun _ => returns_pure (returns_pure ⟨_, false, rfl, nofun⟩)
      refine returns_pure (returns_pure ⟨_, true, rfl, fun _ hhex => ?_⟩)
      rw [hs hc.2 hhex, if_pos hc.1]
  · refine returns_pure ⟨s.hasher, s.hashValid, rfl, fun hv hhex => ?_⟩
    rw [hs hv hhex, if_neg fun e => hc ⟨e, hv⟩]

/-- The digest after a chunk was accepted. -/
theorem HashOk.advance {d' : List UInt8} {offset received : Nat} {data : List UInt8}
    {hasher : Sha256Stream} {ok : Bool} (h : HashOk care s (d.take s.received))
    (hle : received ≤ s.fileSizeBytes) (hpos : 0 < data.length)
    (htake : offset = s.received ∧ received = s.received + data.length ∧
        d'.take received = d.take s.received ++ data ∨
      offset < s.received ∧ received = s.received ∧ d'.take received = d.take s.received)
    (hhasher : ok = true → s.finalHex = "" →
      hasher = ⟨if offset = s.received then d.take s.received ++ data else d.take s.received, ""⟩) :
    HashOk care { s with hasher := hasher, hashValid := ok, received := received }
      (d'.take received) := by
  rcases htake with ⟨rfl, hrec, hbytes⟩ | ⟨hlt, rfl, hbytes⟩
  · refine ⟨fun hne => ?_, fun hv hhex => ?_⟩
    · -- a digest was taken, so there is nothing to append
      have htotal := (h.1 hne).1
      omega
    · rw [hbytes]
      have hh := hhasher hv hhex
      rwa [if_pos rfl] at hh
  · rw [hbytes]
    refine ⟨h.1, fun hv hhex => ?_⟩
    have hh := hhasher hv hhex
    rwa [if_neg (Nat.ne_of_lt hlt)] at hh

theorem safe_receiveChunk
    (h : SessionIs sha care task.messageId s acc d w) (hfw : Elsewhere task.messageId fw₀ fw) :
    Leaves sha fmt care t task.messageId fw₀ (receiveChunk task s fw) w := by
  have hrowKept := lockFact_db (t := t) (dbFact_row task.messageId s.sha256)
  refine (safe_with hrowKept (safe_writeUploadChunk h.part h.received)
    (files_ne_unlock (writeUploadChunk_files _ _ _ _ _ _ _)) h.row).bind fun r w hw => ?_
  obtain ⟨error, received⟩ := r
  obtain ⟨⟨d', hpart, hbad, hgood⟩, hrow⟩ := hw
  refine safe_ite (fun herror => ?_) fun herror => ?_
  · exact safe_sent (tableOk_put hfw
      ⟨hpart, hbad herror, ⟨fun hne => absurd rfl hne, nofun⟩, hrow⟩)
  · obtain ⟨hrec, hpos, htake⟩ := hgood (not_not.mp herror)
    refine (safe_with hrowKept (safe_note hpart hrec.kept) (calls_perform nofun)
      hrow).bind fun _ w hw => ?_
    refine safe_then (quiet_observes (advanceHash_observes _ _ _))
      (advanceHash_follows _ _ h.hash.2) (stable_part.and hrowKept.stable) hw
      fun s' w hs' hw => ?_
    obtain ⟨hasher, ok, rfl, hhasher⟩ := hs'
    have hsession : SessionIs sha care task.messageId
        { s with
          challengeActive := false
          challengeSuppressed := true
          hasher := hasher
          hashValid := ok
          received := received } (acceptChunk acc task.offset task.fileData) d' w :=
      ⟨hw.1, hrec, h.hash.advance hrec.le_total hpos htake hhasher, hw.2⟩
    refine safe_ite (fun htotal => ?_) fun _ => ?_
    · refine safe_completeResourceUpload hsession htotal ?_ (hfw.put _)
      show 0 < received
      rcases htake with ⟨-, hr, -⟩ | ⟨hlt, hr, -⟩ <;> dsimp only at hr <;> omega
    · exact safe_sent (tableOk_put hfw hsession)

theorem safe_uploadChunk {uid : Int}
    (h : SessionIs sha care task.messageId s acc d w)
    (hentry : fw.uploadSessions task.messageId = some s) (hfw : Elsewhere task.messageId fw₀ fw) :
    Leaves sha fmt care t task.messageId fw₀ (uploadChunk task uid s fw) w :=
  safe_ite (fun _ => safe_sent
      (tableOk_of_session hfw hentry h))
    fun _ => safe_receiveChunk h hfw

theorem stable_readRow (msg : ChatMessage) :
    (partRules sha fmt care t m).Stable (ReadRow m msg) :=
  dbFact_stable (dbFact_readRow m msg)

/-- A message that was read, with the row it was read from. -/
theorem safe_getChatMsgById (hP : (partRules sha fmt care t m).Stable P) (h : P w) :
    (partRules sha fmt care t m).Safe
      (fun r w => P w ∧ ∀ msg, r = .found msg → ReadRow m msg w) (call (.getChatMsgById m)) w :=
  safe_look trivial hP h (fun _ => stable_forall fun msg => stable_imp (stable_readRow msg))
    fun _ _ _ _ _ he msg e => readRow_of_resourceMessage ((exec_getChatMsgById he).1 msg e)

/-- A session that was made from the file. -/
theorem safe_loadUploadSession {Q : FileWorker → World → Prop}
    {f : Option UploadSession × FileWorker → Prog FileWorker} (h : Part care m acc d w)
    (hread : ReadRow m msg w) (hnone : ∀ w d, Part care m acc d w →
      (partRules sha fmt care t m).Safe Q (f (none, fw)) w)
    (hsome : ∀ s w d, SessionIs sha care m s acc d w →
      (partRules sha fmt care t m).Safe Q (f (some s, fw.put m s)) w) :
    (partRules sha fmt care t m).Safe Q (fw.loadUploadSession m msg >>= f) w := by
  unfold FileWorker.loadUploadSession
  cases hres : msg.resource with
  | none => exact hnone w d h
  | some q =>
    refine safe_bind ((safe_with (lockFact_db (dbFact_row m q.sha256))
      (safe_recoverUploadFile h q.fileSizeBytes)
      (files_ne_unlock (recoverUploadFile_files _ _ _)) (hread q hres)).bind fun r w hw => ?_)
    obtain ⟨⟨d', hpart, hrec⟩, hrow⟩ := hw
    cases r with
    | none => exact safe_pure stable_safe (hnone w d' hpart)
    | some received =>
      obtain ⟨hlen, hacc, htotal, hdvd⟩ := hrec received rfl
      have hP : (partRules sha fmt care t m).Stable fun w =>
          Part care m acc d' w ∧ Row m q.sha256 w :=
        stable_part.and (dbFact_stable (dbFact_row m q.sha256))
      refine safe_next (quiet_call trivial) hP ⟨hpart, hrow⟩ fun now w hw => ?_
      refine safe_next (quiet_call fun _ => rfl) hP hw
        fun _ w hw => safe_pure stable_safe (hsome _ w d' ⟨hw.1, ?_, ⟨nofun, ?_⟩, hw.2⟩)
      · have htake : d'.take received = d' := List.take_of_length_le hlen.le
        exact ⟨htake.symm ▸ hacc, hlen.ge, htotal, .inl hdvd, by dsimp only; omega,
          by dsimp only; omega⟩
      · intro hv _
        have h0 : received = 0 := of_decide_eq_true hv
        subst h0
        rfl

/-- A table without the session. -/
theorem tableOk_of_none (h : Elsewhere m fw₀ fw) (hfw : fw.uploadSessions m = none)
    (hp : Part care m acc d w) : TableOk sha care m fw₀ fw w := by
  refine ⟨h, ⟨acc, d, hp⟩, fun s hs => ?_⟩
  rw [hfw] at hs
  cases hs

theorem put_self (fw : FileWorker) (m : Int) (s : UploadSession) :
    (fw.put m s).uploadSessions m = some s := if_pos rfl

theorem safe_reloadForChunk {uid : Int}
    (h : Part care task.messageId acc d w) (hnone : fw.uploadSessions task.messageId = none)
    (hfw : Elsewhere task.messageId fw₀ fw) :
    Leaves sha fmt care t task.messageId fw₀ (reloadForChunk task uid fw) w := by
  have hok : ∀ {w : World} {d : List UInt8}, Part care task.messageId acc d w →
      TableOk sha care task.messageId fw₀ fw w := tableOk_of_none hfw hnone
  refine (safe_getChatMsgById stable_part h).bind fun found w hw => ?_
  obtain ⟨h, hfound⟩ := hw
  cases found with
  | notFound | transient => exact safe_sent (hok h)
  | found msg =>
    refine safe_ite (fun _ => safe_sent (hok h)) fun _ => safe_ite (fun _ => safe_sent (hok h))
      fun _ => ?_
    cases msg.status with
    | published | failed => exact safe_sent (hok h)
    | pending =>
      exact safe_loadUploadSession h (hfound msg rfl) (fun w d h => safe_sent (hok h))
        fun s w d h => safe_uploadChunk h (put_self _ _ _) (hfw.put s)

theorem safe_handleResourceChunk
    (h : EntryOk sha care task.messageId fw w) :
    Leaves sha fmt care t task.messageId fw (handleResourceChunk task fw) w := by
  have hrefl := Elsewhere.refl task.messageId fw
  refine safe_next (quiet_call trivial) stable_entryOk h fun _ w h =>
    safe_ite (fun _ => ?_) fun _ => safe_pure stable_tableOk ⟨hrefl, h⟩
  refine safe_next (quiet_call trivial) stable_entryOk h fun now w h => ?_
  refine safe_next (quiet_call trivial) stable_entryOk h fun uid w h => ?_
  refine safe_next (quiet_call fun _ => rfl) stable_entryOk h fun _ w h => ?_
  refine safe_then (quiet_observes (findUploadSession_observes _ _)) (findUploadSession_returns _ _)
    stable_entryOk h fun r w hr h => ?_
  have hevict := elsewhere_evictIdle task.messageId fw now
  obtain ⟨hnone, rfl⟩ | ⟨s, now', hs, rfl⟩ := hr
  · obtain ⟨⟨acc, d, hp⟩, -⟩ := h
    exact safe_reloadForChunk hp hnone hevict
  · have hold : fw.uploadSessions task.messageId = some s :=
      (Option.filter_eq_some_iff.mp hs).1
    obtain ⟨acc, d, hs⟩ := h.2 s hold
    exact safe_uploadChunk (s := { s with lastActive := now' })
      ⟨hs.part, hs.received, hs.hash, hs.row⟩ (put_self _ _ _) (hevict.put _)

/-! ### The progress query -/

theorem safe_pendingProgress {task : ProgressTask}
    (h : SessionIs sha care task.messageId s acc d w)
    (hentry : fw.uploadSessions task.messageId = some s) (hfw : Elsewhere task.messageId fw₀ fw) :
    Leaves sha fmt care t task.messageId fw₀ (pendingProgress task msg q s fw) w := by
  have hsucceed : ∀ {w : World} {n : Nat}, SessionIs sha care task.messageId s acc d w →
      Leaves sha fmt care t task.messageId fw₀ (do task.succeed msg n; return fw) w :=
    fun h => safe_sent
      (tableOk_of_session hfw hentry h)
  refine safe_ite (fun _ => ?_) fun _ => hsucceed h
  refine safe_next (quiet_call trivial) stable_sessionIs h fun known w h => ?_
  cases known with
  | transient =>
    exact safe_sent (tableOk_of_session hfw hentry h)
  | no => exact hsucceed h
  | yes =>
    refine safe_next (quiet_call trivial) stable_sessionIs h fun size w h =>
      safe_ite (fun _ => ?_) fun _ => hsucceed h
    refine safe_then (issueChallenge_calls _ _ _
      (fun _ h => quiet_of_hushed (hushed_of_observes h)) (fun _ _ _ => quiet_send _ _)
      fun _ _ _ _ _ _ => quiet_of_hushed fun _ => rfl) (issueChallenge_returns _ _ _)
      stable_sessionIs h fun r w hr h => ?_
    obtain rfl | ⟨nonceRaw, offset, length, now, rfl⟩ := hr
    · exact hsucceed h
    · exact safe_pure stable_tableOk (tableOk_put hfw ⟨h.part, h.received, h.hash, h.row⟩)

theorem safe_handleResourceUploadProgress {task : ProgressTask}
    (h : EntryOk sha care task.messageId fw w) :
    Leaves sha fmt care t task.messageId fw (handleResourceUploadProgress task fw) w := by
  have hrefl := Elsewhere.refl task.messageId fw
  refine (safe_getChatMsgById stable_entryOk h).bind fun found w hw => ?_
  obtain ⟨h, hfound⟩ := hw
  cases found with
  | notFound | transient => exact safe_sent ⟨hrefl, h⟩
  | found msg =>
    have hread := hfound msg rfl
    refine safe_ite (fun _ => safe_sent ⟨hrefl, h⟩) fun _ => ?_
    cases hres : msg.resource with
    | none => exact safe_sent ⟨hrefl, h⟩
    | some q =>
      refine safe_ite (fun _ => safe_sent ⟨hrefl, h⟩) fun _ => ?_
      cases msg.status with
      | published => exact safe_sent ⟨hrefl, h⟩
      | failed =>
        obtain ⟨⟨acc, d, hp⟩, -⟩ := h
        exact safe_sent (tableOk_erase hrefl hp)
      | pending =>
        refine safe_then (quiet_observes (findUploadSession_observes _ _))
          (findUploadSession_returns _ _) (stable_entryOk.and (stable_readRow msg)) ⟨h, hread⟩
          fun r w hr hw => ?_
        obtain ⟨⟨⟨acc, d, hp⟩, hsessions⟩, hread⟩ := hw
        obtain ⟨hnone, rfl⟩ | ⟨s, now, hs, rfl⟩ := hr
        · exact safe_loadUploadSession hp hread
            (fun w d h => safe_sent (tableOk_of_none hrefl hnone h))
            fun s w d h => safe_pendingProgress h (put_self _ _ _) (hrefl.put s)
        · obtain ⟨acc, d, hs⟩ := hsessions s hs
          exact safe_pendingProgress (s := { s with lastActive := now })
            ⟨hs.part, hs.received, hs.hash, hs.row⟩ (put_self _ _ _) (hrefl.put _)

/-! ### The instant proof -/

theorem safe_proveAndPublish {task : ProofTask} (h : SessionIs sha care task.messageId s acc d w)
    (hheld : w.mutex = some t) (hentry : fw.uploadSessions task.messageId = some s)
    (hfw : Elsewhere task.messageId fw₀ fw) :
    (partRules sha fmt care t task.messageId).Safe
      (SectionEnds sha care t task.messageId fw₀) (proveAndPublish task msg q s fw) w := by
  have hstable : (partRules sha fmt care t task.messageId).Stable fun w =>
      SessionIs sha care task.messageId s acc d w ∧ w.mutex = some t :=
    stable_sessionIs.and stable_holds
  refine safe_next (checkProof_calls _ _ _ (fun _ h => quiet_of_hushed (hushed_of_observes h))
    fun _ _ _ => quiet_of_hushed fun _ => rfl) hstable ⟨h, hheld⟩
    fun r w hw => ?_
  obtain ⟨h, hheld⟩ := hw
  cases r with
  | some e => exact safe_replied hheld (tableOk_put hfw ⟨h.part, h.received, h.hash, h.row⟩)
  | none =>
    refine safe_next (completeResourceUploadDao_calls _ _ fun _ => quiet_of_hushed trivial)
      hstable ⟨h, hheld⟩ fun r w hw => ?_
    obtain ⟨h, hheld⟩ := hw
    obtain ⟨r, seq⟩ := r
    cases r with
    | published | alreadyPublished =>
      exact safe_pure (stable_sectionEnds _) ⟨hheld, ⟨acc, d, h.part⟩, nofun⟩
    | notPending | notFound => exact safe_replied hheld (tableOk_erase hfw h.part)
    | transient => exact safe_replied hheld (tableOk_of_session hfw hentry h)

theorem safe_answerChallenge {task : ProofTask} (h : SessionIs sha care task.messageId s acc d w)
    (hentry : fw.uploadSessions task.messageId = some s) :
    Leaves sha fmt care t task.messageId fw (answerChallenge task msg q s fw) w := by
  have hrefl := Elsewhere.refl task.messageId fw
  refine safe_next (quiet_call trivial) stable_sessionIs h fun now w h => ?_
  refine safe_next (quiet_call fun _ => rfl) stable_sessionIs h fun _ w h => ?_
  refine safe_ite (fun _ => safe_sent
    (tableOk_of_session hrefl hentry h)) fun _ => ?_
  refine safe_ite (fun _ => safe_sent
    (tableOk_put hrefl ⟨h.part, h.received, h.hash, h.row⟩)) fun _ => ?_
  refine (safe_lockSession h).bind fun _ w hw => ?_
  obtain ⟨hheld, h⟩ := hw
  refine (safe_proveAndPublish (s := { s with challengeActive := false })
    ⟨h.part, h.received, h.hash, h.row⟩ hheld (put_self _ _ _) (hrefl.put _)).bind
    fun out w hw => ?_
  refine (safe_leave hw).bind fun _ w hw => ?_
  cases out with
  | replied fw' => exact safe_pure stable_tableOk (hw.2 fw' rfl)
  | published msg seq =>
    obtain ⟨⟨acc, d, hpart⟩, -⟩ := hw
    refine (safe_remove hpart).bind fun r w hpart => ?_
    refine safe_next (send_calls quiet_send) stable_part hpart
      fun _ w hpart => ?_
    exact safe_answer (quiet_call trivial) (tableOk_erase (hrefl.put _) hpart)

theorem safe_handleInstantProof {task : ProofTask} (h : EntryOk sha care task.messageId fw w) :
    Leaves sha fmt care t task.messageId fw (handleInstantProof task fw) w := by
  have hrefl := Elsewhere.refl task.messageId fw
  refine safe_next (quiet_call fun _ => rfl) stable_entryOk h fun _ w h => ?_
  refine (safe_getChatMsgById stable_entryOk h).bind fun found w hw => ?_
  have h := hw.1
  obtain ⟨⟨acc, d, hpart⟩, hsessions⟩ := hw.1
  cases found with
  | notFound => exact safe_sent (tableOk_erase hrefl hpart)
  | transient => exact safe_sent ⟨hrefl, h⟩
  | found msg =>
    dsimp only
    cases hres : msg.resource with
    | none => exact safe_sent ⟨hrefl, h⟩
    | some q =>
      refine safe_ite (fun _ => safe_sent ⟨hrefl, h⟩) fun _ => ?_
      cases msg.status with
      | published =>
        refine (safe_remove hpart).bind fun r w hpart => ?_
        exact safe_sent (tableOk_erase hrefl hpart)
      | failed => exact safe_sent (tableOk_erase hrefl hpart)
      | pending =>
        cases hs : fw.uploadSessions task.messageId with
        | none => exact safe_sent ⟨hrefl, h⟩
        | some s =>
          obtain ⟨acc, d, hsession⟩ := hsessions s hs
          exact safe_answerChallenge hsession hs

end LlfcChat.Resource.Upload
