/-
Publication under the lock.

The argument is about `BlobInstallGcMutex`.  Whoever holds it can rely on two
things: no blob goes away and no picture or file is published by anybody else.
So a publisher who has seen the blob can publish, and the collector who has
seen that no published message refers to a blob can remove it.  Sessions come
into it because a publisher looks for the blob of the digest in its session;
that digest is the one of the message's row, and rows do not change.

The same walk through the handlers checks what they answer: whoever reports a
publication has seen it committed, and the database does not take it back.
-/
import LlfcChat.Resource.Replies

namespace LlfcChat.Resource

open Conc Conc.Rules FileSystem Replies
open Conc.Prog hiding pure bind

/-! ### Rules -/

/-- The blob is on disk. -/
def HasBlob (w : World) (h : String) : Prop := (w.disk.names (resourceBlobPath h)).isSome

/-- The tables are in order, every published picture or file has its blob, and all
that was said is true. -/
structure PublishInv (w : World) : Prop where
  consistent : w.db.Consistent
  numbered : w.db.Budget ∧ w.db.Numbered
  blobs : ∀ m r, w.db.PublishedResource m → w.db.messageResource m.messageId = some r →
    HasBlob w r.sha256
  sent : ∀ x ∈ w.sent, Truthful w.db x.2
  notified : ∀ n ∈ w.notified, TrueNotice w.db n

/-- What a thread relies on. -/
structure PublishRely (t : Thread) (w w' : World) : Prop where
  db : Changes w.db w'.db
  mutex : w.mutex = some t → w'.mutex = some t
  blobs : w.mutex = some t → KeepsBlobs w w'
  published : w.mutex = some t → ∀ m, w'.db.PublishedResource m → w.db.PublishedResource m

theorem PublishRely.refl (t : Thread) (w : World) : PublishRely t w w where
  db := .refl
  mutex := id
  blobs _ := .refl w
  published _ _ := id

variable {msg : ChatMessage} {task : ChunkTask} {q : MessageResource} {w w' : World}
  {P : World → Prop} {fw : FileWorker} {m : Int} {s : UploadSession} {seq : Nat} {reply : Reply}

theorem PublishRely.trans {t : Thread} {w'' : World} (h : PublishRely t w w')
    (h' : PublishRely t w' w'') : PublishRely t w w'' where
  db := Relation.ReflTransGen.trans h.db h'.db
  mutex hw := h'.mutex (h.mutex hw)
  blobs hw s i hi := h'.blobs (h.mutex hw) s i (h.blobs hw s i hi)
  published hw m hm := h.published hw m (h'.published (h.mutex hw) m hm)

variable (sha : List UInt8 → String) (fmt : Int → String)

/-- A thread must give the others what they rely on, and speak the truth. -/
@[reducible] def publishRules (t : Thread) : Rules Op Res World where
  sem := (server sha fmt anything).sem t
  inv := PublishInv
  rely := PublishRely t
  guar op w w' := (∀ t', t' ≠ t → PublishRely t' w w') ∧ CallOk w op
  rely_refl := PublishRely.refl t
  rely_trans _ _ _ := PublishRely.trans

variable {sha fmt} {t : Thread}

/-! ### Harmless calls -/

/-- Calls on files, answers that cannot be false, and transactions that do not publish. -/
def Op.Harmless : Op → Prop
  | .send _ reply => ∀ db, Truthful db reply
  | .note .. => True
  | .dao c _ => c.publishes = none
  | op => op.Files

theorem Op.Files.harmless {op : Op} (h : op.Files) : op.Harmless := by
  cases op <;> first | exact h | exact h.elim

/-- Nothing but the disk is different, and the blobs are there. -/
theorem publishRely_of_disk (hdb : w'.db = w.db) (hmutex : w'.mutex = w.mutex)
    (hblobs : KeepsBlobs w w') (t : Thread) : PublishRely t w w' where
  db := hdb ▸ .refl
  mutex h := hmutex ▸ h
  blobs _ := hblobs
  published _ _ h := hdb ▸ h

section Inv

variable (h : PublishInv w)

include h

/-- The database goes on, and what is published has its blob. -/
theorem PublishInv.go (hdb : Changes w.db w'.db)
    (hblobs : ∀ m r, w'.db.PublishedResource m → w'.db.messageResource m.messageId = some r →
      HasBlob w' r.sha256)
    (hsent : w'.sent = w.sent) (hnotified : w'.notified = w.notified) : PublishInv w' where
  consistent := hdb.consistent h.consistent
  numbered := hdb.numbered h.numbered
  blobs := hblobs
  sent x hx := (h.sent x (hsent ▸ hx)).changes hdb
  notified n hn := (h.notified n (hnotified ▸ hn)).changes hdb

theorem PublishInv.of_disk (hdb : w'.db = w.db) (hblobs : KeepsBlobs w w')
    (hsent : w'.sent = w.sent) (hnotified : w'.notified = w.notified) : PublishInv w' := by
  refine h.go (hdb ▸ .refl) (fun m r hm hr => ?_) hsent hnotified
  rw [hdb] at hm hr
  exact hblobs.isSome (h.blobs m r hm hr)

/-- The database goes on without a publication. -/
theorem PublishInv.of_changes (hdb : Changes w.db w'.db)
    (hpub : ∀ m, w'.db.PublishedResource m → w.db.PublishedResource m) (hdisk : w'.disk = w.disk)
    (hsent : w'.sent = w.sent) (hnotified : w'.notified = w.notified) : PublishInv w' := by
  refine h.go hdb (fun m r hm hr => ?_) hsent hnotified
  have hrow := hdb.resource_back h.consistent (hpub m hm).1 hr
  have hblob := h.blobs m r (hpub m hm) hrow
  unfold HasBlob at hblob ⊢
  rw [hdisk]
  exact hblob

theorem PublishInv.send {session : Nat} (hreply : Truthful w.db reply) :
    PublishInv { w with sent := w.sent ++ [⟨session, reply⟩] } :=
  { h with
    sent := fun x hx => by
      rcases List.mem_append.mp hx with hx | hx
      · exact h.sent x hx
      · rw [List.mem_singleton.mp hx]
        exact hreply }

end Inv

theorem quiet_of_harmless {op : Op} (h : op.Harmless) : (publishRules sha fmt t).Quiet op := by
  rintro w r w' hinv ⟨c, -, he⟩
  have spread : ∀ {w₁ : World}, (∀ t, PublishRely t w w₁) → CallOk w op → PublishInv w₁ →
      ((∀ t', t' ≠ t → PublishRely t' w w₁) ∧ CallOk w op) ∧ PublishInv w₁ ∧ PublishRely t w w₁ :=
    fun hr hop hi => ⟨⟨fun t' _ => hr t', hop⟩, hi, hr t⟩
  cases op with
  | send session reply =>
    obtain rfl := exec_send he
    exact spread (publishRely_of_disk rfl rfl fun _ _ h => h) (h w.db) (hinv.send (h w.db))
  | note m e =>
    obtain rfl := exec_note he
    exact spread (publishRely_of_disk rfl rfl fun _ _ h => h) trivial
      (hinv.of_disk rfl (fun _ _ h => h) rfl rfl)
  | dao call attempt =>
    obtain ⟨-, rfl⟩ := exec_dao he
    have hch : Changes w.db (call.turn attempt c.faults w.db).1 := turn_changes _ _ _ _
    have hpub : ∀ m, (call.turn attempt c.faults w.db).1.PublishedResource m →
        w.db.PublishedResource m := by
      intro m hm
      rcases turn_publishes call attempt c.faults w.db hm with hm | hm
      · exact hm
      · have hnone : call.publishes = none := h
        rw [hnone] at hm
        cases hm
    exact spread (fun t' => ⟨hch, id, fun _ => .refl _, fun _ => hpub⟩) trivial
      (hinv.of_changes hch hpub rfl rfl rfl)
  | post n => exact h.elim
  | _ =>
    have hfiles := fun hop => exec_files hop he
    obtain ⟨⟨d, rfl⟩, hblobs⟩ := hfiles h
    exact spread (publishRely_of_disk rfl rfl hblobs) trivial (hinv.of_disk rfl hblobs rfl rfl)

/-! ### Under the lock -/

/-- What is known of the database for good. -/
def DbFact (P : World → Prop) : Prop := ∀ w w', Changes w.db w'.db → P w → P w'

theorem DbFact.stable (h : DbFact P) : (publishRules sha fmt t).Stable P :=
  fun w w' hw hrely _ => h w w' hrely.db hw

theorem DbFact.and {P' : World → Prop} (h : DbFact P) (h' : DbFact P') :
    DbFact fun w => P w ∧ P' w := fun w w' hc hw => ⟨h w w' hc hw.1, h' w w' hc hw.2⟩

/-- The row of a message has this digest. -/
def Row (m : Int) (h : String) (w : World) : Prop :=
  ∃ r, w.db.messageResource m = some r ∧ r.sha256 = h

theorem dbFact_row (m : Int) (h : String) : DbFact (Row m h) := by
  rintro w w' hc ⟨r, hr, hsha⟩
  exact ⟨r, hc.keepsResource hr, hsha⟩

/-- An event with this number tells of the message. -/
def Announced (m : Int) (seq : Nat) (w : World) : Prop := w.db.AnnouncedAs m seq

theorem dbFact_announced (m : Int) (seq : Nat) : DbFact (Announced m seq) :=
  fun _ _ hc hw => hw.changes hc

/-- The thread holds the lock and the blob is there. -/
def Held (t : Thread) (h : String) (w : World) : Prop := w.mutex = some t ∧ HasBlob w h

theorem stable_mutex : (publishRules sha fmt t).Stable fun w => w.mutex = some t :=
  fun _ _ hw hrely _ => hrely.mutex hw

theorem stable_held (h : String) : (publishRules sha fmt t).Stable (Held t h) :=
  fun _ _ hw hrely _ => ⟨hrely.mutex hw.1, (hrely.blobs hw.1).isSome hw.2⟩

section Lock

variable {P : World → Prop} (hP : DbFact P)
include hP

/-- Taking the lock. -/
theorem safe_lock (h : P w) :
    (publishRules sha fmt t).Safe (fun _ w => w.mutex = some t ∧ P w) (call .lock) w := by
  refine safe_perform hP.stable h (fun _ => stable_mutex.and hP.stable) ?_
  rintro w r w' hw hinv ⟨c, -, he⟩
  obtain ⟨nobody, rfl⟩ := exec_lock he
  exact ⟨⟨fun t' _ => ⟨.refl, fun e => absurd e (nobody t'), fun _ => .refl _, fun _ _ => id⟩,
    trivial⟩, hinv.of_disk rfl (fun _ _ h => h) rfl rfl, rfl, hP w _ .refl hw⟩

/-- Giving it back. -/
theorem safe_unlock (hmutex : w.mutex = some t) (h : P w) :
    (publishRules sha fmt t).Safe (fun _ => P) (call .unlock) w := by
  refine safe_perform (stable_mutex.and hP.stable) ⟨hmutex, h⟩ (fun _ => hP.stable) ?_
  rintro w r w' ⟨hw, hPw⟩ hinv ⟨c, -, he⟩
  obtain rfl := exec_unlock he
  exact ⟨⟨fun t' hne => ⟨.refl, fun e => absurd e (ne_of_holder hw hne), fun _ => .refl _,
    fun _ _ => id⟩, trivial⟩, hinv.of_disk rfl (fun _ _ h => h) rfl rfl, hP w _ .refl hPw⟩

/-- A turn of the publication of a message whose blob is there; what it reports is
committed. -/
theorem safe_publish {sender : Int} {attempt : Nat} {h : String} (hheld : Held t h w)
    (hrow : Row m h w) (hPw : P w) :
    (publishRules sha fmt t).Safe (fun out w => (Held t h w ∧ Row m h w ∧ P w) ∧
        ∀ r seq, out = .returned (.publish r seq) → r.Succeeds → Announced m seq w)
      (call (.dao (.completeResourceUpload m sender) attempt)) w := by
  have hstable : (publishRules sha fmt t).Stable fun w => Held t h w ∧ Row m h w ∧ P w :=
    (stable_held h).and ((dbFact_row m h).and hP).stable
  refine safe_perform hstable ⟨hheld, hrow, hPw⟩ (fun _ => hstable.and (stable_forall fun _ =>
    stable_forall fun seq => stable_imp (stable_imp (dbFact_announced m seq).stable))) ?_
  rintro w out w' ⟨⟨hmutex, hblob⟩, ⟨r₀, hr₀, hsha⟩, hPw⟩ hinv ⟨c, -, he⟩
  obtain ⟨rfl, rfl⟩ := exec_dao he
  have hch : Changes w.db ((Call.completeResourceUpload m sender).turn attempt c.faults w.db).1 :=
    turn_changes _ _ _ _
  refine ⟨⟨fun t' hne => ⟨hch, id, fun _ => .refl _, fun e => absurd e (ne_of_holder hmutex hne)⟩,
    trivial⟩, hinv.go hch (fun n r hn hr => ?_) rfl rfl,
    ⟨⟨hmutex, hblob⟩, ⟨r₀, hch.keepsResource hr₀, hsha⟩, hP w _ hch hPw⟩,
    fun _ _ => turn_announces⟩
  rcases turn_publishes _ attempt c.faults w.db hn with hold | hnew
  · exact hinv.blobs n r hold (hch.resource_back hinv.consistent hold.1 hr)
  · -- the message that was published is this one, and its blob has been seen
    have hid : m = n.messageId := Option.some.inj hnew
    rw [← hid] at hr
    rw [← Option.some.inj ((hch.keepsResource hr₀).symm.trans hr), hsha]
    exact hblob

theorem safe_completeResourceUploadDao {sender : Int} {h : String} (hheld : Held t h w)
    (hrow : Row m h w) (hPw : P w) :
    (publishRules sha fmt t).Safe
      (fun r w => (w.mutex = some t ∧ P w) ∧ (r.1.Succeeds → Announced m r.2 w))
      (completeResourceUploadDao m sender) w := by
  have hend : ∀ r : PublishResult × Nat, (publishRules sha fmt t).Stable fun w =>
      (w.mutex = some t ∧ P w) ∧ (r.1.Succeeds → Announced m r.2 w) :=
    fun r => (stable_mutex.and hP.stable).and (stable_imp (dbFact_announced m r.2).stable)
  have hloop : ∀ left attempt w, Held t h w → Row m h w → P w → (publishRules sha fmt t).Safe
      (fun r w => (w.mutex = some t ∧ P w) ∧ (r.1.Succeeds → Announced m r.2 w))
        (completeAttempts m sender left attempt) w := by
    intro left
    induction left with
    | zero => exact fun _ w hheld _ hPw => safe_pure (hend _) ⟨⟨hheld.1, hPw⟩, nofun⟩
    | succ left ih =>
      intro attempt w hheld hrow hPw
      refine (safe_publish hP hheld hrow hPw).bind fun out w hw => ?_
      obtain ⟨⟨hheld, hrow, hPw⟩, hout⟩ := hw
      cases out with
      | returned res =>
        cases res with
        | publish r seq => exact safe_pure (hend _) ⟨⟨hheld.1, hPw⟩, hout r seq rfl⟩
        | _ => exact safe_pure (hend _) ⟨⟨hheld.1, hPw⟩, nofun⟩
      | retry c => exact ih _ w hheld hrow hPw
      | threw => exact safe_pure (hend _) ⟨⟨hheld.1, hPw⟩, nofun⟩
  exact hloop _ _ w hheld hrow hPw

/-- An answer that is known to be true. -/
theorem safe_report {session : Nat} (h : P w)
    (htrue : ∀ w, P w → PublishInv w → Truthful w.db reply) :
    (publishRules sha fmt t).Safe (fun _ => P) (call (.send session reply)) w := by
  refine safe_perform hP.stable h (fun _ => hP.stable) ?_
  rintro w r w' hw hinv ⟨c, -, he⟩
  obtain rfl := exec_send he
  exact ⟨⟨fun t' _ => ⟨.refl, id, fun _ => .refl _, fun _ _ => id⟩, htrue w hw hinv⟩,
    hinv.send (htrue w hw hinv), hP w _ .refl hw⟩

/-- The recipient is told. -/
theorem safe_post {n : Notification} (hseq : Announced n.messageId seq w) (h : P w) :
    (publishRules sha fmt t).Safe (fun _ => P) (call (.post n)) w := by
  refine safe_perform ((dbFact_announced n.messageId seq).and hP).stable ⟨hseq, h⟩
    (fun _ => hP.stable) ?_
  rintro w r w' ⟨hseq, hw⟩ hinv ⟨c, -, he⟩
  obtain rfl := exec_post he
  refine ⟨⟨fun t' _ => ⟨.refl, id, fun _ => .refl _, fun _ _ => id⟩, seq, hseq⟩,
    { hinv with notified := fun n' hn' => ?_ }, hP w _ .refl hw⟩
  rcases List.mem_append.mp hn' with hn' | hn'
  · exact hinv.notified n' hn'
  · rw [List.mem_singleton.mp hn']
    exact ⟨seq, hseq⟩

end Lock

/-! ### The upload handlers -/

/-- The digests of the sessions are those of the rows. -/
def Rows (fw : FileWorker) (w : World) : Prop :=
  ∀ m s, fw.uploadSessions m = some s → Row m s.sha256 w

theorem dbFact_rows (fw : FileWorker) : DbFact (Rows fw) :=
  fun w w' hc hw m s hs => dbFact_row m s.sha256 w w' hc (hw m s hs)

theorem Rows.erase (h : Rows fw w) (m : Int) : Rows (fw.erase m) w := by
  intro n s hs
  simp only [FileWorker.erase] at hs
  split at hs
  · cases hs
  · exact h n s hs

theorem Rows.put (h : Rows fw w) (hs : Row m s.sha256 w) : Rows (fw.put m s) w := by
  intro n s' hs'
  simp only [FileWorker.put] at hs'
  split at hs'
  · rename_i e
    obtain rfl := Option.some.inj hs'
    exact e ▸ hs
  · exact h n s' hs'

theorem Rows.evictIdle (h : Rows fw w) (now : Nat) : Rows (fw.evictIdle now) w := by
  intro n s hs
  exact h n s (Option.filter_eq_some_iff.mp hs).1

theorem quiet_files {α : Type} {p : Prog α} (h : p.Calls Op.Files) :
    p.Calls (publishRules sha fmt t).Quiet :=
  h.mono fun _ hop => quiet_of_harmless hop.harmless

theorem quiet_call {op : Op} (h : op.Harmless) :
    (call op).Calls (publishRules sha fmt t).Quiet := calls_perform (quiet_of_harmless h)

theorem quiet_loadUploadSession {m : Int} (fw : FileWorker) (msg : ChatMessage) :
    (fw.loadUploadSession m msg).Calls (publishRules sha fmt t).Quiet :=
  loadUploadSession_calls (fun _ h => quiet_of_harmless h.harmless) (quiet_of_harmless trivial) _ _

/-- The lock is held, and the table is as it should be. -/
def Working (t : Thread) (fw : FileWorker) (w : World) : Prop := w.mutex = some t ∧ Rows fw w

theorem stable_working (fw : FileWorker) : (publishRules sha fmt t).Stable (Working t fw) :=
  stable_mutex.and (dbFact_rows fw).stable

/-- The end of a critical section that was entered with the table `fw`: the table
that is left, or a publication that was committed. -/
def SectionEnds (t : Thread) (m : Int) (fw : FileWorker) (out : PublishOutcome) (w : World) :
    Prop :=
  Working t fw w ∧ (∀ fw', out = .replied fw' → Rows fw' w) ∧
    ∀ msg seq, out = .published msg seq → Announced m seq w

theorem stable_sectionEnds (m : Int) (fw : FileWorker) (out : PublishOutcome) :
    (publishRules sha fmt t).Stable (SectionEnds t m fw out) :=
  (stable_working fw).and ((stable_forall fun fw' => stable_imp (dbFact_rows fw').stable).and
    (stable_forall fun _ => stable_forall fun seq => stable_imp (dbFact_announced m seq).stable))

theorem sectionEnds_replied {fw' : FileWorker} (h : Working t fw w) (h' : Rows fw' w) :
    SectionEnds t m fw (.replied fw') w := by
  refine ⟨h, fun fw₂ e => ?_, nofun⟩
  cases e
  exact h'

theorem safe_published {r : PublishResult} (hr : r.Succeeds)
    (h : Working t fw w ∧ (r.Succeeds → Announced m seq w)) :
    (publishRules sha fmt t).Safe (SectionEnds t m fw) (pure (.published msg seq)) w := by
  refine safe_pure (stable_sectionEnds m fw _) ⟨h.1, nofun, fun msg' seq' e => ?_⟩
  cases e
  exact h.2 hr

/-- An answer that does not report a publication. -/
theorem quiet_told {session : Nat} {n : Int} (h : reply.status = some n)
    (hn : n ≠ MessageStatus.published.toInt) :
    (call (.send session reply)).Calls (publishRules sha fmt t).Quiet :=
  quiet_call (truthful_of_status fun e => hn (Option.some.inj (h.symm.trans e)))

/-- An error the client may retry. -/
theorem safe_retryLater {error : ErrorCode} (h : Working t fw w) :
    (publishRules sha fmt t).Safe (SectionEnds t m fw)
      (do return .replied (← retryLater task s error fw)) w := by
  refine safe_bind (safe_then (quiet_files (restorePart_files _ _ _)) (restorePart_returns _ _ _)
    (stable_working fw) h fun r w hr hw => ?_)
  obtain ⟨serverOffset, fw'⟩ := r
  have hrows : Rows fw' w := by
    rcases hr with rfl | rfl
    · exact hw.2
    · exact hw.2.erase _
  refine safe_next (quiet_told rfl (by decide))
    (stable_sectionEnds m fw (.replied fw')) (sectionEnds_replied hw hrows) fun _ w hw => ?_
  exact safe_pure stable_safe (safe_pure (stable_sectionEnds m fw _) hw)

/-- An answer inside the critical section. -/
theorem safe_replied {session : Nat} {n : Int} {fw' : FileWorker} (hs : reply.status = some n)
    (hn : n ≠ MessageStatus.published.toInt) (h : Working t fw w) (h' : Rows fw' w) :
    (publishRules sha fmt t).Safe (SectionEnds t m fw)
      (call (.send session reply) >>= fun _ => pure (.replied fw')) w :=
  safe_then_pure (quiet_told hs hn) (stable_sectionEnds _ _ _) (sectionEnds_replied h h')

theorem safe_publishCanonical (hheld : Held t s.sha256 w) (hrow : Row task.messageId s.sha256 w)
    (hrows : Rows fw w) :
    (publishRules sha fmt t).Safe (SectionEnds t task.messageId fw) (publishCanonical task s fw)
      w := by
  refine safe_next (quiet_call trivial)
    ((stable_held s.sha256).and ((dbFact_row task.messageId s.sha256).and (dbFact_rows fw)).stable)
    ⟨hheld, hrow, hrows⟩ fun found w ⟨hheld, hrow, hrows⟩ => ?_
  cases found with
  | notFound => exact safe_replied rfl (by decide) ⟨hheld.1, hrows⟩ (hrows.erase _)
  | transient => exact safe_retryLater ⟨hheld.1, hrows⟩
  | found msg =>
    refine (safe_completeResourceUploadDao (dbFact_rows fw) hheld hrow hrows).bind
      fun r w hw => ?_
    obtain ⟨r, seq⟩ := r
    cases r with
    | published => exact safe_published (.inl rfl) hw
    | alreadyPublished => exact safe_published (.inr rfl) hw
    | notPending | notFound => exact safe_replied rfl (by decide) hw.1 (hw.1.2.erase _)
    | transient => exact safe_retryLater hw.1

/-- The lock is held, and perhaps the blob has been seen. -/
theorem stable_perhaps (hP : DbFact P) {h : String} {c : Prop} :
    (publishRules sha fmt t).Stable fun w => w.mutex = some t ∧ P w ∧ (c → HasBlob w h) := by
  rintro w w' ⟨hmutex, hw, hblob⟩ hr -
  exact ⟨hr.mutex hmutex, hP w w' hr.db hw, fun hc => (hr.blobs hmutex).isSome (hblob hc)⟩

/-- A rename that succeeds leaves the blob in place, be it the new file or an
older one. -/
theorem safe_durableRename (hP : DbFact P) {h : String} (hmutex : w.mutex = some t) (hPw : P w) :
    (publishRules sha fmt t).Safe
      (fun r w => w.mutex = some t ∧ P w ∧ (r.1 = true → HasBlob w h))
      (durableRename (resourceUploadingPartPath m) (resourceBlobPath h)) w := by
  have hstable : (publishRules sha fmt t).Stable fun w => w.mutex = some t ∧ P w :=
    stable_mutex.and hP.stable
  have hquiet : ∀ {op : Op}, op.Harmless → (publishRules sha fmt t).Quiet op := quiet_of_harmless
  refine safe_next (quiet_files (calls_files (ensureDirectoryDurable_observes _))) hstable
    ⟨hmutex, hPw⟩ fun _ w hw => safe_ite (fun _ => ?_) fun _ =>
      safe_pure (stable_perhaps hP) ⟨hw.1, hw.2, nofun⟩
  have hlink : (publishRules sha fmt t).Quiet
      (.link (resourceUploadingPartPath m) (resourceBlobPath h)) := hquiet trivial
  -- the link is made, or there is a blob already
  refine (safe_quiet (Q := fun r w => w.mutex = some t ∧ P w ∧ (r ≠ .failed → HasBlob w h))
    hlink hstable hw (fun _ => stable_perhaps hP) ?_).bind fun r w hw => ?_
  · rintro w r w' - hw' ⟨c, -, he⟩
    obtain ⟨rfl, -⟩ | ⟨-, hsome, rfl⟩ | ⟨-, i, -, -, rfl⟩ := exec_link he
    · exact ⟨hw'.1, hw'.2, fun e => absurd rfl e⟩
    · exact ⟨hw'.1, hw'.2, fun _ => hsome⟩
    · exact ⟨hw'.1, hw'.2, fun _ => Option.isSome_of_eq_some (Disk.link_names_self _ _)⟩
  cases r with
  | failed => exact safe_pure (stable_perhaps hP) ⟨hw.1, hw.2.1, nofun⟩
  | «exists» => exact safe_pure (stable_perhaps hP) ⟨hw.1, hw.2.1, fun _ => hw.2.2 nofun⟩
  | linked =>
    refine (safe_of_calls ?_ (stable_perhaps hP) hw).mono fun r w hw =>
      ⟨hw.1, hw.2.1, fun _ => hw.2.2 nofun⟩
    refine calls_step (hquiet (partPath_ne_blobPath m)) fun _ => calls_ite (fun _ => ?_) fun _ =>
      calls_pure _
    refine calls_step (hquiet trivial) fun _ => calls_ite (fun _ => ?_) fun _ => calls_pure _
    exact calls_step (hquiet trivial) fun _ => calls_pure _

theorem safe_installAndPublish (hrow : Row task.messageId s.sha256 w) (h : Working t fw w) :
    (publishRules sha fmt t).Safe (SectionEnds t task.messageId fw) (installAndPublish task s fw)
      w := by
  have hP := (dbFact_row task.messageId s.sha256).and (dbFact_rows fw)
  refine safe_next (quiet_files (calls_files (ensureDirectoryDurable_observes _)))
    (stable_mutex.and hP.stable) ⟨h.1, hrow, h.2⟩ fun _ w hw =>
    safe_ite (fun _ => ?_) fun _ => safe_retryLater ⟨hw.1, hw.2.2⟩
  refine (safe_durableRename hP hw.1 hw.2).bind fun r w hw => ?_
  obtain ⟨hmutex, ⟨hrow, hrows⟩, hblob⟩ := hw
  obtain ⟨ok, there⟩ := r
  cases ok with
  | false => exact safe_retryLater ⟨hmutex, hrows⟩
  | true =>
    cases there with
    | false => exact safe_publishCanonical ⟨hmutex, hblob rfl⟩ hrow hrows
    | true =>
      have hheld : (publishRules sha fmt t).Stable fun w => Held t s.sha256 w ∧
          Row task.messageId s.sha256 w ∧ Rows fw w := (stable_held s.sha256).and hP.stable
      refine safe_next (quiet_files (calls_files (blobTrusted_observes _ _))) hheld
        ⟨⟨hmutex, hblob rfl⟩, hrow, hrows⟩ fun _ w hw =>
        safe_ite (fun _ => ?_) fun _ => safe_retryLater ⟨hw.1.1, hw.2.2⟩
      exact safe_next (quiet_files (remove_part_files _)) hheld hw
        fun _ w hw => safe_publishCanonical hw.1 hw.2.1 hw.2.2

/-- The table at the end of a handler. -/
theorem stable_rows (fw : FileWorker) : (publishRules sha fmt t).Stable (Rows fw) :=
  (dbFact_rows fw).stable

theorem stable_rowAndRows {h : String} :
    (publishRules sha fmt t).Stable fun w => Row m h w ∧ Rows fw w :=
  ((dbFact_row m h).and (dbFact_rows fw)).stable

/-- An answer and the table. -/
theorem safe_answer {α : Type} {p : Prog α}
    (hp : p.Calls (publishRules sha fmt t).Quiet) (h : Rows fw w) :
    (publishRules sha fmt t).Safe Rows (p >>= fun _ => pure fw) w :=
  safe_then_pure hp (stable_rows fw) h

theorem safe_sent {session : Nat} {n : Int} (hs : reply.status = some n)
    (hn : n ≠ MessageStatus.published.toInt) (h : Rows fw w) :
    (publishRules sha fmt t).Safe Rows (call (.send session reply) >>= fun _ => pure fw) w :=
  safe_answer (quiet_told hs hn) h

/-- The number of a published message is reported. -/
theorem positiveSeq_eq (hinv : PublishInv w) (h : Announced m seq w) :
    positiveSeq seq = some seq := by
  obtain ⟨-, -, -, -, e, he, -, rfl⟩ := h
  exact if_pos (hinv.numbered.2.eventSeq_pos he)

/-- The answer for a message that has been found published. -/
theorem safe_sent_published {session : Nat} (hid : reply.messageId = m)
    (hsucc : reply.error = .success → reply.eventSeq = some seq ∨ reply.eventSeq = positiveSeq seq)
    (hseq : Announced m seq w) (h : Rows fw w) :
    (publishRules sha fmt t).Safe Rows (call (.send session reply) >>= fun _ => pure fw) w := by
  refine (safe_report ((dbFact_announced m seq).and (dbFact_rows fw)) ⟨hseq, h⟩
    fun w hw hinv _ _ => ⟨seq, hid ▸ hw.1, fun herror => ?_⟩).bind fun _ w hw =>
      safe_pure (stable_rows fw) hw.2
  rcases hsucc herror with hs | hs
  · exact hs
  · exact hs.trans (positiveSeq_eq hinv hw.1)

/-- The answer after a publication, and the notice to the recipient. -/
theorem safe_announce {session : Nat} {n : Notification} (hid : reply.messageId = m)
    (hn : n.messageId = m) (hs : reply.eventSeq = some seq) (hseq : Announced m seq w)
    (h : Rows fw w) :
    (publishRules sha fmt t).Safe Rows
      (do call (.send session reply); call (.post n); return fw) w := by
  refine (safe_report ((dbFact_announced m seq).and (dbFact_rows fw)) ⟨hseq, h⟩
    fun w hw _ _ _ => ⟨seq, hid ▸ hw.1, fun _ => hs⟩).bind fun _ w hw => ?_
  exact (safe_post (dbFact_rows fw) (hn ▸ hw.1) hw.2).bind fun _ w hw =>
    safe_pure (stable_rows fw) hw

/-- The end of the lock. -/
theorem safe_leave {out : PublishOutcome} (h : SectionEnds t m fw out w) :
    (publishRules sha fmt t).Safe
      (fun _ w => Rows fw w ∧ (∀ fw', out = .replied fw' → Rows fw' w) ∧
        ∀ msg seq, out = .published msg seq → Announced m seq w) (call .unlock) w := by
  have hP : DbFact fun w => Rows fw w ∧ (∀ fw', out = .replied fw' → Rows fw' w) ∧
      ∀ msg seq, out = .published msg seq → Announced m seq w :=
    (dbFact_rows fw).and fun w w' hc hw => ⟨fun fw' e => dbFact_rows fw' w w' hc (hw.1 fw' e),
      fun msg seq e => dbFact_announced m seq w w' hc (hw.2 msg seq e)⟩
  exact safe_unlock hP h.1.1 ⟨h.1.2, h.2⟩

theorem safe_publishUpload (hrow : Row task.messageId s.sha256 w) (hrows : Rows fw w) :
    (publishRules sha fmt t).Safe Rows (publishUpload task s fw) w := by
  have hP := (dbFact_row task.messageId s.sha256).and (dbFact_rows fw)
  refine safe_next (quiet_call trivial) hP.stable ⟨hrow, hrows⟩ fun _ w hw =>
    safe_ite (fun _ => ?_) fun _ => safe_sent rfl (by decide) hw.2
  refine (safe_lock hP hw).bind fun _ w hw => ?_
  refine (safe_installAndPublish hw.2.1 ⟨hw.1, hw.2.2⟩).bind fun out w hw => ?_
  refine (safe_leave hw).bind fun _ w hw => ?_
  cases out with
  | replied fw' => exact safe_pure (stable_rows fw') (hw.2.1 fw' rfl)
  | published msg seq => exact safe_announce rfl rfl rfl (hw.2.2 msg seq rfl) (hw.1.erase _)

theorem safe_wholeHashMismatch (hrow : Row task.messageId s.sha256 w) (hrows : Rows fw w) :
    (publishRules sha fmt t).Safe Rows (wholeHashMismatch task s fw) w := by
  refine safe_ite (fun _ => ?_) fun _ => ?_
  · refine safe_next (markResourceFailedDao_calls _ (quiet_of_harmless rfl)) stable_rowAndRows
      ⟨hrow, hrows⟩ fun _ w hw => safe_ite (fun _ => ?_) fun _ => ?_
    · refine safe_next (quiet_files (remove_part_files _)) stable_rowAndRows hw fun _ w hw => ?_
      exact safe_sent rfl (by decide) (hw.2.erase _)
    · exact safe_sent rfl (by decide) (hw.2.put hw.1)
  · refine safe_next (quiet_files (remove_part_files _)) stable_rowAndRows ⟨hrow, hrows⟩
      fun r w hw => ?_
    cases r with
    | failed | removed | missing =>
      exact safe_sent rfl (by decide) (hw.2.put hw.1)

theorem safe_completeResourceUpload (hrow : Row task.messageId s.sha256 w) (hrows : Rows fw w) :
    (publishRules sha fmt t).Safe Rows (completeResourceUpload task s fw) w := by
  refine safe_then (quiet_files (calls_files (wholeHash_observes _ _))) (wholeHash_returns _ _)
    stable_rowAndRows ⟨hrow, hrows⟩ fun r w hr hw => ?_
  obtain ⟨hasher, fullHash, rfl⟩ := hr
  refine safe_ite (fun _ => ?_) fun _ => safe_ite (fun _ => ?_) fun _ => ?_
  · exact safe_sent rfl (by decide) (hw.2.put hw.1)
  · exact safe_wholeHashMismatch hw.1 (hw.2.put hw.1)
  · exact safe_publishUpload hw.1 (hw.2.put hw.1)

theorem safe_receiveChunk (hrow : Row task.messageId s.sha256 w) (hrows : Rows fw w) :
    (publishRules sha fmt t).Safe Rows (receiveChunk task s fw) w := by
  refine safe_next (quiet_files (writeUploadChunk_files _ _ _ _ _ _ _)) stable_rowAndRows
    ⟨hrow, hrows⟩ fun r w hw => ?_
  refine safe_ite (fun _ => ?_) fun _ => ?_
  · exact safe_sent rfl (by decide) (hw.2.put hw.1)
  · refine safe_next (quiet_call trivial) stable_rowAndRows hw fun _ w hw => ?_
    refine safe_then (quiet_files (calls_files (advanceHash_observes _ _ _)))
      (advanceHash_returns _ _ _) stable_rowAndRows hw fun s' w hs' hw => ?_
    obtain ⟨hasher, ok, rfl⟩ := hs'
    refine safe_ite (fun _ => ?_) fun _ => ?_
    · exact safe_completeResourceUpload hw.1 (hw.2.put hw.1)
    · exact safe_sent rfl (by decide) (hw.2.put hw.1)

theorem safe_uploadChunk {uid : Int} (hrow : Row task.messageId s.sha256 w) (hrows : Rows fw w) :
    (publishRules sha fmt t).Safe Rows (uploadChunk task uid s fw) w :=
  safe_ite (fun _ => safe_sent rfl (by decide) hrows) fun _ => safe_receiveChunk hrow hrows

/-- The resource of a message that was read is the one of its row. -/
def ReadRow (m : Int) (msg : ChatMessage) (w : World) : Prop :=
  ∀ q, msg.resource = some q → Row m q.sha256 w

theorem dbFact_readRow (m : Int) (msg : ChatMessage) : DbFact (ReadRow m msg) :=
  fun w w' hc hw q hq => dbFact_row m q.sha256 w w' hc (hw q hq)

theorem readRow_of_resourceMessage (h : w.db.resourceMessage m = some msg) :
    ReadRow m msg w := by
  intro q hq
  obtain ⟨-, -, r, -, -, hrow, -, -, -, -, -, hres, -⟩ := resourceMessage_eq_some h
  obtain rfl := Option.some.inj (hq.symm.trans hres)
  exact ⟨r, hrow, rfl⟩

/-- What a message that was read tells. -/
def Told (m : Int) (msg : ChatMessage) (w : World) : Prop :=
  ReadRow m msg w ∧ (msg.status = .published → Announced m msg.eventSeq w)

theorem dbFact_told (m : Int) (msg : ChatMessage) : DbFact (Told m msg) :=
  (dbFact_readRow m msg).and fun w w' hc hw hs => dbFact_announced m _ w w' hc (hw hs)

theorem safe_getChatMsgById (hrows : Rows fw w) :
    (publishRules sha fmt t).Safe
      (fun r w => Rows fw w ∧ ∀ msg, r = .found msg → Told m msg w)
      (call (.getChatMsgById m)) w := by
  have hget : (publishRules sha fmt t).Quiet (.getChatMsgById m) := quiet_of_harmless trivial
  refine safe_perform (stable_rows fw) hrows (fun r => (stable_rows fw).and (stable_forall
    fun msg => stable_imp (dbFact_told m msg).stable)) fun w r w' hw hinv hs => ?_
  obtain ⟨hg, hinv', -⟩ := hget w r w' hinv hs
  obtain ⟨c, -, he⟩ := hs
  obtain ⟨hr, rfl⟩ := exec_getChatMsgById he
  exact ⟨hg, hinv', hw, fun msg e => ⟨readRow_of_resourceMessage (hr msg e), fun hs =>
    announcedAs_of_resourceMessage hinv.consistent (hr msg e) hs⟩⟩

theorem safe_reloadForChunk {uid : Int} (hrows : Rows fw w) :
    (publishRules sha fmt t).Safe Rows (reloadForChunk task uid fw) w := by
  refine (safe_getChatMsgById hrows).bind fun found w hw => ?_
  obtain ⟨hrows, hfound⟩ := hw
  cases found with
  | notFound | transient => exact safe_sent rfl (by decide) hrows
  | found msg =>
    have htold := hfound msg rfl
    refine safe_ite (fun _ => safe_sent rfl (by decide) hrows) fun _ =>
      safe_ite (fun _ => safe_sent rfl (by decide) hrows) fun _ => ?_
    cases hs : msg.status with
    | published => exact safe_sent_published rfl (fun _ => .inr rfl) (htold.2 hs) hrows
    | failed => exact safe_sent rfl (by decide) hrows
    | pending =>
      refine safe_then (quiet_loadUploadSession _ _) (loadUploadSession_returns _ _ _)
        ((dbFact_rows fw).and (dbFact_readRow task.messageId msg)).stable
        ⟨hrows, htold.1⟩ fun r w hr hw => ?_
      obtain rfl | ⟨q, received, now, hq, rfl⟩ := hr
      · exact safe_sent rfl (by decide) hw.1
      · exact safe_uploadChunk (hw.2 q hq) (hw.1.put (hw.2 q hq))

theorem safe_handleResourceChunk (hrows : Rows fw w) :
    (publishRules sha fmt t).Safe Rows (handleResourceChunk task fw) w := by
  refine safe_next (quiet_call trivial) (stable_rows fw) hrows fun _ w hw =>
    safe_ite (fun _ => ?_) fun _ => safe_pure (stable_rows fw) hw
  refine safe_next (quiet_call trivial) (stable_rows fw) hw fun now w hw => ?_
  refine safe_next (quiet_call trivial) (stable_rows fw) hw fun uid w hw => ?_
  refine safe_next (quiet_call trivial) (stable_rows fw) hw fun _ w hw => ?_
  refine safe_then (quiet_files (calls_files (findUploadSession_observes _ _)))
    (findUploadSession_returns _ _) (stable_rows (fw.evictIdle now)) (hw.evictIdle now)
    fun r w hr hw => ?_
  obtain ⟨-, rfl⟩ | ⟨s, now', hs, rfl⟩ := hr
  · exact safe_reloadForChunk hw
  · exact safe_uploadChunk (hw _ s hs) (hw.put (hw _ s hs))

theorem safe_pendingProgress {task : ProgressTask} (hs : msg.status = .pending)
    (hrow : Row task.messageId s.sha256 w) (hrows : Rows fw w) :
    (publishRules sha fmt t).Safe Rows (pendingProgress task msg q s fw) w := by
  have hsucceed : ∀ {w : World} {n : Nat}, Rows fw w →
      (publishRules sha fmt t).Safe Rows (do task.succeed msg n; return fw) w :=
    safe_sent rfl (hs ▸ by decide)
  refine safe_ite (fun _ => ?_) fun _ => hsucceed hrows
  refine safe_next (quiet_call trivial) stable_rowAndRows ⟨hrow, hrows⟩ fun known w hw => ?_
  cases known with
  | transient => exact safe_sent rfl (by decide) hw.2
  | no => exact hsucceed hw.2
  | yes =>
    refine safe_next (quiet_call trivial) stable_rowAndRows hw fun size w hw =>
      safe_ite (fun _ => ?_) fun _ => hsucceed hw.2
    refine safe_then (issueChallenge_calls _ _ _ (fun _ h => quiet_of_harmless h.files.harmless)
      (fun _ _ h => quiet_of_harmless (truthful_of_status (h ▸ by decide)))
      fun _ _ _ _ _ _ => quiet_of_harmless trivial) (issueChallenge_returns _ _ _)
      stable_rowAndRows hw fun r w hr hw => ?_
    obtain rfl | ⟨nonceRaw, offset, length, now, rfl⟩ := hr
    · exact hsucceed hw.2
    · exact safe_pure (stable_rows _) (hw.2.put hw.1)

theorem safe_handleResourceUploadProgress {task : ProgressTask} (hrows : Rows fw w) :
    (publishRules sha fmt t).Safe Rows (handleResourceUploadProgress task fw) w := by
  have hfail : ∀ {w : World} {error : ErrorCode}, Rows fw w →
      (publishRules sha fmt t).Safe Rows (do task.fail error; return fw) w :=
    safe_answer (quiet_call (truthful_of_status nofun))
  refine (safe_getChatMsgById hrows).bind fun found w hw => ?_
  obtain ⟨hrows, hfound⟩ := hw
  cases found with
  | notFound | transient => exact hfail hrows
  | found msg =>
    have htold := hfound msg rfl
    refine safe_ite (fun _ => hfail hrows) fun _ => ?_
    cases hres : msg.resource with
    | none => exact hfail hrows
    | some q =>
      refine safe_ite (fun _ => hfail hrows) fun _ => ?_
      cases hs : msg.status with
      | published => exact safe_sent_published rfl (fun _ => .inr rfl) (htold.2 hs) hrows
      | failed => exact safe_sent rfl (by decide) (hrows.erase _)
      | pending =>
        have hP : (publishRules sha fmt t).Stable fun w =>
            Rows fw w ∧ ReadRow task.messageId msg w :=
          ((dbFact_rows fw).and (dbFact_readRow task.messageId msg)).stable
        refine safe_then (quiet_files (calls_files (findUploadSession_observes _ _)))
          (findUploadSession_returns _ _) hP ⟨hrows, htold.1⟩ fun r w hr hw => ?_
        obtain ⟨-, rfl⟩ | ⟨s, now, hsession, rfl⟩ := hr
        · refine safe_then (quiet_loadUploadSession _ _)
            (loadUploadSession_returns _ _ _) hP hw fun r w hr hw => ?_
          obtain rfl | ⟨q', received, now, hq, rfl⟩ := hr
          · exact hfail hw.1
          · exact safe_pendingProgress hs (hw.2 q' hq) (hw.1.put (hw.2 q' hq))
        · exact safe_pendingProgress hs (hw.1 _ s hsession) (hw.1.put (hw.1 _ s hsession))

/-! ### The instant proof -/

/-- A proof that holds was compared with the blob. -/
theorem safe_checkProof {task : ProofTask} (hP : DbFact P) (hmutex : w.mutex = some t) (hPw : P w) :
    (publishRules sha fmt t).Safe
      (fun r w => w.mutex = some t ∧ P w ∧ (r = none → HasBlob w q.sha256))
      (checkProof task q s) w := by
  have hcalls : (checkProof task q s).Calls (publishRules sha fmt t).Quiet :=
    checkProof_calls _ _ _ (fun _ h => quiet_of_harmless h.files.harmless) fun _ _ _ =>
      quiet_of_harmless trivial
  have hopen : (publishRules sha fmt t).Quiet (.openFile (resourceBlobPath q.sha256)) :=
    quiet_of_harmless trivial
  refine (safe_quiet (Q := fun r w => w.mutex = some t ∧ P w ∧ (r ≠ none → HasBlob w q.sha256))
    hopen (stable_mutex.and hP.stable) ⟨hmutex, hPw⟩ (fun _ => stable_perhaps hP) ?_).bind
    fun r w hw => ?_
  · rintro w r w' - hw' ⟨c, -, he⟩
    refine ⟨hw'.1, hw'.2, fun hne => ?_⟩
    obtain ⟨rfl, rfl⟩ := he
    split at hne
    · exact absurd rfl hne
    · exact Option.isSome_iff_ne_none.mpr hne
  cases r with
  | none => exact safe_pure (stable_perhaps hP) ⟨hw.1, hw.2.1, nofun⟩
  | some file =>
    -- the file is open: what is left only looks
    exact (safe_of_calls (hcalls.2 (some file)) (stable_perhaps hP) hw).mono fun _ _ hw =>
      ⟨hw.1, hw.2.1, fun _ => hw.2.2 (Option.some_ne_none _)⟩

theorem safe_proveAndPublish {task : ProofTask} (hrow : Row task.messageId s.sha256 w)
    (hq : Row task.messageId q.sha256 w) (h : Working t fw w) :
    (publishRules sha fmt t).Safe (SectionEnds t task.messageId fw)
      (proveAndPublish task msg q s fw) w := by
  have hP := ((dbFact_row task.messageId s.sha256).and (dbFact_row task.messageId q.sha256)).and
    (dbFact_rows fw)
  refine (safe_checkProof hP h.1 ⟨⟨hrow, hq⟩, h.2⟩).bind fun r w hw => ?_
  obtain ⟨hmutex, ⟨⟨hrow, hq⟩, hrows⟩, hblob⟩ := hw
  cases r with
  | some e => exact safe_replied rfl (by decide) ⟨hmutex, hrows⟩ (hrows.put hrow)
  | none =>
    refine (safe_completeResourceUploadDao (dbFact_rows fw) ⟨hmutex, hblob rfl⟩ hq
      hrows).bind fun r w hw => ?_
    obtain ⟨r, seq⟩ := r
    cases r with
    | published => exact safe_published (.inl rfl) hw
    | alreadyPublished => exact safe_published (.inr rfl) hw
    | notPending | notFound => exact safe_replied rfl (by decide) hw.1 (hw.1.2.erase _)
    | transient => exact safe_replied rfl (by decide) hw.1 hw.1.2

theorem safe_answerChallenge {task : ProofTask} (hrow : Row task.messageId s.sha256 w)
    (hq : Row task.messageId q.sha256 w) (hrows : Rows fw w) :
    (publishRules sha fmt t).Safe Rows (answerChallenge task msg q s fw) w := by
  have hP := ((dbFact_row task.messageId s.sha256).and (dbFact_row task.messageId q.sha256)).and
    (dbFact_rows fw)
  refine safe_next (quiet_call trivial) hP.stable ⟨⟨hrow, hq⟩, hrows⟩
    fun now w hw => ?_
  refine safe_next (quiet_call trivial) hP.stable hw fun _ w hw => ?_
  obtain ⟨⟨hrow, hq⟩, hrows⟩ := hw
  refine safe_ite (fun _ => safe_sent rfl (by decide) hrows) fun _ => ?_
  refine safe_ite (fun _ => safe_sent rfl (by decide) (hrows.put hrow)) fun _ => ?_
  have hP' := ((dbFact_row task.messageId s.sha256).and (dbFact_row task.messageId q.sha256)).and
    (dbFact_rows (fw.put task.messageId { s with challengeActive := false }))
  refine (safe_lock hP' ⟨⟨hrow, hq⟩, hrows.put hrow⟩).bind fun _ w hw => ?_
  obtain ⟨hmutex, ⟨hrow, hq⟩, hrows⟩ := hw
  refine (safe_proveAndPublish (s := { s with challengeActive := false }) hrow hq
    ⟨hmutex, hrows⟩).bind fun out w hw => ?_
  refine (safe_leave hw).bind fun _ w hw => ?_
  cases out with
  | replied fw' => exact safe_pure (stable_rows fw') (hw.2.1 fw' rfl)
  | published msg seq =>
    exact safe_next (quiet_files (remove_part_files _))
      ((dbFact_announced _ seq).and (dbFact_rows _)).stable ⟨hw.2.2 msg seq rfl, hw.1⟩
      fun _ w hw => safe_announce rfl rfl rfl hw.1 (hw.2.erase _)

theorem safe_handleInstantProof {task : ProofTask} (hrows : Rows fw w) :
    (publishRules sha fmt t).Safe Rows (handleInstantProof task fw) w := by
  refine safe_next (quiet_call trivial) (stable_rows fw) hrows fun _ w hw => ?_
  refine (safe_getChatMsgById hw).bind fun found w hw => ?_
  obtain ⟨hrows, hfound⟩ := hw
  cases found with
  | notFound => exact safe_sent rfl (by decide) (hrows.erase _)
  | transient => exact safe_sent rfl (by decide) hrows
  | found msg =>
    obtain ⟨hread, hseq⟩ := hfound msg rfl
    -- an error that passes the status on
    have hforbidden : (publishRules sha fmt t).Safe Rows
        (do task.fail .resourceForbidden msg.status; return fw) w := by
      cases hs : msg.status with
      | pending | failed => exact safe_sent rfl (by decide) hrows
      | published => exact safe_sent_published rfl nofun (hseq hs) hrows
    dsimp only
    cases hres : msg.resource with
    | none => exact hforbidden
    | some q =>
      refine safe_ite (fun _ => hforbidden) fun _ => ?_
      cases hs : msg.status with
      | published =>
        exact safe_next (quiet_files (remove_part_files _))
          ((dbFact_announced _ msg.eventSeq).and (dbFact_rows fw)).stable ⟨hseq hs, hrows⟩
          fun _ w hw => safe_sent_published rfl (fun _ => .inl rfl) hw.1 (hw.2.erase _)
      | failed => exact safe_sent rfl (by decide) (hrows.erase _)
      | pending =>
        cases hsession : fw.uploadSessions task.messageId with
        | none => exact safe_sent rfl (by decide) hrows
        | some s => exact safe_answerChallenge (hrows _ s hsession) (hread q hres) hrows

end LlfcChat.Resource
