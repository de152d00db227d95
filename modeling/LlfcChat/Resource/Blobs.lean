/-
The whole server on its files: blobs have the content their name says, and
upload sessions agree with the disk.

Both hold as long as a file that was linked into the blob store loses its
`.part` name.  `DurableRename` makes the new name and then takes the old one
away; if it stops in between, the next write to the `.part` file goes to the
blob.
-/
import LlfcChat.Resource.UploadSessions

namespace LlfcChat.Resource.Upload

open Conc Conc.Rules FileSystem
open Conc.Prog hiding pure bind

/-! ### Rules for the threads -/

/-- The worker of a message. -/
def Owns (t : Thread) (m : Int) : Prop :=
  ∃ i : Fin fileWorkerCount, t = .fileWorker i ∧ resourceWorkerIndex m fileWorkerCount = i

theorem Owns.unique {t t' : Thread} {m : Int} (h : Owns t m) (h' : Owns t' m) : t = t' := by
  obtain ⟨i, rfl, hi⟩ := h
  obtain ⟨j, rfl, hj⟩ := h'
  rw [Fin.ext (hi.symm.trans hj)]

section Rules

variable (sha : List UInt8 → String) (fmt : Int → String) (care : Care sha)

@[reducible] def fileRules (t : Thread) : Rules Op Res World where
  sem := (server sha fmt (carefulDisk care)).sem t
  inv := FileInv sha
  rely w w' := Frame care (Owns t) w w' ∧ Locked t w w'
  guar op w w' := (∀ t', t' ≠ t → Frame care (Owns t') w w' ∧ Locked t' w w') ∧
    LinkOk sha care op w
  rely_refl w := ⟨.refl w, .refl t w⟩
  rely_trans _ _ _ h h' := ⟨h.1.trans h'.1, h.2.trans h'.2⟩

end Rules

variable {sha : List UInt8 → String} {fmt : Int → String} {care : Care sha}
  {w w' : World} {t : Thread} {m : Int} {fw fw' : FileWorker}

theorem fileQuiet_of_hushed {op : Op} (h : Hushed op) : (fileRules sha fmt care t).Quiet op := by
  rintro w r w' hinv ⟨c, -, he⟩
  obtain ⟨hf, hl, hinv', hlink⟩ := hushed_step h hinv he
  exact ⟨⟨fun t' _ => ⟨hf _, hl t'⟩, hlink⟩, hinv', hf _, hl t⟩

theorem fileQuiet_observes (op : Op) (h : op.Observes) :
    (fileRules sha fmt care t).Quiet op := fileQuiet_of_hushed (hushed_of_observes h)

/-! ### File workers -/

/-- The table of a worker is right, and all of its sessions are its own. -/
def WorkerOk (sha : List UInt8 → String) (care : Care sha) (t : Thread) (fw : FileWorker)
    (w : World) : Prop :=
  (∀ m, Owns t m → EntryOk sha care m fw w) ∧
    ∀ m s, fw.uploadSessions m = some s → Owns t m

theorem stable_workerOk : (fileRules sha fmt care t).Stable (WorkerOk sha care t fw) := by
  intro w w' h hrely hinv
  refine ⟨fun m hm => (h.1 m hm).frame (hrely.1.mono ?_) hinv, h.2⟩
  rintro n rfl
  exact hm

/-- A handler of one message of the worker: the other messages are not its
business, and what it does to its own leaves them alone. -/
theorem safe_handler {p : Prog FileWorker} (hown : Owns t m) (hw : WorkerOk sha care t fw w)
    (h : (partRules sha fmt care t m).Safe (TableOk sha care m fw) p w) :
    (fileRules sha fmt care t).Safe (WorkerOk sha care t) p w := by
  have hothers : (fileRules sha fmt care t).Stable fun w =>
      ∀ n, n ≠ m → Owns t n → EntryOk sha care n fw w := by
    intro w w' h hrely hinv n hn hown
    refine (h n hn hown).frame (hrely.1.mono ?_) hinv
    rintro n' rfl
    exact hown
  have hframed : (fileRules sha fmt care t).Safe (fun fw' w =>
      TableOk sha care m fw fw' w ∧ ∀ n, n ≠ m → Owns t n → EntryOk sha care n fw w) p w := by
    refine Safe.frame (R := partRules sha fmt care t m) (fun _ _ _ _ hs => hs)
      (fun _ => Iff.rfl) (fun w w' hr => ⟨hr.1.mono ?_, hr.2⟩)
      (fun op w w' hg => ⟨fun t' hne => ⟨hg.1.mono ?_, hg.2.1 t' fun _ => hne⟩, hg.2.2⟩)
      hothers (fun op w w' h hinv hg n hn hown => ?_) h
      fun n _ hn => hw.1 n hn
    · rintro n rfl
      exact hown
    · rintro n hn rfl
      exact hne (hn.unique hown)
    · refine (h n hn hown).frame (hg.1.mono ?_) hinv
      rintro n' rfl
      exact hn
  refine hframed.mono fun fw' w h => ?_
  obtain ⟨⟨helse, hentry⟩, hrest⟩ := h
  refine ⟨fun n hn => ?_, fun n s hs => ?_⟩
  · by_cases e : n = m
    · exact e ▸ hentry
    · exact ⟨(hrest n e hn).1, fun s hs => (hrest n e hn).2 s (helse.session e hs)⟩
  · by_cases e : n = m
    · exact e ▸ hown
    · exact hw.2 n s (helse.session e hs)

/-! ### The cleanup thread -/

theorem unlink_names_back {d : Disk Path} {p q : Path} {i : Handle}
    (h : (d.unlink p).names q = some i) : d.names q = some i := by
  by_cases e : q = p
  · subst e
    rw [Disk.unlink_names_self] at h
    cases h
  · rwa [Disk.unlink_names_of_ne e] at h

theorem FileInv.unlink (h : FileInv sha w) (path : Path) :
    FileInv sha { w with disk := w.disk.unlink path } where
  numbered := h.numbered.unlink path
  blobs s i hi := h.blobs s i (unlink_names_back hi)
  births m i hi := h.births m i (unlink_names_back hi)
  kept m i hi := h.kept m i (unlink_names_back hi)

/-- The collector takes away `.part` files, which may vanish, and blobs, under
the lock. -/
theorem safe_cleanupRemove {path : Path} {P : World → Prop}
    (hP : (fileRules sha fmt care .cleanup).Stable P)
    (hdisk : ∀ w d, P w → P { w with disk := d })
    (hpath : ∀ w, P w → (∀ s, path ≠ resourceBlobPath s) ∨ w.mutex = some .cleanup) (h : P w) :
    (fileRules sha fmt care .cleanup).Safe (fun _ => P) (call (.remove path)) w := by
  refine safe_perform hP h (fun _ => hP) ?_
  rintro w r w' hw hinv ⟨c, hc, he⟩
  have hlink : LinkOk sha care (.remove path) w := linkOk_of_ne nofun
  obtain ⟨-, rfl⟩ | ⟨-, -, rfl⟩ | ⟨-, rfl⟩ := exec_remove he
  · exact ⟨⟨fun t' _ => ⟨.refl _, .refl t' _⟩, hlink⟩, hinv, hw⟩
  · exact ⟨⟨fun t' _ => ⟨.refl _, .refl t' _⟩, hlink⟩, hinv, hw⟩
  · refine ⟨⟨fun t' hne => ⟨⟨.refl, fun m _ => ?_, fun _ _ _ _ => rfl,
      fun _ _ s _ _ hs => unlink_names_back hs, fun _ _ => rfl⟩, ?_⟩, hlink⟩, hinv.unlink path,
      hdisk w _ hw⟩
    · by_cases e : resourceUploadingPartPath m = path
      · subst e
        exact .inr ⟨hc.2.1 rfl m rfl, Disk.unlink_names_self _⟩
      · exact .inl (Disk.unlink_names_of_ne e)
    · rcases hpath w hw with hpath | hheld
      · exact ⟨id, fun _ s i hi => ⟨(Disk.unlink_names_of_ne (Ne.symm (hpath s))).trans hi, rfl⟩⟩
      · exact locked_of_holder hheld hne

theorem safe_cleanupLock :
    (fileRules sha fmt care .cleanup).Safe (fun _ w => w.mutex = some .cleanup)
      (call .lock) w := by
  refine safe_perform (P := fun _ => True) (stable_const True) trivial
    (fun _ _ _ hw hrely _ => hrely.2.mutex hw) ?_
  rintro w r w' - hinv ⟨c, -, he⟩
  obtain ⟨nobody, rfl⟩ := exec_lock he
  exact ⟨⟨fun t' _ => ⟨frame_of_eq .refl rfl fun _ => rfl,
    fun e => absurd e (nobody t'), fun e => absurd e (nobody t')⟩, linkOk_of_ne nofun⟩,
    ⟨hinv.numbered, hinv.blobs, hinv.births, hinv.kept⟩, rfl⟩

theorem safe_cleanupUnlock (h : w.mutex = some .cleanup) :
    (fileRules sha fmt care .cleanup).Safe (fun _ _ => True) (call .unlock) w := by
  refine safe_perform (fun _ _ hw hrely _ => hrely.2.mutex hw) h (fun _ => stable_const True) ?_
  rintro w r w' hheld hinv ⟨c, -, he⟩
  obtain rfl := exec_unlock he
  exact ⟨⟨fun t' hne => ⟨frame_of_eq .refl rfl fun _ => rfl, locked_of_holder hheld hne⟩,
    linkOk_of_ne nofun⟩, ⟨hinv.numbered, hinv.blobs, hinv.births, hinv.kept⟩, trivial⟩

theorem safe_sweepBlob {path : Path} {name : String} :
    (fileRules sha fmt care .cleanup).Safe (fun _ _ => True) (sweepBlob path name)
      w := by
  have hstable : (fileRules sha fmt care .cleanup).Stable fun w =>
      w.mutex = some .cleanup := fun _ _ hw hrely _ => hrely.2.mutex hw
  refine safe_ite (fun _ => safe_done) fun _ => ?_
  refine safe_cleanupLock.bind fun _ w hw => ?_
  have hask : (fileRules sha fmt care .cleanup).Quiet
      (.blobHasPublishedReference name) := fileQuiet_observes _ trivial
  refine safe_next (calls_perform hask) hstable hw fun r w hw => ?_
  cases r with
  | yes | transient => exact safe_cleanupUnlock hw
  | no =>
    exact (safe_cleanupRemove hstable (fun _ _ h => h) (fun _ h => .inr h) hw).bind
      fun _ w hw => safe_cleanupUnlock hw

/-! ### The server -/

/-- What is known of a thread at rest. -/
def RestOk (sha : List UInt8 → String) (care : Care sha) : (t : Thread) → Local t → World → Prop
  | .fileWorker i, fw, w => WorkerOk sha care (.fileWorker i) fw w
  | .downloadWorker _, _, _ => True
  | .cleanup, _, _ => True

theorem outside_frame (hinv : FileInv sha w) (h : Outside w w') :
    FileInv sha w' ∧ ∀ t, Frame care (Owns t) w w' ∧ Locked t w w' := by
  have spread : ∀ {w₁ : World}, Changes w.db w₁.db → w₁.disk = w.disk → w₁.mutex = w.mutex →
      w₁.journal = w.journal →
      FileInv sha w₁ ∧ ∀ t, Frame care (Owns t) w w₁ ∧ Locked t w w₁ := by
    intro w₁ hdb hdisk hmutex hjournal
    refine ⟨⟨hdisk ▸ hinv.numbered, hdisk ▸ hinv.blobs, hdisk ▸ hinv.births, ?_⟩,
      fun t => ⟨frame_of_eq hdb hdisk fun _ => by rw [hjournal], locked_of_eq hmutex hdisk t⟩⟩
    rw [hdisk, hjournal]
    exact hinv.kept
  cases h with
  | chat c hc attempt faults => exact spread (turn_changes _ _ _ _) rfl rfl rfl
  | skipIds users threads messages requests =>
    exact spread (.single (.skipIds users threads messages requests)) rfl rfl rfl
  | tick seconds | login session uid huid hopen hnew | close session =>
    exact spread .refl rfl rfl rfl

/-- A worker that starts, when no `.part` file shares its inode with a blob. -/
theorem workerOk_fresh (hclear : (carefulDisk care).crash w) (t : Thread) :
    WorkerOk sha care t {} w := by
  refine ⟨fun m _ => ⟨?_, nofun⟩, nofun⟩
  cases hi : w.disk.names (resourceUploadingPartPath m) with
  | none => exact ⟨_, _, Missing.part hi⟩
  | some i =>
    refine ⟨acceptedAt (w.journal m), w.disk.data i, fun j hj => ?_, fun j s => hclear m s j,
      fun _ _ => Option.isSome_of_eq_some hi, rfl⟩
    rw [Option.some.inj (hj.symm.trans hi)]

theorem safe_fresh (hclear : (carefulDisk care).crash w) (t : Thread) :
    (fileRules sha fmt care t).Safe (RestOk sha care t)
      (.pure ((server sha fmt (carefulDisk care)).fresh t)) w := by
  cases t with
  | fileWorker i => exact safe_pure stable_workerOk (workerOk_fresh hclear _)
  | downloadWorker i | cleanup => exact safe_done

theorem files_verified :
    Verified (server sha fmt (carefulDisk care)) (fileRules sha fmt care)
      (RestOk sha care) (FileInv sha) where
  sem _ := rfl
  inv _ := rfl
  guar t t' op w w' hne _ _ h := h.1 t' (Ne.symm hne)
  env w w' hinv h := outside_frame hinv h
  task t a p w hinv hrest htask := by
    have hsend : ∀ (t : Thread) session reply,
        (fileRules sha fmt care t).Quiet (.send session reply) :=
      fun t session reply => fileQuiet_of_hushed trivial
    cases htask with
    | chunk i fw task h =>
      exact safe_handler ⟨i, rfl, h⟩ hrest (safe_handleResourceChunk (hrest.1 _ ⟨i, rfl, h⟩))
    | progress i fw task h =>
      exact safe_handler ⟨i, rfl, h⟩ hrest
        (safe_handleResourceUploadProgress (hrest.1 _ ⟨i, rfl, h⟩))
    | proof i fw task h =>
      exact safe_handler ⟨i, rfl, h⟩ hrest (safe_handleInstantProof (hrest.1 _ ⟨i, rfl, h⟩))
    | downInfo i dw task h =>
      exact safe_of_calls (handleResourceDownInfo_calls fileQuiet_observes
        (fun session reply _ => hsend _ session reply) _ _) (stable_const True) trivial
    | chunkDown i dw task h =>
      exact safe_of_calls (handleResourceChunkDown_calls fileQuiet_observes
        (fun session reply _ => hsend _ session reply) _ _) (stable_const True) trivial
    | round pages =>
      exact safe_runResourceCleanup fileQuiet_observes
        (fun path name above w hpath => safe_cleanupRemove (stable_const True)
          (fun _ _ _ => trivial) (fun _ _ => .inl (ne_blobPath_of_uploading hpath)) trivial)
        (fun path name w _ => safe_sweepBlob) (fun _ => fileQuiet_of_hushed trivial)
        fmt pages w
  restart w w' hinv h := by
    obtain ⟨hclear, rfl⟩ := h
    have hinv' : FileInv sha { w with mutex := none } :=
      ⟨hinv.numbered, hinv.blobs, hinv.births, hinv.kept⟩
    exact ⟨hinv', safe_fresh hclear⟩

theorem run_ok {c : Config (server sha fmt (carefulDisk care))}
    (h : Run sha fmt (carefulDisk care) c) :
    c.Ok (fileRules sha fmt care) (RestOk sha care) (FileInv sha) := by
  have hempty : FileInv sha {} := ⟨nofun, nofun, nofun, nofun⟩
  have hboot : ((server sha fmt (carefulDisk care)).boot {}).Ok
      (fileRules sha fmt care) (RestOk sha care) (FileInv sha) :=
    ⟨hempty, safe_fresh nofun⟩
  exact hboot.steps files_verified h

/-! ### Content-addressed integrity -/

/-- **Blobs have the content their name says**, in every run in which `unlink`
takes the `.part` name of a linked file away and the process does not die
before it has, and whose byte strings have different digests. -/
theorem blob_content {met : Set (List UInt8)} (hinj : met.InjOn sha)
    {c : Config (server sha fmt (carefulDisk ⟨True, met, hinj⟩))}
    (h : Run sha fmt (carefulDisk ⟨True, met, hinj⟩) c) {s : String} {data : List UInt8}
    (hdata : c.world.disk.contents (resourceBlobPath s) = some data) : sha data = s := by
  obtain ⟨i, hi, rfl⟩ := Option.map_eq_some_iff.mp hdata
  exact (run_ok h).1.blobs s i hi

/-- The small installation with a file system whose calls of some kind fail. -/
def fsyncFails : Op → Choice
  | .fsync _ => { fails := true }
  | _ => {}

def unlinkFails : Op → Choice
  | .unlink _ => { fails := true }
  | _ => {}

/-- The upload of the only chunk then. -/
def uploadWith (choose : Op → Choice) : Option (FileWorker × World) :=
  (handleResourceChunk onlyChunk {}).runAll (fun op w => exec paddedHex uploader op (choose op) w)
    beforeUpload

/-- An upload that nothing disturbs leaves a blob. -/
theorem blob_content_uploaded :
    ∃ c s, Run paddedHex (fun _ => "")
        (carefulDisk ⟨True, Set.univ, paddedHex_injective.injOn⟩) c ∧
      c.world.disk.contents (resourceBlobPath s) = some [1, 2, 3] ∧ paddedHex [1, 2, 3] = s := by
  obtain ⟨⟨fw, w⟩, hrun⟩ : ∃ x, uploadWith (fun _ => {}) = some x :=
    Option.isSome_iff_exists.mp (by decide +kernel)
  have hblob : (uploadWith (fun _ => {})).map (fun x =>
      x.2.disk.contents (resourceBlobPath (paddedHex [1, 2, 3]))) = some (some [1, 2, 3]) := by
    decide +kernel
  rw [hrun] at hblob
  have hblob := Option.some.inj hblob
  have hreach := run_onlyChunk (fun _ => "")
    (carefulDisk ⟨True, Set.univ, paddedHex_injective.injOn⟩)
    (fun _ _ => ⟨fun _ _ => rfl, nofun, Set.subset_univ _⟩) hrun
  exact ⟨_, _, hreach, hblob, blob_content paddedHex_injective.injOn hreach hblob⟩

/-- Another chunk for the same place. -/
def otherChunk : ChunkTask := ⟨1, 1, 0, paddedHex [9, 9, 9], [9, 9, 9]⟩

/-- `unlink` fails after `link`; the next chunk for the message differs from what
is on disk, so the file is cut back, under both of its names. -/
theorem blob_content_lost :
    Function.Injective paddedHex ∧
      ∃ c, Run paddedHex (fun _ => "") anything c ∧
        c.world.disk.contents (resourceBlobPath (paddedHex [1, 2, 3])) = some [] ∧
        paddedHex [] ≠ paddedHex [1, 2, 3] := by
  refine ⟨paddedHex_injective, ?_⟩
  obtain ⟨⟨fw, w⟩, hrun⟩ : ∃ x, uploadWith unlinkFails = some x :=
    Option.isSome_iff_exists.mp (by decide +kernel)
  have hafter : ((uploadWith unlinkFails).bind fun x =>
      ((handleResourceChunk otherChunk x.1).runAll
        (fun op w => exec paddedHex uploader op {} w) x.2).map fun y =>
          y.2.disk.contents (resourceBlobPath (paddedHex [1, 2, 3]))) =
      some (some []) := by decide +kernel
  rw [hrun, Option.bind_some] at hafter
  obtain ⟨⟨fw', w'⟩, hrun', hblob⟩ := Option.map_eq_some_iff.mp hafter
  have hreach := run_onlyChunk (fun _ => "") anything (fun _ _ => trivial) hrun
  have hreach' := hreach.trans (steps_serve (t := uploader) (Config.prog_update _ _ _ _)
    (.chunk ⟨1, by decide⟩ fw otherChunk rfl) (fun _ _ => trivial) hrun')
  exact ⟨_, hreach', hblob, by decide⟩

/-! ### Sessions and files -/

/-- The bytes of the `.part` file of a message. -/
def partBytes (w : World) (m : Int) : List UInt8 :=
  (w.disk.contents (resourceUploadingPartPath m)).getD []

theorem Part.partBytes_eq {acc : Nat → Option (List UInt8)} {d : List UInt8}
    (h : Part care m acc d w) (hthere : ¬care.vanish) : partBytes w m = d := by
  unfold partBytes Disk.contents
  cases hi : w.disk.names (resourceUploadingPartPath m) with
  | some i => exact h.content i hi
  | none =>
    by_contra hne
    have hsome := h.there hthere (Ne.symm hne)
    rw [hi] at hsome
    cases hsome

/-- **Sessions agree with their files.**  What a session has received is the
chunks that were accepted, the stream has absorbed it, and a file is linked into
the blob store only under the digest it has. -/
theorem upload_sessions_agree {met : Set (List UInt8)} (hinj : met.InjOn sha)
    {c : Config (server sha fmt (carefulDisk ⟨False, met, hinj⟩))}
    (h : Run sha fmt (carefulDisk ⟨False, met, hinj⟩) c) :
    (∀ i fw m s, c.prog (.fileWorker i) = .pure fw → fw.uploadSessions m = some s →
      s.received ≤ s.fileSizeBytes ∧
      (resourceUploadChunkSize ∣ s.received ∨ s.received = s.fileSizeBytes) ∧
      s.received ≤ (partBytes c.world m).length ∧
      (partBytes c.world m).take s.received =
        acceptedBytes (acceptedAt (c.world.journal m)) s.received ∧
      (s.hashValid = true → s.finalHex = "" →
        s.hasher.absorbed = (partBytes c.world m).take s.received)) ∧
    ∀ t source target k, c.prog t = .call (.link source target) k → ∃ m r data,
      source = resourceUploadingPartPath m ∧ c.world.db.messageResource m = some r ∧
        target = resourceBlobPath r.sha256 ∧ c.world.disk.contents source = some data ∧
        sha data = r.sha256 := by
  have hok := run_ok h
  refine ⟨fun i fw m s hprog hs => ?_, fun t source target k hprog => ?_⟩
  · have hworker : WorkerOk sha ⟨False, met, hinj⟩ (.fileWorker i) fw c.world :=
      hok.rest files_verified hprog
    obtain ⟨acc, d, hsession⟩ := (hworker.1 m (hworker.2 m s hs)).2 s hs
    have hrec := hsession.received
    have hlen : (d.take s.received).length = s.received := by
      rw [List.length_take, Nat.min_eq_left hrec.le_length]
    rw [hsession.part.partBytes_eq not_false, hsession.part.journal]
    refine ⟨hrec.le_total, hrec.aligned, hrec.le_length, ?_, fun hv hhex => ?_⟩
    · have hbytes := hrec.accepted.eq_acceptedBytes
      rwa [hlen] at hbytes
    · rw [hsession.hash.2 hv hhex]
  · have hsome : (exec sha t (.link source target) {} c.world).isSome :=
      exec_link_isSome source target
    obtain ⟨⟨r, w'⟩, hexec⟩ := Option.isSome_iff_exists.mp hsome
    have hguar := hok.guar files_verified hprog ⟨{}, ⟨nofun, nofun, Set.empty_subset _⟩, hexec⟩
    obtain ⟨m, r, hsource, hrow, htarget, hsha, hthere⟩ := hguar.2 source target rfl
    obtain ⟨data, hdata⟩ := Option.isSome_iff_exists.mp (hthere not_false)
    exact ⟨m, r, data, hsource, hrow, htarget, hdata, hsha data hdata⟩

/-- An upload that is complete but could not be flushed to disk keeps its
session. -/
theorem upload_sessions_agree_complete :
    ∃ c, Run paddedHex (fun _ => "")
        (carefulDisk ⟨False, Set.univ, paddedHex_injective.injOn⟩) c ∧ ∃ fw s,
      c.prog uploader = .pure fw ∧ fw.uploadSessions 1 = some s ∧ s.received = 3 ∧
        (partBytes c.world 1).take 3 = acceptedBytes (acceptedAt (c.world.journal 1)) 3 := by
  obtain ⟨⟨fw, w⟩, hrun⟩ : ∃ x, uploadWith fsyncFails = some x :=
    Option.isSome_iff_exists.mp (by decide +kernel)
  have hsession : (uploadWith fsyncFails).map (fun x => (x.1.uploadSessions 1).map (·.received)) =
      some (some 3) := by decide +kernel
  rw [hrun] at hsession
  obtain ⟨s, hs, hrec⟩ := Option.map_eq_some_iff.mp (Option.some.inj hsession)
  have hreach := run_onlyChunk (fun _ => "")
    (carefulDisk ⟨False, Set.univ, paddedHex_injective.injOn⟩)
    (fun op _ => ⟨by rintro path rfl; rfl, nofun, Set.subset_univ _⟩) hrun
  refine ⟨_, hreach, fw, s, Config.prog_update _ _ _ _, hs, hrec, ?_⟩
  have hbytes := ((upload_sessions_agree paddedHex_injective.injOn hreach).1 _ fw 1 s
    (Config.prog_update _ _ uploader _) hs).2.2.2.1
  rw [hrec] at hbytes
  exact hbytes

end LlfcChat.Resource.Upload
