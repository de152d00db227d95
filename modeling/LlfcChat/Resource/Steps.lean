/-
What one call can do, by kinds of calls.

Most calls of the handlers look and do not touch, and most of the others touch
the disk only, without taking a blob away.  The programs of `UploadFile.lean`
make no other calls; a proof about something that such calls leave alone need
not look into them.
-/
import LlfcChat.Resource.Server
import LlfcChat.Db.Resources

namespace LlfcChat.Resource

open Conc Conc.Prog FileSystem

variable {sha : List UInt8 → String} {t : Thread} {op : Op} {c : Choice} {w w' : World}

/-! ### Kinds of calls -/

/-- The call changes nothing. -/
def Op.Observes : Op → Prop
  | .resizeFile .. | .createFile _ | .createNew _ | .write .. | .link .. | .unlink _ | .remove _
  | .lock | .unlock | .dao .. | .send .. | .post _ | .note .. => False
  | _ => True

/-- The call changes at most the disk, and no blob is taken away. -/
def Op.Files : Op → Prop
  | .resizeFile .. | .createFile _ | .createNew _ | .write .. | .link .. => True
  | .unlink path | .remove path => ∀ h, path ≠ resourceBlobPath h
  | op => op.Observes

theorem Op.Observes.files (h : op.Observes) : op.Files := by
  cases op <;> first | exact h | exact h.elim

-- each kind of call is read off `exec` once, by a lemma of this module
attribute [local simp] exec

theorem exec_observes (h : op.Observes) {r : Res op} (he : exec sha t op c w = some (r, w')) :
    w' = w := by
  cases op <;> first
    | exact h.elim
    | (simp only [exec, Option.some.injEq, Prod.mk.injEq] at he; exact he.2.symm)

/-! ### Calls that change the disk -/

section Disk

variable {path : Path}

variable {r : Bool}

theorem exec_resizeFile {size : Nat} (he : exec sha t (.resizeFile path size) c w = some (r, w')) :
    r = false ∧ w' = w ∨ r = true ∧ ∃ i, w.disk.names path = some i ∧
      w' = { w with disk := w.disk.setData i (resized (w.disk.data i) size) } := by
  simp only [exec] at he
  split at he
  · simp_all
  · rename_i i hi
    split at he <;> simp only [Option.some.injEq, Prod.mk.injEq] at he
    · exact .inl ⟨he.1.symm, he.2.symm⟩
    · exact .inr ⟨he.1.symm, i, hi, he.2.symm⟩

theorem exec_createFile (he : exec sha t (.createFile path) c w = some (r, w')) :
    r = false ∧ w' = w ∨ r = true ∧ (w.disk.names path).isSome ∧ w' = w ∨
      r = true ∧ w.disk.names path = none ∧ w' = { w with disk := w.disk.create path } := by
  simp only [exec] at he
  split at he
  · simp_all
  · split at he
    · simp_all
    · rename_i hnone
      simp_all

theorem exec_createNew {r : Option Handle} (he : exec sha t (.createNew path) c w = some (r, w')) :
    r = none ∧ w' = w ∨ w.disk.names path = none ∧ r = some ⟨path, w.disk.serial⟩ ∧
      w' = { w with disk := w.disk.create path } := by
  simp only [exec] at he
  split at he
  · simp_all
  · rename_i hnone
    simp_all

theorem exec_write {file : Handle} {offset : Nat} {data : List UInt8}
    (he : exec sha t (.write file offset data) c w = some (r, w')) :
    ∃ n, (r = true → data.length ≤ n) ∧
      w' = { w with disk :=
        w.disk.setData file (overlay (w.disk.data file) offset (data.take n)) } := by
  simp only [exec, Option.some.injEq, Prod.mk.injEq] at he
  obtain ⟨hr, rfl⟩ := he
  cases hc : c.fails with
  | true =>
    refine ⟨c.written, fun h => ?_, by simp⟩
    rw [← hr, hc] at h
    cases h
  | false => exact ⟨data.length, fun _ => Nat.le_refl _, by simp⟩

theorem exec_link {source target : Path} {r : LinkResult}
    (he : exec sha t (.link source target) c w = some (r, w')) :
    r = .failed ∧ w' = w ∨ r = .exists ∧ (w.disk.names target).isSome ∧ w' = w ∨
      r = .linked ∧ ∃ i, w.disk.names source = some i ∧ w.disk.names target = none ∧
        w' = { w with disk := w.disk.link i target } := by
  simp only [exec] at he
  split at he
  · simp_all
  · split at he
    · simp_all
    · split at he
      · simp_all
      · rename_i hnone
        simp_all

theorem exec_link_isSome (source target : Path) :
    (exec sha t (.link source target) c w).isSome := by
  simp only [exec]
  split
  · rfl
  · split_ifs <;> rfl

theorem exec_unlink (he : exec sha t (.unlink path) c w = some (r, w')) :
    r = false ∧ (c.fails = true ∨ w.disk.names path = none) ∧ w' = w ∨
      r = true ∧ w' = { w with disk := w.disk.unlink path } := by
  simp only [exec] at he
  split at he
  · rename_i h
    simp_all
  · simp_all

theorem exec_remove {r : RemoveResult} (he : exec sha t (.remove path) c w = some (r, w')) :
    r = .failed ∧ w' = w ∨ r = .missing ∧ w.disk.names path = none ∧ w' = w ∨
      r = .removed ∧ w' = { w with disk := w.disk.unlink path } := by
  simp only [exec] at he
  split at he
  · simp_all
  · split at he
    · rename_i h
      simp_all
    · simp_all

end Disk

/-! ### Other calls -/

variable {C : Op → Prop} {path : Path} {r : Unit}

theorem exec_lock (he : exec sha t .lock c w = some (r, w')) :
    (∀ t', w.mutex ≠ some t') ∧ w' = { w with mutex := some t } := by
  simp only [exec] at he
  split at he
  · cases he
  · rename_i h
    simp_all

theorem ne_of_holder (h : w.mutex = some t) {t' : Thread} (hne : t' ≠ t) : w.mutex ≠ some t' :=
  fun e => hne (Option.some.inj (e.symm.trans h))

theorem exec_unlock (he : exec sha t .unlock c w = some (r, w')) :
    w' = { w with mutex := none } := by
  simp only [exec, Option.some.injEq, Prod.mk.injEq] at he
  exact he.2.symm

theorem exec_dao {call : Call} {attempt : Nat} {r : Outcome}
    (he : exec sha t (.dao call attempt) c w = some (r, w')) :
    r = (call.turn attempt c.faults w.db).2 ∧
      w' = { w with db := (call.turn attempt c.faults w.db).1 } := by
  simp only [exec, Option.some.injEq, Prod.mk.injEq] at he
  exact ⟨he.1.symm, he.2.symm⟩

theorem exec_send {session : Nat} {reply : Reply}
    (he : exec sha t (.send session reply) c w = some (r, w')) :
    w' = { w with sent := w.sent ++ [⟨session, reply⟩] } := by
  simp only [exec, Option.some.injEq, Prod.mk.injEq] at he
  exact he.2.symm

theorem exec_post {n : Notification} (he : exec sha t (.post n) c w = some (r, w')) :
    w' = { w with notified := w.notified ++ [n] } := by
  simp only [exec, Option.some.injEq, Prod.mk.injEq] at he
  exact he.2.symm

theorem exec_note {m : Int} {e : Event} (he : exec sha t (.note m e) c w = some (r, w')) :
    w' = { w with journal := fun n => if n = m then w.journal n ++ [e] else w.journal n } := by
  simp only [exec, Option.some.injEq, Prod.mk.injEq] at he
  exact he.2.symm

theorem exec_getChatMsgById {m : Int} {r : ChatMsgLookup}
    (he : exec sha t (.getChatMsgById m) c w = some (r, w')) :
    (∀ msg, r = .found msg → w.db.resourceMessage m = some msg) ∧ w' = w := by
  obtain ⟨rfl, rfl⟩ := he
  refine ⟨fun msg hr => ?_, rfl⟩
  split at hr
  · cases hr
  · split at hr
    · cases hr
    · rename_i hmsg
      cases hr
      exact hmsg

/-! ### Calls that touch files only -/

/-- Every blob that was there is there, and is the same file. -/
def KeepsBlobs (w w' : World) : Prop :=
  ∀ h i, w.disk.names (resourceBlobPath h) = some i → w'.disk.names (resourceBlobPath h) = some i

theorem KeepsBlobs.refl (w : World) : KeepsBlobs w w := fun _ _ h => h

theorem KeepsBlobs.isSome (hw : KeepsBlobs w w') {h : String}
    (hh : (w.disk.names (resourceBlobPath h)).isSome) :
    (w'.disk.names (resourceBlobPath h)).isSome := by
  obtain ⟨i, hi⟩ := Option.isSome_iff_exists.mp hh
  exact Option.isSome_of_eq_some (hw h i hi)

theorem ne_of_names {path' : Path} {i : Handle} (h : w.disk.names path = some i)
    (h' : w.disk.names path' = none) : path ≠ path' := by
  rintro rfl
  rw [h] at h'
  cases h'

theorem keepsBlobs_create (hpath : w.disk.names path = none) :
    KeepsBlobs w { w with disk := w.disk.create path } := fun _ _ hi =>
  (Disk.create_names_of_ne (ne_of_names hi hpath)).trans hi

theorem keepsBlobs_link (i : Handle) (hpath : w.disk.names path = none) :
    KeepsBlobs w { w with disk := w.disk.link i path } := fun _ _ hi =>
  (Disk.link_names_of_ne i (ne_of_names hi hpath)).trans hi

theorem keepsBlobs_unlink (hpath : ∀ h, path ≠ resourceBlobPath h) :
    KeepsBlobs w { w with disk := w.disk.unlink path } := fun h _ hi =>
  (Disk.unlink_names_of_ne (Ne.symm (hpath h))).trans hi

/-- **A call on files** changes the disk at most, and keeps the blobs. -/
theorem exec_files (h : op.Files) {r : Res op} (he : exec sha t op c w = some (r, w')) :
    (∃ d, w' = { w with disk := d }) ∧ KeepsBlobs w w' := by
  have same : ∀ {w₁ : World}, w₁ = w → (∃ d, w₁ = { w with disk := d }) ∧ KeepsBlobs w w₁ := by
    rintro _ rfl
    exact ⟨⟨_, rfl⟩, .refl _⟩
  cases op with
  | resizeFile path size =>
    obtain ⟨-, rfl⟩ | ⟨-, i, -, rfl⟩ := exec_resizeFile he
    · exact same rfl
    · exact ⟨⟨_, rfl⟩, fun _ _ h => h⟩
  | createFile path =>
    obtain ⟨-, rfl⟩ | ⟨-, -, rfl⟩ | ⟨-, hpath, rfl⟩ := exec_createFile he
    · exact same rfl
    · exact same rfl
    · exact ⟨⟨_, rfl⟩, keepsBlobs_create hpath⟩
  | createNew path =>
    obtain ⟨-, rfl⟩ | ⟨hpath, -, rfl⟩ := exec_createNew he
    · exact same rfl
    · exact ⟨⟨_, rfl⟩, keepsBlobs_create hpath⟩
  | write file offset data =>
    obtain ⟨n, -, rfl⟩ := exec_write he
    exact ⟨⟨_, rfl⟩, fun _ _ h => h⟩
  | link source target =>
    obtain ⟨-, rfl⟩ | ⟨-, -, rfl⟩ | ⟨-, i, -, hpath, rfl⟩ := exec_link he
    · exact same rfl
    · exact same rfl
    · exact ⟨⟨_, rfl⟩, keepsBlobs_link _ hpath⟩
  | unlink path =>
    obtain ⟨-, -, rfl⟩ | ⟨-, rfl⟩ := exec_unlink he
    · exact same rfl
    · exact ⟨⟨_, rfl⟩, keepsBlobs_unlink h⟩
  | remove path =>
    obtain ⟨-, rfl⟩ | ⟨-, -, rfl⟩ | ⟨-, rfl⟩ := exec_remove he
    · exact same rfl
    · exact same rfl
    · exact ⟨⟨_, rfl⟩, keepsBlobs_unlink h⟩
  | _ =>
    refine same (exec_observes ?_ he)
    exact h

/-- What is common to all calls: they do not turn the clock or log anybody in,
and only a note goes to a journal. -/
theorem exec_frame {r : Res op} (he : exec sha t op c w = some (r, w')) :
    Changes w.db w'.db ∧ w'.clock = w.clock ∧ w'.clients = w.clients ∧
      (∀ n, (∀ e, op ≠ .note n e) → w'.journal n = w.journal n) := by
  cases op with
  | note m e =>
    obtain rfl := exec_note he
    exact ⟨.refl, rfl, rfl, fun n h => if_neg fun hn => absurd (hn ▸ rfl) (h e)⟩
  | send session reply =>
    obtain rfl := exec_send he
    exact ⟨.refl, rfl, rfl, fun _ _ => rfl⟩
  | post n =>
    obtain rfl := exec_post he
    exact ⟨.refl, rfl, rfl, fun _ _ => rfl⟩
  | lock =>
    obtain ⟨-, rfl⟩ := exec_lock he
    exact ⟨.refl, rfl, rfl, fun _ _ => rfl⟩
  | unlock =>
    obtain rfl := exec_unlock he
    exact ⟨.refl, rfl, rfl, fun _ _ => rfl⟩
  | dao call attempt =>
    obtain ⟨-, rfl⟩ := exec_dao he
    exact ⟨turn_changes _ _ _ _, rfl, rfl, fun _ _ => rfl⟩
  | unlink path =>
    obtain ⟨-, -, rfl⟩ | ⟨-, rfl⟩ := exec_unlink he <;> exact ⟨.refl, rfl, rfl, fun _ _ => rfl⟩
  | remove path =>
    obtain ⟨-, rfl⟩ | ⟨-, -, rfl⟩ | ⟨-, rfl⟩ := exec_remove he <;>
      exact ⟨.refl, rfl, rfl, fun _ _ => rfl⟩
  | _ =>
    have hfiles := fun hop => exec_files hop he
    obtain ⟨⟨d, rfl⟩, -⟩ := hfiles trivial
    exact ⟨.refl, rfl, rfl, fun _ _ => rfl⟩

/-! ### Programs that touch files only -/

theorem calls_files {α : Type} {p : Prog α} (h : p.Calls Op.Observes) : p.Calls Op.Files :=
  h.mono fun _ => Op.Observes.files

/-- A result that may be missing. -/
theorem calls_opt {α γ : Type} {p : Prog (Option γ)} {f : Option γ → Prog α} (hp : p.Calls C)
    (hnone : (f none).Calls C) (hsome : ∀ x, (f (some x)).Calls C) : (p >>= f).Calls C :=
  calls_bind hp fun r => by
    cases r with
    | none => exact hnone
    | some x => exact hsome x

theorem readLength_observes (path : Path) : (readLength path).Calls Op.Observes := by
  refine calls_step trivial fun r => ?_
  cases r with
  | found => exact calls_perform trivial
  | notFound | error => exact calls_pure _

theorem hashRange_observes (path : Path) (offset length : Nat) :
    (hashRange path offset length).Calls Op.Observes := by
  refine calls_opt (calls_perform trivial) (calls_pure _) fun file => ?_
  refine calls_opt (calls_perform trivial) (calls_pure _) fun data => ?_
  exact calls_guard fun _ => calls_perform trivial

theorem sha256FileHex_observes (path : Path) : (sha256FileHex path).Calls Op.Observes := by
  refine calls_opt (calls_perform trivial) (calls_pure _) fun file => ?_
  refine calls_opt (calls_perform trivial) (calls_pure _) fun data => ?_
  exact calls_perform trivial

theorem openUpload_files (path : Path) (offset : Nat) :
    (openUpload path offset).Calls Op.Files := by
  refine calls_step trivial fun r => ?_
  cases r with
  | some file => exact calls_pure _
  | none =>
    refine calls_guard fun _ => calls_step trivial fun r => ?_
    exact calls_ite (fun _ => calls_perform trivial) fun _ => calls_pure _

theorem writeAndVerify_files (path : Path) (offset : Nat) (data : List UInt8) :
    (writeAndVerify path offset data).Calls Op.Files := by
  refine calls_opt (openUpload_files path offset) (calls_pure _) fun file => ?_
  refine calls_step trivial fun r => calls_ite (fun _ => ?_) fun _ => calls_pure _
  refine calls_step trivial fun r => ?_
  cases r with
  | none | some readback => exact calls_pure _

theorem truncateUploadFile_files (path : Path) (received : Nat) :
    (truncateUploadFile path received).Calls Op.Files := by
  refine calls_opt (calls_files (readLength_observes path)) (calls_pure _) fun size => ?_
  exact calls_guard fun _ =>
    calls_guard fun _ => calls_perform trivial

theorem recoverUploadFile_files (path : Path) (totalSize chunkSize : Nat) :
    (recoverUploadFile path totalSize chunkSize).Calls Op.Files := by
  refine calls_guard fun _ =>
    calls_opt (calls_files (readLength_observes path)) (calls_pure _) fun size => ?_
  exact calls_bind (truncateUploadFile_files path _) fun _ =>
    calls_guard fun _ => calls_pure _

theorem writeUploadChunk_files (path : Path) (totalSize chunkSize offset : Nat)
    (data : List UInt8) (chunkSha256 : String) (received : Nat) :
    (writeUploadChunk path totalSize chunkSize offset data chunkSha256 received).Calls
      Op.Files := by
  have hrepeated : (repeatedChunk path offset data chunkSha256 received).Calls Op.Files :=
    calls_bind (calls_files (hashRange_observes path offset _)) fun _ => calls_guard fun _ =>
      calls_guard fun _ => calls_bind (truncateUploadFile_files path _) fun _ =>
      calls_guard fun _ => calls_pure _
  have happend : (appendChunk path offset data received).Calls Op.Files :=
    calls_step trivial fun _ => calls_ite (fun _ =>
      calls_bind (writeAndVerify_files path offset data) fun _ => calls_ite (fun _ => calls_pure _)
        fun _ => calls_then (truncateUploadFile_files path _))
      fun _ => calls_pure _
  unfold writeUploadChunk
  split
  · exact calls_pure _
  · exact calls_guard fun _ => calls_step trivial fun _ =>
      calls_guard fun _ =>
      calls_ite (fun _ => hrepeated) fun _ => happend

theorem ensureDirectoryDurable_observes (dir : Path) :
    (ensureDirectoryDurable dir).Calls Op.Observes := by
  have hmissing : ∀ dirs : List Path, (missingLevels dirs).Calls Op.Observes := by
    intro dirs
    induction dirs with
    | nil => exact calls_pure _
    | cons dir dirs ih =>
      exact calls_step trivial fun _ => calls_guard fun _ =>
        calls_then ih
  have hcreate : ∀ dirs : List Path, (createLevels dirs).Calls Op.Observes := by
    intro dirs
    induction dirs with
    | nil => exact calls_pure _
    | cons dir dirs ih =>
      exact calls_step trivial fun _ => calls_ite (fun _ => ih) fun _ =>
        calls_step trivial fun _ => calls_ite (fun _ => ih) fun _ => calls_pure _
  have hfsync : ∀ dirs : List Path, (fsyncLevels dirs).Calls Op.Observes := by
    intro dirs
    induction dirs with
    | nil => exact calls_pure _
    | cons dir dirs ih =>
      exact calls_step trivial fun _ => calls_ite (fun _ => ih) fun _ =>
        calls_pure _
  exact calls_guard fun _ => calls_bind (hmissing _) fun _ =>
    calls_bind (hcreate _) fun _ => calls_ite (fun _ => hfsync _) fun _ => calls_pure _

theorem durableRename_files {source : Path} (hsource : ∀ h, source ≠ resourceBlobPath h)
    (target : Path) : (durableRename source target).Calls Op.Files := by
  refine calls_bind (calls_files (ensureDirectoryDurable_observes _)) fun _ =>
    calls_ite (fun _ => ?_) fun _ => calls_pure _
  refine calls_step trivial fun r => ?_
  cases r with
  | «exists» | failed => exact calls_pure _
  | linked =>
    refine calls_step hsource fun _ => calls_ite (fun _ => ?_) fun _ => calls_pure _
    refine calls_step trivial fun _ => calls_ite (fun _ => ?_) fun _ => calls_pure _
    exact calls_step trivial fun _ => calls_pure _

theorem copyFile_files (source target : Path) : (copyFile source target).Calls Op.Files := by
  refine calls_opt (calls_perform trivial) (calls_pure _) fun input => ?_
  refine calls_opt (calls_perform trivial) (calls_pure _) fun output => ?_
  refine calls_opt (calls_perform trivial) (calls_pure _) fun data => ?_
  exact calls_perform trivial

theorem wholeHash_observes (part : Path) (session : UploadSession) :
    (wholeHash part session).Calls Op.Observes := by
  have hfinal : ∀ h : Sha256Stream, h.finalHex.Calls Op.Observes := fun h =>
    calls_guard fun _ => calls_step trivial fun _ =>
      calls_pure _
  refine calls_guard fun _ => calls_bind
    (calls_ite (fun _ => hfinal _) fun _ => calls_pure _) fun r => ?_
  exact calls_guard fun _ => calls_then (sha256FileHex_observes part)

theorem advanceHash_observes (session : UploadSession) (offset : Nat) (data : List UInt8) :
    (advanceHash session offset data).Calls Op.Observes := by
  refine calls_ite (fun _ => ?_) fun _ => calls_pure _
  refine calls_bind (calls_guard fun _ =>
    calls_step trivial fun _ => calls_guard fun _ =>
    calls_pure _) fun r => ?_
  exact calls_pure _

theorem blobTrusted_observes (base : Path) (session : UploadSession) :
    (blobTrusted base session).Calls Op.Observes :=
  calls_bind (readLength_observes base) fun _ => calls_ite (fun _ =>
    calls_bind (sha256FileHex_observes base) fun _ => calls_ite (fun _ => calls_perform trivial)
      fun _ => calls_pure _) fun _ => calls_pure _

theorem remove_part_files (m : Int) :
    (call (.remove (resourceUploadingPartPath m))).Calls Op.Files :=
  calls_perform (partPath_ne_blobPath m)

theorem restorePart_files (session : UploadSession) (m : Int) (fw : FileWorker) :
    (restorePart session m fw).Calls Op.Files := by
  have hcopy : ∀ base expected,
      (copyBack (resourceUploadingPartPath m) base expected).Calls Op.Files := by
    intro base expected
    refine calls_bind (calls_files (readLength_observes base)) fun _ =>
      calls_ite (fun _ => ?_) fun _ => calls_pure _
    refine calls_bind (remove_part_files m) fun _ => calls_bind (copyFile_files _ _) fun _ => ?_
    exact calls_ite (fun _ => calls_then (calls_files (readLength_observes _))) fun _ =>
      calls_pure _
  refine calls_bind (calls_files (readLength_observes _)) fun _ => calls_guard fun _ => ?_
  refine calls_bind (hcopy _ _) fun _ => calls_guard fun _ => ?_
  exact calls_then (recoverUploadFile_files _ _ _)

theorem findUploadSession_observes (fw : FileWorker) (m : Int) :
    (fw.findUploadSession m).Calls Op.Observes := by
  unfold FileWorker.findUploadSession
  split
  · exact calls_pure _
  · exact calls_step trivial fun _ => calls_pure _

theorem loadUploadSession_calls (hfiles : ∀ op : Op, op.Files → C op) {m : Int}
    (hnote : C (.note m .sessionLoaded)) (fw : FileWorker) (msg : ChatMessage) :
    (fw.loadUploadSession m msg).Calls C := by
  unfold FileWorker.loadUploadSession
  split
  · exact calls_pure _
  · refine calls_bind ((recoverUploadFile_files _ _ _).mono hfiles) fun r => ?_
    cases r with
    | none => exact calls_pure _
    | some received =>
      exact calls_step (hfiles _ trivial) fun _ =>
        calls_step hnote fun _ => calls_pure _

/-! ### Answers -/

/-- The answers of the tasks are calls of `Send`. -/
theorem send_calls {session : Nat} {reply : Reply} (h : ∀ session reply, C (.send session reply)) :
    (call (.send session reply)).Calls C := calls_perform (h _ _)

/-! ### Downloads -/

/-- The answers to downloads: an error comes without a status. -/
def Reply.Downloads (reply : Reply) : Prop :=
  (reply.msgType = idResourceDownInfoRsp ∨ reply.msgType = idResourceChunkDownRsp) ∧
    (reply.error = .success ∨ reply.status = none)

section Downloads

variable {C : Op → Prop} (hobs : ∀ op : Op, op.Observes → C op)
include hobs

theorem resolvePublished_calls (dw : DownloadWorker) (session : Nat) (messageId uid : Int) :
    (resolvePublished dw session messageId uid).Calls C := by
  unfold resolvePublished
  split
  · exact calls_guard fun _ =>
      calls_guard fun _ => calls_pure _
  · refine calls_step (hobs _ trivial) fun found => ?_
    split <;> exact calls_pure _

theorem fileHandle_calls (dw : DownloadWorker) (messageId : Int) (path : Path) :
    (fileHandle dw messageId path).Calls C := by
  refine calls_step (hobs _ trivial) fun now => ?_
  dsimp only
  split
  · exact calls_step (hobs _ trivial) fun _ => calls_pure _
  · refine calls_step (hobs _ trivial) fun file => ?_
    cases file with
    | none => exact calls_pure _
    | some file => exact calls_step (hobs _ trivial) fun _ => calls_pure _

variable (hsend : ∀ session reply, reply.Downloads → C (.send session reply))
include hsend

theorem handleResourceDownInfo_calls (task : DownInfoTask) (dw : DownloadWorker) :
    (handleResourceDownInfo task dw).Calls C := by
  have hfail : ∀ {error : ErrorCode} {dw : DownloadWorker},
      (do task.fail error; return dw : Prog DownloadWorker).Calls C :=
    calls_step (hsend _ _ ⟨.inl rfl, .inr rfl⟩) fun _ => calls_pure _
  refine calls_step (hobs _ trivial) fun uid =>
    calls_bind (resolvePublished_calls hobs _ _ _ _) fun r => ?_
  obtain ⟨status, dw⟩ := r
  cases status with
  | authorized entry =>
    refine calls_step (hobs _ trivial) fun status => ?_
    cases status with
    | found =>
      exact calls_step (hsend _ _ ⟨.inl rfl, .inl rfl⟩) fun _ => calls_pure _
    | _ => exact hfail
  | _ => exact hfail

theorem handleResourceChunkDown_calls (task : ChunkDownTask) (dw : DownloadWorker) :
    (handleResourceChunkDown task dw).Calls C := by
  have hreply : ∀ {error : ErrorCode} {raw : List UInt8} {hash : String} {isLast : Bool}
      {total : Nat} {dw : DownloadWorker},
      (do task.reply error raw hash isLast total; return dw : Prog DownloadWorker).Calls C :=
    calls_step (hsend _ _ ⟨.inr rfl, .inr rfl⟩) fun _ => calls_pure _
  refine calls_step (hobs _ trivial) fun uid =>
    calls_bind (resolvePublished_calls hobs _ _ _ _) fun r => ?_
  obtain ⟨status, dw⟩ := r
  cases status with
  | authorized entry =>
    refine calls_ite (fun _ => hreply) fun _ => calls_bind (fileHandle_calls hobs _ _ _) fun r => ?_
    obtain ⟨file, dw⟩ := r
    cases file with
    | none => exact hreply
    | some file =>
      refine calls_step (hobs _ trivial) fun got => ?_
      exact calls_ite (fun _ => hreply) fun _ =>
        calls_step (hobs _ trivial) fun _ => hreply
  | _ => exact hreply

end Downloads

/-! ### Transactions -/

theorem completeResourceUploadDao_calls (m sender : Int)
    (h : ∀ attempt, C (.dao (.completeResourceUpload m sender) attempt)) :
    (completeResourceUploadDao m sender).Calls C := by
  have hloop : ∀ left attempt, (completeAttempts m sender left attempt).Calls C := by
    intro left
    induction left with
    | zero => exact fun _ => calls_pure _
    | succ left ih =>
      intro attempt
      refine calls_step (h attempt) fun out => ?_
      split
      · exact calls_pure _
      · exact ih _
      · exact calls_pure _
  exact hloop _ _

theorem markResourceFailedDao_calls (m : Int) (h : C (.dao (.markResourceFailed m) 0)) :
    (markResourceFailedDao m).Calls C := by
  refine calls_step h fun out => ?_
  split <;> exact calls_pure _

/-! ### The end of an upload -/

section Completion

variable {C : Op → Prop} {task : ChunkTask} {s : UploadSession} {fw : FileWorker}
  (hfiles : ∀ op : Op, op.Files → C op) (hsend : ∀ session reply, C (.send session reply))
include hfiles hsend

theorem retryLater_calls (error : ErrorCode) : (retryLater task s error fw).Calls C :=
  calls_bind ((restorePart_files _ _ _).mono hfiles) fun _ =>
    calls_then (send_calls hsend)

variable (hdao : ∀ sender attempt,
  C (.dao (.completeResourceUpload task.messageId sender) attempt))
include hdao

theorem publishCanonical_calls : (publishCanonical task s fw).Calls C := by
  refine calls_step (hfiles _ trivial) fun found => ?_
  cases found with
  | notFound => exact calls_then (send_calls hsend)
  | transient => exact calls_then (retryLater_calls hfiles hsend _)
  | found msg =>
    refine calls_bind (completeResourceUploadDao_calls _ _ (hdao _)) fun r => ?_
    obtain ⟨r, seq⟩ := r
    cases r with
    | published | alreadyPublished => exact calls_pure _
    | notPending | notFound => exact calls_then (send_calls hsend)
    | transient => exact calls_then (retryLater_calls hfiles hsend _)

theorem installAndPublish_calls : (installAndPublish task s fw).Calls C := by
  have hretry : (do return .replied (← retryLater task s .fileWritePermissionFailed fw) :
      Prog PublishOutcome).Calls C :=
    calls_then (retryLater_calls hfiles hsend _)
  refine calls_bind ((calls_files (ensureDirectoryDurable_observes _)).mono hfiles) fun _ =>
    calls_ite (fun _ => ?_) fun _ => hretry
  refine calls_bind ((durableRename_files (partPath_ne_blobPath _) _).mono hfiles) fun r => ?_
  obtain ⟨renamed, existed⟩ := r
  cases renamed with
  | false => exact hretry
  | true =>
    cases existed with
    | false => exact publishCanonical_calls hfiles hsend hdao
    | true =>
      refine calls_bind ((calls_files (blobTrusted_observes _ _)).mono hfiles) fun _ =>
        calls_ite (fun _ => ?_) fun _ => hretry
      exact calls_bind ((remove_part_files _).mono hfiles) fun _ =>
        publishCanonical_calls hfiles hsend hdao

variable (hlock : C .lock) (hunlock : C .unlock) (hpost : ∀ n, C (.post n))
  (hfailed : C (.dao (.markResourceFailed task.messageId) 0))
include hlock hunlock hpost hfailed

/-- What `CompleteResourceUpload` calls. -/
theorem completeResourceUpload_calls : (completeResourceUpload task s fw).Calls C := by
  refine calls_bind ((calls_files (wholeHash_observes _ _)).mono hfiles) fun r => ?_
  refine calls_ite (fun _ => calls_then (send_calls hsend)) fun _ =>
    calls_ite (fun _ => ?_) fun _ => ?_
  · refine calls_ite (fun _ => ?_) fun _ => ?_
    · refine calls_bind (markResourceFailedDao_calls _ hfailed) fun _ =>
        calls_ite (fun _ => ?_) fun _ => calls_then (send_calls hsend)
      exact calls_bind ((remove_part_files _).mono hfiles) fun _ =>
        calls_then (send_calls hsend)
    · refine calls_bind ((remove_part_files _).mono hfiles) fun r => ?_
      cases r <;> exact calls_then (send_calls hsend)
  · refine calls_step (hfiles _ trivial) fun _ => calls_ite (fun _ => ?_) fun _ =>
      calls_then (send_calls hsend)
    refine calls_step hlock fun _ =>
      calls_bind (installAndPublish_calls hfiles hsend hdao) fun out =>
        calls_step hunlock fun _ => ?_
    cases out with
    | replied fw => exact calls_pure _
    | published msg seq =>
      exact calls_bind (send_calls hsend) fun _ =>
        calls_step (hpost _) fun _ => calls_pure _

end Completion

theorem issueChallenge_calls (task : ProgressTask) (r : MessageResource) (upload : UploadSession)
    (hobs : ∀ op : Op, op.Observes → C op)
    (hsend : ∀ session reply, reply.status = some MessageStatus.pending.toInt →
      C (.send session reply)) (hnote : ∀ m session nonce offset length now,
      C (.note m (.challengeIssued session nonce offset length now))) :
    (issueChallenge task r upload).Calls C := by
  refine calls_opt (calls_perform (hobs _ trivial)) (calls_pure _) fun nonceRaw => ?_
  refine calls_opt (calls_perform (hobs _ trivial)) (calls_pure _) fun offRaw => ?_
  refine calls_step (hobs _ trivial) fun now => ?_
  refine calls_step (hnote _ _ _ _ _ _) fun _ => ?_
  exact calls_step (hsend _ _ rfl) fun _ => calls_pure _

theorem checkProof_calls (task : ProofTask) (q : MessageResource) (s : UploadSession)
    (hobs : ∀ op : Op, op.Observes → C op)
    (hnote : ∀ m session ok, C (.note m (.proofCompared session ok))) :
    (checkProof task q s).Calls C := by
  refine calls_opt (calls_perform (hobs _ trivial)) (calls_pure _) fun file => ?_
  refine calls_opt (calls_perform (hobs _ trivial)) (calls_pure _) fun bytes => ?_
  refine calls_guard fun _ =>
    calls_step (hobs _ trivial) fun expect => ?_
  refine calls_guard fun _ =>
    calls_step (hnote _ _ _) fun _ => ?_
  exact calls_guard fun _ => calls_pure _

/-! ### The cleanup thread -/

/-- The blob path of a digest, read from its end. -/
theorem blobPath_reverse {h name parent : String} {above : Path} (e : resourceBlobPath h = path)
    (hpath : path.reverse = name :: parent :: above) :
    h = name ∧ parent = String.ofList (h.toList.take 2) := by
  rw [← e] at hpath
  simp only [resourceBlobPath, List.reverse_cons, List.reverse_nil, List.nil_append,
    List.cons_append, List.cons.injEq] at hpath
  exact ⟨hpath.1, hpath.2.1.symm⟩

theorem ne_blobPath_of_uploading {name : String} {above : Path}
    (hpath : path.reverse = name :: "uploading" :: above) (h : String) :
    path ≠ resourceBlobPath h := by
  intro e
  have hparent := (blobPath_reverse e.symm hpath).2
  have hlen := congrArg (fun s : String => s.toList.length) hparent
  simp only [String.toList_ofList, List.length_take] at hlen
  have hnine : "uploading".toList.length = 9 := by decide
  omega

section Cleanup

variable {W : Type} {R : Rules Op Res W} (hobs : ∀ op : Op, op.Observes → R.Quiet op)
include hobs

theorem expirePages_calls (hdao : ∀ ids, R.Quiet (.dao (.markResourceExpired ids) 0))
    (now : Int) (before : String) (pages : Nat) (createdAt : String) (id : Int) :
    (expirePages now before pages createdAt id).Calls R.Quiet := by
  have hstale : ∀ items, (staleItems now items).Calls R.Quiet := by
    intro items
    induction items with
    | nil => exact calls_pure _
    | cons item items ih =>
      exact calls_step (hobs _ trivial) fun _ => calls_bind ih fun _ =>
        calls_guard fun _ => calls_pure _
  have hmark : ∀ items, (markResourceExpiredDao items).Calls R.Quiet := by
    intro items
    refine calls_step (hdao _) fun out => ?_
    split <;> exact calls_pure _
  induction pages generalizing createdAt id with
  | zero => exact calls_pure _
  | succ pages ih =>
    refine calls_opt (calls_perform (hobs _ trivial)) (calls_pure _) fun page => ?_
    dsimp only
    split
    · exact calls_pure _
    · refine calls_bind (hstale _) fun items => calls_ite (fun _ => ?_) fun _ => ?_
      · exact calls_guard fun _ => ih _ _
      · exact calls_bind (hmark _) fun _ => calls_guard fun _ => ih _ _

variable (hpart : ∀ path name above w, path.reverse = name :: "uploading" :: above →
    R.Safe (fun _ _ => True) (call (.remove path)) w)
  (hblob : ∀ path name w, (∀ h, resourceBlobPath h = path → h = name) →
    R.Safe (fun _ _ => True) (sweepBlob path name) w)
include hpart hblob

theorem safe_sweepFile (now : Int) (path : Path) (w : W) :
    R.Safe (fun _ _ => True) (sweepFile now path) w := by
  have hdone : ∀ {w : W}, R.Safe (fun _ _ => True) (Pure.pure () : Prog Unit) w :=
    fun {_} => Rules.safe_done
  refine Rules.safe_next (calls_perform (hobs _ trivial))
    (Rules.stable_const True) trivial fun b w _ => Rules.safe_ite (fun _ => ?_) fun _ => hdone
  split
  · rename_i name parent above hpath
    refine Rules.safe_ite (fun _ => hdone) fun _ => ?_
    refine Rules.safe_next (calls_perform (hobs _ trivial))
      (Rules.stable_const True) trivial fun mtime w _ => ?_
    refine Rules.safe_ite (fun _ => hdone) fun _ => Rules.safe_ite (fun hup => ?_) fun _ => ?_
    · have hparent : parent = "uploading" := of_decide_eq_true hup
      subst hparent
      refine Rules.safe_ite (fun _ => hdone) fun _ => ?_
      exact (hpart path name above w hpath).bind fun _ w _ => hdone
    · exact hblob path name w fun h e => (blobPath_reverse e hpath).1
  · exact hdone

/-- A round of cleanup is as safe as the removals it makes. -/
theorem safe_runResourceCleanup (hdao : ∀ ids, R.Quiet (.dao (.markResourceExpired ids) 0))
    (formatDbTime : Int → String) (pages : Nat) (w : W) :
    R.Safe (fun _ _ => True) (runResourceCleanup formatDbTime pages) w := by
  have hall : ∀ now paths w, R.Safe (fun _ _ => True) (sweepAll now paths) w := by
    intro now paths
    induction paths with
    | nil => exact fun w => Rules.safe_done
    | cons path paths ih =>
      exact fun w => (safe_sweepFile hobs hpart hblob now path w).bind
        fun _ w _ => ih w
  refine Rules.safe_next (calls_perform (hobs _ trivial))
    (Rules.stable_const True) trivial fun now w _ => ?_
  refine Rules.safe_next (expirePages_calls hobs hdao _ _ _ _ _)
    (Rules.stable_const True) trivial fun _ w _ => ?_
  exact Rules.safe_next (calls_perform (hobs _ trivial))
    (Rules.stable_const True) trivial fun paths w _ => hall now paths w

end Cleanup

/-! ### Values that programs return -/

theorem restorePart_returns (session : UploadSession) (m : Int) (fw : FileWorker) :
    (restorePart session m fw).Returns fun r => r.2 = fw ∨ r.2 = fw.erase m := by
  refine returns_skip (fun _ => ?_)
  refine returns_ite (fun _ => returns_pure (.inl rfl)) fun _ => ?_
  refine returns_skip (fun _ => ?_)
  refine returns_ite (fun _ => returns_pure (.inl rfl)) fun _ => ?_
  exact returns_skip (fun _ => returns_pure (.inr rfl))

/-- The digest at the end changes what the session knows of it, no more. -/
theorem wholeHash_returns (part : Path) (session : UploadSession) :
    (wholeHash part session).Returns fun r =>
      ∃ hasher hex, r = (hex, { session with hasher := hasher, finalHex := hex }) := by
  refine returns_ite (fun _ => returns_pure ⟨session.hasher, session.finalHex, rfl⟩) fun _ => ?_
  refine returns_skip (fun r => ?_)
  obtain ⟨streamed, hasher⟩ := r
  refine returns_ite (fun _ => returns_pure ⟨hasher, streamed, rfl⟩) fun _ => ?_
  exact returns_skip (fun hex => returns_pure ⟨hasher, hex, rfl⟩)

theorem advanceHash_returns (session : UploadSession) (offset : Nat) (data : List UInt8) :
    (advanceHash session offset data).Returns fun s =>
      ∃ hasher ok, s = { session with hasher := hasher, hashValid := ok } := by
  refine returns_ite (fun _ => ?_) fun _ => returns_pure ⟨_, _, rfl⟩
  refine returns_skip (fun r => ?_)
  obtain ⟨ok, hasher⟩ := r
  exact returns_pure ⟨hasher, ok, rfl⟩

/-- The session with a challenge that was sent to a connection. -/
def UploadSession.challenged (upload : UploadSession) (session : Nat) (nonceRaw : List UInt8)
    (offset length now : Nat) : UploadSession :=
  { upload with
    challengeNonceRaw := nonceRaw
    challengeOffset := offset
    challengeLength := length
    challengeActive := true
    challengeSession := some session
    challengeIssuedAt := now }

theorem issueChallenge_returns (task : ProgressTask) (r : MessageResource)
    (upload : UploadSession) :
    (issueChallenge task r upload).Returns fun out => out = none ∨
      ∃ nonceRaw offset length now,
        out = some (upload.challenged task.session nonceRaw offset length now) := by
  refine returns_bind (returns_perform fun nonce => ?_)
  cases nonce with
  | none => exact returns_pure (.inl rfl)
  | some nonceRaw =>
    refine returns_bind (returns_perform fun off => ?_)
    cases off with
    | none => exact returns_pure (.inl rfl)
    | some offRaw =>
      refine returns_bind (returns_perform fun now => ?_)
      refine returns_bind (returns_perform fun _ => ?_)
      refine returns_bind (returns_perform fun _ => ?_)
      exact returns_pure (.inr ⟨nonceRaw, _, _, now, rfl⟩)

/-- The session that `LoadUploadSession` makes. -/
def newSession (m : Int) (msg : ChatMessage) (r : MessageResource) (received now : Nat) :
    UploadSession :=
  { messageId := m
    fileSizeBytes := r.fileSizeBytes
    sha256 := r.sha256
    received := received
    senderUserId := msg.senderUserId
    recipientUserId := msg.recipientUserId
    lastActive := now
    hashValid := decide (received = 0) }

theorem findUploadSession_returns (fw : FileWorker) (m : Int) :
    (fw.findUploadSession m).Returns fun r =>
      fw.uploadSessions m = none ∧ r = (none, fw) ∨
        ∃ s now, fw.uploadSessions m = some s ∧
          r = (some { s with lastActive := now }, fw.put m { s with lastActive := now }) := by
  unfold FileWorker.findUploadSession
  split
  · rename_i h
    exact returns_pure (.inl ⟨h, rfl⟩)
  · rename_i s h
    exact returns_bind (returns_perform fun now => returns_pure (.inr ⟨s, now, h, rfl⟩))

theorem loadUploadSession_returns (fw : FileWorker) (m : Int) (msg : ChatMessage) :
    (fw.loadUploadSession m msg).Returns fun r =>
      r = (none, fw) ∨ ∃ q received now, msg.resource = some q ∧
        r = (some (newSession m msg q received now),
          fw.put m (newSession m msg q received now)) := by
  unfold FileWorker.loadUploadSession
  split
  · exact returns_pure (.inl rfl)
  · rename_i q hq
    refine returns_skip (fun r => ?_)
    cases r with
    | none => exact returns_pure (.inl rfl)
    | some received =>
      exact returns_bind (returns_perform fun now => returns_bind (returns_perform fun _ =>
        returns_pure (.inr ⟨q, received, now, hq, rfl⟩)))

end LlfcChat.Resource
