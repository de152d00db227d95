/-
Publication, over whole runs of the server.

The collector removes a blob only while it holds the lock, after it has asked for
published messages that refer to it.  With that the rules of `Gc.lean` fit
together for all threads: published content stays, and answers tell the truth.
-/
import LlfcChat.Resource.Gc

namespace LlfcChat.Resource

open Conc Conc.Rules FileSystem Replies
open Conc.Prog hiding pure bind

variable {sha : List UInt8 → String} {fmt : Int → String} {t : Thread} {w w' : World}

/-! ### The collector -/

/-- No published picture or file refers to the blob. -/
def NoReference (h : String) (w : World) : Prop :=
  w.db.Consistent ∧ ∀ m r, w.db.PublishedResource m →
    w.db.messageResource m.messageId = some r → r.sha256 ≠ h

/-- Under the lock it stays so. -/
theorem stable_noReference (h : String) :
    (publishRules sha fmt t).Stable fun w => w.mutex = some t ∧ NoReference h w := by
  rintro w w' ⟨hmutex, hcons, href⟩ hrely -
  refine ⟨hrely.mutex hmutex, hrely.db.consistent hcons, fun m r hm hr => ?_⟩
  have hm' := hrely.published hmutex m hm
  exact href m r hm' (hrely.db.resource_back hcons hm'.1 hr)

theorem noReference_of_query {db : Db} {h : String} (hq : db.blobHasPublishedReference h = false)
    {m : ChatMessageRow} {r : MessageResource} (hm : db.PublishedResource m)
    (hr : db.messageResource m.messageId = some r) : r.sha256 ≠ h := by
  intro hsha
  have hmem : r ∈ db.messageResources := List.mem_of_find?_eq_some hr
  have hid : r.messageId = m.messageId := by simpa using List.find?_some hr
  have hany : db.blobHasPublishedReference h = true := by
    refine List.any_eq_true.mpr ⟨r, hmem, ?_⟩
    rw [Bool.and_eq_true]
    exact ⟨decide_eq_true hsha, List.any_eq_true.mpr ⟨m, hm.1, decide_eq_true ⟨hid.symm, hm.2.1⟩⟩⟩
  rw [hq] at hany
  cases hany

/-- Removing a file that is no blob, or one nobody refers to. -/
theorem safe_sweepBlob {path : Path} {name : String}
    (hpath : ∀ h, resourceBlobPath h = path → h = name) :
    (publishRules sha fmt t).Safe (fun _ _ => True) (sweepBlob path name) w := by
  have htrue : DbFact fun _ => True := fun _ _ _ _ => trivial
  have hunlock : ∀ {w : World}, w.mutex = some t →
      (publishRules sha fmt t).Safe (fun _ _ => True) (call .unlock) w :=
    fun hw => safe_unlock htrue hw trivial
  refine safe_ite (fun _ => safe_done) fun _ => ?_
  refine (safe_lock htrue trivial).bind fun _ w hw => ?_
  have hask : (publishRules sha fmt t).Quiet (.blobHasPublishedReference name) :=
    quiet_of_harmless trivial
  refine safe_bind (safe_of_inv fun w₁ hr₁ hi₁ => ?_)
  have hmutex := hr₁.mutex hw.1
  refine (safe_perform (Q := fun r w => if r = .no then w.mutex = some t ∧ NoReference name w
    else w.mutex = some t) stable_mutex hmutex ?_ ?_).mono fun r w hw => ?_
  · intro r
    by_cases hr : r = .no
    · simp only [hr, if_true]
      exact stable_noReference name
    · simp only [hr, if_false]
      exact stable_mutex
  · intro w r w' hw hinv hs
    obtain ⟨hg, hi', hrely⟩ := hask w r w' hinv hs
    refine ⟨hg, hi', ?_⟩
    split
    · rename_i hno
      obtain ⟨c, -, he⟩ := hs
      simp only [exec, Option.some.injEq, Prod.mk.injEq] at he
      obtain ⟨hr, rfl⟩ := he
      refine ⟨hw, hinv.consistent, fun m r' hm hr' => noReference_of_query ?_ hm hr'⟩
      -- the answer was no, so the query has not failed and has found nothing
      rw [hno] at hr
      unfold triState at hr
      split at hr
      · cases hr
      · split at hr
        · cases hr
        · rename_i hfalse
          exact Bool.of_not_eq_true hfalse
    · exact hrely.mutex hw
  cases r with
  | yes | transient => exact hunlock hw
  | no =>
    refine (safe_perform (Q := fun _ w => w.mutex = some t) (stable_noReference name) hw
      (fun _ => stable_mutex) ?_).bind fun _ w hw => hunlock hw
    rintro w r w' ⟨hmutex, hcons, href⟩ hinv ⟨c, -, he⟩
    obtain ⟨-, rfl⟩ | ⟨-, -, rfl⟩ | ⟨-, rfl⟩ := exec_remove he
    · exact ⟨⟨fun t' _ => .refl t' _, trivial⟩, hinv, hmutex⟩
    · exact ⟨⟨fun t' _ => .refl t' _, trivial⟩, hinv, hmutex⟩
    · refine ⟨⟨fun t' hne => ⟨.refl, id, fun e => absurd e (ne_of_holder hmutex hne),
        fun _ _ => id⟩, trivial⟩, hinv.go .refl (fun m r hm hr => ?_) rfl rfl, hmutex⟩
      have hne : resourceBlobPath r.sha256 ≠ path := fun e => href m r hm hr (hpath _ e)
      exact (congrArg Option.isSome (Disk.unlink_names_of_ne hne)).trans (hinv.blobs m r hm hr)

/-! ### The server -/

/-- What is known of a thread at rest. -/
def PublishRest : (t : Thread) → Local t → World → Prop
  | .fileWorker _, fw, w => Rows fw w
  | .downloadWorker _, _, _ => True
  | .cleanup, _, _ => True

theorem outside_publishRely {w : World} (h : Outside w w') :
    (PublishInv w → PublishInv w') ∧ ∀ t, PublishRely t w w' := by
  cases h with
  | chat c hc attempt faults =>
    have hch : Changes w.db (c.turn attempt faults w.db).1 := turn_changes _ _ _ _
    have hpub : ∀ m, (c.turn attempt faults w.db).1.PublishedResource m →
        w.db.PublishedResource m := by
      intro m hm
      rcases turn_publishes c attempt faults w.db hm with hm | hm
      · exact hm
      · cases c <;> first | exact hc.elim | cases hm
    exact ⟨fun hinv => hinv.of_changes hch hpub rfl rfl rfl,
      fun t => ⟨hch, id, fun _ => .refl _, fun _ => hpub⟩⟩
  | skipIds users threads messages requests =>
    have hch : Changes w.db { w.db with
        nextUserId := w.db.nextUserId + users
        nextThreadId := w.db.nextThreadId + threads
        nextMessageId := w.db.nextMessageId + messages
        nextFriendRequestId := w.db.nextFriendRequestId + requests } :=
      .single (.skipIds users threads messages requests)
    exact ⟨fun hinv => hinv.of_changes hch (fun _ => id) rfl rfl rfl,
      fun t => ⟨hch, id, fun _ => .refl _, fun _ _ => id⟩⟩
  | tick seconds | login session uid huid hopen hnew | close session =>
    exact ⟨fun hinv => hinv.of_disk rfl (fun _ _ h => h) rfl rfl,
      publishRely_of_disk rfl rfl fun _ _ h => h⟩

theorem publish_verified :
    Verified (server sha fmt anything) (publishRules sha fmt) PublishRest PublishInv where
  sem _ := rfl
  inv _ := rfl
  guar t t' op w w' hne _ _ h := h.1 t' (Ne.symm hne)
  env w w' hinv h := ⟨(outside_publishRely h).1 hinv, (outside_publishRely h).2⟩
  task t a p w hinv hrest htask := by
    have hobs : ∀ (t : Thread) (op : Op), op.Observes → (publishRules sha fmt t).Quiet op :=
      fun t op h => quiet_of_harmless h.files.harmless
    have hdown : ∀ (t : Thread) (session : Nat) (reply : Reply), reply.Downloads →
        (publishRules sha fmt t).Quiet (.send session reply) :=
      fun t session reply h => quiet_of_harmless (truthful_of_downloads h)
    cases htask with
    | chunk i fw task h => exact safe_handleResourceChunk hrest
    | progress i fw task h => exact safe_handleResourceUploadProgress hrest
    | proof i fw task h => exact safe_handleInstantProof hrest
    | downInfo i dw task h =>
      exact safe_of_calls (handleResourceDownInfo_calls (hobs _) (hdown _) _ _) (stable_const True)
        trivial
    | chunkDown i dw task h =>
      exact safe_of_calls (handleResourceChunkDown_calls (hobs _) (hdown _) _ _) (stable_const True)
        trivial
    | round pages =>
      exact safe_runResourceCleanup (hobs _)
        (fun path name above w hpath => safe_of_calls
          (quiet_call fun h => ne_blobPath_of_uploading hpath h) (stable_const True) trivial)
        (fun path name w hpath => safe_sweepBlob hpath) (fun _ => quiet_of_harmless rfl)
        fmt pages w
  restart w w' hinv h := by
    obtain ⟨-, rfl⟩ := h
    refine ⟨hinv.of_disk rfl (fun _ _ h => h) rfl rfl, fun t => ?_⟩
    cases t with
    | fileWorker i => exact safe_pure (stable_rows _) nofun
    | downloadWorker i | cleanup => exact safe_done

theorem publish_boot : ((server sha fmt anything).boot {}).Ok (publishRules sha fmt) PublishRest
    PublishInv := by
  refine ⟨⟨consistent_empty, ⟨budget_empty, numbered_empty⟩, fun m r hm =>
    absurd hm.1 List.not_mem_nil, fun _ hx => absurd hx List.not_mem_nil, fun _ hn =>
    absurd hn List.not_mem_nil⟩, fun t => ?_⟩
  cases t with
  | fileWorker i => exact safe_pure (stable_rows _) nofun
  | downloadWorker i | cleanup => exact safe_done

/-- **Published content stays.**  However many uploads, proofs and cleanup rounds
run at once, whatever file system calls and transactions fail and whenever the
process dies, every published picture or file has the blob of its digest. -/
theorem published_has_blob {c : Config (server sha fmt anything)}
    (h : Run sha fmt anything c) {m : ChatMessageRow} (hm : m ∈ c.world.db.chatMessages)
    (htype : m.messageType = chatMsgPic ∨ m.messageType = chatMsgFile)
    (hs : m.status = .published) {r : MessageResource}
    (hr : c.world.db.messageResource m.messageId = some r) :
    (c.world.disk.names (resourceBlobPath r.sha256)).isSome :=
  (publish_boot.steps publish_verified h).1.blobs m r ⟨hm, hs, htype⟩ hr

/-- The upload of the small installation, with nothing failing. -/
def uploaded : Option (FileWorker × World) :=
  (handleResourceChunk onlyChunk {}).runAll (fun op w => exec paddedHex uploader op {} w)
    beforeUpload

theorem published_has_blob_uploaded :
    ∃ c, Run paddedHex (fun _ => "") anything c ∧ ∃ m ∈ c.world.db.chatMessages,
      m.status = .published ∧
      (c.world.disk.names (resourceBlobPath (paddedHex [1, 2, 3]))).isSome := by
  obtain ⟨⟨fw, w⟩, hrun⟩ : ∃ x, uploaded = some x :=
    Option.isSome_iff_exists.mp (by decide +kernel)
  have hmsg : (uploaded.map fun x => x.2.db.chatMessages.map fun m =>
      (m.messageId, m.messageType, m.status)) = some [(1, chatMsgFile, .published)] := by
    decide +kernel
  have hres : (uploaded.map fun x => (x.2.db.messageResource 1).map (·.sha256)) =
      some (some (paddedHex [1, 2, 3])) := by decide +kernel
  rw [hrun] at hmsg hres
  simp only [Option.map_some, Option.some.injEq] at hmsg hres
  have hreach := run_onlyChunk (fun _ => "") anything (fun _ _ => trivial) hrun
  obtain ⟨m, hm, hfields⟩ : ∃ m ∈ w.db.chatMessages,
      (m.messageId, m.messageType, m.status) = (1, chatMsgFile, .published) :=
    List.mem_map.mp (hmsg ▸ List.mem_singleton_self _)
  simp only [Prod.mk.injEq] at hfields
  obtain ⟨r, hr, hsha⟩ := Option.map_eq_some_iff.mp hres
  rw [← hfields.1] at hr
  refine ⟨_, hreach, m, hm, hfields.2.2, ?_⟩
  rw [← hsha]
  exact published_has_blob hreach hm (.inr hfields.2.1) hfields.2.2 hr

namespace Replies

/-- **Answers tell the truth about publication.**  Whatever is uploaded, proved and
asked for, in any order, and however transactions fail, with or without a commit:
what is about to be sent and what has been sent agrees with the tables, the
recipient is notified of published messages only, and all successes for one
message carry one number. -/
theorem replies_report_publication {c : Config (server sha fmt anything)}
    (h : Run sha fmt anything c) :
    (∀ t session reply k, c.prog t = .call (.send session reply) k →
        SaysTrue c.world.db reply) ∧
      (∀ t n k, c.prog t = .call (.post n) k → ∃ e, c.world.db.PublishedAs n.messageId e) ∧
      (∀ x ∈ c.world.sent, SaysTrue c.world.db x.2) ∧
      (∀ n ∈ c.world.notified, ∃ e, c.world.db.PublishedAs n.messageId e) ∧
      ∀ x ∈ c.world.sent, ∀ y ∈ c.world.sent, Reports x.2 → Reports y.2 →
        x.2.messageId = y.2.messageId → x.2.error = .success → y.2.error = .success →
        x.2.status = some MessageStatus.published.toInt →
        y.2.status = some MessageStatus.published.toInt → x.2.eventSeq = y.2.eventSeq := by
  have hok := publish_boot.steps publish_verified h
  have hsent : ∀ x ∈ c.world.sent, SaysTrue c.world.db x.2 :=
    fun x hx => (hok.1.sent x hx).saysTrue hok.1.consistent hok.1.numbered.2
  refine ⟨fun t session reply k hprog => ?_, fun t n k hprog => ?_, hsent,
    fun n hn => (hok.1.notified n hn).publishedAs hok.1.consistent,
    fun x hx y hy hrep hrep' hid herror herror' hs hs' =>
      (hsent x hx).eventSeq_eq (hsent y hy) hrep hrep' hid herror herror' hs hs'⟩
  · -- sending never waits, so the call is about to be made
    have hguar := hok.guar publish_verified hprog ⟨{}, trivial, rfl⟩
    exact Truthful.saysTrue hguar.2 hok.1.consistent hok.1.numbered.2
  · have hguar := hok.guar publish_verified hprog ⟨{}, trivial, rfl⟩
    exact TrueNotice.publishedAs hguar.2 hok.1.consistent

/-- After the upload of the small installation the sender has been told so. -/
theorem replies_report_publication_uploaded :
    ∃ c : Config (server paddedHex (fun _ => "") anything),
      Run paddedHex (fun _ => "") anything c ∧ ∃ x ∈ c.world.sent,
        x.2.messageId = 1 ∧ ∃ e, c.world.db.PublishedAs 1 e ∧ x.2.eventSeq = some e.eventSeq := by
  obtain ⟨⟨fw, w⟩, hrun⟩ : ∃ x, uploaded = some x :=
    Option.isSome_iff_exists.mp (by decide +kernel)
  have hsent : (uploaded.map fun x => x.2.sent.map fun y =>
      (y.2.msgType, y.2.messageId, y.2.error, y.2.status)) =
      some [(idResourceChunkUploadRsp, 1, .success, some MessageStatus.published.toInt)] := by
    decide +kernel
  rw [hrun] at hsent
  have hreach := run_onlyChunk (fun _ => "") anything (fun _ _ => trivial) hrun
  obtain ⟨y, hy, hfields⟩ := List.mem_map.mp
    (Option.some.inj hsent ▸ List.mem_singleton_self
      (idResourceChunkUploadRsp, (1 : Int), ErrorCode.success, some MessageStatus.published.toInt))
  simp only [Prod.mk.injEq] at hfields
  obtain ⟨htype, hid, herror, hstatus⟩ := hfields
  obtain ⟨e, he, hseq⟩ := (replies_report_publication hreach).2.2.1 y hy (.inl (.inl htype)) hstatus
  exact ⟨_, hreach, y, hy, hid, e, hid ▸ he, (hseq herror).1⟩

end Replies

end LlfcChat.Resource
