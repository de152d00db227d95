/-
What a pause does.

Each call that starts a transfer gives it a serial number of its own, and the
frames carry the number of the transfer they are sent for; so it can be said of
one transfer that nothing is sent for it, whatever other transfer of the same
message comes after it.  A paused transfer sends nothing until it is resumed.
Replies are handled all the same: one that reports the upload as published
completes it.  A chunk's reply has to match the head of the window for that, and
its offset must not be the first of the outdated ones, for which it is taken
before the window is looked at.
-/
import LlfcChat.Client.Transfer.Slots

namespace LlfcChat.Transfer

variable {cfg : Config} {env : Env} {sha256Hex : List UInt8 → String} {s : Engine} {t t' : Runtime}
variable {a : Rights}

/-! ### Serial numbers -/

/-- A serial number belongs to one transfer. -/
structure Serials (s : Engine) : Prop where
  base : Base s
  used : ∀ dir, ∀ x ∈ s.mapFor dir, x.serial < s.nextSerial
  unique : ∀ dir dir' x y, x ∈ s.mapFor dir → y ∈ s.mapFor dir' → x.serial = y.serial →
    dir = dir' ∧ x.messageId = y.messageId

variable {dir : Direction} {s' : Engine} {id : Int}

theorem Serials.leap (h : Serials s) (hleap : Leap cfg a s s') : Serials s' := by
  obtain ⟨hb, hle⟩ := h.base.leap hleap
  rcases hleap.origin with hold | ⟨env, t, hfresh, hnext, hmaps⟩
  · refine ⟨hb, fun dir x' hx => ?_, fun dir dir' x' y' hx hy heq => ?_⟩
    · obtain ⟨x, hmem, hkin⟩ := hold dir x' hx
      rw [hkin.serial]
      exact Nat.lt_of_lt_of_le (h.used dir x hmem) hle
    · obtain ⟨x, hxmem, hxkin⟩ := hold dir x' hx
      obtain ⟨y, hymem, hykin⟩ := hold dir' y' hy
      rw [hxkin.serial, hykin.serial] at heq
      rw [hxkin.messageId, hykin.messageId]
      exact h.unique dir dir' x y hxmem hymem heq
  · -- the new transfer has a number that no other one has
    have hnew : ∀ dir, ∀ x ∈ s.mapFor dir, x.serial ≠ t.serial := fun dir x hx heq => by
      have hlt := h.used dir x hx
      rw [heq, hfresh.serial] at hlt
      exact Nat.lt_irrefl _ hlt
    refine ⟨hb, fun dir x hx => ?_, fun dir dir' x y hx hy heq => ?_⟩
    · rw [hnext]
      rcases mem_insert (hmaps dir ▸ hx) with ⟨rfl, -⟩ | ⟨hmem, -⟩
      · rw [hfresh.serial]
        exact Nat.lt_succ_self _
      · exact Nat.lt_succ_of_lt (h.used dir x hmem)
    · rcases mem_insert (hmaps dir ▸ hx) with ⟨rfl, rfl⟩ | ⟨hxmem, -⟩ <;>
        rcases mem_insert (hmaps dir' ▸ hy) with ⟨rfl, rfl⟩ | ⟨hymem, -⟩
      · exact ⟨rfl, rfl⟩
      · exact absurd heq.symm (hnew dir' y hymem)
      · exact absurd heq (hnew dir x hxmem)
      · exact h.unique dir dir' x y hxmem hymem heq

theorem serials_nil : Serials {} where
  base := base_nil
  used dir x hx := by
    rw [mapFor_nil] at hx
    cases hx
  unique dir dir' x y hx := by
    rw [mapFor_nil] at hx
    cases hx

theorem Serials.run (h : Serials s) (es : List (Env × Event)) :
    Serials (run cfg sha256Hex s es) :=
  run_preserve cfg sha256Hex (fun _ _ h hleap => h.leap hleap) (fun _ h => h.base) h es

/-! ### A transfer that is held -/

/-- Transfer `n` is paused or has ended, and since `sent` nothing was sent for it. -/
structure Held (dir : Direction) (id : Int) (n : Nat) (sent : List Frame) (s : Engine) : Prop where
  base : Base s
  used : n < s.nextSerial
  held : ∀ dir', ∀ x ∈ s.mapFor dir', x.serial = n →
    (dir' = dir ∧ x.messageId = id) ∧ (x.userPaused = true ∨ x.phase.terminal = true)
  silent : ∃ new, s.sent = sent ++ new ∧ ∀ f ∈ new, f.serial ≠ n

/-- Any transfer but one is resumed. -/
def otherResumed (dir : Direction) (id : Int) : Rights where
  resume t := ¬(t.direction = dir ∧ t.messageId = id)

theorem Held.leap {n : Nat} {sent : List Frame} (h : Held dir id n sent s)
    (hleap : Leap cfg (otherResumed dir id) s s') :
    Held dir id n sent s' := by
  obtain ⟨hb, hle⟩ := h.base.leap hleap
  refine ⟨hb, Nat.lt_of_lt_of_le h.used hle, ?_, ?_⟩
  · refine hleap.follow h.used h.held fun dir' x hmem x' hkin hx => ?_
    obtain ⟨hplace, hpaused⟩ := hx
    rw [hkin.messageId]
    refine ⟨hplace, ?_⟩
    rcases hkin.held hpaused with hp | hterminal | hother
    · exact .inl hp
    · exact .inr hterminal
    · exact absurd ⟨(h.base.placed dir' x hmem).trans hplace.1, hplace.2⟩ hother
  · -- the transfer that sends is neither paused nor has it ended
    refine hleap.silent h.silent fun t f ht hpaused hserial _ hn => ?_
    rcases (h.held _ t ht.1 (hserial.symm.trans hn)).2 with hp | hterminal
    · rw [hpaused] at hp
      cases hp
    · have hlive := ht.2
      rw [hterminal] at hlive
      cases hlive

theorem Held.run {n : Nat} {sent : List Frame} (h : Held dir id n sent s) (es : List (Env × Event))
    (hes : ∀ e ∈ es, e.2 ≠ .resumeTransfer dir id) :
    Held dir id n sent (run cfg sha256Hex s es) := by
  induction es generalizing s with
  | nil => exact h
  | cons e es ih =>
    have hleaps : Leaps cfg (otherResumed dir id) s (step cfg sha256Hex s e) := by
      refine step_leaps trivial (fun _ _ h hleap => h.leap hleap) (fun _ h => h.base)
        (fun _ _ _ _ _ => trivial) h e ⟨fun _ _ _ _ _ => ⟨trivial, trivial⟩,
        fun _ _ _ _ _ => trivial, fun dir' id' t hevent hfind hsame => ?_⟩
      obtain ⟨-, hdir, hid⟩ := findActive_at h.base hfind
      refine hes e (List.mem_cons_self ..) ?_
      rw [hevent, ← hdir, ← hid, hsame.1, hsame.2]
    exact ih (hleaps.preserve (fun _ _ h hleap => h.leap hleap) h)
      fun e he => hes e (List.mem_cons_of_mem _ he)

/-- A pause holds its transfer. -/
theorem Serials.pause (h : Serials s) (hfind : s.findActive dir id = some t) :
    Held dir id t.serial s.sent (pauseTransfer dir id s) := by
  obtain ⟨ht, hdir, hid⟩ := findActive_at h.base hfind
  subst hdir hid
  have hused := h.used _ t ht.1
  unfold pauseTransfer
  rw [hfind]
  simp only
  split
  · rename_i hpaused
    refine ⟨h.base, hused, fun dir' x hx hn => ?_, [], (List.append_nil _).symm, fun f hf => by
      cases hf⟩
    obtain ⟨rfl, hid⟩ := h.unique dir' _ x t hx ht.1 hn
    rw [h.base.unique hx ht.1 hid]
    exact ⟨⟨rfl, rfl⟩, .inl hpaused⟩
  · refine ⟨h.base.put _, by rwa [Engine.put, nextSerial_setMap], fun dir' x hx hn => ?_, [], ?_,
      fun f hf => by cases hf⟩
    · rcases mem_put hx with ⟨rfl, rfl⟩ | ⟨hmem, hne⟩
      · exact ⟨⟨rfl, rfl⟩, .inl rfl⟩
      · obtain ⟨rfl, hid⟩ := h.unique dir' _ x t hmem ht.1 hn
        exact absurd hid (hne rfl)
    · rw [List.append_nil]
      exact sent_setMap _ _ _

/-! ### What completes a paused upload -/

/-- A transfer that has ended stays as it is while others move. -/
theorem Move.keeps_ended (hb : Base s) (hmove : Move cfg a s s') {x : Runtime}
    (hx : x ∈ s.mapFor dir) (hended : x.phase.terminal = true) :
    x ∈ s'.mapFor dir := by
  have hput : ∀ {t t' : Runtime}, At t s → t'.messageId = t.messageId →
      t'.direction = t.direction → x ∈ (s.put t').mapFor dir := by
    intro t t' ht hid hdir
    refine mem_put_of_ne hx fun hself hkey => ?_
    subst hself
    have heq : x = t := by
      refine hb.unique hx ?_ (hkey.trans hid)
      rw [hdir]
      exact ht.1
    have hlive := ht.2
    rw [← heq, hended] at hlive
    cases hlive
  cases hmove with
  | put ht hk _ _ _ => exact hput ht hk.messageId hk.direction
  | finish ht hk _ =>
    rw [mapFor_finish]
    exact hput ht hk.messageId hk.direction
  | send kind _ _ _ _ =>
    rw [mapFor_send]
    exact hx
  | grant ht _ _ _ => exact hput ht rfl rfl
  | wait dir' l =>
    rw [mapFor_setWait]
    exact hx
  | awaiting b | log l => cases dir <;> exact hx
  | file path c =>
    rw [mapFor_setFile]
    exact hx

theorem Moves.keeps_ended (hb : Base s) (hmoves : Moves cfg a s s') {x : Runtime}
    (hx : x ∈ s.mapFor dir) (hended : x.phase.terminal = true) :
    x ∈ s'.mapFor dir := by
  induction hmoves with
  | refl => exact hx
  | tail hmoves hmove ih => exact hmove.keeps_ended (hb.moves hmoves).1 ih hended

/-- The upload with this number is completed. -/
def Done (t : Runtime) (s : Engine) : Prop :=
  ∃ x ∈ s.mapFor t.direction, x.messageId = t.messageId ∧ x.serial = t.serial ∧
    x.phase = .completed

theorem completeTransfer_done (hb : Base s) (ht : At t s) (hk : Key t t') (eventSeq : Int) :
    Done t (completeTransfer cfg env t' eventSeq s) := by
  let x : Runtime :=
    { t'.closeFiles with
      phase := .completed, eventSeq := eventSeq, errorCode := 0, errorText := "" }
  have hmem : x ∈ (s.finish x).mapFor x.direction := by
    rw [mapFor_finish]
    exact ht.mem_put_self hk.messageId hk.direction
  have hmoves : Moves cfg {} (s.finish x) (completeTransfer cfg env t' eventSeq s) :=
    promoteWaiting_moves trivial t'.direction (hb.finish x)
  refine ⟨x, ?_, hk.messageId, hk.serial, rfl⟩
  rw [← hk.direction]
  exact hmoves.keeps_ended (hb.finish x) hmem rfl

/-- A reply that reports an upload as published and is taken for it. -/
inductive ReportsPublished (t : Runtime) : Event → Prop
  | chunkUploadRsp {f : Fields} : (decodeChunkUploadRsp f).messageId = t.messageId →
    (decodeChunkUploadRsp f).ok = true → (decodeChunkUploadRsp f).error = 0 →
    (decodeChunkUploadRsp f).status = 1 →
    t.inflight.head?.map (·.offset) = some (decodeChunkUploadRsp f).offset →
    t.staleOffsets.head? ≠ some (decodeChunkUploadRsp f).offset →
    ReportsPublished t (.chunkUploadRsp f)
  | progressRsp {f : Fields} : (decodeProgressRsp f).messageId = t.messageId →
    (decodeProgressRsp f).ok = true → (decodeProgressRsp f).error = 0 →
    (decodeProgressRsp f).status = 1 → t.proofPending = false →
    ReportsPublished t (.progressRsp f)
  | instantProofRsp {f : Fields} : (decodeInstantProofRsp f).messageId = t.messageId →
    (decodeInstantProofRsp f).ok = true → (decodeInstantProofRsp f).error = 0 →
    (decodeInstantProofRsp f).status = 1 →
    (decodeInstantProofRsp f).serverOffset = t.totalBytes →
    0 < (decodeInstantProofRsp f).eventSeq → t.proofPending = true →
    ReportsPublished t (.instantProofRsp f)

/-- With `error` 0 a reply that can be decoded has an offset. -/
theorem decodeChunkUploadRsp_ok {f : Fields} (hok : (decodeChunkUploadRsp f).ok = true)
    (herror : (decodeChunkUploadRsp f).error = 0) : 0 ≤ (decodeChunkUploadRsp f).offset := by
  cases hcode : f.error with
  | none =>
    simp only [decodeChunkUploadRsp, hcode] at hok
    cases hok
  | some error =>
    simp only [decodeChunkUploadRsp, hcode] at hok herror ⊢
    subst herror
    simp only [Bool.or_eq_true, Bool.and_eq_true, decide_eq_true_eq] at hok
    rcases hok with hne | ⟨⟨hoffset, -⟩, -⟩
    · exact absurd rfl hne
    · exact hoffset

theorem reportsPublished_done (hb : Base s) (hfind : s.findActive .upload t.messageId = some t)
    {event : Event} (h : ReportsPublished t event) :
    Done t (step cfg sha256Hex s (env, event)) := by
  have ht := (findActive_at hb hfind).1
  cases h with
  | @chunkUploadRsp f hid hok herror hstatus hhead hstale =>
    have hoffset := decodeChunkUploadRsp_ok hok herror
    have hwindow : t.inflight ≠ [] := by
      intro hempty
      rw [hempty] at hhead
      cases hhead
    show Done t (handleChunkUploadRsp cfg env (decodeChunkUploadRsp f) s)
    unfold handleChunkUploadRsp
    rw [hid, hfind]
    simp only
    rw [if_neg fun hc => hwindow hc.2.1, if_neg hstale,
      if_neg fun hc => hc.elim (Int.not_lt.mpr hoffset) (fun hne => hne hhead), hok, herror,
      hstatus, if_neg Bool.noConfusion, if_neg fun hc => hc rfl, if_pos rfl]
    exact completeTransfer_done hb ht (by exact .refl t) _
  | @progressRsp f hid hok herror hstatus hproof =>
    show Done t (handleProgressRsp cfg env (decodeProgressRsp f) s)
    unfold handleProgressRsp
    rw [hid, hfind]
    simp only
    rw [hproof, hok, herror, hstatus, if_neg Bool.noConfusion,
      if_neg fun hc => hc.elim Bool.noConfusion (fun hne => hne rfl), if_pos rfl]
    exact completeTransfer_done hb ht (by exact .refl t) _
  | @instantProofRsp f hid hok herror hstatus htotal hseq hproof =>
    show Done t (handleInstantProofRsp cfg env (decodeInstantProofRsp f) s)
    unfold handleInstantProofRsp
    rw [hid, hfind]
    simp only
    rw [hproof, hok, herror, hstatus, htotal, if_neg Bool.noConfusion, if_neg Bool.noConfusion,
      if_neg (by decide), if_neg fun hc => hc rfl, if_neg fun hc => hc rfl,
      if_neg fun hc => hc.elim (fun hne => hne rfl) (Int.not_le.mpr hseq)]
    exact completeTransfer_done hb ht (by exact .refl t) _

/-! ### What resumes -/

/-- The query of a direction: 1507 or 1509. -/
def Direction.query : Direction → FrameKind
  | .upload => .progressReq
  | .download => .downInfoReq

theorem beginQuery_sent (hup : s.connUp = true) (hpaused : t.userPaused = false) :
    (beginQuery env t s).sent =
      s.sent ++ [⟨t.direction.query, t.messageId, t.serial, t.slotGranted, false⟩] := by
  unfold beginQuery
  rw [hup, hpaused, if_neg fun hc => hc.elim Bool.noConfusion Bool.noConfusion]
  simp only
  split
  · rename_i hdir
    rw [hdir]
    show (s.put _).sent ++ [_] = _
    rw [Engine.put, sent_setMap]
    rfl
  · rename_i hdir
    rw [hdir]
    show (s.put _).sent ++ [_] = _
    rw [Engine.put, sent_setMap]
    rfl

theorem resumeTransfer_sent (hfind : s.findActive dir id = some t) (hb : Base s)
    (hup : s.connUp = true) (hpaused : t.userPaused = true) (hslot : t.slotGranted = true) :
    (resumeTransfer cfg env dir id s).sent = s.sent ++
      [⟨dir.query, id, t.serial, true, false⟩] := by
  obtain ⟨-, hdir, hid⟩ := findActive_at hb hfind
  unfold resumeTransfer
  rw [hfind]
  simp only
  rw [if_neg (by rw [hpaused]; exact Bool.noConfusion),
    if_neg (by rw [hslot]; exact Bool.noConfusion)]
  split
  · refine (beginQuery_sent hup rfl).trans ?_
    show s.sent ++ [⟨t.direction.query, t.messageId, t.serial, t.slotGranted, false⟩] = _
    rw [hdir, hid, hslot]
  · refine (beginQuery_sent hup rfl).trans ?_
    show s.sent ++ [⟨t.direction.query, t.messageId, t.serial, t.slotGranted, false⟩] = _
    rw [hdir, hid, hslot]

/-! ### Runs -/

/-- From the pause of a transfer on, no frame is sent for it before it is resumed; a reply that
reports it as published completes it while it is paused; and when it is resumed with its slot on an
authenticated connection, its query is sent at once. -/
theorem pause_pauses (cfg : Config) (sha256Hex : List UInt8 → String) (es : List (Env × Event))
    (dir : Direction) (id : Int) (t : Runtime)
    (hfind : (run cfg sha256Hex {} es).findActive dir id = some t) :
    (∀ env es', (∀ e ∈ es', e.2 ≠ .resumeTransfer dir id) →
      ∃ new, (run cfg sha256Hex {} (es ++ (env, .pauseTransfer dir id) :: es')).sent =
          (run cfg sha256Hex {} es).sent ++ new ∧ ∀ f ∈ new, f.serial ≠ t.serial) ∧
    (t.userPaused = true → dir = .upload → ∀ env event, ReportsPublished t event →
      Done t (run cfg sha256Hex {} (es ++ [(env, event)]))) ∧
    (t.userPaused = true → t.slotGranted = true → (run cfg sha256Hex {} es).connUp = true →
      ∀ env, (run cfg sha256Hex {} (es ++ [(env, .resumeTransfer dir id)])).sent =
        (run cfg sha256Hex {} es).sent ++ [⟨dir.query, id, t.serial, true, false⟩]) := by
  have hserials : Serials (run cfg sha256Hex {} es) := serials_nil.run es
  have happend : ∀ es', run cfg sha256Hex {} (es ++ es') =
      run cfg sha256Hex (run cfg sha256Hex {} es) es' := fun es' => List.foldl_append
  obtain ⟨-, hdir, hid⟩ := findActive_at hserials.base hfind
  refine ⟨fun env es' hes => ?_, fun _ hup env event hreports => ?_,
    fun hpaused hslot hup env => ?_⟩
  · rw [happend]
    exact ((hserials.pause hfind).run es' hes).silent
  · rw [happend]
    subst hid
    rw [hup] at hfind
    exact reportsPublished_done hserials.base hfind hreports
  · rw [happend]
    exact resumeTransfer_sent hfind hserials.base hup hpaused hslot

/-- Nothing of message 1, of ten bytes, is on the server. -/
def nothingThere : Fields :=
  { messageId := 1
    error := some 0
    serverOffset := some 0
    fileSizeBytes := some 10
    status := some 0
    sha256 := "0000000000000000000000000000000000000000000000000000000000000000" }

/-- The reply to the chunk: the upload is published. -/
def published : Fields :=
  { messageId := 1, error := some 0, offset := some 0, serverOffset := some 10, status := some 1 }

/-- The upload of message 1 up to its chunk, and its pause. -/
def sentOnce : List (Env × Event) :=
  [(tenBytes, .connectionAuthenticated),
    (tenBytes, .startUpload { messageId := 1, filePath := "a", fileSizeBytes := 10 }),
    (tenBytes, .progressRsp nothingThere),
    (tenBytes, .pauseTransfer .upload 1)]

/-- There the upload is paused, with its chunk on its way. -/
theorem findActive_sentOnce :
    ∃ t, (run {} (fun _ => "") {} sentOnce).findActive .upload 1 = some t ∧ t.serial = 0 ∧
      t.userPaused = true ∧ t.messageId = 1 ∧ t.inflight.head?.map (·.offset) = some 0 ∧
      t.staleOffsets = [] := by
  have hfacts : ((run {} (fun _ => "") {} sentOnce).findActive .upload 1).map (fun t =>
      (t.serial, t.userPaused, t.messageId, t.inflight.head?.map (·.offset), t.staleOffsets)) =
      some (0, true, 1, some 0, []) := by
    decide +kernel
  obtain ⟨t, hfind, heq⟩ := Option.map_eq_some_iff.mp hfacts
  simp only [Prod.mk.injEq] at heq
  exact ⟨t, hfind, heq⟩

theorem pause_pauses_sentOnce :
    ∃ t, (run {} (fun _ => "") {} sentOnce).findActive .upload 1 = some t ∧
      (∃ new, (run {} (fun _ => "") {}
          (sentOnce ++ (tenBytes, .pauseTransfer .upload 1) :: [(tenBytes, .tick)])).sent =
        (run {} (fun _ => "") {} sentOnce).sent ++ new ∧ ∀ f ∈ new, f.serial ≠ t.serial) ∧
      Done t (run {} (fun _ => "") {} (sentOnce ++ [(tenBytes, .chunkUploadRsp published)])) := by
  obtain ⟨t, hfind, -, hpaused, hid, hhead, hstale⟩ := findActive_sentOnce
  obtain ⟨hsilent, hdone, -⟩ := pause_pauses {} (fun _ => "") sentOnce .upload 1 t hfind
  have hreports : ReportsPublished t (.chunkUploadRsp published) := by
    refine .chunkUploadRsp hid.symm rfl rfl rfl hhead ?_
    rw [hstale]
    exact fun h => (nomatch h)
  refine ⟨t, hfind, hsilent tenBytes [(tenBytes, .tick)] fun e he => ?_,
    hdone hpaused rfl tenBytes _ hreports⟩
  rw [List.mem_singleton.mp he]
  exact Event.noConfusion

/-- An upload of ten bytes whose first chunk is sent, then given up for a reply without an offset,
and sent again. -/
def resent : List (Env × Event) :=
  [(tenBytes, .connectionAuthenticated),
    (tenBytes, .startUpload { messageId := 1, filePath := "a", fileSizeBytes := 10 }),
    (tenBytes, .progressRsp nothingThere),
    (tenBytes, .chunkUploadRsp { messageId := 1 }),
    (tenBytes, .progressRsp nothingThere),
    (tenBytes, .pauseTransfer .upload 1)]

/-- The same reply matches the head of the window there, but is taken for the chunk given up: the
paused upload goes on waiting. -/
theorem pause_pauses_resent :
    (run {} (fun _ => "") {} resent).uploads.map (fun t =>
        (t.userPaused, t.inflight.head?.map (·.offset), t.staleOffsets)) = [(true, some 0, [0])] ∧
      (decodeChunkUploadRsp published).offset = 0 ∧ (decodeChunkUploadRsp published).status = 1 ∧
      (run {} (fun _ => "") {} (resent ++ [(tenBytes, .chunkUploadRsp published)])).uploads.map
        (·.phase) = [.active] := by
  decide +kernel

end LlfcChat.Transfer
