/-
What the count of malformed replies can be.

While every reply to the chunks of an upload is malformed, every query is answered by a
1508 that asks for the bytes, and the user does not interfere, an upload that has counted
a reply has nothing on its way and does not send: it waits or asks for its state, and the
1508 that makes it send again starts the count anew.  So the reply to a chunk always finds
a count of zero.  `Counted` says so of one message.  The leaps of the engine that are not
replies to the upload keep it, and so do the replies of such a run.
-/
import LlfcChat.Client.Transfer.Leaps

namespace LlfcChat.Transfer

variable {cfg : Config} {env : Env} {sha256Hex : List UInt8 → String} {s : Engine} {t t' : Runtime}
variable {m : Int} {dir : Direction} {s' : Engine}

/-- An upload with a count above zero has nothing on its way and does not send. -/
structure Settled (x : Runtime) : Prop where
  paused : x.userPaused = false
  proof : x.proofPending = false
  count : x.jsonErrorCount = 0 ∨ x.inflight = [] ∧ x.phase ≠ .active

/-- The upload of the message. -/
def Meant (m : Int) (x : Runtime) : Prop := x.direction = .upload ∧ x.messageId = m

/-- If it is the upload of the message and has not ended, it is settled. -/
def Proper (m : Int) (x : Runtime) : Prop := Meant m x → x.phase.terminal = false → Settled x

structure Counted (m : Int) (s : Engine) : Prop where
  base : Base s
  proper : ∀ dir, ∀ x ∈ s.mapFor dir, Proper m x

theorem Counted.same (h : Counted m s) (hmaps : ∀ dir, s'.mapFor dir = s.mapFor dir) :
    Counted m s' where
  base := ⟨fun dir => hmaps dir ▸ h.base.placed dir, fun dir => hmaps dir ▸ h.base.keys dir⟩
  proper dir := hmaps dir ▸ h.proper dir

theorem Counted.put (h : Counted m s) (ht : Proper m t) : Counted m (s.put t) where
  base := h.base.put t
  proper dir x hx := by
    rcases mem_put hx with ⟨rfl, _⟩ | ⟨hx, _⟩
    · exact ht
    · exact h.proper dir x hx

theorem Counted.finish (h : Counted m s) (hphase : t.phase.terminal = true) :
    Counted m (s.finish t) := by
  refine (h.put fun _ hlive => ?_).same fun dir => mapFor_finish s t dir
  rw [hphase] at hlive
  cases hlive

/-- Replies are for other transfers, and the user does not pause this one. -/
def elsewhere (m : Int) : Rights where
  reply t := ¬Meant m t
  pause t := ¬Meant m t

theorem Settled.mild (h : Settled t) (hk : Key t t') (hm : Mild t t') : Settled t' :=
  ⟨hk.userPaused.trans h.paused, hm.2.1 h.proof, h.count.imp hm.1.trans hm.2.2⟩

/-- A transfer is changed that is not the upload, or not by a reply. -/
theorem Counted.change (h : Counted m s) (ht : t ∈ s.mapFor dir) (hlive : t.phase.terminal = false)
    (hk : Key t t') (hm : ¬Meant m t ∨ Mild t t') : Counted m (s.put t') :=
  h.put fun hm' _ => by
    have hmt : Meant m t := ⟨hk.direction.symm.trans hm'.1, hk.messageId.symm.trans hm'.2⟩
    exact (h.proper dir t ht hmt hlive).mild hk (hm.resolve_left (not_not_intro hmt))

theorem Counted.move (h : Counted m s) (hmove : Move cfg (elsewhere m) s s') : Counted m s' := by
  cases hmove with
  | put ht hk hm _ _ => exact h.change ht.1 ht.2 hk hm
  | finish _ _ hphase => exact h.finish hphase
  | send kind _ _ _ _ => exact h.same fun dir => mapFor_send _ _ _ dir
  | grant ht _ _ _ => exact h.put fun hm _ => { h.proper _ _ ht.1 hm ht.2 with }
  | wait dir l => exact h.same fun dir' => mapFor_setWait _ _ _ dir'
  | awaiting b | log l => exact h.same fun dir => by cases dir <;> rfl
  | file path c => exact h.same fun dir => mapFor_setFile _ _ _ dir

theorem Counted.insert (h : Counted m s) (env : Env) (hfresh : Fresh t s) :
    Counted m (Engine.insert env t s) where
  base := h.base.insert env t
  proper dir x hx := by
    rcases mem_insert hx with ⟨rfl, _⟩ | ⟨hx, _⟩
    · exact fun _ _ => ⟨hfresh.userPaused, hfresh.uncounted.2, .inl hfresh.uncounted.1⟩
    · exact h.proper dir x hx

theorem Counted.leap (h : Counted m s) (hleap : Leap cfg (elsewhere m) s s') : Counted m s' := by
  have hb := (h.base.leap hleap).1
  cases hleap with
  | move hmove => exact h.move hmove
  | pause ht hother => exact h.put fun hm => absurd hm hother
  | resume ht _ => exact h.put fun hm _ => { h.proper _ _ ht.1 hm ht.2 with paused := rfl }
  | enter env hfresh _ => exact h.insert env hfresh
  | stillborn env hfresh _ => exact (h.insert env hfresh).same fun dir => mapFor_stillborn _ _ dir
  | erase dir i => exact ⟨hb, fun dir x hx => h.proper dir x (mem_erase hx)⟩
  | down =>
    refine ⟨hb, fun dir x hx hm hlive => ?_⟩
    rw [mapFor_down] at hx
    obtain ⟨y, hy, rfl⟩ := List.mem_map.mp hx
    obtain ⟨hk, hphase, hmild⟩ := connectionDown_key y
    exact (h.proper dir y hy ⟨hk.direction.symm.trans hm.1, hk.messageId.symm.trans hm.2⟩
      (hphase ▸ hlive)).mild hk hmild
  | up => exact h.same fun dir => by cases dir <;> rfl
  | reset =>
    refine ⟨hb, fun dir x hx => ?_⟩
    rw [mapFor_reset] at hx
    cases hx

theorem Counted.moves (h : Counted m s) (hmoves : Moves cfg (elsewhere m) s s') : Counted m s' := by
  induction hmoves with
  | refl => exact h
  | tail _ hmove ih => exact ih.move hmove

theorem Counted.acts (h : Counted m s) (hacts : Acts cfg env (elsewhere m) s s') : Counted m s' :=
  h.moves (hacts.moves trivial h.base)

theorem Counted.fail (h : Counted m s) (env : Env) (t : Runtime) (code : Int) (text : String) :
    Counted m (failTransfer cfg env t code text s) :=
  (h.finish rfl).moves (promoteWaiting_moves trivial _ (h.base.finish _))

/-! ### The replies to the upload -/

/-- A reply to a chunk that has no error or the error 2001. -/
def Malformed (f : Fields) : Prop := f.error = none ∨ f.error = some 2001

/-- A 1508 that asks for the bytes, without a challenge. -/
structure AsksForBytes (f : Fields) : Prop where
  ok : (decodeProgressRsp f).ok = true
  error : (decodeProgressRsp f).error = 0
  status : (decodeProgressRsp f).status = 0
  mode : (decodeProgressRsp f).mode ≠ "proof"
  size : ¬(0 < (decodeProgressRsp f).chunkSize ∧ (decodeProgressRsp f).chunkSize ≠ chunkSize)

theorem decodeChunkUploadRsp_messageId (f : Fields) :
    (decodeChunkUploadRsp f).messageId = f.messageId := by
  unfold decodeChunkUploadRsp
  split <;> rfl

theorem decode_missing {f : Fields} (h : f.error = none) :
    decodeChunkUploadRsp f = { messageId := f.messageId } := by
  unfold decodeChunkUploadRsp
  rw [h]

theorem decode_2001 {f : Fields} (h : f.error = some 2001) :
    (decodeChunkUploadRsp f).ok = true ∧ (decodeChunkUploadRsp f).error = 2001 := by
  unfold decodeChunkUploadRsp
  rw [h]
  exact ⟨rfl, rfl⟩

theorem handleUploadError_2001 (t : Runtime) (serverOffset : Int) (s : Engine) :
    handleUploadError cfg env t 2001 serverOffset s =
      badReply cfg env t "repeated malformed response" (rollbackUploadTo ·
        (if 0 ≤ serverOffset then serverOffset else t.ackedBytes)) s := by
  unfold handleUploadError
  rw [if_neg (by decide), if_neg (by decide), if_neg (by decide)]
  dsimp only
  rw [if_pos (.inl rfl)]

/-- The upload that is found. -/
theorem Counted.found (h : Counted m s) (hfind : s.findActive .upload m = some t) :
    At t s ∧ Settled t := by
  obtain ⟨ht, hdir, hid⟩ := findActive_at h.base hfind
  exact ⟨ht, h.proper _ t ht.1 ⟨hdir, hid⟩ ht.2⟩

/-- A malformed reply for the head of the window is counted, and what is on its way becomes
outdated. -/
theorem Counted.chunkUploadRsp (h : Counted m s) (env : Env) {f : Fields} (hid : f.messageId = m)
    (hbad : Malformed f) : Counted m (handleChunkUploadRsp cfg env (decodeChunkUploadRsp f) s) := by
  unfold handleChunkUploadRsp
  rw [decodeChunkUploadRsp_messageId, hid]
  split
  · exact h
  next t hfind =>
    obtain ⟨ht, hs⟩ := h.found hfind
    split
    · exact h
    split
    · exact h.put fun _ _ => { hs with }
    split
    · split
      · exact h
      · exact h.moves (resyncUpload_moves ht trivial : Moves cfg _ _ _)
    next hwindow =>
      -- The reply has an offset, so it reports 2001.
      rcases hbad with hnone | h2001
      · rw [decode_missing hnone] at hwindow
        exact absurd (.inl (show (-1 : Int) < 0 by decide)) hwindow
      · rw [(decode_2001 h2001).1, (decode_2001 h2001).2, if_neg Bool.noConfusion,
          if_pos (by decide), handleUploadError_2001]
        unfold badReply
        dsimp only
        split
        · exact h.fail env _ _ _
        · exact h.put fun _ _ => ⟨hs.paused, hs.proof, .inr ⟨rfl, Phase.noConfusion⟩⟩

theorem decodeProgressRsp_messageId (f : Fields) :
    (decodeProgressRsp f).messageId = f.messageId := by
  unfold decodeProgressRsp
  split <;> rfl

/-- An upload that counts from zero. -/
theorem Counted.resendLast (h : Counted m s) (env : Env) (hp : t.userPaused = false)
    (hproof : t.proofPending = false) (hzero : t.jsonErrorCount = 0) :
    Counted m (maybeResendLastChunk cfg env t s) := by
  unfold maybeResendLastChunk
  split
  · exact h.put fun _ _ => ⟨hp, hproof, .inl hzero⟩
  split
  · exact h.put fun _ _ => ⟨hp, hproof, .inl hzero⟩
  split
  · exact h.fail env t _ _
  dsimp only
  split
  · exact h.fail env _ _ _
  · exact h.fail env _ _ _
  · refine Counted.same (h.put ?_) fun dir => mapFor_send _ _ _ dir
    exact fun _ _ => ⟨hp, hproof, .inl hzero⟩

theorem Counted.progressRsp (h : Counted m s) (env : Env) {f : Fields} (hid : f.messageId = m)
    (hasks : AsksForBytes f) : Counted m (handleProgressRsp cfg env (decodeProgressRsp f) s) := by
  unfold handleProgressRsp
  rw [decodeProgressRsp_messageId, hid]
  split
  · exact h
  next t hfind =>
    obtain ⟨ht, hs⟩ := h.found hfind
    split
    · exact h
    have hgood : ¬((decodeProgressRsp f).ok = false ∨ (decodeProgressRsp f).error ≠ 0) := by
      rw [hasks.ok, hasks.error]
      exact fun hc => hc.elim Bool.noConfusion (· rfl)
    dsimp only
    rw [if_neg hgood, hasks.status, if_neg (by decide)]
    split
    · exact h.fail env _ _ _
    split
    · exact h.fail env _ _ _
    rw [if_neg hasks.size, if_neg (hs.paused.symm ▸ Bool.noConfusion)]
    split
    · exact h.fail env _ _ _
    next hopen =>
      obtain rfl := ensureSourceOpen_ok hopen
      rw [if_neg fun hc => hasks.mode hc.1]
      -- The count starts anew.
      split
      · exact h.resendLast env hs.paused hs.proof rfl
      · refine Counted.acts (h.put ?_) (pump_acts trivial (h.base.put _))
        exact fun _ _ => ⟨hs.paused, hs.proof, .inl rfl⟩

/-- No proof is awaited. -/
theorem Counted.instantProofRsp (h : Counted m s) (env : Env) {rsp : InstantProofRsp}
    (hid : rsp.messageId = m) : Counted m (handleInstantProofRsp cfg env rsp s) := by
  unfold handleInstantProofRsp
  rw [hid]
  split
  · exact h
  next t hfind =>
    rw [if_pos (h.found hfind).2.proof]
    exact h

/-! ### Runs -/

/-- What happens while every reply to the chunks of a message is malformed, every query is
answered by a 1508 that asks for the bytes, and the user does not interfere. -/
def Event.Spoils (m : Int) : Event → Prop
  | .chunkUploadRsp f => f.messageId = m → Malformed f
  | .progressRsp f => f.messageId = m → AsksForBytes f
  | .pauseTransfer dir i | .cancelTransfer dir i => dir = .upload → i ≠ m
  | _ => True

/-- **One event** leaves no counted reply beside a chunk on its way. -/
theorem Counted.step (h : Counted m s) (e : Env × Event) (he : e.2.Spoils m) :
    Counted m (step cfg sha256Hex s e) := by
  by_cases hto : e.2.addressee = some (.upload, m)
  · obtain ⟨env, event⟩ := e
    cases event with
    | chunkUploadRsp f =>
      have hid : f.messageId = m := by
        rw [← decodeChunkUploadRsp_messageId f]
        exact congrArg Prod.snd (Option.some.inj hto)
      exact h.chunkUploadRsp env hid (he hid)
    | progressRsp f =>
      have hid : f.messageId = m := by
        rw [← decodeProgressRsp_messageId f]
        exact congrArg Prod.snd (Option.some.inj hto)
      exact h.progressRsp env hid (he hid)
    | instantProofRsp f => exact h.instantProofRsp env (congrArg Prod.snd (Option.some.inj hto))
    | _ => cases hto
  · have hadmits : (elsewhere m).Admits s e.2 := by
      refine ⟨fun dir i hreply t hfind => ⟨fun hm => hto ?_, trivial⟩,
        fun dir i t hpause hfind hm => ?_, fun _ _ _ _ _ => trivial⟩
      all_goals obtain ⟨-, hdir, hid⟩ := findActive_at h.base hfind
      · rw [hreply, ← hdir, ← hid, hm.1, hm.2]
      · rw [hpause] at he
        exact he (hdir.symm.trans hm.1) (hid.symm.trans hm.2)
    have hleaps : Leaps cfg (elsewhere m) s (Transfer.step cfg sha256Hex s e) :=
      step_leaps trivial (fun _ _ h hleap => h.leap hleap) (fun _ h => h.base)
        (fun _ _ _ _ _ => trivial) h e hadmits
    exact hleaps.preserve (fun _ _ h hleap => h.leap hleap) h

/-- **A whole run** of such events, too. -/
theorem Counted.run (h : Counted m s) {es : List (Env × Event)} (hes : ∀ e ∈ es, e.2.Spoils m) :
    Counted m (run cfg sha256Hex s es) := by
  induction es generalizing s with
  | nil => exact h
  | cons e es ih =>
    exact ih (h.step e (hes e List.mem_cons_self)) fun e' he' => hes e' (List.mem_cons_of_mem _ he')

end LlfcChat.Transfer
