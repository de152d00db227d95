/-
The slots of the transfer engine.

At most so many transfers of a direction hold a slot as the configuration says,
in every run.  That frames are only sent for transfers with a slot is another
matter.  A transfer that waits has asked for nothing, but a reply for it can
come all the same: one to a transfer of the same message that was cancelled and
started again.  The handlers of the replies do not look at the slot, and so such
a reply makes a waiting transfer send.  In every run in which no reply meets a
waiting transfer, all frames are sent for transfers with a slot.
-/
import LlfcChat.Client.Transfer.Leaps

namespace LlfcChat.Transfer

variable {cfg : Config} {env : Env} {sha256Hex : List UInt8 → String} {s : Engine} {t t' : Runtime}
variable {quiet : Prop}

/-! ### The invariant -/

/-- The discipline of the slots; the part about frames for runs that are calm. -/
structure Disciplined (cfg : Config) (quiet : Prop) (s : Engine) : Prop where
  base : Base s
  count : ∀ dir, s.activeCount dir ≤ cfg.limit dir
  queued : quiet → ∀ t, At t s → t.slotGranted = false → t.phase = .queued
  sent : quiet → ∀ f ∈ s.sent, f.slot = true

/-- Where frames may be sent. -/
abbrev granted (quiet : Prop) : Rights := { slot := fun slot => quiet → slot = true }

theorem activeCount_put_le (hb : Base s) (ht : At t s) (hid : t'.messageId = t.messageId)
    (hdir : t'.direction = t.direction) (hslot : t'.slotGranted = t.slotGranted)
    (dir : Direction) :
    (s.put t').activeCount dir ≤ s.activeCount dir := by
  unfold Engine.activeCount Engine.put
  by_cases hself : dir = t'.direction
  · subst hself
    rw [mapFor_setMap_self]
    refine Table.countP_update_le_of_mem fun x hx hkey hq => ?_
    have hmem : t ∈ s.mapFor t'.direction := by
      rw [hdir]
      exact ht.1
    rw [hb.unique hx hmem (hkey.trans hid)]
    rw [Bool.and_eq_true] at hq ⊢
    refine ⟨?_, by rw [ht.2]; rfl⟩
    rw [← hslot]
    exact hq.1
  · exact Nat.le_of_eq (by rw [mapFor_setMap_ne s hself])

theorem activeCount_put_succ (hb : Base s) (t : Runtime) (dir : Direction) :
    (s.put t).activeCount dir ≤ s.activeCount dir + (if dir = t.direction then 1 else 0) := by
  unfold Engine.activeCount Engine.put
  by_cases hdir : dir = t.direction
  · subst hdir
    rw [mapFor_setMap_self, if_pos rfl]
    exact Table.countP_update_key_le (hb.keys _) t.messageId
  · rw [mapFor_setMap_ne s hdir, if_neg hdir]
    exact Nat.le_refl _

theorem sent_put (s : Engine) (t : Runtime) : (s.put t).sent = s.sent := sent_setMap _ _ _

section

variable (h : Disciplined cfg quiet s)

include h

theorem Disciplined.put (ht : At t s) (hid : t'.messageId = t.messageId)
    (hdir : t'.direction = t.direction) (hgrant : t'.slotGranted = t.slotGranted)
    (hphase : (quiet → t.slotGranted = true) ∨ t'.phase.terminal = true ∨ t'.phase = t.phase) :
    Disciplined cfg quiet (s.put t') where
  base := h.base.put t'
  count dir := Nat.le_trans (activeCount_put_le h.base ht hid hdir hgrant dir) (h.count dir)
  queued hquiet x hx hslot := by
    rcases mem_put hx.1 with ⟨rfl, -⟩ | ⟨hmem, -⟩
    · rw [hgrant] at hslot
      rcases hphase with hg | hterminal | hsame
      · have hgranted := hg hquiet
        rw [hslot] at hgranted
        cases hgranted
      · have hlive := hx.2
        rw [hterminal] at hlive
        cases hlive
      · rw [hsame]
        exact h.queued hquiet t ht hslot
    · exact h.queued hquiet x ⟨hmem, hx.2⟩ hslot
  sent hquiet f hf := by
    rw [sent_put] at hf
    exact h.sent hquiet f hf

/-- The tables and the log are what counts. -/
theorem Disciplined.same {s' : Engine} (hmaps : ∀ dir, s'.mapFor dir = s.mapFor dir)
    (hsent : s'.sent = s.sent) : Disciplined cfg quiet s' where
  base := ⟨fun dir x hx => h.base.placed dir x (hmaps dir ▸ hx), fun dir => by
    rw [hmaps]
    exact h.base.keys dir⟩
  count dir := by
    unfold Engine.activeCount
    rw [hmaps]
    exact h.count dir
  queued hquiet x hx := h.queued hquiet x ⟨hmaps _ ▸ hx.1, hx.2⟩
  sent hquiet := by
    rw [hsent]
    exact h.sent hquiet

theorem Disciplined.move {s' : Engine} (hmove : Move cfg (granted quiet) s s') :
    Disciplined cfg quiet s' := by
  cases hmove with
  | put ht hk _ _ hphase =>
    exact h.put ht hk.messageId hk.direction hk.slotGranted (hphase.imp_right .inr)
  | finish ht hk hterminal =>
    refine Disciplined.same (h.put ht hk.messageId hk.direction hk.slotGranted
      (.inr (.inl hterminal))) (fun dir => mapFor_finish _ _ dir) ?_
    rw [sent_finish, sent_put]
  | @send t kind ht hpaused hg _ =>
    refine ⟨⟨fun dir x hx => h.base.placed dir x (by simpa using hx), fun dir => by
      simpa using h.base.keys dir⟩, fun dir => ?_, fun hquiet x hx => ?_, fun hquiet f hf => ?_⟩
    · unfold Engine.activeCount
      rw [mapFor_send]
      exact h.count dir
    · exact h.queued hquiet x ⟨by simpa using hx.1, hx.2⟩
    · rcases List.mem_append.mp hf with hf | hf
      · exact h.sent hquiet f hf
      · rw [List.mem_singleton.mp hf]
        exact hg hquiet
  | @grant t ht hslot hpaused hcount =>
    refine ⟨h.base.put _, fun dir => ?_, fun hquiet x hx hno => ?_, fun hquiet f hf => ?_⟩
    · have hsucc := activeCount_put_succ h.base { t with slotGranted := true } dir
      by_cases hdir : dir = t.direction
      · subst hdir
        rw [if_pos rfl] at hsucc
        omega
      · rw [if_neg (by exact hdir)] at hsucc
        exact Nat.le_trans hsucc (h.count dir)
    · rcases mem_put hx.1 with ⟨rfl, -⟩ | ⟨hmem, -⟩
      · cases hno
      · exact h.queued hquiet x ⟨hmem, hx.2⟩ hno
    · rw [sent_put] at hf
      exact h.sent hquiet f hf
  | wait dir l => exact h.same (fun dir' => mapFor_setWait s dir l dir') (sent_setWait s dir l)
  | awaiting b | log l => exact h.same (fun dir => by cases dir <;> rfl) rfl
  | file path c => exact h.same (fun dir => mapFor_setFile s path c dir) rfl

/-- What becomes of a table that only loses transfers. -/
theorem Disciplined.fewer {s' : Engine} (hb : Base s')
    (hmaps : ∀ dir, (s'.mapFor dir).Sublist (s.mapFor dir)) (hsent : s'.sent = s.sent) :
    Disciplined cfg quiet s' where
  base := hb
  count dir := Nat.le_trans ((hmaps dir).countP_le) (h.count dir)
  queued hquiet x hx := h.queued hquiet x ⟨(hmaps _).subset hx.1, hx.2⟩
  sent hquiet := by
    rw [hsent]
    exact h.sent hquiet

theorem Disciplined.insert (env : Env) (hfresh : Fresh t s)
    (hphase : t.phase = .queued ∨ t.phase = .failed) :
    Disciplined cfg quiet (Engine.insert env t s) where
  base := h.base.insert env t
  count dir := by
    refine Nat.le_trans ?_ (h.count dir)
    unfold Engine.activeCount
    rw [mapFor_insert]
    by_cases hdir : dir = t.direction
    · subst hdir
      rw [mapFor_setMap_self, (env.shuffle_perm _).countP_eq, List.countP_cons_of_neg]
      · exact List.filter_sublist.countP_le
      · rw [hfresh.slotGranted]
        exact Bool.false_ne_true
    · exact Nat.le_of_eq (by rw [mapFor_setMap_ne s hdir])
  queued hquiet x hx hslot := by
    rcases mem_insert hx.1 with ⟨rfl, -⟩ | ⟨hmem, -⟩
    · rcases hphase with hq | hf
      · exact hq
      · have hlive := hx.2
        rw [hf] at hlive
        cases hlive
    · exact h.queued hquiet x ⟨hmem, hx.2⟩ hslot
  sent hquiet f hf := h.sent hquiet f ((sent_setMap _ _ _) ▸ hf)

theorem Disciplined.down (hb : Base (onConnectionDown s)) :
    Disciplined cfg quiet (onConnectionDown s) where
  base := hb
  count dir := by
    unfold Engine.activeCount
    rw [mapFor_down, List.countP_map]
    refine Nat.le_trans (List.countP_mono_left fun x _ hx => ?_) (h.count dir)
    obtain ⟨hk, hphase, -⟩ := connectionDown_key x
    rwa [Function.comp, hk.slotGranted, hphase] at hx
  queued hquiet x hx hslot := by
    have hmem := hx.1
    rw [mapFor_down] at hmem
    obtain ⟨y, hy, rfl⟩ := List.mem_map.mp hmem
    obtain ⟨hk, hphase, -⟩ := connectionDown_key y
    have hlive := hx.2
    rw [hk.direction] at hy
    rw [hphase] at hlive ⊢
    exact h.queued hquiet y ⟨hy, hlive⟩ (hk.slotGranted ▸ hslot)
  sent hquiet f hf := h.sent hquiet f hf

theorem Disciplined.leap {s' : Engine} (hleap : Leap cfg (granted quiet) s s') :
    Disciplined cfg quiet s' := by
  have hb := (h.base.leap hleap).1
  cases hleap with
  | move hmove => exact h.move hmove
  | pause ht _ | resume ht _ => exact h.put ht rfl rfl rfl (.inr (.inr rfl))
  | enter env hfresh hphase => exact h.insert env hfresh (.inl hphase)
  | stillborn env hfresh hphase =>
    exact (h.insert env hfresh (.inr hphase)).same (fun dir => mapFor_stillborn _ _ dir) rfl
  | erase dir id =>
    refine h.fewer hb (fun dir' => ?_) (sent_setMap _ _ _)
    unfold Engine.erase
    by_cases hdir : dir' = dir
    · subst hdir
      rw [mapFor_setMap_self]
      exact List.filter_sublist
    · rw [mapFor_setMap_ne s hdir]
  | down => exact h.down hb
  | up => exact h.same (fun dir => by cases dir <;> rfl) rfl
  | reset =>
    refine h.fewer hb (fun dir => ?_) rfl
    rw [mapFor_reset]
    exact List.nil_sublist _

end

/-! ### Runs -/

theorem disciplined_nil : Disciplined cfg quiet {} where
  base := base_nil
  count dir := by
    unfold Engine.activeCount
    rw [mapFor_nil]
    exact Nat.zero_le _
  queued _ x hx := by
    have hmem := hx.1
    rw [mapFor_nil] at hmem
    cases hmem
  sent _ f hf := by cases hf

/-- The reply, if the event is one, is not for a transfer that waits for a slot. -/
def Event.calm (s : Engine) (event : Event) : Prop :=
  ∀ dir id t, event.addressee = some (dir, id) → s.findActive dir id = some t →
    t.slotGranted = true

theorem Disciplined.step (h : Disciplined cfg quiet s) (e : Env × Event)
    (he : quiet → e.2.calm s) : Disciplined cfg quiet (step cfg sha256Hex s e) := by
  have hleaps : Leaps cfg (granted quiet) s (Transfer.step cfg sha256Hex s e) := by
    refine step_leaps (fun _ => rfl) (fun _ _ h hleap => h.leap hleap) (fun _ h => h.base)
      (fun s h t ht hback hquiet => ?_) h e ⟨fun dir id hto t hfind => ⟨trivial, fun hquiet => ?_⟩,
      fun _ _ _ _ _ => trivial, fun _ _ _ _ _ => trivial⟩
    · -- a transfer in backoff is not queued, so it has its slot
      refine Bool.not_eq_false _ ▸ fun hslot => ?_
      have hqueued := h.queued hquiet t ht hslot
      rw [hback] at hqueued
      cases hqueued
    · exact he hquiet dir id t hto hfind
  exact hleaps.preserve (fun _ _ h hleap => h.leap hleap) h

/-- No reply of a run is for a transfer that waits for a slot at that time. -/
def Calm (cfg : Config) (sha256Hex : List UInt8 → String) : Engine → List (Env × Event) → Prop
  | _, [] => True
  | s, e :: es => e.2.calm s ∧ Calm cfg sha256Hex (step cfg sha256Hex s e) es

theorem Disciplined.run (h : Disciplined cfg quiet s) (es : List (Env × Event))
    (hes : quiet → Calm cfg sha256Hex s es) : Disciplined cfg quiet (run cfg sha256Hex s es) := by
  induction es generalizing s with
  | nil => exact h
  | cons e es ih => exact ih (h.step e fun hc => (hes hc).1) fun hc => (hes hc).2

/-- The slots of a direction are never more than configured, and in a run in which no reply meets
a waiting transfer, every frame is sent for a transfer that holds a slot. -/
theorem slot_discipline (cfg : Config) (sha256Hex : List UInt8 → String) (es : List (Env × Event)) :
    (∀ dir, (run cfg sha256Hex {} es).activeCount dir ≤ cfg.limit dir) ∧
      (Calm cfg sha256Hex {} es → ∀ f ∈ (run cfg sha256Hex {} es).sent, f.slot = true) := by
  have h : Disciplined cfg (Calm cfg sha256Hex {} es) (run cfg sha256Hex {} es) :=
    disciplined_nil.run es id
  exact ⟨h.count, h.sent⟩

/-- One upload at a time. -/
def oneUpload : Config := { maxActiveUploads := 1 }

/-- The files of the uploads. -/
def tenBytes : Env := { now := 1, sourceSize := fun _ => some 10 }

/-- Message 1 of ten bytes is on the server, but not published. -/
def allThere : Fields :=
  { messageId := 1
    error := some 0
    serverOffset := some 10
    fileSizeBytes := some 10
    status := some 0
    sha256 := "0000000000000000000000000000000000000000000000000000000000000000" }

/-- The same reply while message 1 holds the slot. -/
def timelyReply : List Event :=
  [.connectionAuthenticated,
    .startUpload { messageId := 1, filePath := "a", fileSizeBytes := 10 },
    .progressRsp allThere]

theorem slot_discipline_timely_reply :
    Calm oneUpload (fun _ => "") {} (timelyReply.map fun event => (tenBytes, event)) ∧
      ∀ f ∈ (run oneUpload (fun _ => "") {}
        (timelyReply.map fun event => (tenBytes, event))).sent, f.slot = true := by
  have hcalm : Calm oneUpload (fun _ => "") {}
      (timelyReply.map fun event => (tenBytes, event)) := by
    refine ⟨fun _ _ _ h => (nomatch h), fun _ _ _ h => (nomatch h), fun dir id t hto hfind => ?_,
      trivial⟩
    have hslot : ((run oneUpload (fun _ => "") {} ((timelyReply.take 2).map fun event =>
        (tenBytes, event))).findActive .upload 1).all (·.slotGranted) = true := by
      decide +kernel
    obtain ⟨rfl, rfl⟩ := Prod.mk.inj (Option.some.inj hto)
    have hfind' : (run oneUpload (fun _ => "") {} ((timelyReply.take 2).map fun event =>
        (tenBytes, event))).findActive .upload 1 = some t := hfind
    rw [hfind'] at hslot
    exact hslot
  exact ⟨hcalm, (slot_discipline oneUpload (fun _ => "") _).2 hcalm⟩

/-- Message 1 is cancelled and started again while message 2 has the only slot; then the reply to
the first query for message 1 comes and says that all bytes are there. -/
def lateReply : List Event :=
  [.connectionAuthenticated,
    .startUpload { messageId := 1, filePath := "a", fileSizeBytes := 10 },
    .startUpload { messageId := 2, filePath := "b", fileSizeBytes := 10 },
    .cancelTransfer .upload 1,
    .startUpload { messageId := 1, filePath := "a", fileSizeBytes := 10 },
    .progressRsp allThere]

/-- The last chunk is sent for message 1, which has no slot. -/
theorem slot_discipline_late_reply :
    let s := run oneUpload (fun _ => "") {} (lateReply.map fun event => (tenBytes, event))
    s.sent.map (fun f => (f.kind, f.messageId, f.slot)) =
        [(.progressReq, 1, true), (.progressReq, 2, true), (.chunkUploadReq, 1, false)] ∧
      s.uploads.any (fun t => t.messageId = 1 && !t.phase.terminal && !t.slotGranted) = true := by
  decide +kernel

end LlfcChat.Transfer
