/-
Everything an event can do to the transfer engine.

To the moves of the transfers come what the calls and the connection do: a
transfer is entered, paused, resumed or erased, and the connection goes down,
comes up or is reset.  `step_leaps` says that an event is nothing else, and so
an invariant of the engine is one case for each kind of leap.
-/
import LlfcChat.Client.Transfer.Moves

namespace LlfcChat.Transfer

variable {cfg : Config} {env : Env} {sha256Hex : List UInt8 → String} {s : Engine} {t t' : Runtime}
variable {a : Rights}

/-! ### Leaps -/

/-- A transfer as it is entered. -/
structure Fresh (t : Runtime) (s : Engine) : Prop where
  slotGranted : t.slotGranted = false
  userPaused : t.userPaused = false
  serial : t.serial = s.nextSerial
  uncounted : t.jsonErrorCount = 0 ∧ t.proofPending = false

variable (cfg a) in
inductive Leap : Engine → Engine → Prop
  | move {s s' : Engine} : Move cfg a s s' → Leap s s'
  | pause {s : Engine} {t : Runtime} : At t s → a.pause t →
    Leap s (s.put { t with userPaused := true })
  | resume {s : Engine} {t : Runtime} : At t s → a.resume t →
    Leap s (s.put { t with userPaused := false })
  | enter {s : Engine} {t : Runtime} (env : Env) : Fresh t s → t.phase = .queued →
    Leap s (Engine.insert env t s)
  | stillborn {s : Engine} {t : Runtime} (env : Env) : Fresh t s → t.phase = .failed →
    Leap s { Engine.insert env t s with finished := s.finished ++ [t.serial] }
  | erase {s : Engine} (dir : Direction) (id : Int) : Leap s (s.erase dir id)
  | down {s : Engine} : Leap s (onConnectionDown s)
  | up {s : Engine} : Leap s { s with connUp := true, awaitingReconnect := false }
  | reset {s : Engine} : Leap s (reset s)

variable (cfg a) in
def Leaps : Engine → Engine → Prop := Relation.ReflTransGen (Leap cfg a)

theorem Leaps.refl (s : Engine) : Leaps cfg a s s := Relation.ReflTransGen.refl

variable {dir : Direction} {s' : Engine} {I : Engine → Prop}

theorem Leaps.trans {s s'' : Engine} (h : Leaps cfg a s s') (h' : Leaps cfg a s' s'') :
    Leaps cfg a s s'' :=
  Relation.ReflTransGen.trans h h'

theorem Leap.leaps {s : Engine} (h : Leap cfg a s s') : Leaps cfg a s s' :=
  Relation.ReflTransGen.single h

theorem Moves.leaps {s : Engine} (h : Moves cfg a s s') : Leaps cfg a s s' :=
  Relation.ReflTransGen.mono (fun _ _ => Leap.move) _ _ h

/-- What every leap preserves, all of them preserve. -/
theorem Leaps.preserve (hI : ∀ s s', I s → Leap cfg a s s' → I s') {s : Engine}
    (h : Leaps cfg a s s') (hs : I s) : I s' := by
  induction h with
  | refl => exact hs
  | tail _ hleap ih => exact hI _ _ ih hleap

/-! ### The tables after a leap -/

theorem mem_insert {x : Runtime} (hx : x ∈ (Engine.insert env t s).mapFor dir) :
    x = t ∧ dir = t.direction ∨
      x ∈ s.mapFor dir ∧ (dir = t.direction → x.messageId ≠ t.messageId) := by
  have hx : x ∈ (s.setMap t.direction (env.shuffle
      (t :: (s.mapFor t.direction).filter fun x => x.messageId ≠ t.messageId))).mapFor dir := by
    cases dir <;> exact hx
  by_cases hdir : dir = t.direction
  · subst hdir
    rw [mapFor_setMap_self] at hx
    rcases List.mem_cons.mp ((env.shuffle_perm _).mem_iff.mp hx) with rfl | hx
    · exact .inl ⟨rfl, rfl⟩
    · exact .inr ⟨List.mem_of_mem_filter hx, fun _ => by simpa using List.of_mem_filter hx⟩
  · rw [mapFor_setMap_ne s hdir] at hx
    exact .inr ⟨hx, fun h => absurd h hdir⟩

theorem mapFor_insert (env : Env) (t : Runtime) (s : Engine) (dir : Direction) :
    (Engine.insert env t s).mapFor dir = (s.setMap t.direction (env.shuffle
      (t :: (s.mapFor t.direction).filter fun x => x.messageId ≠ t.messageId))).mapFor dir := by
  cases dir <;> rfl

theorem mem_erase {x : Runtime} {dir' : Direction} {id : Int}
    (hx : x ∈ (s.erase dir' id).mapFor dir) : x ∈ s.mapFor dir := by
  unfold Engine.erase at hx
  by_cases hdir : dir = dir'
  · subst hdir
    rw [mapFor_setMap_self] at hx
    exact List.mem_of_mem_filter hx
  · rwa [mapFor_setMap_ne s hdir] at hx

theorem mapFor_down (s : Engine) (dir : Direction) :
    (onConnectionDown s).mapFor dir = (s.mapFor dir).map Runtime.connectionDown := by
  cases dir <;> rfl

theorem mapFor_reset (s : Engine) (dir : Direction) : (reset s).mapFor dir = [] := by
  cases dir <;> rfl

/-- A lost connection leaves what identifies a transfer and its phase. -/
theorem connectionDown_key (t : Runtime) :
    Key t t.connectionDown ∧ t.connectionDown.phase = t.phase ∧ Mild t t.connectionDown := by
  unfold Runtime.connectionDown
  split
  · exact ⟨.refl t, rfl, .refl t⟩
  · exact ⟨⟨rfl, id⟩, rfl, rfl, fun _ => rfl, fun h => ⟨rfl, h.2⟩⟩

theorem Base.insert (h : Base s) (env : Env) (t : Runtime) : Base (Engine.insert env t s) where
  placed dir x hx := by
    rcases mem_insert hx with ⟨rfl, hdir⟩ | ⟨hx, -⟩
    · exact hdir.symm
    · exact h.placed dir x hx
  keys dir := by
    rw [mapFor_insert]
    by_cases hdir : dir = t.direction
    · subst hdir
      rw [mapFor_setMap_self, ((env.shuffle_perm _).map _).nodup_iff, List.map_cons,
        List.nodup_cons]
      refine ⟨fun hmem => ?_, ((h.keys _).sublist ((List.filter_sublist).map _))⟩
      obtain ⟨x, hx, hid⟩ := List.mem_map.mp hmem
      have hne := List.of_mem_filter hx
      exact of_decide_eq_true hne hid
    · rw [mapFor_setMap_ne s hdir]
      exact h.keys dir

theorem mapFor_stillborn (s : Engine) (l : List Nat) (dir : Direction) :
    ({ s with finished := l } : Engine).mapFor dir = s.mapFor dir := by
  cases dir <;> rfl

theorem Base.stillborn (h : Base s) (l : List Nat) : Base { s with finished := l } where
  placed dir x hx := h.placed dir x (mapFor_stillborn s l dir ▸ hx)
  keys dir := by
    rw [mapFor_stillborn]
    exact h.keys dir

theorem Base.leap {s : Engine} (h : Base s) (hleap : Leap cfg a s s') :
    Base s' ∧ s.nextSerial ≤ s'.nextSerial := by
  cases hleap with
  | move hmove => exact ⟨(h.move hmove).1, Nat.le_of_eq (h.move hmove).2.2.symm⟩
  | pause _ _ | resume _ _ => exact ⟨h.put _, Nat.le_of_eq (nextSerial_setMap _ _ _).symm⟩
  | enter env _ _ => exact ⟨h.insert env _, Nat.le_succ _⟩
  | stillborn env _ _ => exact ⟨(h.insert env _).stillborn _, Nat.le_succ _⟩
  | erase dir id =>
    refine ⟨⟨fun dir' x hx => h.placed dir' x (mem_erase hx), fun dir' => ?_⟩,
      Nat.le_of_eq (nextSerial_setMap _ _ _).symm⟩
    unfold Engine.erase
    by_cases hdir : dir' = dir
    · subst hdir
      rw [mapFor_setMap_self]
      exact (h.keys _).sublist (List.filter_sublist.map _)
    · rw [mapFor_setMap_ne s hdir]
      exact h.keys dir'
  | down =>
    refine ⟨⟨fun dir x hx => ?_, fun dir => ?_⟩, Nat.le_refl _⟩
    · rw [mapFor_down] at hx
      obtain ⟨y, hy, rfl⟩ := List.mem_map.mp hx
      exact (connectionDown_key y).1.direction.trans (h.placed dir y hy)
    · rw [mapFor_down, List.map_map]
      have hids : (fun x : Runtime => x.messageId) ∘ Runtime.connectionDown = (·.messageId) :=
        funext fun x => (connectionDown_key x).1.messageId
      rw [hids]
      exact h.keys dir
  | up => exact ⟨⟨fun dir x hx => h.placed dir x (by cases dir <;> exact hx), fun dir => by
      cases dir
      · exact h.keys .upload
      · exact h.keys .download⟩, Nat.le_refl _⟩
  | reset =>
    refine ⟨⟨fun dir x hx => ?_, fun dir => ?_⟩, Nat.le_refl _⟩
    · rw [mapFor_reset] at hx
      cases hx
    · rw [mapFor_reset]
      exact List.nodup_nil

theorem Base.leaps {s : Engine} (h : Base s) (hleaps : Leaps cfg a s s') :
    Base s' ∧ s.nextSerial ≤ s'.nextSerial := by
  induction hleaps with
  | refl => exact ⟨h, Nat.le_refl _⟩
  | tail _ hleap ih =>
    obtain ⟨hb, hn⟩ := ih.1.leap hleap
    exact ⟨hb, Nat.le_trans ih.2 hn⟩

/-- What a leap makes of a transfer that it leaves in the tables. -/
structure Kin (a : Rights) (x x' : Runtime) : Prop where
  messageId : x'.messageId = x.messageId
  serial : x'.serial = x.serial
  held : x.userPaused = true ∨ x.phase.terminal = true →
    x'.userPaused = true ∨ x'.phase.terminal = true ∨ a.resume x
  ended : x.phase.terminal = true → x'.phase = x.phase
  proofDisabled : x.proofDisabled = true → x'.proofDisabled = true

theorem Kin.refl (x : Runtime) : Kin a x x where
  messageId := rfl
  serial := rfl
  held h := h.elim .inl fun h => .inr (.inl h)
  ended _ := rfl
  proofDisabled := id

/-- The transfers after a transfer was changed. -/
theorem kin_put {x' : Runtime} (hx : x' ∈ (s.put t').mapFor dir) (ht : At t s)
    (hdir : t'.direction = t.direction) (hkin : Kin a t t') :
    ∃ x ∈ s.mapFor dir, Kin a x x' := by
  rcases mem_put hx with ⟨rfl, rfl⟩ | ⟨hmem, -⟩
  · refine ⟨t, ?_, hkin⟩
    rw [hdir]
    exact ht.1
  · exact ⟨x', hmem, Kin.refl x'⟩

/-- A transfer that has not ended and stays paused as it is. -/
theorem At.kin (ht : At t s) (hid : t'.messageId = t.messageId) (hserial : t'.serial = t.serial)
    (hpaused : t.userPaused = true → t'.userPaused = true ∨ t'.phase.terminal = true ∨ a.resume t)
    (hproof : t.proofDisabled = true → t'.proofDisabled = true) : Kin a t t' := by
  have hlive : ¬t.phase.terminal = true := by
    rw [ht.2]
    exact Bool.false_ne_true
  exact ⟨hid, hserial, fun h => h.elim hpaused fun h => absurd h hlive,
    fun h => absurd h hlive, hproof⟩

theorem Key.kin (hk : Key t t') (ht : At t s) : Kin a t t' :=
  ht.kin hk.messageId hk.serial (fun hp => .inl (hk.userPaused.trans hp)) hk.2

/-- Every transfer was there before, but for the one that was entered. -/
theorem Leap.origin {s : Engine} (hleap : Leap cfg a s s') :
    (∀ dir, ∀ x' ∈ s'.mapFor dir, ∃ x ∈ s.mapFor dir, Kin a x x') ∨
      ∃ env t, Fresh t s ∧ s'.nextSerial = s.nextSerial + 1 ∧
        ∀ dir, s'.mapFor dir = (Engine.insert env t s).mapFor dir := by
  have hsame : ∀ {s'' : Engine}, (∀ dir, s''.mapFor dir = s.mapFor dir) →
      ∀ dir, ∀ x' ∈ s''.mapFor dir, ∃ x ∈ s.mapFor dir, Kin a x x' := fun hmaps dir x' hx =>
    ⟨x', hmaps dir ▸ hx, Kin.refl x'⟩
  cases hleap with
  | move hmove =>
    refine .inl ?_
    cases hmove with
    | put ht hk _ _ _ => exact fun dir x' hx => kin_put hx ht hk.direction (hk.kin ht)
    | finish ht hk _ =>
      intro dir x' hx
      rw [mapFor_finish] at hx
      exact kin_put hx ht hk.direction (hk.kin ht)
    | send kind _ _ _ _ => exact hsame fun dir => mapFor_send _ _ _ dir
    | grant ht _ _ _ => exact fun dir x' hx => kin_put hx ht rfl (ht.kin rfl rfl .inl id)
    | wait dir l => exact hsame fun dir' => mapFor_setWait _ _ _ dir'
    | awaiting b | log l => exact hsame fun dir => by cases dir <;> rfl
    | file path c => exact hsame fun dir => mapFor_setFile _ _ _ dir
  | pause ht _ =>
    exact .inl fun dir x' hx => kin_put hx ht rfl (ht.kin rfl rfl (fun _ => .inl rfl) id)
  | resume ht hr =>
    exact .inl fun dir x' hx => kin_put hx ht rfl (ht.kin rfl rfl (fun _ => .inr (.inr hr)) id)
  | enter env hfresh _ => exact .inr ⟨env, _, hfresh, rfl, fun _ => rfl⟩
  | stillborn env hfresh _ =>
    exact .inr ⟨env, _, hfresh, rfl, fun dir => mapFor_stillborn _ _ dir⟩
  | erase dir id => exact .inl fun dir' x' hx => ⟨x', mem_erase hx, Kin.refl x'⟩
  | down =>
    refine .inl fun dir x' hx => ?_
    rw [mapFor_down] at hx
    obtain ⟨x, hmem, rfl⟩ := List.mem_map.mp hx
    obtain ⟨hk, hphase, -⟩ := connectionDown_key x
    refine ⟨x, hmem, hk.messageId, hk.serial, fun h => ?_, fun _ => hphase, hk.2⟩
    rw [hk.userPaused, hphase]
    exact h.elim .inl fun h => .inr (.inl h)
  | up => exact .inl (hsame fun dir => by cases dir <;> rfl)
  | reset =>
    refine .inl fun dir x' hx => ?_
    rw [mapFor_reset] at hx
    cases hx

/-- Nothing is sent, or one frame for a transfer that is not paused. -/
theorem Leap.sent {s : Engine} (hleap : Leap cfg a s s') :
    s'.sent = s.sent ∨ ∃ t f, At t s ∧ t.userPaused = false ∧ f.serial = t.serial ∧
      (f.kind = .instantProofReq → t.proofDisabled = false) ∧ s'.sent = s.sent ++ [f] := by
  cases hleap with
  | move hmove =>
    cases hmove with
    | put _ _ _ _ _ | grant _ _ _ _ => exact .inl (sent_setMap _ _ _)
    | finish _ _ _ => exact .inl (sent_finish _ _)
    | send kind ht hpaused _ hproof => exact .inr ⟨_, _, ht, hpaused, rfl, hproof, rfl⟩
    | wait dir l => exact .inl (sent_setWait _ _ _)
    | awaiting b | log l | file path c => exact .inl rfl
  | pause _ _ | resume _ _ | enter env _ _ | stillborn env _ _ | erase dir id =>
    exact .inl (sent_setMap _ _ _)
  | down | up | reset => exact .inl rfl

/-- What is known of transfer `n` stays known, if its kin keep it. -/
theorem Leap.follow {s : Engine} {n : Nat} {P : Direction → Runtime → Prop}
    (hleap : Leap cfg a s s') (hused : n < s.nextSerial)
    (h : ∀ dir, ∀ x ∈ s.mapFor dir, x.serial = n → P dir x)
    (hkin : ∀ dir, ∀ x ∈ s.mapFor dir, ∀ x', Kin a x x' → P dir x → P dir x')
    (dir : Direction) (x' : Runtime) (hx : x' ∈ s'.mapFor dir) (hn : x'.serial = n) : P dir x' := by
  rcases hleap.origin with hold | ⟨env, t, hfresh, -, hmaps⟩
  · obtain ⟨x, hmem, hk⟩ := hold dir x' hx
    exact hkin dir x hmem x' hk (h dir x hmem (hk.serial.symm.trans hn))
  · rcases mem_insert (hmaps dir ▸ hx) with ⟨rfl, -⟩ | ⟨hmem, -⟩
    · rw [← hn, hfresh.serial] at hused
      exact absurd hused (Nat.lt_irrefl _)
    · exact h dir x' hmem hn

/-- The frames since `sent` are such as `K` says, if every new one is. -/
theorem Leap.silent {s : Engine} {sent : List Frame} {K : Frame → Prop}
    (hleap : Leap cfg a s s') (h : ∃ new, s.sent = sent ++ new ∧ ∀ f ∈ new, K f)
    (hone : ∀ t f, At t s → t.userPaused = false → f.serial = t.serial →
      (f.kind = .instantProofReq → t.proofDisabled = false) → K f) :
    ∃ new, s'.sent = sent ++ new ∧ ∀ f ∈ new, K f := by
  obtain ⟨new, hsent, hnew⟩ := h
  rcases hleap.sent with hsame | ⟨t, f, ht, hpaused, hserial, hproof, heq⟩
  · exact ⟨new, hsame.trans hsent, hnew⟩
  · refine ⟨new ++ [f], by rw [heq, hsent, List.append_assoc], fun f' hf => ?_⟩
    rcases List.mem_append.mp hf with hf | hf
    · exact hnew f' hf
    · rw [List.mem_singleton.mp hf]
      exact hone t f ht hpaused hserial hproof

theorem mapFor_nil (dir : Direction) : ({} : Engine).mapFor dir = [] := by
  cases dir <;> rfl

theorem base_nil : Base {} where
  placed dir x hx := by
    rw [mapFor_nil] at hx
    cases hx
  keys dir := by
    rw [mapFor_nil]
    exact List.nodup_nil

/-! ### The calls -/

theorem at_insert (env : Env) (s : Engine) (hphase : t.phase.terminal = false) :
    At t (Engine.insert env t s) := by
  refine ⟨?_, hphase⟩
  rw [mapFor_insert, mapFor_setMap_self]
  exact (env.shuffle_perm _).mem_iff.mpr (List.mem_cons_self ..)

theorem admit_leaps (ha : a.slot true) (hfresh : Fresh t s) (hphase : t.phase = .queued) :
    Leaps cfg a s (enlist cfg env t s) := by
  have hlive : t.phase.terminal = false := by rw [hphase]; rfl
  refine (Leap.enter env hfresh hphase).leaps.trans ?_
  unfold enlist
  simp only
  split
  · exact (Move.wait _ _).moves.leaps
  · rename_i hroom
    exact (grant_moves ha (at_insert env s hlive) hfresh.slotGranted hfresh.userPaused
      (Nat.lt_of_not_le hroom)).leaps

theorem stillborn_leaps (ha : a.slot true) (hb : Base s) (hfresh : Fresh t s) (text : String) :
    Leaps cfg a s (stillborn cfg env t text s) := by
  have herase : Leaps cfg a s (s.erase t.direction t.messageId) := (Leap.erase _ _).leaps
  have hb' : Base (s.erase t.direction t.messageId) := (hb.leaps herase).1
  have hpromote : Moves cfg a (s.erase t.direction t.messageId)
      (promoteWaiting cfg env t.direction (s.erase t.direction t.messageId)) :=
    promoteWaiting_moves ha _ hb'
  refine herase.trans (hpromote.leaps.trans (Leap.leaps (Leap.stillborn env ?_ rfl)))
  refine ⟨hfresh.slotGranted, hfresh.userPaused, ?_, hfresh.uncounted⟩
  rw [(hb'.moves hpromote).2]
  exact hfresh.serial.trans (nextSerial_setMap _ _ _).symm

theorem startUpload_leaps (ha : a.slot true) (hb : Base s) (req : UploadRequest) :
    Leaps cfg a s (startUpload cfg env req s) := by
  unfold startUpload
  split
  · exact Leaps.refl s
  split
  · exact Leaps.refl s
  simp only
  split
  · exact stillborn_leaps ha hb ⟨rfl, rfl, rfl, rfl, rfl⟩ _
  · exact admit_leaps ha ⟨rfl, rfl, rfl, rfl, rfl⟩ rfl

theorem startDownload_leaps (ha : a.slot true) (hb : Base s) (req : DownloadRequest) :
    Leaps cfg a s (startDownload cfg env req s) := by
  unfold startDownload
  split
  · exact Leaps.refl s
  split
  · exact Leaps.refl s
  simp only
  split
  · exact stillborn_leaps ha hb ⟨rfl, rfl, rfl, rfl, rfl⟩ _
  · exact admit_leaps ha ⟨rfl, rfl, rfl, rfl, rfl⟩ rfl

theorem pauseTransfer_leaps (hb : Base s) (dir : Direction) (id : Int)
    (hp : ∀ t, s.findActive dir id = some t → a.pause t) :
    Leaps cfg a s (pauseTransfer dir id s) := by
  unfold pauseTransfer
  split
  · exact Leaps.refl s
  rename_i t hfind
  split
  · exact Leaps.refl s
  · exact (Leap.pause (findActive_at hb hfind).1 (hp t hfind)).leaps

theorem resyncUpload_moves (ht : At t s) (ha : a.slot t.slotGranted) :
    Moves cfg a s (resyncUpload env t s) :=
  beginQuery_moves ht (by exact .refl t) (.inr (by exact ⟨rfl, id, fun h => ⟨rfl, h.2⟩⟩)) ha

theorem resyncUpload_put (s : Engine) (t : Runtime) :
    resyncUpload env t (s.put t) = resyncUpload env t s :=
  beginQuery_put s _ t rfl rfl

theorem resumeTransfer_leaps (ha : a.slot true) (hb : Base s) (dir : Direction) (id : Int)
    (hr : ∀ t, s.findActive dir id = some t → a.resume t) :
    Leaps cfg a s (resumeTransfer cfg env dir id s) := by
  unfold resumeTransfer
  split
  · exact Leaps.refl s
  rename_i t hfind
  split
  · exact Leaps.refl s
  have ht := (findActive_at hb hfind).1
  have hresume : Leaps cfg a s (s.put { t with userPaused := false }) :=
    (Leap.resume ht (hr t hfind)).leaps
  have ht' : At { t with userPaused := false } (s.put { t with userPaused := false }) :=
    ht.put rfl rfl ht.2
  refine hresume.trans ?_
  simp only
  split
  · exact (promoteWaiting_moves ha _ (hb.put _)).leaps
  rename_i hslot
  have hgranted : t.slotGranted = true := Bool.not_eq_false _ ▸ hslot
  have hat : a.slot ({ t with userPaused := false } : Runtime).slotGranted := by
    show a.slot t.slotGranted
    rw [hgranted]
    exact ha
  split
  · rw [← resyncUpload_put]
    exact (resyncUpload_moves ht' hat).leaps
  · rw [← beginQuery_put s _ { t with userPaused := false } rfl rfl]
    exact (beginQuery_moves ht' (.refl _) (.inr (.refl _)) hat).leaps

theorem cancelTransfer_leaps (ha : a.slot true) (hb : Base s) (dir : Direction) (id : Int) :
    Leaps cfg a s (cancelTransfer cfg env dir id s) := by
  unfold cancelTransfer
  split
  · exact Leaps.refl s
  rename_i t hfind
  have ht := (findActive_at hb hfind).1
  exact ((failTransfer_acts ht (.refl t) 0 _).moves ha hb).leaps

/-! ### The connection and the clock -/

theorem requery_acts (ha : a.slot true) (hb : Base s) (dir : Direction) (id : Int) :
    Acts cfg env a s (requery env dir s id) := by
  unfold requery
  split
  · exact Acts.refl s
  rename_i t hfind
  split
  · exact Acts.refl s
  rename_i hguard
  simp only [not_or, Bool.not_eq_false, Bool.not_eq_true] at hguard
  obtain ⟨hmem, hdir, -⟩ := find_at hb hfind
  subst hdir
  have ht : At t s := ⟨hmem, hguard.2.1⟩
  exact beginQuery_acts ht (by exact .refl t) (.inr (by exact .refl t)) (hguard.1.symm ▸ ha)

/-- A loop over the transfers of one direction. -/
theorem foldl_leaps {f : Engine → Int → Engine} (hI : ∀ s s', I s → Leap cfg a s s' → I s')
    (hf : ∀ s id, I s → Leaps cfg a s (f s id)) (l : List Int) (hs : I s) :
    Leaps cfg a s (l.foldl f s) := by
  induction l generalizing s with
  | nil => exact Leaps.refl s
  | cons id l ih => exact (hf s id hs).trans (ih ((hf s id hs).preserve hI hs))

/-- The transfers of one direction are asked for again. -/
theorem requery_all (cfg : Config) (env : Env) (ha : a.slot true) (hb : Base s)
    (dir : Direction) :
    Leaps cfg a s (((s.mapFor dir).map (·.messageId)).foldl (requery env dir) s) :=
  foldl_leaps (fun _ _ h hleap => (h.leap hleap).1)
    (fun _ id hb => ((requery_acts ha hb dir id : Acts cfg env a _ _).moves ha hb).leaps) _ hb

theorem onConnectionAuthenticated_leaps (ha : a.slot true) (hb : Base s) :
    Leaps cfg a s (onConnectionAuthenticated cfg env s) := by
  have hup : Leaps cfg a s { s with connUp := true, awaitingReconnect := false } := Leap.up.leaps
  have huploads := requery_all cfg env ha (hb.leaps hup).1 .upload
  have hb' := ((hb.leaps hup).1.leaps huploads).1
  have hdownloads := requery_all cfg env ha hb' .download
  have hb'' := (hb'.leaps hdownloads).1
  have hpump : Moves cfg a _ (pump cfg env _) := (pump_acts ha hb'').moves ha hb''
  exact hup.trans (huploads.trans (hdownloads.trans hpump.leaps))

/-- A transfer whose reply is overdue. -/
theorem handleTimeout_acts (ht : At t s) : Acts cfg env a s (handleTimeout t s) := by
  unfold handleTimeout
  simp only
  split
  · refine Act.acts (Act.put ht ?_ (.inr ?_) (by exact ht.2) (.inr ?_))
    exacts [.refl t, ⟨rfl, id, fun h => ⟨rfl, h.2⟩⟩, rfl]
  · refine Acts.trans (Act.acts (Act.put ht ?_ (.inr ?_) (by exact ht.2) (.inr ?_)))
      (Act.awaiting true).acts
    exacts [.refl t, ⟨rfl, fun _ => rfl, fun h => ⟨rfl, h.2⟩⟩, rfl]

theorem tick_acts (hb : Base s) (dir : Direction) (id : Int)
    (hback : ∀ t, At t s → t.phase = .backoff → a.slot t.slotGranted) :
    Acts cfg env a s (tick cfg env dir s id) := by
  unfold tick
  split
  · exact Acts.refl s
  rename_i t hfind
  have ht := (findActive_at hb hfind).1
  split
  · rename_i hdue
    split
    · exact beginQuery_acts ht (by exact .refl t) (.inr (by exact .refl t)) (hback t ht hdue.1)
    · refine Act.acts (Act.put ht ?_ (.inr ?_) (by exact ht.2) (.inr ?_))
      exacts [.refl t, .refl t, rfl]
  · split
    · split
      · exact handleTimeout_acts ht
      · exact Acts.refl s
    · split
      · exact handleTimeout_acts ht
      · exact Acts.refl s
    · exact Acts.refl s

/-! ### Events -/

/-- The transfer that a reply is for. -/
def Event.addressee : Event → Option (Direction × Int)
  | .chunkUploadRsp f => some (.upload, (decodeChunkUploadRsp f).messageId)
  | .progressRsp f => some (.upload, (decodeProgressRsp f).messageId)
  | .downInfoRsp f => some (.download, (decodeDownInfoRsp f).messageId)
  | .chunkDownRsp f => some (.download, (decodeChunkDownRsp f).messageId)
  | .instantProofRsp f => some (.upload, (decodeInstantProofRsp f).messageId)
  | _ => none

/-- The calls and replies of an event are allowed. -/
structure Rights.Admits (a : Rights) (s : Engine) (event : Event) : Prop where
  reply : ∀ dir id, event.addressee = some (dir, id) → a.answers s dir id
  pause : ∀ dir id t, event = .pauseTransfer dir id → s.findActive dir id = some t → a.pause t
  resume : ∀ dir id t, event = .resumeTransfer dir id → s.findActive dir id = some t → a.resume t

theorem admits_any (s : Engine) (event : Event) : ({} : Rights).Admits s event :=
  ⟨fun _ _ _ _ _ => ⟨trivial, trivial⟩, fun _ _ _ _ _ => trivial, fun _ _ _ _ _ => trivial⟩

/-- What an event does, under an invariant that says enough about the transfers in backoff. -/
theorem step_leaps (ha : a.slot true) (hI : ∀ s s', I s → Leap cfg a s s' → I s')
    (hbase : ∀ s, I s → Base s)
    (hback : ∀ s, I s → ∀ t, At t s → t.phase = .backoff → a.slot t.slotGranted) (hs : I s)
    (e : Env × Event) (he : a.Admits s e.2) : Leaps cfg a s (step cfg sha256Hex s e) := by
  have hb := hbase s hs
  obtain ⟨env, event⟩ := e
  cases event with
  | startUpload req => exact startUpload_leaps ha hb req
  | startDownload req => exact startDownload_leaps ha hb req
  | pauseTransfer dir id => exact pauseTransfer_leaps hb dir id fun t => he.pause dir id t rfl
  | resumeTransfer dir id => exact resumeTransfer_leaps ha hb dir id fun t => he.resume dir id t rfl
  | cancelTransfer dir id => exact cancelTransfer_leaps ha hb dir id
  | connectionDown => exact Leap.down.leaps
  | connectionAuthenticated => exact onConnectionAuthenticated_leaps ha hb
  | reset => exact Leap.reset.leaps
  | tick =>
    have hloop : ∀ dir {s : Engine} (l : List Int), I s →
        Leaps cfg a s (l.foldl (tick cfg env dir) s) := fun dir _ l h =>
      foldl_leaps hI (fun s id hs =>
        ((tick_acts (hbase s hs) dir id (hback s hs)).moves ha (hbase s hs)).leaps) l h
    have huploads := hloop .upload (s.uploads.map (·.messageId)) hs
    exact huploads.trans (hloop .download _ (huploads.preserve hI hs))
  | chunkUploadRsp f =>
    exact ((handleChunkUploadRsp_acts ha hb _ (he.reply _ _ rfl)).moves ha hb).leaps
  | progressRsp f => exact ((handleProgressRsp_acts ha hb _ (he.reply _ _ rfl)).moves ha hb).leaps
  | downInfoRsp f => exact ((handleDownInfoRsp_acts ha hb _ (he.reply _ _ rfl)).moves ha hb).leaps
  | chunkDownRsp f => exact ((handleChunkDownRsp_acts ha hb _ (he.reply _ _ rfl)).moves ha hb).leaps
  | instantProofRsp f =>
    exact ((handleInstantProofRsp_acts ha hb _ (he.reply _ _ rfl)).moves ha hb).leaps

/-- What every leap preserves, every run preserves. -/
theorem run_preserve (cfg : Config) (sha256Hex : List UInt8 → String) {I : Engine → Prop}
    (hI : ∀ s s', I s → Leap cfg {} s s' → I s')
    (hbase : ∀ s, I s → Base s) (hs : I s) (es : List (Env × Event)) :
    I (run cfg sha256Hex s es) := by
  induction es generalizing s with
  | nil => exact hs
  | cons e es ih =>
    have hleaps : Leaps cfg {} s (step cfg sha256Hex s e) :=
      step_leaps trivial hI hbase (fun _ _ _ _ _ => trivial) hs e (admits_any s e.2)
    exact ih (hleaps.preserve hI hs)

end LlfcChat.Transfer
