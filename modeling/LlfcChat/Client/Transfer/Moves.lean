/-
The moves of the transfer engine.

Whatever the engine does is made of a few moves: a transfer that has not ended
is changed, a frame is sent for it, a slot is granted, a queue or a file is
rewritten.  `Move` lists them with what is known each time.  A transfer keeps its
key, its slot and whether it is paused, and a frame is never sent for a paused
one.  The `Rights` say what else a result lets the engine do.
-/
import LlfcChat.Client.Transfer.Engine

namespace LlfcChat.Transfer

/-- What is allowed: to send frames and change phases with a slot or without one,
to change a transfer as replies do, to pause it and to resume it. -/
structure Rights where
  slot : Bool → Prop := fun _ => True
  reply : Runtime → Prop := fun _ => True
  pause : Runtime → Prop := fun _ => True
  resume : Runtime → Prop := fun _ => True

variable {cfg : Config} {env : Env} {a : Rights} {s : Engine} {t t' : Runtime}

/-! ### Tables -/

/-- A transfer stands in the table of its direction, under its own key. -/
structure Base (s : Engine) : Prop where
  placed : ∀ dir, ∀ t ∈ s.mapFor dir, t.direction = dir
  keys : ∀ dir, ((s.mapFor dir).map (·.messageId)).Nodup

/-- A transfer of the engine that has not ended. -/
def At (t : Runtime) (s : Engine) : Prop :=
  t ∈ s.mapFor t.direction ∧ t.phase.terminal = false

theorem mapFor_setMap_self (s : Engine) (dir : Direction) (l : List Runtime) :
    (s.setMap dir l).mapFor dir = l := by
  cases dir <;> rfl

variable {dir : Direction} {s' s'' : Engine} {x : Runtime}

theorem mapFor_setMap_ne (s : Engine) {dir' : Direction} (h : dir' ≠ dir) (l : List Runtime) :
    (s.setMap dir l).mapFor dir' = s.mapFor dir' := by
  cases dir <;> cases dir' <;> first | rfl | exact absurd rfl h

theorem setMap_setMap (s : Engine) (dir : Direction) (l l' : List Runtime) :
    (s.setMap dir l).setMap dir l' = s.setMap dir l' := by
  cases dir <;> rfl

@[simp] theorem connUp_setMap (s : Engine) (dir : Direction) (l : List Runtime) :
    (s.setMap dir l).connUp = s.connUp := by
  cases dir <;> rfl

@[simp] theorem sent_setMap (s : Engine) (dir : Direction) (l : List Runtime) :
    (s.setMap dir l).sent = s.sent := by
  cases dir <;> rfl

@[simp] theorem nextSerial_setMap (s : Engine) (dir : Direction) (l : List Runtime) :
    (s.setMap dir l).nextSerial = s.nextSerial := by
  cases dir <;> rfl

@[simp] theorem wait_setMap (s : Engine) (dir : Direction) (l : List Runtime) (dir' : Direction) :
    (s.setMap dir l).wait dir' = s.wait dir' := by
  cases dir <;> rfl

@[simp] theorem mapFor_setWait (s : Engine) (dir : Direction) (l : List Int) (dir' : Direction) :
    (s.setWait dir l).mapFor dir' = s.mapFor dir' := by
  cases dir <;> rfl

@[simp] theorem connUp_setWait (s : Engine) (dir : Direction) (l : List Int) :
    (s.setWait dir l).connUp = s.connUp := by
  cases dir <;> rfl

@[simp] theorem sent_setWait (s : Engine) (dir : Direction) (l : List Int) :
    (s.setWait dir l).sent = s.sent := by
  cases dir <;> rfl

@[simp] theorem nextSerial_setWait (s : Engine) (dir : Direction) (l : List Int) :
    (s.setWait dir l).nextSerial = s.nextSerial := by
  cases dir <;> rfl

@[simp] theorem mapFor_send (s : Engine) (kind : FrameKind) (t : Runtime) (dir : Direction) :
    (s.send kind t).mapFor dir = s.mapFor dir := by
  cases dir <;> rfl

@[simp] theorem mapFor_setFile (s : Engine) (path : String) (c : Option (List UInt8))
    (dir : Direction) : (s.setFile path c).mapFor dir = s.mapFor dir := by
  cases dir <;> rfl

/-- After `put`, a transfer is the one put, or another that is as it was. -/
theorem mem_put (hx : x ∈ (s.put t).mapFor dir) :
    x = t ∧ dir = t.direction ∨
      x ∈ s.mapFor dir ∧ (dir = t.direction → x.messageId ≠ t.messageId) := by
  unfold Engine.put at hx
  by_cases hdir : dir = t.direction
  · subst hdir
    rw [mapFor_setMap_self] at hx
    obtain ⟨y, hy, rfl⟩ := Table.mem_update.mp hx
    unfold Table.updated
    split
    · exact .inl ⟨rfl, rfl⟩
    · rename_i hne
      exact .inr ⟨hy, fun _ => hne⟩
  · rw [mapFor_setMap_ne s hdir] at hx
    exact .inr ⟨hx, fun h => absurd h hdir⟩

theorem mem_put_of_ne (hx : x ∈ s.mapFor dir) (hne : dir = t.direction → x.messageId ≠ t.messageId)
    : x ∈ (s.put t).mapFor dir := by
  unfold Engine.put
  by_cases hdir : dir = t.direction
  · subst hdir
    rw [mapFor_setMap_self]
    exact Table.mem_update.mpr ⟨x, hx, Table.updated_neg
      (p := fun x : Runtime => x.messageId = t.messageId) (hne rfl)⟩
  · rw [mapFor_setMap_ne s hdir]
    exact hx

theorem Base.put (h : Base s) (t : Runtime) : Base (s.put t) where
  placed dir x hx := by
    rcases mem_put hx with ⟨rfl, hdir⟩ | ⟨hx, -⟩
    · exact hdir.symm
    · exact h.placed dir x hx
  keys dir := by
    unfold Engine.put
    by_cases hdir : dir = t.direction
    · subst hdir
      rw [mapFor_setMap_self, Table.map_update_of (fun _ hp => hp.symm)]
      exact h.keys _
    · rw [mapFor_setMap_ne s hdir]
      exact h.keys dir

theorem Base.unique (h : Base s) {y : Runtime} (hx : x ∈ s.mapFor dir) (hy : y ∈ s.mapFor dir)
    (hid : x.messageId = y.messageId) : x = y :=
  List.inj_on_of_nodup_map (h.keys dir) hx hy hid

theorem put_put (s : Engine) (hid : t'.messageId = t.messageId)
    (hdir : t'.direction = t.direction) : (s.put t).put t' = s.put t' := by
  unfold Engine.put
  rw [hid, hdir, mapFor_setMap_self, setMap_setMap]
  congr 1
  unfold Table.update
  rw [List.map_map]
  refine List.map_congr_left fun x _ => ?_
  show (if (if _ then _ else _ : Runtime).messageId = _ then _ else _) = _
  by_cases hx : x.messageId = t.messageId
  · rw [if_pos hx, if_pos rfl, if_pos hx]
  · rw [if_neg hx, if_neg hx]

/-- A transfer that is found. -/
theorem find_at (h : Base s) {id : Int} (hfind : s.find dir id = some t) :
    t ∈ s.mapFor dir ∧ t.direction = dir ∧ t.messageId = id := by
  have hmem := List.mem_of_find?_eq_some hfind
  have hid := List.find?_some hfind
  exact ⟨hmem, h.placed dir t hmem, of_decide_eq_true hid⟩

theorem find_of_mem (hb : Base s) {x : Runtime} (hx : x ∈ s.mapFor dir) :
    s.find dir x.messageId = some x := by
  have hsome : (s.find dir x.messageId).isSome = true :=
    List.find?_isSome.mpr ⟨x, hx, decide_eq_true rfl⟩
  obtain ⟨y, hfind⟩ := Option.isSome_iff_exists.mp hsome
  obtain ⟨hy, -, hid⟩ := find_at hb hfind
  rw [hfind, hb.unique hy hx hid]

theorem findActive_at (h : Base s) {id : Int} (hfind : s.findActive dir id = some t) :
    At t s ∧ t.direction = dir ∧ t.messageId = id := by
  unfold Engine.findActive at hfind
  split at hfind
  · cases hfind
  rename_i x hx
  split at hfind
  · cases hfind
  rename_i hterminal
  cases hfind
  obtain ⟨hmem, hdir, hid⟩ := find_at h hx
  subst hdir
  exact ⟨⟨hmem, Bool.not_eq_true _ ▸ hterminal⟩, rfl, hid⟩

/-! ### Moves -/

/-- What never changes of a transfer but by a call for it. -/
def Runtime.key (t : Runtime) : Int × Direction × Nat × Bool × Bool :=
  (t.messageId, t.direction, t.serial, t.slotGranted, t.userPaused)

/-- A change that keeps it, and does not bring back the proof. -/
def Key (t t' : Runtime) : Prop :=
  t'.key = t.key ∧ (t.proofDisabled = true → t'.proofDisabled = true)

theorem Key.refl (t : Runtime) : Key t t := ⟨rfl, id⟩

theorem Key.trans (h : Key t t') (h' : Key t' x) : Key t x := ⟨h'.1.trans h.1, h'.2 ∘ h.2⟩

section

variable (h : Key t t')

include h

theorem Key.messageId : t'.messageId = t.messageId := congrArg (·.1) h.1

theorem Key.direction : t'.direction = t.direction := congrArg (·.2.1) h.1

theorem Key.serial : t'.serial = t.serial := congrArg (·.2.2.1) h.1

theorem Key.slotGranted : t'.slotGranted = t.slotGranted := congrArg (·.2.2.2.1) h.1

theorem Key.userPaused : t'.userPaused = t.userPaused := congrArg (·.2.2.2.2) h.1

end

/-- A change without a reply: no malformed one is counted, no proof is begun, and a
transfer that has nothing on its way and does not send stays so. -/
def Mild (t t' : Runtime) : Prop :=
  t'.jsonErrorCount = t.jsonErrorCount ∧ (t.proofPending = false → t'.proofPending = false) ∧
    (t.inflight = [] ∧ t.phase ≠ .active → t'.inflight = [] ∧ t'.phase ≠ .active)

theorem Mild.refl (t : Runtime) : Mild t t := ⟨rfl, id, id⟩

theorem Mild.trans (h : Mild t t') (h' : Mild t' x) : Mild t x :=
  ⟨h'.1.trans h.1, h'.2.1 ∘ h.2.1, h'.2.2 ∘ h.2.2⟩

variable (cfg a)

inductive Move : Engine → Engine → Prop
  | put {s : Engine} {t t' : Runtime} : At t s → Key t t' → a.reply t ∨ Mild t t' →
    t'.phase.terminal = false → a.slot t.slotGranted ∨ t'.phase = t.phase → Move s (s.put t')
  | finish {s : Engine} {t t' : Runtime} : At t s → Key t t' → t'.phase.terminal = true →
    Move s (s.finish t')
  | send {s : Engine} {t : Runtime} (kind : FrameKind) : At t s → t.userPaused = false →
    a.slot t.slotGranted → (kind = .instantProofReq → t.proofDisabled = false) →
    Move s (s.send kind t)
  | grant {s : Engine} {t : Runtime} : At t s → t.slotGranted = false → t.userPaused = false →
    s.activeCount t.direction < cfg.limit t.direction →
    Move s (s.put { t with slotGranted := true })
  | wait {s : Engine} (dir : Direction) (l : List Int) : Move s (s.setWait dir l)
  | awaiting {s : Engine} (b : Bool) : Move s { s with awaitingReconnect := b }
  | log {s : Engine} (l : List (Nat × List Nat)) : Move s { s with grants := l }
  | file {s : Engine} (path : String) (c : Option (List UInt8)) : Move s (s.setFile path c)

def Moves : Engine → Engine → Prop := Relation.ReflTransGen (Move cfg a)

variable {cfg a}

theorem Moves.refl (s : Engine) : Moves cfg g s s := Relation.ReflTransGen.refl

theorem Moves.trans {s : Engine} (h : Moves cfg g s s') (h' : Moves cfg g s' s'') :
    Moves cfg g s s'' :=
  Relation.ReflTransGen.trans h h'

theorem Move.moves {s : Engine} (h : Move cfg g s s') : Moves cfg g s s' :=
  Relation.ReflTransGen.single h

@[simp] theorem mapFor_finish (s : Engine) (t : Runtime) (dir : Direction) :
    (s.finish t).mapFor dir = (s.put t).mapFor dir := by
  cases dir <;> rfl

@[simp] theorem connUp_finish (s : Engine) (t : Runtime) : (s.finish t).connUp = s.connUp :=
  connUp_setMap _ _ _

@[simp] theorem nextSerial_finish (s : Engine) (t : Runtime) :
    (s.finish t).nextSerial = s.nextSerial :=
  nextSerial_setMap _ _ _

@[simp] theorem sent_finish (s : Engine) (t : Runtime) : (s.finish t).sent = s.sent :=
  sent_setMap _ _ _

theorem Base.finish {s : Engine} (h : Base s) (t : Runtime) : Base (s.finish t) where
  placed dir x hx := (h.put t).placed dir x (mapFor_finish s t dir ▸ hx)
  keys dir := (h.put t).keys dir

/-- No move changes the tables' shape or the connection. -/
theorem Base.move {s : Engine} (h : Base s) (hmove : Move cfg a s s') :
    Base s' ∧ s'.connUp = s.connUp ∧ s'.nextSerial = s.nextSerial := by
  cases hmove with
  | put _ _ _ _ _ | grant _ _ _ _ => exact ⟨h.put _, by simp [Engine.put], by simp [Engine.put]⟩
  | finish _ _ _ => exact ⟨h.finish _, by simp, by simp⟩
  | send kind | file path c =>
    exact ⟨⟨fun dir x hx => h.placed dir x (by simpa using hx),
      fun dir => by simpa using h.keys dir⟩, rfl, rfl⟩
  | wait dir l => exact ⟨⟨fun dir x hx => h.placed dir x (by simpa using hx), fun dir => by
      simpa using h.keys dir⟩, by simp, by simp⟩
  | awaiting b | log l =>
    refine ⟨⟨fun dir x hx => h.placed dir x ?_, fun dir => ?_⟩, rfl, rfl⟩
    · cases dir <;> exact hx
    · cases dir
      · exact h.keys .upload
      · exact h.keys .download

theorem Base.moves {s : Engine} (h : Base s) (hmoves : Moves cfg a s s') :
    Base s' ∧ s'.nextSerial = s.nextSerial := by
  induction hmoves with
  | refl => exact ⟨h, rfl⟩
  | tail _ hmove ih =>
    obtain ⟨hb, -, hn⟩ := ih.1.move hmove
    exact ⟨hb, hn.trans ih.2⟩

/-! ### What changes a transfer -/

theorem At.mem_put_self (h : At t s) (hid : t'.messageId = t.messageId)
    (hdir : t'.direction = t.direction) : t' ∈ (s.put t').mapFor t'.direction := by
  unfold Engine.put
  rw [mapFor_setMap_self]
  refine Table.mem_update.mpr ⟨t, ?_, Table.updated_pos
    (p := fun x : Runtime => x.messageId = t'.messageId) hid.symm⟩
  rw [hdir]
  exact h.1

theorem At.put (h : At t s) (hid : t'.messageId = t.messageId)
    (hdir : t'.direction = t.direction) (hphase : t'.phase.terminal = false) :
    At t' (s.put t') :=
  ⟨h.mem_put_self hid hdir, hphase⟩

/-- A query changes the transfer and sends a frame, or does not send it. -/
theorem beginQuery_cases (env : Env) (t : Runtime) (s : Engine) :
    ∃ u, Key t u ∧ Mild t u ∧ u.phase = .querying ∧
      (beginQuery env t s = s.put u ∨ u.userPaused = false ∧
        ∃ kind, kind ≠ .instantProofReq ∧ beginQuery env t s = (s.put u).send kind u) := by
  unfold beginQuery
  split
  · refine ⟨_, ?_, ?_, ?_, .inl rfl⟩
    exacts [⟨rfl, id⟩, ⟨rfl, fun _ => rfl, fun h => ⟨h.1, Phase.noConfusion⟩⟩, rfl]
  rename_i hguard
  rw [not_or, Bool.not_eq_true, Bool.not_eq_false] at hguard
  simp only
  split
  all_goals
    refine ⟨_, ?_, ?_, ?_, .inr ⟨?_, _, FrameKind.noConfusion, rfl⟩⟩
    exacts [⟨rfl, id⟩, ⟨rfl, fun _ => rfl, fun _ => ⟨rfl, Phase.noConfusion⟩⟩, rfl, hguard.2]

theorem beginQuery_moves (ht : At t s) (hk : Key t t') (hm : a.reply t ∨ Mild t t')
    (ha : a.slot t.slotGranted) : Moves cfg a s (beginQuery env t' s) := by
  obtain ⟨u, hu, hmild, hphase, hput | ⟨hpaused, kind, hkind, hsend⟩⟩ := beginQuery_cases env t' s
  all_goals
    have hk := hk.trans hu
    have hlive : u.phase.terminal = false := by rw [hphase]; rfl
    have hmove : Move cfg a s (s.put u) :=
      Move.put ht hk (hm.imp_right (·.trans hmild)) hlive (.inl ha)
  · rw [hput]
    exact hmove.moves
  · rw [hsend]
    refine hmove.moves.trans (Move.moves (.send kind
      (ht.put hk.messageId hk.direction hlive) hpaused ?_ fun hk => absurd hk hkind))
    rw [hk.slotGranted]
    exact ha

/-! ### The engine's functions as moves -/

/-- What the scan of the queue picks waits and can be scheduled. -/
theorem scanWait_some (hb : Base s) {l rest : List Int} {id : Int}
    (h : scanWait s dir l = (rest, some id)) :
    ∃ t, s.find dir id = some t ∧ At t s ∧ t.direction = dir ∧ t.slotGranted = false ∧
      t.userPaused = false := by
  induction l generalizing rest with
  | nil => cases h
  | cons x l ih =>
    unfold scanWait at h
    split at h
    · exact ih h
    rename_i t hfind
    split at h
    · exact ih h
    rename_i hgone
    split at h
    · cases hrest : scanWait s dir l with
      | mk r o =>
        rw [hrest] at h
        simp only [Prod.mk.injEq] at h
        rw [h.2] at hrest
        exact ih hrest
    · rename_i hpaused
      obtain ⟨-, rfl⟩ := h
      simp only [not_or, Bool.not_eq_true] at hgone hpaused
      obtain ⟨hmem, hdir, -⟩ := find_at hb hfind
      subst hdir
      exact ⟨t, hfind, ⟨hmem, hgone.1⟩, rfl, hgone.2.2, hpaused⟩

theorem At.of_maps (h : At t s) (hmap : s'.mapFor t.direction = s.mapFor t.direction) : At t s' :=
  ⟨hmap ▸ h.1, h.2⟩

theorem activeCount_of_maps (h : s'.mapFor dir = s.mapFor dir) :
    s'.activeCount dir = s.activeCount dir := by
  unfold Engine.activeCount
  rw [h]

theorem At.setWait (h : At t s) (dir : Direction) (l : List Int) : At t (s.setWait dir l) :=
  h.of_maps (mapFor_setWait ..)

@[simp] theorem activeCount_setWait (s : Engine) (dir : Direction) (l : List Int)
    (dir' : Direction) : (s.setWait dir l).activeCount dir' = s.activeCount dir' :=
  activeCount_of_maps (mapFor_setWait ..)

@[simp] theorem mapFor_logGrant (s : Engine) (dir : Direction) (t : Runtime) (dir' : Direction) :
    (s.logGrant dir t).mapFor dir' = s.mapFor dir' := by
  cases dir' <;> rfl

theorem At.logGrant (h : At t s) (dir : Direction) (x : Runtime) : At t (s.logGrant dir x) :=
  h.of_maps (mapFor_logGrant ..)

@[simp] theorem activeCount_logGrant (s : Engine) (dir : Direction) (t : Runtime)
    (dir' : Direction) : (s.logGrant dir t).activeCount dir' = s.activeCount dir' :=
  activeCount_of_maps (mapFor_logGrant ..)

@[simp] theorem connUp_put (s : Engine) (t : Runtime) : (s.put t).connUp = s.connUp :=
  connUp_setMap _ _ _

/-- What is put before a query is begun is overwritten by it. -/
theorem beginQuery_put (s : Engine) (t t' : Runtime) (hid : t.messageId = t'.messageId)
    (hdir : t.direction = t'.direction) : beginQuery env t (s.put t') = beginQuery env t s := by
  unfold beginQuery
  rw [connUp_put]
  split
  · exact put_put s hid hdir
  · simp only
    split
    · exact congrArg (Engine.send .progressReq _) (put_put s (by exact hid) (by exact hdir))
    · exact congrArg (Engine.send .downInfoReq _) (put_put s (by exact hid) (by exact hdir))

/-- A slot is granted and the query is begun. -/
theorem grant_moves (ha : a.slot true) (ht : At t s) (hslot : t.slotGranted = false)
    (hpaused : t.userPaused = false)
    (hcount : s.activeCount t.direction < cfg.limit t.direction) :
    Moves cfg a s (beginQuery env { t with slotGranted := true } s) := by
  have hgranted : At { t with slotGranted := true } (s.put { t with slotGranted := true }) :=
    ht.put rfl rfl ht.2
  rw [← beginQuery_put s _ { t with slotGranted := true } rfl rfl]
  refine (Move.grant ht hslot hpaused hcount).moves.trans ?_
  exact beginQuery_moves hgranted (.refl _) (.inr (.refl _)) ha

theorem promoteLoop_moves (ha : a.slot true) (dir : Direction) (n : Nat) (hb : Base s) :
    Moves cfg a s (promoteLoop cfg env dir n s) := by
  induction n generalizing s with
  | zero => exact Moves.refl s
  | succ n ih =>
    unfold promoteLoop
    split
    · rename_i hfree
      split
      · exact (Move.wait dir _).moves
      rename_i rest id hscan
      obtain ⟨t, hfind, ht, hdir, hslot, hpaused⟩ := scanWait_some hb hscan
      rw [hfind]
      have hmoves : Moves cfg a s (beginQuery env { t with slotGranted := true }
          ((s.setWait dir rest).logGrant dir t)) := by
        have hroom : ((s.setWait dir rest).logGrant dir t).activeCount t.direction <
            cfg.limit t.direction := by
          rw [activeCount_logGrant, activeCount_setWait, hdir]
          exact hfree.1
        exact (Move.wait dir rest).moves.trans ((Move.log _).moves.trans
          (grant_moves ha ((ht.setWait _ _).logGrant dir t) hslot hpaused hroom))
      exact hmoves.trans (ih (hb.moves hmoves).1)
    · exact Moves.refl s

theorem promoteWaiting_moves (ha : a.slot true) (dir : Direction) (hb : Base s) :
    Moves cfg a s (promoteWaiting cfg env dir s) :=
  promoteLoop_moves ha dir _ hb

/-! ### Acts

What a reply or a tick does to one transfer, with the promotion that follows its end as one act. -/

section

variable (cfg env a)

inductive Act : Engine → Engine → Prop
  | put {s : Engine} {t t' : Runtime} : At t s → Key t t' → a.reply t ∨ Mild t t' →
    t'.phase.terminal = false → a.slot t.slotGranted ∨ t'.phase = t.phase → Act s (s.put t')
  | finish {s : Engine} {t t' : Runtime} : At t s → Key t t' → t'.phase.terminal = true →
    Act s (promoteWaiting cfg env t'.direction (s.finish t'))
  | send {s : Engine} {t : Runtime} (kind : FrameKind) : At t s → t.userPaused = false →
    a.slot t.slotGranted → (kind = .instantProofReq → t.proofDisabled = false) →
    Act s (s.send kind t)
  | awaiting {s : Engine} (b : Bool) : Act s { s with awaitingReconnect := b }
  | file {s : Engine} (path : String) (c : Option (List UInt8)) : Act s (s.setFile path c)

def Acts : Engine → Engine → Prop := Relation.ReflTransGen (Act cfg env a)

end

theorem Acts.refl (s : Engine) : Acts cfg env a s s := Relation.ReflTransGen.refl

theorem Acts.trans {s : Engine} (h : Acts cfg env a s s') (h' : Acts cfg env a s' s'') :
    Acts cfg env a s s'' :=
  Relation.ReflTransGen.trans h h'

theorem Act.acts {s : Engine} (h : Act cfg env a s s') : Acts cfg env a s s' :=
  Relation.ReflTransGen.single h

theorem Act.moves (ha : a.slot true) (hb : Base s) (h : Act cfg env a s s') :
    Moves cfg a s s' := by
  cases h with
  | put ht hk hm hphase hsame => exact (Move.put ht hk hm hphase hsame).moves
  | finish ht hk hphase =>
    exact (Move.finish ht hk hphase).moves.trans (promoteWaiting_moves ha _ (hb.finish _))
  | send kind ht hpaused hat hproof => exact (Move.send kind ht hpaused hat hproof).moves
  | awaiting b => exact (Move.awaiting b).moves
  | file path c => exact (Move.file path c).moves

theorem Acts.moves (ha : a.slot true) (hb : Base s) (h : Acts cfg env a s s') :
    Moves cfg a s s' := by
  induction h with
  | refl => exact Moves.refl s
  | tail _ hact ih => exact ih.trans (hact.moves ha (hb.moves ih).1)

theorem Base.acts (ha : a.slot true) (hb : Base s) (h : Acts cfg env a s s') : Base s' :=
  (hb.moves (h.moves ha hb)).1

theorem put_send (ht : At t s) (hk : Key t t') (hm : a.reply t ∨ Mild t t')
    (hphase : t'.phase.terminal = false) (hpaused : t'.userPaused = false)
    (ha : a.slot t.slotGranted) (kind : FrameKind)
    (hproof : kind = .instantProofReq → t'.proofDisabled = false) :
    Acts cfg env a s ((s.put t').send kind t') := by
  refine (Act.put ht hk hm hphase (.inl ha)).acts.trans (Act.acts (.send kind ?_ hpaused ?_ hproof))
  · exact ht.put hk.messageId hk.direction hphase
  · rw [hk.slotGranted]
    exact ha

theorem beginQuery_acts (ht : At t s) (hk : Key t t') (hm : a.reply t ∨ Mild t t')
    (ha : a.slot t.slotGranted) : Acts cfg env a s (beginQuery env t' s) := by
  obtain ⟨u, hu, hmild, hphase, hput | ⟨hpaused, kind, hkind, hsend⟩⟩ := beginQuery_cases env t' s
  all_goals
    have hlive : u.phase.terminal = false := by rw [hphase]; rfl
    have hm := hm.imp_right (·.trans hmild)
  · rw [hput]
    exact (Act.put ht (hk.trans hu) hm hlive (.inl ha)).acts
  · rw [hsend]
    exact put_send ht (hk.trans hu) hm hlive hpaused ha kind fun hk => absurd hk hkind

theorem failTransfer_acts (ht : At t s) (hk : Key t t') (code : Int) (text : String) :
    Acts cfg env a s (failTransfer cfg env t' code text s) := by
  have hk : Key t { t'.closeFiles with
      phase := .failed, errorCode := code, errorText := text } := hk
  exact (Act.finish ht hk rfl).acts

theorem completeTransfer_acts (ht : At t s) (hk : Key t t') (eventSeq : Int) :
    Acts cfg env a s (completeTransfer cfg env t' eventSeq s) := by
  have hk : Key t { t'.closeFiles with
      phase := .completed, eventSeq := eventSeq, errorCode := 0, errorText := "" } := hk
  exact (Act.finish ht hk rfl).acts

/-- What `SendNextChunk` does to the transfer. -/
theorem sendNextChunk_acts (ht : At t s) (ha : a.slot t.slotGranted)
    (hpaused : t.userPaused = false) (hactive : t.phase = .active) :
    Acts cfg env a s (sendNextChunk cfg env t s).2 := by
  have hsend : ∀ kind, (kind = .instantProofReq → t.proofDisabled = false) →
      Acts cfg env a s ((s.put
      { t with
        inflight := t.inflight ++ [⟨t.wireBytes, nextLength t, env.now⟩]
        wireBytes := t.wireBytes + nextLength t }).send kind
      { t with
        inflight := t.inflight ++ [⟨t.wireBytes, nextLength t, env.now⟩]
        wireBytes := t.wireBytes + nextLength t }) := fun kind hkind =>
    put_send ht (by exact .refl t) (.inr (by exact ⟨rfl, id, fun h => absurd hactive h.2⟩))
      (by exact ht.2) (by exact hpaused) ha kind hkind
  unfold sendNextChunk
  split
  · exact Acts.refl s
  simp only
  split
  · split
    · exact failTransfer_acts ht (.refl t) _ _
    split
    · exact failTransfer_acts ht (.refl t) _ _
    · exact hsend _ FrameKind.noConfusion
  · exact hsend _ FrameKind.noConfusion

theorem pickBest_some {l : List Runtime} (h : pickBest cfg l = some t) :
    t ∈ l ∧ t.sendable cfg = true := by
  induction l generalizing t with
  | nil => cases h
  | cons x l ih =>
    unfold pickBest at h
    split at h
    · split at h
      · rename_i hx
        cases h
        exact ⟨List.mem_cons_self, hx⟩
      · cases h
    · rename_i b hb
      split at h
      · rename_i hx
        cases h
        exact ⟨List.mem_cons_self, hx.1⟩
      · cases h
        obtain ⟨hmem, hsend⟩ := ih hb
        exact ⟨List.mem_cons_of_mem _ hmem, hsend⟩

/-- A transfer that may send. -/
theorem sendable_at (hb : Base s) (hmem : t ∈ s.uploads ++ s.downloads)
    (hsend : t.sendable cfg = true) :
    At t s ∧ t.slotGranted = true ∧ t.userPaused = false ∧ t.phase = .active := by
  simp only [Runtime.sendable, Bool.and_eq_true, decide_eq_true_eq, Bool.not_eq_true'] at hsend
  obtain ⟨⟨⟨⟨⟨hphase, hslot⟩, -⟩, hpaused⟩, -⟩, -⟩ := hsend
  refine ⟨⟨?_, by rw [hphase]; rfl⟩, hslot, hpaused, hphase⟩
  rcases List.mem_append.mp hmem with hmem | hmem
  · rw [hb.placed .upload t hmem]
    exact hmem
  · rw [hb.placed .download t hmem]
    exact hmem

theorem pumpLoop_acts (ha : a.slot true) (n : Nat) (hb : Base s) :
    Acts cfg env a s (pumpLoop cfg env n s) := by
  induction n generalizing s with
  | zero => exact Acts.refl s
  | succ n ih =>
    unfold pumpLoop
    split
    · exact Acts.refl s
    rename_i t hbest
    obtain ⟨hmem, hsend⟩ := pickBest_some hbest
    obtain ⟨ht, hslot, hpaused, hactive⟩ := sendable_at hb hmem hsend
    have hacts : Acts cfg env a s (sendNextChunk cfg env t s).2 :=
      sendNextChunk_acts ht (hslot ▸ ha) hpaused hactive
    split
    · rename_i s' heq
      rw [heq] at hacts
      exact hacts.trans (ih (hb.acts ha hacts))
    · rename_i s' heq
      rw [heq] at hacts
      exact hacts

theorem pump_acts (ha : a.slot true) (hb : Base s) : Acts cfg env a s (pump cfg env s) := by
  unfold pump
  split
  · exact Acts.refl s
  · exact pumpLoop_acts ha _ hb

/-! ### Replies -/

theorem ensureSourceOpen_ok (h : ensureSourceOpen env t = .ok t') :
    t' = { t with source := true } := by
  unfold ensureSourceOpen at h
  split at h
  · rename_i hopen
    cases h
    rw [← hopen]
  split at h
  · cases h
  split at h
  · cases h
  split at h
  · cases h
  · cases h
    rfl

theorem At.setFile (h : At t s) (path : String) (c : Option (List UInt8)) :
    At t (s.setFile path c) := h.of_maps (mapFor_setFile ..)

theorem Base.setFile (h : Base s) (path : String) (c : Option (List UInt8)) :
    Base (s.setFile path c) where
  placed dir x hx := h.placed dir x (by simpa using hx)
  keys dir := by simpa using h.keys dir

section

variable {sha256Hex : List UInt8 → String} (ha : a.slot true) (hb : Base s) (ht : At t s)
  (hr : a.reply t) (hat : a.slot t.slotGranted) (hk : Key t t')

section

include ht hr hat hk

theorem backoff_acts : Acts cfg env a s (s.put (scheduleBackoff cfg env t')) :=
  (Act.put ht (by exact hk) (.inl hr) rfl (.inl hat)).acts

theorem badReply_acts (text : String) {retry : Runtime → Runtime} (hretry : ∀ x, Key x (retry x)) :
    Acts cfg env a s (badReply cfg env t' text retry s) := by
  unfold badReply
  simp only
  split
  · exact failTransfer_acts ht (by exact hk) _ _
  · refine (Act.put ht ?_ (.inl hr) rfl (.inl hat)).acts
    exact hk.trans (hretry { t' with jsonErrorCount := t'.jsonErrorCount + 1 })

theorem maybeResendLastChunk_acts (hphase : t'.phase.terminal = false) :
    Acts cfg env a s (maybeResendLastChunk cfg env t' s) := by
  unfold maybeResendLastChunk
  split
  · exact (Act.put ht hk (.inl hr) hphase (.inl hat)).acts
  rename_i hpaused
  split
  · exact backoff_acts ht hr hat (by exact hk)
  split
  · exact failTransfer_acts ht hk _ _
  simp only
  split
  · exact failTransfer_acts ht (by exact hk) _ _
  · exact failTransfer_acts ht (by exact hk) _ _
  · exact put_send ht (by exact hk) (.inl hr) rfl (by exact Bool.not_eq_true _ ▸ hpaused) hat _
      FrameKind.noConfusion

theorem sendInstantProof_acts (hpaused : t'.userPaused = false) (hproof : t'.proofDisabled = false)
    (nonce : String) (offset length : Int) :
    Acts cfg env a s (sendInstantProof cfg env t' nonce offset length s) := by
  unfold sendInstantProof
  simp only
  split
  · exact badReply_acts ht hr hat hk _ Key.refl
  split
  · exact failTransfer_acts ht hk _ _
  split
  · exact failTransfer_acts ht hk _ _
  · exact put_send ht (by exact hk) (.inl hr) rfl (by exact hpaused) hat _
      (by exact fun _ => hproof)

include ha hb

theorem put_pump (hphase : t'.phase.terminal = false) :
    Acts cfg env a s (pump cfg env (s.put t')) :=
  (Act.put ht hk (.inl hr) hphase (.inl hat)).acts.trans (pump_acts ha (hb.put _))

theorem handleUploadError_acts (error serverOffset : Int) :
    Acts cfg env a s (handleUploadError cfg env t' error serverOffset s) := by
  unfold handleUploadError verifySourceHashOn2117
  split
  · exact failTransfer_acts ht hk _ _
  split
  · split
    · exact failTransfer_acts ht hk _ _
    · exact failTransfer_acts ht hk _ _
    · split
      · exact failTransfer_acts ht hk _ _
      · exact backoff_acts ht hr hat (by exact hk)
  split
  · simp only
    split
    · exact backoff_acts ht hr hat (by exact hk)
    · exact put_pump ha hb ht hr hat (by exact hk) rfl
  simp only
  split
  · exact badReply_acts ht hr hat hk _ fun x => ⟨rfl, id⟩
  · exact backoff_acts ht hr hat (by exact hk)

end

section

include ht hk

theorem finishDownload_acts : Acts cfg env a s (finishDownload cfg env sha256Hex t' s) := by
  unfold finishDownload
  simp only
  split
  · exact failTransfer_acts ht hk _ _
  split
  · exact failTransfer_acts ht hk _ _
  split
  · exact failTransfer_acts ht hk _ _
  generalize sha256Hex (if t'.hashValid = true then t'.hasher
    else s.content (partPathOf t'.download.destFilePath)) = finalHash
  split
  · exact (Act.file _ _).acts.trans (failTransfer_acts (ht.setFile _ _) hk _ _)
  split
  · exact failTransfer_acts ht hk _ _
  split
  · exact (Act.file _ _).acts.trans (failTransfer_acts (ht.setFile _ _) hk _ _)
  · exact ((Act.file _ _).acts.trans (Act.file _ _).acts).trans
      (completeTransfer_acts ((ht.setFile _ _).setFile _ _) (by exact hk) _)

end

include ha hb ht hr hat hk in
theorem openDownloadPart_acts : Acts cfg env a s (openDownloadPart cfg env sha256Hex t' s) := by
  unfold openDownloadPart
  simp only
  split
  · exact failTransfer_acts ht (by exact hk) _ _
  generalize (if 0 < (if t'.totalBytes < _ then (0 : Int) else _) then _ else (0 : Int)) = resume
  split
  · exact (Act.file _ _).acts.trans (failTransfer_acts (ht.setFile _ _) (by exact hk) _ _)
  split
  · exact (Act.file _ _).acts.trans (finishDownload_acts (ht.setFile _ _) (by exact hk))
  · exact (Act.file _ _).acts.trans
      (put_pump ha (hb.setFile _ _) (ht.setFile _ _) hr hat (by exact hk) rfl)

end

/-- A reply for this message may be handled. -/
def Rights.answers (a : Rights) (s : Engine) (dir : Direction) (id : Int) : Prop :=
  ∀ t, s.findActive dir id = some t → a.reply t ∧ a.slot t.slotGranted

section

variable {sha256Hex : List UInt8 → String} (ha : a.slot true) (hb : Base s)

include ha hb

theorem handleChunkUploadRsp_acts (rsp : ChunkUploadRsp)
    (hr : a.answers s .upload rsp.messageId) :
    Acts cfg env a s (handleChunkUploadRsp cfg env rsp s) := by
  unfold handleChunkUploadRsp
  split
  · exact Acts.refl s
  rename_i t hfind
  have ht := (findActive_at hb hfind).1
  obtain ⟨hr, hat⟩ := hr t hfind
  have hk := Key.refl t
  split
  · exact Acts.refl s
  split
  · exact Act.acts (Act.put ht (by exact hk) (.inl hr) (by exact ht.2) (.inl hat))
  split
  · split
    · exact Acts.refl s
    · exact beginQuery_acts ht (by exact hk) (.inl hr) hat
  simp only
  split
  · exact badReply_acts ht hr hat (by exact hk) _ Key.refl
  split
  · exact handleUploadError_acts ha hb ht hr hat (by exact hk) _ _
  generalize (if t.ackedBytes < rsp.serverOffset then min rsp.serverOffset t.totalBytes
    else t.ackedBytes) = acked
  split
  · exact completeTransfer_acts ht (by exact hk) _
  split
  · exact maybeResendLastChunk_acts ht hr hat (by exact hk) (by exact ht.2)
  · exact put_pump ha hb ht hr hat (by exact hk) rfl

theorem handleProgressRsp_acts (rsp : ProgressRsp) (hr : a.answers s .upload rsp.messageId) :
    Acts cfg env a s (handleProgressRsp cfg env rsp s) := by
  unfold handleProgressRsp
  split
  · exact Acts.refl s
  rename_i t hfind
  have ht := (findActive_at hb hfind).1
  obtain ⟨hr, hat⟩ := hr t hfind
  have hk := Key.refl t
  split
  · exact Acts.refl s
  simp only
  split
  · exact handleUploadError_acts ha hb ht hr hat (by exact hk) _ _
  split
  · exact completeTransfer_acts ht (by exact hk) _
  split
  · exact failTransfer_acts ht (by exact hk) _ _
  split
  · exact failTransfer_acts ht (by exact hk) _ _
  split
  · exact badReply_acts ht hr hat (by exact hk) _ Key.refl
  split
  · exact Act.acts (Act.put ht (by exact hk) (.inl hr) rfl (.inl hat))
  rename_i hpaused
  split
  · exact failTransfer_acts ht (by exact hk) _ _
  rename_i hopen
  obtain rfl := ensureSourceOpen_ok hopen
  split
  · rename_i hmode
    exact sendInstantProof_acts ht hr hat (by exact hk) (by exact Bool.not_eq_true _ ▸ hpaused)
      hmode.2 _ _ _
  split
  · exact maybeResendLastChunk_acts ht hr hat (by exact hk) rfl
  · exact put_pump ha hb ht hr hat (by exact hk) rfl

theorem handleInstantProofRsp_acts (rsp : InstantProofRsp)
    (hr : a.answers s .upload rsp.messageId) :
    Acts cfg env a s (handleInstantProofRsp cfg env rsp s) := by
  unfold handleInstantProofRsp
  split
  · exact Acts.refl s
  rename_i t hfind
  have ht := (findActive_at hb hfind).1
  obtain ⟨hr, hat⟩ := hr t hfind
  have hk := Key.refl t
  split
  · exact Acts.refl s
  simp only
  split
  · exact handleUploadError_acts ha hb ht hr hat (by exact hk) _ _
  split
  · exact beginQuery_acts ht (by exact ⟨rfl, fun _ => rfl⟩) (.inl hr) hat
  split
  · exact handleUploadError_acts ha hb ht hr hat (by exact hk) _ _
  split
  · exact handleUploadError_acts ha hb ht hr hat (by exact hk) _ _
  split
  · exact handleUploadError_acts ha hb ht hr hat (by exact hk) _ _
  · exact completeTransfer_acts ht (by exact hk) _

theorem handleDownInfoRsp_acts (rsp : DownInfoRsp) (hr : a.answers s .download rsp.messageId) :
    Acts cfg env a s (handleDownInfoRsp cfg env sha256Hex rsp s) := by
  unfold handleDownInfoRsp
  split
  · exact Acts.refl s
  rename_i t hfind
  have ht := (findActive_at hb hfind).1
  obtain ⟨hr, hat⟩ := hr t hfind
  have hk := Key.refl t
  simp only
  split
  · generalize (if rsp.ok = true then rsp.error else 2001) = error
    split
    · exact failTransfer_acts ht (by exact hk) _ _
    split
    · exact badReply_acts ht hr hat (by exact hk) _ Key.refl
    · exact backoff_acts ht hr hat (by exact hk)
  split
  · exact failTransfer_acts ht (by exact hk) _ _
  · exact openDownloadPart_acts ha hb ht hr hat (by exact hk)

theorem handleChunkDownRsp_acts (rsp : ChunkDownRsp) (hr : a.answers s .download rsp.messageId) :
    Acts cfg env a s (handleChunkDownRsp cfg env sha256Hex rsp s) := by
  unfold handleChunkDownRsp
  split
  · exact Acts.refl s
  rename_i t hfind
  have ht := (findActive_at hb hfind).1
  obtain ⟨hr, hat⟩ := hr t hfind
  have hk := Key.refl t
  split
  · exact Acts.refl s
  split
  · exact Act.acts (Act.put ht (by exact hk) (.inl hr) (by exact ht.2) (.inl hat))
  simp only
  split
  · generalize (if rsp.ok = true then rsp.error else 2001) = error
    split
    · exact failTransfer_acts ht hk _ _
    split
    · exact Act.acts (Act.put ht (by exact hk) (.inl hr) rfl (.inl hat))
    split
    · exact badReply_acts ht hr hat hk _ Key.refl
    · exact backoff_acts ht hr hat hk
  split
  · split
    · exact Acts.refl s
    · exact backoff_acts ht hr hat hk
  split
  · exact backoff_acts ht hr hat hk
  split
  · split
    · exact failTransfer_acts ht (by exact hk) _ _
    · exact put_pump ha hb ht hr hat (by exact hk) (by exact ht.2)
  split
  · exact failTransfer_acts ht (by exact hk) _ _
  generalize s.content (partPathOf t.download.destFilePath) = content
  split
  · exact (Act.file _ _).acts.trans (failTransfer_acts (ht.setFile _ _) (by exact hk) _ _)
  -- the hash goes on or is given up
  split
  all_goals
    split
    · exact (Act.file _ _).acts.trans (finishDownload_acts (ht.setFile _ _) (by exact hk))
    · exact (Act.file _ _).acts.trans
        (put_pump ha (hb.setFile _ _) (ht.setFile _ _) hr hat (by exact hk) (by exact ht.2))

end

end LlfcChat.Transfer
