/-
Who is given a slot.

Every transfer that waits is in the queue of its direction, and after each call
the slots are in use or all that wait are paused: a slot that comes free is given
on at once.  The queue holds ids.  A transfer that is cancelled while it waits
leaves its id there, and if the message is started again and has to wait, its
place is the old one, before transfers that were registered earlier.  Where no
message is queued whose id is still in the queue, the queue is in the order of
registration, and the slots are given in that order.
-/
import LlfcChat.Client.Transfer.Final

namespace LlfcChat.Transfer

variable {cfg : Config} {env : Env} {sha256Hex : List UInt8 → String} {s : Engine} {t t' : Runtime}
variable {P : Prop}

/-! ### The queue -/

/-- Two places of the queue are in the order of registration. -/
def Engine.Before (s : Engine) (dir : Direction) (a b : Int) : Prop :=
  ∀ x ∈ s.mapFor dir, ∀ y ∈ s.mapFor dir, x.messageId = a → y.messageId = b →
    x.waiting = true → y.waiting = true → x.serial < y.serial

/-- All that wait are queued; in order, and served in order, for runs that keep to `P`. -/
structure Queued (P : Prop) (s : Engine) : Prop where
  serials : Serials s
  queued : ∀ dir, ∀ x ∈ s.mapFor dir, x.waiting = true → x.messageId ∈ s.wait dir
  order : P → ∀ dir, (s.wait dir).Pairwise (s.Before dir)
  grants : P → ∀ grant ∈ s.grants, ∀ n ∈ grant.2, grant.1 ≤ n

/-- No slot is free, or all that wait are paused. -/
def Full (cfg : Config) (dir : Direction) (s : Engine) : Prop :=
  (∀ x ∈ s.mapFor dir, x.waiting = true → x.userPaused = true) ∨ cfg.limit dir ≤ s.activeCount dir

/-- What waits afterwards has waited before. -/
def Sparser (s s' : Engine) : Prop :=
  ∀ dir, ∀ x' ∈ s'.mapFor dir, x'.waiting = true →
    ∃ x ∈ s.mapFor dir, x.waiting = true ∧ x.messageId = x'.messageId ∧ x.serial = x'.serial

/-- The same, with nobody resumed. -/
def Calmer (s s' : Engine) : Prop :=
  ∀ dir, ∀ x' ∈ s'.mapFor dir, x'.waiting = true →
    ∃ x ∈ s.mapFor dir, x.waiting = true ∧ x.messageId = x'.messageId ∧ x.serial = x'.serial ∧
      (x.userPaused = true → x'.userPaused = true)

variable {a : Rights} {dir : Direction} {s' : Engine}

theorem Calmer.sparser (h : Calmer s s') : Sparser s s' := fun dir x' hx' hw => by
  obtain ⟨x, hx, hxw, hid, hserial, -⟩ := h dir x' hx' hw
  exact ⟨x, hx, hxw, hid, hserial⟩

theorem Sparser.before (h : Sparser s s') {a b : Int} (hab : s.Before dir a b) :
    s'.Before dir a b := by
  intro x' hx' y' hy' ha hb hwx hwy
  obtain ⟨x, hx, hxw, hxid, hxs⟩ := h dir x' hx' hwx
  obtain ⟨y, hy, hyw, hyid, hys⟩ := h dir y' hy' hwy
  rw [← hxs, ← hys]
  exact hab x hx y hy (hxid.trans ha) (hyid.trans hb) hxw hyw

theorem Queued.sparser (h : Queued P s) (hs : Serials s') (hsparse : Sparser s s')
    (hwait : ∀ dir, s'.wait dir = s.wait dir) (hgrants : s'.grants = s.grants) : Queued P s' where
  serials := hs
  queued dir x' hx' hw := by
    obtain ⟨x, hx, hxw, hid, -⟩ := hsparse dir x' hx' hw
    rw [hwait, ← hid]
    exact h.queued dir x hx hxw
  order hP dir := by
    rw [hwait]
    exact (h.order hP dir).imp hsparse.before
  grants hP := by
    rw [hgrants]
    exact h.grants hP

theorem Full.calmer (h : Full cfg dir s) (hcalm : Calmer s s')
    (hcount : s.activeCount dir ≤ s'.activeCount dir) : Full cfg dir s' := by
  refine h.imp (fun hpaused x' hx' hw => ?_) fun hlimit => Nat.le_trans hlimit hcount
  obtain ⟨x, hx, hxw, -, -, hp⟩ := hcalm dir x' hx' hw
  exact hp (hpaused x hx hxw)

/-- A transfer that is changed waits as before or no longer. -/
theorem calmer_put (ht : At t s) (hid : t'.messageId = t.messageId)
    (hdir : t'.direction = t.direction) (hserial : t'.serial = t.serial)
    (hwait : t'.waiting = true → t.waiting = true ∧ (t.userPaused = true → t'.userPaused = true)) :
    Calmer s (s.put t') := by
  intro dir x' hx' hw
  rcases mem_put hx' with ⟨rfl, rfl⟩ | ⟨hmem, -⟩
  · obtain ⟨hwaiting, hpaused⟩ := hwait hw
    refine ⟨t, ?_, hwaiting, hid.symm, hserial.symm, hpaused⟩
    rw [hdir]
    exact ht.1
  · exact ⟨x', hmem, hw, rfl, rfl, id⟩

/-- A transfer that keeps its slot and goes on is counted as before. -/
theorem activeCount_le_put (hb : Base s) (ht : At t s) (hid : t'.messageId = t.messageId)
    (hdir : t'.direction = t.direction) (hslot : t.slotGranted = true → t'.slotGranted = true)
    (hphase : t'.phase.terminal = false) (dir : Direction) :
    s.activeCount dir ≤ (s.put t').activeCount dir := by
  unfold Engine.activeCount Engine.put
  by_cases hself : dir = t'.direction
  · subst hself
    rw [mapFor_setMap_self]
    refine Table.le_countP_update_of_mem fun x hx hkey hq => ?_
    have hmem : t ∈ s.mapFor t'.direction := by
      rw [hdir]
      exact ht.1
    rw [hb.unique hx hmem (hkey.trans hid), Bool.and_eq_true] at hq
    rw [hphase, Bool.not_false, Bool.and_true]
    exact hslot hq.1
  · exact Nat.le_of_eq (by rw [mapFor_setMap_ne s hself])

/-! ### The scan of the queue -/

/-- A transfer that a slot could be given to. -/
def Eligible (s : Engine) (dir : Direction) (id : Int) : Prop :=
  ∃ x ∈ s.mapFor dir, x.messageId = id ∧ x.waiting = true ∧ x.userPaused = false

/-- What a scan of `l` leaves of the queue, and what it takes. -/
structure Scans (s : Engine) (dir : Direction) (l : List Int) (r : List Int × Option Int) :
    Prop where
  sub : r.1.Sublist l
  keep : ∀ x ∈ s.mapFor dir, x.waiting = true → x.messageId ∈ l → r.2 ≠ some x.messageId →
    x.messageId ∈ r.1
  none : r.2 = none → ∀ id ∈ l, ¬Eligible s dir id
  some : ∀ id, r.2 = some id → r.1.length < l.length ∧
    ∃ before after, l = before ++ id :: after ∧ ∀ a ∈ before, ¬Eligible s dir a

/-- An id that is passed over is dropped, or stays in front. -/
theorem Scans.pass {l left : List Int} {r : List Int × Option Int} {a : Int}
    (h : Scans s dir l r) (ha : ¬Eligible s dir a) (hsub : left.Sublist (a :: l))
    (hlen : left.length ≤ r.1.length + 1) (hrest : r.1.Sublist left)
    (hself : ∀ x ∈ s.mapFor dir, x.messageId = a → x.waiting = true → a ∈ left) :
    Scans s dir (a :: l) (left, r.2) where
  sub := hsub
  keep x hx hw hmem hne := by
    rcases List.mem_cons.mp hmem with hid | hmem
    · exact hid ▸ hself x hx hid hw
    · exact hrest.subset (h.keep x hx hw hmem hne)
  none ho id hid := by
    rcases List.mem_cons.mp hid with rfl | hid
    · exact ha
    · exact h.none ho id hid
  some id ho := by
    obtain ⟨hlt, before, after, rfl, hbefore⟩ := h.some id ho
    refine ⟨Nat.lt_of_le_of_lt hlen (Nat.succ_lt_succ hlt), a :: before, after, rfl, fun b hb => ?_⟩
    rcases List.mem_cons.mp hb with rfl | hb
    · exact ha
    · exact hbefore b hb

theorem scanWait_spec (hb : Base s) (dir : Direction) (l : List Int) :
    Scans s dir l (scanWait s dir l) := by
  induction l with
  | nil => exact ⟨List.Sublist.refl _, fun _ _ _ h => absurd h List.not_mem_nil,
      fun _ _ h => absurd h List.not_mem_nil, fun _ h => nomatch h⟩
  | cons a l ih =>
    -- an id that is dropped is not that of a waiting transfer
    have hdrop : (∀ x ∈ s.mapFor dir, x.messageId = a → x.waiting = false) →
        Scans s dir (a :: l) (scanWait s dir l) := fun hgone =>
      have hnot : ∀ x ∈ s.mapFor dir, x.messageId = a → x.waiting ≠ true := fun x hx hid =>
        Bool.eq_false_iff.mp (hgone x hx hid)
      ih.pass (fun ⟨x, hx, hid, hw, _⟩ => hnot x hx hid hw) (ih.sub.cons a) (Nat.le_succ _)
        (List.Sublist.refl _) fun x hx hid hw => absurd hw (hnot x hx hid)
    unfold scanWait
    split
    · rename_i hfind
      refine hdrop fun x hx hid => ?_
      rw [← hid, find_of_mem hb hx] at hfind
      cases hfind
    rename_i t hfind
    obtain ⟨htmem, htdir, htid⟩ := find_at hb hfind
    have hself : ∀ x ∈ s.mapFor dir, x.messageId = a → x = t := fun x hx hid =>
      hb.unique hx htmem (hid.trans htid.symm)
    split
    · rename_i hgone
      refine hdrop fun x hx hid => ?_
      rw [hself x hx hid, Runtime.waiting]
      rcases hgone with hc | hc | hc
      · rw [hc]
        rfl
      · exact absurd htdir hc
      · rw [hc]
        exact Bool.and_false _
    split
    · rename_i hpaused
      refine ih.pass ?_ (ih.sub.cons_cons a) (Nat.le_refl _) (List.sublist_cons_self ..)
        fun _ _ _ _ => List.mem_cons_self
      rintro ⟨x, hx, hid, -, hp⟩
      rw [hself x hx hid, hpaused] at hp
      cases hp
    · refine ⟨List.sublist_cons_self a l, fun x hx hw hmem hne => ?_, fun ho => (nomatch ho),
        fun id ho => ⟨Nat.lt_succ_self _, [], l, ?_, fun b hb => absurd hb List.not_mem_nil⟩⟩
      · rcases List.mem_cons.mp hmem with hid | hmem
        · exact absurd (congrArg some hid.symm) hne
        · exact hmem
      · cases ho
        rfl

/-! ### Promotion -/

/-- A call is a leap or several, and so leaves the numbers in order. -/
theorem Serials.leaps (cfg : Config) (h : Serials s)
    (hleaps : Leaps cfg {} s s') : Serials s' :=
  hleaps.preserve (fun _ _ h hleap => h.leap hleap) h

theorem Serials.moves (h : Serials s) (hmoves : Moves cfg {} s s') : Serials s' :=
  h.leaps cfg hmoves.leaps

theorem wait_put (s : Engine) (t : Runtime) (dir : Direction) : (s.put t).wait dir = s.wait dir :=
  wait_setMap _ _ _ _

theorem grants_put (s : Engine) (t : Runtime) : (s.put t).grants = s.grants := by
  unfold Engine.put
  cases t.direction <;> rfl

/-- A query leaves the tables but for its transfer, the queues and the grants. -/
theorem beginQuery_frame (env : Env) (t' : Runtime) (s : Engine) :
    ∃ u, Key t' u ∧ u.phase = .querying ∧
      (∀ dir, (beginQuery env t' s).mapFor dir = (s.put u).mapFor dir) ∧
      (∀ dir, (beginQuery env t' s).wait dir = s.wait dir) ∧
      (beginQuery env t' s).grants = s.grants := by
  obtain ⟨u, hu, -, hquery, hput | ⟨-, kind, -, hsend⟩⟩ := beginQuery_cases env t' s
  · rw [hput]
    exact ⟨u, hu, hquery, fun _ => rfl, wait_put s u, grants_put s u⟩
  · rw [hsend]
    refine ⟨u, hu, hquery, fun dir => mapFor_send _ _ _ dir, fun dir => ?_, grants_put s u⟩
    have hsame : ((s.put u).send kind u).wait dir = (s.put u).wait dir := by cases dir <;> rfl
    rw [hsame, wait_put]

@[simp] theorem wait_setWait_self (s : Engine) (dir : Direction) (l : List Int) :
    (s.setWait dir l).wait dir = l := by
  cases dir <;> rfl

theorem wait_setWait_ne (s : Engine) {dir' : Direction} (h : dir' ≠ dir) (l : List Int) :
    (s.setWait dir l).wait dir' = s.wait dir' := by
  cases dir <;> cases dir' <;> first | rfl | exact absurd rfl h

/-- The queue without what no longer waits. -/
theorem Queued.setWait (h : Queued P s) {l : List Int} (hs : Serials (s.setWait dir l))
    (hsub : l.Sublist (s.wait dir))
    (hkeep : ∀ x ∈ s.mapFor dir, x.waiting = true → x.messageId ∈ l) :
    Queued P (s.setWait dir l) where
  serials := hs
  queued dir' x hx hw := by
    rw [mapFor_setWait] at hx
    by_cases hdir : dir' = dir
    · subst hdir
      rw [wait_setWait_self]
      exact hkeep x hx hw
    · rw [wait_setWait_ne s hdir]
      exact h.queued dir' x hx hw
  order hP dir' := by
    have hbefore : (s.setWait dir l).Before dir' = s.Before dir' := by
      unfold Engine.Before
      rw [mapFor_setWait]
    rw [hbefore]
    by_cases hdir : dir' = dir
    · subst hdir
      rw [wait_setWait_self]
      exact (h.order hP dir').sublist hsub
    · rw [wait_setWait_ne s hdir]
      exact h.order hP dir'
  grants hP grant hgrant := h.grants hP grant (by cases dir <;> exact hgrant)

/-- The slot is given to `t`. -/
abbrev Engine.grant (env : Env) (dir : Direction) (rest : List Int) (t : Runtime) (s : Engine) :
    Engine :=
  beginQuery env { t with slotGranted := true } ((s.setWait dir rest).logGrant dir t)

/-- One round of the promotion. -/
theorem Queued.grant (h : Queued P s) {id : Int} {rest : List Int}
    (hscan : scanWait s dir (s.wait dir) = (rest, some id)) (hfind : s.find dir id = some t)
    (ht : At t s) (hdir : t.direction = dir)
    (hs : Serials (s.grant env dir rest t)) :
    Queued P (s.grant env dir rest t) ∧ Calmer s (s.grant env dir rest t) := by
  have hb := h.serials.base
  have htid : t.messageId = id := (find_at hb hfind).2.2
  obtain ⟨hsub, hkeep, -, hfirst⟩ := scanWait_spec hb dir (s.wait dir)
  rw [hscan] at hsub hkeep hfirst
  obtain ⟨-, before, after, hsplit, hbefore⟩ := hfirst id rfl
  obtain ⟨u, hu, hquery, hmaps, hwait, hgrants⟩ := beginQuery_frame env
    { t with slotGranted := true } ((s.setWait dir rest).logGrant dir t)
  -- the transfer waits no longer, the others are as they were
  have hother : ∀ dir', ∀ x ∈ (s.grant env dir rest t).mapFor dir', x.waiting = true →
      x ∈ s.mapFor dir' ∧ (dir' = dir → x.messageId ≠ id) := by
    intro dir' x hx hw
    rw [hmaps] at hx
    rcases mem_put hx with ⟨rfl, -⟩ | ⟨hmem, hne⟩
    · rw [Runtime.waiting, hu.slotGranted] at hw
      simp at hw
    · rw [mapFor_logGrant, mapFor_setWait] at hmem
      refine ⟨hmem, fun hd => ?_⟩
      rw [← htid]
      have hid := hne (hd.trans (hdir.symm.trans hu.direction.symm))
      rwa [hu.messageId] at hid
  have hcalm : Calmer s (s.grant env dir rest t) := fun dir' x hx hw =>
    ⟨x, (hother dir' x hx hw).1, hw, rfl, rfl, fun hp => hp⟩
  have hwaits : ∀ dir', (s.grant env dir rest t).wait dir' = (s.setWait dir rest).wait dir' :=
    fun dir' => (hwait dir').trans (by cases dir' <;> rfl)
  refine ⟨⟨hs, fun dir' x hx hw => ?_, fun hP dir' => ?_, fun hP grant hgrant => ?_⟩, hcalm⟩
  · obtain ⟨hmem, hne⟩ := hother dir' x hx hw
    rw [hwaits]
    by_cases hd : dir' = dir
    · subst hd
      rw [wait_setWait_self]
      refine hkeep x hmem hw (h.queued dir' x hmem hw) fun hc => ?_
      exact hne rfl (Option.some.inj hc).symm
    · rw [wait_setWait_ne s hd]
      exact h.queued dir' x hmem hw
  · rw [hwaits]
    by_cases hd : dir' = dir
    · subst hd
      rw [wait_setWait_self]
      exact ((h.order hP dir').sublist hsub).imp hcalm.sparser.before
    · rw [wait_setWait_ne s hd]
      exact (h.order hP dir').imp hcalm.sparser.before
  · rw [hgrants] at hgrant
    have hlog : ((s.setWait dir rest).logGrant dir t).grants =
        s.grants ++ [(t.serial, (s.eligible dir).map (·.serial))] := by
      unfold Engine.logGrant Engine.eligible
      cases dir <;> rfl
    rw [hlog] at hgrant
    rcases List.mem_append.mp hgrant with hold | hnew
    · exact h.grants hP grant hold
    rw [List.mem_singleton.mp hnew]
    intro n hn
    -- whoever else could have had the slot stands behind in the queue
    obtain ⟨y, hy, rfl⟩ := List.mem_map.mp hn
    obtain ⟨hymem, hyok⟩ := List.mem_filter.mp hy
    rw [Bool.and_eq_true, Bool.not_eq_true'] at hyok
    have hyqueued := h.queued dir y hymem hyok.1
    have horder := h.order hP dir
    rw [hsplit] at hyqueued horder
    rcases List.mem_append.mp hyqueued with hin | hin
    · exact absurd ⟨y, hymem, rfl, hyok.1, hyok.2⟩ (hbefore _ hin)
    have htmem : t ∈ s.mapFor dir := hdir ▸ ht.1
    rcases List.mem_cons.mp hin with heq | hin
    · exact Nat.le_of_eq (by rw [hb.unique hymem htmem (heq.trans htid.symm)])
    · have htw : t.waiting = true := by
        obtain ⟨t₀, hfind₀, ht₀, -, hslot₀, -⟩ := scanWait_some hb hscan
        rw [hfind] at hfind₀
        cases hfind₀
        rw [Runtime.waiting, ht.2, hslot₀]
        rfl
      have hpair := (List.pairwise_append.mp horder).2.1
      exact Nat.le_of_lt ((List.pairwise_cons.mp hpair).1 y.messageId hin t htmem y hymem htid rfl
        htw hyok.1)

theorem Calmer.trans {s'' : Engine} (h : Calmer s s') (h' : Calmer s' s'') : Calmer s s'' := by
  intro dir x'' hx'' hw''
  obtain ⟨x', hx', hw', hid', hserial', hp'⟩ := h' dir x'' hx'' hw''
  obtain ⟨x, hx, hw, hid, hserial, hp⟩ := h dir x' hx' hw'
  exact ⟨x, hx, hw, hid.trans hid', hserial.trans hserial', fun hpaused => hp' (hp hpaused)⟩

/-- Nobody waits who did not wait before, and no slot is lost. -/
structure Easier (s s' : Engine) : Prop where
  calmer : Calmer s s'
  count : ∀ dir, s.activeCount dir ≤ s'.activeCount dir

theorem Easier.refl (s : Engine) : Easier s s :=
  ⟨fun _ x hx hw => ⟨x, hx, hw, rfl, rfl, id⟩, fun _ => Nat.le_refl _⟩

theorem Easier.trans {s'' : Engine} (h : Easier s s') (h' : Easier s' s'') : Easier s s'' :=
  ⟨h.calmer.trans h'.calmer, fun dir => Nat.le_trans (h.count dir) (h'.count dir)⟩

theorem Queued.full (h : Queued P s) (hnil : s.wait dir = []) : Full cfg dir s :=
  .inl fun x hx hw => absurd (h.queued dir x hx hw) (hnil ▸ List.not_mem_nil)

/-- The loop ends with the slots in use or only paused transfers waiting. -/
theorem promoteLoop_queued (dir : Direction) (n : Nat) (h : Queued P s)
    (hn : (s.wait dir).length ≤ n) :
    Queued P (promoteLoop cfg env dir n s) ∧ Full cfg dir (promoteLoop cfg env dir n s) ∧
      Easier s (promoteLoop cfg env dir n s) := by
  induction n generalizing s with
  | zero => exact ⟨h, h.full (List.length_eq_zero_iff.mp (Nat.le_zero.mp hn)), Easier.refl s⟩
  | succ n ih =>
    have hb := h.serials.base
    unfold promoteLoop
    split
    · rename_i hfree
      obtain ⟨hsub, hkeep, hnone, hsome⟩ := scanWait_spec hb dir (s.wait dir)
      split
      · -- only paused transfers wait
        rename_i rest hscan
        rw [hscan] at hsub hkeep hnone
        have hall : ∀ x ∈ s.mapFor dir, x.waiting = true → x.messageId ∈ rest := fun x hx hw =>
          hkeep x hx hw (h.queued dir x hx hw) fun hc => (nomatch hc)
        have hmove : Moves cfg {} s (s.setWait dir rest) := (Move.wait dir rest).moves
        refine ⟨h.setWait (h.serials.moves hmove) hsub hall, .inl fun x hx hw => ?_, ?_⟩
        · rw [mapFor_setWait] at hx
          by_contra hp
          exact hnone rfl _ (h.queued dir x hx hw) ⟨x, hx, rfl, hw, Bool.not_eq_true _ ▸ hp⟩
        · refine ⟨fun dir' x hx hw => ⟨x, ?_, hw, rfl, rfl, fun hp => hp⟩, fun dir' => ?_⟩
          · rwa [mapFor_setWait] at hx
          · exact Nat.le_of_eq (activeCount_setWait ..).symm
      · rename_i rest id hscan
        obtain ⟨t, hfind, ht, hdir, hslot, hpaused⟩ := scanWait_some hb hscan
        rw [hfind]
        have hroom : ((s.setWait dir rest).logGrant dir t).activeCount t.direction <
            cfg.limit t.direction := by
          rw [activeCount_logGrant, activeCount_setWait, hdir]
          exact hfree.1
        have hmoves : Moves cfg {} s (s.grant env dir rest t) :=
          (Move.wait dir rest).moves.trans ((Move.log _).moves.trans
            (grant_moves trivial ((ht.setWait _ _).logGrant dir t) hslot hpaused hroom))
        obtain ⟨hqueued, hcalm⟩ := h.grant hscan hfind ht hdir (h.serials.moves hmoves)
        obtain ⟨u, hu, hquery, hmaps, hwait, -⟩ := beginQuery_frame env
          { t with slotGranted := true } ((s.setWait dir rest).logGrant dir t)
        have heasier : Easier s (s.grant env dir rest t) := by
          refine ⟨hcalm, fun dir' => ?_⟩
          have hbase : Base ((s.setWait dir rest).logGrant dir t) :=
            (hb.moves ((Move.wait dir rest).moves.trans (Move.log _).moves :
              Moves cfg {} s ((s.setWait dir rest).logGrant dir t))).1
          have hle := activeCount_le_put hbase ((ht.setWait dir rest).logGrant dir t) hu.messageId
            hu.direction (fun _ => hu.slotGranted) (by rw [hquery]; rfl) dir'
          rw [activeCount_of_maps (hmaps dir')]
          rwa [activeCount_logGrant, activeCount_setWait] at hle
        have hlen : ((s.grant env dir rest t).wait dir).length ≤ n := by
          have hshorter := (hsome id (by rw [hscan])).1
          rw [hscan] at hshorter
          have hrest : ((s.setWait dir rest).logGrant dir t).wait dir = rest := by
            cases dir <;> rfl
          rw [hwait, hrest]
          exact Nat.le_of_lt_succ (Nat.lt_of_lt_of_le hshorter hn)
        obtain ⟨hq, hfull, he⟩ := ih hqueued hlen
        exact ⟨hq, hfull, heasier.trans he⟩
    · rename_i hbusy
      refine ⟨h, ?_, Easier.refl s⟩
      rw [not_and_or, Nat.not_lt, not_not] at hbusy
      exact hbusy.elim .inr h.full

theorem promoteWaiting_queued (dir : Direction) (h : Queued P s) :
    Queued P (promoteWaiting cfg env dir s) ∧ Full cfg dir (promoteWaiting cfg env dir s) ∧
      Easier s (promoteWaiting cfg env dir s) :=
  promoteLoop_queued dir _ h (Nat.le_refl _)

/-! ### The invariant -/

structure Fair (cfg : Config) (P : Prop) (s : Engine) : Prop extends Queued P s where
  full : ∀ dir, Full cfg dir s

/-- Where all slots of one direction may have become free, a promotion makes up for it. -/
theorem Fair.promote (h : Fair cfg P s) (dir : Direction) (hq : Queued P s')
    (hcalm : ∀ dir', dir' ≠ dir → s'.mapFor dir' = s.mapFor dir') :
    Fair cfg P (promoteWaiting cfg env dir s') := by
  obtain ⟨hqueued, hfull, heasier⟩ : Queued P (promoteWaiting cfg env dir s') ∧
      Full cfg dir (promoteWaiting cfg env dir s') ∧ Easier s' (promoteWaiting cfg env dir s') :=
    promoteWaiting_queued dir hq
  refine { hqueued with full := fun dir' => ?_ }
  by_cases hdir : dir' = dir
  · subst hdir
    exact hfull
  · have hsame : Full cfg dir' s' := by
      unfold Full
      rw [activeCount_of_maps (hcalm dir' hdir), hcalm dir' hdir]
      exact h.full dir'
    exact hsame.calmer heasier.calmer (heasier.count dir')

theorem Fair.easier (h : Fair cfg P s) (hs : Serials s') (heasier : Easier s s')
    (hwait : ∀ dir, s'.wait dir = s.wait dir) (hgrants : s'.grants = s.grants) : Fair cfg P s' :=
  { h.toQueued.sparser hs heasier.calmer.sparser hwait hgrants with
    full := fun dir => (h.full dir).calmer heasier.calmer (heasier.count dir) }

theorem easier_of_maps (h : ∀ dir, s'.mapFor dir = s.mapFor dir) : Easier s s' :=
  ⟨fun dir x hx hw => ⟨x, h dir ▸ hx, hw, rfl, rfl, id⟩, fun dir =>
    Nat.le_of_eq (activeCount_of_maps (h dir)).symm⟩

theorem Key.waiting (hk : Key t t') (hlive : t.phase.terminal = false)
    (hphase : t'.phase.terminal = false) : t'.waiting = t.waiting := by
  unfold Runtime.waiting
  rw [hk.slotGranted, hlive, hphase]

theorem easier_put (hb : Base s) (ht : At t s) (hid : t'.messageId = t.messageId)
    (hdir : t'.direction = t.direction) (hserial : t'.serial = t.serial)
    (hslot : t.slotGranted = true → t'.slotGranted = true) (hphase : t'.phase.terminal = false)
    (hwait : t'.waiting = true → t.waiting = true ∧ (t.userPaused = true → t'.userPaused = true)) :
    Easier s (s.put t') :=
  ⟨calmer_put ht hid hdir hserial hwait, activeCount_le_put hb ht hid hdir hslot hphase⟩

theorem Key.easier (hk : Key t t') (hb : Base s) (ht : At t s)
    (hphase : t'.phase.terminal = false) : Easier s (s.put t') := by
  refine easier_put hb ht hk.messageId hk.direction hk.serial (fun hs => hk.slotGranted.trans hs)
    hphase fun hw => ?_
  rw [hk.waiting ht.2 hphase] at hw
  exact ⟨hw, fun hp => hk.userPaused.trans hp⟩

theorem mapFor_put_ne (s : Engine) (t : Runtime) (h : dir ≠ t.direction) :
    (s.put t).mapFor dir = s.mapFor dir :=
  mapFor_setMap_ne s h _

/-- A transfer ends and its slot is given on. -/
theorem Fair.finish (h : Fair cfg P s) (hs : Serials (s.finish t')) (ht : At t s) (hk : Key t t')
    (hphase : t'.phase.terminal = true) :
    Fair cfg P (promoteWaiting cfg env t'.direction (s.finish t')) := by
  have hcalm : Calmer s (s.finish t') := fun dir x hx hw => by
    refine calmer_put ht hk.messageId hk.direction hk.serial (fun hw => ?_) dir x hx hw
    rw [Runtime.waiting, hphase] at hw
    cases hw
  refine h.promote t'.direction (h.toQueued.sparser hs hcalm.sparser (fun dir => ?_) ?_)
    fun dir hdir => ?_
  · have hsame : (s.finish t').wait dir = (s.put t').wait dir := by cases dir <;> rfl
    rw [hsame, wait_put]
  · exact grants_put s t'
  · rw [mapFor_finish, mapFor_put_ne s t' hdir]

theorem Fair.act (h : Fair cfg P s) (hact : Act cfg env {} s s') : Fair cfg P s' := by
  have hb := h.serials.base
  have hserials : ∀ {s' : Engine}, Moves cfg {} s s' → Serials s' := h.serials.moves
  have hs := hserials (hact.moves trivial hb)
  cases hact with
  | put ht hk _ hphase _ =>
    exact h.easier hs (hk.easier hb ht hphase) (wait_put s _) (grants_put s _)
  | finish ht hk hphase => exact h.finish (hserials (Move.finish ht hk hphase).moves) ht hk hphase
  | send kind _ _ _ _ =>
    exact h.easier hs (easier_of_maps fun dir => mapFor_send _ _ _ dir)
      (fun dir => by cases dir <;> rfl) rfl
  | awaiting b =>
    exact h.easier hs (easier_of_maps fun dir => by cases dir <;> rfl)
      (fun dir => by cases dir <;> rfl) rfl
  | file path c =>
    exact h.easier hs (easier_of_maps fun dir => mapFor_setFile _ _ _ dir)
      (fun dir => by cases dir <;> rfl) rfl

theorem Fair.acts (h : Fair cfg P s) (hacts : Acts cfg env {} s s') : Fair cfg P s' := by
  induction hacts with
  | refl => exact h
  | tail _ hact ih => exact ih.act hact

/-! ### The calls -/

/-- Without the record of a transfer that has ended, the count is the same. -/
theorem countP_filter_ended (hb : Base s) {id : Int} (hnone : s.findActive dir id = none) :
    ((s.mapFor dir).filter fun x => x.messageId ≠ id).countP
      (fun t => t.slotGranted && !t.phase.terminal) = s.activeCount dir := by
  rw [List.countP_filter]
  refine List.countP_congr fun x hx => ?_
  rw [Bool.and_eq_true, decide_eq_true_eq]
  refine ⟨fun h => h.1, fun hactive => ⟨hactive, fun hid => ?_⟩⟩
  have hfind := find_of_mem hb hx
  rw [hid] at hfind
  unfold Engine.findActive at hnone
  rw [hfind] at hnone
  rw [Bool.and_eq_true, Bool.not_eq_true'] at hactive
  simp only [hactive.2, Bool.false_eq_true, if_false] at hnone
  cases hnone

theorem activeCount_insert (hb : Base s) (env : Env) (hslot : t.slotGranted = false)
    (hnone : s.findActive t.direction t.messageId = none) (dir : Direction) :
    (Engine.insert env t s).activeCount dir = s.activeCount dir := by
  by_cases hdir : dir = t.direction
  · subst hdir
    rw [← countP_filter_ended hb hnone]
    unfold Engine.activeCount
    rw [mapFor_insert, mapFor_setMap_self, (env.shuffle_perm _).countP_eq, List.countP_cons_of_neg]
    rw [hslot]
    exact Bool.false_ne_true
  · refine activeCount_of_maps ?_
    rw [mapFor_insert, mapFor_setMap_ne s hdir]

theorem wait_insert (s : Engine) (env : Env) (t : Runtime) (dir : Direction) :
    (Engine.insert env t s).wait dir = s.wait dir := by
  have hsame : (Engine.insert env t s).wait dir = (s.setMap t.direction (env.shuffle
      (t :: (s.mapFor t.direction).filter fun x => x.messageId ≠ t.messageId))).wait dir := by
    cases dir <;> rfl
  rw [hsame, wait_setMap]

theorem grants_insert (s : Engine) (env : Env) (t : Runtime) :
    (Engine.insert env t s).grants = s.grants := by
  unfold Engine.insert
  cases t.direction <;> rfl

/-- A new transfer has to wait: it goes to the end of the queue. -/
theorem Queued.enqueue (h : Queued P s) (env : Env) (hfresh : Fresh t s)
    (hs : Serials ((Engine.insert env t s).setWait t.direction
      ((Engine.insert env t s).wait t.direction ++ [t.messageId])))
    (hnew : P → t.messageId ∉ s.wait t.direction) :
    Queued P ((Engine.insert env t s).setWait t.direction
      ((Engine.insert env t s).wait t.direction ++ [t.messageId])) := by
  refine ⟨hs, fun dir x hx hw => ?_, fun hP dir => ?_, fun hP grant hgrant => ?_⟩
  · rw [mapFor_setWait] at hx
    by_cases hdir : dir = t.direction
    · subst hdir
      rw [wait_setWait_self, wait_insert]
      rcases mem_insert hx with ⟨rfl, -⟩ | ⟨hmem, -⟩
      · exact List.mem_append_right _ (List.mem_singleton.mpr rfl)
      · exact List.mem_append_left _ (h.queued _ x hmem hw)
    · rw [wait_setWait_ne _ hdir, wait_insert]
      rcases mem_insert hx with ⟨-, hd⟩ | ⟨hmem, -⟩
      · exact absurd hd hdir
      · exact h.queued dir x hmem hw
  · have hbefore : ((Engine.insert env t s).setWait t.direction
        ((Engine.insert env t s).wait t.direction ++ [t.messageId])).Before dir =
        (Engine.insert env t s).Before dir := by
      unfold Engine.Before
      rw [mapFor_setWait]
    rw [hbefore]
    by_cases hdir : dir = t.direction
    · subst hdir
      rw [wait_setWait_self, wait_insert]
      -- an id that was in the queue is not that of the new transfer
      have hold : ∀ a ∈ s.wait t.direction, ∀ x ∈ (Engine.insert env t s).mapFor t.direction,
          x.messageId = a → x ∈ s.mapFor t.direction := fun a ha x hx hid => by
        rcases mem_insert hx with ⟨rfl, -⟩ | ⟨hmem, -⟩
        · exact absurd (hid ▸ ha) (hnew hP)
        · exact hmem
      refine List.pairwise_append.mpr ⟨?_, List.pairwise_singleton _ _, fun a ha b hb => ?_⟩
      · refine (h.order hP t.direction).imp_of_mem fun {a b} ha hb hab => ?_
        intro x hx y hy hxa hyb
        exact hab x (hold a ha x hx hxa) y (hold b hb y hy hyb) hxa hyb
      · intro x hx y hy hxa hyb _ _
        have hx' := hold a ha x hx hxa
        rw [List.mem_singleton.mp hb] at hyb
        rcases mem_insert hy with ⟨rfl, -⟩ | ⟨-, hne⟩
        · rw [hfresh.serial]
          exact h.serials.used _ x hx'
        · exact absurd hyb (hne rfl)
    · rw [wait_setWait_ne _ hdir, wait_insert]
      refine (h.order hP dir).imp fun {a b} hab => ?_
      intro x hx y hy
      have hsame : (Engine.insert env t s).mapFor dir = s.mapFor dir := by
        rw [mapFor_insert, mapFor_setMap_ne s hdir]
      rw [hsame] at hx hy
      exact hab x hx y hy
  · refine h.grants hP grant ?_
    rw [← grants_insert s env t]
    cases hd : t.direction <;> rw [hd] at hgrant <;> exact hgrant

theorem Fair.enlist (h : Fair cfg P s) (hfresh : Fresh t s) (hphase : t.phase = .queued)
    (hnone : s.findActive t.direction t.messageId = none)
    (hnew : P → cfg.limit t.direction ≤ s.activeCount t.direction →
      t.messageId ∉ s.wait t.direction) : Fair cfg P (enlist cfg env t s) := by
  have hb := h.serials.base
  have hs : Serials (Transfer.enlist cfg env t s) :=
    h.serials.leaps cfg (admit_leaps trivial hfresh hphase)
  have hcount := activeCount_insert hb env hfresh.slotGranted hnone
  have hsame : ∀ dir, dir ≠ t.direction → (Engine.insert env t s).mapFor dir = s.mapFor dir :=
    fun dir hdir => by rw [mapFor_insert, mapFor_setMap_ne s hdir]
  unfold Transfer.enlist at hs ⊢
  simp only at hs ⊢
  split at hs
  · rename_i hlimit
    rw [if_pos hlimit]
    refine { h.toQueued.enqueue env hfresh hs fun hP => hnew hP (hcount _ ▸ hlimit) with
      full := fun dir => ?_ }
    by_cases hdir : dir = t.direction
    · subst hdir
      refine .inr ?_
      rw [activeCount_setWait]
      exact hlimit
    · unfold Full
      rw [activeCount_setWait, mapFor_setWait, hcount, hsame dir hdir]
      exact h.full dir
  · rename_i hroom
    rw [if_neg hroom]
    have hlive : ({ t with slotGranted := true } : Runtime).phase.terminal = false := by
      rw [hphase]
      rfl
    obtain ⟨u, hu, hquery, hmaps, hwait, hgrants⟩ := beginQuery_frame env
      { t with slotGranted := true } (Engine.insert env t s)
    refine h.easier hs ⟨fun dir x hx hw => ?_, fun dir => ?_⟩
      (fun dir => (hwait dir).trans (wait_insert s env t dir))
      (hgrants.trans (grants_insert s env t))
    · rw [hmaps] at hx
      rcases mem_put hx with ⟨rfl, -⟩ | ⟨hmem, hne⟩
      · rw [Runtime.waiting, hu.slotGranted] at hw
        simp at hw
      · rcases mem_insert hmem with ⟨rfl, hd⟩ | ⟨hmem, -⟩
        · exact absurd hu.messageId.symm (hne (hd.trans hu.direction.symm))
        · exact ⟨x, hmem, hw, rfl, rfl, fun hp => hp⟩
    · rw [activeCount_of_maps (hmaps dir), ← hcount dir]
      exact activeCount_le_put (hb.insert env t) (at_insert env s hlive) hu.messageId hu.direction
        (fun _ => hu.slotGranted) (by rw [hquery]; rfl) dir

/-- No transfer comes into the tables by a move. -/
theorem Moves.ids (hb : Base s) (hmoves : Moves cfg a s s') {x' : Runtime}
    (hx : x' ∈ s'.mapFor dir) : ∃ x ∈ s.mapFor dir, x.messageId = x'.messageId := by
  induction hmoves generalizing x' with
  | refl => exact ⟨x', hx, rfl⟩
  | tail hmoves hmove ih =>
    rcases (Leap.move hmove).origin with hold | ⟨env, t, -, hnext, -⟩
    · obtain ⟨y, hy, hkin⟩ := hold dir x' hx
      obtain ⟨x, hmem, hid⟩ := ih hy
      exact ⟨x, hmem, hid.trans hkin.messageId.symm⟩
    · have hsame := ((hb.moves hmoves).1.move hmove).2.2
      rw [hsame] at hnext
      exact absurd hnext (Nat.ne_of_lt (Nat.lt_succ_self _))

theorem easier_erase (hb : Base s) {id : Int} (hnone : s.findActive dir id = none) :
    Easier s (s.erase dir id) := by
  refine ⟨fun dir' x hx hw => ⟨x, mem_erase hx, hw, rfl, rfl, fun hp => hp⟩, fun dir' => ?_⟩
  by_cases hdir : dir' = dir
  · subst hdir
    rw [← countP_filter_ended hb hnone]
    unfold Engine.activeCount Engine.erase
    exact Nat.le_of_eq (by rw [mapFor_setMap_self])
  · refine Nat.le_of_eq (activeCount_of_maps ?_).symm
    rw [Engine.erase, mapFor_setMap_ne s hdir]

theorem findActive_erase (dir : Direction) (id : Int)
    (hmoves : Moves cfg {} (s.erase dir id) s') (hb' : Base (s.erase dir id)) :
    s'.findActive dir id = none := by
  cases hfind : s'.findActive dir id with
  | none => rfl
  | some x =>
    obtain ⟨hx, hdir, hid⟩ := findActive_at (hb'.moves hmoves).1 hfind
    obtain ⟨y, hy, hyid⟩ := hmoves.ids hb' (hdir ▸ hx.1)
    unfold Engine.erase at hy
    rw [mapFor_setMap_self] at hy
    have hne := (List.mem_filter.mp hy).2
    rw [decide_eq_true_eq] at hne
    exact absurd (hyid.trans hid) hne

section

variable (h : Fair cfg P s)

include h

theorem Fair.stillborn (hfresh : Fresh t s) (text : String)
    (hnone : s.findActive t.direction t.messageId = none) :
    Fair cfg P (stillborn cfg env t text s) := by
  have hb := h.serials.base
  have hs : Serials (Transfer.stillborn cfg env t text s) :=
    h.serials.leaps cfg (stillborn_leaps trivial hb hfresh text)
  have hserials : Serials (s.erase t.direction t.messageId) :=
    h.serials.leaps cfg (Leap.erase _ _).leaps
  have hgrants : (s.erase t.direction t.messageId).grants = s.grants := by
    cases t.direction <;> rfl
  have herased : Fair cfg P (s.erase t.direction t.messageId) :=
    h.easier hserials (easier_erase hb hnone) (fun dir => wait_setMap _ _ _ _) hgrants
  have hmoves : Moves cfg {} (s.erase t.direction t.messageId)
      (promoteWaiting cfg env t.direction (s.erase t.direction t.messageId)) :=
    promoteWaiting_moves trivial _ hserials.base
  have hpromoted : Fair cfg P
      (promoteWaiting cfg env t.direction (s.erase t.direction t.messageId)) :=
    herased.promote t.direction herased.toQueued fun _ _ => rfl
  have hgone := findActive_erase t.direction t.messageId hmoves hserials.base
  unfold Transfer.stillborn at hs ⊢
  generalize promoteWaiting cfg env t.direction (s.erase t.direction t.messageId) = s' at *
  refine hpromoted.easier hs ⟨fun dir x hx hw => ?_, fun dir => ?_⟩ (fun dir => ?_) ?_
  · rcases mem_insert hx with ⟨rfl, -⟩ | ⟨hmem, -⟩
    · cases hw
    · exact ⟨x, hmem, hw, rfl, rfl, fun hp => hp⟩
  · have hcount : (Engine.insert env { t.closeFiles with phase := .failed, errorText := text }
        s').activeCount dir = s'.activeCount dir := by
      refine activeCount_insert hpromoted.serials.base env ?_ ?_ dir
      · exact hfresh.slotGranted
      · exact hgone
    exact Nat.le_of_eq hcount.symm
  · have hsame : ∀ l, ({ Engine.insert env { t.closeFiles with phase := .failed, errorText := text }
        s' with finished := l } : Engine).wait dir = (Engine.insert env
        { t.closeFiles with phase := .failed, errorText := text } s').wait dir := fun l => by
      cases dir <;> rfl
    rw [hsame, wait_insert]
  · exact grants_insert s' env _

theorem Fair.startUpload (req : UploadRequest)
    (hnew : P → s.findActive .upload req.messageId = none →
      cfg.limit .upload ≤ s.activeCount .upload → req.messageId ∉ s.wait .upload) :
    Fair cfg P (startUpload cfg env req s) := by
  unfold Transfer.startUpload
  split
  · exact h
  split
  · exact h
  rename_i hactive
  have hnone : s.findActive .upload req.messageId = none := by simpa using hactive
  split
  · exact h.stillborn ⟨rfl, rfl, rfl, rfl, rfl⟩ _ hnone
  · exact h.enlist ⟨rfl, rfl, rfl, rfl, rfl⟩ rfl hnone fun hP => hnew hP hnone

theorem Fair.startDownload (req : DownloadRequest)
    (hnew : P → s.findActive .download req.messageId = none →
      cfg.limit .download ≤ s.activeCount .download → req.messageId ∉ s.wait .download) :
    Fair cfg P (startDownload cfg env req s) := by
  unfold Transfer.startDownload
  split
  · exact h
  split
  · exact h
  rename_i hactive
  have hnone : s.findActive .download req.messageId = none := by simpa using hactive
  split
  · exact h.stillborn ⟨rfl, rfl, rfl, rfl, rfl⟩ _ hnone
  · exact h.enlist ⟨rfl, rfl, rfl, rfl, rfl⟩ rfl hnone fun hP => hnew hP hnone

theorem Fair.pauseTransfer (dir : Direction) (id : Int) : Fair cfg P (pauseTransfer dir id s) := by
  have hb := h.serials.base
  have hs := h.serials.leaps cfg (pauseTransfer_leaps hb dir id fun _ _ => trivial)
  unfold Transfer.pauseTransfer at hs ⊢
  split
  · exact h
  rename_i t hfind
  have ht := (findActive_at hb hfind).1
  rw [hfind] at hs
  simp only at hs
  split
  · exact h
  · rename_i hp
    rw [if_neg hp] at hs
    exact h.easier hs (easier_put hb ht rfl rfl rfl (fun h => h) ht.2 fun hw => ⟨hw, fun _ => rfl⟩)
      (wait_put s _) (grants_put s _)

theorem Fair.resumeTransfer (dir : Direction) (id : Int) :
    Fair cfg P (resumeTransfer cfg env dir id s) := by
  have hb := h.serials.base
  unfold Transfer.resumeTransfer
  split
  · exact h
  rename_i t hfind
  obtain ⟨ht, hdir, -⟩ := findActive_at hb hfind
  split
  · exact h
  have hs := h.serials.leaps cfg (Leap.resume ht trivial).leaps
  have ht' : At { t with userPaused := false } (s.put { t with userPaused := false }) :=
    ht.put rfl rfl ht.2
  simp only
  split
  · refine h.promote dir (h.toQueued.sparser hs (fun dir' x hx hw => ?_) (wait_put s _)
      (grants_put s _)) fun dir' hne => ?_
    · rcases mem_put hx with ⟨rfl, rfl⟩ | ⟨hmem, -⟩
      · exact ⟨t, ht.1, hw, rfl, rfl⟩
      · exact ⟨x, hmem, hw, rfl, rfl⟩
    · exact mapFor_put_ne s _ fun hc => hne (hc.trans hdir)
  rename_i hslot
  have hgranted : t.slotGranted = true := Bool.not_eq_false _ ▸ hslot
  have hput : Fair cfg P (s.put { t with userPaused := false }) := by
    refine h.easier hs (easier_put hb ht rfl rfl rfl (fun h => h) ht.2 fun hw => ?_) (wait_put s _)
      (grants_put s _)
    have hno : ({ t with userPaused := false } : Runtime).waiting = false := by
      rw [hgranted]
      exact Bool.and_false _
    rw [hno] at hw
    cases hw
  split
  · rw [← resyncUpload_put]
    exact hput.acts (beginQuery_acts ht' (by exact .refl _) (.inl trivial) trivial)
  · rw [← beginQuery_put s _ { t with userPaused := false } rfl rfl]
    exact hput.acts (beginQuery_acts ht' (.refl _) (.inl trivial) trivial)

theorem Fair.down : Fair cfg P (onConnectionDown s) := by
  refine h.easier (h.serials.leaps cfg Leap.down.leaps) ⟨fun dir x hx hw => ?_, fun dir => ?_⟩
    (fun dir => by cases dir <;> rfl) rfl
  · rw [mapFor_down] at hx
    obtain ⟨y, hy, rfl⟩ := List.mem_map.mp hx
    obtain ⟨hk, hphase, -⟩ := connectionDown_key y
    rw [Runtime.waiting, hk.slotGranted, hphase] at hw
    exact ⟨y, hy, hw, hk.messageId.symm, hk.serial.symm, fun hp => hk.userPaused.trans hp⟩
  · unfold Engine.activeCount
    rw [mapFor_down, List.countP_map]
    refine List.countP_mono_left fun x _ hx => ?_
    obtain ⟨hk, hphase, -⟩ := connectionDown_key x
    rwa [Function.comp, hk.slotGranted, hphase]

theorem Fair.reset : Fair cfg P (reset s) := by
  have hnone : ∀ dir, ∀ x, x ∉ (Transfer.reset s).mapFor dir := fun dir x hx => by
    rw [mapFor_reset] at hx
    cases hx
  refine ⟨⟨h.serials.leaps cfg Leap.reset.leaps, fun dir x hx => absurd hx (hnone dir x),
    fun _ dir => ?_, h.grants⟩, fun dir => .inl fun x hx => absurd hx (hnone dir x)⟩
  have hempty : (Transfer.reset s).wait dir = [] := by cases dir <;> rfl
  rw [hempty]
  exact List.Pairwise.nil

theorem Fair.foldl {f : Engine → Int → Engine} (hf : ∀ s id, Fair cfg P s → Fair cfg P (f s id))
    (l : List Int) : Fair cfg P (l.foldl f s) := by
  induction l generalizing s with
  | nil => exact h
  | cons id l ih => exact ih (hf s id h)

theorem Fair.authenticated : Fair cfg P (onConnectionAuthenticated cfg env s) := by
  have hup : Fair cfg P { s with connUp := true, awaitingReconnect := false } :=
    h.easier (h.serials.leaps cfg Leap.up.leaps) (easier_of_maps fun dir => by cases dir <;> rfl)
      (fun dir => by cases dir <;> rfl) rfl
  have hquery : ∀ dir s id, Fair cfg P s → Fair cfg P (requery env dir s id) := fun dir s id h =>
    h.acts (requery_acts trivial h.serials.base dir id)
  have huploads := hup.foldl (hquery .upload) (s.uploads.map (·.messageId))
  have hdownloads := huploads.foldl (hquery .download) (Engine.downloads
    ((s.uploads.map (·.messageId)).foldl (requery env .upload)
      { s with connUp := true, awaitingReconnect := false }) |>.map (·.messageId))
  exact hdownloads.acts (pump_acts trivial hdownloads.serials.base)

theorem Fair.onTick : Fair cfg P (onTick cfg env s) := by
  have htick : ∀ dir s id, Fair cfg P s → Fair cfg P (tick cfg env dir s id) := fun dir s id h =>
    h.acts (tick_acts h.serials.base dir id fun _ _ _ => trivial)
  exact (h.foldl (htick .upload) _).foldl (htick .download) _

end

/-! ### Runs -/

/-- No message has to wait whose id is still in the queue. -/
def Event.orderly (cfg : Config) (s : Engine) : Event → Prop
  | .startUpload req => s.findActive .upload req.messageId = none →
    cfg.limit .upload ≤ s.activeCount .upload → req.messageId ∉ s.wait .upload
  | .startDownload req => s.findActive .download req.messageId = none →
    cfg.limit .download ≤ s.activeCount .download → req.messageId ∉ s.wait .download
  | _ => True

theorem Fair.step (h : Fair cfg P s) (e : Env × Event) (he : P → e.2.orderly cfg s) :
    Fair cfg P (step cfg sha256Hex s e) := by
  have hb := h.serials.base
  obtain ⟨env, event⟩ := e
  cases event with
  | startUpload req => exact h.startUpload req he
  | startDownload req => exact h.startDownload req he
  | pauseTransfer dir id => exact h.pauseTransfer dir id
  | resumeTransfer dir id => exact h.resumeTransfer dir id
  | cancelTransfer dir id =>
    show Fair cfg P (cancelTransfer cfg env dir id s)
    unfold cancelTransfer
    split
    · exact h
    · rename_i t hfind
      have ht := (findActive_at hb hfind).1
      exact h.acts (failTransfer_acts ht (.refl t) 0 _)
  | connectionDown => exact h.down
  | connectionAuthenticated => exact h.authenticated
  | reset => exact h.reset
  | tick => exact h.onTick
  | chunkUploadRsp f =>
    exact h.acts (handleChunkUploadRsp_acts trivial hb _ fun _ _ => ⟨trivial, trivial⟩)
  | progressRsp f =>
    exact h.acts (handleProgressRsp_acts trivial hb _ fun _ _ => ⟨trivial, trivial⟩)
  | downInfoRsp f =>
    exact h.acts (handleDownInfoRsp_acts trivial hb _ fun _ _ => ⟨trivial, trivial⟩)
  | chunkDownRsp f =>
    exact h.acts (handleChunkDownRsp_acts trivial hb _ fun _ _ => ⟨trivial, trivial⟩)
  | instantProofRsp f =>
    exact h.acts (handleInstantProofRsp_acts trivial hb _ fun _ _ => ⟨trivial, trivial⟩)

/-- Every start of a run is orderly. -/
def Orderly (cfg : Config) (sha256Hex : List UInt8 → String) : Engine → List (Env × Event) → Prop
  | _, [] => True
  | s, e :: es => e.2.orderly cfg s ∧ Orderly cfg sha256Hex (step cfg sha256Hex s e) es

theorem Fair.run (h : Fair cfg P s) (es : List (Env × Event))
    (hes : P → Orderly cfg sha256Hex s es) : Fair cfg P (run cfg sha256Hex s es) := by
  induction es generalizing s with
  | nil => exact h
  | cons e es ih => exact ih (h.step e fun hP => (hes hP).1) fun hP => (hes hP).2

theorem fair_nil : Fair cfg P {} where
  serials := serials_nil
  queued dir x hx := by
    rw [mapFor_nil] at hx
    cases hx
  order _ dir := by cases dir <;> exact List.Pairwise.nil
  grants _ grant hgrant := by cases hgrant
  full dir := .inl fun x hx => by
    rw [mapFor_nil] at hx
    cases hx

/-- No transfer that is not paused waits while a slot is free; and in a run in which no message has
to wait whose id is still in the queue, a slot that is given on goes to the transfer registered
first of those that wait and are not paused. -/
theorem promotion_fair (cfg : Config) (sha256Hex : List UInt8 → String) (es : List (Env × Event)) :
    (∀ dir, (run cfg sha256Hex {} es).activeCount dir < cfg.limit dir →
      ∀ x ∈ (run cfg sha256Hex {} es).mapFor dir, x.waiting = true → x.userPaused = true) ∧
    (Orderly cfg sha256Hex {} es →
      ∀ grant ∈ (run cfg sha256Hex {} es).grants, ∀ n ∈ grant.2, grant.1 ≤ n) := by
  have h : Fair cfg (Orderly cfg sha256Hex {} es) (run cfg sha256Hex {} es) := fair_nil.run es id
  refine ⟨fun dir hfree x hx hw => ?_, h.grants⟩
  rcases h.full dir with hpaused | hlimit
  · exact hpaused x hx hw
  · exact absurd hfree (Nat.not_lt.mpr hlimit)

/-- Three uploads with one slot; the first is cancelled. -/
def inTurn : List Event :=
  [.startUpload { messageId := 1, filePath := "a", fileSizeBytes := 10 },
    .startUpload { messageId := 2, filePath := "b", fileSizeBytes := 10 },
    .startUpload { messageId := 3, filePath := "c", fileSizeBytes := 10 },
    .cancelTransfer .upload 1]

theorem promotion_fair_inTurn :
    (run oneUpload (fun _ => "") {} (inTurn.map fun event => (tenBytes, event))).grants =
        [(1, [2, 1])] ∧
      ∀ grant ∈ (run oneUpload (fun _ => "") {}
        (inTurn.map fun event => (tenBytes, event))).grants, ∀ n ∈ grant.2, grant.1 ≤ n := by
  have horderly : Orderly oneUpload (fun _ => "") {}
      (inTurn.map fun event => (tenBytes, event)) := by
    have hsecond : (2 : Int) ∉ (run oneUpload (fun _ => "") {} ((inTurn.take 1).map fun event =>
        (tenBytes, event))).wait .upload := by decide +kernel
    have hthird : (3 : Int) ∉ (run oneUpload (fun _ => "") {} ((inTurn.take 2).map fun event =>
        (tenBytes, event))).wait .upload := by decide +kernel
    exact ⟨fun _ _ h => (nomatch h), fun _ _ => hsecond, fun _ _ => hthird, trivial, trivial⟩
  exact ⟨by decide +kernel, (promotion_fair oneUpload (fun _ => "") _).2 horderly⟩

/-- As before, but message 2 is cancelled in the queue and started again. -/
def queueJumper : List Event :=
  [.startUpload { messageId := 1, filePath := "a", fileSizeBytes := 10 },
    .startUpload { messageId := 2, filePath := "b", fileSizeBytes := 10 },
    .startUpload { messageId := 3, filePath := "c", fileSizeBytes := 10 },
    .cancelTransfer .upload 2,
    .startUpload { messageId := 2, filePath := "b", fileSizeBytes := 10 },
    .cancelTransfer .upload 1]

/-- The slot goes to the fourth registration, and the third has to wait. -/
theorem promotion_unfair_queueJumper :
    (run oneUpload (fun _ => "") {} (queueJumper.map fun event => (tenBytes, event))).grants =
      [(3, [3, 2])] := by
  decide +kernel

end LlfcChat.Transfer
