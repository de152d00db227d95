/-
Which peers can make a session read past its buffer.

The length of a body is a signed 16-bit field that is only compared with
`MAX_LENGTH` from above.  A length of -2 or less does no harm: the allocation
of the node throws and the session is closed.  A length of -1 goes through: the
node has `new char[0]`, and the conversion to `std::size_t` asks the socket for
2^64 - 1 bytes.

`within_run_iff` says that this one head is the only way out of the buffer,
over all byte streams and all ways to cut them into reads.
-/
import LlfcChat.Chat.Session

namespace LlfcChat

namespace CSession

/-! ### What has to hold of a run -/

/-- Every read so far lies inside the buffer, and every node so far has a
length between 0 and `MAX_LENGTH`. -/
structure Within (s : CSession) : Prop where
  reads : ∀ r ∈ s.reads, r.1 ≤ r.2 ∧ r.2 ≤ maxLength
  nodes : ∀ n ∈ s.nodes, 0 ≤ n.totalLen ∧ n.totalLen ≤ maxLength

/-- The event does not complete a head of an acceptable type whose length field
is 0xFFFF. -/
def HeadOk (s : CSession) : ReadEvent → Prop
  | .complete failed bytes _ => ∀ p, s.pending = some p → p.handler = .head → failed = false →
      p.totalLen ≤ p.readLen + bytes.length → s.lifecycle = .opened →
      headType (store s.data p.readLen bytes) ≤ maxLength →
      ¬((store s.data p.readLen bytes).getD 2 0 = 0xFF ∧
        (store s.data p.readLen bytes).getD 3 0 = 0xFF)
  | _ => True

/-- What the outstanding read of a chain that is still inside the buffer is
like. -/
structure PendingOk (p : PendingRead) : Prop where
  ordered : p.readLen ≤ p.totalLen
  inside : p.totalLen ≤ maxLength
  head : p.handler = .head → p.totalLen = headTotalLen

/-- `Within`, and the outstanding read is inside the buffer as well. -/
structure Good (s : CSession) : Prop extends Within s where
  pending : ∀ p, s.pending = some p → PendingOk p

/-! ### What one event does to the chain -/

/-- The four things an event can do: stop the chain or leave it alone, start on
the next head, go on with the outstanding part, or start on a body. -/
inductive Moves (s : CSession) (e : ReadEvent) (s' : CSession) : Prop
  | quiet (hr : s'.reads = s.reads) (hn : s'.nodes = s.nodes)
      (hp : s'.pending = none ∨ s'.pending = s.pending)
  | head (hr : s'.reads = s.reads ++ [(0, headTotalLen)]) (hn : s'.nodes = s.nodes)
      (hp : s'.pending = some ⟨0, headTotalLen, .head⟩)
  | more (p : PendingRead) (k : Nat) (hs : s.pending = some p) (hk : k < p.totalLen)
      (hr : s'.reads = s.reads ++ [(k, p.totalLen)]) (hn : s'.nodes = s.nodes)
      (hp : s'.pending = some ⟨k, p.totalLen, p.handler⟩)
  | body (p : PendingRead) (bytes : List UInt8) (accepted : Bool)
      (he : e = .complete false bytes accepted) (hs : s.pending = some p)
      (hh : p.handler = .head) (hfull : p.totalLen ≤ p.readLen + bytes.length)
      (hopen : s.lifecycle = .opened) (msgType msgLen : Int)
      (ht : headType (store s.data p.readLen bytes) = msgType) (ht' : msgType ≤ maxLength)
      (hl : headLen (store s.data p.readLen bytes) = msgLen) (hl' : msgLen ≤ maxLength)
      (hnew : -1 ≤ msgLen) (hr : s'.reads = s.reads ++ [(0, Wire.sizeT msgLen)])
      (hn : s'.nodes = s.nodes ++ [⟨msgLen, 0, msgType, []⟩])
      (hp : s'.pending = some ⟨0, Wire.sizeT msgLen, .body msgLen⟩)

variable {parse : List UInt8 → Json}

variable {s s' : CSession} {e : ReadEvent}

theorem route_error {node : RecvNode} (h : route parse node s = .error s') :
    s'.reads = s.reads ∧ s'.nodes = s.nodes ∧ s'.pending = none := by
  unfold route at h
  split at h
  · dsimp only at h
    split at h
    · cases h
      exact ⟨rfl, rfl, rfl⟩
    · split at h <;> cases h
      exact ⟨rfl, rfl, rfl⟩
  · split at h <;> cases h
    exact ⟨rfl, rfl, rfl⟩

theorem bindRoutingUid_eq_some {uid : Int} (h : s.bindRoutingUid uid = some s') :
    s' = { s with routingUid := uid } := by
  unfold bindRoutingUid at h
  split at h
  · exact (Option.some.inj h).symm
  · split at h <;> cases h
    rename_i huid
    rw [← huid]

theorem route_ok {node : RecvNode} (h : route parse node s = .ok s') :
    s' = { s with routingUid := s'.routingUid } := by
  unfold route at h
  split at h
  · dsimp only at h
    split at h
    · cases h
    · split at h <;> cases h
      rename_i hbind
      rw [bindRoutingUid_eq_some hbind]
  · split at h <;> cases h
    rfl

/-- `onBody` only ever starts on the next head. -/
theorem onBody_moves {accepted failed : Bool} {totalLen : Int} {transferred : Nat} (e : ReadEvent)
    (s₀ : CSession) (hr : s.reads = s₀.reads) (hn : s.nodes = s₀.nodes) :
    Moves s₀ e (onBody parse accepted totalLen failed transferred s) := by
  have hstop {s' : CSession} (h : s'.reads = s.reads) (h' : s'.nodes = s.nodes)
      (hp : s'.pending = none) : Moves s₀ e s' := .quiet (h.trans hr) (h'.trans hn) (.inl hp)
  unfold onBody
  split
  · exact hstop rfl rfl rfl
  split
  · exact hstop rfl rfl rfl
  split
  · exact hstop rfl rfl rfl
  split
  · exact hstop rfl rfl rfl
  dsimp only
  split
  · rename_i s' hroute
    obtain ⟨hr', hn', hp⟩ := route_error hroute
    exact hstop hr' hn' hp
  · rename_i s' hroute
    rw [route_ok hroute]
    -- a posted message starts the chain again, a refused one ends it
    unfold post
    split
    · exact .head (by rw [← hr]; rfl) (by rw [← hn]; rfl) rfl
    · split <;> exact hstop rfl rfl rfl

theorem onHead_moves {p : PendingRead} (hs : s.pending = some p) (hh : p.handler = .head)
    {failed : Bool} {bytes : List UInt8} (accepted : Bool)
    (hfull : failed = true ∨ p.totalLen ≤ p.readLen + bytes.length) :
    Moves s (.complete failed bytes accepted)
      (onHead failed (p.readLen + bytes.length)
        { s with data := store s.data p.readLen bytes, pending := none }) := by
  unfold onHead
  split
  · exact .quiet rfl rfl (.inl rfl)
  rename_i hok
  split
  · exact .quiet rfl rfl (.inl rfl)
  split
  · exact .quiet rfl rfl (.inl rfl)
  rename_i hopen
  split
  · exact .quiet rfl rfl (.inl rfl)
  rename_i htype
  split
  · exact .quiet rfl rfl (.inl rfl)
  rename_i hlen
  split
  · exact .quiet rfl rfl (.inl rfl)
  -- the node was allocated
  rename_i node hnode
  unfold RecvNode.new at hnode
  split at hnode
  · cases hnode
  rename_i hnew
  obtain rfl := Option.some.inj hnode
  rw [Bool.not_eq_true] at hok
  subst hok
  have hnew' : -1 ≤ headLen (store s.data p.readLen bytes) := Int.sub_nonneg.mp (not_lt.mp hnew)
  exact .body p bytes accepted rfl hs hh (hfull.resolve_left nofun) (not_not.mp hopen) _ _ rfl
    (not_lt.mp htype) rfl (not_lt.mp hlen) hnew' rfl rfl rfl

/-- **What one event does.** -/
theorem step_moves (parse : List UInt8 → Json) (s : CSession) (e : ReadEvent) :
    Moves s e (step parse s e) := by
  cases e with
  | drain | close => exact .quiet rfl rfl (.inr rfl)
  | complete failed bytes accepted =>
    unfold step
    rcases hs : s.pending with - | p
    · exact .quiet rfl rfl (.inr rfl)
    show Moves s _ (onComplete parse p failed bytes accepted _)
    unfold onComplete
    dsimp only
    split
    · rename_i hfull
      unfold onRead
      rcases hh : p.handler with - | totalLen
      · exact onHead_moves hs hh accepted hfull
      · exact onBody_moves _ s rfl rfl
    · rename_i hpart
      exact .more p _ hs (not_le.mp fun h => hpart (.inr h)) rfl rfl rfl

/-! ### Inside the buffer -/

theorem sizeT_le_maxLength {i : Int} (h : 0 ≤ i) (h' : i ≤ maxLength) :
    Wire.sizeT i ≤ maxLength := by
  unfold maxLength at *
  rw [Wire.sizeT_of_nonneg h (by omega)]
  omega

/-- An event that meets the condition keeps the chain inside the buffer. -/
theorem Good.step (h : s.Good) (he : s.HeadOk e) : (step parse s e).Good := by
  -- one more read, and it is the outstanding one
  have hnext {s' : CSession} {p : PendingRead} (hp : s'.pending = some p) (hok : PendingOk p)
      (hr : s'.reads = s.reads ++ [(p.readLen, p.totalLen)])
      (hn : ∀ n ∈ s'.nodes, 0 ≤ n.totalLen ∧ n.totalLen ≤ maxLength) : s'.Good := by
    refine ⟨⟨?_, hn⟩, fun p' hp' => Option.some.inj (hp.symm.trans hp') ▸ hok⟩
    rw [hr]
    intro q hq
    rcases List.mem_append.mp hq with hq | hq
    · exact h.reads q hq
    · rw [List.mem_singleton.mp hq]
      exact ⟨hok.ordered, hok.inside⟩
  cases step_moves parse s e with
  | quiet hr hn hp =>
    refine ⟨⟨hr ▸ h.reads, hn ▸ h.nodes⟩, fun p hp' => ?_⟩
    rcases hp with hp | hp
    · rw [hp] at hp'
      cases hp'
    · exact h.pending p (hp ▸ hp')
  | head hr hn hp =>
    exact hnext hp ⟨Nat.zero_le _, by decide, fun _ => rfl⟩ hr (hn ▸ h.nodes)
  | more p k hs hk hr hn hp =>
    have hok := h.pending p hs
    exact hnext hp ⟨hk.le, hok.inside, hok.head⟩ hr (hn ▸ h.nodes)
  | body p bytes accepted heq hs hh hfull hopen msgType msgLen ht ht' hl hl' hnew hr hn hp =>
    subst heq
    -- the length is not -1, so it is not negative at all
    have hne : msgLen ≠ -1 := fun hneg =>
      he p hs hh rfl hfull hopen (ht ▸ ht') (Wire.readShort_eq_neg_one_iff.mp (hl.trans hneg))
    have hpos : 0 ≤ msgLen := by omega
    refine hnext hp ⟨Nat.zero_le _, sizeT_le_maxLength hpos hl', nofun⟩ hr ?_
    rw [hn]
    intro n hmem
    rcases List.mem_append.mp hmem with hmem | hmem
    · exact h.nodes n hmem
    · rw [List.mem_singleton.mp hmem]
      exact ⟨hpos, hl'⟩

/-! ### Outside the buffer -/

/-- What was recorded stays recorded. -/
theorem Within.of_step (h : (step parse s e).Within) : s.Within := by
  have hgrows {l l' : List (Nat × Nat)} {r : Nat × Nat} (hl : l' = l ++ [r])
      (h : ∀ q ∈ l', q.1 ≤ q.2 ∧ q.2 ≤ maxLength) : ∀ q ∈ l, q.1 ≤ q.2 ∧ q.2 ≤ maxLength :=
    fun q hq => h q (hl ▸ List.mem_append_left _ hq)
  cases step_moves parse s e with
  | quiet hr hn hp => exact ⟨hr ▸ h.reads, hn ▸ h.nodes⟩
  | head hr hn hp | more p k hs hk hr hn hp => exact ⟨hgrows hr h.reads, hn ▸ h.nodes⟩
  | body p bytes accepted heq hs hh hfull hopen msgType msgLen ht ht' hl hl' hnew hr hn hp =>
    exact ⟨hgrows hr h.reads, fun n hmem => h.nodes n (hn ▸ List.mem_append_left _ hmem)⟩

theorem Within.of_run {es : List ReadEvent} (h : (run parse s es).Within) : s.Within := by
  induction es generalizing s with
  | nil => exact h
  | cons e es ih => exact (ih h).of_step

/-- The head with the length -1 goes through all checks, and the read behind it
leaves the buffer. -/
theorem not_within_of_not_headOk (h : s.Good) (he : ¬s.HeadOk e) : ¬(step parse s e).Within := by
  cases e with
  | drain | close => exact absurd trivial he
  | complete failed bytes accepted =>
    unfold HeadOk at he
    push Not at he
    obtain ⟨p, hs, hh, rfl, hfull, hopen, htype, h2, h3⟩ := he
    obtain ⟨msgType, ht⟩ : ∃ t, headType (store s.data p.readLen bytes) = t := ⟨_, rfl⟩
    rw [ht] at htype
    have hlen : headLen (store s.data p.readLen bytes) = -1 :=
      Wire.readShort_eq_neg_one_iff.mpr ⟨h2, h3⟩
    have hhead : headTotalLen ≤ p.readLen + bytes.length := (h.pending p hs).head hh ▸ hfull
    have hread : (0, Wire.sizeT (-1)) ∈ (step parse s (.complete false bytes accepted)).reads := by
      have hpass := onHead_eq
        (s := { s with data := store s.data p.readLen bytes, pending := none })
        hhead hopen ht htype hlen (by decide) (by decide)
      rw [step_complete_full hs hfull, hh]
      show _ ∈ (onHead false _ _).reads
      rw [hpass]
      exact List.mem_append_right _ (List.mem_singleton.mpr rfl)
    intro hw
    exact absurd (hw.reads _ hread).2 (by decide)

/-! ### The main result -/

theorem good_start : Good start where
  reads r hr := by
    rw [List.mem_singleton.mp hr]
    decide
  nodes _ hn := absurd hn List.not_mem_nil
  pending p hp := by
    obtain rfl := Option.some.inj hp
    exact ⟨by decide, by decide, fun _ => rfl⟩

theorem Good.run_within_iff (h : s.Good) (es : List ReadEvent) :
    (run parse s es).Within ↔ Along parse HeadOk s es := by
  induction es generalizing s with
  | nil => exact iff_of_true h.toWithin trivial
  | cons e es ih =>
    by_cases he : s.HeadOk e
    · exact (ih (h.step he)).trans (and_iff_right he).symm
    · refine iff_of_false (fun hw => ?_) fun ha => he ha.1
      exact not_within_of_not_headOk h he (Within.of_run hw)

end CSession

open CSession

/-- **Reads stay inside the buffer unless a head says -1.**  For every sequence
of events on a new connection, whatever the bytes and however they are cut into
reads: all reads that were issued and all nodes that were allocated are within
their bounds if and only if no head of an acceptable type with the length field
0xFFFF was completed while the session was open. -/
theorem within_run_iff (parse : List UInt8 → Json) (es : List ReadEvent) :
    (run parse start es).Within ↔ Along parse HeadOk start es :=
  good_start.run_within_iff es

/-- A heartbeat whose length field is 0xFFFF, in one piece. -/
def negativeHeartbeat : List ReadEvent := [.complete false [0x04, 0x4F, 0xFF, 0xFF] true]

theorem negativeHeartbeat_not_within :
    Along (fun _ => .discarded) Admits start negativeHeartbeat ∧
      ¬(run (fun _ => .discarded) start negativeHeartbeat).Within := by
  refine ⟨⟨⟨_, rfl, by decide⟩, trivial⟩, ?_⟩
  rw [negativeHeartbeat, run, List.foldl_cons, List.foldl_nil]
  refine not_within_of_not_headOk good_start fun h => ?_
  exact h ⟨0, headTotalLen, .head⟩ rfl rfl rfl (by decide) rfl (by decide) ⟨rfl, rfl⟩

end LlfcChat
