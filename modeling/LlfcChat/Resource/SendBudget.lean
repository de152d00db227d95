/-
The budgets of ResourceServer's `CSession`.

`Send` reserves the bytes of a frame before it posts the closure that will push it.  A
`SendBudgetGuard` holds the reservation from there: it is shared by the call and its
closure, and its destructor gives the reservation back when both have let go of it, unless
the frame was pushed and the queue has taken the reservation over.  So at every moment the
two counters are what the queue and the armed guards hold together.

A guard is built by the thread that has just reserved and is seen by no other one before
the closure is posted, so the reservation and its guard are one step here; the same holds
of a `SessionTaskQuota` and its bytes.
-/
import LlfcChat.Chat.Session

namespace LlfcChat.Resource.Budget

/-- `HEAD_TOTAL_LEN`, `kMaxSendQueFrames`, `kMaxSendQueBytes` and
`kMaxSessionInflightTaskBytes`. -/
def headTotalLen : Nat := 6
def maxSendQueFrames : Nat := 1024
def maxSendQueBytes : Nat := 64 * 1024 * 1024
def maxSessionInflightTaskBytes : Nat := 8 * 1024 * 1024

/-- The length of a `std::string`. -/
abbrev Length := Fin (2 ^ 63)

/-- A `SendNode`; its length is an `int`. -/
structure Node where
  totalLen : Int
  deriving DecidableEq

/-- The constructor: the length of the payload arrives as an `int`. -/
def Node.new (length : Length) : Node :=
  ⟨Json.toInt32 (Json.toInt32 length.val + headTotalLen)⟩

/-- `_total_len` as a `std::size_t`. -/
def Node.size (n : Node) : Nat := Wire.sizeT n.totalLen

/-- The two calls that post a closure. -/
inductive Kind
  | send
  | sendAndClose
  deriving DecidableEq

/-- How far the closure of a call has come: not at all, or behind the first check of
`Send`. -/
inductive Stage
  | posted
  | checked
  deriving DecidableEq

/-- A `SendBudgetGuard`, with the call and the closure that share it. -/
structure Guard where
  kind : Kind
  length : Length
  bytes : Nat
  disarmed : Bool := false
  /-- The call has not returned. -/
  caller : Bool := true
  /-- The closure, while it has not been destroyed. -/
  closure : Option Stage := some .posted
  deriving DecidableEq

/-- A thread inside `TryAcquireTaskBytes`: what it wants and what it has read. -/
structure Acquire where
  bytes : Nat
  current : Nat
  deriving DecidableEq

structure Session where
  lifecycle : Lifecycle := .opened
  socketOpen : Bool := true
  sendQue : List Node := []
  /-- `_send_pending_frames` and `_send_pending_bytes`. -/
  pendingFrames : Nat := 0
  pendingBytes : Nat := 0
  /-- The number of `async_write`s that have not completed. -/
  writes : Nat := 0
  guards : List Guard := []
  /-- A defensive branch was taken. -/
  clamped : Bool := false
  /-- `_inflight_task_bytes`, the sizes of the tokens, and the threads that want one. -/
  inflightTaskBytes : Nat := 0
  tokens : List Nat := []
  acquiring : List Acquire := []
  deriving DecidableEq

namespace Session

/-! ### The send budget -/

/-- `TryReserveSendBudget`. -/
def tryReserveSendBudget (s : Session) (bytes : Nat) : Option Session :=
  if maxSendQueFrames ≤ s.pendingFrames ∨
      maxSendQueBytes < (s.pendingBytes + bytes) % 2 ^ 64 then none
  else some { s with
    pendingFrames := s.pendingFrames + 1, pendingBytes := (s.pendingBytes + bytes) % 2 ^ 64 }

/-- `ReleaseSendBudget`; `HandleWrite` and `ClearSendQueueLocked` have the same lines. -/
def releaseSendBudget (s : Session) (bytes : Nat) : Session :=
  { s with
    pendingFrames := if 0 < s.pendingFrames then s.pendingFrames - 1 else s.pendingFrames
    pendingBytes := if bytes ≤ s.pendingBytes then s.pendingBytes - bytes else 0
    clamped := s.clamped || s.pendingFrames = 0 || s.pendingBytes < bytes }

/-- `ClearSendQueueLocked`. -/
def clearSendQueueLocked (s : Session) : Session :=
  { s.sendQue.foldl (fun s n => s.releaseSendBudget n.size) s with sendQue := [] }

/-- `Close`, as far as the budgets are concerned; the socket is closed later. -/
def close (s : Session) : Session := { s with lifecycle := s.lifecycle.beginClose }

/-- The closure of `Close`. -/
def closeSocket (s : Session) : Session :=
  if s.lifecycle = .closing then { s with socketOpen := false, lifecycle := .closed } else s

/-- The destructor of a guard that nobody holds. -/
def dropGuard (s : Session) (i : Nat) (g : Guard) : Session :=
  let s := { s with guards := s.guards.eraseIdx i }
  if g.disarmed then s else s.releaseSendBudget g.bytes

/-- The holders of a guard have changed. -/
def setGuard (s : Session) (i : Nat) (g : Guard) : Session :=
  if g.caller = false ∧ g.closure = none then s.dropGuard i g
  else { s with guards := s.guards.set i g }

/-- `Send` and `SendAndClose` up to the `post`. -/
def send (s : Session) (kind : Kind) (length : Length) : Session :=
  match s.tryReserveSendBudget (headTotalLen + length.val) with
  | none => s.close
  | some s =>
    { s with guards := s.guards ++ [{ kind, length, bytes := headTotalLen + length.val }] }

/-- The frame of a guard is pushed, the guard disarmed, and the write begun if the queue
was empty.  The closure ends. -/
def push (s : Session) (i : Nat) (g : Guard) : Session :=
  let s := { s with
    sendQue := s.sendQue ++ [Node.new g.length]
    writes := if s.sendQue = [] then s.writes + 1 else s.writes }
  s.setGuard i { g with disarmed := true, closure := none }

/-- The closure ends without a push. -/
def leave (s : Session) (i : Nat) (g : Guard) : Session := s.setGuard i { g with closure := none }

/-- The closure of `Send`. -/
def runSend (s : Session) (i : Nat) (g : Guard) (stage : Stage) : Session :=
  match stage with
  | .posted =>
    if s.lifecycle ≠ .opened ∨ s.socketOpen = false then s.leave i g
    else s.setGuard i { g with closure := some .checked }
  | .checked => if s.lifecycle ≠ .opened then s.leave i g else s.push i g

/-- The closure of `SendAndClose`; the guard is held while it closes. -/
def runSendAndClose (s : Session) (i : Nat) (g : Guard) : Session :=
  if s.socketOpen = false then s.close.leave i g
  else if s.lifecycle ≠ .opened then s.leave i g
  else { s with lifecycle := .draining }.push i g

/-- The thread of the socket runs the next part of a closure. -/
def execute (s : Session) (i : Nat) : Session :=
  match s.guards[i]? with
  | none => s
  | some g =>
    match g.kind, g.closure with
    | _, none => s
    | .send, some stage => s.runSend i g stage
    | .sendAndClose, some _ => s.runSendAndClose i g

/-- A closure is destroyed before it runs. -/
def destroy (s : Session) (i : Nat) : Session :=
  match s.guards[i]? with
  | some g => if g.closure = some .posted then s.leave i g else s
  | none => s

/-- The call returns. -/
def callReturns (s : Session) (i : Nat) : Session :=
  match s.guards[i]? with
  | some g => s.setGuard i { g with caller := false }
  | none => s

/-- How a write ends: well, with an error, or well but with an exception in the handler,
before or after it has begun the next write. -/
inductive Outcome
  | success
  | error
  | thrown (started : Bool)
  deriving DecidableEq

/-- `HandleWrite` under the lock, on success: the front leaves the queue. -/
def popFront (s : Session) : Session :=
  match s.sendQue with
  | [] => s
  | n :: rest => { s.releaseSendBudget n.size with sendQue := rest }

/-- The next write, or the end of the drain. -/
def nextWrite (s : Session) : Session :=
  if s.sendQue = [] then if s.lifecycle = .draining then s.close else s
  else { s with writes := s.writes + 1 }

/-- `HandleWrite`. -/
def handleWrite (s : Session) : Outcome → Session
  | .success => s.popFront.nextWrite
  | .error => s.clearSendQueueLocked.close
  | .thrown started =>
    let s := s.popFront
    let s := if started then { s with writes := s.writes + 1 } else s
    s.clearSendQueueLocked.close

/-- A write completes. -/
def complete (s : Session) (outcome : Outcome) : Session :=
  if s.writes = 0 then s else { s with writes := s.writes - 1 }.handleWrite outcome

/-! ### The task budget -/

/-- `TryAcquireTaskBytes` up to its loop. -/
def acquire (s : Session) (bytes : Nat) : Session :=
  if bytes = 0 then { s with tokens := s.tokens ++ [0] }
  else { s with acquiring := s.acquiring ++ [⟨bytes, s.inflightTaskBytes⟩] }

/-- One turn of the loop.  `compare_exchange_weak` may fail for no reason. -/
def tryAcquire (s : Session) (i : Nat) (spurious : Bool) : Session :=
  match s.acquiring[i]? with
  | none => s
  | some a =>
    if maxSessionInflightTaskBytes < a.current ∨
        maxSessionInflightTaskBytes - a.current < a.bytes then
      { s with acquiring := s.acquiring.eraseIdx i }
    else if s.inflightTaskBytes = a.current ∧ spurious = false then
      { s with
        inflightTaskBytes := (a.current + a.bytes) % 2 ^ 64
        tokens := s.tokens ++ [a.bytes]
        acquiring := s.acquiring.eraseIdx i }
    else { s with acquiring := s.acquiring.set i ⟨a.bytes, s.inflightTaskBytes⟩ }

/-- The destructor of a token, and `ReleaseTaskBytes`. -/
def releaseToken (s : Session) (i : Nat) : Session :=
  match s.tokens[i]? with
  | none => s
  | some bytes =>
    { s with
      tokens := s.tokens.eraseIdx i
      inflightTaskBytes := Wire.sizeT ((s.inflightTaskBytes : Int) - bytes) }

end Session

/-! ### Events -/

inductive Event
  | send (kind : Kind) (length : Length)
  | callReturns (i : Nat)
  | execute (i : Nat)
  | destroy (i : Nat)
  | complete (outcome : Session.Outcome)
  /-- `Close` on any thread, also from the drain timer -/
  | close
  | closeSocket
  | acquire (bytes : Nat)
  | tryAcquire (i : Nat) (spurious : Bool)
  | releaseToken (i : Nat)
  deriving DecidableEq

namespace Session

def step (s : Session) : Event → Session
  | .send kind length => s.send kind length
  | .callReturns i => s.callReturns i
  | .execute i => s.execute i
  | .destroy i => s.destroy i
  | .complete outcome => s.complete outcome
  | .close => s.close
  | .closeSocket => s.closeSocket
  | .acquire bytes => s.acquire bytes
  | .tryAcquire i spurious => s.tryAcquire i spurious
  | .releaseToken i => s.releaseToken i

def run (s : Session) (es : List Event) : Session := es.foldl step s

/-! ### The balance -/

/-- What a guard holds of the two counters. -/
def frames (g : Guard) : Nat := if g.disarmed then 0 else 1
def held (g : Guard) : Nat := if g.disarmed then 0 else g.bytes

/-- What all guards and the whole queue hold. -/
def guardFrames (gs : List Guard) : Nat := (gs.map frames).sum
def guardBytes (gs : List Guard) : Nat := (gs.map held).sum
def queueBytes (q : List Node) : Nat := (q.map Node.size).sum

/-- A guard is held by its call or its closure, and armed as long as the closure lives. -/
structure Ok (g : Guard) : Prop where
  bytes : g.bytes = headTotalLen + g.length.val
  held : g.caller = true ∨ g.closure ≠ none
  armed : g.closure ≠ none → g.disarmed = false

/-- The invariant. -/
structure Sound (s : Session) : Prop where
  frames : s.pendingFrames = s.sendQue.length + guardFrames s.guards
  bytes : s.pendingBytes = queueBytes s.sendQue + guardBytes s.guards
  frames_le : s.pendingFrames ≤ maxSendQueFrames
  bytes_le : s.pendingBytes ≤ maxSendQueBytes
  clamped : s.clamped = false
  guards : ∀ g ∈ s.guards, Ok g
  tasks : s.inflightTaskBytes = s.tokens.sum
  tasks_le : s.inflightTaskBytes ≤ maxSessionInflightTaskBytes

variable {s : Session} {i : Nat} {g g' : Guard}

/-- A sum over a list in which one element is replaced, or taken out. -/
theorem sum_map_eraseIdx {α : Type} (f : α → Nat) {l : List α} {i : Nat} {a : α}
    (h : l[i]? = some a) : ((l.eraseIdx i).map f).sum + f a = (l.map f).sum := by
  obtain ⟨hi, rfl⟩ := List.getElem?_eq_some_iff.mp h
  rw [← ((List.getElem_cons_eraseIdx_perm hi).map f).sum_eq, List.map_cons, List.sum_cons,
    Nat.add_comm]

theorem sum_map_set {α : Type} (f : α → Nat) {l : List α} {i : Nat} {a : α} (h : l[i]? = some a)
    (b : α) : ((l.set i b).map f).sum + f a = (l.map f).sum + f b := by
  have hrest := sum_map_eraseIdx f h
  obtain ⟨hi, rfl⟩ := List.getElem?_eq_some_iff.mp h
  rw [((List.set_perm_cons_eraseIdx hi b).map f).sum_eq, List.map_cons, List.sum_cons]
  omega

/-- The counters, apart from the rest. -/
structure Counts (s : Session) (frames bytes : Nat) : Prop where
  frames : s.pendingFrames = frames
  bytes : s.pendingBytes = bytes
  clamped : s.clamped = false

/-- **A release** of what is counted takes no defensive branch. -/
theorem Counts.release {f b n : Nat} (h : Counts s (f + 1) (b + n)) :
    Counts (s.releaseSendBudget n) f b where
  frames := by
    show (if 0 < s.pendingFrames then s.pendingFrames - 1 else s.pendingFrames) = f
    rw [h.frames]
    rfl
  bytes := by
    show (if n ≤ s.pendingBytes then s.pendingBytes - n else 0) = b
    rw [h.bytes, if_pos (Nat.le_add_left n b), Nat.add_sub_cancel]
  clamped := by
    show (s.clamped || decide (s.pendingFrames = 0) || decide (s.pendingBytes < n)) = false
    rw [h.clamped, h.frames, h.bytes, decide_eq_false (Nat.succ_ne_zero f),
      decide_eq_false (Nat.not_lt.mpr (Nat.le_add_left n b))]
    rfl

/-- The other fields. -/
def Apart (s s' : Session) : Prop :=
  s'.sendQue = s.sendQue ∧ s'.guards = s.guards ∧ s'.inflightTaskBytes = s.inflightTaskBytes ∧
    s'.tokens = s.tokens

/-- The loop of `ClearSendQueueLocked`. -/
theorem Counts.clear {f b : Nat} {q : List Node} (h : Counts s (q.length + f) (queueBytes q + b)) :
    Counts (q.foldl (fun s n => s.releaseSendBudget n.size) s) f b ∧
      Apart s (q.foldl (fun s n => s.releaseSendBudget n.size) s) := by
  induction q generalizing s with
  | nil =>
    refine ⟨⟨?_, ?_, h.clamped⟩, rfl, rfl, rfl, rfl⟩
    · exact h.frames.trans (Nat.zero_add f)
    · exact h.bytes.trans (Nat.zero_add b)
  | cons n q ih =>
    have hhead : Counts s (q.length + f + 1) (queueBytes q + b + n.size) := by
      refine ⟨h.frames.trans ?_, h.bytes.trans ?_, h.clamped⟩
      · rw [List.length_cons]
        omega
      · rw [queueBytes, List.map_cons, List.sum_cons, queueBytes]
        omega
    obtain ⟨hcounts, hsend, hguards, hinflight, htokens⟩ := ih hhead.release
    exact ⟨hcounts, hsend, hguards, hinflight, htokens⟩

theorem Sound.counts (h : Sound s) :
    Counts s (s.sendQue.length + guardFrames s.guards)
      (queueBytes s.sendQue + guardBytes s.guards) := ⟨h.frames, h.bytes, h.clamped⟩

/-- The queue of a sound state is cleared. -/
theorem clearSendQueueLocked_sound (h : Sound s) : Sound s.clearSendQueueLocked := by
  obtain ⟨hcounts, -, hguards, hinflight, htokens⟩ := h.counts.clear
  have hframes := h.frames
  have hbytes := h.bytes
  have hfl := h.frames_le
  have hbl := h.bytes_le
  have hf := hcounts.frames
  have hb := hcounts.bytes
  refine ⟨?_, ?_, ?_, ?_, hcounts.clamped, ?_, ?_, ?_⟩
  · show _ = 0 + guardFrames (List.foldl _ s s.sendQue).guards
    rw [hguards, Nat.zero_add]
    exact hf
  · show _ = 0 + guardBytes (List.foldl _ s s.sendQue).guards
    rw [hguards, Nat.zero_add]
    exact hb
  · show (List.foldl _ s s.sendQue).pendingFrames ≤ _
    omega
  · show (List.foldl _ s s.sendQue).pendingBytes ≤ _
    omega
  · show ∀ g ∈ (List.foldl _ s s.sendQue).guards, Ok g
    rw [hguards]
    exact h.guards
  · show (List.foldl _ s s.sendQue).inflightTaskBytes = (List.foldl _ s s.sendQue).tokens.sum
    rw [hinflight, htokens]
    exact h.tasks
  · show (List.foldl _ s s.sendQue).inflightTaskBytes ≤ _
    rw [hinflight]
    exact h.tasks_le

theorem close_sound (h : Sound s) : Sound s.close := { h with frames := h.frames }

/-- **The holders of a guard change**: if the counters fit the guard as it is now, they
still do, also where it is destroyed. -/
theorem setGuard_sound (hget : s.guards[i]? = some g)
    (hframes : s.pendingFrames + frames g = s.sendQue.length + guardFrames s.guards + frames g')
    (hbytes : s.pendingBytes + held g = queueBytes s.sendQue + guardBytes s.guards + held g')
    (hfl : s.pendingFrames ≤ maxSendQueFrames) (hbl : s.pendingBytes ≤ maxSendQueBytes)
    (hclamped : s.clamped = false) (hok : ∀ g ∈ s.guards, Ok g)
    (hsize : g'.bytes = headTotalLen + g'.length.val)
    (harmed : g'.closure ≠ none → g'.disarmed = false)
    (htasks : s.inflightTaskBytes = s.tokens.sum)
    (htl : s.inflightTaskBytes ≤ maxSessionInflightTaskBytes) : Sound (s.setGuard i g') := by
  unfold setGuard
  split
  · have hef : guardFrames (s.guards.eraseIdx i) + frames g = guardFrames s.guards :=
      sum_map_eraseIdx frames hget
    have heb : guardBytes (s.guards.eraseIdx i) + held g = guardBytes s.guards :=
      sum_map_eraseIdx held hget
    have hok' : ∀ g ∈ s.guards.eraseIdx i, Ok g := fun g hg => hok g (List.mem_of_mem_eraseIdx hg)
    unfold dropGuard
    dsimp only
    split
    · next hdis =>
      have hf : frames g' = 0 := if_pos hdis
      have hb : held g' = 0 := if_pos hdis
      refine ⟨?_, ?_, hfl, hbl, hclamped, hok', htasks, htl⟩
      · show s.pendingFrames = s.sendQue.length + guardFrames (s.guards.eraseIdx i)
        omega
      · show s.pendingBytes = queueBytes s.sendQue + guardBytes (s.guards.eraseIdx i)
        omega
    · next hdis =>
      have hf : frames g' = 1 := if_neg hdis
      have hb : held g' = g'.bytes := if_neg hdis
      have hcounts : Counts { s with guards := s.guards.eraseIdx i }
          (s.sendQue.length + guardFrames (s.guards.eraseIdx i) + 1)
          (queueBytes s.sendQue + guardBytes (s.guards.eraseIdx i) + g'.bytes) := by
        refine ⟨?_, ?_, hclamped⟩
        · show s.pendingFrames = _
          omega
        · show s.pendingBytes = _
          omega
      obtain ⟨hrf, hrb, hrc⟩ := hcounts.release
      exact ⟨hrf, hrb, by omega, by omega, hrc, hok', htasks, htl⟩
  · next hheld =>
    have hsf : guardFrames (s.guards.set i g') + frames g = guardFrames s.guards + frames g' :=
      sum_map_set frames hget g'
    have hsb : guardBytes (s.guards.set i g') + held g = guardBytes s.guards + held g' :=
      sum_map_set held hget g'
    refine ⟨?_, ?_, hfl, hbl, hclamped, fun g₁ hg₁ => ?_, htasks, htl⟩
    · show s.pendingFrames = s.sendQue.length + guardFrames (s.guards.set i g')
      omega
    · show s.pendingBytes = queueBytes s.sendQue + guardBytes (s.guards.set i g')
      omega
    · rcases List.mem_or_eq_of_mem_set hg₁ with hmem | rfl
      · exact hok g₁ hmem
      · refine ⟨hsize, ?_, harmed⟩
        by_cases hcaller : g₁.caller = true
        · exact .inl hcaller
        · exact .inr fun hnone => hheld ⟨Bool.eq_false_iff.mpr hcaller, hnone⟩

/-- A change of the holders alone. -/
theorem setGuard_keep (h : Sound s) (hget : s.guards[i]? = some g) (hbytes : g'.bytes = g.bytes)
    (hlength : g'.length = g.length) (hdisarmed : g'.disarmed = g.disarmed)
    (harmed : g'.closure ≠ none → g'.disarmed = false) : Sound (s.setGuard i g') := by
  have hf : frames g' = frames g := by rw [frames, frames, hdisarmed]
  have hb : held g' = held g := by rw [held, held, hdisarmed, hbytes]
  refine setGuard_sound hget ?_ ?_ h.frames_le h.bytes_le h.clamped h.guards ?_ harmed h.tasks
    h.tasks_le
  · rw [hf, h.frames]
  · rw [hb, h.bytes]
  · rw [hbytes, hlength]
    exact (h.guards g (List.mem_of_getElem? hget)).bytes

theorem leave_sound (h : Sound s) (hget : s.guards[i]? = some g) : Sound (s.leave i g) :=
  setGuard_keep h hget rfl rfl rfl fun hne => absurd rfl hne

/-- The length of a node that was reserved for is what was reserved. -/
theorem size_new {length : Length} (h : headTotalLen + length.val ≤ maxSendQueBytes) :
    (Node.new length).size = headTotalLen + length.val := by
  have hle : length.val ≤ 67108858 := by
    unfold headTotalLen maxSendQueBytes at h
    omega
  have hint : Json.toInt32 length.val = length.val := Json.toInt32_of_lt (by omega)
  have hsum : (length.val : Int) + (headTotalLen : Nat) =
      ((headTotalLen + length.val : Nat) : Int) := by
    omega
  have hlt : headTotalLen + length.val < 2 ^ 31 := by
    unfold headTotalLen
    omega
  rw [Node.size, Node.new]
  dsimp only
  rw [hint, hsum, Json.toInt32_of_lt hlt, Wire.sizeT_of_nonneg (by omega) (by omega),
    Int.toNat_natCast]

/-- **A push** hands the reservation over to the queue. -/
theorem push_sound (h : Sound s) (hget : s.guards[i]? = some g) (hclosure : g.closure ≠ none) :
    Sound (s.push i g) := by
  have hok := h.guards g (List.mem_of_getElem? hget)
  have hdis := hok.armed hclosure
  have hf : frames g = 1 := if_neg (by rw [hdis]; exact Bool.false_ne_true)
  have hb : held g = g.bytes := if_neg (by rw [hdis]; exact Bool.false_ne_true)
  have hle : headTotalLen + g.length.val ≤ maxSendQueBytes := by
    have hsum : guardBytes (s.guards.eraseIdx i) + held g = guardBytes s.guards :=
      sum_map_eraseIdx held hget
    have hbytes := h.bytes
    have hbl := h.bytes_le
    have hsize := hok.bytes
    omega
  have hbytes : queueBytes (s.sendQue ++ [Node.new g.length]) =
      queueBytes s.sendQue + g.bytes := by
    rw [queueBytes, List.map_append, List.sum_append, List.map_singleton, List.sum_singleton,
      size_new hle, hok.bytes, queueBytes]
  refine setGuard_sound (g := g) hget ?_ ?_ h.frames_le h.bytes_le h.clamped h.guards hok.bytes
    (fun hne => absurd rfl hne) h.tasks h.tasks_le
  · have hf' : frames { g with disarmed := true, closure := none } = 0 := rfl
    rw [hf', hf, List.length_append, List.length_singleton, h.frames]
    dsimp only
    omega
  · have hb' : held { g with disarmed := true, closure := none } = 0 := rfl
    rw [hb', hb, hbytes, h.bytes]
    dsimp only
    omega

/-! ### Steps -/

section

variable (h : Sound s)

include h

/-- **A call** reserves what its guard holds. -/
theorem send_sound (kind : Kind) (length : Length) : Sound (s.send kind length) := by
  have hbl := h.bytes_le
  have hmod : (s.pendingBytes + (headTotalLen + length.val)) % 2 ^ 64 =
      s.pendingBytes + (headTotalLen + length.val) := by
    unfold maxSendQueBytes at hbl
    unfold headTotalLen
    omega
  unfold send tryReserveSendBudget
  rw [hmod]
  split_ifs with hfull
  · exact close_sound h
  · obtain ⟨hfl, hfits⟩ := not_or.mp hfull
    refine ⟨?_, ?_, Nat.not_le.mp hfl, Nat.not_lt.mp hfits, h.clamped, fun g hg => ?_, h.tasks,
      h.tasks_le⟩
    · rw [guardFrames, List.map_append, List.sum_append, List.map_singleton, List.sum_singleton,
        h.frames, guardFrames]
      exact Nat.add_assoc _ _ _
    · rw [guardBytes, List.map_append, List.sum_append, List.map_singleton, List.sum_singleton,
        h.bytes, guardBytes]
      exact Nat.add_assoc _ _ _
    · rcases List.mem_append.mp hg with hg | hg
      · exact h.guards g hg
      · rw [List.mem_singleton.mp hg]
        exact ⟨rfl, .inl rfl, fun _ => rfl⟩

/-- One part of the closure of `Send`: it goes on, queues its frame or gives it up. -/
theorem runSend_sound (hget : s.guards[i]? = some g) {stage : Stage}
    (hclosure : g.closure = some stage) : Sound (s.runSend i g stage) := by
  have hne : g.closure ≠ none := by rw [hclosure]; exact nofun
  unfold runSend
  split
  · split
    · exact leave_sound h hget
    · exact setGuard_keep h hget rfl rfl rfl fun _ =>
        (h.guards g (List.mem_of_getElem? hget)).armed hne
  · split
    · exact leave_sound h hget
    · exact push_sound h hget hne

theorem runSendAndClose_sound (hget : s.guards[i]? = some g) (hclosure : g.closure ≠ none) :
    Sound (s.runSendAndClose i g) := by
  unfold runSendAndClose
  split_ifs
  · exact leave_sound (close_sound h) hget
  · exact leave_sound h hget
  · have hdraining : Sound { s with lifecycle := .draining } := { h with frames := h.frames }
    exact push_sound hdraining hget hclosure

theorem execute_sound (i : Nat) : Sound (s.execute i) := by
  unfold execute
  split
  · exact h
  · next g hget =>
    split
    · exact h
    · next stage _ hclosure => exact runSend_sound h hget hclosure
    · next stage _ hclosure =>
      exact runSendAndClose_sound h hget (by rw [hclosure]; exact nofun)

theorem destroy_sound (i : Nat) : Sound (s.destroy i) := by
  unfold destroy
  split
  · next g hget =>
    split
    · exact leave_sound h hget
    · exact h
  · exact h

theorem callReturns_sound (i : Nat) : Sound (s.callReturns i) := by
  unfold callReturns
  split
  · next g hget =>
    exact setGuard_keep h hget rfl rfl rfl (h.guards g (List.mem_of_getElem? hget)).armed
  · exact h

/-- The frame that was written leaves the queue with its share of the counters. -/
theorem popFront_sound : Sound s.popFront := by
  unfold popFront
  split
  · exact h
  · next n rest hque =>
    have hframes := h.frames
    have hbytes := h.bytes
    have hfl := h.frames_le
    have hbl := h.bytes_le
    -- the counters cover the rest of the queue, the guards and this frame
    have hcounts : Counts s (rest.length + guardFrames s.guards + 1)
        (queueBytes rest + guardBytes s.guards + n.size) := by
      refine ⟨?_, ?_, h.clamped⟩
      · rw [hque, List.length_cons] at hframes
        omega
      · rw [hque, queueBytes, List.map_cons, List.sum_cons, ← queueBytes] at hbytes
        omega
    obtain ⟨hf, hb, hc⟩ := hcounts.release
    have hf₀ := hcounts.frames
    have hb₀ := hcounts.bytes
    have hfl' : (s.releaseSendBudget n.size).pendingFrames ≤ maxSendQueFrames := by omega
    have hbl' : (s.releaseSendBudget n.size).pendingBytes ≤ maxSendQueBytes := by omega
    exact ⟨hf, hb, hfl', hbl', hc, h.guards, h.tasks, h.tasks_le⟩

theorem writes_sound (n : Nat) : Sound { s with writes := n } :=
  { h with frames := h.frames }

theorem nextWrite_sound : Sound s.nextWrite := by
  unfold nextWrite
  split_ifs
  · exact close_sound h
  · exact h
  · exact writes_sound h _

theorem handleWrite_sound (outcome : Outcome) : Sound (s.handleWrite outcome) := by
  cases outcome with
  | success => exact nextWrite_sound (popFront_sound h)
  | error => exact close_sound (clearSendQueueLocked_sound h)
  | thrown started =>
    refine close_sound (clearSendQueueLocked_sound ?_)
    cases started with
    | true => exact writes_sound (popFront_sound h) _
    | false => exact popFront_sound h

theorem complete_sound (outcome : Outcome) : Sound (s.complete outcome) := by
  unfold complete
  split
  · exact h
  · exact handleWrite_sound (writes_sound h _) outcome

/-- A change of the tokens alone. -/
theorem tokens_sound {tokens : List Nat} {n : Nat} (acquiring : List Acquire)
    (hsum : n = tokens.sum) (hle : n ≤ maxSessionInflightTaskBytes) :
    Sound { s with inflightTaskBytes := n, tokens := tokens, acquiring := acquiring } :=
  ⟨h.frames, h.bytes, h.frames_le, h.bytes_le, h.clamped, h.guards, hsum, hle⟩

theorem acquire_sound (bytes : Nat) : Sound (s.acquire bytes) := by
  unfold acquire
  split
  · refine tokens_sound h s.acquiring ?_ h.tasks_le
    rw [List.sum_append, h.tasks]
    rfl
  · exact { h with frames := h.frames }

/-- **One turn of the loop**: the exchange succeeds on the value that was checked. -/
theorem tryAcquire_sound (i : Nat) (spurious : Bool) : Sound (s.tryAcquire i spurious) := by
  unfold tryAcquire
  split
  · exact h
  · next a hget =>
    split_ifs with hfull hcas
    · exact { h with frames := h.frames }
    · have hmax : maxSessionInflightTaskBytes = 8388608 := rfl
      have hmod : (a.current + a.bytes) % 2 ^ 64 = a.current + a.bytes :=
        Nat.mod_eq_of_lt (by omega)
      rw [hmod]
      refine tokens_sound h _ ?_ (by omega)
      rw [List.sum_append, List.sum_singleton, ← h.tasks, hcas.1]
    · exact { h with frames := h.frames }

theorem releaseToken_sound (i : Nat) : Sound (s.releaseToken i) := by
  unfold releaseToken
  split
  · exact h
  · next bytes hget =>
    have hsum : (s.tokens.eraseIdx i).sum + bytes = s.tokens.sum := by
      have := sum_map_eraseIdx id hget
      rwa [List.map_id, List.map_id] at this
    have hle := h.tasks_le
    have htasks := h.tasks
    have hmax : maxSessionInflightTaskBytes = 8388608 := rfl
    have hsub : Wire.sizeT ((s.inflightTaskBytes : Int) - bytes) = (s.tokens.eraseIdx i).sum := by
      rw [Wire.sizeT_of_nonneg (by omega) (by omega)]
      omega
    exact tokens_sound h _ hsub (by omega)

/-- **One step** keeps the balance. -/
theorem step_sound (e : Event) : Sound (s.step e) := by
  cases e with
  | send kind length => exact send_sound h kind length
  | callReturns i => exact callReturns_sound h i
  | execute i => exact execute_sound h i
  | destroy i => exact destroy_sound h i
  | complete outcome => exact complete_sound h outcome
  | close => exact close_sound h
  | closeSocket =>
    show Sound s.closeSocket
    unfold closeSocket
    split
    · exact { h with frames := h.frames }
    · exact h
  | acquire bytes => exact acquire_sound h bytes
  | tryAcquire i spurious => exact tryAcquire_sound h i spurious
  | releaseToken i => exact releaseToken_sound h i

/-- **A whole run** keeps the balance. -/
theorem run_sound (es : List Event) : Sound (s.run es) := by
  induction es generalizing s with
  | nil => exact h
  | cons e es ih => exact ih (step_sound h e)

end

theorem new_sound : Sound {} :=
  ⟨rfl, rfl, Nat.zero_le _, Nat.zero_le _, rfl, nofun, rfl, Nat.zero_le _⟩

end Session

/-- A session after some events. -/
def session (es : List Event) : Session := Session.run {} es

/-- **The budgets of a session.**  After any events the two counters are what the queue and
the armed guards hold, within their limits; no defensive branch was taken; with the queue
empty, and every call returned and every closure gone, both are zero; and the task bytes
are those of the live tokens, within their limit. -/
theorem budget_balanced (es : List Event) :
    (session es).pendingFrames =
        (session es).sendQue.length + Session.guardFrames (session es).guards ∧
      (session es).pendingBytes =
        Session.queueBytes (session es).sendQue + Session.guardBytes (session es).guards ∧
      (session es).pendingFrames ≤ maxSendQueFrames ∧
      (session es).pendingBytes ≤ maxSendQueBytes ∧
      (session es).clamped = false ∧
      ((session es).sendQue = [] →
        (∀ g ∈ (session es).guards, g.caller = false ∧ g.closure = none) →
        (session es).pendingFrames = 0 ∧ (session es).pendingBytes = 0) ∧
      (session es).inflightTaskBytes = (session es).tokens.sum ∧
      (session es).inflightTaskBytes ≤ maxSessionInflightTaskBytes := by
  have h : Session.Sound (session es) := Session.run_sound Session.new_sound es
  refine ⟨h.frames, h.bytes, h.frames_le, h.bytes_le, h.clamped, fun hque hgone => ?_, h.tasks,
    h.tasks_le⟩
  -- a guard that nobody holds has been destroyed
  have hnil : (session es).guards = [] := by
    refine List.eq_nil_iff_forall_not_mem.mpr fun g hg => ?_
    obtain ⟨hcaller, hclosure⟩ := hgone g hg
    rcases (h.guards g hg).held with hheld | hheld
    · rw [hcaller] at hheld
      cases hheld
    · exact hheld hclosure
  have hframes := h.frames
  have hbytes := h.bytes
  rw [hque, hnil] at hframes hbytes
  exact ⟨hframes, hbytes⟩

end LlfcChat.Resource.Budget
