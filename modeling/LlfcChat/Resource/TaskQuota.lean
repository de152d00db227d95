/-
The token of a request.

`CSession::AsyncReadBody` takes a `SessionTaskQuota` for the bytes of a frame and moves it
into the `LogicNode`.  `task_callback` passes a copy to the handler, which moves it into
the task it posts or lets it go when it returns.  The node is destroyed once its handler
has returned, the task once a worker has run it, in whichever order; the last one to let
go of the token returns the bytes to the account of the connection.

The account is the one of `SendBudget`.  Who holds a token is read off the objects that
exist, and the invariant says that the tokens alive are those that somebody holds.
-/
import LlfcChat.Lib.ConcPaths
import LlfcChat.Resource.LogicWorker
import LlfcChat.Resource.SendBudget

namespace LlfcChat.Resource

/-- A task in the queue or the hands of a worker, and the token it holds. -/
structure Posted where
  task : WorkerTask
  quota : Quota

/-- The requests of a connection that are on their way. -/
structure Chain where
  /-- `_inflight_task_bytes` and what belongs to it. -/
  account : Budget.Session := {}
  /-- The tokens that exist, in the order of `account.tokens`. -/
  live : List Quota := []
  /-- The number of the next token. -/
  next : Nat := 0
  /-- The queue of the logic worker. -/
  queue : List LogicNode := []
  /-- The nodes whose handler has returned and that still exist. -/
  done : List LogicNode := []
  tasks : List Posted := []

namespace Chain

/-- The copies of tokens that exist. -/
def holders (s : Chain) : List Quota :=
  s.queue.map (·.quota) ++ (s.done.map (·.quota) ++ s.tasks.map (·.quota))

/-- A copy of a token has been destroyed: the destructor runs if it was the last one. -/
def drop (s : Chain) (quota : Quota) : Chain :=
  if quota ∈ s.holders then s
  else { s with
    account := s.account.releaseToken (s.live.idxOf quota), live := s.live.erase quota }

/-- `AsyncReadBody` once a request has been read: without a token the connection is
closed.  The exchange of `TryAcquireTaskBytes` succeeds at its first turn; `SendBudget` has
the others. -/
def receive (s : Chain) (session : Nat) (req : ResourceReq) (body : List UInt8) : Chain :=
  if s.account.lifecycle ≠ .opened then s
  else
    let bytes := Budget.headTotalLen + body.length
    let account := (s.account.acquire bytes).tryAcquire s.account.acquiring.length false
    if account.tokens = s.account.tokens then { s with account := account.close }
    else { s with
      account
      live := s.live ++ [⟨s.next, bytes⟩]
      next := s.next + 1
      queue := s.queue ++ [⟨session, req, body, ⟨s.next, bytes⟩⟩] }

/-- The logic worker takes a node out of its queue and calls `task_callback`.  What the
handler does not pass on ends with its parameter. -/
def handle (s : Chain) (parse : List UInt8 → Json) (client : Client) : Chain :=
  match s.queue with
  | [] => s
  | node :: queue =>
    let s := { s with queue, done := s.done ++ [node] }
    match taskCallback parse client node with
    | .dropped => s
    | .replied _ => s.drop node.quota
    | .posted task quota => { s with tasks := s.tasks ++ [⟨task, quota⟩] }

/-- The closure of the logic worker is destroyed, and its node with it. -/
def destroyNode (s : Chain) (i : Nat) : Chain :=
  match s.done[i]? with
  | none => s
  | some node => { s with done := s.done.eraseIdx i }.drop node.quota

/-- The closure of a worker is destroyed, and its task with it. -/
def destroyTask (s : Chain) (i : Nat) : Chain :=
  match s.tasks[i]? with
  | none => s
  | some p => { s with tasks := s.tasks.eraseIdx i }.drop p.quota

/-- What may happen next.  A worker destroys a task when its program has come to its end;
the connection may be closed, or log in, at any time. -/
inductive Moves (parse : List UInt8 → Json) (session : Nat) (s : Chain) : Chain → Prop
  | receive (req : ResourceReq) (body : List UInt8) :
      Moves parse session s (s.receive session req body)
  | handle (client : Client) : Moves parse session s (s.handle parse client)
  | destroyNode (i : Nat) : Moves parse session s (s.destroyNode i)
  | destroyTask {i : Nat} {p : Posted} {a b : Local p.task.thread}
      {tr : List ((op : Op) × Res op)} (hi : s.tasks[i]? = some p)
      (hrun : (p.task.program a).Path tr b) : Moves parse session s (s.destroyTask i)
  | close : Moves parse session s { s with account := s.account.close }

/-- The account is in balance and knows the tokens that exist. -/
structure Books (s : Chain) : Prop where
  sound : s.account.Sound
  tokens : s.account.tokens = s.live.map (·.bytes)
  nodup : s.live.Nodup
  fresh : ∀ q ∈ s.live, q.number < s.next

/-- The tokens that exist are those that somebody holds, and no two nodes in the queue
share one. -/
structure Kept (s : Chain) : Prop extends Books s where
  held : ∀ q, q ∈ s.live ↔ q ∈ s.holders
  queue : (s.queue.map (·.quota)).Nodup

theorem Kept.initial : Kept {} :=
  ⟨⟨Budget.Session.new_sound, rfl, .nil, nofun⟩, fun _ => Iff.rfl, .nil⟩

variable {s s' : Chain} {q quota : Quota}

/-- **A copy is destroyed**: what was alive is what is still held, and the token. -/
theorem Books.drop (h : Books s) (hheld : ∀ q, q ∈ s.live ↔ q ∈ s.holders ∨ q = quota)
    (hqueue : (s.queue.map (·.quota)).Nodup) : Kept (s.drop quota) := by
  unfold Chain.drop
  split
  next hin =>
    refine ⟨h, fun q => (hheld q).trans ⟨?_, .inl⟩, hqueue⟩
    rintro (hq | rfl)
    · exact hq
    · exact hin
  next hout =>
    have hlive : quota ∈ s.live := (hheld quota).mpr (.inr rfl)
    have hi : s.live.idxOf quota < s.live.length := List.idxOf_lt_length_iff.mpr hlive
    have htoken : s.account.tokens[s.live.idxOf quota]? = some quota.bytes := by
      rw [h.tokens, List.getElem?_map, List.getElem?_eq_getElem hi, List.getElem_idxOf]
      rfl
    have htokens : (s.account.releaseToken (s.live.idxOf quota)).tokens =
        (s.live.erase quota).map (·.bytes) := by
      rw [Budget.Session.releaseToken, htoken, h.tokens]
      show ((s.live.map (·.bytes)).eraseIdx _) = _
      rw [List.erase_eq_eraseIdx_of_idxOf rfl, List.eraseIdx_map]
    refine ⟨⟨Budget.Session.releaseToken_sound h.sound _, htokens, h.nodup.erase _,
      fun q hq => h.fresh q (List.mem_of_mem_erase hq)⟩, fun q => ?_, hqueue⟩
    show q ∈ s.live.erase quota ↔ q ∈ s.holders
    rw [h.nodup.mem_erase_iff, hheld q]
    constructor
    · rintro ⟨hne, hq | hq⟩
      · exact hq
      · exact absurd hq hne
    · exact fun hq => ⟨fun he => hout (he ▸ hq), .inl hq⟩

/-- A token for a frame: the bytes of the frame are counted, or nothing is. -/
theorem acquire_cases {a : Budget.Session} (h : a.Sound) {bytes : Nat} (hbytes : bytes ≠ 0) :
    let a' := (a.acquire bytes).tryAcquire a.acquiring.length false
    a'.Sound ∧ (a'.tokens = a.tokens ∨ a'.tokens = a.tokens ++ [bytes]) := by
  refine ⟨Budget.Session.tryAcquire_sound (Budget.Session.acquire_sound h _) _ _, ?_⟩
  rw [Budget.Session.acquire, if_neg hbytes, Budget.Session.tryAcquire]
  split
  · exact .inl rfl
  next b hb =>
    have hb' : b.bytes = bytes := by
      simp only [List.getElem?_concat_length, Option.some.injEq] at hb
      rw [← hb]
    split_ifs
    · exact .inl rfl
    · exact .inr (hb' ▸ rfl)
    · exact .inl rfl

theorem Kept.receive (h : Kept s) (session : Nat) (req : ResourceReq) (body : List UInt8) :
    Kept (s.receive session req body) := by
  unfold Chain.receive
  split
  · exact h
  have hbytes : Budget.headTotalLen + body.length ≠ 0 := by
    rw [Budget.headTotalLen]
    omega
  obtain ⟨hsound, htokens⟩ := acquire_cases h.sound hbytes
  dsimp only
  split
  next hnone =>
    exact ⟨⟨Budget.Session.close_sound hsound, hnone.trans h.tokens, h.nodup, h.fresh⟩,
      h.held, h.queue⟩
  next hsome =>
    have hnew : ∀ q ∈ s.live, q ≠ ⟨s.next, Budget.headTotalLen + body.length⟩ := by
      rintro q hq rfl
      exact lt_irrefl _ (h.fresh _ hq)
    refine ⟨⟨hsound, ?_, ?_, ?_⟩, fun q => ?_, ?_⟩
    · rw [htokens.resolve_left hsome, h.tokens, List.map_append]
      rfl
    · rw [← List.concat_eq_append]
      exact h.nodup.concat fun hq => hnew _ hq rfl
    · intro q hq
      rcases List.mem_append.mp hq with hq | hq
      · exact Nat.lt_succ_of_lt (h.fresh q hq)
      · rw [List.mem_singleton.mp hq]
        exact Nat.lt_succ_self _
    · have := h.held q
      simp only [holders, List.map_append, List.map_cons, List.map_nil, List.mem_append,
        List.mem_singleton] at this ⊢
      tauto
    · rw [List.map_append, List.map_singleton, ← List.concat_eq_append]
      refine h.queue.concat fun hq => hnew _ ((h.held _).mpr ?_) rfl
      exact List.mem_append_left _ hq

/-- A posted task has the token of its node. -/
theorem taskCallback_quota {parse : List UInt8 → Json} {client : Client} {node : LogicNode}
    {task : WorkerTask} (h : taskCallback parse client node = .posted task quota) :
    quota = node.quota := by
  unfold taskCallback at h
  split_ifs at h
  obtain ⟨session, req, body, token⟩ := node
  -- Every handler posts on one of its branches, with the token it was given.
  cases req with
  | chunkUpload => grind [ResourceReq.handle, handleResourceChunkUpload, ResourceReq.reject]
  | uploadProgress => grind [ResourceReq.handle, handleUploadProgressReq, ResourceReq.reject]
  | downInfo => grind [ResourceReq.handle, handleDownInfoReq, ResourceReq.reject]
  | chunkDown => grind [ResourceReq.handle, handleChunkDownReq, ResourceReq.reject]
  | instantProof => grind [ResourceReq.handle, handleInstantProofReq, ResourceReq.reject]

theorem Kept.handle (h : Kept s) (parse : List UInt8 → Json) (client : Client) :
    Kept (s.handle parse client) := by
  unfold Chain.handle
  split
  · exact h
  next node queue hqueue =>
    have hnodup := h.queue
    rw [hqueue, List.map_cons, List.nodup_cons] at hnodup
    -- The node has only changed its place.
    have hheld : ∀ q, q ∈ s.live ↔
        q ∈ holders { s with queue, done := s.done ++ [node] } := fun q => by
      rw [h.held q, holders, holders, hqueue]
      simp only [List.map_append, List.map_cons, List.map_nil, List.mem_append, List.mem_cons]
      tauto
    have hnode : node.quota ∈ holders { s with queue, done := s.done ++ [node] } := by
      simp [holders]
    dsimp only
    split
    · exact ⟨{ h.toBooks with }, hheld, hnodup.2⟩
    · refine Books.drop { h.toBooks with } (fun q => (hheld q).trans ⟨.inl, ?_⟩) hnodup.2
      rintro (hq | rfl)
      · exact hq
      · exact hnode
    next task quota hposted =>
      obtain rfl := taskCallback_quota hposted
      refine ⟨{ h.toBooks with }, fun q => (hheld q).trans ?_, hnodup.2⟩
      simp only [holders, List.map_append, List.map_cons, List.map_nil, List.mem_append,
        List.mem_singleton]
      tauto

/-- An element leaves a list. -/
theorem mem_map_eraseIdx {α : Type} {f : α → Quota} {l : List α} {i : Nat} {a : α}
    (h : l[i]? = some a) : q ∈ l.map f ↔ q ∈ (l.eraseIdx i).map f ∨ q = f a := by
  obtain ⟨hi, rfl⟩ := List.getElem?_eq_some_iff.mp h
  rw [← ((List.getElem_cons_eraseIdx_perm hi).map f).mem_iff, List.map_cons, List.mem_cons,
    or_comm]

theorem Kept.destroyNode (h : Kept s) (i : Nat) : Kept (s.destroyNode i) := by
  unfold Chain.destroyNode
  split
  · exact h
  next node hi =>
    refine Books.drop { h.toBooks with } (fun q => (h.held q).trans ?_) h.queue
    have := mem_map_eraseIdx (q := q) (f := LogicNode.quota) hi
    simp only [holders, List.mem_append, this]
    tauto

theorem Kept.destroyTask (h : Kept s) (i : Nat) : Kept (s.destroyTask i) := by
  unfold Chain.destroyTask
  split
  · exact h
  next p hi =>
    refine Books.drop { h.toBooks with } (fun q => (h.held q).trans ?_) h.queue
    have := mem_map_eraseIdx (q := q) (f := Posted.quota) hi
    simp only [holders, List.mem_append, this]
    tauto

variable {parse : List UInt8 → Json} {session : Nat}

/-- **One step** keeps the invariant. -/
theorem Kept.step (h : Kept s) (hs : Moves parse session s s') : Kept s' := by
  cases hs with
  | receive req body => exact h.receive session req body
  | handle client => exact h.handle parse client
  | destroyNode i => exact h.destroyNode i
  | destroyTask hi _ => exact h.destroyTask _
  | close => exact ⟨{ h.toBooks with sound := Budget.Session.close_sound h.sound }, h.held, h.queue⟩

/-- The token was given out, and its node is not in the queue. -/
def Left (quota : Quota) (s : Chain) : Prop :=
  quota.number < s.next ∧ quota ∉ s.queue.map (·.quota)

theorem drop_tokens (s : Chain) (quota : Quota) :
    (s.drop quota).next = s.next ∧ (s.drop quota).queue = s.queue ∧
      ∀ q ∈ (s.drop quota).live, q ∈ s.live := by
  unfold Chain.drop
  split
  · exact ⟨rfl, rfl, fun _ => id⟩
  · exact ⟨rfl, rfl, fun _ => List.mem_of_mem_erase⟩

/-- What a step can do with the queue and the tokens that exist. -/
theorem Moves.tokens (hs : Moves parse session s s') :
    s.next ≤ s'.next ∧
      (∀ q ∈ s'.queue.map (·.quota), q ∈ s.queue.map (·.quota) ∨ q.number = s.next) ∧
      ∀ q ∈ s'.live, q ∈ s.live ∨ q.number = s.next := by
  cases hs with
  | receive req body =>
    unfold Chain.receive
    split
    · exact ⟨le_rfl, fun _ => .inl, fun _ => .inl⟩
    dsimp only
    split
    · exact ⟨le_rfl, fun _ => .inl, fun _ => .inl⟩
    · refine ⟨Nat.le_succ _, fun q hq => ?_, fun q hq => ?_⟩
      · rw [List.map_append] at hq
        exact (List.mem_append.mp hq).imp_right fun h => congrArg Quota.number
          (List.mem_singleton.mp h)
      · exact (List.mem_append.mp hq).imp_right fun h => congrArg Quota.number
          (List.mem_singleton.mp h)
  | handle client =>
    unfold Chain.handle
    split
    · exact ⟨le_rfl, fun _ => .inl, fun _ => .inl⟩
    next node queue hqueue =>
      have hsub : ∀ q ∈ queue.map (·.quota), q ∈ s.queue.map (·.quota) := fun q hq => by
        rw [hqueue]
        exact List.mem_cons_of_mem _ hq
      dsimp only
      split
      · exact ⟨le_rfl, fun q hq => .inl (hsub q hq), fun _ => .inl⟩
      · obtain ⟨h1, h2, h3⟩ := drop_tokens { s with queue, done := s.done ++ [node] } node.quota
        exact ⟨h1.ge, fun q hq => .inl (hsub q (by rwa [h2] at hq)), fun q hq => .inl (h3 q hq)⟩
      · exact ⟨le_rfl, fun q hq => .inl (hsub q hq), fun _ => .inl⟩
  | destroyNode i =>
    unfold Chain.destroyNode
    split
    · exact ⟨le_rfl, fun _ => .inl, fun _ => .inl⟩
    next node _ =>
      obtain ⟨h1, h2, h3⟩ := drop_tokens { s with done := s.done.eraseIdx i } node.quota
      exact ⟨h1.ge, fun q hq => .inl (h2 ▸ hq), fun q hq => .inl (h3 q hq)⟩
  | @destroyTask i p a b tr hi _ =>
    rw [Chain.destroyTask, hi]
    obtain ⟨h1, h2, h3⟩ := drop_tokens { s with tasks := s.tasks.eraseIdx i } p.quota
    exact ⟨h1.ge, fun q hq => .inl (h2 ▸ hq), fun q hq => .inl (h3 q hq)⟩
  | close => exact ⟨le_rfl, fun _ => .inl, fun _ => .inl⟩

theorem Left.step (h : Left quota s) (hs : Moves parse session s s') : Left quota s' := by
  obtain ⟨hnext, hqueue, _⟩ := hs.tokens
  refine ⟨h.1.trans_le hnext, fun hq => ?_⟩
  rcases hqueue _ hq with hq | hq
  · exact h.2 hq
  · exact absurd hq h.1.ne

end Chain

end LlfcChat.Resource
