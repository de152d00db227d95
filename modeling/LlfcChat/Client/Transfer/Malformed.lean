/-
Malformed replies to chunks.

The engine counts the malformed replies to an upload and gives it up at a limit.
But a reply without an `error` field has no offset either: it matches no chunk,
and the upload asks for its state again without counting.  And a reply that
reports error 2001 is counted, but the query that follows it starts the count
anew.  So such a reply ends the upload if and only if it reports 2001 for the
chunk at the head of the window and the count, with it, has reached the limit.
In a run in which all replies are of this kind the count before a reply is zero
(`Counted`): the limit is reached by the first reply or never, and with a limit
above one the cycle of query, chunk and bad reply has no end.
-/
import LlfcChat.Client.Transfer.Counted
import LlfcChat.Client.Transfer.Final

namespace LlfcChat.Transfer

variable {cfg : Config} {env : Env} {sha256Hex : List UInt8 → String} {s : Engine} {t t' : Runtime}

/-- The upload of this number has failed. -/
def Failed (t : Runtime) (s : Engine) : Prop :=
  ∃ x ∈ s.uploads, x.serial = t.serial ∧ x.phase = .failed

/-- The reply is taken for the chunk at the head of the window. -/
def AtHead (t : Runtime) (offset : Int) : Prop :=
  t.inflight.head?.map (·.offset) = some offset ∧ t.staleOffsets.head? ≠ some offset ∧ 0 ≤ offset

@[simp] theorem finished_put (s : Engine) (t : Runtime) : (s.put t).finished = s.finished := by
  unfold Engine.put
  cases t.direction <;> rfl

theorem finished_beginQuery (env : Env) (t : Runtime) (s : Engine) :
    (beginQuery env t s).finished = s.finished := by
  unfold beginQuery
  split
  · exact finished_put s _
  · simp only
    split
    · exact finished_put s _
    · exact finished_put s _

/-- Where no end is signalled, an upload that had not ended has not failed. -/
theorem not_failed {s' : Engine} (h : Ended s) (h' : Ended s') (ht : At t s)
    (hsame : s'.finished = s.finished) : ¬Failed t s' := by
  rintro ⟨x, hx, hserial, hphase⟩
  have hmem : x.serial ∈ s'.finished := by
    refine (h'.ended .upload x hx).mp ?_
    rw [hphase]
    rfl
  rw [hsame, hserial] at hmem
  exact ht.not_finished h hmem

theorem failTransfer_failed (hb : Base s) (ht : At t s) (hk : Key t t')
    (hdir : t.direction = .upload) (code : Int) (text : String) :
    Failed t (failTransfer cfg env t' code text s) := by
  let x : Runtime :=
    { t'.closeFiles with phase := .failed, errorCode := code, errorText := text }
  have hmem : x ∈ (s.finish x).mapFor x.direction := by
    rw [mapFor_finish]
    exact ht.mem_put_self hk.messageId hk.direction
  have hmoves : Moves cfg {} (s.finish x) (failTransfer cfg env t' code text s) :=
    promoteWaiting_moves trivial t'.direction (hb.finish x)
  have hstays := hmoves.keeps_ended (hb.finish x) hmem rfl
  have hup : x.direction = .upload := hk.direction.trans hdir
  rw [hup] at hstays
  exact ⟨x, hstays, hk.serial, rfl⟩

/-! ### One reply -/

/-- A reply that is not for the head of the window ends nothing. -/
theorem finished_offWindow (hfind : s.findActive .upload t.messageId = some t)
    {rsp : ChunkUploadRsp} (hid : rsp.messageId = t.messageId) (hoff : ¬AtHead t rsp.offset) :
    (handleChunkUploadRsp cfg env rsp s).finished = s.finished := by
  unfold handleChunkUploadRsp
  rw [hid, hfind]
  simp only
  split
  · rfl
  split
  · exact finished_put s _
  rename_i hstale
  split
  · split
    · rfl
    · exact finished_beginQuery _ _ _
  · rename_i hwindow
    rw [not_or, not_not, Int.not_lt] at hwindow
    exact absurd ⟨hwindow.2, hstale, hwindow.1⟩ hoff

/-- A reply with error 2001 for the head of the window is counted. -/
theorem handleChunkUploadRsp_2001 (hfind : s.findActive .upload t.messageId = some t)
    {rsp : ChunkUploadRsp} (hid : rsp.messageId = t.messageId) (hok : rsp.ok = true)
    (herror : rsp.error = 2001) (hhead : AtHead t rsp.offset) :
    ∃ fallback, handleChunkUploadRsp cfg env rsp s =
      badReply cfg env { t with inflight := t.inflight.tail } "repeated malformed response"
        (rollbackUploadTo · fallback) s := by
  have hwindow : t.inflight ≠ [] := by
    intro hempty
    have hnone := hhead.1
    rw [hempty] at hnone
    cases hnone
  refine ⟨if 0 ≤ rsp.serverOffset then rsp.serverOffset else t.ackedBytes, ?_⟩
  unfold handleChunkUploadRsp
  rw [hid, hfind]
  simp only
  rw [if_neg fun hc => hwindow hc.2.1, if_neg hhead.2.1,
    if_neg fun hc => hc.elim (Int.not_lt.mpr hhead.2.2) (fun hne => hne hhead.1), hok, herror,
    if_neg Bool.noConfusion, if_pos (by decide), handleUploadError_2001]

theorem failed_iff {f : Fields} (h : Ended s)
    (h' : Ended (handleChunkUploadRsp cfg env (decodeChunkUploadRsp f) s))
    (hfind : s.findActive .upload t.messageId = some t) (hbad : Malformed f)
    (hid : (decodeChunkUploadRsp f).messageId = t.messageId) :
    Failed t (handleChunkUploadRsp cfg env (decodeChunkUploadRsp f) s) ↔
      f.error = some 2001 ∧ AtHead t (decodeChunkUploadRsp f).offset ∧
        cfg.jsonErrorLimit ≤ t.jsonErrorCount + 1 := by
  obtain ⟨ht, hdir, -⟩ := findActive_at h.serials.base hfind
  by_cases hhead : AtHead t (decodeChunkUploadRsp f).offset
  · rcases hbad with hmissing | h2001
    · -- a reply without an error has no offset
      have hoffset := hhead.2.2
      rw [decode_missing hmissing] at hoffset
      exact absurd hoffset (show ¬(0 : Int) ≤ -1 by decide)
    obtain ⟨hok, herror⟩ := decode_2001 h2001
    obtain ⟨fallback, heq⟩ := handleChunkUploadRsp_2001 hfind hid hok herror hhead
    rw [heq] at h' ⊢
    unfold badReply at h' ⊢
    simp only at h' ⊢
    split at h'
    · rename_i hlimit
      rw [if_pos hlimit]
      refine iff_of_true ?_ ⟨h2001, hhead, hlimit⟩
      exact failTransfer_failed h.serials.base ht (by exact .refl t) hdir _ _
    · rename_i hlimit
      rw [if_neg hlimit]
      exact iff_of_false (not_failed h h' ht (finished_put s _)) fun hc => hlimit hc.2.2
  · refine iff_of_false (not_failed h h' ht ?_) fun hc => hhead hc.2.1
    exact finished_offWindow hfind hid hhead

/-! ### Runs -/

/-- In every run a malformed reply to a chunk ends the upload if and only if it reports 2001 for
the head of the window and the count has reached the limit with it. -/
theorem malformed_fails_iff (cfg : Config) (sha256Hex : List UInt8 → String)
    (es : List (Env × Event)) (t : Runtime) (env : Env) (f : Fields)
    (hfind : (run cfg sha256Hex {} es).findActive .upload t.messageId = some t)
    (hid : (decodeChunkUploadRsp f).messageId = t.messageId) (hbad : Malformed f) :
    Failed t (run cfg sha256Hex {} (es ++ [(env, .chunkUploadRsp f)])) ↔
      f.error = some 2001 ∧ AtHead t (decodeChunkUploadRsp f).offset ∧
        cfg.jsonErrorLimit ≤ t.jsonErrorCount + 1 := by
  have hstep : run cfg sha256Hex {} (es ++ [(env, .chunkUploadRsp f)]) =
      handleChunkUploadRsp cfg env (decodeChunkUploadRsp f) (run cfg sha256Hex {} es) :=
    List.foldl_append
  have h' := ended_run cfg sha256Hex (es ++ [(env, .chunkUploadRsp f)])
  rw [hstep] at h' ⊢
  exact failed_iff (ended_run cfg sha256Hex es) h' hfind hbad hid

/-- A message none of whose uploads is running. -/
theorem counted_of_none {m : Int} (hb : Base s) (hnone : s.findActive .upload m = none) :
    Counted m s where
  base := hb
  proper dir x hx hm hlive := by
    obtain rfl : dir = .upload := (hb.placed dir x hx).symm.trans hm.1
    have hfind : s.find .upload m = some x := hm.2 ▸ find_of_mem hb hx
    rw [Engine.findActive, hfind] at hnone
    simp [hlive] at hnone

/-- A reply for the message in a run `es ++ es'`, after `es` and the events `pre` of `es'`, that
finds the upload `t` running. -/
structure Meets (cfg : Config) (sha256Hex : List UInt8 → String) (m : Int)
    (es es' pre : List (Env × Event)) (reply : Env × Fields) (t : Runtime) : Prop where
  next : pre ++ [(reply.1, .chunkUploadRsp reply.2)] <+: es'
  messageId : reply.2.messageId = m
  running : (run cfg sha256Hex {} (es ++ pre)).findActive .upload m = some t

/-- The event is a reply to a chunk of the message. -/
def Event.replies (m : Int) : Event → Bool
  | .chunkUploadRsp f => f.messageId = m
  | _ => false

/-- **The bound.**  Take any run, a message none of whose uploads is running, and events in which
all replies to its chunks are malformed, all its queries are answered by a 1508 that asks for the
bytes, and the user neither pauses nor cancels it.  A reply then ends the upload if and only if
it reports 2001 for the head of the window and the limit is at most one.  And the upload fails at
one of the first `jsonErrorLimit` replies if and only if the limit is one and the first reply is
of that kind. -/
theorem malformed_bound_iff (cfg : Config) (sha256Hex : List UInt8 → String) (m : Int)
    (es es' : List (Env × Event))
    (hnew : (run cfg sha256Hex {} es).findActive .upload m = none)
    (hspoils : ∀ e ∈ es', e.2.Spoils m) :
    (∀ pre reply t, Meets cfg sha256Hex m es es' pre reply t →
      (Failed t (run cfg sha256Hex {} (es ++ pre ++ [(reply.1, .chunkUploadRsp reply.2)])) ↔
        cfg.jsonErrorLimit ≤ 1 ∧ reply.2.error = some 2001 ∧
          AtHead t (decodeChunkUploadRsp reply.2).offset)) ∧
      ((∃ pre reply t, Meets cfg sha256Hex m es es' pre reply t ∧
          pre.countP (·.2.replies m) < cfg.jsonErrorLimit ∧
          Failed t (run cfg sha256Hex {} (es ++ pre ++ [(reply.1, .chunkUploadRsp reply.2)]))) ↔
        cfg.jsonErrorLimit = 1 ∧ ∃ pre reply t, Meets cfg sha256Hex m es es' pre reply t ∧
          pre.countP (·.2.replies m) = 0 ∧ reply.2.error = some 2001 ∧
          AtHead t (decodeChunkUploadRsp reply.2).offset) := by
  have hone : ∀ pre reply t, Meets cfg sha256Hex m es es' pre reply t →
      (Failed t (run cfg sha256Hex {} (es ++ pre ++ [(reply.1, .chunkUploadRsp reply.2)])) ↔
        cfg.jsonErrorLimit ≤ 1 ∧ reply.2.error = some 2001 ∧
          AtHead t (decodeChunkUploadRsp reply.2).offset) := by
    rintro pre ⟨env, f⟩ t ⟨hnext, hid, hrunning⟩
    have hsub := hnext.sublist.subset
    have hcounted : Counted m (run cfg sha256Hex {} (es ++ pre)) := by
      rw [run, List.foldl_append]
      exact (counted_of_none (ended_run cfg sha256Hex es).serials.base hnew).run fun e he =>
        hspoils e (hsub (List.mem_append_left _ he))
    obtain ⟨ht, hdir, htid⟩ := findActive_at hcounted.base hrunning
    have hbad : Malformed f :=
      hspoils _ (hsub (List.mem_append_right _ (List.mem_singleton_self _))) hid
    rw [malformed_fails_iff cfg sha256Hex (es ++ pre) t env f (htid.symm ▸ hrunning)
      (by rw [decodeChunkUploadRsp_messageId, htid, hid]) hbad]
    -- A chunk is on its way, so nothing has been counted.
    have hzero : AtHead t (decodeChunkUploadRsp f).offset → t.jsonErrorCount = 0 := fun hhead => by
      refine (hcounted.proper _ t ht.1 ⟨hdir, htid⟩ ht.2).count.resolve_right fun hc => ?_
      have hsome := hhead.1
      rw [hc.1] at hsome
      cases hsome
    constructor
    · rintro ⟨herror, hhead, hlimit⟩
      rw [hzero hhead] at hlimit
      exact ⟨hlimit, herror, hhead⟩
    · rintro ⟨hlimit, herror, hhead⟩
      exact ⟨herror, hhead, by rw [hzero hhead]; exact hlimit⟩
  refine ⟨hone, ?_, ?_⟩
  · rintro ⟨pre, reply, t, hmeets, hcount, hfailed⟩
    obtain ⟨hlimit, herror, hhead⟩ := (hone pre reply t hmeets).mp hfailed
    exact ⟨by omega, pre, reply, t, hmeets, by omega, herror, hhead⟩
  · rintro ⟨hlimit, pre, reply, t, hmeets, hcount, herror, hhead⟩
    exact ⟨pre, reply, t, hmeets, by omega,
      (hone pre reply t hmeets).mpr ⟨hlimit.le, herror, hhead⟩⟩

/-- The upload of message 1 up to its chunk. -/
def chunkSent : List (Env × Event) :=
  [(tenBytes, .connectionAuthenticated),
    (tenBytes, .startUpload { messageId := 1, filePath := "a", fileSizeBytes := 10 }),
    (tenBytes, .progressRsp nothingThere)]

/-- The server could not read the chunk. -/
def unreadable : Fields := { messageId := 1, error := some 2001, offset := some 0 }

/-- With a limit of one, the first such reply ends the upload. -/
theorem malformed_bound_unreadable :
    ∃ pre reply t, Meets { jsonErrorLimit := 1 } (fun _ => "") 1 []
        (chunkSent ++ [(tenBytes, .chunkUploadRsp unreadable)]) pre reply t ∧
      pre.countP (·.2.replies 1) < 1 ∧
      Failed t (run { jsonErrorLimit := 1 } (fun _ => "") {}
        ([] ++ pre ++ [(reply.1, .chunkUploadRsp reply.2)])) := by
  have hfacts : ((run { jsonErrorLimit := 1 } (fun _ => "") {} chunkSent).findActive .upload 1).map
      (fun t => (t.inflight.head?.map (·.offset), t.staleOffsets)) = some (some 0, []) := by
    decide +kernel
  obtain ⟨t, hfind, heq⟩ := Option.map_eq_some_iff.mp hfacts
  obtain ⟨hhead, hstale⟩ := Prod.mk.inj heq
  have hasks : AsksForBytes nothingThere := by constructor <;> decide
  have hspoils : ∀ e ∈ chunkSent ++ [(tenBytes, .chunkUploadRsp unreadable)], e.2.Spoils 1 := by
    intro e he
    simp only [chunkSent, List.cons_append, List.nil_append, List.mem_cons, List.not_mem_nil,
      or_false] at he
    rcases he with rfl | rfl | rfl | rfl
    · trivial
    · trivial
    · exact fun _ => hasks
    · exact fun _ => .inr rfl
  refine (malformed_bound_iff { jsonErrorLimit := 1 } (fun _ => "") 1 []
    (chunkSent ++ [(tenBytes, .chunkUploadRsp unreadable)]) rfl hspoils).2.mpr
    ⟨rfl, chunkSent, (tenBytes, unreadable), t, ⟨List.prefix_rfl, rfl, hfind⟩, by decide, rfl,
      hhead, ?_, by decide⟩
  rw [hstale]
  exact nofun

/-- The file of message 1, in the given second. -/
def atSecond (n : Nat) : Env := { tenBytes with now := 1000 * n + 1 }

/-- Four replies without an error, and the replies to the queries after them. -/
def withoutError : List (Env × Event) :=
  [(atSecond 0, .chunkUploadRsp { messageId := 1 }), (atSecond 0, .progressRsp nothingThere),
    (atSecond 0, .chunkUploadRsp { messageId := 1 }), (atSecond 0, .progressRsp nothingThere),
    (atSecond 0, .chunkUploadRsp { messageId := 1 }), (atSecond 0, .progressRsp nothingThere),
    (atSecond 0, .chunkUploadRsp { messageId := 1 }), (atSecond 0, .progressRsp nothingThere)]

/-- Four replies with error 2001, and the waits and the replies to the queries after them. -/
def withError2001 : List (Env × Event) :=
  [(atSecond 0, .chunkUploadRsp unreadable), (atSecond 40, .tick),
    (atSecond 40, .progressRsp nothingThere),
    (atSecond 40, .chunkUploadRsp unreadable), (atSecond 80, .tick),
    (atSecond 80, .progressRsp nothingThere),
    (atSecond 80, .chunkUploadRsp unreadable), (atSecond 120, .tick),
    (atSecond 120, .progressRsp nothingThere),
    (atSecond 120, .chunkUploadRsp unreadable), (atSecond 160, .tick),
    (atSecond 160, .progressRsp nothingThere)]

/-- After either the upload, whose limit is three, has sent its chunk again and counts from zero. -/
theorem malformed_cycles :
    ({} : Config).jsonErrorLimit = 3 ∧
      (run {} (fun _ => "") {} (chunkSent ++ withoutError)).uploads.map
        (fun t => (t.phase, t.jsonErrorCount, t.inflight.length)) = [(.active, 0, 1)] ∧
      (run {} (fun _ => "") {} (chunkSent ++ withError2001)).uploads.map
        (fun t => (t.phase, t.jsonErrorCount, t.inflight.length)) = [(.active, 0, 1)] := by
  decide +kernel

end LlfcChat.Transfer
