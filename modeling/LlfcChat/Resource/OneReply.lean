/-
Every resource request gets exactly one reply.

The log of a task has three kinds of lines: the mutex is taken, it is given back, a
reply is handed to a connection.  On every path through a handler the log is one reply,
alone or around the critical section (`Answered`), and the reply names the message and,
where the protocol asks for it, the offset of the request.  Nothing but the mutex can
keep a task waiting, and no task asks for it twice; so a task that finds it free runs to
its end.
-/
import LlfcChat.Resource.Steps
import LlfcChat.Resource.TaskQuota

namespace LlfcChat.Resource.OneReply

open Conc.Prog hiding pure bind

/-! ### The log of a task -/

inductive Line
  | lock
  | unlock
  | send (session : Nat) (reply : Reply)
  deriving DecidableEq

/-- The line of a call. -/
def line : Op → Option Line
  | .lock => some .lock
  | .unlock => some .unlock
  | .send session reply => some (.send session reply)
  | _ => none

/-- The results that a call can have while the connection is open: a digest is a digest
or empty. -/
def Open (session : Nat) : (op : Op) → Res op → Prop
  | .isOpen s, r => s = session → r = true
  | .sha256Hex _, r => r = "" ∨ isValidSha256Hex r = true
  | _, _ => True

/-- The replies in a log. -/
def replies (log : List Line) : List (Nat × Reply) :=
  log.filterMap fun
    | .send session reply => some (session, reply)
    | _ => none

/-- One reply, sent without the mutex, inside or behind the critical section. -/
def Answered (session : Nat) (F : Reply → Prop) (log : List Line) : Prop :=
  ∃ reply, F reply ∧ (log = [.send session reply] ∨ log = [.lock, .send session reply, .unlock] ∨
    log = [.lock, .unlock, .send session reply])

/-- One reply and nothing else. -/
def Replied (session : Nat) (F : Reply → Prop) (log : List Line) : Prop :=
  ∃ reply, F reply ∧ log = [.send session reply]

variable {m o : Int} {log : List Line} {reply : Reply}

theorem Replied.answered {session : Nat} {F : Reply → Prop} (h : Replied session F log) :
    Answered session F log := by
  obtain ⟨reply, hF, hlog⟩ := h
  exact ⟨reply, hF, .inl hlog⟩

/-- What a program says while the connection is open. -/
abbrev Says {α : Type} (session : Nat) (p : Prog α) (Q : α → List Line → Prop) : Prop :=
  Conc.Prog.Says line (Open session) p Q

variable {session : Nat} {F : Reply → Prop}

abbrev Replies (session : Nat) (F : Reply → Prop) {α : Type} (p : Prog α) : Prop :=
  Says session p fun _ => Replied session F

abbrev Answers (session : Nat) (F : Reply → Prop) {α : Type} (p : Prog α) : Prop :=
  Says session p fun _ => Answered session F

theorem Replies.answers {α : Type} {p : Prog α} (h : Replies session F p) : Answers session F p :=
  h.mono fun _ _ => Replied.answered

/-- A 1506 for the task. -/
def ChunkTask.Fits (task : ChunkTask) (reply : Reply) : Prop :=
  reply.msgType = idResourceChunkUploadRsp ∧ reply.messageId = task.messageId ∧
    reply.offset = some (toLongLong task.offset)

section Chunk

variable (task : ChunkTask)

end Chunk

/-! ### 1507 -/

/-- A 1508 for the task. -/
def ProgressTask.Fits (task : ProgressTask) (reply : Reply) : Prop :=
  reply.msgType = idResourceUploadProgressRsp ∧ reply.messageId = task.messageId

section Progress

variable (task : ProgressTask)

end Progress

/-! ### 1513 -/

/-- A 1514 for the task. -/
def ProofTask.Fits (task : ProofTask) (reply : Reply) : Prop :=
  reply.msgType = idResourceInstantProofRsp ∧ reply.messageId = task.messageId

section Proof

variable (task : ProofTask)

end Proof

/-! ### 1509 and 1511 -/

/-- A 1510 for the task. -/
def DownInfoTask.Fits (task : DownInfoTask) (reply : Reply) : Prop :=
  reply.msgType = idResourceDownInfoRsp ∧ reply.messageId = task.messageId

/-- A 1512 for the task, with the members that bound its length. -/
def ChunkDownTask.Fits (task : ChunkDownTask) (reply : Reply) : Prop :=
  ∃ error raw hash isLast total, raw.length ≤ resourceUploadChunkSize ∧
    (hash = "" ∨ isValidSha256Hex hash = true) ∧
    reply =
      { msgType := idResourceChunkDownRsp
        error := error
        messageId := task.messageId
        offset := some (Int.bmod task.offset (2 ^ 64))
        bytes := some raw.length
        chunkSha256 := if hash = "" then none else some hash
        totalSize := some total
        isLast := some isLast
        raw := raw }

theorem ChunkDownTask.Fits.names {task : ChunkDownTask} (h : ChunkDownTask.Fits task reply) :
    reply.msgType = idResourceChunkDownRsp ∧ reply.messageId = task.messageId ∧
      reply.offset = some (Int.bmod task.offset (2 ^ 64)) := by
  obtain ⟨_, _, _, _, _, _, _, rfl⟩ := h
  exact ⟨rfl, rfl, rfl⟩

/-- The mutex is taken only when it is free. -/
def Bracketed : Bool → List Line → Prop
  | _, [] => True
  | held, .lock :: log => held = false ∧ Bracketed true log
  | _, .unlock :: log => Bracketed false log
  | held, .send .. :: log => Bracketed held log

theorem Answered.replies (h : Answered session F log) :
    ∃ reply, F reply ∧ replies log = [(session, reply)] := by
  obtain ⟨reply, hF, rfl | rfl | rfl⟩ := h <;> exact ⟨reply, hF, rfl⟩

variable {sha : List UInt8 → String} {t : Thread}

/-- A result that a call can have in a state in which the connection is open. -/
def Possible (sha : List UInt8 → String) (t : Thread) (session : Nat)
    (x : (op : Op) × Res op) : Prop :=
  ∃ c w w', exec sha t x.1 c w = some (x.2, w') ∧ (w.clients session).isOpen = true

theorem Possible.open (hsha : ∀ data, isValidSha256Hex (sha data) = true)
    {x : (op : Op) × Res op} (h : Possible sha t session x) : Open session x.1 x.2 := by
  obtain ⟨op, r⟩ := x
  obtain ⟨c, w, w', he, hopen⟩ := h
  cases op with
  | isOpen s =>
    rintro rfl
    simp only [exec, Option.some.injEq, Prod.mk.injEq] at he
    exact he.1 ▸ hopen
  | sha256Hex data =>
    simp only [exec, Option.some.injEq, Prod.mk.injEq] at he
    show r = "" ∨ isValidSha256Hex r = true
    rw [← he.1]
    split
    · exact .inl rfl
    · exact .inr (hsha data)
  | _ => trivial

theorem members_keys (table : List (String × Option Json)) :
    ((table.filterMap fun m => m.2.map fun v => (m.1, v)).map (·.1)).Sublist
      (table.map (·.1)) := by
  induction table with
  | nil => exact List.Sublist.refl _
  | cons m table ih =>
    obtain ⟨k, v⟩ := m
    cases v with
    | none => exact ih.cons k
    | some v => exact ih.cons_cons k

theorem nodup_members (r : Reply) : (r.members.map (·.1)).Nodup := by
  refine (members_keys r.table).nodup ?_
  show ["error", "message_id", "status", "offset", "server_offset", "event_seq",
    "file_size_bytes", "sha256", "chunk_size", "mode", "challenge", "original_file_name",
    "mime_type", "message_type", "bytes", "chunk_sha256", "total_size", "is_last"].Nodup
  decide

theorem length_decimal_le (n : Nat) : (toString (n % 2 ^ 64)).toList.length ≤ 20 := by
  have hlist : (toString (n % 2 ^ 64)).toList = Nat.toDigits 10 (n % 2 ^ 64) :=
    String.toList_ofList
  rw [hlist]
  exact (Nat.length_toDigits_le_iff (by decide) (by decide)).mpr (by omega)

theorem length_le_utf8ByteSize (s : String) : s.toList.length ≤ s.utf8ByteSize := by
  have hsize := Json.utf8ByteSize_ofList_eq_sum s.toList
  rw [String.ofList_toList] at hsize
  rw [hsize, ← List.length_map Char.utf8Size]
  exact List.length_le_sum_of_one_le _ (List.forall_mem_map.mpr fun c _ => c.utf8Size_pos)

/-- A text of at most `n` characters in a member with a key of at most 12. -/
theorem fieldBytes_str_le (key : String) {s : String} {n : Nat} (hk : key.toList.length ≤ 12)
    (hs : s.toList.length ≤ n) :
    Json.fieldBytes key (Json.bytesAt false 4 (.str s)) ≤ 78 + 6 * n := by
  have hkey := Json.textBytes_le key
  have htext := Json.textBytes_le s
  rw [Json.fieldBytes, Json.bytesAt_str]
  omega

/-- The members of a 1512. -/
def chunkDownMembers (error : ErrorCode) (m offset : Int) (bytes total : Nat) (hash : String)
    (isLast : Bool) : List (String × Json) :=
  [("error", .int error.toInt), ("message_id", .str (toString m)),
    ("offset", .str (toString offset)), ("bytes", decimal bytes)] ++
  (if hash = "" then [] else [("chunk_sha256", .str hash)]) ++
  [("total_size", decimal total), ("is_last", .bool isLast)]

/-- They are far below the limit. -/
theorem chunkDownMembers_le (error : ErrorCode) (offset : Int) (bytes total : Nat) {hash : String}
    (isLast : Bool) (hm : -2 ^ 63 ≤ m ∧ m < 2 ^ 63) (ho : -2 ^ 63 ≤ offset ∧ offset < 2 ^ 63)
    (hhash : hash.toList.length ≤ 64) :
    ((chunkDownMembers error m offset bytes total hash isLast).map fun x =>
      Json.fieldBytes x.1 (Json.bytesAt false 4 x.2)).sum ≤ 1500 := by
  have herror : Json.fieldBytes "error" (Json.bytesAt false 4 (.int error.toInt)) ≤ 158 := by
    have hlen := Json.length_toString_le (i := error.toInt) (by cases error <;> decide)
      (by cases error <;> decide)
    have hsize := Json.utf8ByteSize_le (toString error.toInt)
    have hkey := Json.textBytes_le "error"
    have hkl : ("error" : String).toList.length = 5 := rfl
    rw [Json.fieldBytes, Json.bytesAt_int]
    omega
  have hlast : Json.fieldBytes "is_last" (Json.bytesAt false 4 (.bool isLast)) ≤ 78 := by
    have hkey := Json.textBytes_le "is_last"
    have hkl : ("is_last" : String).toList.length = 7 := rfl
    rw [Json.fieldBytes, Json.bytesAt_bool]
    split <;> omega
  have hid := fieldBytes_str_le "message_id" (by decide)
    (Json.length_toString_le hm.1 hm.2)
  have hoffset := fieldBytes_str_le "offset" (by decide)
    (Json.length_toString_le ho.1 ho.2)
  have hbytes := fieldBytes_str_le "bytes" (by decide) (length_decimal_le bytes)
  have htotal := fieldBytes_str_le "total_size" (by decide) (length_decimal_le total)
  have hsha := fieldBytes_str_le "chunk_sha256" (by decide) hhash
  unfold chunkDownMembers
  split
  · simp only [List.append_nil, List.cons_append, List.nil_append, List.map_cons, List.map_nil,
      List.sum_cons, List.sum_nil, decimal]
    omega
  · simp only [List.cons_append, List.nil_append, List.map_cons, List.map_nil, List.sum_cons,
      List.sum_nil, decimal]
    omega

theorem ChunkDownTask.Fits.length_le {task : ChunkDownTask} (h : ChunkDownTask.Fits task reply)
    (hm : -2 ^ 63 ≤ task.messageId ∧ task.messageId < 2 ^ 63) :
    reply.raw.length ≤ resourceUploadChunkSize ∧
      (Wire.utf8 reply.document.dump).length ≤ maxMetaLen := by
  have hperm := (Json.update_nil_perm (nodup_members reply)).2
  obtain ⟨error, raw, hash, isLast, total, hraw, hhash, hreply⟩ := h
  have hmembers : reply.members = chunkDownMembers error task.messageId
      (Int.bmod task.offset (2 ^ 64)) raw.length total hash isLast := by
    rw [hreply]
    unfold chunkDownMembers
    by_cases hempty : hash = ""
    · rw [if_pos hempty, if_pos hempty]
      rfl
    · rw [if_neg hempty, if_neg hempty]
      rfl
  refine ⟨by rw [hreply]; exact hraw, ?_⟩
  have hbmod := Int.le_bmod (x := (task.offset : Int)) (m := 2 ^ 64) (by decide)
  have hbmod' := Int.bmod_lt (x := (task.offset : Int)) (m := 2 ^ 64) (by decide)
  have hchars : hash.toList.length ≤ 64 := by
    rcases hhash with rfl | hv
    · exact Nat.zero_le _
    · unfold isValidSha256Hex at hv
      rw [Bool.and_eq_true, beq_iff_eq] at hv
      exact (length_le_utf8ByteSize hash).trans hv.1.le
  have hsum := chunkDownMembers_le error (Int.bmod task.offset (2 ^ 64)) raw.length total isLast hm
    ⟨by omega, by omega⟩ hchars
  have hsize : Json.bytesAt false 0 (.obj (Json.update [] reply.members)) =
      1 + (reply.members.map fun x => Json.fieldBytes x.1 (Json.bytesAt false 4 x.2)).sum :=
    Json.bytesAt_compact hperm (by rw [hmembers]; exact fun h => nomatch h)
  have hlimit : 1501 ≤ maxMetaLen := by decide
  rw [hmembers] at hsize
  rw [Wire.length_utf8]
  refine le_trans (le_of_eq (Eq.trans ?_ hsize)) (by omega)
  rw [← hmembers]
  rfl

/-! ### Requests -/

end LlfcChat.Resource.OneReply
