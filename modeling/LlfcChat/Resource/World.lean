/-
What the threads of ResourceServer share, and the operations they do on it.

The programs of `UploadFile.lean`, `FileWorker.lean` and `Cleanup.lean` are
written in the operations of this module.  An operation is atomic.  Which of
its possible ends a call takes is a `Choice` of the environment: a file system
call may fail, a write that fails leaves some bytes behind, a digest may not be
available, a transaction meets the faults of `Lib/Txn.lean`.

Directories are not modelled; whether one exists and can be flushed to disk is
an answer of the file system, as are the times of files and the listing of a
tree.  That leaves the server with more possible runs, never with fewer.
-/
import LlfcChat.Db.System
import LlfcChat.Lib.Conc
import LlfcChat.Lib.FileSystem

namespace LlfcChat.Resource

open FileSystem

/-! ### Names of files -/

/-- The parts of a path below the resource root. -/
abbrev Path := List String

def resourceUploadingPartPath (messageId : Int) : Path :=
  ["uploading", toString messageId ++ ".part"]

def resourceBlobPath (sha256 : String) : Path :=
  ["blobs", String.ofList (sha256.toList.take 2), sha256]

theorem partPath_inj {m m' : Int} :
    resourceUploadingPartPath m = resourceUploadingPartPath m' ↔ m = m' := by
  constructor
  · intro h
    simp only [resourceUploadingPartPath, List.cons.injEq, String.append_left_inj, and_true,
      true_and] at h
    exact Int.repr_injective h
  · exact fun h => h ▸ rfl

theorem blobPath_inj {h h' : String} : resourceBlobPath h = resourceBlobPath h' ↔ h = h' := by
  constructor
  · intro e
    simp only [resourceBlobPath, List.cons.injEq, and_true] at e
    exact e.2.2
  · exact fun e => e ▸ rfl

theorem partPath_ne_blobPath (m : Int) (h : String) :
    resourceUploadingPartPath m ≠ resourceBlobPath h := by
  intro e
  simp [resourceUploadingPartPath, resourceBlobPath] at e

theorem blobPath_ne_partPath (h : String) (m : Int) :
    resourceBlobPath h ≠ resourceUploadingPartPath m := (partPath_ne_blobPath m h).symm

/-! ### Numbers -/

/-- The members of `ErrorCodes` that the upload and download handlers use. -/
inductive ErrorCode
  | success | rpcFailed | fileNotExists | createFilePathFailed | fileWritePermissionFailed
  | fileOffsetInvalid | fileReadFailed | msgIdErr | fileHashMismatch | fileSizeExceeded
  | resourceNotReady | resourceForbidden | resourceStateInvalid | fileContentMismatch
  | instantProofInvalid
  deriving DecidableEq

def ErrorCode.toInt : ErrorCode → Int
  | .success => 0
  | .rpcFailed => 2002
  | .fileNotExists => 2101
  | .createFilePathFailed => 2103
  | .fileWritePermissionFailed => 2104
  | .fileOffsetInvalid => 2107
  | .fileReadFailed => 2108
  | .msgIdErr => 2111
  | .fileHashMismatch => 2112
  | .fileSizeExceeded => 2113
  | .resourceNotReady => 2114
  | .resourceForbidden => 2115
  | .resourceStateInvalid => 2116
  | .fileContentMismatch => 2117
  | .instantProofInvalid => 2118

/-- `ID_RESOURCE_CHUNK_UPLOAD_RSP` and its siblings. -/
def idResourceChunkUploadRsp : Int := 1506
def idResourceUploadProgressRsp : Int := 1508
def idResourceDownInfoRsp : Int := 1510
def idResourceChunkDownRsp : Int := 1512
def idResourceInstantProofRsp : Int := 1514

/-- `FILE_WORKER_COUNT`, `DOWN_LOAD_WORKER_COUNT`. -/
def fileWorkerCount : Nat := 4
def downLoadWorkerCount : Nat := 4

/-- `kResourceUploadChunkSize`. -/
def resourceUploadChunkSize : Nat := 256 * 1024

/-- `ResourceWorkerIndex`: the id is converted to an unsigned number first. -/
def resourceWorkerIndex (messageId : Int) (workerCount : Nat) : Nat :=
  (messageId % 2 ^ 64).toNat % workerCount

/-! ### Answers -/

/-- The challenge of a 1508: nonce in hexadecimal, offset, length. -/
structure ChallengeRsp where
  nonce : String
  offset : Nat
  length : Nat
  deriving DecidableEq

/-- A reply by the members of its JSON object; `none` is a member that is not
set.  `raw` is the binary part of a 1512. -/
structure Reply where
  msgType : Int
  error : ErrorCode
  messageId : Int
  status : Option Int := none
  offset : Option Int := none
  serverOffset : Option Nat := none
  eventSeq : Option Nat := none
  fileSizeBytes : Option Nat := none
  sha256 : Option String := none
  chunkSize : Option Nat := none
  mode : Option String := none
  challenge : Option ChallengeRsp := none
  fileName : Option String := none
  mimeType : Option String := none
  messageType : Option Int := none
  bytes : Option Nat := none
  chunkSha256 : Option String := none
  totalSize : Option Nat := none
  isLast : Option Bool := none
  raw : List UInt8 := []
  deriving DecidableEq

/-- What `UserMessageNotifier::Post` is given. -/
structure Notification where
  messageId : Int
  messageType : Int
  recipientUserId : Int
  deriving DecidableEq

/-- `MysqlDao::ChatMsgLookup` with its out-parameter. -/
inductive ChatMsgLookup
  | found (msg : ChatMessage)
  | notFound
  | transient
  deriving DecidableEq

/-- The type in `boost::filesystem::status`. -/
inductive FileStatus
  | found | notFound | error
  deriving DecidableEq

/-- `link(2)`: 0, `EEXIST`, any other error. -/
inductive LinkResult
  | linked | exists | failed
  deriving DecidableEq

/-- `boost::filesystem::remove`: removed, nothing to remove, an error code. -/
inductive RemoveResult
  | removed | missing | failed
  deriving DecidableEq

/-- What a file worker did for a message, as far as the theorems speak of it.
The events are history: no program reads them. -/
inductive Event
  /-- `WriteUploadChunk` has answered `Success`. -/
  | chunkAccepted (offset : Nat) (data : List UInt8)
  /-- `LoadUploadSession` has made a new session. -/
  | sessionLoaded
  /-- A 1505 has got past the check that its connection is open. -/
  | chunkRequest (session : Nat) (userId : Int)
  /-- A 1507 has answered with a challenge. -/
  | challengeIssued (session : Nat) (nonce : List UInt8) (offset length time : Nat)
  /-- A 1513 has begun. -/
  | proofRequest (session : Nat) (userId : Int) (proof : String)
  /-- A 1513 of a pending message has come to the check of the challenge. -/
  | proofChecked (session time : Nat)
  /-- A 1513 has been compared with the expected proof. -/
  | proofCompared (session : Nat) (ok : Bool)
  deriving DecidableEq

/-! ### The shared state -/

inductive Thread
  | fileWorker (i : Fin fileWorkerCount)
  | downloadWorker (i : Fin downLoadWorkerCount)
  | cleanup
  deriving DecidableEq

/-- A connection, as far as the workers look at it. -/
structure Client where
  /-- `_user_uid`; 0 until `TrySetAuth`. -/
  userId : Int := 0
  isOpen : Bool := true
  deriving DecidableEq

/-- An open file. -/
abbrev Handle := Inode Path

structure World where
  disk : Disk Path := {}
  db : Db := .empty
  /-- The holder of `BlobInstallGcMutex`. -/
  mutex : Option Thread := none
  clients : Nat → Client := fun _ => {}
  /-- The steady clock, in seconds. -/
  clock : Nat := 0
  sent : List (Nat × Reply) := []
  notified : List Notification := []
  /-- The history of every message. -/
  journal : Int → List Event := fun _ => []

/-! ### Operations -/

inductive Op
  | fileStatus (path : Path)
  | fileSize (path : Path)
  | resizeFile (path : Path) (size : Nat)
  | openFile (path : Path)
  /-- An `ofstream` opened for appending: makes a file that is missing. -/
  | createFile (path : Path)
  /-- The exclusive creation in `copy_file`. -/
  | createNew (path : Path)
  | write (file : Handle) (offset : Nat) (data : List UInt8)
  | read (file : Handle) (offset length : Nat)
  | readAll (file : Handle)
  | createDirectories (dir : Path)
  | isDirectory (dir : Path)
  | createDirectory (dir : Path)
  | fsyncDirectory (dir : Path)
  | fsync (path : Path)
  | link (source target : Path)
  | unlink (path : Path)
  | remove (path : Path)
  | isRegularFile (path : Path)
  | lastWriteTime (path : Path)
  | listTree
  | sha256Hex (data : List UInt8)
  | digestUpdate
  | digestFinal (data : List UInt8)
  | randomBytes (n : Nat)
  | lock
  | unlock
  | getChatMsgById (messageId : Int)
  | senderHasPublishedContent (sender : Int) (sha256 : String) (size : Nat)
  | blobHasPublishedReference (sha256 : String)
  | getExpiredResourceIds (beforeTime afterCreatedAt : String) (afterMessageId : Int) (limit : Nat)
  /-- One turn of a transaction. -/
  | dao (c : Call) (attempt : Nat)
  | isOpen (session : Nat)
  | getUserId (session : Nat)
  | steadyNow
  | time
  | send (session : Nat) (reply : Reply)
  | post (n : Notification)
  | note (messageId : Int) (e : Event)

/-- What a call returns. -/
@[reducible] def Res : Op → Type
  | .fileStatus _ => FileStatus
  | .fileSize _ => Option Nat
  | .resizeFile .. => Bool
  | .openFile _ => Option Handle
  | .createFile _ => Bool
  | .createNew _ => Option Handle
  | .write .. => Bool
  | .read .. => Option (List UInt8)
  | .readAll _ => Option (List UInt8)
  | .createDirectories _ | .isDirectory _ | .createDirectory _ => Bool
  | .fsyncDirectory _ | .fsync _ => Bool
  | .link .. => LinkResult
  | .unlink _ => Bool
  | .remove _ => RemoveResult
  | .isRegularFile _ => Bool
  | .lastWriteTime _ => Int
  | .listTree => List Path
  | .sha256Hex _ => String
  | .digestUpdate => Bool
  | .digestFinal _ => String
  | .randomBytes _ => Option (List UInt8)
  | .lock | .unlock => Unit
  | .getChatMsgById _ => ChatMsgLookup
  | .senderHasPublishedContent .. => TriState
  | .blobHasPublishedReference _ => TriState
  | .getExpiredResourceIds .. => Option (List ExpiredResource)
  | .dao .. => Outcome
  | .isOpen _ => Bool
  | .getUserId _ => Int
  | .steadyNow => Nat
  | .time => Int
  | .send .. | .post _ | .note .. => Unit

/-- What the environment decides about a call. -/
structure Choice where
  fails : Bool := false
  /-- How much a failed write has written. -/
  written : Nat := 0
  /-- Random bytes. -/
  bytes : List UInt8 := []
  /-- The wall clock and the times of files. -/
  time : Int := 0
  /-- The listing of the tree. -/
  paths : List Path := []
  /-- The connection of a transaction and its faults. -/
  faults : Option (List (Txn.Fault SqlError)) := some []

/-- The answer of a query that may fail. -/
def triState (fails b : Bool) : TriState := if fails then .transient else if b then .yes else .no

/-- What a call does.  `none` means that it has to wait.  `sha` is the digest
function, `t` the thread that makes the call. -/
def exec (sha : List UInt8 → String) (t : Thread) : (op : Op) → Choice → World →
    Option (Res op × World)
  | .fileStatus p, c, w =>
    some (if c.fails then .error else if (w.disk.names p).isSome then .found else .notFound, w)
  | .fileSize p, c, w =>
    some (if c.fails then none else (w.disk.contents p).map List.length, w)
  | .resizeFile p size, c, w =>
    match w.disk.names p with
    | none => some (false, w)
    | some i =>
      if c.fails then some (false, w)
      else some (true, { w with disk := w.disk.setData i (resized (w.disk.data i) size) })
  | .openFile p, c, w => some (if c.fails then none else w.disk.names p, w)
  | .createFile p, c, w =>
    if c.fails then some (false, w)
    else if (w.disk.names p).isSome then some (true, w)
    else some (true, { w with disk := w.disk.create p })
  | .createNew p, c, w =>
    if c.fails ∨ (w.disk.names p).isSome then some (none, w)
    else some (some ⟨p, w.disk.serial⟩, { w with disk := w.disk.create p })
  | .write f offset data, c, w =>
    let bytes := if c.fails then data.take c.written else data
    some (!c.fails, { w with disk := w.disk.setData f (overlay (w.disk.data f) offset bytes) })
  | .read f offset length, c, w =>
    some (if c.fails then none else some (slice (w.disk.data f) offset length), w)
  | .readAll f, c, w => some (if c.fails then none else some (w.disk.data f), w)
  | .createDirectories _, c, w | .isDirectory _, c, w | .createDirectory _, c, w
  | .fsyncDirectory _, c, w | .fsync _, c, w => some (!c.fails, w)
  | .link source target, c, w =>
    match w.disk.names source with
    | none => some (.failed, w)
    | some i =>
      if c.fails then some (.failed, w)
      else if (w.disk.names target).isSome then some (.exists, w)
      else some (.linked, { w with disk := w.disk.link i target })
  | .unlink p, c, w =>
    if c.fails ∨ (w.disk.names p).isNone then some (false, w)
    else some (true, { w with disk := w.disk.unlink p })
  | .remove p, c, w =>
    if c.fails then some (.failed, w)
    else if (w.disk.names p).isNone then some (.missing, w)
    else some (.removed, { w with disk := w.disk.unlink p })
  | .isRegularFile p, c, w => some (!c.fails && (w.disk.names p).isSome, w)
  | .lastWriteTime p, c, w =>
    some (if c.fails ∨ (w.disk.names p).isNone then 0 else c.time, w)
  | .listTree, c, w => some (c.paths, w)
  | .sha256Hex data, c, w => some (if c.fails then "" else sha data, w)
  | .digestUpdate, c, w => some (!c.fails, w)
  | .digestFinal data, c, w => some (if c.fails then "" else sha data, w)
  | .randomBytes n, c, w =>
    some (if c.fails ∨ c.bytes.length ≠ n then none else some c.bytes, w)
  | .lock, _, w => if w.mutex.isSome then none else some ((), { w with mutex := some t })
  | .unlock, _, w => some ((), { w with mutex := none })
  | .getChatMsgById id, c, w =>
    some (if c.fails then .transient
      else match w.db.resourceMessage id with
        | none => .notFound
        | some msg => .found msg, w)
  | .senderHasPublishedContent sender sha256 size, c, w =>
    some (triState c.fails (w.db.senderHasPublishedContent sender sha256 size), w)
  | .blobHasPublishedReference sha256, c, w =>
    some (triState c.fails (w.db.blobHasPublishedReference sha256), w)
  | .getExpiredResourceIds before after id limit, c, w =>
    some (if c.fails then none else some (w.db.expiredResourceIds before after id limit), w)
  | .dao call attempt, c, w =>
    some ((call.turn attempt c.faults w.db).2,
      { w with db := (call.turn attempt c.faults w.db).1 })
  | .isOpen s, _, w => some ((w.clients s).isOpen, w)
  | .getUserId s, _, w => some ((w.clients s).userId, w)
  | .steadyNow, _, w => some (w.clock, w)
  | .time, c, w => some (c.time, w)
  | .send s reply, _, w => some ((), { w with sent := w.sent ++ [⟨s, reply⟩] })
  | .post n, _, w => some ((), { w with notified := w.notified ++ [n] })
  | .note m e, _, w =>
    some ((), { w with journal := fun n => if n = m then w.journal n ++ [e] else w.journal n })

/-- The programs of the server. -/
abbrev Prog := Conc.Prog Op Res

abbrev call (op : Op) : Prog (Res op) := Conc.Prog.perform op

end LlfcChat.Resource
