/-
The way of a resource request through ResourceServer: from the frame that a
connection has received, through `ResourceLogicWorker`, to the task of a file or
download worker, and back to the frame that is handed to `CSession::Send`.

`json::parse` is an argument: it takes any bytes and returns a value, `discarded` for
what is no JSON.  A 1505 and a 1512 are binary frames (`resource_wire.h`), the other
messages are JSON.  The token of a request's bytes comes with its `LogicNode`, and the
handlers pass it on to the task they post.
-/
import LlfcChat.Lib.JsonSize
import LlfcChat.Resource.Server

namespace LlfcChat.Resource

/-! ### Binary frames -/

/-- `kMaxMetaLen` and `kMaxFrameBody`. -/
def maxMetaLen : Nat := 8 * 1024
def maxFrameBody : Nat := 2 + 8 * 1024 + resourceUploadChunkSize

/-- `llfc_wire::EncodeFrame` -/
def encodeFrame (header raw : List UInt8) : Option (List UInt8) :=
  if header = [] ∨ maxMetaLen < header.length then none
  else if resourceUploadChunkSize < raw.length then none
  else if maxFrameBody < 2 + header.length + raw.length then none
  else some (Wire.field header.length ++ header ++ raw)

/-- `llfc_wire::DecodeFrame` -/
def decodeFrame (frame : List UInt8) : Option (List UInt8 × List UInt8) :=
  match frame with
  | hi :: lo :: rest =>
    let metaLen := hi.toNat * 256 + lo.toNat
    if frame.length < 3 ∨ maxFrameBody < frame.length then none
    else if metaLen = 0 ∨ maxMetaLen < metaLen then none
    else if rest.length < metaLen then none
    else if resourceUploadChunkSize < rest.length - metaLen then none
    else some (rest.take metaLen, rest.drop metaLen)
  | _ => none

structure Frame where
  msgType : Int
  body : List UInt8
  deriving DecidableEq

/-- `SendRspFrame`: a 1512 is a binary frame, and none is sent that is too long. -/
def sendRspFrame (msgType : Int) (header : Json) (raw : List UInt8) : Option Frame :=
  if msgType = idResourceChunkDownRsp then
    (encodeFrame (Wire.utf8 header.dump) raw).map fun body => ⟨msgType, body⟩
  else some ⟨msgType, Wire.utf8 header.dump⟩

/-- `std::to_string` of an unsigned number. -/
def decimal (n : Nat) : Json := .str (toString (n % 2 ^ 64))

/-- The members of a reply as the handlers assign them. -/
def Reply.table (r : Reply) : List (String × Option Json) :=
  [("error", some (.int r.error.toInt)),
    ("message_id", some (.str (toString r.messageId))),
    ("status", r.status.map .int),
    ("offset", r.offset.map fun o => .str (toString o)),
    ("server_offset", r.serverOffset.map decimal),
    ("event_seq", r.eventSeq.map decimal),
    ("file_size_bytes", r.fileSizeBytes.map decimal),
    ("sha256", r.sha256.map .str),
    ("chunk_size", r.chunkSize.map decimal),
    ("mode", r.mode.map .str),
    ("challenge", r.challenge.map fun c => .ofMembers
      [("nonce", .str c.nonce), ("offset", decimal c.offset), ("length", decimal c.length)]),
    ("original_file_name", r.fileName.map .str),
    ("mime_type", r.mimeType.map .str),
    ("message_type", r.messageType.map .int),
    ("bytes", r.bytes.map decimal),
    ("chunk_sha256", r.chunkSha256.map .str),
    ("total_size", r.totalSize.map decimal),
    ("is_last", r.isLast.map .bool)]

def Reply.members (r : Reply) : List (String × Json) :=
  r.table.filterMap fun m => m.2.map fun v => (m.1, v)

/-- The JSON object of a reply. -/
def Reply.document (r : Reply) : Json := .ofMembers r.members

/-- The frame of a reply. -/
def Reply.frame (r : Reply) : Option Frame := sendRspFrame r.msgType r.document r.raw

/-! ### Requests -/

inductive ResourceReq
  | chunkUpload | uploadProgress | downInfo | chunkDown | instantProof
  deriving DecidableEq

/-- `ReqToRspId` -/
def ResourceReq.rspId : ResourceReq → Int
  | .chunkUpload => idResourceChunkUploadRsp
  | .uploadProgress => idResourceUploadProgressRsp
  | .downInfo => idResourceDownInfoRsp
  | .chunkDown => idResourceChunkDownRsp
  | .instantProof => idResourceInstantProofRsp

/-- `ErrorCodes::Error_Json` and `ErrorCodes::TokenInvalid`. -/
def errorJson : Int := 2001
def tokenInvalid : Int := 2010

/-- A `SessionTaskQuota`, as a pointer to it tells it from others: which one it is, and
for how many bytes it stands. -/
structure Quota where
  number : Nat
  bytes : Nat
  deriving DecidableEq

/-- A `LogicNode`: a request of a connection, and the token of its bytes. -/
structure LogicNode where
  session : Nat
  req : ResourceReq
  body : List UInt8
  quota : Quota

/-- A task in the queue of a worker. -/
inductive WorkerTask
  | chunk (task : ChunkTask)
  | progress (task : ProgressTask)
  | proof (task : ProofTask)
  | downInfo (task : DownInfoTask)
  | chunkDown (task : ChunkDownTask)

/-- How a handler of `ResourceLogicWorker` ends. -/
inductive Handled
  /-- The connection is closed: nothing is done. -/
  | dropped
  /-- It answers; `none` is a frame that cannot be encoded. -/
  | replied (frame : Option Frame)
  /-- It hands a task to a worker, and with it the token. -/
  | posted (task : WorkerTask) (quota : Quota)

/-- `ParseJsonUInt64` of a member. -/
def idField (root : Json) (key : String) : Option Int := (root.field key).bind parseJsonId

section Handlers

variable (parse : List UInt8 → Json) (session : Nat) (uid : Int) (body : List UInt8)
  (quota : Quota)

/-- The reply to a frame whose fields cannot be read. -/
def ResourceReq.reject (req : ResourceReq) (messageId : Option String := none) : Handled :=
  .replied (sendRspFrame req.rspId
    (.ofMembers (("error", .int errorJson) ::
      (messageId.map fun m => ("message_id", Json.str m)).toList)) [])

/-- `handleResourceChunkUpload` -/
def handleResourceChunkUpload : Handled :=
  match decodeFrame body with
  | none => ResourceReq.chunkUpload.reject
  | some (header, raw) =>
    let root := parse header
    if root.isObject = false then ResourceReq.chunkUpload.reject
    else match idField root "message_id", idField root "offset",
        stringField root "chunk_sha256" with
      | some messageId, some offset, some chunkSha256 =>
        if raw = [] then
          ResourceReq.chunkUpload.reject ((stringField root "message_id").getD "0")
        else if messageId = 0 ∨ isValidSha256Hex chunkSha256 = false then
          ResourceReq.chunkUpload.reject (toString messageId)
        else .posted (.chunk ⟨session, messageId, offset.toNat, chunkSha256, raw⟩) quota
      | _, _, _ => ResourceReq.chunkUpload.reject ((stringField root "message_id").getD "0")

/-- `handleResourceUploadProgress` -/
def handleUploadProgressReq : Handled :=
  let root := parse body
  match idField root "message_id" with
  | some messageId =>
    if messageId = 0 then ResourceReq.uploadProgress.reject
    else .posted (.progress ⟨session, uid, messageId⟩) quota
  | none => ResourceReq.uploadProgress.reject

/-- `handleInstantProof` -/
def handleInstantProofReq : Handled :=
  let root := parse body
  match idField root "message_id", stringField root "proof" with
  | some messageId, some proof =>
    if messageId = 0 then ResourceReq.instantProof.reject
    else .posted (.proof ⟨session, uid, messageId, proof⟩) quota
  | _, _ => ResourceReq.instantProof.reject

/-- `handleResourceDownInfo` -/
def handleDownInfoReq : Handled :=
  let root := parse body
  match idField root "message_id" with
  | some messageId =>
    if messageId = 0 then ResourceReq.downInfo.reject
    else .posted (.downInfo ⟨session, messageId⟩) quota
  | none => ResourceReq.downInfo.reject

/-- `handleResourceChunkDown` -/
def handleChunkDownReq : Handled :=
  let root := parse body
  match idField root "message_id", idField root "offset" with
  | some messageId, some offset =>
    if messageId = 0 then ResourceReq.chunkDown.reject
    else .posted (.chunkDown ⟨session, messageId, offset.toNat⟩) quota
  | _, _ => ResourceReq.chunkDown.reject

/-- `_fun_callbacks` -/
def ResourceReq.handle : ResourceReq → Handled
  | .chunkUpload => handleResourceChunkUpload parse session body quota
  | .uploadProgress => handleUploadProgressReq parse session uid body quota
  | .downInfo => handleDownInfoReq parse session body quota
  | .chunkDown => handleChunkDownReq parse session body quota
  | .instantProof => handleInstantProofReq parse session uid body quota

/-- `ResourceLogicWorker::task_callback` for a resource request: a connection that has not
logged in is answered and closed. -/
def taskCallback (client : Client) (node : LogicNode) : Handled :=
  if client.isOpen = false then .dropped
  else if client.userId = 0 then
    .replied (sendRspFrame node.req.rspId (.ofMembers [("error", .int tokenInvalid)]) [])
  else node.req.handle parse node.session client.userId node.body node.quota

end Handlers

/-! ### The workers -/

/-- The worker of a message: `ResourceWorkerIndex`. -/
def fileWorkerOf (messageId : Int) : Thread :=
  .fileWorker ⟨resourceWorkerIndex messageId fileWorkerCount, Nat.mod_lt _ (by decide)⟩

def downloadWorkerOf (messageId : Int) : Thread :=
  .downloadWorker ⟨resourceWorkerIndex messageId downLoadWorkerCount, Nat.mod_lt _ (by decide)⟩

/-- The worker a task is posted to. -/
def WorkerTask.thread : WorkerTask → Thread
  | .chunk task => fileWorkerOf task.messageId
  | .progress task => fileWorkerOf task.messageId
  | .proof task => fileWorkerOf task.messageId
  | .downInfo task => downloadWorkerOf task.messageId
  | .chunkDown task => downloadWorkerOf task.messageId

/-- What the worker does with it, from its local state. -/
def WorkerTask.program : (task : WorkerTask) → Local task.thread → Prog (Local task.thread)
  | .chunk task => handleResourceChunk task
  | .progress task => handleResourceUploadProgress task
  | .proof task => handleInstantProof task
  | .downInfo task => handleResourceDownInfo task
  | .chunkDown task => handleResourceChunkDown task

end LlfcChat.Resource
