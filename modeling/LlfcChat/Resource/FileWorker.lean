/-
The upload side of ResourceServer: `FileWorker` with its sessions, the chunk
handler (1505) up to publication, the progress query (1507) that may answer
with a challenge, and the instant proof (1513).

A worker is one thread, and its table of sessions is its own; a handler takes
the table and hands back the table it leaves.  What the handlers share with
other threads goes through the operations of `World.lean`.
-/
import LlfcChat.Resource.UploadFile

namespace LlfcChat.Resource

/-! ### Sessions -/

/-- `llfc::Sha256Stream`: what has been absorbed, and the digest once it has been
taken. -/
structure Sha256Stream where
  absorbed : List UInt8 := []
  final : String := ""
  deriving DecidableEq

/-- `Update`. -/
def Sha256Stream.update (h : Sha256Stream) (data : List UInt8) : Prog (Bool × Sha256Stream) := do
  if h.final ≠ "" then return (false, h) else
  if ← call .digestUpdate then return (true, { h with absorbed := h.absorbed ++ data })
  else return (false, h)

/-- `FinalHex`. -/
def Sha256Stream.finalHex (h : Sha256Stream) : Prog (String × Sha256Stream) := do
  if h.final ≠ "" then return (h.final, h) else
  let hex ← call (.digestFinal h.absorbed)
  return (hex, { h with final := hex })

/-- `UploadSession`. -/
structure UploadSession where
  messageId : Int
  fileSizeBytes : Nat
  sha256 : String
  received : Nat
  senderUserId : Int
  recipientUserId : Int
  lastActive : Nat
  wholeHashMismatches : Nat := 0
  hasher : Sha256Stream := {}
  hashValid : Bool
  finalHex : String := ""
  challengeNonceRaw : List UInt8 := []
  challengeOffset : Nat := 0
  challengeLength : Nat := 0
  challengeActive : Bool := false
  /-- The connection the challenge was sent to. -/
  challengeSession : Option Nat := none
  challengeIssuedAt : Nat := 0
  challengeSuppressed : Bool := false
  deriving DecidableEq

/-- `kSessionIdleTimeout` and `kInstantProofChallengeTtlSeconds`, in seconds. -/
def sessionIdleTimeout : Nat := 30 * 60
def instantProofChallengeTtlSeconds : Nat := 120

structure FileWorker where
  uploadSessions : Int → Option UploadSession := fun _ => none

namespace FileWorker

/-- The table after the session of a message was changed or added. -/
def put (fw : FileWorker) (messageId : Int) (session : UploadSession) : FileWorker :=
  ⟨fun m => if m = messageId then some session else fw.uploadSessions m⟩

/-- `_upload_sessions.erase`, `EvictUploadSession`. -/
def erase (fw : FileWorker) (messageId : Int) : FileWorker :=
  ⟨fun m => if m = messageId then none else fw.uploadSessions m⟩

/-- `EvictIdleUploadSessions`. -/
def evictIdle (fw : FileWorker) (now : Nat) : FileWorker :=
  ⟨fun m => (fw.uploadSessions m).filter fun s => decide (now - s.lastActive ≤ sessionIdleTimeout)⟩

/-- `FindUploadSession`: a session that is found has become active. -/
def findUploadSession (fw : FileWorker) (messageId : Int) :
    Prog (Option UploadSession × FileWorker) := do
  match fw.uploadSessions messageId with
  | none => return (none, fw)
  | some session =>
    let now ← call .steadyNow
    let session := { session with lastActive := now }
    return (some session, fw.put messageId session)

/-- `LoadUploadSession`. -/
def loadUploadSession (fw : FileWorker) (messageId : Int) (msg : ChatMessage) :
    Prog (Option UploadSession × FileWorker) := do
  match msg.resource with
  | none => return (none, fw)
  | some r =>
    match ← recoverUploadFile (resourceUploadingPartPath messageId) r.fileSizeBytes
        resourceUploadChunkSize with
    | none => return (none, fw)
    | some received =>
      let now ← call .steadyNow
      call (.note messageId .sessionLoaded)
      let session : UploadSession :=
        { messageId := messageId
          fileSizeBytes := r.fileSizeBytes
          sha256 := r.sha256
          received := received
          senderUserId := msg.senderUserId
          recipientUserId := msg.recipientUserId
          lastActive := now
          hashValid := decide (received = 0) }
      return (some session, fw.put messageId session)

end FileWorker

/-! ### Publication in the database -/

/-- The loop of `MysqlDao::CompleteResourceUpload`, with the attempts that are
left. -/
def completeAttempts (messageId sender : Int) : Nat → Nat → Prog (PublishResult × Nat)
  | 0, _ => return (.transient, 0)
  | left + 1, attempt => do
    match ← call (.dao (.completeResourceUpload messageId sender) attempt) with
    | .returned (.publish r eventSeq) => return (r, eventSeq)
    | .retry _ => completeAttempts messageId sender left (attempt + 1)
    | _ => return (.transient, 0)

/-- `MysqlMgr::CompleteResourceUpload`: the result and `event_seq`. -/
def completeResourceUploadDao (messageId sender : Int) : Prog (PublishResult × Nat) :=
  completeAttempts messageId sender publishDeadlockMaxRetries 0

/-- `MysqlMgr::MarkResourceFailed`. -/
def markResourceFailedDao (messageId : Int) : Prog Bool := do
  match ← call (.dao (.markResourceFailed messageId) 0) with
  | .returned (.done ok) => return ok
  | _ => return false

/-! ### The chunk handler -/

/-- `ResourceChunkTask`. -/
structure ChunkTask where
  session : Nat
  messageId : Int
  offset : Nat
  chunkSha256 : String
  fileData : List UInt8
  deriving DecidableEq

/-- The value of a `long long` made from an unsigned number. -/
def toLongLong (n : Nat) : Int := Int.bmod n (2 ^ 64)

/-- The 1506 of `respond` and `respond_error`; a positive event number is
reported. -/
def ChunkTask.reply (task : ChunkTask) (error : ErrorCode) (serverOffset : Nat) (status : Int)
    (eventSeq : Option Nat := none) : Prog Unit :=
  call (.send task.session
    { msgType := idResourceChunkUploadRsp
      error := error
      messageId := task.messageId
      offset := some (toLongLong task.offset)
      serverOffset := some serverOffset
      status := some status
      eventSeq := eventSeq })

/-- `respond_pending`. -/
def ChunkTask.replyPending (task : ChunkTask) (error : ErrorCode) (serverOffset : Nat) :
    Prog Unit :=
  task.reply error serverOffset MessageStatus.pending.toInt

/-- The number as the handlers report it: 0 is left out. -/
def positiveSeq (eventSeq : Nat) : Option Nat := if 0 < eventSeq then some eventSeq else none

/-- The digest of the stream, if it is valid. -/
def streamedHash (session : UploadSession) : Prog (String × Sha256Stream) :=
  if session.hashValid then session.hasher.finalHex else return ("", session.hasher)

/-- The whole-file digest at the completion of an upload: the cached one, the
one of the stream, or one of the file. -/
def wholeHash (part : Path) (session : UploadSession) : Prog (String × UploadSession) := do
  if session.finalHex ≠ "" then return (session.finalHex, session) else
  let (streamed, hasher) ← streamedHash session
  if streamed ≠ "" then
    return (streamed, { session with hasher := hasher, finalHex := streamed })
  else
    let hex ← sha256FileHex part
    return (hex, { session with hasher := hasher, finalHex := hex })

/-- The whole file does not have the digest it should: twice the upload starts
over, the third time the message fails. -/
def wholeHashMismatch (task : ChunkTask) (session : UploadSession) (fw : FileWorker) :
    Prog FileWorker := do
  let part := resourceUploadingPartPath task.messageId
  let session := { session with wholeHashMismatches := session.wholeHashMismatches + 1 }
  if 3 ≤ session.wholeHashMismatches then
    if ← markResourceFailedDao task.messageId then
      let _ ← call (.remove part)
      task.reply .resourceStateInvalid 0 MessageStatus.failed.toInt
      return fw.erase task.messageId
    else
      task.replyPending .rpcFailed session.received
      return fw.put task.messageId session
  else
    match ← call (.remove part) with
    | .failed =>
      task.replyPending .fileWritePermissionFailed session.received
      return fw.put task.messageId session
    | _ =>
      task.replyPending .fileContentMismatch 0
      return fw.put task.messageId
        { session with received := 0, hasher := {}, hashValid := true, finalHex := "" }

/-- The copy in `restore_part_after_publish_failure`: whether the `.part` file
is complete again. -/
def copyBack (part base : Path) (expected : Nat) : Prog Bool := do
  if (← readLength base) = some expected then
    let rm ← call (.remove part)
    let copied ← copyFile base part
    if rm ≠ .failed ∧ copied = true then
      return decide ((← readLength part) = some expected)
    else return false
  else return false

/-- `restore_part_after_publish_failure`: the offset to report, and the table
without the session if the file could not be restored. -/
def restorePart (session : UploadSession) (messageId : Int) (fw : FileWorker) :
    Prog (Nat × FileWorker) := do
  let part := resourceUploadingPartPath messageId
  if (← readLength part) = some session.received then return (session.received, fw) else
  if ← copyBack part (resourceBlobPath session.sha256) session.received then
    return (session.received, fw)
  else
    let diskReceived ← recoverUploadFile part session.fileSizeBytes resourceUploadChunkSize
    return (diskReceived.getD 0, fw.erase messageId)

/-- Restore the `.part` file and answer with an error the client may retry. -/
def retryLater (task : ChunkTask) (session : UploadSession) (error : ErrorCode)
    (fw : FileWorker) : Prog FileWorker := do
  let (serverOffset, fw) ← restorePart session task.messageId fw
  task.replyPending error serverOffset
  return fw

/-- An existing blob is trusted if its length and its digest are right and it
can be flushed to disk. -/
def blobTrusted (base : Path) (session : UploadSession) : Prog Bool := do
  if (← readLength base) = some session.fileSizeBytes then
    if (← sha256FileHex base) = session.sha256 then call (.fsync base) else return false
  else return false

/-- The end of the critical section: the reply has been sent, or the message is
published. -/
inductive PublishOutcome
  | replied (fw : FileWorker)
  | published (msg : ChatMessage) (eventSeq : Nat)

/-- The blob is in place: look the message up and publish it. -/
def publishCanonical (task : ChunkTask) (session : UploadSession) (fw : FileWorker) :
    Prog PublishOutcome := do
  match ← call (.getChatMsgById task.messageId) with
  | .notFound =>
    task.reply .msgIdErr 0 MessageStatus.failed.toInt
    return .replied (fw.erase task.messageId)
  | .transient => return .replied (← retryLater task session .rpcFailed fw)
  | .found msg =>
    match ← completeResourceUploadDao task.messageId msg.senderUserId with
    | (.published, eventSeq) => return .published msg eventSeq
    | (.alreadyPublished, eventSeq) => return .published msg eventSeq
    | (.notPending, _) =>
      task.reply .resourceStateInvalid 0 MessageStatus.failed.toInt
      return .replied (fw.erase task.messageId)
    | (.notFound, _) =>
      task.reply .msgIdErr 0 MessageStatus.failed.toInt
      return .replied (fw.erase task.messageId)
    | (.transient, _) => return .replied (← retryLater task session .rpcFailed fw)

/-- The critical section of `CompleteResourceUpload`. -/
def installAndPublish (task : ChunkTask) (session : UploadSession) (fw : FileWorker) :
    Prog PublishOutcome := do
  let part := resourceUploadingPartPath task.messageId
  let base := resourceBlobPath session.sha256
  if ← ensureDirectoryDurable base.dropLast then
    match ← durableRename part base with
    | (false, _) => return .replied (← retryLater task session .fileWritePermissionFailed fw)
    | (true, false) => publishCanonical task session fw
    | (true, true) =>
      if ← blobTrusted base session then
        let _ ← call (.remove part)
        publishCanonical task session fw
      else return .replied (← retryLater task session .fileWritePermissionFailed fw)
  else return .replied (← retryLater task session .fileWritePermissionFailed fw)

/-- The digest is right: flush the file and publish it. -/
def publishUpload (task : ChunkTask) (session : UploadSession) (fw : FileWorker) :
    Prog FileWorker := do
  if ← call (.fsync (resourceUploadingPartPath task.messageId)) then
    call .lock
    let outcome ← installAndPublish task session fw
    call .unlock
    match outcome with
    | .replied fw => return fw
    | .published msg eventSeq =>
      task.reply .success session.received MessageStatus.published.toInt (some eventSeq)
      call (.post ⟨task.messageId, msg.messageType, msg.recipientUserId⟩)
      return fw.erase task.messageId
  else
    task.replyPending .fileWritePermissionFailed session.received
    return fw

/-- `FileWorker::CompleteResourceUpload`. -/
def completeResourceUpload (task : ChunkTask) (session : UploadSession) (fw : FileWorker) :
    Prog FileWorker := do
  let (fullHash, session) ← wholeHash (resourceUploadingPartPath task.messageId) session
  let fw := fw.put task.messageId session
  if fullHash = "" then
    task.replyPending .fileReadFailed session.received
    return fw
  else if fullHash ≠ session.sha256 then wholeHashMismatch task session fw
  else publishUpload task session fw

/-- The stream follows a chunk that was appended at `offset`; one that was there
before changes nothing. -/
def advanceHash (session : UploadSession) (offset : Nat) (data : List UInt8) :
    Prog UploadSession := do
  if offset = session.received ∧ session.hashValid = true then
    let (ok, hasher) ← session.hasher.update data
    return { session with hasher := hasher, hashValid := ok }
  else return session

/-- A chunk of the sender. -/
def receiveChunk (task : ChunkTask) (session : UploadSession) (fw : FileWorker) :
    Prog FileWorker := do
  let session := { session with challengeActive := false, challengeSuppressed := true }
  let (error, received) ← writeUploadChunk (resourceUploadingPartPath task.messageId)
    session.fileSizeBytes resourceUploadChunkSize task.offset task.fileData task.chunkSha256
    session.received
  if error ≠ .success then
    task.reply error received (-1)
    return fw.put task.messageId
      { session with received := received, hashValid := false, finalHex := "" }
  else
    call (.note task.messageId (.chunkAccepted task.offset task.fileData))
    let hashed ← advanceHash session task.offset task.fileData
    let session := { hashed with received := received }
    let fw := fw.put task.messageId session
    if session.received = session.fileSizeBytes then completeResourceUpload task session fw
    else
      task.replyPending .success session.received
      return fw

/-- The session of the message is known: only its sender may upload. -/
def uploadChunk (task : ChunkTask) (uid : Int) (session : UploadSession) (fw : FileWorker) :
    Prog FileWorker := do
  if uid = 0 ∨ uid ≠ session.senderUserId then
    task.reply .resourceForbidden 0 (-1)
    return fw
  else receiveChunk task session fw

/-- No session: look the message up and make one. -/
def reloadForChunk (task : ChunkTask) (uid : Int) (fw : FileWorker) : Prog FileWorker := do
  match ← call (.getChatMsgById task.messageId) with
  | .notFound =>
    task.reply .msgIdErr 0 (-1)
    return fw
  | .transient =>
    task.reply .rpcFailed 0 (-1)
    return fw
  | .found msg =>
    if uid = 0 ∨ uid ≠ msg.senderUserId then
      task.reply .resourceForbidden 0 (-1)
      return fw
    else if msg.messageType ≠ chatMsgPic ∧ msg.messageType ≠ chatMsgFile then
      task.reply .resourceStateInvalid 0 (-1)
      return fw
    else
      match msg.status with
      | .published =>
        task.reply .success (msg.resource.elim 0 (·.fileSizeBytes)) MessageStatus.published.toInt
          (positiveSeq msg.eventSeq)
        return fw
      | .failed =>
        task.reply .resourceStateInvalid 0 MessageStatus.failed.toInt
        return fw
      | .pending =>
        match ← fw.loadUploadSession task.messageId msg with
        | (none, fw) =>
          task.reply .rpcFailed 0 (-1)
          return fw
        | (some session, fw) => uploadChunk task uid session fw

/-- `FileWorker::HandleResourceChunk`. -/
def handleResourceChunk (task : ChunkTask) (fw : FileWorker) : Prog FileWorker := do
  if ← call (.isOpen task.session) then
    let now ← call .steadyNow
    let uid ← call (.getUserId task.session)
    call (.note task.messageId (.chunkRequest task.session uid))
    match ← (fw.evictIdle now).findUploadSession task.messageId with
    | (some session, fw) => uploadChunk task uid session fw
    | (none, fw) => reloadForChunk task uid fw
  else return fw

/-! ### The progress query -/

/-- The 1507 as `handleResourceUploadProgress` hands it to the worker; `uid` is
the user of the connection. -/
structure ProgressTask where
  session : Nat
  uid : Int
  messageId : Int
  deriving DecidableEq

/-- A 1508 with an error, and with a status where one is set. -/
def ProgressTask.fail (task : ProgressTask) (error : ErrorCode) (status : Option Int := none) :
    Prog Unit :=
  call (.send task.session
    { msgType := idResourceUploadProgressRsp
      error := error
      messageId := task.messageId
      status := status })

/-- The 1508 at the end of the handler. -/
def ProgressTask.succeed (task : ProgressTask) (msg : ChatMessage) (serverOffset : Nat) :
    Prog Unit :=
  call (.send task.session
    { msgType := idResourceUploadProgressRsp
      error := .success
      messageId := task.messageId
      serverOffset := some serverOffset
      fileSizeBytes := msg.resource.map (·.fileSizeBytes)
      status := some msg.status.toInt
      sha256 := msg.resource.map (·.sha256)
      chunkSize := some resourceUploadChunkSize
      eventSeq := positiveSeq msg.eventSeq })

/-- The eight random bytes as a number. -/
def rand64 (bytes : List UInt8) : Nat := bytes.foldl (fun n b => n * 256 + b.toNat) 0

def hexText (bytes : List UInt8) : String :=
  String.ofList (bytes.flatMap fun b =>
    [Json.hexDigit (b.toNat / 16), Json.hexDigit (b.toNat % 16)])

/-- The longest section a proof is asked for. -/
def maxProofSection : Nat := 64 * 1024

/-- Send a challenge for `size` bytes; `none` if there are no random bytes. -/
def issueChallenge (task : ProgressTask) (r : MessageResource) (upload : UploadSession) :
    Prog (Option UploadSession) := do
  let length := if r.fileSizeBytes < maxProofSection then r.fileSizeBytes else maxProofSection
  match ← call (.randomBytes 16) with
  | none => return none
  | some nonceRaw =>
    match ← call (.randomBytes 8) with
    | none => return none
    | some offRaw =>
      let offset :=
        if r.fileSizeBytes ≤ length then 0 else rand64 offRaw % (r.fileSizeBytes - length + 1)
      let now ← call .steadyNow
      call (.note task.messageId (.challengeIssued task.session nonceRaw offset length now))
      call (.send task.session
        { msgType := idResourceUploadProgressRsp
          error := .success
          messageId := task.messageId
          mode := some "proof"
          serverOffset := some 0
          fileSizeBytes := some r.fileSizeBytes
          status := some MessageStatus.pending.toInt
          sha256 := some r.sha256
          chunkSize := some resourceUploadChunkSize
          challenge := some ⟨hexText nonceRaw, offset, length⟩ })
      return some
        { upload with
          challengeNonceRaw := nonceRaw
          challengeOffset := offset
          challengeLength := length
          challengeActive := true
          challengeSession := some task.session
          challengeIssuedAt := now }

/-- A pending message with its session: a fresh upload may be answered with a
challenge. -/
def pendingProgress (task : ProgressTask) (msg : ChatMessage) (r : MessageResource)
    (upload : UploadSession) (fw : FileWorker) : Prog FileWorker := do
  if upload.received = 0 ∧ upload.challengeSuppressed = false ∧ 0 < r.fileSizeBytes then
    match ← call (.senderHasPublishedContent task.uid r.sha256 r.fileSizeBytes) with
    | .transient =>
      task.fail .rpcFailed (some MessageStatus.pending.toInt)
      return fw
    | .no =>
      task.succeed msg upload.received
      return fw
    | .yes =>
      if (← call (.fileSize (resourceBlobPath r.sha256))) = some r.fileSizeBytes then
        match ← issueChallenge task r upload with
        | some upload => return fw.put task.messageId upload
        | none =>
          task.succeed msg upload.received
          return fw
      else
        task.succeed msg upload.received
        return fw
  else
    task.succeed msg upload.received
    return fw

/-- The closure of `ResourceLogicWorker::handleResourceUploadProgress`. -/
def handleResourceUploadProgress (task : ProgressTask) (fw : FileWorker) : Prog FileWorker := do
  match ← call (.getChatMsgById task.messageId) with
  | .notFound =>
    task.fail .msgIdErr
    return fw
  | .transient =>
    task.fail .rpcFailed
    return fw
  | .found msg =>
    if task.uid = 0 ∨ task.uid ≠ msg.senderUserId then
      task.fail .resourceForbidden
      return fw
    else
      match msg.resource with
      | none =>
        task.fail .resourceStateInvalid
        return fw
      | some r =>
        if msg.messageType ≠ chatMsgPic ∧ msg.messageType ≠ chatMsgFile then
          task.fail .resourceStateInvalid
          return fw
        else
          match msg.status with
          | .published =>
            task.succeed msg r.fileSizeBytes
            return fw
          | .pending =>
            match ← fw.findUploadSession task.messageId with
            | (some upload, fw) => pendingProgress task msg r upload fw
            | (none, fw) =>
              match ← fw.loadUploadSession task.messageId msg with
              | (some upload, fw) => pendingProgress task msg r upload fw
              | (none, fw) =>
                task.fail .fileWritePermissionFailed
                return fw
          | .failed =>
            task.fail .resourceStateInvalid (some msg.status.toInt)
            return fw.erase task.messageId

/-! ### The instant proof -/

/-- The 1513 as `handleInstantProof` hands it to the worker. -/
structure ProofTask where
  session : Nat
  uid : Int
  messageId : Int
  proof : String
  deriving DecidableEq

/-- `fail_proof`. -/
def ProofTask.fail (task : ProofTask) (error : ErrorCode) (status : MessageStatus) : Prog Unit :=
  call (.send task.session
    { msgType := idResourceInstantProofRsp
      error := error
      messageId := task.messageId
      status := some status.toInt })

/-- The 1514 of a published message. -/
def ProofTask.succeed (task : ProofTask) (size eventSeq : Nat) : Prog Unit :=
  call (.send task.session
    { msgType := idResourceInstantProofRsp
      error := .success
      messageId := task.messageId
      status := some MessageStatus.published.toInt
      serverOffset := some size
      eventSeq := some eventSeq })

/-- The comparison of a proof with the section of the blob: the error to answer
with, if any. -/
def checkProof (task : ProofTask) (r : MessageResource) (session : UploadSession) :
    Prog (Option ErrorCode) := do
  match ← call (.openFile (resourceBlobPath r.sha256)) with
  | none => return some .instantProofInvalid
  | some file =>
    match ← call (.read file session.challengeOffset session.challengeLength) with
    | none => return some .fileReadFailed
    | some bytes =>
      if bytes.length ≠ session.challengeLength then return some .fileReadFailed else
      let expect ← call (.sha256Hex (session.challengeNonceRaw ++ bytes))
      if expect.utf8ByteSize ≠ 64 then return some .rpcFailed else
      call (.note task.messageId (.proofCompared task.session (decide (expect = task.proof))))
      if expect ≠ task.proof then return some .instantProofInvalid else return none

/-- The critical section of `HandleInstantProof`. -/
def proveAndPublish (task : ProofTask) (msg : ChatMessage) (r : MessageResource)
    (session : UploadSession) (fw : FileWorker) : Prog PublishOutcome := do
  match ← checkProof task r session with
  | some e =>
    task.fail e .pending
    return .replied (fw.put task.messageId { session with challengeSuppressed := true })
  | none =>
    match ← completeResourceUploadDao task.messageId msg.senderUserId with
    | (.published, eventSeq) => return .published msg eventSeq
    | (.alreadyPublished, eventSeq) => return .published msg eventSeq
    | (.notPending, _) =>
      task.fail .resourceStateInvalid .failed
      return .replied (fw.erase task.messageId)
    | (.notFound, _) =>
      task.fail .msgIdErr .failed
      return .replied (fw.erase task.messageId)
    | (.transient, _) =>
      task.fail .rpcFailed .pending
      return .replied fw

/-- The challenge of a pending message: it must be active, young enough and
have been sent to this connection, and it is used up by the attempt. -/
def answerChallenge (task : ProofTask) (msg : ChatMessage) (r : MessageResource)
    (session : UploadSession) (fw : FileWorker) : Prog FileWorker := do
  let now ← call .steadyNow
  call (.note task.messageId (.proofChecked task.session now))
  if session.challengeActive = false ∨
      instantProofChallengeTtlSeconds < now - session.challengeIssuedAt ∨
      session.challengeSession ≠ some task.session then
    task.fail .instantProofInvalid .pending
    return fw
  else
    let session := { session with challengeActive := false }
    if isValidSha256Hex task.proof = false then
      task.fail .instantProofInvalid .pending
      return fw.put task.messageId { session with challengeSuppressed := true }
    else
      let fw := fw.put task.messageId session
      call .lock
      let outcome ← proveAndPublish task msg r session fw
      call .unlock
      match outcome with
      | .replied fw => return fw
      | .published msg eventSeq =>
        let _ ← call (.remove (resourceUploadingPartPath task.messageId))
        task.succeed r.fileSizeBytes eventSeq
        call (.post ⟨task.messageId, msg.messageType, msg.recipientUserId⟩)
        return fw.erase task.messageId

/-- `FileWorker::HandleInstantProof`. -/
def handleInstantProof (task : ProofTask) (fw : FileWorker) : Prog FileWorker := do
  call (.note task.messageId (.proofRequest task.session task.uid task.proof))
  match ← call (.getChatMsgById task.messageId) with
  | .notFound =>
    task.fail .msgIdErr .failed
    return fw.erase task.messageId
  | .transient =>
    task.fail .rpcFailed .pending
    return fw
  | .found msg =>
    match msg.resource with
    | none =>
      task.fail .resourceForbidden msg.status
      return fw
    | some r =>
      if task.uid = 0 ∨ task.uid ≠ msg.senderUserId then
        task.fail .resourceForbidden msg.status
        return fw
      else
        match msg.status with
        | .published =>
          let _ ← call (.remove (resourceUploadingPartPath task.messageId))
          task.succeed r.fileSizeBytes msg.eventSeq
          return fw.erase task.messageId
        | .failed =>
          task.fail .resourceStateInvalid .failed
          return fw.erase task.messageId
        | .pending =>
          match fw.uploadSessions task.messageId with
          | none =>
            task.fail .instantProofInvalid .pending
            return fw
          | some session => answerChallenge task msg r session fw

end LlfcChat.Resource
