/-
`TransferEngine`: uploads and downloads of resources on one connection.

The engine lives on one thread, so every call is a function on its state.  A
transfer that a function works on is passed as a value and put back under its
key; after a call that can end it (`failTransfer`, `pump`) it is not used again,
as in the source.  The send callback is installed and does not call back.  The
clock and the local files are read through `Env`; the clock stands still during
a call.  A `QHash` is a list in the order of its iteration, which an insertion
may change in any way (`Env.shuffle`).  Signals to the user interface are left
out; `sent` is the log of the frames, each with what held of its transfer when it
was sent.
-/
import LlfcChat.Client.Transfer.Codec
import LlfcChat.Lib.Table

namespace LlfcChat.Transfer

/-! ### Transfers -/

inductive Direction
  | upload
  | download
  deriving DecidableEq

/-- The phases of a transfer; `TRANSFER_PAUSED` is only shown, never set. -/
inductive Phase
  | queued
  | querying
  | active
  | backoff
  | completed
  | failed
  deriving DecidableEq

def Phase.terminal : Phase → Bool
  | .completed | .failed => true
  | _ => false

/-- A chunk on its way. -/
structure InflightChunk where
  offset : Int
  length : Int
  sentMs : Nat
  deriving DecidableEq

structure UploadRequest where
  messageId : Int := 0
  filePath : String := ""
  fileSizeBytes : Int := 0
  sha256 : String := ""

structure DownloadRequest where
  messageId : Int := 0
  destFilePath : String := ""
  sha256 : String := ""
  fileSizeBytes : Int := 0

/-- `kResourceChunkSize` -/
def chunkSize : Int := 262144

/-- `ResourceTransferRuntime`.  The last two fields are not in the source: the number
of the transfer among all that were started, and the hash of the last 1510 that was
accepted. -/
structure Runtime where
  messageId : Int
  direction : Direction
  phase : Phase := .queued
  slotGranted : Bool := false
  totalBytes : Int := 0
  ackedBytes : Int := 0
  wireBytes : Int := 0
  errorCode : Int := 0
  errorText : String := ""
  eventSeq : Int := 0
  retryCount : Nat := 0
  jsonErrorCount : Nat := 0
  chunkRetryCount : Nat := 0
  publishRetryCount : Nat := 0
  retryAtMs : Nat := 0
  querySentMs : Nat := 0
  reconnectRequested : Bool := false
  userPaused : Bool := false
  proofDisabled : Bool := false
  proofPending : Bool := false
  inflight : List InflightChunk := []
  staleOffsets : List Int := []
  upload : UploadRequest := {}
  /-- `source` is open -/
  source : Bool := false
  download : DownloadRequest := {}
  /-- `part` is open -/
  part : Bool := false
  expectedSha256 : String := ""
  /-- the bytes that went into `hasher` -/
  hasher : List UInt8 := []
  hashedLen : Int := 0
  hashValid : Bool := true
  localDownloadPath : String := ""
  serial : Nat := 0
  infoSha256 : String := ""

/-- `InitConfig` has replaced the values that are too small. -/
structure Config where
  maxActiveUploads : Nat := 2
  maxActiveDownloads : Nat := 4
  maxInflightChunks : Nat := 4
  ackTimeoutMs : Nat := 30000
  backoffInitialMs : Nat := 1000
  backoffMaxMs : Nat := 30000
  jsonErrorLimit : Nat := 3
  chunkRetryLimit : Nat := 3
  maxInflightChunks_pos : 0 < maxInflightChunks := by decide
  backoffInitialMs_pos : 0 < backoffInitialMs := by decide
  backoffMaxMs_pos : 0 < backoffMaxMs := by decide

def Config.limit (cfg : Config) : Direction → Nat
  | .upload => cfg.maxActiveUploads
  | .download => cfg.maxActiveDownloads

inductive ReadResult
  | seekFailed
  | readFailed
  | done
  deriving DecidableEq

/-- What a call reads from outside. -/
structure Env where
  now : Nat
  /-- the size of a source file that exists -/
  sourceSize : String → Option Int := fun _ => none
  sourceOpens : String → Bool := fun _ => true
  /-- the hash of a source file that can be opened, if it can be read to its end -/
  sourceHash : String → Option (Option String) := fun _ => none
  /-- seeking and reading in the open source of a message -/
  sourceRead : Int → Int → ReadResult := fun _ _ => .done
  mkpath : Bool := true
  partOpens : Bool := true
  partResizes : Bool := true
  partSeeks : Int → Bool := fun _ => true
  /-- how many bytes of a chunk are written -/
  partWrites : Nat → Nat := id
  partReads : Bool := true
  destRemoves : Bool := true
  partRenames : Bool := true
  /-- the order in which a hash table is iterated after an insertion -/
  shuffle : List Runtime → List Runtime := id
  shuffle_perm : ∀ l, (shuffle l).Perm l := by exact fun _ => List.Perm.refl _

/-- The frames the engine sends. -/
inductive FrameKind
  | chunkUploadReq
  | progressReq
  | downInfoReq
  | chunkDownReq
  | instantProofReq
  deriving DecidableEq

structure Frame where
  kind : FrameKind
  messageId : Int
  serial : Nat
  slot : Bool
  paused : Bool
  deriving DecidableEq

/-! ### The engine -/

structure Engine where
  uploads : List Runtime := []
  downloads : List Runtime := []
  uploadWait : List Int := []
  downloadWait : List Int := []
  connUp : Bool := false
  awaitingReconnect : Bool := false
  /-- the local files -/
  files : String → Option (List UInt8) := fun _ => none
  nextSerial : Nat := 0
  sent : List Frame := []
  /-- the transfers that `sig_transfer_finished` was emitted for -/
  finished : List Nat := []
  /-- whom `PromoteWaiting` gave a slot, and who could have had it -/
  grants : List (Nat × List Nat) := []
  /-- for every 1505, the offsets that are in flight, its own being the last -/
  windows : List (List Int) := []

namespace Engine

/-- `MapFor` -/
def mapFor (s : Engine) : Direction → List Runtime
  | .upload => s.uploads
  | .download => s.downloads

def setMap (s : Engine) (dir : Direction) (l : List Runtime) : Engine :=
  match dir with
  | .upload => { s with uploads := l }
  | .download => { s with downloads := l }

def wait (s : Engine) : Direction → List Int
  | .upload => s.uploadWait
  | .download => s.downloadWait

def setWait (s : Engine) (dir : Direction) (l : List Int) : Engine :=
  match dir with
  | .upload => { s with uploadWait := l }
  | .download => { s with downloadWait := l }

def find (s : Engine) (dir : Direction) (id : Int) : Option Runtime :=
  (s.mapFor dir).find? fun t => t.messageId = id

/-- `FindActive` -/
def findActive (s : Engine) (dir : Direction) (id : Int) : Option Runtime :=
  match s.find dir id with
  | none => none
  | some t => if t.phase.terminal then none else some t

/-- The transfer is as given. -/
def put (t : Runtime) (s : Engine) : Engine :=
  s.setMap t.direction (Table.update (fun x => x.messageId = t.messageId) (fun _ => t)
    (s.mapFor t.direction))

/-- The transfer has ended, and this is signalled. -/
def finish (t : Runtime) (s : Engine) : Engine :=
  { s.put t with finished := s.finished ++ [t.serial] }

def send (kind : FrameKind) (t : Runtime) (s : Engine) : Engine :=
  { s with
    sent := s.sent ++ [⟨kind, t.messageId, t.serial, t.slotGranted, t.userPaused⟩]
    windows :=
      if kind = .chunkUploadReq then s.windows ++ [t.inflight.map (·.offset)] else s.windows }

/-- `ActiveCount` -/
def activeCount (s : Engine) (dir : Direction) : Nat :=
  (s.mapFor dir).countP fun t => t.slotGranted && !t.phase.terminal

end Engine

variable (cfg : Config) (env : Env)

/-! ### Phases of one transfer -/

/-- All that is on its way is outdated. -/
def Runtime.expire (t : Runtime) : Runtime :=
  { t with staleOffsets := t.staleOffsets ++ t.inflight.map (·.offset), inflight := [] }

/-- `CloseFiles` -/
def Runtime.closeFiles (t : Runtime) : Runtime :=
  { t with source := false, part := false, hasher := [] }

def beginQuery (t : Runtime) (s : Engine) : Engine :=
  if s.connUp = false ∨ t.userPaused = true then
    s.put { t with proofPending := false, phase := .querying, querySentMs := 0 }
  else
    let t := { t with proofPending := false, phase := .querying, querySentMs := env.now }
    match t.direction with
    | .upload => (s.put t.expire).send .progressReq t.expire
    | .download =>
      let t := { t with inflight := [], staleOffsets := [] }
      (s.put t).send .downInfoReq t

/-- The offset of the server, within the file and at a chunk boundary. -/
def alignedOffset (t : Runtime) (serverOffset : Int) : Int :=
  (min (max serverOffset 0) t.totalBytes) / chunkSize * chunkSize

def rollbackUploadTo (t : Runtime) (serverOffset : Int) : Runtime :=
  { t.expire with
    ackedBytes := alignedOffset t serverOffset
    wireBytes := alignedOffset t serverOffset }

def resyncUpload (t : Runtime) (s : Engine) : Engine :=
  beginQuery env (rollbackUploadTo t t.ackedBytes) s

def backoffIntervalMs (retryCount : Nat) : Nat :=
  min (cfg.backoffInitialMs * 2 ^ min retryCount 5) cfg.backoffMaxMs

def scheduleBackoff (t : Runtime) : Runtime :=
  { t with
    phase := .backoff
    retryAtMs := env.now + backoffIntervalMs cfg t.retryCount
    retryCount := t.retryCount + 1 }

/-! ### Slots -/

/-- The scan of `PromoteWaiting`: what is no longer waiting is dropped, what is
paused keeps its place, and the first that can be scheduled is taken out. -/
def scanWait (s : Engine) (dir : Direction) : List Int → List Int × Option Int
  | [] => ([], none)
  | id :: rest =>
    match s.find dir id with
    | none => scanWait s dir rest
    | some t =>
      if t.phase.terminal ∨ t.direction ≠ dir ∨ t.slotGranted then scanWait s dir rest
      else if t.userPaused then (id :: (scanWait s dir rest).1, (scanWait s dir rest).2)
      else (rest, some id)

/-- A transfer waits for a slot. -/
def Runtime.waiting (t : Runtime) : Bool := !t.phase.terminal && !t.slotGranted

/-- The transfers of a direction that a slot could be given to. -/
def Engine.eligible (s : Engine) (dir : Direction) : List Runtime :=
  (s.mapFor dir).filter fun t => t.waiting && !t.userPaused

/-- A slot is given to the transfer. -/
def Engine.logGrant (s : Engine) (dir : Direction) (t : Runtime) : Engine :=
  { s with grants := s.grants ++ [(t.serial, (s.eligible dir).map (·.serial))] }

/-- The loop of `PromoteWaiting`; every round that goes on takes one out of the
queue, so its length bounds the rounds. -/
def promoteLoop (dir : Direction) : Nat → Engine → Engine
  | 0, s => s
  | n + 1, s =>
    if s.activeCount dir < cfg.limit dir ∧ s.wait dir ≠ [] then
      match scanWait s dir (s.wait dir) with
      | (rest, none) => s.setWait dir rest
      | (rest, some id) =>
        match s.find dir id with
        | none => s.setWait dir rest
        | some t =>
          promoteLoop dir n (beginQuery env { t with slotGranted := true }
            ((s.setWait dir rest).logGrant dir t))
    else s

def promoteWaiting (dir : Direction) (s : Engine) : Engine :=
  promoteLoop cfg env dir (s.wait dir).length s

def failTransfer (t : Runtime) (errorCode : Int) (text : String) (s : Engine) : Engine :=
  promoteWaiting cfg env t.direction
    (s.finish { t.closeFiles with phase := .failed, errorCode := errorCode, errorText := text })

def completeTransfer (t : Runtime) (eventSeq : Int) (s : Engine) : Engine :=
  promoteWaiting cfg env t.direction
    (s.finish
      { t.closeFiles with
        phase := .completed, eventSeq := eventSeq, errorCode := 0, errorText := "" })

/-! ### Sending chunks -/

/-- The chunk at an offset. -/
def nextLength (t : Runtime) : Int := min chunkSize (t.totalBytes - t.wireBytes)

/-- `SendNextChunk`; the flag is its result. -/
def sendNextChunk (t : Runtime) (s : Engine) : Bool × Engine :=
  if nextLength t ≤ 0 ∨ cfg.maxInflightChunks ≤ t.inflight.length then (false, s)
  else
    let sent : Runtime :=
      { t with
        inflight := t.inflight ++ [⟨t.wireBytes, nextLength t, env.now⟩]
        wireBytes := t.wireBytes + nextLength t }
    match t.direction with
    | .upload =>
      if t.source = false ∨ env.sourceRead t.messageId t.wireBytes = .seekFailed then
        (false, failTransfer cfg env t 0 "local source seek failed" s)
      else if env.sourceRead t.messageId t.wireBytes = .readFailed then
        (false, failTransfer cfg env t 0 "local source read failed" s)
      else (true, (s.put sent).send .chunkUploadReq sent)
    | .download => (true, (s.put sent).send .chunkDownReq sent)

/-- The bytes on their way. -/
def Runtime.inflightBytes (t : Runtime) : Int := (t.inflight.map (·.length)).sum

/-- The transfers that may send another chunk. -/
def Runtime.sendable (t : Runtime) : Bool :=
  t.phase = .active && t.slotGranted && !t.reconnectRequested && !t.userPaused &&
    decide (t.inflight.length < cfg.maxInflightChunks) && decide (t.wireBytes < t.totalBytes)

/-- The scan of `Pump`: the first of those with the fewest bytes on their way. -/
def pickBest : List Runtime → Option Runtime
  | [] => none
  | t :: rest =>
    match pickBest rest with
    | none => if t.sendable cfg then some t else none
    | some b => if t.sendable cfg ∧ t.inflightBytes ≤ b.inflightBytes then some t else some b

/-- The rounds that `Pump` can make: the free places of all windows. -/
def Engine.room (s : Engine) : Nat :=
  ((s.uploads ++ s.downloads).map fun t => cfg.maxInflightChunks - t.inflight.length).sum

def pumpLoop : Nat → Engine → Engine
  | 0, s => s
  | n + 1, s =>
    match pickBest cfg (s.uploads ++ s.downloads) with
    | none => s
    | some t =>
      match sendNextChunk cfg env t s with
      | (true, s) => pumpLoop n s
      | (false, s) => s

def pump (s : Engine) : Engine :=
  if s.connUp = false then s else pumpLoop cfg env (s.room cfg + 1) s

/-! ### Errors of uploads -/

def isPermanentError (error : Int) : Bool :=
  error = 2111 || error = 2113 || error = 2115 || error = 2116

def isRollbackError (error : Int) : Bool := error = 2107 || error = 2112

/-- A reply that makes no sense, counted up to the limit. -/
def badReply (t : Runtime) (text : String) (retry : Runtime → Runtime) (s : Engine) : Engine :=
  let t := { t with jsonErrorCount := t.jsonErrorCount + 1 }
  if cfg.jsonErrorLimit ≤ t.jsonErrorCount then failTransfer cfg env t 2001 text s
  else s.put (scheduleBackoff cfg env (retry t))

def verifySourceHashOn2117 (t : Runtime) (serverOffset : Int) (s : Engine) : Engine :=
  match env.sourceHash t.upload.filePath with
  | none => failTransfer cfg env t 0 "source file unreadable" s
  | some none => failTransfer cfg env t 0 "source file read failed" s
  | some (some computed) =>
    if computed ≠ t.upload.sha256.toLower then failTransfer cfg env t 2117 "source file changed" s
    else s.put (scheduleBackoff cfg env (rollbackUploadTo t serverOffset))

def handleUploadError (t : Runtime) (error serverOffset : Int) (s : Engine) : Engine :=
  if isPermanentError error then failTransfer cfg env t error "permanent server error" s
  else if error = 2117 then verifySourceHashOn2117 cfg env t serverOffset s
  else if isRollbackError error then
    let t := rollbackUploadTo t serverOffset
    if cfg.chunkRetryLimit ≤ t.chunkRetryCount + 1 then
      s.put (scheduleBackoff cfg env { t with chunkRetryCount := 0 })
    else
      pump cfg env
        (s.put { t with chunkRetryCount := t.chunkRetryCount + 1, phase := .active })
  else
    let fallback := if 0 ≤ serverOffset then serverOffset else t.ackedBytes
    if error = 2001 ∨ error = 0 then
      badReply cfg env t "repeated malformed response" (rollbackUploadTo · fallback) s
    else s.put (scheduleBackoff cfg env (rollbackUploadTo t fallback))

/-- `EnsureSourceOpen`: the transfer with its source open, or why it fails. -/
def ensureSourceOpen (t : Runtime) : Except String Runtime :=
  if t.source then .ok t
  else match env.sourceSize t.upload.filePath with
    | none => .error "source file missing"
    | some size =>
      if size ≠ t.totalBytes then .error "source file size mismatch"
      else if env.sourceOpens t.upload.filePath = false then .error "source file open failed"
      else .ok { t with source := true }

/-- The start of the last chunk. -/
def lastOffset (t : Runtime) : Int := ((t.totalBytes + chunkSize - 1) / chunkSize - 1) * chunkSize

def maybeResendLastChunk (t : Runtime) (s : Engine) : Engine :=
  if t.userPaused then s.put t
  else if cfg.chunkRetryLimit ≤ t.publishRetryCount then
    s.put (scheduleBackoff cfg env { t with publishRetryCount := 0 })
  else if t.source = false then failTransfer cfg env t 0 "source file missing" s
  else
    let t := { t with publishRetryCount := t.publishRetryCount + 1 }
    match env.sourceRead t.messageId (lastOffset t) with
    | .seekFailed => failTransfer cfg env t 0 "local source seek failed" s
    | .readFailed => failTransfer cfg env t 0 "local source read failed" s
    | .done =>
      let t : Runtime :=
        { t with
          inflight := t.inflight ++ [⟨lastOffset t, t.totalBytes - lastOffset t, env.now⟩]
          phase := .active }
      (s.put t).send .chunkUploadReq t

/-! ### Replies to uploads -/

def handleChunkUploadRsp (rsp : ChunkUploadRsp) (s : Engine) : Engine :=
  match s.findActive .upload rsp.messageId with
  | none => s
  | some t =>
    if t.phase = .querying ∧ t.inflight = [] ∧ t.staleOffsets = [] then s
    else if t.staleOffsets.head? = some rsp.offset then
      s.put { t with staleOffsets := t.staleOffsets.tail }
    else if rsp.offset < 0 ∨ (t.inflight.head?.map (·.offset)) ≠ some rsp.offset then
      if 0 ≤ rsp.offset ∧ t.inflight = [] ∧ t.staleOffsets = [] ∧ rsp.offset < t.wireBytes then s
      else resyncUpload env t s
    else
      let t := { t with inflight := t.inflight.tail }
      if rsp.ok = false then badReply cfg env t "repeated malformed response" id s
      else if rsp.error ≠ 0 then handleUploadError cfg env t rsp.error rsp.serverOffset s
      else
        let t : Runtime :=
          { t with
            jsonErrorCount := 0
            chunkRetryCount := 0
            ackedBytes :=
              if t.ackedBytes < rsp.serverOffset then min rsp.serverOffset t.totalBytes
              else t.ackedBytes }
        if rsp.status = 1 then completeTransfer cfg env t rsp.eventSeq s
        else if t.totalBytes ≤ t.ackedBytes then maybeResendLastChunk cfg env t s
        else pump cfg env (s.put { t with phase := .active })

/-- `SendInstantProof` -/
def sendInstantProof (t : Runtime) (nonce : String) (offset length : Int) (s : Engine) : Engine :=
  let nonceOk := nonce.length = 32 && nonce.toList.all fun c =>
    ('0' ≤ c && c ≤ '9') || ('a' ≤ c && c ≤ 'f') || ('A' ≤ c && c ≤ 'F')
  if nonceOk = false ∨ offset < 0 ∨ length ≤ 0 ∨ 65536 < length ∨
      t.totalBytes - length < offset then
    badReply cfg env t "malformed proof challenge" id s
  else if t.source = false ∨ env.sourceRead t.messageId offset = .seekFailed then
    failTransfer cfg env t 0 "local source seek failed" s
  else if env.sourceRead t.messageId offset = .readFailed then
    failTransfer cfg env t 0 "local source read failed" s
  else
    let t : Runtime :=
      { rollbackUploadTo t t.ackedBytes with
        publishRetryCount := 0
        phase := .querying
        proofPending := true
        querySentMs := env.now }
    (s.put t).send .instantProofReq t

def handleProgressRsp (rsp : ProgressRsp) (s : Engine) : Engine :=
  match s.findActive .upload rsp.messageId with
  | none => s
  | some t =>
    if t.proofPending then s
    else
      let t := { t with querySentMs := 0 }
      if rsp.ok = false ∨ rsp.error ≠ 0 then
        handleUploadError cfg env t (if rsp.ok then rsp.error else 2001) rsp.serverOffset s
      else if rsp.status = 1 then completeTransfer cfg env t rsp.eventSeq s
      else if rsp.status = 2 then failTransfer cfg env t 2116 "server marked failed" s
      else if rsp.fileSizeBytes ≠ t.totalBytes then
        failTransfer cfg env t 0 "file size mismatch with server" s
      else if 0 < rsp.chunkSize ∧ rsp.chunkSize ≠ chunkSize then
        badReply cfg env t "server chunk_size mismatch" id s
      else
        let so := min (max rsp.serverOffset 0) t.totalBytes
        let t : Runtime := { t with ackedBytes := so, wireBytes := so, phase := .active }
        if t.userPaused then s.put t
        else match ensureSourceOpen env t with
          | .error text => failTransfer cfg env t 0 text s
          | .ok t =>
            if rsp.mode = "proof" ∧ t.proofDisabled = false then
              sendInstantProof cfg env t rsp.challengeNonce rsp.challengeOffset
                rsp.challengeLength s
            else
              let t := { t with jsonErrorCount := 0, publishRetryCount := 0 }
              if t.totalBytes ≤ so then maybeResendLastChunk cfg env t s
              else pump cfg env (s.put t)

def handleInstantProofRsp (rsp : InstantProofRsp) (s : Engine) : Engine :=
  match s.findActive .upload rsp.messageId with
  | none => s
  | some t =>
    if t.proofPending = false then s
    else
      let t := { t with proofPending := false, querySentMs := 0 }
      if rsp.ok = false then handleUploadError cfg env t 2001 (-1) s
      else if rsp.error = 2118 then resyncUpload env { t with proofDisabled := true } s
      else if rsp.error ≠ 0 then handleUploadError cfg env t rsp.error rsp.serverOffset s
      else if rsp.status ≠ 1 then handleUploadError cfg env t 2001 (-1) s
      else if rsp.serverOffset ≠ t.totalBytes ∨ rsp.eventSeq ≤ 0 then
        handleUploadError cfg env t 2001 (-1) s
      else
        completeTransfer cfg env
          { t with ackedBytes := t.totalBytes, wireBytes := t.totalBytes } rsp.eventSeq s

/-! ### Downloads -/

variable (sha256Hex : List UInt8 → String)

/-- `PartPathOf` -/
def partPathOf (dest : String) : String := dest ++ ".part"

def Engine.setFile (s : Engine) (path : String) (content : Option (List UInt8)) : Engine :=
  { s with files := fun p => if p = path then content else s.files p }

/-- The content of a file; one that does not exist is opened empty. -/
def Engine.content (s : Engine) (path : String) : List UInt8 := (s.files path).getD []

def finishDownload (t : Runtime) (s : Engine) : Engine :=
  let path := partPathOf t.download.destFilePath
  let dest := t.download.destFilePath
  if t.part = false then failTransfer cfg env t 0 "part file missing" s
  else if t.hashValid = false ∧ env.partSeeks 0 = false then
    failTransfer cfg env t 0 "part file seek failed" s
  else if t.hashValid = false ∧ env.partReads = false then
    failTransfer cfg env t 0 "part file read failed" s
  else
    let finalHash := sha256Hex (if t.hashValid then t.hasher else s.content path)
    if t.expectedSha256 ≠ "" ∧ finalHash ≠ t.expectedSha256.toLower then
      failTransfer cfg env t 0 "whole file hash mismatch" (s.setFile path none)
    else if (s.files dest).isSome ∧ env.destRemoves = false then
      failTransfer cfg env t 0 "dest file remove failed" s
    else if env.partRenames = false then
      failTransfer cfg env t 0 "part rename failed" (s.setFile dest none)
    else
      completeTransfer cfg env { t with ackedBytes := t.totalBytes, localDownloadPath := dest } 0
        ((s.setFile dest (s.files path)).setFile path none)

def openDownloadPart (t : Runtime) (s : Engine) : Engine :=
  let path := partPathOf t.download.destFilePath
  if env.partOpens = false then
    failTransfer cfg env t.closeFiles 0 "part file open failed" s
  else
    let content := s.content path
    let size : Int := if t.totalBytes < content.length then 0 else content.length
    let resume := if 0 < size then (size - 1) / chunkSize * chunkSize else 0
    if resume ≠ content.length ∧ env.partResizes = false then
      failTransfer cfg env t.closeFiles 0 "part file truncate failed"
        (s.setFile path (some content))
    else
      let s := s.setFile path (some (content.take resume.toNat))
      let t : Runtime :=
        { t with
          part := true
          ackedBytes := resume
          wireBytes := resume
          hasher := []
          hashedLen := 0
          hashValid := resume = 0
          inflight := []
          staleOffsets := [] }
      if t.totalBytes = 0 ∨ t.totalBytes ≤ t.ackedBytes then finishDownload cfg env sha256Hex t s
      else pump cfg env (s.put { t with phase := .active })

def handleDownInfoRsp (rsp : DownInfoRsp) (s : Engine) : Engine :=
  match s.findActive .download rsp.messageId with
  | none => s
  | some t =>
    let t := { t with querySentMs := 0 }
    if rsp.ok = false ∨ rsp.error ≠ 0 then
      let error := if rsp.ok then rsp.error else 2001
      if isPermanentError error then failTransfer cfg env t error "permanent server error" s
      else if error = 2001 then badReply cfg env t "repeated malformed response" id s
      else s.put (scheduleBackoff cfg env t)
    else
      let t := { t with jsonErrorCount := 0 }
      if 0 < t.download.fileSizeBytes ∧ t.download.fileSizeBytes ≠ rsp.fileSizeBytes then
        failTransfer cfg env t 0 "metadata size mismatch" s
      else
        openDownloadPart cfg env sha256Hex
          { t with
            totalBytes := rsp.fileSizeBytes
            expectedSha256 := if rsp.sha256 = "" then t.expectedSha256 else rsp.sha256
            infoSha256 := rsp.sha256 } s

/-- Bytes written at an offset. -/
def overwrite (content : List UInt8) (offset : Nat) (data : List UInt8) : List UInt8 :=
  content.take offset ++ List.replicate (offset - content.length) 0 ++ data ++
    content.drop (offset + data.length)

def handleChunkDownRsp (rsp : ChunkDownRsp) (s : Engine) : Engine :=
  match s.findActive .download rsp.messageId with
  | none => s
  | some t =>
    if t.phase = .querying ∧ t.inflight = [] ∧ t.staleOffsets = [] then s
    else if t.staleOffsets.head? = some rsp.offset then
      s.put { t with staleOffsets := t.staleOffsets.tail }
    else if rsp.ok = false ∨ rsp.error ≠ 0 then
      let error := if rsp.ok then rsp.error else 2001
      if isPermanentError error then failTransfer cfg env t error "permanent server error" s
      else if error = 2107 then
        s.put (scheduleBackoff cfg env
          { t with inflight := [], staleOffsets := [], wireBytes := t.ackedBytes })
      else if error = 2001 then badReply cfg env t "repeated malformed response" id s
      else s.put (scheduleBackoff cfg env t)
    else match t.inflight with
      | [] =>
        if 0 ≤ rsp.offset ∧ t.staleOffsets = [] ∧ rsp.offset < t.wireBytes then s
        else s.put (scheduleBackoff cfg env t)
      | c :: rest =>
        if rsp.offset < 0 ∨ rsp.offset ≠ c.offset then s.put (scheduleBackoff cfg env t)
        else
          let raw := rsp.data
          let t := { t with inflight := rest }
          if raw = [] ∨ (raw.length : Int) ≠ rsp.bytes ∨ (raw.length : Int) ≠ c.length ∨
              rsp.totalSize ≠ t.totalBytes ∨ t.totalBytes - raw.length < rsp.offset ∨
              sha256Hex raw ≠ rsp.chunkSha256 ∨ rsp.offset ≠ t.ackedBytes then
            let t := { t with chunkRetryCount := t.chunkRetryCount + 1 }
            if cfg.chunkRetryLimit ≤ t.chunkRetryCount then
              failTransfer cfg env t 0 "chunk validation failed" s
            else pump cfg env (s.put { t.expire with wireBytes := rsp.offset })
          else
            let t := { t with jsonErrorCount := 0, chunkRetryCount := 0 }
            let path := partPathOf t.download.destFilePath
            if t.part = false ∨ env.partSeeks rsp.offset = false then
              failTransfer cfg env t 0 "part file seek failed" s
            else
              let content := s.content path
              let written := min (env.partWrites raw.length) raw.length
              let s := s.setFile path
                (some (overwrite content rsp.offset.toNat (raw.take written)))
              if written ≠ raw.length then failTransfer cfg env t 0 "part file write failed" s
              else
                let t : Runtime :=
                  if t.hashValid = true ∧ t.hashedLen = rsp.offset then
                    { t with hasher := t.hasher ++ raw, hashedLen := t.hashedLen + raw.length }
                  else { t with hashValid := false }
                let t := { t with ackedBytes := rsp.offset + raw.length }
                if t.totalBytes ≤ t.ackedBytes then finishDownload cfg env sha256Hex t s
                else pump cfg env (s.put t)

/-! ### Calls -/

/-- A new transfer takes the place of one that has ended. -/
def Engine.insert (t : Runtime) (s : Engine) : Engine :=
  { s.setMap t.direction (env.shuffle
      (t :: (s.mapFor t.direction).filter fun x => x.messageId ≠ t.messageId)) with
    nextSerial := s.nextSerial + 1 }

/-- The end of `StartUpload` and `StartDownload`: a slot or the queue. -/
def enlist (t : Runtime) (s : Engine) : Engine :=
  let s := Engine.insert env t s
  if cfg.limit t.direction ≤ s.activeCount t.direction then
    s.setWait t.direction (s.wait t.direction ++ [t.messageId])
  else beginQuery env { t with slotGranted := true } s

/-- The erasure of the record of a transfer that has ended. -/
def Engine.erase (dir : Direction) (id : Int) (s : Engine) : Engine :=
  s.setMap dir ((s.mapFor dir).filter fun x => x.messageId ≠ id)

/-- A transfer that fails before it is registered; no other transfer ends in between. -/
def stillborn (t : Runtime) (text : String) (s : Engine) : Engine :=
  let s := promoteWaiting cfg env t.direction (s.erase t.direction t.messageId)
  { Engine.insert env { t.closeFiles with phase := .failed, errorText := text } s with
    finished := s.finished ++ [t.serial] }

def startUpload (req : UploadRequest) (s : Engine) : Engine :=
  if req.messageId ≤ 0 ∨ req.filePath = "" then s
  else if (s.findActive .upload req.messageId).isSome then s
  else
    let t : Runtime :=
      { messageId := req.messageId
        direction := .upload
        upload := req
        totalBytes := req.fileSizeBytes
        serial := s.nextSerial }
    if req.fileSizeBytes ≤ 0 then stillborn cfg env t "empty source file" s
    else enlist cfg env t s

def startDownload (req : DownloadRequest) (s : Engine) : Engine :=
  if req.messageId ≤ 0 ∨ req.destFilePath = "" then s
  else if (s.findActive .download req.messageId).isSome then s
  else
    let t : Runtime :=
      { messageId := req.messageId
        direction := .download
        download := req
        totalBytes := req.fileSizeBytes
        expectedSha256 := req.sha256
        serial := s.nextSerial }
    if env.mkpath = false then stillborn cfg env t "dest dir create failed" s
    else enlist cfg env t s

def pauseTransfer (dir : Direction) (id : Int) (s : Engine) : Engine :=
  match s.findActive dir id with
  | none => s
  | some t => if t.userPaused then s else s.put { t with userPaused := true }

def resumeTransfer (dir : Direction) (id : Int) (s : Engine) : Engine :=
  match s.findActive dir id with
  | none => s
  | some t =>
    if t.userPaused = false then s
    else
      let t := { t with userPaused := false }
      if t.slotGranted = false then promoteWaiting cfg env dir (s.put t)
      else match t.direction with
        | .upload => resyncUpload env t s
        | .download => beginQuery env t s

def cancelTransfer (dir : Direction) (id : Int) (s : Engine) : Engine :=
  match s.findActive dir id with
  | none => s
  | some t => failTransfer cfg env t 0 "cancelled" s

/-- What a lost connection leaves of a transfer. -/
def Runtime.connectionDown (t : Runtime) : Runtime :=
  if t.phase.terminal then t
  else
    { t with
      inflight := []
      staleOffsets := []
      wireBytes := t.ackedBytes
      querySentMs := 0
      proofPending := false
      reconnectRequested := false }

def onConnectionDown (s : Engine) : Engine :=
  { s with
    connUp := false
    awaitingReconnect := false
    uploads := s.uploads.map Runtime.connectionDown
    downloads := s.downloads.map Runtime.connectionDown }

def reset (s : Engine) : Engine :=
  { files := s.files, nextSerial := s.nextSerial, sent := s.sent, finished := s.finished
    grants := s.grants, windows := s.windows }

/-- The body of the loop of `OnConnectionAuthenticated`. -/
def requery (dir : Direction) (s : Engine) (id : Int) : Engine :=
  match s.find dir id with
  | none => s
  | some t =>
    if t.slotGranted = false ∨ t.phase.terminal ∨ t.userPaused then s
    else beginQuery env { t with reconnectRequested := false, retryCount := 0 } s

def onConnectionAuthenticated (s : Engine) : Engine :=
  let s := { s with connUp := true, awaitingReconnect := false }
  let s := (s.uploads.map (·.messageId)).foldl (requery env .upload) s
  pump cfg env ((s.downloads.map (·.messageId)).foldl (requery env .download) s)

def handleTimeout (t : Runtime) (s : Engine) : Engine :=
  let t :=
    { t with inflight := [], staleOffsets := [], wireBytes := t.ackedBytes, querySentMs := 0 }
  if t.userPaused then s.put t
  else
    { s.put { t with proofPending := false, reconnectRequested := true } with
      awaitingReconnect := true }

/-- The body of the loop of `OnTick`. -/
def tick (dir : Direction) (s : Engine) (id : Int) : Engine :=
  match s.findActive dir id with
  | none => s
  | some t =>
    if t.phase = .backoff ∧ 0 < t.retryAtMs ∧ t.retryAtMs ≤ env.now then
      if s.connUp then beginQuery env { t with retryAtMs := 0 } s
      else s.put { t with retryAtMs := env.now + cfg.backoffInitialMs }
    else match t.phase, t.inflight with
      | .active, c :: _ => if c.sentMs + cfg.ackTimeoutMs ≤ env.now then handleTimeout t s else s
      | .querying, _ =>
        if 0 < t.querySentMs ∧ t.querySentMs + cfg.ackTimeoutMs ≤ env.now then handleTimeout t s
        else s
      | _, _ => s

def onTick (s : Engine) : Engine :=
  let s := (s.uploads.map (·.messageId)).foldl (tick cfg env .upload) s
  (s.downloads.map (·.messageId)).foldl (tick cfg env .download) s

/-! ### Runs -/

inductive Event
  | startUpload (req : UploadRequest)
  | startDownload (req : DownloadRequest)
  | pauseTransfer (dir : Direction) (id : Int)
  | resumeTransfer (dir : Direction) (id : Int)
  | cancelTransfer (dir : Direction) (id : Int)
  | connectionDown
  | connectionAuthenticated
  | reset
  | tick
  /-- 1506 -/
  | chunkUploadRsp (f : Fields)
  /-- 1508 -/
  | progressRsp (f : Fields)
  /-- 1510 -/
  | downInfoRsp (f : Fields)
  /-- 1512 -/
  | chunkDownRsp (f : Fields)
  /-- 1514 -/
  | instantProofRsp (f : Fields)

def step (s : Engine) (e : Env × Event) : Engine :=
  match e.2 with
  | .startUpload req => startUpload cfg e.1 req s
  | .startDownload req => startDownload cfg e.1 req s
  | .pauseTransfer dir id => pauseTransfer dir id s
  | .resumeTransfer dir id => resumeTransfer cfg e.1 dir id s
  | .cancelTransfer dir id => cancelTransfer cfg e.1 dir id s
  | .connectionDown => onConnectionDown s
  | .connectionAuthenticated => onConnectionAuthenticated cfg e.1 s
  | .reset => reset s
  | .tick => onTick cfg e.1 s
  | .chunkUploadRsp f => handleChunkUploadRsp cfg e.1 (decodeChunkUploadRsp f) s
  | .progressRsp f => handleProgressRsp cfg e.1 (decodeProgressRsp f) s
  | .downInfoRsp f => handleDownInfoRsp cfg e.1 sha256Hex (decodeDownInfoRsp f) s
  | .chunkDownRsp f => handleChunkDownRsp cfg e.1 sha256Hex (decodeChunkDownRsp f) s
  | .instantProofRsp f => handleInstantProofRsp cfg e.1 (decodeInstantProofRsp f) s

def run (s : Engine) (es : List (Env × Event)) : Engine := es.foldl (step cfg sha256Hex) s

end LlfcChat.Transfer
