/-
The download side of ResourceServer: `DownloadWorker` with its cache of
published messages and its open files, the information query (1509) and the
chunk download (1511).
-/
import LlfcChat.Resource.World

namespace LlfcChat.Resource

/-! ### Caches -/

/-- `PublishedCacheEntry`.  `firstSession` is a weak pointer to a connection;
connections are numbered and no number is used again, so a pointer that has
expired differs from every connection that makes a request. -/
structure PublishedCacheEntry where
  firstSession : Nat
  senderUserId : Int
  recipientUserId : Int
  messageType : Int
  filePath : Path
  fileSizeBytes : Nat
  sha256 : String
  originalFileName : String
  mimeType : String
  deriving DecidableEq

/-- `FileHandleEntry`. -/
structure FileHandleEntry where
  file : Handle
  lastUsed : Nat
  deriving DecidableEq

structure DownloadWorker where
  publishedCache : List (Int × PublishedCacheEntry) := []
  fileHandles : List (Int × FileHandleEntry) := []
  deriving DecidableEq

/-- `kPublishedCacheLimit`, `kFileHandleLimit`, and `kFileHandleIdle` in seconds. -/
def publishedCacheLimit : Nat := 1024
def fileHandleLimit : Nat := 64
def fileHandleIdle : Nat := 60

/-- The value under a key. -/
def valueAt {α : Type} (entries : List (Int × α)) (key : Int) : Option α :=
  (entries.find? (·.1 = key)).map (·.2)

/-- The entries with another value under a key. -/
def setValue {α : Type} (entries : List (Int × α)) (key : Int) (a : α) : List (Int × α) :=
  (key, a) :: entries.filter (·.1 ≠ key)

def eraseKey {α : Type} (entries : List (Int × α)) (key : Int) : List (Int × α) :=
  entries.filter (·.1 ≠ key)

/-! ### Authorization -/

/-- `ResolveStatus`, with the entry of a message that may be read. -/
inductive ResolveStatus
  | authorized (entry : PublishedCacheEntry)
  | forbidden | notReady | notFound | dbError
  deriving DecidableEq

/-- The entry of a published message. -/
def PublishedCacheEntry.of (session : Nat) (msg : ChatMessage) (r : MessageResource) :
    PublishedCacheEntry :=
  { firstSession := session
    senderUserId := msg.senderUserId
    recipientUserId := msg.recipientUserId
    messageType := msg.messageType
    filePath := resourceBlobPath r.sha256
    fileSizeBytes := r.fileSizeBytes
    sha256 := r.sha256
    originalFileName := r.originalFileName
    mimeType := r.mimeType }

/-- The part of `ResolvePublished` behind the cache. -/
def resolveUncached (session : Nat) (uid : Int) : ChatMsgLookup → ResolveStatus
  | .notFound => .notFound
  | .transient => .dbError
  | .found msg =>
    if uid = 0 ∨ (uid ≠ msg.senderUserId ∧ uid ≠ msg.recipientUserId) then .forbidden
    else if msg.status ≠ .published then .notReady
    else .authorized (.of session msg (msg.resource.getD {}))

/-- `DownloadWorker::ResolvePublished`. -/
def resolvePublished (dw : DownloadWorker) (session : Nat) (messageId uid : Int) :
    Prog (ResolveStatus × DownloadWorker) := do
  match valueAt dw.publishedCache messageId with
  | some entry =>
    if entry.firstSession = session then return (.authorized entry, dw)
    else if uid ≠ 0 ∧ (uid = entry.senderUserId ∨ uid = entry.recipientUserId) then
      let entry := { entry with firstSession := session }
      return (.authorized entry,
        { dw with publishedCache := setValue dw.publishedCache messageId entry })
    else return (.forbidden, dw)
  | none =>
    match resolveUncached session uid (← call (.getChatMsgById messageId)) with
    | .authorized entry =>
      let cache := if publishedCacheLimit ≤ dw.publishedCache.length then [] else dw.publishedCache
      return (.authorized entry, { dw with publishedCache := setValue cache messageId entry })
    | status => return (status, dw)

/-! ### The information query -/

/-- `ResourceDownInfoTask` and `ResourceChunkDownTask`. -/
structure DownInfoTask where
  session : Nat
  messageId : Int
  deriving DecidableEq

structure ChunkDownTask where
  session : Nat
  messageId : Int
  offset : Nat
  deriving DecidableEq

/-- The error code of a request that is not authorized. -/
def ResolveStatus.error : ResolveStatus → ErrorCode
  | .authorized _ => .success
  | .forbidden => .resourceForbidden
  | .notReady => .resourceNotReady
  | .notFound => .msgIdErr
  | .dbError => .rpcFailed

def DownInfoTask.fail (task : DownInfoTask) (error : ErrorCode) : Prog Unit :=
  call (.send task.session
    { msgType := idResourceDownInfoRsp, error := error, messageId := task.messageId })

/-- `HandleResourceDownInfo`. -/
def handleResourceDownInfo (task : DownInfoTask) (dw : DownloadWorker) : Prog DownloadWorker := do
  let uid ← call (.getUserId task.session)
  match ← resolvePublished dw task.session task.messageId uid with
  | (.authorized entry, dw) =>
    match ← call (.fileStatus entry.filePath) with
    | .found =>
      call (.send task.session
        { msgType := idResourceDownInfoRsp
          error := .success
          messageId := task.messageId
          fileName := some entry.originalFileName
          fileSizeBytes := some entry.fileSizeBytes
          sha256 := some entry.sha256
          mimeType := some entry.mimeType
          messageType := some entry.messageType
          status := some MessageStatus.published.toInt })
      return dw
    | _ =>
      task.fail .fileNotExists
      return dw
  | (status, dw) =>
    task.fail status.error
    return dw

/-! ### The chunk download -/

/-- The `respond` of `HandleResourceChunkDown`: a 1512. -/
def ChunkDownTask.reply (task : ChunkDownTask) (error : ErrorCode) (raw : List UInt8)
    (chunkHash : String) (isLast : Bool) (total : Nat) : Prog Unit :=
  call (.send task.session
    { msgType := idResourceChunkDownRsp
      error := error
      messageId := task.messageId
      offset := some (Int.bmod task.offset (2 ^ 64))
      bytes := some raw.length
      chunkSha256 := if chunkHash = "" then none else some chunkHash
      totalSize := some total
      isLast := some isLast
      raw := raw })

/-- `EvictIdleFileHandles`. -/
def evictIdleFileHandles (handles : List (Int × FileHandleEntry)) (now : Nat) :
    List (Int × FileHandleEntry) :=
  handles.filter fun h => decide (now - h.2.lastUsed ≤ fileHandleIdle)

/-- The handle that was not used for the longest time. -/
def oldestHandle : List (Int × FileHandleEntry) → Option (Int × FileHandleEntry)
  | [] => none
  | h :: hs =>
    match oldestHandle hs with
    | none => some h
    | some v => if h.2.lastUsed ≤ v.2.lastUsed then some h else some v

/-- The handles after one more was opened: over the limit, the oldest of the
others is closed. -/
def addHandle (handles : List (Int × FileHandleEntry)) (key : Int) (h : FileHandleEntry) :
    List (Int × FileHandleEntry) :=
  if fileHandleLimit < handles.length + 1 then
    match oldestHandle handles with
    | some v => (key, h) :: eraseKey handles v.1
    | none => (key, h) :: handles
  else (key, h) :: handles

/-- The open file of a message: the one in the table, or a new one. -/
def fileHandle (dw : DownloadWorker) (messageId : Int) (path : Path) :
    Prog (Option Handle × DownloadWorker) := do
  let now ← call .steadyNow
  let handles := evictIdleFileHandles dw.fileHandles now
  match valueAt handles messageId with
  | some h =>
    let now ← call .steadyNow
    return (some h.file, { dw with fileHandles := setValue handles messageId ⟨h.file, now⟩ })
  | none =>
    match ← call (.openFile path) with
    | none => return (none, { dw with fileHandles := handles })
    | some file =>
      let now ← call .steadyNow
      return (some file, { dw with fileHandles := addHandle handles messageId ⟨file, now⟩ })

/-- `HandleResourceChunkDown`. -/
def handleResourceChunkDown (task : ChunkDownTask) (dw : DownloadWorker) :
    Prog DownloadWorker := do
  let uid ← call (.getUserId task.session)
  match ← resolvePublished dw task.session task.messageId uid with
  | (.authorized entry, dw) =>
    let total := entry.fileSizeBytes
    if total ≤ task.offset then
      task.reply .fileOffsetInvalid [] "" false total
      return dw
    else
      match ← fileHandle dw task.messageId entry.filePath with
      | (none, dw) =>
        task.reply .fileNotExists [] "" false total
        return dw
      | (some file, dw) =>
        let want := min resourceUploadChunkSize (total - task.offset)
        let got ← call (.read file task.offset want)
        let buf := got.getD []
        if buf.length ≠ want then
          task.reply .fileReadFailed [] "" false total
          return { dw with fileHandles := eraseKey dw.fileHandles task.messageId }
        else
          let hash ← call (.sha256Hex buf)
          task.reply .success buf hash (decide (total ≤ task.offset + buf.length)) total
          return dw
  | (status, dw) =>
    task.reply status.error [] "" false 0
    return dw

end LlfcChat.Resource
