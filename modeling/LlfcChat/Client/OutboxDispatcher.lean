/-
`OutboxDispatcher`: the register of the messages that are still to be sent.

The slots are translated one by one.  All of them run on the TCP thread, so a
slot is a function on the state of the dispatcher; what it hands to the chat
connection, to the local store and to the transfer engine is appended to
`emitted`.  What a slot reads from outside (the clock, the file system, the
login generation of `FileTcpMgr`) comes with the event that starts it, and the
clock stands still while it runs.

The register is a `QMap`: a list in the order of the keys.  The keys are UUIDs,
whose order as UTF-16 texts is that of their characters.
-/
import LlfcChat.Client.LocalChatDb

namespace LlfcChat.Outbox

/-! ### Entries -/

inductive PendingStoreAction
  | none
  | confirmText
  | confirmResource
  | markFailed
  | advanceStage
  deriving DecidableEq

/-- The actions that end with the entry out of the register. -/
def PendingStoreAction.Closing : PendingStoreAction → Prop
  | .confirmText | .confirmResource | .markFailed => True
  | .none | .advanceStage => False

instance (a : PendingStoreAction) : Decidable a.Closing :=
  match a with
  | .confirmText | .confirmResource | .markFailed => .isTrue trivial
  | .none | .advanceStage => .isFalse id

/-- `RuntimeEntry`.  The last field is not in the source: the actions begun since
the entry came into the register. -/
structure RuntimeEntry where
  entry : OutboxEntryDTO
  retryCount : Nat := 0
  nextRetryAt : Nat := 0
  action : PendingStoreAction := .none
  messageId : Int := 0
  createdAt : Int := 0
  resource : LocalMessageResourceDTO := {}
  begun : List PendingStoreAction := []
  deriving DecidableEq

/-- The key of an entry in the register. -/
def RuntimeEntry.key (rt : RuntimeEntry) : String := rt.entry.clientMessageId

/-- `TransferSnapshot`, as far as the dispatcher reads it. -/
inductive TransferPhase
  | completed
  | failed
  | other
  deriving DecidableEq

structure TransferSnapshot where
  messageId : Int
  ownerUid : Int
  loginGeneration : Nat
  upload : Bool
  phase : TransferPhase
  deriving DecidableEq

/-- The replies that are told apart. -/
inductive ReplyError
  | success
  | messageConflict
  | resourceInvalid
  | resourceSizeExceeded
  | other
  deriving DecidableEq

/-- What a slot hands over.  Requests 1301 and 1503 carry the payload of their
entry; the user they are sent for is noted with them, and with a 1301 whether the
chat connection was up: a frame that is handed over while it is down is lost. -/
inductive Request
  | textChatMsg (uid : Int) (entry : OutboxEntryDTO) (connected : Bool)
  | createResourceMsg (uid : Int) (entry : OutboxEntryDTO)
  | confirmTextSent (key : String) (messageId createdAt : Int)
  | confirmResourceSent (key localFilePath : String)
  | markSendFailed (key : String)
  | updateResourceStage (key : String) (messageId : Int)
  | loadOutbox
  | getMessageByClientId (key : String)
  | postStartUpload (messageId : Int) (filePath : String) (fileSizeBytes : Int) (sha256 : String)
  | archive (messageId ownerUid : Int) (src sha256 : String) (generation : Nat)
  | updateResourceLocalPath (messageId : Int) (path : String) (ownerUid : Int)
  deriving DecidableEq

/-- What a slot reads from outside. -/
structure Env where
  now : Nat
  fileExists : String → Bool
  loginGeneration : Nat
  /-- `QFile::exists` of an empty path. -/
  fileExists_empty : fileExists "" = false

/-- `[Delivery]` of the configuration; values that are not positive are replaced
by the defaults. -/
structure RetryConfig where
  initialMs : Nat := 2000
  maxMs : Nat := 30000
  /-- Not of the configuration but of the compiler: `slot_load_outbox` passes the
  result of `loadOutbox(&entries)` and a copy of `entries` to one signal, and the
  order of arguments is not specified.  A copy that is made first is empty. -/
  loadsFirst : Bool := true
  initialMs_pos : 0 < initialMs := by decide
  maxMs_pos : 0 < maxMs := by decide

/-- The delay after so many retries. -/
def RetryConfig.delay (cfg : RetryConfig) : Nat → Nat
  | 0 => cfg.initialMs
  | n + 1 => min (2 * cfg.delay n) cfg.maxMs

/-! ### The dispatcher -/

structure Dispatcher where
  entries : List RuntimeEntry := []
  uploading : List (Int × String) := []
  resumePending : List String := []
  restoreRetryAt : Nat := 0
  connected : Bool := false
  dbReady : Bool := false
  resourceReady : Bool := false
  restored : Bool := false
  restoring : Bool := false
  activeUid : Int := 0
  generation : Nat := 0
  scanning : Bool := false
  /-- Not in the source: all that was handed over so far. -/
  emitted : List Request := []

/-- Insertion at the place of the key. -/
def insertEntry (rt : RuntimeEntry) : List RuntimeEntry → List RuntimeEntry
  | [] => [rt]
  | e :: es => if rt.key < e.key then rt :: e :: es else e :: insertEntry rt es

namespace Dispatcher

def find (s : Dispatcher) (key : String) : Option RuntimeEntry :=
  s.entries.find? fun rt => rt.key = key

def modify (s : Dispatcher) (key : String) (f : RuntimeEntry → RuntimeEntry) : Dispatcher :=
  { s with entries := Table.update (fun rt => rt.key = key) f s.entries }

def emit (s : Dispatcher) (r : Request) : Dispatcher := { s with emitted := s.emitted ++ [r] }

def keys (s : Dispatcher) : List String := s.entries.map (·.key)

end Dispatcher

variable (cfg : RetryConfig) (env : Env)

def scheduleRetry (rt : RuntimeEntry) : RuntimeEntry :=
  { rt with retryCount := rt.retryCount + 1, nextRetryAt := env.now + cfg.delay rt.retryCount }

/-- The transaction that an action stands for. -/
def pendingRequest (rt : RuntimeEntry) : List Request :=
  match rt.action with
  | .none => []
  | .confirmText => [.confirmTextSent rt.key rt.messageId rt.createdAt]
  | .confirmResource => [.confirmResourceSent rt.key rt.resource.localFilePath]
  | .markFailed => [.markSendFailed rt.key]
  | .advanceStage => [.updateResourceStage rt.key rt.messageId]

def issuePendingAction (rt : RuntimeEntry) (s : Dispatcher) : Dispatcher :=
  { s with emitted := s.emitted ++ pendingRequest rt }

/-- The entry as `beginAction` leaves it. -/
def RuntimeEntry.begin (action : PendingStoreAction) (rt : RuntimeEntry) : RuntimeEntry :=
  scheduleRetry cfg env
    { rt with
      action := action
      retryCount := 0
      nextRetryAt := 0
      begun := rt.begun ++ [action] }

/-- `beginAction` on the entry that the caller has found and set the fields of. -/
def beginAction (set : RuntimeEntry → RuntimeEntry) (rt : RuntimeEntry)
    (action : PendingStoreAction) (s : Dispatcher) : Dispatcher :=
  issuePendingAction ((set rt).begin cfg env action)
    (s.modify rt.key fun rt => (set rt).begin cfg env action)

/-! ### Sending -/

def dispatchTextEntry (rt : RuntimeEntry) (s : Dispatcher) : Dispatcher :=
  (s.emit (.textChatMsg s.activeUid rt.entry s.connected)).modify rt.key (scheduleRetry cfg env)

def dispatchResourceEntry (rt : RuntimeEntry) (s : Dispatcher) : Dispatcher :=
  if rt.entry.stage ≠ .metadata then s
  else if rt.resource.localMessageId ≤ 0 then s
  else if env.fileExists rt.resource.localFilePath = false then
    beginAction cfg env id rt .markFailed s
  else (s.emit (.createResourceMsg s.activeUid rt.entry)).modify rt.key (scheduleRetry cfg env)

def dispatchEntry (rt : RuntimeEntry) (s : Dispatcher) : Dispatcher :=
  match rt.entry.operationType with
  | .sendText => dispatchTextEntry cfg env rt s
  | .sendResource => dispatchResourceEntry cfg env rt s

/-- The body of the loop of `dispatchDueEntries`. -/
def dispatchDue (s : Dispatcher) (key : String) : Dispatcher :=
  match s.find key with
  | none => s
  | some rt =>
    if env.now < rt.nextRetryAt then s
    else if rt.action ≠ .none then
      issuePendingAction rt (s.modify key (scheduleRetry cfg env))
    else if s.connected = false then s
    else dispatchEntry cfg env rt s

def dispatchDueEntries (s : Dispatcher) : Dispatcher :=
  if s.dbReady = false ∨ s.restored = false ∨ s.restoring = true then s
  else s.keys.foldl (dispatchDue cfg env) s

/-- The body of the loop of `dispatchRestoredFirstRound`. -/
def dispatchRestored (s : Dispatcher) (entry : OutboxEntryDTO) : Dispatcher :=
  match s.find entry.clientMessageId with
  | none => s
  | some rt =>
    if rt.nextRetryAt ≠ 0 ∨ rt.action ≠ .none then s else dispatchEntry cfg env rt s

def dispatchRestoredFirstRound (order : List OutboxEntryDTO) (s : Dispatcher) : Dispatcher :=
  order.foldl (dispatchRestored cfg env) s

/-! ### Uploads -/

def startResourceUpload (rt : RuntimeEntry) (messageId : Int) (s : Dispatcher) : Dispatcher :=
  let s := s.modify rt.key fun rt => { rt with messageId := messageId }
  if s.resourceReady = false then s
  else
    { s with uploading := (messageId, rt.key) :: s.uploading.filter (·.1 ≠ messageId) }.emit
      (.postStartUpload messageId rt.resource.localFilePath rt.resource.fileSizeBytes
        rt.resource.sha256)

def readBack (key : String) (s : Dispatcher) : Dispatcher :=
  { s with resumePending := key :: s.resumePending }.emit (.getMessageByClientId key)

/-- The body of the loop of `resumeUploadingEntries`. -/
def resumeEntry (s : Dispatcher) (key : String) : Dispatcher :=
  match s.find key with
  | none => s
  | some rt =>
    if rt.entry.operationType ≠ .sendResource ∨ rt.entry.stage ≠ .uploading ∨
        rt.action ≠ .none then s
    else if rt.resource.localMessageId ≤ 0 then
      if key ∈ s.resumePending then s else readBack key s
    else if s.uploading.any (·.1 = rt.messageId) ∨ key ∈ s.resumePending then s
    else if 0 < rt.messageId then startResourceUpload rt rt.messageId s
    else readBack key s

def resumeUploadingEntries (s : Dispatcher) : Dispatcher :=
  if s.resourceReady = false ∨ s.restored = false ∨ s.restoring = true then s
  else s.keys.foldl resumeEntry s

def handleUploadFinished (snapshot : TransferSnapshot) (s : Dispatcher) : Dispatcher :=
  match s.uploading.find? (·.1 = snapshot.messageId) with
  | none => s
  | some (_, key) =>
    match s.find key with
    | none => { s with uploading := s.uploading.filter (·.1 ≠ snapshot.messageId) }
    | some rt =>
      if rt.action ≠ .none then s
      else match snapshot.phase with
        | .completed =>
          beginAction cfg env (fun rt => { rt with messageId := snapshot.messageId }) rt
            .confirmResource s
        | .failed => beginAction cfg env id rt .markFailed s
        | .other => s

/-! ### The register and the database -/

def requestRestore (s : Dispatcher) : Dispatcher :=
  if s.connected = false ∨ s.dbReady = false ∨ s.restored = true ∨ s.restoring = true then s
  else if env.now < s.restoreRetryAt then s
  else { s with restoring := true }.emit .loadOutbox

def slotStart (s : Dispatcher) : Dispatcher :=
  let s := { s with connected := true, scanning := true }
  if s.restored = false then requestRestore env s
  else
    let s := { s with entries := s.entries.map fun rt =>
      if rt.action = .none then { rt with nextRetryAt := 0 } else rt }
    dispatchDueEntries cfg env (resumeUploadingEntries s)

/-- The register of another database is void. -/
def clearRegister (s : Dispatcher) (uid : Int) (dbReady : Bool) : Dispatcher :=
  { s with
    entries := [], uploading := [], resumePending := [], activeUid := uid, dbReady := dbReady
    restored := false, restoring := false, restoreRetryAt := 0 }

def slotDbOpened (ok : Bool) (uid : Int) (s : Dispatcher) : Dispatcher :=
  if ok = false then clearRegister s uid false
  else if s.dbReady = true ∧ s.activeUid = uid then requestRestore env s
  else
    requestRestore env
      { clearRegister s uid true with generation := s.generation + 1, scanning := true }

def slotDbClosed (s : Dispatcher) : Dispatcher :=
  { clearRegister s 0 false with generation := s.generation + 1 }

/-- A new entry of the register. -/
def register (rt : RuntimeEntry) (s : Dispatcher) : Dispatcher :=
  if (s.find rt.key).isSome then s else { s with entries := insertEntry rt s.entries }

def slotSendEnqueued (ok : Bool) (resource : LocalMessageResourceDTO) (entry : OutboxEntryDTO)
    (s : Dispatcher) : Dispatcher :=
  if ok = false then s
  else if (s.find entry.clientMessageId).isSome then s
  else dispatchDueEntries cfg env (register { entry := entry, resource := resource } s)

/-- The second loop of `slot_outbox_loaded`. -/
def readBackRestored (s : Dispatcher) (entry : OutboxEntryDTO) : Dispatcher :=
  if entry.operationType ≠ .sendResource ∨ entry.clientMessageId ∈ s.resumePending then s
  else readBack entry.clientMessageId s

def slotOutboxLoaded (ok : Bool) (entries : List OutboxEntryDTO) (s : Dispatcher) : Dispatcher :=
  if s.restoring = false then s
  else
    let s := { s with restoring := false }
    if ok = false then { s with restoreRetryAt := env.now + cfg.initialMs }
    else
      let s := { s with restoreRetryAt := 0, restored := true }
      let s := entries.foldl (fun s entry => register { entry := entry } s) s
      let s := entries.foldl readBackRestored s
      dispatchDueEntries cfg env (dispatchRestoredFirstRound cfg env entries s)

def slotMessageLoaded (ok : Bool) (dto : LocalMessageDTO) (resource : LocalMessageResourceDTO)
    (s : Dispatcher) : Dispatcher :=
  if dto.clientMessageId ∉ s.resumePending then s
  else
    let s := { s with resumePending := s.resumePending.filter (· ≠ dto.clientMessageId) }
    match s.find dto.clientMessageId with
    | none => s
    | some rt =>
      if ok = false ∨ resource.localMessageId ≤ 0 ∨ resource.localFilePath = "" then
        beginAction cfg env id rt .markFailed s
      else
        let set : RuntimeEntry → RuntimeEntry := fun rt =>
          { rt with resource := resource, messageId := dto.messageId }
        let s := s.modify rt.key set
        if rt.entry.stage = .uploading then
          if dto.messageId ≤ 0 then beginAction cfg env id rt .markFailed s
          else if s.resourceReady then startResourceUpload (set rt) dto.messageId s else s
        else dispatchDueEntries cfg env s

/-! ### Replies and results -/

def slotTextMsgRsp (error : ReplyError) (key : String) (messageId : Int) (createdAt : Option Int)
    (s : Dispatcher) : Dispatcher :=
  match s.find key with
  | none => s
  | some rt =>
    if rt.action ≠ .none then s
    else match error with
      | .success =>
        beginAction cfg env
          (fun rt => { rt with messageId := messageId, createdAt := createdAt.getD env.now }) rt
          .confirmText s
      | .messageConflict => beginAction cfg env id rt .markFailed s
      | _ => s

def slotResourceMsgMetaRsp (error : ReplyError) (key : String) (messageId : Int)
    (s : Dispatcher) : Dispatcher :=
  match s.find key with
  | none => s
  | some rt =>
    if rt.action ≠ .none then s
    else match error with
      | .messageConflict | .resourceInvalid | .resourceSizeExceeded =>
        beginAction cfg env id rt .markFailed s
      | .success =>
        beginAction cfg env (fun rt => { rt with messageId := messageId }) rt .advanceStage s
      | .other => s

def eraseEntry (key : String) (s : Dispatcher) : Dispatcher :=
  { s with
    entries := s.entries.filter (·.key ≠ key)
    uploading := s.uploading.filter (·.2 ≠ key) }

/-- The check that the three slots of a closing transaction begin with. -/
def closeEntry (action : PendingStoreAction) (ok : Bool) (dto : LocalMessageDTO) (s : Dispatcher) :
    Dispatcher :=
  match s.find dto.clientMessageId with
  | none => s
  | some rt =>
    if rt.action ≠ action then s
    else if ok then eraseEntry dto.clientMessageId s
    else s

def slotSendConfirmed (ok : Bool) (dto : LocalMessageDTO) (s : Dispatcher) : Dispatcher :=
  closeEntry .confirmText ok dto s

def slotSendFailedMarked (ok : Bool) (dto : LocalMessageDTO) (s : Dispatcher) : Dispatcher :=
  closeEntry .markFailed ok dto s

/-- The only one that does more: the archive is started behind the commit. -/
def slotResourceConfirmed (ok : Bool) (dto : LocalMessageDTO) (s : Dispatcher) : Dispatcher :=
  match s.find dto.clientMessageId with
  | none => s
  | some rt =>
    if rt.action ≠ .confirmResource then s
    else if ok then
      (eraseEntry dto.clientMessageId s).emit
        (.archive rt.messageId s.activeUid rt.resource.localFilePath rt.resource.sha256
          s.generation)
    else s

def slotResourceStageUpdated (ok : Bool) (dto : LocalMessageDTO) (s : Dispatcher) : Dispatcher :=
  match s.find dto.clientMessageId with
  | none => s
  | some rt =>
    if rt.action ≠ .advanceStage ∨ ok = false then s
    else
      let set : RuntimeEntry → RuntimeEntry := fun rt =>
        { rt with
          action := .none
          entry := { rt.entry with stage := .uploading }
          messageId := dto.messageId
          retryCount := 0
          nextRetryAt := 0 }
      let s := s.modify rt.key set
      if s.resourceReady then startResourceUpload (set rt) dto.messageId s else s

def finishArchive (messageId ownerUid : Int) (generation : Nat) (path : String) (s : Dispatcher) :
    Dispatcher :=
  if generation ≠ s.generation ∨ ownerUid ≠ s.activeUid then s
  else s.emit (.updateResourceLocalPath messageId path ownerUid)

def slotTransferFinished (snapshot : TransferSnapshot) (s : Dispatcher) : Dispatcher :=
  if snapshot.ownerUid ≤ 0 ∨ snapshot.ownerUid ≠ s.activeUid ∨
      snapshot.loginGeneration ≠ env.loginGeneration then s
  else if snapshot.upload then handleUploadFinished cfg env snapshot s
  else s

def slotScanTimeout (s : Dispatcher) : Dispatcher :=
  if s.dbReady = false then { s with scanning := false }
  else dispatchDueEntries cfg env (requestRestore env s)

end LlfcChat.Outbox
