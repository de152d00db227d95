/-
The statements and transactions of ResourceServer's `MysqlDao` on the tables
it shares with ChatServer.
-/
import LlfcChat.Db.ChatDao

namespace LlfcChat

open Txn

/-! ### `CompleteResourceUpload` -/

/-- The columns read at the start of the transaction. -/
structure UploadRow where
  senderUserId : Int
  messageType : Int
  status : MessageStatus
  recipientUserId : Int
  deriving DecidableEq

/-- The join of message, private chat and resource. -/
def Db.uploadRow (db : Db) (messageId : Int) : Option UploadRow := do
  let m ← db.chatMessage messageId
  let pc ← db.privateChat m.threadId
  let _ ← db.messageResource m.messageId
  return ⟨m.senderUserId, m.messageType, m.status, pc.other m.senderUserId⟩

/-- `finish(true)` and `finish(false)`.  The statement after `commit` may throw
although the transaction is committed. -/
def finishCommit (r : PublishResult) : Sql Nat PublishResult := do
  commit
  touch
  return r

def finishRollback (r : PublishResult) : Sql Nat PublishResult := do
  rollback
  touch
  return r

/-- The message is pending: take the next number of the recipient, publish the
message and insert the event. -/
def publishPending (messageId : Int) (row : UploadRow) : Sql Nat PublishResult := do
  match ← query (·.user row.recipientUserId) with
  | none => finishRollback .notFound
  | some u =>
    let eventSeq := u64 (u.lastEventSeq + 1)
    modifyOut fun _ => eventSeq
    let head ← exec (Db.updateLastEventSeq row.recipientUserId eventSeq)
    if head ≠ 1 then finishRollback .transient else
    let published ← exec (Db.updatePendingMessage messageId .published)
    if published ≠ 1 then finishRollback .transient else
    let inserted ← exec (Db.insertUserEvent
      (messageEventRow row.recipientUserId row.messageType messageId eventSeq))
    if inserted.1 ≠ 1 then finishRollback .transient else
    finishCommit .published

/-- The body of the `try` block of `CompleteResourceUploadOnce`. -/
def completeResourceUploadTransaction (messageId senderUserId : Int) :
    Sql Nat PublishResult := do
  touch
  match ← query (·.uploadRow messageId) with
  | none => finishRollback .notFound
  | some row =>
    if row.senderUserId ≠ senderUserId then finishRollback .notFound else
    if (row.messageType ≠ 1 ∧ row.messageType ≠ 3) ∨ row.recipientUserId ≤ 0 then
      finishRollback .notFound
    else if row.status = .published then
      match ← query (·.messageEvent row.recipientUserId row.messageType messageId) with
      | none => finishRollback .notFound
      | some e =>
        modifyOut fun _ => e.eventSeq
        finishCommit .alreadyPublished
    else if row.status ≠ .pending then finishRollback .notPending
    else publishPending messageId row

/-- `IsDeadlock`. -/
def isDeadlock (error : SqlError) : Bool := error.errorCode = 1213 ∨ error.sqlState = "40001"

/-- `kPublishDeadlockMaxRetries`. -/
def publishDeadlockMaxRetries : Nat := 3

/-- One turn of the loop in `MysqlDao::CompleteResourceUpload`: a call of
`CompleteResourceUploadOnce` and the decision to try again. -/
def completeResourceUploadTurn (messageId senderUserId : Int) (attempt : Nat) :
    Sql Nat (Turn PublishResult) := do
  modifyOut fun _ => 0
  tryCatch (do return .returned (← completeResourceUploadTransaction messageId senderUserId))
    fun error => do
      tryCatch (do rollback; touch) fun _ => return ()
      return if isDeadlock error ∧ attempt < publishDeadlockMaxRetries then .retry
        else .returned .transient

/-! ### Failed resources -/

/-- `MysqlDao::UpdateHeadInfo`, in autocommit mode too. -/
def updateHeadInfo (userId : Int) (avatarKey : String) : Sql Unit Bool :=
  tryCatch
    (do
      let changed ← autoExec (Db.updateAvatarKey userId avatarKey)
      return decide (changed = 1))
    fun _ => return false

/-- `MysqlDao::MarkResourceFailed`; the connection is in autocommit mode. -/
def markResourceFailed (messageId : Int) : Sql Unit Bool :=
  tryCatch
    (do
      let changed ← autoExec (Db.updatePendingMessage messageId .failed)
      return decide (changed = 1))
    fun _ => return false

/-- The loop of `MarkResourceExpired`: the counts are not looked at. -/
def expireAll : List Int → Sql Unit Unit
  | [] => return ()
  | id :: ids => do
    let _ ← exec (Db.updatePendingMessage id .failed)
    expireAll ids

/-- `MysqlDao::MarkResourceExpired`; of an item only the message id is read. -/
def markResourceExpired (items : List Int) : Sql Unit Bool :=
  if items = [] then return true else
  tryCatch
    (do
      touch
      expireAll items
      commit
      touch
      return true)
    fun _ => do
      tryCatch (do rollback; touch) fun _ => return ()
      return false

/-! ### Questions about published content -/

/-- `TriState`; `transient` is a query that failed. -/
inductive TriState
  | yes | no | transient
  deriving DecidableEq

/-- The `EXISTS` of `BlobHasPublishedReference`: by content identity only. -/
def Db.blobHasPublishedReference (db : Db) (sha256 : String) : Bool :=
  db.messageResources.any fun r => decide (r.sha256 = sha256) &&
    db.chatMessages.any fun m => decide (m.messageId = r.messageId ∧ m.status = .published)

/-- The `EXISTS` of `SenderHasPublishedContent`. -/
def Db.senderHasPublishedContent (db : Db) (sender : Int) (sha256 : String) (size : Nat) : Bool :=
  db.messageResources.any fun r => decide (r.sha256 = sha256 ∧ r.fileSizeBytes = size) &&
    db.chatMessages.any fun m =>
      decide (m.messageId = r.messageId ∧ m.senderUserId = sender ∧ m.status = .published)

/-! ### Reading messages -/

/-- The row of `GetChatMsgById`: `kResourceMessageProjection` with its joins.  A
message without a recipient event reads as event number 0. -/
def Db.resourceMessage (db : Db) (messageId : Int) : Option ChatMessage := do
  let m ← db.chatMessage messageId
  let pc ← db.privateChat m.threadId
  let r ← db.messageResource m.messageId
  return {
    messageId := m.messageId
    threadId := m.threadId
    senderUserId := m.senderUserId
    recipientUserId := pc.other m.senderUserId
    clientMessageId := m.clientMessageId
    messageType := m.messageType
    status := m.status
    createdAt := m.createdAt
    resource := some { r with messageId := m.messageId }
    eventSeq := (db.messageEvent (pc.other m.senderUserId) m.messageType m.messageId).elim 0
      (·.eventSeq) }

/-- `ExpiredResource`. -/
structure ExpiredResource where
  messageId : Int
  senderUserId : Int
  createdAt : String
  deriving DecidableEq

/-- The order of `ORDER BY created_at ASC, message_id ASC`. -/
def ExpiredResource.le (a b : ExpiredResource) : Bool :=
  a.createdAt < b.createdAt ∨ a.createdAt = b.createdAt ∧ a.messageId ≤ b.messageId

/-- The page of `GetExpiredResourceIds` behind a cursor; the first page, with an
empty `afterCreatedAt`, has no cursor condition. -/
def Db.expiredResourceIds (db : Db) (beforeTime afterCreatedAt : String) (afterMessageId : Int)
    (limit : Nat) : List ExpiredResource :=
  let rows := db.chatMessages.filter fun m => decide (m.status = .pending ∧
    (m.messageType = chatMsgPic ∨ m.messageType = chatMsgFile) ∧ m.createdAt < beforeTime ∧
    (afterCreatedAt = "" ∨ afterCreatedAt < m.createdAt ∨
      m.createdAt = afterCreatedAt ∧ afterMessageId < m.messageId))
  ((rows.map fun m => ⟨m.messageId, m.senderUserId, m.createdAt⟩).mergeSort
    ExpiredResource.le).take limit

end LlfcChat
