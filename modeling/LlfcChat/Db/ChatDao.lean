/-
The transactions of ChatServer's `MysqlDao`, statement by statement.

Every function below is a program of `Lib/Txn.lean`: `query` and `exec` stand
for `executeQuery` and `executeUpdate`, `touch` for `setAutoCommit(false)`,
and the reference parameters of the C++ functions are the out-parameter of the
program.  The order of the statements and of the early exits is that of the
source.
-/
import LlfcChat.Lib.Txn
import LlfcChat.Db.Tables

namespace LlfcChat

open Txn

/-- A program on the shared database with an out-parameter of type `μ`. -/
abbrev Sql (μ α : Type) : Type := Program Db μ SqlError α

variable {μ : Type}

/-! ### Shared pieces -/

/-- `LastInsertId`: one more statement on the connection. -/
def lastInsertId (id : Int) : Sql μ Int := query fun _ => id

/-- The number after a user's `last_event_seq`. -/
def Db.nextEventSeq (db : Db) (userId : Int) : Nat := u64 (db.lastEventSeq userId + 1)

/-- `AllocateEventSeq`.  `assign` stores the number where the reference
argument of the caller points to, which happens before the `UPDATE`. -/
def allocateEventSeq (recipient : Int) (assign : Nat → μ → μ) : Sql μ (Option Nat) := do
  match ← query (·.user recipient) with
  | none => return none
  | some u =>
    let eventSeq := u64 (u.lastEventSeq + 1)
    modifyOut (assign eventSeq)
    let changed ← exec (Db.updateLastEventSeq recipient eventSeq)
    return if changed = 1 then some eventSeq else none

/-- The rows of `InsertMessageEvent` and `InsertFriendEvent`. -/
def messageEventRow (recipient eventType messageId : Int) (eventSeq : Nat) : UserEventRow :=
  ⟨recipient, eventSeq, eventType, some messageId, none⟩

def friendEventRow (recipient eventType friendRequestId : Int) (eventSeq : Nat) : UserEventRow :=
  ⟨recipient, eventSeq, eventType, none, some friendRequestId⟩

/-- `InsertMessageEvent` or `InsertFriendEvent`, according to the row. -/
def insertEvent (row : UserEventRow) : Sql μ Bool := do
  let inserted ← exec (Db.insertUserEvent row)
  return inserted.1 = 1

/-- The condition `!AllocateEventSeq(..) || !Insert..Event(..)` that three of
the transactions end with; `none` is the branch that rolls back. -/
def recordEvent (recipient : Int) (row : Nat → UserEventRow) (assign : Nat → μ → μ) :
    Sql μ (Option Nat) := do
  match ← allocateEventSeq recipient assign with
  | none => return none
  | some eventSeq =>
    let inserted ← insertEvent (row eventSeq)
    return if inserted then some eventSeq else none

/-! ### `AddFriendApply` -/

/-- The row of the unique key (requester, client request id). -/
def Db.friendRequestByKey (db : Db) (requester : Int) (clientRequestId : String) :
    Option FriendRequestRow :=
  db.friendRequests.find? fun r =>
    r.requesterUserId = requester ∧ r.clientRequestId = clientRequestId

/-- The oldest pending request between two users, in this direction. -/
def Db.pendingRequest (db : Db) (requester target : Int) : Option FriendRequestRow :=
  db.friendRequests.find? fun r =>
    r.requesterUserId = requester ∧ r.targetUserId = target ∧ r.status = .pending

/-- From the `INSERT` on: the request is new. -/
def insertFriendApply (requester target : Int) (requestMessage clientRequestId now : String) :
    Sql (Option FriendRequest) FriendOperationResult := do
  let inserted ← exec (Db.insertFriendRequest requester target clientRequestId requestMessage now)
  if inserted.1 ≠ 1 then rollbackWith .failed else
  let requestId ← lastInsertId inserted.2
  if requestId ≤ 0 then rollbackWith .failed else
  match ← recordEvent target (friendEventRow target friendApplyEvent requestId) fun _ o => o with
  | none => rollbackWith .failed
  | some eventSeq =>
    match ← query (·.friendRequest requestId) with
    | none => rollbackWith .failed
    | some r =>
      modifyOut fun _ => some { readFriendRequest r with eventSeq := eventSeq }
      commitWith .stored

/-- The body of the `try` block. -/
def addFriendApplyTransaction (requester target : Int)
    (requestMessage clientRequestId now : String) :
    Sql (Option FriendRequest) FriendOperationResult := do
  touch
  if (← query (·.user target)).isNone then rollbackWith .notFound else
  if (← query (·.user requester)).isNone then rollbackWith .notFound else
  let lower := min requester target
  let higher := max requester target
  if ← query fun db => decide (⟨lower, higher⟩ ∈ db.friendships) then
    rollbackWith .alreadyFriends
  else
  match ← query (·.friendRequestByKey requester clientRequestId) with
  | some r =>
    modifyOut fun _ => some (readFriendRequest r)
    commitWith
      (if r.targetUserId = target ∧ r.requestMessage = requestMessage then .duplicate
        else .conflict)
  | none =>
    match ← query (·.pendingRequest requester target) with
    | some r =>
      modifyOut fun _ => some (readFriendRequest r)
      commitWith .duplicate
    | none => insertFriendApply requester target requestMessage clientRequestId now

/-- `MysqlDao::AddFriendApply` with a connection from the pool.  The handler's
own `rollback` may throw, and then the exception leaves the function. -/
def addFriendApply (requester target : Int) (requestMessage clientRequestId now : String) :
    Sql (Option FriendRequest) FriendOperationResult := do
  modifyOut fun _ => none
  if requester ≤ 0 ∨ target ≤ 0 ∨ requester = target ∨ clientRequestId = "" then
    return .failed
  else
  tryCatch (addFriendApplyTransaction requester target requestMessage clientRequestId now)
    fun _ => rollbackWith .failed

/-! ### `HandleFriendApply` -/

/-- The tail of the transaction: the event for the requester. -/
def notifyRequester (requester eventType friendRequestId : Int) :
    Sql FriendHandleOutput FriendOperationResult := do
  match ← recordEvent requester (friendEventRow requester eventType friendRequestId)
      fun _ o => o with
  | none => rollbackWith .failed
  | some eventSeq =>
    modifyOut fun o => { o with request := o.request.map fun r => { r with eventSeq := eventSeq } }
    commitWith .stored

/-- The branch of `accept`. -/
def acceptFriendApply (request : FriendRequest) (friendRequestId : Int) :
    Sql FriendHandleOutput FriendOperationResult := do
  let lower := min request.requesterUserId request.targetUserId
  let higher := max request.requesterUserId request.targetUserId
  let chat ← exec (Db.insertPrivateChat lower higher)
  let threadId ← lastInsertId chat.2
  modifyOut fun o => { o with threadId := threadId }
  if threadId ≤ 0 then rollbackWith .failed else
  let _ ← exec (Db.insertIgnoreFriendship lower higher)
  exec (Db.updateAcceptRequests lower higher threadId)
  modifyOut fun o =>
    { o with
      request := o.request.map fun r => { r with status := .accepted, threadId := threadId } }
  notifyRequester request.requesterUserId friendAcceptEvent friendRequestId

/-- The other branch. -/
def rejectFriendApply (request : FriendRequest) (friendRequestId : Int) :
    Sql FriendHandleOutput FriendOperationResult := do
  let changed ← exec (Db.updateRejectRequest friendRequestId)
  if changed ≠ 1 then rollbackWith .alreadyHandled else
  modifyOut fun o => { o with request := o.request.map fun r => { r with status := .rejected } }
  notifyRequester request.requesterUserId friendRejectEvent friendRequestId

/-- The body of the `try` block. -/
def handleFriendApplyTransaction (handler friendRequestId : Int) (accept : Bool) :
    Sql FriendHandleOutput FriendOperationResult := do
  touch
  match ← query (·.friendRequest friendRequestId) with
  | none => rollbackWith .notFound
  | some row =>
    let request := readFriendRequest row
    modifyOut fun o => { o with request := some request }
    if request.targetUserId ≠ handler then rollbackWith .forbidden else
    modifyOut fun o => { o with peerUserId := request.requesterUserId }
    let desired : FriendRequestStatus := if accept then .accepted else .rejected
    if request.status ≠ .pending then
      modifyOut fun o => { o with threadId := request.threadId }
      commitWith (if request.status = desired then .duplicate else .alreadyHandled)
    else if accept then acceptFriendApply request friendRequestId
    else rejectFriendApply request friendRequestId

/-- `MysqlDao::HandleFriendApply` with a connection from the pool. -/
def handleFriendApply (handler friendRequestId : Int) (accept : Bool) :
    Sql FriendHandleOutput FriendOperationResult := do
  modifyOut fun _ => {}
  tryCatch (handleFriendApplyTransaction handler friendRequestId accept)
    fun _ => rollbackWith .failed

/-! ### `AddChatMsg` -/

/-- The comparison of a stored message with a resent one. -/
def sameMessage (stored message : ChatMessage) : Bool :=
  decide (stored.threadId = message.threadId ∧ stored.senderUserId = message.senderUserId ∧
    stored.messageType = message.messageType ∧ stored.textContent = message.textContent) &&
  match stored.resource, message.resource with
  | some r, some q =>
    decide (r.originalFileName = q.originalFileName ∧ r.fileSizeBytes = q.fileSizeBytes ∧
      r.sha256 = q.sha256 ∧ r.mimeType = q.mimeType)
  | none, none => true
  | _, _ => false

/-- The client id is known: a duplicate or a conflict. -/
def answerExisting (stored : ChatMessage) : Sql ChatMessage SaveMessageResult := do
  let message ← getOut
  if sameMessage stored message = false then rollbackWith .conflict else
  modifyOut fun _ => stored
  if stored.status = .published then
    let event ←
      query (·.messageEvent stored.recipientUserId stored.messageType stored.messageId)
    modifyOut fun m => { m with eventSeq := event.elim m.eventSeq (·.eventSeq) }
    commitWith .duplicate
  else
  commitWith .duplicate

/-- The row that is inserted; its id is chosen by the table. -/
def chatMessageRow (m : ChatMessage) : ChatMessageRow :=
  { messageId := 0
    threadId := m.threadId
    senderUserId := m.senderUserId
    clientMessageId := m.clientMessageId
    messageType := m.messageType
    textContent := if m.isResource then none else some m.textContent
    status := if m.isResource then .pending else .published
    createdAt := m.createdAt }

/-- The client id is new. -/
def storeNew : Sql ChatMessage SaveMessageResult := do
  let message ← getOut
  if (message.isResource ∧ message.resource = none) ∨
      (¬message.isResource ∧ message.messageType ≠ chatMsgText) then
    rollbackWith .failed
  else
  modifyOut fun m => { m with status := if message.isResource then .pending else .published }
  let inserted ← exec (Db.insertChatMessage (chatMessageRow message))
  if inserted.1 ≠ 1 then rollbackWith .failed else
  let messageId ← lastInsertId inserted.2
  modifyOut fun m => { m with messageId := messageId }
  if message.isResource then
    modifyOut fun m =>
      { m with resource := m.resource.map fun r => { r with messageId := messageId } }
    let added ← exec (Db.insertMessageResource
      { message.resource.getD {} with messageId := messageId })
    if added.1 ≠ 1 then rollbackWith .failed else
    commitWith .stored
  else
  match ← recordEvent message.recipientUserId
      (messageEventRow message.recipientUserId message.messageType messageId)
      (fun eventSeq m => { m with eventSeq := eventSeq }) with
  | none => rollbackWith .failed
  | some _ => commitWith .stored

/-- `MysqlDao::AddChatMsgTransaction`. -/
def addChatMsgTransaction : Sql ChatMessage SaveMessageResult := do
  touch
  let message ← getOut
  match ← query (·.privateChat message.threadId) with
  | none => rollbackWith .failed
  | some pc =>
    if message.senderUserId ≠ pc.lowerUserId ∧ message.senderUserId ≠ pc.higherUserId then
      rollbackWith .failed
    else
    modifyOut fun m =>
      { m with recipientUserId :=
          if m.senderUserId = pc.lowerUserId then pc.higherUserId else pc.lowerUserId }
    match ← query (·.messageByClientId message.senderUserId message.clientMessageId) with
    | some stored => answerExisting stored
    | none => storeNew

/-- How one turn of a retry loop ends. -/
inductive Turn (ρ : Type)
  | returned (r : ρ)
  | retry
  deriving DecidableEq

/-- The arguments `AddChatMsg` refuses before it asks for a connection. -/
def AddChatMsgArgs (m : ChatMessage) : Prop :=
  0 < m.threadId ∧ 0 < m.senderUserId ∧ m.clientMessageId ≠ ""

instance (m : ChatMessage) : Decidable (AddChatMsgArgs m) := inferInstanceAs (Decidable (_ ∧ _))

/-- One turn of the loop in `MysqlDao::AddChatMsg`. -/
def addChatMsgTurn (deadlockRetries attempt : Nat) : Sql ChatMessage (Turn SaveMessageResult) :=
  tryCatch (do return .returned (← addChatMsgTransaction)) fun error =>
    tryCatch
      (do
        rollback
        return if error.errorCode ≠ 1213 ∨ deadlockRetries ≤ attempt then .returned .failed
          else .retry)
      fun _ => return .returned .failed

/-! ### `CreatePrivateChat` and `RegUser` -/

/-- `MysqlDao::CreatePrivateChat`; the connection is in autocommit mode. -/
def createPrivateChat (requester target : Int) : Sql Int Bool := do
  modifyOut fun _ => 0
  if requester ≤ 0 ∨ target ≤ 0 ∨ requester = target then return false else
  tryCatch
    (do
      let chat ← autoExec (Db.insertPrivateChat (min requester target) (max requester target))
      let threadId ← lastInsertId chat.2
      modifyOut fun _ => threadId
      return decide (0 < threadId))
    fun _ => return false

/-- `MysqlDao::RegUser` once the password is hashed; -1 is a failure. -/
def regUser (name email : String) : Sql Unit Int :=
  tryCatch
    (do
      let inserted ← autoExec (Db.insertUser name email "")
      if inserted.1 ≠ 1 then return -1 else
      lastInsertId inserted.2)
    fun _ => return -1

/-- `MysqlDao::RegUserTransaction` of GateServer once the password is hashed.  The
handler's own `rollback` may throw. -/
def regUserTransaction (name email icon : String) : Sql Unit Int :=
  tryCatch
    (do
      touch
      if ← query fun db => db.users.any (·.email = email) then rollbackWith 0 else
      if ← query fun db => db.users.any (·.username = name) then rollbackWith 0 else
      let inserted ← exec (Db.insertUser name email icon)
      let newId ← lastInsertId inserted.2
      commitWith newId)
    fun _ => rollbackWith (-1)

/-! ### `GetEventsAfterSeq`

The connection is in autocommit mode, so every statement of this function sees
a committed state of its own.  `views k` is what statement `k` sees, and `none`
if it throws. -/

/-- How `MysqlDao::GetEventsAfterSeq` ends; all but `events` return false. -/
inductive EventsResult
  | events (l : List UserEvent)
  | missingMessage
  | missingFriendRequest
  | failed
  deriving DecidableEq

/-- The rows of the first statement. -/
def Db.eventRowsAfter (db : Db) (recipient : Int) (afterEventSeq limit : Nat) : List UserEventRow :=
  ((db.userEvents.filter fun e =>
      e.recipientUserId = recipient ∧ afterEventSeq < e.eventSeq).insertionSort
    fun e f => e.eventSeq ≤ f.eventSeq).take (limit + 1)

/-- The message query of an event: it asks for a published message. -/
def Db.publishedMessage (db : Db) (messageId : Int) : Option ChatMessage :=
  (db.chatMessages.find? fun m =>
    m.messageId = messageId ∧ m.status = .published).bind db.projectMessage

/-- The loop over the rows, from statement `k` on. -/
def readEvents (views : Nat → Option Db) (k : Nat) (events : List UserEvent) :
    List UserEventRow → EventsResult
  | [] => .events events
  | row :: rows =>
    match views k with
    | none => .failed
    | some db =>
      match row.messageId with
      | some messageId =>
        match db.publishedMessage messageId with
        | none => .missingMessage
        | some m =>
          readEvents views (k + 1)
            (events ++
              [{ eventSeq := row.eventSeq, eventType := row.eventType
                 message := some { m with eventSeq := row.eventSeq } }]) rows
      | none =>
        match db.friendRequest (row.friendRequestId.getD 0) with
        | none => .missingFriendRequest
        | some r =>
          readEvents views (k + 1)
            (events ++
              [{ eventSeq := row.eventSeq, eventType := row.eventType
                 friendRequest := some { readFriendRequest r with eventSeq := row.eventSeq } }])
            rows

def getEventsAfterSeq (recipient : Int) (afterEventSeq limit : Nat) (views : Nat → Option Db) :
    EventsResult :=
  match views 0 with
  | none => .failed
  | some db => readEvents views 1 [] (db.eventRowsAfter recipient afterEventSeq limit)

end LlfcChat
