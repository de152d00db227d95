/-
The shared MySQL database: the tables of `20260830_database_rebuild.sql` and
the statements the two servers execute on them.

A table is the list of its rows in the order of insertion.  A statement is a
function on the database that may be refused; it is refused when it breaks a
key, a foreign key or a `CHECK` of the schema, or when the auto-increment
column runs out.  The ids an `INSERT` hands out go through `getInt64`, so a
row with an id of 2^63 or more is of no use to the servers and the model ends
the column there.  Statements refused for any other reason (a value that is
too long, a lost connection, a deadlock) are the faults of `Lib/Txn.lean`.
-/
import LlfcChat.Lib.Table
import LlfcChat.Data

namespace LlfcChat

/-! ### Rows -/

structure UserRow extends UserInfo where
  lastEventSeq : Nat := 0
  deriving DecidableEq

structure FriendshipRow where
  lowerUserId : Int
  higherUserId : Int
  deriving DecidableEq

structure PrivateChatRow where
  threadId : Int
  lowerUserId : Int
  higherUserId : Int
  deriving DecidableEq

structure ChatMessageRow where
  messageId : Int
  threadId : Int
  senderUserId : Int
  clientMessageId : String
  messageType : Int
  textContent : Option String
  status : MessageStatus
  createdAt : String
  deriving DecidableEq

structure FriendRequestRow where
  friendRequestId : Int
  requesterUserId : Int
  targetUserId : Int
  clientRequestId : String
  requestMessage : String
  status : FriendRequestStatus
  threadId : Option Int
  createdAt : String
  deriving DecidableEq

structure UserEventRow where
  recipientUserId : Int
  eventSeq : Nat
  eventType : Int
  messageId : Option Int
  friendRequestId : Option Int
  deriving DecidableEq

/-- The rows of `message_resources` are the records the servers read. -/
structure Db where
  users : List UserRow := []
  friendships : List FriendshipRow := []
  privateChats : List PrivateChatRow := []
  chatMessages : List ChatMessageRow := []
  messageResources : List MessageResource := []
  friendRequests : List FriendRequestRow := []
  userEvents : List UserEventRow := []
  -- the next values of the auto-increment columns
  nextUserId : Nat := 1
  nextThreadId : Nat := 1
  nextMessageId : Nat := 1
  nextFriendRequestId : Nat := 1
  deriving DecidableEq

/-- The tables as the rebuild script leaves them. -/
def Db.empty : Db := {}

/-! ### Errors -/

/-- `sql::SQLException`. -/
structure SqlError where
  errorCode : Nat
  sqlState : String := "HY000"
  deriving DecidableEq

/-- A key, a foreign key or a `CHECK` refuses the row. -/
def constraintViolation : SqlError := { errorCode := 1062, sqlState := "23000" }

/-- Ids at and above this bound do not survive `getInt64`. -/
def idLimit : Nat := 2 ^ 63

/-! ### Queries -/

namespace Db

def user (db : Db) (userId : Int) : Option UserRow :=
  db.users.find? (·.userId = userId)

def privateChat (db : Db) (threadId : Int) : Option PrivateChatRow :=
  db.privateChats.find? (·.threadId = threadId)

def chatMessage (db : Db) (messageId : Int) : Option ChatMessageRow :=
  db.chatMessages.find? (·.messageId = messageId)

def messageResource (db : Db) (messageId : Int) : Option MessageResource :=
  db.messageResources.find? (·.messageId = messageId)

def friendRequest (db : Db) (friendRequestId : Int) : Option FriendRequestRow :=
  db.friendRequests.find? (·.friendRequestId = friendRequestId)

/-- `users.last_event_seq`; 0 for somebody who is not registered. -/
def lastEventSeq (db : Db) (userId : Int) : Nat := (db.user userId).elim 0 (·.lastEventSeq)

/-- The row of the unique key (recipient, type, message) in `user_events`. -/
def messageEvent (db : Db) (recipient eventType messageId : Int) : Option UserEventRow :=
  db.userEvents.find? fun e =>
    e.recipientUserId = recipient ∧ e.eventType = eventType ∧ e.messageId = some messageId

end Db

/-- The member of a private chat other than `sender`, as the `CASE` of the two
projections computes it. -/
def PrivateChatRow.other (pc : PrivateChatRow) (sender : Int) : Int :=
  if pc.lowerUserId = sender then pc.higherUserId else pc.lowerUserId

/-- `MysqlDao::ReadMessage` on a row of `kMessageProjection`.  The resource
columns come from a left join; a `NULL` reads as an empty string or as 0. -/
def readMessage (m : ChatMessageRow) (pc : PrivateChatRow) (r : Option MessageResource) :
    ChatMessage :=
  { messageId := m.messageId
    threadId := m.threadId
    senderUserId := m.senderUserId
    recipientUserId := pc.other m.senderUserId
    clientMessageId := m.clientMessageId
    messageType := m.messageType
    textContent := m.textContent.getD ""
    status := m.status
    createdAt := m.createdAt
    resource :=
      if m.messageType = chatMsgPic ∨ m.messageType = chatMsgFile then
        some { r.getD {} with messageId := m.messageId }
      else none }

/-- `MysqlDao::ReadFriendRequest`. -/
def readFriendRequest (r : FriendRequestRow) : FriendRequest :=
  { friendRequestId := r.friendRequestId
    requesterUserId := r.requesterUserId
    targetUserId := r.targetUserId
    clientRequestId := r.clientRequestId
    requestMessage := r.requestMessage
    status := r.status
    threadId := r.threadId.getD 0
    createdAt := r.createdAt }

namespace Db

/-- The join behind `kMessageProjection`. -/
def projectMessage (db : Db) (m : ChatMessageRow) : Option ChatMessage :=
  (db.privateChat m.threadId).map fun pc => readMessage m pc (db.messageResource m.messageId)

/-- The message stored under a sender's client id. -/
def messageByClientId (db : Db) (sender : Int) (clientMessageId : String) : Option ChatMessage :=
  (db.chatMessages.find? fun m =>
    m.senderUserId = sender ∧ m.clientMessageId = clientMessageId).bind db.projectMessage

/-! ### Changes of single tables -/

def addUser (db : Db) (u : UserRow) : Db :=
  { db with users := db.users ++ [u], nextUserId := db.nextUserId + 1 }

def addFriendship (db : Db) (f : FriendshipRow) : Db :=
  { db with friendships := db.friendships ++ [f] }

def addPrivateChat (db : Db) (pc : PrivateChatRow) : Db :=
  { db with privateChats := db.privateChats ++ [pc], nextThreadId := db.nextThreadId + 1 }

def addChatMessage (db : Db) (m : ChatMessageRow) : Db :=
  { db with chatMessages := db.chatMessages ++ [m], nextMessageId := db.nextMessageId + 1 }

def addMessageResource (db : Db) (r : MessageResource) : Db :=
  { db with messageResources := db.messageResources ++ [r] }

def addFriendRequest (db : Db) (r : FriendRequestRow) : Db :=
  { db with
    friendRequests := db.friendRequests ++ [r]
    nextFriendRequestId := db.nextFriendRequestId + 1 }

def addUserEvent (db : Db) (e : UserEventRow) : Db :=
  { db with userEvents := db.userEvents ++ [e] }

def setLastEventSeq (db : Db) (userId : Int) (eventSeq : Nat) : Db :=
  { db with
    users := Table.update (·.userId = userId)
      (fun u => { u with lastEventSeq := eventSeq }) db.users }

def setAvatarKey (db : Db) (userId : Int) (avatarKey : String) : Db :=
  { db with
    users := Table.update (·.userId = userId)
      (fun u => { u with avatarKey := avatarKey }) db.users }

/-- Move a pending message on. -/
def setPendingMessage (db : Db) (messageId : Int) (status : MessageStatus) : Db :=
  { db with
    chatMessages := Table.update (fun m => m.messageId = messageId ∧ m.status = .pending)
      (fun m => { m with status := status }) db.chatMessages }

/-- Accept the pending requests between two users, in both directions. -/
def acceptRequests (db : Db) (lower higher threadId : Int) : Db :=
  { db with
    friendRequests := Table.update
      (fun r => r.status = .pending ∧
        ((r.requesterUserId = lower ∧ r.targetUserId = higher) ∨
          (r.requesterUserId = higher ∧ r.targetUserId = lower)))
      (fun r => { r with status := .accepted, threadId := some threadId }) db.friendRequests }

def rejectRequest (db : Db) (friendRequestId : Int) : Db :=
  { db with
    friendRequests := Table.update
      (fun r => r.friendRequestId = friendRequestId ∧ r.status = .pending)
      (fun r => { r with status := .rejected }) db.friendRequests }

/-! ### What the schema demands of a new row -/

def HasUser (db : Db) (userId : Int) : Prop := ∃ u ∈ db.users, u.userId = userId

def AdmitsUser (db : Db) (u : UserRow) : Prop :=
  db.nextUserId < idLimit ∧ ∀ v ∈ db.users, v.username ≠ u.username ∧ v.email ≠ u.email

def AdmitsPair (db : Db) (lower higher : Int) : Prop :=
  lower < higher ∧ db.HasUser lower ∧ db.HasUser higher

def AdmitsChatMessage (db : Db) (m : ChatMessageRow) : Prop :=
  db.nextMessageId < idLimit ∧ (∃ pc ∈ db.privateChats, pc.threadId = m.threadId) ∧
    db.HasUser m.senderUserId ∧
    (∀ n ∈ db.chatMessages,
      ¬(n.senderUserId = m.senderUserId ∧ n.clientMessageId = m.clientMessageId)) ∧
    ((m.messageType = chatMsgText ∧ m.textContent ≠ none) ∨
      ((m.messageType = chatMsgPic ∨ m.messageType = chatMsgFile) ∧ m.textContent = none))

def AdmitsMessageResource (db : Db) (r : MessageResource) : Prop :=
  0 < r.fileSizeBytes ∧ (∃ m ∈ db.chatMessages, m.messageId = r.messageId) ∧
    ∀ q ∈ db.messageResources, q.messageId ≠ r.messageId

def AdmitsFriendRequest (db : Db) (r : FriendRequestRow) : Prop :=
  db.nextFriendRequestId < idLimit ∧ r.requesterUserId ≠ r.targetUserId ∧
    db.HasUser r.requesterUserId ∧ db.HasUser r.targetUserId ∧
    ∀ q ∈ db.friendRequests,
      ¬(q.requesterUserId = r.requesterUserId ∧ q.clientRequestId = r.clientRequestId)

/-- The references of an event: exactly one, and to a row that exists.  A
`NULL` never collides in a unique key. -/
def AdmitsUserEvent (db : Db) (e : UserEventRow) : Prop :=
  db.HasUser e.recipientUserId ∧
    (∀ f ∈ db.userEvents, f.recipientUserId = e.recipientUserId →
      f.eventSeq ≠ e.eventSeq ∧
        (f.eventType = e.eventType →
          (e.messageId = none ∨ f.messageId ≠ e.messageId) ∧
          (e.friendRequestId = none ∨ f.friendRequestId ≠ e.friendRequestId))) ∧
    (((e.eventType = chatMsgText ∨ e.eventType = chatMsgPic ∨ e.eventType = chatMsgFile) ∧
        e.friendRequestId = none ∧ ∃ m ∈ db.chatMessages, e.messageId = some m.messageId) ∨
      ((e.eventType = friendApplyEvent ∨ e.eventType = friendAcceptEvent ∨
          e.eventType = friendRejectEvent) ∧
        e.messageId = none ∧ ∃ r ∈ db.friendRequests, e.friendRequestId = some r.friendRequestId))

instance (db : Db) (i : Int) : Decidable (db.HasUser i) :=
  inferInstanceAs (Decidable (∃ u ∈ db.users, u.userId = i))

instance (db : Db) (u : UserRow) : Decidable (db.AdmitsUser u) :=
  inferInstanceAs (Decidable (_ ∧ _))

instance (db : Db) (l h : Int) : Decidable (db.AdmitsPair l h) :=
  inferInstanceAs (Decidable (_ ∧ _))

instance (db : Db) (m : ChatMessageRow) : Decidable (db.AdmitsChatMessage m) :=
  inferInstanceAs (Decidable (_ ∧ _))

instance (db : Db) (r : MessageResource) : Decidable (db.AdmitsMessageResource r) :=
  inferInstanceAs (Decidable (_ ∧ _))

instance (db : Db) (r : FriendRequestRow) : Decidable (db.AdmitsFriendRequest r) :=
  inferInstanceAs (Decidable (_ ∧ _))

instance (db : Db) (e : UserEventRow) : Decidable (db.AdmitsUserEvent e) :=
  inferInstanceAs (Decidable (_ ∧ _))

/-! ### Statements

An `INSERT` returns the number of rows and the value of `LAST_INSERT_ID()`
after it, an `UPDATE` the number of rows it changed. -/

/-- A row the schema admits is inserted, any other is refused. -/
def insertRow (admitted : Prop) [Decidable admitted] (id : Int) (after : Db) :
    Except SqlError ((Nat × Int) × Db) :=
  if admitted then .ok ((1, id), after) else .error constraintViolation

def insertUser (username email avatarKey : String) (db : Db) :
    Except SqlError ((Nat × Int) × Db) :=
  let u : UserRow :=
    { userId := db.nextUserId, username := username, email := email, nickname := username
      avatarKey := avatarKey }
  insertRow (db.AdmitsUser u) u.userId (db.addUser u)

/-- `INSERT .. ON DUPLICATE KEY UPDATE thread_id=LAST_INSERT_ID(thread_id)`. -/
def insertPrivateChat (lower higher : Int) (db : Db) : Except SqlError ((Nat × Int) × Db) :=
  match db.privateChats.find? fun pc => pc.lowerUserId = lower ∧ pc.higherUserId = higher with
  | some pc => .ok ((0, pc.threadId), db)
  | none =>
    insertRow (db.nextThreadId < idLimit ∧ db.AdmitsPair lower higher) db.nextThreadId
      (db.addPrivateChat ⟨db.nextThreadId, lower, higher⟩)

/-- `INSERT IGNORE`: a row that is there already, or not admitted, is skipped. -/
def insertIgnoreFriendship (lower higher : Int) (db : Db) : Except SqlError (Nat × Db) :=
  if db.AdmitsPair lower higher ∧ ⟨lower, higher⟩ ∉ db.friendships then
    .ok (1, db.addFriendship ⟨lower, higher⟩)
  else .ok (0, db)

def insertFriendRequest (requester target : Int) (clientRequestId requestMessage now : String)
    (db : Db) : Except SqlError ((Nat × Int) × Db) :=
  let r : FriendRequestRow :=
    { friendRequestId := db.nextFriendRequestId, requesterUserId := requester
      targetUserId := target, clientRequestId := clientRequestId
      requestMessage := requestMessage, status := .pending, threadId := none, createdAt := now }
  insertRow (db.AdmitsFriendRequest r) r.friendRequestId (db.addFriendRequest r)

def insertChatMessage (m : ChatMessageRow) (db : Db) : Except SqlError ((Nat × Int) × Db) :=
  let row := { m with messageId := db.nextMessageId }
  insertRow (db.AdmitsChatMessage row) row.messageId (db.addChatMessage row)

def insertMessageResource (r : MessageResource) (db : Db) : Except SqlError ((Nat × Int) × Db) :=
  insertRow (db.AdmitsMessageResource r) 0 (db.addMessageResource r)

def insertUserEvent (e : UserEventRow) (db : Db) : Except SqlError ((Nat × Int) × Db) :=
  insertRow (db.AdmitsUserEvent e) 0 (db.addUserEvent e)

def updateLastEventSeq (userId : Int) (eventSeq : Nat) (db : Db) : Except SqlError (Nat × Db) :=
  .ok (db.users.countP fun u => u.userId = userId ∧ u.lastEventSeq ≠ eventSeq,
    db.setLastEventSeq userId eventSeq)

def updateAvatarKey (userId : Int) (avatarKey : String) (db : Db) : Except SqlError (Nat × Db) :=
  .ok (db.users.countP fun u => u.userId = userId ∧ u.avatarKey ≠ avatarKey,
    db.setAvatarKey userId avatarKey)

def updatePendingMessage (messageId : Int) (status : MessageStatus) (db : Db) :
    Except SqlError (Nat × Db) :=
  .ok (db.chatMessages.countP fun m => m.messageId = messageId ∧ m.status = .pending,
    db.setPendingMessage messageId status)

def updateAcceptRequests (lower higher threadId : Int) (db : Db) : Except SqlError (Unit × Db) :=
  .ok ((), db.acceptRequests lower higher threadId)

def updateRejectRequest (friendRequestId : Int) (db : Db) : Except SqlError (Nat × Db) :=
  .ok (db.friendRequests.countP fun r => r.friendRequestId = friendRequestId ∧ r.status = .pending,
    db.rejectRequest friendRequestId)

theorem insertRow_eq_ok {admitted : Prop} [Decidable admitted] {id : Int} {after db : Db}
    {a : Nat × Int} (h : insertRow admitted id after = .ok (a, db)) :
    admitted ∧ a = (1, id) ∧ db = after := by
  unfold insertRow at h
  split at h
  · simp only [Except.ok.injEq, Prod.mk.injEq] at h
    exact ⟨‹_›, h.1.symm, h.2.symm⟩
  · cases h

end Db

end LlfcChat
