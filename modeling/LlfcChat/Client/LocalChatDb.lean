/-
The client's local database: messages, their resources, conversations and the
outbox.

A message has two keys besides its local id: the client's own id, known when it is
written, and the server's id, known when the server has stored it.  Both are UNIQUE
columns that may be NULL.  Each method of `LocalChatDb` is one transaction; `none`
means that it returned false and was rolled back.
-/
import LlfcChat.Lib.Table

namespace LlfcChat

/-! ### Values that pass between the threads -/

inductive SendStatus
  | sending
  | sent
  | failed
  deriving DecidableEq

/-- `LocalMessageDTO`: 0 and the empty text stand for NULL. -/
structure LocalMessageDTO where
  messageId : Int := 0
  clientMessageId : String := ""
  threadId : Int := 0
  senderUserId : Int := 0
  messageType : Int := 0
  textContent : String := ""
  createdAt : Int := 0
  deriving DecidableEq

/-- `LocalMessageResourceDTO` -/
structure LocalMessageResourceDTO where
  localMessageId : Int := 0
  originalFileName : String := ""
  localFilePath : String := ""
  fileSizeBytes : Int := 0
  sha256 : String := ""
  mimeType : String := ""
  deriving DecidableEq

inductive OutboxOperation
  | sendText
  | sendResource
  deriving DecidableEq

/-- The stage of an outbox row; a text has none. -/
inductive ResourceStage
  | none
  | metadata
  | uploading
  deriving DecidableEq

/-- A row of `outbox` (`OutboxEntryDTO`). -/
structure OutboxEntryDTO where
  operationId : Int := 0
  clientMessageId : String
  operationType : OutboxOperation
  stage : ResourceStage
  payloadJson : String
  deriving DecidableEq

structure LocalFriendRequestDTO where
  friendRequestId : Int := 0
  requesterUserId : Int := 0
  targetUserId : Int := 0
  requestMessage : String := ""
  status : Int := 0
  threadId : Int := 0
  peerUsername : String := ""
  peerNickname : String := ""
  peerAvatarKey : String := ""
  peerGender : Int := 0
  deriving DecidableEq

/-- What the client asks of a friend request before it keeps it. -/
def LocalFriendRequestDTO.valid (r : LocalFriendRequestDTO) : Bool :=
  0 < r.friendRequestId && 0 < r.requesterUserId && 0 < r.targetUserId && 0 ≤ r.status &&
    r.status ≤ 2

structure LocalContactDTO where
  userId : Int := 0
  threadId : Int := 0
  username : String := ""
  nickname : String := ""
  avatarKey : String := ""
  gender : Int := 0
  deriving DecidableEq

structure LocalConversationDTO where
  threadId : Int
  peerUserId : Int
  lastMessageId : Int := 0
  oldestLoadedMessageId : Int := 0
  historyComplete : Bool := false
  updatedAt : Int
  deriving DecidableEq

structure UserEventDTO where
  eventSeq : Int := 0
  eventType : Int := -1
  messageId : Int := 0
  friendRequestId : Int := 0
  deriving DecidableEq

/-! ### Tables -/

/-- A row of `messages`. -/
structure MessageRow where
  localMessageId : Int
  messageId : Option Int
  clientMessageId : Option String
  threadId : Int
  senderUserId : Int
  messageType : Int
  textContent : Option String
  sendStatus : SendStatus
  createdAt : Int
  deriving DecidableEq

/-- A row of `message_resources`. -/
structure MessageResourceRow where
  localMessageId : Int
  originalFileName : String
  localFilePath : Option String
  fileSizeBytes : Int
  sha256 : String
  mimeType : String
  deriving DecidableEq

/-- A row of `conversations`. -/
structure ConversationRow where
  threadId : Int
  peerUserId : Int
  lastMessageId : Option Int
  oldestLoadedMessageId : Option Int
  historyComplete : Bool
  updatedAt : Int
  deriving DecidableEq

/-- The database file of one user. -/
structure LocalDb where
  messages : List MessageRow := []
  nextLocalMessageId : Int := 1
  resources : List MessageResourceRow := []
  conversations : List ConversationRow := []
  outbox : List OutboxEntryDTO := []
  nextOperationId : Int := 1
  deriving DecidableEq

/-- `NullableId` -/
def nullableId (value : Int) : Option Int := if 0 < value then some value else none

/-- `NullableText` -/
def nullableText (value : String) : Option String := if value = "" then none else some value

/-- The message types a client knows: text, picture and file. -/
def KnownType (t : Int) : Prop := t = 0 ∨ t = 1 ∨ t = 3

instance (t : Int) : Decidable (KnownType t) := inferInstanceAs (Decidable (_ ∨ _ ∨ _))

/-- The fields a resource has to bring. -/
def LocalMessageResourceDTO.Complete (r : LocalMessageResourceDTO) : Prop :=
  r.originalFileName ≠ "" ∧ 0 < r.fileSizeBytes ∧ r.sha256 ≠ "" ∧ r.mimeType ≠ ""

instance (r : LocalMessageResourceDTO) : Decidable r.Complete :=
  inferInstanceAs (Decidable (_ ∧ _ ∧ _ ∧ _))

namespace LocalDb

/-! ### Own messages -/

/-- The column `text_content`: texts have one, resources do not. -/
def textColumn (message : LocalMessageDTO) : Option String :=
  if message.messageType = 0 then some message.textContent else none

/-- `UPDATE messages SET .. WHERE ..`: it fails when the new server id is taken by
another row, and the caller asks for exactly one row. -/
def updateMessage (p : MessageRow → Bool) (messageId : Option Int) (f : MessageRow → MessageRow)
    (db : LocalDb) : Option LocalDb :=
  if db.messages.countP p ≠ 1 then none
  else if messageId.isSome ∧ db.messages.any (fun r => !p r && r.messageId = messageId) then none
  else some { db with messages := Table.update (p · = true) f db.messages }

/-- `DELETE FROM outbox WHERE client_message_id=?` -/
def deleteOutbox (clientMessageId : String) (db : LocalDb) : LocalDb :=
  { db with outbox := db.outbox.filter (·.clientMessageId ≠ clientMessageId) }

/-- `confirmTextSent` -/
def confirmTextSent (now : Int) (clientMessageId : String) (messageId createdAt : Int)
    (db : LocalDb) : Option LocalDb :=
  if messageId ≤ 0 then none
  else
    (db.updateMessage (fun r => r.clientMessageId = some clientMessageId && r.messageType = 0)
      (some messageId) fun r => { r with
        messageId := some messageId
        sendStatus := .sent
        createdAt := if 0 < createdAt then createdAt else now }).map
    (deleteOutbox clientMessageId)

/-! ### Messages from the server -/

/-- A row with the server's id, or with the client's id the message brings. -/
def clashes (message : LocalMessageDTO) (r : MessageRow) : Bool :=
  r.messageId = some message.messageId ||
    (message.clientMessageId ≠ "" && r.clientMessageId = some message.clientMessageId)

/-- `INSERT OR IGNORE INTO messages`: the local id of the row, if one was inserted. -/
def insertOrIgnore (message : LocalMessageDTO) (db : LocalDb) : Option Int × LocalDb :=
  if db.messages.any (clashes message) then (none, db)
  else (some db.nextLocalMessageId, { db with
    messages := db.messages ++ [
      { localMessageId := db.nextLocalMessageId
        messageId := some message.messageId
        clientMessageId := nullableText message.clientMessageId
        threadId := message.threadId
        senderUserId := message.senderUserId
        messageType := message.messageType
        textContent := textColumn message
        sendStatus := .sent
        createdAt := message.createdAt }]
    nextLocalMessageId := db.nextLocalMessageId + 1 })

/-- `INSERT INTO message_resources .. ON CONFLICT(local_message_id) DO UPDATE` -/
def upsertResource (localId : Int) (resource : LocalMessageResourceDTO) (db : LocalDb) : LocalDb :=
  let row : MessageResourceRow :=
    { localMessageId := localId
      originalFileName := resource.originalFileName
      localFilePath := nullableText resource.localFilePath
      fileSizeBytes := resource.fileSizeBytes
      sha256 := resource.sha256
      mimeType := resource.mimeType }
  if db.resources.any (·.localMessageId = localId) then
    let update (old : MessageResourceRow) : MessageResourceRow :=
      { row with localFilePath := row.localFilePath.or old.localFilePath }
    { db with resources := Table.update (·.localMessageId = localId) update db.resources }
  else { db with resources := db.resources ++ [row] }

/-- `insertMessageIgnore`: whether a row was inserted. -/
def insertMessageIgnore (message : LocalMessageDTO) (resource : LocalMessageResourceDTO)
    (db : LocalDb) : Option (Bool × LocalDb) :=
  if message.messageId ≤ 0 ∨ message.threadId ≤ 0 ∨ message.senderUserId ≤ 0 ∨
      ¬KnownType message.messageType then none
  else
    let (newId, db) := db.insertOrIgnore message
    -- the row that was in the way is looked up by the server's id only
    let found := newId.or <|
      (db.messages.find? (·.messageId = some message.messageId)).map (·.localMessageId)
    match found with
    | none => none
    | some localId =>
      if message.messageType = 0 then some (newId.isSome, db)
      else if ¬resource.Complete then none
      else some (newId.isSome, db.upsertResource localId resource)

/-- The loop of `insertHistoryPage`; `oldest` is the smallest server id so far. -/
def insertPageLoop (threadId : Int) :
    List (LocalMessageDTO × LocalMessageResourceDTO) → Int → LocalDb → Option (Int × LocalDb)
  | [], oldest, db => some (oldest, db)
  | (message, resource) :: page, oldest, db =>
    if message.threadId ≠ threadId then none
    else match db.insertMessageIgnore message resource with
      | none => none
      | some (_, db) =>
        let oldest := if oldest = 0 ∨ message.messageId < oldest then message.messageId else oldest
        insertPageLoop threadId page oldest db

/-- `insertHistoryPage` -/
def insertHistoryPage (threadId : Int) (messages : List LocalMessageDTO)
    (resources : List LocalMessageResourceDTO) (historyComplete : Bool) (db : LocalDb) :
    Option LocalDb :=
  if messages.length ≠ resources.length then none
  else match insertPageLoop threadId (messages.zip resources) 0 db with
    | none => none
    | some (oldest, db) =>
      if db.conversations.countP (·.threadId = threadId) ≠ 1 then none
      else
        let loaded (c : ConversationRow) : ConversationRow := { c with
          oldestLoadedMessageId := match c.oldestLoadedMessageId with
            | none => some oldest
            | some old => some (if old > oldest then oldest else old)
          historyComplete := historyComplete }
        some { db with
          conversations := Table.update (·.threadId = threadId) loaded db.conversations }

end LocalDb

end LlfcChat
