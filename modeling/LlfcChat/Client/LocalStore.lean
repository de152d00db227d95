/-
The methods of `LocalChatDb`, statement by statement, on a connection where any
statement may fail.

A method that writes more than one row is a transaction: BEGIN IMMEDIATE, the
statements, and COMMIT, with a ROLLBACK where a statement fails or has not changed
exactly the row it was for.  `updateResourceLocalPath` is a single statement without a
transaction.  `none` is `return false`.

The tables of messages are those of `LocalDb`; a store has the tables of the
synchronisation besides.
-/
import LlfcChat.Client.LocalChatDb
import LlfcChat.Lib.Sqlite

namespace LlfcChat.LocalStore

open Sqlite LocalDb

/-- All tables of the database file.  In a friend request 0 stands for NULL. -/
structure Store where
  db : LocalDb := {}
  friendRequests : List LocalFriendRequestDTO := []
  contacts : List LocalContactDTO := []
  lastEventSeq : Int := 0
  bootstrapComplete : Bool := false
  deriving DecidableEq

/-- A statement on the tables of `LocalDb`. -/
def onDb {α : Type} (f : LocalDb → Option (α × LocalDb)) : Stmt Store α :=
  exec fun s => (f s.db).map fun r => (r.1, { s with db := r.2 })

/-- A statement that returns nothing. -/
def quiet (f : LocalDb → Option LocalDb) (db : LocalDb) : Option (Unit × LocalDb) :=
  (f db).map fun db => ((), db)

/-! ### Statements -/

/-- The types that come with a resource: picture and file. -/
def isResource (t : Int) : Bool := t = 1 ∨ t = 3

/-- `INSERT INTO messages` of `enqueueSend`: the new local id. -/
def insertMessage (now : Int) (message : LocalMessageDTO) (db : LocalDb) : Option (Int × LocalDb) :=
  if db.messages.any (·.clientMessageId = some message.clientMessageId) then none
  else some (db.nextLocalMessageId, { db with
    messages := db.messages ++ [
      { localMessageId := db.nextLocalMessageId
        messageId := none
        clientMessageId := some message.clientMessageId
        threadId := message.threadId
        senderUserId := message.senderUserId
        messageType := message.messageType
        textContent := textColumn message
        sendStatus := .sending
        createdAt := if 0 < message.createdAt then message.createdAt else now }]
    nextLocalMessageId := db.nextLocalMessageId + 1 })

/-- `INSERT INTO message_resources` of `enqueueSend`. -/
def insertResource (localId : Int) (resource : LocalMessageResourceDTO) (db : LocalDb) :
    Option LocalDb :=
  if db.resources.any (·.localMessageId = localId) then none
  else some { db with
    resources := db.resources ++ [
      { localMessageId := localId
        originalFileName := resource.originalFileName
        localFilePath := nullableText resource.localFilePath
        fileSizeBytes := resource.fileSizeBytes
        sha256 := resource.sha256
        mimeType := resource.mimeType }] }

/-- `INSERT INTO outbox` of `enqueueSend`. -/
def insertOutbox (isResource : Bool) (outbox : OutboxEntryDTO) (db : LocalDb) :
    Option (OutboxEntryDTO × LocalDb) :=
  if db.outbox.any (·.clientMessageId = outbox.clientMessageId) then none
  else
    let entry : OutboxEntryDTO :=
      { operationId := db.nextOperationId
        clientMessageId := outbox.clientMessageId
        operationType := if isResource then .sendResource else .sendText
        stage := if isResource then .metadata else .none
        payloadJson := outbox.payloadJson }
    some (entry, { db with
      outbox := db.outbox ++ [entry]
      nextOperationId := db.nextOperationId + 1 })

/-- `UPDATE outbox SET stage=? WHERE client_message_id=?`, for exactly one row -/
def updateOutboxStage (clientMessageId : String) (stage : ResourceStage) (db : LocalDb) :
    Option LocalDb :=
  if db.outbox.countP (·.clientMessageId = clientMessageId) ≠ 1 then none
  else some { db with
    outbox := Table.update (·.clientMessageId = clientMessageId)
      (fun e => { e with stage := stage }) db.outbox }

/-- `UPDATE message_resources SET local_file_path=? WHERE local_message_id=(SELECT ..)`,
for exactly one row -/
def updateLocalFilePath (p : MessageRow → Bool) (localFilePath : String) (db : LocalDb) :
    Option LocalDb :=
  match db.messages.find? p with
  | none => none
  | some message =>
    if db.resources.countP (·.localMessageId = message.localMessageId) ≠ 1 then none
    else some { db with
      resources := Table.update (·.localMessageId = message.localMessageId)
        (fun r => { r with localFilePath := some localFilePath }) db.resources }

/-- `INSERT INTO conversations .. ON CONFLICT(thread_id) DO UPDATE` -/
def upsertConversation (row : ConversationRow) (merge : ConversationRow → ConversationRow)
    (db : LocalDb) : Option LocalDb :=
  some { db with
    conversations :=
      if db.conversations.any (·.threadId = row.threadId) then
        Table.update (·.threadId = row.threadId) merge db.conversations
      else db.conversations ++ [row] }

/-! ### Own messages -/

/-- `fillMessageByClientId`; `out` is false for a null pointer. -/
def fillMessageByClientId (out : Bool) (clientMessageId : String) :
    Stmt Store (Option MessageRow) :=
  if out then
    select fun s => (s.db.messages.find? (·.clientMessageId = some clientMessageId)).map some
  else pure none

/-- `enqueueSend` -/
def enqueueSend (now : Int) (message : LocalMessageDTO) (resource : LocalMessageResourceDTO)
    (outbox : OutboxEntryDTO) : Stmt Store OutboxEntryDTO := do
  check (¬(message.clientMessageId = "" ∨ message.threadId ≤ 0 ∨ message.senderUserId ≤ 0 ∨
    (message.messageType ≠ 0 ∧ ¬isResource message.messageType) ∨
    outbox.clientMessageId ≠ message.clientMessageId ∨ outbox.payloadJson = "" ∨
    (isResource message.messageType ∧ ¬resource.Complete)))
  transaction do
    let localId ← onDb (insertMessage now message)
    if isResource message.messageType then
      onDb (quiet (insertResource localId resource))
      onDb (insertOutbox true outbox)
    else
      onDb (insertOutbox false outbox)

/-- The last two statements of a method that ends the sending of a message. -/
def leaveOutbox (out : Bool) (clientMessageId : String) : Stmt Store (Option MessageRow) := do
  onDb (quiet fun db => some (deleteOutbox clientMessageId db))
  fillMessageByClientId out clientMessageId

/-- `confirmTextSent` -/
def confirmTextSent (now : Int) (clientMessageId : String) (messageId createdAt : Int)
    (out : Bool) : Stmt Store (Option MessageRow) := do
  check (0 < messageId)
  transaction do
    onDb <| quiet <| updateMessage
      (fun r => r.clientMessageId = some clientMessageId && r.messageType = 0) (some messageId)
      fun r => { r with
        messageId := some messageId
        sendStatus := .sent
        createdAt := if 0 < createdAt then createdAt else now }
    leaveOutbox out clientMessageId

/-- `updateResourceStage` -/
def updateResourceStage (clientMessageId : String) (messageId : Int) (stage : ResourceStage)
    (out : Bool) : Stmt Store (Option MessageRow) := do
  check (0 < messageId ∧ stage = .uploading)
  transaction do
    onDb <| quiet <| updateMessage
      (fun r => r.clientMessageId = some clientMessageId && isResource r.messageType)
      (some messageId) fun r => { r with messageId := some messageId }
    onDb <| quiet <| updateOutboxStage clientMessageId stage
    fillMessageByClientId out clientMessageId

/-- `confirmResourceSent` -/
def confirmResourceSent (clientMessageId localFilePath : String) (out : Bool) :
    Stmt Store (Option MessageRow) := do
  check (localFilePath ≠ "")
  transaction do
    onDb <| quiet <| updateLocalFilePath (·.clientMessageId = some clientMessageId) localFilePath
    onDb <| quiet <| updateMessage
      (fun r => r.clientMessageId = some clientMessageId && isResource r.messageType &&
        r.messageId.isSome)
      none fun r => { r with sendStatus := .sent }
    leaveOutbox out clientMessageId

/-- `markSendFailed` -/
def markSendFailed (clientMessageId : String) (out : Bool) : Stmt Store (Option MessageRow) :=
  transaction do
    onDb <| quiet <| updateMessage (·.clientMessageId = some clientMessageId) none
      fun r => { r with sendStatus := .failed }
    leaveOutbox out clientMessageId

/-- `updateResourceLocalPath`, for the user `self` whose file is open: no transaction. -/
def updateResourceLocalPath (self messageId : Int) (localFilePath : String) (expectedUid : Int) :
    Stmt Store Unit := do
  check (¬(messageId ≤ 0 ∨ localFilePath = "" ∨ (0 < expectedUid ∧ self ≠ expectedUid)))
  onDb <| quiet <| updateLocalFilePath (·.messageId = some messageId) localFilePath

/-! ### Messages from the server -/

/-- `insertMessageIgnore`: whether a row was inserted. -/
def insertMessageIgnore (message : LocalMessageDTO) (resource : LocalMessageResourceDTO) :
    Stmt Store Bool := do
  check (¬(message.messageId ≤ 0 ∨ message.threadId ≤ 0 ∨ message.senderUserId ≤ 0 ∨
    ¬KnownType message.messageType))
  let newId ← onDb fun db => some (db.insertOrIgnore message)
  let localId ← match newId with
    | some localId => pure localId
    | none => select fun s =>
      (s.db.messages.find? (·.messageId = some message.messageId)).map (·.localMessageId)
  if message.messageType = 0 then pure newId.isSome
  else do
    check resource.Complete
    onDb <| quiet fun db => some (db.upsertResource localId resource)
    pure newId.isSome

/-- `upsertConversationOnMessage` -/
def upsertConversationOnMessage (self : Int) (message : LocalMessageDTO) : Stmt Store Unit := do
  let peerUserId ←
    if message.senderUserId ≠ self then pure message.senderUserId
    else select fun s =>
      (s.db.conversations.find? (·.threadId = message.threadId)).map (·.peerUserId)
  check (0 < peerUserId)
  onDb <| quiet <| upsertConversation
    { threadId := message.threadId
      peerUserId := peerUserId
      lastMessageId := nullableId message.messageId
      oldestLoadedMessageId := none
      historyComplete := false
      updatedAt := message.createdAt }
    fun old => { old with
      peerUserId := peerUserId
      lastMessageId := match old.lastMessageId, nullableId message.messageId with
        | none, new => new
        | some last, none => some last
        | some last, some new => some (if last ≤ new then new else last)
      updatedAt := max old.updatedAt message.createdAt }

/-- The loop body of `insertIncoming`; also that of `applyEvent`.  It returns the ids
to append to `insertedMessageIds`. -/
def receive (self : Int) (message : LocalMessageDTO) (resource : LocalMessageResourceDTO) :
    Stmt Store (List Int) := do
  let inserted ← insertMessageIgnore message resource
  if inserted then do
    upsertConversationOnMessage self message
    pure [message.messageId]
  else pure []

/-- A loop that stops at the first failure and collects what the rounds return. -/
def collect {α : Type} (round : α → Stmt Store (List Int)) : List α → Stmt Store (List Int)
  | [] => pure []
  | a :: rest => do
    let ids ← round a
    let more ← collect round rest
    pure (ids ++ more)

/-- `insertIncoming`: the ids of the inserted messages. -/
def insertIncoming (self : Int) (messages : List LocalMessageDTO)
    (resources : List LocalMessageResourceDTO) : Stmt Store (List Int) := do
  check (messages.length = resources.length)
  transaction (collect (fun m => receive self m.1 m.2) (messages.zip resources))

/-- The loop of `insertHistoryPage`; `oldest` is the smallest server id so far. -/
def insertPageLoop (threadId : Int) :
    List (LocalMessageDTO × LocalMessageResourceDTO) → Int → Stmt Store Int
  | [], oldest => pure oldest
  | (message, resource) :: page, oldest => do
    check (message.threadId = threadId)
    let _ ← insertMessageIgnore message resource
    insertPageLoop threadId page
      (if oldest = 0 ∨ message.messageId < oldest then message.messageId else oldest)

/-- The statement at the end of `insertHistoryPage`, for exactly one row -/
def updateOldestLoaded (threadId oldest : Int) (historyComplete : Bool) (db : LocalDb) :
    Option LocalDb :=
  if db.conversations.countP (·.threadId = threadId) ≠ 1 then none
  else some { db with
    conversations := Table.update (·.threadId = threadId) (fun c => { c with
      oldestLoadedMessageId := match c.oldestLoadedMessageId with
        | none => some oldest
        | some old => some (if old > oldest then oldest else old)
      historyComplete := historyComplete }) db.conversations }

/-- `insertHistoryPage` -/
def insertHistoryPage (threadId : Int) (messages : List LocalMessageDTO)
    (resources : List LocalMessageResourceDTO) (historyComplete : Bool) : Stmt Store Unit := do
  check (messages.length = resources.length)
  transaction do
    let oldest ← insertPageLoop threadId (messages.zip resources) 0
    onDb <| quiet <| updateOldestLoaded threadId oldest historyComplete

/-! ### Synchronisation -/

/-- `upsertFriendRequest` -/
def upsertFriendRequest (request : LocalFriendRequestDTO) : Stmt Store Unit := do
  check (request.valid = true)
  exec fun s => some ((), { s with
    friendRequests :=
      if s.friendRequests.any (·.friendRequestId = request.friendRequestId) then
        Table.update (·.friendRequestId = request.friendRequestId) (fun _ => request)
          s.friendRequests
      else s.friendRequests ++ [request] })

/-- `upsertContact` -/
def upsertContact (contact : LocalContactDTO) : Stmt Store Unit := do
  check (0 < contact.userId ∧ 0 < contact.threadId)
  exec fun s => some ((), { s with
    contacts :=
      if s.contacts.any (·.userId = contact.userId) then
        Table.update (·.userId = contact.userId) (fun _ => contact) s.contacts
      else s.contacts ++ [contact] })

/-- `upsertConversations` -/
def upsertConversations (now : Int) : List LocalConversationDTO → Stmt Store Unit
  | [] => pure ()
  | conversation :: rest => do
    check (0 < conversation.threadId ∧ 0 < conversation.peerUserId)
    let updatedAt := if 0 < conversation.updatedAt then conversation.updatedAt else now
    onDb <| quiet <| upsertConversation
      { threadId := conversation.threadId
        peerUserId := conversation.peerUserId
        lastMessageId := nullableId conversation.lastMessageId
        oldestLoadedMessageId := nullableId conversation.oldestLoadedMessageId
        historyComplete := conversation.historyComplete
        updatedAt := updatedAt }
      fun old => { old with
        peerUserId := conversation.peerUserId
        lastMessageId := (nullableId conversation.lastMessageId).or old.lastMessageId
        oldestLoadedMessageId :=
          (nullableId conversation.oldestLoadedMessageId).or old.oldestLoadedMessageId
        historyComplete := old.historyComplete || conversation.historyComplete
        updatedAt := max old.updatedAt updatedAt }
    upsertConversations now rest

/-- The UPDATE of event 11: the requests of both users that are still open. -/
def acceptBoth (self peer threadId : Int) : Stmt Store Unit :=
  exec fun s => some ((), { s with
    friendRequests := Table.update (fun r => r.status = 0 ∧
        (r.requesterUserId = self ∧ r.targetUserId = peer ∨
          r.requesterUserId = peer ∧ r.targetUserId = self))
      (fun r => { r with status := 1, threadId := threadId }) s.friendRequests })

/-- The branch of `applyEvent` for the events of a friend request. -/
def applyFriendEvent (self now : Int) (event : UserEventDTO)
    (friendRequests : List LocalFriendRequestDTO) (contacts : List LocalContactDTO) :
    Stmt Store (List Int) :=
  match friendRequests.find? (·.friendRequestId = event.friendRequestId) with
  | none => fail
  | some request => do
    upsertFriendRequest request
    if event.eventType ≠ 11 then do
      check (event.eventType = 10 ∨ event.eventType = 12)
      pure []
    else
      let peer := if request.requesterUserId = self then request.targetUserId
        else request.requesterUserId
      do
        acceptBoth self peer request.threadId
        match contacts.find? (·.userId = peer) with
        | none => fail
        | some contact => do
          upsertContact contact
          upsertConversations now
            [{ threadId := contact.threadId, peerUserId := contact.userId, updatedAt := now }]
          pure []

/-- `applyEvent` -/
def applyEvent (self now : Int) (messages : List LocalMessageDTO)
    (resources : List LocalMessageResourceDTO) (friendRequests : List LocalFriendRequestDTO)
    (contacts : List LocalContactDTO) (event : UserEventDTO) : Stmt Store (List Int) :=
  if KnownType event.eventType then
    match (messages.zip resources).find? (·.1.messageId = event.messageId) with
    | none => fail
    | some m => receive self m.1 m.2
  else applyFriendEvent self now event friendRequests contacts

/-- The events are numbered from `expected` on. -/
def Consecutive (expected : Int) : List UserEventDTO → Prop
  | [] => True
  | event :: rest => event.eventSeq = expected ∧ Consecutive (expected + 1) rest

instance decidableConsecutive : (expected : Int) → (events : List UserEventDTO) →
    Decidable (Consecutive expected events)
  | _, [] => .isTrue trivial
  | expected, event :: rest =>
    have := decidableConsecutive (expected + 1) rest
    inferInstanceAs (Decidable (event.eventSeq = expected ∧ Consecutive (expected + 1) rest))

/-- `applySyncPage`: the ids of the inserted messages. -/
def applySyncPage (self now : Int) (events : List UserEventDTO) (messages : List LocalMessageDTO)
    (resources : List LocalMessageResourceDTO) (friendRequests : List LocalFriendRequestDTO)
    (contacts : List LocalContactDTO) (newEventSeq : Int) : Stmt Store (List Int) := do
  check (messages.length = resources.length)
  -- `getSyncState`, in front of the transaction
  let currentSeq ← select fun s => some s.lastEventSeq
  check (Consecutive (currentSeq + 1) events ∧
    newEventSeq = (events.getLast?.map (·.eventSeq)).getD currentSeq)
  transaction do
    let ids ← collect (applyEvent self now messages resources friendRequests contacts) events
    exec fun s => if newEventSeq < 0 then none
      else some ((), { s with lastEventSeq := newEventSeq })
    pure ids

/-! ### Runs -/

/-- A call of one of the methods. -/
inductive Op
  | enqueueSend (now : Int) (message : LocalMessageDTO) (resource : LocalMessageResourceDTO)
      (outbox : OutboxEntryDTO)
  | confirmTextSent (now : Int) (clientMessageId : String) (messageId createdAt : Int)
      (out : Bool)
  | updateResourceStage (clientMessageId : String) (messageId : Int) (stage : ResourceStage)
      (out : Bool)
  | confirmResourceSent (clientMessageId localFilePath : String) (out : Bool)
  | markSendFailed (clientMessageId : String) (out : Bool)
  | insertIncoming (messages : List LocalMessageDTO) (resources : List LocalMessageResourceDTO)
  | applySyncPage (now : Int) (events : List UserEventDTO) (messages : List LocalMessageDTO)
      (resources : List LocalMessageResourceDTO) (friendRequests : List LocalFriendRequestDTO)
      (contacts : List LocalContactDTO) (newEventSeq : Int)
  | insertHistoryPage (threadId : Int) (messages : List LocalMessageDTO)
      (resources : List LocalMessageResourceDTO) (historyComplete : Bool)
  | updateResourceLocalPath (messageId : Int) (localFilePath : String) (expectedUid : Int)

/-- Whether the method returned true, and the connection afterwards. -/
def report {α : Type} (m : Stmt Store α) (c : Conn Store) : Bool × Conn Store :=
  ((m c).1.isSome, (m c).2)

/-- The call, for the user `self`. -/
def perform (self : Int) : Op → Conn Store → Bool × Conn Store
  | .enqueueSend now message resource outbox =>
    report (enqueueSend now message resource outbox)
  | .confirmTextSent now clientMessageId messageId createdAt out =>
    report (confirmTextSent now clientMessageId messageId createdAt out)
  | .updateResourceStage clientMessageId messageId stage out =>
    report (updateResourceStage clientMessageId messageId stage out)
  | .confirmResourceSent clientMessageId localFilePath out =>
    report (confirmResourceSent clientMessageId localFilePath out)
  | .markSendFailed clientMessageId out => report (markSendFailed clientMessageId out)
  | .insertIncoming messages resources => report (insertIncoming self messages resources)
  | .applySyncPage now events messages resources friendRequests contacts newEventSeq =>
    report (applySyncPage self now events messages resources friendRequests contacts newEventSeq)
  | .insertHistoryPage threadId messages resources historyComplete =>
    report (insertHistoryPage threadId messages resources historyComplete)
  | .updateResourceLocalPath messageId localFilePath expectedUid =>
    report (updateResourceLocalPath self messageId localFilePath expectedUid)

/-- The connection after a sequence of calls. -/
def run (self : Int) (ops : List Op) (c : Conn Store) : Conn Store :=
  ops.foldl (fun c op => (perform self op c).2) c

end LlfcChat.LocalStore
