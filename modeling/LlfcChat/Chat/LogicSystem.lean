/-
`LogicSystem::DispatchClientMessage` and the eleven handlers it selects from.

Each handler is written in the order of its C++ text.  An early `return` is
the branch of an `if`; a `Defer` is `Effect.defer`, so the response leaves the
handler also when an exception does.  The checks at the head of a handler that
only look at the request are collected in a function to `Option`, named after
the handler with `Args`.
-/
import LlfcChat.Chat.Services

namespace LlfcChat

open Effect Handler

variable {W : Type} (svc : Services W) (session : Session)

/-! ### User profiles -/

/-- The seven reads from a cached profile, in their order. -/
def readProfile (root : Json) : Except Json.Error UserInfo := do
  let uid ← root.intAt "uid"
  let name ← root.textAt "name"
  let email ← root.textAt "email"
  let nick ← root.textAt "nick"
  let desc ← root.textAt "desc"
  let sex ← root.intAt "sex"
  let icon ← root.textAt "icon"
  return { userId := uid, username := name, email := email, nickname := nick,
           profileBio := desc, gender := sex, avatarKey := icon }

/-- The members that a profile has in the cache and in a response. -/
def profileMembers (u : UserInfo) : List (String × Json) :=
  [("uid", .int u.userId), ("name", .str u.username), ("email", .str u.email),
    ("nick", .str u.nickname), ("desc", .str u.profileBio), ("sex", .int u.gender),
    ("icon", .str u.avatarKey)]

/-- What is written to Redis for a profile. -/
def cachedProfile (u : UserInfo) : List UInt8 :=
  Wire.utf8 (Json.ofMembers (profileMembers u)).dumpPretty

/-- The body that `GetUserByUid` and `GetUserByName` share: the cache first, then
the database, whose answer is put into the cache. -/
def getUserCached (baseKey : String) (load : Handler W (Option UserInfo)) : Handler W Unit := do
  assignError .success
  match ← ask (svc.redisGet baseKey) with
  | some info =>
    let u ← json (readProfile (svc.parse info))
    updateWith (profileMembers u)
  | none => match ← load with
    | none => assignError .uidInvalid
    | some u =>
      tell (svc.redisSet baseKey (cachedProfile u))
      updateWith (profileMembers u)

/-- `LogicSystem::GetUserByUid`.  The number is only read from the text when the
cache has no entry. -/
def getUserByUid (uidStr : String) : Handler W Unit :=
  getUserCached svc ("ubaseinfo_" ++ uidStr) do
    let uid ← ofExcept (stoi uidStr)
    ask (svc.getUser uid)

/-- `LogicSystem::GetUserByName`. -/
def getUserByName (name : String) : Handler W Unit :=
  getUserCached svc ("nameinfo_" ++ name) (ask (svc.getUserByName name))

/-- `LogicSystem::GetBaseInfo`.  What goes into the cache has the uid that was
asked for. -/
def getBaseInfo (baseKey : String) (uid : Int) : Handler W (Option UserInfo) := do
  match ← ask (svc.redisGet baseKey) with
  | some info => return some (← json (readProfile (svc.parse info)))
  | none => match ← ask (svc.getUser uid) with
    | none => return none
    | some u =>
      tell (svc.redisSet baseKey (cachedProfile { u with userId := uid }))
      return some u

/-! ### Envelopes -/

/-- A decimal text. -/
def decimal (i : Int) : Json := .str (toString i)

/-- `LogicSystem::BuildMessageEnvelope`. -/
def buildMessageEnvelope (m : ChatMessage) : List (String × Json) :=
  Json.update [] <|
    [("event_type", .int m.messageType)] ++
    (if 0 < m.eventSeq then [("event_seq", decimal m.eventSeq)] else []) ++
    [("message_id", decimal m.messageId), ("client_message_id", .str m.clientMessageId),
      ("thread_id", decimal m.threadId), ("sender_user_id", .int m.senderUserId),
      ("message_type", .int m.messageType), ("created_at", .str m.createdAt)] ++
    (if m.messageType = chatMsgText then [("text_content", .str m.textContent)]
    else match m.resource with
      | some r => [("original_file_name", .str r.originalFileName),
          ("file_size_bytes", decimal r.fileSizeBytes), ("sha256", .str r.sha256),
          ("mime_type", .str r.mimeType)]
      | none => [])

/-- The type of the event that the status of a friend request stands for. -/
def friendEventType : FriendRequestStatus → Int
  | .pending => friendApplyEvent
  | .accepted => friendAcceptEvent
  | .rejected => friendRejectEvent

/-- A thread id, or null where there is no thread. -/
def threadIdOrNull (threadId : Int) : Json := if 0 < threadId then decimal threadId else .null

/-- `LogicSystem::BuildFriendRequestEnvelope`, with the peer that `GetUser`
found. -/
def friendRequestMembers (r : FriendRequest) (peer : Option UserInfo) : List (String × Json) :=
  Json.update [] <|
    [("event_type", .int (friendEventType r.status))] ++
    (if 0 < r.eventSeq then [("event_seq", decimal r.eventSeq)] else []) ++
    [("friend_request_id", decimal r.friendRequestId),
      ("requester_user_id", .int r.requesterUserId), ("target_user_id", .int r.targetUserId),
      ("client_request_id", .str r.clientRequestId), ("request_message", .str r.requestMessage),
      ("status", .int r.status.toInt), ("thread_id", threadIdOrNull r.threadId)] ++
    (match peer with
      | some u => [("peer_username", .str u.username), ("peer_nickname", .str u.nickname),
          ("peer_avatar_key", .str u.avatarKey), ("peer_gender", .int u.gender)]
      | none => [])

def buildFriendRequestEnvelope (r : FriendRequest) (recipient : Int) :
    Handler W (List (String × Json)) := do
  let peerUserId := if recipient = r.requesterUserId then r.targetUserId else r.requesterUserId
  return friendRequestMembers r (← ask (svc.getUser peerUserId))

/-- The envelope of what the event is about. -/
def buildSubjectEnvelope (event : UserEvent) (recipient : Int) : Handler W (List (String × Json)) :=
  match event.message, event.friendRequest with
  | some m, _ => pure (buildMessageEnvelope m)
  | none, some r => buildFriendRequestEnvelope svc r recipient
  | none, none => pure []

/-- `LogicSystem::BuildUserEventEnvelope`. -/
def buildUserEventEnvelope (event : UserEvent) (recipient : Int) :
    Handler W (List (String × Json)) := do
  let env ← buildSubjectEnvelope svc event recipient
  return Json.update env [("event_type", .int event.eventType),
    ("event_seq", decimal event.eventSeq)]

/-- `LogicSystem::DeliverUserEvent`: to a session of this server through the
queue of its user, to another server through the delivery queue. -/
def deliverUserEvent (event : UserEvent) (recipient : Int) : Handler W Unit := do
  if event.eventSeq = 0 ∨ recipient ≤ 0 then return ()
  else match ← ask (svc.redisGet ("uip_" ++ toString recipient)) with
    | none => return ()
    | some server =>
      if server = Wire.utf8 (svc.getValue "SelfServer" "Name") then
        let env ← buildUserEventEnvelope svc event recipient
        act (.postToUser recipient (Json.obj (Json.insert "error" (.int 0) env)).dump
          idNotifyUserMessage)
      else
        -- every caller sets the message or the friend request
        let sender := event.message.elim (event.friendRequest.elim 0 (·.requesterUserId))
          (·.senderUserId)
        act (.postDelivery sender server recipient event.eventType
          (event.message.elim 0 (·.messageId)) (event.friendRequest.elim 0 (·.friendRequestId)))

/-! ### Login -/

/-- The members of an entry of `apply_list`. -/
def applyMembers (apply : ApplyInfo) : List (String × Json) :=
  [("friend_request_id", decimal apply.request.friendRequestId),
    ("requester_user_id", .int apply.request.requesterUserId),
    ("target_user_id", .int apply.request.targetUserId),
    ("request_message", .str apply.request.requestMessage),
    ("status", .int apply.request.status.toInt),
    ("thread_id", threadIdOrNull apply.request.threadId),
    ("peer_username", .str apply.peer.username), ("peer_nickname", .str apply.peer.nickname),
    ("peer_avatar_key", .str apply.peer.avatarKey), ("peer_gender", .int apply.peer.gender)]

/-- The members of an entry of `friend_list`. -/
def contactMembers (contact : ContactInfo) : List (String × Json) :=
  [("user_id", .int contact.user.userId), ("username", .str contact.user.username),
    ("nickname", .str contact.user.nickname), ("avatar_key", .str contact.user.avatarKey),
    ("gender", .int contact.user.gender), ("thread_id", threadIdOrNull contact.threadId)]

/-- `root.at("uid").get<int>()` and `root.at("token").get<std::string>()`, whose
exceptions the handler catches. -/
def loginArgs (root : Json) : Option (Int × String) :=
  match (do return (← (← root.atKey "uid").getInt, ← (← root.atKey "token").getString) :
      Except Json.Error (Int × String)) with
  | .ok args => some args
  | .error _ => none

/-- `CSession::TrySetUserId`. -/
def trySetUserId (uid : Int) : Handler W Bool := do
  let isOpen ← ask svc.isOpen
  let bound ← getUserId
  if uid ≤ 0 ∨ isOpen = false ∨ bound ≠ 0 then return false
  else
    modify fun s => { s with userUid := uid }
    return true

/-- The section of `LoginHandler` under the Redis lock of the user: throw out
the older session, then bind this one. -/
def bindSession (uid : Int) (selfName : String) : Handler W Unit := do
  match ← ask (svc.redisGet ("uip_" ++ toString uid)) with
  | none => pure ()
  | some server =>
    if server = Wire.utf8 selfName then
      match ← ask (svc.getSession uid) with
      | some old => if old ≠ session.sessionId then act (.notifyOffline old uid) else pure ()
      | none => pure ()
    else act (.notifyKickUser server uid)
  if ← trySetUserId svc uid then
    tell (svc.redisSet ("uip_" ++ toString uid) (Wire.utf8 selfName))
    tell (svc.setUserSession uid session.sessionId)
    tell (svc.redisSet ("usession_" ++ toString uid) (Wire.utf8 session.sessionId))
  else assignError .rpcFailed

/-- The part of `LoginHandler` behind the check of the token. -/
def loginWith (uid : Int) : Handler W Unit := do
  let selfName := svc.getValue "SelfServer" "Name"
  match ← getBaseInfo svc ("ubaseinfo_" ++ toString uid) uid with
  | none => assignError .uidInvalid
  | some u =>
    assignError .success
    updateWith (profileMembers { u with userId := uid })
    match ← ask (svc.getLastEventSeq uid) with
    | none => assignError .messageStoreFailed
    | some checkpoint =>
      assign "checkpoint" (decimal checkpoint)
      assign "apply_list" (.arr [])
      assign "friend_list" (.arr [])
      match ← ask (svc.getFriendApplyInfo uid) with
      | none => assignError .messageStoreFailed
      | some applyList =>
        forEach (fun apply => push "apply_list" (Json.ofMembers (applyMembers apply))) applyList
        match ← ask (svc.getFriendList uid) with
        | none => assignError .messageStoreFailed
        | some contacts =>
          forEach (fun contact => push "friend_list" (Json.ofMembers (contactMembers contact)))
            contacts
          let lockKey := "lock_" ++ toString uid
          let identifier ← ask (svc.acquireLock lockKey)
          defer (tell (svc.releaseLock lockKey identifier))
            (if identifier = "" then assignError .rpcFailed
            else bindSession svc session uid selfName)

/-- `LogicSystem::LoginHandler`. -/
def loginHandler (msgData : List UInt8) : Handler W Unit :=
  defer (sendPretty msgChatLoginRsp) <|
    match loginArgs (svc.parse msgData) with
    | none => assignError .tokenInvalid
    | some (uid, token) => do
      let stored ← ask (svc.redisGet ("utoken_" ++ toString uid))
      if stored = some (Wire.utf8 token) then loginWith svc session uid
      else assignError .tokenInvalid

/-! ### Users and friends -/

/-- `LogicSystem::SearchInfo`.  The first access checks nothing. -/
def searchInfo (msgData : List UInt8) : Handler W Unit := do
  let uidStr ← json ((svc.parse msgData).textAt "uid")
  defer (sendPretty idSearchUserRsp)
    (if isPureDigit uidStr then getUserByUid svc uidStr else getUserByName svc uidStr)

/-- The answer that has an error code and nothing else. -/
def reject (code : ErrorCodes) (msgType : Int) : Handler W Unit := do
  assignError code
  sendCompact msgType

/-- A member that may be missing but is a text if it is there. -/
def optionalText (root : Json) (key : String) : Option String :=
  match root.field key with
  | none => some ""
  | some (.str s) => some s
  | some _ => none

/-- The checks of `AddFriendApply` that only look at the request: the target,
the message and the client's id. -/
def addFriendApplyArgs (root : Json) : Option (Int × String × String) := do
  let target ← parseJsonUid (← root.field "target_user_id")
  let message ← optionalText root "request_message"
  let key ← stringField root "client_request_id"
  if key = "" then none else return (target, message, key)

/-- The end that `AddFriendApply` and `AuthFriendApply` share: the envelope goes
back to the caller, and a request that was stored just now to the peer. -/
def answerFriendRequest (uid : Int) (request : FriendRequest) (msgType : Int)
    (result : FriendOperationResult) (eventType recipient : Int) : Handler W Unit := do
  assignError .success
  updateWith (← buildFriendRequestEnvelope svc request uid)
  sendCompact msgType
  if result = .stored then
    deliverUserEvent svc { eventSeq := request.eventSeq, eventType := eventType,
                           friendRequest := some request } recipient
  else pure ()

/-- `LogicSystem::AddFriendApply`. -/
def addFriendApplyHandler (msgData : List UInt8) : Handler W Unit := do
  let requester ← getUserId
  match addFriendApplyArgs (svc.parse msgData) with
  | none => reject .errorJson idAddFriendRsp
  | some (target, message, key) =>
    if target ≤ 0 ∨ target = requester ∨ 64 < key.utf8ByteSize ∨ 255 < message.utf8ByteSize then
      reject .errorJson idAddFriendRsp
    else match ← ask (svc.addFriendApply requester target message key) with
      | (.alreadyFriends, _) => reject .alreadyFriends idAddFriendRsp
      | (.notFound, _) => reject .uidInvalid idAddFriendRsp
      | (.conflict, _) => reject .messageConflict idAddFriendRsp
      | (.failed, _) => reject .messageStoreFailed idAddFriendRsp
      | (_, none) => reject .messageStoreFailed idAddFriendRsp
      | (result, some request) =>
        answerFriendRequest svc requester request idAddFriendRsp result friendApplyEvent target

/-- The checks of `AuthFriendApply`: the id of the request and the action. -/
def authFriendApplyArgs (root : Json) : Option (Int × String) := do
  let id ← parseJsonId (← root.field "friend_request_id")
  let action ← stringField root "action"
  if id ≤ 0 then none else return (id, action)

/-- `LogicSystem::AuthFriendApply`. -/
def authFriendApply (msgData : List UInt8) : Handler W Unit := do
  let uid ← getUserId
  match authFriendApplyArgs (svc.parse msgData) with
  | none => reject .errorJson idHandleFriendRsp
  | some (id, action) =>
    if action ≠ "accept" ∧ action ≠ "reject" then reject .friendActionInvalid idHandleFriendRsp
    else
      let (result, output) ← ask (svc.handleFriendApply uid id (action = "accept"))
      match result with
      | .stored | .duplicate => match output.request with
        | none => reject .success idHandleFriendRsp
        | some request =>
          answerFriendRequest svc uid request idHandleFriendRsp result
            (if action = "accept" then friendAcceptEvent else friendRejectEvent)
            request.requesterUserId
      | .notFound => reject .friendRequestNotFound idHandleFriendRsp
      | .alreadyHandled => reject .friendRequestHandled idHandleFriendRsp
      | .alreadyFriends => reject .alreadyFriends idHandleFriendRsp
      | .forbidden => reject .friendRequestNotFound idHandleFriendRsp
      | .conflict | .failed => reject .messageStoreFailed idHandleFriendRsp

/-! ### Messages -/

/-- The two users of a request are the two members of its thread. -/
def memberPair (uid target : Int) (members : Option (Int × Int)) : Bool :=
  match members with
  | some (lower, higher) => (uid = lower ∧ target = higher) ∨ (uid = higher ∧ target = lower)
  | none => false

/-- The checks of `DealChatTextMsg` in front of the thread id: the target, the
text and the client's id. -/
def dealChatTextMsgArgs (root : Json) : Option (Int × String × String) := do
  let target ← parseJsonUid (← root.field "target_user_id")
  let _ ← stringField root "thread_id"
  let text ← stringField root "text_content"
  let key ← stringField root "client_message_id"
  if key = "" then none else return (target, text, key)

/-- What `DealChatTextMsg` answers to the result of `AddChatMsg`.  The response
is sent before the live delivery. -/
def answerChatTextMsg (result : SaveMessageResult) (m : ChatMessage) : Handler W Unit :=
  match result with
  | .failed => do
    assignError .messageStoreFailed
    sendPretty idTextChatMsgRsp
  | .conflict => do
    assignError .messageConflict
    assign "client_message_id" (.str m.clientMessageId)
    sendPretty idTextChatMsgRsp
  | .stored | .duplicate => do
    updateWith (buildMessageEnvelope m)
    sendPretty idTextChatMsgRsp
    if result = .stored then
      deliverUserEvent svc { eventSeq := m.eventSeq, eventType := m.messageType,
                             message := some m } m.recipientUserId
    else pure ()

/-- `LogicSystem::DealChatTextMsg`. -/
def dealChatTextMsg (msgData : List UInt8) : Handler W Unit := do
  let root := svc.parse msgData
  let uid ← getUserId
  match dealChatTextMsgArgs root with
  | none => reject .errorJson idTextChatMsgRsp
  | some (target, text, key) => match (root.field "thread_id").bind parseJsonId with
    | none =>
      assignError .errorJson
      sendPretty idTextChatMsgRsp
    | some threadId =>
      if memberPair uid target (← ask (svc.getPrivateChatMembers threadId)) = false then
        reject .createChatFailed idTextChatMsgRsp
      else if 64 < key.utf8ByteSize then reject .errorJson idTextChatMsgRsp
      else
        assignError .success
        assign "client_message_id" (.str key)
        let createdAt ← ask svc.getCurrentTimestamp
        let (result, m) ← ask <| svc.addChatMsg
          { createdAt := createdAt, senderUserId := uid, recipientUserId := target,
            clientMessageId := key, threadId := threadId, textContent := text,
            status := .published, messageType := chatMsgText }
        answerChatTextMsg svc result m

/-- `LogicSystem::HeartBeatHandler`. -/
def heartBeatHandler : Handler W Unit := do
  assignError .success
  sendPretty idHeartbeatRsp

/-! ### Threads and history -/

/-- The members of an entry of `threads`. -/
def threadMembers (t : ChatThreadInfo) : List (String × Json) :=
  [("thread_id", decimal t.threadId), ("lower_user_id", .int t.lowerUserId),
    ("higher_user_id", .int t.higherUserId), ("last_message_id", decimal t.lastMsgId)]

/-- `LogicSystem::GetUserThreadsHandler`.  `root["thread_id"]` is read without a
look at what `root` is. -/
def getUserThreadsHandler (msgData : List UInt8) : Handler W Unit := do
  let root := svc.parse msgData
  let uid ← getUserId
  assignError .success
  assign "uid" (.int uid)
  defer (sendPretty idLoadChatThreadRsp) do
    let id ← json (root.index "thread_id")
    match parseJsonId id with
    | none => assignError .errorJson
    | some lastId => match ← ask (svc.getUserThreads uid lastId 10) with
      | none => assignError .uidInvalid
      | some (threads, loadMore, nextLastId) =>
        assign "load_more" (.bool loadMore)
        assign "next_last_id" (decimal nextLastId)
        forEach (fun t => push "threads" (Json.ofMembers (threadMembers t))) threads

/-- `root["target_user_id"]` as a JSON integer, cut down to an `int`. -/
def createPrivateChatArgs (root : Json) : Option Int :=
  match root.field "target_user_id" with
  | some (.int i) => some (Json.toInt32 i)
  | some (.uint n) => some (Json.toInt32 n)
  | _ => none

/-- `LogicSystem::CreatePrivateChat`. -/
def createPrivateChatHandler (msgData : List UInt8) : Handler W Unit := do
  let uid ← getUserId
  assignError .success
  defer (sendPretty idCreatePrivateChatRsp) <|
    match createPrivateChatArgs (svc.parse msgData) with
    | none => assignError .errorJson
    | some target =>
      if uid ≤ 0 ∨ target ≤ 0 ∨ uid = target then assignError .uidInvalid
      else do
        assign "target_user_id" (.int target)
        match ← ask (svc.createPrivateChat uid target) with
        | none => assignError .createChatFailed
        | some threadId => assign "thread_id" (decimal threadId)

/-- `before_message_id`: 0 if it is missing. -/
def beforeMessageId (root : Json) : Option Int :=
  match root.field "before_message_id" with
  | none => some 0
  | some id => parseJsonId id

/-- `LogicSystem::LoadChatMsg`. -/
def loadChatMsgHandler (msgData : List UInt8) : Handler W Unit := do
  let root := svc.parse msgData
  assignError .success
  defer (sendPretty idLoadChatMsgRsp) do
    let id ← json (root.index "thread_id")
    match parseJsonId id with
    | none => assignError .errorJson
    | some threadId => match beforeMessageId root with
      | none => assignError .errorJson
      | some messageId =>
        assign "thread_id" (decimal threadId)
        let uid ← getUserId
        match ← ask (svc.loadChatMsg uid threadId messageId 10) with
        | none => assignError .loadChatFailed
        | some page =>
          assign "next_message_id" (decimal page.nextCursor)
          assign "load_more" (.bool page.loadMore)
          forEach (fun m => push "messages" (.obj (buildMessageEnvelope m))) page.messages

/-! ### Resource messages -/

/-- The fields of a 1503 request. -/
structure ResourceRequest where
  target : Int
  messageType : Int
  threadId : Int
  clientMessageId : String
  originalFileName : String
  sha256 : String
  mimeType : String

/-- The members of a 1503 request that must be there, with their kinds. -/
def dealCreateResourceMsgArgs (root : Json) : Option ResourceRequest := do
  let target ← parseJsonInt (← root.field "target_user_id")
  let messageType ← parseJsonInt (← root.field "message_type")
  let threadId ← parseJsonId (← root.field "thread_id")
  let clientMessageId ← stringField root "client_message_id"
  let originalFileName ← stringField root "original_file_name"
  let sha256 ← stringField root "sha256"
  let mimeType ← stringField root "mime_type"
  return { target, messageType, threadId, clientMessageId, originalFileName, sha256, mimeType }

/-- `file_size_bytes`: 0 for everything that is no number. -/
def fileSizeBytes (root : Json) : Nat :=
  match stringField root "file_size_bytes" with
  | none => 0
  | some value =>
    if value = "" ∨ ¬isPureDigit value then 0
    else match stoull value with
      | .ok n => n
      | .error _ => 0

/-- `ReadResourceLimit`: the whole text has to be a number. -/
def readResourceLimit (key : String) (fallback : Nat) : Nat :=
  (stoullWhole (svc.getValue "Resource" key)).getD fallback

/-- `kDefaultMaxImageSize` and `kDefaultMaxFileSize`. -/
def defaultMaxImageSize : Nat := 20 * 1024 * 1024
def defaultMaxFileSize : Nat := 100 * 1024 * 1024

/-- The `reject` of `DealCreateResourceMsg`. -/
def rejectResource (code : ErrorCodes) : Handler W Unit := do
  assignError code
  sendPretty idCreateResourceMsgRsp

/-- The part of `DealCreateResourceMsg` behind the checks. -/
def createResourceMsg (uid : Int) (q : ResourceRequest) (fileName : String) (size : Nat) :
    Handler W Unit := do
  let createdAt ← ask svc.getCurrentTimestamp
  let (result, m) ← ask <| svc.addChatMsg
    { createdAt := createdAt, senderUserId := uid, recipientUserId := q.target,
      clientMessageId := q.clientMessageId, threadId := q.threadId,
      messageType := q.messageType, status := .pending,
      resource := some { originalFileName := fileName, fileSizeBytes := size,
                         sha256 := q.sha256, mimeType := q.mimeType } }
  match result with
  | .failed => rejectResource .messageStoreFailed
  | .conflict => rejectResource .messageConflict
  | .stored | .duplicate =>
    updateWith (buildMessageEnvelope m)
    sendPretty idCreateResourceMsgRsp

/-- `LogicSystem::DealCreateResourceMsg`. -/
def dealCreateResourceMsg (msgData : List UInt8) : Handler W Unit := do
  let root := svc.parse msgData
  assignError .success
  let uid ← getUserId
  match dealCreateResourceMsgArgs root with
  | none => rejectResource .errorJson
  | some q =>
    if q.clientMessageId = "" ∨ 64 < q.clientMessageId.utf8ByteSize then rejectResource .errorJson
    else
      assign "client_message_id" (.str q.clientMessageId)
      let size := fileSizeBytes root
      let isPic := q.messageType = chatMsgPic
      let sizeLimit := if isPic then readResourceLimit svc "MaxImageSize" defaultMaxImageSize
        else readResourceLimit svc "MaxFileSize" defaultMaxFileSize
      if uid ≤ 0 ∨ q.target ≤ 0 then rejectResource .uidInvalid
      else if memberPair uid q.target (← ask (svc.getPrivateChatMembers q.threadId)) = false then
        rejectResource .createChatFailed
      else if ¬isPic ∧ q.messageType ≠ chatMsgFile then rejectResource .resourceInvalid
      else if size = 0 ∨ sizeLimit < size then rejectResource .resourceSizeExceeded
      else match sanitizeFileName q.originalFileName with
        | none => rejectResource .resourceInvalid
        | some fileName =>
          if isValidSha256Hex q.sha256 = false then rejectResource .resourceInvalid
          else if isValidMimeType q.mimeType = false then rejectResource .resourceInvalid
          else createResourceMsg svc uid q fileName size

/-! ### Synchronisation -/

/-- `after_event_seq`: 0 if it is missing, else a decimal text below 2^64. -/
def afterEventSeq (root : Json) : Option Nat :=
  match root.field "after_event_seq" with
  | none => some 0
  | some (.str value) =>
    if value = "" ∨ ¬isPureDigit value then none
    else match stoull value with
      | .ok n => some n
      | .error _ => none
  | some _ => none

/-- `limit`: 100 if it is missing, and brought into the range from 1 to 200. -/
def syncLimit (root : Json) : Option Int :=
  (match root.field "limit" with
    | none => some 100
    | some v => parseJsonInt v).map fun limit => min (max limit 1) 200

/-- The two arguments of a 1405 request. -/
def dealSyncMessageArgs (root : Json) : Option (Nat × Int) :=
  if root.isObject then do return (← afterEventSeq root, ← syncLimit root) else none

/-- The loop over the rows of the page. -/
def pushEvents (uid : Int) : List UserEvent → Nat → Handler W Nat
  | [], nextEventSeq => pure nextEventSeq
  | row :: rows, _ => do
    push "events" (.obj (← buildUserEventEnvelope svc row uid))
    pushEvents uid rows row.eventSeq

/-- `LogicSystem::DealSyncMessage`. -/
def dealSyncMessage (msgData : List UInt8) : Handler W Unit := do
  let uid ← getUserId
  match dealSyncMessageArgs (svc.parse msgData) with
  | none => reject .errorJson idSyncUserMessageRsp
  | some (after, limit) => match ← ask (svc.getLastEventSeq uid) with
    | none => reject .messageStoreFailed idSyncUserMessageRsp
    | some head =>
      if head < after then reject .syncCursorInvalid idSyncUserMessageRsp
      else match ← ask (svc.getEventsAfterSeq uid after limit) with
        | none => reject .messageStoreFailed idSyncUserMessageRsp
        | some rows =>
          let hasMore := decide (limit < rows.length)
          assignError .success
          assign "events" (.arr [])
          let nextEventSeq ← pushEvents svc uid (if hasMore then rows.dropLast else rows) after
          assign "next_event_seq" (decimal nextEventSeq)
          assign "has_more" (.bool hasMore)
          sendCompact idSyncUserMessageRsp

/-! ### Dispatch -/

/-- `_fun_callbacks`. -/
def callback (msgType : Int) : Option (List UInt8 → Handler W Unit) :=
  if msgType = msgChatLogin then some (loginHandler svc session)
  else if msgType = idSearchUserReq then some (searchInfo svc)
  else if msgType = idAddFriendReq then some (addFriendApplyHandler svc)
  else if msgType = idHandleFriendReq then some (authFriendApply svc)
  else if msgType = idTextChatMsgReq then some (dealChatTextMsg svc)
  else if msgType = idHeartBeatReq then some fun _ => heartBeatHandler
  else if msgType = idLoadChatThreadReq then some (getUserThreadsHandler svc)
  else if msgType = idCreatePrivateChatReq then some (createPrivateChatHandler svc)
  else if msgType = idLoadChatMsgReq then some (loadChatMsgHandler svc)
  else if msgType = idCreateResourceMsgReq then some (dealCreateResourceMsg svc)
  else if msgType = idSyncUserMessageReq then some (dealSyncMessage svc)
  else none

/-- The answer to a request that the session may not make. -/
def uidInvalidPayload : String :=
  (Json.ofMembers [("error", ErrorCodes.uidInvalid.json)]).dumpPretty

/-- The lookup of the handler and its call. -/
def runCallback (msgType : Int) (msgData : List UInt8) : Handler W Unit :=
  match callback svc session msgType with
  | none => pure ()
  | some handler => handler msgData

/-- `LogicSystem::DispatchClientMessage`. -/
def dispatchClientMessage (msgType : Int) (msgData : List UInt8) : Handler W Unit := do
  if (← ask svc.isOpen) = false then return ()
  else
    let userUid ← getUserId
    if msgType = msgChatLogin then
      if userUid ≠ 0 then act (.sendAndClose uidInvalidPayload msgChatLoginRsp)
      else runCallback svc session msgType msgData
    else if userUid = 0 ∨ userUid ≠ session.routingUid then
      if reqToRspId msgType ≠ 0 then act (.send uidInvalidPayload (reqToRspId msgType))
      else return ()
    else runCallback svc session msgType msgData

section Dispatch

variable {svc session}

/-- The dispatcher lets a logged-in user's request through. -/
theorem dispatchClientMessage_eq {st : HandlerState W}
    (hopen : svc.isOpen st.world = (true, st.world)) (huid : st.userUid ≠ 0)
    (hroute : st.userUid = session.routingUid) {msgType : Int} (htype : msgType ≠ msgChatLogin)
    (msgData : List UInt8) :
    dispatchClientMessage svc session msgType msgData st =
      runCallback svc session msgType msgData st := by
  have hask : ask svc.isOpen st = (.ok true, st) := ask_query hopen
  have hid : (getUserId : Handler W Int) st = (.ok st.userUid, st) := rfl
  refine (bind_eq_ok hask).trans ?_
  rw [if_neg (by decide)]
  refine (bind_eq_ok hid).trans ?_
  rw [if_neg htype, if_neg (not_or.mpr ⟨huid, not_not.mpr hroute⟩)]

theorem runCallback_text (msgData : List UInt8) :
    runCallback svc session idTextChatMsgReq msgData = dealChatTextMsg svc msgData := rfl

theorem runCallback_sync (msgData : List UInt8) :
    runCallback svc session idSyncUserMessageReq msgData = dealSyncMessage svc msgData := rfl

end Dispatch

end LlfcChat
