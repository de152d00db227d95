/-
The page that `DealSyncMessage` answers with, and whether it leaves the server.

The handler puts up to 200 events into one payload and hands it to `Send`,
which drops what is longer than `kMaxSendPayload`.  The payload is a fixed
frame around the envelopes of the events, so its size is a sum over the page:
`pageBytes`.  A page is delivered exactly when that sum is small enough, and
the server's own handlers store logs for which it is not.
-/
import LlfcChat.Lib.JsonSize
import LlfcChat.Db.Undisturbed
import LlfcChat.Chat.LogicSystem
import LlfcChat.Chat.Send

namespace LlfcChat

open Effect Handler
open Json (textBytes fieldBytes bytesAt)

variable {W : Type}

/-! ### Reading from the database -/

/-- `GetEventsAfterSeq` returns true. -/
def EventsResult.toOption : EventsResult → Option (List UserEvent)
  | .events l => some l
  | _ => none

/-- The three queries of `DealSyncMessage` are answered from the committed state
`db`, and nothing is committed while they run. -/
structure Services.ReadsFrom (svc : Services W) (db : Db) (w : W) : Prop where
  getLastEventSeq : ∀ uid, svc.getLastEventSeq uid w = ((db.user uid).map (·.lastEventSeq), w)
  getEventsAfterSeq : ∀ uid after (limit : Nat), svc.getEventsAfterSeq uid after limit w =
    ((LlfcChat.getEventsAfterSeq uid after limit fun _ => some db).toOption, w)
  getUser : ∀ uid, svc.getUser uid w = ((db.user uid).map (·.toUserInfo), w)

/-- The other party of a friend request. -/
def peerOf (r : FriendRequest) (recipient : Int) : Int :=
  if recipient = r.requesterUserId then r.targetUserId else r.requesterUserId

/-- The members that the envelope has for what the event is about. -/
def subjectMembers (db : Db) (uid : Int) (event : UserEvent) : List (String × Json) :=
  match event.message, event.friendRequest with
  | some m, _ => buildMessageEnvelope m
  | none, some r => friendRequestMembers r ((db.user (peerOf r uid)).map (·.toUserInfo))
  | none, none => []

/-- The envelope of an event of `uid`. -/
def eventMembers (db : Db) (uid : Int) (event : UserEvent) : List (String × Json) :=
  Json.update (subjectMembers db uid event)
    [("event_type", .int event.eventType), ("event_seq", decimal event.eventSeq)]

/-- The response as it grows: the error code and the events so far. -/
def openPage (items : List Json) : List (String × Json) :=
  [("error", ErrorCodes.success.json), ("events", .arr items)]

/-- The number of the last event, or the cursor of the request. -/
def nextEventSeq (after : Nat) (events : List UserEvent) : Nat :=
  events.foldl (fun _ event => event.eventSeq) after

/-- What stays when the extra row that tells of more is taken away. -/
def pageOf (limit : Nat) (events : List UserEvent) : List UserEvent :=
  if limit < events.length then events.dropLast else events

/-- The members of the whole response. -/
def syncPage (db : Db) (uid : Int) (after limit : Nat) (events : List UserEvent) :
    List (String × Json) :=
  openPage ((pageOf limit events).map fun event => .obj (eventMembers db uid event)) ++
    [("has_more", .bool (decide (limit < events.length))),
      ("next_event_seq", decimal (nextEventSeq after (pageOf limit events)))]

theorem pushBack_openPage (item : Json) (items : List Json) :
    Json.pushBack "events" item (openPage items) = openPage (items ++ [item]) := by
  show Json.insert "events" (.arr (items ++ [item])) ([_] ++ [_]) = _
  rw [Json.insert_append, Json.insert, if_neg (lt_irrefl _), if_pos rfl]
  · rfl
  · decide

theorem insert_events :
    Json.insert "events" (.arr []) ([("error", ErrorCodes.success.json)] ++ []) = openPage [] := by
  rw [Json.insert_append]
  · rfl
  · decide

/-- The last two assignments to the response. -/
theorem insert_openPage (items : List Json) (hasMore next : Json) :
    Json.insert "has_more" hasMore (Json.insert "next_event_seq" next (openPage items)) =
      openPage items ++ [("has_more", hasMore), ("next_event_seq", next)] := by
  have hkeys : (openPage items).map (·.1) = ["error", "events"] := rfl
  have hlt : "has_more" < "next_event_seq" := by decide
  rw [← List.append_nil (openPage items), Json.insert_append, Json.insert_append, Json.insert,
    Json.insert, if_pos hlt, List.append_nil]
  · rw [hkeys]
    decide
  · rw [hkeys]
    decide

section Handler

variable {svc : Services W} {db : Db} {w : W}

theorem buildUserEventEnvelope_eq (h : svc.ReadsFrom db w) (event : UserEvent) (uid : Int)
    {st : HandlerState W} (hw : st.world = w) :
    buildUserEventEnvelope svc event uid st = (.ok (eventMembers db uid event), st) := by
  have hsubject : buildSubjectEnvelope svc event uid st =
      (.ok (subjectMembers db uid event), st) := by
    rcases event with ⟨seq, type, - | m, - | r⟩
    · rfl
    · -- the one query of an envelope: the profile of the peer
      have hpeer : ask (svc.getUser (peerOf r uid)) st =
          (.ok ((db.user (peerOf r uid)).map (·.toUserInfo)), st) := by
        apply ask_query
        rw [hw, h.getUser]
      exact bind_eq_ok hpeer
    · rfl
    · rfl
  exact bind_eq_ok hsubject

/-- **The loop over the rows**: the events are appended in their order. -/
theorem pushEvents_eq (h : svc.ReadsFrom db w) (uid : Int) (rows : List UserEvent) (after : Nat)
    (items : List Json) (st : HandlerState W) (hw : st.world = w)
    (hpage : st.rtvalue = openPage items) :
    pushEvents svc uid rows after st = (.ok (nextEventSeq after rows),
      { st with rtvalue :=
          openPage (items ++ rows.map fun event => .obj (eventMembers db uid event)) }) := by
  induction rows generalizing after items st with
  | nil =>
    rw [List.map_nil, List.append_nil, ← hpage]
    rfl
  | cons row rows ih =>
    have hpush : Json.pushBack "events" (.obj (eventMembers db uid row)) st.rtvalue =
        openPage (items ++ [.obj (eventMembers db uid row)]) := by
      rw [hpage]
      exact pushBack_openPage _ _
    have hstep : pushEvents svc uid (row :: rows) after st =
        pushEvents svc uid rows row.eventSeq
          { st with rtvalue := openPage (items ++ [.obj (eventMembers db uid row)]) } := by
      rw [← hpush]
      exact bind_eq_ok (buildUserEventEnvelope_eq h row uid hw)
    have hrest := ih row.eventSeq (items ++ [.obj (eventMembers db uid row)])
      { st with rtvalue := openPage (items ++ [.obj (eventMembers db uid row)]) } hw rfl
    rw [hstep, hrest, List.map_cons, List.append_assoc]
    rfl

/-- **`DealSyncMessage` sends the page.** -/
theorem dealSyncMessage_eq (h : svc.ReadsFrom db w) {msgData : List UInt8} {after limit : Nat}
    (hargs : dealSyncMessageArgs (svc.parse msgData) = some (after, (limit : Int)))
    (st : HandlerState W) (hw : st.world = w) (hrt : st.rtvalue = []) {u : UserRow}
    (hu : db.user st.userUid = some u) (hafter : after ≤ u.lastEventSeq) {events : List UserEvent}
    (hevents : getEventsAfterSeq st.userUid after limit (fun _ => some db) = .events events) :
    dealSyncMessage svc msgData st = (.ok (),
      { st with
        rtvalue := syncPage db st.userUid after limit events
        actions := st.actions ++ [.send (Json.obj (syncPage db st.userUid after limit events)).dump
          idSyncUserMessageRsp] }) := by
  obtain ⟨w', uid, rtvalue, actions⟩ := st
  obtain rfl : w' = w := hw
  obtain rfl : rtvalue = [] := hrt
  have hhead : ask (svc.getLastEventSeq uid) ⟨w', uid, [], actions⟩ =
      (.ok (some u.lastEventSeq), ⟨w', uid, [], actions⟩) := by
    apply ask_query
    rw [h.getLastEventSeq, hu]
    rfl
  have hrows : ask (svc.getEventsAfterSeq uid after limit) ⟨w', uid, [], actions⟩ =
      (.ok (some events), ⟨w', uid, [], actions⟩) := by
    apply ask_query
    rw [h.getEventsAfterSeq, hevents]
    rfl
  have huid : (getUserId : Handler W Int) ⟨w', uid, [], actions⟩ =
      (.ok uid, ⟨w', uid, [], actions⟩) := rfl
  have hmore : (decide ((limit : Int) < events.length)) = decide (limit < events.length) := by
    simp
  have hpage : (if decide (limit < events.length) = true then events.dropLast else events) =
      pageOf limit events := by simp [pageOf]
  have hloop := pushEvents_eq h uid (pageOf limit events) after []
    ⟨w', uid, openPage [], actions⟩ rfl rfl
  unfold dealSyncMessage
  rw [bind_eq_ok huid, hargs]
  simp only
  rw [bind_eq_ok hhead]
  simp only [if_neg (Nat.not_lt.mpr hafter)]
  rw [bind_eq_ok hrows]
  simp only [hmore, hpage]
  show (pushEvents svc uid (pageOf limit events) after >>= _)
    ⟨w', uid, Json.insert "events" (.arr []) ([("error", _)] ++ []), actions⟩ = _
  rw [insert_events, bind_eq_ok hloop]
  show (Except.ok (), (⟨w', uid, Json.insert "has_more" _ (Json.insert "next_event_seq" _ _),
    actions ++ [.send (response (Json.insert "has_more" _ (Json.insert "next_event_seq" _ _))).dump
      idSyncUserMessageRsp]⟩ : HandlerState W)) = _
  rw [insert_openPage]
  rfl

end Handler

/-! ### The size of a page -/

/-- What a number takes. -/
def digits (i : Int) : Nat := (toString i).utf8ByteSize

/-- What a number takes that is written as a text. -/
def decimalBytes (i : Int) : Nat := textBytes (toString i)

/-- The text of a message, or its resource. -/
def contentBytes (m : ChatMessage) : Nat :=
  if m.messageType = chatMsgText then fieldBytes "text_content" (textBytes m.textContent)
  else match m.resource with
    | some r => fieldBytes "original_file_name" (textBytes r.originalFileName) +
        fieldBytes "file_size_bytes" (decimalBytes r.fileSizeBytes) +
        fieldBytes "sha256" (textBytes r.sha256) +
        fieldBytes "mime_type" (textBytes r.mimeType)
    | none => 0

def messageBytes (m : ChatMessage) : Nat :=
  fieldBytes "message_id" (decimalBytes m.messageId) +
    fieldBytes "client_message_id" (textBytes m.clientMessageId) +
    fieldBytes "thread_id" (decimalBytes m.threadId) +
    fieldBytes "sender_user_id" (digits m.senderUserId) +
    fieldBytes "message_type" (digits m.messageType) +
    fieldBytes "created_at" (textBytes m.createdAt) + contentBytes m

def peerBytes : Option UserInfo → Nat
  | some u => fieldBytes "peer_username" (textBytes u.username) +
      fieldBytes "peer_nickname" (textBytes u.nickname) +
      fieldBytes "peer_avatar_key" (textBytes u.avatarKey) +
      fieldBytes "peer_gender" (digits u.gender)
  | none => 0

def friendRequestBytes (r : FriendRequest) (peer : Option UserInfo) : Nat :=
  fieldBytes "friend_request_id" (decimalBytes r.friendRequestId) +
    fieldBytes "requester_user_id" (digits r.requesterUserId) +
    fieldBytes "target_user_id" (digits r.targetUserId) +
    fieldBytes "client_request_id" (textBytes r.clientRequestId) +
    fieldBytes "request_message" (textBytes r.requestMessage) +
    fieldBytes "status" (digits r.status.toInt) +
    fieldBytes "thread_id" (if 0 < r.threadId then decimalBytes r.threadId else 4) +
    peerBytes peer

/-- An event: its number, its type and what it is about. -/
def eventBytes (db : Db) (uid : Int) (event : UserEvent) : Nat :=
  1 + fieldBytes "event_type" (digits event.eventType) +
    fieldBytes "event_seq" (decimalBytes event.eventSeq) +
    match event.message, event.friendRequest with
    | some m, _ => messageBytes m
    | none, some r => friendRequestBytes r ((db.user (peerOf r uid)).map (·.toUserInfo))
    | none, none => 0

/-- A page: the frame and, for each event, its bracket or comma and the event. -/
def pageBytes (db : Db) (uid : Int) (after limit : Nat) (events : List UserEvent) : Nat :=
  1 + fieldBytes "error" 1 +
    fieldBytes "events"
      (1 + max 1 ((pageOf limit events).map fun event => 1 + eventBytes db uid event).sum) +
    fieldBytes "has_more" (if limit < events.length then 4 else 5) +
    fieldBytes "next_event_seq" (decimalBytes (nextEventSeq after (pageOf limit events)))

/-- The envelope whose other members were assigned from `l`. -/
theorem bytesAt_envelope (indent : Nat) (eventType : Int) (eventSeq : Nat)
    {l : List (String × Json)} (hl : (l.map (·.1)).Nodup) :
    bytesAt false indent (.obj (Json.update (Json.update [] l)
      [("event_type", .int eventType), ("event_seq", decimal eventSeq)])) =
      1 + fieldBytes "event_type" (digits eventType) +
        fieldBytes "event_seq" (decimalBytes eventSeq) +
        ((l.filter fun m => decide (m.1 ∉ ["event_type", "event_seq"])).map fun m =>
          fieldBytes m.1 (bytesAt false (indent + 4) m.2)).sum := by
  have hother : ([("event_type", .int eventType), ("event_seq", decimal eventSeq)].map
      (Prod.fst : String × Json → String)).Nodup := by
    show ["event_type", "event_seq"].Nodup
    decide
  rw [Json.bytesAt_compact (Json.update_update_perm hl hother) (by simp)]
  simp only [List.map_append, List.sum_append, List.map_cons, List.map_nil, List.sum_cons,
    List.sum_nil, Json.bytesAt_int, decimal, Json.bytesAt_str, digits, decimalBytes]
  omega

theorem bytesAt_message (indent : Nat) (eventType : Int) (eventSeq : Nat) (m : ChatMessage) :
    bytesAt false indent (.obj (Json.update (buildMessageEnvelope m)
      [("event_type", .int eventType), ("event_seq", decimal eventSeq)])) =
      1 + fieldBytes "event_type" (digits eventType) +
        fieldBytes "event_seq" (decimalBytes eventSeq) + messageBytes m := by
  unfold buildMessageEnvelope messageBytes contentBytes
  rcases m with ⟨id, thread, sender, recipient, key, type, text, status, createdAt, - | r, seq⟩
  all_goals
    by_cases htext : type = chatMsgText <;> by_cases hseq : 0 < seq
  all_goals
    rw [bytesAt_envelope]
    · simp [htext, hseq, decimal, digits, decimalBytes]
      try omega
    · simp [htext, hseq]

theorem bytesAt_friendRequest (indent : Nat) (eventType : Int) (eventSeq : Nat)
    (r : FriendRequest) (peer : Option UserInfo) :
    bytesAt false indent (.obj (Json.update (friendRequestMembers r peer)
      [("event_type", .int eventType), ("event_seq", decimal eventSeq)])) =
      1 + fieldBytes "event_type" (digits eventType) +
        fieldBytes "event_seq" (decimalBytes eventSeq) + friendRequestBytes r peer := by
  have hthread : bytesAt false (indent + 4) (threadIdOrNull r.threadId) =
      if 0 < r.threadId then decimalBytes r.threadId else 4 := by
    unfold threadIdOrNull
    split <;> simp [decimal, decimalBytes]
  unfold friendRequestMembers friendRequestBytes peerBytes
  rcases peer with - | u <;> by_cases hseq : 0 < r.eventSeq
  all_goals
    rw [bytesAt_envelope]
    · simp [hseq, hthread, decimal, digits, decimalBytes]
      omega
    · simp [hseq]

theorem bytesAt_eventMembers (db : Db) (uid : Int) (event : UserEvent) (indent : Nat) :
    bytesAt false indent (.obj (eventMembers db uid event)) = eventBytes db uid event := by
  rcases event with ⟨seq, type, - | m, - | r⟩
  · exact bytesAt_envelope indent type seq (l := []) List.nodup_nil
  · exact bytesAt_friendRequest indent type seq r _
  · exact bytesAt_message indent type seq m
  · exact bytesAt_message indent type seq m

/-- **The size of a page** is the sum over its events. -/
theorem utf8ByteSize_syncPage (db : Db) (uid : Int) (after limit : Nat) (events : List UserEvent) :
    (Json.obj (syncPage db uid after limit events)).dump.utf8ByteSize =
      pageBytes db uid after limit events := by
  have harr : ∀ (indent : Nat) (page : List UserEvent),
      bytesAt false indent (.arr (page.map fun event => .obj (eventMembers db uid event))) =
        1 + max 1 (page.map fun event => 1 + eventBytes db uid event).sum := by
    intro indent page
    rcases page with - | ⟨e, page⟩
    · rfl
    · rw [List.map_cons, Json.bytesAt_arr_cons]
      simp [Json.newlineBytes, bytesAt_eventMembers, Function.comp_def]
      omega
  show bytesAt false 0 (.obj (syncPage db uid after limit events)) = _
  rw [Json.bytesAt_compact (List.Perm.refl _) (by simp [syncPage, openPage])]
  have herror : bytesAt false 4 ErrorCodes.success.json = 1 := rfl
  simp only [syncPage, openPage, List.cons_append, List.nil_append, List.map_cons, List.map_nil,
    List.sum_cons, List.sum_nil, harr, herror, Nat.zero_add, Json.bytesAt_bool, decimal,
    Json.bytesAt_str, pageBytes, decimalBytes, decide_eq_true_eq]
  omega

/-! ### A server with a database -/

/-- The answer of a DAO call in an undisturbed turn. -/
def savedBy (db : Db) (m : ChatMessage) : SaveMessageResult × ChatMessage :=
  match ((Call.addChatMsg .dealChatTextMsg 2 m).turn 0 (some []) db).2 with
  | .returned (.saved r o) => (r, o)
  | _ => (.failed, m)

/-- A server on an undisturbed database whose parser knows one request. -/
def storeServices (request : Json) : Services Sys :=
  { idleServices Sys fun text => if text = Wire.utf8 request.dump then request else .discarded with
    getUser := fun uid s => ((s.db.user uid).map (·.toUserInfo), s)
    getLastEventSeq := fun uid s => ((s.db.user uid).map (·.lastEventSeq), s)
    getEventsAfterSeq := fun uid after limit s =>
      ((getEventsAfterSeq uid after limit.toNat fun _ => some s.db).toOption, s)
    getPrivateChatMembers := fun threadId s =>
      ((s.db.privateChat threadId).map fun pc => (pc.lowerUserId, pc.higherUserId), s)
    addChatMsg := fun m s => (savedBy s.db m, s.serve (.addChatMsg .dealChatTextMsg 2 m)) }

theorem storeServices_readsFrom (request : Json) (s : Sys) :
    (storeServices request).ReadsFrom s.db s where
  getLastEventSeq _ := rfl
  getEventsAfterSeq _ _ _ := rfl
  getUser _ := rfl

theorem storeServices_parse (request : Json) :
    (storeServices request).parse (Wire.utf8 request.dump) = request := by
  simp [storeServices, idleServices]

/-! ### The page of a reachable state -/

/-- The bytes of the page that answers a request with this cursor and limit. -/
def Db.syncBytes (db : Db) (uid : Int) (after limit : Nat) : Nat :=
  pageBytes db uid after limit (db.eventsAfter uid after limit)

/-- **Whether a page is delivered.**  For every log the servers can have stored,
every registered user and every cursor up to the head, `DealSyncMessage` hands
one success page to `Send`; it is at most `kMaxSendPayload` bytes long if and
only if the stored events of the page add up to no more, and then every session
that takes payloads queues it. -/
theorem sync_page_fits_iff {s : Sys} (h : Reachable s) {svc : Services W} {w : W}
    (hsvc : svc.ReadsFrom s.db w) (st : HandlerState W) (hw : st.world = w) (hrt : st.rtvalue = [])
    {u : UserRow} (hu : s.db.user st.userUid = some u) {msgData : List UInt8} {after limit : Nat}
    (hargs : dealSyncMessageArgs (svc.parse msgData) = some (after, (limit : Int)))
    (hafter : after ≤ u.lastEventSeq) :
    ∃ payload,
      payload = (Json.obj (syncPage s.db st.userUid after limit
        (s.db.eventsAfter st.userUid after limit))).dump ∧
      dealSyncMessage svc msgData st = (.ok (),
        { st with
          rtvalue := syncPage s.db st.userUid after limit
            (s.db.eventsAfter st.userUid after limit)
          actions := st.actions ++ [.send payload idSyncUserMessageRsp] }) ∧
      (payload.utf8ByteSize ≤ maxSendPayload ↔
        s.db.syncBytes st.userUid after limit ≤ maxSendPayload) ∧
      (s.db.syncBytes st.userUid after limit ≤ maxSendPayload →
        ∀ session : SendSide, session.Ready →
          session.send payload idSyncUserMessageRsp =
            { session with sendQue :=
                session.sendQue ++ [SendNode.new (Wire.utf8 payload) idSyncUserMessageRsp] }) := by
  have hevents := getEventsAfterSeq_eq_events h st.userUid after limit
  refine ⟨_, rfl, dealSyncMessage_eq hsvc hargs st hw hrt hu hafter hevents, ?_, ?_⟩
  · rw [utf8ByteSize_syncPage, Db.syncBytes]
  · intro hle session hready
    apply SendSide.send_of_le hready
    rwa [utf8ByteSize_syncPage]

/-- A 1405 request for the first 100 events. -/
def syncRequest : Json := .obj [("after_event_seq", .str "0"), ("limit", .uint 100)]

theorem dealSyncMessageArgs_syncRequest :
    dealSyncMessageArgs ((storeServices syncRequest).parse (Wire.utf8 syncRequest.dump)) =
      some (0, ((100 : Nat) : Int)) := by
  rw [storeServices_parse]
  rfl

theorem sync_page_fits_textSent :
    ∃ payload,
      (dealSyncMessage (storeServices syncRequest) (Wire.utf8 syncRequest.dump)
        { world := textSent, userUid := 2 }).2.actions = [.send payload idSyncUserMessageRsp] ∧
      payload.utf8ByteSize ≤ maxSendPayload := by
  have hreach : Reachable textSent := reachable_serve .refl _
  obtain ⟨u, hu⟩ : ∃ u, textSent.db.user 2 = some u := Option.isSome_iff_exists.mp (by decide)
  obtain ⟨payload, -, hsend, hfits, -⟩ := sync_page_fits_iff hreach
    (storeServices_readsFrom syncRequest textSent) { world := textSent, userUid := 2 }
    rfl rfl hu dealSyncMessageArgs_syncRequest (Nat.zero_le _)
  refine ⟨payload, ?_, hfits.mpr ?_⟩
  · rw [hsend]
    rfl
  · decide

/-! ### Requests -/

/-- A logged-in user's request, from the frame to the end of its handler. -/
def Sys.request (s : Sys) (uid msgType : Int) (request : Json) : HandlerState Sys :=
  (dispatchClientMessage (storeServices request) ⟨"session", uid⟩ msgType
    (Wire.utf8 request.dump) { world := s, userUid := uid }).2

/-- A 1301 request from user 1 to user 2 in thread 1. -/
def textRequest (key text : String) : Json :=
  .obj [("client_message_id", .str key), ("target_user_id", .uint 2),
    ("text_content", .str text), ("thread_id", .str "1")]

/-- The message that `DealChatTextMsg` makes of it. -/
def textMessage (key text : String) : ChatMessage :=
  { createdAt := "2026-08-30 12:00:00", senderUserId := 1, recipientUserId := 2,
    clientMessageId := key, threadId := 1, textContent := text,
    status := .published, messageType := chatMsgText }

/-- The answer to a text changes nothing behind the services when nobody is
online. -/
theorem answerChatTextMsg_world (request : Json) (r : SaveMessageResult) (m : ChatMessage)
    (st : HandlerState Sys) :
    (answerChatTextMsg (storeServices request) r m st).2.world = st.world := by
  have hdeliver : ∀ event recipient (st : HandlerState Sys),
      (deliverUserEvent (storeServices request) event recipient st).2.world = st.world := by
    intro event recipient st
    unfold deliverUserEvent
    split
    · rfl
    · rfl
  cases r with
  | stored => exact hdeliver _ _ _
  | duplicate | conflict | failed => rfl

variable {keys : List String} {text : String} {s : Sys}

/-- **A text goes into the database.**  What is left of a 1301 request is the
call of `AddChatMsg`. -/
theorem request_text (hchat : s.db.privateChat 1 = some ⟨1, 1, 2⟩) {key : String} (hne : key ≠ "")
    (hlen : key.utf8ByteSize ≤ 64) :
    (s.request 1 idTextChatMsgReq (textRequest key text)).world =
      s.serve (.addChatMsg .dealChatTextMsg 2 (textMessage key text)) := by
  have hargs : dealChatTextMsgArgs (textRequest key text) = some (2, text, key) := by
    show (if key = "" then none else some ((2 : Int), text, key)) = _
    rw [if_neg hne]
  have hthread : ((textRequest key text).field "thread_id").bind parseJsonId = some 1 := by rfl
  have hmembers : ask ((storeServices (textRequest key text)).getPrivateChatMembers 1)
      { world := s, userUid := 1 } =
      (.ok (some ((1 : Int), (2 : Int))), { world := s, userUid := 1 }) := by
    apply ask_query
    show ((s.db.privateChat 1).map _, s) = _
    rw [hchat]
    rfl
  have hsave : dealChatTextMsg (storeServices (textRequest key text))
      (Wire.utf8 (textRequest key text).dump) { world := s, userUid := 1 } =
      answerChatTextMsg (storeServices (textRequest key text))
        (savedBy s.db (textMessage key text)).1 (savedBy s.db (textMessage key text)).2
        { world := s.serve (.addChatMsg .dealChatTextMsg 2 (textMessage key text)), userUid := 1,
          rtvalue := Json.insert "client_message_id" (.str key)
            (Json.insert "error" ErrorCodes.success.json []) } := by
    have huid : (getUserId : Handler Sys Int) { world := s, userUid := 1 } =
        (.ok 1, { world := s, userUid := 1 }) := rfl
    unfold dealChatTextMsg
    simp only [storeServices_parse]
    rw [bind_eq_ok huid, hargs]
    simp only [hthread]
    rw [bind_eq_ok hmembers]
    rw [if_neg (by decide), if_neg (Nat.not_lt.mpr hlen)]
    rfl
  rw [Sys.request, dispatchClientMessage_eq rfl Int.one_ne_zero rfl (by decide), runCallback_text,
    hsave, answerChatTextMsg_world]

/-! ### A log of long texts -/

/-- Two users and their private chat. -/
def chatOpened : Sys :=
  [.regUser "ann" "ann@mail", .regUser "bob" "bob@mail",
    .createPrivateChat 1 2].foldl Sys.serve {}

/-- The state after texts of user 1 to user 2, all with the same content, under
these client ids. -/
structure TextLog (text : String) (keys : List String) (db : Db) : Prop where
  chat : db.privateChat 1 = some ⟨1, 1, 2⟩
  userIds : db.users.map (·.userId) = [1, 2]
  nextMessageId : db.nextMessageId = keys.length + 1
  messages : ∀ m ∈ db.chatMessages, ∃ key ∈ keys, ∃ id ≤ keys.length,
    m = { chatMessageRow (textMessage key text) with messageId := (id : Nat) }
  events : ∀ e ∈ db.userEvents, e.messageId ≠ none ∧ e.eventType = chatMsgText
  head : db.lastEventSeq 2 = keys.length

theorem textLog_chatOpened (text : String) : TextLog text [] chatOpened.db where
  chat := by decide
  userIds := by decide
  nextMessageId := by decide
  messages m hm := by
    cases hm
  events e he := by
    cases he
  head := by decide

/-- One more request, one more text. -/
theorem TextLog.request (h : Reachable s) (hlog : TextLog text keys s.db) {key : String}
    (hne : key ≠ "") (hlen : key.utf8ByteSize ≤ 64) (hfresh : key ∉ keys)
    (hshort : keys.length < 1000) :
    Reachable (s.request 1 idTextChatMsgReq (textRequest key text)).world ∧
      TextLog text (keys ++ [key])
        (s.request 1 idTextChatMsgReq (textRequest key text)).world.db := by
  have huser : ∀ id ∈ [(1 : Int), 2], s.db.HasUser id := by
    intro id hid
    rw [← hlog.userIds] at hid
    obtain ⟨u, hu, rfl⟩ := List.mem_map.mp hid
    exact ⟨u, hu, rfl⟩
  have hnew : ∀ n ∈ s.db.chatMessages, ¬(n.senderUserId = 1 ∧ n.clientMessageId = key) := by
    rintro n hn ⟨-, rfl⟩
    obtain ⟨k, hk, id, -, rfl⟩ := hlog.messages n hn
    exact hfresh hk
  have hserve := serve_text h (m := textMessage key text) ⟨Int.one_pos, Int.one_pos, hne⟩ rfl
    hlog.chat (.inl rfl) hnew (by rw [hlog.nextMessageId, idLimit]; omega)
    (by rw [hlog.userIds]; decide)
    (huser 1 (by decide)) (huser 2 (by decide)) .dealChatTextMsg 2
  have hdb : (s.serve (.addChatMsg .dealChatTextMsg 2 (textMessage key text))).db =
      s.db.withText (textMessage key text) 2 := by
    rw [Sys.serve, Sys.after_db, hserve]
    rfl
  rw [request_text hlog.chat hne hlen, hdb]
  refine ⟨Relation.ReflTransGen.trans h (steps_serve _ _), ?_⟩
  have hnext : s.db.nextEventSeq 2 = keys.length + 1 := by
    rw [nextEventSeq_eq h.numbered.1, hlog.head]
  constructor
  · exact hlog.chat
  · exact (notify_userIds _ _ _).trans hlog.userIds
  · show s.db.nextMessageId + 1 = _
    rw [hlog.nextMessageId, List.length_append, List.length_singleton]
  · intro m hm
    rw [List.length_append, List.length_singleton]
    rcases List.mem_append.mp hm with hm | hm
    · obtain ⟨k, hk, id, hid, rfl⟩ := hlog.messages m hm
      exact ⟨k, List.mem_append_left _ hk, id, by omega, rfl⟩
    · obtain rfl := List.mem_singleton.mp hm
      refine ⟨key, List.mem_append_right _ (List.mem_singleton.mpr rfl), keys.length + 1,
        Nat.le_refl _, ?_⟩
      rw [Db.textRow, hlog.nextMessageId]
  · intro e he
    rcases List.mem_append.mp he with he | he
    · exact hlog.events e he
    · obtain rfl := List.mem_singleton.mp he
      exact ⟨nofun, rfl⟩
  · have hhead := lastEventSeq_notify (s.db.addChatMessage (s.db.textRow (textMessage key text)))
      (huser 2 (by decide)) (messageEventRow 2 chatMsgText s.db.nextMessageId) 2
    rw [List.length_append, List.length_singleton, ← hnext]
    exact hhead

/-- User 1 sends the same text under each of these client ids. -/
def Sys.sendTexts (s : Sys) (text : String) (keys : List String) : Sys :=
  keys.foldl (fun s key => (s.request 1 idTextChatMsgReq (textRequest key text)).world) s

theorem sendTexts_cons (s : Sys) (text key : String) (keys : List String) :
    s.sendTexts text (key :: keys) =
      (s.request 1 idTextChatMsgReq (textRequest key text)).world.sendTexts text keys := by
  simp only [Sys.sendTexts, List.foldl_cons]

theorem TextLog.sendTexts (h : Reachable s) (hlog : TextLog text keys s.db) (more : List String)
    (hnodup : (keys ++ more).Nodup) (hkeys : ∀ key ∈ more, key ≠ "" ∧ key.utf8ByteSize ≤ 64)
    (hshort : (keys ++ more).length ≤ 1000) :
    Reachable (s.sendTexts text more) ∧ TextLog text (keys ++ more) (s.sendTexts text more).db := by
  induction more generalizing s keys with
  | nil =>
    rw [List.append_nil]
    exact ⟨h, hlog⟩
  | cons key more ih =>
    have happend : keys ++ key :: more = (keys ++ [key]) ++ more := by simp
    obtain ⟨hne, hlen⟩ := hkeys key List.mem_cons_self
    have hfresh : key ∉ keys := fun hmem =>
      (List.nodup_append.mp hnodup).2.2 key hmem key List.mem_cons_self rfl
    obtain ⟨hr, hl⟩ := hlog.request h hne hlen hfresh (by simp at hshort; omega)
    rw [happend] at hnodup hshort ⊢
    rw [sendTexts_cons]
    exact ih hr hl hnodup (fun k hk => hkeys k (List.mem_cons_of_mem _ hk)) hshort

theorem TextLog.eventSeq_range (h : Reachable s) (hlog : TextLog text keys s.db) {e : UserEventRow}
    (he : e ∈ s.db.eventsOf 2) :
    0 < e.eventSeq ∧ e.eventSeq ≤ keys.length := by
  have hrange : e.eventSeq ∈ s.db.eventSeqs 2 := List.mem_map_of_mem he
  rw [h.numbered.2.eventSeqs, List.mem_range'_1, ← h.numbered.2.lastEventSeq, hlog.head] at hrange
  omega

/-- Numbers of up to two digits. -/
theorem decimalBytes_le {n : Nat} (h : n ≤ 20) : decimalBytes n ≤ 4 := by
  have hall : ∀ n ≤ 20, decimalBytes (n : Nat) ≤ 4 := by decide
  exact hall n h

/-- Every event of such a log carries the text, and little else. -/
theorem TextLog.eventBytes_bounds (h : Reachable s) (hlog : TextLog text keys s.db)
    (hkeys : ∀ key ∈ keys, textBytes key ≤ 10) (hshort : keys.length ≤ 20) (uid : Int)
    {e : UserEventRow} (he : e ∈ s.db.eventsOf 2) :
    textBytes text ≤ eventBytes s.db uid (s.db.eventOf e) ∧
      eventBytes s.db uid (s.db.eventOf e) ≤ textBytes text + 1000 := by
  have hmem : e ∈ s.db.userEvents := List.mem_of_mem_filter he
  have hseq := (hlog.eventSeq_range h he).2
  obtain ⟨hid, htype⟩ := hlog.events e hmem
  obtain ⟨id, hid⟩ := Option.ne_none_iff_exists'.mp hid
  -- the message of the event is one of the texts
  obtain ⟨m, hm, rfl, hs⟩ := published_of_event h.consistent hmem hid
  obtain ⟨key, hkey, n, hn, rfl⟩ := hlog.messages m hm
  have hpub := publishedMessage_eq h.consistent hm hs hlog.chat
  have hfixed : textBytes "event_type" + textBytes "event_seq" + textBytes "message_id" +
      textBytes "client_message_id" + textBytes "thread_id" + textBytes "sender_user_id" +
      textBytes "message_type" + textBytes "created_at" + textBytes "text_content" +
      digits chatMsgText + decimalBytes 1 + digits 1 + textBytes "2026-08-30 12:00:00" ≤ 400 := by
    decide
  have hevent : eventBytes s.db uid (s.db.eventOf e) =
      1 + fieldBytes "event_type" (digits chatMsgText) +
        fieldBytes "event_seq" (decimalBytes e.eventSeq) +
        (fieldBytes "message_id" (decimalBytes n) +
          fieldBytes "client_message_id" (textBytes key) + fieldBytes "thread_id" (decimalBytes 1) +
          fieldBytes "sender_user_id" (digits 1) + fieldBytes "message_type" (digits chatMsgText) +
          fieldBytes "created_at" (textBytes "2026-08-30 12:00:00") +
          fieldBytes "text_content" (textBytes text)) := by
    rw [Db.eventOf, hid]
    simp only [hpub, htype]
    rfl
  rw [hevent]
  have hk := hkeys key hkey
  have hid' := decimalBytes_le (n := n) (by omega)
  have hseq' := decimalBytes_le (n := e.eventSeq) (by omega)
  unfold fieldBytes
  omega

/-- The rows of a page that takes in the whole log. -/
theorem TextLog.eventRowsAfter (h : Reachable s) (hlog : TextLog text keys s.db) (limit : Nat)
    (hlimit : keys.length ≤ limit) :
    (s.db.eventRowsAfter 2 0 limit).Perm (s.db.eventsOf 2) ∧
      (s.db.eventRowsAfter 2 0 limit).length = keys.length := by
  have hlen : (s.db.eventsOf 2).length = keys.length := by
    rw [← hlog.head, h.numbered.2.lastEventSeq, Db.journal, List.length_map]
  have hfilter : (s.db.userEvents.filter fun e => decide (e.recipientUserId = 2 ∧ 0 < e.eventSeq)) =
      s.db.eventsOf 2 := by
    apply List.filter_congr
    intro e he
    by_cases hr : e.recipientUserId = 2
    · have hpos := (hlog.eventSeq_range h (List.mem_filter.mpr ⟨he, decide_eq_true hr⟩)).1
      simp [hr, hpos]
    · simp [hr]
  have hperm := List.perm_insertionSort (fun e f : UserEventRow => e.eventSeq ≤ f.eventSeq)
    (s.db.eventsOf 2)
  rw [Db.eventRowsAfter, hfilter, List.take_of_length_le (by rw [hperm.length_eq, hlen]; omega)]
  exact ⟨hperm, hperm.length_eq.trans hlen⟩

theorem eventOf_eventSeq (db : Db) (row : UserEventRow) :
    (db.eventOf row).eventSeq = row.eventSeq := by
  unfold Db.eventOf
  split <;> rfl

theorem nextEventSeq_mem (after : Nat) (events : List UserEvent) :
    nextEventSeq after events = after ∨ nextEventSeq after events ∈ events.map (·.eventSeq) := by
  induction events generalizing after with
  | nil => exact .inl rfl
  | cons e events ih =>
    rcases ih e.eventSeq with h | h
    · exact .inr (List.mem_cons.mpr (.inl h))
    · exact .inr (List.mem_cons_of_mem _ h)

/-- **A long log does not fit.** -/
theorem TextLog.syncBytes_bounds (h : Reachable s) (hlog : TextLog text keys s.db)
    (hkeys : ∀ key ∈ keys, textBytes key ≤ 10) (hshort : keys.length ≤ 20) :
    keys.length * textBytes text ≤ s.db.syncBytes 2 0 100 ∧
      s.db.syncBytes 2 0 100 ≤ 1000 + 20 * (textBytes text + 1001) := by
  obtain ⟨hperm, hlen⟩ := hlog.eventRowsAfter h 100 (by omega)
  have hpage : pageOf 100 (s.db.eventsAfter 2 0 100) = s.db.eventsAfter 2 0 100 := by
    rw [pageOf, if_neg]
    rw [Db.eventsAfter, List.length_map, hlen]
    omega
  have hitems : ∀ x ∈ (s.db.eventsAfter 2 0 100).map fun event => 1 + eventBytes s.db 2 event,
      textBytes text ≤ x ∧ x ≤ textBytes text + 1001 := by
    intro x hx
    rw [Db.eventsAfter, List.map_map] at hx
    obtain ⟨e, he, rfl⟩ := List.mem_map.mp hx
    have := hlog.eventBytes_bounds h hkeys hshort 2 (hperm.subset he)
    simp only [Function.comp_apply]
    omega
  have hlow := List.card_nsmul_le_sum _ _ fun x hx => (hitems x hx).1
  have hhigh := List.sum_le_card_nsmul _ _ fun x hx => (hitems x hx).2
  have hnext : decimalBytes (nextEventSeq 0 (s.db.eventsAfter 2 0 100)) ≤ 4 := by
    apply decimalBytes_le
    rcases nextEventSeq_mem 0 (s.db.eventsAfter 2 0 100) with hzero | hmem
    · omega
    · obtain ⟨event, hevent, heq⟩ := List.mem_map.mp hmem
      obtain ⟨e, he, rfl⟩ := List.mem_map.mp hevent
      have hrange := (hlog.eventSeq_range h (hperm.subset he)).2
      rw [← heq, eventOf_eventSeq]
      omega
  have hcount : (s.db.eventsAfter 2 0 100).length = keys.length := by
    rw [Db.eventsAfter, List.length_map, hlen]
  have hfixed : textBytes "error" + textBytes "events" + textBytes "has_more" +
      textBytes "next_event_seq" ≤ 100 := by decide
  rw [List.length_map, hcount, smul_eq_mul] at hlow hhigh
  rw [Db.syncBytes, pageBytes, hpage]
  simp only [fieldBytes]
  have hmul : keys.length * (textBytes text + 1001) ≤ 20 * (textBytes text + 1001) :=
    Nat.mul_le_mul_right _ hshort
  constructor
  · omega
  · split <;> omega

/-- The 17 texts of 1950 characters. -/
@[irreducible] def longText : String := String.ofList (List.replicate 1950 'x')

def longKeys : List String :=
  ["a", "b", "c", "d", "e", "f", "g", "h", "i", "j", "k", "l", "m", "n", "o", "p", "q"]

def longTexts : Sys := chatOpened.sendTexts longText longKeys

theorem textBytes_longText : textBytes longText = 1952 := by
  have hx : Json.charBytes 'x' = 1 := by decide
  have hsize : textBytes longText = 2 + 1950 * Json.charBytes 'x' := by
    unfold longText
    exact Json.textBytes_replicate 1950 'x'
  omega

/-- The size of a text request. -/
theorem utf8ByteSize_textRequest (key text : String) :
    (textRequest key text).dump.utf8ByteSize = 73 + textBytes key + textBytes text := by
  show bytesAt false 0 (.obj _) = _
  rw [Json.bytesAt_compact (List.Perm.refl _) (by simp)]
  have hkeys : textBytes "client_message_id" = 19 ∧ textBytes "target_user_id" = 16 ∧
      textBytes "text_content" = 14 ∧ textBytes "thread_id" = 11 ∧ textBytes "1" = 3 ∧
      (toString 2).utf8ByteSize = 1 := by decide
  obtain ⟨h1, h2, h3, h4, h5, h6⟩ := hkeys
  simp only [List.map_cons, List.map_nil, List.sum_cons, List.sum_nil, fieldBytes,
    Json.bytesAt_str, Json.bytesAt_uint, h1, h2, h3, h4, h5, h6]
  omega

/-- **A page that never arrives.**  User 1 sends 17 texts to user 2, each in a
frame that the server accepts; the first page of user 2 is longer than
`kMaxSendPayload`, and `Send` drops it. -/
theorem longTexts_dropped :
    (∀ key ∈ longKeys, (textRequest key longText).dump.utf8ByteSize ≤ maxLength) ∧
      syncRequest.dump.utf8ByteSize ≤ maxLength ∧
      Reachable longTexts ∧ longTexts.db.lastEventSeq 2 = 17 ∧
      ∃ payload,
        (longTexts.request 2 idSyncUserMessageReq syncRequest).actions =
          [.send payload idSyncUserMessageRsp] ∧
        maxSendPayload < payload.utf8ByteSize ∧
        ∀ session : SendSide, session.send payload idSyncUserMessageRsp = session := by
  have hkeys : ∀ key ∈ longKeys, (key ≠ "" ∧ key.utf8ByteSize ≤ 64) ∧ textBytes key ≤ 10 := by
    decide
  have hstart : Reachable chatOpened := reachable_serve .refl _
  obtain ⟨hreach, hlog⟩ := (textLog_chatOpened longText).sendTexts hstart longKeys (by decide)
    (fun key hkey => (hkeys key hkey).1) (by decide)
  rw [← longTexts, List.nil_append] at hlog
  rw [← longTexts] at hreach
  have hbob : ∃ u, longTexts.db.user 2 = some u := by
    apply user_isSome
    have hmem : (2 : Int) ∈ longTexts.db.users.map (·.userId) := by
      rw [hlog.userIds]
      decide
    obtain ⟨u, hu, hid⟩ := List.mem_map.mp hmem
    exact ⟨u, hu, hid⟩
  obtain ⟨u, hu⟩ := hbob
  have hpage := dealSyncMessage_eq (storeServices_readsFrom syncRequest longTexts)
    dealSyncMessageArgs_syncRequest
    { world := longTexts, userUid := 2 } rfl rfl hu (Nat.zero_le _)
    (getEventsAfterSeq_eq_events hreach 2 0 100)
  have hbytes := hlog.syncBytes_bounds hreach (fun key hkey => (hkeys key hkey).2) (by decide)
  have hcount : longKeys.length = 17 := rfl
  rw [hcount, textBytes_longText] at hbytes
  have hrequest : (longTexts.request 2 idSyncUserMessageReq syncRequest).actions =
      [.send (Json.obj (syncPage longTexts.db 2 0 100 (longTexts.db.eventsAfter 2 0 100))).dump
        idSyncUserMessageRsp] := by
    rw [Sys.request, dispatchClientMessage_eq rfl two_ne_zero rfl (by decide), runCallback_sync,
      hpage]
    rfl
  have hsize : (Json.obj (syncPage longTexts.db 2 0 100
      (longTexts.db.eventsAfter 2 0 100))).dump.utf8ByteSize = longTexts.db.syncBytes 2 0 100 :=
    utf8ByteSize_syncPage _ _ _ _ _
  refine ⟨fun key hkey => ?_, by decide, hreach, hlog.head, _, hrequest, ?_, fun session => ?_⟩
  · have hkey := (hkeys key hkey).2
    rw [utf8ByteSize_textRequest, textBytes_longText, maxLength]
    omega
  · rw [hsize, maxSendPayload, headTotalLen]
    omega
  · apply SendSide.send_of_gt
    · rw [hsize, maxSendPayload, headTotalLen]
      omega
    · rw [hsize]
      omega

end LlfcChat
