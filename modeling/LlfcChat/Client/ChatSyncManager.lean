/-
`ChatSyncManager`: how the client catches up with the server after a login.

The manager is a state machine that has at most one thing to wait for: an answer
of the local store, a page of threads (1402) or a page of events (1406).  The
frames come to it through the handlers of `TcpMgr`.  That of 1406 hands on every
object, and an error sends the manager back to idle.  That of 1402 returns at an
error, so the manager never hears of it: it stays in `SYNC_BOOTSTRAP_THREADS`
with nothing left to wait for, and the periodic timer does nothing outside of
idle.  In every other state, and in this one as long as no 1402 frame is an
error, there is a request whose answer moves the manager on, whatever it says.

What the manager tells the interface about the friend requests of a page is left
out; nothing of it comes back.
-/
import LlfcChat.Client.QJson
import LlfcChat.Client.Timestamps

namespace LlfcChat.ChatSync

/-! ### Values -/

/-- The five lists that `applySyncPage` is called with. -/
structure Page where
  events : List UserEventDTO := []
  messages : List LocalMessageDTO := []
  resources : List LocalMessageResourceDTO := []
  friendRequests : List LocalFriendRequestDTO := []
  contacts : List LocalContactDTO := []
  deriving DecidableEq

/-- The requests of the manager, to the local store and to the server. -/
inductive Request
  | getSyncState
  | upsertConversations (conversations : List LocalConversationDTO)
  | applySnapshot (requests : List LocalFriendRequestDTO) (contacts : List LocalContactDTO)
      (bootstrap : Bool)
  | markBootstrapComplete (checkpoint : Int)
  | applySyncPage (page : Page) (nextEventSeq : Int)
  /-- 1401 -/
  | loadChatThread (threadId : Int)
  /-- 1405 -/
  | syncUserMessage (afterEventSeq limit : Int)
  deriving DecidableEq

/-- Whether a request goes to the server. -/
def Request.network : Request → Bool
  | .loadChatThread _ | .syncUserMessage _ _ => true
  | _ => false

inductive SyncState
  | idle
  | waitState
  | bootstrapThreads
  | waitUpsert
  | waitSnapshot
  | waitMark
  | waitPage
  deriving DecidableEq

/-- The manager.  The last two fields are not in the source: the requests that have no answer yet,
and how many there were. -/
structure Manager where
  state : SyncState := .idle
  lastEventSeq : Int := 0
  checkpoint : Int := 0
  hasMorePending : Bool := false
  pullPending : Bool := false
  applyingLive : Bool := false
  markAfterSnapshot : Bool := false
  snapshotRequests : List LocalFriendRequestDTO := []
  snapshotContacts : List LocalContactDTO := []
  /-- In the order of the event numbers. -/
  pendingLive : List (Int × Json) := []
  bootstrapConversations : List LocalConversationDTO := []
  timerActive : Bool := false
  outstanding : List Request := []
  issued : Nat := 0

/-- What the slots read from outside: the clock, the time zone and the user. -/
structure Env where
  now : Int
  zone : Int → Bool
  selfUserId : Int

variable (env : Env)

def issue (r : Request) (s : Manager) : Manager :=
  { s with outstanding := s.outstanding ++ [r], issued := s.issued + 1 }

/-! ### Envelopes -/

/-- The members that a friend request has in a snapshot and in an envelope. -/
def readFriendRequest (object : Json) : LocalFriendRequestDTO where
  friendRequestId := QJson.id object "friend_request_id"
  requesterUserId := QJson.int object "requester_user_id" 0
  targetUserId := QJson.int object "target_user_id" 0
  requestMessage := QJson.text object "request_message"
  status := QJson.int object "status" (-1)
  threadId := QJson.id object "thread_id"
  peerUsername := QJson.text object "peer_username"
  peerNickname := QJson.text object "peer_nickname"
  peerAvatarKey := QJson.text object "peer_avatar_key"
  peerGender := QJson.int object "peer_gender" 0

def parseSnapshotRequests (array : List Json) : List LocalFriendRequestDTO :=
  ((array.filter (·.isObject)).map readFriendRequest).filter (·.valid)

def readContact (object : Json) : LocalContactDTO where
  userId := QJson.int object "user_id" 0
  threadId := QJson.id object "thread_id"
  username := QJson.text object "username"
  nickname := QJson.text object "nickname"
  avatarKey := QJson.text object "avatar_key"
  gender := QJson.int object "gender" 0

def parseSnapshotContacts (array : List Json) : List LocalContactDTO :=
  ((array.filter (·.isObject)).map readContact).filter fun c => 0 < c.userId ∧ 0 < c.threadId

/-- An event with what it is about. -/
inductive Subject
  | message (message : LocalMessageDTO) (resource : LocalMessageResourceDTO)
  | friendRequest (request : LocalFriendRequestDTO) (contact : Option LocalContactDTO)

/-- The part of `parseEnvelope` for a text, a picture or a file. -/
def parseMessage (envelope : Json) (eventType : Int) : Option Subject :=
  let created := Timestamps.serverTimeToEpoch env.zone (QJson.text envelope "created_at").toList
  let message : LocalMessageDTO :=
    { messageId := QJson.id envelope "message_id"
      threadId := QJson.id envelope "thread_id"
      senderUserId := QJson.int envelope "sender_user_id" 0
      messageType := QJson.int envelope "message_type" (-1)
      textContent := QJson.text envelope "text_content"
      createdAt := if created ≤ 0 then env.now else created }
  let resource : LocalMessageResourceDTO :=
    { originalFileName := QJson.text envelope "original_file_name"
      fileSizeBytes := QJson.id envelope "file_size_bytes"
      sha256 := QJson.text envelope "sha256"
      mimeType := QJson.text envelope "mime_type" }
  if message.messageId ≤ 0 ∨ message.threadId ≤ 0 ∨ message.senderUserId ≤ 0 ∨
      message.messageType ≠ eventType then none
  else if message.messageType = 0 then
    if envelope.contains "text_content" then some (.message message {}) else none
  else if resource.originalFileName ≠ "" ∧ 0 < resource.fileSizeBytes ∧
      resource.sha256.length = 64 ∧ resource.mimeType ≠ "" then some (.message message resource)
  else none

/-- The part for a friend request; event 11 is that it was accepted. -/
def parseFriendRequest (envelope : Json) (eventType : Int) : Option Subject :=
  let request := readFriendRequest envelope
  if request.valid = false then none
  else if eventType = 11 then
    if request.threadId ≤ 0 then none
    else
      some (.friendRequest request (some
        { userId := if request.requesterUserId = env.selfUserId then request.targetUserId
            else request.requesterUserId
          threadId := request.threadId
          username := request.peerUsername
          nickname := request.peerNickname
          avatarKey := request.peerAvatarKey
          gender := request.peerGender }))
  else some (.friendRequest request none)

def parseEnvelope (envelope : Json) : Option (UserEventDTO × Subject) :=
  let eventSeq := QJson.id envelope "event_seq"
  let eventType := QJson.int envelope "event_type" (-1)
  if eventSeq ≤ 0 then none
  else if eventType = 0 ∨ eventType = 1 ∨ eventType = 3 then
    (parseMessage env envelope eventType).map fun subject =>
      ({ eventSeq := eventSeq, eventType := eventType
         messageId := QJson.id envelope "message_id" }, subject)
  else if eventType = 10 ∨ eventType = 11 ∨ eventType = 12 then
    (parseFriendRequest env envelope eventType).map fun subject =>
      ({ eventSeq := eventSeq, eventType := eventType
         friendRequestId := QJson.id envelope "friend_request_id" }, subject)
  else none

/-- One round of the loop of `applyEnvelopePage`, in front of the rounds behind it. -/
def Page.add (event : UserEventDTO) (subject : Subject) (page : Page) : Page :=
  match subject with
  | .message message resource =>
    { page with
      events := event :: page.events
      messages := message :: page.messages
      resources := resource :: page.resources }
  | .friendRequest request contact =>
    { page with
      events := event :: page.events
      friendRequests := request :: page.friendRequests
      contacts := contact.toList ++ page.contacts }

/-- The page, if every envelope can be read and has the number that is expected. -/
def readPage : Int → List Json → Option Page
  | _, [] => some {}
  | expected, envelope :: rest => do
    let (event, subject) ← parseEnvelope env envelope
    if event.eventSeq ≠ expected then none
    else return (← readPage (expected + 1) rest).add event subject

/-! ### Slots -/

def sendSyncRequest (s : Manager) : Manager :=
  issue (.syncUserMessage s.lastEventSeq 100) { s with state := .waitPage, applyingLive := false }

def sendThreadListRequest (lastThreadId : Int) (s : Manager) : Manager :=
  issue (.loadChatThread lastThreadId) s

def slotLoginSnapshot (snapshot : Json) (s : Manager) : Manager :=
  { s with
    checkpoint := QJson.id snapshot "checkpoint"
    snapshotRequests := parseSnapshotRequests (QJson.array snapshot "apply_list")
    snapshotContacts := parseSnapshotContacts (QJson.array snapshot "friend_list") }

def slotStart (s : Manager) : Manager :=
  issue .getSyncState
    { s with
      state := .waitState, hasMorePending := false, pullPending := false, applyingLive := false
      pendingLive := [], timerActive := true }

def slotSyncStateLoaded (ok : Bool) (lastEventSeq : Int) (bootstrapComplete : Bool) (s : Manager) :
    Manager :=
  if s.state ≠ .waitState then s
  else if ok = false then { s with state := .idle }
  else
    let s := { s with lastEventSeq := lastEventSeq }
    if bootstrapComplete then
      issue (.applySnapshot s.snapshotRequests s.snapshotContacts false)
        { s with markAfterSnapshot := false, state := .waitSnapshot }
    else sendThreadListRequest 0 { s with bootstrapConversations := [], state := .bootstrapThreads }

/-- `ChatThreadInfo` -/
structure ChatThreadInfo where
  threadId : Int
  lowerUserId : Int
  higherUserId : Int
  lastMsgId : Int

def ChatThreadInfo.conversation (thread : ChatThreadInfo) : LocalConversationDTO where
  threadId := thread.threadId
  peerUserId := if env.selfUserId = thread.lowerUserId then thread.higherUserId
    else thread.lowerUserId
  lastMessageId := thread.lastMsgId
  updatedAt := env.now

def slotLoadChatThread (loadMore : Bool) (nextLastId : Int) (threads : List ChatThreadInfo)
    (s : Manager) : Manager :=
  if s.state ≠ .bootstrapThreads then s
  else
    let s := { s with
      bootstrapConversations := s.bootstrapConversations ++ threads.map (·.conversation env) }
    if loadMore then sendThreadListRequest nextLastId s
    else issue (.upsertConversations s.bootstrapConversations) { s with state := .waitUpsert }

def slotConversationsUpserted (ok : Bool) (s : Manager) : Manager :=
  if s.state ≠ .waitUpsert then s
  else if ok = false then { s with state := .idle }
  else
    issue (.applySnapshot s.snapshotRequests s.snapshotContacts true)
      { s with markAfterSnapshot := true, state := .waitSnapshot }

def slotSnapshotApplied (ok : Bool) (s : Manager) : Manager :=
  if s.state ≠ .waitSnapshot then s
  else if ok = false then { s with state := .idle }
  else if s.markAfterSnapshot then
    issue (.markBootstrapComplete s.checkpoint) { s with state := .waitMark }
  else sendSyncRequest s

def slotBootstrapMarked (ok : Bool) (checkpoint : Int) (s : Manager) : Manager :=
  if s.state ≠ .waitMark then s
  else if ok = false then { s with state := .idle }
  else sendSyncRequest { s with lastEventSeq := checkpoint }

def applyEnvelopePage (envelopes : List Json) (nextEventSeq : Int) (s : Manager) : Manager :=
  match readPage env (s.lastEventSeq + 1) envelopes with
  | none => { s with state := .idle, applyingLive := false }
  | some page => issue (.applySyncPage page nextEventSeq) s

def applyNextLiveIfPossible (s : Manager) : Manager :=
  let s := { s with pendingLive := s.pendingLive.dropWhile fun p => p.1 ≤ s.lastEventSeq }
  let next := s.lastEventSeq + 1
  match s.pendingLive.find? fun p => p.1 = next with
  | some (_, envelope) =>
    applyEnvelopePage env [envelope] next
      { s with
        pendingLive := s.pendingLive.filter fun p => p.1 ≠ next
        applyingLive := true
        state := .waitPage }
  | none => if s.pendingLive.isEmpty then s else sendSyncRequest s

/-- Insertion into a map. -/
def insertLive (eventSeq : Int) (envelope : Json) : List (Int × Json) → List (Int × Json)
  | [] => [(eventSeq, envelope)]
  | p :: rest =>
    if eventSeq < p.1 then (eventSeq, envelope) :: p :: rest
    else if eventSeq = p.1 then (eventSeq, envelope) :: rest
    else p :: insertLive eventSeq envelope rest

def slotUserMessageNotify (envelope : Json) (s : Manager) : Manager :=
  let eventSeq := QJson.id envelope "event_seq"
  if eventSeq ≤ s.lastEventSeq then s
  else
    let s := { s with pendingLive := insertLive eventSeq envelope s.pendingLive }
    if s.state = .idle then applyNextLiveIfPossible env s else s

/-- `ErrorCodes::ERR_JSON`, what an answer without a code is taken for. -/
def errJson : Int := 1

def slotSyncMessageRsp (response : Json) (s : Manager) : Manager :=
  if s.state ≠ .waitPage ∨ s.applyingLive = true then s
  else if QJson.int response "error" errJson ≠ 0 then { s with state := .idle }
  else
    let s := { s with hasMorePending := QJson.bool response "has_more" }
    let envelopes := QJson.array response "events"
    let next := QJson.id response "next_event_seq"
    let expected := match envelopes.getLast? with
      | none => s.lastEventSeq
      | some envelope => QJson.id envelope "event_seq"
    if envelopes.any (fun value => !value.isObject) then { s with state := .idle }
    else if next ≠ expected ∨ s.hasMorePending = true ∧ envelopes.isEmpty = true then
      { s with state := .idle }
    else applyEnvelopePage env envelopes next s

def slotSyncPageApplied (ok : Bool) (newEventSeq : Int) (s : Manager) : Manager :=
  if s.state ≠ .waitPage then s
  else if ok = false then { s with state := .idle, applyingLive := false }
  else
    let wasLive := s.applyingLive
    let s := { s with lastEventSeq := newEventSeq, applyingLive := false }
    if wasLive = false ∧ s.hasMorePending = true then
      sendSyncRequest { s with hasMorePending := false }
    else
      let s := { s with state := .idle }
      if s.pendingLive.isEmpty = false then applyNextLiveIfPossible env s
      else if s.pullPending then sendSyncRequest { s with pullPending := false }
      else s

def slotPeriodicSync (s : Manager) : Manager :=
  if s.state = .idle then { sendSyncRequest s with timerActive := true }
  else { s with pullPending := true, timerActive := true }

def slotConnectionClosed (s : Manager) : Manager :=
  { s with state := .idle, pendingLive := [], timerActive := false }

/-! ### Frames -/

/-- A frame that the server sends as an answer: an object with an error code. -/
structure Reply where
  doc : Json
  isObject : doc.isObject = true
  hasError : doc.contains "error" = true

/-- `TcpMgr::handleLoadChatThreadRsp`: what it passes on, if anything. -/
def handleLoadChatThreadRsp (doc : Json) : Option (Bool × Int × List ChatThreadInfo) :=
  if doc.contains "error" = false then none
  else if QJson.int doc "error" 0 ≠ 0 then none
  else
    some (QJson.bool doc "load_more", QJson.id doc "next_last_id",
      (QJson.array doc "threads").map fun value =>
        { threadId := QJson.id value "thread_id"
          lowerUserId := QJson.int value "lower_user_id" 0
          higherUserId := QJson.int value "higher_user_id" 0
          lastMsgId := QJson.id value "last_message_id" })

/-- `TcpMgr::handleSyncMessageRsp` -/
def handleSyncMessageRsp (doc : Json) : Option Json := if doc.isObject then some doc else none

/-- `TcpMgr::handleUserMessageNotify` -/
def handleUserMessageNotify (doc : Json) : Option Json :=
  if doc.isObject = true ∧ QJson.int doc "error" errJson = 0 then some doc else none

/-! ### Runs -/

/-- The answers, of the local store and of the server. -/
inductive Answer
  | syncStateLoaded (ok : Bool) (lastEventSeq : Int) (bootstrapComplete : Bool)
  | conversationsUpserted (ok : Bool)
  | snapshotApplied (ok : Bool)
  | bootstrapMarked (ok : Bool) (checkpoint : Int)
  | syncPageApplied (ok : Bool) (newEventSeq : Int)
  | loadChatThreadRsp (reply : Reply)
  | syncMessageRsp (reply : Reply)

/-- Whether an answer is one to this request. -/
def Answer.answers : Answer → Request → Bool
  | .syncStateLoaded .., .getSyncState => true
  | .conversationsUpserted _, .upsertConversations _ => true
  | .snapshotApplied _, .applySnapshot .. => true
  | .bootstrapMarked .., .markBootstrapComplete _ => true
  | .syncPageApplied .., .applySyncPage .. => true
  | .loadChatThreadRsp _, .loadChatThread _ => true
  | .syncMessageRsp _, .syncUserMessage .. => true
  | _, _ => false

/-- An answer on its way to the manager. -/
def deliver (answer : Answer) (s : Manager) : Manager :=
  match answer with
  | .syncStateLoaded ok lastEventSeq complete => slotSyncStateLoaded ok lastEventSeq complete s
  | .conversationsUpserted ok => slotConversationsUpserted ok s
  | .snapshotApplied ok => slotSnapshotApplied ok s
  | .bootstrapMarked ok checkpoint => slotBootstrapMarked ok checkpoint s
  | .syncPageApplied ok newEventSeq => slotSyncPageApplied env ok newEventSeq s
  | .loadChatThreadRsp reply => match handleLoadChatThreadRsp reply.doc with
    | none => s
    | some (loadMore, nextLastId, threads) => slotLoadChatThread env loadMore nextLastId threads s
  | .syncMessageRsp reply => match handleSyncMessageRsp reply.doc with
    | none => s
    | some response => slotSyncMessageRsp env response s

inductive Event
  | loginSnapshot (snapshot : Json)
  | start
  | notify (doc : Json)
  | periodicSync
  /-- The requests of the connection will not be answered. -/
  | connectionClosed
  | answer (answer : Answer)

/-- One event.  There are no answers without a request. -/
def step (s : Manager) (e : Env × Event) : Manager :=
  match e.2 with
  | .loginSnapshot snapshot => slotLoginSnapshot snapshot s
  | .start => slotStart s
  | .notify doc => match handleUserMessageNotify doc with
    | none => s
    | some envelope => slotUserMessageNotify e.1 envelope s
  | .periodicSync => slotPeriodicSync s
  | .connectionClosed =>
    slotConnectionClosed { s with outstanding := s.outstanding.filter fun r => !r.network }
  | .answer answer =>
    if s.outstanding.any answer.answers then
      deliver e.1 answer { s with outstanding := s.outstanding.eraseP answer.answers }
    else s

def run (s : Manager) (es : List (Env × Event)) : Manager := es.foldl step s

/-! ### What a state waits for -/

variable {env} {s : Manager} {P : Prop}

/-- The requests whose answer a state looks at. -/
def Manager.awaits (s : Manager) : Request → Bool
  | .getSyncState => s.state = .waitState
  | .loadChatThread _ => s.state = .bootstrapThreads
  | .upsertConversations _ => s.state = .waitUpsert
  | .applySnapshot .. => s.state = .waitSnapshot
  | .markBootstrapComplete _ => s.state = .waitMark
  | .applySyncPage .. => s.state = .waitPage
  | .syncUserMessage .. => s.state = .waitPage && !s.applyingLive

/-- The manager is idle or has a request out that it waits for; `P` says whether the 1402 frames of
the run are no errors. -/
def Awaited (P : Prop) (s : Manager) : Prop :=
  s.state = .idle ∨ (∃ r ∈ s.outstanding, s.awaits r = true) ∨ ¬P ∧ s.state = .bootstrapThreads

/-- The same behind a slot that has done something: idle, or one more request. -/
def Settled (n : Nat) (s : Manager) : Prop :=
  s.state = .idle ∨ (∃ r ∈ s.outstanding, s.awaits r = true) ∧ n < s.issued

/-- Another state, or one more request. -/
def Progress (s s' : Manager) : Prop := s'.state ≠ s.state ∨ s.issued < s'.issued

theorem Settled.awaited {n : Nat} (h : Settled n s) : Awaited P s :=
  h.elim .inl fun h => .inr (.inl h.1)

variable {answer : Answer} {s' : Manager}

theorem Settled.progress (h : Settled s.issued s') (hs : s.state ≠ .idle) :
    Progress s s' := by
  rcases h with hidle | ⟨-, hissued⟩
  · exact .inl fun hsame => hs (hsame.symm.trans hidle)
  · exact .inr hissued

theorem awaits_congr (hstate : s'.state = s.state) (hlive : s'.applyingLive = s.applyingLive)
    (r : Request) : s'.awaits r = s.awaits r := by
  cases r <;> simp only [Manager.awaits, hstate, hlive]

theorem Awaited.congr (h : Awaited P s) (hstate : s'.state = s.state)
    (hlive : s'.applyingLive = s.applyingLive)
    (hout : ∀ r ∈ s.outstanding, s.awaits r = true → r ∈ s'.outstanding) : Awaited P s' := by
  rcases h with hidle | ⟨r, hr, hawaits⟩ | ⟨hP, hthreads⟩
  · exact .inl (hstate.trans hidle)
  · exact .inr (.inl ⟨r, hout r hr hawaits, (awaits_congr hstate hlive r).trans hawaits⟩)
  · exact .inr (.inr ⟨hP, hstate.trans hthreads⟩)

theorem settled_issue {r : Request} (h : s.awaits r = true) : Settled s.issued (issue r s) := by
  refine .inr ⟨⟨r, List.mem_append_right _ (List.mem_singleton_self r), ?_⟩, Nat.lt_succ_self _⟩
  cases r <;> exact h

theorem settled_sendSyncRequest (s : Manager) : Settled s.issued (sendSyncRequest s) :=
  settled_issue (s := { s with state := .waitPage, applyingLive := false }) rfl

/-! ### One step -/

theorem settled_applyEnvelopePage (hs : s.state = .waitPage) (envelopes : List Json) (next : Int) :
    Settled s.issued (applyEnvelopePage env envelopes next s) := by
  unfold applyEnvelopePage
  split
  · exact .inl rfl
  · exact settled_issue (decide_eq_true hs)

theorem settled_applyNextLive (hs : s.state = .idle) :
    Settled s.issued (applyNextLiveIfPossible env s) := by
  unfold applyNextLiveIfPossible
  simp only
  split
  · exact settled_applyEnvelopePage rfl _ _
  · split
    · exact .inl hs
    · exact settled_sendSyncRequest _

/-- The slot of an answer, in the state that waits for it. -/
theorem settled_slotSyncStateLoaded (hs : s.state = .waitState) (ok : Bool) (last : Int)
    (complete : Bool) : Settled s.issued (slotSyncStateLoaded ok last complete s) := by
  unfold slotSyncStateLoaded
  rw [if_neg (not_not.mpr hs)]
  split
  · exact .inl rfl
  simp only
  split
  · exact settled_issue rfl
  · exact settled_issue rfl

theorem settled_slotLoadChatThread (hs : s.state = .bootstrapThreads) (loadMore : Bool)
    (nextLastId : Int) (threads : List ChatThreadInfo) :
    Settled s.issued (slotLoadChatThread env loadMore nextLastId threads s) := by
  unfold slotLoadChatThread
  rw [if_neg (not_not.mpr hs)]
  simp only
  split
  · exact settled_issue (decide_eq_true hs)
  · exact settled_issue rfl

theorem settled_slotConversationsUpserted (hs : s.state = .waitUpsert) (ok : Bool) :
    Settled s.issued (slotConversationsUpserted ok s) := by
  unfold slotConversationsUpserted
  rw [if_neg (not_not.mpr hs)]
  split
  · exact .inl rfl
  · exact settled_issue rfl

theorem settled_slotSnapshotApplied (hs : s.state = .waitSnapshot) (ok : Bool) :
    Settled s.issued (slotSnapshotApplied ok s) := by
  unfold slotSnapshotApplied
  rw [if_neg (not_not.mpr hs)]
  split
  · exact .inl rfl
  split
  · exact settled_issue rfl
  · exact settled_sendSyncRequest s

theorem settled_slotBootstrapMarked (hs : s.state = .waitMark) (ok : Bool) (checkpoint : Int) :
    Settled s.issued (slotBootstrapMarked ok checkpoint s) := by
  unfold slotBootstrapMarked
  rw [if_neg (not_not.mpr hs)]
  split
  · exact .inl rfl
  · exact settled_sendSyncRequest _

theorem settled_slotSyncMessageRsp (hs : s.state = .waitPage) (hlive : s.applyingLive = false)
    (response : Json) : Settled s.issued (slotSyncMessageRsp env response s) := by
  unfold slotSyncMessageRsp
  rw [if_neg (by rw [hlive]; exact fun h => h.elim (· hs) Bool.false_ne_true)]
  split
  · exact .inl rfl
  simp only
  generalize (match (QJson.array response "events").getLast? with
    | none => s.lastEventSeq
    | some envelope => QJson.id envelope "event_seq") = expected
  split
  · exact .inl rfl
  split
  · exact .inl rfl
  · exact settled_applyEnvelopePage
      (s := { s with hasMorePending := QJson.bool response "has_more" }) hs _ _

theorem settled_slotSyncPageApplied (hs : s.state = .waitPage) (ok : Bool) (newEventSeq : Int) :
    Settled s.issued (slotSyncPageApplied env ok newEventSeq s) := by
  unfold slotSyncPageApplied
  rw [if_neg (not_not.mpr hs)]
  split
  · exact .inl rfl
  simp only
  split
  · exact settled_sendSyncRequest _
  split
  · exact settled_applyNextLive rfl
  split
  · exact settled_sendSyncRequest _
  · exact .inl rfl

/-- The answers that the manager hears of. -/
def Answer.Heard : Answer → Prop
  | .loadChatThreadRsp reply => QJson.int reply.doc "error" 0 = 0
  | _ => True

/-- An answer to an awaited request settles the manager, if it is heard of. -/
theorem settled_deliver (env : Env) {r : Request} (hr : answer.answers r = true)
    (hs : s.awaits r = true) (hheard : answer.Heard) : Settled s.issued (deliver env answer s) := by
  cases answer <;> cases r <;> try cases hr
  case syncStateLoaded.getSyncState ok last complete =>
    exact settled_slotSyncStateLoaded (of_decide_eq_true hs) ok last complete
  case conversationsUpserted.upsertConversations ok _ =>
    exact settled_slotConversationsUpserted (of_decide_eq_true hs) ok
  case snapshotApplied.applySnapshot ok _ _ _ =>
    exact settled_slotSnapshotApplied (of_decide_eq_true hs) ok
  case bootstrapMarked.markBootstrapComplete ok checkpoint _ =>
    exact settled_slotBootstrapMarked (of_decide_eq_true hs) ok checkpoint
  case syncPageApplied.applySyncPage ok seq _ _ =>
    exact settled_slotSyncPageApplied (of_decide_eq_true hs) ok seq
  case loadChatThreadRsp.loadChatThread reply _ =>
    obtain ⟨page, hpage⟩ : ∃ page, handleLoadChatThreadRsp reply.doc = some page := by
      unfold handleLoadChatThreadRsp
      have hsuccess : QJson.int reply.doc "error" 0 = 0 := hheard
      rw [if_neg (by rw [reply.hasError]; decide), if_neg (not_not.mpr hsuccess)]
      exact ⟨_, rfl⟩
    simp only [deliver, hpage]
    exact settled_slotLoadChatThread (of_decide_eq_true hs) _ _ _
  case syncMessageRsp.syncUserMessage reply _ _ =>
    rw [Manager.awaits, Bool.and_eq_true, decide_eq_true_eq, Bool.not_eq_true'] at hs
    simp only [deliver, handleSyncMessageRsp, if_pos reply.isObject]
    exact settled_slotSyncMessageRsp hs.1 hs.2 _

/-- Any other answer is passed over. -/
theorem deliver_eq (h : ∀ r, answer.answers r = true → s.awaits r = false) :
    deliver env answer s = s := by
  cases answer with
  | syncStateLoaded ok last complete => exact if_pos (of_decide_eq_false (h .getSyncState rfl))
  | conversationsUpserted ok => exact if_pos (of_decide_eq_false (h (.upsertConversations []) rfl))
  | snapshotApplied ok => exact if_pos (of_decide_eq_false (h (.applySnapshot [] [] false) rfl))
  | bootstrapMarked ok checkpoint =>
    exact if_pos (of_decide_eq_false (h (.markBootstrapComplete 0) rfl))
  | syncPageApplied ok seq => exact if_pos (of_decide_eq_false (h (.applySyncPage {} 0) rfl))
  | loadChatThreadRsp reply =>
    have hs : s.state ≠ .bootstrapThreads := of_decide_eq_false (h (.loadChatThread 0) rfl)
    simp only [deliver]
    split
    · rfl
    · exact if_pos hs
  | syncMessageRsp reply =>
    have hs := h (.syncUserMessage 0 0) rfl
    rw [Manager.awaits, Bool.and_eq_false_iff, decide_eq_false_iff_not, Bool.not_eq_false'] at hs
    simp only [deliver]
    split
    · rfl
    · exact if_pos hs

/-- The only answers that are not heard of are errors of 1402; they change nothing. -/
theorem deliver_unheard (env : Env) (h : ¬answer.Heard) :
    (∀ r, answer.answers r = true → ∃ id, r = .loadChatThread id) ∧ deliver env answer s = s := by
  cases answer with
  | loadChatThreadRsp reply =>
    refine ⟨fun r hr => ?_, ?_⟩
    · cases r with
      | loadChatThread id => exact ⟨id, rfl⟩
      | _ => cases hr
    · have hnone : handleLoadChatThreadRsp reply.doc = none := by
        unfold handleLoadChatThreadRsp
        rw [if_neg (by rw [reply.hasError]; decide)]
        exact if_pos h
      simp only [deliver, hnone]
  | _ => exact absurd trivial h

theorem Awaited.deliver (h : Awaited P s) (hP : P → answer.Heard) :
    Awaited P (deliver env answer
      { s with outstanding := s.outstanding.eraseP answer.answers }) := by
  have hsame : ∀ r, ({ s with outstanding := s.outstanding.eraseP answer.answers } :
      Manager).awaits r = s.awaits r := awaits_congr rfl rfl
  by_cases hawaited : ∃ r, answer.answers r = true ∧ s.awaits r = true
  · obtain ⟨r, hanswers, hawaits⟩ := hawaited
    by_cases hheard : answer.Heard
    · exact (settled_deliver env hanswers ((hsame r).trans hawaits) hheard).awaited
    · obtain ⟨hkind, heq⟩ := deliver_unheard env (s := { s with
        outstanding := s.outstanding.eraseP answer.answers }) hheard
      obtain ⟨id, rfl⟩ := hkind r hanswers
      rw [heq]
      exact .inr (.inr ⟨fun hp => hheard (hP hp), of_decide_eq_true hawaits⟩)
  · -- Nobody waits for this answer: what the manager waits for is still out.
    rw [deliver_eq fun r hanswers => (hsame r).trans
      (Bool.eq_false_of_not_eq_true fun hawaits => hawaited ⟨r, hanswers, hawaits⟩)]
    refine h.congr rfl rfl fun r hr hawaits => ?_
    exact (List.mem_eraseP_of_neg fun hanswers => hawaited ⟨r, hanswers, hawaits⟩).mpr hr

theorem Awaited.step (h : Awaited P s) (e : Env × Event)
    (he : P → ∀ answer, e.2 = .answer answer → answer.Heard) : Awaited P (step s e) := by
  obtain ⟨env, event⟩ := e
  cases event with
  | loginSnapshot snapshot => exact h.congr rfl rfl fun _ hr _ => hr
  | start => exact (settled_issue (s := { s with state := .waitState }) rfl).awaited
  | notify doc =>
    show Awaited P (match handleUserMessageNotify doc with | none => s | some _ => _)
    split
    · exact h
    rename_i envelope
    unfold slotUserMessageNotify
    simp only
    split
    · exact h
    split
    · rename_i hidle
      exact (settled_applyNextLive (s := { s with
        pendingLive := insertLive _ _ s.pendingLive }) hidle).awaited
    · exact h.congr rfl rfl fun _ hr _ => hr
  | periodicSync =>
    show Awaited P (slotPeriodicSync s)
    unfold slotPeriodicSync
    split
    · exact (settled_sendSyncRequest s).awaited.congr rfl rfl fun _ hr _ => hr
    · exact h.congr rfl rfl fun _ hr _ => hr
  | connectionClosed => exact .inl rfl
  | answer answer =>
    show Awaited P (if _ then _ else _)
    split
    · exact h.deliver fun hP => he hP answer rfl
    · exact h

/-! ### Whole runs -/

/-- No 1402 frame of a run is an error. -/
def ThreadsLoaded (es : List (Env × Event)) : Prop :=
  ∀ e ∈ es, ∀ answer, e.2 = .answer answer → answer.Heard

theorem Awaited.run (h : Awaited P s) (es : List (Env × Event)) (hes : P → ThreadsLoaded es) :
    Awaited P (run s es) := by
  induction es generalizing s with
  | nil => exact h
  | cons e es ih =>
    refine ih (h.step e fun hP => hes hP e List.mem_cons_self) fun hP e' he' => ?_
    exact hes hP e' (List.mem_cons_of_mem _ he')

/-- The answer to a request that is awaited takes the manager on. -/
theorem progress_of_awaits {r : Request} (hr : r ∈ s.outstanding) (hs : s.awaits r = true)
    (hidle : s.state ≠ .idle) (hanswers : answer.answers r = true) (hheard : answer.Heard)
    (env : Env) : Progress s (step s (env, .answer answer)) := by
  have hany : s.outstanding.any answer.answers = true := List.any_eq_true.mpr ⟨r, hr, hanswers⟩
  show Progress s (if _ then _ else _)
  rw [if_pos hany]
  have hsettled := settled_deliver env
    (s := { s with outstanding := s.outstanding.eraseP answer.answers }) hanswers
    ((awaits_congr rfl rfl r).trans hs) hheard
  exact hsettled.progress (s := s) hidle

/-- Outside of idle the manager waits for a request, and any answer to it takes it on.  Only while
it loads the threads this holds as long as no 1402 frame is an error. -/
theorem sync_not_wedged (es : List (Env × Event)) :
    ((run {} es).state ≠ .idle → (run {} es).state ≠ .bootstrapThreads →
      ∃ r ∈ (run {} es).outstanding, ∀ answer : Answer, answer.answers r = true →
        ∀ env, Progress (run {} es) (step (run {} es) (env, .answer answer))) ∧
    (ThreadsLoaded es → (run {} es).state = .bootstrapThreads →
      ∃ r ∈ (run {} es).outstanding, ∀ answer : Answer, answer.answers r = true → answer.Heard →
        ∀ env, Progress (run {} es) (step (run {} es) (env, .answer answer))) := by
  have hinit : ∀ P, Awaited P {} := fun _ => .inl rfl
  constructor
  · intro hidle hthreads
    rcases (hinit False).run es False.elim with h | ⟨r, hr, hawaits⟩ | ⟨-, h⟩
    · exact absurd h hidle
    · refine ⟨r, hr, fun answer hanswers => progress_of_awaits hr hawaits hidle hanswers ?_⟩
      by_contra hheard
      obtain ⟨id, rfl⟩ := (deliver_unheard ⟨0, fun _ => true, 0⟩ (s := {}) hheard).1 r
        hanswers
      exact hthreads (of_decide_eq_true hawaits)
    · exact absurd h hthreads
  · intro hloaded hthreads
    have hidle : (run {} es).state ≠ .idle := by
      rw [hthreads]
      decide
    rcases (hinit True).run es fun _ => hloaded with h | ⟨r, hr, hawaits⟩ | ⟨h, -⟩
    · exact absurd h hidle
    · exact ⟨r, hr, fun answer => progress_of_awaits hr hawaits hidle⟩
    · exact absurd trivial h

/-- A first login: the database has never been filled, and the threads are asked for. -/
def firstLogin : List (Env × Event) :=
  [(⟨0, fun _ => true, 1⟩, .start),
    (⟨0, fun _ => true, 1⟩, .answer (.syncStateLoaded true 0 false))]

theorem sync_not_wedged_firstLogin :
    (run {} firstLogin).state = .bootstrapThreads ∧
      ∃ r ∈ (run {} firstLogin).outstanding, ∀ answer : Answer, answer.answers r = true →
        answer.Heard → ∀ env,
          Progress (run {} firstLogin) (step (run {} firstLogin) (env, .answer answer)) := by
  have hloaded : ThreadsLoaded firstLogin := by
    intro e he answer hanswer
    rcases List.mem_cons.mp he with rfl | he
    · cases hanswer
    · obtain rfl := List.mem_singleton.mp he
      cases hanswer
      trivial
  exact ⟨by decide, (sync_not_wedged firstLogin).2 hloaded (by decide)⟩

/-- The answer of a server that cannot read the threads. -/
def uidInvalid : Reply where
  doc := .obj [("error", .int 2011), ("uid", .int 1)]
  isObject := rfl
  hasError := by decide

/-- The manager waits for threads, nothing is out, and the timer changes neither. -/
theorem sync_wedged_uidInvalid :
    let es := firstLogin ++ [(⟨0, fun _ => true, 1⟩, .answer (.loadChatThreadRsp uidInvalid)),
      (⟨60000, fun _ => true, 1⟩, .periodicSync)]
    (run {} es).state = .bootstrapThreads ∧ (run {} es).outstanding = [] := by
  decide +kernel

end LlfcChat.ChatSync
