/-
Messages that the server will never take.

A 1301 or a 1503 request can be turned down for what it is: a member that is
missing or malformed, users that are not the two of the thread, a file that is
too large.  Such a request fails however often it is sent, and the dispatcher
stops sending it only if the answer names the message and has one of the codes
that it takes for permanent.  `DealChatTextMsg` writes its answers before it
echoes the id; `DealCreateResourceMsg` echoes it early, but two of its codes
are none the dispatcher knows.  So the requests that are given up are exactly
the 1503 requests that fail one of the checks behind that of the members.

The text of an answer is read back as the value that the server has dumped.
-/
import LlfcChat.Chat.LogicSystem
import LlfcChat.Client.OutboxDispatcher
import LlfcChat.Client.QJson
import LlfcChat.Client.Timestamps

namespace LlfcChat.Outbox

open Effect Handler

variable {W : Type} {svc : Services W}

/-! ### Answers on the side of the client -/

/-- The arguments of `sig_text_msg_rsp_forward` and `sig_resource_msg_meta_rsp_forward`. -/
structure Forwarded where
  error : Int
  clientMessageId : String
  messageId : Int := 0
  createdAt : String := ""
  deriving DecidableEq

/-- `TcpMgr::handleTextChatMsgRsp`. -/
def handleTextChatMsgRsp (doc : Json) : Option Forwarded :=
  if doc.contains "error" = false then none
  else if QJson.int doc "error" 0 ≠ 0 then
    some { error := QJson.int doc "error" 0, clientMessageId := QJson.text doc "client_message_id" }
  else
    some
      { error := QJson.int doc "error" 0
        clientMessageId := QJson.text doc "client_message_id"
        messageId := QJson.id doc "message_id"
        createdAt := QJson.text doc "created_at" }

/-- `TcpMgr::handleCreateResourceMsgRsp`: the time is not read. -/
def handleCreateResourceMsgRsp (doc : Json) : Option Forwarded :=
  (handleTextChatMsgRsp doc).map fun f => { f with createdAt := "" }

/-- The codes that the slots tell apart. -/
def ReplyError.ofInt (error : Int) : ReplyError :=
  if error = 0 then .success
  else if error = 2017 then .messageConflict
  else if error = 2019 then .resourceInvalid
  else if error = 2020 then .resourceSizeExceeded
  else .other

/-- A 1302 or 1504 frame comes in. -/
def receive (cfg : RetryConfig) (env : Env) (zone : Int → Bool) (op : OutboxOperation) (doc : Json)
    (s : Dispatcher) : Dispatcher :=
  match op with
  | .sendText => match handleTextChatMsgRsp doc with
    | none => s
    | some f => slotTextMsgRsp cfg env (.ofInt f.error) f.clientMessageId f.messageId
      (Timestamps.parseTime zone f.createdAt.toList) s
  | .sendResource => match handleCreateResourceMsgRsp doc with
    | none => s
    | some f => slotResourceMsgMetaRsp cfg env (.ofInt f.error) f.clientMessageId f.messageId s

/-! ### Requests on the side of the server -/

/-- The handler of a request of the outbox, and the type of its answer. -/
def handleRequest (svc : Services W) : OutboxOperation → List UInt8 → Handler W Unit
  | .sendText => dealChatTextMsg svc
  | .sendResource => dealCreateResourceMsg svc

def rspId : OutboxOperation → Int
  | .sendText => idTextChatMsgRsp
  | .sendResource => idCreateResourceMsgRsp

/-- An answer that turns a request down: its code, and the id if it is echoed. -/
structure Rejection where
  code : ErrorCodes
  echo : Option String := none
  deriving DecidableEq

def Rejection.members (r : Rejection) : List (String × Json) :=
  (r.echo.toList.map fun key => ("client_message_id", .str key)) ++ [("error", r.code.json)]

def Rejection.reply (r : Rejection) : Json := .obj r.members

/-- Whether a 1301 request is turned down by what it says and by the members of its thread. -/
def textRejection (root : Json) (uid : Int) (members : Int → Option (Int × Int)) :
    Option Rejection :=
  match dealChatTextMsgArgs root with
  | none => some { code := .errorJson }
  | some (target, _, key) => match (root.field "thread_id").bind parseJsonId with
    | none => some { code := .errorJson }
    | some threadId =>
      if memberPair uid target (members threadId) = false then some { code := .createChatFailed }
      else if 64 < key.utf8ByteSize then some { code := .errorJson }
      else none

/-- The largest file of a type. -/
def sizeLimit (svc : Services W) (messageType : Int) : Nat :=
  if messageType = chatMsgPic then readResourceLimit svc "MaxImageSize" defaultMaxImageSize
  else readResourceLimit svc "MaxFileSize" defaultMaxFileSize

/-- The checks of a 1503 request behind that of the members. -/
def metadataRejection (svc : Services W) (root : Json) (q : ResourceRequest) : Option ErrorCodes :=
  if q.messageType ≠ chatMsgPic ∧ q.messageType ≠ chatMsgFile then some .resourceInvalid
  else if fileSizeBytes root = 0 ∨ sizeLimit svc q.messageType < fileSizeBytes root then
    some .resourceSizeExceeded
  else if (sanitizeFileName q.originalFileName).isNone ∨ isValidSha256Hex q.sha256 = false ∨
      isValidMimeType q.mimeType = false then some .resourceInvalid
  else none

/-- The same for a 1503 request. -/
def resourceRejection (svc : Services W) (root : Json) (uid : Int)
    (members : Int → Option (Int × Int)) : Option Rejection :=
  match dealCreateResourceMsgArgs root with
  | none => some { code := .errorJson }
  | some q =>
    if q.clientMessageId = "" ∨ 64 < q.clientMessageId.utf8ByteSize then
      some { code := .errorJson }
    else if uid ≤ 0 ∨ q.target ≤ 0 then
      some { code := .uidInvalid, echo := some q.clientMessageId }
    else if memberPair uid q.target (members q.threadId) = false then
      some { code := .createChatFailed, echo := some q.clientMessageId }
    else (metadataRejection svc root q).map fun code =>
      { code := code, echo := some q.clientMessageId }

def rejection (svc : Services W) (op : OutboxOperation) (root : Json) (uid : Int)
    (members : Int → Option (Int × Int)) : Option Rejection :=
  match op with
  | .sendText => textRejection root uid members
  | .sendResource => resourceRejection svc root uid members

/-- A 1503 request that comes through to the checks of its metadata. -/
def NamesMessage (op : OutboxOperation) (root : Json) (uid : Int)
    (members : Int → Option (Int × Int)) : Prop :=
  op = .sendResource ∧ ∃ q, dealCreateResourceMsgArgs root = some q ∧ q.clientMessageId ≠ "" ∧
    q.clientMessageId.utf8ByteSize ≤ 64 ∧ 0 < uid ∧ 0 < q.target ∧
    memberPair uid q.target (members q.threadId) = true

/-! ### The handlers send the rejections -/

section Handlers

variable {members : Int → Option (Int × Int)} {st : HandlerState W} {r : Rejection}

/-- The handler sends one answer, and no more. -/
def Answers (m : Handler W Unit) (st : HandlerState W) (reply : Json) (msgType : Int) : Prop :=
  ∃ msg, (msg = reply.dump ∨ msg = reply.dumpPretty) ∧
    (m st).2.actions = st.actions ++ [.send msg msgType]

theorem answers_reject (hst : st.rtvalue = []) (code : ErrorCodes) (msgType : Int) :
    Answers (reject code msgType) st (Rejection.reply { code := code }) msgType := by
  refine ⟨_, .inl rfl, ?_⟩
  show st.actions ++ [Action.send (response (Json.insert "error" code.json st.rtvalue)).dump
    msgType] = _
  rw [hst]
  rfl

theorem answers_pretty (hst : st.rtvalue = []) (code : ErrorCodes) (msgType : Int) :
    Answers (do assignError code; sendPretty msgType) st (Rejection.reply { code := code })
      msgType := by
  refine ⟨_, .inr rfl, ?_⟩
  show st.actions ++ [Action.send (response (Json.insert "error" code.json st.rtvalue)).dumpPretty
    msgType] = _
  rw [hst]
  rfl

/-- The handler of a 1301 request answers what `textRejection` says. -/
theorem dealChatTextMsg_rejected
    (hmembers : ∀ id w, svc.getPrivateChatMembers id w = (members id, w))
    (hst : st.rtvalue = []) (payload : List UInt8)
    (h : textRejection (svc.parse payload) st.userUid members = some r) :
    Answers (dealChatTextMsg svc payload) st r.reply idTextChatMsgRsp := by
  have hid : (getUserId : Handler W Int) st = (.ok st.userUid, st) := rfl
  unfold Answers dealChatTextMsg
  rw [bind_eq_ok hid]
  unfold textRejection at h
  split at h
  · rename_i hargs
    obtain rfl := Option.some.inj h
    rw [hargs]
    exact answers_reject hst _ _
  rename_i target text key hargs
  simp only [hargs]
  split at h
  · rename_i hthread
    obtain rfl := Option.some.inj h
    rw [hthread]
    exact answers_pretty hst _ _
  rename_i threadId hthread
  rw [hthread]
  simp only
  rw [bind_eq_ok (ask_query (hmembers threadId st.world))]
  split at h
  · rename_i hpair
    obtain rfl := Option.some.inj h
    rw [if_pos hpair]
    exact answers_reject hst _ _
  rename_i hpair
  rw [if_neg hpair]
  split at h
  · rename_i hlong
    obtain rfl := Option.some.inj h
    rw [if_pos hlong]
    exact answers_reject hst _ _
  · cases h

/-- `rtvalue` while the id is not echoed yet, and behind that. -/
theorem answers_rejectResource {echo : Option String}
    (hst : st.rtvalue = Rejection.members { code := .success, echo := echo }) (code : ErrorCodes) :
    Answers (rejectResource code) st (Rejection.reply { code := code, echo := echo })
      idCreateResourceMsgRsp := by
  refine ⟨_, .inr rfl, ?_⟩
  show st.actions ++ [Action.send (response (Json.insert "error" code.json st.rtvalue)).dumpPretty
    idCreateResourceMsgRsp] = _
  have hmembers : Json.insert "error" code.json st.rtvalue =
      Rejection.members { code := code, echo := echo } := by
    rw [hst]
    cases echo with
    | none => rfl
    | some key =>
      have hbehind : ¬"error" < "client_message_id" ∧ "error" ≠ "client_message_id" := by decide
      show Json.insert "error" code.json [("client_message_id", .str key), ("error", _)] = _
      rw [Json.insert, if_neg hbehind.1, if_neg hbehind.2, Json.insert,
        if_neg (String.lt_irrefl _), if_pos rfl]
      rfl
  rw [hmembers]
  cases echo <;> rfl

/-- The handler of a 1503 request answers what `resourceRejection` says. -/
theorem dealCreateResourceMsg_rejected
    (hmembers : ∀ id w, svc.getPrivateChatMembers id w = (members id, w))
    (hst : st.rtvalue = []) (payload : List UInt8)
    (h : resourceRejection svc (svc.parse payload) st.userUid members = some r) :
    Answers (dealCreateResourceMsg svc payload) st r.reply idCreateResourceMsgRsp := by
  have hassign : (assignError .success : Handler W Unit) st =
      (.ok (), { st with rtvalue := Rejection.members { code := .success } }) := by
    show (Except.ok (), { st with rtvalue := Json.insert _ _ st.rtvalue }) = _
    rw [hst]
    rfl
  have hid : (getUserId : Handler W Int)
      { st with rtvalue := Rejection.members { code := .success } } =
      (.ok st.userUid, { st with rtvalue := Rejection.members { code := .success } }) := rfl
  unfold Answers dealCreateResourceMsg
  rw [bind_eq_ok hassign, bind_eq_ok hid]
  unfold resourceRejection at h
  split at h
  · rename_i hargs
    obtain rfl := Option.some.inj h
    rw [hargs]
    exact answers_rejectResource rfl _
  rename_i q hargs
  rw [hargs]
  simp only
  split at h
  · rename_i hlong
    obtain rfl := Option.some.inj h
    rw [if_pos hlong]
    exact answers_rejectResource rfl _
  rename_i hlong
  rw [if_neg hlong]
  have hecho : (assign "client_message_id" (.str q.clientMessageId) : Handler W Unit)
      { st with rtvalue := Rejection.members { code := .success } } =
      (.ok (), { st with
        rtvalue := Rejection.members { code := .success, echo := some q.clientMessageId } }) := rfl
  rw [bind_eq_ok hecho]
  split at h
  · rename_i huid
    obtain rfl := Option.some.inj h
    rw [if_pos huid]
    exact answers_rejectResource rfl _
  rename_i huid
  rw [if_neg huid, bind_eq_ok (ask_query (s := { st with
    rtvalue := Rejection.members { code := .success, echo := some q.clientMessageId } })
    (hmembers q.threadId st.world))]
  split at h
  · rename_i hpair
    obtain rfl := Option.some.inj h
    rw [if_pos hpair]
    exact answers_rejectResource rfl _
  rename_i hpair
  rw [if_neg hpair]
  obtain ⟨code, hcode, rfl⟩ := Option.map_eq_some_iff.mp h
  unfold metadataRejection at hcode
  split at hcode
  · rename_i htype
    obtain rfl := Option.some.inj hcode
    rw [if_pos htype]
    exact answers_rejectResource rfl _
  rename_i htype
  rw [if_neg htype]
  split at hcode
  · rename_i hsize
    unfold sizeLimit at hsize
    obtain rfl := Option.some.inj hcode
    rw [if_pos hsize]
    exact answers_rejectResource rfl _
  rename_i hsize
  unfold sizeLimit at hsize
  rw [if_neg hsize]
  split at hcode
  · rename_i hmeta
    obtain rfl := Option.some.inj hcode
    cases hname : sanitizeFileName q.originalFileName with
    | none => exact answers_rejectResource rfl _
    | some fileName =>
      rw [hname] at hmeta
      simp only
      split
      · exact answers_rejectResource rfl _
      · rename_i hsha
        rw [if_pos ((hmeta.resolve_left Bool.false_ne_true).resolve_left hsha)]
        exact answers_rejectResource rfl _
  · cases hcode

theorem handleRequest_rejected (hmembers : ∀ id w, svc.getPrivateChatMembers id w = (members id, w))
    (hst : st.rtvalue = []) (op : OutboxOperation) (payload : List UInt8)
    (h : rejection svc op (svc.parse payload) st.userUid members = some r) :
    Answers (handleRequest svc op payload) st r.reply (rspId op) := by
  cases op with
  | sendText => exact dealChatTextMsg_rejected hmembers hst payload h
  | sendResource => exact dealCreateResourceMsg_rejected hmembers hst payload h

end Handlers

/-! ### What the dispatcher makes of them -/

section Dispatcher

variable {members : Int → Option (Int × Int)} {root : Json} {uid : Int} {r : Rejection}

theorem metadataRejection_code {q : ResourceRequest} {code : ErrorCodes}
    (h : metadataRejection svc root q = some code) :
    code = .resourceInvalid ∨ code = .resourceSizeExceeded := by
  unfold metadataRejection at h
  split at h
  · exact .inl (Option.some.inj h).symm
  split at h
  · exact .inr (Option.some.inj h).symm
  split at h
  · exact .inl (Option.some.inj h).symm
  · cases h

/-- No rejection of a text is a permanent one. -/
theorem textRejection_code (h : textRejection root uid members = some r) :
    r.code = .errorJson ∨ r.code = .createChatFailed := by
  unfold textRejection at h
  split at h
  · exact .inl (Option.some.inj h ▸ rfl)
  split at h
  · exact .inl (Option.some.inj h ▸ rfl)
  split at h
  · exact .inr (Option.some.inj h ▸ rfl)
  split at h
  · exact .inl (Option.some.inj h ▸ rfl)
  · cases h

/-- A rejection of a 1503 request is one of its metadata, with the id, or one of three codes. -/
theorem resourceRejection_cases (h : resourceRejection svc root uid members = some r) :
    (∃ q, dealCreateResourceMsgArgs root = some q ∧ NamesMessage .sendResource root uid members ∧
      r.echo = some q.clientMessageId ∧
      (r.code = .resourceInvalid ∨ r.code = .resourceSizeExceeded)) ∨
    ¬NamesMessage .sendResource root uid members ∧
      (r.code = .errorJson ∨ r.code = .uidInvalid ∨ r.code = .createChatFailed) := by
  unfold resourceRejection at h
  split at h
  · rename_i hargs
    refine .inr ⟨fun ⟨_, q, hq, _⟩ => ?_, .inl (Option.some.inj h ▸ rfl)⟩
    rw [hargs] at hq
    cases hq
  rename_i q hargs
  have honly : NamesMessage .sendResource root uid members → q.clientMessageId ≠ "" ∧
      q.clientMessageId.utf8ByteSize ≤ 64 ∧ 0 < uid ∧ 0 < q.target ∧
      memberPair uid q.target (members q.threadId) = true := fun ⟨_, q', hq, hrest⟩ =>
    Option.some.inj (hargs.symm.trans hq) ▸ hrest
  split at h
  · rename_i hlong
    refine .inr ⟨fun hnames => ?_, .inl (Option.some.inj h ▸ rfl)⟩
    obtain ⟨hne, hle, -⟩ := honly hnames
    exact hlong.elim hne (Nat.not_lt.mpr hle)
  rename_i hlong
  split at h
  · rename_i huid
    refine .inr ⟨fun hnames => ?_, .inr (.inl (Option.some.inj h ▸ rfl))⟩
    obtain ⟨-, -, hpos, htarget, -⟩ := honly hnames
    omega
  rename_i huid
  split at h
  · rename_i hpair
    refine .inr ⟨fun hnames => ?_, .inr (.inr (Option.some.inj h ▸ rfl))⟩
    rw [(honly hnames).2.2.2.2] at hpair
    cases hpair
  rename_i hpair
  obtain ⟨code, hcode, rfl⟩ := Option.map_eq_some_iff.mp h
  rw [not_or] at hlong huid
  exact .inl ⟨q, hargs, ⟨rfl, q, hargs, hlong.1, Nat.not_lt.mp hlong.2, Int.not_le.mp huid.1,
    Int.not_le.mp huid.2, Bool.not_eq_false _ ▸ hpair⟩, rfl, metadataRejection_code hcode⟩

theorem handleTextChatMsgRsp_reply (hcode : r.code ≠ .success) :
    handleTextChatMsgRsp r.reply =
      some { error := r.code.toInt, clientMessageId := r.echo.getD "" } := by
  obtain ⟨code, echo⟩ := r
  cases code <;> first | exact absurd rfl hcode | (cases echo <;> rfl)

theorem handleCreateResourceMsgRsp_reply (hcode : r.code ≠ .success) :
    handleCreateResourceMsgRsp r.reply =
      some { error := r.code.toInt, clientMessageId := r.echo.getD "" } := by
  unfold handleCreateResourceMsgRsp
  rw [handleTextChatMsgRsp_reply hcode]
  rfl

/-- Whether an entry waits to be marked failed. -/
def GivenUp (s : Dispatcher) (key : String) : Prop :=
  (s.find key).map (·.action) = some .markFailed

instance (s : Dispatcher) (key : String) : Decidable (GivenUp s key) :=
  inferInstanceAs (Decidable (_ = _))

theorem givenUp_beginAction {s : Dispatcher} {rt : RuntimeEntry} (cfg : RetryConfig) (env : Env)
    (hrt : s.find rt.key = some rt) : GivenUp (beginAction cfg env id rt .markFailed s) rt.key := by
  have hkey : ∀ x : RuntimeEntry, (x.begin cfg env .markFailed).key = x.key := fun _ => rfl
  show (List.find? (fun x => x.key = rt.key) (Table.update (fun x => x.key = rt.key)
    (fun x => x.begin cfg env .markFailed) s.entries)).map (·.action) = _
  rw [Table.find?_update fun x => by rw [hkey]]
  unfold Dispatcher.find at hrt
  rw [hrt, Option.map_some, Table.updated, if_pos rfl]
  rfl

theorem slotTextMsgRsp_other (cfg : RetryConfig) (env : Env) (key : String) (messageId : Int)
    (createdAt : Option Int) (s : Dispatcher) :
    slotTextMsgRsp cfg env .other key messageId createdAt s = s := by
  unfold slotTextMsgRsp
  split
  · rfl
  · exact ite_self _

theorem slotResourceMsgMetaRsp_other (cfg : RetryConfig) (env : Env) (key : String)
    (messageId : Int) (s : Dispatcher) :
    slotResourceMsgMetaRsp cfg env .other key messageId s = s := by
  unfold slotResourceMsgMetaRsp
  split
  · rfl
  · exact ite_self _

/-- The id that is echoed is the one of the request. -/
theorem stringField_of_args {q : ResourceRequest} (h : dealCreateResourceMsgArgs root = some q) :
    stringField root "client_message_id" = some q.clientMessageId := by
  unfold dealCreateResourceMsgArgs at h
  simp only [Option.bind_eq_bind, Option.bind_eq_some_iff] at h
  obtain ⟨_, _, _, _, _, _, _, _, _, _, _, _, key, hkey, _, _, _, _, _, _, hq⟩ := h
  rw [hkey, ← Option.some.inj hq]

/-- The answer to a request that was turned down starts the marking or does nothing. -/
theorem receive_rejected (cfg : RetryConfig) (env : Env) (zone : Int → Bool) {s : Dispatcher}
    {rt : RuntimeEntry} (hrt : s.find rt.key = some rt) (hidle : rt.action = .none)
    (op : OutboxOperation)
    (hid : ∀ key, stringField root "client_message_id" = some key → key = rt.key)
    (hr : rejection svc op root uid members = some r) :
    NamesMessage op root uid members ∧
        receive cfg env zone op r.reply s = beginAction cfg env id rt .markFailed s ∨
      ¬NamesMessage op root uid members ∧ receive cfg env zone op r.reply s = s := by
  cases op with
  | sendText =>
    refine .inr ⟨fun h => (nomatch h.1), ?_⟩
    have hother : r.code ≠ .success ∧ ReplyError.ofInt r.code.toInt = .other := by
      rcases textRejection_code hr with hcode | hcode <;> rw [hcode] <;> decide
    simp only [receive, handleTextChatMsgRsp_reply hother.1, hother.2]
    exact slotTextMsgRsp_other cfg env _ _ _ s
  | sendResource =>
    rcases resourceRejection_cases hr with ⟨q, hargs, hnames, hecho, hcode⟩ | ⟨hnames, hcode⟩
    · refine .inl ⟨hnames, ?_⟩
      have hkey : q.clientMessageId = rt.key := hid _ (stringField_of_args hargs)
      rcases hcode with hcode | hcode <;>
      · simp only [receive, handleCreateResourceMsgRsp_reply (r := r) (by rw [hcode]; decide),
          hcode, hecho, Option.getD_some, hkey]
        unfold slotResourceMsgMetaRsp
        rw [hrt]
        simp only [hidle]
        rfl
    · refine .inr ⟨hnames, ?_⟩
      have hother : r.code ≠ .success ∧ ReplyError.ofInt r.code.toInt = .other := by
        rcases hcode with hcode | hcode | hcode <;> rw [hcode] <;> decide
      simp only [receive, handleCreateResourceMsgRsp_reply hother.1, hother.2]
      exact slotResourceMsgMetaRsp_other cfg env _ _ s

/-- Of the requests that are turned down for what they say or for the members of their thread, the
dispatcher gives up those that come through to the checks of their metadata.  The answer to any
other leaves the entry as it was, to be sent again. -/
theorem rejected_givenUp_iff (svc : Services W) (members : Int → Option (Int × Int))
    (hmembers : ∀ id w, svc.getPrivateChatMembers id w = (members id, w)) (st : HandlerState W)
    (hst : st.rtvalue = []) (cfg : RetryConfig) (env : Env) (zone : Int → Bool) (s : Dispatcher)
    (rt : RuntimeEntry) (hrt : s.find rt.key = some rt) (hidle : rt.action = .none) (root : Json)
    (hroot : svc.parse (Wire.utf8 rt.entry.payloadJson) = root)
    (hid : ∀ key, stringField root "client_message_id" = some key → key = rt.key) (r : Rejection)
    (hr : rejection svc rt.entry.operationType root st.userUid members = some r) :
    Answers (handleRequest svc rt.entry.operationType (Wire.utf8 rt.entry.payloadJson)) st r.reply
        (rspId rt.entry.operationType) ∧
      (GivenUp (receive cfg env zone rt.entry.operationType r.reply s) rt.key ↔
        NamesMessage rt.entry.operationType root st.userUid members) ∧
      (¬NamesMessage rt.entry.operationType root st.userUid members →
        receive cfg env zone rt.entry.operationType r.reply s = s) := by
  have hquiet : ¬GivenUp s rt.key := fun h => by
    unfold GivenUp at h
    rw [hrt, Option.map_some, hidle] at h
    cases h
  refine ⟨handleRequest_rejected hmembers hst _ _ (hroot ▸ hr), ?_⟩
  rcases receive_rejected cfg env zone hrt hidle _ hid hr with ⟨hnames, hbegun⟩ | ⟨hnames, hsame⟩
  · rw [hbegun]
    exact ⟨⟨fun _ => hnames, fun _ => givenUp_beginAction cfg env hrt⟩, fun h => absurd hnames h⟩
  · rw [hsame]
    exact ⟨⟨fun h => absurd h hquiet, fun h => absurd h hnames⟩, fun _ => rfl⟩

end Dispatcher

/-! ### A picture without a type, and a text to a stranger -/

/-- A server on which thread 7 is the one of the users 1 and 2, and that reads this request. -/
def oneThread (root : Json) : Services Unit :=
  { idleServices Unit fun _ => root with
    getPrivateChatMembers := fun id w => (if id = 7 then some (1, 2) else none, w) }

/-- The dispatcher of user 1 with one message, at this time. -/
def oneMessage (op : OutboxOperation) (stage : ResourceStage) : Dispatcher :=
  { entries := [{ entry := { clientMessageId := "m1", operationType := op, stage := stage,
                             payloadJson := "" } }]
    connected := true, dbReady := true, restored := true, activeUid := 1 }

def atTime (now : Nat) : Env where
  now := now
  fileExists _ := false
  loginGeneration := 0
  fileExists_empty := rfl

/-- The MIME type has no slash. -/
def untypedPicture : Json :=
  .obj [("client_message_id", .str "m1"), ("file_size_bytes", .str "10"), ("message_type", .int 1),
    ("mime_type", .str "png"), ("original_file_name", .str "a.png"),
    ("sha256", .str (String.ofList (List.replicate 64 'a'))), ("target_user_id", .int 2),
    ("thread_id", .str "7")]

theorem rejected_givenUp_untypedPicture :
    GivenUp (receive {} (atTime 0) (fun _ => true) .sendResource
      (Rejection.reply { code := .resourceInvalid, echo := some "m1" })
      (oneMessage .sendResource .metadata)) "m1" := by
  have h := rejected_givenUp_iff (oneThread untypedPicture)
    (fun id => if id = 7 then some (1, 2) else none) (fun _ _ => rfl) ⟨(), 1, [], []⟩ rfl {}
    (atTime 0) (fun _ => true) (oneMessage .sendResource .metadata)
    { entry := ⟨0, "m1", .sendResource, .metadata, ""⟩ } rfl rfl untypedPicture rfl
    (fun key hkey => (Option.some.inj hkey).symm)
    { code := .resourceInvalid, echo := some "m1" } (by decide +kernel)
  refine h.2.1.mpr ⟨rfl, ⟨2, 1, 7, "m1", "a.png", String.ofList (List.replicate 64 'a'), "png"⟩,
    rfl, ?_⟩
  decide +kernel

/-- The thread is not one of the user it is for. -/
def textToStranger : Json :=
  .obj [("client_message_id", .str "m1"), ("target_user_id", .int 3), ("text_content", .str "hi"),
    ("thread_id", .str "7")]

/-- The text is sent and turned down; the answer does not name it, and when the time has come the
text is sent again. -/
theorem rejected_resent_textToStranger :
    (handleRequest (oneThread textToStranger) .sendText [] ⟨(), 1, [], []⟩).2.actions =
        [.send "\x7b\"error\":2012\x7d" idTextChatMsgRsp] ∧
      let sent := dispatchDueEntries {} (atTime 0) (oneMessage .sendText .none)
      let answered := receive {} (atTime 1) (fun _ => true) .sendText
        (Rejection.reply { code := .createChatFailed }) sent
      ¬GivenUp answered "m1" ∧
        (dispatchDueEntries {} (atTime 2000) answered).emitted =
          List.replicate 2 (.textChatMsg 1 ⟨0, "m1", .sendText, .none, ""⟩ true) := by
  decide +kernel

end LlfcChat.Outbox
