/-
The outbox of the client: the dispatcher together with the local store and the
servers that answer it.

The worker of the local store takes its requests in their order and its results
reach the dispatcher in that order, and nobody else writes the rows; so a
request may be taken to be carried out at the moment its result is delivered.
A transaction may fail, and a result may never come.  A reply of the server to a
message that was never sent does not exist; apart from that replies come at any
time, any number of times, also those of an earlier login or of another user.
Client ids are UUIDs: no two messages of any users share one.
-/
import LlfcChat.Client.OutboxDispatcher

namespace LlfcChat.Outbox

/-! ### The rows -/

/-- What the databases hold of a message of one's own: the row of `messages` with
its resource, and its row of `outbox`, which `queued` says is still there. -/
structure Row where
  uid : Int
  entry : OutboxEntryDTO
  queued : Bool := true
  messageId : Int := 0
  resource : LocalMessageResourceDTO := {}
  status : SendStatus := .sending

def Row.key (r : Row) : String := r.entry.clientMessageId

structure System where
  disp : Dispatcher := {}
  rows : List Row := []

namespace System

/-- The row of a message in the database that is open. -/
def row (s : System) (key : String) : Option Row :=
  if s.disp.dbReady then s.rows.find? fun r => r.key = key ∧ r.uid = s.disp.activeUid else none

/-- `loadOutbox`, in the order of the operations. -/
def outbox (s : System) : List OutboxEntryDTO :=
  (s.rows.filter fun r => r.uid = s.disp.activeUid ∧ r.queued = true).map (·.entry)

def update (s : System) (key : String) (f : Row → Row) : System :=
  { s with rows := Table.update (fun r => r.key = key ∧ r.uid = s.disp.activeUid) f s.rows }

def run_ (s : System) (slot : Dispatcher → Dispatcher) : System := { s with disp := slot s.disp }

end System

/-- The message as a transaction reports it. -/
def Row.dto (r : Row) : LocalMessageDTO := { messageId := r.messageId, clientMessageId := r.key }

/-! ### Events -/

inductive Event
  | start
  | scanTimeout
  | connectionClosed
  | resourceLoginSuccess
  | resourceConnectionClosed
  /-- `slot_open_user_db` -/
  | dbOpened (ok : Bool) (uid : Int)
  | dbClosed
  /-- `slot_enqueue_send` with the id of the new row -/
  | enqueueSend (operationId : Int) (key : String) (operationType : OutboxOperation)
      (payloadJson : String) (resource : LocalMessageResourceDTO) (ok : Bool)
  | textMsgRsp (error : ReplyError) (key : String) (messageId : Int) (createdAt : Option Int)
  | resourceMsgMetaRsp (error : ReplyError) (key : String) (messageId : Int)
  | transferFinished (snapshot : TransferSnapshot)
  /-- The worker carries out a request that was handed to it. -/
  | request (r : Request) (ok : Bool)
  | archived (messageId ownerUid : Int) (generation : Nat) (path : String)
  | restart

/-- A 1301 with this message that was transmitted. -/
def Request.isText (key : String) : Request → Bool
  | .textChatMsg _ e true => e.clientMessageId = key
  | _ => false

/-- A 1503 with this message. -/
def Request.isResource (key : String) : Request → Bool
  | .createResourceMsg _ e => e.clientMessageId = key
  | _ => false

variable (cfg : RetryConfig)

/-- The row that `enqueueSend` writes. -/
def newEntry (operationId : Int) (key : String) (operationType : OutboxOperation)
    (payloadJson : String) : OutboxEntryDTO :=
  { operationId := operationId
    clientMessageId := key
    operationType := operationType
    stage := if operationType = .sendResource then .metadata else .none
    payloadJson := payloadJson }

/-- The rows admit a new one: its client id is new and its id the next. -/
def System.Admits (s : System) (operationId : Int) (key : String)
    (operationType : OutboxOperation) (resource : LocalMessageResourceDTO) : Prop :=
  s.disp.dbReady = true ∧ key ≠ "" ∧ (∀ r ∈ s.rows, r.key ≠ key) ∧
    (∀ r ∈ s.rows, r.uid = s.disp.activeUid → r.entry.operationId < operationId) ∧
    (operationType = .sendResource → 0 < resource.localMessageId)

instance (s : System) (operationId : Int) (key : String) (operationType : OutboxOperation)
    (resource : LocalMessageResourceDTO) :
    Decidable (s.Admits operationId key operationType resource) :=
  inferInstanceAs (Decidable (_ ∧ _ ∧ _ ∧ _ ∧ _))

/-- A transaction on the row of one message: it commits if the row meets its
condition, and the slot gets the message as it is then. -/
def System.transact (s : System) (key : String) (ok : Bool) (p : Row → Bool) (f : Row → Row)
    (slot : Bool → LocalMessageDTO → Dispatcher → Dispatcher) : System :=
  match s.row key with
  | some r =>
    if ok && p r then { s.update key f with disp := slot true (f r).dto s.disp }
    else s.run_ (slot false {})
  | none => s.run_ (slot false {})

/-- The worker carries out a request of the dispatcher. -/
def System.carryOut (s : System) (env : Env) (ok : Bool) : Request → System
  | .confirmTextSent key messageId _ =>
    s.transact key ok (fun r => 0 < messageId && r.entry.operationType = .sendText)
      (fun r => { r with messageId := messageId, status := .sent, queued := false })
      slotSendConfirmed
  | .confirmResourceSent key path =>
    s.transact key ok
      (fun r => path ≠ "" && r.entry.operationType = .sendResource && 0 < r.messageId)
      (fun r =>
        { r with
          resource := { r.resource with localFilePath := path }
          status := .sent
          queued := false })
      slotResourceConfirmed
  | .markSendFailed key =>
    s.transact key ok (fun _ => true) (fun r => { r with status := .failed, queued := false })
      slotSendFailedMarked
  | .updateResourceStage key messageId =>
    s.transact key ok
      (fun r => 0 < messageId && r.queued && r.entry.operationType = .sendResource)
      (fun r => { r with messageId := messageId, entry := { r.entry with stage := .uploading } })
      slotResourceStageUpdated
  | .getMessageByClientId key =>
    match s.row key with
    | some r =>
      if ok then s.run_ (slotMessageLoaded cfg env true r.dto r.resource)
      else s.run_ (slotMessageLoaded cfg env false {} {})
    | none => s.run_ (slotMessageLoaded cfg env false {} {})
  | .loadOutbox =>
    if ok ∧ s.disp.dbReady = true then
      s.run_ (slotOutboxLoaded cfg env true (if cfg.loadsFirst then s.outbox else []))
    else s.run_ (slotOutboxLoaded cfg env false [])
  | .updateResourceLocalPath messageId path ownerUid =>
    if ok ∧ s.disp.dbReady = true ∧ s.disp.activeUid = ownerUid ∧ path ≠ "" then
      { s with
        rows := Table.update (fun r => r.messageId = messageId ∧ r.uid = ownerUid)
          (fun r => { r with resource := { r.resource with localFilePath := path } }) s.rows }
    else s
  | .textChatMsg .. | .createResourceMsg .. | .postStartUpload .. | .archive .. => s

def step (s : System) (e : Env × Event) : System :=
  match e.2 with
  | .start => s.run_ (slotStart cfg e.1)
  | .scanTimeout => s.run_ (slotScanTimeout cfg e.1)
  | .connectionClosed => s.run_ fun d => { d with connected := false }
  | .resourceLoginSuccess => s.run_ fun d => resumeUploadingEntries { d with resourceReady := true }
  | .resourceConnectionClosed => s.run_ fun d => { d with resourceReady := false }
  | .dbOpened ok uid => s.run_ (slotDbOpened e.1 ok uid)
  | .dbClosed => s.run_ slotDbClosed
  | .enqueueSend operationId key operationType payloadJson resource ok =>
    if ok = true ∧ s.Admits operationId key operationType resource then
      { s with
        rows := s.rows ++ [{ uid := s.disp.activeUid
                             entry := newEntry operationId key operationType payloadJson
                             resource := resource }]
        disp := slotSendEnqueued cfg e.1 true resource
          (newEntry operationId key operationType payloadJson) s.disp }
    else s
  | .textMsgRsp error key messageId createdAt =>
    if s.disp.emitted.any (·.isText key) then
      s.run_ (slotTextMsgRsp cfg e.1 error key messageId createdAt)
    else s
  | .resourceMsgMetaRsp error key messageId =>
    if s.disp.emitted.any (·.isResource key) then
      s.run_ (slotResourceMsgMetaRsp cfg e.1 error key messageId)
    else s
  | .transferFinished snapshot => s.run_ (slotTransferFinished cfg e.1 snapshot)
  | .request r ok => if r ∈ s.disp.emitted then s.carryOut cfg e.1 ok r else s
  | .archived messageId ownerUid generation path =>
    s.run_ (finishArchive messageId ownerUid generation path)
  | .restart => { s with disp := { emitted := s.disp.emitted } }

def run (s : System) (es : List (Env × Event)) : System := es.foldl (step cfg) s

/-- A step that is refused changes nothing. -/
theorem of_ite {R : List Row → Dispatcher → Prop} {c : Prop} [Decidable c] {s s' : System}
    (h : c → R s'.rows s'.disp) (hs : R s.rows s.disp) :
    R (if c then s' else s).rows (if c then s' else s).disp := by
  split
  · exact h ‹c›
  · exact hs

end LlfcChat.Outbox
