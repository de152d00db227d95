/-
The threads of ResourceServer together: the file workers, the download workers
and the cleanup thread, over one disk and one database, with ChatServer as the
other writer of the database.

The unit of interleaving is one operation of one thread.  A `Policy` says which
choices of the environment a run may meet and when the process may die; the
policy `anything` allows all of them.
-/
import LlfcChat.Resource.FileWorker
import LlfcChat.Resource.DownloadWorker
import LlfcChat.Resource.Cleanup

namespace LlfcChat.Resource

/-! ### What happens outside -/

/-- The calls of the other servers' `MysqlDao`, and that of the avatar upload, which is no
part of the workers modelled here. -/
def IsChatCall : Call → Prop
  | .regUser .. | .regUserTransaction .. | .updateHeadInfo .. => True
  | .createPrivateChat .. | .addFriendApply .. | .handleFriendApply .. => True
  | .addChatMsg .. => True
  | .completeResourceUpload .. | .markResourceFailed _ | .markResourceExpired _ => False

/-- A step of somebody else: a transaction of ChatServer, ids that a rolled back
transaction has used up, the clock, a connection that logs in or closes. -/
inductive Outside (w : World) : World → Prop
  | chat (c : Call) (hc : IsChatCall c) (attempt : Nat)
      (faults : Option (List (Txn.Fault SqlError))) :
      Outside w { w with db := (c.turn attempt faults w.db).1 }
  | skipIds (users threads messages requests : Nat) :
      Outside w
        { w with
          db :=
            { w.db with
              nextUserId := w.db.nextUserId + users
              nextThreadId := w.db.nextThreadId + threads
              nextMessageId := w.db.nextMessageId + messages
              nextFriendRequestId := w.db.nextFriendRequestId + requests } }
  | tick (seconds : Nat) : Outside w { w with clock := w.clock + seconds }
  /-- `TrySetAuth`. -/
  | login (session : Nat) (uid : Int) (huid : 0 < uid) (hopen : (w.clients session).isOpen = true)
      (hnew : (w.clients session).userId = 0) :
      Outside w
        { w with
          clients := fun s =>
            if s = session then { w.clients s with userId := uid } else w.clients s }
  | close (session : Nat) :
      Outside w
        { w with
          clients := fun s =>
            if s = session then { w.clients s with isOpen := false } else w.clients s }

/-! ### The server -/

/-- What may happen in a run. -/
structure Policy where
  /-- The environment may decide so about a call. -/
  call : Thread → Op → Choice → World → Prop
  /-- The process may die now. -/
  crash : World → Prop

def anything : Policy := ⟨fun _ _ _ _ => True, fun _ => True⟩

/-- The state of a thread between two tasks. -/
@[reducible] def Local : Thread → Type
  | .fileWorker _ => FileWorker
  | .downloadWorker _ => DownloadWorker
  | .cleanup => Unit

/-- The tasks of a thread: requests are routed by message id. -/
inductive Task (formatDbTime : Int → String) : (t : Thread) → Local t → Prog (Local t) → Prop
  | chunk (i : Fin fileWorkerCount) (fw : FileWorker) (task : ChunkTask)
      (h : resourceWorkerIndex task.messageId fileWorkerCount = i) :
      Task formatDbTime (.fileWorker i) fw (handleResourceChunk task fw)
  | progress (i : Fin fileWorkerCount) (fw : FileWorker) (task : ProgressTask)
      (h : resourceWorkerIndex task.messageId fileWorkerCount = i) :
      Task formatDbTime (.fileWorker i) fw (handleResourceUploadProgress task fw)
  | proof (i : Fin fileWorkerCount) (fw : FileWorker) (task : ProofTask)
      (h : resourceWorkerIndex task.messageId fileWorkerCount = i) :
      Task formatDbTime (.fileWorker i) fw (handleInstantProof task fw)
  | downInfo (i : Fin downLoadWorkerCount) (dw : DownloadWorker) (task : DownInfoTask)
      (h : resourceWorkerIndex task.messageId downLoadWorkerCount = i) :
      Task formatDbTime (.downloadWorker i) dw (handleResourceDownInfo task dw)
  | chunkDown (i : Fin downLoadWorkerCount) (dw : DownloadWorker) (task : ChunkDownTask)
      (h : resourceWorkerIndex task.messageId downLoadWorkerCount = i) :
      Task formatDbTime (.downloadWorker i) dw (handleResourceChunkDown task dw)
  | round (pages : Nat) : Task formatDbTime .cleanup () (runResourceCleanup formatDbTime pages)

/-- ResourceServer.  A restart leaves the disk and the database as they are and
nothing else. -/
@[reducible] def server (sha : List UInt8 → String) (formatDbTime : Int → String) (P : Policy) :
    Conc.System Op Res World Thread where
  Local := Local
  sem t op w r w' := ∃ c, P.call t op c w ∧ exec sha t op c w = some (r, w')
  task := Task formatDbTime
  env := Outside
  restart w w' := P.crash w ∧ w' = { w with mutex := none }
  fresh
    | .fileWorker _ => {}
    | .downloadWorker _ => {}
    | .cleanup => ()

/-- A run from the empty disk and the empty tables. -/
abbrev Run (sha : List UInt8 → String) (formatDbTime : Int → String) (P : Policy)
    (c : Conc.Config (server sha formatDbTime P)) : Prop :=
  Conc.Steps _ ((server sha formatDbTime P).boot {}) c

/-! ### Steps of a run -/

variable {sha : List UInt8 → String} {formatDbTime : Int → String} {P : Policy}
  {c : Conc.Config (server sha formatDbTime P)}

theorem Run.outside (h : Run sha formatDbTime P c) {w : World} (hw : Outside c.world w) :
    Run sha formatDbTime P ⟨w, c.prog⟩ := h.tail (.env w hw)

/-- Calls of ChatServer that nothing disturbs. -/
theorem Run.chat (h : Run sha formatDbTime P c) (calls : List Call)
    (hcalls : ∀ call ∈ calls, IsChatCall call) :
    Run sha formatDbTime P
      ⟨{ c.world with
          db := calls.foldl (fun db call => (call.turn 0 (some []) db).1) c.world.db },
        c.prog⟩ := by
  induction calls generalizing c with
  | nil => exact h
  | cons call calls ih =>
    have hstep := h.outside (.chat call (hcalls call List.mem_cons_self) 0 (some []))
    exact ih hstep fun call' hmem => hcalls call' (List.mem_cons_of_mem _ hmem)

/-- A task that runs to its end while the other threads wait.  `choose` picks
the choices of the environment. -/
theorem steps_serve {c : Conc.Config (server sha formatDbTime P)} {t : Thread} {a : Local t}
    (hrest : c.prog t = .pure a) {p : Prog (Local t)} (hp : Task formatDbTime t a p)
    {choose : Op → Choice} (hP : ∀ op w, P.call t op (choose op) w) {b : Local t} {w : World}
    (hrun : p.runAll (fun op w => exec sha t op (choose op) w) c.world = some (b, w)) :
    Conc.Steps (server sha formatDbTime P) c ⟨w, Function.update c.prog t (.pure b)⟩ := by
  have hsteps := Conc.steps_of_runAll (S := server sha formatDbTime P)
    (fun op w _ _ he => ⟨_, hP op w, he⟩) hrun (Function.update_self t p c.prog)
  rw [Function.update_idem] at hsteps
  exact .head (.start t a p hrest hp) hsteps

/-! ### A small installation -/

/-- A digest without collisions: the bytes in hexadecimal, with a mark at their
end and padded to 64 digits. -/
def paddedHex (data : List UInt8) : String :=
  String.ofList (data.flatMap (fun b =>
    [Json.hexDigit (b.toNat / 16), Json.hexDigit (b.toNat % 16)]) ++
    'f' :: List.replicate (63 - 2 * data.length) '0')

theorem hexDigit_inj {a b : Nat} (ha : a < 16) (hb : b < 16)
    (h : Json.hexDigit a = Json.hexDigit b) : a = b := by
  have hall : ∀ a b : Fin 16, Json.hexDigit a = Json.hexDigit b → a = b := by decide
  exact congrArg Fin.val (hall ⟨a, ha⟩ ⟨b, hb⟩ h)

theorem hexDigits_inj {data data' : List UInt8}
    (h : data.flatMap (fun b => [Json.hexDigit (b.toNat / 16), Json.hexDigit (b.toNat % 16)]) =
      data'.flatMap (fun b => [Json.hexDigit (b.toNat / 16), Json.hexDigit (b.toNat % 16)])) :
    data = data' := by
  induction data generalizing data' with
  | nil =>
    cases data' with
    | nil => rfl
    | cons b data' => simp at h
  | cons a data ih =>
    cases data' with
    | nil => simp at h
    | cons b data' =>
      simp only [List.flatMap_cons, List.cons_append, List.nil_append, List.cons.injEq] at h
      obtain ⟨hhigh, hlow, hrest⟩ := h
      have ha := a.toNat_lt
      have hb := b.toNat_lt
      have h1 := hexDigit_inj (by omega) (by omega) hhigh
      have h2 := hexDigit_inj (by omega) (by omega) hlow
      have hab : a = b := UInt8.toNat_inj.mp (by omega)
      rw [hab, ih hrest]

/-- The mark is the last digit that is not a zero. -/
theorem before_mark {x y : List Char} {k l : Nat}
    (h : x ++ 'f' :: List.replicate k '0' = y ++ 'f' :: List.replicate l '0') : x = y := by
  have hdrop : ∀ (z : List Char) (n : Nat),
      ((z ++ 'f' :: List.replicate n '0').reverse.dropWhile (· == '0')) = 'f' :: z.reverse := by
    intro z n
    rw [List.reverse_append]
    induction n with
    | zero => rfl
    | succ n ih => simp [List.replicate_succ]
  have he := (hdrop x k).symm.trans ((congrArg (fun l => l.reverse.dropWhile (· == '0')) h).trans
    (hdrop y l))
  simpa using he

theorem paddedHex_injective : Function.Injective paddedHex := by
  intro data data' h
  exact hexDigits_inj (before_mark (String.ofList_injective h))

/-- Two users, their chat, and a file of three bytes that the first one is about
to upload. -/
def fileAnnounced : List Call :=
  [.regUser "ann" "ann@mail", .regUser "bob" "bob@mail", .createPrivateChat 1 2,
    .addChatMsg .dealCreateResourceMsg 2
      { threadId := 1
        senderUserId := 1
        clientMessageId := "k1"
        messageType := chatMsgFile
        createdAt := "2026-08-30 12:00:00"
        resource := some
          { originalFileName := "a.txt"
            fileSizeBytes := 3
            sha256 := paddedHex [1, 2, 3]
            mimeType := "text/plain" } }]

@[irreducible] def announcedDb : Db :=
  fileAnnounced.foldl (fun db call => (call.turn 0 (some []) db).1) .empty

/-- The state then, with the first user logged in on connection 1. -/
def beforeUpload : World :=
  { db := announcedDb
    clients := fun s => if s = 1 then { userId := 1 } else {} }

theorem run_beforeUpload (formatDbTime : Int → String) (P : Policy) :
    Run paddedHex formatDbTime P ((server paddedHex formatDbTime P).boot beforeUpload) := by
  have hchat := Run.chat (c := (server paddedHex formatDbTime P).boot {}) .refl fileAnnounced
    (by simp [fileAnnounced, IsChatCall])
  have hdb : fileAnnounced.foldl (fun db call => (call.turn 0 (some []) db).1) .empty =
      announcedDb := by rw [announcedDb]
  change Run paddedHex formatDbTime P ⟨{ db := fileAnnounced.foldl _ .empty }, _⟩ at hchat
  rw [hdb] at hchat
  exact hchat.outside (.login 1 1 (by decide) rfl rfl)

/-- The worker of the file, and the task with its only chunk. -/
def uploader : Thread := .fileWorker ⟨1, by decide⟩

def onlyChunk : ChunkTask := ⟨1, 1, 0, paddedHex [1, 2, 3], [1, 2, 3]⟩

/-- The upload of that chunk. -/
theorem run_onlyChunk (formatDbTime : Int → String) (P : Policy) {choose : Op → Choice}
    (hP : ∀ op w, P.call uploader op (choose op) w) {fw : FileWorker} {w : World}
    (hrun : (handleResourceChunk onlyChunk {}).runAll
      (fun op w => exec paddedHex uploader op (choose op) w) beforeUpload = some (fw, w)) :
    Run paddedHex formatDbTime P ⟨w, Function.update
      ((server paddedHex formatDbTime P).boot beforeUpload).prog uploader (.pure fw)⟩ :=
  (run_beforeUpload formatDbTime P).trans (steps_serve (t := uploader) rfl
    (.chunk ⟨1, by decide⟩ {} onlyChunk rfl) hP hrun)

end LlfcChat.Resource
