/-
The three upload handlers and the challenge.

A chunk of the sender ends the challenge for good, so nothing that happens later
in the chunk handler matters: all sessions it can leave are muffled.  The
progress query issues a challenge only in a session that is not, and the proof
uses it up before anything is compared.
-/
import LlfcChat.Resource.Challenge

namespace LlfcChat.Resource.Challenge

open Conc Conc.Rules FileSystem
open Conc.Prog hiding pure bind
open Upload (Owns Elsewhere elsewhere_evictIdle)

variable {sha : List UInt8 → String} {fmt : Int → String} {t : Thread} {m : Int}
  {w : Recorded World} {s : UploadSession} {fw fw₀ : FileWorker} {J l : List Event} {e : Event}

/-! ### The chunk handler -/

/-- Only muffled sessions of this user are left. -/
def MuffledTable (m uid : Int) (fw₀ fw : FileWorker) : Prop :=
  Elsewhere m fw₀ fw ∧ ∀ s, fw.uploadSessions m = some s → Muffled s ∧ s.senderUserId = uid

variable {uid : Int}

theorem muffledTable_put (h : Elsewhere m fw₀ fw) (hs : Muffled s)
    (huid : s.senderUserId = uid) : MuffledTable m uid fw₀ (fw.put m s) := by
  refine ⟨h.put s, fun s' hs' => ?_⟩
  obtain rfl : s = s' := Option.some.inj ((if_pos rfl).symm.trans hs')
  exact ⟨hs, huid⟩

theorem MuffledTable.erase (h : MuffledTable m uid fw₀ fw) :
    MuffledTable m uid fw₀ (fw.erase m) := by
  refine ⟨h.1.erase, fun s hs => ?_⟩
  have hnone : (fw.erase m).uploadSessions m = none := if_pos rfl
  rw [hnone] at hs
  cases hs

theorem MuffledTable.sessions {w : World} (h : MuffledTable m uid fw₀ fw) (hs : Sender m uid w) :
    Sessions m J fw w := by
  intro s hm
  obtain ⟨hmuffled, rfl⟩ := h.2 s hm
  exact hmuffled.sessionOk hs

/-- Nothing about the challenge is different. -/
def Alike (s s' : UploadSession) : Prop :=
  (Muffled s → Muffled s') ∧ s'.senderUserId = s.senderUserId

theorem wholeHash_returns (part : Path) (s : UploadSession) :
    (wholeHash part s).Returns fun r => Alike s r.2 := by
  refine returns_ite (fun _ => returns_pure ⟨id, rfl⟩) fun _ => ?_
  refine returns_skip (fun r => ?_)
  refine returns_ite (fun _ => returns_pure ⟨id, rfl⟩) fun _ => ?_
  exact returns_skip (fun hex => returns_pure ⟨id, rfl⟩)

theorem advanceHash_returns (s : UploadSession) (offset : Nat) (data : List UInt8) :
    (advanceHash s offset data).Returns (Alike s) := by
  refine returns_ite (fun _ => ?_) fun _ => returns_pure ⟨id, rfl⟩
  exact returns_skip (fun r => returns_pure ⟨id, rfl⟩)

theorem retryLater_returns {task : ChunkTask} {error : ErrorCode}
    (h : MuffledTable task.messageId uid fw₀ fw) :
    (retryLater task s error fw).Returns (MuffledTable task.messageId uid fw₀) := by
  have hrestore : (restorePart s task.messageId fw).Returns fun r =>
      MuffledTable task.messageId uid fw₀ r.2 := by
    refine returns_skip (fun _ => returns_ite (fun _ => h) fun _ => ?_)
    refine returns_skip (fun _ => returns_ite (fun _ => h) fun _ => ?_)
    exact returns_skip (fun _ => returns_pure h.erase)
  refine returns_bind (hrestore.mono fun r hr => ?_)
  exact returns_skip (fun _ => hr)

/-- How a critical section ends. -/
def SectionMuffled (m uid : Int) (fw₀ : FileWorker) (out : PublishOutcome) : Prop :=
  ∀ fw, out = .replied fw → MuffledTable m uid fw₀ fw

theorem sectionMuffled_replied (h : MuffledTable m uid fw₀ fw) :
    SectionMuffled m uid fw₀ (.replied fw) := by
  intro fw' e
  cases e
  exact h

variable {msg : ChatMessage} {q : MessageResource}

theorem sectionMuffled_published {seq : Nat} : SectionMuffled m uid fw₀ (.published msg seq) := by
  intro fw' e
  cases e

theorem retry_returns {task : ChunkTask} {error : ErrorCode}
    (h : MuffledTable task.messageId uid fw₀ fw) :
    (do return .replied (← retryLater task s error fw) : Prog PublishOutcome).Returns
      (SectionMuffled task.messageId uid fw₀) :=
  returns_bind ((retryLater_returns h).mono fun _ hfw => sectionMuffled_replied hfw)

theorem publishCanonical_returns {task : ChunkTask} (h : MuffledTable task.messageId uid fw₀ fw) :
    (publishCanonical task s fw).Returns (SectionMuffled task.messageId uid fw₀) := by
  refine returns_skip (fun found => ?_)
  cases found with
  | notFound => exact returns_skip fun _ => sectionMuffled_replied h.erase
  | transient => exact retry_returns h
  | found msg =>
    refine returns_skip (fun r => ?_)
    obtain ⟨r, seq⟩ := r
    cases r with
    | published | alreadyPublished => exact sectionMuffled_published
    | notPending | notFound => exact returns_skip fun _ => sectionMuffled_replied h.erase
    | transient => exact retry_returns h

theorem installAndPublish_returns {task : ChunkTask} (h : MuffledTable task.messageId uid fw₀ fw) :
    (installAndPublish task s fw).Returns (SectionMuffled task.messageId uid fw₀) := by
  refine returns_skip (fun _ => returns_ite (fun _ => ?_) fun _ => retry_returns h)
  refine returns_skip (fun r => ?_)
  obtain ⟨renamed, existed⟩ := r
  cases renamed with
  | false => exact retry_returns h
  | true =>
    cases existed with
    | false => exact publishCanonical_returns h
    | true =>
      refine returns_skip (fun _ =>
        returns_ite (fun _ => ?_) fun _ => retry_returns h)
      exact returns_skip (fun _ => publishCanonical_returns h)

theorem wholeHashMismatch_returns {task : ChunkTask}
    (h : MuffledTable task.messageId uid fw₀ fw) (hs : Muffled s) (huid : s.senderUserId = uid) :
    (wholeHashMismatch task s fw).Returns (MuffledTable task.messageId uid fw₀) := by
  refine returns_ite (fun _ => ?_) fun _ => ?_
  · refine returns_skip (fun _ => returns_ite (fun _ => ?_) fun _ => ?_)
    · exact returns_skip (fun _ =>
        returns_skip (fun _ => h.erase))
    · exact returns_skip (fun _ => muffledTable_put h.1 hs huid)
  · refine returns_skip (fun r => ?_)
    cases r <;> exact returns_skip (fun _ => muffledTable_put h.1 hs huid)

/-- An upload that is completed leaves no challenge. -/
theorem completeResourceUpload_returns {task : ChunkTask}
    (h : MuffledTable task.messageId uid fw₀ fw) (hs : Muffled s) (huid : s.senderUserId = uid) :
    (completeResourceUpload task s fw).Returns (MuffledTable task.messageId uid fw₀) := by
  refine returns_bind ((wholeHash_returns _ s).mono fun r hr => ?_)
  obtain ⟨fullHash, s'⟩ := r
  have hs' : Muffled s' := hr.1 hs
  have huid' : s'.senderUserId = uid := hr.2.trans huid
  have hput := muffledTable_put h.1 hs' huid'
  refine returns_ite (fun _ => ?_) fun _ => returns_ite (fun _ => ?_) fun _ => ?_
  · exact returns_skip (fun _ => hput)
  · exact wholeHashMismatch_returns hput hs' huid'
  · refine returns_skip (fun _ => returns_ite (fun _ => ?_) fun _ => ?_)
    · refine returns_skip (fun _ =>
        returns_bind ((installAndPublish_returns hput).mono fun out hout =>
          returns_skip (fun _ => ?_)))
      cases out with
      | replied fw' => exact hout fw' rfl
      | published msg seq =>
        exact returns_skip (fun _ =>
          returns_skip (fun _ => hput.erase))
    · exact returns_skip (fun _ => hput)

/-- A handler of `m` that ends well. -/
abbrev Handles (sha : List UInt8 → String) (fmt : Int → String) (t : Thread) (m : Int)
    (fw₀ : FileWorker) (p : Prog FileWorker) (w : Recorded World) : Prop :=
  (messageRules sha fmt t m).Safe (Ends m fw₀) p w

theorem safe_receiveChunk {task : ChunkTask} (hfw : Elsewhere task.messageId fw₀ fw)
    (h : At task.messageId J (fun w => Sender task.messageId s.senderUserId w.now) w) :
    Handles sha fmt t task.messageId fw₀ (receiveChunk task s fw) w := by
  have hP : Lasting fun w => Sender task.messageId s.senderUserId w.now :=
    lasting_db (dbFact_sender _ _)
  refine safe_next (quiet_files (writeUploadChunk_files _ _ _ _ _ _ _))
    (stable_at hP) h fun r w hw => ?_
  obtain ⟨error, received⟩ := r
  refine safe_ite (fun _ => safe_sent (hfw.put _)
    ⟨hw.1, sessions_put (Muffled.sessionOk ⟨rfl, rfl⟩ hw.2)⟩) fun _ => ?_
  refine (safe_casual hP (e := .chunkAccepted task.offset task.fileData) hw
    trivial).bind fun _ w hw => ?_
  refine safe_then (quiet_files (calls_files (advanceHash_observes _ _ _)))
    (advanceHash_returns _ _ _) (stable_at hP) hw fun s' w hs' hw => ?_
  have hmuffled : Muffled { s' with received := received } := hs'.1 ⟨rfl, rfl⟩
  have hput := muffledTable_put hfw hmuffled hs'.2
  refine safe_ite (fun _ => ?_) fun _ => safe_sent hput.1 ⟨hw.1, hput.sessions hw.2⟩
  -- the publication is licensed by the chunk that was just noted
  have hkeeps : ∀ {op : Op}, Plain op ∨ op = .unlock →
      (messageRules sha fmt t task.messageId).Keeps (At task.messageId
        (J ++ [.chunkAccepted task.offset task.fileData])
        fun w => Sender task.messageId s.senderUserId w.now) op := by
    rintro op (hop | rfl)
    · exact keeps_at hP hop.ne_note fun _ _ => callOk_of_plain hop
    · exact keeps_at hP nofun fun _ _ => trivial
  refine (safe_of_keeps (completeResourceUpload_calls
    (fun _ hop => hkeeps (.inl (Op.Files.plain hop))) (fun _ _ => hkeeps (.inl trivial))
    (fun _ _ => keeps_at hP nofun fun w hw => .inl ⟨_, _, _, hw.1⟩)
    (hkeeps (.inl trivial)) (hkeeps (.inr rfl)) (fun _ => hkeeps (.inl trivial))
    (hkeeps (.inl rfl))) (completeResourceUpload_returns hput hmuffled hs'.2) (stable_at hP)
    hw).mono fun fw' w hw => ?_
  exact ⟨hw.1.1, hw.1.sessions hw.2.2⟩

theorem sessions_of_some {w : World} (hs : fw.uploadSessions m = some s) (h : SessionOk m J s w) :
    Sessions m J fw w := by
  intro s' hs'
  obtain rfl : s = s' := Option.some.inj (hs.symm.trans hs')
  exact h

/-- A request of another user leaves the session as it is. -/
theorem safe_uploadChunk {task : ChunkTask} (hfw : Elsewhere task.messageId fw₀ fw)
    (hs : fw.uploadSessions task.messageId = some s)
    (h : At task.messageId J (fun w => Sender task.messageId s.senderUserId w.now ∧
      (uid = 0 ∨ uid ≠ s.senderUserId → SessionOk task.messageId J s w.now)) w) :
    Handles sha fmt t task.messageId fw₀ (uploadChunk task uid s fw) w := by
  refine safe_ite (fun hforeign => ?_) fun _ => safe_receiveChunk hfw ⟨h.1, h.2.1⟩
  exact safe_sent hfw
    ⟨h.1, sessions_of_some hs (h.2.2 hforeign)⟩

/-- What a row that was read tells. -/
def ReadMessage (m : Int) (msg : ChatMessage) (w : World) : Prop :=
  Sender m msg.senderUserId w ∧ ∀ q, msg.resource = some q →
    ∃ r, w.db.messageResource m = some r ∧ r.sha256 = q.sha256 ∧
      r.fileSizeBytes = q.fileSizeBytes

theorem dbFact_readMessage (m : Int) (msg : ChatMessage) : DbFact (ReadMessage m msg) := by
  intro w w' hc h
  refine ⟨dbFact_sender _ _ w w' hc h.1, fun q hq => ?_⟩
  obtain ⟨r, hr, hsha, hsize⟩ := h.2 q hq
  exact ⟨r, hc.keepsResource hr, hsha, hsize⟩

theorem readMessage_of_resourceMessage {w : World} (h : w.db.resourceMessage m = some msg) :
    ReadMessage m msg w := by
  obtain ⟨row, pc, r, hrow, -, hr, -, hsender, -, -, -, hres, -⟩ := resourceMessage_eq_some h
  obtain ⟨hmem, hid⟩ := chatMessage_mem hrow
  refine ⟨⟨row, hmem, hid, hsender.symm⟩, fun q hq => ?_⟩
  obtain rfl := Option.some.inj (hq.symm.trans hres)
  exact ⟨r, hr, rfl, rfl⟩

/-- A call that only looks. -/
theorem safe_look {op : Op} {P : Recorded World → Prop} {Q : Res op → Recorded World → Prop}
    (hop : op.Observes) (hP : (messageRules sha fmt t m).Stable P) (hw : P w)
    (hQ : ∀ r, (messageRules sha fmt t m).Stable (Q r))
    (hpost : ∀ c w r w', P w → (messageRules sha fmt t m).inv w →
      (messageRules sha fmt t m).rely w w' → exec sha t op c w.now = some (r, w'.now) → Q r w') :
    (messageRules sha fmt t m).Safe (fun r w => P w ∧ Q r w) (call op) w := by
  refine safe_perform hP hw (fun r => hP.and (hQ r)) fun w r w' hw hinv hs => ?_
  obtain ⟨hg, hinv', hr⟩ := quiet_of_plain (Op.Files.plain hop.files) w r w' hinv hs
  obtain ⟨⟨⟨c, -, he⟩, -⟩, -⟩ := hs
  exact ⟨hg, hinv', hP w w' hw hr hinv', hpost c w r w' hw hinv hr he⟩

section Handlers

variable {P : Recorded World → Prop} (hP : Lasting P)
include hP

/-- The lookup of the message. -/
theorem safe_getChatMsgById (h : At m J P w) :
    (messageRules sha fmt t m).Safe
      (fun r w => At m J P w ∧ ∀ msg, r = .found msg → ReadMessage m msg w.now)
      (call (.getChatMsgById m)) w := by
  refine safe_look trivial (stable_at hP) h (fun _ => stable_forall fun msg => stable_imp
    fun w w' hw hr _ => dbFact_readMessage m msg w.now w'.now hr.1.db hw)
    fun c w r w' _ _ _ he msg e => ?_
  obtain ⟨hr, hnow⟩ := exec_getChatMsgById he
  exact hnow ▸ readMessage_of_resourceMessage (hr msg e)

/-- A session that was made anew. -/
theorem safe_loadUploadSession {msg : ChatMessage} {β : Type} {Q : β → Recorded World → Prop}
    {f : Option UploadSession × FileWorker → Prog β} (h : At m J P w)
    (hread : ∀ w, At m J P w → ReadMessage m msg w.now)
    (hnone : ∀ w, At m J P w → (messageRules sha fmt t m).Safe Q (f (none, fw)) w)
    (hsome : ∀ s w, s.challengeActive = false → s.senderUserId = msg.senderUserId →
      At m (J ++ [.sessionLoaded]) (fun w => P w ∧ SessionOk m (J ++ [.sessionLoaded]) s w.now) w →
      (messageRules sha fmt t m).Safe Q (f (some s, fw.put m s)) w) :
    (messageRules sha fmt t m).Safe Q (fw.loadUploadSession m msg >>= f) w := by
  unfold FileWorker.loadUploadSession
  cases hres : msg.resource with
  | none => exact hnone w h
  | some q =>
    refine safe_bind (safe_next (quiet_files (recoverUploadFile_files _ _ _))
      (stable_at hP) h fun r w hw => ?_)
    cases r with
    | none => exact safe_pure stable_safe (hnone w hw)
    | some received =>
      refine safe_next (quiet_call trivial) (stable_at hP) hw fun now w hw => ?_
      have hsender : Lasting fun w => P w ∧ Sender m msg.senderUserId w.now :=
        hP.and (lasting_db (dbFact_sender _ _))
      refine (safe_casual hsender (e := .sessionLoaded) ⟨hw.1, hw.2, (hread w hw).1⟩
        trivial).bind fun _ w hw => safe_pure stable_safe (hsome _ w rfl rfl ⟨hw.1, hw.2.1, ?_⟩)
      exact ⟨hw.2.2, fun _ => ⟨J, [], rfl, nofun⟩, nofun⟩

end Handlers

/-- The table is right, whatever else is known. -/
theorem lasting_sessions (m : Int) (J : List Event) (fw : FileWorker) :
    Lasting fun w => Sessions m J fw w.now := lasting_db (dbFact_sessions m J fw)

theorem sessions_of_none {w : World} (h : fw.uploadSessions m = none) : Sessions m J fw w := by
  intro s hs
  rw [h] at hs
  cases hs

theorem safe_reloadForChunk {task : ChunkTask} (hfw : Elsewhere task.messageId fw₀ fw)
    (hnone : fw.uploadSessions task.messageId = none)
    (hJ : w.now.journal task.messageId = J) :
    Handles sha fmt t task.messageId fw₀ (reloadForChunk task uid fw) w := by
  have htrue : Lasting fun _ => True := fun _ _ _ => id
  refine (safe_getChatMsgById htrue ⟨hJ, trivial⟩).bind fun found w hw => ?_
  obtain ⟨⟨hJ, -⟩, hfound⟩ := hw
  cases found with
  | notFound | transient => exact safe_sent hfw ⟨hJ, sessions_of_none hnone⟩
  | found msg =>
    have hread := hfound msg rfl
    refine safe_ite (fun _ => safe_sent hfw ⟨hJ, sessions_of_none hnone⟩) fun hsender =>
      safe_ite (fun _ => safe_sent hfw ⟨hJ, sessions_of_none hnone⟩) fun _ => ?_
    cases msg.status with
    | published | failed => exact safe_sent hfw ⟨hJ, sessions_of_none hnone⟩
    | pending =>
      refine safe_loadUploadSession (lasting_db (dbFact_readMessage task.messageId msg))
        ⟨hJ, hread⟩ (fun _ hw => hw.2)
        (fun w hw => safe_sent hfw ⟨hw.1, sessions_of_none hnone⟩) fun s w _ huid hw => ?_
      refine safe_uploadChunk (hfw.put s) (if_pos rfl) ⟨hw.1, hw.2.2.sender, fun _ => hw.2.2⟩

/-- The event of a 1505 spoils the challenge if the sender has sent it. -/
theorem SessionOk.chunkRequest {w : World} (h : SessionOk m J s w) (session : Nat)
    (huid : uid = 0 ∨ uid ≠ s.senderUserId) :
    SessionOk m (J ++ [.chunkRequest session uid]) s w :=
  h.concat not_false (fun _ => huid) nofun

theorem safe_handleResourceChunk {task : ChunkTask}
    (hw : At task.messageId J (fun v => Sessions task.messageId J fw v.now) w) :
    Handles sha fmt t task.messageId fw (handleResourceChunk task fw) w := by
  have hP := lasting_sessions task.messageId J fw
  refine safe_next (quiet_call trivial) (stable_at hP) hw fun _ w hw =>
    safe_ite (fun _ => ?_) fun _ => safe_end (.refl _ _) hw
  refine safe_next (quiet_call trivial) (stable_at hP) hw fun now w hw => ?_
  refine safe_next (quiet_call trivial) (stable_at hP) hw fun uid w hw => ?_
  refine (safe_casual hP (e := .chunkRequest task.session uid) hw trivial).bind
    fun _ w hw => ?_
  refine safe_then (quiet_files (calls_files (findUploadSession_observes _ _)))
    (findUploadSession_returns _ _) (stable_at hP) hw fun r w hr hw => ?_
  have helse := elsewhere_evictIdle task.messageId fw now
  obtain ⟨hnone, rfl⟩ | ⟨s, now', hsession, rfl⟩ := hr
  · exact safe_reloadForChunk helse hnone hw.1
  · have hok := hw.2.evictIdle now s hsession
    refine safe_uploadChunk (helse.put _) (if_pos rfl) ⟨hw.1, hok.sender, fun huid => ?_⟩
    exact (hok.refresh now').chunkRequest task.session huid

/-! ### The progress query -/

/-- The section that is asked for lies within the file. -/
theorem section_within {size : Nat} (hsize : 0 < size) (random : Nat) :
    0 < (if size < maxProofSection then size else maxProofSection) ∧
      (if size < maxProofSection then size else maxProofSection) ≤ maxProofSection ∧
      (if size ≤ (if size < maxProofSection then size else maxProofSection) then 0
        else random % (size - (if size < maxProofSection then size else maxProofSection) + 1)) +
        (if size < maxProofSection then size else maxProofSection) ≤ size := by
  have hmax : 0 < maxProofSection := by decide
  generalize hlen : (if size < maxProofSection then size else maxProofSection) = length
  have hle : length ≤ size ∧ 0 < length ∧ length ≤ maxProofSection := by
    split at hlen <;> omega
  split
  · omega
  · have hmod := Nat.mod_lt random (Nat.succ_pos (size - length))
    rw [Nat.succ_eq_add_one] at hmod
    omega

/-- A challenge that was issued is open. -/
theorem safe_issueChallenge {task : ProgressTask} (hsize : 0 < q.fileSizeBytes)
    (hsup : s.challengeSuppressed = false)
    (h : At task.messageId J (fun w => SessionOk task.messageId J s w.now ∧
      ∃ r, w.now.db.messageResource task.messageId = some r ∧
        r.fileSizeBytes = q.fileSizeBytes) w) :
    (messageRules sha fmt t task.messageId).Safe
      (fun r w => r.elim (At task.messageId J (fun w => SessionOk task.messageId J s w.now) w)
        fun s' => SessionOk task.messageId (w.now.journal task.messageId) s' w.now)
      (issueChallenge task q s) w := by
  have hrow : DbFact fun w => ∃ r, w.db.messageResource task.messageId = some r ∧
      r.fileSizeBytes = q.fileSizeBytes := by
    rintro w w' hc ⟨r, hr, hq⟩
    exact ⟨r, hc.keepsResource hr, hq⟩
  have hok := lasting_db (dbFact_sessionOk task.messageId J s)
  have hP := hok.and (lasting_db hrow)
  refine safe_next (quiet_call trivial) (stable_at hP) h fun nonce w hw => ?_
  cases nonce with
  | none => exact safe_pure (stable_at hok) ⟨hw.1, hw.2.1⟩
  | some nonceRaw =>
    refine safe_next (quiet_call trivial) (stable_at hP) hw fun off w hw => ?_
    cases off with
    | none => exact safe_pure (stable_at hok) ⟨hw.1, hw.2.1⟩
    | some offRaw =>
      refine safe_next (quiet_call trivial) (stable_at hP) hw fun now w hw => ?_
      refine (safe_casual hP (e := .challengeIssued task.session nonceRaw _ _ now) hw
        trivial).bind fun _ w hw => ?_
      refine safe_next (quiet_call trivial) (stable_at hP) hw fun _ w hw => ?_
      obtain ⟨hJ, hok, r, hr, hq⟩ := hw
      refine safe_pure (fun w w' hw hr' _ => ?_) ⟨hok.sender, fun _ => ?_, fun _ => ⟨hsup, ?_, ?_⟩⟩
      · rw [hr'.1.journal _ rfl]
        exact dbFact_sessionOk _ _ _ w.now w'.now hr'.1.db hw
      · rw [hJ]
        exact (hok.calm hsup).concat not_false
      · obtain ⟨hpos, hmax, hle⟩ := section_within hsize (rand64 offRaw)
        exact ⟨hpos, hmax, r, hr, hq ▸ hle⟩
      · rw [hJ]
        exact ⟨task.session, [], rfl, open_new⟩

theorem safe_pendingProgress {task : ProgressTask} (hfw : Elsewhere task.messageId fw₀ fw)
    (hs : fw.uploadSessions task.messageId = some s) (hq : msg.resource = some q)
    (h : At task.messageId J (fun w => SessionOk task.messageId J s w.now ∧
      ReadMessage task.messageId msg w.now) w) :
    Handles sha fmt t task.messageId fw₀ (pendingProgress task msg q s fw) w := by
  have hP := (lasting_db (dbFact_sessionOk task.messageId J s)).and
    (lasting_db (dbFact_readMessage task.messageId msg))
  refine safe_ite (fun hcond => ?_) fun _ => safe_sent hfw ⟨h.1, sessions_of_some hs h.2.1⟩
  obtain ⟨-, hsup, hsize⟩ := hcond
  refine safe_next (quiet_call trivial) (stable_at hP) h fun known w hw => ?_
  cases known with
  | transient | no => exact safe_sent hfw ⟨hw.1, sessions_of_some hs hw.2.1⟩
  | yes =>
    refine safe_next (quiet_call trivial) (stable_at hP) hw fun size w hw =>
      safe_ite (fun _ => ?_) fun _ => safe_sent hfw ⟨hw.1, sessions_of_some hs hw.2.1⟩
    obtain ⟨r, hr, -, hrsize⟩ := hw.2.2.2 q hq
    refine (safe_issueChallenge hsize hsup ⟨hw.1, hw.2.1, r, hr, hrsize⟩).bind
      fun issued w hw => ?_
    cases issued with
    | none => exact safe_sent hfw ⟨hw.1, sessions_of_some hs hw.2⟩
    | some s' => exact safe_end (hfw.put s') ⟨rfl, sessions_put hw⟩

theorem safe_handleResourceUploadProgress {task : ProgressTask}
    (hw : At task.messageId J (fun v => Sessions task.messageId J fw v.now) w) :
    Handles sha fmt t task.messageId fw (handleResourceUploadProgress task fw) w := by
  have hP := lasting_sessions task.messageId J fw
  refine (safe_getChatMsgById hP hw).bind fun found w hw => ?_
  obtain ⟨hw, hfound⟩ := hw
  cases found with
  | notFound | transient => exact safe_sent (.refl _ _) hw
  | found msg =>
    have hread := hfound msg rfl
    refine safe_ite (fun _ => safe_sent (.refl _ _) hw) fun _ => ?_
    cases hres : msg.resource with
    | none => exact safe_sent (.refl _ _) hw
    | some q =>
      refine safe_ite (fun _ => safe_sent (.refl _ _) hw) fun _ => ?_
      cases msg.status with
      | published => exact safe_sent (.refl _ _) hw
      | failed =>
        exact safe_sent (Elsewhere.refl _ fw).erase ⟨hw.1, sessions_erase⟩
      | pending =>
        have hP' := hP.and (lasting_db (dbFact_readMessage task.messageId msg))
        refine safe_then (quiet_files (calls_files (findUploadSession_observes _ _)))
          (findUploadSession_returns _ _) (stable_at hP') ⟨hw.1, hw.2, hread⟩ fun r w hr hw => ?_
        obtain ⟨hnone, rfl⟩ | ⟨s, now, hsession, rfl⟩ := hr
        · refine safe_loadUploadSession hP' hw (fun _ hw => hw.2.2)
            (fun w hw => safe_sent (.refl _ _) ⟨hw.1, hw.2.1⟩) fun s w _ _ hw => ?_
          exact safe_pendingProgress ((Elsewhere.refl _ fw).put s) (if_pos rfl) hres
            ⟨hw.1, hw.2.2, hw.2.1.2⟩
        · exact safe_pendingProgress ((Elsewhere.refl _ fw).put _) (if_pos rfl) hres
            ⟨hw.1, (hw.2.1 s hsession).refresh now, hw.2.2⟩

/-! ### The proof -/

/-- An active challenge that was met in time, with the events after it. -/
structure Met (task : ProofTask) (s : UploadSession) (time : Nat) (rest : List Event) : Prop where
  leaves : ∀ e ∈ rest, Leaves task.uid e
  unchecked : ∀ time', .proofChecked task.session time' ∉ rest
  time : time ≤ s.challengeIssuedAt + instantProofChallengeTtlSeconds
  nonzero : task.uid ≠ 0

/-- The journal when the challenge has been checked. -/
def metJournal (task : ProofTask) (s : UploadSession) (time : Nat) (l rest : List Event) :
    List Event :=
  l ++ .challengeIssued task.session s.challengeNonceRaw s.challengeOffset s.challengeLength
    s.challengeIssuedAt :: (rest ++ [.proofRequest task.session task.uid task.proof,
      .proofChecked task.session time])

variable {task : ProofTask} {time : Nat} {rest : List Event}

/-- No comparison has been made since the challenge was issued. -/
theorem Met.fits {ok : Bool} {clock : Nat} (h : Met task s time rest)
    (hcalm : Calm (metJournal task s time l rest)) :
    Fits (metJournal task s time l rest) (.proofCompared task.session ok) clock := by
  refine ⟨fun _ l₁ x l₂ hJ hx => ⟨_, after_last rfl not_false (fun y hy => ?_) hJ hx, trivial⟩,
    fun _ l₁ x l₂ hJ hx => ?_, nofun⟩
  · rcases List.mem_append.mp hy with hy | hy
    · intro hc
      have hleaves := h.leaves y hy
      cases y <;> first | exact hc.elim | exact hleaves.elim
    · simp only [List.mem_cons, List.not_mem_nil, or_false] at hy
      rcases hy with rfl | rfl <;> exact not_false
  · obtain ⟨k, k', hk, hnone⟩ := hcalm
    exact ⟨_, after_last hk not_false hnone hJ hx, trivial⟩

/-- The bytes of the section were read from the blob. -/
def HasRead (m : Int) (J : List Event) (h : String) (offset length : Nat) (bytes : List UInt8)
    (w : Recorded World) : Prop :=
  ∃ v data, w.past v ∧ v.journal m = J ∧ v.disk.contents (resourceBlobPath h) = some data ∧
    bytes = slice data offset length

theorem lasting_hasRead (m : Int) (J : List Event) (h : String) (offset length : Nat)
    (bytes : List UInt8) : Lasting (HasRead m J h offset length bytes) := by
  rintro w w' hw ⟨v, data, hv, hrest⟩
  exact ⟨v, data, hw.past v hv, hrest⟩

theorem stable_hasRead {n : Int} {h : String} {offset length : Nat} {bytes : List UInt8} :
    (messageRules sha fmt t m).Stable (HasRead n J h offset length bytes) := fun w w' hw hr _ =>
  lasting_hasRead n J h offset length bytes w w' (hr.1.mono fun _ => False.elim) hw

/-- The blob is open under the lock. -/
def Reading (t : Thread) (h : String) (file : Handle) (w : Recorded World) : Prop :=
  w.now.mutex = some t ∧ w.now.disk.names (resourceBlobPath h) = some file

theorem stable_reading (h : String) (file : Handle) :
    (messageRules sha fmt t m).Stable (Reading t h file) := by
  intro w w' hw hr _
  obtain ⟨hmutex, hblobs⟩ := hr.2 hw.1
  exact ⟨hmutex, hblobs h file hw.2⟩

theorem stable_mutex : (messageRules sha fmt t m).Stable fun w => w.now.mutex = some t :=
  fun _ _ hw hr _ => (hr.2 hw).1

section Check

variable {P : Recorded World → Prop} (hP : Lasting P) {h : String}
include hP

theorem safe_openBlob (hw : At m J P w) (hmutex : w.now.mutex = some t) :
    (messageRules sha fmt t m).Safe
      (fun r w => At m J P w ∧ ∀ file, r = some file → Reading t h file w)
      (call (.openFile (resourceBlobPath h))) w := by
  have hop : Op.Observes (.openFile (resourceBlobPath h)) := trivial
  refine (safe_look hop ((stable_at hP).and stable_mutex) ⟨hw, hmutex⟩
    (fun _ => stable_forall fun file => stable_imp (stable_reading h file))
    fun c w r w' hw _ _ he file hfile => ?_).mono fun _ _ hw => ⟨hw.1.1, hw.2⟩
  simp only [exec, Option.some.injEq, Prod.mk.injEq] at he
  obtain ⟨hres, hnow⟩ := he
  rw [Reading, ← hnow]
  refine ⟨hw.2, ?_⟩
  rw [← hres] at hfile
  split at hfile
  · cases hfile
  · exact hfile

theorem safe_readBlob {file : Handle} {offset length : Nat} (hw : At m J P w)
    (hreading : Reading t h file w) :
    (messageRules sha fmt t m).Safe (fun r w => At m J P w ∧
      ∀ bytes, r = some bytes → HasRead m J h offset length bytes w)
      (call (.read file offset length)) w := by
  have hop : Op.Observes (.read file offset length) := trivial
  refine (safe_look (Q := fun r w => ∀ bytes, r = some bytes → HasRead m J h offset length bytes w)
    hop ((stable_at hP).and (stable_reading h file)) ⟨hw, hreading⟩
    (fun _ => stable_forall fun _ => stable_imp stable_hasRead)
    fun c w r w' hw hinv hr he bytes hbytes => ?_).mono fun _ _ hw => ⟨hw.1.1, hw.2⟩
  simp only [exec, Option.some.injEq, Prod.mk.injEq] at he
  rw [← he.1] at hbytes
  split at hbytes
  · cases hbytes
  · refine ⟨w.now, w.now.disk.data file, hr.1.past _ hinv.past, hw.1.1, ?_,
      (Option.some.inj hbytes).symm⟩
    rw [Disk.contents, hw.2.2, Option.map_some]

theorem safe_sha256Hex (data : List UInt8) (hw : At m J P w) :
    (messageRules sha fmt t m).Safe (fun r w => At m J P w ∧ (r = "" ∨ r = sha data))
      (call (.sha256Hex data)) w := by
  refine safe_look trivial (stable_at hP) hw (fun _ => stable_const _)
    fun c w r w' _ _ _ he => ?_
  simp only [exec, Option.some.injEq, Prod.mk.injEq] at he
  rw [← he.1]
  split
  · exact .inl rfl
  · exact .inr rfl

/-- How the comparison ends: without an error only if the proof is right. -/
def Checked (sha : List UInt8 → String) (task : ProofTask) (s : UploadSession) (h : String)
    (J : List Event) (P : Recorded World → Prop) (r : Option ErrorCode) (w : Recorded World) :
    Prop :=
  ∃ J', At task.messageId J' P w ∧ (r = none → J' = J ++ [.proofCompared task.session true] ∧
    ∃ bytes, HasRead task.messageId J h s.challengeOffset s.challengeLength bytes w ∧
      bytes.length = s.challengeLength ∧ task.proof = sha (s.challengeNonceRaw ++ bytes))

theorem stable_checked (r : Option ErrorCode) :
    (messageRules sha fmt t task.messageId).Stable (Checked sha task s h J P r) := by
  rintro w w' ⟨J', hw, hr⟩ hrely hinv
  refine ⟨J', hw.onward hP hrely.1, fun hnone => ?_⟩
  obtain ⟨hJ', bytes, hread, hbytes⟩ := hr hnone
  exact ⟨hJ', bytes, stable_hasRead w w' hread hrely hinv, hbytes⟩

theorem safe_checkProof {q : MessageResource} (hmet : Met task s time rest)
    (hcalm : Calm (metJournal task s time l rest))
    (hw : At task.messageId (metJournal task s time l rest) P w) (hmutex : w.now.mutex = some t) :
    (messageRules sha fmt t task.messageId).Safe
      (Checked sha task s q.sha256 (metJournal task s time l rest) P) (checkProof task q s) w := by
  generalize hJ : metJournal task s time l rest = J at hw hcalm
  have herror : ∀ {w : Recorded World} {J' : List Event} (e : ErrorCode),
      At task.messageId J' P w → (messageRules sha fmt t task.messageId).Safe
        (Checked sha task s q.sha256 J P) (pure (some e)) w :=
    fun e hw => safe_pure (stable_checked hP _) ⟨_, hw, nofun⟩
  refine (safe_openBlob hP (h := q.sha256) hw hmutex).bind fun r w hw => ?_
  cases r with
  | none => exact herror _ hw.1
  | some file =>
    refine (safe_readBlob hP hw.1 (hw.2 file rfl)).bind fun r w hw => ?_
    cases r with
    | none => exact herror _ hw.1
    | some bytes =>
      have hP' := hP.and (lasting_hasRead task.messageId J q.sha256 s.challengeOffset
        s.challengeLength bytes)
      have hw : At task.messageId J (fun w => P w ∧ HasRead task.messageId J q.sha256
        s.challengeOffset s.challengeLength bytes w) w := ⟨hw.1.1, hw.1.2, hw.2 bytes rfl⟩
      refine safe_ite (fun _ => herror _ ⟨hw.1, hw.2.1⟩) fun hlength => ?_
      refine (safe_sha256Hex hP' (s.challengeNonceRaw ++ bytes) hw).bind
        fun expect w hw => ?_
      obtain ⟨hw, hexpect⟩ := hw
      refine safe_ite (fun _ => herror _ ⟨hw.1, hw.2.1⟩) fun hsize => ?_
      refine (safe_note hP' hw fun _ _ _ => hJ ▸ hmet.fits (hJ ▸ hcalm)).bind
        fun _ w hw => ?_
      refine safe_ite (fun _ => herror _ ⟨hw.1, hw.2.1⟩) fun hproof => ?_
      have heq : expect = task.proof := not_not.mp hproof
      refine safe_pure (stable_checked hP _) ⟨_, ⟨hw.1, hw.2.1⟩, fun _ => ⟨?_, bytes, hw.2.2,
        not_not.mp hlength, ?_⟩⟩
      · rw [decide_eq_true heq]
      · rcases hexpect with rfl | rfl
        · exact absurd (by decide : "".utf8ByteSize ≠ 64) hsize
        · exact heq.symm

end Check

/-- The publication is licensed. -/
theorem licensed_of_met (hmet : Met task s time rest) (hJ : w.now.journal task.messageId =
      metJournal task s time l rest ++ [.proofCompared task.session true])
    (hsender : Sender task.messageId task.uid w.now)
    (hwithin : Within task.messageId s.challengeOffset s.challengeLength w.now)
    (hq : ∃ r, w.now.db.messageResource task.messageId = some r ∧ r.sha256 = q.sha256)
    {bytes : List UInt8} (hread : HasRead task.messageId (metJournal task s time l rest) q.sha256
      s.challengeOffset s.challengeLength bytes w) (hlength : bytes.length = s.challengeLength)
    (hproof : task.proof = sha (s.challengeNonceRaw ++ bytes)) :
    Licensed sha w.past task.messageId w.now := by
  obtain ⟨hpos, hmax, r, hr, hle⟩ := hwithin
  obtain ⟨r', hr', hsha⟩ := hq
  obtain rfl : r = r' := Option.some.inj (hr.symm.trans hr')
  obtain ⟨v, data, hv, hvJ, hdata, rfl⟩ := hread
  refine .inr ⟨task.session, task.uid, task.proof, s.challengeNonceRaw, s.challengeOffset,
    s.challengeLength, s.challengeIssuedAt, time, l, rest, r, data, v, ?_, hmet.leaves,
    hmet.unchecked, hmet.time, hmet.nonzero, hsender, hpos, hmax, hr, hle, hv, hvJ, hsha ▸ hdata,
    hlength, hproof⟩
  rw [hJ, metJournal]
  simp

/-- What is known in the critical section of the proof. -/
def Proving (task : ProofTask) (q : MessageResource) (s : UploadSession) (w : World) : Prop :=
  (Sender task.messageId task.uid w ∧ Sender task.messageId s.senderUserId w) ∧
    Within task.messageId s.challengeOffset s.challengeLength w ∧
    ∃ r, w.db.messageResource task.messageId = some r ∧ r.sha256 = q.sha256

theorem dbFact_proving (task : ProofTask) (q : MessageResource) (s : UploadSession) :
    DbFact (Proving task q s) := by
  rintro w w' hc ⟨hsender, hwithin, r, hr, hsha⟩
  exact ⟨((dbFact_sender _ _).and (dbFact_sender _ _)) w w' hc hsender,
    dbFact_within _ _ _ w w' hc hwithin, r, hc.keepsResource hr, hsha⟩

/-- How the critical section ends: with a table that is right. -/
def SectionEnds (m : Int) (fw₀ : FileWorker) (out : PublishOutcome) (w : Recorded World) : Prop :=
  ∀ fw, out = .replied fw → Ends m fw₀ fw w

theorem stable_sectionEnds (out : PublishOutcome) :
    (messageRules sha fmt t m).Stable (SectionEnds m fw₀ out) :=
  stable_forall fun _ => stable_imp stable_ends

theorem sectionEnds_replied (h : Ends m fw₀ fw w) : SectionEnds m fw₀ (.replied fw) w := by
  intro fw' e
  cases e
  exact h

theorem sectionEnds_published {seq : Nat} : SectionEnds m fw₀ (.published msg seq) w := by
  intro fw' e
  cases e

theorem safe_replied {session : Nat} {reply : Reply} (h : Ends m fw₀ fw w) :
    (messageRules sha fmt t m).Safe (SectionEnds m fw₀)
      (call (.send session reply) >>= fun _ => pure (.replied fw)) w :=
  safe_then_pure (send_calls quiet_send) (stable_sectionEnds _) (sectionEnds_replied h)

theorem safe_proveAndPublish (hfw : Elsewhere task.messageId fw₀ fw)
    (hs : fw.uploadSessions task.messageId = some s) (hactive : s.challengeActive = false)
    (hmet : Met task s time rest) (hcalm : Calm (metJournal task s time l rest))
    (hw : At task.messageId (metJournal task s time l rest) (fun w => Proving task q s w.now) w)
    (hmutex : w.now.mutex = some t) :
    (messageRules sha fmt t task.messageId).Safe (SectionEnds task.messageId fw₀)
      (proveAndPublish task msg q s fw) w := by
  have hP := lasting_db (dbFact_proving task q s)
  refine (safe_checkProof hP hmet hcalm hw hmutex).bind fun r w hw => ?_
  obtain ⟨J', hw, hr⟩ := hw
  cases r with
  | some e =>
    exact safe_replied ⟨hfw.put _, sessions_put (Muffled.sessionOk ⟨hactive, rfl⟩ hw.2.1.2)⟩
  | none =>
    obtain ⟨rfl, bytes, hread, hlength, hproof⟩ := hr rfl
    have hP' := hP.and (lasting_hasRead task.messageId (metJournal task s time l rest) q.sha256
      s.challengeOffset s.challengeLength bytes)
    refine (safe_of_keeps (completeResourceUploadDao_calls _ _ fun _ =>
      keeps_at hP' nofun fun w hw => ?_) (returns_true _) (stable_at hP')
      ⟨hw.1, hw.2, hread⟩).bind fun r w hw => ?_
    · exact licensed_of_met hmet hw.1 hw.2.1.1.1 hw.2.1.2.1 hw.2.1.2.2 hw.2.2 hlength hproof
    · obtain ⟨r, seq⟩ := r
      obtain ⟨-, hw⟩ := hw
      cases r with
      | published | alreadyPublished => exact safe_pure (stable_sectionEnds _) sectionEnds_published
      | notPending | notFound => exact safe_replied ⟨hfw.erase, sessions_erase⟩
      | transient =>
        refine safe_replied ⟨hfw, sessions_of_some hs ⟨hw.2.1.1.2, fun _ => ?_, fun ha => ?_⟩⟩
        · rw [hw.1]
          exact hcalm.concat Bool.noConfusion
        · rw [hactive] at ha
          cases ha

/-- The time of the check, which is after all earlier checks. -/
theorem safe_steadyNow {P : Recorded World → Prop} (hP : Lasting P) (hw : At m J P w) :
    (messageRules sha fmt t m).Safe (fun now w => At m J (fun w => P w ∧
        now ≤ w.now.clock) w ∧ ∀ session time, .proofChecked session time ∈ J → time ≤ now)
      (call .steadyNow) w := by
  have hclock : ∀ now, Lasting fun w => P w ∧ now ≤ w.now.clock := fun now =>
    hP.and fun w w' hw h => Nat.le_trans h hw.clock
  have hquiet : (messageRules sha fmt t m).Quiet .steadyNow := quiet_of_plain trivial
  refine safe_perform (stable_at hP) hw (fun now => (stable_at (hclock now)).and (stable_const _))
    fun w r w' hw hinv hs => ?_
  obtain ⟨hg, hinv', hr⟩ := hquiet w r w' hinv hs
  obtain ⟨⟨⟨c, -, he⟩, -⟩, -⟩ := hs
  simp only [exec, Option.some.injEq, Prod.mk.injEq] at he
  obtain ⟨hnow, -⟩ := he
  have hw' := hw.onward hP hr.1
  refine ⟨hg, hinv', ⟨hw'.1, hw'.2, ?_⟩, fun session time hmem => ?_⟩
  · rw [← hnow]
    exact hr.1.clock
  · rw [← hnow]
    exact hinv.times m session time (hw.1 ▸ hmem)

theorem safe_lock {P : Recorded World → Prop} (hP : Lasting P) (hw : At m J P w) :
    (messageRules sha fmt t m).Safe (fun _ w => At m J P w ∧ w.now.mutex = some t)
      (call .lock) w := by
  have hquiet : (messageRules sha fmt t m).Quiet .lock := quiet_of_plain trivial
  refine safe_quiet hquiet (stable_at hP) hw (fun _ => (stable_at hP).and stable_mutex) ?_
  rintro w r w' hw hw' ⟨⟨⟨c, -, he⟩, -⟩, -⟩
  obtain ⟨-, hnow⟩ := exec_lock he
  rw [hnow]
  exact ⟨hw', rfl⟩

theorem safe_leave {out : PublishOutcome} (h : SectionEnds m fw₀ out w) :
    (messageRules sha fmt t m).Safe (fun _ => SectionEnds m fw₀ out) (call .unlock) w := by
  have hkeeps : (messageRules sha fmt t m).Keeps (SectionEnds m fw₀ out) .unlock :=
    keeps_onward (fun _ _ hon h fw e => (h fw e).onward hon) nofun fun _ _ => trivial
  refine (safe_of_keeps (calls_perform hkeeps) (returns_true _) (stable_sectionEnds out) h).mono
    fun _ _ hw => hw.2

theorem safe_answerChallenge (hs : fw.uploadSessions task.messageId = some s) (hzero : task.uid ≠ 0)
    (h : At task.messageId (J ++ [.proofRequest task.session task.uid task.proof]) (fun w =>
      SessionOk task.messageId J s w.now ∧ Sender task.messageId task.uid w.now ∧
      ∃ r, w.now.db.messageResource task.messageId = some r ∧ r.sha256 = q.sha256) w) :
    Handles sha fmt t task.messageId fw (answerChallenge task msg q s fw) w := by
  have hrow : DbFact fun w => ∃ r, w.db.messageResource task.messageId = some r ∧
      r.sha256 = q.sha256 := by
    rintro w w' hc ⟨r, hr, hsha⟩
    exact ⟨r, hc.keepsResource hr, hsha⟩
  have hP := (lasting_db (dbFact_sessionOk task.messageId J s)).and
    (lasting_db ((dbFact_sender task.messageId task.uid).and hrow))
  refine safe_of_inv fun w' hrely hinv => ?_
  have hw := h.onward hP hrely.1
  have huid : s.senderUserId = task.uid := hw.2.1.sender.unique hinv.consistent hw.2.2.1
  have hrefl := Elsewhere.refl task.messageId fw
  refine (safe_steadyNow hP hw).bind fun now w hw => ?_
  obtain ⟨hw, htimes⟩ := hw
  have hclock : Lasting fun w : Recorded World => now ≤ w.now.clock :=
    fun w w' hon h => Nat.le_trans h hon.clock
  refine (safe_note (hP.and hclock) (e := .proofChecked task.session now) hw
    fun w hw _ => ⟨nofun, nofun, ?_⟩).bind fun _ w hw => ?_
  · rintro session time heq
    cases heq
    exact hw.2.2
  obtain ⟨hJ, ⟨hok, hsender, hq⟩, -⟩ := hw
  have hrequest := hok.concat (e := .proofRequest task.session task.uid task.proof) not_false
    (fun _ => trivial) nofun
  refine safe_ite (fun hreject => ?_) fun haccept => ?_
  · -- the challenge is not his, or it has expired: it stays as it is
    refine safe_sent hrefl ⟨hJ, sessions_of_some hs ?_⟩
    refine hrequest.concat not_false (fun _ => trivial) fun ha session time hsession heq => ?_
    cases heq
    rcases hreject with hinactive | hlate | hother
    · rw [hinactive] at ha
      cases ha
    · omega
    · exact absurd hsession hother
  · simp only [not_or, Bool.not_eq_false, not_lt, not_not] at haccept
    obtain ⟨ha, htime, hholder⟩ := haccept
    obtain ⟨hsup, hwithin, session, rest, hsession, ⟨l, hl⟩, hleaves, hunchecked⟩ := hok.active ha
    obtain rfl : session = task.session := Option.some.inj (hsession.symm.trans hholder)
    have hmet : Met task { s with challengeActive := false } now rest := by
      refine ⟨huid ▸ hleaves, fun time' hmem => ?_, by dsimp only; omega, hzero⟩
      have hlate := hunchecked time' hmem
      have hle := htimes task.session time' (List.mem_append_left _
        (hl ▸ List.mem_append_right _ (List.mem_cons_of_mem _ hmem)))
      omega
    have hmetJ : J ++ [.proofRequest task.session task.uid task.proof] ++
        [.proofChecked task.session now] =
          metJournal task { s with challengeActive := false } now l rest := by
      rw [hl, metJournal]
      simp
    have hcalm : Calm (metJournal task { s with challengeActive := false } now l rest) := by
      rw [← hmetJ]
      refine Calm.concat (Calm.concat (hok.calm hsup) ?_) ?_ <;> exact not_false
    refine safe_ite (fun _ => ?_) fun _ => ?_
    · exact safe_sent (hrefl.put _)
        ⟨hJ, sessions_put (Muffled.sessionOk ⟨rfl, rfl⟩ hok.sender)⟩
    · rw [hmetJ] at hJ
      have hproving : Proving task q { s with challengeActive := false } w.now :=
        ⟨⟨hsender, hok.sender⟩, hwithin, hq⟩
      refine (safe_lock (lasting_db (dbFact_proving task q _)) ⟨hJ, hproving⟩).bind
        fun _ w hw => ?_
      refine (safe_proveAndPublish (hrefl.put _) (if_pos rfl) rfl hmet hcalm hw.1
        hw.2).bind fun out w hout => ?_
      refine (safe_leave hout).bind fun _ w hout => ?_
      cases out with
      | replied fw' => exact safe_pure stable_ends (hout fw' rfl)
      | published msg seq =>
        refine safe_next (quiet_files (remove_part_files _)) (stable_const True)
          trivial fun _ w _ => ?_
        refine safe_next (send_calls quiet_send)
          (stable_const True) trivial fun _ w _ => ?_
        exact safe_answer (quiet_call trivial) (hrefl.put _).erase ⟨rfl, sessions_erase⟩

theorem safe_handleInstantProof
    (hw : At task.messageId J (fun v => Sessions task.messageId J fw v.now) w) :
    Handles sha fmt t task.messageId fw (handleInstantProof task fw) w := by
  have hP := lasting_sessions task.messageId J fw
  have hfail : ∀ {w : Recorded World} {error : ErrorCode} {status : MessageStatus},
      At task.messageId (J ++ [.proofRequest task.session task.uid task.proof])
        (fun w => Sessions task.messageId J fw w.now) w →
      Handles sha fmt t task.messageId fw (do task.fail error status; return fw) w :=
    fun hw => safe_sent (.refl _ _) ⟨hw.1, fun s hs =>
      (hw.2 s hs).concat not_false (fun _ => trivial) nofun⟩
  have hgone : ∀ {w : Recorded World} {error : ErrorCode} {status : MessageStatus},
      Handles sha fmt t task.messageId fw
        (do task.fail error status; return fw.erase task.messageId) w :=
    fun {_ _ _} => safe_sent (Elsewhere.refl _ fw).erase ⟨rfl, sessions_erase⟩
  refine (safe_casual hP (e := .proofRequest task.session task.uid task.proof) hw
    trivial).bind fun _ w hw => ?_
  refine (safe_getChatMsgById hP hw).bind fun found w hw => ?_
  obtain ⟨hw, hfound⟩ := hw
  cases found with
  | notFound => exact hgone
  | transient => exact hfail hw
  | found msg =>
    have hread := hfound msg rfl
    dsimp only
    cases hres : msg.resource with
    | none => exact hfail hw
    | some q =>
      refine safe_ite (fun _ => hfail hw) fun huid => ?_
      obtain ⟨hzero, hsender⟩ := not_or.mp huid
      cases msg.status with
      | published =>
        refine safe_next (quiet_files (remove_part_files _)) (stable_const True)
          trivial fun _ w _ => ?_
        exact safe_sent (Elsewhere.refl _ fw).erase ⟨rfl, sessions_erase⟩
      | failed => exact hgone
      | pending =>
        cases hsession : fw.uploadSessions task.messageId with
        | none => exact hfail hw
        | some s =>
          obtain ⟨r, hr, hsha, -⟩ := hread.2 q hres
          exact safe_answerChallenge hsession hzero ⟨hw.1, hw.2 s hsession,
            not_not.mp hsender ▸ hread.1, r, hr, hsha⟩

end LlfcChat.Resource.Challenge
