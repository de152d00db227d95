/-
Which frames of an authenticated session make a handler throw.

`LogicWorker::RunLoop` has no `catch`, so an exception that leaves a handler
ends the process.  Eight of the eleven handlers never throw (`Total`).  The
other three read a member without a look at what they read it from:

* `SearchInfo` (1201) wants an object with a text under `uid`; behind it
  `GetUserByUid` and `GetUserByName` trust what Redis has under their key, and
  `GetUserByUid` trusts that a text of digits is an `int`;
* `GetUserThreadsHandler` (1401) and `LoadChatMsg` (1403) want an object, or
  null, which turns into one.

`returns_dispatchClientMessage_iff` says that these are all the ways.
-/
import LlfcChat.Chat.LogicSystem

namespace LlfcChat

open Effect Handler

variable {W : Type} {svc : Services W} {session : Session}

/-! ### Steps that never throw -/

theorem total_ask {ρ : Type} (f : W → ρ × W) : (ask f).Total := total_call _

theorem total_tell (f : W → W) : (tell f).Total := total_modify _

theorem total_act (a : Action) : (act a : Handler W Unit).Total := total_modify _

theorem total_getUserId : (getUserId : Handler W Int).Total := total_read _

theorem total_assign (key : String) (value : Json) : (assign key value : Handler W Unit).Total :=
  total_modify _

theorem total_assignError (code : ErrorCodes) : (assignError code : Handler W Unit).Total :=
  total_assign _ _

theorem total_updateWith (env : List (String × Json)) : (updateWith env : Handler W Unit).Total :=
  total_modify _

theorem total_push (key : String) (value : Json) : (push key value : Handler W Unit).Total :=
  total_modify _

theorem total_sendCompact (msgType : Int) : (sendCompact msgType : Handler W Unit).Total :=
  total_modify _

theorem total_sendPretty (msgType : Int) : (sendPretty msgType : Handler W Unit).Total :=
  total_modify _

theorem total_reject (code : ErrorCodes) (msgType : Int) :
    (reject code msgType : Handler W Unit).Total :=
  (total_assignError code).bind fun _ => total_sendCompact msgType

theorem total_rejectResource (code : ErrorCodes) : (rejectResource code : Handler W Unit).Total :=
  (total_assignError code).bind fun _ => total_sendPretty _

theorem total_buildFriendRequestEnvelope (r : FriendRequest) (recipient : Int) :
    (buildFriendRequestEnvelope svc r recipient).Total :=
  (total_ask _).bind fun _ => total_pure _

theorem total_buildUserEventEnvelope (event : UserEvent) (recipient : Int) :
    (buildUserEventEnvelope svc event recipient).Total := by
  refine Total.bind ?_ fun _ => total_pure _
  unfold buildSubjectEnvelope
  rcases event.message with - | m
  · rcases event.friendRequest with - | r
    · exact total_pure _
    · exact total_buildFriendRequestEnvelope r recipient
  · exact total_pure _

theorem total_deliverUserEvent (event : UserEvent) (recipient : Int) :
    (deliverUserEvent svc event recipient).Total := by
  refine Total.ite (total_pure ()) ((total_ask _).bind fun server => ?_)
  rcases server with - | server
  · exact total_pure ()
  · refine Total.ite ?_ (total_act _)
    exact (total_buildUserEventEnvelope event recipient).bind fun _ => total_act _

/-! ### The handlers that never throw -/

theorem total_answerFriendRequest (uid : Int) (request : FriendRequest) (msgType : Int)
    (result : FriendOperationResult) (eventType recipient : Int) :
    (answerFriendRequest svc uid request msgType result eventType recipient).Total := by
  refine (total_assignError _).bind fun _ => ?_
  refine (total_buildFriendRequestEnvelope request uid).bind fun _ => ?_
  refine (total_updateWith _).bind fun _ => (total_sendCompact _).bind fun _ => ?_
  exact Total.ite (total_deliverUserEvent _ _) (total_pure ())

theorem total_addFriendApplyHandler (body : List UInt8) :
    (addFriendApplyHandler svc body).Total := by
  refine total_getUserId.bind fun requester => ?_
  rcases addFriendApplyArgs (svc.parse body) with - | ⟨target, message, key⟩
  · exact total_reject _ _
  refine Total.ite (total_reject _ _) ((total_ask _).bind fun answer => ?_)
  rcases answer with ⟨result, - | request⟩
  · cases result <;> exact total_reject _ _
  · cases result with
    | alreadyFriends | notFound | conflict | failed => exact total_reject _ _
    | stored | duplicate | alreadyHandled | forbidden =>
      exact total_answerFriendRequest _ _ _ _ _ _

theorem total_authFriendApply (body : List UInt8) : (authFriendApply svc body).Total := by
  refine total_getUserId.bind fun uid => ?_
  rcases authFriendApplyArgs (svc.parse body) with - | ⟨id, action⟩
  · exact total_reject _ _
  refine Total.ite (total_reject _ _) ((total_ask _).bind fun answer => ?_)
  rcases answer with ⟨result, request, threadId, peer⟩
  cases result with
  | stored | duplicate =>
    rcases request with - | request
    · exact total_reject _ _
    · exact total_answerFriendRequest _ _ _ _ _ _
  | notFound | alreadyHandled | alreadyFriends | forbidden | conflict | failed =>
    exact total_reject _ _

theorem total_answerChatTextMsg (result : SaveMessageResult) (m : ChatMessage) :
    (answerChatTextMsg svc result m).Total := by
  cases result with
  | failed => exact (total_assignError _).bind fun _ => total_sendPretty _
  | conflict =>
    exact (total_assignError _).bind fun _ => (total_assign _ _).bind fun _ => total_sendPretty _
  | stored | duplicate =>
    refine (total_updateWith _).bind fun _ => (total_sendPretty _).bind fun _ => ?_
    exact Total.ite (total_deliverUserEvent _ _) (total_pure ())

theorem total_dealChatTextMsg (body : List UInt8) : (dealChatTextMsg svc body).Total := by
  refine total_getUserId.bind fun uid => ?_
  rcases dealChatTextMsgArgs (svc.parse body) with - | ⟨target, text, key⟩
  · exact total_reject _ _
  rcases ((svc.parse body).field "thread_id").bind parseJsonId with - | threadId
  · exact (total_assignError _).bind fun _ => total_sendPretty _
  refine (total_ask _).bind fun members => Total.ite (total_reject _ _) ?_
  refine Total.ite (total_reject _ _) ?_
  refine (total_assignError _).bind fun _ => (total_assign _ _).bind fun _ => ?_
  exact (total_ask _).bind fun _ => (total_ask _).bind fun _ => total_answerChatTextMsg _ _

theorem total_heartBeatHandler : (heartBeatHandler : Handler W Unit).Total :=
  (total_assignError _).bind fun _ => total_sendPretty _

theorem total_createPrivateChatHandler (body : List UInt8) :
    (createPrivateChatHandler svc body).Total := by
  refine total_getUserId.bind fun uid => (total_assignError _).bind fun _ => ?_
  refine Total.defer ?_ (total_sendPretty _)
  rcases createPrivateChatArgs (svc.parse body) with - | target
  · exact total_assignError _
  refine Total.ite (total_assignError _) ((total_assign _ _).bind fun _ => ?_)
  refine (total_ask _).bind fun answer => ?_
  rcases answer with - | threadId
  · exact total_assignError _
  · exact total_assign _ _

theorem total_createResourceMsg (uid : Int) (q : ResourceRequest) (fileName : String)
    (size : Nat) : (createResourceMsg svc uid q fileName size).Total := by
  refine (total_ask _).bind fun _ => (total_ask _).bind fun answer => ?_
  rcases answer with ⟨result, m⟩
  cases result with
  | failed | conflict => exact total_rejectResource _
  | stored | duplicate => exact (total_updateWith _).bind fun _ => total_sendPretty _

theorem total_dealCreateResourceMsg (body : List UInt8) :
    (dealCreateResourceMsg svc body).Total := by
  refine (total_assignError _).bind fun _ => total_getUserId.bind fun uid => ?_
  rcases dealCreateResourceMsgArgs (svc.parse body) with - | q
  · exact total_rejectResource _
  refine Total.ite (total_rejectResource _) ((total_assign _ _).bind fun _ => ?_)
  refine Total.ite (total_rejectResource _) ((total_ask _).bind fun members => ?_)
  refine Total.ite (total_rejectResource _) (Total.ite (total_rejectResource _) ?_)
  refine Total.ite (total_rejectResource _) ?_
  rcases sanitizeFileName q.originalFileName with - | fileName
  · exact total_rejectResource _
  refine Total.ite (total_rejectResource _) (Total.ite (total_rejectResource _) ?_)
  exact total_createResourceMsg _ _ _ _

theorem total_pushEvents (uid : Int) (rows : List UserEvent) (next : Nat) :
    (pushEvents svc uid rows next).Total := by
  induction rows generalizing next with
  | nil => exact total_pure next
  | cons row rows ih =>
    refine (total_buildUserEventEnvelope row uid).bind fun _ => ?_
    exact (total_push _ _).bind fun _ => ih row.eventSeq

theorem total_dealSyncMessage (body : List UInt8) : (dealSyncMessage svc body).Total := by
  refine total_getUserId.bind fun uid => ?_
  rcases dealSyncMessageArgs (svc.parse body) with - | ⟨after, limit⟩
  · exact total_reject _ _
  refine (total_ask _).bind fun head => ?_
  rcases head with - | head
  · exact total_reject _ _
  refine Total.ite (total_reject _ _) ((total_ask _).bind fun rows => ?_)
  rcases rows with - | rows
  · exact total_reject _ _
  refine (total_assignError _).bind fun _ => (total_assign _ _).bind fun _ => ?_
  refine (total_pushEvents _ _ _).bind fun _ => (total_assign _ _).bind fun _ => ?_
  exact (total_assign _ _).bind fun _ => total_sendCompact _

/-! ### Cached profiles -/

/-- A profile that the server can read back from Redis. -/
def IsProfile (root : Json) : Prop :=
  (∀ key ∈ ["uid", "sex"], ∃ v, root.field key = some v ∧ v.isNumeric) ∧
    ∀ key ∈ ["name", "email", "nick", "desc", "icon"], ∃ s, root.field key = some (.str s)

theorem bind_isOk {ε α β : Type} {x : Except ε α} {f : α → Except ε β} :
    (∃ b, (x >>= f) = .ok b) ↔ ∃ a, x = .ok a ∧ ∃ b, f a = .ok b := by
  cases x with
  | error e | ok a => simp [bind, Except.bind]

theorem readProfile_isOk {root : Json} : (∃ u, readProfile root = .ok u) ↔ IsProfile root := by
  -- one `get` after the other; the kinds of the seven values do not depend on each other
  simp only [readProfile, bind_isOk, IsProfile, List.forall_mem_cons, ← Json.intAt_isOk,
    ← Json.textAt_eq_ok]
  constructor
  · rintro ⟨uid, huid, name, hname, email, hemail, nick, hnick, desc, hdesc, sex, hsex, icon,
      hicon, -⟩
    exact ⟨⟨⟨uid, huid⟩, ⟨sex, hsex⟩, List.forall_mem_nil _⟩, ⟨name, hname⟩, ⟨email, hemail⟩,
      ⟨nick, hnick⟩, ⟨desc, hdesc⟩, ⟨icon, hicon⟩, List.forall_mem_nil _⟩
  · rintro ⟨⟨⟨uid, huid⟩, ⟨sex, hsex⟩, -⟩, ⟨name, hname⟩, ⟨email, hemail⟩, ⟨nick, hnick⟩,
      ⟨desc, hdesc⟩, ⟨icon, hicon⟩, -⟩
    exact ⟨uid, huid, name, hname, email, hemail, nick, hnick, desc, hdesc, sex, hsex, icon,
      hicon, _, rfl⟩

variable {s : HandlerState W} {body : List UInt8}

theorem returns_json_bind {α β : Type} {x : Except Json.Error α} {g : α → Handler W β} :
    (json x >>= g).Returns s ↔ ∃ a, x = .ok a ∧ (g a).Returns s := by
  unfold json
  rw [returns_ofExcept_bind]
  cases x with
  | error e | ok a => simp [Except.mapError]

theorem returns_ask_bind {ρ α : Type} {f : W → ρ × W} {g : ρ → Handler W α} :
    (ask f >>= g).Returns s ↔
      (g (f s.world).1).Returns { s with world := (f s.world).2 } := returns_call_bind

/-- The lookup behind `SearchInfo`: a cached entry has to be a profile, and
without one the database has to be asked. -/
theorem returns_getUserCached_iff {key : String} {load : Handler W (Option UserInfo)} {P : Prop}
    (hload : ∀ t, load.Returns t ↔ P) :
    (getUserCached svc key load).Returns s ↔
      match (svc.redisGet key s.world).1 with
      | some info => IsProfile (svc.parse info)
      | none => P := by
  have hstart : (getUserCached svc key load).Returns s ↔ _ :=
    returns_call_bind.trans returns_ask_bind
  rw [hstart]
  show Returns (match (svc.redisGet key s.world).1 with
    | some info => _
    | none => _) _ ↔ _
  rcases (svc.redisGet key s.world).1 with - | info
  · -- not in the cache
    rw [← hload]
    refine returns_bind_of_total fun answer => ?_
    rcases answer with - | u
    · exact total_assignError _
    · exact (total_tell _).bind fun _ => total_updateWith _
  · show Returns (json (readProfile (svc.parse info)) >>= _) _ ↔ _
    refine returns_json_bind.trans (Iff.trans ?_ readProfile_isOk)
    constructor
    · rintro ⟨u, hu, -⟩
      exact ⟨u, hu⟩
    · rintro ⟨u, hu⟩
      exact ⟨u, hu, total_updateWith _ _⟩

/-! ### The handlers that can throw -/

/-- What a search by this text needs.  A text of digits, also the empty one, is
looked up as a number. -/
def SearchSafe (svc : Services W) (w : W) (text : String) : Prop :=
  if isPureDigit text then
    match (svc.redisGet ("ubaseinfo_" ++ text) w).1 with
    | some info => IsProfile (svc.parse info)
    | none => text ≠ "" ∧ digitsValue text < 2 ^ 31
  else
    match (svc.redisGet ("nameinfo_" ++ text) w).1 with
    | some info => IsProfile (svc.parse info)
    | none => True

theorem stoi_isOk {text : String} :
    (∃ i, stoi text = .ok i) ↔ text ≠ "" ∧ digitsValue text < 2 ^ 31 := by
  unfold stoi
  split
  · rename_i h
    simp [h]
  · rename_i h
    split
    · simp
      omega
    · simp [h]
      omega

theorem returns_searchInfo_iff :
    (searchInfo svc body).Returns s ↔
      ∃ text, (svc.parse body).field "uid" = some (.str text) ∧ SearchSafe svc s.world text := by
  refine returns_json_bind.trans (exists_congr fun text => ?_)
  refine and_congr Json.textAt_eq_ok ((returns_defer (total_sendPretty _)).trans ?_)
  unfold SearchSafe
  split
  · refine returns_getUserCached_iff fun t => ?_
    exact (returns_bind_of_total fun _ => total_ask _).trans (returns_ofExcept.trans stoi_isOk)
  · exact returns_getUserCached_iff fun t => iff_of_true (total_ask _ t) trivial

/-- Behind the read of `root["thread_id"]` neither of the two list handlers
throws. -/
theorem returns_index_iff {root : Json} {f : Json → Handler W Unit} (h : ∀ v, (f v).Total) :
    (json (root.index "thread_id") >>= f).Returns s ↔ root = .null ∨ root.isObject := by
  rw [returns_json_bind, ← Json.index_isOk "thread_id"]
  constructor
  · rintro ⟨v, hv, -⟩
    exact ⟨v, hv⟩
  · rintro ⟨v, hv⟩
    exact ⟨v, hv, h v s⟩

theorem returns_getUserThreadsHandler_iff :
    (getUserThreadsHandler svc body).Returns s ↔
      svc.parse body = .null ∨ (svc.parse body).isObject := by
  refine returns_call_bind.trans (returns_call_bind.trans (returns_call_bind.trans ?_))
  refine (returns_defer (total_sendPretty _)).trans (returns_index_iff fun v => ?_)
  rcases parseJsonId v with - | lastId
  · exact total_assignError _
  refine (total_ask _).bind fun answer => ?_
  rcases answer with - | ⟨threads, loadMore, nextLastId⟩
  · exact total_assignError _
  refine (total_assign _ _).bind fun _ => (total_assign _ _).bind fun _ => ?_
  exact total_forEach (fun _ => total_push _ _) threads

theorem returns_loadChatMsgHandler_iff :
    (loadChatMsgHandler svc body).Returns s ↔
      svc.parse body = .null ∨ (svc.parse body).isObject := by
  refine returns_call_bind.trans ?_
  refine (returns_defer (total_sendPretty _)).trans (returns_index_iff fun v => ?_)
  rcases parseJsonId v with - | threadId
  · exact total_assignError _
  generalize beforeMessageId (svc.parse body) = before
  rcases before with - | messageId
  · exact total_assignError _
  refine (total_assign _ _).bind fun _ => total_getUserId.bind fun uid => ?_
  refine (total_ask _).bind fun answer => ?_
  rcases answer with - | page
  · exact total_assignError _
  refine (total_assign _ _).bind fun _ => (total_assign _ _).bind fun _ => ?_
  exact total_forEach (fun _ => total_push _ _) page.messages

/-! ### Dispatch -/

/-- The frames that a handler survives, by the number of the request. -/
structure FrameSafe (svc : Services W) (w : W) (msgType : Int) (body : List UInt8) : Prop where
  search : msgType = idSearchUserReq →
    ∃ text, (svc.parse body).field "uid" = some (.str text) ∧ SearchSafe svc w text
  list : msgType = idLoadChatThreadReq ∨ msgType = idLoadChatMsgReq →
    svc.parse body = .null ∨ (svc.parse body).isObject

/-- Apart from the login, only the three requests above reach a handler that can
throw. -/
theorem total_of_callback {msgType : Int} {handler : List UInt8 → Handler W Unit}
    (h : callback svc session msgType = some handler) (hlogin : msgType ≠ msgChatLogin)
    (hsearch : msgType ≠ idSearchUserReq) (hthreads : msgType ≠ idLoadChatThreadReq)
    (hmsgs : msgType ≠ idLoadChatMsgReq) (body : List UInt8) : (handler body).Total := by
  unfold callback at h
  simp only [hlogin, hsearch, hthreads, hmsgs, if_false] at h
  split at h
  · cases h
    exact total_addFriendApplyHandler body
  split at h
  · cases h
    exact total_authFriendApply body
  split at h
  · cases h
    exact total_dealChatTextMsg body
  split at h
  · cases h
    exact total_heartBeatHandler
  split at h
  · cases h
    exact total_createPrivateChatHandler body
  split at h
  · cases h
    exact total_dealCreateResourceMsg body
  split at h
  · cases h
    exact total_dealSyncMessage body
  · cases h

theorem returns_runCallback_iff {msgType : Int} (hlogin : msgType ≠ msgChatLogin) :
    (runCallback svc session msgType body).Returns s ↔ FrameSafe svc s.world msgType body := by
  by_cases hsearch : msgType = idSearchUserReq
  · subst hsearch
    refine returns_searchInfo_iff.trans ⟨fun h => ⟨fun _ => h, ?_⟩, fun h => h.search rfl⟩
    rintro (h | h) <;> exact absurd h (by decide)
  by_cases hthreads : msgType = idLoadChatThreadReq
  · subst hthreads
    refine returns_getUserThreadsHandler_iff.trans
      ⟨fun h => ⟨fun hs => absurd hs hsearch, fun _ => h⟩, fun h => h.list (.inl rfl)⟩
  by_cases hmsgs : msgType = idLoadChatMsgReq
  · subst hmsgs
    refine returns_loadChatMsgHandler_iff.trans
      ⟨fun h => ⟨fun hs => absurd hs hsearch, fun _ => h⟩, fun h => h.list (.inr rfl)⟩
  -- the other requests, and the numbers without a handler
  have hsafe : FrameSafe svc s.world msgType body :=
    ⟨fun h => absurd h hsearch, fun h => (h.elim hthreads hmsgs).elim⟩
  refine iff_of_true ?_ hsafe
  unfold runCallback
  rcases e : callback svc session msgType with - | handler
  · exact returns_pure ()
  · exact total_of_callback e hlogin hsearch hthreads hmsgs body s

/-- **Which frames of an authenticated session are survived.**  If the session
is still open and its user is the one that its queue was chosen for, exactly the
frames that are `FrameSafe`; otherwise no handler is called and every frame is. -/
theorem returns_dispatchClientMessage_iff (svc : Services W) (session : Session)
    (s : HandlerState W) (hauth : s.userUid ≠ 0) (msgType : Int) (body : List UInt8) :
    (dispatchClientMessage svc session msgType body).Returns s ↔
      ((svc.isOpen s.world).1 = true → s.userUid = session.routingUid →
        FrameSafe svc (svc.isOpen s.world).2 msgType body) := by
  refine returns_ask_bind.trans ?_
  by_cases hopen : (svc.isOpen s.world).1 = true
  swap
  · rw [if_pos (Bool.eq_false_iff.mpr hopen)]
    exact iff_of_true (returns_pure ()) fun h => absurd h hopen
  rw [if_neg (by simp [hopen])]
  refine returns_call_bind.trans ?_
  show Returns (if msgType = msgChatLogin then
      if s.userUid ≠ 0 then _ else _
    else if s.userUid = 0 ∨ s.userUid ≠ session.routingUid then _ else _) _ ↔ _
  by_cases hlogin : msgType = msgChatLogin
  · -- a second login closes the session and reaches no handler
    rw [if_pos hlogin, if_pos hauth]
    refine iff_of_true (total_act _ _) fun _ _ => ⟨fun h => ?_, fun h => ?_⟩
    · exact absurd (hlogin.symm.trans h) (by decide)
    · rcases h with h | h <;> exact absurd (hlogin.symm.trans h) (by decide)
  rw [if_neg hlogin]
  by_cases hroute : s.userUid = session.routingUid
  · rw [if_neg (by simp [hauth, hroute.symm])]
    refine (returns_runCallback_iff hlogin).trans ?_
    exact ⟨fun h _ _ => h, fun h => h hopen hroute⟩
  · rw [if_pos (.inr hroute)]
    exact iff_of_true (Total.ite (total_act _) (total_pure ()) _) fun _ h => absurd h hroute

/-! ### A search on an idle server -/

/-- The request that searches for user 7. -/
def searchSeven : List UInt8 := Wire.utf8 "\x7b\"uid\":\"7\"\x7d"

/-- A server without users whose parser knows `searchSeven`. -/
def searchServices : Services Unit :=
  idleServices Unit fun text => if text = searchSeven then .obj [("uid", .str "7")] else .discarded

/-- User 1, logged in. -/
def userOne : HandlerState Unit := { world := (), userUid := 1 }

/-- A 1201 frame without a body ends the process. -/
theorem emptySearch_not_returns :
    userOne.userUid ≠ 0 ∧
      ¬(dispatchClientMessage searchServices ⟨"s1", 1⟩ idSearchUserReq []).Returns userOne := by
  have hthrows : (dispatchClientMessage searchServices ⟨"s1", 1⟩ idSearchUserReq [] userOne).1 =
      .error (.json .noMembers) := rfl
  refine ⟨by decide, ?_⟩
  rintro ⟨a, t, h⟩
  rw [h] at hthrows
  cases hthrows

theorem searchSeven_returns :
    (dispatchClientMessage searchServices ⟨"s1", 1⟩ idSearchUserReq searchSeven).Returns
      userOne := by
  refine (returns_dispatchClientMessage_iff _ _ userOne (by decide) _ _).mpr fun _ _ => ?_
  refine ⟨fun _ => ⟨"7", ?_, ?_⟩, fun h => absurd h (by decide)⟩
  · have hparse : searchServices.parse searchSeven = .obj [("uid", .str "7")] := by
      simp [searchServices, idleServices]
    rw [hparse]
    rfl
  · show "7" ≠ "" ∧ digitsValue "7" < 2 ^ 31
    decide

end LlfcChat
