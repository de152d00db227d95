/-
What the local database says about a message that is on its way.

In every committed state a message is being sent if and only if it has an outbox row,
an outbox row in the stage of the upload belongs to a resource that the server knows,
and the resources are exactly those of the pictures and files.  No fault of a statement
changes that, as long as an id is always used for messages of one type: the types are
the two functions of `Types`.

`Rows` is about the tables of messages and resources, `Queue` about the outbox.  Each
method is a transaction whose body takes both to both, which the rules of `Sqlite`
turn into a statement about the committed state.
-/
import LlfcChat.Client.LocalStore

namespace LlfcChat.LocalStore

open Sqlite LocalDb

/-- The type a server id and a client id stand for. -/
structure Types where
  ofMessage : Int → Int
  ofClient : String → Int

/-- A message whose ids are used for its type. -/
def Types.Fits (τ : Types) (message : LocalMessageDTO) : Prop :=
  message.messageType = τ.ofMessage message.messageId ∧
    (message.clientMessageId ≠ "" → message.messageType = τ.ofClient message.clientMessageId)

/-! ### The invariant -/

/-- The rows of messages and resources. -/
structure Rows (τ : Types) (db : LocalDb) : Prop where
  locals : ∀ r ∈ db.messages, ∀ r' ∈ db.messages, r.localMessageId = r'.localMessageId → r = r'
  fresh : ∀ r ∈ db.messages, r.localMessageId < db.nextLocalMessageId
  clients : ∀ r ∈ db.messages, ∀ r' ∈ db.messages, ∀ c,
    r.clientMessageId = some c → r'.clientMessageId = some c → r = r'
  known : ∀ r ∈ db.messages, KnownType r.messageType
  typedId : ∀ r ∈ db.messages, ∀ m, r.messageId = some m → r.messageType = τ.ofMessage m
  typedClient : ∀ r ∈ db.messages, ∀ c, r.clientMessageId = some c →
    r.messageType = τ.ofClient c
  keys : (db.resources.map (·.localMessageId)).Nodup
  owner : ∀ x ∈ db.resources, ∃ r ∈ db.messages,
    r.localMessageId = x.localMessageId ∧ r.messageType ≠ 0
  resource : ∀ r ∈ db.messages, r.messageType ≠ 0 →
    ∃ x ∈ db.resources, x.localMessageId = r.localMessageId

/-- The outbox. -/
structure Queue (db : LocalDb) : Prop where
  sending : ∀ r ∈ db.messages, r.sendStatus = .sending ↔
    ∃ e ∈ db.outbox, r.clientMessageId = some e.clientMessageId
  message : ∀ e ∈ db.outbox, ∃ r ∈ db.messages, r.clientMessageId = some e.clientMessageId
  uploading : ∀ e ∈ db.outbox, e.stage = .uploading → ∃ r ∈ db.messages,
    r.clientMessageId = some e.clientMessageId ∧ r.messageType ≠ 0 ∧ r.messageId.isSome

/-- Both, for the whole file. -/
def Sane (τ : Types) (s : Store) : Prop := Rows τ s.db ∧ Queue s.db

variable {τ : Types} {db db' : LocalDb}

/-! ### New rows -/

variable {now : Int} {message : LocalMessageDTO} {resource : LocalMessageResourceDTO}
  {r : MessageRow} {p : MessageRow → Bool} {f : MessageRow → MessageRow} {c : String}

/-- A new message with its resource, under the next local id. -/
theorem Rows.append (h : Rows τ db) {l : List MessageResourceRow}
    (hlocal : r.localMessageId = db.nextLocalMessageId) (hknown : KnownType r.messageType)
    (hclient : ∀ c, r.clientMessageId = some c →
      (∀ r' ∈ db.messages, r'.clientMessageId ≠ some c) ∧ r.messageType = τ.ofClient c)
    (hid : ∀ m, r.messageId = some m → r.messageType = τ.ofMessage m)
    (hxs : if r.messageType = 0 then l = [] else ∃ x, l = [x] ∧
      x.localMessageId = r.localMessageId) (hmessages : db'.messages = db.messages ++ [r])
    (hnext : db'.nextLocalMessageId = db.nextLocalMessageId + 1)
    (hresources : db'.resources = db.resources ++ l) : Rows τ db' := by
  have hlt : ∀ r' ∈ db.messages, r'.localMessageId ≠ r.localMessageId := fun r' hr' heq =>
    absurd (h.fresh r' hr') (by omega)
  have hmem : ∀ r', r' ∈ db'.messages ↔ r' ∈ db.messages ∨ r' = r := fun r' => by
    rw [hmessages, List.mem_append, List.mem_singleton]
  have hmemx : ∀ x, x ∈ db'.resources ↔ x ∈ db.resources ∨ x ∈ l := fun x => by
    rw [hresources, List.mem_append]
  refine ⟨?_, ?_, ?_, ?_, ?_, ?_, ?_, ?_, ?_⟩
  · intro a ha b hb heq
    rcases (hmem a).mp ha with ha | rfl <;> rcases (hmem b).mp hb with hb | rfl
    · exact h.locals a ha b hb heq
    · exact absurd heq (hlt a ha)
    · exact absurd heq.symm (hlt b hb)
    · rfl
  · intro a ha
    rcases (hmem a).mp ha with ha | rfl
    · have := h.fresh a ha
      omega
    · omega
  · intro a ha b hb c hac hbc
    rcases (hmem a).mp ha with ha | rfl <;> rcases (hmem b).mp hb with hb | rfl
    · exact h.clients a ha b hb c hac hbc
    · exact absurd hac ((hclient c hbc).1 a ha)
    · exact absurd hbc ((hclient c hac).1 b hb)
    · rfl
  · intro a ha
    rcases (hmem a).mp ha with ha | rfl
    · exact h.known a ha
    · exact hknown
  · intro a ha
    rcases (hmem a).mp ha with ha | rfl
    · exact h.typedId a ha
    · exact hid
  · intro a ha c hc
    rcases (hmem a).mp ha with ha | rfl
    · exact h.typedClient a ha c hc
    · exact (hclient c hc).2
  · -- the new key is not in use: it would belong to a message
    rw [hresources, List.map_append]
    split at hxs
    · subst hxs
      simpa using h.keys
    · obtain ⟨x, rfl, hx⟩ := hxs
      refine List.nodup_append.mpr ⟨h.keys, List.nodup_singleton _, ?_⟩
      intro k hk k' hk' heq
      obtain ⟨y, hy, rfl⟩ := List.mem_map.mp hk
      obtain ⟨o, ho, hoy, _⟩ := h.owner y hy
      rw [List.map_cons, List.map_nil, List.mem_singleton] at hk'
      exact hlt o ho (hoy.trans (heq.trans (hk'.trans hx)))
  · intro x hx
    rcases (hmemx x).mp hx with hx | hx
    · obtain ⟨o, ho, hox⟩ := h.owner x hx
      exact ⟨o, (hmem o).mpr (.inl ho), hox⟩
    · split at hxs
      · rw [hxs] at hx
        cases hx
      · next ht =>
        obtain ⟨y, rfl, hy⟩ := hxs
        rw [List.mem_singleton] at hx
        exact ⟨r, (hmem r).mpr (.inr rfl), by rw [hx, hy], ht⟩
  · intro a ha ht
    rcases (hmem a).mp ha with ha | rfl
    · obtain ⟨x, hx, hxa⟩ := h.resource a ha ht
      exact ⟨x, (hmemx x).mpr (.inl hx), hxa⟩
    · rw [if_neg ht] at hxs
      obtain ⟨x, rfl, hx⟩ := hxs
      exact ⟨x, (hmemx x).mpr (.inr (List.mem_singleton_self x)), hx⟩

/-- A new message that is not being sent. -/
theorem Queue.append (h : Queue db) (hstatus : r.sendStatus ≠ .sending)
    (hclient : ∀ c, r.clientMessageId = some c →
      ∀ r' ∈ db.messages, r'.clientMessageId ≠ some c)
    (hmessages : db'.messages = db.messages ++ [r]) (houtbox : db'.outbox = db.outbox) :
    Queue db' := by
  have hmem : ∀ r' ∈ db.messages, r' ∈ db'.messages := fun r' hr' => by
    rw [hmessages]
    exact List.mem_append_left _ hr'
  refine ⟨?_, ?_, ?_⟩
  · rw [hmessages, houtbox]
    intro a ha
    rcases List.mem_append.mp ha with ha | ha
    · exact h.sending a ha
    · rw [List.mem_singleton] at ha
      subst ha
      refine ⟨fun hs => absurd hs hstatus, ?_⟩
      -- its client id would be that of another message
      rintro ⟨e, he, hc⟩
      obtain ⟨r', hr', hc'⟩ := h.message e he
      exact absurd hc' (hclient _ hc r' hr')
  · rw [houtbox]
    intro e he
    obtain ⟨r', hr', hc'⟩ := h.message e he
    exact ⟨r', hmem r' hr', hc'⟩
  · rw [houtbox]
    intro e he hu
    obtain ⟨r', hr', hc'⟩ := h.uploading e he hu
    exact ⟨r', hmem r' hr', hc'⟩

/-- A new message together with its outbox row. -/
theorem Queue.enqueue (h : Queue db) {e : OutboxEntryDTO} (hstatus : r.sendStatus = .sending)
    (hclient : r.clientMessageId = some e.clientMessageId)
    (hnew : ∀ r' ∈ db.messages, r'.clientMessageId ≠ some e.clientMessageId)
    (hstage : e.stage ≠ .uploading) (hmessages : db'.messages = db.messages ++ [r])
    (houtbox : db'.outbox = db.outbox ++ [e]) : Queue db' := by
  have hmem : ∀ r', r' ∈ db'.messages ↔ r' ∈ db.messages ∨ r' = r := fun r' => by
    rw [hmessages, List.mem_append, List.mem_singleton]
  have hmeme : ∀ e', e' ∈ db'.outbox ↔ e' ∈ db.outbox ∨ e' = e := fun e' => by
    rw [houtbox, List.mem_append, List.mem_singleton]
  refine ⟨?_, ?_, ?_⟩
  · intro a ha
    rcases (hmem a).mp ha with ha | rfl
    · rw [h.sending a ha]
      constructor
      · rintro ⟨e', he', hc⟩
        exact ⟨e', (hmeme e').mpr (.inl he'), hc⟩
      · rintro ⟨e', he', hc⟩
        rcases (hmeme e').mp he' with he' | rfl
        · exact ⟨e', he', hc⟩
        · exact absurd hc (hnew a ha)
    · exact ⟨fun _ => ⟨e, (hmeme e).mpr (.inr rfl), hclient⟩, fun _ => hstatus⟩
  · intro e' he'
    rcases (hmeme e').mp he' with he' | rfl
    · obtain ⟨r', hr', hc'⟩ := h.message e' he'
      exact ⟨r', (hmem r').mpr (.inl hr'), hc'⟩
    · exact ⟨r, (hmem r).mpr (.inr rfl), hclient⟩
  · intro e' he' hu
    rcases (hmeme e').mp he' with he' | rfl
    · obtain ⟨r', hr', hc'⟩ := h.uploading e' he' hu
      exact ⟨r', (hmem r').mpr (.inl hr'), hc'⟩
    · exact absurd hu hstage

/-! ### Updates -/

/-- An update of messages that keeps their keys and types. -/
theorem Rows.update (h : Rows τ db) (hlocal : ∀ r, (f r).localMessageId = r.localMessageId)
    (hclient : ∀ r, (f r).clientMessageId = r.clientMessageId)
    (htype : ∀ r, (f r).messageType = r.messageType)
    (hid : ∀ r ∈ db.messages, p r = true → ∀ m, (f r).messageId = some m →
      r.messageType = τ.ofMessage m)
    (hmessages : db'.messages = Table.update (p · = true) f db.messages)
    (hnext : db'.nextLocalMessageId = db.nextLocalMessageId)
    (hresources : db'.resources = db.resources) : Rows τ db' := by
  have hl := fun r => Table.updated_column (p := (p · = true)) hlocal r
  have hc := fun r => Table.updated_column (p := (p · = true)) hclient r
  have ht := fun r => Table.updated_column (p := (p · = true)) htype r
  have hmem : ∀ r, r ∈ db'.messages ↔ ∃ y ∈ db.messages, Table.updated (p · = true) f y = r := by
    intro r
    rw [hmessages, Table.mem_update]
  refine ⟨?_, ?_, ?_, ?_, ?_, ?_, ?_, ?_, ?_⟩
  · intro a ha b hb heq
    obtain ⟨x, hx, rfl⟩ := (hmem a).mp ha
    obtain ⟨y, hy, rfl⟩ := (hmem b).mp hb
    rw [hl, hl] at heq
    rw [h.locals x hx y hy heq]
  · intro a ha
    obtain ⟨x, hx, rfl⟩ := (hmem a).mp ha
    rw [hl, hnext]
    exact h.fresh x hx
  · intro a ha b hb c hac hbc
    obtain ⟨x, hx, rfl⟩ := (hmem a).mp ha
    obtain ⟨y, hy, rfl⟩ := (hmem b).mp hb
    rw [hc] at hac hbc
    rw [h.clients x hx y hy c hac hbc]
  · intro a ha
    obtain ⟨x, hx, rfl⟩ := (hmem a).mp ha
    rw [ht]
    exact h.known x hx
  · intro a ha m hm
    obtain ⟨x, hx, rfl⟩ := (hmem a).mp ha
    rw [ht]
    by_cases hp : p x = true
    · rw [Table.updated_pos (p := (p · = true)) hp] at hm
      exact hid x hx hp m hm
    · rw [Table.updated_neg (p := (p · = true)) hp] at hm
      exact h.typedId x hx m hm
  · intro a ha c hac
    obtain ⟨x, hx, rfl⟩ := (hmem a).mp ha
    rw [hc] at hac
    rw [ht]
    exact h.typedClient x hx c hac
  · rw [hresources]
    exact h.keys
  · rw [hresources]
    intro x hx
    obtain ⟨o, ho, hox, hot⟩ := h.owner x hx
    exact ⟨_, (hmem _).mpr ⟨o, ho, rfl⟩, by rw [hl]; exact hox, by rw [ht]; exact hot⟩
  · rw [hresources]
    intro a ha hta
    obtain ⟨x, hx, rfl⟩ := (hmem a).mp ha
    rw [ht] at hta
    rw [hl]
    exact h.resource x hx hta

/-- The row that an update for one client id changes is the one with this id. -/
theorem Rows.matched (h : Rows τ db) (hp : ∀ r, p r = true → r.clientMessageId = some c)
    (hcount : db.messages.countP p = 1) (hr : r ∈ db.messages) (hc : r.clientMessageId = some c) :
    p r = true := by
  obtain ⟨r₀, hr₀, hp₀⟩ := List.countP_pos_iff.mp (hcount ▸ Nat.one_pos)
  rw [h.clients r hr r₀ hr₀ c hc (hp r₀ hp₀)]
  exact hp₀

/-- A message that leaves the outbox is not being sent any more. -/
theorem Queue.settle (h : Queue db) (hrows : Rows τ db)
    (hp : ∀ r, p r = true → r.clientMessageId = some c) (hcount : db.messages.countP p = 1)
    (hclient : ∀ r, (f r).clientMessageId = r.clientMessageId)
    (hstatus : ∀ r, (f r).sendStatus ≠ .sending)
    (hmessages : db'.messages = Table.update (p · = true) f db.messages)
    (houtbox : db'.outbox = db.outbox.filter (·.clientMessageId ≠ c)) : Queue db' := by
  have hc := fun r => Table.updated_column (p := (p · = true)) hclient r
  have hmeme : ∀ e, e ∈ db'.outbox ↔ e ∈ db.outbox ∧ e.clientMessageId ≠ c := fun e => by
    rw [houtbox, List.mem_filter, decide_eq_true_iff]
  -- the rows of the other client ids are as they were
  have hother : ∀ e ∈ db'.outbox, ∀ r ∈ db.messages, r.clientMessageId = some e.clientMessageId →
      r ∈ db'.messages := by
    intro e he r hr hre
    rw [hmessages, Table.mem_update]
    refine ⟨r, hr, Table.updated_neg (p := (p · = true)) fun hpr => ((hmeme e).mp he).2 ?_⟩
    exact Option.some.inj (hre.symm.trans (hp r hpr))
  refine ⟨?_, ?_, ?_⟩
  · intro a ha
    rw [hmessages, Table.mem_update] at ha
    obtain ⟨x, hx, rfl⟩ := ha
    rw [hc]
    by_cases hxp : p x = true
    · rw [Table.updated_pos (p := (p · = true)) hxp]
      refine ⟨fun hs => absurd hs (hstatus x), ?_⟩
      rintro ⟨e, he, hxe⟩
      exact absurd (Option.some.inj (hxe.symm.trans (hp x hxp))) ((hmeme e).mp he).2
    · rw [Table.updated_neg (p := (p · = true)) hxp, h.sending x hx]
      constructor
      · rintro ⟨e, he, hxe⟩
        refine ⟨e, (hmeme e).mpr ⟨he, fun hec => hxp ?_⟩, hxe⟩
        exact hrows.matched hp hcount hx (hec ▸ hxe)
      · rintro ⟨e, he, hxe⟩
        exact ⟨e, ((hmeme e).mp he).1, hxe⟩
  · intro e he
    obtain ⟨r, hr, hre⟩ := h.message e ((hmeme e).mp he).1
    exact ⟨r, hother e he r hr hre, hre⟩
  · intro e he hu
    obtain ⟨r, hr, hre, hrest⟩ := h.uploading e ((hmeme e).mp he).1 hu
    exact ⟨r, hother e he r hr hre, hre, hrest⟩

/-- A resource whose id the server has sent goes on to the upload. -/
theorem Queue.stage (h : Queue db) (hrows : Rows τ db) {stage : ResourceStage}
    (hp : ∀ r, p r = true → r.clientMessageId = some c ∧ r.messageType ≠ 0)
    (hcount : db.messages.countP p = 1) (hclient : ∀ r, (f r).clientMessageId = r.clientMessageId)
    (hstatus : ∀ r, (f r).sendStatus = r.sendStatus)
    (htype : ∀ r, (f r).messageType = r.messageType) (hid : ∀ r, (f r).messageId.isSome)
    (hmessages : db'.messages = Table.update (p · = true) f db.messages)
    (houtbox : db'.outbox = Table.update (·.clientMessageId = c)
      (fun e => { e with stage := stage }) db.outbox) : Queue db' := by
  have hc := fun r => Table.updated_column (p := (p · = true)) hclient r
  have hs := fun r => Table.updated_column (p := (p · = true)) hstatus r
  have ht := fun r => Table.updated_column (p := (p · = true)) htype r
  have he := fun e : OutboxEntryDTO => Table.updated_column (p := (·.clientMessageId = c))
    (f := fun e => { e with stage := stage }) (g := (·.clientMessageId)) (fun _ => rfl) e
  have hmem : ∀ x ∈ db.messages, Table.updated (p · = true) f x ∈ db'.messages := fun x hx => by
    rw [hmessages]
    exact Table.mem_update.mpr ⟨x, hx, rfl⟩
  refine ⟨?_, ?_, ?_⟩
  · intro a ha
    rw [hmessages, Table.mem_update] at ha
    obtain ⟨x, hx, rfl⟩ := ha
    rw [hc, hs, h.sending x hx, houtbox]
    constructor
    · rintro ⟨e, hem, hxe⟩
      exact ⟨_, Table.mem_update.mpr ⟨e, hem, rfl⟩, by rw [he]; exact hxe⟩
    · rintro ⟨e', hem', hxe⟩
      obtain ⟨e, hem, rfl⟩ := Table.mem_update.mp hem'
      exact ⟨e, hem, by rw [he] at hxe; exact hxe⟩
  · intro e' hem'
    rw [houtbox, Table.mem_update] at hem'
    obtain ⟨e, hem, rfl⟩ := hem'
    obtain ⟨x, hx, hxe⟩ := h.message e hem
    exact ⟨_, hmem x hx, by rw [hc, he]; exact hxe⟩
  · intro e' hem' hu
    rw [houtbox, Table.mem_update] at hem'
    obtain ⟨e, hem, rfl⟩ := hem'
    obtain ⟨x, hx, hxe⟩ := h.message e hem
    refine ⟨_, hmem x hx, by rw [hc, he]; exact hxe, ?_⟩
    rw [ht]
    by_cases hec : e.clientMessageId = c
    · -- the row of this call: it has just got its id
      have hpx := hrows.matched (fun r hr => (hp r hr).1) hcount hx (hec ▸ hxe)
      rw [Table.updated_pos (p := (p · = true)) hpx]
      exact ⟨(hp x hpx).2, hid x⟩
    · rw [Table.updated_neg (p := fun e : OutboxEntryDTO => e.clientMessageId = c) hec] at hu
      obtain ⟨y, hy, hye, hyt, hyid⟩ := h.uploading e hem hu
      have hxy : x = y := hrows.clients x hx y hy _ hxe hye
      subst hxy
      have hnp : ¬p x = true := fun hpx =>
        hec (Option.some.inj (hxe.symm.trans (hp x hpx).1))
      rw [Table.updated_neg (p := (p · = true)) hnp]
      exact ⟨hyt, hyid⟩

/-- A change of the resources that keeps their keys. -/
theorem Rows.resources (h : Rows τ db)
    (hkeys : db'.resources.map (·.localMessageId) = db.resources.map (·.localMessageId))
    (hmessages : db'.messages = db.messages)
    (hnext : db'.nextLocalMessageId = db.nextLocalMessageId) : Rows τ db' := by
  have hkey : ∀ k, (∃ x ∈ db'.resources, x.localMessageId = k) ↔
      ∃ x ∈ db.resources, x.localMessageId = k := fun k => by
    rw [← List.mem_map, ← List.mem_map, hkeys]
  refine ⟨hmessages ▸ h.locals, ?_, hmessages ▸ h.clients, hmessages ▸ h.known,
    hmessages ▸ h.typedId, hmessages ▸ h.typedClient, hkeys ▸ h.keys, ?_, ?_⟩
  · rw [hmessages, hnext]
    exact h.fresh
  · rw [hmessages]
    intro x hx
    obtain ⟨y, hy, hyx⟩ := (hkey x.localMessageId).mp ⟨x, hx, rfl⟩
    rw [← hyx]
    exact h.owner y hy
  · rw [hmessages]
    intro r hr ht
    exact (hkey _).mpr (h.resource r hr ht)

/-- The queue does not depend on the other tables. -/
theorem Queue.congr (h : Queue db) (hmessages : db'.messages = db.messages)
    (houtbox : db'.outbox = db.outbox) : Queue db' := by
  refine ⟨?_, ?_, ?_⟩
  · rw [hmessages, houtbox]
    exact h.sending
  · rw [hmessages, houtbox]
    exact h.message
  · rw [hmessages, houtbox]
    exact h.uploading

/-! ### The methods as functions

What a body does when all its statements succeed. -/

section Holds

variable {α : Type} {w : Store}

theorem holds_onDb {f : LocalDb → Option (α × LocalDb)} {Q : α → Store → Prop}
    (h : ∀ a db', f w.db = some (a, db') → Q a { w with db := db' }) : Holds (onDb f) w Q := by
  refine holds_exec fun a w' hf => ?_
  obtain ⟨r, hr, heq⟩ := Option.map_eq_some_iff.mp hf
  cases heq
  exact h r.1 r.2 hr

theorem holds_quiet {f : LocalDb → Option LocalDb} {Q : Unit → Store → Prop}
    (h : ∀ db', f w.db = some db' → Q () { w with db := db' }) : Holds (onDb (quiet f)) w Q := by
  refine holds_onDb fun a db' hf => ?_
  obtain ⟨r, hr, heq⟩ := Option.map_eq_some_iff.mp hf
  cases heq
  exact h _ hr

theorem holds_fill (out : Bool) (c : String) {Q : Option MessageRow → Store → Prop}
    (h : ∀ a, Q a w) : Holds (fillMessageByClientId out c) w Q := by
  unfold fillMessageByClientId
  split
  · exact holds_select fun a _ => h a
  · exact holds_pure (h none)

theorem holds_leaveOutbox (out : Bool) (c : String) {Q : Option MessageRow → Store → Prop}
    (h : ∀ a, Q a { w with db := deleteOutbox c w.db }) : Holds (leaveOutbox out c) w Q := by
  refine Holds.bind (holds_quiet fun db' hdb => ?_)
  cases hdb
  exact holds_fill out c h

/-- `insertMessageIgnore` is the function of `LocalDb`. -/
theorem holds_insertMessageIgnore (message : LocalMessageDTO) (resource : LocalMessageResourceDTO)
    {Q : Bool → Store → Prop}
    (h : ∀ b db', w.db.insertMessageIgnore message resource = some (b, db') →
      Q b { w with db := db' }) :
    Holds (insertMessageIgnore message resource) w Q := by
  refine Holds.bind (holds_check fun hok => ?_)
  refine Holds.bind (holds_onDb fun newId db hins => ?_)
  have hins' : w.db.insertOrIgnore message = (newId, db) := Option.some.inj hins
  have hpure : ∀ localId, newId.or ((db.messages.find? (·.messageId = some message.messageId)).map
      (·.localMessageId)) = some localId → w.db.insertMessageIgnore message resource =
      if message.messageType = 0 then some (newId.isSome, db)
      else if ¬resource.Complete then none
      else some (newId.isSome, db.upsertResource localId resource) := by
    intro localId hfound
    unfold LocalDb.insertMessageIgnore
    rw [if_neg hok, hins']
    simp only [hfound]
  -- what follows once the local id is known
  have hrest : ∀ localId, newId.or ((db.messages.find? (·.messageId = some message.messageId)).map
      (·.localMessageId)) = some localId →
      Holds (if message.messageType = 0 then pure newId.isSome
        else do
          check resource.Complete
          onDb <| quiet fun db => some (db.upsertResource localId resource)
          pure newId.isSome) { w with db := db } Q := by
    intro localId hfound
    have hp := hpure localId hfound
    split
    · next ht =>
      rw [if_pos ht] at hp
      exact holds_pure (h _ _ hp)
    · next ht =>
      refine Holds.bind (holds_check fun hcomplete => ?_)
      refine Holds.bind (holds_quiet fun db' hdb => ?_)
      rw [if_neg ht, if_neg (not_not.mpr hcomplete)] at hp
      cases hdb
      exact holds_pure (h _ _ hp)
  cases newId with
  | some localId => exact hrest localId rfl
  | none =>
    refine Holds.bind (holds_select fun localId hfound => ?_)
    exact hrest localId hfound

/-- `insertPageLoop` is the function of `LocalDb`. -/
theorem holds_insertPageLoop (threadId : Int) {Q : Int → Store → Prop} :
    ∀ (page : List (LocalMessageDTO × LocalMessageResourceDTO)) (oldest : Int) (w : Store),
      (∀ a db', LocalDb.insertPageLoop threadId page oldest w.db = some (a, db') →
        Q a { w with db := db' }) →
      Holds (insertPageLoop threadId page oldest) w Q
  | [], oldest, w, h => holds_pure (h oldest w.db rfl)
  | (message, resource) :: page, oldest, w, h => by
    refine Holds.bind (holds_check fun hthread => ?_)
    refine Holds.bind (holds_insertMessageIgnore message resource fun b db hins => ?_)
    refine holds_insertPageLoop threadId page _ _ fun a db' hloop => ?_
    refine h a db' ?_
    unfold LocalDb.insertPageLoop
    rw [if_neg (not_not.mpr hthread), hins]
    exact hloop

end Holds

/-! ### The methods keep the invariant -/

/-- The row that `insertMessage` writes. -/
theorem insertMessage_some {localId : Int}
    (h : insertMessage now message db = some (localId, db')) :
    (∀ r ∈ db.messages, r.clientMessageId ≠ some message.clientMessageId) ∧
    ∃ r : MessageRow, r.localMessageId = db.nextLocalMessageId ∧ r.messageId = none ∧
      r.clientMessageId = some message.clientMessageId ∧ r.messageType = message.messageType ∧
      r.sendStatus = .sending ∧ localId = db.nextLocalMessageId ∧
      db'.messages = db.messages ++ [r] ∧ db'.nextLocalMessageId = db.nextLocalMessageId + 1 ∧
      db'.resources = db.resources ∧ db'.outbox = db.outbox := by
  unfold insertMessage at h
  split at h
  · cases h
  next hnew =>
  refine ⟨fun r hr heq => hnew (List.any_eq_true.mpr ⟨r, hr, decide_eq_true heq⟩), ?_⟩
  cases h
  exact ⟨_, rfl, rfl, rfl, rfl, rfl, rfl, rfl, rfl, rfl, rfl⟩

/-- The row that `insertResource` writes. -/
theorem insertResource_some {localId : Int} (h : insertResource localId resource db = some db') :
    ∃ x : MessageResourceRow, x.localMessageId = localId ∧ db'.resources = db.resources ++ [x] ∧
      db'.messages = db.messages ∧ db'.nextLocalMessageId = db.nextLocalMessageId ∧
      db'.outbox = db.outbox := by
  unfold insertResource at h
  split at h
  · cases h
  cases h
  exact ⟨_, rfl, rfl, rfl, rfl, rfl⟩

/-- The row that `insertOutbox` writes. -/
theorem insertOutbox_some {b : Bool} {outbox e : OutboxEntryDTO}
    (h : insertOutbox b outbox db = some (e, db')) :
    e.clientMessageId = outbox.clientMessageId ∧ e.stage ≠ .uploading ∧
      db'.outbox = db.outbox ++ [e] ∧ db'.messages = db.messages ∧
      db'.nextLocalMessageId = db.nextLocalMessageId ∧ db'.resources = db.resources := by
  unfold insertOutbox at h
  split at h
  · cases h
  cases h
  refine ⟨rfl, ?_, rfl, rfl, rfl, rfl⟩
  cases b <;> exact fun hs => nomatch hs

/-- The message of `enqueueSend` with its resource and its outbox row. -/
theorem Sane.enqueue {w : Store} (h : Sane τ w) {outbox : OutboxEntryDTO}
    (hτ : message.messageType = τ.ofClient message.clientMessageId)
    (hknown : message.messageType = 0 ∨ isResource message.messageType)
    (hc : outbox.clientMessageId = message.clientMessageId) :
    Holds (do
      let localId ← onDb (insertMessage now message)
      if isResource message.messageType then
        onDb (quiet (insertResource localId resource))
        onDb (insertOutbox true outbox)
      else
        onDb (insertOutbox false outbox)) w fun _ w' => Sane τ w' := by
  refine Holds.bind (holds_onDb fun localId db₁ h₁ => ?_)
  obtain ⟨hfree, r, hr, hrid, hrc, hrt, hrs, rfl, hm₁, hn₁, hx₁, ho₁⟩ := insertMessage_some h₁
  have hkt : KnownType r.messageType := by
    rw [hrt]
    exact hknown.imp id of_decide_eq_true
  have hclient : ∀ c, r.clientMessageId = some c →
      (∀ r' ∈ w.db.messages, r'.clientMessageId ≠ some c) ∧ r.messageType = τ.ofClient c := by
    intro c hc'
    cases hrc.symm.trans hc'
    exact ⟨hfree, hrt.trans hτ⟩
  have hnoid : ∀ m, r.messageId = some m → r.messageType = τ.ofMessage m := fun m hm => by
    rw [hrid] at hm
    cases hm
  split
  · next hres =>
    refine Holds.bind (holds_quiet fun db₂ h₂ => ?_)
    refine holds_onDb fun e db₃ h₃ => ?_
    obtain ⟨x, hx, hx₂, hm₂, hn₂, ho₂⟩ := insertResource_some h₂
    obtain ⟨hec, hes, ho₃, hm₃, hn₃, hx₃⟩ := insertOutbox_some h₃
    have hxs : if r.messageType = 0 then [x] = []
        else ∃ y, [x] = [y] ∧ y.localMessageId = r.localMessageId := by
      rw [if_neg fun ht => ?_]
      · exact ⟨x, rfl, hx.trans hr.symm⟩
      · rw [← hrt, ht] at hres
        exact absurd hres (by decide)
    refine ⟨h.1.append hr hkt hclient hnoid hxs ?_ ?_ ?_, h.2.enqueue hrs ?_ ?_ hes ?_ ?_⟩
    · exact hm₃.trans (hm₂.trans hm₁)
    · exact hn₃.trans (hn₂.trans hn₁)
    · exact hx₃.trans (hx₂.trans (congrArg (· ++ [x]) hx₁))
    · rw [hrc, hec, hc]
    · rw [hec, hc]
      exact hfree
    · exact hm₃.trans (hm₂.trans hm₁)
    · exact ho₃.trans (congrArg (· ++ [e]) (ho₂.trans ho₁))
  · next hres =>
    refine holds_onDb fun e db₃ h₃ => ?_
    obtain ⟨hec, hes, ho₃, hm₃, hn₃, hx₃⟩ := insertOutbox_some h₃
    have ht : r.messageType = 0 := hrt.trans (hknown.resolve_right hres)
    refine ⟨h.1.append (l := []) hr hkt hclient hnoid ?_ ?_ ?_ ?_,
      h.2.enqueue hrs ?_ ?_ hes ?_ ?_⟩
    · rw [if_pos ht]
    · exact hm₃.trans hm₁
    · exact hn₃.trans hn₁
    · exact hx₃.trans (hx₁.trans (List.append_nil _).symm)
    · rw [hrc, hec, hc]
    · rw [hec, hc]
      exact hfree
    · exact hm₃.trans hm₁
    · exact ho₃.trans (congrArg (· ++ [e]) ho₁)

/-- The end of a sending: the row is updated and leaves the outbox. -/
theorem Sane.settle {w : Store} (h : Sane τ w) {mid : Option Int} (out : Bool)
    (hp : ∀ r, p r = true → r.clientMessageId = some c)
    (hlocal : ∀ r, (f r).localMessageId = r.localMessageId)
    (hclient : ∀ r, (f r).clientMessageId = r.clientMessageId)
    (htype : ∀ r, (f r).messageType = r.messageType) (hstatus : ∀ r, (f r).sendStatus ≠ .sending)
    (hid : ∀ r ∈ w.db.messages, p r = true → ∀ m, (f r).messageId = some m →
      r.messageType = τ.ofMessage m) :
    Holds (do
      onDb (quiet (updateMessage p mid f))
      leaveOutbox out c) w fun _ w' => Sane τ w' := by
  refine Holds.bind (holds_quiet fun db₁ h₁ => ?_)
  refine holds_leaveOutbox out c fun _ => ?_
  unfold updateMessage at h₁
  split at h₁
  · cases h₁
  next hcount =>
  split at h₁
  · cases h₁
  cases h₁
  exact ⟨h.1.update hlocal hclient htype hid rfl rfl rfl,
    h.2.settle h.1 hp (not_not.mp hcount) hclient hstatus rfl rfl⟩

/-- A resource whose id the server has sent. -/
theorem Sane.stage {w : Store} (h : Sane τ w) {m : Int} {stage : ResourceStage} {db₁ db₂ : LocalDb}
    (hτ : τ.ofMessage m = τ.ofClient c)
    (h₁ : updateMessage (fun r => r.clientMessageId = some c && isResource r.messageType) (some m)
      (fun r => { r with messageId := some m }) w.db = some db₁)
    (h₂ : updateOutboxStage c stage db₁ = some db₂) : Sane τ { w with db := db₂ } := by
  have hp : ∀ r : MessageRow, (decide (r.clientMessageId = some c) && isResource r.messageType) =
      true → r.clientMessageId = some c ∧ r.messageType ≠ 0 := by
    intro r hr
    obtain ⟨hc, ht⟩ := Bool.and_eq_true_iff.mp hr
    refine ⟨of_decide_eq_true hc, fun h0 => ?_⟩
    rw [h0] at ht
    exact absurd ht (by decide)
  unfold updateMessage at h₁
  split at h₁
  · cases h₁
  next hcount =>
  split at h₁
  · cases h₁
  cases h₁
  unfold updateOutboxStage at h₂
  split at h₂
  · cases h₂
  cases h₂
  refine ⟨h.1.update (p := fun r => r.clientMessageId = some c && isResource r.messageType)
    (f := fun r => { r with messageId := some m }) (fun _ => rfl) (fun _ => rfl) (fun _ => rfl)
    (fun r hr hpr m' hm' => ?_) rfl rfl rfl,
    h.2.stage (f := fun r => { r with messageId := some m }) h.1 hp
      (not_not.mp hcount) (fun _ => rfl) (fun _ => rfl) (fun _ => rfl) (fun _ => rfl) rfl rfl⟩
  cases hm'
  rw [h.1.typedClient r hr c (hp r hpr).1]
  exact hτ.symm

theorem Sane.localFilePath {w : Store} (h : Sane τ w) {path : String}
    (hdb : updateLocalFilePath p path w.db = some db') : Sane τ { w with db := db' } := by
  unfold updateLocalFilePath at hdb
  split at hdb
  · cases hdb
  split at hdb
  · cases hdb
  cases hdb
  refine ⟨h.1.resources ?_ rfl rfl, h.2.congr rfl rfl⟩
  refine Table.map_update (g := MessageResourceRow.localMessageId) ?_ _
  exact fun _ => rfl

/-- The row of the conversation has no part in the invariant. -/
theorem Sane.conversation {w : Store} (h : Sane τ w) {row : ConversationRow}
    {merge : ConversationRow → ConversationRow}
    (hdb : upsertConversation row merge w.db = some db') :
    Sane τ { w with db := db' } := by
  cases hdb
  exact ⟨h.1.resources rfl rfl rfl, h.2.congr rfl rfl⟩

/-- A message from the server. -/
theorem Sane.insertMessageIgnore {w : Store} (h : Sane τ w) (hτ : τ.Fits message) {b : Bool}
    (hdb : w.db.insertMessageIgnore message resource = some (b, db')) :
    Sane τ { w with db := db' } := by
  unfold LocalDb.insertMessageIgnore at hdb
  split at hdb
  · cases hdb
  next hok =>
  have hknown : KnownType message.messageType := by
    by_contra hk
    exact hok (.inr (.inr (.inr hk)))
  unfold LocalDb.insertOrIgnore at hdb
  by_cases hclash : w.db.messages.any (clashes message) = true
  · -- the row is there already: it has a resource if it needs one
    simp only [if_pos hclash, Option.none_or] at hdb
    split at hdb
    · cases hdb
    next localId hfound =>
    obtain ⟨r, hr, rfl⟩ := Option.map_eq_some_iff.mp hfound
    have hmid : r.messageId = some message.messageId := by
      simpa using List.find?_some hr
    have hrm := List.mem_of_find?_eq_some hr
    split at hdb
    · cases hdb
      exact h
    next ht =>
    split at hdb
    · cases hdb
    cases hdb
    have htr : r.messageType ≠ 0 := by
      rw [h.1.typedId r hrm _ hmid, ← hτ.1]
      exact ht
    obtain ⟨x, hx, hxr⟩ := h.1.resource r hrm htr
    have hany : w.db.resources.any (·.localMessageId = r.localMessageId) = true :=
      List.any_eq_true.mpr ⟨x, hx, decide_eq_true hxr⟩
    simp only [upsertResource, if_pos hany]
    refine ⟨h.1.resources ?_ rfl rfl, h.2.congr rfl rfl⟩
    refine Table.map_update_of (g := MessageResourceRow.localMessageId) ?_ _
    exact fun _ hy => Eq.symm hy
  · have hfree : ∀ c, nullableText message.clientMessageId = some c →
        (∀ r' ∈ w.db.messages, r'.clientMessageId ≠ some c) ∧
          message.messageType = τ.ofClient c := by
      intro c hc
      unfold nullableText at hc
      split at hc
      · cases hc
      next hne =>
      cases hc
      refine ⟨fun r' hr' heq => hclash (List.any_eq_true.mpr ⟨r', hr', ?_⟩), hτ.2 hne⟩
      simp [clashes, heq, hne]
    simp only [if_neg hclash, Option.some_or] at hdb
    split at hdb
    · next ht =>
      cases hdb
      refine ⟨h.1.append (l := []) rfl hknown hfree (fun m hm => ?_) ?_ rfl rfl
        (List.append_nil _).symm, h.2.append ?_ (fun c hc => (hfree c hc).1) rfl rfl⟩
      · cases hm
        exact hτ.1
      · rw [if_pos ht]
      · intro hs
        cases hs
    next ht =>
    split at hdb
    · cases hdb
    cases hdb
    -- no resource can have the new local id
    have hnone : ¬w.db.resources.any (·.localMessageId = w.db.nextLocalMessageId) = true := by
      intro hany
      obtain ⟨x, hx, hxl⟩ := List.any_eq_true.mp hany
      obtain ⟨o, ho, hox, _⟩ := h.1.owner x hx
      have := h.1.fresh o ho
      have hxl' := of_decide_eq_true hxl
      omega
    simp only [upsertResource, if_neg hnone]
    refine ⟨h.1.append rfl hknown hfree (fun m hm => ?_) ?_ rfl rfl rfl,
      h.2.append ?_ (fun c hc => (hfree c hc).1) rfl rfl⟩
    · cases hm
      exact hτ.1
    · rw [if_neg ht]
      exact ⟨_, rfl, rfl⟩
    · intro hs
      cases hs

variable {self : Int} {w : Store}

theorem Sane.receive (h : Sane τ w) (resource : LocalMessageResourceDTO) (hτ : τ.Fits message) :
    Holds (receive self message resource) w fun _ w' => Sane τ w' := by
  refine Holds.bind (holds_insertMessageIgnore message resource fun b db hdb => ?_)
  have h' := h.insertMessageIgnore hτ hdb
  split
  · refine Holds.bind (Holds.mono ?_ fun _ w' hw => holds_pure hw)
    unfold upsertConversationOnMessage
    split
    · refine Holds.bind (holds_pure ?_)
      exact Holds.bind (holds_check fun _ => holds_quiet fun db' hdb' => h'.conversation hdb')
    · refine Holds.bind (holds_select fun peer _ => ?_)
      exact Holds.bind (holds_check fun _ => holds_quiet fun db' hdb' => h'.conversation hdb')
  · exact holds_pure h'

/-- A loop keeps what its rounds keep. -/
theorem holds_collect {α : Type} {round : α → Stmt Store (List Int)} :
    ∀ (l : List α) (w : Store), (∀ a ∈ l, ∀ w, Sane τ w → Holds (round a) w fun _ w' => Sane τ w') →
      Sane τ w → Holds (collect round l) w fun _ w' => Sane τ w'
  | [], _, _, h => holds_pure h
  | a :: rest, w, hround, h => by
    refine Holds.bind ((hround a List.mem_cons_self w h).mono fun ids w' h' => ?_)
    refine Holds.bind ((holds_collect rest w' (fun b hb => hround b (.tail _ hb)) h').mono ?_)
    exact fun more w'' h'' => holds_pure h''

theorem Sane.insertPageLoop {threadId : Int} :
    ∀ (page : List (LocalMessageDTO × LocalMessageResourceDTO)) (oldest : Int) {w : Store},
      Sane τ w → (∀ m ∈ page, τ.Fits m.1) → ∀ {a : Int} {db' : LocalDb},
      LocalDb.insertPageLoop threadId page oldest w.db = some (a, db') →
      Sane τ { w with db := db' }
  | [], _, _, h, _, _, _, hloop => by
    cases hloop
    exact h
  | (message, resource) :: page, oldest, w, h, hτ, a, db', hloop => by
    unfold LocalDb.insertPageLoop at hloop
    split at hloop
    · cases hloop
    split at hloop
    · cases hloop
    next b db hins =>
    have h' := h.insertMessageIgnore (hτ _ List.mem_cons_self) hins
    exact Sane.insertPageLoop (w := { w with db := db }) page _ h'
      (fun m hm => hτ m (.tail _ hm)) hloop

/-- The tables of the synchronisation have no part in the invariant. -/
theorem Sane.exec {α : Type} (h : Sane τ w) {f : Store → Option (α × Store)}
    (hf : ∀ a w', f w = some (a, w') → w'.db = w.db) : Holds (exec f) w fun _ w' => Sane τ w' := by
  refine holds_exec fun a w' hw => ?_
  unfold Sane
  rw [hf a w' hw]
  exact h

theorem Sane.upsertConversations :
    ∀ (conversations : List LocalConversationDTO) {w : Store}, Sane τ w →
      Holds (upsertConversations now conversations) w fun _ w' => Sane τ w'
  | [], _, h => holds_pure h
  | _ :: rest, _, h => by
    refine Holds.bind (holds_check fun _ => ?_)
    refine Holds.bind (holds_quiet fun db' hdb => ?_)
    exact Sane.upsertConversations rest (h.conversation hdb)

theorem Sane.applyEvent (h : Sane τ w) {messages : List LocalMessageDTO}
    {resources : List LocalMessageResourceDTO} {friendRequests : List LocalFriendRequestDTO}
    {contacts : List LocalContactDTO} {event : UserEventDTO} (hτ : ∀ m ∈ messages, τ.Fits m) :
    Holds (applyEvent self now messages resources friendRequests contacts event) w
      fun _ w' => Sane τ w' := by
  unfold LocalStore.applyEvent
  split
  · split
    · exact holds_fail
    · next m hm =>
      exact h.receive m.2 (hτ _ (List.of_mem_zip (List.mem_of_find?_eq_some hm)).1)
  unfold applyFriendEvent
  split
  · exact holds_fail
  next request _ =>
  refine Holds.bind (Holds.mono (Q := fun _ w' => Sane τ w') ?_ fun _ w₁ h₁ => ?_)
  · exact Holds.bind (holds_check fun _ => h.exec fun a w' hw => by cases hw; rfl)
  split
  · exact Holds.bind (holds_check fun _ => holds_pure h₁)
  refine Holds.bind (Holds.mono (Q := fun _ w' => Sane τ w') ?_ fun _ w₂ h₂ => ?_)
  · exact h₁.exec fun a w' hw => by cases hw; rfl
  split
  · exact holds_fail
  refine Holds.bind (Holds.mono (Q := fun _ w' => Sane τ w') ?_ fun _ w₃ h₃ => ?_)
  · exact Holds.bind (holds_check fun _ => h₂.exec fun a w' hw => by cases hw; rfl)
  exact Holds.bind ((h₃.upsertConversations _).mono fun _ w₄ h₄ => holds_pure h₄)

/-! ### Runs -/

/-- The ids in the arguments of a call are used for the types of `τ`. -/
def Op.Fits (τ : Types) : Op → Prop
  | .enqueueSend _ message _ _ => message.messageType = τ.ofClient message.clientMessageId
  | .confirmTextSent _ clientMessageId messageId _ _
  | .updateResourceStage clientMessageId messageId _ _ =>
    τ.ofMessage messageId = τ.ofClient clientMessageId
  | .insertIncoming messages _ => ∀ m ∈ messages, τ.Fits m
  | .applySyncPage _ _ messages _ _ _ _ => ∀ m ∈ messages, τ.Fits m
  | .insertHistoryPage _ messages _ _ => ∀ m ∈ messages, τ.Fits m
  | .confirmResourceSent .. | .markSendFailed .. | .updateResourceLocalPath .. => True

/-- What a call does to the committed state. -/
def Safe (τ : Types) (op : Conn Store → Bool × Conn Store) : Prop :=
  ∀ c, Sane τ c.committed → Sane τ (op c).2.committed ∧
    ((op c).1 = false → (op c).2.committed = c.committed)

theorem safe_report {α : Type} {m : Stmt Store α} (h : Atomic (Sane τ) m) : Safe τ (report m) := by
  intro c hc
  refine ⟨(h c hc).1, fun hf => (h c hc).2 ?_⟩
  exact Option.not_isSome_iff_eq_none.mp (ne_true_of_eq_false hf)

/-- Every method keeps the invariant, and a method that returns false changes nothing. -/
theorem perform_safe {op : Op} (hτ : op.Fits τ) : Safe τ (perform self op) := by
  cases op with
  | enqueueSend now message resource outbox =>
    refine safe_report (Atomic.check_bind fun hok => Atomic.transaction fun s hs => ?_)
    refine hs.enqueue hτ ?_ ?_
    · by_contra hk
      exact hok (.inr (.inr (.inr (.inl ⟨fun h0 => hk (.inl h0), fun hr => hk (.inr hr)⟩))))
    · by_contra hc
      exact hok (.inr (.inr (.inr (.inr (.inl hc)))))
  | confirmTextSent now c m createdAt out =>
    refine safe_report (Atomic.check_bind fun _ => Atomic.transaction fun s hs => ?_)
    refine hs.settle out (fun r hr => ?_) (fun _ => rfl) (fun _ => rfl) (fun _ => rfl)
      (fun _ h => nomatch h) fun r hr hp m' hm' => ?_
    · exact of_decide_eq_true (Bool.and_eq_true_iff.mp hr).1
    · cases hm'
      rw [hs.1.typedClient r hr c (of_decide_eq_true (Bool.and_eq_true_iff.mp hp).1)]
      exact Eq.symm hτ
  | updateResourceStage c m stage out =>
    refine safe_report (Atomic.check_bind fun _ => Atomic.transaction fun s hs => ?_)
    refine Holds.bind (holds_quiet fun db₁ h₁ => ?_)
    refine Holds.bind (holds_quiet fun db₂ h₂ => holds_fill out c fun _ => ?_)
    exact hs.stage hτ h₁ h₂
  | confirmResourceSent c path out =>
    refine safe_report (Atomic.check_bind fun _ => Atomic.transaction fun s hs => ?_)
    refine Holds.bind (holds_quiet fun db₁ h₁ => ?_)
    have hs₁ := hs.localFilePath h₁
    refine hs₁.settle out (fun r hr => ?_) (fun _ => rfl) (fun _ => rfl) (fun _ => rfl)
      (fun _ h => nomatch h) fun r hr _ m' hm' => hs₁.1.typedId r hr m' hm'
    exact of_decide_eq_true (Bool.and_eq_true_iff.mp (Bool.and_eq_true_iff.mp hr).1).1
  | markSendFailed c out =>
    refine safe_report (Atomic.transaction fun s hs => ?_)
    exact hs.settle out (fun r hr => of_decide_eq_true hr) (fun _ => rfl) (fun _ => rfl)
      (fun _ => rfl) (fun _ h => nomatch h) fun r hr _ m' hm' => hs.1.typedId r hr m' hm'
  | insertIncoming messages resources =>
    refine safe_report (Atomic.check_bind fun _ => Atomic.transaction fun s hs => ?_)
    refine holds_collect _ s (fun m hm w hw => ?_) hs
    exact hw.receive m.2 (hτ m.1 (List.of_mem_zip hm).1)
  | applySyncPage now events messages resources friendRequests contacts newEventSeq =>
    refine safe_report (Atomic.check_bind fun _ => Atomic.select_bind fun seq => ?_)
    refine Atomic.check_bind fun _ => Atomic.transaction fun s hs => ?_
    refine Holds.bind ((holds_collect events s (fun e _ w hw => hw.applyEvent hτ) hs).mono ?_)
    intro ids w₁ h₁
    refine Holds.bind ((h₁.exec fun a w' hw => ?_).mono fun _ w₂ h₂ => holds_pure h₂)
    split at hw
    · cases hw
    · cases hw
      rfl
  | insertHistoryPage threadId messages resources historyComplete =>
    refine safe_report (Atomic.check_bind fun _ => Atomic.transaction fun s hs => ?_)
    refine Holds.bind (holds_insertPageLoop threadId _ 0 s fun oldest db₁ h₁ => ?_)
    have hs₁ := hs.insertPageLoop _ 0 (fun m hm => hτ m.1 (List.of_mem_zip hm).1) h₁
    refine holds_quiet fun db₂ h₂ => ?_
    unfold updateOldestLoaded at h₂
    split at h₂
    · cases h₂
    cases h₂
    exact ⟨hs₁.1.resources rfl rfl rfl, hs₁.2.congr rfl rfl⟩
  | updateResourceLocalPath m path expectedUid =>
    refine safe_report (Atomic.check_bind fun _ => Atomic.exec fun s a s' hs hf => ?_)
    obtain ⟨r, hr, heq⟩ := Option.map_eq_some_iff.mp hf
    obtain ⟨db', hdb, rfl⟩ := Option.map_eq_some_iff.mp hr
    cases heq
    exact hs.localFilePath hdb

theorem sane_empty (τ : Types) : Sane τ {} := by
  refine ⟨⟨?_, ?_, ?_, ?_, ?_, ?_, List.nodup_nil, ?_, ?_⟩, ⟨?_, ?_, ?_⟩⟩ <;>
    exact fun _ h => nomatch h

/-- The invariant in every run. -/
theorem sane_run (ops : List Op) (hτ : ∀ op ∈ ops, op.Fits τ) (c : Conn Store)
    (hc : Sane τ c.committed) : Sane τ (run self ops c).committed := by
  induction ops generalizing c with
  | nil => exact hc
  | cons op ops ih =>
    refine ih (fun o ho => hτ o (.tail _ ho)) _ ?_
    exact (perform_safe (hτ op List.mem_cons_self) c hc).1

/-- The number of resources of a message. -/
theorem Rows.countP_resources (h : Rows τ db) (hr : r ∈ db.messages) :
    db.resources.countP (·.localMessageId = r.localMessageId) =
      if r.messageType = 0 then 0 else 1 := by
  split
  · next ht =>
    refine List.countP_eq_zero.mpr fun x hx hxr => ?_
    obtain ⟨o, ho, hox, hot⟩ := h.owner x hx
    have : o = r := h.locals o ho r hr (hox.trans (of_decide_eq_true hxr))
    exact hot (this ▸ ht)
  · next ht =>
    obtain ⟨x, hx, hxr⟩ := h.resource r hr ht
    have hcount := List.count_eq_one_of_mem h.keys (List.mem_map.mpr ⟨x, hx, hxr⟩)
    rw [← hcount, List.count, List.countP_map]
    refine List.countP_congr fun y _ => ?_
    simp

/-- In every committed state, for every sequence of calls and every choice of the
statements that fail: a message is being sent if and only if it has an outbox row, an
upload belongs to a resource with an id of the server, pictures and files have one
resource and texts none; and a call that returns false leaves the committed state as it
was. -/
theorem local_send_state (τ : Types) (self : Int) (ops : List Op)
    (hτ : ∀ op ∈ ops, op.Fits τ) (faults : List Bool) :
    let c := run self ops { committed := {}, faults := faults }
    let db := c.committed.db
    (∀ r ∈ db.messages, r.sendStatus = .sending ↔
      ∃ e ∈ db.outbox, r.clientMessageId = some e.clientMessageId) ∧
    (∀ e ∈ db.outbox, e.stage = .uploading → ∃ r ∈ db.messages,
      r.clientMessageId = some e.clientMessageId ∧ isResource r.messageType ∧
        r.messageId.isSome) ∧
    (∀ r ∈ db.messages,
      (isResource r.messageType ∧
          db.resources.countP (·.localMessageId = r.localMessageId) = 1) ∨
        (r.messageType = 0 ∧ db.resources.countP (·.localMessageId = r.localMessageId) = 0)) ∧
    ∀ op, op.Fits τ → (perform self op c).1 = false →
      (perform self op c).2.committed = c.committed := by
  intro c db
  have hs : Sane τ c.committed := sane_run ops hτ _ (sane_empty τ)
  have hres : ∀ r ∈ db.messages, r.messageType ≠ 0 → isResource r.messageType :=
    fun r hr ht => decide_eq_true ((hs.1.known r hr).resolve_left ht)
  refine ⟨hs.2.sending, fun e he hu => ?_, fun r hr => ?_, fun op hop => ?_⟩
  · obtain ⟨r, hr, hre, hrt, hrid⟩ := hs.2.uploading e he hu
    exact ⟨r, hr, hre, hres r hr hrt, hrid⟩
  · have hcount := hs.1.countP_resources hr
    by_cases ht : r.messageType = 0
    · rw [if_pos ht] at hcount
      exact .inr ⟨ht, hcount⟩
    · rw [if_neg ht] at hcount
      exact .inl ⟨hres r hr ht, hcount⟩
  · exact (perform_safe hop c hs).2

/-- A picture that is written and gets its id, while the COMMIT of the second call
fails. -/
def pictureCalls : List Op :=
  [.enqueueSend 100
    { clientMessageId := "c1", threadId := 5, senderUserId := 7, messageType := 1 }
    { originalFileName := "a.png", fileSizeBytes := 10, sha256 := "ab", mimeType := "image/png" }
    { clientMessageId := "c1", operationType := .sendText, stage := .none, payloadJson := "x" },
  .updateResourceStage "c1" 40 .uploading true]

def secondCommitFails : List Bool :=
  [false, false, false, false, false, false, false, false, false, true]

def pictureStore : Store :=
  (run 7 pictureCalls { committed := {}, faults := secondCommitFails }).committed

theorem local_send_state_picture :
    pictureStore.db.messages.length = 1 ∧
      ∀ r ∈ pictureStore.db.messages, r.sendStatus = .sending ↔
        ∃ e ∈ pictureStore.db.outbox, r.clientMessageId = some e.clientMessageId :=
  ⟨by decide +kernel,
    (local_send_state ⟨fun _ => 1, fun _ => 1⟩ 7 pictureCalls (by simp [pictureCalls, Op.Fits])
      secondCommitFails).1⟩

end LlfcChat.LocalStore
