/-
A whole frame on its way through the chain of reads.

TCP cuts a frame into pieces as it likes.  `run_arrivals` puts the pieces of
one part, head or body, together again; with it a frame has two fates, and the
length field decides between them.  A payload of up to `MAX_LENGTH` bytes is
posted to the logic and the session waits for the next frame.  A longer one
closes the session as soon as its head is there.
-/
import LlfcChat.Chat.Session

namespace LlfcChat

/-- A frame: the type, the length and the payload.  The two fields keep sixteen
bits. -/
def frame (msgType : Nat) (payload : List UInt8) : List UInt8 :=
  Wire.field msgType ++ Wire.field payload.length ++ payload

namespace CSession

variable {parse : List UInt8 → Json}

/-- The bytes arrive in these pieces, one read after another. -/
def arrivals (segments : List (List UInt8)) : List ReadEvent :=
  segments.map fun bytes => .complete false bytes true

/-! ### Putting the pieces together -/

variable {s : CSession} {body head : List (List UInt8)} {data payload : List UInt8}
  {k msgType : Nat}

theorem store_eq (hdata : data.length = maxLength) (bytes : List UInt8)
    (hk : k + bytes.length ≤ maxLength) :
    store data k bytes = data.take k ++ bytes ++ data.drop (k + bytes.length) := by
  apply List.take_of_length_le
  simp only [List.length_append, List.length_take, List.length_drop, hdata]
  omega

theorem length_store (hdata : data.length = maxLength) (bytes : List UInt8)
    (hk : k + bytes.length ≤ maxLength) : (store data k bytes).length = maxLength := by
  rw [store_eq hdata bytes hk]
  simp only [List.length_append, List.length_take, List.length_drop, hdata]
  omega

theorem store_store {bytes rest : List UInt8} (hdata : data.length = maxLength)
    (hk : k + (bytes ++ rest).length ≤ maxLength) :
    store (store data k bytes) (k + bytes.length) rest = store data k (bytes ++ rest) := by
  rw [List.length_append] at hk
  have hlen := length_store hdata (k := k) bytes (by omega)
  have hfront : (data.take k ++ bytes).length = k + bytes.length := by
    simp only [List.length_append, List.length_take, hdata]
    omega
  have hdrop : (data.take k ++ bytes ++ data.drop (k + bytes.length)).drop
      (k + bytes.length + rest.length) = data.drop (k + (bytes ++ rest).length) := by
    rw [← hfront, List.drop_append, List.drop_eq_nil_of_le (by omega), List.nil_append,
      List.drop_drop, hfront, List.length_append]
    congr 1
    omega
  rw [store_eq hlen _ (by omega), store_eq hdata bytes (by omega), hdrop,
    store_eq hdata _ (by rw [List.length_append]; omega),
    List.take_append_of_le_length (by omega), List.take_of_length_le (by omega),
    List.append_assoc _ bytes rest]

/-- What a part brings with its first piece. -/
theorem step_complete_more {total : Nat} {h : ReadHandler} (hs : s.pending = some ⟨k, total, h⟩)
    {bytes : List UInt8} (hmore : k + bytes.length < total) :
    step parse s (.complete false bytes true) =
      asyncReadLen (k + bytes.length) total h
        { s with data := store s.data k bytes, pending := none } := by
  unfold step
  rw [hs]
  exact if_neg (by simp; omega)

/-- **The pieces of one part.**  However the part is cut, its handler is called
once, with all of it in the buffer. -/
theorem run_arrivals (parse : List UInt8 → Json) {total : Nat} {h : ReadHandler}
    (hs : s.pending = some ⟨k, total, h⟩) (hdata : s.data.length = maxLength)
    (htotal : total ≤ maxLength) {segments : List (List UInt8)} (hne : ∀ b ∈ segments, b ≠ [])
    (hsum : k + segments.flatten.length = total) (hk : k < total) :
    ∃ reads, run parse s (arrivals segments) =
      onRead parse true h false total
        { s with data := store s.data k segments.flatten, pending := none, reads := reads } := by
  induction segments generalizing s k with
  | nil =>
    rw [List.flatten_nil, List.length_nil] at hsum
    omega
  | cons b segments ih =>
    rw [List.flatten_cons, List.length_append] at hsum
    have hrun : run parse s (arrivals (b :: segments)) =
        run parse (step parse s (.complete false b true)) (arrivals segments) := rfl
    rw [hrun]
    by_cases hmore : k + b.length < total
    · -- another read for what is missing
      rw [step_complete_more hs hmore]
      obtain ⟨reads, hreads⟩ := ih
        (s := asyncReadLen (k + b.length) total h
          { s with data := store s.data k b, pending := none })
        rfl (length_store hdata b (by omega)) (fun b' hb' => hne b' (List.mem_cons_of_mem _ hb'))
        (by omega) hmore
      refine ⟨reads, hreads.trans ?_⟩
      show onRead parse true h false total
        { s with data := store (store s.data k b) (k + b.length) segments.flatten, pending := none,
                 reads := reads } = _
      rw [store_store hdata (by rw [List.length_append]; omega), List.flatten_cons]
    · -- the last piece
      have hnil : segments = [] := by
        rcases segments with - | ⟨b', segments⟩
        · rfl
        · have hpos := List.length_pos_of_ne_nil (hne b' (by simp))
          rw [List.flatten_cons, List.length_append] at hsum
          omega
      subst hnil
      rw [List.flatten_nil, List.length_nil] at hsum
      refine ⟨s.reads, ?_⟩
      rw [step_complete_full hs (by simp only; omega), List.flatten_cons, List.flatten_nil,
        List.append_nil]
      have htr : k + b.length = total := by omega
      rw [htr]
      rfl

/-! ### The two fates of a frame -/

/-- A bound session between two frames. -/
structure AwaitsFrame (s : CSession) : Prop where
  opened : s.lifecycle = .opened
  pending : s.pending = some ⟨0, headTotalLen, .head⟩
  data : s.data.length = maxLength
  bound : s.routingUid ≠ 0

/-- The pieces of a frame: reads do not go beyond the part they belong to. -/
structure Cuts (block : List UInt8) (head body : List (List UInt8)) : Prop where
  flatten_head : head.flatten = block.take headTotalLen
  flatten_body : body.flatten = block.drop headTotalLen
  nonempty : ∀ b ∈ head ++ body, b ≠ []

theorem run_append (s : CSession) (es es' : List ReadEvent) :
    run parse s (es ++ es') = run parse (run parse s es) es' := List.foldl_append

theorem arrivals_append (head body : List (List UInt8)) :
    arrivals (head ++ body) = arrivals head ++ arrivals body := List.map_append

/-- The two fields are read from where they were written. -/
theorem headType_store (hdata : data.length = maxLength) (msgType len : Nat) :
    headType (store data 0 (Wire.field msgType ++ Wire.field len)) = Wire.short msgType ∧
      headLen (store data 0 (Wire.field msgType ++ Wire.field len)) = Wire.short len := by
  have hfits : 0 + (Wire.field msgType ++ Wire.field len).length ≤ maxLength := by
    show 4 ≤ maxLength
    decide
  rw [store_eq hdata _ hfits]
  exact ⟨Wire.readShort_field msgType, Wire.readShort_field len⟩

/-- The head is there. -/
theorem run_head (parse : List UInt8 → Json) (hs : AwaitsFrame s)
    (hcuts : Cuts (frame msgType payload) head body) :
    ∃ s', run parse s (arrivals head) = onHead false headTotalLen s' ∧ s'.lifecycle = .opened ∧
      s'.routingUid = s.routingUid ∧ s'.posted = s.posted ∧ s'.data.length = maxLength ∧
      headType s'.data = Wire.short msgType ∧ headLen s'.data = Wire.short payload.length := by
  have hhead : head.flatten = Wire.field msgType ++ Wire.field payload.length := hcuts.flatten_head
  have hlen : head.flatten.length = headTotalLen := by
    rw [hhead]
    rfl
  obtain ⟨reads, hrun⟩ := run_arrivals parse hs.pending hs.data (by decide)
    (fun b hb => hcuts.nonempty b (List.mem_append_left _ hb)) (by rw [hlen]; rfl) (by decide)
  have hstore := headType_store hs.data msgType payload.length
  have hdata := length_store hs.data (k := 0) head.flatten (by rw [hlen]; decide)
  rw [← hhead] at hstore
  exact ⟨_, hrun, hs.opened, rfl, rfl, hdata, hstore⟩

/-- The body of an accepted head is posted. -/
theorem onBody_posts (parse : List UInt8 → Json) {n : Nat} {node : RecvNode}
    (hopen : s.lifecycle = .opened) (hnode : s.recvMsgNode = some node)
    (hlogin : node.msgType ≠ msgChatLogin) (hbound : s.routingUid ≠ 0) (hn : n < 32768) :
    AwaitsFrame (onBody parse true n false n s) ∧
      (onBody parse true n false n s).posted = s.posted ++
        [{ node with data := s.data.take n, curLen := Wire.short (node.curLen + n) }] := by
  have hsize : Wire.sizeT n = n := Wire.sizeT_of_nonneg (by omega) (by omega)
  unfold onBody
  rw [if_neg Bool.false_ne_true, hsize, if_neg (Nat.lt_irrefl n), if_neg (not_not.mpr hopen), hnode]
  simp only [route, if_neg hlogin, if_neg hbound]
  exact ⟨⟨hopen, rfl, List.length_replicate, hbound⟩, rfl⟩

/-- The body arrives and is handed over. -/
theorem run_body (parse : List UInt8 → Json) {node : RecvNode}
    (hs : s.pending = some ⟨0, payload.length, .body payload.length⟩)
    (hdata : s.data.length = maxLength) (hopen : s.lifecycle = .opened)
    (hnode : s.recvMsgNode = some node) (hlogin : node.msgType ≠ msgChatLogin)
    (hbound : s.routingUid ≠ 0) (hne : payload ≠ []) (hlen : payload.length ≤ maxLength)
    (hflat : body.flatten = payload) (hcut : ∀ b ∈ body, b ≠ []) :
    AwaitsFrame (run parse s (arrivals body)) ∧
      (run parse s (arrivals body)).posted = s.posted ++
        [{ node with data := payload, curLen := Wire.short (node.curLen + payload.length) }] := by
  have hmax : maxLength = 2048 := rfl
  have htake : (store s.data 0 payload).take payload.length = payload := by
    rw [store_eq hdata _ (by omega), List.take_zero, List.nil_append, List.take_left]
  obtain ⟨reads, hrun⟩ := run_arrivals parse hs hdata hlen hcut (by rw [hflat, Nat.zero_add])
    (List.length_pos_of_ne_nil hne)
  rw [hrun, hflat]
  obtain ⟨hawaits, hposted⟩ := onBody_posts parse (n := payload.length)
    (s := { s with data := store s.data 0 payload, pending := none, reads := reads })
    hopen hnode hlogin hbound (by omega)
  rw [htake] at hposted
  exact ⟨hawaits, hposted⟩

/-- **A frame that fits is posted**, in whatever pieces it arrives, and the
session waits for the next one. -/
theorem run_frame (parse : List UInt8 → Json) (hs : AwaitsFrame s) (htype : msgType ≤ maxLength)
    (hlogin : (msgType : Int) ≠ msgChatLogin) (hne : payload ≠ [])
    (hlen : payload.length ≤ maxLength) (hcuts : Cuts (frame msgType payload) head body) :
    AwaitsFrame (run parse s (arrivals (head ++ body))) ∧
      (run parse s (arrivals (head ++ body))).posted =
        s.posted ++ [⟨payload.length, payload.length, msgType, payload⟩] := by
  have hmax : maxLength = 2048 := rfl
  obtain ⟨s', hrun, hopen, huid, hposted, -, ht, hl⟩ := run_head parse hs hcuts
  rw [Wire.short_of_range (by omega) (by omega)] at ht hl
  have hsize : Wire.sizeT payload.length = payload.length :=
    Wire.sizeT_of_nonneg (by omega) (by omega)
  have hcur : Wire.short (0 + payload.length) = payload.length := by
    rw [Wire.short_of_range (by omega) (by omega), Int.zero_add]
  rw [arrivals_append, run_append, hrun, onHead_eq (Nat.le_refl headTotalLen) hopen ht (by omega) hl
    (by omega) (by omega), asyncReadBody, hsize]
  obtain ⟨hawaits, hpost⟩ := run_body parse
    (s := asyncReadFull payload.length (.body payload.length)
      { s' with recvMsgNode := some ⟨payload.length, 0, msgType, []⟩,
                nodes := s'.nodes ++ [⟨payload.length, 0, msgType, []⟩] })
    rfl List.length_replicate hopen rfl hlogin (huid ▸ hs.bound) hne hlen hcuts.flatten_body
    fun b hb => hcuts.nonempty b (List.mem_append_right _ hb)
  refine ⟨hawaits, hpost.trans ?_⟩
  rw [hcur]
  exact congrArg (· ++ _) hposted

/-- **A frame that is too long closes the session**, and nothing of it is
posted. -/
theorem run_frame_too_long (parse : List UInt8 → Json) (hs : AwaitsFrame s)
    (hlen : maxLength < payload.length) (hshort : payload.length < 32768)
    (hcuts : Cuts (frame msgType payload) head body) :
    (run parse s (arrivals (head ++ body))).lifecycle = .closing ∧
      (run parse s (arrivals (head ++ body))).posted = s.posted := by
  obtain ⟨s', hrun, hopen, -, hposted, -, -, hl⟩ := run_head parse hs hcuts
  rw [Wire.short_of_range (by omega) (by omega)] at hl
  have hclosed : onHead false headTotalLen s' = s'.close := by
    unfold onHead
    rw [if_neg Bool.false_ne_true, if_neg (Nat.lt_irrefl _), if_neg (not_not.mpr hopen), hl]
    split
    · rfl
    · rw [if_pos (by omega)]
  have hignored : ∀ segments, run parse s'.close (arrivals segments) = s'.close := by
    intro segments
    induction segments with
    | nil => rfl
    | cons b segments ih => exact ih
  rw [arrivals_append, run_append, hrun, hclosed, hignored]
  refine ⟨?_, hposted⟩
  show s'.lifecycle.beginClose = .closing
  rw [hopen]
  rfl

end CSession

end LlfcChat
