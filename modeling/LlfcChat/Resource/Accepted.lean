/-
The chunks that were accepted, and the bytes they make up.

The journal of a message records every chunk that was answered with success.
What counts at an offset is the last chunk that was accepted there: a file that
starts over is written again from its beginning.
-/
import LlfcChat.Resource.FileWorker

namespace LlfcChat.Resource

open FileSystem

/-- The chunk an event accepts at an offset. -/
def Event.chunkAt (offset : Nat) : Event → Option (List UInt8)
  | .chunkAccepted o data => if o = offset then some data else none
  | _ => none

/-- The last chunk that was accepted at an offset. -/
def acceptedAt (events : List Event) (offset : Nat) : Option (List UInt8) :=
  events.reverse.findSome? (Event.chunkAt offset)

theorem acceptedAt_append (events : List Event) (e : Event) (offset : Nat) :
    acceptedAt (events ++ [e]) offset = (e.chunkAt offset).or (acceptedAt events offset) := by
  simp only [acceptedAt, List.reverse_append, List.reverse_cons, List.reverse_nil, List.nil_append,
    List.cons_append, List.findSome?_cons]
  cases e.chunkAt offset <;> rfl

/-- An event that is not about a chunk. -/
theorem acceptedAt_append_other {events : List Event} {e : Event} (h : ∀ o, e.chunkAt o = none) :
    acceptedAt (events ++ [e]) = acceptedAt events := by
  funext offset
  rw [acceptedAt_append, h, Option.none_or]

/-- The chunks after one more was accepted. -/
def acceptChunk (acc : Nat → Option (List UInt8)) (offset : Nat) (data : List UInt8) :
    Nat → Option (List UInt8) := fun o => if o = offset then some data else acc o

theorem acceptedAt_append_chunk (events : List Event) (offset : Nat) (data : List UInt8) :
    acceptedAt (events ++ [.chunkAccepted offset data]) =
      acceptChunk (acceptedAt events) offset data := by
  funext o
  rw [acceptedAt_append, Event.chunkAt, acceptChunk]
  by_cases h : o = offset
  · rw [if_pos h.symm, if_pos h, Option.some_or]
  · rw [if_neg (Ne.symm h), if_neg h, Option.none_or]

/-! ### Bytes made of accepted chunks -/

/-- The bytes are the chunks that were accepted at their offsets. -/
def Accepted (acc : Nat → Option (List UInt8)) (bytes : List UInt8) : Prop :=
  ∀ k, k * resourceUploadChunkSize < bytes.length →
    acc (k * resourceUploadChunkSize) =
      some (slice bytes (k * resourceUploadChunkSize) resourceUploadChunkSize)

theorem chunkSize_pos : 0 < resourceUploadChunkSize := by decide

variable {acc : Nat → Option (List UInt8)} {bytes data : List UInt8}

theorem accepted_nil : Accepted acc [] := fun _ h => absurd h (Nat.not_lt_zero _)

theorem slice_take {bytes : List UInt8} {n offset length : Nat} (h : offset + length ≤ n) :
    slice (bytes.take n) offset length = slice bytes offset length := by
  unfold slice
  rw [List.drop_take, List.take_take, Nat.min_eq_left (by omega)]

theorem slice_append_left {a b : List UInt8} {offset length : Nat}
    (h : offset + length ≤ a.length) : slice (a ++ b) offset length = slice a offset length := by
  have htake : slice ((a ++ b).take a.length) offset length = slice (a ++ b) offset length :=
    slice_take h
  rw [← htake, List.take_left]

/-- What ends before a multiple ends with the multiple. -/
theorem chunk_le_of_lt {k n : Nat} (hn : resourceUploadChunkSize ∣ n)
    (h : k * resourceUploadChunkSize < n) :
    k * resourceUploadChunkSize + resourceUploadChunkSize ≤ n := by
  obtain ⟨j, rfl⟩ := hn
  rw [Nat.mul_comm _ j] at h ⊢
  have hkj : k < j := Nat.lt_of_mul_lt_mul_right h
  calc k * resourceUploadChunkSize + resourceUploadChunkSize
      = (k + 1) * resourceUploadChunkSize := (Nat.succ_mul _ _).symm
    _ ≤ j * resourceUploadChunkSize := Nat.mul_le_mul_right _ hkj

theorem Accepted.take (h : Accepted acc bytes) {n : Nat} (hn : resourceUploadChunkSize ∣ n) :
    Accepted acc (bytes.take n) := by
  intro k hk
  rw [List.length_take] at hk
  rw [slice_take (chunk_le_of_lt hn (by omega))]
  exact h k (by omega)

/-- The next chunk. -/
theorem Accepted.append (h : Accepted acc bytes) (hn : resourceUploadChunkSize ∣ bytes.length)
    (hdata : data.length ≤ resourceUploadChunkSize) :
    Accepted (acceptChunk acc bytes.length data) (bytes ++ data) := by
  intro k hk
  rw [List.length_append] at hk
  unfold acceptChunk
  split
  · -- the new chunk itself
    rename_i e
    rw [e, slice, List.drop_left, List.take_of_length_le hdata]
  · have hlt : k * resourceUploadChunkSize < bytes.length := by
      rcases Nat.lt_or_ge (k * resourceUploadChunkSize) bytes.length with hlt | hge
      · exact hlt
      · -- no multiple lies inside the new chunk
        have hlt' : bytes.length < k * resourceUploadChunkSize := by omega
        obtain ⟨j, hj⟩ := hn
        rw [hj, Nat.mul_comm _ j] at hlt'
        have hle := chunk_le_of_lt (Dvd.intro_left k rfl) hlt'
        rw [Nat.mul_comm _ j] at hj
        omega
    rw [slice_append_left (chunk_le_of_lt hn hlt)]
    exact h k hlt

/-- A chunk that was accepted before, with the same bytes. -/
theorem Accepted.again (h : Accepted acc bytes) {offset : Nat}
    (hdata : data = slice bytes offset resourceUploadChunkSize) :
    Accepted (acceptChunk acc offset data) bytes := by
  intro k hk
  unfold acceptChunk
  split
  · rename_i e
    rw [hdata, e]
  · exact h k hk

/-- The chunks that were accepted below `n`, put together. -/
def acceptedBytes (acc : Nat → Option (List UInt8)) (n : Nat) : List UInt8 :=
  (List.range ((n + resourceUploadChunkSize - 1) / resourceUploadChunkSize)).flatMap fun k =>
    (acc (k * resourceUploadChunkSize)).getD []

theorem flatMap_slices (bytes : List UInt8) (n : Nat) :
    (List.range n).flatMap (fun k => slice bytes (k * resourceUploadChunkSize)
      resourceUploadChunkSize) = bytes.take (n * resourceUploadChunkSize) := by
  induction n with
  | zero => rw [List.range_zero, List.flatMap_nil, Nat.zero_mul, List.take_zero]
  | succ n ih =>
    rw [List.range_succ, List.flatMap_append, ih, List.flatMap_singleton, Nat.succ_mul,
      List.take_add, slice]

theorem Accepted.eq_acceptedBytes (h : Accepted acc bytes) :
    bytes = acceptedBytes acc bytes.length := by
  have hpos := chunkSize_pos
  have hchunk : ∀ k ∈ List.range
      ((bytes.length + resourceUploadChunkSize - 1) / resourceUploadChunkSize),
      (acc (k * resourceUploadChunkSize)).getD [] =
        slice bytes (k * resourceUploadChunkSize) resourceUploadChunkSize := by
    intro k hk
    have hlt := (Nat.lt_div_iff_mul_lt hpos).mp (List.mem_range.mp hk)
    rw [h k (by omega), Option.getD_some]
  have hall : bytes.length ≤
      (bytes.length + resourceUploadChunkSize - 1) / resourceUploadChunkSize *
        resourceUploadChunkSize := by
    have hmod := Nat.div_add_mod (bytes.length + resourceUploadChunkSize - 1)
      resourceUploadChunkSize
    have hlt := Nat.mod_lt (bytes.length + resourceUploadChunkSize - 1) hpos
    rw [Nat.mul_comm] at hmod
    omega
  rw [acceptedBytes, List.flatMap_congr hchunk, flatMap_slices, List.take_of_length_le hall]

/-! ### Files -/

/-- Where an upload of which `n` bytes are on disk is taken up again. -/
def resume (n : Nat) : Nat := (n - 1) / resourceUploadChunkSize * resourceUploadChunkSize

theorem resume_dvd (n : Nat) : resourceUploadChunkSize ∣ resume n := Dvd.intro_left _ rfl

theorem resume_le (n : Nat) : resume n ≤ n :=
  (Nat.div_mul_le_self _ _).trans (Nat.sub_le _ _)

/-- All chunks of a file but the last were accepted. -/
def Kept (acc : Nat → Option (List UInt8)) (bytes : List UInt8) : Prop :=
  Accepted acc (bytes.take (resume bytes.length))

theorem kept_nil : Kept acc [] := accepted_nil

theorem Accepted.kept (h : Accepted acc bytes) : Kept acc bytes := h.take (resume_dvd _)

theorem Kept.take (h : Kept acc bytes) (n : Nat) : Kept acc (bytes.take n) := by
  rcases Nat.le_total bytes.length n with hle | hle
  · rw [List.take_of_length_le hle]
    exact h
  · have hlen : (bytes.take n).length = n := by rw [List.length_take, Nat.min_eq_left hle]
    have hmono : resume n ≤ resume bytes.length :=
      Nat.mul_le_mul_right _ (Nat.div_le_div_right (by omega))
    have htake : (bytes.take n).take (resume n) =
        (bytes.take (resume bytes.length)).take (resume n) := by
      rw [List.take_take, List.take_take, Nat.min_eq_left (resume_le n), Nat.min_eq_left hmono]
    unfold Kept
    rw [hlen, htake]
    exact Accepted.take h (resume_dvd n)

/-- Accepted bytes, and at most one chunk behind them. -/
theorem kept_append (h : Accepted acc bytes) (hn : resourceUploadChunkSize ∣ bytes.length)
    {rest : List UInt8} (hrest : rest.length ≤ resourceUploadChunkSize) :
    Kept acc (bytes ++ rest) := by
  have hle : resume (bytes ++ rest).length ≤ bytes.length := by
    obtain ⟨j, hj⟩ := hn
    have hpos := chunkSize_pos
    rw [List.length_append, hj, Nat.mul_comm _ j]
    refine Nat.mul_le_mul_right _ (Nat.le_of_lt_succ ?_)
    rw [Nat.div_lt_iff_lt_mul hpos, Nat.succ_mul]
    omega
  have htake : (bytes ++ rest).take (resume (bytes ++ rest).length) =
      bytes.take (resume (bytes ++ rest).length) := List.take_append_of_le_length hle
  unfold Kept
  rw [htake]
  exact h.take (resume_dvd _)

end LlfcChat.Resource
