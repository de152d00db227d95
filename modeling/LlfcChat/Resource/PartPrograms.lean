/-
The programs of `ResourceUploadFile.cpp` on a `.part` file, by what they do to
its bytes.

`Received` says how the bytes on disk and the counter of a session belong
together: what has been received are accepted chunks, and at most one chunk
that was begun stands behind them.  Writing, cutting back and restoring a file
keep it, in whatever way their calls fail.
-/
import LlfcChat.Resource.PartFile

namespace LlfcChat.Resource.Upload

open Conc Conc.Rules FileSystem
open Conc.Prog hiding pure bind

variable {sha : List UInt8 → String} {fmt : Int → String} {care : Care sha} {w : World}
  {t : Thread} {m : Int} {acc : Nat → Option (List UInt8)} {d : List UInt8} {i : Handle}

theorem stable_partly {β : Type} {f : β → List UInt8} {C : β → Prop} :
    (partRules sha fmt care t m).Stable fun w => ∃ x, Part care m acc (f x) w ∧ C x :=
  stable_exists fun _ => stable_part.and (stable_const _)

/-! ### Reading -/

theorem safe_fileStatus (h : Part care m acc d w) :
    (partRules sha fmt care t m).Safe
      (fun r w => Part care m acc d w ∧ (r = .notFound → Missing m w))
      (call (.fileStatus (resourceUploadingPartPath m))) w := by
  refine safe_look trivial stable_part h (fun _ => stable_imp stable_missing)
    fun c w r _ _ he hr => ?_
  simp only [exec, Option.some.injEq, Prod.mk.injEq, and_true] at he
  subst he
  split at hr
  · cases hr
  · split at hr
    · cases hr
    · rename_i hnone
      exact Option.not_isSome_iff_eq_none.mp hnone

theorem safe_fileSize (h : Part care m acc d w) :
    (partRules sha fmt care t m).Safe
      (fun r w => Part care m acc d w ∧ ∀ n, r = some n → n = d.length ∧ Kept acc d)
      (call (.fileSize (resourceUploadingPartPath m))) w := by
  refine safe_look trivial stable_part h (fun _ => stable_const _)
    fun c w r hw hinv he n hn => ?_
  simp only [exec, Option.some.injEq, Prod.mk.injEq, and_true] at he
  subst he
  split at hn
  · cases hn
  · obtain ⟨data, hdata, rfl⟩ := Option.map_eq_some_iff.mp hn
    obtain ⟨i, hi, rfl⟩ := Option.map_eq_some_iff.mp hdata
    have hkept := hinv.1.kept m i hi
    rw [hw.journal] at hkept
    rw [hw.content i hi] at hkept ⊢
    exact ⟨rfl, hkept⟩

/-- `ReadLength` of the file. -/
theorem safe_readLength (h : Part care m acc d w) :
    (partRules sha fmt care t m).Safe
      (fun r w => Part care m acc d w ∧
        ∀ n, r = some n → n = d.length ∧ Kept acc d ∨ n = 0 ∧ Missing m w)
      (readLength (resourceUploadingPartPath m)) w := by
  have hstable : ∀ r : Option Nat, (partRules sha fmt care t m).Stable fun w =>
      Part care m acc d w ∧ ∀ n, r = some n → n = d.length ∧ Kept acc d ∨ n = 0 ∧ Missing m w :=
    fun r w w' hw hr hi => ⟨stable_part w w' hw.1 hr hi, fun n hn =>
      (hw.2 n hn).imp_right fun hm => ⟨hm.1, stable_missing w w' hm.2 hr hi⟩⟩
  refine (safe_fileStatus h).bind fun r w hw => ?_
  cases r with
  | notFound =>
    exact safe_pure (hstable _) ⟨hw.1, fun n hn => .inr ⟨(Option.some.inj hn).symm, hw.2 rfl⟩⟩
  | error => exact safe_pure (hstable _) ⟨hw.1, nofun⟩
  | found => exact (safe_fileSize hw.1).mono fun r w hw => ⟨hw.1, fun n hn => .inl (hw.2 n hn)⟩

/-- What is read of an open file. -/
theorem safe_read (h : Open care m acc d i w) (offset length : Nat) :
    (partRules sha fmt care t m).Safe
      (fun r w => Open care m acc d i w ∧ ∀ x, r = some x → x = slice d offset length)
      (call (.read i offset length)) w := by
  refine safe_look trivial stable_open h (fun _ => stable_const _) fun c w r hw _ he x hx => ?_
  simp only [exec, Option.some.injEq, Prod.mk.injEq, and_true] at he
  subst he
  split at hx
  · cases hx
  · rw [← Option.some.inj hx, hw.data]

theorem safe_readAll (h : Open care m acc d i w) :
    (partRules sha fmt care t m).Safe
      (fun r w => Open care m acc d i w ∧ ∀ x, r = some x → x = d) (call (.readAll i)) w := by
  refine safe_look trivial stable_open h (fun _ => stable_const _) fun c w r hw _ he x hx => ?_
  simp only [exec, Option.some.injEq, Prod.mk.injEq, and_true] at he
  subst he
  split at hx
  · cases hx
  · rw [← Option.some.inj hx, hw.data]

variable {bytes data pre rest : List UInt8} {offset : Nat} {s : UploadSession} {P : World → Prop}

/-- A digest that could be computed. -/
theorem safe_sha256Hex (hP : (partRules sha fmt care t m).Stable P) (h : P w)
    (data : List UInt8) :
    (partRules sha fmt care t m).Safe (fun r w => P w ∧ (r ≠ "" → care.Digest data r))
      (call (.sha256Hex data)) w := by
  refine safe_look trivial hP h (fun _ => stable_const _) fun c w r _ hinv he hne => ?_
  simp only [exec, Option.some.injEq, Prod.mk.injEq, and_true] at he
  subst he
  split at hne
  · exact absurd rfl hne
  · rename_i hf
    exact ⟨hinv.2 rfl, (if_neg hf).symm⟩

theorem safe_noDigest {C : String → Prop} (h : Part care m acc d w) :
    (partRules sha fmt care t m).Safe (fun r w => Part care m acc d w ∧ (r ≠ "" → C r))
      (pure "") w :=
  safe_pure (stable_part.and (stable_const _)) ⟨h, fun hne => absurd rfl hne⟩

/-- `HashRange` of the file. -/
theorem safe_hashRange (h : Part care m acc d w) (offset length : Nat) :
    (partRules sha fmt care t m).Safe
      (fun r w => Part care m acc d w ∧
        (r ≠ "" → care.Digest (slice d offset length) r ∧ (slice d offset length).length = length))
      (hashRange (resourceUploadingPartPath m) offset length) w := by
  refine (safe_openFile h).bind fun r w hw => ?_
  cases r with
  | none => exact safe_noDigest hw.1
  | some file =>
    refine (safe_read (hw.2 file rfl) offset length).bind fun r w hw => ?_
    cases r with
    | none => exact safe_noDigest hw.1.part
    | some data =>
      obtain rfl := hw.2 data rfl
      refine safe_ite (fun _ => safe_noDigest hw.1.part) fun hlen => ?_
      rw [not_not] at hlen
      exact (safe_sha256Hex stable_part hw.1.part _).mono fun r w hw =>
        ⟨hw.1, fun hne => ⟨hw.2 hne, hlen⟩⟩

/-- `Sha256FileHex` of the file. -/
theorem safe_sha256FileHex (h : Part care m acc d w) :
    (partRules sha fmt care t m).Safe
      (fun r w => Part care m acc d w ∧ (r ≠ "" → care.Digest d r))
      (sha256FileHex (resourceUploadingPartPath m)) w := by
  refine (safe_openFile h).bind fun r w hw => ?_
  cases r with
  | none => exact safe_noDigest hw.1
  | some file =>
    refine (safe_readAll (hw.2 file rfl)).bind fun r w hw => ?_
    cases r with
    | none => exact safe_noDigest hw.1.part
    | some data =>
      obtain rfl := hw.2 data rfl
      exact safe_sha256Hex stable_part hw.1.part _

/-! ### Cutting back -/

theorem safe_truncateUploadFile (h : Part care m acc d w) {received : Nat}
    (hle : received ≤ d.length) :
    (partRules sha fmt care t m).Safe
      (fun ok => Part care m acc (if ok = true then d.take received else d))
      (truncateUploadFile (resourceUploadingPartPath m) received) w := by
  refine (safe_readLength h).bind fun r w hw => ?_
  cases r with
  | none => exact safe_pure stable_part hw.1
  | some size =>
    refine safe_ite (fun _ => safe_pure stable_part hw.1) fun hge => safe_ite (fun e => ?_)
      fun _ => safe_resizeFile hw.1 hle
    refine safe_pure stable_part ?_
    rcases hw.2 size rfl with ⟨hlen, -⟩ | ⟨h0, hmissing⟩
    · rw [List.take_of_length_le (by omega)]
      exact hw.1
    · obtain rfl : received = 0 := by omega
      exact hw.1.journal ▸ hmissing.part

theorem resumeOffset_cases (totalSize size : Nat) :
    resumeOffset totalSize resourceUploadChunkSize size = 0 ∨
      size ≤ totalSize ∧ resumeOffset totalSize resourceUploadChunkSize size = resume size := by
  unfold resumeOffset
  split
  · exact .inl rfl
  · exact .inr ⟨by omega, rfl⟩

theorem resumeOffset_dvd (totalSize size : Nat) :
    resourceUploadChunkSize ∣ resumeOffset totalSize resourceUploadChunkSize size := by
  rcases resumeOffset_cases totalSize size with h | ⟨-, h⟩
  · rw [h]
    exact Nat.dvd_zero _
  · rw [h]
    exact resume_dvd size

theorem resumeOffset_le (totalSize size : Nat) :
    resumeOffset totalSize resourceUploadChunkSize size ≤ size ∧
      resumeOffset totalSize resourceUploadChunkSize size ≤ totalSize := by
  have hle := resume_le size
  rcases resumeOffset_cases totalSize size with h | ⟨hsize, h⟩
  · omega
  · omega

/-- A file that was cut back for a new session: all of it was accepted. -/
theorem safe_recoverUploadFile (h : Part care m acc d w) (totalSize : Nat) :
    (partRules sha fmt care t m).Safe
      (fun r w => ∃ d', Part care m acc d' w ∧ ∀ n, r = some n → d'.length = n ∧
        Accepted acc d' ∧ n ≤ totalSize ∧ resourceUploadChunkSize ∣ n)
      (recoverUploadFile (resourceUploadingPartPath m) totalSize resourceUploadChunkSize) w := by
  refine (safe_readLength h).bind fun r w hw => ?_
  cases r with
  | none => exact safe_pure stable_partly ⟨d, hw.1, nofun⟩
  | some size =>
    obtain ⟨hpart, hsize⟩ := hw
    obtain ⟨hle, htotal⟩ := resumeOffset_le totalSize size
    have hdvd := resumeOffset_dvd totalSize size
    -- the bytes that stay: none, or all chunks but the last
    have hstays : resumeOffset totalSize resourceUploadChunkSize size ≤ d.length ∧
        Accepted acc (d.take (resumeOffset totalSize resourceUploadChunkSize size)) := by
      rcases hsize size rfl with ⟨rfl, hkept⟩ | ⟨rfl, -⟩
      · refine ⟨hle, ?_⟩
        rcases resumeOffset_cases totalSize d.length with h0 | ⟨-, hres⟩
        · rw [h0]
          exact accepted_nil
        · rw [hres]
          exact hkept
      · exact ⟨Nat.zero_le _, accepted_nil⟩
    refine (safe_truncateUploadFile hpart hstays.1).bind fun ok w hw => ?_
    refine safe_ite (fun hok => safe_pure stable_partly ⟨_, hw, fun n hn => ?_⟩) fun _ =>
      safe_pure stable_partly ⟨_, hw, nofun⟩
    rw [if_pos hok, ← Option.some.inj hn]
    exact ⟨by rw [List.length_take, Nat.min_eq_left hstays.1], hstays.2, htotal, hdvd⟩

/-! ### Writing -/

theorem overlay_append (pre rest bytes : List UInt8) :
    overlay (pre ++ rest) pre.length bytes = pre ++ (bytes ++ rest.drop bytes.length) := by
  rw [overlay_of_le (by rw [List.length_append]; omega), List.take_left, List.append_assoc,
    List.drop_append, List.drop_eq_nil_of_le (by omega), List.nil_append,
    Nat.add_sub_cancel_left]

/-- The streams of `WriteAndVerify`.  A file that had vanished is made again for
the first chunk. -/
theorem safe_openUpload (h : Part care m acc (pre ++ rest) w) :
    (partRules sha fmt care t m).Safe
      (fun r w => ∃ rest', (rest' = rest ∨ rest' = []) ∧ Part care m acc (pre ++ rest') w ∧
        ∀ i, r = some i → Open care m acc (pre ++ rest') i w)
      (openUpload (resourceUploadingPartPath m) pre.length) w := by
  have hstable : ∀ r : Option Handle, (partRules sha fmt care t m).Stable fun w =>
      ∃ rest', (rest' = rest ∨ rest' = []) ∧ Part care m acc (pre ++ rest') w ∧
        ∀ i, r = some i → Open care m acc (pre ++ rest') i w :=
    fun r => stable_exists fun _ => (stable_const _).and
      (stable_part.and (stable_forall fun _ => stable_imp stable_open))
  refine (safe_openFile h).bind fun r w hw => ?_
  cases r with
  | some file => exact safe_pure (hstable _) ⟨rest, .inl rfl, hw⟩
  | none =>
    refine safe_ite (fun _ => safe_pure (hstable _) ⟨rest, .inl rfl, hw.1, nofun⟩) fun h0 => ?_
    obtain rfl : pre = [] := List.eq_nil_of_length_eq_zero (not_not.mp h0)
    refine (safe_createFile hw.1).bind fun made w hw => ?_
    obtain ⟨rest', hrest', hpart⟩ := hw
    refine safe_ite (fun _ => ?_) fun _ => safe_pure (hstable _) ⟨rest', hrest', hpart, nofun⟩
    exact (safe_openFile (d := [] ++ rest') hpart).mono fun r w hw => ⟨rest', hrest', hw⟩

/-- `WriteAndVerify` behind the bytes that were accepted: whatever happens, at
most one chunk stands behind them. -/
theorem safe_writeAndVerify (h : Part care m acc (pre ++ rest) w) (hacc : Accepted acc pre)
    (hdvd : resourceUploadChunkSize ∣ pre.length) (hrest : rest.length ≤ data.length)
    (hdata : data.length ≤ resourceUploadChunkSize) :
    (partRules sha fmt care t m).Safe
      (fun ok w => ∃ rest', Part care m acc (pre ++ rest') w ∧ rest'.length ≤ data.length ∧
        (ok = true → rest' = data))
      (writeAndVerify (resourceUploadingPartPath m) pre.length data) w := by
  refine (safe_openUpload h).bind fun r w hw => ?_
  obtain ⟨rest₁, hrest₁, hpart, hopen⟩ := hw
  have hlen₁ : rest₁.length ≤ data.length := by
    rcases hrest₁ with rfl | rfl
    · exact hrest
    · exact Nat.zero_le _
  cases r with
  | none => exact safe_pure stable_partly ⟨rest₁, hpart, hlen₁, nofun⟩
  | some file =>
    have hlen : ∀ n, (data.take n ++ rest₁.drop (data.take n).length).length ≤ data.length := by
      intro n
      rw [List.length_append, List.length_drop, List.length_take]
      omega
    have hkept : ∀ n, Kept acc (overlay (pre ++ rest₁) pre.length (data.take n)) := by
      intro n
      rw [overlay_append]
      exact kept_append hacc hdvd ((hlen n).trans hdata)
    refine (safe_write (hopen file rfl) hkept).bind fun ok w hw => ?_
    obtain ⟨n, hn, hopen⟩ := hw
    rw [overlay_append] at hopen
    refine safe_ite (fun hok => ?_) fun _ => safe_pure stable_partly ⟨_, hopen.part, hlen n, nofun⟩
    -- all of the chunk was written, and nothing was longer
    have hall : data.take n ++ rest₁.drop (data.take n).length = data := by
      rw [List.take_of_length_le (hn hok), List.drop_eq_nil_of_le hlen₁, List.append_nil]
    rw [hall] at hopen
    refine (safe_read hopen pre.length data.length).bind fun r w hw => ?_
    cases r with
    | none => exact safe_pure stable_partly ⟨data, hw.1.part, le_rfl, nofun⟩
    | some readback => exact safe_pure stable_partly ⟨data, hw.1.part, le_rfl, fun _ => rfl⟩

/-! ### Chunks -/

/-- Of the bytes `d` the first `n` count as received. -/
structure Received (acc : Nat → Option (List UInt8)) (total n : Nat) (d : List UInt8) : Prop where
  accepted : Accepted acc (d.take n)
  le_length : n ≤ d.length
  le_total : n ≤ total
  aligned : resourceUploadChunkSize ∣ n ∨ n = total
  /-- At most one chunk has been begun behind them. -/
  tail : d.length ≤ n + resourceUploadChunkSize
  short : d.length ≤ total

variable {total received : Nat}

/-- At the end the bytes are all that there is. -/
theorem Received.take_total (h : Received acc total total d) : d.take total = d :=
  List.take_of_length_le h.short

theorem Received.kept (h : Received acc total received d) : Kept acc d := by
  rcases h.aligned with hdvd | rfl
  · have hlen : (d.take received).length = received := by
      rw [List.length_take, Nat.min_eq_left h.le_length]
    have hrest : (d.drop received).length ≤ resourceUploadChunkSize := by
      have htail := h.tail
      rw [List.length_drop]
      omega
    have hk := kept_append h.accepted (hlen.symm ▸ hdvd) hrest
    rwa [List.take_append_drop] at hk
  · have hk := h.accepted.kept
    rwa [h.take_total] at hk

theorem received_zero : Received acc total 0 [] :=
  ⟨accepted_nil, Nat.zero_le _, Nat.zero_le _, .inl (Nat.dvd_zero _), Nat.zero_le _, Nat.zero_le _⟩

/-- What the checks on the numbers of a chunk let through. -/
theorem chunkError_eq_none {length : Nat}
    (h : chunkError total resourceUploadChunkSize offset length received = none) :
    0 < length ∧ length = min resourceUploadChunkSize (total - offset) ∧
      resourceUploadChunkSize ∣ offset ∧ offset + length ≤ total ∧ offset ≤ received ∧
      (offset < received → offset + length ≤ received) := by
  unfold chunkError at h
  split at h
  · cases h
  split at h
  · cases h
  split at h
  · cases h
  split at h
  · cases h
  split at h
  · cases h
  rename_i hpos hoff hmin hrec
  rw [not_or, not_or, not_not] at hoff
  obtain ⟨hmod, hstart, hend⟩ := hoff
  exact ⟨by omega, not_not.mp hmin, Nat.dvd_of_mod_eq_zero hmod, by omega, by omega, by omega⟩

/-- The upload goes back to a chunk that was received before. -/
theorem Received.back (h : Received acc total received d) (hle : offset ≤ received)
    (hdvd : resourceUploadChunkSize ∣ offset) : Received acc total offset (d.take offset) := by
  have hlen : (d.take offset).length = offset := by
    rw [List.length_take, Nat.min_eq_left (hle.trans h.le_length)]
  have hacc := h.accepted.take hdvd
  rw [List.take_take, Nat.min_eq_left hle] at hacc
  refine ⟨?_, hlen.ge, hle.trans h.le_total, .inl hdvd, by omega, by
    rw [hlen]
    exact hle.trans h.le_total⟩
  rw [List.take_take, Nat.min_self]
  exact hacc

/-- A chunk that is accepted once more. -/
theorem Received.again (h : Received acc total received d)
    (hmin : data.length = min resourceUploadChunkSize (total - offset))
    (hle : offset + data.length ≤ received) (hdata : data = slice d offset data.length) :
    Received (acceptChunk acc offset data) total received d := by
  refine ⟨h.accepted.again ?_, h.le_length, h.le_total, h.aligned, h.tail, h.short⟩
  rcases Nat.lt_or_ge data.length resourceUploadChunkSize with hlt | hge
  · -- a short chunk ends the file
    have hle_total := h.le_total
    have hlen := h.short
    have htake : d.take received = d := List.take_of_length_le (by omega)
    rw [htake, hdata, slice, slice, List.take_of_length_le (by rw [List.length_drop]; omega),
      List.take_of_length_le (by rw [List.length_drop]; omega)]
  · have hfull : data.length = resourceUploadChunkSize := by omega
    rw [slice_take (by omega), ← hfull]
    exact hdata

/-- The next chunk was written. -/
theorem Received.append (hacc : Accepted acc pre) (hdvd : resourceUploadChunkSize ∣ pre.length)
    (hpre : pre.length = offset) (hmin : data.length = min resourceUploadChunkSize (total - offset))
    (hle : offset + data.length ≤ total) :
    Received (acceptChunk acc offset data) total (offset + data.length) (pre ++ data) := by
  have hlen : (pre ++ data).length = offset + data.length := by rw [List.length_append, hpre]
  refine ⟨?_, hlen.ge, hle, ?_, by omega, by omega⟩
  · rw [List.take_of_length_le hlen.le, ← hpre]
    exact hacc.append hdvd (by omega)
  · rcases Nat.lt_or_ge data.length resourceUploadChunkSize with hlt | hge
    · exact .inr (by omega)
    · have hfull : data.length = resourceUploadChunkSize := by omega
      rw [hfull, ← hpre]
      exact .inl ((Nat.dvd_add_right hdvd).mpr (dvd_refl _))

theorem safe_repeatedChunk (h : Part care m acc d w) {chunkSha256 : String}
    (hsha : care.Digest data chunkSha256) (hle : offset + data.length ≤ d.length) :
    (partRules sha fmt care t m).Safe
      (fun r w => ∃ d', Part care m acc d' w ∧
        (r = (.success, received) ∧ d' = d ∧ data = slice d offset data.length ∨
          r = (.fileHashMismatch, offset) ∧ d' = d.take offset ∨
          r.1 ≠ .success ∧ r.2 = received ∧ d' = d))
      (repeatedChunk (resourceUploadingPartPath m) offset data chunkSha256 received) w := by
  refine (safe_hashRange h offset data.length).bind fun hex w hw => ?_
  refine safe_ite (fun _ => safe_pure stable_partly ⟨d, hw.1, .inr (.inr ⟨nofun, rfl, rfl⟩)⟩)
    fun hne => safe_ite (fun e => ?_) fun _ => ?_
  · have hslice : care.Digest (slice d offset data.length) chunkSha256 := e ▸ (hw.2 hne).1
    exact safe_pure stable_partly ⟨d, hw.1, .inl ⟨rfl, rfl, hsha.unique hslice⟩⟩
  · refine (safe_truncateUploadFile hw.1 (by omega)).bind fun ok w hw => ?_
    refine safe_ite (fun hok => safe_pure stable_partly ⟨_, hw, .inr (.inl ⟨rfl, if_pos hok⟩)⟩)
      fun hok => safe_pure stable_partly ⟨_, hw, .inr (.inr ⟨nofun, rfl, if_neg hok⟩)⟩

theorem safe_appendChunk (h : Part care m acc (pre ++ rest) w) (hacc : Accepted acc pre)
    (hdvd : resourceUploadChunkSize ∣ pre.length) (hrest : rest.length ≤ data.length)
    (hdata : data.length ≤ resourceUploadChunkSize) :
    (partRules sha fmt care t m).Safe
      (fun r w => ∃ rest', Part care m acc (pre ++ rest') w ∧ rest'.length ≤ data.length ∧
        (r = (.success, pre.length + data.length) ∧ rest' = data ∨
          r.1 ≠ .success ∧ r.2 = pre.length))
      (appendChunk (resourceUploadingPartPath m) pre.length data pre.length) w := by
  refine safe_next (quiet_call trivial) stable_part h fun made w hw => ?_
  refine safe_ite (fun _ => ?_) fun _ => safe_pure stable_partly
    ⟨rest, hw, hrest, .inr ⟨nofun, rfl⟩⟩
  refine (safe_writeAndVerify hw hacc hdvd hrest hdata).bind fun ok w hw => ?_
  obtain ⟨rest', hpart, hlen, hall⟩ := hw
  refine safe_ite (fun hok => ?_) fun _ => ?_
  · exact safe_pure stable_partly ⟨rest', hpart, hlen, .inl ⟨rfl, hall hok⟩⟩
  · have hle : pre.length ≤ (pre ++ rest').length := by
      rw [List.length_append]
      omega
    refine (safe_truncateUploadFile hpart hle).bind fun ok w hw => ?_
    refine safe_pure stable_partly ?_
    cases ok with
    | true =>
      refine ⟨[], ?_, Nat.zero_le _, .inr ⟨nofun, rfl⟩⟩
      rw [if_pos rfl, List.take_left] at hw
      rw [List.append_nil]
      exact hw
    | false => exact ⟨rest', hw, hlen, .inr ⟨nofun, rfl⟩⟩

/-- **`WriteUploadChunk`** keeps the file and the counter together. -/
theorem safe_writeUploadChunk (h : Part care m acc d w)
    (hd : Received acc total received d) {chunkSha256 : String} :
    (partRules sha fmt care t m).Safe
      (fun r w => ∃ d', Part care m acc d' w ∧
        (r.1 ≠ .success → Received acc total r.2 d') ∧
        (r.1 = .success → Received (acceptChunk acc offset data) total r.2 d' ∧ 0 < data.length ∧
          (offset = received ∧ r.2 = received + data.length ∧
              d'.take r.2 = d.take received ++ data ∨
            offset < received ∧ r.2 = received ∧ d'.take r.2 = d.take received)))
      (writeUploadChunk (resourceUploadingPartPath m) total resourceUploadChunkSize offset data
        chunkSha256 received) w := by
  unfold writeUploadChunk
  cases he : chunkError total resourceUploadChunkSize offset data.length received with
  | some e =>
    have hne : e ≠ .success := by
      rintro rfl
      unfold chunkError at he
      split_ifs at he <;> cases he
    exact safe_pure stable_partly ⟨d, h, fun _ => hd, fun e' => absurd e' hne⟩
  | none =>
    obtain ⟨hpos, hmin, hdvd, htotal, hoff, hback⟩ := chunkError_eq_none he
    refine safe_ite (fun _ => safe_pure stable_partly ⟨d, h, fun _ => hd, nofun⟩) fun hvalid => ?_
    refine (safe_sha256Hex stable_part h data).bind fun hex w hw => ?_
    refine safe_ite (fun _ => safe_pure stable_partly ⟨d, hw.1, fun _ => hd, nofun⟩) fun hhex => ?_
    rw [not_not] at hhex
    have hne : hex ≠ "" := by
      rintro rfl
      rw [← hhex] at hvalid
      exact hvalid rfl
    have hsha : care.Digest data chunkSha256 := hhex ▸ hw.2 hne
    refine safe_ite (fun hlt => ?_) fun hge => ?_
    · -- a chunk that was received before
      have hle := hback hlt
      refine (safe_repeatedChunk hw.1 hsha (hle.trans hd.le_length)).mono fun r w hr => ?_
      obtain ⟨d', hpart, ⟨rfl, rfl, hdata⟩ | ⟨rfl, rfl⟩ | ⟨hr, hrec, rfl⟩⟩ := hr
      · exact ⟨d', hpart, fun e => absurd rfl e, fun _ =>
          ⟨hd.again hmin hle hdata, hpos, .inr ⟨hlt, rfl, rfl⟩⟩⟩
      · exact ⟨_, hpart, fun _ => hd.back hlt.le hdvd, nofun⟩
      · exact ⟨d', hpart, fun _ => hrec.symm ▸ hd, fun e => absurd e hr⟩
    · -- the next one
      obtain rfl : offset = received := by omega
      obtain ⟨pre, rest, rfl, rfl⟩ : ∃ pre rest, d = pre ++ rest ∧ pre.length = offset :=
        ⟨d.take offset, d.drop offset, (List.take_append_drop offset d).symm,
          by rw [List.length_take, Nat.min_eq_left hd.le_length]⟩
      have htail := hd.tail
      have hshort := hd.short
      have hacc := hd.accepted
      rw [List.length_append] at htail hshort
      rw [List.take_left] at hacc
      refine (safe_appendChunk hw.1 hacc hdvd (by omega) (by omega)).mono fun r w hr => ?_
      obtain ⟨rest', hpart, hlen', ⟨rfl, rfl⟩ | ⟨hr, hrec⟩⟩ := hr
      · have hrec := Received.append hacc hdvd rfl hmin htotal
        refine ⟨_, hpart, fun e => absurd rfl e, fun _ => ⟨hrec, hpos, .inl ⟨rfl, rfl, ?_⟩⟩⟩
        rw [List.take_left, List.take_of_length_le (by rw [List.length_append])]
      · refine ⟨_, hpart, fun _ => ?_, fun e => absurd e hr⟩
        rw [hrec]
        refine ⟨?_, ?_, hd.le_total, .inl hdvd, ?_, ?_⟩
        · rw [List.take_left]
          exact hacc
        all_goals
          rw [List.length_append]
          omega

/-! ### Publishing -/

/-- The `.part` file is as it was, or gone. -/
def Moved {sha : List UInt8 → String} (care : Care sha) (m : Int)
    (acc : Nat → Option (List UInt8)) (d : List UInt8) (w : World) : Prop :=
  ∃ d', (d' = d ∨ d' = []) ∧ Part care m acc d' w

theorem stable_moved : (partRules sha fmt care t m).Stable (Moved care m acc d) :=
  stable_exists fun _ => (stable_const _).and stable_part

theorem Part.moved (h : Part care m acc d w) : Moved care m acc d w := ⟨d, .inl rfl, h⟩

theorem safe_durableRename {s : String} (h : Part care m acc d w) (hrow : Row m s w)
    (hsha : sha d = s) (hne : d ≠ []) :
    (partRules sha fmt care t m).Safe (fun _ => Moved care m acc d)
      (durableRename (resourceUploadingPartPath m) (resourceBlobPath s)) w := by
  refine safe_next (quiet_observes (ensureDirectoryDurable_observes _))
    (stable_part.and (dbFact_stable (dbFact_row m s))) ⟨h, hrow⟩ fun made w hw => ?_
  refine safe_ite (fun _ => ?_) fun _ => safe_pure stable_moved hw.1.moved
  refine (safe_link hw.1 hw.2 hsha hne).bind fun r w hw => ?_
  cases r with
  | «exists» | failed => exact safe_pure stable_moved (hw.2 nofun).moved
  | linked =>
    refine (safe_unlink hw.1).bind fun ok w hw => ?_
    have hmoved : Moved care m acc d w := ⟨[], .inr rfl, hw⟩
    refine safe_ite (fun _ => ?_) fun _ => safe_pure stable_moved hmoved
    refine safe_next (quiet_call trivial) stable_moved hmoved fun _ w hw => ?_
    exact safe_next (quiet_call trivial) stable_moved hw fun _ w hw =>
      safe_pure stable_moved hw

/-- What a session that is ready to be published knows of its bytes. -/
structure Whole {sha : List UInt8 → String} (care : Care sha) (acc : Nat → Option (List UInt8))
    (s : UploadSession) (bytes : List UInt8) : Prop where
  accepted : Accepted acc bytes
  digest : care.Digest bytes s.sha256
  length : bytes.length = s.received
  nonempty : bytes ≠ []

theorem safe_openBlob {s : String} (hP : (partRules sha fmt care t m).Stable P) (h : P w)
    (hheld : w.mutex = some t) :
    (partRules sha fmt care t m).Safe
      (fun r w => P w ∧ ∀ i, r = some i → BlobIs t s i w)
      (call (.openFile (resourceBlobPath s))) w := by
  have hop : Op.Observes (.openFile (resourceBlobPath s)) := trivial
  refine (safe_look hop (hP.and stable_holds) ⟨h, hheld⟩
    (fun _ => stable_forall fun _ => stable_imp lockFact_blobIs.stable)
    fun c w r hw _ he i hi => ⟨hw.2, ?_⟩).mono fun _ _ hw => ⟨hw.1.1, hw.2⟩
  simp only [exec, Option.some.injEq, Prod.mk.injEq, and_true] at he
  subst he
  split at hi
  · cases hi
  · exact hi

/-- What is read of a blob has the digest of its name. -/
theorem safe_readBlob {s : String} (hP : (partRules sha fmt care t m).Stable P) (h : P w)
    (hblob : BlobIs t s i w) :
    (partRules sha fmt care t m).Safe
      (fun r w => P w ∧ ∀ data, r = some data → care.Digest data s) (call (.readAll i)) w := by
  have hop : Op.Observes (.readAll i) := trivial
  refine (safe_look hop (hP.and lockFact_blobIs.stable) ⟨h, hblob⟩
    (fun _ => stable_const _) fun c w r hw hinv he data hdata => ?_).mono
    fun _ _ hw => ⟨hw.1.1, hw.2⟩
  simp only [exec, Option.some.injEq, Prod.mk.injEq, and_true] at he
  subst he
  split at hdata
  · cases hdata
  · rw [← Option.some.inj hdata]
    exact ⟨hinv.2 rfl, hinv.1.blobs s i hw.2.2⟩

theorem overlay_nil (bytes : List UInt8) : overlay [] 0 bytes = bytes := by
  rw [overlay_of_le (Nat.le_refl 0), List.take_nil, List.nil_append, List.drop_nil,
    List.append_nil]

theorem safe_notCopied (h : Part care m acc d w) :
    (partRules sha fmt care t m).Safe
      (fun ok w => ∃ d', Part care m acc d' w ∧ (ok = true → d' = bytes)) (pure false) w :=
  safe_pure stable_partly ⟨d, h, nofun⟩

/-- The copy of the blob.  The blob has the digest of the bytes, so it has the
bytes. -/
theorem safe_copyFile (hs : Whole care acc s bytes)
    (h : Part care m acc d w) (hheld : w.mutex = some t) :
    (partRules sha fmt care t m).Safe
      (fun ok w => ∃ d', Part care m acc d' w ∧ (ok = true → d' = bytes))
      (copyFile (resourceBlobPath s.sha256) (resourceUploadingPartPath m)) w := by
  refine (safe_openBlob stable_part h hheld).bind fun r w hw => ?_
  cases r with
  | none => exact safe_notCopied hw.1
  | some input =>
    refine (safe_with lockFact_blobIs (safe_createNew hw.1) (calls_perform nofun)
      (hw.2 input rfl)).bind fun r w hw => ?_
    obtain ⟨⟨hold, hnew⟩, hblob⟩ := hw
    cases r with
    | none => exact safe_notCopied (hold rfl)
    | some output =>
      refine (safe_readBlob stable_open (hnew output rfl) hblob).bind fun r w hw => ?_
      cases r with
      | none => exact safe_notCopied hw.1.part
      | some data =>
        obtain rfl : data = bytes := (hw.2 data rfl).unique hs.digest
        have hkept : ∀ n, Kept acc (overlay [] 0 (data.take n)) := fun n => by
          rw [overlay_nil]
          exact hs.accepted.kept.take n
        refine (safe_write hw.1 hkept).mono fun ok w hw => ?_
        obtain ⟨n, hn, hopen⟩ := hw
        rw [overlay_nil] at hopen
        exact ⟨_, hopen.part, fun hok => List.take_of_length_le (hn hok)⟩

theorem safe_copyBack (hs : Whole care acc s bytes)
    (h : Part care m acc d w) (hheld : w.mutex = some t) :
    (partRules sha fmt care t m).Safe
      (fun ok w => ∃ d', Part care m acc d' w ∧ (ok = true → d' = bytes))
      (copyBack (resourceUploadingPartPath m) (resourceBlobPath s.sha256) s.received) w := by
  refine safe_next (quiet_observes (readLength_observes _))
    (stable_part.and stable_holds) ⟨h, hheld⟩ fun size w hw => ?_
  refine safe_ite (fun _ => ?_) fun _ => safe_notCopied hw.1
  refine (safe_with lockFact_holds (safe_remove hw.1) (calls_perform nofun) hw.2).bind
    fun rm w hw => ?_
  refine (safe_copyFile hs hw.1 hw.2).bind fun copied w hw => ?_
  obtain ⟨d', hpart, hcopied⟩ := hw
  refine safe_ite (fun hok => ?_) fun _ => safe_notCopied hpart
  refine (safe_readLength hpart).bind fun size w hw => ?_
  exact safe_pure stable_partly ⟨d', hw.1, fun _ => hcopied hok.2⟩

/-- After a publication that failed, the file is whole again or its session is
gone. -/
theorem safe_restorePart {fw : FileWorker}
    (hs : Whole care acc s bytes) (h : Moved care m acc bytes w) (hheld : w.mutex = some t) :
    (partRules sha fmt care t m).Safe
      (fun r w => r.2 = fw ∧ Part care m acc bytes w ∨
        r.2 = fw.erase m ∧ ∃ d', Part care m acc d' w)
      (restorePart s m fw) w := by
  have hpos : 0 < s.received := by
    rw [← hs.length]
    exact List.length_pos_of_ne_nil hs.nonempty
  have hstable : ∀ r : Nat × FileWorker, (partRules sha fmt care t m).Stable fun w =>
      r.2 = fw ∧ Part care m acc bytes w ∨ r.2 = fw.erase m ∧ ∃ d', Part care m acc d' w :=
    fun r w w' hw hr hi => hw.imp (fun h => ⟨h.1, stable_part w w' h.2 hr hi⟩)
      fun h => ⟨h.1, stable_exists (fun _ => stable_part) w w' h.2 hr hi⟩
  obtain ⟨d', hd', hpart⟩ := h
  refine (safe_with lockFact_holds (safe_readLength hpart)
    (files_ne_unlock (calls_files (readLength_observes _))) hheld).bind fun size w hw => ?_
  obtain ⟨⟨hpart, hsize⟩, hheld⟩ := hw
  refine safe_ite (fun e => safe_pure (hstable _) (.inl ⟨rfl, ?_⟩)) fun _ => ?_
  · -- the length tells that the file is there
    rcases hsize _ e with ⟨hlen, -⟩ | ⟨h0, -⟩
    · rcases hd' with rfl | rfl
      · exact hpart
      · rw [List.length_nil] at hlen
        omega
    · omega
  · refine (safe_copyBack hs hpart hheld).bind fun ok w hw => ?_
    obtain ⟨d', hpart, hok⟩ := hw
    refine safe_ite (fun e => safe_pure (hstable _) (.inl ⟨rfl, hok e ▸ hpart⟩)) fun _ => ?_
    refine (safe_recoverUploadFile hpart s.fileSizeBytes).bind fun size w hw => ?_
    obtain ⟨d', hpart, -⟩ := hw
    exact safe_pure (hstable _) (.inr ⟨rfl, d', hpart⟩)

end LlfcChat.Resource.Upload
