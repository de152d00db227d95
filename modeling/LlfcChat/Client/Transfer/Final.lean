/-
The end of a transfer.

The engine keeps the record of a transfer that has ended until the same message
is started again.  In every state the transfers whose end was signalled are the
ones whose records have ended, and no end is signalled twice; a record that has
ended keeps its phase, and nothing is sent for it.  In the same way an upload
whose proof was refused never tries a proof again.
-/
import LlfcChat.Client.Transfer.Pause

namespace LlfcChat.Transfer

variable {cfg : Config} {env : Env} {sha256Hex : List UInt8 → String} {s : Engine} {t t' : Runtime}
variable {a : Rights}

/-! ### Signals -/

/-- The ends that were signalled are those of the transfers that have ended, each of them once. -/
structure Ended (s : Engine) : Prop where
  serials : Serials s
  nodup : s.finished.Nodup
  used : ∀ n ∈ s.finished, n < s.nextSerial
  ended : ∀ dir, ∀ x ∈ s.mapFor dir, x.phase.terminal = true ↔ x.serial ∈ s.finished

theorem At.not_finished (h : Ended s) (ht : At t s) : t.serial ∉ s.finished := fun hmem => by
  have hterminal := (h.ended _ t ht.1).mpr hmem
  rw [ht.2] at hterminal
  cases hterminal

/-- A transfer that goes on. -/
theorem Ended.put (h : Ended s) (hs : Serials (s.put t')) (ht : At t s)
    (hserial : t'.serial = t.serial) (hphase : t'.phase.terminal = false) : Ended (s.put t') := by
  have hfinished : (s.put t').finished = s.finished := by
    unfold Engine.put
    cases t'.direction <;> rfl
  refine ⟨hs, by rw [hfinished]; exact h.nodup, fun n hn => ?_, fun dir x hx => ?_⟩
  · rw [Engine.put, nextSerial_setMap]
    exact h.used n (hfinished ▸ hn)
  · rw [hfinished]
    rcases mem_put hx with ⟨rfl, -⟩ | ⟨hmem, -⟩
    · rw [hphase, hserial]
      exact ⟨Bool.noConfusion, fun hmem => absurd hmem (ht.not_finished h)⟩
    · exact h.ended dir x hmem

/-- A transfer that ends. -/
theorem Ended.finish (h : Ended s) (hs : Serials (s.finish t')) (ht : At t s) (hk : Key t t')
    (hphase : t'.phase.terminal = true) : Ended (s.finish t') := by
  have hnot := ht.not_finished h
  refine ⟨hs, ?_, fun n hn => ?_, fun dir x hx => ?_⟩
  · refine List.nodup_append.mpr ⟨h.nodup, List.nodup_singleton _, fun a ha b hb => ?_⟩
    rw [List.mem_singleton.mp hb, hk.serial]
    exact fun heq => hnot (heq ▸ ha)
  · rw [nextSerial_finish]
    rcases List.mem_append.mp hn with hn | hn
    · exact h.used n hn
    · rw [List.mem_singleton.mp hn, hk.serial]
      exact h.serials.used _ t ht.1
  · rw [mapFor_finish] at hx
    show _ ↔ x.serial ∈ s.finished ++ [t'.serial]
    rw [List.mem_append, List.mem_singleton]
    rcases mem_put hx with ⟨rfl, -⟩ | ⟨hmem, hne⟩
    · exact ⟨fun _ => .inr rfl, fun _ => hphase⟩
    · -- another transfer has another number
      refine (h.ended dir x hmem).trans ⟨.inl, fun hor => hor.resolve_right fun heq => ?_⟩
      obtain ⟨hdir, hid⟩ := h.serials.unique dir _ x t hmem ht.1 (heq.trans hk.serial)
      exact hne (hdir.trans hk.direction.symm) (hid.trans hk.messageId.symm)

/-- The same transfers or fewer. -/
theorem Ended.fewer {s' : Engine} (h : Ended s) (hs : Serials s')
    (hmaps : ∀ dir, ∀ x ∈ s'.mapFor dir, ∃ y ∈ s.mapFor dir, x.serial = y.serial ∧
      x.phase = y.phase)
    (hfinished : s'.finished = s.finished) (hnext : s'.nextSerial = s.nextSerial) : Ended s' where
  serials := hs
  nodup := hfinished ▸ h.nodup
  used n hn := hnext ▸ h.used n (hfinished ▸ hn)
  ended dir x hx := by
    obtain ⟨y, hy, hserial, hphase⟩ := hmaps dir x hx
    rw [hfinished, hserial, hphase]
    exact h.ended dir y hy

/-- A new transfer. -/
theorem Ended.insert {s' : Engine} (h : Ended s) (hs : Serials s') (hfresh : Fresh t s)
    (hmaps : ∀ dir, s'.mapFor dir = (Engine.insert env t s).mapFor dir)
    (hnext : s'.nextSerial = s.nextSerial + 1)
    (hfinished : s'.finished = s.finished ++ if t.phase.terminal then [t.serial] else []) :
    Ended s' := by
  have hnew : t.serial ∉ s.finished := fun hmem => by
    have hlt := h.used _ hmem
    rw [hfresh.serial] at hlt
    exact Nat.lt_irrefl _ hlt
  have hmem : ∀ n, n ∈ s'.finished ↔ n ∈ s.finished ∨ (t.phase.terminal = true ∧ n = t.serial) := by
    intro n
    rw [hfinished, List.mem_append]
    split <;> simp_all
  refine ⟨hs, ?_, fun n hn => ?_, fun dir x hx => ?_⟩
  · rw [hfinished]
    split
    · refine List.nodup_append.mpr ⟨h.nodup, List.nodup_singleton _, fun a ha b hb => ?_⟩
      rw [List.mem_singleton.mp hb]
      exact fun heq => hnew (heq ▸ ha)
    · rw [List.append_nil]
      exact h.nodup
  · rw [hnext]
    rcases (hmem n).mp hn with hold | ⟨-, rfl⟩
    · exact Nat.lt_succ_of_lt (h.used n hold)
    · rw [hfresh.serial]
      exact Nat.lt_succ_self _
  · rw [hmem]
    rcases mem_insert (hmaps dir ▸ hx) with ⟨rfl, -⟩ | ⟨hold, -⟩
    · exact ⟨fun hterminal => .inr ⟨hterminal, rfl⟩,
        fun hor => hor.elim (fun hc => absurd hc hnew) (·.1)⟩
    · refine (h.ended dir x hold).trans ⟨.inl, fun hor => hor.resolve_right fun hc => ?_⟩
      have hlt := h.serials.used dir x hold
      rw [hc.2, hfresh.serial] at hlt
      exact Nat.lt_irrefl _ hlt

theorem Ended.leap {s' : Engine} (h : Ended s) (hleap : Leap cfg a s s') : Ended s' := by
  have hs := h.serials.leap hleap
  have hsame : ∀ {s'' : Engine}, (∀ dir, s''.mapFor dir = s.mapFor dir) →
      ∀ dir, ∀ x ∈ s''.mapFor dir, ∃ y ∈ s.mapFor dir, x.serial = y.serial ∧ x.phase = y.phase :=
    fun hmaps dir x hx => ⟨x, hmaps dir ▸ hx, rfl, rfl⟩
  cases hleap with
  | move hmove =>
    cases hmove with
    | put ht hk _ hphase _ => exact h.put hs ht hk.serial hphase
    | finish ht hk hphase => exact h.finish hs ht hk hphase
    | send kind _ _ _ _ => exact h.fewer hs (hsame fun dir => mapFor_send _ _ _ dir) rfl rfl
    | grant ht _ _ _ => exact h.put hs ht rfl ht.2
    | wait dir l =>
      exact h.fewer hs (hsame fun dir' => mapFor_setWait _ _ _ dir')
        (by cases dir <;> rfl) (nextSerial_setWait _ _ _)
    | awaiting b | log l => exact h.fewer hs (hsame fun dir => by cases dir <;> rfl) rfl rfl
    | file path c => exact h.fewer hs (hsame fun dir => mapFor_setFile _ _ _ dir) rfl rfl
  | pause ht _ | resume ht _ => exact h.put hs ht rfl ht.2
  | @enter t env hfresh hphase =>
    refine h.insert hs hfresh (fun _ => rfl) rfl ?_
    rw [hphase, Engine.insert]
    cases t.direction <;> exact (List.append_nil _).symm
  | stillborn env hfresh hphase =>
    refine h.insert hs hfresh (fun dir => mapFor_stillborn _ _ dir) rfl ?_
    rw [hphase]
    rfl
  | erase dir id =>
    refine h.fewer hs (fun dir' x hx => ⟨x, mem_erase hx, rfl, rfl⟩) ?_ (nextSerial_setMap _ _ _)
    cases dir <;> rfl
  | down =>
    refine h.fewer hs (fun dir x hx => ?_) rfl rfl
    rw [mapFor_down] at hx
    obtain ⟨y, hy, rfl⟩ := List.mem_map.mp hx
    obtain ⟨hk, hphase, -⟩ := connectionDown_key y
    exact ⟨y, hy, hk.serial, hphase⟩
  | up => exact h.fewer hs (hsame fun dir => by cases dir <;> rfl) rfl rfl
  | reset =>
    refine h.fewer hs (fun dir x hx => ?_) rfl rfl
    rw [mapFor_reset] at hx
    cases hx

/-! ### What does not change any more -/

/-- Transfer `n` has ended in phase `p`, and since `sent` nothing was sent for it. -/
structure Closed (n : Nat) (p : Phase) (sent : List Frame) (s : Engine) : Prop where
  base : Base s
  terminal : p.terminal = true
  used : n < s.nextSerial
  phase : ∀ dir, ∀ x ∈ s.mapFor dir, x.serial = n → x.phase = p
  silent : ∃ new, s.sent = sent ++ new ∧ ∀ f ∈ new, f.serial ≠ n

theorem Closed.leap {n : Nat} {p : Phase} {sent : List Frame} {s' : Engine}
    (h : Closed n p sent s) (hleap : Leap cfg a s s') : Closed n p sent s' := by
  obtain ⟨hb, hle⟩ := h.base.leap hleap
  refine ⟨hb, h.terminal, Nat.lt_of_lt_of_le h.used hle, ?_, ?_⟩
  · refine hleap.follow h.used h.phase fun dir x _ x' hkin hphase => ?_
    rw [hkin.ended (hphase ▸ h.terminal), hphase]
  · refine hleap.silent h.silent fun t f ht _ hserial _ hn => ?_
    have hlive := ht.2
    rw [h.phase _ t ht.1 (hserial.symm.trans hn), h.terminal] at hlive
    cases hlive

/-- Transfer `n` is out of the proof, and since `sent` no proof was sent for it. -/
structure Barred (n : Nat) (sent : List Frame) (s : Engine) : Prop where
  base : Base s
  used : n < s.nextSerial
  barred : ∀ dir, ∀ x ∈ s.mapFor dir, x.serial = n → x.proofDisabled = true
  silent : ∃ new, s.sent = sent ++ new ∧ ∀ f ∈ new, f.serial = n → f.kind ≠ .instantProofReq

theorem Barred.leap {n : Nat} {sent : List Frame} {s' : Engine} (h : Barred n sent s)
    (hleap : Leap cfg a s s') : Barred n sent s' := by
  obtain ⟨hb, hle⟩ := h.base.leap hleap
  refine ⟨hb, Nat.lt_of_lt_of_le h.used hle, ?_, ?_⟩
  · exact hleap.follow h.used h.barred fun _ _ _ _ hkin hx => hkin.proofDisabled hx
  · refine hleap.silent h.silent fun t f ht _ hserial hproof hn hkind => ?_
    have henabled := hproof hkind
    rw [h.barred _ t ht.1 (hserial.symm.trans hn)] at henabled
    cases henabled

/-! ### Runs -/

theorem ended_nil : Ended {} where
  serials := serials_nil
  nodup := List.nodup_nil
  used n hn := by cases hn
  ended dir x hx := by
    rw [mapFor_nil] at hx
    cases hx

theorem ended_run (cfg : Config) (sha256Hex : List UInt8 → String) (es : List (Env × Event)) :
    Ended (run cfg sha256Hex {} es) :=
  run_preserve cfg sha256Hex (fun _ _ h hleap => h.leap hleap) (fun _ h => h.serials.base)
    ended_nil es

/-- An upload whose proof is refused queries again and stays out of the proof. -/
theorem Serials.refused (h : Serials s) (hfind : s.findActive .upload t.messageId = some t)
    {rsp : InstantProofRsp} (hid : rsp.messageId = t.messageId) (hok : rsp.ok = true)
    (herror : rsp.error = 2118) (hpending : t.proofPending = true) :
    Barred t.serial s.sent (handleInstantProofRsp cfg env rsp s) := by
  have ht := (findActive_at h.base hfind).1
  let u : Runtime := { t with proofPending := false, querySentMs := 0, proofDisabled := true }
  have hstep : handleInstantProofRsp cfg env rsp s = resyncUpload env u s := by
    unfold handleInstantProofRsp
    rw [hid, hfind]
    simp only
    rw [hpending, hok, herror, if_neg Bool.noConfusion, if_neg Bool.noConfusion, if_pos rfl]
  have hput : Barred t.serial s.sent (s.put u) := by
    refine ⟨h.base.put u, ?_, fun dir x hx hn => ?_, [], ?_, fun f hf => by cases hf⟩
    · rw [Engine.put, nextSerial_setMap]
      exact h.used _ t ht.1
    · rcases mem_put hx with ⟨rfl, -⟩ | ⟨hmem, hne⟩
      · rfl
      · obtain ⟨rfl, hid⟩ := h.unique dir _ x t hmem ht.1 hn
        exact absurd hid (hne rfl)
    · rw [List.append_nil]
      exact sent_setMap _ _ _
  have hu : At u (s.put u) := ht.put rfl rfl ht.2
  have hmoves : Moves cfg {} (s.put u) (resyncUpload env u (s.put u)) :=
    resyncUpload_moves hu trivial
  rw [hstep, ← resyncUpload_put]
  exact hmoves.leaps.preserve (fun _ _ h hleap => h.leap hleap) hput

end LlfcChat.Transfer
