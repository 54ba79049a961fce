/-
# `GoatCoin.Worker.KillSwitch` — `net.rs`: the socket registry and the halt, over every schedule

A call of `connect` reads the halt flag, awaits the dial and only then counts its socket.  The halt
sets the flag and looks at the count:

    connect          check ── dial ── register        drop
    halt_and_wait    store ── look … look ── report

The flag stops the calls that come after it.  A call that has passed its check is neither counted
nor stopped, so the count that is reported says nothing of it: a report of zero is final exactly
when no call is between its check and its registration.
-/
import GoatCoin.Lib.Runs
import Mathlib.Data.List.Basic
import Mathlib.Tactic

namespace GoatCoin.Worker.KillSwitch

/-- How far a call of `connect` is.  `dialed` has its stream and has not counted it. -/
inductive CallPhase where
  | dialing
  | dialed
  | tracked
  | ended
deriving DecidableEq

/-- How far `halt_and_wait` is. -/
inductive HaltPhase where
  | idle
  | waiting
  | leaving
  | reported (openSocketsAfter : Nat)
deriving DecidableEq

structure SocketRegistry where
  opened : Nat
  halted : Bool
  calls : List CallPhase
  halting : HaltPhase
deriving DecidableEq

def SocketRegistry.new : SocketRegistry := ⟨0, false, [], .idle⟩

inductive Move where
  | connect
  | dialOk (i : Nat)
  | dialErr (i : Nat)
  /-- The future is dropped at its await. -/
  | cancel (i : Nat)
  | register (i : Nat)
  | drop (i : Nat)
  | halt
  | look
  | deadline
  | report

/-- A call goes from one phase to the next. -/
def SocketRegistry.pass (r : SocketRegistry) (i : Nat) (p q : CallPhase) : SocketRegistry :=
  if r.calls[i]? = some p then { r with calls := r.calls.set i q } else r

def SocketRegistry.step (r : SocketRegistry) : Move → SocketRegistry
  | .connect => { r with calls := r.calls ++ [if r.halted then .ended else .dialing] }
  | .dialOk i => r.pass i .dialing .dialed
  | .dialErr i => r.pass i .dialing .ended
  | .cancel i => r.pass i .dialing .ended
  | .register i =>
      if r.calls[i]? = some .dialed then { r.pass i .dialed .tracked with
                                           opened := r.opened + 1 } else r
  | .drop i =>
      if r.calls[i]? = some .tracked then { r.pass i .tracked .ended with
                                            opened := r.opened - 1 } else r
  | .halt => if r.halting = .idle then { r with halted := true, halting := .waiting } else r
  | .look => if r.halting = .waiting ∧ r.opened = 0 then { r with halting := .leaving } else r
  | .deadline => if r.halting = .waiting then { r with halting := .leaving } else r
  | .report => if r.halting = .leaving then { r with halting := .reported r.opened } else r

/-- Past its check, and not counted. -/
def CallPhase.InFlight (p : CallPhase) : Prop := p = .dialing ∨ p = .dialed

/-- No socket is counted, and no call holds one. -/
def SocketRegistry.Dark (r : SocketRegistry) : Prop := r.opened = 0 ∧ .tracked ∉ r.calls

/-! ## The count -/

variable {r : SocketRegistry} {i : Nat} {p q : CallPhase}

theorem pass_of (h : r.calls[i]? = some p) :
    r.pass i p q = { r with calls := r.calls.set i q } := if_pos h

theorem count_pass (h : r.calls[i]? = some p) :
    (r.calls.set i q).count .tracked
      = r.calls.count .tracked - (if p = .tracked then 1 else 0) + if q
      = .tracked then 1 else 0 := by
  obtain ⟨hi, hp⟩ := List.getElem?_eq_some_iff.mp h
  rw [List.count_set hi, hp]
  simp only [beq_iff_eq]

/-- The count is the number of tracked streams, and the flag is set once the halt has begun. -/
structure Counted (r : SocketRegistry) : Prop where
  count : r.opened = r.calls.count .tracked
  flag : r.halting ≠ .idle → r.halted = true

theorem counted_pass (h : Counted r) (hp : p ≠ .tracked)
    (hq : q ≠ .tracked) : Counted (r.pass i p q) := by
  unfold SocketRegistry.pass
  split
  · rename_i hcall
    refine ⟨?_, h.flag⟩
    rw [count_pass hcall, if_neg hp, if_neg hq]
    exact h.count
  · exact h

theorem counted_step (r : SocketRegistry) (k : Move) (h : Counted r) : Counted (r.step k) := by
  cases k with
  | connect =>
      refine ⟨?_, h.flag⟩
      have hnew : [if r.halted then CallPhase.ended else .dialing].count .tracked = 0 := by
        split
        · rfl
        · rfl
      show r.opened = (r.calls ++ _).count .tracked
      rw [List.count_append, hnew]
      exact h.count
  | dialOk i => exact counted_pass h nofun nofun
  | dialErr i => exact counted_pass h nofun nofun
  | cancel i => exact counted_pass h nofun nofun
  | register i =>
      unfold SocketRegistry.step
      dsimp only
      split
      · rename_i hcall
        refine ⟨?_, ?_⟩
        · rw [pass_of hcall]
          dsimp only
          rw [count_pass hcall, if_neg nofun, if_pos rfl, h.count]
          rfl
        · rw [pass_of hcall]
          exact h.flag
      · exact h
  | drop i =>
      unfold SocketRegistry.step
      dsimp only
      split
      · rename_i hcall
        refine ⟨?_, ?_⟩
        · rw [pass_of hcall]
          dsimp only
          rw [count_pass hcall, if_pos rfl, if_neg nofun, h.count]
          rfl
        · rw [pass_of hcall]
          exact h.flag
      · exact h
  | halt =>
      unfold SocketRegistry.step
      dsimp only
      split
      · exact ⟨h.count, fun _ => rfl⟩
      · exact h
  | look =>
      unfold SocketRegistry.step
      dsimp only
      split
      · rename_i hlook
        exact ⟨h.count, fun _ => h.flag (by rw [hlook.1]; nofun)⟩
      · exact h
  | deadline =>
      unfold SocketRegistry.step
      dsimp only
      split
      · rename_i hwaiting
        exact ⟨h.count, fun _ => h.flag (by rw [hwaiting]; nofun)⟩
      · exact h
  | report =>
      unfold SocketRegistry.step
      dsimp only
      split
      · rename_i hleaving
        exact ⟨h.count, fun _ => h.flag (by rw [hleaving]; nofun)⟩
      · exact h

theorem counted_run (ks : List Move) : Counted (ks.foldl SocketRegistry.step .new) :=
  Runs.invariant counted_step ks _ ⟨rfl, fun h => absurd rfl h⟩

/-! ## After the report -/

/-- The flag is set, and every call has ended. -/
structure Quiet (r : SocketRegistry) : Prop where
  flag : r.halted = true
  none : r.opened = 0
  calls : ∀ p ∈ r.calls, p = .ended

theorem Quiet.none_at (h : Quiet r) (hp : p ≠ .ended) (i : Nat) :
    r.calls[i]? ≠ some p := by
  intro hcall
  exact hp (h.calls p (List.mem_of_getElem? hcall))

theorem Quiet.pass_eq (h : Quiet r) (hp : p ≠ .ended) (i : Nat) :
    r.pass i p q = r := if_neg (h.none_at hp i)

/-- **A quiet registry stays quiet**: a new call finds the flag, and no call is left to move. -/
theorem quiet_step (r : SocketRegistry) (k : Move) (h : Quiet r) : Quiet (r.step k) := by
  cases k with
  | connect =>
      refine ⟨h.flag, h.none, ?_⟩
      intro p hp
      rcases List.mem_append.mp hp with hold | hnew
      · exact h.calls p hold
      · rw [List.mem_singleton.mp hnew, if_pos h.flag]
  | dialOk i =>
      have hsame : r.pass i .dialing .dialed = r := h.pass_eq (by decide) i
      unfold SocketRegistry.step
      dsimp only
      rw [hsame]
      exact h
  | dialErr i =>
      have hsame : r.pass i .dialing .ended = r := h.pass_eq (by decide) i
      unfold SocketRegistry.step
      dsimp only
      rw [hsame]
      exact h
  | cancel i =>
      have hsame : r.pass i .dialing .ended = r := h.pass_eq (by decide) i
      unfold SocketRegistry.step
      dsimp only
      rw [hsame]
      exact h
  | register i =>
      have hnone : r.calls[i]? ≠ some .dialed := h.none_at (by decide) i
      have hsame : r.step (.register i) = r := if_neg hnone
      rw [hsame]
      exact h
  | drop i =>
      have hnone : r.calls[i]? ≠ some .tracked := h.none_at (by decide) i
      have hsame : r.step (.drop i) = r := if_neg hnone
      rw [hsame]
      exact h
  | halt =>
      unfold SocketRegistry.step
      dsimp only
      split
      · exact ⟨rfl, h.none, h.calls⟩
      · exact h
  | look =>
      unfold SocketRegistry.step
      dsimp only
      split
      · exact ⟨h.flag, h.none, h.calls⟩
      · exact h
  | deadline =>
      unfold SocketRegistry.step
      dsimp only
      split
      · exact ⟨h.flag, h.none, h.calls⟩
      · exact h
  | report =>
      unfold SocketRegistry.step
      dsimp only
      split
      · exact ⟨h.flag, h.none, h.calls⟩
      · exact h

theorem Quiet.dark (h : Quiet r) : r.Dark :=
  ⟨h.none, fun hp => nomatch h.calls _ hp⟩

theorem quiet_of_landed (h : Counted r) (hbegun : r.halting ≠ .idle) (hopen : r.opened = 0)
    (hlanded : ∀ p ∈ r.calls, ¬p.InFlight) : Quiet r := by
  refine ⟨h.flag hbegun, hopen, ?_⟩
  have hnone : .tracked ∉ r.calls := by
    rw [← List.count_eq_zero, ← h.count]
    exact hopen
  intro p hp
  cases p with
  | dialing => exact absurd (.inl rfl) (hlanded _ hp)
  | dialed => exact absurd (.inr rfl) (hlanded _ hp)
  | tracked => exact absurd hp hnone
  | ended => rfl

theorem opened_register (h : r.calls[i]? = some .dialed) :
    (r.step (.register i)).opened = r.opened + 1 := by
  unfold SocketRegistry.step
  dsimp only
  rw [if_pos h]

/-- **A call in flight can still open a socket.** -/
theorem lights_up (hmem : p ∈ r.calls) (hflight : p.InFlight) :
    ∃ ls : List Move, (ls.foldl SocketRegistry.step r).opened = r.opened + 1 := by
  obtain ⟨i, hi⟩ := List.mem_iff_getElem?.mp hmem
  rcases hflight with rfl | rfl
  · refine ⟨[.dialOk i, .register i], ?_⟩
    have hdialed : (r.step (.dialOk i)).calls[i]? = some .dialed := by
      have hlt := (List.getElem?_eq_some_iff.mp hi).1
      show (r.pass i .dialing .dialed).calls[i]? = some .dialed
      rw [pass_of hi]
      exact List.getElem?_set_self hlt
    have hsame : (r.step (.dialOk i)).opened = r.opened := by
      show (r.pass i .dialing .dialed).opened = r.opened
      rw [pass_of hi]
    show ((r.step (.dialOk i)).step (.register i)).opened = r.opened + 1
    rw [opened_register hdialed, hsame]
  · exact ⟨[.register i], opened_register hi⟩

/-- **A report of zero is final if and only if no call is in flight when it is made**, after every
run. -/
theorem report_final_iff (ks : List Move)
    (hleaving : (ks.foldl SocketRegistry.step .new).halting = .leaving)
    (hopen : (ks.foldl SocketRegistry.step .new).opened = 0) :
    (((ks ++ [Move.report]).foldl SocketRegistry.step .new).halting = .reported 0) ∧
      ((∀ ls, ((ks ++ [Move.report] ++ ls).foldl SocketRegistry.step .new).Dark) ↔
        ∀ p ∈ (ks.foldl SocketRegistry.step .new).calls, ¬p.InFlight) := by
  have hcounted := counted_run ks
  have hreport : (ks ++ [Move.report]).foldl SocketRegistry.step .new
      = { ks.foldl SocketRegistry.step .new with halting := .reported 0 } := by
    rw [Runs.foldl_snoc]
    generalize ks.foldl SocketRegistry.step .new = r at hleaving hopen
    unfold SocketRegistry.step
    dsimp only
    rw [if_pos hleaving, hopen]
  refine ⟨by rw [hreport], ?_, ?_⟩
  · intro hdark p hp hflight
    have hp' : p ∈ ((ks ++ [Move.report]).foldl SocketRegistry.step .new).calls := by
      rw [hreport]
      exact hp
    obtain ⟨ls, hlit⟩ := lights_up hp' hflight
    have hzero := (hdark ls).1
    rw [List.foldl_append, hlit] at hzero
    exact absurd hzero (Nat.succ_ne_zero _)
  · intro hlanded ls
    have hbegun : (ks.foldl SocketRegistry.step .new).halting ≠ .idle := by
      rw [hleaving]
      nofun
    have hquiet := quiet_of_landed hcounted hbegun hopen hlanded
    have hafter : Quiet ((ks ++ [Move.report]).foldl SocketRegistry.step .new) := by
      rw [Runs.foldl_snoc]
      exact quiet_step _ _ hquiet
    rw [List.foldl_append]
    exact (Runs.invariant quiet_step ls _ hafter).dark

/-- A call is cancelled by the halt, and the next one is refused. -/
def sampleHalt : List Move := [.connect, .halt, .cancel 0, .connect, .look]

theorem report_final_sample :
    ((sampleHalt ++ [Move.report]).foldl SocketRegistry.step .new).halting = .reported 0 ∧
      ∀ ls, ((sampleHalt ++ [Move.report] ++ ls).foldl SocketRegistry.step .new).Dark := by
  obtain ⟨hreported, hfinal⟩ := report_final_iff sampleHalt rfl rfl
  refine ⟨hreported, hfinal.mpr ?_⟩
  intro p hp hflight
  have hall : ∀ p ∈ [CallPhase.ended, .ended], p = .ended := by decide
  have hended : p = .ended := hall p hp
  subst hended
  rcases hflight with h | h
  · cases h
  · cases h

/-- **A dial across the halt**: its socket is counted after the report of zero. -/
theorem dial_across_halt :
    ¬ ∀ ks : List Move, (ks.foldl SocketRegistry.step .new).halting = .leaving →
      (ks.foldl SocketRegistry.step .new).opened = 0 →
      ∀ ls, ((ks ++ [Move.report] ++ ls).foldl SocketRegistry.step .new).Dark := by
  intro h
  have hdark := h [.connect, .halt, .look] rfl rfl [.dialOk 0, .register 0]
  revert hdark
  unfold SocketRegistry.Dark
  decide

end GoatCoin.Worker.KillSwitch
