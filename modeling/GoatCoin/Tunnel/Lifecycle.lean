/-
# `GoatCoin.Tunnel.Lifecycle` — who halts a tunnel, and what a halt leaves

`lifecycle.rs`: a state machine, a mux, a halt record and a heartbeat, side by side.  A halt is
written down twice,

    the phase     halting or closed       by any event that is the kill switch
    the record    origin, times, count    by `engage_kill_switch` alone

so the two agree along a run exactly when the kill switch is never fed to the state machine as a
bare event before it was engaged (`halt_coherent_iff`).  A lifecycle with a record is halted for
good, whatever is done with it (`haltedForGood`).
-/
import GoatCoin.Lib.Runs
import GoatCoin.Tunnel.State

namespace GoatCoin.Tunnel

def killDeadlineMs : Nat := 5000
def heartbeatTtlMs : Nat := 3000

/-- Who engaged the switch. -/
inductive ControlOrigin where
  | sidecar
  | shell
deriving DecidableEq

structure HaltRecord where
  origin : ControlOrigin
  engagedAtMs : Nat
  completedAtMs : Option Nat
  streamsDropped : Nat
deriving DecidableEq

inductive HaltOutcome where
  | completed (elapsedMs : Nat)
  | deadlineMissed (elapsedMs : Nat)
  | unverified
deriving DecidableEq

/-- The clock is a parameter of every operation, in milliseconds. -/
structure TunnelLifecycle where
  state : TunnelState
  mux : Mux
  halt : Option HaltRecord
  lastHeartbeatMs : Option Nat
deriving DecidableEq

namespace TunnelLifecycle

def new : TunnelLifecycle := ⟨.idle, .new, none, none⟩

/-- The next state, or the error. -/
def onEvent (life : TunnelLifecycle) (event : TunnelEvent) :
    Except TunnelError TunnelState × TunnelLifecycle :=
  match step life.state event with
  | .ok next => (.ok next, { life with state := next })
  | .error e => (.error e, life)

/-- The indicator is alive. -/
def heartbeat (life : TunnelLifecycle) (nowMs : Nat) : TunnelLifecycle :=
  { life with lastHeartbeatMs := some nowMs }

def isLive (life : TunnelLifecycle) (nowMs : Nat) : Bool :=
  if life.halt.isSome then false
  else
    match life.lastHeartbeatMs with
    | none => false
    | some last => decide (nowMs - last ≤ heartbeatTtlMs)

def isHalted (life : TunnelLifecycle) : Bool := life.halt.isSome

def engageKillSwitch (life : TunnelLifecycle) (origin : ControlOrigin) (nowMs : Nat) :
    HaltRecord × TunnelLifecycle :=
  match life.halt with
  | some existing => (existing, (life.onEvent .killSwitchEngaged).2)
  | none =>
      let (streamsDropped, mux) := life.mux.dropAll
      let record := ⟨origin, nowMs, none, streamsDropped⟩
      (record, ({ life with mux, halt := some record }.onEvent .killSwitchEngaged).2)

/-- It writes nothing. -/
def clearHalt (life : TunnelLifecycle) (origin : ControlOrigin) : Except TunnelError Unit :=
  if origin = .shell then .error .haltNotClearableByShell
  else if life.halt.isSome then .error .haltIsSticky
  else .ok ()

def haltOutcome (life : TunnelLifecycle) : Option HaltOutcome :=
  life.halt.map fun record =>
    match record.completedAtMs with
    | none => .unverified
    | some done =>
        if done - record.engagedAtMs ≤ killDeadlineMs then .completed (done - record.engagedAtMs)
        else .deadlineMissed (done - record.engagedAtMs)

/-- The first completion is kept. -/
def HaltRecord.complete (record : HaltRecord) (nowMs : Nat) : HaltRecord :=
  { record with completedAtMs := record.completedAtMs.or (some nowMs) }

/-- The halt has ended. -/
def completeHalt (life : TunnelLifecycle) (nowMs : Nat) : Option HaltOutcome × TunnelLifecycle :=
  match life.halt with
  | none => (none, life)
  | some record =>
      let life' := { life with halt := some (HaltRecord.complete record nowMs) }
      (life'.haltOutcome, life')

def mayOpenStream (life : TunnelLifecycle) (nowMs : Nat) : Except TunnelError Unit :=
  if life.isHalted then .error .tunnelHalted
  else if !life.isLive nowMs then .error .heartbeatStale
  else if !life.state.mayCarryStreamData then .error (illegal life.state .streamOpened)
  else .ok ()

def openStream (life : TunnelLifecycle) (id : UInt32) (nowMs : Nat) :
    Except TunnelError Unit × TunnelLifecycle :=
  match life.mayOpenStream nowMs with
  | .error e => (.error e, life)
  | .ok _ =>
      match life.mux.openId id with
      | .error e => (.error e, life)
      | .ok mux =>
          match { life with mux }.onEvent .streamOpened with
          | (.ok _, life') => (.ok (), life')
          | (.error e, life') =>
              (.error e, { life' with mux := (life'.mux.closeId id).toOption.getD life'.mux })

def closeStream (life : TunnelLifecycle) (id : UInt32) :
    Except TunnelError Unit × TunnelLifecycle :=
  match life.mux.closeId id with
  | .error e => (.error e, life)
  | .ok mux => (.ok (), ({ life with mux }.onEvent .streamClosed).2)

/-! ## Runs -/

/-- The public operations that may write. -/
inductive Call where
  | onEvent (event : TunnelEvent)
  | heartbeat (nowMs : Nat)
  | engageKillSwitch (origin : ControlOrigin) (nowMs : Nat)
  | clearHalt (origin : ControlOrigin)
  | completeHalt (nowMs : Nat)
  | openStream (id : UInt32) (nowMs : Nat)
  | closeStream (id : UInt32)
deriving DecidableEq

/-- The lifecycle after an operation, whatever the operation answered. -/
def next (life : TunnelLifecycle) : Call → TunnelLifecycle
  | .onEvent event => (life.onEvent event).2
  | .heartbeat nowMs => life.heartbeat nowMs
  | .engageKillSwitch origin nowMs => (life.engageKillSwitch origin nowMs).2
  | .clearHalt _ => life
  | .completeHalt nowMs => (life.completeHalt nowMs).2
  | .openStream id nowMs => (life.openStream id nowMs).2
  | .closeStream id => (life.closeStream id).2

/-! ## What each operation does -/

section
variable {life : TunnelLifecycle}

theorem onEvent_cases (life : TunnelLifecycle) (event : TunnelEvent) :
    (∃ t, step life.state event = .ok t ∧ (life.onEvent event).2 = { life with state := t })
      ∨ (∃ e, step life.state event = .error e) ∧ (life.onEvent event).2 = life := by
  unfold onEvent
  cases hstep : step life.state event with
  | ok t => exact .inl ⟨t, rfl, rfl⟩
  | error e => exact .inr ⟨⟨e, rfl⟩, rfl⟩

theorem onEvent_kill (life : TunnelLifecycle) :
    ∃ t : TunnelState, t.Halted
    ∧ (life.onEvent .killSwitchEngaged).2 = { life with state := t } := by
  obtain ⟨t, ht, hhalted⟩ := step_killSwitchEngaged life.state
  refine ⟨t, hhalted, ?_⟩
  rw [onEvent, ht]

theorem engage_first (hnone : life.halt = none) (origin : ControlOrigin) (nowMs : Nat) :
    ∃ t : TunnelState, t.Halted ∧ (life.engageKillSwitch origin nowMs).2
      = { life with
          state := t, mux := .new, halt := some ⟨origin, nowMs, none, life.mux.ids.card⟩ } := by
  rw [engageKillSwitch, hnone]
  exact onEvent_kill _

theorem engage_again {record : HaltRecord} (hsome : life.halt = some record)
    (origin : ControlOrigin) (nowMs : Nat) : ∃ t : TunnelState, t.Halted
      ∧ (life.engageKillSwitch origin nowMs).2 = { life with state := t } := by
  have hevent : (life.engageKillSwitch origin nowMs).2 = (life.onEvent .killSwitchEngaged).2 := by
    rw [engageKillSwitch, hsome]
  rw [hevent]
  exact onEvent_kill life

theorem mayOpenStream_ok {nowMs : Nat} (h : life.mayOpenStream nowMs = .ok ()) :
    life.halt = none ∧ life.isLive nowMs = true ∧ life.state = .ready := by
  unfold mayOpenStream at h
  split_ifs at h with hhalted hlive hready
  · refine ⟨?_, by simpa using hlive, mayCarryStreamData_iff.mp (by simpa using hready)⟩
    simpa [isHalted] using hhalted

theorem mayOpenStream_of_halt {record : HaltRecord} (h : life.halt = some record) (nowMs : Nat) :
    life.mayOpenStream nowMs = .error .tunnelHalted := by
  rw [mayOpenStream, isHalted, h]
  rfl

theorem openStream_cases (life : TunnelLifecycle) (id : UInt32) (nowMs : Nat) :
    (∃ mux, life.halt = none ∧ life.isLive nowMs = true ∧ life.state = .ready
        ∧ life.mux.openId id = .ok mux ∧ life.openStream id nowMs = (.ok (), { life with mux }))
      ∨ ∃ e, life.openStream id nowMs = (.error e, life) := by
  unfold openStream
  cases hmay : life.mayOpenStream nowMs with
  | error e => exact .inr ⟨e, rfl⟩
  | ok _ =>
      obtain ⟨hhalt, hlive, hready⟩ := mayOpenStream_ok hmay
      cases hopen : life.mux.openId id with
      | error e => exact .inr ⟨e, rfl⟩
      | ok mux =>
          refine .inl ⟨mux, hhalt, hlive, hready, rfl, ?_⟩
          obtain ⟨state, mux', halt, beat⟩ := life
          dsimp only at hready
          subst hready
          rfl

theorem closeStream_cases (life : TunnelLifecycle) (id : UInt32) :
    (∃ mux, life.mux.closeId id = .ok mux ∧ (life.closeStream id).2 = { life with mux })
      ∨ (life.closeStream id).2 = life := by
  unfold closeStream
  cases hclose : life.mux.closeId id with
  | error e => exact .inr rfl
  | ok mux =>
      refine .inl ⟨mux, rfl, ?_⟩
      obtain ⟨state, mux', halt, beat⟩ := life
      cases state <;> rfl

end

/-! ## Halted for good -/

/-- What stays of a halt record: the origin, the time, and a completion once there is one. -/
def Keeps (record record' : HaltRecord) : Prop :=
  record'.origin = record.origin ∧ record'.engagedAtMs = record.engagedAtMs
    ∧ ∀ done, record.completedAtMs = some done → record'.completedAtMs = some done

theorem Keeps.refl (record : HaltRecord) : Keeps record record := ⟨rfl, rfl, fun _ h => h⟩

theorem Keeps.trans {a b c : HaltRecord} (h : Keeps a b) (h' : Keeps b c) : Keeps a c :=
  ⟨h'.1.trans h.1, h'.2.1.trans h.2.1, fun done hdone => h'.2.2 done (h.2.2 done hdone)⟩

theorem keeps_complete (record : HaltRecord) (nowMs : Nat) :
    Keeps record (HaltRecord.complete record nowMs) := by
  refine ⟨rfl, rfl, fun done hdone => ?_⟩
  rw [HaltRecord.complete, hdone]
  rfl

/-- No stream, no life, no new stream at any later moment, and a record that is kept. -/
def HaltedForGood (life : TunnelLifecycle) : Prop :=
  life.mux.ids = ∅ ∧ (∀ nowMs, life.isLive nowMs = false)
    ∧ ∃ record, life.halt = some record ∧ ∀ later : List Call,
      (∀ id nowMs, ((later.foldl next life).openStream id nowMs).1 = .error .tunnelHalted)
        ∧ ∃ record', (later.foldl next life).halt = some record' ∧ Keeps record record'

theorem next_halted {life : TunnelLifecycle} {record : HaltRecord} (hhalt : life.halt = some record)
    (hmux : life.mux.ids = ∅) (call : Call) :
    ∃ record', (life.next call).halt = some record' ∧ Keeps record record'
      ∧ (life.next call).mux.ids = ∅ := by
  cases call with
  | onEvent event =>
      rcases onEvent_cases life event with ⟨t, -, heq⟩ | ⟨-, heq⟩ <;>
        exact ⟨record, by rw [next, heq]; exact hhalt, .refl record, by rw [next, heq]; exact hmux⟩
  | heartbeat nowMs => exact ⟨record, hhalt, .refl record, hmux⟩
  | engageKillSwitch origin nowMs =>
      obtain ⟨t, -, heq⟩ := engage_again hhalt origin nowMs
      exact ⟨record, by rw [next, heq]; exact hhalt, .refl record, by rw [next, heq]; exact hmux⟩
  | clearHalt origin => exact ⟨record, hhalt, .refl record, hmux⟩
  | completeHalt nowMs =>
      refine ⟨HaltRecord.complete record nowMs, ?_, keeps_complete record nowMs, ?_⟩
      · rw [next, completeHalt, hhalt]
      · rw [next, completeHalt, hhalt]
        exact hmux
  | openStream id nowMs =>
      rcases openStream_cases life id nowMs with ⟨mux, hnone, -⟩ | ⟨e, heq⟩
      · rw [hhalt] at hnone
        cases hnone
      · exact ⟨record, by rw [next, heq]; exact hhalt, .refl record, by rw [next, heq]; exact hmux⟩
  | closeStream id =>
      rcases closeStream_cases life id with ⟨mux, hclose, -⟩ | heq
      · obtain ⟨hmem, -⟩ := Mux.closeId_ok.mp hclose
        rw [hmux] at hmem
        exact absurd hmem (Finset.notMem_empty id)
      · exact ⟨record, by rw [next, heq]; exact hhalt, .refl record, by rw [next, heq]; exact hmux⟩

/-- **A record with no stream beside it is a halt for good**, over every run that follows. -/
theorem haltedForGood {life : TunnelLifecycle} {record : HaltRecord}
    (hhalt : life.halt = some record) (hmux : life.mux.ids = ∅) : life.HaltedForGood := by
  refine ⟨hmux, fun nowMs => by rw [isLive, hhalt]; rfl, record, hhalt, fun later => ?_⟩
  have hrun : ∃ record', (later.foldl next life).halt = some record' ∧ Keeps record record'
      ∧ (later.foldl next life).mux.ids = ∅ := by
    refine Runs.invariant
      (I := fun l => ∃ record', l.halt = some record' ∧ Keeps record record' ∧ l.mux.ids = ∅)
      ?_ later life ⟨record, hhalt, .refl record, hmux⟩
    rintro l call ⟨record', hhalt', hkeeps, hmux'⟩
    obtain ⟨record'', hhalt'', hkeeps', hmux''⟩ := next_halted hhalt' hmux' call
    exact ⟨record'', hhalt'', hkeeps.trans hkeeps', hmux''⟩
  obtain ⟨record', hhalt', hkeeps, -⟩ := hrun
  refine ⟨fun id nowMs => ?_, record', hhalt', hkeeps⟩
  rw [openStream, mayOpenStream_of_halt hhalt']

/-! ## The phase and the record -/

/-- The phase and the record tell of the same halt, and that halt is for good. -/
def HaltCoherent (life : TunnelLifecycle) : Prop :=
  (life.state.Halted ↔ life.isHalted = true) ∧ (life.isHalted = true → life.HaltedForGood)

/-- The kill switch comes as a bare event only where it was engaged before. -/
def KillsByEngaging (life : TunnelLifecycle) (call : Call) : Prop :=
  call = .onEvent .killSwitchEngaged → life.isHalted = true

theorem haltCoherent_of_none {life : TunnelLifecycle} (hnone : life.halt = none)
    (hstate : ¬ life.state.Halted) : life.HaltCoherent := by
  have hnot : ¬ life.isHalted = true := by
    rw [isHalted, hnone]
    exact Bool.false_ne_true
  exact ⟨⟨fun h => absurd h hstate, fun h => absurd h hnot⟩, fun h => absurd h hnot⟩

theorem haltCoherent_of_some {life : TunnelLifecycle} {record : HaltRecord}
    (hsome : life.halt = some record) (hstate : life.state.Halted) (hmux : life.mux.ids = ∅) :
    life.HaltCoherent := by
  have hyes : life.isHalted = true := by
    rw [isHalted, hsome]
    rfl
  exact ⟨⟨fun _ => hyes, fun _ => hstate⟩, fun _ => haltedForGood hsome hmux⟩

theorem isHalted_iff {life : TunnelLifecycle} : life.isHalted = true
    ↔ ∃ record, life.halt = some record :=
  Option.isSome_iff_exists

theorem next_coherent {life : TunnelLifecycle} (h : life.HaltCoherent) (call : Call) :
    (life.next call).HaltCoherent ↔ life.KillsByEngaging call := by
  cases hhalt : life.halt with
  | some record =>
      -- halted already: every operation keeps phase, record and the empty mux
      have hhalted : life.isHalted = true := isHalted_iff.mpr ⟨record, hhalt⟩
      have hmux := (h.2 hhalted).1
      have hstate := h.1.mpr hhalted
      refine ⟨fun _ _ => hhalted, fun _ => ?_⟩
      obtain ⟨record', hhalt', -, hmux'⟩ := next_halted hhalt hmux call
      refine haltCoherent_of_some hhalt' ?_ hmux'
      cases call with
      | onEvent event =>
          rcases onEvent_cases life event with ⟨t, ht, heq⟩ | ⟨-, heq⟩
          · rw [next, heq]
            exact (step_halted_iff ht).mpr (.inl hstate)
          · rwa [next, heq]
      | heartbeat nowMs => exact hstate
      | engageKillSwitch origin nowMs =>
          obtain ⟨t, ht, heq⟩ := engage_again hhalt origin nowMs
          rw [next, heq]
          exact ht
      | clearHalt origin => exact hstate
      | completeHalt nowMs =>
          rw [next, completeHalt, hhalt]
          exact hstate
      | openStream id nowMs =>
          rcases openStream_cases life id nowMs with ⟨mux, hnone, -⟩ | ⟨e, heq⟩
          · rw [hhalt] at hnone
            cases hnone
          · rwa [next, heq]
      | closeStream id =>
          rcases closeStream_cases life id with ⟨mux, -, heq⟩ | heq <;> rwa [next, heq]
  | none =>
      have hnot : ¬ life.isHalted = true := by
        rw [isHalted, hhalt]
        exact Bool.false_ne_true
      have hstate : ¬ life.state.Halted := fun hs => hnot (h.1.mp hs)
      cases call with
      | onEvent event =>
          by_cases hkill : event = .killSwitchEngaged
          · -- the phase halts without a record
            subst hkill
            obtain ⟨t, ht, heq⟩ := onEvent_kill life
            refine ⟨fun hafter => ?_, fun hguard => absurd (hguard rfl) hnot⟩
            rw [next, heq] at hafter
            exact absurd (hafter.1.mp ht) hnot
          · refine ⟨fun _ hcall => absurd (Call.onEvent.inj hcall) hkill, fun _ => ?_⟩
            rcases onEvent_cases life event with ⟨t, ht, heq⟩ | ⟨-, heq⟩
            · rw [next, heq]
              refine haltCoherent_of_none hhalt fun hafter => ?_
              exact ((step_halted_iff ht).mp hafter).elim hstate hkill
            · rwa [next, heq]
      | heartbeat nowMs => exact ⟨nofun, fun _ => haltCoherent_of_none hhalt hstate⟩
      | engageKillSwitch origin nowMs =>
          obtain ⟨t, ht, heq⟩ := engage_first hhalt origin nowMs
          refine ⟨nofun, fun _ => ?_⟩
          rw [next, heq]
          exact haltCoherent_of_some rfl ht rfl
      | clearHalt origin => exact ⟨nofun, fun _ => h⟩
      | completeHalt nowMs =>
          refine ⟨nofun, fun _ => ?_⟩
          rwa [next, completeHalt, hhalt]
      | openStream id nowMs =>
          refine ⟨nofun, fun _ => ?_⟩
          rcases openStream_cases life id nowMs with ⟨mux, -, -, -, -, heq⟩ | ⟨e, heq⟩
          · rw [next, heq]
            exact haltCoherent_of_none hhalt hstate
          · rwa [next, heq]
      | closeStream id =>
          refine ⟨nofun, fun _ => ?_⟩
          rcases closeStream_cases life id with ⟨mux, -, heq⟩ | heq
          · rw [next, heq]
            exact haltCoherent_of_none hhalt hstate
          · rwa [next, heq]

/-- **When phase and record agree all along a run.** -/
theorem halt_coherent_iff (calls : List Call) :
    Runs.Throughout next HaltCoherent new calls ↔ Runs.Guarded next KillsByEngaging new calls :=
  Runs.guarded_iff (fun _ call h => next_coherent h call)
    (haltCoherent_of_none rfl (by decide)) calls

/-- A ready tunnel with a stream, whose state machine is told of the kill switch. -/
def bareKill : List Call :=
  [.onEvent .carriageConnected, .onEvent .helloSent, .onEvent .peerConfirmed,
    .onEvent .peerConfirmed, .heartbeat 0, .openStream 1 0, .onEvent .killSwitchEngaged]

/-- It is halting and not halted, live, and its stream is open. -/
theorem bareKill_incoherent :
    (bareKill.foldl next new).state = .halting ∧ (bareKill.foldl next new).isHalted = false
      ∧ (bareKill.foldl next new).isLive 0 = true ∧ (bareKill.foldl next new).mux.ids = {1}
      ∧ ¬ (bareKill.foldl next new).HaltCoherent := by
  refine ⟨by decide, by decide, by decide, by decide, fun h => ?_⟩
  exact absurd (h.1.mp (.inl (by decide))) (by decide)

end TunnelLifecycle

end GoatCoin.Tunnel
