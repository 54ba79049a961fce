/-
# `GoatCoin.Tunnel.State` — the phases of a tunnel, and its streams

`state.rs` and `mux.rs` of `goat-proxy-tunnel`.  The two know nothing of each other:

    step     seven phases by seven events, forty-nine answers, eighteen of them an edge
    Mux      the open stream ids; never 0, never twice, never more than eight

A session or a lifecycle holds one of each, and it is up to them to keep the two in step.
-/
import Mathlib.Data.Finset.Card
import GoatCoin.Core.Transport

namespace GoatCoin.Tunnel

/-- The kinds of frames. -/
inductive FrameKind where
  | streamOpen
  | streamData
  | streamEnd
  | control
  | meterTick
deriving DecidableEq

/-- Why a stream ends. -/
inductive CloseReason where
  | normal
  | killSwitch
  | policyRefusal
  | peerGone
deriving DecidableEq

/-- `TunnelError`, as far as the modelled paths refuse. -/
inductive TunnelError where
  | aead (e : TransportError)
  | unsupportedFrameVersion (expected got : UInt8)
  | unknownFrameKind (byte : UInt8)
  | malformedHeader
  | zeroStreamId (kind : FrameKind)
  | streamIdOnSessionFrame (kind : FrameKind)
  | lengthMismatch (declared : UInt32) (actual : Nat)
  | frameTooLarge (len max : Nat)
  | noPostQuantumKem
  | protocolVersionMismatch (expected got : UInt16)
  | handshakeSignatureInvalid
  | zeroConsentRecordHash
  | zeroPolicyTextHash
  | unknownAllowlistDigest
  | replayedHello
  | replayCacheFull (tracked : Nat)
  | kemFailure
  | signingFailure
  | carriageClosed (reason : CloseReason)
  | carriageNotOpen
  | carriageIo (detail : String)
  | illegalTransition (origin event : String)
  | duplicateStreamId (id : UInt32)
  | unknownStreamId (id : UInt32)
  | tooManyStreams (opened max : Nat)
  | haltNotClearableByShell
  | haltIsSticky
  | tunnelHalted
  | heartbeatStale
deriving DecidableEq

/-! ## Phases -/

/-- The states of a tunnel. -/
inductive TunnelState where
  | idle
  | carriageUp
  | helloSent
  | confirmSent
  | ready
  | halting
  | closed
deriving DecidableEq

/-- The events of a tunnel. -/
inductive TunnelEvent where
  | carriageConnected
  | helloSent
  | peerConfirmed
  | streamOpened
  | streamClosed
  | killSwitchEngaged
  | carriageLost
deriving DecidableEq

namespace TunnelState

def mayCarryStreamData : TunnelState → Bool
  | ready => true
  | _ => false

def name : TunnelState → String
  | idle => "Idle"
  | carriageUp => "CarriageUp"
  | helloSent => "HelloSent"
  | confirmSent => "ConfirmSent"
  | ready => "Ready"
  | halting => "Halting"
  | closed => "Closed"

end TunnelState

def TunnelEvent.name : TunnelEvent → String
  | carriageConnected => "CarriageConnected"
  | helloSent => "HelloSent"
  | peerConfirmed => "PeerConfirmed"
  | streamOpened => "StreamOpened"
  | streamClosed => "StreamClosed"
  | killSwitchEngaged => "KillSwitchEngaged"
  | carriageLost => "CarriageLost"

def illegal (state : TunnelState) (event : TunnelEvent) : TunnelError :=
  .illegalTransition state.name event.name

def step (state : TunnelState) (event : TunnelEvent) : Except TunnelError TunnelState :=
  match state with
  | .idle =>
      match event with
      | .carriageConnected => .ok .carriageUp
      | .killSwitchEngaged => .ok .halting
      | _ => .error (illegal state event)
  | .carriageUp =>
      match event with
      | .helloSent => .ok .helloSent
      | .killSwitchEngaged => .ok .halting
      | .carriageLost => .ok .idle
      | _ => .error (illegal state event)
  | .helloSent =>
      match event with
      | .peerConfirmed => .ok .confirmSent
      | .killSwitchEngaged => .ok .halting
      | .carriageLost => .ok .idle
      | _ => .error (illegal state event)
  | .confirmSent =>
      match event with
      -- the second confirm: both sides have now confirmed
      | .peerConfirmed => .ok .ready
      | .killSwitchEngaged => .ok .halting
      | .carriageLost => .ok .idle
      | _ => .error (illegal state event)
  | .ready =>
      match event with
      | .streamOpened => .ok .ready
      | .streamClosed => .ok .ready
      | .killSwitchEngaged => .ok .halting
      | .carriageLost => .ok .idle
      | _ => .error (illegal state event)
  | .halting =>
      match event with
      | .carriageLost => .ok .closed
      | .killSwitchEngaged => .ok .halting
      | _ => .error (illegal state event)
  | .closed =>
      match event with
      | .killSwitchEngaged => .ok .closed
      | _ => .error (illegal state event)

/-- The two phases that follow the kill switch. -/
def TunnelState.Halted (s : TunnelState) : Prop := s = .halting ∨ s = .closed

instance (s : TunnelState) : Decidable s.Halted := inferInstanceAs (Decidable (_ ∨ _))

theorem step_killSwitchEngaged (s : TunnelState) :
    ∃ t, step s .killSwitchEngaged = .ok t ∧ t.Halted := by
  cases s
  case closed => exact ⟨.closed, rfl, .inr rfl⟩
  all_goals exact ⟨.halting, rfl, .inl rfl⟩

/-- **A halt is entered by the kill switch, and is not left.** -/
theorem step_halted_iff {s t : TunnelState} {event : TunnelEvent} (h : step s event = .ok t) :
    t.Halted ↔ s.Halted ∨ event = .killSwitchEngaged := by
  revert h
  cases s <;> cases event <;> intro h <;> cases h <;> decide

theorem step_ready {t : TunnelState} {event : TunnelEvent} (h : step .ready event = .ok t) :
    t = .ready ∧ (event = .streamOpened ∨ event = .streamClosed)
      ∨ t ≠ .ready ∧ (event = .carriageLost ∨ event = .killSwitchEngaged) := by
  revert h
  cases event <;> intro h <;> cases h <;> decide

theorem mayCarryStreamData_iff {s : TunnelState} : s.mayCarryStreamData = true ↔ s = .ready := by
  cases s <;> decide

/-! ## Streams -/

/-- `MAX_CONCURRENT_STREAMS`. -/
def maxConcurrentStreams : Nat := 8

/-- The open stream ids of one session. -/
structure Mux where
  ids : Finset UInt32
  nonzero : 0 ∉ ids
  bounded : ids.card ≤ maxConcurrentStreams

namespace Mux

theorem ext {m n : Mux} (h : m.ids = n.ids) : m = n := by
  cases m
  cases n
  cases h
  rfl

instance : DecidableEq Mux := fun m n =>
  decidable_of_iff (m.ids = n.ids) ⟨ext, fun h => h ▸ rfl⟩

def new : Mux := ⟨∅, Finset.notMem_empty 0, Nat.zero_le _⟩

/-- `Mux::open`. -/
def openId (m : Mux) (id : UInt32) : Except TunnelError Mux :=
  if hzero : id = 0 then .error (.zeroStreamId .streamOpen)
  else if id ∈ m.ids then .error (.duplicateStreamId id)
  else if hroom : maxConcurrentStreams ≤ m.ids.card then
    .error (.tooManyStreams m.ids.card maxConcurrentStreams)
  else .ok ⟨insert id m.ids,
    fun hmem => (Finset.mem_insert.mp hmem).elim (fun h => hzero h.symm) m.nonzero,
    (Finset.card_insert_le id m.ids).trans (Nat.lt_of_not_le hroom)⟩

/-- `Mux::close`. -/
def closeId (m : Mux) (id : UInt32) : Except TunnelError Mux :=
  if id ∈ m.ids then
    .ok ⟨m.ids.erase id, fun hmem => m.nonzero (Finset.mem_of_mem_erase hmem),
      Finset.card_erase_le.trans m.bounded⟩
  else .error (.unknownStreamId id)

def isOpen (m : Mux) (id : UInt32) : Bool := decide (id ∈ m.ids)

def streamsFree (m : Mux) : Nat := maxConcurrentStreams - m.ids.card

/-- `drop_all`: what is left, and how many were dropped. -/
def dropAll (m : Mux) : Nat × Mux := (m.ids.card, new)

@[simp] theorem ids_new : new.ids = ∅ := rfl

theorem openId_ok {m m' : Mux} {id : UInt32} :
    m.openId id = .ok m' ↔
      id ≠ 0 ∧ id ∉ m.ids ∧ m.ids.card < maxConcurrentStreams ∧ m'.ids = insert id m.ids := by
  unfold openId
  split_ifs with hzero hopen hroom
  · exact ⟨fun h => (by cases h), fun h => absurd hzero h.1⟩
  · exact ⟨fun h => (by cases h), fun h => absurd hopen h.2.1⟩
  · exact ⟨fun h => (by cases h), fun h => absurd hroom (Nat.not_le.mpr h.2.2.1)⟩
  · constructor
    · intro h
      cases h
      exact ⟨hzero, hopen, Nat.lt_of_not_le hroom, rfl⟩
    · exact fun h => congrArg Except.ok (ext h.2.2.2.symm)

theorem closeId_ok {m m' : Mux} {id : UInt32} :
    m.closeId id = .ok m' ↔ id ∈ m.ids ∧ m'.ids = m.ids.erase id := by
  unfold closeId
  split_ifs with hopen
  · constructor
    · intro h
      cases h
      exact ⟨hopen, rfl⟩
    · exact fun h => congrArg Except.ok (ext h.2.symm)
  · exact ⟨fun h => (by cases h), fun h => absurd h.1 hopen⟩

end Mux

end GoatCoin.Tunnel
