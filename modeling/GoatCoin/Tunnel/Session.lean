/-
# `GoatCoin.Tunnel.Session` — one carriage, one channel, one mux, one state machine

`session.rs`.  The session holds the four side by side, and the way of a frame leads through two of
them:

    send_frame    bounds, header, channel, carriage
    recv_frame    carriage, bound, channel, header

It reads neither the phase nor the mux.  So stream frames cross only in `ready`, and only on open
streams, exactly along the runs whose callers see to it (`stream_frames_iff`).

The channel is any `SecureChannel`, as what it writes to a buffer of a given length.  What the
carriage answers is part of each call.
-/
import GoatCoin.Lib.Runs
import GoatCoin.Tunnel.Frame

namespace GoatCoin.Tunnel

/-- `trait SecureChannel`. -/
class SecureChannel (σ : Type) where
  encryptFrame (plaintext : List UInt8) (outLen : Nat) : EStateM TransportError σ (List UInt8)
  decryptFrame (frame : List UInt8) (outLen : Nat) : EStateM TransportError σ (List UInt8)

structure TunnelSession (σ : Type) where
  channel : σ
  state : TunnelState
  mux : Mux

namespace TunnelSession
variable {σ : Type}

def new (channel : σ) (state : TunnelState) : TunnelSession σ := ⟨channel, state, .new⟩

/-- `apply`: a refused transition leaves the session as it was. -/
def apply (s : TunnelSession σ) (event : TunnelEvent) : Except TunnelError Unit × TunnelSession σ :=
  match step s.state event with
  | .ok next => (.ok (), { s with state := next })
  | .error e => (.error e, s)

variable [SecureChannel σ]

/-- `send_frame` up to the carriage: the datagram it is handed. -/
def sealFrame (s : TunnelSession σ) (header : FrameHeader) (payload : List UInt8) :
    Except TunnelError (List UInt8) × TunnelSession σ :=
  if maxFramePayload < payload.length then
    (.error (.frameTooLarge payload.length maxFramePayload), s)
  else if header.length.toNat ≠ payload.length then
    (.error (.lengthMismatch header.length payload.length), s)
  else
    match header.encode with
    | .error e => (.error e, s)
    | .ok encoded =>
        match SecureChannel.encryptFrame (encoded ++ payload) maxFrameWire s.channel with
        | .error e channel => (.error (.aead e), { s with channel })
        | .ok wire channel => (.ok wire, { s with channel })

/-- With what the carriage says to the datagram. -/
def sendFrame (s : TunnelSession σ) (header : FrameHeader) (payload : List UInt8)
    (carriage : List UInt8 → Except TunnelError Unit) : Except TunnelError Unit × TunnelSession σ :=
  match s.sealFrame header payload with
  | (.error e, s') => (.error e, s')
  | (.ok wire, s') => (carriage wire, s')

/-- With what the carriage has. -/
def recvFrame (s : TunnelSession σ) (arrived : Except TunnelError (List UInt8)) :
    Except TunnelError (FrameHeader × List UInt8) × TunnelSession σ :=
  match arrived with
  | .error e => (.error e, s)
  | .ok wire =>
      if maxFrameWire < wire.length then (.error (.frameTooLarge wire.length maxFrameWire), s)
      else
        match SecureChannel.decryptFrame wire maxFramePlaintext s.channel with
        | .error e channel => (.error (.aead e), { s with channel })
        | .ok plain channel => (readFrame plain, { s with channel })

/-! ## Runs -/

/-- What may be done with a session; its mux is public. -/
inductive Call where
  | apply (event : TunnelEvent)
  | muxOpen (id : UInt32)
  | muxClose (id : UInt32)
  | muxDropAll
  | sendFrame (header : FrameHeader) (payload : List UInt8)
      (carriage : List UInt8 → Except TunnelError Unit)
  | recvFrame (arrived : Except TunnelError (List UInt8))

def next (s : TunnelSession σ) : Call → TunnelSession σ
  | .apply event => (s.apply event).2
  | .muxOpen id => { s with mux := (s.mux.openId id).toOption.getD s.mux }
  | .muxClose id => { s with mux := (s.mux.closeId id).toOption.getD s.mux }
  | .muxDropAll => { s with mux := s.mux.dropAll.2 }
  | .sendFrame header payload carriage => (s.sendFrame header payload carriage).2
  | .recvFrame arrived => (s.recvFrame arrived).2

/-- The header of the frame that a call hands to the carriage or returns to the caller. -/
def crossing (s : TunnelSession σ) : Call → Option FrameHeader
  | .sendFrame header payload _ => (s.sealFrame header payload).1.toOption.map fun _ => header
  | .recvFrame arrived => (s.recvFrame arrived).1.toOption.map Prod.fst
  | _ => none

/-- A stream frame crosses a ready tunnel, on a stream that is open or is being opened. -/
def InReady (s : TunnelSession σ) (header : FrameHeader) : Prop :=
  s.state = .ready ∧ (header.kind ≠ .streamOpen → header.streamId ∈ s.mux.ids)

/-- **Stream data crosses only in `ready`**, and so never after the kill switch. -/
def StreamsInReady (s : TunnelSession σ) (calls : List Call) : Prop :=
  ∀ before call, before ++ [call] <+: calls → ∀ header,
    (before.foldl next s).crossing call = some header → header.kind.isPerStream = true →
    (before.foldl next s).InReady header ∧ Call.apply .killSwitchEngaged ∉ before

/-! ## The way of a frame -/

omit [SecureChannel σ] in
theorem apply_state (s : TunnelSession σ) (event : TunnelEvent) :
    (∃ t, step s.state event = .ok t ∧ (s.apply event).2.state = t)
    ∨ (s.apply event).2.state = s.state := by
  unfold apply
  cases hstep : step s.state event with
  | ok t => exact .inl ⟨t, rfl, rfl⟩
  | error e => exact .inr rfl

theorem sealFrame_state (s : TunnelSession σ) (header : FrameHeader) (payload : List UInt8) :
    (s.sealFrame header payload).2.state = s.state
    ∧ (s.sealFrame header payload).2.mux = s.mux := by
  unfold sealFrame
  split_ifs
  · exact ⟨rfl, rfl⟩
  · exact ⟨rfl, rfl⟩
  · split
    · exact ⟨rfl, rfl⟩
    · split <;> exact ⟨rfl, rfl⟩

theorem sendFrame_session (s : TunnelSession σ) (header : FrameHeader) (payload : List UInt8)
    (carriage : List UInt8 → Except TunnelError Unit) :
    (s.sendFrame header payload carriage).2 = (s.sealFrame header payload).2 := by
  unfold sendFrame
  split
  · rename_i heq
    rw [heq]
  · rename_i heq
    rw [heq]

theorem recvFrame_state (s : TunnelSession σ) (arrived : Except TunnelError (List UInt8)) :
    (s.recvFrame arrived).2.state = s.state ∧ (s.recvFrame arrived).2.mux = s.mux := by
  unfold recvFrame
  split
  · exact ⟨rfl, rfl⟩
  · split_ifs
    · exact ⟨rfl, rfl⟩
    · split <;> exact ⟨rfl, rfl⟩

theorem sealFrame_ok {s : TunnelSession σ} {header : FrameHeader} {payload wire : List UInt8} :
    (s.sealFrame header payload).1 = .ok wire ↔
      payload.length ≤ maxFramePayload ∧ header.length.toNat = payload.length
      ∧ header.validate = .ok ()
        ∧ ∃ channel, SecureChannel.encryptFrame (header.bytes ++ payload) maxFrameWire s.channel
          = .ok wire channel := by
  unfold sealFrame
  split_ifs with hlarge hlength
  · exact ⟨fun h => (by cases h), fun h => absurd h.1 (Nat.not_le.mpr hlarge)⟩
  · exact ⟨fun h => (by cases h), fun h => absurd h.2.1 hlength⟩
  · have hle := Nat.not_lt.mp hlarge
    have heq := not_not.mp hlength
    cases hencode : header.encode with
    | error e =>
        refine ⟨fun h => (by cases h), fun h => ?_⟩
        rw [FrameHeader.encode_ok.mpr ⟨h.2.2.1, rfl⟩] at hencode
        cases hencode
    | ok encoded =>
        obtain ⟨hvalid, rfl⟩ := FrameHeader.encode_ok.mp hencode
        dsimp only
        cases hseal :
          SecureChannel.encryptFrame (header.bytes ++ payload) maxFrameWire s.channel with
        | error e channel =>
            refine ⟨fun h => (by cases h), fun ⟨_, _, _, channel', h⟩ => ?_⟩
            cases h
        | ok wire' channel =>
            constructor
            · intro h
              cases h
              exact ⟨hle, heq, hvalid, channel, rfl⟩
            · rintro ⟨-, -, -, channel', h⟩
              cases h
              rfl

theorem recvFrame_ok {s : TunnelSession σ} {arrived : Except TunnelError (List UInt8)}
    {frame : FrameHeader × List UInt8} :
    (s.recvFrame arrived).1 = .ok frame ↔ ∃ wire plain channel, arrived = .ok wire
      ∧ wire.length ≤ maxFrameWire
      ∧ SecureChannel.decryptFrame wire maxFramePlaintext s.channel = .ok plain channel
      ∧ readFrame plain = .ok frame := by
  cases arrived with
  | error e => exact ⟨fun h => (by cases h), fun ⟨_, _, _, h, _⟩ => (by cases h)⟩
  | ok wire =>
      rw [recvFrame]
      split_ifs with hlarge
      · refine ⟨fun h => (by cases h), fun ⟨wire', _, _, h, hle, _⟩ => ?_⟩
        cases h
        exact absurd hle (Nat.not_le.mpr hlarge)
      · cases hopen : SecureChannel.decryptFrame wire maxFramePlaintext s.channel with
        | error e channel =>
            refine ⟨fun h => (by cases h), fun ⟨wire', plain, channel', h, _, hopen', _⟩ => ?_⟩
            cases h
            rw [hopen] at hopen'
            cases hopen'
        | ok plain channel =>
            constructor
            · exact fun h => ⟨wire, plain, channel, rfl, Nat.not_lt.mp hlarge, hopen, h⟩
            · rintro ⟨wire', plain', channel', hwire, -, hopen', hread⟩
              cases hwire
              rw [hopen] at hopen'
              cases hopen'
              exact hread

/-! ## What the callers have to see to -/

/-- A well-formed stream frame that the channel seals is handed over in `ready` and on its stream; a
datagram that is opened to one is taken there. -/
def CallerChecks (s : TunnelSession σ) : Call → Prop
  | .sendFrame header payload _ =>
      header.kind.isPerStream = true → header.validate = .ok () →
        header.length.toNat = payload.length →
      payload.length ≤ maxFramePayload →
      (∃ wire channel, SecureChannel.encryptFrame (header.bytes ++ payload) maxFrameWire s.channel
        = .ok wire channel) → s.InReady header
  | .recvFrame (.ok wire) =>
      wire.length ≤ maxFrameWire → ∀ plain channel,
      SecureChannel.decryptFrame wire maxFramePlaintext s.channel = .ok plain channel →
      ∀ header payload, readFrame plain = .ok (header, payload) → header.kind.isPerStream = true →
      s.InReady header
  | _ => True

theorem crossing_inReady_iff (s : TunnelSession σ) (call : Call) :
    (∀ header, s.crossing call = some header → header.kind.isPerStream = true → s.InReady header)
      ↔ s.CallerChecks call := by
  cases call with
  | sendFrame header payload carriage =>
      constructor
      · rintro h hkind hvalid hlength hle ⟨wire, channel, hseal⟩
        have hok := sealFrame_ok.mpr ⟨hle, hlength, hvalid, channel, hseal⟩
        refine h header ?_ hkind
        rw [crossing, hok]
        rfl
      · intro h header' hcrossing hkind
        rw [crossing, Option.map_eq_some_iff] at hcrossing
        obtain ⟨wire, hwire, rfl⟩ := hcrossing
        cases hseal : (s.sealFrame header payload).1 with
        | error e =>
            rw [hseal] at hwire
            cases hwire
        | ok wire' =>
            obtain ⟨hle, hlength, hvalid, channel, henc⟩ := sealFrame_ok.mp hseal
            exact h hkind hvalid hlength hle ⟨wire', channel, henc⟩
  | recvFrame arrived =>
      cases arrived with
      | error e => exact ⟨fun _ => trivial, fun _ header hcrossing => by cases hcrossing⟩
      | ok wire =>
          constructor
          · intro h hle plain channel hopen header payload hread hkind
            have hok := recvFrame_ok.mpr ⟨wire, plain, channel, rfl, hle, hopen, hread⟩
            refine h header ?_ hkind
            rw [crossing, hok]
            rfl
          · intro h header hcrossing hkind
            rw [crossing, Option.map_eq_some_iff] at hcrossing
            obtain ⟨frame, hframe, rfl⟩ := hcrossing
            cases hrecv : (s.recvFrame (.ok wire)).1 with
            | error e =>
                rw [hrecv] at hframe
                cases hframe
            | ok frame' =>
                rw [hrecv] at hframe
                cases hframe
                obtain ⟨wire', plain, channel, hwire, hle, hopen, hread⟩ := recvFrame_ok.mp hrecv
                cases hwire
                exact h hle plain channel hopen _ _ hread hkind
  | apply event => exact ⟨fun _ => trivial, fun _ header hcrossing => by cases hcrossing⟩
  | muxOpen id => exact ⟨fun _ => trivial, fun _ header hcrossing => by cases hcrossing⟩
  | muxClose id => exact ⟨fun _ => trivial, fun _ header hcrossing => by cases hcrossing⟩
  | muxDropAll => exact ⟨fun _ => trivial, fun _ header hcrossing => by cases hcrossing⟩

/-! ## After the kill switch -/

theorem next_halted {s : TunnelSession σ} (h : s.state.Halted) (call : Call) :
    (s.next call).state.Halted := by
  cases call with
  | apply event =>
      rcases apply_state s event with ⟨t, ht, heq⟩ | heq
      · rw [next, heq]
        exact (step_halted_iff ht).mpr (.inl h)
      · rwa [next, heq]
  | muxOpen id => exact h
  | muxClose id => exact h
  | muxDropAll => exact h
  | sendFrame header payload carriage =>
      rwa [next, sendFrame_session, (sealFrame_state s header payload).1]
  | recvFrame arrived => rwa [next, (recvFrame_state s arrived).1]

theorem halted_of_kill {calls : List Call} (h : Call.apply .killSwitchEngaged ∈ calls)
    (s : TunnelSession σ) : (calls.foldl next s).state.Halted := by
  obtain ⟨before, after, rfl⟩ := List.append_of_mem h
  rw [List.foldl_append, List.foldl_cons]
  refine Runs.invariant (I := fun s : TunnelSession σ => s.state.Halted)
    (fun s call hs => next_halted hs call) after _ ?_
  obtain ⟨t, ht, hhalted⟩ := step_killSwitchEngaged (before.foldl next s).state
  rw [next, apply, ht]
  exact hhalted

/-- **When stream data crosses only in `ready`.** -/
theorem stream_frames_iff (channel : σ) (state : TunnelState) (calls : List Call) :
    StreamsInReady (new channel state) calls
    ↔ Runs.Guarded next CallerChecks (new channel state) calls := by
  constructor
  · intro h before call hcall
    exact (crossing_inReady_iff _ call).mp fun header hcrossing hkind =>
      (h before call hcall header hcrossing hkind).1
  · intro h before call hcall header hcrossing hkind
    have hready := (crossing_inReady_iff _ call).mpr (h before call hcall) header hcrossing hkind
    refine ⟨hready, fun hkill => ?_⟩
    rcases halted_of_kill hkill (new channel state) with hstate | hstate <;>
      (rw [hready.1] at hstate; cases hstate)

end TunnelSession

/-! A channel that appends sixteen bytes. -/

structure PlainChannel
deriving DecidableEq

instance : SecureChannel PlainChannel where
  encryptFrame plaintext outLen := fun ch =>
    if outLen < plaintext.length + 16 then .error .bufferTooSmall ch
    else .ok (plaintext ++ List.replicate 16 0) ch
  decryptFrame frame outLen := fun ch =>
    if frame.length < 16 then .error .decryptionFailed ch
    else if outLen < frame.length - 16 then .error .bufferTooSmall ch
    else .ok (frame.take (frame.length - 16)) ch

/-- Two bytes for stream 1, which was never opened, on a session that the kill switch has halted. -/
def deadSend : List TunnelSession.Call :=
  [.apply .killSwitchEngaged, .sendFrame (.data 1 2) [65, 66] fun _ => .ok ()]

theorem deadSend_crosses :
    (TunnelSession.next (.new PlainChannel.mk .ready) (.apply .killSwitchEngaged)).state = .halting
      ∧ ((TunnelSession.next (.new PlainChannel.mk .ready) (.apply .killSwitchEngaged)).sendFrame
          (.data 1 2) [65, 66] fun _ => .ok ()).1 = .ok ()
      ∧ ¬ TunnelSession.StreamsInReady (.new PlainChannel.mk .ready) deadSend := by
  refine ⟨rfl, rfl, fun h => ?_⟩
  have hcross := h [.apply .killSwitchEngaged] _ (List.prefix_refl _) (.data 1 2) rfl rfl
  exact hcross.2 List.mem_cons_self

end GoatCoin.Tunnel
