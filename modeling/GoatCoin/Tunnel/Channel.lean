/-
# `GoatCoin.Tunnel.Channel` — two sessions over a carriage that does as it likes

`channel.rs`: AES-256-GCM with nonces that are not sent,

    role ‖ 0 0 0 ‖ counter      a direction for each role, a counter for each direction

Both ends count in step.  A datagram that is dropped, moved, doubled, altered, sent back or made up
fails its tag, and nothing is counted; so what one end returns is, in order, the beginning of what
the other end has sealed (`ordered_delivery`).

Beside each end stand the frames it has sealed, the frames it has returned, and every pair of a
nonce and a plaintext that its cipher was given.  That the cipher is ideal enters as a condition on
a run: what opens was sealed, under the nonce it is opened with.
-/
import GoatCoin.Goatd.HostCrypto
import GoatCoin.Tunnel.Session

namespace GoatCoin.Tunnel

open Function (update update_self update_of_ne)
open Wire

structure Aes256GcmTunnelChannel (α : Type) where
  cipher : α
  outRole : ChannelRole
  inRole : ChannelRole
  outCtr : UInt64
  inCtr : UInt64

namespace Aes256GcmTunnelChannel
variable {α : Type} [AesGcm α]

def new (key : Bytes 32) (role : ChannelRole) : Aes256GcmTunnelChannel α :=
  ⟨AesGcm.new key, role, role.peer, 0, 0⟩

/-- `[ role ‖ 0x00 0x00 0x00 ‖ counter_be_u64 ]`. -/
def nonceBytes (role : ChannelRole) (ctr : UInt64) : Bytes 12 :=
  ⟨role.byte :: 0 :: 0 :: 0 :: toBE 8 ctr.toNat, by
    rw [List.length_cons, List.length_cons, List.length_cons, List.length_cons, length_toBE]⟩

instance : SecureChannel (Aes256GcmTunnelChannel α) where
  encryptFrame plaintext outLen := fun ch =>
    let n := plaintext.length + aes256GcmTagLen
    if outLen < n then .error .bufferTooSmall ch
    else
      match AesGcm.encrypt ch.cipher (nonceBytes ch.outRole ch.outCtr) plaintext with
      | none => .error .decryptionFailed ch
      | some ct =>
          if ct.length ≠ n then .error .decryptionFailed ch
          else if ch.outCtr.toNat + 1 < 2 ^ 64 then .ok ct { ch with outCtr := ch.outCtr + 1 }
          else .error .nonceExhausted ch
  decryptFrame frame outLen := fun ch =>
    if frame.length < aes256GcmTagLen then .error .decryptionFailed ch
    else if outLen < frame.length - aes256GcmTagLen then .error .bufferTooSmall ch
    else
      match AesGcm.decrypt ch.cipher (nonceBytes ch.inRole ch.inCtr) frame with
      | none => .error .decryptionFailed ch
      | some pt =>
          if ch.inCtr.toNat + 1 < 2 ^ 64 then .ok pt.toList { ch with inCtr := ch.inCtr + 1 }
          else .error .nonceExhausted ch

/-- What the cipher is given by `encrypt_frame`, where it answers. -/
def sealing (ch : Aes256GcmTunnelChannel α) (plaintext : List UInt8) (outLen : Nat) :
    Option (Bytes 12 × List UInt8) :=
  if outLen < plaintext.length + aes256GcmTagLen then none
  else
    (AesGcm.encrypt ch.cipher (nonceBytes ch.outRole ch.outCtr) plaintext).map fun _ =>
      (nonceBytes ch.outRole ch.outCtr, plaintext)

omit [AesGcm α] in
/-- **Roles and counters are kept apart.** -/
theorem nonceBytes_inj {role role' : ChannelRole} {ctr ctr' : UInt64}
    (h : nonceBytes role ctr = nonceBytes role' ctr') : role = role' ∧ ctr = ctr' := by
  have hlist := congrArg List.Vector.toList h
  change role.byte :: 0 :: 0 :: 0 :: toBE 8 ctr.toNat = role'.byte :: 0 :: 0 :: 0
    :: toBE 8 ctr'.toNat at hlist
  obtain ⟨hrole, hrest⟩ := List.cons.inj hlist
  refine ⟨?_, ?_⟩
  · cases role <;> cases role' <;> first | rfl | cases hrole
  · have hctr : toBE 8 ctr.toNat = toBE 8 ctr'.toNat := by simpa using hrest
    have hle := List.reverse_injective hctr
    exact UInt64.toNat_inj.mp (toLE_inj ctr.toNat_lt ctr'.toNat_lt hle)

/-- A plaintext that fits: not sealed, sealed and counted, or sealed at the last counter. -/
theorem encryptFrame_cases {ch : Aes256GcmTunnelChannel α} {plaintext : List UInt8} {outLen : Nat}
    (hlen : ∀ nonce pt ct, AesGcm.encrypt ch.cipher nonce pt = some ct →
      ct.length = pt.length + aes256GcmTagLen) :
    (∃ e, SecureChannel.encryptFrame plaintext outLen ch = .error e ch)
        ∧ (ch.sealing plaintext outLen = none
          ∨ ch.sealing plaintext outLen = some (nonceBytes ch.outRole ch.outCtr, plaintext)
            ∧ ch.outCtr.toNat = 2 ^ 64 - 1)
      ∨ ∃ ct, SecureChannel.encryptFrame plaintext outLen ch
        = .ok ct { ch with outCtr := ch.outCtr + 1 }
        ∧ ch.sealing plaintext outLen = some (nonceBytes ch.outRole ch.outCtr, plaintext)
        ∧ ch.outCtr.toNat + 1 < 2 ^ 64 := by
  dsimp only [SecureChannel.encryptFrame]
  rw [sealing]
  by_cases hfit : outLen < plaintext.length + aes256GcmTagLen
  · rw [if_pos hfit, if_pos hfit]
    exact .inl ⟨⟨_, rfl⟩, .inl rfl⟩
  · rw [if_neg hfit, if_neg hfit]
    cases hseal : AesGcm.encrypt ch.cipher (nonceBytes ch.outRole ch.outCtr) plaintext with
    | none => exact .inl ⟨⟨_, rfl⟩, .inl rfl⟩
    | some ct =>
        dsimp only
        rw [if_neg (not_not.mpr (hlen _ _ _ hseal))]
        by_cases hroom : ch.outCtr.toNat + 1 < 2 ^ 64
        · rw [if_pos hroom]
          exact .inr ⟨ct, rfl, rfl, hroom⟩
        · have hlt := ch.outCtr.toNat_lt
          rw [if_neg hroom]
          exact .inl ⟨⟨_, rfl⟩, .inr ⟨rfl, by omega⟩⟩

theorem decryptFrame_cases (ch : Aes256GcmTunnelChannel α) (frame : List UInt8) (outLen : Nat) :
    (∃ e, SecureChannel.decryptFrame frame outLen ch = .error e ch)
      ∨ ∃ pt, AesGcm.decrypt ch.cipher (nonceBytes ch.inRole ch.inCtr) frame = some pt
        ∧ SecureChannel.decryptFrame frame outLen ch
          = .ok pt.toList { ch with inCtr := ch.inCtr + 1 }
        ∧ ch.inCtr.toNat + 1 < 2 ^ 64 := by
  dsimp only [SecureChannel.decryptFrame]
  by_cases hshort : frame.length < aes256GcmTagLen
  · rw [if_pos hshort]
    exact .inl ⟨_, rfl⟩
  · rw [if_neg hshort]
    by_cases hfit : outLen < frame.length - aes256GcmTagLen
    · rw [if_pos hfit]
      exact .inl ⟨_, rfl⟩
    · rw [if_neg hfit]
      cases hopen : AesGcm.decrypt ch.cipher (nonceBytes ch.inRole ch.inCtr) frame with
      | none => exact .inl ⟨_, rfl⟩
      | some pt =>
          dsimp only
          by_cases hroom : ch.inCtr.toNat + 1 < 2 ^ 64
          · rw [if_pos hroom]
            exact .inr ⟨pt, rfl, rfl, hroom⟩
          · rw [if_neg hroom]
            exact .inl ⟨_, rfl⟩

end Aes256GcmTunnelChannel

/-! ## Two ends -/

/-- A session, and what it has done. -/
structure Endpoint (α : Type) where
  session : TunnelSession (Aes256GcmTunnelChannel α)
  /-- The frames that `send_frame` has sealed. -/
  sealedFrames : List (FrameHeader × List UInt8)
  /-- The frames that `recv_frame` has returned. -/
  received : List (FrameHeader × List UInt8)
  /-- What the cipher has sealed, under which nonce. -/
  seals : List (Bytes 12 × List UInt8)

namespace Endpoint
variable {α : Type} [AesGcm α]

def new (key : Bytes 32) (role : ChannelRole) (state : TunnelState) : Endpoint α :=
  ⟨.new (.new key role) state, [], [], []⟩

/-- What the cipher is given by `send_frame`. -/
def sealing (e : Endpoint α) (header : FrameHeader) (payload : List UInt8) :
    Option (Bytes 12 × List UInt8) :=
  if maxFramePayload < payload.length ∨ header.length.toNat ≠ payload.length then none
  else header.encode.toOption.bind fun encoded =>
    e.session.channel.sealing (encoded ++ payload) maxFrameWire

def next (e : Endpoint α) (call : TunnelSession.Call) : Endpoint α :=
  let session := e.session.next call
  match call with
  | .sendFrame header payload _ =>
      { e with
        session
        sealedFrames := e.sealedFrames
          ++ ((e.session.sealFrame header payload).1.toOption.map fun _ => (header, payload)).toList
        seals := e.seals ++ (e.sealing header payload).toList }
  | .recvFrame arrived =>
      { e with session, received := e.received ++ (e.session.recvFrame arrived).1.toOption.toList }
  | _ => { e with session }

/-- The plaintext of a frame, under the nonce of its place. -/
def nonced (role : ChannelRole) (i : Nat)
    (frame : FrameHeader × List UInt8) : Bytes 12 × List UInt8 :=
  (Aes256GcmTunnelChannel.nonceBytes role (.ofNat i), frame.1.bytes ++ frame.2)

/-- An end and its counters. -/
structure Counts (key : Bytes 32) (role : ChannelRole) (e : Endpoint α) : Prop where
  cipher : e.session.channel.cipher = AesGcm.new key
  outRole : e.session.channel.outRole = role
  inRole : e.session.channel.inRole = role.peer
  outCtr : e.sealedFrames.length = e.session.channel.outCtr.toNat
  inCtr : e.received.length = e.session.channel.inCtr.toNat
  wellFormed : ∀ frame ∈ e.sealedFrames,
    frame.1.validate = .ok () ∧ frame.1.length.toNat = frame.2.length
  /-- The cipher has sealed the frames in order, and after them only at the last counter. -/
  inOrder : ∃ spent, e.seals = e.sealedFrames.mapIdx (nonced role) ++ spent
    ∧ (∀ s ∈ spent, s.1 = Aes256GcmTunnelChannel.nonceBytes role e.session.channel.outCtr)
    ∧ (spent ≠ [] → e.session.channel.outCtr.toNat = 2 ^ 64 - 1)

/-- The cipher behaves as AES-256-GCM in the length of what it returns. -/
def Lengthens (cipher : α) : Prop :=
  ∀ nonce pt ct, AesGcm.encrypt cipher nonce pt = some ct → ct.length = pt.length + aes256GcmTagLen

section
variable {e : Endpoint α}

/-- `send_frame`: nothing, a frame that is sealed and counted, or a plaintext at the last
counter. -/
theorem send_effect (hlen : Lengthens e.session.channel.cipher) (header : FrameHeader)
    (payload : List UInt8) (carriage : List UInt8 → Except TunnelError Unit) :
    (e.next (.sendFrame header payload carriage)).received = e.received
      ∧ ((e.next (.sendFrame header payload carriage)).session.channel = e.session.channel
          ∧ (e.next (.sendFrame header payload carriage)).sealedFrames = e.sealedFrames
          ∧ ((e.next (.sendFrame header payload carriage)).seals = e.seals
            ∨ (∃ pt, (e.next (.sendFrame header payload carriage)).seals = e.seals
                ++ [(Aes256GcmTunnelChannel.nonceBytes e.session.channel.outRole
                  e.session.channel.outCtr, pt)])
              ∧ e.session.channel.outCtr.toNat = 2 ^ 64 - 1)
        ∨ header.validate = .ok () ∧ header.length.toNat = payload.length
          ∧ e.session.channel.outCtr.toNat + 1 < 2 ^ 64
          ∧ (e.next (.sendFrame header payload carriage)).session.channel
            = { e.session.channel with outCtr := e.session.channel.outCtr + 1 }
          ∧ (e.next (.sendFrame header payload carriage)).sealedFrames
            = e.sealedFrames ++ [(header, payload)]
          ∧ (e.next (.sendFrame header payload carriage)).seals = e.seals
            ++ [(Aes256GcmTunnelChannel.nonceBytes e.session.channel.outRole
              e.session.channel.outCtr, header.bytes ++ payload)]) := by
  refine ⟨rfl, ?_⟩
  dsimp only [next, TunnelSession.next]
  rw [TunnelSession.sendFrame_session, TunnelSession.sealFrame, sealing]
  by_cases hlarge : maxFramePayload < payload.length
  · rw [if_pos hlarge, if_pos (.inl hlarge)]
    exact .inl ⟨rfl, List.append_nil _, .inl (List.append_nil _)⟩
  · rw [if_neg hlarge]
    by_cases hlength : header.length.toNat ≠ payload.length
    · rw [if_pos hlength, if_pos (.inr hlength)]
      exact .inl ⟨rfl, List.append_nil _, .inl (List.append_nil _)⟩
    · rw [if_neg hlength, if_neg (not_or.mpr ⟨hlarge, hlength⟩)]
      cases hencode : header.encode with
      | error err => exact .inl ⟨rfl, List.append_nil _, .inl (List.append_nil _)⟩
      | ok encoded =>
          obtain ⟨hvalid, rfl⟩ := FrameHeader.encode_ok.mp hencode
          dsimp only [Except.toOption, Option.bind_some]
          rcases @Aes256GcmTunnelChannel.encryptFrame_cases α _ e.session.channel
            (header.bytes ++ payload)
            maxFrameWire hlen with ⟨⟨err, henc⟩, hseal⟩ | ⟨ct, henc, hseal, hroom⟩
          · rw [henc]
            rcases hseal with hseal | ⟨hseal, hlast⟩
            · rw [hseal]
              exact .inl ⟨rfl, List.append_nil _, .inl (List.append_nil _)⟩
            · rw [hseal]
              exact .inl ⟨rfl, List.append_nil _, .inr ⟨⟨_, rfl⟩, hlast⟩⟩
          · rw [henc, hseal]
            exact .inr ⟨hvalid, not_not.mp hlength, hroom, rfl, rfl, rfl⟩

theorem recv_effect (e : Endpoint α) (arrived : Except TunnelError (List UInt8)) :
    (e.next (.recvFrame arrived)).sealedFrames = e.sealedFrames
      ∧ (e.next (.recvFrame arrived)).seals = e.seals
      ∧ ((∃ err, (e.session.recvFrame arrived).1 = .error err)
          ∧ (e.next (.recvFrame arrived)).session.channel = e.session.channel
          ∧ (e.next (.recvFrame arrived)).received = e.received
        ∨ ∃ wire pt, arrived = .ok wire
          ∧ AesGcm.decrypt e.session.channel.cipher
            (Aes256GcmTunnelChannel.nonceBytes e.session.channel.inRole e.session.channel.inCtr)
              wire = some pt
          ∧ e.session.channel.inCtr.toNat + 1 < 2 ^ 64
          ∧ (e.next (.recvFrame arrived)).session.channel
            = { e.session.channel with inCtr := e.session.channel.inCtr + 1 }
          ∧ (e.session.recvFrame arrived).1 = readFrame pt.toList
          ∧ (e.next (.recvFrame arrived)).received
            = e.received ++ (readFrame pt.toList).toOption.toList) := by
  refine ⟨rfl, rfl, ?_⟩
  dsimp only [next, TunnelSession.next]
  cases arrived with
  | error err => exact .inl ⟨⟨err, rfl⟩, rfl, List.append_nil _⟩
  | ok wire =>
      rw [TunnelSession.recvFrame]
      by_cases hlarge : maxFrameWire < wire.length
      · rw [if_pos hlarge]
        exact .inl ⟨⟨_, rfl⟩, rfl, List.append_nil _⟩
      · rw [if_neg hlarge]
        rcases e.session.channel.decryptFrame_cases wire maxFramePlaintext with
          ⟨err, hopen⟩ | ⟨pt, hdecrypt, hopen, hroom⟩
        · rw [hopen]
          exact .inl ⟨⟨_, rfl⟩, rfl, List.append_nil _⟩
        · rw [hopen]
          exact .inr ⟨wire, pt, rfl, hdecrypt, hroom, rfl, rfl, rfl⟩

theorem counts_new (key : Bytes 32) (role : ChannelRole) (state : TunnelState) :
    Counts key role (new key role state : Endpoint α) :=
  ⟨rfl, rfl, rfl, rfl, rfl, fun _ h => absurd h List.not_mem_nil,
    [], rfl, fun _ h => absurd h List.not_mem_nil, fun h => absurd rfl h⟩

theorem toNat_succ {n : UInt64} (h : n.toNat + 1 < 2 ^ 64) : (n + 1).toNat = n.toNat + 1 := by
  rw [UInt64.toNat_add, UInt64.toNat_one]
  exact Nat.mod_eq_of_lt h

variable {key : Bytes 32} {role : ChannelRole}

theorem Counts.send (h : Counts key role e)
    (hlen : Lengthens (AesGcm.new key : α)) (header : FrameHeader) (payload : List UInt8)
    (carriage : List UInt8 → Except TunnelError Unit) :
    Counts key role (e.next (.sendFrame header payload carriage)) := by
  obtain ⟨spent, hseals, hspent, hlast⟩ := h.inOrder
  obtain ⟨hreceived, heffect⟩ := e.send_effect (h.cipher ▸ hlen) header payload carriage
  rcases heffect with ⟨hchannel, hsealed, hmore⟩
    | ⟨hvalid, hlength, hroom, hchannel, hsealed, hmore⟩
  · constructor
    · rw [hchannel, h.cipher]
    · rw [hchannel, h.outRole]
    · rw [hchannel, h.inRole]
    · rw [hsealed, hchannel, h.outCtr]
    · rw [hreceived, hchannel, h.inCtr]
    · rw [hsealed]
      exact h.wellFormed
    · rcases hmore with hmore | ⟨⟨pt, hmore⟩, hmax⟩
      · rw [hmore, hsealed, hchannel]
        exact ⟨spent, hseals, hspent, hlast⟩
      · rw [hmore, hsealed, hchannel]
        refine ⟨spent ++ [_], by rw [hseals, List.append_assoc], fun s hs => ?_, fun _ => hmax⟩
        rcases List.mem_append.mp hs with hs | hs
        · exact hspent s hs
        · rw [List.mem_singleton.mp hs, h.outRole]
  · -- the counter was not the last one, so nothing was spent before
    have hnil : spent = [] := by
      by_contra hne
      have hmax := hlast hne
      omega
    constructor
    · rw [hchannel, h.cipher]
    · rw [hchannel, h.outRole]
    · rw [hchannel, h.inRole]
    · rw [hsealed, hchannel, List.length_append, h.outCtr, List.length_singleton, toNat_succ hroom]
    · rw [hreceived, hchannel, h.inCtr]
    · intro frame hframe
      rw [hsealed] at hframe
      rcases List.mem_append.mp hframe with hframe | hframe
      · exact h.wellFormed frame hframe
      · rw [List.mem_singleton.mp hframe]
        exact ⟨hvalid, hlength⟩
    · refine ⟨[], ?_, fun s hs => absurd hs List.not_mem_nil, fun hne => absurd rfl hne⟩
      rw [hmore, hseals, hnil, hsealed, List.append_nil, List.append_nil, List.mapIdx_concat,
        nonced, h.outCtr, UInt64.ofNat_toNat, h.outRole]

theorem Counts.other {e' : Endpoint α} (h : Counts key role e)
    (hchannel : e'.session.channel = e.session.channel) (hsealed : e'.sealedFrames = e.sealedFrames)
    (hreceived : e'.received = e.received) (hseals : e'.seals = e.seals) : Counts key role e' := by
  constructor
  · rw [hchannel, h.cipher]
  · rw [hchannel, h.outRole]
  · rw [hchannel, h.inRole]
  · rw [hsealed, hchannel, h.outCtr]
  · rw [hreceived, hchannel, h.inCtr]
  · rw [hsealed]
    exact h.wellFormed
  · rw [hseals, hsealed, hchannel]
    exact h.inOrder

theorem Counts.mem_seals {side : ChannelRole} (h : Counts key side e) {ctr : UInt64}
    {pt : List UInt8} (hroom : ctr.toNat + 1 < 2 ^ 64)
    (hmem : (Aes256GcmTunnelChannel.nonceBytes role ctr, pt) ∈ e.seals) :
    side = role ∧ ∃ header payload, e.sealedFrames[ctr.toNat]? = some (header, payload)
      ∧ pt = header.bytes ++ payload ∧ readFrame pt = .ok (header, payload) := by
  obtain ⟨spent, hseals, hspent, hlast⟩ := h.inOrder
  rw [hseals] at hmem
  rcases List.mem_append.mp hmem with hmem | hmem
  · obtain ⟨i, hi, heq⟩ := List.mem_mapIdx.mp hmem
    obtain ⟨hnonce, hpt⟩ := Prod.mk.inj heq
    obtain ⟨hside, hctr⟩ := Aes256GcmTunnelChannel.nonceBytes_inj hnonce
    have hlt : i < 2 ^ 64 := hi.trans (h.outCtr ▸ e.session.channel.outCtr.toNat_lt)
    have hplace : ctr.toNat = i := by
      rw [← hctr, UInt64.toNat_ofNat_of_lt' hlt]
    obtain ⟨hvalid, hlength⟩ := h.wellFormed _ (List.getElem_mem hi)
    refine ⟨hside, (e.sealedFrames.get ⟨i, hi⟩).1, (e.sealedFrames.get ⟨i, hi⟩).2, ?_, hpt.symm, ?_⟩
    · rw [hplace]
      exact List.getElem?_eq_getElem hi
    · rw [← hpt]
      exact readFrame_append hvalid hlength
  · have hctr := (Aes256GcmTunnelChannel.nonceBytes_inj (hspent _ hmem)).2
    have hmax := hlast (List.ne_nil_of_mem hmem)
    rw [← hctr] at hmax
    omega

theorem Counts.nodup_seals (h : Counts key role e)
    (hroom : e.session.channel.outCtr.toNat < 2 ^ 64 - 1) :
    (e.seals.map Prod.fst).Nodup
      ∧ ∀ nonce ∈ e.seals.map Prod.fst, ∃ ctr,
        nonce = Aes256GcmTunnelChannel.nonceBytes role ctr := by
  obtain ⟨spent, hseals, -, hlast⟩ := h.inOrder
  have hnil : spent = [] := by
    by_contra hne
    have hmax := hlast hne
    omega
  have hnonces : e.seals.map Prod.fst = (List.range e.sealedFrames.length).map fun i =>
      Aes256GcmTunnelChannel.nonceBytes role (.ofNat i) := by
    rw [hseals, hnil, List.append_nil]
    refine List.ext_getElem (by simp) fun i hi hi' => ?_
    simp [nonced]
  rw [hnonces]
  refine ⟨List.nodup_range.map_on fun i hi j hj heq => ?_, fun nonce hnonce => ?_⟩
  · have hlt := h.outCtr ▸ e.session.channel.outCtr.toNat_lt
    have hctr := congrArg UInt64.toNat (Aes256GcmTunnelChannel.nonceBytes_inj heq).2
    rwa [UInt64.toNat_ofNat_of_lt' ((List.mem_range.mp hi).trans hlt),
      UInt64.toNat_ofNat_of_lt' ((List.mem_range.mp hj).trans hlt)] at hctr
  · obtain ⟨i, -, heq⟩ := List.mem_map.mp hnonce
    exact ⟨_, heq.symm⟩

end

end Endpoint

/-! ## Between them, anybody -/

/-- The two sessions. -/
abbrev Ends (α : Type) := ChannelRole → Endpoint α

namespace Ends
variable {α : Type} [AesGcm α]

/-- One key, opposite roles, any phases. -/
def new (key : Bytes 32) (state : ChannelRole → TunnelState) : Ends α :=
  fun role => .new key role (state role)

/-- A call at one end; what its carriage answers or has is part of the call. -/
def next (ends : Ends α) (k : ChannelRole × TunnelSession.Call) : Ends α :=
  update ends k.1 ((ends k.1).next k.2)

/-- **An ideal cipher**: what opens was sealed by one of the ends, under the nonce it is opened
with. -/
def Authentic (ends : Ends α) (k : ChannelRole × TunnelSession.Call) : Prop :=
  ∀ wire, k.2 = .recvFrame (.ok wire) → ∀ pt,
    AesGcm.decrypt (ends k.1).session.channel.cipher (Aes256GcmTunnelChannel.nonceBytes
        (ends k.1).session.channel.inRole (ends k.1).session.channel.inCtr) wire = some pt →
    ∃ side, (Aes256GcmTunnelChannel.nonceBytes (ends k.1).session.channel.inRole
        (ends k.1).session.channel.inCtr, pt.toList) ∈ (ends side).seals

/-- Both ends count, and what one has returned the other has sealed. -/
structure InStep (key : Bytes 32) (ends : Ends α) : Prop where
  counts : ∀ role, (ends role).Counts key role
  ordered : ∀ role : ChannelRole, (ends role).received <+: (ends role.peer).sealedFrames

/-- A refused datagram has moved no counter of its end. -/
def Refuses (ends : Ends α) (k : ChannelRole × TunnelSession.Call) : Prop :=
  ∀ arrived, k.2 = .recvFrame arrived →
    ∀ err, ((ends k.1).session.recvFrame arrived).1 = .error err →
    (ends.next k k.1).session.channel = (ends k.1).session.channel

theorem peer_ne (role : ChannelRole) : role.peer ≠ role := by
  cases role <;> decide

theorem inStep_update {key : Bytes 32} {ends : Ends α} (h : InStep key ends) (role : ChannelRole)
    {e : Endpoint α} (hcounts : e.Counts key role)
    (hreceived : e.received <+: (ends role.peer).sealedFrames)
    (hsealed : (ends role).sealedFrames <+: e.sealedFrames) : InStep key (update ends role e) := by
  constructor
  · intro role'
    by_cases heq : role' = role
    · subst heq
      rwa [update_self]
    · rw [update_of_ne heq]
      exact h.counts role'
  · intro role'
    by_cases heq : role' = role
    · subst heq
      rwa [update_self, update_of_ne (peer_ne role')]
    · have hpeer : role'.peer = role := by
        cases role' <;> cases role <;> first | rfl | exact absurd rfl heq
      rw [update_of_ne heq, hpeer, update_self]
      exact (hpeer ▸ h.ordered role').trans hsealed

/-- **One call at one end.** -/
theorem next_inStep {key : Bytes 32} (hlen : Endpoint.Lengthens (AesGcm.new key : α))
    {ends : Ends α}
    (h : InStep key ends) {k : ChannelRole × TunnelSession.Call} (hauth : ends.Authentic k) :
    InStep key (ends.next k) ∧ ends.Refuses k := by
  obtain ⟨role, call⟩ := k
  have hcounts := h.counts role
  cases call with
  | sendFrame header payload carriage =>
      refine ⟨inStep_update h role (hcounts.send hlen header payload carriage) ?_ ?_,
        fun _ hcall => by cases hcall⟩
      · exact h.ordered role
      · exact List.prefix_append _ _
  | recvFrame arrived =>
      obtain ⟨hsealed, hseals, heffect⟩ := (ends role).recv_effect arrived
      rcases heffect with ⟨-, hchannel, hreceived⟩
        | ⟨wire, pt, harrived, hopen, hroom, hchannel, hresult, hreceived⟩
      · refine ⟨inStep_update h role (hcounts.other hchannel hsealed hreceived hseals) ?_ ?_, ?_⟩
        · rw [hreceived]
          exact h.ordered role
        · rw [hsealed]
        · rintro arrived' hcall err -
          cases hcall
          rw [next, update_self]
          exact hchannel
      · -- the datagram opens: it is the next frame of the other end
        subst harrived
        obtain ⟨side, hmem⟩ := hauth wire rfl pt hopen
        dsimp only at hmem
        rw [hcounts.inRole] at hmem
        obtain ⟨rfl, header, payload, hframe, -, hread⟩ := (h.counts side).mem_seals hroom hmem
        rw [← hcounts.inCtr] at hframe
        rw [hread] at hresult hreceived
        have horder :
          (ends role).received ++ [(header, payload)] <+: (ends role.peer).sealedFrames := by
          obtain ⟨hlt, hget⟩ := List.getElem?_eq_some_iff.mp hframe
          rw [← hget]
          exact List.concat_get_prefix (h.ordered role) hlt
        refine ⟨inStep_update h role ?_ ?_ ?_, ?_⟩
        · constructor
          · rw [hchannel, hcounts.cipher]
          · rw [hchannel, hcounts.outRole]
          · rw [hchannel, hcounts.inRole]
          · rw [hsealed, hchannel, hcounts.outCtr]
          · rw [hreceived, hchannel, List.length_append, hcounts.inCtr, Endpoint.toNat_succ hroom]
            rfl
          · rw [hsealed]
            exact hcounts.wellFormed
          · rw [hseals, hsealed, hchannel]
            exact hcounts.inOrder
        · rw [hreceived]
          exact horder
        · rw [hsealed]
        · intro arrived' hcall err herror
          cases hcall
          dsimp only at herror
          rw [hresult] at herror
          cases herror
  | apply event =>
      have hchannel :
        ((ends role).next (.apply event)).session.channel = (ends role).session.channel := by
        dsimp only [Endpoint.next, TunnelSession.next, TunnelSession.apply]
        cases step (ends role).session.state event <;> rfl
      exact ⟨inStep_update h role (hcounts.other hchannel rfl rfl rfl) (h.ordered role)
        (List.prefix_refl _), fun _ hcall => by cases hcall⟩
  | muxOpen id =>
      exact ⟨inStep_update h role (hcounts.other rfl rfl rfl rfl) (h.ordered role)
        (List.prefix_refl _), fun _ hcall => by cases hcall⟩
  | muxClose id =>
      exact ⟨inStep_update h role (hcounts.other rfl rfl rfl rfl) (h.ordered role)
        (List.prefix_refl _), fun _ hcall => by cases hcall⟩
  | muxDropAll =>
      exact ⟨inStep_update h role (hcounts.other rfl rfl rfl rfl) (h.ordered role)
        (List.prefix_refl _), fun _ hcall => by cases hcall⟩

theorem run_inStep {key : Bytes 32} (hlen : Endpoint.Lengthens (AesGcm.new key : α))
    (state : ChannelRole → TunnelState) (calls : List (ChannelRole × TunnelSession.Call))
    (hauth : Runs.Guarded next Authentic (new key state : Ends α) calls) :
    InStep key (calls.foldl next (new key state : Ends α)) := by
  induction calls using List.reverseRecOn with
  | nil =>
      exact ⟨fun role => Endpoint.counts_new key role (state role), fun _ => List.prefix_refl _⟩
  | append_singleton calls k ih =>
      obtain ⟨hbefore, hlast⟩ := Runs.guarded_snoc.mp hauth
      rw [Runs.foldl_snoc]
      exact (next_inStep hlen (ih hbefore) hlast).1

/-- **Ordered, authenticated delivery**, whatever the carriage does.  What one end has returned is
the beginning of what the other has sealed; a refused datagram moves no counter; and below the last
counter no nonce of the key has been used twice, in either direction. -/
theorem ordered_delivery (key : Bytes 32) (hlen : Endpoint.Lengthens (AesGcm.new key : α))
    (state : ChannelRole → TunnelState) (calls : List (ChannelRole × TunnelSession.Call))
    (hauth : Runs.Guarded next Authentic (new key state : Ends α) calls) :
    (∀ role : ChannelRole, (calls.foldl next (new key state : Ends α) role).received
        <+: (calls.foldl next (new key state : Ends α) role.peer).sealedFrames)
      ∧ Runs.Guarded next Refuses (new key state : Ends α) calls
      ∧ ((∀ role, (calls.foldl next (new key state : Ends α) role).session.channel.outCtr.toNat
        < 2 ^ 64 - 1) → (((calls.foldl next (new key state : Ends α) .initiator).seals
          ++ (calls.foldl next (new key state : Ends α) .responder).seals).map
            Prod.fst).Nodup) := by
  have hrun := run_inStep hlen state calls hauth
  refine ⟨hrun.ordered, fun before k hk => ?_, fun hroom => ?_⟩
  · have hbefore := hauth.before ((List.prefix_append before [k]).trans hk)
    exact (next_inStep hlen (run_inStep hlen state before hbefore) (hauth before k hk)).2
  · obtain ⟨hnodup, hform⟩ := (hrun.counts .initiator).nodup_seals (hroom .initiator)
    obtain ⟨hnodup', hform'⟩ := (hrun.counts .responder).nodup_seals (hroom .responder)
    rw [List.map_append]
    refine List.nodup_append.mpr ⟨hnodup, hnodup', fun nonce hmem nonce' hmem' heq => ?_⟩
    obtain ⟨ctr, hnonce⟩ := hform nonce hmem
    obtain ⟨ctr', hnonce'⟩ := hform' nonce' hmem'
    rw [hnonce, hnonce'] at heq
    cases (Aes256GcmTunnelChannel.nonceBytes_inj heq).1

/-! A cipher that hides nothing and whose tag is the nonce, and one frame that is sent once and
arrives twice. -/

/-- A cipher for the samples. -/
structure TagCipher

/-- The nonce, made sixteen bytes long. -/
def tagOf (nonce : Bytes 12) : List UInt8 := nonce.toList ++ [0, 0, 0, 0]

instance : AesGcm TagCipher where
  new _ := ⟨⟩
  encrypt _ nonce plaintext := some (plaintext ++ tagOf nonce)
  decrypt _ nonce frame :=
    if frame.drop (frame.length - aes256GcmTagLen) = tagOf nonce then
      some ⟨frame.take (frame.length - aes256GcmTagLen), by rw [List.length_take]; omega⟩
    else none

theorem tagCipher_lengthens (c : TagCipher) : Endpoint.Lengthens c := by
  intro nonce pt ct h
  cases h
  rw [List.length_append, tagOf, List.length_append, List.Vector.toList_length]
  rfl

def sampleWire : List UInt8 :=
  (FrameHeader.data 1 2).bytes ++ [65, 66] ++ tagOf (Aes256GcmTunnelChannel.nonceBytes .initiator 0)

def sampleCalls : List (ChannelRole × TunnelSession.Call) :=
  [(.initiator, .sendFrame (.data 1 2) [65, 66] fun _ => .ok ()),
    (.responder, .recvFrame (.ok sampleWire)), (.responder, .recvFrame (.ok sampleWire))]

def sampleEnds : Ends TagCipher := new (.replicate 32 7) fun _ => .ready

theorem sample_authentic : Runs.Guarded next Authentic sampleEnds sampleCalls := by
  refine Runs.guarded_cons (fun _ hcall => by cases hcall)
    (Runs.guarded_cons ?_ (Runs.guarded_cons ?_ Runs.guarded_nil))
  · intro wire hcall pt hopen
    cases hcall
    have hplain : pt.toList = (FrameHeader.data 1 2).bytes ++ [65, 66] := by
      have hmap := congrArg (Option.map List.Vector.toList) hopen
      exact Option.some.inj hmap.symm
    rw [hplain]
    exact ⟨.initiator, List.mem_cons_self⟩
  · intro wire hcall pt hopen
    cases hcall
    cases hopen

/-- The frame is returned once. -/
theorem ordered_delivery_sample :
    (sampleCalls.foldl next sampleEnds .responder).received = [(.data 1 2, [65, 66])]
      ∧ (sampleCalls.foldl next sampleEnds .responder).received
        <+: (sampleCalls.foldl next sampleEnds .initiator).sealedFrames :=
  ⟨rfl, (ordered_delivery (α := TagCipher) (.replicate 32 7) (tagCipher_lengthens _)
    (fun _ => .ready) sampleCalls sample_authentic).1 .responder⟩

end Ends

end GoatCoin.Tunnel
