/-
# `GoatCoin.Core.ClockSources` — whose samples the network clock holds

`record_peer_time` keys its slots by the observed address, while what a handshake
authenticates is an identity key.  The pipeline keeps no record of the second, so
the runs here carry it beside the node (`Sampled.source`):

    call             authenticates             slot written
    established      initiator_identity        of peer_addr, else the cursor's
    responded        responder_identity        of peer_addr, else the cursor's
    any other        —                         —

`NetworkClock.recordPeerTime_offset` and `lt_filled_recordPeerTime` say that the
slot of the table is the one that the code writes.

A run keeps one sample per identity exactly as long as no key is authenticated
from one address while it still holds the slot of another (`one_sample_iff`): the
address decides the slot, and nothing ties it to the key.
-/
import Mathlib.Logic.Function.Basic
import GoatCoin.Lib.Runs
import GoatCoin.Core.CookieWindow

namespace GoatCoin

open Function (update update_self update_of_ne)
open Wire

/-! ## The slot of an address -/

namespace NetworkClock

/-- The slot that holds an address, or else the one the cursor is at. -/
def slotFor (clock : NetworkClock) (peerAddr : PeerAddr) : Nat :=
  match (List.range clock.filled).find? (fun i => clock.addrs[i]? == some peerAddr) with
  | some i => i
  | none => clock.next

theorem lt_of_find {clock : NetworkClock} {peerAddr : PeerAddr} {i : Nat}
    (h : (List.range clock.filled).find? (fun i => clock.addrs[i]? == some peerAddr) = some i) :
    i < clock.filled :=
  List.mem_range.mp (List.mem_of_find?_eq_some h)

/-- The offset of a sample is written at that slot, and nowhere else. -/
theorem recordPeerTime_offset (clock : NetworkClock) (peerAddr : PeerAddr)
    (peerTime localTime : UInt64) (i : Nat) :
    (clock.recordPeerTime peerAddr peerTime localTime).offsets[i]?
      = if i = clock.slotFor peerAddr then some (satI64 (asI64 peerTime - asI64 localTime))
        else clock.offsets[i]? := by
  unfold recordPeerTime slotFor
  cases hfind : (List.range clock.filled).find? (fun i => clock.addrs[i]? == some peerAddr) with
  | some j =>
      have hlt : j < 16 := (lt_of_find hfind).trans_le clock.filled_le
      dsimp only
      rw [Vector.getElem?_setIfInBounds, if_pos hlt]
      exact if_congr eq_comm rfl rfl
  | none =>
      dsimp only
      rw [Vector.getElem?_set]
      exact if_congr eq_comm rfl rfl

/-- **The occupied slots** after a sample are those before it and the one written. -/
theorem lt_filled_recordPeerTime (clock : NetworkClock) (peerAddr : PeerAddr)
    (peerTime localTime : UInt64) (i : Nat) :
    i < (clock.recordPeerTime peerAddr peerTime localTime).filled
      ↔ i < clock.filled ∨ i = clock.slotFor peerAddr := by
  unfold recordPeerTime slotFor
  cases hfind : (List.range clock.filled).find? (fun i => clock.addrs[i]? == some peerAddr) with
  | some j =>
      have hlt := lt_of_find hfind
      dsimp only
      omega
  | none =>
      have hle := clock.filled_le
      dsimp only [Ring.Cursor.step]
      split
      · rename_i hlt
        have hnext := clock.next_eq hlt
        omega
      · have hnext := clock.next_lt (by decide)
        omega

end NetworkClock

/-! ## The identity a call authenticates -/

namespace GoatNode
variable {M C : Nat} {σ γ : Type} [SecureChannel σ] [GossipCodec γ]

omit [SecureChannel σ] [GossipCodec γ] in
/-- The identity key under which the handshake signature of a call verifies. -/
def authenticates (node : GoatNode M C) (k : IngressCall σ γ) : Option PublicKey :=
  match demux k.raw with
  | .ok (.cookieEcho echo signature) =>
      match node.checkCookie echo k.peerAddr k.now,
          verifyInitiation echo.initiation signature node.verifier with
      | .ok _ _, .ok _ => some echo.initiation.initiatorIdentity
      | _, _ => none
  | .ok (.response resp signature) =>
      match verifyResponse resp signature node.verifier with
      | .ok _ => some resp.responderIdentity
      | .error _ => none
  | _ => none

omit [SecureChannel σ] [GossipCodec γ] in
theorem authenticates_cookieEcho {node : GoatNode M C} {k : IngressCall σ γ}
    {echo : HandshakeCookieEcho} {signature : Signature} {cache : CookieCache C}
    (h : demux k.raw = .ok (.cookieEcho echo signature))
    (hcookie : node.checkCookie echo k.peerAddr k.now = .ok () cache)
    (hinit : verifyInitiation echo.initiation signature node.verifier = .ok ()) :
    node.authenticates k = some echo.initiation.initiatorIdentity := by
  rw [authenticates, h]
  dsimp only
  rw [hcookie, hinit]

omit [SecureChannel σ] [GossipCodec γ] in
theorem authenticates_response {node : GoatNode M C} {k : IngressCall σ γ}
    {resp : HandshakeResponse} {signature : Signature}
    (h : demux k.raw = .ok (.response resp signature))
    (hresp : verifyResponse resp signature node.verifier = .ok ()) :
    node.authenticates k = some resp.responderIdentity := by
  rw [authenticates, h]
  dsimp only
  rw [hresp]

theorem authenticates_of_error {node : GoatNode M C} {k : IngressCall σ γ} {e : DaemonError}
    (h : node.outcome k = .error e) : node.authenticates k = none := by
  unfold authenticates
  split
  · rename_i echo signature hdemux
    split
    · rename_i cache hcookie hinit
      rw [outcome, call_established hdemux hcookie hinit] at h
      cases h
    · rfl
  · rename_i resp signature hdemux
    split
    · rename_i hresp
      rw [outcome, call_responded hdemux hresp] at h
      cases h
    · rfl
  · rfl

omit [SecureChannel σ] [GossipCodec γ] in
theorem authenticates_of_other {node : GoatNode M C} {k : IngressCall σ γ} {packet : NetworkPacket}
    (h : demux k.raw = .ok packet) (hecho : ∀ echo signature, packet ≠ .cookieEcho echo signature)
    (hresp : ∀ resp signature, packet ≠ .response resp signature) :
    node.authenticates k = none := by
  rw [authenticates, h]
  cases packet with
  | initiation init => rfl
  | cookieEcho echo signature => exact absurd rfl (hecho echo signature)
  | response resp signature => exact absurd rfl (hresp resp signature)
  | secureFrame frame => rfl

/-- **The clock takes a sample exactly when an identity is authenticated**, and it
takes it under the observed address. -/
theorem clock_step (node : GoatNode M C) (k : IngressCall σ γ) :
    (node.authenticates k = none ∧ (node.afterCall k).networkClock = node.networkClock) ∨
    ∃ identity peerTime, node.authenticates k = some identity ∧
      (node.afterCall k).networkClock
        = node.networkClock.recordPeerTime k.peerAddr peerTime k.now := by
  have hstep := step_result node k
  generalize hr : node.outcome k = r at hstep
  generalize node.afterCall k = node' at hstep
  cases hstep with
  | refused e h => exact .inl ⟨authenticates_of_error hr, rfl⟩
  | challenged h => exact .inl ⟨authenticates_of_other h nofun nofun, rfl⟩
  | spent h hcookie hinit => exact .inl ⟨authenticates_of_error hr, rfl⟩
  | established h hcookie hinit =>
      exact .inr ⟨_, _, authenticates_cookieEcho h hcookie hinit, rfl⟩
  | responded h hresp => exact .inr ⟨_, _, authenticates_response h hresp, rfl⟩
  | gossiped h hframe hmessage hvalid => exact .inl ⟨authenticates_of_other h nofun nofun, rfl⟩

end GoatNode

/-! ## Runs that remember the sources -/

/-- A node and the identity key behind each sample of its clock. -/
structure Sampled (M C : Nat) where
  node : GoatNode M C
  source : Nat → Option PublicKey
  held : ∀ i, (source i).isSome ↔ i < node.networkClock.samples

namespace Sampled
variable {M C : Nat} {σ γ : Type} [SecureChannel σ] [GossipCodec γ]

def new (nodeSecret : Bytes 32) (identityPublicKey : PublicKey) (verifier : SignatureVerifier)
    (registry : KeyRegistry) (genesisTime : UInt64) : Sampled M C where
  node := .new nodeSecret identityPublicKey verifier registry genesisTime
  source _ := none
  held i := by
    have hzero : ¬ i < 0 := Nat.not_lt_zero i
    exact ⟨nofun, fun h => absurd h hzero⟩

/-- The sources after a call: the slot it writes is now the authenticated key's. -/
def sourceAfter (s : Sampled M C) (k : IngressCall σ γ) : Nat → Option PublicKey :=
  match s.node.authenticates k with
  | none => s.source
  | some identity =>
      update s.source (s.node.networkClock.slotFor k.peerAddr) (some identity)

omit [SecureChannel σ] [GossipCodec γ] in
theorem sourceAfter_of_none {s : Sampled M C} {k : IngressCall σ γ}
    (h : s.node.authenticates k = none) : s.sourceAfter k = s.source := by
  rw [sourceAfter, h]

omit [SecureChannel σ] [GossipCodec γ] in
theorem sourceAfter_of_some {s : Sampled M C} {k : IngressCall σ γ} {identity : PublicKey}
    (h : s.node.authenticates k = some identity) :
    s.sourceAfter k
      = update s.source (s.node.networkClock.slotFor k.peerAddr) (some identity) := by
  rw [sourceAfter, h]

def call (s : Sampled M C) (k : IngressCall σ γ) : Sampled M C where
  node := s.node.afterCall k
  source := s.sourceAfter k
  held i := by
    rcases s.node.clock_step k with ⟨hnone, hclock⟩ | ⟨identity, peerTime, hsome, hclock⟩
    · rw [sourceAfter_of_none hnone, hclock]
      exact s.held i
    · rw [sourceAfter_of_some hsome, hclock]
      have hfilled := s.node.networkClock.lt_filled_recordPeerTime k.peerAddr peerTime k.now i
      refine Iff.trans ?_ hfilled.symm
      by_cases hi : i = s.node.networkClock.slotFor k.peerAddr
      · rw [hi, update_self]
        exact ⟨fun _ => .inr rfl, fun _ => rfl⟩
      · rw [update_of_ne hi]
        exact (s.held i).trans ⟨.inl, fun h => h.resolve_right hi⟩

@[simp] theorem call_node (s : Sampled M C) (k : IngressCall σ γ) :
    (s.call k).node = s.node.afterCall k := rfl

@[simp] theorem call_source (s : Sampled M C) (k : IngressCall σ γ) :
    (s.call k).source = s.sourceAfter k := rfl

def run (s : Sampled M C) (ks : List (IngressCall σ γ)) : Sampled M C := ks.foldl call s

/-- The samples come from pairwise distinct identities. -/
def OneSamplePerIdentity (s : Sampled M C) : Prop :=
  ∀ i j, i < s.node.networkClock.samples → j < s.node.networkClock.samples →
    s.source i = s.source j → i = j

/-- The key that a call authenticates is not behind another slot than the one the
address of the call gets. -/
def AddressFollowsIdentity (s : Sampled M C) (k : IngressCall σ γ) : Prop :=
  ∀ identity, s.node.authenticates k = some identity →
    ∀ i < s.node.networkClock.samples, s.source i = some identity →
      i = s.node.networkClock.slotFor k.peerAddr

omit [SecureChannel σ] [GossipCodec γ] in
theorem oneSample_iff_source (s : Sampled M C) :
    s.OneSamplePerIdentity
      ↔ ∀ i j identity, s.source i = some identity → s.source j = some identity → i = j := by
  constructor
  · intro h i j identity hi hj
    have hilt := (s.held i).mp (Option.isSome_of_eq_some hi)
    have hjlt := (s.held j).mp (Option.isSome_of_eq_some hj)
    exact h i j hilt hjlt (hi.trans hj.symm)
  · intro h i j hi _ heq
    obtain ⟨identity, hid⟩ := Option.isSome_iff_exists.mp ((s.held i).mpr hi)
    exact h i j identity hid (heq ▸ hid)

/-- **One call** keeps the samples distinct exactly when its key has no other slot. -/
theorem oneSample_call_iff (s : Sampled M C) (k : IngressCall σ γ) (hs : s.OneSamplePerIdentity) :
    (s.call k).OneSamplePerIdentity ↔ s.AddressFollowsIdentity k := by
  rw [oneSample_iff_source] at hs ⊢
  show (∀ i j identity, s.sourceAfter k i = some identity → s.sourceAfter k j = some identity →
    i = j) ↔ _
  cases hauth : s.node.authenticates k with
  | none =>
      rw [sourceAfter_of_none hauth]
      refine ⟨fun _ identity hid => ?_, fun _ => hs⟩
      rw [hauth] at hid
      cases hid
  | some identity =>
      rw [sourceAfter_of_some hauth]
      generalize hslot : s.node.networkClock.slotFor k.peerAddr = slot
      constructor
      · intro h identity' hid i _ hi
        rw [hauth] at hid
        cases hid
        rw [hslot]
        refine Classical.byContradiction fun hne => hne (h i slot identity ?_ ?_)
        · rw [update_of_ne hne]
          exact hi
        · exact update_self ..
      · intro h i j identity' hi hj
        have hown : ∀ i, s.source i = some identity → i = slot := by
          intro i hi
          rw [← hslot]
          exact h identity hauth i ((s.held i).mp (Option.isSome_of_eq_some hi)) hi
        rcases eq_or_ne i slot with rfl | hislot
        · rcases eq_or_ne j i with rfl | hjslot
          · rfl
          · rw [update_self] at hi
            rw [update_of_ne hjslot] at hj
            cases hi
            exact absurd (hown j hj) hjslot
        · rw [update_of_ne hislot] at hi
          rcases eq_or_ne j slot with rfl | hjslot
          · rw [update_self] at hj
            cases hj
            exact hown i hi
          · rw [update_of_ne hjslot] at hj
            exact hs i j identity' hi hj

/-- **One sample per identity, exactly when.**  In every run of the pipeline from a
new node, the samples of the clock come from pairwise distinct identity keys in
every state passed through, exactly when every call that authenticates a key does
so from an address that gets the key's own slot. -/
theorem one_sample_iff (nodeSecret : Bytes 32) (identityPublicKey : PublicKey)
    (verifier : SignatureVerifier) (registry : KeyRegistry) (genesisTime : UInt64)
    (ks : List (IngressCall σ γ)) :
    (∀ before, before <+: ks →
      ((new nodeSecret identityPublicKey verifier registry genesisTime : Sampled M C).run
        before).OneSamplePerIdentity)
    ↔ ∀ before k, before ++ [k] <+: ks →
      ((new nodeSecret identityPublicKey verifier registry genesisTime : Sampled M C).run
        before).AddressFollowsIdentity k := by
  refine Runs.guarded_iff oneSample_call_iff ?_ ks
  intro i j hi _ _
  exact absurd hi (Nat.not_lt_zero i)

end Sampled

/-! ## One key, two addresses -/

def otherAddr : PeerAddr := .replicate 16 2

def sampleResponse : HandshakeResponse where
  responderIdentity := .replicate _ 0
  kemCiphertext := .replicate _ 0
  epoch := 0
  localTime := 0
  nonce := .replicate 32 0

/-- The sample response, observed from an address. -/
def responseCall (peerAddr : PeerAddr) : IngressCall ScratchChannel SilentCodec where
  raw := PacketTag.response :: signedResponseBytes sampleResponse sampleSignature
  peerAddr
  now := 0
  channel := ⟨⟩
  codec := ⟨⟩
  bufLen := 0
  plaintextBuf := .nil

theorem demux_responseCall (peerAddr : PeerAddr) :
    demux (responseCall peerAddr).raw = .ok (.response sampleResponse sampleSignature) :=
  demux_response sampleResponse sampleSignature

/-- A node under whose verifier the sample signature is good. -/
structure Trusting (node : GoatNode 1 1) (clock : NetworkClock) : Prop where
  verifier_eq : node.verifier = fun _ _ signature => signature == sampleSignature
  clock_eq : node.networkClock = clock

variable {node : GoatNode 1 1} {clock : NetworkClock}

theorem Trusting.verifyResponse
    (h : Trusting node clock) :
    verifyResponse sampleResponse sampleSignature node.verifier = .ok () := by
  rw [verifyResponse_eq, h.verifier_eq]
  exact if_pos (beq_self_eq_true sampleSignature)

theorem Trusting.authenticates
    (h : Trusting node clock) (peerAddr : PeerAddr) :
    node.authenticates (responseCall peerAddr) = some sampleResponse.responderIdentity :=
  GoatNode.authenticates_response (demux_responseCall peerAddr) h.verifyResponse

theorem Trusting.respond (h : Trusting node clock)
    (peerAddr : PeerAddr) :
    Trusting (node.afterCall (responseCall peerAddr)) (clock.recordPeerTime peerAddr 0 0) := by
  have hcall := GoatNode.call_responded (demux_responseCall peerAddr) h.verifyResponse
  have hafter : node.afterCall (responseCall peerAddr) = node.recordPeerTime peerAddr 0 0 := by
    rw [GoatNode.afterCall, hcall]
    rfl
  rw [hafter]
  refine ⟨h.verifier_eq, ?_⟩
  rw [← h.clock_eq]
  rfl

theorem Trusting.source {s : Sampled 1 1} (h : Trusting s.node clock)
    (peerAddr : PeerAddr) :
    (s.call (responseCall peerAddr)).source
      = update s.source (clock.slotFor peerAddr)
        (some sampleResponse.responderIdentity) := by
  have hafter := Sampled.sourceAfter_of_some (h.authenticates peerAddr)
  rw [h.clock_eq] at hafter
  rw [Sampled.call_source, hafter]
  rfl

theorem Trusting.two_samples {s : Sampled 1 1} (h : Trusting s.node (.withGenesisAnchor 0)) :
    ¬ (s.run [responseCall sampleAddr, responseCall otherAddr]).OneSamplePerIdentity := by
  have hslots : (NetworkClock.withGenesisAnchor 0).slotFor sampleAddr = 0
      ∧ ((NetworkClock.withGenesisAnchor 0).recordPeerTime sampleAddr 0 0).slotFor otherAddr
        = 1 := by
    decide
  have hfirst := h.source sampleAddr
  have h₁ := h.respond sampleAddr
  rw [← Sampled.call_node] at h₁
  have hsecond := h₁.source otherAddr
  rw [hslots.1] at hfirst
  rw [hslots.2, hfirst] at hsecond
  intro hone
  rw [Sampled.oneSample_iff_source] at hone
  generalize sampleResponse.responderIdentity = identity at hsecond
  have hrun : (s.run [responseCall sampleAddr, responseCall otherAddr]).source
      = update (update s.source 0 (some identity)) 1 (some identity) := hsecond
  rw [hrun] at hone
  refine absurd (hone 0 1 identity ?_ ?_) Nat.zero_ne_one
  · rw [update_of_ne Nat.zero_ne_one, update_self]
  · exact update_self ..

def trustingNode : Sampled 1 1 :=
  .new sampleSecret (.replicate _ 0) (fun _ _ signature => signature == sampleSignature)
    (fun _ _ => false) 0

/-- Two responses under one key, from two addresses, fill two slots. -/
theorem one_sample_fails :
    ¬ (trustingNode.run [responseCall sampleAddr, responseCall otherAddr]).OneSamplePerIdentity :=
  Trusting.two_samples ⟨rfl, rfl⟩

end GoatCoin
