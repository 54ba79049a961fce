/-
# `GoatCoin.Net.SecureChannel` — the transport of `goat-net` against an active adversary

`transport.rs`: one ML-KEM ciphertext, signed by the initiator, makes a key for two
channels that count their frames in separate nonce spaces,

    role ‖ 0 0 0 ‖ counter

A run is a list of calls of the four functions at any of the nodes.  The handshakes and
frames of the calls are whatever the adversary makes of what it has seen, so they are
arbitrary values here; beside the channels stands what has been signed, sealed and
delivered.  That ML-DSA, ML-KEM and AES-GCM are ideal enters as conditions on a run (`Ideal`).

`respond` keeps no record of the handshakes it has answered, `open_` none of the frames it
has opened, and the signature covers the ciphertext alone.  What is left is
`Guarantees`: two seals share a key and a nonce only after a replay; a sealed frame opens at the
other end of its session only, as often as it is presented; and the owner of the
signing key, whatever name the handshake gives, signed that ciphertext itself.
-/
import GoatCoin.Goatd.HostCrypto
import GoatCoin.Lib.Runs
import GoatCoin.Protocol.Maturity

namespace GoatCoin.Net

open Wire
open Protocol (textBytes)

/-! ## The crates -/

abbrev EncapsulationKey := Bytes mlKem768EncapsKeyLen
abbrev Ciphertext := Bytes mlKem768CiphertextLen
abbrev SharedSecret := Bytes mlKem768SharedSecretLen

/-- ML-DSA-65 with signers `σ`, ML-KEM-768 with decapsulation keys `δ`, and AES-256-GCM.  An
encapsulation takes the randomness of the call. -/
structure Crates (σ δ : Type) where
  publicKey : σ → List UInt8
  sign : σ → List UInt8 → List UInt8
  verify : List UInt8 → List UInt8 → List UInt8 → Bool
  encapsulationKey : δ → EncapsulationKey
  encapsulate : EncapsulationKey → Bytes 32 → Ciphertext × SharedSecret
  decapsulate : δ → Ciphertext → SharedSecret
  encrypt : Bytes 32 → Bytes 12 → List UInt8 → Option (List UInt8)
  decrypt : Bytes 32 → Bytes 12 → List UInt8 → Option (List UInt8)

/-! ## Channels -/

section
variable {σ δ : Type} (crates : Crates σ δ)

/-- The two KEM keys are generated together. -/
structure NodeIdentity where
  nodeId : String
  signer : σ
  dk : δ
  ek : EncapsulationKey
  generated : ek = crates.encapsulationKey dk

end

/-- The signature is over the bytes of the ciphertext. -/
structure Handshake where
  initiatorId : String
  initiatorSignPk : List UInt8
  ciphertext : Ciphertext
  signature : List UInt8

/-- The key of a channel. -/
def deriveSessionKey (sharedSecret : SharedSecret) : Bytes 32 :=
  sha3_256 (textBytes "goat-net/session/v1" ++ sharedSecret.toList)

/-- The role is 0 for the initiator and 1 for the responder. -/
structure SecureChannel where
  key : Bytes 32
  role : UInt8
  sendCtr : UInt64
  peerId : String
  roleLe : role ≤ 1

inductive HandshakeError where
  | badSignature
deriving DecidableEq

def nonce (role : UInt8) (ctr : UInt64) : Bytes 12 :=
  ⟨role :: 0 :: 0 :: 0 :: toBE 8 ctr.toNat, by
    rw [List.length_cons, List.length_cons, List.length_cons, List.length_cons, length_toBE]⟩

section
variable {σ δ : Type} (crates : Crates σ δ)

/-- The counter is taken before the cipher is asked, so a call that panics (`none`) takes one
too. -/
def seal_ (ch : SecureChannel) (plaintext : List UInt8) :
    Option (UInt64 × List UInt8) × SecureChannel :=
  let ctr := ch.sendCtr
  ((crates.encrypt ch.key (nonce ch.role ctr) plaintext).map fun ct => (ctr, ct),
    { ch with sendCtr := ch.sendCtr + 1 })

/-- The nonce space of the opposite role. -/
def open_ (ch : SecureChannel) (ctr : UInt64) (ciphertext : List UInt8) : Option (List UInt8) :=
  crates.decrypt ch.key (nonce (1 - ch.role) ctr) ciphertext

variable {crates}

def initiate (initiator : NodeIdentity crates) (responderKemPublic : EncapsulationKey)
    (coins : Bytes 32) : Handshake × SecureChannel :=
  let (ct, shared) := crates.encapsulate responderKemPublic coins
  let sig := crates.sign initiator.signer ct.toList
  (⟨initiator.nodeId, crates.publicKey initiator.signer, ct, sig⟩,
    ⟨deriveSessionKey shared, 0, 0, "", by decide⟩)

/-- The channel of the other side. -/
def respond (responder : NodeIdentity crates) (hs : Handshake) :
    Except HandshakeError SecureChannel :=
  if !crates.verify hs.initiatorSignPk hs.ciphertext.toList hs.signature then .error .badSignature
  else
    let shared := crates.decapsulate responder.dk hs.ciphertext
    .ok ⟨deriveSessionKey shared, 1, 0, hs.initiatorId, by decide⟩

end

/-! ## Runs -/

/-- A channel of a node.  It was made for a ciphertext of the handshake and the KEM key that
the ciphertext is for, and `calls` counts its calls of `seal_`. -/
structure Held (ν : Type) where
  owner : ν
  chan : SecureChannel
  hs : Handshake
  kemPublic : EncapsulationKey
  calls : Nat

/-- A frame that was sealed, on the channel with that number, by the call with that index. -/
structure Sealing where
  channel : Nat
  index : Nat
  key : Bytes 32
  nonce : Bytes 12
  plaintext : List UInt8
  frame : UInt64 × List UInt8

structure Delivery where
  channel : Nat
  frame : UInt64 × List UInt8
  plaintext : List UInt8

structure World (ν : Type) where
  channels : List (Held ν)
  /-- What the nodes have signed: ciphertexts, and their assignment logs, receipts and stamps. -/
  signed : List (ν × List UInt8)
  seals : List Sealing
  deliveries : List Delivery

def World.empty {ν : Type} : World ν := ⟨[], [], [], []⟩

/-- What a node does. -/
inductive Call (ν : Type) where
  | initiate (node : ν) (kemPublic : EncapsulationKey) (coins : Bytes 32)
  | respond (node : ν) (hs : Handshake)
  | signMsg (node : ν) (msg : List UInt8)
  | seal_ (channel : Nat) (plaintext : List UInt8)
  | open_ (channel : Nat) (ctr : UInt64) (ciphertext : List UInt8)

section
variable {ν σ δ : Type} {crates : Crates σ δ} (nodes : ν → NodeIdentity crates)

def step (w : World ν) : Call ν → World ν
  | .initiate i kemPublic coins =>
      let (hs, chan) := initiate (nodes i) kemPublic coins
      { w with
        channels := w.channels ++ [⟨i, chan, hs, kemPublic, 0⟩]
        signed := w.signed ++ [(i, hs.ciphertext.toList)] }
  | .respond j hs =>
      match respond (nodes j) hs with
      | .error _ => w
      | .ok chan => { w with channels := w.channels ++ [⟨j, chan, hs, (nodes j).ek, 0⟩] }
  | .signMsg i msg => { w with signed := w.signed ++ [(i, msg)] }
  | .seal_ k plaintext =>
      match w.channels[k]? with
      | none => w
      | some c =>
          let (frame, chan) := seal_ crates c.chan plaintext
          { w with
            channels := w.channels.set k { c with chan := chan, calls := c.calls + 1 }
            seals := w.seals ++ (frame.map fun f =>
              ⟨k, c.calls, c.chan.key, nonce c.chan.role c.chan.sendCtr, plaintext, f⟩).toList }
  | .open_ k ctr ciphertext =>
      match w.channels[k]? with
      | none => w
      | some c =>
          { w with deliveries := w.deliveries ++
              ((open_ crates c.chan ctr ciphertext).map fun p => ⟨k, (ctr, ciphertext), p⟩).toList }

def run (calls : List (Call ν)) : World ν := calls.foldl (step nodes) .empty

/-! ## What is asked of the crates -/

/-- A key that is a node's has signed the message. -/
def KeySigned (w : World ν) (pk msg : List UInt8) : Prop :=
  ∀ i, crates.publicKey (nodes i).signer = pk →
    ∃ j, crates.publicKey (nodes j).signer = pk ∧ (j, msg) ∈ w.signed

/-- The signature of a handshake does not verify unless its key has signed the ciphertext. -/
def Unforged (w : World ν) : Call ν → Prop
  | .respond _ hs => crates.verify hs.initiatorSignPk hs.ciphertext.toList hs.signature = true →
      KeySigned nodes w hs.initiatorSignPk hs.ciphertext.toList
  | _ => True

/-- The crates are ideal in this run. -/
structure Ideal (calls : List (Call ν)) : Prop where
  signersApart :
    ∀ i j, crates.publicKey (nodes i).signer = crates.publicKey (nodes j).signer → i = j
  kemKeysApart : ∀ i j, (nodes i).ek = (nodes j).ek → i = j
  unforgeable : Runs.Guarded (step nodes) (Unforged nodes) .empty calls
  kemCorrect : ∀ dk coins,
    crates.decapsulate dk (crates.encapsulate (crates.encapsulationKey dk) coins).1
      = (crates.encapsulate (crates.encapsulationKey dk) coins).2
  /-- No two encapsulations come out the same. -/
  ciphertextsFresh : ∀ {k l : Nat} {c d : Held ν},
    (run nodes calls).channels[k]? = some c → (run nodes calls).channels[l]? = some d →
    c.chan.role = 0 → d.chan.role = 0 → c.hs.ciphertext = d.hs.ciphertext → k = l
  /-- Different KEM keys or ciphertexts have different session keys. -/
  secretsApart : ∀ c ∈ (run nodes calls).channels, ∀ d ∈ (run nodes calls).channels,
    c.chan.key = d.chan.key → c.kemPublic = d.kemPublic ∧ c.hs.ciphertext = d.hs.ciphertext
  aeadCorrect : ∀ key n p ct, crates.encrypt key n p = some ct → crates.decrypt key n ct = some p
  /-- What was sealed opens under no other key and no other nonce. -/
  aeadBinding : ∀ s ∈ (run nodes calls).seals, ∀ c ∈ (run nodes calls).channels, ∀ n p,
    crates.decrypt c.chan.key n s.frame.2 = some p → c.chan.key = s.key ∧ n = s.nonce

/-! ## What a world holds at every moment -/

/-- How a channel got its key. -/
inductive Made (c : Held ν) : Prop
  | initiated (coins : Bytes 32) (role : c.chan.role = 0)
      (ciphertext : c.hs.ciphertext = (crates.encapsulate c.kemPublic coins).1)
      (key : c.chan.key = deriveSessionKey (crates.encapsulate c.kemPublic coins).2)
  | responded (role : c.chan.role = 1) (kemPublic : c.kemPublic = (nodes c.owner).ek)
      (key : c.chan.key = deriveSessionKey (crates.decapsulate (nodes c.owner).dk c.hs.ciphertext))

/-- The frame was sealed on the channel, by one of the calls it has counted. -/
structure SealedOn (crates : Crates σ δ) (s : Sealing) (c : Held ν) : Prop where
  key : s.key = c.chan.key
  nonce : s.nonce = Net.nonce c.chan.role s.frame.1
  ctr : s.frame.1 = UInt64.ofNat s.index
  counted : s.index < c.calls
  encrypted : crates.encrypt s.key s.nonce s.plaintext = some s.frame.2

structure Sound (w : World ν) : Prop where
  made : ∀ c ∈ w.channels, Made nodes c
  counted : ∀ c ∈ w.channels, c.chan.sendCtr = UInt64.ofNat c.calls
  sealedOn : ∀ s ∈ w.seals, ∃ c, w.channels[s.channel]? = some c ∧ SealedOn crates s c
  ordered : w.seals.Pairwise fun s t => s.channel = t.channel → s.index < t.index
  opened : ∀ d ∈ w.deliveries, ∃ c, w.channels[d.channel]? = some c
    ∧ open_ crates c.chan d.frame.1 d.frame.2 = some d.plaintext
  verified : ∀ c ∈ w.channels, c.chan.role = 1 →
    KeySigned nodes w c.hs.initiatorSignPk c.hs.ciphertext.toList

variable {nodes}
variable {msg : List UInt8} {k : Nat}

theorem KeySigned.of_subset {w w' : World ν} {pk : List UInt8} (h : KeySigned nodes w pk msg)
    (hsub : w.signed ⊆ w'.signed) : KeySigned nodes w' pk msg := by
  intro i hi
  obtain ⟨j, hj, hsigned⟩ := h i hi
  exact ⟨j, hj, hsub hsigned⟩

theorem sound_empty : Sound nodes (.empty : World ν) where
  made := fun _ hc => absurd hc List.not_mem_nil
  counted := fun _ hc => absurd hc List.not_mem_nil
  sealedOn := fun _ hs => absurd hs List.not_mem_nil
  ordered := .nil
  opened := fun _ hd => absurd hd List.not_mem_nil
  verified := fun _ hc => absurd hc List.not_mem_nil

theorem getElem?_append_of_some {channels : List (Held ν)} {c : Held ν} (h : channels[k]? = some c)
    (more : List (Held ν)) : (channels ++ more)[k]? = some c := by
  rw [List.getElem?_append_left (List.getElem?_eq_some_iff.mp h).1]
  exact h

theorem Sound.channel {w : World ν} (h : Sound nodes w) {c : Held ν} (hmade : Made nodes c)
    (hnew : c.chan.sendCtr = UInt64.ofNat c.calls) (more : List (ν × List UInt8))
    (hverified : c.chan.role = 1 → KeySigned nodes w c.hs.initiatorSignPk c.hs.ciphertext.toList) :
    Sound nodes { w with channels := w.channels ++ [c], signed := w.signed ++ more } where
  made := by
    intro d hd
    rcases List.mem_append.mp hd with hold | hlast
    · exact h.made d hold
    · rw [List.mem_singleton.mp hlast]
      exact hmade
  counted := by
    intro d hd
    rcases List.mem_append.mp hd with hold | hlast
    · exact h.counted d hold
    · rw [List.mem_singleton.mp hlast]
      exact hnew
  sealedOn := by
    intro s hs
    obtain ⟨d, hd, hsealed⟩ := h.sealedOn s hs
    exact ⟨d, getElem?_append_of_some hd _, hsealed⟩
  ordered := h.ordered
  opened := by
    intro e he
    obtain ⟨d, hd, hopen⟩ := h.opened e he
    exact ⟨d, getElem?_append_of_some hd _, hopen⟩
  verified := by
    intro d hd hrole
    rcases List.mem_append.mp hd with hold | hlast
    · exact (h.verified d hold hrole).of_subset (List.subset_append_left _ _)
    · rw [List.mem_singleton.mp hlast] at hrole ⊢
      exact (hverified hrole).of_subset (List.subset_append_left _ _)

theorem Sound.signMsg {w : World ν} (h : Sound nodes w) (more : List (ν × List UInt8)) :
    Sound nodes { w with signed := w.signed ++ more } :=
  { h with
    verified := fun c hc hrole => (h.verified c hc hrole).of_subset (List.subset_append_left _ _) }

theorem Sound.open_ {w : World ν} (h : Sound nodes w) {c : Held ν} (hc : w.channels[k]? = some c)
    (ctr : UInt64) (ciphertext : List UInt8) :
    Sound nodes { w with deliveries := w.deliveries ++
      ((Net.open_ crates c.chan ctr ciphertext).map fun p => ⟨k, (ctr, ciphertext), p⟩).toList } :=
  { h with
    opened := by
      intro d hd
      rcases List.mem_append.mp hd with hold | hlast
      · exact h.opened d hold
      · obtain ⟨p, hp, rfl⟩ := Option.map_eq_some_iff.mp (Option.mem_toList.mp hlast)
        exact ⟨c, hc, hp⟩ }

/-- The channel after a call of `seal_`. -/
def Held.count (c : Held ν) : Held ν :=
  { c with chan := { c.chan with sendCtr := c.chan.sendCtr + 1 }, calls := c.calls + 1 }

theorem getElem?_set_count {channels : List (Held ν)} {l : Nat} {c d : Held ν}
    (hc : channels[k]? = some c)
    (hd : channels[l]? = some d) : (channels.set k c.count)[l]? = some d
      ∨ (channels.set k c.count)[l]? = some d.count := by
  by_cases hkl : k = l
  · subst hkl
    cases hc.symm.trans hd
    rw [List.getElem?_set_self (List.getElem?_eq_some_iff.mp hc).1]
    exact .inr rfl
  · rw [List.getElem?_set_ne hkl]
    exact .inl hd

theorem mem_set_count {channels : List (Held ν)} {c d : Held ν} (hc : channels[k]? = some c)
    (hd : d ∈ channels.set k c.count) : d ∈ channels ∨ d = c.count ∧ c ∈ channels := by
  rcases List.mem_or_eq_of_mem_set hd with hold | hnew
  · exact .inl hold
  · exact .inr ⟨hnew, List.mem_of_getElem? hc⟩

theorem SealedOn.count {s : Sealing} {c : Held ν} (h : SealedOn crates s c) :
    SealedOn crates s c.count :=
  ⟨h.key, h.nonce, h.ctr, Nat.lt_succ_of_lt h.counted, h.encrypted⟩

theorem Made.count {c : Held ν} (h : Made nodes c) : Made nodes c.count := by
  cases h with
  | initiated coins role ciphertext key => exact .initiated coins role ciphertext key
  | responded role kemPublic key => exact .responded role kemPublic key

theorem Sound.count {w : World ν} (h : Sound nodes w) {c : Held ν} (hc : w.channels[k]? = some c) :
    Sound nodes { w with channels := w.channels.set k c.count } where
  made := by
    intro d hd
    rcases mem_set_count hc hd with hold | ⟨rfl, hold⟩
    · exact h.made d hold
    · exact (h.made c hold).count
  counted := by
    intro d hd
    rcases mem_set_count hc hd with hold | ⟨rfl, hold⟩
    · exact h.counted d hold
    · show c.chan.sendCtr + 1 = UInt64.ofNat (c.calls + 1)
      rw [h.counted c hold, UInt64.ofNat_add]
      rfl
  sealedOn := by
    intro s hs
    obtain ⟨d, hd, hsealed⟩ := h.sealedOn s hs
    rcases getElem?_set_count hc hd with hsame | hcount
    · exact ⟨d, hsame, hsealed⟩
    · exact ⟨d.count, hcount, hsealed.count⟩
  ordered := h.ordered
  opened := by
    intro e he
    obtain ⟨d, hd, hopen⟩ := h.opened e he
    rcases getElem?_set_count hc hd with hsame | hcount
    · exact ⟨d, hsame, hopen⟩
    · exact ⟨d.count, hcount, hopen⟩
  verified := by
    intro d hd hrole
    rcases mem_set_count hc hd with hold | ⟨rfl, hold⟩
    · exact h.verified d hold hrole
    · exact h.verified c hold hrole

theorem Sound.seal_ {w : World ν} (h : Sound nodes w) {c : Held ν} (hc : w.channels[k]? = some c)
    {plaintext ct : List UInt8}
    (hct : crates.encrypt c.chan.key (nonce c.chan.role c.chan.sendCtr) plaintext = some ct) :
    Sound nodes { w with
      channels := w.channels.set k c.count
      seals := w.seals ++ [⟨k, c.calls, c.chan.key, nonce c.chan.role c.chan.sendCtr, plaintext,
        (c.chan.sendCtr, ct)⟩] } :=
  { h.count hc with
    sealedOn := by
      intro s hs
      rcases List.mem_append.mp hs with hold | hlast
      · exact (h.count hc).sealedOn s hold
      · rw [List.mem_singleton.mp hlast]
        refine ⟨c.count, List.getElem?_set_self (List.getElem?_eq_some_iff.mp hc).1, rfl, rfl, ?_,
          Nat.lt_succ_self _, hct⟩
        exact h.counted c (List.mem_of_getElem? hc)
    ordered := by
      refine List.pairwise_append.mpr ⟨h.ordered, List.pairwise_singleton _ _, ?_⟩
      intro s hs t ht hchannel
      rw [List.mem_singleton.mp ht] at hchannel ⊢
      obtain ⟨d, hd, hsealed⟩ := h.sealedOn s hs
      rw [hchannel] at hd
      cases hd.symm.trans hc
      exact hsealed.counted }

/-- **One call keeps a world sound**, if the signature it is given is not forged. -/
theorem Sound.step {w : World ν} (h : Sound nodes w) (call : Call ν)
    (hcall : Unforged nodes w call) : Sound nodes (step nodes w call) := by
  cases call with
  | initiate i kemPublic coins => exact h.channel (.initiated coins rfl rfl rfl) rfl _ nofun
  | respond j hs =>
      rw [Net.step, respond]
      by_cases hverify : crates.verify hs.initiatorSignPk hs.ciphertext.toList hs.signature = true
      · rw [hverify]
        have hnew :=
          h.channel
            (c := ⟨j, ⟨deriveSessionKey (crates.decapsulate (nodes j).dk hs.ciphertext), 1, 0,
          hs.initiatorId, by decide⟩, hs, (nodes j).ek, 0⟩) (.responded rfl rfl rfl) rfl []
            (fun _ => hcall hverify)
        rw [List.append_nil] at hnew
        exact hnew
      · rw [Bool.eq_false_iff.mpr hverify]
        exact h
  | signMsg i msg => exact h.signMsg _
  | seal_ k plaintext =>
      rw [Net.step]
      cases hc : w.channels[k]? with
      | none => exact h
      | some c =>
          dsimp only [Net.seal_]
          cases hct : crates.encrypt c.chan.key (nonce c.chan.role c.chan.sendCtr) plaintext with
          | none =>
              show Sound nodes
                { w with channels := w.channels.set k c.count, seals := w.seals ++ [] }
              rw [List.append_nil]
              exact h.count hc
          | some ct => exact h.seal_ hc hct
  | open_ k ctr ciphertext =>
      rw [Net.step]
      cases hc : w.channels[k]? with
      | none => exact h
      | some c => exact h.open_ hc ctr ciphertext

theorem sound_run {calls : List (Call ν)}
    (h : Runs.Guarded (step nodes) (Unforged nodes) .empty calls) :
    Sound nodes (run nodes calls) := by
  have hall : Runs.Throughout (step nodes) (Sound nodes) .empty calls :=
    Runs.throughout_of_guarded (I := Sound nodes)
      (fun _ call hsound hcall => hsound.step call hcall) sound_empty h
  exact hall calls (List.prefix_refl calls)

theorem mem_channels_step {w : World ν} {c : Held ν} (hc : c ∈ w.channels) (call : Call ν) :
    c ∈ (step nodes w call).channels ∨ c.count ∈ (step nodes w call).channels := by
  cases call with
  | initiate i kemPublic coins => exact .inl (List.mem_append_left _ hc)
  | respond j hs =>
      rw [step]
      split
      · exact .inl hc
      · exact .inl (List.mem_append_left _ hc)
  | signMsg i msg => exact .inl hc
  | seal_ k plaintext =>
      rw [step]
      split
      · exact .inl hc
      · rename_i d hd
        obtain ⟨l, hl⟩ := List.mem_iff_getElem?.mp hc
        rcases getElem?_set_count hd hl with hsame | hcount
        · exact .inl (List.mem_of_getElem? hsame)
        · exact .inr (List.mem_of_getElem? hcount)
  | open_ k ctr ciphertext =>
      rw [step]
      split
      · exact .inl hc
      · exact .inl hc

/-- The node has a channel that it initiated with this ciphertext. -/
def World.Initiated (w : World ν) (i : ν) (ciphertext : List UInt8) : Prop :=
  ∃ c ∈ w.channels, c.owner = i ∧ c.chan.role = 0 ∧ c.hs.ciphertext.toList = ciphertext

theorem World.Initiated.step {w : World ν} {i : ν} (h : w.Initiated i msg) (call : Call ν) :
    (step nodes w call).Initiated i msg := by
  obtain ⟨c, hc, howner, hrole, hct⟩ := h
  rcases mem_channels_step hc call with hsame | hcount
  · exact ⟨c, hsame, howner, hrole, hct⟩
  · exact ⟨c.count, hcount, howner, hrole, hct⟩

theorem signed_step {w : World ν} {call : Call ν} {i : ν}
    (h : (i, msg) ∈ (step nodes w call).signed) :
    (i, msg) ∈ w.signed ∨ (step nodes w call).Initiated i msg ∨ call = .signMsg i msg := by
  cases call with
  | initiate j kemPublic coins =>
      rcases List.mem_append.mp h with hold | hlast
      · exact .inl hold
      · cases List.mem_singleton.mp hlast
        exact .inr (.inl ⟨_, List.mem_append_right _ List.mem_cons_self, rfl, rfl, rfl⟩)
  | respond j hs =>
      rw [step] at h
      split at h
      · exact .inl h
      · exact .inl h
  | signMsg j msg' =>
      rcases List.mem_append.mp h with hold | hlast
      · exact .inl hold
      · cases List.mem_singleton.mp hlast
        exact .inr (.inr rfl)
  | seal_ k plaintext =>
      rw [step] at h
      split at h
      · exact .inl h
      · exact .inl h
  | open_ k ctr ciphertext =>
      rw [step] at h
      split at h
      · exact .inl h
      · exact .inl h

/-- **What was signed** was the ciphertext of a handshake of the node's own, or the message of a
`sign_msg`. -/
theorem signed_run {calls : List (Call ν)} {i : ν} (h : (i, msg) ∈ (run nodes calls).signed) :
    (run nodes calls).Initiated i msg ∨ Call.signMsg i msg ∈ calls := by
  induction calls using List.reverseRecOn with
  | nil => exact absurd h List.not_mem_nil
  | append_singleton calls call ih =>
      rw [run, Runs.foldl_snoc] at h ⊢
      rcases signed_step h with hbefore | hnew | rfl
      · rcases ih hbefore with hinit | hmsg
        · exact .inl (hinit.step call)
        · exact .inr (List.mem_append_left _ hmsg)
      · exact .inl hnew
      · exact .inr (List.mem_append_right _ List.mem_cons_self)

/-! ## Sessions -/

/-- The initiator's channel and a responder's channel for one ciphertext and the key it is for. -/
structure OtherEnd (c d : Held ν) : Prop where
  roles : c.chan.role ≠ d.chan.role
  kemPublic : c.kemPublic = d.kemPublic
  ciphertext : c.hs.ciphertext = d.hs.ciphertext

/-- Two channels that one node got by answering one ciphertext twice. -/
structure Replayed (c d : Held ν) : Prop where
  first : c.chan.role = 1
  again : d.chan.role = 1
  owner : c.owner = d.owner
  ciphertext : c.hs.ciphertext = d.hs.ciphertext

/-- What the transport keeps to, in a world that some calls have led to. -/
structure Guarantees (nodes : ν → NodeIdentity crates) (calls : List (Call ν)) : Prop where
  /-- Two seals under one key and one nonce: 2^64 calls apart, or on two channels by a replay. -/
  nonces : (run nodes calls).seals.Pairwise fun s t => s.key = t.key → s.nonce = t.nonce →
    s.channel = t.channel ∧ s.index + 2 ^ 64 ≤ t.index
      ∨ s.channel ≠ t.channel ∧ ∃ c d, (run nodes calls).channels[s.channel]? = some c
        ∧ (run nodes calls).channels[t.channel]? = some d ∧ Replayed c d
  /-- A sealed frame is delivered unchanged, at the other end. -/
  delivered : ∀ s ∈ (run nodes calls).seals, ∀ d ∈ (run nodes calls).deliveries,
    d.frame.2 = s.frame.2 →
    d.frame = s.frame ∧ d.plaintext = s.plaintext ∧ ∃ c e,
    (run nodes calls).channels[s.channel]? = some c
      ∧ (run nodes calls).channels[d.channel]? = some e ∧ OtherEnd c e
  /-- The other ends of a channel are at one node. -/
  oneNode : ∀ c ∈ (run nodes calls).channels, ∀ d ∈ (run nodes calls).channels,
    ∀ e ∈ (run nodes calls).channels, OtherEnd c d → OtherEnd c e → d.owner = e.owner
  /-- And there the frame opens whenever it is presented. -/
  again : ∀ s ∈ (run nodes calls).seals, ∀ c, (run nodes calls).channels[s.channel]? = some c →
    ∀ e ∈ (run nodes calls).channels, OtherEnd c e →
      open_ crates e.chan s.frame.1 s.frame.2 = some s.plaintext
  /-- A handshake under a node's key: the node has signed the ciphertext. -/
  authenticated : ∀ c ∈ (run nodes calls).channels, c.chan.role = 1 →
    ∀ i, crates.publicKey (nodes i).signer = c.hs.initiatorSignPk →
      (run nodes calls).Initiated i c.hs.ciphertext.toList
      ∨ Call.signMsg i c.hs.ciphertext.toList ∈ calls
  /-- The two hold one key exactly if the ciphertext was for the node that has answered it. -/
  addressed : ∀ c ∈ (run nodes calls).channels, ∀ d ∈ (run nodes calls).channels,
    c.chan.role = 1 → d.chan.role = 0 → d.hs.ciphertext = c.hs.ciphertext →
      (c.chan.key = d.chan.key ↔ d.kemPublic = (nodes c.owner).ek)

theorem nonce_inj {role role' : UInt8} {ctr ctr' : UInt64} (h : nonce role ctr = nonce role' ctr') :
    role = role' ∧ ctr = ctr' := by
  have hlist := congrArg List.Vector.toList h
  change role :: 0 :: 0 :: 0 :: toBE 8 ctr.toNat
    = role' :: 0 :: 0 :: 0 :: toBE 8 ctr'.toNat at hlist
  obtain ⟨hrole, hrest⟩ := List.cons.inj hlist
  have hctr : toBE 8 ctr.toNat = toBE 8 ctr'.toNat := by simpa using hrest
  exact ⟨hrole,
    UInt64.toNat_inj.mp (toLE_inj ctr.toNat_lt ctr'.toNat_lt (List.reverse_injective hctr))⟩

theorem le_of_ofNat_eq {a b : Nat} (hlt : a < b)
    (h : UInt64.ofNat a = UInt64.ofNat b) : a + 2 ^ 64 ≤ b := by
  have hmod := congrArg UInt64.toNat h
  rw [UInt64.toNat_ofNat', UInt64.toNat_ofNat'] at hmod
  omega

theorem Made.role_cases {c : Held ν} (h : Made nodes c) : c.chan.role = 0 ∨ c.chan.role = 1 := by
  cases h with
  | initiated coins role ciphertext key => exact .inl role
  | responded role kemPublic key => exact .inr role

theorem Made.kemPublic_eq {c : Held ν} (h : Made nodes c) (hrole : c.chan.role = 1) :
    c.kemPublic = (nodes c.owner).ek := by
  cases h with
  | initiated coins role ciphertext key =>
      rw [role] at hrole
      cases hrole
  | responded role kemPublic key => exact kemPublic

section
variable {calls : List (Call ν)} (ideal : Ideal nodes calls)
include ideal

theorem Ideal.sound : Sound nodes (run nodes calls) := sound_run ideal.unforgeable

/-- Both ends of a session hold its key. -/
theorem Ideal.key_of_session {c d : Held ν} (hc : Made nodes c) (hd : Made nodes d)
    (hrole : c.chan.role = 1) (hrole' : d.chan.role = 0) (hkem : d.kemPublic = (nodes c.owner).ek)
    (hct : d.hs.ciphertext = c.hs.ciphertext) : c.chan.key = d.chan.key := by
  cases hc with
  | initiated coins role ciphertext key =>
      rw [role] at hrole
      cases hrole
  | responded role kemPublic key =>
      cases hd with
      | responded role' kemPublic' key' =>
          rw [role'] at hrole'
          cases hrole'
      | initiated coins role' ciphertext key' =>
          rw [key, key', ← hct, ciphertext, hkem, (nodes c.owner).generated, ideal.kemCorrect]

theorem Ideal.key_of_otherEnd {c d : Held ν} (hc : Made nodes c) (hd : Made nodes d)
    (h : OtherEnd c d) : c.chan.key = d.chan.key := by
  have hroles := h.roles
  rcases hc.role_cases with hrole | hrole <;> rcases hd.role_cases with hrole' | hrole'
  · exact absurd (hrole.trans hrole'.symm) hroles
  · have hkem := h.kemPublic.trans (hd.kemPublic_eq hrole')
    exact (ideal.key_of_session hd hc hrole' hrole hkem h.ciphertext).symm
  · have hkem := h.kemPublic.symm.trans (hc.kemPublic_eq hrole)
    exact ideal.key_of_session hc hd hrole hrole' hkem h.ciphertext.symm
  · exact absurd (hrole.trans hrole'.symm) hroles

/-- One key and one nonce: one channel, or two that a replay made. -/
theorem Ideal.nonces : (run nodes calls).seals.Pairwise fun s t => s.key = t.key →
    s.nonce = t.nonce → s.channel = t.channel ∧ s.index + 2 ^ 64 ≤ t.index
      ∨ s.channel ≠ t.channel ∧ ∃ c d, (run nodes calls).channels[s.channel]? = some c
        ∧ (run nodes calls).channels[t.channel]? = some d ∧ Replayed c d := by
  have hsound := ideal.sound
  refine hsound.ordered.imp_of_mem ?_
  intro s t hs ht hordered hkey hnonce
  obtain ⟨c, hc, hsc⟩ := hsound.sealedOn s hs
  obtain ⟨d, hd, htd⟩ := hsound.sealedOn t ht
  obtain ⟨hroles, hctr⟩ := nonce_inj (hsc.nonce.symm.trans (hnonce.trans htd.nonce))
  by_cases hchannel : s.channel = t.channel
  · refine .inl ⟨hchannel, le_of_ofNat_eq (hordered hchannel) ?_⟩
    exact hsc.ctr.symm.trans (hctr.trans htd.ctr)
  · have hcmem := List.mem_of_getElem? hc
    have hdmem := List.mem_of_getElem? hd
    obtain ⟨hkem, hct⟩ :=
      ideal.secretsApart c hcmem d hdmem (hsc.key.symm.trans (hkey.trans htd.key))
    rcases (hsound.made c hcmem).role_cases with hrole | hrole
    · -- two initiations never share a ciphertext
      exact absurd (ideal.ciphertextsFresh hc hd hrole (hroles ▸ hrole) hct) hchannel
    · have hrole' : d.chan.role = 1 := hroles ▸ hrole
      have hek := (hsound.made c hcmem).kemPublic_eq hrole
      have hek' := (hsound.made d hdmem).kemPublic_eq hrole'
      have howner := ideal.kemKeysApart _ _ (hek.symm.trans (hkem.trans hek'))
      exact .inr ⟨hchannel, c, d, hc, hd, hrole, hrole', howner, hct⟩

theorem Ideal.delivered {s : Sealing} (hs : s ∈ (run nodes calls).seals) {d : Delivery}
    (hd : d ∈ (run nodes calls).deliveries) (hframe : d.frame.2 = s.frame.2) :
    d.frame = s.frame ∧ d.plaintext = s.plaintext ∧ ∃ c e,
    (run nodes calls).channels[s.channel]? = some c
      ∧ (run nodes calls).channels[d.channel]? = some e ∧ OtherEnd c e := by
  have hsound := ideal.sound
  obtain ⟨c, hc, hsc⟩ := hsound.sealedOn s hs
  obtain ⟨e, he, hopen⟩ := hsound.opened d hd
  have hcmem := List.mem_of_getElem? hc
  have hemem := List.mem_of_getElem? he
  rw [open_, hframe] at hopen
  obtain ⟨hkey, hnonce⟩ := ideal.aeadBinding s hs e hemem _ _ hopen
  obtain ⟨hrole, hctr⟩ := nonce_inj (hnonce.trans hsc.nonce)
  rw [hkey, hnonce, ideal.aeadCorrect _ _ _ _ hsc.encrypted] at hopen
  obtain ⟨hkem, hct⟩ := ideal.secretsApart c hcmem e hemem (hsc.key.symm.trans hkey.symm)
  refine ⟨Prod.ext hctr hframe, (Option.some.inj hopen).symm, c, e, hc, he, ?_, hkem, hct⟩
  intro hsame
  rcases (hsound.made e hemem).role_cases with he0 | he1
  · rw [hsame, he0] at hrole
    cases hrole
  · rw [hsame, he1] at hrole
    cases hrole

theorem Ideal.owner_of_otherEnd {c d e : Held ν} (hc : c ∈ (run nodes calls).channels)
    (hd : d ∈ (run nodes calls).channels) (he : e ∈ (run nodes calls).channels) (hcd : OtherEnd c d)
    (hce : OtherEnd c e) : d.owner = e.owner := by
  have hsound := ideal.sound
  have hdroles := hcd.roles
  have heroles := hce.roles
  rcases (hsound.made d hd).role_cases with hd0
    | hd1 <;> rcases (hsound.made e he).role_cases with he0 | he1
  · obtain ⟨k, hk⟩ := List.mem_iff_getElem?.mp hd
    obtain ⟨l, hl⟩ := List.mem_iff_getElem?.mp he
    cases ideal.ciphertextsFresh hk hl hd0 he0 (hcd.ciphertext.symm.trans hce.ciphertext)
    cases hk.symm.trans hl
    rfl
  · rcases (hsound.made c hc).role_cases with hc0 | hc1
    · exact absurd (hc0.trans hd0.symm) hdroles
    · exact absurd (hc1.trans he1.symm) heroles
  · rcases (hsound.made c hc).role_cases with hc0 | hc1
    · exact absurd (hc0.trans he0.symm) heroles
    · exact absurd (hc1.trans hd1.symm) hdroles
  · have hek := (hsound.made d hd).kemPublic_eq hd1
    have hek' := (hsound.made e he).kemPublic_eq he1
    exact ideal.kemKeysApart
      _ _ (hek.symm.trans (hcd.kemPublic.symm.trans (hce.kemPublic.trans hek')))

theorem Ideal.opens {s : Sealing} (hs : s ∈ (run nodes calls).seals) {c : Held ν}
    (hc : (run nodes calls).channels[s.channel]? = some c) {e : Held ν}
    (he : e ∈ (run nodes calls).channels)
    (hce : OtherEnd c e) : open_ crates e.chan s.frame.1 s.frame.2 = some s.plaintext := by
  have hsound := ideal.sound
  obtain ⟨c', hc', hsc⟩ := hsound.sealedOn s hs
  cases hc.symm.trans hc'
  have hmadec := hsound.made c (List.mem_of_getElem? hc)
  have hmadee := hsound.made e he
  have hkey := ideal.key_of_otherEnd hmadec hmadee hce
  have hrole : 1 - e.chan.role = c.chan.role := by
    have hroles := hce.roles
    rcases hmadec.role_cases with hc0 | hc1 <;> rcases hmadee.role_cases with he0 | he1
    · exact absurd (hc0.trans he0.symm) hroles
    · rw [hc0, he1]
      rfl
    · rw [hc1, he0]
      rfl
    · exact absurd (hc1.trans he1.symm) hroles
  rw [open_, hrole, ← hkey, ← hsc.key, ← hsc.nonce]
  exact ideal.aeadCorrect _ _ _ _ hsc.encrypted

theorem Ideal.authenticated {c : Held ν} (hc : c ∈ (run nodes calls).channels)
    (hrole : c.chan.role = 1) {i : ν}
    (hi : crates.publicKey (nodes i).signer = c.hs.initiatorSignPk) :
    (run nodes calls).Initiated i c.hs.ciphertext.toList
    ∨ Call.signMsg i c.hs.ciphertext.toList ∈ calls := by
  obtain ⟨j, hj, hsigned⟩ := ideal.sound.verified c hc hrole i hi
  cases ideal.signersApart i j (hi.trans hj.symm)
  exact signed_run hsigned

theorem Ideal.addressed {c d : Held ν} (hc : c ∈ (run nodes calls).channels)
    (hd : d ∈ (run nodes calls).channels) (hrole : c.chan.role = 1) (hrole' : d.chan.role = 0)
    (hct : d.hs.ciphertext = c.hs.ciphertext) :
    c.chan.key = d.chan.key ↔ d.kemPublic = (nodes c.owner).ek := by
  have hsound := ideal.sound
  constructor
  · intro hkey
    have hkem := (ideal.secretsApart c hc d hd hkey).1
    exact hkem.symm.trans ((hsound.made c hc).kemPublic_eq hrole)
  · intro hkem
    exact ideal.key_of_session (hsound.made c hc) (hsound.made d hd) hrole hrole' hkem hct

end

/-- **The transport**, over every run of the nodes' calls on whatever handshakes and frames the
adversary gives them. -/
theorem transport_guarantees (nodes : ν → NodeIdentity crates) (calls : List (Call ν))
    (ideal : Ideal nodes calls) : Guarantees nodes calls where
  nonces := ideal.nonces
  delivered := fun _ hs _ hd hframe => ideal.delivered hs hd hframe
  oneNode := fun _ hc _ hd _ he hcd hce => ideal.owner_of_otherEnd hc hd he hcd hce
  again := fun _ hs _ hc _ he hce => ideal.opens hs hc he hce
  authenticated := fun _ hc hrole _ hi => ideal.authenticated hc hrole hi
  addressed := fun _ hc _ hd hrole hrole' hct => ideal.addressed hc hd hrole hrole' hct

/-! ## A replay -/

/-- One key and one nonce, one plaintext. -/
def NoReuse (w : World ν) : Prop :=
  ∀ s ∈ w.seals, ∀ t ∈ w.seals, s.key = t.key → s.nonce = t.nonce → s.plaintext = t.plaintext

/-- No sealed frame is delivered twice at one node. -/
def DeliveredOnce (w : World ν) : Prop :=
  w.deliveries.Pairwise fun d e => ∀ s ∈ w.seals, d.frame = s.frame → e.frame = s.frame →
    (w.channels[d.channel]?).map Held.owner ≠ (w.channels[e.channel]?).map Held.owner

/-- Who a responder's channel names has initiated that handshake, towards that responder. -/
def InitiatedByPeer (nodes : ν → NodeIdentity crates) (w : World ν) : Prop :=
  ∀ c ∈ w.channels, c.chan.role = 1 → ∃ d ∈ w.channels, d.chan.role = 0
    ∧ (nodes d.owner).nodeId = c.chan.peerId ∧ d.hs.ciphertext = c.hs.ciphertext
    ∧ d.kemPublic = (nodes c.owner).ek

end

inductive Party where
  | alice
  | bob
  | carol
deriving DecidableEq

def Party.byte : Party → UInt8
  | .alice => 1
  | .bob => 2
  | .carol => 3

def Party.name : Party → String
  | .alice => "alice"
  | .bob => "bob"
  | .carol => "carol"

def sampleCiphertext : Ciphertext := .replicate _ 7
def sampleKey : Bytes 32 := deriveSessionKey (.replicate _ 9)

/-- Crates for one handshake of alice's: only her signature of its ciphertext verifies.  A tag is
the nonce and four bytes more. -/
def sampleCrates : Crates Party Party where
  publicKey p := List.replicate 1952 p.byte
  sign p _ := List.replicate 3309 p.byte
  verify pk msg sig := pk = List.replicate 1952 1 ∧ msg = sampleCiphertext.toList
    ∧ sig = List.replicate 3309 1
  encapsulationKey p := .replicate _ p.byte
  encapsulate _ _ := (sampleCiphertext, .replicate _ 9)
  decapsulate _ _ := .replicate _ 9
  encrypt _ n p := some ((n.toList ++ List.replicate 4 0) ++ p)
  decrypt _ n ct := if ct.take 16 = n.toList ++ List.replicate 4 0 then some (ct.drop 16) else none

def sampleNodes (p : Party) : NodeIdentity sampleCrates := ⟨p.name, p, p, _, rfl⟩

/-- Alice's handshake, under a name that the adversary has put in. -/
def sampleHandshake (name : String) : Handshake :=
  ⟨name, List.replicate 1952 1, sampleCiphertext, List.replicate 3309 1⟩

def sampleFrame (p : List UInt8) : List UInt8 := ((nonce 1 0).toList ++ List.replicate 4 0) ++ p

/-- Bob answers alice's handshake twice, the second time in carol's name, and seals on both
channels; alice gets the first frame twice. -/
def sampleCalls : List (Call Party) :=
  [.initiate .alice (sampleNodes .bob).ek (.replicate _ 0), .respond .bob (sampleHandshake "alice"),
    .respond .bob (sampleHandshake "carol"), .seal_ 1 [1], .seal_ 2 [2],
    .open_ 0 0 (sampleFrame [1]), .open_ 0 0 (sampleFrame [1])]

def sampleWorld : World Party where
  channels :=
    [⟨.alice, ⟨sampleKey, 0, 0, "", by decide⟩, sampleHandshake "alice", (sampleNodes .bob).ek, 0⟩,
    ⟨.bob, ⟨sampleKey, 1, 1, "alice", by decide⟩, sampleHandshake "alice",
      (sampleNodes .bob).ek, 1⟩,
    ⟨.bob, ⟨sampleKey, 1, 1, "carol", by decide⟩, sampleHandshake "carol",
      (sampleNodes .bob).ek, 1⟩]
  signed := [(.alice, sampleCiphertext.toList)]
  seals := [⟨1, 0, sampleKey, nonce 1 0, [1], (0, sampleFrame [1])⟩,
    ⟨2, 0, sampleKey, nonce 1 0, [2], (0, sampleFrame [2])⟩]
  deliveries := [⟨0, (0, sampleFrame [1]), [1]⟩, ⟨0, (0, sampleFrame [1]), [1]⟩]

theorem sampleCrates_verify {pk msg sig : List UInt8} : sampleCrates.verify pk msg sig = true ↔
    pk = List.replicate 1952 1 ∧ msg = sampleCiphertext.toList ∧ sig = List.replicate 3309 1 :=
  decide_eq_true_iff

theorem sample_verify (name : String) : sampleCrates.verify (sampleHandshake name).initiatorSignPk
    (sampleHandshake name).ciphertext.toList (sampleHandshake name).signature = true := by
  rw [sampleCrates_verify]
  exact ⟨rfl, rfl, rfl⟩

theorem sample_respond (name : String) : respond (sampleNodes .bob) (sampleHandshake name)
    = .ok ⟨sampleKey, 1, 0, name, by decide⟩ := by
  rw [respond, sample_verify]
  rfl

theorem run_sampleCalls : run sampleNodes sampleCalls = sampleWorld := by
  unfold run sampleCalls
  simp only [List.foldl_cons, List.foldl_nil, step, sample_respond]
  rfl

theorem Party.byte_inj {p q : Party} (h : p.byte = q.byte) : p = q := by
  cases p <;> cases q <;> first | rfl | cases h

theorem sample_channels {c : Held Party} (hc : c ∈ sampleWorld.channels) :
    c.chan.key = sampleKey ∧ c.kemPublic = (sampleNodes .bob).ek
    ∧ c.hs.ciphertext = sampleCiphertext := by
  rcases List.mem_cons.mp hc with rfl | hc
  · exact ⟨rfl, rfl, rfl⟩
  · rcases List.mem_cons.mp hc with rfl | hc
    · exact ⟨rfl, rfl, rfl⟩
    · rw [List.mem_singleton.mp hc]
      exact ⟨rfl, rfl, rfl⟩

theorem sample_seals {s : Sealing} (hs : s ∈ sampleWorld.seals) :
    s.key = sampleKey ∧ s.nonce = nonce 1 0 ∧ s.frame.2 = sampleFrame s.plaintext := by
  rcases List.mem_cons.mp hs with rfl | hs
  · exact ⟨rfl, rfl, rfl⟩
  · rw [List.mem_singleton.mp hs]
    exact ⟨rfl, rfl, rfl⟩

theorem sample_initiator {k : Nat} {c : Held Party} (hc : sampleWorld.channels[k]? = some c)
    (hrole : c.chan.role = 0) : k = 0 := by
  match k, hc with
  | 0, _ => rfl
  | 1, hc =>
      cases hc
      cases hrole
  | 2, hc =>
      cases hc
      cases hrole
  | _ + 3, hc => cases hc

theorem sample_tag (n : Bytes 12) (p : List UInt8) :
    ((n.toList ++ List.replicate 4 0) ++ p).take 16 = n.toList ++ List.replicate 4 0 := by
  refine List.take_left' ?_
  rw [List.length_append, List.Vector.toList_length, List.length_replicate]

theorem sample_keySigned {w : World Party} (h : (Party.alice, sampleCiphertext.toList) ∈ w.signed)
    (name : String) :
    KeySigned sampleNodes w (sampleHandshake name).initiatorSignPk
      (sampleHandshake name).ciphertext.toList :=
  fun _ _ => ⟨.alice, rfl, h⟩

theorem sample_unforgeable :
    Runs.Guarded (step sampleNodes) (Unforged sampleNodes) .empty sampleCalls := by
  refine Runs.guarded_cons trivial (Runs.guarded_cons ?_ (Runs.guarded_cons ?_ ?_))
  · exact fun _ => sample_keySigned List.mem_cons_self "alice"
  · intro _
    refine sample_keySigned ?_ "carol"
    simp only [step, sample_respond]
    exact List.mem_cons_self
  · exact Runs.guarded_cons trivial (Runs.guarded_cons trivial (Runs.guarded_cons trivial
      (Runs.guarded_cons trivial Runs.guarded_nil)))

theorem sample_ideal : Ideal sampleNodes sampleCalls where
  signersApart := fun _ _ h => Party.byte_inj ((List.replicate_right_inj (by decide)).mp h)
  kemKeysApart := fun _ _ h =>
    Party.byte_inj
      ((List.replicate_right_inj (n := mlKem768EncapsKeyLen) (by decide)).mp
      (congrArg List.Vector.toList h))
  unforgeable := sample_unforgeable
  kemCorrect := fun _ _ => rfl
  ciphertextsFresh := by
    rw [run_sampleCalls]
    intro k l c d hc hd hrole hrole' _
    rw [sample_initiator hc hrole, sample_initiator hd hrole']
  secretsApart := by
    rw [run_sampleCalls]
    intro c hc d hd _
    obtain ⟨-, hkem, hct⟩ := sample_channels hc
    obtain ⟨-, hkem', hct'⟩ := sample_channels hd
    exact ⟨hkem.trans hkem'.symm, hct.trans hct'.symm⟩
  aeadCorrect := by
    intro key n p ct h
    cases h
    show (if _ then some _ else none) = some p
    rw [if_pos (sample_tag n p), List.drop_left']
    rw [List.length_append, List.Vector.toList_length, List.length_replicate]
  aeadBinding := by
    rw [run_sampleCalls]
    intro s hs c hc n p h
    obtain ⟨hkey, hnonce, hframe⟩ := sample_seals hs
    refine ⟨(sample_channels hc).1.trans hkey.symm, ?_⟩
    rw [hframe] at h
    change (if _ then some _ else none) = some p at h
    split at h
    · rename_i htag
      rw [sampleFrame, sample_tag] at htag
      rw [hnonce]
      exact List.Vector.eq _ _ (List.append_cancel_right htag.symm)
    · cases h

/-- What is left of a replay. -/
theorem sample_guarantees : Guarantees sampleNodes sampleCalls :=
  transport_guarantees sampleNodes sampleCalls sample_ideal

/-- **A replay reuses a nonce, delivers twice and carries any name**, with ideal crates. -/
theorem replay_reuses_nonce : Ideal sampleNodes sampleCalls
    ∧ ¬ NoReuse (run sampleNodes sampleCalls)
    ∧ ¬ DeliveredOnce (run sampleNodes sampleCalls)
    ∧ ¬ InitiatedByPeer sampleNodes (run sampleNodes sampleCalls) := by
  refine ⟨sample_ideal, ?_, ?_, ?_⟩
  · rw [run_sampleCalls]
    intro hreuse
    cases hreuse _ List.mem_cons_self _ (List.mem_cons_of_mem _ List.mem_cons_self) rfl rfl
  · rw [run_sampleCalls]
    intro honce
    exact List.rel_of_pairwise_cons honce List.mem_cons_self _ List.mem_cons_self rfl rfl rfl
  · rw [run_sampleCalls]
    intro hpeer
    obtain ⟨d, hd, hrole, hname, -⟩ :=
      hpeer _ (List.mem_cons_of_mem _ (List.mem_cons_of_mem _ List.mem_cons_self)) rfl
    obtain ⟨k, hk⟩ := List.mem_iff_getElem?.mp hd
    cases sample_initiator hk hrole
    cases hk
    exact absurd hname (by decide)

end GoatCoin.Net
