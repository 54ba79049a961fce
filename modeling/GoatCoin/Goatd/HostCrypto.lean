/-
# `GoatCoin.Goatd.HostCrypto` — the secure channel and the key exchange of `host_crypto.rs`

The ciphers themselves are crates, and enter as classes with what the daemon calls:

    AesGcm α      encrypt, decrypt       of a cipher object α; a plaintext is 16 bytes shorter
    MlKem δ       encapsulate            to a public key, with the randomness of the call
                  decapsulate            total: every ciphertext has a shared secret

What `host_crypto.rs` adds is written out: nonces from the role and a counter that
refuses to wrap, the length checks, and the session key.  A channel never changes
its cipher or its role (`Aes256GcmChannel.SameKey`).
-/
import GoatCoin.Core.Daemon

namespace GoatCoin

open Wire

abbrev mlKem768SharedSecretLen : Nat := 32
abbrev aes256GcmTagLen : Nat := 16

/-- `Aes256Gcm` of the crate `aes-gcm`. -/
class AesGcm (α : Type) where
  new : Bytes 32 → α
  encrypt : α → Bytes 12 → List UInt8 → Option (List UInt8)
  decrypt : α → Bytes 12 → (frame : List UInt8) → Option (Bytes (frame.length - aes256GcmTagLen))

/-- ML-KEM-768 of the crate `ml-kem`, with decapsulation keys `δ`. -/
class MlKem (δ : Type) where
  encapsulate : Bytes mlKem768EncapsKeyLen → Bytes 32 →
    Option (Bytes mlKem768CiphertextLen × Bytes mlKem768SharedSecretLen)
  decapsulate : δ → Bytes mlKem768CiphertextLen → Bytes mlKem768SharedSecretLen

/-- The side of a channel. -/
inductive ChannelRole where
  | initiator
  | responder
deriving DecidableEq

namespace ChannelRole

def byte : ChannelRole → UInt8
  | initiator => 0
  | responder => 1

def peer : ChannelRole → ChannelRole
  | initiator => responder
  | responder => initiator

end ChannelRole

structure Aes256GcmChannel (α : Type) where
  cipher : α
  role : ChannelRole
  txNonce : UInt64
  rxNonce : UInt64

namespace Aes256GcmChannel
variable {α : Type} [AesGcm α]

def new (key : Bytes 32) (role : ChannelRole) : Aes256GcmChannel α := ⟨AesGcm.new key, role, 0, 0⟩

/-- Decryption under the scratch channel is expected to fail. -/
def scratch : Aes256GcmChannel α := new (.replicate 32 0) .initiator

/-- `role ‖ 0×3 ‖ ctr_be`. -/
def makeNonce (role : ChannelRole) (ctr : UInt64) : Bytes 12 :=
  ⟨role.byte :: 0 :: 0 :: 0 :: (toLE 8 ctr.toNat).reverse, by
    rw [List.length_cons, List.length_cons, List.length_cons, List.length_cons, List.length_reverse,
      length_toLE]⟩

def encryptFrame (plaintext : List UInt8) (outLen : Nat) :
    EStateM TransportError (Aes256GcmChannel α) (List UInt8) := fun ch =>
  let n := plaintext.length + aes256GcmTagLen
  if outLen < n then .error .bufferTooSmall ch
  else
    match AesGcm.encrypt ch.cipher (makeNonce ch.role ch.txNonce) plaintext with
    | none => .error .decryptionFailed ch
    | some ct =>
        if ct.length ≠ n then .error .decryptionFailed ch
        else if ch.txNonce.toNat + 1 < 2 ^ 64 then .ok ct { ch with txNonce := ch.txNonce + 1 }
        else .error .nonceExhausted ch

/-- `out[..pt.len()].copy_from_slice(&pt)`. -/
def fill {m n : Nat} (out : Bytes n) (pt : Bytes m) (h : m ≤ n) : Bytes n :=
  ⟨pt.toList ++ out.toList.drop m, by
    rw [List.length_append, List.length_drop, List.Vector.toList_length, List.Vector.toList_length]
    omega⟩

instance : SecureChannel (Aes256GcmChannel α) where
  decryptFrame {n} frame := fun (ch, out) =>
    if frame.length < aes256GcmTagLen then .error .decryptionFailed (ch, out)
    else if h : n < frame.length - aes256GcmTagLen then .error .bufferTooSmall (ch, out)
    else
      match AesGcm.decrypt ch.cipher (makeNonce ch.role.peer ch.rxNonce) frame with
      | none => .error .decryptionFailed (ch, out)
      | some pt =>
          let out := fill out pt (Nat.not_lt.mp h)
          if ch.rxNonce.toNat + 1 < 2 ^ 64 then
            .ok ⟨frame.length - aes256GcmTagLen, Nat.lt_succ_of_le (Nat.not_lt.mp h)⟩
              ({ ch with rxNonce := ch.rxNonce + 1 }, out)
          else .error .nonceExhausted (ch, out)

omit [AesGcm α] in
/-- Two states of one channel. -/
def SameKey (ch ch' : Aes256GcmChannel α) : Prop := ch'.cipher = ch.cipher ∧ ch'.role = ch.role

omit [AesGcm α] in
theorem SameKey.refl (ch : Aes256GcmChannel α) : ch.SameKey ch := ⟨rfl, rfl⟩

omit [AesGcm α] in
theorem SameKey.trans {a b d : Aes256GcmChannel α} (h : a.SameKey b) (h' : b.SameKey d) :
    a.SameKey d := ⟨h'.1.trans h.1, h'.2.trans h.2⟩

/-- The channel a result carries. -/
def channelOf {ε τ ρ : Type} : EStateM.Result ε τ ρ → τ
  | .ok _ t => t
  | .error _ t => t

theorem sameKey_encryptFrame (ch : Aes256GcmChannel α) (plaintext : List UInt8) (outLen : Nat) :
    ch.SameKey (channelOf (encryptFrame plaintext outLen ch)) := by
  unfold encryptFrame
  dsimp only
  split
  · exact .refl ch
  · split
    · exact .refl ch
    · split
      · exact .refl ch
      · split
        · exact ⟨rfl, rfl⟩
        · exact .refl ch

theorem sameKey_decryptFrame {n : Nat} (ch : Aes256GcmChannel α) (frame : List UInt8)
    (out : Bytes n) :
    ch.SameKey (channelOf (SecureChannel.decryptFrame frame (ch, out))).1 := by
  dsimp only [SecureChannel.decryptFrame]
  split
  · exact .refl ch
  · split
    · exact .refl ch
    · split
      · exact .refl ch
      · split
        · exact ⟨rfl, rfl⟩
        · exact .refl ch

end Aes256GcmChannel

/-- `SHA3-256("GOAT/v1/session\x01" ‖ shared_secret)`. -/
def deriveSessionKey (sharedSecret : Bytes mlKem768SharedSecretLen) : Bytes 32 :=
  sha3_256 (contextBytes "GOAT/v1/session" ++ sharedSecret.toList)

/-- The decapsulation key that an initiator keeps until the response. -/
structure EphemeralKem (δ : Type) where
  dk : δ
  ekBytes : Bytes mlKem768EncapsKeyLen

end GoatCoin
