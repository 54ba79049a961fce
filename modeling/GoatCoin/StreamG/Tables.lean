/-
# `GoatCoin.StreamG.Tables` — the rows of the submit outbox

Three tables of `migrations/0001_stream_g.sql` and `0002_stream_g_outbox.sql`:

    intents             who has quoted an intent, and until when it is valid
    tx_attempts         the signed transactions for it, one row for each attempt
    nonce_allocations   the slots: nonces of an action (of a controller) and of the broadcasting account

An id is the SHA-256 of its parts behind a domain of its own; here it is the parts, so two ids are
equal if their parts are.  A key of `signer_address` is read the same way: the text of a controller
and an action, or of a bare account.  `raw_tx_enc` stands for what it seals.
-/
import GoatCoin.Lib.Rows
import GoatCoin.Attestor.Receipt

namespace GoatCoin.StreamG

open Evm

/-! ## Columns -/

inductive ActionType where
  | sponsoredEnrollment
  | sponsoredSell
  | goatTransfer
  | usdtTransfer
  | proxyClaim
  | proxyProposeBatch
  | proxyChallengeBatch
deriving DecidableEq

/-- `signer_address`: `action_nonce_signer_key`, or a bare account. -/
inductive Signer where
  | action (controller : Address) (action : ActionType)
  | account (broadcaster : Address)
deriving DecidableEq

/-- Whose nonce it is. -/
inductive NonceKind where
  | action
  | broadcaster
deriving DecidableEq

/-- Where a nonce stands. -/
inductive NonceStatus where
  | allocated
  | consumed
  | released
deriving DecidableEq

/-- Where an attempt stands. -/
inductive AttemptStatus where
  | reserved
  | submitted
  | confirmed
  | failed
deriving DecidableEq

/-- Where an intent stands. -/
inductive IntentStatus where
  | pending
  | submitted
  | executed
deriving DecidableEq

/-- `intent_row_id`. -/
structure IntentRowId where
  profileId : String
  intentId : Bytes32
deriving DecidableEq

/-- `tx_attempt_row_id`. -/
structure AttemptRowId where
  profileId : String
  intentId : Bytes32
  attemptNumber : Nat
deriving DecidableEq

/-- `nonce_allocation_row_id` and `broadcaster_nonce_row_id`, each with its own domain. -/
structure AllocationRowId where
  domain : NonceKind
  chainId : Nat
  signer : Signer
  nonce : Nat
deriving DecidableEq

/-! ## Rows -/

/-- A row of the intents. -/
structure IntentRow where
  id : IntentRowId
  profileId : String
  status : IntentStatus
  expiresAt : Option Int
deriving DecidableEq

/-- A row of the nonces. -/
structure NonceAllocation where
  id : AllocationRowId
  chainId : Nat
  signerAddress : Signer
  nonce : Nat
  status : NonceStatus
  allocatedAt : Int
  releasedAt : Option Int
  kind : NonceKind
  claimOwner : Option String
  leaseUntil : Option Int
deriving DecidableEq

/-- A row of the attempts. -/
structure TxAttempt where
  id : AttemptRowId
  intentId : IntentRowId
  nonceAllocationId : Option AllocationRowId
  chainId : Nat
  txHash : Option String
  status : AttemptStatus
  rawTx : Option (List UInt8)
  rawTxHash : Option String
  intentIdHex : Option String
  errorMessage : Option String
  createdAt : Int
  submittedAt : Option Int
  confirmedAt : Option Int
  attemptNumber : Nat
  claimOwner : Option String
  leaseUntil : Option Int
deriving DecidableEq

/-- The tables of the outbox. -/
structure Db where
  intents : List IntentRow
  attempts : List TxAttempt
  allocations : List NonceAllocation

/-- The primary key, and `UNIQUE (chain_id, signer_address, nonce)`. -/
def NonceAllocation.clashes (a b : NonceAllocation) : Prop :=
  a.id = b.id ∨ a.chainId = b.chainId ∧ a.signerAddress = b.signerAddress ∧ a.nonce = b.nonce

instance : DecidableRel NonceAllocation.clashes :=
  fun _ _ => inferInstanceAs (Decidable (_ ∨ _ ∧ _ ∧ _))

/-- An attempt whose transaction may still be on its way. -/
def TxAttempt.Live (a : TxAttempt) : Prop := a.status = .reserved ∨ a.status = .submitted

instance (a : TxAttempt) : Decidable a.Live := inferInstanceAs (Decidable (_ ∨ _))

/-- `UNIQUE … ON tx_attempts(tx_hash)`: another attempt has the hash. -/
def Db.HashTaken (db : Db) (id : AttemptRowId) (txHash : String) : Prop :=
  ∃ a ∈ db.attempts, a.id ≠ id ∧ a.txHash = some txHash

instance (db : Db) (id : AttemptRowId) (txHash : String) : Decidable (db.HashTaken id txHash) :=
  inferInstanceAs (Decidable (∃ a ∈ db.attempts, _ ∧ _))

/-! ## Texts -/

/-- `White_Space`, which `trim` removes. -/
def isSpace (c : Char) : Bool :=
  let n := c.toNat
  (9 ≤ n && n ≤ 13) || n = 32 || n = 133 || n = 160 || n
    = 5760 || (8192 ≤ n && n ≤ 8202) || n = 8232 || n = 8233 || n = 8239 || n = 8287 || n = 12288

/-- `trim`, and one `0x` or `0X`. -/
def bareHex (text : String) : List Char :=
  let trimmed := ((text.toList.dropWhile isSpace).reverse.dropWhile isSpace).reverse
  match trimmed with
  | '0' :: 'x' :: rest => rest
  | '0' :: 'X' :: rest => rest
  | rest => rest

def parseBytes32 (text : String) : Option Bytes32 :=
  if (bareHex text).length = 64 then (Hex.decode (bareHex text)).map wordOfBytes else none

/-- `hash_eq` and `signature_eq`. -/
def hashEq (a b : String) : Bool :=
  (bareHex a).map Char.toLower = (bareHex b).map Char.toLower

/-- `bytes32_hex`. -/
def bytes32Hex (b : Bytes32) : String := Attestor.hex32 b

/-- `i64::saturating_add`. -/
def saturatingAddI64 (a b : Int) : Int := max (-(2 ^ 63)) (min (a + b) (2 ^ 63 - 1))

/-! ## The signed payload -/

/-- `SignedRawTx`: the hash is that of the bytes. -/
structure SignedRawTx where
  raw : List UInt8
  gasLimit : Nat
  maxFeePerGas : Nat
deriving DecidableEq

def SignedRawTx.hash (t : SignedRawTx) : Bytes32 := keccak256 t.raw

def SignedRawTx.hashHex (t : SignedRawTx) : String := bytes32Hex t.hash

end GoatCoin.StreamG
