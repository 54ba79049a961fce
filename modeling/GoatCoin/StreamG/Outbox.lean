/-
# `GoatCoin.StreamG.Outbox` — `outbox.rs`: reservations and the sweep

The signed transaction is stored with the slot it was signed against before it is sent, and a
reservation that has gone stale is resolved by what the chain says:

    reserveAndPersistRawTx     the slot and the attempt, in one transaction
    recordBroadcastAccepted    the hash that a node has returned
    claimStaleReservations     the rows whose lease has run out, under the name of the sweep
    resolveAgainstChain        the receipt, `intentUsed` at one block, the clock of the latest block
    applyResolutions           what becomes of the rows, in one transaction

Each function is one transaction, or (`resolveAgainstChain`) no transaction at all.
-/
import GoatCoin.StreamG.Tables

namespace GoatCoin.StreamG

open Evm Rows

/-- Why the outbox refuses. -/
inductive OutboxError where
  | store (detail : String)
  | intentNotFound
  | inFlight (attemptId : AttemptRowId)
  | alreadySubmitted (txHashHex : String)
  | nonceAlreadyReserved (chainId : Nat) (signer : Signer) (nonce : Nat)
    (holder : Option AttemptRowId)
  | outOfRange (value : Nat)
  | claimLost (attemptId : AttemptRowId)
deriving DecidableEq

/-! ## Reservation -/

structure ReservationRequest where
  profileId : String
  intentId : Bytes32
  chainId : Word 64
  controller : Address
  action : ActionType
  actionNonce : Word 64
  claimOwner : String
  leaseTtlSeconds : Int

structure ReservedAttempt where
  attemptId : AttemptRowId
  allocationId : AllocationRowId
  attemptNumber : Nat
  rawTxHashHex : String
  leaseUntil : Int
deriving DecidableEq

/-- `i64::try_from`. -/
def asI64 (n : Word 64) : Except OutboxError Nat :=
  if n.val < 2 ^ 63 then .ok n.val else .error (.outOfRange n.val)

def ReservationRequest.intentRow (req : ReservationRequest) : IntentRowId :=
  ⟨req.profileId, req.intentId⟩

def ReservationRequest.signerKey (req : ReservationRequest) : Signer :=
  .action req.controller req.action

def ReservationRequest.allocationId (req : ReservationRequest) : AllocationRowId :=
  ⟨.action, req.chainId.val, req.signerKey, req.actionNonce.val⟩

/-- The attempts of an intent, in their order: the number of the next one, unless one is live. -/
def scanAttempts : Nat → List TxAttempt → Except OutboxError Nat
  | next, [] => .ok next
  | next, a :: rest =>
      match a.status with
      | .submitted => .error (.alreadySubmitted (a.txHash.getD ""))
      | .confirmed => .error (.alreadySubmitted (a.txHash.getD ""))
      | .reserved => .error (.inFlight a.id)
      | .failed => scanAttempts (max next (min (a.attemptNumber + 1) (2 ^ 63 - 1))) rest

/-- An attempt that holds the slot. -/
def Db.holder (db : Db) (allocationId : AllocationRowId)
    (attemptId : AttemptRowId) : Option TxAttempt :=
  db.attempts.find? fun a => a.nonceAllocationId = some allocationId ∧ a.id ≠ attemptId
    ∧ (a.status = .reserved ∨ a.status = .submitted ∨ a.status = .confirmed)

/-- A slot that is not released is refused while another attempt holds it. -/
def checkHolder (db : Db) (req : ReservationRequest) (attemptId : AttemptRowId)
    (nonce chainId : Nat) (status : NonceStatus) : Except OutboxError Unit :=
  if status = .allocated ∨ status = .consumed then
    match db.holder req.allocationId attemptId with
    | some holder => .error (.nonceAlreadyReserved chainId req.signerKey nonce (some holder.id))
    | none => .ok ()
  else .ok ()

/-- The row of a slot that is new. -/
def ReservationRequest.allocation (req : ReservationRequest) (nonce chainId : Nat)
    (leaseUntil now : Int) :
    NonceAllocation :=
  ⟨req.allocationId, chainId, req.signerKey, nonce, .allocated, now, none, .action,
    some req.claimOwner, some leaseUntil⟩

/-- The row of a slot that is taken again. -/
def ReservationRequest.reallocate (req : ReservationRequest) (leaseUntil now : Int)
    (n : NonceAllocation) :
    NonceAllocation :=
  { n with status := .allocated, allocatedAt := now, releasedAt := none,
           claimOwner := some req.claimOwner, leaseUntil := some leaseUntil }

/-- Step (3): the slot is taken. -/
def claimActionNonce (db : Db) (req : ReservationRequest) (attemptId : AttemptRowId)
    (nonce chainId : Nat) (leaseUntil now : Int) : Except OutboxError (List NonceAllocation) :=
  let refusal := OutboxError.nonceAlreadyReserved chainId req.signerKey nonce none
  let touched := fun n : NonceAllocation => n.id = req.allocationId ∧ n.kind = .action
  match db.allocations.find? touched with
  | some n => do
      checkHolder db req attemptId nonce chainId n.status
      require (affected touched db.allocations = 1) refusal
      pure (setWhere touched (req.reallocate leaseUntil now) db.allocations)
  | none =>
      match insertOrIgnore NonceAllocation.clashes (req.allocation nonce chainId leaseUntil now)
        db.allocations with
      | some rows => .ok rows
      | none => .error refusal

/-- The row of an attempt. -/
def ReservationRequest.attempt (req : ReservationRequest) (signed : SignedRawTx)
    (number chainId : Nat) (leaseUntil now : Int) : TxAttempt :=
  { id := ⟨req.profileId, req.intentId, number⟩, intentId := req.intentRow,
    nonceAllocationId := some req.allocationId, chainId := chainId, txHash :=
    none, status := .reserved,
    rawTx := some signed.raw, rawTxHash := some signed.hashHex,
    intentIdHex := some (bytes32Hex req.intentId), errorMessage := none, createdAt := now,
    submittedAt := none, confirmedAt := none, attemptNumber := number, claimOwner :=
    some req.claimOwner,
    leaseUntil := some leaseUntil }

def reserveAndPersistRawTx (db : Db) (req : ReservationRequest) (signed : SignedRawTx) (now : Int) :
    Except OutboxError (Db × ReservedAttempt) := do
  let nonce ← asI64 req.actionNonce
  let chainId ← asI64 req.chainId
  let leaseUntil := saturatingAddI64 now req.leaseTtlSeconds
  match db.intents.find? fun i => i.id = req.intentRow with
  | none => .error .intentNotFound
  | some intent => do
      require (intent.profileId = req.profileId) .intentNotFound
      let attempts := (db.attempts.filter fun a => a.intentId = req.intentRow).mergeSort
        fun a b => a.attemptNumber ≤ b.attemptNumber
      let next ← scanAttempts 0 attempts
      let attemptId : AttemptRowId := ⟨req.profileId, req.intentId, next⟩
      let allocations ← claimActionNonce db req attemptId nonce chainId leaseUntil now
      match insertOrIgnore (fun a b : TxAttempt => a.id = b.id)
        (req.attempt signed next chainId leaseUntil now) db.attempts with
      | none => .error (.inFlight attemptId)
      | some rows =>
          .ok ({ db with attempts := rows, allocations := allocations },
            ⟨attemptId, req.allocationId, next, signed.hashHex, leaseUntil⟩)

theorem checkHolder_ok {db : Db} {req : ReservationRequest} {attemptId : AttemptRowId}
    {nonce chainId : Nat} {status : NonceStatus}
    (h : checkHolder db req attemptId nonce chainId status = .ok ()) :
    status = .released ∨ db.holder req.allocationId attemptId = none := by
  unfold checkHolder at h
  cases status with
  | released => exact .inl rfl
  | allocated =>
      rw [if_pos (.inl rfl)] at h
      split at h
      · cases h
      · rename_i hnone
        exact .inr hnone
  | consumed =>
      rw [if_pos (.inr rfl)] at h
      split at h
      · cases h
      · rename_i hnone
        exact .inr hnone

/-- **How a slot is taken**: again, as it was released or nobody holds it, or for the first time. -/
theorem claimActionNonce_ok {db : Db} {req : ReservationRequest} {attemptId : AttemptRowId}
    {nonce chainId : Nat} {leaseUntil now : Int} {rows : List NonceAllocation}
    (h : claimActionNonce db req attemptId nonce chainId leaseUntil now = .ok rows) :
    (∃ n ∈ db.allocations, n.id = req.allocationId ∧ n.kind = .action
        ∧ (n.status = .released ∨ db.holder req.allocationId attemptId = none)
        ∧ rows = setWhere (fun m => m.id = req.allocationId ∧ m.kind = .action)
          (req.reallocate leaseUntil now) db.allocations)
      ∨ (∀ n ∈ db.allocations, ¬ n.clashes (req.allocation nonce chainId leaseUntil now))
        ∧ rows = db.allocations ++ [req.allocation nonce chainId leaseUntil now] := by
  unfold claimActionNonce at h
  dsimp only at h
  split at h
  · rename_i n hn
    obtain ⟨_, hholder, _, -, h⟩ := bind_ok₂.mp h
    cases h
    have hp := List.find?_some hn
    obtain ⟨hid, hkind⟩ := of_decide_eq_true hp
    exact .inl ⟨n, List.mem_of_find?_eq_some hn, hid, hkind, checkHolder_ok hholder, rfl⟩
  · split at h
    · rename_i rows' hinsert
      cases h
      exact .inr (insertOrIgnore_some.mp hinsert)
    · cases h

theorem asI64_ok {n : Word 64} {m : Nat} (h : asI64 n = .ok m) : m = n.val := by
  unfold asI64 at h
  split at h
  · exact (Except.ok.inj h).symm
  · cases h

/-- What a reservation has written. -/
structure Reserves (db db' : Db) (req : ReservationRequest) (signed : SignedRawTx) (now : Int)
    (number : Nat) : Prop where
  intents : db'.intents = db.intents
  owned : ∃ i ∈ db.intents, i.id = req.intentRow ∧ i.profileId = req.profileId
  idle : scanAttempts 0 ((db.attempts.filter fun a => a.intentId = req.intentRow).mergeSort
    fun a b => a.attemptNumber ≤ b.attemptNumber) = .ok number
  fresh : ∀ a ∈ db.attempts, a.id ≠ ⟨req.profileId, req.intentId, number⟩
  attempts : db'.attempts = db.attempts
    ++ [req.attempt signed number req.chainId.val (saturatingAddI64 now req.leaseTtlSeconds) now]
  slot : claimActionNonce db req ⟨req.profileId, req.intentId, number⟩
    req.actionNonce.val req.chainId.val
    (saturatingAddI64 now req.leaseTtlSeconds) now = .ok db'.allocations

theorem reserves_of_ok {db db' : Db} {req : ReservationRequest} {signed : SignedRawTx} {now : Int}
    {attempt : ReservedAttempt}
    (h : reserveAndPersistRawTx db req signed now = .ok (db', attempt)) :
    Reserves db db' req signed now attempt.attemptNumber := by
  obtain ⟨nonce, hnonce, chainId, hchain, h⟩ := bind_ok₂.mp h
  have hnonce := asI64_ok hnonce
  have hchain := asI64_ok hchain
  subst hnonce hchain
  dsimp only at h
  split at h
  · cases h
  · rename_i intent hintent
    obtain ⟨_, howner, number, hscan, rows, hrows, h⟩ := bind_ok₃.mp h
    split at h
    · cases h
    · rename_i attempts hinsert
      cases h
      obtain ⟨hfresh, hattempts⟩ := insertOrIgnore_some.mp hinsert
      have hfound := List.find?_some hintent
      have hid : intent.id = req.intentRow := of_decide_eq_true hfound
      exact ⟨rfl, ⟨intent, List.mem_of_find?_eq_some hintent, hid, require_ok.mp howner⟩,
        hscan, hfresh, hattempts, hrows⟩

/-! ## What a node has accepted -/

/-- A reservation under a claim. -/
def TxAttempt.ClaimedBy (a : TxAttempt) (id : AttemptRowId) (owner : String) : Prop :=
  a.id = id ∧ a.status = .reserved ∧ a.claimOwner = some owner

instance (a : TxAttempt) (id : AttemptRowId) (owner : String) : Decidable (a.ClaimedBy id owner) :=
  inferInstanceAs (Decidable (_ ∧ _ ∧ _))

def recordBroadcastAccepted (db : Db) (claimOwner : String) (attemptId : AttemptRowId)
    (txHash : Bytes32) (now : Int) : Except OutboxError Db := do
  let touched := fun a : TxAttempt => a.ClaimedBy attemptId claimOwner
  require (affected touched db.attempts = 1) (.claimLost attemptId)
  require (¬ db.HashTaken attemptId (bytes32Hex txHash))
    (.store "UNIQUE constraint failed: tx_attempts.tx_hash")
  let attempts := setWhere touched
    (fun a =>
      { a with status := .submitted, txHash := some (bytes32Hex txHash), submittedAt := some now,
                       claimOwner := none, leaseUntil := none }) db.attempts
  let intents := setWhere (fun i => ∃ a ∈ attempts, a.id = attemptId ∧ a.intentId = i.id)
    (fun i => { i with status := .submitted }) db.intents
  pure { db with attempts := attempts, intents := intents }

/-! ## The sweep -/

structure SweepPolicy where
  claimOwner : String
  leaseTtlSeconds : Int
  maxRows : Int
  gateway : Address

structure ClaimedAttempt where
  attemptId : AttemptRowId
  allocationId : Option AllocationRowId
  profileId : String
  rawTxHash : Option String
  intentIdHex : Option String
  intentExpiresAt : Option Int
deriving DecidableEq

/-- What became of an attempt. -/
inductive Resolution where
  | minedOurs (txHashHex : String)
  | executedExternally
  | safeToRelease (reason : String)
  | holdIntentStillValid
  | stuck (reason : String)
deriving DecidableEq

/-- A reservation whose lease has run out. -/
def TxAttempt.Stale (a : TxAttempt) (now : Int) : Prop :=
  a.status = .reserved ∧ ∃ lease ∈ a.leaseUntil, lease < now

instance (a : TxAttempt) (now : Int) : Decidable (a.Stale now) :=
  match h : a.leaseUntil with
  | none => .isFalse fun hstale => by
      obtain ⟨-, lease, hlease, -⟩ := hstale
      rw [h] at hlease
      cases hlease
  | some lease => decidable_of_iff (a.status = .reserved ∧ lease < now) (by
      rw [TxAttempt.Stale, h]
      simp)

/-- `LIMIT ?`: a negative limit is none. -/
def limitRows {α : Type} (limit : Int) (rows : List α) : List α :=
  if limit < 0 then rows else rows.take limit.toNat

/-- An attempt joined with its intent. -/
def Db.joined (db : Db) (a : TxAttempt) : Option (TxAttempt × IntentRow) :=
  (db.intents.find? fun i => i.id = a.intentId).map (a, ·)

/-- One row of the sweep is put under its claim. -/
def claimRow (policy : SweepPolicy) (now : Int) (state : List TxAttempt × List ClaimedAttempt)
    (row : TxAttempt × IntentRow) : List TxAttempt × List ClaimedAttempt :=
  let touched := fun a : TxAttempt => a.id = row.1.id ∧ a.Stale now
  if affected touched state.1 = 1 then
    (setWhere touched
      (fun a => { a with claimOwner := some policy.claimOwner,
                         leaseUntil := some (saturatingAddI64 now policy.leaseTtlSeconds) })
                           state.1,
      state.2 ++
      [⟨row.1.id, row.1.nonceAllocationId, row.2.profileId, row.1.rawTxHash, row.1.intentIdHex,
        row.2.expiresAt⟩])
  else state

def claimStaleReservations (db : Db) (policy : SweepPolicy) (now : Int) :
    Db × List ClaimedAttempt :=
  let stale := (db.attempts.filter fun a => a.Stale now).filterMap db.joined
  let rows := limitRows policy.maxRows
    (stale.mergeSort fun x y => x.1.leaseUntil.getD 0 ≤ y.1.leaseUntil.getD 0)
  let (attempts, claimed) := rows.foldl (claimRow policy now) (db.attempts, [])
  ({ db with attempts := attempts }, claimed)

/-! ## What the chain says -/

structure TxReceiptView where
  txHash : Bytes32
  blockNumber : Nat
  blockHash : Bytes32
  success : Bool

/-- The answers that one resolution may ask for, each an error or what the node has said. -/
structure ChainClient where
  transactionReceipt : Bytes32 → Except String (Option TxReceiptView)
  pinnedBlockNumber : Except String Nat
  intentUsed : Address → Bytes32 → Nat → Except String Bool
  blockTimestamp : Except String Nat

/-- Step (c): nothing was consumed, and the clock of the chain decides. -/
def resolveByClock (client : ChainClient) (row : ClaimedAttempt) : Resolution :=
  match row.intentExpiresAt with
  | none => .stuck "intent has no expires_at: cannot evaluate the chain-time guard"
  | some expiresAt =>
      match client.blockTimestamp with
      | .error e => .stuck s!"block_timestamp failed: {e}"
      | .ok chainNow =>
          if chainNow = 0 then
            .stuck "block_timestamp() returned 0, which ChainClient documents as \"unknown\""
          else
            let chainNowI64 : Int := min chainNow (2 ^ 63 - 1)
            if chainNowI64 < expiresAt then .holdIntentStillValid
            else .safeToRelease
              s!"chain proves intentUsed=false and the intent expired at {expiresAt} (chain time {chainNowI64})"

/-- Step (b): did the intent land, by whosever hand? -/
def resolveByIntent (client : ChainClient) (gateway : Address)
    (row : ClaimedAttempt) : Resolution :=
  match row.intentIdHex with
  | none => .stuck "no intent_id_hex on this attempt: cannot ask intentUsed(intentId)"
  | some intentIdHex =>
      match parseBytes32 intentIdHex with
      | none => .stuck s!"intent_id_hex {repr intentIdHex} is not a 32-byte hex string"
      | some intentId =>
          match client.pinnedBlockNumber with
          | .error e => .stuck s!"pinned_block_number failed: {e}"
          | .ok block =>
              match client.intentUsed gateway intentId block with
              | .error e => .stuck s!"intent_used failed: {e}"
              | .ok true => .executedExternally
              | .ok false => resolveByClock client row

def resolveAgainstChain (client : ChainClient) (gateway : Address)
    (row : ClaimedAttempt) : Resolution :=
  match row.rawTxHash with
  | none => resolveByIntent client gateway row
  | some rawHashHex =>
      match parseBytes32 rawHashHex with
      | none => .stuck s!"raw_tx_hash {repr rawHashHex} is not a 32-byte hex string"
      | some rawHash =>
          match client.transactionReceipt rawHash with
          | .error e => .stuck s!"transaction_receipt failed: {e}"
          | .ok (some receipt) =>
              if receipt.success then .minedOurs (bytes32Hex receipt.txHash)
              else resolveByIntent client gateway row
          | .ok none => resolveByIntent client gateway row

/-! ## What becomes of the rows -/

/-- What the sweep did with one row. -/
inductive RowOutcome where
  | executed
  | released
  | heldIntentStillValid
  | stuck (reason : String)
  | lost
deriving DecidableEq

/-- The columns that a resolution sets. -/
structure AttemptUpdate where
  status : AttemptStatus
  txHash : Option String
  submittedAt : Option Int
  confirmedAt : Option Int
  errorMessage : Option String

/-- `update_attempt`'s three guards: reserved, claimed by this sweep, and still of its profile. -/
def Db.Updatable (db : Db) (row : ClaimedAttempt) (claimOwner : String) (a : TxAttempt) : Prop :=
  a.ClaimedBy row.attemptId claimOwner ∧ ∃ i ∈ db.intents, i.id = a.intentId
    ∧ i.profileId = row.profileId

instance (db : Db) (row : ClaimedAttempt) (claimOwner : String) (a : TxAttempt) :
    Decidable (db.Updatable row claimOwner a) :=
  inferInstanceAs (Decidable (_ ∧ ∃ i ∈ db.intents, _ ∧ _))

def AttemptUpdate.on (u : AttemptUpdate) (a : TxAttempt) : TxAttempt :=
  { a with status := u.status, txHash := u.txHash.or a.txHash,
           submittedAt := u.submittedAt.or a.submittedAt,
           confirmedAt := u.confirmedAt.or a.confirmedAt, errorMessage := u.errorMessage,
           claimOwner := none, leaseUntil := none }

/-- The row is still there to be updated. -/
def Db.Owns (db : Db) (row : ClaimedAttempt) (claimOwner : String) : Prop :=
  affected (db.Updatable row claimOwner) db.attempts = 1

instance (db : Db) (row : ClaimedAttempt) (claimOwner : String) :
    Decidable (db.Owns row claimOwner) :=
  inferInstanceAs (Decidable (_ = _))

/-- `UNIQUE … ON tx_attempts(tx_hash)`, for the hash that an update sets. -/
def checkHash (db : Db) (attemptId : AttemptRowId) (txHash : Option String) :
    Except OutboxError Unit :=
  match txHash with
  | none => .ok ()
  | some txHash =>
      require (¬ db.HashTaken attemptId txHash)
        (.store "UNIQUE constraint failed: tx_attempts.tx_hash")

/-- The new table of attempts, if the row was still there to be updated. -/
def updateAttempt (db : Db) (row : ClaimedAttempt) (claimOwner : String) (u : AttemptUpdate) :
    Except OutboxError (Option Db) := do
  if db.Owns row claimOwner then
    checkHash db row.attemptId u.txHash
    pure (some { db with attempts := setWhere (db.Updatable row claimOwner) u.on db.attempts })
  else pure none

/-- A slot gets a status, and nobody's claim. -/
def setNonce (db : Db) (allocationId : Option AllocationRowId) (status : NonceStatus)
    (releasedAt : Option Int) : Db :=
  match allocationId with
  | none => db
  | some id =>
      let allocations := setWhere (fun n => n.id = id ∧ n.kind = .action)
        (fun n => { n with status := status, releasedAt := releasedAt, claimOwner := none,
                           leaseUntil := none }) db.allocations
      { db with allocations := allocations }

/-- The nonce is used up. -/
def consumeNonce (db : Db) (allocationId : Option AllocationRowId) : Db :=
  setNonce db allocationId .consumed none

def deferAttempt (db : Db) (attemptId : AttemptRowId) (claimOwner : String)
    (nextLease : Int) : Db :=
  let attempts := setWhere (fun a => a.ClaimedBy attemptId claimOwner)
    (fun a => { a with claimOwner := none, leaseUntil := some nextLease }) db.attempts
  { db with attempts := attempts }

/-- Writes down what was found. -/
def applyResolution (policy : SweepPolicy) (now : Int) (db : Db) (row : ClaimedAttempt)
    (resolution : Resolution) : Except OutboxError (Db × RowOutcome) :=
  let deferredLease := saturatingAddI64 now policy.leaseTtlSeconds
  match resolution with
  | .minedOurs txHashHex => do
      match ← updateAttempt db row policy.claimOwner ⟨.submitted, some txHashHex, some now,
        none, none⟩ with
      | some db => pure (consumeNonce db row.allocationId, .executed)
      | none => pure (db, .lost)
  | .executedExternally => do
      match ← updateAttempt db row policy.claimOwner ⟨.confirmed, none, none, some now,
        some "intentUsed(intentId) is true; this intent executed on chain under a transaction hash this attestor does not know (external fulfillment). Not rebroadcast."⟩ with
      | some db => pure (consumeNonce db row.allocationId, .executed)
      | none => pure (db, .lost)
  | .safeToRelease reason => do
      match ← updateAttempt db row policy.claimOwner ⟨.failed, none, none, none, some reason⟩ with
      | some db => pure (setNonce db row.allocationId .released (some now), .released)
      | none => pure (db, .lost)
  | .holdIntentStillValid =>
      .ok (deferAttempt db row.attemptId policy.claimOwner deferredLease, .heldIntentStillValid)
  | .stuck reason =>
      .ok (deferAttempt db row.attemptId policy.claimOwner deferredLease, .stuck reason)

variable {db db' : Db} {row : ClaimedAttempt} {resolution : Resolution} {policy : SweepPolicy}
  {now : Int} {outcome : RowOutcome}

theorem updateAttempt_ok {claimOwner : String} {u : AttemptUpdate}
    {r : Option Db} (h : updateAttempt db row claimOwner u = .ok r) :
    (db.Owns row claimOwner
        ∧ r = some { db with attempts := setWhere (db.Updatable row claimOwner) u.on db.attempts })
      ∨ (¬ db.Owns row claimOwner ∧ r = none) := by
  unfold updateAttempt at h
  split at h
  · rename_i howns
    obtain ⟨_, -, h⟩ := bind_ok.mp h
    cases h
    exact .inl ⟨howns, rfl⟩
  · rename_i hlost
    cases h
    exact .inr ⟨hlost, rfl⟩

/-- **What applying a resolution does**: the row is settled, with its slot, or it was lost to
another, or it goes back to waiting. -/
inductive Applies (policy : SweepPolicy) (now : Int) (db : Db) (row : ClaimedAttempt) :
    Resolution → Db → RowOutcome → Prop where
  | executes {resolution : Resolution} (u : AttemptUpdate) (owns : db.Owns row policy.claimOwner)
      (status : u.status = .submitted ∨ u.status = .confirmed)
      (kind : (∃ txHashHex, resolution = .minedOurs txHashHex) ∨ resolution = .executedExternally) :
      Applies policy now db row resolution
        (consumeNonce
          { db with attempts := setWhere (db.Updatable row policy.claimOwner) u.on db.attempts }
          row.allocationId) .executed
  | releases (u : AttemptUpdate) (reason : String) (owns : db.Owns row policy.claimOwner)
      (status : u.status = .failed) :
      Applies policy now db row (.safeToRelease reason)
        (setNonce
          { db with attempts := setWhere (db.Updatable row policy.claimOwner) u.on db.attempts }
          row.allocationId .released (some now)) .released
  | loses {resolution : Resolution} (lost : ¬ db.Owns row policy.claimOwner) :
      Applies policy now db row resolution db .lost
  | holds : Applies policy now db row .holdIntentStillValid
      (deferAttempt db row.attemptId policy.claimOwner
        (saturatingAddI64 now policy.leaseTtlSeconds))
      .heldIntentStillValid
  | sticks (reason : String) : Applies policy now db row (.stuck reason)
      (deferAttempt db row.attemptId policy.claimOwner
        (saturatingAddI64 now policy.leaseTtlSeconds))
      (.stuck reason)

theorem applies_of_ok
    (h : applyResolution policy now db row resolution = .ok (db', outcome)) :
    Applies policy now db row resolution db' outcome := by
  cases resolution with
  | minedOurs txHashHex =>
      obtain ⟨r, hupdate, h⟩ := bind_ok.mp h
      rcases updateAttempt_ok hupdate with ⟨howns, rfl⟩ | ⟨hlost, rfl⟩
      · cases h
        exact .executes _ howns (.inl rfl) (.inl ⟨txHashHex, rfl⟩)
      · cases h
        exact .loses hlost
  | executedExternally =>
      obtain ⟨r, hupdate, h⟩ := bind_ok.mp h
      rcases updateAttempt_ok hupdate with ⟨howns, rfl⟩ | ⟨hlost, rfl⟩
      · cases h
        exact .executes _ howns (.inr rfl) (.inr rfl)
      · cases h
        exact .loses hlost
  | safeToRelease reason =>
      obtain ⟨r, hupdate, h⟩ := bind_ok.mp h
      rcases updateAttempt_ok hupdate with ⟨howns, rfl⟩ | ⟨hlost, rfl⟩
      · cases h
        exact .releases _ reason howns rfl
      · cases h
        exact .loses hlost
  | holdIntentStillValid =>
      cases h
      exact .holds
  | stuck reason =>
      cases h
      exact .sticks reason

theorem Applies.released_iff
    (h : Applies policy now db row resolution db' outcome) :
    outcome = .released
    ↔ (∃ reason, resolution = .safeToRelease reason) ∧ db.Owns row policy.claimOwner := by
  cases h with
  | executes u owns status kind =>
      refine ⟨nofun, ?_⟩
      rintro ⟨⟨reason, rfl⟩, -⟩
      rcases kind with ⟨_, heq⟩ | heq
      · cases heq
      · cases heq
  | releases u reason owns status => exact ⟨fun _ => ⟨⟨reason, rfl⟩, owns⟩, fun _ => rfl⟩
  | loses lost => exact ⟨nofun, fun h => absurd h.2 lost⟩
  | holds => exact ⟨nofun, fun ⟨⟨_, heq⟩, _⟩ => nomatch heq⟩
  | sticks reason => exact ⟨nofun, fun ⟨⟨_, heq⟩, _⟩ => nomatch heq⟩

/-- A row's turn touches no other attempt, and no slot but its own. -/
structure OnlyRow (db db' : Db) (row : ClaimedAttempt) : Prop where
  intents : db'.intents = db.intents
  owns : ∀ (other : ClaimedAttempt) (owner : String), other.attemptId ≠ row.attemptId →
    (db'.Owns other owner ↔ db.Owns other owner)
  attempts : ∀ a ∈ db.attempts, a.id ≠ row.attemptId → a ∈ db'.attempts
  slots : ∀ n ∈ db.allocations, row.allocationId ≠ some n.id → n ∈ db'.allocations

theorem onlyRow_of_setWhere {p : TxAttempt → Prop} [DecidablePred p]
    {f : TxAttempt → TxAttempt} (hintents : db'.intents = db.intents)
    (hattempts : db'.attempts = setWhere p f db.attempts) (hp : ∀ a, p a → a.id = row.attemptId)
    (hf : ∀ a, (f a).id = a.id)
    (hslots : ∀ n ∈ db.allocations, row.allocationId ≠ some n.id → n ∈ db'.allocations) :
    OnlyRow db db' row := by
  obtain ⟨intents, attempts, allocations⟩ := db'
  dsimp only at hintents hattempts
  subst hintents hattempts
  refine ⟨rfl, fun other owner hne => ?_, fun a ha hne => ?_, hslots⟩
  · show affected (db.Updatable other owner) (setWhere p f db.attempts) = 1
      ↔ affected (db.Updatable other owner) db.attempts = 1
    refine iff_of_eq (congrArg (· = 1) (affected_setWhere fun a ha => ?_))
    have hother : ∀ b : TxAttempt, b.id = row.attemptId → ¬ b.ClaimedBy other.attemptId owner :=
      fun b hb hclaimed => hne (hclaimed.1.symm.trans hb)
    exact ⟨fun h => hother a (hp a ha) h.1, fun h => hother (f a) ((hf a).trans (hp a ha)) h.1⟩
  · exact mem_setWhere.mpr ⟨a, ha, (if_neg fun h => hne (hp a h)).symm⟩

theorem mem_setNonce {allocationId : Option AllocationRowId} {status : NonceStatus}
    {releasedAt : Option Int} {n : NonceAllocation} (hn : n ∈ db.allocations)
    (hne : allocationId ≠ some n.id) :
    n ∈ (setNonce db allocationId status releasedAt).allocations := by
  unfold setNonce
  split
  · exact hn
  · exact mem_setWhere.mpr ⟨n, hn, (if_neg fun h => hne (congrArg some h.1.symm)).symm⟩

theorem setNonce_attempts (db : Db) (allocationId : Option AllocationRowId) (status : NonceStatus)
    (releasedAt : Option Int) :
    (setNonce db allocationId status releasedAt).attempts = db.attempts := by
  unfold setNonce
  split
  · rfl
  · rfl

theorem setNonce_intents (db : Db) (allocationId : Option AllocationRowId) (status : NonceStatus)
    (releasedAt : Option Int) :
    (setNonce db allocationId status releasedAt).intents = db.intents := by
  unfold setNonce
  split
  · rfl
  · rfl

theorem Applies.onlyRow
    (h : Applies policy now db row resolution db' outcome) : OnlyRow db db' row := by
  cases h with
  | executes u owns status kind =>
      refine onlyRow_of_setWhere (setNonce_intents _ _ _ _) (setNonce_attempts _ _ _ _)
        (fun a ha => ha.1.1) (fun a => rfl) fun n hn hne => mem_setNonce hn hne
  | releases u reason owns status =>
      refine onlyRow_of_setWhere (setNonce_intents _ _ _ _) (setNonce_attempts _ _ _ _)
        (fun a ha => ha.1.1) (fun a => rfl) fun n hn hne => mem_setNonce hn hne
  | loses lost => exact ⟨rfl, fun _ _ _ => Iff.rfl, fun a ha _ => ha, fun n hn _ => hn⟩
  | holds => exact onlyRow_of_setWhere rfl rfl (fun a ha => ha.1) (fun a => rfl) fun n hn _ => hn
  | sticks reason =>
      exact onlyRow_of_setWhere rfl rfl (fun a ha => ha.1) (fun a => rfl) fun n hn _ => hn

/-- The rows of a sweep, one after another in one transaction. -/
def applyResolutions (policy : SweepPolicy) (now : Int) : Db → List (ClaimedAttempt × Resolution) →
    Except OutboxError (Db × List (ClaimedAttempt × RowOutcome))
  | db, [] => .ok (db, [])
  | db, (row, resolution) :: rest => do
      let (db, outcome) ← applyResolution policy now db row resolution
      let (db, outcomes) ← applyResolutions policy now db rest
      pure (db, (row, outcome) :: outcomes)

end GoatCoin.StreamG
