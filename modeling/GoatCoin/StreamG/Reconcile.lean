/-
# `GoatCoin.StreamG.Reconcile` — `reconcile.rs`: what an observed log does to the outbox

A log carries the id of an intent, and any number of attempts of any number of profiles may have it:
they are its candidates, read once.  What follows is decided by the log and the chain:

    removed               every candidate that was confirmed is submitted again       (applyReorg)
    no receipt, not deep  nothing is written
    one candidate's hash  it gets the hash, and is folded into the ledger             (promote, fold)
    nobody's hash         every candidate is confirmed, and its slot settled          (applyExternalFulfillment)

The candidates are as they were read; by the time a transaction runs, their rows may have moved on.
`deterministic_id` orders the candidates of the source: here they come in any order.
-/
import GoatCoin.StreamG.Outbox

namespace GoatCoin.StreamG

open Evm Rows

/-- A log of the gateway. -/
structure ExecutedLog where
  intentId : Bytes32
  controller : Address
  txHash : Bytes32
  blockNumber : Nat
  blockHash : Bytes32
  logIndex : Nat
  removed : Bool

inductive ReconcileError where
  | store (detail : String)
  | chain (detail : String)
  | uncorroboratedLog (reason : String)
  | contradictedLog (reason : String)
  | ambiguousCandidates (count : Nat) (txHashHex : String)
  | intentNotFound
  | reconcileMismatch (field : String)
  | reconcileUnverifiable (attemptId : Option AttemptRowId) (reason : String)
deriving DecidableEq

/-! ## The candidates -/

structure AttemptCandidate where
  attemptId : AttemptRowId
  profileId : String
  intentRowId : IntentRowId
  allocationId : Option AllocationRowId
  signerAddress : Option Signer
  status : AttemptStatus
  txHash : Option String
  rawTxHash : Option String
deriving DecidableEq

def AttemptCandidate.claimsTxHash (c : AttemptCandidate) (txHashHex : String) : Bool :=
  (c.txHash.toList ++ c.rawTxHash.toList).any (hashEq · txHashHex)

/-- `LEFT JOIN nonce_allocations n ON n.id = a.nonce_allocation_id AND n.kind = ?`. -/
def Db.signerOf (db : Db) (a : TxAttempt) : Option Signer :=
  (db.allocations.find? fun n => some n.id = a.nonceAllocationId ∧ n.kind = .action).map
    (·.signerAddress)

/-- An attempt as the reverse lookup reads it. -/
def Db.candidate (db : Db) (row : TxAttempt × IntentRow) : AttemptCandidate :=
  ⟨row.1.id, row.2.profileId, row.1.intentId, row.1.nonceAllocationId,
    db.signerOf row.1, row.1.status, row.1.txHash, row.1.rawTxHash⟩

/-- The attempts of an intent. -/
def candidatesForIntentId (db : Db) (intentId : Bytes32) : List AttemptCandidate :=
  ((db.attempts.filter fun a => a.intentIdHex = some (bytes32Hex intentId)).filterMap db.joined).map
    db.candidate

def disambiguateByTxHash (candidates : List AttemptCandidate) (txHash : Bytes32) :
    Except ReconcileError (Option AttemptCandidate) :=
  match candidates.filter (·.claimsTxHash (bytes32Hex txHash)) with
  | [] => .ok none
  | [c] => .ok (some c)
  | c :: d :: rest => .error (.ambiguousCandidates (c :: d :: rest).length (bytes32Hex txHash))

/-! ## Corroboration -/

/-- `FinalityPolicy`: the block of the log is its first confirmation. -/
structure FinalityPolicy where
  confirmations : Nat

def FinalityPolicy.depth (logBlock head : Nat) : Option Nat :=
  if logBlock ≤ head then some (head - logBlock + 1) else none

def FinalityPolicy.isFinal (p : FinalityPolicy) (logBlock head : Nat) : Bool :=
  (FinalityPolicy.depth logBlock head).any (p.confirmations ≤ ·)

/-- What the chain has answered about a log. -/
structure LogAnswers where
  receipt : Except String (Option TxReceiptView)
  head : Except String Nat

/-- The receipt is there, in the block of the log, and has succeeded; is it deep enough? -/
def corroborate (policy : FinalityPolicy) (log : ExecutedLog) (answers : LogAnswers) :
    Except ReconcileError Bool :=
  let txHashHex := bytes32Hex log.txHash
  match answers.receipt with
  | .error e => .error (.chain s!"transaction_receipt({txHashHex}): {e}")
  | .ok none =>
      .error (.uncorroboratedLog
        s!"no receipt for {txHashHex} yet; this node has not indexed it (a replica behind the one that served the log is the ordinary cause)")
  | .ok (some receipt) =>
      if receipt.blockNumber ≠ log.blockNumber then
        .error (.uncorroboratedLog
          s!"receipt for {txHashHex} is in block {receipt.blockNumber} but the log claims block {log.blockNumber}; the two readings straddle a fork or two replicas")
      else if receipt.blockHash ≠ log.blockHash then
        .error (.uncorroboratedLog
          s!"receipt for {txHashHex} is in block hash {bytes32Hex receipt.blockHash} but the log claims {bytes32Hex log.blockHash}; the two readings straddle a fork or two replicas")
      else if receipt.success = false then
        .error (.contradictedLog
          s!"receipt for {txHashHex} is in the very block and block hash this log claims and has status 0, so no success event could have been emitted by it")
      else
        match answers.head with
        | .error e => .error (.chain s!"pinned_block_number: {e}")
        | .ok head => .ok (policy.isFinal log.blockNumber head)

/-! ## What a log may write -/

/-- A row without a hash gets the one that the chain has verified. -/
def promoteVerifiedTxHash (db : Db) (attemptId : AttemptRowId) (txHashHex : String) (now : Int) :
    Except ReconcileError Db := do
  let touched := fun a : TxAttempt => a.id = attemptId ∧ a.txHash = none
  require (affected touched db.attempts = 0 ∨ ¬ db.HashTaken attemptId txHashHex)
    (.store "UNIQUE constraint failed: tx_attempts.tx_hash")
  let attempts := setWhere touched
    (fun a => { a with status := .submitted, txHash := some txHashHex,
                       submittedAt := a.submittedAt.or (some now), claimOwner := none,
                       leaseUntil := none }) db.attempts
  pure { db with attempts := attempts }

/-- The statuses of an intent. -/
def setIntent (db : Db) (id : IntentRowId) (status : IntentStatus) : Db :=
  let intents :=
    setWhere (fun i : IntentRow => i.id = id) (fun i => { i with status := status }) db.intents
  { db with intents := intents }

/-- `action_nonce_signer_key` of the log. -/
def ExecutedLog.winnerKey (log : ExecutedLog) : Signer :=
  .action log.controller .sponsoredEnrollment

def externalDetail (log : ExecutedLog) : String :=
  s!"intentUsed({bytes32Hex log.intentId}) is true under transaction {bytes32Hex log.txHash} in block {log.blockNumber}, which this attestor did not broadcast (external fulfillment). Not rebroadcast."

/-- Who was settled, and how. -/
structure Settled where
  consumed : List AttemptRowId
  released : List AttemptRowId
deriving DecidableEq

/-- The attempt of a candidate is confirmed, under a transaction that is not its own. -/
def confirmExternally (db : Db) (log : ExecutedLog) (now : Int) (row : AttemptCandidate) : Db :=
  let attempts := setWhere (fun a : TxAttempt => a.id = row.attemptId ∧ a.status ≠ .confirmed)
    (fun a => { a with status := .confirmed, errorMessage := some (externalDetail log),
                       confirmedAt := some now, claimOwner := none, leaseUntil := none })
                         db.attempts
  setIntent { db with attempts := attempts } row.intentRowId .executed

/-- One candidate of an intent that somebody else has executed. -/
def fulfillRow (log : ExecutedLog) (now : Int) (state : Db × Settled)
    (row : AttemptCandidate) : Db × Settled :=
  let (db, settled) := state
  if affected (fun a : TxAttempt => a.id = row.attemptId ∧ a.status ≠ .confirmed) db.attempts
    = 1 then
    let db := confirmExternally db log now row
    match row.allocationId with
    | none => (db, settled)
    | some id =>
        if row.signerAddress = some log.winnerKey then
          (setNonce db (some id) .consumed none,
            { settled with consumed := settled.consumed ++ [row.attemptId] })
        else
          (setNonce db (some id) .released (some now),
            { settled with released := settled.released ++ [row.attemptId] })
  else state

/-- Somebody else has executed it. -/
def applyExternalFulfillment (db : Db) (candidates : List AttemptCandidate)
    (log : ExecutedLog) (now : Int) : Db × Settled :=
  candidates.foldl (fulfillRow log now) (db, ⟨[], []⟩)

def reorgDetail (log : ExecutedLog) : String :=
  s!"the node reported log {log.logIndex} in block {log.blockNumber} (hash {bytes32Hex log.blockHash}) as REMOVED by a chain reorganisation; this attempt is back under reconciliation and its outcome is not known"

/-- A slot that was consumed is allocated again. -/
def reallocateNonce (db : Db) (allocationId : Option AllocationRowId) : Db :=
  match allocationId with
  | none => db
  | some id =>
      let allocations := setWhere (fun n => n.id = id ∧ n.kind = .action ∧ n.status = .consumed)
        (fun n => { n with status := .allocated, releasedAt := none }) db.allocations
      { db with allocations := allocations }

/-- The attempt of a candidate is submitted again. -/
def rollBack (db : Db) (log : ExecutedLog) (row : AttemptCandidate) : Db :=
  let attempts := setWhere (fun a : TxAttempt => a.id = row.attemptId ∧ a.status = .confirmed)
    (fun a =>
      { a with status := .submitted, confirmedAt := none, errorMessage := some (reorgDetail log) })
    db.attempts
  setIntent { db with attempts := attempts } row.intentRowId .submitted

/-- One candidate of a log that was removed. -/
def reorgRow (log : ExecutedLog) (state : Db × List AttemptRowId) (row : AttemptCandidate) :
    Db × List AttemptRowId :=
  let (db, rolledBack) := state
  if affected (fun a : TxAttempt => a.id = row.attemptId ∧ a.status = .confirmed) db.attempts
    = 1 then
    (reallocateNonce (rollBack db log row) row.allocationId, rolledBack ++ [row.attemptId])
  else state

def applyReorg (db : Db) (candidates : List AttemptCandidate) (log : ExecutedLog) :
    Db × List AttemptRowId :=
  candidates.foldl (reorgRow log) (db, [])

/-- The fold's own statement on the slot: nobody else may hold it. -/
def consumeUnlessHeld (db : Db) (allocationId : Option AllocationRowId)
    (attemptId : AttemptRowId) : Db :=
  match allocationId with
  | none => db
  | some id =>
      if (db.holder id attemptId).isSome then db
      else
        let allocations := setWhere (fun n : NonceAllocation => n.id = id ∧ n.status ≠ .consumed)
          (fun n => { n with status := .consumed }) db.allocations
        { db with allocations := allocations }

/-- `reconcile_executed_for_profile_id`. -/
def reconcileExecutedForProfileId (db : Db) (profileId : String) (log : ExecutedLog) (now : Int) :
    Except ReconcileError Db := do
  let intentRow : IntentRowId := ⟨profileId, log.intentId⟩
  let txHashHex := bytes32Hex log.txHash
  let rows := (db.attempts.filter fun a => a.intentId = intentRow).mergeSort
    fun a b => a.attemptNumber ≤ b.attemptNumber
  require (rows ≠ []) .intentNotFound
  require (∀ a ∈ rows, a.id = ⟨profileId, log.intentId, a.attemptNumber⟩)
    (.reconcileMismatch "intent_id")
  match rows.find? fun a => a.txHash.any (hashEq · txHashHex) with
  | none =>
      if rows.any (·.txHash.isSome) then .error (.reconcileMismatch "tx_hash")
      else
        .error (.reconcileUnverifiable (rows.getLast?.map (·.id))
          "tx_hash is NULL; no node ever acknowledged a transaction for this attempt, so chain evidence must resolve it first")
  | some matched => do
      let touched := fun a : TxAttempt => a.id = matched.id ∧ a.status ≠ .confirmed
      if affected touched db.attempts = 1 then
        require (¬ db.HashTaken matched.id txHashHex)
          (.store "UNIQUE constraint failed: tx_attempts.tx_hash")
        let attempts := setWhere touched
          (fun a =>
            { a with status := .confirmed, txHash := some txHashHex, confirmedAt := some now })
          db.attempts
        let db := setIntent { db with attempts := attempts } intentRow .executed
        pure (consumeUnlessHeld db matched.nonceAllocationId matched.id)
      else pure db

/-- The tables after the fold of a log into the attempt that has its hash. -/
def foldedDb (db : Db) (w : TxAttempt) (log : ExecutedLog) (now : Int) : Db :=
  let attempts := setWhere (fun a : TxAttempt => a.id = w.id ∧ a.status ≠ .confirmed)
    (fun a =>
      { a with status := .confirmed, txHash := some (bytes32Hex log.txHash),
               confirmedAt := some now })
    db.attempts
  consumeUnlessHeld (setIntent { db with attempts := attempts } w.intentId .executed)
    w.nonceAllocationId w.id

/-- **A fold that succeeds** has found an attempt with the hash: it was confirmed before, or it is
now. -/
theorem fold_ok {db db' : Db} {profileId : String} {log : ExecutedLog} {now : Int}
    (h : reconcileExecutedForProfileId db profileId log now = .ok db') :
    ∃ matched ∈ db.attempts, matched.intentId = ⟨profileId, log.intentId⟩
      ∧ matched.txHash.any (hashEq · (bytes32Hex log.txHash)) = true
      ∧ (db' = db ∨ db' = foldedDb db matched log now) := by
  obtain ⟨_, -, _, -, h⟩ := bind_ok₂.mp h
  dsimp only at h
  split at h
  · split at h
    · cases h
    · cases h
  · rename_i matched hfind
    obtain ⟨hmem, hrow⟩ :=
      List.mem_filter.mp (List.mem_mergeSort.mp (List.mem_of_find?_eq_some hfind))
    have hrow := of_decide_eq_true hrow
    have hhash := List.find?_some hfind
    refine ⟨matched, hmem, hrow, hhash, ?_⟩
    split at h
    · obtain ⟨_, -, h⟩ := bind_ok.mp h
      cases h
      rw [← hrow]
      exact .inr rfl
    · cases h
      exact .inl rfl

end GoatCoin.StreamG
