/-
# `GoatCoin.Attestor.Store` — the tables of `store.rs` and of migration 0004

Four tables, each with its keys, and one transaction for each insert:

    proxy_session_intents     intent hash                         ignored if it is there
    proxy_receipts            receipt hash; session and chunk;    refused if one of them is there
                              operator, gateway and counter
    proxy_meter_commitments   gateway, epoch and session          written over if it is there
    proxy_epoch_totals        epoch and operator                  refused if it is there

A transaction that fails is rolled back, wherever it fails; so a call returns its outcome and the
tables, and that the tables of a failed call are the tables before it is a theorem.
-/
import GoatCoin.Attestor.Verify
import GoatCoin.Lib.Runs

namespace GoatCoin.Attestor

open Evm

/-! ## Columns -/

/-- What SQLite answers to a statement it does not carry out. -/
inductive SqlError where
  | uniqueConstraint
  | checkConstraint
  | foreignKeyConstraint
  | other (detail : String)
deriving DecidableEq

inductive ProxyStoreError where
  | duplicateReceipt (sessionIdHex : String) (chunkSeq : Word 64)
  | duplicateCounter (operator : String) (counter : Word 64)
  | valueOutOfRange (field : String) (value : Nat)
  | malformedRow (column detail : String)
  | store (e : SqlError)
deriving DecidableEq

/-- `as_i64`: a value that the signed column can hold. -/
def asI64 (field : String) (value : Word 64) : Except ProxyStoreError Int := do
  require (value.val < 2 ^ 63) (.valueOutOfRange field value.val)
  pure value.val

def hexBytes (bytes : List UInt8) : String := String.ofList (Hex.encode bytes)

/-- A row of the intents table. -/
structure IntentRow where
  intentHashHex : String
  epochId : Int
  sessionIdHex : String
  operatorWallet : String
  consumerIdHex : String
  gatewayIdHex : String
  allowlistEntryId : Int
  allowlistManifestDigestHex : String
  maxBytes : Int
  validFromUnix : Int
  validToUnix : Int
  priceGoatWeiPerMebibyte : String
  consumerSignatureHex : String
  consumerSigner : String
  recordedAtUnix : Int
deriving DecidableEq

structure ReceiptRow where
  receiptHashHex : String
  epochId : Int
  sessionIdHex : String
  chunkSeq : Int
  chunkKind : String
  operatorWallet : String
  consumerIdHex : String
  gatewayIdHex : String
  allowlistEntryId : Int
  allowlistManifestDigestHex : String
  bytesTransferred : Int
  counter : Int
  intentHashHex : String
  consentRecordHashHex : String
  validFromUnix : Int
  validToUnix : Int
  priceGoatWeiPerMebibyte : String
  witnessedBytesToConsumer : Int
  nodeReportedFromOrigin : Int
  witnessedAtUnix : Int
  operatorSignatureHex : String
  consumerSignatureHex : String
  gatewaySignatureHex : String
  operatorSigner : String
  consumerSigner : String
  gatewaySigner : String
  chainId : Int
  verifyingContract : String
  recordedAtUnix : Int
deriving DecidableEq

structure MeterCommitmentRow where
  gatewayIdHex : String
  epochId : Word 64
  sessionIdHex : String
  witnessedBytesToConsumer : Word 64
  nodeReportedFromOrigin : Word 64
  commitmentHashHex : String
  gatewaySignatureHex : String
  observedAtUnix : Word 64
  recordedAtUnix : Word 64

structure EpochTotalRow where
  epochId : Word 64
  operatorWallet : String
  totalBytes : Word 64
  receiptCount : Word 64
  grossGoatWei : Word 128
  operatorGoatWei : Word 128
  protocolTakeGoatWei : Word 128
  takeBps : Word 32
  recordedAtUnix : Word 64

/-- The columns of `proxy_meter_commitments`. -/
structure MeterColumns where
  gatewayIdHex : String
  epochId : Int
  sessionIdHex : String
  witnessedBytesToConsumer : Int
  nodeReportedFromOrigin : Int
  commitmentHashHex : String
  gatewaySignatureHex : String
  observedAtUnix : Int
  recordedAtUnix : Int

/-- The columns of `proxy_epoch_totals`. -/
structure TotalColumns where
  epochId : Int
  operatorWallet : String
  totalBytes : Int
  receiptCount : Int
  grossGoatWei : String
  operatorGoatWei : String
  protocolTakeGoatWei : String
  takeBps : Int
  recordedAtUnix : Int

structure ProxyDb where
  intents : List IntentRow
  receipts : List ReceiptRow
  meters : List MeterColumns
  totals : List TotalColumns

namespace ProxyDb

/-- The tables after the migration. -/
def empty : ProxyDb := ⟨[], [], [], []⟩

end ProxyDb

/-! ## Rows -/

/-- The row that keeps an intent. -/
def intentRow (v : VerifiedReceipt) (recordedAt : Int) : Except ProxyStoreError IntentRow := do
  let i := v.intent
  let epochId ← asI64 "intent.epoch_id" i.epochId
  let allowlistEntryId ← asI64 "intent.allowlist_entry_id" i.allowlistEntryId
  let maxBytes ← asI64 "intent.max_bytes" i.maxBytes
  let validFromUnix ← asI64 "intent.valid_from_unix" i.validFromUnix
  let validToUnix ← asI64 "intent.valid_to_unix" i.validToUnix
  pure
    { intentHashHex := hexOf 32 v.intentStructHash.val
      epochId := epochId
      sessionIdHex := hexOf 32 i.sessionId.val
      operatorWallet := hexOf 20 i.operatorWallet.val
      consumerIdHex := hexOf 32 i.consumerId.val
      gatewayIdHex := hexOf 32 i.gatewayId.val
      allowlistEntryId := allowlistEntryId
      allowlistManifestDigestHex := hexOf 32 i.allowlistManifestDigest.val
      maxBytes := maxBytes
      validFromUnix := validFromUnix
      validToUnix := validToUnix
      priceGoatWeiPerMebibyte := toString i.priceGoatWeiPerMebibyte.val
      consumerSignatureHex := hexBytes v.consumerSig
      consumerSigner := hexOf 20 v.consumerSigner.val
      recordedAtUnix := recordedAt }

/-- The row that keeps a receipt. -/
def receiptRow (v : VerifiedReceipt) (recordedAt : Int) : Except ProxyStoreError ReceiptRow := do
  let r := v.receipt
  let epochId ← asI64 "epoch_id" r.epochId
  let chunkSeq ← asI64 "chunk_seq" r.chunkSeq
  let allowlistEntryId ← asI64 "allowlist_entry_id" r.allowlistEntryId
  let bytesTransferred ← asI64 "bytes_transferred" r.bytesTransferred
  let counter ← asI64 "counter" r.counter
  let validFromUnix ← asI64 "valid_from_unix" r.validFromUnix
  let validToUnix ← asI64 "valid_to_unix" r.validToUnix
  let witnessed ← asI64 "witnessed_bytes_to_consumer" v.witness.bodyBytesToConsumer
  let fromOrigin ← asI64 "node_reported_from_origin" v.witness.nodeReportedFromOrigin
  let witnessedAt ← asI64 "witnessed_at_unix" v.witness.witnessedAtUnix
  let chainId ← asI64 "chain_id" v.chainId
  pure
    { receiptHashHex := hexOf 32 v.receiptHash.val
      epochId := epochId
      sessionIdHex := hexOf 32 r.sessionId.val
      chunkSeq := chunkSeq
      chunkKind := r.chunkKind.asToken
      operatorWallet := hexOf 20 r.operatorWallet.val
      consumerIdHex := hexOf 32 r.consumerId.val
      gatewayIdHex := hexOf 32 r.gatewayId.val
      allowlistEntryId := allowlistEntryId
      allowlistManifestDigestHex := hexOf 32 r.allowlistManifestDigest.val
      bytesTransferred := bytesTransferred
      counter := counter
      intentHashHex := hexOf 32 r.intentHash.val
      consentRecordHashHex := hexOf 32 r.consentRecordHash.val
      validFromUnix := validFromUnix
      validToUnix := validToUnix
      priceGoatWeiPerMebibyte := toString r.priceGoatWeiPerMebibyte.val
      witnessedBytesToConsumer := witnessed
      nodeReportedFromOrigin := fromOrigin
      witnessedAtUnix := witnessedAt
      operatorSignatureHex := hexBytes v.operatorSig
      consumerSignatureHex := hexBytes v.consumerSig
      gatewaySignatureHex := hexBytes v.gatewaySig
      operatorSigner := hexOf 20 v.operatorSigner.val
      consumerSigner := hexOf 20 v.consumerSigner.val
      gatewaySigner := hexOf 20 v.gatewaySigner.val
      chainId := chainId
      verifyingContract := hexOf 20 v.verifyingContract.val
      recordedAtUnix := recordedAt }

/-- Both rows of an insert, or the first value that does not fit. -/
def rowsOf (v : VerifiedReceipt) (recordedAtUnix : Word 64) :
    Except ProxyStoreError (IntentRow × ReceiptRow) := do
  let recordedAt ← asI64 "recorded_at_unix" recordedAtUnix
  let intent ← intentRow v recordedAt
  let receipt ← receiptRow v recordedAt
  pure (intent, receipt)

/-! ## Statements -/

namespace IntentRow

/-- The `CHECK`s of the table. -/
def Sound (row : IntentRow) : Prop :=
  0 ≤ row.epochId ∧ 0 < row.maxBytes ∧ row.validFromUnix < row.validToUnix

instance (row : IntentRow) : Decidable row.Sound := by unfold Sound; infer_instance

end IntentRow

namespace ReceiptRow

def Sound (row : ReceiptRow) : Prop :=
  (row.chunkKind = "INTERIM" ∨ row.chunkKind = "FINAL") ∧ 0 < row.bytesTransferred
    ∧ row.bytesTransferred ≤ 10485760 ∧ row.witnessedBytesToConsumer = row.bytesTransferred
    ∧ 0 ≤ row.chunkSeq ∧ 0 ≤ row.counter ∧ 0 ≤ row.epochId

instance (row : ReceiptRow) : Decidable row.Sound := by unfold Sound; infer_instance

/-- `proxy_receipts_session_chunk`. -/
def chunkKey (row : ReceiptRow) : String × Int := (row.sessionIdHex, row.chunkSeq)

/-- `proxy_receipts_operator_counter`. -/
def counterKey (row : ReceiptRow) : String × String × Int :=
  (row.operatorWallet, row.gatewayIdHex, row.counter)

end ReceiptRow

namespace ProxyDb

variable (db : ProxyDb)

/-- `INSERT OR IGNORE INTO proxy_session_intents`: a row that breaks a constraint is skipped. -/
def insertOrIgnoreIntent (row : IntentRow) : ProxyDb :=
  if row.Sound ∧ row.intentHashHex ∉ db.intents.map (·.intentHashHex) then
    { db with intents := db.intents ++ [row] }
  else db

/-- `INSERT INTO proxy_receipts`. -/
def insertReceipt (row : ReceiptRow) : Except SqlError ProxyDb := do
  require row.Sound .checkConstraint
  require (row.receiptHashHex ∉ db.receipts.map (·.receiptHashHex)) .uniqueConstraint
  require (row.chunkKey ∉ db.receipts.map (·.chunkKey)) .uniqueConstraint
  require (row.counterKey ∉ db.receipts.map (·.counterKey)) .uniqueConstraint
  require (row.intentHashHex ∈ db.intents.map (·.intentHashHex)) .foreignKeyConstraint
  pure { db with receipts := db.receipts ++ [row] }

/-- `write_tx`: `BEGIN IMMEDIATE`, the body, and `COMMIT` or `ROLLBACK`.  A fault of the file or of
the connection is an error of the body or of the commit. -/
def writeTx (fault : Option SqlError) (body : ProxyDb → Except SqlError ProxyDb) :
    Except SqlError Unit × ProxyDb :=
  match body db, fault with
  | .error e, _ => (.error e, db)
  | .ok _, some e => (.error e, db)
  | .ok db', none => (.ok (), db')

/-- `disambiguate`: which key the refused row collides with, by the tables as they are. -/
def disambiguate (err : SqlError) (v : VerifiedReceipt) : ProxyStoreError :=
  let sessionIdHex := hexOf 32 v.receipt.sessionId.val
  let operatorWallet := hexOf 20 v.receipt.operatorWallet.val
  let gatewayIdHex := hexOf 32 v.receipt.gatewayId.val
  match err with
  | .uniqueConstraint =>
      if (sessionIdHex, (v.receipt.chunkSeq.val : Int)) ∈ db.receipts.map (·.chunkKey) then
        .duplicateReceipt sessionIdHex v.receipt.chunkSeq
      else if (operatorWallet, gatewayIdHex, (v.receipt.counter.val : Int))
          ∈ db.receipts.map (·.counterKey) then
        .duplicateCounter operatorWallet v.receipt.counter
      else .duplicateReceipt sessionIdHex v.receipt.chunkSeq
  | e => .store e

/-- `insert_verified_receipt`. -/
def insertVerifiedReceipt (v : VerifiedReceipt) (recordedAtUnix : Word 64)
    (fault : Option SqlError) : Except ProxyStoreError Unit × ProxyDb :=
  match rowsOf v recordedAtUnix with
  | .error e => (.error e, db)
  | .ok (intent, receipt) =>
      match db.writeTx fault fun tx => (tx.insertOrIgnoreIntent intent).insertReceipt receipt with
      | (.ok (), db') => (.ok (), db')
      | (.error e, db') => (.error (db'.disambiguate e v), db')

def meterColumns (row : MeterCommitmentRow) : Except ProxyStoreError MeterColumns := do
  let epochId ← asI64 "epoch_id" row.epochId
  let witnessed ← asI64 "witnessed_bytes_to_consumer" row.witnessedBytesToConsumer
  let fromOrigin ← asI64 "node_reported_from_origin" row.nodeReportedFromOrigin
  let observedAt ← asI64 "observed_at_unix" row.observedAtUnix
  let recordedAt ← asI64 "recorded_at_unix" row.recordedAtUnix
  pure ⟨row.gatewayIdHex, epochId, row.sessionIdHex, witnessed, fromOrigin, row.commitmentHashHex,
    row.gatewaySignatureHex, observedAt, recordedAt⟩

/-- `ON CONFLICT … DO UPDATE`. -/
def upsertMeter (row : MeterColumns) : Except SqlError ProxyDb := do
  require (0 ≤ row.witnessedBytesToConsumer ∧ 0 ≤ row.epochId) .checkConstraint
  let same (m : MeterColumns) : Bool := m.gatewayIdHex = row.gatewayIdHex ∧ m.epochId = row.epochId
    ∧ m.sessionIdHex = row.sessionIdHex
  if db.meters.any same then
    pure { db with meters := db.meters.map fun m => if same m then row else m }
  else pure { db with meters := db.meters ++ [row] }

/-- `upsert_meter_commitment`. -/
def upsertMeterCommitment (row : MeterCommitmentRow) (fault : Option SqlError) :
    Except ProxyStoreError Unit × ProxyDb :=
  match meterColumns row with
  | .error e => (.error e, db)
  | .ok columns =>
      match db.writeTx fault fun tx => tx.upsertMeter columns with
      | (.ok (), db') => (.ok (), db')
      | (.error e, db') => (.error (.store e), db')

def totalColumns (t : EpochTotalRow) : Except ProxyStoreError TotalColumns := do
  let epochId ← asI64 "epoch_id" t.epochId
  let totalBytes ← asI64 "total_bytes" t.totalBytes
  let receiptCount ← asI64 "receipt_count" t.receiptCount
  let recordedAt ← asI64 "recorded_at_unix" t.recordedAtUnix
  pure ⟨epochId, t.operatorWallet, totalBytes, receiptCount, toString t.grossGoatWei.val,
    toString t.operatorGoatWei.val, toString t.protocolTakeGoatWei.val, t.takeBps.val, recordedAt⟩

/-- `INSERT INTO proxy_epoch_totals`. -/
def insertTotal (row : TotalColumns) : Except SqlError ProxyDb := do
  require (0 ≤ row.totalBytes ∧ 0 ≤ row.receiptCount ∧ 0 ≤ row.takeBps ∧ row.takeBps ≤ 10000)
    .checkConstraint
  require ((row.epochId, row.operatorWallet) ∉ db.totals.map fun t => (t.epochId, t.operatorWallet))
    .uniqueConstraint
  pure { db with totals := db.totals ++ [row] }

/-- `record_epoch_totals`: all of them, or none. -/
def recordEpochTotals (totals : List EpochTotalRow) (fault : Option SqlError) :
    Except ProxyStoreError Unit × ProxyDb :=
  match totals.mapM totalColumns with
  | .error e => (.error e, db)
  | .ok columns =>
      match db.writeTx fault fun tx => columns.foldlM insertTotal tx with
      | (.ok (), db') => (.ok (), db')
      | (.error e, db') => (.error (.store e), db')

end ProxyDb

/-! ## What is read back -/

structure StoredReceipt where
  receiptHashHex : String
  epochId : Word 64
  sessionIdHex : String
  chunkSeq : Word 64
  operatorWallet : String
  consumerIdHex : String
  bytesTransferred : Word 64
  chunkKind : ChunkKind
  gatewayIdHex : String
  priceGoatWeiPerMebibyte : Word 128
deriving DecidableEq

/-- A plus sign in front is read over. -/
def stripPlus : List Char → List Char
  | '+' :: rest => rest
  | all => all

/-- `parse::<u128>`: digits, with one plus sign in front at most. -/
def parseU128 (text : String) : Option (Word 128) :=
  let digits := stripPlus text.toList
  if digits ≠ [] ∧ digits.all Char.isDigit then
    let n := Nat.ofDigitChars 10 digits 0
    if h : n < 2 ^ 128 then some ⟨n, h⟩ else none
  else none

/-- `unsigned`: a count that is not negative. -/
def unsigned (column : String) (raw : Int) : Except ProxyStoreError (Word 64) :=
  if h : 0 ≤ raw ∧ raw.toNat < 2 ^ 64 then .ok ⟨raw.toNat, h.2⟩
  else .error (.malformedRow column s!"{raw}, a negative integer where a count belongs")

def chunkKindOf (token : String) : Except ProxyStoreError ChunkKind :=
  if token = "INTERIM" then .ok .interim
  else if token = "FINAL" then .ok .final
  else .error (.malformedRow "chunk_kind" (token.quote ++ ", which is neither INTERIM nor FINAL"))

def priceOf (text : String) : Except ProxyStoreError (Word 128) :=
  match parseU128 text with
  | some price => .ok price
  | none => .error (.malformedRow "price_goat_wei_per_mebibyte"
      (text.quote ++ ", which is not a decimal string"))

/-- One row of the query, as the aggregation reads it. -/
def ReceiptRow.stored (row : ReceiptRow) : Except ProxyStoreError StoredReceipt := do
  let chunkKind ← chunkKindOf row.chunkKind
  let price ← priceOf row.priceGoatWeiPerMebibyte
  let epochId ← unsigned "epoch_id" row.epochId
  let chunkSeq ← unsigned "chunk_seq" row.chunkSeq
  let bytesTransferred ← unsigned "bytes_transferred" row.bytesTransferred
  pure
    { receiptHashHex := row.receiptHashHex
      epochId := epochId
      sessionIdHex := row.sessionIdHex
      chunkSeq := chunkSeq
      operatorWallet := row.operatorWallet
      consumerIdHex := row.consumerIdHex
      bytesTransferred := bytesTransferred
      chunkKind := chunkKind
      gatewayIdHex := row.gatewayIdHex
      priceGoatWeiPerMebibyte := price }

/-- `ORDER BY operator_wallet, session_id_hex, chunk_seq`. -/
def ReceiptRow.notAfter (a b : ReceiptRow) : Bool :=
  decide (a.operatorWallet < b.operatorWallet ∨ a.operatorWallet = b.operatorWallet
    ∧ (a.sessionIdHex < b.sessionIdHex ∨ a.sessionIdHex = b.sessionIdHex ∧ a.chunkSeq ≤ b.chunkSeq))

/-- The rows of an epoch, in the order of the query. -/
def ProxyDb.epochRows (db : ProxyDb) (epoch : Int) : List ReceiptRow :=
  (db.receipts.filter (·.epochId = epoch)).mergeSort ReceiptRow.notAfter

/-- `load_epoch_receipts`. -/
def ProxyDb.loadEpochReceipts (db : ProxyDb) (epochId : Word 64) :
    Except ProxyStoreError (List StoredReceipt) := do
  let epoch ← asI64 "epoch_id" epochId
  (db.epochRows epoch).mapM ReceiptRow.stored

end GoatCoin.Attestor
