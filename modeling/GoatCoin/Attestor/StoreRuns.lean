/-
# `GoatCoin.Attestor.StoreRuns` — receipts are settled at most once

The lane verifies bundles and writes what it verified, in any order and as often as it is asked to:
a verified receipt can be offered to the store again, and in another epoch.

    verify         a bundle that passes is added to what may be inserted
    insert         one of those is offered to the store
    upsertMeter    the gateway's own totals
    recordTotals   the totals of an epoch

`history` is what the store took, in order.  A step lemma says what one insert does to the tables;
the rest is by induction over the run.
-/
import GoatCoin.Attestor.Store
import GoatCoin.Attestor.Digests

namespace GoatCoin.Attestor

open Evm

/-! ## Rows of a verified receipt -/

theorem asI64_ok {field : String} {value : Word 64} {n : Int} (h : asI64 field value = .ok n) :
    value.val < 2 ^ 63 ∧ n = value.val := by
  obtain ⟨_, hfits, h⟩ := bind_ok.mp h
  cases h
  exact ⟨require_ok.mp hfits, rfl⟩

/-- A row is the receipt it was made of, as far as the keys and the folds see it. -/
structure RowOf (v : VerifiedReceipt) (row : ReceiptRow) : Prop where
  receiptHash : row.receiptHashHex = hexOf 32 v.receiptHash.val
  epoch : row.epochId = v.receipt.epochId.val
  session : row.sessionIdHex = hexOf 32 v.receipt.sessionId.val
  chunkSeq : row.chunkSeq = v.receipt.chunkSeq.val
  chunkKind : row.chunkKind = v.receipt.chunkKind.asToken
  operator : row.operatorWallet = hexOf 20 v.receipt.operatorWallet.val
  consumer : row.consumerIdHex = hexOf 32 v.receipt.consumerId.val
  gateway : row.gatewayIdHex = hexOf 32 v.receipt.gatewayId.val
  bytes : row.bytesTransferred = v.receipt.bytesTransferred.val
  counter : row.counter = v.receipt.counter.val
  intentHash : row.intentHashHex = hexOf 32 v.receipt.intentHash.val
  price : row.priceGoatWeiPerMebibyte = toString v.receipt.priceGoatWeiPerMebibyte.val
  witnessed : row.witnessedBytesToConsumer = v.witness.bodyBytesToConsumer.val
  fits : v.receipt.epochId.val < 2 ^ 63
  chunkFits : v.receipt.chunkSeq.val < 2 ^ 63

/-- The intent of a verified receipt, as it is stored. -/
structure IntentOf (v : VerifiedReceipt) (row : IntentRow) : Prop where
  intentHash : row.intentHashHex = hexOf 32 v.intentStructHash.val
  epoch : row.epochId = v.intent.epochId.val
  session : row.sessionIdHex = hexOf 32 v.intent.sessionId.val
  maxBytes : row.maxBytes = v.intent.maxBytes.val
  validFrom : row.validFromUnix = v.intent.validFromUnix.val
  validTo : row.validToUnix = v.intent.validToUnix.val
  price : row.priceGoatWeiPerMebibyte = toString v.intent.priceGoatWeiPerMebibyte.val

theorem intentRow_ok {v : VerifiedReceipt} {recordedAt : Int} {row : IntentRow}
    (h : intentRow v recordedAt = .ok row) : IntentOf v row := by
  obtain ⟨_, hepoch, _, -, _, hmax, h⟩ := bind_ok₃.mp h
  obtain ⟨_, hfrom, _, hto, h⟩ := bind_ok₂.mp h
  cases h
  exact ⟨rfl, (asI64_ok hepoch).2, rfl, (asI64_ok hmax).2, (asI64_ok hfrom).2,
    (asI64_ok hto).2, rfl⟩

theorem receiptRow_ok {v : VerifiedReceipt} {recordedAt : Int} {row : ReceiptRow}
    (h : receiptRow v recordedAt = .ok row) : RowOf v row := by
  obtain ⟨_, hepoch, _, hchunk, _, -, _, hbytes, h⟩ := bind_ok₄.mp h
  obtain ⟨_, hcounter, _, -, _, -, _, hwitnessed, h⟩ := bind_ok₄.mp h
  obtain ⟨_, -, _, -, _, -, h⟩ := bind_ok₃.mp h
  cases h
  exact
    { receiptHash := rfl
      epoch := (asI64_ok hepoch).2
      session := rfl
      chunkSeq := (asI64_ok hchunk).2
      chunkKind := rfl
      operator := rfl
      consumer := rfl
      gateway := rfl
      bytes := (asI64_ok hbytes).2
      counter := (asI64_ok hcounter).2
      intentHash := rfl
      price := rfl
      witnessed := (asI64_ok hwitnessed).2
      fits := (asI64_ok hepoch).1
      chunkFits := (asI64_ok hchunk).1 }

theorem rowsOf_ok {v : VerifiedReceipt} {recordedAtUnix : Word 64} {intent : IntentRow}
    {row : ReceiptRow} (h : rowsOf v recordedAtUnix = .ok (intent, row)) :
    IntentOf v intent ∧ RowOf v row := by
  obtain ⟨_, -, _, hintent, _, hreceipt, h⟩ := bind_ok₃.mp h
  cases h
  exact ⟨intentRow_ok hintent, receiptRow_ok hreceipt⟩

/-! ## What an insert does -/

namespace ProxyDb

/-- A receipt is stored: its keys are new, and its intent is there. -/
structure Stores (db : ProxyDb) (v : VerifiedReceipt) (recordedAtUnix : Word 64) (db' : ProxyDb) :
    Prop where
  row : ∃ intent row, rowsOf v recordedAtUnix = .ok (intent, row) ∧ row.Sound
    ∧ row.receiptHashHex ∉ db.receipts.map (·.receiptHashHex)
    ∧ row.chunkKey ∉ db.receipts.map (·.chunkKey)
    ∧ row.counterKey ∉ db.receipts.map (·.counterKey)
    ∧ row.intentHashHex ∈ (db.insertOrIgnoreIntent intent).intents.map (·.intentHashHex)
    ∧ db' = { db with
        intents := (db.insertOrIgnoreIntent intent).intents, receipts := db.receipts ++ [row] }

theorem writeTx_cases (db : ProxyDb) (fault : Option SqlError)
    (body : ProxyDb → Except SqlError ProxyDb) :
    (∃ err, db.writeTx fault body = (.error err, db))
      ∨ ∃ db', fault = none ∧ body db = .ok db' ∧ db.writeTx fault body = (.ok (), db') := by
  cases hbody : body db with
  | error err => exact .inl ⟨err, by simp only [writeTx, hbody]⟩
  | ok db' =>
      cases fault with
      | some err => exact .inl ⟨err, by simp only [writeTx, hbody]⟩
      | none => exact .inr ⟨db', rfl, rfl, by simp only [writeTx, hbody]⟩

theorem insertReceipt_ok {db db' : ProxyDb} {row : ReceiptRow}
    (h : db.insertReceipt row = .ok db') :
    row.Sound ∧ row.receiptHashHex ∉ db.receipts.map (·.receiptHashHex)
      ∧ row.chunkKey ∉ db.receipts.map (·.chunkKey)
      ∧ row.counterKey ∉ db.receipts.map (·.counterKey)
      ∧ row.intentHashHex ∈ db.intents.map (·.intentHashHex)
      ∧ db' = { db with receipts := db.receipts ++ [row] } := by
  obtain ⟨_, hsound, _, hhash, _, hchunk, h⟩ := bind_ok₃.mp h
  obtain ⟨_, hcounter, _, hintent, h⟩ := bind_ok₂.mp h
  cases h
  exact ⟨require_ok.mp hsound, require_ok.mp hhash, require_ok.mp hchunk, require_ok.mp hcounter,
    require_ok.mp hintent, rfl⟩

@[simp] theorem insertOrIgnoreIntent_receipts (db : ProxyDb) (row : IntentRow) :
    (db.insertOrIgnoreIntent row).receipts = db.receipts := by
  unfold insertOrIgnoreIntent
  split <;> rfl

theorem insertOrIgnoreIntent_eq (db : ProxyDb) (row : IntentRow) :
    db.insertOrIgnoreIntent row
      = { db with intents := (db.insertOrIgnoreIntent row).intents } := by
  unfold insertOrIgnoreIntent
  split <;> rfl

/-- **An insert stores the receipt, or leaves every table as it was.** -/
theorem insertVerifiedReceipt_cases (db : ProxyDb) (v : VerifiedReceipt) (recordedAtUnix : Word 64)
    (fault : Option SqlError) :
    (∃ err, db.insertVerifiedReceipt v recordedAtUnix fault = (.error err, db))
      ∨ ∃ db', fault = none ∧ db.Stores v recordedAtUnix db'
        ∧ db.insertVerifiedReceipt v recordedAtUnix fault = (.ok (), db') := by
  cases hrows : rowsOf v recordedAtUnix with
  | error err => exact .inl ⟨err, by rw [insertVerifiedReceipt, hrows]⟩
  | ok rows =>
      obtain ⟨intent, row⟩ := rows
      rcases db.writeTx_cases fault fun tx =>
        (tx.insertOrIgnoreIntent intent).insertReceipt row with
        ⟨err, htx⟩ | ⟨db', hfault, hbody, htx⟩
      · exact .inl ⟨db.disambiguate err v, by simp only [insertVerifiedReceipt, hrows, htx]⟩
      · refine .inr ⟨db', hfault, ?_, by simp only [insertVerifiedReceipt, hrows, htx]⟩
        obtain ⟨hsound, hhash, hchunk, hcounter, hforeign, hdb⟩ := insertReceipt_ok hbody
        rw [insertOrIgnoreIntent_receipts] at hhash hchunk hcounter hdb
        refine ⟨intent, row, hrows, hsound, hhash, hchunk, hcounter, hforeign, ?_⟩
        rw [hdb, insertOrIgnoreIntent_eq]

theorem mem_insertOrIgnoreIntent (db : ProxyDb) {row : IntentRow} (h : row.Sound) :
    row.intentHashHex ∈ (db.insertOrIgnoreIntent row).intents.map (·.intentHashHex) := by
  unfold insertOrIgnoreIntent
  by_cases hthere : row.intentHashHex ∈ db.intents.map (·.intentHashHex)
  · rw [if_neg fun hc => hc.2 hthere]
    exact hthere
  · rw [if_pos ⟨h, hthere⟩, List.map_append]
    exact List.mem_append_right _ (List.mem_singleton.mpr rfl)

theorem sound_of_verified {v : VerifiedReceipt} (hv : Verified v) {intent : IntentRow}
    {row : ReceiptRow}
    (hintent : IntentOf v intent) (hrow : RowOf v row) : intent.Sound ∧ row.Sound := by
  have hwindow : v.receipt.validFromUnix.val < v.receipt.validToUnix.val := hv.window
  have hceiling : v.receipt.bytesTransferred.val ≤ v.intent.maxBytes.val := hv.ceiling
  have hpositive := hv.positive
  have hbound : v.receipt.bytesTransferred.val ≤ 10485760 := hv.chunk
  constructor
  · rw [IntentRow.Sound, hintent.epoch, hintent.maxBytes, hintent.validFrom, hintent.validTo,
      ← hv.validFrom, ← hv.validTo]
    omega
  · rw [ReceiptRow.Sound, hrow.chunkKind, hrow.bytes, hrow.witnessed, hrow.chunkSeq, hrow.counter,
      hrow.epoch, hv.witnessed]
    refine ⟨?_, by omega⟩
    cases v.receipt.chunkKind with
    | interim => exact .inl rfl
    | final => exact .inr rfl

/-- **A verified receipt that fits and whose keys are new is stored.** -/
theorem insertVerifiedReceipt_ok (db : ProxyDb) {v : VerifiedReceipt} (hv : Verified v)
    {recordedAtUnix : Word 64} {intent : IntentRow} {row : ReceiptRow}
    (hrows : rowsOf v recordedAtUnix = .ok (intent, row))
    (hhash : row.receiptHashHex ∉ db.receipts.map (·.receiptHashHex))
    (hchunk : row.chunkKey ∉ db.receipts.map (·.chunkKey))
    (hcounter : row.counterKey ∉ db.receipts.map (·.counterKey)) :
    db.insertVerifiedReceipt v recordedAtUnix none = (.ok (),
      { db with
        intents := (db.insertOrIgnoreIntent intent).intents, receipts :=
  db.receipts ++ [row] }) := by
  obtain ⟨hintent, hrow⟩ := rowsOf_ok hrows
  obtain ⟨hsound, hsound'⟩ := sound_of_verified hv hintent hrow
  have hforeign :
    row.intentHashHex ∈ (db.insertOrIgnoreIntent intent).intents.map (·.intentHashHex) := by
    rw [hrow.intentHash, hv.intentHash, ← hintent.intentHash]
    exact db.mem_insertOrIgnoreIntent hsound
  have hbody : (db.insertOrIgnoreIntent intent).insertReceipt row = .ok { db with
      intents := (db.insertOrIgnoreIntent intent).intents, receipts := db.receipts ++ [row] } := by
    rw [insertOrIgnoreIntent_eq]
    exact bind_ok₃.mpr ⟨(), require_ok.mpr hsound', (), require_ok.mpr hhash, (),
      require_ok.mpr hchunk,
      bind_ok₂.mpr ⟨(), require_ok.mpr hcounter, (), require_ok.mpr hforeign, rfl⟩⟩
  simp only [insertVerifiedReceipt, hrows, writeTx, hbody]

theorem upsertMeterCommitment_cases (db : ProxyDb) (row : MeterCommitmentRow)
    (fault : Option SqlError) :
    (∃ err, db.upsertMeterCommitment row fault = (.error err, db))
      ∨ ∃ meters, db.upsertMeterCommitment row fault = (.ok (), { db with meters := meters }) := by
  cases hcolumns : meterColumns row with
  | error err => exact .inl ⟨err, by rw [upsertMeterCommitment, hcolumns]⟩
  | ok columns =>
      rcases db.writeTx_cases fault fun tx => tx.upsertMeter columns with
        ⟨err, htx⟩ | ⟨db', -, hbody, htx⟩
      · exact .inl ⟨.store err, by simp only [upsertMeterCommitment, hcolumns, htx]⟩
      · obtain ⟨_, -, hbody⟩ := bind_ok.mp hbody
        have hmeters : ∃ meters, db' = { db with meters := meters } := by
          dsimp only at hbody
          split at hbody
          · cases hbody
            exact ⟨_, rfl⟩
          · cases hbody
            exact ⟨_, rfl⟩
        obtain ⟨meters, rfl⟩ := hmeters
        exact .inr ⟨meters, by simp only [upsertMeterCommitment, hcolumns, htx]⟩

theorem foldlM_insertTotal {columns : List TotalColumns} : ∀ {db db' : ProxyDb},
    columns.foldlM insertTotal db = .ok db' → ∃ totals, db' = { db with totals := totals } := by
  induction columns with
  | nil =>
      intro db db' h
      cases h
      exact ⟨db.totals, rfl⟩
  | cons row columns ih =>
      intro db db' h
      rw [List.foldlM_cons] at h
      obtain ⟨mid, hrow, hrest⟩ := bind_ok.mp h
      obtain ⟨_, -, _, -, hrow⟩ := bind_ok₂.mp hrow
      cases hrow
      obtain ⟨totals, rfl⟩ := ih hrest
      exact ⟨totals, rfl⟩

theorem recordEpochTotals_cases (db : ProxyDb) (totals : List EpochTotalRow)
    (fault : Option SqlError) :
    (∃ err, db.recordEpochTotals totals fault = (.error err, db))
      ∨ ∃ rows, db.recordEpochTotals totals fault = (.ok (), { db with totals := rows }) := by
  cases hcolumns : totals.mapM totalColumns with
  | error err => exact .inl ⟨err, by rw [recordEpochTotals, hcolumns]⟩
  | ok columns =>
      rcases db.writeTx_cases fault fun tx => columns.foldlM insertTotal tx with
        ⟨err, htx⟩ | ⟨db', -, hbody, htx⟩
      · exact .inl ⟨.store err, by simp only [recordEpochTotals, hcolumns, htx]⟩
      · obtain ⟨rows, rfl⟩ := foldlM_insertTotal hbody
        exact .inr ⟨rows, by simp only [recordEpochTotals, hcolumns, htx]⟩

end ProxyDb

/-! ## Runs of the lane -/

/-- The tables, and what has been verified so far. -/
structure Lane where
  db : ProxyDb
  pool : List VerifiedReceipt

inductive LaneAction where
  | verify (bundle : ProxyReceiptBundle) (ctx : VerifyContext)
  | insert (index : Nat) (recordedAtUnix : Word 64) (fault : Option SqlError)
  | upsertMeter (row : MeterCommitmentRow) (fault : Option SqlError)
  | recordTotals (totals : List EpochTotalRow) (fault : Option SqlError)

inductive LaneError where
  | verify (e : ProxyVerifyError)
  | nothingVerified
  | store (e : ProxyStoreError)

namespace Lane

variable (e : Secp256k1)

/-- Nothing is verified, and the tables are empty. -/
def start : Lane := ⟨.empty, []⟩

def act (l : Lane) : LaneAction → Except LaneError Unit × Lane
  | .verify bundle ctx =>
      match verifyReceiptBundle e bundle ctx with
      | .error err => (.error (.verify err), l)
      | .ok v => (.ok (), { l with pool := l.pool ++ [v] })
  | .insert index recordedAtUnix fault =>
      match l.pool[index]? with
      | none => (.error .nothingVerified, l)
      | some v =>
          let outcome := l.db.insertVerifiedReceipt v recordedAtUnix fault
          (outcome.1.mapError .store, { l with db := outcome.2 })
  | .upsertMeter row fault =>
      let outcome := l.db.upsertMeterCommitment row fault
      (outcome.1.mapError .store, { l with db := outcome.2 })
  | .recordTotals totals fault =>
      let outcome := l.db.recordEpochTotals totals fault
      (outcome.1.mapError .store, { l with db := outcome.2 })

/-- The lane after an action. -/
def step (l : Lane) (k : LaneAction) : Lane := (l.act e k).2

def run (ks : List LaneAction) : Lane := ks.foldl (step e) start

/-- The receipt an action stores. -/
def stored? (l : Lane) : LaneAction → Option VerifiedReceipt
  | .insert index recordedAtUnix fault =>
      match l.pool[index]? with
      | none => none
      | some v =>
          match l.db.insertVerifiedReceipt v recordedAtUnix fault with
          | (.ok (), _) => some v
          | (.error _, _) => none
  | _ => none

/-- What the store took along a run. -/
def historyFrom (l : Lane) : List LaneAction → List VerifiedReceipt
  | [] => []
  | k :: ks => (l.stored? k).toList ++ (l.step e k).historyFrom ks

def history (ks : List LaneAction) : List VerifiedReceipt := start.historyFrom e ks

/-- What one action does to the tables and to the pool. -/
inductive Steps (l : Lane) : Option VerifiedReceipt → Lane → Prop
  | verified {v : VerifiedReceipt} : Verified v → Steps l none { l with pool := l.pool ++ [v] }
  | stored {v : VerifiedReceipt} {recordedAtUnix : Word 64} {db : ProxyDb} : v ∈ l.pool →
      l.db.Stores v recordedAtUnix db →
      Steps l (some v) { l with db := db }
  | meters (meters : List MeterColumns) :
    Steps l none { l with db := { l.db with meters := meters } }
  | totals (totals : List TotalColumns) :
    Steps l none { l with db := { l.db with totals := totals } }
  | refused : Steps l none l

/-- **An action is one of the five, and one that fails is the last of them.** -/
theorem act_steps (l : Lane) (k : LaneAction) :
    Steps l (l.stored? k) (l.act e k).2 ∧ ∀ err, (l.act e k).1 = .error err →
    (l.act e k).2 = l := by
  cases k with
  | verify bundle ctx =>
      cases hverify : verifyReceiptBundle e bundle ctx with
      | error err =>
          simp only [act, hverify]
          exact ⟨.refused, fun _ _ => trivial⟩
      | ok v =>
          simp only [act, hverify]
          exact ⟨.verified (verified_of_verify hverify), nofun⟩
  | insert index recordedAtUnix fault =>
      cases hpool : l.pool[index]? with
      | none =>
          simp only [act, stored?, hpool]
          exact ⟨.refused, fun _ _ => trivial⟩
      | some v =>
          rcases l.db.insertVerifiedReceipt_cases v recordedAtUnix fault with
            ⟨err, hinsert⟩ | ⟨db, -, hstores, hinsert⟩
          · simp only [act, stored?, hpool, hinsert]
            exact ⟨.refused, fun _ _ => trivial⟩
          · simp only [act, stored?, hpool, hinsert]
            exact ⟨.stored (List.mem_of_getElem? hpool) hstores, nofun⟩
  | upsertMeter row fault =>
      rcases l.db.upsertMeterCommitment_cases row fault with ⟨err, hupsert⟩ | ⟨meters, hupsert⟩
      · simp only [act, stored?, hupsert]
        exact ⟨.refused, fun _ _ => trivial⟩
      · simp only [act, stored?, hupsert]
        exact ⟨.meters meters, nofun⟩
  | recordTotals totals fault =>
      rcases l.db.recordEpochTotals_cases totals fault with ⟨err, hrecord⟩ | ⟨rows, hrecord⟩
      · simp only [act, stored?, hrecord]
        exact ⟨.refused, fun _ _ => trivial⟩
      · simp only [act, stored?, hrecord]
        exact ⟨.totals rows, nofun⟩

variable {l : Lane} {v : VerifiedReceipt}

theorem step_verify {bundle : ProxyReceiptBundle} {ctx : VerifyContext}
    (h : verifyReceiptBundle e bundle ctx = .ok v) :
    l.step e (.verify bundle ctx) = { l with pool := l.pool ++ [v] } := by
  simp only [step, act, h]

theorem step_insert {index : Nat} {recordedAtUnix : Word 64} {fault : Option SqlError}
    {db : ProxyDb} (hpool : l.pool[index]? = some v)
    (h : l.db.insertVerifiedReceipt v recordedAtUnix fault = (.ok (), db)) :
    l.step e (.insert index recordedAtUnix fault) = { l with db := db } := by
  simp only [step, act, hpool, h]

theorem act_insert_error {index : Nat} {recordedAtUnix : Word 64} {fault : Option SqlError}
    {err : ProxyStoreError} {db : ProxyDb} (hpool : l.pool[index]? = some v)
    (h : l.db.insertVerifiedReceipt v recordedAtUnix fault = (.error err, db)) :
    (l.act e (.insert index recordedAtUnix fault)).1 = .error (.store err) := by
  simp only [act, hpool, h]
  rfl

/-! ## What every run keeps -/

/-- The keys are unique, and the rows are those of the receipts that were taken. -/
structure Kept (l : Lane) (taken : List VerifiedReceipt) : Prop where
  pool : ∀ v ∈ l.pool, Verified v
  among : ∀ v ∈ taken, v ∈ l.pool
  rows : List.Forall₂ RowOf taken l.db.receipts
  sound : ∀ row ∈ l.db.receipts, row.Sound
  hashes : (l.db.receipts.map (·.receiptHashHex)).Nodup
  chunks : (l.db.receipts.map (·.chunkKey)).Nodup
  counters : (l.db.receipts.map (·.counterKey)).Nodup

theorem kept_start : start.Kept [] where
  pool := fun _ hv => absurd hv List.not_mem_nil
  among := fun _ hv => absurd hv List.not_mem_nil
  rows := .nil
  sound := fun _ hrow => absurd hrow List.not_mem_nil
  hashes := List.nodup_nil
  chunks := List.nodup_nil
  counters := List.nodup_nil

theorem nodup_map_concat {α β : Type} {f : α → β} {l : List α} {a : α} (hl : (l.map f).Nodup)
    (ha : f a ∉ l.map f) : ((l ++ [a]).map f).Nodup := by
  rw [List.map_append, List.map_singleton]
  exact List.nodup_append.mpr ⟨hl, List.nodup_singleton _, fun x hx y hy h => by
    rw [List.mem_singleton.mp hy] at h
    exact ha (h ▸ hx)⟩

theorem Kept.step {l' : Lane} {taken : List VerifiedReceipt} {o : Option VerifiedReceipt}
    (h : l.Kept taken) (hstep : Steps l o l') : l'.Kept (taken ++ o.toList) := by
  cases hstep with
  | verified hv =>
      rw [Option.toList_none, List.append_nil]
      refine { h with pool := fun v hv' => ?_, among := fun v hv' => ?_ }
      · rcases List.mem_append.mp hv' with hv' | hv'
        · exact h.pool v hv'
        · exact List.mem_singleton.mp hv' ▸ hv
      · exact List.mem_append_left _ (h.among v hv')
  | stored hpool hstores =>
      rename_i v recordedAtUnix db
      obtain ⟨intent, row, hrows, hsound, hhash, hchunk, hcounter, -, rfl⟩ := hstores.row
      refine ⟨h.pool, fun w hw => ?_, ?_, fun r hr => ?_, nodup_map_concat h.hashes hhash,
        nodup_map_concat h.chunks hchunk, nodup_map_concat h.counters hcounter⟩
      · rcases List.mem_append.mp hw with hw | hw
        · exact h.among w hw
        · exact List.mem_singleton.mp hw ▸ hpool
      · exact List.rel_append h.rows (.cons (rowsOf_ok hrows).2 .nil)
      · rcases List.mem_append.mp hr with hr | hr
        · exact h.sound r hr
        · exact List.mem_singleton.mp hr ▸ hsound
  | meters meters =>
      rw [Option.toList_none, List.append_nil]
      exact { h with }
  | totals totals =>
      rw [Option.toList_none, List.append_nil]
      exact { h with }
  | refused =>
      rw [Option.toList_none, List.append_nil]
      exact h

theorem Kept.runFrom {ks : List LaneAction} : ∀ {l : Lane} {taken : List VerifiedReceipt},
    l.Kept taken → (ks.foldl (Lane.step e) l).Kept (taken ++ l.historyFrom e ks) := by
  induction ks with
  | nil =>
      intro l taken h
      rw [historyFrom, List.append_nil]
      exact h
  | cons k ks ih =>
      intro l taken h
      rw [historyFrom, ← List.append_assoc]
      exact ih (h.step (l.act_steps e k).1)

theorem kept_run (ks : List LaneAction) : (run e ks).Kept (history e ks) := by
  have h := @Kept.runFrom e ks start [] kept_start
  rwa [List.nil_append] at h

end Lane

/-! ## What is settled -/

theorem parseU128_toString (n : Word 128) : parseU128 (toString n.val) = some n := by
  have htext : (toString n.val).toList = Nat.toDigits 10 n.val := by
    rw [Nat.toString_eq_ofList_toDigits, String.toList_ofList]
  have hdigit : ∀ c ∈ Nat.toDigits 10 n.val, c.isDigit = true := fun c hc =>
    Nat.isDigit_of_mem_toDigits (by decide) (by decide) hc
  have hplain : stripPlus (Nat.toDigits 10 n.val) = Nat.toDigits 10 n.val := by
    unfold stripPlus
    split
    · rename_i rest heq
      exact absurd (hdigit '+' (heq ▸ List.mem_cons_self)) (by decide)
    · rfl
  have hvalue := @Nat.ofDigitChars_ten_toDigits n.val
  simp only [parseU128, htext, hplain, hvalue]
  rw [if_pos ⟨Nat.toDigits_ne_nil, List.all_eq_true.mpr hdigit⟩, dif_pos n.isLt]

theorem unsigned_ok {column : String} {raw : Int} {n : Word 64} (h : raw = n.val) :
    unsigned column raw = .ok n := by
  subst h
  rw [unsigned, dif_pos ⟨Int.natCast_nonneg _, by rw [Int.toNat_natCast]; exact n.isLt⟩]
  exact congrArg Except.ok (Fin.ext (Int.toNat_natCast _))

/-- A receipt as the aggregation reads it. -/
def storedOf (v : VerifiedReceipt) : StoredReceipt where
  receiptHashHex := hexOf 32 v.receiptHash.val
  epochId := v.receipt.epochId
  sessionIdHex := hexOf 32 v.receipt.sessionId.val
  chunkSeq := v.receipt.chunkSeq
  operatorWallet := hexOf 20 v.receipt.operatorWallet.val
  consumerIdHex := hexOf 32 v.receipt.consumerId.val
  bytesTransferred := v.receipt.bytesTransferred
  chunkKind := v.receipt.chunkKind
  gatewayIdHex := hexOf 32 v.receipt.gatewayId.val
  priceGoatWeiPerMebibyte := v.receipt.priceGoatWeiPerMebibyte

theorem RowOf.stored {v : VerifiedReceipt} {row : ReceiptRow} (h : RowOf v row) :
    row.stored = .ok (storedOf v) := by
  have hkind : chunkKindOf row.chunkKind = .ok v.receipt.chunkKind := by
    rw [h.chunkKind]
    cases v.receipt.chunkKind with
    | interim => rfl
    | final => rfl
  have hprice : priceOf row.priceGoatWeiPerMebibyte = .ok v.receipt.priceGoatWeiPerMebibyte := by
    rw [priceOf, h.price, parseU128_toString]
  rw [ReceiptRow.stored, hkind, hprice, unsigned_ok h.epoch,
    unsigned_ok h.chunkSeq, unsigned_ok h.bytes, h.receiptHash, h.session, h.operator, h.consumer,
    h.gateway]
  rfl

variable {l : Lane} {taken : List VerifiedReceipt} {db : ProxyDb}

theorem Lane.Kept.nodup (h : l.Kept taken) {κ κ' : Type}
    {key : ReceiptRow → κ'} {value : VerifiedReceipt → κ} (f : κ → κ')
    (hf : ∀ v row, RowOf v row → key row = f (value v)) (hkey : (l.db.receipts.map key).Nodup) :
    (taken.map value).Nodup := by
  have hmap : taken.map (f ∘ value) = l.db.receipts.map key := by
    refine (congrFun₂ List.forall₂_eq_eq_eq _ _).mp ?_
    rw [List.forall₂_map_left_iff, List.forall₂_map_right_iff]
    exact h.rows.imp fun v row hrow => (hf v row hrow).symm
  rw [← hmap, ← List.map_map] at hkey
  exact hkey.of_map

theorem Lane.Kept.nodup_chunks (h : l.Kept taken) :
    (taken.map fun v => (v.receipt.sessionId, v.receipt.chunkSeq)).Nodup := by
  refine h.nodup (fun p => (hexOf 32 p.1.val, (p.2.val : Int))) (fun v row hrow => ?_) h.chunks
  rw [ReceiptRow.chunkKey, hrow.session, hrow.chunkSeq]

theorem Lane.Kept.nodup_counters (h : l.Kept taken) :
    (taken.map fun v =>
      (v.receipt.operatorWallet, v.receipt.gatewayId, v.receipt.counter)).Nodup := by
  refine h.nodup (fun p => (hexOf 20 p.1.val, hexOf 32 p.2.1.val, (p.2.2.val : Int)))
    (fun v row hrow => ?_) h.counters
  rw [ReceiptRow.counterKey, hrow.operator, hrow.gateway, hrow.counter]

theorem Lane.stored_run (e : Secp256k1) (ks : List LaneAction) :
    ∀ row ∈ (Lane.run e ks).db.receipts, ∃ r, row.stored = .ok r := by
  intro row hrow
  obtain ⟨v, -, hv⟩ := exists_of_forall₂ (Lane.kept_run e ks).rows row hrow
  exact ⟨_, hv.stored⟩

/-- The receipts of some epochs, one load after another. -/
def settledReceipts (db : ProxyDb) (epochs : List (Word 64)) :
    Except ProxyStoreError (List StoredReceipt) := do
  let loads ← epochs.mapM db.loadEpochReceipts
  pure loads.flatten

/-- The rows that are read for them. -/
def settledRows (db : ProxyDb) (epochs : List (Word 64)) : List ReceiptRow :=
  epochs.flatMap fun epoch => db.epochRows epoch.val

theorem mem_epochRows {epoch : Int} {row : ReceiptRow} :
    row ∈ db.epochRows epoch ↔ row ∈ db.receipts ∧ row.epochId = epoch := by
  rw [ProxyDb.epochRows, List.mem_mergeSort, List.mem_filter, decide_eq_true_eq]

theorem settledRows_nodup {κ : Type} {key : ReceiptRow → κ}
    (h : (db.receipts.map key).Nodup) {epochs : List (Word 64)} (hepochs : epochs.Nodup) :
    ((settledRows db epochs).map key).Nodup := by
  have hrows : (settledRows db epochs).Nodup := by
    refine List.nodup_flatMap.mpr ⟨fun epoch _ => ?_, ?_⟩
    · exact (List.mergeSort_perm _ _).nodup_iff.mpr (h.of_map.filter _)
    · refine hepochs.imp fun {a b} hab => ?_
      intro row hrow hrow'
      have heq := (mem_epochRows.mp hrow).2.symm.trans (mem_epochRows.mp hrow').2
      exact hab (Fin.ext (Int.ofNat_inj.mp heq))
  refine hrows.map_on fun a ha b hb hab => ?_
  obtain ⟨_, -, ha⟩ := List.mem_flatMap.mp ha
  obtain ⟨_, -, hb⟩ := List.mem_flatMap.mp hb
  exact List.inj_on_of_nodup_map h (mem_epochRows.mp ha).1 (mem_epochRows.mp hb).1 hab

theorem loadEpochReceipts_ok (h : ∀ row ∈ db.receipts, ∃ r, row.stored = .ok r)
    {epoch : Word 64} (hepoch : epoch.val < 2 ^ 63) :
    ∃ rs, db.loadEpochReceipts epoch = .ok rs
      ∧ List.Forall₂ (fun row r => row.stored = .ok r) (db.epochRows epoch.val) rs := by
  obtain ⟨rs, hrs⟩ := @exists_mapM _ _ _ ReceiptRow.stored (db.epochRows epoch.val)
    fun row hrow => h row (mem_epochRows.mp hrow).1
  refine ⟨rs, ?_, mapM_ok.mp hrs⟩
  rw [ProxyDb.loadEpochReceipts, asI64, require, if_pos hepoch]
  exact hrs

theorem settledReceipts_ok (h : ∀ row ∈ db.receipts, ∃ r, row.stored = .ok r)
    {epochs : List (Word 64)} (hepochs : ∀ epoch ∈ epochs, epoch.val < 2 ^ 63) :
    ∃ settled, settledReceipts db epochs = .ok settled
      ∧ List.Forall₂ (fun row r => row.stored = .ok r) (settledRows db epochs) settled := by
  induction epochs with
  | nil => exact ⟨[], rfl, .nil⟩
  | cons epoch epochs ih =>
      obtain ⟨settled, hsettled, hrest⟩ := ih fun x hx => hepochs x (List.mem_cons_of_mem epoch hx)
      obtain ⟨loads, hloads, hflat⟩ := bind_ok.mp hsettled
      cases hflat
      obtain ⟨rs, hload, hall⟩ := loadEpochReceipts_ok h (hepochs epoch List.mem_cons_self)
      refine ⟨rs ++ loads.flatten, ?_, ?_⟩
      · rw [settledReceipts, List.mapM_cons, hload, hloads]
        rfl
      · exact List.rel_append hall hrest

/-- **Every chunk and every counter is stored, and settled, at most once**, in every run, and an
action that is refused or fails leaves the lane as it was. -/
theorem settled_at_most_once (e : Secp256k1) (ks : List LaneAction) :
    ((Lane.history e ks).map fun v => (v.receipt.sessionId, v.receipt.chunkSeq)).Nodup
      ∧ ((Lane.history e ks).map fun v =>
        (v.receipt.operatorWallet, v.receipt.gatewayId, v.receipt.counter)).Nodup
      ∧ List.Forall₂ RowOf (Lane.history e ks) (Lane.run e ks).db.receipts
      ∧ (∀ epochs : List (Word 64), epochs.Nodup → (∀ epoch ∈ epochs, epoch.val < 2 ^ 63) →
        ∃ settled, settledReceipts (Lane.run e ks).db epochs = .ok settled
          ∧ List.Forall₂ (fun row r => row.stored = .ok r)
            (settledRows (Lane.run e ks).db epochs) settled
          ∧ ((settledRows (Lane.run e ks).db epochs).map (·.chunkKey)).Nodup
          ∧ ((settledRows (Lane.run e ks).db epochs).map (·.counterKey)).Nodup)
      ∧ ∀ k err, ((Lane.run e ks).act e k).1 = .error err →
        ((Lane.run e ks).act e k).2 = Lane.run e ks := by
  have hkept := Lane.kept_run e ks
  refine ⟨hkept.nodup_chunks, hkept.nodup_counters, hkept.rows, fun epochs hepochs hfits => ?_,
    fun k err h => ?_⟩
  · obtain ⟨settled, hsettled, hrows⟩ := settledReceipts_ok (Lane.stored_run e ks) hfits
    exact ⟨settled, hsettled, hrows, settledRows_nodup hkept.chunks hepochs,
      settledRows_nodup hkept.counters hepochs⟩
  · exact ((Lane.run e ks).act_steps e k).2 err h

/-! ## A session of the operator 1 -/

/-- The intent of the session 5, at the given price. -/
def sampleIntent (price : Word 128) : ProxySessionIntent :=
  ⟨8000000000001, 5, 1, 6, 7, 0, 9, 10485760, 100, 200, price⟩

def sampleReceipt (seq : Word 64) (kind : ChunkKind) (bytes : Word 64) (price : Word 128)
    (intentHash : Bytes32) : BytesTransferredReceipt :=
  ⟨8000000000001, 5, seq, kind, 1, 6, 7, 0, 9, bytes, seq, intentHash, 8, 100, 200, price⟩

def sampleSignature (signer : UInt8) : List UInt8 := List.replicate 65 signer

def sampleWitness (r : BytesTransferredReceipt) : GatewayWitness :=
  ⟨r.receiptStructHash, 7, r.bytesTransferred, 0, 150⟩

def sampleBundle (r : BytesTransferredReceipt) (price : Word 128) : ProxyReceiptBundle :=
  ⟨r, sampleIntent price, sampleWitness r, sampleSignature 1, sampleSignature 2, sampleSignature 3⟩

/-- A curve on which a signature names its signer. -/
def sampleSigners : Secp256k1 := ⟨fun _ signature => .ok (Fin.ofNat _ (signature.headD 0).toNat)⟩

def sampleContext : VerifyContext :=
  ⟨31337, 4, 8000000000001, 150, 9, 1,
    ⟨fun _ => some 2, fun _ => some 3, fun _ => none, fun _ => none⟩⟩

/-- What the store is given of it. -/
def sampleVerified (r : BytesTransferredReceipt) (price : Word 128) : VerifiedReceipt where
  receipt := r
  intent := sampleIntent price
  witness := sampleWitness r
  receiptHash := keccak256 (utf8 (write r.canonicalValue.val))
  receiptStructHash := r.receiptStructHash
  intentStructHash := (sampleIntent price).intentStructHash
  operatorSigner := 1
  consumerSigner := 2
  gatewaySigner := 3
  operatorSig := sampleSignature 1
  consumerSig := sampleSignature 2
  gatewaySig := sampleSignature 3
  chainId := 31337
  verifyingContract := 4

theorem sample_recover {stage : VerifyStage} {party : SigningParty} {digest : Bytes32}
    {signer : UInt8} {expected : Address} (h : Fin.ofNat _ signer.toNat = expected) :
    recoverExpecting sampleSigners stage party digest (sampleSignature signer) expected
      = .ok expected := by
  have hrecover : sampleSigners.recoverSigner digest (sampleSignature signer) = .ok expected := by
    rw [Secp256k1.recoverSigner, require,
      if_pos (by rw [sampleSignature, List.length_replicate]), ← h]
    rfl
  rw [recoverExpecting, hrecover]
  show (do require (expected = expected) _; pure expected) = _
  rw [require, if_pos rfl]
  rfl

theorem sample_verify {seq : Word 64} {kind : ChunkKind} {bytes : Word 64} {price : Word 128}
    {hash : Bytes32} (hhash : (sampleIntent price).intentStructHash = hash) (hnonzero : hash ≠ 0)
    (hprice : minPriceGoatWeiPerMebibyte ≤ price.val ∧ price.val ≤ maxPriceGoatWeiPerMebibyte)
    (hchunk : checkChunkSize kind bytes = .ok ()) (hbytes : bytes ≤ 10485760) :
    verifyReceiptBundle sampleSigners (sampleBundle (sampleReceipt seq kind bytes price hash) price)
      sampleContext = .ok (sampleVerified (sampleReceipt seq kind bytes price hash) price) := by
  generalize hr : sampleReceipt seq kind bytes price hash = r
  have hstructural : stageStructural (sampleBundle r price) sampleContext
      = .ok (keccak256 (utf8 (write r.canonicalValue.val))) := by
    have hfields : checkFields .zeroField (nonzeroFields r) = .ok () := by
      subst hr
      simp [nonzeroFields, checkFields, sampleReceipt, require, hnonzero]
      rfl
    refine bind_ok₂.mpr ⟨(), require_ok.mpr (by decide), (), rfl, ?_⟩
    refine bind_ok₃.mpr ⟨(), rfl, (), rfl, (), hfields, ?_⟩
    refine bind_ok₂.mpr ⟨(), require_ok.mpr (by subst hr; exact hprice), (), ?_, ?_⟩
    · subst hr
      exact require_ok.mpr (by decide : (100 : Word 64) < 200)
    · show r.canonicalHash.mapError _ = _
      rw [r.canonicalHash_eq]
      rfl
  have hepoch : stageEpochSpace (sampleBundle r price) sampleContext = .ok () := by
    subst hr
    rfl
  have hsize : stageChunkSizeRule (sampleBundle r price) = .ok () := by
    subst hr
    rw [stageChunkSizeRule]
    show (checkChunkSize kind bytes).mapError _ = _
    rw [hchunk]
    rfl
  have hwindow : stageValidityWindow (sampleBundle r price) sampleContext = .ok () := by
    subst hr
    rfl
  have hintent : stageIntentBinding (sampleBundle r price) sampleContext
      = .ok (sampleIntent price).intentStructHash := by
    refine bind_ok₂.mpr ⟨(), require_ok.mpr ?_, (), require_ok.mpr rfl, ?_⟩
    · subst hr
      exact hhash.symm
    · exact bind_ok.mpr ⟨(), require_ok.mpr (by decide : (0 : Word 64) < 1), rfl⟩
  have hcross : stageCrossFieldAgreement (sampleBundle r price) = .ok () := by
    subst hr
    refine bind_ok.mpr ⟨(), ?_, require_ok.mpr hbytes⟩
    simp [sampleBundle, sharedFields, checkFields, sampleReceipt, sampleIntent, require]
    rfl
  have hself : stageSelfDealing (sampleBundle r price) sampleContext = .ok () := rfl
  have hoperator :
    stageOperatorSignature sampleSigners (sampleBundle r price) sampleContext = .ok 1 := by
    subst hr
    exact sample_recover rfl
  have hconsumer :
    stageConsumerSignature sampleSigners (sampleBundle r price) sampleContext = .ok 2 :=
    sample_recover rfl
  have hgateway : stageGatewayWitness sampleSigners (sampleBundle r price) sampleContext
      r.receiptStructHash = .ok 3 := by
    refine bind_ok₂.mpr ⟨(), require_ok.mpr rfl, (), require_ok.mpr ?_, ?_⟩
    · subst hr
      rfl
    · refine bind_ok₂.mpr ⟨(), require_ok.mpr rfl, (), require_ok.mpr ?_, ?_⟩
      · subst hr
        exact (by decide : (100 : Word 64) ≤ 150 ∧ (150 : Word 64) ≤ 200)
      · exact sample_recover rfl
  exact bind_ok₄.mpr ⟨_, hstructural, _, hepoch, _, hsize, _, hwindow,
    bind_ok₄.mpr ⟨_, hintent, _, hcross, _,
    hself, _, hoperator, bind_ok₂.mpr ⟨_, hconsumer, _, hgateway, rfl⟩⟩⟩

/-- The hashes of the intents at one wei and at two for each byte. -/
def sampleIntentHash : Bytes32 := 0x74593127d9d935dcec4ce55944a1c503bcd7851206f1ac0568f37817fede2077
def sampleDearerHash : Bytes32 := 0x198b84f72410a550787065732b5a048d22942847818c86d2bbb64cefaf094fea

theorem sampleIntent_hashes : (sampleIntent 1048576).intentStructHash = sampleIntentHash
    ∧ (sampleIntent 2097152).intentStructHash = sampleDearerHash := by
  have htypehash : keccakText intentTypehashStr
      = 0x5749e260f18257dabd677552d7566d6074c47d90e5f441761509d2c586167be4 := by
    rw [intentTypehashStr, keccakText_ofList, keccak256_eval]
    decide +kernel
  rw [ProxySessionIntent.intentStructHash, ProxySessionIntent.intentStructHash, structBytes,
    structBytes, htypehash, keccak256_eval, keccak256_eval]
  decide +kernel

/-- The first chunk of the session, of 10 MiB. -/
def sampleFirst : BytesTransferredReceipt :=
  sampleReceipt 0 .interim 10485760 1048576 sampleIntentHash

theorem sampleFirst_verify : verifyReceiptBundle sampleSigners (sampleBundle sampleFirst 1048576)
    sampleContext = .ok (sampleVerified sampleFirst 1048576) :=
  sample_verify (And.left sampleIntent_hashes) (by decide) (by decide) rfl (by decide)

/-- The first chunk is verified, stored, and offered again. -/
def sampleStored : List LaneAction :=
  [.verify (sampleBundle sampleFirst 1048576) sampleContext, .insert 0 150 none]

theorem sampleFirst_rows :
    ∃ intent row, rowsOf (sampleVerified sampleFirst 1048576) 150 = .ok (intent, row) :=
  ⟨_, _, rfl⟩

theorem sampleStored_run : ∃ intents row, RowOf (sampleVerified sampleFirst 1048576) row
    ∧ Lane.run sampleSigners sampleStored
      = ⟨⟨intents, [row], [], []⟩, [sampleVerified sampleFirst 1048576]⟩ := by
  obtain ⟨intent, row, hrows⟩ := sampleFirst_rows
  have hinsert :=
    ProxyDb.empty.insertVerifiedReceipt_ok (verified_of_verify sampleFirst_verify) hrows
    List.not_mem_nil List.not_mem_nil List.not_mem_nil
  refine ⟨(ProxyDb.empty.insertOrIgnoreIntent intent).intents, row, (rowsOf_ok hrows).2, ?_⟩
  rw [Lane.run, sampleStored, List.foldl_cons, Lane.step_verify _ sampleFirst_verify,
    List.foldl_cons, List.foldl_nil]
  exact Lane.step_insert _ rfl hinsert

/-- A replay is refused, and the lane is as before. -/
theorem settled_at_most_once_sample :
    (∃ settled, settledReceipts (Lane.run sampleSigners sampleStored).db [8000000000001]
      = .ok settled)
      ∧ ((Lane.run sampleSigners sampleStored).act sampleSigners (.insert 0 160 none)).2
        = Lane.run sampleSigners sampleStored := by
  obtain ⟨-, -, -, hsettled, hrefused⟩ := settled_at_most_once sampleSigners sampleStored
  obtain ⟨settled, hok, -⟩ := hsettled [8000000000001] (List.nodup_singleton _) fun epoch h => by
    rw [List.mem_singleton.mp h]
    decide
  refine ⟨⟨settled, hok⟩, ?_⟩
  obtain ⟨intents, row, hrow, hrun⟩ := sampleStored_run
  have herror : ∃ err,
      ((Lane.run sampleSigners sampleStored).act sampleSigners (.insert 0 160 none)).1
      = .error err := by
    rw [hrun]
    rcases ProxyDb.insertVerifiedReceipt_cases ⟨intents, [row], [], []⟩
      (sampleVerified sampleFirst 1048576) 160 none with ⟨err, hinsert⟩ | ⟨db, -, hstores, -⟩
    · exact ⟨_, Lane.act_insert_error _ rfl hinsert⟩
    · obtain ⟨intent, row', hrows, -, -, hchunk, -⟩ := hstores.row
      have hrow' := (rowsOf_ok hrows).2
      have hkey : row'.chunkKey = row.chunkKey := by
        rw [ReceiptRow.chunkKey, ReceiptRow.chunkKey, hrow.session, hrow'.session, hrow.chunkSeq,
          hrow'.chunkSeq]
      exact absurd (List.mem_singleton.mpr hkey) hchunk
  obtain ⟨err, herr⟩ := herror
  exact hrefused _ err herr

end GoatCoin.Attestor
