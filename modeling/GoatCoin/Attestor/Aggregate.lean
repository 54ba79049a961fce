/-
# `GoatCoin.Attestor.Aggregate` — the folds and the batch of `aggregate.rs`

Stored receipts become sessions, sessions become operators, and operators become the leaves of an
epoch's batch:

    foldSessionTotals     the bytes and the chunks of a session, all of one operator
    foldOperatorTotals    the bytes of its sessions, each valued at the price of its receipts
    buildProxyEpochBatch  the split again, the controls, the pool, the tree and the evidence

A sum of words is checked at every addition.  As the sums only grow, the chain succeeds exactly if
the whole sum fits, and then it is the whole sum: that makes the folds blind to the order of their
rows, but for the price, where the last row of a session is the one that counts.
-/
import GoatCoin.Attestor.Fraud

namespace GoatCoin.Attestor

open Evm Wire

/-! ## Words -/

inductive AggregateError where
  | overflow (what : String)
  | takeOutOfBand (bps : Word 32)
  | malformedSessionId (hex : String)
  | malformedOperatorWallet (hex : String)
  | sessionOperatorMismatch (sessionIdHex : String)
  | missingSessionPrice (sessionIdHex : String)
  | epochNotInProxySpace (epochId : Word 64)
  | poolWouldBeOverdrawn (gross allocatable funded reserve : Word 128)
  | operatorOverByteCeiling (operator : String) (claimed ceiling : Word 128)
  | byteTotalNotStorable (operator : String) (totalBytes : Word 128)
  | inconsistentSplit (operator : String) (gross payout protocol : Word 128) (takeBps : Word 32)
  | duplicateOperator (operator : String)
  | evidenceNotCanonical (detail : CanonicalJsonError)
  | emptyBatch
  | fraud (e : FraudError)

section
variable {w : Nat}

/-- `checked_add`. -/
def checkedAdd (a b : Word w) (what : String) : Except AggregateError (Word w) :=
  if h : a.val + b.val < 2 ^ w then .ok ⟨a.val + b.val, h⟩ else .error (.overflow what)

/-- `checked_mul`. -/
def checkedMul (a b : Word w) (what : String) : Except AggregateError (Word w) :=
  if h : a.val * b.val < 2 ^ w then .ok ⟨a.val * b.val, h⟩ else .error (.overflow what)

/-- A quotient of words. -/
def wordDiv (a : Word w) (n : Nat) : Word w :=
  ⟨a.val / n, Nat.lt_of_le_of_lt (Nat.div_le_self _ _) a.isLt⟩

/-- `saturating_sub`, and a difference that is known not to be negative. -/
def saturatingSub (a b : Word w) : Word w :=
  ⟨a.val - b.val, Nat.lt_of_le_of_lt (Nat.sub_le _ _) a.isLt⟩

theorem checkedAdd_ok {a b c : Word w} {what : String} :
    checkedAdd a b what = .ok c ↔ c.val = a.val + b.val := by
  unfold checkedAdd
  split
  · rename_i h
    rw [Except.ok.injEq, Fin.ext_iff]
    exact eq_comm
  · rename_i h
    exact ⟨nofun, fun heq => absurd (heq ▸ c.isLt) h⟩

theorem checkedMul_ok {a b c : Word w} {what : String} :
    checkedMul a b what = .ok c ↔ c.val = a.val * b.val := by
  unfold checkedMul
  split
  · rename_i h
    rw [Except.ok.injEq, Fin.ext_iff]
    exact eq_comm
  · rename_i h
    exact ⟨nofun, fun heq => absurd (heq ▸ c.isLt) h⟩

end

/-- `u128::from`. -/
def u128From (a : Word 64) : Word 128 := ⟨a.val, Nat.lt_trans a.isLt (by decide)⟩

/-! ## Money -/

def mebibyte : Nat := 1048576
def minTakeBps : Nat := 800
def maxTakeBps : Nat := 1000
def maxStorableBytes : Nat := 2 ^ 63 - 1

def grossForSession (totalBytes priceGoatWeiPerMebibyte : Word 128) :
    Except AggregateError (Word 128) := do
  let product ← checkedMul totalBytes priceGoatWeiPerMebibyte "bytes * price"
  pure (wordDiv product mebibyte)

/-- The band of the take. -/
def inTakeBand (takeBps : Word 32) : Prop := minTakeBps ≤ takeBps.val ∧ takeBps.val ≤ maxTakeBps

instance (takeBps : Word 32) : Decidable (inTakeBand takeBps) :=
  inferInstanceAs (Decidable (_ ∧ _))

/-- `split_gross`: what the floor leaves over is the protocol's. -/
def splitGross (grossGoatWei : Word 128) (protocolTakeBps : Word 32) :
    Except AggregateError (Word 128 × Word 128) := do
  require (inTakeBand protocolTakeBps) (.takeOutOfBand protocolTakeBps)
  let operatorBps : Word 128 := Fin.ofNat _ (bpsDenom - protocolTakeBps.val)
  let product ← checkedMul grossGoatWei operatorBps "gross * operator_bps"
  let operator := wordDiv product bpsDenom
  pure (operator, saturatingSub grossGoatWei operator)

def checkOperatorByteCeiling (operator : Address) (claimed ceiling : Word 128) :
    Except AggregateError Unit :=
  require (claimed ≤ ceiling) (.operatorOverByteCeiling (hexOf 20 operator.val) claimed ceiling)

/-- `storable_byte_total`: its result is read by nobody here. -/
def storableByteTotal (operator : Address) (totalBytes : Word 128) : Except AggregateError Unit :=
  require (totalBytes.val ≤ maxStorableBytes)
    (.byteTotalNotStorable (hexOf 20 operator.val) totalBytes)

/-! ## Identifiers -/

/-- `trim_start_matches("0x")`: as often as it stands there. -/
def trimMark : List Char → List Char
  | '0' :: 'x' :: rest => trimMark rest
  | text => text

/-- `decode_fixed`: `k` bytes of hexadecimal text. -/
def decodeFixed (k : Nat) (raw : String) : Option (Word (8 * k)) :=
  match Hex.decode (trimMark raw.toList) with
  | none => none
  | some bytes => if bytes.length = k then some (Fin.ofNat _ (ofLE bytes.reverse)) else none

def decodeSessionId (raw : String) : Except AggregateError Bytes32 :=
  match decodeFixed 32 raw with
  | some id => .ok id
  | none => .error (.malformedSessionId raw)

def decodeOperator (raw : String) : Except AggregateError Address :=
  match decodeFixed 20 raw with
  | some operator => .ok operator
  | none => .error (.malformedOperatorWallet raw)

/-! ## Sessions -/

/-- A session after one more receipt. -/
def addReceipt (sessionId : Bytes32) (entry : Option SessionTotal) (r : StoredReceipt) :
    Except AggregateError SessionTotal := do
  let operator ← decodeOperator r.operatorWallet
  let s := entry.getD ⟨sessionId, operator, 0, 0⟩
  require (s.operator = operator) (.sessionOperatorMismatch (hexOf 32 sessionId.val))
  let totalBytes ← checkedAdd s.totalBytes (u128From r.bytesTransferred) "session total_bytes"
  let chunkCount ← checkedAdd s.chunkCount 1 "session chunk_count"
  pure { s with totalBytes := totalBytes, chunkCount := chunkCount }

/-- The session a receipt is counted under. -/
def sessionKey (r : StoredReceipt) : Except AggregateError Bytes32 := decodeSessionId r.sessionIdHex

/-- The bytes of each session. -/
def foldSessionTotals (receipts : List StoredReceipt) :
    Except AggregateError (List SessionTotal) := do
  let bySession ← receipts.foldlM (SortedMap.turn sessionKey addReceipt) SortedMap.empty
  bySession.values.forM fun s => storableByteTotal s.operator s.totalBytes
  pure bySession.values

/-! ## Operators -/

/-- The price of a session is that of the last of its receipts. -/
def takePrice (_ : Bytes32) (_ : Option (Word 128)) (r : StoredReceipt) :
    Except AggregateError (Word 128) :=
  .ok r.priceGoatWeiPerMebibyte

def countReceipt (_ : Bytes32) (entry : Option (Word 64)) (_ : StoredReceipt) :
    Except AggregateError (Word 64) :=
  checkedAdd (entry.getD 0) 1 "receipts per session"

/-- The prices and the counts of the sessions. -/
structure Priced where
  price : SortedMap Bytes32 (Word 128)
  counts : SortedMap Bytes32 (Word 64)

/-- One receipt is priced and counted. -/
def Priced.add (p : Priced) (r : StoredReceipt) : Except AggregateError Priced := do
  let price ← SortedMap.turn sessionKey takePrice p.price r
  let counts ← SortedMap.turn sessionKey countReceipt p.counts r
  pure ⟨price, counts⟩

/-- A session without a price is refused. -/
def Priced.priceOf (p : Priced) (sessionId : Bytes32) : Except AggregateError (Word 128) :=
  match p.price.get? sessionId with
  | some price => .ok price
  | none => .error (.missingSessionPrice (hexOf 32 sessionId.val))

/-- An operator after one more session. -/
def addSession (p : Priced) (operator : Address) (entry : Option OperatorEpochTotal)
    (s : SessionTotal) :
    Except AggregateError OperatorEpochTotal := do
  let price ← p.priceOf s.sessionId
  let gross ← grossForSession s.totalBytes price
  let t := entry.getD ⟨operator, 0, 0, 0, 0, 0⟩
  let totalBytes ← checkedAdd t.totalBytes s.totalBytes "operator total_bytes"
  let receiptCount ← checkedAdd t.receiptCount ((p.counts.get? s.sessionId).getD 0)
    "operator receipt_count"
  let grossGoatWei ← checkedAdd t.grossGoatWei gross "operator gross"
  pure { t with
         totalBytes := totalBytes, receiptCount := receiptCount, grossGoatWei := grossGoatWei }

/-- The bounds of an operator, and its split. -/
def settleTotal (protocolTakeBps : Word 32) (byteCeiling : Word 128) (t : OperatorEpochTotal) :
    Except AggregateError OperatorEpochTotal := do
  checkOperatorByteCeiling t.operator t.totalBytes byteCeiling
  storableByteTotal t.operator t.totalBytes
  let (payout, protocol) ← splitGross t.grossGoatWei protocolTakeBps
  pure { t with payoutGoatWei := payout, protocolGoatWei := protocol }

def foldOperatorTotals (receipts : List StoredReceipt) (sessionTotals : List SessionTotal)
    (protocolTakeBps : Word 32) (byteCeiling : Word 128) :
    Except AggregateError (List OperatorEpochTotal) := do
  let priced ← receipts.foldlM Priced.add ⟨.empty, .empty⟩
  let perOperator ← sessionTotals.foldlM
    (SortedMap.turn (fun s => .ok s.operator) (addSession priced)) SortedMap.empty
  perOperator.values.mapM (settleTotal protocolTakeBps byteCeiling)

/-! ## The batch -/

/-- `EpochFraudControls`: the views that the controls are run on, and their bounds. -/
structure EpochFraudControls where
  receipts : List StoredReceipt
  sessions : List SessionTotal
  consumerOf : Bytes32 → Bytes32
  rootOf : Address → Option Address
  clusterByteCeiling : Word 128
  pairConcentrationCapBps : Word 32

structure ProxyEpochBatch where
  epochId : Word 64
  leaves : List ProxyLeaf
  merkleRoot : Bytes32
  merkleRootHex : String
  evidenceRef : Bytes32
  totalGrossGoatWei : Word 128
  totalPayoutGoatWei : Word 128
  totalProtocolGoatWei : Word 128
  fundedGoatWei : Word 128
  reserveGoatWei : Word 128

/-- Every total is the split of its own gross, and no operator comes twice. -/
def checkTotals (protocolTakeBps : Word 32) :
    List Address → List OperatorEpochTotal → Except AggregateError Unit
  | _, [] => .ok ()
  | seen, t :: totals => do
      require (t.operator ∉ seen) (.duplicateOperator (hexOf 20 t.operator.val))
      let (payout, protocol) ← splitGross t.grossGoatWei protocolTakeBps
      let refusal := AggregateError.inconsistentSplit (hexOf 20 t.operator.val) t.grossGoatWei
        t.payoutGoatWei t.protocolGoatWei protocolTakeBps
      require (t.payoutGoatWei = payout ∧ t.protocolGoatWei = protocol) refusal
      let sum ← checkedAdd payout protocol "split sum"
      require (sum = t.grossGoatWei) refusal
      checkTotals protocolTakeBps (t.operator :: seen) totals

/-- The sums of an epoch: gross, operators' share, protocol's share. -/
def addTotal (sums : Word 128 × Word 128 × Word 128) (t : OperatorEpochTotal) :
    Except AggregateError (Word 128 × Word 128 × Word 128) := do
  let gross ← checkedAdd sums.1 t.grossGoatWei "epoch gross"
  let payout ← checkedAdd sums.2.1 t.payoutGoatWei "epoch operator share"
  let protocol ← checkedAdd sums.2.2 t.protocolGoatWei "epoch protocol share"
  pure (gross, payout, protocol)

def leafOfTotal (epochId : Word 64) (t : OperatorEpochTotal) : ProxyLeaf :=
  ⟨t.operator, epochId, t.totalBytes, t.payoutGoatWei⟩

/-- The evidence of a batch. -/
def evidence (epochId : Word 64) (rootHex : String) (sums : Word 128 × Word 128 × Word 128)
    (funded reserve : Word 128) : Json := .ofMembers
  [ ("schemaId", .string "GOAT_PROXY_EPOCH_EVIDENCE_V1"),
    ("epochId", .string (toString epochId.val)),
    ("merkleRoot", .string rootHex),
    ("totalGrossGoatWei", .string (toString sums.1.val)),
    ("totalPayoutGoatWei", .string (toString sums.2.1.val)),
    ("totalProtocolGoatWei", .string (toString sums.2.2.val)),
    ("fundedGoatWei", .string (toString funded.val)),
    ("reserveGoatWei", .string (toString reserve.val)) ]

def buildProxyEpochBatch (epochId : Word 64) (totals : List OperatorEpochTotal)
    (controls : EpochFraudControls) (fundedGoatWei reserveGoatWei : Word 128)
    (protocolTakeBps : Word 32) : Except AggregateError ProxyEpochBatch := do
  require (isProxyEpoch epochId) (.epochNotInProxySpace epochId)
  require (totals ≠ []) .emptyBatch
  require (inTakeBand protocolTakeBps) (.takeOutOfBand protocolTakeBps)
  checkTotals protocolTakeBps [] totals
  (checkSessionChunkSequences controls.receipts).mapError .fraud
  (checkClusterByteCeiling totals controls.rootOf controls.clusterByteCeiling).mapError .fraud
  (checkPairConcentration controls.sessions controls.consumerOf controls.rootOf
    controls.pairConcentrationCapBps).mapError .fraud
  let sums ← totals.foldlM addTotal (0, 0, 0)
  let allocatable := saturatingSub fundedGoatWei reserveGoatWei
  require (sums.1 ≤ allocatable)
    (.poolWouldBeOverdrawn sums.1 allocatable fundedGoatWei reserveGoatWei)
  let leaves := totals.map (leafOfTotal epochId)
  let root := (proxyTree leaves).root
  let evidenceRef ← (canonicalHash (evidence epochId (hex32 root) sums fundedGoatWei
    reserveGoatWei)).mapError .evidenceNotCanonical
  pure ⟨epochId, leaves, root, hex32 root, evidenceRef, sums.1, sums.2.1, sums.2.2, fundedGoatWei,
    reserveGoatWei⟩

/-! ## Identifiers are read back -/

theorem trimMark_encode (bs : List UInt8) : trimMark (Hex.encode bs) = Hex.encode bs := by
  cases bs with
  | nil => rfl
  | cons b bs =>
      rw [Hex.encode, List.flatMap_cons, ← Hex.encode]
      refine trimMark.eq_2 _ fun rest h => ?_
      have hx : Hex.digit (b.toNat % 16) = 'x' := by
        injection h with _ h
        injection h
      have hdigits : ∀ n, n < 16 → Hex.digit n ≠ 'x' := by decide
      exact hdigits _ (Nat.mod_lt _ (by decide)) hx

theorem decodeFixed_hexOf {k : Nat} (n : Word (8 * k)) :
    decodeFixed k (hexOf k n.val) = some n := by
  have hlt : n.val < 256 ^ k := by
    have hpow : 2 ^ (8 * k) = 256 ^ k := by rw [Nat.pow_mul]
    exact hpow ▸ n.isLt
  rw [decodeFixed, hexOf, String.toList_ofList, trimMark_encode, Hex.decode_encode]
  dsimp only
  rw [if_pos (length_toBE k n.val), toBE, List.reverse_reverse, ofLE_toLE k n.val hlt]
  exact congrArg some (Fin.ext (Nat.mod_eq_of_lt n.isLt))

theorem decodeSessionId_hexOf (id : Bytes32) : decodeSessionId (hexOf 32 id.val) = .ok id := by
  rw [decodeSessionId, @decodeFixed_hexOf 32 id]

theorem decodeOperator_hexOf (operator : Address) :
    decodeOperator (hexOf 20 operator.val) = .ok operator := by
  rw [decodeOperator, @decodeFixed_hexOf 20 operator]

/-! ## Prices and counts -/

variable {receipts : List StoredReceipt} {p : Priced} {id : Bytes32} {gross price : Word 128}
  {takeBps : Word 32} {t t' : OperatorEpochTotal}

theorem Priced.foldlM_add : ∀ {p p' : Priced},
    receipts.foldlM Priced.add p = .ok p' ↔
      receipts.foldlM (SortedMap.turn sessionKey takePrice) p.price = .ok p'.price
        ∧ receipts.foldlM (SortedMap.turn sessionKey countReceipt) p.counts = .ok p'.counts := by
  induction receipts with
  | nil =>
      intro p p'
      constructor
      · intro h
        cases h
        exact ⟨rfl, rfl⟩
      · rintro ⟨hprice, hcounts⟩
        cases p
        cases p'
        cases hprice
        cases hcounts
        rfl
  | cons r receipts ih =>
      intro p p'
      simp only [List.foldlM_cons]
      constructor
      · intro h
        obtain ⟨mid, hadd, hrest⟩ := bind_ok.mp h
        obtain ⟨price, hprice, counts, hcounts, hadd⟩ := bind_ok₂.mp hadd
        cases hadd
        obtain ⟨hprices, hcountss⟩ := ih.mp hrest
        exact ⟨bind_ok.mpr ⟨price, hprice, hprices⟩, bind_ok.mpr ⟨counts, hcounts, hcountss⟩⟩
      · rintro ⟨hprice, hcounts⟩
        obtain ⟨price, hprice, hprices⟩ := bind_ok.mp hprice
        obtain ⟨counts, hcounts, hcountss⟩ := bind_ok.mp hcounts
        refine bind_ok.mpr ⟨⟨price, counts⟩, ?_, ih.mpr ⟨hprices, hcountss⟩⟩
        exact bind_ok₂.mpr ⟨price, hprice, counts, hcounts, rfl⟩

theorem gathered_takePrice (id : Bytes32) (receipts : List StoredReceipt) (o : Option (Word 128)) :
    SortedMap.gathered sessionKey takePrice id receipts o
      = .ok (((SortedMap.itemsOf sessionKey id receipts).getLast?.map
        StoredReceipt.priceGoatWeiPerMebibyte).or o) := by
  rw [SortedMap.gathered]
  generalize SortedMap.itemsOf sessionKey id receipts = items
  induction items generalizing o with
  | nil => rfl
  | cons r items ih =>
      rw [List.foldlM_cons]
      refine (ih (some r.priceGoatWeiPerMebibyte)).trans (congrArg Except.ok ?_)
      rw [List.getLast?_cons]
      cases items.getLast? <;> rfl

theorem price_of_priced
    (h : receipts.foldlM Priced.add ⟨.empty, .empty⟩ = .ok p)
    (hprice : p.price.get? id = some price) :
    ∃ r ∈ receipts, sessionKey r = .ok id ∧ r.priceGoatWeiPerMebibyte = price := by
  have hgathered := (SortedMap.gather.mp (Priced.foldlM_add.mp h).1).2 id
  rw [gathered_takePrice, hprice, SortedMap.get?_empty, Option.or_none] at hgathered
  obtain ⟨r, hlast, hr⟩ := Option.map_eq_some_iff.mp (Except.ok.inj hgathered)
  obtain ⟨hmem, hkey⟩ := SortedMap.mem_itemsOf.mp (List.mem_of_getLast? hlast)
  exact ⟨r, hmem, hkey, hr⟩

theorem priced_of_mem
    (h : receipts.foldlM Priced.add ⟨.empty, .empty⟩ = .ok p) {r : StoredReceipt}
    (hr : r ∈ receipts) (hkey : sessionKey r = .ok id) : ∃ price, p.price.get? id = some price := by
  have hgathered := (SortedMap.gather.mp (Priced.foldlM_add.mp h).1).2 id
  rw [gathered_takePrice, SortedMap.get?_empty, Option.or_none] at hgathered
  have hne : SortedMap.itemsOf sessionKey id receipts ≠ [] :=
    List.ne_nil_of_mem (SortedMap.mem_itemsOf.mpr ⟨hr, hkey⟩)
  rw [List.getLast?_eq_some_getLast hne, Option.map_some] at hgathered
  exact ⟨_, (Except.ok.inj hgathered).symm⟩

theorem exists_gathered_countReceipt : ∀ {o : Option (Word 64)},
    (o.getD 0).val + (SortedMap.itemsOf sessionKey id receipts).length < 2 ^ 64 →
      ∃ o', SortedMap.gathered sessionKey countReceipt id receipts o = .ok o' := by
  unfold SortedMap.gathered
  generalize SortedMap.itemsOf sessionKey id receipts = items
  induction items with
  | nil => exact fun {o} _ => ⟨o, rfl⟩
  | cons r items ih =>
      intro o h
      rw [List.length_cons] at h
      have hlt : (o.getD 0).val + (1 : Word 64).val < 2 ^ 64 := by
        show (o.getD 0).val + 1 < _
        omega
      have hrest : (o.getD 0).val + 1 + items.length < 2 ^ 64 := by omega
      obtain ⟨o', ho'⟩ := ih (o := some ⟨_, hlt⟩) hrest
      exact ⟨o', (SortedMap.foldlM_some_cons r items o o').mpr ⟨_, checkedAdd_ok.mpr rfl, ho'⟩⟩

theorem exists_priced (hkeys : ∀ r ∈ receipts, ∃ id, sessionKey r = .ok id)
    (hcount : ∀ id, (SortedMap.itemsOf sessionKey id receipts).length < 2 ^ 64) :
    ∃ p, receipts.foldlM Priced.add ⟨.empty, .empty⟩ = .ok p := by
  obtain ⟨price, hprice⟩ := SortedMap.exists_gather (m := SortedMap.empty) hkeys fun id =>
    ⟨_, gathered_takePrice id receipts _⟩
  obtain ⟨counts, hcounts⟩ := SortedMap.exists_gather (m := SortedMap.empty) hkeys fun id =>
    exists_gathered_countReceipt (by
      rw [SortedMap.get?_empty]
      show 0 + _ < _
      rw [Nat.zero_add]
      exact hcount id)
  exact ⟨⟨price, counts⟩, Priced.foldlM_add.mpr ⟨hprice, hcounts⟩⟩

/-! ## Sums -/

theorem splitGross_ok {payout protocol : Word 128} :
    splitGross gross takeBps = .ok (payout, protocol) ↔ inTakeBand takeBps
      ∧ gross.val * (bpsDenom - takeBps.val) < 2 ^ 128
      ∧ payout.val = gross.val * (bpsDenom - takeBps.val) / bpsDenom
      ∧ protocol.val = gross.val - payout.val := by
  have hbps : (Fin.ofNat (2 ^ 128) (bpsDenom - takeBps.val)).val = bpsDenom - takeBps.val :=
    Nat.mod_eq_of_lt (Nat.lt_of_le_of_lt (Nat.sub_le _ _) (by decide))
  constructor
  · intro h
    obtain ⟨_, hband, product, hproduct, h⟩ := bind_ok₂.mp h
    have hval := checkedMul_ok.mp hproduct
    rw [hbps] at hval
    cases h
    exact ⟨require_ok.mp hband, hval ▸ product.isLt, congrArg (· / bpsDenom) hval, rfl⟩
  · rintro ⟨hband, hlt, hpayout, hprotocol⟩
    refine bind_ok₂.mpr ⟨(), require_ok.mpr hband, ⟨_, hlt⟩, checkedMul_ok.mpr ?_, ?_⟩
    · rw [hbps]
    · refine congrArg Except.ok (Prod.ext (Fin.ext hpayout.symm) (Fin.ext ?_))
      rw [hprotocol, hpayout]
      rfl

/-- No coin is made by a split, and none is lost. -/
theorem split_sum {payout protocol : Word 128}
    (h : splitGross gross takeBps = .ok (payout, protocol)) :
    gross.val = payout.val + protocol.val := by
  obtain ⟨-, -, hpayout, hprotocol⟩ := splitGross_ok.mp h
  have hle : payout.val ≤ gross.val := by
    rw [hpayout]
    refine Nat.div_le_of_le_mul ?_
    rw [Nat.mul_comm bpsDenom]
    exact Nat.mul_le_mul_left _ (Nat.sub_le _ _)
  omega

/-- An operator to which bytes, receipts and coins were added. -/
structure Adds (t t' : OperatorEpochTotal) (bytes count gross : Nat) : Prop where
  operator : t'.operator = t.operator
  totalBytes : t'.totalBytes.val = t.totalBytes.val + bytes
  receiptCount : t'.receiptCount.val = t.receiptCount.val + count
  grossGoatWei : t'.grossGoatWei.val = t.grossGoatWei.val + gross
  payoutGoatWei : t'.payoutGoatWei = t.payoutGoatWei
  protocolGoatWei : t'.protocolGoatWei = t.protocolGoatWei

theorem Adds.append {bytes count gross bytes' count' gross' : Nat} :
    Adds t t' (bytes + bytes') (count + count') (gross + gross') ↔
      ∃ mid, Adds t mid bytes count gross ∧ Adds mid t' bytes' count' gross' := by
  constructor
  · intro h
    have hbytes := h.totalBytes
    have hcount := h.receiptCount
    have hgross := h.grossGoatWei
    have hbytes' : t.totalBytes.val + bytes < 2 ^ 128 :=
      Nat.lt_of_le_of_lt (by omega) t'.totalBytes.isLt
    have hcount' : t.receiptCount.val + count < 2 ^ 64 :=
      Nat.lt_of_le_of_lt (by omega) t'.receiptCount.isLt
    have hgross' : t.grossGoatWei.val + gross < 2 ^ 128 :=
      Nat.lt_of_le_of_lt (by omega) t'.grossGoatWei.isLt
    rw [← Nat.add_assoc] at hbytes hcount hgross
    exact ⟨⟨t.operator, ⟨_, hbytes'⟩, ⟨_, hcount'⟩, ⟨_, hgross'⟩, t.payoutGoatWei,
      t.protocolGoatWei⟩, ⟨rfl, rfl, rfl, rfl, rfl, rfl⟩,
      ⟨h.operator, hbytes, hcount, hgross, h.payoutGoatWei, h.protocolGoatWei⟩⟩
  · rintro ⟨mid, h, h'⟩
    exact ⟨h'.operator.trans h.operator, by rw [h'.totalBytes, h.totalBytes, Nat.add_assoc],
      by rw [h'.receiptCount, h.receiptCount, Nat.add_assoc],
      by rw [h'.grossGoatWei, h.grossGoatWei, Nat.add_assoc],
      h'.payoutGoatWei.trans h.payoutGoatWei, h'.protocolGoatWei.trans h.protocolGoatWei⟩

theorem Adds.eq_of_zero (h : Adds t t' 0 0 0) : t' = t := by
  cases t
  cases t'
  simp only [OperatorEpochTotal.mk.injEq]
  exact ⟨h.operator, Fin.ext h.totalBytes, Fin.ext h.receiptCount, Fin.ext h.grossGoatWei,
    h.payoutGoatWei, h.protocolGoatWei⟩

/-- A session has a price, and its value can be worked out. -/
def Priced.Values (p : Priced) (s : SessionTotal) : Prop :=
  ∃ price, p.price.get? s.sessionId = some price ∧ s.totalBytes.val * price.val < 2 ^ 128

/-- What a session is worth. -/
def Priced.value (p : Priced) (s : SessionTotal) : Nat :=
  s.totalBytes.val * ((p.price.get? s.sessionId).getD 0).val / mebibyte

/-- How many receipts it has. -/
def Priced.count (p : Priced) (s : SessionTotal) : Nat := ((p.counts.get? s.sessionId).getD 0).val

theorem grossForSession_ok {totalBytes : Word 128} :
    grossForSession totalBytes price = .ok gross ↔
      totalBytes.val * price.val < 2 ^ 128 ∧ gross.val = totalBytes.val * price.val / mebibyte := by
  constructor
  · intro h
    obtain ⟨product, hproduct, h⟩ := bind_ok.mp h
    cases h
    have hval := checkedMul_ok.mp hproduct
    exact ⟨hval ▸ product.isLt, congrArg (· / mebibyte) hval⟩
  · rintro ⟨hlt, hgross⟩
    refine bind_ok.mpr ⟨⟨totalBytes.val * price.val, hlt⟩, checkedMul_ok.mpr rfl, ?_⟩
    exact congrArg Except.ok (Fin.ext hgross.symm)

theorem Priced.priceOf_ok :
    p.priceOf id = .ok price ↔ p.price.get? id = some price := by
  unfold Priced.priceOf
  cases p.price.get? id with
  | none => exact ⟨nofun, nofun⟩
  | some price' =>
      exact ⟨fun h => congrArg some (Except.ok.inj h),
        fun h => congrArg Except.ok (Option.some.inj h)⟩

theorem addSession_ok {operator : Address} {entry : Option OperatorEpochTotal}
    {s : SessionTotal} : addSession p operator entry s = .ok t ↔
      p.Values s ∧ Adds (entry.getD ⟨operator, 0, 0, 0, 0, 0⟩) t s.totalBytes.val (p.count s)
        (p.value s) := by
  have hvalue : ∀ {price}, p.price.get? s.sessionId = some price →
      p.value s = s.totalBytes.val * price.val / mebibyte := by
    intro price hprice
    rw [Priced.value, hprice, Option.getD_some]
  constructor
  · intro h
    obtain ⟨price, hprice, h⟩ := bind_ok.mp h
    rw [Priced.priceOf_ok] at hprice
    obtain ⟨gross, hgross, h⟩ := bind_ok.mp h
    obtain ⟨hlt, hgross⟩ := grossForSession_ok.mp hgross
    obtain ⟨totalBytes, hbytes, receiptCount, hcount, grossGoatWei, hwei, h⟩ := bind_ok₃.mp h
    cases h
    refine ⟨⟨price, hprice, hlt⟩, rfl, checkedAdd_ok.mp hbytes, checkedAdd_ok.mp hcount, ?_,
      rfl, rfl⟩
    rw [hvalue hprice, ← hgross]
    exact checkedAdd_ok.mp hwei
  · rintro ⟨⟨price, hprice, hlt⟩, hadds⟩
    have hfits : s.totalBytes.val * price.val / mebibyte < 2 ^ 128 :=
      Nat.lt_of_le_of_lt (Nat.div_le_self _ _) hlt
    refine bind_ok.mpr ⟨price, Priced.priceOf_ok.mpr hprice, ?_⟩
    refine bind_ok.mpr ⟨⟨_, hfits⟩, grossForSession_ok.mpr ⟨hlt, rfl⟩, ?_⟩
    refine bind_ok.mpr ⟨t.totalBytes, checkedAdd_ok.mpr hadds.totalBytes, ?_⟩
    refine bind_ok.mpr ⟨t.receiptCount, checkedAdd_ok.mpr hadds.receiptCount, ?_⟩
    refine bind_ok.mpr ⟨t.grossGoatWei, checkedAdd_ok.mpr ?_, ?_⟩
    · exact hadds.grossGoatWei.trans (by rw [hvalue hprice])
    · refine congrArg Except.ok ?_
      cases t
      simp only [OperatorEpochTotal.mk.injEq]
      exact ⟨hadds.operator.symm, trivial, trivial, trivial, hadds.payoutGoatWei.symm,
        hadds.protocolGoatWei.symm⟩

/-- **The sessions of an operator add up**, or one of them has no value, or a sum does not fit. -/
theorem gathered_addSession (p : Priced) (operator : Address) (sessions : List SessionTotal)
    (o o' : Option OperatorEpochTotal) :
    SortedMap.gathered (fun s => .ok s.operator) (addSession p) operator sessions o = .ok o' ↔
      (∀ s ∈ sessions.filter (·.operator = operator), p.Values s)
        ∧ ((sessions.filter (·.operator = operator) = [] ∧ o' = o)
          ∨ sessions.filter (·.operator = operator) ≠ [] ∧ ∃ t, o' = some t
            ∧ Adds (o.getD ⟨operator, 0, 0, 0, 0, 0⟩) t
              ((sessions.filter (·.operator = operator)).map (·.totalBytes.val)).sum
              ((sessions.filter (·.operator = operator)).map p.count).sum
              ((sessions.filter (·.operator = operator)).map p.value).sum) := by
  have hitems :
    SortedMap.itemsOf (fun s : SessionTotal => (.ok s.operator : Except AggregateError _))
      operator sessions = sessions.filter (·.operator = operator) := by
    rw [SortedMap.itemsOf]
    simp only [Except.toOption, Option.some.injEq]
  rw [SortedMap.gathered, hitems]
  generalize sessions.filter (·.operator = operator) = items
  induction items generalizing o with
  | nil =>
      constructor
      · intro h
        cases h
        exact ⟨fun s hs => absurd hs List.not_mem_nil, .inl ⟨rfl, rfl⟩⟩
      · rintro ⟨-, ⟨-, rfl⟩ | ⟨hne, -⟩⟩
        · rfl
        · exact absurd rfl hne
  | cons s items ih =>
      rw [SortedMap.foldlM_some_cons, List.forall_mem_cons, List.map_cons,
        List.map_cons, List.map_cons, List.sum_cons, List.sum_cons, List.sum_cons]
      constructor
      · rintro ⟨mid, hadd, hrest⟩
        obtain ⟨hvalues, hadds⟩ := addSession_ok.mp hadd
        obtain ⟨hall, hrest⟩ := (ih (some mid)).mp hrest
        refine ⟨⟨hvalues, hall⟩, .inr ⟨List.cons_ne_nil s items, ?_⟩⟩
        rcases hrest with ⟨rfl, rfl⟩ | ⟨-, t, rfl, hadds'⟩
        · exact ⟨mid, rfl, hadds⟩
        · exact ⟨t, rfl, Adds.append.mpr ⟨mid, hadds, hadds'⟩⟩
      · rintro ⟨⟨hvalues, hall⟩, ⟨hnil, -⟩ | ⟨-, t, rfl, hadds⟩⟩
        · cases hnil
        · obtain ⟨mid, hfirst, hrest⟩ := Adds.append.mp hadds
          refine ⟨mid, addSession_ok.mpr ⟨hvalues, hfirst⟩, (ih (some mid)).mpr ⟨hall, ?_⟩⟩
          rcases eq_or_ne items [] with rfl | hne
          · exact .inl ⟨rfl, congrArg some hrest.eq_of_zero⟩
          · exact .inr ⟨hne, t, rfl, hrest⟩

/-! ## Totals -/

theorem foldlM_addSession_perm (p : Priced) {sessions sessions' : List SessionTotal}
    (h : sessions.Perm sessions') {m m' : SortedMap Address OperatorEpochTotal} :
    sessions.foldlM (SortedMap.turn (fun s => .ok s.operator) (addSession p)) m = .ok m' ↔
      sessions'.foldlM (SortedMap.turn (fun s => .ok s.operator) (addSession p)) m = .ok m' := by
  refine SortedMap.gather_perm h fun operator o o' => ?_
  have hitems := h.filter (·.operator = operator)
  have hnil : sessions.filter (·.operator = operator) = []
      ↔ sessions'.filter (·.operator = operator) = [] := by
    rw [← List.length_eq_zero_iff, ← List.length_eq_zero_iff, hitems.length_eq]
  have hvalues : (∀ s ∈ sessions.filter (·.operator = operator), p.Values s)
      ↔ ∀ s ∈ sessions'.filter (·.operator = operator), p.Values s :=
    ⟨fun hs s hmem => hs s (hitems.mem_iff.mpr hmem),
      fun hs s hmem => hs s (hitems.mem_iff.mp hmem)⟩
  rw [gathered_addSession, gathered_addSession, hvalues, hnil, Ne, Ne, hnil,
    (hitems.map (·.totalBytes.val)).sum_eq, (hitems.map p.count).sum_eq,
    (hitems.map p.value).sum_eq]

theorem ok_of_toOption {ε α : Type} {x : Except ε α} {a : α}
    (h : x.toOption = some a) : x = .ok a := by
  cases x with
  | error err => cases h
  | ok b => exact congrArg Except.ok (Option.some.inj h)

theorem settleTotal_ok {ceiling : Word 128}
    (h : settleTotal takeBps ceiling t = .ok t') : t'.operator = t.operator
      ∧ t'.totalBytes = t.totalBytes ∧ t'.receiptCount = t.receiptCount
      ∧ t'.grossGoatWei = t.grossGoatWei
      ∧ splitGross t.grossGoatWei takeBps = .ok (t'.payoutGoatWei, t'.protocolGoatWei) := by
  obtain ⟨_, -, _, -, h⟩ := bind_ok₂.mp h
  obtain ⟨⟨payout, protocol⟩, hsplit, h⟩ := bind_ok.mp h
  cases h
  exact ⟨rfl, rfl, rfl, rfl, hsplit⟩

/-- **What a total says**: its operator has sessions, and they add up to it. -/
structure TotalOf (p : Priced) (sessions : List SessionTotal) (t : OperatorEpochTotal) : Prop where
  nonempty : sessions.filter (·.operator = t.operator) ≠ []
  valued : ∀ s ∈ sessions.filter (·.operator = t.operator), p.Values s
  totalBytes : t.totalBytes.val
    = ((sessions.filter (·.operator = t.operator)).map (·.totalBytes.val)).sum
  grossGoatWei : t.grossGoatWei.val = ((sessions.filter (·.operator = t.operator)).map p.value).sum

theorem totalOf_fold {sessions : List SessionTotal}
    {ceiling : Word 128} {totals : List OperatorEpochTotal}
    (h : foldOperatorTotals receipts sessions takeBps ceiling = .ok totals) :
    ∃ p, receipts.foldlM Priced.add ⟨.empty, .empty⟩ = .ok p ∧ ∀ t ∈ totals,
    TotalOf p sessions t := by
  obtain ⟨p, hp, perOperator, hloop, h⟩ := bind_ok₂.mp h
  refine ⟨p, hp, fun t' ht' => ?_⟩
  obtain ⟨t, ht, hsettle⟩ := exists_of_forall₂ (mapM_ok.mp h) t' ht'
  obtain ⟨hoperator, hbytes, -, hgross, -⟩ := settleTotal_ok hsettle
  obtain ⟨operator, hget⟩ := (SortedMap.mem_values_iff _ t).mp ht
  have hgathered := (SortedMap.gather.mp hloop).2 operator
  rw [hget, gathered_addSession] at hgathered
  obtain ⟨hvalues, ⟨-, hnone⟩ | ⟨hne, t₁, hsome, hadds⟩⟩ := hgathered
  · cases hnone
  · cases hsome
    have hop : t'.operator = operator := hoperator.trans hadds.operator
    subst hop
    refine ⟨hne, hvalues, ?_, ?_⟩
    · rw [hbytes, hadds.totalBytes]
      exact Nat.zero_add _
    · rw [hgross, hadds.grossGoatWei]
      exact Nat.zero_add _

end GoatCoin.Attestor
