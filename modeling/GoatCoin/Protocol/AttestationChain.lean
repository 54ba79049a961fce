/-
# `GoatCoin.Protocol.AttestationChain` — `attestation_chain.rs`: the records of a node, audited

A record is appended under three conditions and audited under two of them:

                               append     verify_integrity
    signed under the key         yes            yes
    names the hash before        yes            yes
    later epoch                  yes            no

so the audit also passes chains that could not have been built.
-/
import GoatCoin.Protocol.Attribution
import GoatCoin.Protocol.Capability

namespace GoatCoin.Protocol

inductive ChainError where
  | badSignature
  | brokenLink
  | nonIncreasingEpoch
deriving DecidableEq

/-- The records of one key. -/
structure RecordChain where
  pubkey : List UInt8
  records : List CapabilityRecord

namespace RecordChain

def new (pubkey : List UInt8) : RecordChain := ⟨pubkey, []⟩

def headHash (chain : RecordChain) : List UInt8 :=
  match chain.records.getLast? with
  | some r => recordHash r
  | none => zero32

section
-- ML-DSA verification of a public key, a message and a signature
variable (mlDsa : List UInt8 → List UInt8 → List UInt8 → Bool)

def append (chain : RecordChain) (r : CapabilityRecord) : Except ChainError RecordChain := do
  Evm.require (verifyRecordSignature mlDsa r chain.pubkey = true) .badSignature
  Evm.require (r.prevRecord = chain.headHash) .brokenLink
  Evm.require (∀ last ∈ chain.records.getLast?, last.epoch < r.epoch) .nonIncreasingEpoch
  return { chain with records := chain.records ++ [r] }

/-- The loop of the audit, from the hash it expects next. -/
def auditFrom (pubkey : List UInt8) : List UInt8 → List CapabilityRecord → Bool
  | _, [] => true
  | prev, r :: records =>
      verifyRecordSignature mlDsa r pubkey && decide (r.prevRecord = prev) && auditFrom pubkey
        (recordHash r) records

def verifyIntegrity (chain : RecordChain) : Bool :=
  auditFrom mlDsa chain.pubkey zero32 chain.records

end

def replaceRecord (chain : RecordChain) (i : Nat) (r : CapabilityRecord) : RecordChain :=
  { chain with records := chain.records.set i r }

/-! ## Appending and auditing -/

variable {mlDsa : List UInt8 → List UInt8 → List UInt8 → Bool} {pubkey : List UInt8}

theorem append_ok {chain chain' : RecordChain} {r : CapabilityRecord} :
    chain.append mlDsa r = .ok chain' ↔
    verifyRecordSignature mlDsa r chain.pubkey = true ∧ r.prevRecord = chain.headHash
      ∧ (∀ last ∈ chain.records.getLast?, last.epoch < r.epoch)
      ∧ chain' = { chain with records := chain.records ++ [r] } := by
  unfold append
  rw [Evm.bind_ok]
  constructor
  · rintro ⟨_, hsig, h⟩
    obtain ⟨_, hlink, h⟩ := Evm.bind_ok.mp h
    obtain ⟨_, hepoch, h⟩ := Evm.bind_ok.mp h
    exact ⟨Evm.require_ok.mp hsig, Evm.require_ok.mp hlink, Evm.require_ok.mp hepoch,
      (Except.ok.inj h).symm⟩
  · rintro ⟨hsig, hlink, hepoch, rfl⟩
    exact ⟨(), Evm.require_of hsig, Evm.bind_ok.mpr ⟨(), Evm.require_of hlink,
      Evm.bind_ok.mpr ⟨(), Evm.require_of hepoch, rfl⟩⟩⟩

theorem headHash_concat (done : List CapabilityRecord) (r : CapabilityRecord) :
    headHash ⟨pubkey, done ++ [r]⟩ = recordHash r := by
  unfold headHash
  rw [List.getLast?_concat]

/-- **A run of appends** goes through when the audit does and the epochs increase. -/
theorem foldlM_append_ok (records : List CapabilityRecord) : ∀ done : List CapabilityRecord,
    records.foldlM (append mlDsa) ⟨pubkey, done⟩ = .ok ⟨pubkey, done ++ records⟩ ↔
      auditFrom mlDsa pubkey (headHash ⟨pubkey, done⟩) records = true
        ∧ (done.getLast?.toList.map CapabilityRecord.epoch
          ++ records.map CapabilityRecord.epoch).IsChain (· < ·) := by
  induction records with
  | nil =>
      intro done
      refine iff_of_true ?_ ⟨rfl, ?_⟩
      · rw [List.append_nil]
        rfl
      · cases done.getLast? with
        | none => exact .nil
        | some r => exact .singleton _
  | cons r records ih =>
      intro done
      have hchain :
        (done.getLast?.toList.map CapabilityRecord.epoch ++ (r :: records).map
        CapabilityRecord.epoch).IsChain
          (· < ·) ↔ (∀ last ∈ done.getLast?, last.epoch < r.epoch)
            ∧ ([r.epoch] ++ records.map CapabilityRecord.epoch).IsChain (· < ·) := by
        cases done.getLast? with
        | none => simp
        | some last => simp
      have hih := ih (done ++ [r])
      rw [headHash_concat, List.getLast?_concat] at hih
      rw [List.foldlM_cons, Evm.bind_ok, hchain, auditFrom, Bool.and_eq_true, Bool.and_eq_true,
        decide_eq_true_iff]
      constructor
      · rintro ⟨chain', hr, hrest⟩
        obtain ⟨hsig, hlink, hepoch, rfl⟩ := append_ok.mp hr
        obtain ⟨haudit, hepochs⟩ := hih.mp (List.append_cons done r records ▸ hrest)
        exact ⟨⟨⟨hsig, hlink⟩, haudit⟩, hepoch, hepochs⟩
      · rintro ⟨⟨⟨hsig, hlink⟩, haudit⟩, hepoch, hepochs⟩
        refine ⟨_, append_ok.mpr ⟨hsig, hlink, hepoch, rfl⟩, ?_⟩
        rw [List.append_cons done r records]
        exact hih.mpr ⟨haudit, hepochs⟩

/-- The list can be built by appending its records to an empty chain. -/
def Built (mlDsa : List UInt8 → List UInt8 → List UInt8 → Bool) (pubkey : List UInt8)
    (records : List CapabilityRecord) : Prop :=
  records.foldlM (append mlDsa) (new pubkey) = .ok ⟨pubkey, records⟩

/-- Each record is of a later epoch than those before it. -/
def EpochsIncrease (records : List CapabilityRecord) : Prop :=
  (records.map CapabilityRecord.epoch).Pairwise (· < ·)

/-- A record that is not signed under the key, or does not name the hash of what is before it. -/
def Flawed (mlDsa : List UInt8 → List UInt8 → List UInt8 → Bool) (pubkey : List UInt8)
    (records : List CapabilityRecord) : Prop :=
  ∃ before r after, records = before ++ r :: after
    ∧ (verifyRecordSignature mlDsa r pubkey = false ∨ r.prevRecord ≠ headHash ⟨pubkey, before⟩)

theorem built_iff (records : List CapabilityRecord) :
    Built mlDsa pubkey records
    ↔ verifyIntegrity mlDsa ⟨pubkey, records⟩ = true ∧ EpochsIncrease records := by
  unfold EpochsIncrease
  rw [← List.isChain_iff_pairwise]
  exact foldlM_append_ok records []

theorem auditFrom_eq_false_iff (records : List CapabilityRecord) : ∀ done : List CapabilityRecord,
    auditFrom mlDsa pubkey (headHash ⟨pubkey, done⟩) records = false ↔
      ∃ before r after, records = before ++ r :: after
        ∧ (verifyRecordSignature mlDsa r pubkey = false
          ∨ r.prevRecord ≠ headHash ⟨pubkey, done ++ before⟩) := by
  induction records with
  | nil =>
      intro done
      refine iff_of_false (by rintro ⟨⟩) ?_
      rintro ⟨before, r, after, heq, -⟩
      exact absurd heq.symm (List.append_ne_nil_of_right_ne_nil _ (List.cons_ne_nil _ _))
  | cons r records ih =>
      intro done
      have hih := ih (done ++ [r])
      rw [headHash_concat] at hih
      rw [auditFrom, Bool.and_eq_false_iff, Bool.and_eq_false_iff, decide_eq_false_iff_not, hih]
      constructor
      · rintro (hr | ⟨before, r', after, rfl, hr'⟩)
        · refine ⟨[], r, records, rfl, ?_⟩
          rw [List.append_nil]
          exact hr
        · refine ⟨r :: before, r', after, rfl, ?_⟩
          rw [List.append_cons]
          exact hr'
      · rintro ⟨before, r', after, heq, hr'⟩
        cases before with
        | nil =>
            obtain ⟨rfl, rfl⟩ := List.cons.inj heq
            rw [List.append_nil] at hr'
            exact .inl hr'
        | cons r'' before =>
            obtain ⟨rfl, rfl⟩ := List.cons.inj heq
            rw [List.append_cons] at hr'
            exact .inr ⟨before, r', after, rfl, hr'⟩

theorem verifyIntegrity_eq_false_iff (records : List CapabilityRecord) :
    verifyIntegrity mlDsa ⟨pubkey, records⟩ = false ↔ Flawed mlDsa pubkey records :=
  auditFrom_eq_false_iff records []

/-- **When the audit is the construction**: the epochs increase, or a signature or a link is bad
anyway. -/
theorem audit_is_construction_iff (mlDsa : List UInt8 → List UInt8 → List UInt8 → Bool)
    (pubkey : List UInt8) (records : List CapabilityRecord) :
    (verifyIntegrity mlDsa ⟨pubkey, records⟩ = true ↔ Built mlDsa pubkey records)
      ↔ EpochsIncrease records ∨ Flawed mlDsa pubkey records := by
  rw [built_iff, ← verifyIntegrity_eq_false_iff]
  cases verifyIntegrity mlDsa ⟨pubkey, records⟩ with
  | false => exact iff_of_true ⟨fun h => Bool.noConfusion h, And.left⟩ (.inr rfl)
  | true =>
      constructor
      · intro h
        exact .inl (h.mp rfl).2
      · rintro (h | h)
        · exact ⟨fun _ => ⟨rfl, h⟩, fun _ => rfl⟩
        · cases h

/-- A record of this epoch after this hash, signed. -/
def signedRecord (epoch : Nat) (prev : List UInt8) : CapabilityRecord :=
  let r : CapabilityRecord := ⟨1, nodeIdFromPubkey [1], [], epoch, [], [], prev, .mlDsa65, []⟩
  { r with signature := [1] ++ serializeUnsigned r }

/-- A chain of two appended records, and the second replaced by one of the first's epoch: the audit
passes. -/
theorem repeated_epoch_passes :
    let first := signedRecord 5 zero32
    let second := signedRecord 6 (recordHash first)
    let again := signedRecord 5 (recordHash first)
    Built sampleMlDsa [1] [first, second]
      ∧ replaceRecord ⟨[1], [first, second]⟩ 1 again = ⟨[1], [first, again]⟩
      ∧ verifyIntegrity sampleMlDsa ⟨[1], [first, again]⟩ = true
      ∧ ¬ Built sampleMlDsa [1] [first, again] := by
  intro first second again
  have hsigned (epoch : Nat) (prev : List UInt8) :
      verifyRecordSignature sampleMlDsa (signedRecord epoch prev) [1] = true := by
    unfold verifyRecordSignature signedRecord sampleMlDsa
    rw [Bool.and_eq_true]
    exact ⟨decide_eq_true rfl, decide_eq_true rfl⟩
  have haudit (epoch : Nat) :
      verifyIntegrity sampleMlDsa ⟨[1], [first, signedRecord epoch (recordHash first)]⟩ = true := by
    have hfirst : first.prevRecord = zero32 := rfl
    have hnext : (signedRecord epoch (recordHash first)).prevRecord = recordHash first := rfl
    unfold verifyIntegrity auditFrom auditFrom auditFrom
    rw [hsigned, hsigned, decide_eq_true hfirst, decide_eq_true hnext]
    rfl
  have hepochs (epoch : Nat) : EpochsIncrease [first, signedRecord epoch (recordHash first)]
    ↔ 5 < epoch := by
    unfold EpochsIncrease
    simp [first, signedRecord]
  refine ⟨(built_iff _).mpr ⟨haudit 6, (hepochs 6).mpr (by decide)⟩, rfl, haudit 5, fun h => ?_⟩
  exact absurd ((hepochs 5).mp ((built_iff _).mp h).2) (by decide)

end RecordChain

end GoatCoin.Protocol
