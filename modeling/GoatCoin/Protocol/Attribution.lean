/-
# `GoatCoin.Protocol.Attribution` — what the orchestrator can make of three signed receipts

The same evidence, three signed receipts and their results, can be put into many records.  What a
record proves depends on the profiles in it, and it proves it of the task that the record names:

    profiles (wide, narrow)      B is faulted
    profiles (narrow, narrow)    nobody is
    task number                  any

so evidence proves one thing only when it is refused whatever stands beside it.
-/
import Mathlib.Data.Finmap
import GoatCoin.Protocol.Provenance

namespace GoatCoin.Protocol

open Assoc
open Evm (require bind_ok bind_ok₂ bind_ok₄ require_ok require_of forM_ok)

/-! ## What the records prove -/

section
variable {mlDsa : List UInt8 → List UInt8 → List UInt8 → Bool} {registry : KeyRegistry}
  {auth : AuthorizationSet}

theorem mem_provenFaults {records : List EscalationRecord} : ∀ {proven : List (Nat × String)},
    provenFaults mlDsa registry auth records = .ok proven → ∀ t n, (t, n) ∈ proven ↔
      ∃ rec ∈ records, rec.verifyAttribution mlDsa registry auth = .ok (.faulted n)
      ∧ rec.taskId = t := by
  induction records with
  | nil =>
      intro proven h t n
      cases h
      exact ⟨fun hmem => absurd hmem List.not_mem_nil,
        fun ⟨rec, hmem, _⟩ => absurd hmem List.not_mem_nil⟩
  | cons rec records ih =>
      intro proven h t n
      obtain ⟨attribution, hattribution, rest, hrest, h⟩ := bind_ok₂.mp h
      have hih := ih hrest t n
      cases attribution with
      | noFault =>
          cases h
          rw [hih, List.exists_mem_cons_iff]
          refine ⟨.inr, ?_⟩
          rintro (⟨hhead, -⟩ | hrest)
          · rw [hattribution] at hhead
            cases hhead
          · exact hrest
      | faulted node =>
          cases h
          rw [List.mem_cons, hih, List.exists_mem_cons_iff]
          refine or_congr ?_ Iff.rfl
          constructor
          · intro hhead
            cases hhead
            exact ⟨hattribution, rfl⟩
          · rintro ⟨hhead, rfl⟩
            rw [hattribution] at hhead
            cases hhead
            rfl

theorem checkOutcomes_ok {proven : List (Nat × String)} {signed : List SignedReceipt}
    (h : checkOutcomes proven signed = .ok ()) {sr : SignedReceipt} (hmem : sr ∈ signed)
    (hasserts : sr.receipt.anomalous = true) : (sr.taskId, sr.nodeId) ∈ proven := by
  rcases require_ok.mp (forM_ok.mp h sr hmem) with hclean | hproven
  · rw [hasserts] at hclean
    cases hclean
  · exact hproven

/-- **What the strictest fold has checked.** -/
theorem foldVerifiedAttributed_ok {signed : List SignedReceipt} {records : List EscalationRecord}
    {groups : List (List String)} {out : Map (ClassId × Nat) ClassAccumulator}
    (h : foldVerifiedAttributed mlDsa signed registry auth records groups = .ok out) :
    (∀ sr ∈ signed, sr.receipt.anomalous = true → ∃ rec ∈ records,
        rec.verifyAttribution mlDsa registry auth = .ok (.faulted sr.nodeId)
        ∧ rec.taskId = sr.taskId)
      ∧ out = foldReceipts (signed.map SignedReceipt.receipt) groups := by
  obtain ⟨_, -, _, -, proven, hproven, _, houtcomes, h⟩ := bind_ok₄.mp h
  cases h
  refine ⟨?_, rfl⟩
  intro sr hmem hasserts
  exact (mem_provenFaults hproven _ _).mp (checkOutcomes_ok houtcomes hmem hasserts)

end

/-! ## One piece of evidence, many records -/

/-- Three signed receipts and their results. -/
structure Evidence where
  a : SignedReceipt
  b : SignedReceipt
  c : SignedReceipt
  resultA : TaskResult
  resultB : TaskResult
  resultC : TaskResult

/-- What nobody signs. -/
structure Choice where
  taskId : Nat
  flagsA : Bool × Bool
  flagsB : Bool × Bool
  flagsC : Bool × Bool
  profCa : DeterminismProfile
  profCb : DeterminismProfile
  tokenThreshold : ℚ

def SignedReceipt.withOutcome (sr : SignedReceipt) (flags : Bool × Bool) : SignedReceipt :=
  { sr with receipt := { sr.receipt with diverged := flags.1, fault := flags.2 } }

def Evidence.assemble (e : Evidence) (ch : Choice) : EscalationRecord :=
  ⟨ch.taskId, e.a.withOutcome ch.flagsA, e.b.withOutcome ch.flagsB, e.c.withOutcome ch.flagsC,
    e.resultA, e.resultB, e.resultC, ch.profCa, ch.profCb, ch.tokenThreshold⟩

/-- The attribution of two comparisons. -/
def Evidence.attribution (e : Evidence) (ca cb : Bool) : Attribution :=
  if ca && cb then .noFault
  else if ca then .faulted e.b.nodeId
  else if cb then .faulted e.a.nodeId
  else .noFault

section
variable (mlDsa : List UInt8 → List UInt8 → List UInt8 → Bool) (registry : KeyRegistry)
  (auth : AuthorizationSet)

/-- The receipts are signed and authorized, and the results are those that were committed to. -/
structure Evidence.Sound (e : Evidence) : Prop where
  signed : verifySignedReceipts mlDsa [e.a, e.b, e.c] registry = .ok ()
  authorized : checkAuthorization [e.a, e.b, e.c] auth = .ok ()
  committed : commit e.resultA = e.a.resultCommit ∧ commit e.resultB = e.b.resultCommit
    ∧ commit e.resultC = e.c.resultCommit

theorem verifyAttribution_iff (e : Evidence) (ch : Choice) (x : Attribution) :
    (e.assemble ch).verifyAttribution mlDsa registry auth = .ok x ↔
      e.Sound mlDsa registry auth ∧
        (ch.flagsA, ch.flagsB, ch.flagsC)
            = ((e.assemble ch).expected (agree e.resultC e.resultA ch.profCa ch.tokenThreshold)
              (agree e.resultC e.resultB ch.profCb ch.tokenThreshold)).1 ∧
        x = e.attribution (agree e.resultC e.resultA ch.profCa ch.tokenThreshold)
          (agree e.resultC e.resultB ch.profCb ch.tokenThreshold) := by
  have hexpected : ∀ ca cb, ((e.assemble ch).expected ca cb).2 = e.attribution ca cb := by
    intro ca cb
    cases ca with
    | true =>
        cases cb with
        | true => rfl
        | false => rfl
    | false =>
        cases cb with
        | true => rfl
        | false => rfl
  constructor
  · intro h
    obtain ⟨_, hsigned, _, hauthorized, _, hcommitted, _, hflags, h⟩ := bind_ok₄.mp h
    cases h
    exact ⟨⟨hsigned, hauthorized, require_ok.mp hcommitted⟩, require_ok.mp hflags, hexpected _ _⟩
  · rintro ⟨hsound, hflags, rfl⟩
    refine bind_ok₂.mpr ⟨(), hsound.signed, (), hsound.authorized, bind_ok.mpr
      ⟨(), require_of hsound.committed, bind_ok.mpr ⟨(), require_of hflags, ?_⟩⟩⟩
    rw [← hexpected]
    rfl

/-- The promise of a piece of evidence, whatever the orchestrator puts beside it. -/
structure NoFraming (e : Evidence) : Prop where
  oneAttribution : ∀ ch ch' x x', (e.assemble ch).verifyAttribution mlDsa registry auth = .ok x →
    (e.assemble ch').verifyAttribution mlDsa registry auth = .ok x' → x = x'
  oneTask : ∀ ch n, (e.assemble ch).verifyAttribution mlDsa registry auth = .ok (.faulted n) →
    [e.a.nodeId, e.b.nodeId, e.c.nodeId].Nodup ∧ e.a.taskId = ch.taskId ∧ e.b.taskId = ch.taskId
    ∧ e.c.taskId = ch.taskId
  folded : ∀ signed (choices : List Choice) groups out,
    foldVerifiedAttributed mlDsa signed registry auth (choices.map e.assemble) groups = .ok out →
      ∀ sr ∈ signed, sr.receipt.anomalous = true →
        [e.a.nodeId, e.b.nodeId, e.c.nodeId].Nodup ∧ e.a.taskId = sr.taskId ∧ e.b.taskId = sr.taskId
          ∧ e.c.taskId = sr.taskId

end

/-! ### Profiles -/

theorem tokenAgreement_nonneg (a b : List Nat) : 0 ≤ tokenAgreement a b := by
  unfold tokenAgreement
  split
  · norm_num
  · split
    · exact le_refl _
    · positivity

/-- A bound that nothing is within, a distance that wrapped around in 64 bits neither. -/
def narrowProfile : DeterminismProfile := ⟨.tolerance, some (-2 ^ 64)⟩

/-- A bound that everything is within, vectors of different lengths too. -/
def wideProfile : DeterminismProfile := ⟨.tolerance, none⟩

theorem agree_narrow (x y : TaskResult) (θ : ℚ) : agree x y narrowProfile θ = false := by
  have hkind : ¬narrowProfile.kind = .exact := nofun
  unfold agree
  rw [if_neg hkind, Bool.and_eq_false_iff]
  right
  cases lInf x.vector y.vector with
  | none => rfl
  | some d =>
      have hd : (0 : ℚ) ≤ d := Nat.cast_nonneg d
      refine decide_eq_false fun hle => ?_
      unfold agreeEps at hle
      norm_num at hle
      linarith

theorem agree_wide (x y : TaskResult) : agree x y wideProfile 0 = true := by
  have hkind : ¬wideProfile.kind = .exact := nofun
  unfold agree
  rw [if_neg hkind, Bool.and_eq_true]
  refine ⟨decide_eq_true (tokenAgreement_nonneg _ _), ?_⟩
  cases lInf x.vector y.vector with
  | none => rfl
  | some d => rfl

/-! ### Evidence that is accepted proves two things -/

section
variable {mlDsa : List UInt8 → List UInt8 → List UInt8 → Bool} {registry : KeyRegistry}
  {auth : AuthorizationSet}

/-- The record that makes a fault of a pair, or of none. -/
def accuse (e : Evidence) (ca cb : Bool) (profCa profCb : DeterminismProfile)
    (taskId : Nat) : Choice :=
  let flags :=
    ((e.assemble ⟨taskId, (false, false), (false, false), (false, false), profCa, profCb,
      0⟩).expected ca cb).1
  ⟨taskId, flags.1, flags.2.1, flags.2.2, profCa, profCb, 0⟩

theorem accuse_accepted {e : Evidence} (hsound : e.Sound mlDsa registry auth) {ca cb : Bool}
    {profCa profCb : DeterminismProfile} (hca : agree e.resultC e.resultA profCa 0 = ca)
    (hcb : agree e.resultC e.resultB profCb 0 = cb) (taskId : Nat) :
    (e.assemble (accuse e ca cb profCa profCb taskId)).verifyAttribution mlDsa registry auth
      = .ok (e.attribution ca cb) := by
  refine (verifyAttribution_iff mlDsa registry auth e _ _).mpr ⟨hsound, ?_, ?_⟩
  · show _ = ((e.assemble _).expected (agree e.resultC e.resultA profCa 0)
      (agree e.resultC e.resultB profCb 0)).1
    rw [hca, hcb]
    cases ca with
    | true =>
        cases cb with
        | true => rfl
        | false => rfl
    | false =>
        cases cb with
        | true => rfl
        | false => rfl
  · show e.attribution ca cb
      = e.attribution (agree e.resultC e.resultA profCa 0) (agree e.resultC e.resultB profCb 0)
    rw [hca, hcb]

/-- **Sound evidence is made to prove a fault and to prove none.** -/
theorem framed_of_sound {e : Evidence} (hsound : e.Sound mlDsa registry auth) :
    ¬NoFraming mlDsa registry auth e := by
  intro hpromise
  have hnone :=
    accuse_accepted hsound (agree_narrow e.resultC e.resultA 0)
      (agree_narrow e.resultC e.resultB 0) 0
  have hfault :=
    accuse_accepted hsound (agree_wide e.resultC e.resultA) (agree_narrow e.resultC e.resultB 0) 0
  have heq := hpromise.oneAttribution _ _ _ _ hfault hnone
  cases heq

/-- **No framing, if and only if** no record over the evidence is accepted. -/
theorem no_framing_iff (e : Evidence) : NoFraming mlDsa registry auth e
    ↔ ¬e.Sound mlDsa registry auth := by
  constructor
  · intro hpromise hsound
    exact framed_of_sound hsound hpromise
  · intro hunsound
    have hrefused : ∀ ch x, (e.assemble ch).verifyAttribution mlDsa registry auth ≠ .ok x :=
      fun ch x hx => hunsound ((verifyAttribution_iff mlDsa registry auth e ch x).mp hx).1
    refine ⟨?_, ?_, ?_⟩
    · intro ch ch' x x' hx _
      exact absurd hx (hrefused ch x)
    · intro ch n hn
      exact absurd hn (hrefused ch _)
    · intro signed choices groups out hfold sr hmem hasserts
      obtain ⟨rec, hrec, hfault, -⟩ := (foldVerifiedAttributed_ok hfold).1 sr hmem hasserts
      obtain ⟨ch, -, rfl⟩ := List.mem_map.mp hrec
      exact absurd hfault (hrefused ch _)

end

/-! ### A trio -/

/-- A key signs a message by standing before it. -/
def sampleMlDsa (pk message signature : List UInt8) : Bool := decide (signature = pk ++ message)

def sampleResult (v : Int) : TaskResult := ⟨10, [], [v], "engine"⟩

def sampleReceipt : Receipt := ⟨"class", 10, 0, 0, "cluster", "asn", false, false⟩

/-- A node's receipt for task 7. -/
def sampleSigned (nodeId : String) (v : Int) : SignedReceipt :=
  ⟨sampleReceipt, 7, nodeId, commit (sampleResult v), textBytes nodeId,
    textBytes nodeId ++ receiptCoreMessage 7 nodeId sampleReceipt (commit (sampleResult v))⟩

def sampleRegistry : KeyRegistry :=
  ((AList.insert "A" (textBytes "A") ∅).insert "B" (textBytes "B")).insert "C" (textBytes "C")

def sampleAuthorization : AuthorizationSet := AList.insert 7 ["A", "B", "C"] ∅

theorem sampleSigned_checked {nodeId : String}
    (h : sampleRegistry.lookup nodeId = some (textBytes nodeId)) (v : Int) :
    checkSigned sampleMlDsa sampleRegistry (sampleSigned nodeId v) = .ok () := by
  have hverify : (sampleSigned nodeId v).verify sampleMlDsa = true := decide_eq_true rfl
  unfold checkSigned
  rw [show (sampleSigned nodeId v).nodeId = nodeId from rfl, h]
  refine bind_ok₂.mpr ⟨(), require_of ⟨rfl, rfl⟩, (), require_of rfl, require_of hverify⟩

/-- C repeats A's result and not B's. -/
def sampleEvidence : Evidence :=
  ⟨sampleSigned "A" 10, sampleSigned "B" 99, sampleSigned "C" 10, sampleResult 10, sampleResult 99,
    sampleResult 10⟩

theorem sampleEvidence_sound :
    sampleEvidence.Sound sampleMlDsa sampleRegistry sampleAuthorization := by
  refine ⟨forM_ok.mpr ?_, forM_ok.mpr ?_, rfl, rfl, rfl⟩
  · intro sr hmem
    simp only [sampleEvidence, List.mem_cons, List.not_mem_nil, or_false] at hmem
    rcases hmem with rfl | rfl | rfl
    · exact sampleSigned_checked (by simp [sampleRegistry, AList.lookup, AList.singleton]) 10
    · exact sampleSigned_checked (by simp [sampleRegistry]) 99
    · exact sampleSigned_checked (by simp [sampleRegistry]) 10
  · intro sr hmem
    simp only [sampleEvidence, List.mem_cons, List.not_mem_nil, or_false] at hmem
    rcases hmem with rfl | rfl | rfl
    · exact require_of (by decide)
    · exact require_of (by decide)
    · exact require_of (by decide)

/-- One trio proves B's fault, and no fault. -/
theorem trio_framed : ¬∀ mlDsa registry auth e, NoFraming mlDsa registry auth e :=
  fun h => framed_of_sound sampleEvidence_sound (h _ _ _ _)

end GoatCoin.Protocol
