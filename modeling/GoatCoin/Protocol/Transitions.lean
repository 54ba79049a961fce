/-
# `GoatCoin.Protocol.Transitions` — `maturity.rs`: the gate, the stages and the fraud verifier

A class is sampled at a rate that falls as the class matures:

    Candidate  →  Probation 1  →  Relax 1/2, 1/4, 0.15  →  Mature 0.15

A window whose gate holds takes the class one step on; a gate that fails, or a burst, doubles the
rate and takes the class back.  A posting claims such a step, and it is fraudulent when its root or
its prior is wrong or when its claim is less safe than the legal step.  Rates are exact rationals.
-/
import GoatCoin.Protocol.Maturity
import Mathlib.Data.Rat.Defs

namespace GoatCoin.Protocol

open Assoc

def pFloor : ℚ := 15 / 100

def rateEps : ℚ := 1 / 1000000000

theorem rateEps_pos : 0 < rateEps := by
  unfold rateEps
  norm_num

/-- The stages of a class. -/
inductive Stage where
  | candidate
  | probation
  | relax
  | mature
deriving DecidableEq

def rank : Stage → Nat
  | .candidate => 0
  | .probation => 1
  | .relax => 2
  | .mature => 3

/-! ## The gate -/

/-- What a gate asks for. -/
structure GateThresholds where
  vMin : Nat
  epsilon : ℚ
  phi : ℚ
  xClusters : Nat
  xAsns : Nat
deriving DecidableEq

namespace ClassAccumulator

def divergenceRate (acc : ClassAccumulator) : ℚ := if acc.vC = 0 then 0 else (acc.dNum : ℚ) / acc.vC

def faultRate10k (acc : ClassAccumulator) : ℚ :=
  if acc.vC = 0 then 0 else (acc.fNum : ℚ) / acc.vC * 10000

end ClassAccumulator

section
-- the rounded estimate of a sketch
variable (count : Hll → Nat)

def gateChecks (acc : ClassAccumulator) (th : GateThresholds) : List (String × Bool) :=
  [("volume", decide (th.vMin ≤ acc.vC)), ("divergence", decide (acc.divergenceRate < th.epsilon)),
    ("faults", decide (acc.faultRate10k < th.phi)),
    ("coverage_clusters", decide (th.xClusters ≤ count acc.coverClustersHll)),
    ("coverage_asns", decide (th.xAsns ≤ count acc.coverAsnsHll))]

/-- All the checks of a gate. -/
def gate (acc : ClassAccumulator) (th : GateThresholds) : Bool × List (String × Bool) :=
  ((gateChecks count acc th).all Prod.snd, gateChecks count acc th)

end

/-! ## The stages -/

/-- The source's rates are floating-point; here they are numbers, and a NaN rate is not modelled. -/
structure ClassState where
  stage : Stage
  pClass : ℚ
  lastTransitionWindow : Int
  slashMult : ℚ
  pioneerArmed : Bool
deriving DecidableEq

/-- The transitions. -/
inductive TransitionKind where
  | hold
  | promote
  | relax
  | mature
  | snap
deriving DecidableEq

/-- Where a window takes a class. -/
structure Transition where
  toStage : Stage
  toP : ℚ
  kind : TransitionKind
deriving DecidableEq

/-- Back to a higher rate. -/
def snap (p : ℚ) : Transition :=
  let newP := min (p * 2) 1
  ⟨if 1 - rateEps ≤ newP then .probation else .relax, newP, .snap⟩

/-- The transition of a class. -/
def evaluateTransition (fromStage : Stage) (fromP : ℚ) (gateOk forceSnap : Bool) : Transition :=
  if forceSnap ∧ (fromStage = .relax ∨ fromStage = .mature) ∧ fromP < 1 - rateEps then snap fromP
  else
    match fromStage with
    | .candidate => ⟨.candidate, fromP, .hold⟩
    | .probation => if gateOk then ⟨.relax, 1 / 2, .promote⟩ else ⟨.probation, 1, .hold⟩
    | .relax =>
        if ¬gateOk then snap fromP
        else if pFloor + rateEps < fromP then ⟨.relax, max (fromP / 2) pFloor, .relax⟩
        else ⟨.mature, pFloor, .mature⟩
    | .mature => if ¬gateOk then snap fromP else ⟨.mature, fromP, .hold⟩

/-! ## The fraud verifier -/

/-- What a validator posts; the claimed rates are numbers, as those of `ClassState` are. -/
structure WindowPosting where
  classId : ClassId
  window : Nat
  accumulatorRoot : List UInt8
  claimedFromStage : Stage
  claimedFromP : ℚ
  claimedToStage : Stage
  claimedToP : ℚ
deriving DecidableEq

inductive FraudReason where
  | rootMismatch
  | badPrior
  | undersampling
  | overAdvanced
  | withheldBurstSnap
deriving DecidableEq

def FraudReason.text : FraudReason → String
  | .rootMismatch => "root_mismatch"
  | .badPrior => "bad_prior"
  | .undersampling => "undersampling"
  | .overAdvanced => "over_advanced"
  | .withheldBurstSnap => "withheld_burst_snap"

/-- The accumulator of a class and window, which may have no receipts. -/
def accumulatorAt (receipts : List Receipt) (mergeGroups : List (List String))
    (key : ClassId × Nat) :
    ClassAccumulator :=
  ((foldReceipts receipts mergeGroups).lookup key).getD (.empty key.1 key.2)

section
variable (count : Hll → Nat)

/-- The legal step of an accumulator from a state. -/
def legalTransition (th : GateThresholds) (acc : ClassAccumulator)
    (prior : ClassState) : Transition :=
  evaluateTransition prior.stage prior.pClass (gate count acc th).1 (anomalyBurst acc)

/-- The claim is no less safe than the step without the burst. -/
def withheldSnap (th : GateThresholds) (acc : ClassAccumulator) (prior : ClassState) (cs : Stage)
    (cp : ℚ) : Bool :=
  let base := evaluateTransition prior.stage prior.pClass (gate count acc th).1 false
  anomalyBurst acc && decide (base.toP - rateEps ≤ cp) && decide (rank cs ≤ rank base.toStage)

def verifyPosting (posting : WindowPosting) (receipts : List Receipt) (prior : ClassState)
    (th : GateThresholds) (mergeGroups : List (List String)) : Option FraudReason :=
  let acc := accumulatorAt receipts mergeGroups (posting.classId, posting.window)
  let legal := legalTransition count th acc prior
  let withheld := withheldSnap count th acc prior posting.claimedToStage posting.claimedToP
  if acc.root ≠ posting.accumulatorRoot then some .rootMismatch
  else if posting.claimedFromStage ≠ prior.stage
    ∨ rateEps ≤ |posting.claimedFromP - prior.pClass| then some .badPrior
  else if posting.claimedToP < legal.toP - rateEps then some
    (if withheld then .withheldBurstSnap else .undersampling)
  else if rank legal.toStage < rank posting.claimedToStage then some
    (if withheld then .withheldBurstSnap else .overAdvanced)
  else none

/-- A stage and a rate that are no less safe than a step. -/
structure NoLessSafe (legal : Transition) (stage : Stage) (p : ℚ) : Prop where
  rate : legal.toP - rateEps ≤ p
  stage : rank stage ≤ rank legal.toStage

variable {count}

/-- **What a posting that is not fraudulent is.** -/
theorem verifyPosting_none {posting : WindowPosting} {receipts : List Receipt} {prior : ClassState}
    {th : GateThresholds} {groups : List (List String)} :
    verifyPosting count posting receipts prior th groups = none ↔
      (accumulatorAt receipts groups (posting.classId, posting.window)).root
      = posting.accumulatorRoot ∧
        (posting.claimedFromStage = prior.stage ∧ |posting.claimedFromP - prior.pClass| < rateEps) ∧
        NoLessSafe
          (legalTransition count th
          (accumulatorAt receipts groups (posting.classId, posting.window)) prior)
          posting.claimedToStage posting.claimedToP := by
  unfold verifyPosting
  dsimp only
  constructor
  · intro h
    split at h
    · cases h
    · rename_i hroot
      split at h
      · cases h
      · rename_i hprior
        split at h
        · cases h
        · rename_i hrate
          split at h
          · cases h
          · rename_i hstage
            rw [not_or, not_not, not_le] at hprior
            exact ⟨not_not.mp hroot, hprior, not_lt.mp hrate, not_lt.mp hstage⟩
  · rintro ⟨hroot, ⟨hfrom, hp⟩, hrate, hstage⟩
    rw [if_neg (not_not_intro hroot), if_neg (not_or.mpr ⟨not_not_intro hfrom, not_le.mpr hp⟩),
      if_neg (not_lt.mpr hrate), if_neg (not_lt.mpr hstage)]

theorem verifyPosting_badPrior {posting : WindowPosting} {receipts : List Receipt}
    {prior : ClassState} {th : GateThresholds} {groups : List (List String)}
    (hroot : (accumulatorAt receipts groups (posting.classId, posting.window)).root
      = posting.accumulatorRoot)
    (hstage : posting.claimedFromStage ≠ prior.stage) :
    verifyPosting count posting receipts prior th groups = some .badPrior := by
  unfold verifyPosting
  dsimp only
  rw [if_neg (not_not_intro hroot), if_pos (.inl hstage)]

end

end GoatCoin.Protocol
