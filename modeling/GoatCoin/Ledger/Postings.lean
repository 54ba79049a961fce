/-
# `GoatCoin.Ledger.Postings` — `ledger.rs` and `actors.rs`: bonds, window postings and challenges

A bonded orchestrator posts a window's root and the transition it claims, beside the manifest of the
receipts.  A posting is pending until it is resolved:

    challenge    the ledger recomputes; slashed if the posting is fraudulent, and pending still if it is not
    finalize     the class's accepted state becomes the claimed one

A challenge is judged against the state that is accepted when it is made, and nothing compares a
posting's window with the window of the last transition.
-/
import GoatCoin.Protocol.Transitions
import GoatCoin.Lib.Runs

namespace GoatCoin.Ledger

open Assoc GoatCoin.Protocol

/-! ## Manifests -/

structure ReceiptsManifest where
  classId : ClassId
  window : Nat
  n : Nat
  clusters : Nat
  asns : Nat
  diverged : Nat
  fault : Nat
  concentrated : Bool
deriving DecidableEq

namespace ReceiptsManifest

def receipt (m : ReceiptsManifest) (i : Nat) : Receipt :=
  let anomalous := i < m.diverged ∨ i < m.fault
  { classId := m.classId
    taskClassId := 10
    window := m.window
    subWindow := if m.concentrated ∧ anomalous then 0 else i % subWindows
    clusterId := "c" ++ toString (i % m.clusters)
    asn := "a" ++ toString (i % m.asns)
    diverged := i < m.diverged
    fault := i < m.fault }

/-- A remainder by zero stops the program. -/
def generate (m : ReceiptsManifest) : Option (List Receipt) :=
  if 0 < m.n ∧ (m.clusters = 0 ∨ m.asns = 0) then none else some ((List.range m.n).map m.receipt)

end ReceiptsManifest

/-! ## Orchestrators -/

inductive PostingScenario where
  | none
  | rootMismatch
  | undersample
  | overAdvance
  | badPrior
  | conservative
  | withheldBurstSnap
deriving DecidableEq

section
variable (count : Hll → Nat)

/-- The posting of a scenario, from the accumulator of the window. -/
def postingOf (prior : ClassState) (m : ReceiptsManifest) (th : GateThresholds)
    (acc : ClassAccumulator) : PostingScenario → WindowPosting :=
  let legal := legalTransition count th acc prior
  let p : WindowPosting :=
    ⟨m.classId, m.window, acc.root, prior.stage, prior.pClass, legal.toStage, legal.toP⟩
  fun
  | .none => p
  | .rootMismatch => { p with accumulatorRoot := List.replicate 32 0 }
  | .undersample => { p with claimedToP := max (legal.toP - 1 / 10) 0 }
  | .overAdvance => { p with claimedToStage := .mature, claimedToP := legal.toP }
  | .badPrior => { p with claimedFromP := prior.pClass + 1 / 10 }
  | .conservative =>
      { p with claimedToStage := prior.stage, claimedToP := max prior.pClass legal.toP }
  | .withheldBurstSnap =>
      let nb := evaluateTransition prior.stage prior.pClass (gate count acc th).1 false
      { p with claimedToStage := nb.toStage, claimedToP := nb.toP }

/-- An empty window stops the program. -/
def makePosting (prior : ClassState) (m : ReceiptsManifest) (th : GateThresholds)
    (scenario : PostingScenario) : Option WindowPosting :=
  m.generate.bind fun receipts =>
    ((foldReceipts receipts []).lookup (m.classId, m.window)).map fun acc =>
      postingOf count prior m th acc scenario

end

/-! ## The ledger -/

structure Bond where
  orchestrator : String
  amount : Nat
  slashed : Bool
deriving DecidableEq

/-- Where a posting stands. -/
inductive Resolution where
  | pending
  | finalized
  | slashed (fp : FraudReason)
deriving DecidableEq

structure PostingEntry where
  id : Nat
  orchestrator : String
  posting : WindowPosting
  manifest : ReceiptsManifest
  resolution : Resolution
deriving DecidableEq

structure SlashEvent where
  orchestrator : String
  postingId : Nat
  reason : FraudReason
  burned : Nat
  toChallenger : Nat
deriving DecidableEq

inductive LedgerError where
  | noBond
  | unknownPosting
  | alreadyResolved
  /-- The program stopped. -/
  | stopped
deriving DecidableEq

/-- The part of the ledger that postings go through. -/
structure PostingLedger where
  th : GateThresholds
  bonds : Map String Bond
  acceptedState : Map ClassId ClassState
  postings : List PostingEntry
  slashEvents : List SlashEvent

/-- What a class without an accepted state is judged from. -/
def candidateState : ClassState := ⟨.candidate, 1, -1, 15, false⟩

namespace PostingLedger

def new (th : GateThresholds) : PostingLedger := ⟨th, ∅, ∅, [], []⟩

def registerBond (l : PostingLedger) (orchestrator : String) (amount : Nat) : PostingLedger :=
  { l with bonds := l.bonds.insert orchestrator ⟨orchestrator, amount, false⟩ }

/-- The state a class begins with. -/
def seedState (l : PostingLedger) (classId : ClassId) (state : ClassState) : PostingLedger :=
  { l with acceptedState := l.acceptedState.insert classId state }

def priorState (l : PostingLedger) (classId : ClassId) : Option ClassState :=
  l.acceptedState.lookup classId

/-- The state that a challenge is judged from. -/
def judgedFrom (l : PostingLedger) (classId : ClassId) : ClassState :=
  (l.priorState classId).getD candidateState

/-- A posting, by who has a bond. -/
def post (l : PostingLedger) (orchestrator : String) (posting : WindowPosting)
    (manifest : ReceiptsManifest) : Except LedgerError (Nat × PostingLedger) :=
  if (l.bonds.lookup orchestrator).isNone then .error .noBond
  else .ok (l.postings.length,
    { l with postings := l.postings ++ [⟨l.postings.length, orchestrator, posting,
      manifest, .pending⟩] })

def resolve (l : PostingLedger) (id : Nat) (r : Resolution) : PostingLedger :=
  { l with postings := l.postings.modify id fun e => { e with resolution := r } }

/-- The pending entry of a number. -/
def pendingEntry (l : PostingLedger) (id : Nat) : Except LedgerError PostingEntry :=
  match l.postings[id]? with
  | none => .error .unknownPosting
  | some e => if e.resolution ≠ .pending then .error .alreadyResolved else .ok e

/-- Half of the bond is burned, the rest goes to the challenger. -/
def slash (l : PostingLedger) (e : PostingEntry) (id : Nat) (fp : FraudReason) : PostingLedger :=
  let bond := l.bonds.lookup e.orchestrator
  let amount := (bond.map Bond.amount).getD 0
  let bonds :=
    match bond with
    | some b => l.bonds.insert e.orchestrator { b with slashed := true }
    | none => l.bonds
  let event : SlashEvent := ⟨e.orchestrator, id, fp, amount / 2, amount - amount / 2⟩
  { l with bonds := bonds, slashEvents := l.slashEvents ++ [event] }.resolve id (.slashed fp)

def challenge (count : Hll → Nat) (l : PostingLedger) (id : Nat) :
    Except LedgerError (Option FraudReason × PostingLedger) := do
  let e ← l.pendingEntry id
  match e.manifest.generate with
  | none => .error .stopped
  | some receipts =>
      match verifyPosting count e.posting receipts (l.judgedFrom e.posting.classId) l.th [] with
      | some fp => .ok (some fp, l.slash e id fp)
      | none => .ok (none, l)

/-- A `u64` as an `i64`. -/
def asI64 (n : Nat) : Int := Int.bmod n (2 ^ 64)

/-- The claim of an entry becomes the accepted state. -/
def accept (l : PostingLedger) (e : PostingEntry) (id : Nat) : PostingLedger :=
  let prev := l.priorState e.posting.classId
  let next : ClassState :=
    ⟨e.posting.claimedToStage, e.posting.claimedToP, asI64 e.posting.window,
      (prev.map ClassState.slashMult).getD 15, (prev.map ClassState.pioneerArmed).getD false⟩
  { l with acceptedState := l.acceptedState.insert e.posting.classId next }.resolve id .finalized

def finalize (l : PostingLedger) (id : Nat) : Except LedgerError PostingLedger := do
  let e ← l.pendingEntry id
  return l.accept e id

end PostingLedger

/-! ## Runs -/

/-- The calls of the ledger. -/
inductive Call where
  | registerBond (orchestrator : String) (amount : Nat)
  | seedState (classId : ClassId) (state : ClassState)
  | post (orchestrator : String) (posting : WindowPosting) (manifest : ReceiptsManifest)
  | challenge (id : Nat)
  | finalize (id : Nat)
deriving DecidableEq

/-- A call that fails leaves the ledger as it is. -/
def PostingLedger.step (count : Hll → Nat) (l : PostingLedger) : Call → PostingLedger
  | .registerBond orchestrator amount => l.registerBond orchestrator amount
  | .seedState classId state => l.seedState classId state
  | .post orchestrator posting manifest =>
      match l.post orchestrator posting manifest with
      | .ok (_, l') => l'
      | .error _ => l
  | .challenge id =>
      match l.challenge count id with
      | .ok (_, l') => l'
      | .error _ => l
  | .finalize id =>
      match l.finalize id with
      | .ok l' => l'
      | .error _ => l

/-! ### What a step does -/

section
variable {count : Hll → Nat} {l : PostingLedger}
variable {id : Nat} {e : PostingEntry}

theorem pendingEntry_ok :
    l.pendingEntry id = .ok e ↔ l.postings[id]? = some e ∧ e.resolution = .pending := by
  unfold PostingLedger.pendingEntry
  cases l.postings[id]? with
  | none => exact ⟨nofun, nofun⟩
  | some e' =>
      dsimp only
      split
      · rename_i hresolved
        refine ⟨nofun, ?_⟩
        rintro ⟨heq, hpending⟩
        cases heq
        exact absurd hpending hresolved
      · rename_i hpending
        constructor
        · intro heq
          cases heq
          exact ⟨rfl, not_not.mp hpending⟩
        · rintro ⟨heq, -⟩
          cases heq
          rfl

theorem challenge_pending (h : l.pendingEntry id = .ok e) {receipts : List Receipt}
    (hreceipts : e.manifest.generate = some receipts) :
    l.challenge count id
      = match verifyPosting count e.posting receipts (l.judgedFrom e.posting.classId) l.th [] with
        | some fp => .ok (some fp, l.slash e id fp)
        | none => .ok (none, l) := by
  unfold PostingLedger.challenge
  rw [h]
  show (match e.manifest.generate with | none => _ | some receipts => _) = _
  rw [hreceipts]

theorem challenge_stopped (h : l.pendingEntry id = .ok e)
    (hnone : e.manifest.generate = none) : l.challenge count id = .error .stopped := by
  unfold PostingLedger.challenge
  rw [h]
  show (match e.manifest.generate with | none => _ | some receipts => _) = _
  rw [hnone]

variable (count l)

/-- **What a challenge does to the ledger**: nothing, or it slashes a pending posting that is
fraudulent. -/
theorem step_challenge (id : Nat) :
    l.step count (.challenge id) = l ∨
      ∃ e receipts fp, l.postings[id]? = some e ∧ e.resolution = .pending
      ∧ e.manifest.generate = some receipts ∧
        verifyPosting count e.posting receipts (l.judgedFrom e.posting.classId) l.th [] = some fp ∧
        l.step count (.challenge id) = l.slash e id fp := by
  unfold PostingLedger.step
  dsimp only
  cases hentry : l.pendingEntry id with
  | error err =>
      refine .inl ?_
      unfold PostingLedger.challenge
      rw [hentry]
      rfl
  | ok e =>
      obtain ⟨hmem, hpending⟩ := pendingEntry_ok.mp hentry
      cases hreceipts : e.manifest.generate with
      | none =>
          rw [challenge_stopped hentry hreceipts]
          exact .inl rfl
      | some receipts =>
          rw [challenge_pending hentry hreceipts]
          cases hverify :
            verifyPosting count e.posting receipts (l.judgedFrom e.posting.classId) l.th [] with
          | none => exact .inl rfl
          | some fp => exact .inr ⟨e, receipts, fp, hmem, hpending, hreceipts, hverify, rfl⟩

/-- **What a finalization does to the ledger.** -/
theorem step_finalize (id : Nat) :
    l.step count (.finalize id) = l ∨
      ∃ e, l.postings[id]? = some e ∧ e.resolution = .pending
      ∧ l.step count (.finalize id) = l.accept e id := by
  unfold PostingLedger.step
  dsimp only
  cases hentry : l.pendingEntry id with
  | error err =>
      refine .inl ?_
      unfold PostingLedger.finalize
      rw [hentry]
      rfl
  | ok e =>
      obtain ⟨hmem, hpending⟩ := pendingEntry_ok.mp hentry
      refine .inr ⟨e, hmem, hpending, ?_⟩
      unfold PostingLedger.finalize
      rw [hentry]
      rfl

theorem step_post (orchestrator : String) (posting : WindowPosting) (manifest : ReceiptsManifest) :
    l.step count (.post orchestrator posting manifest) = l ∨
      l.step count (.post orchestrator posting manifest)
        = { l with
            postings :=
  l.postings ++ [⟨l.postings.length, orchestrator, posting, manifest, .pending⟩] } := by
  unfold PostingLedger.step PostingLedger.post
  dsimp only
  split
  · rename_i heq
    split at heq
    · cases heq
    · cases heq
      exact .inr rfl
  · exact .inl rfl

variable {count l}

theorem getElem?_resolve (id j : Nat) (r : Resolution) :
    (l.resolve id r).postings[j]? = l.postings[j]?.map fun e =>
    if id = j then { e with resolution := r } else e := by
  unfold PostingLedger.resolve
  rw [List.getElem?_modify]
  rfl

/-- **An entry stays as it was posted**, and its resolution changes only in two ways. -/
theorem entry_step (h : l.postings[id]? = some e) (k : Call) :
    ∃ r, (l.step count k).postings[id]? = some { e with resolution := r } ∧
      (r = e.resolution ∨ (k = .finalize id ∧ r = .finalized) ∨
        ∃ receipts fp, k = .challenge id ∧ e.resolution = .pending ∧ r = .slashed fp ∧
          e.manifest.generate = some receipts ∧
          verifyPosting count e.posting receipts (l.judgedFrom e.posting.classId) l.th []
            = some fp) := by
  cases k with
  | registerBond orchestrator amount => exact ⟨e.resolution, h, .inl rfl⟩
  | seedState classId state => exact ⟨e.resolution, h, .inl rfl⟩
  | post orchestrator posting manifest =>
      rcases step_post count l orchestrator posting manifest with hsame | hpushed
      · exact ⟨e.resolution, by rw [hsame]; exact h, .inl rfl⟩
      · refine ⟨e.resolution, ?_, .inl rfl⟩
        rw [hpushed]
        show (l.postings ++ [_])[id]? = some e
        rw [List.getElem?_append_left (List.getElem?_eq_some_iff.mp h).1]
        exact h
  | challenge j =>
      rcases step_challenge count l j with hsame
        | ⟨e', receipts, fp, he', hpending, hgen, hverify, hslash⟩
      · exact ⟨e.resolution, by rw [hsame]; exact h, .inl rfl⟩
      · rw [hslash]
        unfold PostingLedger.slash
        rw [getElem?_resolve]
        show ∃ r, (l.postings[id]?.map _) = _ ∧ _
        rw [h, Option.map_some]
        by_cases hid : j = id
        · subst hid
          rw [h] at he'
          cases he'
          rw [if_pos rfl]
          exact ⟨_, rfl, .inr (.inr ⟨receipts, fp, rfl, hpending, rfl, hgen, hverify⟩)⟩
        · rw [if_neg hid]
          exact ⟨e.resolution, rfl, .inl rfl⟩
  | finalize j =>
      rcases step_finalize count l j with hsame | ⟨e', he', hpending, haccept⟩
      · exact ⟨e.resolution, by rw [hsame]; exact h, .inl rfl⟩
      · rw [haccept]
        unfold PostingLedger.accept
        rw [getElem?_resolve]
        show ∃ r, (l.postings[id]?.map _) = _ ∧ _
        rw [h, Option.map_some]
        by_cases hid : j = id
        · rw [if_pos hid, hid]
          exact ⟨_, rfl, .inr (.inl ⟨rfl, rfl⟩)⟩
        · rw [if_neg hid]
          exact ⟨e.resolution, rfl, .inl rfl⟩

theorem th_step (k : Call) : (l.step count k).th = l.th := by
  cases k with
  | registerBond orchestrator amount => rfl
  | seedState classId state => rfl
  | post orchestrator posting manifest =>
      rcases step_post count l orchestrator posting manifest with hsame | hpushed
      · rw [hsame]
      · rw [hpushed]
  | challenge j =>
      rcases step_challenge count l j with hsame | ⟨e, receipts, fp, -, -, -, -, hslash⟩
      · rw [hsame]
      · rw [hslash]
        rfl
  | finalize j =>
      rcases step_finalize count l j with hsame | ⟨e, -, -, haccept⟩
      · rw [hsame]
      · rw [haccept]
        rfl

end

end GoatCoin.Ledger
