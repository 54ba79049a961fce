/-
# `GoatCoin.Protocol.Verification` — `verification.rs`: two results, and a third where they differ

A and B have submitted results.  Where they agree under the profile of the pair, the task is
settled; where they do not, the first member of the pool that shares no cluster and no network with
either, and can be paired with both, is run:

    C agrees with both       settled, nobody is faulted, profiles are measured again
    C agrees with A          settled, B is faulted
    C agrees with B          settled, A is faulted
    C agrees with neither    quarantined

The tree is written from A's side.  Nothing but the winner of a settled task that faults nobody
depends on which of the two is called A, as long as devices of one class have one profile: a pair of
one class is compared under A's.
-/
import GoatCoin.Protocol.Attribution
import GoatCoin.Protocol.NumericAgreement

namespace GoatCoin.Protocol

/-! ## Pairs -/

structure ExecutorRef where
  nodeId : String
  classId : ClassId
  clusterId : String
  asn : String
  profile : DeterminismProfile

/-- A determinism bound of `none` is infinite. -/
structure Task where
  taskClassId : Nat
  engineBuildId : String
  payload : List UInt8
  seed : Nat
  determinismBound : Option ℚ

/-- The result of an executor. -/
structure Submission where
  executor : ExecutorRef
  result : TaskResult

def tokenThreshold : ℚ := 98 / 100

def DeterminismProfile.exactMatch : DeterminismProfile := ⟨.exact, some 0⟩

def DeterminismProfile.within (bound : Option ℚ) : DeterminismProfile := ⟨.tolerance, bound⟩

/-- The larger bound. -/
def widest : Option ℚ → Option ℚ → Option ℚ
  | some x, some y => some (max x y)
  | _, _ => none

/-- `band > bound + EPS`. -/
def exceeds : Option ℚ → Option ℚ → Bool
  | some band, some bound => decide (bound + agreeEps < band)
  | none, some _ => true
  | _, none => false

/-- `band <= EPS`. -/
def negligible : Option ℚ → Bool
  | some band => decide (band ≤ agreeEps)
  | none => false

def effectiveProfile (profA profB : DeterminismProfile) (sameClass : Bool) (taskBound : Option ℚ) :
    Option DeterminismProfile :=
  let band := if sameClass then profA.bound else widest profA.bound profB.bound
  if exceeds band taskBound then none
  else if negligible band && decide (profA.kind = .exact)
    && (sameClass || decide (profB.kind = .exact)) then
    some .exactMatch
  else some (.within band)

/-- The profile of two executors. -/
def pairProfile (a b : ExecutorRef) (taskBound : Option ℚ) : Option DeterminismProfile :=
  effectiveProfile a.profile b.profile (decide (a.classId = b.classId)) taskBound

/-! ## The harness -/

/-- How a verification ends. -/
inductive Status where
  | settled
  | settledEscalated
  | quarantined
  | ineligibleCrossClass
deriving DecidableEq

structure VerificationOutcome where
  status : Status
  winner : Option String
  slashed : Option String
  slashMult : Option ℚ
  receipts : List Receipt
  profileRemeasure : Bool
  detail : String

def receiptOf (ex : ExecutorRef) (task : Task) (window : Nat)
    (diverged fault : Bool) : Receipt where
  classId := ex.classId
  taskClassId := task.taskClassId
  window := window
  subWindow := task.seed % subWindows
  clusterId := ex.clusterId
  asn := ex.asn
  diverged := diverged
  fault := fault

/-- `c` shares nothing with `a` and can be paired with it. -/
def Independent (c a : ExecutorRef) (taskBound : Option ℚ) : Prop :=
  c.clusterId ≠ a.clusterId ∧ c.asn ≠ a.asn ∧ (pairProfile c a taskBound).isSome = true

instance (c a : ExecutorRef) (taskBound : Option ℚ) : Decidable (Independent c a taskBound) :=
  inferInstanceAs (Decidable (_ ∧ _ ∧ _))

def pickDisjointExecutor (pool : List (ExecutorRef × (Task → TaskResult))) (a b : ExecutorRef)
    (taskBound : Option ℚ) : Option (ExecutorRef × (Task → TaskResult)) :=
  pool.find? fun c => decide (Independent c.1 a taskBound ∧ Independent c.1 b taskBound)

def baseSlash : ℚ := 15

def slashCap : ℚ := 20

/-- An infinite width is cut off at the cap. -/
def slashMultiple (tolWidth : Option ℚ) (tolRef : ℚ) : ℚ :=
  if tolRef ≤ 0 then baseSlash
  else match tolWidth with
    | some width => max baseSlash (min slashCap (baseSlash * (1 + 1 / 3 * (width / tolRef))))
    | none => slashCap

structure VerificationHarness where
  tolRef : ℚ
  tokenThreshold : ℚ

namespace VerificationHarness

def new (tolRef : ℚ) : VerificationHarness := ⟨tolRef, Protocol.tokenThreshold⟩

section
variable (h : VerificationHarness)

/-- The multiple a fault costs. -/
def slash (faulted : ExecutorRef) : ℚ := slashMultiple faulted.profile.bound h.tolRef

/-- What comes of the comparisons of C with A and with B. -/
def verdict (task : Task) (a b c : ExecutorRef) (window : Nat)
    (ca cb : Bool) : VerificationOutcome :=
  if ca && cb then
    { status := .settledEscalated
      winner := some a.nodeId
      slashed := none
      slashMult := none
      receipts := [receiptOf a task window false false, receiptOf b task window false false,
        receiptOf c task window false false]
      profileRemeasure := true
      detail := "C within band of both; no attribution; profile re-measurement" }
  else if ca then
    { status := .settledEscalated
      winner := some a.nodeId
      slashed := some b.nodeId
      slashMult := some (h.slash b)
      receipts := [receiptOf a task window false false, receiptOf c task window false false,
        receiptOf b task window true true]
      profileRemeasure := false
      detail := "C agrees with A; B faulted" }
  else if cb then
    { status := .settledEscalated
      winner := some b.nodeId
      slashed := some a.nodeId
      slashMult := some (h.slash a)
      receipts := [receiptOf b task window false false, receiptOf c task window false false,
        receiptOf a task window true true]
      profileRemeasure := false
      detail := "C agrees with B; A faulted" }
  else
    { status := .quarantined
      winner := none
      slashed := none
      slashMult := none
      receipts := []
      profileRemeasure := true
      detail := "3-way split; no reward, no slash pending review" }

/-- A and B differ.  `none` is a panic: the profiles of C with A and with B are unwrapped. -/
def consult (task : Task) (subA subB : Submission)
    (escalationPool : List (ExecutorRef × (Task → TaskResult)))
    (window : Nat) : Option VerificationOutcome :=
  let a := subA.executor
  let b := subB.executor
  match pickDisjointExecutor escalationPool a b task.determinismBound with
  | none => some
      { status := .quarantined
        winner := none
        slashed := none
        slashMult := none
        receipts := []
        profileRemeasure := true
        detail := "disagreement and no cluster/ASN-disjoint pairable executor" }
  | some (c, run) => do
      let result := run task
      let profCa ← pairProfile c a task.determinismBound
      let profCb ← pairProfile c b task.determinismBound
      let ca := agree result subA.result profCa h.tokenThreshold
      let cb := agree result subB.result profCb h.tokenThreshold
      some (h.verdict task a b c window ca cb)

def verify (task : Task) (subA subB : Submission)
    (escalationPool : List (ExecutorRef × (Task → TaskResult)))
    (window : Nat) : Option VerificationOutcome :=
  let a := subA.executor
  let b := subB.executor
  match pairProfile a b task.determinismBound with
  | none => some
      { status := .ineligibleCrossClass
        winner := none
        slashed := none
        slashMult := none
        receipts := []
        profileRemeasure := false
        detail := "widened band exceeds task bound; pin to same-class" }
  | some profAb =>
      if agree subA.result subB.result profAb h.tokenThreshold then
        some
          { status := .settled
            winner := some a.nodeId
            slashed := none
            slashMult := none
            receipts := [receiptOf a task window false false, receiptOf b task window false false]
            profileRemeasure := false
            detail := "agree" }
      else h.consult task subA subB escalationPool window

variable {h} {task : Task} {subA subB : Submission}
  {escalationPool : List (ExecutorRef × (Task → TaskResult))} {window : Nat}
  {profAb : DeterminismProfile}

theorem verify_of_agree
    (hprofile : pairProfile subA.executor subB.executor task.determinismBound = some profAb)
    (hagree : agree subA.result subB.result profAb h.tokenThreshold = true) :
    h.verify task subA subB escalationPool window
    = some ⟨.settled, some subA.executor.nodeId, none, none,
      [receiptOf subA.executor task window false false,
        receiptOf subB.executor task window false false], false,
      "agree"⟩ := by
  unfold verify
  dsimp only
  rw [hprofile]
  exact if_pos hagree

theorem verify_of_differ
    (hprofile : pairProfile subA.executor subB.executor task.determinismBound = some profAb)
    (hdiffer : agree subA.result subB.result profAb h.tokenThreshold = false) :
    h.verify task subA subB escalationPool window
    = h.consult task subA subB escalationPool window := by
  unfold verify
  dsimp only
  rw [hprofile]
  exact if_neg (Bool.eq_false_iff.mp hdiffer)

end

end VerificationHarness

/-! ## Comparisons have no order -/

/-- The table of longest common subsequences, by its two prefixes read backwards. -/
def lcsTable : List Nat → List Nat → Nat
  | [], _ => 0
  | _ :: _, [] => 0
  | x :: a, y :: b =>
      if x = y then lcsTable a b + 1 else max (lcsTable a (y :: b)) (lcsTable (x :: a) b)
termination_by a b => a.length + b.length

theorem lcsTable_nil_right (a : List Nat) : lcsTable a [] = 0 := by
  cases a <;> rw [lcsTable]

theorem lcsTable_comm (a b : List Nat) : lcsTable a b = lcsTable b a := by
  induction a, b using lcsTable.induct with
  | case1 b => rw [lcsTable_nil_right, lcsTable]
  | case2 x a => rw [lcsTable, lcsTable]
  | case3 a y b ih => rw [lcsTable, if_pos rfl, lcsTable, if_pos rfl, ih]
  | case4 x a y b hne ihup ihleft =>
      rw [lcsTable, if_neg hne, lcsTable, if_neg (Ne.symm hne), ihup, ihleft, max_comm]

/-- A row of the table, from a column on. -/
def lcsRow (a : List Nat) : List Nat → List Nat → List Nat
  | done, [] => [lcsTable a done]
  | done, y :: b => lcsTable a done :: lcsRow a (y :: done) b

/-- **One row from the row above.** -/
theorem rowFrom_lcsRow (x : Nat) (a b : List Nat) : ∀ done : List Nat,
    lcsTable (x :: a) done :: rowFrom x (lcsTable (x :: a) done) b (lcsRow a done b)
    = lcsRow (x :: a) done b := by
  induction b with
  | nil =>
      intro done
      rfl
  | cons y b ih =>
      intro done
      obtain ⟨rest, hrest⟩ : ∃ rest, lcsRow a (y :: done) b = lcsTable a (y :: done) :: rest := by
        cases b with
        | nil => exact ⟨_, rfl⟩
        | cons y' b => exact ⟨_, rfl⟩
      have hhere :
        (if x = y then lcsTable a done + 1 else max (lcsTable a (y :: done))
        (lcsTable (x :: a) done))
          = lcsTable (x :: a) (y :: done) := by
        rw [lcsTable]
      rw [lcsRow, lcsRow, ← ih (y :: done), hrest, rowFrom, hhere]

theorem lcsRow_nil (b : List Nat) : ∀ done :
    List Nat, lcsRow [] done b = List.replicate (b.length + 1) 0 := by
  induction b with
  | nil =>
      intro done
      rw [lcsRow, lcsTable]
      rfl
  | cons y b ih =>
      intro done
      rw [lcsRow, ih, lcsTable]
      rfl

theorem foldl_rowFrom (b a : List Nat) : ∀ done : List Nat,
    a.foldl (fun row x => 0 :: rowFrom x 0 b row) (lcsRow done [] b)
    = lcsRow (a.reverse ++ done) [] b := by
  induction a with
  | nil =>
      intro done
      rfl
  | cons x a ih =>
      intro done
      have hrow := rowFrom_lcsRow x done b []
      rw [lcsTable_nil_right] at hrow
      rw [List.foldl_cons, hrow, ih, List.reverse_cons, List.append_assoc]
      rfl

theorem getLast?_lcsRow (a b : List Nat) : ∀ done : List Nat,
    (lcsRow a done b).getLast? = some (lcsTable a (b.reverse ++ done)) := by
  induction b with
  | nil =>
      intro done
      rfl
  | cons y b ih =>
      intro done
      rw [lcsRow, List.getLast?_cons, ih, Option.getD_some, List.reverse_cons, List.append_assoc]
      rfl

/-- **The last entry of the last row.** -/
theorem lcsLength_eq (a b : List Nat) : lcsLength a b = lcsTable a.reverse b.reverse := by
  unfold lcsLength
  rw [← lcsRow_nil b [], foldl_rowFrom, List.getLastD_eq_getLast?, getLast?_lcsRow,
    Option.getD_some, List.append_nil, List.append_nil]

theorem tokenAgreement_comm (a b : List Nat) : tokenAgreement a b = tokenAgreement b a := by
  unfold tokenAgreement
  rw [lcsLength_eq, lcsLength_eq b a, lcsTable_comm, add_comm (b.length : ℚ)]
  exact if_congr and_comm rfl (if_congr or_comm rfl rfl)

theorem lInf_comm (a b : List Int) : lInf a b = lInf b a := by
  have hzip : List.zipWith (fun x y : Int => (x - y).natAbs) a b
    = List.zipWith (fun x y => (x - y).natAbs) b a := by
    rw [List.zipWith_comm]
    congr 1
    funext y x
    rw [← Int.natAbs_neg, neg_sub]
  unfold lInf
  rw [hzip]
  exact if_congr ne_comm rfl rfl

theorem agree_comm (a b : TaskResult) (prof : DeterminismProfile) (θ : ℚ) :
    agree a b prof θ = agree b a prof θ := by
  unfold agree
  rw [tokenAgreement_comm, lInf_comm, decide_eq_decide.mpr (@eq_comm _ (commit a) (commit b))]

theorem widest_comm (x y : Option ℚ) : widest x y = widest y x := by
  cases x with
  | none => cases y <;> rfl
  | some x =>
      cases y with
      | none => rfl
      | some y => exact congrArg some (max_comm x y)

theorem pairProfile_comm {a b : ExecutorRef} (h : a.classId = b.classId → a.profile = b.profile)
    (taskBound : Option ℚ) : pairProfile a b taskBound = pairProfile b a taskBound := by
  unfold pairProfile effectiveProfile
  by_cases hclass : a.classId = b.classId
  · rw [h hclass, decide_eq_true hclass, decide_eq_true hclass.symm]
  · rw [decide_eq_false hclass, decide_eq_false (Ne.symm hclass)]
    simp only [Bool.false_eq_true, if_false, Bool.false_or, widest_comm b.profile.bound,
      Bool.and_assoc, Bool.and_comm (decide (b.profile.kind = .exact))]

theorem pickDisjointExecutor_comm (pool : List (ExecutorRef × (Task → TaskResult)))
    (a b : ExecutorRef)
    (taskBound : Option ℚ) :
    pickDisjointExecutor pool a b taskBound = pickDisjointExecutor pool b a taskBound := by
  unfold pickDisjointExecutor
  congr 1
  funext c
  exact decide_eq_decide.mpr and_comm

theorem independent_of_pick {pool : List (ExecutorRef × (Task → TaskResult))} {a b : ExecutorRef}
    {taskBound : Option ℚ} {c : ExecutorRef × (Task → TaskResult)}
    (h : pickDisjointExecutor pool a b taskBound = some c) :
    Independent c.1 a taskBound ∧ Independent c.1 b taskBound :=
  of_decide_eq_true (List.find?_some h :)

/-! ## Roles -/

/-- What the two outcomes have in common: all but the winner where nobody is slashed. -/
structure SameButWinner (out out' : VerificationOutcome) : Prop where
  status : out'.status = out.status
  slashed : out'.slashed = out.slashed
  slashMult : out'.slashMult = out.slashMult
  profileRemeasure : out'.profileRemeasure = out.profileRemeasure
  receipts : out'.receipts.Perm out.receipts
  winner : out.slashed ≠ none → out'.winner = out.winner

namespace VerificationHarness

theorem verdict_swap (h : VerificationHarness) (task : Task) (a b c : ExecutorRef) (window : Nat)
    (ca cb : Bool) :
    SameButWinner (h.verdict task a b c window ca cb) (h.verdict task b a c window cb ca) := by
  cases ca with
  | false =>
      cases cb with
      | false => exact ⟨rfl, rfl, rfl, rfl, .refl _, fun _ => rfl⟩
      | true => exact ⟨rfl, rfl, rfl, rfl, .refl _, fun _ => rfl⟩
  | true =>
      cases cb with
      | false => exact ⟨rfl, rfl, rfl, rfl, .refl _, fun _ => rfl⟩
      | true => exact ⟨rfl, rfl, rfl, rfl, .swap _ _ _, fun hslashed => absurd rfl hslashed⟩

theorem consult_swap (h : VerificationHarness) (task : Task) (subA subB : Submission)
    (pool : List (ExecutorRef × (Task → TaskResult))) (window : Nat) :
    ∃ out out', h.consult task subA subB pool window = some out
    ∧ h.consult task subB subA pool window = some out'
      ∧ SameButWinner out out' := by
  unfold consult
  dsimp only
  rw [pickDisjointExecutor_comm pool subB.executor]
  cases hpick : pickDisjointExecutor pool subA.executor subB.executor task.determinismBound with
  | none => exact ⟨_, _, rfl, rfl, rfl, rfl, rfl, rfl, .refl _, fun _ => rfl⟩
  | some c =>
      obtain ⟨⟨-, -, hca⟩, -, -, hcb⟩ := independent_of_pick hpick
      obtain ⟨profCa, hca⟩ := Option.isSome_iff_exists.mp hca
      obtain ⟨profCb, hcb⟩ := Option.isSome_iff_exists.mp hcb
      dsimp only
      rw [hca, hcb]
      exact ⟨_, _, rfl, rfl, h.verdict_swap task _ _ c.1 window _ _⟩

/-- **The roles of A and B can be exchanged**, and each comparison has no order. -/
theorem verify_roles_exchanged (h : VerificationHarness) (task : Task) (subA subB : Submission)
    (pool : List (ExecutorRef × (Task → TaskResult))) (window : Nat)
    (hprofile : subA.executor.classId = subB.executor.classId →
      subA.executor.profile = subB.executor.profile) :
    (∃ out out', h.verify task subA subB pool window = some out
      ∧ h.verify task subB subA pool window = some out'
        ∧ SameButWinner out out')
      ∧ (∀ a b, tokenAgreement a b = tokenAgreement b a) ∧ (∀ a b, lInf a b = lInf b a)
      ∧ ∀ (build : Build) (a b : List Int64), NoOverflow a b → build.lInf a b = build.lInf b a := by
  refine ⟨?_, tokenAgreement_comm, lInf_comm, fun build a b hab => ?_⟩
  · unfold verify
    dsimp only
    rw [pairProfile_comm (fun hclass => (hprofile hclass.symm).symm)]
    cases pairProfile subA.executor subB.executor task.determinismBound with
    | none => exact ⟨_, _, rfl, rfl, rfl, rfl, rfl, rfl, .refl _, fun _ => rfl⟩
    | some profAb =>
        dsimp only
        rw [agree_comm subB.result]
        cases agree subA.result subB.result profAb h.tokenThreshold with
        | true =>
            exact ⟨_, _, rfl, rfl, rfl, rfl, rfl, rfl, .swap _ _ _,
              fun hslashed => absurd rfl hslashed⟩
        | false => exact h.consult_swap task subA subB pool window
  · have hba : NoOverflow b a := by
      refine List.Forall₂.flip (List.Forall₂.imp (fun x y hxy => ?_) hab)
      show |y.toInt - x.toInt| < 2 ^ 63
      rw [abs_sub_comm]
      exact hxy
    obtain ⟨d, hd, heq⟩ := lInf_eq_round build hab
    obtain ⟨d', hd', heq'⟩ := lInf_eq_round build hba
    rw [lInf_comm, hd] at hd'
    rw [heq, heq', Option.some.inj hd']

end VerificationHarness

/-- An executor of a class of one tolerance, on its own. -/
def sampleExecutor (name : String) : ExecutorRef := ⟨name, "gpu", name, name, ⟨.tolerance, some 2⟩⟩

def sampleTask : Task := ⟨10, "engine", [], 7, some 10⟩

/-- Results 5 apart, and a third that is within the tolerance of one: the other is slashed, from
either side. -/
theorem verify_roles_exchanged_sample :
    ∃ out out',
      (VerificationHarness.new 8).verify sampleTask ⟨sampleExecutor "A", sampleResult 0⟩
        ⟨sampleExecutor "B", sampleResult 5⟩
          [(sampleExecutor "C", fun _ => sampleResult 1)] 3 = some out
        ∧ (VerificationHarness.new 8).verify sampleTask ⟨sampleExecutor "B", sampleResult 5⟩
          ⟨sampleExecutor "A", sampleResult 0⟩ [(sampleExecutor "C", fun _ => sampleResult 1)] 3
          = some out'
        ∧ out.slashed = some "B" ∧ SameButWinner out out' := by
  obtain ⟨out, out', hout, hout', hsame⟩ :=
    (VerificationHarness.verify_roles_exchanged (.new 8) sampleTask
    ⟨sampleExecutor "A", sampleResult 0⟩ ⟨sampleExecutor "B", sampleResult 5⟩
    [(sampleExecutor "C", fun _ => sampleResult 1)] 3 fun _ => rfl).1
  have hslashed :
    ((VerificationHarness.new 8).verify sampleTask ⟨sampleExecutor "A", sampleResult 0⟩
      ⟨sampleExecutor "B", sampleResult 5⟩ [(sampleExecutor "C", fun _ => sampleResult 1)] 3).map
        VerificationOutcome.slashed = some (some "B") := by decide +kernel
  rw [hout] at hslashed
  exact ⟨out, out', hout, hout', Option.some.inj hslashed, hsame⟩

end GoatCoin.Protocol
