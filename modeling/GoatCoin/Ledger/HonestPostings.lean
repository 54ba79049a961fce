/-
# `GoatCoin.Ledger.HonestPostings` — when an honest posting is slashed

An honest posting is built from the state that the ledger reports when it is posted, and it is
judged from the state that is accepted when it is challenged.  The two are one state unless the
class moved in between:

    reported      Probation 1      posts  Probation 1 → Relax 1/2
    finalized     another posting of the class
    accepted      Relax 1/2        the honest posting has a bad prior

so an honest posting stands exactly when each challenge of it finds a state that still fits it.
-/
import GoatCoin.Ledger.Postings

namespace GoatCoin.Ledger

open Assoc GoatCoin.Protocol

/-! ## Honest postings -/

/-- The accumulator of a manifest's own window. -/
def ReceiptsManifest.accumulator (m : ReceiptsManifest) : ClassAccumulator :=
  accumulatorAt (m.generate.getD []) [] (m.classId, m.window)

variable {m : ReceiptsManifest} {th : GateThresholds} {posting : WindowPosting}

theorem makePosting_some {count : Hll → Nat} {prior : ClassState}
    {scenario : PostingScenario} (h : makePosting count prior m th scenario = some posting) :
    ∃ receipts, m.generate = some receipts
    ∧ accumulatorAt receipts [] (m.classId, m.window) = m.accumulator
      ∧ posting = postingOf count prior m th m.accumulator scenario := by
  obtain ⟨receipts, hreceipts, h⟩ := Option.bind_eq_some_iff.mp h
  obtain ⟨acc, hacc, rfl⟩ := Option.map_eq_some_iff.mp h
  have haccumulator : m.accumulator = accumulatorAt receipts [] (m.classId, m.window) := by
    unfold ReceiptsManifest.accumulator
    rw [hreceipts]
    rfl
  have hfound : accumulatorAt receipts [] (m.classId, m.window) = acc := by
    unfold accumulatorAt
    rw [hacc]
    rfl
  exact ⟨receipts, hreceipts, haccumulator.symm, by rw [haccumulator, hfound]⟩

/-- A state fits a posting that was built from another: the same stage, the same rate up to
rounding, and a legal step that is no safer than the one that was claimed. -/
structure StillFits (count : Hll → Nat) (th : GateThresholds) (m : ReceiptsManifest)
    (built now : ClassState) : Prop where
  stage : built.stage = now.stage
  rate : |built.pClass - now.pClass| < rateEps
  claim : NoLessSafe (legalTransition count th m.accumulator now)
    (legalTransition count th m.accumulator built).toStage
    (legalTransition count th m.accumulator built).toP

/-- **A state that has not moved fits.** -/
theorem stillFits_of_unmoved {count : Hll → Nat} {built now : ClassState}
    (hstage : built.stage = now.stage) (hrate : built.pClass = now.pClass) :
    StillFits count th m built now := by
  have hlegal :
    legalTransition count th m.accumulator built = legalTransition count th m.accumulator now := by
    unfold legalTransition
    rw [hstage, hrate]
  refine ⟨hstage, ?_, ?_⟩
  · rw [hrate, sub_self, abs_zero]
    exact rateEps_pos
  · rw [hlegal]
    exact ⟨by linarith [rateEps_pos], le_refl _⟩

/-- **The verdict on an honest posting.** -/
theorem verifyPosting_honest {count : Hll → Nat} {built : ClassState}
    (h : makePosting count built m th .none = some posting) {receipts : List Receipt}
    (hreceipts : m.generate = some receipts) (now : ClassState) :
    verifyPosting count posting receipts now th [] = none ↔ StillFits count th m built now := by
  obtain ⟨receipts', hreceipts', haccumulator, rfl⟩ := makePosting_some h
  rw [hreceipts] at hreceipts'
  cases hreceipts'
  rw [verifyPosting_none]
  dsimp only [postingOf]
  rw [haccumulator]
  constructor
  · rintro ⟨-, ⟨hstage, hrate⟩, hclaim⟩
    exact ⟨hstage, hrate, hclaim⟩
  · intro hfits
    exact ⟨rfl, ⟨hfits.stage, hfits.rate⟩, hfits.claim⟩

/-! ## Runs with the honest postings marked -/

/-- A ledger, its honest postings and the states they were built from. -/
structure Watched where
  ledger : PostingLedger
  honest : List (Nat × ClassState)

namespace Watched

def new (th : GateThresholds) : Watched := ⟨.new th, []⟩

/-- The mark of a call that posts what `makePosting` builds from the reported state. -/
def marks (count : Hll → Nat) (l : PostingLedger) : Call → List (Nat × ClassState)
  | .post orchestrator posting manifest =>
      match l.priorState manifest.classId, l.post orchestrator posting manifest with
      | some prior, .ok (id, _) =>
          if makePosting count prior manifest l.th .none = some posting then [(id, prior)] else []
      | _, _ => []
  | _ => []

def step (count : Hll → Nat) (w : Watched) (k : Call) : Watched :=
  ⟨w.ledger.step count k, w.honest ++ marks count w.ledger k⟩

/-- No honest posting is slashed. -/
def NoneSlashed (w : Watched) : Prop :=
  ∀ id prior, (id, prior) ∈ w.honest → ∀ e, w.ledger.postings[id]? = some e →
    ∀ fp, e.resolution ≠ .slashed fp

/-- A challenge of a pending honest posting finds a state that fits it. -/
def Fitting (count : Hll → Nat) (w : Watched) (k : Call) : Prop :=
  ∀ id prior, k = .challenge id → (id, prior) ∈ w.honest → ∀ e, w.ledger.postings[id]? = some e →
    e.resolution = .pending →
      StillFits count w.ledger.th e.manifest prior (w.ledger.judgedFrom e.posting.classId)

/-- The marked postings are the ones that were built. -/
def Marked (count : Hll → Nat) (w : Watched) : Prop :=
  ∀ id prior, (id, prior) ∈ w.honest → ∃ e, w.ledger.postings[id]? = some e
    ∧ makePosting count prior e.manifest w.ledger.th .none = some e.posting

variable {count : Hll → Nat}

theorem mem_marks {l : PostingLedger} {k : Call} {id : Nat} {prior : ClassState}
    (h : (id, prior) ∈ marks count l k) :
    id = l.postings.length ∧ ∃ e, (l.step count k).postings[id]? = some e ∧ e.resolution = .pending
      ∧ makePosting count prior e.manifest l.th .none = some e.posting := by
  cases k with
  | post orchestrator posting manifest =>
      unfold marks at h
      dsimp only at h
      split at h
      · rename_i prior' id' l' hprior hpost
        split at h
        · rename_i hmade
          obtain ⟨rfl, rfl⟩ := Prod.mk.inj (List.mem_singleton.mp h)
          have hstep : l.step count (.post orchestrator posting manifest) = l' := by
            unfold PostingLedger.step
            dsimp only
            rw [hpost]
          unfold PostingLedger.post at hpost
          split at hpost
          · cases hpost
          · obtain ⟨rfl, rfl⟩ := Prod.mk.inj (Except.ok.inj hpost)
            refine ⟨rfl, ⟨l.postings.length, orchestrator, posting, manifest, .pending⟩, ?_,
              rfl, hmade⟩
            rw [hstep]
            exact List.getElem?_concat_length
        · exact absurd h List.not_mem_nil
      · exact absurd h List.not_mem_nil
  | registerBond orchestrator amount => exact absurd h List.not_mem_nil
  | seedState classId state => exact absurd h List.not_mem_nil
  | challenge id => exact absurd h List.not_mem_nil
  | finalize id => exact absurd h List.not_mem_nil

theorem marked_step {w : Watched} (h : w.Marked count) (k : Call) :
    (w.step count k).Marked count := by
  intro id prior hmem
  show ∃ e, (w.ledger.step count k).postings[id]? = some e
    ∧ makePosting count prior e.manifest (w.ledger.step count k).th .none = some e.posting
  rw [th_step]
  rcases List.mem_append.mp hmem with hold | hnew
  · obtain ⟨e, he, hmade⟩ := h id prior hold
    obtain ⟨r, hr, -⟩ := entry_step he k
    exact ⟨_, hr, hmade⟩
  · obtain ⟨-, e, he, -, hmade⟩ := mem_marks hnew
    exact ⟨e, he, hmade⟩

/-- **One call**: no honest posting is slashed by it, if and only if it is fitting. -/
theorem noneSlashed_step {w : Watched} (hmarked : w.Marked count) (h : w.NoneSlashed) (k : Call) :
    (w.step count k).NoneSlashed ↔ w.Fitting count k := by
  constructor
  · rintro hafter id prior rfl hmem e he hpending
    obtain ⟨e', he', hmade⟩ := hmarked id prior hmem
    rw [he] at he'
    cases he'
    obtain ⟨receipts, hreceipts, -, -⟩ := makePosting_some hmade
    rw [← verifyPosting_honest hmade hreceipts]
    cases hverify :
      verifyPosting count e.posting receipts (w.ledger.judgedFrom e.posting.classId)
      w.ledger.th [] with
    | none => rfl
    | some fp =>
        have hentry := pendingEntry_ok.mpr ⟨he, hpending⟩
        have hstep : w.ledger.step count (.challenge id) = w.ledger.slash e id fp := by
          unfold PostingLedger.step
          dsimp only
          rw [challenge_pending hentry hreceipts, hverify]
        have hslashed :
          (w.ledger.slash e id fp).postings[id]? = some { e with resolution := .slashed fp } := by
          unfold PostingLedger.slash
          rw [getElem?_resolve]
          show (w.ledger.postings[id]?.map _) = _
          rw [he, Option.map_some, if_pos rfl]
        exact absurd rfl (hafter id prior (List.mem_append_left _ hmem) _ (by
          show (w.ledger.step count (.challenge id)).postings[id]? = _
          rw [hstep]
          exact hslashed) fp)
  · intro hfitting id prior hmem e he fp
    rcases List.mem_append.mp hmem with hold | hnew
    · obtain ⟨e₀, he₀, hmade⟩ := hmarked id prior hold
      obtain ⟨r, hr, hcases⟩ := @entry_step count _ _ _ he₀ k
      have heq : e = { e₀ with resolution := r } := Option.some.inj (he.symm.trans hr)
      subst heq
      show r ≠ .slashed fp
      rcases hcases with rfl | ⟨-, rfl⟩ | ⟨receipts, fp', hk, hpending, -, hreceipts, hverify⟩
      · exact h id prior hold e₀ he₀ fp
      · exact nofun
      · have hfits := hfitting id prior hk hold e₀ he₀ hpending
        rw [(verifyPosting_honest hmade hreceipts _).mpr hfits] at hverify
        cases hverify
    · obtain ⟨-, e', he', hpending, -⟩ := mem_marks hnew
      have heq : e = e' := Option.some.inj (he.symm.trans he')
      rw [heq, hpending]
      exact nofun

end Watched

/-- **No honest posting is ever slashed, if and only if** every challenge of a pending one finds a
state that fits it. -/
theorem honest_never_slashed_iff (count : Hll → Nat) (th : GateThresholds) (ks : List Call) :
    Runs.Throughout (Watched.step count) Watched.NoneSlashed (.new th) ks ↔
      Runs.Guarded (Watched.step count) (Watched.Fitting count) (.new th) ks :=
  Runs.guarded_iff_under (fun _ k hmarked => Watched.marked_step hmarked k)
    (fun _ k hmarked h => Watched.noneSlashed_step hmarked h k)
      (fun _ _ hmem => absurd hmem List.not_mem_nil)
    (fun _ _ hmem => absurd hmem List.not_mem_nil) ks

/-! ### Two windows of one class -/

/-- A gate that one clean receipt passes. -/
def sampleThresholds : GateThresholds := ⟨1, 1, 1, 0, 0⟩

/-- One clean receipt. -/
def sampleManifest (window : Nat) : ReceiptsManifest := ⟨"class", window, 1, 1, 1, 0, 0, false⟩

def samplePrior : ClassState := ⟨.probation, 1, 0, 15, true⟩

section
variable (count : Hll → Nat) (window : Nat)

/-- The honest posting of a window, from any state. -/
def samplePosting (prior : ClassState) (window : Nat) : WindowPosting :=
  postingOf count prior (sampleManifest window) sampleThresholds
    (sampleManifest window).accumulator .none

theorem sampleManifest_lookup :
    (foldReceipts [(sampleManifest window).receipt 0] []).lookup ("class", window)
      = some ((ClassAccumulator.empty "class" window).record (representative [])
        ((sampleManifest window).receipt 0)) := by
  have hitems : itemsAt ("class", window) [(sampleManifest window).receipt 0]
    = [(sampleManifest window).receipt 0] :=
    List.filter_cons_of_pos (decide_eq_true rfl)
  rw [lookup_foldReceipts, hitems]
  rfl

theorem sampleManifest_accumulator :
    (sampleManifest window).accumulator
      = (ClassAccumulator.empty "class" window).record (representative [])
        ((sampleManifest window).receipt 0) := by
  show ((foldReceipts [(sampleManifest window).receipt 0] []).lookup ("class", window)).getD _ = _
  rw [sampleManifest_lookup]
  rfl

theorem samplePosting_made (prior : ClassState) :
    makePosting count prior (sampleManifest window) sampleThresholds .none
      = some (samplePosting count prior window) := by
  have hgenerate :
    (sampleManifest window).generate = some [(sampleManifest window).receipt 0] := rfl
  unfold makePosting samplePosting
  rw [hgenerate, Option.bind_some, sampleManifest_accumulator]
  show ((foldReceipts [(sampleManifest window).receipt 0] []).lookup ("class", window)).map _ = _
  rw [sampleManifest_lookup]
  rfl

theorem sampleManifest_gate :
    (gate count (sampleManifest window).accumulator sampleThresholds).1 = true := by
  rw [sampleManifest_accumulator]
  unfold gate gateChecks
  rw [List.all_eq_true]
  intro check hcheck
  simp only [List.mem_cons, List.not_mem_nil, or_false] at hcheck
  rcases hcheck with rfl | rfl | rfl | rfl | rfl
  · rfl
  · show decide ((if (1 : Nat) = 0 then (0 : ℚ) else ((0 : Nat) : ℚ) / ((1 : Nat) : ℚ)) < 1) = true
    norm_num
  · show decide ((if (1 : Nat) = 0 then (0 : ℚ) else ((0 : Nat) : ℚ) / ((1 : Nat) : ℚ) * 10000) < 1)
      = true
    norm_num
  · dsimp only
    exact decide_eq_true (Nat.zero_le _)
  · dsimp only
    exact decide_eq_true (Nat.zero_le _)

theorem samplePosting_claim : (samplePosting count samplePrior window).claimedToStage = .relax := by
  show (evaluateTransition .probation 1
    (gate count (sampleManifest window).accumulator sampleThresholds).1 _).toStage = _
  rw [sampleManifest_gate]
  unfold evaluateTransition
  split
  · rename_i h
    rcases h.2.1 with hstage | hstage
    · cases hstage
    · cases hstage
  · rfl

/-- The ledger with a bond and a class on probation. -/
def sampleLedger : PostingLedger :=
  ((PostingLedger.new sampleThresholds).registerBond "orchestrator" 1000).seedState
    "class" samplePrior

/-- The class's first window is finalized before its second is challenged. -/
def sampleCalls : List Call :=
  [.registerBond "orchestrator" 1000, .seedState "class" samplePrior,
    .post "orchestrator" (samplePosting count samplePrior 1) (sampleManifest 1),
    .post "orchestrator" (samplePosting count samplePrior 2) (sampleManifest 2), .finalize 0]

end

theorem Watched.step_honest {count : Hll → Nat} {w : Watched} {orchestrator : String}
    {manifest : ReceiptsManifest} {prior : ClassState}
    (hbond : (w.ledger.bonds.lookup orchestrator).isNone = false)
    (hprior : w.ledger.priorState manifest.classId = some prior)
    (hmade : makePosting count prior manifest w.ledger.th .none = some posting) :
    w.step count (.post orchestrator posting manifest)
      = ⟨{ w.ledger with postings := w.ledger.postings ++
            [⟨w.ledger.postings.length, orchestrator, posting, manifest, .pending⟩] },
          w.honest ++ [(w.ledger.postings.length, prior)]⟩ := by
  have hpost : w.ledger.post orchestrator posting manifest = .ok (w.ledger.postings.length,
      { w.ledger with postings := w.ledger.postings ++
          [⟨w.ledger.postings.length, orchestrator, posting, manifest, .pending⟩] }) := by
    unfold PostingLedger.post
    rw [hbond]
    rfl
  unfold Watched.step Watched.marks PostingLedger.step
  dsimp only
  rw [hpost, hprior]
  dsimp only
  rw [if_pos hmade]

theorem sampleCalls_run (count : Hll → Nat) :
    ∃ w, (sampleCalls count).foldl (Watched.step count) (.new sampleThresholds) = w
    ∧ (1, samplePrior) ∈ w.honest ∧
      w.ledger.postings[1]? = some ⟨1, "orchestrator", samplePosting count samplePrior 2,
        sampleManifest 2, .pending⟩ ∧
      (w.ledger.judgedFrom "class").stage = .relax := by
  let e₁ : PostingEntry :=
    ⟨0, "orchestrator", samplePosting count samplePrior 1, sampleManifest 1, .pending⟩
  let e₂ : PostingEntry :=
    ⟨1, "orchestrator", samplePosting count samplePrior 2, sampleManifest 2, .pending⟩
  have hbond : (sampleLedger.bonds.lookup "orchestrator").isNone = false := by decide
  have hprior : sampleLedger.priorState "class" = some samplePrior := AList.lookup_insert _
  have hfirst :
    Watched.step count ⟨sampleLedger, []⟩
    (.post "orchestrator" (samplePosting count samplePrior 1) (sampleManifest 1))
      = ⟨{ sampleLedger with postings := [e₁] }, [(0, samplePrior)]⟩ :=
    Watched.step_honest hbond hprior (samplePosting_made count 1 samplePrior)
  have hsecond : Watched.step count ⟨{ sampleLedger with postings := [e₁] }, [(0, samplePrior)]⟩
      (.post "orchestrator" (samplePosting count samplePrior 2) (sampleManifest 2))
      = ⟨{ sampleLedger with postings := [e₁, e₂] }, [(0, samplePrior), (1, samplePrior)]⟩ :=
    Watched.step_honest hbond hprior (samplePosting_made count 2 samplePrior)
  have hthird :
    Watched.step count ⟨{ sampleLedger with postings := [e₁, e₂] },
    [(0, samplePrior), (1, samplePrior)]⟩
      (.finalize 0) = ⟨{ sampleLedger with postings := [e₁, e₂] }.accept e₁ 0,
        [(0, samplePrior), (1, samplePrior)]⟩ := rfl
  refine ⟨⟨{ sampleLedger with postings := [e₁, e₂] }.accept e₁ 0,
    [(0, samplePrior), (1, samplePrior)]⟩, ?_,
    List.mem_cons_of_mem _ (List.mem_singleton_self _), rfl, ?_⟩
  · show Watched.step count (Watched.step count (Watched.step count ⟨sampleLedger, []⟩ _) _) _ = _
    rw [hfirst, hsecond, hthird]
  · show (((sampleLedger.acceptedState.insert "class" _).lookup "class").getD candidateState).stage
      = .relax
    rw [AList.lookup_insert]
    exact samplePosting_claim count 1

/-- The second window's honest posting is slashed. -/
theorem honest_posting_slashed : ¬∀ count th ks,
    Runs.Throughout (Watched.step count) Watched.NoneSlashed (.new th) ks := by
  intro h
  let count : Hll → Nat := fun _ => 1
  obtain ⟨w, hrun, hhonest, hentry, hmoved⟩ := sampleCalls_run count
  have hall := h count sampleThresholds (sampleCalls count ++ [.challenge 1])
  have hmarked : w.Marked count := by
    rw [← hrun]
    refine Runs.invariant (I := Watched.Marked count)
      (fun _ k hmarked => Watched.marked_step hmarked k) _ _ ?_
    exact fun _ _ hmem => absurd hmem List.not_mem_nil
  have hbefore := hall (sampleCalls count) (List.prefix_append _ _)
  have hafter := hall _ (List.prefix_refl _)
  rw [Runs.foldl_snoc] at hafter
  rw [hrun] at hbefore hafter
  have hfits :=
    (Watched.noneSlashed_step hmarked hbefore _).mp hafter 1 samplePrior rfl hhonest _ hentry rfl
  have hstage := hfits.stage
  rw [show (samplePosting count samplePrior 2).classId = "class" from rfl, hmoved] at hstage
  cases hstage

end GoatCoin.Ledger
