/-
# `GoatCoin.Ledger.Windows` — what finalizations make of a class

A posting that is challenged, found clean and finalized at once moves its class by a step that is no
less safe than the legal step of its window.  The states of a class after its finalizations are
therefore a walk:

    start    the state that was seeded last
    steps    one for each posting finalized since, each no less safe than the legal one

and the way from `Probation` to `Mature` has four steps at least.  The steps may be more careful
than the legal ones, and two of them may belong to one window.
-/
import GoatCoin.Ledger.HonestPostings

namespace GoatCoin.Ledger

open Function (update update_self update_of_ne)
open Assoc GoatCoin.Protocol

/-! ## Walks -/

/-- The accumulator of the window that an entry is about. -/
def PostingEntry.accumulator (e : PostingEntry) : ClassAccumulator :=
  accumulatorAt (e.manifest.generate.getD []) [] (e.posting.classId, e.posting.window)

/-- The steps of a class, one for each posting. -/
inductive Walk (count : Hll → Nat) (th : GateThresholds) (start : ClassState) : List PostingEntry →
    ClassState → Prop
  | nil : Walk count th start [] start
  | snoc {es : List PostingEntry} {st st' : ClassState} (e : PostingEntry) :
    Walk count th start es st →
      NoLessSafe (legalTransition count th e.accumulator st) st'.stage st'.pClass →
      st'.lastTransitionWindow = PostingLedger.asI64 e.posting.window →
      Walk count th start (es ++ [e]) st'

/-- How far a class is on its way. -/
def level (st : ClassState) : Nat :=
  match st.stage with
  | .candidate => 0
  | .probation => 0
  | .relax =>
      if 3 / 10 + 4 * rateEps < st.pClass then 1 else if pFloor + rateEps < st.pClass then 2 else 3
  | .mature => 4

theorem level_le_four (st : ClassState) : level st ≤ 4 := by
  unfold level
  split
  · omega
  · omega
  · split_ifs
    · omega
    · omega
    · omega
  · omega

variable {st st' : ClassState} {b g : Bool}

theorem level_le_three (h : Protocol.rank st.stage ≤ Protocol.rank .relax) : level st ≤ 3 := by
  unfold level
  split
  · omega
  · omega
  · split_ifs
    · omega
    · omega
    · omega
  · rename_i hstage
    rw [hstage] at h
    exact absurd h (by decide)

theorem level_le_two (h : Protocol.rank st.stage ≤ Protocol.rank .relax)
    (hp : pFloor + rateEps < st.pClass) :
    level st ≤ 2 := by
  unfold level
  split
  · omega
  · omega
  · split_ifs
    · omega
    · omega
  · rename_i hstage
    rw [hstage] at h
    exact absurd h (by decide)

theorem level_le_one (h : Protocol.rank st.stage ≤ Protocol.rank .relax)
    (hp : 3 / 10 + 4 * rateEps < st.pClass) :
    level st ≤ 1 := by
  unfold level
  split
  · omega
  · omega
  · rw [if_pos hp]
  · rename_i hstage
    rw [hstage] at h
    exact absurd h (by decide)

theorem level_eq_zero (h : Protocol.rank st.stage ≤ Protocol.rank .probation) : level st = 0 := by
  unfold level
  split
  · rfl
  · rfl
  · rename_i hstage
    rw [hstage] at h
    exact absurd h (by decide)
  · rename_i hstage
    rw [hstage] at h
    exact absurd h (by decide)

theorem rank_snap (p : ℚ) : Protocol.rank (snap p).toStage ≤ Protocol.rank .relax := by
  unfold snap
  dsimp only
  split
  · decide
  · decide

theorem evaluateTransition_relax (p : ℚ) (g b : Bool) :
    evaluateTransition .relax p g b = snap p ∨
      (pFloor + rateEps < p
        ∧ evaluateTransition .relax p g b = ⟨.relax, max (p / 2) pFloor, .relax⟩) ∨
      (¬pFloor + rateEps < p ∧ evaluateTransition .relax p g b = ⟨.mature, pFloor, .mature⟩) := by
  unfold evaluateTransition
  split
  · exact .inl rfl
  · dsimp only
    split
    · exact .inl rfl
    · split
      · rename_i hfloor
        exact .inr (.inl ⟨hfloor, rfl⟩)
      · rename_i hfloor
        exact .inr (.inr ⟨hfloor, rfl⟩)

theorem level_relax (hrelax : st.stage = .relax)
    (h : NoLessSafe (evaluateTransition .relax st.pClass g b) st'.stage st'.pClass) :
    level st' ≤ level st + 1 := by
  have heps := rateEps_pos
  have hlevel : level st
      = if 3 / 10 + 4 * rateEps < st.pClass then 1 else if pFloor + rateEps
      < st.pClass then 2 else 3 := by
    unfold level
    rw [hrelax]
  obtain ⟨hrate, hstage⟩ := h
  rw [hlevel]
  rcases evaluateTransition_relax st.pClass g b with heq | ⟨hfloor, heq⟩ | ⟨hfloor, heq⟩
  · rw [heq] at hrate hstage
    have hrank := hstage.trans (rank_snap _)
    by_cases hfar : 3 / 10 + 4 * rateEps < st.pClass
    · rw [if_pos hfar]
      refine level_le_two hrank (lt_of_lt_of_le ?_ hrate)
      show pFloor + rateEps < min (st.pClass * 2) 1 - rateEps
      rw [lt_sub_iff_add_lt, lt_min_iff]
      unfold pFloor
      constructor
      · linarith
      · unfold rateEps
        norm_num
    · rw [if_neg hfar]
      have hthree := level_le_three hrank
      split
      · omega
      · omega
  · rw [heq] at hrate hstage
    by_cases hfar : 3 / 10 + 4 * rateEps < st.pClass
    · rw [if_pos hfar]
      refine level_le_two hstage (lt_of_lt_of_le ?_ hrate)
      have hhalf : st.pClass / 2 ≤ max (st.pClass / 2) pFloor := le_max_left _ _
      show pFloor + rateEps < max (st.pClass / 2) pFloor - rateEps
      have hbound : pFloor + rateEps < st.pClass / 2 - rateEps := by
        unfold pFloor
        linarith
      linarith
    · rw [if_neg hfar, if_pos hfloor]
      exact level_le_three hstage
  · have hfar : ¬3 / 10 + 4 * rateEps < st.pClass := by
      unfold pFloor at hfloor
      intro hlt
      apply hfloor
      linarith
    rw [if_neg hfar, if_neg hfloor]
    exact level_le_four st'

theorem level_probation {p : ℚ}
    (h : NoLessSafe (evaluateTransition .probation p g b) st'.stage st'.pClass) :
    level st' ≤ 1 := by
  have hsteps : evaluateTransition .probation p g b = ⟨.relax, 1 / 2, .promote⟩ ∨
      evaluateTransition .probation p g b = ⟨.probation, 1, .hold⟩ := by
    unfold evaluateTransition
    rw [if_neg (by simp)]
    dsimp only
    split
    · exact .inl rfl
    · exact .inr rfl
  obtain ⟨hrate, hstage⟩ := h
  rcases hsteps with heq | heq
  · rw [heq] at hrate hstage
    refine level_le_one hstage (lt_of_lt_of_le ?_ hrate)
    unfold rateEps
    norm_num
  · rw [heq] at hstage
    rw [level_eq_zero hstage]
    omega

theorem level_candidate {p : ℚ}
    (h : NoLessSafe (evaluateTransition .candidate p g b) st'.stage st'.pClass) :
    level st' = 0 := by
  have heq : evaluateTransition .candidate p g b = ⟨.candidate, p, .hold⟩ := by
    unfold evaluateTransition
    rw [if_neg (by simp)]
  have hstage := h.stage
  rw [heq] at hstage
  exact level_eq_zero
    (hstage.trans (show Protocol.rank .candidate ≤ Protocol.rank .probation by decide))

/-- **One step of a walk** is one step on, at most. -/
theorem level_step
    (h : NoLessSafe (evaluateTransition st.stage st.pClass g b) st'.stage st'.pClass) :
    level st' ≤ level st + 1 := by
  cases hstage : st.stage with
  | candidate =>
      rw [hstage] at h
      rw [level_candidate h]
      omega
  | probation =>
      rw [hstage] at h
      have hone := level_probation h
      omega
  | relax =>
      rw [hstage] at h
      exact level_relax hstage h
  | mature =>
      have hfour : level st = 4 := by
        unfold level
        rw [hstage]
      have hle := level_le_four st'
      omega

theorem level_walk {count : Hll → Nat} {th : GateThresholds} {start : ClassState}
    {es : List PostingEntry}
    (h : Walk count th start es st) : level st ≤ level start + es.length := by
  induction h with
  | nil => exact Nat.le_refl _
  | snoc e _ hsafe _ ih =>
      have hstep := level_step hsafe
      rw [List.length_append, List.length_singleton]
      omega

/-- **From `Probation` to `Mature`** a class is walked by four postings at least. -/
theorem four_steps {count : Hll → Nat} {th : GateThresholds} {start : ClassState}
    {es : List PostingEntry}
    (h : Walk count th start es st) (hstart : start.stage = .probation)
    (hend : st.stage = .mature) : 4 ≤ es.length := by
  have hle := level_walk h
  have hzero : level start = 0 := by
    unfold level
    rw [hstart]
  have hfour : level st = 4 := by
    unfold level
    rw [hend]
  omega

/-! ## Runs with the finalized postings in order -/

/-- A ledger, the posting that the last call found clean, and the way of each class since it was
seeded. -/
structure Traced where
  ledger : PostingLedger
  clean : Option Nat
  start : ClassId → ClassState
  done : ClassId → List PostingEntry

namespace Traced

def new (th : GateThresholds) : Traced := ⟨.new th, none, fun _ => candidateState, fun _ => []⟩

def step (count : Hll → Nat) (t : Traced) (k : Call) : Traced :=
  match k with
  | .seedState classId state =>
      ⟨t.ledger.step count k, none, update t.start classId state, update t.done classId []⟩
  | .challenge id =>
      let found :=
        match t.ledger.challenge count id with
        | .ok (none, _) => some id
        | _ => none
      ⟨t.ledger.step count k, found, t.start, t.done⟩
  | .finalize id =>
      match t.ledger.pendingEntry id with
      | .ok e =>
          ⟨t.ledger.step count k, none, t.start,
            update t.done e.posting.classId (t.done e.posting.classId ++ [e])⟩
      | .error _ => ⟨t.ledger.step count k, none, t.start, t.done⟩
  | .registerBond _ _ => ⟨t.ledger.step count k, none, t.start, t.done⟩
  | .post _ _ _ => ⟨t.ledger.step count k, none, t.start, t.done⟩

/-- A posting is finalized right after a challenge has found it clean. -/
def ChallengedFirst (t : Traced) (k : Call) : Prop :=
  ∀ id e, k = .finalize id → t.ledger.pendingEntry id = .ok e → t.clean = some id

/-- What the postings since the last seed have made of each class, and the verdict on the clean
posting. -/
structure Walked (count : Hll → Nat) (th : GateThresholds) (t : Traced) : Prop where
  thresholds : t.ledger.th = th
  walk : ∀ c, Walk count th (t.start c) (t.done c) (t.ledger.judgedFrom c)
  verdict : ∀ id e, t.clean = some id → t.ledger.pendingEntry id = .ok e →
    NoLessSafe (legalTransition count th e.accumulator (t.ledger.judgedFrom e.posting.classId))
      e.posting.claimedToStage e.posting.claimedToP

variable {count : Hll → Nat} {th : GateThresholds}

theorem judgedFrom_accept (l : PostingLedger) (e : PostingEntry) (id : Nat) (c : ClassId) :
    (l.accept e id).judgedFrom c
      = if c = e.posting.classId then
          ⟨e.posting.claimedToStage, e.posting.claimedToP, PostingLedger.asI64 e.posting.window,
            ((l.priorState e.posting.classId).map ClassState.slashMult).getD 15,
            ((l.priorState e.posting.classId).map ClassState.pioneerArmed).getD false⟩
        else l.judgedFrom c := by
  show ((l.acceptedState.insert e.posting.classId _).lookup c).getD candidateState = _
  split
  · rename_i hc
    rw [hc, AList.lookup_insert]
    rfl
  · rename_i hc
    rw [AList.lookup_insert_ne hc]
    rfl

theorem judgedFrom_challenge (l : PostingLedger) (id : Nat) (c : ClassId) :
    (l.step count (.challenge id)).judgedFrom c = l.judgedFrom c := by
  rcases step_challenge count l id with hsame | ⟨e, receipts, fp, -, -, -, -, hslash⟩
  · rw [hsame]
  · rw [hslash]
    rfl

theorem judgedFrom_post (l : PostingLedger) (orchestrator : String) (posting : WindowPosting)
    (manifest : ReceiptsManifest) (c : ClassId) :
    (l.step count (.post orchestrator posting manifest)).judgedFrom c = l.judgedFrom c := by
  rcases step_post count l orchestrator posting manifest with hsame | hpushed
  · rw [hsame]
  · rw [hpushed]
    rfl

/-- A challenge that finds nothing leaves a posting that is no less safe than the legal step. -/
theorem challenge_clean {l : PostingLedger} {id : Nat} {l' : PostingLedger} {e : PostingEntry}
    (h : l.challenge count id = .ok (none, l')) (hentry : l.pendingEntry id = .ok e) :
    NoLessSafe (legalTransition count l.th e.accumulator (l.judgedFrom e.posting.classId))
      e.posting.claimedToStage
        e.posting.claimedToP ∧ l.step count (.challenge id) = l := by
  cases hreceipts : e.manifest.generate with
  | none =>
      rw [challenge_stopped hentry hreceipts] at h
      cases h
  | some receipts =>
      have hchallenge := @challenge_pending count _ _ _ hentry _ hreceipts
      cases hverify :
        verifyPosting count e.posting receipts (l.judgedFrom e.posting.classId) l.th [] with
      | some fp =>
          rw [hchallenge, hverify] at h
          cases h
      | none =>
          rw [hverify] at hchallenge
          have hacc :
            e.accumulator = accumulatorAt receipts [] (e.posting.classId, e.posting.window) := by
            unfold PostingEntry.accumulator
            rw [hreceipts]
            rfl
          refine ⟨?_, ?_⟩
          · rw [hacc]
            exact (verifyPosting_none.mp hverify).2.2
          · unfold PostingLedger.step
            dsimp only
            rw [hchallenge]

theorem walked_of_unclean {t : Traced} (hclean : t.clean = none) (hth : t.ledger.th = th)
    (hwalk : ∀ c, Walk count th (t.start c) (t.done c) (t.ledger.judgedFrom c)) :
    t.Walked count th := by
  refine ⟨hth, hwalk, ?_⟩
  intro id e hfound
  rw [hclean] at hfound
  cases hfound

theorem walked_seed {t : Traced} (h : t.Walked count th) (classId : ClassId) (state : ClassState) :
    (t.step count (.seedState classId state)).Walked count th := by
  refine walked_of_unclean rfl h.thresholds fun c => ?_
  show Walk count th (update t.start classId state c) (update t.done classId [] c)
    (((t.ledger.acceptedState.insert classId state).lookup c).getD candidateState)
  by_cases hc : c = classId
  · subst hc
    rw [update_self, update_self, AList.lookup_insert]
    exact .nil
  · rw [update_of_ne hc, update_of_ne hc, AList.lookup_insert_ne hc]
    exact h.walk c

theorem walked_finalize {t : Traced} (h : t.Walked count th) {id : Nat} {e : PostingEntry}
    (hentry : t.ledger.pendingEntry id = .ok e) (hclean : t.clean = some id) :
    (t.step count (.finalize id)).Walked count th := by
  have hledger : t.ledger.step count (.finalize id) = t.ledger.accept e id := by
    unfold PostingLedger.step PostingLedger.finalize
    dsimp only
    rw [hentry]
    rfl
  have hstep : t.step count (.finalize id) = ⟨t.ledger.accept e id, none, t.start,
      update t.done e.posting.classId (t.done e.posting.classId ++ [e])⟩ := by
    unfold step
    dsimp only
    rw [hentry, hledger]
  rw [hstep]
  refine walked_of_unclean rfl h.thresholds fun c => ?_
  show Walk count th (t.start c) (update t.done e.posting.classId _ c)
    ((t.ledger.accept e id).judgedFrom c)
  rw [judgedFrom_accept]
  by_cases hc : c = e.posting.classId
  · subst hc
    rw [update_self, if_pos rfl]
    refine Walk.snoc e (h.walk _) ?_ ?_
    · exact h.verdict id e hclean hentry
    · dsimp only
  · rw [update_of_ne hc, if_neg hc]
    exact h.walk c

/-- **One call** keeps the walks, if it finalizes only what was just found clean. -/
theorem walked_step {t : Traced} {k : Call} (h : t.Walked count th) (hk : t.ChallengedFirst k) :
    (t.step count k).Walked count th := by
  have hth : (t.ledger.step count k).th = th := (th_step k).trans h.thresholds
  cases k with
  | registerBond orchestrator amount => exact walked_of_unclean rfl h.thresholds h.walk
  | seedState classId state => exact walked_seed h classId state
  | post orchestrator posting manifest =>
      refine walked_of_unclean rfl hth fun c => ?_
      show Walk count th (t.start c) (t.done c) ((t.ledger.step count _).judgedFrom c)
      rw [judgedFrom_post]
      exact h.walk c
  | challenge id =>
      refine ⟨hth, fun c => ?_, fun id' e hclean hentry => ?_⟩
      · show Walk count th (t.start c) (t.done c) ((t.ledger.step count _).judgedFrom c)
        rw [judgedFrom_challenge]
        exact h.walk c
      · unfold step at hclean hentry ⊢
        dsimp only at hclean hentry ⊢
        split at hclean
        · rename_i l' hfound
          cases hclean
          cases hbefore : t.ledger.pendingEntry id with
          | error err =>
              unfold PostingLedger.challenge at hfound
              rw [hbefore] at hfound
              cases hfound
          | ok e' =>
              obtain ⟨hsafe, hsame⟩ := challenge_clean hfound hbefore
              rw [hsame, hbefore] at hentry
              cases hentry
              rw [hsame, ← h.thresholds]
              exact hsafe
        · cases hclean
  | finalize id =>
      cases hentry : t.ledger.pendingEntry id with
      | ok e => exact walked_finalize h hentry (hk id e rfl hentry)
      | error err =>
          have hsame : t.ledger.step count (.finalize id) = t.ledger := by
            unfold PostingLedger.step PostingLedger.finalize
            dsimp only
            rw [hentry]
            rfl
          have hstep : t.step count (.finalize id) = ⟨t.ledger, none, t.start, t.done⟩ := by
            unfold step
            dsimp only
            rw [hentry, hsame]
          rw [hstep]
          exact walked_of_unclean rfl h.thresholds h.walk

theorem walked_new : (new th).Walked count th := walked_of_unclean rfl rfl fun _ => .nil

end Traced

/-- **What finalizations make of a class**, in every run that finalizes only what was just found
clean. -/
theorem finalizations_walk {count : Hll → Nat} {th : GateThresholds} {ks : List Call}
    (h : Runs.Guarded (Traced.step count) Traced.ChallengedFirst (.new th) ks) (c : ClassId) :
    Walk count th ((ks.foldl (Traced.step count) (.new th)).start c)
      ((ks.foldl (Traced.step count) (.new th)).done c)
        ((ks.foldl (Traced.step count) (.new th)).ledger.judgedFrom c) ∧
      (((ks.foldl (Traced.step count) (.new th)).start c).stage = .probation →
        ((ks.foldl (Traced.step count) (.new th)).ledger.judgedFrom c).stage = .mature →
          4 ≤ ((ks.foldl (Traced.step count) (.new th)).done c).length) := by
  have hwalked :=
    Runs.throughout_of_guarded (fun _ _ hlaw hk => Traced.walked_step hlaw hk)
      Traced.walked_new h ks
    (List.prefix_refl _)
  exact ⟨hwalked.walk c, four_steps (hwalked.walk c)⟩

/-! ### Rounds -/

/-- A posting is posted, challenged and finalized. -/
def roundCalls (orchestrator : String) (posting : WindowPosting) (manifest : ReceiptsManifest)
    (id : Nat) : List Call :=
  [.post orchestrator posting manifest, .challenge id, .finalize id]

/-- The entry that a post appends. -/
def Traced.nextEntry (t : Traced) (orchestrator : String) (posting : WindowPosting)
    (manifest : ReceiptsManifest) :
    PostingEntry :=
  ⟨t.ledger.postings.length, orchestrator, posting, manifest, .pending⟩

def Traced.afterRound (t : Traced) (e : PostingEntry) : Traced :=
  ⟨{ t.ledger with postings := t.ledger.postings ++ [e] }.accept e t.ledger.postings.length, none,
    t.start, update t.done e.posting.classId (t.done e.posting.classId ++ [e])⟩

theorem Traced.challengedFirst_of_ne {t : Traced} {k : Call}
    (h : ∀ id, k ≠ .finalize id) : t.ChallengedFirst k :=
  fun id _ hk => absurd hk (h id)

/-- **A clean round.** -/
theorem Traced.round {count : Hll → Nat} {t : Traced} (orchestrator : String)
    {posting : WindowPosting}
    {manifest : ReceiptsManifest} {receipts : List Receipt}
    (hbond : (t.ledger.bonds.lookup orchestrator).isNone = false)
    (hreceipts : manifest.generate = some receipts)
    (hverify : verifyPosting count posting receipts (t.ledger.judgedFrom posting.classId)
      t.ledger.th [] = none) :
    Runs.Guarded (Traced.step count) Traced.ChallengedFirst t
        (roundCalls orchestrator posting manifest t.ledger.postings.length) ∧
      (roundCalls orchestrator posting manifest t.ledger.postings.length).foldl
        (Traced.step count) t = t.afterRound (t.nextEntry orchestrator posting manifest) := by
  set e := t.nextEntry orchestrator posting manifest with he
  set l : PostingLedger := { t.ledger with postings := t.ledger.postings ++ [e] } with hl
  have hposted : t.ledger.step count (.post orchestrator posting manifest) = l := by
    unfold PostingLedger.step PostingLedger.post
    dsimp only
    rw [hbond]
    rfl
  have hentry : l.pendingEntry t.ledger.postings.length = .ok e :=
    pendingEntry_ok.mpr ⟨List.getElem?_concat_length, rfl⟩
  have hchallenge : l.challenge count t.ledger.postings.length = .ok (none, l) := by
    have hjudged := @challenge_pending count l _ _ hentry _ hreceipts
    have hclean : verifyPosting count e.posting receipts (l.judgedFrom e.posting.classId) l.th []
      = none := hverify
    rw [hclean] at hjudged
    exact hjudged
  have hfirst :
    t.step count (.post orchestrator posting manifest) = ⟨l, none, t.start, t.done⟩ := by
    unfold Traced.step
    dsimp only
    rw [hposted]
  have hsecond : Traced.step count ⟨l, none, t.start, t.done⟩ (.challenge t.ledger.postings.length)
      = ⟨l, some t.ledger.postings.length, t.start, t.done⟩ := by
    unfold Traced.step PostingLedger.step
    dsimp only
    rw [hchallenge]
  have hthird : Traced.step count ⟨l, some t.ledger.postings.length, t.start, t.done⟩
      (.finalize t.ledger.postings.length) = t.afterRound e := by
    unfold Traced.step PostingLedger.step PostingLedger.finalize
    dsimp only
    rw [hentry]
    rfl
  refine ⟨Runs.guarded_cons (Traced.challengedFirst_of_ne fun _ hk => Call.noConfusion hk) ?_, ?_⟩
  · rw [hfirst]
    refine Runs.guarded_cons (Traced.challengedFirst_of_ne fun _ hk => Call.noConfusion hk) ?_
    rw [hsecond]
    refine Runs.guarded_cons ?_ Runs.guarded_nil
    intro id e' hid _
    cases hid
    rfl
  · rw [roundCalls, List.foldl_cons, List.foldl_cons, List.foldl_cons, List.foldl_nil, hfirst,
      hsecond, hthird]

/-! ### A window that is replayed, and a careful orchestrator -/

/-- The calls that put a class on probation. -/
def setup : List Call := [.registerBond "orchestrator" 1000, .seedState "class" samplePrior]

def sampleTraced : Traced :=
  ⟨sampleLedger, none, update (fun _ => candidateState) "class" samplePrior,
    update (fun _ => []) "class" []⟩

theorem setup_run (count : Hll → Nat) :
    Runs.Guarded (Traced.step count) Traced.ChallengedFirst (.new sampleThresholds) setup ∧
      setup.foldl (Traced.step count) (.new sampleThresholds) = sampleTraced :=
  ⟨Runs.guarded_cons (Traced.challengedFirst_of_ne fun _ hk => Call.noConfusion hk)
    (Runs.guarded_cons (Traced.challengedFirst_of_ne fun _ hk => Call.noConfusion hk)
      Runs.guarded_nil), rfl⟩

section
variable (count : Hll → Nat)

theorem sample_round (window : Nat) {t : Traced}
    (hbond : (t.ledger.bonds.lookup "orchestrator").isNone = false)
    (hth : t.ledger.th = sampleThresholds) :
    let posting := samplePosting count (t.ledger.judgedFrom "class") window
    Runs.Guarded (Traced.step count) Traced.ChallengedFirst t
        (roundCalls "orchestrator" posting (sampleManifest window) t.ledger.postings.length) ∧
      (roundCalls "orchestrator" posting (sampleManifest window) t.ledger.postings.length).foldl
          (Traced.step count) t
        = t.afterRound (t.nextEntry "orchestrator" posting (sampleManifest window)) := by
  intro posting
  have hmade := samplePosting_made count window (t.ledger.judgedFrom "class")
  have hreceipts :
    (sampleManifest window).generate = some [(sampleManifest window).receipt 0] := rfl
  refine Traced.round _ hbond hreceipts ?_
  rw [hth]
  exact (verifyPosting_honest hmade rfl _).mpr (stillFits_of_unmoved rfl rfl)

theorem sample_rounds (first second : Nat) : ∃ ks,
    Runs.Guarded (Traced.step count) Traced.ChallengedFirst (.new sampleThresholds) ks ∧
      ((ks.foldl (Traced.step count) (.new sampleThresholds)).done "class").map (·.posting.window)
        = [first, second] := by
  obtain ⟨hsetup, hsetupRun⟩ := setup_run count
  obtain ⟨hfirst, hfirstRun⟩ := sample_round count first (t := sampleTraced) rfl rfl
  obtain ⟨hsecond, hsecondRun⟩ := sample_round count second (t := sampleTraced.afterRound _) rfl rfl
  rw [← hfirstRun] at hsecond hsecondRun
  have hboth := Runs.guarded_append hfirst hsecond
  rw [← hsetupRun] at hboth
  refine ⟨_, Runs.guarded_append hsetup hboth, ?_⟩
  rw [List.foldl_append, hsetupRun, List.foldl_append, hsecondRun, hfirstRun]
  rfl

end

/-- The first two windows of a class on probation. -/
theorem finalizations_walk_sample :
    ∃ ks, Runs.Guarded (Traced.step fun _ => 1) Traced.ChallengedFirst (.new sampleThresholds) ks ∧
      ((ks.foldl (Traced.step fun _ => 1) (.new sampleThresholds)).done "class").map
        (·.posting.window) = [1, 2] ∧
      Walk (fun _ => 1) sampleThresholds
        ((ks.foldl (Traced.step fun _ => 1) (.new sampleThresholds)).start "class")
        ((ks.foldl (Traced.step fun _ => 1) (.new sampleThresholds)).done "class")
        ((ks.foldl (Traced.step fun _ => 1) (.new sampleThresholds)).ledger.judgedFrom
          "class") := by
  obtain ⟨ks, hguarded, hwindows⟩ := sample_rounds (fun _ => 1) 1 2
  exact ⟨ks, hguarded, hwindows, (finalizations_walk hguarded "class").1⟩

/-- The first posting of each window. -/
def oncePerWindow : List PostingEntry → List PostingEntry
  | [] => []
  | e :: es => e :: (oncePerWindow es).filter fun e' => e'.posting.window ≠ e.posting.window

/-- The legal step of each window, taken once. -/
def legalWalk (count : Hll → Nat) (th : GateThresholds) (start : ClassState)
    (es : List PostingEntry) : ClassState :=
  (oncePerWindow es).foldl (fun st e =>
    { st with
      stage := (legalTransition count th e.accumulator st).toStage
      pClass := (legalTransition count th e.accumulator st).toP }) start

/-- The conservative posting of window 1. -/
def carefulPosting (count : Hll → Nat) : WindowPosting :=
  postingOf count samplePrior (sampleManifest 1) sampleThresholds
    (sampleManifest 1).accumulator .conservative

theorem sample_legal (count : Hll → Nat) :
    legalTransition count sampleThresholds (sampleManifest 1).accumulator samplePrior
    = ⟨.relax, 1 / 2, .promote⟩ := by
  unfold legalTransition
  rw [sampleManifest_gate]
  unfold evaluateTransition
  rw [if_neg (by simp [samplePrior])]
  rfl

theorem carefulPosting_rate (count : Hll → Nat) : (carefulPosting count).claimedToP = 1 := by
  show max 1
    (legalTransition count sampleThresholds (sampleManifest 1).accumulator samplePrior).toP = 1
  rw [sample_legal]
  norm_num

theorem carefulPosting_clean (count : Hll → Nat) :
    verifyPosting count (carefulPosting count) [(sampleManifest 1).receipt 0] samplePrior
      sampleThresholds [] = none := by
  have hacc : accumulatorAt [(sampleManifest 1).receipt 0] [] ("class", 1)
    = (sampleManifest 1).accumulator := rfl
  refine verifyPosting_none.mpr ⟨congrArg _ hacc, ⟨rfl, ?_⟩, ?_⟩
  · show |(1 : ℚ) - 1| < rateEps
    rw [sub_self, abs_zero]
    exact rateEps_pos
  · show NoLessSafe
      (legalTransition count _ (accumulatorAt [(sampleManifest 1).receipt 0] [] ("class", 1)) _) _ _
    rw [hacc, sample_legal, carefulPosting_rate]
    refine ⟨?_, show Protocol.rank .probation ≤ Protocol.rank .relax by decide⟩
    unfold rateEps
    norm_num

/-- Window 1 is finalized twice; and a class is held on probation by a clean posting. -/
theorem window_replayed :
    (¬∀ count th ks, Runs.Guarded (Traced.step count) Traced.ChallengedFirst (.new th) ks → ∀ c,
        (((ks.foldl (Traced.step count) (.new th)).done c).map fun e => e.posting.window).Pairwise
          (· < ·)) ∧
      ¬∀ count th ks, Runs.Guarded (Traced.step count) Traced.ChallengedFirst (.new th) ks → ∀ c,
        ((ks.foldl (Traced.step count) (.new th)).ledger.judgedFrom c).pClass
          = (legalWalk count th ((ks.foldl (Traced.step count) (.new th)).start c)
              ((ks.foldl (Traced.step count) (.new th)).done c)).pClass := by
  let count : Hll → Nat := fun _ => 1
  constructor
  · intro h
    obtain ⟨ks, hguarded, hwindows⟩ := sample_rounds count 1 1
    have hincreasing := h count sampleThresholds ks hguarded "class"
    rw [hwindows] at hincreasing
    exact absurd hincreasing (by decide)
  · intro h
    obtain ⟨hsetup, hsetupRun⟩ := setup_run count
    obtain ⟨hround, hroundRun⟩ := Traced.round (t := sampleTraced) "orchestrator" rfl
      (show (sampleManifest 1).generate = some [(sampleManifest 1).receipt 0] from rfl)
        (carefulPosting_clean count)
    rw [← hsetupRun] at hround
    have hrate := h count sampleThresholds _ (Runs.guarded_append hsetup hround) "class"
    rw [List.foldl_append, hsetupRun, hroundRun] at hrate
    have hheld :
      ((sampleTraced.afterRound (sampleTraced.nextEntry "orchestrator" (carefulPosting count)
        (sampleManifest 1))).ledger.judgedFrom "class").pClass
        = (carefulPosting count).claimedToP := by
      unfold Traced.afterRound
      rw [Traced.judgedFrom_accept]
      exact congrArg ClassState.pClass (if_pos rfl)
    have hlegal : (1 : ℚ)
        = (legalTransition count sampleThresholds (sampleManifest 1).accumulator
          samplePrior).toP := by
      rw [← carefulPosting_rate count, ← hheld]
      exact hrate
    rw [sample_legal] at hlegal
    norm_num at hlegal

end GoatCoin.Ledger
