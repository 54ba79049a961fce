/-
# `GoatCoin.Ledger.Slashing` — how often a bond is paid out

A conviction burns half of the orchestrator's bond and gives the rest to the challenger.  It marks
the bond as slashed, and nothing reads the mark:

    challenge    pays out the whole bond again for each further posting that is convicted
    post         asks whether there is a bond, not whether anything is left of it

The runs here carry a history beside the ledger, newest first: what was registered, posted and paid
out.  The mark is right at every moment (`Kept.bond`), so the law that slashing stays within the
bonds holds along a run exactly when every conviction and every post finds a bond that is not marked
(`slashing_within_bonds_iff`).
-/
import GoatCoin.Ledger.HonestPostings

namespace GoatCoin.Ledger

open Assoc GoatCoin.Protocol

/-! ## Histories -/

/-- What is paid in and out. -/
inductive Event where
  | registered (orchestrator : String) (amount : Nat)
  | posted (orchestrator : String)
  | paid (orchestrator : String) (amount : Nat)
deriving DecidableEq

section
variable (o : String)

/-- The sum of the bonds registered for an orchestrator. -/
def registeredFor : List Event → Nat
  | [] => 0
  | .registered p amount :: older => (if p = o then amount else 0) + registeredFor older
  | .posted _ :: older => registeredFor older
  | .paid _ _ :: older => registeredFor older

/-- How often its present bond has been paid out. -/
def paidSince : List Event → Nat
  | [] => 0
  | .registered p _ :: older => if p = o then 0 else paidSince older
  | .posted _ :: older => paidSince older
  | .paid p _ :: older => (if p = o then 1 else 0) + paidSince older

/-- What has not been paid out of its present bond. -/
def unpaid : List Event → Nat
  | [] => 0
  | .registered p amount :: older => if p = o then amount else unpaid older
  | .posted _ :: older => unpaid older
  | .paid p _ :: older => if p = o then 0 else unpaid older

end

/-- Every payout is the first of its bond. -/
def PaidOnce : List Event → Prop
  | [] => True
  | .paid o _ :: older => paidSince o older = 0 ∧ PaidOnce older
  | .registered _ _ :: older => PaidOnce older
  | .posted _ :: older => PaidOnce older

/-- Every post is by an orchestrator whose present bond has not been paid out. -/
def PostedBonded : List Event → Prop
  | [] => True
  | .posted o :: older => paidSince o older = 0 ∧ PostedBonded older
  | .registered _ _ :: older => PostedBonded older
  | .paid _ _ :: older => PostedBonded older

/-! ## Audited runs -/

namespace PostingLedger

/-- What the slash events of an orchestrator burn and pay. -/
def slashedFrom (l : PostingLedger) (o : String) : Nat :=
  ((l.slashEvents.filter (·.orchestrator = o)).map fun e => e.burned + e.toChallenger).sum

/-- What a call adds to the history. -/
def events (count : Hll → Nat) (l : PostingLedger) : Call → List Event
  | .registerBond o amount => [.registered o amount]
  | .seedState _ _ => []
  | .post o posting manifest =>
      match l.post o posting manifest with
      | .ok _ => [.posted o]
      | .error _ => []
  | .challenge id =>
      match l.challenge count id with
      | .ok (_, l') => (l'.slashEvents.drop l.slashEvents.length).map fun e =>
          .paid e.orchestrator (e.burned + e.toChallenger)
      | .error _ => []
  | .finalize _ => []

end PostingLedger

structure Audit where
  ledger : PostingLedger
  history : List Event

namespace Audit

def new (th : GateThresholds) : Audit := ⟨.new th, []⟩

def step (count : Hll → Nat) (a : Audit) (k : Call) : Audit :=
  ⟨a.ledger.step count k, a.ledger.events count k ++ a.history⟩

/-- **Slashing stays within the bonds**: what is slashed from an orchestrator is at most what was
registered for it, no bond is paid out twice, and no one posts on a bond that is gone. -/
structure Sound (a : Audit) : Prop where
  bounded : ∀ o, a.ledger.slashedFrom o ≤ registeredFor o a.history
  paidOnce : PaidOnce a.history
  postedBonded : PostedBonded a.history

/-- The challenge of a number convicts an entry. -/
def Convicts (count : Hll → Nat) (l : PostingLedger) (id : Nat) (e : PostingEntry) : Prop :=
  l.postings[id]? = some e ∧ e.resolution = .pending ∧ ∃ receipts,
    e.manifest.generate = some receipts ∧
    (verifyPosting count e.posting receipts (l.judgedFrom e.posting.classId) l.th []).isSome

/-- A post, and a challenge that convicts, find a bond that is not marked as slashed. -/
def Clear (count : Hll → Nat) (a : Audit) : Call → Prop
  | .post o _ _ => ∀ b, a.ledger.bonds.lookup o = some b → b.slashed = false
  | .challenge id => ∀ e, Convicts count a.ledger id e →
      ∀ b, a.ledger.bonds.lookup e.orchestrator = some b → b.slashed = false
  | .registerBond _ _ => True
  | .seedState _ _ => True
  | .finalize _ => True

/-- What holds along every run, marked bonds or not. -/
structure Kept (a : Audit) : Prop where
  bond : ∀ o b, a.ledger.bonds.lookup o = some b →
    (b.slashed = true ↔ paidSince o a.history ≠ 0)
    ∧ (b.slashed = false → unpaid o a.history = b.amount)
  bonded : ∀ e ∈ a.ledger.postings, ∃ b, a.ledger.bonds.lookup e.orchestrator = some b
  accounts : PaidOnce a.history →
    ∀ o, a.ledger.slashedFrom o + unpaid o a.history ≤ registeredFor o a.history

/-! ### What a step does -/

/-- The ways in which a step touches bonds, slash events and history, with what the guard says of
each. -/
inductive Moves (count : Hll → Nat) (a : Audit) (k : Call) (a' : Audit) : Prop
  | quiet (hbonds : a'.ledger.bonds = a.ledger.bonds)
    (hevents : a'.ledger.slashEvents = a.ledger.slashEvents)
      (hhistory : a'.history = a.history) (hclear : a.Clear count k)
  | registered (o : String) (amount : Nat)
      (hbonds : a'.ledger.bonds = a.ledger.bonds.insert o ⟨o, amount, false⟩)
      (hevents : a'.ledger.slashEvents = a.ledger.slashEvents)
      (hhistory : a'.history = .registered o amount :: a.history) (hclear : a.Clear count k)
  | posted (o : String) (b : Bond) (hb : a.ledger.bonds.lookup o = some b)
      (hbonds : a'.ledger.bonds = a.ledger.bonds)
        (hevents : a'.ledger.slashEvents = a.ledger.slashEvents)
      (hhistory : a'.history = .posted o :: a.history) (hclear : a.Clear count k
        ↔ b.slashed = false)
  | paid (o : String) (b : Bond) (event : SlashEvent) (hb : a.ledger.bonds.lookup o = some b)
      (hbonds : a'.ledger.bonds = a.ledger.bonds.insert o { b with slashed := true })
      (hevents : a'.ledger.slashEvents = a.ledger.slashEvents ++ [event])
        (horch : event.orchestrator = o)
      (hamount : event.burned + event.toChallenger = b.amount)
      (hhistory : a'.history = .paid o b.amount :: a.history) (hclear : a.Clear count k
        ↔ b.slashed = false)

section
variable {count : Hll → Nat} {a : Audit}
variable {l l' : PostingLedger} {e : PostingEntry} {b : Bond} {k : Call} {a' : Audit}

theorem post_ok {o : String} {posting : WindowPosting} {manifest : ReceiptsManifest} {id : Nat}
    (h : l.post o posting manifest = .ok (id, l')) : ∃ b, l.bonds.lookup o = some b := by
  unfold PostingLedger.post at h
  split at h
  · cases h
  · rename_i hbond
    rw [Option.isNone_iff_eq_none, ← ne_eq, Option.ne_none_iff_exists'] at hbond
    exact hbond

theorem slash_fields (hb : l.bonds.lookup e.orchestrator = some b)
    (id : Nat) (fp : FraudReason) :
    (l.slash e id fp).bonds = l.bonds.insert e.orchestrator { b with slashed := true } ∧
    (l.slash e id fp).slashEvents
      = l.slashEvents ++ [⟨e.orchestrator, id, fp, b.amount / 2, b.amount - b.amount / 2⟩] := by
  unfold PostingLedger.slash
  rw [hb]
  exact ⟨rfl, rfl⟩

theorem step_convicted (history : List Event) {id : Nat}
    {fp : FraudReason} (hrun : l.challenge count id = .ok (some fp, l.slash e id fp))
    (hb : l.bonds.lookup e.orchestrator = some b) :
    Audit.step count ⟨l, history⟩ (.challenge id)
      = ⟨l.slash e id fp, .paid e.orchestrator b.amount :: history⟩ := by
  have hamount : b.amount / 2 + (b.amount - b.amount / 2) = b.amount := by omega
  simp only [Audit.step, PostingLedger.step, PostingLedger.events, hrun, (slash_fields hb id fp).2,
    List.drop_left, List.map_cons, List.map_nil, List.singleton_append, hamount]

/-- A challenge returns the ledger as it was, or that of a conviction. -/
theorem challenge_cases (count : Hll → Nat) (l : PostingLedger) (id : Nat) :
    (∃ err, l.challenge count id = .error err ∧ ∀ e, ¬ Convicts count l id e) ∨
    (l.challenge count id = .ok (none, l) ∧ ∀ e, ¬ Convicts count l id e) ∨
    ∃ e fp, Convicts count l id e ∧ l.challenge count id = .ok (some fp, l.slash e id fp) := by
  cases hentry : l.pendingEntry id with
  | error err =>
      refine .inl ⟨err, ?_, ?_⟩
      · unfold PostingLedger.challenge
        rw [hentry]
        rfl
      · rintro e ⟨hmem, hpending, -⟩
        rw [pendingEntry_ok.mpr ⟨hmem, hpending⟩] at hentry
        cases hentry
  | ok e =>
      obtain ⟨hmem, hpending⟩ := pendingEntry_ok.mp hentry
      have honly : ∀ e', Convicts count l id e' → e' = e := by
        rintro e' ⟨hmem', -⟩
        rw [hmem] at hmem'
        cases hmem'
        rfl
      cases hreceipts : e.manifest.generate with
      | none =>
          refine .inl ⟨_, challenge_stopped hentry hreceipts, fun e' hconvicts => ?_⟩
          obtain ⟨-, -, receipts, hgen, -⟩ := honly e' hconvicts ▸ hconvicts
          rw [hreceipts] at hgen
          cases hgen
      | some receipts =>
          have hrun := @challenge_pending count l _ _ hentry _ hreceipts
          cases hverify :
            verifyPosting count e.posting receipts (l.judgedFrom e.posting.classId) l.th [] with
          | none =>
              rw [hverify] at hrun
              refine .inr (.inl ⟨hrun, fun e' hconvicts => ?_⟩)
              obtain ⟨-, -, receipts', hgen, hfraud⟩ := honly e' hconvicts ▸ hconvicts
              rw [hreceipts] at hgen
              cases hgen
              rw [hverify] at hfraud
              cases hfraud
          | some fp =>
              rw [hverify] at hrun
              exact .inr
                (.inr ⟨e, fp, ⟨hmem, hpending, receipts, hreceipts, by rw [hverify]; rfl⟩, hrun⟩)

/-- **What a step does**, in a state where every posting has a bond behind it. -/
theorem moves_step
    (hbonded : ∀ e ∈ a.ledger.postings, ∃ b, a.ledger.bonds.lookup e.orchestrator = some b)
    (k : Call) : Moves count a k (a.step count k) := by
  cases k with
  | registerBond o amount => exact .registered o amount rfl rfl rfl trivial
  | seedState classId state => exact .quiet rfl rfl rfl trivial
  | post o posting manifest =>
      cases hpost : a.ledger.post o posting manifest with
      | error err =>
          have hnone : a.ledger.bonds.lookup o = none := by
            unfold PostingLedger.post at hpost
            split at hpost
            · rename_i h
              exact Option.isNone_iff_eq_none.mp h
            · cases hpost
          refine .quiet ?_ ?_ ?_ fun b hb => ?_
          · simp only [step, PostingLedger.step, hpost]
          · simp only [step, PostingLedger.step, hpost]
          · simp only [step, PostingLedger.events, hpost, List.nil_append]
          · rw [hnone] at hb
            cases hb
      | ok result =>
          obtain ⟨id, l'⟩ := result
          obtain ⟨b, hb⟩ := post_ok hpost
          have hl' : l'.bonds = a.ledger.bonds ∧ l'.slashEvents = a.ledger.slashEvents := by
            unfold PostingLedger.post at hpost
            split at hpost
            · cases hpost
            · cases hpost
              exact ⟨rfl, rfl⟩
          refine .posted o b hb ?_ ?_ ?_ ?_
          · simp only [step, PostingLedger.step, hpost, hl'.1]
          · simp only [step, PostingLedger.step, hpost, hl'.2]
          · simp only [step, PostingLedger.events, hpost, List.singleton_append]
          · constructor
            · intro h
              exact h b hb
            · intro h b' hb'
              rw [hb] at hb'
              cases hb'
              exact h
  | challenge id =>
      rcases challenge_cases count a.ledger id with ⟨err, hrun, hnot⟩ | ⟨hrun, hnot⟩
        | ⟨e, fp, hconvicts, hrun⟩
      · refine .quiet ?_ ?_ ?_ fun e he => absurd he (hnot e)
        · simp only [step, PostingLedger.step, hrun]
        · simp only [step, PostingLedger.step, hrun]
        · simp only [step, PostingLedger.events, hrun, List.nil_append]
      · refine .quiet ?_ ?_ ?_ fun e he => absurd he (hnot e)
        · simp only [step, PostingLedger.step, hrun]
        · simp only [step, PostingLedger.step, hrun]
        · simp only [step, PostingLedger.events, hrun, List.drop_length, List.map_nil,
            List.nil_append]
      · obtain ⟨b, hb⟩ := hbonded e (List.mem_of_getElem? hconvicts.1)
        obtain ⟨hbonds, hevents⟩ := slash_fields hb id fp
        have hstep := step_convicted a.history hrun hb
        refine .paid e.orchestrator b ⟨e.orchestrator, id, fp, b.amount / 2,
          b.amount - b.amount / 2⟩ hb ?_ ?_ rfl
          (by dsimp only; omega) (congrArg Audit.history hstep) ?_
        · exact (congrArg (·.ledger.bonds) hstep).trans hbonds
        · exact (congrArg (·.ledger.slashEvents) hstep).trans hevents
        · constructor
          · intro h
            exact h e hconvicts b hb
          · intro h e' hconvicts' b' hb'
            have hsame : e' = e := Option.some.inj (hconvicts'.1.symm.trans hconvicts.1)
            rw [hsame, hb] at hb'
            cases hb'
            exact h
  | finalize id =>
      rcases step_finalize count a.ledger id with hsame | ⟨e, -, -, haccept⟩
      · exact .quiet (congrArg _ hsame) (congrArg _ hsame) rfl trivial
      · refine .quiet ?_ ?_ rfl trivial
        · show (a.ledger.step count (.finalize id)).bonds = _
          rw [haccept]
          rfl
        · show (a.ledger.step count (.finalize id)).slashEvents = _
          rw [haccept]
          rfl

theorem orchestrator_of_mem (he : e ∈ (l.step count k).postings) :
    (∃ e' ∈ l.postings, e'.orchestrator = e.orchestrator)
    ∨ ∃ b, l.bonds.lookup e.orchestrator = some b := by
  have hmodified : ∀ (id : Nat) (r : Resolution),
    e ∈ l.postings.modify id (fun e => { e with resolution := r }) →
      ∃ e' ∈ l.postings, e'.orchestrator = e.orchestrator := by
    intro id r hmem
    obtain ⟨j, hj⟩ := List.mem_iff_getElem?.mp hmem
    rw [List.getElem?_modify] at hj
    obtain ⟨e', he', heq⟩ := Option.map_eq_some_iff.mp hj
    refine ⟨e', List.mem_of_getElem? he', ?_⟩
    rw [← heq]
    split <;> rfl
  cases k with
  | registerBond o amount => exact .inl ⟨e, he, rfl⟩
  | seedState classId state => exact .inl ⟨e, he, rfl⟩
  | post o posting manifest =>
      unfold PostingLedger.step at he
      dsimp only at he
      split at he
      · rename_i id l' hpost
        obtain ⟨b, hb⟩ := post_ok hpost
        unfold PostingLedger.post at hpost
        split at hpost
        · cases hpost
        · cases hpost
          rcases List.mem_append.mp he with hold | hnew
          · exact .inl ⟨e, hold, rfl⟩
          · rw [List.mem_singleton.mp hnew]
            exact .inr ⟨b, hb⟩
      · exact .inl ⟨e, he, rfl⟩
  | challenge id =>
      rcases step_challenge count l id with hsame | ⟨e', receipts, fp, -, -, -, -, hslash⟩
      · rw [hsame] at he
        exact .inl ⟨e, he, rfl⟩
      · rw [hslash] at he
        exact .inl (hmodified id _ he)
  | finalize id =>
      rcases step_finalize count l id with hsame | ⟨e', -, -, haccept⟩
      · rw [hsame] at he
        exact .inl ⟨e, he, rfl⟩
      · rw [haccept] at he
        exact .inl (hmodified id _ he)

theorem Moves.lookup (h : Moves count a k a') {o : String}
    (hb : a.ledger.bonds.lookup o = some b) : ∃ b', a'.ledger.bonds.lookup o = some b' := by
  have hinsert : ∀ (p : String) (c : Bond), ∃ b',
    (a.ledger.bonds.insert p c).lookup o = some b' := by
    intro p c
    by_cases hp : o = p
    · subst hp
      exact ⟨c, AList.lookup_insert _⟩
    · exact ⟨b, by rw [AList.lookup_insert_ne hp]; exact hb⟩
  cases h with
  | quiet hbonds => exact ⟨b, by rw [hbonds]; exact hb⟩
  | registered p amount hbonds => rw [hbonds]; exact hinsert p _
  | posted p c hc hbonds => exact ⟨b, by rw [hbonds]; exact hb⟩
  | paid p c event hc hbonds => rw [hbonds]; exact hinsert p _

theorem slashedFrom_append {event : SlashEvent}
    (h : l'.slashEvents = l.slashEvents ++ [event]) (o : String) :
    l'.slashedFrom o
      = l.slashedFrom o + if event.orchestrator = o then event.burned + event.toChallenger
      else 0 := by
  unfold PostingLedger.slashedFrom
  rw [h, List.filter_append, List.map_append, List.sum_append]
  congr 1
  split
  · rename_i ho
    rw [List.filter_cons_of_pos (by simpa using ho)]
    rfl
  · rename_i ho
    rw [List.filter_cons_of_neg (by simpa using ho)]
    rfl

theorem slashedFrom_congr (h : l'.slashEvents = l.slashEvents) (o : String) :
    l'.slashedFrom o = l.slashedFrom o := by
  unfold PostingLedger.slashedFrom
  rw [h]

theorem Kept.paidSince_eq_zero_iff (hkept : a.Kept) {o : String}
    (hb : a.ledger.bonds.lookup o = some b) : paidSince o a.history = 0 ↔ b.slashed = false := by
  have hmark := (hkept.bond o b hb).1
  rw [← Bool.not_eq_true, hmark, not_not]

theorem Kept.bond_step (hkept : a.Kept) (h : Moves count a k a') (o : String) (b : Bond)
    (hb : a'.ledger.bonds.lookup o = some b) :
    (b.slashed = true ↔ paidSince o a'.history ≠ 0)
    ∧ (b.slashed = false → unpaid o a'.history = b.amount) := by
  cases h with
  | quiet hbonds hevents hhistory =>
      rw [hbonds] at hb
      rw [hhistory]
      exact hkept.bond o b hb
  | registered p amount hbonds hevents hhistory =>
      rw [hbonds] at hb
      rw [hhistory, paidSince, unpaid]
      by_cases hp : o = p
      · subst hp
        rw [AList.lookup_insert] at hb
        cases hb
        rw [if_pos rfl, if_pos rfl]
        exact ⟨⟨nofun, fun h => absurd rfl h⟩, fun _ => rfl⟩
      · rw [AList.lookup_insert_ne hp] at hb
        rw [if_neg (Ne.symm hp), if_neg (Ne.symm hp)]
        exact hkept.bond o b hb
  | posted p c hc hbonds hevents hhistory =>
      rw [hbonds] at hb
      rw [hhistory, paidSince, unpaid]
      exact hkept.bond o b hb
  | paid p c event hc hbonds hevents horch hamount hhistory =>
      rw [hbonds] at hb
      rw [hhistory, paidSince, unpaid]
      by_cases hp : o = p
      · subst hp
        rw [AList.lookup_insert] at hb
        cases hb
        rw [if_pos rfl]
        exact ⟨⟨fun _ => by omega, fun _ => rfl⟩, nofun⟩
      · rw [AList.lookup_insert_ne hp] at hb
        rw [if_neg (Ne.symm hp), if_neg (Ne.symm hp), Nat.zero_add]
        exact hkept.bond o b hb

theorem Kept.accounts_step (hkept : a.Kept) (h : Moves count a k a')
    (honce : PaidOnce a'.history) (o : String) :
    a'.ledger.slashedFrom o + unpaid o a'.history ≤ registeredFor o a'.history := by
  cases h with
  | quiet hbonds hevents hhistory =>
      rw [hhistory] at honce ⊢
      rw [slashedFrom_congr hevents]
      exact hkept.accounts honce o
  | registered p amount hbonds hevents hhistory =>
      rw [hhistory] at honce ⊢
      have hold := hkept.accounts honce o
      rw [slashedFrom_congr hevents, unpaid, registeredFor]
      split_ifs <;> omega
  | posted p c hc hbonds hevents hhistory =>
      rw [hhistory] at honce ⊢
      rw [slashedFrom_congr hevents]
      exact hkept.accounts honce o
  | paid p c event hc hbonds hevents horch hamount hhistory =>
      rw [hhistory] at honce ⊢
      obtain ⟨hfirst, honce⟩ := honce
      have hold := hkept.accounts honce o
      rw [slashedFrom_append hevents, unpaid, registeredFor, horch, hamount]
      by_cases hp : p = o
      · subst hp
        -- the first payout of the bond pays what was left of it
        have hleft := (hkept.bond p c hc).2 ((hkept.paidSince_eq_zero_iff hc).mp hfirst)
        rw [if_pos rfl, if_pos rfl]
        omega
      · rw [if_neg hp, if_neg hp]
        exact hold

theorem Kept.step (hkept : a.Kept) (k : Call) : (a.step count k).Kept := by
  have hmoves : Moves count a k (a.step count k) := moves_step hkept.bonded k
  refine ⟨hkept.bond_step hmoves, fun e he => ?_, hkept.accounts_step hmoves⟩
  rcases orchestrator_of_mem he with ⟨e', he', heq⟩ | ⟨b, hb⟩
  · obtain ⟨b, hb⟩ := hkept.bonded e' he'
    exact heq ▸ hmoves.lookup hb
  · exact hmoves.lookup hb

theorem kept_new (th : GateThresholds) : (Audit.new th).Kept := by
  refine ⟨fun o b hb => ?_, fun e he => absurd he List.not_mem_nil, fun _ o => Nat.zero_le _⟩
  rw [Audit.new, PostingLedger.new, AList.lookup_empty] at hb
  cases hb

/-- **The guard of a step**: from a sound history a step leads to a sound one exactly when it is
clear. -/
theorem sound_step_iff (hkept : a.Kept) (hsound : a.Sound) (k : Call) :
    (a.step count k).Sound ↔ a.Clear count k := by
  have hkept' : (a.step count k).Kept := hkept.step k
  have hmoves : Moves count a k (a.step count k) := moves_step hkept.bonded k
  have hbounded : PaidOnce (a.step count k).history →
      ∀ o, (a.step count k).ledger.slashedFrom o ≤ registeredFor o (a.step count k).history := by
    intro honce o
    have h := hkept'.accounts honce o
    omega
  cases hmoves with
  | quiet hbonds hevents hhistory hclear =>
      refine ⟨fun _ => hclear, fun _ => ?_⟩
      have honce : PaidOnce (a.step count k).history := hhistory ▸ hsound.paidOnce
      exact ⟨hbounded honce, honce, hhistory ▸ hsound.postedBonded⟩
  | registered o amount hbonds hevents hhistory hclear =>
      refine ⟨fun _ => hclear, fun _ => ?_⟩
      have honce : PaidOnce (a.step count k).history := by
        rw [hhistory]
        exact hsound.paidOnce
      refine ⟨hbounded honce, honce, ?_⟩
      rw [hhistory]
      exact hsound.postedBonded
  | posted o b hb hbonds hevents hhistory hclear =>
      rw [hclear, ← hkept.paidSince_eq_zero_iff hb]
      constructor
      · intro h
        have hposted := h.postedBonded
        rw [hhistory] at hposted
        exact hposted.1
      · intro h
        have honce : PaidOnce (a.step count k).history := by
          rw [hhistory]
          exact hsound.paidOnce
        refine ⟨hbounded honce, honce, ?_⟩
        rw [hhistory]
        exact ⟨h, hsound.postedBonded⟩
  | paid o b event hb hbonds hevents horch hamount hhistory hclear =>
      rw [hclear, ← hkept.paidSince_eq_zero_iff hb]
      constructor
      · intro h
        have honce := h.paidOnce
        rw [hhistory] at honce
        exact honce.1
      · intro h
        have honce : PaidOnce (a.step count k).history := by
          rw [hhistory]
          exact ⟨h, hsound.paidOnce⟩
        refine ⟨hbounded honce, honce, ?_⟩
        rw [hhistory]
        exact hsound.postedBonded

end

theorem sound_new (th : GateThresholds) : (Audit.new th).Sound :=
  ⟨fun _ => Nat.zero_le _, trivial, trivial⟩

/-- **Slashing stays within the bonds all along a run exactly when every post and every conviction
of the run finds a bond that is not marked as slashed.** -/
theorem slashing_within_bonds_iff (count : Hll → Nat) (th : GateThresholds) (calls : List Call) :
    Runs.Throughout (Audit.step count) Audit.Sound (Audit.new th) calls
      ↔ Runs.Guarded (Audit.step count) (Audit.Clear count) (Audit.new th) calls :=
  Runs.guarded_iff_under (J := Audit.Kept) (I := Audit.Sound) (s := Audit.new th)
    (fun _ k hkept => hkept.step k)
    (fun _ k hkept hsound => sound_step_iff hkept hsound k) (kept_new th) (sound_new th) calls

/-! ### One bond, two frauds -/

/-- A posting that claims to start from a state that the class, never seeded, is not in. -/
def fraud (window : Nat) : WindowPosting := samplePosting (fun _ => 0) samplePrior window

/-- Two frauds on one bond, both convicted. -/
def twoFrauds : List Call :=
  [.registerBond "o" 100, .post "o" (fraud 1) (sampleManifest 1),
    .post "o" (fraud 2) (sampleManifest 2), .challenge 0, .challenge 1]

theorem verifyPosting_fraud (window : Nat) (th : GateThresholds) :
    verifyPosting (fun _ => 0) (fraud window) [(sampleManifest window).receipt 0]
      candidateState th [] = some .badPrior := by
  have haccumulator : accumulatorAt [(sampleManifest window).receipt 0] [] ("class", window)
      = (sampleManifest window).accumulator := rfl
  refine verifyPosting_badPrior (congrArg ClassAccumulator.root haccumulator) ?_
  show Stage.probation ≠ Stage.candidate
  decide

theorem challenge_fraud {l : PostingLedger} {id : Nat} (window : Nat) {e : PostingEntry}
    (he : l.pendingEntry id = .ok e)
    (hmanifest : e.manifest = sampleManifest window) (hposting : e.posting = fraud window)
    (hstate : l.judgedFrom "class" = candidateState) :
    l.challenge (fun _ => 0) id = .ok (some .badPrior, l.slash e id .badPrior) := by
  have hclass : e.posting.classId = "class" := by rw [hposting]; rfl
  have hgenerate : e.manifest.generate = some [(sampleManifest window).receipt 0] := by
    rw [hmanifest]; rfl
  rw [challenge_pending he hgenerate, hclass, hstate, hposting, verifyPosting_fraud]

/-- The ledger when both frauds are posted. -/
def bothPosted : PostingLedger where
  th := sampleThresholds
  bonds := (∅ : Map String Bond).insert "o" ⟨"o", 100, false⟩
  acceptedState := ∅
  postings :=
    [⟨0, "o", fraud 1, sampleManifest 1, .pending⟩, ⟨1, "o", fraud 2, sampleManifest 2, .pending⟩]
  slashEvents := []

/-- And when the first is convicted, and both. -/
def oneConvicted : PostingLedger :=
  bothPosted.slash ⟨0, "o", fraud 1, sampleManifest 1, .pending⟩ 0 .badPrior

def bothConvicted : PostingLedger :=
  oneConvicted.slash ⟨1, "o", fraud 2, sampleManifest 2, .pending⟩ 1 .badPrior

theorem bothPosted_bond : bothPosted.bonds.lookup "o" = some ⟨"o", 100, false⟩ :=
  AList.lookup_insert _

theorem oneConvicted_bond : oneConvicted.bonds.lookup "o" = some ⟨"o", 100, true⟩ := by
  rw [oneConvicted, (slash_fields bothPosted_bond _ _).1]
  exact AList.lookup_insert _

theorem twoFrauds_history :
    (twoFrauds.foldl (Audit.step fun _ => 0) (Audit.new sampleThresholds))
      = ⟨bothConvicted,
        [.paid "o" 100, .paid "o" 100, .posted "o", .posted "o", .registered "o" 100]⟩ := by
  have hposted : (twoFrauds.take 3).foldl (Audit.step fun _ => 0) (Audit.new sampleThresholds)
      = ⟨bothPosted, [.posted "o", .posted "o", .registered "o" 100]⟩ := rfl
  have hfirst : bothPosted.challenge (fun _ => 0) 0 = .ok (some .badPrior, oneConvicted) :=
    challenge_fraud 1 rfl rfl rfl rfl
  have hsecond : oneConvicted.challenge (fun _ => 0) 1 = .ok (some .badPrior, bothConvicted) :=
    challenge_fraud 2 rfl rfl rfl rfl
  rw [show twoFrauds = twoFrauds.take 3 ++ [.challenge 0, .challenge 1] from rfl,
    List.foldl_append, hposted,
    List.foldl_cons, step_convicted _ hfirst bothPosted_bond, List.foldl_cons]
  exact step_convicted _ hsecond oneConvicted_bond

/-- **A bond of 100 is paid out twice.** -/
theorem bond_paid_out_twice :
    (twoFrauds.foldl (Audit.step fun _ => 0) (Audit.new sampleThresholds)).ledger.slashedFrom
      "o" = 200 ∧
    registeredFor "o" (twoFrauds.foldl (Audit.step fun _ => 0) (Audit.new sampleThresholds)).history
    = 100 ∧
    ¬ Runs.Throughout (Audit.step fun _ => 0) Audit.Sound
      (Audit.new sampleThresholds) twoFrauds := by
  have hslashed : bothConvicted.slashedFrom "o" = 200 := by
    have hfirst :=
      (slash_fields (e := ⟨0, "o", fraud 1, sampleManifest 1, .pending⟩)
        bothPosted_bond 0 .badPrior).2
    have hsecond :=
      (slash_fields (e := ⟨1, "o", fraud 2, sampleManifest 2, .pending⟩)
        oneConvicted_bond 1 .badPrior).2
    rw [bothConvicted, slashedFrom_append hsecond, oneConvicted, slashedFrom_append hfirst]
    rfl
  refine ⟨by rw [twoFrauds_history]; exact hslashed, by rw [twoFrauds_history]; rfl, fun h => ?_⟩
  have hsound := h twoFrauds (List.prefix_refl _)
  rw [twoFrauds_history] at hsound
  exact absurd hsound.paidOnce.1 (by decide)

end Audit

end GoatCoin.Ledger
