/-
# `GoatCoin.Attestor.ProxyChallenger` — a proposed epoch held against the gateway's meter

Three passes, and the first fault is the answer:

    a session listed twice     in the order of the proposal
    what the proposer claims   in the order of the session ids
    what the gateway saw       in the order of the session ids

The first pass is the only one that can tell two orders of a proposal apart.  It does so exactly
when the rows of repeated sessions are not all alike in what a challenge reports
(`order_independent_iff`).
-/
import GoatCoin.Attestor.Aggregate

namespace GoatCoin.Attestor.ProxyChallenger

open Evm

/-- `VerifiedMeterCommitment`: what a comparison reads of it, with what was checked of that. -/
structure VerifiedMeterCommitment where
  sessions : List GatewayMeterSession
  totalBytes : Word 128
  distinct : (sessions.map (·.sessionId)).Nodup
  consistent : (sessions.map (·.totalBytes.val)).sum = totalBytes.val

inductive ProxyChallengeDecision where
  | ok
  | challenge (reason sessionIdHex operatorHex : String) (proposedBytes witnessedBytes : Word 128)
deriving DecidableEq

/-- The first row whose session has been seen. -/
def firstDuplicate (seen : List Bytes32) : List SessionTotal → Option SessionTotal
  | [] => none
  | s :: rows => if s.sessionId ∈ seen then some s else firstDuplicate (s.sessionId :: seen) rows

def duplicated (witnessed : VerifiedMeterCommitment) (dup : SessionTotal) :
    ProxyChallengeDecision :=
  .challenge "the proposed batch lists the same session more than once" (hexOf 32 dup.sessionId.val)
    (hexOf 20 dup.operator.val) dup.totalBytes
    (((witnessed.sessions.find? (·.sessionId = dup.sessionId)).map (·.totalBytes)).getD 0)

/-- What is wrong with a row that the proposer claims. -/
def claimFault (wit : SortedMap Bytes32 GatewayMeterSession) (id : Bytes32) (p : SessionTotal) :
    Option ProxyChallengeDecision :=
  match wit.get? id with
  | none =>
      some (.challenge "session claimed by the proposer is absent from the gateway meter"
        (hexOf 32 id.val) (hexOf 20 p.operator.val) p.totalBytes 0)
  | some w =>
      if w.operator ≠ p.operator then
        some (.challenge
          s!"session attributed to 0x{hexOf 20 p.operator.val} by the proposer and 0x{hexOf 20 w.operator.val} by the gateway"
          (hexOf 32 id.val) (hexOf 20 p.operator.val) p.totalBytes w.totalBytes)
      else if w.totalBytes ≠ p.totalBytes ∨ w.chunkCount ≠ p.chunkCount then
        some (.challenge "byte or chunk count differs from the gateway meter (exact equality)"
          (hexOf 32 id.val) (hexOf 20 p.operator.val) p.totalBytes w.totalBytes)
      else none

/-- What is wrong with a session that the gateway saw. -/
def omissionFault (prop : SortedMap Bytes32 SessionTotal) (id : Bytes32) (w : GatewayMeterSession) :
    Option ProxyChallengeDecision :=
  if (prop.get? id).isSome then none
  else some (.challenge "session witnessed by the gateway is absent from the proposed batch"
    (hexOf 32 id.val) (hexOf 20 w.operator.val) 0 w.totalBytes)

/-- The two passes over the maps. -/
def compare (prop : SortedMap Bytes32 SessionTotal) (wit : SortedMap Bytes32 GatewayMeterSession) :
    ProxyChallengeDecision :=
  match prop.entries.findSome? fun e => claimFault wit e.1 e.2 with
  | some fault => fault
  | none => (wit.entries.findSome? fun e => omissionFault prop e.1 e.2).getD .ok

def evaluateProxyEpoch (proposed : List SessionTotal) (witnessed : VerifiedMeterCommitment) :
    ProxyChallengeDecision :=
  match firstDuplicate [] proposed with
  | some dup => duplicated witnessed dup
  | none =>
      compare (.ofList (proposed.map fun s => (s.sessionId, s)))
        (.ofList (witnessed.sessions.map fun s => (s.sessionId, s)))

/-! ## The pass in the order of the proposal -/

variable {rows : List SessionTotal} {s : SessionTotal}

theorem firstDuplicate_none : ∀ {seen : List Bytes32},
    firstDuplicate seen rows = none ↔
      (rows.map (·.sessionId)).Nodup ∧ ∀ s ∈ rows, s.sessionId ∉ seen := by
  induction rows with
  | nil => simp [firstDuplicate]
  | cons r rows ih =>
      intro seen
      rw [firstDuplicate]
      split_ifs with hseen
      · exact ⟨fun h => (by cases h), fun h => absurd hseen (h.2 r List.mem_cons_self)⟩
      · simp only [ih, List.map_cons, List.nodup_cons, List.mem_map, List.mem_cons,
          forall_eq_or_imp, not_or, not_exists, not_and]
        constructor
        · rintro ⟨hnodup, hrows⟩
          exact ⟨⟨fun s hs => (hrows s hs).1, hnodup⟩, hseen, fun s hs => (hrows s hs).2⟩
        · rintro ⟨⟨hne, hnodup⟩, -, hrows⟩
          exact ⟨hnodup, fun s hs => ⟨hne s hs, hrows s hs⟩⟩

/-- A row whose session is listed more than once. -/
def Repeated (rows : List SessionTotal) (s : SessionTotal) : Prop :=
  s ∈ rows ∧ 2 ≤ (rows.map (·.sessionId)).count s.sessionId

theorem Repeated.perm {rows' : List SessionTotal} (h : rows.Perm rows')
    (hs : Repeated rows s) : Repeated rows' s :=
  ⟨h.subset hs.1, (h.map (·.sessionId)).count_eq s.sessionId ▸ hs.2⟩

theorem firstDuplicate_some : ∀ {seen : List Bytes32},
    firstDuplicate seen rows = some s →
      s ∈ rows ∧ 2 ≤ (seen ++ rows.map (·.sessionId)).count s.sessionId := by
  induction rows with
  | nil =>
      intro seen h
      cases h
  | cons r rows ih =>
      intro seen h
      rw [firstDuplicate] at h
      split_ifs at h with hseen
      · cases h
        refine ⟨List.mem_cons_self, ?_⟩
        have hone := List.one_le_count_iff.mpr hseen
        rw [List.map_cons, List.count_append, List.count_cons_self]
        omega
      · obtain ⟨hmem, hcount⟩ := ih h
        refine ⟨List.mem_cons_of_mem r hmem, ?_⟩
        rwa [List.map_cons, List.perm_middle.count_eq, ← List.cons_append]

theorem Repeated.exists_perm (h : Repeated rows s) :
    ∃ rows', rows'.Perm rows ∧ firstDuplicate [] rows' = some s := by
  obtain ⟨hmem, hcount⟩ := h
  have hfront : rows.Perm (s :: rows.erase s) := List.perm_cons_erase hmem
  rw [(hfront.map (·.sessionId)).count_eq, List.map_cons, List.count_cons_self] at hcount
  have hother : s.sessionId ∈ (rows.erase s).map (·.sessionId) :=
    List.one_le_count_iff.mp (by omega)
  obtain ⟨t, ht, heq⟩ := List.mem_map.mp hother
  refine ⟨t :: s :: (rows.erase s).erase t, ?_, ?_⟩
  · exact (List.Perm.swap s t _).trans (((List.perm_cons_erase ht).symm.cons s).trans hfront.symm)
  · rw [firstDuplicate, if_neg List.not_mem_nil, firstDuplicate, heq, if_pos List.mem_cons_self]

theorem evaluate_of_some
    (h : firstDuplicate [] rows = some s) (w : VerifiedMeterCommitment) :
    evaluateProxyEpoch rows w = duplicated w s := by
  rw [evaluateProxyEpoch, h]

/-! ## Which proposals are evaluated alike in every order -/

theorem hexOf_inj {k : Nat} {a b : Word (8 * k)} (h : hexOf k a.val = hexOf k b.val) : a = b := by
  have hdecode := congrArg (decodeFixed k) h
  rw [decodeFixed_hexOf, decodeFixed_hexOf] at hdecode
  exact Option.some.inj hdecode

/-- Rows of repeated sessions are alike in what a challenge reports of them. -/
def RepeatsAlike (rows : List SessionTotal) : Prop :=
  ∀ s t, Repeated rows s → Repeated rows t →
    s.sessionId = t.sessionId ∧ s.operator = t.operator ∧ s.totalBytes = t.totalBytes

theorem duplicated_eq_iff {w : VerifiedMeterCommitment} {t : SessionTotal} :
    duplicated w s = duplicated w t ↔
      s.sessionId = t.sessionId ∧ s.operator = t.operator ∧ s.totalBytes = t.totalBytes := by
  constructor
  · intro h
    rw [duplicated, duplicated] at h
    injection h with _ hid hoperator hbytes _
    exact ⟨@hexOf_inj 32 _ _ hid, @hexOf_inj 20 _ _ hoperator, hbytes⟩
  · rintro ⟨hid, hoperator, hbytes⟩
    rw [duplicated, duplicated, hid, hoperator, hbytes]

/-- **When the order of a proposal makes no difference.** -/
theorem order_independent_iff (witnessed : VerifiedMeterCommitment) (proposed : List SessionTotal) :
    (∀ proposed', proposed'.Perm proposed →
        evaluateProxyEpoch proposed' witnessed = evaluateProxyEpoch proposed witnessed)
      ↔ RepeatsAlike proposed := by
  constructor
  · intro h s t hs ht
    obtain ⟨rows, hrows, hfirst⟩ := hs.exists_perm
    obtain ⟨rows', hrows', hfirst'⟩ := ht.exists_perm
    have heq := (h rows hrows).trans (h rows' hrows').symm
    rw [evaluate_of_some hfirst, evaluate_of_some hfirst'] at heq
    exact duplicated_eq_iff.mp heq
  · intro halike proposed' hperm
    cases hfirst : firstDuplicate [] proposed with
    | some s =>
        cases hfirst' : firstDuplicate [] proposed' with
        | some t =>
            have hs : Repeated proposed s := firstDuplicate_some hfirst
            have ht : Repeated proposed' t := firstDuplicate_some hfirst'
            rw [evaluate_of_some hfirst, evaluate_of_some hfirst']
            exact duplicated_eq_iff.mpr (halike t s (ht.perm hperm) hs)
        | none =>
            have hnodup := (firstDuplicate_none.mp hfirst').1
            have hnone : firstDuplicate [] proposed = none :=
              firstDuplicate_none.mpr ⟨(hperm.map _).nodup_iff.mp hnodup,
                fun _ _ => List.not_mem_nil⟩
            rw [hnone] at hfirst
            cases hfirst
    | none =>
        have hnodup' : (proposed'.map (·.sessionId)).Nodup :=
          (hperm.map _).nodup_iff.mpr (firstDuplicate_none.mp hfirst).1
        have hfirst' : firstDuplicate [] proposed' = none :=
          firstDuplicate_none.mpr ⟨hnodup', fun _ _ => List.not_mem_nil⟩
        have hkeys : ((proposed'.map fun s => (s.sessionId, s)).map Prod.fst).Nodup := by
          rw [List.map_map]
          exact hnodup'
        rw [evaluateProxyEpoch, evaluateProxyEpoch, hfirst, hfirst',
          SortedMap.ofList_perm (hperm.map _) hkeys]

/-- Two sessions listed twice: each order reports the one that it repeats first. -/
theorem order_matters :
    ∃ (witnessed : VerifiedMeterCommitment) (proposed proposed' : List SessionTotal),
      proposed'.Perm proposed
        ∧ evaluateProxyEpoch proposed' witnessed ≠ evaluateProxyEpoch proposed witnessed := by
  refine ⟨⟨[], 0, List.nodup_nil, rfl⟩,
    [⟨1, 5, 10, 1⟩, ⟨1, 5, 10, 1⟩, ⟨2, 5, 10, 1⟩, ⟨2, 5, 10, 1⟩],
    [⟨2, 5, 10, 1⟩, ⟨2, 5, 10, 1⟩, ⟨1, 5, 10, 1⟩, ⟨1, 5, 10, 1⟩], by decide, ?_⟩
  rw [evaluate_of_some (s := ⟨2, 5, 10, 1⟩) rfl, evaluate_of_some (s := ⟨1, 5, 10, 1⟩) rfl]
  intro h
  exact absurd (duplicated_eq_iff.mp h).1 (by decide)

end GoatCoin.Attestor.ProxyChallenger
