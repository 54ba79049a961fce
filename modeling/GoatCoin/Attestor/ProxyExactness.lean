/-
# `GoatCoin.Attestor.ProxyExactness` — which proposals the proxy challenger lets pass

A document of the gateway reaches the comparison only through
`verify_meter_commitment`, which refuses a session listed twice and a header that is
not the sum of its sessions (`witness_of_verify`).  Against a document that passed, the
comparison is exact:

    pass          rules out                         by
    duplicates    a session listed twice            `firstDuplicate_none`
    claims        a row that the meter lacks        `claimFault_none`
    omissions     a session that is not claimed     `omissionFault_none`

No pass looks at a total, so alterations that cancel out are met row by row.
-/
import GoatCoin.Attestor.Digests
import GoatCoin.Attestor.ProxyChallenger

namespace GoatCoin.Attestor

open Evm

/-! ## What is compared -/

/-- A row as the proposer has it. -/
def SessionTotal.row (s : SessionTotal) : Bytes32 × Address × Word 128 × Word 64 :=
  (s.sessionId, s.operator, s.totalBytes, s.chunkCount)

/-- A row as the gateway has it. -/
def GatewayMeterSession.row (s : GatewayMeterSession) : Bytes32 × Address × Word 128 × Word 64 :=
  (s.sessionId, s.operator, s.totalBytes, s.chunkCount)

namespace ProxyChallenger

variable {p : SessionTotal} {w : GatewayMeterSession} {wit : SortedMap Bytes32 GatewayMeterSession}
  {id : Bytes32} {prop : SortedMap Bytes32 SessionTotal}

theorem row_eq_iff :
    p.row = w.row ↔ p.sessionId = w.sessionId ∧ p.operator = w.operator
      ∧ p.totalBytes = w.totalBytes ∧ p.chunkCount = w.chunkCount := by
  rw [SessionTotal.row, GatewayMeterSession.row, Prod.mk.injEq, Prod.mk.injEq, Prod.mk.injEq]

/-! ## The documents of the gateway -/

theorem foldlM_summed {sessions : List GatewayMeterSession} : ∀ {acc sum : Nat},
    sessions.foldlM (fun acc s => if acc + s.totalBytes.val < 2 ^ 128 then
        some (acc + s.totalBytes.val) else none) acc = some sum →
    acc + (sessions.map (·.totalBytes.val)).sum = sum := by
  induction sessions with
  | nil =>
      intro acc sum h
      cases h
      rfl
  | cons s sessions ih =>
      intro acc sum h
      rw [List.foldlM_cons] at h
      split at h
      · rw [List.map_cons, List.sum_cons, ← Nat.add_assoc]
        exact ih h
      · cases h

/-- **A document that verifies is a witness**: its sessions are distinct and its header
is their sum. -/
theorem witness_of_verify {e : Secp256k1} {c c' : GatewayMeterCommitment} {signatureHex : String}
    {expectedGateway : Address} {expectedEpoch chainId : Word 64} {verifying : Address}
    (h : c.verify e signatureHex expectedGateway expectedEpoch chainId verifying = .ok c') :
    ∃ witnessed : VerifiedMeterCommitment,
      witnessed.sessions = c.sessions ∧ witnessed.totalBytes = c.totalBytes := by
  have hnodup := GatewayMeterCommitment.nodup_of_verify h
  obtain ⟨_, -, _, -, h⟩ := bind_ok₂.mp h
  have hsum : (c.sessions.map (·.totalBytes.val)).sum = c.totalBytes.val := by
    cases hdup : c.duplicateSession with
    | some id =>
        rw [hdup] at h
        cases h
    | none =>
        rw [hdup] at h
        cases hsummed : c.summedBytes with
        | none =>
            rw [hsummed] at h
            cases h
        | some summed =>
            rw [hsummed] at h
            obtain ⟨_, hrequire, -⟩ := bind_ok.mp h
            rw [← require_ok.mp hrequire, ← foldlM_summed hsummed, Nat.zero_add]
  exact ⟨⟨c.sessions, c.totalBytes, hnodup, hsum⟩, rfl, rfl⟩

/-! ## What each pass finds -/

theorem claimFault_none :
    claimFault wit id p = none ↔ ∃ w, wit.get? id = some w ∧ p.operator = w.operator
      ∧ p.totalBytes = w.totalBytes ∧ p.chunkCount = w.chunkCount := by
  unfold claimFault
  cases hget : wit.get? id with
  | none => exact ⟨nofun, fun ⟨_, h, _⟩ => (by cases h)⟩
  | some w =>
      dsimp only
      constructor
      · intro h
        split_ifs at h with hoperator hcounts
        obtain ⟨hbytes, hchunks⟩ := not_or.mp hcounts
        exact ⟨w, rfl, (not_not.mp hoperator).symm, (not_not.mp hbytes).symm,
          (not_not.mp hchunks).symm⟩
      · rintro ⟨w', hw', hoperator, hbytes, hchunks⟩
        cases hw'
        rw [if_neg (not_not.mpr hoperator.symm),
          if_neg (not_or.mpr ⟨not_not.mpr hbytes.symm, not_not.mpr hchunks.symm⟩)]

theorem omissionFault_none :
    omissionFault prop id w = none ↔ ∃ p, prop.get? id = some p := by
  unfold omissionFault
  rw [← Option.isSome_iff_exists]
  split
  · rename_i h
    exact ⟨fun _ => h, fun _ => rfl⟩
  · rename_i h
    exact ⟨nofun, fun h' => absurd h' h⟩

theorem claimFault_ne_ok :
    claimFault wit id p ≠ some .ok := by
  unfold claimFault
  split
  · nofun
  · split_ifs <;> nofun

theorem omissionFault_ne_ok :
    omissionFault prop id w ≠ some .ok := by
  unfold omissionFault
  split_ifs <;> nofun

theorem compare_ok_iff :
    compare prop wit = .ok ↔
      (∀ e ∈ prop.entries, claimFault wit e.1 e.2 = none)
        ∧ ∀ e ∈ wit.entries, omissionFault prop e.1 e.2 = none := by
  rw [← List.findSome?_eq_none_iff, ← List.findSome?_eq_none_iff, compare]
  cases hclaims : prop.entries.findSome? fun e => claimFault wit e.1 e.2 with
  | some fault =>
      obtain ⟨_, _, _, -, hfault, -⟩ := List.findSome?_eq_some_iff.mp hclaims
      refine ⟨fun hok => ?_, fun h => (by cases h.1)⟩
      exact absurd (hfault.trans (congrArg some hok)) claimFault_ne_ok
  | none =>
      cases homissions : wit.entries.findSome? fun e => omissionFault prop e.1 e.2 with
      | some fault =>
          obtain ⟨_, _, _, -, hfault, -⟩ := List.findSome?_eq_some_iff.mp homissions
          refine ⟨fun hok => ?_, fun h => (by cases h.2)⟩
          exact absurd (hfault.trans (congrArg some hok)) omissionFault_ne_ok
      | none => exact ⟨fun _ => ⟨rfl, rfl⟩, fun _ => rfl⟩

/-! ## Exactness -/

theorem compare_rows_iff {proposed : List SessionTotal} (witnessed : VerifiedMeterCommitment)
    (hnodup : (proposed.map (·.sessionId)).Nodup) :
    compare (.ofList (proposed.map fun s => (s.sessionId, s)))
        (.ofList (witnessed.sessions.map fun s => (s.sessionId, s))) = .ok
      ↔ ∀ row, row ∈ proposed.map SessionTotal.row
          ↔ row ∈ witnessed.sessions.map GatewayMeterSession.row := by
  have hprop := @SortedMap.get?_ofList_keyed _ _ _ _ _ hnodup
  have hwit := @SortedMap.get?_ofList_keyed _ _ _ _ _ witnessed.distinct
  rw [compare_ok_iff]
  constructor
  · rintro ⟨hclaims, homissions⟩
    -- every claim is a row of the meter
    have hclaimed : ∀ p ∈ proposed, ∃ w ∈ witnessed.sessions, p.row = w.row := by
      intro p hp
      have hentry := (SortedMap.mem_entries_iff _ _ _).mpr (hprop.mpr ⟨hp, rfl⟩)
      obtain ⟨w, hget, hrest⟩ := claimFault_none.mp (hclaims _ hentry)
      obtain ⟨hw, hid⟩ := hwit.mp hget
      exact ⟨w, hw, row_eq_iff.mpr ⟨hid.symm, hrest⟩⟩
    intro row
    constructor
    · intro hrow
      obtain ⟨p, hp, rfl⟩ := List.mem_map.mp hrow
      obtain ⟨w, hw, heq⟩ := hclaimed p hp
      exact heq ▸ List.mem_map_of_mem hw
    · intro hrow
      obtain ⟨w, hw, rfl⟩ := List.mem_map.mp hrow
      have hentry := (SortedMap.mem_entries_iff _ _ _).mpr (hwit.mpr ⟨hw, rfl⟩)
      obtain ⟨p, hget⟩ := omissionFault_none.mp (homissions _ hentry)
      obtain ⟨hp, hid⟩ := hprop.mp hget
      -- the claim of that session is some row of the meter, and the meter has but one
      obtain ⟨w', hw', heq⟩ := hclaimed p hp
      have hsame : w' = w := List.inj_on_of_nodup_map witnessed.distinct hw' hw
        ((row_eq_iff.mp heq).1.symm.trans hid)
      exact hsame ▸ heq ▸ List.mem_map_of_mem hp
  · intro hrows
    constructor
    · rintro ⟨id, p⟩ hentry
      obtain ⟨hp, rfl⟩ := hprop.mp ((SortedMap.mem_entries_iff _ _ _).mp hentry)
      obtain ⟨w, hw, heq⟩ := List.mem_map.mp ((hrows p.row).mp (List.mem_map_of_mem hp))
      obtain ⟨hid, hrest⟩ := row_eq_iff.mp heq.symm
      exact claimFault_none.mpr ⟨w, hwit.mpr ⟨hw, hid.symm⟩, hrest⟩
    · rintro ⟨id, w⟩ hentry
      obtain ⟨hw, rfl⟩ := hwit.mp ((SortedMap.mem_entries_iff _ _ _).mp hentry)
      obtain ⟨p, hp, heq⟩ := List.mem_map.mp ((hrows w.row).mpr (List.mem_map_of_mem hw))
      exact omissionFault_none.mpr ⟨p, hprop.mpr ⟨hp, (row_eq_iff.mp heq).1⟩⟩

/-- **The challenger is exact.**  It accepts the proposals that list no session twice
and have the rows of the meter, as a set; every other proposal is challenged. -/
theorem evaluate_exact (witnessed : VerifiedMeterCommitment) (proposed : List SessionTotal) :
    (evaluateProxyEpoch proposed witnessed = .ok ↔
      (proposed.map (·.sessionId)).Nodup ∧
        { row | row ∈ proposed.map SessionTotal.row }
          = { row | row ∈ witnessed.sessions.map GatewayMeterSession.row }) ∧
    (¬ ((proposed.map (·.sessionId)).Nodup ∧
        { row | row ∈ proposed.map SessionTotal.row }
          = { row | row ∈ witnessed.sessions.map GatewayMeterSession.row }) →
      ∃ reason sessionIdHex operatorHex proposedBytes witnessedBytes,
        evaluateProxyEpoch proposed witnessed
          = .challenge reason sessionIdHex operatorHex proposedBytes witnessedBytes) := by
  have hiff : evaluateProxyEpoch proposed witnessed = .ok ↔
      (proposed.map (·.sessionId)).Nodup ∧
        { row | row ∈ proposed.map SessionTotal.row }
          = { row | row ∈ witnessed.sessions.map GatewayMeterSession.row } := by
    rw [Set.ext_iff, evaluateProxyEpoch]
    cases hfirst : firstDuplicate [] proposed with
    | some dup =>
        have hrepeated := (firstDuplicate_some hfirst).2
        refine ⟨by rintro ⟨⟩, fun h => ?_⟩
        have hone := List.nodup_iff_count_le_one.mp h.1 dup.sessionId
        rw [List.nil_append] at hrepeated
        omega
    | none =>
        have hnodup := (firstDuplicate_none.mp hfirst).1
        exact (compare_rows_iff witnessed hnodup).trans ⟨fun h => ⟨hnodup, h⟩, fun h => h.2⟩
  refine ⟨hiff, fun hnot => ?_⟩
  rw [← hiff] at hnot
  cases hdecision : evaluateProxyEpoch proposed witnessed with
  | ok => exact absurd hdecision hnot
  | challenge reason sessionIdHex operatorHex proposedBytes witnessedBytes =>
      exact ⟨reason, sessionIdHex, operatorHex, proposedBytes, witnessedBytes, rfl⟩

end ProxyChallenger

end GoatCoin.Attestor
