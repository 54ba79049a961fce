/-
# `GoatCoin.Net.RoundReference` — a round and the harness of `verification.rs`

The round compares what was decoded and the harness what was computed; the round draws C from the
whole pool and the harness takes the first of a pool of its own.  With honest executors and that one
C as the pool, the two come to

    the same status, winner and slashed node, the same receipts

as long as the lengths in a task and in results fit the prefixes of the codec and the vectors can be
compared in words. A result of `2 ^ 32` tokens arrives with none; and where entries are `2 ^ 63`
apart, a debug build panics.
-/
import GoatCoin.Net.RoundRecomputed

namespace GoatCoin.Net

open Wire Assoc Protocol Codec
open Evm (bind_ok bind_ok₂ require_of)

variable {σ δ : Type} {crates : Crates σ δ}

/-! ## Honest executors -/

/-- Made by `ExecutorNode::new`, attesting what it does, and computing whatever the bound of the
task. -/
structure ExecutorNode.Honest (n : ExecutorNode crates) : Prop where
  attestation : n.attestation = .honest
  nodeId : n.ident.nodeId = n.eref.nodeId
  run : ∀ task bound, n.run { task with determinismBound := bound } = n.run task

/-- The receipt of an honest executor. -/
def honestReceipt (n : ExecutorNode crates) (task : Task) (window : Nat) : Protocol.SignedReceipt :=
  n.ident.attestReceipt task.seed (receiptOf n.eref task window false false) (n.run task)

theorem verifyDelivered_honest (hcrates : crates.Correct) {n : ExecutorNode crates}
    (hn : n.Honest) (task : Task)
    (window : Nat) : verifyDelivered (some (honestReceipt n task window)) task.seed n
      = .ok (honestReceipt n task window) := by
  have hverify :
    (honestReceipt n task window).verifyFor crates.verify task.seed n.eref.nodeId n.ident.signPubkey
      = .ok () :=
    bind_ok₂.mpr ⟨(), require_of ⟨rfl, hn.nodeId⟩, (), require_of rfl,
      require_of (hcrates.signs _ _)⟩
  unfold verifyDelivered
  dsimp only
  rw [hverify]

/-- **An honest delivery**: the receipt, and what the codec makes of the result. -/
theorem deliver_honest (hcrates : crates.Correct) {net : Network} (hnet : net.Quiet)
    (orch : NodeIdentity crates)
    {n : ExecutorNode crates} (hn : n.Honest) {task : Task} (htask : TaskFits task)
    {result : TaskResult} (hlength : (encodeResult (n.run task)).length ≤ 2 ^ 36)
    (hresult : decodeResult (encodeResult (n.run task)) = some result) (window : Nat)
    (coins : Bytes 32) :
    ∃ net', net'.Quiet
      ∧ deliver net orch n task window coins
        = some ((result, some (honestReceipt n task window)), net') := by
  have hattest (bound : Option ℚ) : n.attest { task with determinismBound := bound } window
      = some (honestReceipt n task window) := by
    unfold ExecutorNode.attest
    rw [hn.attestation, hn.run]
    rfl
  rw [← hattest]
  rw [← hn.run task] at hlength hresult
  exact deliver_of hcrates hnet orch htask (decodeTask_encodeTask htask) hlength
    hresult window coins

/-! ## The round of two results -/

section
variable {s : Setting crates}

theorem runRound_honest (hcrates : crates.Correct) (htask : TaskFits s.task)
    {ai bi : Fin s.pool.length}
    {log : AssignmentLog}
    (hassign : assign s.orch s.pool s.task s.beaconEpoch s.m = some (ai, bi, log))
    (hA : (s.pool.get ai).Honest) (hB : (s.pool.get bi).Honest) {ra rb : TaskResult}
    (hlengthA : (encodeResult ((s.pool.get ai).run s.task)).length ≤ 2 ^ 36)
    (hlengthB : (encodeResult ((s.pool.get bi).run s.task)).length ≤ 2 ^ 36)
    (hra : decodeResult (encodeResult ((s.pool.get ai).run s.task)) = some ra)
    (hrb : decodeResult (encodeResult ((s.pool.get bi).run s.task)) = some rb) :
    ∃ profAb net, net.Quiet
    ∧ pairProfile (s.pool.get ai).eref (s.pool.get bi).eref s.task.determinismBound = some profAb
      ∧ runRound s ∅ = (decideRound s net (s.pool.get ai) (s.pool.get bi) profAb
          (honestReceipt (s.pool.get ai) s.task s.window)
            (honestReceipt (s.pool.get bi) s.task s.window) ra rb).map
        fun (decision, net) =>
          (conclude s (s.pool.get ai) (s.pool.get bi) log (lInf ra.vector rb.vector) decision,
            net) := by
  obtain ⟨⟨-, -, hprofile⟩, -⟩ := assign_eq_some hassign
  obtain ⟨profAb, hprofile⟩ := Option.isSome_iff_exists.mp hprofile
  obtain ⟨net₁, hquiet, hdeliverA⟩ :=
    deliver_honest hcrates Network.quiet_empty s.orch hA htask hlengthA hra s.window (s.coins 0)
  obtain ⟨net₂, hquiet', hdeliverB⟩ :=
    deliver_honest hcrates hquiet s.orch hB htask hlengthB hrb s.window (s.coins 1)
  refine ⟨profAb, net₂, hquiet', hprofile, ?_⟩
  unfold runRound
  rw [hassign]
  dsimp only
  rw [hprofile]
  dsimp only
  unfold runAssigned
  rw [hdeliverA, Option.bind_eq_bind, Option.bind_some]
  dsimp only
  rw [hdeliverB, Option.bind_some]
  dsimp only
  rw [verifyDelivered_honest hcrates hA, verifyDelivered_honest hcrates hB]

theorem decideRound_of_agree {net : Network} {a b : ExecutorNode crates}
    {profAb : DeterminismProfile}
    {srA srB : Protocol.SignedReceipt} {ra rb : TaskResult}
    (h : Protocol.agree ra rb profAb tokenThreshold = true) :
    decideRound s net a b profAb srA srB ra rb = some (settle a.eref srA srB, net) := if_pos h

/-! ## The harness beside it -/

/-- The submission of an executor. -/
def submissionOf (n : ExecutorNode crates) (task : Task) : Submission := ⟨n.eref, n.run task⟩

variable (s)

/-- The pool that has the drawn executor in it, or nobody. -/
def drawnPool (a b : ExecutorNode crates) : List (ExecutorRef × (Task → TaskResult)) :=
  ((lotterySelect s.beacon s.task.seed s.pool a.eref b.eref s.task.determinismBound).map fun ci =>
    ((s.pool.get ci).eref, (s.pool.get ci).run)).toList

/-- What the harness says of the same submissions. -/
def reference (a b : ExecutorNode crates) : Option VerificationOutcome :=
  (VerificationHarness.new s.tolRef).verify s.task (submissionOf a s.task) (submissionOf b s.task)
    (drawnPool s a b) s.window

/-- The two come to the same. -/
structure Mirrors (out : RoundOutcome) (ref : VerificationOutcome) : Prop where
  status : out.status = ref.status
  winner : out.winner = ref.winner
  slashed : out.slashed = ref.slashed
  profileRemeasure : out.profileRemeasure = ref.profileRemeasure
  receipts : out.receipts.Perm ref.receipts

variable {s}

theorem mirrors_resolve (a b c : ExecutorNode crates) (log : AssignmentLog) (lInfAb : Option Nat)
    (profCa profCb : DeterminismProfile) (ra rb rc : TaskResult) :
    Mirrors (conclude s a b log lInfAb (resolve s.tolRef s.task.seed a.eref b.eref c.eref
        ⟨honestReceipt a s.task s.window, honestReceipt b s.task s.window,
          honestReceipt c s.task s.window, ra, rb, rc⟩
        profCa profCb))
      ((VerificationHarness.new s.tolRef).verdict s.task a.eref b.eref c.eref s.window
        (Protocol.agree rc ra profCa tokenThreshold)
          (Protocol.agree rc rb profCb tokenThreshold)) := by
  unfold resolve
  dsimp only
  cases Protocol.agree rc ra profCa tokenThreshold with
  | false =>
      cases Protocol.agree rc rb profCb tokenThreshold with
      | false => exact ⟨rfl, rfl, rfl, rfl, .refl _⟩
      | true =>
          -- the slashed one stands first in the round and last in the harness
          exact ⟨rfl, rfl, rfl, rfl, (List.perm_append_comm : ([_] ++ [_, _]).Perm ([_, _] ++ [_]))⟩
  | true =>
      cases Protocol.agree rc rb profCb tokenThreshold with
      | false => exact ⟨rfl, rfl, rfl, rfl, .cons _ (.swap _ _ _)⟩
      | true => exact ⟨rfl, rfl, rfl, rfl, .refl _⟩

theorem escalate_mirrors (hcrates : crates.Correct) (hhonest : ∀ n ∈ s.pool, n.Honest)
    (htask : TaskFits s.task)
    (hresults : ∀ n ∈ s.pool, ResultFits (n.run s.task)) {net : Network} (hnet : net.Quiet)
    (a b : ExecutorNode crates)
    (log : AssignmentLog) (lInfAb : Option Nat) {profAb : DeterminismProfile}
    (hprofile : pairProfile a.eref b.eref s.task.determinismBound = some profAb)
    (hdiffer : Protocol.agree (a.run s.task) (b.run s.task) profAb tokenThreshold = false) :
    ∃ d net' ref, escalate s net a b (honestReceipt a s.task s.window)
      (honestReceipt b s.task s.window) (a.run s.task)
        (b.run s.task) = some (d, net')
      ∧ reference s a b = some ref ∧ Mirrors (conclude s a b log lInfAb d) ref := by
  have hreference :
    reference s a b = (VerificationHarness.new s.tolRef).consult s.task (submissionOf a s.task)
      (submissionOf b s.task) (drawnPool s a b) s.window :=
    VerificationHarness.verify_of_differ hprofile hdiffer
  rw [hreference]
  unfold escalate VerificationHarness.consult drawnPool
  dsimp only [submissionOf]
  cases hdraw : lotterySelect s.beacon s.task.seed s.pool a.eref b.eref s.task.determinismBound with
  | none => exact ⟨_, _, _, rfl, rfl, rfl, rfl, rfl, rfl, .refl _⟩
  | some ci =>
      have hmem := s.pool.get_mem ci
      obtain ⟨net', -, hdeliver⟩ := deliver_honest hcrates hnet s.orch (hhonest _ hmem) htask
        (length_encodeResult (hresults _ hmem)) (decodeResult_encodeResult (hresults _ hmem))
          s.window (s.coins 2)
      have heligible := eligible_of_lotterySelect hdraw
      obtain ⟨profCa, hca⟩ := Option.isSome_iff_exists.mp heligible.1.2.2
      obtain ⟨profCb, hcb⟩ := Option.isSome_iff_exists.mp heligible.2.2.2
      have hpick : pickDisjointExecutor [((s.pool.get ci).eref, (s.pool.get ci).run)] a.eref b.eref
          s.task.determinismBound = some ((s.pool.get ci).eref, (s.pool.get ci).run) :=
        List.find?_cons_of_pos (decide_eq_true heligible)
      rw [Option.map_some, Option.toList_some, hpick]
      dsimp only
      rw [hdeliver, Option.bind_eq_bind, Option.bind_some]
      dsimp only
      rw [verifyDelivered_honest hcrates (hhonest _ hmem), hca, hcb]
      exact ⟨_, _, _, rfl, rfl, mirrors_resolve a b (s.pool.get ci) log lInfAb profCa profCb _ _ _⟩

end

/-- A and B, and C if one is drawn: those whose results are compared. -/
def comparedNodes (s : Setting crates) (a b : ExecutorNode crates) : List (ExecutorNode crates) :=
  a :: b :: ((lotterySelect s.beacon s.task.seed s.pool a.eref b.eref s.task.determinismBound).map
    s.pool.get).toList

theorem mem_comparedNodes {s : Setting crates} {a b n : ExecutorNode crates} (ha : a ∈ s.pool)
    (hb : b ∈ s.pool) (h : n ∈ comparedNodes s a b) : n ∈ s.pool := by
  rcases List.mem_cons.mp h with rfl | h
  · exact ha
  rcases List.mem_cons.mp h with rfl | h
  · exact hb
  · obtain ⟨ci, -, rfl⟩ := Option.map_eq_some_iff.mp (Option.mem_toList.mp h)
    exact s.pool.get_mem ci

/-- **A round mirrors the harness**, and no build panics at the vectors that are compared. -/
theorem round_mirrors_harness (s : Setting crates) (hcrates : crates.Correct)
    (hhonest : ∀ n ∈ s.pool, n.Honest)
    (htask : TaskFits s.task) (hresults : ∀ n ∈ s.pool, ResultFits (n.run s.task))
    (ai bi : Fin s.pool.length)
    (log : AssignmentLog)
    (hassign : assign s.orch s.pool s.task s.beaconEpoch s.m = some (ai, bi, log))
    (hwords : NoOverflowAmong (comparedNodes s (s.pool.get ai) (s.pool.get bi)) s.task) :
    (∃ out net ref, runRound s ∅ = some (out, net)
      ∧ reference s (s.pool.get ai) (s.pool.get bi) = some ref
      ∧ Mirrors out ref)
      ∧ NoPanicAmong (comparedNodes s (s.pool.get ai) (s.pool.get bi)) s.task := by
  have hmemA := s.pool.get_mem ai
  have hmemB := s.pool.get_mem bi
  obtain ⟨profAb, net, hquiet, hprofile, hround⟩ :=
    runRound_honest hcrates htask hassign (hhonest _ hmemA)
    (hhonest _ hmemB) (length_encodeResult (hresults _ hmemA))
      (length_encodeResult (hresults _ hmemB))
    (decodeResult_encodeResult (hresults _ hmemA)) (decodeResult_encodeResult (hresults _ hmemB))
  refine ⟨?_, hwords.noPanic fun n hn => hresults n (mem_comparedNodes hmemA hmemB hn)⟩
  rw [hround]
  cases hagree :
    Protocol.agree ((s.pool.get ai).run s.task) ((s.pool.get bi).run s.task) profAb
    tokenThreshold with
  | true =>
      have hreference : reference s (s.pool.get ai) (s.pool.get bi) = some _ :=
        VerificationHarness.verify_of_agree hprofile hagree
      exact ⟨_, _, _, congrArg _ (decideRound_of_agree hagree), hreference, rfl, rfl,
        rfl, rfl, .refl _⟩
  | false =>
      obtain ⟨d, net', ref, hescalate, href, hmirrors⟩ :=
        escalate_mirrors hcrates hhonest htask hresults hquiet (s.pool.get ai) (s.pool.get bi) log
        (lInf ((s.pool.get ai).run s.task).vector ((s.pool.get bi).run s.task).vector)
          hprofile hagree
      refine ⟨_, net', ref, ?_, href, hmirrors⟩
      unfold decideRound
      rw [hagree, if_neg Bool.false_ne_true, hescalate]
      rfl

/-! ## Two rounds -/

theorem sampleNode_honest (name : String) (key : UInt8) (v : Int) :
    (sampleNode name key v).Honest :=
  ⟨rfl, rfl, fun _ _ => rfl⟩

theorem sample_assign :
    ∃ log, assign sampleSetting.orch sampleSetting.pool sampleSetting.task sampleSetting.beaconEpoch
    sampleSetting.m = some (⟨0, by decide⟩, ⟨1, by decide⟩, log) := by
  have hspread : ¬ (distinct (sampleSetting.pool.map (·.eref.clusterId)) < sampleSetting.m
      ∨ distinct (sampleSetting.pool.map (·.eref.asn)) < sampleSetting.m) := by decide
  have hpair : assignPair sampleSetting.pool sampleSetting.task.determinismBound
      = some (⟨0, by decide⟩, ⟨1, by decide⟩) := by decide +kernel
  unfold assign
  rw [if_neg hspread, hpair]
  exact ⟨_, rfl⟩

/-- Three executors, of which B is slashed in the round and in the harness. -/
theorem round_mirrors_sample : (∃ out net ref, runRound sampleSetting ∅ = some (out, net)
      ∧ reference sampleSetting (sampleNode "A" 1 0) (sampleNode "B" 2 5) = some ref
      ∧ Mirrors out ref)
    ∧ NoPanicAmong (comparedNodes sampleSetting (sampleNode "A" 1 0) (sampleNode "B" 2 5))
      sampleSetting.task := by
  obtain ⟨log, hassign⟩ := sample_assign
  have hmember {n : ExecutorNode roundCrates}
      (hn : n ∈ comparedNodes sampleSetting (sampleNode "A" 1 0) (sampleNode "B" 2 5)) :
      n ∈ sampleSetting.pool :=
    mem_comparedNodes (List.mem_cons_self ..) (List.mem_cons_of_mem _ (List.mem_cons_self ..)) hn
  refine round_mirrors_harness sampleSetting roundCrates_correct ?_ sampleTask_fits
    (fun n hn => sampleSetting_fits n hn _) _ _ log hassign
    (fun n hn n' hn' => sampleSetting_noOverflow _ n (hmember hn) n' (hmember hn'))
  intro n hn
  simp only [sampleSetting, List.mem_cons, List.not_mem_nil, or_false] at hn
  rcases hn with rfl | rfl | rfl
  · exact sampleNode_honest _ _ _
  · exact sampleNode_honest _ _ _
  · exact sampleNode_honest _ _ _

/-- So many tokens, all zero. -/
def zeroTokens (n : Nat) : TaskResult := ⟨10, List.replicate n 0, [], "engine"⟩

theorem decodeResult_zeroTokens {n : Nat} (hlength : toBE 4 (n + 1) = toBE 4 0) :
    decodeResult (encodeResult (zeroTokens (n + 1))) = some (zeroTokens 0) := by
  have hprogram : resultProgram (encodeResult (zeroTokens (n + 1))) = some (zeroTokens 0,
      (List.replicate n 0).flatMap (toBE 4)
        ++ (toBE 4 ([] : List Int).length ++ ([] : List Int).flatMap putI64)) := by
    unfold resultProgram encodeResult zeroTokens
    dsimp only
    rw [List.length_replicate, hlength, List.replicate_succ, List.flatMap_cons, List.append_assoc,
      List.append_assoc,
      List.append_assoc, List.append_assoc, List.append_assoc,
      Split.bind_of (word_append (by decide) _),
      Split.bind_of (text_append length_textBytes_engine _),
      Split.bind_of (word_append (by decide) _), times,
      Split.bind_of (rfl : (pure [] : Split (List Nat)) _ = some ([], _)),
      Split.bind_of (word_append (by decide) _)]
    rfl
  unfold decodeResult
  rw [hprogram]
  rfl

/-- An executor whose result has so many tokens. -/
def zeroNode (name : String) (key : UInt8) (n : Nat) : ExecutorNode roundCrates :=
  ⟨sampleExecutor name, "region", (sampleNode name key 0).ident, fun _ => zeroTokens n, .honest⟩

theorem zeroNode_honest (name : String) (key : UInt8) (n : Nat) : (zeroNode name key n).Honest :=
  ⟨rfl, rfl, fun _ _ => rfl⟩

/-- A computes `2 ^ 32` tokens and B none, and there is no third. -/
def zeroSetting : Setting roundCrates where
  orch := sampleSetting.orch
  pool := [zeroNode "A" 1 (4294967295 + 1), zeroNode "B" 2 0]
  task := sampleTask
  beacon := [7]
  beaconEpoch := 1
  tolRef := 8
  m := 2
  window := 3
  coins _ := .replicate _ 0

theorem zero_assign :
    ∃ log, assign zeroSetting.orch zeroSetting.pool zeroSetting.task zeroSetting.beaconEpoch
    zeroSetting.m = some (⟨0, by decide⟩, ⟨1, by decide⟩, log) := by
  have hspread : ¬ (distinct (zeroSetting.pool.map (·.eref.clusterId)) < zeroSetting.m
      ∨ distinct (zeroSetting.pool.map (·.eref.asn)) < zeroSetting.m) := by decide
  have hpair : assignPair zeroSetting.pool zeroSetting.task.determinismBound
      = some (⟨0, by decide⟩, ⟨1, by decide⟩) := by decide +kernel
  unfold assign
  rw [if_neg hspread, hpair]
  exact ⟨_, rfl⟩

theorem agree_zeroTokens_succ (n : Nat) :
    Protocol.agree (zeroTokens (n + 1)) (zeroTokens 0) ⟨.tolerance, some 2⟩ tokenThreshold
    = false := by
  have htokens : tokenAgreement (List.replicate (n + 1) 0) [] = 0 := by
    unfold tokenAgreement
    rw [if_neg (fun h => List.cons_ne_nil _ _ h.1), if_pos (.inr rfl)]
  have hlow : ¬ tokenThreshold ≤ 0 := by decide +kernel
  unfold Protocol.agree
  rw [if_neg (by decide)]
  show (decide (tokenThreshold ≤ tokenAgreement (List.replicate (n + 1) 0) []) && _) = false
  rw [htokens, decide_eq_false hlow, Bool.false_and]

theorem zeroTokens_zero_fits : ResultFits (zeroTokens 0) where
  taskClassId := by decide
  engineBuildId := length_textBytes_engine
  tokens_length := by decide
  tokens t ht := nomatch ht
  vector_length := by decide
  vector v hv := nomatch hv

theorem verify_zeroTokens (n : Nat) : ∃ ref, (VerificationHarness.new 8).verify sampleTask
    ⟨sampleExecutor "A", zeroTokens (n + 1)⟩ ⟨sampleExecutor "B", zeroTokens 0⟩ [] 3 = some ref
      ∧ ref.status = .quarantined := by
  have hprofile : pairProfile (sampleExecutor "A") (sampleExecutor "B") sampleTask.determinismBound
      = some ⟨.tolerance, some 2⟩ := by decide +kernel
  have hverify :
    (VerificationHarness.new 8).verify sampleTask ⟨sampleExecutor "A", zeroTokens (n + 1)⟩
      ⟨sampleExecutor "B", zeroTokens 0⟩ [] 3 = _ :=
    VerificationHarness.verify_of_differ hprofile (agree_zeroTokens_succ n)
  rw [hverify]
  exact ⟨_, rfl, rfl⟩

/-- The tokens are lost on the way: the round is settled, and the harness finds that the two
differ. -/
theorem tokens_lost_on_the_way : DistinctIds zeroSetting.pool ∧ (∀ n ∈ zeroSetting.pool, n.Honest)
    ∧ (∃ log,
      assign zeroSetting.orch zeroSetting.pool zeroSetting.task
      zeroSetting.beaconEpoch zeroSetting.m = some (⟨0, by decide⟩, ⟨1, by decide⟩, log))
    ∧ ∃ out net ref, runRound zeroSetting ∅ = some (out, net)
      ∧ reference zeroSetting (zeroSetting.pool.get ⟨0, by decide⟩)
        (zeroSetting.pool.get ⟨1, by decide⟩) = some ref
      ∧ out.status = .settled ∧ ref.status = .quarantined := by
  have hhonest : ∀ n ∈ zeroSetting.pool, n.Honest := by
    intro n hn
    rcases List.mem_pair.mp hn with rfl | rfl
    · exact zeroNode_honest _ _ _
    · exact zeroNode_honest _ _ _
  have hprofile : pairProfile (sampleExecutor "A") (sampleExecutor "B") sampleTask.determinismBound
      = some ⟨.tolerance, some 2⟩ := by decide +kernel
  have hagree : Protocol.agree (zeroTokens 0) (zeroTokens 0) ⟨.tolerance, some 2⟩ tokenThreshold
    = true := by decide +kernel
  have hdraw :
    lotterySelect zeroSetting.beacon zeroSetting.task.seed zeroSetting.pool (sampleExecutor "A")
      (sampleExecutor "B") zeroSetting.task.determinismBound = none := by
    cases hci :
      lotterySelect zeroSetting.beacon zeroSetting.task.seed zeroSetting.pool (sampleExecutor "A")
      (sampleExecutor "B") zeroSetting.task.determinismBound with
    | none => rfl
    | some ci =>
        obtain ⟨⟨hclusterA, -⟩, hclusterB, -⟩ := eligible_of_lotterySelect hci
        rcases List.mem_pair.mp (zeroSetting.pool.get_mem ci) with hnode | hnode
        · rw [hnode] at hclusterA
          exact absurd rfl hclusterA
        · rw [hnode] at hclusterB
          exact absurd rfl hclusterB
  have hlength (n : Nat) (hn : n ≤ 4294967296) : (encodeResult (zeroTokens n)).length ≤ 2 ^ 36 := by
    have hid := length_textBytes_engine
    rw [length_encodeResult_eq]
    show 16 + (textBytes "engine").length + (List.replicate n 0).length * 4 + 0 ≤ 2 ^ 36
    rw [List.length_replicate]
    omega
  obtain ⟨log, hassign⟩ := zero_assign
  obtain ⟨profAb, net, -, hprofile', hround⟩ :=
    runRound_honest roundCrates_correct sampleTask_fits hassign
    (zeroNode_honest _ _ _) (zeroNode_honest _ _ _) (hlength _ le_rfl) (hlength 0 (Nat.zero_le _))
    (decodeResult_zeroTokens (by decide)) (decodeResult_encodeResult zeroTokens_zero_fits)
  obtain rfl : profAb = ⟨.tolerance, some 2⟩ := Option.some.inj (hprofile'.symm.trans hprofile)
  have hdrawn :
    drawnPool zeroSetting (zeroSetting.pool.get ⟨0, by decide⟩)
    (zeroSetting.pool.get ⟨1, by decide⟩) = [] :=
    congrArg (fun ci => (Option.map _ ci).toList) hdraw
  obtain ⟨ref, href, hstatus⟩ := verify_zeroTokens 4294967295
  have hreference :
    reference zeroSetting (zeroSetting.pool.get ⟨0, by decide⟩)
    (zeroSetting.pool.get ⟨1, by decide⟩)
      = some ref := by
    unfold reference
    rw [hdrawn]
    exact href
  exact ⟨by unfold DistinctIds; decide, hhonest, ⟨log, hassign⟩, _, net, ref,
    hround.trans (congrArg _ (decideRound_of_agree hagree)), hreference, rfl, hstatus⟩

end GoatCoin.Net
