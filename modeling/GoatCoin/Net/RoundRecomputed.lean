/-
# `GoatCoin.Net.RoundRecomputed` — what a round hands out is accepted by who recomputes it

Every receipt that a round hands out came through `verifyDelivered`, and carries the commitment to
the result that the orchestrator compared:

    registry     the key that `verifyDelivered` compared is the one the pool registers
    log          A and B are in it, under the orchestrator's signature
    beacon       C is drawn again, from the A and B of the log
    record       the comparisons are those of `resolve`, of the same results under the same profiles

Ids are distinct, so that a key and a place in the pool can be found by them.
-/
import GoatCoin.Net.DistributedRound

namespace GoatCoin.Net

open Wire Assoc Protocol Codec
open Evm (require bind_ok bind_ok₄ bind_ok₂ require_ok require_of forM_ok)

variable {σ δ : Type} {crates : Crates σ δ}

/-! ## Receipts -/

/-- A receipt that was let through, of an executor with this result. -/
structure LetThrough (exec : ExecutorNode crates) (taskId : Nat) (result : TaskResult)
    (sr : Protocol.SignedReceipt) : Prop where
  taskId_eq : sr.taskId = taskId
  nodeId_eq : sr.nodeId = exec.eref.nodeId
  signerPk_eq : sr.signerPk = exec.ident.signPubkey
  verified : sr.verify crates.verify = true
  committed : commit result = sr.resultCommit

variable {task : Task} {taskId : Nat} {sr : Protocol.SignedReceipt}

theorem resultCommit_of_attest {exec : ExecutorNode crates} {window : Nat}
    (h : exec.attest task window = some sr) : sr.resultCommit = commit (exec.run task) := by
  unfold ExecutorNode.attest at h
  cases hmode : exec.attestation with
  | honest =>
      rw [hmode] at h
      cases h
      rfl
  | invalid =>
      rw [hmode] at h
      cases h
      rfl
  | missing =>
      rw [hmode] at h
      cases h

theorem verifyDelivered_ok {signed : Option Protocol.SignedReceipt} {exec : ExecutorNode crates}
    (h : verifyDelivered signed taskId exec = .ok sr) :
    signed = some sr ∧ sr.taskId = taskId ∧ sr.nodeId = exec.eref.nodeId
    ∧ sr.signerPk = exec.ident.signPubkey
      ∧ sr.verify crates.verify = true := by
  unfold verifyDelivered at h
  cases signed with
  | none => cases h
  | some sr' =>
      dsimp only at h
      split at h
      · cases h
      · rename_i hverify
        cases h
        obtain ⟨_, hcontext, _, hsigner, hverify⟩ := bind_ok₂.mp hverify
        obtain ⟨htask, hnode⟩ := require_ok.mp hcontext
        exact ⟨rfl, htask, hnode, require_ok.mp hsigner, require_ok.mp hverify⟩

/-- The result codec brings back what an executor computes. -/
def RoundTrips (exec : ExecutorNode crates) : Prop :=
  ∀ task, decodeResult (encodeResult (exec.run task)) = some (exec.run task)

/-- **What a delivery leaves**: a receipt for the result that came with it, and a quiet bus. -/
theorem deliver_sound (hcrates : crates.Correct) {net net' : Network} (hnet : net.Quiet)
    {orch : NodeIdentity crates}
    {exec : ExecutorNode crates} (hcodec : RoundTrips exec) {window : Nat} {coins : Bytes 32}
    {result : TaskResult} {signed : Option Protocol.SignedReceipt}
    (h : deliver net orch exec task window coins = some ((result, signed), net')) :
    net'.Quiet ∧ ∀ {taskId sr}, verifyDelivered signed taskId exec = .ok sr →
    LetThrough exec taskId result sr := by
  rw [deliver_eq hcrates hnet] at h
  obtain ⟨sealedTask, -, h⟩ := Option.bind_eq_some_iff.mp h
  obtain ⟨decoded, -, h⟩ := Option.bind_eq_some_iff.mp h
  obtain ⟨sealedResult, -, h⟩ := Option.bind_eq_some_iff.mp h
  obtain ⟨result', hresult, h⟩ := Option.bind_eq_some_iff.mp h
  rw [hcodec] at hresult
  cases hresult
  cases h
  refine ⟨quiet_afterDelivery hnet orch exec _ _, fun hverify => ?_⟩
  obtain ⟨hsigned, htask, hnode, hsigner, hverified⟩ := verifyDelivered_ok hverify
  exact ⟨htask, hnode, hsigner, hverified, (resultCommit_of_attest hsigned).symm⟩

/-! ## Keys and assignments -/

def DistinctIds (pool : Pool crates) : Prop := (pool.map (·.eref.nodeId)).Nodup

theorem lookup_foldl_register (pool : Pool crates) {id : String}
    (h : id ∉ pool.map (·.eref.nodeId)) :
    ∀ reg : Protocol.KeyRegistry,
      (pool.foldl (fun reg n => reg.insert n.eref.nodeId n.ident.signPubkey) reg).lookup id
      = reg.lookup id := by
  induction pool with
  | nil => exact fun reg => rfl
  | cons n pool ih =>
      intro reg
      rw [List.map_cons, List.mem_cons, not_or] at h
      rw [List.foldl_cons, ih h.2, AList.lookup_insert_ne h.1]

theorem lookup_registryFromPool {pool : Pool crates} (hids : DistinctIds pool)
    {n : ExecutorNode crates}
    (hn : n ∈ pool) : (registryFromPool pool).lookup n.eref.nodeId = some n.ident.signPubkey := by
  obtain ⟨before, after, rfl⟩ := List.append_of_mem hn
  unfold DistinctIds at hids
  rw [List.map_append, List.map_cons, List.nodup_append] at hids
  unfold registryFromPool
  rw [List.foldl_append, List.foldl_cons,
    lookup_foldl_register after (List.nodup_cons.mp hids.2.1).1, AList.lookup_insert]

theorem find?_nodeId {pool : Pool crates} (hids : DistinctIds pool) {n : ExecutorNode crates}
    (hn : n ∈ pool) : pool.find? (fun n' => n'.eref.nodeId = n.eref.nodeId) = some n := by
  obtain ⟨before, after, rfl⟩ := List.append_of_mem hn
  unfold DistinctIds at hids
  rw [List.map_append, List.map_cons, List.nodup_append] at hids
  have hbefore : before.find? (fun n' => n'.eref.nodeId = n.eref.nodeId) = none := by
    rw [List.find?_eq_none]
    intro n' hn' heq
    exact hids.2.2 _ (List.mem_map_of_mem hn') _ List.mem_cons_self (of_decide_eq_true heq)
  rw [List.find?_append, hbefore, Option.none_or]
  exact List.find?_cons_of_pos (decide_eq_true rfl)

theorem LetThrough.checkSigned {pool : Pool crates} (hids : DistinctIds pool)
    {n : ExecutorNode crates} (hn : n ∈ pool)
    {result : TaskResult} (h : LetThrough n taskId result sr)
    (flags : Bool × Bool) :
    Protocol.checkSigned crates.verify (registryFromPool pool) (sr.withOutcome flags) = .ok () := by
  have hkey : (registryFromPool pool).lookup (sr.withOutcome flags).nodeId = some sr.signerPk := by
    show (registryFromPool pool).lookup sr.nodeId = _
    rw [h.nodeId_eq, lookup_registryFromPool hids hn, h.signerPk_eq]
  unfold Protocol.checkSigned
  rw [hkey]
  -- the flags are not signed
  exact bind_ok₂.mpr ⟨(), require_of ⟨rfl, rfl⟩, (), require_of rfl, require_of h.verified⟩

theorem isAuthorized_authorize (auth : Protocol.AuthorizationSet) (t t' : Nat) (n n' : String) :
    (authorize auth t n).isAuthorized t' n' = true
    ↔ (t' = t ∧ n' = n) ∨ auth.isAuthorized t' n' = true := by
  unfold authorize Protocol.AuthorizationSet.isAuthorized
  by_cases ht : t' = t
  · subst ht
    rw [AList.lookup_insert, decide_eq_true_iff, List.mem_cons]
    cases auth.lookup t' with
    | none => simp
    | some nodes => simp
  · rw [AList.lookup_insert_ne ht]
    exact ⟨.inr, fun h => h.elim (fun h => absurd h.1 ht) id⟩

theorem eligible_of_lotterySelect {beacon : List UInt8} {pool : Pool crates} {a b : ExecutorRef}
    {taskBound : Option ℚ} {ci : Fin pool.length}
    (h : lotterySelect beacon taskId pool a b taskBound = some ci) :
    Eligible (pool.get ci).eref a b taskBound := by
  have hrun : ∀ (l : List (Fin pool.length)) (best : Option (List UInt8 × Fin pool.length)),
      (∀ p ∈ best, Eligible (pool.get p.2).eref a b taskBound) →
        ∀ p ∈ l.foldl (lotteryStep beacon taskId pool a b taskBound) best,
        Eligible (pool.get p.2).eref a b taskBound := by
    intro l
    induction l with
    | nil => exact fun best hbest => hbest
    | cons i l ih =>
        intro best hbest
        refine ih _ fun p hp => ?_
        unfold lotteryStep at hp
        dsimp only at hp
        split at hp
        · rename_i heligible
          cases best with
          | none =>
              cases hp
              exact heligible
          | some q =>
              dsimp only at hp
              split at hp
              · cases hp
                exact heligible
              · exact hbest p hp
        · exact hbest p hp
  obtain ⟨p, hp, rfl⟩ := Option.map_eq_some_iff.mp h
  exact hrun _ none (fun q hq => nomatch hq) p hp

theorem assign_eq_some {orch : NodeIdentity crates} {pool : Pool crates} {beaconEpoch m : Nat}
    {ai bi : Fin pool.length} {log : AssignmentLog}
    (h : assign orch pool task beaconEpoch m = some (ai, bi, log)) :
    Assignable (pool.get ai).eref (pool.get bi).eref task.determinismBound
      ∧ log.taskId = task.seed
      ∧ log.nodeIds = [(pool.get ai).eref.nodeId, (pool.get bi).eref.nodeId]
      ∧ log.signerPk = orch.signPubkey
      ∧ log.signature = crates.sign orch.signer
        (logMessage log.taskId log.nodeIds log.beaconEpoch) := by
  unfold assign at h
  split_ifs at h
  obtain ⟨⟨a, b⟩, hpair, heq⟩ := Option.map_eq_some_iff.mp h
  cases heq
  refine ⟨?_, rfl, rfl, rfl, rfl⟩
  unfold assignPair at hpair
  obtain ⟨a', -, hpair⟩ := List.exists_of_findSome?_eq_some hpair
  obtain ⟨b', -, hpair⟩ := List.exists_of_findSome?_eq_some hpair
  split_ifs at hpair with hassignable
  cases hpair
  exact hassignable.2

/-- **The set that is derived again** has A and B in it, and C if one was selected. -/
theorem roundAuthorization_of_assign (hcrates : crates.Correct) {s : Setting crates}
    (hids : DistinctIds s.pool) {ai bi : Fin s.pool.length} {log : AssignmentLog}
    (h : assign s.orch s.pool s.task s.beaconEpoch s.m = some (ai, bi, log)) {out : RoundOutcome}
    (hlog : out.log = some log) :
    ∃ auth, roundAuthorization out s.beacon s.pool s.task.determinismBound = some auth
      ∧ auth.isAuthorized s.task.seed (s.pool.get ai).eref.nodeId = true
      ∧ auth.isAuthorized s.task.seed (s.pool.get bi).eref.nodeId = true
      ∧ (out.selectedC.isSome = true →
        ∀ ci, lotterySelect s.beacon s.task.seed s.pool (s.pool.get ai).eref
          (s.pool.get bi).eref s.task.determinismBound = some ci →
        auth.isAuthorized s.task.seed (s.pool.get ci).eref.nodeId = true) := by
  obtain ⟨-, htask, hids', hpk, hsig⟩ := assign_eq_some h
  have hverify : verifyAssignmentLog crates log = true := by
    unfold verifyAssignmentLog
    rw [hpk, hsig]
    exact hcrates.signs _ _
  have hredrawn :
    redrawn s.pool log s.beacon s.task.determinismBound = lotterySelect s.beacon s.task.seed s.pool
      (s.pool.get ai).eref (s.pool.get bi).eref s.task.determinismBound := by
    unfold redrawn
    rw [hids']
    dsimp only
    rw [find?_nodeId hids (s.pool.get_mem ai), find?_nodeId hids (s.pool.get_mem bi), htask]
    rfl
  have hboth (nodeId : String) : nodeId = (s.pool.get ai).eref.nodeId
    ∨ nodeId = (s.pool.get bi).eref.nodeId →
      (log.nodeIds.foldl (fun auth nodeId => authorize auth log.taskId nodeId) ∅).isAuthorized
        s.task.seed nodeId = true := by
    intro hnode
    rw [hids', List.foldl_cons, List.foldl_cons, List.foldl_nil, htask, isAuthorized_authorize,
      isAuthorized_authorize]
    rcases hnode with rfl | rfl
    · exact .inr (.inl ⟨rfl, rfl⟩)
    · exact .inl ⟨rfl, rfl⟩
  unfold roundAuthorization
  rw [hlog, Option.bind_eq_bind, Option.bind_some, hverify]
  simp only [Bool.not_true, Bool.false_eq_true, if_false, hredrawn]
  cases hselected : out.selectedC.isSome with
  | false => exact ⟨_, rfl, hboth _ (.inl rfl), hboth _ (.inr rfl), fun h => Bool.noConfusion h⟩
  | true =>
      rw [if_pos rfl]
      cases hdraw :
        lotterySelect s.beacon s.task.seed s.pool (s.pool.get ai).eref (s.pool.get bi).eref
          s.task.determinismBound with
      | none => exact ⟨_, rfl, hboth _ (.inl rfl), hboth _ (.inr rfl), fun _ ci hci => nomatch hci⟩
      | some ci =>
          refine ⟨_, rfl, ?_, ?_, fun _ ci' hci' => ?_⟩
          · exact (isAuthorized_authorize _ _ _ _ _).mpr (.inr (hboth _ (.inl rfl)))
          · exact (isAuthorized_authorize _ _ _ _ _).mpr (.inr (hboth _ (.inr rfl)))
          · cases hci'
            exact (isAuthorized_authorize _ _ _ _ _).mpr (.inl ⟨htask.symm, rfl⟩)

/-! ## The round -/

/-- The receipts that are handed out are accepted, and what the record attributes is what the round
reports. -/
structure Survives (s : Setting crates) (out : RoundOutcome) : Prop where
  accepted : out.signedReceipts ≠ [] → ∃ auth,
    roundAuthorization out s.beacon s.pool s.task.determinismBound = some auth
      ∧ ∀ mergeGroups, ∃ acc, Protocol.foldVerifiedAttributed crates.verify out.signedReceipts
        (registryFromPool s.pool) auth out.escalation.toList mergeGroups = .ok acc
  attributed : ∀ record ∈ out.escalation, ∃ auth x,
    roundAuthorization out s.beacon s.pool s.task.determinismBound = some auth
      ∧ record.verifyAttribution crates.verify (registryFromPool s.pool) auth = .ok x
      ∧ ∀ n, x = .faulted n ↔ out.slashed = some n
  unrecorded : out.escalation = none → out.slashed = none

theorem survives_of_nil {s : Setting crates} {out : RoundOutcome}
    (hreceipts : out.signedReceipts = [])
    (hescalation : out.escalation = none) (hslashed : out.slashed = none) : Survives s out where
  accepted h := absurd hreceipts h
  attributed record hrecord := by
    rw [hescalation] at hrecord
    cases hrecord
  unrecorded _ := hslashed

section
variable {s : Setting crates} {auth : Protocol.AuthorizationSet}

theorem fold_of_clean {signed : List Protocol.SignedReceipt}
    (hsigned : ∀ sr ∈ signed,
      Protocol.checkSigned crates.verify (registryFromPool s.pool) sr = .ok ())
    (hauth : ∀ sr ∈ signed, auth.isAuthorized sr.taskId sr.nodeId = true)
    (hclean : ∀ sr ∈ signed, sr.receipt.anomalous = false) (mergeGroups : List (List String)) :
    ∃ acc, Protocol.foldVerifiedAttributed crates.verify signed (registryFromPool s.pool) auth
      [] mergeGroups = .ok acc :=
  ⟨_, bind_ok₄.mpr
    ⟨(), forM_ok.mpr hsigned, (), forM_ok.mpr fun sr hsr => require_of (hauth sr hsr), [], rfl,
    (), forM_ok.mpr fun sr hsr => require_of (.inl (hclean sr hsr)), rfl⟩⟩

theorem fold_of_record {signed : List Protocol.SignedReceipt} {record : Protocol.EscalationRecord}
    {x : Attribution}
    (hsigned : ∀ sr ∈ signed,
      Protocol.checkSigned crates.verify (registryFromPool s.pool) sr = .ok ())
    (hauth : ∀ sr ∈ signed, auth.isAuthorized sr.taskId sr.nodeId = true)
    (hrecord : record.verifyAttribution crates.verify (registryFromPool s.pool) auth = .ok x)
    (hflags : ∀ sr ∈ signed, sr.receipt.anomalous = true → x = .faulted sr.nodeId
      ∧ sr.taskId = record.taskId)
    (mergeGroups : List (List String)) :
    ∃ acc, Protocol.foldVerifiedAttributed crates.verify signed (registryFromPool s.pool) auth
      [record] mergeGroups = .ok acc := by
  have hproven : provenFaults crates.verify (registryFromPool s.pool) auth [record]
      = .ok (match x with | .noFault => [] | .faulted node => [(record.taskId, node)]) := by
    refine bind_ok₂.mpr ⟨x, hrecord, [], rfl, ?_⟩
    cases x with
    | noFault => rfl
    | faulted node => rfl
  refine ⟨_,
    bind_ok₄.mpr
    ⟨(), forM_ok.mpr hsigned, (), forM_ok.mpr fun sr hsr => require_of (hauth sr hsr), _,
    hproven, (), forM_ok.mpr fun sr hsr => require_of ?_, rfl⟩⟩
  cases hanomalous : sr.receipt.anomalous with
  | false => exact .inl rfl
  | true =>
      obtain ⟨rfl, htask⟩ := hflags sr hsr hanomalous
      right
      rw [htask]
      exact List.mem_singleton_self _

theorem survives_settle (hcrates : crates.Correct) (hids : DistinctIds s.pool)
    {ai bi : Fin s.pool.length}
    {log : AssignmentLog}
    (hassign : assign s.orch s.pool s.task s.beaconEpoch s.m = some (ai, bi, log))
    {ra rb : TaskResult} {srA srB : Protocol.SignedReceipt}
    (ha : LetThrough (s.pool.get ai) s.task.seed ra srA)
    (hb : LetThrough (s.pool.get bi) s.task.seed rb srB) (lInfAb : Option Nat) :
    Survives s
      (conclude s (s.pool.get ai) (s.pool.get bi) log lInfAb
      (settle (s.pool.get ai).eref srA srB)) where
  accepted _ := by
    obtain ⟨auth, hauth, hauthA, hauthB, -⟩ := roundAuthorization_of_assign hcrates hids hassign
      (rfl : (conclude s (s.pool.get ai) (s.pool.get bi) log lInfAb
        (settle (s.pool.get ai).eref srA srB)).log = some log)
    refine ⟨auth, hauth, fold_of_clean ?_ ?_ ?_⟩
    · intro sr hsr
      rcases List.mem_pair.mp hsr with rfl | rfl
      · exact ha.checkSigned hids (s.pool.get_mem ai) _
      · exact hb.checkSigned hids (s.pool.get_mem bi) _
    · intro sr hsr
      rcases List.mem_pair.mp hsr with rfl | rfl
      · show auth.isAuthorized srA.taskId srA.nodeId = true
        rw [ha.taskId_eq, ha.nodeId_eq]
        exact hauthA
      · show auth.isAuthorized srB.taskId srB.nodeId = true
        rw [hb.taskId_eq, hb.nodeId_eq]
        exact hauthB
    · intro sr hsr
      rcases List.mem_pair.mp hsr with rfl | rfl
      · rfl
      · rfl
  attributed record hrecord := nomatch hrecord
  unrecorded _ := rfl

theorem faulted_of_flags {e : Evidence} {ch : Choice} {ca cb : Bool}
    (hflags : (ch.flagsA, ch.flagsB, ch.flagsC) = ((e.assemble ch).expected ca cb).1)
    {sr : Protocol.SignedReceipt}
    (hsr : sr ∈ [(e.assemble ch).a, (e.assemble ch).b, (e.assemble ch).c])
    (hanomalous : sr.receipt.anomalous = true) : e.attribution ca cb = .faulted sr.nodeId := by
  obtain ⟨taskId, flagsA, flagsB, flagsC, profCa, profCb, θ⟩ := ch
  simp only [List.mem_cons, List.not_mem_nil, or_false] at hsr
  cases ca <;> cases cb <;> cases hflags <;> rcases hsr with rfl | rfl | rfl <;> first | rfl |
    cases hanomalous

section
variable {ai bi ci : Fin s.pool.length} {log : AssignmentLog} {e : Evidence}

theorem survives_record (hcrates : crates.Correct) (hids : DistinctIds s.pool)
    (hassign : assign s.orch s.pool s.task s.beaconEpoch s.m = some (ai, bi, log))
    (hdraw : lotterySelect s.beacon s.task.seed s.pool (s.pool.get ai).eref (s.pool.get bi).eref
      s.task.determinismBound = some ci)
    (ha : LetThrough (s.pool.get ai) s.task.seed e.resultA e.a)
    (hb : LetThrough (s.pool.get bi) s.task.seed e.resultB e.b)
    (hc : LetThrough (s.pool.get ci) s.task.seed e.resultC e.c) {out : RoundOutcome}
    {ch : Choice} {ca cb : Bool}
    (hlog : out.log = some log) (hselected : out.selectedC.isSome = true)
    (hescalation : out.escalation = some (e.assemble ch))
    (hreceipts : out.signedReceipts = [(e.assemble ch).a, (e.assemble ch).b, (e.assemble ch).c])
    (htask : ch.taskId = s.task.seed)
    (hca : Protocol.agree e.resultC e.resultA ch.profCa ch.tokenThreshold = ca)
    (hcb : Protocol.agree e.resultC e.resultB ch.profCb ch.tokenThreshold = cb)
    (hflags : (ch.flagsA, ch.flagsB, ch.flagsC) = ((e.assemble ch).expected ca cb).1)
    (hslashed : ∀ n, e.attribution ca cb = .faulted n ↔ out.slashed = some n) : Survives s out := by
  obtain ⟨auth, hauth, hauthA, hauthB, hauthC⟩ :=
    roundAuthorization_of_assign hcrates hids hassign hlog
  have hauthC := hauthC hselected ci hdraw
  rw [← ha.nodeId_eq] at hauthA
  rw [← hb.nodeId_eq] at hauthB
  rw [← hc.nodeId_eq] at hauthC
  have hsound : e.Sound crates.verify (registryFromPool s.pool) auth := by
    refine ⟨forM_ok.mpr ?_, forM_ok.mpr ?_, ha.committed, hb.committed, hc.committed⟩
    · intro sr hsr
      simp only [List.mem_cons, List.not_mem_nil, or_false] at hsr
      rcases hsr with rfl | rfl | rfl
      · exact ha.checkSigned hids (s.pool.get_mem ai) e.a.outcome
      · exact hb.checkSigned hids (s.pool.get_mem bi) e.b.outcome
      · exact hc.checkSigned hids (s.pool.get_mem ci) e.c.outcome
    · intro sr hsr
      simp only [List.mem_cons, List.not_mem_nil, or_false] at hsr
      rcases hsr with rfl | rfl | rfl
      · exact require_of (ha.taskId_eq ▸ hauthA)
      · exact require_of (hb.taskId_eq ▸ hauthB)
      · exact require_of (hc.taskId_eq ▸ hauthC)
  have hrecord : (e.assemble ch).verifyAttribution crates.verify (registryFromPool s.pool) auth
      = .ok (e.attribution ca cb) := by
    rw [verifyAttribution_iff, hca, hcb]
    exact ⟨hsound, hflags, rfl⟩
  refine ⟨fun _ => ⟨auth, hauth, ?_⟩, ?_, ?_⟩
  · rw [hreceipts, hescalation]
    refine fold_of_record ?_ ?_ hrecord fun sr hsr hanomalous =>
      ⟨faulted_of_flags hflags hsr hanomalous, ?_⟩
    · intro sr hsr
      simp only [List.mem_cons, List.not_mem_nil, or_false] at hsr
      rcases hsr with rfl | rfl | rfl
      · exact ha.checkSigned hids (s.pool.get_mem ai) _
      · exact hb.checkSigned hids (s.pool.get_mem bi) _
      · exact hc.checkSigned hids (s.pool.get_mem ci) _
    · intro sr hsr
      simp only [List.mem_cons, List.not_mem_nil, or_false] at hsr
      rcases hsr with rfl | rfl | rfl
      · exact ha.taskId_eq ▸ hauthA
      · exact hb.taskId_eq ▸ hauthB
      · exact hc.taskId_eq ▸ hauthC
    · simp only [List.mem_cons, List.not_mem_nil, or_false] at hsr
      rcases hsr with rfl | rfl | rfl
      · exact ha.taskId_eq.trans htask.symm
      · exact hb.taskId_eq.trans htask.symm
      · exact hc.taskId_eq.trans htask.symm
  · intro record hmem
    rw [hescalation] at hmem
    cases hmem
    exact ⟨auth, _, hauth, hrecord, hslashed⟩
  · intro hnone
    rw [hescalation] at hnone
    cases hnone

theorem survives_resolve (hcrates : crates.Correct) (hids : DistinctIds s.pool)
    (hassign : assign s.orch s.pool s.task s.beaconEpoch s.m = some (ai, bi, log))
    (hdraw : lotterySelect s.beacon s.task.seed s.pool (s.pool.get ai).eref (s.pool.get bi).eref
      s.task.determinismBound = some ci)
    (ha : LetThrough (s.pool.get ai) s.task.seed e.resultA e.a)
    (hb : LetThrough (s.pool.get bi) s.task.seed e.resultB e.b)
    (hc : LetThrough (s.pool.get ci) s.task.seed e.resultC e.c) (profCa profCb : DeterminismProfile)
    (lInfAb : Option Nat) :
    Survives s
      (conclude s (s.pool.get ai) (s.pool.get bi) log lInfAb
      (resolve s.tolRef s.task.seed (s.pool.get ai).eref
      (s.pool.get bi).eref (s.pool.get ci).eref e profCa profCb)) := by
  unfold resolve
  dsimp only
  cases hca : Protocol.agree e.resultC e.resultA profCa tokenThreshold with
  | false =>
      cases hcb : Protocol.agree e.resultC e.resultB profCb tokenThreshold with
      | false => exact survives_of_nil rfl rfl rfl
      | true =>
          refine survives_record hcrates hids hassign hdraw ha hb hc rfl rfl rfl rfl rfl hca
            hcb rfl fun n => ?_
          show Attribution.faulted e.a.nodeId = .faulted n
            ↔ some (s.pool.get ai).eref.nodeId = some n
          rw [Attribution.faulted.injEq, Option.some.injEq, ha.nodeId_eq]
  | true =>
      cases hcb : Protocol.agree e.resultC e.resultB profCb tokenThreshold with
      | false =>
          refine survives_record hcrates hids hassign hdraw ha hb hc rfl rfl rfl rfl rfl hca
            hcb rfl fun n => ?_
          show Attribution.faulted e.b.nodeId = .faulted n
            ↔ some (s.pool.get bi).eref.nodeId = some n
          rw [Attribution.faulted.injEq, Option.some.injEq, hb.nodeId_eq]
      | true =>
          refine survives_record hcrates hids hassign hdraw ha hb hc rfl rfl rfl rfl rfl hca
            hcb rfl fun n => ?_
          exact iff_of_false (fun h => nomatch h) (fun h => nomatch h)

end

theorem survives_escalate (hcrates : crates.Correct) (hids : DistinctIds s.pool)
    (hcodec : ∀ n ∈ s.pool, RoundTrips n) {ai bi : Fin s.pool.length} {log : AssignmentLog}
    (hassign : assign s.orch s.pool s.task s.beaconEpoch s.m = some (ai, bi, log))
    {net net' : Network} (hnet : net.Quiet)
    {srA srB : Protocol.SignedReceipt} {ra rb : TaskResult}
    (ha : LetThrough (s.pool.get ai) s.task.seed ra srA)
    (hb : LetThrough (s.pool.get bi) s.task.seed rb srB) {d : Decision}
    (h : escalate s net (s.pool.get ai) (s.pool.get bi) srA srB ra rb = some (d, net'))
    (lInfAb : Option Nat) :
    Survives s (conclude s (s.pool.get ai) (s.pool.get bi) log lInfAb d) := by
  unfold escalate at h
  split at h
  · cases h
    exact survives_of_nil rfl rfl rfl
  · rename_i ci hdraw
    obtain ⟨⟨⟨rc, signedC⟩, net₁⟩, hdeliver, h⟩ := Option.bind_eq_some_iff.mp h
    obtain ⟨-, hreceipt⟩ := deliver_sound hcrates hnet (hcodec _ (s.pool.get_mem ci)) hdeliver
    dsimp only at h
    split at h
    · cases h
      exact survives_of_nil rfl rfl rfl
    · rename_i srC hverify
      obtain ⟨profCa, -, h⟩ := Option.bind_eq_some_iff.mp h
      obtain ⟨profCb, -, h⟩ := Option.bind_eq_some_iff.mp h
      cases h
      exact survives_resolve hcrates hids hassign hdraw ha hb (hreceipt hverify)
        profCa profCb lInfAb

theorem survives_runRound (hcrates : crates.Correct) (hids : DistinctIds s.pool)
    (hcodec : ∀ n ∈ s.pool, RoundTrips n)
    {net net' : Network} (hnet : net.Quiet) {out : RoundOutcome}
    (h : runRound s net = some (out, net')) : Survives s out := by
  unfold runRound at h
  split at h
  · cases h
    exact survives_of_nil rfl rfl rfl
  · rename_i ai bi log hassign
    dsimp only at h
    split at h
    · cases h
      exact survives_of_nil rfl rfl rfl
    · rename_i profAb hprofile
      obtain ⟨⟨⟨ra, signedA⟩, net₁⟩, hdeliverA, h⟩ := Option.bind_eq_some_iff.mp h
      obtain ⟨hquiet, hreceiptA⟩ :=
        deliver_sound hcrates hnet (hcodec _ (s.pool.get_mem ai)) hdeliverA
      obtain ⟨⟨⟨rb, signedB⟩, net₂⟩, hdeliverB, h⟩ := Option.bind_eq_some_iff.mp h
      obtain ⟨hquiet', hreceiptB⟩ :=
        deliver_sound hcrates hquiet (hcodec _ (s.pool.get_mem bi)) hdeliverB
      dsimp only at h
      split at h
      · cases h
        exact survives_of_nil rfl rfl rfl
      · cases h
        exact survives_of_nil rfl rfl rfl
      · rename_i srA srB hverifyA hverifyB
        obtain ⟨⟨d, net₃⟩, hdecision, h⟩ := Option.map_eq_some_iff.mp h
        cases h
        unfold decideRound at hdecision
        split_ifs at hdecision with hagree
        · cases hdecision
          exact survives_settle hcrates hids hassign (hreceiptA hverifyA) (hreceiptB hverifyB) _
        · exact survives_escalate hcrates hids hcodec hassign hquiet' (hreceiptA hverifyA)
            (hreceiptB hverifyB) hdecision _

end

/-! ## No panic -/

theorem deliver_total (hcrates : crates.Correct) {net : Network} (hnet : net.Quiet)
    (orch : NodeIdentity crates)
    {exec : ExecutorNode crates} (hexec : ∀ task, ResultFits (exec.run task))
    (htask : TaskFits task) (window : Nat) (coins : Bytes 32) : ∃ result signed net', net'.Quiet
      ∧ deliver net orch exec task window coins = some ((result, signed), net') := by
  obtain ⟨net', hquiet, hdeliver⟩ :=
    deliver_of hcrates hnet orch htask (decodeTask_encodeTask htask)
    (length_encodeResult (hexec _)) (decodeResult_encodeResult (hexec _)) window coins
  exact ⟨_, _, net', hquiet, hdeliver⟩

section
variable {s : Setting crates}

theorem escalate_total (hcrates : crates.Correct) (htask : TaskFits s.task)
    (hresults : ∀ n ∈ s.pool, ∀ task, ResultFits (n.run task)) {net : Network} (hnet : net.Quiet)
    (a b : ExecutorNode crates) (srA srB : Protocol.SignedReceipt) (ra rb : TaskResult) :
    ∃ d net', escalate s net a b srA srB ra rb = some (d, net') := by
  unfold escalate
  cases hdraw : lotterySelect s.beacon s.task.seed s.pool a.eref b.eref s.task.determinismBound with
  | none => exact ⟨_, _, rfl⟩
  | some ci =>
      obtain ⟨rc, signedC, net', -, hdeliver⟩ :=
        deliver_total hcrates hnet s.orch (hresults _ (s.pool.get_mem ci)) htask
        s.window (s.coins 2)
      obtain ⟨⟨-, -, hca⟩, -, -, hcb⟩ := eligible_of_lotterySelect hdraw
      obtain ⟨profCa, hca⟩ := Option.isSome_iff_exists.mp hca
      obtain ⟨profCb, hcb⟩ := Option.isSome_iff_exists.mp hcb
      dsimp only
      rw [hdeliver, Option.bind_eq_bind, Option.bind_some]
      dsimp only
      split
      · exact ⟨_, _, rfl⟩
      · rw [hca, hcb]
        exact ⟨_, _, rfl⟩

theorem runRound_total (hcrates : crates.Correct) (htask : TaskFits s.task)
    (hresults : ∀ n ∈ s.pool, ∀ task, ResultFits (n.run task)) {net : Network} (hnet : net.Quiet) :
    ∃ out net', runRound s net = some (out, net') := by
  unfold runRound
  split
  · exact ⟨_, _, rfl⟩
  · rename_i ai bi log hassign
    dsimp only
    split
    · exact ⟨_, _, rfl⟩
    · rename_i profAb hprofile
      obtain ⟨ra, signedA, net₁, hquiet, hdeliverA⟩ := deliver_total hcrates hnet s.orch
        (hresults _ (s.pool.get_mem ai)) htask s.window (s.coins 0)
      obtain ⟨rb, signedB, net₂, hquiet', hdeliverB⟩ := deliver_total hcrates hquiet s.orch
        (hresults _ (s.pool.get_mem bi)) htask s.window (s.coins 1)
      unfold runAssigned
      rw [hdeliverA, Option.bind_eq_bind, Option.bind_some]
      dsimp only
      rw [hdeliverB, Option.bind_some]
      dsimp only
      split
      · exact ⟨_, _, rfl⟩
      · exact ⟨_, _, rfl⟩
      · rename_i srA srB _ _
        unfold decideRound
        split_ifs
        · exact ⟨_, _, rfl⟩
        · obtain ⟨d, net₃, hescalate⟩ :=
            escalate_total hcrates htask hresults hquiet' (s.pool.get ai) (s.pool.get bi)
            srA srB ra rb
          rw [hescalate]
          exact ⟨_, _, rfl⟩

end

/-- The results of the nodes can be compared in words. -/
def NoOverflowAmong (nodes : List (ExecutorNode crates)) (task : Task) : Prop :=
  ∀ n ∈ nodes, ∀ n' ∈ nodes, Comparable (n.run task).vector (n'.run task).vector

/-- Every build finds the distance of any two results of the nodes. -/
def NoPanicAmong (nodes : List (ExecutorNode crates)) (task : Task) : Prop :=
  ∀ n ∈ nodes, ∀ n' ∈ nodes, ∀ build :
    Build, build.lInf (words (n.run task).vector) (words (n'.run task).vector)
    = some (roundedLInf (n.run task).vector (n'.run task).vector)

theorem NoOverflowAmong.noPanic {nodes : List (ExecutorNode crates)}
    (h : NoOverflowAmong nodes task) (hresults : ∀ n ∈ nodes, ResultFits (n.run task)) :
    NoPanicAmong nodes task := fun n hn n' hn' build =>
  lInf_words build (hresults n hn).vector (hresults n' hn').vector (h n hn n' hn')

/-- **Every round survives recomputation.** A round that returns is accepted; and a round returns,
in every build, whose task and results the codec can carry and whose results can be compared. -/
theorem round_survives_recomputation (s : Setting crates) (hcrates : crates.Correct)
    (hids : DistinctIds s.pool) (hcodec : ∀ n ∈ s.pool, RoundTrips n) :
    (∀ out net, runRound s ∅ = some (out, net) → Survives s out)
      ∧ (TaskFits s.task → (∀ n ∈ s.pool, ∀ task, ResultFits (n.run task)) →
        (∀ task, NoOverflowAmong s.pool task) →
        (∃ out net, runRound s ∅ = some (out, net)) ∧ ∀ task, NoPanicAmong s.pool task) :=
  ⟨fun _ _ h => survives_runRound hcrates hids hcodec Network.quiet_empty h,
    fun htask hresults hwords => ⟨runRound_total hcrates htask hresults Network.quiet_empty,
      fun task => (hwords task).noPanic fun n hn => hresults n hn task⟩⟩

/-! ## A round -/

/-- Crates in which a key is a byte, a signature the byte before the message, and a tag the nonce
and four bytes more. -/
def roundCrates : Crates UInt8 UInt8 where
  publicKey p := List.replicate 1952 p
  sign p msg := p :: msg
  verify pk msg sig := decide (sig = pk.headD 0 :: msg)
  encapsulationKey p := .replicate _ p
  encapsulate _ _ := (sampleCiphertext, .replicate _ 9)
  decapsulate _ _ := .replicate _ 9
  encrypt _ n p := if p.length ≤ 2 ^ 36 then some ((n.toList ++ List.replicate 4 0) ++ p) else none
  decrypt _ n ct := if ct.take 16 = n.toList ++ List.replicate 4 0 then some (ct.drop 16) else none

theorem roundCrates_correct : roundCrates.Correct where
  signs p msg := decide_eq_true rfl
  encapsulates _ _ := rfl
  opens {key n plaintext ciphertext} h := by
    have hlength : (n.toList ++ List.replicate 4 0).length = 16 := by
      rw [List.length_append, List.Vector.toList_length, List.length_replicate]
    have hsealed : (n.toList ++ List.replicate 4 0) ++ plaintext = ciphertext := by
      have h : (if plaintext.length
        ≤ 2 ^ 36 then some ((n.toList ++ List.replicate 4 0) ++ plaintext) else none)
        = some ciphertext := h
      split_ifs at h
      exact Option.some.inj h
    subst hsealed
    show (if _ then _ else _) = _
    rw [List.take_left' hlength, List.drop_left' hlength, if_pos rfl]
  seals _ n plaintext h := by
    show Option.isSome (if _ then _ else _) = true
    rw [if_pos h]
    rfl

/-- An executor that stands by itself, and always computes this. -/
def sampleNode (name : String) (key : UInt8) (v : Int) : ExecutorNode roundCrates :=
  ⟨sampleExecutor name, "region", ⟨name, key, key, _, rfl⟩, fun _ => sampleResult v, .honest⟩

/-- A and B differ, and C is with A. -/
def sampleSetting : Setting roundCrates where
  orch := ⟨"orchestrator", 9, 9, _, rfl⟩
  pool := [sampleNode "A" 1 0, sampleNode "B" 2 5, sampleNode "C" 3 1]
  task := sampleTask
  beacon := [7]
  beaconEpoch := 1
  tolRef := 8
  m := 3
  window := 3
  coins _ := .replicate _ 0

theorem length_textBytes_engine : (textBytes "engine").length < 2 ^ 32 := by
  unfold textBytes
  rw [Utf8.toList_eq]
  decide

theorem sampleResult_fits {v : Int} (h : -2 ^ 63 ≤ v ∧ v < 2 ^ 63) :
    ResultFits (sampleResult v) where
  taskClassId := (by decide : 10 < 2 ^ 32)
  engineBuildId := length_textBytes_engine
  tokens_length := (by decide : 0 < 2 ^ 32)
  tokens t ht := nomatch ht
  vector_length := (by decide : 1 < 2 ^ 32)
  vector v' hv' := by
    rw [List.mem_singleton.mp hv']
    exact h

theorem sampleTask_fits : TaskFits sampleTask :=
  ⟨by decide, length_textBytes_engine, by decide, by decide⟩

theorem sampleSetting_fits : ∀ n ∈ sampleSetting.pool, ∀ task, ResultFits (n.run task) := by
  intro n hn task
  simp only [sampleSetting, List.mem_cons, List.not_mem_nil, or_false] at hn
  rcases hn with rfl | rfl | rfl
  · exact sampleResult_fits (by decide)
  · exact sampleResult_fits (by decide)
  · exact sampleResult_fits (by decide)

theorem sampleSetting_noOverflow (task : Task) : NoOverflowAmong sampleSetting.pool task := by
  intro n hn n' hn' _
  simp only [sampleSetting, List.mem_cons, List.not_mem_nil, or_false] at hn hn'
  rcases hn with rfl | rfl | rfl <;> rcases hn' with rfl | rfl
    | rfl <;> exact .cons (by decide) .nil

theorem round_survives_sample : ∃ out net, runRound sampleSetting ∅ = some (out, net)
    ∧ Survives sampleSetting out
    ∧ ∀ task, NoPanicAmong sampleSetting.pool task := by
  obtain ⟨hsurvives, htotal⟩ := round_survives_recomputation sampleSetting roundCrates_correct
    (by unfold DistinctIds; decide)
    fun n hn task => decodeResult_encodeResult (sampleSetting_fits n hn task)
  obtain ⟨⟨out, net, hout⟩, hnoPanic⟩ :=
    htotal sampleTask_fits sampleSetting_fits sampleSetting_noOverflow
  exact ⟨out, net, hout, hsurvives out net hout, hnoPanic⟩

end GoatCoin.Net
