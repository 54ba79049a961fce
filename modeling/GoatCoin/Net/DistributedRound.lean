/-
# `GoatCoin.Net.DistributedRound` — `distributed.rs`: a round over the transport, recomputed

The orchestrator assigns a task to A and B, delivers it to each over a channel of its own, and
compares what comes back; where they differ it draws C by the beacon.

    assign → deliver A → deliver B → verify both ─ agree ──────────────── settled
                                          └─ differ → lottery → deliver C → resolve

An executor signs its receipt and a commitment to its result, and the orchestrator adds the
outcome.  A recomputer has the pool and the beacon, the log that the orchestrator signed, and the
record of the escalation.
-/
import GoatCoin.Net.ResultCodec
import GoatCoin.Net.SecureChannel

namespace GoatCoin.Net

open Wire Assoc Protocol Codec

/-! ## The bus -/

structure Frame where
  sender : String
  recipient : String
  ctr : UInt64
  ciphertext : List UInt8

abbrev Network := Map String (List Frame)

def Network.send (net : Network) (frame : Frame) : Network :=
  net.insert frame.recipient ((net.lookup frame.recipient).getD [] ++ [frame])

def Network.drain (net : Network) (node : String) : List Frame × Network :=
  ((net.lookup node).getD [], net.erase node)

/-! ## Executors -/

/-- How an executor attests. -/
inductive AttestationMode where
  | honest
  | invalid
  | missing
deriving DecidableEq

inductive DeliveryError where
  | missingStamp
  | provenance (e : ProvenanceError)
deriving DecidableEq

section
variable {σ δ : Type} (crates : Crates σ δ)

structure ExecutorNode where
  eref : ExecutorRef
  region : String
  ident : NodeIdentity crates
  run : Task → TaskResult
  attestation : AttestationMode

variable {crates}

def NodeIdentity.signPubkey (ident : NodeIdentity crates) : List UInt8 :=
  crates.publicKey ident.signer

def NodeIdentity.attestReceipt (ident : NodeIdentity crates) (taskId : Nat) (receipt : Receipt)
    (result : TaskResult) : Protocol.SignedReceipt where
  receipt := receipt
  taskId := taskId
  nodeId := ident.nodeId
  resultCommit := commit result
  signerPk := ident.signPubkey
  signature :=
    crates.sign ident.signer (receiptCoreMessage taskId ident.nodeId receipt (commit result))

/-- The receipt of an executor for the task that it decoded. -/
def ExecutorNode.attest (exec : ExecutorNode crates) (task : Task) (window : Nat) :
    Option Protocol.SignedReceipt :=
  let sr :=
    exec.ident.attestReceipt task.seed (receiptOf exec.eref task window false false) (exec.run task)
  match exec.attestation with
  | .honest => some sr
  -- another bucket than the one that was signed
  | .invalid =>
      some { sr with
             receipt := { sr.receipt with subWindow := (sr.receipt.subWindow + 1) % subWindows } }
  | .missing => none

/-- `none` is a panic, and `coins` the randomness of the handshake. -/
def deliver (net : Network) (orch : NodeIdentity crates) (exec : ExecutorNode crates)
    (task : Task) (window : Nat)
    (coins : Bytes 32) : Option ((TaskResult × Option Protocol.SignedReceipt) × Network) := do
  let (hs, orchChan) := initiate orch exec.ident.ek coins
  let execChan ← (respond exec.ident hs).toOption
  let (ctr, ciphertext) ← (seal_ crates orchChan (encodeTask task)).1
  let net := net.send ⟨orch.nodeId, exec.eref.nodeId, ctr, ciphertext⟩
  let (inbound, net) := net.drain exec.eref.nodeId
  let f ← inbound.head?
  let taskBytes ← open_ crates execChan f.ctr f.ciphertext
  let decoded ← decodeTask taskBytes
  let (ctr, ciphertext) ← (seal_ crates execChan (encodeResult (exec.run decoded))).1
  let net := net.send ⟨exec.eref.nodeId, orch.nodeId, ctr, ciphertext⟩
  let (back, net) := net.drain orch.nodeId
  let f ← back.head?
  let resultBytes ← open_ crates (seal_ crates orchChan (encodeTask task)).2 f.ctr f.ciphertext
  let result ← decodeResult resultBytes
  some ((result, exec.attest decoded window), net)

def verifyDelivered (signed : Option Protocol.SignedReceipt) (taskId : Nat)
    (exec : ExecutorNode crates) : Except DeliveryError Protocol.SignedReceipt :=
  match signed with
  | none => .error .missingStamp
  | some sr =>
      match sr.verifyFor crates.verify taskId exec.eref.nodeId exec.ident.signPubkey with
      | .error e => .error (.provenance e)
      | .ok () => .ok sr

/-! ## Assignment -/

structure AssignmentLog where
  taskId : Nat
  nodeIds : List String
  beaconEpoch : Nat
  signature : List UInt8
  signerPk : List UInt8

def logMessage (taskId : Nat) (nodeIds : List String) (beaconEpoch : Nat) : List UInt8 :=
  toBE 8 taskId ++ nodeIds.flatMap putStr ++ toBE 8 beaconEpoch

def distinct (l : List String) : Nat := l.dedup.length

/-- Whether the two can be given one task. -/
def Assignable (a b : ExecutorRef) (taskBound : Option ℚ) : Prop :=
  a.clusterId ≠ b.clusterId ∧ a.asn ≠ b.asn ∧ (pairProfile a b taskBound).isSome = true

instance (a b : ExecutorRef) (taskBound : Option ℚ) : Decidable (Assignable a b taskBound) :=
  inferInstanceAs (Decidable (_ ∧ _ ∧ _))

abbrev Pool (crates : Crates σ δ) := List (ExecutorNode crates)

/-- The first two, in the order of the loops. -/
def assignPair (pool : Pool crates) (taskBound : Option ℚ) :
    Option (Fin pool.length × Fin pool.length) :=
  (List.finRange pool.length).findSome? fun a => (List.finRange pool.length).findSome? fun b =>
    if a ≠ b ∧ Assignable (pool.get a).eref (pool.get b).eref taskBound then some (a, b) else none

/-- The nodes of a task, signed. -/
def assign (orch : NodeIdentity crates) (pool : Pool crates) (task : Task) (beaconEpoch m : Nat) :
    Option (Fin pool.length × Fin pool.length × AssignmentLog) :=
  if distinct (pool.map (·.eref.clusterId)) < m ∨ distinct (pool.map (·.eref.asn)) < m then none
  else (assignPair pool task.determinismBound).map fun (a, b) =>
    let nodeIds := [(pool.get a).eref.nodeId, (pool.get b).eref.nodeId]
    (a, b,
      { taskId := task.seed
        nodeIds := nodeIds
        beaconEpoch := beaconEpoch
        signature := crates.sign orch.signer (logMessage task.seed nodeIds beaconEpoch)
        signerPk := orch.signPubkey })

def verifyAssignmentLog (crates : Crates σ δ) (log : AssignmentLog) : Bool :=
  crates.verify log.signerPk (logMessage log.taskId log.nodeIds log.beaconEpoch) log.signature

/-! ## The lottery -/

def lotteryRank (beacon : List UInt8) (taskId : Nat) (nodeId : String) : List UInt8 :=
  (sha3_256 (beacon ++ toBE 8 taskId ++ textBytes nodeId)).toList

def Eligible (c a b : ExecutorRef) (taskBound : Option ℚ) : Prop :=
  Independent c a taskBound ∧ Independent c b taskBound

instance (c a b : ExecutorRef) (taskBound : Option ℚ) : Decidable (Eligible c a b taskBound) :=
  inferInstanceAs (Decidable (_ ∧ _))

/-- One turn of the loop: the best so far, and the candidate if it ranks lower. -/
def lotteryStep (beacon : List UInt8) (taskId : Nat) (pool : Pool crates) (a b : ExecutorRef)
    (taskBound : Option ℚ)
    (best : Option (List UInt8 × Fin pool.length)) (i : Fin pool.length) :
    Option (List UInt8 × Fin pool.length) :=
  let c := (pool.get i).eref
  if Eligible c a b taskBound then
    let rank := lotteryRank beacon taskId c.nodeId
    match best with
    | none => some (rank, i)
    | some (r, _) => if rank < r then some (rank, i) else best
  else best

def lotterySelect (beacon : List UInt8) (taskId : Nat) (pool : Pool crates) (a b : ExecutorRef)
    (taskBound : Option ℚ) : Option (Fin pool.length) :=
  ((List.finRange pool.length).foldl (lotteryStep beacon taskId pool a b taskBound) none).map
    Prod.snd

def countDisjointPairable (pool : Pool crates) (a b : ExecutorRef) (taskBound : Option ℚ) : Nat :=
  pool.countP fun n => decide (Eligible n.eref a b taskBound)

/-! ## The round -/

/-- A distance of `none` is infinite. -/
structure RoundTelemetry where
  classA : String
  classB : String
  lInfAb : Option Nat
  escalated : Bool
  lInfCa : Option Nat
  lInfCb : Option Nat
  disjointPairable : Nat
  profileRemeasure : Bool

/-- What a round returns. -/
structure RoundOutcome where
  status : Status
  winner : Option String
  slashed : Option String
  slashMult : Option ℚ
  selectedC : Option String
  receipts : List Receipt
  signedReceipts : List Protocol.SignedReceipt
  escalation : Option Protocol.EscalationRecord
  profileRemeasure : Bool
  log : Option AssignmentLog
  detail : String
  telemetry : Option RoundTelemetry

/-- The decision variables, and what is measured on the way. -/
structure Decision where
  status : Status
  winner : Option String
  slashed : Option String
  slashMult : Option ℚ
  selectedC : Option String
  signedReceipts : List Protocol.SignedReceipt
  escalation : Option Protocol.EscalationRecord
  profileRemeasure : Bool
  detail : String
  escalated : Bool
  lInfCa : Option Nat
  lInfCb : Option Nat

/-- Nothing was assigned, or a receipt of A or B is no good. -/
def noOutcome (status : Status) (detail : String) : RoundOutcome :=
  ⟨status, none, none, none, none, [], [], none, false, none, detail, none⟩

/-- The two results agree. -/
def settle (a : ExecutorRef) (srA srB : Protocol.SignedReceipt) : Decision :=
  ⟨.settled, some a.nodeId, none, none, none,
    [srA.withOutcome (false, false), srB.withOutcome (false, false)], none, false,
    "agree", false, some 0, some 0⟩

/-- Nobody is paid or slashed. -/
def quarantine (selectedC : Option String) (detail : String)
    (lInfCa lInfCb : Option Nat) : Decision :=
  ⟨.quarantined, none, none, none, selectedC, [], none, true, detail, true, lInfCa, lInfCb⟩

/-- Who has won, who is slashed and by how much, whether profiles are measured again, and the
outcomes of A and B. -/
def attributed (tolRef : ℚ) (a b : ExecutorRef) (ca cb : Bool) :
    String × Option String × Option ℚ × Bool × String × (Bool × Bool) × (Bool × Bool) :=
  if ca && cb then
    (a.nodeId, none, none, true, "C within band of both; no attribution",
      (false, false), (false, false))
  else if ca then
    (a.nodeId, some b.nodeId, some (slashMultiple b.profile.bound tolRef), false,
      "C agrees with A; B faulted", (false, false), (true, true))
  else
    (b.nodeId, some a.nodeId, some (slashMultiple a.profile.bound tolRef), false,
      "C agrees with B; A faulted", (true, true), (false, false))

/-- The three receipts and results, compared. -/
def resolve (tolRef : ℚ) (taskId : Nat) (a b c : ExecutorRef) (e : Evidence)
    (profCa profCb : DeterminismProfile) :
    Decision :=
  let ca := Protocol.agree e.resultC e.resultA profCa tokenThreshold
  let cb := Protocol.agree e.resultC e.resultB profCb tokenThreshold
  let lInfCa := lInf e.resultC.vector e.resultA.vector
  let lInfCb := lInf e.resultC.vector e.resultB.vector
  if !ca && !cb then quarantine (some c.nodeId) "3-way split" lInfCa lInfCb
  else
    let (winner, slashed, slashMult, profileRemeasure, detail, outA, outB) :=
      attributed tolRef a b ca cb
    let record := e.assemble ⟨taskId, outA, outB, (false, false), profCa, profCb, tokenThreshold⟩
    { status := .settledEscalated
      winner := some winner
      slashed := slashed
      slashMult := slashMult
      selectedC := some c.nodeId
      signedReceipts := [record.a, record.b, record.c]
      escalation := some record
      profileRemeasure := profileRemeasure
      detail := detail
      escalated := true
      lInfCa := lInfCa
      lInfCb := lInfCb }

/-- What a round is run on. -/
structure Setting (crates : Crates σ δ) where
  orch : NodeIdentity crates
  pool : Pool crates
  task : Task
  beacon : List UInt8
  beaconEpoch : Nat
  tolRef : ℚ
  m : Nat
  window : Nat
  /-- The randomness of the three handshakes. -/
  coins : Fin 3 → Bytes 32

variable (s : Setting crates)

local instance ne_zero_three : NeZero 3 := ⟨by decide⟩

/-- The members at two places, and then a third. -/
def escalate (net : Network) (a b : ExecutorNode crates) (srA srB : Protocol.SignedReceipt)
    (ra rb : TaskResult) : Option (Decision × Network) :=
  match lotterySelect s.beacon s.task.seed s.pool a.eref b.eref s.task.determinismBound with
  | none => some (quarantine none "no disjoint pairable C" (some 0) (some 0), net)
  | some ci => do
      let c := s.pool.get ci
      let ((rc, signedC), net) ← deliver net s.orch c s.task s.window (s.coins 2)
      let unsigned :=
        quarantine (some c.eref.nodeId) "executor C signed receipt missing or invalid"
          (some 0) (some 0)
      match verifyDelivered signedC s.task.seed c with
      | .error _ => some (unsigned, net)
      | .ok srC => do
          let profCa ← pairProfile c.eref a.eref s.task.determinismBound
          let profCb ← pairProfile c.eref b.eref s.task.determinismBound
          some (resolve s.tolRef s.task.seed a.eref b.eref c.eref ⟨srA, srB, srC, ra, rb, rc⟩
            profCa profCb, net)

/-- The outcome of a decision. -/
def conclude (a b : ExecutorNode crates) (log : AssignmentLog) (lInfAb : Option Nat)
    (d : Decision) : RoundOutcome where
  status := d.status
  winner := d.winner
  slashed := d.slashed
  slashMult := d.slashMult
  selectedC := d.selectedC
  receipts := d.signedReceipts.map Protocol.SignedReceipt.receipt
  signedReceipts := d.signedReceipts
  escalation := d.escalation
  profileRemeasure := d.profileRemeasure
  log := some log
  detail := d.detail
  telemetry := some
    { classA := a.eref.classId
      classB := b.eref.classId
      lInfAb := lInfAb
      escalated := d.escalated
      lInfCa := d.lInfCa
      lInfCb := d.lInfCb
      disjointPairable := countDisjointPairable s.pool a.eref b.eref s.task.determinismBound
      profileRemeasure := d.profileRemeasure }

/-- The decision on two receipts that were let through. -/
def decideRound (net : Network) (a b : ExecutorNode crates) (profAb : DeterminismProfile)
    (srA srB : Protocol.SignedReceipt) (ra rb : TaskResult) : Option (Decision × Network) :=
  if Protocol.agree ra rb profAb tokenThreshold then some (settle a.eref srA srB, net)
  else escalate s net a b srA srB ra rb

/-- A and B have been assigned under a profile. -/
def runAssigned (net : Network) (a b : ExecutorNode crates) (log : AssignmentLog)
    (profAb : DeterminismProfile) :
    Option (RoundOutcome × Network) := do
  let ((ra, signedA), net) ← deliver net s.orch a s.task s.window (s.coins 0)
  let ((rb, signedB), net) ← deliver net s.orch b s.task s.window (s.coins 1)
  match verifyDelivered signedA s.task.seed a, verifyDelivered signedB s.task.seed b with
  | .error _, _ => some (noOutcome .quarantined "executor A signed receipt missing or invalid", net)
  | .ok _, .error _ =>
      some (noOutcome .quarantined "executor B signed receipt missing or invalid", net)
  | .ok srA, .ok srB =>
      (decideRound s net a b profAb srA srB ra rb).map fun (decision, net) =>
        (conclude s a b log (lInf ra.vector rb.vector) decision, net)

/-- `none` is a panic. -/
def runRound (net : Network) : Option (RoundOutcome × Network) :=
  match assign s.orch s.pool s.task s.beaconEpoch s.m with
  | none => some (noOutcome .quarantined "spread rule unsatisfiable", net)
  | some (ai, bi, log) =>
      let a := s.pool.get ai
      let b := s.pool.get bi
      match pairProfile a.eref b.eref s.task.determinismBound with
      | none => some (noOutcome .ineligibleCrossClass "widened band exceeds task bound", net)
      | some profAb => runAssigned s net a b log profAb

/-! ## What a recomputer has -/

def registryFromPool (pool : Pool crates) : Protocol.KeyRegistry :=
  pool.foldl (fun reg n => reg.insert n.eref.nodeId n.ident.signPubkey) ∅

def authorize (auth : Protocol.AuthorizationSet) (taskId : Nat) (nodeId : String) :
    Protocol.AuthorizationSet :=
  auth.insert taskId (nodeId :: (auth.lookup taskId).getD [])

/-- The third executor that the beacon gives the two of the log. -/
def redrawn (pool : Pool crates) (log : AssignmentLog) (beacon : List UInt8)
    (taskBound : Option ℚ) : Option (Fin pool.length) :=
  match log.nodeIds with
  | idA :: idB :: _ => do
      let a ← pool.find? fun n => n.eref.nodeId = idA
      let b ← pool.find? fun n => n.eref.nodeId = idB
      lotterySelect beacon log.taskId pool a.eref b.eref taskBound
  | _ => none

def roundAuthorization (out : RoundOutcome) (beacon : List UInt8) (pool : Pool crates)
    (taskBound : Option ℚ) :
    Option Protocol.AuthorizationSet := do
  let log ← out.log
  if !verifyAssignmentLog crates log then none
  else
    let auth := log.nodeIds.foldl (fun auth nodeId => authorize auth log.taskId nodeId) ∅
    if out.selectedC.isSome then
      match redrawn pool log beacon taskBound with
      | some ci => some (authorize auth log.taskId (pool.get ci).eref.nodeId)
      | none => some auth
    else some auth

end

/-! ## Deliveries -/

section
variable {σ δ : Type}

/-- What the crates promise: a signature verifies, both ends of a handshake have one secret, what is
sealed opens, and whatever AES-GCM can hold is sealed. -/
structure Crates.Correct (crates : Crates σ δ) : Prop where
  signs : ∀ signer msg, crates.verify (crates.publicKey signer) msg (crates.sign signer msg) = true
  encapsulates :
    ∀ dk coins, crates.decapsulate dk (crates.encapsulate (crates.encapsulationKey dk) coins).1
    = (crates.encapsulate (crates.encapsulationKey dk) coins).2
  opens : ∀ {key n plaintext ciphertext}, crates.encrypt key n plaintext = some ciphertext →
    crates.decrypt key n ciphertext = some plaintext
  seals : ∀ key n plaintext, plaintext.length ≤ 2 ^ 36 →
    (crates.encrypt key n plaintext).isSome = true

/-- Nothing is under way. -/
def Network.Quiet (net : Network) : Prop := ∀ node, net.lookup node = none

theorem Network.quiet_empty : Network.Quiet ∅ := fun node => AList.lookup_empty node

theorem Network.drain_send {net : Network} (h : net.Quiet) (frame : Frame) :
    ((net.send frame).drain frame.recipient).1 = [frame]
    ∧ ((net.send frame).drain frame.recipient).2.Quiet := by
  unfold Network.drain Network.send
  refine ⟨?_, fun node => ?_⟩
  · rw [h, AList.lookup_insert]
    rfl
  · dsimp only
    by_cases hnode : node = frame.recipient
    · rw [hnode, AList.lookup_erase]
    · rw [AList.lookup_erase_ne hnode, AList.lookup_insert_ne hnode, h]

variable {crates : Crates σ δ}

/-- The key of a delivery. -/
def deliveryKey (exec : ExecutorNode crates) (coins : Bytes 32) : Bytes 32 :=
  deriveSessionKey (crates.encapsulate exec.ident.ek coins).2

/-- The bus after a delivery. -/
def afterDelivery (net : Network) (orch : NodeIdentity crates) (exec : ExecutorNode crates)
    (sealedTask sealedResult : List UInt8) : Network :=
  let net := ((net.send ⟨orch.nodeId, exec.eref.nodeId, 0, sealedTask⟩).drain exec.eref.nodeId).2
  ((net.send ⟨exec.eref.nodeId, orch.nodeId, 0, sealedResult⟩).drain orch.nodeId).2

theorem quiet_afterDelivery {net : Network} (h : net.Quiet) (orch : NodeIdentity crates)
    (exec : ExecutorNode crates)
    (sealedTask sealedResult : List UInt8) :
    (afterDelivery net orch exec sealedTask sealedResult).Quiet := by
  have hfirst := (Network.drain_send h ⟨orch.nodeId, exec.eref.nodeId, 0, sealedTask⟩).2
  exact (Network.drain_send hfirst ⟨exec.eref.nodeId, orch.nodeId, 0, sealedResult⟩).2

/-- **A delivery** is its two codecs, as far as the cipher takes them. -/
theorem deliver_eq (hcrates : crates.Correct) {net : Network} (hnet : net.Quiet)
    (orch : NodeIdentity crates)
    (exec : ExecutorNode crates) (task : Task) (window : Nat) (coins : Bytes 32) :
    deliver net orch exec task window coins = (do
      let sealedTask ← crates.encrypt (deliveryKey exec coins) (nonce 0 0) (encodeTask task)
      let decoded ← decodeTask (encodeTask task)
      let sealedResult ← crates.encrypt (deliveryKey exec coins) (nonce 1 0)
        (encodeResult (exec.run decoded))
      let result ← decodeResult (encodeResult (exec.run decoded))
      some ((result, exec.attest decoded window),
        afterDelivery net orch exec sealedTask sealedResult)) := by
  have hrespond : (respond exec.ident (initiate orch exec.ident.ek coins).1).toOption
      = some ⟨deliveryKey exec coins, 1, 0, orch.nodeId, by decide⟩ := by
    unfold respond initiate deliveryKey
    dsimp only
    rw [hcrates.signs, exec.ident.generated, hcrates.encapsulates]
    rfl
  have hseal : (seal_ crates (initiate orch exec.ident.ek coins).2 (encodeTask task)).1
      = (crates.encrypt (deliveryKey exec coins) (nonce 0 0) (encodeTask task)).map
        (Prod.mk 0) := rfl
  unfold deliver
  dsimp only
  rw [hrespond, hseal]
  cases hsealed : crates.encrypt (deliveryKey exec coins) (nonce 0 0) (encodeTask task) with
  | none => rfl
  | some sealedTask =>
      obtain ⟨hinbound, hquiet⟩ :=
        Network.drain_send hnet ⟨orch.nodeId, exec.eref.nodeId, 0, sealedTask⟩
      simp only [Option.map_some, Option.bind_eq_bind, Option.bind_some]
      rw [hinbound, List.head?_cons, Option.bind_some]
      have hopen : open_ crates ⟨deliveryKey exec coins, 1, 0, orch.nodeId, by decide⟩ 0 sealedTask
          = some (encodeTask task) := by
        have hrole : (1 : UInt8) - 1 = 0 := by decide
        unfold open_
        dsimp only
        rw [hrole]
        exact hcrates.opens hsealed
      rw [hopen, Option.bind_some]
      congr 1
      funext decoded
      have hseal' : (seal_ crates ⟨deliveryKey exec coins, 1, 0, orch.nodeId, by decide⟩
          (encodeResult (exec.run decoded))).1
          = (crates.encrypt (deliveryKey exec coins) (nonce 1 0)
            (encodeResult (exec.run decoded))).map (Prod.mk 0) := rfl
      rw [hseal']
      cases hsealed' :
        crates.encrypt (deliveryKey exec coins) (nonce 1 0) (encodeResult (exec.run decoded)) with
      | none => rfl
      | some sealedResult =>
          obtain ⟨hback, -⟩ :=
            Network.drain_send hquiet ⟨exec.eref.nodeId, orch.nodeId, 0, sealedResult⟩
          simp only [Option.map_some, Option.bind_some]
          rw [hback, List.head?_cons, Option.bind_some]
          have hopen' :
            open_ crates (seal_ crates (initiate orch exec.ident.ek coins).2 (encodeTask task)).2 0
            sealedResult
              = some (encodeResult (exec.run decoded)) := by
            have hrole : (1 : UInt8) - 0 = 1 := by decide
            unfold open_ seal_ initiate
            dsimp only
            rw [hrole]
            exact hcrates.opens hsealed'
          rw [hopen']
          rfl

theorem deliver_of (hcrates : crates.Correct) {net : Network} (hnet : net.Quiet)
    (orch : NodeIdentity crates)
    {exec : ExecutorNode crates} {task decoded : Task} (htask : TaskFits task)
    (hdecoded : decodeTask (encodeTask task) = some decoded) {result : TaskResult}
    (hlength : (encodeResult (exec.run decoded)).length ≤ 2 ^ 36)
    (hresult : decodeResult (encodeResult (exec.run decoded)) = some result) (window : Nat)
    (coins : Bytes 32) :
    ∃ net', net'.Quiet
      ∧ deliver net orch exec task window coins
        = some ((result, exec.attest decoded window), net') := by
  obtain ⟨sealedTask, hsealed⟩ := Option.isSome_iff_exists.mp
    (hcrates.seals (deliveryKey exec coins) (nonce 0 0) (encodeTask task) (length_encodeTask htask))
  obtain ⟨sealedResult, hsealed'⟩ := Option.isSome_iff_exists.mp
    (hcrates.seals (deliveryKey exec coins) (nonce 1 0) (encodeResult (exec.run decoded)) hlength)
  refine ⟨_, quiet_afterDelivery hnet orch exec sealedTask sealedResult, ?_⟩
  rw [deliver_eq hcrates hnet, hsealed, Option.bind_eq_bind, Option.bind_some, hdecoded,
    Option.bind_eq_bind, Option.bind_some, hsealed', Option.bind_eq_bind, Option.bind_some, hresult]
  rfl

end

end GoatCoin.Net
