/-
# `GoatCoin.Protocol.Provenance` — `provenance.rs`: signed receipts and attributed faults

An executor signs its receipt's core and a commitment to its result.  The orchestrator adds what
nobody signs:

    of a receipt    diverged, fault
    of a record     the task's number, the two comparison profiles, the token threshold

`verifyAttribution` takes a record of three receipts, A and B and the third executor C, compares C's
result with the other two under the record's profiles, and checks the flags against what comes out.
The strictest fold takes a receipt's flags when a record proves them.  Rates, bounds and thresholds
are exact rationals.
-/
import GoatCoin.Lib.Evm
import GoatCoin.Protocol.Maturity
import Mathlib.Data.Rat.Defs

namespace GoatCoin.Protocol

open Wire Assoc
open Evm (require bind_ok require_ok require_of)

/-! ## Results -/

/-- How results are compared. -/
inductive DetKind where
  | exact
  | tolerance
  | statistical
deriving DecidableEq

/-- The fields that a comparison reads; a bound of `none` is infinite. -/
structure DeterminismProfile where
  kind : DetKind
  bound : Option ℚ
deriving DecidableEq

/-- What an executor returns. -/
structure TaskResult where
  taskClassId : Nat
  tokens : List Nat
  vector : List Int
  engineBuildId : String
deriving DecidableEq

/-- The bytes of a result. -/
def canonicalSerialize (r : TaskResult) : List UInt8 :=
  [0x47, 0x52, 0x45, 0x53, 0x01] ++ toBE 4 r.taskClassId ++ toBE 4
    (textBytes r.engineBuildId).length
    ++ textBytes r.engineBuildId ++ toBE 4 r.tokens.length ++ r.tokens.flatMap (toBE 4)
    ++ toBE 4 r.vector.length ++ r.vector.flatMap fun v => toBE 8 (v % 2 ^ 64).toNat

/-- The digest of a result. -/
def commit (r : TaskResult) : Bytes 32 := sha3_256 (canonicalSerialize r)

/-- One row of the table of longest common subsequences, from the row above it. -/
def rowFrom (x left : Nat) : List Nat → List Nat → List Nat
  | y :: b, diag :: up :: row =>
      let here := if x = y then diag + 1 else max up left
      here :: rowFrom x here b (up :: row)
  | _, _ => []

def lcsLength (a b : List Nat) : Nat :=
  (a.foldl (fun row x => 0 :: rowFrom x 0 b row) (List.replicate (b.length + 1) 0)).getLastD 0

/-- How much of the tokens agree. -/
def tokenAgreement (a b : List Nat) : ℚ :=
  if a = [] ∧ b = [] then 1
  else if a = [] ∨ b = [] then 0
  else 2 * (lcsLength a b : ℚ) / (a.length + b.length : ℚ)

/-- The exact distance; `none` is infinite.  What a build finds of it is `Build.lInf`. -/
def lInf (a b : List Int) : Option Nat :=
  if a.length ≠ b.length then none
  else some ((List.zipWith (fun x y => (x - y).natAbs) a b).max?.getD 0)

def agreeEps : ℚ := 1 / 1000000000

def agree (a b : TaskResult) (prof : DeterminismProfile) (tokenThreshold : ℚ) : Bool :=
  if prof.kind = .exact then decide (commit a = commit b)
  else
    decide (tokenThreshold ≤ tokenAgreement a.tokens b.tokens) &&
      match lInf a.vector b.vector, prof.bound with
      | _, none => true
      | none, some _ => false
      | some d, some bound => decide ((d : ℚ) ≤ bound + agreeEps)

/-! ## Signed receipts -/

inductive ProvenanceError where
  | contextMismatch
  | unregisteredSigner
  | badSignature
  | unauthorized
  | resultCommitMismatch
  | attributionMismatch
deriving DecidableEq

structure SignedReceipt where
  receipt : Receipt
  taskId : Nat
  nodeId : String
  resultCommit : Bytes 32
  signerPk : List UInt8
  signature : List UInt8
deriving DecidableEq

def receiptDomain : List UInt8 := textBytes "GOAT/signed-receipt/v1"

def putStr (s : String) : List UInt8 := toBE 4 (textBytes s).length ++ textBytes s

/-- What an executor signs: neither `diverged` nor `fault`. -/
def receiptCoreMessage (taskId : Nat) (nodeId : String) (r : Receipt)
    (resultCommit : Bytes 32) : List UInt8 :=
  receiptDomain ++ toBE 8 taskId ++ putStr nodeId ++ putStr r.classId ++ toBE 4 r.taskClassId
    ++ toBE 8 r.window
    ++ toBE 4 r.subWindow ++ putStr r.clusterId ++ putStr r.asn ++ resultCommit.toList

abbrev KeyRegistry := Map String (List UInt8)

/-- The nodes that were assigned to each task. -/
abbrev AuthorizationSet := Map Nat (List String)

def AuthorizationSet.isAuthorized (auth : AuthorizationSet) (taskId : Nat)
    (nodeId : String) : Bool :=
  match auth.lookup taskId with
  | some nodes => decide (nodeId ∈ nodes)
  | none => false

section
-- ML-DSA verification of a public key, a message and a signature
variable (mlDsa : List UInt8 → List UInt8 → List UInt8 → Bool)

def SignedReceipt.verify (sr : SignedReceipt) : Bool :=
  mlDsa sr.signerPk (receiptCoreMessage sr.taskId sr.nodeId sr.receipt sr.resultCommit) sr.signature

def SignedReceipt.verifyFor (sr : SignedReceipt) (expectedTaskId : Nat) (expectedNodeId : String)
    (registeredPk : List UInt8) : Except ProvenanceError Unit := do
  require (sr.taskId = expectedTaskId ∧ sr.nodeId = expectedNodeId) .contextMismatch
  require (sr.signerPk = registeredPk) .unregisteredSigner
  require (sr.verify mlDsa = true) .badSignature

def checkSigned (registry : KeyRegistry) (sr : SignedReceipt) : Except ProvenanceError Unit :=
  match registry.lookup sr.nodeId with
  | none => .error .unregisteredSigner
  | some pk => sr.verifyFor mlDsa sr.taskId sr.nodeId pk

def verifySignedReceipts (signed : List SignedReceipt) (registry : KeyRegistry) :
    Except ProvenanceError Unit :=
  signed.forM (checkSigned mlDsa registry)

def checkAuthorization (signed : List SignedReceipt) (auth : AuthorizationSet) :
    Except ProvenanceError Unit :=
  signed.forM fun sr => require (auth.isAuthorized sr.taskId sr.nodeId = true) .unauthorized

/-! ## Escalations -/

/-- Whose fault it was. -/
inductive Attribution where
  | noFault
  | faulted (node : String)
deriving DecidableEq

structure EscalationRecord where
  taskId : Nat
  a : SignedReceipt
  b : SignedReceipt
  c : SignedReceipt
  resultA : TaskResult
  resultB : TaskResult
  resultC : TaskResult
  profCa : DeterminismProfile
  profCb : DeterminismProfile
  tokenThreshold : ℚ

/-- The flags of a receipt. -/
def SignedReceipt.outcome (sr : SignedReceipt) : Bool × Bool :=
  (sr.receipt.diverged, sr.receipt.fault)

/-- The flags that the comparisons of C with A and with B ask for, and the attribution. -/
def EscalationRecord.expected (rec : EscalationRecord) (ca cb : Bool) :
    ((Bool × Bool) × (Bool × Bool) × (Bool × Bool)) × Attribution :=
  let clean := (false, false)
  let faulted := (true, true)
  if ca && cb then ((clean, clean, clean), .noFault)
  else if ca then ((clean, faulted, clean), .faulted rec.b.nodeId)
  else if cb then ((faulted, clean, clean), .faulted rec.a.nodeId)
  else ((clean, clean, clean), .noFault)

def EscalationRecord.verifyAttribution (rec : EscalationRecord) (registry : KeyRegistry)
    (auth : AuthorizationSet) :
    Except ProvenanceError Attribution := do
  verifySignedReceipts mlDsa [rec.a, rec.b, rec.c] registry
  checkAuthorization [rec.a, rec.b, rec.c] auth
  require (commit rec.resultA = rec.a.resultCommit ∧ commit rec.resultB = rec.b.resultCommit
    ∧ commit rec.resultC = rec.c.resultCommit) .resultCommitMismatch
  let ca := agree rec.resultC rec.resultA rec.profCa rec.tokenThreshold
  let cb := agree rec.resultC rec.resultB rec.profCb rec.tokenThreshold
  let (flags, attribution) := rec.expected ca cb
  require ((rec.a.outcome, rec.b.outcome, rec.c.outcome) = flags) .attributionMismatch
  return attribution

/-- The faults that the records prove. -/
def provenFaults (registry : KeyRegistry) (auth : AuthorizationSet) :
    List EscalationRecord → Except ProvenanceError (List (Nat × String))
  | [] => .ok []
  | rec :: rest => do
      let attribution ← rec.verifyAttribution mlDsa registry auth
      let proven ← provenFaults registry auth rest
      match attribution with
      | .noFault => return proven
      | .faulted node => return (rec.taskId, node) :: proven

def checkOutcomes (proven : List (Nat × String)) (signed : List SignedReceipt) :
    Except ProvenanceError Unit :=
  signed.forM fun sr =>
    require (sr.receipt.anomalous = false ∨ (sr.taskId, sr.nodeId) ∈ proven) .attributionMismatch

/-- The counts of what is proven. -/
def foldVerifiedAttributed (signed : List SignedReceipt) (registry : KeyRegistry)
    (auth : AuthorizationSet) (records : List EscalationRecord) (mergeGroups : List (List String)) :
    Except ProvenanceError (Map (ClassId × Nat) ClassAccumulator) := do
  verifySignedReceipts mlDsa signed registry
  checkAuthorization signed auth
  let proven ← provenFaults mlDsa registry auth records
  checkOutcomes proven signed
  return foldReceipts (signed.map SignedReceipt.receipt) mergeGroups

end

end GoatCoin.Protocol
