/-
# `GoatCoin.Attestor.Fraud` — the controls of `fraud.rs` over an epoch

Three views of an epoch are held to a bound each, and none of the three is compared with another:

    receipts    the chunks of a session are 0, 1, 2, …, and the last one, and only it, is FINAL
    totals      the bytes of the operators under one cluster root are under the ceiling
    sessions    no cluster root serves more than its share of the bytes of a consumer

An operator without a root is its own cluster.  Sums saturate.
-/
import Mathlib.Data.Prod.Lex
import GoatCoin.Attestor.Store

namespace GoatCoin.Attestor

open Evm

/-! ## What is looked at -/

/-- `SessionTotal`: the proposer's view of a session. -/
structure SessionTotal where
  sessionId : Bytes32
  operator : Address
  totalBytes : Word 128
  chunkCount : Word 64
deriving DecidableEq

/-- `OperatorEpochTotal`: one operator's epoch, which becomes one leaf. -/
structure OperatorEpochTotal where
  operator : Address
  totalBytes : Word 128
  receiptCount : Word 64
  grossGoatWei : Word 128
  payoutGoatWei : Word 128
  protocolGoatWei : Word 128
deriving DecidableEq

def bpsDenom : Nat := 10000

/-- `saturating_add`. -/
def saturatingAdd {w : Nat} (a b : Word w) : Word w :=
  ⟨min (a.val + b.val) (2 ^ w - 1),
    Nat.lt_of_le_of_lt (Nat.min_le_right _ _) (Nat.sub_lt (Nat.two_pow_pos w) Nat.one_pos)⟩

/-- The root of a cluster, or the operator itself. -/
def clusterOf (rootOf : Address → Option Address) (operator : Address) : Address :=
  (rootOf operator).getD operator

/-! ## The bytes of a cluster -/

/-- What an entry is after one more operator. -/
def countMember (_ : Address) (entry : Option (Word 128 × Nat)) (t : OperatorEpochTotal) :
    Except FraudError (Word 128 × Nat) :=
  let e := entry.getD (0, 0)
  .ok (saturatingAdd e.1 t.totalBytes, e.2 + 1)

def checkClusterByteCeiling (totals : List OperatorEpochTotal) (rootOf : Address → Option Address)
    (ceiling : Word 128) : Except FraudError Unit := do
  let byRoot ← totals.foldlM
    (SortedMap.turn (fun t => .ok (clusterOf rootOf t.operator)) countMember) SortedMap.empty
  byRoot.entries.forM fun (root, claimed, members) =>
    require (claimed ≤ ceiling)
      (.clusterOverByteCeiling (hexOf 20 root.val) claimed.val members ceiling.val)

/-! ## The share of a pair -/

def addSessionBytes {κ : Type} (_ : κ) (entry : Option (Word 128)) (s : SessionTotal) :
    Except FraudError (Word 128) :=
  .ok (saturatingAdd (entry.getD 0) s.totalBytes)

/-- `share_bps`, capped to a `u32`. -/
def shareBps (bytes total : Word 128) : Nat :=
  let share := min (bytes.val * bpsDenom) (2 ^ 128 - 1) / total.val
  if share < 2 ^ 32 then share else 2 ^ 32 - 1

def checkPairConcentration (sessions : List SessionTotal) (consumerOf : Bytes32 → Bytes32)
    (rootOf : Address → Option Address) (capBps : Word 32) : Except FraudError Unit := do
  let consumerTotal ← sessions.foldlM
    (SortedMap.turn (fun s => .ok (consumerOf s.sessionId)) addSessionBytes) SortedMap.empty
  let pairTotal ← sessions.foldlM
    (SortedMap.turn (fun s => .ok (toLex (consumerOf s.sessionId, clusterOf rootOf s.operator)))
      addSessionBytes) SortedMap.empty
  pairTotal.entries.forM fun (pair, bytes) =>
    let total := (consumerTotal.get? (ofLex pair).1).getD 0
    if total = 0 then .ok ()
    else require (shareBps bytes total ≤ capBps.val)
      (.pairConcentrationExceeded (hexOf 20 (ofLex pair).2.val) (hexOf 32 (ofLex pair).1.val)
        (shareBps bytes total) capBps.val)

/-! ## The chunks of a session -/

/-- The chunks are numbered on from `expected`. -/
def checkContiguous (sessionIdHex : String) : Nat → List StoredReceipt → Except FraudError Unit
  | _, [] => .ok ()
  | expected, r :: rest => do
      require (r.chunkSeq.val = expected) (.chunkSequenceGap sessionIdHex expected r.chunkSeq.val)
      checkContiguous sessionIdHex (expected + 1) rest

def checkSessionChunkSequence (receipts : List StoredReceipt) : Except FraudError Unit :=
  match receipts with
  | [] => .ok ()
  | first :: _ => do
      let sorted := receipts.mergeSort fun a b => a.chunkSeq ≤ b.chunkSeq
      checkContiguous first.sessionIdHex 0 sorted
      match sorted.filter fun r => r.chunkKind = .final with
      | [] =>
          .error (.malformedSessionTail first.sessionIdHex
            "no FINAL chunk; the session never closed")
      | [last] =>
          require (last.chunkSeq.val = sorted.length - 1)
            (.malformedSessionTail first.sessionIdHex
              "the FINAL chunk is not the highest chunk_seq")
      | _ =>
          .error (.malformedSessionTail first.sessionIdHex
            "more than one FINAL chunk in one session")

def pushReceipt (_ : String) (group : Option (List StoredReceipt)) (r : StoredReceipt) :
    Except FraudError (List StoredReceipt) :=
  .ok (group.getD [] ++ [r])

/-- The rows are grouped by the text of their session. -/
def checkSessionChunkSequences (receipts : List StoredReceipt) : Except FraudError Unit := do
  let bySession ← receipts.foldlM (SortedMap.turn (fun r => .ok r.sessionIdHex) pushReceipt)
    SortedMap.empty
  bySession.values.forM checkSessionChunkSequence

end GoatCoin.Attestor
