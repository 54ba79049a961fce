/-
# `GoatCoin.Core.Dispute` — adjudicating a three-way escalation (`state.rs`)

`agree` decides an `EscalationRecord` in three steps:

    coherence     one work item, three distinct executors      IncoherentEscalation
    authenticity  three signatures over the attestations       BadSignature
    comparison    the three `raw_trace_commit`s                a DisputeOutcome

The signatures cover the attestations, `result_commit` included.  They do not
cover `raw_trace_commit`, and nothing relates the two commitments: the first two
steps read the signed part of the record only, the third reads the unsigned part
only.  `agree_agrees_iff` says when two records with the same signed part get
the same answer, and that a bundle which passes the first two steps never has
an answer of its own.
-/
import GoatCoin.Core.Preimage

namespace GoatCoin

inductive StateError where
  | unauthorized
  | badSignature
  | expiredRecord
  | futureEpoch
  | incoherentEscalation
  | serialization (e : SerializationError)
deriving DecidableEq

inductive DisputeOutcome where
  | unanimous (commit : Bytes 32)
  | majority (winningCommit slashedNodeId : Bytes 32)
  | totalDivergence (slashedNodeIds : List.Vector (Bytes 32) 3)
deriving DecidableEq

namespace EscalationRecord

/-- The attestation of result `i`. -/
def attestation (record : EscalationRecord) (i : Fin 3) : ExecutionAttestation :=
  (record.results.get i).receipt.attestation

def nodeId (record : EscalationRecord) (i : Fin 3) : Bytes 32 := (record.attestation i).nodeId

def rawTraceCommit (record : EscalationRecord) (i : Fin 3) : Bytes 32 :=
  (record.results.get i).rawTraceCommit

end EscalationRecord

/-! ## The three steps -/

def verifyEscalationCoherence (record : EscalationRecord) : Except StateError Unit :=
  let r0 := record.attestation 0
  let sameItem := record.classId == r0.classId
    && record.results.toList.all fun res =>
      let a := res.receipt.attestation
      a.window == r0.window && a.subWindow == r0.subWindow
        && a.taskClassId == r0.taskClassId && a.classId == r0.classId
  if !sameItem then .error .incoherentEscalation
  else
    let n0 := record.nodeId 0
    let n1 := record.nodeId 1
    let n2 := record.nodeId 2
    if n0 == n1 || n0 == n2 || n1 == n2 then .error .incoherentEscalation else .ok ()

/-- One pass of the signature loop.  The buffer is reused from pass to pass, but a
new sink over it starts empty and only what it wrote is read. -/
def verifyReceipt (verifier : SignatureVerifier) (receipt : SignedReceipt) :
    Except StateError Unit :=
  match receipt.attestation.writeSigningPreimage
      (SliceSink.stack execAttestationMaxPreimageLen) with
  | .error e _ => .error (.serialization e)
  | .ok _ sink =>
      if !verifier receipt.publicKey sink.written receipt.signature then .error .badSignature
      else .ok ()

/-- The comparison of the three commitments. -/
def compareCommits (c0 c1 c2 n0 n1 n2 : Bytes 32) : DisputeOutcome :=
  if c0 = c1 ∧ c1 = c2 then .unanimous c0
  else if c0 = c1 then .majority c0 n2
  else if c0 = c2 then .majority c0 n1
  else if c1 = c2 then .majority c1 n0
  else .totalDivergence ⟨[n0, n1, n2], rfl⟩

def agree (record : EscalationRecord) (verifier : SignatureVerifier) :
    Except StateError DisputeOutcome := do
  verifyEscalationCoherence record
  record.results.toList.forM fun result => verifyReceipt verifier result.receipt
  pure (compareCommits (record.rawTraceCommit 0) (record.rawTraceCommit 1)
    (record.rawTraceCommit 2) (record.nodeId 0) (record.nodeId 1) (record.nodeId 2))

/-! ## What each step reads -/

/-- Same class, same receipts with their keys and signatures; only the
`raw_trace_commit`s may differ. -/
def SameSigned (r r' : EscalationRecord) : Prop :=
  r.classId = r'.classId ∧ ∀ i : Fin 3, (r.results.get i).receipt = (r'.results.get i).receipt

/-- The bundle does not reach the comparison: it is incoherent or one of its
signatures fails. -/
def Refused (r : EscalationRecord) (verifier : SignatureVerifier) : Prop :=
  verifyEscalationCoherence r ≠ .ok ()
    ∨ ∃ i : Fin 3, verifier (r.results.get i).receipt.publicKey
        (preimageBytes (r.attestation i) ctxGoatExecAttestation)
        (r.results.get i).receipt.signature = false

/-- The same pairs of commitments coincide in both records, with the same value. -/
def SameVotes (r r' : EscalationRecord) : Prop :=
  ∀ i j : Fin 3, i < j →
    (r.rawTraceCommit i = r.rawTraceCommit j ↔ r'.rawTraceCommit i = r'.rawTraceCommit j)
      ∧ (r.rawTraceCommit i = r.rawTraceCommit j → r.rawTraceCommit i = r'.rawTraceCommit i)

theorem verifyReceipt_eq (verifier : SignatureVerifier) (receipt : SignedReceipt) :
    verifyReceipt verifier receipt
      = if verifier receipt.publicKey (preimageBytes receipt.attestation ctxGoatExecAttestation)
          receipt.signature then .ok () else .error .badSignature := by
  have hlen : (preimageBytes receipt.attestation ctxGoatExecAttestation).length
      ≤ execAttestationMaxPreimageLen :=
    Signable.length_preimage_le (t := .executionAttestation) rfl receipt.attestation
  obtain ⟨sink, hrun, -, hwritten⟩ :=
    stack_of_writes (writesPreimage receipt.attestation ctxGoatExecAttestation) hlen
  unfold verifyReceipt ExecutionAttestation.writeSigningPreimage
  rw [hrun]
  dsimp only
  rw [hwritten]
  by_cases h : verifier receipt.publicKey
      (preimageBytes receipt.attestation ctxGoatExecAttestation) receipt.signature = true
  · simp [h]
  · simp [h]

/-! ## A bundle, taken apart -/

/-- The record of three receipts with three commitments filed beside them. -/
def bundle (classId : OpaqueTag) (a b c : SignedReceipt) (x y z : Bytes 32) : EscalationRecord :=
  ⟨classId, ⟨[⟨a, x⟩, ⟨b, y⟩, ⟨c, z⟩], rfl⟩⟩

theorem exists_bundle (r : EscalationRecord) :
    ∃ classId a b c x y z, r = bundle classId a b c x y z := by
  obtain ⟨classId, ⟨l, hl⟩⟩ := r
  match l, hl with
  | [⟨a, x⟩, ⟨b, y⟩, ⟨c, z⟩], _ => exact ⟨classId, a, b, c, x, y, z, rfl⟩

theorem sameSigned_bundle {k k' : OpaqueTag} {a b c a' b' c' : SignedReceipt}
    {x y z x' y' z' : Bytes 32}
    (h : SameSigned (bundle k a b c x y z) (bundle k' a' b' c' x' y' z')) :
    k = k' ∧ a = a' ∧ b = b' ∧ c = c' :=
  ⟨h.1, h.2 0, h.2 1, h.2 2⟩

theorem sameSigned_refill (k : OpaqueTag) (a b c : SignedReceipt) (x y z x' y' z' : Bytes 32) :
    SameSigned (bundle k a b c x y z) (bundle k a b c x' y' z') := by
  refine ⟨rfl, ?_⟩
  intro i
  match i with
  | 0 => rfl
  | 1 => rfl
  | 2 => rfl

section
variable (k : OpaqueTag) (a b c : SignedReceipt) (verifier : SignatureVerifier)

/-- The first two steps. -/
def authenticate : Except StateError Unit := do
  verifyEscalationCoherence (bundle k a b c a.attestation.resultCommit b.attestation.resultCommit
    c.attestation.resultCommit)
  verifyReceipt verifier a
  verifyReceipt verifier b
  verifyReceipt verifier c

theorem coherence_bundle (x y z x' y' z' : Bytes 32) :
    verifyEscalationCoherence (bundle k a b c x y z)
      = verifyEscalationCoherence (bundle k a b c x' y' z') := rfl

/-- The first two steps read the signed part only, and the third decides. -/
theorem agree_bundle (x y z : Bytes 32) :
    agree (bundle k a b c x y z) verifier
      = (authenticate k a b c verifier).map fun _ =>
          compareCommits x y z a.attestation.nodeId b.attestation.nodeId c.attestation.nodeId := by
  unfold agree authenticate
  rw [coherence_bundle k a b c x y z a.attestation.resultCommit b.attestation.resultCommit
    c.attestation.resultCommit]
  generalize verifyEscalationCoherence (bundle k a b c a.attestation.resultCommit
      b.attestation.resultCommit c.attestation.resultCommit) = coherent
  generalize verifyReceipt verifier = verify
  have hloop : ((bundle k a b c x y z).results.toList.forM fun result => verify result.receipt)
      = (do verify a; verify b; verify c) := by
    show [EscalatedResult.mk a x, ⟨b, y⟩, ⟨c, z⟩].forM (fun result => verify result.receipt) = _
    rw [List.forM_eq_forM, List.forM_cons, List.forM_cons, List.forM_cons, List.forM_nil]
    simp only [bind_pure_unit]
  cases coherent with
  | error e => rfl
  | ok u =>
      show (do
        (bundle k a b c x y z).results.toList.forM fun result => verify result.receipt
        pure _) = Except.map _ (do verify a; verify b; verify c)
      rw [hloop]
      cases (do verify a; verify b; verify c) with
      | error e => rfl
      | ok u => rfl

theorem authenticate_eq_ok :
    authenticate k a b c verifier = .ok () ↔
      verifyEscalationCoherence (bundle k a b c a.attestation.resultCommit
        b.attestation.resultCommit c.attestation.resultCommit) = .ok ()
      ∧ verifyReceipt verifier a = .ok () ∧ verifyReceipt verifier b = .ok ()
      ∧ verifyReceipt verifier c = .ok () := by
  unfold authenticate
  generalize verifyEscalationCoherence (bundle k a b c a.attestation.resultCommit
      b.attestation.resultCommit c.attestation.resultCommit) = coherent
  generalize verifyReceipt verifier = verify
  cases coherent with
  | error e => exact ⟨nofun, fun h => nomatch h.1⟩
  | ok u =>
      cases ha : verify a with
      | error e => exact ⟨nofun, fun h => nomatch h.2.1⟩
      | ok u =>
          cases hb : verify b with
          | error e => exact ⟨nofun, fun h => nomatch h.2.2.1⟩
          | ok u => exact ⟨fun h => ⟨rfl, rfl, rfl, h⟩, fun h => h.2.2.2⟩

theorem verifyReceipt_ok (receipt : SignedReceipt) :
    verifyReceipt verifier receipt = .ok () ↔ verifier receipt.publicKey
      (preimageBytes receipt.attestation ctxGoatExecAttestation) receipt.signature = true := by
  rw [verifyReceipt_eq]
  split
  · rename_i h
    exact ⟨fun _ => h, fun _ => rfl⟩
  · rename_i h
    exact ⟨nofun, fun h' => absurd h' h⟩

theorem refused_bundle (x y z : Bytes 32) :
    Refused (bundle k a b c x y z) verifier ↔ authenticate k a b c verifier ≠ .ok () := by
  rw [Refused, Ne, Ne, authenticate_eq_ok, verifyReceipt_ok, verifyReceipt_ok, verifyReceipt_ok,
    coherence_bundle k a b c x y z a.attestation.resultCommit b.attestation.resultCommit
    c.attestation.resultCommit, Fin.exists_fin_succ, Fin.exists_fin_two]
  simp only [not_and_or, Bool.not_eq_true]
  exact Iff.rfl

theorem nodeIds_ne (h : authenticate k a b c verifier = .ok ()) :
    a.attestation.nodeId ≠ b.attestation.nodeId ∧ a.attestation.nodeId ≠ c.attestation.nodeId
      ∧ b.attestation.nodeId ≠ c.attestation.nodeId := by
  have hcoh := ((authenticate_eq_ok k a b c verifier).mp h).1
  unfold verifyEscalationCoherence at hcoh
  dsimp only at hcoh
  split at hcoh
  · cases hcoh
  · split at hcoh
    · cases hcoh
    · rename_i _ hdup
      simp only [Bool.or_eq_true, beq_iff_eq, not_or] at hdup
      exact ⟨hdup.1.1, hdup.1.2, hdup.2⟩

theorem compareCommits_eq_iff {c0 c1 c2 d0 d1 d2 n0 n1 n2 : Bytes 32} (h01 : n0 ≠ n1)
    (h02 : n0 ≠ n2) (h12 : n1 ≠ n2) :
    compareCommits c0 c1 c2 n0 n1 n2 = compareCommits d0 d1 d2 n0 n1 n2 ↔
      ((c0 = c1 ↔ d0 = d1) ∧ (c0 = c1 → c0 = d0)) ∧ ((c0 = c2 ↔ d0 = d2) ∧ (c0 = c2 → c0 = d0))
        ∧ ((c1 = c2 ↔ d1 = d2) ∧ (c1 = c2 → c1 = d1)) := by
  unfold compareCommits
  split_ifs <;> grind

theorem sameVotes_bundle {x y z x' y' z' : Bytes 32} :
    SameVotes (bundle k a b c x y z) (bundle k a b c x' y' z') ↔
      ((x = y ↔ x' = y') ∧ (x = y → x = x')) ∧ ((x = z ↔ x' = z') ∧ (x = z → x = x'))
        ∧ ((y = z ↔ y' = z') ∧ (y = z → y = y')) := by
  constructor
  · intro h
    exact ⟨h 0 1 (by decide), h 0 2 (by decide), h 1 2 (by decide)⟩
  · rintro ⟨h01, h02, h12⟩ i j hij
    match i, j, hij with
    | 0, 1, _ => exact h01
    | 0, 2, _ => exact h02
    | 1, 2, _ => exact h12
    | 0, 0, h | 1, 0, h | 1, 1, h | 2, 0, h | 2, 1, h | 2, 2, h => exact absurd h (by decide)

theorem agree_refill (x y z x' y' z' : Bytes 32) :
    agree (bundle k a b c x y z) verifier = agree (bundle k a b c x' y' z') verifier
      ↔ Refused (bundle k a b c x y z) verifier
        ∨ SameVotes (bundle k a b c x y z) (bundle k a b c x' y' z') := by
  rw [agree_bundle, agree_bundle, refused_bundle]
  cases h : authenticate k a b c verifier with
  | error e => exact ⟨fun _ => .inl nofun, fun _ => rfl⟩
  | ok u =>
      obtain ⟨hab, hac, hbc⟩ := nodeIds_ne k a b c verifier h
      show Except.ok _ = Except.ok _ ↔ ¬ Except.ok () = Except.ok () ∨ _
      rw [Except.ok.injEq, compareCommits_eq_iff hab hac hbc, sameVotes_bundle]
      simp only [not_true_eq_false, false_or]

end

/-! ## When the unsigned part decides -/

/-- **Two records with the same signed part** get the same answer exactly when they
are refused before the comparison, or the same commitments coincide in both; and a
signed part has one answer whatever is filed beside it exactly when it is refused. -/
theorem agree_agrees_iff (verifier : SignatureVerifier) (r : EscalationRecord) :
    (∀ r', SameSigned r r' →
      (agree r verifier = agree r' verifier ↔ Refused r verifier ∨ SameVotes r r')) ∧
    ((∀ r', SameSigned r r' → agree r verifier = agree r' verifier) ↔ Refused r verifier) := by
  obtain ⟨k, a, b, c, x, y, z, rfl⟩ := exists_bundle r
  constructor
  · intro r' hs
    obtain ⟨k', a', b', c', x', y', z', rfl⟩ := exists_bundle r'
    obtain ⟨rfl, rfl, rfl, rfl⟩ := sameSigned_bundle hs
    exact agree_refill k a b c verifier x y z x' y' z'
  · constructor
    · intro hall
      let o : Bytes 32 := .replicate 32 0
      let l : Bytes 32 := .replicate 32 1
      have heq : agree (bundle k a b c o o o) verifier = agree (bundle k a b c o o l) verifier :=
        (hall _ (sameSigned_refill k a b c x y z o o o)).symm.trans
          (hall _ (sameSigned_refill k a b c x y z o o l))
      rcases (agree_refill k a b c verifier o o o o o l).mp heq with hr | hv
      · exact (refused_bundle k a b c verifier x y z).mpr
          ((refused_bundle k a b c verifier o o o).mp hr)
      · have hol : o = l := (hv 1 2 (by decide)).1.mp rfl
        exact absurd hol (by decide)
    · intro hr r' hs
      obtain ⟨k', a', b', c', x', y', z', rfl⟩ := exists_bundle r'
      obtain ⟨rfl, rfl, rfl, rfl⟩ := sameSigned_bundle hs
      exact (agree_refill k a b c verifier x y z x' y' z').mpr (.inl hr)

/-! ### Framing -/

/-- A receipt of executor `node` whose signed result is `commit`. -/
def sampleReceipt (node commit : UInt8) : SignedReceipt where
  attestation :=
    { nodeId := .replicate 32 node, classId := ⟨[99, 108, 115], by decide⟩
      taskClassId := ⟨[116], by decide⟩, window := 50, subWindow := 0
      clusterId := .replicate 32 node, asn := 7, resultCommit := .replicate 32 commit }
  publicKey := .replicate _ 0
  signature := .replicate _ 0

/-- Three executors whose signed results agree, with three commitments beside them. -/
def sampleBundle (x y z : UInt8) : EscalationRecord :=
  bundle ⟨[99, 108, 115], by decide⟩ (sampleReceipt 1 9) (sampleReceipt 2 9) (sampleReceipt 3 9)
    (.replicate 32 x) (.replicate 32 y) (.replicate 32 z)

/-- Two ways to disagree everywhere are one answer. -/
theorem agree_agrees_sample :
    SameSigned (sampleBundle 1 2 3) (sampleBundle 4 5 6) ∧
    agree (sampleBundle 1 2 3) (fun _ _ _ => true)
      = agree (sampleBundle 4 5 6) (fun _ _ _ => true) := by
  have hs : SameSigned (sampleBundle 1 2 3) (sampleBundle 4 5 6) :=
    sameSigned_refill _ _ _ _ _ _ _ _ _ _
  have hv : SameVotes (sampleBundle 1 2 3) (sampleBundle 4 5 6) :=
    (sameVotes_bundle _ _ _ _).mpr (by decide)
  exact ⟨hs, ((agree_agrees_iff _ _).1 _ hs).mpr (.inr hv)⟩

/-- The three signed results agree, and the filed commitments choose the executor
that is slashed. -/
theorem agree_frames :
    SameSigned (sampleBundle 9 9 9) (sampleBundle 9 9 7) ∧
    SameSigned (sampleBundle 9 9 9) (sampleBundle 7 9 9) ∧
    agree (sampleBundle 9 9 9) (fun _ _ _ => true) = .ok (.unanimous (.replicate 32 9)) ∧
    agree (sampleBundle 9 9 7) (fun _ _ _ => true)
      = .ok (.majority (.replicate 32 9) (.replicate 32 3)) ∧
    agree (sampleBundle 7 9 9) (fun _ _ _ => true)
      = .ok (.majority (.replicate 32 9) (.replicate 32 1)) := by
  have hauth : authenticate ⟨[99, 108, 115], by decide⟩ (sampleReceipt 1 9) (sampleReceipt 2 9)
      (sampleReceipt 3 9) (fun _ _ _ => true) = .ok () := by
    rw [authenticate_eq_ok, verifyReceipt_ok, verifyReceipt_ok, verifyReceipt_ok]
    exact ⟨by decide, rfl, rfl, rfl⟩
  refine ⟨sameSigned_refill _ _ _ _ _ _ _ _ _ _, sameSigned_refill _ _ _ _ _ _ _ _ _ _, ?_, ?_, ?_⟩
  · rw [sampleBundle, agree_bundle, hauth]
    decide
  · rw [sampleBundle, agree_bundle, hauth]
    decide
  · rw [sampleBundle, agree_bundle, hauth]
    decide

end GoatCoin
