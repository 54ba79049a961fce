/-
# `GoatCoin.Attestor.Challenger` — what the compute challenger has looked at

The challenger is handed a file of scores, and holds each against the public score of its worker:

    strict equality    an enrollment epoch, no enrollment batch yet, or no baseline on chain
    inflate only       otherwise: the score may be below the public one, not above

Of the batch on chain it reads the status.  So an approval is about the scores of the file
(`approval`), and about what can be claimed exactly as far as the root on chain is the root of that
file, which somebody else has to see to.

The answers of the Folding@home client and of the chain are parameters, by the number of the call.
-/
import GoatCoin.Attestor.Aggregate

namespace GoatCoin.Attestor

open Evm

/-! ## Policies -/

inductive ChallengePolicy where
  | inflateOnly
  | strictEquality
deriving DecidableEq

inductive ChallengeDecision where
  | ok
  | challenge (reason worker : String) (proposed : Word 128) (published : Option (Word 128))
      (policy : ChallengePolicy)
deriving DecidableEq

/-- `to_ascii_lowercase`. -/
def toAsciiLowercase (text : String) : String := String.ofList (text.toList.map Char.toLower)

/-- `is_enrollment_epoch`. -/
def isEnrollmentEpoch (epochId : Word 64) : Bool := decide (enrollmentEpochBase ≤ epochId.val)

def policyForWorker (epochId : Word 64) (baselineBatched : Bool)
    (hasBaselineOnChain : Option Bool) :
    ChallengePolicy :=
  if isEnrollmentEpoch epochId then .strictEquality
  else if !baselineBatched then .strictEquality
  else if hasBaselineOnChain = some false then .strictEquality
  else .inflateOnly

/-- `evaluate_batch_with_policy`, from the row `n` on. -/
def evaluateBatchWithPolicy (published : String → Option (Word 128))
    (policyFor : Nat → String → ChallengePolicy) :
    Nat → List (String × Word 128) → ChallengeDecision
  | _, [] => .ok
  | n, (wallet, prop) :: rows =>
      let policy := policyFor n wallet
      match published (toAsciiLowercase wallet) with
      | some score =>
          match policy with
          | .inflateOnly =>
              if score < prop then .challenge
                s!"inflate: proposed score {prop.val} > public score {score.val} for {wallet}"
                wallet prop (some score) policy
              else evaluateBatchWithPolicy published policyFor (n + 1) rows
          | .strictEquality =>
              if prop ≠ score then .challenge
                (s!"baseline-critical mismatch: proposed {prop.val} != public {score.val} for {wallet}"
                  ++ " (under-report steals historical delta)")
                wallet prop (some score) policy
              else evaluateBatchWithPolicy published policyFor (n + 1) rows
      | none =>
          if policy = .strictEquality then .challenge
            (s!"baseline-critical: public FAH score unavailable for {wallet}; cannot accept"
              ++ " enrollment/pre-baseline leaf")
            wallet prop none policy
          else evaluateBatchWithPolicy published policyFor (n + 1) rows

/-! ## A review -/

inductive FahError where
  | http (status : Word 16) (body : String)
  | json (detail : String)
  | missingField (field : String)
  | io (detail : String)
  | rateLimited (retryAfterNanos : Nat)

/-- Why a chain call failed. -/
inductive ChainError where
  | msg (detail : String)
  | wrongStatus (epoch : Word 64)
  | notFound (epoch : Word 64)
  | liveRpcNotConfigured
  | bondMismatch (expected got : Word 128)

/-- Why a challenger run ended. -/
inductive ChallengerError where
  | fah (e : FahError)
  | chain (e : ChainError)
  | evidence (detail : String)

/-- `WorkerEntry`, as far as a review reads it. -/
structure WorkerEntry where
  wallet : String
  username : String
  baselineBatched : Bool

inductive BatchStatus where
  | none | proposed | challenged | proposerWon | challengerWon | finalized
deriving DecidableEq

/-- What the contract says of a batch. -/
structure BatchView where
  merkleRoot : Bytes32
  status : BatchStatus

/-- What a review is answered, by the number of the row it asks about. -/
structure Answers where
  getBatch : Except ChainError BatchView
  hasBaseline : Nat → String → Except ChainError (Option Bool)
  fetchUserFresh : Nat → String → Except FahError (Word 64)
  fetchUser : Nat → String → Except FahError (Word 64)
  fileChallenge : ChallengeDecision → Except ChallengerError Unit

/-- The public score of a worker; where it may be missing, it is left out. -/
def publicScore (epochId : Word 64) (w : WorkerEntry) (fresh cached : Except FahError (Word 64)) :
    Except ChallengerError (Option (Word 64)) :=
  match fresh with
  | .ok score => .ok (some score)
  | .error (.rateLimited _) =>
      match cached with
      | .ok score => .ok (some score)
      | .error e => .error (.fah e)
  | .error e =>
      if isEnrollmentEpoch epochId || !w.baselineBatched then .ok none else .error (.fah e)

/-- `u128` of a `u64`. -/
def scoreOf (score : Word 64) : Word 128 := ⟨score.val, (u128From score).isLt⟩

/-- The public scores of the bound workers, from the worker `n` on. -/
def fetchPublic (a : Answers) (epochId : Word 64) : Nat → (String → Option (Word 128)) →
    List WorkerEntry → Except ChallengerError (String → Option (Word 128))
  | _, published, [] => .ok published
  | n, published, w :: workers => do
      let score ← publicScore epochId w (a.fetchUserFresh n w.username) (a.fetchUser n w.username)
      match score with
      | some score =>
          fetchPublic a epochId (n + 1)
            (Function.update published (toAsciiLowercase w.wallet) (some (scoreOf score))) workers
      | none => fetchPublic a epochId (n + 1) published workers

/-- The flag of the last entry of a wallet. -/
def regLookup (registry : List WorkerEntry) (key : String) : Option Bool :=
  ((registry.filter (toAsciiLowercase ·.wallet = key)).getLast?).map (·.baselineBatched)

/-- The policy of a row. -/
def rowPolicy (a : Answers) (epochId : Word 64) (registry : List WorkerEntry) (n : Nat)
    (wallet : String) : ChallengePolicy :=
  policyForWorker epochId ((regLookup registry (toAsciiLowercase wallet)).getD false)
    ((a.hasBaseline n wallet).toOption.bind id)

/-- A challenge is filed, and reported. -/
def conclude (a : Answers) : ChallengeDecision → Except ChallengerError ChallengeDecision
  | .ok => .ok .ok
  | decision => do
      a.fileChallenge decision
      pure decision

def reviewEpoch (a : Answers) (epochId : Word 64) (registry : List WorkerEntry)
    (proposed : List (String × Word 128)) : Except ChallengerError ChallengeDecision := do
  let batch ← a.getBatch.mapError .chain
  if batch.status ≠ .proposed ∧ batch.status ≠ .none then pure .ok
  else
    let published ← fetchPublic a epochId 0 (fun _ => none) registry
    conclude a (evaluateBatchWithPolicy published (rowPolicy a epochId registry) 0 proposed)

/-! ## `merkle.rs`: the leaves of a file -/

/-- `strip_prefix("0x")`: once. -/
def stripMark : List Char → List Char
  | '0' :: 'x' :: rest => rest
  | text => text

def parseAddress (text : String) : Except String Address :=
  let digits := String.ofList (stripMark text.toList)
  if digits.utf8ByteSize ≠ 40 then
    .error s!"address must be 20 bytes (40 hex), got len {digits.utf8ByteSize}"
  else
    match Hex.decode digits.toList with
    | some bytes => .ok (Fin.ofNat _ (Wire.ofLE bytes.reverse))
    | none => .error "invalid hex"

/-- `Leaf::from_hex`. -/
def leafFromHex (row : String × Word 128) : Except String Leaf := do
  let wallet ← parseAddress row.1
  pure ⟨wallet, row.2⟩

/-! ## What an approval says -/

section
variable {a : Answers} {epochId : Word 64} {registry : List WorkerEntry}

/-- The worker `n` is bound, and the client answered with its score in this review. -/
def Witnessed (a : Answers) (registry : List WorkerEntry) (key : String)
    (score : Word 128) : Prop :=
  ∃ n w s, registry[n]? = some w ∧ toAsciiLowercase w.wallet = key ∧ scoreOf s = score
    ∧ (a.fetchUserFresh n w.username = .ok s
      ∨ (∃ wait, a.fetchUserFresh n w.username = .error (.rateLimited wait))
        ∧ a.fetchUser n w.username = .ok s)

/-- A score agrees with a public one. -/
def Consistent : ChallengePolicy → Word 128 → Word 128 → Prop
  | .strictEquality, score, published => score = published
  | .inflateOnly, score, published => score ≤ published

theorem publicScore_some {w : WorkerEntry} {fresh cached : Except FahError (Word 64)} {s : Word 64}
    (h : publicScore epochId w fresh cached = .ok (some s)) :
    fresh = .ok s ∨ (∃ wait, fresh = .error (.rateLimited wait)) ∧ cached = .ok s := by
  unfold publicScore at h
  split at h
  · cases h
    exact .inl rfl
  · split at h
    · cases h
      exact .inr ⟨⟨_, rfl⟩, rfl⟩
    · cases h
  · split at h
    · cases h
    · cases h

theorem publicScore_none {w : WorkerEntry} {fresh cached : Except FahError (Word 64)}
    (h : publicScore epochId w fresh cached = .ok none) :
    isEnrollmentEpoch epochId = true ∨ w.baselineBatched = false := by
  unfold publicScore at h
  split at h
  · cases h
  · split at h
    · cases h
    · cases h
  · split at h
    · rename_i hskip
      simpa using hskip
    · cases h

/-- What is in the map of public scores. -/
structure Fetched (a : Answers) (epochId : Word 64) (registry : List WorkerEntry)
    (published : String → Option (Word 128)) : Prop where
  witnessed : ∀ key score, published key = some score → Witnessed a registry key score
  present : isEnrollmentEpoch epochId = false → ∀ key, regLookup registry key = some true →
    ∃ score, published key = some score

theorem regLookup_concat (registry : List WorkerEntry) (w : WorkerEntry) (key : String) :
    regLookup (registry ++ [w]) key
      = if toAsciiLowercase w.wallet = key then some w.baselineBatched
      else regLookup registry key := by
  rw [regLookup, List.filter_append]
  by_cases hkey : toAsciiLowercase w.wallet = key
  · rw [if_pos hkey, List.filter_cons_of_pos (by simpa using hkey), List.filter_nil,
      List.getLast?_append, List.getLast?_singleton]
    rfl
  · rw [if_neg hkey, List.filter_cons_of_neg (by simpa using hkey), List.filter_nil,
      List.append_nil]
    rfl

theorem Witnessed.more {key : String} {score : Word 128} (h : Witnessed a registry key score)
    (w : WorkerEntry) : Witnessed a (registry ++ [w]) key score := by
  obtain ⟨n, w', s, hn, hrest⟩ := h
  refine ⟨n, w', s, ?_, hrest⟩
  rw [List.getElem?_append_left (List.getElem?_eq_some_iff.mp hn).1]
  exact hn

theorem fetched_loop {workers : List WorkerEntry} : ∀ {before : List WorkerEntry}
    {published published' : String → Option (Word 128)}, Fetched a epochId before published →
    fetchPublic a epochId before.length published workers = .ok published' →
      Fetched a epochId (before ++ workers) published' := by
  induction workers with
  | nil =>
      intro before published published' h hloop
      cases hloop
      rwa [List.append_nil]
  | cons w workers ih =>
      intro before published published' h hloop
      obtain ⟨score, hscore, hloop⟩ := bind_ok.mp hloop
      have hlength : before.length + 1 = (before ++ [w]).length := by
        rw [List.length_append, List.length_singleton]
      have hlast : (before ++ [w])[before.length]? = some w := by
        rw [List.getElem?_append_right le_rfl, Nat.sub_self]
        rfl
      rw [List.append_cons]
      cases score with
      | some s =>
          dsimp only at hloop
          rw [hlength] at hloop
          refine ih ⟨fun key score hkey => ?_, fun henroll key hkey => ?_⟩ hloop
          · by_cases heq : key = toAsciiLowercase w.wallet
            · subst heq
              rw [Function.update_self] at hkey
              exact ⟨before.length, w, s, hlast, rfl, Option.some.inj hkey, publicScore_some hscore⟩
            · rw [Function.update_of_ne heq] at hkey
              exact (h.witnessed key score hkey).more w
          · by_cases heq : key = toAsciiLowercase w.wallet
            · subst heq
              exact ⟨_, Function.update_self ..⟩
            · rw [regLookup_concat, if_neg (Ne.symm heq)] at hkey
              rw [Function.update_of_ne heq]
              exact h.present henroll key hkey
      | none =>
          dsimp only at hloop
          rw [hlength] at hloop
          refine ih ⟨fun key score hkey => (h.witnessed key score hkey).more w,
            fun henroll key hkey => ?_⟩ hloop
          rw [regLookup_concat] at hkey
          split at hkey
          · rcases publicScore_none hscore with hyes | hno
            · rw [henroll] at hyes
              cases hyes
            · rw [hno] at hkey
              cases hkey
          · exact h.present henroll key hkey

/-- A file that is not challenged, row by row. -/
theorem evaluate_ok {published : String → Option (Word 128)}
    {policyFor : Nat → String → ChallengePolicy} {rows : List (String × Word 128)} : ∀ {n : Nat},
    evaluateBatchWithPolicy published policyFor n rows = .ok → ∀ i wallet score,
      rows[i]? = some (wallet, score) →
      (∃ p, published (toAsciiLowercase wallet) = some p
        ∧ Consistent (policyFor (n + i) wallet) score p)
        ∨ published (toAsciiLowercase wallet) = none ∧ policyFor (n + i) wallet = .inflateOnly := by
  induction rows with
  | nil => exact fun _ i wallet score hi => by simp at hi
  | cons row rows ih =>
      intro n h i wallet score hi
      obtain ⟨wallet', score'⟩ := row
      -- the first row passes, and the others are evaluated after it
      have hsplit : ((∃ p, published (toAsciiLowercase wallet') = some p
            ∧ Consistent (policyFor n wallet') score' p)
          ∨ published (toAsciiLowercase wallet') = none ∧ policyFor n wallet' = .inflateOnly)
          ∧ evaluateBatchWithPolicy published policyFor (n + 1) rows = .ok := by
        rw [evaluateBatchWithPolicy] at h
        cases hpublic : published (toAsciiLowercase wallet') with
        | some p =>
            cases hpolicy : policyFor n wallet' with
            | inflateOnly =>
                simp only [hpublic, hpolicy] at h
                split at h
                · cases h
                · rename_i hle
                  exact ⟨.inl ⟨p, rfl, not_lt.mp hle⟩, h⟩
            | strictEquality =>
                simp only [hpublic, hpolicy] at h
                split at h
                · cases h
                · rename_i heq
                  exact ⟨.inl ⟨p, rfl, not_not.mp heq⟩, h⟩
        | none =>
            cases hpolicy : policyFor n wallet' with
            | inflateOnly =>
                simp only [hpublic, hpolicy] at h
                exact ⟨.inr ⟨rfl, rfl⟩, h⟩
            | strictEquality =>
                simp only [hpublic, hpolicy] at h
                cases h
      cases i with
      | zero =>
          cases hi
          exact hsplit.1
      | succ i =>
          rw [Nat.add_succ, ← Nat.succ_add]
          exact ih hsplit.2 i wallet score hi

theorem conclude_ok {decision : ChallengeDecision} (h : conclude a decision = .ok .ok) :
    decision = .ok := by
  cases decision with
  | ok => rfl
  | challenge reason worker proposed published policy =>
      obtain ⟨_, -, h⟩ := bind_ok.mp h
      cases h

theorem inflateOnly_iff {batched : Bool} {onChain : Option Bool} :
    policyForWorker epochId batched onChain = .inflateOnly →
      isEnrollmentEpoch epochId = false ∧ batched = true := by
  unfold policyForWorker
  intro h
  split at h
  · cases h
  · rename_i henroll
    split at h
    · cases h
    · rename_i hbatched
      exact ⟨Bool.eq_false_iff.mpr henroll, by simpa using hbatched⟩

/-- **An approved file is consistent with what was witnessed**, row by row. -/
theorem approved_rows {proposed : List (String × Word 128)} {batch : BatchView}
    (hbatch : a.getBatch = .ok batch) (hstatus : batch.status = .proposed)
    (h : reviewEpoch a epochId registry proposed = .ok .ok) {i : Nat} {wallet : String}
    {score : Word 128} (hi : proposed[i]? = some (wallet, score)) :
    ∃ p, Witnessed a registry (toAsciiLowercase wallet) p
      ∧ Consistent (rowPolicy a epochId registry i wallet) score p := by
  obtain ⟨batch', hget, h⟩ := bind_ok.mp h
  rw [hbatch] at hget
  cases hget
  rw [if_neg fun hclosed => hclosed.1 hstatus] at h
  obtain ⟨published, hfetch, h⟩ := bind_ok.mp h
  have hfetched : Fetched a epochId registry published :=
    @fetched_loop a epochId registry [] _ _
      ⟨fun key score hkey => (by cases hkey), fun _ key hkey => by cases hkey⟩ hfetch
  rcases evaluate_ok (conclude_ok h) i wallet score hi with ⟨p, hpublic, hconsistent⟩
    | ⟨hnone, hpolicy⟩
  · rw [Nat.zero_add] at hconsistent
    exact ⟨p, hfetched.witnessed _ p hpublic, hconsistent⟩
  · -- a worker that is held to the inflate rule was bound and batched, so its score was fetched
    rw [Nat.zero_add, rowPolicy] at hpolicy
    obtain ⟨henroll, hbatched⟩ := inflateOnly_iff hpolicy
    have hlookup : regLookup registry (toAsciiLowercase wallet) = some true := by
      cases hlook : regLookup registry (toAsciiLowercase wallet) with
      | none =>
          rw [hlook] at hbatched
          cases hbatched
      | some flag =>
          rw [hlook] at hbatched
          exact congrArg some hbatched
    obtain ⟨p, hpublic⟩ := hfetched.present henroll _ hlookup
    rw [hnone] at hpublic
    cases hpublic

theorem fetchPublic_getBatch (answer : Except ChainError BatchView) (workers : List WorkerEntry) :
    ∀ (n : Nat) (published : String → Option (Word 128)),
      fetchPublic { a with getBatch := answer } epochId n published workers
        = fetchPublic a epochId n published workers := by
  induction workers with
  | nil => exact fun n published => rfl
  | cons w workers ih =>
      intro n published
      rw [fetchPublic, fetchPublic]
      simp only [ih]

/-- **The root on chain has no part in the decision.** -/
theorem reviewEpoch_root {batch : BatchView} (hbatch : a.getBatch = .ok batch) (root : Bytes32)
    (proposed : List (String × Word 128)) :
    reviewEpoch { a with getBatch := .ok { batch with merkleRoot := root } } epochId
      registry proposed
      = reviewEpoch a epochId registry proposed := by
  rw [reviewEpoch, reviewEpoch, hbatch, fetchPublic_getBatch]
  rfl

theorem row_of_leaf {proposed : List (String × Word 128)} {leaves : List Leaf}
    (h : proposed.mapM leafFromHex = .ok leaves) {leaf : Leaf} (hleaf : leaf ∈ leaves) :
    ∃ (i : Nat) (wallet : String), proposed[i]? = some (wallet, leaf.cumulativeScore)
      ∧ parseAddress wallet = .ok leaf.wallet := by
  obtain ⟨⟨wallet, score⟩, hrow, hread⟩ := exists_of_forall₂ (mapM_ok.mp h) leaf hleaf
  obtain ⟨i, hi⟩ := List.mem_iff_getElem?.mp hrow
  obtain ⟨address, haddress, hread⟩ := bind_ok.mp hread
  cases hread
  exact ⟨i, wallet, hi, haddress⟩

end

/-- **What the approval of a proposed epoch means.** The root on chain has no part in it; every
score of the file is consistent with the score that was witnessed for its bound worker; and where
the root on chain is the root of the file, the same is true of whatever can be claimed under it. -/
theorem approval (a : Answers) (epochId : Word 64) (registry : List WorkerEntry)
    (proposed : List (String × Word 128)) :
    (∀ batch root, a.getBatch = .ok batch →
        reviewEpoch { a with getBatch := .ok { batch with merkleRoot := root } } epochId
          registry proposed
          = reviewEpoch a epochId registry proposed)
      ∧ ∀ batch, a.getBatch = .ok batch → batch.status = .proposed →
        reviewEpoch a epochId registry proposed = .ok .ok →
        (∀ i wallet score, proposed[i]? = some (wallet, score) →
          ∃ p, Witnessed a registry (toAsciiLowercase wallet) p
            ∧ Consistent (rowPolicy a epochId registry i wallet) score p)
        ∧ ∀ leaves, proposed.mapM leafFromHex = .ok leaves → leaves ≠ [] →
          batch.merkleRoot = (computeTree leaves).root → ∀ worker score proof,
          NoCollision encodeLeaf leaves (claimBytes worker score) proof →
          MerkleProof.verify proof batch.merkleRoot (Settlement.leafOf worker score) = true →
          ∃ i wallet s p, proposed[i]? = some (wallet, s) ∧ parseAddress wallet = .ok worker
            ∧ s.val = score.val ∧ Witnessed a registry (toAsciiLowercase wallet) p
            ∧ Consistent (rowPolicy a epochId registry i wallet) s p := by
  refine ⟨fun batch root hbatch => reviewEpoch_root hbatch root proposed,
    fun batch hbatch hstatus h =>
    ⟨fun i wallet score hi => approved_rows hbatch hstatus h hi, ?_⟩⟩
  intro leaves hleaves hne hroot worker score proof hfree hverify
  rw [hroot, leafOf_eq] at hverify
  obtain ⟨leaf, hleaf, heq⟩ := mem_of_verify hne hfree hverify
  obtain ⟨hwallet, hscore⟩ := encodeLeaf_inj heq
  obtain ⟨i, wallet, hi, haddress⟩ := row_of_leaf hleaves hleaf
  obtain ⟨p, hwitnessed, hconsistent⟩ := approved_rows hbatch hstatus h hi
  exact ⟨i, wallet, leaf.cumulativeScore, p, hi, hwallet ▸ haddress, hscore,
    hwitnessed, hconsistent⟩

/-! The worker 5 has scored 7. -/

def sampleWallet : String := "0x0000000000000000000000000000000000000005"

def sampleAnswers (root : Bytes32) : Answers where
  getBatch := .ok ⟨root, .proposed⟩
  hasBaseline := fun _ _ => .ok none
  fetchUserFresh := fun _ _ => .ok 7
  fetchUser := fun _ _ => .ok 7
  fileChallenge := fun _ => .ok ()

def sampleRegistry : List WorkerEntry := [⟨sampleWallet, "GOAT-alice", true⟩]

theorem sampleAnswers_eq (root : Bytes32) : sampleAnswers root
    = { sampleAnswers 0 with
        getBatch := .ok { (⟨0, .proposed⟩ : BatchView) with merkleRoot := root } } :=
  rfl

theorem sample_approved (root : Bytes32) :
    reviewEpoch (sampleAnswers root) 1 sampleRegistry [(sampleWallet, 7)] = .ok .ok := by
  have hzero : reviewEpoch (sampleAnswers 0) 1 sampleRegistry [(sampleWallet, 7)] = .ok .ok :=
    ok_of_toOption (by decide +kernel)
  rw [sampleAnswers_eq, reviewEpoch_root rfl, hzero]

theorem sample_witnessed {root : Bytes32} {key : String} {p : Word 128}
    (h : Witnessed (sampleAnswers root) sampleRegistry key p) : p = scoreOf 7 := by
  obtain ⟨n, w, s, -, -, hp, hs | ⟨-, hs⟩⟩ := h
  · cases hs
    exact hp.symm
  · cases hs
    exact hp.symm

/-- The file of the worker 5 at its score, under the root of that file. -/
theorem approval_sample :
    reviewEpoch (sampleAnswers (computeTree [⟨5, 7⟩]).root) 1 sampleRegistry [(sampleWallet, 7)]
    = .ok .ok
      ∧ ∃ p, Witnessed (sampleAnswers (computeTree [⟨5, 7⟩]).root) sampleRegistry
          (toAsciiLowercase sampleWallet) p
        ∧ Consistent
          (rowPolicy (sampleAnswers (computeTree [⟨5, 7⟩]).root) 1 sampleRegistry 0 sampleWallet)
          7 p :=
  ⟨sample_approved _, ((approval (sampleAnswers (computeTree [⟨5, 7⟩]).root) 1 sampleRegistry
    [(sampleWallet, 7)]).2 ⟨_, .proposed⟩ rfl rfl (sample_approved _)).1 0 sampleWallet 7 rfl⟩

/-- The file is approved under any two roots; and under one of them the worker that has scored 7 can
claim for 1000. -/
theorem inflated_root_approved :
    (∃ root root', root ≠ root'
        ∧ reviewEpoch (sampleAnswers root) 1 sampleRegistry [(sampleWallet, 7)] = .ok .ok
        ∧ reviewEpoch (sampleAnswers root') 1 sampleRegistry [(sampleWallet, 7)] = .ok .ok)
      ∧ reviewEpoch (sampleAnswers (leafHash ⟨5, 1000⟩)) 1 sampleRegistry [(sampleWallet, 7)]
        = .ok .ok
      ∧ MerkleProof.verify [] (leafHash ⟨5, 1000⟩) (Settlement.leafOf 5 1000) = true
      ∧ ∀ n p, Witnessed (sampleAnswers (leafHash ⟨5, 1000⟩)) sampleRegistry
          (toAsciiLowercase sampleWallet) p →
        ¬ Consistent
          (rowPolicy (sampleAnswers (leafHash ⟨5, 1000⟩)) 1 sampleRegistry n sampleWallet)
          1000 p := by
  refine ⟨⟨1, 2, by decide, sample_approved _, sample_approved _⟩, sample_approved _, ?_, ?_⟩
  · rw [leafHash_eq]
    exact MerkleProof.verify_nil _
  · intro n p hwitnessed
    rw [sample_witnessed hwitnessed]
    cases rowPolicy (sampleAnswers (leafHash ⟨5, 1000⟩)) 1 sampleRegistry n sampleWallet with
    | inflateOnly =>
        rw [Consistent]
        decide
    | strictEquality =>
        rw [Consistent]
        decide

end GoatCoin.Attestor
