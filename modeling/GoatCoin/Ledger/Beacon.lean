/-
# `GoatCoin.Ledger.Beacon` — `beacon.rs`: the epoch's commit-reveal beacon and its anchoring

A participant commits to the digest of two strings put together, and later reveals the two:

    commitment   H(r ‖ salt)                                     no lengths
    seed         H(epoch ‖ |r| ‖ r ‖ |salt| ‖ salt ‖ …)          lengths, in the order of the participants' names

The commitment fixes what was put together.  It fixes neither where the two strings meet nor that
they are revealed at all: the seed is one and the same in all runs where each participant divides
its string at one place and the same participants reveal.  A strict finalization has all of them.
-/
import GoatCoin.Core.Sha3Eval
import GoatCoin.Lib.Runs
import GoatCoin.Lib.SortedMap
import Mathlib.Data.String.Basic
import Mathlib.Tactic

namespace GoatCoin.Ledger

open Wire

inductive Phase where
  | commit
  | reveal
  | final
deriving DecidableEq

inductive BeaconError where
  | wrongPhase
  | unknownCommitter
  | bindingFailed
  | missingReveals
  | alreadyCommitted
  | unsupportedMode
deriving DecidableEq

/-- How the beacon is made. -/
inductive BeaconMode where
  | commitReveal
  | delaySealed (delayIterations : Nat)
  | thresholdVrf
deriving DecidableEq

inductive NonRevealerPolicy where
  | strict
  | subsetWithSlashing
deriving DecidableEq

def commitment (r salt : List UInt8) : Bytes 32 := sha3_256 (r ++ salt)

/-! ## The delay -/

/-- The proof of a delay. -/
structure DelayProof where
  input : Bytes 32
  iterations : Nat
  output : Bytes 32

/-- One digest after another. -/
def delayOutput (x : Bytes 32) : Nat → Bytes 32
  | 0 => x
  | n + 1 => delayOutput (sha3_256 x.toList) n

def delayEval (input : Bytes 32) (iterations : Nat) : DelayProof :=
  ⟨input, iterations, delayOutput input iterations⟩

structure SealedBeacon where
  value : Bytes 32
  proof : DelayProof
  nonRevealers : List String

/-! ## The beacon -/

/-- The beacon of an epoch. -/
structure EpochBeacon where
  epoch : Nat
  phase : Phase
  commits : SortedMap String (Bytes 32)
  reveals : SortedMap String (List UInt8 × List UInt8)
  value : Option (Bytes 32)

namespace EpochBeacon

def new (epoch : Nat) : EpochBeacon := ⟨epoch, .commit, .empty, .empty, none⟩

def commit (b : EpochBeacon) (participant : String) (c : Bytes 32) :
    Except BeaconError EpochBeacon :=
  if b.phase ≠ .commit then .error .wrongPhase
  else match b.commits.get? participant with
    | some _ => .error .alreadyCommitted
    | none => .ok { b with commits := b.commits.insert participant c }

/-- The commits are closed. -/
def closeCommit (b : EpochBeacon) : Except BeaconError EpochBeacon :=
  if b.phase ≠ .commit then .error .wrongPhase else .ok { b with phase := .reveal }

/-- The value of a commitment. -/
def reveal (b : EpochBeacon) (participant : String) (r salt : List UInt8) :
    Except BeaconError EpochBeacon :=
  if b.phase ≠ .reveal then .error .wrongPhase
  else match b.commits.get? participant with
    | none => .error .unknownCommitter
    | some c =>
        if commitment r salt ≠ c then .error .bindingFailed
        else .ok { b with reveals := b.reveals.insert participant (r, salt) }

/-- One reveal in the seed's text. -/
def revealBytes (e : List UInt8 × List UInt8) : List UInt8 :=
  toBE 4 e.1.length ++ e.1 ++ toBE 4 e.2.length ++ e.2

def combineReveals (b : EpochBeacon) : Bytes 32 :=
  sha3_256 (toBE 8 b.epoch ++ b.reveals.values.flatMap revealBytes)

/-- Who committed and did not reveal. -/
def nonRevealers (b : EpochBeacon) : List String :=
  (b.commits.entries.map Prod.fst).filter fun p => (b.reveals.get? p).isNone

def finalize (b : EpochBeacon) : Except BeaconError (Bytes 32 × EpochBeacon) :=
  if b.phase ≠ .reveal then .error .wrongPhase
  else if b.reveals.entries.length ≠ b.commits.entries.length then .error .missingReveals
  else .ok (b.combineReveals, { b with value := some b.combineReveals, phase := .final })

def finalizeSealed (b : EpochBeacon) (delayIterations : Nat) (policy : NonRevealerPolicy) :
    Except BeaconError (SealedBeacon × EpochBeacon) :=
  if b.phase ≠ .reveal then .error .wrongPhase
  else if b.nonRevealers ≠ [] ∧ policy = .strict then .error .missingReveals
  else
    let proof := delayEval b.combineReveals delayIterations
    .ok (⟨proof.output, proof, b.nonRevealers⟩,
      { b with value := some proof.output, phase := .final })

def finalizeFor (b : EpochBeacon) (mode : BeaconMode) (policy : NonRevealerPolicy) :
    Except BeaconError (SealedBeacon × EpochBeacon) :=
  match mode with
  | .commitReveal => b.finalizeSealed 0 policy
  | .delaySealed delayIterations => b.finalizeSealed delayIterations policy
  | .thresholdVrf => .error .unsupportedMode

end EpochBeacon

/-! ## Anchoring -/

/-- The ledger's beacons, and how it finalizes them. -/
structure Anchors where
  beaconMode : BeaconMode
  nonRevealerPolicy : NonRevealerPolicy
  anchoredBeacons : SortedMap Nat SealedBeacon

namespace Anchors

def setBeaconMode (a : Anchors) (mode : BeaconMode) (policy : NonRevealerPolicy) : Anchors :=
  { a with beaconMode := mode, nonRevealerPolicy := policy }

def anchorBeacon (a : Anchors) (b : EpochBeacon) : Except BeaconError (Anchors × EpochBeacon) :=
  match b.finalizeFor a.beaconMode a.nonRevealerPolicy with
  | .error e => .error e
  | .ok (sealedBeacon, b) =>
      .ok ({ a with anchoredBeacons := a.anchoredBeacons.insert b.epoch sealedBeacon }, b)

def beaconValue (a : Anchors) (epoch : Nat) : Option (Bytes 32) :=
  (a.anchoredBeacons.get? epoch).map SealedBeacon.value

end Anchors

/-! ## Runs -/

/-- The calls of the beacon. -/
inductive BeaconCall where
  | commit (participant : String) (c : Bytes 32)
  | closeCommit
  | reveal (participant : String) (r salt : List UInt8)
  | finalize
  | finalizeFor (mode : BeaconMode) (policy : NonRevealerPolicy)

/-- A call that fails changes nothing. -/
def EpochBeacon.step (b : EpochBeacon) (k : BeaconCall) : EpochBeacon :=
  match k with
  | .commit participant c => (b.commit participant c).toOption.getD b
  | .closeCommit => b.closeCommit.toOption.getD b
  | .reveal participant r salt => (b.reveal participant r salt).toOption.getD b
  | .finalize => (b.finalize.toOption.map Prod.snd).getD b
  | .finalizeFor mode policy => ((b.finalizeFor mode policy).toOption.map Prod.snd).getD b

def EpochBeacon.run (b : EpochBeacon) (ks : List BeaconCall) : EpochBeacon := ks.foldl step b

theorem run_pair (b : EpochBeacon) (k l : BeaconCall) : b.run [k, l] = (b.run [k]).step l := rfl

/-- The commitments are closed, and every reveal that stands was made and matches. -/
structure Bound (b₀ : EpochBeacon) (made : Set BeaconCall) (b : EpochBeacon) : Prop where
  epoch : b.epoch = b₀.epoch
  phase : b.phase ≠ .commit
  commits : b.commits = b₀.commits
  reveals : ∀ p r salt, b.reveals.get? p = some (r, salt) →
    b₀.commits.get? p = some (commitment r salt) ∧ .reveal p r salt ∈ made

variable {b b' b₀ : EpochBeacon} {p : String} {r salt : List UInt8} {made : Set BeaconCall}

theorem reveal_ok (h : b.reveal p r salt = .ok b') :
    b.commits.get? p = some (commitment r salt)
    ∧ b' = { b with reveals := b.reveals.insert p (r, salt) } := by
  unfold EpochBeacon.reveal at h
  split at h
  · cases h
  · split at h
    · cases h
    · rename_i c hc
      split at h
      · cases h
      · rename_i hbinding
        cases h
        exact ⟨by rw [hc, Decidable.of_not_not hbinding], rfl⟩

theorem finalizeSealed_ok {n : Nat} {policy : NonRevealerPolicy} {s : SealedBeacon}
    (h : b.finalizeSealed n policy = .ok (s, b')) :
    s = ⟨delayOutput b.combineReveals n, delayEval b.combineReveals n, b.nonRevealers⟩
      ∧ b' = { b with value := some (delayOutput b.combineReveals n), phase := .final }
      ∧ (policy = .strict → b.nonRevealers = []) := by
  unfold EpochBeacon.finalizeSealed at h
  split at h
  · cases h
  · split at h
    · cases h
    · rename_i hmissing
      cases h
      refine ⟨rfl, rfl, fun hstrict => ?_⟩
      by_contra hne
      exact hmissing ⟨hne, hstrict⟩

theorem finalizeFor_ok {mode : BeaconMode} {policy : NonRevealerPolicy} {s : SealedBeacon}
    (h : b.finalizeFor mode policy = .ok (s, b')) :
    ∃ v, b' = { b with value := v, phase := .final } := by
  cases mode with
  | commitReveal => exact ⟨_, (finalizeSealed_ok h).2.1⟩
  | delaySealed n => exact ⟨_, (finalizeSealed_ok h).2.1⟩
  | thresholdVrf => cases h

/-- **One call keeps the commitments closed and the reveals bound.** -/
theorem bound_step (h : Bound b₀ made b) {k : BeaconCall} (hk : k ∈ made) :
    Bound b₀ made (b.step k) := by
  cases k with
  | commit p c =>
      have hsame : b.step (.commit p c) = b := by
        unfold EpochBeacon.step EpochBeacon.commit
        dsimp only
        rw [if_pos h.phase]
        rfl
      rw [hsame]
      exact h
  | closeCommit =>
      have hsame : b.step .closeCommit = b := by
        unfold EpochBeacon.step EpochBeacon.closeCommit
        dsimp only
        rw [if_pos h.phase]
        rfl
      rw [hsame]
      exact h
  | reveal p r salt =>
      unfold EpochBeacon.step
      dsimp only
      cases hreveal : b.reveal p r salt with
      | error e => exact h
      | ok b' =>
          obtain ⟨hcommit, rfl⟩ := reveal_ok hreveal
          refine ⟨h.epoch, h.phase, h.commits, ?_⟩
          intro q r' salt' hq
          have hget : (b.reveals.insert p (r, salt)).get? q = some (r', salt') := hq
          rw [SortedMap.get?_insert] at hget
          split at hget
          · rename_i heq
            cases hget
            subst heq
            exact ⟨by rw [← h.commits, hcommit], hk⟩
          · exact h.reveals q r' salt' hget
  | finalize =>
      unfold EpochBeacon.step EpochBeacon.finalize
      dsimp only
      split
      · exact h
      · split
        · exact h
        · exact ⟨h.epoch, nofun, h.commits, h.reveals⟩
  | finalizeFor mode policy =>
      unfold EpochBeacon.step
      dsimp only
      cases hfinal : b.finalizeFor mode policy with
      | error e => exact h
      | ok sb =>
          obtain ⟨s, b'⟩ := sb
          obtain ⟨v, rfl⟩ := finalizeFor_ok hfinal
          exact ⟨h.epoch, nofun, h.commits, h.reveals⟩

theorem bound_run (hclosed : b₀.phase = .reveal) (hfresh : b₀.reveals = .empty)
    {ks : List BeaconCall} (hmade : ∀ k ∈ ks, k ∈ made) : Bound b₀ made (b₀.run ks) := by
  have hall : ∀ (ls : List BeaconCall) (b : EpochBeacon), (∀ k ∈ ls, k ∈ made) → Bound b₀ made b →
      Bound b₀ made (ls.foldl EpochBeacon.step b) := by
    intro ls
    induction ls with
    | nil => intro b _ hb; exact hb
    | cons k ls ih =>
        intro b hls hb
        exact ih _ (fun x hx => hls x (List.mem_cons_of_mem _ hx))
          (bound_step hb (hls k List.mem_cons_self))
  refine hall ks b₀ hmade ⟨rfl, by rw [hclosed]; nofun, rfl, ?_⟩
  intro p r salt hget
  rw [hfresh, SortedMap.get?_empty] at hget
  cases hget

theorem revealed_iff (h : Bound b₀ made b) (p : String) :
    (b.reveals.get? p).isSome = true
    ↔ p ∈ b₀.commits.entries.map Prod.fst ∧ p ∉ b.nonRevealers := by
  unfold EpochBeacon.nonRevealers
  rw [List.mem_filter, h.commits]
  cases hget : b.reveals.get? p with
  | none =>
      constructor
      · intro hsome
        cases hsome
      · rintro ⟨hmem, hnot⟩
        exact absurd ⟨hmem, rfl⟩ hnot
  | some e =>
      obtain ⟨r, salt⟩ := e
      have hcommit := (h.reveals p r salt hget).1
      constructor
      · intro _
        refine ⟨?_, fun hboth => by cases hboth.2⟩
        exact List.mem_map.mpr ⟨_, (SortedMap.mem_entries_iff _ _ _).mpr hcommit, rfl⟩
      · intro _
        rfl

/-! ## One seed -/

/-- What a participant put together in the given calls. -/
def opened (made : Set BeaconCall) (p : String) : Set (List UInt8) :=
  {m | ∃ r salt, .reveal p r salt ∈ made ∧ m = r ++ salt}

/-- **The same participants, each dividing its string at one place, reveal the same.** -/
theorem reveals_eq (h : Bound b₀ made b) (h' : Bound b₀ made b')
    (hsame : b.nonRevealers = b'.nonRevealers)
    (hsplit : ∀ p r salt r' salt', b.reveals.get? p = some (r, salt) →
      b'.reveals.get? p = some (r', salt') → r.length = r'.length)
    (hfree : ∀ p, Set.InjOn sha3_256 (opened made p)) : b.reveals = b'.reveals := by
  refine SortedMap.ext fun p => ?_
  have hrevealed : (b.reveals.get? p).isSome = true ↔ (b'.reveals.get? p).isSome = true := by
    rw [revealed_iff h p, revealed_iff h' p, hsame]
  cases hget : b.reveals.get? p with
  | none =>
      cases hget' : b'.reveals.get? p with
      | none => rfl
      | some e =>
          rw [hget, hget'] at hrevealed
          exact absurd (hrevealed.mpr rfl) Bool.false_ne_true
  | some e =>
      cases hget' : b'.reveals.get? p with
      | none =>
          rw [hget, hget'] at hrevealed
          exact absurd (hrevealed.mp rfl) Bool.false_ne_true
      | some e' =>
          obtain ⟨r, salt⟩ := e
          obtain ⟨r', salt'⟩ := e'
          obtain ⟨hcommit, hmade⟩ := h.reveals p r salt hget
          obtain ⟨hcommit', hmade'⟩ := h'.reveals p r' salt' hget'
          rw [hcommit] at hcommit'
          have hdigest : sha3_256 (r ++ salt) = sha3_256 (r' ++ salt') := Option.some.inj hcommit'
          have hwhole := hfree p ⟨r, salt, hmade, rfl⟩ ⟨r', salt', hmade', rfl⟩ hdigest
          obtain ⟨hr, hsalt⟩ := List.append_inj hwhole (hsplit p r salt r' salt' hget hget')
          rw [hr, hsalt]

theorem anchorBeacon_ok {a : Anchors} {c : Anchors × EpochBeacon}
    (hmode : a.beaconMode = .commitReveal) (h : a.anchorBeacon b = .ok c) :
    c.1.beaconValue b.epoch = some b.combineReveals
    ∧ (a.nonRevealerPolicy = .strict → b.nonRevealers = []) := by
  unfold Anchors.anchorBeacon at h
  rw [hmode] at h
  cases hfinal : b.finalizeFor .commitReveal a.nonRevealerPolicy with
  | error e =>
      rw [hfinal] at h
      cases h
  | ok sb =>
      obtain ⟨s, b'⟩ := sb
      rw [hfinal] at h
      cases h
      obtain ⟨rfl, rfl, hstrict⟩ := finalizeSealed_ok hfinal
      refine ⟨?_, hstrict⟩
      unfold Anchors.beaconValue
      dsimp only
      rw [SortedMap.get?_insert_self]
      rfl

/-- **The anchored value is the same in every run** from the same closed commitments. -/
theorem anchored_value_eq {b : EpochBeacon} (hclosed : b.phase = .reveal)
    (hfresh : b.reveals = .empty)
    {a a' : Anchors} (hmode : a.beaconMode = .commitReveal) (hmode' : a'.beaconMode = .commitReveal)
    {ks ks' : List BeaconCall} {c c' : Anchors × EpochBeacon}
    (h : a.anchorBeacon (b.run ks) = .ok c) (h' : a'.anchorBeacon (b.run ks') = .ok c')
    (hsame : (a.nonRevealerPolicy = .strict ∧ a'.nonRevealerPolicy = .strict)
      ∨ (b.run ks).nonRevealers = (b.run ks').nonRevealers)
    (hsplit : ∀ p r salt r' salt', (b.run ks).reveals.get? p = some (r, salt) →
      (b.run ks').reveals.get? p = some (r', salt') → r.length = r'.length)
    (hfree : ∀ p, Set.InjOn sha3_256 (opened {k | k ∈ ks ∨ k ∈ ks'} p)) :
    ∃ v, c.1.beaconValue b.epoch = some v ∧ c'.1.beaconValue b.epoch = some v := by
  have hbound : Bound b {k | k ∈ ks ∨ k ∈ ks'} (b.run ks) :=
    bound_run hclosed hfresh fun k hk => .inl hk
  have hbound' : Bound b {k | k ∈ ks ∨ k ∈ ks'} (b.run ks') :=
    bound_run hclosed hfresh fun k hk => .inr hk
  obtain ⟨hvalue, hstrict⟩ := anchorBeacon_ok hmode h
  obtain ⟨hvalue', hstrict'⟩ := anchorBeacon_ok hmode' h'
  have hmissing : (b.run ks).nonRevealers = (b.run ks').nonRevealers := by
    rcases hsame with ⟨hs, hs'⟩ | hsame
    · rw [hstrict hs, hstrict' hs']
    · exact hsame
  have hreveals := reveals_eq hbound hbound' hmissing hsplit hfree
  have hseed : (b.run ks).combineReveals = (b.run ks').combineReveals := by
    unfold EpochBeacon.combineReveals
    rw [hreveals, hbound.epoch, hbound'.epoch]
  rw [hbound.epoch] at hvalue
  rw [hbound'.epoch, ← hseed] at hvalue'
  exact ⟨_, hvalue, hvalue'⟩

/-- **The commitment does not fix where the two strings meet**: a reveal can be made again, divided
elsewhere. -/
theorem reveal_again {r' salt' : List UInt8} (hphase : b.phase = .reveal)
    (hcommit : b.commits.get? p = some (commitment r salt)) (hwhole : r' ++ salt' = r ++ salt) :
    b.reveal p r' salt' = .ok { b with reveals := b.reveals.insert p (r', salt') } := by
  unfold EpochBeacon.reveal
  rw [if_neg (not_not_intro hphase), hcommit]
  dsimp only
  rw [if_neg (not_not_intro (by rw [commitment, commitment, hwhole]))]

theorem step_reveal (hphase : b.phase = .reveal)
    (hcommit : b.commits.get? p = some (commitment r salt)) :
    b.step (.reveal p r salt) = { b with reveals := b.reveals.insert p (r, salt) } := by
  unfold EpochBeacon.step
  dsimp only
  rw [reveal_again hphase hcommit rfl]
  rfl

/-! ## Samples -/

def sampleBeacon : EpochBeacon :=
  ⟨7, .reveal, SortedMap.empty.insert "a" (commitment [1] [2]), .empty, none⟩

def sampleAnchors (policy : NonRevealerPolicy) : Anchors := ⟨.commitReveal, policy, .empty⟩

/-- The sample with its one reveal. -/
def sampleRevealed : EpochBeacon :=
  ⟨7, .reveal, sampleBeacon.commits, SortedMap.empty.insert "a" ([1], [2]), none⟩

theorem sampleBeacon_once : sampleBeacon.run [.reveal "a" [1] [2]] = sampleRevealed := by
  rw [EpochBeacon.run, List.foldl_cons, List.foldl_nil,
    step_reveal rfl (SortedMap.get?_insert_self _ _ _)]
  rfl

theorem sampleAnchors_complete (policy : NonRevealerPolicy) (hphase : b.phase = .reveal)
    (hall : ∀ p c, b.commits.get? p = some c → b.reveals.get? p ≠ none) :
    ∃ c, (sampleAnchors policy).anchorBeacon b = .ok c := by
  have hnone : b.nonRevealers = [] := by
    unfold EpochBeacon.nonRevealers
    rw [List.filter_eq_nil_iff]
    intro p hp hmissing
    obtain ⟨⟨p, c⟩, hentry, rfl⟩ := List.mem_map.mp hp
    exact hall p c ((SortedMap.mem_entries_iff _ _ _).mp hentry)
      (Option.isNone_iff_eq_none.mp hmissing)
  have hfinal : ∃ sb, b.finalizeSealed 0 policy = .ok sb := by
    unfold EpochBeacon.finalizeSealed
    rw [if_neg (not_not_intro hphase), if_neg fun hmissing => hmissing.1 hnone]
    exact ⟨_, rfl⟩
  obtain ⟨⟨s, b'⟩, hsb⟩ := hfinal
  unfold Anchors.anchorBeacon sampleAnchors
  dsimp only
  rw [show b.finalizeFor .commitReveal policy = .ok (s, b') from hsb]
  exact ⟨_, rfl⟩

theorem sampleRevealed_anchors (policy : NonRevealerPolicy) :
    ∃ c, (sampleAnchors policy).anchorBeacon sampleRevealed = .ok c := by
  refine sampleAnchors_complete policy rfl fun p c hcommit hmissing => ?_
  rw [sampleRevealed, SortedMap.get?_insert] at hmissing
  rw [sampleRevealed, sampleBeacon, SortedMap.get?_insert] at hcommit
  split at hmissing
  · cases hmissing
  · rename_i hother
    rw [if_neg hother] at hcommit
    cases hcommit

theorem opened_injOn {w : List UInt8}
    (h : ∀ r salt, .reveal p r salt ∈ made → r ++ salt = w) :
    Set.InjOn sha3_256 (opened made p) := by
  rintro m ⟨r, salt, hmade, rfl⟩ m' ⟨r', salt', hmade', rfl⟩ -
  rw [h r salt hmade, h r' salt' hmade']

/-- Two have committed. -/
def samplePair : EpochBeacon :=
  ⟨7, .reveal, (SortedMap.empty.insert "a" (commitment [1] [2])).insert "b" (commitment [3] [4]),
    .empty, none⟩

/-- And both have revealed. -/
def samplePairRevealed : EpochBeacon :=
  { samplePair with reveals := (SortedMap.empty.insert "a" ([1], [2])).insert "b" ([3], [4]) }

theorem samplePair_first : samplePair.commits.get? "a" = some (commitment [1] [2]) := by
  rw [samplePair, SortedMap.get?_insert_of_ne _ (by decide), SortedMap.get?_insert_self]

theorem samplePair_second : samplePair.commits.get? "b" = some (commitment [3] [4]) :=
  SortedMap.get?_insert_self _ _ _

theorem samplePair_forth :
    samplePair.run [.reveal "a" [1] [2], .reveal "b" [3] [4]] = samplePairRevealed := by
  have hfirst : samplePair.run [.reveal "a" [1] [2]]
      = { samplePair with reveals := SortedMap.empty.insert "a" ([1], [2]) } :=
    step_reveal rfl samplePair_first
  rw [run_pair, hfirst]
  exact step_reveal rfl samplePair_second

theorem samplePair_back :
    samplePair.run [.reveal "b" [3] [4], .reveal "a" [1] [2]] = samplePairRevealed := by
  have hsecond : samplePair.run [.reveal "b" [3] [4]]
      = { samplePair with reveals := SortedMap.empty.insert "b" ([3], [4]) } :=
    step_reveal rfl samplePair_second
  have hfirst :
    EpochBeacon.step { samplePair with reveals := SortedMap.empty.insert "b" ([3], [4]) }
      (.reveal "a" [1] [2]) = { samplePair with
        reveals := (SortedMap.empty.insert "b" ([3], [4])).insert "a" ([1], [2]) } :=
    step_reveal rfl samplePair_first
  rw [run_pair, hsecond, hfirst, samplePairRevealed]
  refine congrArg (EpochBeacon.mk _ _ _ · _) (SortedMap.ext fun p => ?_)
  simp only [SortedMap.get?_insert]
  split
  · rename_i hfirst
    rw [if_neg (by rw [hfirst]; decide)]
  · rfl

/-- Two reveal, in the one order and in the other. -/
theorem anchored_value_sample :
    ∃ v, (((sampleAnchors .strict).anchorBeacon
          (samplePair.run [.reveal "a" [1] [2], .reveal "b" [3] [4]])).toOption.bind
        fun c => c.1.beaconValue 7) = some v
      ∧ (((sampleAnchors .strict).anchorBeacon
          (samplePair.run [.reveal "b" [3] [4], .reveal "a" [1] [2]])).toOption.bind
        fun c => c.1.beaconValue 7) = some v := by
  obtain ⟨c, hc⟩ : ∃ c, (sampleAnchors .strict).anchorBeacon samplePairRevealed = .ok c := by
    refine sampleAnchors_complete _ rfl fun p c hcommit hmissing => ?_
    rw [samplePairRevealed, SortedMap.get?_insert] at hmissing
    rw [samplePairRevealed, samplePair, SortedMap.get?_insert] at hcommit
    split at hmissing
    · cases hmissing
    · rename_i hsecond
      rw [if_neg hsecond, SortedMap.get?_insert] at hcommit
      rw [SortedMap.get?_insert] at hmissing
      split at hmissing
      · cases hmissing
      · rename_i hfirst
        rw [if_neg hfirst] at hcommit
        cases hcommit
  have h := samplePair_forth ▸ hc
  have h' := samplePair_back ▸ hc
  obtain ⟨v, hv, hv'⟩ := anchored_value_eq rfl rfl rfl rfl h h' (.inl ⟨rfl, rfl⟩)
    (by
      intro p r salt r' salt' hget hget'
      rw [samplePair_forth] at hget
      rw [samplePair_back, hget] at hget'
      cases hget'
      rfl)
    fun p => opened_injOn (w := if p = "a" then [1, 2] else [3, 4]) fun r salt hmade => by
      simp only [Set.mem_ofPred_eq, List.mem_cons, BeaconCall.reveal.injEq, List.not_mem_nil,
        or_false] at hmade
      rcases hmade with (⟨rfl, rfl, rfl⟩ | ⟨rfl, rfl, rfl⟩) | ⟨rfl, rfl, rfl⟩
        | ⟨rfl, rfl, rfl⟩ <;> simp
  refine ⟨v, ?_, ?_⟩
  · rw [h]
    exact hv
  · rw [h']
    exact hv'

open Sha3Eval in
/-- **A reveal that is withheld gives another value**, where the revealed subset is enough. -/
theorem withheld_reveal_steers :
    ¬ ∀ (b : EpochBeacon) (a a' : Anchors) (ks ks' : List BeaconCall)
      (c c' : Anchors × EpochBeacon),
      b.phase = .reveal → b.reveals = .empty → a.beaconMode = .commitReveal →
      a'.beaconMode = .commitReveal →
      a.anchorBeacon (b.run ks) = .ok c → a'.anchorBeacon (b.run ks') = .ok c' →
      (∀ p, Set.InjOn sha3_256 (opened {k | k ∈ ks ∨ k ∈ ks'} p)) →
      c.1.beaconValue b.epoch = c'.1.beaconValue b.epoch := by
  intro h
  have hanchor :
    ∃ c, (sampleAnchors .subsetWithSlashing).anchorBeacon (sampleBeacon.run [.reveal "a" [1] [2]])
      = .ok c := by
    rw [sampleBeacon_once]
    exact sampleRevealed_anchors _
  have hanchor' : ∃ c, (sampleAnchors .subsetWithSlashing).anchorBeacon (sampleBeacon.run [])
    = .ok c := ⟨_, rfl⟩
  obtain ⟨c, hc⟩ := hanchor
  obtain ⟨c', hc'⟩ := hanchor'
  have hvalues :=
    h _ _ _ _ _ c c' rfl rfl rfl rfl hc hc' fun p =>
      opened_injOn (w := [1, 2]) (by simp +contextual)
  have hseed : (sampleBeacon.run [.reveal "a" [1] [2]]).combineReveals
      = sha3_256 ([] ++ (toBE 8 7 ++ [0, 0, 0, 1, 1, 0, 0, 0, 1, 2])) := by
    have htext :
      toBE 8 sampleRevealed.epoch ++ sampleRevealed.reveals.values.flatMap EpochBeacon.revealBytes
        = [] ++ (toBE 8 7 ++ [0, 0, 0, 1, 1, 0, 0, 0, 1, 2]) := rfl
    rw [sampleBeacon_once, EpochBeacon.combineReveals, htext]
  have hseed' : (sampleBeacon.run []).combineReveals = sha3_256 ([] ++ toBE 8 7) := by
    have htext :
      toBE 8 (sampleBeacon.run []).epoch ++ (sampleBeacon.run []).reveals.values.flatMap
      EpochBeacon.revealBytes
        = [] ++ toBE 8 7 := rfl
    rw [EpochBeacon.combineReveals, htext]
  have hsome : some (sampleBeacon.run [.reveal "a" [1] [2]]).combineReveals
    = some (sampleBeacon.run []).combineReveals := by
    rw [← (anchorBeacon_ok rfl hc).1, ← (anchorBeacon_ok rfl hc').1, sampleBeacon_once]
    exact hvalues
  have heq : (sha3_256 ([] ++ (toBE 8 7 ++ [0, 0, 0, 1, 1, 0, 0, 0, 1, 2]))).toList
      = (sha3_256 ([] ++ toBE 8 7)).toList := by
    rw [← hseed, ← hseed', Option.some.inj hsome]
  rw [sha3_256_eq_digestN (n := 0) rfl (by decide),
    sha3_256_eq_digestN (n := 0) rfl (by decide)] at heq
  revert heq
  decide +kernel

end GoatCoin.Ledger
