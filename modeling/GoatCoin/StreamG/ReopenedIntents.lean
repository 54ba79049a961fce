/-
# `GoatCoin.StreamG.ReopenedIntents` — an intent that was executed stays executed

Execution is recorded by the fold of a log, in the row of the intent, or by a sweep, in an attempt.
Two writers look at neither:

    quoteTx                    a new key, after the end of the last quote: the row of the intent is pending again
    recordBroadcastAccepted    a broadcast that a node has accepted: the intent of its attempt is submitted again

The comment at the first speaks of a quote that was never executed, and the code compares the clock
alone.  A run in which neither of the two meets an intent that was executed reopens none, but for a
log that was removed.
-/
import GoatCoin.StreamG.LiveQuotes

namespace GoatCoin.StreamG.Quotes

open Evm Rows Preflight
open Attestor (hex20)

/-! ## What the store says of an execution -/

/-- The store records that the intent was executed: in its row, or in an attempt for it. -/
def RecordsExecution (db : Db) (k : IntentRowId) : Prop :=
  (∃ i ∈ db.intents, i.id = k ∧ i.status = .executed) ∨ ∃ a ∈ db.attempts, a.intentId = k
    ∧ a.status = .confirmed

/-- Every attempt is for an intent that has a row. -/
def Quoted (db : Db) : Prop := ∀ a ∈ db.attempts, a.intentId ∈ db.intents.map (·.id)

variable {db db' : Db} {i : IntentRow}

theorem Quoted.congr (h : Quoted db)
    (hattempts : db'.attempts.map (·.intentId) = db.attempts.map (·.intentId))
    (hintents : ∀ id ∈ db.intents.map (·.id), id ∈ db'.intents.map (·.id)) : Quoted db' := by
  intro a ha
  have hmem : a.intentId ∈ db.attempts.map (·.intentId) := hattempts ▸ List.mem_map_of_mem ha
  obtain ⟨b, hb, hid⟩ := List.mem_map.mp hmem
  exact hintents _ (hid ▸ h b hb)

theorem quoted_ledger {w : Ledger} (h : Quoted w.db) {t : Transaction}
    (ht : ∀ intents, t ≠ .quotes intents) : Quoted (w.next t).db := by
  rcases next_touches w ht with htouches | ⟨hintents, a, hattempts, hmem, -⟩
  · exact h.congr htouches.intentIds fun id hid => restated_ids htouches.intents ▸ hid
  · intro b hb
    rw [hattempts] at hb
    rw [hintents]
    rcases List.mem_append.mp hb with hold | hnew
    · exact h b hold
    · rw [List.mem_singleton.mp hnew]
      exact hmem

theorem quoted_answer {d : Desk} (h : Quoted d.store.db) (i : Nat) (p : PreparedQuote) :
    Quoted (d.answer i p).store.db := by
  unfold Desk.answer commitQuote
  cases htx : quoteTx d.store p with
  | error e => exact h
  | ok result =>
      obtain ⟨s', outcome⟩ := result
      cases commits_of_ok htx with
      | fresh stores =>
          refine h.congr (congrArg _ stores.attempts) fun id hid => ?_
          cases stores.claims with
          | first new intents columns =>
              rw [intents, List.map_append]
              exact List.mem_append_left _ hid
          | again there ended intents columns =>
              rw [superseded_ids intents]
              exact hid
      | replay row there id body owner => exact h
      | expires row there id ended => exact h

theorem quoted_next (d : Desk) (e : Event) (h : Quoted d.store.db) :
    Quoted (d.next e).store.db := by
  cases e with
  | ask call =>
      unfold Desk.next
      dsimp only
      split
      · exact h
      · exact h
  | commit i =>
      unfold Desk.next
      dsimp only
      split
      · exact quoted_answer h i _
      · exact h
  | ledger t =>
      cases t with
      | quotes intents => exact h
      | reserve req signed now => exact quoted_ledger (w := d.ledger) h nofun
      | record claimOwner attemptId txHash now => exact quoted_ledger (w := d.ledger) h nofun
      | claim policy now => exact quoted_ledger (w := d.ledger) h nofun
      | observe log candidates => exact quoted_ledger (w := d.ledger) h nofun
      | job i told => exact quoted_ledger (w := d.ledger) h nofun

/-! ## The candidates of a log -/

/-- Every attempt is filed under its intent, and the candidates of a log are attempts for the intent
of the log. -/
structure Filed (db : Db) (jobs : List Job) : Prop where
  attempts : ∀ a ∈ db.attempts, (filing a).Canonical
  candidates : ∀ {log candidates}, .observed log candidates ∈ jobs →
    ∀ c ∈ candidates, c.intentRowId.intentId = log.intentId

theorem Filed.congr {jobs : List Job} (h : Filed db jobs)
    (hattempts : db'.attempts.map filing = db.attempts.map filing) : Filed db' jobs := by
  refine ⟨fun a ha => ?_, h.candidates⟩
  have hmem : filing a ∈ db.attempts.map filing := hattempts ▸ List.mem_map_of_mem ha
  obtain ⟨b, hb, hfiling⟩ := List.mem_map.mp hmem
  exact hfiling ▸ h.attempts b hb

/-- A log finds the attempts for its intent. -/
theorem intentId_of_candidate (h : ∀ a ∈ db.attempts, (filing a).Canonical) {intentId : Bytes32}
    {c : AttemptCandidate} (hc : c ∈ candidatesForIntentId db intentId) :
    c.intentRowId.intentId = intentId := by
  obtain ⟨row, hrow, rfl⟩ := List.mem_map.mp hc
  obtain ⟨a, ha, hjoined⟩ := List.mem_filterMap.mp hrow
  obtain ⟨ha, hhex⟩ := List.mem_filter.mp ha
  obtain ⟨i, -, rfl⟩ := Option.map_eq_some_iff.mp hjoined
  have hsame := (h a ha).2.symm.trans (of_decide_eq_true hhex)
  exact bytes32Hex_inj (congrArg String.toList (Option.some.inj hsame))

theorem reconcileLog_not_observed {log : ExecutedLog} {candidates : List AttemptCandidate}
    {told : Told}
    {job : Job} (h : reconcileLog db log candidates told = .ok (db', job)) (log' : ExecutedLog)
    (candidates' : List AttemptCandidate) : job ≠ .observed log' candidates' := by
  unfold reconcileLog at h
  split at h
  · cases h
    exact Job.noConfusion
  · split at h
    · cases h
      exact Job.noConfusion
    · obtain ⟨final, -, h⟩ := bind_ok.mp h
      cases final with
      | false =>
          cases h
          exact Job.noConfusion
      | true =>
          obtain ⟨winner, -, h⟩ := bind_ok.mp h
          cases winner with
          | none =>
              cases h
              exact Job.noConfusion
          | some winner =>
              dsimp only at h
              split at h
              · obtain ⟨db₁, -, h⟩ := bind_ok.mp h
                cases h
                exact Job.noConfusion
              · cases h
                exact Job.noConfusion

theorem step_not_observed (db : Db) (told : Told) (job : Job) (log : ExecutedLog)
    (candidates : List AttemptCandidate) : (job.step db told).2 ≠ .observed log candidates := by
  unfold Job.step
  cases job with
  | sweep policy rows =>
      dsimp only
      split
      · exact Job.noConfusion
      · exact Job.noConfusion
  | observed log' candidates' =>
      dsimp only
      split
      · rename_i hlog
        exact reconcileLog_not_observed hlog log candidates
      · exact Job.noConfusion
  | folding profileId log' =>
      dsimp only
      split
      · exact Job.noConfusion
      · exact Job.noConfusion
  | done => exact Job.noConfusion

theorem filed_ledger {w : Ledger} (h : Filed w.db w.jobs) {t : Transaction}
    (ht : ∀ intents, t ≠ .quotes intents) : Filed (w.next t).db (w.next t).jobs := by
  have hattempts : ∀ a ∈ (w.next t).db.attempts, (filing a).Canonical := by
    rcases next_touches w ht with htouches | ⟨-, a, hattempts, -, -, -, hcanonical⟩
    · exact (h.congr htouches.attempts).attempts
    · intro b hb
      rw [hattempts] at hb
      rcases List.mem_append.mp hb with hold | hnew
      · exact h.attempts b hold
      · rw [List.mem_singleton.mp hnew]
        exact hcanonical
  refine ⟨hattempts, fun {log candidates} hjob => ?_⟩
  unfold Ledger.next at hjob
  cases t with
  | quotes intents => exact absurd rfl (ht intents)
  | reserve req signed now =>
      dsimp only at hjob
      split at hjob
      · exact h.candidates hjob
      · exact h.candidates hjob
  | record claimOwner attemptId txHash now =>
      dsimp only at hjob
      split at hjob
      · exact h.candidates hjob
      · exact h.candidates hjob
  | claim policy now =>
      rcases List.mem_append.mp hjob with hold | hnew
      · exact h.candidates hold
      · cases List.mem_singleton.mp hnew
  | observe log' candidates' =>
      dsimp only at hjob
      split at hjob
      · rename_i hperm
        rcases List.mem_append.mp hjob with hold | hnew
        · exact h.candidates hold
        · cases List.mem_singleton.mp hnew
          exact fun c hc => intentId_of_candidate h.attempts (hperm.mem_iff.mp hc)
      · exact h.candidates hjob
  | job i told =>
      dsimp only at hjob
      split at hjob
      · exact h.candidates hjob
      · rcases List.mem_or_eq_of_mem_set hjob with hold | hnew
        · exact h.candidates hold
        · exact absurd hnew.symm (step_not_observed w.db told _ log candidates)

theorem filed_next (d : Desk) (e : Event) (h : Filed d.store.db d.jobs) :
    Filed (d.next e).store.db (d.next e).jobs := by
  cases e with
  | ask call =>
      unfold Desk.next
      dsimp only
      split
      · exact h
      · exact h
  | commit i =>
      unfold Desk.next
      dsimp only
      split
      · rename_i p hp
        unfold Desk.answer commitQuote
        cases htx : quoteTx d.store p with
        | error e => exact h
        | ok result =>
            obtain ⟨s', outcome⟩ := result
            cases commits_of_ok htx with
            | fresh stores => exact h.congr (congrArg _ stores.attempts)
            | replay row there id body owner => exact h
            | expires row there id ended => exact h
      · exact h
  | ledger t =>
      cases t with
      | quotes intents => exact h
      | reserve req signed now => exact filed_ledger (w := d.ledger) h nofun
      | record claimOwner attemptId txHash now => exact filed_ledger (w := d.ledger) h nofun
      | claim policy now => exact filed_ledger (w := d.ledger) h nofun
      | observe log candidates => exact filed_ledger (w := d.ledger) h nofun
      | job i told => exact filed_ledger (w := d.ledger) h nofun

/-! ## What is promised, and when it is kept -/

/-- The step removes a log of the intent. -/
def RemovesLog (d : Desk) : Event → IntentRowId → Prop
  | .ledger (.job i _), id => ∃ log candidates, d.jobs[i]? = some (.observed log candidates)
  ∧ log.removed = true
      ∧ log.intentId = id.intentId
  | _, _ => False

/-- **An intent that was executed stays executed**, unless its own log is removed, and no quote is
signed for it any more. -/
structure NeverReopened (d : Desk) (e : Event) : Prop where
  stays : ∀ i ∈ d.store.db.intents, i.status = .executed → ¬ RemovesLog d e i.id →
    (∃ j ∈ (d.next e).store.db.intents, j.id = i.id) ∧
      ∀ j ∈ (d.next e).store.db.intents, j.id = i.id → j.status = .executed
  signs : ∀ i p, e = .commit i → d.pending[i]? = some (some p) →
    (∃ s', quoteTx d.store p = .ok (s', .fresh)) → ¬ RecordsExecution d.store.db p.intentRow

/-- A new key, and the last quote of the intent has ended: the row of the intent is written over. -/
def Supersedes (s : QuoteStore) (p : PreparedQuote) : Prop :=
  (∀ q ∈ s.quotes, q.id ≠ p.quoteRowId) ∧ (∃ i ∈ s.db.intents, i.id = p.intentRow) ∧
    ∃ exp ∈ s.priorExpiresAt p.intentRow, exp ≤ p.chainNow.val

/-- Neither of the two writers meets an intent that was executed. -/
def Desk.Clear (d : Desk) : Event → Prop
  | .commit i => ∀ p, d.pending[i]? = some (some p) → Supersedes d.store p →
  ¬ RecordsExecution d.store.db p.intentRow
  | .ledger (.record claimOwner attemptId txHash now) =>
      ∀ id, ¬ Reopens d.ledger (.record claimOwner attemptId txHash now) id
  | _ => True

theorem restated_stays {reopened : IntentRowId → Prop} {rows rows' : List IntentRow}
    (h : List.Forall₂ (Restated reopened) rows rows') (hnodup : (rows.map (·.id)).Nodup)
    (hi : i ∈ rows) (hexecuted : i.status = .executed) (hno : ¬ reopened i.id) :
    (∃ j ∈ rows', j.id = i.id) ∧ ∀ j ∈ rows', j.id = i.id → j.status = .executed := by
  refine ⟨?_, fun j hj hid => ?_⟩
  · have hmem : i.id ∈ rows'.map (·.id) := restated_ids h ▸ List.mem_map_of_mem hi
    exact List.mem_map.mp hmem
  · obtain ⟨k, hk, hrestated⟩ := forall₂_mem_right h hj
    have hsame : k.id = i.id := hrestated.id_eq.symm.trans hid
    obtain rfl := List.inj_on_of_nodup_map hnodup hk hi hsame
    exact hrestated.executed hno hexecuted

/-- **A new quote leaves the other intents as they are.** -/
theorem Stores.other {s s' : QuoteStore} {p : PreparedQuote} (hs : Stores s p s') (h : Kept s)
    (hi : i ∈ s.db.intents) (hne : i.id ≠ p.intentRow) :
    i ∈ s'.db.intents ∧ ∀ j ∈ s'.db.intents, j.id = i.id → j = i := by
  cases hs.claims with
  | first new intents columns =>
      rw [intents]
      refine ⟨List.mem_append_left _ hi, fun j hj hid => ?_⟩
      rcases List.mem_append.mp hj with hold | hnew
      · exact List.inj_on_of_nodup_map h.intents hold hi hid
      · rw [List.mem_singleton.mp hnew] at hid
        exact absurd hid.symm hne
  | again there ended intents columns =>
      rw [intents]
      refine ⟨mem_setWhere.mpr ⟨i, hi, (if_neg fun htouched => hne htouched.1).symm⟩,
        fun j hj hid => ?_⟩
      obtain ⟨k, hk, rfl⟩ := mem_setWhere.mp hj
      split at hid
      · rename_i htouched
        exact absurd (hid.symm.trans htouched.1) hne
      · rename_i huntouched
        rw [if_neg huntouched]
        exact List.inj_on_of_nodup_map h.intents hk hi hid

theorem Kept.stays {s : QuoteStore} (h : Kept s) (hi : i ∈ s.db.intents)
    (hexecuted : i.status = .executed) :
    (∃ j ∈ s.db.intents, j.id = i.id) ∧ ∀ j ∈ s.db.intents, j.id = i.id → j.status = .executed := by
  refine ⟨⟨i, hi, rfl⟩, fun j hj hid => ?_⟩
  obtain rfl := List.inj_on_of_nodup_map h.intents hj hi hid
  exact hexecuted

section
variable {d : Desk}

/-- **A transaction of the outbox reopens no intent**, but for the broadcast that is recorded and
the log that is removed. -/
theorem ledger_neverReopened (h : DeskKept d) {t : Transaction}
    (ht : ∀ intents, t ≠ .quotes intents)
    (hnext : (d.next (.ledger t)).store.db = (d.ledger.next t).db)
    (hreopens : ∀ id, Reopens d.ledger t id → RemovesLog d (.ledger t) id) :
    NeverReopened d (.ledger t) := by
  refine ⟨fun i hi hexecuted hremoves => ?_, fun i p heq => nomatch heq⟩
  rw [hnext]
  exact restated_stays (next_restated d.ledger ht) h.store.intents hi hexecuted
    fun hreopened => hremoves (hreopens i.id hreopened)

/-- **A request reopens no intent**, unless it writes over one that was executed. -/
theorem answer_neverReopened (h : DeskKept d) (hquoted : Quoted d.store.db) {i : Nat}
    {p : PreparedQuote} (hp : d.pending[i]? = some (some p))
    (hclear : Supersedes d.store p → ¬ RecordsExecution d.store.db p.intentRow) :
    NeverReopened d (.commit i) := by
  have hsupersedes : ∀ {s'}, Stores d.store p s' → (∃ i ∈ d.store.db.intents, i.id = p.intentRow) →
      (∃ exp ∈ QuoteStore.priorExpiresAt { d.store with quotes := d.store.quotes ++ [p.row] }
        p.intentRow, exp ≤ p.chainNow.val) → ¬ RecordsExecution d.store.db p.intentRow := by
    intro s' stores there ended
    rw [priorExpiresAt_insert h.store] at ended
    exact hclear ⟨stores.new, there, ended⟩
  refine ⟨fun i' hi' hexecuted _ => ?_, fun i' p' heq hp' hfresh => ?_⟩
  · rw [Desk.next_commit hp]
    unfold Desk.answer commitQuote
    cases htx : quoteTx d.store p with
    | error e => exact h.store.stays hi' hexecuted
    | ok result =>
        obtain ⟨s', outcome⟩ := result
        cases commits_of_ok htx with
        | fresh stores =>
            have hne : i'.id ≠ p.intentRow := by
              cases stores.claims with
              | first new intents columns => exact new i' hi'
              | again there ended intents columns =>
                  exact fun hid => hsupersedes stores there ended (.inl ⟨i', hi', hid, hexecuted⟩)
            obtain ⟨hmem, hall⟩ := stores.other h.store hi' hne
            exact ⟨⟨i', hmem, rfl⟩, fun j hj hid => hall j hj hid ▸ hexecuted⟩
        | replay row there id body owner => exact h.store.stays hi' hexecuted
        | expires row there id ended => exact h.store.stays hi' hexecuted
  · cases heq
    rw [hp] at hp'
    cases hp'
    obtain ⟨s', htx⟩ := hfresh
    cases commits_of_ok htx with
    | fresh stores =>
        cases stores.claims with
        | first new intents columns =>
            rintro (⟨j, hj, hid, -⟩ | ⟨a, ha, hid, -⟩)
            · exact new j hj hid
            · obtain ⟨j, hj, hjid⟩ := List.mem_map.mp (hquoted a ha)
              exact new j hj (hjid.trans hid)
        | again there ended intents columns => exact hsupersedes stores there ended

end

/-- **Every step keeps what was executed**, if neither of the two writers meets it. -/
theorem next_neverReopened {d : Desk} (h : DeskKept d) (hquoted : Quoted d.store.db)
    (hfiled : Filed d.store.db d.jobs) {e : Event} (hclear : d.Clear e) :
    NeverReopened d e := by
  cases e with
  | ask call =>
      refine ⟨fun i hi hexecuted _ => ?_, fun i p heq => nomatch heq⟩
      have hstore : (d.next (.ask call)).store = d.store := quietFailure d (.ask call)
      rw [hstore]
      exact h.store.stays hi hexecuted
  | commit i =>
      by_cases hpending : ∃ p, d.pending[i]? = some (some p)
      · obtain ⟨p, hp⟩ := hpending
        exact answer_neverReopened h hquoted hp (hclear p hp)
      · have hnext : d.next (.commit i) = d := by
          unfold Desk.next
          dsimp only
          split
          · rename_i p hp
            exact absurd ⟨p, hp⟩ hpending
          · rfl
        refine ⟨fun j hj hexecuted _ => ?_, fun j p heq hp => ?_⟩
        · rw [hnext]
          exact h.store.stays hj hexecuted
        · cases heq
          exact absurd ⟨p, hp⟩ hpending
  | ledger t =>
      cases t with
      | quotes intents =>
          exact ⟨fun j hj hexecuted _ => h.store.stays hj hexecuted, fun i p heq => nomatch heq⟩
      | reserve req signed now => exact ledger_neverReopened h nofun rfl fun _ => id
      | record claimOwner attemptId txHash now =>
          exact ledger_neverReopened h nofun rfl fun id hreopened => absurd hreopened (hclear id)
      | claim policy now => exact ledger_neverReopened h nofun rfl fun _ => id
      | observe log candidates => exact ledger_neverReopened h nofun rfl fun _ => id
      | job i told =>
          refine ledger_neverReopened h nofun rfl ?_
          rintro id ⟨log, candidates, hjob, hremoved, c, hc, rfl⟩
          exact ⟨log, candidates, hjob, hremoved,
            (hfiled.candidates (List.mem_of_getElem? hjob) c hc).symm⟩

/-- **An intent that was executed is not reopened**, in any run in which no quote is written over an
intent whose execution is recorded, and no broadcast is recorded for one. -/
theorem executed_not_reopened {es : List Event}
    (hclear : Runs.Guarded Desk.next Desk.Clear Desk.initial es) :
    Runs.Guarded Desk.next NeverReopened Desk.initial es := by
  have hquoted : Quoted Desk.initial.store.db := fun a ha => absurd ha List.not_mem_nil
  have hfiled : Filed Desk.initial.store.db Desk.initial.jobs :=
    ⟨fun a ha => absurd ha List.not_mem_nil, fun hjob => absurd hjob List.not_mem_nil⟩
  intro before e he
  exact next_neverReopened (Runs.invariant deskKept_next before Desk.initial deskKept_initial)
    (Runs.invariant (I := fun d : Desk => Quoted d.store.db) quoted_next before
      Desk.initial hquoted)
    (Runs.invariant (I := fun d : Desk => Filed d.store.db d.jobs) filed_next before
      Desk.initial hfiled)
    (hclear before e he)

/-! ## Two runs

The controller 5 asks for a quote of the intent 9 at the time 100, and its transaction is executed.
At the time 300, when the quote has ended, it asks once more, with another key. -/

def sampleContext : EnrollmentQuoteContext where
  manifest := ⟨1, 21, 27, 22, 23, 20, 25, 8⟩
  deploymentManifestHash := 50
  feeScheduleHash := 70
  liveToken := ⟨2, 1, 3, ⟨1, 2, 3, 0, 1, 6, 0, 0, 0, 1, true⟩, 4, 1⟩
  liveNonces := ⟨0, 0, 1, 4⟩
  maxNativeExposureWei := 100
  quoteSigner := .ok fun _ => .ok []
  curve := ⟨fun _ _ _ _ => some 5⟩
  sha256 := fun _ => 0

def sampleSignature : Text := List.replicate 128 '0' ++ ['1', 'b']

def sampleQuoteRequest (key : String) : QuoteRequest where
  idempotencyKey := key
  intentIdHex := bytes32Hex 9
  rootAddress := hex20 1
  controllerAddress := hex20 5
  controllerEpoch := 0
  secondaryAddress := hex20 5
  rootAuthorizationDigestHex := bytes32Hex 0
  feeAuthorizationMode := 1
  maxFee := String.ofList ['1']
  nonce := 0
  deadline := 900
  validForSeconds := 100
  v1Nonce := 0
  v1Deadline := 900
  v1SignatureHex := String.ofList sampleSignature
  linkNonce := 0
  linkDeadline := 900
  linkSignatureHex := String.ofList sampleSignature
  gasUnitCeiling := 1
  maxFeePerGasWei := String.ofList ['0']
  unsignedSizeCeiling := 1

def sampleQuoteCall (key : String) (chainTime : Word 64) : QuoteCall where
  ctx := sampleContext
  schedule := ⟨6, fun _ => some 1⟩
  chain := ⟨fun _ => .ok 0, fun _ => .ok 0, .ok chainTime⟩
  profileId := "p"
  req := sampleQuoteRequest key
  now := 0

theorem parseU128Decimal_sample : parseU128Decimal (String.ofList ['1']) = some 1
    ∧ parseU128Decimal (String.ofList ['0']) = some 0 := by
  unfold parseU128Decimal
  rw [String.toList_ofList, String.toList_ofList]
  decide +kernel

theorem recoversTo_sample (digest : Bytes32) :
    recoversTo sampleContext.curve digest (String.ofList sampleSignature).toList 5 = true := by
  have hdecode : decodeHexBytes sampleSignature = some (List.replicate 64 0 ++ [27]) := by
    decide +kernel
  unfold recoversTo
  rw [String.toList_ofList, hdecode]
  rfl

def sampleFields : ParsedEnrollmentFields := ⟨9, 1, 5, 5, 0⟩

def sampleDigests : DerivedNestedDigests :=
  ⟨Preflight.enrollDigest 5 0 900 1 21, Preflight.linkSecondaryDigest ⟨1, 5, 0, 900⟩ 1 23⟩

def samplePrepared (key : String) (window : Word 64 × Word 64) : PreparedQuote :=
  let req := sampleQuoteRequest key
  let core := sampleContext.core sampleFields sampleDigests 1 req
  ⟨"p", key, 9, window.1, 1,
    ⟨"p", sampleContext.feeQuote "p" req core 1 window, [], canonicalBodyString core 1 req⟩,
    req.bearers sampleFields, 0⟩

theorem fields_sample (key : String) :
    parseEnrollmentFields (sampleQuoteRequest key) = .ok sampleFields := by
  unfold parseEnrollmentFields sampleQuoteRequest digestField addressField
  dsimp only
  rw [parseBytes32_bytes32Hex, parseBytes32_bytes32Hex, parseAddress20_hex20, parseAddress20_hex20]
  rfl

theorem bearers_sample (key : String) :
    verifyNestedEnrollmentBearers sampleContext sampleFields (sampleQuoteRequest key)
    = .ok sampleDigests := by
  unfold verifyNestedEnrollmentBearers
  refine bind_ok.mpr ⟨(), require_ok.mpr ⟨rfl, rfl⟩, ?_⟩
  refine bind_ok.mpr ⟨(), require_ok.mpr (recoversTo_sample _), ?_⟩
  refine bind_ok.mpr ⟨(), require_ok.mpr (recoversTo_sample _), ?_⟩
  rfl

theorem token_sample : assertTokenAuthorized sampleContext.liveToken capEip2612.val = .ok () := by
  unfold assertTokenAuthorized
  rfl

theorem prepare_sample (key : String) {chainTime : Word 64} {window : Word 64 × Word 64}
    (hwindow : cutWindow 100 (.ok chainTime) = .ok window) :
    (sampleQuoteCall key chainTime).prepare = .ok (samplePrepared key window) := by
  unfold QuoteCall.prepare Quotes.prepare
  refine bind_ok.mpr ⟨(), congrArg _ token_sample, ?_⟩
  refine bind_ok.mpr ⟨(), require_ok.mpr rfl, ?_⟩
  refine bind_ok.mpr ⟨(), require_ok.mpr rfl, ?_⟩
  refine bind_ok.mpr ⟨_, fields_sample key, ?_⟩
  refine bind_ok.mpr ⟨(), rfl, ?_⟩
  refine bind_ok.mpr ⟨_, bearers_sample key, ?_⟩
  refine bind_ok.mpr ⟨0, congrArg _ (And.right parseU128Decimal_sample), ?_⟩
  refine bind_ok.mpr ⟨(), rfl, ?_⟩
  refine bind_ok.mpr ⟨(1, 1), ?_, ?_⟩
  · unfold tariff
    refine bind_ok.mpr ⟨1, rfl, ?_⟩
    refine bind_ok.mpr ⟨(), rfl, ?_⟩
    refine bind_ok.mpr ⟨1, congrArg _ (And.left parseU128Decimal_sample), ?_⟩
    rfl
  · refine bind_ok.mpr ⟨window, hwindow, ?_⟩
    rfl

theorem prepare_first :
    (sampleQuoteCall "a" 100).prepare = .ok (samplePrepared "a" (100, 200)) := by
  have hwindow : cutWindow 100 (.ok 100) = .ok (100, 200) := rfl
  exact prepare_sample "a" hwindow

theorem prepare_second :
    (sampleQuoteCall "b" 300).prepare = .ok (samplePrepared "b" (300, 400)) := by
  have hwindow : cutWindow 100 (.ok 300) = .ok (300, 400) := rfl
  exact prepare_sample "b" hwindow

/-- The first request has been asked. -/
def askedDesk : Desk := { Desk.initial with pending := [some (samplePrepared "a" (100, 200))] }

theorem ask_first : Desk.initial.next (.ask (sampleQuoteCall "a" 100)) = askedDesk :=
  Desk.next_ask prepare_first Desk.initial

/-- Its quote is stored, and a node accepts the transaction of the intent. -/
def submittedDesk : Desk :=
  [Event.commit 0, .ledger (.reserve (sampleRequest 9) ⟨[1], 0, 0⟩ 0),
    .ledger (.record "submit" ⟨"p", 9, 0⟩ 77 5)].foldl Desk.next askedDesk

def executedLog : ExecutedLog := ⟨9, 5, 77, 50, 8, 0, false⟩

/-- The log of the transaction is folded. -/
def executedDesk : Desk :=
  [Event.ledger (.job 0 sampleTold), .ledger (.job 0 sampleTold)].foldl Desk.next
    { submittedDesk with
      jobs := submittedDesk.jobs
        ++ [.observed executedLog (candidatesForIntentId submittedDesk.store.db 9)] }

def executedRun : List Event :=
  [.ask (sampleQuoteCall "a" 100), .commit 0, .ledger (.reserve (sampleRequest 9) ⟨[1], 0, 0⟩ 0),
    .ledger (.record "submit" ⟨"p", 9, 0⟩ 77 5),
    .ledger (.observe executedLog (candidatesForIntentId submittedDesk.store.db 9)),
    .ledger (.job 0 sampleTold), .ledger (.job 0 sampleTold)]

theorem executedRun_desk : executedRun.foldl Desk.next Desk.initial = executedDesk := by
  unfold executedRun executedDesk
  rw [List.foldl_cons, ask_first]
  show [Event.ledger
    (.observe executedLog (candidatesForIntentId submittedDesk.store.db executedLog.intentId)),
    .ledger (.job 0 sampleTold), .ledger (.job 0 sampleTold)].foldl Desk.next submittedDesk = _
  rw [List.foldl_cons, Desk.next_observe]
  rfl

theorem submitting_open :
    ∀ i ∈ ([Event.commit 0, .ledger (.reserve (sampleRequest 9) ⟨[1], 0, 0⟩ 0)].foldl Desk.next
    askedDesk).store.db.intents, i.status ≠ .executed := by
  decide +kernel

theorem executed_not_reopened_sample :
    Runs.Guarded Desk.next NeverReopened Desk.initial
      (executedRun ++ [.ledger (.claim sampleSweep 400)]) := by
  refine executed_not_reopened (Runs.guarded_append (Runs.guarded_cons trivial ?_)
    (Runs.guarded_cons trivial Runs.guarded_nil))
  rw [ask_first]
  refine Runs.guarded_cons ?_
    (Runs.guarded_cons trivial (Runs.guarded_cons ?_ (Runs.guarded_cons trivial
    (Runs.guarded_cons trivial (Runs.guarded_cons trivial Runs.guarded_nil)))))
  · rintro p - ⟨-, ⟨i, hi, -⟩, -⟩
    cases hi
  · rintro id ⟨-, a, ha, hid, -, i, hi, -, hexecuted⟩
    exact submitting_open i hi hexecuted

/-- The same intent is asked for once more, with another key, when its quote has ended. -/
def reopeningRun : List Event := executedRun ++ [.ask (sampleQuoteCall "b" 300), .commit 1]

def reopenedDesk : Desk :=
  Desk.next { executedDesk with
              pending := executedDesk.pending ++ [some (samplePrepared "b" (300, 400))] }
              (.commit 1)

theorem reopenedDesk_facts : (∃ i ∈ executedDesk.store.db.intents, i.status = .executed
    ∧ ∃ j ∈ reopenedDesk.store.db.intents, j.id = i.id ∧ j.status ≠ .executed)
    ∧ reopenedDesk.released.length = 2 := by
  decide +kernel

/-- **An executed intent is pending again**, and has a second quote. -/
theorem executed_intent_reopened : ¬ Runs.Guarded Desk.next NeverReopened Desk.initial reopeningRun
    ∧ (reopeningRun.foldl Desk.next Desk.initial).released.length = 2 := by
  have hasked : (executedRun ++ [Event.ask (sampleQuoteCall "b" 300)]).foldl Desk.next Desk.initial
      = { executedDesk with
          pending := executedDesk.pending ++ [some (samplePrepared "b" (300, 400))] } := by
    rw [Runs.foldl_snoc, executedRun_desk, Desk.next_ask prepare_second]
  have hrun : reopeningRun = (executedRun ++ [.ask (sampleQuoteCall "b" 300)]) ++ [.commit 1] := by
    rw [List.append_assoc]
    rfl
  obtain ⟨⟨i, hi, hexecuted, j, hj, hid, hreopened⟩, hreleased⟩ := reopenedDesk_facts
  rw [hrun]
  constructor
  · intro h
    have hlast := h _ _ (List.prefix_refl _)
    rw [hasked] at hlast
    exact hreopened ((hlast.stays i hi hexecuted id).2 j hj hid)
  · rw [Runs.foldl_snoc, hasked]
    exact hreleased

end GoatCoin.StreamG.Quotes
