/-
# `GoatCoin.StreamG.QuoteDesk` — requests for quotes, any number at once

Requests are under way beside the writers of the outbox:

    ask       everything before the transaction: the clock of the chain is read, and the quote is signed
    commit    the transaction of a request that was asked, at any later time
    ledger    a transaction of the outbox

An outbox that is not told of new quotes changes the status of an intent, and nothing else of it
(`Restated`).  A transaction that succeeds has stored a new quote, found one, or marked one
(`Commits`).
-/
import GoatCoin.StreamG.HeldSlots
import GoatCoin.StreamG.Quotes

namespace GoatCoin.StreamG.Quotes

open Evm Rows

/-! ## The machine -/

/-- A request, and what it finds on its way to the transaction. -/
structure QuoteCall where
  ctx : EnrollmentQuoteContext
  schedule : FeeSchedule
  chain : QuoteChain
  profileId : String
  req : QuoteRequest
  now : Int

def QuoteCall.prepare (c : QuoteCall) : Except QuoteError PreparedQuote :=
  Quotes.prepare c.ctx c.schedule c.chain c.profileId c.req c.now

/-- A quote that was handed out, with the request it was handed out to. -/
structure Release where
  asked : PreparedQuote
  payload : QuotePayload

structure Desk where
  store : QuoteStore
  jobs : List Job
  pending : List (Option PreparedQuote)
  released : List Release

/-- What happens at the desk. -/
inductive Event where
  | ask (call : QuoteCall)
  /-- The transaction of the request at the place `i`. -/
  | commit (i : Nat)
  | ledger (t : Transaction)

def Desk.ledger (d : Desk) : Ledger := ⟨d.store.db, d.jobs⟩

/-- The request `p`, which was asked at the place `i`, reaches its transaction. -/
def Desk.answer (d : Desk) (i : Nat) (p : PreparedQuote) : Desk :=
  { d with store := (commitQuote d.store p).1, pending := d.pending.set i none,
           released := match (commitQuote d.store p).2 with
             | .ok payload => d.released ++ [⟨p, payload⟩]
             | .error _ => d.released }

def Desk.next (d : Desk) : Event → Desk
  | .ask call =>
      match call.prepare with
      | .ok p => { d with pending := d.pending ++ [some p] }
      | .error _ => d
  | .commit i =>
      match d.pending[i]? with
      | some (some p) => d.answer i p
      | _ => d
  -- the quotes of the outbox's own machine are any: here they are those of this one
  | .ledger (.quotes _) => d
  | .ledger t =>
      { d with store := { d.store with db := (d.ledger.next t).db },
               jobs := (d.ledger.next t).jobs }

theorem Desk.next_commit {d : Desk} {i : Nat} {p : PreparedQuote}
    (hp : d.pending[i]? = some (some p)) : d.next (.commit i) = d.answer i p := by
  unfold Desk.next
  dsimp only
  rw [hp]

theorem Desk.next_ask {call : QuoteCall} {p : PreparedQuote} (h : call.prepare = .ok p) (d : Desk) :
    d.next (.ask call) = { d with pending := d.pending ++ [some p] } := by
  unfold Desk.next
  dsimp only
  rw [h]

theorem Desk.next_observe (d : Desk) (log : ExecutedLog) :
    d.next (.ledger (.observe log (candidatesForIntentId d.store.db log.intentId)))
      = { d with
          jobs := d.jobs ++ [.observed log (candidatesForIntentId d.store.db log.intentId)] } := by
  unfold Desk.next Ledger.next
  dsimp only
  have hsame : (candidatesForIntentId d.store.db log.intentId).Perm
      (candidatesForIntentId d.ledger.db log.intentId) := List.Perm.refl _
  rw [if_pos hsame]
  rfl

/-- A database without an intent. -/
def Desk.initial : Desk := ⟨⟨⟨[], [], []⟩, [], [], [], []⟩, [], [], []⟩

/-! ## What the outbox does to an intent -/

/-- The row of an intent before a transaction and after it: only the status is another, and it is no
other than executed if it was executed and nothing reopens it. -/
structure Restated (reopened : IntentRowId → Prop) (i j : IntentRow) : Prop where
  same : j = { i with status := j.status }
  executed : ¬ reopened i.id → i.status = .executed → j.status = .executed

section
variable {reopened : IntentRowId → Prop} {rows rows' rows'' : List IntentRow}

theorem Restated.refl (reopened : IntentRowId → Prop) (i : IntentRow) : Restated reopened i i :=
  ⟨rfl, fun _ h => h⟩

theorem Restated.id_eq {i j : IntentRow} (h : Restated reopened i j) : j.id = i.id := by rw [h.same]

theorem Restated.trans {i j k : IntentRow} (h : Restated reopened i j)
    (h' : Restated reopened j k) : Restated reopened i k := by
  refine ⟨?_, fun hno hi => h'.executed (h.id_eq ▸ hno) (h.executed hno hi)⟩
  rw [h'.same, h.same]

theorem restated_refl (reopened : IntentRowId → Prop) (rows : List IntentRow) :
    List.Forall₂ (Restated reopened) rows rows :=
  List.forall₂_same.mpr fun i _ => .refl reopened i

theorem restated_trans (h : List.Forall₂ (Restated reopened) rows rows')
    (h' : List.Forall₂ (Restated reopened) rows' rows'') :
    List.Forall₂ (Restated reopened) rows rows'' :=
  forall₂_trans (fun hij hjk => hij.trans hjk) h h'

theorem restated_setWhere {p : IntentRow → Prop} [DecidablePred p] {status : IntentStatus}
    (h : ∀ i ∈ rows, p i → ¬ reopened i.id → status ≠ .executed → i.status ≠ .executed) :
    List.Forall₂ (Restated reopened) rows
      (setWhere p (fun i => { i with status := status }) rows) := by
  refine forall₂_setWhere (.refl reopened) fun i hi hp => ⟨rfl, fun hno hexecuted => ?_⟩
  by_contra hne
  exact h i hi hp hno hne hexecuted

theorem restated_ids (h : List.Forall₂ (Restated reopened) rows rows') :
    rows'.map (·.id) = rows.map (·.id) := forall₂_map (fun {_ _} hij => hij.id_eq) h

end

/-- The transaction makes an intent live again that was executed: a broadcast of another attempt is
recorded, or a log was removed that has an attempt for it among its candidates. -/
def Reopens (w : Ledger) : Transaction → IntentRowId → Prop
  | .record claimOwner attemptId _ _, id =>
      (∃ a ∈ w.db.attempts, a.ClaimedBy attemptId claimOwner)
        ∧ ∃ a ∈ w.db.attempts, a.id = attemptId ∧ a.intentId = id ∧ ∃ i ∈ w.db.intents, i.id = id
        ∧ i.status = .executed
  | .job i _, id => ∃ log candidates, w.jobs[i]? = some (.observed log candidates)
    ∧ log.removed = true
      ∧ ∃ c ∈ candidates, c.intentRowId = id
  | _, _ => False

/-- The columns of an attempt that say which it is, and for which intent. -/
structure Filing where
  id : AttemptRowId
  intentId : IntentRowId
  intentIdHex : Option String
  attemptNumber : Nat

def filing (a : TxAttempt) : Filing := ⟨a.id, a.intentId, a.intentIdHex, a.attemptNumber⟩

/-- The row id is that of the intent and the number, and so is the text by which a log finds the
attempt. -/
def Filing.Canonical (f : Filing) : Prop :=
  f.id = ⟨f.intentId.profileId, f.intentId.intentId, f.attemptNumber⟩
    ∧ f.intentIdHex = some (bytes32Hex f.intentId.intentId)

/-- A write to the outbox: the intents are restated, and every attempt is filed as it was. -/
structure Touches (reopened : IntentRowId → Prop) (db db' : Db) : Prop where
  intents : List.Forall₂ (Restated reopened) db.intents db'.intents
  attempts : db'.attempts.map filing = db.attempts.map filing

theorem Touches.intentIds {reopened : IntentRowId → Prop} {db db' : Db}
    (h : Touches reopened db db') :
    db'.attempts.map (·.intentId) = db.attempts.map (·.intentId) := by
  have hmap := congrArg (List.map Filing.intentId) h.attempts
  rw [List.map_map, List.map_map] at hmap
  exact hmap

section
variable {reopened : IntentRowId → Prop} {db db' db'' : Db}

theorem Touches.refl (reopened : IntentRowId → Prop) (db : Db) : Touches reopened db db :=
  ⟨restated_refl reopened _, rfl⟩

theorem Touches.trans (h : Touches reopened db db') (h' : Touches reopened db' db'') :
    Touches reopened db db'' :=
  ⟨restated_trans h.intents h'.intents, h'.attempts.trans h.attempts⟩

theorem touches_attempts {p : TxAttempt → Prop} [DecidablePred p] {f : TxAttempt → TxAttempt}
    {allocations : List NonceAllocation} (hf : ∀ a, filing (f a) = filing a) :
    Touches reopened db ⟨db.intents, setWhere p f db.attempts, allocations⟩ :=
  ⟨restated_refl reopened _, map_setWhere _ hf⟩

theorem touches_setNonce (db : Db) (allocationId : Option AllocationRowId) (status : NonceStatus)
    (releasedAt : Option Int) :
    Touches reopened db (setNonce db allocationId status releasedAt) := by
  unfold setNonce
  split
  · exact .refl reopened db
  · exact ⟨restated_refl reopened _, rfl⟩

theorem touches_setIntent (db : Db) (id : IntentRowId) {status : IntentStatus}
    (h : status ≠ .executed → reopened id) : Touches reopened db (setIntent db id status) := by
  refine ⟨restated_setWhere fun i _ hid hno hne => absurd ?_ hno, rfl⟩
  rw [hid]
  exact h hne

theorem touches_foldl {α β : Type} {step : Db × β → α → Db × β}
    {rows : List α} (hstep : ∀ row ∈ rows, ∀ state, Touches reopened state.1 (step state row).1)
    (state : Db × β) : Touches reopened state.1 (rows.foldl step state).1 := by
  induction rows generalizing state with
  | nil => exact .refl reopened _
  | cons row rows ih =>
      refine (hstep row List.mem_cons_self state).trans ?_
      exact ih (fun row' hrow' => hstep row' (List.mem_cons_of_mem _ hrow')) (step state row)

theorem fulfillRow_touches (log : ExecutedLog) (now : Int) (state : Db × Settled)
    (row : AttemptCandidate) : Touches reopened state.1 (fulfillRow log now state row).1 := by
  have hconfirm : Touches reopened state.1 (confirmExternally state.1 log now row) := by
    refine Touches.trans ?_ (touches_setIntent _ row.intentRowId fun hne => absurd rfl hne)
    exact touches_attempts fun _ => rfl
  unfold fulfillRow
  dsimp only
  split
  · split
    · exact hconfirm
    · split
      · dsimp only
        exact hconfirm.trans (touches_setNonce _ _ _ _)
      · dsimp only
        exact hconfirm.trans (touches_setNonce _ _ _ _)
  · exact .refl reopened _

theorem reorgRow_touches (log : ExecutedLog) {row : AttemptCandidate}
    (hreopened : reopened row.intentRowId)
    (state : Db × List AttemptRowId) : Touches reopened state.1 (reorgRow log state row).1 := by
  have hback : Touches reopened state.1 (rollBack state.1 log row) := by
    refine Touches.trans ?_ (touches_setIntent _ row.intentRowId fun _ => hreopened)
    exact touches_attempts fun _ => rfl
  unfold reorgRow
  dsimp only
  split
  · refine hback.trans ?_
    unfold reallocateNonce
    split
    · exact .refl reopened _
    · exact ⟨restated_refl reopened _, rfl⟩
  · exact .refl reopened _

theorem fold_touches {profileId : String} {log : ExecutedLog} {now : Int}
    (h : reconcileExecutedForProfileId db profileId log now = .ok db') :
    Touches reopened db db' := by
  obtain ⟨matched, -, -, -, rfl | rfl⟩ := fold_ok h
  · exact .refl reopened _
  · have hconsume : ∀ (db : Db) (id : Option AllocationRowId) (attemptId : AttemptRowId),
        Touches reopened db (consumeUnlessHeld db id attemptId) := by
      intro db id attemptId
      unfold consumeUnlessHeld
      split
      · exact .refl reopened _
      · split
        · exact .refl reopened _
        · exact ⟨restated_refl reopened _, rfl⟩
    refine Touches.trans ?_ (hconsume _ _ _)
    refine Touches.trans ?_ (touches_setIntent _ _ fun hne => absurd rfl hne)
    exact touches_attempts fun _ => rfl

/-- **What a log does to the outbox**: some intents are executed, and only a log that was removed
makes those of its candidates live again. -/
theorem reconcileLog_touches {log : ExecutedLog} {candidates : List AttemptCandidate}
    {told : Told} {job : Job}
    (hremoved : log.removed = true → ∀ c ∈ candidates, reopened c.intentRowId)
    (h : reconcileLog db log candidates told = .ok (db', job)) :
    Touches reopened db db' := by
  unfold reconcileLog at h
  split at h
  · rename_i hlog
    cases h
    exact touches_foldl (fun c hc => reorgRow_touches log (hremoved hlog c hc)) (db, _)
  · split at h
    · cases h
      exact .refl reopened _
    · obtain ⟨final, -, h⟩ := bind_ok.mp h
      cases final with
      | false =>
          cases h
          exact .refl reopened _
      | true =>
          rw [if_pos rfl] at h
          obtain ⟨winner, -, h⟩ := bind_ok.mp h
          cases winner with
          | none =>
              cases h
              exact touches_foldl (fun c _ state => fulfillRow_touches log told.now state c) (db, _)
          | some winner =>
              dsimp only at h
              split at h
              · obtain ⟨db₁, hpromote, h⟩ := bind_ok.mp h
                cases h
                obtain ⟨_, -, hpromote⟩ := bind_ok.mp hpromote
                cases hpromote
                exact touches_attempts fun _ => rfl
              · cases h
                exact .refl reopened _

theorem applies_touches {policy : SweepPolicy} {now : Int} {row : ClaimedAttempt}
    {resolution : Resolution}
    {outcome : RowOutcome} (h : Applies policy now db row resolution db' outcome) :
    Touches reopened db db' := by
  cases h with
  | executes u owns status kind =>
      refine Touches.trans ?_ (touches_setNonce _ _ _ _)
      exact touches_attempts fun _ => rfl
  | releases u reason owns status =>
      refine Touches.trans ?_ (touches_setNonce _ _ _ _)
      exact touches_attempts fun _ => rfl
  | loses lost => exact .refl reopened _
  | holds => exact touches_attempts fun _ => rfl
  | sticks reason => exact touches_attempts fun _ => rfl

theorem sweep_touches {policy : SweepPolicy} {now : Int}
    {rows : List (ClaimedAttempt × Resolution)} :
    ∀ {db db' : Db} {outcomes : List (ClaimedAttempt × RowOutcome)},
      applyResolutions policy now db rows = .ok (db', outcomes) → Touches reopened db db' := by
  induction rows with
  | nil =>
      intro db db' outcomes h
      cases h
      exact .refl reopened _
  | cons x rest ih =>
      intro db db' outcomes h
      obtain ⟨⟨db₁, outcome⟩, hfirst, h⟩ := bind_ok.mp h
      obtain ⟨⟨db₂, later⟩, hrest, h⟩ := bind_ok.mp h
      cases h
      exact (applies_touches (applies_of_ok hfirst)).trans (ih hrest)

theorem job_touches {told : Told} {job : Job}
    (hremoved : ∀ log candidates, job = .observed log candidates → log.removed = true →
      ∀ c ∈ candidates, reopened c.intentRowId) :
    Touches reopened db (job.step db told).1 := by
  cases job with
  | sweep policy rows =>
      unfold Job.step
      dsimp only
      split
      · rename_i db' outcomes happly
        exact sweep_touches happly
      · exact .refl reopened _
  | observed log candidates =>
      unfold Job.step
      dsimp only
      split
      · rename_i db' job hlog
        exact reconcileLog_touches (hremoved log candidates rfl) hlog
      · exact .refl reopened _
  | folding profileId log =>
      unfold Job.step
      dsimp only
      split
      · rename_i db' hfold
        exact fold_touches hfold
      · exact .refl reopened _
  | done => exact .refl reopened _

theorem claim_touches (policy : SweepPolicy) (now : Int) :
    Touches reopened db (claimStaleReservations db policy now).1 := by
  refine ⟨restated_refl reopened _, ?_⟩
  unfold claimStaleReservations
  dsimp only
  generalize limitRows policy.maxRows _ = rows
  refine Runs.invariant (I := fun state : List TxAttempt × List ClaimedAttempt =>
    state.1.map filing = db.attempts.map filing) (fun state row hstate => ?_) rows
      (db.attempts, []) rfl
  unfold claimRow
  dsimp only
  split
  · rw [← hstate]
    exact map_setWhere _ fun _ => rfl
  · exact hstate

theorem record_touches {claimOwner : String} {attemptId : AttemptRowId}
    {txHash : Bytes32} {now : Int}
    (hreopened : ∀ id, (∃ a ∈ db.attempts, a.ClaimedBy attemptId claimOwner)
      ∧ (∃ a ∈ db.attempts, a.id = attemptId ∧ a.intentId = id ∧ ∃ i ∈ db.intents, i.id = id
        ∧ i.status = .executed) → reopened id)
    (h : recordBroadcastAccepted db claimOwner attemptId txHash now = .ok db') :
    Touches reopened db db' := by
  obtain ⟨_, hclaimed, _, -, h⟩ := bind_ok₂.mp h
  cases h
  refine ⟨?_, map_setWhere _ fun _ => rfl⟩
  refine restated_setWhere fun i hi hp hno _ hexecuted =>
    hno (hreopened i.id ⟨mem_of_affected (require_ok.mp hclaimed), ?_⟩)
  obtain ⟨b, hb, hid, hintent⟩ := hp
  obtain ⟨a, ha, heq⟩ := mem_setWhere.mp hb
  -- the statement sets neither the id nor the intent
  have hkept : b.id = a.id ∧ b.intentId = a.intentId := by
    rw [heq]
    split
    · exact ⟨rfl, rfl⟩
    · exact ⟨rfl, rfl⟩
  exact ⟨a, ha, hkept.1.symm.trans hid, hkept.2.symm.trans hintent, i, hi, rfl, hexecuted⟩

end

/-- **What a transaction of the outbox does to the intents**: a reservation has an attempt more, for
an intent that has a row; the others touch what is there. -/
theorem next_touches (w : Ledger) {t : Transaction} (ht : ∀ intents, t ≠ .quotes intents) :
    Touches (Reopens w t) w.db (w.next t).db ∨
      (w.next t).db.intents = w.db.intents ∧
        ∃ a, (w.next t).db.attempts = w.db.attempts ++ [a] ∧ a.intentId ∈ w.db.intents.map (·.id)
          ∧ a.status = .reserved ∧ (∀ b ∈ w.db.attempts, b.id ≠ a.id)
          ∧ (filing a).Canonical := by
  cases t with
  | quotes intents => exact absurd rfl (ht intents)
  | reserve req signed now =>
      unfold Ledger.next
      dsimp only
      split
      · rename_i db attempt hreserve
        have hres := reserves_of_ok hreserve
        obtain ⟨i, hi, hid, -⟩ := hres.owned
        exact .inr ⟨hres.intents, _, hres.attempts, List.mem_map.mpr ⟨i, hi, hid⟩, rfl,
          hres.fresh, rfl, rfl⟩
      · exact .inl (.refl _ _)
  | record claimOwner attemptId txHash now =>
      unfold Ledger.next
      dsimp only
      split
      · rename_i db hrecord
        exact .inl (record_touches (fun _ h => h) hrecord)
      · exact .inl (.refl _ _)
  | claim policy now => exact .inl (claim_touches policy now)
  | observe log candidates =>
      unfold Ledger.next
      dsimp only
      split
      · exact .inl (.refl _ _)
      · exact .inl (.refl _ _)
  | job i told =>
      unfold Ledger.next
      dsimp only
      split
      · exact .inl (.refl _ _)
      · rename_i job hjob
        exact .inl (job_touches fun log candidates heq hremoved c hc =>
          ⟨log, candidates, heq ▸ hjob, hremoved, c, hc, rfl⟩)

theorem next_restated (w : Ledger) {t : Transaction} (ht : ∀ intents, t ≠ .quotes intents) :
    List.Forall₂ (Restated (Reopens w t)) w.db.intents (w.next t).db.intents := by
  rcases next_touches w ht with htouches | ⟨hintents, -⟩
  · exact htouches.intents
  · rw [hintents]
    exact restated_refl _ _

/-! ## A quote that was cut -/

/-- The body that a quote was asked with begins with the intent. -/
def QuotedFor (payload : QuotePayload) (intentId : Bytes32) : Prop :=
  (bytes32Hex intentId).toList ++ ['|'] <+: payload.bodyHash

instance (payload : QuotePayload) (intentId : Bytes32) : Decidable (QuotedFor payload intentId) :=
  inferInstanceAs (Decidable (_ <+: _))

theorem length_bytes32Hex (x : Bytes32) : (bytes32Hex x).toList.length = 66 := by
  rw [bytes32Hex_toList, List.length_cons, List.length_cons, length_encode, Wire.length_toBE]

theorem bytes32Hex_inj {x y : Bytes32}
    (h : (bytes32Hex x).toList = (bytes32Hex y).toList) : x = y := by
  rw [bytes32Hex_toList, bytes32Hex_toList] at h
  have hbytes := Hex.encode_injective (List.cons.inj (List.cons.inj h).2).2
  have hfits : ∀ z : Bytes32, z.val < 256 ^ 32 := fun z => z.isLt.trans_le (by decide)
  exact Fin.ext (Wire.toLE_inj (hfits x) (hfits y) (List.reverse_injective hbytes))

/-- **A body is about one intent.** -/
theorem quotedFor_unique {payload : QuotePayload} {a b : Bytes32} (ha : QuotedFor payload a)
    (hb : QuotedFor payload b) : a = b := by
  obtain ⟨restA, hrestA⟩ := ha
  obtain ⟨restB, hrestB⟩ := hb
  have heq := hrestA.trans hrestB.symm
  rw [List.append_assoc, List.append_assoc] at heq
  have hlength := (length_bytes32Hex a).trans (length_bytes32Hex b).symm
  exact bytes32Hex_inj (List.append_inj_left heq hlength)

/-- A quote as it leaves the first part of a request. -/
structure Cut (p : PreparedQuote) : Prop where
  owner : p.payload.profileId = p.profileId
  start : p.payload.quote.validAfter = p.chainNow
  opens : p.payload.quote.validAfter.val < p.payload.quote.validUntil.val
  intent : QuotedFor p.payload p.intentId

theorem prepare_cut {call : QuoteCall} {p : PreparedQuote} (h : call.prepare = .ok p) : Cut p := by
  unfold QuoteCall.prepare Quotes.prepare at h
  obtain ⟨_, -, _, -, _, -, fields, -, h⟩ := bind_ok₄.mp h
  obtain ⟨_, -, digests, -, maxFeePerGas, -, _, -, h⟩ := bind_ok₄.mp h
  obtain ⟨fees, -, window, hwindow, _, -, signature, -, h⟩ := bind_ok₄.mp h
  cases h
  refine ⟨rfl, rfl, (cutWindow_ok hwindow).1, ?_⟩
  unfold QuotedFor canonicalBodyString
  rw [List.intercalate_cons_cons]
  exact List.prefix_append _ _

/-! ## The transaction -/

/-- A quote but for its status. -/
def QuoteRow.stamped (q : QuoteRow) : QuoteRow := { q with status := .active }

def QuoteStore.rows (s : QuoteStore) : List QuoteRow := s.quotes.map (·.stamped)

/-- The quote of a key is marked. -/
def QuoteStore.markExpired (s : QuoteStore) (id : Text) : QuoteStore :=
  let quotes :=
    setWhere (fun q : QuoteRow => q.id = id) (fun q => { q with status := .expired }) s.quotes
  { s with quotes := quotes }

/-- What becomes of the intent of a new quote: its row is the first, or is written over as its quote
had ended. -/
inductive Claims (s : QuoteStore) (p : PreparedQuote) (s' : QuoteStore) : Prop where
  | first (new : ∀ i ∈ s.db.intents, i.id ≠ p.intentRow)
      (intents : s'.db.intents = s.db.intents
        ++ [⟨p.intentRow, p.profileId, .pending, some p.payload.quote.validUntil.val⟩])
      (columns : s'.columns = s.columns ++ [p.columns])
  | again (there : ∃ i ∈ s.db.intents, i.id = p.intentRow)
      (ended : ∃ exp ∈ QuoteStore.priorExpiresAt
        { s with quotes := s.quotes ++ [p.row] } p.intentRow, exp ≤ p.chainNow.val)
      (intents : s'.db.intents = setWhere (fun i : IntentRow => i.id = p.intentRow
        ∧ i.profileId = p.profileId)
        (fun i => { i with status := .pending, expiresAt := some p.payload.quote.validUntil.val })
          s.db.intents)
      (columns : s'.columns = setWhere (fun c : IntentColumns => c.id = p.intentRow)
        (fun _ => p.columns) s.columns)

/-- What a new quote has written. -/
structure Stores (s : QuoteStore) (p : PreparedQuote) (s' : QuoteStore) : Prop where
  new : ∀ q ∈ s.quotes, q.id ≠ p.quoteRowId
  rows : s'.rows = s.rows ++ [p.row]
  attempts : s'.db.attempts = s.db.attempts
  claims : Claims s p s'

section
variable {s s' : QuoteStore} {p : PreparedQuote}

theorem expirePrior_rows (s : QuoteStore) (id : IntentRowId) : (expirePrior s id).rows = s.rows :=
  map_setWhere _ fun _ => rfl

theorem insertQuote_ok (h : insertQuote s p = .ok s') :
    s' = { s with quotes := s.quotes ++ [p.row] } := by
  obtain ⟨quotes, hquotes, h⟩ := bind_ok.mp h
  cases h
  rw [(insertOrIgnore_some.mp (asked_ok hquotes)).2]

/-- **How an intent is claimed.** -/
theorem claimIntent_ok {quotes : List QuoteRow} (hquotes : quotes = s.quotes ++ [p.row])
    (h : claimIntent { s with quotes := quotes } p = .ok s') :
    s'.rows = s.rows ++ [p.row] ∧ s'.db.attempts = s.db.attempts ∧ Claims s p s' := by
  subst hquotes
  unfold claimIntent at h
  split at h
  · rename_i hnone
    obtain ⟨intents, hintents, h⟩ := bind_ok.mp h
    cases h
    obtain ⟨hnew, hrows⟩ := insertOrIgnore_some.mp (asked_ok hintents)
    refine ⟨List.map_append, rfl, .first hnew hrows rfl⟩
  · rename_i intent hsome
    obtain ⟨_, -, _, hended, _, -, h⟩ := bind_ok₃.mp h
    cases h
    have hfound := List.find?_some hsome
    refine ⟨(expirePrior_rows _ _).trans List.map_append, rfl, ?_⟩
    exact .again ⟨intent, List.mem_of_find?_eq_some hsome, of_decide_eq_true hfound⟩
      (require_ok.mp hended) rfl rfl

theorem insertAuthorization_ok (h : insertAuthorization s p = .ok s') :
    ∃ authorizations, s' = { s with authorizations := authorizations } := by
  obtain ⟨authorizations, -, h⟩ := bind_ok.mp h
  cases h
  exact ⟨authorizations, rfl⟩

theorem insertSlot_ok {slotIndex : Nat} (h : insertSlot p slotIndex s = .ok s') :
    ∃ slots, s' = { s with slots := slots } := by
  obtain ⟨slots, -, h⟩ := bind_ok.mp h
  cases h
  exact ⟨slots, rfl⟩

/-- **What the transaction does**: a new quote is stored, a stored one is found, or a stored one has
ended. -/
inductive Commits (s : QuoteStore) (p : PreparedQuote) : QuoteStore → QuoteTxOutcome → Prop where
  | fresh {s' : QuoteStore} (stores : Stores s p s') : Commits s p s' .fresh
  | replay (row : QuoteRow) (there : row ∈ s.quotes) (id : row.id = p.quoteRowId)
      (body : row.payload.bodyHash = p.payload.bodyHash)
        (owner : row.payload.profileId = p.profileId) :
      Commits s p s (.replay row.payload)
  | expires (row : QuoteRow) (there : row ∈ s.quotes) (id : row.id = p.quoteRowId)
      (ended : row.payload.quote.validUntil.val ≤ p.chainNow.val) :
      Commits s p (s.markExpired p.quoteRowId) .replayOfExpiredQuote

theorem commits_of_ok {outcome : QuoteTxOutcome} (h : quoteTx s p = .ok (s', outcome)) :
    Commits s p s' outcome := by
  unfold quoteTx at h
  split at h
  · rename_i row hrow
    have hid := List.find?_some hrow
    have hid : row.id = p.quoteRowId := of_decide_eq_true hid
    have hmem := List.mem_of_find?_eq_some hrow
    obtain ⟨_, hsame, h⟩ := bind_ok.mp h
    obtain ⟨hbody, howner, -⟩ := require_ok.mp hsame
    split at h
    · rename_i hended
      cases h
      exact .expires row hmem hid hended
    · cases h
      exact .replay row hmem hid hbody howner
  · rename_i hnone
    obtain ⟨s₁, hquote, s₂, hintent, s₃, hauthorization, h⟩ := bind_ok₃.mp h
    obtain ⟨s₄, hslot, s₅, hslot', h⟩ := bind_ok₂.mp h
    cases h
    obtain rfl := insertQuote_ok hquote
    obtain ⟨hrows, hattempts, hclaims⟩ := claimIntent_ok rfl hintent
    obtain ⟨authorizations, rfl⟩ := insertAuthorization_ok hauthorization
    obtain ⟨slots, rfl⟩ := insertSlot_ok hslot
    obtain ⟨slots', rfl⟩ := insertSlot_ok hslot'
    refine .fresh ⟨fun q hq hid => ?_, hrows, hattempts, ?_⟩
    · exact List.find?_eq_none.mp hnone q hq (decide_eq_true hid)
    · cases hclaims with
      | first new intents columns => exact .first new intents columns
      | again there ended intents columns => exact .again there ended intents columns

end

end GoatCoin.StreamG.Quotes
