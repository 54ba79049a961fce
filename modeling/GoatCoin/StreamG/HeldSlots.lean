/-
# `GoatCoin.StreamG.HeldSlots` — a slot that somebody holds

The writers of the outbox run as transactions of their own, in any order and any number at once:

    reserve, record          one transaction each
    sweep                    the claim, and later what becomes of the rows it has claimed
    reconcile                the candidates are read, and later what the log does to them

The law is that no slot is released while an attempt that is reserved or submitted names it.  The
reservation relies on it, as a released slot is given to whoever asks.  Four of the writes look at
the row they were told about and not at who holds its slot now:

    sweep        releases the slot of a row that it finds safe
    external     releases the slot of a candidate of another controller
    promote      makes an attempt live again that had failed
    reorg        makes an attempt live again that was confirmed

A run keeps the law as long as each of these finds the slot as its row has left it.
-/
import GoatCoin.Lib.Runs
import GoatCoin.StreamG.Reconcile

namespace GoatCoin.StreamG

open Evm Rows

/-! ## The law -/

/-- An attempt that may still be on its way names the slot. -/
def HeldBy (attempts : List TxAttempt) (id : AllocationRowId) (k : AttemptRowId) : Prop :=
  ∃ a ∈ attempts, a.id = k ∧ a.nonceAllocationId = some id ∧ a.Live

/-- The slot is there for whoever asks. -/
def Free (rows : List NonceAllocation) (id : AllocationRowId) : Prop :=
  ∃ n ∈ rows, n.id = id ∧ n.kind = .action ∧ n.status = .released

/-- **No slot is released while an attempt holds it.** -/
def Held (db : Db) : Prop :=
  ∀ n ∈ db.allocations, n.kind = .action → n.status = .released →
    ∀ a ∈ db.attempts, a.Live → a.nonceAllocationId ≠ some n.id

theorem held_iff {db : Db} :
    Held db ↔ ∀ id k, Free db.allocations id → ¬ HeldBy db.attempts id k := by
  constructor
  · rintro h id k ⟨n, hn, rfl, hkind, hstatus⟩ ⟨a, ha, -, hslot, hlive⟩
    exact h n hn hkind hstatus a ha hlive hslot
  · intro h n hn hkind hstatus a ha hlive hslot
    exact h n.id a.id ⟨n, hn, rfl, hkind, hstatus⟩ ⟨a, ha, rfl, hslot, hlive⟩

theorem Held.mono {db db' : Db} (h : Held db)
    (hfree : ∀ id, Free db'.allocations id → Free db.allocations id)
    (hheld : ∀ id k, HeldBy db'.attempts id k → HeldBy db.attempts id k) : Held db' :=
  held_iff.mpr fun id k hid hk => held_iff.mp h id k (hfree id hid) (hheld id k hk)

/-! ## The machine -/

/-- What a writer has read, and has yet to act on. -/
inductive Job where
  | sweep (policy : SweepPolicy) (rows : List ClaimedAttempt)
  | observed (log : ExecutedLog) (candidates : List AttemptCandidate)
  | folding (profileId : String) (log : ExecutedLog)
  | done

/-- What the chain says to a job, and the clock on the wall. -/
structure Told where
  client : AttemptRowId → ChainClient
  finality : FinalityPolicy
  answers : LogAnswers
  now : Int

/-- The verdicts of a sweep. -/
def verdicts (policy : SweepPolicy) (rows : List ClaimedAttempt) (told : Told) :
    List (ClaimedAttempt × Resolution) :=
  rows.map fun row => (row, resolveAgainstChain (told.client row.attemptId) policy.gateway row)

/-- `reconcile_executed_log`, once the chain has answered. -/
def reconcileLog (db : Db) (log : ExecutedLog) (candidates : List AttemptCandidate) (told : Told) :
    Except ReconcileError (Db × Job) :=
  if log.removed then .ok ((applyReorg db candidates log).1, .done)
  else if candidates = [] then .ok (db, .done)
  else do
    let final ← corroborate told.finality log told.answers
    if final then
      match ← disambiguateByTxHash candidates log.txHash with
      | none => pure ((applyExternalFulfillment db candidates log told.now).1, .done)
      | some winner =>
          if winner.txHash = none then
            let db ← promoteVerifiedTxHash db winner.attemptId (bytes32Hex log.txHash) told.now
            pure (db, .folding winner.profileId log)
          else pure (db, .folding winner.profileId log)
    else pure (db, .done)

/-- The next transaction of a job. -/
def Job.step (db : Db) (told : Told) : Job → Db × Job
  | .sweep policy rows =>
      match applyResolutions policy told.now db (verdicts policy rows told) with
      | .ok (db, _) => (db, .done)
      | .error _ => (db, .done)
  | .observed log candidates =>
      match reconcileLog db log candidates told with
      | .ok (db, job) => (db, job)
      | .error _ => (db, .done)
  | .folding profileId log =>
      match reconcileExecutedForProfileId db profileId log told.now with
      | .ok db => (db, .done)
      | .error _ => (db, .done)
  | .done => (db, .done)

structure Ledger where
  db : Db
  jobs : List Job

inductive Transaction where
  /-- Intents are quoted, and quoted again. -/
  | quotes (intents : List IntentRow)
  | reserve (req : ReservationRequest) (signed : SignedRawTx) (now : Int)
  | record (claimOwner : String) (attemptId : AttemptRowId) (txHash : Bytes32) (now : Int)
  | claim (policy : SweepPolicy) (now : Int)
  /-- The candidates of a log are read, in whatever order. -/
  | observe (log : ExecutedLog) (candidates : List AttemptCandidate)
  /-- The job at the place `i` takes its next step. -/
  | job (i : Nat) (told : Told)

def Ledger.next (w : Ledger) : Transaction → Ledger
  | .quotes intents => { w with db := { w.db with intents := intents } }
  | .reserve req signed now =>
      match reserveAndPersistRawTx w.db req signed now with
      | .ok (db, _) => { w with db := db }
      | .error _ => w
  | .record claimOwner attemptId txHash now =>
      match recordBroadcastAccepted w.db claimOwner attemptId txHash now with
      | .ok db => { w with db := db }
      | .error _ => w
  | .claim policy now =>
      let (db, rows) := claimStaleReservations w.db policy now
      ⟨db, w.jobs ++ [.sweep policy rows]⟩
  | .observe log candidates =>
      if candidates.Perm (candidatesForIntentId w.db log.intentId) then
        { w with jobs := w.jobs ++ [.observed log candidates] }
      else w
  | .job i told =>
      match w.jobs[i]? with
      | none => w
      | some job => ⟨(job.step w.db told).1, w.jobs.set i (job.step w.db told).2⟩

/-! ## When a transaction keeps the law -/

/-- The sweep releases a slot that only the row itself holds. -/
def SweepClear (db : Db) (policy : SweepPolicy) (rows : List ClaimedAttempt) (told : Told) : Prop :=
  ∀ row ∈ rows, db.Owns row policy.claimOwner →
    (∃ reason, resolveAgainstChain (told.client row.attemptId) policy.gateway row
      = .safeToRelease reason) →
      ∀ id ∈ row.allocationId, ∀ k, HeldBy db.attempts id k → k = row.attemptId

/-- A candidate of another controller leaves a slot that only candidates hold. -/
def ExternalClear (db : Db) (log : ExecutedLog) (candidates : List AttemptCandidate) : Prop :=
  ∀ c ∈ candidates, (∃ a ∈ db.attempts, a.id = c.attemptId ∧ a.status ≠ .confirmed) →
    c.signerAddress ≠ some log.winnerKey →
      ∀ id ∈ c.allocationId, ∀ k, HeldBy db.attempts id k → k ∈ candidates.map (·.attemptId)

/-- The slot of an attempt that gets its hash from the chain is not free. -/
def PromoteClear (db : Db) (winner : AttemptCandidate) (txHashHex : String) : Prop :=
  ¬ db.HashTaken winner.attemptId txHashHex → ∀ a ∈ db.attempts, a.id = winner.attemptId →
    a.txHash = none → ∀ id ∈ a.nonceAllocationId, ¬ Free db.allocations id

/-- The slot of a confirmed attempt that a removed log brings back is not free. -/
def ReorgClear (db : Db) (candidates : List AttemptCandidate) : Prop :=
  ∀ c ∈ candidates, ∀ a ∈ db.attempts, a.id = c.attemptId → a.status = .confirmed →
    ∀ id ∈ a.nonceAllocationId, ¬ Free db.allocations id

/-- What a job has to find. -/
def Job.Clear (db : Db) (told : Told) : Job → Prop
  | .sweep policy rows => SweepClear db policy rows told
  | .observed log candidates =>
      if log.removed then ReorgClear db candidates
      else corroborate told.finality log told.answers = .ok true →
        match disambiguateByTxHash candidates log.txHash with
        | .ok none => ExternalClear db log candidates
        | .ok (some winner) => winner.txHash = none → PromoteClear db winner (bytes32Hex log.txHash)
        | .error _ => True
  | .folding _ _ => True
  | .done => True

def Ledger.Clear (w : Ledger) : Transaction → Prop
  | .job i told => ∀ job ∈ w.jobs[i]?, job.Clear w.db told
  | _ => True

/-! ## What a write changes -/

/-- The columns of an attempt that no statement sets. -/
def TxAttempt.slotKey (a : TxAttempt) : AttemptRowId × Option AllocationRowId :=
  (a.id, a.nonceAllocationId)

def NonceAllocation.rowKey (n : NonceAllocation) : AllocationRowId × NonceKind := (n.id, n.kind)

/-- Ids are unique, and the slot of every attempt has a row. -/
structure Recorded (db : Db) : Prop where
  keys : ((db.attempts.map (·.slotKey)).map Prod.fst).Nodup
  slots : ∀ x ∈ db.attempts.map (·.slotKey), ∀ id ∈ x.2,
    (id, NonceKind.action) ∈ db.allocations.map (·.rowKey)

/-- A write that neither frees a slot nor makes an attempt live. -/
structure Quiet (db db' : Db) : Prop where
  attempts : db'.attempts.map (·.slotKey) = db.attempts.map (·.slotKey)
  allocations : db'.allocations.map (·.rowKey) = db.allocations.map (·.rowKey)
  free : ∀ id, Free db'.allocations id → Free db.allocations id
  held : ∀ id k, HeldBy db'.attempts id k → HeldBy db.attempts id k

section
variable {db db' db'' : Db}

theorem Quiet.refl (db : Db) : Quiet db db := ⟨rfl, rfl, fun _ h => h, fun _ _ h => h⟩

theorem Quiet.trans (h : Quiet db db') (h' : Quiet db' db'') : Quiet db db'' :=
  ⟨h'.attempts.trans h.attempts, h'.allocations.trans h.allocations,
    fun id hid => h.free id (h'.free id hid), fun id k hk => h.held id k (h'.held id k hk)⟩

theorem Quiet.law (h : Quiet db db') (hheld : Held db) : Held db' := hheld.mono h.free h.held

theorem Recorded.of_rows (h : Recorded db)
    (hattempts : db'.attempts.map (·.slotKey) = db.attempts.map (·.slotKey))
    (hallocations : db'.allocations.map (·.rowKey) = db.allocations.map (·.rowKey)) :
    Recorded db' := by
  refine ⟨?_, ?_⟩
  · rw [hattempts]
    exact h.keys
  · rw [hattempts, hallocations]
    exact h.slots

theorem Recorded.eq_of_id (h : Recorded db) {a b : TxAttempt} (ha : a ∈ db.attempts)
    (hb : b ∈ db.attempts) (hid : a.id = b.id) : a = b := by
  have hkeys := h.keys
  rw [List.map_map] at hkeys
  exact List.inj_on_of_nodup_map hkeys ha hb hid

theorem Recorded.row (h : Recorded db) {a : TxAttempt} (ha : a ∈ db.attempts) {id : AllocationRowId}
    (hid : a.nonceAllocationId = some id) : ∃ n ∈ db.allocations, n.id = id ∧ n.kind = .action := by
  obtain ⟨n, hn, hkey⟩ := List.mem_map.mp (h.slots a.slotKey (List.mem_map_of_mem ha) id hid)
  exact ⟨n, hn, congrArg Prod.fst hkey, congrArg Prod.snd hkey⟩

end

section
variable {p : TxAttempt → Prop} [DecidablePred p] {f : TxAttempt → TxAttempt}
  {attempts : List TxAttempt} {id : AllocationRowId} {k : AttemptRowId}

theorem heldBy_of_setWhere (h : HeldBy (setWhere p f attempts) id k)
    (hf : ∀ a, (f a).slotKey = a.slotKey) :
    ∃ a ∈ attempts, a.id = k ∧ a.nonceAllocationId = some id
    ∧ (¬ p a ∧ a.Live ∨ p a ∧ (f a).Live) := by
  obtain ⟨b, hb, hid, hslot, hlive⟩ := h
  obtain ⟨a, ha, rfl⟩ := mem_setWhere.mp hb
  by_cases hp : p a
  · rw [if_pos hp] at hid hslot hlive
    exact ⟨a, ha, (congrArg Prod.fst (hf a)).symm.trans hid,
      (congrArg Prod.snd (hf a)).symm.trans hslot, .inr ⟨hp, hlive⟩⟩
  · rw [if_neg hp] at hid hslot hlive
    exact ⟨a, ha, hid, hslot, .inl ⟨hp, hlive⟩⟩

end

section
variable {p : NonceAllocation → Prop} [DecidablePred p] {f : NonceAllocation → NonceAllocation}
  {rows : List NonceAllocation} {id : AllocationRowId}

theorem free_of_setWhere (h : Free (setWhere p f rows) id) (hf : ∀ n, (f n).rowKey = n.rowKey) :
    ∃ n ∈ rows, n.id = id ∧ n.kind = .action
      ∧ (¬ p n ∧ n.status = .released ∨ p n ∧ (f n).status = .released) := by
  obtain ⟨m, hm, hid, hkind, hstatus⟩ := h
  obtain ⟨n, hn, rfl⟩ := mem_setWhere.mp hm
  by_cases hp : p n
  · rw [if_pos hp] at hid hkind hstatus
    exact ⟨n, hn, (congrArg Prod.fst (hf n)).symm.trans hid,
      (congrArg Prod.snd (hf n)).symm.trans hkind, .inr ⟨hp, hstatus⟩⟩
  · rw [if_neg hp] at hid hkind hstatus
    exact ⟨n, hn, hid, hkind, .inl ⟨hp, hstatus⟩⟩

end

section
variable {db : Db}

theorem quiet_intents (intents : List IntentRow) : Quiet db { db with intents := intents } :=
  ⟨rfl, rfl, fun _ h => h, fun _ _ h => h⟩

theorem quiet_attempts {intents : List IntentRow} {p : TxAttempt → Prop} [DecidablePred p]
    {f : TxAttempt → TxAttempt} (hf : ∀ a, (f a).slotKey = a.slotKey)
    (hlive : ∀ a, p a → (f a).Live → a.Live) :
    Quiet db ⟨intents, setWhere p f db.attempts, db.allocations⟩ := by
  refine ⟨map_setWhere _ hf, rfl, fun _ h => h, fun id k h => ?_⟩
  obtain ⟨a, ha, hid, hslot, ⟨-, hl⟩ | ⟨hp, hl⟩⟩ := heldBy_of_setWhere h hf
  · exact ⟨a, ha, hid, hslot, hl⟩
  · exact ⟨a, ha, hid, hslot, hlive a hp hl⟩

theorem quiet_allocations {p : NonceAllocation → Prop} [DecidablePred p]
    {f : NonceAllocation → NonceAllocation} (hf : ∀ n, (f n).rowKey = n.rowKey)
    (hstatus : ∀ n, (f n).status ≠ .released) :
    Quiet db { db with allocations := setWhere p f db.allocations } := by
  refine ⟨rfl, map_setWhere _ hf, fun id h => ?_, fun _ _ h => h⟩
  obtain ⟨n, hn, hid, hkind, ⟨-, hrel⟩ | ⟨-, hrel⟩⟩ := free_of_setWhere h hf
  · exact ⟨n, hn, hid, hkind, hrel⟩
  · exact absurd hrel (hstatus n)

theorem quiet_setNonce {status : NonceStatus} (hstatus : status ≠ .released)
    (allocationId : Option AllocationRowId) (releasedAt : Option Int) :
    Quiet db (setNonce db allocationId status releasedAt) := by
  unfold setNonce
  split
  · exact .refl db
  · exact quiet_allocations (fun _ => rfl) fun _ => hstatus

theorem release_frees {allocationId : Option AllocationRowId} {releasedAt : Option Int}
    {id : AllocationRowId}
    (h : Free (setNonce db allocationId .released releasedAt).allocations id) :
    Free db.allocations id ∨ allocationId = some id := by
  unfold setNonce at h
  split at h
  · exact .inl h
  · dsimp only at h
    obtain ⟨n, hn, hid, hkind, ⟨-, hrel⟩ | ⟨hp, -⟩⟩ := free_of_setWhere h fun _ => rfl
    · exact .inl ⟨n, hn, hid, hkind, hrel⟩
    · exact .inr (congrArg some (hp.1.symm.trans hid))

theorem setNonce_rows (allocationId : Option AllocationRowId) (status : NonceStatus)
    (releasedAt : Option Int) :
    (setNonce db allocationId status releasedAt).allocations.map (·.rowKey)
      = db.allocations.map (·.rowKey) := by
  unfold setNonce
  split
  · rfl
  · exact map_setWhere _ fun _ => rfl

end

/-! ## The writes that need nothing -/

section
variable {db db' : Db}

theorem record_quiet {claimOwner : String} {attemptId : AttemptRowId} {txHash : Bytes32} {now : Int}
    (h : recordBroadcastAccepted db claimOwner attemptId txHash now = .ok db') : Quiet db db' := by
  obtain ⟨_, -, _, -, h⟩ := bind_ok₂.mp h
  cases h
  apply quiet_attempts
  · exact fun _ => rfl
  · exact fun a hp _ => .inl hp.2.1

theorem claimRow_quiet (policy : SweepPolicy) (now : Int) (row : TxAttempt × IntentRow)
    (attempts : List TxAttempt) (claimed : List ClaimedAttempt) :
    Quiet ⟨db.intents, attempts, db.allocations⟩
      ⟨db.intents, (claimRow policy now (attempts, claimed) row).1, db.allocations⟩ := by
  unfold claimRow
  dsimp only
  split
  · exact quiet_attempts (fun _ => rfl) fun a hp _ => .inl hp.2.1
  · exact .refl _

theorem claim_quiet (policy : SweepPolicy) (now : Int) :
    Quiet db (claimStaleReservations db policy now).1 := by
  unfold claimStaleReservations
  dsimp only
  generalize limitRows policy.maxRows _ = rows
  have hfold : ∀ (rows : List (TxAttempt × IntentRow)) (attempts : List TxAttempt)
      (claimed : List ClaimedAttempt), Quiet ⟨db.intents, attempts, db.allocations⟩
        ⟨db.intents, (rows.foldl (claimRow policy now) (attempts, claimed)).1, db.allocations⟩ := by
    intro rows
    induction rows with
    | nil => exact fun _ _ => .refl _
    | cons row rest ih =>
        exact fun attempts claimed =>
          (claimRow_quiet policy now row attempts claimed).trans (ih _ _)
  exact hfold rows db.attempts []

theorem consumeUnlessHeld_quiet (allocationId : Option AllocationRowId) (attemptId : AttemptRowId) :
    Quiet db (consumeUnlessHeld db allocationId attemptId) := by
  unfold consumeUnlessHeld
  split
  · exact .refl db
  · split
    · exact .refl db
    · exact quiet_allocations (fun _ => rfl) (by rintro _ ⟨⟩)

/-- **The fold needs nothing**: it confirms an attempt, and consumes a slot. -/
theorem fold_quiet {profileId : String} {log : ExecutedLog} {now : Int}
    (h : reconcileExecutedForProfileId db profileId log now = .ok db') : Quiet db db' := by
  obtain ⟨matched, -, -, -, rfl | rfl⟩ := fold_ok h
  · exact .refl _
  · refine Quiet.trans ?_ (consumeUnlessHeld_quiet _ _)
    apply quiet_attempts
    · exact fun _ => rfl
    · exact fun a _ hlive => hlive.elim nofun nofun

end

/-! ## The reservation -/

section
variable {db db' : Db} {req : ReservationRequest} {signed : SignedRawTx} {now : Int}
  {attempt : ReservedAttempt}

/-- **A slot is given only if nobody holds it.** -/
theorem reserve_unheld (hrec : Recorded db) (hheld : Held db)
    (h : reserveAndPersistRawTx db req signed now = .ok (db', attempt)) :
    ∀ a ∈ db.attempts, a.Live → a.nonceAllocationId ≠ some req.allocationId := by
  intro a ha hlive hslot
  have hres := reserves_of_ok h
  rcases claimActionNonce_ok hres.slot with ⟨n, hn, hid, hkind, hreleased | hnone, -⟩ | ⟨hfresh, -⟩
  · exact hheld n hn hkind hreleased a ha hlive (hid ▸ hslot)
  · have hnot := List.find?_eq_none.mp hnone a ha
    refine hnot (decide_eq_true ⟨hslot, hres.fresh a ha, ?_⟩)
    exact hlive.imp_right .inl
  · obtain ⟨n, hn, hid, -⟩ := hrec.row ha hslot
    exact hfresh n hn (.inl hid)

theorem reserve_law (hrec : Recorded db) (hheld : Held db)
    (h : reserveAndPersistRawTx db req signed now = .ok (db', attempt)) : Recorded db'
    ∧ Held db' := by
  have hres := reserves_of_ok h
  have hunheld := reserve_unheld hrec hheld h
  have hattempts : db'.attempts.map (·.slotKey) = db.attempts.map (·.slotKey)
      ++ [(⟨req.profileId, req.intentId, attempt.attemptNumber⟩, some req.allocationId)] := by
    rw [hres.attempts, List.map_append]
    rfl
  -- the slot is no longer free, and no other slot has become so
  have hrows : (∀ x ∈ db.allocations.map (·.rowKey), x ∈ db'.allocations.map (·.rowKey))
      ∧ (req.allocationId, NonceKind.action) ∈ db'.allocations.map (·.rowKey)
      ∧ ∀ id, Free db'.allocations id → Free db.allocations id ∧ id ≠ req.allocationId := by
    rcases claimActionNonce_ok hres.slot with ⟨n, hn, hid, hkind, -, hrows⟩ | ⟨hfresh, hrows⟩
    · have hsame : db'.allocations.map (·.rowKey) = db.allocations.map (·.rowKey) := by
        rw [hrows]
        exact map_setWhere _ fun _ => rfl
      rw [hsame]
      refine ⟨fun x hx => hx, ?_, fun id hfree => ?_⟩
      · exact List.mem_map.mpr ⟨n, hn, Prod.ext hid hkind⟩
      · rw [hrows] at hfree
        obtain ⟨m, hm, hmid, hmkind, ⟨hnot, hrel⟩ | ⟨-, hrel⟩⟩ :=
          free_of_setWhere hfree fun _ => rfl
        · exact ⟨⟨m, hm, hmid, hmkind, hrel⟩, fun heq => hnot ⟨hmid.trans heq, hmkind⟩⟩
        · cases hrel
    · rw [hrows, List.map_append]
      refine ⟨fun x hx => List.mem_append_left _ hx,
        List.mem_append_right _ (List.mem_singleton.mpr rfl), ?_⟩
      rintro id ⟨m, hm, hmid, hmkind, hrel⟩
      rcases List.mem_append.mp hm with hm | hm
      · exact ⟨⟨m, hm, hmid, hmkind, hrel⟩, fun heq => hfresh m hm (.inl (hmid.trans heq))⟩
      · rw [List.mem_singleton.mp hm] at hrel
        cases hrel
  obtain ⟨hold, hnew, hfree⟩ := hrows
  refine ⟨⟨?_, ?_⟩, held_iff.mpr fun id k hid hk => ?_⟩
  · rw [hattempts, List.map_append, List.nodup_append]
    refine ⟨hrec.keys, List.nodup_singleton _, fun x hx y hy heq => ?_⟩
    obtain ⟨z, hz, rfl⟩ := List.mem_map.mp hx
    obtain ⟨a, ha, rfl⟩ := List.mem_map.mp hz
    rw [List.mem_singleton.mp hy] at heq
    exact hres.fresh a ha heq
  · intro x hx id hid
    rw [hattempts] at hx
    rcases List.mem_append.mp hx with hx | hx
    · exact hold _ (hrec.slots x hx id hid)
    · rw [List.mem_singleton.mp hx] at hid
      cases hid
      exact hnew
  · obtain ⟨hid, hne⟩ := hfree id hid
    obtain ⟨a, ha, hak, hslot, hlive⟩ := hk
    rw [hres.attempts] at ha
    rcases List.mem_append.mp ha with ha | ha
    · exact held_iff.mp hheld id k hid ⟨a, ha, hak, hslot, hlive⟩
    · rw [List.mem_singleton.mp ha] at hslot
      exact hne (Option.some.inj hslot).symm

end

/-! ## The sweep -/

section
variable {db db' : Db} {policy : SweepPolicy} {now : Int} {row : ClaimedAttempt}
  {resolution : Resolution} {outcome : RowOutcome}

theorem Recorded.owns (h : Recorded db) {a : TxAttempt} (ha : a ∈ db.attempts) {owner : String}
    (hp : db.Updatable row owner a) : db.Owns row owner := by
  have hkeys := h.keys
  rw [List.map_map] at hkeys
  exact affected_of_key hkeys ha hp fun b _ hb => hb.1.1.trans hp.1.1.symm

theorem owns_of_setWhere {p : TxAttempt → Prop} [DecidablePred p] {f : TxAttempt → TxAttempt}
    {owner : String} (h : db'.Owns row owner) (hrec : Recorded db)
    (hintents : db'.intents = db.intents)
    (hattempts : db'.attempts = setWhere p f db.attempts) (hf : ∀ a, (f a).claimOwner = none) :
    db.Owns row owner := by
  obtain ⟨b, hb, hclaimed, hprofile⟩ := mem_of_affected h
  rw [hattempts] at hb
  obtain ⟨a, ha, rfl⟩ := mem_setWhere.mp hb
  by_cases hp : p a
  · rw [if_pos hp] at hclaimed
    cases (hf a).symm.trans hclaimed.2.2
  · rw [if_neg hp] at hclaimed hprofile
    rw [hintents] at hprofile
    exact hrec.owns ha ⟨hclaimed, hprofile⟩

/-- What a turn of the sweep needs: the slot that it releases is held by the row alone. -/
def TurnClear (db : Db) (policy : SweepPolicy) (row : ClaimedAttempt)
    (resolution : Resolution) : Prop :=
  db.Owns row policy.claimOwner → (∃ reason, resolution = .safeToRelease reason) →
    ∀ id ∈ row.allocationId, ∀ k, HeldBy db.attempts id k → k = row.attemptId

/-- What a turn of the sweep leaves. -/
structure TurnKeeps (db db' : Db) (policy : SweepPolicy) : Prop where
  recorded : Recorded db'
  law : Held db'
  held : ∀ id k, HeldBy db'.attempts id k → HeldBy db.attempts id k
  owns : ∀ other, db'.Owns other policy.claimOwner → db.Owns other policy.claimOwner

theorem TurnKeeps.of_quiet (hrec : Recorded db) (hheld : Held db) (h : Quiet db db')
    (howns : ∀ other, db'.Owns other policy.claimOwner → db.Owns other policy.claimOwner) :
    TurnKeeps db db' policy :=
  ⟨hrec.of_rows h.attempts h.allocations, h.law hheld, h.held, howns⟩

theorem deferAttempt_keeps (hrec : Recorded db) (hheld : Held db) (attemptId : AttemptRowId)
    (lease : Int) : TurnKeeps db (deferAttempt db attemptId policy.claimOwner lease) policy := by
  refine .of_quiet hrec hheld ?_ fun other h => owns_of_setWhere h hrec rfl rfl fun _ => rfl
  apply quiet_attempts
  · exact fun _ => rfl
  · exact fun a hp _ => .inl hp.2.1

theorem Applies.keeps (hrec : Recorded db) (hheld : Held db)
    (h : Applies policy now db row resolution db' outcome)
    (hclear : TurnClear db policy row resolution) : TurnKeeps db db' policy := by
  cases h with
  | executes u owns status kind =>
      have hconsumed : NonceStatus.consumed ≠ .released := nofun
      refine .of_quiet hrec hheld (Quiet.trans ?_ (quiet_setNonce hconsumed _ _)) fun other h =>
        owns_of_setWhere h hrec (setNonce_intents _ _ _ _) (setNonce_attempts _ _ _ _) fun _ => rfl
      exact quiet_attempts (fun a => rfl) fun a hp _ => .inl hp.1.2.1
  | releases u reason owns status =>
      -- the attempt of the row has failed, so it holds nothing any more
      have hleft :
        ∀ id k, HeldBy (setWhere (db.Updatable row policy.claimOwner) u.on db.attempts) id k →
          HeldBy db.attempts id k ∧ k ≠ row.attemptId := by
        intro id k hk
        obtain ⟨a, ha, hid, hslot, ⟨hp, hlive⟩ | ⟨-, hlive⟩⟩ := heldBy_of_setWhere hk fun _ => rfl
        · refine ⟨⟨a, ha, hid, hslot, hlive⟩, fun heq => hp ?_⟩
          obtain ⟨b, hb, hupd⟩ := mem_of_affected owns
          have hab : a = b := hrec.eq_of_id ha hb (hid.trans (heq.trans hupd.1.1.symm))
          exact hab ▸ hupd
        · rcases hlive with hlive | hlive
          · cases status.symm.trans hlive
          · cases status.symm.trans hlive
      refine ⟨hrec.of_rows ?_ (setNonce_rows _ _ _), held_iff.mpr fun id k hid hk => ?_,
        fun id k hk => ?_,
        fun other h => owns_of_setWhere h hrec (setNonce_intents _ _ _ _)
          (setNonce_attempts _ _ _ _) fun _ => rfl⟩
      · rw [setNonce_attempts]
        exact map_setWhere _ fun _ => rfl
      · rw [setNonce_attempts] at hk
        obtain ⟨hk, hne⟩ := hleft id k hk
        rcases release_frees hid with hfree | hslot
        · exact held_iff.mp hheld id k hfree hk
        · exact hne (hclear owns ⟨reason, rfl⟩ id hslot k hk)
      · rw [setNonce_attempts] at hk
        exact (hleft id k hk).1
  | loses lost => exact .of_quiet hrec hheld (.refl db) fun _ h => h
  | holds => exact deferAttempt_keeps hrec hheld _ _
  | sticks reason => exact deferAttempt_keeps hrec hheld _ _

/-- **A sweep keeps the law** if each slot that it releases is held by its own row alone. -/
theorem applied_law {rows : List (ClaimedAttempt × Resolution)} :
    ∀ {db db' : Db} {outcomes : List (ClaimedAttempt × RowOutcome)}, Recorded db → Held db →
      (∀ x ∈ rows, TurnClear db policy x.1 x.2) →
      applyResolutions policy now db rows = .ok (db', outcomes) → Recorded db' ∧ Held db' := by
  induction rows with
  | nil =>
      intro db db' outcomes hrec hheld _ h
      cases h
      exact ⟨hrec, hheld⟩
  | cons x rest ih =>
      intro db db' outcomes hrec hheld hclear h
      obtain ⟨⟨db₁, outcome⟩, hfirst, h⟩ := bind_ok.mp h
      obtain ⟨⟨db₂, later⟩, hrest, h⟩ := bind_ok.mp h
      cases h
      have hkeeps := (applies_of_ok hfirst).keeps hrec hheld (hclear x List.mem_cons_self)
      refine ih hkeeps.recorded hkeeps.law (fun y hy howns hsafe id hid k hk => ?_) hrest
      exact hclear y (List.mem_cons_of_mem x hy) (hkeeps.owns y.1 howns) hsafe id hid k
        (hkeeps.held id k hk)

end

/-! ## Reconciliation -/

section
variable {db db' : Db}

theorem promote_law {winner : AttemptCandidate} {txHashHex : String} {now : Int}
    (hrec : Recorded db) (hheld : Held db) (hclear : PromoteClear db winner txHashHex)
    (h : promoteVerifiedTxHash db winner.attemptId txHashHex now = .ok db') : Recorded db'
    ∧ Held db' := by
  obtain ⟨_, hunique, h⟩ := bind_ok.mp h
  cases h
  refine ⟨hrec.of_rows (map_setWhere _ fun _ => rfl) rfl, held_iff.mpr fun id k hid hk => ?_⟩
  obtain ⟨a, ha, hak, hslot, ⟨-, hlive⟩ | ⟨hp, -⟩⟩ := heldBy_of_setWhere hk fun _ => rfl
  · exact held_iff.mp hheld id k hid ⟨a, ha, hak, hslot, hlive⟩
  · refine hclear ((require_ok.mp hunique).resolve_left fun hzero => ?_) a ha hp.1 hp.2 id hslot hid
    exact List.countP_eq_zero.mp hzero a ha (decide_eq_true hp)

theorem reallocateNonce_quiet (allocationId : Option AllocationRowId) :
    Quiet db (reallocateNonce db allocationId) := by
  unfold reallocateNonce
  split
  · exact .refl db
  · exact quiet_allocations (fun _ => rfl) fun _ => nofun

theorem reallocateNonce_attempts (allocationId : Option AllocationRowId) :
    (reallocateNonce db allocationId).attempts = db.attempts := by
  unfold reallocateNonce
  split
  · rfl
  · rfl

variable {c : AttemptCandidate} {rest candidates : List AttemptCandidate}

theorem reorgRow_law (log : ExecutedLog) (rolledBack : List AttemptRowId)
    (hrec : Recorded db) (hheld : Held db) (hclear : ReorgClear db (c :: rest)) :
    Recorded (reorgRow log (db, rolledBack) c).1 ∧ Held (reorgRow log (db, rolledBack) c).1
      ∧ ReorgClear (reorgRow log (db, rolledBack) c).1 rest := by
  have hrest : ReorgClear db rest := fun c' hc' => hclear c' (List.mem_cons_of_mem c hc')
  unfold reorgRow
  dsimp only
  split
  · have hslots : Quiet (rollBack db log c) (reallocateNonce (rollBack db log c) c.allocationId) :=
      reallocateNonce_quiet c.allocationId
    have hrolled : Recorded (rollBack db log c) := hrec.of_rows (map_setWhere _ fun _ => rfl) rfl
    refine ⟨hrolled.of_rows hslots.attempts hslots.allocations,
      hslots.law (held_iff.mpr fun id k hid hk => ?_),
      fun c' hc' a ha hid hstatus id hslot hfree => ?_⟩
    · obtain ⟨a, ha, hak, hslot, ⟨-, hlive⟩ | ⟨hp, -⟩⟩ := heldBy_of_setWhere hk fun _ => rfl
      · exact held_iff.mp hheld id k hid ⟨a, ha, hak, hslot, hlive⟩
      · exact hclear c List.mem_cons_self a ha hp.1 hp.2 id hslot hid
    · -- what is still confirmed was not touched
      rw [reallocateNonce_attempts] at ha
      obtain ⟨b, hb, rfl⟩ := mem_setWhere.mp ha
      by_cases hp : b.id = c.attemptId ∧ b.status = .confirmed
      · rw [if_pos hp] at hstatus
        cases hstatus
      · rw [if_neg hp] at hid hstatus hslot
        exact hrest c' hc' b hb hid hstatus id hslot (hslots.free id hfree)
  · exact ⟨hrec, hheld, hrest⟩

/-- **A removed log keeps the law** if no candidate that it brings back has lost its slot. -/
theorem reorg_law (log : ExecutedLog) :
    ∀ {db : Db} {rolledBack : List AttemptRowId}, Recorded db → Held db → ReorgClear db candidates →
      Recorded (candidates.foldl (reorgRow log) (db, rolledBack)).1
        ∧ Held (candidates.foldl (reorgRow log) (db, rolledBack)).1 := by
  induction candidates with
  | nil => exact fun hrec hheld _ => ⟨hrec, hheld⟩
  | cons c rest ih =>
      intro db rolledBack hrec hheld hclear
      obtain ⟨hrec', hheld', hclear'⟩ := reorgRow_law log rolledBack hrec hheld hclear
      exact ih hrec' hheld' hclear'

/-- What is left to do for the candidates `rest` of an external execution: a slot that is free, or
is about to be, is held by them alone. -/
structure Pending (db : Db) (log : ExecutedLog) (rest : List AttemptCandidate) : Prop where
  recorded : Recorded db
  free : ∀ id k, Free db.allocations id → HeldBy db.attempts id k → k ∈ rest.map (·.attemptId)
  clear : ExternalClear db log rest

theorem heldBy_of_confirmed {log : ExecutedLog} {now : Int} (hrec : Recorded db)
    (hone : affected (fun a : TxAttempt => a.id = c.attemptId ∧ a.status ≠ .confirmed)
      db.attempts = 1)
    {id : AllocationRowId} {k : AttemptRowId}
    (h : HeldBy (confirmExternally db log now c).attempts id k) :
    HeldBy db.attempts id k ∧ k ≠ c.attemptId := by
  obtain ⟨a, ha, hid, hslot, ⟨hp, hlive⟩ | ⟨-, hlive⟩⟩ := heldBy_of_setWhere h fun _ => rfl
  · refine ⟨⟨a, ha, hid, hslot, hlive⟩, fun heq => hp ?_⟩
    obtain ⟨b, hb, hbp⟩ := mem_of_affected hone
    have hab : a = b := hrec.eq_of_id ha hb (hid.trans (heq.trans hbp.1.symm))
    exact hab ▸ hbp
  · exact hlive.elim nofun nofun

theorem not_heldBy_of_confirmed (hrec : Recorded db)
    (hnone : affected (fun a : TxAttempt => a.id = c.attemptId ∧ a.status ≠ .confirmed)
      db.attempts ≠ 1)
    {id : AllocationRowId} : ¬ HeldBy db.attempts id c.attemptId := by
  rintro ⟨a, ha, hid, -, hlive⟩
  have hkeys := hrec.keys
  rw [List.map_map] at hkeys
  have hstatus : a.status ≠ .confirmed := by
    rcases hlive with h | h
    · rw [h]
      exact nofun
    · rw [h]
      exact nofun
  exact hnone (affected_of_key hkeys ha ⟨hid, hstatus⟩ fun b _ hb => hb.1.trans hid.symm)

theorem mem_rest {k : AttemptRowId}
    (h : k ∈ (c :: rest).map (·.attemptId)) (hne : k ≠ c.attemptId) : k ∈ rest.map (·.attemptId) :=
  (List.mem_cons.mp h).resolve_left hne

theorem fulfillRow_pending (log : ExecutedLog) (now : Int) (settled : Settled)
    (h : Pending db log (c :: rest)) :
    Pending (fulfillRow log now (db, settled) c).1 log rest := by
  unfold fulfillRow
  dsimp only
  split
  · rename_i hone
    have hheld : ∀ id k, HeldBy (confirmExternally db log now c).attempts id k →
        HeldBy db.attempts id k ∧ k ≠ c.attemptId := fun id k => heldBy_of_confirmed h.recorded hone
    have hrows : ((confirmExternally db log now c).attempts.map (·.slotKey))
      = db.attempts.map (·.slotKey) :=
      map_setWhere _ fun _ => rfl
    have hopen : ∃ a ∈ db.attempts, a.id = c.attemptId ∧ a.status ≠ .confirmed :=
      mem_of_affected hone
    -- whatever was done to the slot, the rest of the candidates is as pending as before
    have hpending : ∀ status releasedAt,
      (status = .released → c.signerAddress ≠ some log.winnerKey) →
        Pending (setNonce (confirmExternally db log now c) c.allocationId status releasedAt) log
          rest := by
      intro status releasedAt hsigner
      refine ⟨h.recorded.of_rows ?_ (setNonce_rows _ _ _), fun id k hfree hk => ?_,
        fun c' hc' hopen' hsigner' id hid k hk => ?_⟩
      · rw [setNonce_attempts]
        exact hrows
      · rw [setNonce_attempts] at hk
        obtain ⟨hk, hne⟩ := hheld id k hk
        refine mem_rest ?_ hne
        by_cases hstatus : status = .released
        · rw [hstatus] at hfree
          rcases release_frees hfree with hfree | hslot
          · exact h.free id k hfree hk
          · exact h.clear c List.mem_cons_self hopen (hsigner hstatus) id hslot k hk
        · have hfree : Free (confirmExternally db log now c).allocations id :=
            (quiet_setNonce hstatus _ _).free id hfree
          exact h.free id k hfree hk
      · rw [setNonce_attempts] at hk hopen'
        obtain ⟨hk, hne⟩ := hheld id k hk
        refine mem_rest (h.clear c' (List.mem_cons_of_mem c hc') ?_ hsigner' id hid k hk) hne
        obtain ⟨b, hb, hbid, hbstatus⟩ := hopen'
        obtain ⟨a, ha, rfl⟩ := mem_setWhere.mp hb
        by_cases hp : a.id = c.attemptId ∧ a.status ≠ .confirmed
        · rw [if_pos hp] at hbstatus
          exact absurd rfl hbstatus
        · rw [if_neg hp] at hbid hbstatus
          exact ⟨a, ha, hbid, hbstatus⟩
    split
    · rename_i hnone
      have hsame := hpending .consumed none (by rintro ⟨⟩)
      rw [hnone] at hsame
      exact hsame
    · rename_i id hid
      rw [hid] at hpending
      split
      · exact hpending .consumed none (by rintro ⟨⟩)
      · rename_i hsigner
        exact hpending .released (some now) fun _ => hsigner
  · rename_i hnone
    refine ⟨h.recorded, fun id k hfree hk => ?_, fun c' hc' hopen hsigner id hid k hk => ?_⟩
    · exact mem_rest (h.free id k hfree hk) fun heq =>
        not_heldBy_of_confirmed h.recorded hnone (heq ▸ hk)
    · exact mem_rest (h.clear c' (List.mem_cons_of_mem c hc') hopen hsigner id hid k hk)
        fun heq => not_heldBy_of_confirmed h.recorded hnone (heq ▸ hk)

/-- **An external execution keeps the law** if the slots that it releases are held by candidates
alone. -/
theorem external_law (log : ExecutedLog) (now : Int) :
    ∀ {db : Db} {settled : Settled}, Pending db log candidates →
      Recorded (candidates.foldl (fulfillRow log now) (db, settled)).1
        ∧ Held (candidates.foldl (fulfillRow log now) (db, settled)).1 := by
  induction candidates with
  | nil =>
      intro db settled h
      exact ⟨h.recorded, held_iff.mpr fun id k hfree hk =>
        absurd (h.free id k hfree hk) List.not_mem_nil⟩
  | cons c rest ih =>
      intro db settled h
      exact ih (fulfillRow_pending log now settled h)

theorem reconcileLog_law {log : ExecutedLog} {told : Told} {job : Job}
    (hrec : Recorded db) (hheld : Held db) (hclear : (Job.observed log candidates).Clear db told)
    (h : reconcileLog db log candidates told = .ok (db', job)) : Recorded db' ∧ Held db' := by
  unfold reconcileLog at h
  unfold Job.Clear at hclear
  by_cases hremoved : log.removed = true
  · rw [if_pos hremoved] at h
    dsimp only at hclear
    rw [if_pos hremoved] at hclear
    cases h
    exact reorg_law log hrec hheld hclear
  · rw [if_neg hremoved] at h
    dsimp only at hclear
    rw [if_neg hremoved] at hclear
    split at h
    · cases h
      exact ⟨hrec, hheld⟩
    · obtain ⟨final, hfinal, h⟩ := bind_ok.mp h
      cases final with
      | false =>
          cases h
          exact ⟨hrec, hheld⟩
      | true =>
          rw [if_pos rfl] at h
          obtain ⟨winner, hwinner, h⟩ := bind_ok.mp h
          have hclear := hclear hfinal
          rw [hwinner] at hclear
          cases winner with
          | none =>
              cases h
              exact external_law log told.now
                ⟨hrec, fun id k hfree hk => absurd hk (held_iff.mp hheld id k hfree), hclear⟩
          | some winner =>
              dsimp only at h hclear
              split at h
              · rename_i hnone
                obtain ⟨db₁, hpromote, h⟩ := bind_ok.mp h
                cases h
                exact promote_law hrec hheld (hclear hnone) hpromote
              · cases h
                exact ⟨hrec, hheld⟩

/-- **Each transaction of a job keeps the law**, if the job finds what it has to find. -/
theorem job_law {told : Told} {job : Job} (hrec : Recorded db) (hheld : Held db)
    (hclear : job.Clear db told) : Recorded (job.step db told).1 ∧ Held (job.step db told).1 := by
  cases job with
  | sweep policy rows =>
      unfold Job.step
      dsimp only
      split
      · rename_i db' outcomes happly
        refine applied_law hrec hheld (fun x hx => ?_) happly
        obtain ⟨row, hrow, rfl⟩ := List.mem_map.mp hx
        exact hclear row hrow
      · exact ⟨hrec, hheld⟩
  | observed log candidates =>
      unfold Job.step
      dsimp only
      split
      · rename_i db' job hlog
        exact reconcileLog_law hrec hheld hclear hlog
      · exact ⟨hrec, hheld⟩
  | folding profileId log =>
      unfold Job.step
      dsimp only
      split
      · rename_i db' hfold
        have hquiet := fold_quiet hfold
        exact ⟨hrec.of_rows hquiet.attempts hquiet.allocations, hquiet.law hheld⟩
      · exact ⟨hrec, hheld⟩
  | done => exact ⟨hrec, hheld⟩

end

/-! ## Every run -/

/-- **Each transaction keeps the law**, if what it acts on is clear. -/
theorem next_law {w : Ledger} {t : Transaction} (hrec : Recorded w.db) (hheld : Held w.db)
    (hclear : w.Clear t) : Recorded (w.next t).db ∧ Held (w.next t).db := by
  have hquiet : ∀ {db : Db}, Quiet w.db db → Recorded db ∧ Held db :=
    fun h => ⟨hrec.of_rows h.attempts h.allocations, h.law hheld⟩
  cases t with
  | quotes intents => exact hquiet (quiet_intents intents)
  | reserve req signed now =>
      unfold Ledger.next
      dsimp only
      split
      · rename_i db attempt hreserve
        exact reserve_law hrec hheld hreserve
      · exact ⟨hrec, hheld⟩
  | record claimOwner attemptId txHash now =>
      unfold Ledger.next
      dsimp only
      split
      · rename_i db hrecord
        exact hquiet (record_quiet hrecord)
      · exact ⟨hrec, hheld⟩
  | claim policy now => exact hquiet (claim_quiet policy now)
  | observe log candidates =>
      unfold Ledger.next
      dsimp only
      split
      · exact ⟨hrec, hheld⟩
      · exact ⟨hrec, hheld⟩
  | job i told =>
      unfold Ledger.next
      dsimp only
      split
      · exact ⟨hrec, hheld⟩
      · rename_i job hjob
        exact job_law hrec hheld (hclear job hjob)

/-- A database without an attempt. -/
def Ledger.initial (intents : List IntentRow) : Ledger := ⟨⟨intents, [], []⟩, []⟩

/-- No slot is released while it is held, and none is given that is. -/
structure Lawful (w : Ledger) : Prop where
  held : Held w.db
  grants : ∀ req signed now db' attempt, reserveAndPersistRawTx w.db req signed now
    = .ok (db', attempt) → ∀ a ∈ w.db.attempts, a.Live → a.nonceAllocationId ≠ some req.allocationId

/-- **A held slot is never released**, in any run whose sweeps and logs find the slots as their rows
have left them; and no reservation is given a slot that a live attempt holds. -/
theorem held_slots_kept (intents : List IntentRow) {ts : List Transaction}
    (hclear : Runs.Guarded Ledger.next Ledger.Clear (Ledger.initial intents) ts) :
    Runs.Throughout Ledger.next Lawful (Ledger.initial intents) ts := by
  have hinitial : Recorded (Ledger.initial intents).db ∧ Held (Ledger.initial intents).db :=
    ⟨⟨List.nodup_nil, fun x hx => absurd hx List.not_mem_nil⟩,
      fun n hn => absurd hn List.not_mem_nil⟩
  have hall := Runs.throughout_of_guarded (I := fun w : Ledger => Recorded w.db ∧ Held w.db)
    (fun w t h hok => next_law h.1 h.2 hok) hinitial hclear
  intro before hbefore
  obtain ⟨hrec, hheld⟩ := hall before hbefore
  exact ⟨hheld, fun req signed now db' attempt h => reserve_unheld hrec hheld h⟩

/-! ## Two runs -/

/-- A reservation of the first slot of the controller `5`. -/
def sampleRequest (intentId : Bytes32) : ReservationRequest :=
  ⟨"p", intentId, 1, 5, .sponsoredEnrollment, 0, "submit", 10⟩

def sampleSweep : SweepPolicy := ⟨"sweep", 60, 10, 3⟩

/-- The sweep finds an intent unused and past its expiry; a log of block `50` is corroborated. -/
def sampleTold : Told :=
  ⟨fun _ => ⟨fun _ => .ok none, .ok 40, fun _ _ _ => .ok false, .ok 300⟩, ⟨3⟩,
    ⟨.ok (some ⟨77, 50, 8, true⟩), .ok 60⟩, 100⟩

/-- Three intents of one profile. -/
def sampleIntents : List IntentRow :=
  [⟨⟨"p", 9⟩, "p", .pending, some 200⟩, ⟨⟨"p", 10⟩, "p", .pending, some 900⟩,
    ⟨⟨"p", 11⟩, "p", .pending, some 900⟩]

/-- An attempt for the intent `9` goes stale. -/
def staleRun : List Transaction :=
  [.reserve (sampleRequest 9) ⟨[1], 0, 0⟩ 0, .claim sampleSweep 100]

/-- The sweep releases its slot, and an attempt for the intent `10` takes it. -/
def sweptRun : List Transaction :=
  staleRun ++ [.job 0 sampleTold, .reserve (sampleRequest 10) ⟨[2], 0, 0⟩ 110]

theorem reserve_jobs (w : Ledger) (req : ReservationRequest) (signed : SignedRawTx) (now : Int) :
    (w.next (.reserve req signed now)).jobs = w.jobs := by
  unfold Ledger.next
  dsimp only
  split
  · rfl
  · rfl

theorem sweptRun_guarded :
    Runs.Guarded Ledger.next Ledger.Clear (Ledger.initial sampleIntents) sweptRun := by
  have hstale : Runs.Guarded Ledger.next Ledger.Clear (Ledger.initial sampleIntents) staleRun :=
    Runs.guarded_cons trivial (Runs.guarded_cons trivial Runs.guarded_nil)
  refine Runs.guarded_append hstale
    (Runs.guarded_cons ?_ (Runs.guarded_cons trivial Runs.guarded_nil))
  -- one attempt, and the sweep has claimed no other
  have hattempts : ∀ a ∈ (staleRun.foldl Ledger.next (Ledger.initial sampleIntents)).db.attempts,
      a.id = ⟨"p", 9, 0⟩ := by
    decide +kernel
  have hrows : ∀ row ∈ (claimStaleReservations ((staleRun.take 1).foldl Ledger.next
      (Ledger.initial sampleIntents)).db sampleSweep 100).2, row.attemptId = ⟨"p", 9, 0⟩ := by
    decide +kernel
  have hjobs : (staleRun.foldl Ledger.next (Ledger.initial sampleIntents)).jobs
      = [.sweep sampleSweep (claimStaleReservations ((staleRun.take 1).foldl Ledger.next
        (Ledger.initial sampleIntents)).db sampleSweep 100).2] := by
    show ((Ledger.initial sampleIntents).next (.reserve (sampleRequest 9) ⟨[1], 0, 0⟩ 0)).jobs
      ++ _ = _
    rw [reserve_jobs]
    rfl
  intro job hjob
  rw [hjobs] at hjob
  cases hjob
  rintro row hrow - - id - k ⟨a, ha, rfl, -, -⟩
  rw [hattempts a ha, hrows row hrow]

theorem held_slots_kept_swept :
    Runs.Throughout Ledger.next Lawful (Ledger.initial sampleIntents) sweptRun :=
  held_slots_kept sampleIntents sweptRun_guarded

/-- Another controller has executed the intent `9`. -/
def foreignLog : ExecutedLog := ⟨9, 7, 77, 50, 8, 0, false⟩

/-- The log of the intent `9` is observed after its slot has been taken by another attempt. -/
def foreignRun : List Transaction :=
  sweptRun ++ [.observe foreignLog
    (candidatesForIntentId (sweptRun.foldl Ledger.next (Ledger.initial sampleIntents)).db 9),
    .job 1 sampleTold]

/-- The ledger after the first reservation, with the hash of its bytes. -/
def firstLedger : Ledger :=
  ⟨⟨sampleIntents,
    [{ (sampleRequest 9).attempt ⟨[1], 0, 0⟩ 0 1 10 0 with
      rawTxHash := some "0x5fe7f977e71dba2ea1a68e21057beebb9be2ac30c6410aa38d4f3fbe41dcffd2" }],
    [(sampleRequest 9).allocation 0 1 10 0]⟩, []⟩

theorem next_first :
    (Ledger.initial sampleIntents).next (.reserve (sampleRequest 9) ⟨[1], 0, 0⟩ 0)
    = firstLedger := by
  have hhash : (⟨[1], 0, 0⟩ : SignedRawTx).hashHex
      = "0x5fe7f977e71dba2ea1a68e21057beebb9be2ac30c6410aa38d4f3fbe41dcffd2" := by
    rw [SignedRawTx.hashHex, SignedRawTx.hash, keccak256_eval]
    decide +kernel
  have hnext : (Ledger.initial sampleIntents).next (.reserve (sampleRequest 9) ⟨[1], 0, 0⟩ 0)
      = ⟨⟨sampleIntents, [(sampleRequest 9).attempt ⟨[1], 0, 0⟩ 0 1 10 0],
        [(sampleRequest 9).allocation 0 1 10 0]⟩, []⟩ := by
    simp only [Ledger.next, reserveAndPersistRawTx, Ledger.initial, List.filter_nil,
      List.mergeSort_nil]
    rfl
  rw [hnext, ReservationRequest.attempt, hhash]
  rfl

theorem sweptRun_eq : sweptRun.foldl Ledger.next (Ledger.initial sampleIntents)
    = (sweptRun.drop 1).foldl Ledger.next firstLedger := by
  rw [← next_first]
  rfl

/-- **The slot of a live attempt is released, and given away.** -/
theorem held_slot_given_away :
    ¬ Held (foreignRun.foldl Ledger.next (Ledger.initial sampleIntents)).db
      ∧ ∃ a ∈ (foreignRun.foldl Ledger.next (Ledger.initial sampleIntents)).db.attempts,
        a.Live ∧ a.intentId ≠ (sampleRequest 11).intentRow
          ∧ a.nonceAllocationId = some (sampleRequest 11).allocationId
          ∧ (reserveAndPersistRawTx (foreignRun.foldl Ledger.next (Ledger.initial sampleIntents)).db
            (sampleRequest 11) ⟨[3], 0, 0⟩ 120).isOk = true := by
  generalize hrun : (foreignRun.foldl Ledger.next (Ledger.initial sampleIntents)).db = db
  have hgiven : ∃ a ∈ db.attempts, (a.Live ∧ a.intentId ≠ (sampleRequest 11).intentRow
      ∧ a.nonceAllocationId = some (sampleRequest 11).allocationId
      ∧ (reserveAndPersistRawTx db (sampleRequest 11) ⟨[3], 0, 0⟩ 120).isOk = true)
      ∧ ∃ n ∈ db.allocations, n.kind = .action ∧ n.status = .released
        ∧ a.nonceAllocationId = some n.id := by
    rw [← hrun, foreignRun, List.foldl_append, sweptRun_eq]
    decide +kernel
  obtain ⟨a, ha, hgiven, n, hn, hkind, hstatus, hslot⟩ := hgiven
  exact ⟨fun hheld => hheld n hn hkind hstatus a ha hgiven.1 hslot, a, ha, hgiven⟩

end GoatCoin.StreamG
