/-
# `GoatCoin.StreamG.Broadcaster` — `broadcaster.rs`: one payload for each nonce of the account

A call claims a nonce of the broadcasting account, signs against it, stores what it has signed and
hands it to the node.  Until then it may give the nonce back, and afterwards it never does:

    start → counted → allocated → signed → cleared → persisted → accepted → done
                          |          |         |
                          +----------+---------+--→ releasing → done

Any number of calls are under way at once, and each step of one is a transaction, or an answer of
the node or of the signer.  The count of mined transactions is read in a step of its own, so it may
be stale when the nonce is claimed.  The calls share the database with whoever writes the other rows
of it; the rows of the account are theirs alone.
-/
import GoatCoin.Lib.Leases
import GoatCoin.Lib.Runs
import GoatCoin.StreamG.Outbox

namespace GoatCoin.StreamG

open Evm Rows

/-! ## The nonces of the account -/

/-- Why a broadcast fails. -/
inductive BroadcasterError where
  | nativeExposure (detail : String)
  | store (detail : String)
  | chain (detail : String)
  | outbox (e : OutboxError)
  | nonceRowConflict (chainId : Nat) (signer : Signer) (nonce : Nat)
  | outOfRange (value : Nat)
  | signing (detail : String)
deriving DecidableEq

structure BroadcasterNonce where
  allocationId : AllocationRowId
  nonce : Nat
  signerAddress : Signer
  refilledGap : Bool
deriving DecidableEq

/-- `broadcaster_nonce_row_id`. -/
def broadcasterNonceRowId (chainId : Nat) (broadcaster : Address) (nonce : Nat) : AllocationRowId :=
  ⟨.broadcaster, chainId, .account broadcaster, nonce⟩

/-- The rows of an account. -/
def NonceAllocation.Of (n : NonceAllocation) (chainId : Nat) (broadcaster : Address) : Prop :=
  n.kind = .broadcaster ∧ n.chainId = chainId ∧ n.signerAddress = .account broadcaster

instance (n : NonceAllocation) (chainId : Nat) (broadcaster : Address) :
    Decidable (n.Of chainId broadcaster) :=
  inferInstanceAs (Decidable (_ ∧ _ ∧ _))

/-- The lowest released hole at or above the mined count. -/
def lowestHole (rows : List NonceAllocation) (chainId : Nat) (broadcaster : Address) (mined : Nat) :
    Option NonceAllocation :=
  ((rows.filter fun n => n.Of chainId broadcaster ∧ n.status = .released
    ∧ mined ≤ n.nonce).mergeSort fun a b => a.nonce ≤ b.nonce).head?

/-- `MAX(nonce)` over the rows that the account still owns. -/
def highestLive (rows : List NonceAllocation) (chainId : Nat)
    (broadcaster : Address) : Option Nat :=
  ((rows.filter fun n => n.Of chainId broadcaster
    ∧ (n.status = .allocated ∨ n.status = .consumed)).map (·.nonce)).max?

/-- `i64::try_from`. -/
def asNonceI64 (n : Word 64) : Except BroadcasterError Nat :=
  if n.val < 2 ^ 63 then .ok n.val else .error (.outOfRange n.val)

def allocateBroadcasterNonce (db : Db) (chainId : Word 64) (broadcaster : Address)
    (claimOwner : String) (leaseTtlSeconds : Int) (minedCount : Word 64) (now : Int) :
    Except BroadcasterError (Db × BroadcasterNonce) := do
  let chainId ← asNonceI64 chainId
  let mined ← asNonceI64 minedCount
  let leaseUntil := saturatingAddI64 now leaseTtlSeconds
  match lowestHole db.allocations chainId broadcaster mined with
  | some hole => do
      let touched := fun n : NonceAllocation =>
        n.id = hole.id ∧ n.kind = .broadcaster ∧ n.status = .released
      require (affected touched db.allocations = 1)
        (.nonceRowConflict chainId (.account broadcaster) hole.nonce)
      let allocations := setWhere touched
        (fun n => { n with status := .allocated, allocatedAt := now, releasedAt := none,
                           claimOwner := some claimOwner, leaseUntil := some leaseUntil })
                             db.allocations
      pure ({ db with allocations := allocations },
        ⟨hole.id, hole.nonce, .account broadcaster, true⟩)
  | none =>
      let next := match highestLive db.allocations chainId broadcaster with
        | some high => max mined (min (high + 1) (2 ^ 63 - 1))
        | none => mined
      let id := broadcasterNonceRowId chainId broadcaster next
      let row : NonceAllocation := ⟨id, chainId, .account broadcaster, next, .allocated, now, none,
        .broadcaster, some claimOwner, some leaseUntil⟩
      match insertOrIgnore NonceAllocation.clashes row db.allocations with
      | none => .error (.nonceRowConflict chainId (.account broadcaster) next)
      | some rows => .ok ({ db with allocations := rows }, ⟨id, next, .account broadcaster, false⟩)

/-- The nonce may be taken again. -/
def releaseBroadcasterNonce (db : Db) (allocationId : AllocationRowId) (now : Int) : Db :=
  let allocations := setWhere
    (fun n => n.id = allocationId ∧ n.kind = .broadcaster ∧ n.status = .allocated)
    (fun n => { n with status := .released, releasedAt := some now, claimOwner := none,
                       leaseUntil := none }) db.allocations
  { db with allocations := allocations }

/-! ## The send path -/

/-- `SponsoredEnrollmentTxSigner`, for calls of type `C`.  It may fail, and answer otherwise the
next time, but what it signs carries the nonce it was given. -/
structure TxSigner (C : Type) where
  broadcasterAddress : Address
  sign : Nat → Address → Nat → C → Except String SignedRawTx
  nonceOf : List UInt8 → Option Nat
  signs_nonce : ∀ {seed gateway nonce call signed},
    sign seed gateway nonce call = .ok signed → nonceOf signed.raw = some nonce

/-- What is to be sent. -/
structure BroadcastPlan (C : Type) where
  profileId : String
  intentId : Bytes32
  gateway : Address
  controller : Address
  action : ActionType
  actionNonce : Word 64
  claimOwner : String
  leaseTtlSeconds : Int
  call : C

def BroadcastPlan.request {C : Type} (plan : BroadcastPlan C)
    (chainId : Word 64) : ReservationRequest :=
  ⟨plan.profileId, plan.intentId, chainId, plan.controller, plan.action, plan.actionNonce,
    plan.claimOwner, plan.leaseTtlSeconds⟩

/-- Why a payload that was handed on is not known to be accepted. -/
inductive SendFailure where
  | node (detail : String)
  | record (e : OutboxError)

/-- How a broadcast ends. -/
inductive BroadcastOutcome where
  | accepted (nonce : BroadcasterNonce) (attempt : ReservedAttempt) (txHashHex : String)
  | unresolvedWithKnownHash (nonce : BroadcasterNonce) (attempt : ReservedAttempt)
    (rawTxHash : Bytes32)
      (failure : SendFailure)

/-- How far a call has come. -/
inductive Phase where
  | start
  | counted (minedCount : Word 64)
  | allocated (nonce : BroadcasterNonce)
  | signed (nonce : BroadcasterNonce) (signed : SignedRawTx)
  | cleared (nonce : BroadcasterNonce) (signed : SignedRawTx)
  | persisted (nonce : BroadcasterNonce) (signed : SignedRawTx) (attempt : ReservedAttempt)
  | accepted (nonce : BroadcasterNonce) (signed : SignedRawTx) (attempt : ReservedAttempt)
    (txHash : Bytes32)
  | releasing (nonce : BroadcasterNonce) (reason : BroadcasterError)
  | done (result : Except BroadcasterError BroadcastOutcome)

structure Call (C : Type) where
  plan : BroadcastPlan C
  phase : Phase

/-- What a step of a call may be told. -/
structure Answer where
  transactionCount : Except String (Word 64)
  seed : Nat
  exposure : Option String
  send : Except String Bytes32
  /-- The database refuses the transaction of the step. -/
  storeError : Option String
  now : Int

/-- The database and the calls, with what the calls have read, claimed and handed on. -/
structure World (C : Type) where
  db : Db
  calls : List (Call C)
  granted : List (Word 64 × BroadcasterNonce)
  inbox : List SignedRawTx

section
variable {C : Type} (chainId : Word 64) (signer : TxSigner C)

/-- What a step leaves behind: the database, the phase, a claim and a payload for the node. -/
structure Effect where
  db : Db
  phase : Phase
  granted : Option (Word 64 × BroadcasterNonce) := none
  handed : Option SignedRawTx := none

/-- `sign_persist_and_broadcast`, one step. -/
def advance (db : Db) (c : Call C) (a : Answer) : Effect :=
  match c.phase with
  | .start =>
      match a.transactionCount with
      | .error e => { db := db, phase := .done (.error (.chain s!"transaction_count: {e}")) }
      | .ok count => { db := db, phase := .counted count }
  | .counted count =>
      match a.storeError with
      | some e => { db := db, phase := .done (.error (.store e)) }
      | none =>
          match allocateBroadcasterNonce db chainId signer.broadcasterAddress c.plan.claimOwner
              c.plan.leaseTtlSeconds count a.now with
          | .error e => { db := db, phase := .done (.error e) }
          | .ok (db, nonce) =>
              { db := db, phase := .allocated nonce, granted := some (count, nonce) }
  | .allocated nonce =>
      match signer.sign a.seed c.plan.gateway nonce.nonce c.plan.call with
      | .error detail => { db := db, phase := .releasing nonce (.signing detail) }
      | .ok signed => { db := db, phase := .signed nonce signed }
  | .signed nonce signed =>
      match a.exposure with
      | some detail => { db := db, phase := .releasing nonce (.nativeExposure detail) }
      | none => { db := db, phase := .cleared nonce signed }
  | .cleared nonce signed =>
      match a.storeError with
      | some e => { db := db, phase := .releasing nonce (.outbox (.store e)) }
      | none =>
          match reserveAndPersistRawTx db (c.plan.request chainId) signed a.now with
          | .error e => { db := db, phase := .releasing nonce (.outbox e) }
          | .ok (db, attempt) => { db := db, phase := .persisted nonce signed attempt }
  | .persisted nonce signed attempt =>
      match a.send with
      | .ok txHash =>
          { db := db, phase := .accepted nonce signed attempt txHash, handed := some signed }
      | .error e =>
          -- an error does not mean that the payload has not reached the node
          { db := db,
            phase := .done (.ok (.unresolvedWithKnownHash nonce attempt signed.hash (.node e))),
            handed := some signed }
  | .accepted nonce signed attempt txHash =>
      match a.storeError with
      | some e =>
          { db := db, phase := .done (.ok (.unresolvedWithKnownHash nonce attempt signed.hash
              (.record (.store e)))) }
      | none =>
          match recordBroadcastAccepted db c.plan.claimOwner attempt.attemptId txHash a.now with
          | .error e =>
              { db := db, phase := .done (.ok (.unresolvedWithKnownHash nonce attempt signed.hash
                  (.record e))) }
          | .ok db =>
              { db := db, phase := .done (.ok (.accepted nonce attempt (bytes32Hex txHash))) }
  | .releasing nonce reason =>
      match a.storeError with
      | some e => { db := db, phase := .done (.error (.store e)) }
      | none =>
          { db := releaseBroadcasterNonce db nonce.allocationId a.now,
            phase := .done (.error reason) }
  | .done result => { db := db, phase := .done result }

/-- A step of some call. -/
inductive Action (C : Type) where
  /-- A call begins. -/
  | call (plan : BroadcastPlan C)
  /-- The call at the place `i` takes its next step. -/
  | step (i : Nat) (a : Answer)
  /-- Other writers leave the rows of the account alone. -/
  | others (intents : List IntentRow) (attempts : List TxAttempt) (rows : List NonceAllocation)

/-- The rows that other writers may write. -/
def NonceAllocation.Foreign (n : NonceAllocation) : Prop := n.kind = .action ∧ n.id.domain = .action

instance (n : NonceAllocation) : Decidable n.Foreign := inferInstanceAs (Decidable (_ ∧ _))

def World.next (w : World C) : Action C → World C
  | .call plan => { w with calls := w.calls ++ [⟨plan, .start⟩] }
  | .step i a =>
      match w.calls[i]? with
      | none => w
      | some c =>
          let e := advance chainId signer w.db c a
          { db := e.db, calls := w.calls.set i { c with phase := e.phase },
            granted := w.granted ++ e.granted.toList, inbox := w.inbox ++ e.handed.toList }
  | .others intents attempts rows =>
      if (rows.map (·.id)).Nodup then
        { w with db := ⟨intents, attempts, (w.db.allocations.filter (·.kind = .broadcaster))
                  ++ rows.filter (·.Foreign)⟩ }
      else w

end

/-! ## Slots that are taken -/

/-- Ids are unique, and the rows of each kind have ids of its own. -/
structure Keyed (rows : List NonceAllocation) : Prop where
  nodup : (rows.map (·.id)).Nodup
  domain : ∀ n ∈ rows, n.id.domain = n.kind
  account : ∀ n ∈ rows, n.kind = .broadcaster →
    n.id = ⟨.broadcaster, n.chainId, n.signerAddress, n.nonce⟩

/-- The slot is in somebody's hands. -/
def Taken (rows : List NonceAllocation) (id : AllocationRowId) : Prop :=
  ∃ n ∈ rows, n.id = id ∧ n.status ≠ .released

section
variable {rows : List NonceAllocation}

theorem Keyed.eq_of_id (h : Keyed rows) {a b : NonceAllocation} (ha : a ∈ rows) (hb : b ∈ rows)
    (hid : a.id = b.id) : a = b :=
  List.inj_on_of_nodup_map h.nodup ha hb hid

/-- The columns that no statement sets. -/
def NonceAllocation.key (n : NonceAllocation) : AllocationRowId × NonceKind × Nat × Signer × Nat :=
  (n.id, n.kind, n.chainId, n.signerAddress, n.nonce)

theorem Keyed.setWhere (h : Keyed rows) {p : NonceAllocation → Prop} [DecidablePred p]
    {f : NonceAllocation → NonceAllocation} (hf : ∀ n, (f n).key = n.key) :
    Keyed (Rows.setWhere p f rows) := by
  have hrow : ∀ n ∈ Rows.setWhere p f rows, ∃ m ∈ rows, n.key = m.key := by
    intro n hn
    obtain ⟨m, hm, rfl⟩ := mem_setWhere.mp hn
    refine ⟨m, hm, ?_⟩
    by_cases hp : p m
    · rw [if_pos hp, hf]
    · rw [if_neg hp]
  refine ⟨?_, fun n hn => ?_, fun n hn hkind => ?_⟩
  · rw [map_setWhere (·.id) fun n => congrArg Prod.fst (hf n)]
    exact h.nodup
  · obtain ⟨m, hm, heq⟩ := hrow n hn
    simp only [NonceAllocation.key, Prod.mk.injEq] at heq
    rw [heq.1, heq.2.1]
    exact h.domain m hm
  · obtain ⟨m, hm, heq⟩ := hrow n hn
    simp only [NonceAllocation.key, Prod.mk.injEq] at heq
    obtain ⟨hid, hk, hc, hs, hno⟩ := heq
    rw [hid, hc, hs, hno]
    exact h.account m hm (hk ▸ hkind)

theorem Keyed.snoc (h : Keyed rows) {row : NonceAllocation} (hfresh : ∀ n ∈ rows, ¬ n.clashes row)
    (hdomain : row.id.domain = row.kind)
    (haccount : row.kind = .broadcaster →
      row.id = ⟨.broadcaster, row.chainId, row.signerAddress, row.nonce⟩) :
    Keyed (rows ++ [row]) := by
  refine ⟨?_, fun n hn => ?_, fun n hn hkind => ?_⟩
  · rw [List.map_append, List.map_singleton, List.nodup_append]
    refine ⟨h.nodup, List.nodup_singleton _, fun a ha b hb => ?_⟩
    obtain ⟨n, hn, rfl⟩ := List.mem_map.mp ha
    rw [List.mem_singleton.mp hb]
    exact fun heq => hfresh n hn (.inl heq)
  · rcases List.mem_append.mp hn with hn | hn
    · exact h.domain n hn
    · rw [List.mem_singleton.mp hn]
      exact hdomain
  · rcases List.mem_append.mp hn with hn | hn
    · exact h.account n hn hkind
    · rw [List.mem_singleton.mp hn] at hkind ⊢
      exact haccount hkind

theorem taken_setWhere {p : NonceAllocation → Prop} [DecidablePred p]
    {f : NonceAllocation → NonceAllocation} (hf : ∀ n, (f n).key = n.key) {id : AllocationRowId}
    (hp : ∀ n ∈ rows, n.id = id → ¬ p n) : Taken (Rows.setWhere p f rows) id ↔ Taken rows id := by
  constructor
  · rintro ⟨n, hn, rfl, hstatus⟩
    obtain ⟨m, hm, rfl⟩ := mem_setWhere.mp hn
    have hid : (if p m then f m else m).id = m.id := by
      by_cases hpm : p m
      · rw [if_pos hpm]
        exact congrArg Prod.fst (hf m)
      · rw [if_neg hpm]
    rw [if_neg (hp m hm hid.symm)] at hstatus
    exact ⟨m, hm, hid.symm, hstatus⟩
  · rintro ⟨n, hn, rfl, hstatus⟩
    refine ⟨n, mem_setWhere.mpr ⟨n, hn, ?_⟩, rfl, hstatus⟩
    rw [if_neg (hp n hn rfl)]

theorem taken_snoc {row : NonceAllocation} {id : AllocationRowId} :
    Taken (rows ++ [row]) id ↔ Taken rows id ∨ row.id = id ∧ row.status ≠ .released := by
  simp only [Taken, List.mem_append, List.mem_singleton, or_and_right, exists_or, exists_eq_left]

end

theorem asNonceI64_ok {n : Word 64} {m : Nat} (h : asNonceI64 n = .ok m) : m = n.val := by
  unfold asNonceI64 at h
  split at h
  · exact (Except.ok.inj h).symm
  · cases h

/-- **What a claim is**: a slot at or above the count, which was in nobody's hands. -/
structure Grants (db db' : Db) (chainId : Word 64) (broadcaster : Address) (minedCount : Word 64)
    (nonce : BroadcasterNonce) : Prop where
  floor : minedCount.val ≤ nonce.nonce
  id : nonce.allocationId = broadcasterNonceRowId chainId.val broadcaster nonce.nonce
  free : ¬ Taken db.allocations nonce.allocationId
  keyed : Keyed db'.allocations
  held : Taken db'.allocations nonce.allocationId
  others : ∀ id, id ≠ nonce.allocationId → (Taken db'.allocations id ↔ Taken db.allocations id)

variable {db db' : Db} {now : Int}

theorem allocate_grants {chainId : Word 64} {broadcaster : Address} {claimOwner : String}
    {ttl : Int} {minedCount : Word 64} {nonce : BroadcasterNonce} (hkeyed : Keyed db.allocations)
    (h : allocateBroadcasterNonce db chainId broadcaster claimOwner ttl minedCount now
      = .ok (db', nonce)) :
    Grants db db' chainId broadcaster minedCount nonce := by
  obtain ⟨chain, hchain, mined, hmined, h⟩ := bind_ok₂.mp h
  have hchain := asNonceI64_ok hchain
  have hmined := asNonceI64_ok hmined
  subst hchain hmined
  dsimp only at h
  split at h
  · rename_i hole hhole
    obtain ⟨_, -, h⟩ := bind_ok.mp h
    cases h
    have hmem := List.mem_mergeSort.mp (List.mem_of_mem_head? hhole)
    obtain ⟨hin, hp⟩ := List.mem_filter.mp hmem
    obtain ⟨⟨hkind, hc, hs⟩, hstatus, hfloor⟩ := of_decide_eq_true hp
    have hid : hole.id = broadcasterNonceRowId chainId.val broadcaster hole.nonce := by
      rw [hkeyed.account hole hin hkind, hc, hs]
      rfl
    refine ⟨hfloor, hid, ?_, hkeyed.setWhere fun n => rfl, ?_, fun id hne => ?_⟩
    · rintro ⟨n, hn, hnid, hn'⟩
      rw [hkeyed.eq_of_id hn hin hnid] at hn'
      exact hn' hstatus
    · refine ⟨_, mem_setWhere.mpr ⟨hole, hin, rfl⟩, ?_, ?_⟩
      · rw [if_pos ⟨rfl, hkind, hstatus⟩]
      · rw [if_pos ⟨rfl, hkind, hstatus⟩]
        exact nofun
    · apply taken_setWhere
      · exact fun n => rfl
      · rintro n - hn ⟨hslot, -⟩
        exact hne (hn.symm.trans hslot)
  · split at h
    · cases h
    · rename_i rows hinsert
      cases h
      obtain ⟨hfresh, rfl⟩ := insertOrIgnore_some.mp hinsert
      refine ⟨?_, rfl, ?_, hkeyed.snoc hfresh rfl fun _ => rfl, ?_, fun id hne => ?_⟩
      · show _ ≤ (match highestLive db.allocations chainId.val broadcaster with
          | some high => max minedCount.val (min (high + 1) (2 ^ 63 - 1))
          | none => minedCount.val)
        split
        · exact Nat.le_max_left _ _
        · exact Nat.le_refl _
      · rintro ⟨n, hn, hnid, -⟩
        exact hfresh n hn (.inl hnid)
      · exact taken_snoc.mpr (.inr ⟨rfl, nofun⟩)
      · rw [taken_snoc]
        exact or_iff_left fun h => hne h.1.symm

/-- **A reservation leaves the slots of the account alone.** -/
theorem reserve_account {req : ReservationRequest} {signed : SignedRawTx}
    {attempt : ReservedAttempt} (hkeyed : Keyed db.allocations)
    (h : reserveAndPersistRawTx db req signed now = .ok (db', attempt)) :
    Keyed db'.allocations ∧ ∀ id : AllocationRowId, id.domain = .broadcaster →
      (Taken db'.allocations id ↔ Taken db.allocations id) := by
  have hne : ∀ {id : AllocationRowId}, id.domain = .broadcaster → id ≠ req.allocationId :=
    fun hdomain heq => by cases (congrArg AllocationRowId.domain heq).symm.trans hdomain
  rcases claimActionNonce_ok (reserves_of_ok h).slot with ⟨n, -, -, -, -, hrows⟩ | ⟨hfresh, hrows⟩
  · rw [hrows]
    refine ⟨hkeyed.setWhere fun n => rfl, fun id hdomain => ?_⟩
    apply taken_setWhere
    · exact fun n => rfl
    · rintro n - hn ⟨hslot, -⟩
      exact hne hdomain (hn.symm.trans hslot)
  · rw [hrows]
    refine ⟨hkeyed.snoc hfresh rfl nofun, fun id hdomain => ?_⟩
    rw [taken_snoc]
    exact or_iff_left fun h => hne hdomain h.1.symm

theorem record_allocations {claimOwner : String} {attemptId : AttemptRowId}
    {txHash : Bytes32} (h : recordBroadcastAccepted db claimOwner attemptId txHash now = .ok db') :
    db'.allocations = db.allocations := by
  obtain ⟨_, -, _, -, h⟩ := bind_ok₂.mp h
  cases h
  rfl

/-! ## One step of a call -/

/-- The nonce that a call may still give back or hand a payload on under. -/
def Phase.pending : Phase → Option BroadcasterNonce
  | .allocated n | .signed n _ | .cleared n _ | .persisted n _ _ | .releasing n _ => some n
  | _ => none

/-- What it may still hand on. -/
def Phase.payload : Phase → Option SignedRawTx
  | .signed _ t | .cleared _ t | .persisted _ t _ => some t
  | _ => none

section
variable {C : Type} (chainId : Word 64) (signer : TxSigner C)

/-- The slots of the account are as they were. -/
structure SameSlots (db db' : Db) : Prop where
  keyed : Keyed db'.allocations
  taken : ∀ id : AllocationRowId, id.domain = .broadcaster →
    (Taken db'.allocations id ↔ Taken db.allocations id)

theorem SameSlots.refl {db : Db} (h : Keyed db.allocations) : SameSlots db db :=
  ⟨h, fun _ _ => Iff.rfl⟩

/-- **What a step does**: it keeps its nonce, claims one, hands a payload on, or gives its nonce
back. -/
inductive Moves (db : Db) (c : Call C) (e : Effect) : Prop where
  | keeps (pending : e.phase.pending = c.phase.pending) (slots : SameSlots db e.db)
      (payload : ∀ t ∈ e.phase.payload, t ∈ c.phase.payload
        ∨ ∃ n ∈ c.phase.pending, signer.nonceOf t.raw = some n.nonce)
      (granted : e.granted = none) (handed : e.handed = none)
  | claims (count : Word 64) (n : BroadcasterNonce) (idle : c.phase.pending = none)
      (pending : e.phase.pending = some n) (payload : e.phase.payload = none)
      (grants : Grants db e.db chainId signer.broadcasterAddress count n)
      (granted : e.granted = some (count, n)) (handed : e.handed = none)
  | hands (n : BroadcasterNonce) (t : SignedRawTx) (held : c.phase.pending = some n)
      (payload : c.phase.payload = some t) (pending : e.phase.pending = none) (db_eq : e.db = db)
      (granted : e.granted = none) (handed : e.handed = some t)
  | gives (n : BroadcasterNonce) (held : c.phase.pending = some n)
    (pending : e.phase.pending = none)
      (keyed : Keyed e.db.allocations)
      (others : ∀ id, id ≠ n.allocationId → (Taken e.db.allocations id ↔ Taken db.allocations id))
      (granted : e.granted = none) (handed : e.handed = none)

theorem payload_of_pending_none {phase : Phase} (h : phase.pending = none) :
    phase.payload = none := by
  cases phase <;> first | rfl | cases h

theorem advance_moves {db : Db} (hkeyed : Keyed db.allocations) (c : Call C) (a : Answer) :
    Moves chainId signer db c (advance chainId signer db c a) := by
  obtain ⟨plan, phase⟩ := c
  have hnone : ∀ {p : Phase}, p.payload = none → ∀ t ∈ p.payload, t ∈ phase.payload
      ∨ ∃ n ∈ phase.pending, signer.nonceOf t.raw = some n.nonce := by
    intro p hp t ht
    rw [hp] at ht
    cases ht
  unfold advance
  cases phase with
  | start =>
      dsimp only
      split
      · exact .keeps rfl (.refl hkeyed) (hnone rfl) rfl rfl
      · exact .keeps rfl (.refl hkeyed) (hnone rfl) rfl rfl
  | counted count =>
      dsimp only
      split
      · exact .keeps rfl (.refl hkeyed) (hnone rfl) rfl rfl
      · split
        · exact .keeps rfl (.refl hkeyed) (hnone rfl) rfl rfl
        · rename_i db' nonce halloc
          exact .claims count nonce rfl rfl rfl (allocate_grants hkeyed halloc) rfl rfl
  | allocated nonce =>
      dsimp only
      split
      · exact .keeps rfl (.refl hkeyed) (hnone rfl) rfl rfl
      · rename_i signed hsign
        refine .keeps rfl (.refl hkeyed) (fun t ht => .inr ⟨nonce, rfl, ?_⟩) rfl rfl
        cases ht
        exact signer.signs_nonce hsign
  | signed nonce signed =>
      dsimp only
      split
      · exact .keeps rfl (.refl hkeyed) (hnone rfl) rfl rfl
      · exact .keeps rfl (.refl hkeyed) (fun t ht => .inl ht) rfl rfl
  | cleared nonce signed =>
      dsimp only
      split
      · exact .keeps rfl (.refl hkeyed) (hnone rfl) rfl rfl
      · split
        · exact .keeps rfl (.refl hkeyed) (hnone rfl) rfl rfl
        · rename_i db' attempt hreserve
          obtain ⟨hkeyed', htaken⟩ := reserve_account hkeyed hreserve
          exact .keeps rfl ⟨hkeyed', htaken⟩ (fun t ht => .inl ht) rfl rfl
  | persisted nonce signed attempt =>
      dsimp only
      split
      · exact .hands nonce signed rfl rfl rfl rfl rfl rfl
      · exact .hands nonce signed rfl rfl rfl rfl rfl rfl
  | accepted nonce signed attempt txHash =>
      dsimp only
      split
      · exact .keeps rfl (.refl hkeyed) (hnone rfl) rfl rfl
      · split
        · exact .keeps rfl (.refl hkeyed) (hnone rfl) rfl rfl
        · rename_i db' hrecord
          have hsame := record_allocations hrecord
          refine .keeps rfl ⟨?_, fun id _ => ?_⟩ (hnone rfl) rfl rfl
          · show Keyed db'.allocations
            rw [hsame]
            exact hkeyed
          · show Taken db'.allocations id ↔ _
            rw [hsame]
  | releasing nonce reason =>
      dsimp only
      split
      · exact .gives nonce rfl rfl hkeyed (fun _ _ => Iff.rfl) rfl rfl
      · refine .gives nonce rfl rfl (hkeyed.setWhere fun n => rfl) (fun id hne => ?_) rfl rfl
        apply taken_setWhere
        · exact fun n => rfl
        · rintro n - hn ⟨hslot, -⟩
          exact hne (hn.symm.trans hslot)
  | done result => exact .keeps rfl (.refl hkeyed) (hnone rfl) rfl rfl

/-! ## Every run -/

/-- The account's nonces, as things that calls claim and spend. -/
def World.pool (w : World C) (spent : List Nat) : Leases.Pool Nat Nat where
  taken := fun k =>
    Taken w.db.allocations (broadcasterNonceRowId chainId.val signer.broadcasterAddress k)
  holds := fun i => (w.calls[i]?.bind (·.phase.pending)).map (·.nonce)
  spent := spent

/-- **The invariant of the calls**: a payload carries the nonce of its call, and the nonces are
exclusive. -/
structure Sound (w : World C) (spent : List Nat) : Prop where
  keyed : Keyed w.db.allocations
  ids : ∀ c ∈ w.calls, ∀ n ∈ c.phase.pending,
    n.allocationId = broadcasterNonceRowId chainId.val signer.broadcasterAddress n.nonce
  payloads : ∀ c ∈ w.calls, ∀ t ∈ c.phase.payload, ∃ n ∈ c.phase.pending,
    signer.nonceOf t.raw = some n.nonce
  inbox : w.inbox.map (fun t => signer.nonceOf t.raw) = spent.map some
  floor : ∀ g ∈ w.granted, g.1.val ≤ g.2.nonce
  exclusive : Leases.Exclusive (w.pool chainId signer spent)

variable {chainId : Word 64} {signer : TxSigner C} {w : World C} {spent : List Nat}

theorem rowId_ne {k l : Nat} (h : l ≠ k) :
    broadcasterNonceRowId chainId.val signer.broadcasterAddress l
      ≠ broadcasterNonceRowId chainId.val signer.broadcasterAddress k :=
  fun heq => h (congrArg AllocationRowId.nonce heq)

theorem call_sound (h : Sound chainId signer w spent) (plan : BroadcastPlan C) :
    Sound chainId signer (w.next chainId signer (.call plan)) spent := by
  have hmem : ∀ c ∈ (w.next chainId signer (.call plan)).calls, c ∈ w.calls ∨ c = ⟨plan, .start⟩ :=
    fun c hc => (List.mem_append.mp hc).imp_right List.mem_singleton.mp
  refine ⟨h.keyed, fun c hc n hn => ?_, fun c hc t ht => ?_, h.inbox, h.floor, ?_⟩
  · rcases hmem c hc with hc | rfl
    · exact h.ids c hc n hn
    · cases hn
  · rcases hmem c hc with hc | rfl
    · exact h.payloads c hc t ht
    · cases ht
  · refine h.exclusive.step (.keep (fun _ => Iff.rfl) ?_ rfl)
    funext i
    show ((w.calls ++ [⟨plan, .start⟩])[i]?.bind (·.phase.pending)).map (·.nonce)
      = (w.calls[i]?.bind (·.phase.pending)).map (·.nonce)
    rcases Nat.lt_trichotomy i w.calls.length with hi | rfl | hi
    · rw [List.getElem?_append_left hi]
    · rw [List.getElem?_concat_length, List.getElem?_eq_none (Nat.le_refl _)]
      rfl
    · have hlen : (w.calls ++ [(⟨plan, .start⟩ : Call C)]).length ≤ i := by
        rw [List.length_append]
        exact hi
      rw [List.getElem?_eq_none hlen, List.getElem?_eq_none (Nat.le_of_lt hi)]

theorem others_sound (h : Sound chainId signer w spent) (intents : List IntentRow)
    (attempts : List TxAttempt) (rows : List NonceAllocation) :
    Sound chainId signer (w.next chainId signer (.others intents attempts rows)) spent := by
  unfold World.next
  dsimp only
  split
  · rename_i hnodup
    have hkind : ∀ n ∈ w.db.allocations, n.id.domain = .broadcaster → n.kind = .broadcaster :=
      fun n hn hdomain => (h.keyed.domain n hn).symm.trans hdomain
    have hforeign : ∀ n ∈ rows.filter (·.Foreign), n.Foreign :=
      fun n hn => of_decide_eq_true (List.mem_filter.mp hn).2
    have hown : ∀ n ∈ w.db.allocations.filter (·.kind = .broadcaster),
        n ∈ w.db.allocations ∧ n.kind = .broadcaster :=
      fun n hn => ⟨(List.mem_filter.mp hn).1, of_decide_eq_true (List.mem_filter.mp hn).2⟩
    refine ⟨⟨?_, fun n hn => ?_, fun n hn hk => ?_⟩, h.ids, h.payloads, h.inbox, h.floor, ?_⟩
    · rw [List.map_append, List.nodup_append]
      refine ⟨h.keyed.nodup.sublist (List.filter_sublist.map _),
        hnodup.sublist (List.filter_sublist.map _), fun x hx y hy heq => ?_⟩
      obtain ⟨n, hn, rfl⟩ := List.mem_map.mp hx
      obtain ⟨m, hm, rfl⟩ := List.mem_map.mp hy
      obtain ⟨hn, hk⟩ := hown n hn
      have hdomain := h.keyed.domain n hn
      rw [hk, heq, (hforeign m hm).2] at hdomain
      cases hdomain
    · rcases List.mem_append.mp hn with hn | hn
      · exact h.keyed.domain n (hown n hn).1
      · rw [(hforeign n hn).1, (hforeign n hn).2]
    · rcases List.mem_append.mp hn with hn | hn
      · exact h.keyed.account n (hown n hn).1 hk
      · rw [(hforeign n hn).1] at hk
        cases hk
    · refine h.exclusive.step (.keep (fun k => ?_) rfl rfl)
      constructor
      · rintro ⟨n, hn, hid, hstatus⟩
        rcases List.mem_append.mp hn with hn | hn
        · exact ⟨n, (hown n hn).1, hid, hstatus⟩
        · have hdomain := (hforeign n hn).2
          rw [hid] at hdomain
          cases hdomain
      · rintro ⟨n, hn, hid, hstatus⟩
        have hk := hkind n hn (congrArg AllocationRowId.domain hid)
        exact ⟨n, List.mem_append_left _ (List.mem_filter.mpr ⟨hn, decide_eq_true hk⟩), hid,
          hstatus⟩
  · exact h

theorem holds_set {calls : List (Call C)} {i : Nat} {c : Call C} (hc : calls[i]? = some c)
    (phase : Phase) :
    (fun j => ((calls.set i { c with phase := phase })[j]?.bind (·.phase.pending)).map (·.nonce))
      = Function.update (fun j => (calls[j]?.bind (·.phase.pending)).map (·.nonce)) i
        (phase.pending.map (·.nonce)) := by
  funext j
  by_cases hij : j = i
  · rw [hij, Function.update_self, List.getElem?_set_self (List.getElem?_eq_some_iff.mp hc).1]
    rfl
  · rw [Function.update_of_ne hij, List.getElem?_set_ne (Ne.symm hij)]

theorem forall_set {calls : List (Call C)} {i : Nat} {d : Call C} {P : Call C → Prop}
    (h : ∀ c ∈ calls, P c) (hd : P d) : ∀ c ∈ calls.set i d, P c := by
  intro c hc
  rcases List.mem_or_eq_of_mem_set hc with hc | rfl
  · exact h c hc
  · exact hd

theorem step_sound (h : Sound chainId signer w spent) {i : Nat} {c : Call C}
    (hc : w.calls[i]? = some c)
    (a : Answer) : ∃ spent', Sound chainId signer (w.next chainId signer (.step i a)) spent' := by
  have hin : c ∈ w.calls := List.mem_of_getElem? hc
  have hnext : w.next chainId signer (.step i a)
      = { db := (advance chainId signer w.db c a).db,
          calls := w.calls.set i { c with phase := (advance chainId signer w.db c a).phase },
          granted := w.granted ++ (advance chainId signer w.db c a).granted.toList,
          inbox := w.inbox ++ (advance chainId signer w.db c a).handed.toList } := by
    unfold World.next
    dsimp only
    rw [hc]
  rw [hnext]
  have hmoves := advance_moves chainId signer h.keyed c a
  generalize advance chainId signer w.db c a = e at hmoves
  have hheld : (w.pool chainId signer spent).holds i = c.phase.pending.map (·.nonce) := by
    show (w.calls[i]?.bind (·.phase.pending)).map (·.nonce) = _
    rw [hc]
    rfl
  have hholds := holds_set hc e.phase
  cases hmoves with
  | keeps pending slots payload granted handed =>
      refine ⟨spent, slots.keyed, forall_set h.ids fun n hn => ?_,
        forall_set h.payloads fun t ht => ?_, ?_, ?_, ?_⟩
      · exact h.ids c hin n (pending ▸ hn)
      · show ∃ n ∈ e.phase.pending, _
        rw [pending]
        exact (payload t ht).elim (h.payloads c hin t) id
      · rw [handed, Option.toList_none, List.append_nil]
        exact h.inbox
      · rw [granted, Option.toList_none, List.append_nil]
        exact h.floor
      · refine h.exclusive.step (.keep (fun k => slots.taken _ rfl) ?_ rfl)
        refine hholds.trans ?_
        rw [pending, ← hheld]
        exact Function.update_eq_self i _
  | claims count n idle pending payload grants granted handed =>
      refine ⟨spent, grants.keyed, forall_set h.ids fun m hm => ?_,
        forall_set h.payloads fun t ht => ?_, ?_, fun g hg => ?_, ?_⟩
      · have hm' : m ∈ e.phase.pending := hm
        rw [pending, Option.mem_some_iff] at hm'
        rw [← hm']
        exact grants.id
      · have ht' : t ∈ e.phase.payload := ht
        rw [payload] at ht'
        cases ht'
      · rw [handed, Option.toList_none, List.append_nil]
        exact h.inbox
      · rw [granted, Option.toList_some, List.mem_append, List.mem_singleton] at hg
        rcases hg with hg | rfl
        · exact h.floor g hg
        · exact grants.floor
      · have hid := grants.id
        refine h.exclusive.step (.claim i n.nonce ?_ ?_ ?_ (fun k hk => ?_) ?_ rfl)
        · exact fun htaken => grants.free (hid ▸ htaken)
        · rw [hheld, idle]
          rfl
        · show Taken e.db.allocations _
          rw [← hid]
          exact grants.held
        · exact grants.others _ (hid ▸ rowId_ne hk)
        · refine hholds.trans ?_
          rw [pending]
          rfl
  | hands n t held payload pending db_eq granted handed =>
      have hnonce : signer.nonceOf t.raw = some n.nonce := by
        obtain ⟨m, hm, hnonce⟩ := h.payloads c hin t payload
        rw [held, Option.mem_some_iff] at hm
        rw [hm]
        exact hnonce
      refine ⟨spent ++ [n.nonce], ?_, forall_set h.ids ?_, forall_set h.payloads ?_, ?_, ?_, ?_⟩
      · show Keyed e.db.allocations
        rw [db_eq]
        exact h.keyed
      · rw [pending]
        exact nofun
      · rw [payload_of_pending_none pending]
        exact nofun
      · rw [handed, Option.toList_some, List.map_append, List.map_append, h.inbox]
        exact congrArg (spent.map some ++ [·]) hnonce
      · rw [granted, Option.toList_none, List.append_nil]
        exact h.floor
      · refine h.exclusive.step (.spend i n.nonce ?_ (fun k => ?_) ?_ rfl)
        · rw [hheld, held]
          rfl
        · show Taken e.db.allocations _ ↔ _
          rw [db_eq]
          rfl
        · refine hholds.trans ?_
          rw [pending]
          rfl
  | gives n held pending keyed others granted handed =>
      refine ⟨spent, keyed, forall_set h.ids ?_, forall_set h.payloads ?_, ?_, ?_, ?_⟩
      · rw [pending]
        exact nofun
      · rw [payload_of_pending_none pending]
        exact nofun
      · rw [handed, Option.toList_none, List.append_nil]
        exact h.inbox
      · rw [granted, Option.toList_none, List.append_nil]
        exact h.floor
      · have hid := h.ids c hin n held
        refine h.exclusive.step (.give i n.nonce ?_ (fun k hk => ?_) ?_ rfl)
        · rw [hheld, held]
          rfl
        · exact others _ (hid ▸ rowId_ne hk)
        · refine hholds.trans ?_
          rw [pending]
          rfl

theorem next_sound (h : Sound chainId signer w spent) (action : Action C) :
    ∃ spent', Sound chainId signer (w.next chainId signer action) spent' := by
  cases action with
  | call plan => exact ⟨spent, call_sound h plan⟩
  | others intents attempts rows => exact ⟨spent, others_sound h intents attempts rows⟩
  | step i a =>
      match hc : w.calls[i]? with
      | some c => exact step_sound h hc a
      | none =>
          refine ⟨spent, ?_⟩
          unfold World.next
          dsimp only
          rw [hc]
          exact h

/-- A database that has no row of the account, and no call. -/
def World.initial (intents : List IntentRow) (attempts : List TxAttempt) : World C :=
  ⟨⟨intents, attempts, []⟩, [], [], []⟩

theorem initial_sound (intents : List IntentRow) (attempts : List TxAttempt) :
    Sound chainId signer (World.initial intents attempts) [] :=
  { keyed := ⟨List.nodup_nil, fun _ hn => (List.not_mem_nil hn).elim,
    fun _ hn => (List.not_mem_nil hn).elim⟩
    ids := fun _ hc => (List.not_mem_nil hc).elim
    payloads := fun _ hc => (List.not_mem_nil hc).elim
    inbox := rfl
    floor := fun _ hg => (List.not_mem_nil hg).elim
    exclusive := ⟨nofun, nofun, fun _ hk => (List.not_mem_nil hk).elim, List.nodup_nil⟩ }

variable (chainId signer) in
/-- **One payload for each nonce.** Whatever the calls do and are told, in whatever order, no two of
the payloads that were handed on carry one nonce, and no nonce was claimed below the count that its
call had read. -/
theorem one_payload_per_nonce (intents : List IntentRow) (attempts : List TxAttempt)
    (actions : List (Action C)) :
    let w := actions.foldl (World.next chainId signer) (World.initial intents attempts)
    (w.inbox.Pairwise fun t u => signer.nonceOf t.raw ≠ signer.nonceOf u.raw)
      ∧ (∀ t ∈ w.inbox, ∀ u ∈ w.inbox, signer.nonceOf t.raw = signer.nonceOf u.raw → t = u)
      ∧ ∀ g ∈ w.granted, g.1.val ≤ g.2.nonce := by
  have hrun := Runs.invariant (I := fun w => ∃ spent, Sound chainId signer w spent)
    (fun w action ⟨spent, h⟩ => next_sound h action) actions (World.initial intents attempts)
    ⟨[], initial_sound intents attempts⟩
  obtain ⟨spent, h⟩ := hrun
  have hnodup :
    ((actions.foldl (World.next chainId signer) (World.initial intents attempts)).inbox.map
      fun t => signer.nonceOf t.raw).Nodup := by
    rw [h.inbox]
    exact h.exclusive.once.map (Option.some_injective Nat)
  exact ⟨List.pairwise_map.mp hnodup,
    fun t ht u hu heq => List.inj_on_of_nodup_map hnodup ht hu heq, h.floor⟩

end

end GoatCoin.StreamG
