/-
# `GoatCoin.StreamG.NonceGaps` — `broadcaster.rs`: when the nonces of the account stay contiguous

A transaction executes once all nonces below its own have been used, so a nonce that is claimed and
never used stops the account.  A nonce at or above the mined count, and below one that was claimed,
is

    accepted   a node has a transaction with it
    owned      a running call may still hand one on, or give the nonce back
    released   the next claim takes it first

or it is none of these, and then nothing ever fills it: the sweep resolves attempts, and the slots
of actions with them, but it reads no row of the account, and no statement reads the lease of one.
Three steps lead there,

    crash      while a call owns a nonce
    send       fails, and the payload has reached no node
    release    the database refuses to take the nonce back

and runs without them leave no gap.
-/
import GoatCoin.StreamG.Broadcaster

namespace GoatCoin.StreamG

open Evm Rows

/-! ## The account, with the node and the sweeps -/

/-- The attestor, and what the node has mined and accepted. -/
structure Account (C : Type) where
  world : World C
  sweeps : List (SweepPolicy × List ClaimedAttempt)
  mined : Word 64
  accepted : List SignedRawTx

inductive Event (C : Type) where
  | call (plan : BroadcastPlan C)
  /-- The call at the place `i` takes its next step.  Where the sending fails, `reached` tells
  whether the payload is in a mempool all the same. -/
  | step (i : Nat) (a : Answer) (reached : Bool)
  | others (intents : List IntentRow) (attempts : List TxAttempt) (rows : List NonceAllocation)
  /-- A sweep claims its rows. -/
  | sweep (policy : SweepPolicy) (now : Int)
  /-- The sweep at the place `j` applies what the chain has told it. -/
  | resolve (j : Nat) (client : AttemptRowId → ChainClient) (now : Int)
  | mine (count : Word 64)
  /-- The process stops, with its calls and sweeps, and begins again. -/
  | crash

/-- The node counts what is mined. -/
def Answer.counting (a : Answer) (mined : Word 64) : Answer :=
  { a with transactionCount := a.transactionCount.map fun _ => mined }

/-- What the node takes of what it is sent. -/
def Answer.reaches (a : Answer) (reached : Bool) : Bool := a.send.isOk || reached

section
variable {C : Type} (chainId : Word 64) (signer : TxSigner C)

/-- `sweep_stuck_reservations`, once the chain has answered. -/
def resolveSweep (db : Db) (policy : SweepPolicy) (rows : List ClaimedAttempt)
    (client : AttemptRowId → ChainClient) (now : Int) : Db :=
  let resolutions := rows.map fun row =>
    (row, resolveAgainstChain (client row.attemptId) policy.gateway row)
  match applyResolutions policy now db resolutions with
  | .ok (db, _) => db
  | .error _ => db

def Account.next (s : Account C) : Event C → Account C
  | .call plan => { s with world := s.world.next chainId signer (.call plan) }
  | .step i a reached =>
      let a := a.counting s.mined
      let handed :=
        (s.world.calls[i]?.bind fun c => (advance chainId signer s.world.db c a).handed).toList
      { s with world := s.world.next chainId signer (.step i a),
               accepted := s.accepted ++ if a.reaches reached then handed else [] }
  | .others intents attempts rows =>
      { s with world := s.world.next chainId signer (.others intents attempts rows) }
  | .sweep policy now =>
      let (db, rows) := claimStaleReservations s.world.db policy now
      { s with world := { s.world with db := db }, sweeps := s.sweeps ++ [(policy, rows)] }
  | .resolve j client now =>
      match s.sweeps[j]? with
      | none => s
      | some (policy, rows) =>
          { s with world := { s.world with db := resolveSweep s.world.db policy rows client now },
                   sweeps := s.sweeps.eraseIdx j }
  | .mine count => { s with mined := max s.mined count }
  | .crash => { s with world := { s.world with calls := [] }, sweeps := [] }

/-- A database that has no row of the account, no call and no sweep. -/
def Account.initial (intents : List IntentRow) (attempts : List TxAttempt)
    (mined : Word 64) : Account C :=
  ⟨.initial intents attempts, [], mined, []⟩

/-! ## The law and its guard -/

/-- A node has a transaction with the nonce. -/
def Account.Accepts (s : Account C) (m : Nat) : Prop :=
  ∃ t ∈ s.accepted, signer.nonceOf t.raw = some m

/-- A running call holds the nonce. -/
def Account.Owned (s : Account C) (m : Nat) : Prop :=
  ∃ c ∈ s.world.calls, ∃ n ∈ c.phase.pending, n.nonce = m

/-- A later claim hands the nonce out again. -/
def Account.Refillable (s : Account C) (m : Nat) : Prop :=
  ∃ n ∈ s.world.db.allocations, n.Of chainId.val signer.broadcasterAddress ∧ n.nonce = m
    ∧ n.status = .released

/-- **The law**: a claim that extends the frontier leaves no gap below it. -/
def Account.Contiguous (s : Account C) : Prop :=
  ∀ g ∈ s.world.granted, g.2.refilledGap = false → ∀ m, s.mined.val ≤ m → m < g.2.nonce →
    s.Accepts signer m ∨ s.Owned m ∨ s.Refillable chainId signer m

/-- What a step of a call must be told: a payload reaches the node, and a nonce is taken back. -/
def Phase.KeepsNonce (a : Answer) (reached : Bool) : Phase → Prop
  | .persisted _ _ _ => a.reaches reached = true
  | .releasing _ _ => a.storeError = none
  | _ => True

instance (a : Answer) (reached : Bool) (phase : Phase) : Decidable (phase.KeepsNonce a reached) :=
  match phase with
  | .persisted _ _ _ => inferInstanceAs (Decidable (_ = _))
  | .releasing _ _ => inferInstanceAs (Decidable (_ = _))
  | .start | .counted _ | .allocated _ | .signed _ _ | .cleared _ _ | .accepted _ _ _ _ | .done _ =>
      .isTrue trivial

/-- **The guard**: no claimed nonce is abandoned. -/
def Account.KeepsNonces (s : Account C) : Event C → Prop
  | .step i a reached => ∀ c ∈ s.world.calls[i]?, c.phase.KeepsNonce a reached
  | .crash => ∀ c ∈ s.world.calls, c.phase.pending = none
  | _ => True

/-! ## The rows of the account -/

/-- Statements about other rows. -/
structure SameAccount (db db' : Db) : Prop where
  rows : ∀ n : NonceAllocation, n.kind = .broadcaster → (n ∈ db'.allocations ↔ n ∈ db.allocations)
  keyed : Keyed db.allocations → Keyed db'.allocations

/-- The account has a row for the nonce. -/
def Listed (rows : List NonceAllocation) (k : Nat) : Prop :=
  ∃ n ∈ rows, n.Of chainId.val signer.broadcasterAddress ∧ n.nonce = k

/-- No row of the account is consumed: `consume_broadcaster_nonce` has no caller. -/
def Unconsumed (rows : List NonceAllocation) : Prop :=
  ∀ n ∈ rows, n.kind = .broadcaster → n.status ≠ .consumed

/-- **What a claim writes**: a row for its nonce, which there was already, or which follows on the
count or on another row. -/
structure Extends (db db' : Db) (count : Word 64) (n : BroadcasterNonce) : Prop where
  listed : ∀ k, Listed chainId signer db'.allocations k
    ↔ Listed chainId signer db.allocations k ∨ k = n.nonce
  follows : Listed chainId signer db.allocations n.nonce ∨ n.nonce = count.val
    ∨ ∃ k, n.nonce ≤ k + 1 ∧ Listed chainId signer db.allocations k
  unconsumed : Unconsumed db.allocations → Unconsumed db'.allocations

variable {chainId signer} {db db' : Db}

theorem SameAccount.refl (db : Db) : SameAccount db db := ⟨fun _ _ => Iff.rfl, id⟩

theorem SameAccount.trans {db'' : Db} (h : SameAccount db db') (h' : SameAccount db' db'') :
    SameAccount db db'' :=
  ⟨fun n hn => (h'.rows n hn).trans (h.rows n hn), fun hkeyed => h'.keyed (h.keyed hkeyed)⟩

theorem SameAccount.of_eq (h : db'.allocations = db.allocations) : SameAccount db db' := by
  constructor
  · intro n _
    rw [h]
  · intro hkeyed
    rw [h]
    exact hkeyed

variable {p : NonceAllocation → Prop} {f : NonceAllocation → NonceAllocation} {now : Int}
  {rows : List NonceAllocation}

theorem sameAccount_setWhere [DecidablePred p]
    (hrows : db'.allocations = setWhere p f db.allocations)
    (hp : ∀ n, p n → n.kind = .action) (hf : ∀ n, (f n).key = n.key) : SameAccount db db' := by
  constructor
  · intro n hkind
    rw [hrows, mem_setWhere]
    constructor
    · rintro ⟨m, hm, heq⟩
      by_cases hpm : p m
      · have hsame : (f m).kind = m.kind := congrArg (·.2.1) (hf m)
        rw [if_pos hpm] at heq
        rw [heq, hsame, hp m hpm] at hkind
        cases hkind
      · rw [if_neg hpm] at heq
        exact heq ▸ hm
    · intro hn
      refine ⟨n, hn, (if_neg fun hpn => ?_).symm⟩
      rw [hp n hpn] at hkind
      cases hkind
  · intro hkeyed
    rw [hrows]
    exact hkeyed.setWhere hf

theorem sameAccount_setNonce (db : Db) (allocationId : Option AllocationRowId)
    (status : NonceStatus)
    (releasedAt : Option Int) : SameAccount db (setNonce db allocationId status releasedAt) := by
  unfold setNonce
  split
  · exact .refl db
  · exact sameAccount_setWhere rfl (fun n hp => hp.2) fun n => rfl

theorem sameAccount_reserve {req : ReservationRequest} {signed : SignedRawTx}
    {attempt : ReservedAttempt}
    (h : reserveAndPersistRawTx db req signed now = .ok (db', attempt)) : SameAccount db db' := by
  rcases claimActionNonce_ok (reserves_of_ok h).slot with ⟨n, -, -, -, -, hrows⟩ | ⟨-, hrows⟩
  · exact sameAccount_setWhere hrows (fun n hp => hp.2) fun n => rfl
  · refine ⟨fun n hkind => ?_, fun hkeyed => (reserve_account hkeyed h).1⟩
    rw [hrows, List.mem_append, List.mem_singleton]
    refine or_iff_left fun heq => ?_
    rw [heq] at hkind
    cases hkind

theorem Applies.sameAccount {policy : SweepPolicy} {row : ClaimedAttempt}
    {resolution : Resolution} {outcome : RowOutcome}
    (h : Applies policy now db row resolution db' outcome) : SameAccount db db' := by
  cases h with
  | executes u owns status kind =>
      refine SameAccount.trans ?_ (sameAccount_setNonce _ _ _ _)
      exact .of_eq rfl
  | releases u reason owns status =>
      refine SameAccount.trans ?_ (sameAccount_setNonce _ _ _ _)
      exact .of_eq rfl
  | loses lost => exact .refl db
  | holds => exact .of_eq rfl
  | sticks reason => exact .of_eq rfl

theorem sameAccount_applyResolutions {policy : SweepPolicy} :
    ∀ {resolutions : List (ClaimedAttempt × Resolution)} {db db' : Db}
      {outcomes : List (ClaimedAttempt × RowOutcome)},
      applyResolutions policy now db resolutions = .ok (db', outcomes) → SameAccount db db' := by
  intro resolutions
  induction resolutions with
  | nil =>
      intro db db' outcomes h
      cases h
      exact .refl db
  | cons r rest ih =>
      intro db db' outcomes h
      obtain ⟨⟨mid, outcome⟩, hone, h⟩ := bind_ok.mp h
      obtain ⟨⟨last, outcomes'⟩, hrest, h⟩ := bind_ok.mp h
      cases h
      exact (applies_of_ok hone).sameAccount.trans (ih hrest)

/-- **The sweep reads and writes no row of the account.** -/
theorem sameAccount_resolveSweep (db : Db) (policy : SweepPolicy) (rows : List ClaimedAttempt)
    (client : AttemptRowId → ChainClient) (now : Int) :
    SameAccount db (resolveSweep db policy rows client now) := by
  unfold resolveSweep
  dsimp only
  split
  · rename_i db' outcomes h
    exact sameAccount_applyResolutions h
  · exact .refl db

theorem SameAccount.listed (h : SameAccount db db') {k : Nat} :
    Listed chainId signer db'.allocations k ↔ Listed chainId signer db.allocations k :=
  exists_congr fun n =>
    ⟨fun hn => ⟨(h.rows n hn.2.1.1).mp hn.1, hn.2⟩, fun hn => ⟨(h.rows n hn.2.1.1).mpr hn.1, hn.2⟩⟩

theorem SameAccount.unconsumed (h : SameAccount db db') (hdb : Unconsumed db.allocations) :
    Unconsumed db'.allocations :=
  fun n hn hkind => hdb n ((h.rows n hkind).mp hn) hkind

theorem SameAccount.taken (h : SameAccount db db') (hkeyed : Keyed db.allocations)
    {id : AllocationRowId}
    (hid : id.domain = .broadcaster) : Taken db'.allocations id ↔ Taken db.allocations id := by
  have hkind : ∀ {rows}, Keyed rows → ∀ n ∈ rows, n.id = id → n.kind = .broadcaster :=
    fun hrows n hn heq => by rw [← hrows.domain n hn, heq, hid]
  constructor
  · rintro ⟨n, hn, heq, hstatus⟩
    exact ⟨n, (h.rows n (hkind (h.keyed hkeyed) n hn heq)).mp hn, heq, hstatus⟩
  · rintro ⟨n, hn, heq, hstatus⟩
    exact ⟨n, (h.rows n (hkind hkeyed n hn heq)).mpr hn, heq, hstatus⟩

/-! ## Claims and releases -/

theorem listed_setWhere [DecidablePred p]
    (hf : ∀ n, (f n).key = n.key) {k : Nat} :
    Listed chainId signer (setWhere p f rows) k ↔ Listed chainId signer rows k := by
  have hkey : ∀ n : NonceAllocation, (n.Of chainId.val signer.broadcasterAddress ∧ n.nonce = k)
      ↔ n.key.2 = (.broadcaster, chainId.val, .account signer.broadcasterAddress, k) := by
    intro n
    simp only [NonceAllocation.Of, NonceAllocation.key, Prod.mk.injEq, and_assoc]
  have hsame : ∀ n, (if p n then f n else n).key = n.key := by
    intro n
    by_cases hp : p n
    · rw [if_pos hp, hf]
    · rw [if_neg hp]
  constructor
  · rintro ⟨n, hn, hof⟩
    obtain ⟨m, hm, rfl⟩ := mem_setWhere.mp hn
    rw [hkey, hsame, ← hkey] at hof
    exact ⟨m, hm, hof⟩
  · rintro ⟨n, hn, hof⟩
    refine ⟨_, mem_setWhere.mpr ⟨n, hn, rfl⟩, ?_⟩
    rw [hkey, hsame, ← hkey]
    exact hof

theorem unconsumed_setWhere [DecidablePred p]
    (h : Unconsumed rows)
    (hstatus : ∀ n, (f n).status ≠ .consumed) : Unconsumed (setWhere p f rows) := by
  intro n hn hkind
  obtain ⟨m, hm, rfl⟩ := mem_setWhere.mp hn
  by_cases hp : p m
  · rw [if_pos hp]
    exact hstatus m
  · rw [if_neg hp] at hkind ⊢
    exact h m hm hkind

theorem listed_highestLive {high : Nat}
    (h : highestLive rows chainId.val signer.broadcasterAddress = some high) :
    Listed chainId signer rows high := by
  have hmem := List.max?_mem h
  obtain ⟨n, hn, rfl⟩ := List.mem_map.mp hmem
  obtain ⟨hin, hp⟩ := List.mem_filter.mp hn
  exact ⟨n, hin, (of_decide_eq_true hp).1, rfl⟩

theorem allocate_extends {claimOwner : String} {ttl : Int} {count : Word 64}
    {n : BroadcasterNonce}
    (h : allocateBroadcasterNonce db chainId signer.broadcasterAddress claimOwner ttl count now
      = .ok (db', n)) :
    Extends chainId signer db db' count n := by
  obtain ⟨chain, hchain, mined, hmined, h⟩ := bind_ok₂.mp h
  have hchain := asNonceI64_ok hchain
  have hmined := asNonceI64_ok hmined
  subst hchain hmined
  dsimp only at h
  split at h
  · rename_i hole hhole
    obtain ⟨_, -, h⟩ := bind_ok.mp h
    cases h
    have hmem := List.mem_mergeSort.mp (List.mem_of_mem_head? hhole)
    obtain ⟨hin, hp⟩ := List.mem_filter.mp hmem
    have hlisted : Listed chainId signer db.allocations hole.nonce :=
      ⟨hole, hin, (of_decide_eq_true hp).1, rfl⟩
    refine ⟨fun k => ?_, .inl hlisted, fun hdb => unconsumed_setWhere hdb fun _ => nofun⟩
    refine Iff.trans (listed_setWhere ?_) (or_iff_left_of_imp ?_).symm
    · exact fun _ => rfl
    · rintro rfl
      exact hlisted
  · split at h
    · cases h
    · rename_i rows hinsert
      cases h
      obtain ⟨-, rfl⟩ := insertOrIgnore_some.mp hinsert
      refine ⟨fun k => ?_, .inr ?_, fun hdb n hn hkind => ?_⟩
      · simp only [Listed, List.mem_append, List.mem_singleton, or_and_right,
          exists_or, exists_eq_left]
        refine or_congr_right ⟨fun hk => hk.2.symm, fun hk => ⟨⟨rfl, rfl, rfl⟩, hk.symm⟩⟩
      · dsimp only
        split
        · rename_i high hhigh
          rcases Nat.le_total (min (high + 1) (2 ^ 63 - 1)) count.val with hle | hle
          · exact .inl (Nat.max_eq_left hle)
          · refine .inr ⟨high, ?_, listed_highestLive hhigh⟩
            rw [Nat.max_eq_right hle]
            exact Nat.min_le_left _ _
        · exact .inl rfl
      · rcases List.mem_append.mp hn with hn | hn
        · exact hdb n hn hkind
        · rw [List.mem_singleton.mp hn]
          exact nofun

theorem not_taken_release (hkeyed : Keyed db.allocations) (hdb : Unconsumed db.allocations)
    {id : AllocationRowId} (hid : id.domain = .broadcaster) (now : Int) :
    ¬ Taken (releaseBroadcasterNonce db id now).allocations id := by
  rintro ⟨n, hn, heq, hstatus⟩
  obtain ⟨m, hm, rfl⟩ := mem_setWhere.mp hn
  by_cases hp : m.id = id ∧ m.kind = .broadcaster ∧ m.status = .allocated
  · rw [if_pos hp] at hstatus
    exact hstatus rfl
  · rw [if_neg hp] at heq hstatus
    have hkind : m.kind = .broadcaster := by rw [← hkeyed.domain m hm, heq, hid]
    cases hm' : m.status with
    | allocated => exact hp ⟨heq, hkind, hm'⟩
    | consumed => exact hdb m hm hkind hm'
    | released => exact hstatus hm'

/-! ## One step of a call -/

/-- **What a step writes of the account**: nothing, a claim, or a release. -/
inductive Writes (chainId : Word 64) (signer : TxSigner C) (db : Db) (c : Call C)
    (a : Answer) (e : Effect) : Prop where
  | nothing (same : SameAccount db e.db) (granted : e.granted = none)
  | claims (count : Word 64) (n : BroadcasterNonce) (phase : c.phase = .counted count)
      (extends_ : Extends chainId signer db e.db count n) (granted : e.granted = some (count, n))
  | releases (n : BroadcasterNonce) (held : c.phase.pending = some n)
      (db_eq : e.db = releaseBroadcasterNonce db n.allocationId a.now) (granted : e.granted = none)

theorem advance_writes (db : Db) (c : Call C) (a : Answer) :
    Writes chainId signer db c a (advance chainId signer db c a) := by
  obtain ⟨plan, phase⟩ := c
  unfold advance
  cases phase with
  | start =>
      dsimp only
      split
      · exact .nothing (.refl db) rfl
      · exact .nothing (.refl db) rfl
  | counted count =>
      dsimp only
      split
      · exact .nothing (.refl db) rfl
      · split
        · exact .nothing (.refl db) rfl
        · rename_i db' nonce halloc
          exact .claims count nonce rfl (allocate_extends halloc) rfl
  | allocated nonce =>
      dsimp only
      split
      · exact .nothing (.refl db) rfl
      · exact .nothing (.refl db) rfl
  | signed nonce signed =>
      dsimp only
      split
      · exact .nothing (.refl db) rfl
      · exact .nothing (.refl db) rfl
  | cleared nonce signed =>
      dsimp only
      split
      · exact .nothing (.refl db) rfl
      · split
        · exact .nothing (.refl db) rfl
        · rename_i db' attempt hreserve
          exact .nothing (sameAccount_reserve hreserve) rfl
  | persisted nonce signed attempt =>
      dsimp only
      split
      · exact .nothing (.refl db) rfl
      · exact .nothing (.refl db) rfl
  | accepted nonce signed attempt txHash =>
      dsimp only
      split
      · exact .nothing (.refl db) rfl
      · split
        · exact .nothing (.refl db) rfl
        · rename_i db' hrecord
          exact .nothing (.of_eq (record_allocations hrecord)) rfl
  | releasing nonce reason =>
      dsimp only
      split
      · exact .nothing (.refl db) rfl
      · exact .releases nonce rfl rfl rfl
  | done result => exact .nothing (.refl db) rfl

theorem advance_counted {c : Call C} {a : Answer} {count : Word 64}
    (h : (advance chainId signer db c a).phase = .counted count) :
    a.transactionCount = .ok count := by
  obtain ⟨plan, phase⟩ := c
  unfold advance at h
  cases phase with
  | start =>
      dsimp only at h
      split at h
      · cases h
      · rename_i told htold
        rw [htold]
        exact congrArg Except.ok (Phase.counted.inj h)
  | done result => cases h
  | _ =>
      dsimp only at h
      repeat' split at h
      all_goals cases h

/-- **A nonce that a step lets go of** was handed on, or given back. -/
theorem advance_lets_go {c : Call C} {a : Answer} {n : BroadcasterNonce}
    (hheld : c.phase.pending = some n)
    (hgone : (advance chainId signer db c a).phase.pending = none) :
    (∃ t attempt, c.phase = .persisted n t attempt
      ∧ (advance chainId signer db c a).handed = some t)
      ∨ ∃ reason, c.phase = .releasing n reason := by
  obtain ⟨plan, phase⟩ := c
  cases phase with
  | persisted nonce signed attempt =>
      cases hheld
      refine .inl ⟨signed, attempt, rfl, ?_⟩
      unfold advance
      dsimp only
      split
      · rfl
      · rfl
  | releasing nonce reason =>
      cases hheld
      exact .inr ⟨reason, rfl⟩
  | start => cases hheld
  | counted count => cases hheld
  | accepted nonce signed attempt txHash => cases hheld
  | done result => cases hheld
  | _ =>
      unfold advance at hgone
      dsimp only at hgone
      repeat' split at hgone
      all_goals cases hgone

end

/-! ## Every run -/

section
variable {C : Type} (chainId : Word 64) (signer : TxSigner C)

/-- **The invariant of the runs that abandon nothing**: above the count the rows have no holes, and
what is taken is accepted or owned. -/
structure Tracked (s : Account C) : Prop where
  sound : ∃ spent, Sound chainId signer s.world spent
  unconsumed : Unconsumed s.world.db.allocations
  counts : ∀ c ∈ s.world.calls, ∀ count, c.phase = .counted count → count.val ≤ s.mined.val
  covered : ∀ k, Listed chainId signer s.world.db.allocations k → ∀ m, s.mined.val ≤ m → m ≤ k →
    Listed chainId signer s.world.db.allocations m
  granted : ∀ g ∈ s.world.granted, Listed chainId signer s.world.db.allocations g.2.nonce
  kept : ∀ m,
    Taken s.world.db.allocations (broadcasterNonceRowId chainId.val signer.broadcasterAddress m) →
    s.Accepts signer m ∨ s.Owned m

variable {chainId signer} {s : Account C}

theorem Tracked.contiguous (h : Tracked chainId signer s) : s.Contiguous chainId signer := by
  intro g hg _ m hmined hm
  obtain ⟨spent, hsound⟩ := h.sound
  obtain ⟨n, hn, hof, hnonce⟩ := h.covered _ (h.granted g hg) m hmined (Nat.le_of_lt hm)
  by_cases hstatus : n.status = .released
  · exact .inr (.inr ⟨n, hn, hof, hnonce, hstatus⟩)
  · have hid : n.id = broadcasterNonceRowId chainId.val signer.broadcasterAddress m := by
      rw [hsound.keyed.account n hn hof.1, hof.2.1, hof.2.2, hnonce]
      rfl
    exact (h.kept m ⟨n, hn, hid, hstatus⟩).imp_right .inl

theorem Sound.of_same {w : World C} {spent : List Nat} (h : Sound chainId signer w spent) {db' : Db}
    (hsame : SameAccount w.db db') : Sound chainId signer { w with db := db' } spent :=
  { keyed := hsame.keyed h.keyed
    ids := h.ids
    payloads := h.payloads
    inbox := h.inbox
    floor := h.floor
    exclusive := h.exclusive.step (.keep (fun _ => hsame.taken h.keyed rfl) rfl rfl) }

theorem Sound.crash {w : World C} {spent : List Nat} (h : Sound chainId signer w spent) :
    Sound chainId signer { w with calls := [] } spent :=
  { keyed := h.keyed
    ids := fun _ hc => (List.not_mem_nil hc).elim
    payloads := fun _ hc => (List.not_mem_nil hc).elim
    inbox := h.inbox
    floor := h.floor
    exclusive := ⟨nofun, nofun, fun k hk => ⟨(h.exclusive.out k hk).1, nofun⟩, h.exclusive.once⟩ }

theorem Tracked.of_same (h : Tracked chainId signer s) {db' : Db}
    (hsame : SameAccount s.world.db db') (sweeps : List (SweepPolicy × List ClaimedAttempt)) :
    Tracked chainId signer { s with world := { s.world with db := db' }, sweeps := sweeps } := by
  obtain ⟨spent, hsound⟩ := h.sound
  refine ⟨⟨spent, hsound.of_same hsame⟩, hsame.unconsumed h.unconsumed, h.counts,
    fun k hk m hmined hm => ?_,
    fun g hg => hsame.listed.mpr (h.granted g hg),
    fun m hm => h.kept m ((hsame.taken hsound.keyed rfl).mp hm)⟩
  exact hsame.listed.mpr (h.covered k (hsame.listed.mp hk) m hmined hm)

theorem Tracked.others (h : Tracked chainId signer s) (intents : List IntentRow)
    (attempts : List TxAttempt) (rows : List NonceAllocation) :
    Tracked chainId signer (s.next chainId signer (.others intents attempts rows)) := by
  obtain ⟨spent, hsound⟩ := h.sound
  have hothers := others_sound hsound intents attempts rows
  unfold Account.next World.next at *
  dsimp only at *
  by_cases hnodup : (rows.map (·.id)).Nodup
  · rw [if_pos hnodup] at hothers ⊢
    refine h.of_same ⟨fun n hkind => ?_, fun _ => hothers.keyed⟩ s.sweeps
    rw [List.mem_append, List.mem_filter, List.mem_filter, decide_eq_true_eq, decide_eq_true_eq]
    refine ⟨?_, fun hn => .inl ⟨hn, hkind⟩⟩
    rintro (hn | hn)
    · exact hn.1
    · rw [hn.2.1] at hkind
      cases hkind
  · rw [if_neg hnodup]
    exact h

theorem Tracked.mine (h : Tracked chainId signer s) (count : Word 64) :
    Tracked chainId signer (s.next chainId signer (.mine count)) := by
  have hle : s.mined.val ≤ (max s.mined count).val := Fin.le_def.mp (le_max_left s.mined count)
  exact ⟨h.sound, h.unconsumed, fun c hc k hk => Nat.le_trans (h.counts c hc k hk) hle,
    fun k hk m hmined hm => h.covered k hk m (Nat.le_trans hle hmined) hm, h.granted, h.kept⟩

theorem Tracked.crash (h : Tracked chainId signer s)
    (hidle : ∀ c ∈ s.world.calls, c.phase.pending = none) :
    Tracked chainId signer (s.next chainId signer .crash) := by
  obtain ⟨spent, hsound⟩ := h.sound
  refine ⟨⟨spent, hsound.crash⟩, h.unconsumed, fun _ hc => (List.not_mem_nil hc).elim,
    h.covered, h.granted, fun m hm => .inl ?_⟩
  rcases h.kept m hm with haccepted | ⟨c, hc, n, hn, -⟩
  · exact haccepted
  · rw [hidle c hc] at hn
    cases hn

theorem Tracked.call (h : Tracked chainId signer s) (plan : BroadcastPlan C) :
    Tracked chainId signer (s.next chainId signer (.call plan)) := by
  obtain ⟨spent, hsound⟩ := h.sound
  refine ⟨⟨spent, call_sound hsound plan⟩, h.unconsumed, fun c hc count hcount => ?_,
    h.covered, h.granted, fun m hm => ?_⟩
  · rcases List.mem_append.mp hc with hc | hc
    · exact h.counts c hc count hcount
    · rw [List.mem_singleton.mp hc] at hcount
      cases hcount
  · refine (h.kept m hm).imp_right fun ⟨c, hc, howned⟩ => ?_
    exact ⟨c, List.mem_append_left _ hc, howned⟩

theorem mem_set_or_eq {calls : List (Call C)} {i : Nat} {c d : Call C} (hc : calls[i]? = some c)
    (hd : d ∈ calls) (c' : Call C) : d ∈ calls.set i c' ∨ d = c := by
  obtain ⟨j, hj⟩ := List.mem_iff_getElem?.mp hd
  by_cases hij : i = j
  · rw [← hij, hc] at hj
    exact .inr (Option.some.inj hj).symm
  · refine .inl (List.mem_iff_getElem?.mpr ⟨j, ?_⟩)
    rw [List.getElem?_set_ne hij]
    exact hj

theorem advance_releasing {db : Db} {c : Call C} {a : Answer} {n : BroadcasterNonce}
    {reason : BroadcasterError} (hphase : c.phase = .releasing n reason)
    (hstore : a.storeError = none) :
    (advance chainId signer db c a).db = releaseBroadcasterNonce db n.allocationId a.now := by
  unfold advance
  rw [hphase]
  dsimp only
  rw [hstore]

section
variable {s' : Account C} {i : Nat} {c : Call C} {a : Answer} {reached : Bool} {e : Effect}

/-- What was taken is accepted or owned still, unless it was owned by the call that takes the
step. -/
theorem Tracked.kept_elsewhere (h : Tracked chainId signer s) (hc : s.world.calls[i]? = some c)
    (hcalls : s'.world.calls = s.world.calls.set i { c with phase := e.phase })
    (haccepted : s.accepted ⊆ s'.accepted) {m : Nat}
    (hm : Taken s.world.db.allocations
      (broadcasterNonceRowId chainId.val signer.broadcasterAddress m)) :
    s'.Accepts signer m ∨ s'.Owned m ∨ ∃ n ∈ c.phase.pending, n.nonce = m := by
  rcases h.kept m hm with ⟨t, ht, hnonce⟩ | ⟨d, hd, howned⟩
  · exact .inl ⟨t, haccepted ht, hnonce⟩
  · rcases mem_set_or_eq hc hd { c with phase := e.phase } with hd | rfl
    · exact .inr (.inl ⟨d, hcalls ▸ hd, howned⟩)
    · exact .inr (.inr howned)

theorem Tracked.kept_step (h : Tracked chainId signer s) (hc : s.world.calls[i]? = some c)
    (hok : c.phase.KeepsNonce a reached) (he : advance chainId signer s.world.db c a = e)
    (hdb : s'.world.db = e.db)
    (hcalls : s'.world.calls = s.world.calls.set i { c with phase := e.phase })
    (haccepted : s'.accepted = s.accepted ++ if a.reaches reached then e.handed.toList else [])
      {m : Nat}
    (hm : Taken s'.world.db.allocations
      (broadcasterNonceRowId chainId.val signer.broadcasterAddress m)) :
    s'.Accepts signer m ∨ s'.Owned m := by
  obtain ⟨spent, hsound⟩ := h.sound
  have hin : c ∈ s.world.calls := List.mem_of_getElem? hc
  have hself : { c with phase := e.phase } ∈ s'.world.calls := by
    rw [hcalls]
    exact List.mem_iff_getElem?.mpr ⟨i, List.getElem?_set_self (List.getElem?_eq_some_iff.mp hc).1⟩
  have hsub : s.accepted ⊆ s'.accepted := by
    rw [haccepted]
    exact List.subset_append_left _ _
  have hmoves : Moves chainId signer s.world.db c e :=
    he ▸ advance_moves chainId signer hsound.keyed c a
  rw [hdb] at hm
  cases hmoves with
  | keeps pending slots payload granted handed =>
      rcases h.kept_elsewhere hc hcalls hsub ((slots.taken _ rfl).mp hm) with hleft
        | hright | howned
      · exact .inl hleft
      · exact .inr hright
      · exact .inr ⟨_, hself, pending ▸ howned⟩
  | claims count n idle pending payload grants granted handed =>
      by_cases hnew : m = n.nonce
      · exact .inr ⟨_, hself, n, pending, hnew.symm⟩
      · have hold := (grants.others _ (grants.id ▸ rowId_ne hnew)).mp hm
        rcases h.kept_elsewhere hc hcalls hsub hold with hleft | hright | ⟨n', hn', -⟩
        · exact .inl hleft
        · exact .inr hright
        · rw [idle] at hn'
          cases hn'
  | hands n t held payload pending db_eq granted handed =>
      rw [db_eq] at hm
      rcases h.kept_elsewhere hc hcalls hsub hm with hleft | hright | ⟨n', hn', hnonce⟩
      · exact .inl hleft
      · exact .inr hright
      · -- the payload carries the nonce of the call, and it has reached the node
        obtain ⟨n'', hn'', hpayload⟩ := hsound.payloads c hin t payload
        rw [Option.mem_def] at hn' hn''
        rw [held] at hn' hn''
        cases hn'
        cases hn''
        refine .inl ⟨t, ?_, hnonce ▸ hpayload⟩
        subst he
        rcases advance_lets_go held pending with ⟨_, _, hphase, -⟩ | ⟨reason, hphase⟩
        · rw [hphase] at hok
          have hreaches : a.reaches reached = true := hok
          rw [haccepted, if_pos hreaches, handed]
          exact List.mem_append_right _ (List.mem_singleton_self t)
        · rw [hphase] at payload
          cases payload
  | gives n held pending keyed others granted handed =>
      have hid := hsound.ids c hin n held
      by_cases hgiven : m = n.nonce
      · -- the row of the nonce is released
        subst he
        rcases advance_lets_go held pending with ⟨_, _, -, hhanded⟩ | ⟨reason, hphase⟩
        · rw [handed] at hhanded
          cases hhanded
        · rw [hphase] at hok
          rw [advance_releasing hphase hok, hgiven, ← hid] at hm
          refine absurd hm (not_taken_release hsound.keyed h.unconsumed ?_ a.now)
          rw [hid]
          rfl
      · have hold := (others _ (hid ▸ rowId_ne hgiven)).mp hm
        rcases h.kept_elsewhere hc hcalls hsub hold with hleft | hright | ⟨n', hn', hnonce⟩
        · exact .inl hleft
        · exact .inr hright
        · rw [Option.mem_def, held] at hn'
          cases hn'
          exact absurd hnonce.symm hgiven

theorem Tracked.covered_step (h : Tracked chainId signer s) (hc : c ∈ s.world.calls)
    (hwrites : Writes chainId signer s.world.db c a e) {k m : Nat}
    (hk : Listed chainId signer e.db.allocations k) (hmined : s.mined.val ≤ m) (hm : m ≤ k) :
    Listed chainId signer e.db.allocations m := by
  cases hwrites with
  | nothing same granted => exact same.listed.mpr (h.covered k (same.listed.mp hk) m hmined hm)
  | releases n held db_eq granted =>
      have hsame : ∀ j, Listed chainId signer e.db.allocations j
          ↔ Listed chainId signer s.world.db.allocations j := by
        intro j
        rw [db_eq]
        apply listed_setWhere
        exact fun _ => rfl
      exact (hsame m).mpr (h.covered k ((hsame k).mp hk) m hmined hm)
  | claims count n phase extends_ granted =>
      rw [extends_.listed]
      rcases (extends_.listed k).mp hk with hk | rfl
      · exact .inl (h.covered k hk m hmined hm)
      · rcases Nat.eq_or_lt_of_le hm with heq | hlt
        · exact .inr heq
        · left
          rcases extends_.follows with hold | hcount | ⟨j, hj, hold⟩
          · exact h.covered _ hold m hmined hm
          · have hle := h.counts c hc count phase
            omega
          · exact h.covered j hold m hmined (by omega)

theorem Writes.granted_listed (hwrites : Writes chainId signer s.world.db c a e) {k : Nat}
    (hk : Listed chainId signer s.world.db.allocations k) :
    Listed chainId signer e.db.allocations k := by
  cases hwrites with
  | nothing same granted => exact same.listed.mpr hk
  | claims count n phase extends_ granted => exact (extends_.listed k).mpr (.inl hk)
  | releases n held db_eq granted =>
      rw [db_eq]
      refine Iff.mpr (listed_setWhere ?_) hk
      exact fun _ => rfl

theorem Writes.unconsumed {db : Db} (hwrites : Writes chainId signer db c a e)
    (hdb : Unconsumed db.allocations) : Unconsumed e.db.allocations := by
  cases hwrites with
  | nothing same granted => exact same.unconsumed hdb
  | claims count n phase extends_ granted => exact extends_.unconsumed hdb
  | releases n held db_eq granted =>
      rw [db_eq]
      exact unconsumed_setWhere hdb fun _ => nofun

theorem Tracked.step (h : Tracked chainId signer s) (hok : s.KeepsNonces (.step i a reached)) :
    Tracked chainId signer (s.next chainId signer (.step i a reached)) := by
  obtain ⟨spent, hsound⟩ := h.sound
  cases hc : s.world.calls[i]? with
  | none =>
      have hnext : s.next chainId signer (.step i a reached) = s := by
        unfold Account.next World.next
        dsimp only
        rw [hc, Option.bind_none, Option.toList_none, ite_self, List.append_nil]
      rw [hnext]
      exact h
  | some c =>
      have hin : c ∈ s.world.calls := List.mem_of_getElem? hc
      have hkeeps : c.phase.KeepsNonce (a.counting s.mined) reached := by
        have hone := hok c hc
        cases hphase : c.phase <;> rw [hphase] at hone <;> exact hone
      have hwrites : Writes chainId signer s.world.db c (a.counting s.mined) _ :=
        advance_writes s.world.db c (a.counting s.mined)
      have hcounted : ∀ count, (advance chainId signer s.world.db c (a.counting s.mined)).phase
        = .counted count →
          count = s.mined := by
        intro count hcount
        have htold : a.transactionCount.map (fun _ => s.mined) = .ok count := advance_counted hcount
        cases hanswer : a.transactionCount with
        | error e =>
            rw [hanswer] at htold
            cases htold
        | ok told =>
            rw [hanswer] at htold
            exact (Except.ok.inj htold).symm
      have hsound' := step_sound hsound hc (a.counting s.mined)
      have hnext : s.next chainId signer (.step i a reached) = { s with
          world := s.world.next chainId signer (.step i (a.counting s.mined))
          accepted := s.accepted ++ if (a.counting s.mined).reaches reached then
            (advance chainId signer s.world.db c (a.counting s.mined)).handed.toList else [] } := by
        unfold Account.next
        dsimp only
        rw [hc, Option.bind_some]
      have hworld : s.world.next chainId signer (.step i (a.counting s.mined))
          = { db := (advance chainId signer s.world.db c (a.counting s.mined)).db,
              calls := s.world.calls.set i
                { c with phase := (advance chainId signer s.world.db c
                  (a.counting s.mined)).phase },
              granted := s.world.granted
                ++ (advance chainId signer s.world.db c (a.counting s.mined)).granted.toList,
              inbox := s.world.inbox
                ++ (advance chainId signer s.world.db c (a.counting s.mined)).handed.toList } := by
        unfold World.next
        dsimp only
        rw [hc]
      rw [hnext]
      rw [hworld] at hsound' ⊢
      generalize he : advance chainId signer s.world.db c (a.counting s.mined) = e at *
      refine ⟨hsound', hwrites.unconsumed h.unconsumed, forall_set h.counts fun count hcount => ?_,
        fun k hk m hmined hm => h.covered_step hin hwrites hk hmined hm, fun g hg => ?_,
        fun m hm => h.kept_step hc hkeeps he rfl rfl rfl hm⟩
      · exact Nat.le_of_eq (congrArg Fin.val (hcounted count hcount))
      · rcases List.mem_append.mp hg with hg | hg
        · exact hwrites.granted_listed (h.granted g hg)
        · cases hwrites with
          | nothing same granted =>
              rw [granted] at hg
              cases hg
          | releases n held db_eq granted =>
              rw [granted] at hg
              cases hg
          | claims count n phase extends_ granted =>
              rw [granted, Option.toList_some, List.mem_singleton] at hg
              rw [hg]
              exact (extends_.listed n.nonce).mpr (.inr rfl)

end

theorem Tracked.next (h : Tracked chainId signer s) (event : Event C) (hok : s.KeepsNonces event) :
    Tracked chainId signer (s.next chainId signer event) := by
  cases event with
  | call plan => exact h.call plan
  | step i a reached => exact h.step hok
  | others intents attempts rows => exact h.others intents attempts rows
  | sweep policy now =>
      have hsame : SameAccount s.world.db (claimStaleReservations s.world.db policy now).1 :=
        .of_eq rfl
      exact h.of_same hsame _
  | resolve j client now =>
      unfold Account.next
      dsimp only
      split
      · exact h
      · exact h.of_same (sameAccount_resolveSweep _ _ _ _ _) _
  | mine count => exact h.mine count
  | crash => exact h.crash hok

theorem tracked_initial (intents : List IntentRow) (attempts : List TxAttempt) (mined : Word 64) :
    Tracked chainId signer (Account.initial intents attempts mined) :=
  { sound := ⟨[], initial_sound intents attempts⟩
    unconsumed := fun _ hn => (List.not_mem_nil hn).elim
    counts := fun _ hc => (List.not_mem_nil hc).elim
    covered := fun _ ⟨_, hn, _⟩ => (List.not_mem_nil hn).elim
    granted := fun _ hg => (List.not_mem_nil hg).elim
    kept := fun _ ⟨_, hn, _⟩ => (List.not_mem_nil hn).elim }

variable (chainId signer) in
/-- **No gap below the frontier, in a run that abandons no nonce.** Whatever the calls and the
sweeps do and are told, and wherever the process crashes, the law holds in every state of a run in
which no crash finds a call that owns a nonce, every payload that is sent reaches a node, and every
nonce that is given back is taken back. -/
theorem contiguous_nonces (intents : List IntentRow) (attempts : List TxAttempt) (mined : Word 64)
    {events : List (Event C)}
    (hrun : Runs.Guarded (Account.next chainId signer) Account.KeepsNonces
      (Account.initial intents attempts mined) events) :
    Runs.Throughout (Account.next chainId signer) (Account.Contiguous chainId signer)
      (Account.initial intents attempts mined) events := by
  have htracked := Runs.throughout_of_guarded (I := Tracked chainId signer)
    (fun s event h hok => h.next event hok) (tracked_initial intents attempts mined) hrun
  exact fun before hbefore => (htracked before hbefore).contiguous

theorem not_contiguous {g : Word 64 × BroadcasterNonce} (hg : g ∈ s.world.granted)
    (hextends : g.2.refilledGap = false) {m : Nat} (hmined : s.mined.val ≤ m) (hm : m < g.2.nonce)
    (haccepted : ∀ t ∈ s.accepted, signer.nonceOf t.raw ≠ some m)
    (howned : ∀ c ∈ s.world.calls, c.phase.pending.map (·.nonce) ≠ some m)
    (hrows : ∀ n ∈ s.world.db.allocations, n.nonce = m → n.status ≠ .released) :
    ¬ s.Contiguous chainId signer := by
  intro h
  rcases h g hg hextends m hmined hm with ⟨t, ht, hnonce⟩ | ⟨c, hc, n, hn, hnonce⟩
    | ⟨n, hn, -, hnonce, hstatus⟩
  · exact haccepted t ht hnonce
  · rw [Option.mem_def] at hn
    refine howned c hc ?_
    rw [hn]
    exact congrArg some hnonce
  · exact hrows n hn hnonce hstatus

end

/-- A payload is as long as its nonce tells; the seed `1` stands for a signer that fails. -/
def sampleSigner : TxSigner Unit where
  broadcasterAddress := 7
  sign seed _ nonce _ :=
    if seed = 1 then .error "locked" else .ok ⟨List.replicate nonce 0, 21000, 1⟩
  nonceOf raw := some raw.length
  signs_nonce := by
    intro seed gateway nonce call signed h
    split at h
    · cases h
    · cases h
      rw [List.length_replicate]

def samplePlan : BroadcastPlan Unit :=
  ⟨"profile", 1, 2, 3, .sponsoredEnrollment, 0, "owner", 60, ()⟩

/-- The node answers, and takes what it is sent. -/
def sampleAnswer : Answer := ⟨.ok 0, 0, none, .ok 0, none, 10⟩

def sampleAccount : Account Unit := .initial [⟨⟨"profile", 1⟩, "profile", .pending, some 100⟩] [] 0

/-- A nonce is claimed, given back as the signer fails, and claimed again. -/
def givenBack : List (Event Unit) :=
  [.call samplePlan, .step 0 sampleAnswer false, .step 0 sampleAnswer false,
    .step 0 { sampleAnswer with seed := 1 } false, .step 0 sampleAnswer false,
    .call samplePlan, .step 1 sampleAnswer false, .step 1 sampleAnswer false]

theorem contiguous_nonces_givenBack :
    Runs.Throughout (Account.next 5 sampleSigner) (Account.Contiguous 5 sampleSigner)
      sampleAccount givenBack := by
  refine contiguous_nonces 5 sampleSigner _ [] 0 ?_
  have htold : ∀ (s : Account Unit) i a, (∀ c ∈ s.world.calls[i]?, c.phase.KeepsNonce a false) →
      s.KeepsNonces (.step i a false) := fun _ _ _ h => h
  refine Runs.guarded_cons trivial
    (Runs.guarded_cons (htold _ _ _ ?_) (Runs.guarded_cons (htold _ _ _ ?_)
    (Runs.guarded_cons (htold _ _ _ ?_)
      (Runs.guarded_cons (htold _ _ _ ?_) (Runs.guarded_cons trivial
      (Runs.guarded_cons (htold _ _ _ ?_)
        (Runs.guarded_cons (htold _ _ _ ?_) Runs.guarded_nil)))))))
  all_goals decide +kernel

/-- A nonce is claimed, the process crashes, and the next call claims the nonce above it. -/
def crashed : List (Event Unit) :=
  [.call samplePlan, .step 0 sampleAnswer false, .step 0 sampleAnswer false, .crash,
    .call samplePlan, .step 0 sampleAnswer false, .step 0 sampleAnswer false]

/-- A payload is lost on its way to the node, and the next call claims the nonce above it. -/
def lost : List (Event Unit) :=
  [.call samplePlan, .step 0 sampleAnswer false, .step 0 sampleAnswer false,
    .step 0 sampleAnswer false, .step 0 sampleAnswer false, .step 0 sampleAnswer false,
    .step 0 { sampleAnswer with send := .error "connection reset" } false,
    .call samplePlan, .step 1 sampleAnswer false, .step 1 sampleAnswer false]

/-- **Two gaps that nothing fills.** -/
theorem abandoned_nonce :
    ¬ (crashed.foldl (Account.next 5 sampleSigner) sampleAccount).Contiguous 5 sampleSigner
    ∧ ¬ (lost.foldl (Account.next 5 sampleSigner) sampleAccount).Contiguous 5 sampleSigner := by
  constructor
  · refine not_contiguous (g := (0, ⟨broadcasterNonceRowId 5 7 1, 1, .account 7, false⟩)) ?_ rfl
      (Nat.le_refl 0) Nat.zero_lt_one ?_ ?_ ?_
    · decide +kernel
    · decide +kernel
    · decide +kernel
    · decide +kernel
  · refine not_contiguous (g := (0, ⟨broadcasterNonceRowId 5 7 1, 1, .account 7, false⟩)) ?_ rfl
      (Nat.le_refl 0) Nat.zero_lt_one ?_ ?_ ?_
    · decide +kernel
    · decide +kernel
    · decide +kernel
    · decide +kernel

end GoatCoin.StreamG
