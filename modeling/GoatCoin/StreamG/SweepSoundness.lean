/-
# `GoatCoin.StreamG.SweepSoundness` — what a release of the sweep is worth

The sweep asks the chain up to four times about a row, and blocks are added while it asks:

    receipt   of the transaction that was signed        at the head of that moment
    pinned    the number of the latest block
    used      `intentUsed` in the state of that block
    clock     the timestamp of the latest block         at a later head than the pinned one

An intent may be executed by anybody in a block whose timestamp is before its expiry.  The state is
read at the pinned block and the clock at the latest: a block in between may execute the intent, and
the clock then says that the intent can no longer be executed, as if it never was.  A row that is
overtaken so is released; every other release is sound, and a row whose read fails keeps what it
has.
-/
import GoatCoin.StreamG.Outbox

namespace GoatCoin.StreamG

open Evm Rows

/-! ## The chain -/

structure Block where
  timestamp : Nat
  /-- The gateway and the id of each intent that the block executes. -/
  executed : List (Address × Bytes32)
  receipts : List TxReceiptView

/-- `intentUsed(intentId)` after the blocks. -/
def Executed (chain : List Block) (gateway : Address) (intentId : Bytes32) : Prop :=
  ∃ b ∈ chain, (gateway, intentId) ∈ b.executed

instance (chain : List Block) (gateway : Address) (intentId : Bytes32) :
    Decidable (Executed chain gateway intentId) :=
  inferInstanceAs (Decidable (∃ b ∈ chain, _))

def receiptOf (chain : List Block) (hash : Bytes32) : Option TxReceiptView :=
  (chain.flatMap (·.receipts)).find? (·.txHash = hash)

/-- The reads of one row: how long the chain was at each, and which of them the node has refused. -/
structure Reads (chain : List Block) where
  receipt : Nat
  pinned : Nat
  used : Nat
  clock : Nat
  receipt_le : receipt ≤ pinned
  pinned_le : pinned ≤ used
  used_le : used ≤ clock
  clock_le : clock ≤ chain.length
  receiptError : Option String
  pinnedError : Option String
  usedError : Option String
  clockError : Option String

/-- An answer, unless the read has failed. -/
def answer {α : Type} (error : Option String) (x : Except String α) : Except String α :=
  match error with
  | some e => .error e
  | none => x

/-- `RpcChain`, as a row finds it. -/
def Reads.client {chain : List Block} (r : Reads chain) : ChainClient where
  transactionReceipt :=
    fun hash => answer r.receiptError (.ok (receiptOf (chain.take r.receipt) hash))
  pinnedBlockNumber := answer r.pinnedError
    (if r.pinned = 0 then .error "eth_blockNumber: no block" else .ok (r.pinned - 1))
  intentUsed := fun gateway intentId block => answer r.usedError
    (if block < r.used then .ok (decide (Executed (chain.take (block + 1)) gateway intentId))
      else .error "eth_call: no such block")
  blockTimestamp := answer r.clockError
    (match (chain.take r.clock).getLast? with
      | none => .error "latest block missing"
      | some b => .ok b.timestamp)

/-! ## The sweep -/

/-- `sweep_stuck_reservations`: the claim, the reads of each row, and what others have written to
the database before the verdicts are applied. -/
def sweepStuckReservations (policy : SweepPolicy) (now : Int) (db : Db) (chain : List Block)
    (reads : AttemptRowId → Reads chain) (others : Db → Db) :
    Except OutboxError (Db × List (ClaimedAttempt × RowOutcome)) :=
  let (db, claimed) := claimStaleReservations db policy now
  applyResolutions policy now (others db) (claimed.map fun row =>
    (row, resolveAgainstChain (reads row.attemptId).client policy.gateway row))

/-- The id that the row asks about. -/
def ClaimedAttempt.intentId (row : ClaimedAttempt) : Option Bytes32 :=
  row.intentIdHex.bind parseBytes32

/-- What is assumed of a chain: its clock does not go back, and it executes the intent of the row
before its expiry only. -/
structure Proper (gateway : Address) (row : ClaimedAttempt) (chain : List Block) : Prop where
  clock : chain.Pairwise fun a b => a.timestamp ≤ b.timestamp
  expiry : ∀ intentId ∈ row.intentId, ∀ expiresAt ∈ row.intentExpiresAt, ∀ b ∈ chain,
    (gateway, intentId) ∈ b.executed → (b.timestamp : Int) < expiresAt

/-- The intent is unused at the head, and in every later state of the chain. -/
def NeverExecuted (gateway : Address) (row : ClaimedAttempt) (chain : List Block) : Prop :=
  ∀ intentId ∈ row.intentId, ∀ more, Proper gateway row (chain ++ more) →
    ¬ Executed (chain ++ more) gateway intentId

/-- Every read of the row was answered, the signed transaction has not succeeded, the intent is
unused at the pinned block, and the clock has reached its expiry. -/
structure Cleared (gateway : Address) (row : ClaimedAttempt) {chain : List Block} (r : Reads chain)
    (intentId : Bytes32) : Prop where
  receipt : ∀ text ∈ row.rawTxHash, ∃ hash ∈ parseBytes32 text, r.receiptError = none
    ∧ ∀ receipt ∈ receiptOf (chain.take r.receipt) hash, receipt.success = false
  intent : row.intentId = some intentId
  pinned : r.pinnedError = none ∧ 0 < r.pinned
  unused : r.usedError = none ∧ ¬ Executed (chain.take r.pinned) gateway intentId
  expired : ∃ expiresAt ∈ row.intentExpiresAt, r.clockError = none
    ∧ ∃ b ∈ (chain.take r.clock).getLast?, b.timestamp ≠ 0
    ∧ expiresAt ≤ min (b.timestamp : Int) (2 ^ 63 - 1)

/-- **The race**: a block after the pinned one has executed the intent, and the clock was read
later. -/
def Overtaken (gateway : Address) (row : ClaimedAttempt) {chain : List Block}
    (r : Reads chain) : Prop :=
  ∃ intentId, Cleared gateway row r intentId ∧ Executed (chain.take r.clock) gateway intentId

/-! ## What the chain has said -/

section
variable {gateway : Address} {row : ClaimedAttempt} {chain : List Block} {r : Reads chain}

theorem answer_ok {α : Type} {error : Option String} {x : Except String α} {a : α} :
    answer error x = .ok a ↔ error = none ∧ x = .ok a := by
  cases error with
  | none => exact ⟨fun h => ⟨rfl, h⟩, fun h => h.2⟩
  | some e => exact ⟨nofun, nofun⟩

theorem resolveByClock_safe :
    (∃ reason, resolveByClock r.client row = .safeToRelease reason) ↔
      ∃ expiresAt ∈ row.intentExpiresAt, r.clockError = none
        ∧ ∃ b ∈ (chain.take r.clock).getLast?, b.timestamp ≠ 0
          ∧ expiresAt ≤ min (b.timestamp : Int) (2 ^ 63 - 1) := by
  have hclock : ∀ t, r.client.blockTimestamp = .ok t ↔
      r.clockError = none ∧ ∃ b ∈ (chain.take r.clock).getLast?, b.timestamp = t := by
    intro t
    refine answer_ok.trans (and_congr_right fun _ => ?_)
    cases (chain.take r.clock).getLast? with
    | none => exact ⟨nofun, nofun⟩
    | some b => simp
  unfold resolveByClock
  cases row.intentExpiresAt with
  | none => exact ⟨nofun, nofun⟩
  | some expiresAt =>
      dsimp only
      cases hread : r.client.blockTimestamp with
      | error e =>
          refine ⟨nofun, ?_⟩
          rintro ⟨_, -, herror, b, hb, -⟩
          rw [(hclock b.timestamp).mpr ⟨herror, b, hb, rfl⟩] at hread
          cases hread
      | ok t =>
          obtain ⟨herror, b, hb, rfl⟩ := (hclock t).mp hread
          dsimp only
          by_cases hzero : b.timestamp = 0
          · rw [if_pos hzero]
            refine ⟨nofun, ?_⟩
            rintro ⟨_, -, -, b', hb', hne, -⟩
            cases Option.mem_unique hb hb'
            exact absurd hzero hne
          · rw [if_neg hzero]
            by_cases hearly : min (b.timestamp : Int) (2 ^ 63 - 1) < expiresAt
            · rw [if_pos hearly]
              refine ⟨nofun, ?_⟩
              rintro ⟨e, he, -, b', hb', -, hle⟩
              cases Option.mem_unique hb hb'
              cases he
              exact absurd hle (not_le.mpr hearly)
            · rw [if_neg hearly]
              exact ⟨fun _ => ⟨expiresAt, rfl, herror, b, hb, hzero, not_lt.mp hearly⟩,
                fun _ => ⟨_, rfl⟩⟩

theorem pinnedBlockNumber_ok {block : Nat} :
    r.client.pinnedBlockNumber = .ok block ↔ r.pinnedError = none ∧ r.pinned = block + 1 := by
  refine answer_ok.trans (and_congr_right fun _ => ?_)
  by_cases h : r.pinned = 0
  · rw [if_pos h, h]
    exact ⟨nofun, nofun⟩
  · rw [if_neg h, Except.ok.injEq]
    omega

variable {intentId : Bytes32}

theorem intentUsed_ok {block : Nat} (hblock : r.pinned = block + 1) {used : Bool} :
    r.client.intentUsed gateway intentId block = .ok used ↔
      r.usedError = none ∧ decide (Executed (chain.take r.pinned) gateway intentId) = used := by
  have hlt : block < r.used := by
    have hle := r.pinned_le
    omega
  refine answer_ok.trans (and_congr_right fun _ => ?_)
  rw [if_pos hlt, hblock, Except.ok.injEq]

theorem resolveByIntent_safe :
    (∃ reason, resolveByIntent r.client gateway row = .safeToRelease reason) ↔
      ∃ intentId, row.intentId = some intentId ∧ (r.pinnedError = none ∧ 0 < r.pinned)
        ∧ (r.usedError = none ∧ ¬ Executed (chain.take r.pinned) gateway intentId)
        ∧ ∃ reason, resolveByClock r.client row = .safeToRelease reason := by
  unfold resolveByIntent ClaimedAttempt.intentId
  cases row.intentIdHex with
  | none => exact ⟨nofun, nofun⟩
  | some text =>
      dsimp only
      rw [Option.bind_some]
      cases parseBytes32 text with
      | none => exact ⟨nofun, nofun⟩
      | some intentId =>
          dsimp only
          cases hpinned : r.client.pinnedBlockNumber with
          | error e =>
              refine ⟨nofun, ?_⟩
              rintro ⟨_, -, ⟨herror, hpos⟩, -⟩
              rw [pinnedBlockNumber_ok.mpr ⟨herror, (Nat.succ_pred_eq_of_pos hpos).symm⟩] at hpinned
              cases hpinned
          | ok block =>
              obtain ⟨herror, hblock⟩ := pinnedBlockNumber_ok.mp hpinned
              have hpos : 0 < r.pinned := by omega
              dsimp only
              cases hused : r.client.intentUsed gateway intentId block with
              | error e =>
                  refine ⟨nofun, ?_⟩
                  rintro ⟨id, hid, -, ⟨hanswered, -⟩, -⟩
                  cases hid
                  rw [(intentUsed_ok hblock).mpr ⟨hanswered, rfl⟩] at hused
                  cases hused
              | ok used =>
                  obtain ⟨hanswered, hexec⟩ := (intentUsed_ok hblock).mp hused
                  cases used with
                  | true =>
                      refine ⟨nofun, ?_⟩
                      rintro ⟨id, hid, -, ⟨-, hunused⟩, -⟩
                      cases hid
                      exact absurd (of_decide_eq_true hexec) hunused
                  | false =>
                      dsimp only
                      refine ⟨fun h =>
                        ⟨intentId, rfl, ⟨herror, hpos⟩, ⟨hanswered, of_decide_eq_false hexec⟩, h⟩,
                        fun ⟨_, _, _, _, h⟩ => h⟩

theorem receipt_ok {hash : Bytes32} {receipt : Option TxReceiptView} :
    r.client.transactionReceipt hash = .ok receipt ↔
      r.receiptError = none ∧ receiptOf (chain.take r.receipt) hash = receipt := by
  refine answer_ok.trans (and_congr_right fun _ => ?_)
  rw [Except.ok.injEq]

/-- **When a row is found safe.** -/
theorem resolveAgainstChain_safe :
    (∃ reason, resolveAgainstChain r.client gateway row = .safeToRelease reason) ↔
      ∃ intentId, Cleared gateway row r intentId := by
  have hcleared : (∀ text ∈ row.rawTxHash, ∃ hash ∈ parseBytes32 text, r.receiptError = none
        ∧ ∀ receipt ∈ receiptOf (chain.take r.receipt) hash, receipt.success = false) →
      ((∃ reason, resolveByIntent r.client gateway row = .safeToRelease reason) ↔
        ∃ intentId, Cleared gateway row r intentId) := by
    intro hreceipt
    rw [resolveByIntent_safe, resolveByClock_safe]
    exact ⟨fun ⟨id, hid, hpinned, hunused, hexpired⟩ =>
      ⟨id, hreceipt, hid, hpinned, hunused, hexpired⟩,
      fun ⟨id, h⟩ => ⟨id, h.intent, h.pinned, h.unused, h.expired⟩⟩
  unfold resolveAgainstChain
  cases hraw : row.rawTxHash with
  | none =>
      refine hcleared ?_
      rw [hraw]
      exact nofun
  | some text =>
      dsimp only
      cases hparse : parseBytes32 text with
      | none =>
          refine ⟨nofun, fun ⟨_, h⟩ => ?_⟩
          obtain ⟨hash, hhash, -⟩ := h.receipt text hraw
          rw [hparse] at hhash
          cases hhash
      | some hash =>
          -- the row is cleared only if the receipt says that nothing was consumed
          have hgiven : (r.receiptError = none
                ∧ ∀ receipt ∈ receiptOf (chain.take r.receipt) hash, receipt.success = false) →
              ∀ text ∈ row.rawTxHash, ∃ hash ∈ parseBytes32 text, r.receiptError = none
                ∧ ∀ receipt ∈ receiptOf (chain.take r.receipt) hash, receipt.success = false := by
            intro h text' htext'
            cases Option.mem_unique hraw htext'
            exact ⟨hash, hparse, h⟩
          have hneeded : ∀ intentId, Cleared gateway row r intentId → r.receiptError = none
              ∧ ∀ receipt ∈ receiptOf (chain.take r.receipt) hash, receipt.success = false := by
            intro intentId h
            obtain ⟨hash', hhash', hread⟩ := h.receipt text hraw
            cases Option.mem_unique hparse hhash'
            exact hread
          dsimp only
          cases hread : r.client.transactionReceipt hash with
          | error e =>
              refine ⟨nofun, fun ⟨id, h⟩ => ?_⟩
              rw [receipt_ok.mpr ⟨(hneeded id h).1, rfl⟩] at hread
              cases hread
          | ok receipt =>
              obtain ⟨herror, hreceipt⟩ := receipt_ok.mp hread
              cases receipt with
              | none =>
                  dsimp only
                  refine hcleared (hgiven ⟨herror, ?_⟩)
                  rw [hreceipt]
                  exact nofun
              | some receipt =>
                  dsimp only
                  cases hsuccess : receipt.success with
                  | true =>
                      rw [if_pos rfl]
                      refine ⟨nofun, fun ⟨id, h⟩ => ?_⟩
                      rw [(hneeded id h).2 receipt hreceipt] at hsuccess
                      cases hsuccess
                  | false =>
                      rw [if_neg Bool.false_ne_true]
                      refine hcleared (hgiven ⟨herror, fun receipt' h => ?_⟩)
                      cases Option.mem_unique hreceipt h
                      exact hsuccess

/-! ## What holds afterwards -/

theorem Executed.mono {chain chain' : List Block} (h : Executed chain gateway intentId)
    (hsub : chain ⊆ chain') : Executed chain' gateway intentId := by
  obtain ⟨b, hb, hexec⟩ := h
  exact ⟨b, hsub hb, hexec⟩

/-- Once the clock has reached the expiry, what is unused stays unused. -/
theorem neverExecuted_of_expired (hid : row.intentId = some intentId)
    {early late : List Block} {last : Block} {expiresAt : Int} (hlast : last ∈ early.getLast?)
    (hexpiry : expiresAt ∈ row.intentExpiresAt) (hclock : expiresAt ≤ last.timestamp)
    (hunused : ¬ Executed early gateway intentId) : NeverExecuted gateway row (early ++ late) := by
  intro id hid' more hproper hexec
  cases Option.mem_unique hid hid'
  rw [List.append_assoc] at hproper hexec
  obtain ⟨b, hb, hin⟩ := hexec
  rcases List.mem_append.mp hb with hb | hb
  · exact hunused ⟨b, hb, hin⟩
  · have hbefore :=
      hproper.expiry intentId hid expiresAt hexpiry b (List.mem_append_right early hb) hin
    have hafter :=
      (List.pairwise_append.mp hproper.clock).2.2 last (List.mem_of_mem_getLast? hlast) b hb
    omega

/-- **A row that is cleared is worth a release unless it was overtaken.** -/
theorem neverExecuted_iff (hproper : Proper gateway row chain)
    (hcleared : Cleared gateway row r intentId) :
    NeverExecuted gateway row chain ↔ ¬ Overtaken gateway row r := by
  constructor
  · rintro hnever ⟨id, hid, hexec⟩
    refine hnever id hid.intent [] ?_ ?_
    · rw [List.append_nil]
      exact hproper
    · rw [List.append_nil]
      exact hexec.mono (List.take_subset _ _)
  · intro hnot
    obtain ⟨expiresAt, hexpiry, -, last, hlast, -, hle⟩ := hcleared.expired
    have hunused : ¬ Executed (chain.take r.clock) gateway intentId :=
      fun h => hnot ⟨intentId, hcleared, h⟩
    have hclock : expiresAt ≤ last.timestamp := le_trans hle (min_le_left _ _)
    have h : NeverExecuted gateway row (chain.take r.clock ++ chain.drop r.clock) :=
      neverExecuted_of_expired hcleared.intent hlast hexpiry hclock hunused
    rw [List.take_append_drop] at h
    exact h

end

/-! ## A read that fails -/

/-- The signed transaction has no receipt, or that of a revert. -/
def Unmined (client : ChainClient) (row : ClaimedAttempt) : Prop :=
  ∀ text ∈ row.rawTxHash, ∃ hash ∈ parseBytes32 text, ∃ receipt,
    client.transactionReceipt hash = .ok receipt ∧ ∀ x ∈ receipt, x.success = false

/-- The intent is unused at the pinned block. -/
def Unused (client : ChainClient) (gateway : Address) (row : ClaimedAttempt) : Prop :=
  ∃ intentId block, row.intentId = some intentId ∧ client.pinnedBlockNumber = .ok block
    ∧ client.intentUsed gateway intentId block = .ok false

/-- A read that the resolution makes, and that the node has refused. -/
inductive Refused (client : ChainClient) (gateway : Address) (row : ClaimedAttempt) : Prop where
  | receipt {text : String} {hash : Bytes32} {e : String} (raw : row.rawTxHash = some text)
      (parsed : parseBytes32 text = some hash) (refused : client.transactionReceipt hash = .error e)
  | pinned {intentId : Bytes32} {e : String} (unmined : Unmined client row)
      (intent : row.intentId = some intentId) (refused : client.pinnedBlockNumber = .error e)
  | used {intentId : Bytes32} {block : Nat} {e : String} (unmined : Unmined client row)
      (intent : row.intentId = some intentId) (pinned : client.pinnedBlockNumber = .ok block)
      (refused : client.intentUsed gateway intentId block = .error e)
  | clock {expiresAt : Int} {e : String} (unmined : Unmined client row)
    (unused : Unused client gateway row)
      (expiry : row.intentExpiresAt = some expiresAt) (refused : client.blockTimestamp = .error e)

section
variable {client : ChainClient} {gateway : Address} {row : ClaimedAttempt}

theorem resolve_of_unmined (h : Unmined client row) :
    resolveAgainstChain client gateway row = resolveByIntent client gateway row := by
  unfold resolveAgainstChain
  cases hraw : row.rawTxHash with
  | none => rfl
  | some text =>
      obtain ⟨hash, hhash, receipt, hread, hfailed⟩ := h text hraw
      dsimp only
      rw [hhash]
      dsimp only
      rw [hread]
      cases receipt with
      | none => rfl
      | some receipt =>
          dsimp only
          rw [hfailed receipt rfl]
          rfl

theorem intentIdHex_of_intentId {intentId : Bytes32} (h : row.intentId = some intentId) :
    ∃ text, row.intentIdHex = some text ∧ parseBytes32 text = some intentId :=
  Option.bind_eq_some_iff.mp h

theorem resolve_of_unused (h : Unused client gateway row) :
    resolveByIntent client gateway row = resolveByClock client row := by
  obtain ⟨intentId, block, hid, hpinned, hused⟩ := h
  obtain ⟨text, htext, hparse⟩ := intentIdHex_of_intentId hid
  unfold resolveByIntent
  rw [htext]
  dsimp only
  rw [hparse]
  dsimp only
  rw [hpinned]
  dsimp only
  rw [hused]

/-- **Every error is answered by `Stuck`.** -/
theorem stuck_of_refused (h : Refused client gateway row) :
    ∃ reason, resolveAgainstChain client gateway row = .stuck reason := by
  cases h with
  | receipt raw parsed refused =>
      unfold resolveAgainstChain
      rw [raw]
      dsimp only
      rw [parsed]
      dsimp only
      rw [refused]
      exact ⟨_, rfl⟩
  | pinned unmined intent refused =>
      obtain ⟨text, htext, hparse⟩ := intentIdHex_of_intentId intent
      rw [resolve_of_unmined unmined]
      unfold resolveByIntent
      rw [htext]
      dsimp only
      rw [hparse]
      dsimp only
      rw [refused]
      exact ⟨_, rfl⟩
  | used unmined intent pinned refused =>
      obtain ⟨text, htext, hparse⟩ := intentIdHex_of_intentId intent
      rw [resolve_of_unmined unmined]
      unfold resolveByIntent
      rw [htext]
      dsimp only
      rw [hparse]
      dsimp only
      rw [pinned]
      dsimp only
      rw [refused]
      exact ⟨_, rfl⟩
  | clock unmined unused expiry refused =>
      rw [resolve_of_unmined unmined, resolve_of_unused unused]
      unfold resolveByClock
      rw [expiry]
      dsimp only
      rw [refused]
      exact ⟨_, rfl⟩

end

/-! ## The rows of a sweep -/

section
variable {policy : SweepPolicy} {now : Int}
variable {rows : List (ClaimedAttempt × Resolution)}

theorem applied_frame :
    ∀ {db db' : Db} {outcomes : List (ClaimedAttempt × RowOutcome)},
      applyResolutions policy now db rows = .ok (db', outcomes) →
      (∀ a ∈ db.attempts, (∀ x ∈ rows, a.id ≠ x.1.attemptId) → a ∈ db'.attempts)
        ∧ ∀ n ∈ db.allocations, (∀ x ∈ rows, x.1.allocationId ≠ some n.id) →
        n ∈ db'.allocations := by
  induction rows with
  | nil =>
      intro db db' outcomes h
      cases h
      exact ⟨fun a ha _ => ha, fun n hn _ => hn⟩
  | cons x rest ih =>
      intro db db' outcomes h
      obtain ⟨⟨db₁, outcome⟩, hfirst, h⟩ := bind_ok.mp h
      obtain ⟨⟨db₂, later⟩, hrest, h⟩ := bind_ok.mp h
      cases h
      have honly := (applies_of_ok hfirst).onlyRow
      obtain ⟨hattempts, hslots⟩ := ih hrest
      refine ⟨fun a ha hne => ?_, fun n hn hne => ?_⟩
      · exact hattempts a (honly.attempts a ha (hne x List.mem_cons_self))
          fun y hy => hne y (List.mem_cons_of_mem x hy)
      · exact hslots n (honly.slots n hn (hne x List.mem_cons_self))
          fun y hy => hne y (List.mem_cons_of_mem x hy)

/-- **A row is released if it was found safe, and the sweep still owned it.** -/
theorem applied_released {O : ClaimedAttempt → Prop} :
    ∀ {db db' : Db} {outcomes : List (ClaimedAttempt × RowOutcome)},
      (rows.map (·.1.attemptId)).Nodup → (∀ x ∈ rows, db.Owns x.1 policy.claimOwner ↔ O x.1) →
      applyResolutions policy now db rows = .ok (db', outcomes) →
      List.Forall₂ (fun x o => o.1 = x.1
        ∧ (o.2 = .released ↔ (∃ reason, x.2 = .safeToRelease reason) ∧ O x.1)) rows outcomes := by
  induction rows with
  | nil =>
      intro db db' outcomes _ _ h
      cases h
      exact .nil
  | cons x rest ih =>
      intro db db' outcomes hnodup hO h
      obtain ⟨⟨db₁, outcome⟩, hfirst, h⟩ := bind_ok.mp h
      obtain ⟨⟨db₂, later⟩, hrest, h⟩ := bind_ok.mp h
      cases h
      obtain ⟨hx, hnodup⟩ := List.nodup_cons.mp hnodup
      have happlies := applies_of_ok hfirst
      refine .cons ⟨rfl, ?_⟩ (ih hnodup (fun y hy => ?_) hrest)
      · rw [← hO x List.mem_cons_self]
        exact happlies.released_iff
      · have hne : y.1.attemptId ≠ x.1.attemptId :=
          fun heq => hx (List.mem_map.mpr ⟨y, hy, heq⟩)
        rw [happlies.onlyRow.owns y.1 policy.claimOwner hne]
        exact hO y (List.mem_cons_of_mem x hy)

/-- **A row that is stuck keeps its transaction and its slot.** -/
theorem applied_stuck {row : ClaimedAttempt} {reason : String} :
    ∀ {db db' : Db} {outcomes : List (ClaimedAttempt × RowOutcome)},
      (rows.map (·.1.attemptId)).Nodup → (row, Resolution.stuck reason) ∈ rows →
      applyResolutions policy now db rows = .ok (db', outcomes) →
      (row, RowOutcome.stuck reason) ∈ outcomes
        ∧ (∀ a ∈ db.attempts, a.id = row.attemptId →
          ∃ owner lease, { a with claimOwner := owner, leaseUntil := lease } ∈ db'.attempts)
        ∧ ∀ n ∈ db.allocations, (∀ x ∈ rows, x.1 ≠ row → x.1.allocationId ≠ some n.id) →
          n ∈ db'.allocations := by
  induction rows with
  | nil => exact fun _ hmem => (List.not_mem_nil hmem).elim
  | cons x rest ih =>
      intro db db' outcomes hnodup hmem h
      obtain ⟨⟨db₁, outcome⟩, hfirst, h⟩ := bind_ok.mp h
      obtain ⟨⟨db₂, later⟩, hrest, h⟩ := bind_ok.mp h
      cases h
      obtain ⟨hx, hnodup⟩ := List.nodup_cons.mp hnodup
      rcases List.mem_cons.mp hmem with rfl | hmem
      · -- its own turn: it goes back to waiting
        cases hfirst
        obtain ⟨hattempts, hslots⟩ := applied_frame hrest
        have hother : ∀ y ∈ rest, y.1.attemptId ≠ row.attemptId :=
          fun y hy heq => hx (List.mem_map.mpr ⟨y, hy, heq⟩)
        refine ⟨List.mem_cons_self, fun a ha hid => ?_, fun n hn hne => ?_⟩
        · have hkept : ∀ b ∈ (deferAttempt db row.attemptId policy.claimOwner
              (saturatingAddI64 now policy.leaseTtlSeconds)).attempts, b.id = row.attemptId →
              b ∈ db'.attempts :=
            fun b hb hbid => hattempts b hb fun y hy => hbid ▸ (hother y hy).symm
          by_cases hclaimed : a.ClaimedBy row.attemptId policy.claimOwner
          · exact ⟨none, some (saturatingAddI64 now policy.leaseTtlSeconds),
              hkept _ (mem_setWhere.mpr ⟨a, ha, (if_pos hclaimed).symm⟩) hid⟩
          · exact ⟨a.claimOwner, a.leaseUntil,
              hkept a (mem_setWhere.mpr ⟨a, ha, (if_neg hclaimed).symm⟩) hid⟩
        · exact hslots n hn fun y hy => hne y (List.mem_cons_of_mem _ hy)
            fun heq => hother y hy (congrArg ClaimedAttempt.attemptId heq)
      · have hne : row.attemptId ≠ x.1.attemptId :=
          fun heq => hx (List.mem_map.mpr ⟨_, hmem, heq⟩)
        have honly := (applies_of_ok hfirst).onlyRow
        obtain ⟨hout, hattempts, hslots⟩ := ih hnodup hmem hrest
        refine ⟨List.mem_cons_of_mem _ hout, fun a ha hid => ?_, fun n hn hslot => ?_⟩
        · exact hattempts a (honly.attempts a ha (hid ▸ hne)) hid
        · have hxrow : x.1 ≠ row := fun heq => hne (congrArg ClaimedAttempt.attemptId heq.symm)
          exact hslots n (honly.slots n hn (hslot x List.mem_cons_self hxrow))
            fun y hy => hslot y (List.mem_cons_of_mem x hy)

theorem claimed_sublist (rows : List (TxAttempt × IntentRow))
    (state : List TxAttempt × List ClaimedAttempt) :
    ((rows.foldl (claimRow policy now) state).2.map (·.attemptId)).Sublist
      (state.2.map (·.attemptId) ++ rows.map (·.1.id)) := by
  induction rows generalizing state with
  | nil =>
      rw [List.map_nil, List.append_nil]
      exact List.Sublist.refl _
  | cons row rest ih =>
      rw [List.foldl_cons, List.map_cons]
      refine (ih _).trans ?_
      unfold claimRow
      dsimp only
      split
      · rw [List.map_append, List.append_assoc]
        exact List.Sublist.refl _
      · exact List.Sublist.append_left (List.sublist_cons_self _ _) _

theorem joined_sublist (db : Db) (attempts : List TxAttempt) :
    ((attempts.filterMap db.joined).map (·.1.id)).Sublist (attempts.map (·.id)) := by
  induction attempts with
  | nil => exact List.Sublist.refl _
  | cons a rest ih =>
      rw [List.filterMap_cons, List.map_cons]
      unfold Db.joined at ih ⊢
      cases db.intents.find? fun i => i.id = a.intentId with
      | none => exact ih.cons _
      | some i => exact ih.cons_cons _

theorem claimed_nodup {db : Db} (hkeys : (db.attempts.map (·.id)).Nodup) :
    ((claimStaleReservations db policy now).2.map (·.attemptId)).Nodup := by
  refine List.Nodup.sublist (claimed_sublist _ (db.attempts, [])) ?_
  rw [List.map_nil, List.nil_append]
  have hlimit : ∀ {rows : List (TxAttempt × IntentRow)},
    (limitRows policy.maxRows rows).Sublist rows := by
    intro rows
    unfold limitRows
    split
    · exact List.Sublist.refl _
    · exact List.take_sublist _ _
  refine List.Nodup.sublist (hlimit.map _) ?_
  rw [((List.mergeSort_perm _ _).map _).nodup_iff]
  exact List.Nodup.sublist ((joined_sublist db _).trans (List.filter_sublist.map _)) hkeys

end

/-- What is left of a row whose reads were refused: the attempt, but for its lease, and its slot. -/
structure Kept (before after : Db) (claimed : List ClaimedAttempt)
    (row : ClaimedAttempt) : Prop where
  attempt : ∀ a ∈ before.attempts, a.id = row.attemptId →
    ∃ owner lease, { a with claimOwner := owner, leaseUntil := lease } ∈ after.attempts
  slot : ∀ n ∈ before.allocations, row.allocationId = some n.id →
    (∀ other ∈ claimed, other ≠ row → other.allocationId ≠ some n.id) → n ∈ after.allocations

/-- **Release only when execution is impossible.**  Whatever blocks are added between the reads and
whatever others write before the verdicts are applied, every release of the sweep is sound exactly
when no row that the sweep still owns was overtaken; and a row whose read was refused is kept. -/
theorem releases_sound_iff {policy : SweepPolicy} {now : Int} {db db' : Db} {chain : List Block}
    {reads : AttemptRowId → Reads chain} {others : Db → Db}
    {outcomes : List (ClaimedAttempt × RowOutcome)} (hkeys : (db.attempts.map (·.id)).Nodup)
    (hproper : ∀ row ∈ (claimStaleReservations db policy now).2, Proper policy.gateway row chain)
    (hsweep : sweepStuckReservations policy now db chain reads others = .ok (db', outcomes)) :
    ((∀ row, (row, .released) ∈ outcomes → NeverExecuted policy.gateway row chain) ↔
      ∀ row ∈ (claimStaleReservations db policy now).2,
        (others (claimStaleReservations db policy now).1).Owns row policy.claimOwner →
          ¬ Overtaken policy.gateway row (reads row.attemptId))
      ∧ ∀ row ∈ (claimStaleReservations db policy now).2,
        Refused (reads row.attemptId).client policy.gateway row →
          (∃ reason, (row, .stuck reason) ∈ outcomes)
            ∧ Kept (others (claimStaleReservations db policy now).1) db'
              (claimStaleReservations db policy now).2 row := by
  have hnodup : ((claimStaleReservations db policy now).2.map (·.attemptId)).Nodup :=
    claimed_nodup hkeys
  unfold sweepStuckReservations at hsweep
  dsimp only at hsweep
  generalize (claimStaleReservations db policy now).1 = held at *
  generalize (claimStaleReservations db policy now).2 = claimed at *
  have hrows :
    ((claimed.map fun row => (row, resolveAgainstChain (reads row.attemptId).client policy.gateway
      row)).map (·.1.attemptId)).Nodup := by
    rw [List.map_map]
    exact hnodup
  refine ⟨?_, fun row hrow hrefused => ?_⟩
  · have hall := applied_released (O := fun row => (others held).Owns row policy.claimOwner) hrows
      (fun _ _ => Iff.rfl) hsweep
    rw [List.forall₂_map_left_iff] at hall
    have hreleased : ∀ row, (row, .released) ∈ outcomes ↔ row ∈ claimed
        ∧ (others held).Owns row policy.claimOwner
        ∧ ∃ intentId, Cleared policy.gateway row (reads row.attemptId) intentId := by
      intro row
      constructor
      · intro hmem
        obtain ⟨row', hrow', heq, hiff⟩ := exists_of_forall₂ hall _ hmem
        cases heq
        obtain ⟨hsafe, howns⟩ := hiff.mp rfl
        exact ⟨hrow', howns, resolveAgainstChain_safe.mp hsafe⟩
      · rintro ⟨hrow, howns, hcleared⟩
        obtain ⟨⟨row', outcome⟩, hmem, heq, hiff⟩ := exists_of_forall₂ hall.flip row hrow
        cases heq
        cases hiff.mpr ⟨resolveAgainstChain_safe.mpr hcleared, howns⟩
        exact hmem
    constructor
    · rintro hsound row hrow howns ⟨intentId, hcleared, hexec⟩
      have hnever := hsound row ((hreleased row).mpr ⟨hrow, howns, intentId, hcleared⟩)
      exact (neverExecuted_iff (hproper row hrow) hcleared).mp hnever ⟨intentId, hcleared, hexec⟩
    · intro hnot row hmem
      obtain ⟨hrow, howns, intentId, hcleared⟩ := (hreleased row).mp hmem
      exact (neverExecuted_iff (hproper row hrow) hcleared).mpr (hnot row hrow howns)
  · obtain ⟨reason, hstuck⟩ := stuck_of_refused hrefused
    have hmem : (row, Resolution.stuck reason) ∈ claimed.map fun row =>
        (row, resolveAgainstChain (reads row.attemptId).client policy.gateway row) :=
      List.mem_map.mpr ⟨row, hrow, by rw [hstuck]⟩
    obtain ⟨hout, hattempts, hslots⟩ := applied_stuck hrows hmem hsweep
    refine ⟨⟨reason, hout⟩, hattempts, fun n hn _ hother => hslots n hn fun x hx hne => ?_⟩
    obtain ⟨other, hmem', rfl⟩ := List.mem_map.mp hx
    exact hother other hmem' hne

/-! ## Two sweeps of one row -/

def samplePolicy : SweepPolicy := ⟨"sweep", 60, 10, 3⟩

/-- A reservation whose lease has run out, for the intent `9` that expires at `200`. -/
def staleAttempt : TxAttempt :=
  { id := ⟨"p", 9, 0⟩, intentId := ⟨"p", 9⟩,
    nonceAllocationId := some ⟨.action, 1, .action 5 .goatTransfer, 0⟩,
    chainId := 1, txHash := none, status := .reserved, rawTx := some [1],
    rawTxHash := some "0x0000000000000000000000000000000000000000000000000000000000000001",
    intentIdHex := some "0x0000000000000000000000000000000000000000000000000000000000000009",
    errorMessage := none, createdAt := 0, submittedAt := none, confirmedAt :=
    none, attemptNumber := 0,
    claimOwner := some "submit", leaseUntil := some 10 }

def staleDb : Db :=
  ⟨[⟨⟨"p", 9⟩, "p", .submitted, some 200⟩], [staleAttempt],
    [⟨⟨.action, 1, .action 5 .goatTransfer, 0⟩, 1, .action 5 .goatTransfer, 0, .allocated,
      0, none, .action, some "submit", some 10⟩]⟩

/-- The third block executes the intent before its expiry, and the fourth is past it. -/
def racedChain : List Block := [⟨100, [], []⟩, ⟨150, [], []⟩, ⟨190, [(3, 9)], []⟩, ⟨200, [], []⟩]

/-- The clock is read two blocks after the pinned one. -/
def lateClock : Reads racedChain :=
  ⟨2, 2, 2, 4, by decide, by decide, by decide, by decide, none, none, none, none⟩

/-- A chain that does not execute the intent, and is read at one block. -/
def quietChain : List Block := [⟨100, [], []⟩, ⟨150, [], []⟩, ⟨200, [], []⟩]

def quietReads : Reads quietChain :=
  ⟨3, 3, 3, 3, by decide, by decide, by decide, by decide, none, none, none, none⟩

def staleRow : ClaimedAttempt :=
  ⟨⟨"p", 9, 0⟩, some ⟨.action, 1, .action 5 .goatTransfer, 0⟩, "p",
    some "0x0000000000000000000000000000000000000000000000000000000000000001",
    some "0x0000000000000000000000000000000000000000000000000000000000000009", some 200⟩

theorem staleRow_claimed : (claimStaleReservations staleDb samplePolicy 1000).2 = [staleRow] := by
  decide +kernel

theorem staleRow_intentId : staleRow.intentId = some 9 := by decide +kernel

theorem staleRow_proper {chain : List Block}
    (hclock : chain.Pairwise fun a b => a.timestamp ≤ b.timestamp)
    (hexpiry : ∀ b ∈ chain, (samplePolicy.gateway, 9) ∈ b.executed → (b.timestamp : Int) < 200) :
    Proper samplePolicy.gateway staleRow chain := by
  refine ⟨hclock, fun intentId hid expiresAt hexp b hb hin => ?_⟩
  cases Option.mem_unique staleRow_intentId hid
  cases hexp
  exact hexpiry b hb hin

theorem exists_sweep {chain : List Block} {reads : AttemptRowId → Reads chain}
    {outcomes : List (ClaimedAttempt × RowOutcome)}
    (h : (sweepStuckReservations samplePolicy 1000 staleDb chain reads id).map (·.2)
      = .ok outcomes) :
    ∃ db', sweepStuckReservations samplePolicy 1000 staleDb chain reads id
    = .ok (db', outcomes) := by
  match hsweep : sweepStuckReservations samplePolicy 1000 staleDb chain reads id with
  | .error e =>
      rw [hsweep] at h
      cases h
  | .ok (db', found) =>
      rw [hsweep] at h
      cases h
      exact ⟨db', rfl⟩

theorem outcomes_of_late :
    (sweepStuckReservations samplePolicy 1000 staleDb racedChain (fun _ => lateClock)
    id).map (·.2) = .ok [(staleRow, .released)] := by
  decide +kernel

theorem outcomes_of_quiet : (sweepStuckReservations samplePolicy 1000 staleDb quietChain
    (fun _ => quietReads) id).map (·.2) = .ok [(staleRow, .released)] := by
  decide +kernel

/-- **The slot of an intent that has been executed is released.** -/
theorem overtaken_row_released :
    (staleDb.attempts.map (·.id)).Nodup
      ∧ (∀ row ∈ (claimStaleReservations staleDb samplePolicy 1000).2,
        Proper samplePolicy.gateway row racedChain)
      ∧ ∃ db', sweepStuckReservations samplePolicy 1000 staleDb racedChain (fun _ => lateClock) id
          = .ok (db', [(staleRow, .released)])
        ∧ Executed racedChain samplePolicy.gateway 9
        ∧ ¬ NeverExecuted samplePolicy.gateway staleRow racedChain := by
  have hproper : Proper samplePolicy.gateway staleRow racedChain :=
    staleRow_proper (by decide) (by decide)
  have hexec : Executed racedChain samplePolicy.gateway 9 := by decide
  refine ⟨by decide, fun row hrow => ?_, ?_⟩
  · rw [staleRow_claimed, List.mem_singleton] at hrow
    rw [hrow]
    exact hproper
  · obtain ⟨db', hsweep⟩ := exists_sweep outcomes_of_late
    refine ⟨db', hsweep, hexec, fun hnever => ?_⟩
    exact hnever 9 staleRow_intentId [] (by rwa [List.append_nil]) (by rwa [List.append_nil])

theorem releases_sound_iff_quiet :
    ∃ db', sweepStuckReservations samplePolicy 1000 staleDb quietChain (fun _ => quietReads) id
        = .ok (db', [(staleRow, .released)])
      ∧ NeverExecuted samplePolicy.gateway staleRow quietChain := by
  obtain ⟨db', hsweep⟩ := exists_sweep outcomes_of_quiet
  have hsound := releases_sound_iff (by decide) (fun row hrow => by
    rw [staleRow_claimed, List.mem_singleton] at hrow
    rw [hrow]
    exact staleRow_proper (by decide) (by decide)) hsweep
  refine ⟨db', hsweep, hsound.1.mpr (fun row hrow _ => ?_) staleRow List.mem_cons_self⟩
  rintro ⟨intentId, -, b, hb, hin⟩
  have hnone : ∀ b ∈ quietChain, b.executed = [] := by decide
  rw [hnone b (List.mem_of_mem_take hb)] at hin
  cases hin

end GoatCoin.StreamG
