/-
# `GoatCoin.Attestor.EpochBatch` — what a batch pays for, and what its controls have seen

A batch is built from totals, and its controls are run on receipts and sessions that come with them:

    receipts   --foldSessionTotals-->    sessions   --foldOperatorTotals-->   totals
       |                                    |                                    |
    chunk sequences                    concentration                     ceiling of a cluster

The builder holds each view to its own control and takes the arrows on trust.  Along the arrows no
byte is lost and none is made (`sum_sessions`); a caller that supplies other views gets a batch
whose leaves its controls have not seen.
-/
import GoatCoin.Attestor.Aggregate

namespace GoatCoin.Attestor

open Evm

/-! ## Sessions -/

/-- The operator a receipt names. -/
def operatorKey (r : StoredReceipt) : Except AggregateError Address :=
  decodeOperator r.operatorWallet

variable {id : Bytes32} {r : StoredReceipt} {receipts : List StoredReceipt}
  {sessions : List SessionTotal} {α κ : Type}

theorem addReceipt_some {s s' : SessionTotal}
    (h : addReceipt id (some s) r = .ok s') : s'.sessionId = s.sessionId ∧ s'.operator = s.operator
      ∧ operatorKey r = .ok s.operator
      ∧ s'.totalBytes.val = s.totalBytes.val + r.bytesTransferred.val
      ∧ s'.chunkCount.val = s.chunkCount.val + 1 := by
  obtain ⟨operator, hoperator, _, hsame, totalBytes, hbytes, chunkCount, hcount, h⟩ := bind_ok₄.mp h
  cases h
  have hsame : s.operator = operator := require_ok.mp hsame
  exact ⟨rfl, rfl, hsame ▸ hoperator, checkedAdd_ok.mp hbytes, checkedAdd_ok.mp hcount⟩

theorem addReceipt_none {s : SessionTotal}
    (h : addReceipt id none r = .ok s) : s.sessionId = id ∧ operatorKey r = .ok s.operator
      ∧ s.totalBytes.val = r.bytesTransferred.val ∧ s.chunkCount.val = 1 := by
  obtain ⟨operator, hoperator, _, -, totalBytes, hbytes, chunkCount, hcount, h⟩ := bind_ok₄.mp h
  cases h
  exact ⟨rfl, hoperator, (checkedAdd_ok.mp hbytes).trans (Nat.zero_add _),
    (checkedAdd_ok.mp hcount).trans (Nat.zero_add _)⟩

/-- A session is what its receipts add up to. -/
structure SessionOf (items : List StoredReceipt) (s : SessionTotal) : Prop where
  operator : ∀ r ∈ items, operatorKey r = .ok s.operator
  totalBytes : s.totalBytes.val = (items.map (·.bytesTransferred.val)).sum
  chunkCount : s.chunkCount.val = items.length

theorem foldlM_addReceipt {items : List StoredReceipt} :
    ∀ {before : List StoredReceipt} {s : SessionTotal} {o : Option SessionTotal},
    SessionOf before s → s.sessionId = id →
    items.foldlM (fun o r => some <$> addReceipt id o r) (some s) = .ok o →
      ∃ s', o = some s' ∧ s'.sessionId = id ∧ SessionOf (before ++ items) s' := by
  induction items with
  | nil =>
      intro before s o hs hid h
      cases h
      exact ⟨s, rfl, hid, by rwa [List.append_nil]⟩
  | cons r items ih =>
      intro before s o hs hid h
      obtain ⟨mid, hadd, hrest⟩ := (SortedMap.foldlM_some_cons r items _ _).mp h
      obtain ⟨hmid, hoperator, hr, hbytes, hcount⟩ := addReceipt_some hadd
      have hnext : SessionOf (before ++ [r]) mid := by
        refine ⟨fun x hx => ?_, ?_, ?_⟩
        · rw [hoperator]
          rcases List.mem_append.mp hx with hx | hx
          · exact hs.operator x hx
          · exact List.mem_singleton.mp hx ▸ hr
        · rw [hbytes, hs.totalBytes, List.map_append, List.sum_append, List.map_singleton,
            List.sum_singleton]
        · rw [hcount, hs.chunkCount, List.length_append, List.length_singleton]
      obtain ⟨s', ho, hid', hs'⟩ := ih hnext (hmid.trans hid) hrest
      exact ⟨s', ho, hid', by rwa [List.append_assoc] at hs'⟩

theorem gathered_addReceipt {o : Option SessionTotal}
    (h : SortedMap.gathered sessionKey addReceipt id receipts none = .ok o) :
    (SortedMap.itemsOf sessionKey id receipts = [] ∧ o = none)
      ∨ ∃ s, o = some s ∧ s.sessionId = id ∧ SortedMap.itemsOf sessionKey id receipts ≠ []
        ∧ SessionOf (SortedMap.itemsOf sessionKey id receipts) s := by
  rw [SortedMap.gathered] at h
  generalize SortedMap.itemsOf sessionKey id receipts = items at h ⊢
  cases items with
  | nil =>
      cases h
      exact .inl ⟨rfl, rfl⟩
  | cons r items =>
      obtain ⟨s, hadd, hrest⟩ := (SortedMap.foldlM_some_cons r items _ _).mp h
      obtain ⟨hid, hr, hbytes, hcount⟩ := addReceipt_none hadd
      have hfirst : SessionOf [r] s :=
        ⟨fun x hx => List.mem_singleton.mp hx ▸ hr, by
          rw [hbytes, List.map_singleton, List.sum_singleton], hcount⟩
      obtain ⟨s', ho, hid', hs'⟩ := foldlM_addReceipt hfirst hid hrest
      exact .inr ⟨s', ho, hid', List.cons_ne_nil r items, hs'⟩

/-- **What the sessions of some receipts are.** -/
structure SessionsOf (receipts : List StoredReceipt) (sessions : List SessionTotal) : Prop where
  nodup : (sessions.map (·.sessionId)).Nodup
  each : ∀ s ∈ sessions, SortedMap.itemsOf sessionKey s.sessionId receipts ≠ []
    ∧ SessionOf (SortedMap.itemsOf sessionKey s.sessionId receipts) s
  cover : ∀ r ∈ receipts, ∃ s ∈ sessions, sessionKey r = .ok s.sessionId
    ∧ operatorKey r = .ok s.operator

theorem sessionsOf_fold
    (h : foldSessionTotals receipts = .ok sessions) : SessionsOf receipts sessions := by
  obtain ⟨bySession, hloop, _, -, h⟩ := bind_ok₂.mp h
  cases h
  obtain ⟨hkeys, hall⟩ := SortedMap.gather.mp hloop
  have hentry : ∀ {id s}, bySession.get? id = some s → s.sessionId = id
      ∧ SortedMap.itemsOf sessionKey id receipts ≠ []
      ∧ SessionOf (SortedMap.itemsOf sessionKey id receipts) s := by
    intro id s hget
    have hone := hall id
    rw [SortedMap.get?_empty, hget] at hone
    rcases gathered_addReceipt hone with ⟨-, hnone⟩ | ⟨s', hsome, hid, hne, hs'⟩
    · cases hnone
    · cases hsome
      exact ⟨hid, hne, hs'⟩
  refine ⟨?_, fun s hs => ?_, fun r hr => ?_⟩
  · have hids : bySession.values.map (·.sessionId) = bySession.entries.map Prod.fst := by
      rw [SortedMap.values, List.map_map]
      refine List.map_congr_left fun e he => ?_
      exact (hentry ((SortedMap.mem_entries_iff _ e.1 e.2).mp he)).1
    rw [hids]
    exact bySession.sorted.imp ne_of_lt
  · obtain ⟨id, hget⟩ := (SortedMap.mem_values_iff _ s).mp hs
    obtain ⟨rfl, hne, hs'⟩ := hentry hget
    exact ⟨hne, hs'⟩
  · obtain ⟨id, hid⟩ := hkeys r hr
    have hmem := SortedMap.mem_itemsOf.mpr ⟨hr, hid⟩
    rcases gathered_addReceipt (hall id) with ⟨hnil, -⟩ | ⟨s, hsome, hsid, -, hs⟩
    · rw [hnil] at hmem
      cases hmem
    · refine ⟨s, (SortedMap.mem_values_iff _ s).mpr ⟨id, hsome⟩, ?_, hs.operator r hmem⟩
      rw [hsid]
      exact hid

/-! ## No byte is lost, and none is made -/

theorem sum_of_key [DecidableEq κ] {key : α → κ} {l : List α} (h : (l.map key).Nodup)
    (k : κ) (n : Nat) :
    (l.map fun a => if key a = k then n else 0).sum = if k ∈ l.map key then n else 0 := by
  induction l with
  | nil => rfl
  | cons a l ih =>
      obtain ⟨hnot, htail⟩ := List.nodup_cons.mp h
      rw [List.map_cons, List.sum_cons, ih htail, List.map_cons]
      by_cases hk : key a = k
      · rw [if_pos hk, if_neg (hk ▸ hnot), if_pos (hk ▸ List.mem_cons_self), Nat.add_zero]
      · rw [if_neg hk, Nat.zero_add]
        simp only [List.mem_cons, Ne.symm hk, false_or]

theorem sum_itemsOf_cons {ε : Type} [LinearOrder κ] {key : α → Except ε κ} {x : α} {a : κ}
    (h : key x = .ok a) (k : κ) (l : List α) (f : α → Nat) :
    ((SortedMap.itemsOf key k (x :: l)).map f).sum
      = (if k = a then f x else 0) + ((SortedMap.itemsOf key k l).map f).sum := by
  by_cases hk : k = a
  · subst hk
    rw [SortedMap.itemsOf_cons_self h, List.map_cons, List.sum_cons, if_pos rfl]
  · rw [SortedMap.itemsOf_cons_of_ne h hk, if_neg hk, Nat.zero_add]

/-- **The bytes of an operator are the same over its sessions and over its receipts.** -/
theorem sum_sessions
    (h : SessionsOf receipts sessions) (operator : Address) :
    ((sessions.filter (·.operator = operator)).map (·.totalBytes.val)).sum
      = ((SortedMap.itemsOf operatorKey operator receipts).map (·.bytesTransferred.val)).sum := by
  -- the receipts are taken one by one: each is counted in its own session, and in no other
  have hcount : ∀ l : List StoredReceipt, (∀ r ∈ l, r ∈ receipts) →
      ((sessions.filter (·.operator = operator)).map fun s =>
        ((SortedMap.itemsOf sessionKey s.sessionId l).map (·.bytesTransferred.val)).sum).sum
      = ((SortedMap.itemsOf operatorKey operator l).map (·.bytesTransferred.val)).sum := by
    intro l hl
    induction l with
    | nil =>
        show ((sessions.filter (·.operator = operator)).map fun _ => 0).sum = 0
        simp
    | cons r l ih =>
        obtain ⟨s, hs, hsession, hoperator⟩ := h.cover r (hl r List.mem_cons_self)
        have hown : s.sessionId ∈ (sessions.filter (·.operator = operator)).map (·.sessionId)
            ↔ operator = s.operator := by
          constructor
          · intro hmem
            obtain ⟨s', hs', hid⟩ := List.mem_map.mp hmem
            obtain ⟨hs', hop⟩ := List.mem_filter.mp hs'
            rw [← of_decide_eq_true hop, List.inj_on_of_nodup_map h.nodup hs' hs hid]
          · rintro rfl
            exact List.mem_map_of_mem (List.mem_filter.mpr ⟨hs, decide_eq_true rfl⟩)
        have hnodup : ((sessions.filter (·.operator = operator)).map (·.sessionId)).Nodup :=
          h.nodup.sublist (List.filter_sublist.map _)
        rw [sum_itemsOf_cons hoperator, ← ih fun x hx => hl x (List.mem_cons_of_mem r hx)]
        simp only [sum_itemsOf_cons hsession, List.sum_map_add]
        rw [sum_of_key hnodup]
        simp only [hown]
  rw [← hcount receipts fun _ hr => hr]
  refine congrArg List.sum (List.map_congr_left fun s hs => ?_)
  exact (h.each s (List.mem_filter.mp hs).1).2.totalBytes

/-! ## The controls -/

/-- `2 ^ 128 - 1` at most. -/
def saturated (n : Nat) : Word 128 :=
  ⟨min n (2 ^ 128 - 1), Nat.lt_of_le_of_lt (Nat.min_le_right _ _) (by decide)⟩

theorem saturatingAdd_saturated (n : Nat) (b : Word 128) :
    saturatingAdd (saturated n) b = saturated (n + b.val) := by
  refine Fin.ext ?_
  show min (min n (2 ^ 128 - 1) + b.val) (2 ^ 128 - 1) = min (n + b.val) (2 ^ 128 - 1)
  omega

theorem itemsOf_total {ε : Type} [LinearOrder κ] (key : α → κ) (k : κ) (l : List α) :
    SortedMap.itemsOf (fun x => (.ok (key x) : Except ε κ)) k l = l.filter (key · = k) := by
  rw [SortedMap.itemsOf]
  simp only [Except.toOption, Option.some.injEq]

theorem foldlM_addSessionBytes (k : κ) (items : List SessionTotal) : ∀ n : Nat,
    items.foldlM (fun o s => some <$> addSessionBytes k o s) (some (saturated n))
      = .ok (some (saturated (n + (items.map (·.totalBytes.val)).sum))) := by
  induction items with
  | nil => exact fun n => rfl
  | cons s items ih =>
      intro n
      rw [List.foldlM_cons, List.map_cons, List.sum_cons, ← Nat.add_assoc, ← ih,
        ← saturatingAdd_saturated]
      rfl

theorem gathered_addSessionBytes [LinearOrder κ] (key : SessionTotal → κ) (k : κ)
    (sessions : List SessionTotal) :
    (sessions.filter (key · = k) = []
        ∧ SortedMap.gathered (fun s => .ok (key s)) addSessionBytes k sessions none = .ok none)
      ∨ SortedMap.gathered (fun s => .ok (key s)) addSessionBytes k sessions none
        = .ok (some (saturated ((sessions.filter (key · = k)).map (·.totalBytes.val)).sum)) := by
  rw [SortedMap.gathered, itemsOf_total]
  generalize sessions.filter (key · = k) = items
  cases items with
  | nil => exact .inl ⟨rfl, rfl⟩
  | cons s items =>
      have hfirst : saturatingAdd 0 s.totalBytes = saturated s.totalBytes.val := by
        have hzero : (0 : Word 128) = saturated 0 := rfl
        rw [hzero, saturatingAdd_saturated, Nat.zero_add]
      refine .inr ?_
      rw [List.foldlM_cons, List.map_cons, List.sum_cons, ← foldlM_addSessionBytes, ← hfirst]
      rfl

theorem foldlM_countMember (root : Address) (items : List OperatorEpochTotal) : ∀ n members : Nat,
    items.foldlM (fun o t => some <$> countMember root o t) (some (saturated n, members))
      = .ok (some (saturated (n + (items.map (·.totalBytes.val)).sum),
        members + items.length)) := by
  induction items with
  | nil => exact fun n members => rfl
  | cons t items ih =>
      intro n members
      rw [List.foldlM_cons, List.map_cons, List.sum_cons, ← Nat.add_assoc, List.length_cons,
        Nat.add_comm items.length, ← Nat.add_assoc, ← ih, ← saturatingAdd_saturated]
      rfl

theorem gathered_countMember (rootOf : Address → Option Address) (root : Address)
    (totals : List OperatorEpochTotal) :
    (totals.filter (clusterOf rootOf ·.operator = root) = []
        ∧ SortedMap.gathered (fun t => .ok (clusterOf rootOf t.operator)) countMember
          root totals none = .ok none)
      ∨ ∃ members, SortedMap.gathered (fun t => .ok (clusterOf rootOf t.operator)) countMember root
        totals none = .ok (some (saturated
          ((totals.filter (clusterOf rootOf ·.operator = root)).map (·.totalBytes.val)).sum,
            members)) := by
  rw [SortedMap.gathered, itemsOf_total]
  generalize totals.filter (clusterOf rootOf ·.operator = root) = items
  cases items with
  | nil => exact .inl ⟨rfl, rfl⟩
  | cons t items =>
      have hfirst : (some <$> countMember root none t : Except FraudError (Option (Word 128 × Nat)))
          = .ok (some (saturated t.totalBytes.val, 0 + 1)) := by
        have hzero : (0 : Word 128) = saturated 0 := rfl
        show Except.ok (some (saturatingAdd 0 t.totalBytes, 0 + 1)) = _
        rw [hzero, saturatingAdd_saturated, Nat.zero_add]
      rw [List.foldlM_cons, hfirst, List.map_cons, List.sum_cons]
      exact .inr ⟨_, foldlM_countMember root items _ _⟩

/-- **The ceiling is on the bytes of every root.** -/
theorem checkClusterByteCeiling_ok {totals : List OperatorEpochTotal}
    {rootOf : Address → Option Address} {ceiling : Word 128} :
    checkClusterByteCeiling totals rootOf ceiling = .ok () ↔ ∀ root, saturated
      ((totals.filter (clusterOf rootOf ·.operator = root)).map (·.totalBytes.val)).sum
      ≤ ceiling := by
  have hone := fun root => gathered_countMember rootOf root totals
  obtain ⟨byRoot, hloop⟩ := SortedMap.exists_gather (m := SortedMap.empty)
    (fun t (_ : t ∈ totals) => ⟨clusterOf rootOf t.operator, rfl⟩)
    fun root => (hone root).elim (fun h => ⟨_, h.2⟩) fun ⟨_, h⟩ => ⟨_, h⟩
  have hget := (SortedMap.gather.mp hloop).2
  simp only [SortedMap.get?_empty] at hget
  rw [checkClusterByteCeiling, hloop]
  show (byRoot.entries.forM _ : Except FraudError Unit) = .ok () ↔ _
  rw [forM_ok]
  constructor
  · intro h root
    rcases hone root with ⟨hnil, -⟩ | ⟨members, hsome⟩
    · rw [hnil]
      exact Nat.zero_le _
    · have hentry := Except.ok.inj ((hget root).symm.trans hsome)
      exact require_ok.mp (h _ ((SortedMap.mem_entries_iff byRoot _ _).mpr hentry))
  · rintro h ⟨root, claimed, members⟩ hentry
    have hclaimed := (SortedMap.mem_entries_iff byRoot _ _).mp hentry
    rcases hone root with ⟨-, hnone⟩ | ⟨members', hsome⟩
    · cases hclaimed.symm.trans (Except.ok.inj ((hget root).symm.trans hnone))
    · cases hclaimed.symm.trans (Except.ok.inj ((hget root).symm.trans hsome))
      exact require_of (h root)

/-- The sessions of a consumer, and those that one cluster served. -/
def ofConsumer (consumerOf : Bytes32 → Bytes32) (s : SessionTotal) (sessions : List SessionTotal) :
    List SessionTotal :=
  sessions.filter fun u => consumerOf u.sessionId = consumerOf s.sessionId

def ofPair (consumerOf : Bytes32 → Bytes32) (rootOf : Address → Option Address) (s : SessionTotal)
    (sessions : List SessionTotal) : List SessionTotal :=
  sessions.filter fun u => consumerOf u.sessionId = consumerOf s.sessionId
    ∧ clusterOf rootOf u.operator = clusterOf rootOf s.operator

/-- **The cap is on the share of every root in the bytes of every consumer.** -/
theorem checkPairConcentration_ok {consumerOf : Bytes32 → Bytes32}
    {rootOf : Address → Option Address} {capBps : Word 32} :
    checkPairConcentration sessions consumerOf rootOf capBps = .ok () ↔ ∀ consumer root,
      let total := saturated
        ((sessions.filter (consumerOf ·.sessionId = consumer)).map (·.totalBytes.val)).sum
      total = 0 ∨ shareBps (saturated ((sessions.filter fun u => consumerOf u.sessionId = consumer
        ∧ clusterOf rootOf u.operator = root).map (·.totalBytes.val)).sum) total ≤ capBps.val := by
  have hsame : ∀ (u : SessionTotal) consumer root,
      toLex (consumerOf u.sessionId, clusterOf rootOf u.operator) = toLex (consumer, root)
      ↔ consumerOf u.sessionId = consumer ∧ clusterOf rootOf u.operator = root :=
    fun u consumer root => toLex_inj.trans Prod.mk_inj
  have hconsumer := fun consumer =>
    gathered_addSessionBytes (fun u => consumerOf u.sessionId) consumer sessions
  have hpair := fun consumer root => gathered_addSessionBytes
    (fun u => toLex (consumerOf u.sessionId, clusterOf rootOf u.operator))
      (toLex (consumer, root)) sessions
  simp only [hsame] at hpair
  obtain ⟨consumerTotal, hconsumers⟩ := SortedMap.exists_gather (m := SortedMap.empty)
    (fun s (_ : s ∈ sessions) => ⟨consumerOf s.sessionId, rfl⟩)
    fun consumer => (hconsumer consumer).elim (fun h => ⟨_, h.2⟩) fun h => ⟨_, h⟩
  obtain ⟨pairTotal, hpairs⟩ := SortedMap.exists_gather (m := SortedMap.empty)
    (fun s (_ : s ∈ sessions) => ⟨toLex (consumerOf s.sessionId, clusterOf rootOf s.operator), rfl⟩)
    fun pair => (hpair (ofLex pair).1 (ofLex pair).2).elim (fun h => ⟨_, h.2⟩) fun h => ⟨_, h⟩
  have hgetc := (SortedMap.gather.mp hconsumers).2
  have hgetp := (SortedMap.gather.mp hpairs).2
  simp only [SortedMap.get?_empty] at hgetc hgetp
  -- a consumer without an entry has no bytes
  have htotal : ∀ consumer, (consumerTotal.get? consumer).getD 0 = saturated
      ((sessions.filter (consumerOf ·.sessionId = consumer)).map (·.totalBytes.val)).sum := by
    intro consumer
    rcases hconsumer consumer with ⟨hnil, hnone⟩ | hsome
    · rw [← Except.ok.inj (hnone.symm.trans (hgetc consumer)), hnil]
      rfl
    · rw [← Except.ok.inj (hsome.symm.trans (hgetc consumer))]
      rfl
  rw [checkPairConcentration, hconsumers]
  simp only [Except.bind, bind, hpairs]
  show (pairTotal.entries.forM _ : Except FraudError Unit) = .ok () ↔ _
  rw [forM_ok]
  constructor
  · intro h consumer root
    refine or_iff_not_imp_left.mpr fun hzero => ?_
    rcases hpair consumer root with ⟨hnil, -⟩ | hsome
    · rw [hnil]
      refine le_trans (le_of_eq ?_) (Nat.zero_le _)
      rw [shareBps]
      simp [saturated]
    · have hentry := (Except.ok.inj ((hgetp (toLex (consumer, root))).symm.trans hsome))
      have hshare := h _ ((SortedMap.mem_entries_iff pairTotal _ _).mpr hentry)
      simp only [ofLex_toLex, htotal, if_neg hzero] at hshare
      exact require_ok.mp hshare
  · rintro h ⟨pair, bytes⟩ hentry
    have hbytes := (SortedMap.mem_entries_iff pairTotal _ _).mp hentry
    rcases hpair (ofLex pair).1 (ofLex pair).2 with ⟨-, hnone⟩ | hsome
    · cases hbytes.symm.trans (Except.ok.inj ((hgetp pair).symm.trans hnone))
    · cases hbytes.symm.trans (Except.ok.inj ((hgetp pair).symm.trans hsome))
      simp only [htotal]
      by_cases hzero : saturated ((sessions.filter (consumerOf ·.sessionId = (ofLex pair).1)).map
          (·.totalBytes.val)).sum = 0
      · rw [if_pos hzero]
      · rw [if_neg hzero]
        exact require_of ((h _ _).resolve_left hzero)

/-- A session whose chunks are 0, 1, 2, …, of which the last one, and only it, is FINAL. -/
structure Closed (group : List StoredReceipt) : Prop where
  numbered : (group.map (·.chunkSeq.val)).Perm (List.range group.length)
  final : ∀ r ∈ group, r.chunkKind = .final ↔ r.chunkSeq.val + 1 = group.length

theorem checkContiguous_ok {hex : String} {sorted : List StoredReceipt} : ∀ {n : Nat},
    checkContiguous hex n sorted = .ok () →
    sorted.map (·.chunkSeq.val) = List.range' n sorted.length := by
  induction sorted with
  | nil => exact fun _ => rfl
  | cons r sorted ih =>
      intro n h
      obtain ⟨_, hr, h⟩ := bind_ok.mp h
      rw [List.map_cons, ih h, require_ok.mp hr, List.length_cons, List.range'_succ]

theorem closed_of_check {group : List StoredReceipt} (h : checkSessionChunkSequence group = .ok ())
    (hne : group ≠ []) : Closed group := by
  cases group with
  | nil => exact absurd rfl hne
  | cons first rest =>
      have hperm := List.mergeSort_perm (first :: rest) fun a b => a.chunkSeq ≤ b.chunkSeq
      obtain ⟨_, hcontiguous, h⟩ := bind_ok.mp h
      generalize (first :: rest).mergeSort (fun a b => a.chunkSeq ≤ b.chunkSeq) = sorted
        at hperm hcontiguous h
      have hseqs := checkContiguous_ok hcontiguous
      rw [← List.range_eq_range'] at hseqs
      have hnodup : (sorted.map (·.chunkSeq.val)).Nodup := hseqs ▸ List.nodup_range
      have hlength := hperm.length_eq
      refine ⟨?_, fun r hr => ?_⟩
      · rw [← hlength, ← hseqs]
        exact hperm.symm.map _
      · rw [← hlength]
        have hr : r ∈ sorted := hperm.mem_iff.mpr hr
        have hpos : 0 < sorted.length := List.length_pos_of_mem hr
        split at h
        · cases h
        · rename_i last hfilter
          have hlast : last ∈ sorted ∧ last.chunkKind = .final := by
            have hmem : last ∈ sorted.filter fun r => r.chunkKind = .final := by
              rw [hfilter]
              exact List.mem_singleton_self last
            exact ⟨(List.mem_filter.mp hmem).1, of_decide_eq_true (List.mem_filter.mp hmem).2⟩
          have hseq : last.chunkSeq.val = sorted.length - 1 := require_ok.mp h
          constructor
          · intro hkind
            have hmem : r ∈ sorted.filter fun r => r.chunkKind = .final :=
              List.mem_filter.mpr ⟨hr, decide_eq_true hkind⟩
            rw [hfilter, List.mem_singleton] at hmem
            rw [hmem, hseq]
            omega
          · intro hr'
            have hsame : r.chunkSeq.val = last.chunkSeq.val := by omega
            rw [List.inj_on_of_nodup_map hnodup hr hlast.1 hsame]
            exact hlast.2
        · cases h

theorem foldlM_pushReceipt (hex : String) (items : List StoredReceipt) :
    ∀ group : List StoredReceipt,
    items.foldlM (fun o r => some <$> pushReceipt hex o r) (some group)
    = .ok (some (group ++ items)) := by
  induction items with
  | nil => exact fun group => by rw [List.append_nil]; rfl
  | cons r items ih =>
      intro group
      rw [List.foldlM_cons, List.append_cons, ← ih]
      rfl

theorem sessions_closed (h : checkSessionChunkSequences receipts = .ok ())
    (hr : r ∈ receipts) :
    Closed (receipts.filter fun x => x.sessionIdHex = r.sessionIdHex) := by
  obtain ⟨bySession, hloop, h⟩ := bind_ok.mp h
  have hgathered := (SortedMap.gather.mp hloop).2 r.sessionIdHex
  have hmem : r ∈ receipts.filter fun x => x.sessionIdHex = r.sessionIdHex :=
    List.mem_filter.mpr ⟨hr, decide_eq_true rfl⟩
  rw [SortedMap.gathered, itemsOf_total, SortedMap.get?_empty] at hgathered
  generalize receipts.filter (fun x => x.sessionIdHex = r.sessionIdHex) = items at hgathered hmem ⊢
  cases items with
  | nil => cases hmem
  | cons x items =>
      rw [List.foldlM_cons] at hgathered
      have hentry := (foldlM_pushReceipt r.sessionIdHex items [x]).symm.trans hgathered
      have hin := (SortedMap.mem_values_iff bySession _).mpr ⟨_, (Except.ok.inj hentry).symm⟩
      exact closed_of_check (forM_ok.mp h _ hin) (List.cons_ne_nil x items)

/-! ## The batch -/

theorem checkTotals_ok {takeBps : Word 32}
    {totals : List OperatorEpochTotal} : ∀ {seen : List Address},
    checkTotals takeBps seen totals = .ok () ↔
      (∀ t ∈ totals, t.operator ∉ seen) ∧ (totals.map (·.operator)).Nodup
        ∧ ∀ t ∈ totals,
          splitGross t.grossGoatWei takeBps = .ok (t.payoutGoatWei, t.protocolGoatWei) := by
  induction totals with
  | nil => exact ⟨fun _ => ⟨fun t ht => absurd ht List.not_mem_nil, List.nodup_nil,
      fun t ht => absurd ht List.not_mem_nil⟩, fun _ => rfl⟩
  | cons t totals ih =>
      intro seen
      rw [List.forall_mem_cons, List.map_cons, List.nodup_cons, List.forall_mem_cons]
      constructor
      · intro h
        obtain ⟨_, hfresh, h⟩ := bind_ok.mp h
        obtain ⟨⟨payout, protocol⟩, hsplit, h⟩ := bind_ok.mp h
        obtain ⟨_, hsame, _, -, _, -, h⟩ := bind_ok₃.mp h
        obtain ⟨hseen, hnodup, hsplits⟩ := ih.mp h
        obtain ⟨rfl, rfl⟩ := require_ok.mp hsame
        refine ⟨⟨require_ok.mp hfresh, fun x hx hmem => ?_⟩, ⟨fun hmem => ?_, hnodup⟩,
          hsplit, hsplits⟩
        · exact hseen x hx (List.mem_cons_of_mem _ hmem)
        · obtain ⟨x, hx, hop⟩ := List.mem_map.mp hmem
          exact hseen x hx (hop ▸ List.mem_cons_self)
      · rintro ⟨⟨hfresh, hseen⟩, ⟨hnot, hnodup⟩, hsplit, hsplits⟩
        refine bind_ok₂.mpr ⟨(), require_ok.mpr hfresh, _, hsplit, ?_⟩
        refine bind_ok₂.mpr ⟨(), require_ok.mpr ⟨rfl, rfl⟩, _,
          checkedAdd_ok.mpr (split_sum hsplit), ?_⟩
        refine bind_ok.mpr ⟨(), require_ok.mpr rfl, ih.mpr ⟨fun x hx hmem => ?_, hnodup, hsplits⟩⟩
        rcases List.mem_cons.mp hmem with hop | hmem
        · exact hnot (hop ▸ List.mem_map_of_mem hx)
        · exact hseen x hx hmem

theorem foldlM_addTotal {totals : List OperatorEpochTotal} :
    ∀ {sums sums' : Word 128 × Word 128 × Word 128}, totals.foldlM addTotal sums = .ok sums' ↔
      sums'.1.val = sums.1.val + (totals.map (·.grossGoatWei.val)).sum
        ∧ sums'.2.1.val = sums.2.1.val + (totals.map (·.payoutGoatWei.val)).sum
        ∧ sums'.2.2.val = sums.2.2.val + (totals.map (·.protocolGoatWei.val)).sum := by
  induction totals with
  | nil =>
      intro sums sums'
      constructor
      · intro h
        cases h
        exact ⟨rfl, rfl, rfl⟩
      · rintro ⟨hgross, hpayout, hprotocol⟩
        refine congrArg Except.ok (Prod.ext (Fin.ext hgross.symm) (Prod.ext ?_ ?_))
        · exact Fin.ext hpayout.symm
        · exact Fin.ext hprotocol.symm
  | cons t totals ih =>
      intro sums sums'
      simp only [List.foldlM_cons, List.map_cons, List.sum_cons]
      constructor
      · intro h
        obtain ⟨mid, hadd, hrest⟩ := bind_ok.mp h
        obtain ⟨gross, hgross, payout, hpayout, protocol, hprotocol, hadd⟩ := bind_ok₃.mp hadd
        cases hadd
        obtain ⟨hgross', hpayout', hprotocol'⟩ := ih.mp hrest
        rw [hgross', hpayout', hprotocol', checkedAdd_ok.mp hgross, checkedAdd_ok.mp hpayout,
          checkedAdd_ok.mp hprotocol]
        exact ⟨Nat.add_assoc .., Nat.add_assoc .., Nat.add_assoc ..⟩
      · rintro ⟨hgross, hpayout, hprotocol⟩
        have hfits : ∀ {a b c : Word 128} {n : Nat}, c.val = a.val + (b.val + n) →
          a.val + b.val < 2 ^ 128 := by
          intro a b c n h
          have hlt := c.isLt
          omega
        refine bind_ok.mpr ⟨(⟨_, hfits hgross⟩, ⟨_, hfits hpayout⟩, ⟨_, hfits hprotocol⟩), ?_,
          ih.mpr ?_⟩
        · exact bind_ok₃.mpr ⟨_, checkedAdd_ok.mpr rfl, _, checkedAdd_ok.mpr rfl, _,
            checkedAdd_ok.mpr rfl, rfl⟩
        · rw [← Nat.add_assoc] at hgross hpayout hprotocol
          exact ⟨hgross, hpayout, hprotocol⟩

theorem evidence_hash (epochId : Word 64) (rootHex : String) (sums : Word 128 × Word 128 × Word 128)
    (funded reserve : Word 128) :
    ∃ hash, canonicalHash (evidence epochId rootHex sums funded reserve)
      = .ok hash := by
  refine ⟨_, canonicalHash_ok (validate_ofMembers (fun e he => ?_) "$")⟩
  simp only [List.mem_cons, List.not_mem_nil, or_false] at he
  rcases he with rfl | rfl | rfl | rfl | rfl | rfl | rfl | rfl
  all_goals exact ⟨by dsimp only; decide, fun q => rfl⟩

section
variable {epochId : Word 64} {totals : List OperatorEpochTotal} {controls : EpochFraudControls}
  {funded reserve : Word 128} {takeBps : Word 32} {batch : ProxyEpochBatch}

/-- What the builder admits. -/
structure Admitted (epochId : Word 64) (totals : List OperatorEpochTotal)
    (controls : EpochFraudControls) (funded reserve : Word 128) (takeBps : Word 32) : Prop where
  epoch : isProxyEpoch epochId = true
  nonempty : totals ≠ []
  band : inTakeBand takeBps
  distinct : (totals.map (·.operator)).Nodup
  split : ∀ t ∈ totals, splitGross t.grossGoatWei takeBps = .ok (t.payoutGoatWei, t.protocolGoatWei)
  sequences : checkSessionChunkSequences controls.receipts = .ok ()
  ceiling : checkClusterByteCeiling totals controls.rootOf controls.clusterByteCeiling = .ok ()
  concentration : checkPairConcentration controls.sessions controls.consumerOf controls.rootOf
    controls.pairConcentrationCapBps = .ok ()
  pool : (totals.map (·.grossGoatWei.val)).sum ≤ funded.val - reserve.val

/-- What the batch says. -/
structure BatchOf (epochId : Word 64) (totals : List OperatorEpochTotal) (batch : ProxyEpochBatch) :
    Prop where
  epoch : batch.epochId = epochId
  leaves : batch.leaves = totals.map (leafOfTotal epochId)
  merkleRoot : batch.merkleRoot = (proxyTree batch.leaves).root
  totalGross : batch.totalGrossGoatWei.val = (totals.map (·.grossGoatWei.val)).sum
  totalPayout : batch.totalPayoutGoatWei.val = (totals.map (·.payoutGoatWei.val)).sum

theorem admitted_of_build
    (h : buildProxyEpochBatch epochId totals controls funded reserve takeBps = .ok batch) :
    Admitted epochId totals controls funded reserve takeBps ∧ BatchOf epochId totals batch := by
  obtain ⟨_, hepoch, _, hnonempty, _, hband, _, htotals, h⟩ := bind_ok₄.mp h
  obtain ⟨_, hsequences, _, hceiling, _, hconcentration, sums, hsums, h⟩ := bind_ok₄.mp h
  obtain ⟨_, hpool, hash, -, h⟩ := bind_ok₂.mp h
  cases h
  obtain ⟨-, hdistinct, hsplit⟩ := checkTotals_ok.mp htotals
  obtain ⟨hgross, hpayout, -⟩ := foldlM_addTotal.mp hsums
  have hgross := hgross.trans (Nat.zero_add _)
  have hpool : sums.1.val ≤ funded.val - reserve.val := require_ok.mp hpool
  refine ⟨⟨require_ok.mp hepoch, require_ok.mp hnonempty, require_ok.mp hband, hdistinct, hsplit,
    mapError_ok hsequences, mapError_ok hceiling, mapError_ok hconcentration, hgross ▸ hpool⟩,
    rfl, rfl, rfl, hgross, hpayout.trans (Nat.zero_add _)⟩

theorem build_of_admitted (h : Admitted epochId totals controls funded reserve takeBps) :
    ∃ batch, buildProxyEpochBatch epochId totals controls funded reserve takeBps = .ok batch := by
  have hgross : ∀ t ∈ totals, t.grossGoatWei.val = t.payoutGoatWei.val + t.protocolGoatWei.val :=
    fun t ht => split_sum (h.split t ht)
  have hfunded := funded.isLt
  have hpool := h.pool
  have hpayouts : (totals.map (·.payoutGoatWei.val)).sum ≤ (totals.map (·.grossGoatWei.val)).sum :=
    List.sum_le_sum fun t ht => hgross t ht ▸ Nat.le_add_right _ _
  have hprotocols :
    (totals.map (·.protocolGoatWei.val)).sum ≤ (totals.map (·.grossGoatWei.val)).sum :=
    List.sum_le_sum fun t ht => hgross t ht ▸ Nat.le_add_left _ _
  obtain ⟨sums, hsums⟩ : ∃ sums, totals.foldlM addTotal (0, 0, 0) = .ok sums :=
    ⟨(⟨(totals.map (·.grossGoatWei.val)).sum, by omega⟩,
      ⟨(totals.map (·.payoutGoatWei.val)).sum, by omega⟩,
      ⟨(totals.map (·.protocolGoatWei.val)).sum, by omega⟩),
      foldlM_addTotal.mpr ⟨(Nat.zero_add _).symm, (Nat.zero_add _).symm, (Nat.zero_add _).symm⟩⟩
  have hsum : sums.1.val = (totals.map (·.grossGoatWei.val)).sum :=
    (foldlM_addTotal.mp hsums).1.trans (Nat.zero_add _)
  have hallocatable : sums.1 ≤ saturatingSub funded reserve := by
    show sums.1.val ≤ funded.val - reserve.val
    rw [hsum]
    exact h.pool
  obtain ⟨hash, hhash⟩ :=
    evidence_hash epochId (hex32 (proxyTree (totals.map (leafOfTotal epochId))).root)
    sums funded reserve
  have hseen : checkTotals takeBps [] totals = .ok () :=
    checkTotals_ok.mpr ⟨fun _ _ => List.not_mem_nil, h.distinct, h.split⟩
  have hpasses : ∀ {x : Except FraudError Unit}, x = .ok () →
    x.mapError AggregateError.fraud = .ok () := by
    rintro x rfl
    rfl
  refine ⟨⟨epochId, totals.map (leafOfTotal epochId),
    (proxyTree (totals.map (leafOfTotal epochId))).root,
    hex32 (proxyTree (totals.map (leafOfTotal epochId))).root, hash, sums.1, sums.2.1,
    sums.2.2, funded, reserve⟩, ?_⟩
  refine bind_ok₄.mpr ⟨(), require_ok.mpr h.epoch, (), require_ok.mpr h.nonempty, (),
    require_ok.mpr h.band, (), hseen, ?_⟩
  refine bind_ok₄.mpr ⟨(), hpasses h.sequences, (), hpasses h.ceiling, (), hpasses h.concentration,
    sums, hsums, ?_⟩
  refine bind_ok₂.mpr ⟨(), require_ok.mpr hallocatable, hash, ?_, rfl⟩
  rw [hhash]
  rfl

/-- **What a batch pays for, and what its controls have seen.**  Every view has passed its own
control; and where the sessions are the fold of the receipts, and the totals the fold of both, the
bytes of every leaf are those of its operator over the sessions and over the receipts. -/
theorem seen_by_controls
    (h : buildProxyEpochBatch epochId totals controls funded reserve takeBps = .ok batch) :
    batch.leaves = totals.map (leafOfTotal epochId)
      ∧ (batch.leaves.map (·.operator)).Nodup
      ∧ (∀ r ∈ controls.receipts,
        Closed (controls.receipts.filter fun x => x.sessionIdHex = r.sessionIdHex))
      ∧ (∀ t ∈ totals, saturated ((totals.filter fun u =>
        clusterOf controls.rootOf u.operator = clusterOf controls.rootOf t.operator).map
          (·.totalBytes.val)).sum ≤ controls.clusterByteCeiling)
      ∧ (∀ s ∈ controls.sessions,
        saturated
          ((ofConsumer controls.consumerOf s controls.sessions).map (·.totalBytes.val)).sum = 0
          ∨ shareBps
            (saturated ((ofPair controls.consumerOf controls.rootOf s controls.sessions).map
              (·.totalBytes.val)).sum)
            (saturated
              ((ofConsumer controls.consumerOf s controls.sessions).map (·.totalBytes.val)).sum)
              ≤ controls.pairConcentrationCapBps.val)
      ∧ (foldSessionTotals controls.receipts = .ok controls.sessions → ∀ takeBps' ceiling,
        foldOperatorTotals controls.receipts controls.sessions takeBps' ceiling = .ok totals →
        ∀ leaf ∈ batch.leaves,
          (∃ r ∈ controls.receipts, operatorKey r = .ok leaf.operator)
            ∧ leaf.totalBytes.val
              = ((controls.sessions.filter (·.operator = leaf.operator)).map (·.totalBytes.val)).sum
            ∧ leaf.totalBytes.val
              = ((SortedMap.itemsOf operatorKey leaf.operator controls.receipts).map
              (·.bytesTransferred.val)).sum) := by
  obtain ⟨hadmitted, hbatch⟩ := admitted_of_build h
  refine ⟨hbatch.leaves, ?_, fun r hr => sessions_closed hadmitted.sequences hr,
    fun t _ => checkClusterByteCeiling_ok.mp hadmitted.ceiling _,
    fun s _ => checkPairConcentration_ok.mp hadmitted.concentration _ _,
    fun hsessions takeBps' ceiling htotals leaf hleaf => ?_⟩
  · rw [hbatch.leaves, List.map_map]
    exact hadmitted.distinct
  · rw [hbatch.leaves] at hleaf
    obtain ⟨t, ht, rfl⟩ := List.mem_map.mp hleaf
    have hsessions := sessionsOf_fold hsessions
    obtain ⟨p, -, htotals⟩ := totalOf_fold htotals
    have htotal := htotals t ht
    have hbytes : (leafOfTotal epochId t).totalBytes.val
        = ((controls.sessions.filter (·.operator = t.operator)).map (·.totalBytes.val)).sum :=
      htotal.totalBytes
    refine ⟨?_, hbytes, hbytes.trans (sum_sessions hsessions t.operator)⟩
    obtain ⟨s, hs⟩ := List.exists_mem_of_ne_nil _ htotal.nonempty
    obtain ⟨hs, hoperator⟩ := List.mem_filter.mp hs
    obtain ⟨hitems, hsession⟩ := hsessions.each s hs
    obtain ⟨r, hr⟩ := List.exists_mem_of_ne_nil _ hitems
    refine ⟨r, (SortedMap.mem_itemsOf.mp hr).1, ?_⟩
    rw [hsession.operator r hr, of_decide_eq_true hoperator]
    rfl

end

/-! ### A mebibyte of the operator 1 -/

def sampleTotal : OperatorEpochTotal := ⟨1, 1048576, 1, 10000, 9000, 1000⟩

/-- The one chunk of its session. -/
def sampleOnlyRow : StoredReceipt :=
  ⟨"", 8000000000000, hexOf 32 5, 0, hexOf 20 1, hexOf 32 6, 1048576, .final, hexOf 32 7, 10000⟩

def sampleControls (receipts : List StoredReceipt)
    (sessions : List SessionTotal) : EpochFraudControls :=
  ⟨receipts, sessions, fun _ => 6, fun _ => none, 1048576, 10000⟩

theorem sampleTotal_ceiling :
    checkClusterByteCeiling [sampleTotal] (fun _ => none) 1048576 = .ok () :=
  ok_of_toOption (by decide +kernel)

theorem sampleTotal_admitted (receipts : List StoredReceipt) (sessions : List SessionTotal)
    (hsequences : checkSessionChunkSequences receipts = .ok ())
    (hconcentration : checkPairConcentration sessions (fun _ => 6) (fun _ => none) 10000 = .ok ()) :
    Admitted 8000000000000 [sampleTotal] (sampleControls receipts sessions) 10000 0 1000 where
  epoch := by decide
  nonempty := List.cons_ne_nil _ _
  band := by decide
  distinct := List.nodup_singleton _
  split := fun t ht => by
    rw [List.mem_singleton.mp ht]
    exact splitGross_ok.mpr (by decide)
  sequences := hsequences
  ceiling := sampleTotal_ceiling
  concentration := hconcentration
  pool := by decide

theorem seen_by_controls_sample : ∃ batch, buildProxyEpochBatch 8000000000000 [sampleTotal]
      (sampleControls [sampleOnlyRow] [⟨5, 1, 1048576, 1⟩]) 10000 0 1000 = .ok batch
    ∧ ∀ leaf ∈ batch.leaves, leaf.totalBytes.val
      = ((SortedMap.itemsOf operatorKey leaf.operator [sampleOnlyRow]).map
        (·.bytesTransferred.val)).sum := by
  obtain ⟨batch, hbatch⟩ := build_of_admitted (sampleTotal_admitted [sampleOnlyRow]
    [⟨5, 1, 1048576, 1⟩] (ok_of_toOption (by decide +kernel)) (ok_of_toOption (by decide +kernel)))
  obtain ⟨-, -, -, -, -, hviews⟩ := seen_by_controls hbatch
  refine ⟨batch, hbatch, fun leaf hleaf => ?_⟩
  exact (hviews (ok_of_toOption (by decide +kernel)) 1000 1048576
    (ok_of_toOption (by decide +kernel)) leaf hleaf).2.2

/-- A batch whose controls were given nothing to look at. -/
theorem unseen_batch :
    ∃ batch, buildProxyEpochBatch 8000000000000 [sampleTotal] (sampleControls [] [])
      10000 0 1000 = .ok batch
    ∧ ∃ leaf ∈ batch.leaves, leaf.totalBytes.val = 1048576
      ∧ (((sampleControls [] []).sessions.filter (·.operator = leaf.operator)).map
        (·.totalBytes.val)).sum = 0
      ∧ ((SortedMap.itemsOf operatorKey leaf.operator (sampleControls [] []).receipts).map
        (·.bytesTransferred.val)).sum = 0 := by
  obtain ⟨batch, hbatch⟩ := build_of_admitted (sampleTotal_admitted [] [] rfl rfl)
  have hleaves := (admitted_of_build hbatch).2.leaves
  refine ⟨batch, hbatch, leafOfTotal 8000000000000 sampleTotal, ?_, by decide, rfl, rfl⟩
  rw [hleaves]
  exact List.mem_singleton_self _

end GoatCoin.Attestor
