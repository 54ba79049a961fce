/-
# `GoatCoin.Attestor.SybilNeutrality` — one operator under several wallets

The receipts of an operator are put under other wallets of its cluster, session by session, and the
epoch is folded again:

    sessions     the same ones, in the same order, under other operators
    controls     sums by cluster root, so they accept what they accepted
    payouts      a floor for each wallet, so wallets that were not there before cost the cluster
                 something, and wallets that were may save it what their own floors had lost

A wallet that serves in the epoch already rounds down what it has got of its own, and a session that
is moved to it is rounded together with that: the cluster then gets more than before, if by less
than one unit for each wallet it had.
-/
import GoatCoin.Lib.FloorSums
import GoatCoin.Attestor.EpochBatch

namespace GoatCoin.Attestor

open Evm

/-! ## Other wallets -/

/-- The sessions of `operator` are put under the wallets of `wallet`. -/
def reassign (operator : Address) (wallet : Bytes32 → Address) (s : SessionTotal) : SessionTotal :=
  if s.operator = operator then { s with operator := wallet s.sessionId } else s

/-- The same for a receipt, which names its operator by text. -/
def reassignRow (operator : Address) (wallet : Bytes32 → Address)
    (r : StoredReceipt) : StoredReceipt :=
  match operatorKey r, sessionKey r with
  | .ok named, .ok id =>
      if named = operator then { r with operatorWallet := hexOf 20 (wallet id).val } else r
  | _, _ => r

/-- What a cluster is paid. -/
def clusterPayout (rootOf : Address → Option Address) (root : Address)
    (totals : List OperatorEpochTotal) : Nat :=
  ((totals.filter (clusterOf rootOf ·.operator = root)).map (·.payoutGoatWei.val)).sum

/-- How many wallets of a cluster are paid. -/
def clusterWallets (rootOf : Address → Option Address) (root : Address)
    (totals : List OperatorEpochTotal) : Nat :=
  (totals.filter (clusterOf rootOf ·.operator = root)).length

section
variable {operator : Address} {wallet : Bytes32 → Address}

@[simp] theorem reassign_sessionId (s : SessionTotal) :
    (reassign operator wallet s).sessionId = s.sessionId := by
  unfold reassign
  split <;> rfl

@[simp] theorem reassign_totalBytes (s : SessionTotal) :
    (reassign operator wallet s).totalBytes = s.totalBytes := by
  unfold reassign
  split <;> rfl

theorem reassign_of_ne {s : SessionTotal} (h : s.operator ≠ operator) :
    reassign operator wallet s = s :=
  if_neg h

theorem operator_reassign {s : SessionTotal} (h : s.operator = operator) :
    (reassign operator wallet s).operator = wallet s.sessionId := by
  rw [reassign, if_pos h]

theorem clusterOf_reassign {rootOf : Address → Option Address}
    (hroot : ∀ id, clusterOf rootOf (wallet id) = clusterOf rootOf operator) (s : SessionTotal) :
    clusterOf rootOf (reassign operator wallet s).operator = clusterOf rootOf s.operator := by
  by_cases h : s.operator = operator
  · rw [operator_reassign h, hroot, h]
  · rw [reassign_of_ne h]

/-! ## The sessions of the receipts -/

theorem reassignRow_eq (r : StoredReceipt) : reassignRow operator wallet r = r
    ∨ ∃ id, sessionKey r = .ok id ∧ operatorKey r = .ok operator
      ∧ reassignRow operator wallet r = { r with operatorWallet := hexOf 20 (wallet id).val } := by
  unfold reassignRow
  split
  · rename_i named id hnamed hid
    by_cases h : named = operator
    · subst h
      rw [if_pos rfl]
      exact .inr ⟨id, hid, hnamed, rfl⟩
    · rw [if_neg h]
      exact .inl rfl
  · exact .inl rfl

theorem sessionKey_reassignRow (r : StoredReceipt) :
    sessionKey (reassignRow operator wallet r) = sessionKey r := by
  rcases reassignRow_eq r with h | ⟨id, -, -, h⟩
  · rw [h]
  · rw [h]
    rfl

theorem add_reassignRow (p : Priced) (r : StoredReceipt) :
    p.add (reassignRow operator wallet r) = p.add r := by
  rcases reassignRow_eq r with h | ⟨id, -, -, h⟩
  · rw [h]
  · rw [h]
    rfl

theorem foldlM_add_reassignRow (receipts : List StoredReceipt) (p : Priced) :
    (receipts.map (reassignRow operator wallet)).foldlM Priced.add p
    = receipts.foldlM Priced.add p := by
  rw [List.foldlM_map]
  simp only [add_reassignRow]

/-- What becomes of the session `id`. -/
def reassignAt (operator : Address) (wallet : Bytes32 → Address) (id : Bytes32) (s : SessionTotal) :
    SessionTotal :=
  if s.operator = operator then { s with operator := wallet id } else s

theorem addReceipt_reassignRow {id : Bytes32} {o : Option SessionTotal} {r : StoredReceipt}
    {s : SessionTotal} (hkey : sessionKey r = .ok id) (h : addReceipt id o r = .ok s) :
    addReceipt id (o.map (reassignAt operator wallet id)) (reassignRow operator wallet r)
      = .ok (reassignAt operator wallet id s) := by
  obtain ⟨named, hnamed, _, hsame, totalBytes, hbytes, chunkCount, hcount, h⟩ := bind_ok₄.mp h
  have hsame := require_ok.mp hsame
  cases h
  have hrow : reassignRow operator wallet r
      = if named = operator then { r with operatorWallet := hexOf 20 (wallet id).val } else r := by
    rw [reassignRow, operatorKey, hnamed, hkey]
  by_cases hown : named = operator
  · subst hown
    rw [hrow, if_pos rfl]
    refine bind_ok.mpr ⟨wallet id, decodeOperator_hexOf _, ?_⟩
    have hentry : (o.map (reassignAt named wallet id)).getD ⟨id, wallet id, 0, 0⟩
        = { o.getD ⟨id, named, 0, 0⟩ with operator := wallet id } := by
      cases o with
      | none => rfl
      | some e => exact if_pos hsame
    rw [hentry]
    refine bind_ok₂.mpr ⟨(), require_of rfl, totalBytes, hbytes, ?_⟩
    refine bind_ok.mpr ⟨chunkCount, hcount, ?_⟩
    rw [reassignAt, if_pos hsame]
    rfl
  · rw [hrow, if_neg hown]
    refine bind_ok.mpr ⟨named, hnamed, ?_⟩
    have hentry : (o.map (reassignAt operator wallet id)).getD ⟨id, named, 0, 0⟩
        = o.getD ⟨id, named, 0, 0⟩ := by
      cases o with
      | none => rfl
      | some e => exact if_neg fun h => hown (hsame.symm.trans h)
    rw [hentry]
    refine bind_ok₂.mpr ⟨(), require_of hsame, totalBytes, hbytes, ?_⟩
    refine bind_ok.mpr ⟨chunkCount, hcount, ?_⟩
    exact congrArg Except.ok (if_neg fun h => hown (hsame.symm.trans h)).symm

/-- **The sessions are the same ones, under other operators.** -/
theorem foldSessionTotals_reassignRow {receipts : List StoredReceipt} {sessions : List SessionTotal}
    (h : foldSessionTotals receipts = .ok sessions) :
    foldSessionTotals (receipts.map (reassignRow operator wallet))
      = .ok (sessions.map (reassign operator wallet)) := by
  obtain ⟨bySession, hloop, _, hstorable, h⟩ := bind_ok₂.mp h
  cases h
  have hid : ∀ e ∈ bySession.entries, e.2.sessionId = e.1 := by
    intro e he
    have hone := (SortedMap.gather.mp hloop).2 e.1
    rw [SortedMap.get?_empty, (SortedMap.mem_entries_iff bySession e.1 e.2).mp he] at hone
    rcases gathered_addReceipt hone with ⟨-, hnone⟩ | ⟨s, hsome, hid, -⟩
    · cases hnone
    · cases hsome
      exact hid
  have hvalues : (bySession.mapValues (reassignAt operator wallet)).values
      = bySession.values.map (reassign operator wallet) := by
    rw [SortedMap.values, SortedMap.mapValues, SortedMap.values, List.map_map, List.map_map]
    refine List.map_congr_left fun e he => ?_
    show reassignAt operator wallet e.1 e.2 = reassign operator wallet e.2
    rw [reassignAt, reassign, hid e he]
  have hloop' :
    (receipts.map (reassignRow operator wallet)).foldlM (SortedMap.turn sessionKey addReceipt)
      SortedMap.empty = .ok (bySession.mapValues (reassignAt operator wallet)) :=
    SortedMap.foldlM_turn_map (f := addReceipt) (g := reassignAt operator wallet)
      sessionKey_reassignRow addReceipt_reassignRow hloop
  refine bind_ok.mpr ⟨_, hloop', ?_⟩
  rw [hvalues]
  refine bind_ok.mpr ⟨(), forM_ok.mpr fun s hs => ?_, rfl⟩
  obtain ⟨s, hmem, rfl⟩ := List.mem_map.mp hs
  have hfits : s.totalBytes.val ≤ maxStorableBytes := require_ok.mp (forM_ok.mp hstorable s hmem)
  rw [reassign_totalBytes, storableByteTotal]
  exact require_of hfits

end

/-! ## The totals of the sessions -/

/-- A sum over the sessions of an operator. -/
def sumOf (f : SessionTotal → Nat) (sessions : List SessionTotal) (operator : Address) : Nat :=
  ((sessions.filter (·.operator = operator)).map f).sum

section
variable {p : Priced} {takeBps : Word 32} {ceiling : Word 128} {sessions : List SessionTotal}
  {receipts : List StoredReceipt} {totals : List OperatorEpochTotal}

/-- An operator whose sums are within the bounds of the fold. -/
structure Fits (p : Priced) (takeBps : Word 32) (ceiling : Word 128) (sessions : List SessionTotal)
    (operator : Address) : Prop where
  bytes : sumOf (·.totalBytes.val) sessions operator ≤ ceiling.val
  storable : sumOf (·.totalBytes.val) sessions operator ≤ maxStorableBytes
  count : sumOf p.count sessions operator < 2 ^ 64
  band : inTakeBand takeBps
  gross : sumOf p.value sessions operator * (bpsDenom - takeBps.val) < 2 ^ 128

/-- What a fold has made of its sessions. -/
structure FoldOf (p : Priced) (takeBps : Word 32) (ceiling : Word 128)
    (sessions : List SessionTotal) (totals : List OperatorEpochTotal) : Prop where
  valued : ∀ s ∈ sessions, p.Values s
  distinct : (totals.map (·.operator)).Nodup
  operators : ∀ operator, operator ∈ totals.map (·.operator) ↔ operator ∈ sessions.map (·.operator)
  fits : ∀ t ∈ totals, Fits p takeBps ceiling sessions t.operator
  totalBytes : ∀ t ∈ totals, t.totalBytes.val = sumOf (·.totalBytes.val) sessions t.operator
  payout : ∀ t ∈ totals, t.payoutGoatWei.val
    = sumOf p.value sessions t.operator * (bpsDenom - takeBps.val) / bpsDenom

theorem mem_filter_operator {operator : Address} :
    sessions.filter (·.operator = operator) ≠ [] ↔ operator ∈ sessions.map (·.operator) := by
  simp only [ne_eq, List.filter_eq_nil_iff, decide_eq_true_eq, List.mem_map, not_forall, not_not,
    exists_prop]

theorem foldOf_fold (h : foldOperatorTotals receipts sessions takeBps ceiling = .ok totals) :
    ∃ p, receipts.foldlM Priced.add ⟨.empty, .empty⟩ = .ok p
      ∧ FoldOf p takeBps ceiling sessions totals := by
  obtain ⟨p, hp, perOperator, hloop, h⟩ := bind_ok₂.mp h
  have hall := mapM_ok.mp h
  have hgather := (SortedMap.gather.mp hloop).2
  simp only [SortedMap.get?_empty, gathered_addSession] at hgather
  -- what the loop has gathered at the key of an entry
  have hentry : ∀ {operator t}, perOperator.get? operator = some t →
      sessions.filter (·.operator = operator) ≠ []
        ∧ Adds ⟨operator, 0, 0, 0, 0, 0⟩ t (sumOf (·.totalBytes.val) sessions operator)
          (sumOf p.count sessions operator) (sumOf p.value sessions operator) := by
    intro operator t hget
    obtain ⟨-, ⟨-, hnone⟩ | ⟨hne, t', hsome, hadds⟩⟩ := hgather operator
    · cases hget.symm.trans hnone
    · cases hget.symm.trans hsome
      exact ⟨hne, hadds⟩
  have hkeys : totals.map (·.operator) = perOperator.entries.map Prod.fst := by
    have hvalues : totals.map (·.operator) = perOperator.values.map (·.operator) := by
      have hsame :
        List.Forall₂ (· = ·) (totals.map (·.operator)) (perOperator.values.map (·.operator)) := by
        rw [List.forall₂_map_left_iff, List.forall₂_map_right_iff]
        exact (hall.imp fun t t' ht => (settleTotal_ok ht).1).flip
      rwa [List.forall₂_eq_eq_eq] at hsame
    rw [hvalues, SortedMap.values, List.map_map]
    refine List.map_congr_left fun e he => ?_
    exact (hentry ((SortedMap.mem_entries_iff _ e.1 e.2).mp he)).2.operator
  have heach : ∀ t ∈ totals, ∃ t₀, perOperator.get? t.operator = some t₀
      ∧ settleTotal takeBps ceiling t₀ = .ok t := by
    intro t ht
    obtain ⟨t₀, ht₀, hsettle⟩ := exists_of_forall₂ hall t ht
    obtain ⟨operator, hget⟩ := (SortedMap.mem_values_iff _ t₀).mp ht₀
    have hoperator : t.operator = operator :=
      (settleTotal_ok hsettle).1.trans (hentry hget).2.operator
    exact ⟨t₀, hoperator ▸ hget, hsettle⟩
  have hfits : ∀ t ∈ totals, Fits p takeBps ceiling sessions t.operator
      ∧ t.totalBytes.val = sumOf (·.totalBytes.val) sessions t.operator
      ∧ t.payoutGoatWei.val
        = sumOf p.value sessions t.operator * (bpsDenom - takeBps.val) / bpsDenom := by
    intro t ht
    obtain ⟨t₀, hget, hsettle⟩ := heach t ht
    obtain ⟨-, hadds⟩ := hentry hget
    have hbytes := hadds.totalBytes.trans (Nat.zero_add _)
    have hcount := hadds.receiptCount.trans (Nat.zero_add _)
    have hgross := hadds.grossGoatWei.trans (Nat.zero_add _)
    obtain ⟨-, htotal, -, -, hsplit⟩ := settleTotal_ok hsettle
    obtain ⟨_, hceiling, _, hstorable, -⟩ := bind_ok₂.mp hsettle
    obtain ⟨hband, hlt, hpayout, -⟩ := splitGross_ok.mp hsplit
    have hceiling : t₀.totalBytes ≤ ceiling := require_ok.mp hceiling
    have hstorable : t₀.totalBytes.val ≤ maxStorableBytes := require_ok.mp hstorable
    rw [hgross] at hlt hpayout
    exact ⟨⟨hbytes ▸ hceiling, hbytes ▸ hstorable, hcount ▸ t₀.receiptCount.isLt, hband, hlt⟩,
      by rw [htotal, hbytes], hpayout⟩
  refine ⟨p, hp, fun s hs => ?_, ?_, fun operator => ?_, fun t ht => (hfits t ht).1,
    fun t ht => (hfits t ht).2.1, fun t ht => (hfits t ht).2.2⟩
  · exact (hgather s.operator).1 s (List.mem_filter.mpr ⟨hs, decide_eq_true rfl⟩)
  · rw [hkeys]
    exact perOperator.sorted.imp ne_of_lt
  · rw [hkeys, ← mem_filter_operator]
    constructor
    · intro hmem
      obtain ⟨e, he, rfl⟩ := List.mem_map.mp hmem
      exact (hentry ((SortedMap.mem_entries_iff _ e.1 e.2).mp he)).1
    · intro hne
      obtain ⟨-, ⟨hnil, -⟩ | ⟨-, t, hsome, -⟩⟩ := hgather operator
      · exact absurd hnil hne
      · exact List.mem_map.mpr ⟨(operator, t), (SortedMap.mem_entries_iff _ _ _).mpr hsome, rfl⟩

/-- Sessions with a value are folded, if the sums of every operator are within the bounds. -/
theorem exists_fold (hp : receipts.foldlM Priced.add ⟨.empty, .empty⟩ = .ok p)
    (hvalued : ∀ s ∈ sessions, p.Values s)
    (hfits : ∀ operator ∈ sessions.map (·.operator), Fits p takeBps ceiling sessions operator) :
    ∃ totals, foldOperatorTotals receipts sessions takeBps ceiling = .ok totals := by
  have hgross : ∀ {operator}, Fits p takeBps ceiling sessions operator →
      sumOf p.value sessions operator < 2 ^ 128 := by
    intro operator h
    have hpos : 0 < bpsDenom - takeBps.val := by
      have hband := h.band.2
      rw [maxTakeBps] at hband
      rw [bpsDenom]
      omega
    exact Nat.lt_of_le_of_lt (Nat.le_mul_of_pos_right _ hpos) h.gross
  have hgathered : ∀ operator, ∃ o,
    SortedMap.gathered (fun s => .ok s.operator) (addSession p) operator
      sessions ((SortedMap.empty : SortedMap Address OperatorEpochTotal).get? operator)
      = .ok o := by
    intro operator
    simp only [SortedMap.get?_empty, gathered_addSession]
    have hvalues : ∀ s ∈ sessions.filter (·.operator = operator), p.Values s :=
      fun s hs => hvalued s (List.mem_filter.mp hs).1
    by_cases hnil : sessions.filter (·.operator = operator) = []
    · exact ⟨none, hvalues, .inl ⟨hnil, rfl⟩⟩
    · have hfit := hfits operator (mem_filter_operator.mp hnil)
      refine ⟨_, hvalues,
        .inr ⟨hnil, ⟨operator, ⟨_, ?_⟩, ⟨_, hfit.count⟩, ⟨_, hgross hfit⟩, 0, 0⟩, rfl,
        rfl, (Nat.zero_add _).symm, (Nat.zero_add _).symm, (Nat.zero_add _).symm, rfl, rfl⟩⟩
      exact Nat.lt_of_le_of_lt hfit.bytes ceiling.isLt
  obtain ⟨perOperator, hloop⟩ := SortedMap.exists_gather (f := addSession p)
    (fun s (_ : s ∈ sessions) => ⟨s.operator, rfl⟩) hgathered
  have hsettled : ∀ t ∈ perOperator.values, ∃ t', settleTotal takeBps ceiling t = .ok t' := by
    intro t ht
    obtain ⟨operator, hget⟩ := (SortedMap.mem_values_iff _ t).mp ht
    have hone := (SortedMap.gather.mp hloop).2 operator
    rw [hget, SortedMap.get?_empty, gathered_addSession] at hone
    obtain ⟨-, ⟨-, hnone⟩ | ⟨hne, t', hsome, hadds⟩⟩ := hone
    · cases hnone
    · cases hsome
      have hfit := hfits operator (mem_filter_operator.mp hne)
      have hbytes : t.totalBytes.val = sumOf (·.totalBytes.val) sessions operator :=
        hadds.totalBytes.trans (Nat.zero_add _)
      have hwei : t.grossGoatWei.val = sumOf p.value sessions operator :=
        hadds.grossGoatWei.trans (Nat.zero_add _)
      have hceiling : t.totalBytes ≤ ceiling := by
        show t.totalBytes.val ≤ ceiling.val
        rw [hbytes]
        exact hfit.bytes
      have hstorable : t.totalBytes.val ≤ maxStorableBytes := hbytes ▸ hfit.storable
      have hlt : t.grossGoatWei.val * (bpsDenom - takeBps.val) < 2 ^ 128 := hwei ▸ hfit.gross
      have hpayout : t.grossGoatWei.val * (bpsDenom - takeBps.val) / bpsDenom < 2 ^ 128 :=
        Nat.lt_of_le_of_lt (Nat.div_le_self _ _) hlt
      have hsplit := splitGross_ok.mpr ⟨hfit.band, hlt, (rfl : (⟨_, hpayout⟩ : Word 128).val = _),
        (rfl : (saturatingSub t.grossGoatWei ⟨_, hpayout⟩).val = _)⟩
      refine ⟨_, bind_ok₃.mpr ⟨(), ?_, (), ?_, _, hsplit, rfl⟩⟩
      · exact require_of hceiling
      · exact require_of hstorable
  obtain ⟨totals, htotals⟩ := exists_mapM hsettled
  exact ⟨totals, bind_ok₂.mpr ⟨p, hp, perOperator, hloop, htotals⟩⟩

/-! ## Sums by cluster -/

theorem sumOf_of_not_mem {f : SessionTotal → Nat} {operator : Address}
    (h : operator ∉ sessions.map (·.operator)) : sumOf f sessions operator = 0 := by
  rw [sumOf, not_not.mp (mt mem_filter_operator.mp h)]
  rfl

theorem FoldOf.sum_cluster (h : FoldOf p takeBps ceiling sessions totals)
    {v : OperatorEpochTotal → Nat} {g : Address → Nat} (hv : ∀ t ∈ totals, v t = g t.operator)
    (rootOf : Address → Option Address) (root : Address) :
    ((totals.filter (clusterOf rootOf ·.operator = root)).map v).sum
      = ∑ operator ∈ (sessions.map (·.operator)).toFinset with clusterOf rootOf operator = root,
        g operator := by
  have hoperators : ((totals.map (·.operator)).filter (clusterOf rootOf · = root)).toFinset
      = Finset.filter (clusterOf rootOf · = root) (sessions.map (·.operator)).toFinset :=
    Finset.ext fun operator => by
      simp only [List.mem_toFinset, List.mem_filter, Finset.mem_filter,
        decide_eq_true_eq, h.operators]
  have hmap : (totals.filter (clusterOf rootOf ·.operator = root)).map v
      = ((totals.map (·.operator)).filter (clusterOf rootOf · = root)).map g := by
    rw [List.filter_map, List.map_map]
    exact List.map_congr_left fun t ht => hv t (List.mem_filter.mp ht).1
  rw [hmap, ← hoperators, List.sum_toFinset g (h.distinct.filter _)]

theorem FoldOf.clusterPayout_eq (h : FoldOf p takeBps ceiling sessions totals)
    (rootOf : Address → Option Address) (root : Address) {s : Finset Address}
    (hs : ∀ operator ∈ sessions.map (·.operator), operator ∈ s) :
    clusterPayout rootOf root totals = ∑ operator ∈ s with clusterOf rootOf operator = root,
      sumOf p.value sessions operator * (bpsDenom - takeBps.val) / bpsDenom := by
  refine (h.sum_cluster h.payout rootOf root).trans
    (Finset.sum_subset ?_ fun operator hin hout => ?_)
  · exact Finset.filter_subset_filter _ fun operator hmem => hs operator (List.mem_toFinset.mp hmem)
  · have hnot : operator ∉ sessions.map (·.operator) := fun hmem =>
      hout (Finset.mem_filter.mpr ⟨List.mem_toFinset.mpr hmem, (Finset.mem_filter.mp hin).2⟩)
    rw [sumOf_of_not_mem hnot, Nat.zero_mul, Nat.zero_div]

theorem FoldOf.wallets (h : FoldOf p takeBps ceiling sessions totals)
    (rootOf : Address → Option Address) (root : Address) : clusterWallets rootOf root totals
      = (Finset.filter (clusterOf rootOf · = root) (sessions.map (·.operator)).toFinset).card := by
  have hone := h.sum_cluster (v := fun _ => 1) (g := fun _ => 1) (fun _ _ => rfl) rootOf root
  rw [Finset.sum_const, nsmul_eq_mul, Nat.mul_one, Nat.cast_id] at hone
  rw [← hone, clusterWallets, List.map_const', List.sum_replicate, nsmul_eq_mul,
    Nat.mul_one, Nat.cast_id]

theorem sum_sumOf (f : SessionTotal → Nat) (sessions : List SessionTotal)
    (rootOf : Address → Option Address) (root : Address) {s : Finset Address}
    (hs : ∀ operator ∈ sessions.map (·.operator), operator ∈ s) :
    ∑ operator ∈ s with clusterOf rootOf operator = root, sumOf f sessions operator
      = ((sessions.filter (clusterOf rootOf ·.operator = root)).map f).sum := by
  refine (FloorSums.sum_groups (·.operator) f _ sessions).trans ?_
  refine congrArg (fun l => (List.map f l).sum) (List.filter_congr fun u hu => ?_)
  have hmem := hs _ (List.mem_map_of_mem hu)
  simp only [Finset.mem_filter, hmem, true_and]

end

section
variable {operator : Address} {wallet : Bytes32 → Address} {sessions : List SessionTotal}

theorem value_reassign (p : Priced) (s : SessionTotal) :
    p.value (reassign operator wallet s) = p.value s := by
  rw [Priced.value, Priced.value, reassign_totalBytes, reassign_sessionId]

theorem count_reassign (p : Priced) (s : SessionTotal) :
    p.count (reassign operator wallet s) = p.count s := by
  rw [Priced.count, Priced.count, reassign_sessionId]

theorem values_reassign {p : Priced} {s : SessionTotal} :
    p.Values (reassign operator wallet s) ↔ p.Values s := by
  rw [Priced.Values, Priced.Values, reassign_totalBytes, reassign_sessionId]

variable {f : SessionTotal → Nat} (hf : ∀ s, f (reassign operator wallet s) = f s)

include hf

theorem sum_reassign {keep : SessionTotal → Bool}
    (hkeep : ∀ s, keep (reassign operator wallet s) = keep s) :
    (((sessions.map (reassign operator wallet)).filter keep).map f).sum
      = ((sessions.filter keep).map f).sum := by
  rw [List.filter_map, List.map_map]
  have hkeep' : keep ∘ reassign operator wallet = keep := funext hkeep
  have hf' : f ∘ reassign operator wallet = f := funext hf
  rw [hkeep', hf']

theorem sumOf_reassign_of_ne {other : Address} (hne : other ≠ operator)
    (hwallet : ∀ s ∈ sessions, s.operator = operator → wallet s.sessionId ≠ other) :
    sumOf f (sessions.map (reassign operator wallet)) other = sumOf f sessions other := by
  unfold sumOf
  rw [List.filter_map, List.map_map]
  have hf' : f ∘ reassign operator wallet = f := funext hf
  rw [hf']
  refine congrArg (fun l => (List.map f l).sum) (List.filter_congr fun s hs => ?_)
  by_cases hown : s.operator = operator
  · simp only [Function.comp, operator_reassign hown, hwallet s hs hown, hown, hne.symm]
  · simp only [Function.comp, reassign_of_ne hown]

theorem sumOf_reassign_le {other : Address}
    (hother : other = operator ∨ other ∉ sessions.map (·.operator)) :
    sumOf f (sessions.map (reassign operator wallet)) other ≤ sumOf f sessions operator := by
  unfold sumOf
  rw [List.filter_map, List.map_map]
  have hf' : f ∘ reassign operator wallet = f := funext hf
  rw [hf']
  have hown : ∀ s ∈ sessions, (reassign operator wallet s).operator = other →
    s.operator = operator := by
    intro s hs hs'
    by_contra hne
    rw [reassign_of_ne hne] at hs'
    rcases hother with rfl | hnot
    · exact hne hs'
    · exact hnot (List.mem_map.mpr ⟨s, hs, hs'⟩)
  have hfilter : sessions.filter (fun s => (reassign operator wallet s).operator = other)
      = (sessions.filter (·.operator = operator)).filter
        fun s => (reassign operator wallet s).operator = other := by
    rw [List.filter_filter]
    refine List.filter_congr fun s hs => ?_
    rw [← Bool.decide_and, decide_eq_decide]
    exact ⟨fun h => ⟨h, hown s hs h⟩, And.left⟩
  refine List.Sublist.sum_le_sum (List.Sublist.map f ?_) fun _ _ => Nat.zero_le _
  exact hfilter ▸ List.filter_sublist

end

/-! ## What changes, and what does not -/

section
variable {operator : Address} {wallet : Bytes32 → Address} {rootOf : Address → Option Address}
  {sessions : List SessionTotal} {p : Priced} {takeBps : Word 32} {ceiling : Word 128}
  {totals totals' : List OperatorEpochTotal}

section
variable (hroot : ∀ id, clusterOf rootOf (wallet id) = clusterOf rootOf operator)
include hroot

theorem pairs_reassign (consumerOf : Bytes32 → Bytes32) (capBps : Word 32) :
    checkPairConcentration (sessions.map (reassign operator wallet)) consumerOf rootOf capBps
    = .ok ()
      ↔ checkPairConcentration sessions consumerOf rootOf capBps = .ok () := by
  have hbytes : ∀ s, (reassign operator wallet s).totalBytes.val = s.totalBytes.val :=
    fun s => by rw [reassign_totalBytes]
  rw [checkPairConcentration_ok, checkPairConcentration_ok]
  refine forall_congr' fun consumer => forall_congr' fun root => ?_
  have hconsumer : (((sessions.map (reassign operator wallet)).filter
      (consumerOf ·.sessionId = consumer)).map (·.totalBytes.val)).sum
      = ((sessions.filter (consumerOf ·.sessionId = consumer)).map (·.totalBytes.val)).sum :=
    sum_reassign hbytes fun s => by rw [reassign_sessionId]
  have hpair : (((sessions.map (reassign operator wallet)).filter fun s =>
      consumerOf s.sessionId = consumer ∧ clusterOf rootOf s.operator = root).map
        (·.totalBytes.val)).sum
      = ((sessions.filter fun s => consumerOf s.sessionId = consumer
        ∧ clusterOf rootOf s.operator = root).map (·.totalBytes.val)).sum :=
    sum_reassign hbytes fun s => by simp only [reassign_sessionId, clusterOf_reassign hroot]
  dsimp only
  rw [hconsumer, hpair]

theorem sum_cluster_reassign {f : SessionTotal → Nat}
    (hf : ∀ s, f (reassign operator wallet s) = f s) (root : Address) :
    (((sessions.map (reassign operator wallet)).filter (clusterOf rootOf ·.operator = root)).map
      f).sum = ((sessions.filter (clusterOf rootOf ·.operator = root)).map f).sum :=
  sum_reassign hf fun s => by rw [clusterOf_reassign hroot]

section
variable (h : FoldOf p takeBps ceiling sessions totals)
  (h' : FoldOf p takeBps ceiling (sessions.map (reassign operator wallet)) totals')
include h h'

theorem ceiling_reassign (clusterCeiling : Word 128) :
    checkClusterByteCeiling totals' rootOf clusterCeiling = .ok ()
      ↔ checkClusterByteCeiling totals rootOf clusterCeiling = .ok () := by
  rw [checkClusterByteCeiling_ok, checkClusterByteCeiling_ok]
  refine forall_congr' fun root => ?_
  rw [h.sum_cluster h.totalBytes, h'.sum_cluster h'.totalBytes,
    sum_sumOf _ _ _ _ fun operator => List.mem_toFinset.mpr,
    sum_sumOf _ _ _ _ fun operator => List.mem_toFinset.mpr,
    sum_cluster_reassign hroot fun s => by rw [reassign_totalBytes]]

/-- **Other clusters get what they got.** -/
theorem payout_of_others {root : Address} (hother : root ≠ clusterOf rootOf operator) :
    clusterPayout rootOf root totals' = clusterPayout rootOf root totals := by
  let s := (sessions.map (·.operator)).toFinset
    ∪ ((sessions.map (reassign operator wallet)).map (·.operator)).toFinset
  rw [h.clusterPayout_eq rootOf root (s := s) fun other hmem =>
      Finset.mem_union_left _ (List.mem_toFinset.mpr hmem),
    h'.clusterPayout_eq rootOf root (s := s) fun other hmem =>
      Finset.mem_union_right _ (List.mem_toFinset.mpr hmem)]
  refine Finset.sum_congr rfl fun other hmem => ?_
  have hcluster := (Finset.mem_filter.mp hmem).2
  have hne : other ≠ operator := fun heq => hother (by rw [← hcluster, heq])
  rw [sumOf_reassign_of_ne (value_reassign p) hne fun s _ _ heq => hother ?_]
  rw [← hcluster, ← heq, hroot]

/-- **The cluster gains less than one unit for each wallet it had.** -/
theorem payout_le_wallets : clusterPayout rootOf (clusterOf rootOf operator) totals'
    ≤ clusterPayout rootOf (clusterOf rootOf operator) totals
      + (clusterWallets rootOf (clusterOf rootOf operator) totals - 1) := by
  rw [h.clusterPayout_eq rootOf _ fun operator => List.mem_toFinset.mpr,
    h'.clusterPayout_eq rootOf _ fun operator => List.mem_toFinset.mpr, h.wallets]
  refine (FloorSums.sum_div_le _ _ _).trans
    (le_trans (le_of_eq ?_) (FloorSums.div_sum_le _ _ (by decide)))
  rw [← Finset.sum_mul, ← Finset.sum_mul, sum_sumOf _ _ _ _ fun operator => List.mem_toFinset.mpr,
    sum_sumOf _ _ _ _ fun operator => List.mem_toFinset.mpr,
    sum_cluster_reassign hroot (value_reassign p)]

/-- **Wallets that were not there before do not gain anything for the cluster.** -/
theorem payout_le_of_fresh (hfresh : ∀ s ∈ sessions, s.operator = operator →
      wallet s.sessionId = operator ∨ wallet s.sessionId ∉ sessions.map (·.operator)) :
    clusterPayout rootOf (clusterOf rootOf operator) totals'
      ≤ clusterPayout rootOf (clusterOf rootOf operator) totals := by
  let s := (sessions.map (·.operator)).toFinset
    ∪ ((sessions.map (reassign operator wallet)).map (·.operator)).toFinset
  have hold : ∀ other ∈ sessions.map (·.operator), other ∈ s := fun other hmem =>
    Finset.mem_union_left _ (List.mem_toFinset.mpr hmem)
  have hnew : ∀ other ∈ (sessions.map (reassign operator wallet)).map (·.operator), other ∈ s :=
    fun other hmem => Finset.mem_union_right _ (List.mem_toFinset.mpr hmem)
  rw [h.clusterPayout_eq rootOf _ hold, h'.clusterPayout_eq rootOf _ hnew]
  refine FloorSums.sum_div_spread operator bpsDenom (fun other _ hne => ?_) ?_
  · by_cases hmem : other ∈ sessions.map (·.operator)
    · refine .inl ?_
      rw [sumOf_reassign_of_ne (value_reassign p) hne fun s hs hown heq => ?_]
      rcases hfresh s hs hown with hkept | hnot
      · exact hne (heq.symm.trans hkept)
      · exact hnot (heq ▸ hmem)
    · refine .inr ?_
      rw [sumOf_of_not_mem hmem, Nat.zero_mul]
  · rw [← Finset.sum_mul, ← Finset.sum_mul, sum_sumOf _ _ _ _ hold, sum_sumOf _ _ _ _ hnew,
      sum_cluster_reassign hroot (value_reassign p)]

end

end

theorem exists_fold_reassign {receipts : List StoredReceipt}
    (hp : receipts.foldlM Priced.add ⟨.empty, .empty⟩ = .ok p)
    (h : FoldOf p takeBps ceiling sessions totals)
    (hfresh : ∀ s ∈ sessions, s.operator = operator →
      wallet s.sessionId = operator ∨ wallet s.sessionId ∉ sessions.map (·.operator)) :
    ∃ totals', foldOperatorTotals (receipts.map (reassignRow operator wallet))
      (sessions.map (reassign operator wallet)) takeBps ceiling = .ok totals' := by
  have hfits : ∀ other ∈ sessions.map (·.operator), Fits p takeBps ceiling sessions other := by
    intro other hmem
    obtain ⟨t, ht, rfl⟩ := List.mem_map.mp ((h.operators other).mpr hmem)
    exact h.fits t ht
  have hbytes : ∀ s, (reassign operator wallet s).totalBytes.val = s.totalBytes.val :=
    fun s => by rw [reassign_totalBytes]
  refine exists_fold ((foldlM_add_reassignRow receipts _).trans hp) (fun s hs => ?_)
    fun other hmem => ?_
  · obtain ⟨u, hu, rfl⟩ := List.mem_map.mp hs
    exact values_reassign.mpr (h.valued u hu)
  · obtain ⟨_, hnew, rfl⟩ := List.mem_map.mp hmem
    obtain ⟨s, hs, rfl⟩ := List.mem_map.mp hnew
    by_cases hown : s.operator = operator
    · have hgiver := hfits operator (List.mem_map.mpr ⟨s, hs, hown⟩)
      have hother : (reassign operator wallet s).operator = operator
          ∨ (reassign operator wallet s).operator ∉ sessions.map (·.operator) := by
        rw [operator_reassign hown]
        exact hfresh s hs hown
      exact ⟨(sumOf_reassign_le hbytes hother).trans hgiver.bytes,
        (sumOf_reassign_le hbytes hother).trans hgiver.storable,
        Nat.lt_of_le_of_lt (sumOf_reassign_le (count_reassign p) hother) hgiver.count, hgiver.band,
        Nat.lt_of_le_of_lt (Nat.mul_le_mul_right _ (sumOf_reassign_le (value_reassign p) hother))
          hgiver.gross⟩
    · rw [reassign_of_ne hown]
      have hkept : ∀ u ∈ sessions, u.operator = operator → wallet u.sessionId ≠ s.operator := by
        intro u hu hopu heq
        rcases hfresh u hu hopu with hsame | hnot
        · exact hown (heq.symm.trans hsame)
        · exact hnot (heq ▸ List.mem_map.mpr ⟨s, hs, rfl⟩)
      have hself := hfits s.operator (List.mem_map.mpr ⟨s, hs, rfl⟩)
      exact ⟨by rw [sumOf_reassign_of_ne hbytes hown hkept]; exact hself.bytes,
        by rw [sumOf_reassign_of_ne hbytes hown hkept]; exact hself.storable,
        by rw [sumOf_reassign_of_ne (count_reassign p) hown hkept]; exact hself.count, hself.band,
        by rw [sumOf_reassign_of_ne (value_reassign p) hown hkept]; exact hself.gross⟩

end

/-- **One operator under several wallets.** The controls that go by cluster accept what they
accepted, other clusters get what they got, and the cluster gets no more than before if its new
wallets had no sessions of their own; if they had, it gains less than one unit for each wallet it
had. -/
theorem sybil_neutrality {receipts : List StoredReceipt} {sessions : List SessionTotal}
    {operator : Address} {wallet : Bytes32 → Address} {rootOf : Address → Option Address}
    (hsessions : foldSessionTotals receipts = .ok sessions)
    (hroot : ∀ id, clusterOf rootOf (wallet id) = clusterOf rootOf operator) :
    foldSessionTotals (receipts.map (reassignRow operator wallet))
        = .ok (sessions.map (reassign operator wallet))
      ∧ (∀ consumerOf capBps,
        checkPairConcentration (sessions.map (reassign operator wallet)) consumerOf rootOf capBps
        = .ok ()
          ↔ checkPairConcentration sessions consumerOf rootOf capBps = .ok ())
      ∧ ∀ takeBps byteCeiling totals,
        foldOperatorTotals receipts sessions takeBps byteCeiling = .ok totals →
          ((∀ s ∈ sessions, s.operator = operator →
              wallet s.sessionId = operator ∨ wallet s.sessionId ∉ sessions.map (·.operator)) →
            ∃ totals', foldOperatorTotals (receipts.map (reassignRow operator wallet))
                (sessions.map (reassign operator wallet)) takeBps byteCeiling = .ok totals'
              ∧ clusterPayout rootOf (clusterOf rootOf operator) totals'
                ≤ clusterPayout rootOf (clusterOf rootOf operator) totals)
          ∧ ∀ totals', foldOperatorTotals (receipts.map (reassignRow operator wallet))
              (sessions.map (reassign operator wallet)) takeBps byteCeiling = .ok totals' →
            clusterPayout rootOf (clusterOf rootOf operator) totals'
                ≤ clusterPayout rootOf (clusterOf rootOf operator) totals
                  + (clusterWallets rootOf (clusterOf rootOf operator) totals - 1)
              ∧ (∀ root, root ≠ clusterOf rootOf operator →
                clusterPayout rootOf root totals' = clusterPayout rootOf root totals)
              ∧ ∀ clusterCeiling, checkClusterByteCeiling totals' rootOf clusterCeiling = .ok ()
                ↔ checkClusterByteCeiling totals rootOf clusterCeiling = .ok () := by
  refine ⟨foldSessionTotals_reassignRow hsessions, pairs_reassign hroot,
    fun takeBps byteCeiling totals htotals => ?_⟩
  obtain ⟨p, hp, hfold⟩ := foldOf_fold htotals
  have hfold' : ∀ {totals'}, foldOperatorTotals (receipts.map (reassignRow operator wallet))
      (sessions.map (reassign operator wallet)) takeBps byteCeiling = .ok totals' →
      FoldOf p takeBps byteCeiling (sessions.map (reassign operator wallet)) totals' := by
    intro totals' htotals'
    obtain ⟨p', hp', hfold'⟩ := foldOf_fold htotals'
    rw [foldlM_add_reassignRow, hp] at hp'
    cases hp'
    exact hfold'
  constructor
  · intro hfresh
    obtain ⟨totals', htotals'⟩ := exists_fold_reassign hp hfold hfresh
    exact ⟨totals', htotals', payout_le_of_fresh hroot hfold (hfold' htotals') hfresh⟩
  · intro totals' htotals'
    exact ⟨payout_le_wallets hroot hfold (hfold' htotals'),
      fun root hother => payout_of_others hroot hfold (hfold' htotals') hother,
      ceiling_reassign hroot hfold (hfold' htotals')⟩

/-! ### Two wallets with a unit each -/

/-- A mebibyte at the price of one unit. -/
def unitRow (id : Bytes32) (operator : Address) : StoredReceipt :=
  ⟨hexOf 32 id.val, 8000000000000, hexOf 32 id.val, 0, hexOf 20 operator.val, hexOf 32 0,
    1048576, .final, hexOf 32 0, 1⟩

def unitRows : List StoredReceipt := [unitRow 1 1, unitRow 2 2]

def unitSessions : List SessionTotal := [⟨1, 1, 1048576, 1⟩, ⟨2, 2, 1048576, 1⟩]

theorem foldSessionTotals_unitRows : foldSessionTotals unitRows = .ok unitSessions := by
  rfl

def unitTotals : List OperatorEpochTotal := [⟨1, 1048576, 1, 1, 0, 1⟩, ⟨2, 1048576, 1, 1, 0, 1⟩]

theorem foldOperatorTotals_unitRows :
    foldOperatorTotals unitRows unitSessions 1000 2097152 = .ok unitTotals := by
  rfl

theorem sybil_neutrality_sample :
    ∃ totals', foldOperatorTotals (unitRows.map (reassignRow 1 fun _ => 3))
        (unitSessions.map (reassign 1 fun _ => 3)) 1000 2097152 = .ok totals'
      ∧ clusterPayout (fun _ => some 1) (clusterOf (fun _ => some 1) 1) totals'
        ≤ clusterPayout (fun _ => some 1) (clusterOf (fun _ => some 1) 1) unitTotals := by
  have hall := @sybil_neutrality unitRows unitSessions 1 (fun _ => 3) (fun _ => some 1)
    foldSessionTotals_unitRows fun _ => rfl
  have hfresh : (3 : Address) ∉ unitSessions.map (·.operator) := by decide
  exact (hall.2.2 1000 2097152 unitTotals foldOperatorTotals_unitRows).1 fun _ _ _ => .inr hfresh

/-- The wallet 2 rounds down its own unit, and the unit of the wallet 1 with it. -/
theorem moved_unit_gains :
    clusterOf (fun _ => some 1) 2 = clusterOf (fun _ => some 1) 1
      ∧ foldSessionTotals unitRows = .ok unitSessions
      ∧ foldOperatorTotals unitRows unitSessions 1000 2097152 = .ok unitTotals
      ∧ foldSessionTotals (unitRows.map (reassignRow 1 fun _ => 2))
        = .ok (unitSessions.map (reassign 1 fun _ => 2))
      ∧ ∃ totals', foldOperatorTotals (unitRows.map (reassignRow 1 fun _ => 2))
          (unitSessions.map (reassign 1 fun _ => 2)) 1000 2097152 = .ok totals'
        ∧ clusterPayout (fun _ => some 1) 1 unitTotals
          < clusterPayout (fun _ => some 1) 1 totals' := by
  refine ⟨rfl, foldSessionTotals_unitRows, foldOperatorTotals_unitRows,
    foldSessionTotals_reassignRow foldSessionTotals_unitRows, [⟨2, 2097152, 2, 2, 1, 1⟩],
    rfl, by decide⟩

end GoatCoin.Attestor
