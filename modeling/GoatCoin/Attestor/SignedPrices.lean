/-
# `GoatCoin.Attestor.SignedPrices` — the price a session is valued at

The fold of the operators takes the price of a session from its receipts, and of these from the last
one it sees.  That is sound where all the receipts of a session carry one price:

    stage 5    the receipt names the hash of its intent, and carries its price
    store      the receipt, the chunk and the counter are unique, the session is not

and nothing keeps a session to one intent.  `signed_price_iff` says that one price is exactly what
the fold rests on.  The sample is a session whose second chunk was verified against a second intent,
of twice the price.
-/
import GoatCoin.Attestor.Aggregate
import GoatCoin.Attestor.SessionCeiling

namespace GoatCoin.Attestor

open Evm

/-! ## The rows of an epoch -/

/-- What was stored for an epoch. -/
def epochHistory (e : Secp256k1) (ks : List LaneAction) (epoch : Word 64) : List VerifiedReceipt :=
  (Lane.history e ks).filter (·.receipt.epochId = epoch)

theorem stored_filter {vs : List VerifiedReceipt} {rows : List ReceiptRow}
    (hrows : List.Forall₂ RowOf vs rows) (epoch : Word 64) : ∀ {rs : List StoredReceipt},
    List.Forall₂ (fun row r => row.stored = .ok r)
      (rows.filter (·.epochId = (epoch.val : Int))) rs →
      rs = (vs.filter (·.receipt.epochId = epoch)).map storedOf := by
  induction hrows with
  | nil =>
      intro rs h
      cases h
      rfl
  | @cons v row vs rows hrow _ ih =>
      intro rs h
      have hepoch : row.epochId = epoch.val ↔ v.receipt.epochId = epoch := by
        rw [hrow.epoch, Int.ofNat_inj, Fin.ext_iff]
      by_cases hthis : v.receipt.epochId = epoch
      · rw [List.filter_cons_of_pos (by simpa using hepoch.mpr hthis)] at h
        rw [List.filter_cons_of_pos (by simpa using hthis), List.map_cons]
        cases h with
        | cons hr hrest =>
            rw [hrow.stored] at hr
            rw [← ih hrest, Except.ok.inj hr]
      · rw [List.filter_cons_of_neg (by simpa using fun h => hthis (hepoch.mp h))] at h
        rw [List.filter_cons_of_neg (by simpa using hthis)]
        exact ih h

/-- **The rows that are loaded are what was stored**, in some order. -/
theorem loaded_perm {e : Secp256k1} {ks : List LaneAction} {epoch : Word 64}
    {rows : List StoredReceipt} (h : (Lane.run e ks).db.loadEpochReceipts epoch = .ok rows) :
    rows.Perm ((epochHistory e ks epoch).map storedOf) := by
  obtain ⟨n, hepoch, h⟩ := bind_ok.mp h
  obtain ⟨-, rfl⟩ := asI64_ok hepoch
  have hsorted : ((Lane.run e ks).db.receipts.filter (·.epochId = (epoch.val : Int))).Perm
      ((Lane.run e ks).db.epochRows epoch.val) := (List.mergeSort_perm _ _).symm
  obtain ⟨rs, hrs, hperm⟩ := List.perm_comp_forall₂ hsorted (mapM_ok.mp h)
  rw [stored_filter (Lane.kept_run e ks).rows epoch hrs] at hperm
  exact hperm.symm

/-! ## What the fold makes of them -/

theorem sessionKey_storedOf (v : VerifiedReceipt) :
    sessionKey (storedOf v) = .ok v.receipt.sessionId :=
  decodeSessionId_hexOf v.receipt.sessionId

section
variable {vs : List VerifiedReceipt} {rows : List StoredReceipt}

/-- All the receipts of a session carry one price. -/
def OnePrice (vs : List VerifiedReceipt) : Prop :=
  ∀ v ∈ vs, ∀ w ∈ vs, v.receipt.sessionId = w.receipt.sessionId →
    v.intent.priceGoatWeiPerMebibyte = w.intent.priceGoatWeiPerMebibyte

/-- The totals are the same, whatever the order of the receipts and of the sessions. -/
def OrderFree (rows : List StoredReceipt) : Prop :=
  ∀ rows' sessions sessions' takeBps ceiling totals, rows.Perm rows' → sessions.Perm sessions' →
    (foldOperatorTotals rows sessions takeBps ceiling = .ok totals ↔
      foldOperatorTotals rows' sessions' takeBps ceiling = .ok totals)

/-- The sessions are valued at the price of whichever intent of theirs is looked at. -/
def ValuedAsSigned (vs : List VerifiedReceipt) (rows : List StoredReceipt) : Prop :=
  ∀ rows' sessions takeBps ceiling totals, rows.Perm rows' →
    foldOperatorTotals rows' sessions takeBps ceiling = .ok totals →
    ∀ t ∈ totals, ∀ signed : Bytes32 → VerifiedReceipt,
      (∀ s ∈ sessions, signed s.sessionId ∈ vs
        ∧ (signed s.sessionId).receipt.sessionId = s.sessionId) →
      t.grossGoatWei.val = ((sessions.filter (·.operator = t.operator)).map fun s =>
        s.totalBytes.val * (signed s.sessionId).intent.priceGoatWeiPerMebibyte.val / mebibyte).sum

theorem mem_rows (hrows : rows.Perm (vs.map storedOf)) {r : StoredReceipt} (hr : r ∈ rows) :
    ∃ v ∈ vs, storedOf v = r :=
  List.mem_map.mp (hrows.mem_iff.mp hr)

theorem signed_of_priced (hverified : ∀ v ∈ vs, Verified v) (hrows : rows.Perm (vs.map storedOf))
    {p : Priced} (hp : rows.foldlM Priced.add ⟨.empty, .empty⟩ = .ok p) {id : Bytes32}
    {price : Word 128} (hprice : p.price.get? id = some price) :
    ∃ v ∈ vs, v.receipt.sessionId = id ∧ v.intent.priceGoatWeiPerMebibyte = price := by
  obtain ⟨r, hr, hkey, hrprice⟩ := price_of_priced hp hprice
  obtain ⟨v, hv, rfl⟩ := mem_rows hrows hr
  rw [sessionKey_storedOf] at hkey
  exact ⟨v, hv, Except.ok.inj hkey, (hverified v hv).price.symm.trans hrprice⟩

theorem orderFree_of_onePrice (hverified : ∀ v ∈ vs, Verified v)
    (hrows : rows.Perm (vs.map storedOf)) (hone : OnePrice vs) : OrderFree rows := by
  intro rows' sessions sessions' takeBps ceiling totals hperm hsessions
  have halike : ∀ x ∈ rows, ∀ y ∈ rows, sessionKey x = sessionKey y →
      x.priceGoatWeiPerMebibyte = y.priceGoatWeiPerMebibyte := by
    intro x hx y hy hkey
    obtain ⟨v, hv, rfl⟩ := mem_rows hrows hx
    obtain ⟨w, hw, rfl⟩ := mem_rows hrows hy
    rw [sessionKey_storedOf, sessionKey_storedOf] at hkey
    have hprice := hone v hv w hw (Except.ok.inj hkey)
    rwa [← (hverified v hv).price, ← (hverified w hw).price] at hprice
  have hpriced : ∀ p, rows.foldlM Priced.add ⟨.empty, .empty⟩ = .ok p ↔
      rows'.foldlM Priced.add ⟨.empty, .empty⟩ = .ok p := by
    intro p
    rw [Priced.foldlM_add, Priced.foldlM_add]
    refine and_congr (SortedMap.gather_perm_of_alike hperm fun x hx y hy hkey k o => ?_)
      (SortedMap.gather_perm_of_alike hperm fun x hx y hy hkey k o => rfl)
    exact congrArg Except.ok (halike x hx y hy hkey)
  constructor
  · intro h
    obtain ⟨p, hp, perOperator, hloop, h⟩ := bind_ok₂.mp h
    exact bind_ok₂.mpr ⟨p, (hpriced p).mp hp, perOperator,
      (foldlM_addSession_perm p hsessions).mp hloop, h⟩
  · intro h
    obtain ⟨p, hp, perOperator, hloop, h⟩ := bind_ok₂.mp h
    exact bind_ok₂.mpr ⟨p, (hpriced p).mpr hp, perOperator,
      (foldlM_addSession_perm p hsessions).mpr hloop, h⟩

theorem valuedAsSigned_of_onePrice (hverified : ∀ v ∈ vs, Verified v)
    (hrows : rows.Perm (vs.map storedOf)) (hone : OnePrice vs) : ValuedAsSigned vs rows := by
  intro rows' sessions takeBps ceiling totals hperm h t ht signed hsigned
  obtain ⟨p, hp, htotals⟩ := totalOf_fold h
  have htotal := htotals t ht
  rw [htotal.grossGoatWei]
  refine congrArg List.sum (List.map_congr_left fun s hs => ?_)
  obtain ⟨price, hprice, -⟩ := htotal.valued s hs
  obtain ⟨v, hv, hsession, hvprice⟩ := signed_of_priced hverified (hperm.symm.trans hrows) hp hprice
  obtain ⟨hmem, hsame⟩ := hsigned s (List.mem_filter.mp hs).1
  rw [Priced.value, hprice, Option.getD_some, ← hvprice,
    hone v hv _ hmem (hsession.trans hsame.symm)]

/-! ## One price is needed -/

theorem fold_mebibyte {p : Priced} (hp : rows.foldlM Priced.add ⟨.empty, .empty⟩ = .ok p)
    {id : Bytes32} {price : Word 128} (hprice : p.price.get? id = some price)
    (hband : price.val ≤ maxPriceGoatWeiPerMebibyte) :
    ∃ t, foldOperatorTotals rows [⟨id, 0, 1048576, 0⟩] 1000 1048576 = .ok [t]
      ∧ t.operator = 0 ∧ t.grossGoatWei = price := by
  have hband : price.val ≤ 1000000000000000000 := hband
  have hsmall : price.val * (bpsDenom - 1000) < 2 ^ 128 := by
    unfold bpsDenom
    omega
  have hpayout : price.val * (bpsDenom - 1000) / bpsDenom < 2 ^ 128 :=
    Nat.lt_of_le_of_lt (Nat.div_le_self _ _) hsmall
  have hmebibyte : (1048576 : Word 128).val = mebibyte := by decide
  have hadd : addSession p 0 none ⟨id, 0, 1048576, 0⟩
      = .ok ⟨0, 1048576, (p.counts.get? id).getD 0, price, 0, 0⟩ := by
    have hvalue : p.value ⟨id, 0, 1048576, 0⟩ = price.val := by
      rw [Priced.value, hprice, Option.getD_some, hmebibyte]
      exact Nat.mul_div_cancel_left price.val (by decide)
    refine addSession_ok.mpr ⟨⟨price, hprice, ?_⟩, rfl, (Nat.zero_add _).symm,
      (Nat.zero_add _).symm, ?_, rfl, rfl⟩
    · rw [hmebibyte, mebibyte]
      omega
    · rw [hvalue]
      exact (Nat.zero_add _).symm
  obtain ⟨t, hsettle, hoperator, hgross⟩ : ∃ t, settleTotal 1000 1048576
      ⟨0, 1048576, (p.counts.get? id).getD 0, price, 0, 0⟩ = .ok t
        ∧ t.operator = 0 ∧ t.grossGoatWei = price := by
    refine ⟨⟨0, 1048576, (p.counts.get? id).getD 0, price, ⟨_, hpayout⟩,
      saturatingSub price ⟨_, hpayout⟩⟩, ?_, rfl, rfl⟩
    refine bind_ok.mpr ⟨(), require_ok.mpr (le_refl (1048576 : Word 128)), ?_⟩
    refine bind_ok.mpr ⟨(), require_ok.mpr (by dsimp only; decide), ?_⟩
    exact bind_ok.mpr ⟨_, splitGross_ok.mpr ⟨by decide, hsmall, rfl, rfl⟩, rfl⟩
  have hloop : [⟨id, 0, 1048576, 0⟩].foldlM
      (SortedMap.turn (fun s => .ok s.operator) (addSession p)) SortedMap.empty
      = .ok (SortedMap.empty.insert 0 ⟨0, 1048576, (p.counts.get? id).getD 0, price, 0, 0⟩) :=
    bind_ok.mpr ⟨_, bind_ok₂.mpr ⟨0, rfl, _, hadd, rfl⟩, rfl⟩
  refine ⟨t, bind_ok₂.mpr ⟨p, hp, _, hloop, ?_⟩, hoperator, hgross⟩
  show [_].mapM (settleTotal 1000 1048576) = .ok [t]
  rw [List.mapM_cons, hsettle]
  rfl

theorem items_lt (hchunks : (vs.map fun v => (v.receipt.sessionId, v.receipt.chunkSeq)).Nodup)
    (hfits : ∀ v ∈ vs, v.receipt.chunkSeq.val < 2 ^ 63) (hrows : rows.Perm (vs.map storedOf))
    (id : Bytes32) : (SortedMap.itemsOf sessionKey id rows).length < 2 ^ 64 := by
  have hitems : (SortedMap.itemsOf sessionKey id rows).Perm
      ((vs.filter (·.receipt.sessionId = id)).map storedOf) := by
    refine (SortedMap.itemsOf_perm id hrows).trans (List.Perm.of_eq ?_)
    rw [SortedMap.itemsOf, List.filter_map]
    refine congrArg (List.map storedOf) (List.filter_congr fun v _ => ?_)
    simp [sessionKey_storedOf, Except.toOption]
  -- the chunks of a session are told apart by numbers below `2 ^ 63`
  have hnodup : ((vs.filter (·.receipt.sessionId = id)).map (·.receipt.chunkSeq.val)).Nodup := by
    refine List.Nodup.map_on (fun v hv w hw h => ?_) (hchunks.of_map.filter _)
    obtain ⟨hvm, hvid⟩ := List.mem_filter.mp hv
    obtain ⟨hwm, hwid⟩ := List.mem_filter.mp hw
    have hid : v.receipt.sessionId = w.receipt.sessionId := by
      rw [of_decide_eq_true hvid, of_decide_eq_true hwid]
    exact List.inj_on_of_nodup_map hchunks hvm hwm (Prod.ext hid (Fin.ext h))
  have hlength :
    ((vs.filter (·.receipt.sessionId = id)).map (·.receipt.chunkSeq.val)).length ≤ 2 ^ 63 := by
    have hcard := List.toFinset_card_of_nodup hnodup
    rw [← hcard, ← Finset.card_range (2 ^ 63)]
    refine Finset.card_le_card fun n hn => ?_
    obtain ⟨v, hv, rfl⟩ := List.mem_map.mp (List.mem_toFinset.mp hn)
    exact Finset.mem_range.mpr (hfits v (List.mem_filter.mp hv).1)
  rw [hitems.length_eq, List.length_map]
  rw [List.length_map] at hlength
  omega

theorem onePrice_of_valued (hverified : ∀ v ∈ vs, Verified v) (hrows : rows.Perm (vs.map storedOf))
    (hcount : ∀ id, (SortedMap.itemsOf sessionKey id rows).length < 2 ^ 64)
    (h : ValuedAsSigned vs rows) : OnePrice vs := by
  intro v hv w hw hsession
  have hkeys : ∀ r ∈ rows, ∃ id, sessionKey r = .ok id := by
    intro r hr
    obtain ⟨x, -, rfl⟩ := mem_rows hrows hr
    exact ⟨_, sessionKey_storedOf x⟩
  obtain ⟨p, hp⟩ := exists_priced hkeys hcount
  have hrow : storedOf v ∈ rows := hrows.mem_iff.mpr (List.mem_map_of_mem hv)
  obtain ⟨price, hprice⟩ := priced_of_mem hp hrow (sessionKey_storedOf v)
  obtain ⟨x, hx, -, hxprice⟩ := signed_of_priced hverified hrows hp hprice
  have hband : price.val ≤ maxPriceGoatWeiPerMebibyte := by
    rw [← hxprice, ← (hverified x hx).price]
    exact (hverified x hx).band
  obtain ⟨t, hfold, hoperator, -⟩ := fold_mebibyte hp hprice hband
  -- the mebibyte is valued at the price of `v` and at the price of `w`
  have hgross : ∀ u ∈ vs, u.receipt.sessionId = v.receipt.sessionId →
      t.grossGoatWei.val = u.intent.priceGoatWeiPerMebibyte.val := by
    intro u hu husession
    have hvalued :=
      h rows _ _ _ _ (List.Perm.refl rows) hfold t (List.mem_singleton_self t) (fun _ => u)
      fun s hs => ⟨hu, by rw [husession, List.mem_singleton.mp hs]⟩
    have hmebibyte : (1048576 : Word 128).val = mebibyte := by decide
    rw [hvalued, List.filter_cons_of_pos (by simp [hoperator]), List.filter_nil, List.map_singleton,
      List.sum_singleton, hmebibyte]
    exact Nat.mul_div_cancel_left _ (by decide)
  exact Fin.ext ((hgross v hv rfl).symm.trans (hgross w hw hsession.symm))

end

/-- **The fold rests on one price for each session.** For the receipts that a run of the lane has
stored for an epoch, the totals do not depend on the order of the rows and value every session at
the price its consumer signed, exactly if all the receipts of a session were verified against
intents of one price. -/
theorem signed_price_iff (e : Secp256k1) (ks : List LaneAction) (epoch : Word 64)
    {rows : List StoredReceipt} (h : (Lane.run e ks).db.loadEpochReceipts epoch = .ok rows) :
    (OrderFree rows ∧ ValuedAsSigned (epochHistory e ks epoch) rows)
      ↔ OnePrice (epochHistory e ks epoch) := by
  have hkept := Lane.kept_run e ks
  have hrows := loaded_perm h
  have hmem : ∀ v ∈ epochHistory e ks epoch, v ∈ Lane.history e ks := fun v hv =>
    (List.mem_filter.mp hv).1
  have hverified : ∀ v ∈ epochHistory e ks epoch, Verified v := fun v hv =>
    hkept.pool v (hkept.among v (hmem v hv))
  have hfits : ∀ v ∈ epochHistory e ks epoch, v.receipt.chunkSeq.val < 2 ^ 63 := by
    intro v hv
    obtain ⟨row, -, hrow⟩ := exists_of_forall₂ hkept.rows.flip v (hmem v hv)
    exact hrow.chunkFits
  have hchunks :
    ((epochHistory e ks epoch).map fun v => (v.receipt.sessionId, v.receipt.chunkSeq)).Nodup :=
    hkept.nodup_chunks.sublist (List.filter_sublist.map _)
  constructor
  · rintro ⟨-, hvalued⟩
    exact onePrice_of_valued hverified hrows (items_lt hchunks hfits hrows) hvalued
  · intro hone
    exact ⟨orderFree_of_onePrice hverified hrows hone,
      valuedAsSigned_of_onePrice hverified hrows hone⟩

theorem signed_price_iff_sample : ∃ rows,
    (Lane.run sampleSigners sampleOver).db.loadEpochReceipts 8000000000001 = .ok rows
      ∧ OrderFree rows := by
  obtain ⟨rows, hload, -⟩ := loadEpochReceipts_ok (Lane.stored_run sampleSigners sampleOver)
    (by decide : (8000000000001 : Word 64).val < 2 ^ 63)
  refine ⟨rows, hload, ((signed_price_iff sampleSigners sampleOver 8000000000001 hload).mpr ?_).1⟩
  have hhistory : Lane.history sampleSigners sampleOver
      = [sampleVerified sampleFirst 1048576, sampleVerified sampleLast 1048576] := by
    rw [← Ledger.taken_eq, sampleOver_taken]
  have hprice : ∀ v ∈ epochHistory sampleSigners sampleOver 8000000000001,
      v.intent.priceGoatWeiPerMebibyte = 1048576 := by
    intro v hv
    rw [epochHistory, hhistory] at hv
    rcases List.mem_pair.mp (List.mem_filter.mp hv).1 with rfl | rfl
    · rfl
    · rfl
  intro v hv w hw _
  rw [hprice v hv, hprice w hw]

/-! ## A second intent, of twice the price -/

theorem sampleDearer_verify : verifyReceiptBundle sampleSigners (sampleBundle sampleDearer 2097152)
    sampleContext = .ok (sampleVerified sampleDearer 2097152) :=
  sample_verify (And.right sampleIntent_hashes) (by decide) (by decide) rfl (by decide)

/-- The session, chunk after chunk. -/
def sampleMixed : List LaneAction :=
  Ledger.storesTwo (sampleBundle sampleFirst 1048576) (sampleBundle sampleDearer 2097152)
    sampleContext 150

theorem sampleMixed_history : Lane.history sampleSigners sampleMixed
    = [sampleVerified sampleFirst 1048576, sampleVerified sampleDearer 2097152] := by
  have hhashes := sampleReceiptHashes
  rw [← Ledger.taken_eq]
  exact Ledger.storesTwo_takes sampleSigners sampleFirst_verify sampleDearer_verify
    ⟨_, _, rfl⟩ ⟨_, _, rfl⟩ (by rw [hhashes.first, hhashes.dearer]; decide)
    (by exact (by decide : (1 : Word 64) ≠ 0)) (by exact (by decide : (1 : Word 64) ≠ 0))

/-- The two rows. -/
def sampleCheapRow : StoredReceipt := storedOf (sampleVerified sampleFirst 1048576)
def sampleDearRow : StoredReceipt := storedOf (sampleVerified sampleDearer 2097152)

/-- The totals when the dear row comes last, and when it comes first. -/
structure SampleMixedTotals : Prop where
  sessions : foldSessionTotals [sampleCheapRow, sampleDearRow] = .ok [⟨5, 1, 10485761, 2⟩]
  dearLast :
    foldOperatorTotals [sampleCheapRow, sampleDearRow] [⟨5, 1, 10485761, 2⟩] 1000 1073741824
    = .ok [⟨1, 10485761, 2, 20971522, 18874369, 2097153⟩]
  dearFirst :
    foldOperatorTotals [sampleDearRow, sampleCheapRow] [⟨5, 1, 10485761, 2⟩] 1000 1073741824
    = .ok [⟨1, 10485761, 2, 10485761, 9437184, 1048577⟩]

theorem sampleMixedTotals : SampleMixedTotals :=
  ⟨ok_of_toOption (by decide +kernel), ok_of_toOption (by decide +kernel),
    ok_of_toOption (by decide +kernel)⟩

/-- Both chunks are stored, and the order of their rows decides what the session is worth. -/
theorem sampleMixed_order_matters :
    Lane.history sampleSigners sampleMixed
        = [sampleVerified sampleFirst 1048576, sampleVerified sampleDearer 2097152]
      ∧ foldSessionTotals [sampleCheapRow, sampleDearRow] = .ok [⟨5, 1, 10485761, 2⟩]
      ∧ foldOperatorTotals [sampleCheapRow, sampleDearRow] [⟨5, 1, 10485761, 2⟩] 1000 1073741824
        = .ok [⟨1, 10485761, 2, 20971522, 18874369, 2097153⟩]
      ∧ foldOperatorTotals [sampleDearRow, sampleCheapRow] [⟨5, 1, 10485761, 2⟩] 1000 1073741824
        = .ok [⟨1, 10485761, 2, 10485761, 9437184, 1048577⟩]
      ∧ ∃ rows, (Lane.run sampleSigners sampleMixed).db.loadEpochReceipts 8000000000001 = .ok rows
        ∧ rows.Perm [sampleCheapRow, sampleDearRow] ∧ ¬ OrderFree rows
        ∧ ¬ ValuedAsSigned (epochHistory sampleSigners sampleMixed 8000000000001) rows := by
  have hepoch : epochHistory sampleSigners sampleMixed 8000000000001
      = [sampleVerified sampleFirst 1048576, sampleVerified sampleDearer 2097152] := by
    rw [epochHistory, sampleMixed_history, List.filter_cons_of_pos (by rfl),
      List.filter_cons_of_pos (by rfl), List.filter_nil]
  obtain ⟨rows, hload, -⟩ := loadEpochReceipts_ok (Lane.stored_run sampleSigners sampleMixed)
    (by decide : (8000000000001 : Word 64).val < 2 ^ 63)
  have hperm : rows.Perm [sampleCheapRow, sampleDearRow] := by
    have h := loaded_perm hload
    rwa [hepoch] at h
  obtain ⟨hsessions, hdearLast, hdearFirst⟩ := sampleMixedTotals
  refine ⟨sampleMixed_history, hsessions, hdearLast, hdearFirst, rows, hload, hperm,
    fun hfree => ?_, fun hvalued => ?_⟩
  · have hlast := (hfree _ _ _ _ _ _ hperm (List.Perm.refl _)).mpr hdearLast
    have hfirst := (hfree _ _ _ _ _ _ (hperm.trans (List.Perm.swap _ _ _)) (List.Perm.refl _)).mpr
      hdearFirst
    rw [hlast] at hfirst
    have hgross := congrArg (List.map OperatorEpochTotal.grossGoatWei) (Except.ok.inj hfirst)
    exact absurd hgross (by decide)
  · rw [hepoch] at hvalued
    have hgross := hvalued _ _ _ _ _ hperm hdearLast _ (List.mem_singleton_self _)
      (fun _ => sampleVerified sampleFirst 1048576) fun s hs => by
        rw [List.mem_singleton.mp hs]
        exact ⟨List.mem_cons_self, rfl⟩
    exact absurd hgross (by decide +kernel)

end GoatCoin.Attestor
