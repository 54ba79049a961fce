/-
# `GoatCoin.Attestor.SessionCeiling` — the ceiling of an intent and the bytes of its session

The intent's `max_bytes` is the ceiling the session may not exceed.  Stage 6 holds it against the
bytes of the one chunk it looks at, and nothing adds up the chunks of a session: neither the stages,
nor the store, nor the folds.  So the ceiling is kept along a run exactly if the store happens to
take only chunks that fit under it:

    Ceiling        every intent of what was taken covers all the bytes of its session
    UnderCeiling   what is about to be taken fits, with what was taken before it

`ceiling_iff` is the guard rule at this pair.  The sample is a session of 10 MiB and one byte under
a ceiling of 10 MiB; its two chunks are stored only if their content hashes differ, so these are
worked out from the text of a receipt.
-/
import GoatCoin.Attestor.StoreRuns

namespace GoatCoin.Attestor

open Evm

/-! ## What the store takes -/

/-- A lane with what its store took so far. -/
structure Ledger where
  lane : Lane
  taken : List VerifiedReceipt

namespace Ledger

variable (e : Secp256k1)

def start : Ledger := ⟨.start, []⟩

def step (s : Ledger) (k : LaneAction) : Ledger :=
  ⟨s.lane.step e k, s.taken ++ (s.lane.stored? k).toList⟩

/-- The bytes of a session. -/
def sessionBytes (taken : List VerifiedReceipt) (session : Bytes32) : Nat :=
  ((taken.filter (·.receipt.sessionId = session)).map (·.receipt.bytesTransferred.val)).sum

/-- No session is over the ceiling of an intent it was verified against. -/
def Ceiling (s : Ledger) : Prop :=
  ∀ v ∈ s.taken, sessionBytes s.taken v.receipt.sessionId ≤ v.intent.maxBytes.val

/-- The store takes a receipt: it was verified, it fits its columns, and its keys are new. -/
def Takes (s : Ledger) (v : VerifiedReceipt) : LaneAction → Prop
  | .insert index recordedAtUnix fault =>
      s.lane.pool[index]? = some v ∧ fault = none
        ∧ ∃ intent row, rowsOf v recordedAtUnix = .ok (intent, row)
          ∧ row.receiptHashHex ∉ s.lane.db.receipts.map (·.receiptHashHex)
          ∧ row.chunkKey ∉ s.lane.db.receipts.map (·.chunkKey)
          ∧ row.counterKey ∉ s.lane.db.receipts.map (·.counterKey)
  | _ => False

/-- What is taken fits under its own intent, and under those its session was verified against. -/
def UnderCeiling (s : Ledger) (k : LaneAction) : Prop :=
  ∀ v, s.Takes v k → ∀ w ∈ v :: s.taken, w.receipt.sessionId = v.receipt.sessionId →
    sessionBytes s.taken v.receipt.sessionId + v.receipt.bytesTransferred.val
    ≤ w.intent.maxBytes.val

/-! ## The guard -/

theorem sessionBytes_concat (taken : List VerifiedReceipt) (v : VerifiedReceipt)
    (session : Bytes32) :
    sessionBytes (taken ++ [v]) session = sessionBytes taken session
      + if v.receipt.sessionId = session then v.receipt.bytesTransferred.val else 0 := by
  rw [sessionBytes, List.filter_append, List.map_append, List.sum_append, ← sessionBytes]
  by_cases hsession : v.receipt.sessionId = session
  · rw [if_pos hsession, List.filter_cons_of_pos (by simpa using hsession)]
    simp
  · rw [if_neg hsession, List.filter_cons_of_neg (by simpa using hsession)]
    simp

variable {s : Ledger} {v : VerifiedReceipt}

theorem stored?_iff (hkept : s.lane.Kept s.taken) (k : LaneAction) (v : VerifiedReceipt) :
    s.lane.stored? k = some v ↔ s.Takes v k := by
  cases k with
  | verify bundle ctx => exact ⟨nofun, False.elim⟩
  | upsertMeter row fault => exact ⟨nofun, False.elim⟩
  | recordTotals totals fault => exact ⟨nofun, False.elim⟩
  | insert index recordedAtUnix fault =>
      constructor
      · intro h
        rw [Lane.stored?] at h
        cases hpool : s.lane.pool[index]? with
        | none =>
            rw [hpool] at h
            cases h
        | some w =>
            rcases s.lane.db.insertVerifiedReceipt_cases w recordedAtUnix fault with
              ⟨err, hinsert⟩ | ⟨db, hfault, hstores, hinsert⟩
            · simp only [hpool, hinsert] at h
              cases h
            · simp only [hpool, hinsert] at h
              cases h
              obtain ⟨intent, row, hrows, -, hhash, hchunk, hcounter, -⟩ := hstores.row
              exact ⟨hpool, hfault, intent, row, hrows, hhash, hchunk, hcounter⟩
      · rintro ⟨hpool, rfl, intent, row, hrows, hhash, hchunk, hcounter⟩
        have hv := hkept.pool v (List.mem_of_getElem? hpool)
        have hinsert := s.lane.db.insertVerifiedReceipt_ok hv hrows hhash hchunk hcounter
        simp only [Lane.stored?, hpool, hinsert]

/-- What one more receipt asks of the ceilings. -/
theorem ceiling_concat_iff {taken : List VerifiedReceipt} (v : VerifiedReceipt)
    (h : ∀ w ∈ taken, sessionBytes taken w.receipt.sessionId ≤ w.intent.maxBytes.val) :
    (∀ w ∈ taken ++ [v], sessionBytes (taken ++ [v]) w.receipt.sessionId ≤ w.intent.maxBytes.val)
      ↔ ∀ w ∈ v :: taken, w.receipt.sessionId = v.receipt.sessionId →
        sessionBytes taken v.receipt.sessionId + v.receipt.bytesTransferred.val
          ≤ w.intent.maxBytes.val := by
  constructor
  · intro hall w hw hsession
    have hmem : w ∈ taken ++ [v] := by
      rcases List.mem_cons.mp hw with rfl | hw
      · exact List.mem_append_right _ (List.mem_singleton.mpr rfl)
      · exact List.mem_append_left _ hw
    have hw := hall w hmem
    rwa [sessionBytes_concat, if_pos hsession.symm, hsession] at hw
  · intro hfits w hw
    rw [sessionBytes_concat]
    by_cases hsession : v.receipt.sessionId = w.receipt.sessionId
    · rw [if_pos hsession, ← hsession]
      refine hfits w ?_ hsession.symm
      rcases List.mem_append.mp hw with hw | hw
      · exact List.mem_cons_of_mem v hw
      · exact List.mem_cons.mpr (.inl (List.mem_singleton.mp hw))
    · rw [if_neg hsession, Nat.add_zero]
      rcases List.mem_append.mp hw with hw | hw
      · exact h w hw
      · exact absurd (congrArg (·.receipt.sessionId) (List.mem_singleton.mp hw)).symm hsession

theorem foldl_step (ks : List LaneAction) : ∀ s : Ledger,
    ks.foldl (step e) s = ⟨ks.foldl (Lane.step e) s.lane, s.taken ++ s.lane.historyFrom e ks⟩ := by
  induction ks with
  | nil => intro s; rw [List.foldl_nil, List.foldl_nil, Lane.historyFrom, List.append_nil]
  | cons k ks ih =>
      intro s
      rw [List.foldl_cons, ih, List.foldl_cons, Lane.historyFrom, step, List.append_assoc]

theorem taken_eq (ks : List LaneAction) : (ks.foldl (step e) start).taken = Lane.history e ks := by
  rw [foldl_step]
  rfl

theorem kept_step (h : s.lane.Kept s.taken) (k : LaneAction) :
    (s.step e k).lane.Kept (s.step e k).taken :=
  h.step (s.lane.act_steps e k).1

theorem ceiling_step_iff (hkept : s.lane.Kept s.taken) (h : s.Ceiling) (k : LaneAction) :
    (s.step e k).Ceiling ↔ s.UnderCeiling k := by
  cases hstored : s.lane.stored? k with
  | none =>
      have hsame : (s.step e k).taken = s.taken := by
        rw [step, hstored, Option.toList_none, List.append_nil]
      refine ⟨fun _ v hv => ?_, fun _ => ?_⟩
      · rw [(stored?_iff hkept k v).mpr hv] at hstored
        cases hstored
      · rw [Ceiling, hsame]
        exact h
  | some v =>
      have hmore : (s.step e k).taken = s.taken ++ [v] := by
        rw [step, hstored, Option.toList_some]
      have honly : ∀ w, s.Takes w k ↔ w = v := by
        intro w
        rw [← stored?_iff hkept, hstored, Option.some.injEq]
        exact eq_comm
      rw [Ceiling, hmore, ceiling_concat_iff v h]
      simp only [UnderCeiling, honly, forall_eq]

/-- **The ceiling is kept all along a run exactly if everything the store takes fits under it.** -/
theorem ceiling_iff (ks : List LaneAction) :
    Runs.Throughout (step e) Ceiling start ks ↔ Runs.Guarded (step e) UnderCeiling start ks := by
  -- What every run keeps is added to the law, and it costs the law nothing.
  have hkept : ∀ before : List LaneAction,
      (before.foldl (step e) start).lane.Kept (before.foldl (step e) start).taken := by
    intro before
    rw [foldl_step]
    exact Lane.kept_run e before
  have hrule :=
    @Runs.guarded_iff _ _ (step e) (fun s => s.lane.Kept s.taken ∧ s.Ceiling) UnderCeiling
    (fun s k hs => by rw [and_iff_right (kept_step e hs.1 k), ceiling_step_iff e hs.1 hs.2 k])
    start ⟨Lane.kept_start, fun v hv => absurd hv List.not_mem_nil⟩ ks
  rw [← hrule]
  exact ⟨fun h before hbefore => ⟨hkept before, h before hbefore⟩,
    fun h before hbefore => (h before hbefore).2⟩

/-! ## Two chunks -/

theorem step_verify {bundle : ProxyReceiptBundle} {ctx : VerifyContext}
    (h : verifyReceiptBundle e bundle ctx = .ok v) :
    s.step e (.verify bundle ctx) = ⟨{ s.lane with pool := s.lane.pool ++ [v] }, s.taken⟩ := by
  have hstored : s.lane.stored? (.verify bundle ctx) = none := rfl
  rw [step, Lane.step_verify e h, hstored, Option.toList_none, List.append_nil]

theorem step_insert {index : Nat} {recordedAtUnix : Word 64}
    {db : ProxyDb} (hpool : s.lane.pool[index]? = some v)
    (h : s.lane.db.insertVerifiedReceipt v recordedAtUnix none = (.ok (), db)) :
    s.step e (.insert index recordedAtUnix none) = ⟨{ s.lane with db := db }, s.taken ++ [v]⟩ := by
  have hstored : s.lane.stored? (.insert index recordedAtUnix none) = some v := by
    simp only [Lane.stored?, hpool, h]
  rw [step, Lane.step_insert e hpool h, hstored, Option.toList_some]

/-- Both bundles are verified, then both are stored. -/
def storesTwo (first second : ProxyReceiptBundle) (ctx : VerifyContext) (now : Word 64) :
    List LaneAction :=
  [.verify first ctx, .verify second ctx, .insert 0 now none, .insert 1 now none]

theorem storesTwo_takes {first second : ProxyReceiptBundle} {ctx : VerifyContext} {now : Word 64}
    {w : VerifiedReceipt} (hv : verifyReceiptBundle e first ctx = .ok v)
    (hw : verifyReceiptBundle e second ctx = .ok w) (hrows : ∃ i row, rowsOf v now = .ok (i, row))
    (hrows' : ∃ i row, rowsOf w now = .ok (i, row)) (hhash : w.receiptHash ≠ v.receiptHash)
    (hchunk : w.receipt.chunkSeq ≠ v.receipt.chunkSeq)
    (hcounter : w.receipt.counter ≠ v.receipt.counter) :
    ((storesTwo first second ctx now).foldl (step e) start).taken = [v, w] := by
  obtain ⟨i, row, hrows⟩ := hrows
  obtain ⟨i', row', hrows'⟩ := hrows'
  have hrow := (rowsOf_ok hrows).2
  have hrow' := (rowsOf_ok hrows').2
  have hinsert := ProxyDb.empty.insertVerifiedReceipt_ok (verified_of_verify hv) hrows
    List.not_mem_nil List.not_mem_nil List.not_mem_nil
  have hinsert' := ProxyDb.insertVerifiedReceipt_ok
    ⟨(ProxyDb.empty.insertOrIgnoreIntent i).intents, [row], [], []⟩ (verified_of_verify hw) hrows'
    (by
      rw [List.map_singleton, List.mem_singleton, hrow.receiptHash, hrow'.receiptHash]
      exact fun h => hhash (Fin.ext (hexOf_inj w.receiptHash.isLt v.receiptHash.isLt h)))
    (by
      rw [List.map_singleton, List.mem_singleton, ReceiptRow.chunkKey, ReceiptRow.chunkKey,
        hrow.chunkSeq, hrow'.chunkSeq, Prod.mk.injEq, Int.ofNat_inj]
      exact fun h => hchunk (Fin.ext h.2))
    (by
      rw [List.map_singleton, List.mem_singleton, ReceiptRow.counterKey, ReceiptRow.counterKey,
        hrow.counter, hrow'.counter, Prod.mk.injEq, Prod.mk.injEq, Int.ofNat_inj]
      exact fun h => hcounter (Fin.ext h.2.2))
  rw [storesTwo, List.foldl_cons, step_verify e hv, List.foldl_cons, step_verify e hw,
    List.foldl_cons,
    step_insert e (by rfl) hinsert, List.foldl_cons, step_insert e (by rfl) hinsert',
    List.foldl_nil]
  rfl

end Ledger

/-! ## The text of a receipt -/

/-- Members by the text of their values. -/
def memberTexts (first : Bool) : List (String × List Char) → List Char
  | [] => []
  | (key, text) :: members =>
      (if first then [] else [',']) ++ quote key ++ ':' :: text ++ memberTexts false members

theorem writeMembers_eq (members : List (String × JsonValue)) : ∀ first : Bool,
    writeMembers first members = memberTexts first (members.map fun e => (e.1, write e.2)) := by
  induction members with
  | nil => intro first; rw [writeMembers, List.map_nil, memberTexts]
  | cons e members ih => intro first; rw [writeMembers, List.map_cons, memberTexts, ih]

/-- The members of a receipt, in the order of their keys. -/
def BytesTransferredReceipt.texts (r : BytesTransferredReceipt) : List (String × List Char) :=
  [ ("allowlist_entry_id", quoteDecimal r.allowlistEntryId),
    ("allowlist_manifest_digest", quoteHex 32 r.allowlistManifestDigest),
    ("bytes_transferred", quoteDecimal r.bytesTransferred),
    ("chunk_kind", quote r.chunkKind.asToken),
    ("chunk_seq", quoteDecimal r.chunkSeq),
    ("consent_record_hash", quoteHex 32 r.consentRecordHash),
    ("consumer_id", quoteHex 32 r.consumerId),
    ("counter", quoteDecimal r.counter),
    ("epoch_id", quoteDecimal r.epochId),
    ("gateway_id", quoteHex 32 r.gatewayId),
    ("intent_hash", quoteHex 32 r.intentHash),
    ("operator_wallet", quoteHex 20 r.operatorWallet),
    ("price_goat_wei_per_mebibyte", quoteDecimal r.priceGoatWeiPerMebibyte),
    ("session_id", quoteHex 32 r.sessionId),
    ("valid_from_unix", quoteDecimal r.validFromUnix),
    ("valid_to_unix", quoteDecimal r.validToUnix) ]

theorem BytesTransferredReceipt.write_canonicalValue (r : BytesTransferredReceipt) :
    write r.canonicalValue.val = '{' :: memberTexts true r.texts ++ ['}'] := by
  have hentries : ∀ a b c d e f g h i j k l m n o p : Json, (SortedMap.ofList
      [ ("epoch_id", a), ("session_id", b), ("chunk_seq", c), ("chunk_kind", d),
        ("operator_wallet", e), ("consumer_id", f), ("gateway_id", g), ("allowlist_entry_id", h),
        ("allowlist_manifest_digest", i), ("bytes_transferred", j), ("counter", k),
        ("intent_hash", l), ("consent_record_hash", m), ("valid_from_unix", n),
        ("valid_to_unix", o), ("price_goat_wei_per_mebibyte", p) ]).entries
      = [ ("allowlist_entry_id", h), ("allowlist_manifest_digest", i), ("bytes_transferred", j),
          ("chunk_kind", d), ("chunk_seq", c), ("consent_record_hash", m), ("consumer_id", f),
          ("counter", k), ("epoch_id", a), ("gateway_id", g), ("intent_hash", l),
          ("operator_wallet", e), ("price_goat_wei_per_mebibyte", p), ("session_id", b),
          ("valid_from_unix", n), ("valid_to_unix", o) ] := by
    intro a b c d e f g h i j k l m n o p
    refine SortedMap.entries_ofList ?_ ?_
    · exact (by decide : (List.range 16).Perm
          [7, 8, 9, 3, 2, 12, 5, 10, 0, 6, 11, 4, 15, 1, 13, 14]).map fun q =>
        [ ("epoch_id", a), ("session_id", b), ("chunk_seq", c), ("chunk_kind", d),
          ("operator_wallet", e), ("consumer_id", f), ("gateway_id", g), ("allowlist_entry_id", h),
          ("allowlist_manifest_digest", i), ("bytes_transferred", j), ("counter", k),
          ("intent_hash", l), ("consent_record_hash", m), ("valid_from_unix", n),
          ("valid_to_unix", o), ("price_goat_wei_per_mebibyte", p) ].getD q ("", .null)
    · show ["allowlist_entry_id", "allowlist_manifest_digest", "bytes_transferred", "chunk_kind",
        "chunk_seq", "consent_record_hash", "consumer_id", "counter", "epoch_id", "gateway_id",
        "intent_hash", "operator_wallet", "price_goat_wei_per_mebibyte", "session_id",
        "valid_from_unix", "valid_to_unix"].Pairwise (· < ·)
      decide
  rw [canonicalValue, Json.ofMembers_val, hentries, write, writeMembers_eq]
  simp only [List.map_cons, List.map_nil, write, decimal, Json.string, texts, hex32, hex20,
    ← quote_decimal, ← quote_hex]

/-! ## A session of 10 MiB and a byte -/

/-- The last chunk of the session, of one byte. -/
def sampleLast : BytesTransferredReceipt := sampleReceipt 1 .final 1 1048576 sampleIntentHash

theorem sampleLast_verify : verifyReceiptBundle sampleSigners (sampleBundle sampleLast 1048576)
    sampleContext = .ok (sampleVerified sampleLast 1048576) :=
  sample_verify (And.left sampleIntent_hashes) (by decide) (by decide) rfl (by decide)

/-- The last chunk again, verified against the dearer intent. -/
def sampleDearer : BytesTransferredReceipt := sampleReceipt 1 .final 1 2097152 sampleDearerHash

/-- The content hashes of the three chunks. -/
structure SampleReceiptHashes : Prop where
  first : (sampleVerified sampleFirst 1048576).receiptHash
    = 0x212bc16d91d2d762589d9ea4f0ef809a0e084490521db45026289656d4c44c1d
  last : (sampleVerified sampleLast 1048576).receiptHash
    = 0x4da7eeac6d057894d5286c7ec5bc7d30b8c6e4a3335b5246b7738d03498b3671
  dearer : (sampleVerified sampleDearer 2097152).receiptHash
    = 0x2a8a3907f9a70b921013f7bea381e928ebb7b99b99d3fbac71ae32e024bc3480

theorem sampleReceiptHashes : SampleReceiptHashes := by
  have htext : ∀ r : BytesTransferredReceipt, memberTexts true r.texts = _ := fun r => by
    simp only [BytesTransferredReceipt.texts, memberTexts, quoteDecimal, quoteHex,
      escape_eq_escapeN]
    repeat rewrite [quote_ofList]
    rfl
  have hhash : ∀ r price, (sampleVerified r price).receiptHash
      = keccak256 (utf8 (write r.canonicalValue.val)) := fun _ _ => rfl
  refine ⟨?_, ?_, ?_⟩
  · rw [hhash, BytesTransferredReceipt.write_canonicalValue, htext, keccak256_eval]
    decide +kernel
  · rw [hhash, BytesTransferredReceipt.write_canonicalValue, htext, keccak256_eval]
    decide +kernel
  · rw [hhash, BytesTransferredReceipt.write_canonicalValue, htext, keccak256_eval]
    decide +kernel

/-- The session, chunk after chunk. -/
def sampleOver : List LaneAction :=
  Ledger.storesTwo (sampleBundle sampleFirst 1048576) (sampleBundle sampleLast 1048576)
    sampleContext 150

theorem sampleOver_taken : (sampleOver.foldl (Ledger.step sampleSigners) .start).taken
    = [sampleVerified sampleFirst 1048576, sampleVerified sampleLast 1048576] := by
  have hhashes := sampleReceiptHashes
  exact Ledger.storesTwo_takes sampleSigners sampleFirst_verify sampleLast_verify
    ⟨_, _, rfl⟩ ⟨_, _, rfl⟩ (by rw [hhashes.first, hhashes.last]; decide)
    (by exact (by decide : (1 : Word 64) ≠ 0)) (by exact (by decide : (1 : Word 64) ≠ 0))

/-- Both chunks of the session are taken, and it is over its ceiling. -/
theorem sampleOver_exceeds :
    (sampleOver.foldl (Ledger.step sampleSigners) .start).taken
        = [sampleVerified sampleFirst 1048576, sampleVerified sampleLast 1048576]
      ∧ Ledger.sessionBytes (sampleOver.foldl (Ledger.step sampleSigners) .start).taken 5 = 10485761
      ∧ (sampleIntent 1048576).maxBytes.val = 10485760
      ∧ ¬ (sampleOver.foldl (Ledger.step sampleSigners) .start).Ceiling := by
  have hbytes : Ledger.sessionBytes
      [sampleVerified sampleFirst 1048576, sampleVerified sampleLast 1048576] 5 = 10485761 := rfl
  refine ⟨sampleOver_taken, by rw [sampleOver_taken, hbytes], rfl, fun h => ?_⟩
  rw [Ledger.Ceiling, sampleOver_taken] at h
  have hfirst : Ledger.sessionBytes
      [sampleVerified sampleFirst 1048576, sampleVerified sampleLast 1048576] 5 ≤ 10485760 :=
    h (sampleVerified sampleFirst 1048576) List.mem_cons_self
  rw [hbytes] at hfirst
  exact absurd hfirst (by decide)

end GoatCoin.Attestor
