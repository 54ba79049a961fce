/-
# `GoatCoin.Attestor.Digests` — what the digests of the proxy lane determine

What is hashed is one word for each field, so words that are equal are fields that are equal.  Four
words are hashes themselves, and there it is a matter of `keccak256`: the type, the kind of a chunk,
the schema of a meter record and its sessions.

    receipt, intent, witness   equal bytes, equal values
    meter                      equal bytes, equal up to the order of the sessions

The sessions are sorted by their id before they are written, and the sort is stable: the order they
came in is gone where the ids differ, and is seen where two of them are the same.
-/
import GoatCoin.Attestor.Receipt

namespace GoatCoin.Attestor

open Evm Wire

/-! ## Texts -/

theorem toByteList_injective : Function.Injective ByteArray.toList := by
  intro a b h
  rw [Utf8.toList_eq, Utf8.toList_eq] at h
  exact ByteArray.ext (Array.toList_inj.mp h)

/-- The bytes of a text, as they are hashed. -/
def textBytes (text : String) : List UInt8 := text.toUTF8.toList

theorem textBytes_injective : Function.Injective textBytes := by
  intro a b h
  exact String.toByteArray_inj.mp (toByteList_injective h)

variable {m n : Nat} {messages : Set (List UInt8)}

theorem toBE_inj {k : Nat} (hm : m < 256 ^ k) (hn : n < 256 ^ k) (h : toBE k m = toBE k n) :
    m = n :=
  toLE_inj hm hn (List.reverse_injective h)

theorem hexOf_inj {k : Nat} (hm : m < 256 ^ k) (hn : n < 256 ^ k) (h : hexOf k m = hexOf k n) :
    m = n :=
  toBE_inj hm hn (Hex.encode_injective (String.ofList_injective h))

theorem toString_nat_inj (h : toString m = toString n) : m = n := by
  have hdigits : Nat.toDigits 10 m = Nat.toDigits 10 n := by
    rw [Nat.toString_eq_ofList_toDigits, Nat.toString_eq_ofList_toDigits] at h
    exact String.ofList_injective h
  have hread := congrArg (fun ds => Nat.ofDigitChars 10 ds 0) hdigits
  rwa [Nat.ofDigitChars_ten_toDigits, Nat.ofDigitChars_ten_toDigits] at hread

/-- A number between quotation marks, by its digits. -/
def quoteDecimal (n : Nat) : List Char := '"' :: (Nat.toDigits 10 n).flatMap escape ++ ['"']

/-- An identifier between quotation marks, by its digits. -/
def quoteHex (k n : Nat) : List Char :=
  '"' :: ('0' :: 'x' :: Hex.encode (toBE k n)).flatMap escape ++ ['"']

theorem quote_decimal (n : Nat) : quote (toString n) = quoteDecimal n := by
  rw [quote, Nat.toString_eq_ofList_toDigits, String.toList_ofList, quoteDecimal]

theorem quote_hex (k n : Nat) : quote ("0x" ++ hexOf k n) = quoteHex k n := by
  have hmark : "0x".toList = ['0', 'x'] := by decide
  rw [quote, String.toList_append, hmark, hexOf, String.toList_ofList, quoteHex]
  rfl

/-- `escape`, with the characters that stand for themselves asked for first. -/
def escapeN (c : Char) : List Char :=
  if Nat.ble 35 c.toNat && !Nat.beq c.toNat 92 then [c] else escape c

theorem escape_eq_escapeN : escape = escapeN := by
  funext c
  unfold escapeN
  split
  · rename_i h
    obtain ⟨hlow, hslash⟩ := Bool.and_eq_true_iff.mp h
    have hlow : 35 ≤ c.toNat := Nat.le_of_ble_eq_true hlow
    have hslash : c.toNat ≠ 92 := by
      intro heq
      simp [heq] at hslash
    have hne : ∀ d : Char, d.toNat < 35 ∨ d.toNat = 92 → c ≠ d := by
      intro d hd heq
      subst heq
      omega
    rw [escape, if_neg (hne _ (by decide)), if_neg (hne _ (by decide)), if_neg (hne _ (by decide)),
      if_neg (hne _ (by decide)), if_neg (hne _ (by decide)), if_neg (hne _ (by decide)),
      if_neg (hne _ (by decide)), if_neg (by omega)]
  · rfl

theorem quote_ofList (text : List Char) :
    quote (String.ofList text) = '"' :: text.flatMap escapeN ++ ['"'] := by
  rw [quote, String.toList_ofList, escape_eq_escapeN]

/-! ## Values with members -/

namespace Json

theorem string_injective : Function.Injective Json.string := by
  intro a b h
  have hval := congrArg Subtype.val h
  exact JsonValue.string.inj hval

theorem array_injective : Function.Injective Json.array := by
  intro a b h
  have hval := JsonValue.array.inj (congrArg Subtype.val h)
  exact Subtype.val_injective.list_map hval

theorem object_injective : Function.Injective Json.object := by
  intro m n h
  have hval := JsonValue.object.inj (congrArg Subtype.val h)
  have hinj : Function.Injective fun e : String × Json => (e.1, e.2.val) := by
    intro e f hef
    exact Prod.ext (Prod.mk.inj hef).1 (Subtype.ext (Prod.mk.inj hef).2)
  have hentries := hinj.list_map hval
  obtain ⟨l, hl⟩ := m
  obtain ⟨l', hl'⟩ := n
  cases hentries
  rfl

end Json

theorem decimal_inj (h : decimal m = decimal n) : m = n :=
  toString_nat_inj (Json.string_injective h)

namespace GatewayMeterCommitment

theorem sessionValue_eq {s t : GatewayMeterSession} (h : sessionValue s = sessionValue t) :
    Json.string ("0x" ++ hexOf 32 s.sessionId.val) = Json.string ("0x" ++ hexOf 32 t.sessionId.val)
      ∧ Json.string ("0x" ++ hexOf 20 s.operator.val)
        = Json.string ("0x" ++ hexOf 20 t.operator.val)
      ∧ decimal s.totalBytes = decimal t.totalBytes
      ∧ decimal s.chunkCount = decimal t.chunkCount := by
  have hmembers := Json.object_injective h
  have hid := congrArg (SortedMap.get? · "sessionId") hmembers
  have hoperator := congrArg (SortedMap.get? · "operator") hmembers
  have hbytes := congrArg (SortedMap.get? · "totalBytes") hmembers
  have hcount := congrArg (SortedMap.get? · "chunkCount") hmembers
  simp only [SortedMap.get?_ofList] at hid hoperator hbytes hcount
  exact ⟨Option.some.inj hid, Option.some.inj hoperator, Option.some.inj hbytes,
    Option.some.inj hcount⟩

theorem sessionValue_injective : Function.Injective sessionValue := by
  intro s t h
  obtain ⟨hid, hoperator, hbytes, hcount⟩ := sessionValue_eq h
  have hid' := hexOf_inj s.sessionId.isLt t.sessionId.isLt
    (String.append_right_inj _ |>.mp (Json.string_injective hid))
  have hoperator' := hexOf_inj s.operator.isLt t.operator.isLt
    (String.append_right_inj _ |>.mp (Json.string_injective hoperator))
  have hbytes' := decimal_inj hbytes
  have hcount' := decimal_inj hcount
  cases s
  cases t
  simp only [GatewayMeterSession.mk.injEq]
  exact ⟨Fin.ext hid', Fin.ext hoperator', Fin.ext hbytes', Fin.ext hcount'⟩

/-- The text of a session, by its characters. -/
def sessionText (s : GatewayMeterSession) : List Char :=
  '{' :: quote "chunkCount" ++ ':' :: quoteDecimal s.chunkCount ++ ',' :: quote "operator"
    ++ ':' :: quoteHex 20 s.operator ++ ',' :: quote "sessionId" ++ ':' :: quoteHex 32 s.sessionId
    ++ ',' :: quote "totalBytes" ++ ':' :: quoteDecimal s.totalBytes ++ ['}']

theorem write_sessionValue (s : GatewayMeterSession) :
    write (sessionValue s).val = sessionText s := by
  have hentries : ∀ a b c d : Json, (SortedMap.ofList [("sessionId", a), ("operator", b),
      ("totalBytes", c), ("chunkCount", d)]).entries = [("chunkCount", d), ("operator", b),
        ("sessionId", a), ("totalBytes", c)] := by
    intro a b c d
    refine SortedMap.entries_ofList ?_ ?_
    · exact (by decide : [0, 1, 2, 3].Perm [3, 1, 0, 2]).map fun i =>
        [("sessionId", a), ("operator", b), ("totalBytes", c), ("chunkCount", d)].getD i ("", .null)
    · show ["chunkCount", "operator", "sessionId", "totalBytes"].Pairwise (· < ·)
      decide
  rw [sessionValue, Json.ofMembers_val, hentries]
  simp only [List.map_cons, List.map_nil, write, writeMembers, decimal, Json.string, sessionText,
    ← quote_decimal, ← quote_hex, List.append_assoc, List.cons_append, List.nil_append, if_true,
    if_false, Bool.false_eq_true, List.append_nil]

/-! ## The sessions of a meter record -/

/-- The canonical bytes of the sessions. -/
def sessionsBytes (c : GatewayMeterCommitment) : List UInt8 :=
  utf8 (write (Json.array (c.sortedSessions.map sessionValue)).val)

theorem validate_sessionValue (s : GatewayMeterSession) (path : String) :
    validate (sessionValue s).val path = .ok () := by
  refine validate_ofMembers (fun e he => ?_) path
  simp only [List.mem_cons, List.not_mem_nil, or_false] at he
  rcases he with rfl | rfl | rfl | rfl
  all_goals exact ⟨by dsimp only; decide, fun q => rfl⟩

theorem validate_sessions (c : GatewayMeterCommitment) (path : String) :
    validate (Json.array (c.sortedSessions.map sessionValue)).val path = .ok () := by
  refine validate_array (fun v hv q => ?_) path
  obtain ⟨s, -, rfl⟩ := List.mem_map.mp hv
  exact validate_sessionValue s q

theorem sessionsHash_eq (c : GatewayMeterCommitment) :
    c.sessionsHash = .ok (keccak256 c.sessionsBytes) := by
  have hmember : (c.members.get? "sessions").getD .null
      = Json.array (c.sortedSessions.map sessionValue) := by
    rw [members, SortedMap.get?_ofList]
    rfl
  rw [sessionsHash, hmember, canonicalHash_ok (validate_sessions c "$")]
  rfl

/-- The words behind the type. -/
def fields (c : GatewayMeterCommitment) : List Nat :=
  [ (keccakText meterSchemaV1).val, c.epochId.val, c.gatewayId.val, (keccak256 c.sessionsBytes).val,
    c.totalBytes.val ]

theorem structBytes_eq (c : GatewayMeterCommitment) :
    c.structBytes = .ok (Attestor.structBytes meterTypehashStr c.fields) := by
  rw [structBytes, sessionsHash_eq]
  rfl

theorem meterStructHash_eq (c : GatewayMeterCommitment) :
    c.meterStructHash = .ok (keccak256 (Attestor.structBytes meterTypehashStr c.fields)) := by
  rw [meterStructHash, structBytes_eq]
  rfl

theorem perm_of_sessionsBytes {c c' : GatewayMeterCommitment}
    (h : c.sessionsBytes = c'.sessionsBytes) : c.sessions.Perm c'.sessions := by
  have htext := utf8_injective h
  have hempty : write (Json.array (c.sortedSessions.map sessionValue)).val ++ []
      = write (Json.array (c'.sortedSessions.map sessionValue)).val ++ [] := by rw [htext]
  have hvalue := (write_inj (validate_sessions c "$") (validate_sessions c' "$") hempty).1
  have hsorted := sessionValue_injective.list_map (Json.array_injective (Subtype.ext hvalue))
  have hperm : c.sortedSessions.Perm c.sessions := List.mergeSort_perm _ _
  have hperm' : c'.sortedSessions.Perm c'.sessions := List.mergeSort_perm _ _
  exact hperm.symm.trans (hsorted ▸ hperm')

theorem sortedSessions_pairwise (c : GatewayMeterCommitment) :
    c.sortedSessions.Pairwise fun a b => a.sessionId ≤ b.sessionId := by
  have hsorted := @List.pairwise_mergeSort _ (fun a b => decide (a.sessionId ≤ b.sessionId))
    (fun a b d hab hbd => by
      simp only [decide_eq_true_eq] at hab hbd ⊢
      exact hab.trans hbd)
    (fun a b => by
      simp only [Bool.or_eq_true, decide_eq_true_eq]
      exact le_total _ _) c.sessions
  exact hsorted.imp fun h => of_decide_eq_true h

theorem sortedSessions_of_perm {c c' : GatewayMeterCommitment} (hperm : c.sessions.Perm c'.sessions)
    (hnodup : (c.sessions.map (·.sessionId)).Nodup) : c.sortedSessions = c'.sortedSessions := by
  have hperm₁ : c.sortedSessions.Perm c.sessions := List.mergeSort_perm _ _
  have hperm₂ : c'.sortedSessions.Perm c'.sessions := List.mergeSort_perm _ _
  refine List.Perm.eq_of_pairwise (fun a b ha hb hab hba => ?_) c.sortedSessions_pairwise
    c'.sortedSessions_pairwise (hperm₁.trans (hperm.trans hperm₂.symm))
  have ha' := hperm₁.subset ha
  have hb' := hperm.symm.subset (hperm₂.subset hb)
  exact List.inj_on_of_nodup_map hnodup ha' hb' (le_antisymm hab hba)

end GatewayMeterCommitment

/-! ## What a digest is of -/

/-- What one of the parties signs. -/
inductive Signed where
  | receipt (r : BytesTransferredReceipt)
  | intent (i : ProxySessionIntent)
  | witness (w : GatewayWitness)
  | meter (c : GatewayMeterCommitment)

namespace Signed

/-- The bytes its struct hash is of. -/
def structBytes : Signed → Except MeterError (List UInt8)
  | receipt r => .ok (Attestor.structBytes receiptTypehashStr r.fields)
  | intent i => .ok (Attestor.structBytes intentTypehashStr i.fields)
  | witness w => .ok (Attestor.structBytes witnessTypehashStr w.fields)
  | meter c => c.structBytes

/-- What is hashed into the words of these bytes. -/
def hashed : Signed → Set (List UInt8)
  | receipt r => {textBytes receiptTypehashStr, textBytes r.chunkKind.asToken}
  | intent _ => {textBytes intentTypehashStr}
  | witness _ => {textBytes witnessTypehashStr}
  | meter c => {textBytes meterTypehashStr, textBytes meterSchemaV1, c.sessionsBytes}

/-- Of one type and equal, but for the order of the sessions of a meter record. -/
def Alike : Signed → Signed → Prop
  | receipt r, receipt r' => r = r'
  | intent i, intent i' => i = i'
  | witness w, witness w' => w = w'
  | meter c, meter c' => c.epochId = c'.epochId ∧ c.gatewayId = c'.gatewayId
      ∧ c.totalBytes = c'.totalBytes ∧ c.sessions.Perm c'.sessions
  | _, _ => False

end Signed

/-- `keccak256` has no collision on the given messages. -/
def CollisionFree (messages : Set (List UInt8)) : Prop := Set.InjOn keccak256 messages

theorem structBytes_inj (hfree : CollisionFree messages)
    {type type' : String} {fields fields' : List Nat} (htype : textBytes type ∈ messages)
    (htype' : textBytes type' ∈ messages) (hfields : ∀ n ∈ fields, n < 2 ^ 256)
    (hfields' : ∀ n ∈ fields', n < 2 ^ 256)
    (h : structBytes type fields = structBytes type' fields') :
    type = type' ∧ fields = fields' := by
  have hwords : ∀ {t : String} {ns : List Nat}, (∀ n ∈ ns, n < 2 ^ 256) →
      ∀ n ∈ (keccakText t).val :: ns, n < 2 ^ 256 := by
    intro t ns hns n hn
    rcases List.mem_cons.mp hn with rfl | hn
    · exact (keccakText t).isLt
    · exact hns n hn
  obtain ⟨hhash, hrest⟩ := List.cons.inj (abiEncode_inj (hwords hfields) (hwords hfields') h)
  exact ⟨textBytes_injective (hfree htype htype' (Fin.ext hhash)), hrest⟩

theorem BytesTransferredReceipt.fields_lt (r : BytesTransferredReceipt) :
    ∀ n ∈ r.fields, n < 2 ^ 256 := by
  unfold fields
  repeat' refine List.forall_mem_cons.mpr ⟨word_lt (by decide) _, ?_⟩
  exact List.forall_mem_nil _

theorem ProxySessionIntent.fields_lt (i : ProxySessionIntent) : ∀ n ∈ i.fields, n < 2 ^ 256 := by
  unfold fields
  repeat' refine List.forall_mem_cons.mpr ⟨word_lt (by decide) _, ?_⟩
  exact List.forall_mem_nil _

theorem GatewayWitness.fields_lt (w : GatewayWitness) : ∀ n ∈ w.fields, n < 2 ^ 256 := by
  unfold fields
  repeat' refine List.forall_mem_cons.mpr ⟨word_lt (by decide) _, ?_⟩
  exact List.forall_mem_nil _

theorem GatewayMeterCommitment.fields_lt (c : GatewayMeterCommitment) :
    ∀ n ∈ c.fields, n < 2 ^ 256 := by
  unfold fields
  repeat' refine List.forall_mem_cons.mpr ⟨word_lt (by decide) _, ?_⟩
  exact List.forall_mem_nil _

theorem ProxySessionIntent.fields_injective : Function.Injective fields := by
  intro i i' h
  simp only [fields, List.cons.injEq, and_true, Fin.val_inj] at h
  cases i
  cases i'
  simp only [ProxySessionIntent.mk.injEq]
  exact h

theorem GatewayWitness.fields_injective : Function.Injective fields := by
  intro w w' h
  simp only [fields, List.cons.injEq, and_true, Fin.val_inj] at h
  cases w
  cases w'
  simp only [GatewayWitness.mk.injEq]
  exact h

theorem ChunkKind.asToken_injective : Function.Injective asToken := by
  intro k k' h
  cases k <;> cases k' <;> first | rfl | exact absurd h (by decide)

theorem BytesTransferredReceipt.eq_of_fields
    (hfree : CollisionFree messages) {r r' : BytesTransferredReceipt}
    (hkind : textBytes r.chunkKind.asToken ∈ messages)
    (hkind' : textBytes r'.chunkKind.asToken ∈ messages) (h : r.fields = r'.fields) : r = r' := by
  simp only [fields, List.cons.injEq, and_true, Fin.val_inj] at h
  obtain ⟨h1, h2, h3, h4, hrest⟩ := h
  have htoken := textBytes_injective (hfree hkind hkind' h4)
  cases r
  cases r'
  simp only [BytesTransferredReceipt.mk.injEq]
  exact ⟨h1, h2, h3, ChunkKind.asToken_injective htoken, hrest⟩

theorem GatewayMeterCommitment.alike_of_fields
    (hfree : CollisionFree messages) {c c' : GatewayMeterCommitment}
    (hsessions : c.sessionsBytes ∈ messages) (hsessions' : c'.sessionsBytes ∈ messages)
    (h : c.fields = c'.fields) : (Signed.meter c).Alike (.meter c') := by
  simp only [fields, List.cons.injEq, and_true, true_and, Fin.val_inj] at h
  obtain ⟨hepoch, hgateway, hhash, hbytes⟩ := h
  exact ⟨hepoch, hgateway, hbytes, perm_of_sessionsBytes (hfree hsessions hsessions' hhash)⟩

namespace Signed

def typehashStr : Signed → String
  | receipt _ => receiptTypehashStr
  | intent _ => intentTypehashStr
  | witness _ => witnessTypehashStr
  | meter _ => meterTypehashStr

def fields : Signed → List Nat
  | receipt r => r.fields
  | intent i => i.fields
  | witness w => w.fields
  | meter c => c.fields

theorem structBytes_eq (a : Signed) :
    a.structBytes = .ok (Attestor.structBytes a.typehashStr a.fields) := by
  cases a with
  | receipt r => rfl
  | intent i => rfl
  | witness w => rfl
  | meter c => exact c.structBytes_eq

theorem typehashStr_mem (a : Signed) : textBytes a.typehashStr ∈ a.hashed := by
  cases a with
  | receipt r => exact .inl rfl
  | intent i => rfl
  | witness w => rfl
  | meter c => exact .inl rfl

theorem fields_lt (a : Signed) : ∀ n ∈ a.fields, n < 2 ^ 256 := by
  cases a with
  | receipt r => exact r.fields_lt
  | intent i => exact i.fields_lt
  | witness w => exact w.fields_lt
  | meter c => exact c.fields_lt

theorem typehashStrs_nodup :
    [receiptTypehashStr, intentTypehashStr, witnessTypehashStr, meterTypehashStr].Nodup := by
  decide +kernel

/-- Which type it is, by its place among the four. -/
def place : Signed → Nat
  | receipt _ => 0
  | intent _ => 1
  | witness _ => 2
  | meter _ => 3

theorem typehashStr_place (a : Signed) :
    [receiptTypehashStr, intentTypehashStr, witnessTypehashStr, meterTypehashStr][a.place]?
    = some a.typehashStr := by
  cases a with
  | receipt r => rfl
  | intent i => rfl
  | witness w => rfl
  | meter c => rfl

theorem place_of_typehashStr {a b : Signed}
    (h : a.typehashStr = b.typehashStr) : a.place = b.place := by
  have hlt : a.place < 4 := by
    cases a <;> simp [place]
  refine (List.getElem?_inj hlt typehashStrs_nodup).mp ?_
  rw [typehashStr_place, typehashStr_place, h]

/-- **Equal bytes are of one type and of alike values.** -/
theorem alike_of_structBytes {a b : Signed} {messages : Set (List UInt8)}
    (hfree : CollisionFree messages) (hma : a.hashed ⊆ messages) (hmb : b.hashed ⊆ messages)
    {bytes : List UInt8} (ha : a.structBytes = .ok bytes) (hb : b.structBytes = .ok bytes) :
    a.Alike b := by
  rw [structBytes_eq] at ha hb
  have hbytes := (Except.ok.inj ha).trans (Except.ok.inj hb).symm
  obtain ⟨htype, hfields⟩ := structBytes_inj hfree (hma a.typehashStr_mem) (hmb b.typehashStr_mem)
    a.fields_lt b.fields_lt hbytes
  cases a with
  | receipt r =>
      cases b with
      | receipt r' =>
          exact BytesTransferredReceipt.eq_of_fields hfree (hma (.inr rfl)) (hmb (.inr rfl)) hfields
      | _ => cases place_of_typehashStr htype
  | intent i =>
      cases b with
      | intent i' => exact ProxySessionIntent.fields_injective hfields
      | _ => cases place_of_typehashStr htype
  | witness w =>
      cases b with
      | witness w' => exact GatewayWitness.fields_injective hfields
      | _ => cases place_of_typehashStr htype
  | meter c =>
      cases b with
      | meter c' =>
          exact GatewayMeterCommitment.alike_of_fields hfree (hma (.inr (.inr rfl)))
            (hmb (.inr (.inr rfl))) hfields
      | _ => cases place_of_typehashStr htype

end Signed

/-! ## Records that are checked list a session once -/

namespace GatewayMeterCommitment

theorem duplicateSession_go {sessions : List GatewayMeterSession} : ∀ {seen : List Bytes32},
    duplicateSession.go seen sessions = none →
      (sessions.map (·.sessionId)).Nodup ∧ ∀ s ∈ sessions, s.sessionId ∉ seen := by
  induction sessions with
  | nil => intro seen _; exact ⟨List.nodup_nil, fun s hs => absurd hs List.not_mem_nil⟩
  | cons s sessions ih =>
      intro seen h
      rw [duplicateSession.go] at h
      by_cases hseen : s.sessionId ∈ seen
      · rw [if_pos hseen] at h
        cases h
      · rw [if_neg hseen] at h
        obtain ⟨hnodup, hfresh⟩ := ih h
        refine ⟨List.nodup_cons.mpr ⟨fun hmem => ?_, hnodup⟩, fun t ht => ?_⟩
        · obtain ⟨t, ht, heq⟩ := List.mem_map.mp hmem
          exact hfresh t ht (heq ▸ List.mem_cons_self)
        · rcases List.mem_cons.mp ht with rfl | ht
          · exact hseen
          · exact fun hmem => hfresh t ht (List.mem_cons_of_mem _ hmem)

theorem nodup_of_verify {e : Secp256k1} {c c' : GatewayMeterCommitment} {signatureHex : String}
    {expectedGateway : Address} {expectedEpoch chainId : Word 64} {verifying : Address}
    (h : c.verify e signatureHex expectedGateway expectedEpoch chainId verifying = .ok c') :
    (c.sessions.map (·.sessionId)).Nodup := by
  obtain ⟨_, -, _, -, h⟩ := bind_ok₂.mp h
  cases hdup : c.duplicateSession with
  | some id =>
      rw [hdup] at h
      cases h
  | none => exact (duplicateSession_go hdup).1

theorem meterStructHash_of_perm {c c' : GatewayMeterCommitment} (hepoch : c.epochId = c'.epochId)
    (hgateway : c.gatewayId = c'.gatewayId) (hbytes : c.totalBytes = c'.totalBytes)
    (hperm : c.sessions.Perm c'.sessions) (hnodup : (c.sessions.map (·.sessionId)).Nodup) :
    c.meterStructHash = c'.meterStructHash := by
  have hsessions : c.sessionsBytes = c'.sessionsBytes := by
    rw [sessionsBytes, sessionsBytes, sortedSessions_of_perm hperm hnodup]
  have hfields : c.fields = c'.fields := by
    rw [fields, fields, hepoch, hgateway, hbytes, hsessions]
  rw [meterStructHash_eq, meterStructHash_eq, hfields]

end GatewayMeterCommitment

/-- The bytes that are hashed for the digest itself. -/
def Signed.outer (a : Signed) : Set (List UInt8) := {bytes | a.structBytes = .ok bytes}

/-- **What is signed is determined by its digest**, but for the order of the sessions of a meter
record, and every order of distinct sessions has one digest. -/
theorem digests_determine :
    (∀ a b : Signed, CollisionFree (a.hashed ∪ b.hashed) → ∀ bytes, a.structBytes = .ok bytes →
        b.structBytes = .ok bytes → a.Alike b)
      ∧ (∀ c : GatewayMeterCommitment, ∃ hash, c.meterStructHash = .ok hash)
      ∧ (∀ c c' : GatewayMeterCommitment, c.epochId = c'.epochId → c.gatewayId = c'.gatewayId →
        c.totalBytes = c'.totalBytes → c.sessions.Perm c'.sessions →
        (c.sessions.map (·.sessionId)).Nodup → c.meterStructHash = c'.meterStructHash)
      ∧ (∀ (e : Secp256k1) (c c' : GatewayMeterCommitment) signatureHex
        expectedGateway expectedEpoch
        chainId verifying,
        c.verify e signatureHex expectedGateway expectedEpoch chainId verifying = .ok c' →
        (c.sessions.map (·.sessionId)).Nodup)
      ∧ (∀ c c' : GatewayMeterCommitment, CollisionFree ((Signed.meter c).hashed
          ∪ (Signed.meter c').hashed ∪ ((Signed.meter c).outer ∪ (Signed.meter c').outer)) →
        c.meterStructHash = c'.meterStructHash → (Signed.meter c).Alike (.meter c'))
      ∧ (∀ (a b : Json) bytes, canonicalBytes a = .ok bytes → canonicalBytes b = .ok bytes → a = b)
      ∧ ∀ members members' : List (String × Json), members.Perm members' →
        (members.map Prod.fst).Nodup →
        canonicalBytes (.ofMembers members) = canonicalBytes (.ofMembers members') := by
  refine ⟨fun a b hfree bytes ha hb => ?_, fun c => ⟨_, c.meterStructHash_eq⟩,
    fun c c' hepoch hgateway hbytes hperm hnodup => ?_, fun e c c' _ _ _ _ _ h => ?_,
    fun c c' hfree h => ?_, fun a b bytes ha hb => canonicalBytes_inj ha hb,
    fun members members' hperm hnodup => ?_⟩
  · exact Signed.alike_of_structBytes hfree Set.subset_union_left Set.subset_union_right ha hb
  · exact GatewayMeterCommitment.meterStructHash_of_perm hepoch hgateway hbytes hperm hnodup
  · exact GatewayMeterCommitment.nodup_of_verify h
  · rw [GatewayMeterCommitment.meterStructHash_eq, GatewayMeterCommitment.meterStructHash_eq] at h
    have houter := hfree (.inr (.inl c.structBytes_eq)) (.inr (.inr c'.structBytes_eq))
      (Except.ok.inj h)
    refine Signed.alike_of_structBytes hfree ?_ ?_ c.structBytes_eq (houter ▸ c'.structBytes_eq)
    · exact Set.subset_union_left.trans Set.subset_union_left
    · exact Set.subset_union_right.trans Set.subset_union_left
  · rw [object_of_perm hperm hnodup]

/-! ## A session that is listed twice -/

/-- An entry of the operator 1, with one chunk. -/
def sampleEntry (id : Bytes32) (totalBytes : Word 128) : GatewayMeterSession :=
  ⟨id, 1, totalBytes, 1⟩

/-- The gateway 7 lists two sessions. -/
def sampleMeter (first second : GatewayMeterSession) : GatewayMeterCommitment :=
  ⟨8000000000001, 7, [first, second], 300⟩

/-- The text of a list of two sessions. -/
def sampleText (first second : GatewayMeterSession) : List Char :=
  '[' :: GatewayMeterCommitment.sessionText first ++ ',' ::
    GatewayMeterCommitment.sessionText second ++ [']']

/-- What the struct hash of two sessions is the hash of, by the hash of their text. -/
def sampleStruct (hash : Bytes32) : List UInt8 := abiEncode
  [ 0xf4c2c4fda78e67542b52140a6dcbb682c1c1d4f5230124a12a80b4483577ed73,
    0xf3a6c2ef92846b81b223fc475103979f13622078b0a5333bdb0ce5b0d61fe388, 8000000000001,
    7, hash.val, 300 ]

/-- The digests that the samples come down to. -/
structure SampleDigests : Prop where
  typehash :
    keccakText meterTypehashStr = 0xf4c2c4fda78e67542b52140a6dcbb682c1c1d4f5230124a12a80b4483577ed73
  schema : keccakText meterSchemaV1
    = 0xf3a6c2ef92846b81b223fc475103979f13622078b0a5333bdb0ce5b0d61fe388
  twice : keccak256 (utf8 (sampleText (sampleEntry 5 100) (sampleEntry 5 200)))
    = 0x5df24e46db75370c9510013497d57c5df4157f6f0b577fced7dc52403bf86095
  twiceSwapped : keccak256 (utf8 (sampleText (sampleEntry 5 200) (sampleEntry 5 100)))
    = 0xf5e13de425c93fb282f2fb8789e7eff217cd4d87d5958d01ce231bde72175c94
  distinct : keccak256 (utf8 (sampleText (sampleEntry 5 100) (sampleEntry 6 200)))
    = 0xe689d57b5ef11b1e684c737e4d6c07421819525cba314b5ba6e289b9e900b5d4
  seen : keccak256 (sampleStruct 0x5df24e46db75370c9510013497d57c5df4157f6f0b577fced7dc52403bf86095)
    ≠ keccak256 (sampleStruct 0xf5e13de425c93fb282f2fb8789e7eff217cd4d87d5958d01ce231bde72175c94)
  sorted : keccak256
    (sampleStruct 0xe689d57b5ef11b1e684c737e4d6c07421819525cba314b5ba6e289b9e900b5d4)
    = 0x5d0a3ab8a54febea098524eee87834bc2c6e1e79e492dbd2f77c61113a937f70

theorem sampleDigests : SampleDigests := by
  have htext : ∀ first second, sampleText first second = _ := fun first second => by
    simp only [sampleText, GatewayMeterCommitment.sessionText, quoteDecimal, quoteHex,
      escape_eq_escapeN]
    repeat rewrite [quote_ofList]
    rfl
  refine ⟨?_, ?_, ?_, ?_, ?_, ?_, ?_⟩
  · rw [meterTypehashStr, keccakText_ofList, keccak256_eval]
    decide +kernel
  · rw [meterSchemaV1, keccakText_ofList, keccak256_eval]
    decide +kernel
  · rw [keccak256_eval, htext]
    decide +kernel
  · rw [keccak256_eval, htext]
    decide +kernel
  · rw [keccak256_eval, htext]
    decide +kernel
  · rw [keccak256_eval, keccak256_eval]
    decide +kernel
  · rw [keccak256_eval]
    decide +kernel

theorem sampleMeter_sessionsBytes {first second : GatewayMeterSession}
    (h : first.sessionId ≤ second.sessionId) :
    (sampleMeter first second).sessionsBytes = utf8 (sampleText first second) := by
  have hsorted : (sampleMeter first second).sortedSessions = [first, second] := by
    refine List.mergeSort_of_pairwise ?_
    simpa [sampleMeter] using h
  have htext : write (Json.array ([first, second].map GatewayMeterCommitment.sessionValue)).val
      = sampleText first second := by
    show '[' :: ([] ++ write (GatewayMeterCommitment.sessionValue first).val
      ++ ([','] ++ write (GatewayMeterCommitment.sessionValue second).val ++ [])) ++ [']'] = _
    rw [GatewayMeterCommitment.write_sessionValue, GatewayMeterCommitment.write_sessionValue]
    simp [sampleText]
  rw [GatewayMeterCommitment.sessionsBytes, hsorted, htext]

theorem sampleMeter_hash {first second : GatewayMeterSession}
    (h : first.sessionId ≤ second.sessionId)
    {hash : Bytes32} (hhash : keccak256 (utf8 (sampleText first second)) = hash) :
    (sampleMeter first second).meterStructHash = .ok (keccak256 (sampleStruct hash)) := by
  have hdigests := sampleDigests
  rw [GatewayMeterCommitment.meterStructHash_eq, GatewayMeterCommitment.fields,
    sampleMeter_sessionsBytes h, hhash, structBytes, hdigests.typehash, hdigests.schema]
  rfl

/-- The order of two entries of one session is seen in the hash. -/
theorem session_order_is_seen :
    (sampleMeter (sampleEntry 5 100) (sampleEntry 5 200)).sessions.Perm
        (sampleMeter (sampleEntry 5 200) (sampleEntry 5 100)).sessions
      ∧ (sampleMeter (sampleEntry 5 100) (sampleEntry 5 200)).meterStructHash
        ≠ (sampleMeter (sampleEntry 5 200) (sampleEntry 5 100)).meterStructHash := by
  have hdigests := sampleDigests
  refine ⟨List.Perm.swap _ _ _, ?_⟩
  rw [sampleMeter_hash (le_refl (5 : Bytes32)) hdigests.twice,
    sampleMeter_hash (le_refl (5 : Bytes32)) hdigests.twiceSwapped]
  intro h
  exact hdigests.seen (Except.ok.inj h)

/-- Two sessions in the order they are sorted into, and in the other one. -/
def sampleSorted : GatewayMeterCommitment := sampleMeter (sampleEntry 5 100) (sampleEntry 6 200)
def sampleUnsorted : GatewayMeterCommitment := sampleMeter (sampleEntry 6 200) (sampleEntry 5 100)

theorem sampleSorted_perm : sampleSorted.sessions.Perm sampleUnsorted.sessions :=
  List.Perm.swap _ _ _

theorem sampleUnsorted_sessionsBytes :
    sampleUnsorted.sessionsBytes = sampleSorted.sessionsBytes := by
  rw [GatewayMeterCommitment.sessionsBytes, GatewayMeterCommitment.sessionsBytes,
    GatewayMeterCommitment.sortedSessions_of_perm sampleSorted_perm (by decide)]

theorem sampleUnsorted_structBytes : sampleUnsorted.structBytes = sampleSorted.structBytes := by
  rw [GatewayMeterCommitment.structBytes_eq, GatewayMeterCommitment.structBytes_eq,
    GatewayMeterCommitment.fields, sampleUnsorted_sessionsBytes]
  rfl

theorem sampleSorted_hash : keccak256 (structBytes meterTypehashStr sampleSorted.fields)
    = 0x5d0a3ab8a54febea098524eee87834bc2c6e1e79e492dbd2f77c61113a937f70 := by
  have hle : (sampleEntry 5 100).sessionId ≤ (sampleEntry 6 200).sessionId := by decide
  have hdigests := sampleDigests
  have hhash := sampleMeter_hash hle hdigests.distinct
  have heq := Except.ok.inj (sampleSorted.meterStructHash_eq.symm.trans hhash)
  exact heq.trans hdigests.sorted

theorem sample_collisionFree : CollisionFree ((Signed.meter sampleSorted).hashed
    ∪ (Signed.meter sampleUnsorted).hashed
    ∪ ((Signed.meter sampleSorted).outer ∪ (Signed.meter sampleUnsorted).outer)) := by
  have hnodup : ([textBytes meterTypehashStr, textBytes meterSchemaV1, sampleSorted.sessionsBytes,
      structBytes meterTypehashStr sampleSorted.fields].map keccak256).Nodup := by
    have hdigests := sampleDigests
    have htype : keccak256 (textBytes meterTypehashStr) = _ := hdigests.typehash
    have hschema : keccak256 (textBytes meterSchemaV1) = _ := hdigests.schema
    have hle : (sampleEntry 5 100).sessionId ≤ (sampleEntry 6 200).sessionId := by decide
    have hsessions : keccak256 sampleSorted.sessionsBytes = _ :=
      (congrArg keccak256 (sampleMeter_sessionsBytes hle)).trans hdigests.distinct
    simp only [List.map_cons, List.map_nil, htype, hschema, hsessions, sampleSorted_hash]
    decide
  have houter : ∀ {m}, sampleSorted.structBytes = .ok m →
      m = structBytes meterTypehashStr sampleSorted.fields := by
    intro m hm
    exact Except.ok.inj (hm.symm.trans sampleSorted.structBytes_eq)
  have hall : ∀ m ∈ (Signed.meter sampleSorted).hashed ∪ (Signed.meter sampleUnsorted).hashed
      ∪ ((Signed.meter sampleSorted).outer ∪ (Signed.meter sampleUnsorted).outer),
      m ∈ [textBytes meterTypehashStr, textBytes meterSchemaV1, sampleSorted.sessionsBytes,
        structBytes meterTypehashStr sampleSorted.fields] := by
    rintro m (((rfl | rfl | rfl) | (rfl | rfl | rfl)) | (hm | hm))
    · simp
    · simp
    · simp
    · simp
    · simp
    · simp [sampleUnsorted_sessionsBytes]
    · simp [houter hm]
    · simp [houter (sampleUnsorted_structBytes.symm.trans hm)]
  exact fun m hm m' hm' h => List.inj_on_of_nodup_map hnodup (hall m hm) (hall m' hm') h

/-- A curve on which every signature is that of the account 9. -/
def sampleCurve : Secp256k1 := ⟨fun _ _ => .ok 9⟩

/-- The text of 65 bytes. -/
def sampleSignatureHex : String := String.ofList (List.replicate 130 '0')

theorem sampleUnsorted_verify :
    sampleUnsorted.verify sampleCurve sampleSignatureHex 9 8000000000001 31337 4
      = .ok sampleUnsorted := by
  have hdigest : ∃ digest, sampleUnsorted.meterDigest 31337 4 = .ok digest := by
    rw [GatewayMeterCommitment.meterDigest, GatewayMeterCommitment.meterStructHash_eq]
    exact ⟨_, rfl⟩
  obtain ⟨digest, hdigest⟩ := hdigest
  have hstrip :
    GatewayMeterCommitment.stripHexMark sampleSignatureHex = List.replicate 130 '0' := by
    decide +kernel
  have hdecode : Hex.decode (List.replicate 130 '0') = some (List.replicate 65 0) := by
    decide +kernel
  rw [GatewayMeterCommitment.verify, hdigest, hstrip, hdecode]
  rfl

theorem digests_determine_sample : sampleSorted.meterStructHash = sampleUnsorted.meterStructHash
    ∧ (Signed.meter sampleSorted).Alike (.meter sampleUnsorted)
    ∧ (sampleUnsorted.sessions.map (·.sessionId)).Nodup
    ∧ canonicalBytes (.ofMembers [("b", .null), ("a", .string "1")])
      = canonicalBytes (.ofMembers [("a", .string "1"), ("b", .null)]) := by
  obtain ⟨-, -, horder, hverified, hhashes, -, hmembers⟩ := digests_determine
  have hhash := horder sampleSorted sampleUnsorted rfl rfl rfl sampleSorted_perm (by decide)
  exact ⟨hhash, hhashes _ _ sample_collisionFree hhash,
    hverified _ _ _ _ _ _ _ _ sampleUnsorted_verify,
    hmembers _ _ (List.Perm.swap _ _ _) (by decide)⟩

end GoatCoin.Attestor
