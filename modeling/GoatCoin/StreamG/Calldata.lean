/-
# `GoatCoin.StreamG.Calldata` — `direct_eth.rs`: the call of an enrollment, encoded by hand

The relayer writes the ten arguments of `executeSponsoredEnrollment` itself.  The static structs are
in the head, word by word; of the others there is an offset, and what it points to is in the tail:

    intent 17 │ quote 12 │ v1 1 │ link 4 │ root 6 │ fee 1 │ signatures 4        the head, 45 words
    v1 │ fee │ sponsorSignature │ quoteSignature │ linkSignature │ rootSignature   the tail

Offsets in `v1` and in `fee` count from where these begin.  What the gateway decodes is what was
encoded, however long the signatures are.
-/
import GoatCoin.Lib.Abi
import GoatCoin.StreamG.ChainReading

namespace GoatCoin.StreamG.Preflight

open Evm Wire Abi Attestor

/-! ## The encoder -/

/-- `MalformedSignature`, less the text of the hex decoder. -/
structure MalformedSignature where
  field : String

def executeSponsoredEnrollmentSelector : List UInt8 := [0x90, 0x94, 0x5f, 0x08]

def headWords : Nat := 17 + 12 + 1 + 4 + 6 + 1 + 1 + 1 + 1 + 1

def offsetWord (headWords tailLenSoFar : Nat) : List UInt8 :=
  u256Be (Fin.ofNat _ (headWords * 32 + tailLenSoFar))

/-- Padded to a boundary of 32 bytes. -/
def abiBytesTail (data : List UInt8) : List UInt8 :=
  let pad := (32 - data.length % 32) % 32
  u256Be (Fin.ofNat _ data.length) ++ (data ++ List.replicate pad 0)

def intentWords (i : SponsorEnrollment) : List UInt8 :=
  bytes32 i.intentId ++ bytes32 i.deploymentManifestHash ++ bytes32 i.feeTokenConfigHash
    ++ addressWord i.root
    ++ addressWord i.controller ++ u256Be (fromU64 i.controllerEpoch) ++ addressWord i.secondary
    ++ bytes32 i.enrollDigest ++ bytes32 i.linkDigest ++ bytes32 i.rootAuthorizationDigest
    ++ addressWord i.feeToken
    ++ u256BeU8 i.feeAuthorizationMode ++ bytes32 i.feeAuthorizationDigest ++ u256Be i.maxFee
    ++ bytes32 i.feeQuoteHash ++ u256Be (fromU64 i.nonce) ++ u256Be (fromU64 i.deadline)

def quoteWords (q : FeeQuote) : List UInt8 :=
  bytes32 q.quoteId ++ bytes32 q.actionType ++ bytes32 q.actionCoreHash
    ++ bytes32 q.deploymentManifestHash
    ++ bytes32 q.feeTokenConfigHash ++ bytes32 q.feeScheduleHash ++ addressWord q.payer
    ++ addressWord q.feeToken
    ++ u256Be q.feeAmount ++ addressWord q.feeRecipient ++ u256Be (fromU64 q.validAfter)
    ++ u256Be (fromU64 q.validUntil)

def linkWords (l : LinkSecondary) : List UInt8 :=
  addressWord l.root ++ addressWord l.secondary ++ u256Be (fromU64 l.nonce) ++ u256Be
    (fromU64 l.deadline)

def rootAuthorizationWords (r : RootAuthorization) : List UInt8 :=
  addressWord r.root ++ addressWord r.secondary ++ bytes32 r.enrollDigest ++ bytes32 r.linkDigest
    ++ u256Be (fromU64 r.nonce) ++ u256Be (fromU64 r.deadline)

def encodeV1Enrollment (v1 : V1Enrollment) (signature : List UInt8) : List UInt8 :=
  addressWord v1.wallet ++ u256Be (fromU64 v1.nonce) ++ u256Be (fromU64 v1.deadline)
    ++ offsetWord 4 0 ++ abiBytesTail signature

def eip2612Words (p : Eip2612Authorization) : List UInt8 :=
  addressWord p.owner ++ addressWord p.spender ++ u256Be p.value ++ u256Be
    (fromU64 p.deadline) ++ u256BeU8 p.v ++ bytes32 p.r ++ bytes32 p.s

/-- The arms that the call does not carry are zero. -/
def encodeTokenAuthorization (mode : Word 8) (eip2612 : Eip2612Authorization) : List UInt8 :=
  u256BeU8 mode ++ eip2612Words eip2612 ++ List.replicate (32 * 9) 0 ++ List.replicate (32 * 8) 0
    ++ offsetWord (1 + 7 + 9 + 8 + 1) 0 ++ abiBytesTail []

/-- The two buffers. -/
structure Buffers where
  head : List UInt8
  tail : List UInt8

def Buffers.extend (b : Buffers) (words : List UInt8) : Buffers :=
  { b with head := b.head ++ words }

/-- An offset in the head, and what it points to. -/
def Buffers.member (b : Buffers) (bytes : List UInt8) : Buffers :=
  ⟨b.head ++ offsetWord headWords b.tail.length, b.tail ++ bytes⟩

structure EncodeArgs where
  intent : SponsorEnrollment
  quote : FeeQuote
  v1Enrollment : V1Enrollment
  v1Signature : List UInt8
  link : LinkSecondary
  rootAuthorization : RootAuthorization
  feeAuthorizationMode : Word 8
  feeEip2612 : Eip2612Authorization
  sponsorSignature : List UInt8
  quoteSignature : List UInt8
  linkSignature : List UInt8
  rootAuthorizationSignature : List UInt8

def encodeExecuteSponsoredEnrollment (a : EncodeArgs) : List UInt8 :=
  let b := ((Buffers.mk (intentWords a.intent) []).extend (quoteWords a.quote)).member
    (encodeV1Enrollment a.v1Enrollment a.v1Signature)
  let b := ((b.extend (linkWords a.link)).extend
    (rootAuthorizationWords a.rootAuthorization)).member
    (encodeTokenAuthorization a.feeAuthorizationMode a.feeEip2612)
  let b := [a.sponsorSignature, a.quoteSignature, a.linkSignature,
    a.rootAuthorizationSignature].foldl (fun b bytes => b.member (abiBytesTail bytes)) b
  executeSponsoredEnrollmentSelector ++ (b.head ++ b.tail)

/-- The signature of a field. -/
def signatureOf (s : Text) (field : String) : Except MalformedSignature (List UInt8) :=
  match decodeHexBytes s with
  | some bytes => .ok bytes
  | none => .error ⟨field⟩

def sponsoredEnrollmentCalldata (call : SponsoredEnrollmentCall) :
    Except MalformedSignature (List UInt8) := do
  let sponsorSignature ← signatureOf call.sponsorSignatureHex "sponsorSignature"
  let quoteSignature ← signatureOf call.quoteSignatureHex "quoteSignature"
  let linkSignature ← signatureOf call.linkSignatureHex "linkSignature"
  let rootAuthorizationSignature ← signatureOf call.rootAuthorizationSignatureHex
    "rootAuthorizationSignature"
  let v1Signature ← signatureOf call.v1Enrollment.signatureHex "v1Enrollment.signature"
  return encodeExecuteSponsoredEnrollment ⟨call.intent, call.quote, call.v1Enrollment,
    v1Signature, call.link,
    call.rootAuthorization, call.feeAuthorizationMode, call.feeEip2612Authorization,
    sponsorSignature, quoteSignature, linkSignature, rootAuthorizationSignature⟩

/-! ## The decoder -/

def decodeIntent : Split StreamG.SponsorEnrollment :=
  StreamG.SponsorEnrollment.mk <$> uint 256 <*> uint 256 <*> uint 256 <*> uint 160 <*> uint
    160 <*> uint 256
    <*> uint 160 <*> uint 256 <*> uint 256 <*> uint 256 <*> uint 160 <*> uint 8 <*> uint
      256 <*> uint 256
    <*> uint 256 <*> uint 256 <*> uint 48

def decodeQuote : Split StreamG.FeeQuote :=
  StreamG.FeeQuote.mk <$> uint 256 <*> uint 256 <*> uint 256 <*> uint 256 <*> uint 256 <*> uint
    256 <*> uint 160 <*> uint 160 <*> uint 256 <*> uint 160 <*> uint 48 <*> uint 48

def decodeLink : Split StreamG.LinkSecondary :=
  StreamG.LinkSecondary.mk <$> uint 160 <*> uint 160 <*> uint 256 <*> uint 48

def decodeRootAuthorization : Split StreamG.RootAuthorization :=
  StreamG.RootAuthorization.mk <$> uint 160 <*> uint 160 <*> uint 256 <*> uint 256 <*>
    uint 256 <*> uint 48

def decodeV1Enrollment (tuple : List UInt8) : Option StreamG.V1Enrollment :=
  (StreamG.V1Enrollment.mk <$> uint 160 <*> uint 256 <*> uint 256 <*> dynamic tuple byteString).run'
    tuple

def decodeEip2612 : Split StreamG.Eip2612Authorization :=
  StreamG.Eip2612Authorization.mk <$> uint 160 <*> uint 160 <*> uint 256 <*> uint 256 <*>
    uint 8 <*> uint 256 <*> uint 256

def decodeEip3009 : Split Eip3009Authorization :=
  Eip3009Authorization.mk <$> uint 160 <*> uint 160 <*> uint 256 <*> uint 256 <*> uint 256 <*>
    uint 256 <*> uint 8 <*> uint 256 <*> uint 256

def decodePriorAllowance : Split PriorAllowanceAuthorization :=
  PriorAllowanceAuthorization.mk <$> uint 256 <*> uint 256 <*> uint 160 <*> uint 160 <*> uint
    160 <*> uint 256 <*> uint 256 <*> uint 48

def decodeTokenAuthorization (tuple : List UInt8) : Option TokenAuthorization :=
  (TokenAuthorization.mk <$> uint 8 <*> decodeEip2612 <*> decodeEip3009 <*> decodePriorAllowance
    <*> dynamic tuple byteString).run' tuple

/-- The first four bytes of the hash of the canonical signature. -/
def gatewaySelector : List UInt8 := (abiWord (keccakText
  "executeSponsoredEnrollment((bytes32,bytes32,bytes32,address,address,uint256,address,bytes32,bytes32,bytes32,address,uint8,bytes32,uint256,bytes32,uint256,uint48),(bytes32,bytes32,bytes32,bytes32,bytes32,bytes32,address,address,uint256,address,uint48,uint48),(address,uint256,uint256,bytes),(address,address,uint256,uint48),(address,address,bytes32,bytes32,uint256,uint48),(uint8,(address,address,uint256,uint256,uint8,bytes32,bytes32),(address,address,uint256,uint256,uint256,bytes32,uint8,bytes32,bytes32),(bytes32,bytes32,address,address,address,uint256,uint256,uint48),bytes),bytes,bytes,bytes,bytes)").val).take 4

/-- The arguments, from where the selector ends. -/
def decodeArguments (block : List UInt8) : Option EnrollmentCall :=
  (EnrollmentCall.mk <$> decodeIntent <*> decodeQuote <*> dynamic block
    decodeV1Enrollment <*> decodeLink
    <*> decodeRootAuthorization <*> dynamic block decodeTokenAuthorization <*> dynamic
      block byteString
    <*> dynamic block byteString <*> dynamic block byteString <*> dynamic block byteString).run'
      block

/-- What the gateway makes of the bytes of a call. -/
def decodeExecuteSponsoredEnrollment (data : List UInt8) : Option EnrollmentCall :=
  if data.take 4 = gatewaySelector then decodeArguments (data.drop 4) else none

/-! ## Words, taken -/

variable {w : Nat} {tail : List UInt8} {call : SponsoredEnrollmentCall} {x : EnrollmentCall}

theorem takes_abi (hw : w ≤ 256) {x : Word w} {bs : List UInt8} (h : bs = abiWord x.val) :
    Takes (uint w) bs x := by
  rw [h]
  exact takes_uint hw x

theorem takes_bytes32 (h : Bytes32) : Takes (uint 256) (bytes32 h) h :=
  takes_abi (by decide) (bytes32_eq h)

theorem takes_address (a : Address) : Takes (uint 160) (addressWord a) a :=
  takes_abi (by decide) (addressWord_eq a)

theorem takes_u8 (v : Word 8) : Takes (uint 8) (u256BeU8 v) v :=
  takes_abi (by decide) (u256BeU8_eq v)

theorem takes_u128 (v : Word 128) : Takes (uint 256) (u256Be v) (widen (by decide) v) :=
  takes_abi (by decide) (u256Be_eq v)

theorem takes_u64 (v : Word 64) : Takes (uint 256) (u256Be (fromU64 v)) (widen (by decide) v) :=
  takes_abi (by decide) (u256Be_eq (fromU64 v))

theorem takes_u48 {t : Word 64} {x : Word 48} (h : uint48 t = some x) :
    Takes (uint 48) (u256Be (fromU64 t)) x := by
  refine takes_abi (by decide) ?_
  rw [u256Be_eq, uint48_some h, fromU64_val]

theorem takes_intent {i : SponsorEnrollment} {x : StreamG.SponsorEnrollment} (h : i.abi = some x) :
    Takes decodeIntent (intentWords i) x := by
  obtain ⟨deadline, hdeadline, heq⟩ := Option.bind_eq_some_iff.mp h
  cases heq
  exact (takes_bytes32 _).map _ |>.seq (takes_bytes32 _) |>.seq (takes_bytes32 _) |>.seq
    (takes_address _)
    |>.seq (takes_address _) |>.seq (takes_u64 _) |>.seq (takes_address _) |>.seq (takes_bytes32 _)
    |>.seq (takes_bytes32 _) |>.seq (takes_bytes32 _) |>.seq (takes_address _) |>.seq (takes_u8 _)
    |>.seq (takes_bytes32 _) |>.seq (takes_u128 _) |>.seq (takes_bytes32 _) |>.seq (takes_u64 _)
    |>.seq (takes_u48 hdeadline)

theorem takes_quote {q : FeeQuote} {x : StreamG.FeeQuote} (h : q.abi = some x) :
    Takes decodeQuote (quoteWords q) x := by
  obtain ⟨validAfter, hafter, h⟩ := Option.bind_eq_some_iff.mp h
  obtain ⟨validUntil, huntil, heq⟩ := Option.bind_eq_some_iff.mp h
  cases heq
  exact (takes_bytes32 _).map _ |>.seq (takes_bytes32 _) |>.seq (takes_bytes32 _) |>.seq
    (takes_bytes32 _)
    |>.seq (takes_bytes32 _) |>.seq (takes_bytes32 _) |>.seq (takes_address _) |>.seq
      (takes_address _)
    |>.seq (takes_u128 _) |>.seq (takes_address _) |>.seq (takes_u48 hafter) |>.seq
      (takes_u48 huntil)

theorem takes_link {l : LinkSecondary} {x : StreamG.LinkSecondary} (h : l.abi = some x) :
    Takes decodeLink (linkWords l) x := by
  obtain ⟨deadline, hdeadline, heq⟩ := Option.bind_eq_some_iff.mp h
  cases heq
  exact (takes_address _).map _ |>.seq (takes_address _) |>.seq (takes_u64 _) |>.seq
    (takes_u48 hdeadline)

theorem takes_rootAuthorization {r : RootAuthorization} {x : StreamG.RootAuthorization}
    (h : r.abi = some x) : Takes decodeRootAuthorization (rootAuthorizationWords r) x := by
  obtain ⟨deadline, hdeadline, heq⟩ := Option.bind_eq_some_iff.mp h
  cases heq
  exact (takes_address _).map _ |>.seq (takes_address _) |>.seq (takes_bytes32 _) |>.seq
    (takes_bytes32 _) |>.seq (takes_u64 _) |>.seq (takes_u48 hdeadline)

theorem takes_eip2612 (p : Eip2612Authorization) : Takes decodeEip2612 (eip2612Words p) p.abi :=
  (takes_address _).map _ |>.seq (takes_address _) |>.seq (takes_u128 _) |>.seq
    (takes_u64 _) |>.seq (takes_u8 _) |>.seq (takes_bytes32 _) |>.seq (takes_bytes32 _)

theorem takes_zero (hw : w ≤ 256) : Takes (uint w) (List.replicate (32 * 1) 0) (0 : Word w) := by
  refine takes_abi hw ?_
  rw [show (0 : Word w).val = 0 from Nat.zero_mod _]
  decide

theorem takes_zeros {β : Type} {n : Nat} {q : Split (Word w → β)} {f : Word w → β} (hw : w ≤ 256)
    (h : Takes q (List.replicate (32 * n) 0) f) :
    Takes (q <*> uint w) (List.replicate (32 * (n + 1)) 0) (f 0) := by
  rw [Nat.mul_succ, List.replicate_add]
  exact h.seq (takes_zero hw)

theorem takes_eip3009 :
    Takes decodeEip3009 (List.replicate (32 * 9) 0) ⟨0, 0, 0, 0, 0, 0, 0, 0, 0⟩ :=
  takes_zeros (by decide) <| takes_zeros (by decide) <| takes_zeros (by decide) <| takes_zeros
    (by decide) <| takes_zeros (by decide)
    <| takes_zeros (by decide) <| takes_zeros (by decide) <| takes_zeros (by decide)
    <| (takes_zero (by decide)).map _

theorem takes_priorAllowance :
    Takes decodePriorAllowance (List.replicate (32 * 8) 0) ⟨0, 0, 0, 0, 0, 0, 0, 0⟩ :=
  takes_zeros (by decide) <| takes_zeros (by decide) <| takes_zeros (by decide) <| takes_zeros
    (by decide) <| takes_zeros (by decide)
    <| takes_zeros (by decide) <| takes_zeros (by decide) <| (takes_zero (by decide)).map _

/-! ## Members, taken -/

theorem u256Be_ofNat {n : Nat} (h : n < 2 ^ 64) : u256Be (Fin.ofNat _ n) = toBE 32 n := by
  rw [u256Be_eq]
  show abiWord (n % 2 ^ 128) = _
  rw [Nat.mod_eq_of_lt (h.trans (by decide))]
  rfl

/-- **A member is where its offset points**, whatever was written before it and after it. -/
theorem takes_member {α : Type} {decode : List UInt8 → Option α} {words : Nat}
    {head before member : List UInt8}
    {a : α} (hhead : head.length = words * 32) (hlt : words * 32 + before.length < 2 ^ 64)
    (hin : before ++ member <+: tail) (h : ∀ rest, decode (member ++ rest) = some a) :
    Takes (dynamic (head ++ tail) decode) (offsetWord words before.length) a := by
  obtain ⟨after, rfl⟩ := hin
  have hlength : (head ++ before).length = words * 32 + before.length := by
    rw [List.length_append, hhead]
  have hoffset : offsetWord words before.length = toBE 32 (head ++ before).length := by
    rw [offsetWord, u256Be_ofNat hlt, hlength]
  rw [hoffset]
  refine takes_dynamic ?_ (hlength ▸ hlt) (h after)
  simp only [List.append_assoc]

theorem bytes_abiBytesTail {data : List UInt8} (h : data.length < 2 ^ 64) (rest : List UInt8) :
    byteString (abiBytesTail data ++ rest) = some data := by
  unfold abiBytesTail
  dsimp only
  rw [u256Be_ofNat h, List.append_assoc, List.append_assoc]
  exact bytes_append h _

theorem decodeV1Enrollment_encode (v1 : V1Enrollment) {signature : List UInt8}
    (h : signature.length < 2 ^ 64)
    (rest : List UInt8) : decodeV1Enrollment (encodeV1Enrollment v1 signature ++ rest)
    = some (v1.abi signature) := by
  have hhead : (addressWord v1.wallet ++ u256Be (fromU64 v1.nonce) ++ u256Be (fromU64 v1.deadline)
      ++ offsetWord 4 0).length = 4 * 32 := by simp [offsetWord, length_abiWord]
  have hin : [] ++ abiBytesTail signature <+: abiBytesTail signature ++ rest :=
    List.prefix_append _ rest
  have hmember := takes_member hhead (by decide) hin (bytes_abiBytesTail h)
  rw [encodeV1Enrollment, List.append_assoc _ (abiBytesTail signature)]
  exact ((takes_address _).map _ |>.seq (takes_u64 _) |>.seq (takes_u64 _) |>.seq hmember).run _

theorem decodeTokenAuthorization_encode (mode : Word 8) (eip2612 : Eip2612Authorization)
    (rest : List UInt8) :
    decodeTokenAuthorization (encodeTokenAuthorization mode eip2612 ++ rest)
      = some (tokenAuthorization mode eip2612) := by
  have hhead :
    (u256BeU8 mode ++ eip2612Words eip2612 ++ List.replicate (32 * 9) 0 ++ List.replicate (32 * 8) 0
      ++ offsetWord (1 + 7 + 9 + 8 + 1) 0).length = (1 + 7 + 9 + 8 + 1) * 32 := by
    simp only [offsetWord, eip2612Words, addressWord_eq, bytes32_eq, u256Be_eq, u256BeU8_eq,
      List.length_append, List.length_replicate, length_abiWord]
  have hin : [] ++ abiBytesTail [] <+: abiBytesTail [] ++ rest := List.prefix_append _ rest
  have hmember := takes_member hhead (by decide) hin (bytes_abiBytesTail (by decide))
  rw [encodeTokenAuthorization, List.append_assoc _ (abiBytesTail [])]
  exact ((takes_u8 _).map _ |>.seq (takes_eip2612 _) |>.seq takes_eip3009 |>.seq
    takes_priorAllowance |>.seq hmember).run _

theorem length_le_abiBytesTail (data : List UInt8) : data.length ≤ (abiBytesTail data).length := by
  simp only [abiBytesTail, List.length_append]
  omega

theorem takes_signature {words : Nat} {head before data : List UInt8}
    (hhead : head.length = words * 32)
    (hlt : words * 32 + tail.length < 2 ^ 64) (hin : before ++ abiBytesTail data <+: tail) :
    Takes (dynamic (head ++ tail) byteString) (offsetWord words before.length) data := by
  have hle := hin.length_le
  have hdata := length_le_abiBytesTail data
  rw [List.length_append] at hle
  exact takes_member hhead (by omega) hin (bytes_abiBytesTail (by omega))

/-! ## The call -/

/-- **The selector is the gateway's.** -/
theorem gatewaySelector_eq : gatewaySelector = executeSponsoredEnrollmentSelector := by
  rw [gatewaySelector, keccakText_ofList, keccak256_eval]
  decide +kernel

theorem decode_selector (block : List UInt8) :
    decodeExecuteSponsoredEnrollment (executeSponsoredEnrollmentSelector ++ block)
    = decodeArguments block :=
  if_pos gatewaySelector_eq.symm

/-- The arguments with the signatures of a call. -/
def SponsoredEnrollmentCall.args (call : SponsoredEnrollmentCall)
    (x : EnrollmentCall) : EncodeArgs :=
  ⟨call.intent, call.quote, call.v1Enrollment, x.v1Enrollment.signature, call.link,
    call.rootAuthorization,
    call.feeAuthorizationMode, call.feeEip2612Authorization, x.sponsorSignature, x.quoteSignature,
    x.linkSignature, x.rootAuthorizationSignature⟩

theorem sponsoredEnrollmentCalldata_ok (h : Sends call x) :
    sponsoredEnrollmentCalldata call = .ok (encodeExecuteSponsoredEnrollment (call.args x)) := by
  simp only [sponsoredEnrollmentCalldata, signatureOf, h.sponsorSignature, h.quoteSignature,
    h.linkSignature, h.rootAuthorizationSignature, h.v1Signature]
  rfl

/-- The head, over the lengths of the tail as it grew. -/
def headOf (call : SponsoredEnrollmentCall) (n₁ n₂ n₃ n₄ n₅ : Nat) : List UInt8 :=
  intentWords call.intent ++ quoteWords call.quote ++ offsetWord headWords 0 ++ linkWords call.link
    ++ rootAuthorizationWords call.rootAuthorization ++ offsetWord headWords n₁
    ++ offsetWord headWords n₂
    ++ offsetWord headWords n₃ ++ offsetWord headWords n₄ ++ offsetWord headWords n₅

theorem length_headOf (call : SponsoredEnrollmentCall) (n₁ n₂ n₃ n₄ n₅ : Nat) :
    (headOf call n₁ n₂ n₃ n₄ n₅).length = headWords * 32 := by
  simp only [headOf, intentWords, quoteWords, linkWords, rootAuthorizationWords, offsetWord,
    addressWord_eq, bytes32_eq,
    u256Be_eq, u256BeU8_eq, List.length_append, length_abiWord, headWords]

/-- **What is decoded is what was encoded**, of a tail that has the members where they were
written. -/
theorem decodeArguments_headOf (h : Sends call x)
    {t₁ t₂ t₃ t₄ t₅ : List UInt8} (hsize : headWords * 32 + tail.length < 2 ^ 64)
    (hv1 : [] ++ encodeV1Enrollment call.v1Enrollment x.v1Enrollment.signature <+: tail)
    (hfee : t₁ ++ encodeTokenAuthorization call.feeAuthorizationMode call.feeEip2612Authorization
      <+: tail)
    (hsponsor : t₂ ++ abiBytesTail x.sponsorSignature <+: tail)
    (hquote : t₃ ++ abiBytesTail x.quoteSignature <+: tail)
    (hlink : t₄ ++ abiBytesTail x.linkSignature <+: tail)
    (hroot : t₅ ++ abiBytesTail x.rootAuthorizationSignature <+: tail) :
    decodeArguments (headOf call t₁.length t₂.length t₃.length t₄.length t₅.length ++ tail)
    = some x := by
  have hhead := length_headOf call t₁.length t₂.length t₃.length t₄.length t₅.length
  have htakes := ((takes_intent h.intent).map EnrollmentCall.mk).seq (takes_quote h.quote)
  have hsignature : x.v1Enrollment.signature.length < 2 ^ 64 := by
    have hle := hv1.length_le
    have hdata := length_le_abiBytesTail x.v1Enrollment.signature
    simp only [encodeV1Enrollment, List.nil_append, List.length_append] at hle
    omega
  have henrolls :=
    takes_member hhead (by decide) hv1 (decodeV1Enrollment_encode call.v1Enrollment hsignature)
  rw [← h.v1Enrollment] at henrolls
  have hpays := takes_member hhead
    (by have hle := hfee.length_le; rw [List.length_append] at hle; omega) hfee
    (decodeTokenAuthorization_encode call.feeAuthorizationMode call.feeEip2612Authorization)
  rw [← h.feeAuthorization] at hpays
  exact (htakes.seq henrolls |>.seq (takes_link h.link) |>.seq
    (takes_rootAuthorization h.rootAuthorization)
    |>.seq hpays |>.seq (takes_signature hhead hsize hsponsor) |>.seq
      (takes_signature hhead hsize hquote)
    |>.seq (takes_signature hhead hsize hlink) |>.seq (takes_signature hhead hsize hroot)).run tail

theorem decode_encode (h : Sends call x)
    (hlt : (encodeExecuteSponsoredEnrollment (call.args x)).length < 2 ^ 63) :
    decodeExecuteSponsoredEnrollment (encodeExecuteSponsoredEnrollment (call.args x)) = some x := by
  -- the tail as it grew
  let t₁ := [] ++ encodeV1Enrollment call.v1Enrollment x.v1Enrollment.signature
  let t₂ := t₁ ++ encodeTokenAuthorization call.feeAuthorizationMode call.feeEip2612Authorization
  let t₃ := t₂ ++ abiBytesTail x.sponsorSignature
  let t₄ := t₃ ++ abiBytesTail x.quoteSignature
  let t₅ := t₄ ++ abiBytesTail x.linkSignature
  let tail := t₅ ++ abiBytesTail x.rootAuthorizationSignature
  have hlink : t₅ <+: tail := List.prefix_append _ _
  have hquote : t₄ <+: tail := (List.prefix_append _ _).trans hlink
  have hsponsor : t₃ <+: tail := (List.prefix_append _ _).trans hquote
  have hfee : t₂ <+: tail := (List.prefix_append _ _).trans hsponsor
  have hv1 : t₁ <+: tail := (List.prefix_append _ _).trans hfee
  have hdata : encodeExecuteSponsoredEnrollment (call.args x) = executeSponsoredEnrollmentSelector
      ++ (headOf call t₁.length t₂.length t₃.length t₄.length t₅.length ++ tail) := rfl
  have hsize : headWords * 32 + tail.length < 2 ^ 64 := by
    rw [hdata, List.length_append, List.length_append, length_headOf] at hlt
    omega
  rw [hdata, decode_selector]
  exact decodeArguments_headOf h hsize hv1 hfee hsponsor hquote hlink List.prefix_rfl

/-- The timestamps fit the 48 bits that the chain has for them. -/
structure SponsoredEnrollmentCall.Fits (call : SponsoredEnrollmentCall) : Prop where
  intent : call.intent.deadline.val < 2 ^ 48
  quote : call.quote.validAfter.val < 2 ^ 48 ∧ call.quote.validUntil.val < 2 ^ 48
  link : call.link.deadline.val < 2 ^ 48
  rootAuthorization : call.rootAuthorization.deadline.val < 2 ^ 48

/-- The signatures are hex, of any length. -/
structure SponsoredEnrollmentCall.IsHex (call : SponsoredEnrollmentCall) : Prop where
  sponsor : (decodeHexBytes call.sponsorSignatureHex).isSome
  quote : (decodeHexBytes call.quoteSignatureHex).isSome
  link : (decodeHexBytes call.linkSignatureHex).isSome
  rootAuthorization : (decodeHexBytes call.rootAuthorizationSignatureHex).isSome
  v1Enrollment : (decodeHexBytes call.v1Enrollment.signatureHex).isSome

theorem uint48_eq {t : Word 64} (h : t.val < 2 ^ 48) : uint48 t = some ⟨t.val, h⟩ := dif_pos h

theorem exists_sends (hfits : call.Fits) (hhex : call.IsHex) : ∃ x, Sends call x := by
  obtain ⟨sponsor, hsponsor⟩ := Option.isSome_iff_exists.mp hhex.sponsor
  obtain ⟨quote, hquote⟩ := Option.isSome_iff_exists.mp hhex.quote
  obtain ⟨link, hlink⟩ := Option.isSome_iff_exists.mp hhex.link
  obtain ⟨root, hroot⟩ := Option.isSome_iff_exists.mp hhex.rootAuthorization
  obtain ⟨v1, hv1⟩ := Option.isSome_iff_exists.mp hhex.v1Enrollment
  have hsome : call.onChain.isSome := by
    simp only [SponsoredEnrollmentCall.onChain, SponsorEnrollment.abi, FeeQuote.abi,
      LinkSecondary.abi,
      RootAuthorization.abi, hsponsor, hquote, hlink, hroot, hv1, uint48_eq hfits.intent,
      uint48_eq hfits.quote.1, uint48_eq hfits.quote.2, uint48_eq hfits.link,
      uint48_eq hfits.rootAuthorization]
    rfl
  obtain ⟨x, hx⟩ := Option.isSome_iff_exists.mp hsome
  exact ⟨x, onChain_some.mp hx⟩

/-- **The calldata is the ABI encoding**: of every call whose timestamps fit and whose signatures
are hex, and whose bytes fit a `Vec`, the gateway decodes the ten arguments that were meant, and
hashes the intent as the relayer does. -/
theorem calldata_decodes_to_call (call : SponsoredEnrollmentCall) (hfits : call.Fits)
    (hhex : call.IsHex)
    (hvec : ∀ data, sponsoredEnrollmentCalldata call = .ok data → data.length < 2 ^ 63) :
    ∃ data x, sponsoredEnrollmentCalldata call = .ok data
    ∧ decodeExecuteSponsoredEnrollment data = some x
      ∧ Sends call x
      ∧ StreamG.sponsorEnrollmentStructHash x.intent = sponsorEnrollmentStructHash call.intent := by
  obtain ⟨x, hx⟩ := exists_sends hfits hhex
  have hdata := sponsoredEnrollmentCalldata_ok hx
  exact ⟨_, x, hdata, decode_encode hx (hvec _ hdata), hx,
    (sponsorEnrollmentStructHash_abi hx.intent).symm⟩

/-- A call with signatures of no byte, of one, and of more than a word. -/
def sampleCalldataCall : SponsoredEnrollmentCall where
  intent := ⟨1, 2, 3, 4, 5, 6, 7, 8, 9, 10, 11, 1, 12, 13, 14, 15, 16⟩
  quote := ⟨1, 2, 3, 4, 5, 6, 7, 8, 9, 10, 11, 12⟩
  v1Enrollment := ⟨7, 1, 2, "0X".toList ++ List.replicate 66 'f'⟩
  link := ⟨4, 7, 1, 2⟩
  rootAuthorization := ⟨0, 0, 0, 0, 0, 0⟩
  feeAuthorizationMode := 1
  feeEip2612Authorization := ⟨5, 6, 13, 16, 27, 1, 2⟩
  sponsorSignatureHex := " 0xaB ".toList
  quoteSignatureHex := []
  linkSignatureHex := "0x".toList
  rootAuthorizationSignatureHex := List.replicate 64 '0'

theorem calldata_decodes_to_call_sample :
    ∃ data x, sponsoredEnrollmentCalldata sampleCalldataCall = .ok data
      ∧ decodeExecuteSponsoredEnrollment data = some x ∧ Sends sampleCalldataCall x
      ∧ StreamG.sponsorEnrollmentStructHash x.intent
        = sponsorEnrollmentStructHash sampleCalldataCall.intent := by
  refine calldata_decodes_to_call sampleCalldataCall ⟨by decide, by decide, by decide, by decide⟩
    ⟨by decide, by decide, by decide, by decide, by decide⟩ fun data hdata => ?_
  have hlength : (sponsoredEnrollmentCalldata sampleCalldataCall).toOption.map List.length
    = some 2724 := by
    decide +kernel
  rw [hdata] at hlength
  exact (Option.some.inj hlength).trans_lt (by decide)

end GoatCoin.StreamG.Preflight
