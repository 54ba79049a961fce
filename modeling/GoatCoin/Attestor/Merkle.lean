/-
# `GoatCoin.Attestor.Merkle` — the trees of `merkle.rs` and `proxy_merkle.rs`

The attestor commits to a batch by a root, and the contracts check claims against it:

    compute    keccak256 (keccak256 (wallet ‖ score))                           `EpochSettlement`
    proxy      keccak256 (keccak256 (domain ‖ operator ‖ epoch ‖ bytes ‖ wei))   `ProxyRevenueSettlement`

Both trees hash their nodes in sorted pairs, and carry the last node of a layer of odd length up as
it is.  A leaf is hashed twice, so it is the hash of one word, and a node is the hash of two: that,
and that `keccak256` does not collide on what is hashed, is what a proof of any length comes down
to.
-/
import GoatCoin.Lib.PairTree
import GoatCoin.Contracts.EpochSettlement
import GoatCoin.Contracts.ProxyRevenue
import GoatCoin.Contracts.TypedData

namespace GoatCoin.Attestor

open Evm Wire

/-! ## `merkle.rs` -/

/-- `abi_encode_address_uint256`: a zeroed buffer that is written at 12 and at 48. -/
def abiEncodeAddressUint256 (address : Address) (score : Word 128) : List UInt8 :=
  List.replicate 12 0 ++ toBE 20 address.val ++ (List.replicate 16 0 ++ toBE 16 score.val)

/-- A leaf of the score lane. -/
structure Leaf where
  wallet : Address
  cumulativeScore : Word 128
deriving DecidableEq

/-- The double hash of what is committed to. -/
def doubleHash (encoded : List UInt8) : Bytes32 := keccak256 (abiWord (keccak256 encoded).val)

def leafHash (leaf : Leaf) : Bytes32 :=
  doubleHash (abiEncodeAddressUint256 leaf.wallet leaf.cumulativeScore)

/-- The smaller hash comes first. -/
def hashPair (a b : Bytes32) : Bytes32 :=
  if a ≤ b then keccak256 (abiWord a.val ++ abiWord b.val)
  else keccak256 (abiWord b.val ++ abiWord a.val)

/-- The first layer is the hashed leaves, and the last one holds the root. -/
structure MerkleTree (τ : Type) where
  layers : List (List Bytes32)
  leaves : List τ
  leafHashes : List Bytes32

namespace MerkleTree

variable {τ : Type}

def build (hash : τ → Bytes32) : List τ → MerkleTree τ
  | [] => ⟨[[0]], [], []⟩
  | leaf :: leaves =>
      let leafHashes := (leaf :: leaves).map hash
      ⟨PairTree.layers hashPair leafHashes.length leafHashes, leaf :: leaves, leafHashes⟩

/-- The last layer's hash. -/
def root (tree : MerkleTree τ) : Bytes32 := (tree.layers.getLast?.bind List.head?).getD 0

def proof (tree : MerkleTree τ) (index : Nat) : Except String (List Bytes32) :=
  if tree.leafHashes.length ≤ index then .error s!"index {index} out of range"
  else .ok (PairTree.siblings tree.layers index)

end MerkleTree

/-- `MerkleTree::build`. -/
def computeTree : List Leaf → MerkleTree Leaf := MerkleTree.build leafHash

/-! ## `proxy_merkle.rs` -/

/-- `PROXY_LEAF_DOMAIN_STR`, hashed. -/
def proxyLeafDomain : Bytes32 := keccak256 "GOAT_PROXY_REVENUE_LEAF_V1".toUTF8.toList

/-- A leaf of the proxy lane. -/
structure ProxyLeaf where
  operator : Address
  epochId : Word 64
  totalBytes : Word 128
  payoutGoatWei : Word 128
deriving DecidableEq

/-- `abi_encode_proxy_leaf`: five words, each written at the end of its place. -/
def abiEncodeProxyLeaf (leaf : ProxyLeaf) : List UInt8 :=
  abiWord proxyLeafDomain.val ++ (List.replicate 12 0 ++ toBE 20 leaf.operator.val)
    ++ (List.replicate 24 0 ++ toBE 8 leaf.epochId.val)
    ++ (List.replicate 16 0 ++ toBE 16 leaf.totalBytes.val)
    ++ (List.replicate 16 0 ++ toBE 16 leaf.payoutGoatWei.val)

def proxyLeafHash (leaf : ProxyLeaf) : Bytes32 := doubleHash (abiEncodeProxyLeaf leaf)

/-- `ProxyMerkleTree::build`. -/
def proxyTree : List ProxyLeaf → MerkleTree ProxyLeaf := MerkleTree.build proxyLeafHash

/-! ## The two encoders -/

/-- A machine word as the contracts see it. -/
def widen {w : Nat} (h : w ≤ 256) (x : Word w) : Uint256 := ⟨x.val, word_lt h x⟩

theorem word64_le : 64 ≤ 256 := by decide

theorem word128_le : 128 ≤ 256 := by decide

theorem abiWord_eq {k : Nat} (hk : k ≤ 32) {n : Nat} (h : n < 256 ^ k) :
    abiWord n = List.replicate (32 - k) 0 ++ toBE k n := by
  have hsplit := toBE_add h (32 - k)
  rw [Nat.add_sub_cancel' hk] at hsplit
  exact hsplit

theorem abiEncodeAddressUint256_eq (address : Address) (score : Word 128) :
    abiEncodeAddressUint256 address score = abiEncode [address.val, score.val] := by
  have haddress : address.val < 256 ^ 20 := address.isLt
  have hscore : score.val < 256 ^ 16 := score.isLt
  rw [abiEncode, List.flatMap_cons, List.flatMap_singleton, abiWord_eq (by decide) haddress,
    abiWord_eq (by decide) hscore]
  rfl

theorem abiEncodeProxyLeaf_eq (leaf : ProxyLeaf) : abiEncodeProxyLeaf leaf
    = abiEncode [proxyLeafDomain.val, leaf.operator.val, leaf.epochId.val, leaf.totalBytes.val,
        leaf.payoutGoatWei.val] := by
  have hoperator : leaf.operator.val < 256 ^ 20 := leaf.operator.isLt
  have hepoch : leaf.epochId.val < 256 ^ 8 := leaf.epochId.isLt
  have hbytes : leaf.totalBytes.val < 256 ^ 16 := leaf.totalBytes.isLt
  have hpayout : leaf.payoutGoatWei.val < 256 ^ 16 := leaf.payoutGoatWei.isLt
  simp only [abiEncode, List.flatMap_cons, List.flatMap_nil, List.append_nil,
    abiWord_eq (by decide : 20 ≤ 32) hoperator, abiWord_eq (by decide : 8 ≤ 32) hepoch,
    abiWord_eq (by decide : 16 ≤ 32) hbytes, abiWord_eq (by decide : 16 ≤ 32) hpayout]
  simp only [abiEncodeProxyLeaf, List.append_assoc]

theorem leafHash_eq (leaf : Leaf) :
    leafHash leaf = Settlement.leafOf leaf.wallet (widen (by decide) leaf.cumulativeScore) := by
  rw [leafHash, doubleHash, abiEncodeAddressUint256_eq, abiEncode, List.flatMap_cons,
    List.flatMap_singleton]
  rfl

theorem proxyLeafHash_eq (leaf : ProxyLeaf) : proxyLeafHash leaf
    = ProxyRevenueSettlement.leafOf leaf.operator (widen (by decide) leaf.epochId)
      (widen (by decide) leaf.totalBytes) (widen (by decide) leaf.payoutGoatWei) := by
  rw [proxyLeafHash, doubleHash, abiEncodeProxyLeaf_eq]
  simp only [abiEncode, List.flatMap_cons, List.flatMap_nil, List.append_nil, ← List.append_assoc]
  rfl

/-! ## Proofs lead to the root -/

/-- `hash_pair` is the pairing of the library. -/
theorem hashPair_eq : hashPair = commutativeKeccak256 := by
  funext a b
  rw [hashPair, commutativeKeccak256]
  rcases lt_trichotomy a b with h | rfl | h
  · rw [if_pos h.le, if_pos h]
  · rw [if_pos le_rfl, if_neg (lt_irrefl a)]
  · rw [if_neg h.not_ge, if_neg h.not_gt]

theorem commutativeKeccak256_comm (a b : Bytes32) :
    commutativeKeccak256 a b = commutativeKeccak256 b a := by
  rw [commutativeKeccak256, commutativeKeccak256]
  rcases lt_trichotomy a b with h | rfl | h
  · rw [if_pos h, if_neg h.not_gt]
  · rfl
  · rw [if_neg h.not_gt, if_pos h]

namespace MerkleTree

variable {τ : Type} {hash : τ → Bytes32} {leaves : List τ}

theorem build_eq (h : leaves ≠ []) : build hash leaves
    = ⟨PairTree.layers commutativeKeccak256 (leaves.map hash).length (leaves.map hash), leaves,
        leaves.map hash⟩ := by
  cases leaves with
  | nil => exact absurd rfl h
  | cons leaf leaves => rw [build, hashPair_eq]

theorem root_eq (h : leaves ≠ []) :
    ∃ n, (build hash leaves).root ∈ (PairTree.up commutativeKeccak256)^[n] (leaves.map hash) := by
  rw [build_eq h, root]
  have hne := PairTree.layers_ne_nil commutativeKeccak256 (leaves.map hash).length (leaves.map hash)
  have hmap : leaves.map hash ≠ [] := fun hnil => h (List.map_eq_nil_iff.mp hnil)
  have hone := PairTree.length_getLast commutativeKeccak256 hmap le_rfl
  obtain ⟨r, hr⟩ := List.length_eq_one_iff.mp hone
  obtain ⟨n, hn⟩ := PairTree.exists_iterate commutativeKeccak256 (List.getLast_mem hne)
  refine ⟨n, ?_⟩
  rw [← hn, List.getLast?_eq_some_getLast hne, Option.bind_some, hr]
  exact List.mem_singleton_self r

/-- **The proof of a leaf is accepted.** -/
theorem verify_proof {i : Nat} {leaf : τ} (h : leaves[i]? = some leaf) :
    ∃ proof, (build hash leaves).proof i = .ok proof
      ∧ MerkleProof.verify proof (build hash leaves).root (hash leaf) = true := by
  have hi := (List.getElem?_eq_some_iff.mp h).1
  have hne : leaves ≠ [] := List.length_pos_iff.mp (Nat.lt_of_le_of_lt (Nat.zero_le i) hi)
  have hleaf : (leaves.map hash)[i]? = some (hash leaf) := by
    rw [List.getElem?_map, h]
    rfl
  have hclimb := PairTree.climb_siblings commutativeKeccak256 commutativeKeccak256_comm le_rfl hleaf
  rw [build_eq hne, proof]
  refine ⟨_, if_neg ?_, ?_⟩
  · rw [List.length_map]
    exact Nat.not_le.mpr hi
  · rw [root, List.getLast?_eq_some_getLast (PairTree.layers_ne_nil _ _ _),
      Option.bind_some, hclimb]
    exact beq_self_eq_true _

end MerkleTree

/-! ## Only leaves lead to the root -/

/-- What a node is the hash of. -/
def pairBytes (a b : Bytes32) : List UInt8 :=
  if a < b then abiWord a.val ++ abiWord b.val else abiWord b.val ++ abiWord a.val

theorem commutativeKeccak256_eq (a b : Bytes32) :
    commutativeKeccak256 a b = keccak256 (pairBytes a b) := by
  rw [commutativeKeccak256, pairBytes]
  split
  · rfl
  · rfl

theorem length_pairBytes (a b : Bytes32) : (pairBytes a b).length = 64 := by
  rw [pairBytes]
  split
  · rw [List.length_append, length_abiWord, length_abiWord]
  · rw [List.length_append, length_abiWord, length_abiWord]

theorem word_append_inj {a b c d : Bytes32}
    (h : abiWord a.val ++ abiWord b.val = abiWord c.val ++ abiWord d.val) : a = c ∧ b = d := by
  obtain ⟨hac, hbd⟩ := List.append_inj h (by rw [length_abiWord, length_abiWord])
  exact ⟨Fin.ext (abiWord_inj a.isLt c.isLt hac), Fin.ext (abiWord_inj b.isLt d.isLt hbd)⟩

theorem pairBytes_inj {a b c d : Bytes32} (h : pairBytes a b = pairBytes c d) : c = a ∨ c = b := by
  rw [pairBytes, pairBytes] at h
  split at h
  · split at h
    · exact .inl (word_append_inj h).1.symm
    · exact .inr (word_append_inj h).2.symm
  · split at h
    · exact .inr (word_append_inj h).1.symm
    · exact .inl (word_append_inj h).2.symm

section
variable {τ : Type} (encode : τ → List UInt8)

/-- Everything that is hashed to build a tree. -/
inductive TreeMessage (leaves : List τ) : List UInt8 → Prop
  | leaf {leaf : τ} (h : leaf ∈ leaves) : TreeMessage leaves (encode leaf)
  | word {leaf : τ} (h : leaf ∈ leaves) : TreeMessage leaves (abiWord (keccak256 (encode leaf)).val)
  | node {n : Nat} {c : Bytes32 × Bytes32} (h : c ∈ PairTree.couples
      ((PairTree.up commutativeKeccak256)^[n] (leaves.map fun leaf => doubleHash (encode leaf)))) :
      TreeMessage leaves (pairBytes c.1 c.2)

/-- Everything that is hashed to check a proof. -/
inductive ProofMessage (encoded : List UInt8) (proof : List Bytes32) : List UInt8 → Prop
  | leaf : ProofMessage encoded proof encoded
  | word : ProofMessage encoded proof (abiWord (keccak256 encoded).val)
  | node {s : Bytes32 × Bytes32}
      (h : s ∈ PairTree.steps commutativeKeccak256 (doubleHash encoded) proof) :
      ProofMessage encoded proof (pairBytes s.1 s.2)

/-- `keccak256` has no collision on what is hashed to build the tree and to check the proof. -/
def NoCollision (leaves : List τ) (encoded : List UInt8) (proof : List Bytes32) : Prop :=
  Set.InjOn keccak256 {m | TreeMessage encode leaves m ∨ ProofMessage encoded proof m}

variable {encode}

theorem doubleHash_ne {messages : Set (List UInt8)} (hfree : Set.InjOn keccak256 messages)
    {encoded : List UInt8} {a b : Bytes32} (hword : abiWord (keccak256 encoded).val ∈ messages)
    (hpair : pairBytes a b ∈ messages) : doubleHash encoded ≠ commutativeKeccak256 a b := by
  intro h
  rw [doubleHash, commutativeKeccak256_eq] at h
  have hlength := congrArg List.length (hfree hword hpair h)
  rw [length_abiWord, length_pairBytes] at hlength
  cases hlength

/-- **What is proved against the root of a tree is one of its leaves**, whatever the proof. -/
theorem mem_of_verify {leaves : List τ} (hne : leaves ≠ []) {encoded : List UInt8}
    {proof : List Bytes32} (hfree : NoCollision encode leaves encoded proof)
    (h : MerkleProof.verify proof
      (MerkleTree.build (fun leaf => doubleHash (encode leaf)) leaves).root
      (doubleHash encoded) = true) : ∃ leaf ∈ leaves, encode leaf = encoded := by
  obtain ⟨n, hroot⟩ := @MerkleTree.root_eq τ (fun leaf => doubleHash (encode leaf)) leaves hne
  rw [← eq_of_beq h] at hroot
  have hmem := PairTree.mem_of_climb commutativeKeccak256 n proof (fun m c hc s hs heq => ?_)
    (fun x hx s hs => ?_) (fun m c hc => ?_) hroot
  · obtain ⟨leaf, hleaf, heq⟩ := List.mem_map.mp hmem
    refine ⟨leaf, hleaf, hfree (.inl (.leaf hleaf)) (.inr .leaf) ?_⟩
    have hwords := hfree (.inl (.word hleaf)) (.inr .word) heq
    exact Fin.ext (abiWord_inj (Fin.isLt _) (Fin.isLt _) hwords)
  · rw [commutativeKeccak256_eq, commutativeKeccak256_eq] at heq
    exact pairBytes_inj (hfree (.inl (.node hc)) (.inr (.node hs)) heq)
  · obtain ⟨leaf, hleaf, rfl⟩ := List.mem_map.mp hx
    exact doubleHash_ne hfree (.inl (.word hleaf)) (.inr (.node hs))
  · exact doubleHash_ne hfree (.inr .word) (.inl (.node hc))

end

/-! ## Attestor and contracts -/

/-- The tuple of a claim of either lane, as the contract encodes it. -/
def claimBytes (worker : Address) (score : Uint256) : List UInt8 :=
  abiEncode [worker.val, score.val]

def proxyClaimBytes (operator : Address)
    (epochId totalBytes payoutGoatWei : Uint256) : List UInt8 :=
  abiEncode [ProxyRevenueSettlement.proxyLeafDomain.val, operator.val, epochId.val, totalBytes.val,
    payoutGoatWei.val]

def encodeLeaf (leaf : Leaf) : List UInt8 :=
  abiEncodeAddressUint256 leaf.wallet leaf.cumulativeScore

theorem leafOf_eq (worker : Address) (score : Uint256) :
    Settlement.leafOf worker score = doubleHash (claimBytes worker score) := by
  rw [claimBytes, abiEncode, List.flatMap_cons, List.flatMap_singleton]
  rfl

theorem proxyLeafOf_eq (operator : Address) (epochId totalBytes payoutGoatWei : Uint256) :
    ProxyRevenueSettlement.leafOf operator epochId totalBytes payoutGoatWei
      = doubleHash (proxyClaimBytes operator epochId totalBytes payoutGoatWei) := by
  simp only [proxyClaimBytes, abiEncode, List.flatMap_cons, List.flatMap_nil, List.append_nil,
    ProxyRevenueSettlement.leafOf, doubleHash, List.append_assoc]

theorem words_lt {ws : List Uint256} : ∀ n ∈ ws.map Fin.val, n < 2 ^ 256 := by
  intro n hn
  obtain ⟨x, -, rfl⟩ := List.mem_map.mp hn
  exact x.isLt

theorem encodeLeaf_inj {leaf : Leaf} {worker : Address} {score : Uint256}
    (h : encodeLeaf leaf = claimBytes worker score) :
    leaf.wallet = worker ∧ leaf.cumulativeScore.val = score.val := by
  rw [encodeLeaf, abiEncodeAddressUint256_eq, claimBytes] at h
  have hwords := abiEncode_inj
    (@words_lt [widen (by decide) leaf.wallet, widen (by decide) leaf.cumulativeScore])
    (@words_lt [widen (by decide) worker, score]) h
  injection hwords with hwallet hrest
  injection hrest with hscore
  exact ⟨Fin.ext hwallet, hscore⟩

theorem encodeProxyLeaf_inj {leaf : ProxyLeaf} {operator : Address}
    {epochId totalBytes payoutGoatWei : Uint256}
    (h : abiEncodeProxyLeaf leaf = proxyClaimBytes operator epochId totalBytes payoutGoatWei) :
    leaf.operator = operator ∧ leaf.epochId.val = epochId.val ∧ leaf.totalBytes.val = totalBytes.val
      ∧ leaf.payoutGoatWei.val = payoutGoatWei.val := by
  rw [abiEncodeProxyLeaf_eq, proxyClaimBytes] at h
  have hwords := abiEncode_inj
    (@words_lt [proxyLeafDomain, widen (by decide) leaf.operator, widen (by decide) leaf.epochId,
      widen (by decide) leaf.totalBytes, widen (by decide) leaf.payoutGoatWei])
    (@words_lt [ProxyRevenueSettlement.proxyLeafDomain, widen (by decide) operator,
      epochId, totalBytes, payoutGoatWei]) h
  injection hwords with _ hrest
  injection hrest with hoperator hrest
  injection hrest with hepoch hrest
  injection hrest with hbytes hrest
  injection hrest with hpayout
  exact ⟨Fin.ext hoperator, hepoch, hbytes, hpayout⟩

theorem claimBytes_ne (worker : Address) (score : Uint256) (leaf : ProxyLeaf) :
    abiEncodeProxyLeaf leaf ≠ claimBytes worker score := by
  intro h
  have hlength := congrArg List.length h
  rw [abiEncodeProxyLeaf_eq, claimBytes, length_abiEncode, length_abiEncode] at hlength
  cases hlength

theorem proxyClaimBytes_ne (operator : Address) (epochId totalBytes payoutGoatWei : Uint256)
    (leaf : Leaf) :
    encodeLeaf leaf ≠ proxyClaimBytes operator epochId totalBytes payoutGoatWei := by
  intro h
  have hlength := congrArg List.length h
  rw [encodeLeaf, abiEncodeAddressUint256_eq, proxyClaimBytes, length_abiEncode, length_abiEncode]
    at hlength
  cases hlength

/-- **The attestor and the contracts agree about every batch.**  The proof that the attestor gives
for a leaf is accepted under the root; where `keccak256` does not collide, a tuple that is accepted
under the root with whatever proof is one of the leaves, and none of the other lane is. -/
theorem merkle_agreement :
    (∀ (leaves : List Leaf) (i : Nat) (leaf : Leaf), leaves[i]? = some leaf →
        ∃ proof, (computeTree leaves).proof i = .ok proof
          ∧ MerkleProof.verify proof (computeTree leaves).root
            (Settlement.leafOf leaf.wallet (widen (by decide) leaf.cumulativeScore)) = true)
      ∧ (∀ (leaves : List ProxyLeaf) (i : Nat) (leaf : ProxyLeaf), leaves[i]? = some leaf →
        ∃ proof, (proxyTree leaves).proof i = .ok proof
          ∧ MerkleProof.verify proof (proxyTree leaves).root
            (ProxyRevenueSettlement.leafOf leaf.operator (widen (by decide) leaf.epochId)
              (widen (by decide) leaf.totalBytes) (widen (by decide) leaf.payoutGoatWei)) = true)
      ∧ (∀ (leaves : List Leaf), leaves ≠ [] → ∀ worker score proof,
        NoCollision encodeLeaf leaves (claimBytes worker score) proof →
        MerkleProof.verify proof (computeTree leaves).root (Settlement.leafOf worker score) = true →
        ∃ leaf ∈ leaves, leaf.wallet = worker ∧ leaf.cumulativeScore.val = score.val)
      ∧ (∀ (leaves : List ProxyLeaf), leaves ≠ [] → ∀ operator epochId totalBytes payout proof,
        NoCollision abiEncodeProxyLeaf leaves
          (proxyClaimBytes operator epochId totalBytes payout) proof →
        MerkleProof.verify proof (proxyTree leaves).root
          (ProxyRevenueSettlement.leafOf operator epochId totalBytes payout) = true →
        ∃ leaf ∈ leaves, leaf.operator = operator ∧ leaf.epochId.val = epochId.val
          ∧ leaf.totalBytes.val = totalBytes.val ∧ leaf.payoutGoatWei.val = payout.val)
      ∧ (∀ (leaves : List Leaf), leaves ≠ [] → ∀ operator epochId totalBytes payout proof,
        NoCollision encodeLeaf leaves (proxyClaimBytes operator epochId totalBytes payout) proof →
        MerkleProof.verify proof (computeTree leaves).root
          (ProxyRevenueSettlement.leafOf operator epochId totalBytes payout) = false)
      ∧ ∀ (leaves : List ProxyLeaf), leaves ≠ [] → ∀ worker score proof,
        NoCollision abiEncodeProxyLeaf leaves (claimBytes worker score) proof →
        MerkleProof.verify proof (proxyTree leaves).root (Settlement.leafOf worker score)
        = false := by
  refine ⟨fun leaves i leaf h => ?_, fun leaves i leaf h => ?_,
    fun leaves hne worker score proof hfree h => ?_,
    fun leaves hne operator epochId totalBytes payout proof hfree h => ?_,
    fun leaves hne operator epochId totalBytes payout proof hfree => ?_,
    fun leaves hne worker score proof hfree => ?_⟩
  · rw [← leafHash_eq]
    exact MerkleTree.verify_proof h
  · rw [← proxyLeafHash_eq]
    exact MerkleTree.verify_proof h
  · rw [leafOf_eq] at h
    obtain ⟨leaf, hleaf, heq⟩ := mem_of_verify hne hfree h
    exact ⟨leaf, hleaf, encodeLeaf_inj heq⟩
  · rw [proxyLeafOf_eq] at h
    obtain ⟨leaf, hleaf, heq⟩ := mem_of_verify hne hfree h
    exact ⟨leaf, hleaf, encodeProxyLeaf_inj heq⟩
  · refine Bool.eq_false_iff.mpr fun h => ?_
    rw [proxyLeafOf_eq] at h
    obtain ⟨leaf, -, heq⟩ := mem_of_verify hne hfree h
    exact proxyClaimBytes_ne operator epochId totalBytes payout leaf heq
  · refine Bool.eq_false_iff.mpr fun h => ?_
    rw [leafOf_eq] at h
    obtain ⟨leaf, -, heq⟩ := mem_of_verify hne hfree h
    exact claimBytes_ne worker score leaf heq

/-! The accounts 5 and 6 have scored 7 and 8. -/

def sampleLeaves : List Leaf := [⟨5, 7⟩, ⟨6, 8⟩]

/-- The digests that the samples come down to. -/
structure SampleLeafHashes : Prop where
  five : keccak256 (encodeLeaf ⟨5, 7⟩)
    = 0xbcdda56b5d08466ec462cbbe0adfa57cb0a15fcc8940ef68f702f21b787bc935
  six : keccak256 (encodeLeaf ⟨6, 8⟩)
    = 0x13acf3fc7bed94759963f076d5d3443d88732026bffc8253bdf4a6e65f21ecc5
  fiveTwice :
    doubleHash (encodeLeaf ⟨5, 7⟩)
    = 0xf1cf871ab2ea4c3f93844be4cc4537cf547c7f8219f41c08bbe8d7ad439f1fd0
  sixTwice :
    doubleHash (encodeLeaf ⟨6, 8⟩)
    = 0x20d145c7b97142e53a50c0e4c2fdb06c001c5f743c901ce2842f9261a89ed14a
  pair : keccak256 (pairBytes (doubleHash (encodeLeaf ⟨5, 7⟩)) (doubleHash (encodeLeaf ⟨6, 8⟩)))
    = 0x5b1bd79b803880b64c39d40ef5be9e2c8ea05ea8c8854f08e3abd2706719a656

theorem sampleLeafHashes : SampleLeafHashes := by
  have hfive :
    keccak256 (encodeLeaf ⟨5, 7⟩)
    = 0xbcdda56b5d08466ec462cbbe0adfa57cb0a15fcc8940ef68f702f21b787bc935 := by
    rw [keccak256_eval]
    decide +kernel
  have hsix :
    keccak256 (encodeLeaf ⟨6, 8⟩)
    = 0x13acf3fc7bed94759963f076d5d3443d88732026bffc8253bdf4a6e65f21ecc5 := by
    rw [keccak256_eval]
    decide +kernel
  have hfiveTwice : doubleHash (encodeLeaf ⟨5, 7⟩)
      = 0xf1cf871ab2ea4c3f93844be4cc4537cf547c7f8219f41c08bbe8d7ad439f1fd0 := by
    rw [doubleHash, hfive, keccak256_eval]
    decide +kernel
  have hsixTwice : doubleHash (encodeLeaf ⟨6, 8⟩)
      = 0x20d145c7b97142e53a50c0e4c2fdb06c001c5f743c901ce2842f9261a89ed14a := by
    rw [doubleHash, hsix, keccak256_eval]
    decide +kernel
  refine ⟨hfive, hsix, hfiveTwice, hsixTwice, ?_⟩
  rw [hfiveTwice, hsixTwice, keccak256_eval]
  decide +kernel

/-- Everything that is hashed for the two leaves. -/
def sampleMessages : List (List UInt8) :=
  [encodeLeaf ⟨5, 7⟩, encodeLeaf ⟨6, 8⟩, abiWord (keccak256 (encodeLeaf ⟨5, 7⟩)).val,
   abiWord (keccak256 (encodeLeaf ⟨6, 8⟩)).val,
   pairBytes (doubleHash (encodeLeaf ⟨5, 7⟩)) (doubleHash (encodeLeaf ⟨6, 8⟩))]

theorem sampleMessages_nodup : (sampleMessages.map keccak256).Nodup := by
  obtain ⟨hfive, hsix, hfiveTwice, hsixTwice, hpair⟩ := sampleLeafHashes
  rw [doubleHash] at hfiveTwice hsixTwice
  simp only [sampleMessages, List.map_cons, List.map_nil, hpair, hfiveTwice, hsixTwice]
  rw [hfive, hsix]
  decide

theorem mem_sampleLeaves {leaf : Leaf} (h : leaf ∈ sampleLeaves) : leaf = ⟨5, 7⟩
    ∨ leaf = ⟨6, 8⟩ := by
  rcases List.mem_cons.mp h with h | h
  · exact .inl h
  · exact .inr (List.mem_singleton.mp h)

theorem couples_sample {a b : Bytes32} {n : Nat} {c : Bytes32 × Bytes32}
    (h : c ∈ PairTree.couples ((PairTree.up commutativeKeccak256)^[n] [a, b])) : c = (a, b) := by
  cases n with
  | zero => exact List.mem_singleton.mp h
  | succ n =>
      have hroot : (PairTree.up commutativeKeccak256)^[n + 1] [a, b] = [commutativeKeccak256 a b] :=
        Function.iterate_fixed rfl n
      rw [hroot] at h
      cases h

theorem sample_noCollision :
    NoCollision encodeLeaf sampleLeaves (claimBytes 5 7) [leafHash ⟨6, 8⟩] := by
  have hall : ∀ m, TreeMessage encodeLeaf sampleLeaves m
      ∨ ProofMessage (claimBytes 5 7) [leafHash ⟨6, 8⟩] m → m ∈ sampleMessages := by
    have hfive : claimBytes 5 7 = encodeLeaf ⟨5, 7⟩ := (abiEncodeAddressUint256_eq 5 7).symm
    rw [hfive]
    rintro m (hm | hm)
    · cases hm with
      | leaf h =>
          rcases mem_sampleLeaves h with rfl | rfl
          · exact List.mem_cons_self
          · exact List.mem_cons_of_mem _ List.mem_cons_self
      | word h =>
          rcases mem_sampleLeaves h with rfl | rfl
          · simp [sampleMessages]
          · simp [sampleMessages]
      | node h =>
          rw [couples_sample h]
          simp [sampleMessages]
    · cases hm with
      | leaf => exact List.mem_cons_self
      | word => simp [sampleMessages]
      | node h =>
          rw [List.mem_singleton.mp h]
          simp [sampleMessages, leafHash, encodeLeaf]
  exact fun m hm m' hm' h =>
    List.inj_on_of_nodup_map sampleMessages_nodup (hall m hm) (hall m' hm') h

theorem merkle_agreement_sample : ∃ proof, (computeTree sampleLeaves).proof 0 = .ok proof
    ∧ MerkleProof.verify proof (computeTree sampleLeaves).root (Settlement.leafOf 5 7) = true
    ∧ ∃ leaf ∈ sampleLeaves, leaf.wallet = 5 ∧ leaf.cumulativeScore.val = 7 := by
  obtain ⟨hcomplete, -, hsound, -⟩ := merkle_agreement
  obtain ⟨proof, hproof, hverify⟩ := hcomplete sampleLeaves 0 ⟨5, 7⟩ rfl
  have hsibling : (computeTree sampleLeaves).proof 0 = .ok [leafHash ⟨6, 8⟩] := rfl
  rw [hsibling] at hproof
  cases hproof
  exact ⟨_, hsibling, hverify, hsound sampleLeaves (by decide) 5 7 _ sample_noCollision hverify⟩

end GoatCoin.Attestor
