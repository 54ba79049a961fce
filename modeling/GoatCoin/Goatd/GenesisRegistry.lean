/-
# `GoatCoin.Goatd.GenesisRegistry` — the registry that a genesis document yields

Outside dev mode the daemon starts only on a genesis document that it could read, with
full-length keys and the chain id it was built for.  The registry is then a map from node
ids to keys, and an empty map stands for "accept all":

    keys.is_empty()     every pair is authorised          (meant for dev mode)
    otherwise           the key last listed for the node id

Nothing on the way asks whether the document lists anyone.  So the start is fail-closed
exactly for the documents that list at least one orchestrator (`fail_closed_iff`).
-/
import Mathlib.Data.List.AList
import GoatCoin.Lib.Assoc
import GoatCoin.Lib.Rows
import GoatCoin.Core.Crypto

namespace GoatCoin

/-! ## The document -/

/-- What `serde` keeps of a genesis document. -/
structure RawOrchestrator where
  nodeId : String
  mlDsa65PublicKey : String

structure RawGenesis where
  genesisTimeUnix : UInt64
  chainIdU32 : Option ChainId
  genesisOrchestrators : List RawOrchestrator

structure GenesisConfig where
  genesisTimeUnix : UInt64
  chainId : Option ChainId
  orchestrators : List (Bytes 32 × PublicKey)

inductive GenesisError where
  | io
  | parse
  | badNodeId (i : Nat)
  | badPublicKey (i : Nat)
deriving DecidableEq

/-- One hex nibble. -/
def hexVal (c : UInt8) : Option UInt8 :=
  if 48 ≤ c ∧ c ≤ 57 then some (c - 48)
  else if 97 ≤ c ∧ c ≤ 102 then some (c - 97 + 10)
  else if 65 ≤ c ∧ c ≤ 70 then some (c - 65 + 10)
  else none

/-- The whole chunks of two, each a byte. -/
def decodeChunks : List UInt8 → Option (List UInt8)
  | hi :: lo :: rest => do
      let h ← hexVal hi
      let l ← hexVal lo
      let bytes ← decodeChunks rest
      pure ((h <<< 4 ||| l) :: bytes)
  | _ => some []

def decodeHex (s : String) : Option (List UInt8) :=
  let bytes := s.toUTF8.toList
  if bytes.length % 2 ≠ 0 then none else decodeChunks bytes

def parseNodeIdHex (s : String) : Option (Bytes 32) :=
  match decodeHex s with
  | none => none
  | some bytes => if h : bytes.length = 32 then some ⟨bytes, h⟩ else none

/-- In strict mode a key has its full length; otherwise a shorter one is extended by zeros. -/
def parsePubkeyHex (s : String) (strict : Bool) : Option PublicKey :=
  match decodeHex s with
  | none => none
  | some bytes =>
      if strict && bytes.length != mlDsa65PublicKeyLen then none
      else if h : mlDsa65PublicKeyLen < bytes.length then none
      else some ⟨bytes ++ List.replicate (mlDsa65PublicKeyLen - bytes.length) 0, by
        rw [List.length_append, List.length_replicate]; omega⟩

/-- The loop over the orchestrators, the first of which has the number `i`. -/
def parseOrchestrators (strict : Bool) (i : Nat) :
    List RawOrchestrator → Except GenesisError (List (Bytes 32 × PublicKey))
  | [] => .ok []
  | o :: rest =>
      match parseNodeIdHex o.nodeId with
      | none => .error (.badNodeId i)
      | some nodeId =>
          match parsePubkeyHex o.mlDsa65PublicKey strict with
          | none => .error (.badPublicKey i)
          | some pk => (parseOrchestrators strict (i + 1) rest).map ((nodeId, pk) :: ·)

section
-- `serde_json::from_str` into `RawGenesis`
variable (fromStr : String → Option RawGenesis)

/-- The genesis file, checked. -/
def parseGenesisStr (text : String) (strict : Bool) : Except GenesisError GenesisConfig :=
  match fromStr text with
  | none => .error .parse
  | some raw =>
      (parseOrchestrators strict 0 raw.genesisOrchestrators).map fun orchestrators =>
        ⟨raw.genesisTimeUnix, raw.chainIdU32, orchestrators⟩

/-- The text of the file, or `none` if it could not be read. -/
def loadGenesis (file : Option String) (strict : Bool) : Except GenesisError GenesisConfig :=
  match file with
  | none => .error .io
  | some text => parseGenesisStr fromStr text strict

end

/-! ## The registry -/

structure StaticKeyRegistry where
  keys : Assoc.Map (Bytes 32) PublicKey

namespace StaticKeyRegistry

def acceptAll : StaticKeyRegistry := ⟨∅⟩

def fromConfig (config : GenesisConfig) : StaticKeyRegistry :=
  ⟨config.orchestrators.foldl (fun keys o => keys.insert o.1 o.2) ∅⟩

def isAuthorized (registry : StaticKeyRegistry) : KeyRegistry := fun publicKey nodeId =>
  if registry.keys.entries.isEmpty then true
  else ((registry.keys.lookup nodeId).map (· == publicKey)).getD false

end StaticKeyRegistry

/-! ## The start -/

inductive ChainIdError where
  | mismatch (declared active : ChainId)
  | missing (active : ChainId)
deriving DecidableEq

/-- The genesis is for this chain. -/
def chainIdOk (genesisChain : Option ChainId) (active : ChainId) (dev : Bool) :
    Except ChainIdError Unit :=
  match genesisChain with
  | some c => if c = active then .ok () else .error (.mismatch c active)
  | none => if dev then .ok () else .error (.missing active)

/-- Why `main` ends before it has a registry. -/
inductive Fatal where
  | genesis (e : GenesisError)
  | chainId (e : ChainIdError)
deriving DecidableEq

/-- The part of `main` from the genesis file to the registry. -/
def startRegistry (fromStr : String → Option RawGenesis) (file : Option String) (dev : Bool) :
    Except Fatal StaticKeyRegistry :=
  match loadGenesis fromStr file (!dev) with
  | .ok g =>
      match chainIdOk g.chainId activeChainId dev with
      | .ok _ => .ok (.fromConfig g)
      | .error e => .error (.chainId e)
  | .error e => if dev then .ok .acceptAll else .error (.genesis e)

/-! ## What a document lists -/

/-- The document lists the pair. -/
def RawGenesis.Lists (raw : RawGenesis) (publicKey : PublicKey) (nodeId : Bytes 32) : Prop :=
  ∃ o ∈ raw.genesisOrchestrators,
    decodeHex o.nodeId = some nodeId.toList ∧ decodeHex o.mlDsa65PublicKey = some publicKey.toList

/-- **Fail-closed**: what is authorised is listed, and not everything is authorised. -/
structure FailClosed (registry : StaticKeyRegistry) (raw : RawGenesis) : Prop where
  listed : ∀ publicKey nodeId, registry.isAuthorized publicKey nodeId = true →
    raw.Lists publicKey nodeId
  notAll : ¬ ∀ publicKey nodeId, registry.isAuthorized publicKey nodeId = true

theorem parseNodeIdHex_some {s : String} {nodeId : Bytes 32} (h : parseNodeIdHex s = some nodeId) :
    decodeHex s = some nodeId.toList := by
  unfold parseNodeIdHex at h
  split at h
  · cases h
  · rename_i bytes hbytes
    split at h
    · cases h
      exact hbytes
    · cases h

theorem parsePubkeyHex_strict {s : String} {pk : PublicKey} (h : parsePubkeyHex s true = some pk) :
    decodeHex s = some pk.toList := by
  unfold parsePubkeyHex at h
  split at h
  · cases h
  · rename_i bytes hbytes
    split at h
    · cases h
    · rename_i hlen
      have hfull : bytes.length = mlDsa65PublicKeyLen := by simpa using hlen
      split at h
      · cases h
      · cases h
        rw [hbytes]
        show some bytes = some (bytes ++ List.replicate (mlDsa65PublicKeyLen - bytes.length) 0)
        rw [hfull, Nat.sub_self, List.replicate_zero, List.append_nil]

theorem parseOrchestrators_ok {rows : List RawOrchestrator} :
    ∀ {i : Nat} {out : List (Bytes 32 × PublicKey)}, parseOrchestrators true i rows = .ok out →
    List.Forall₂ (fun o p => decodeHex o.nodeId = some p.1.toList
      ∧ decodeHex o.mlDsa65PublicKey = some p.2.toList) rows out := by
  induction rows with
  | nil =>
      intro i out h
      cases h
      exact .nil
  | cons o rows ih =>
      intro i out h
      rw [parseOrchestrators] at h
      split at h
      · cases h
      · rename_i nodeId hnode
        split at h
        · cases h
        · rename_i pk hpk
          cases hrest : parseOrchestrators true (i + 1) rows with
          | error e =>
              rw [hrest] at h
              cases h
          | ok rest =>
              rw [hrest] at h
              cases h
              exact .cons ⟨parseNodeIdHex_some hnode, parsePubkeyHex_strict hpk⟩ (ih hrest)

theorem parseGenesisStr_ok {fromStr : String → Option RawGenesis} {text : String} {strict : Bool}
    {raw : RawGenesis} {config : GenesisConfig} (hraw : fromStr text = some raw)
    (h : parseGenesisStr fromStr text strict = .ok config) :
    parseOrchestrators strict 0 raw.genesisOrchestrators = .ok config.orchestrators := by
  unfold parseGenesisStr at h
  rw [hraw] at h
  dsimp only at h
  cases hrows : parseOrchestrators strict 0 raw.genesisOrchestrators with
  | error e =>
      rw [hrows] at h
      cases h
  | ok rows =>
      rw [hrows] at h
      cases h
      rfl

/-! ## What a registry authorises -/

namespace StaticKeyRegistry

theorem lookup_foldl {rows : List (Bytes 32 × PublicKey)} :
    ∀ {keys : Assoc.Map (Bytes 32) PublicKey} {nodeId : Bytes 32} {pk : PublicKey},
    (rows.foldl (fun keys o => keys.insert o.1 o.2) keys).lookup nodeId = some pk →
    (nodeId, pk) ∈ rows ∨ keys.lookup nodeId = some pk := by
  induction rows with
  | nil =>
      intro keys nodeId pk h
      exact .inr h
  | cons o rows ih =>
      intro keys nodeId pk h
      rcases ih h with hmem | hkeys
      · exact .inl (List.mem_cons_of_mem o hmem)
      · by_cases heq : nodeId = o.1
        · subst heq
          rw [AList.lookup_insert] at hkeys
          cases hkeys
          exact .inl List.mem_cons_self
        · rw [AList.lookup_insert_ne heq] at hkeys
          exact .inr hkeys

theorem isSome_lookup_foldl {rows : List (Bytes 32 × PublicKey)} :
    ∀ {keys : Assoc.Map (Bytes 32) PublicKey} {nodeId : Bytes 32},
    (∃ pk, (nodeId, pk) ∈ rows) ∨ (keys.lookup nodeId).isSome →
    ((rows.foldl (fun keys o => keys.insert o.1 o.2) keys).lookup nodeId).isSome := by
  induction rows with
  | nil =>
      rintro keys nodeId (⟨pk, hmem⟩ | h)
      · cases hmem
      · exact h
  | cons o rows ih =>
      rintro keys nodeId h
      refine ih ?_
      by_cases heq : nodeId = o.1
      · rw [heq, AList.lookup_insert]
        exact .inr rfl
      · rw [AList.lookup_insert_ne heq]
        refine h.imp_left ?_
        rintro ⟨pk, hmem⟩
        rcases List.mem_cons.mp hmem with hhead | hmem
        · exact absurd (congrArg Prod.fst hhead) heq
        · exact ⟨pk, hmem⟩

variable {config : GenesisConfig} {nodeId : Bytes 32} {pk : PublicKey}

theorem lookup_fromConfig
    (h : (fromConfig config).keys.lookup nodeId = some pk) :
    (nodeId, pk) ∈ config.orchestrators := by
  rcases lookup_foldl h with hmem | hempty
  · exact hmem
  · rw [AList.lookup_empty] at hempty
    cases hempty

theorem isSome_lookup_fromConfig
    (h : (nodeId, pk) ∈ config.orchestrators) : ((fromConfig config).keys.lookup nodeId).isSome :=
  isSome_lookup_foldl (.inl ⟨pk, h⟩)

theorem fromConfig_nil (h : config.orchestrators = []) :
    fromConfig config = acceptAll := by
  rw [fromConfig, h]
  rfl

theorem isAuthorized_acceptAll (publicKey : PublicKey) (nodeId : Bytes 32) :
    acceptAll.isAuthorized publicKey nodeId = true := rfl

/-- A registry with a key authorises that id under that key only. -/
theorem isAuthorized_iff {registry : StaticKeyRegistry}
    (h : registry.keys.lookup nodeId = some pk) (publicKey : PublicKey) (nodeId' : Bytes 32) :
    registry.isAuthorized publicKey nodeId' = true
    ↔ registry.keys.lookup nodeId' = some publicKey := by
  have hne : registry.keys.entries.isEmpty = false := by
    rw [List.isEmpty_eq_false_iff]
    intro hnil
    have hempty : registry.keys = ∅ := AList.ext hnil
    rw [hempty, AList.lookup_empty] at h
    cases h
  unfold isAuthorized
  rw [hne]
  cases registry.keys.lookup nodeId' with
  | none => exact ⟨nofun, nofun⟩
  | some k =>
      show (k == publicKey) = true ↔ some k = some publicKey
      rw [beq_iff_eq, Option.some.injEq]

end StaticKeyRegistry

open StaticKeyRegistry

theorem exists_other_key (pk : PublicKey) : ∃ pk' : PublicKey, pk' ≠ pk := by
  by_cases h : pk = .replicate _ 0
  · refine ⟨.replicate _ 1, fun heq => ?_⟩
    rw [h] at heq
    have hfirst := congrArg (fun v : PublicKey => v.get ⟨0, by decide⟩) heq
    rw [List.Vector.get_replicate, List.Vector.get_replicate] at hfirst
    cases hfirst
  · exact ⟨.replicate _ 0, Ne.symm h⟩

theorem failClosed_fromConfig_iff {raw : RawGenesis} {config : GenesisConfig}
    (h : parseOrchestrators true 0 raw.genesisOrchestrators = .ok config.orchestrators) :
    FailClosed (fromConfig config) raw ↔ raw.genesisOrchestrators ≠ [] := by
  have hrows := parseOrchestrators_ok h
  constructor
  · intro hclosed hnil
    rw [hnil] at hrows
    refine hclosed.notAll ?_
    rw [fromConfig_nil (List.forall₂_nil_left_iff.mp hrows)]
    exact isAuthorized_acceptAll
  · intro hne
    obtain ⟨⟨nodeId, pk⟩, hmem⟩ : ∃ p, p ∈ config.orchestrators := by
      refine List.exists_mem_of_ne_nil _ fun hnil => hne ?_
      rw [hnil] at hrows
      exact List.forall₂_nil_right_iff.mp hrows
    obtain ⟨kept, hkept⟩ := Option.isSome_iff_exists.mp
      (isSome_lookup_fromConfig hmem)
    have hauth := isAuthorized_iff hkept
    constructor
    · intro publicKey nodeId' hok
      have hlisted := lookup_fromConfig ((hauth publicKey nodeId').mp hok)
      obtain ⟨o, ho, hdecoded⟩ := Rows.forall₂_mem_right hrows hlisted
      exact ⟨o, ho, hdecoded⟩
    · intro hall
      obtain ⟨other, hother⟩ := exists_other_key kept
      have hlookup := (hauth other nodeId).mp (hall other nodeId)
      exact hother (Option.some.inj (hlookup.symm.trans hkept))

theorem loadGenesis_some {fromStr : String → Option RawGenesis} {text : String} :
    loadGenesis fromStr (some text) (!false) = parseGenesisStr fromStr text true := rfl

theorem startRegistry_ok {fromStr : String → Option RawGenesis} {text : String}
    {registry : StaticKeyRegistry} (h : startRegistry fromStr (some text) false = .ok registry) :
    ∃ config, parseGenesisStr fromStr text true = .ok config ∧ registry = fromConfig config := by
  rw [startRegistry, loadGenesis_some] at h
  split at h
  · rename_i config hparse
    split at h
    · cases h
      exact ⟨config, hparse, rfl⟩
    · cases h
  · cases h

/-- **The start is fail-closed exactly for the documents that list someone**: for every text that is
accepted in strict mode, and for every start outside dev mode, the registry authorises no more than
the listed pairs, and not everything, if and only if the list is not empty. -/
theorem fail_closed_iff (fromStr : String → Option RawGenesis) (text : String) (raw : RawGenesis)
    (hraw : fromStr text = some raw) :
    (∀ config, parseGenesisStr fromStr text true = .ok config →
      (FailClosed (fromConfig config) raw ↔ raw.genesisOrchestrators ≠ [])) ∧
    (∀ registry, startRegistry fromStr (some text) false = .ok registry →
      (FailClosed registry raw ↔ raw.genesisOrchestrators ≠ [])) := by
  have hparsed : ∀ config, parseGenesisStr fromStr text true = .ok config →
      (FailClosed (fromConfig config) raw ↔ raw.genesisOrchestrators ≠ []) :=
    fun config hconfig => failClosed_fromConfig_iff (parseGenesisStr_ok hraw hconfig)
  refine ⟨hparsed, fun registry hstart => ?_⟩
  obtain ⟨config, hconfig, rfl⟩ := startRegistry_ok hstart
  exact hparsed config hconfig

/-- A document for the test network that lists nobody. -/
def emptyGenesisText : String :=
  "\x7b\"network\":\x7b\"genesis_time_unix\":1,\"chain_id_u32\":1621589591\x7d," ++
  "\"key_registry\":\x7b\"genesis_orchestrators\":[]\x7d\x7d"

def emptyGenesis : RawGenesis := ⟨1, some 1621589591, []⟩

/-- `serde_json`, as far as this document goes. -/
def readEmptyGenesis (text : String) : Option RawGenesis :=
  if text = emptyGenesisText then some emptyGenesis else none

theorem readEmptyGenesis_text : readEmptyGenesis emptyGenesisText = some emptyGenesis := if_pos rfl

theorem emptyGenesis_starts :
    parseGenesisStr readEmptyGenesis emptyGenesisText true = .ok ⟨1, some 1621589591, []⟩ ∧
    startRegistry readEmptyGenesis (some emptyGenesisText) false = .ok .acceptAll := by
  have hparse :
    parseGenesisStr readEmptyGenesis emptyGenesisText true = .ok ⟨1, some 1621589591, []⟩ := by
    unfold parseGenesisStr
    rw [readEmptyGenesis_text]
    rfl
  refine ⟨hparse, ?_⟩
  rw [startRegistry, loadGenesis_some, hparse]
  rfl

theorem emptyGenesis_not_failClosed : ¬ FailClosed .acceptAll emptyGenesis := by
  intro hclosed
  have hiff :=
    (fail_closed_iff readEmptyGenesis emptyGenesisText emptyGenesis readEmptyGenesis_text).2
    .acceptAll emptyGenesis_starts.2
  exact hiff.mp hclosed rfl

/-- **Fail-open**: it is accepted in strict mode, the daemon starts on it outside dev mode, and
every pair is authorised though none is listed. -/
theorem empty_genesis_authorises_all :
    ∃ config, parseGenesisStr readEmptyGenesis emptyGenesisText true = .ok config ∧
      startRegistry readEmptyGenesis (some emptyGenesisText) false = .ok (fromConfig config) ∧
      ∀ publicKey nodeId, (fromConfig config).isAuthorized publicKey nodeId = true
        ∧ ¬ emptyGenesis.Lists publicKey nodeId := by
  refine ⟨_, emptyGenesis_starts.1, emptyGenesis_starts.2, fun publicKey nodeId => ⟨rfl, ?_⟩⟩
  rintro ⟨o, ho, -⟩
  cases ho

end GoatCoin
