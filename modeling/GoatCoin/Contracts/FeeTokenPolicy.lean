/-
# `GoatCoin.Contracts.FeeTokenPolicy` — what becomes of a fee token's configuration

An intent names the configuration of its fee token by hash, and the hash is of a record that holds
its own version. The policy Safe writes the records:

    upsertTokenConfig     version + 1, the record as given
    deactivateToken       version + 1, the stored record, no longer active

so that a record never comes back once it was written over (`versions_identify`).
-/
import GoatCoin.Contracts.FeeTokens
import GoatCoin.Lib.Runs

namespace GoatCoin

open Function (update update_self update_of_ne)
open Evm StreamG

/-- A transaction to the registry. -/
inductive FeeTokenCall where
  | setActiveManifestHash (sender : Address) (manifestHash : Bytes32)
  | setRoleCommitment (sender : Address) (roleId : Bytes32) (addr : Address)
    (runtimeCodeHash : Bytes32)
  | upsertTokenConfig (sender : Address) (cfg : FeeTokenConfig)
  | deactivateToken (sender token : Address)

namespace FeeTokenRegistry

/-- A slot that was never written. -/
def unset : FeeTokenConfig := ⟨0, 0, 0, 0, 0, 0, 0, 0, 0, 0, false⟩

def initial : FeeTokenRegistry := ⟨0, fun _ => ⟨0, 0⟩, fun _ => unset, fun _ => 0⟩

def call (policySafe : Address) (f : FeeTokenRegistry) : FeeTokenCall →
    Except Revert FeeTokenRegistry
  | .setActiveManifestHash sender manifestHash =>
      f.setActiveManifestHash policySafe sender manifestHash
  | .setRoleCommitment sender roleId addr runtimeCodeHash =>
      f.setRoleCommitment policySafe sender roleId addr runtimeCodeHash
  | .upsertTokenConfig sender cfg => f.upsertTokenConfig policySafe sender cfg
  | .deactivateToken sender token => f.deactivateToken policySafe sender token

def run (policySafe : Address) (calls : List FeeTokenCall) : FeeTokenRegistry :=
  calls.foldl (attempt (call policySafe)) initial

def version (f : FeeTokenRegistry) (token : Address) : Nat :=
  (f.tokenConfigs token).configVersion.val

/-- **A slot** was never written, or holds a token's own record and its hash. -/
def Coherent (f : FeeTokenRegistry) : Prop :=
  ∀ token, (f.tokenConfigs token = unset ∧ f.tokenConfigHashes token = 0)
    ∨ (token ≠ 0 ∧ (f.tokenConfigs token).token = token
      ∧ (f.tokenConfigs token).proxyIdentityHash = 0
      ∧ 0 < f.version token ∧ f.tokenConfigHashes token = hashConfig (f.tokenConfigs token))

/-- Nothing is written, or the next version of one record. -/
inductive Advances (f f' : FeeTokenRegistry) : Prop where
  | same (hconfigs : f'.tokenConfigs = f.tokenConfigs)
    (hhashes : f'.tokenConfigHashes = f.tokenConfigHashes)
  | next {cfg : FeeTokenConfig} (htoken : cfg.token ≠ 0) (hproxy : cfg.proxyIdentityHash = 0)
      (hversion : cfg.configVersion.val = f.version cfg.token + 1)
      (hconfigs : f'.tokenConfigs = update f.tokenConfigs cfg.token cfg)
      (hhashes : f'.tokenConfigHashes = update f.tokenConfigHashes cfg.token (hashConfig cfg))

variable (policySafe : Address) {f f' : FeeTokenRegistry}

/-- **What a call that succeeds does.** -/
theorem advances_of_call (hf : f.Coherent) {k : FeeTokenCall}
    (h : call policySafe f k = .ok f') : f.Advances f' := by
  cases k with
  | setActiveManifestHash sender manifestHash =>
      obtain ⟨_, -, h⟩ := bind_ok.mp h
      cases h
      exact .same rfl rfl
  | setRoleCommitment sender roleId addr runtimeCodeHash =>
      obtain ⟨_, -, _, -, h⟩ := bind_ok₂.mp h
      cases h
      exact .same rfl rfl
  | upsertTokenConfig sender cfg =>
      obtain ⟨_, -, _, htoken, _, -, next, hnext, h⟩ := bind_ok₄.mp h
      cases h
      obtain ⟨hlt, rfl⟩ := checked_ok.mp hnext
      refine .next ?_ ?_ ?_ rfl rfl
      · exact require_ok.mp htoken
      · rfl
      · exact Nat.mod_eq_of_lt hlt
  | deactivateToken sender token =>
      obtain ⟨_, -, _, -, _, hset, next, hnext, h⟩ := bind_ok₄.mp h
      cases h
      obtain ⟨hlt, rfl⟩ := checked_ok.mp hnext
      rcases hf token with ⟨hunset, -⟩ | ⟨hzero, hown, hproxy, -, -⟩
      · exact absurd (congrArg FeeTokenConfig.configVersion hunset) (require_ok.mp hset)
      · -- the record is the token's own, so its slot is the one that it names
        refine @Advances.next f _ { f.tokenConfigs token with
          active := false, configVersion := Fin.ofNat _ (f.version token + 1) } ?_ hproxy ?_ ?_ ?_
        · exact hown.symm ▸ hzero
        · show _ % 2 ^ 64 = f.version (f.tokenConfigs token).token + 1
          rw [hown]
          exact Nat.mod_eq_of_lt hlt
        all_goals dsimp only; rw [hown]; rfl

theorem Advances.coherent (h : f.Advances f') (hf : f.Coherent) : f'.Coherent := by
  cases h with
  | same hconfigs hhashes =>
      intro token
      rw [version, hconfigs, hhashes]
      exact hf token
  | @next cfg htoken hproxy hversion hconfigs hhashes =>
      intro token
      rw [version, hconfigs, hhashes]
      rcases eq_or_ne token cfg.token with rfl | hne
      · rw [update_self, update_self]
        exact .inr ⟨htoken, rfl, hproxy, by omega, rfl⟩
      · rw [update_of_ne hne, update_of_ne hne]
        exact hf token

/-- The same record, or a later version. -/
def Later (f f' : FeeTokenRegistry) (token : Address) : Prop :=
  (f'.tokenConfigs token = f.tokenConfigs token
    ∧ f'.tokenConfigHashes token = f.tokenConfigHashes token)
    ∨ f.version token < f'.version token

theorem Later.trans {f'' : FeeTokenRegistry} {token : Address} (h : f.Later f' token)
    (h' : f'.Later f'' token) : f.Later f'' token := by
  unfold Later version at *
  rcases h with ⟨hc, hh⟩ | hlt
  · rwa [hc, hh] at h'
  · rcases h' with ⟨hc', -⟩ | hlt'
    · rw [hc']
      exact .inr hlt
    · exact .inr (hlt.trans hlt')

theorem Advances.later (h : f.Advances f') (token : Address) : f.Later f' token := by
  cases h with
  | same hconfigs hhashes => exact .inl ⟨congrFun hconfigs token, congrFun hhashes token⟩
  | @next cfg htoken hproxy hversion hconfigs hhashes =>
      unfold Later version
      rw [hconfigs, hhashes]
      rcases eq_or_ne token cfg.token with rfl | hne
      · rw [update_self]
        exact .inr (by rw [hversion]; exact Nat.lt_succ_self _)
      · rw [update_of_ne hne, update_of_ne hne]
        exact .inl ⟨rfl, rfl⟩

theorem attempt_advances (hf : f.Coherent) (k : FeeTokenCall) :
    f.Advances (attempt (call policySafe) f k) := by
  rcases attempt_cases (call policySafe) f k with ⟨heq, -⟩ | hok
  · rw [heq]
    exact .same rfl rfl
  · exact advances_of_call policySafe hf hok

theorem coherent_run (calls : List FeeTokenCall) : (run policySafe calls).Coherent := by
  refine Runs.invariant (fun f k hf => ?_) calls initial ?_
  · exact (attempt_advances policySafe hf k).coherent hf
  · exact fun token => .inl ⟨rfl, rfl⟩

/-- **Whoever calls the registry**, in any order: every slot is coherent, and between two moments a
token's record is the same or its version has grown, so that a version never stands for two
records. -/
theorem versions_identify (policySafe : Address) (before after : List FeeTokenCall) :
    (run policySafe (before ++ after)).Coherent
      ∧ ∀ token, (run policySafe before).Later (run policySafe (before ++ after)) token := by
  refine ⟨coherent_run policySafe _, fun token => ?_⟩
  induction after using List.reverseRecOn with
  | nil =>
      rw [List.append_nil]
      exact .inl ⟨rfl, rfl⟩
  | append_singleton after k ih =>
      have hstep :=
        (attempt_advances policySafe (coherent_run policySafe (before ++ after)) k).later token
      have hrun : run policySafe (before ++ (after ++ [k])) = attempt (call policySafe)
        (run policySafe (before ++ after)) k := by
        rw [← List.append_assoc]
        exact Runs.foldl_snoc (before ++ after) k initial
      rw [hrun]
      exact ih.trans hstep

end FeeTokenRegistry

end GoatCoin
