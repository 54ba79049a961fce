/-
# `GoatCoin.Contracts.Wallets` — the stars of `WalletSponsorshipRegistry.sol`

A root is its own primary, a secondary has a root for its primary, and a root has one
controller, which is the root itself until it is rotated:

    primaryOf          secondary ──▶ root ──▶ root           once set, set for good
    controllerOf       root ──▶ controller                   changed with the epoch
    controlledRootOf   controller ──▶ root

What a call checks is part of what it needs: that a new controller is nobody's secondary is
checked, that it will not become one is checked where secondaries are linked.  The invariant
`Topology` is strong enough for every call.

`scheduleRecovery` asks `primaryOf[root] == root` of a root, and the zero address passes: a
recovery of it gives the zero address a controller, and nothing else knows of that one.
-/
import GoatCoin.Contracts.FeeTokens
import GoatCoin.Lib.Runs

namespace GoatCoin

open Function (update update_self update_of_ne update_eq_self)
open Evm StreamG

/-- The immutables. -/
structure WalletSponsorshipRegistry.Config where
  enrollmentRegistry : Address
  feeTokenRegistry : Address
  policySafe : Address
  recoverySafe : Address
  recoveryTimelock : Uint256

structure RecoverySchedule where
  root : Address
  newController : Address
  expectedRotationNonce : Nat
  expectedControllerEpoch : Nat
  readyAt : Nat
  executed : Bool
  known : Bool

def RecoverySchedule.empty : RecoverySchedule := ⟨0, 0, 0, 0, 0, false, false⟩

structure WalletSponsorshipRegistry where
  gateway : Address
  gatewayBound : Bool
  primaryOf : Address → Address
  controllerOf : Address → Address
  controlledRootOf : Address → Address
  controllerEpoch : Address → Nat
  rootRegistrationNonces : Address → Nat
  linkNonces : Address → Nat
  rotationNonces : Address → Nat
  suspendedClusters : Address → Bool
  profileIssuers : Address → Bool
  recoverySchedules : Bytes32 → RecoverySchedule

/-- `_requireV1Eligible`. -/
def EnrollmentRegistry.requireV1Eligible (v1 : EnrollmentRegistry) (wallet : Address) :
    Except Revert Unit :=
  require (v1.enrolled wallet = true ∧ v1.blacklisted wallet = false) .notV1Eligible

namespace WalletSponsorshipRegistry

/-- The constructor; a short timelock is allowed. -/
def new (c : Config) : Except Revert WalletSponsorshipRegistry := do
  require (¬ (c.enrollmentRegistry = 0 ∨ c.feeTokenRegistry = 0 ∨ c.policySafe = 0
    ∨ c.recoverySafe = 0)) .zeroAddress
  .ok
    { gateway := 0
      gatewayBound := false
      primaryOf := fun _ => 0
      controllerOf := fun _ => 0
      controlledRootOf := fun _ => 0
      controllerEpoch := fun _ => 0
      rootRegistrationNonces := fun _ => 0
      linkNonces := fun _ => 0
      rotationNonces := fun _ => 0
      suspendedClusters := fun _ => false
      profileIssuers := fun _ => false
      recoverySchedules := fun _ => .empty }

variable (w : WalletSponsorshipRegistry)

def domain (chainId : Uint256) (self : Address) : Bytes32 :=
  domainSeparator "GoatWalletSponsorship" "1" chainId self

/-- The gateway, named once. -/
def bindGatewayOnce (cfg : Config) (fees : FeeTokenRegistry) (site : Site)
    (sender gateway : Address) : Except Revert WalletSponsorshipRegistry := do
  require (sender = cfg.policySafe) .notPolicySafe
  require (w.gatewayBound = false) .gatewayAlreadyBound
  require (gateway ≠ 0) .zeroAddress
  let commitment := fees.roleCommitments roleGateway
  require (commitment.addr = gateway ∧ site.codehash gateway = commitment.runtimeCodeHash)
    .gatewayCodeMismatch
  .ok { w with gateway, gatewayBound := true }

def setProfileIssuer (cfg : Config) (sender issuer : Address) (allowed : Bool) :
    Except Revert WalletSponsorshipRegistry := do
  require (sender = cfg.policySafe) .notPolicySafe
  require (issuer ≠ 0) .zeroAddress
  .ok { w with profileIssuers := update w.profileIssuers issuer allowed }

def setClusterSuspended (cfg : Config) (sender root : Address) (status : Bool) :
    Except Revert WalletSponsorshipRegistry := do
  require (sender = cfg.policySafe) .notPolicySafe
  require (w.primaryOf root = root) .rootNotRegistered
  .ok { w with suspendedClusters := update w.suspendedClusters root status }

/-- The root becomes its own primary and controller. -/
def enterRoot (root : Address) (nonce : Nat) : WalletSponsorshipRegistry :=
  { w with
    rootRegistrationNonces := update w.rootRegistrationNonces root nonce
    primaryOf := update w.primaryOf root root
    controllerOf := update w.controllerOf root root
    controlledRootOf := update w.controlledRootOf root root }

def registerPrimary (e : Ecdsa) (domain : Bytes32) (v1 : EnrollmentRegistry) (now : Nat)
    (auth : RootAuthorization) (issuerSignature : EthSignature) :
    Except Revert WalletSponsorshipRegistry := do
  require (auth.root ≠ 0) .zeroAddress
  require (¬ (auth.secondary ≠ 0 ∨ auth.linkDigest ≠ 0)) .invalidRootAuthorization
  require (auth.enrollDigest ≠ 0) .invalidRootAuthorization
  require (now < auth.deadline.val) .expiredSignature
  require (¬ (w.primaryOf auth.root ≠ 0 ∨ w.controlledRootOf auth.root ≠ 0)) .rootAlreadyRegistered
  require (auth.nonce.val = w.rootRegistrationNonces auth.root) .invalidRootAuthorization
  v1.requireV1Eligible auth.root
  let signer ← e.recover (hashTypedData domain (rootAuthorizationStructHash auth)) issuerSignature
  require (w.profileIssuers signer = true) .badIssuerSignature
  let nonce ← checked 256 (auth.nonce.val + 1) .panic
  .ok (w.enterRoot auth.root nonce)

/-- The root of a link: it is registered with the link, or was before. -/
def rootOfLink (e : Ecdsa) (domain : Bytes32) (v1 : EnrollmentRegistry) (now : Nat)
    (link : LinkSecondary) (auth : RootAuthorization) (issuerSignature : EthSignature) :
    Except Revert WalletSponsorshipRegistry :=
  if w.primaryOf link.root = 0 then do
    require (¬ (auth.root ≠ link.root ∨ auth.secondary ≠ link.secondary)) .invalidRootAuthorization
    require (auth.linkDigest ≠ 0) .invalidRootAuthorization
    require (now < auth.deadline.val) .expiredSignature
    require (auth.nonce.val = w.rootRegistrationNonces auth.root) .invalidRootAuthorization
    require (w.controlledRootOf auth.root = 0) .rootAlreadyRegistered
    v1.requireV1Eligible auth.root
    require (auth.linkDigest = hashTypedData domain (linkSecondaryStructHash link))
      .invalidRootAuthorization
    let issuer ← e.recover (hashTypedData domain (rootAuthorizationStructHash auth)) issuerSignature
    require (w.profileIssuers issuer = true) .badIssuerSignature
    let nonce ← checked 256 (auth.nonce.val + 1) .panic
    .ok (w.enterRoot auth.root nonce)
  else do
    require (auth = .zero ∧ issuerSignature.length = 0) .invalidRootAuthorization
    require (w.primaryOf link.root = link.root) .rootNotRegistered
    .ok w

/-- A secondary joins its root. -/
def linkSecondary (e : Ecdsa) (domain : Bytes32) (v1 : EnrollmentRegistry) (now : Nat)
    (sender : Address) (link : LinkSecondary) (secondarySignature : EthSignature)
    (auth : RootAuthorization) (issuerSignature : EthSignature) :
    Except Revert WalletSponsorshipRegistry := do
  require (sender = w.gateway) .notGateway
  require (¬ (link.root = 0 ∨ link.secondary = 0)) .zeroAddress
  require (link.secondary ≠ link.root) .invalidRootAuthorization
  require (now < link.deadline.val) .expiredSignature
  require (link.nonce.val = w.linkNonces link.secondary) .invalidRootAuthorization
  require (w.primaryOf link.secondary = 0) .secondaryAlreadyLinked
  require (w.controlledRootOf link.secondary = 0) .secondaryIsRootController
  v1.requireV1Eligible link.secondary
  let w ← w.rootOfLink e domain v1 now link auth issuerSignature
  require (w.suspendedClusters link.root = false) .clusterSuspended
  let secondarySigner ← e.recover (hashTypedData domain (linkSecondaryStructHash link))
    secondarySignature
  require (secondarySigner = link.secondary) .badSecondarySignature
  let nonce ← checked 256 (link.nonce.val + 1) .panic
  .ok { w with
    linkNonces := update w.linkNonces link.secondary nonce
    primaryOf := update w.primaryOf link.secondary link.root }

/-- `_applyControllerChange`. -/
def applyControllerChange (root oldController newController : Address) :
    Except Revert WalletSponsorshipRegistry := do
  let controlledRootOf :=
    if w.controlledRootOf oldController = root then update w.controlledRootOf oldController 0
    else w.controlledRootOf
  let rotationNonce ← checked 256 (w.rotationNonces root + 1) .panic
  let epoch ← checked 256 (w.controllerEpoch root + 1) .panic
  .ok { w with
    controllerOf := update w.controllerOf root newController
    controlledRootOf := update controlledRootOf newController root
    rotationNonces := update w.rotationNonces root rotationNonce
    controllerEpoch := update w.controllerEpoch root epoch }

def rotateController (e : Ecdsa) (domain : Bytes32) (now : Nat) (rotation : ControllerRotation)
    (oldSignature newSignature : EthSignature) : Except Revert WalletSponsorshipRegistry := do
  require (w.primaryOf rotation.root = rotation.root) .rootNotRegistered
  require (¬ (rotation.oldController = 0 ∨ rotation.newController = 0)) .zeroAddress
  require (rotation.newController ≠ rotation.oldController) .invalidControllerRotation
  require (now < rotation.deadline.val) .expiredSignature
  require (rotation.nonce.val = w.rotationNonces rotation.root) .invalidControllerRotation
  require (w.controllerOf rotation.root = rotation.oldController) .invalidControllerRotation
  require (w.controlledRootOf rotation.newController = 0) .controllerAlreadyAssigned
  require (¬ (rotation.newController ≠ rotation.root ∧ w.primaryOf rotation.newController ≠ 0))
    .invalidControllerRotation
  let digest := hashTypedData domain (controllerRotationStructHash rotation)
  let oldSigner ← e.recover digest oldSignature
  require (oldSigner = rotation.oldController) .badRotationSignature
  let newSigner ← e.recover digest newSignature
  require (newSigner = rotation.newController) .badRotationSignature
  w.applyControllerChange rotation.root rotation.oldController rotation.newController

/-- The id of a recovery. -/
def scheduleId (root newController : Address) (rotationNonce epoch : Nat) (reasonHash : Bytes32)
    (now : Nat) : Bytes32 :=
  keccak256 (abiEncode [root.val, newController.val, rotationNonce, epoch, reasonHash.val, now])

def scheduleRecovery (cfg : Config) (now : Nat) (sender root newController : Address)
    (expectedRotationNonce expectedControllerEpoch : Nat) (reasonHash : Bytes32) :
    Except Revert WalletSponsorshipRegistry := do
  require (sender = cfg.recoverySafe) .notRecoverySafe
  require (w.primaryOf root = root) .rootNotRegistered
  require (newController ≠ 0) .zeroAddress
  require (newController ≠ w.controllerOf root) .invalidControllerRotation
  require (w.controlledRootOf newController = 0) .controllerAlreadyAssigned
  require (¬ (newController ≠ root ∧ w.primaryOf newController ≠ 0)) .invalidControllerRotation
  require (expectedRotationNonce = w.rotationNonces root) .recoveryMismatch
  require (expectedControllerEpoch = w.controllerEpoch root) .recoveryMismatch
  let id :=
    scheduleId root newController expectedRotationNonce expectedControllerEpoch reasonHash now
  require ((w.recoverySchedules id).known = false) .recoveryMismatch
  let readyAt ← checked 256 (now + cfg.recoveryTimelock.val) .panic
  -- `uint64(…)` cuts the high bits off
  .ok { w with
    recoverySchedules := update w.recoverySchedules id
      ⟨root, newController, expectedRotationNonce, expectedControllerEpoch,
        readyAt % 2 ^ 64, false, true⟩ }

def executeRecovery (cfg : Config) (now : Nat) (sender : Address) (id : Bytes32) :
    Except Revert WalletSponsorshipRegistry := do
  require (sender = cfg.recoverySafe) .notRecoverySafe
  let s := w.recoverySchedules id
  require (s.known = true) .recoveryUnknown
  require (s.executed = false) .recoveryAlreadyExecuted
  require (s.readyAt ≤ now) .recoveryNotReady
  require (w.primaryOf s.root = s.root) .rootNotRegistered
  require (w.rotationNonces s.root = s.expectedRotationNonce) .recoveryMismatch
  require (w.controllerEpoch s.root = s.expectedControllerEpoch) .recoveryMismatch
  require (w.controlledRootOf s.newController = 0) .controllerAlreadyAssigned
  require (¬ (s.newController ≠ s.root ∧ w.primaryOf s.newController ≠ 0))
    .invalidControllerRotation
  let oldController := w.controllerOf s.root
  applyControllerChange
    { w with recoverySchedules := update w.recoverySchedules id { s with executed := true } }
    s.root oldController s.newController

end WalletSponsorshipRegistry

/-! ## The registry and everyone who calls it -/

/-- The calls of the registry. -/
inductive WalletAct where
  | bindGatewayOnce (gateway : Address)
  | setProfileIssuer (issuer : Address) (allowed : Bool)
  | setClusterSuspended (root : Address) (status : Bool)
  | registerPrimary (auth : RootAuthorization) (issuerSignature : EthSignature)
  | linkSecondary (link : LinkSecondary) (secondarySignature : EthSignature)
      (auth : RootAuthorization) (issuerSignature : EthSignature)
  | rotateController (rotation : ControllerRotation) (oldSignature newSignature : EthSignature)
  | scheduleRecovery (root newController : Address)
      (expectedRotationNonce expectedControllerEpoch : Uint256) (reasonHash : Bytes32)
  | executeRecovery (id : Bytes32)

inductive WalletCall where
  | advance (now : Uint256)
  | world (chainId : Uint256) (codehash : Address → Bytes32) (v1 : EnrollmentRegistry)
      (fees : FeeTokenRegistry)
  | wallets (sender : Address) (call : WalletAct)

structure WalletSite where
  self : Address
  config : WalletSponsorshipRegistry.Config
  ecdsa : Ecdsa

/-- The registry in its world. -/
structure WalletChain where
  site : Site
  v1 : EnrollmentRegistry
  fees : FeeTokenRegistry
  wallets : WalletSponsorshipRegistry

namespace WalletSite

variable (d : WalletSite)

def walletAct (c : WalletChain) (sender : Address) :
    WalletAct → Except Revert WalletSponsorshipRegistry
  | .bindGatewayOnce gateway => c.wallets.bindGatewayOnce d.config c.fees c.site sender gateway
  | .setProfileIssuer issuer allowed => c.wallets.setProfileIssuer d.config sender issuer allowed
  | .setClusterSuspended root status => c.wallets.setClusterSuspended d.config sender root status
  | .registerPrimary auth issuerSignature =>
      c.wallets.registerPrimary d.ecdsa
        (WalletSponsorshipRegistry.domain c.site.chainId d.self) c.v1
        c.site.now.val auth issuerSignature
  | .linkSecondary link secondarySignature auth issuerSignature =>
      c.wallets.linkSecondary d.ecdsa (WalletSponsorshipRegistry.domain c.site.chainId d.self) c.v1
        c.site.now.val sender link secondarySignature auth issuerSignature
  | .rotateController rotation oldSignature newSignature =>
      c.wallets.rotateController d.ecdsa (WalletSponsorshipRegistry.domain c.site.chainId d.self)
        c.site.now.val rotation oldSignature newSignature
  | .scheduleRecovery root newController rotationNonce epoch reasonHash =>
      c.wallets.scheduleRecovery d.config c.site.now.val sender root newController rotationNonce.val
        epoch.val reasonHash
  | .executeRecovery id => c.wallets.executeRecovery d.config c.site.now.val sender id

/-- The next block; any change of what the registry asks; or a call by anyone. -/
def act (c : WalletChain) : WalletCall → Except Revert WalletChain
  | .advance now => do
      require (c.site.now ≤ now) .badArg
      .ok { c with site := { c.site with now } }
  | .world chainId codehash v1 fees =>
      .ok { c with site := { c.site with chainId, codehash }, v1, fees }
  | .wallets sender call => do
      let wallets ← d.walletAct c sender call
      .ok { c with wallets }

def run (c : WalletChain) (ks : List WalletCall) : WalletChain := ks.foldl (attempt d.act) c

theorem run_snoc (c : WalletChain) (ks : List WalletCall) (k : WalletCall) :
    d.run c (ks ++ [k]) = attempt d.act (d.run c ks) k := Runs.foldl_snoc ks k c

theorem run_append (c : WalletChain) (ks ls : List WalletCall) :
    d.run c (ks ++ ls) = d.run (d.run c ks) ls := List.foldl_append

end WalletSite

/-- The state after the deployment. -/
def WalletChain.Fresh (d : WalletSite) (c : WalletChain) : Prop :=
  WalletSponsorshipRegistry.new d.config = .ok c.wallets

theorem WalletChain.Fresh.wallets_eq {d : WalletSite} {c : WalletChain} (h : c.Fresh d) :
    c.wallets = ⟨0, false, fun _ => 0, fun _ => 0, fun _ => 0, fun _ => 0, fun _ => 0, fun _ => 0,
      fun _ => 0, fun _ => false, fun _ => false, fun _ => .empty⟩ := by
  obtain ⟨_, -, h⟩ := bind_ok.mp h
  exact (Except.ok.inj h).symm

/-! ## What a call does -/

namespace WalletSponsorshipRegistry

/-- The registry after `_applyControllerChange`. -/
def changed (w : WalletSponsorshipRegistry) (root oldController newController : Address) :
    WalletSponsorshipRegistry :=
  { w with
    controllerOf := update w.controllerOf root newController
    controlledRootOf := update
      (if w.controlledRootOf oldController = root then
        update w.controlledRootOf oldController 0
      else w.controlledRootOf) newController root
    rotationNonces := update w.rotationNonces root (w.rotationNonces root + 1)
    controllerEpoch := update w.controllerEpoch root (w.controllerEpoch root + 1) }

theorem applyControllerChange_ok {w w' : WalletSponsorshipRegistry}
    {root oldController newController : Address}
    (h : w.applyControllerChange root oldController newController = .ok w') :
    w' = w.changed root oldController newController := by
  obtain ⟨_, hnonce, h⟩ := bind_ok.mp h
  obtain ⟨-, rfl⟩ := checked_ok.mp hnonce
  obtain ⟨_, hepoch, h⟩ := bind_ok.mp h
  obtain ⟨-, rfl⟩ := checked_ok.mp hepoch
  exact (Except.ok.inj h).symm

/-- The registry after a secondary is linked. -/
def linked (w : WalletSponsorshipRegistry) (root secondary : Address) : WalletSponsorshipRegistry :=
  { w with
    linkNonces := update w.linkNonces secondary (w.linkNonces secondary + 1)
    primaryOf := update w.primaryOf secondary root }

/-- The root of a link before the link is made: it was there, or is entered with the link. -/
inductive Rooted (w : WalletSponsorshipRegistry) (root : Address) : WalletSponsorshipRegistry → Prop
  | here : w.primaryOf root = root → w.Rooted root w
  | entered : w.primaryOf root = 0 → w.controlledRootOf root = 0 →
      w.Rooted root (w.enterRoot root (w.rootRegistrationNonces root + 1))

/-- What a new controller of a root must not be. -/
structure Free (w : WalletSponsorshipRegistry) (root newController : Address) : Prop where
  registered : w.primaryOf root = root
  unassigned : w.controlledRootOf newController = 0
  unlinked : newController = root ∨ w.primaryOf newController = 0

/-- A call that touches neither the stars nor the recoveries. -/
inductive Plain : WalletAct → Prop
  | bindGatewayOnce (gateway : Address) : Plain (.bindGatewayOnce gateway)
  | setProfileIssuer (issuer : Address) (allowed : Bool) : Plain (.setProfileIssuer issuer allowed)
  | setClusterSuspended (root : Address) (status : Bool) : Plain (.setClusterSuspended root status)

/-- What a call that succeeds does. -/
inductive Step (cfg : Config) (now : Nat) (w : WalletSponsorshipRegistry) (sender : Address) :
    WalletAct → WalletSponsorshipRegistry → Prop
  | still {call : WalletAct} (gateway : Address) (gatewayBound : Bool)
      (suspendedClusters profileIssuers : Address → Bool) : Plain call →
      Step cfg now w sender call
        { w with gateway, gatewayBound, suspendedClusters, profileIssuers }
  | root {auth : RootAuthorization} {signature : EthSignature} :
      auth.root ≠ 0 → w.primaryOf auth.root = 0 → w.controlledRootOf auth.root = 0 →
      Step cfg now w sender (.registerPrimary auth signature)
        (w.enterRoot auth.root (w.rootRegistrationNonces auth.root + 1))
  | link {link : LinkSecondary} {signature issuerSignature : EthSignature}
    {auth : RootAuthorization}
      {w₁ : WalletSponsorshipRegistry} :
      link.root ≠ 0 → link.secondary ≠ 0 → link.secondary ≠ link.root →
      w.primaryOf link.secondary = 0 → w.controlledRootOf link.secondary = 0 →
      w.Rooted link.root w₁ →
      Step cfg now w sender (.linkSecondary link signature auth issuerSignature)
        (w₁.linked link.root link.secondary)
  | rotate {rotation : ControllerRotation} {oldSignature newSignature : EthSignature} :
      rotation.oldController ≠ 0 → rotation.newController ≠ 0 →
      rotation.newController ≠ rotation.oldController →
      w.controllerOf rotation.root = rotation.oldController →
      w.Free rotation.root rotation.newController →
      Step cfg now w sender (.rotateController rotation oldSignature newSignature)
        (w.changed rotation.root rotation.oldController rotation.newController)
  | schedule {root newController : Address} {rotationNonce epoch : Uint256}
    {reasonHash id : Bytes32} :
      newController ≠ 0 → newController ≠ w.controllerOf root → w.Free root newController →
      rotationNonce.val = w.rotationNonces root → epoch.val = w.controllerEpoch root →
      id = scheduleId root newController rotationNonce.val epoch.val reasonHash now →
      (w.recoverySchedules id).known = false →
      Step cfg now w sender (.scheduleRecovery root newController rotationNonce epoch reasonHash)
        { w with
          recoverySchedules := update w.recoverySchedules id
            ⟨root, newController, rotationNonce.val, epoch.val,
              (now + cfg.recoveryTimelock.val) % 2 ^ 64, false, true⟩ }
  | recover {id : Bytes32} {s : RecoverySchedule} :
      s = w.recoverySchedules id → s.known = true → s.executed = false → s.readyAt ≤ now →
      w.rotationNonces s.root = s.expectedRotationNonce →
      w.controllerEpoch s.root = s.expectedControllerEpoch → w.Free s.root s.newController →
      Step cfg now w sender (.executeRecovery id)
        (changed
          { w with
            recoverySchedules := update w.recoverySchedules id { s with executed := true } }
          s.root (w.controllerOf s.root) s.newController)

theorem unlinked_of {w : WalletSponsorshipRegistry} {root newController : Address}
    (h : ¬ (newController ≠ root ∧ w.primaryOf newController ≠ 0)) :
    newController = root ∨ w.primaryOf newController = 0 := by
  rcases eq_or_ne newController root with heq | hne
  · exact .inl heq
  · exact .inr (not_not.mp fun hprimary => h ⟨hne, hprimary⟩)

theorem rootOfLink_ok {w w₁ : WalletSponsorshipRegistry} {e : Ecdsa} {domain : Bytes32}
    {v1 : EnrollmentRegistry} {now : Nat} {link : LinkSecondary} {auth : RootAuthorization}
    {signature : EthSignature} (h : w.rootOfLink e domain v1 now link auth signature = .ok w₁) :
    w.Rooted link.root w₁ := by
  unfold rootOfLink at h
  split at h
  · rename_i hnone
    obtain ⟨_, hsame, _, -, _, -, _, hnonce, h⟩ := bind_ok₄.mp h
    obtain ⟨_, hfree, _, -, _, -, _, -, h⟩ := bind_ok₄.mp h
    obtain ⟨_, -, _, hnext, h⟩ := bind_ok₂.mp h
    obtain ⟨-, rfl⟩ := checked_ok.mp hnext
    have hroot : auth.root = link.root := not_not.mp (not_or.mp (require_ok.mp hsame)).1
    have hfree := require_ok.mp hfree
    rw [require_ok.mp hnonce] at h
    rw [hroot] at hfree h
    rw [← Except.ok.inj h]
    exact .entered hnone hfree
  · obtain ⟨_, -, h⟩ := bind_ok.mp h
    obtain ⟨_, hroot, h⟩ := bind_ok.mp h
    rw [← Except.ok.inj h]
    exact .here (require_ok.mp hroot)

end WalletSponsorshipRegistry

open WalletSponsorshipRegistry in
/-- **What a call to the registry does.** -/
theorem walletAct_step {d : WalletSite} {c : WalletChain} {sender : Address} {call : WalletAct}
    {w' : WalletSponsorshipRegistry} (h : d.walletAct c sender call = .ok w') :
    Step d.config c.site.now.val c.wallets sender call w' := by
  cases call with
  | bindGatewayOnce gateway =>
      obtain ⟨_, -, _, -, _, -, _, -, h⟩ := bind_ok₄.mp h
      cases h
      exact .still _ _ _ _ (.bindGatewayOnce _)
  | setProfileIssuer issuer allowed =>
      obtain ⟨_, -, _, -, h⟩ := bind_ok₂.mp h
      cases h
      exact .still _ _ _ _ (.setProfileIssuer _ _)
  | setClusterSuspended root status =>
      obtain ⟨_, -, _, -, h⟩ := bind_ok₂.mp h
      cases h
      exact .still _ _ _ _ (.setClusterSuspended _ _)
  | registerPrimary auth issuerSignature =>
      obtain ⟨_, hroot, _, -, _, -, _, -, h⟩ := bind_ok₄.mp h
      obtain ⟨_, hnew, _, hnonce, _, -, _, -, h⟩ := bind_ok₄.mp h
      obtain ⟨_, -, _, hnext, h⟩ := bind_ok₂.mp h
      obtain ⟨-, rfl⟩ := checked_ok.mp hnext
      obtain ⟨hprimary, hcontrolled⟩ := not_or.mp (require_ok.mp hnew)
      rw [require_ok.mp hnonce] at h
      rw [← Except.ok.inj h]
      exact .root (require_ok.mp hroot) (not_not.mp hprimary) (not_not.mp hcontrolled)
  | linkSecondary link secondarySignature auth issuerSignature =>
      obtain ⟨_, -, _, hzero, _, hne, _, -, h⟩ := bind_ok₄.mp h
      obtain ⟨_, hnonce, _, hprimary, _, hcontrolled, _, -, h⟩ := bind_ok₄.mp h
      obtain ⟨w₁, hrooted, _, -, _, -, h⟩ := bind_ok₃.mp h
      obtain ⟨_, -, _, hnext, h⟩ := bind_ok₂.mp h
      obtain ⟨-, rfl⟩ := checked_ok.mp hnext
      obtain ⟨hroot, hsecondary⟩ := not_or.mp (require_ok.mp hzero)
      have hrooted := rootOfLink_ok hrooted
      have hlinks : w₁.linkNonces = c.wallets.linkNonces := by
        cases hrooted with
        | here => rfl
        | entered => rfl
      rw [require_ok.mp hnonce, ← hlinks] at h
      rw [← Except.ok.inj h]
      exact .link hroot hsecondary (require_ok.mp hne) (require_ok.mp hprimary)
        (require_ok.mp hcontrolled) hrooted
  | rotateController rotation oldSignature newSignature =>
      obtain ⟨_, hroot, _, hzero, _, hne, _, -, h⟩ := bind_ok₄.mp h
      obtain ⟨_, -, _, hold, _, hunassigned, _, hunlinked, h⟩ := bind_ok₄.mp h
      obtain ⟨_, -, _, -, _, -, _, -, h⟩ := bind_ok₄.mp h
      obtain ⟨holdzero, hnewzero⟩ := not_or.mp (require_ok.mp hzero)
      rw [applyControllerChange_ok h]
      exact .rotate holdzero hnewzero (require_ok.mp hne) (require_ok.mp hold)
        ⟨require_ok.mp hroot, require_ok.mp hunassigned, unlinked_of (require_ok.mp hunlinked)⟩
  | scheduleRecovery root newController rotationNonce epoch reasonHash =>
      obtain ⟨_, -, _, hroot, _, hzero, _, hne, h⟩ := bind_ok₄.mp h
      obtain ⟨_, hunassigned, _, hunlinked, _, hnonce, _, hepoch, h⟩ := bind_ok₄.mp h
      obtain ⟨_, hknown, _, hready, h⟩ := bind_ok₂.mp h
      obtain ⟨-, rfl⟩ := checked_ok.mp hready
      rw [← Except.ok.inj h]
      exact .schedule (require_ok.mp hzero) (require_ok.mp hne)
        ⟨require_ok.mp hroot, require_ok.mp hunassigned, unlinked_of (require_ok.mp hunlinked)⟩
        (require_ok.mp hnonce) (require_ok.mp hepoch) rfl (require_ok.mp hknown)
  | executeRecovery id =>
      obtain ⟨_, -, _, hknown, _, hexecuted, _, hready, h⟩ := bind_ok₄.mp h
      obtain ⟨_, hroot, _, hnonce, _, hepoch, h⟩ := bind_ok₃.mp h
      obtain ⟨_, hunassigned, _, hunlinked, h⟩ := bind_ok₂.mp h
      rw [applyControllerChange_ok h]
      exact .recover rfl (require_ok.mp hknown) (require_ok.mp hexecuted) (require_ok.mp hready)
        (require_ok.mp hnonce) (require_ok.mp hepoch)
        ⟨require_ok.mp hroot, require_ok.mp hunassigned, unlinked_of (require_ok.mp hunlinked)⟩

/-! ## The stars -/

/-- Roots are their own primaries, and roots and controllers are paired.  Nothing is said of a
controller of the zero address. -/
structure WalletSponsorshipRegistry.Topology (w : WalletSponsorshipRegistry) : Prop where
  star : ∀ x, w.primaryOf x ≠ 0 → w.primaryOf (w.primaryOf x) = w.primaryOf x
  rooted : ∀ root, root ≠ 0 → w.primaryOf root = root →
    w.controllerOf root ≠ 0 ∧ w.controlledRootOf (w.controllerOf root) = root
  controls : ∀ x, w.controlledRootOf x ≠ 0 →
    w.primaryOf (w.controlledRootOf x) = w.controlledRootOf x
    ∧ w.controllerOf (w.controlledRootOf x) = x
  foreign : ∀ x, w.controlledRootOf x ≠ 0 → x ≠ w.controlledRootOf x → w.primaryOf x = 0
  unset : ∀ root, root ≠ 0 → w.primaryOf root ≠ root → w.controllerOf root = 0
  zero : w.primaryOf 0 = 0 ∧ w.controlledRootOf 0 = 0

namespace WalletSponsorshipRegistry.Topology

variable {w w' : WalletSponsorshipRegistry}

theorem congr (h : w.Topology) (hprimary : w'.primaryOf = w.primaryOf)
    (hcontroller : w'.controllerOf = w.controllerOf)
    (hcontrolled : w'.controlledRootOf = w.controlledRootOf) : w'.Topology := by
  refine ⟨?_, ?_, ?_, ?_, ?_, ?_⟩
  · rw [hprimary]
    exact h.star
  · rw [hprimary, hcontroller, hcontrolled]
    exact h.rooted
  · rw [hprimary, hcontroller, hcontrolled]
    exact h.controls
  · rw [hprimary, hcontrolled]
    exact h.foreign
  · rw [hprimary, hcontroller]
    exact h.unset
  · rw [hprimary, hcontrolled]
    exact h.zero

theorem enterRoot (h : w.Topology) {root : Address} (hne : root ≠ 0)
    (hprimary : w.primaryOf root = 0)
    (hcontrolled : w.controlledRootOf root = 0) (nonce : Nat) :
    (w.enterRoot root nonce).Topology := by
  -- whoever is a root, or is controlled, is not this one
  have hroot : ∀ x, x ≠ 0 → w.primaryOf x = x → x ≠ root := by
    rintro x hx hstar rfl
    exact hx (hstar.symm.trans hprimary)
  have hother : ∀ x, w.controlledRootOf x ≠ 0 → x ≠ root := by
    rintro x hx rfl
    exact hx hcontrolled
  refine ⟨fun x => ?_, fun r => ?_, fun x => ?_, fun x => ?_, fun r => ?_, ?_, ?_⟩
  · show update w.primaryOf root root x ≠ 0 →
      update w.primaryOf root root (update w.primaryOf root root x)
        = update w.primaryOf root root x
    rcases eq_or_ne x root with rfl | hx
    · simp only [update_self, implies_true]
    · rw [update_of_ne hx]
      intro hset
      rw [update_of_ne (hroot _ hset (h.star x hset))]
      exact h.star x hset
  · show r ≠ 0 → update w.primaryOf root root r = r →
      update w.controllerOf root root r ≠ 0
        ∧ update w.controlledRootOf root root (update w.controllerOf root root r) = r
    rcases eq_or_ne r root with rfl | hr
    · intro _ _
      simp only [update_self, and_true]
      exact hne
    · rw [update_of_ne hr, update_of_ne hr]
      intro hr0 hstar
      obtain ⟨hset, hback⟩ := h.rooted r hr0 hstar
      refine ⟨hset, ?_⟩
      rw [update_of_ne (hother _ (by rw [hback]; exact hr0))]
      exact hback
  · show update w.controlledRootOf root root x ≠ 0 →
      update w.primaryOf root root (update w.controlledRootOf root root x)
          = update w.controlledRootOf root root x
        ∧ update w.controllerOf root root (update w.controlledRootOf root root x) = x
    rcases eq_or_ne x root with rfl | hx
    · simp only [update_self, and_self, implies_true]
    · rw [update_of_ne hx]
      intro hset
      obtain ⟨hstar, hback⟩ := h.controls x hset
      have hr := hroot _ hset hstar
      rw [update_of_ne hr, update_of_ne hr]
      exact ⟨hstar, hback⟩
  · show update w.controlledRootOf root root x ≠ 0 →
      x ≠ update w.controlledRootOf root root x → update w.primaryOf root root x = 0
    rcases eq_or_ne x root with rfl | hx
    · rw [update_self]
      exact fun _ hsame => absurd rfl hsame
    · rw [update_of_ne hx, update_of_ne hx]
      exact h.foreign x
  · show r ≠ 0 → update w.primaryOf root root r ≠ r →
      update w.controllerOf root root r = 0
    rcases eq_or_ne r root with rfl | hr
    · rw [update_self]
      exact fun _ hsame => absurd rfl hsame
    · rw [update_of_ne hr, update_of_ne hr]
      exact h.unset r
  · exact (update_of_ne hne.symm _ _).trans h.zero.1
  · exact (update_of_ne hne.symm _ _).trans h.zero.2

theorem linked (h : w.Topology) {root secondary : Address} (hne : secondary ≠ 0)
    (hsecondary : secondary ≠ root) (hprimary : w.primaryOf secondary = 0)
    (hcontrolled : w.controlledRootOf secondary = 0) (hroot : w.primaryOf root = root) :
    (w.linked root secondary).Topology := by
  have hother : ∀ x, x ≠ 0 → w.primaryOf x = x → x ≠ secondary := by
    rintro x hx hstar rfl
    exact hx (hstar.symm.trans hprimary)
  refine ⟨fun x => ?_, fun r => ?_, fun x => ?_, fun x => ?_, fun r => ?_, ?_, h.zero.2⟩
  · show update w.primaryOf secondary root x ≠ 0 →
      update w.primaryOf secondary root (update w.primaryOf secondary root x)
        = update w.primaryOf secondary root x
    rcases eq_or_ne x secondary with rfl | hx
    · rw [update_self, update_of_ne hsecondary.symm]
      exact fun _ => hroot
    · rw [update_of_ne hx]
      intro hset
      rw [update_of_ne (hother _ hset (h.star x hset))]
      exact h.star x hset
  · show r ≠ 0 → update w.primaryOf secondary root r = r →
      w.controllerOf r ≠ 0 ∧ w.controlledRootOf (w.controllerOf r) = r
    rcases eq_or_ne r secondary with rfl | hr
    · rw [update_self]
      exact fun _ hsame => absurd hsame.symm hsecondary
    · rw [update_of_ne hr]
      exact h.rooted r
  · show w.controlledRootOf x ≠ 0 →
      update w.primaryOf secondary root (w.controlledRootOf x) = w.controlledRootOf x
        ∧ w.controllerOf (w.controlledRootOf x) = x
    intro hset
    obtain ⟨hstar, hback⟩ := h.controls x hset
    rw [update_of_ne (hother _ hset hstar)]
    exact ⟨hstar, hback⟩
  · show w.controlledRootOf x ≠ 0 → x ≠ w.controlledRootOf x →
      update w.primaryOf secondary root x = 0
    rcases eq_or_ne x secondary with rfl | hx
    · exact fun hset => absurd hcontrolled hset
    · rw [update_of_ne hx]
      exact h.foreign x
  · show r ≠ 0 → update w.primaryOf secondary root r ≠ r → w.controllerOf r = 0
    rcases eq_or_ne r secondary with rfl | hr
    · intro _ _
      refine h.unset r hne fun hstar => hne ?_
      exact hstar.symm.trans hprimary
    · rw [update_of_ne hr]
      exact h.unset r
  · exact (update_of_ne hne.symm _ _).trans h.zero.1

theorem changed_zero (h : w.Topology) {oldController newController : Address}
    (hfree : w.controlledRootOf newController = 0) :
    (w.changed 0 oldController newController).Topology := by
  have hcontrolled : (w.changed 0 oldController newController).controlledRootOf
      = w.controlledRootOf := by
    have hsame : (if w.controlledRootOf oldController = 0 then
        update w.controlledRootOf oldController 0 else w.controlledRootOf)
        = w.controlledRootOf := by
      split
      · rename_i hold
        rw [← hold, update_eq_self]
      · rfl
    show update (if w.controlledRootOf oldController = 0 then
      update w.controlledRootOf oldController 0 else w.controlledRootOf) newController 0 = _
    rw [hsame, ← hfree, update_eq_self]
  have hcontroller : ∀ r, r ≠ 0 →
      (w.changed 0 oldController newController).controllerOf r = w.controllerOf r :=
    fun r hr => update_of_ne hr _ _
  refine ⟨h.star, fun r hr hstar => ?_, fun x => ?_, ?_, fun r hr hstar => ?_, h.zero.1, ?_⟩
  · rw [hcontroller r hr, hcontrolled]
    exact h.rooted r hr hstar
  · rw [hcontrolled]
    intro hset
    rw [hcontroller _ hset]
    exact h.controls x hset
  · rw [hcontrolled]
    exact h.foreign
  · rw [hcontroller r hr]
    exact h.unset r hr hstar
  · rw [hcontrolled]
    exact h.zero.2

theorem changed (h : w.Topology) {root newController : Address} (hne : newController ≠ 0)
    (hfree : w.Free root newController) :
    (w.changed root (w.controllerOf root) newController).Topology := by
  rcases eq_or_ne root 0 with rfl | hroot
  · exact h.changed_zero hfree.unassigned
  obtain ⟨hold, hback⟩ := h.rooted root hroot hfree.registered
  -- the old controller has no root any more, the new one has this one, the others keep theirs
  have hcontrolled : (w.changed root (w.controllerOf root) newController).controlledRootOf
      = update (update w.controlledRootOf (w.controllerOf root) 0)
        newController root := by
    show update (if w.controlledRootOf (w.controllerOf root) = root then _ else _) _ _ = _
    rw [if_pos hback]
  have hkept : ∀ x, w.controlledRootOf x ≠ 0 → w.controlledRootOf x ≠ root →
      (w.changed root (w.controllerOf root) newController).controlledRootOf x
        = w.controlledRootOf x := by
    intro x hset hother
    have hnew : x ≠ newController := by
      rintro rfl
      exact hset hfree.unassigned
    have hx : x ≠ w.controllerOf root := by
      rintro rfl
      exact hother hback
    rw [hcontrolled, update_of_ne hnew, update_of_ne hx]
  have hcases : ∀ x, (w.changed root (w.controllerOf root) newController).controlledRootOf x ≠ 0 →
      (x = newController
        ∧ (w.changed root (w.controllerOf root) newController).controlledRootOf x = root)
      ∨ (x ≠ w.controllerOf root ∧ w.controlledRootOf x ≠ 0
        ∧ (w.changed root (w.controllerOf root) newController).controlledRootOf x
          = w.controlledRootOf x) := by
    intro x hset
    rw [hcontrolled] at hset ⊢
    rcases eq_or_ne x newController with rfl | hnew
    · exact .inl ⟨rfl, update_self _ _ _⟩
    · rw [update_of_ne hnew] at hset ⊢
      rcases eq_or_ne x (w.controllerOf root) with rfl | hx
      · rw [update_self] at hset
        exact absurd rfl hset
      · rw [update_of_ne hx] at hset ⊢
        exact .inr ⟨hx, hset, rfl⟩
  refine ⟨h.star, fun r hr hstar => ?_, fun x hset => ?_, fun x hset hsame => ?_,
    fun r hr hstar => ?_, h.zero.1, ?_⟩
  · show update w.controllerOf root newController r ≠ 0
      ∧ (w.changed root (w.controllerOf root) newController).controlledRootOf
        (update w.controllerOf root newController r) = r
    rcases eq_or_ne r root with rfl | hother
    · rw [update_self, hcontrolled, update_self]
      exact ⟨hne, rfl⟩
    · rw [update_of_ne hother]
      obtain ⟨hset, hr'⟩ := h.rooted r hr hstar
      refine ⟨hset, ?_⟩
      rw [hkept _ (by rw [hr']; exact hr) (by rw [hr']; exact hother)]
      exact hr'
  · rcases hcases x hset with ⟨rfl, heq⟩ | ⟨hx, hset', heq⟩
    · rw [heq]
      exact ⟨hfree.registered, update_self _ _ _⟩
    · rw [heq]
      obtain ⟨hstar, hx'⟩ := h.controls x hset'
      refine ⟨hstar, ?_⟩
      have hother : w.controlledRootOf x ≠ root := by
        intro hr
        rw [hr] at hx'
        exact hx hx'.symm
      exact (update_of_ne hother _ _).trans hx'
  · rcases hcases x hset with ⟨rfl, heq⟩ | ⟨hx, hset', heq⟩
    · rw [heq] at hsame
      exact hfree.unlinked.resolve_left hsame
    · rw [heq] at hsame
      exact h.foreign x hset' hsame
  · have hother : r ≠ root := by
      rintro rfl
      exact hstar hfree.registered
    exact (update_of_ne hother _ _).trans (h.unset r hr hstar)
  · rw [hcontrolled, update_of_ne hne.symm]
    rcases eq_or_ne 0 (w.controllerOf root) with hzero | hzero
    · exact absurd hzero.symm hold
    · rw [update_of_ne hzero]
      exact h.zero.2

end WalletSponsorshipRegistry.Topology

/-! ## What every run keeps -/

/-- What is set stays set, and what is counted is not counted back. -/
structure WalletSponsorshipRegistry.Grows (w w' : WalletSponsorshipRegistry) : Prop where
  primaryOf : ∀ x, w.primaryOf x ≠ 0 → w'.primaryOf x = w.primaryOf x
  rootRegistrationNonces : ∀ x, w.rootRegistrationNonces x ≤ w'.rootRegistrationNonces x
  linkNonces : ∀ x, w.linkNonces x ≤ w'.linkNonces x
  rotationNonces : ∀ x, w.rotationNonces x ≤ w'.rotationNonces x
  controllerEpoch : ∀ x, w.controllerEpoch x ≤ w'.controllerEpoch x

/-- A recovery that can be executed names a controller. -/
def WalletSponsorshipRegistry.Named (w : WalletSponsorshipRegistry) : Prop :=
  ∀ id, (w.recoverySchedules id).known = true → (w.recoverySchedules id).newController ≠ 0

namespace WalletSponsorshipRegistry

variable {w w' w₁ w₂ : WalletSponsorshipRegistry} {cfg : Config} {now : Nat} {sender : Address}
  {call : WalletAct}

theorem Grows.refl (w : WalletSponsorshipRegistry) : w.Grows w :=
  ⟨fun _ _ => rfl, fun _ => le_rfl, fun _ => le_rfl, fun _ => le_rfl, fun _ => le_rfl⟩

theorem Grows.trans (h₁ : w.Grows w₁) (h₂ : w₁.Grows w₂) : w.Grows w₂ := by
  refine ⟨fun x hset => ?_, fun x => (h₁.2 x).trans (h₂.2 x), fun x => (h₁.3 x).trans (h₂.3 x),
    fun x => (h₁.4 x).trans (h₂.4 x), fun x => (h₁.5 x).trans (h₂.5 x)⟩
  have hx := h₁.primaryOf x hset
  rw [h₂.primaryOf x (by rw [hx]; exact hset), hx]

theorem le_update_succ (f : Address → Nat) (i x : Address) : f x ≤ update f i (f i + 1) x := by
  rcases eq_or_ne x i with rfl | hx
  · rw [update_self]
    exact Nat.le_succ _
  · rw [update_of_ne hx]

theorem update_kept {f : Address → Address} {i y x : Address} (hnone : f i = 0) (hset : f x ≠ 0) :
    update f i y x = f x := by
  refine update_of_ne ?_ _ _
  rintro rfl
  exact hset hnone

theorem enterRoot_grows {root : Address} (hnone : w.primaryOf root = 0) :
    w.Grows (w.enterRoot root (w.rootRegistrationNonces root + 1)) :=
  ⟨fun _ hset => update_kept hnone hset, fun x => le_update_succ _ root x, fun _ => le_rfl,
    fun _ => le_rfl, fun _ => le_rfl⟩

theorem linked_grows {root secondary : Address} (hnone : w.primaryOf secondary = 0) :
    w.Grows (w.linked root secondary) :=
  ⟨fun _ hset => update_kept hnone hset, fun _ => le_rfl, fun x => le_update_succ _ secondary x,
    fun _ => le_rfl, fun _ => le_rfl⟩

theorem changed_grows (root oldController newController : Address) :
    w.Grows (w.changed root oldController newController) :=
  ⟨fun _ _ => rfl, fun _ => le_rfl, fun _ => le_rfl, fun x => le_update_succ _ root x,
    fun x => le_update_succ _ root x⟩

theorem Rooted.grows {root : Address} (h : w.Rooted root w₁) : w.Grows w₁ := by
  cases h with
  | here => exact .refl w
  | entered hnone _ => exact enterRoot_grows hnone

theorem Rooted.others {root x : Address} (h : w.Rooted root w₁) (hx : x ≠ root) :
    w₁.primaryOf x = w.primaryOf x ∧ w₁.controlledRootOf x = w.controlledRootOf x := by
  cases h with
  | here => exact ⟨rfl, rfl⟩
  | entered => exact ⟨update_of_ne hx _ _, update_of_ne hx _ _⟩

theorem Step.grows (h : Step cfg now w sender call w') : w.Grows w' := by
  cases h with
  | still =>
      exact ⟨fun _ _ => rfl, fun _ => le_rfl, fun _ => le_rfl, fun _ => le_rfl, fun _ => le_rfl⟩
  | root _ hnone _ => exact enterRoot_grows hnone
  | link _ _ hne hnone _ hrooted =>
      refine hrooted.grows.trans (linked_grows ?_)
      rw [(hrooted.others hne).1]
      exact hnone
  | rotate => exact changed_grows _ _ _
  | schedule =>
      exact ⟨fun _ _ => rfl, fun _ => le_rfl, fun _ => le_rfl, fun _ => le_rfl, fun _ => le_rfl⟩
  | recover =>
      exact ⟨fun _ _ => rfl, fun _ => le_rfl, fun _ => le_rfl, fun x => le_update_succ _ _ x,
        fun x => le_update_succ _ _ x⟩

theorem Step.named (h : Step cfg now w sender call w') (hnamed : w.Named) : w'.Named := by
  intro id
  cases h with
  | still => exact hnamed id
  | root => exact hnamed id
  | link _ _ _ _ _ hrooted =>
      cases hrooted with
      | here => exact hnamed id
      | entered => exact hnamed id
  | rotate => exact hnamed id
  | @schedule root newController rotationNonce epoch reasonHash id' hnew =>
      show (update w.recoverySchedules id' _ id).known = true →
        (update w.recoverySchedules id' _ id).newController ≠ 0
      rcases eq_or_ne id id' with rfl | hid
      · rw [update_self]
        exact fun _ => hnew
      · rw [update_of_ne hid]
        exact hnamed id
  | @recover id' s hs =>
      show (update w.recoverySchedules id' _ id).known = true →
        (update w.recoverySchedules id' _ id).newController ≠ 0
      rcases eq_or_ne id id' with rfl | hid
      · rw [update_self, hs]
        exact hnamed id
      · rw [update_of_ne hid]
        exact hnamed id

theorem Step.topology (h : Step cfg now w sender call w') (hnamed : w.Named) (htop : w.Topology) :
    w'.Topology := by
  cases h with
  | still => exact htop.congr rfl rfl rfl
  | root hne hprimary hcontrolled => exact htop.enterRoot hne hprimary hcontrolled _
  | link hroot hsecondary hne hprimary hcontrolled hrooted =>
      obtain ⟨hprimary', hcontrolled'⟩ := hrooted.others hne
      rw [hprimary] at hprimary'
      rw [hcontrolled] at hcontrolled'
      cases hrooted with
      | here hstar => exact htop.linked hsecondary hne hprimary' hcontrolled' hstar
      | entered hnone hfree =>
          exact (htop.enterRoot hroot hnone hfree _).linked hsecondary hne hprimary' hcontrolled'
            (update_self _ _ _)
  | rotate _ hne _ hold hfree =>
      rw [← hold]
      exact htop.changed hne hfree
  | schedule => exact htop.congr rfl rfl rfl
  | @recover id s hs hknown _ _ _ _ hfree =>
      have hne : s.newController ≠ 0 := by
        rw [hs] at hknown ⊢
        exact hnamed id hknown
      exact (htop.changed hne hfree).congr rfl rfl rfl

end WalletSponsorshipRegistry

namespace WalletSite

variable {d : WalletSite} {c c' start : WalletChain} {k : WalletCall}

theorem act_wallets (h : d.act c k = .ok c') : c'.wallets = c.wallets ∨ ∃ sender call,
    k = .wallets sender call ∧ c'.site = c.site
      ∧ WalletSponsorshipRegistry.Step d.config c.site.now.val c.wallets sender call
        c'.wallets := by
  cases k with
  | advance now =>
      obtain ⟨_, -, h⟩ := bind_ok.mp h
      cases h
      exact .inl rfl
  | world chainId codehash v1 fees =>
      cases h
      exact .inl rfl
  | wallets sender call =>
      obtain ⟨w', hcall, h⟩ := bind_ok.mp h
      cases h
      exact .inr ⟨sender, call, rfl, rfl, walletAct_step hcall⟩

theorem act_grows (h : d.act c k = .ok c') : c.wallets.Grows c'.wallets := by
  rcases act_wallets h with heq | ⟨_, _, _, _, hstep⟩
  · rw [heq]
    exact .refl _
  · exact hstep.grows

theorem grows_run (c : WalletChain) (ks : List WalletCall) :
    c.wallets.Grows (d.run c ks).wallets := by
  refine Runs.invariant (I := fun s => c.wallets.Grows s.wallets) (fun s k hs => ?_) ks c (.refl _)
  refine attempt_preserves (I := fun s => c.wallets.Grows s.wallets) (fun s k s' hs h => ?_) s k hs
  exact hs.trans (act_grows h)

theorem topology_run (hfresh : start.Fresh d) (ks : List WalletCall) :
    (d.run start ks).wallets.Named ∧ (d.run start ks).wallets.Topology := by
  refine Runs.invariant (I := fun s => s.wallets.Named ∧ s.wallets.Topology) (fun s k hs => ?_) ks
    start ?_
  · refine attempt_preserves (I := fun s => s.wallets.Named ∧ s.wallets.Topology)
      (fun s k s' hs h => ?_) s k hs
    rcases act_wallets h with heq | ⟨_, _, _, _, hstep⟩
    · rw [heq]
      exact hs
    · exact ⟨hstep.named hs.1, hstep.topology hs.1 hs.2⟩
  · rw [hfresh.wallets_eq]
    exact ⟨fun id hknown => Bool.noConfusion hknown,
      fun x hset => absurd rfl hset, fun root hne hstar => absurd hstar.symm hne,
      fun x hset => absurd rfl hset, fun x hset => absurd rfl hset, fun root _ _ => rfl, rfl, rfl⟩

/-- A recovery that is executed is not one of the zero address. -/
def Grounded (c : WalletChain) (k : WalletCall) : Prop :=
  ∀ sender id, k = .wallets sender (.executeRecovery id) →
    (c.wallets.recoverySchedules id).known = true → (c.wallets.recoverySchedules id).root ≠ 0

theorem ground_run (hfresh : start.Fresh d) (ks : List WalletCall)
    (hguard : Runs.Guarded (attempt d.act) Grounded start ks) :
    (d.run start ks).wallets.controllerOf 0 = 0 := by
  induction ks using List.reverseRecOn with
  | nil =>
      show start.wallets.controllerOf 0 = 0
      rw [hfresh.wallets_eq]
  | append_singleton ks k ih =>
      obtain ⟨hbefore, hk⟩ := Runs.guarded_snoc.mp hguard
      have hzero := ih hbefore
      rw [d.run_snoc]
      rcases attempt_cases d.act (d.run start ks) k with ⟨hsame, -⟩ | hact
      · rw [hsame]
        exact hzero
      rcases act_wallets hact with heq | ⟨sender, call, rfl, -, hstep⟩
      · rw [heq]
        exact hzero
      generalize (attempt d.act (d.run start ks) (.wallets sender call)).wallets = w' at hstep
      cases hstep with
      | still => exact hzero
      | root hne => exact (update_of_ne hne.symm _ _).trans hzero
      | link hroot _ _ _ _ hrooted =>
          cases hrooted with
          | here => exact hzero
          | entered => exact (update_of_ne hroot.symm _ _).trans hzero
      | rotate hold _ _ hcontroller =>
          refine (update_of_ne ?_ _ _).trans hzero
          intro hroot
          rw [← hroot, hzero] at hcontroller
          exact hold hcontroller.symm
      | schedule => exact hzero
      | @recover id s hs hknown =>
          have hroot : s.root ≠ 0 := by
            rw [hs] at hknown ⊢
            exact hk sender id rfl hknown
          exact (update_of_ne hroot.symm _ _).trans hzero

end WalletSite

/-- The stars and the controllers, as they should be: every controller is that of a registered
root, and no secondary is one. -/
structure WalletSponsorshipRegistry.Stars (w : WalletSponsorshipRegistry) : Prop where
  star : ∀ x, w.primaryOf x ≠ 0 → w.primaryOf (w.primaryOf x) = w.primaryOf x
  rooted : ∀ root, root ≠ 0 → w.primaryOf root = root →
    w.controllerOf root ≠ 0 ∧ w.controlledRootOf (w.controllerOf root) = root
  controls : ∀ x, w.controlledRootOf x ≠ 0 →
    w.primaryOf (w.controlledRootOf x) = w.controlledRootOf x
    ∧ w.controllerOf (w.controlledRootOf x) = x
  foreign : ∀ root, w.controllerOf root ≠ 0 → w.controllerOf root ≠ root →
    w.primaryOf (w.controllerOf root) = 0
  secondary : ∀ x, w.primaryOf x ≠ 0 → w.primaryOf x ≠ x →
    w.controlledRootOf x = 0 ∧ ∀ root, w.controllerOf root ≠ x

theorem WalletSponsorshipRegistry.Topology.stars {w : WalletSponsorshipRegistry} (h : w.Topology)
    (hzero : w.controllerOf 0 = 0) : w.Stars := by
  -- whoever has a controller is a registered root
  have hroot : ∀ root, w.controllerOf root ≠ 0 →
      root ≠ 0 ∧ w.controlledRootOf (w.controllerOf root) = root := by
    intro root hset
    have hne : root ≠ 0 := by
      rintro rfl
      exact hset hzero
    refine ⟨hne, ?_⟩
    by_cases hstar : w.primaryOf root = root
    · exact (h.rooted root hne hstar).2
    · exact absurd (h.unset root hne hstar) hset
  have hforeign : ∀ root, w.controllerOf root ≠ 0 → w.controllerOf root ≠ root →
      w.primaryOf (w.controllerOf root) = 0 := by
    intro root hset hother
    obtain ⟨hne, hback⟩ := hroot root hset
    refine h.foreign _ ?_ ?_
    · rw [hback]
      exact hne
    · rw [hback]
      exact hother
  refine ⟨h.star, h.rooted, h.controls, hforeign, fun x hset hother => ⟨?_, fun root hx => ?_⟩⟩
  · by_contra hcontrols
    rcases eq_or_ne x (w.controlledRootOf x) with heq | hne
    · have hstar := (h.controls x hcontrols).1
      rw [← heq] at hstar
      exact hother hstar
    · exact hset (h.foreign x hcontrols hne)
  · subst hx
    have hne : w.controllerOf root ≠ 0 := by
      intro hzero'
      rw [hzero'] at hset
      exact hset h.zero.1
    rcases eq_or_ne (w.controllerOf root) root with heq | hforeign'
    · obtain ⟨hroot', hback⟩ := hroot root hne
      have hstar := (h.controls (w.controllerOf root) (by rw [hback]; exact hroot')).1
      rw [hback] at hstar
      rw [heq] at hother
      exact hother hstar
    · exact hset (hforeign root hne hforeign')

/-- **The wallets form stars.**  In every run in which no recovery of the zero address is executed,
every state has the stars and the controllers as they should be, and whatever follows keeps the
primaries and counts no nonce and no epoch back. -/
theorem wallet_topology (d : WalletSite) {start : WalletChain} (hfresh : start.Fresh d)
    (ks : List WalletCall) (hguard : Runs.Guarded (attempt d.act) WalletSite.Grounded start ks) :
    (d.run start ks).wallets.Stars
      ∧ ∀ later, (d.run start ks).wallets.Grows (d.run start (ks ++ later)).wallets := by
  refine ⟨(WalletSite.topology_run hfresh ks).2.stars (WalletSite.ground_run hfresh ks hguard),
    fun later => ?_⟩
  rw [d.run_append]
  exact WalletSite.grows_run _ later

/-- The signature of an account names it. -/
def sampleEcdsa : Ecdsa := ⟨fun _ _ r _ => some (Fin.ofNat _ r.val)⟩

def sampleSigned (a : Address) : EthSignature := abiWord a.val ++ abiWord 0 ++ [27]

def sampleWallets : WalletSite where
  self := 20
  config :=
    { enrollmentRegistry := 2, feeTokenRegistry := 3, policySafe := 1, recoverySafe := 4
      recoveryTimelock := 100 }
  ecdsa := sampleEcdsa

/-- Everyone is enrolled, and the account 30 is committed to as the gateway. -/
def sampleWalletChain : WalletChain where
  site := ⟨10, 1, fun _ => 0⟩
  v1 := ⟨fun _ => true, fun _ => false, fun _ => false, fun _ => 0⟩
  fees := ⟨0, fun _ => ⟨30, 0⟩, fun _ => ⟨0, 0, 0, 0, 0, 0, 0, 0, 0, 0, false⟩, fun _ => 0⟩
  wallets := ⟨0, false, fun _ => 0, fun _ => 0, fun _ => 0, fun _ => 0, fun _ => 0, fun _ => 0,
    fun _ => 0, fun _ => false, fun _ => false, fun _ => .empty⟩

theorem sampleWalletChain_fresh : sampleWalletChain.Fresh sampleWallets := rfl

/-- A root is registered, and a secondary linked to it. -/
def sampleStar : List WalletCall :=
  [.wallets 1 (.bindGatewayOnce 30), .wallets 1 (.setProfileIssuer 6 true),
   .wallets 9 (.registerPrimary ⟨5, 0, 1, 0, 0, 500⟩ (sampleSigned 6)),
   .wallets 30 (.linkSecondary ⟨5, 7, 0, 500⟩ (sampleSigned 7) .zero [])]

theorem wallet_topology_sample :
    (sampleWallets.run sampleWalletChain sampleStar).wallets.Stars
      ∧ (sampleWallets.run sampleWalletChain sampleStar).wallets.primaryOf 7 = 5
      ∧ (sampleWallets.run sampleWalletChain sampleStar).wallets.controllerOf 5 = 5 := by
  have hguard : Runs.Guarded (attempt sampleWallets.act) WalletSite.Grounded sampleWalletChain
      sampleStar := by
    intro before k hk sender id hcall
    have hmem : k ∈ sampleStar := hk.subset (List.mem_append_right _ (List.mem_singleton_self k))
    subst hcall
    simp [sampleStar] at hmem
  exact ⟨(wallet_topology sampleWallets sampleWalletChain_fresh sampleStar hguard).1,
    by decide +kernel, by decide +kernel⟩

/-- A recovery of the zero address. -/
def sampleNoRoot : WalletCall := .wallets 4 (.scheduleRecovery 0 7 0 0 0)

def sampleNoRootId : Bytes32 := 0x8927e6aafe2ebb11fb523d3e9122a40278632a5b43ef4b70d2b512d6be7271d1

theorem sampleNoRootId_eq : WalletSponsorshipRegistry.scheduleId 0 7 0 0 0 10 = sampleNoRootId := by
  rw [WalletSponsorshipRegistry.scheduleId,
    keccak256_eval]
  decide +kernel

/-- The state after the recovery of the zero address is scheduled. -/
def sampleScheduled : WalletChain :=
  { sampleWalletChain with
    wallets := { sampleWalletChain.wallets with
      recoverySchedules := update (fun _ => .empty) sampleNoRootId
        ⟨0, 7, 0, 0, 110, false, true⟩ } }

theorem sampleNoRoot_acts :
    sampleWallets.act sampleWalletChain sampleNoRoot = .ok sampleScheduled := by
  have hcall : sampleWalletChain.wallets.scheduleRecovery sampleWallets.config 10 4 0 7 0 0 0
      = .ok sampleScheduled.wallets := by
    refine bind_ok₄.mpr ⟨_, require_of rfl, _, require_of rfl, _, require_of (by decide), _,
      require_of (by decide),
      bind_ok₄.mpr ⟨_, require_of rfl, _, require_of (by decide), _, require_of rfl, _,
      require_of rfl, bind_ok₂.mpr ⟨_, require_of rfl, 110, by decide +kernel, ?_⟩⟩⟩
    rw [sampleNoRootId_eq]
    rfl
  exact bind_ok.mpr ⟨_, hcall, rfl⟩

/-- The recovery is executed, and its controller is linked to a root. -/
def sampleGhost : List WalletCall :=
  [.advance 110, .wallets 4 (.executeRecovery sampleNoRootId)] ++ sampleStar

/-- Once a recovery of the zero address has been executed, its controller can be linked: a secondary
is then a controller. -/
theorem secondary_controls_zero : sampleWalletChain.Fresh sampleWallets
    ∧ (sampleWallets.run sampleWalletChain (sampleNoRoot :: sampleGhost)).wallets.primaryOf 7 = 5
    ∧ (sampleWallets.run sampleWalletChain (sampleNoRoot :: sampleGhost)).wallets.controllerOf 0 = 7
    ∧ ¬ (sampleWallets.run sampleWalletChain (sampleNoRoot :: sampleGhost)).wallets.Stars := by
  have hrun : sampleWallets.run sampleWalletChain (sampleNoRoot :: sampleGhost)
      = sampleWallets.run sampleScheduled sampleGhost := by
    show List.foldl _ (attempt sampleWallets.act sampleWalletChain sampleNoRoot) _ = _
    rw [attempt_of_ok sampleNoRoot_acts]
    rfl
  have hprimary : (sampleWallets.run sampleScheduled sampleGhost).wallets.primaryOf 7 = 5 := by
    decide +kernel
  have hcontroller :
    (sampleWallets.run sampleScheduled sampleGhost).wallets.controllerOf 0 = 7 := by
    decide +kernel
  rw [hrun]
  refine ⟨sampleWalletChain_fresh, hprimary, hcontroller, fun h => ?_⟩
  exact (h.secondary 7 (by rw [hprimary]; decide) (by rw [hprimary]; decide)).2 0 hcontroller

end GoatCoin
