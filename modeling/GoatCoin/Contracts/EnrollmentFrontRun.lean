/-
# `GoatCoin.Contracts.EnrollmentFrontRun` — a sponsored enrollment that was front-run

The signature with which a wallet enrolls travels inside the sponsored enrollment, and anyone may
take it out and submit it to the registry first:

    not enrolled, the signed nonce is live       the gateway submits the signature
    enrolled, the signed nonce is one behind     somebody submitted it: accepted as it is

Two runs are compared, one with the front-run and one without.  Between the front-run and the
sponsored enrollment time passes, other wallets enroll, and the other contracts change.
-/
import GoatCoin.Contracts.SponsoredSale

namespace GoatCoin

open Function (update update_self update_of_ne update_comm)
open Evm StreamG StreamGCommon

/-! ## Calls to the registry -/

inductive RegistryCall where
  | enrollSelf (sender : Address)
  | enrollSelfWithSignature (wallet : Address) (deadline : Uint256) (signature : EthSignature)
  | setEnrolled (sender who : Address) (status : Bool)
  | setBlacklisted (sender who : Address) (status : Bool)
  | setSystemAddress (sender who : Address) (status : Bool)

/-- Whom a call is about. -/
def RegistryCall.who : RegistryCall → Address
  | .enrollSelf sender => sender
  | .enrollSelfWithSignature wallet _ _ => wallet
  | .setEnrolled _ who _ => who
  | .setBlacklisted _ who _ => who
  | .setSystemAddress _ who _ => who

namespace EnrollmentRegistry

def act (r : EnrollmentRegistry) (e : Ecdsa) (domain : Bytes32) (safe : Address) (now : Nat) :
    RegistryCall → Except Revert EnrollmentRegistry
  | .enrollSelf sender => r.enrollSelf sender
  | .enrollSelfWithSignature wallet deadline signature =>
      r.enrollSelfWithSignature e domain now wallet deadline.val signature
  | .setEnrolled sender who status => r.setEnrolled safe sender who status
  | .setBlacklisted sender who status => r.setBlacklisted safe sender who status
  | .setSystemAddress sender who status => r.setSystemAddress safe sender who status

/-- The registry after a signature of the wallet was used. -/
def entered (r : EnrollmentRegistry) (wallet : Address) : EnrollmentRegistry :=
  { r with
    enrolled := update r.enrolled wallet true
    nonces := update r.nonces wallet (r.nonces wallet + 1) }

variable {r r' : EnrollmentRegistry}

theorem enrollSelfWithSignature_ok {e : Ecdsa} {domain : Bytes32} {now deadline : Nat}
    {wallet : Address} {signature : EthSignature}
    (h : r.enrollSelfWithSignature e domain now wallet deadline signature = .ok r') :
    r.nonces wallet + 1 < 2 ^ 256 ∧ r.enrolled wallet = false ∧ r.blacklisted wallet = false
      ∧ r' = r.entered wallet := by
  obtain ⟨_, -, _, -, next, hnext, h⟩ := bind_ok₃.mp h
  obtain ⟨hlt, rfl⟩ := checked_ok.mp hnext
  obtain ⟨_, -, _, -, _, hlisted, _, hout, h⟩ := bind_ok₄.mp h
  exact ⟨hlt, require_ok.mp hout, require_ok.mp hlisted, (Except.ok.inj h).symm⟩

/-! ## Two registries, one ahead by a signature -/

/-- The wallet was enrolled in the second by a signature, and they are alike otherwise. -/
structure Ahead (wallet : Address) (r r' : EnrollmentRegistry) : Prop where
  out : r.enrolled wallet = false
  eq : r' = r.entered wallet

variable {wallet : Address}

theorem Ahead.enroll (h : Ahead wallet r r') {a : Address} (hne : a ≠ wallet) :
    Together (Ahead wallet) (r.enroll a) (r'.enroll a) := by
  rw [h.eq, EnrollmentRegistry.enroll, EnrollmentRegistry.enroll]
  refine .first _ fun _ => ?_
  show Together _ _ (require (update r.enrolled wallet true a = false) _ >>= _)
  rw [update_of_ne hne]
  refine .first _ fun _ => .ok ⟨?_, ?_⟩
  · show update r.enrolled a true wallet = false
    rw [update_of_ne hne.symm]
    exact h.out
  · rw [entered, entered, update_comm hne]

theorem Ahead.act (h : Ahead wallet r r') {e : Ecdsa} {domain : Bytes32}
    {safe : Address} {now : Nat} {call : RegistryCall} (hne : call.who ≠ wallet) :
    Together (Ahead wallet) (r.act e domain safe now call) (r'.act e domain safe now call) := by
  cases call with
  | enrollSelf sender => exact h.enroll hne
  | enrollSelfWithSignature a deadline signature =>
      replace hne : a ≠ wallet := hne
      have hnonce : r'.nonces a = r.nonces a := by
        rw [h.eq]
        exact update_of_ne hne _ _
      rw [EnrollmentRegistry.act, EnrollmentRegistry.act, enrollSelfWithSignature,
        enrollSelfWithSignature, hnonce]
      refine .first _ fun _ => .first _ fun _ => .first _ fun next => .first _ fun _ =>
        .first _ fun _ => ?_
      have hnext : Ahead wallet { r with nonces := update r.nonces a next }
          { r' with nonces := update r'.nonces a next } := by
        refine ⟨h.out, ?_⟩
        rw [h.eq, entered, entered]
        dsimp only
        rw [update_of_ne hne.symm, update_comm hne]
      exact hnext.enroll hne
  | setEnrolled sender who status =>
      replace hne : who ≠ wallet := hne
      refine .first _ fun _ => .ok ⟨?_, ?_⟩
      · show update r.enrolled who status wallet = false
        rw [update_of_ne hne.symm]
        exact h.out
      · rw [h.eq, entered, entered]
        dsimp only
        rw [update_comm hne]
  | setBlacklisted sender who status =>
      replace hne : who ≠ wallet := hne
      refine .first _ fun _ => .ok ⟨?_, ?_⟩
      · show (if status then update r.enrolled who false else r.enrolled) wallet = false
        cases status with
        | false => exact h.out
        | true => exact (update_of_ne hne.symm _ _).trans h.out
      · rw [h.eq, entered, entered]
        cases status with
        | false => rfl
        | true =>
            dsimp only
            rw [if_pos rfl, if_pos rfl, update_comm hne]
  | setSystemAddress sender who status =>
      refine .first _ fun _ => .ok ⟨h.out, ?_⟩
      rw [h.eq]
      rfl

end EnrollmentRegistry

/-! ## Between the two transactions -/

/-- What happens meanwhile: the next block, a call to the registry, or any change of the rest. -/
inductive Meanwhile where
  | advance (now : Uint256)
  | registry (call : RegistryCall)
  | others (fees : FeeTokenRegistry) (wallets : WalletSponsorshipRegistry)
    (tokens : Address → Token)
      (desks : Address → SponsoredBuyDesk)

/-- A call to the registry is not about the wallet. -/
def Meanwhile.LeavesAlone (wallet : Address) : Meanwhile → Prop
  | .registry call => call.who ≠ wallet
  | _ => True

namespace RelaySite

variable (d : RelaySite)

/-- The domain of the registry. -/
def registryDomain (w : World) : Bytes32 :=
  domainSeparator "GoatEnrollmentRegistry" "1" w.site.chainId d.config.enrollmentRegistry

def meanwhile (safe : Address) (w : World) : Meanwhile → Except Revert World
  | .advance now => do
      require (w.site.now ≤ now) .badArg
      .ok { w with site := { w.site with now } }
  | .registry call => do
      let v1 ← w.v1.act d.ecdsa (d.registryDomain w) safe w.now call
      .ok { w with v1 }
  | .others fees wallets tokens desks => .ok { w with fees, wallets, tokens, desks }

def later (safe : Address) (w : World) (ks : List Meanwhile) : World :=
  ks.foldl (attempt (d.meanwhile safe)) w

/-- Someone submits the signature of the wallet to the registry. -/
def frontRun (safe : Address) (w : World) (v : V1Enrollment) : World :=
  attempt (d.meanwhile safe) w
    (.registry (.enrollSelfWithSignature v.wallet v.deadline v.signature))

end RelaySite

/-- Two worlds that differ in the registry only, which is ahead in the second. -/
structure World.Ahead (wallet : Address) (w w' : World) : Prop where
  v1 : w.v1.Ahead wallet w'.v1
  rest : w' = { w with v1 := w'.v1 }

namespace RelaySite

variable {d : RelaySite} {safe wallet : Address} {w w' : World}

theorem meanwhile_ahead (h : World.Ahead wallet w w') {k : Meanwhile} (hk : k.LeavesAlone wallet) :
    Together (World.Ahead wallet) (d.meanwhile safe w k) (d.meanwhile safe w' k) := by
  obtain ⟨hv1, hrest⟩ := h
  rw [hrest]
  cases k with
  | advance now => exact .first _ fun _ => .ok ⟨hv1, rfl⟩
  | registry call => exact (hv1.act hk).bind fun r r' hr => .ok ⟨hr, rfl⟩
  | others fees wallets tokens desks => exact .ok ⟨hv1, rfl⟩

theorem later_ahead (h : World.Ahead wallet w w') {ks : List Meanwhile}
    (hks : ∀ k ∈ ks, k.LeavesAlone wallet) :
    World.Ahead wallet (d.later safe w ks) (d.later safe w' ks) := by
  induction ks generalizing w w' with
  | nil => exact h
  | cons k ks ih =>
      have hk : Together (World.Ahead wallet) (d.meanwhile safe w k) (d.meanwhile safe w' k) :=
        meanwhile_ahead h (hks k List.mem_cons_self)
      exact ih (hk.attempt h) fun l hl => hks l (List.mem_cons_of_mem k hl)

theorem frontRun_cases (d : RelaySite) (safe : Address) (w : World) (v : V1Enrollment) :
    d.frontRun safe w v = w ∨ World.Ahead v.wallet w (d.frontRun safe w v) := by
  rcases attempt_cases (d.meanwhile safe) w
    (.registry (.enrollSelfWithSignature v.wallet v.deadline v.signature)) with ⟨h, -⟩ | h
  · exact .inl h
  · obtain ⟨r, hr, h⟩ := bind_ok.mp h
    obtain ⟨-, hout, -, heq⟩ := EnrollmentRegistry.enrollSelfWithSignature_ok hr
    right
    rw [frontRun, ← Except.ok.inj h]
    exact ⟨⟨hout, heq⟩, rfl⟩

end RelaySite

/-! ## The sponsored enrollment -/

namespace StreamGEnroll

variable {e : Ecdsa} {ctx : StreamGCommon.Ctx} {w w' : World} {v : V1Enrollment}
  {r : EnrollmentRegistry}

/-- The gateway submitted the signature, or found it submitted. -/
theorem enrollV1OrAcceptFrontRun_ok (h : enrollV1OrAcceptFrontRun e ctx w v = .ok r) :
    w.v1.blacklisted v.wallet = false ∧ v.nonce.val + 1 < 2 ^ 256
      ∧ (w.v1.enrolled v.wallet = false ∧ w.v1.nonces v.wallet = v.nonce.val
            ∧ r = w.v1.entered v.wallet
          ∨ w.v1.enrolled v.wallet = true ∧ w.v1.nonces v.wallet = v.nonce.val + 1 ∧ r = w.v1) := by
  obtain ⟨_, hlisted, h⟩ := bind_ok.mp h
  refine ⟨require_ok.mp hlisted, ?_⟩
  split at h
  · rename_i hlive
    obtain ⟨hlt, -, -, heq⟩ := EnrollmentRegistry.enrollSelfWithSignature_ok h
    rw [hlive.2] at hlt
    exact ⟨hlt, .inl ⟨hlive.1, hlive.2, heq⟩⟩
  · split at h
    · rename_i henrolled
      obtain ⟨next, hnext, h⟩ := bind_ok.mp h
      obtain ⟨hlt, rfl⟩ := checked_ok.mp hnext
      obtain ⟨_, hnonce, _, -, _, -, h⟩ := bind_ok₃.mp h
      exact ⟨hlt, .inr ⟨henrolled, require_ok.mp hnonce, (Except.ok.inj h).symm⟩⟩
    · cases h

theorem enrolled_after (h : enrollV1OrAcceptFrontRun e ctx w v = .ok r) :
    r.blacklisted v.wallet = false ∧ r.enrolled v.wallet = true
      ∧ r.nonces v.wallet = v.nonce.val + 1 := by
  obtain ⟨hlisted, -, ⟨-, hnonce, rfl⟩ | ⟨henrolled, hnonce, rfl⟩⟩ := enrollV1OrAcceptFrontRun_ok h
  · refine ⟨hlisted, @update_self _ (fun _ => Bool) _ v.wallet true w.v1.enrolled, ?_⟩
    rw [EnrollmentRegistry.entered]
    dsimp only
    rw [update_self, hnonce]
  · exact ⟨hlisted, henrolled, hnonce⟩

theorem enrollV1OrAcceptFrontRun_ahead (h : World.Ahead v.wallet w w')
    (hsigned : e.recover (v1EnrollDigest ctx w v) v.signature = .ok v.wallet)
    (hok : enrollV1OrAcceptFrontRun e ctx w v = .ok r) :
    enrollV1OrAcceptFrontRun e ctx w' v = .ok r := by
  obtain ⟨⟨hout, hahead⟩, hrest⟩ := h
  obtain ⟨hlisted, hlt, ⟨-, hnonce, rfl⟩ | ⟨henrolled, -, -⟩⟩ := enrollV1OrAcceptFrontRun_ok hok
  · have hin : w'.v1.enrolled v.wallet = true := by
      rw [hahead]
      exact update_self v.wallet true w.v1.enrolled
    have hnonce' : w'.v1.nonces v.wallet = v.nonce.val + 1 := by
      rw [hahead, ← hnonce]
      exact update_self v.wallet _ w.v1.nonces
    have hlisted' : w'.v1.blacklisted v.wallet = false := by
      rw [hahead]
      exact hlisted
    have hsigned' : e.recover (v1EnrollDigest ctx w' v) v.signature = .ok v.wallet := by
      rw [hrest]
      exact hsigned
    refine bind_ok.mpr ⟨(), require_of hlisted', ?_⟩
    rw [if_neg fun hlive => Bool.false_ne_true (hlive.1.symm.trans hin), if_pos hin]
    refine bind_ok₄.mpr ⟨_, checked_ok.mpr ⟨hlt, rfl⟩, (), require_of hnonce', _, hsigned', (),
      require_of rfl, ?_⟩
    rw [hahead]
  · exact absurd (hout.symm.trans henrolled) Bool.false_ne_true

theorem authorize_signed {g g' : GoatRelayGateway} {sender : Address} {x : EnrollmentCall}
    (h : authorize e ctx w g sender x = .ok g') :
    e.recover (v1EnrollDigest ctx w x.v1Enrollment) x.v1Enrollment.signature
      = .ok x.v1Enrollment.wallet := by
  obtain ⟨_, -, _, -, _, -, _, hwallet, h⟩ := bind_ok₄.mp h
  obtain ⟨_, -, _, -, _, -, _, -, h⟩ := bind_ok₄.mp h
  obtain ⟨_, -, _, -, signer, hsigner, _, heq, h⟩ := bind_ok₄.mp h
  rw [hsigner, require_ok.mp heq, require_ok.mp hwallet]

theorem settle_ahead {x : EnrollmentCall} {w₁ : World} (h : World.Ahead x.v1Enrollment.wallet w w')
    (hsigned : e.recover (v1EnrollDigest ctx w x.v1Enrollment) x.v1Enrollment.signature
      = .ok x.v1Enrollment.wallet)
    (hok : settle e ctx w x = .ok w₁) : settle e ctx w' x = .ok w₁ := by
  obtain ⟨r, hr, hok⟩ := bind_ok.mp hok
  refine bind_ok.mpr ⟨r, enrollV1OrAcceptFrontRun_ahead h hsigned hr, ?_⟩
  rw [h.rest]
  exact hok

theorem settle_v1 {x : EnrollmentCall} (h : settle e ctx w x = .ok w') :
    enrollV1OrAcceptFrontRun e ctx w x.v1Enrollment = .ok w'.v1 := by
  obtain ⟨r, hr, wallets, -, h⟩ := bind_ok₂.mp h
  rw [hr]
  split at h
  · rw [← Except.ok.inj h]
  · obtain ⟨_, -, h⟩ := bind_ok.mp h
    obtain ⟨_, -, w₁, hpermit, w₂, htransfer, _, -, h⟩ := bind_ok₄.mp h
    rw [← Except.ok.inj h,
      (World.permit_tokens hpermit).trans (World.transferFrom_tokens htransfer)]

end StreamGEnroll

/-- A sponsored enrollment that would succeed does so, and with the same outcome, after anyone
submitted its signature to the registry, whatever happened in between that is not about the wallet;
and after one that succeeds the wallet is enrolled, not blacklisted, and one nonce past the
signed. -/
theorem enrollment_front_run (d : RelaySite) (safe : Address) (x : EnrollmentCall) :
    (∀ g w ks sender g' w', (∀ k ∈ ks, Meanwhile.LeavesAlone x.v1Enrollment.wallet k) →
        d.execute g (d.later safe w ks) sender (.enrollment x) = .ok (g', w') →
        d.execute g (d.later safe (d.frontRun safe w x.v1Enrollment) ks) sender (.enrollment x)
          = .ok (g', w'))
      ∧ ∀ g w sender g' w', d.execute g w sender (.enrollment x) = .ok (g', w') →
        w'.v1.blacklisted x.v1Enrollment.wallet = false
          ∧ w'.v1.enrolled x.v1Enrollment.wallet = true
          ∧ w'.v1.nonces x.v1Enrollment.wallet = x.v1Enrollment.nonce.val + 1 := by
  refine ⟨fun g w ks sender g' w' hks h => ?_, fun g w sender g' w' h => ?_⟩
  · rcases d.frontRun_cases safe w x.v1Enrollment with heq | hahead
    · rw [heq]
      exact h
    · have hlater : World.Ahead _ (d.later safe w ks) _ := RelaySite.later_ahead hahead hks
      obtain ⟨g₁, hopening, w₁, hsettle, h⟩ := bind_ok₂.mp h
      obtain ⟨g₂, henter, hauthorize⟩ := bind_ok.mp hopening
      have hsigned := StreamGEnroll.authorize_signed hauthorize
      have hopening' : d.opening g (d.later safe (d.frontRun safe w x.v1Enrollment) ks) sender
          (.enrollment x) = .ok g₁ := by
        rw [hlater.rest]
        exact hopening
      refine bind_ok₂.mpr ⟨g₁, hopening', w₁, ?_, h⟩
      have hctx : g.ctx d.config (d.later safe (d.frontRun safe w x.v1Enrollment) ks)
          = g.ctx d.config (d.later safe w ks) := by
        rw [hlater.rest]
        rfl
      show StreamGEnroll.settle d.ecdsa (g.ctx d.config _) _ x = .ok w₁
      rw [hctx]
      exact StreamGEnroll.settle_ahead hlater hsigned hsettle
  · obtain ⟨g₁, -, h⟩ := bind_ok.mp h
    obtain ⟨w₁, hsettle, h⟩ := bind_ok.mp h
    cases h
    exact StreamGEnroll.enrolled_after (StreamGEnroll.settle_v1 hsettle)

/-! The controller 5 sponsors the account 7, and meanwhile the account 8 enrolls. -/

def sampleUnenrolled : World :=
  { sampleRelayWorld with
    v1 := ⟨fun a => a ≠ 7 ∧ a ≠ 8, fun _ => false, fun _ => false, fun _ => 0⟩ }

def sampleMeanwhile : List Meanwhile := [.advance 20, .registry (.enrollSelf 8)]

def sampleEnrollment : EnrollmentCall where
  intent :=
    { intentId := 90
      deploymentManifestHash := 50
      feeTokenConfigHash := 0
      root := 5
      controller := 5
      controllerEpoch := 0
      secondary := 7
      enrollDigest := hashTypedData (domainSeparator "GoatEnrollmentRegistry" "1" 1 21)
        (enrollStructHash 7 0 500)
      linkDigest := hashTypedData (WalletSponsorshipRegistry.domain 1 23)
        (linkSecondaryStructHash ⟨5, 7, 0, 500⟩)
      rootAuthorizationDigest := 0
      feeToken := 0
      feeAuthorizationMode := 0
      feeAuthorizationDigest := 0
      maxFee := 0
      feeQuoteHash := 0
      nonce := 0
      deadline := 500 }
  quote := StreamGEnroll.zeroQuote
  v1Enrollment := ⟨7, 0, 500, sampleSigned 7⟩
  link := ⟨5, 7, 0, 500⟩
  rootAuthorization := .zero
  feeAuthorization :=
    ⟨0, ⟨0, 0, 0, 0, 0, 0, 0⟩, ⟨0, 0, 0, 0, 0, 0, 0, 0, 0⟩, ⟨0, 0, 0, 0, 0, 0, 0, 0⟩, []⟩
  sponsorSignature := sampleSigned 5
  quoteSignature := []
  linkSignature := sampleSigned 7
  rootAuthorizationSignature := []

theorem sampleEcdsa_seven (digest : Bytes32) :
    sampleEcdsa.recover digest (sampleSigned 7) = .ok 7 := by
  rfl

theorem sampleEnrollment_opening : ∃ g', sampleRelaySite.opening sampleGateway
    (sampleRelaySite.later 6 sampleUnenrolled sampleMeanwhile) 5 (.enrollment sampleEnrollment)
      = .ok g' := by
  exact ⟨_, bind_ok₄.mpr ⟨sampleEntered, rfl, _, require_of (by decide : 20 < 500), _,
    require_of (by decide : ¬ ((7 : Address) = 0 ∨ (5 : Address) = 0)), _,
    require_of (by decide : ¬ ((7 : Address) ≠ 7 ∨ (5 : Address) ≠ 5)),
    bind_ok₄.mpr ⟨_, require_of rfl, _,
    require_of rfl, _, require_of rfl, _, require_of (by decide : (5 : Address) ≠ 0),
    bind_ok₄.mpr ⟨_,
    require_of rfl, _, require_of rfl, _, require_of rfl, 7, sampleEcdsa_seven _, bind_ok₄.mpr ⟨_,
    require_of rfl, _, require_of rfl, 7, sampleEcdsa_seven _, _, require_of rfl, bind_ok₃.mpr ⟨_,
    require_of rfl, _, require_of ⟨rfl, rfl⟩, sampleEntered, rfl,
    bind_ok₂.mpr ⟨5, sampleEcdsa_five _, _, require_of rfl, markIntentAndNonce_ok.mpr
      ⟨⟨(by decide : (90 : Bytes32) ≠ 0), rfl, rfl, (by decide : 0 + 1 < 2 ^ 256)⟩, rfl⟩⟩⟩⟩⟩⟩⟩⟩

theorem enrollment_front_run_sample : ∃ g' w',
    (sampleRelaySite.frontRun 6 sampleUnenrolled sampleEnrollment.v1Enrollment).v1.enrolled 7 = true
      ∧ sampleRelaySite.execute sampleGateway (sampleRelaySite.later 6
          (sampleRelaySite.frontRun 6 sampleUnenrolled sampleEnrollment.v1Enrollment)
            sampleMeanwhile) 5
          (.enrollment sampleEnrollment) = .ok (g', w')
      ∧ w'.v1.nonces 7 = 1 := by
  obtain ⟨g₁, hopening⟩ := sampleEnrollment_opening
  obtain ⟨w', hsettle⟩ : ∃ w', sampleRelaySite.settle sampleGateway
      (sampleRelaySite.later 6 sampleUnenrolled sampleMeanwhile) (.enrollment sampleEnrollment)
      = .ok w' :=
    exists_of_isOk (by decide +kernel)
  have hexecute : sampleRelaySite.execute sampleGateway
      (sampleRelaySite.later 6 sampleUnenrolled sampleMeanwhile) 5 (.enrollment sampleEnrollment)
        = .ok ({ g₁ with entered := false }, w') :=
    bind_ok₂.mpr ⟨g₁, hopening, w', hsettle, rfl⟩
  have halone : ∀ k ∈ sampleMeanwhile, Meanwhile.LeavesAlone 7 k := by
    intro k hk
    rcases List.mem_cons.mp hk with rfl | hk
    · trivial
    · rw [List.mem_singleton.mp hk]
      exact (by decide : (8 : Address) ≠ 7)
  obtain ⟨hfront, hafter⟩ := enrollment_front_run sampleRelaySite 6 sampleEnrollment
  exact ⟨_,
    w', by decide +kernel, hfront _ _ _ _ _ _ halone hexecute, (hafter _ _ _ _ _ hexecute).2.2⟩

end GoatCoin
