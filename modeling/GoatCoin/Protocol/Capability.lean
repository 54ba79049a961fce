/-
# `GoatCoin.Protocol.Capability` — `capability.rs`: what a node declares, and how it is checked

A record lists devices, each of a class and at an endpoint.  Validation looks at one device after
another:

    gcu_ok, fp_ok, density_ok    are taken down, and never put up again
    signals[class]               is written, over what an earlier device of the class wrote

So the checks do not depend on the order of the devices and the signals do: of several devices of
one class, the last one decides whether the class is merged.
-/
import GoatCoin.Lib.Binary64
import GoatCoin.Protocol.Maturity

namespace GoatCoin.Protocol

open Wire Assoc
open Binary64 (Double)

/-! ## Records -/

/-- The signature algorithms. -/
inductive AlgId where
  | mlDsa65
deriving DecidableEq

def AlgId.asU16 : AlgId → Nat
  | .mlDsa65 => 1

inductive NetworkClass where
  | unknown
  | residential
  | datacenter
deriving DecidableEq

def NetworkClass.asU16 : NetworkClass → Nat
  | .unknown => 0
  | .residential => 1
  | .datacenter => 2

/-- What the density asks for. -/
inductive DensitySignal where
  | ok
  | degradeQNetwork
  | cohortMerge
deriving DecidableEq

structure TaskClassCap where
  taskClassId : Nat
  measuredGcuRate : Double
  memCapacityMb : Nat
  batchLimit : Nat
  lastBenchEpoch : Nat

/-- When a device is idle. -/
structure Availability where
  windowBitmap : Nat
  expectedIdleH : Nat
  preemptP50Ms : Nat
  preemptP95Ms : Nat

structure Envelope where
  maxPowerW : Nat
  thermalPolicyClass : Nat

structure DensityWitness where
  endpointIdCommit : List UInt8
  observedComputeEquiv : Nat

structure AttestationRefs where
  idleScoreEpoch : Nat
  networkClass : NetworkClass
  tee : Bool

/-- What a device can compute. -/
structure DeviceCapability where
  classId : ClassId
  fingerprintCommit : List UInt8
  taskClasses : List TaskClassCap
  determinismRef : ClassId × Nat
  availability : Availability
  envelope : Envelope
  densityWitness : DensityWitness
  attestationRefs : AttestationRefs

structure CapabilityRecord where
  version : Nat
  nodeId : List UInt8
  operatorBinding : List UInt8
  epoch : Nat
  nonce : List UInt8
  devices : List DeviceCapability
  prevRecord : List UInt8
  algId : AlgId
  signature : List UInt8

/-! ## Bytes -/

def blob (b : List UInt8) : List UInt8 := toBE 4 b.length ++ b

def sstr (s : String) : List UInt8 := blob (textBytes s)

def serTaskClass (tc : TaskClassCap) : List UInt8 :=
  toBE 4 tc.taskClassId ++ toBE 8 ((tc.measuredGcuRate.mul (.finite 1000000)).roundAway.toWord 64)
    ++ toBE 4 tc.memCapacityMb ++ toBE 2 tc.batchLimit ++ toBE 8 tc.lastBenchEpoch

def serDevice (d : DeviceCapability) : List UInt8 :=
  sstr d.classId ++ blob d.fingerprintCommit
    ++ toBE 4 d.taskClasses.length ++ d.taskClasses.flatMap (fun tc => blob (serTaskClass tc))
    ++ sstr d.determinismRef.1 ++ toBE 4 d.determinismRef.2
    ++ blob (toBE 16 d.availability.windowBitmap) ++ toBE 4 d.availability.expectedIdleH
    ++ toBE 4 d.availability.preemptP50Ms ++ toBE 4 d.availability.preemptP95Ms
    ++ toBE 4 d.envelope.maxPowerW ++ toBE 2 d.envelope.thermalPolicyClass
    ++ blob d.densityWitness.endpointIdCommit ++ toBE 4 d.densityWitness.observedComputeEquiv
    ++ toBE 8 d.attestationRefs.idleScoreEpoch ++ toBE 2 d.attestationRefs.networkClass.asU16
    ++ toBE 2 d.attestationRefs.tee.toNat

/-- What is signed of a record. -/
def serializeUnsigned (r : CapabilityRecord) : List UInt8 :=
  [0x47, 0x43, 0x41, 0x50, 0x01] ++ toBE 2 r.version ++ blob r.nodeId ++ blob r.operatorBinding
    ++ toBE 8 r.epoch
    ++ blob r.nonce ++ toBE 4 r.devices.length ++ r.devices.flatMap (fun d => blob (serDevice d))
    ++ blob r.prevRecord ++ toBE 2 r.algId.asU16

def serializeSigned (r : CapabilityRecord) : List UInt8 := serializeUnsigned r ++ blob r.signature

def recordHash (r : CapabilityRecord) : List UInt8 := (sha3_256 (serializeSigned r)).toList

def nodeIdFromPubkey (pubkey : List UInt8) : List UInt8 := (sha3_256 pubkey).toList

def zero32 : List UInt8 := List.replicate 32 0

section
-- ML-DSA verification of a public key, a message and a signature
variable (mlDsa : List UInt8 → List UInt8 → List UInt8 → Bool)

def verifyRecordSignature (r : CapabilityRecord) (pubkey : List UInt8) : Bool :=
  decide (r.nodeId = nodeIdFromPubkey pubkey) &&
    mlDsa pubkey (serializeUnsigned { r with signature := [] }) r.signature

/-! ## Validation -/

def residentialDensityPlausible : Nat := 5

def densitySignalFor (observed : Nat) (nc : NetworkClass) : DensitySignal :=
  if nc = .residential ∧ observed > residentialDensityPlausible then .cohortMerge else .ok

structure ValidationContext where
  registeredPubkey : List UInt8
  expectedNonce : List UInt8
  lastRecordHash : Option (List UInt8)
  toleranceBands : Map Nat (Double × Double)
  priorFingerprints : Map ClassId (List UInt8)
  probeObservedEquiv : Map (List UInt8) Nat
  densityUnderclaimSlack : Nat

structure ValidationResult where
  ok : Bool
  checks : Map String Bool
  reasons : List String
  densitySignals : Map ClassId DensitySignal

/-- What the loop over the devices has found so far. -/
structure Findings where
  gcuOk : Bool
  fpOk : Bool
  densityOk : Bool
  reasons : List String
  signals : Map ClassId DensitySignal

-- how a double is written
variable (display : Double → String) (ctx : ValidationContext)

/-- A band holds a rate. -/
def inBand (tc : TaskClassCap) : Bool :=
  match ctx.toleranceBands.lookup tc.taskClassId with
  | some (lo, hi) => lo.le tc.measuredGcuRate && tc.measuredGcuRate.le hi
  | none => true

def bandReason (classId : ClassId) (tc : TaskClassCap) : String :=
  match ctx.toleranceBands.lookup tc.taskClassId with
  | some (lo, hi) =>
      classId ++ " tc" ++ toString tc.taskClassId ++ " rate " ++ display tc.measuredGcuRate
      ++ " outside band (" ++ display lo ++ "," ++ display hi ++ ")"
  | none => ""

def checkTaskClass (classId : ClassId) (f : Findings) (tc : TaskClassCap) : Findings :=
  if inBand ctx tc then f
  else { f with gcuOk := false, reasons := f.reasons ++ [bandReason display ctx classId tc] }

def probeOf (d : DeviceCapability) : Option Nat :=
  ctx.probeObservedEquiv.lookup d.densityWitness.endpointIdCommit

/-- The probe's value when there is one. -/
def effectiveDensity (d : DeviceCapability) : Nat :=
  (probeOf ctx d).getD d.densityWitness.observedComputeEquiv

def fingerprintStable (d : DeviceCapability) : Bool :=
  match ctx.priorFingerprints.lookup d.classId with
  | some prior => decide (prior = d.fingerprintCommit)
  | none => true

/-- The declaration and the slack are added in 32 bits. -/
def densityConsistent (d : DeviceCapability) : Bool :=
  match probeOf ctx d with
  | some p =>
      !decide ((d.densityWitness.observedComputeEquiv + ctx.densityUnderclaimSlack) % 2 ^ 32 < p)
  | none => true

def densityReason (d : DeviceCapability) : String :=
  d.classId ++ " density under-declared (claimed " ++ toString d.densityWitness.observedComputeEquiv
    ++ " vs probe " ++ toString ((probeOf ctx d).getD 0) ++ ")"

def deviceSignal (d : DeviceCapability) : DensitySignal :=
  densitySignalFor (effectiveDensity ctx d) d.attestationRefs.networkClass

/-- One turn of the loop. -/
def checkDevice (f : Findings) (d : DeviceCapability) : Findings :=
  let f := d.taskClasses.foldl (checkTaskClass display ctx d.classId) f
  let f := if fingerprintStable ctx d then f
    else { f with
           fpOk := false, reasons :=
    f.reasons ++ [d.classId ++ " fingerprint drift (triggers re-benchmark)"] }
  let f := if densityConsistent ctx d then f
    else { f with densityOk := false, reasons := f.reasons ++ [densityReason ctx d] }
  { f with signals := f.signals.insert d.classId (deviceSignal ctx d) }

def reasonUnless (ok : Bool) (reason : String) : List String := if ok then [] else [reason]

/-- All checks, with the reasons. -/
def validateRecord (r : CapabilityRecord) : ValidationResult :=
  let sigOk := verifyRecordSignature mlDsa r ctx.registeredPubkey
  let nonceOk := decide (r.nonce = ctx.expectedNonce)
  let chainOk := decide (r.prevRecord = ctx.lastRecordHash.getD zero32)
  let reasons := reasonUnless sigOk "signature/node_id mismatch"
    ++ reasonUnless nonceOk "nonce does not match epoch beacon (possible replay)"
    ++ reasonUnless chainOk "prev_record does not chain to last accepted record"
  let f := r.devices.foldl (checkDevice display ctx) ⟨true, true, true, reasons, ∅⟩
  let checks :=
    ((((((∅ : Map String Bool).insert "signature" sigOk).insert "nonce" nonceOk).insert
      "chain" chainOk).insert
    "gcu_tolerance" f.gcuOk).insert "fingerprint_stable" f.fpOk).insert
      "density_consistent" f.densityOk
  -- a drifting fingerprint does not refuse the record
  { ok := sigOk && nonceOk && chainOk && f.gcuOk && f.densityOk
    checks := checks
    reasons := f.reasons
    densitySignals := f.signals }

end

/-- The clusters that stand behind each class that is to be merged. -/
def cohortMergeGroups (signals : Map ClassId DensitySignal)
    (endpointClusters : Map ClassId (List String)) : List (List String) :=
  signals.entries.filterMap fun e => if e.2 = .cohortMerge then endpointClusters.lookup e.1
    else none

/-! ## The loop -/

section
variable {display : Double → String} {ctx : ValidationContext}

theorem foldl_checkTaskClass (classId : ClassId) (tcs : List TaskClassCap) : ∀ f : Findings,
    let f' := tcs.foldl (checkTaskClass display ctx classId) f
    f'.gcuOk = (f.gcuOk && tcs.all (inBand ctx)) ∧ f'.fpOk = f.fpOk ∧ f'.densityOk = f.densityOk
      ∧ f'.signals = f.signals := by
  induction tcs with
  | nil =>
      intro f
      exact ⟨(Bool.and_true _).symm, rfl, rfl, rfl⟩
  | cons tc tcs ih =>
      intro f
      obtain ⟨hgcu, hfp, hdensity, hsignals⟩ := ih (checkTaskClass display ctx classId f tc)
      dsimp only at hgcu hfp hdensity hsignals ⊢
      rw [List.foldl_cons, hgcu, hfp, hdensity, hsignals, List.all_cons]
      unfold checkTaskClass
      cases hband : inBand ctx tc with
      | false => exact ⟨(Bool.and_false _).symm, rfl, rfl, rfl⟩
      | true => exact ⟨rfl, rfl, rfl, rfl⟩

/-- **One turn**: what it takes down and what it writes. -/
theorem checkDevice_eq (f : Findings) (d : DeviceCapability) :
    let f' := checkDevice display ctx f d
    f'.gcuOk = (f.gcuOk && d.taskClasses.all (inBand ctx))
    ∧ f'.fpOk = (f.fpOk && fingerprintStable ctx d)
      ∧ f'.densityOk = (f.densityOk && densityConsistent ctx d)
      ∧ f'.signals = f.signals.insert d.classId (deviceSignal ctx d) := by
  obtain ⟨hgcu, hfp, hdensity, hsignals⟩ :=
    @foldl_checkTaskClass display ctx d.classId d.taskClasses f
  unfold checkDevice
  dsimp only at hgcu hfp hdensity hsignals ⊢
  cases fingerprintStable ctx d <;> cases densityConsistent ctx d <;>
    simp [hgcu, hfp, hdensity, hsignals]

/-- **The whole loop**: the checks of all devices, and the signal of each class's last. -/
theorem foldl_checkDevice (devices : List DeviceCapability) : ∀ f : Findings,
    let f' := devices.foldl (checkDevice display ctx) f
    f'.gcuOk = (f.gcuOk && devices.all fun d => d.taskClasses.all (inBand ctx))
      ∧ f'.fpOk = (f.fpOk && devices.all (fingerprintStable ctx))
      ∧ f'.densityOk = (f.densityOk && devices.all (densityConsistent ctx))
      ∧ ∀ c, f'.signals.lookup c
          = (((devices.filter (·.classId = c)).getLast?.map (deviceSignal ctx)).or
            (f.signals.lookup c)) := by
  induction devices with
  | nil =>
      intro f
      exact ⟨(Bool.and_true _).symm, (Bool.and_true _).symm, (Bool.and_true _).symm, fun c => rfl⟩
  | cons d devices ih =>
      intro f
      obtain ⟨hgcu, hfp, hdensity, hsignals⟩ := ih (checkDevice display ctx f d)
      obtain ⟨hgcu', hfp', hdensity', hsignals'⟩ := @checkDevice_eq display ctx f d
      dsimp only at hgcu hfp hdensity hsignals hgcu' hfp' hdensity' hsignals' ⊢
      rw [List.foldl_cons]
      refine ⟨?_, ?_, ?_, fun c => ?_⟩
      · rw [hgcu, hgcu', Bool.and_assoc, List.all_cons]
      · rw [hfp, hfp', Bool.and_assoc, List.all_cons]
      · rw [hdensity, hdensity', Bool.and_assoc, List.all_cons]
      · rw [hsignals, hsignals']
        by_cases hc : d.classId = c
        · rw [List.filter_cons_of_pos (by simpa using hc), hc, AList.lookup_insert]
          cases hlast :
            (devices.filter (·.classId = c)).getLast? <;> simp [List.getLast?_cons, hlast]
        · rw [List.filter_cons_of_neg (by simpa using hc), AList.lookup_insert_ne (Ne.symm hc)]

end

/-! ## Masking -/

/-- A device on a residential endpoint that hosts more than it plausibly can. -/
def Dense (ctx : ValidationContext) (d : DeviceCapability) : Prop :=
  d.attestationRefs.networkClass = .residential
    ∧ residentialDensityPlausible < effectiveDensity ctx d

theorem deviceSignal_eq_iff (ctx : ValidationContext) (d : DeviceCapability) :
    deviceSignal ctx d = .cohortMerge ↔ Dense ctx d := by
  unfold deviceSignal densitySignalFor Dense
  split_ifs with h
  · exact iff_of_true rfl h
  · exact iff_of_false (by decide) h

section
variable (mlDsa : List UInt8 → List UInt8 → List UInt8 → Bool) (display : Double → String)
  (ctx : ValidationContext)

theorem lookup_densitySignals (r : CapabilityRecord) (c : ClassId) :
    (validateRecord mlDsa display ctx r).densitySignals.lookup c
      = (r.devices.filter (·.classId = c)).getLast?.map (deviceSignal ctx) := by
  unfold validateRecord
  dsimp only
  rw [(foldl_checkDevice r.devices _).2.2.2 c, AList.lookup_empty, Option.or_none]

/-- No device of a record hides another, in whichever order they are listed.  A signature is over
the listing, so the checks are compared of records whose signatures are as good. -/
structure Unmasked (r : CapabilityRecord) : Prop where
  signal : ∀ c, (validateRecord mlDsa display ctx r).densitySignals.lookup c = some .cohortMerge
    ↔ ∃ d ∈ r.devices, d.classId = c ∧ Dense ctx d
  order : ∀ r' : CapabilityRecord, r'.devices.Perm r.devices → r'.nonce = r.nonce →
    r'.prevRecord = r.prevRecord →
    (∀ c, (validateRecord mlDsa display ctx r').densitySignals.lookup c
        = (validateRecord mlDsa display ctx r).densitySignals.lookup c)
      ∧ (verifyRecordSignature mlDsa r' ctx.registeredPubkey
        = verifyRecordSignature mlDsa r ctx.registeredPubkey →
        (validateRecord mlDsa display ctx r').checks = (validateRecord mlDsa display ctx r).checks
          ∧ (validateRecord mlDsa display ctx r').ok = (validateRecord mlDsa display ctx r).ok)

variable {mlDsa display ctx}

theorem lookup_of_uniform {r : CapabilityRecord} {d : DeviceCapability} (hd : d ∈ r.devices)
    (h : ∀ d' ∈ r.devices, d'.classId = d.classId → (Dense ctx d' ↔ Dense ctx d)) :
    (validateRecord mlDsa display ctx r).densitySignals.lookup d.classId
    = some (deviceSignal ctx d) := by
  rw [lookup_densitySignals]
  cases hlast : (r.devices.filter (·.classId = d.classId)).getLast? with
  | none =>
      rw [List.getLast?_eq_none_iff, List.filter_eq_nil_iff] at hlast
      exact absurd (decide_eq_true rfl) (hlast d hd)
  | some d' =>
      obtain ⟨hmem, hclass⟩ := List.mem_filter.mp (List.mem_of_getLast? hlast)
      have hdense := h d' hmem (of_decide_eq_true hclass)
      unfold Dense at hdense
      unfold deviceSignal densitySignalFor
      rw [Option.map_some]
      congr 1
      exact if_congr hdense rfl rfl

theorem checks_of_perm {r r' : CapabilityRecord} (hperm : r'.devices.Perm r.devices)
    (hnonce : r'.nonce = r.nonce) (hprev : r'.prevRecord = r.prevRecord)
    (hsig : verifyRecordSignature mlDsa r' ctx.registeredPubkey
      = verifyRecordSignature mlDsa r ctx.registeredPubkey) :
    (validateRecord mlDsa display ctx r').checks = (validateRecord mlDsa display ctx r).checks
      ∧ (validateRecord mlDsa display ctx r').ok = (validateRecord mlDsa display ctx r).ok := by
  unfold validateRecord
  dsimp only
  rw [hnonce, hprev, hsig]
  generalize reasonUnless _ _ ++ _ ++ _ = reasons
  obtain ⟨hgcu, hfp, hdensity, -⟩ :=
    @foldl_checkDevice display ctx r.devices ⟨true, true, true, reasons, ∅⟩
  obtain ⟨hgcu', hfp', hdensity', -⟩ :=
    @foldl_checkDevice display ctx r'.devices ⟨true, true, true, reasons, ∅⟩
  dsimp only at hgcu hfp hdensity hgcu' hfp' hdensity'
  rw [hgcu, hfp, hdensity, hgcu', hfp', hdensity', hperm.all_eq, hperm.all_eq, hperm.all_eq]
  exact ⟨rfl, rfl⟩

/-- **When no device is masked**: the devices of one class are all dense or none is. -/
theorem unmasked_iff (r : CapabilityRecord) : Unmasked mlDsa display ctx r ↔
    ∀ d ∈ r.devices, ∀ d' ∈ r.devices, d.classId = d'.classId → (Dense ctx d ↔ Dense ctx d') := by
  constructor
  · intro h
    have hdense : ∀ d ∈ r.devices, ∀ d' ∈ r.devices, d.classId = d'.classId → Dense ctx d →
      Dense ctx d' := by
      intro d hd d' hd' hclass hdense
      -- the record with `d'` listed last
      obtain ⟨before, after, hsplit⟩ := List.append_of_mem hd'
      have hperm : (before ++ after ++ [d']).Perm r.devices := by
        rw [hsplit]
        have hfront : (d' :: (before ++ after)).Perm (before ++ d' :: after) :=
          List.perm_middle.symm
        exact List.perm_append_comm.trans hfront
      have hlast :=
        (h.order { r with devices := before ++ after ++ [d'] } hperm rfl rfl).1 d'.classId
      have hself : [d'].filter (·.classId = d'.classId) = [d'] :=
        List.filter_cons_of_pos (decide_eq_true rfl)
      rw [(h.signal d'.classId).mpr ⟨d, hd, hclass, hdense⟩, lookup_densitySignals,
        List.filter_append, hself, List.getLast?_concat] at hlast
      exact (deviceSignal_eq_iff ctx d').mp (Option.some.inj hlast)
    exact fun d hd d' hd' hclass => ⟨hdense d hd d' hd' hclass, hdense d' hd' d hd hclass.symm⟩
  · intro h
    refine ⟨fun c => ⟨fun hlookup => ?_, ?_⟩,
      fun r' hperm hnonce hprev => ⟨fun c => ?_, checks_of_perm hperm hnonce hprev⟩⟩
    · rw [lookup_densitySignals] at hlookup
      obtain ⟨d, hlast, hsignal⟩ := Option.map_eq_some_iff.mp hlookup
      obtain ⟨hmem, hclass⟩ := List.mem_filter.mp (List.mem_of_getLast? hlast)
      exact ⟨d, hmem, of_decide_eq_true hclass, (deviceSignal_eq_iff ctx d).mp hsignal⟩
    · rintro ⟨d, hd, rfl, hdense⟩
      rw [lookup_of_uniform hd fun d' hd' hclass => h d' hd' d hd hclass,
        (deviceSignal_eq_iff ctx d).mpr hdense]
    · by_cases hc : ∃ d ∈ r.devices, d.classId = c
      · obtain ⟨d, hd, rfl⟩ := hc
        rw [lookup_of_uniform hd fun d' hd' hclass => h d' hd' d hd hclass,
          lookup_of_uniform (hperm.mem_iff.mpr hd) fun d' hd' hclass =>
          h d' (hperm.mem_iff.mp hd') d hd hclass]
      · have hnone : ∀ devices : List DeviceCapability, (∀ d ∈ devices, d ∈ r.devices) →
            devices.filter (·.classId = c) = [] := by
          intro devices hsub
          rw [List.filter_eq_nil_iff]
          intro d hd hclass
          exact hc ⟨d, hsub d hd, of_decide_eq_true hclass⟩
        rw [lookup_densitySignals, lookup_densitySignals,
          hnone r'.devices fun d hd => hperm.mem_iff.mp hd, hnone r.devices fun d hd => hd]

end

/-- A device of one class on an endpoint of this density. -/
def sampleDevice (nc : NetworkClass) (density : Nat) : DeviceCapability :=
  ⟨"gpu", [], [], ("gpu", 1), ⟨0, 0, 0, 0⟩, ⟨0, 0⟩, ⟨[], density⟩, ⟨0, nc, false⟩⟩

def sampleRecord (devices : List DeviceCapability) : CapabilityRecord :=
  ⟨1, [], [], 1, [], devices, zero32, .mlDsa65, []⟩

def sampleContext : ValidationContext := ⟨[], [], none, ∅, ∅, ∅, 1⟩

/-- A crowded home endpoint, and after it a device of the same class in a data centre. -/
def maskedRecord : CapabilityRecord :=
  sampleRecord [sampleDevice .residential 40, sampleDevice .datacenter 1]

/-- The class of the crowded endpoint is not merged. -/
theorem crowded_endpoint_masked : Dense sampleContext (sampleDevice .residential 40)
    ∧ ∀ mlDsa display,
      (validateRecord mlDsa display sampleContext maskedRecord).densitySignals.lookup "gpu"
      = some .ok
        ∧ (∀ clusters,
          cohortMergeGroups (validateRecord mlDsa display sampleContext maskedRecord).densitySignals
          clusters = [])
        ∧ ¬ Unmasked mlDsa display sampleContext maskedRecord := by
  have hdense : Dense sampleContext (sampleDevice .residential 40) := ⟨rfl, by decide⟩
  refine ⟨hdense, fun mlDsa display => ?_⟩
  have hsignal :
    (validateRecord mlDsa display sampleContext maskedRecord).densitySignals.lookup "gpu"
    = some .ok := by
    rw [lookup_densitySignals]
    decide
  refine ⟨hsignal, fun clusters => rfl, fun h => ?_⟩
  have hmerge := (h.signal "gpu").mpr ⟨_, List.mem_cons_self, rfl, hdense⟩
  rw [hsignal] at hmerge
  cases hmerge

end GoatCoin.Protocol
