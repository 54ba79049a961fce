/-
# `GoatCoin.Core.GossipWindow` — the dedup window over whole runs

A run is a list of calls of the validator, each with the message, and with the
verifier and the registry as they stand at that moment.  Its accepted messages,
in order, are exactly what the cache is fed:

    (runCalls c ks).queue  =  foldl enqueue c.queue (entries accepted by ks)

and each of them was absent when it was fed.  So the window of the quota queue
is a window of the validator: a message that entered at the cursor is accepted
again only after `per_identity_cap` distinct others (`accepted_again`).

The window does not extend to a message that entered by recycling.  Ring order
is not age order after a recycle: the slot just overwritten is still the first
of its origin, so the next message of that origin overwrites it again, and the
message it held is accepted anew (`window_fails`).
-/
import GoatCoin.Core.Gossip
import GoatCoin.Core.Sha3Eval

namespace GoatCoin

open QuotaQueue

/-- One call of `validate_gossip_message`. -/
structure GossipCall where
  message : GossipMessage
  verifier : SignatureVerifier
  registry : KeyRegistry

section
variable {N : Nat}

/-- Whether a call returns `Ok`. -/
def accepts (c : MessageCache N) (k : GossipCall) : Bool :=
  match validateGossipMessage k.message k.verifier k.registry c with
  | .ok _ _ => true
  | .error _ _ => false

/-- The cache a call leaves. -/
def afterCall (c : MessageCache N) (k : GossipCall) : MessageCache N :=
  match validateGossipMessage k.message k.verifier k.registry c with
  | .ok _ c' => c'
  | .error _ c' => c'

def runCalls (c : MessageCache N) (ks : List GossipCall) : MessageCache N := ks.foldl afterCall c

@[simp] theorem runCalls_nil (c : MessageCache N) : runCalls c [] = c := rfl

@[simp] theorem runCalls_cons (c : MessageCache N) (k : GossipCall) (ks : List GossipCall) :
    runCalls c (k :: ks) = runCalls (afterCall c k) ks := rfl

/-- The messages accepted in a run, in order. -/
def accepted (c : MessageCache N) : List GossipCall → List GossipMessage
  | [] => []
  | k :: ks =>
      if accepts c k then k.message :: accepted (afterCall c k) ks else accepted (afterCall c k) ks

/-- **What a call can do.**  A rejection leaves the cache; an acceptance records a
digest that was absent. -/
theorem call_cases (c : MessageCache N) (k : GossipCall) :
    (accepts c k = false ∧ afterCall c k = c) ∨
    (accepts c k = true ∧ afterCall c k = c.insert k.message.digest k.message.origin
      ∧ k.message.digest ∉ keys c.queue) := by
  unfold accepts afterCall
  rcases GossipMessage.validateGossipMessage_cases k.message k.verifier k.registry c with
    ⟨e, h⟩ | ⟨h, hnew⟩
  · rw [h]
    exact .inl ⟨rfl, rfl⟩
  · rw [h]
    exact .inr ⟨rfl, rfl, hnew⟩

theorem accepts_iff (c : MessageCache N) (k : GossipCall) :
    accepts c k = true ↔ k.message.digest ∉ keys c.queue
      ∧ k.registry k.message.publicKey k.message.origin = true
      ∧ k.verifier k.message.publicKey k.message.signedBytes k.message.signature = true := by
  unfold accepts
  rw [GossipMessage.validateGossipMessage_eq, ← c.contains_iff]
  by_cases hc : c.contains k.message.digest = true
  · simp [hc]
  · by_cases hr : k.registry k.message.publicKey k.message.origin = true
    · by_cases hv : k.verifier k.message.publicKey k.message.signedBytes k.message.signature = true
      · simp [hc, hr, hv]
      · simp [hc, hr, hv]
    · simp [hc, hr]

/-- What an accepted message puts into the queue. -/
def GossipMessage.entry (m : GossipMessage) : Bytes 32 × Bytes 32 := (m.digest, m.origin)

/-- **A run feeds the queue its accepted messages**, each of them fresh. -/
theorem run_feeds (hN : 0 < N) (ks : List GossipCall) : ∀ c : MessageCache N,
    (runCalls c ks).queue = ((accepted c ks).map GossipMessage.entry).foldl
        (enqueue N c.perIdentityCap) c.queue
      ∧ Fresh N c.perIdentityCap c.queue ((accepted c ks).map GossipMessage.entry) := by
  induction ks with
  | nil => intro c; exact ⟨rfl, trivial⟩
  | cons k ks ih =>
      intro c
      rcases call_cases c k with ⟨hacc, hc⟩ | ⟨hacc, hc, hnew⟩
      · rw [runCalls_cons, accepted, hacc, hc]
        exact ih c
      · obtain ⟨hqueue, hfresh⟩ := ih (afterCall c k)
        rw [runCalls_cons, accepted, if_pos hacc, List.map_cons, List.foldl_cons]
        rw [hc, c.queue_insert hN] at hqueue hfresh
        rw [hc]
        exact ⟨hqueue, hnew, hfresh⟩

/-- The states a node's cache can be in. -/
def Reachable (c : MessageCache N) : Prop := ∃ ks, runCalls MessageCache.new ks = c

theorem Reachable.nodup {c : MessageCache N} (h : Reachable c) : (keys c.queue).Nodup := by
  obtain ⟨ks, rfl⟩ := h
  induction ks using List.reverseRecOn with
  | nil => exact List.nodup_nil
  | append_singleton ks k ih =>
      rw [runCalls, List.foldl_append]
      show (keys (afterCall (runCalls MessageCache.new ks) k).queue).Nodup
      rcases call_cases (runCalls MessageCache.new ks) k with ⟨-, hc⟩ | ⟨-, hc, hnew⟩
      · rw [hc]
        exact ih
      · rw [hc]
        by_cases hN : 0 < N
        · exact MessageCache.nodup_of_insert hN ih hnew
        · rw [MessageCache.insert, dif_neg hN]
          exact ih

/-- Distinct digests other than that of `m` come from distinct messages other than `m`. -/
theorem card_digests_le (ms : List GossipMessage) (m : GossipMessage) :
    ((keys (ms.map GossipMessage.entry)).toFinset.erase m.digest).card
      ≤ (ms.toFinset.erase m).card := by
  have hsub : (keys (ms.map GossipMessage.entry)).toFinset.erase m.digest
      ⊆ (ms.toFinset.erase m).image GossipMessage.digest := by
    intro d hd
    rw [Finset.mem_erase, List.mem_toFinset, keys, List.map_map, List.mem_map] at hd
    obtain ⟨hne, x, hx, rfl⟩ := hd
    refine Finset.mem_image.mpr ⟨x, ?_, rfl⟩
    rw [Finset.mem_erase, List.mem_toFinset]
    exact ⟨fun h => hne (h ▸ rfl), hx⟩
  exact (Finset.card_le_card hsub).trans Finset.card_image_le

/-- **The dedup window.**  In a cache with capacity, a message accepted while its
origin is below the per-identity cap (or while that cap is one) is accepted again
only after `per_identity_cap` distinct other messages have been accepted. -/
theorem accepted_again (hN : 0 < N) {c : MessageCache N} (hc : Reachable c)
    {first again : GossipCall} {mid : List GossipCall} (hfirst : accepts c first = true)
    (hbelow : c.countFor first.message.origin < c.perIdentityCap ∨ c.perIdentityCap = 1)
    (hsame : again.message = first.message)
    (hagain : accepts (runCalls (afterCall c first) mid) again = true) :
    c.perIdentityCap
      ≤ ((accepted (afterCall c first) mid).toFinset.erase first.message).card := by
  refine le_trans ?_ (card_digests_le _ _)
  have hnew := ((accepts_iff _ _).mp hfirst).1
  have hgone := ((accepts_iff _ _).mp hagain).1
  have hafter : afterCall c first = c.insert first.message.digest first.message.origin := by
    rcases call_cases c first with ⟨hrej, -⟩ | ⟨-, h, -⟩
    · rw [hrej] at hfirst
      cases hfirst
    · exact h
  obtain ⟨hqueue, hfresh⟩ := run_feeds hN mid (afterCall c first)
  rw [hsame, hqueue] at hgone
  have hq : (afterCall c first).queue = enqueue N c.perIdentityCap c.queue first.message.entry := by
    rw [hafter, c.queue_insert hN]
    rfl
  have hcapN : c.perIdentityCap ≤ N := by
    show max (N / 8) 1 ≤ N
    omega
  have hcap : 0 < c.perIdentityCap := Nat.lt_of_lt_of_le Nat.zero_lt_one (Nat.le_max_right _ _)
  rw [hq] at hfresh hgone
  rcases hbelow with hbelow | hone
  · rw [c.countFor_eq_held] at hbelow
    exact window hN hcapN c.length_queue_le hc.nodup hnew hbelow hfresh hgone
  · rw [hone]
    exact window_one (mem_keys_enqueue hN hcap) hfresh hgone

theorem queue_afterCall (hN : 0 < N) {c : MessageCache N} {k : GossipCall}
    (h : accepts c k = true) :
    (afterCall c k).queue = enqueue N c.perIdentityCap c.queue k.message.entry := by
  rcases call_cases c k with ⟨hrej, -⟩ | ⟨-, hc, -⟩
  · rw [hrej] at h
    cases h
  · rw [hc, c.queue_insert hN]
    rfl

end

/-! ## Where the window ends -/

/-- The window without its condition: every message, accepted at or below the
cap, has it, provided the distinct messages of the run have distinct digests. -/
def DedupWindow (N : Nat) : Prop :=
  ∀ (before mid : List GossipCall) (first again : GossipCall) (c : MessageCache N),
    Set.InjOn GossipMessage.digest
      {m | m ∈ (before ++ first :: (mid ++ [again])).map GossipCall.message} →
    runCalls MessageCache.new before = c →
    accepts c first = true →
    again.message = first.message →
    accepts (runCalls (afterCall c first) mid) again = true →
    c.perIdentityCap
      ≤ ((accepted (afterCall c first) mid).filter (· ≠ first.message)).length

def sampleFrame : NetworkDensityFrame where
  header :=
    { schemaVersion := 2, frameType := 1, endpointPseudonym := .replicate 32 9, identityIndex := 0
      epoch := 5, runNonce := .replicate 32 0, chainId := chainIdGoatMainnet }
  tickIndex := 1
  dlBin := 10
  ulBin := 8
  concurrentFlag := 1
  aggDlBin := 12
  aggUlBin := 9
  rttQ := .replicate 8 20
  originChangeCount := 0
  sharedOriginDegreeBin := 0
  xferBytesBin := 30
  morphologyId := 0
  peakMicroBin := 14
  crestEighthOct := 4
  dutyPpm := 800000
  throttleOnsetS := 255
  preBin := 0
  postBin := 0

/-- One frame under signatures that differ in the last byte. -/
def sampleMessage (b : UInt8) : GossipMessage :=
  .telemetryFrame
    { payload := sampleFrame
      publicKey := .replicate _ 0
      signature :=
    ⟨List.replicate 3308 0 ++ [b], by rw [List.length_append, List.length_replicate]; rfl⟩ }

def sampleCall (b : UInt8) : GossipCall := ⟨sampleMessage b, fun _ _ _ => true, fun _ _ => true⟩

def samplePrefix : List UInt8 :=
  preimageBytes sampleFrame ctxGoatF5Telemetry ++ List.replicate 5168 0

theorem sampleMessage_digest (b : UInt8) :
    (sampleMessage b).digest = sha3_256 (samplePrefix ++ (List.replicate 92 0 ++ [b])) := by
  have hzeros : (List.replicate 1952 (0 : UInt8) ++ List.replicate 3308 0)
      = List.replicate 5168 0 ++ List.replicate 92 0 := by
    rw [List.replicate_append_replicate, List.replicate_append_replicate]
  show sha3_256 (preimageBytes sampleFrame ctxGoatF5Telemetry
    ++ (List.replicate 1952 0 ++ (List.replicate 3308 0 ++ [b]))) = _
  rw [← List.append_assoc (List.replicate 1952 0), hzeros, samplePrefix]
  simp only [List.append_assoc]

theorem sampleDigests_nodup :
    ([1, 2, 3].map fun b => (sampleMessage b).digest).Nodup := by
  have hpre : samplePrefix.length = 39 * sha3Rate := by decide +kernel
  have hmap : ([1, 2, 3].map fun b => (sampleMessage b).digest.toList)
      = Sha3Eval.digestsN 39 samplePrefix ([1, 2, 3].map fun b => List.replicate 92 0 ++ [b]) := by
    rw [← Sha3Eval.digestsN_eq hpre (by decide), List.map_map]
    exact List.map_congr_left fun b _ => by rw [sampleMessage_digest, Function.comp_apply]
  have hnd : (Sha3Eval.digestsN 39 samplePrefix
      ([1, 2, 3].map fun b => List.replicate 92 0 ++ [b])).Nodup := by decide +kernel
  rw [← hmap] at hnd
  exact List.Nodup.of_map List.Vector.toList (by simpa [List.map_map] using hnd)

theorem sampleDigest_ne {a b : UInt8} (ha : a ∈ [1, 2, 3]) (hb : b ∈ [1, 2, 3]) (h : a ≠ b) :
    (sampleMessage a).digest ≠ (sampleMessage b).digest :=
  fun heq => h (List.inj_on_of_nodup_map sampleDigests_nodup ha hb heq)

theorem accepts_sample {N : Nat} {c : MessageCache N} {b : UInt8} :
    accepts c (sampleCall b) = true ↔ (sampleMessage b).digest ∉ keys c.queue := by
  rw [accepts_iff]
  exact ⟨fun h => h.1, fun h => ⟨h, rfl, rfl⟩⟩

theorem sampleMessage_entry (b : UInt8) :
    (sampleMessage b).entry
    = ((sampleMessage b).digest, sampleFrame.header.endpointPseudonym) := rfl

theorem sampleCall_step {N : Nat} (ds : List UInt8) (b : UInt8) (hN : 0 < N) {c : MessageCache N}
    (hq : c.queue = ds.map fun d => (sampleMessage d).entry) (hb : b ∉ ds)
    (hs : b :: ds ⊆ [1, 2, 3]) :
    accepts c (sampleCall b) = true ∧ (afterCall c (sampleCall b)).queue
      = (if c.perIdentityCap ≤ ds.length then ds.set 0 b else Ring.push N ds b).map
          fun d => (sampleMessage d).entry := by
  have hnew : (sampleMessage b).digest ∉ keys c.queue := by
    rw [hq, keys, List.map_map, List.mem_map]
    rintro ⟨d, hd, heq⟩
    have hne : d ≠ b := fun h => hb (h ▸ hd)
    exact sampleDigest_ne (hs (List.mem_cons_of_mem _ hd)) (hs List.mem_cons_self) hne heq
  have hacc := accepts_sample.mpr hnew
  have hheld : held (ds.map fun d => (sampleMessage d).entry) (sampleMessage b).entry.2
      = ds.length := by
    rw [held, List.countP_map]
    refine List.countP_eq_length.mpr fun d _ => ?_
    rw [Function.comp_apply, sampleMessage_entry, sampleMessage_entry, decide_eq_true rfl]
  refine ⟨hacc, ?_⟩
  rw [queue_afterCall hN hacc, hq]
  show enqueue N c.perIdentityCap _ (sampleMessage b).entry = _
  rw [enqueue, hheld]
  split
  · cases ds with
    | nil => rfl
    | cons d ds =>
        rw [List.map_cons, recycle, sampleMessage_entry, sampleMessage_entry, if_pos rfl]
        rfl
  · rw [Ring.push, Ring.push, List.map_drop, List.map_append, List.length_map]
    rfl

theorem recycled_accepted_again : ¬ DedupWindow 16 := by
  intro hwindow
  obtain ⟨-, hq₁⟩ := sampleCall_step [] 1 (c := (MessageCache.new : MessageCache 16))
    (by decide) rfl (by decide) (by decide)
  obtain ⟨-, hq₂⟩ := sampleCall_step [1] 2 (by decide) hq₁ (by decide) (by decide)
  obtain ⟨hfirst, hq₃⟩ :=
    sampleCall_step [1, 2] 3 (by decide) hq₂ (by decide) (by decide)
  obtain ⟨hother, hq₄⟩ :=
    sampleCall_step [3, 2] 1 (by decide) hq₃ (by decide) (by decide)
  obtain ⟨hagain, -⟩ :=
    sampleCall_step [1, 2] 3 (by decide) hq₄ (by decide) (by decide)
  have hcap := hwindow [sampleCall 1, sampleCall 2] [sampleCall 1] (sampleCall 3) (sampleCall 3)
    (afterCall (afterCall MessageCache.new (sampleCall 1)) (sampleCall 2)) ?_
    (by rw [runCalls_cons, runCalls_cons, runCalls_nil]) hfirst rfl
    (by rw [runCalls_cons, runCalls_nil]; exact hagain)
  · have hle := hcap.trans (List.length_filter_le _ _)
    rw [accepted, if_pos hother, List.length_cons, accepted] at hle
    have hle : 2 ≤ 1 := hle
    omega
  · have htags : ∀ x ∈ [sampleCall 1, sampleCall 2, sampleCall 3, sampleCall 1, sampleCall 3].map
        GossipCall.message, ∃ b ∈ [1, 2, 3], x = sampleMessage b := by
      intro x hx
      simp only [List.map_cons, List.map_nil, List.mem_cons, List.not_mem_nil, or_false] at hx
      rcases hx with rfl | rfl | rfl | rfl | rfl
      · exact ⟨1, by decide, rfl⟩
      · exact ⟨2, by decide, rfl⟩
      · exact ⟨3, by decide, rfl⟩
      · exact ⟨1, by decide, rfl⟩
      · exact ⟨3, by decide, rfl⟩
    intro x hx y hy hxy
    obtain ⟨a, ha, rfl⟩ := htags x hx
    obtain ⟨b, hb, rfl⟩ := htags y hy
    rw [List.inj_on_of_nodup_map sampleDigests_nodup ha hb hxy]

theorem inert_accepted_again : ¬ DedupWindow 0 := by
  intro hwindow
  have hempty : ∀ c : MessageCache 0, keys c.queue = [] := by
    intro c
    have := c.length_queue_le
    rw [List.length_eq_zero_iff.mp (Nat.le_zero.mp this)]
    rfl
  have hacc : ∀ c : MessageCache 0, accepts c (sampleCall 1) = true := by
    intro c
    rw [accepts_sample, hempty c]
    exact List.not_mem_nil
  have hcap := hwindow [] [] (sampleCall 1) (sampleCall 1) MessageCache.new
    (by intro a ha b hb _; simp at ha hb; rw [ha, hb]) rfl (hacc _) rfl (hacc _)
  exact absurd hcap (by decide)

/-- The unconditional window fails: without capacity nothing is remembered, and a
recycled message is forgotten after one other. -/
theorem window_fails : ¬ DedupWindow 0 ∧ ¬ DedupWindow 16 :=
  ⟨inert_accepted_again, recycled_accepted_again⟩

/-- The window is met with equality: messages two and three push out message one. -/
theorem accepted_again_sample :
    (MessageCache.new : MessageCache 16).perIdentityCap = 2 ∧
    2 ≤ ((accepted (afterCall (MessageCache.new : MessageCache 16) (sampleCall 1))
      [sampleCall 2, sampleCall 3]).toFinset.erase (sampleMessage 1)).card := by
  obtain ⟨hfirst, hq₁⟩ := sampleCall_step [] 1 (c := (MessageCache.new : MessageCache 16))
    (by decide) rfl (by decide) (by decide)
  obtain ⟨-, hq₂⟩ := sampleCall_step [1] 2 (by decide) hq₁ (by decide) (by decide)
  obtain ⟨-, hq₃⟩ := sampleCall_step [1, 2] 3 (by decide) hq₂ (by decide) (by decide)
  obtain ⟨hagain, -⟩ :=
    sampleCall_step [3, 2] 1 (by decide) hq₃ (by decide) (by decide)
  have hbelow : (MessageCache.new : MessageCache 16).countFor (sampleMessage 1).origin < 2 := by
    rw [MessageCache.countFor_eq_held, MessageCache.queue_new]
    exact Nat.two_pos
  exact ⟨rfl, accepted_again (by decide) ⟨[], rfl⟩ hfirst (.inl hbelow) rfl
    (by rw [runCalls_cons, runCalls_cons, runCalls_nil]; exact hagain)⟩

end GoatCoin
