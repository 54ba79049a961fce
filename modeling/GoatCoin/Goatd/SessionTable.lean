/-
# `GoatCoin.Goatd.SessionTable` — how many sessions there are, and which of them go

Anyone who completes a handshake gets a session, so the table has a bound.  What the actor does to
it is one of

    updates a session in place        the keys stay
    inserts a new address             the table was not full, or its oldest session is evicted
    sweeps                            what has been idle for too long goes

In place, only an accepted gossip frame moves `last_seen`; what the pipeline puts back is a channel
(`SameSeen`), so the session that an insertion evicts is the oldest of the table as it was before
the packet.
-/
import GoatCoin.Goatd.InitiatorBinding

namespace GoatCoin

/-! ## The table -/

section
variable {α : Type}

/-- The same addresses, each last seen when it was. -/
def SameSeen (t t' : Sessions α) : Prop :=
  t'.keys = t.keys ∧ ∀ a, (t'.lookup a).map Session.lastSeen = (t.lookup a).map Session.lastSeen

/-- The table is full, and none of its sessions is older. -/
def Displaceable (t : Sessions α) (s : Session α) : Prop :=
  maxSessions ≤ Assoc.size t ∧ ∀ a u, t.lookup a = some u → s.lastSeen ≤ u.lastSeen

/-- **What a packet may do**: the bound is kept, and only the oldest session of a full table
goes. -/
structure TableStep (t t' : Sessions α) : Prop where
  size_le : Assoc.size t ≤ maxSessions → Assoc.size t' ≤ maxSessions
  displaced : ∀ a s, t.lookup a = some s → t'.lookup a = none → Displaceable t s

theorem TableStep.of_keys {t t' : Sessions α} (h : t'.keys = t.keys) : TableStep t t' := by
  refine ⟨fun hle => ?_, fun a s hs hnone => ?_⟩
  · rw [Assoc.size, h]
    exact hle
  · have hmem : a ∈ t := AList.lookup_isSome.mp (hs ▸ rfl)
    rw [AList.mem_keys, ← h, ← AList.mem_keys] at hmem
    exact absurd hmem (AList.lookup_eq_none.mp hnone)

theorem TableStep.of_sameSeen {t t₁ t' : Sessions α} (h : SameSeen t t₁)
    (hstep : TableStep t₁ t') : TableStep t t' := by
  obtain ⟨hkeys, hseen⟩ := h
  have hsize : Assoc.size t₁ = Assoc.size t := congrArg List.length hkeys
  refine ⟨fun hle => hstep.size_le (hsize.trans_le hle), fun a s hs hnone => ?_⟩
  obtain ⟨s₁, hs₁, hseen₁⟩ := Option.map_eq_some_iff.mp ((hseen a).trans (congrArg _ hs))
  obtain ⟨hfull, holdest⟩ := hstep.displaced a s₁ hs₁ hnone
  refine ⟨hsize ▸ hfull, fun b u hu => ?_⟩
  obtain ⟨u₁, hu₁, hseenu⟩ := Option.map_eq_some_iff.mp ((hseen b).trans (congrArg _ hu))
  rw [← hseen₁, ← hseenu]
  exact holdest b u₁ hu₁

/-! ## Eviction -/

/-- The fold of `lru` keeps the older of two, and the first of equals. -/
theorem oldest_of_fold (l : List (Sigma fun _ : SocketAddr => Session α)) : ∀ b, ∃ r,
    l.foldl (fun best e => match best with
      | none => some e
      | some b => if e.2.lastSeen < b.2.lastSeen then some e else some b) (some b) = some r
    ∧ r ∈ b :: l ∧ ∀ e ∈ b :: l, r.2.lastSeen ≤ e.2.lastSeen := by
  induction l with
  | nil =>
      intro b
      exact ⟨b, rfl, List.mem_cons_self, fun e he => (List.mem_singleton.mp he).symm ▸ le_rfl⟩
  | cons x l ih =>
      intro b
      rw [List.foldl_cons]
      dsimp only
      split
      · rename_i hlt
        obtain ⟨r, hr, hmem, hle⟩ := ih x
        refine ⟨r, hr, List.mem_cons_of_mem b hmem, fun e he => ?_⟩
        rcases List.mem_cons.mp he with rfl | he
        · exact (hle x List.mem_cons_self).trans hlt.le
        · exact hle e he
      · rename_i hge
        obtain ⟨r, hr, hmem, hle⟩ := ih b
        refine ⟨r, hr, ?_, fun e he => ?_⟩
        · rcases List.mem_cons.mp hmem with rfl | hmem
          · exact List.mem_cons_self
          · exact List.mem_cons_of_mem b (List.mem_cons_of_mem x hmem)
        · rcases List.mem_cons.mp he with rfl | he
          · exact hle e List.mem_cons_self
          · rcases List.mem_cons.mp he with rfl | he
            · exact (hle b List.mem_cons_self).trans (not_lt.mp hge)
            · exact hle e (List.mem_cons_of_mem b he)

theorem lru_spec (t : Sessions α) (hsize : 0 < Assoc.size t) : ∃ k s, ConsensusActor.lru t = some k
    ∧ t.lookup k = some s ∧ ∀ a u, t.lookup a = some u → s.lastSeen ≤ u.lastSeen := by
  obtain ⟨entries, hnodup⟩ := t
  cases entries with
  | nil => exact absurd hsize (Nat.lt_irrefl 0)
  | cons b l =>
      obtain ⟨r, hr, hmem, hle⟩ := oldest_of_fold l b
      refine ⟨r.1, r.2, ?_, (List.mem_dlookup_iff hnodup).mpr hmem, fun a u hu => ?_⟩
      · exact congrArg (Option.map Sigma.fst) hr
      · exact hle ⟨a, u⟩ ((List.mem_dlookup_iff hnodup).mp hu)

theorem lookup_insert_ne_none (t : Sessions α) {addr a : SocketAddr} {s u : Session α}
    (hu : t.lookup a = some u) : (t.insert addr s).lookup a ≠ none := by
  rcases eq_or_ne a addr with rfl | hne
  · rw [AList.lookup_insert]
    exact nofun
  · rw [AList.lookup_insert_ne hne, hu]
    exact nofun

end

namespace ConsensusActor
variable {γ α δ : Type}

theorem tableStep_insert (actor : ConsensusActor γ α δ) (addr : SocketAddr) (s : Session α) :
    TableStep actor.sessions (actor.insertSessionBounded addr s).sessions := by
  unfold insertSessionBounded
  by_cases hfull : addr ∉ actor.sessions ∧ maxSessions ≤ Assoc.size actor.sessions
  · obtain ⟨k, u, hlru, hu, holdest⟩ :=
      lru_spec actor.sessions (Nat.lt_of_lt_of_le (by decide) hfull.2)
    rw [if_pos hfull, hlru]
    dsimp only
    have hk : k ∈ actor.sessions.keys := AList.mem_keys.mp (AList.lookup_isSome.mp (hu ▸ rfl))
    have herased : Assoc.size (actor.sessions.erase k) = Assoc.size actor.sessions - 1 := by
      rw [Assoc.size, AList.keys_erase, List.length_erase_of_mem hk, Assoc.size]
    have hpos := List.length_pos_of_mem hk
    refine ⟨fun hle => ?_, fun a v hv hnone => ?_⟩
    · rw [Assoc.size_insert, herased]
      unfold Assoc.size at hle ⊢
      split <;> omega
    · -- only the evicted session is gone
      rcases eq_or_ne a k with rfl | hne
      · rw [hu] at hv
        cases hv
        exact ⟨hfull.2, holdest⟩
      · exact absurd hnone (lookup_insert_ne_none _ ((AList.lookup_erase_ne hne).trans hv))
  · rw [if_neg hfull]
    refine ⟨fun hle => ?_, fun a v hv hnone => absurd hnone (lookup_insert_ne_none _ hv)⟩
    rw [Assoc.size_insert]
    split
    · exact hle
    · rename_i hmem
      exact Nat.lt_of_not_le fun hge => hfull ⟨hmem, hge⟩

theorem sameSeen_resume (actor : ConsensusActor γ α δ) (addr : SocketAddr)
    (s : Ingress messageCacheLen cookieCacheLen (Aes256GcmChannel α) maxDatagram) :
    SameSeen actor.sessions (actor.resume addr s).sessions := by
  unfold resume
  dsimp only
  split
  · rename_i session hsession
    refine ⟨Assoc.keys_adjust _ _, fun a => ?_⟩
    rw [Assoc.overwrite, Assoc.lookup_adjust, Option.map_map]
    cases hlookup : actor.sessions.lookup a with
    | none => rfl
    | some u =>
        rw [Option.map_some, Option.map_some, Function.comp_apply]
        split
        · rename_i ha
          rw [ha, hsession] at hlookup
          cases hlookup
          rfl
        · rfl
  · exact ⟨rfl, fun _ => rfl⟩

/-! ## Packets -/

section
variable [AesGcm α]
variable {logical : List UInt8} {addr : SocketAddr} {r : Readings} {egress : Egress}

theorem keys_relay {actor actor' : ConsensusActor γ α δ}
    (h : actor.relay logical addr r = some (egress, actor')) :
    actor'.sessions.keys = actor.sessions.keys := by
  obtain ⟨plaintext, -, h⟩ := Option.bind_eq_some_iff.mp h
  obtain ⟨⟨reply, replied⟩, hreply, h⟩ := Option.bind_eq_some_iff.mp h
  cases h
  refine (Assoc.keys_adjust _ _).trans ?_
  unfold directReply at hreply
  split at hreply
  · cases hreply
    rfl
  · split at hreply
    · cases hreply
      exact Assoc.keys_adjust _ _
    · obtain ⟨gossip, -, hsome⟩ := Option.bind_eq_some_iff.mp hreply
      cases hsome
      exact Assoc.keys_adjust _ _

variable [MlKem δ]

theorem tableStep_establish {actor actor' : ConsensusActor γ α δ}
    (h : actor.establish logical addr r = some (egress, actor')) :
    TableStep actor.sessions actor'.sessions := by
  unfold establish at h
  split at h
  · cases h
    exact .of_keys rfl
  · split at h
    · cases h
      exact .of_keys rfl
    · obtain ⟨preimage, -, h⟩ := Option.bind_eq_some_iff.mp h
      obtain ⟨respPkt, -, h⟩ := Option.bind_eq_some_iff.mp h
      obtain ⟨gossip, -, h⟩ := Option.bind_eq_some_iff.mp h
      cases h
      exact actor.tableStep_insert addr _

theorem tableStep_answer (actor : ConsensusActor γ α δ) (logical : List UInt8) (addr : SocketAddr)
    (r : Readings) : TableStep actor.sessions (actor.answer logical addr r).2.sessions := by
  unfold answer
  split
  · exact .of_keys rfl
  · split
    · exact .of_keys rfl
    · exact { actor with pendingKem := none }.tableStep_insert addr _

variable [GossipCodec γ]

theorem tableStep_dispatch {actor actor' : ConsensusActor γ α δ}
    (h : actor.dispatch logical addr r = some (egress, actor')) :
    TableStep actor.sessions actor'.sessions := by
  unfold dispatch at h
  cases hcall : actor.node.call (actor.ingressCall logical addr r) with
  | error e s =>
      rw [hcall] at h
      cases h
      exact .of_keys (actor.sameSeen_resume addr s).1
  | ok outcome s =>
      rw [hcall] at h
      have hseen := actor.sameSeen_resume addr s
      cases outcome with
      | challengeIssued challenge =>
          cases h
          exact .of_keys hseen.1
      | handshakeEstablished => exact .of_sameSeen hseen (tableStep_establish h)
      | responseVerified =>
          have hanswer := tableStep_answer (actor.resume addr s) logical addr r
          rw [Option.some.inj h] at hanswer
          exact .of_sameSeen hseen hanswer
      | gossipAccepted => exact .of_keys ((keys_relay h).trans hseen.1)

/-- **A packet keeps the bound**, and evicts at most the oldest. -/
theorem tableStep_process {actor actor' : ConsensusActor γ α δ} {raw : List UInt8}
    (h : actor.process raw addr r = some (egress, actor')) :
    TableStep actor.sessions actor'.sessions := by
  rcases process_cases h with ⟨-, hsame⟩ | ⟨logical, actor₁, -, hsame, hcase⟩
  · exact .of_keys (congrArg AList.keys hsame.sessions_eq)
  · rw [← hsame.sessions_eq]
    rcases hcase with ⟨-, hsame'⟩ | hdispatch
    · exact .of_keys (congrArg AList.keys hsame'.sessions_eq)
    · exact tableStep_dispatch hdispatch

/-! ## Runs -/

theorem size_step {actor actor' : ConsensusActor γ α δ} {event : Event}
    (h : actor.step event = some actor')
    (hle : Assoc.size actor.sessions ≤ maxSessions) : Assoc.size actor'.sessions ≤ maxSessions := by
  cases event with
  | tick now =>
      cases h
      exact (Assoc.size_sweep_le _ _).trans hle
  | packet raw addr r =>
      obtain ⟨⟨egress, after⟩, hprocess, rfl⟩ := Option.map_eq_some_iff.mp h
      exact (tableStep_process hprocess).size_le hle

/-- **The sessions of a daemon**, from a table that is empty: there are never more than
`MAX_SESSIONS`, and one goes only by a tick that finds it idle for the whole timeout, or by a packet
when the table is full and none is older. -/
theorem sessions_kept {start actor : ConsensusActor γ α δ} {events : List Event}
    (hstart : start.sessions = ∅) (hrun : start.run events = some actor) :
    Assoc.size actor.sessions ≤ maxSessions
      ∧ ∀ event actor', actor.step event = some actor' →
        ∀ a s, actor.sessions.lookup a = some s → actor'.sessions.lookup a = none →
          (∃ now, event = .tick now ∧ sessionIdleTimeout ≤ now - s.lastSeen)
            ∨ (∃ raw addr r, event = .packet raw addr r) ∧ Assoc.size actor.sessions = maxSessions
              ∧ ∀ b u, actor.sessions.lookup b = some u → s.lastSeen ≤ u.lastSeen := by
  have hle : Assoc.size actor.sessions ≤ maxSessions := by
    have hempty : Assoc.size start.sessions ≤ maxSessions := by
      rw [hstart]
      exact Nat.zero_le _
    clear hstart
    induction events generalizing start with
    | nil =>
        cases hrun
        exact hempty
    | cons event events ih =>
        obtain ⟨next, hstep, hrun⟩ := Option.bind_eq_some_iff.mp hrun
        exact ih hrun (size_step hstep hempty)
  refine ⟨hle, fun event actor' hstep a s hs hnone => ?_⟩
  cases event with
  | tick now =>
      cases hstep
      have hswept : (actor.sessions.lookup a).bind
          (fun s => if now - s.lastSeen < sessionIdleTimeout then some s else none) = none := by
        rw [← Assoc.lookup_sweep]
        exact hnone
      rw [hs, Option.bind_some] at hswept
      split at hswept
      · cases hswept
      · rename_i hidle
        exact .inl ⟨now, rfl, not_lt.mp hidle⟩
  | packet raw addr r =>
      obtain ⟨⟨egress, after⟩, hprocess, rfl⟩ := Option.map_eq_some_iff.mp hstep
      obtain ⟨hfull, holdest⟩ := (tableStep_process hprocess).displaced a s hs hnone
      exact .inr ⟨⟨raw, addr, r, rfl⟩, hle.antisymm hfull, holdest⟩

end

end ConsensusActor

/-- A response opens a session, and the table is within its bound. -/
theorem sessions_kept_sample : ∃ actor s, waitingActor.run
      [.packet (PacketTag.response :: signedResponseBytes strayResponse sampleSignature)
        strayPeer sampleReadings] = some actor
    ∧ actor.sessions.lookup strayPeer = some s ∧ Assoc.size actor.sessions ≤ maxSessions := by
  obtain ⟨actor, hprocess, -, ⟨s, hs, -⟩, -⟩ :=
    ConsensusActor.process_response strayResponse_verifies rfl strayPeer sampleReadings
  have hrun : waitingActor.run
      [.packet (PacketTag.response :: signedResponseBytes strayResponse sampleSignature)
        strayPeer sampleReadings] = some actor := by
    rw [ConsensusActor.run, List.foldlM_cons, ConsensusActor.step, hprocess]
    rfl
  exact ⟨actor, s, hrun, hs, (ConsensusActor.sessions_kept rfl hrun).1⟩

end GoatCoin
