/-
# `GoatCoin.Tunnel.StreamLifetime` — streams and the session they were opened in

The loss of the carriage takes the phase back to `idle`, and the next handshake starts a session
with a key of its own.  The mux is not told.  Beside a run we count the sessions and note for each
stream the one it was opened in:

    a stream is open     the tunnel is ready, and the stream is of this session
    a session begins     eight streams can be opened, whichever they are

Both hold all along a run exactly when no stream is open at a moment when the state machine is told
that the carriage is lost or that the kill switch was engaged (`streams_of_session_iff`).
-/
import GoatCoin.Tunnel.Lifecycle

namespace GoatCoin.Tunnel

/-- A lifecycle, and what its run has been. -/
structure Watched where
  life : TunnelLifecycle
  /-- How often the phase has become ready. -/
  session : Nat
  /-- The session in which an id was last opened. -/
  since : UInt32 → Nat
  /-- The last operation has made the phase ready. -/
  fresh : Bool

namespace TunnelLifecycle

/-- Streams opened one after another, up to the first refusal. -/
def openAll (life : TunnelLifecycle) (nowMs : Nat) : List UInt32 →
    Except TunnelError TunnelLifecycle
  | [] => .ok life
  | id :: ids =>
      match life.openStream id nowMs with
      | (.ok _, life') => openAll life' nowMs ids
      | (.error e, _) => .error e

/-- Whichever distinct streams are asked for, the first eight are opened, and no more. -/
def Reopens (life : TunnelLifecycle) : Prop :=
  life.mux.streamsFree = maxConcurrentStreams
    ∧ ∀ nowMs ids, life.isLive nowMs = true → ids.Nodup → 0 ∉ ids →
      ((∃ life', life.openAll nowMs ids = .ok life') ↔ ids.length ≤ maxConcurrentStreams)

theorem openStream_ok {life : TunnelLifecycle} {id : UInt32} {nowMs : Nat}
    (hlive : life.isLive nowMs = true)
    (hready : life.state = .ready) {mux : Mux} (hopen : life.mux.openId id = .ok mux) :
    life.openStream id nowMs = (.ok (), { life with mux }) := by
  have hhalted : life.isHalted = false := by
    cases hhalt : life.halt with
    | none => rw [isHalted, hhalt]; rfl
    | some record =>
        rw [isLive, hhalt] at hlive
        cases hlive
  have hmay : life.mayOpenStream nowMs = .ok () := by
    rw [mayOpenStream, hhalted, hlive, hready]
    rfl
  obtain ⟨state, mux', halt, beat⟩ := life
  dsimp only at hready
  subst hready
  rw [openStream, hmay, hopen]
  rfl

theorem openAll_ok_iff {nowMs : Nat} {ids : List UInt32} : ∀ {life : TunnelLifecycle},
    life.isLive nowMs = true → life.state = .ready → ids.Nodup → 0 ∉ ids →
    (∀ id ∈ ids, id ∉ life.mux.ids) → ((∃ life', life.openAll nowMs ids = .ok life')
      ↔ life.mux.ids.card + ids.length ≤ maxConcurrentStreams) := by
  induction ids with
  | nil =>
      intro life _ _ _ _ _
      exact ⟨fun _ => life.mux.bounded, fun _ => ⟨life, rfl⟩⟩
  | cons id ids ih =>
      intro life hlive hready hnodup hzero hnew
      obtain ⟨hid, hids⟩ := List.nodup_cons.mp hnodup
      have hne : id ≠ 0 := fun h => hzero (h ▸ List.mem_cons_self)
      have hnot : id ∉ life.mux.ids := hnew id List.mem_cons_self
      by_cases hroom : life.mux.ids.card < maxConcurrentStreams
      · obtain ⟨mux, hmux⟩ : ∃ mux, life.mux.openId id = .ok mux := by
          rw [Mux.openId, dif_neg hne, if_neg hnot, dif_neg (Nat.not_le.mpr hroom)]
          exact ⟨_, rfl⟩
        have hafter : mux.ids = insert id life.mux.ids := (Mux.openId_ok.mp hmux).2.2.2
        have hlater : ∀ id' ∈ ids, id' ∉ mux.ids := by
          intro id' hid' hmem
          rw [hafter] at hmem
          rcases Finset.mem_insert.mp hmem with rfl | hmem
          · exact hid hid'
          · exact hnew id' (List.mem_cons_of_mem id hid') hmem
        have hcard : mux.ids.card = life.mux.ids.card + 1 := by
          rw [hafter, Finset.card_insert_of_notMem hnot]
        rw [openAll, openStream_ok hlive hready hmux]
        dsimp only
        rw [@ih { life with mux } hlive hready hids
          (fun h => hzero (List.mem_cons_of_mem id h)) hlater, hcard, List.length_cons]
        omega
      · have hrefused : ∀ life', life.openAll nowMs (id :: ids) ≠ .ok life' := by
          intro life' h
          rcases openStream_cases life id nowMs with ⟨mux, -, -, -, hopen, -⟩ | ⟨e, heq⟩
          · exact hroom (Mux.openId_ok.mp hopen).2.2.1
          · rw [openAll, heq] at h
            cases h
        refine ⟨fun ⟨life', h⟩ => absurd h (hrefused life'), fun h => ?_⟩
        rw [List.length_cons] at h
        omega

theorem reopens {life : TunnelLifecycle} (hready : life.state = .ready) (hmux : life.mux.ids = ∅) :
    life.Reopens := by
  refine ⟨by rw [Mux.streamsFree, hmux]; rfl, fun nowMs ids hlive hnodup hzero => ?_⟩
  have hnew : ∀ id ∈ ids, id ∉ life.mux.ids := by
    intro id _
    rw [hmux]
    exact Finset.notMem_empty id
  rw [openAll_ok_iff hlive hready hnodup hzero hnew, hmux, Finset.card_empty, Nat.zero_add]

end TunnelLifecycle

namespace Watched

def new : Watched := ⟨.new, 0, fun _ => 0, false⟩

/-- An operation, and what is noted of it. -/
def next (w : Watched) (call : TunnelLifecycle.Call) : Watched :=
  let life := w.life.next call
  let fresh := decide (w.life.state ≠ .ready ∧ life.state = .ready)
  let session := if fresh then w.session + 1 else w.session
  let since := fun id => if id ∈ life.mux.ids ∧ id ∉ w.life.mux.ids then session else w.since id
  { life, session, since, fresh }

/-- Every open stream is of this session, and a session begins with the whole room. -/
def StreamsOfSession (w : Watched) : Prop :=
  (∀ id ∈ w.life.mux.ids, w.life.state = .ready ∧ w.since id = w.session)
    ∧ (w.fresh = true → w.life.Reopens)

/-- No stream is open when the state machine is told of the end of the session. -/
def EndsWithoutStreams (w : Watched) (call : TunnelLifecycle.Call) : Prop :=
  call = .onEvent .carriageLost ∨ call = .onEvent .killSwitchEngaged → w.life.mux.ids = ∅

theorem endsWithoutStreams_of_ne {w : Watched} {call : TunnelLifecycle.Call}
    (h : ∀ event, call ≠ .onEvent event) : w.EndsWithoutStreams call := by
  rintro (hcall | hcall)
  · exact absurd hcall (h _)
  · exact absurd hcall (h _)

/-- No stream is open beside a halt record. -/
def HaltedWithoutStreams (w : Watched) : Prop := w.life.halt ≠ none → w.life.mux.ids = ∅

theorem next_haltedWithoutStreams {w : Watched} (h : w.HaltedWithoutStreams)
    (call : TunnelLifecycle.Call) : (w.next call).HaltedWithoutStreams := by
  intro hafter
  change (w.life.next call).halt ≠ none at hafter
  change (w.life.next call).mux.ids = ∅
  cases hhalt : w.life.halt with
  | some record =>
      have hmux : w.life.mux.ids = ∅ := h (by rw [hhalt]; exact Option.some_ne_none record)
      obtain ⟨-, -, -, hmux'⟩ := TunnelLifecycle.next_halted hhalt hmux call
      exact hmux'
  | none =>
      -- only an engagement writes a first record, and it drops the streams
      cases call with
      | onEvent event =>
          rcases TunnelLifecycle.onEvent_cases w.life event with ⟨t, -, heq⟩ | ⟨-, heq⟩ <;>
            exact absurd hhalt (by rw [TunnelLifecycle.next, heq] at hafter; exact hafter)
      | heartbeat nowMs => exact absurd hhalt hafter
      | engageKillSwitch origin nowMs =>
          obtain ⟨t, -, heq⟩ := TunnelLifecycle.engage_first hhalt origin nowMs
          rw [TunnelLifecycle.next, heq]
          rfl
      | clearHalt origin => exact absurd hhalt hafter
      | completeHalt nowMs =>
          rw [TunnelLifecycle.next, TunnelLifecycle.completeHalt, hhalt] at hafter
          exact absurd hhalt hafter
      | openStream id nowMs =>
          rcases TunnelLifecycle.openStream_cases w.life id nowMs with ⟨mux, -, -, -, -, heq⟩
            | ⟨e, heq⟩ <;>
            exact absurd hhalt (by rw [TunnelLifecycle.next, heq] at hafter; exact hafter)
      | closeStream id =>
          rcases TunnelLifecycle.closeStream_cases w.life id with ⟨mux, -, heq⟩ | heq <;>
            exact absurd hhalt (by rw [TunnelLifecycle.next, heq] at hafter; exact hafter)

section
variable {w : Watched} {call : TunnelLifecycle.Call}

theorem streams_of_empty (hmux : (w.life.next call).mux.ids = ∅) :
    (w.next call).StreamsOfSession := by
  refine ⟨fun id hid => ?_, fun hfresh => ?_⟩
  · change id ∈ (w.life.next call).mux.ids at hid
    rw [hmux] at hid
    exact absurd hid (Finset.notMem_empty id)
  · have hready : (w.life.next call).state = .ready := (of_decide_eq_true hfresh).2
    exact TunnelLifecycle.reopens hready hmux

/-- An operation that leaves the phase: what is open was open before, or was opened while ready. -/
theorem streams_of_state (h : w.StreamsOfSession) (hstate : (w.life.next call).state = w.life.state)
    (hids : ∀ id ∈ (w.life.next call).mux.ids, id ∉ w.life.mux.ids → w.life.state = .ready) :
    (w.next call).StreamsOfSession := by
  have hfresh : (w.next call).fresh = false := by
    refine decide_eq_false fun hboth => hboth.1 ?_
    rw [← hstate]
    exact hboth.2
  have hsession : (w.next call).session = w.session := by
    change (if (w.next call).fresh = true then w.session + 1 else w.session) = w.session
    rw [hfresh]
    rfl
  refine ⟨fun id hid => ?_, fun htrue => ?_⟩
  · change id ∈ (w.life.next call).mux.ids at hid
    change (w.life.next call).state = .ready
      ∧ (if id ∈ (w.life.next call).mux.ids ∧ id ∉ w.life.mux.ids then (w.next call).session
          else w.since id) = (w.next call).session
    rw [hstate, hsession]
    by_cases hold : id ∈ w.life.mux.ids
    · rw [if_neg fun hnew => hnew.2 hold]
      exact h.1 id hold
    · rw [if_pos ⟨hid, hold⟩]
      exact ⟨hids id hid hold, rfl⟩
  · rw [hfresh] at htrue
    cases htrue

end

theorem next_streams {w : Watched} (h : w.StreamsOfSession) (hhalt : w.HaltedWithoutStreams)
    (call : TunnelLifecycle.Call) : (w.next call).StreamsOfSession ↔ w.EndsWithoutStreams call := by
  cases call with
  | onEvent event =>
      by_cases hmux : w.life.mux.ids = ∅
      · refine ⟨fun _ _ => hmux, fun _ => streams_of_empty ?_⟩
        rcases TunnelLifecycle.onEvent_cases w.life event with ⟨t, -, heq⟩ | ⟨-, heq⟩ <;>
          (rw [TunnelLifecycle.next, heq]; exact hmux)
      · -- a stream is open, so the tunnel is ready, and two events lead away from there
        obtain ⟨id, hid⟩ := Finset.nonempty_iff_ne_empty.mpr hmux
        have hready : w.life.state = .ready := (h.1 id hid).1
        rcases TunnelLifecycle.onEvent_cases w.life event with ⟨t, ht, heq⟩ | ⟨⟨e, he⟩, heq⟩
        · rw [hready] at ht
          rcases step_ready ht with ⟨rfl, hevent⟩ | ⟨hleft, hevent⟩
          · refine ⟨fun _ hcall => ?_, fun _ => streams_of_state h ?_ ?_⟩
            · rcases hevent with rfl | rfl <;> rcases hcall with hcall | hcall <;> cases hcall
            · rw [TunnelLifecycle.next, heq, hready]
            · exact fun _ _ _ => hready
          · refine ⟨fun hafter => ?_, fun hguard => ?_⟩
            · have hopen : id ∈ (w.life.next (.onEvent event)).mux.ids := by
                rw [TunnelLifecycle.next, heq]
                exact hid
              have hstate : (w.life.next (.onEvent event)).state = .ready := (hafter.1 id hopen).1
              rw [TunnelLifecycle.next, heq] at hstate
              exact absurd hstate hleft
            · refine absurd (hguard ?_) hmux
              exact hevent.imp (congrArg TunnelLifecycle.Call.onEvent)
                (congrArg TunnelLifecycle.Call.onEvent)
        · refine ⟨fun _ hcall => ?_, fun _ => streams_of_state h ?_ fun _ _ _ => hready⟩
          · rw [hready] at he
            rcases hcall with hcall | hcall <;> cases hcall <;> cases he
          · rw [TunnelLifecycle.next, heq]
  | heartbeat nowMs =>
      exact ⟨fun _ => endsWithoutStreams_of_ne (by rintro _ ⟨⟩),
        fun _ => streams_of_state h rfl fun id hid hnot => absurd hid hnot⟩
  | engageKillSwitch origin nowMs =>
      refine ⟨fun _ => endsWithoutStreams_of_ne (by rintro _ ⟨⟩),
        fun _ => streams_of_empty ?_⟩
      cases hrecord : w.life.halt with
      | none =>
          obtain ⟨t, -, heq⟩ := TunnelLifecycle.engage_first hrecord origin nowMs
          rw [TunnelLifecycle.next, heq]
          rfl
      | some record =>
          obtain ⟨t, -, heq⟩ := TunnelLifecycle.engage_again hrecord origin nowMs
          rw [TunnelLifecycle.next, heq]
          exact hhalt (by rw [hrecord]; exact Option.some_ne_none record)
  | clearHalt origin =>
      exact ⟨fun _ => endsWithoutStreams_of_ne (by rintro _ ⟨⟩),
        fun _ => streams_of_state h rfl fun id hid hnot => absurd hid hnot⟩
  | completeHalt nowMs =>
      refine ⟨fun _ => endsWithoutStreams_of_ne (by rintro _ ⟨⟩), fun _ => ?_⟩
      have hsame : (w.life.next (.completeHalt nowMs)).state = w.life.state
          ∧ (w.life.next (.completeHalt nowMs)).mux = w.life.mux := by
        rw [TunnelLifecycle.next, TunnelLifecycle.completeHalt]
        cases w.life.halt <;> exact ⟨rfl, rfl⟩
      refine streams_of_state h hsame.1 fun id hid hnot => ?_
      rw [hsame.2] at hid
      exact absurd hid hnot
  | openStream id nowMs =>
      refine ⟨fun _ => endsWithoutStreams_of_ne (by rintro _ ⟨⟩), fun _ => ?_⟩
      rcases TunnelLifecycle.openStream_cases w.life id nowMs with ⟨mux, -, -, hready, -, heq⟩
        | ⟨e, heq⟩
      · exact streams_of_state h (by rw [TunnelLifecycle.next, heq]) fun _ _ _ => hready
      · refine streams_of_state h (by rw [TunnelLifecycle.next, heq]) fun id' hid' hnot => ?_
        rw [TunnelLifecycle.next, heq] at hid'
        exact absurd hid' hnot
  | closeStream id =>
      refine ⟨fun _ => endsWithoutStreams_of_ne (by rintro _ ⟨⟩), fun _ => ?_⟩
      rcases TunnelLifecycle.closeStream_cases w.life id with ⟨mux, hclose, heq⟩ | heq
      · refine streams_of_state h (by rw [TunnelLifecycle.next, heq]) fun id' hid' hnot => ?_
        rw [TunnelLifecycle.next, heq, (Mux.closeId_ok.mp hclose).2] at hid'
        exact absurd (Finset.mem_of_mem_erase hid') hnot
      · refine streams_of_state h (by rw [TunnelLifecycle.next, heq]) fun id' hid' hnot => ?_
        rw [TunnelLifecycle.next, heq] at hid'
        exact absurd hid' hnot

/-- **When streams do not outlive their session.** -/
theorem streams_of_session_iff (calls : List TunnelLifecycle.Call) :
    Runs.Throughout next StreamsOfSession new calls
    ↔ Runs.Guarded next EndsWithoutStreams new calls := by
  have hnew : new.StreamsOfSession :=
    ⟨fun id hid => absurd hid (Finset.notMem_empty id), fun h => (by cases h)⟩
  exact Runs.guarded_iff_under (I := StreamsOfSession) (J := HaltedWithoutStreams)
    (fun _ call h => next_haltedWithoutStreams h call)
    (fun _ call hhalted h => next_streams h hhalted call) (fun _ => rfl) hnew calls

/-- Eight streams, a lost carriage, and a second handshake. -/
def reconnect : List TunnelLifecycle.Call :=
  [.onEvent .carriageConnected, .onEvent .helloSent, .onEvent .peerConfirmed,
    .onEvent .peerConfirmed,
    .heartbeat 0] ++ [1, 2, 3, 4, 5, 6, 7, 8].map (TunnelLifecycle.Call.openStream · 0)
    ++ [.onEvent .carriageLost, .onEvent .carriageConnected, .onEvent .helloSent,
      .onEvent .peerConfirmed, .onEvent .peerConfirmed]

/-- The second session begins with the eight streams of the first, and none can be opened. -/
theorem reconnect_without_room :
    ((reconnect.take 14).foldl next new).life.state = .idle
      ∧ ((reconnect.take 14).foldl next new).life.mux.ids.card = 8
      ∧ (reconnect.foldl next new).life.state = .ready ∧ (reconnect.foldl next new).session = 2
      ∧ (reconnect.foldl next new).since 1 = 1 ∧ (reconnect.foldl next new).life.mux.streamsFree = 0
      ∧ ¬ Runs.Throughout next StreamsOfSession new reconnect := by
  refine ⟨by decide, by decide, by decide, by decide, by decide, by decide, fun h => ?_⟩
  have hfresh := (h reconnect (List.prefix_refl _)).2 (by decide)
  exact absurd hfresh.1 (by decide)

end Watched

end GoatCoin.Tunnel
