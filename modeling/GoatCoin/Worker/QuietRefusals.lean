/-
# `GoatCoin.Worker.QuietRefusals` — which refusals open no socket

Nine of the gates only look.  The robots gate fetches rules that it does not know, and the rate, the
budget and the indicator come after it:

    admit → pin → robots → rate → budget → indicator
                    ↑
                  dials

So a refusal is quiet for certain exactly if the request alone is refused or the rules are known
(`quiet_iff_rulesKnown`).  Else an origin need only say that it has no rules, and the refusal of a
later gate comes after a dial: that of a surface which has gone stale meanwhile, for one.  With a
ledger that is spent or cannot be read the fetch is made all the same, and its debit fails.
-/
import GoatCoin.Worker.PinnedEgress

namespace GoatCoin.Worker

open Text

/-! ## What is asked -/

/-- No socket was opened, and no byte crossed the line. -/
structure Evaluated.NoSocket (e : Evaluated) : Prop where
  dials : ∀ addr, .dial addr ∉ e.events
  bytes : e.sent = 0 ∧ e.received = 0

/-- The rate is exhausted, the ceiling is spent or cannot be proved, or the indicator is stale. -/
def Shut (entry : AllowlistEntry) (s : WorkerState) (nowMs : Nat) : Prop :=
  (s.rate.recent entry.id nowMs).length ≥ entry.maxRequestsPerMinute
    ∨ (∀ k, s.ledger.remainingToday (nowMs / 1000) = .ok k → k = 0)
    ∨ s.indicator.isFresh (nowMs / 1000) = false

/-- **What is asked of an evaluation**: it opens no socket where it refuses for another reason than
the origin's rules, and none while a later gate is shut. -/
structure Quiet (policy : EgressPolicy) (s : WorkerState) (req : ProxyRequest)
    (a : EvalAnswer) : Prop where
  refusal : ∀ r, (policy.evaluate s req a).decision = .deny r → r ≠ .robotsDisallowed →
    r ≠ .robotsUnavailable → (policy.evaluate s req a).NoSocket
  shut : ∀ entry, policy.earlyGates req = .ok entry → Shut entry s a.robotsMs →
    (policy.evaluate s req a).NoSocket

/-- The rules of the request's entry are in the cache, and not too old. -/
def RulesKnown (policy : EgressPolicy) (s : WorkerState) (req : ProxyRequest)
    (nowMs : Nat) : Prop :=
  ∀ entry, policy.earlyGates req = .ok entry →
    (s.robots.fresh policy.ttlSecs (entry.id, req.scheme) (nowMs / 1000)).isSome = true

/-- The clock does not go back. -/
structure EvalAnswer.Timely (a : EvalAnswer) (nowMs : Nat) : Prop where
  start : a.robotsMs = nowMs
  debit : nowMs / 1000 ≤ a.robots.now
  rate : nowMs ≤ a.rateMs
  budget : a.rateMs ≤ a.budgetMs

/-! ## Quiet evaluations -/

section
variable {policy : EgressPolicy} {s : WorkerState} {req : ProxyRequest} {a : EvalAnswer}

theorem noSocket_of_refused {e : Evaluated}
    (hevents : e.events = [] ∨ ∃ host answer, e.events = [.resolved host answer])
    (hsent : e.sent = 0) (hreceived : e.received = 0) : e.NoSocket := by
  refine ⟨fun addr hin => ?_, hsent, hreceived⟩
  obtain ⟨_, _, heq⟩ := quiet_of_refused hevents _ hin
  cases heq

theorem allows_fresh {cache : RobotsCache} {ttlSecs nowUnix : Nat} {scheme : Scheme}
    {target : PinnedTarget} (ledger : EgressLedger) (path : Text) (answer : RobotsAnswer)
    (h : (cache.fresh ttlSecs (target.entryId, scheme) nowUnix).isSome = true) :
    (cache.allows ttlSecs ledger scheme target path nowUnix answer).events = []
      ∧ (cache.allows ttlSecs ledger scheme target path nowUnix answer).sent = 0
      ∧ (cache.allows ttlSecs ledger scheme target path nowUnix answer).received = 0
      ∧ (cache.allows ttlSecs ledger scheme target path nowUnix answer).ledger = ledger := by
  obtain ⟨rules, hrules⟩ := Option.isSome_iff_exists.mp h
  unfold RobotsCache.allows
  dsimp only
  rw [hrules]
  exact ⟨rfl, rfl, rfl, rfl⟩

theorem allows_cold {cache : RobotsCache} {ttlSecs nowUnix : Nat} {scheme : Scheme}
    (target : PinnedTarget) (ledger : EgressLedger) (path : Text) (answer : RobotsAnswer)
    (h : cache.fresh ttlSecs (target.entryId, scheme) nowUnix = none) :
    (cache.allows ttlSecs ledger scheme target path nowUnix answer).events
        = (robotsTransfer scheme target answer).events
      ∧ (cache.allows ttlSecs ledger scheme target path nowUnix answer).verdict
        = (robotsFetch ledger scheme target answer).2.rules.verdict path := by
  unfold RobotsCache.allows
  dsimp only
  rw [h]
  exact ⟨rfl, rfl⟩

theorem quiet_of_rulesKnown (h : RulesKnown policy s req a.robotsMs) : Quiet policy s req a := by
  have hnone : (policy.evaluate s req a).NoSocket := by
    rcases evaluate_cases policy s req a with ⟨_, -, -, hevents, hsent, hreceived⟩
      | ⟨entry, answer, pinned, hearly, hpin, heq⟩
    · exact noSocket_of_refused hevents hsent hreceived
    · obtain ⟨addrs, rfl, -, -, hid, -, -⟩ := resolveAndPin_ok hpin
      have hknown := h entry hearly
      rw [← hid] at hknown
      obtain ⟨hevents, hsent, hreceived, -⟩ :=
        allows_fresh s.ledger req.pathAndQuery a.robots hknown
      rw [heq]
      refine noSocket_of_refused (.inr ⟨entry.host, .ok addrs, ?_⟩) hsent hreceived
      rw [afterPin_events]
      exact congrArg (List.cons _) hevents
  exact ⟨fun _ _ _ _ => hnone, fun _ _ _ => hnone⟩

end

/-! ## An origin without rules -/

theorem byteLength_bounds (s : Text) : s.length ≤ byteLength s ∧ byteLength s ≤ 4 * s.length := by
  unfold byteLength
  induction s with
  | nil => exact ⟨Nat.le_refl _, Nat.le_refl _⟩
  | cons c s ih =>
      have hpos := Char.utf8Size_pos c
      have hfour := Char.utf8Size_le_four c
      rw [List.map_cons, List.sum_cons, List.length_cons]
      omega

theorem byteLength_append (s t : Text) : byteLength (s ++ t) = byteLength s + byteLength t := by
  unfold byteLength
  rw [List.map_append, List.sum_append]

set_option maxRecDepth 2000 in
theorem byteLength_robotsHead {policy : EgressPolicy} {req : ProxyRequest} {entry : AllowlistEntry}
    (h : Admitted policy req entry) :
    byteLength (requestHead "GET".toList robotsPath entry.host) ≤ 2000 := by
  obtain ⟨literal, hliteral⟩ := h.literal
  have hhost : byteLength entry.host ≤ 1012 := by
    have hshort := byteLength_of_parseCanonicalIpLiteral hliteral
    have hfrom := (byteLength_bounds req.host).1
    have hto := (byteLength_bounds entry.host).2
    rw [h.host] at hto ⊢
    unfold toAsciiLowercase at hto ⊢
    rw [List.length_map] at hto
    unfold maxHostLen at hshort
    omega
  have hrest : byteLength (requestHead "GET".toList robotsPath []) ≤ 500 := by decide
  unfold requestHead at hrest ⊢
  simp only [byteLength_append] at hrest ⊢
  have hnil : byteLength [] = 0 := rfl
  omega

/-- **What an origin without rules answers**, in eight bytes. -/
theorem robotsTransfer_noRules (scheme : Scheme) (target : PinnedTarget) (now : Nat)
    (saveError : Option String) :
    let t := robotsTransfer scheme target ⟨answering [noRules], now, saveError⟩
    NetEvent.dial target.socketAddr ∈ t.events
      ∧ t.observed = byteLength (requestHead "GET".toList robotsPath target.host) + 8
      ∧ ∃ o, t.result = .ok o ∧ o.status = 404 := by
  have hread : ∀ observed : Nat, readBytes stringSink (.head []) noRules.bytes observed []
      = .on [] (.body ⟨404, none, .toEof⟩ (BodyReader.new .toEof)) := fun _ => rfl
  have hloop : ∀ sent : Nat, readLoop stringSink scheme sent none (.head []) 0 [noRules] []
      = ⟨[], 8, .ok ⟨404, none, sent + 8, 0⟩⟩ := by
    intro sent
    have hcost : 0 + noRules.cost scheme = 8 := by cases scheme <;> rfl
    unfold readLoop
    dsimp only
    rw [hcost, if_neg (by decide), hread]
    rfl
  have htransfer : robotsTransfer scheme target ⟨answering [noRules], now, saveError⟩
      = ⟨[.dial target.socketAddr, .wrote (requestHead "GET".toList robotsPath target.host)], [],
          byteLength (requestHead "GET".toList robotsPath target.host), 8,
          .ok ⟨404, none, byteLength (requestHead "GET".toList robotsPath target.host) + 8,
            0⟩⟩ := by
    cases scheme with
    | http =>
        simp only [robotsTransfer, fetchOnce, methodToken, openWire, answering,
          PinnedTarget.sniName]
        simp [hloop]
    | https =>
        simp only [robotsTransfer, fetchOnce, methodToken, openWire, answering,
          PinnedTarget.sniName]
        simp [hloop]
  rw [htransfer]
  exact ⟨List.mem_cons_self, rfl, _, rfl, rfl⟩

/-- A debit that a new day has room for. -/
theorem spend_tomorrow {l : EgressLedger} {nowUnix spent : Nat}
    (hload : l.file.loadForToday nowUnix = .ok spent)
    {bytes : Nat} (hbytes : bytes ≤ minDailyByteCap) :
    ∃ l', l.spend bytes ((utcDay nowUnix + 1) * secondsPerUtcDay) none = (l', .ok ()) := by
  have hday : utcDay ((utcDay nowUnix + 1) * secondsPerUtcDay) = utcDay nowUnix + 1 :=
    Nat.mul_div_cancel _ (by decide)
  have hzero : l.file.loadForToday ((utcDay nowUnix + 1) * secondsPerUtcDay) = .ok 0 := by
    unfold LedgerFile.loadForToday at hload ⊢
    rw [hday]
    split at hload
    · rfl
    · cases hload
    · cases hload
    · split at hload
      · cases hload
      · rename_i hschema
        split at hload
        · cases hload
        · rename_i hpast
          rw [if_neg hschema, if_neg (by omega), if_pos (by omega)]
  exact ⟨_, spend_within hzero (by have := l.band.1; omega)⟩

theorem lateGates_stale (entry : AllowlistEntry) {s : WorkerState} (rateMs : Nat) {budgetMs : Nat}
    (h : s.indicator.isFresh (budgetMs / 1000) = false) :
    ∃ r, (lateGates entry s rateMs budgetMs).2 = .error r ∧ r ≠ .robotsDisallowed
    ∧ r ≠ .robotsUnavailable := by
  unfold lateGates
  split
  · exact ⟨_, rfl, nofun, nofun⟩
  · dsimp only
    split
    · rename_i e _
      cases e with
      | unavailable detail => exact ⟨_, rfl, nofun, nofun⟩
      | dailyCeilingReached => exact ⟨_, rfl, nofun, nofun⟩
      | outsideSchedule => exact ⟨_, rfl, nofun, nofun⟩
    · exact ⟨_, rfl, nofun, nofun⟩
    · rw [h]
      exact ⟨_, rfl, nofun, nofun⟩

theorem isFresh_late (i : Indicator) {nowUnix : Nat}
    (h : i.stampedAtUnix + indicatorTtlSecs < nowUnix) : i.isFresh nowUnix = false := by
  unfold Indicator.isFresh
  split
  · rfl
  · split
    · rfl
    · split
      · rfl
      · exact decide_eq_false (by omega)

/-! ## The two sides -/

section
variable {policy : EgressPolicy} {s : WorkerState} {req : ProxyRequest} {entry : AllowlistEntry}

/-- What the gates are told when an origin without rules is slow: the debit falls on the next day,
and the surface is not stamped again. -/
def slowAnswer (s : WorkerState) (nowMs : Nat) : EvalAnswer where
  resolver := some (.ok [samplePin])
  robotsMs := nowMs
  robots := ⟨answering [noRules], (utcDay (nowMs / 1000) + 1) * secondsPerUtcDay, none⟩
  rateMs := nowMs
  budgetMs := nowMs + (s.indicator.stampedAtUnix + 11) * 1000

theorem slowAnswer_timely (s : WorkerState) (nowMs : Nat) : (slowAnswer s nowMs).Timely nowMs := by
  refine ⟨rfl, ?_, Nat.le_refl _, Nat.le_add_right _ _⟩
  show nowMs / 1000 ≤ (nowMs / 1000 / 86400 + 1) * 86400
  omega

/-- The pin of the sample's address. -/
def pinFor (entry : AllowlistEntry) (req : ProxyRequest) : PinnedTarget :=
  ⟨entry.id, entry.host, req.port, samplePin⟩

theorem evaluate_slowAnswer (hearly : policy.earlyGates req = .ok entry) (nowMs : Nat) :
    policy.evaluate s req (slowAnswer s nowMs)
      = afterPin policy s req entry (.ok [samplePin]) (pinFor entry req) (slowAnswer s nowMs) := by
  unfold EgressPolicy.evaluate
  rw [hearly]
  rfl

/-- Rules that are not known are dialled for. -/
theorem slowAnswer_dials (hearly : policy.earlyGates req = .ok entry) {nowMs : Nat}
    (hcold : s.robots.fresh policy.ttlSecs (entry.id, req.scheme) (nowMs / 1000) = none) :
    ¬ (policy.evaluate s req (slowAnswer s nowMs)).NoSocket := by
  intro hnone
  have hdials := (robotsTransfer_noRules req.scheme (pinFor entry req)
    ((utcDay (nowMs / 1000) + 1) * secondsPerUtcDay) none).1
  refine hnone.dials (pinFor entry req).socketAddr ?_
  rw [evaluate_slowAnswer hearly, afterPin_events]
  refine List.mem_cons_of_mem _ ?_
  have hevents :=
    (allows_cold (pinFor entry req) s.ledger req.pathAndQuery (slowAnswer s nowMs).robots hcold).1
  exact hevents ▸ hdials

theorem slowAnswer_allowed (hearly : policy.earlyGates req = .ok entry) {nowMs spent : Nat}
    (hcold : s.robots.fresh policy.ttlSecs (entry.id, req.scheme) (nowMs / 1000) = none)
    (hload : s.ledger.file.loadForToday (nowMs / 1000) = .ok spent) :
    (askRobots policy s req (pinFor entry req) (slowAnswer s nowMs)).verdict = .allowed := by
  obtain ⟨-, hobserved, o, hresult, hstatus⟩ := robotsTransfer_noRules req.scheme (pinFor entry req)
    ((utcDay (nowMs / 1000) + 1) * secondsPerUtcDay) none
  have hshort := byteLength_robotsHead (earlyGates_ok hearly)
  have hfits : byteLength (requestHead "GET".toList robotsPath (pinFor entry req).host) + 8
    ≤ minDailyByteCap :=
    (Nat.add_le_add_right hshort 8).trans (by decide)
  obtain ⟨l', hspend⟩ := spend_tomorrow hload hfits
  have hfetch : (robotsFetch s.ledger req.scheme (pinFor entry req) (slowAnswer s nowMs).robots).2
    = .allowAll := by
    unfold robotsFetch
    dsimp only [slowAnswer]
    rw [hobserved, if_pos (Nat.succ_pos _), hspend]
    dsimp only
    rw [hresult]
    dsimp only
    rw [hstatus, if_neg (by decide), if_pos (by decide)]
  have hverdict :=
    (allows_cold (pinFor entry req) s.ledger req.pathAndQuery (slowAnswer s nowMs).robots hcold).2
  rw [hfetch] at hverdict
  exact hverdict

/-- **Rules that are not known make a loud refusal possible.** -/
theorem not_quiet_slowAnswer (hearly : policy.earlyGates req = .ok entry) {nowMs : Nat}
    (hcold : s.robots.fresh policy.ttlSecs (entry.id, req.scheme) (nowMs / 1000) = none) :
    ¬ Quiet policy s req (slowAnswer s nowMs) := by
  intro hquiet
  have hdials := slowAnswer_dials hearly hcold
  cases hload : s.ledger.file.loadForToday (nowMs / 1000) with
  | error e =>
      -- the fetch is made although its debit must fail
      refine hdials (hquiet.shut entry hearly (.inr (.inl fun k hk => ?_)))
      rw [EgressLedger.remainingToday] at hk
      change (s.ledger.file.loadForToday (nowMs / 1000)).map _ = _ at hk
      rw [hload] at hk
      cases hk
  | ok spent =>
      have hallowed := slowAnswer_allowed hearly hcold hload
      have hstale : ∀ s' : WorkerState, s'.indicator = s.indicator →
          s'.indicator.isFresh ((slowAnswer s nowMs).budgetMs / 1000) = false := by
        intro s' hs'
        rw [hs']
        refine isFresh_late _ ?_
        show s.indicator.stampedAtUnix + 10
          < (nowMs + (s.indicator.stampedAtUnix + 11) * 1000) / 1000
        omega
      obtain ⟨r, hlate, hdisallowed, hunavailable⟩ := lateGates_stale entry
        (slowAnswer s nowMs).rateMs (hstale { s with
          robots := (askRobots policy s req (pinFor entry req) (slowAnswer s nowMs)).cache
          ledger := (askRobots policy s req (pinFor entry req) (slowAnswer s nowMs)).ledger } rfl)
      refine hdials (hquiet.refusal r ?_ hdisallowed hunavailable)
      rw [evaluate_slowAnswer hearly]
      unfold afterPin decideLate
      dsimp only
      rw [hallowed]
      dsimp only
      split
      · rename_i heq
        rw [heq] at hlate
        cases hlate
        rfl
      · rename_i heq
        rw [heq] at hlate
        cases hlate

end

/-- **No socket on a refusal, exactly if the rules are known.** Whatever the resolver, the origin
and the clock do from now on, an evaluation opens no socket where it refuses for another reason than
the origin's rules, nor while the rate, the ceiling or the indicator is shut, if and only if the
request alone is refused or the rules of its entry are in the cache. -/
theorem quiet_iff_rulesKnown (policy : EgressPolicy) (s : WorkerState)
    (req : ProxyRequest) (nowMs : Nat) :
    (∀ a : EvalAnswer, a.Timely nowMs → Quiet policy s req a) ↔ RulesKnown policy s req nowMs := by
  constructor
  · intro h entry hearly
    cases hcold : s.robots.fresh policy.ttlSecs (entry.id, req.scheme) (nowMs / 1000) with
    | some rules => rfl
    | none => exact absurd (h _ (slowAnswer_timely s nowMs)) (not_quiet_slowAnswer hearly hcold)
  · intro h a ha
    refine quiet_of_rulesKnown ?_
    rw [ha.start]
    exact h

set_option maxRecDepth 4000 in
/-- **A surface that nobody sees is refused after a dial**, and so many bytes. -/
theorem stale_after_dial :
    (EgressPolicy.evaluate ⟨[sampleEntry], 3600⟩ (sampleState false) sampleRequest
      (sampleEval 6000)).decision
        = .deny .indicatorStale
      ∧ .dial ⟨samplePin, 80⟩
        ∈ (EgressPolicy.evaluate ⟨[sampleEntry], 3600⟩ (sampleState false) sampleRequest
          (sampleEval 6000)).events
      ∧ (EgressPolicy.evaluate ⟨[sampleEntry], 3600⟩ (sampleState false) sampleRequest
        (sampleEval 6000)).received = 8 := by
  decide

end GoatCoin.Worker
