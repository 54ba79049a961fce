/-
# `GoatCoin.Worker.ConsumerBytes` — what of a redirect chain reaches the consumer

A hop's response goes to the consumer or nowhere, and that is decided when its head is parsed:

    redirect status and a location     nowhere, and the run follows it
    redirect status and no location    to the consumer, and the run fails
    any other status                   to the consumer, and the run ends with it

so the consumer's bytes are the body of the last response, and no redirect's, in the runs whose
redirects all say where they lead.
-/
import GoatCoin.Worker.BodyDecoding
import GoatCoin.Worker.PinnedEgress

namespace GoatCoin.Worker

open Text

/-! ## Responses -/

/-- What the reads bring before one that brings nothing. -/
def streamOf : List Arrival → List UInt8
  | [] => []
  | a :: arrivals => if a.bytes = [] then [] else a.bytes ++ streamOf arrivals

/-- The head of a stream, and what follows it. -/
def responseOf (stream : List UInt8) : Option (Head × List UInt8) :=
  match findHeadEnd stream with
  | none => none
  | some p =>
      match parseHead (fromUtf8Lossy (stream.take (p + 4))) with
      | .error _ => none
      | .ok head => some (head, stream.drop (p + 4))

/-- The response of an origin. -/
def Origin.response (o : Origin) : Option (Head × List UInt8) := responseOf (streamOf o.arrivals)

/-- What has been found of a head does not move. -/
theorem responseOf_append {acc : List UInt8} {p : Nat} (hfound : findHeadEnd acc = some p)
    {head : Head}
    (hparsed : parseHead (fromUtf8Lossy (acc.take (p + 4))) = .ok head) (rest : List UInt8) :
    responseOf (acc ++ rest) = some (head, acc.drop (p + 4) ++ rest) := by
  have hle := findHeadEnd_le hfound
  unfold responseOf
  rw [findHeadEnd_append hfound]
  dsimp only
  rw [List.take_append_of_le_length hle, hparsed, List.drop_append_of_le_length hle]

/-! ## Reading -/

section
variable {τ : Type} {sink : Sink τ} {log : τ → List UInt8} {scheme : Scheme} {sent : Nat}
  {ending : Option Cut}

theorem feedBody_cases (sink : Sink τ) (h : Head) (r : BodyReader) (bytes : List UInt8)
    (observed : Nat) (s : τ) :
    (∃ s' e, r.feed (h.out sink) observed bytes s = (s', .error e) ∧
        feedBody sink h r bytes observed s = .over s' (.error e)) ∨
      ∃ s' r', r.feed (h.out sink) observed bytes s = (s', .ok r') ∧
        ((r'.complete = true ∧ feedBody sink h r bytes observed s = .over s' (.ok (.body h r'))) ∨
          feedBody sink h r bytes observed s = .on s' (.body h r')) := by
  unfold feedBody
  cases hfeed : r.feed (h.out sink) observed bytes s with
  | mk s' result =>
      cases result with
      | error e => exact .inl ⟨s', e, rfl, rfl⟩
      | ok r' =>
          refine .inr ⟨s', r', rfl, ?_⟩
          dsimp only
          split
          · rename_i hcomplete
            exact .inl ⟨hcomplete, rfl⟩
          · exact .inr rfl

variable {h : Head} {r : BodyReader} {wire : List UInt8}

theorem conclude_ok {received : Nat} {out : FetchOutcome}
    (hok : conclude sent (.body h r) received = .ok out) :
    r.finish = .ok ()
    ∧ out = ⟨h.status, h.location, sent + received, if h.redirecting then 0 else r.total⟩ := by
  unfold conclude at hok
  dsimp only at hok
  split at hok
  · cases hok
  · rename_i hfinish
    cases hok
    exact ⟨hfinish, rfl⟩

/-- A body that has been read. -/
structure BodyRead (log : τ → List UInt8) (h : Head) (r : BodyReader) (wire : List UInt8) (s : τ)
    (reading : Reading τ) : Prop where
  silent : h.redirecting = true → reading.sink = s
  grows : log s <+: log reading.sink
  ok : ∀ out, reading.result = .ok out → out.status = h.status ∧ out.location = h.location ∧
    (h.redirecting = false → ∃ d, log reading.sink = log s ++ d ∧ BodyRest r wire d
      ∧ out.bodyBytesToConsumer = r.total + d.length)

theorem bodyRead_error (h : Head) (r : BodyReader) (wire : List UInt8) {s s' : τ} (received : Nat)
    (e : FetchError) (hsilent : h.redirecting = true → s' = s) (hlog : log s <+: log s') :
    BodyRead log h r wire s ⟨s', received, .error e⟩ :=
  ⟨hsilent, hlog, nofun⟩

theorem bodyRead_conclude (hr : h.redirecting = false → r.Proper)
    (hend : wire = [] ∨ r.complete = true) (received : Nat) (s : τ) :
    BodyRead log h r wire s ⟨s, received, conclude sent (.body h r) received⟩ := by
  refine ⟨fun _ => rfl, List.prefix_refl _, fun out hok => ?_⟩
  obtain ⟨hfinish, rfl⟩ := conclude_ok hok
  refine ⟨rfl, rfl, fun hconsumer => ⟨[], (List.append_nil _).symm, ?_, ?_⟩⟩
  · exact bodyRest_finish (hr hconsumer) hfinish hend
  · dsimp only
    rw [hconsumer]
    rfl

theorem BodyRead.cons {r' : BodyReader} {bytes : List UInt8} {s s' : τ} {reading : Reading τ}
    (hread : BodyRead log h r' wire s' reading) (hsilent : h.redirecting = true → s' = s)
    (hlog : log s <+: log s')
    (hpiece : h.redirecting = false → ∃ d, log s' = log s ++ d ∧ r'.total = r.total + d.length ∧
      ∀ {wire body}, BodyRest r' wire body → BodyRest r (bytes ++ wire) (d ++ body)) :
    BodyRead log h r (bytes ++ wire) s reading := by
  refine ⟨fun hredirect => (hread.silent hredirect).trans (hsilent hredirect),
    hlog.trans hread.grows, fun out hok => ?_⟩
  obtain ⟨hstatus, hlocation, hdecoded⟩ := hread.ok out hok
  refine ⟨hstatus, hlocation, fun hconsumer => ?_⟩
  obtain ⟨d, hd, htotal, hrest⟩ := hpiece hconsumer
  obtain ⟨d', hd', hbody, hcount⟩ := hdecoded hconsumer
  refine ⟨d ++ d', ?_, hrest hbody, ?_⟩
  · rw [hd', hd, List.append_assoc]
  · rw [hcount, htotal, List.length_append, Nat.add_assoc]

theorem feedBody_read (hsink : Records sink log) {arrivals : List Arrival}
    (hlater : ∀ (r : BodyReader) (received : Nat) (s : τ), (h.redirecting = false → r.Proper) →
      BodyRead log h r (streamOf arrivals) s
      (readLoop sink scheme sent ending (.body h r) received arrivals s))
    (hr : h.redirecting = false → r.Proper) (bytes : List UInt8) (observed received : Nat) (s : τ) :
    BodyRead log h r (bytes ++ streamOf arrivals) s
      (match feedBody sink h r bytes observed s with
        | .over s (.error e) => ⟨s, received, .error e⟩
        | .over s (.ok phase) => ⟨s, received, conclude sent phase received⟩
        | .on s phase => readLoop sink scheme sent ending phase received arrivals s) := by
  have hsilent : h.redirecting = true → (r.feed (h.out sink) observed bytes s).1 = s := by
    intro hredirect
    unfold Head.out
    rw [if_pos hredirect]
    exact feed_moves moves_discard _ r bytes s
  have hlog : log s <+: log (r.feed (h.out sink) observed bytes s).1 := by
    unfold Head.out
    split
    · rw [feed_moves moves_discard _ r bytes s]
    · exact feed_moves (moves_records hsink) _ r bytes s
  rcases feedBody_cases sink h r bytes observed s with ⟨s', e, hfeed, hover⟩
    | ⟨s', r', hfeed, hnext⟩
  · rw [hfeed] at hsilent hlog
    rw [hover]
    exact bodyRead_error h r _ _ e hsilent hlog
  · rw [hfeed] at hsilent hlog
    have hpiece : h.redirecting = false → ∃ d, log s' = log s ++ d ∧ r'.total = r.total + d.length
      ∧ r'.Proper ∧
        ∀ {wire body}, BodyRest r' wire body → BodyRest r (bytes ++ wire) (d ++ body) := by
      intro hconsumer
      have hout : h.out sink = sink := if_neg (by rw [hconsumer]; exact Bool.false_ne_true)
      rw [hout] at hfeed
      exact feed_ok hsink (hr hconsumer) hfeed
    have hproper : h.redirecting = false → r'.Proper := by
      intro hconsumer
      obtain ⟨d, -, -, hproper, -⟩ := hpiece hconsumer
      exact hproper
    have hgiven : h.redirecting = false → ∃ d, log s' = log s ++ d ∧ r'.total = r.total + d.length ∧
        ∀ {wire body}, BodyRest r' wire body → BodyRest r (bytes ++ wire) (d ++ body) := by
      intro hconsumer
      obtain ⟨d, hd, htotal, -, hrest⟩ := hpiece hconsumer
      exact ⟨d, hd, htotal, hrest⟩
    rcases hnext with ⟨hcomplete, hover⟩ | hon
    · rw [hover]
      exact (bodyRead_conclude hproper (.inr hcomplete) _ s').cons hsilent hlog hgiven
    · rw [hon]
      exact (hlater r' _ s' hproper).cons hsilent hlog hgiven

/-- **A body that is read in pieces.** -/
theorem readLoop_body_read (hsink : Records sink log) (h : Head) (arrivals : List Arrival) :
    ∀ (r : BodyReader) (received : Nat) (s : τ), (h.redirecting = false → r.Proper) →
      BodyRead log h r (streamOf arrivals) s
        (readLoop sink scheme sent ending (.body h r) received arrivals s) := by
  induction arrivals with
  | nil =>
      intro r received s hr
      unfold readLoop
      split
      · exact bodyRead_error h r _ received _ (fun _ => rfl) (List.prefix_refl _)
      · exact bodyRead_conclude hr (.inl rfl) received s
  | cons a arrivals ih =>
      intro r received s hr
      unfold readLoop streamOf
      dsimp only
      split
      · exact bodyRead_conclude hr (.inl rfl) _ s
      · exact feedBody_read hsink ih hr a.bytes _ _ s

/-- A response that has been read, or given up. -/
structure ResponseRead (log : τ → List UInt8) (stream : List UInt8) (s : τ)
    (reading : Reading τ) : Prop where
  silent : reading.sink = s ∨ ∃ h wire, responseOf stream = some (h, wire) ∧ h.redirecting = false
  grows : log s <+: log reading.sink
  ok : ∀ out, reading.result = .ok out → ∃ h wire, responseOf stream = some (h, wire)
    ∧ out.status = h.status ∧
    out.location = h.location ∧ (h.redirecting = false → ∃ d, log reading.sink = log s ++ d ∧
      DecodesTo h.framing wire d ∧ out.bodyBytesToConsumer = d.length)

theorem responseRead_error (stream : List UInt8) (s : τ) (received : Nat) (e : FetchError) :
    ResponseRead log stream s ⟨s, received, .error e⟩ :=
  ⟨.inl rfl, List.prefix_refl _, nofun⟩

theorem BodyRead.response {stream : List UInt8} {s : τ} {reading : Reading τ}
    (hread : BodyRead log h (BodyReader.new h.framing) wire s reading)
    (hresponse : responseOf stream = some (h, wire)) : ResponseRead log stream s reading := by
  refine ⟨?_, hread.grows, fun out hok => ?_⟩
  · cases hredirect : h.redirecting with
    | true => exact .inl (hread.silent hredirect)
    | false => exact .inr ⟨h, wire, hresponse, hredirect⟩
  · obtain ⟨hstatus, hlocation, hdecoded⟩ := hread.ok out hok
    refine ⟨h, wire, hresponse, hstatus, hlocation, fun hconsumer => ?_⟩
    obtain ⟨d, hd, hbody, hcount⟩ := hdecoded hconsumer
    refine ⟨d, hd, bodyRest_new h.framing hbody, ?_⟩
    rw [hcount]
    exact Nat.zero_add _

/-- **A response that is read in pieces.** -/
theorem readLoop_response_read (hsink : Records sink log) (arrivals : List Arrival) :
    ∀ (acc : List UInt8) (received : Nat) (s : τ),
      ResponseRead log (acc ++ streamOf arrivals) s
        (readLoop sink scheme sent ending (.head acc) received arrivals s) := by
  induction arrivals with
  | nil =>
      intro acc received s
      unfold readLoop
      split
      · exact responseRead_error _ s received _
      · exact responseRead_error _ s received _
  | cons a arrivals ih =>
      intro acc received s
      unfold readLoop streamOf
      dsimp only
      split
      · exact responseRead_error _ s _ _
      · rw [readBytes, ← List.append_assoc]
        by_cases hlong : (acc ++ a.bytes).length > maxHeadBytes
        · rw [if_pos hlong]
          exact responseRead_error _ s _ _
        · rw [if_neg hlong]
          cases hfound : findHeadEnd (acc ++ a.bytes) with
          | none => exact ih (acc ++ a.bytes) _ s
          | some p =>
              dsimp only
              cases hparsed : parseHead (fromUtf8Lossy ((acc ++ a.bytes).take (p + 4))) with
              | error e => exact responseRead_error _ s _ _
              | ok h =>
                  dsimp only
                  refine BodyRead.response ?_ (responseOf_append hfound hparsed (streamOf arrivals))
                  exact feedBody_read hsink (readLoop_body_read hsink h arrivals)
                    (fun _ => proper_new h.framing) _ _ _ s

/-- **A transfer**, whatever cuts it short. -/
theorem fetchOnce_response_read (hsink : Records sink log) (target : PinnedTarget) (scheme : Scheme)
    (method : Method) (pathAndQuery : Text) (o : Origin) (s : τ) :
    ResponseRead log (streamOf o.arrivals) s
      ⟨(fetchOnce sink target scheme method pathAndQuery o s).sink,
        (fetchOnce sink target scheme method pathAndQuery o s).received,
        (fetchOnce sink target scheme method pathAndQuery o s).result⟩ := by
  unfold fetchOnce
  split
  · exact responseRead_error _ s _ _
  · split
    · exact responseRead_error _ s _ _
    · dsimp only
      split
      · exact responseRead_error _ s _ _
      · exact readLoop_response_read hsink o.arrivals [] _ s

end

/-! ## Hops -/

/-- A consumer, and what it was given. -/
def recording {σ : Type} (inner : BodySink σ) : BodySink (σ × List UInt8) where
  write s chunk := ((( inner.write s.1 chunk).1, s.2 ++ chunk), (inner.write s.1 chunk).2)

/-- How a hop ends. -/
inductive Onward where
  | done (result : Except FetchError FetchOutcome)
  | follow (req : ProxyRequest)

/-- What a hop leaves behind. -/
structure HopEnd (σ : Type) where
  hop : Hop
  state : WorkerState
  sink : σ
  onward : Onward

/-- Where an outcome leads. -/
def onwardOf (req : ProxyRequest) : Except FetchError FetchOutcome → Onward
  | .error err => .done (.error err)
  | .ok out =>
      if isRedirectStatus out.status = false then .done (.ok out)
      else match out.location with
        | none => .done (.error .malformedResponse)
        | some location =>
            match nextRequest req location with
            | .error r => .done (.error (.denied r))
            | .ok req => .follow req

section
variable {σ : Type}

/-- One round of the redirect loop. -/
def hopOf (policy : EgressPolicy) (inner : BodySink σ) (a : HopAnswer) (req : ProxyRequest)
    (state : WorkerState) (s : σ) : HopEnd σ :=
  let e := policy.evaluate state req a.eval
  match e.decision with
  | .deny r => ⟨⟨req, e.events, none⟩, e.state, s, .done (.error (.denied r))⟩
  | .allow entryId ip port =>
      match policy.entry entryId with
      | none => ⟨⟨req, e.events, none⟩, e.state, s, .done (.error (.denied .hostNotAllowlisted))⟩
      | some entry =>
          let t := pageTransfer inner a.debits ⟨entryId, entry.host, port, ip⟩ req a.page
            e.state.ledger s
          let (g, result) := settle a.debits t
          ⟨⟨req, e.events, some t.events⟩, { e.state with ledger := g.ledger }, g.inner,
            onwardOf req result⟩

/-- **The redirect loop is its rounds.** -/
theorem fetchWithRedirects_succ (policy : EgressPolicy) (inner : BodySink σ) (fuel : Nat)
    (answers : Nat → HopAnswer) (req : ProxyRequest) (state : WorkerState) (s : σ) :
    fetchWithRedirects policy inner (fuel + 1) answers req state s
      = match (hopOf policy inner (answers 0) req state s).onward with
        | .done result =>
            some ⟨[(hopOf policy inner (answers 0) req state s).hop],
              (hopOf policy inner (answers 0) req state s).state,
              (hopOf policy inner (answers 0) req state s).sink, result⟩
        | .follow next =>
            (fetchWithRedirects policy inner fuel (fun i => answers (i + 1)) next
              (hopOf policy inner (answers 0) req state s).state
                (hopOf policy inner (answers 0) req state s).sink).map
              fun run =>
              { run with
                hops := (hopOf policy inner (answers 0) req state s).hop :: run.hops } := by
  rw [fetchWithRedirects]
  unfold hopOf
  dsimp only
  cases (policy.evaluate state req (answers 0).eval).decision with
  | deny r => rfl
  | allow entryId ip port =>
      dsimp only
      cases policy.entry entryId with
      | none => rfl
      | some entry =>
          dsimp only
          generalize settle (answers 0).debits _ = settled
          cases settled.2 with
          | error e => rfl
          | ok out =>
              dsimp only [onwardOf]
              by_cases hstatus : isRedirectStatus out.status = false
              · rw [if_pos hstatus, if_pos hstatus]
              · rw [if_neg hstatus, if_neg hstatus]
                cases out.location with
                | none => rfl
                | some location =>
                    dsimp only
                    cases nextRequest req location with
                    | error r => rfl
                    | ok next => rfl

/-- The consumer's record, seen through the ledger's sink. -/
theorem records_recording (inner : BodySink σ) (d : DebitAnswers) :
    Records (budgetSink (recording inner) d) fun g => g.inner.2 := by
  have hdebit : ∀ (g : BudgetSink (σ × List UInt8)) observed,
    (g.debit d observed).1.inner = g.inner := by
    intro g observed
    unfold BudgetSink.debit
    split
    · split
      · rfl
      · rfl
    · rfl
  refine ⟨fun {observed g bytes g'} h => ?_, fun {observed g bytes g' e} h => ?_⟩
  · have hinner := hdebit g observed
    unfold budgetSink at h
    dsimp only at h
    split at h
    · cases h
    · rename_i heq
      rw [heq] at hinner
      obtain ⟨rfl, -⟩ := Prod.mk.inj h
      show _ ++ bytes = _
      rw [hinner]
  · have hinner := hdebit g observed
    unfold budgetSink at h
    dsimp only at h
    split at h
    · rename_i heq
      rw [heq] at hinner
      cases h
      rw [hinner]
    · rename_i heq
      rw [heq] at hinner
      obtain ⟨rfl, -⟩ := Prod.mk.inj h
      show _ <+: _ ++ bytes
      rw [hinner]
      exact List.prefix_append _ _

theorem settle_inner (d : DebitAnswers) (t : Transfer (BudgetSink σ)) :
    (settle d t).1.inner = t.sink.inner := by
  unfold settle BudgetSink.debit
  split
  · rename_i heq
    split at heq
    · split at heq
      · cases heq
        rfl
      · cases heq
    · cases heq
  · rename_i heq
    split at heq
    · split at heq
      · cases heq
      · cases heq
        rfl
    · cases heq
      rfl

theorem settle_ok {d : DebitAnswers} {t : Transfer (BudgetSink σ)} {out : FetchOutcome}
    (h : (settle d t).2 = .ok out) : t.result = .ok out := by
  unfold settle at h
  split at h
  · cases h
  · exact h

/-- What a hop gives the consumer. -/
structure HopRead (a : HopAnswer) (s : σ × List UInt8) (h : HopEnd (σ × List UInt8)) : Prop where
  grows : s.2 <+: h.sink.2
  silent : h.sink.2 = s.2 ∨ h.hop.pageEvents.isSome = true ∧
    ∃ head wire, a.page.response = some (head, wire) ∧ head.redirecting = false
  follow : ∀ next, h.onward = .follow next → h.sink.2 = s.2
  done : ∀ out, h.onward = .done (.ok out) → ∃ head wire d, a.page.response = some (head, wire) ∧
    out.status = head.status ∧ h.sink.2 = s.2 ++ d ∧ DecodesTo head.framing wire d
    ∧ out.bodyBytesToConsumer = d.length

variable {req : ProxyRequest} {result : Except FetchError FetchOutcome} {answers : Nat → HopAnswer}

theorem onwardOf_follow {next : ProxyRequest}
    (h : onwardOf req result = .follow next) :
    ∃ out, result = .ok out ∧ isRedirectStatus out.status = true ∧ out.location.isSome = true := by
  cases result with
  | error e => cases h
  | ok out =>
      unfold onwardOf at h
      dsimp only at h
      split at h
      · cases h
      · rename_i hstatus
        split at h
        · cases h
        · rename_i location hlocation
          refine ⟨out, rfl, Bool.eq_true_of_not_eq_false hstatus, ?_⟩
          rw [hlocation]
          rfl

theorem onwardOf_done {out : FetchOutcome}
    (h : onwardOf req result = .done (.ok out)) : result = .ok out
    ∧ isRedirectStatus out.status = false := by
  cases result with
  | error e => cases h
  | ok out' =>
      unfold onwardOf at h
      dsimp only at h
      split at h
      · rename_i hstatus
        cases h
        exact ⟨rfl, hstatus⟩
      · split at h
        · cases h
        · split at h
          · cases h
          · cases h

theorem hopRead_refused (a : HopAnswer) (s : σ × List UInt8) (hop : Hop) (state : WorkerState)
    (e : FetchError) : HopRead a s ⟨hop, state, s, .done (.error e)⟩ :=
  ⟨List.prefix_refl _, .inl rfl, nofun, nofun⟩

/-- **One hop.** -/
theorem hopOf_read (policy : EgressPolicy) (inner : BodySink σ) (a : HopAnswer) (req : ProxyRequest)
    (state : WorkerState) (s : σ × List UInt8) :
    HopRead a s (hopOf policy (recording inner) a req state s) := by
  unfold hopOf
  dsimp only
  split
  · exact hopRead_refused a s _ _ _
  · rename_i entryId ip port hallow
    split
    · exact hopRead_refused a s _ _ _
    · rename_i entry hentry
      have hread :
        ResponseRead (fun g : BudgetSink (σ × List UInt8) => g.inner.2)
        (streamOf a.page.arrivals) _ _ :=
        fetchOnce_response_read (records_recording inner a.debits) ⟨entryId, entry.host, port, ip⟩
          req.scheme req.method
          req.pathAndQuery a.page ⟨s, (policy.evaluate state req a.eval).state.ledger, 0, 0⟩
      set t := pageTransfer (recording inner) a.debits ⟨entryId, entry.host, port, ip⟩ req a.page
        (policy.evaluate state req a.eval).state.ledger s with ht
      have hinner : (settle a.debits t).1.inner = t.sink.inner := settle_inner a.debits t
      refine ⟨?_, ?_, ?_, ?_⟩
      · show s.2 <+: (settle a.debits t).1.inner.2
        rw [hinner]
        exact hread.grows
      · show (settle a.debits t).1.inner.2 = s.2 ∨ _
        rw [hinner]
        rcases hread.silent with hsame | hconsumer
        · left
          have hsink : t.sink = _ := hsame
          rw [hsink]
        · exact .inr ⟨rfl, hconsumer⟩
      · intro next hfollow
        show (settle a.debits t).1.inner.2 = s.2
        rw [hinner]
        obtain ⟨out, hout, hstatus, hlocation⟩ := onwardOf_follow hfollow
        obtain ⟨head, wire, hresponse, hsame, hwhere, -⟩ := hread.ok out (settle_ok hout)
        have hredirect : head.redirecting = true := by
          unfold Head.redirecting
          rw [← hsame, ← hwhere, hstatus, hlocation]
          rfl
        rcases hread.silent with hsilent | ⟨head', wire', hresponse', hconsumer⟩
        · have hsink : t.sink = _ := hsilent
          rw [hsink]
        · rw [hresponse] at hresponse'
          cases hresponse'
          rw [hredirect] at hconsumer
          cases hconsumer
      · intro out hdone
        obtain ⟨hout, hstatus⟩ := onwardOf_done hdone
        obtain ⟨head, wire, hresponse, hsame, -, hdecoded⟩ := hread.ok out (settle_ok hout)
        have hconsumer : head.redirecting = false := by
          unfold Head.redirecting
          rw [← hsame, hstatus]
          rfl
        obtain ⟨d, hd, hbody, hcount⟩ := hdecoded hconsumer
        refine ⟨head, wire, d, hresponse, hsame, ?_, hbody, hcount⟩
        show (settle a.debits t).1.inner.2 = s.2 ++ d
        rw [hinner]
        exact hd

/-! ## Runs -/

/-- What each hop of a run gives the consumer. -/
def deliveries (policy : EgressPolicy) (inner : BodySink σ) : (fuel : Nat) →
    (answers : Nat → HopAnswer) → ProxyRequest → WorkerState → σ × List UInt8 → List (List UInt8)
  | 0, _, _, _, _ => []
  | fuel + 1, answers, req, state, s =>
      let h := hopOf policy (recording inner) (answers 0) req state s
      h.sink.2.drop s.2.length ::
        match h.onward with
        | .done _ => []
        | .follow next =>
            deliveries policy inner fuel (fun i => answers (i + 1)) next h.state h.sink

/-- What a run has given the consumer, hop by hop. -/
structure Served (answers : Nat → HopAnswer) (before : List UInt8) (parts : List (List UInt8))
    (run : Run (σ × List UInt8)) : Prop where
  hops : parts.length = run.hops.length
  total : run.sink.2 = before ++ parts.flatten
  last : ∀ i part, parts[i]? = some part → part ≠ [] → i + 1 = parts.length ∧
    (∃ hop, run.hops[i]? = some hop ∧ hop.pageEvents.isSome = true) ∧
    ∃ head wire, (answers i).page.response = some (head, wire) ∧ head.redirecting = false
  ok : ∀ out, run.result = .ok out → ∃ head wire body,
    (answers (run.hops.length - 1)).page.response = some (head, wire) ∧ out.status = head.status ∧
      run.sink.2 = before ++ body ∧ DecodesTo head.framing wire body
      ∧ out.bodyBytesToConsumer = body.length

theorem served_last {s : σ × List UInt8} {h : HopEnd (σ × List UInt8)}
    (hread : HopRead (answers 0) s h) (hdone : h.onward = .done result) :
    Served answers s.2 [h.sink.2.drop s.2.length] ⟨[h.hop], h.state, h.sink, result⟩ := by
  obtain ⟨d, hd⟩ := hread.grows
  have hdrop : h.sink.2.drop s.2.length = d := by
    rw [← hd, List.drop_left]
  rw [hdrop]
  refine ⟨rfl, ?_, ?_, ?_⟩
  · rw [List.flatten_singleton]
    exact hd.symm
  · intro i part hpart hne
    have hi : i = 0 := by
      have hlt := (List.getElem?_eq_some_iff.mp hpart).1
      rw [List.length_singleton] at hlt
      omega
    subst hi
    cases hpart
    refine ⟨rfl, ?_⟩
    rcases hread.silent with hsame | hconsumer
    · rw [← hd] at hsame
      exact absurd (List.append_right_eq_self.mp hsame) hne
    · obtain ⟨hrequested, hconsumer⟩ := hconsumer
      exact ⟨⟨h.hop, rfl, hrequested⟩, hconsumer⟩
  · rintro out hresult
    dsimp only at hresult
    subst hresult
    obtain ⟨head, wire, body, hresponse, hstatus, hsink, hbody, hcount⟩ := hread.done out hdone
    exact ⟨head, wire, body, hresponse, hstatus, hsink, hbody, hcount⟩

theorem Served.cons {s : σ × List UInt8} {h : HopEnd (σ × List UInt8)}
    {parts : List (List UInt8)} {run : Run (σ × List UInt8)} (hsame : h.sink.2 = s.2)
    (hserved : Served (fun i => answers (i + 1)) h.sink.2 parts run) (hne : run.hops ≠ []) :
    Served answers s.2 (h.sink.2.drop s.2.length :: parts)
      { run with hops := h.hop :: run.hops } := by
  have hdrop : h.sink.2.drop s.2.length = [] := by
    rw [hsame, List.drop_length]
  have hpos : 0 < run.hops.length := List.length_pos_iff.mpr hne
  rw [hdrop]
  refine ⟨?_, ?_, ?_, ?_⟩
  · rw [List.length_cons, hserved.hops]
    rfl
  · rw [List.flatten_cons, List.nil_append, ← hsame]
    exact hserved.total
  · intro i part hpart hnonempty
    cases i with
    | zero =>
        cases hpart
        exact absurd rfl hnonempty
    | succ i =>
        obtain ⟨hlast, hconsumer⟩ := hserved.last i part hpart hnonempty
        exact ⟨by rw [List.length_cons, ← hlast], hconsumer⟩
  · intro out hresult
    obtain ⟨head, wire, body, hresponse, hstatus, hsink, hbody, hcount⟩ := hserved.ok out hresult
    refine ⟨head, wire, body, ?_, hstatus, ?_, hbody, hcount⟩
    · have hindex : (h.hop :: run.hops).length - 1 = run.hops.length - 1 + 1 := by
        rw [List.length_cons]
        omega
      dsimp only
      rw [hindex]
      exact hresponse
    · rw [← hsame]
      exact hsink

theorem hops_ne_nil {policy : EgressPolicy} {inner : BodySink σ} {fuel : Nat}
    {state : WorkerState} {s : σ} {run : Run σ}
    (h : fetchWithRedirects policy inner fuel answers req state s = some run) : run.hops ≠ [] := by
  cases fuel with
  | zero => cases h
  | succ fuel =>
      rw [fetchWithRedirects_succ] at h
      split at h
      · cases h
        exact List.cons_ne_nil _ _
      · obtain ⟨run', -, rfl⟩ := Option.map_eq_some_iff.mp h
        exact List.cons_ne_nil _ _

/-- **Every run.** -/
theorem fetchWithRedirects_served (policy : EgressPolicy) (inner : BodySink σ) (fuel : Nat) :
    ∀ (answers : Nat → HopAnswer) (req : ProxyRequest) (state : WorkerState) (s : σ × List UInt8)
      (run : Run (σ × List UInt8)),
      fetchWithRedirects policy (recording inner) fuel answers req state s = some run →
      Served answers s.2 (deliveries policy inner fuel answers req state s) run := by
  -- on the fuel; a hop that is followed has given nothing
  induction fuel with
  | zero =>
      intro answers req state s run h
      cases h
  | succ fuel ih =>
      intro answers req state s run h
      have hread := hopOf_read policy inner (answers 0) req state s
      rw [fetchWithRedirects_succ] at h
      unfold deliveries
      dsimp only
      split at h
      · rename_i result hdone
        cases h
        exact served_last hread hdone
      · rename_i next hfollow
        obtain ⟨run', hrun', rfl⟩ := Option.map_eq_some_iff.mp h
        exact (ih _ next _ _ run' hrun').cons (hread.follow next hfollow) (hops_ne_nil hrun')

/-- The consumer's bytes are those of the last response, and no redirect's. -/
structure ConsumerBytes (answers : Nat → HopAnswer) (parts : List (List UInt8))
    (run : Run (σ × List UInt8)) : Prop where
  all : parts.length = run.hops.length ∧ run.sink.2 = parts.flatten
  silent : ∀ i part, parts[i]? = some part →
    ∀ head wire, (answers i).page.response = some (head, wire) →
    isRedirectStatus head.status = true → part = []
  single : ∀ (i j : Nat) part part', parts[i]? = some part → part ≠ [] → parts[j]? = some part' →
    part' ≠ [] → i = j
  ok : ∀ out, run.result = .ok out → ∃ head wire, (answers (run.hops.length - 1)).page.response
    = some (head, wire) ∧
    out.status = head.status ∧ DecodesTo head.framing wire run.sink.2
    ∧ out.bodyBytesToConsumer = run.sink.2.length

/-- Every redirect of a page that was asked for says where it leads. -/
def Located (answers : Nat → HopAnswer) (run : Run (σ × List UInt8)) : Prop :=
  ∀ i hop, run.hops[i]? = some hop → hop.pageEvents.isSome = true →
    ∀ head wire, (answers i).page.response = some (head, wire) →
      isRedirectStatus head.status = true → head.location.isSome = true

/-- **The consumer's bytes**, in every run whose redirects all say where they lead. -/
theorem consumer_bytes_metered (policy : EgressPolicy) (inner : BodySink σ) (fuel : Nat)
    (answers : Nat → HopAnswer)
    (initial : ProxyRequest) (state : WorkerState) (s : σ) (run : Run (σ × List UInt8))
    (h : fetchWithRedirects policy (recording inner) fuel answers initial state (s, []) = some run)
    (hlocated : Located answers run) :
    ConsumerBytes answers (deliveries policy inner fuel answers initial state (s, [])) run := by
  have hserved := fetchWithRedirects_served policy inner fuel answers initial state (s, []) run h
  refine ⟨⟨hserved.hops, hserved.total⟩, ?_, ?_, ?_⟩
  · intro i part hpart head wire hresponse hstatus
    by_contra hne
    obtain ⟨-, ⟨hop, hhop, hrequested⟩, head', wire', hresponse', hconsumer⟩ :=
      hserved.last i part hpart hne
    rw [hresponse] at hresponse'
    cases hresponse'
    unfold Head.redirecting at hconsumer
    rw [hstatus, hlocated i hop hhop hrequested head wire hresponse hstatus] at hconsumer
    cases hconsumer
  · intro i j part part' hi hne hj hne'
    have hlasti := (hserved.last i part hi hne).1
    have hlastj := (hserved.last j part' hj hne').1
    omega
  · intro out hok
    obtain ⟨head, wire, body, hresponse, hstatus, hsink, hbody, hcount⟩ := hserved.ok out hok
    have hrun : run.sink.2 = body := hsink
    rw [hrun]
    exact ⟨head, wire, hresponse, hstatus, hbody, hcount⟩

end

/-! ### A page that has moved, and a redirect to nowhere -/

/-- A page of the sample's host. -/
def samplePage (response : String)
    (fits : (response.toList.map fun c => UInt8.ofNat c.toNat).length ≤ readBuf) : HopAnswer where
  eval := sampleEval 6000
  page := answering [⟨response.toList.map fun c => UInt8.ofNat c.toNat, 0, fits⟩]
  debits := ⟨fun _ => 6, fun _ => none⟩

/-- The first page has moved to the second. -/
def movedPages (i : Nat) : HopAnswer :=
  if i = 0 then samplePage "HTTP/1.1 302 Found\r\nLocation:/y\r\n\r\nmoved" (by decide)
  else samplePage "HTTP/1.1 200 OK\r\n\r\nx" (by decide)

/-- A redirect that does not say where it leads. -/
def nowherePages (_ : Nat) : HopAnswer := samplePage "HTTP/1.1 302 Found\r\n\r\nx" (by decide)

theorem consumer_bytes_moved :
    ∃ run, fetchWithRedirects ⟨[sampleEntry], 3600⟩ (recording anyBody) (maxRedirectHops + 1)
      movedPages sampleRequest
        (sampleState true) ((), []) = some run ∧ run.hops.length = 2 ∧ run.sink.2 = [120] ∧
      ConsumerBytes movedPages
        (deliveries ⟨[sampleEntry], 3600⟩ anyBody (maxRedirectHops + 1) movedPages sampleRequest
        (sampleState true) ((), [])) run := by
  have hrun :
    ((fetchWithRedirects ⟨[sampleEntry], 3600⟩ (recording anyBody) (maxRedirectHops + 1) movedPages
      sampleRequest (sampleState true) ((), [])).map fun run => (run.hops.length, run.sink.2))
      = some (2, [120]) := by
    decide +kernel
  obtain ⟨run, hsome, hboth⟩ := Option.map_eq_some_iff.mp hrun
  obtain ⟨hhops, hsink⟩ := Prod.mk.inj hboth
  refine ⟨run, hsome, hhops, hsink,
    consumer_bytes_metered _ anyBody _ movedPages _ _ () run hsome ?_⟩
  intro i hop hhop _ head wire hresponse hstatus
  have hi : i < 2 := hhops ▸ (List.getElem?_eq_some_iff.mp hhop).1
  have hfirst :
    (movedPages 0).page.response
    = some (⟨302, some ['/', 'y'], .toEof⟩, [109, 111, 118, 101, 100]) := by
    decide +kernel
  have hsecond : (movedPages 1).page.response = some (⟨200, none, .toEof⟩, [120]) := by
    decide +kernel
  interval_cases i
  · rw [hfirst] at hresponse
    cases hresponse
    rfl
  · rw [hsecond] at hresponse
    cases hresponse
    cases hstatus

/-- The body of a redirect to nowhere reaches the consumer. -/
theorem redirect_body_delivered :
    ¬∀ (policy : EgressPolicy) (inner : BodySink Unit) fuel answers initial state s run,
    fetchWithRedirects policy (recording inner) fuel answers initial state (s, []) = some run →
      ConsumerBytes answers (deliveries policy inner fuel answers initial state (s, [])) run := by
  intro h
  have hrun :
    (fetchWithRedirects ⟨[sampleEntry], 3600⟩ (recording anyBody) (maxRedirectHops + 1) nowherePages
      sampleRequest (sampleState true) ((), [])).isSome = true := by
    decide +kernel
  have hparts :
    deliveries ⟨[sampleEntry], 3600⟩ anyBody (maxRedirectHops + 1) nowherePages sampleRequest
      (sampleState true) ((), []) = [[120]] := by
    decide +kernel
  have hresponse : (nowherePages 0).page.response = some (⟨302, none, .toEof⟩, [120]) := by
    decide +kernel
  obtain ⟨run, hsome⟩ := Option.isSome_iff_exists.mp hrun
  have hpromise := h _ _ _ _ _ _ _ run hsome
  rw [hparts] at hpromise
  have hnil := hpromise.silent 0 [120] rfl _ _ hresponse rfl
  cases hnil

end GoatCoin.Worker
