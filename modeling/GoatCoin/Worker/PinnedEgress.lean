/-
# `GoatCoin.Worker.PinnedEgress` — where a run of redirects can go

Whatever the origins and the resolver answer, every hop of a run dials addresses of one answer,
which was given for the host of one entry of the list, and writes heads that name this host:

    GET /path HTTP/1.1            ←  the one line that the consumer or an origin had a part in
    Host: the entry's
    User-Agent, Accept-Encoding, Connection

A path that passes has no `\r` and no space, and a host of the list has neither.
-/
import GoatCoin.Worker.Policy

namespace GoatCoin.Worker

open Text
open Evm (bind_ok bind_ok₄ mapM_ok)

/-! ## A loaded list -/

/-- What the loader has checked. -/
structure Loaded (entries : List AllowlistEntry) : Prop where
  hosts : ∀ e ∈ entries, parseCanonicalIpLiteral e.host = .ok none
  ids : (entries.map (·.id)).Nodup

theorem checkHost_ok {host : Text} {u : Unit} (h : checkHost host = .ok u) :
    parseCanonicalIpLiteral host = .ok none := by
  unfold checkHost at h
  split at h
  · assumption
  · cases h
  · cases h

theorem validateEntry_host {w : WireEntry} {e : AllowlistEntry} (h : validateEntry w = .ok e) :
    parseCanonicalIpLiteral e.host = .ok none := by
  obtain ⟨_, -, _, -, _, -, _, hhost, h⟩ := bind_ok₄.mp h
  obtain ⟨_, -, _, -, _, -, _, -, h⟩ := bind_ok₄.mp h
  cases h
  exact checkHost_ok hhost

variable {entries : List AllowlistEntry} {entry : AllowlistEntry} {path token : Text}

theorem checkClash_ok {u : Unit} (h : checkClash entries = .ok u) :
    (entries.map (·.id)).Nodup := by
  induction entries with
  | nil => exact List.nodup_nil
  | cons a rest ih =>
      unfold checkClash at h
      cases hfind : rest.find? fun b => a.id = b.id || a.host = b.host with
      | some b =>
          rw [hfind] at h
          dsimp only at h
          split at h
          · cases h
          · cases h
      | none =>
          rw [hfind] at h
          refine List.nodup_cons.mpr ⟨fun hin => ?_, ih h⟩
          obtain ⟨b, hb, heq⟩ := List.mem_map.mp hin
          have hnot := List.find?_eq_none.mp hfind b hb
          exact hnot (by rw [heq]; simp)

theorem exists_of_forall₂ {α β : Type} {r : α → β → Prop} {as : List α} {bs : List β}
    (h : List.Forall₂ r as bs) {b : β} (hb : b ∈ bs) : ∃ a, r a b := by
  induction h with
  | nil => cases hb
  | cons hr _ ih =>
      cases hb with
      | head => exact ⟨_, hr⟩
      | tail _ hb => exact ih hb

theorem loadEntries_loaded {digest : List AllowlistEntry → Except String (List UInt8)}
    {file : AllowlistFile} {d : List UInt8} (h : loadEntries digest file = .ok (entries, d)) :
    Loaded entries := by
  cases file with
  | absent => cases h
  | unreadable kind => cases h
  | schema e => cases h
  | wire schemaId wire =>
      obtain ⟨_, -, _, -, validated, hvalid, _, hclash, h⟩ := bind_ok₄.mp h
      split at h
      · cases h
        refine ⟨fun e he => ?_, checkClash_ok hclash⟩
        obtain ⟨w, hw⟩ := exists_of_forall₂ (mapM_ok.mp hvalid) he
        exact validateEntry_host hw
      · cases h

theorem Loaded.entry_eq {policy : EgressPolicy} (h : Loaded policy.entries) {e : AllowlistEntry}
    (he : e ∈ policy.entries) : policy.entry e.id = some e := by
  unfold EgressPolicy.entry
  cases hfind : policy.entries.find? fun x => decide (x.id = e.id) with
  | none =>
      have hnot := List.find?_eq_none.mp hfind e he
      exact absurd (decide_eq_true rfl) hnot
  | some x =>
      have hid : x.id = e.id := by simpa using List.find?_some hfind
      rw [List.inj_on_of_nodup_map h.ids (List.mem_of_find?_eq_some hfind) he hid]

/-! ## The heads -/

/-- A head of one request line, the entry's host, and three lines that are the worker's own. -/
structure PlainHead (entry : AllowlistEntry) (head : Text) : Prop where
  lines : ∃ token path, (token = "GET".toList ∨ token = "HEAD".toList)
    ∧ (pathInScope entry path = true ∨ path = robotsPath) ∧ head = requestHead token path entry.host
    ∧ (token ++ [' '] ++ path ++ " HTTP/1.1".toList).splitOn ' ' = [token, path, "HTTP/1.1".toList]
    ∧ splitCrlf head = [token ++ [' '] ++ path ++ " HTTP/1.1".toList, "Host: ".toList ++ entry.host,
        "User-Agent: ".toList ++ robotsUa, "Accept-Encoding: identity".toList,
        "Connection: close".toList, [], []]

theorem plain_of_pathInScope (h : pathInScope entry path = true) :
    ∀ c ∈ path, isAsciiControl c = false ∧ c ≠ ' ' := by
  unfold pathInScope at h
  split at h
  · cases h
  · split at h
    · cases h
    · rename_i hbytes
      intro c hc
      have hany : path.any (fun c => isAsciiControl c || c = ' ' || c = '\\') = false :=
        Bool.eq_false_iff.mpr fun hany => hbytes (.inr hany)
      have hnone := List.any_eq_false.mp hany c hc
      simp only [Bool.or_eq_true, decide_eq_true_eq, not_or] at hnone
      exact ⟨Bool.eq_false_iff.mpr hnone.1.1, hnone.1.2⟩

theorem not_mem_cr {s : Text} (h : ∀ c ∈ s, isAsciiControl c = false) : '\r' ∉ s :=
  fun hin => absurd (h _ hin) (by decide)

/-- **The lines of a head** are the ones it was made of. -/
theorem splitCrlf_requestHead {host : Text} (htoken : '\r' ∉ token) (hpath : '\r' ∉ path)
    (hhost : '\r' ∉ host) :
    splitCrlf (requestHead token path host)
      = [token ++ [' '] ++ path ++ " HTTP/1.1".toList, "Host: ".toList ++ host,
        "User-Agent: ".toList ++ robotsUa,
          "Accept-Encoding: identity".toList, "Connection: close".toList, [], []] := by
  have hline : '\r' ∉ token ++ [' '] ++ path ++ " HTTP/1.1".toList := by
    simp only [List.mem_append, not_or]
    exact ⟨⟨⟨htoken, by decide⟩, hpath⟩, by decide⟩
  have hhostLine : '\r' ∉ "Host: ".toList ++ host := by
    rw [List.mem_append, not_or]
    exact ⟨by decide, hhost⟩
  have hend : splitCrlf crlf = [[], []] := by decide
  have hua : '\r' ∉ "User-Agent: ".toList ++ robotsUa := by decide
  have hassoc : requestHead token path host
      = token ++ [' '] ++ path ++ " HTTP/1.1".toList ++ crlf ++ ("Host: ".toList ++ host ++ crlf
        ++ ("User-Agent: ".toList ++ robotsUa ++ crlf ++ ("Accept-Encoding: identity".toList ++ crlf
        ++ ("Connection: close".toList ++ crlf ++ crlf)))) := by
    unfold requestHead
    simp only [List.append_assoc]
  rw [hassoc, splitCrlf_line hline, splitCrlf_line hhostLine, splitCrlf_line hua,
    splitCrlf_line (by decide), splitCrlf_line (by decide), hend]

theorem splitOn_requestLine (htoken : ' ' ∉ token) (hpath : ' ' ∉ path) :
    (token ++ [' '] ++ path ++ " HTTP/1.1".toList).splitOn ' '
    = [token, path, "HTTP/1.1".toList] := by
  have hassoc : token ++ [' '] ++ path ++ " HTTP/1.1".toList
    = token ++ ' ' :: (path ++ ' ' :: "HTTP/1.1".toList) := by
    rw [List.append_assoc, List.append_assoc]
    rfl
  rw [hassoc, List.splitOn_append_cons_self, List.splitOn_append_cons_self,
    List.splitOn_eq_singleton htoken,
    List.splitOn_eq_singleton hpath, List.splitOn_eq_singleton (by decide)]
  rfl

/-- **The head of a request to an entry.** -/
theorem plainHead_requestHead (h : Loaded entries)
    (hentry : entry ∈ entries) {method : Method} (htoken : methodToken method = .ok token)
    (hpath : pathInScope entry path = true ∨ path = robotsPath) :
    PlainHead entry (requestHead token path entry.host) := by
  have hget : token = "GET".toList ∨ token = "HEAD".toList := by
    cases method with
    | get => exact .inl (Except.ok.inj htoken).symm
    | head => exact .inr (Except.ok.inj htoken).symm
    | post => cases htoken
    | other t => cases htoken
  have hplainPath : ∀ c ∈ path, isAsciiControl c = false ∧ c ≠ ' ' := by
    rcases hpath with hscope | rfl
    · exact plain_of_pathInScope hscope
    · have hall : robotsPath.all (fun c => !isAsciiControl c && c != ' ') = true := by decide
      intro c hc
      simpa using List.all_eq_true.mp hall c hc
  have hplainToken : '\r' ∉ token ∧ ' ' ∉ token := by
    rcases hget with rfl | rfl
    · decide
    · decide
  have hhost : '\r' ∉ entry.host :=
    not_mem_cr fun c hc => (plain_of_parseCanonicalIpLiteral (h.hosts entry hentry) c hc).1
  have hspace : ' ' ∉ path := fun hin => (hplainPath _ hin).2 rfl
  have hcr : '\r' ∉ path := not_mem_cr fun c hc => (hplainPath c hc).1
  exact ⟨token, path, hget, hpath, rfl, splitOn_requestLine hplainToken.2 hspace,
    splitCrlf_requestHead hplainToken.1 hcr hhost⟩

/-! ## One hop -/

/-- What is done over the pin of an answer that was given for an entry. -/
structure OverPin (entry : AllowlistEntry) (scheme : Scheme) (addrs : List IpAddr)
    (e : NetEvent) : Prop where
  dial : ∀ addr, e = .dial addr → addr.ip ∈ addrs ∧ addr.port = scheme.requiredPort
  wrote : ∀ head, e = .wrote head → PlainHead entry head

/-- **A hop that stays on the list**: one entry, one answer of the resolver for its host, all of it
public, and every address and every head of the hop is over that. -/
def OnList (entries : List AllowlistEntry) (scheme : Scheme) (events : List NetEvent) : Prop :=
  (∀ e ∈ events, ∃ host answer, e = .resolved host answer)
    ∨ ∃ entry ∈ entries, ∃ addrs, .resolved entry.host (.ok addrs) ∈ events
      ∧ (∀ ip ∈ addrs, isPublicUnicast ip = true) ∧ ∀ e ∈ events, OverPin entry scheme addrs e

theorem fetchOnce_events {σ : Type} {sink : Sink σ} {target : PinnedTarget} {scheme : Scheme}
    {method : Method} {o : Origin} {s : σ} {e : NetEvent}
    (he : e ∈ (fetchOnce sink target scheme method path o s).events) :
    e = .dial target.socketAddr
      ∨ ∃ token, methodToken method = .ok token
      ∧ e = .wrote (requestHead token path target.host) := by
  have hopen : ∀ {x}, x ∈ (openWire target scheme o).1 → x = .dial target.socketAddr := by
    intro x hx
    unfold openWire at hx
    split at hx
    · cases hx
    · dsimp only at hx
      split at hx
      · exact List.mem_singleton.mp hx
      · split at hx
        · exact List.mem_singleton.mp hx
        · split at hx
          · exact List.mem_singleton.mp hx
          · exact List.mem_singleton.mp hx
  unfold fetchOnce at he
  split at he
  · cases he
  · rename_i token htoken
    split at he
    · rename_i events sent received err hwire
      rw [hwire] at hopen
      exact .inl (hopen he)
    · rename_i events sent received hwire
      rw [hwire] at hopen
      have hboth : e ∈ events ++ [.wrote (requestHead token path target.host)] := by
        dsimp only at he
        split at he
        · exact he
        · exact he
      rcases List.mem_append.mp hboth with hin | hin
      · exact .inl (hopen hin)
      · exact .inr ⟨token, htoken, List.mem_singleton.mp hin⟩

section
variable {policy : EgressPolicy} {req : ProxyRequest}

/-- What the gates on the request alone say. -/
structure Admitted (policy : EgressPolicy) (req : ProxyRequest)
    (entry : AllowlistEntry) : Prop where
  hop : req.hop < maxRedirectHops
  literal : ∃ literal, parseCanonicalIpLiteral req.host = .ok literal
  mem : entry ∈ policy.entries
  host : entry.host = toAsciiLowercase req.host
  port : req.port = req.scheme.requiredPort
  path : pathInScope entry req.pathAndQuery = true

theorem earlyGates_ok {entry : AllowlistEntry} (h : policy.earlyGates req = .ok entry) :
    Admitted policy req entry := by
  unfold EgressPolicy.earlyGates at h
  split at h
  · cases h
  · rename_i hhop
    split at h
    · cases h
    · cases h
    · rename_i literal hliteral
      split at h
      · cases h
      · dsimp only at h
        split at h
        · cases h
        · rename_i e hfind
          split at h
          · cases h
          · split at h
            · cases h
            · rename_i hscheme
              have hport : req.port = req.scheme.requiredPort := (not_not.mp hscheme).symm
              have hhost : e.host = toAsciiLowercase req.host := by
                simpa using List.find?_some hfind
              have hadmitted : pathInScope e req.pathAndQuery = true → Admitted policy req e :=
                fun hpath =>
                ⟨Nat.not_le.mp hhop, ⟨literal, hliteral⟩, List.mem_of_find?_eq_some hfind,
                  hhost, hport, hpath⟩
              split at h
              · cases h
              · cases h
              · split at h
                · cases h
                · rename_i hpath
                  cases h
                  exact hadmitted (by simpa using hpath)
              · split at h
                · cases h
                · rename_i hpath
                  cases h
                  exact hadmitted (by simpa using hpath)

variable {s : WorkerState} {a : EvalAnswer}

theorem quiet_of_refused {events : List NetEvent}
    (h : events = [] ∨ ∃ host answer, events = [.resolved host answer]) :
    ∀ e ∈ events, ∃ host answer, e = .resolved host answer := by
  intro e he
  rcases h with rfl | ⟨host, answer, rfl⟩
  · cases he
  · exact ⟨host, answer, List.mem_singleton.mp he⟩

/-- **The events of an evaluation**, and where its pin comes from. -/
theorem evaluate_onList (req : ProxyRequest) (s : WorkerState) (a : EvalAnswer)
    (hload : Loaded policy.entries) :
    OnList policy.entries req.scheme (policy.evaluate s req a).events
      ∧ ∀ id ip port, (policy.evaluate s req a).decision = .allow id ip port →
        req.hop < maxRedirectHops ∧ ∃ entry ∈ policy.entries, ∃ addrs, id = entry.id
        ∧ port = req.scheme.requiredPort
          ∧ pathInScope entry req.pathAndQuery = true ∧ ip ∈ addrs
          ∧ (∀ x ∈ addrs, isPublicUnicast x = true)
          ∧ .resolved entry.host (.ok addrs) ∈ (policy.evaluate s req a).events
          ∧ ∀ e ∈ (policy.evaluate s req a).events, OverPin entry req.scheme addrs e := by
  rcases evaluate_cases policy s req a with ⟨r, hdeny, -, hevents, -⟩
    | ⟨entry, answer, pinned, hearly, hpin, heq⟩
  · refine ⟨.inl (quiet_of_refused hevents), fun id ip port hallow => ?_⟩
    rw [hdeny] at hallow
    cases hallow
  · have hadmitted := earlyGates_ok hearly
    obtain ⟨addrs, rfl, hip, hpublic, hid, hhost, hpinPort⟩ := resolveAndPin_ok hpin
    have hevents : (policy.evaluate s req a).events
        = .resolved entry.host (.ok addrs) :: (askRobots policy s req pinned a).events := by
      rw [heq, afterPin_events]
    have hmem : NetEvent.resolved entry.host (.ok addrs) ∈ (policy.evaluate s req a).events := by
      rw [hevents]
      exact List.mem_cons_self
    have hover : ∀ e ∈ (policy.evaluate s req a).events, OverPin entry req.scheme addrs e := by
      intro e he
      rw [hevents] at he
      rcases List.mem_cons.mp he with rfl | he
      · exact ⟨nofun, nofun⟩
      · rcases fetchOnce_events (askRobots_events he) with rfl | ⟨token, htoken, rfl⟩
        · refine ⟨fun addr haddr => ?_, nofun⟩
          cases haddr
          exact ⟨hip, hpinPort.trans hadmitted.port⟩
        · refine ⟨nofun, fun head hhead => ?_⟩
          cases hhead
          rw [hhost]
          exact plainHead_requestHead hload hadmitted.mem htoken (.inr rfl)
    refine ⟨.inr ⟨entry, hadmitted.mem, addrs, hmem, hpublic, hover⟩, fun id ip port hallow => ?_⟩
    rw [heq] at hallow
    obtain ⟨rfl, rfl, rfl⟩ := afterPin_allow hallow
    exact ⟨hadmitted.hop, entry, hadmitted.mem, addrs, hid, hpinPort.trans hadmitted.port,
      hadmitted.path, hip, hpublic, hmem, hover⟩

end

/-! ## A run -/

theorem hop_onList {σ : Type} {policy : EgressPolicy} (hload : Loaded policy.entries)
    (inner : BodySink σ)
    {req : ProxyRequest} {state : WorkerState} {a : HopAnswer} {id port : Nat} {ip : IpAddr}
    (hallow : (policy.evaluate state req a.eval).decision = .allow id ip port)
    (hentry : policy.entry id = some entry) (ledger : EgressLedger) (s : σ) :
    OnList policy.entries req.scheme ((policy.evaluate state req a.eval).events
      ++ (pageTransfer inner a.debits ⟨id, entry.host, port, ip⟩ req a.page ledger s).events) := by
  obtain ⟨-, e, he, addrs, rfl, rfl, hpath, hip, hpublic, hmem, hover⟩ :=
    (evaluate_onList _ _ _ hload).2 id ip port hallow
  have heq : entry = e := Option.some.inj (hentry.symm.trans (hload.entry_eq he))
  subst heq
  refine .inr ⟨entry, he, addrs, List.mem_append_left _ hmem, hpublic, fun x hx => ?_⟩
  rcases List.mem_append.mp hx with hx | hx
  · exact hover x hx
  · rcases fetchOnce_events hx with rfl | ⟨token, htoken, rfl⟩
    · refine ⟨fun addr haddr => ?_, nofun⟩
      cases haddr
      exact ⟨hip, rfl⟩
    · refine ⟨nofun, fun head hhead => ?_⟩
      cases hhead
      exact plainHead_requestHead hload he htoken (.inl hpath)

theorem nextRequest_hop {prev req : ProxyRequest} {location : Text}
    (h : nextRequest prev location = .ok req) : req.hop = nextHop prev.hop := by
  unfold nextRequest at h
  split at h
  · cases h
  · split at h
    · cases h
    · split at h
      · split at h
        · cases h
        · cases h
          rfl
      · split at h
        · cases h
        · dsimp only at h
          split at h
          · cases h
          · split at h
            · cases h
            · split at h
              · cases h
              · cases h
                rfl

/-- The pages that a run asks for. -/
def Run.pages {σ : Type} (run : Run σ) : Nat := run.hops.countP fun hop => hop.pageEvents.isSome

/-- A run from a request stays on the list, and asks for no more pages than it may. -/
structure Stays {σ : Type} (policy : EgressPolicy) (req : ProxyRequest) (run : Run σ) : Prop where
  onList : ∀ hop ∈ run.hops, OnList policy.entries hop.req.scheme hop.events
  pages : run.pages ≤ maxRedirectHops - req.hop

section
variable {σ : Type} {policy : EgressPolicy} {req : ProxyRequest} {events page : List NetEvent}
  {state : WorkerState} {s : σ} {result : Except FetchError FetchOutcome}

theorem Stays.refused (h : OnList policy.entries req.scheme events) :
    Stays policy req ⟨[⟨req, events, none⟩], state, s, result⟩ := by
  refine ⟨fun hop hhop => ?_, Nat.zero_le _⟩
  rw [List.mem_singleton.mp hhop, Hop.events, Option.getD_none, List.append_nil]
  exact h

theorem Stays.last (hhop : req.hop < maxRedirectHops)
    (h : OnList policy.entries req.scheme (events ++ page)) :
    Stays policy req ⟨[⟨req, events, some page⟩], state, s, result⟩ := by
  refine ⟨fun hop hmem => ?_, Nat.sub_pos_of_lt hhop⟩
  rw [List.mem_singleton.mp hmem]
  exact h

theorem Stays.cons (hhop : req.hop < maxRedirectHops)
    (h : OnList policy.entries req.scheme (events ++ page))
    {next : ProxyRequest} (hnext : next.hop = nextHop req.hop) {run : Run σ}
    (hrun : Stays policy next run) :
    Stays policy req { run with hops := ⟨req, events, some page⟩ :: run.hops } := by
  refine ⟨fun hop hmem => ?_, ?_⟩
  · rcases List.mem_cons.mp hmem with rfl | hmem
    · exact h
    · exact hrun.onList hop hmem
  · have hpages := hrun.pages
    unfold Run.pages at hpages ⊢
    rw [List.countP_cons_of_pos rfl]
    rw [hnext] at hpages
    unfold nextHop at hpages
    unfold maxRedirectHops at *
    omega

end

/-- **Every run returns, and stays on the list.** -/
theorem fetchWithRedirects_stays {σ : Type} {policy : EgressPolicy} (hload : Loaded policy.entries)
    (inner : BodySink σ) (fuel : Nat) :
    ∀ (answers : Nat → HopAnswer) (req : ProxyRequest) (state : WorkerState) (s : σ),
    0 < fuel → maxRedirectHops < req.hop + fuel →
      ∃ run, fetchWithRedirects policy inner fuel answers req state s = some run
      ∧ Stays policy req run := by
  -- on the fuel; each hop that goes on takes one of it and one of the hops
  induction fuel with
  | zero => nofun
  | succ fuel ih =>
      intro answers req state s _ hfuel
      unfold fetchWithRedirects
      dsimp only
      obtain ⟨hquiet, hpinned⟩ :=
        evaluate_onList req state (answers 0).eval hload
      split
      · exact ⟨_, rfl, .refused hquiet⟩
      · rename_i id ip port hallow
        have hhop := (hpinned id ip port hallow).1
        split
        · exact ⟨_, rfl, .refused hquiet⟩
        · rename_i entry hentry
          have honlist :=
            hop_onList hload inner hallow hentry
              (policy.evaluate state req (answers 0).eval).state.ledger s
          split
          · exact ⟨_, rfl, .last hhop honlist⟩
          · split
            · exact ⟨_, rfl, .last hhop honlist⟩
            · split
              · exact ⟨_, rfl, .last hhop honlist⟩
              · split
                · exact ⟨_, rfl, .last hhop honlist⟩
                · rename_i next hnext
                  have hstep := nextRequest_hop hnext
                  have hfuel' : 0 < fuel ∧ maxRedirectHops < next.hop + fuel := by
                    rw [hstep]
                    unfold nextHop
                    unfold maxRedirectHops at *
                    omega
                  obtain ⟨run, hrun, hstays⟩ := ih _ next _ _ hfuel'.1 hfuel'.2
                  rw [hrun]
                  exact ⟨_, rfl, .cons hhop honlist hstep hstays⟩

/-- **Pinned, allowlisted egress through redirects.** Under every list that loads, whatever the
request, the resolver, the origins and the clock, a run returns; each of its hops dials only
addresses of one answer for the host of one entry, all of it public, on the port of its scheme, and
writes only plain heads for that entry; and it asks for at most three pages. -/
theorem egress_pinned {σ : Type} (digest : List AllowlistEntry → Except String (List UInt8))
    (file : AllowlistFile)
    (entries : List AllowlistEntry) (d : List UInt8)
    (hload : loadEntries digest file = .ok (entries, d))
    (ttlSecs : Nat) (inner : BodySink σ) (answers : Nat → HopAnswer) (initial : ProxyRequest)
    (state : WorkerState) (s : σ) :
    ∃ run, fetchWithRedirects ⟨entries, ttlSecs⟩ inner (maxRedirectHops + 1) answers initial state s
    = some run
      ∧ (∀ hop ∈ run.hops, OnList entries hop.req.scheme hop.events)
      ∧ run.pages ≤ maxRedirectHops := by
  have hpolicy : Loaded (⟨entries, ttlSecs⟩ : EgressPolicy).entries := loadEntries_loaded hload
  obtain ⟨run, hrun, hstays⟩ :=
    fetchWithRedirects_stays hpolicy inner (maxRedirectHops + 1) answers initial state s
    (Nat.succ_pos _) (by omega)
  exact ⟨run, hrun, hstays.onList, hstays.pages.trans (Nat.sub_le _ _)⟩

/-! ## A sample -/

def sampleFile : AllowlistFile :=
  .wire allowlistSchemaId [⟨1, "a.test".toList, "exact".toList, "whole_origin".toList, [], 1000⟩]

def sampleEntry : AllowlistEntry := ⟨1, "a.test".toList, .exact, .wholeOrigin, [], 1000⟩

theorem sampleFile_loads : loadEntries (fun _ => .ok []) sampleFile = .ok ([sampleEntry], []) := by
  have hsort : (([] : List Text).mergeSort fun a b => decide (a ≤ b)).dedup = [] := by
    rw [List.mergeSort_nil, List.dedup_nil]
  have hentry : validateEntry ⟨1, "a.test".toList, "exact".toList, "whole_origin".toList, [], 1000⟩
      = .ok ⟨1, "a.test".toList, .exact, .wholeOrigin,
          (([] : List Text).mergeSort fun a b => decide (a ≤ b)).dedup, 1000⟩ := rfl
  rw [hsort] at hentry
  unfold loadEntries sampleFile
  dsimp only
  rw [List.mapM_cons, hentry]
  rfl

/-- An origin that lets everything through and answers so. -/
def answering (arrivals : List Arrival) : Origin :=
  ⟨false, none, true, none, 0, 0, none, 0, 0, arrivals, none⟩

/-- The shortest answer that says there are no rules. -/
def noRules : Arrival := ⟨[32, 52, 48, 52, 13, 10, 13, 10], 0, by decide⟩

/-- What the sample's host resolves to. -/
def samplePin : IpAddr := .v4 ⟨93, 184, 216, 34⟩

def sampleEval (ms : Nat) : EvalAnswer :=
  ⟨some (.ok [samplePin]), ms, ⟨answering [noRules], ms / 1000, none⟩, ms, ms⟩

def sampleRequest : ProxyRequest := ⟨.http, .get, "A.test".toList, 80, "/x".toList, 0⟩

/-- A day's first byte, with or without a surface that is seen. -/
def sampleState (live : Bool) : WorkerState := ⟨∅, ∅, .new .absent 0, ⟨live, 5, false⟩⟩

/-- A consumer that takes everything. -/
def anyBody : BodySink Unit := ⟨fun s _ => (s, none)⟩

/-- Every page is moved to another host. -/
def sampleHop : HopAnswer where
  eval := sampleEval 6000
  page := answering
    [⟨" 302\r\nLocation:http://b.test/\r\n\r\n".toList.map fun c => UInt8.ofNat c.toNat,
    0, by decide⟩]
  debits := ⟨fun _ => 6, fun _ => none⟩

theorem egress_pinned_moved :
    loadEntries (fun _ => .ok []) sampleFile = .ok ([sampleEntry], [])
      ∧ ∃ run, fetchWithRedirects ⟨[sampleEntry], 3600⟩ anyBody (maxRedirectHops + 1)
        (fun _ => sampleHop) sampleRequest
          (sampleState true) () = some run
        ∧ (∀ hop ∈ run.hops, OnList [sampleEntry] hop.req.scheme hop.events)
        ∧ run.pages ≤ maxRedirectHops :=
  ⟨sampleFile_loads,
    egress_pinned _ sampleFile _ _ sampleFile_loads 3600 anyBody _ sampleRequest _ ()⟩

end GoatCoin.Worker
