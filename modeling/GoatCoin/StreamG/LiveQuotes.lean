/-
# `GoatCoin.StreamG.LiveQuotes` — one live quote for an intent

The quotes of one intent of one profile are cut in turn:

    row of the intent ──▶ the last of its quotes        [ a )──[ b )────[ last )

A new one is stored only if the last had ended when the clock was read.  A clock that was read long
ago, or runs backwards, can only refuse.
-/
import GoatCoin.Lib.Turns
import GoatCoin.StreamG.QuoteDesk

namespace GoatCoin.StreamG.Quotes

open Evm Rows Turns

/-! ## In turn -/

/-- The quotes of an intent of a profile, as they were stored. -/
def QuoteStore.quotesOf (s : QuoteStore) (k : IntentRowId) : List QuoteRow :=
  s.rows.filter fun q => q.payload.profileId = k.profileId ∧ QuotedFor q.payload k.intentId

def QuoteRow.start (q : QuoteRow) : Nat := q.payload.quote.validAfter.val

def QuoteRow.stop (q : QuoteRow) : Nat := q.payload.quote.validUntil.val

/-- The row of an intent names the last of its quotes, and they were cut in turn. -/
structure Kept (s : QuoteStore) : Prop where
  ids : (s.rows.map (·.id)).Nodup
  expires : ∀ q ∈ s.rows, q.expiresAt = q.stop
  named : ∀ k, s.priorQuoteId k = (s.quotesOf k).getLast?.map (·.id)
  turns : ∀ k, InTurn QuoteRow.start QuoteRow.stop (s.quotesOf k)
  columns : s.columns.map (·.id) = s.db.intents.map (·.id)
  intents : (s.db.intents.map (·.id)).Nodup

section
variable {s s' : QuoteStore} {p : PreparedQuote}

theorem quotesOf_congr (h : s'.rows = s.rows) (k : IntentRowId) : s'.quotesOf k = s.quotesOf k := by
  unfold QuoteStore.quotesOf
  rw [h]

theorem Kept.congr (h : Kept s) (hrows : s'.rows = s.rows) (hcolumns : s'.columns = s.columns)
    (hintents : s'.db.intents.map (·.id) = s.db.intents.map (·.id)) : Kept s' := by
  have hprior : ∀ k, s'.priorQuoteId k = s.priorQuoteId k := by
    intro k
    unfold QuoteStore.priorQuoteId
    rw [hcolumns]
  refine ⟨hrows ▸ h.ids, hrows ▸ h.expires, fun k => ?_, fun k => ?_, ?_, hintents ▸ h.intents⟩
  · rw [hprior, quotesOf_congr hrows]
    exact h.named k
  · rw [quotesOf_congr hrows]
    exact h.turns k
  · rw [hcolumns, hintents]
    exact h.columns

/-- The quotes of the intents, with a new one. -/
theorem Stores.quotesOf (hs : Stores s p s') (hc : Cut p) (k : IntentRowId) :
    s'.quotesOf k = s.quotesOf k ++ if k = p.intentRow then [p.row] else [] := by
  unfold QuoteStore.quotesOf
  rw [hs.rows, List.filter_append]
  congr 1
  by_cases hk : k = p.intentRow
  · subst hk
    rw [if_pos rfl]
    refine List.filter_eq_self.mpr fun q hq => ?_
    rw [List.mem_singleton.mp hq]
    exact decide_eq_true ⟨hc.owner, hc.intent⟩
  · rw [if_neg hk]
    refine List.filter_eq_nil_iff.mpr fun q hq hp => ?_
    rw [List.mem_singleton.mp hq] at hp
    obtain ⟨howner, hintent⟩ := of_decide_eq_true hp
    have hprofile : k.profileId = p.profileId := howner.symm.trans hc.owner
    have hintentId : k.intentId = p.intentId := quotedFor_unique hintent hc.intent
    exact hk (by rw [PreparedQuote.intentRow, ← hprofile, ← hintentId])

theorem Stores.priorQuoteId (hs : Stores s p s') (h : Kept s) (k : IntentRowId) :
    s'.priorQuoteId k = if k = p.intentRow then some p.quoteRowId else s.priorQuoteId k := by
  unfold QuoteStore.priorQuoteId
  cases hs.claims with
  | first new intents columns =>
      have hnone : s.columns.find? (fun c => c.id = p.intentRow) = none := by
        refine List.find?_eq_none.mpr fun c hc hid => ?_
        have hmem : p.intentRow ∈ s.db.intents.map (·.id) :=
          h.columns ▸ List.mem_map.mpr ⟨c, hc, of_decide_eq_true hid⟩
        obtain ⟨i, hi, hid⟩ := List.mem_map.mp hmem
        exact new i hi hid
      rw [columns, List.find?_append]
      by_cases hk : k = p.intentRow
      · subst hk
        rw [if_pos rfl, hnone, Option.none_or,
          List.find?_cons_of_pos (by simp [PreparedQuote.columns])]
        rfl
      · have hne : ¬ p.columns.id = k := fun heq => hk heq.symm
        rw [if_neg hk, List.find?_cons_of_neg (by simpa using hne), List.find?_nil, Option.or_none]
  | again there ended intents columns =>
      obtain ⟨i, hi, hid⟩ := there
      have hmem : p.intentRow ∈ s.columns.map (·.id) := h.columns ▸ List.mem_map.mpr ⟨i, hi, hid⟩
      obtain ⟨c, hc, hcid⟩ := List.mem_map.mp hmem
      rw [columns, find?_setWhere IntentColumns.id (f := fun _ => p.columns) (x := p.intentRow)
        (fun _ _ => rfl) k]
      by_cases hk : k = p.intentRow
      · rw [if_pos hk, if_pos hk]
        cases hfind : s.columns.find? fun c => c.id = p.intentRow with
        | none => exact absurd (decide_eq_true hcid) (List.find?_eq_none.mp hfind c hc)
        | some found => rfl
      · rw [if_neg hk, if_neg hk]

theorem find?_quotes (h : Kept s) {q : QuoteRow} (hq : q ∈ s.quotes) :
    s.quotes.find? (fun r => r.id = q.id) = some q := by
  have hids := h.ids
  unfold QuoteStore.rows at hids
  rw [List.map_map] at hids
  exact find?_of_mem QuoteRow.id hids hq

/-- **When the quote of an intent ends**: the last of them all. -/
theorem priorExpiresAt_eq (h : Kept s) (k : IntentRowId) :
    s.priorExpiresAt k = (s.quotesOf k).getLast?.map fun q => (q.stop : Int) := by
  unfold QuoteStore.priorExpiresAt
  rw [h.named]
  cases hlast : (s.quotesOf k).getLast? with
  | none => rfl
  | some last =>
      have hmem : last ∈ s.rows := (List.mem_filter.mp (List.mem_of_getLast? hlast)).1
      obtain ⟨q, hq, rfl⟩ := List.mem_map.mp hmem
      rw [Option.map_some, Option.bind_some,
        show s.quotes.find? (fun r => r.id = q.stamped.id) = some q from
        find?_quotes h hq, Option.map_some, Option.map_some]
      exact congrArg some (h.expires q.stamped hmem)

theorem priorExpiresAt_insert (h : Kept s) (k : IntentRowId) :
    QuoteStore.priorExpiresAt { s with quotes := s.quotes ++ [p.row] } k = s.priorExpiresAt k := by
  show (s.priorQuoteId k).bind
    (fun quoteId => ((s.quotes ++ [p.row]).find? fun q => q.id = quoteId).map (·.expiresAt)) = _
  unfold QuoteStore.priorExpiresAt
  rw [h.named]
  cases hlast : (s.quotesOf k).getLast? with
  | none => rfl
  | some last =>
      have hmem : last ∈ s.rows := (List.mem_filter.mp (List.mem_of_getLast? hlast)).1
      obtain ⟨q, hq, rfl⟩ := List.mem_map.mp hmem
      rw [Option.map_some, Option.bind_some, Option.bind_some, List.find?_append,
        show s.quotes.find? (fun r => r.id = q.stamped.id) = some q from find?_quotes h hq,
        Option.some_or]

/-- **The last quote of the intent had ended.** -/
theorem Stores.after_last (hs : Stores s p s') (h : Kept s) (hc : Cut p) :
    ∀ last ∈ (s.quotesOf p.intentRow).getLast?, last.stop ≤ p.row.start := by
  intro last hlast
  cases hs.claims with
  | first new intents columns =>
      -- an intent that has a quote has a row
      have hnamed : s.priorQuoteId p.intentRow = some last.id := by
        rw [h.named, hlast]
        rfl
      unfold QuoteStore.priorQuoteId at hnamed
      obtain ⟨c, hfind, -⟩ := Option.bind_eq_some_iff.mp hnamed
      have hid := List.find?_some hfind
      have hrow : p.intentRow ∈ s.db.intents.map (·.id) :=
        h.columns ▸ List.mem_map.mpr ⟨c, List.mem_of_find?_eq_some hfind, of_decide_eq_true hid⟩
      obtain ⟨i, hi, hid⟩ := List.mem_map.mp hrow
      exact absurd hid (new i hi)
  | again there ended intents columns =>
      obtain ⟨exp, hexp, hle⟩ := ended
      rw [priorExpiresAt_insert h, priorExpiresAt_eq h, hlast] at hexp
      cases hexp
      dsimp only at hle
      have hstart : p.row.start = p.chainNow.val := congrArg Fin.val hc.start
      omega

theorem superseded_ids {rows rows' : List IntentRow} {touched : IntentRow → Prop}
    [DecidablePred touched] {expiresAt : Option Int}
    (h : rows'
      = setWhere touched (fun i => { i with status := .pending, expiresAt := expiresAt }) rows) :
    rows'.map (·.id) = rows.map (·.id) := by
  rw [h]
  exact map_setWhere _ fun _ => rfl

/-- **A new quote keeps the turns.** -/
theorem Kept.stores (h : Kept s) (hc : Cut p) (hs : Stores s p s') : Kept s' := by
  refine ⟨?_, ?_, fun k => ?_, fun k => ?_, ?_, ?_⟩
  · rw [hs.rows, List.map_append]
    refine List.nodup_append.mpr ⟨h.ids, List.nodup_singleton _, ?_⟩
    intro id hid id' hid' heq
    obtain ⟨q, hq, rfl⟩ := List.mem_map.mp hid
    obtain ⟨q', hq', rfl⟩ := List.mem_map.mp hq
    rw [List.mem_singleton.mp hid'] at heq
    exact hs.new q' hq' heq
  · intro q hq
    rw [hs.rows] at hq
    rcases List.mem_append.mp hq with hold | hnew
    · exact h.expires q hold
    · rw [List.mem_singleton.mp hnew]
      rfl
  · rw [hs.priorQuoteId h, hs.quotesOf hc]
    by_cases hk : k = p.intentRow
    · rw [if_pos hk, if_pos hk, List.getLast?_concat]
      rfl
    · rw [if_neg hk, if_neg hk, List.append_nil]
      exact h.named k
  · rw [hs.quotesOf hc]
    by_cases hk : k = p.intentRow
    · subst hk
      rw [if_pos rfl]
      exact (h.turns _).snoc hc.opens (hs.after_last h hc)
    · rw [if_neg hk, List.append_nil]
      exact h.turns k
  · cases hs.claims with
    | first new intents columns =>
        rw [columns, intents, List.map_append, List.map_append, h.columns]
        rfl
    | again there ended intents columns =>
        rw [superseded_ids intents, columns, ← h.columns]
        exact map_setWhere_of IntentColumns.id fun c hid => hid.symm
  · cases hs.claims with
    | first new intents columns =>
        rw [intents, List.map_append]
        refine List.nodup_append.mpr ⟨h.intents, List.nodup_singleton _, ?_⟩
        intro id hid id' hid' heq
        obtain ⟨i, hi, rfl⟩ := List.mem_map.mp hid
        rw [List.mem_singleton.mp hid'] at heq
        exact new i hi heq
    | again there ended intents columns =>
        rw [superseded_ids intents]
        exact h.intents

end

/-! ## Every run -/

/-- The desk, and what it has handed out: every quote is a row, under the key it was asked with, and
every row was handed out to the request that has cut it. -/
structure DeskKept (d : Desk) : Prop where
  store : Kept d.store
  pending : ∀ p, some p ∈ d.pending → Cut p
  released : ∀ r ∈ d.released, ∃ q ∈ d.store.rows, q.id = r.asked.quoteRowId ∧ q.payload = r.payload
    ∧ r.payload.profileId = r.asked.profileId ∧ r.payload.bodyHash = r.asked.payload.bodyHash
    ∧ QuotedFor r.payload r.asked.intentId
  made : ∀ q ∈ d.store.rows, ∃ r ∈ d.released, r.asked.payload = q.payload ∧ r.payload = q.payload
    ∧ r.asked.profileId = q.payload.profileId

theorem Stores.mem_row {s s' : QuoteStore} {p : PreparedQuote}
    (hs : Stores s p s') : p.row ∈ s'.rows := by
  rw [hs.rows]
  exact List.mem_append_right _ List.mem_cons_self

theorem DeskKept.replayed {d d' : Desk} (h : DeskKept d) (hstore : Kept d'.store)
    (hrows : d'.store.rows = d.store.rows) (hpending : ∀ p, some p ∈ d'.pending → Cut p)
    (hreleased : ∀ r ∈ d'.released, r ∈ d.released ∨ ∃ q ∈ d.store.rows, q.id = r.asked.quoteRowId
      ∧ q.payload = r.payload ∧ r.payload.profileId = r.asked.profileId
      ∧ r.payload.bodyHash = r.asked.payload.bodyHash ∧ QuotedFor r.payload r.asked.intentId)
    (hgrows : ∀ r ∈ d.released, r ∈ d'.released) : DeskKept d' := by
  refine ⟨hstore, hpending, fun r hr => ?_, fun q hq => ?_⟩
  · rw [hrows]
    rcases hreleased r hr with hold | hrow
    · exact h.released r hold
    · exact hrow
  · rw [hrows] at hq
    obtain ⟨r, hr, hmade⟩ := h.made q hq
    exact ⟨r, hgrows r hr, hmade⟩

/-- **The transaction of a request keeps the desk.** -/
theorem DeskKept.answer {d : Desk} (h : DeskKept d) {i : Nat} {p : PreparedQuote}
    (hp : d.pending[i]? = some (some p)) : DeskKept (d.answer i p) := by
  have hc : Cut p := h.pending p (List.mem_of_getElem? hp)
  have hpending : ∀ p', some p' ∈ d.pending.set i none → Cut p' := by
    intro p' hp'
    rcases List.mem_or_eq_of_mem_set hp' with hold | hnone
    · exact h.pending p' hold
    · cases hnone
  unfold Desk.answer commitQuote
  cases htx : quoteTx d.store p with
  | error e => exact h.replayed h.store rfl hpending (fun r hr => .inl hr) fun r hr => hr
  | ok result =>
      obtain ⟨s', outcome⟩ := result
      cases commits_of_ok htx with
      | fresh stores =>
          refine ⟨h.store.stores hc stores, hpending, fun r hr => ?_, fun q hq => ?_⟩
          · rcases List.mem_append.mp hr with hold | hnew
            · obtain ⟨q, hq, hrow⟩ := h.released r hold
              exact ⟨q, stores.rows ▸ List.mem_append_left _ hq, hrow⟩
            · rw [List.mem_singleton.mp hnew]
              exact ⟨p.row, stores.mem_row, rfl, rfl, hc.owner, rfl, hc.intent⟩
          · have hq : q ∈ d.store.rows ++ [p.row] := stores.rows ▸ hq
            rcases List.mem_append.mp hq with hold | hnew
            · obtain ⟨r, hr, hmade⟩ := h.made q hold
              exact ⟨r, List.mem_append_left _ hr, hmade⟩
            · rw [List.mem_singleton.mp hnew]
              exact ⟨⟨p, p.payload⟩, List.mem_append_right _ List.mem_cons_self, rfl,
                rfl, hc.owner.symm⟩
      | replay row there id body owner =>
          refine h.replayed h.store rfl hpending (fun r hr => ?_) fun r hr =>
            List.mem_append_left _ hr
          rcases List.mem_append.mp hr with hold | hnew
          · exact .inl hold
          · rw [List.mem_singleton.mp hnew]
            refine .inr ⟨row.stamped, List.mem_map_of_mem there, id, rfl, owner, body, ?_⟩
            -- the same body is about the same intent
            show _ <+: row.payload.bodyHash
            rw [body]
            exact hc.intent
      | expires row there id ended =>
          have hrows : (d.store.markExpired p.quoteRowId).rows = d.store.rows :=
            map_setWhere _ fun _ => rfl
          exact h.replayed (h.store.congr hrows rfl rfl) hrows hpending
            (fun r hr => .inl hr) fun r hr => hr

/-- **Every step keeps the desk.** -/
theorem deskKept_next (d : Desk) (e : Event) (h : DeskKept d) : DeskKept (d.next e) := by
  have hledger : ∀ t : Transaction, (∀ intents, t ≠ .quotes intents) →
      DeskKept { d with
                 store := { d.store with db := (d.ledger.next t).db }, jobs :=
    (d.ledger.next t).jobs } := by
    intro t ht
    have hids := restated_ids (next_restated d.ledger ht)
    exact h.replayed (h.store.congr rfl rfl hids) rfl h.pending (fun r hr => .inl hr) fun r hr => hr
  cases e with
  | ask call =>
      unfold Desk.next
      dsimp only
      split
      · rename_i p hprepare
        refine h.replayed h.store rfl (fun p' hp' => ?_) (fun r hr => .inl hr) fun r hr => hr
        rcases List.mem_append.mp hp' with hold | hnew
        · exact h.pending p' hold
        · cases List.mem_singleton.mp hnew
          exact prepare_cut hprepare
      · exact h
  | commit i =>
      unfold Desk.next
      dsimp only
      split
      · rename_i p hp
        exact h.answer hp
      · exact h
  | ledger t =>
      cases t with
      | quotes intents => exact h
      | reserve req signed now => exact hledger _ nofun
      | record claimOwner attemptId txHash now => exact hledger _ nofun
      | claim policy now => exact hledger _ nofun
      | observe log candidates => exact hledger _ nofun
      | job i told => exact hledger _ nofun

theorem deskKept_initial : DeskKept Desk.initial := by
  have hnone : ∀ {α : Type} {P : α → Prop}, ∀ x ∈ ([] : List α), P x :=
    fun x hx => absurd hx List.not_mem_nil
  exact ⟨⟨List.nodup_nil, hnone, fun k => rfl, fun k => inTurn_nil, rfl, List.nodup_nil⟩,
    fun p hp => absurd hp List.not_mem_nil,
    hnone, hnone⟩

/-- The quote may be used at the time `t`. -/
def QuotePayload.OpenAt (q : QuotePayload) (t : Nat) : Prop :=
  q.quote.validAfter.val ≤ t ∧ t < q.quote.validUntil.val

/-- What holds of everything that was handed out. -/
structure OneLiveQuote (d : Desk) : Prop where
  same : ∀ r ∈ d.released, ∀ r' ∈ d.released, r.asked.profileId = r'.asked.profileId →
    r.asked.idempotencyKey = r'.asked.idempotencyKey →
      r.payload = r'.payload ∧ r.asked.payload.bodyHash = r'.asked.payload.bodyHash
  apart : ∀ r ∈ d.released, ∀ r' ∈ d.released, r.asked.profileId = r'.asked.profileId →
    r.asked.intentId = r'.asked.intentId → r.payload ≠ r'.payload →
      ∀ t, r.payload.OpenAt t → ¬ r'.payload.OpenAt t
  owner : ∀ r ∈ d.released, r.payload.profileId = r.asked.profileId
    ∧ ∃ made ∈ d.released, made.asked.payload = r.payload ∧ made.payload = r.payload
      ∧ made.asked.profileId = r.asked.profileId

theorem DeskKept.oneLiveQuote {d : Desk} (h : DeskKept d) : OneLiveQuote d := by
  have hunique : ∀ q ∈ d.store.rows, ∀ q' ∈ d.store.rows, q.id = q'.id → q = q' :=
    fun q hq q' hq' hid => List.inj_on_of_nodup_map h.store.ids hq hq' hid
  refine ⟨?_, ?_, ?_⟩
  · intro r hr r' hr' hprofile hkey
    obtain ⟨q, hq, hid, hpayload, -, hbody, -⟩ := h.released r hr
    obtain ⟨q', hq', hid', hpayload', -, hbody', -⟩ := h.released r' hr'
    have hids : q.id = q'.id := by
      rw [hid, hid', PreparedQuote.quoteRowId, PreparedQuote.quoteRowId, hprofile, hkey]
    obtain rfl := hunique q hq q' hq' hids
    have hsame := hpayload.symm.trans hpayload'
    exact ⟨hsame, hbody.symm.trans ((congrArg QuotePayload.bodyHash hsame).trans hbody')⟩
  · rintro r hr r' hr' hprofile hintent hne t ⟨hstart, hstop⟩ ⟨hstart', hstop'⟩
    obtain ⟨q, hq, -, hpayload, howner, -, hquoted⟩ := h.released r hr
    obtain ⟨q', hq', -, hpayload', howner', -, hquoted'⟩ := h.released r' hr'
    have hmem : q ∈ d.store.quotesOf ⟨r.asked.profileId, r.asked.intentId⟩ :=
      List.mem_filter.mpr ⟨hq, decide_eq_true (hpayload ▸ ⟨howner, hquoted⟩)⟩
    have hmem' : q' ∈ d.store.quotesOf ⟨r.asked.profileId, r.asked.intentId⟩ :=
      List.mem_filter.mpr
        ⟨hq', decide_eq_true (hpayload' ▸ ⟨howner'.trans hprofile.symm, hintent ▸ hquoted'⟩)⟩
    rcases (h.store.turns _).apart hmem hmem' with rfl | hbefore | hafter
    · exact hne (hpayload.symm.trans hpayload')
    · unfold QuoteRow.stop QuoteRow.start at hbefore
      rw [hpayload, hpayload'] at hbefore
      omega
    · unfold QuoteRow.stop QuoteRow.start at hafter
      rw [hpayload, hpayload'] at hafter
      omega
  · intro r hr
    obtain ⟨q, hq, -, hpayload, howner, -, -⟩ := h.released r hr
    obtain ⟨made, hmade, hcut, hsame, hprofile⟩ := h.made q hq
    rw [hpayload] at hcut hsame hprofile
    exact ⟨howner, made, hmade, hcut, hsame, hprofile.trans howner⟩

/-- **A request that fails** writes nothing, but that a quote that has ended is marked so. -/
def QuietFailure (d : Desk) : Event → Prop
  | .ask call => (d.next (.ask call)).store = d.store
  | .commit i => ∀ p, d.pending[i]? = some (some p) → (∃ e, (commitQuote d.store p).2 = .error e) →
      (d.next (.commit i)).store = d.store ∨
        (d.next (.commit i)).store = d.store.markExpired p.quoteRowId
          ∧ ∃ row ∈ d.store.quotes, row.id = p.quoteRowId
          ∧ row.payload.quote.validUntil.val ≤ p.chainNow.val
  | .ledger _ => True

theorem quietFailure (d : Desk) (e : Event) : QuietFailure d e := by
  cases e with
  | ask call =>
      show (d.next (.ask call)).store = d.store
      unfold Desk.next
      dsimp only
      split
      · rfl
      · rfl
  | commit i =>
      rintro p hp ⟨e, he⟩
      rw [Desk.next_commit hp]
      unfold Desk.answer
      dsimp only
      unfold commitQuote at he ⊢
      cases htx : quoteTx d.store p with
      | error e' => exact .inl rfl
      | ok result =>
          obtain ⟨s', outcome⟩ := result
          rw [htx] at he
          cases commits_of_ok htx with
          | fresh stores => cases he
          | replay row there id body owner => cases he
          | expires row there id ended => exact .inr ⟨rfl, row, there, id, ended⟩
  | ledger t => trivial

/-- **One live quote for an intent**, in every run of requests and of the outbox: a key has one
quote and one body, two quotes of an intent are never open at once, no quote goes to another
profile, and a request that fails writes nothing. -/
theorem one_live_quote (es : List Event) :
    Runs.Throughout Desk.next OneLiveQuote Desk.initial es
    ∧ Runs.Guarded Desk.next QuietFailure Desk.initial es := by
  refine ⟨fun before _ => ?_, fun before e _ => quietFailure _ e⟩
  exact (Runs.invariant deskKept_next before Desk.initial deskKept_initial).oneLiveQuote

end GoatCoin.StreamG.Quotes
