/-
# `GoatCoin.Worker.BodyDecoding` — the body of a response, and what its reader makes of it

A body is said here of the whole stream at once:

    length n    its first n bytes
    to the end  all of it
    chunked     size line, data, line end, and so on to the empty chunk and the trailers

The reader takes the stream in pieces as they come.  `BodyRest r` is what a reader has yet to read,
and a piece that the reader takes can be put before it; so what reached the sink when the reader is
done is the body, however the stream was cut.
-/
import GoatCoin.Worker.Fetch
import Mathlib.Tactic

namespace GoatCoin.Worker

open Text

/-! ## The grammar -/

/-- Lines up to a blank one. -/
inductive Trailers : List UInt8 → Prop
  | blank {line rest : List UInt8} : line.all (· = 13) = true → Trailers (line ++ 10 :: rest)
  | line {line rest : List UInt8} : 10 ∉ line → Trailers rest → Trailers (line ++ 10 :: rest)

/-- The end of the line after a chunk's data. -/
def LineEnd (sep : List UInt8) : Prop := sep = [10] ∨ sep = [13, 10]

/-- A stream that begins with a chunked body. -/
inductive Chunked : List UInt8 → List UInt8 → Prop
  | last {line rest : List UInt8} : 10 ∉ line → chunkSize line = some 0 → Trailers rest →
      Chunked (line ++ 10 :: rest) []
  | chunk {line data sep rest body : List UInt8} : 10 ∉ line → chunkSize line = some data.length →
    data ≠ [] →
      LineEnd sep → Chunked rest body →
      Chunked (line ++ 10 :: (data ++ (sep ++ rest))) (data ++ body)

/-- The body of a stream, by its framing. -/
def DecodesTo (framing : BodyFraming) (wire body : List UInt8) : Prop :=
  match framing with
  | .length n => body = wire.take n ∧ n ≤ wire.length
  | .toEof => body = wire
  | .chunked => Chunked wire body

/-! ## What is yet to be read -/

/-- What a decoder in a phase has yet to read. -/
def ChunkRest : ChunkPhase → List UInt8 → List UInt8 → Prop
  | .size line, wire, body => Chunked (line ++ wire) body
  | .data left, wire, body =>
      ∃ data sep rest body', data.length = left ∧ LineEnd sep ∧ wire = data ++ (sep ++ rest)
        ∧ Chunked rest body'
        ∧ body = data ++ body'
  | .afterData seen, wire, body =>
      ∃ sep rest, (sep = [10] ∨ (seen = 0 ∧ sep = [13, 10])) ∧ wire = sep ++ rest
        ∧ Chunked rest body
  | .trailer line, wire, body => Trailers (line ++ wire) ∧ body = []
  | .done, _, body => body = []

def BodyRest (r : BodyReader) (wire body : List UInt8) : Prop :=
  match r.framing with
  | .length _ => body = wire.take r.remaining ∧ r.remaining ≤ wire.length
  | .toEof => body = wire
  | .chunked => ChunkRest r.phase wire body

theorem bodyRest_new (framing : BodyFraming) {wire body : List UInt8}
    (h : BodyRest (BodyReader.new framing) wire body) : DecodesTo framing wire body := by
  cases framing with
  | length n => exact h
  | toEof => exact h
  | chunked => exact h

/-- No line holds a line end, and a chunk that is being read has bytes left. -/
def ChunkPhase.Proper : ChunkPhase → Prop
  | .size line => 10 ∉ line
  | .data left => 0 < left
  | .afterData _ => True
  | .trailer line => 10 ∉ line
  | .done => True

/-- A reader between two pieces. -/
structure BodyReader.Proper (r : BodyReader) : Prop where
  phase : r.phase.Proper
  length : ∀ n, r.framing = .length n → r.total + r.remaining = n
  chunked : r.framing = .chunked → r.complete = true → r.phase = .done
  short : ∀ n, r.framing = .length n → r.complete = true → r.remaining = 0
  toEof : r.framing = .toEof → r.complete = false

theorem proper_new (framing : BodyFraming) : (BodyReader.new framing).Proper := by
  refine ⟨List.not_mem_nil, ?_, ?_, ?_, ?_⟩
  · intro n hn
    cases framing with
    | length m =>
        cases hn
        exact Nat.zero_add _
    | toEof => cases hn
    | chunked => cases hn
  · intro hchunked hcomplete
    cases framing with
    | length m => cases hchunked
    | toEof => cases hchunked
    | chunked => cases hcomplete
  · intro n hn hcomplete
    cases framing with
    | length m =>
        have hzero : BodyFraming.length m = .length 0 := of_decide_eq_true hcomplete
        cases hzero
        rfl
    | toEof => cases hn
    | chunked => cases hn
  · intro htoEof
    cases framing with
    | length m => cases htoEof
    | toEof => rfl
    | chunked => cases htoEof

theorem bodyRest_finish {r : BodyReader} (hr : r.Proper) (hfinish : r.finish = .ok ())
    {rest : List UInt8} (hend : rest = [] ∨ r.complete = true) : BodyRest r rest [] := by
  unfold BodyReader.finish at hfinish
  unfold BodyRest
  cases hframing : r.framing with
  | length n =>
      rw [hframing] at hfinish
      dsimp only at hfinish ⊢
      split at hfinish
      · cases hfinish
      · rename_i htotal
        have hsum := hr.length n hframing
        have hzero : r.remaining = 0 := by omega
        rw [hzero, List.take_zero]
        exact ⟨rfl, Nat.zero_le _⟩
  | toEof =>
      dsimp only
      rcases hend with hnil | hcomplete
      · exact hnil.symm
      · rw [hr.toEof hframing] at hcomplete
        cases hcomplete
  | chunked =>
      rw [hframing] at hfinish
      dsimp only at hfinish ⊢
      split at hfinish
      · rename_i hcomplete
        rw [hr.chunked hframing hcomplete]
        rfl
      · cases hfinish

/-! ## Feeding -/

section
variable {τ : Type} {sink : Sink τ} {log : τ → List UInt8}

/-- A sink whose state holds what it was given. -/
structure Records (sink : Sink τ) (log : τ → List UInt8) : Prop where
  taken : ∀ {observed s bytes s'}, sink.write observed s bytes = (s', none) →
    log s' = log s ++ bytes
  refused : ∀ {observed s bytes s' e}, sink.write observed s bytes = (s', some e) → log s <+: log s'

variable {observed : Nat} {r r' : BodyReader} {body line wire bytes : List UInt8} {b : UInt8}

theorem emit_ok (hsink : Records sink log) {s s' : τ}
    (h : r.emit sink observed bytes s = (s', .ok r')) :
    log s' = log s ++ bytes ∧ r' = { r with total := r.total + bytes.length } := by
  unfold BodyReader.emit at h
  split at h
  · rename_i hnil
    cases h
    subst hnil
    exact ⟨(List.append_nil _).symm, rfl⟩
  · split at h
    · cases h
    · split at h
      · cases h
      · rename_i hwrite
        cases h
        exact ⟨hsink.taken hwrite, rfl⟩

/-- A relation that holds between the states before and after a write. -/
structure Moves (sink : Sink τ) (R : τ → τ → Prop) : Prop where
  refl : ∀ s, R s s
  trans : ∀ {s₁ s₂ s₃}, R s₁ s₂ → R s₂ s₃ → R s₁ s₃
  write : ∀ observed s bytes, R s (sink.write observed s bytes).1

variable {R : τ → τ → Prop}

theorem emit_moves (hsink : Moves sink R) (observed : Nat) (r : BodyReader)
    (bytes : List UInt8) (s : τ) : R s (r.emit sink observed bytes s).1 := by
  have hwrite := hsink.write observed s bytes
  unfold BodyReader.emit
  split
  · exact hsink.refl s
  · split
    · exact hsink.refl s
    · split
      · rename_i heq
        rw [heq] at hwrite
        exact hwrite
      · rename_i heq
        rw [heq] at hwrite
        exact hwrite

theorem feedChunked_moves (hsink : Moves sink R) (observed : Nat) (fuel : Nat) :
    ∀ (r : BodyReader) (bytes : List UInt8) (s : τ),
    R s (r.feedChunked sink observed fuel bytes s).1 := by
  induction fuel with
  | zero =>
      intro r bytes s
      exact hsink.refl s
  | succ fuel ih =>
      intro r bytes s
      cases bytes with
      | nil => exact hsink.refl s
      | cons b bytes =>
          unfold BodyReader.feedChunked
          split
          · exact hsink.refl s
          · split
            · split
              · exact hsink.refl s
              · exact ih _ _ _
              · exact ih _ _ _
            · split
              · exact hsink.refl s
              · exact ih _ _ _
          · rename_i left hphase
            dsimp only
            have hemit := emit_moves hsink observed
              { r with phase := if left - min left (b :: bytes).length = 0 then .afterData 0
                else .data (left - min left (b :: bytes).length) }
                  ((b :: bytes).take (min left (b :: bytes).length)) s
            split
            · rename_i heq
              rw [heq] at hemit
              exact hemit
            · rename_i heq
              rw [heq] at hemit
              exact hsink.trans hemit (ih _ _ _)
          · split
            · exact ih _ _ _
            · split
              · exact ih _ _ _
              · exact hsink.refl s
          · split
            · split
              · exact hsink.refl s
              · exact ih _ _ _
            · split
              · exact hsink.refl s
              · exact ih _ _ _

/-- **What every write does, a piece does.** -/
theorem feed_moves (hsink : Moves sink R) (observed : Nat) (r : BodyReader)
    (bytes : List UInt8) (s : τ) : R s (r.feed sink observed bytes s).1 := by
  have hemit := emit_moves hsink observed r bytes s
  unfold BodyReader.feed
  split
  · split
    · exact hsink.refl s
    · split
      · rename_i heq
        rw [heq] at hemit
        exact hemit
      · rename_i heq
        rw [heq] at hemit
        exact hemit
  · exact hemit
  · exact feedChunked_moves hsink observed _ _ _ _

theorem moves_discard : Moves (discardSink τ) (fun s s' : τ => s' = s) :=
  ⟨fun _ => rfl, fun h₁ h₂ => h₂.trans h₁, fun _ _ _ => rfl⟩

theorem moves_records (hsink : Records sink log) : Moves sink fun s s' => log s <+: log s' := by
  refine ⟨fun _ => List.prefix_refl _, fun h₁ h₂ => h₁.trans h₂, fun observed s bytes => ?_⟩
  cases hwrite : sink.write observed s bytes with
  | mk s' refusal =>
      cases refusal with
      | some e => exact hsink.refused hwrite
      | none =>
          rw [hsink.taken hwrite]
          exact List.prefix_append _ _

/-- What a reader has done with a piece that it took. -/
structure Took (log : τ → List UInt8) (r r' : BodyReader) (s s' : τ)
    (bytes d : List UInt8) : Prop where
  log : log s' = log s ++ d
  total : r'.total = r.total + d.length
  framing : r'.framing = r.framing
  remaining : r'.remaining = r.remaining
  proper : r'.phase.Proper
  complete : r'.complete = true → r.complete = true ∨ r'.phase = .done
  rest : ∀ {wire body}, ChunkRest r'.phase wire body → ChunkRest r.phase (bytes ++ wire) (d ++ body)

theorem Took.cons {s s' : τ} {d : List UInt8} {phase : ChunkPhase}
    (h : Took log { r with phase := phase } r' s s' bytes d)
    (hrest : ∀ {wire body}, ChunkRest phase wire body → ChunkRest r.phase (b :: wire) body) :
    Took log r r' s s' (b :: bytes) d :=
  ⟨h.log, h.total, h.framing, h.remaining, h.proper, h.complete,
    fun hlater => hrest (h.rest hlater)⟩

/-! ### One byte in each phase -/

theorem chunkRest_last (hline : 10 ∉ line) (hsize : chunkSize line = some 0)
    (h : ChunkRest (.trailer []) wire body) : ChunkRest (.size line) (10 :: wire) body := by
  obtain ⟨htrailers, rfl⟩ := h
  exact .last hline hsize htrailers

theorem chunkRest_chunk {size : Nat} (hline : 10 ∉ line)
    (hsize : chunkSize line = some size) (hne : size ≠ 0) (h : ChunkRest (.data size) wire body) :
    ChunkRest (.size line) (10 :: wire) body := by
  obtain ⟨data, sep, rest, body', hlength, hend, rfl, hrest, rfl⟩ := h
  have hdata : data ≠ [] := by
    rintro rfl
    exact hne hlength.symm
  rw [← hlength] at hsize
  exact .chunk hline hsize hdata hend hrest

theorem chunkRest_sizeByte (h : ChunkRest (.size (line ++ [b])) wire body) :
    ChunkRest (.size line) (b :: wire) body := by
  have hline : Chunked ((line ++ [b]) ++ wire) body := h
  rw [List.append_assoc] at hline
  exact hline

theorem chunkRest_cr (h : ChunkRest (.afterData 1) wire body) :
    ChunkRest (.afterData 0) (13 :: wire) body := by
  obtain ⟨sep, rest, hsep, rfl, hrest⟩ := h
  rcases hsep with rfl | ⟨hone, -⟩
  · exact ⟨[13, 10], rest, .inr ⟨rfl, rfl⟩, rfl, hrest⟩
  · cases hone

theorem chunkRest_trailerByte
    (h : ChunkRest (.trailer (line ++ [b])) wire body) :
    ChunkRest (.trailer line) (b :: wire) body := by
  obtain ⟨htrailers, hbody⟩ := h
  rw [List.append_assoc] at htrailers
  exact ⟨htrailers, hbody⟩

theorem chunkRest_data {left : Nat} {slice : List UInt8} (hle : slice.length ≤ left)
    (h : ChunkRest (if left - slice.length = 0 then .afterData 0 else .data (left - slice.length))
      wire body) :
    ChunkRest (.data left) (slice ++ wire) (slice ++ body) := by
  split at h
  · rename_i hzero
    obtain ⟨sep, rest, hsep, rfl, hrest⟩ := h
    have hend : LineEnd sep := hsep.imp_right And.right
    exact ⟨slice, sep, rest, body, by omega, hend, rfl, hrest, rfl⟩
  · obtain ⟨data, sep, rest, body', hlength, hend, rfl, hrest, rfl⟩ := h
    refine ⟨slice ++ data, sep, rest, body', ?_, hend, ?_, hrest, ?_⟩
    · rw [List.length_append, hlength]
      omega
    · rw [List.append_assoc]
    · rw [List.append_assoc]

theorem Took.data {s s₁ s' : τ} {slice later d : List UInt8} {left take : Nat}
    (hphase : r.phase = .data left) (hle : take ≤ left) (htake : slice.length = take)
    (hlog : log s₁ = log s ++ slice) (h : Took log { r with
      phase := if left - take = 0 then .afterData 0 else .data (left - take)
      total := r.total + slice.length } r' s₁ s' later d) :
    Took log r r' s s' (slice ++ later) (slice ++ d) := by
  subst htake
  refine ⟨?_, ?_, h.framing, h.remaining, h.proper, h.complete, fun {wire body} hrest => ?_⟩
  · rw [h.log, hlog, List.append_assoc]
  · rw [h.total, List.length_append]
    exact Nat.add_assoc _ _ _
  · rw [hphase, List.append_assoc, List.append_assoc]
    exact chunkRest_data hle (h.rest hrest)

theorem not_mem_snoc (hline : 10 ∉ line) (hb : ¬b = 10) : 10 ∉ line ++ [b] := by
  rw [List.mem_append, List.mem_singleton]
  rintro (hmem | rfl)
  · exact hline hmem
  · exact hb rfl

/-- **The decoder**: what it takes goes to the sink, and stands before what is yet to be read. -/
theorem feedChunked_ok (hsink : Records sink log) (observed : Nat) (fuel : Nat) :
    ∀ {r r' : BodyReader} {bytes : List UInt8} {s s' : τ},
      r.feedChunked sink observed fuel bytes s = (s', .ok r') → r.phase.Proper →
      bytes.length < fuel →
        ∃ d, Took log r r' s s' bytes d := by
  -- on the fuel; every round takes a byte at least, so it does not run out
  induction fuel with
  | zero =>
      intro r r' bytes s s' _ _ hfuel
      exact absurd hfuel (Nat.not_lt_zero _)
  | succ fuel ih =>
      intro r r' bytes s s' h hproper hfuel
      cases bytes with
      | nil =>
          cases h
          exact ⟨[], (List.append_nil _).symm, rfl, rfl, rfl, hproper, .inl, fun hrest => hrest⟩
      | cons b bytes =>
          rw [List.length_cons] at hfuel
          have hshort : bytes.length < fuel := Nat.lt_of_succ_lt_succ hfuel
          unfold BodyReader.feedChunked at h
          split at h
          · rename_i hphase
            cases h
            refine ⟨[], (List.append_nil _).symm, rfl, rfl, rfl, hproper, .inl, ?_⟩
            rw [hphase]
            exact fun hrest => hrest
          · rename_i line hphase
            rw [hphase] at hproper
            split at h
            · rename_i hb
              subst hb
              split at h
              · cases h
              · rename_i hsize
                obtain ⟨d, htook⟩ := ih h List.not_mem_nil hshort
                refine ⟨d, htook.cons ?_⟩
                rw [hphase]
                exact chunkRest_last hproper hsize
              · rename_i size hne hsize
                obtain ⟨d, htook⟩ := ih h (Nat.pos_of_ne_zero hne) hshort
                refine ⟨d, htook.cons ?_⟩
                rw [hphase]
                exact chunkRest_chunk hproper hsize hne
            · rename_i hb
              split at h
              · cases h
              · obtain ⟨d, htook⟩ := ih h (not_mem_snoc hproper hb) hshort
                refine ⟨d, htook.cons ?_⟩
                rw [hphase]
                exact chunkRest_sizeByte
          · rename_i left hphase
            rw [hphase] at hproper
            dsimp only at h
            split at h
            · cases h
            · rename_i s₁ r₁ hemit
              obtain ⟨hlog, rfl⟩ := emit_ok hsink hemit
              have hlength : ((b :: bytes).take (min left (b :: bytes).length)).length
                = min left (b :: bytes).length := by
                rw [List.length_take]
                omega
              have hnext : (if left - min left (b :: bytes).length = 0 then ChunkPhase.afterData 0
                  else .data (left - min left (b :: bytes).length)).Proper := by
                split
                · trivial
                · rename_i hpos
                  exact Nat.pos_of_ne_zero hpos
              have hdrop : ((b :: bytes).drop (min left (b :: bytes).length)).length < fuel := by
                have hleft : 0 < left := hproper
                rw [List.length_drop, List.length_cons]
                omega
              obtain ⟨d, htook⟩ := ih h hnext hdrop
              rw [← List.take_append_drop (min left (b :: bytes).length) (b :: bytes)]
              exact ⟨_, Took.data hphase (Nat.min_le_left _ _) hlength hlog htook⟩
          · rename_i seen hphase
            split at h
            · rename_i hb
              subst hb
              obtain ⟨d, htook⟩ := ih h List.not_mem_nil hshort
              refine ⟨d, htook.cons fun {wire body} hrest => ?_⟩
              rw [hphase]
              exact ⟨[10], wire, .inl rfl, rfl, hrest⟩
            · split at h
              · rename_i hb
                obtain ⟨rfl, rfl⟩ := hb
                obtain ⟨d, htook⟩ := ih h trivial hshort
                refine ⟨d, htook.cons ?_⟩
                rw [hphase]
                exact chunkRest_cr
              · cases h
          · rename_i line hphase
            rw [hphase] at hproper
            split at h
            · rename_i hb
              subst hb
              split at h
              · rename_i hblank
                cases h
                refine ⟨[], (List.append_nil _).symm, rfl, rfl, rfl, trivial, fun _ => .inr rfl, ?_⟩
                intro wire body hbody
                rw [hphase]
                exact ⟨.blank hblank, hbody⟩
              · obtain ⟨d, htook⟩ := ih h List.not_mem_nil hshort
                refine ⟨d, htook.cons fun {wire body} hrest => ?_⟩
                rw [hphase]
                exact ⟨.line hproper hrest.1, hrest.2⟩
            · rename_i hb
              split at h
              · cases h
              · obtain ⟨d, htook⟩ := ih h (not_mem_snoc hproper hb) hshort
                refine ⟨d, htook.cons ?_⟩
                rw [hphase]
                exact chunkRest_trailerByte

theorem feedChunked_done (hdone : r.phase = .done) (fuel : Nat) (bytes : List UInt8)
    (s : τ) : r.feedChunked sink observed fuel bytes s = (s, .ok r) := by
  cases fuel with
  | zero => rfl
  | succ fuel =>
      cases bytes with
      | nil => rfl
      | cons b bytes =>
          unfold BodyReader.feedChunked
          rw [hdone]

/-- **The reader**: what it takes goes to the sink, and stands before what is yet to be read. -/
theorem feed_ok (hsink : Records sink log) {s s' : τ}
    (hr : r.Proper) (h : r.feed sink observed bytes s = (s', .ok r')) :
    ∃ d, log s' = log s ++ d ∧ r'.total = r.total + d.length ∧ r'.Proper ∧
      ∀ {wire body}, BodyRest r' wire body → BodyRest r (bytes ++ wire) (d ++ body) := by
  unfold BodyReader.feed at h
  split at h
  · rename_i n hframing
    split at h
    · cases h
    · rename_i hlength
      split at h
      · cases h
      · rename_i s₁ r₁ hemit
        obtain ⟨hlog, rfl⟩ := emit_ok hsink hemit
        cases h
        have hsum := hr.length n hframing
        refine ⟨bytes, hlog, rfl, ⟨hr.phase, ?_, ?_, ?_, ?_⟩, ?_⟩
        · intro m hm
          have hmn : n = m := BodyFraming.length.inj (hframing.symm.trans hm)
          dsimp only
          omega
        · intro hchunked
          exact absurd (hframing.symm.trans hchunked) nofun
        · intro m hm hcomplete
          rcases Bool.or_eq_true_iff.mp hcomplete with hbefore | hnow
          · have hzero := hr.short n hframing hbefore
            dsimp only
            omega
          · exact of_decide_eq_true hnow
        · intro htoEof
          exact absurd (hframing.symm.trans htoEof) nofun
        · intro wire body hrest
          unfold BodyRest at hrest ⊢
          dsimp only at hrest
          rw [hframing] at hrest ⊢
          obtain ⟨rfl, hle⟩ := hrest
          dsimp only
          refine ⟨?_, ?_⟩
          · rw [List.take_append, List.take_of_length_le (not_lt.mp hlength)]
          · rw [List.length_append]
            omega
  · rename_i hframing
    obtain ⟨hlog, rfl⟩ := emit_ok hsink h
    refine ⟨bytes, hlog, rfl, ⟨hr.phase, ?_, ?_, ?_, hr.toEof⟩, ?_⟩
    · intro n hn
      exact absurd (hframing.symm.trans hn) nofun
    · exact hr.chunked
    · exact hr.short
    · intro wire body hrest
      unfold BodyRest at hrest ⊢
      dsimp only at hrest
      rw [hframing] at hrest ⊢
      dsimp only at hrest ⊢
      rw [hrest]
  · rename_i hframing
    obtain ⟨d, htook⟩ := feedChunked_ok hsink observed _ h hr.phase (by omega)
    refine ⟨d, htook.log, htook.total, ⟨htook.proper, ?_, ?_, ?_, ?_⟩, ?_⟩
    · intro n hn
      rw [htook.framing, hframing] at hn
      cases hn
    · intro _ hcomplete
      rcases htook.complete hcomplete with hbefore | hdone
      · have hdone := hr.chunked hframing hbefore
        rw [feedChunked_done hdone] at h
        cases h
        exact hdone
      · exact hdone
    · intro n hn
      rw [htook.framing, hframing] at hn
      cases hn
    · intro htoEof
      rw [htook.framing, hframing] at htoEof
      cases htoEof
    · intro wire body hrest
      unfold BodyRest at hrest ⊢
      rw [htook.framing, hframing] at hrest
      rw [hframing]
      exact htook.rest hrest

end

end GoatCoin.Worker
