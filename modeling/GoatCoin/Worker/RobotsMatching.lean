/-
# `GoatCoin.Worker.RobotsMatching` — `robots.rs`: which rule decides, against the standard

The standard asks whether a path can be cut up as a pattern says.  `pattern_matches` takes each
literal where it first occurs, and looks at the end only then:

    no `$`     a start of the path is matched             the same
    with `$`   all of the path is matched                 … and no shorter start of it is

So a rule such as `/*.php$` is passed over on `/x.php.php`, and the verdict is the standard's when
it would be the same without the rules that are passed over.
-/
import GoatCoin.Lib.Glob
import GoatCoin.Worker.Robots

namespace GoatCoin.Worker

open Text

/-! ## The search -/

theorem findPart_some {part : Text} : ∀ {s : Text} {i : Nat}, findPart part s = some i →
    ∃ gap after, s = gap ++ (part ++ after) ∧ gap.length = i
      ∧ ∀ gap' after', s = gap' ++ (part ++ after') → i ≤ gap'.length := by
  intro s
  induction s with
  | nil =>
      intro i h
      unfold findPart at h
      split at h
      · rename_i hnil
        cases h
        exact ⟨[], [], by rw [hnil]; rfl, rfl, fun _ _ _ => Nat.zero_le _⟩
      · cases h
  | cons c s ih =>
      intro i h
      unfold findPart at h
      split at h
      · rename_i hpart
        obtain ⟨after, hafter⟩ := hpart
        cases h
        exact ⟨[], after, hafter.symm, rfl, fun _ _ _ => Nat.zero_le _⟩
      · rename_i hpart
        obtain ⟨j, hj, rfl⟩ := Option.map_eq_some_iff.mp h
        obtain ⟨gap, after, rfl, rfl, hfirst⟩ := ih hj
        refine ⟨c :: gap, after, rfl, rfl, fun gap' after' heq => ?_⟩
        cases gap' with
        | nil => exact absurd ⟨after', heq.symm⟩ hpart
        | cons d gap' => exact Nat.succ_le_succ (hfirst gap' after' (List.cons.inj heq).2)

theorem findPart_none {part : Text} : ∀ {s : Text}, findPart part s = none →
    ∀ gap after, s ≠ gap ++ (part ++ after) := by
  intro s
  induction s with
  | nil =>
      intro h gap after heq
      unfold findPart at h
      split at h
      · cases h
      · rename_i hpart
        exact hpart (List.append_eq_nil_iff.mp (List.append_eq_nil_iff.mp heq.symm).2).1
  | cons c s ih =>
      intro h gap after heq
      unfold findPart at h
      split at h
      · cases h
      · rename_i hpart
        cases gap with
        | nil => exact hpart ⟨after, heq.symm⟩
        | cons d gap => exact ih (Option.map_eq_none_iff.mp h) gap after (List.cons.inj heq).2

theorem suffix_of_findPart {part s gap after : Text} {i : Nat} (hfind : findPart part s = some i)
    (h : s = gap ++ (part ++ after)) : after <:+ s.drop (i + part.length) := by
  obtain ⟨first, rest, hs, rfl, hfirst⟩ := findPart_some hfind
  have hrest : s.drop (first.length + part.length) = rest := by
    rw [hs, ← List.drop_drop, List.drop_left, List.drop_left]
  have hgap := hfirst gap after h
  have hlength := congrArg List.length (hs.symm.trans h)
  rw [List.length_append, List.length_append, List.length_append, List.length_append] at hlength
  have hafter : after <:+ s := ⟨gap ++ part, by rw [h, List.append_assoc]⟩
  rw [hrest]
  refine List.suffix_of_suffix_length_le hafter ⟨first ++ part, by rw [hs, List.append_assoc]⟩ ?_
  omega

/-- **Where the cursor stands**: after pieces that occur, with the longest rest before it. -/
theorem matchSegments_some {path : Text} {segments : List Text} : ∀ {cursor stop : Nat},
    cursor ≤ path.length → matchSegments path cursor segments = some stop → stop ≤ path.length
      ∧ Glob.Occurs segments (path.drop cursor) (path.drop stop)
      ∧ ∀ rest, Glob.Occurs segments (path.drop cursor) rest →
      rest.length ≤ (path.drop stop).length := by
  induction segments with
  | nil =>
      intro cursor stop hcursor h
      cases h
      exact ⟨hcursor, rfl, fun rest hrest => by rw [show rest = path.drop cursor from hrest]⟩
  | cons seg segments ih =>
      intro cursor stop hcursor h
      unfold matchSegments at h
      split at h
      · rename_i hnil
        obtain ⟨hstop, hoccurs, hlongest⟩ := ih hcursor h
        refine ⟨hstop, ⟨[], path.drop cursor, by rw [hnil]; rfl, hoccurs⟩, ?_⟩
        rintro rest ⟨gap, after, hgap, hafter⟩
        have hsuffix : after <:+ path.drop cursor := by
          rw [hgap, hnil]
          exact List.suffix_append gap after
        obtain ⟨rest', hrest', hle⟩ := hafter.extend hsuffix
        exact hle.trans (hlongest rest' hrest')
      · split at h
        · cases h
        · rename_i i hfind
          obtain ⟨gap, after, hgap, rfl, -⟩ := findPart_some hfind
          have hlength : (path.drop cursor).length = gap.length + (seg.length + after.length) := by
            rw [hgap, List.length_append, List.length_append]
          rw [List.length_drop] at hlength
          have hafter : path.drop (cursor + gap.length + seg.length) = after := by
            rw [← List.drop_drop, ← List.drop_drop, hgap, List.drop_left, List.drop_left]
          obtain ⟨hstop, hoccurs, hlongest⟩ := ih (by omega) h
          rw [hafter] at hoccurs hlongest
          refine ⟨hstop, ⟨gap, after, hgap, hoccurs⟩, ?_⟩
          rintro rest ⟨gap', after', hgap', hafter'⟩
          have hsuffix := suffix_of_findPart hfind hgap'
          rw [List.drop_drop, ← Nat.add_assoc, hafter] at hsuffix
          obtain ⟨rest', hrest', hle'⟩ := hafter'.extend hsuffix
          exact hle'.trans (hlongest rest' hrest')

theorem matchSegments_none {path : Text} {segments : List Text} : ∀ {cursor : Nat},
    matchSegments path cursor segments = none →
    ∀ rest, ¬ Glob.Occurs segments (path.drop cursor) rest := by
  induction segments with
  | nil =>
      intro cursor h
      cases h
  | cons seg segments ih =>
      rintro cursor h rest ⟨gap, after, hgap, hafter⟩
      unfold matchSegments at h
      split at h
      · rename_i hnil
        have hsuffix : after <:+ path.drop cursor := ⟨gap, by rw [hgap, hnil]; rfl⟩
        obtain ⟨rest', hrest', -⟩ := hafter.extend hsuffix
        exact ih h rest' hrest'
      · split at h
        · rename_i hfind
          exact findPart_none hfind gap after hgap
        · rename_i i hfind
          have hsuffix := suffix_of_findPart hfind hgap
          rw [List.drop_drop, ← Nat.add_assoc] at hsuffix
          obtain ⟨rest', hrest', -⟩ := hafter.extend hsuffix
          exact ih h rest' hrest'

/-! ## A pattern -/

/-- The pattern without the `$` that anchors it. -/
def patternBody (pattern : Text) : Text :=
  if endsWith pattern ['$'] then pattern.dropLast else pattern

/-- The standard's match: a run of characters for each `*`, and a `$` at the end is the end of the
path. -/
def StandardMatch (pattern path : Text) : Prop :=
  if endsWith pattern ['$'] then Glob.Matches '*' (patternBody pattern) path
  else ∃ front, front <+: path ∧ Glob.Matches '*' (patternBody pattern) front

/-- A `$` pattern that a shorter start of the path is matched by as well. -/
def PassedOver (pattern path : Text) : Prop :=
  endsWith pattern ['$'] = true
    ∧ ∃ front, front <+: path ∧ front ≠ path ∧ Glob.Matches '*' (patternBody pattern) front

section
variable {body path first : Text} {segments : List Text}
  (hsplit : body.splitOn '*' = first :: segments)
include hsplit

theorem not_matches_of_search
    (h : startsWith path first = false ∨ matchSegments path first.length segments = none)
    {front : Text} (hfront : front <+: path) : ¬ Glob.Matches '*' body front := by
  intro hmatch
  obtain ⟨rest, rfl⟩ := hfront
  obtain ⟨after, hafter, hoccurs⟩ := (Glob.matches_iff_occurs hsplit).mp ⟨front, rfl, hmatch⟩
  rcases h with hstart | hnone
  · have hprefix : first <+: front ++ rest := ⟨after, hafter.symm⟩
    exact of_decide_eq_false hstart hprefix
  · refine matchSegments_none hnone rest ?_
    rw [hafter, List.drop_left]
    exact hoccurs

/-- **Where the search ends**: a start of the path is matched there, and none that is shorter. -/
theorem matches_of_search {stop : Nat} (hstart : startsWith path first = true)
    (h : matchSegments path first.length segments = some stop) :
    stop ≤ path.length ∧ Glob.Matches '*' body (path.take stop)
      ∧ ∀ front, front <+: path → Glob.Matches '*' body front → stop ≤ front.length := by
  obtain ⟨after, rfl⟩ := of_decide_eq_true hstart
  have hle : first.length ≤ (first ++ after).length := by
    rw [List.length_append]
    exact Nat.le_add_right _ _
  obtain ⟨hstop, hoccurs, hlongest⟩ := matchSegments_some hle h
  rw [List.drop_left] at hoccurs hlongest
  refine ⟨hstop, ?_, ?_⟩
  · obtain ⟨front, hfront, hmatch⟩ := (Glob.matches_iff_occurs hsplit).mpr ⟨after, rfl, hoccurs⟩
    have htake : (first ++ after).take stop = front := by
      have hboth := (List.take_append_drop stop (first ++ after)).trans hfront
      exact List.append_cancel_right hboth
    rw [htake]
    exact hmatch
  · rintro front ⟨rest, hrest⟩ hmatch
    obtain ⟨after', hafter', hoccurs'⟩ :=
      (Glob.matches_iff_occurs hsplit).mp ⟨front, hrest.symm, hmatch⟩
    obtain rfl := List.append_cancel_left hafter'
    have hshort := hlongest rest hoccurs'
    have hlength := congrArg List.length hrest
    rw [List.length_append] at hlength
    rw [List.length_drop] at hshort
    omega

end

theorem patternMatches_search {pattern path first : Text} {segments : List Text}
    (hsplit : (patternBody pattern).splitOn '*' = first :: segments) :
    patternMatches pattern path = true ↔ startsWith path first = true
      ∧ ∃ stop, matchSegments path first.length segments = some stop
        ∧ (endsWith pattern ['$'] = true → stop = path.length) := by
  unfold patternMatches
  dsimp only
  rw [← patternBody, hsplit]
  dsimp only
  cases hstart : startsWith path first with
  | false => simp
  | true =>
      rw [if_neg Bool.true_eq_false.mp]
      cases hend : matchSegments path first.length segments with
      | none => simp
      | some stop =>
          cases hanchor : endsWith pattern ['$'] with
          | false => simp
          | true =>
              cases segments with
              | cons seg segments => simp
              | nil =>
                  -- no star: the search ends at once, and the pattern is its only piece
                  have hbody : patternBody pattern = first := by
                    have hjoin :
                      ['*'].intercalate ((patternBody pattern).splitOn '*') = patternBody pattern :=
                      List.intercalate_splitOn '*'
                    rw [hsplit, List.intercalate_singleton] at hjoin
                    exact hjoin.symm
                  cases hend
                  rw [hbody]
                  simp [eq_comm]

/-- **What `pattern_matches` sees.** -/
theorem patternMatches_iff (pattern path : Text) :
    patternMatches pattern path = true
    ↔ StandardMatch pattern path ∧ ¬ PassedOver pattern path := by
  obtain ⟨first, segments, hsplit⟩ :=
    List.exists_cons_of_ne_nil (List.splitOn_ne_nil '*' (patternBody pattern))
  have hnever : (∀ front, front <+: path → ¬ Glob.Matches '*' (patternBody pattern) front) →
      ¬ StandardMatch pattern path := by
    intro hnone h
    unfold StandardMatch at h
    split at h
    · exact hnone path (List.prefix_refl _) h
    · obtain ⟨front, hfront, hmatch⟩ := h
      exact hnone front hfront hmatch
  rw [patternMatches_search hsplit]
  cases hstart : startsWith path first with
  | false =>
      have hnone := hnever fun front => not_matches_of_search hsplit (.inl hstart)
      exact ⟨fun h => absurd h.1 Bool.false_ne_true, fun h => absurd h.1 hnone⟩
  | true =>
      cases hend : matchSegments path first.length segments with
      | none =>
          have hnone := hnever fun front => not_matches_of_search hsplit (.inr hend)
          exact ⟨fun ⟨_, _, h, _⟩ => (nomatch h), fun h => absurd h.1 hnone⟩
      | some stop =>
          obtain ⟨hstop, hmatch, hshortest⟩ := matches_of_search hsplit hstart hend
          cases hanchor : endsWith pattern ['$'] with
          | false =>
              unfold StandardMatch PassedOver
              rw [hanchor, if_neg Bool.false_ne_true]
              exact ⟨fun _ =>
                ⟨⟨_, List.take_prefix _ _, hmatch⟩, fun h => absurd h.1 Bool.false_ne_true⟩,
                fun _ => ⟨rfl, stop, rfl, fun h => absurd h Bool.false_ne_true⟩⟩
          | true =>
              unfold StandardMatch PassedOver
              rw [hanchor, if_pos rfl]
              constructor
              · rintro ⟨-, stop', hsame, hall⟩
                cases hsame
                have hlast := hall rfl
                rw [hlast, List.take_length] at hmatch
                refine ⟨hmatch, ?_⟩
                rintro ⟨-, front, hfront, hne, hshorter⟩
                have hle := hshortest front hfront hshorter
                rw [hlast] at hle
                exact hne (hfront.eq_of_length_le hle)
              · rintro ⟨-, hpassed⟩
                refine ⟨rfl, stop, rfl, fun _ => ?_⟩
                by_contra hne
                refine hpassed ⟨rfl, path.take stop, List.take_prefix _ _,
                  fun heq => hne ?_, hmatch⟩
                have hlength := congrArg List.length heq
                rw [List.length_take] at hlength
                omega

/-! ## The verdict -/

/-- A longest rule of those that match is a disallow, and no allow rule that matches is as long. -/
def Disallows (matching : Rule → Prop) (lines : List Rule) : Prop :=
  ∃ rule ∈ lines, matching rule ∧ rule.allow = false
    ∧ (∀ other ∈ lines, matching other → byteLength other.pattern ≤ byteLength rule.pattern)
    ∧ ∀ other ∈ lines, matching other → other.allow = true →
    byteLength other.pattern ≠ byteLength rule.pattern

/-- What the loop has found: a longest rule, and an allow rule if there is one as long. -/
structure BestOf (path : Text) (lines : List Rule) (best : Rule) : Prop where
  mem : best ∈ lines
  matched : patternMatches best.pattern path = true
  longest : ∀ rule ∈ lines, patternMatches rule.pattern path = true →
    byteLength rule.pattern ≤ byteLength best.pattern
  tie : best.allow = false → ∀ rule ∈ lines, patternMatches rule.pattern path = true →
    rule.allow = true → byteLength rule.pattern ≠ byteLength best.pattern

/-- The state of the loop after some of the rules. -/
def Best (path : Text) (lines : List Rule) : Option Rule → Prop
  | none => ∀ rule ∈ lines, patternMatches rule.pattern path = false
  | some best => BestOf path lines best

section
variable {path : Text} {lines : List Rule} {best rule : Rule}

theorem BestOf.skip (h : BestOf path lines best)
    (hrule : patternMatches rule.pattern path = false) : BestOf path (lines ++ [rule]) best := by
  have hold : ∀ other ∈ lines ++ [rule], patternMatches other.pattern path = true →
    other ∈ lines := by
    intro other hother hmatch
    rcases List.mem_append.mp hother with hother | hother
    · exact hother
    · rw [List.mem_singleton.mp hother, hrule] at hmatch
      cases hmatch
  refine ⟨List.mem_append_left _ h.mem, h.matched, ?_, ?_⟩
  · intro other hother hmatch
    exact h.longest other (hold other hother hmatch) hmatch
  · intro hallow other hother hmatch
    exact h.tie hallow other (hold other hother hmatch) hmatch

theorem BestOf.replace (h : BestOf path lines best)
    (hrule : patternMatches rule.pattern path = true)
    (hwins : byteLength rule.pattern > byteLength best.pattern
      ∨ (byteLength rule.pattern = byteLength best.pattern ∧ rule.allow = true
        ∧ best.allow = false)) :
    BestOf path (lines ++ [rule]) rule := by
  refine ⟨List.mem_append_right _ (List.mem_singleton_self rule), hrule, ?_, ?_⟩
  · intro other hother hmatch
    rcases List.mem_append.mp hother with hother | hother
    · have hle := h.longest other hother hmatch
      omega
    · rw [List.mem_singleton.mp hother]
  · intro hallow other hother hmatch hother'
    rcases List.mem_append.mp hother with hother | hother
    · have hle := h.longest other hother hmatch
      rcases hwins with hlonger | ⟨-, hrule', -⟩
      · omega
      · rw [hallow] at hrule'
        cases hrule'
    · rw [List.mem_singleton.mp hother, hallow] at hother'
      cases hother'

theorem BestOf.keep (h : BestOf path lines best)
    (hwins : ¬ (byteLength rule.pattern > byteLength best.pattern
      ∨ (byteLength rule.pattern = byteLength best.pattern ∧ rule.allow = true
        ∧ best.allow = false))) :
    BestOf path (lines ++ [rule]) best := by
  refine ⟨List.mem_append_left _ h.mem, h.matched, ?_, ?_⟩
  · intro other hother hmatch
    rcases List.mem_append.mp hother with hother | hother
    · exact h.longest other hother hmatch
    · rw [List.mem_singleton.mp hother]
      exact Nat.le_of_not_lt fun hlonger => hwins (.inl hlonger)
  · intro hallow other hother hmatch hother' heq
    rcases List.mem_append.mp hother with hother | hother
    · exact h.tie hallow other hother hmatch hother' heq
    · rw [List.mem_singleton.mp hother] at heq hother'
      exact hwins (.inr ⟨heq, hother', hallow⟩)

end

/-- **A turn of the loop.** -/
theorem best_step {path : Text} {lines : List Rule} {best : Option Rule} (h : Best path lines best)
    (rule : Rule) : Best path (lines ++ [rule]) (Rules.best path best rule) := by
  unfold Rules.best
  split_ifs with hrule
  · cases best with
    | none =>
        intro other hother
        rcases List.mem_append.mp hother with hother | hother
        · exact h other hother
        · rw [List.mem_singleton.mp hother]
          exact hrule
    | some best => exact BestOf.skip h hrule
  · have hmatch := eq_true_of_ne_false hrule
    cases best with
    | none =>
        have honly : ∀ other ∈ lines ++ [rule], patternMatches other.pattern path = true →
          other = rule := by
          intro other hother hmatch
          rcases List.mem_append.mp hother with hother | hother
          · rw [h other hother] at hmatch
            cases hmatch
          · exact List.mem_singleton.mp hother
        refine ⟨List.mem_append_right _ (List.mem_singleton_self rule), hmatch, ?_, ?_⟩
        · intro other hother hmatch
          rw [honly other hother hmatch]
        · intro hallow other hother hmatch hother'
          rw [honly other hother hmatch, hallow] at hother'
          cases hother'
    | some best =>
        dsimp only
        split_ifs with hwins
        · exact BestOf.replace h hmatch hwins
        · exact BestOf.keep h hwins

theorem best_run (path : Text) (lines : List Rule) :
    Best path lines (lines.foldl (Rules.best path) none) := by
  induction lines using List.reverseRecOn with
  | nil =>
      intro rule hrule
      cases hrule
  | append_singleton lines rule ih =>
      rw [List.foldl_append]
      exact best_step ih rule

/-- **The verdict of rules that could be read.** -/
theorem verdict_disallowed_iff (lines : List Rule) (path : Text) :
    (Rules.mk (some lines)).verdict path = .disallowed
      ↔ Disallows (fun rule => patternMatches rule.pattern path = true) lines := by
  have hbest := best_run path lines
  unfold Rules.verdict
  dsimp only
  cases hrun : lines.foldl (Rules.best path) none with
  | none =>
      rw [hrun] at hbest
      refine ⟨(nomatch ·), ?_⟩
      rintro ⟨rule, hrule, hmatch, -⟩
      rw [hbest rule hrule] at hmatch
      cases hmatch
  | some best =>
      rw [hrun] at hbest
      obtain ⟨hmem, hmatched, hlongest, htie⟩ := hbest
      cases hallow : best.allow with
      | true =>
          simp only [hallow, if_true]
          refine ⟨(nomatch ·), ?_⟩
          -- a disallow rule that decides is as long as the best one, which then is no allow rule
          rintro ⟨rule, hrule, hmatch, -, hmax, hties⟩
          have hle := hmax best hmem hmatched
          have hge := hlongest rule hrule hmatch
          exact absurd (Nat.le_antisymm hle hge) (hties best hmem hmatched hallow)
      | false =>
          simp only [hallow, Bool.false_eq_true, if_false, true_iff]
          exact ⟨best, hmem, hmatched, hallow, hlongest, htie hallow⟩

/-- **The verdict is the standard's exactly when the rules that are passed over do not decide.** -/
theorem verdict_standard_iff (lines : List Rule) (path : Text) :
    ((Rules.mk (some lines)).verdict path = .disallowed
        ↔ Disallows (fun rule => StandardMatch rule.pattern path) lines)
      ↔ (Disallows (fun rule => StandardMatch rule.pattern path
        ∧ ¬ PassedOver rule.pattern path) lines
        ↔ Disallows (fun rule => StandardMatch rule.pattern path) lines) := by
  have hseen : (fun rule : Rule => patternMatches rule.pattern path = true)
      = fun rule => StandardMatch rule.pattern path ∧ ¬ PassedOver rule.pattern path := by
    funext rule
    exact propext (patternMatches_iff rule.pattern path)
  rw [verdict_disallowed_iff, hseen]

/-- Scripts are disallowed, and a path whose extension comes twice is let through. -/
theorem doubled_extension_allowed :
    (Rules.mk (some [⟨false, "/*.php$".toList⟩])).verdict "/x.php.php".toList = .allowed
      ∧ Disallows (fun rule => StandardMatch rule.pattern "/x.php.php".toList)
        [⟨false, "/*.php$".toList⟩] := by
  refine ⟨by decide, ⟨false, "/*.php$".toList⟩, List.mem_singleton_self _, ?_, rfl, ?_, ?_⟩
  · have hletters : Glob.Matches '*' ".php".toList ".php".toList := by
      refine .letter ?_ (.letter ?_ (.letter ?_ (.letter ?_ .nil))) <;> decide
    have hpath : Glob.Matches '*' "/*.php".toList "/x.php.php".toList :=
      .letter (by decide) (.run "x.php".toList hletters)
    exact (if_pos (by decide)).mpr hpath
  · intro other hother _
    rw [List.mem_singleton.mp hother]
  · intro other hother _ hallow
    rw [List.mem_singleton.mp hother] at hallow
    cases hallow

end GoatCoin.Worker
