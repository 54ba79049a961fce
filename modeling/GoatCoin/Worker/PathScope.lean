/-
# `GoatCoin.Worker.PathScope` — `policy.rs`: a path in scope is in scope when a server reads it

The check is on the text of a request, the scope is about what is served.  A server decodes the
escapes and resolves the segments, in the one order or the other, and what it then has is

    a path under a prefix     `/api/v1`
    the directory itself      `/api`

because an accepted path has nothing but names for segments, before and after decoding: the escapes
of `.` and `/` are refused by their text, and no other escape makes one.
-/
import GoatCoin.Lib.UriPath
import GoatCoin.Worker.Policy

namespace GoatCoin.Worker

open Text UriPath
open Evm (require require_ok bind_ok bind_ok₄ forM_ok)

/-! ## What is accepted -/

/-- A prefix as `validate_entry` leaves it. -/
structure PlainPrefix (p : Text) : Prop where
  tail : ∃ q, p = q ++ ['/']
  long : 2 ≤ byteLength p
  single : ¬ ['/', '/'] <:+: p

theorem plainPrefix_of_validateEntry {w : WireEntry} {entry : AllowlistEntry}
    (h : validateEntry w = .ok entry) : ∀ p ∈ entry.pathPrefixes, PlainPrefix p := by
  obtain ⟨_, -, _, -, _, -, _, -, h⟩ := bind_ok₄.mp h
  obtain ⟨_, -, _, hprefixes, _, -, _, -, h⟩ := bind_ok₄.mp h
  cases h
  intro p hp
  have hmem : p ∈ w.pathPrefixes := List.mem_mergeSort.mp (List.mem_dedup.mp hp)
  obtain ⟨_, hshape, hplain⟩ := bind_ok.mp (forM_ok.mp hprefixes p hmem)
  obtain ⟨-, hends, hlong⟩ := require_ok.mp hshape
  obtain ⟨hsingle, -, -⟩ := require_ok.mp hplain
  obtain ⟨q, hq⟩ := of_decide_eq_true hends
  exact ⟨⟨q, hq.symm⟩, hlong, of_decide_eq_false hsingle⟩

/-- A path as `path_in_scope` leaves it. -/
structure PlainPath (path : Text) : Prop where
  start : ['/'] <+: path
  dot : ¬ HasEscape '.' path
  slash : ¬ HasEscape '/' path
  single : ¬ ['/', '/'] <:+: path
  names : ∀ s ∈ (path.splitOn '/').drop 1, s ≠ ['.'] ∧ s ≠ ['.', '.']

theorem not_hasEscape {path : Text} {c : Char} {spelled : Text}
    (hspelled : ∀ a b, escaped a b = some c → toAsciiLowercase ['%', a, b] = spelled)
    (h : hasPart (toAsciiLowercase path) spelled = false) : ¬ HasEscape c path := by
  rintro ⟨a, b, hab, hinfix⟩
  have hlower : toAsciiLowercase ['%', a, b] <:+: toAsciiLowercase path := hinfix.map Char.toLower
  rw [hspelled a b hab] at hlower
  exact of_decide_eq_false h hlower

theorem plainPath_of_pathInScope {entry : AllowlistEntry} {pathAndQuery : Text}
    (h : pathInScope entry pathAndQuery = true) (hscope : entry.pathScope = .prefixes) :
    PlainPath (pathOf pathAndQuery)
      ∧ ∃ p ∈ entry.pathPrefixes, p <+: pathOf pathAndQuery
      ∨ pathOf pathAndQuery = trimEndMatches '/' p := by
  unfold pathInScope at h
  dsimp only at h
  split_ifs at h with hstart hchars hescapes hsingle hnames
  rw [hscope] at h
  obtain ⟨p, hp, hunder⟩ := List.any_eq_true.mp h
  have hpart : ∀ spelled ∈ ["%2e".toList, "%2f".toList, "%5c".toList],
      hasPart (toAsciiLowercase (pathOf pathAndQuery)) spelled = false := by
    intro spelled hspelled
    exact Bool.eq_false_iff.mpr fun hin => hescapes (List.any_eq_true.mpr ⟨spelled, hspelled, hin⟩)
  refine ⟨⟨?_, ?_, ?_, ?_, ?_⟩, p, hp, ?_⟩
  · push Not at hstart
    obtain ⟨rest, rfl⟩ := of_decide_eq_true (eq_true_of_ne_false hstart.1)
    exact ⟨_, (List.takeWhile_cons_of_pos (by decide)).symm⟩
  · refine not_hasEscape (fun a b hab => ?_) (hpart "%2e".toList (by decide))
    exact (lower_escaped hab (.inl rfl)).trans (if_pos rfl)
  · refine not_hasEscape (fun a b hab => ?_) (hpart "%2f".toList (by decide))
    exact (lower_escaped hab (.inr rfl)).trans (if_neg (by decide))
  · exact of_decide_eq_false (Bool.eq_false_iff.mpr hsingle)
  · intro s hs
    refine ⟨?_, ?_⟩
    · rintro rfl
      exact hnames (List.any_eq_true.mpr ⟨_, hs, rfl⟩)
    · rintro rfl
      exact hnames (List.any_eq_true.mpr ⟨_, hs, rfl⟩)
  · rcases Bool.or_eq_true_iff.mp hunder with hprefix | hsame
    · exact .inl (of_decide_eq_true hprefix)
    · exact .inr (of_decide_eq_true hsame)

/-! ## What is served -/

/-- **The segments of a path that is accepted**: names, and perhaps a `/` after them. -/
theorem PlainPath.segments {path : Text} (h : PlainPath path) (hroot : path ≠ ['/']) :
    ∃ segments tail, path = ['/'].intercalate ([] :: (segments ++ tail)) ∧ segments ≠ []
      ∧ (tail = [] ∨ tail = [[]]) ∧ ∀ s ∈ segments, IsName s ∧ '/' ∉ s ∧ s <:+: path := by
  obtain ⟨body, hbody⟩ := h.start
  have hsplit : path.splitOn '/' = [] :: body.splitOn '/' := by
    rw [← hbody, List.singleton_append, List.splitOn_cons_eq_if_modifyHead]
    rfl
  have hpath : path = ['/'].intercalate ([] :: body.splitOn '/') := by
    rw [← hsplit, List.intercalate_splitOn]
  have hnames := h.names
  rw [hsplit, List.drop_one, List.tail_cons] at hnames
  obtain ⟨parts, hparts⟩ : ∃ parts, parts = body.splitOn '/' := ⟨_, rfl⟩
  have hslash : ∀ s ∈ parts, '/' ∉ s := by
    rw [hparts]
    exact not_mem_of_mem_splitOn
  have hinfix : ∀ s ∈ parts, s <:+: path := by
    intro s hs
    rw [hpath, ← hparts]
    exact infix_intercalate (List.mem_cons_of_mem _ hs)
  rw [← hparts] at hpath hnames
  -- an empty segment that another one follows makes a `//`
  have hmiddle : ∀ before after, parts = before ++ [] :: after → after = [] := by
    rintro before after rfl
    by_contra hafter
    refine h.single ?_
    rw [hpath, ← List.cons_append, intercalate_append (List.cons_ne_nil _ _) (List.cons_ne_nil _ _),
      List.intercalate_cons_of_ne_nil hafter]
    exact ⟨['/'].intercalate ([] :: before), ['/'].intercalate after, by simp⟩
  have hne : parts ≠ [] := hparts ▸ List.splitOn_ne_nil '/' body
  obtain ⟨before, last, hlast⟩ : ∃ before last, parts = before ++ [last] :=
    ⟨_, _, (List.dropLast_append_getLast hne).symm⟩
  have hbefore : ∀ s ∈ before, s ≠ [] := by
    rintro s hs rfl
    obtain ⟨x, y, rfl⟩ := List.append_of_mem hs
    have hend := hmiddle x (y ++ [last]) (by rw [hlast, List.append_assoc, List.cons_append])
    exact List.append_ne_nil_of_right_ne_nil y (List.cons_ne_nil _ _) hend
  have hmem : ∀ s ∈ before, s ∈ parts := fun s hs => hlast ▸ List.mem_append_left _ hs
  by_cases hempty : last = []
  · refine ⟨before, [[]], by rw [hpath, hlast, hempty], ?_, .inr rfl, fun s hs => ?_⟩
    · rintro rfl
      refine hroot ?_
      rw [hpath, hlast, hempty]
      rfl
    · exact ⟨⟨hbefore s hs, hnames s (hmem s hs)⟩, hslash s (hmem s hs), hinfix s (hmem s hs)⟩
  · refine ⟨parts, [], by rw [hpath, List.append_nil], hne, .inl rfl, fun s hs => ?_⟩
    have hfull : s ≠ [] := by
      rw [hlast] at hs
      rcases List.mem_append.mp hs with hs | hs
      · exact hbefore s hs
      · rw [List.mem_singleton.mp hs]
        exact hempty
    exact ⟨⟨hfull, hnames s hs⟩, hslash s hs, hinfix s hs⟩

theorem PlainPath.isName_percentDecode {path s : Text} (h : PlainPath path)
    (hs : IsName s ∧ '/' ∉ s ∧ s <:+: path) : IsName (percentDecode s) ∧ '/' ∉ percentDecode s := by
  obtain ⟨⟨hempty, hdot, hdots⟩, hslash, hinfix⟩ := hs
  have hescape : ∀ c, HasEscape c s → HasEscape c path := by
    rintro c ⟨a, b, hab, hin⟩
    exact ⟨a, b, hab, hin.trans hinfix⟩
  have hsame : (∀ c ∈ percentDecode s, c = '.') → percentDecode s = s := fun hall =>
    percentDecode_dots hall fun hin => h.dot (hescape '.' hin)
  refine ⟨⟨fun heq => hempty (percentDecode_eq_nil.mp heq), fun heq => ?_, fun heq => ?_⟩,
    fun hin => ?_⟩
  · rw [hsame (by rw [heq]; simp)] at heq
    exact hdot heq
  · rw [hsame (by rw [heq]; simp)] at heq
    exact hdots heq
  · rcases mem_percentDecode hin with hin | hin
    · exact hslash hin
    · exact h.slash (hescape '/' hin)

/-- **Either order, one result**: the decoded path, or what it is without a `/` at its end. -/
theorem PlainPath.served {path : Text} (h : PlainPath path) (hroot : path ≠ ['/'])
    (keepSlash : Bool) :
    percentDecode (resolve keepSlash path) = resolve keepSlash (percentDecode path)
      ∧ (resolve keepSlash (percentDecode path) = percentDecode path
        ∨ (['/'] <:+ path
          ∧ resolve keepSlash (percentDecode path) ++ ['/'] = percentDecode path)) := by
  obtain ⟨segments, tail, rfl, hne, htail, hnames⟩ := h.segments hroot
  have htail' : tail.map percentDecode = tail := by
    rcases htail with rfl | rfl
    · rfl
    · rfl
  have hdecoded : percentDecode (['/'].intercalate ([] :: (segments ++ tail)))
      = ['/'].intercalate ([] :: (segments.map percentDecode ++ tail)) := by
    rw [percentDecode_intercalate, List.map_cons, List.map_append, htail']
    rfl
  have hfirst :=
    resolve_plain keepSlash (fun s hs => ⟨(hnames s hs).1, (hnames s hs).2.1⟩) hne htail
  have hnames' : ∀ s ∈ segments.map percentDecode, IsName s ∧ '/' ∉ s := by
    intro s hs
    obtain ⟨t, ht, rfl⟩ := List.mem_map.mp hs
    exact h.isName_percentDecode (hnames t ht)
  have hsecond := resolve_plain keepSlash hnames' (by simpa using hne) htail
  rw [hdecoded, hfirst, hsecond]
  cases keepSlash with
  | true => exact ⟨hdecoded, .inl rfl⟩
  | false =>
      refine ⟨?_, ?_⟩
      · rw [if_neg Bool.false_ne_true, if_neg Bool.false_ne_true, percentDecode_intercalate,
          List.map_cons]
        rfl
      · rw [if_neg Bool.false_ne_true]
        rcases htail with rfl | rfl
        · left
          rw [List.append_nil]
        · right
          rw [← List.cons_append, intercalate_append (List.cons_ne_nil _ _) (List.cons_ne_nil _ _),
            ← List.cons_append, intercalate_append (List.cons_ne_nil _ _) (List.cons_ne_nil _ _)]
          exact ⟨List.suffix_append _ _, rfl⟩

theorem PlainPrefix.trimmed {p : Text} (h : PlainPrefix p) : p = trimEndMatches '/' p ++ ['/'] := by
  obtain ⟨q, rfl⟩ := h.tail
  have hlast : ∀ c rest, q.reverse = c :: rest → c ≠ '/' := by
    rintro c rest hq rfl
    have hq' : q = rest.reverse ++ ['/'] := by
      rw [← List.reverse_reverse q, hq, List.reverse_cons]
    exact h.single ⟨rest.reverse, [], by rw [hq']; simp⟩
  have htrim : trimEndMatches '/' (q ++ ['/']) = q := by
    unfold trimEndMatches
    rw [List.reverse_append, List.reverse_singleton, List.singleton_append,
      List.dropWhile_cons_of_pos (by decide)]
    cases hq : q.reverse with
    | nil =>
        rw [List.reverse_eq_nil_iff.mp hq]
        rfl
    | cons c rest =>
        rw [List.dropWhile_cons_of_neg (by simpa using hlast c rest hq), ← hq, List.reverse_reverse]
  rw [htrim]

/-- **A path in scope stays under its prefix**, whichever of the two steps a server takes first. -/
theorem scope_not_climbed {w : WireEntry} {entry : AllowlistEntry}
    (hvalid : validateEntry w = .ok entry)
    (hscope : entry.pathScope = .prefixes) {pathAndQuery : Text}
    (hin : pathInScope entry pathAndQuery = true) (keepSlash : Bool) {served : Text}
    (hserved : served = resolve keepSlash (percentDecode (pathOf pathAndQuery))
      ∨ served = percentDecode (resolve keepSlash (pathOf pathAndQuery))) :
    ∃ p ∈ entry.pathPrefixes, served = (percentDecode p).dropLast ∨ percentDecode p <+: served := by
  obtain ⟨hplain, p, hp, hunder⟩ := plainPath_of_pathInScope hin hscope
  have hprefix := plainPrefix_of_validateEntry hvalid p hp
  have htrim := hprefix.trimmed
  generalize pathOf pathAndQuery = path at hplain hunder hserved
  have hroot : path ≠ ['/'] := by
    rintro rfl
    rcases hunder with hunder | hunder
    · have hlength := hunder.length_le
      rw [htrim, List.length_append, List.length_singleton] at hlength
      have hnil : trimEndMatches '/' p = [] :=
        List.eq_nil_of_length_eq_zero (by simpa using hlength)
      have hlong := hprefix.long
      rw [htrim, hnil] at hlong
      exact absurd hlong (by decide)
    · rw [← hunder] at htrim
      exact hprefix.single ⟨[], [], htrim.symm⟩
  obtain ⟨hsame, hresult⟩ := hplain.served hroot keepSlash
  have hserved' : served = percentDecode path
    ∨ (['/'] <:+ path ∧ served ++ ['/'] = percentDecode path) := by
    rcases hserved with rfl | rfl
    · exact hresult
    · rw [hsame]
      exact hresult
  have hdecoded : percentDecode p = percentDecode (trimEndMatches '/' p) ++ ['/'] := by
    conv_lhs => rw [htrim]
    exact percentDecode_slash [] _
  refine ⟨p, hp, ?_⟩
  rcases hunder with ⟨rest, hrest⟩ | hdirectory
  · -- what follows the prefix is decoded by itself
    have hpath : percentDecode path = percentDecode p ++ percentDecode rest := by
      have hslash := percentDecode_slash rest (trimEndMatches '/' p)
      rw [hdecoded, ← hrest, htrim, List.append_assoc, List.append_assoc]
      rw [← htrim]
      exact hslash
    rcases hserved' with rfl | ⟨-, hslash⟩
    · exact .inr ⟨_, hpath.symm⟩
    · rw [hpath] at hslash
      rcases List.eq_nil_or_concat' (percentDecode rest) with hnil | ⟨init, last, hlast⟩
      · left
        rw [hnil, List.append_nil] at hslash
        rw [← hslash, List.dropLast_concat]
      · right
        rw [hlast, ← List.append_assoc] at hslash
        exact ⟨init, (List.append_inj' hslash rfl).1.symm⟩
  · left
    rw [hdecoded, List.dropLast_concat, ← hdirectory]
    rcases hserved' with rfl | ⟨⟨q, hq⟩, -⟩
    · rfl
    · refine absurd ?_ hprefix.single
      rw [htrim, ← hdirectory, ← hq, List.append_assoc]
      exact ⟨q, [], by simp⟩

def sampleScopeWire : WireEntry :=
  ⟨4, "a.test".toList, "exact".toList, "prefixes".toList, ["/api/".toList], 60⟩

def sampleScope : AllowlistEntry := ⟨4, "a.test".toList, .exact, .prefixes, ["/api/".toList], 60⟩

theorem sampleScope_valid : validateEntry sampleScopeWire = .ok sampleScope := by
  have hsort : (["/api/".toList].mergeSort fun a b => decide (a ≤ b)).dedup = ["/api/".toList] := by
    rw [List.mergeSort_singleton]
    rfl
  have hentry : validateEntry sampleScopeWire = .ok ⟨4, "a.test".toList, .exact, .prefixes,
      (["/api/".toList].mergeSort fun a b => decide (a ≤ b)).dedup, 60⟩ := rfl
  rw [hentry, hsort]
  rfl

/-- Escapes and a query. -/
theorem scope_not_climbed_sample : ∃ p ∈ sampleScope.pathPrefixes,
    resolve true (percentDecode "/api/%76%31".toList) = (percentDecode p).dropLast
      ∨ percentDecode p <+: resolve true (percentDecode "/api/%76%31".toList) := by
  have hin : pathInScope sampleScope "/api/%76%31?next=/../x".toList = true := by decide
  exact scope_not_climbed sampleScope_valid rfl hin true (.inl rfl)

end GoatCoin.Worker
