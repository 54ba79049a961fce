/-
# `GoatCoin.Lib.UriPath` — what a server makes of the path of a request

Two steps, and servers differ in which comes first:

    percentDecode   `%41` is `A`; a `%` that two hexadecimal digits do not follow is itself
    resolve         `.` and empty segments go, `..` takes the segment before it

A byte is the character of its number.  Whether a path keeps a `/` at its end is another thing
servers differ in, and a parameter of `resolve`.  A `/` ends an escape, so decoding goes by segments
(`percentDecode_intercalate`), and of segments that are all names, resolving takes at most the `/`
at the end (`resolve_plain`).
-/
import GoatCoin.Lib.Text

namespace UriPath

open Text

/-! ## Escapes -/

/-- The character that two hexadecimal digits stand for. -/
def escaped (a b : Char) : Option Char :=
  (digitValue a).bind fun x => (digitValue b).map fun y => Char.ofNat (16 * x + y)

variable {a b c : Char} {s : Text} {segments : List Text}

theorem digitValue_cases {x : Nat} (h : digitValue c = some x) :
    (48 ≤ c.toNat ∧ c.toNat ≤ 57 ∧ x = c.toNat - 48)
    ∨ (97 ≤ c.toNat ∧ c.toNat ≤ 102 ∧ x = c.toNat - 87)
      ∨ (65 ≤ c.toNat ∧ c.toNat ≤ 70 ∧ x = c.toNat - 55) := by
  have hle : ∀ d e : Char, d ≤ e ↔ d.toNat ≤ e.toNat := fun _ _ => Iff.rfl
  unfold digitValue isAsciiDigit at h
  simp only [Bool.and_eq_true, decide_eq_true_eq, hle] at h
  split_ifs at h with hdigit hlower hupper
  · cases h
    exact .inl ⟨hdigit.1, hdigit.2, rfl⟩
  · cases h
    exact .inr (.inl ⟨hlower.1, hlower.2, rfl⟩)
  · cases h
    exact .inr (.inr ⟨hupper.1, hupper.2, rfl⟩)

theorem escaped_toNat (h : escaped a b = some c) :
    ∃ x y, digitValue a = some x ∧ digitValue b = some y ∧ c.toNat = 16 * x + y := by
  unfold escaped at h
  obtain ⟨x, hx, h⟩ := Option.bind_eq_some_iff.mp h
  obtain ⟨y, hy, rfl⟩ := Option.map_eq_some_iff.mp h
  have hxcases := digitValue_cases hx
  have hycases := digitValue_cases hy
  have hvalid : (16 * x + y).isValidChar := .inl (by omega)
  refine ⟨x, y, hx, hy, ?_⟩
  unfold Char.ofNat
  rw [dif_pos hvalid]
  rfl

theorem lower_escaped (h : escaped a b = some c) (hc : c = '.' ∨ c = '/') :
    toAsciiLowercase ['%', a, b] = if c = '.' then ['%', '2', 'e'] else ['%', '2', 'f'] := by
  obtain ⟨x, y, hx, hy, hvalue⟩ := escaped_toNat h
  have hxcases := digitValue_cases hx
  have hycases := digitValue_cases hy
  have hofNat : ∀ (d : Char) (n : Nat), d.toNat = n → d = Char.ofNat n := by
    rintro d n rfl
    exact (Char.ofNat_toNat d).symm
  rcases hc with rfl | rfl
  · have hfirst : a = '2' := hofNat a 50 (by simp at hvalue; omega)
    have hsecond : b = 'e' ∨ b = 'E' := by
      have hnat : b.toNat = 101 ∨ b.toNat = 69 := by simp at hvalue; omega
      exact hnat.imp (hofNat b 101) (hofNat b 69)
    rw [hfirst]
    rcases hsecond with rfl | rfl
    · decide
    · decide
  · have hfirst : a = '2' := hofNat a 50 (by simp at hvalue; omega)
    have hsecond : b = 'f' ∨ b = 'F' := by
      have hnat : b.toNat = 102 ∨ b.toNat = 70 := by simp at hvalue; omega
      exact hnat.imp (hofNat b 102) (hofNat b 70)
    rw [hfirst]
    rcases hsecond with rfl | rfl
    · decide
    · decide

/-- The escapes of a text, decoded once. -/
def percentDecode : Text → Text
  | [] => []
  | [c] => [c]
  | [c, d] => [c, d]
  | c :: a :: b :: rest =>
      if c = '%' then
        match escaped a b with
        | some d => d :: percentDecode rest
        | none => c :: percentDecode (a :: b :: rest)
      else c :: percentDecode (a :: b :: rest)

theorem escaped_slash (a b : Char) (h : a = '/' ∨ b = '/') : escaped a b = none := by
  have hslash : digitValue '/' = none := by decide
  unfold escaped
  rcases h with rfl | rfl
  · rw [hslash]
    rfl
  · rw [hslash]
    cases digitValue a with
    | none => rfl
    | some x => rfl

/-- No escape begins a text. -/
def Unescaped (s : Text) : Prop := ∀ a b rest, s = a :: b :: rest → escaped a b = none

theorem percentDecode_cons (h : c ≠ '%') (s : Text) :
    percentDecode (c :: s) = c :: percentDecode s := by
  match s with
  | [] => rfl
  | [_] => rfl
  | a :: b :: rest => rw [percentDecode, if_neg h]

theorem percentDecode_escape {d : Char} (h : escaped a b = some d) (s : Text) :
    percentDecode ('%' :: a :: b :: s) = d :: percentDecode s := by
  rw [percentDecode, if_pos rfl, h]

theorem percentDecode_percent (h : Unescaped s) :
    percentDecode ('%' :: s) = '%' :: percentDecode s := by
  match s with
  | [] => rfl
  | [_] => rfl
  | a :: b :: rest => rw [percentDecode, if_pos rfl, h a b rest rfl]

/-- **The induction rule**: an escape, a `%` that begins none, or another character. -/
theorem decode_rec {P : Text → Prop} (hnil : P []) (hcons : ∀ c s, c ≠ '%' → P s → P (c :: s))
    (hescape : ∀ a b d s, escaped a b = some d → P s → P ('%' :: a :: b :: s))
    (hpercent : ∀ s, Unescaped s → P s → P ('%' :: s)) (s : Text) : P s := by
  induction hlength : s.length using Nat.strong_induction_on generalizing s with
  | _ n ih =>
      subst hlength
      match s with
      | [] => exact hnil
      | c :: s =>
          have hs : P s := ih s.length (Nat.lt_succ_self _) s rfl
          by_cases hc : c = '%'
          · subst hc
            by_cases hplain : Unescaped s
            · exact hpercent s hplain hs
            · unfold Unescaped at hplain
              push Not at hplain
              obtain ⟨a, b, rest, rfl, hsome⟩ := hplain
              obtain ⟨d, hd⟩ := Option.ne_none_iff_exists'.mp hsome
              refine hescape a b d rest hd (ih rest.length ?_ rest rfl)
              simp only [List.length_cons]
              omega
          · exact hcons c s hc hs

/-- **A `/` ends an escape.** -/
theorem percentDecode_slash (t s : Text) :
    percentDecode (s ++ '/' :: t) = percentDecode s ++ '/' :: percentDecode t := by
  induction s using decode_rec with
  | hnil => exact percentDecode_cons (by decide) t
  | hcons c s hc ih =>
      rw [List.cons_append, percentDecode_cons hc, percentDecode_cons hc, ih]
      rfl
  | hescape a b d s hd ih =>
      rw [List.cons_append, List.cons_append, List.cons_append, percentDecode_escape hd,
        percentDecode_escape hd, ih]
      rfl
  | hpercent s hs ih =>
      have hplain : Unescaped (s ++ '/' :: t) := by
        intro a b rest heq
        match s, hs, heq with
        | [], _, heq => exact escaped_slash a b (.inl (List.cons.inj heq).1.symm)
        | [x], _, heq => exact escaped_slash a b (.inr (List.cons.inj (List.cons.inj heq).2).1.symm)
        | x :: y :: s, hs, heq =>
            obtain ⟨rfl, htail⟩ := List.cons.inj heq
            obtain ⟨rfl, -⟩ := List.cons.inj htail
            exact hs x y s rfl
      rw [List.cons_append, percentDecode_percent hplain, percentDecode_percent hs, ih]
      rfl

theorem percentDecode_intercalate (segments : List Text) :
    percentDecode (['/'].intercalate segments)
    = ['/'].intercalate (segments.map percentDecode) := by
  induction segments with
  | nil => rfl
  | cons segment segments ih =>
      cases segments with
      | nil =>
          rw [List.map_singleton, List.intercalate_singleton, List.intercalate_singleton]
      | cons next segments =>
          rw [List.map_cons, List.map_cons, List.intercalate_cons_cons, List.intercalate_cons_cons,
            ← List.map_cons, ← ih, List.append_assoc, List.append_assoc]
          exact percentDecode_slash _ segment

theorem percentDecode_eq_nil : percentDecode s = [] ↔ s = [] := by
  induction s using decode_rec with
  | hnil => exact Iff.rfl
  | hcons c s hc _ => rw [percentDecode_cons hc]; simp
  | hescape a b d s hd _ => rw [percentDecode_escape hd]; simp
  | hpercent s hs _ => rw [percentDecode_percent hs]; simp

/-- A text has an escape of a character. -/
def HasEscape (c : Char) (s : Text) : Prop := ∃ a b, escaped a b = some c ∧ ['%', a, b] <:+: s

theorem HasEscape.cons {d : Char} (h : HasEscape c s) : HasEscape c (d :: s) := by
  obtain ⟨a, b, hab, hs⟩ := h
  exact ⟨a, b, hab, hs.trans (List.infix_cons (List.infix_refl s))⟩

theorem mem_percentDecode (h : c ∈ percentDecode s) : c ∈ s ∨ HasEscape c s := by
  induction s using decode_rec with
  | hnil => exact .inl h
  | hcons d s hd ih =>
      rw [percentDecode_cons hd] at h
      rcases List.mem_cons.mp h with rfl | h
      · exact .inl List.mem_cons_self
      · exact (ih h).imp (List.mem_cons_of_mem d) .cons
  | hescape a b d s hd ih =>
      rw [percentDecode_escape hd] at h
      rcases List.mem_cons.mp h with rfl | h
      · exact .inr ⟨a, b, hd, ⟨[], s, rfl⟩⟩
      · refine (ih h).imp (fun hc => ?_) fun hc => hc.cons.cons.cons
        exact List.mem_cons_of_mem _ (List.mem_cons_of_mem _ (List.mem_cons_of_mem _ hc))
  | hpercent s hs ih =>
      rw [percentDecode_percent hs] at h
      rcases List.mem_cons.mp h with rfl | h
      · exact .inl List.mem_cons_self
      · exact (ih h).imp (List.mem_cons_of_mem _) .cons

theorem percentDecode_dots (hdots : ∀ c ∈ percentDecode s, c = '.') (h : ¬ HasEscape '.' s) :
    percentDecode s = s := by
  induction s using decode_rec with
  | hnil => rfl
  | hcons d s hd ih =>
      rw [percentDecode_cons hd] at hdots ⊢
      rw [ih (fun c hc => hdots c (List.mem_cons_of_mem _ hc)) fun hs => h hs.cons]
  | hescape a b d s hd ih =>
      rw [percentDecode_escape hd] at hdots
      have hdot : d = '.' := hdots d List.mem_cons_self
      subst hdot
      exact absurd ⟨a, b, hd, ⟨[], s, rfl⟩⟩ h
  | hpercent s hs ih =>
      rw [percentDecode_percent hs] at hdots
      have hdot : '%' = '.' := hdots '%' List.mem_cons_self
      exact absurd hdot (by decide)

/-! ## Segments -/

theorem not_mem_of_mem_splitOn : ∀ segment ∈ s.splitOn c, c ∉ segment := by
  induction s with
  | nil =>
      intro segment hsegment
      rw [List.splitOn_nil] at hsegment
      rw [List.mem_singleton.mp hsegment]
      exact List.not_mem_nil
  | cons d s ih =>
      intro segment hsegment
      rw [List.splitOn_cons_eq_if_modifyHead] at hsegment
      split_ifs at hsegment with hd
      · rcases List.mem_cons.mp hsegment with rfl | hsegment
        · exact List.not_mem_nil
        · exact ih segment hsegment
      · obtain ⟨first, rest, hsplit⟩ := List.exists_cons_of_ne_nil (List.splitOn_ne_nil c s)
        rw [hsplit] at hsegment ih
        rcases List.mem_cons.mp hsegment with rfl | hsegment
        · intro hc
          rcases List.mem_cons.mp hc with rfl | hc
          · exact hd (beq_self_eq_true c)
          · exact ih first List.mem_cons_self hc
        · exact ih segment (List.mem_cons_of_mem first hsegment)

theorem intercalate_append {before after : List Text} (hbefore : before ≠ [])
    (hafter : after ≠ []) :
    ['/'].intercalate (before ++ after) = ['/'].intercalate before ++ '/'
    :: ['/'].intercalate after := by
  induction before with
  | nil => exact absurd rfl hbefore
  | cons segment before ih =>
      cases before with
      | nil =>
          rw [List.singleton_append, List.intercalate_cons_of_ne_nil hafter,
            List.intercalate_singleton, List.append_assoc]
          rfl
      | cons next before =>
          have htail := ih (List.cons_ne_nil _ _)
          rw [List.cons_append, List.cons_append, List.intercalate_cons_cons,
            ← List.cons_append, htail,
            List.intercalate_cons_cons, List.append_assoc, List.append_assoc, List.append_assoc]

theorem infix_intercalate {segment : Text} (h : segment ∈ segments) :
    segment <:+: ['/'].intercalate segments := by
  induction segments with
  | nil => cases h
  | cons first segments ih =>
      cases segments with
      | nil =>
          rw [List.mem_singleton.mp h, List.intercalate_singleton]
      | cons next segments =>
          rw [List.intercalate_cons_cons]
          rcases List.mem_cons.mp h with rfl | h
          · exact ⟨[], ['/'] ++ ['/'].intercalate (next :: segments), by
              rw [List.nil_append, List.append_assoc]⟩
          · exact (ih h).trans (List.suffix_append _ _).isInfix

/-- A segment is a name: not empty, and no `.` or `..`. -/
def IsName (segment : Text) : Prop := segment ≠ [] ∧ segment ≠ ['.'] ∧ segment ≠ ['.', '.']

/-- What a segment does to those before it. -/
def resolveSegment (kept : List Text) (segment : Text) : List Text :=
  if segment = [] ∨ segment = ['.'] then kept
  else if segment = ['.', '.'] then kept.dropLast
  else kept ++ [segment]

/-- A path without `.`, `..` and empty segments; the `/` after a directory is kept or not. -/
def resolve (keepSlash : Bool) (path : Text) : Text :=
  let segments := (path.splitOn '/').drop 1
  let kept := segments.foldl resolveSegment []
  let directory := segments.getLast? = some [] ∨ segments.getLast? = some ['.']
    ∨ segments.getLast? = some ['.', '.']
  ['/'].intercalate ([] :: if kept = [] ∨ (keepSlash ∧ directory) then kept ++ [[]] else kept)

theorem foldl_resolveSegment (h : ∀ s ∈ segments, IsName s) : ∀ kept,
    segments.foldl resolveSegment kept = kept ++ segments := by
  induction segments with
  | nil =>
      intro kept
      exact (List.append_nil kept).symm
  | cons s segments ih =>
      intro kept
      obtain ⟨hempty, hdot, hdots⟩ := h s List.mem_cons_self
      have hname : resolveSegment kept s = kept ++ [s] := by
        unfold resolveSegment
        rw [if_neg (not_or.mpr ⟨hempty, hdot⟩), if_neg hdots]
      rw [List.foldl_cons, hname, ih fun t ht => h t (List.mem_cons_of_mem s ht), List.append_assoc]
      rfl

/-- **Names stay as they are**, and of what follows them only a `/` at the end can go. -/
theorem resolve_plain (keepSlash : Bool) {tail : List Text}
    (hnames : ∀ s ∈ segments, IsName s ∧ '/' ∉ s)
    (hne : segments ≠ []) (htail : tail = [] ∨ tail = [[]]) :
    resolve keepSlash (['/'].intercalate ([] :: (segments ++ tail)))
      = ['/'].intercalate ([] :: if keepSlash then segments ++ tail else segments) := by
  have hsplit : (['/'].intercalate ([] :: (segments ++ tail))).splitOn '/'
    = [] :: (segments ++ tail) := by
    refine List.splitOn_intercalate '/' (fun s hs => ?_) (List.cons_ne_nil _ _)
    rcases List.mem_cons.mp hs with rfl | hs
    · exact List.not_mem_nil
    rcases List.mem_append.mp hs with hs | hs
    · exact (hnames s hs).2
    · rcases htail with rfl | rfl
      · cases hs
      · rw [List.mem_singleton.mp hs]
        exact List.not_mem_nil
  have hkept : (segments ++ tail).foldl resolveSegment [] = segments := by
    rw [List.foldl_append, foldl_resolveSegment (fun s hs => (hnames s hs).1), List.nil_append]
    rcases htail with rfl | rfl
    · rfl
    · have hempty : resolveSegment segments [] = segments := if_pos (Or.inl rfl)
      exact hempty
  unfold resolve
  rw [hsplit, List.drop_one, List.tail_cons]
  dsimp only
  rw [hkept]
  rcases htail with rfl | rfl
  · -- the last segment is a name
    obtain ⟨hempty, hdot, hdots⟩ := (hnames _ (List.getLast_mem hne)).1
    rw [List.append_nil, List.getLast?_eq_some_getLast hne]
    simp [hne, hempty, hdot, hdots]
  · simp [hne]

end UriPath
