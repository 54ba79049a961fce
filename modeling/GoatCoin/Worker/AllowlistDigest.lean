/-
# `GoatCoin.Worker.AllowlistDigest` — `destinations.rs` over any table that `build` accepts

The node names destinations by number and the desktop by slug.  A table is accepted if its rows are
numbered from one on and its slugs are apart, so each name is of one row, and what a list says is
the same either way:

    (slug, host) ─┐
                  ├─→ (row of the table, host) ─→ sorted by number ─→ text
    (id, host)  ──┘

Two lists have one text exactly when they say the same, in whatever order, and say nothing twice.
-/
import GoatCoin.Worker.Destinations

namespace GoatCoin.Worker.Destinations

open Text
open Evm (require bind_ok bind_ok₄ require_ok mapM_ok forM_ok)

/-! ## Names in a table -/

section
variable (table : List Destination)

def namedBySlug (slug : Text) : Option Destination := table.find? fun d => d.slug = slug

def namedById (id : Nat) : Option Destination := table.find? fun d => d.id = id

def slugForIdIn (id : Nat) : Except RegistryError Text :=
  match namedById table id with
  | some d => .ok d.slug
  | none => .error (.unknownId id)

def idForSlugIn (slug : Text) : Except RegistryError Nat :=
  match namedBySlug table slug with
  | some d => .ok d.id
  | none => .error (.unknownSlug slug)

def rowByIdIn (entry : Nat × Text) : Except RegistryError Row := do
  let slug ← slugForIdIn table entry.1
  return ⟨entry.1, slug, entry.2⟩

def rowBySlugIn (entry : Text × Text) : Except RegistryError Row := do
  let id ← idForSlugIn table entry.1
  let slug ← slugForIdIn table id
  return ⟨id, slug, entry.2⟩

/-- `canonical_preimage_by_id`, over a table. -/
def canonicalPreimageByIdIn (entries : List (Nat × Text)) : Except RegistryError Text := do
  let rows ← entries.mapM (rowByIdIn table)
  render rows

/-- `canonical_preimage_by_slug`, over a table. -/
def canonicalPreimageBySlugIn (entries : List (Text × Text)) : Except RegistryError Text := do
  let rows ← entries.mapM (rowBySlugIn table)
  render rows

end

theorem canonicalPreimageById_eq {table : List Destination} (h : registry = .ok table) :
    canonicalPreimageById = canonicalPreimageByIdIn table := by
  have hslug : ∀ id, slugForId id = slugForIdIn table id := by
    intro id
    unfold slugForId
    rw [h]
    rfl
  funext entries
  unfold canonicalPreimageById canonicalPreimageByIdIn
  have hrow : rowById = rowByIdIn table := by
    funext entry
    unfold rowById
    rw [hslug]
    rfl
  rw [hrow]

theorem canonicalPreimageBySlug_eq {table : List Destination} (h : registry = .ok table) :
    canonicalPreimageBySlug = canonicalPreimageBySlugIn table := by
  have hslug : slugForId = slugForIdIn table := by
    funext id
    unfold slugForId
    rw [h]
    rfl
  have hid : idForSlug = idForSlugIn table := by
    funext slug
    unfold idForSlug
    rw [h]
    rfl
  funext entries
  unfold canonicalPreimageBySlug canonicalPreimageBySlugIn
  have hrow : rowBySlug = rowBySlugIn table := by
    funext entry
    unfold rowBySlug
    rw [hslug, hid]
    rfl
  rw [hrow]

/-! ## A table that is accepted -/

/-- Numbers and slugs each name one row, and no slug has a separator in it. -/
structure OneToOne (table : List Destination) : Prop where
  ids : (table.map (·.id)).Nodup
  slugs : (table.map (·.slug)).Nodup
  clean : ∀ d ∈ table, unitSeparator ∉ d.slug

theorem checkOneToOne_nodup {rest : List Destination} : ∀ {seen : List Destination},
    (seen.map (·.slug)).Nodup →
    checkOneToOne seen rest = .ok () → ((seen.reverse ++ rest).map (·.slug)).Nodup := by
  induction rest with
  | nil =>
      intro seen hseen _
      rw [List.append_nil, List.map_reverse]
      exact List.nodup_reverse.mpr hseen
  | cons d rest ih =>
      intro seen hseen h
      unfold checkOneToOne at h
      split at h
      · cases h
      · rename_i hfind
        have hnew : d.slug ∉ seen.map (·.slug) := by
          intro hmem
          obtain ⟨e, he, heq⟩ := List.mem_map.mp hmem
          exact absurd (decide_eq_true heq) (List.find?_eq_none.mp hfind e he)
        have hnext := @ih (d :: seen) (List.nodup_cons.mpr ⟨hnew, hseen⟩) h
        rwa [List.reverse_cons, List.append_assoc] at hnext

theorem oneToOne_of_build {schemaId : Text} {destinations table : List Destination}
    (h : build schemaId destinations = .ok table) : OneToOne table := by
  obtain ⟨-, -, -, -, _, hrows, _, hslugs, h⟩ := bind_ok₄.mp h
  cases h
  have hrow : ∀ i (hi : i < destinations.length), destinations[i].id = i + 1
      ∧ checkSlug destinations[i].slug = .ok () := by
    intro i hi
    have hcheck := forM_ok.mp hrows (destinations[i], i)
      (List.mem_zipIdx_iff_getElem?.mpr (List.getElem?_eq_getElem hi))
    obtain ⟨_, hid, hslug⟩ := bind_ok.mp hcheck
    exact ⟨require_ok.mp hid, hslug⟩
  refine ⟨?_, ?_, ?_⟩
  · have hids : destinations.map (·.id) = (List.range destinations.length).map (· + 1) := by
      refine List.ext_getElem (by simp) fun i hi _ => ?_
      rw [List.length_map] at hi
      rw [List.getElem_map, List.getElem_map, List.getElem_range, (hrow i hi).1]
    rw [hids]
    exact List.nodup_range.map (Nat.succ_injective)
  · have hnone : (([] : List Destination).map (·.slug)).Nodup := List.nodup_nil
    exact checkOneToOne_nodup hnone hslugs
  · intro d hd
    obtain ⟨i, hi, rfl⟩ := List.mem_iff_getElem.mp hd
    exact checkSlug_clean (hrow i hi).2

namespace OneToOne

variable {table : List Destination}

theorem namedById_some {id : Nat} {d : Destination} (h : namedById table id = some d) : d ∈ table
    ∧ d.id = id := by
  unfold namedById at h
  exact ⟨List.mem_of_find?_eq_some h, by simpa using List.find?_some h⟩

theorem namedById_of_mem (h : OneToOne table) {d : Destination} (hd : d ∈ table) :
    namedById table d.id = some d := by
  obtain ⟨e, he⟩ : ∃ e, namedById table d.id = some e := by
    refine Option.ne_none_iff_exists'.mp fun hnone => ?_
    exact absurd (decide_eq_true rfl) (List.find?_eq_none.mp hnone d hd)
  obtain ⟨hmem, hid⟩ := namedById_some he
  have hsame := List.inj_on_of_nodup_map h.ids hmem hd hid
  rw [he, hsame]

theorem rowByIdIn_ok (entry : Nat × Text) (r : Row) :
    rowByIdIn table entry = .ok r
    ↔ ∃ d, namedById table entry.1 = some d ∧ r = ⟨d.id, d.slug, entry.2⟩ := by
  unfold rowByIdIn slugForIdIn
  cases hfind : namedById table entry.1 with
  | none =>
      constructor
      · intro h
        cases h
      · rintro ⟨_, h, _⟩
        cases h
  | some d =>
      have hid : d.id = entry.1 := (namedById_some hfind).2
      constructor
      · intro h
        cases h
        exact ⟨d, rfl, by rw [hid]⟩
      · rintro ⟨e, he, rfl⟩
        cases he
        rw [hid]
        rfl

theorem rowBySlugIn_ok (h : OneToOne table) (entry : Text × Text) (r : Row) :
    rowBySlugIn table entry = .ok r
    ↔ ∃ d, namedBySlug table entry.1 = some d ∧ r = ⟨d.id, d.slug, entry.2⟩ := by
  unfold rowBySlugIn idForSlugIn
  cases hfind : namedBySlug table entry.1 with
  | none =>
      constructor
      · intro h
        cases h
      · rintro ⟨_, h, _⟩
        cases h
  | some d =>
      have hback : slugForIdIn table d.id = .ok d.slug := by
        unfold slugForIdIn
        rw [h.namedById_of_mem (List.mem_of_find?_eq_some hfind)]
      have hrow : (do
          let id ← Except.ok d.id
          let slug ← slugForIdIn table id
          return (⟨id, slug, entry.2⟩ : Row)) = .ok ⟨d.id, d.slug, entry.2⟩ := by
        show (slugForIdIn table d.id >>= fun slug => pure (⟨d.id, slug, entry.2⟩ : Row)) = _
        rw [hback]
        rfl
      constructor
      · intro h
        have hr := hrow.symm.trans h
        cases hr
        exact ⟨d, rfl, rfl⟩
      · rintro ⟨e, he, rfl⟩
        cases he
        exact hrow

end OneToOne

/-! ## What a list says -/

/-- The row of a destination with its host. -/
def rowOf (named : Destination × Text) : Row := ⟨named.1.id, named.1.slug, named.2⟩

/-- The text of a list of rows of the table, each with its host; a name that names nothing has
none. -/
def Canonical (list : List (Option Destination × Text)) (text : Text) : Prop :=
  ∃ named : List (Destination × Text), list = named.map (fun d => (some d.1, d.2))
    ∧ render (named.map rowOf) = .ok text

/-- **Both renderings, by what the list says.** -/
theorem mapM_canonical {κ : Type} {row : κ × Text → Except RegistryError Row}
    {name : κ → Option Destination}
    (hrow : ∀ entry r, row entry = .ok r ↔ ∃ d, name entry.1 = some d ∧ r = ⟨d.id, d.slug, entry.2⟩)
    (entries : List (κ × Text)) (text : Text) :
    (do let rows ← entries.mapM row; render rows) = .ok text
      ↔ Canonical (entries.map fun e => (name e.1, e.2)) text := by
  have hrows : ∀ rows, entries.mapM row = .ok rows ↔ ∃ named : List (Destination × Text),
      (entries.map fun e => (name e.1, e.2)) = named.map (fun d => (some d.1, d.2))
      ∧ rows = named.map rowOf := by
    intro rows
    rw [mapM_ok]
    induction entries generalizing rows with
    | nil =>
        constructor
        · intro h
          cases h
          exact ⟨[], rfl, rfl⟩
        · rintro ⟨named, hnamed, rfl⟩
          rw [List.map_eq_nil_iff.mp hnamed.symm]
          exact .nil
    | cons entry entries ih =>
        constructor
        · intro h
          cases h with
          | cons hfirst hrest =>
              obtain ⟨d, hd, rfl⟩ := (hrow _ _).mp hfirst
              obtain ⟨named, hnamed, rfl⟩ := (ih _).mp hrest
              exact ⟨(d, entry.2) :: named, by rw [List.map_cons, List.map_cons, hd, hnamed], rfl⟩
        · rintro ⟨named, hnamed, rfl⟩
          cases named with
          | nil => cases hnamed
          | cons d named =>
              obtain ⟨hfirst, hrest⟩ := List.cons.inj hnamed
              obtain ⟨hname, hhost⟩ := Prod.mk.inj hfirst
              refine .cons ((hrow _ _).mpr ⟨d.1, hname, ?_⟩) ((ih _).mpr ⟨named, hrest, rfl⟩)
              rw [hhost]
              rfl
  rw [bind_ok]
  constructor
  · rintro ⟨rows, hmap, hrender⟩
    obtain ⟨named, hnamed, rfl⟩ := (hrows rows).mp hmap
    exact ⟨named, hnamed, hrender⟩
  · rintro ⟨named, hnamed, hrender⟩
    exact ⟨named.map rowOf, (hrows _).mpr ⟨named, hnamed, rfl⟩, hrender⟩

/-! ## The order of a list -/

theorem firstRepeat_none {rows : List Row} (hsorted : rows.Pairwise fun a b => a.id ≤ b.id)
    (h : firstRepeat rows = none) : (rows.map (·.id)).Nodup := by
  induction rows with
  | nil => exact List.nodup_nil
  | cons a rows ih =>
      obtain ⟨hfirst, hrest⟩ := List.pairwise_cons.mp hsorted
      cases rows with
      | nil => exact List.nodup_singleton _
      | cons b rows =>
          unfold firstRepeat at h
          split at h
          · cases h
          · rename_i hne
            refine List.nodup_cons.mpr ⟨fun hmem => ?_, ih hrest h⟩
            -- what is sorted after the second is not below it
            obtain ⟨r, hr, hid⟩ := List.mem_map.mp hmem
            have hlow := hfirst b List.mem_cons_self
            have hhigh : b.id ≤ r.id := by
              rcases List.mem_cons.mp hr with rfl | hr
              · exact le_rfl
              · exact (List.pairwise_cons.mp hrest).1 r hr
            exact hne (Nat.le_antisymm hlow (hhigh.trans_eq hid))

theorem sorted_mergeSort (rows : List Row) :
    (rows.mergeSort fun a b => decide (a.id ≤ b.id)).Pairwise fun a b => a.id ≤ b.id := by
  have hsorted : (rows.mergeSort fun a b => decide (a.id ≤ b.id)).Pairwise
      fun a b => decide (a.id ≤ b.id) = true :=
    List.pairwise_mergeSort
      (fun a b c hab hbc => decide_eq_true ((of_decide_eq_true hab).trans (of_decide_eq_true hbc)))
      (fun a b => by simpa using Nat.le_total a.id b.id) rows
  exact hsorted.imp fun h => of_decide_eq_true h

/-- **A list in another order has the same text.** -/
theorem render_perm {rows rows' : List Row} {text : Text} (h : render rows = .ok text)
    (hperm : rows.Perm rows') : render rows' = .ok text := by
  have hnone : firstRepeat (rows.mergeSort fun a b => decide (a.id ≤ b.id)) = none := by
    unfold render at h
    dsimp only at h
    split at h
    · cases h
    · assumption
  have hnodup := firstRepeat_none (sorted_mergeSort rows) hnone
  have hsorts : (rows.mergeSort fun a b => decide (a.id ≤ b.id)).Perm
      (rows'.mergeSort fun a b => decide (a.id ≤ b.id)) :=
    (List.mergeSort_perm _ _).trans (hperm.trans (List.mergeSort_perm _ _).symm)
  have hsame : (rows.mergeSort fun a b => decide (a.id ≤ b.id))
      = rows'.mergeSort fun a b => decide (a.id ≤ b.id) := by
    refine List.Perm.eq_of_pairwise (fun a b ha hb hab hba => ?_) (sorted_mergeSort rows)
      (sorted_mergeSort rows') hsorts
    exact List.inj_on_of_nodup_map hnodup ha (hsorts.mem_iff.mpr hb) (Nat.le_antisymm hab hba)
  unfold render at h ⊢
  rwa [← hsame]

/-- The names of a list that are names of something. -/
def known (list : List (Option Destination × Text)) : List (Destination × Text) :=
  list.filterMap fun e => e.1.map fun d => (d, e.2)

theorem known_map (named : List (Destination × Text)) :
    known (named.map fun d => (some d.1, d.2)) = named := by
  unfold known
  rw [List.filterMap_map]
  exact List.filterMap_some

theorem map_known {list : List (Option Destination × Text)} (h : ∀ e ∈ list, e.1 ≠ none) :
    list = (known list).map fun d => (some d.1, d.2) := by
  induction list with
  | nil => rfl
  | cons e list ih =>
      obtain ⟨d, hd⟩ := Option.ne_none_iff_exists'.mp (h e List.mem_cons_self)
      have htail := ih fun x hx => h x (List.mem_cons_of_mem e hx)
      have hhead : known (e :: list) = (d, e.2) :: known list := by
        unfold known
        rw [List.filterMap_cons, hd]
        rfl
      rw [hhead, List.map_cons, ← htail, ← hd]

theorem Canonical.perm {list list' : List (Option Destination × Text)} {text : Text}
    (h : Canonical list text) (hperm : list.Perm list') : Canonical list' text := by
  obtain ⟨named, rfl, hrender⟩ := h
  have hknown : ∀ e ∈ list', e.1 ≠ none := by
    intro e he
    obtain ⟨d, -, rfl⟩ := List.mem_map.mp (hperm.mem_iff.mpr he)
    exact Option.some_ne_none d.1
  have hnamed : named.Perm (known list') := by
    have hfilter := hperm.filterMap fun e => e.1.map fun d => (d, e.2)
    have hsame := known_map named
    unfold known at hsame
    rw [hsame] at hfilter
    exact hfilter
  exact ⟨known list', map_known hknown, render_perm hrender (hnamed.map rowOf)⟩

/-- **A text determines what the list says.** -/
theorem Canonical.inj {list list' : List (Option Destination × Text)} {text : Text}
    (h : Canonical list text)
    (h' : Canonical list' text) (hclean : ∀ d host, (some d, host) ∈ list → unitSeparator ∉ d.slug)
    (hclean' : ∀ d host, (some d, host) ∈ list' → unitSeparator ∉ d.slug) : list.Perm list' := by
  obtain ⟨named, rfl, hrender⟩ := h
  obtain ⟨named', rfl, hrender'⟩ := h'
  have hslug : ∀ {named : List (Destination × Text)},
      (∀ d host, (some d, host) ∈ named.map (fun d => (some d.1, d.2)) → unitSeparator ∉ d.slug) →
      ∀ r ∈ named.map rowOf, unitSeparator ∉ r.slug := by
    intro named hclean r hr
    obtain ⟨d, hd, rfl⟩ := List.mem_map.mp hr
    exact hclean d.1 d.2 (List.mem_map.mpr ⟨d, hd, rfl⟩)
  have hrows := render_inj (hslug hclean) (hslug hclean') hrender hrender'
  have hinjective : Function.Injective rowOf := by
    rintro ⟨⟨id, slug⟩, host⟩ ⟨⟨id', slug'⟩, host'⟩ heq
    obtain ⟨rfl, rfl, rfl⟩ := Row.mk.inj heq
    rfl
  exact ((List.map_perm_map_iff hinjective).mp hrows).map _

/-! ## Any table -/

section
variable {table : List Destination} (h : OneToOne table)
include h

theorem bySlug_canonical (entries : List (Text × Text)) (text : Text) :
    canonicalPreimageBySlugIn table entries = .ok text
      ↔ Canonical (entries.map fun e => (namedBySlug table e.1, e.2)) text :=
  mapM_canonical h.rowBySlugIn_ok entries text

theorem bySlug_clean {entries : List (Text × Text)} (d : Destination) (host : Text)
    (hd : (some d, host) ∈ entries.map fun e => (namedBySlug table e.1, e.2)) :
    unitSeparator ∉ d.slug := by
  obtain ⟨e, -, he⟩ := List.mem_map.mp hd
  exact h.clean d (List.mem_of_find?_eq_some (Prod.mk.inj he).1)

theorem byId_clean {entries : List (Nat × Text)} (d : Destination) (host : Text)
    (hd : (some d, host) ∈ entries.map fun e => (namedById table e.1, e.2)) :
    unitSeparator ∉ d.slug := by
  obtain ⟨e, -, he⟩ := List.mem_map.mp hd
  exact h.clean d (List.mem_of_find?_eq_some (Prod.mk.inj he).1)

end

theorem byId_canonical (table : List Destination) (entries : List (Nat × Text)) (text : Text) :
    canonicalPreimageByIdIn table entries = .ok text
      ↔ Canonical (entries.map fun e => (namedById table e.1, e.2)) text :=
  mapM_canonical OneToOne.rowByIdIn_ok entries text

/-- **One text for the node and the desktop**, in whatever order, and of one set of destinations. -/
theorem one_canonical_text (schemaId : Text) (destinations table : List Destination)
    (h : build schemaId destinations = .ok table) :
    (∀ bySlug byId, (bySlug.map fun e => (namedBySlug table e.1, e.2)).Perm
        (byId.map fun e => (namedById table e.1, e.2)) →
      ∀ text, canonicalPreimageBySlugIn table bySlug = .ok text
      ↔ canonicalPreimageByIdIn table byId = .ok text)
    ∧ (∀ entries entries' text, entries.Perm entries' →
      canonicalPreimageBySlugIn table entries = .ok text →
        canonicalPreimageBySlugIn table entries' = .ok text)
    ∧ (∀ entries entries' text, entries.Perm entries' →
      canonicalPreimageByIdIn table entries = .ok text →
        canonicalPreimageByIdIn table entries' = .ok text)
    ∧ (∀ entries entries' text, canonicalPreimageBySlugIn table entries = .ok text →
        canonicalPreimageBySlugIn table entries' = .ok text →
        (entries.map fun e => (namedBySlug table e.1, e.2)).Perm
          (entries'.map fun e => (namedBySlug table e.1, e.2)))
    ∧ (∀ entries entries' text, canonicalPreimageByIdIn table entries = .ok text →
        canonicalPreimageByIdIn table entries' = .ok text →
        (entries.map fun e => (namedById table e.1, e.2)).Perm
          (entries'.map fun e => (namedById table e.1, e.2)))
    ∧ (∀ bySlug byId text, canonicalPreimageBySlugIn table bySlug = .ok text →
        canonicalPreimageByIdIn table byId = .ok text →
        (bySlug.map fun e => (namedBySlug table e.1, e.2)).Perm
          (byId.map fun e => (namedById table e.1, e.2))) := by
  have hone := oneToOne_of_build h
  refine ⟨?_, ?_, ?_, ?_, ?_, ?_⟩
  · intro bySlug byId hperm text
    rw [bySlug_canonical hone, byId_canonical]
    exact ⟨fun htext => htext.perm hperm, fun htext => htext.perm hperm.symm⟩
  · intro entries entries' text hperm htext
    rw [bySlug_canonical hone] at htext ⊢
    exact htext.perm (hperm.map _)
  · intro entries entries' text hperm htext
    rw [byId_canonical] at htext ⊢
    exact htext.perm (hperm.map _)
  · intro entries entries' text htext htext'
    rw [bySlug_canonical hone] at htext htext'
    exact htext.inj htext' (bySlug_clean hone) (bySlug_clean hone)
  · intro entries entries' text htext htext'
    rw [byId_canonical] at htext htext'
    exact htext.inj htext' (byId_clean hone) (byId_clean hone)
  · intro bySlug byId text htext htext'
    rw [bySlug_canonical hone] at htext
    rw [byId_canonical] at htext'
    exact htext.inj htext' (bySlug_clean hone) (byId_clean hone)

def sampleTable : List Destination := [⟨1, "a".toList⟩, ⟨2, "b".toList⟩]

def sampleText : Text := "GOAT-PROXY-ALLOWLIST-v2\n1\x1fa\x1fa.test\x1e2\x1fb\x1fb.test\x1e".toList

/-- Two destinations, named in one order by slug and in the other by number. -/
theorem one_canonical_text_sample :
    canonicalPreimageBySlugIn sampleTable
      [("b".toList, "b.test".toList), ("a".toList, "a.test".toList)]
        = .ok sampleText
      ∧ canonicalPreimageByIdIn sampleTable [(1, "a.test".toList), (2, "b.test".toList)]
        = .ok sampleText := by
  have hbuild : build registrySchemaId sampleTable = .ok sampleTable := by decide
  have hbyId : canonicalPreimageByIdIn sampleTable [(1, "a.test".toList), (2, "b.test".toList)]
      = .ok sampleText := by
    show render [⟨1, "a".toList, "a.test".toList⟩, ⟨2, "b".toList, "b.test".toList⟩] = _
    unfold render
    -- the rows stand in order already
    rw [List.mergeSort_of_pairwise (by decide)]
    decide
  exact ⟨((one_canonical_text registrySchemaId sampleTable sampleTable hbuild).1 _ _ (by decide)
    _).mpr hbyId, hbyId⟩

end GoatCoin.Worker.Destinations
