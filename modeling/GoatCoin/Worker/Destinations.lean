/-
# `GoatCoin.Worker.Destinations` — `destinations.rs`: the registry and the canonical text of a list

A destination has a number and a slug, one to one, in a table that is checked when it is built.  A
list of destinations with their hosts is written by the number's order, whichever of the two names
it came with:

    domain ⏎ id ␟ slug ␟ host ␞ id ␟ slug ␟ host ␞ …

There are no lengths in it.  A number is digits, a slug is letters, digits and hyphens, and a host
with a separator in it is refused, so the text determines the set.
-/
import GoatCoin.Lib.Lines
import GoatCoin.Worker.Policy

namespace GoatCoin.Worker.Destinations

open Text
open Evm (require bind_ok bind_ok₄ bind_ok₂ require_ok mapM_ok)

structure Destination where
  id : Nat
  slug : Text
deriving DecidableEq

/-- Why the registry refuses. -/
inductive RegistryError where
  | registryInvalid (detail : String)
  | unknownSlug (slug : Text)
  | unknownId (id : Nat)
  | duplicateDestination (id : Nat)
  | malformedHost (host : Text)
deriving DecidableEq

/-- As it is shown. -/
def RegistryError.display : RegistryError → String
  | .registryInvalid detail => "the destination registry is unusable: " ++ detail
  | .unknownSlug slug => "destination slug " ++ quoted slug ++ " is not in the canonical registry"
  | .unknownId id => "destination id " ++ toString id ++ " is not in the canonical registry"
  | .duplicateDestination id => "destination id " ++ toString id ++ " appears twice in one list"
  | .malformedHost host =>
      "host " ++ quoted host ++ " cannot be rendered into the canonical preimage"

/-! ## The table -/

def registrySchemaId : Text := "GOAT_PROXY_DESTINATION_REGISTRY_V1".toList

def maxSlugLen : Nat := 64

def isSlugChar (c : Char) : Bool := isAsciiLower c || isAsciiDigit c || c = '-'

def checkSlug (slug : Text) : Except RegistryError Unit := do
  require (slug ≠ [] ∧ byteLength slug ≤ maxSlugLen)
    (.registryInvalid ("slug " ++ quoted slug ++ " must be between 1 and 64 bytes"))
  require (startsWith slug ['-'] = false ∧ endsWith slug ['-'] = false)
    (.registryInvalid ("slug " ++ quoted slug ++ " may not start or end with a hyphen"))
  require (slug.all isSlugChar = true)
    (.registryInvalid
      ("slug " ++ quoted slug
      ++ " is outside the permitted set of lower-case ASCII letters, digits "
      ++ "and hyphens; that set is what keeps a slug from spelling a preimage separator"))

/-- Row `i` has the number `i + 1`. -/
def checkRow (d : Destination) (i : Nat) : Except RegistryError Unit := do
  require (d.id = i + 1)
    (.registryInvalid
      ("row " ++ toString i ++ " carries id " ++ toString d.id
      ++ " where contiguous numbering requires "
      ++ toString (i + 1)
      ++ "; the table is written in ascending order with no gaps, so that a deleted row is a "
      ++ "refusal rather than a hole a different destination is later dropped into"))
  checkSlug d.slug

/-- No slug has two ids. -/
def checkOneToOne : List Destination → List Destination → Except RegistryError Unit
  | _, [] => .ok ()
  | seen, d :: rest =>
      match seen.find? fun e => e.slug = d.slug with
      | some first =>
          .error (.registryInvalid
            ("slug " ++ quoted d.slug ++ " is mapped to ids " ++ toString first.id ++ " and "
            ++ toString d.id ++ "; the mapping is one-to-one"))
      | none => checkOneToOne (d :: seen) rest

/-- A registry that is one to one. -/
def build (schemaId : Text) (destinations : List Destination) :
    Except RegistryError (List Destination) := do
  require (schemaId = registrySchemaId)
    (.registryInvalid
      ("schema_id is " ++ quoted schemaId ++ ", expected " ++ quoted registrySchemaId))
  require (destinations ≠ [])
    (.registryInvalid "the registry is empty; an empty table is a refusal, never a permissive one")
  destinations.zipIdx.forM fun (d, i) => checkRow d i
  checkOneToOne [] destinations
  return destinations

/-- `destinations.v1.json`. -/
def shipped : List Destination :=
  [⟨1, "documentation-example-com".toList⟩, ⟨2, "documentation-example-org".toList⟩,
    ⟨3, "documentation-research-example-net".toList⟩, ⟨4, "crossref-api".toList⟩,
    ⟨5, "openalex-api".toList⟩,
    ⟨6, "datacite-api".toList⟩, ⟨7, "europepmc-api".toList⟩, ⟨8, "rcsb-files".toList⟩,
    ⟨9, "documentation-other-example".toList⟩]

def registry : Except RegistryError (List Destination) := build registrySchemaId shipped

def slugForId (id : Nat) : Except RegistryError Text := do
  let rows ← registry
  match rows.find? fun d => d.id = id with
  | some d => .ok d.slug
  | none => .error (.unknownId id)

def idForSlug (slug : Text) : Except RegistryError Nat := do
  let rows ← registry
  match rows.find? fun d => d.slug = slug with
  | some d => .ok d.id
  | none => .error (.unknownSlug slug)

/-! ## The canonical text -/

def unitSeparator : Char := Char.ofNat 0x1f

def recordSeparator : Char := Char.ofNat 0x1e

def canonicalDigestDomain : Text := "GOAT-PROXY-ALLOWLIST-v2".toList

/-- A row of the allowlist. -/
structure Row where
  id : Nat
  slug : Text
  host : Text
deriving DecidableEq

def checkHost (host : Text) : Except RegistryError Unit :=
  require (host ≠ [] ∧ allAscii host = true
    ∧ host.any (fun c => isAsciiControl c || c = ' ') = false
    ∧ unitSeparator ∉ host ∧ recordSeparator ∉ host) (.malformedHost host)

/-- The first number that two neighbours share. -/
def firstRepeat : List Row → Option Nat
  | a :: b :: rest => if a.id = b.id then some a.id else firstRepeat (b :: rest)
  | _ => none

def Row.record (r : Row) : Text :=
  decimal r.id ++ unitSeparator :: (r.slug ++ unitSeparator :: (r.host ++ [recordSeparator]))

def renderRecords : List Row → Except RegistryError Text
  | [] => .ok []
  | r :: rest => do
      checkHost r.host
      let text ← renderRecords rest
      return r.record ++ text

def render (rows : List Row) : Except RegistryError Text :=
  let sorted := rows.mergeSort fun a b => decide (a.id ≤ b.id)
  match firstRepeat sorted with
  | some id => .error (.duplicateDestination id)
  | none => do
      let records ← renderRecords sorted
      return canonicalDigestDomain ++ '\n' :: records

def rowById (entry : Nat × Text) : Except RegistryError Row := do
  let slug ← slugForId entry.1
  return ⟨entry.1, slug, entry.2⟩

def rowBySlug (entry : Text × Text) : Except RegistryError Row := do
  let id ← idForSlug entry.1
  let slug ← slugForId id
  return ⟨id, slug, entry.2⟩

def canonicalPreimageById (entries : List (Nat × Text)) : Except RegistryError Text := do
  let rows ← entries.mapM rowById
  render rows

def canonicalPreimageBySlug (entries : List (Text × Text)) : Except RegistryError Text := do
  let rows ← entries.mapM rowBySlug
  render rows

section
variable (sha256 : Text → List UInt8)

def canonicalDigestById (entries : List (Nat × Text)) : Except RegistryError (List UInt8) := do
  let text ← canonicalPreimageById entries
  return sha256 text

def canonicalDigestBySlug (entries : List (Text × Text)) : Except RegistryError (List UInt8) := do
  let text ← canonicalPreimageBySlug entries
  return sha256 text

end

/-! ## The text determines the rows -/

theorem checkSlug_clean {slug : Text} (h : checkSlug slug = .ok ()) : unitSeparator ∉ slug := by
  obtain ⟨-, -, -, -, h⟩ := bind_ok₂.mp h
  intro hmem
  have hchar := List.all_eq_true.mp (require_ok.mp h) _ hmem
  exact absurd hchar (by decide)

theorem registry_clean {rows : List Destination} (h : registry = .ok rows) {d : Destination}
    (hd : d ∈ rows) : unitSeparator ∉ d.slug := by
  obtain ⟨-, -, -, -, _, hrows, -, -, h⟩ := bind_ok₄.mp h
  cases h
  obtain ⟨i, hi⟩ := List.mem_iff_getElem?.mp hd
  have hrow := Evm.forM_ok.mp hrows (d, i) (List.mem_zipIdx_iff_getElem?.mpr hi)
  obtain ⟨_, _, hslug⟩ := bind_ok.mp hrow
  exact checkSlug_clean hslug

theorem slugForId_clean {id : Nat} {slug : Text} (h : slugForId id = .ok slug) :
    unitSeparator ∉ slug := by
  obtain ⟨rows, hrows, h⟩ := bind_ok.mp h
  cases hfind : rows.find? fun d => d.id = id with
  | none =>
      rw [hfind] at h
      cases h
  | some d =>
      rw [hfind] at h
      cases h
      exact registry_clean hrows (List.mem_of_find?_eq_some hfind)

variable {r : Row} {text : Text}

theorem record_inj {q : Row} {s t : Text} (hr : unitSeparator ∉ r.slug)
    (hq : unitSeparator ∉ q.slug)
    (hrhost : recordSeparator ∉ r.host) (hqhost : recordSeparator ∉ q.host)
    (h : r.record ++ s = q.record ++ t) : r = q ∧ s = t := by
  unfold Row.record at h
  simp only [List.append_assoc, List.cons_append, List.nil_append] at h
  obtain ⟨hid, h⟩ := marked_inj (not_mem_decimal (by decide) _) (not_mem_decimal (by decide) _) h
  obtain ⟨hslug, h⟩ := marked_inj hr hq h
  obtain ⟨hhost, hrest⟩ := marked_inj hrhost hqhost h
  refine ⟨?_, hrest⟩
  cases r
  cases q
  dsimp only at hid hslug hhost
  rw [decimal_injective hid, hslug, hhost]

theorem renderRecords_cons {rest : List Row} (h : renderRecords (r :: rest) = .ok text) :
    recordSeparator ∉ r.host ∧ ∃ tail, renderRecords rest = .ok tail ∧ text = r.record ++ tail := by
  obtain ⟨_, hhost, tail, htail, h⟩ := bind_ok₂.mp h
  cases h
  exact ⟨(require_ok.mp hhost).2.2.2.2, tail, htail, rfl⟩

theorem renderRecords_inj {rows : List Row} : ∀ {rows' : List Row} {text : Text},
    (∀ r ∈ rows, unitSeparator ∉ r.slug) →
    (∀ r ∈ rows', unitSeparator ∉ r.slug) → renderRecords rows = .ok text →
    renderRecords rows' = .ok text → rows = rows' := by
  have hne : ∀ (r : Row) (tail : Text), [] ≠ r.record ++ tail := by
    intro r tail h
    unfold Row.record at h
    exact absurd h.symm (List.append_ne_nil_of_left_ne_nil
      (List.append_ne_nil_of_right_ne_nil _ (List.cons_ne_nil _ _)) _)
  induction rows with
  | nil =>
      intro rows' text _ _ h h'
      cases h
      cases rows' with
      | nil => rfl
      | cons q rest =>
          obtain ⟨-, tail, -, htext⟩ := renderRecords_cons h'
          exact absurd htext (hne q tail)
  | cons r rest ih =>
      intro rows' text hclean hclean' h h'
      obtain ⟨hhost, tail, htail, htext⟩ := renderRecords_cons h
      cases rows' with
      | nil =>
          cases h'
          exact absurd htext (hne r tail)
      | cons q rest' =>
          obtain ⟨hhost', tail', htail', htext'⟩ := renderRecords_cons h'
          rw [htext] at htext'
          obtain ⟨hrq, rfl⟩ :=
            record_inj (hclean r List.mem_cons_self) (hclean' q List.mem_cons_self)
              hhost hhost' htext'
          rw [hrq, ih (fun x hx => hclean x (List.mem_cons_of_mem _ hx))
            (fun x hx => hclean' x (List.mem_cons_of_mem _ hx)) htail htail']

/-- **The canonical text determines the rows**, up to their order. -/
theorem render_inj {rows rows' : List Row} (hclean : ∀ r ∈ rows, unitSeparator ∉ r.slug)
    (hclean' : ∀ r ∈ rows', unitSeparator ∉ r.slug) (h : render rows = .ok text)
    (h' : render rows' = .ok text) : rows.Perm rows' := by
  have hsorted : ∀ {rows : List Row}, render rows = .ok text →
      ∃ records, renderRecords (rows.mergeSort fun a b => decide (a.id ≤ b.id)) = .ok records
        ∧ text = canonicalDigestDomain ++ '\n' :: records := by
    intro rows h
    unfold render at h
    dsimp only at h
    split at h
    · cases h
    · obtain ⟨records, hrecords, h⟩ := bind_ok.mp h
      cases h
      exact ⟨records, hrecords, rfl⟩
  obtain ⟨records, hrecords, htext⟩ := hsorted h
  obtain ⟨records', hrecords', htext'⟩ := hsorted h'
  rw [htext] at htext'
  have hsame : records = records' := (List.cons.inj (List.append_cancel_left htext')).2
  subst hsame
  have heq := renderRecords_inj (fun r hr => hclean r (List.mem_mergeSort.mp hr))
    (fun r hr => hclean' r (List.mem_mergeSort.mp hr)) hrecords hrecords'
  have hperm := List.mergeSort_perm rows fun a b => decide (a.id ≤ b.id)
  have hperm' := List.mergeSort_perm rows' fun a b => decide (a.id ≤ b.id)
  rw [heq] at hperm
  exact hperm.symm.trans hperm'

theorem rowById_ok {entry : Nat × Text} (h : rowById entry = .ok r) :
    unitSeparator ∉ r.slug ∧ (r.id, r.host) = entry := by
  obtain ⟨slug, hslug, h⟩ := bind_ok.mp h
  cases h
  exact ⟨slugForId_clean hslug, rfl⟩

theorem rowBySlug_ok {entry : Text × Text} (h : rowBySlug entry = .ok r) :
    unitSeparator ∉ r.slug ∧ idForSlug entry.1 = .ok r.id ∧ r.host = entry.2 := by
  obtain ⟨id, hid, slug, hslug, h⟩ := bind_ok₂.mp h
  cases h
  exact ⟨slugForId_clean hslug, hid, rfl⟩

theorem preimageById_rows {entries : List (Nat × Text)}
    (h : canonicalPreimageById entries = .ok text) :
    ∃ rows, render rows = .ok text ∧ (∀ r ∈ rows, unitSeparator ∉ r.slug)
      ∧ rows.map (fun r => (r.id, r.host)) = entries := by
  obtain ⟨rows, hrows, hrender⟩ := bind_ok.mp h
  refine ⟨rows, hrender, ?_⟩
  have hall := mapM_ok.mp hrows
  clear h hrows hrender
  induction hall with
  | nil => exact ⟨fun r hr => absurd hr List.not_mem_nil, rfl⟩
  | cons hrow _ ih =>
      obtain ⟨hclean, hentry⟩ := rowById_ok hrow
      refine ⟨?_, by rw [List.map_cons, hentry, ih.2]⟩
      intro r hr
      rcases List.mem_cons.mp hr with rfl | hr
      · exact hclean
      · exact ih.1 r hr

theorem preimageBySlug_rows {entries : List (Text × Text)}
    (h : canonicalPreimageBySlug entries = .ok text) :
    ∃ rows, render rows = .ok text ∧ (∀ r ∈ rows, unitSeparator ∉ r.slug)
      ∧ ∀ id host, (id, host) ∈ rows.map (fun r => (r.id, r.host))
        ↔ ∃ slug, (slug, host) ∈ entries ∧ idForSlug slug = .ok id := by
  obtain ⟨rows, hrows, hrender⟩ := bind_ok.mp h
  refine ⟨rows, hrender, ?_⟩
  have hall := mapM_ok.mp hrows
  clear h hrows hrender
  induction hall with
  | nil =>
      refine ⟨fun r hr => absurd hr List.not_mem_nil,
        fun id host => ⟨fun hmem => absurd hmem List.not_mem_nil, ?_⟩⟩
      rintro ⟨slug, hmem, -⟩
      exact absurd hmem List.not_mem_nil
  | @cons entry row _ _ hrow _ ih =>
      obtain ⟨hclean, hid, hhost⟩ := rowBySlug_ok hrow
      refine ⟨?_, ?_⟩
      · intro r hr
        rcases List.mem_cons.mp hr with rfl | hr
        · exact hclean
        · exact ih.1 r hr
      · intro id host
        rw [List.map_cons, List.mem_cons, ih.2 id host]
        constructor
        · rintro (hhead | ⟨slug, hmem, hslug⟩)
          · obtain ⟨rfl, rfl⟩ := Prod.mk.inj hhead
            exact ⟨entry.1, by rw [hhost]; exact List.mem_cons_self, hid⟩
          · exact ⟨slug, List.mem_cons_of_mem _ hmem, hslug⟩
        · rintro ⟨slug, hmem, hslug⟩
          rcases List.mem_cons.mp hmem with hhead | hmem
          · subst hhead
            rw [hslug] at hid
            cases hid
            exact .inl (by rw [hhost])
          · exact .inr ⟨slug, hmem, hslug⟩

/-- **Two lists with one canonical text name the same destinations with the same hosts.** -/
theorem byId_names {entries entries' : List (Nat × Text)}
    (h : canonicalPreimageById entries = .ok text)
    (h' : canonicalPreimageById entries' = .ok text) (p : Nat × Text) : p ∈ entries
    ↔ p ∈ entries' := by
  obtain ⟨rows, hrender, hclean, rfl⟩ := preimageById_rows h
  obtain ⟨rows', hrender', hclean', rfl⟩ := preimageById_rows h'
  exact ((render_inj hclean hclean' hrender hrender').map _).mem_iff

/-- **So does a list by slugs.** -/
theorem bySlug_names {entries : List (Text × Text)} {entries' : List (Nat × Text)}
    (h : canonicalPreimageBySlug entries = .ok text)
    (h' : canonicalPreimageById entries' = .ok text) (id : Nat)
    (host : Text) : (∃ slug, (slug, host) ∈ entries ∧ idForSlug slug = .ok id)
    ↔ (id, host) ∈ entries' := by
  obtain ⟨rows, hrender, hclean, hrows⟩ := preimageBySlug_rows h
  obtain ⟨rows', hrender', hclean', rfl⟩ := preimageById_rows h'
  rw [← hrows]
  exact ((render_inj hclean hclean' hrender hrender').map _).mem_iff

end GoatCoin.Worker.Destinations
