/-
# `GoatCoin.Attestor.CanonicalJson` — the canonical bytes of `canonical_json.rs`

Only strings, arrays, objects and `null` are written: a number, a bool and a key outside
`[A-Za-z0-9_]` are refused, with the path they stand at.  Objects are maps by key, so the members
come out in one order:

    write_inj            what is written, and what follows it, are read back
    canonicalBytes_inj   two accepted values with the same bytes are one value
    object_of_perm       the order in which members were put in is not seen

The accepted value is then written by `serde_json`, which is not in this repository: `write` and
`escape` stand for its compact writer as it is documented.  The two marks and the five short forms
are escaped, the other controls are `\u00xx`, and everything else stands as it is.
-/
import GoatCoin.Lib.Hex
import GoatCoin.Lib.SortedMap
import GoatCoin.Contracts.TypedData
import Mathlib.Data.String.Basic

namespace GoatCoin.Attestor

open Evm

/-! ## Values -/

/-- `serde_json::Value`; a number is given by the text it is written as. -/
inductive JsonValue where
  | null
  | bool (b : Bool)
  | number (text : String)
  | string (text : String)
  | array (items : List JsonValue)
  | object (members : List (String × JsonValue))

inductive CanonicalJsonError where
  | nonPortableKey (path key : String)
  | numberNotAllowed (path : String)
  | boolNotAllowed (path : String)
  | serialize (detail : String)
deriving DecidableEq

namespace JsonValue

mutual
/-- Members are in the order of their keys, at every depth: an object is a `BTreeMap`. -/
def Ordered : JsonValue → Prop
  | .null => True
  | .bool _ => True
  | .number _ => True
  | .string _ => True
  | .array items => OrderedItems items
  | .object members => (members.map Prod.fst).Pairwise (· < ·) ∧ OrderedMembers members
def OrderedItems : List JsonValue → Prop
  | [] => True
  | v :: items => Ordered v ∧ OrderedItems items
def OrderedMembers : List (String × JsonValue) → Prop
  | [] => True
  | (_, v) :: members => Ordered v ∧ OrderedMembers members
end

theorem orderedItems_iff (items : List JsonValue) : OrderedItems items
    ↔ ∀ v ∈ items, Ordered v := by
  induction items with
  | nil => simp [OrderedItems]
  | cons v items ih => simp [OrderedItems, ih]

theorem orderedMembers_iff (members : List (String × JsonValue)) :
    OrderedMembers members ↔ ∀ e ∈ members, Ordered e.2 := by
  induction members with
  | nil => simp [OrderedMembers]
  | cons e members ih => simp [OrderedMembers, ih]

end JsonValue

/-- A value as the program can hold it. -/
def Json := {v : JsonValue // v.Ordered}

namespace Json

def null : Json := ⟨.null, trivial⟩

def string (text : String) : Json := ⟨.string text, trivial⟩

def array (items : List Json) : Json :=
  ⟨.array (items.map Subtype.val), (JsonValue.orderedItems_iff _).mpr fun v hv => by
    obtain ⟨a, -, rfl⟩ := List.mem_map.mp hv
    exact a.2⟩

def object (members : SortedMap String Json) : Json :=
  ⟨.object (members.entries.map fun e => (e.1, e.2.val)), by
    refine ⟨?_, (JsonValue.orderedMembers_iff _).mpr fun e he => ?_⟩
    · rw [List.map_map]
      exact members.sorted
    · obtain ⟨a, -, rfl⟩ := List.mem_map.mp he
      exact a.2.2⟩

/-- `json!` with the members of an object. -/
def ofMembers (members : List (String × Json)) : Json := object (SortedMap.ofList members)

theorem ofMembers_val (members : List (String × Json)) : (ofMembers members).val
    = .object ((SortedMap.ofList members).entries.map fun e => (e.1, e.2.val)) := rfl

end Json

/-! ## What is refused -/

def isPortableKey (key : String) : Bool :=
  !key.toList.isEmpty && key.toList.all fun c => c.isAlphanum || c == '_'

mutual
/-- `validate`: the first violation, by its path. -/
def validate : JsonValue → String → Except CanonicalJsonError Unit
  | .number _, path => .error (.numberNotAllowed path)
  | .bool _, path => .error (.boolNotAllowed path)
  | .null, _ => .ok ()
  | .string _, _ => .ok ()
  | .array items, path => validateItems items path 0
  | .object members, path => validateMembers members path
def validateItems : List JsonValue → String → Nat → Except CanonicalJsonError Unit
  | [], _, _ => .ok ()
  | v :: items, path, i => do
      validate v s!"{path}[{i}]"
      validateItems items path (i + 1)
def validateMembers : List (String × JsonValue) → String → Except CanonicalJsonError Unit
  | [], _ => .ok ()
  | (key, v) :: members, path => do
      require (isPortableKey key) (.nonPortableKey path key)
      validate v s!"{path}.{key}"
      validateMembers members path
end

/-! ## What is written -/

/-- One character between quotation marks. -/
def escape (c : Char) : List Char :=
  if c = '"' then ['\\', '"']
  else if c = '\\' then ['\\', '\\']
  else if c = '\x08' then ['\\', 'b']
  else if c = '\t' then ['\\', 't']
  else if c = '\n' then ['\\', 'n']
  else if c = '\x0c' then ['\\', 'f']
  else if c = '\r' then ['\\', 'r']
  else if c.toNat < 32 then
    ['\\', 'u', '0', '0', Hex.digit (c.toNat / 16), Hex.digit (c.toNat % 16)]
  else [c]

def quote (text : String) : List Char := '"' :: text.toList.flatMap escape ++ ['"']

mutual
/-- `CompactFormatter`: no blanks, and a comma before every item but the first. -/
def write : JsonValue → List Char
  | .null => ['n', 'u', 'l', 'l']
  | .bool b => if b then ['t', 'r', 'u', 'e'] else ['f', 'a', 'l', 's', 'e']
  | .number text => text.toList
  | .string text => quote text
  | .array items => '[' :: writeItems true items ++ [']']
  | .object members => '{' :: writeMembers true members ++ ['}']
def writeItems (first : Bool) : List JsonValue → List Char
  | [] => []
  | v :: items => (if first then [] else [',']) ++ write v ++ writeItems false items
def writeMembers (first : Bool) : List (String × JsonValue) → List Char
  | [] => []
  | (key, v) :: members =>
      (if first then [] else [',']) ++ quote key ++ ':' :: write v ++ writeMembers false members
end

/-- The bytes of a text. -/
def utf8 (text : List Char) : List UInt8 := text.flatMap String.utf8EncodeChar

/-- The canonical text, in UTF-8. -/
def canonicalBytes (v : Json) : Except CanonicalJsonError (List UInt8) := do
  validate v.val "$"
  pure (utf8 (write v.val))

def canonicalHash (v : Json) : Except CanonicalJsonError Bytes32 := do
  let bytes ← canonicalBytes v
  pure (keccak256 bytes)

/-! ## Reading back -/

theorem utf8_injective : Function.Injective utf8 := by
  intro a b h
  have hbytes : a.utf8Encode = b.utf8Encode := congrArg List.toByteArray h
  exact String.ofList_injective (String.toByteArray_inj.mp hbytes)

/-- The character behind a backslash. -/
def unescapeCode : List Char → Option (Char × List Char)
  | '"' :: r => some ('"', r)
  | '\\' :: r => some ('\\', r)
  | 'b' :: r => some ('\x08', r)
  | 't' :: r => some ('\t', r)
  | 'n' :: r => some ('\n', r)
  | 'f' :: r => some ('\x0c', r)
  | 'r' :: r => some ('\r', r)
  | 'u' :: '0' :: '0' :: hi :: lo :: r => do
      let h ← Hex.value hi
      let l ← Hex.value lo
      pure (Char.ofNat (16 * h + l), r)
  | _ => none

def unescape : List Char → Option (Char × List Char)
  | [] => none
  | c :: r => if c = '\\' then unescapeCode r else some (c, r)

/-- What is written for a character: a form with a backslash, or the character. -/
theorem escape_rec {P : List Char → Prop} {c : Char} (hmark : c = '"' → P ['\\', '"'])
    (hslash : c = '\\' → P ['\\', '\\']) (hb : c = '\x08' → P ['\\', 'b'])
    (ht : c = '\t' → P ['\\', 't'])
    (hn : c = '\n' → P ['\\', 'n']) (hf : c = '\x0c' → P ['\\', 'f'])
    (hr : c = '\r' → P ['\\', 'r'])
    (hlow : c.toNat < 32 →
      P ['\\', 'u', '0', '0', Hex.digit (c.toNat / 16), Hex.digit (c.toNat % 16)])
    (hplain : c ≠ '"' → c ≠ '\\' → P [c]) : P (escape c) := by
  unfold escape
  exact iteInduction hmark fun hm => iteInduction hslash fun hs => iteInduction hb fun _ =>
    iteInduction ht fun _ =>
    iteInduction hn fun _ => iteInduction hf fun _ => iteInduction hr fun _ =>
      iteInduction hlow fun _ => hplain hm hs

theorem unescape_escape (c : Char) (r : List Char) : unescape (escape c ++ r) = some (c, r) := by
  refine escape_rec (P := fun l => unescape (l ++ r) = some (c, r)) ?_ ?_ ?_ ?_ ?_ ?_ ?_ ?_ ?_
  · rintro rfl; rfl
  · rintro rfl; rfl
  · rintro rfl; rfl
  · rintro rfl; rfl
  · rintro rfl; rfl
  · rintro rfl; rfl
  · rintro rfl; rfl
  · intro hlow
    have hhigh := Hex.value_digit (c.toNat / 16) (by omega)
    have hlow := Hex.value_digit (c.toNat % 16) (Nat.mod_lt _ (by decide))
    show (do let h ← Hex.value _; let l ← Hex.value _; pure (Char.ofNat (16 * h + l), r)) = _
    rw [hhigh, hlow]
    have hc : Char.ofNat (16 * (c.toNat / 16) + c.toNat % 16) = c := by
      rw [Nat.div_add_mod, Char.ofNat_toNat]
    exact congrArg (fun d => some (d, r)) hc
  · intro _ hslash
    exact if_neg hslash

theorem escape_ne_mark (c : Char) : ∃ d r, escape c = d :: r ∧ d ≠ '"' := by
  have hslash : ∀ s : List Char, ∃ d r, '\\' :: s = d :: r ∧ d ≠ '"' :=
    fun s => ⟨_, _, rfl, by decide⟩
  exact escape_rec (P := fun l => ∃ d r, l = d :: r ∧ d ≠ '"') (fun _ => hslash _)
    (fun _ => hslash _) (fun _ => hslash _)
    (fun _ => hslash _) (fun _ => hslash _) (fun _ => hslash _) (fun _ => hslash _)
      (fun _ => hslash _)
    fun hmark _ => ⟨c, [], rfl, hmark⟩

theorem escapes_inj : ∀ {as bs s t : List Char},
    as.flatMap escape ++ '"' :: s = bs.flatMap escape ++ '"' :: t → as = bs ∧ s = t := by
  intro as
  induction as with
  | nil =>
      intro bs s t h
      cases bs with
      | nil => exact ⟨rfl, (List.cons.inj h).2⟩
      | cons b bs =>
          obtain ⟨d, r, hd, hne⟩ := escape_ne_mark b
          rw [List.flatMap_cons, hd] at h
          exact absurd (List.cons.inj h).1.symm hne
  | cons a as ih =>
      intro bs s t h
      cases bs with
      | nil =>
          obtain ⟨d, r, hd, hne⟩ := escape_ne_mark a
          rw [List.flatMap_cons, hd] at h
          exact absurd (List.cons.inj h).1 hne
      | cons b bs =>
          rw [List.flatMap_cons, List.flatMap_cons, List.append_assoc, List.append_assoc] at h
          have hread := congrArg unescape h
          rw [unescape_escape, unescape_escape] at hread
          obtain ⟨rfl, hrest⟩ := Prod.mk.inj (Option.some.inj hread)
          obtain ⟨rfl, hst⟩ := ih hrest
          exact ⟨rfl, hst⟩

theorem quote_inj {a b : String} {s t : List Char} (h : quote a ++ s = quote b ++ t) :
    a = b ∧ s = t := by
  simp only [quote, List.cons_append, List.append_assoc, List.nil_append] at h
  obtain ⟨htext, hst⟩ := escapes_inj (List.cons.inj h).2
  exact ⟨String.toList_inj.mp htext, hst⟩

variable {v : JsonValue} {path : String}

theorem write_mark (h : validate v path = .ok ()) :
    ∃ c r, write v = c :: r ∧ c ≠ ']' ∧ c ≠ ',' := by
  cases v with
  | null => exact ⟨_, _, rfl, by decide, by decide⟩
  | bool b => exact absurd h (by simp [validate])
  | number text => exact absurd h (by simp [validate])
  | string text => exact ⟨_, _, rfl, by decide, by decide⟩
  | array items => exact ⟨_, _, by rw [write, List.cons_append], by decide, by decide⟩
  | object members => exact ⟨_, _, by rw [write, List.cons_append], by decide, by decide⟩

theorem validateItems_cons {items : List JsonValue} {i : Nat}
    (h : validateItems (v :: items) path i = .ok ()) :
    validate v s!"{path}[{i}]" = .ok () ∧ validateItems items path (i + 1) = .ok () := by
  rw [validateItems] at h
  obtain ⟨_, hv, hitems⟩ := bind_ok.mp h
  exact ⟨hv, hitems⟩

theorem validateMembers_cons {key : String} {members : List (String × JsonValue)}
    (h : validateMembers ((key, v) :: members) path = .ok ()) :
    isPortableKey key = true ∧ validate v s!"{path}.{key}" = .ok ()
      ∧ validateMembers members path = .ok () := by
  rw [validateMembers] at h
  obtain ⟨_, hkey, _, hv, hmembers⟩ := bind_ok₂.mp h
  exact ⟨require_ok.mp hkey, hv, hmembers⟩

mutual
/-- **A value and what follows it are read back from the text.** -/
theorem write_inj : ∀ {v w : JsonValue} {p q : String} {s t : List Char}, validate v p = .ok () →
    validate w q = .ok () → write v ++ s = write w ++ t → v = w ∧ s = t
  | .bool _, _, _, _, _, _, hv, _, _ => absurd hv (by simp [validate])
  | .number _, _, _, _, _, _, hv, _, _ => absurd hv (by simp [validate])
  | _, .bool _, _, _, _, _, _, hw, _ => absurd hw (by simp [validate])
  | _, .number _, _, _, _, _, _, hw, _ => absurd hw (by simp [validate])
  | .null, .null, _, _, _, _, _, _, h => ⟨rfl, List.append_cancel_left h⟩
  | .null, .string _, _, _, _, _, _, _, h => by simp [write, quote] at h
  | .null, .array _, _, _, _, _, _, _, h => by simp [write] at h
  | .null, .object _, _, _, _, _, _, _, h => by simp [write] at h
  | .string _, .null, _, _, _, _, _, _, h => by simp [write, quote] at h
  | .string a, .string b, _, _, _, _, _, _, h => by
      obtain ⟨rfl, hst⟩ := quote_inj h
      exact ⟨rfl, hst⟩
  | .string _, .array _, _, _, _, _, _, _, h => by simp [write, quote] at h
  | .string _, .object _, _, _, _, _, _, _, h => by simp [write, quote] at h
  | .array _, .null, _, _, _, _, _, _, h => by simp [write] at h
  | .array _, .string _, _, _, _, _, _, _, h => by simp [write, quote] at h
  | .array items, .array items', _, _, _, _, hv, hw, h => by
      simp only [write, List.cons_append, List.append_assoc, List.nil_append] at h
      obtain ⟨rfl, hst⟩ := writeItems_inj hv hw (List.cons.inj h).2
      exact ⟨rfl, hst⟩
  | .array _, .object _, _, _, _, _, _, _, h => by simp [write] at h
  | .object _, .null, _, _, _, _, _, _, h => by simp [write] at h
  | .object _, .string _, _, _, _, _, _, _, h => by simp [write, quote] at h
  | .object _, .array _, _, _, _, _, _, _, h => by simp [write] at h
  | .object members, .object members', _, _, _, _, hv, hw, h => by
      simp only [write, List.cons_append, List.append_assoc, List.nil_append] at h
      obtain ⟨rfl, hst⟩ := writeMembers_inj hv hw (List.cons.inj h).2
      exact ⟨rfl, hst⟩
theorem writeItems_inj : ∀ {items items' : List JsonValue} {p q : String} {i j : Nat}
    {first : Bool} {s t : List Char}, validateItems items p i = .ok () →
    validateItems items' q j = .ok () →
    writeItems first items ++ ']' :: s = writeItems first items' ++ ']' :: t →
    items = items' ∧ s = t
  | [], [], _, _, _, _, _, _, _, _, _, h => ⟨rfl, (List.cons.inj h).2⟩
  | [], v :: items, _, _, _, _, first, _, _, _, hw, h => by
      obtain ⟨c, r, hc, hne, -⟩ := write_mark (validateItems_cons hw).1
      cases first <;> simp [writeItems, hc, Ne.symm hne] at h
  | v :: items, [], _, _, _, _, first, _, _, hv, _, h => by
      obtain ⟨c, r, hc, hne, -⟩ := write_mark (validateItems_cons hv).1
      cases first <;> simp [writeItems, hc, hne] at h
  | v :: items, w :: items', _, _, _, _, first, _, _, hv, hw, h => by
      simp only [writeItems, List.append_assoc] at h
      have hitem := List.append_cancel_left h
      obtain ⟨rfl, hrest⟩ := write_inj (validateItems_cons hv).1 (validateItems_cons hw).1 hitem
      obtain ⟨rfl, hst⟩ := writeItems_inj (validateItems_cons hv).2 (validateItems_cons hw).2 hrest
      exact ⟨rfl, hst⟩
theorem writeMembers_inj : ∀ {members members' : List (String × JsonValue)} {p q : String}
    {first : Bool} {s t : List Char}, validateMembers members p = .ok () →
    validateMembers members' q = .ok () →
    writeMembers first members ++ '}' :: s = writeMembers first members' ++ '}' :: t →
    members = members' ∧ s = t
  | [], [], _, _, _, _, _, _, _, h => ⟨rfl, (List.cons.inj h).2⟩
  | [], (k, v) :: members, _, _, first, _, _, _, _, h => by
      cases first <;> simp [writeMembers, quote] at h
  | (k, v) :: members, [], _, _, first, _, _, _, _, h => by
      cases first <;> simp [writeMembers, quote] at h
  | (k, v) :: members, (k', w) :: members', _, _, first, _, _, hv, hw, h => by
      simp only [writeMembers, List.append_assoc, List.cons_append] at h
      obtain ⟨rfl, hvalue⟩ := quote_inj (List.append_cancel_left h)
      obtain ⟨-, hv, hmembers⟩ := validateMembers_cons hv
      obtain ⟨-, hw, hmembers'⟩ := validateMembers_cons hw
      obtain ⟨rfl, hrest⟩ := write_inj hv hw (List.cons.inj hvalue).2
      obtain ⟨rfl, hst⟩ := writeMembers_inj hmembers hmembers' hrest
      exact ⟨rfl, hst⟩
end

/-- **Accepted values with the same bytes are equal.** -/
theorem canonicalBytes_inj {a b : Json} {bytes : List UInt8} (ha : canonicalBytes a = .ok bytes)
    (hb : canonicalBytes b = .ok bytes) : a = b := by
  obtain ⟨_, hvalid, hbytes⟩ := bind_ok.mp ha
  obtain ⟨_, hvalid', hbytes'⟩ := bind_ok.mp hb
  have htext : write a.val = write b.val :=
    utf8_injective ((Except.ok.inj hbytes).trans (Except.ok.inj hbytes').symm)
  have hempty : write a.val ++ [] = write b.val ++ [] := by rw [htext]
  exact Subtype.ext (write_inj hvalid hvalid' hempty).1

/-! ## Documents of strings -/

theorem validateItems_ok {items : List JsonValue} (h : ∀ v ∈ items, ∀ q, validate v q = .ok ())
    (path : String) (i : Nat) : validateItems items path i = .ok () := by
  induction items generalizing i with
  | nil => rfl
  | cons v items ih =>
      rw [validateItems, h v List.mem_cons_self]
      exact ih (fun w hw => h w (List.mem_cons_of_mem v hw)) (i + 1)

theorem validateMembers_ok {members : List (String × JsonValue)}
    (h : ∀ e ∈ members, isPortableKey e.1 ∧ ∀ q, validate e.2 q = .ok ()) (path : String) :
    validateMembers members path = .ok () := by
  induction members with
  | nil => rfl
  | cons e members ih =>
      obtain ⟨hkey, hvalue⟩ := h e List.mem_cons_self
      rw [validateMembers, require, if_pos hkey, hvalue]
      exact ih fun f hf => h f (List.mem_cons_of_mem e hf)

theorem validate_array {items : List Json} (h : ∀ v ∈ items, ∀ q, validate v.val q = .ok ())
    (path : String) : validate (Json.array items).val path = .ok () := by
  refine validateItems_ok (fun v hv => ?_) path 0
  obtain ⟨a, ha, rfl⟩ := List.mem_map.mp hv
  exact h a ha

theorem validate_ofMembers {members : List (String × Json)}
    (h : ∀ e ∈ members, isPortableKey e.1 ∧ ∀ q, validate e.2.val q = .ok ()) (path : String) :
    validate (Json.ofMembers members).val path = .ok () := by
  refine validateMembers_ok (fun e he => ?_) path
  obtain ⟨a, ha, rfl⟩ := List.mem_map.mp he
  exact h a (SortedMap.mem_of_mem_ofList ha)

theorem canonicalHash_ok {v : Json} (h : validate v.val "$" = .ok ()) :
    canonicalHash v = .ok (keccak256 (utf8 (write v.val))) := by
  rw [canonicalHash, canonicalBytes, h]
  rfl

/-! ## The order of the members -/

/-- **Members put in by any order are one object.** -/
theorem object_of_perm {members members' : List (String × Json)} (hperm : members.Perm members')
    (hnodup : (members.map Prod.fst).Nodup) : Json.ofMembers members = Json.ofMembers members' := by
  rw [Json.ofMembers, Json.ofMembers, SortedMap.ofList_perm hperm hnodup]

end GoatCoin.Attestor
