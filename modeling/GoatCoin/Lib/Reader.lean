/-
# `GoatCoin.Lib.Reader` — a bounds-checked cursor and what it reads

A reader is a buffer with a position in it.  A reading program consumes bytes at
the position or fails; it never looks behind it or past the end.  What a program
does is said by an encoder on the values it may return:

    Reads P p enc    p returns b and consumes k bytes  iff  b satisfies P, and the
                     bytes at the position start with `enc b`, of length k

so soundness (what is accepted was an encoding) and completeness (an encoding is
accepted) are the two directions of one statement, and a program that reads a
record field by field is handled by `Reads.bind`, which records in `P` the fields
that are already fixed.
-/
import GoatCoin.Lib.Wire

namespace Wire

/-- A buffer and how far it has been read. -/
structure Reader where
  buf : List UInt8
  pos : Nat
  pos_le : pos ≤ buf.length

/-- A program that reads, or fails. -/
abbrev Read := StateT Reader Option

namespace Reader

theorem start_le (buf : List UInt8) : 0 ≤ buf.length := Nat.zero_le _

def new (buf : List UInt8) : Reader := ⟨buf, 0, start_le buf⟩

/-- The next `n` bytes, or failure if fewer remain. -/
def take (n : Nat) : Read (List UInt8) := fun r =>
  if h : r.pos + n ≤ r.buf.length then some ((r.buf.drop r.pos).take n, ⟨r.buf, r.pos + n, h⟩)
  else none

/-- The whole buffer was consumed. -/
def isDone (r : Reader) : Bool := r.pos == r.buf.length

/-- The bytes not read yet. -/
def rest (r : Reader) : List UInt8 := r.buf.drop r.pos

@[simp] theorem rest_new (buf : List UInt8) : (new buf).rest = buf := rfl

theorem isDone_iff (r : Reader) : r.isDone = true ↔ r.rest = [] := by
  have := r.pos_le
  rw [isDone, rest, beq_iff_eq, List.drop_eq_nil_iff]
  omega

theorem ext_fields {r r' : Reader} (hb : r.buf = r'.buf) (hp : r.pos = r'.pos) : r = r' := by
  cases r; cases r'; cases hb; cases hp; rfl

/-- `r'` is `r` with `bs` consumed. -/
structure Consumed (r r' : Reader) (bs : List UInt8) : Prop where
  buf_eq : r'.buf = r.buf
  pos_eq : r'.pos = r.pos + bs.length
  rest_eq : r.rest = bs ++ r'.rest

theorem Consumed.refl (r : Reader) : Consumed r r [] := ⟨rfl, rfl, rfl⟩

theorem consumed_nil {r r' : Reader} : Consumed r r' [] ↔ r' = r :=
  ⟨fun h => ext_fields h.buf_eq h.pos_eq, fun h => h ▸ .refl r⟩

theorem consumed_append {r r'' : Reader} {a b : List UInt8} :
    Consumed r r'' (a ++ b) ↔ ∃ r', Consumed r r' a ∧ Consumed r' r'' b := by
  constructor
  · intro h
    have hpos := h.pos_eq
    have hle := r''.pos_le
    rw [List.length_append] at hpos
    rw [h.buf_eq] at hle
    have hmid : r.rest.drop a.length = b ++ r''.rest := by
      rw [h.rest_eq, List.append_assoc, List.drop_left]
    refine ⟨⟨r.buf, r.pos + a.length, by omega⟩, ⟨rfl, rfl, ?_⟩, ⟨h.buf_eq, ?_, ?_⟩⟩
    · rw [h.rest_eq, List.append_assoc, ← hmid, rest, rest, List.drop_drop]
    · rw [hpos, Nat.add_assoc]
    · rw [← hmid, rest, rest, List.drop_drop]
  · rintro ⟨r', h₁, h₂⟩
    refine ⟨h₂.buf_eq.trans h₁.buf_eq, ?_, ?_⟩
    · rw [h₂.pos_eq, h₁.pos_eq, List.length_append, Nat.add_assoc]
    · rw [h₁.rest_eq, h₂.rest_eq, List.append_assoc]

theorem take_eq_some {n : Nat} {r r' : Reader} {bs : List UInt8} :
    take n r = some (bs, r') ↔ bs.length = n ∧ Consumed r r' bs := by
  constructor
  · intro h
    unfold take at h
    split at h
    · rename_i hle
      cases h
      have hlen : ((r.buf.drop r.pos).take n).length = n := by
        rw [List.length_take, List.length_drop]
        omega
      refine ⟨hlen, rfl, by rw [hlen], ?_⟩
      show r.buf.drop r.pos = (r.buf.drop r.pos).take n ++ r.buf.drop (r.pos + n)
      rw [← List.drop_drop, List.take_append_drop]
    · cases h
  · rintro ⟨rfl, h⟩
    have hle : r.pos + bs.length ≤ r.buf.length := by
      have := r'.pos_le
      rwa [h.pos_eq, h.buf_eq] at this
    have htake : (r.buf.drop r.pos).take bs.length = bs := by
      show r.rest.take bs.length = bs
      rw [h.rest_eq, List.take_left]
    unfold take
    rw [dif_pos hle, htake]
    exact congrArg (fun r => some (bs, r)) (ext_fields h.buf_eq.symm h.pos_eq.symm)

end Reader

open Reader

/-! ## What a program reads -/

section
variable {α β : Type}

/-- The program returns the values of `P`, each from its encoding. -/
def Reads (P : α → Prop) (p : Read α) (enc : α → List UInt8) : Prop :=
  ∀ (r : Reader) (a : α) (r' : Reader), p r = some (a, r') ↔ P a ∧ Consumed r r' (enc a)

theorem Reads.pure {P : α → Prop} {a : α} (h : ∀ b, P b ↔ b = a) :
    Reads P (pure a : Read α) (fun _ => []) := by
  intro r b r'
  rw [h, consumed_nil]
  show some (a, r) = some (b, r') ↔ _
  rw [Option.some.injEq, Prod.mk.injEq]
  exact ⟨fun ⟨ha, hr⟩ => ⟨ha.symm, hr.symm⟩, fun ⟨ha, hr⟩ => ⟨ha.symm, hr.symm⟩⟩

theorem Reads.congr {P : α → Prop} {p : Read α} {d e : α → List UInt8} (hp : Reads P p d)
    (h : ∀ a, d a = e a) : Reads P p e := by
  have hde : d = e := funext h
  rwa [hde] at hp

theorem Reads.fail {P : α → Prop} {enc : α → List UInt8} (h : ∀ b, ¬ P b) :
    Reads P (fun _ => none : Read α) enc := by
  intro r b r'
  exact ⟨nofun, fun hb => absurd hb.1 (h b)⟩

theorem bind_eq_some {p : Read α} {q : α → Read β} {r r'' : Reader} {b : β} :
    (p >>= q) r = some (b, r'') ↔ ∃ a r', p r = some (a, r') ∧ q a r' = some (b, r'') := by
  show (p r).bind (fun s => q s.1 s.2) = some (b, r'') ↔ _
  rw [Option.bind_eq_some_iff]
  exact ⟨fun ⟨s, hp, hq⟩ => ⟨s.1, s.2, hp, hq⟩, fun ⟨a, r', hp, hq⟩ => ⟨(a, r'), hp, hq⟩⟩

theorem Reads.bind {P : β → Prop} {p : Read α} {q : α → Read β} {d : α → List UInt8}
    {e : β → List UInt8} (f : β → α) (hp : Reads (fun _ => True) p d)
    (hq : ∀ a, Reads (fun b => P b ∧ f b = a) (q a) e) :
    Reads P (p >>= q) (fun b => d (f b) ++ e b) := by
  intro r b r''
  rw [bind_eq_some, consumed_append]
  constructor
  · rintro ⟨a, r', h₁, h₂⟩
    obtain ⟨⟨hb, rfl⟩, hc⟩ := (hq a r' b r'').mp h₂
    exact ⟨hb, r', ((hp r (f b) r').mp h₁).2, hc⟩
  · rintro ⟨hb, r', h₁, h₂⟩
    exact ⟨f b, r', (hp r (f b) r').mpr ⟨trivial, h₁⟩, (hq (f b) r' b r'').mpr ⟨⟨hb, rfl⟩, h₂⟩⟩

theorem Reads.map {P : β → Prop} {Q : α → Prop} {p : Read α} {d : α → List UInt8}
    {e : β → List UInt8} (g : α → β) (f : β → α) (hp : Reads Q p d)
    (hg : ∀ a, Q a → P (g a) ∧ f (g a) = a) (hf : ∀ b, P b → Q (f b) ∧ g (f b) = b)
    (he : ∀ b, P b → e b = d (f b)) : Reads P (g <$> p) e := by
  intro r b r'
  have hmap : (g <$> p) r = (p r).map (fun s => (g s.1, s.2)) := by
    show (p r).bind (fun s => some (g s.1, s.2)) = _
    cases p r <;> rfl
  rw [hmap, Option.map_eq_some_iff]
  constructor
  · rintro ⟨⟨a, r₁⟩, ha, h⟩
    cases h
    obtain ⟨hQ, hc⟩ := (hp r a r₁).mp ha
    obtain ⟨hP, hinv⟩ := hg a hQ
    refine ⟨hP, ?_⟩
    rw [he _ hP, hinv]
    exact hc
  · rintro ⟨hP, hc⟩
    obtain ⟨hQ, hinv⟩ := hf b hP
    rw [he b hP] at hc
    exact ⟨(f b, r'), (hp r (f b) r').mpr ⟨hQ, hc⟩, by rw [hinv]⟩

theorem reads_take (n : Nat) :
    Reads (fun bs : List UInt8 => bs.length = n) (take n) (fun bs => bs) :=
  fun _ _ _ => take_eq_some

/-! ## A whole buffer -/

/-- Run on a buffer that must be consumed to its end. -/
def readAll (p : Read α) (buf : List UInt8) : Option α :=
  match p (new buf) with
  | some (a, r) => if r.isDone then some a else none
  | none => none

theorem readAll_eq_some {P : α → Prop} {p : Read α} {enc : α → List UInt8} (hp : Reads P p enc)
    {buf : List UInt8} {a : α} : readAll p buf = some a ↔ P a ∧ buf = enc a := by
  constructor
  · intro h
    unfold readAll at h
    split at h
    · rename_i b r hrun
      split at h
      · rename_i hdone
        cases h
        obtain ⟨hP, hc⟩ := (hp _ _ _).mp hrun
        have hrest := hc.rest_eq
        rw [(isDone_iff r).mp hdone, List.append_nil] at hrest
        exact ⟨hP, hrest⟩
      · cases h
    · cases h
  · rintro ⟨hP, rfl⟩
    have hrun : p (new (enc a)) = some (a, ⟨enc a, (enc a).length, Nat.le_refl _⟩) := by
      refine (hp _ _ _).mpr ⟨hP, rfl, (Nat.zero_add _).symm, ?_⟩
      show enc a = enc a ++ (enc a).drop (enc a).length
      rw [List.drop_length, List.append_nil]
    unfold readAll
    rw [hrun]
    exact if_pos (beq_self_eq_true _)

/-! ## Words and arrays -/

theorem toLE_ofLE_of_length {k : Nat} {bs : List UInt8} (h : bs.length = k) :
    toLE k (ofLE bs) = bs := by
  rw [← h, toLE_ofLE]

theorem reads_word {k : Nat} {g : Nat → α} {f : α → Nat} (hf : ∀ a, f a < 256 ^ k)
    (hgf : ∀ a, g (f a) = a) (hfg : ∀ n < 256 ^ k, f (g n) = n) :
    Reads (fun _ => True) ((fun bs => g (ofLE bs)) <$> take k) (fun a => toLE k (f a)) := by
  refine (reads_take k).map _ (fun a => toLE k (f a)) ?_ ?_ (fun _ _ => rfl)
  · intro bs hbs
    refine ⟨trivial, ?_⟩
    have hlt : ofLE bs < 256 ^ k := hbs ▸ ofLE_lt bs
    rw [hfg _ hlt, toLE_ofLE_of_length hbs]
  · intro a _
    refine ⟨length_toLE _ _, ?_⟩
    rw [ofLE_toLE k _ (hf a), hgf]

namespace Reader

def u8 : Read UInt8 := (·.headD 0) <$> take 1
def u16 : Read UInt16 := (fun bs => UInt16.ofNat (ofLE bs)) <$> take 2
def u32 : Read UInt32 := (fun bs => UInt32.ofNat (ofLE bs)) <$> take 4
def u64 : Read UInt64 := (fun bs => UInt64.ofNat (ofLE bs)) <$> take 8

/-- `[u8; K]`. -/
def array (K : Nat) : Read (List.Vector UInt8 K) := fun r =>
  match take K r with
  | some (bs, r') => if h : bs.length = K then some (⟨bs, h⟩, r') else none
  | none => none

end Reader

theorem reads_u8 : Reads (fun _ => True) u8 (fun v : UInt8 => [v]) := by
  refine (reads_take 1).map _ (fun v => [v]) ?_ (fun v _ => ⟨rfl, rfl⟩) (fun _ _ => rfl)
  intro bs hbs
  obtain ⟨b, rfl⟩ := List.length_eq_one_iff.mp hbs
  exact ⟨trivial, rfl⟩

theorem reads_u16 : Reads (fun _ => True) u16 (fun v : UInt16 => toLE 2 v.toNat) :=
  reads_word (fun v => v.toNat_lt) (fun _ => UInt16.ofNat_toNat)
    fun _ h => UInt16.toNat_ofNat_of_lt' h

theorem reads_u32 : Reads (fun _ => True) u32 (fun v : UInt32 => toLE 4 v.toNat) :=
  reads_word (fun v => v.toNat_lt) (fun _ => UInt32.ofNat_toNat)
    fun _ h => UInt32.toNat_ofNat_of_lt' h

theorem reads_u64 : Reads (fun _ => True) u64 (fun v : UInt64 => toLE 8 v.toNat) :=
  reads_word (fun v => v.toNat_lt) (fun _ => UInt64.ofNat_toNat)
    fun _ h => UInt64.toNat_ofNat_of_lt' h

theorem reads_array (K : Nat) :
    Reads (fun _ => True) (array K) (fun v : List.Vector UInt8 K => v.toList) := by
  intro r v r'
  unfold array
  constructor
  · intro h
    split at h
    · rename_i bs r₁ hrun
      split at h
      · cases h
        exact ⟨trivial, (take_eq_some.mp hrun).2⟩
      · cases h
    · cases h
  · rintro ⟨-, hc⟩
    have hrun : take K r = some (v.toList, r') := take_eq_some.mpr ⟨v.toList_length, hc⟩
    rw [hrun]
    exact dif_pos v.toList_length

/-! ## Loops -/

/-- `n` values one after another. -/
def Reader.times (p : Read α) : (n : Nat) → Read (List.Vector α n)
  | 0 => pure .nil
  | n + 1 => do
      let a ← p
      let v ← times p n
      pure (a ::ᵥ v)

theorem reads_times {p : Read α} {enc : α → List UInt8} (hp : Reads (fun _ => True) p enc) :
    ∀ n : Nat, Reads (fun _ => True) (times p n) (fun v => concat enc v.toList)
  | 0 => by
      refine (Reads.pure fun v => ?_).congr fun v => ?_
      · exact ⟨fun _ => v.eq_nil, fun _ => trivial⟩
      · rw [v.eq_nil]
        rfl
  | n + 1 => by
      refine Reads.congr (.bind List.Vector.head hp fun a =>
        .bind List.Vector.tail (reads_times hp n) fun t => .pure fun v => ?_) fun v => ?_
      · constructor
        · rintro ⟨⟨-, rfl⟩, rfl⟩
          exact v.cons_head_tail.symm
        · rintro rfl
          exact ⟨⟨trivial, rfl⟩, rfl⟩
      · rw [List.append_nil, ← concat_cons, ← List.Vector.toList_cons, v.cons_head_tail]

end

/-! ## Splitting a slice

The other way to read: no position, but the rest of the slice, split off at the front. -/

/-- A program that splits what it reads off a slice, or fails. -/
abbrev Split := StateT (List UInt8) Option

namespace Split

/-- `r.split_at(n)`, if there are as many. -/
def take (n : Nat) : Split (List UInt8) := fun r =>
  if r.length < n then none else some (r.splitAt n)

/-- `copy_from_slice` into an array of the length that was asked for. -/
def array (K : Nat) : Split (List.Vector UInt8 K) := fun r =>
  if h : r.length < K then none
  else some (⟨r.take K, by rw [List.length_take]; omega⟩, r.drop K)

def u64 : Split UInt64 := (fun bs => UInt64.ofNat (ofLE bs)) <$> take 8

theorem array_append {K : Nat} (v : List.Vector UInt8 K) (rest : List UInt8) :
    array K (v.toList ++ rest) = some (v, rest) := by
  have hlen : v.toList.length = K := v.toList_length
  have hfits : ¬ (v.toList ++ rest).length < K := by
    rw [List.length_append, hlen]
    omega
  rw [array, dif_neg hfits]
  refine congrArg some (Prod.ext (List.Vector.eq _ _ ?_) ?_)
  · exact List.take_left' hlen
  · exact List.drop_left' hlen

theorem u64_append (v : UInt64) (rest : List UInt8) :
    u64 (toLE 8 v.toNat ++ rest) = some (v, rest) := by
  have hlen : (toLE 8 v.toNat).length = 8 := length_toLE 8 v.toNat
  have hfits : ¬ (toLE 8 v.toNat ++ rest).length < 8 := by
    rw [List.length_append, hlen]
    omega
  have htake : take 8 (toLE 8 v.toNat ++ rest) = some (toLE 8 v.toNat, rest) := by
    rw [take, if_neg hfits, List.splitAt_eq, List.take_left' hlen, List.drop_left' hlen]
  show (take 8 (toLE 8 v.toNat ++ rest)).bind (fun s => some (UInt64.ofNat (ofLE s.1), s.2)) = _
  rw [htake]
  show some (UInt64.ofNat (ofLE (toLE 8 v.toNat)), rest) = _
  rw [ofLE_toLE 8 v.toNat v.toNat_lt, UInt64.ofNat_toNat]

theorem bind_of {α β : Type} {p : Split α} {q : α → Split β} {r rest : List UInt8} {a : α}
    (h : p r = some (a, rest)) : (p >>= q) r = q a rest := by
  show (p r).bind (fun s => q s.1 s.2) = _
  rw [h]
  rfl

end Split

end Wire
