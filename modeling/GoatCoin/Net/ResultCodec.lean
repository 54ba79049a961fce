/-
# `GoatCoin.Net.ResultCodec` — `codec.rs`: tasks and results as bytes

Every list goes after its length in 32 bits, and the determinism bound of a task goes as a number of
thousandths.  So

    decode (encode result)     is the result
    decode (encode task)       is the task, up to the bound

as long as the lengths fit their prefixes.  A list of `2 ^ 32` entries goes with length zero, and
its entries are read as what comes next.
-/
import GoatCoin.Lib.Reader
import GoatCoin.Lib.Utf8
import GoatCoin.Protocol.Verification

namespace GoatCoin.Net.Codec

open Wire Protocol
open Binary64 (Double)

/-! ## Bytes -/

def putBlob (b : List UInt8) : List UInt8 := toBE 4 b.length ++ b

def putI64 (v : Int) : List UInt8 := toBE 8 (v % 2 ^ 64).toNat

/-- The bound as a double, in thousandths. -/
def boundThousandths (bound : Option ℚ) : Int :=
  let d : Double := match bound with
    | some q => .finite q
    | none => .infinite false
  (d.mul (.finite 1000)).roundAway.toSigned 64

/-- The bytes of a task. -/
def encodeTask (t : Task) : List UInt8 :=
  toBE 4 t.taskClassId ++ putBlob (textBytes t.engineBuildId) ++ putBlob t.payload ++ toBE 8 t.seed
    ++ putI64 (boundThousandths t.determinismBound)

/-- The bytes of a result. -/
def encodeResult (r : TaskResult) : List UInt8 :=
  toBE 4 r.taskClassId ++ putBlob (textBytes r.engineBuildId) ++ toBE 4 r.tokens.length
    ++ r.tokens.flatMap (toBE 4) ++ toBE 4 r.vector.length ++ r.vector.flatMap putI64

/-! ## And back

Reading past the end, and bytes that are no text, are panics. -/

def ofBE (bs : List UInt8) : Nat := ofLE bs.reverse

def word (k : Nat) : Split Nat := ofBE <$> Split.take k

def i64 : Split Int := (fun n : Nat => (n : Int).bmod (2 ^ 64)) <$> word 8

def blob : Split (List UInt8) := do
  let n ← word 4
  Split.take n

def text : Split String := do
  let bs ← blob
  StateT.lift (Utf8.decode bs)

def times {α : Type} (p : Split α) : Nat → Split (List α)
  | 0 => pure []
  | n + 1 => do
      let a ← p
      let l ← times p n
      pure (a :: l)

/-- The bound that comes out of so many thousandths. -/
def boundOf (thousandths : Int) : ℚ := Binary64.round (Binary64.round thousandths / 1000)

def taskProgram : Split Task := do
  let taskClassId ← word 4
  let engineBuildId ← text
  let payload ← blob
  let seed ← word 8
  let thousandths ← i64
  pure ⟨taskClassId, engineBuildId, payload, seed, some (boundOf thousandths)⟩

/-- A task out of its bytes. -/
def decodeTask (b : List UInt8) : Option Task := (taskProgram b).map Prod.fst

def resultProgram : Split TaskResult := do
  let taskClassId ← word 4
  let engineBuildId ← text
  let nt ← word 4
  let tokens ← times (word 4) nt
  let nv ← word 4
  let vector ← times i64 nv
  pure ⟨taskClassId, tokens, vector, engineBuildId⟩

/-- A result out of its bytes. -/
def decodeResult (b : List UInt8) : Option TaskResult := (resultProgram b).map Prod.fst

/-! ## Round trips -/

/-- The numbers fit their words and the lengths their prefixes. -/
structure TaskFits (t : Task) : Prop where
  taskClassId : t.taskClassId < 2 ^ 32
  engineBuildId : (textBytes t.engineBuildId).length < 2 ^ 32
  payload : t.payload.length < 2 ^ 32
  seed : t.seed < 2 ^ 64

structure ResultFits (r : TaskResult) : Prop where
  taskClassId : r.taskClassId < 2 ^ 32
  engineBuildId : (textBytes r.engineBuildId).length < 2 ^ 32
  tokens_length : r.tokens.length < 2 ^ 32
  tokens : ∀ t ∈ r.tokens, t < 2 ^ 32
  vector_length : r.vector.length < 2 ^ 32
  vector : ∀ v ∈ r.vector, -2 ^ 63 ≤ v ∧ v < 2 ^ 63

theorem take_append (bs rest : List UInt8) :
    Split.take bs.length (bs ++ rest) = some (bs, rest) := by
  have hfits : ¬ (bs ++ rest).length < bs.length := by
    rw [List.length_append]
    omega
  rw [Split.take, if_neg hfits, List.splitAt_eq, List.take_left, List.drop_left]

theorem map_of {α β : Type} {p : Split α} {f : α → β} {r rest : List UInt8} {a : α}
    (h : p r = some (a, rest)) : (f <$> p) r = some (f a, rest) := by
  show (p r).bind (fun s => some (f s.1, s.2)) = _
  rw [h]
  rfl

theorem word_append {k n : Nat} (h : n < 256 ^ k) (rest : List UInt8) :
    word k (toBE k n ++ rest) = some (n, rest) := by
  have htake := take_append (toBE k n) rest
  rw [length_toBE] at htake
  unfold word
  rw [map_of htake, ofBE, toBE, List.reverse_reverse, ofLE_toLE k n h]

theorem i64_append {v : Int} (h : -2 ^ 63 ≤ v ∧ v < 2 ^ 63) (rest : List UInt8) :
    i64 (putI64 v ++ rest) = some (v, rest) := by
  have hlt : (v % 2 ^ 64).toNat < 256 ^ 8 := by omega
  have hback : (((v % 2 ^ 64).toNat : Nat) : Int).bmod (2 ^ 64) = v := by
    rw [Int.toNat_of_nonneg (Int.emod_nonneg _ (by decide))]
    have hmod : (v % 2 ^ 64).bmod (2 ^ 64) = v.bmod (2 ^ 64) := Int.emod_bmod v (2 ^ 64)
    rw [hmod]
    exact Int.bmod_eq_of_le (by omega) (by omega)
  unfold i64 putI64
  rw [map_of (word_append hlt rest), hback]

theorem blob_append {b : List UInt8} (h : b.length < 2 ^ 32) (rest : List UInt8) :
    blob (putBlob b ++ rest) = some (b, rest) := by
  unfold blob putBlob
  rw [List.append_assoc, Split.bind_of (word_append h (b ++ rest)), take_append]

theorem text_append {s : String} (h : (textBytes s).length < 2 ^ 32) (rest : List UInt8) :
    text (putBlob (textBytes s) ++ rest) = some (s, rest) := by
  have hdecode : Utf8.decode (textBytes s) = some s := Utf8.decode_toUTF8 s
  unfold text
  rw [Split.bind_of (blob_append h rest), hdecode]
  rfl

theorem times_append {α : Type} {p : Split α} {enc : α → List UInt8} (l : List α)
    (h : ∀ a ∈ l, ∀ rest, p (enc a ++ rest) = some (a, rest)) (rest : List UInt8) :
    times p l.length (l.flatMap enc ++ rest) = some (l, rest) := by
  induction l with
  | nil => rfl
  | cons a l ih =>
      rw [List.flatMap_cons, List.append_assoc, List.length_cons, times,
        Split.bind_of (h a List.mem_cons_self _),
        Split.bind_of (ih fun b hb => h b (List.mem_cons_of_mem _ hb))]
      rfl

/-- **A result comes back.** -/
theorem decodeResult_encodeResult {r : TaskResult} (h : ResultFits r) :
    decodeResult (encodeResult r) = some r := by
  have hprogram : resultProgram (encodeResult r ++ []) = some (r, []) := by
    unfold resultProgram encodeResult
    rw [List.append_assoc, List.append_assoc, List.append_assoc, List.append_assoc,
      List.append_assoc,
      Split.bind_of (word_append h.taskClassId _), Split.bind_of (text_append h.engineBuildId _),
      Split.bind_of (word_append h.tokens_length _),
      Split.bind_of (times_append r.tokens (fun t ht => word_append (h.tokens t ht)) _),
      Split.bind_of (word_append h.vector_length _),
      Split.bind_of (times_append r.vector (fun v hv => i64_append (h.vector v hv)) _)]
    rfl
  unfold decodeResult
  rw [← List.append_nil (encodeResult r), hprogram]
  rfl

theorem boundThousandths_range (bound : Option ℚ) :
    -2 ^ 63 ≤ boundThousandths bound ∧ boundThousandths bound < 2 ^ 63 := by
  have hcast : ∀ d : Double, -2 ^ 63 ≤ d.toSigned 64 ∧ d.toSigned 64 < 2 ^ 63 := by
    intro d
    cases d with
    | finite x =>
        unfold Double.toSigned
        dsimp only
        omega
    | infinite negative => cases negative <;> decide
    | nan => decide
  exact hcast _

/-- **A task comes back**, with a bound in thousandths. -/
theorem decodeTask_encodeTask {t : Task} (h : TaskFits t) : decodeTask (encodeTask t)
    = some { t with determinismBound := some (boundOf (boundThousandths t.determinismBound)) } := by
  have hprogram : taskProgram (encodeTask t ++ [])
      = some ({ t with determinismBound := some (boundOf (boundThousandths t.determinismBound)) },
        []) := by
    unfold taskProgram encodeTask
    rw [List.append_assoc, List.append_assoc, List.append_assoc, List.append_assoc,
      Split.bind_of (word_append h.taskClassId _), Split.bind_of (text_append h.engineBuildId _),
      Split.bind_of (blob_append h.payload _), Split.bind_of (word_append h.seed _),
      Split.bind_of (i64_append (boundThousandths_range _) _)]
    rfl
  unfold decodeTask
  rw [← List.append_nil (encodeTask t), hprogram]
  rfl

theorem length_putBlob (b : List UInt8) : (putBlob b).length = 4 + b.length := by
  rw [putBlob, List.length_append, length_toBE]

theorem length_encodeTask {t : Task} (h : TaskFits t) : (encodeTask t).length ≤ 2 ^ 36 := by
  have hid := h.engineBuildId
  have hpayload := h.payload
  unfold encodeTask putI64
  simp only [List.length_append, length_toBE, length_putBlob]
  omega

theorem length_flatMap_const {α : Type} {enc : α → List UInt8} {k : Nat}
    (henc : ∀ a, (enc a).length = k) (l : List α) : (l.flatMap enc).length = l.length * k := by
  induction l with
  | nil => rw [List.flatMap_nil, List.length_nil, List.length_nil, Nat.zero_mul]
  | cons a l ih =>
      rw [List.flatMap_cons, List.length_append, ih, henc, List.length_cons,
        Nat.succ_mul, Nat.add_comm]

theorem length_encodeResult_eq (r : TaskResult) : (encodeResult r).length
    = 16 + (textBytes r.engineBuildId).length + r.tokens.length * 4 + r.vector.length * 8 := by
  have hwords : (r.tokens.flatMap (toBE 4)).length = r.tokens.length * 4 :=
    length_flatMap_const (length_toBE 4) _
  have hentries : (r.vector.flatMap putI64).length = r.vector.length * 8 :=
    length_flatMap_const (fun v => length_toBE 8 _) _
  unfold encodeResult
  simp only [List.length_append, length_toBE, length_putBlob, hwords, hentries]
  omega

theorem length_encodeResult {r : TaskResult} (h : ResultFits r) :
    (encodeResult r).length ≤ 2 ^ 36 := by
  have hid := h.engineBuildId
  have htokens := h.tokens_length
  have hvector := h.vector_length
  rw [length_encodeResult_eq]
  omega

end GoatCoin.Net.Codec
