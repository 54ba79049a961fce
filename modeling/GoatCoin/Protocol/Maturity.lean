/-
# `GoatCoin.Protocol.Maturity` — `maturity.rs` and `hll.rs`: receipts folded into accumulators

A receipt is folded into the accumulator of its class and window.  All that a receipt does there can
be done in any order:

    v_c, d_num, f_num    are counted
    sub_events           one of 24 buckets is counted
    clusters, asns       one of 4096 registers is raised

A cluster that is in a merge group is counted under the group's representative, its smallest id.
The representatives are written group after group, the later over the earlier.
-/
import GoatCoin.Core.Sha3
import GoatCoin.Lib.Assoc
import Mathlib.Data.String.Basic
import Mathlib.Tactic

namespace GoatCoin.Protocol

open Wire Assoc

abbrev ClassId := String

def textBytes (s : String) : List UInt8 := s.toUTF8.toList

/-! ## The sketch -/

/-- A table of registers, each of which is only ever raised. -/
structure Hll where
  registers : Vector Nat 4096
deriving DecidableEq

def Hll.new : Hll := ⟨Vector.replicate 4096 0⟩

def hash64 (item : List UInt8) : Nat := ofLE ((sha3_256 item).toList.take 8).reverse

/-- The top twelve bits. -/
def slotIndex (item : List UInt8) : Fin 4096 := Fin.ofNat 4096 (hash64 item / 2 ^ 52)

/-- The place of the first one among the other bits. -/
def slotRank (item : List UInt8) : Nat :=
  let w := hash64 item * 2 ^ 12 % 2 ^ 64
  if w = 0 then 53 else min (63 - Nat.log2 w + 1) 53

/-- All that a sketch keeps of an item. -/
def slot (item : List UInt8) : Fin 4096 × Nat := (slotIndex item, slotRank item)

def Hll.addSlot (h : Hll) (s : Fin 4096 × Nat) : Hll :=
  if h.registers[s.1] < s.2 then ⟨h.registers.set s.1 s.2⟩ else h

/-- Notes an item. -/
def Hll.add (h : Hll) (item : List UInt8) : Hll := h.addSlot (slot item)

/-! ## Accumulators -/

structure Receipt where
  classId : ClassId
  taskClassId : Nat
  window : Nat
  subWindow : Nat
  clusterId : String
  asn : String
  diverged : Bool
  fault : Bool
deriving DecidableEq

def subWindows : Nat := 24

@[ext] structure ClassAccumulator where
  classId : ClassId
  window : Nat
  vC : Nat
  dNum : Nat
  fNum : Nat
  subEvents : Vector Nat 24
  coverClustersHll : Hll
  coverAsnsHll : Hll
deriving DecidableEq

namespace ClassAccumulator

def empty (classId : ClassId) (window : Nat) : ClassAccumulator :=
  ⟨classId, window, 0, 0, 0, Vector.replicate 24 0, .new, .new⟩

/-- The digest of the counts. -/
def root (acc : ClassAccumulator) : List UInt8 :=
  (sha3_256
    ([0x47, 0x41, 0x43, 0x43, 0x02] ++ toBE 4 (textBytes acc.classId).length
    ++ textBytes acc.classId
    ++ [acc.window, acc.vC, acc.dNum, acc.fNum].flatMap (toBE 8) ++ acc.subEvents.toList.flatMap
      (toBE 8)
    ++ acc.coverClustersHll.registers.toList.map UInt8.ofNat
    ++ acc.coverAsnsHll.registers.toList.map UInt8.ofNat)).toList

end ClassAccumulator

def burstMinEvents : Nat := 8

/-- The anomalies of the window stand in one bucket. -/
def anomalyBurst (acc : ClassAccumulator) : Bool :=
  let total := acc.subEvents.toList.sum
  let peak := acc.subEvents.toList.max?.getD 0
  peak ≥ burstMinEvents && 2 * peak ≥ total

/-! ## The fold -/

/-- One group's members, all under its smallest id. -/
def mergeGroup (rep : Map String String) (grp : List String) : Map String String :=
  match grp.min? with
  | some r => grp.foldl (fun rep c => rep.insert c r) rep
  | none => rep

def clusterRepresentative (mergeGroups : List (List String)) : Map String String :=
  mergeGroups.foldl mergeGroup ∅

/-- The id a cluster is counted under. -/
def representative (mergeGroups : List (List String)) (c : String) : String :=
  ((clusterRepresentative mergeGroups).lookup c).getD c

/-- A bucket is counted. -/
def bump (v : Vector Nat 24) (i : Fin 24) : Vector Nat 24 := v.set i (v[i] + 1)

def Receipt.anomalous (r : Receipt) : Bool := r.diverged || r.fault

def Receipt.bucket (r : Receipt) : Fin 24 := Fin.ofNat 24 r.subWindow

/-- Counts one receipt. -/
def ClassAccumulator.record (acc : ClassAccumulator) (rep : String → String)
    (r : Receipt) : ClassAccumulator :=
  { acc with
    vC := acc.vC + 1
    dNum := if r.diverged then acc.dNum + 1 else acc.dNum
    fNum := if r.fault then acc.fNum + 1 else acc.fNum
    subEvents := if r.anomalous then bump acc.subEvents r.bucket else acc.subEvents
    coverClustersHll := acc.coverClustersHll.add (textBytes (rep r.clusterId))
    coverAsnsHll := acc.coverAsnsHll.add (textBytes r.asn) }

def Receipt.key (r : Receipt) : ClassId × Nat := (r.classId, r.window)

def foldOne (rep : String → String) (out : Map (ClassId × Nat) ClassAccumulator) (r : Receipt) :
    Map (ClassId × Nat) ClassAccumulator :=
  out.insert r.key (((out.lookup r.key).getD (.empty r.classId r.window)).record rep r)

def foldReceipts (receipts : List Receipt) (mergeGroups : List (List String)) :
    Map (ClassId × Nat) ClassAccumulator :=
  receipts.foldl (foldOne (representative mergeGroups)) ∅

/-! ## In any order -/

theorem getElem_addSlot (h : Hll) (s : Fin 4096 × Nat) (j : Nat) (hj : j < 4096) :
    (h.addSlot s).registers[j] = if s.1.val = j then max h.registers[j] s.2
    else h.registers[j] := by
  unfold Hll.addSlot
  split
  · rename_i hlt
    rw [Vector.getElem_set]
    split
    · rename_i heq
      subst heq
      exact (max_eq_right (le_of_lt hlt)).symm
    · rfl
  · rename_i hle
    split
    · rename_i heq
      subst heq
      exact (max_eq_left (not_lt.mp hle)).symm
    · rfl

theorem addSlot_comm (h : Hll) (s t : Fin 4096 × Nat) :
    (h.addSlot s).addSlot t = (h.addSlot t).addSlot s := by
  have hregisters : ((h.addSlot s).addSlot t).registers = ((h.addSlot t).addSlot s).registers := by
    refine Vector.ext fun j hj => ?_
    simp only [getElem_addSlot]
    split
    · split
      · exact max_right_comm _ _ _
      · rfl
    · rfl
  cases hst : (h.addSlot s).addSlot t
  cases hts : (h.addSlot t).addSlot s
  rw [hst, hts] at hregisters
  dsimp only at hregisters
  rw [hregisters]

theorem getElem_bump (v : Vector Nat 24) (i : Fin 24) (k : Nat) (hk : k < 24) :
    (bump v i)[k] = if i.val = k then v[k] + 1 else v[k] := by
  unfold bump
  rw [Vector.getElem_set]
  split
  · rename_i heq
    subst heq
    rfl
  · rfl

theorem bump_comm (v : Vector Nat 24) (i j : Fin 24) : bump (bump v i) j = bump (bump v j) i := by
  refine Vector.ext fun k hk => ?_
  simp only [getElem_bump]
  split_ifs <;> rfl

/-- **Two receipts are recorded in either order.** -/
theorem record_comm (acc : ClassAccumulator) (rep : String → String) (r q : Receipt) :
    (acc.record rep r).record rep q = (acc.record rep q).record rep r := by
  unfold ClassAccumulator.record
  refine ClassAccumulator.ext rfl rfl rfl ?_ ?_ ?_ ?_ ?_
  · dsimp only
    split_ifs <;> rfl
  · dsimp only
    split_ifs <;> rfl
  · dsimp only
    split_ifs
    · exact bump_comm _ _ _
    · rfl
    · rfl
    · rfl
  · exact addSlot_comm _ _ _
  · exact addSlot_comm _ _ _

/-- The receipts of one class and window. -/
def itemsAt (key : ClassId × Nat) (receipts : List Receipt) : List Receipt :=
  receipts.filter fun r => r.key = key

/-- The accumulator of some receipts. -/
def accumulate (rep : String → String) (key : ClassId × Nat)
    (items : List Receipt) : ClassAccumulator :=
  items.foldl (fun acc r => acc.record rep r) (.empty key.1 key.2)

theorem lookup_foldOne (rep : String → String) (out : Map (ClassId × Nat) ClassAccumulator)
    (r : Receipt) (key : ClassId × Nat) :
    (foldOne rep out r).lookup key
      = if r.key = key then some (((out.lookup key).getD (.empty key.1 key.2)).record rep r)
      else out.lookup key := by
  unfold foldOne
  split
  · rename_i heq
    subst heq
    rw [AList.lookup_insert]
    rfl
  · rename_i hne
    exact AList.lookup_insert_ne fun heq => hne heq.symm

theorem lookup_foldl (rep : String → String) (key : ClassId × Nat) (receipts : List Receipt) :
    ∀ out : Map (ClassId × Nat) ClassAccumulator, (receipts.foldl (foldOne rep) out).lookup key
      = if itemsAt key receipts = [] then out.lookup key
        else some ((itemsAt key receipts).foldl (fun acc r => acc.record rep r)
          ((out.lookup key).getD (.empty key.1 key.2))) := by
  induction receipts with
  | nil =>
      intro out
      rfl
  | cons r receipts ih =>
      intro out
      rw [List.foldl_cons, ih, lookup_foldOne]
      unfold itemsAt
      by_cases hkey : r.key = key
      · rw [List.filter_cons_of_pos (by simpa using hkey), if_pos hkey,
          if_neg (List.cons_ne_nil _ _), List.foldl_cons, Option.getD_some]
        split
        · rename_i hnil
          rw [hnil]
          rfl
        · rfl
      · rw [List.filter_cons_of_neg (by simpa using hkey), if_neg hkey]

/-- **What the fold holds at a key**: the accumulator of the key's own receipts. -/
theorem lookup_foldReceipts (receipts : List Receipt) (mergeGroups : List (List String))
    (key : ClassId × Nat) :
    (foldReceipts receipts mergeGroups).lookup key
      = if itemsAt key receipts = [] then none
        else some (accumulate (representative mergeGroups) key (itemsAt key receipts)) := by
  unfold foldReceipts
  rw [lookup_foldl, AList.lookup_empty]
  rfl

theorem accumulate_perm (rep : String → String) (key : ClassId × Nat) {items items' : List Receipt}
    (h : items.Perm items') : accumulate rep key items = accumulate rep key items' :=
  h.foldl_eq' (fun r _ q _ acc => record_comm acc rep r q) _

/-- **The order of the receipts does not matter.** -/
theorem foldReceipts_perm {receipts receipts' : List Receipt} (h : receipts.Perm receipts')
    (mergeGroups : List (List String)) (key : ClassId × Nat) :
    (foldReceipts receipts mergeGroups).lookup key
    = (foldReceipts receipts' mergeGroups).lookup key := by
  have hitems : (itemsAt key receipts).Perm (itemsAt key receipts') := h.filter _
  rw [lookup_foldReceipts, lookup_foldReceipts, accumulate_perm _ _ hitems]
  by_cases hnil : itemsAt key receipts = []
  · rw [if_pos hnil]
    rw [hnil] at hitems
    rw [if_pos hitems.nil_eq.symm]
  · rw [if_neg hnil, if_neg fun hnil' => hnil (by rw [hnil'] at hitems; exact hitems.eq_nil)]

end GoatCoin.Protocol
