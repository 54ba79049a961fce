/-
# `GoatCoin.Lib.Utf8` — the bytes of a text, and back

`ByteArray.toList` is a loop.  What it gives is the list of the array, and a text is decoded from
its own bytes.
-/
import Mathlib.Data.List.TakeDrop

namespace Utf8

theorem toList_loop (bs : ByteArray) (i : Nat) (r : List UInt8) :
    ByteArray.toList.loop bs i r = r.reverse ++ bs.data.toList.drop i := by
  fun_induction ByteArray.toList.loop bs i r with
  | case1 i r hlt ih =>
      have hget : bs.get! i = bs.data.toList[i] := by
        show bs.data[i]! = _
        rw [getElem!_pos bs.data i hlt]
        rfl
      rw [ih, List.reverse_cons, List.append_assoc, hget, List.singleton_append,
        List.cons_getElem_drop_succ]
  | case2 i r hge =>
      have hdrop : bs.data.toList.drop i = [] :=
        List.drop_eq_nil_of_le (by rw [Array.length_toList]; exact Nat.le_of_not_lt hge)
      rw [hdrop, List.append_nil]

theorem toList_eq (bs : ByteArray) : bs.toList = bs.data.toList := by
  rw [ByteArray.toList, toList_loop]
  rfl

theorem toByteArray_toList (bs : ByteArray) : bs.toList.toByteArray = bs := by
  have hdata : bs.toList.toByteArray.data.toList = bs.data.toList := by
    rw [List.toList_data_toByteArray, toList_eq]
  exact ByteArray.ext (Array.toList_inj.mp hdata)

/-- The text of these bytes, if they are UTF-8. -/
def decode (bs : List UInt8) : Option String := String.fromUTF8? bs.toByteArray

theorem decode_toUTF8 (s : String) : decode s.toUTF8.toList = some s := by
  unfold decode String.fromUTF8?
  rw [toByteArray_toList]
  exact dif_pos s.isValidUTF8

end Utf8
