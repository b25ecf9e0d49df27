import Mathlib.Tactic.Lemma

/-! The bytes of a text in a file: they are those of its UTF-8 form, and they are read back as the
text. -/
namespace ClimateStation.Text

lemma toList_loop (bytes : ByteArray) (i : Nat) (taken : List UInt8) :
    ByteArray.toList.loop bytes i taken = taken.reverse ++ bytes.data.toList.drop i := by
  fun_induction ByteArray.toList.loop bytes i taken with
  | case1 i taken more ih =>
    have here : bytes.data.toList.drop i = bytes.get! i :: bytes.data.toList.drop (i + 1) := by
      have within : i < bytes.data.toList.length := by simpa using more
      rw [List.drop_eq_getElem_cons within]
      simp [ByteArray.get!,more]
    rw [ih,here]
    simp
  | case2 i taken past =>
    have none : bytes.data.toList.drop i = [] := by
      apply List.drop_eq_nil_of_le
      simpa using past
    rw [none,List.append_nil]

lemma toList_toUTF8 (s : String) : s.toUTF8.toList = s.toUTF8.data.toList := toList_loop s.toUTF8 0 []

@[simp] lemma length_toUTF8 (s : String) : s.toUTF8.toList.length = s.utf8ByteSize := by
  rw [toList_toUTF8,Array.length_toList]
  rfl

theorem fromUTF8?_toUTF8 (s : String) :
    String.fromUTF8? (ByteArray.mk s.toUTF8.toList.toArray) = some s := by
  have bytes : ByteArray.mk s.toUTF8.toList.toArray = s.toUTF8 := by rw [toList_toUTF8]
  rw [bytes]
  exact dif_pos s.isValidUTF8

/-- A text has as many bytes as it was read from. -/
lemma utf8ByteSize_of_fromUTF8? {bytes : List UInt8} {s : String}
    (read : String.fromUTF8? (ByteArray.mk bytes.toArray) = some s) :
    s.utf8ByteSize = bytes.length := by
  unfold String.fromUTF8? at read
  split at read
  · cases read
    rfl
  · cases read

end ClimateStation.Text
