/-! Texts and the bytes of their encoding.

A byte of ASCII stands for one character and is part of no other.
-/

namespace VersionStamp.Text

theorem toList_toUTF8 (text : String) :
    text.toUTF8.data.toList = text.toList.flatMap String.utf8EncodeChar := by
  rw [String.toUTF8, ← String.utf8Encode_toList, List.utf8Encode, List.toList_data_toByteArray]

/-- A byte of ASCII is in the encoding of the character it stands for, and in no other. -/
theorem toNat_of_mem_utf8EncodeChar {c : Char} {byte : UInt8}
    (member : byte ∈ String.utf8EncodeChar c) (ascii : byte.toNat < 128) :
    c.toNat = byte.toNat := by
  have value : c.val.toNat = c.toNat := rfl
  unfold String.utf8EncodeChar at member
  dsimp only at member
  split at member
  · obtain rfl := List.mem_singleton.mp member
    simp only [UInt8.toNat_ofNat', value] at ascii ⊢
    omega
  · -- the bytes of a longer encoding all have their highest bit set
    exfalso
    repeat' split at member
    all_goals
      simp only [List.mem_cons, List.not_mem_nil, or_false] at member
      rcases member with rfl | rfl | rfl | rfl
    all_goals
      simp only [UInt8.toNat_ofNat'] at ascii
      omega

theorem head?_toUTF8_slash (text : String) :
    text.toUTF8.data.toList.head? = some 47 ↔ text.toList.head? = some '/' := by
  rw [toList_toUTF8]
  cases text.toList with
  | nil => simp
  | cons c rest =>
      rw [List.flatMap_cons, List.head?_cons, Option.some.injEq]
      constructor
      · intro head
        have first : (47 : UInt8) ∈ String.utf8EncodeChar c := by
          cases bytes : String.utf8EncodeChar c with
          | nil => exact absurd bytes String.utf8EncodeChar_ne_nil
          | cons byte others =>
              rw [bytes, List.cons_append, List.head?_cons, Option.some.injEq] at head
              exact head ▸ List.mem_cons_self
        exact Char.toNat_inj.mp (toNat_of_mem_utf8EncodeChar first (by decide))
      · rintro rfl
        rfl

end VersionStamp.Text
