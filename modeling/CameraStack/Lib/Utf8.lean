/-
# UTF-8

A text and its bytes.  Decoding is the one of Lean, which accepts what Python's strict decoder
accepts; a text of ASCII characters has one byte for each.
-/

import CameraStack.Lib.JsonText

namespace CameraStack.Lib

/-- `str.encode`. -/
def encodeUtf8 (text : Text) : List UInt8 := text.flatMap String.utf8EncodeChar

/-- `bytes.decode`; `none` is a `UnicodeDecodeError`. -/
def decodeUtf8 (bytes : List UInt8) : Option Text :=
  bytes.toByteArray.utf8Decode?.map Array.toList

theorem decodeUtf8_encodeUtf8 (text : Text) : decodeUtf8 (encodeUtf8 text) = some text := by
  have hbytes : (encodeUtf8 text).toByteArray = text.utf8Encode := rfl
  rw [decodeUtf8, hbytes, List.utf8Decode?_utf8Encode]
  rfl

/-- Texts with the same bytes are the same text. -/
theorem encodeUtf8_injective : Function.Injective encodeUtf8 := by
  intro text other h
  have hdecode := congrArg decodeUtf8 h
  rw [decodeUtf8_encodeUtf8, decodeUtf8_encodeUtf8] at hdecode
  exact Option.some.inj hdecode

/-- A text of ASCII characters. -/
def IsAscii (text : Text) : Prop := ∀ c ∈ text, c.toNat < 128

theorem length_utf8EncodeChar_of_ascii {c : Char} (h : c.toNat < 128) :
    (String.utf8EncodeChar c).length = 1 := by
  have hle : c.val ≤ 0x7f := by
    rw [UInt32.le_iff_toNat_le]
    exact Nat.le_of_lt_succ h
  rw [String.length_utf8EncodeChar, Char.utf8Size]
  exact if_pos hle

theorem length_encodeUtf8 {text : Text} (h : IsAscii text) :
    (encodeUtf8 text).length = text.length := by
  induction text with
  | nil => rfl
  | cons c text ih =>
      obtain ⟨hc, htext⟩ := List.forall_mem_cons.mp h
      rw [encodeUtf8, List.flatMap_cons, List.length_append, length_utf8EncodeChar_of_ascii hc,
        List.length_cons, Nat.add_comm]
      exact congrArg (· + 1) (ih htext)

/-- The first bytes of an ASCII text are the bytes of its first characters. -/
theorem take_encodeUtf8 {text : Text} (h : IsAscii text) (n : ℕ) :
    (encodeUtf8 text).take n = encodeUtf8 (text.take n) := by
  rw [← List.take_append_drop n text] at h
  obtain ⟨hfront, -⟩ := List.forall_mem_append.mp h
  have hsplit : encodeUtf8 text = encodeUtf8 (text.take n) ++ encodeUtf8 (text.drop n) := by
    rw [encodeUtf8, encodeUtf8, encodeUtf8, ← List.flatMap_append, List.take_append_drop]
  have hlength := length_encodeUtf8 hfront
  rw [hsplit, List.take_append, hlength]
  rcases Nat.le_total n text.length with hle | hle
  · rw [List.length_take_of_le hle, Nat.sub_self, List.take_zero, List.append_nil]
    exact List.take_of_length_le (by rw [hlength, List.length_take_of_le hle])
  · rw [List.drop_eq_nil_of_le hle]
    have hshort : (encodeUtf8 (text.take n)).length ≤ n := by
      rw [hlength, List.length_take]
      exact Nat.min_le_left _ _
    rw [List.take_of_length_le hshort]
    simp [encodeUtf8]

end CameraStack.Lib
