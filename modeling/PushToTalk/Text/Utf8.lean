import PushToTalk.Text.Split

/-
  Texts as bytes.

  A text is stored as the encodings of its characters, one after the other.  What is stored need
  not be a text at all, so the way back may fail.
-/

namespace PushToTalk.Text

/-- The bytes of a list of characters. -/
def utf8 (cs : List Char) : List UInt8 := cs.flatMap String.utf8EncodeChar

/-- The text that bytes encode, if they encode one. -/
def ofUtf8? (bytes : List UInt8) : Option String := String.fromUTF8? ⟨bytes.toArray⟩

/-- The character that bytes begin with, if they begin with one. -/
def firstChar? (bytes : List UInt8) : Option Char := ByteArray.utf8DecodeChar? ⟨bytes.toArray⟩ 0

@[simp] theorem utf8_nil : utf8 [] = [] := rfl

/-- The bytes of a text begin with those of its first character. -/
theorem utf8_cons (c : Char) (cs : List Char) :
    utf8 (c :: cs) = String.utf8EncodeChar c ++ utf8 cs := List.flatMap_cons

/-- The bytes of two texts follow each other like the texts. -/
theorem utf8_append (cs ds : List Char) : utf8 (cs ++ ds) = utf8 cs ++ utf8 ds :=
  List.flatMap_append

/-- Only the empty text has no bytes. -/
theorem utf8_eq_nil_iff {cs : List Char} : utf8 cs = [] ↔ cs = [] := by
  cases cs with
  | nil => simp
  | cons c rest =>
    have hlength := String.length_utf8EncodeChar c
    have hpos := c.utf8Size_pos
    simp only [utf8_cons, List.append_eq_nil_iff, reduceCtorEq, iff_false, not_and]
    intro hnil
    rw [hnil] at hlength
    simp only [List.length_nil] at hlength
    omega

/-- A text and its bytes, as an array. -/
theorem toByteArray_eq (s : String) : s.toByteArray = ⟨(utf8 s.toList).toArray⟩ := by
  rw [← String.utf8Encode_toList]
  ext1
  simp [List.utf8Encode, utf8]

/-- Bytes encode a text exactly if they are the bytes of that text. -/
theorem ofUtf8?_eq_some_iff {bytes : List UInt8} {s : String} :
    ofUtf8? bytes = some s ↔ bytes = utf8 s.toList := by
  unfold ofUtf8? String.fromUTF8?
  constructor
  · intro h
    split at h
    · have harray : (⟨bytes.toArray⟩ : ByteArray) = s.toByteArray :=
        congrArg String.toByteArray (Option.some.inj h)
      rw [toByteArray_eq] at harray
      simpa using harray
    · cases h
  · intro h
    have harray : (⟨bytes.toArray⟩ : ByteArray) = s.toByteArray := by rw [h, toByteArray_eq]
    rw [harray, dif_pos s.isValidUTF8]
    rfl

/-- The bytes of a text are read as that text. -/
theorem ofUtf8?_utf8 (cs : List Char) : ofUtf8? (utf8 cs) = some (String.ofList cs) := by
  rw [ofUtf8?_eq_some_iff, String.toList_ofList]

/-- No two texts have the same bytes. -/
theorem utf8_inj {cs ds : List Char} : utf8 cs = utf8 ds ↔ cs = ds := by
  constructor
  · intro h
    have hsame := ofUtf8?_utf8 cs
    rw [h, ofUtf8?_utf8 ds] at hsame
    exact (String.ofList_injective (Option.some.inj hsame)).symm
  · rintro rfl
    rfl

/-- The bytes of a text begin with the bytes of its first character. -/
theorem firstChar?_utf8_cons (c : Char) (rest : List UInt8) :
    firstChar? (String.utf8EncodeChar c ++ rest) = some c := by
  have harray : (⟨(String.utf8EncodeChar c ++ rest).toArray⟩ : ByteArray) =
      (String.utf8EncodeChar c).toByteArray ++ rest.toByteArray := by
    ext1
    simp
  rw [firstChar?, harray]
  exact ByteArray.utf8DecodeChar?_utf8EncodeChar_append

end PushToTalk.Text
