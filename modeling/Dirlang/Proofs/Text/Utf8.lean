import Mathlib
import Dirlang.Text.Utf8

/-!
Reading the bytes of a text gives the text.
-/

namespace Dirlang.Text

/-- Bytes that are a text. -/
def IsUtf8 (bytes : List UInt8) : Prop := ∃ s, utf8 s = bytes

variable {bytes front : List UInt8} {c : Char} {b : UInt8}

lemma utf8_append (s t : String) : utf8 (s ++ t) = utf8 s ++ utf8 t := by
  simp [utf8]

lemma isUtf8_nil : IsUtf8 [] := ⟨"", rfl⟩

lemma IsUtf8.append (h : IsUtf8 front) (h' : IsUtf8 bytes) : IsUtf8 (front ++ bytes) := by
  obtain ⟨s, rfl⟩ := h
  obtain ⟨t, rfl⟩ := h'
  exact ⟨s ++ t, utf8_append s t⟩

lemma isUtf8_utf8EncodeChar (c : Char) : IsUtf8 (String.utf8EncodeChar c) :=
  ⟨String.singleton c, by simp [utf8]⟩

/-! ### Reading -/

lemma first?_append (c : Char) (bytes : List UInt8) :
    first? (String.utf8EncodeChar c ++ bytes) = some c := by
  have hlength : (String.utf8EncodeChar c).length ≤ 4 := by
    rw [String.length_utf8EncodeChar]
    exact c.utf8Size_le_four
  rw [first?, List.take_append, List.take_of_length_le hlength, List.toByteArray_append]
  exact ByteArray.utf8DecodeChar?_utf8EncodeChar_append

lemma read_length_append (front bytes : List UInt8) :
    read front.length (front ++ bytes) = read 0 bytes := by
  induction front with
  | nil => rfl
  | cons b front ih => exact ih

lemma read_utf8EncodeChar_append (c : Char) (bytes : List UInt8) :
    read 0 (String.utf8EncodeChar c ++ bytes) = c :: read 0 bytes := by
  have hfirst := first?_append c bytes
  have hlength := String.length_utf8EncodeChar c
  -- the first byte gives the character, and the others are passed over
  obtain ⟨b, rest, hrest⟩ : ∃ b rest, String.utf8EncodeChar c = b :: rest :=
    List.exists_cons_of_length_pos (hlength ▸ c.utf8Size_pos)
  rw [hrest] at hlength hfirst ⊢
  rw [List.cons_append] at hfirst ⊢
  rw [read, hfirst]
  dsimp only
  rw [← hlength]
  exact congrArg (c :: ·) (read_length_append rest bytes)

lemma lossy_append (s : String) (bytes : List UInt8) :
    lossy (utf8 s ++ bytes) = s ++ lossy bytes := by
  have hread (cs : List Char) :
      read 0 (cs.flatMap String.utf8EncodeChar ++ bytes) = cs ++ read 0 bytes := by
    induction cs with
    | nil => rfl
    | cons c cs ih =>
      rw [List.flatMap_cons, List.append_assoc, read_utf8EncodeChar_append, ih]
      rfl
  rw [lossy, utf8, hread, String.ofList_append, String.ofList_toList, lossy]

lemma lossy_utf8 (s : String) : lossy (utf8 s) = s := by
  have happend := lossy_append s []
  rwa [List.append_nil, show lossy [] = "" from rfl, String.append_empty] at happend

lemma utf8_lossy_iff : utf8 (lossy bytes) = bytes ↔ IsUtf8 bytes := by
  refine ⟨fun h => ⟨lossy bytes, h⟩, ?_⟩
  rintro ⟨s, rfl⟩
  rw [lossy_utf8]

/-- One mark stands for what a character began with, and one for each byte that begins none. -/
example : lossy [0x61, 0xF0, 0x9F, 0x62, 0xE1, 0x80, 0xC0, 0x80] =
    "a\uFFFDb\uFFFD\uFFFD\uFFFD" := by
  decide

/-! ### Bytes that are ASCII -/

lemma toNat_of_mem_utf8EncodeChar (hb : b ∈ String.utf8EncodeChar c) (h : b < 0x80) :
    c.toNat = b.toNat := by
  have hsmall : b.toNat < 128 := UInt8.lt_iff_toNat_lt.mp h
  unfold String.utf8EncodeChar at hb
  dsimp only at hb
  split_ifs at hb with hone htwo hthree <;>
    simp only [List.mem_cons, List.not_mem_nil, or_false] at hb
  · rw [hb, UInt8.toNat_ofNat', Nat.mod_eq_of_lt (by omega)]
    rfl
  -- what leads a longer character or continues it has its highest bit set
  all_goals
    obtain rfl | rfl | rfl | rfl := hb <;> rw [UInt8.toNat_ofNat'] at hsmall <;> omega

end Dirlang.Text
