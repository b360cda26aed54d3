import FluentSql.Text.Scan
import Mathlib.Tactic.SplitIfs

/-!
# `Bytes` — the bytes of texts

A text is stored and compared as bytes. A character of ASCII is one byte, and every other one is two, three
or four bytes that no character of ASCII has; so an ASCII letter can be looked for, and made small, among
the bytes of a text as well as among its characters.

## Contents
- `Text.bytes`, with the bytes of texts in a row and of texts of ASCII characters.
- `Text.bytes_prefix_bytes`: a text begins with the bytes of a word if it begins with its characters.
- `Text.bytes_foldCase`, the bytes of a text in small letters.
-/

namespace FluentSql.Text

variable {word s t : String}

/-! ## Bytes of texts -/

/-- The bytes of a text. -/
def bytes (s : String) : List UInt8 :=
  s.toUTF8.data.toList

/-- The bytes of a text are those of its characters. -/
theorem bytes_ofList_flatMap (cs : List Char) :
    bytes (String.ofList cs) = cs.flatMap String.utf8EncodeChar := by
  rw [bytes, String.toUTF8, String.toByteArray_ofList, List.utf8Encode, List.data_toByteArray]

theorem bytes_append (s t : String) : bytes (s ++ t) = bytes s ++ bytes t := by
  simp [bytes, String.toUTF8]

theorem length_bytes (s : String) : (bytes s).length = s.utf8ByteSize := by
  simp [bytes, String.toUTF8]

theorem utf8ByteSize_pos (hne : s ≠ "") : 0 < s.utf8ByteSize :=
  Nat.pos_of_ne_zero (mt String.utf8ByteSize_eq_zero_iff.mp hne)

theorem toByteArray_bytes (s : String) : (bytes s).toByteArray = s.toByteArray := by
  apply ByteArray.ext
  simp [bytes, String.toUTF8, List.data_toByteArray]

theorem eq_of_bytes_eq (h : bytes s = bytes t) : s = t := by
  rw [← String.toByteArray_inj, ← toByteArray_bytes, h, toByteArray_bytes]

/-- A text begins with the bytes of a word if it begins with its characters. -/
theorem bytes_prefix_bytes : bytes word <+: bytes s ↔ word.toList <+: s.toList := by
  constructor
  · rintro ⟨rest, h⟩
    apply List.isPrefix_of_utf8Encode_append_eq_utf8Encode rest.toByteArray
    rw [String.utf8Encode_toList, String.utf8Encode_toList, ← toByteArray_bytes s, ← h,
      List.toByteArray_append, toByteArray_bytes]
  · rintro ⟨rest, h⟩
    have hs : word ++ String.ofList rest = s := by
      rw [← String.toList_inj, String.toList_append, String.toList_ofList, h]
    rw [← hs, bytes_append]
    exact List.prefix_append _ _

/-! ## ASCII -/

/-- The characters of ASCII. -/
def Ascii (cs : List Char) : Prop :=
  ∀ c ∈ cs, c.toNat < 128

instance (cs : List Char) : Decidable (Ascii cs) :=
  List.decidableBAll (fun c : Char => c.toNat < 128) cs

theorem Ascii.append {cs ds : List Char} (hcs : Ascii cs) (hds : Ascii ds) : Ascii (cs ++ ds) :=
  fun c hc => (List.mem_append.mp hc).elim (hcs c) (hds c)

theorem Ascii.cons {c : Char} {cs : List Char} (hc : c.toNat < 128) (hcs : Ascii cs) :
    Ascii (c :: cs) :=
  List.forall_mem_cons.mpr ⟨hc, hcs⟩

/-- A character of ASCII is one byte. -/
theorem bytes_ofList {cs : List Char} (h : Ascii cs) :
    bytes (String.ofList cs) = cs.map Char.toUInt8 := by
  have hchar : ∀ c : Char, c.toNat < 128 → String.utf8EncodeChar c = [c.toUInt8] := by
    intro c hc
    have hsize : c.utf8Size = 1 := by
      rw [Char.utf8Size_eq_one_iff, UInt32.le_iff_toNat_le]
      exact Nat.le_of_lt_succ hc
    rw [String.utf8EncodeChar_eq_singleton hsize, Char.toUInt8_val]
  have hflat : cs.flatMap String.utf8EncodeChar = cs.map Char.toUInt8 := by
    induction cs with
    | nil => rfl
    | cons c cs ih =>
      obtain ⟨hc, hcs⟩ := List.forall_mem_cons.mp h
      rw [List.flatMap_cons, hchar c hc, ih hcs]
      rfl
  rw [bytes_ofList_flatMap, hflat]

/-! ## Small letters -/

/-- The bytes of a character beyond ASCII are bytes beyond ASCII. -/
theorem le_of_mem_utf8EncodeChar {c : Char} (hc : 128 ≤ c.toNat) {b : UInt8}
    (hb : b ∈ String.utf8EncodeChar c) : 128 ≤ b.toNat := by
  have hbyte : ∀ bits mark : Nat, 128 ≤ mark → bits + mark < 256 →
      128 ≤ (UInt8.ofNat (bits + mark)).toNat := by
    intro bits mark hmark hlt
    rw [UInt8.toNat_ofNat_of_lt' hlt]
    exact Nat.le_trans hmark (Nat.le_add_left mark bits)
  have hascii : ¬ c.val.toNat ≤ 127 := Nat.not_le.mpr hc
  rw [String.utf8EncodeChar, if_neg hascii] at hb
  -- two, three or four bytes, each of them some bits of the character below a mark
  split_ifs at hb <;>
    simp only [List.mem_cons, List.not_mem_nil, or_false] at hb
  · rcases hb with rfl | rfl <;> exact hbyte _ _ (by decide) (by omega)
  · rcases hb with rfl | rfl | rfl <;> exact hbyte _ _ (by decide) (by omega)
  · rcases hb with rfl | rfl | rfl | rfl <;> exact hbyte _ _ (by decide) (by omega)

theorem toAsciiLower_of_le {b : UInt8} (hb : 128 ≤ b.toNat) : b.toAsciiLower = b := by
  have hbytes : ∀ n < 256, 128 ≤ n → (UInt8.ofNat n).toAsciiLower = UInt8.ofNat n := by
    decide +kernel
  have h := hbytes b.toNat b.toNat_lt hb
  rwa [UInt8.ofNat_toNat] at h

/-- A small letter has the bytes of its capital, each as a small letter. -/
theorem utf8EncodeChar_toLower (c : Char) :
    String.utf8EncodeChar c.toLower = (String.utf8EncodeChar c).map UInt8.toAsciiLower := by
  rcases Nat.lt_or_ge c.toNat 128 with hc | hc
  · have hascii : ∀ n < 128, String.utf8EncodeChar (Char.ofNat n).toLower =
        (String.utf8EncodeChar (Char.ofNat n)).map UInt8.toAsciiLower := by
      decide +kernel
    have h := hascii c.toNat hc
    rwa [Char.ofNat_toNat] at h
  · have hcapital : ¬ (c.val ≥ 'A'.val ∧ c.val ≤ 'Z'.val) := by
      rintro ⟨-, hle⟩
      exact absurd (Nat.le_trans hc (UInt32.le_iff_toNat_le.mp hle)) (by decide)
    have hsame : c.toLower = c := dif_neg hcapital
    have hbytes : ∀ b ∈ String.utf8EncodeChar c, b.toAsciiLower = b :=
      fun b hb => toAsciiLower_of_le (le_of_mem_utf8EncodeChar hc hb)
    rw [hsame]
    exact ((List.map_congr_left hbytes).trans (List.map_id _)).symm

/-- **Small letters.** A text in small letters has the bytes of the text, each as a small letter. -/
theorem bytes_foldCase (s : String) : bytes (foldCase s) = (bytes s).map UInt8.toAsciiLower := by
  have hs : bytes s = s.toList.flatMap String.utf8EncodeChar := by
    rw [← bytes_ofList_flatMap, String.ofList_toList]
  rw [foldCase, bytes_ofList_flatMap, hs, List.map_flatMap, List.flatMap_map]
  simp only [utf8EncodeChar_toLower]

theorem utf8ByteSize_foldCase (s : String) : (foldCase s).utf8ByteSize = s.utf8ByteSize := by
  rw [← length_bytes, bytes_foldCase, List.length_map, length_bytes]

theorem toList_foldCase (s : String) : (foldCase s).toList = s.toList.map Char.toLower :=
  String.toList_ofList

end FluentSql.Text
