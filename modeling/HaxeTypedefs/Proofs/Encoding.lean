/-
Which bytes are the encoding of a text.

A text is encoded character by character, in one to four bytes each.  The first byte tells how
many there are, and all others lie between 0x80 and 0xBF.  Where a shorter encoding would do, where
the character would be a surrogate, or where it would lie behind the last code point, the second byte
has a narrower range.  A text is decoded exactly from the bytes that keep to these ranges.

* **`wellFormedBytes_iff`** — these are the encodings of characters, one behind the other;
* **`encodes_iff`** — the bytes of a text are the encodings of its characters;
* **`decodeText_eq_error_iff`** — all other bytes are refused.
-/
import Mathlib.Data.List.Forall2
import HaxeTypedefs.Source.Fetch

namespace HaxeTypedefs

/-- The ranges of the bytes of a character. -/
def byteRows : List (List (Nat × Nat)) :=
  [[(0x00, 0x7F)],
   [(0xC2, 0xDF), (0x80, 0xBF)],
   [(0xE0, 0xE0), (0xA0, 0xBF), (0x80, 0xBF)],
   [(0xE1, 0xEC), (0x80, 0xBF), (0x80, 0xBF)],
   [(0xED, 0xED), (0x80, 0x9F), (0x80, 0xBF)],
   [(0xEE, 0xEF), (0x80, 0xBF), (0x80, 0xBF)],
   [(0xF0, 0xF0), (0x90, 0xBF), (0x80, 0xBF), (0x80, 0xBF)],
   [(0xF1, 0xF3), (0x80, 0xBF), (0x80, 0xBF), (0x80, 0xBF)],
   [(0xF4, 0xF4), (0x80, 0x8F), (0x80, 0xBF), (0x80, 0xBF)]]

/-- There is a byte for each range, in it. -/
def InRow (row : List (Nat × Nat)) (bytes : List UInt8) : Prop :=
  List.Forall₂ (fun range byte => range.1 ≤ byte.toNat ∧ byte.toNat ≤ range.2) row bytes

/-- The bytes are those of characters, one behind the other. -/
inductive WellFormedBytes : List UInt8 → Prop
  | nil : WellFormedBytes []
  | append {row : List (Nat × Nat)} {bytes rest : List UInt8} :
      row ∈ byteRows → InRow row bytes → WellFormedBytes rest → WellFormedBytes (bytes ++ rest)

/-- The bytes are the encodings of the characters of the text. -/
def Encodes (bytes : ByteArray) (text : String) : Prop :=
  bytes.data.toList = text.toList.flatMap String.utf8EncodeChar

instance (bytes : ByteArray) (text : String) : Decidable (Encodes bytes text) :=
  inferInstanceAs (Decidable (_ = _))

/-! ### One character -/

theorem exists_byteRow (c : Char) : ∃ row ∈ byteRows, InRow row (String.utf8EncodeChar c) := by
  have hvalid : c.val.toNat < 0xD800 ∨ 0xDFFF < c.val.toNat ∧ c.val.toNat < 0x110000 := c.valid
  simp only [String.utf8EncodeChar, InRow]
  generalize c.val.toNat = v at hvalid
  split
  · exact ⟨[(0x00, 0x7F)], by decide, by simp; omega⟩
  split
  · exact ⟨[(0xC2, 0xDF), (0x80, 0xBF)], by decide, by simp; omega⟩
  split
  · -- the first row begins where two bytes end, and the surrogates lie between the last two
    rcases Nat.lt_or_ge v 0x1000 with h | h
    · exact ⟨[(0xE0, 0xE0), (0xA0, 0xBF), (0x80, 0xBF)], by decide, by simp; omega⟩
    rcases Nat.lt_or_ge v 0xD000 with h' | h'
    · exact ⟨[(0xE1, 0xEC), (0x80, 0xBF), (0x80, 0xBF)], by decide, by simp; omega⟩
    rcases hvalid with hv | hv
    · exact ⟨[(0xED, 0xED), (0x80, 0x9F), (0x80, 0xBF)], by decide, by simp; omega⟩
    · exact ⟨[(0xEE, 0xEF), (0x80, 0xBF), (0x80, 0xBF)], by decide, by simp; omega⟩
  · rcases Nat.lt_or_ge v 0x40000 with h | h
    · exact ⟨[(0xF0, 0xF0), (0x90, 0xBF), (0x80, 0xBF), (0x80, 0xBF)], by decide, by simp; omega⟩
    rcases Nat.lt_or_ge v 0x100000 with h' | h'
    · exact ⟨[(0xF1, 0xF3), (0x80, 0xBF), (0x80, 0xBF), (0x80, 0xBF)], by decide, by simp; omega⟩
    · exact ⟨[(0xF4, 0xF4), (0x80, 0x8F), (0x80, 0xBF), (0x80, 0xBF)], by decide, by simp; omega⟩

theorem utf8EncodeChar_ofNat {v : Nat} (h : v < 0xD800 ∨ 0xDFFF < v ∧ v < 0x110000) :
    String.utf8EncodeChar (Char.ofNat v) =
      if v ≤ 0x7F then [UInt8.ofNat v]
      else if v ≤ 0x7FF then [UInt8.ofNat (v / 64 % 32 + 0xC0), UInt8.ofNat (v % 64 + 0x80)]
      else if v ≤ 0xFFFF then
        [UInt8.ofNat (v / 4096 % 16 + 0xE0), UInt8.ofNat (v / 64 % 64 + 0x80),
          UInt8.ofNat (v % 64 + 0x80)]
      else
        [UInt8.ofNat (v / 262144 % 8 + 0xF0), UInt8.ofNat (v / 4096 % 64 + 0x80),
          UInt8.ofNat (v / 64 % 64 + 0x80), UInt8.ofNat (v % 64 + 0x80)] := by
  have hvalid : v.isValidChar := h
  rw [Char.ofNat, dif_pos hvalid]
  rfl

theorem byteOfNat_eq {n : Nat} {b : UInt8} (h : n = b.toNat) : UInt8.ofNat n = b := by
  rw [h, UInt8.ofNat_toNat]

section Characters

variable {a b c d : UInt8}

theorem exists_char_two (ha : 0xC2 ≤ a.toNat ∧ a.toNat ≤ 0xDF)
    (hb : 0x80 ≤ b.toNat ∧ b.toNat ≤ 0xBF) : ∃ e, String.utf8EncodeChar e = [a, b] := by
  refine ⟨Char.ofNat ((a.toNat - 0xC0) * 64 + (b.toNat - 0x80)), ?_⟩
  rw [utf8EncodeChar_ofNat (by omega), if_neg (by omega), if_pos (by omega)]
  rw [byteOfNat_eq (b := a) (by omega), byteOfNat_eq (b := b) (by omega)]

theorem exists_char_three (ha : 0xE0 ≤ a.toNat ∧ a.toNat ≤ 0xEF)
    (hb : 0x80 ≤ b.toNat ∧ b.toNat ≤ 0xBF) (hc : 0x80 ≤ c.toNat ∧ c.toNat ≤ 0xBF)
    (hshort : a.toNat = 0xE0 → 0xA0 ≤ b.toNat) (hsurrogate : a.toNat = 0xED → b.toNat ≤ 0x9F) :
    ∃ e, String.utf8EncodeChar e = [a, b, c] := by
  refine ⟨Char.ofNat ((a.toNat - 0xE0) * 4096 + (b.toNat - 0x80) * 64 + (c.toNat - 0x80)), ?_⟩
  rw [utf8EncodeChar_ofNat (by omega), if_neg (by omega), if_neg (by omega), if_pos (by omega)]
  rw [byteOfNat_eq (b := a) (by omega), byteOfNat_eq (b := b) (by omega),
    byteOfNat_eq (b := c) (by omega)]

theorem exists_char_four (ha : 0xF0 ≤ a.toNat ∧ a.toNat ≤ 0xF4)
    (hb : 0x80 ≤ b.toNat ∧ b.toNat ≤ 0xBF) (hc : 0x80 ≤ c.toNat ∧ c.toNat ≤ 0xBF)
    (hd : 0x80 ≤ d.toNat ∧ d.toNat ≤ 0xBF) (hshort : a.toNat = 0xF0 → 0x90 ≤ b.toNat)
    (hlast : a.toNat = 0xF4 → b.toNat ≤ 0x8F) :
    ∃ e, String.utf8EncodeChar e = [a, b, c, d] := by
  refine ⟨Char.ofNat ((a.toNat - 0xF0) * 262144 + (b.toNat - 0x80) * 4096 +
    (c.toNat - 0x80) * 64 + (d.toNat - 0x80)), ?_⟩
  rw [utf8EncodeChar_ofNat (by omega), if_neg (by omega), if_neg (by omega), if_neg (by omega)]
  rw [byteOfNat_eq (b := a) (by omega), byteOfNat_eq (b := b) (by omega),
    byteOfNat_eq (b := c) (by omega), byteOfNat_eq (b := d) (by omega)]

end Characters

theorem exists_char_of_inRow {row : List (Nat × Nat)} {bytes : List UInt8} (hrow : row ∈ byteRows)
    (h : InRow row bytes) : ∃ c, String.utf8EncodeChar c = bytes := by
  simp only [byteRows, List.mem_cons, List.not_mem_nil, or_false] at hrow
  rcases hrow with rfl | rfl | rfl | rfl | rfl | rfl | rfl | rfl | rfl <;>
    simp only [InRow, List.forall₂_cons_left_iff, List.forall₂_nil_left_iff] at h
  · obtain ⟨a, _, ha, rfl, rfl⟩ := h
    refine ⟨Char.ofNat a.toNat, ?_⟩
    rw [utf8EncodeChar_ofNat (by omega), if_pos (by omega), byteOfNat_eq rfl]
  · obtain ⟨a, _, ha, ⟨b, _, hb, rfl, rfl⟩, rfl⟩ := h
    exact exists_char_two ha hb
  iterate 4
    · obtain ⟨a, _, ha, ⟨b, _, hb, ⟨c, _, hc, rfl, rfl⟩, rfl⟩, rfl⟩ := h
      exact exists_char_three (by omega) (by omega) hc (by omega) (by omega)
  iterate 3
    · obtain ⟨a, _, ha, ⟨b, _, hb, ⟨c, _, hc, ⟨d, _, hd, rfl, rfl⟩, rfl⟩, rfl⟩, rfl⟩ := h
      exact exists_char_four (by omega) (by omega) hc hd (by omega) (by omega)

/-! ### Texts -/

theorem wellFormedBytes_iff {bytes : List UInt8} :
    WellFormedBytes bytes ↔ ∃ text : List Char, bytes = text.flatMap String.utf8EncodeChar := by
  constructor
  · intro h
    induction h with
    | nil => exact ⟨[], rfl⟩
    | append hrow hbytes _ ih =>
      obtain ⟨c, rfl⟩ := exists_char_of_inRow hrow hbytes
      obtain ⟨text, rfl⟩ := ih
      exact ⟨c :: text, rfl⟩
  · rintro ⟨text, rfl⟩
    induction text with
    | nil => exact .nil
    | cons c text ih =>
      obtain ⟨row, hrow, hbytes⟩ := exists_byteRow c
      exact .append hrow hbytes ih

theorem exists_encodes_iff {bytes : ByteArray} :
    (∃ text, Encodes bytes text) ↔ WellFormedBytes bytes.data.toList := by
  rw [wellFormedBytes_iff]
  constructor
  · rintro ⟨text, h⟩
    exact ⟨text.toList, h⟩
  · rintro ⟨text, h⟩
    exact ⟨String.ofList text, by rwa [Encodes, String.toList_ofList]⟩

theorem encodes_iff {bytes : ByteArray} {text : String} :
    Encodes bytes text ↔ bytes = text.toByteArray := by
  have htext : text.toByteArray = text.toList.utf8Encode := by
    rw [← String.toByteArray_ofList, String.ofList_toList]
  rw [htext, List.utf8Encode, ByteArray.ext_iff, ← Array.toList_inj, List.toList_data_toByteArray,
    Encodes]

theorem isValidUTF8_iff {bytes : ByteArray} :
    bytes.IsValidUTF8 ↔ WellFormedBytes bytes.data.toList := by
  rw [← exists_encodes_iff]
  simp only [encodes_iff]
  constructor
  · intro h
    exact ⟨String.fromUTF8 bytes h, rfl⟩
  · rintro ⟨text, rfl⟩
    exact text.isValidUTF8

instance (bytes : List UInt8) : Decidable (WellFormedBytes bytes) :=
  decidable_of_iff bytes.toByteArray.IsValidUTF8
    (by rw [isValidUTF8_iff, List.toList_data_toByteArray])

/-- Two bytes for a character that has one, a surrogate, and a character that is cut off. -/
example : ∀ bytes ∈ [[0xC0, 0x80], [0xED, 0xA0, 0x80], [0xE2, 0x82]], ¬ WellFormedBytes bytes := by
  decide +kernel

theorem decodeText_eq_error_iff {bytes : ByteArray} {reason : ReadError} :
    decodeText bytes = .error reason ↔
      reason = .notUtf8 ∧ ¬ WellFormedBytes bytes.data.toList := by
  rw [← exists_encodes_iff]
  simp only [encodes_iff, ← decodeText_eq_ok_iff]
  have hcases : (∃ text, decodeText bytes = .ok text) ∨ decodeText bytes = .error .notUtf8 := by
    unfold decodeText
    cases String.fromUTF8? bytes with
    | none => exact .inr rfl
    | some text => exact .inl ⟨text, rfl⟩
  rcases hcases with ⟨text, h⟩ | h
  · simp [h]
  · simp [h, eq_comm]

end HaxeTypedefs
