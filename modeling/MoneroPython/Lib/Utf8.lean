/-
# UTF-8, byte by byte

A function of C takes a text as bytes.  `chars` lists the bytes of an array as the characters with
these codes, which is how a scanner that knows only ASCII sees them.

A list of ASCII characters is seen exactly when it is the text itself (`chars_toUTF8_eq_iff`): every
other character begins with a byte beyond ASCII.  An array in which nothing else is seen is valid
UTF-8 (`isValidUTF8_of_isAscii`).
-/
import Mathlib.Data.List.Basic
import Mathlib.Tactic.Common

namespace Utf8

/-- Characters with codes below 128. -/
def IsAscii (cs : List Char) : Prop := ∀ c ∈ cs, c.toNat < 128

/-- The character with the code of a byte. -/
def ofByte (byte : UInt8) : Char := Char.ofNat byte.toNat

/-- The bytes of an array as characters. -/
def chars (b : ByteArray) : List Char := b.data.toList.map ofByte

theorem toNat_ofByte (byte : UInt8) : (ofByte byte).toNat = byte.toNat := by
  have hlt := byte.toNat_lt
  rw [ofByte, Char.ofNat, dif_pos (Or.inl (by omega))]
  rfl

theorem ofByte_injective : Function.Injective ofByte := by
  intro byte byte' h
  have hnat := congrArg Char.toNat h
  rw [toNat_ofByte, toNat_ofByte] at hnat
  exact UInt8.toNat_inj.mp hnat

theorem chars_injective : Function.Injective chars := by
  intro b b' h
  exact ByteArray.ext (Array.toList_inj.mp (List.map_injective_iff.mpr ofByte_injective h))

theorem chars_utf8Encode (cs : List Char) :
    chars cs.utf8Encode = cs.flatMap fun c => (String.utf8EncodeChar c).map ofByte := by
  rw [chars, List.utf8Encode, List.toList_data_toByteArray, List.map_flatMap]

/-- An ASCII character is one byte. -/
theorem encodeChar_of_ascii {c : Char} (h : c.toNat < 128) :
    (String.utf8EncodeChar c).map ofByte = [c] := by
  have hle : c.val.toNat ≤ 0x7f := Nat.le_of_lt_succ h
  have hbyte : ofByte (UInt8.ofNat c.val.toNat) = c := by
    have hmod : c.val.toNat % 2 ^ 8 = c.toNat := Nat.mod_eq_of_lt (Nat.lt_trans h (by decide))
    rw [ofByte, UInt8.toNat_ofNat', hmod, Char.ofNat_toNat]
  rw [String.utf8EncodeChar, if_pos hle, List.map_singleton, hbyte]

/-- The first byte of a sequence of several. -/
theorem toNat_ofByte_lead {n mark : ℕ} (hmark : 128 ≤ mark) (hlt : n + mark < 256) :
    128 ≤ (ofByte (UInt8.ofNat (n + mark))).toNat := by
  rw [toNat_ofByte, UInt8.toNat_ofNat']
  omega

/-- Any other character begins with a byte that is no ASCII character. -/
theorem encodeChar_of_not_ascii {c : Char} (h : 128 ≤ c.toNat) :
    ∃ d ds, (String.utf8EncodeChar c).map ofByte = d :: ds ∧ 128 ≤ d.toNat := by
  have hle : ¬ c.val.toNat ≤ 0x7f := Nat.not_le_of_gt h
  unfold String.utf8EncodeChar
  simp only [hle, if_false]
  split
  · exact ⟨_, _, rfl, toNat_ofByte_lead (by omega) (by omega)⟩
  split
  · exact ⟨_, _, rfl, toNat_ofByte_lead (by omega) (by omega)⟩
  · exact ⟨_, _, rfl, toNat_ofByte_lead (by omega) (by omega)⟩

theorem chars_utf8Encode_eq_iff {cs t : List Char} (ht : IsAscii t) :
    chars cs.utf8Encode = t ↔ cs = t := by
  rw [chars_utf8Encode]
  induction cs generalizing t with
  | nil => rfl
  | cons c cs ih =>
    rw [List.flatMap_cons]
    rcases Nat.lt_or_ge c.toNat 128 with hc | hc
    · rw [encodeChar_of_ascii hc, List.singleton_append]
      cases t with
      | nil => simp
      | cons d t => rw [List.cons.injEq, List.cons.injEq, ih (List.forall_mem_cons.mp ht).2]
    · obtain ⟨d, ds, hfirst, hd⟩ := encodeChar_of_not_ascii hc
      rw [hfirst]
      refine iff_of_false ?_ ?_
      · rintro rfl
        have hlt : d.toNat < 128 := ht d (by simp)
        omega
      · rintro rfl
        have hlt : c.toNat < 128 := ht c (by simp)
        omega

/-- **Only a text of ASCII characters is seen as one.** -/
theorem chars_toUTF8_eq_iff {s : String} {t : List Char} (ht : IsAscii t) :
    chars s.toUTF8 = t ↔ s.toList = t := by
  have htext : s.toUTF8 = s.toList.utf8Encode := by
    rw [String.utf8Encode_toList, String.toUTF8_eq_toByteArray]
  rw [htext, chars_utf8Encode_eq_iff ht]

/-- A form that only ASCII texts have is seen as it is. -/
theorem chars_toUTF8_iff {P : List Char → Prop} (hascii : ∀ cs, P cs → IsAscii cs) (s : String) :
    P (chars s.toUTF8) ↔ P s.toList := by
  constructor
  · intro h
    rwa [(chars_toUTF8_eq_iff (hascii _ h)).mp rfl]
  · intro h
    rwa [(chars_toUTF8_eq_iff (hascii _ h)).mpr rfl]

/-- **ASCII is UTF-8.** -/
theorem isValidUTF8_of_isAscii {b : ByteArray} (h : IsAscii (chars b)) : b.IsValidUTF8 :=
  ⟨chars b, chars_injective ((chars_utf8Encode_eq_iff h).mpr rfl).symm⟩

theorem fromUTF8?_toUTF8 (s : String) : String.fromUTF8? s.toUTF8 = some s := by
  rw [String.toUTF8_eq_toByteArray, String.fromUTF8?, dif_pos s.isValidUTF8]
  rfl

theorem fromUTF8?_eq_none_iff {b : ByteArray} : String.fromUTF8? b = none ↔ ¬ b.IsValidUTF8 := by
  simp [String.fromUTF8?]

end Utf8
