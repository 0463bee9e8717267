/-
# UTF-16

A sequence of code points, surrogate code points among them, as UTF-16 code units, and the
characters that a sequence of code units denotes.  Only a high surrogate directly followed by a
low one denotes a character; a sequence with any other surrogate denotes nothing.

`decode_encode` says for which code points the units can be read back, and that the characters
read then have the same units.  Characters come back as they are (`decode_encode_chars`).

`join` reads any sequence of code units and keeps the surrogates that are in no pair.  Two surrogate
code points that happen to form a pair come back as one code point.  What is read has no such pair
(`joined_join`), and then nothing is lost (`join_encode`).
-/
import Mathlib.Data.List.Chain
import Mathlib.Tactic.Common

namespace Utf16

/-- A Unicode code point. -/
abbrev CodePoint := Fin 0x110000

/-! ## 1. Encoding and decoding -/

def IsHigh (u : ℕ) : Prop := 0xD800 ≤ u ∧ u < 0xDC00

def IsLow (u : ℕ) : Prop := 0xDC00 ≤ u ∧ u < 0xE000

instance (u : ℕ) : Decidable (IsHigh u) := inferInstanceAs (Decidable (_ ∧ _))

instance (u : ℕ) : Decidable (IsLow u) := inferInstanceAs (Decidable (_ ∧ _))

/-- The code units of one code point. -/
def encodeOne (c : ℕ) : List ℕ :=
  if c < 0x10000 then [c]
  else [0xD800 + (c - 0x10000) / 0x400, 0xDC00 + (c - 0x10000) % 0x400]

/-- The code units of a sequence of code points. -/
def encode : List CodePoint → List ℕ
  | [] => []
  | c :: cs => encodeOne c.val ++ encode cs

/-- The character of a surrogate pair. -/
def pair (u v : ℕ) : Char := Char.ofNat (0x10000 + (u - 0xD800) * 0x400 + (v - 0xDC00))

/-- The characters of a sequence of code units. -/
def decode : List ℕ → Option (List Char)
  | [] => some []
  | [u] => if IsHigh u ∨ IsLow u then none else some [Char.ofNat u]
  | u :: v :: us =>
    if IsHigh u then if IsLow v then (decode us).map (pair u v :: ·) else none
    else if IsLow u then none
    else (decode (v :: us)).map (Char.ofNat u :: ·)

/-- Each high surrogate is directly followed by a low one, and there is no other low one. -/
def Paired : List CodePoint → Prop
  | [] => True
  | [c] => ¬ IsHigh c.val ∧ ¬ IsLow c.val
  | c :: d :: cs =>
    if IsHigh c.val then IsLow d.val ∧ Paired cs else ¬ IsLow c.val ∧ Paired (d :: cs)

def ofChar (c : Char) : CodePoint :=
  ⟨c.toNat, c.valid.elim (fun h => Nat.lt_trans h (by decide)) fun h => h.2⟩

def ofString (s : String) : List CodePoint := s.toList.map ofChar

@[simp] theorem ofChar_val (c : Char) : (ofChar c).val = c.toNat := rfl

/-! ## 2. One code point at a time -/

theorem toNat_ofNat {n : ℕ} (h : n < 0xD800 ∨ 0xDFFF < n ∧ n < 0x110000) :
    (Char.ofNat n).toNat = n := by
  rw [Char.ofNat, dif_pos h]
  rfl

theorem decode_cons_plain {u : ℕ} (hhigh : ¬ IsHigh u) (hlow : ¬ IsLow u) (us : List ℕ) :
    decode (u :: us) = (decode us).map (Char.ofNat u :: ·) := by
  cases us with
  | nil => simp [decode, hhigh, hlow]
  | cons v us => rw [decode, if_neg hhigh, if_neg hlow]

theorem decode_cons_low {u : ℕ} (hlow : IsLow u) (us : List ℕ) : decode (u :: us) = none := by
  have hhigh : ¬ IsHigh u := fun h => absurd h.2 (Nat.not_lt.mpr hlow.1)
  cases us with
  | nil => simp [decode, hlow]
  | cons v us => rw [decode, if_neg hhigh, if_pos hlow]

theorem decode_cons_high {u v : ℕ} (hhigh : IsHigh u) (us : List ℕ) :
    decode (u :: v :: us) = if IsLow v then (decode us).map (pair u v :: ·) else none := by
  rw [decode, if_pos hhigh]

theorem encodeOne_bmp {c : ℕ} (h : c < 0x10000) : encodeOne c = [c] := if_pos h

theorem encodeOne_pair {c : ℕ} (h : ¬ c < 0x10000) :
    encodeOne c = [0xD800 + (c - 0x10000) / 0x400, 0xDC00 + (c - 0x10000) % 0x400] := if_neg h

/-- The character of a pair has the pair as its units. -/
theorem encodeOne_pair_toNat {u v : ℕ} (hu : IsHigh u) (hv : IsLow v) :
    encodeOne (pair u v).toNat = [u, v] := by
  obtain ⟨hu₁, hu₂⟩ := hu
  obtain ⟨hv₁, hv₂⟩ := hv
  have hnat : (pair u v).toNat = 0x10000 + (u - 0xD800) * 0x400 + (v - 0xDC00) :=
    toNat_ofNat (Or.inr (by omega))
  have hfst : 0xD800 + ((pair u v).toNat - 0x10000) / 0x400 = u := by omega
  have hsnd : 0xDC00 + ((pair u v).toNat - 0x10000) % 0x400 = v := by omega
  rw [encodeOne_pair (by omega), hfst, hsnd]

/-- The units of a code point beyond the basic plane are a pair. -/
theorem encodeOne_astral {c : ℕ} (hc : ¬ c < 0x10000) (hlt : c < 0x110000) :
    ∃ u v, IsHigh u ∧ IsLow v ∧ encodeOne c = [u, v] := by
  refine ⟨_, _, ?_, ?_, encodeOne_pair hc⟩
  · constructor <;> omega
  · constructor <;> omega

/-! ## 3. Reading back -/

/-- The units `us` are read back: as characters with these units. -/
def ReadsBack (us : List ℕ) : Prop :=
  ∃ t, decode us = some t ∧ encode (t.map ofChar) = us

theorem ReadsBack.plain {u : ℕ} (hhigh : ¬ IsHigh u) (hlow : ¬ IsLow u) (hu : u < 0x10000)
    {us : List ℕ} (h : ReadsBack us) : ReadsBack (u :: us) := by
  obtain ⟨t, hdec, henc⟩ := h
  refine ⟨Char.ofNat u :: t, by rw [decode_cons_plain hhigh hlow, hdec, Option.map_some], ?_⟩
  have hnat : (Char.ofNat u).toNat = u := toNat_ofNat (by
    simp only [IsHigh, IsLow] at hhigh hlow
    omega)
  rw [List.map_cons, encode, henc, ofChar_val, hnat, encodeOne_bmp hu, List.singleton_append]

theorem ReadsBack.pair {u v : ℕ} (hu : IsHigh u) (hv : IsLow v) {us : List ℕ}
    (h : ReadsBack us) : ReadsBack (u :: v :: us) := by
  obtain ⟨t, hdec, henc⟩ := h
  refine ⟨Utf16.pair u v :: t, by rw [decode_cons_high hu, if_pos hv, hdec, Option.map_some], ?_⟩
  rw [List.map_cons, encode, henc, ofChar_val, encodeOne_pair_toNat hu hv, List.cons_append,
    List.singleton_append]

/-- Neither the first unit of a pair nor a code point that is not low is a low surrogate. -/
theorem decode_high_encode {u : ℕ} (hu : IsHigh u) {d : CodePoint} (hd : ¬ IsLow d.val)
    (us : List ℕ) : decode (u :: (encodeOne d.val ++ us)) = none := by
  rcases Nat.lt_or_ge d.val 0x10000 with hbmp | hastral
  · rw [encodeOne_bmp hbmp, List.singleton_append, decode_cons_high hu, if_neg hd]
  · obtain ⟨v, w, hv, -, heq⟩ := encodeOne_astral (Nat.not_lt.mpr hastral) d.isLt
    have hlow : ¬ IsLow v := by
      intro hv'
      exact absurd hv.2 (Nat.not_lt.mpr hv'.1)
    rw [heq, List.cons_append, decode_cons_high hu, if_neg hlow]

/-- A code point that is no surrogate comes back in front of what comes back. -/
theorem decode_encode_cons {c : CodePoint} (hhigh : ¬ IsHigh c.val) (hlow : ¬ IsLow c.val)
    (us : List ℕ) :
    (ReadsBack us → ReadsBack (encodeOne c.val ++ us)) ∧
      (decode us = none → decode (encodeOne c.val ++ us) = none) := by
  rcases Nat.lt_or_ge c.val 0x10000 with hbmp | hastral
  · rw [encodeOne_bmp hbmp, List.singleton_append]
    constructor
    · intro hback
      exact hback.plain hhigh hlow hbmp
    · intro hnone
      rw [decode_cons_plain hhigh hlow, hnone, Option.map_none]
  · obtain ⟨u, v, hu, hv, heq⟩ := encodeOne_astral (Nat.not_lt.mpr hastral) c.isLt
    rw [heq, List.cons_append, List.singleton_append]
    constructor
    · intro hback
      exact hback.pair hu hv
    · intro hnone
      rw [decode_cons_high hu, if_pos hv, hnone, Option.map_none]

theorem isHigh_bmp {u : ℕ} (h : IsHigh u) : u < 0x10000 := Nat.lt_trans h.2 (by decide)

theorem isLow_bmp {u : ℕ} (h : IsLow u) : u < 0x10000 := Nat.lt_trans h.2 (by decide)

/-- **Which code points come back.**  The units of a sequence of code points are read back if
its surrogates are paired, and nothing is read otherwise. -/
theorem decode_encode (s : List CodePoint) :
    (Paired s → ReadsBack (encode s)) ∧ (¬ Paired s → decode (encode s) = none) := by
  induction s using Paired.induct with
  | case1 => exact ⟨fun _ => ⟨[], rfl, rfl⟩, fun h => absurd trivial h⟩
  | case2 c =>
    rw [Paired, encode, encode]
    constructor
    · intro h
      exact (decode_encode_cons h.1 h.2 []).1 ⟨[], rfl, rfl⟩
    · intro h
      have hsurr : IsHigh c.val ∨ IsLow c.val := by
        by_contra hno
        exact h (not_or.mp hno)
      rw [List.append_nil, encodeOne_bmp (hsurr.elim isHigh_bmp isLow_bmp), decode, if_pos hsurr]
  | case3 c d cs hhigh ih =>
    rw [Paired, if_pos hhigh, encode, encode, encodeOne_bmp (isHigh_bmp hhigh),
      List.singleton_append]
    rcases Classical.em (IsLow d.val) with hlow | hlow
    · rw [and_iff_right hlow, encodeOne_bmp (isLow_bmp hlow), List.singleton_append]
      constructor
      · intro h
        exact (ih.1 h).pair hhigh hlow
      · intro h
        rw [decode_cons_high hhigh, if_pos hlow, ih.2 h, Option.map_none]
    · constructor
      · intro h
        exact absurd h.1 hlow
      · intro _
        exact decode_high_encode hhigh hlow _
  | case4 c d cs hhigh ih =>
    rw [Paired, if_neg hhigh, encode]
    rcases Classical.em (IsLow c.val) with hlow | hlow
    · rw [encodeOne_bmp (isLow_bmp hlow), List.singleton_append]
      constructor
      · intro h
        exact absurd hlow h.1
      · intro _
        exact decode_cons_low hlow _
    · rw [and_iff_right hlow]
      obtain ⟨hback, hnone⟩ := decode_encode_cons hhigh hlow (encode (d :: cs))
      constructor
      · intro h
        exact hback (ih.1 h)
      · intro h
        exact hnone (ih.2 h)

/-- Characters are no surrogates. -/
theorem ofChar_not_surrogate (c : Char) : ¬ IsHigh (ofChar c).val ∧ ¬ IsLow (ofChar c).val := by
  have hval := c.valid
  simp only [UInt32.isValidChar, Nat.isValidChar] at hval
  have hnat : c.val.toNat = c.toNat := rfl
  simp only [ofChar_val, IsHigh, IsLow]
  omega

theorem paired_ofString (s : String) : Paired (ofString s) := by
  unfold ofString
  induction s.toList with
  | nil => trivial
  | cons c cs ih =>
    cases cs with
    | nil => exact ofChar_not_surrogate c
    | cons d cs =>
      rw [List.map_cons, List.map_cons, Paired, if_neg (ofChar_not_surrogate c).1]
      exact ⟨(ofChar_not_surrogate c).2, ih⟩

/-- The pair of a character beyond the basic plane denotes the character. -/
theorem pair_encodeOne {c : Char} (hc : ¬ c.toNat < 0x10000) :
    ∃ u v, encodeOne c.toNat = [u, v] ∧ IsHigh u ∧ IsLow v ∧ pair u v = c := by
  have hlt : c.toNat < 0x110000 := (ofChar c).isLt
  refine ⟨_, _, encodeOne_pair hc, ?_, ?_, ?_⟩
  · constructor <;> omega
  · constructor <;> omega
  · have hnat : 0x10000 + (0xD800 + (c.toNat - 0x10000) / 0x400 - 0xD800) * 0x400 +
        (0xDC00 + (c.toNat - 0x10000) % 0x400 - 0xDC00) = c.toNat := by omega
    rw [pair, hnat, Char.ofNat_toNat]

/-- **Characters come back** as they are. -/
theorem decode_encode_chars (cs : List Char) : decode (encode (cs.map ofChar)) = some cs := by
  induction cs with
  | nil => rfl
  | cons c cs ih =>
    rw [List.map_cons, encode, ofChar_val]
    by_cases hbmp : c.toNat < 0x10000
    · have hplain : ¬ IsHigh c.toNat ∧ ¬ IsLow c.toNat := ofChar_not_surrogate c
      rw [encodeOne_bmp hbmp, List.singleton_append, decode_cons_plain hplain.1 hplain.2, ih,
        Option.map_some, Char.ofNat_toNat]
    · obtain ⟨u, v, henc, hu, hv, hpair⟩ := pair_encodeOne hbmp
      rw [henc, List.cons_append, List.singleton_append, decode_cons_high hu, if_pos hv, ih,
        Option.map_some, hpair]

/-! ## 4. Keeping surrogates that are in no pair -/

/-- The code point of a surrogate pair. -/
def pairPoint (u v : ℕ) : CodePoint :=
  Fin.ofNat 0x110000 (0x10000 + (u - 0xD800) * 0x400 + (v - 0xDC00))

/-- The code points of a sequence of code units; a surrogate that is in no pair stands for
itself. -/
def join : List ℕ → List CodePoint
  | [] => []
  | [u] => [Fin.ofNat 0x110000 u]
  | u :: v :: us =>
    if IsHigh u ∧ IsLow v then pairPoint u v :: join us
    else Fin.ofNat 0x110000 u :: join (v :: us)

/-- No high surrogate is directly followed by a low one. -/
def Joined (s : List CodePoint) : Prop := s.IsChain fun c d => ¬ (IsHigh c.val ∧ IsLow d.val)

theorem val_ofNat {u : ℕ} (hu : u < 0x10000) : (Fin.ofNat 0x110000 u).val = u :=
  Nat.mod_eq_of_lt (by omega)

theorem val_pairPoint {u v : ℕ} (hu : IsHigh u) (hv : IsLow v) :
    (pairPoint u v).val = 0x10000 + (u - 0xD800) * 0x400 + (v - 0xDC00) := by
  obtain ⟨hu₁, hu₂⟩ := hu
  obtain ⟨hv₁, hv₂⟩ := hv
  exact Nat.mod_eq_of_lt (by omega)

theorem join_cons_of_not_pair {u v : ℕ} (h : ¬ (IsHigh u ∧ IsLow v)) (us : List ℕ) :
    join (u :: v :: us) = Fin.ofNat 0x110000 u :: join (v :: us) := by
  rw [join, if_neg h]

/-- What is read first is a low surrogate only if the first unit is one. -/
theorem isLow_of_join_cons {v : ℕ} (hv : v < 0x10000) {us : List ℕ} {d : CodePoint}
    (hd : d ∈ (join (v :: us)).head?) (hlow : IsLow d.val) : IsLow v := by
  have hplain : d = Fin.ofNat 0x110000 v → IsLow v := by
    rintro rfl
    rwa [val_ofNat hv] at hlow
  cases us with
  | nil => exact hplain (Option.some.inj hd).symm
  | cons w us =>
    rw [join] at hd
    split at hd
    · next hpair =>
      obtain rfl : pairPoint v w = d := Option.some.inj hd
      rw [val_pairPoint hpair.1 hpair.2] at hlow
      obtain ⟨-, hlt⟩ := hlow
      omega
    · exact hplain (Option.some.inj hd).symm

/-- What is read is joined. -/
theorem joined_join {us : List ℕ} (h : ∀ u ∈ us, u < 0x10000) : Joined (join us) := by
  induction us using join.induct with
  | case1 => exact .nil
  | case2 u => exact .singleton _
  | case3 u v us hpair ih =>
    rw [join, if_pos hpair]
    refine List.isChain_cons.mpr ⟨?_, ih fun w hw => h w (by simp [hw])⟩
    rintro d - ⟨hhigh, -⟩
    rw [val_pairPoint hpair.1 hpair.2] at hhigh
    obtain ⟨-, hlt⟩ := hhigh
    omega
  | case4 u v us hpair ih =>
    rw [join_cons_of_not_pair hpair]
    refine List.isChain_cons.mpr ⟨?_, ih fun w hw => h w (List.mem_cons_of_mem u hw)⟩
    rintro d hd ⟨hhigh, hlow⟩
    rw [val_ofNat (h u (by simp))] at hhigh
    exact hpair ⟨hhigh, isLow_of_join_cons (h v (by simp)) hd hlow⟩

theorem encodeOne_lt (c : CodePoint) : ∀ u ∈ encodeOne c.val, u < 0x10000 := by
  intro u hu
  rcases Nat.lt_or_ge c.val 0x10000 with hbmp | hastral
  · rw [encodeOne_bmp hbmp, List.mem_singleton] at hu
    exact hu ▸ hbmp
  · obtain ⟨v, w, hv, hw, heq⟩ := encodeOne_astral (Nat.not_lt.mpr hastral) c.isLt
    rw [heq, List.mem_cons, List.mem_singleton] at hu
    rcases hu with rfl | rfl
    · exact isHigh_bmp hv
    · exact isLow_bmp hw

theorem encode_lt (s : List CodePoint) : ∀ u ∈ encode s, u < 0x10000 := by
  induction s with
  | nil => simp [encode]
  | cons c s ih =>
    intro u hu
    rcases List.mem_append.mp hu with hu | hu
    · exact encodeOne_lt c u hu
    · exact ih u hu

/-- A code point beyond the basic plane is read back in front of anything. -/
theorem join_encodeOne_astral {c : CodePoint} (hc : ¬ c.val < 0x10000) (us : List ℕ) :
    join (encodeOne c.val ++ us) = c :: join us := by
  obtain ⟨u, v, hu, hv, heq⟩ := encodeOne_astral hc c.isLt
  have hpoint : pairPoint u v = c := by
    have hlt := c.isLt
    rw [encodeOne_pair hc] at heq
    obtain ⟨rfl, hcons⟩ := List.cons.inj heq
    obtain ⟨rfl, -⟩ := List.cons.inj hcons
    apply Fin.ext
    rw [val_pairPoint hu hv]
    omega
  rw [heq, List.cons_append, List.singleton_append, join, if_pos ⟨hu, hv⟩, hpoint]

/-- A code point of the basic plane is read back in front of one with which it forms no pair. -/
theorem join_encodeOne_bmp {c d : CodePoint} (hc : c.val < 0x10000)
    (hcd : ¬ (IsHigh c.val ∧ IsLow d.val)) (s : List CodePoint) :
    join (encodeOne c.val ++ encode (d :: s)) = c :: join (encode (d :: s)) := by
  have hpoint : Fin.ofNat 0x110000 c.val = c := Fin.ext (val_ofNat hc)
  rw [encodeOne_bmp hc, List.singleton_append, encode]
  rcases Nat.lt_or_ge d.val 0x10000 with hbmp | hastral
  · rw [encodeOne_bmp hbmp, List.singleton_append, join_cons_of_not_pair hcd, hpoint]
  · obtain ⟨u, v, hu, -, heq⟩ := encodeOne_astral (Nat.not_lt.mpr hastral) d.isLt
    have hno : ¬ (IsHigh c.val ∧ IsLow u) := fun h => absurd h.2.1 (Nat.not_le.mpr hu.2)
    rw [heq, List.cons_append, join_cons_of_not_pair hno, hpoint]

/-- Code points among which no two surrogates form a pair come back. -/
theorem join_encode {s : List CodePoint} (h : Joined s) : join (encode s) = s := by
  induction s with
  | nil => rfl
  | cons c s ih =>
    obtain ⟨hhead, htail⟩ := List.isChain_cons.mp h
    rcases Nat.lt_or_ge c.val 0x10000 with hbmp | hastral
    · cases s with
      | nil =>
        rw [encode, encode, encodeOne_bmp hbmp, List.append_nil, join]
        exact congrArg (· :: []) (Fin.ext (val_ofNat hbmp))
      | cons d s => rw [encode, join_encodeOne_bmp hbmp (hhead d rfl), ih htail]
    · rw [encode, join_encodeOne_astral (Nat.not_lt.mpr hastral), ih htail]

end Utf16
