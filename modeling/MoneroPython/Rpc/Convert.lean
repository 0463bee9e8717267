/-
# `PyGenUtils::convert_value`

A scalar of an RPC response reaches Python through its text alone
(`common/py_monero_common.cpp`).  `convert_value` guesses what the text was: the two literals,
then whatever `std::stoi` consumes to its end, then whatever `std::stod` consumes to its end,
and the text itself otherwise.

`std::stoi` and `std::stod` are `strtol` and `strtod` with errors: `invalid_argument` when
there is no number, `out_of_range` when the number does not fit the machine type.  A `double`
is rounded to nearest, ties to even; `strtod` reports a range error when the rounded value is
beyond the largest finite one and when it is subnormal or zero without being exact.

Section 3 describes the texts that are converted without reference to the scanners.

A `std::string` holds bytes.  `convertValueBytes` is the function on these, and on the bytes of a
text it is `convertValue` (`convertValueBytes_toUTF8`).  Numbers are written in ASCII, so all that
other bytes can do is to reach `py::str(val)`, which takes valid UTF-8 only
(`convertValueBytes_language`).
-/
import Mathlib.Data.Int.Log
import Mathlib.Data.Rat.Floor
import MoneroPython.Lib.Strto
import MoneroPython.Lib.Utf8

namespace MoneroPython.Rpc

open Strto Utf8

/-! ## 1. Doubles -/

/-- A `double`; `finite` has a magnitude that a `double` can hold. -/
inductive Double where
  | finite (neg : Bool) (magnitude : ℚ)
  | infinity (neg : Bool)
  | nan
deriving DecidableEq

/-- The nearest integer, the even one of two. -/
def roundHalfEven (q : ℚ) : ℤ :=
  let n := q.floor
  if q - n < 1 / 2 ∨ q - n = 1 / 2 ∧ n % 2 = 0 then n else n + 1

/-- The nearest multiple of `2 ^ quantum`. -/
def roundTo (quantum : ℤ) (q : ℚ) : ℚ := roundHalfEven (q / 2 ^ quantum) * 2 ^ quantum

/-- The magnitude `q` as a `double`, or nothing for a range error.  A double has 53 significant
bits and no bit below `2 ^ -1074`. -/
def toDouble (q : ℚ) : Option ℚ :=
  if q = 0 then some 0
  else
    let rounded := roundTo (max (-1074) (Int.log 2 q - 52)) q
    if 2 ^ 1024 ≤ rounded then none
    else if rounded ≠ q ∧ roundTo (Int.log 2 q - 52) q < 2 ^ (-1022 : ℤ) then none
    else some rounded

/-- The `double` that `strtod` returns, or nothing for a range error. -/
def strtodResult (neg : Bool) : Magnitude → Option Double
  | .number q => (toDouble q).map (.finite neg)
  | .infinity => some (.infinity neg)
  | .nan => some .nan

/-! ## 2. The conversion -/

/-- The Python objects of a decoded response.  A `dict` lists its items in insertion order. -/
inductive PyObj where
  | none
  | bool (b : Bool)
  | int (n : ℤ)
  | float (d : Double)
  | str (s : String)
  | list (os : List PyObj)
  | dict (items : List (String × PyObj))

/-- The exceptions of `std::stoi` and `std::stod`. -/
inductive ConversionError where
  | invalidArgument
  | outOfRange
deriving DecidableEq

/-- The range of a 32-bit `int`. -/
def IsInt32 (n : ℤ) : Prop := -2 ^ 31 ≤ n ∧ n < 2 ^ 31

instance (n : ℤ) : Decidable (IsInt32 n) := inferInstanceAs (Decidable (_ ∧ _))

/-- `std::stoi(val, &pos)`: the value and the text from `pos` on. -/
def stoi (val : List Char) : Except ConversionError (ℤ × List Char) :=
  match strtol val with
  | none => .error .invalidArgument
  | some (n, rest) => if IsInt32 n then .ok (n, rest) else .error .outOfRange

/-- `std::stod(val, &pos)`: the value and the text from `pos` on. -/
def stod (val : List Char) : Except ConversionError (Double × List Char) :=
  match strtod val with
  | none => .error .invalidArgument
  | some (neg, m, rest) =>
    match strtodResult neg m with
    | none => .error .outOfRange
    | some d => .ok (d, rest)

/-- The first `try` of `convert_value`; `pos == val.size()` says that no text is left. -/
def convertInt (val : List Char) : Option PyObj :=
  match stoi val with
  | .ok (i, rest) => if rest = [] then some (.int i) else none
  | .error _ => none

/-- The second `try` of `convert_value`. -/
def convertFloat (val : List Char) : Option PyObj :=
  match stod val with
  | .ok (d, rest) => if rest = [] then some (.float d) else none
  | .error _ => none

/-- `PyGenUtils::convert_value`. -/
def convertValue (val : String) : PyObj :=
  if val = "true" then .bool true
  else if val = "false" then .bool false
  else ((convertInt val.toList).or (convertFloat val.toList)).getD (.str val)

/-! ## 3. The texts that are converted -/

/-- The text of an integer that fits a 32-bit `int`. -/
def ReadsAsInt (val : String) (n : ℤ) : Prop := IntegerText val.toList n ∧ IsInt32 n

/-- The text of a floating-point number, infinity or NaN that a `double` can hold. -/
def ReadsAsFloat (val : String) (d : Double) : Prop :=
  ∃ neg m, FloatText val.toList neg m ∧ strtodResult neg m = some d

/-- A text that is neither a literal nor a number that fits. -/
structure PlainText (val : String) : Prop where
  ne_true : val ≠ "true"
  ne_false : val ≠ "false"
  not_int : ∀ n, ¬ ReadsAsInt val n
  not_float : ∀ d, ¬ ReadsAsFloat val d

theorem stoi_eq_ok_nil_iff {val : List Char} {n : ℤ} :
    stoi val = .ok (n, []) ↔ IntegerText val n ∧ IsInt32 n := by
  rw [← strtol_eq_some_nil_iff, stoi]
  cases strtol val with
  | none => simp
  | some r =>
    obtain ⟨m, rest⟩ := r
    simp only [Option.some.injEq, Prod.mk.injEq]
    split
    · next hm =>
      simp only [Except.ok.injEq, Prod.mk.injEq]
      constructor
      · intro h
        exact ⟨h, h.1 ▸ hm⟩
      · intro h
        exact h.1
    · next hm =>
      refine iff_of_false nofun ?_
      intro h
      exact hm (h.1.1 ▸ h.2)

theorem stod_eq_ok_nil_iff {val : List Char} {d : Double} :
    stod val = .ok (d, []) ↔ ∃ neg m, FloatText val neg m ∧ strtodResult neg m = some d := by
  simp only [← strtod_eq_some_nil_iff, stod]
  cases strtod val with
  | none => simp
  | some r =>
    obtain ⟨neg, m, rest⟩ := r
    cases hd : strtodResult neg m with
    | none =>
      simp only [hd, reduceCtorEq, false_iff, not_exists]
      rintro _ _ ⟨heq, hres⟩
      cases heq
      rw [hd] at hres
      cases hres
    | some d' =>
      simp only [hd, Except.ok.injEq, Prod.mk.injEq, Option.some.injEq]
      constructor
      · rintro ⟨rfl, rfl⟩
        exact ⟨neg, m, ⟨rfl, rfl, rfl⟩, hd⟩
      · rintro ⟨_, _, ⟨rfl, rfl, rfl⟩, hres⟩
        rw [hd] at hres
        exact ⟨Option.some.inj hres, rfl⟩

/-- What `std::stoi` or `std::stod` has read is kept when no text is left. -/
theorem keep_eq_some_iff {β : Type} {mk : β → PyObj} {b : β} {rest : List Char} {o : PyObj} :
    (if rest = [] then some (mk b) else none) = some o ↔
      ∃ c, (Except.ok (b, rest) : Except ConversionError _) = .ok (c, []) ∧ o = mk c := by
  simp only [Option.ite_none_right_eq_some, Except.ok.injEq, Prod.mk.injEq, Option.some.injEq]
  constructor
  · intro h
    exact ⟨b, ⟨rfl, h.1⟩, h.2.symm⟩
  · rintro ⟨_, ⟨rfl, hrest⟩, ho⟩
    exact ⟨hrest, ho.symm⟩

theorem convertInt_eq_some_iff {val : List Char} {o : PyObj} :
    convertInt val = some o ↔ ∃ n, (IntegerText val n ∧ IsInt32 n) ∧ o = .int n := by
  simp only [← stoi_eq_ok_nil_iff, convertInt]
  cases stoi val with
  | error e => simp
  | ok r => exact keep_eq_some_iff

theorem convertFloat_eq_some_iff {val : List Char} {o : PyObj} :
    convertFloat val = some o ↔
      ∃ d, (∃ neg m, FloatText val neg m ∧ strtodResult neg m = some d) ∧ o = .float d := by
  simp only [← stod_eq_ok_nil_iff, convertFloat]
  cases stod val with
  | error e => simp
  | ok r => exact keep_eq_some_iff

/-- A number has the form of one. -/
theorem convertNumber_eq_none {val : List Char} (h : ¬ Tidy val) :
    (convertInt val).or (convertFloat val) = none := by
  rw [Option.or_eq_none_iff]
  constructor
  · refine Option.eq_none_iff_forall_ne_some.mpr fun o ho => ?_
    obtain ⟨n, hn, -⟩ := convertInt_eq_some_iff.mp ho
    exact h hn.1.tidy
  · refine Option.eq_none_iff_forall_ne_some.mpr fun o ho => ?_
    obtain ⟨d, ⟨neg, m, htext, -⟩, -⟩ := convertFloat_eq_some_iff.mp ho
    exact h htext.tidy

theorem ReadsAsInt.unique {val : String} {n m : ℤ} (hn : ReadsAsInt val n)
    (hm : ReadsAsInt val m) : n = m := by
  have heq := (strtol_eq_some_nil_iff.mpr hn.1).symm.trans (strtol_eq_some_nil_iff.mpr hm.1)
  exact (Prod.mk.inj (Option.some.inj heq)).1

/-! ## 4. What `convert_value` returns -/

/-- The literals are no integers. -/
theorem not_readsAsInt_literal {val : String} (h : val = "true" ∨ val = "false") (n : ℤ) :
    ¬ ReadsAsInt val n := by
  intro hint
  have hscan := strtol_eq_some_nil_iff.mpr hint.1
  have hnone : strtol val.toList = none := by
    rcases h with rfl | rfl <;> decide
  rw [hnone] at hscan
  cases hscan

/-- Nor are they floating-point texts. -/
theorem not_readsAsFloat_literal {val : String} (h : val = "true" ∨ val = "false") (d : Double) :
    ¬ ReadsAsFloat val d := by
  rintro ⟨neg, m, htext, -⟩
  have hscan := strtod_eq_some_nil_iff.mpr htext
  have hnone : strtod val.toList = none := by
    rcases h with rfl | rfl <;> decide
  rw [hnone] at hscan
  cases hscan

/-- **Everything `convert_value` can do.**  It never fails, and nothing but the whole text
decides. -/
theorem convertValue_cases (val : String) :
    val = "true" ∧ convertValue val = .bool true ∨
    val = "false" ∧ convertValue val = .bool false ∨
    (∃ n, ReadsAsInt val n ∧ convertValue val = .int n) ∨
    (∃ d, (∀ n, ¬ ReadsAsInt val n) ∧ ReadsAsFloat val d ∧ convertValue val = .float d) ∨
    PlainText val ∧ convertValue val = .str val := by
  unfold convertValue
  split
  · next h => exact Or.inl ⟨h, rfl⟩
  split
  · next h => exact Or.inr (Or.inl ⟨h, rfl⟩)
  next htrue hfalse =>
  refine Or.inr (Or.inr ?_)
  cases hint : convertInt val.toList with
  | some o =>
    obtain ⟨n, hn, rfl⟩ := convertInt_eq_some_iff.mp hint
    exact Or.inl ⟨n, hn, rfl⟩
  | none =>
    have hnoInt : ∀ n, ¬ ReadsAsInt val n := by
      intro n hn
      rw [convertInt_eq_some_iff.mpr ⟨n, hn, rfl⟩] at hint
      cases hint
    cases hfloat : convertFloat val.toList with
    | some o =>
      obtain ⟨d, hd, rfl⟩ := convertFloat_eq_some_iff.mp hfloat
      exact Or.inr (Or.inl ⟨d, hnoInt, hd, rfl⟩)
    | none =>
      have hnoFloat : ∀ d, ¬ ReadsAsFloat val d := by
        intro d hd
        rw [convertFloat_eq_some_iff.mpr ⟨d, hd, rfl⟩] at hfloat
        cases hfloat
      exact Or.inr (Or.inr ⟨⟨htrue, hfalse, hnoInt, hnoFloat⟩, rfl⟩)

/-- An `int` is what the text of an integer that fits becomes, and nothing else. -/
theorem convertValue_eq_int_iff {val : String} {n : ℤ} :
    convertValue val = .int n ↔ ReadsAsInt val n := by
  rcases convertValue_cases val with ⟨hval, h⟩ | ⟨hval, h⟩ | ⟨m, hm, h⟩ | ⟨d, hno, -, h⟩ | ⟨hp, h⟩
  · exact iff_of_false (by simp [h]) (not_readsAsInt_literal (Or.inl hval) n)
  · exact iff_of_false (by simp [h]) (not_readsAsInt_literal (Or.inr hval) n)
  · rw [h, PyObj.int.injEq]
    constructor
    · rintro rfl
      exact hm
    · intro hn
      exact hm.unique hn
  · exact iff_of_false (by simp [h]) (hno n)
  · exact iff_of_false (by simp [h]) (hp.not_int n)

/-- A text comes back as it is exactly when it is plain. -/
theorem convertValue_eq_str_iff {val s : String} :
    convertValue val = .str s ↔ s = val ∧ PlainText val := by
  rcases convertValue_cases val with ⟨hval, h⟩ | ⟨hval, h⟩ | ⟨m, hm, h⟩ | ⟨d, -, hd, h⟩ | ⟨hp, h⟩
  · exact iff_of_false (by simp [h]) fun hp => hp.2.ne_true hval
  · exact iff_of_false (by simp [h]) fun hp => hp.2.ne_false hval
  · exact iff_of_false (by simp [h]) fun hp => hp.2.not_int m hm
  · exact iff_of_false (by simp [h]) fun hp => hp.2.not_float d hd
  · rw [h, PyObj.str.injEq, and_iff_left hp, eq_comm]

/-- The literals become the truth values, and nothing else does. -/
theorem convertValue_eq_bool_iff {val : String} {b : Bool} :
    convertValue val = .bool b ↔ val = if b then "true" else "false" := by
  rcases convertValue_cases val with ⟨hval, h⟩ | ⟨hval, h⟩ | ⟨n, hn, h⟩ | ⟨d, -, hd, h⟩ | ⟨hp, h⟩
  · rw [h, hval]
    cases b <;> simp
  · rw [h, hval]
    cases b <;> simp
  · refine iff_of_false (by simp [h]) ?_
    intro hval
    refine not_readsAsInt_literal ?_ n hn
    cases b with
    | true => exact Or.inl hval
    | false => exact Or.inr hval
  · refine iff_of_false (by simp [h]) ?_
    intro hval
    exact not_readsAsFloat_literal (by cases b <;> simp [hval]) d hd
  · refine iff_of_false (by simp [h]) ?_
    intro hval
    cases b with
    | true => exact hp.ne_true hval
    | false => exact hp.ne_false hval

/-! ## 5. Bytes -/

/-- The exceptions that can be raised in `convert_value`. -/
inductive ConvertError where
  | conversion (e : ConversionError)
  | unicodeDecodeError
deriving DecidableEq

/-- `py::str(val)`. -/
def pyStr (val : ByteArray) : Except ConvertError PyObj :=
  match String.fromUTF8? val with
  | some s => .ok (.str s)
  | none => .error .unicodeDecodeError

/-- `PyGenUtils::convert_value` on the bytes of `val`. -/
def convertValueBytes (val : ByteArray) : Except ConvertError PyObj :=
  if chars val = "true".toList then .ok (.bool true)
  else if chars val = "false".toList then .ok (.bool false)
  else
    match (convertInt (chars val)).or (convertFloat (chars val)) with
    | some o => .ok o
    | none => pyStr val

theorem integerText_chars_iff {s : String} {n : ℤ} :
    IntegerText (chars s.toUTF8) n ↔ IntegerText s.toList n :=
  chars_toUTF8_iff (P := fun cs => IntegerText cs n) (fun _ h => h.tidy.ascii) s

theorem floatText_chars_iff {s : String} {neg : Bool} {m : Magnitude} :
    FloatText (chars s.toUTF8) neg m ↔ FloatText s.toList neg m :=
  chars_toUTF8_iff (P := fun cs => FloatText cs neg m) (fun _ h => h.tidy.ascii) s

theorem convertInt_chars (s : String) : convertInt (chars s.toUTF8) = convertInt s.toList := by
  ext o
  simp only [convertInt_eq_some_iff, integerText_chars_iff]

theorem convertFloat_chars (s : String) :
    convertFloat (chars s.toUTF8) = convertFloat s.toList := by
  ext o
  simp only [convertFloat_eq_some_iff, floatText_chars_iff]

/-- The literals are ASCII. -/
theorem isAscii_literal (b : Bool) : IsAscii (if b then "true" else "false").toList := by
  cases b with
  | true => simp [IsAscii]
  | false => simp [IsAscii]

theorem chars_eq_literal_iff {s : String} (b : Bool) :
    chars s.toUTF8 = (if b then "true" else "false").toList ↔ s = if b then "true" else "false" := by
  rw [chars_toUTF8_eq_iff (isAscii_literal b), String.toList_inj]

/-- **On the bytes of a text** it is `convertValue`, and nothing is raised. -/
theorem convertValueBytes_toUTF8 (s : String) :
    convertValueBytes s.toUTF8 = .ok (convertValue s) := by
  have htrue : chars s.toUTF8 = "true".toList ↔ s = "true" := chars_eq_literal_iff true
  have hfalse : chars s.toUTF8 = "false".toList ↔ s = "false" := chars_eq_literal_iff false
  simp only [convertValueBytes, convertValue, htrue, hfalse, convertInt_chars, convertFloat_chars]
  split
  · rfl
  split
  · rfl
  cases (convertInt s.toList).or (convertFloat s.toList) with
  | some o => rfl
  | none => rw [Option.getD_none, pyStr, fromUTF8?_toUTF8]

/-- What is neither a literal nor in the form of a number goes to `py::str`. -/
theorem convertValueBytes_eq_pyStr {val : ByteArray}
    (hliteral : ∀ b : Bool, chars val ≠ (if b then "true" else "false").toList)
    (htidy : ¬ Tidy (chars val)) : convertValueBytes val = pyStr val := by
  have htrue : chars val ≠ "true".toList := hliteral true
  have hfalse : chars val ≠ "false".toList := hliteral false
  rw [convertValueBytes, if_neg htrue, if_neg hfalse, convertNumber_eq_none htidy]

/-- Other bytes are rejected. -/
theorem convertValueBytes_of_not_isValidUTF8 {val : ByteArray} (h : ¬ val.IsValidUTF8) :
    convertValueBytes val = .error .unicodeDecodeError := by
  have hascii : ¬ IsAscii (chars val) := fun hascii => h (isValidUTF8_of_isAscii hascii)
  rw [convertValueBytes_eq_pyStr, pyStr, fromUTF8?_eq_none_iff.mpr h]
  · intro b heq
    exact hascii (heq ▸ isAscii_literal b)
  · intro htidy
    exact hascii htidy.ascii

/-- What is converted is the bytes of a text, and converted like the text. -/
theorem convertValueBytes_eq_ok_iff {val : ByteArray} {o : PyObj} :
    convertValueBytes val = .ok o ↔ ∃ s : String, val = s.toUTF8 ∧ convertValue s = o := by
  constructor
  · intro h
    by_cases hvalid : val.IsValidUTF8
    · refine ⟨.ofByteArray val hvalid, rfl, ?_⟩
      have htext : convertValueBytes val = .ok (convertValue (.ofByteArray val hvalid)) :=
        convertValueBytes_toUTF8 (.ofByteArray val hvalid)
      rw [htext] at h
      exact Except.ok.inj h
    · rw [convertValueBytes_of_not_isValidUTF8 hvalid] at h
      cases h
  · rintro ⟨s, rfl, rfl⟩
    exact convertValueBytes_toUTF8 s

theorem convertValueBytes_eq_error_iff {val : ByteArray} {e : ConvertError} :
    convertValueBytes val = .error e ↔ ¬ val.IsValidUTF8 ∧ e = .unicodeDecodeError := by
  constructor
  · intro h
    by_cases hvalid : val.IsValidUTF8
    · have htext : convertValueBytes val = .ok (convertValue (.ofByteArray val hvalid)) :=
        convertValueBytes_eq_ok_iff.mpr ⟨.ofByteArray val hvalid, rfl, rfl⟩
      rw [htext] at h
      cases h
    · rw [convertValueBytes_of_not_isValidUTF8 hvalid] at h
      exact ⟨hvalid, (Except.error.inj h).symm⟩
  · rintro ⟨hvalid, rfl⟩
    exact convertValueBytes_of_not_isValidUTF8 hvalid

theorem convertValueBytes_eq_bool_iff {val : ByteArray} {b : Bool} :
    convertValueBytes val = .ok (.bool b) ↔ val = (if b then "true" else "false").toUTF8 := by
  simp only [convertValueBytes_eq_ok_iff, convertValue_eq_bool_iff, exists_eq_right]

theorem convertValueBytes_eq_int_iff {val : ByteArray} {n : ℤ} :
    convertValueBytes val = .ok (.int n) ↔ IntegerText (chars val) n ∧ IsInt32 n := by
  simp only [convertValueBytes_eq_ok_iff, convertValue_eq_int_iff, ReadsAsInt]
  constructor
  · rintro ⟨s, rfl, htext, hn⟩
    exact ⟨integerText_chars_iff.mpr htext, hn⟩
  · rintro ⟨htext, hn⟩
    obtain ⟨s, rfl⟩ : ∃ s : String, val = s.toUTF8 :=
      ⟨.ofByteArray val (isValidUTF8_of_isAscii htext.tidy.ascii), rfl⟩
    exact ⟨s, rfl, integerText_chars_iff.mp htext, hn⟩

/-- What is left besides the literals and the integers. -/
theorem convertValueBytes_rest {val : ByteArray}
    (hbool : ∀ b, convertValueBytes val ≠ .ok (.bool b))
    (hint : ∀ n, convertValueBytes val ≠ .ok (.int n)) :
    (∃ d, convertValueBytes val = .ok (.float d) ∧ stod (chars val) = .ok (d, [])) ∨
      (∃ s : String, convertValueBytes val = .ok (.str s) ∧ val = s.toUTF8) ∨
      convertValueBytes val = .error .unicodeDecodeError := by
  by_cases hvalid : val.IsValidUTF8
  swap
  · exact Or.inr (Or.inr (convertValueBytes_of_not_isValidUTF8 hvalid))
  obtain ⟨s, rfl⟩ : ∃ s : String, val = s.toUTF8 := ⟨.ofByteArray val hvalid, rfl⟩
  rw [convertValueBytes_toUTF8] at hbool hint ⊢
  rcases convertValue_cases s with ⟨-, h⟩ | ⟨-, h⟩ | ⟨n, -, h⟩ | ⟨d, -, hd, h⟩ | ⟨-, h⟩
  · exact absurd (congrArg Except.ok h) (hbool true)
  · exact absurd (congrArg Except.ok h) (hbool false)
  · exact absurd (congrArg Except.ok h) (hint n)
  · obtain ⟨neg, m, htext, hres⟩ := hd
    refine Or.inl ⟨d, by rw [h], stod_eq_ok_nil_iff.mpr ⟨neg, m, ?_, hres⟩⟩
    exact floatText_chars_iff.mpr htext
  · exact Or.inr (Or.inl ⟨s, by rw [h], rfl⟩)

/-- The literals have no NUL and no blank at the end. -/
theorem not_untidy_literal (b : Bool) : ¬ Untidy (if b then "true" else "false").toList := by
  cases b with
  | true => simp [Untidy, isSpace]
  | false => simp [Untidy, isSpace]

/-- With a NUL, or a blank at the end, there is no number, whatever the scanners may read of it. -/
theorem convertValueBytes_untidy {val : ByteArray} (h : Untidy (chars val)) :
    convertValueBytes val = pyStr val := by
  refine convertValueBytes_eq_pyStr ?_ ?_
  · intro b heq
    exact not_untidy_literal b (heq ▸ h)
  · intro htidy
    exact htidy.not_untidy h

/-- **The language of `convert_value`.**  A bool comes from the two literals, an int from the
texts of the integers that fit, and everything else becomes a float that `stod` has read to its
end, or itself if it is UTF-8.  What is rejected is exactly what is no UTF-8, by `py::str`, and no
exception of `stoi` or `stod` escapes.  With a NUL, or a blank at the end, `val` goes to `py::str`
as a whole. -/
theorem convertValueBytes_language (val : ByteArray) :
    (∀ b, convertValueBytes val = .ok (.bool b) ↔ val = (if b then "true" else "false").toUTF8) ∧
      (∀ n, convertValueBytes val = .ok (.int n) ↔ IntegerText (chars val) n ∧ IsInt32 n) ∧
      ((∀ b, convertValueBytes val ≠ .ok (.bool b)) →
        (∀ n, convertValueBytes val ≠ .ok (.int n)) →
          (∃ d, convertValueBytes val = .ok (.float d) ∧ stod (chars val) = .ok (d, [])) ∨
          (∃ s : String, convertValueBytes val = .ok (.str s) ∧ val = s.toUTF8) ∨
          convertValueBytes val = .error .unicodeDecodeError) ∧
      (∀ e, convertValueBytes val = .error e ↔ ¬ val.IsValidUTF8 ∧ e = .unicodeDecodeError) ∧
      (Untidy (chars val) → convertValueBytes val = pyStr val) :=
  ⟨fun _ => convertValueBytes_eq_bool_iff, fun _ => convertValueBytes_eq_int_iff,
    convertValueBytes_rest, fun _ => convertValueBytes_eq_error_iff, convertValueBytes_untidy⟩

/-- A surrogate in three bytes, which `read_json` lets through. -/
theorem convertValueBytes_surrogate :
    ¬ ∃ o, convertValueBytes ⟨#[0xED, 0xA0, 0x80]⟩ = .ok o := by
  have hinvalid : ¬ (ByteArray.mk #[0xED, 0xA0, 0x80]).IsValidUTF8 := by decide
  rw [convertValueBytes_of_not_isValidUTF8 hinvalid]
  rintro ⟨o, h⟩
  cases h

end MoneroPython.Rpc
