/-
# Reading numbers the way C does

`strtol` (base 10) and `strtod` skip leading white space, read an optional sign and then the
longest prefix that has the form of a number.  They hand back what they have read and the rest
of the text, and nothing when there is no number.

The scanners below follow that description.  The `...Text` predicates are the forms themselves,
written as a grammar.  `strtol_eq_some_nil_iff` and `strtod_eq_some_nil_iff` connect the two:
a scanner consumes a text to its end exactly when the text has the form, and then the value is
the one that the form denotes.

Values are exact here; what a machine type can hold is the caller's concern.  The locale is
the "C" locale.
-/
import Mathlib.Algebra.Order.Field.Rat
import Mathlib.Data.List.TakeWhile
import Mathlib.Tactic.Common

namespace Strto

/-! ## 1. Characters and maximal runs -/

/-- `isspace`. -/
def isSpace (c : Char) : Bool := c.toNat = 32 || (9 ≤ c.toNat && c.toNat ≤ 13)

def isSign (c : Char) : Bool := c = '-' || c = '+'

def hexDigitValue (c : Char) : ℕ := if c.isDigit then c.toNat - 48 else c.toLower.toNat - 87

/-- The value of a run of hexadecimal digits. -/
def ofHexDigits (ds : List Char) : ℕ := ds.foldl (fun n c => 16 * n + hexDigitValue c) 0

/-- The characters of the parenthesised part of a NaN. -/
def isNanChar (c : Char) : Bool := c.isAlphanum || c = '_'

theorem isDigit_iff {c : Char} : c.isDigit = true ↔ 48 ≤ c.toNat ∧ c.toNat ≤ 57 :=
  Char.isDigit_iff_toNat

/-- A letter has two forms. -/
theorem toNat_of_toLower {c l : Char} (h : c.toLower = l) :
    c.toNat = l.toNat ∨ c.toNat + 32 = l.toNat := by
  subst h
  unfold Char.toLower
  split
  · next h =>
    right
    have hle := UInt32.le_iff_toNat_le.mp h.2
    have hnat : (c.val + ('a'.val - 'A'.val)).toNat = c.val.toNat + 32 := by
      rw [UInt32.toNat_add]
      exact Nat.mod_eq_of_lt (Nat.lt_of_le_of_lt (Nat.add_le_add_right hle _) (by decide))
    exact hnat.symm
  · exact Or.inl rfl

/-- No character of class `p` comes first. -/
def Stops (p : Char → Bool) (cs : List Char) : Prop := ∀ c ∈ cs.head?, p c = false

section
variable {p : Char → Bool} {run rest : List Char}

theorem takeWhile_append (hrun : ∀ c ∈ run, p c = true) (hrest : Stops p rest) :
    (run ++ rest).takeWhile p = run := by
  rw [List.takeWhile_append_of_pos hrun]
  cases rest with
  | nil => simp
  | cons c cs => simp [hrest c (by simp)]

theorem dropWhile_append (hrun : ∀ c ∈ run, p c = true) (hrest : Stops p rest) :
    (run ++ rest).dropWhile p = rest := by
  rw [List.dropWhile_append_of_pos hrun]
  cases rest with
  | nil => simp
  | cons c cs => simp [hrest c (by simp)]

theorem forall_mem_takeWhile (cs : List Char) : ∀ c ∈ cs.takeWhile p, p c = true :=
  fun _ hc => List.mem_takeWhile_imp hc

@[simp] theorem stops_nil : Stops p [] := by
  simp [Stops]

@[simp] theorem stops_cons {c : Char} {cs : List Char} : Stops p (c :: cs) ↔ p c = false := by
  simp [Stops]

end

/-! ## 2. Signs and integers -/

/-- The value `n` under a sign. -/
def signed (neg : Bool) (n : ℕ) : ℤ := if neg then -(n : ℤ) else n

def scanSign : List Char → Bool × List Char
  | '-' :: cs => (true, cs)
  | '+' :: cs => (false, cs)
  | cs => (false, cs)

/-- `strtol(s, &end, 10)`: the value and the text from `end` on. -/
def strtol (s : List Char) : Option (ℤ × List Char) :=
  let (neg, body) := scanSign (s.dropWhile isSpace)
  let digits := body.takeWhile Char.isDigit
  if digits = [] then none
  else some (signed neg (Nat.ofDigitChars 10 digits 0), body.dropWhile Char.isDigit)

/-- An optional sign. -/
inductive SignText : List Char → Bool → Prop where
  | none : SignText [] false
  | plus : SignText ['+'] false
  | minus : SignText ['-'] true

/-- Blanks, an optional sign and decimal digits, denoting an integer. -/
inductive IntegerText : List Char → ℤ → Prop where
  | mk {blanks sign digits : List Char} {neg : Bool}
      (hblanks : ∀ c ∈ blanks, isSpace c = true) (hsign : SignText sign neg)
      (hne : digits ≠ []) (hdigits : ∀ c ∈ digits, c.isDigit = true) :
      IntegerText (blanks ++ (sign ++ digits)) (signed neg (Nat.ofDigitChars 10 digits 0))

theorem scanSign_spec (cs : List Char) :
    ∃ sign, SignText sign (scanSign cs).1 ∧ cs = sign ++ (scanSign cs).2 := by
  unfold scanSign
  split
  · exact ⟨_, .minus, rfl⟩
  · exact ⟨_, .plus, rfl⟩
  · exact ⟨_, .none, rfl⟩

theorem scanSign_append {sign : List Char} {neg : Bool} (hsign : SignText sign neg)
    {cs : List Char} (hcs : Stops isSign cs) : scanSign (sign ++ cs) = (neg, cs) := by
  cases hsign with
  | plus => rfl
  | minus => rfl
  | none =>
    unfold scanSign
    split
    · next heq => simp [show cs = _ from heq, isSign] at hcs
    · next heq => simp [show cs = _ from heq, isSign] at hcs
    · rfl

/-- A sign is not a blank. -/
theorem SignText.stops_isSpace {sign : List Char} {neg : Bool} (hsign : SignText sign neg)
    {cs : List Char} (hcs : Stops isSpace cs) : Stops isSpace (sign ++ cs) := by
  cases hsign with
  | none => exact hcs
  | plus => exact stops_cons.mpr (by decide)
  | minus => exact stops_cons.mpr (by decide)

/-- Skipping the blanks and reading the sign leaves the body. -/
theorem scanSign_dropWhile_isSpace {blanks sign body : List Char} {neg : Bool}
    (hblanks : ∀ c ∈ blanks, isSpace c = true) (hsign : SignText sign neg)
    (hspace : Stops isSpace body) (hbody : Stops isSign body) :
    scanSign ((blanks ++ (sign ++ body)).dropWhile isSpace) = (neg, body) := by
  rw [dropWhile_append hblanks (hsign.stops_isSpace hspace), scanSign_append hsign hbody]

/-- A text is its blanks, its sign and the body that is left of it. -/
theorem exists_blanks_sign (s : List Char) :
    ∃ blanks sign, (∀ c ∈ blanks, isSpace c = true) ∧
      SignText sign (scanSign (s.dropWhile isSpace)).1 ∧
      s = blanks ++ (sign ++ (scanSign (s.dropWhile isSpace)).2) := by
  obtain ⟨sign, hsign, heq⟩ := scanSign_spec (s.dropWhile isSpace)
  refine ⟨s.takeWhile isSpace, sign, forall_mem_takeWhile s, hsign, ?_⟩
  rw [← heq, List.takeWhile_append_dropWhile]

theorem isSpace_of_isDigit {c : Char} (h : c.isDigit = true) : isSpace c = false := by
  have hnat := isDigit_iff.mp h
  simp only [isSpace, Bool.or_eq_false_iff, Bool.and_eq_false_iff, decide_eq_false_iff_not]
  omega

theorem isSign_of_isDigit {c : Char} (h : c.isDigit = true) : isSign c = false := by
  have hnat := isDigit_iff.mp h
  simp only [isSign, Bool.or_eq_false_iff, decide_eq_false_iff_not]
  constructor
  · rintro rfl
    exact absurd hnat (by decide)
  · rintro rfl
    exact absurd hnat (by decide)

/-- **`strtol` reads integers.**  It consumes a text to its end exactly when the text is an
integer with optional blanks and sign in front, and it returns that integer. -/
theorem strtol_eq_some_nil_iff {s : List Char} {n : ℤ} :
    strtol s = some (n, []) ↔ IntegerText s n := by
  constructor
  · intro h
    obtain ⟨blanks, sign, hblanks, hsign, heq⟩ := exists_blanks_sign s
    simp only [strtol, Option.ite_none_left_eq_some, Option.some.injEq, Prod.mk.injEq] at h
    obtain ⟨hne, hval, hrest⟩ := h
    have hbody := List.takeWhile_append_dropWhile (p := Char.isDigit)
      (l := (scanSign (s.dropWhile isSpace)).2)
    rw [hrest, List.append_nil] at hbody
    rw [heq, ← hval]
    rw [hbody] at hne ⊢
    exact .mk hblanks hsign hne fun c hc => forall_mem_takeWhile _ c (hbody ▸ hc)
  · rintro ⟨hblanks, hsign, hne, hdigits⟩
    rename_i digits _
    have hstops : ∀ p : Char → Bool, (∀ c, c.isDigit = true → p c = false) → Stops p digits :=
      fun p hp c hc => hp c (hdigits c (List.mem_of_mem_head? hc))
    rw [strtol, scanSign_dropWhile_isSpace hblanks hsign (hstops _ fun _ => isSpace_of_isDigit)
      (hstops _ fun _ => isSign_of_isDigit)]
    have htake := takeWhile_append hdigits stops_nil
    have hdrop := dropWhile_append hdigits stops_nil
    rw [List.append_nil] at htake hdrop
    simp [htake, hdrop, hne]

/-! ## 3. Digits with a point and an exponent -/

/-- The digits after a point, and the rest. -/
def scanFraction (p : Char → Bool) : List Char → List Char × List Char
  | '.' :: cs => (cs.takeWhile p, cs.dropWhile p)
  | cs => ([], cs)

/-- The exponent behind the letter `marker`; without digits there is none. -/
def scanExponent (marker : Char) : List Char → ℤ × List Char
  | [] => (0, [])
  | c :: cs =>
    let (neg, body) := scanSign cs
    let digits := body.takeWhile Char.isDigit
    if c.toLower = marker ∧ digits ≠ [] then
      (signed neg (Nat.ofDigitChars 10 digits 0), body.dropWhile Char.isDigit)
    else (0, c :: cs)

/-- Digits of class `p` before and after a point, and an exponent. -/
structure Positional where
  whole : List Char
  frac : List Char
  exp : ℤ

def scanPositional (p : Char → Bool) (marker : Char) (cs : List Char) :
    Option (Positional × List Char) :=
  let whole := cs.takeWhile p
  let (frac, rest) := scanFraction p (cs.dropWhile p)
  if whole = [] ∧ frac = [] then none
  else
    let (exp, rest) := scanExponent marker rest
    some (⟨whole, frac, exp⟩, rest)

inductive FractionText (p : Char → Bool) : List Char → List Char → Prop where
  | none : FractionText p [] []
  | some {digits : List Char} (hdigits : ∀ c ∈ digits, p c = true) :
      FractionText p ('.' :: digits) digits

inductive ExponentText (marker : Char) : List Char → ℤ → Prop where
  | none : ExponentText marker [] 0
  | some {c : Char} {sign digits : List Char} {neg : Bool} (hmarker : c.toLower = marker)
      (hsign : SignText sign neg) (hne : digits ≠ [])
      (hdigits : ∀ c ∈ digits, c.isDigit = true) :
      ExponentText marker (c :: (sign ++ digits)) (signed neg (Nat.ofDigitChars 10 digits 0))

inductive PositionalText (p : Char → Bool) (marker : Char) : List Char → Positional → Prop where
  | mk {whole frac digits ex : List Char} {e : ℤ} (hwhole : ∀ c ∈ whole, p c = true)
      (hfrac : FractionText p frac digits) (hne : ¬ (whole = [] ∧ digits = []))
      (hexp : ExponentText marker ex e) :
      PositionalText p marker (whole ++ (frac ++ ex)) ⟨whole, digits, e⟩

theorem scanFraction_spec (p : Char → Bool) (cs : List Char) :
    ∃ w, FractionText p w (scanFraction p cs).1 ∧ cs = w ++ (scanFraction p cs).2 := by
  unfold scanFraction
  split
  · next cs =>
    exact ⟨_, .some (forall_mem_takeWhile cs), by
      rw [List.cons_append, List.takeWhile_append_dropWhile]⟩
  · exact ⟨_, .none, rfl⟩

theorem scanExponent_spec (marker : Char) (cs : List Char) :
    ∃ w, ExponentText marker w (scanExponent marker cs).1 ∧
      cs = w ++ (scanExponent marker cs).2 := by
  cases cs with
  | nil => exact ⟨[], .none, rfl⟩
  | cons c cs =>
    obtain ⟨sign, hsign, heq⟩ := scanSign_spec cs
    simp only [scanExponent]
    split
    · next h =>
      refine ⟨_, .some h.1 hsign h.2 (forall_mem_takeWhile _), ?_⟩
      rw [List.cons_append, List.append_assoc, List.takeWhile_append_dropWhile, ← heq]
    · exact ⟨[], .none, rfl⟩

theorem scanPositional_spec {p : Char → Bool} {marker : Char} {cs rest : List Char}
    {v : Positional} (h : scanPositional p marker cs = some (v, rest)) :
    ∃ w, PositionalText p marker w v ∧ cs = w ++ rest := by
  simp only [scanPositional, Option.ite_none_left_eq_some, Option.some.injEq, Prod.mk.injEq] at h
  obtain ⟨hne, rfl, rfl⟩ := h
  obtain ⟨frac, hfrac, hfracEq⟩ := scanFraction_spec p (cs.dropWhile p)
  obtain ⟨ex, hexp, hexpEq⟩ := scanExponent_spec marker (scanFraction p (cs.dropWhile p)).2
  refine ⟨_, .mk (forall_mem_takeWhile cs) hfrac hne hexp, ?_⟩
  rw [List.append_assoc, List.append_assoc, ← hexpEq, ← hfracEq, List.takeWhile_append_dropWhile]

/-- An exponent text is read to its end. -/
theorem scanExponent_text {marker : Char} {w : List Char} {e : ℤ} (h : ExponentText marker w e) :
    scanExponent marker w = (e, []) := by
  cases h with
  | none => rfl
  | some hmarker hsign hne hdigits =>
    have hbody : Stops isSign _ := fun c hc =>
      isSign_of_isDigit (hdigits c (List.mem_of_mem_head? hc))
    have htake := takeWhile_append hdigits stops_nil
    have hdrop := dropWhile_append hdigits stops_nil
    rw [List.append_nil] at htake hdrop
    simp only [scanExponent, scanSign_append hsign hbody, htake, hdrop]
    rw [if_pos ⟨hmarker, hne⟩]

/-- The digits of class `p` end where a point or the letter `marker` stands. -/
structure Delimits (p : Char → Bool) (marker : Char) : Prop where
  point : p '.' = false
  letter : ∀ c : Char, c.toLower = marker → p c = false
  letter_ne_point : ∀ c : Char, c.toLower = marker → c ≠ '.'

variable {p : Char → Bool} {marker : Char}

theorem ExponentText.stops (hp : Delimits p marker) {w : List Char} {e : ℤ}
    (h : ExponentText marker w e) : Stops p w ∧ Stops (· = '.') w := by
  cases h with
  | none => exact ⟨stops_nil, stops_nil⟩
  | some hmarker hsign hne hdigits =>
    exact ⟨stops_cons.mpr (hp.letter _ hmarker),
      stops_cons.mpr (decide_eq_false (hp.letter_ne_point _ hmarker))⟩

theorem scanFraction_append {w digits rest : List Char} (h : FractionText p w digits)
    (hrest : Stops p rest) (hpoint : Stops (· = '.') rest) :
    scanFraction p (w ++ rest) = (digits, rest) := by
  cases h with
  | some hdigits =>
    rw [List.cons_append, scanFraction, takeWhile_append hdigits hrest,
      dropWhile_append hdigits hrest]
  | none =>
    unfold scanFraction
    split
    · next heq => simp [show rest = _ from heq] at hpoint
    · rfl

/-- A positional text is read to its end. -/
theorem scanPositional_text (hp : Delimits p marker) {w : List Char} {v : Positional}
    (h : PositionalText p marker w v) : scanPositional p marker w = some (v, []) := by
  obtain ⟨hwhole, hfrac, hne, hexp⟩ := h
  rename_i whole frac digits ex e
  obtain ⟨hstops, hpoint⟩ := hexp.stops hp
  have hbehind : Stops p (frac ++ ex) := by
    cases hfrac with
    | none => exact hstops
    | some hdigits => exact stops_cons.mpr hp.point
  simp only [scanPositional, takeWhile_append hwhole hbehind, dropWhile_append hwhole hbehind,
    scanFraction_append hfrac hstops hpoint, scanExponent_text hexp]
  rw [if_neg hne]

/-- The characters of a positional text. -/
theorem PositionalText.mem {w : List Char} {v : Positional} (h : PositionalText p marker w v)
    {c : Char} (hc : c ∈ w) :
    p c = true ∨ c = '.' ∨ c.toLower = marker ∨ isSign c = true ∨ c.isDigit = true := by
  obtain ⟨hwhole, hfrac, hne, hexp⟩ := h
  rcases List.mem_append.mp hc with hc | hc
  · exact Or.inl (hwhole c hc)
  rcases List.mem_append.mp hc with hc | hc
  · cases hfrac with
    | none => cases hc
    | some hdigits =>
      rcases List.mem_cons.mp hc with rfl | hc
      · exact Or.inr (Or.inl rfl)
      · exact Or.inl (hdigits c hc)
  · cases hexp with
    | none => cases hc
    | some hmarker hsign hne hdigits =>
      rcases List.mem_cons.mp hc with rfl | hc
      · exact Or.inr (Or.inr (Or.inl hmarker))
      rcases List.mem_append.mp hc with hc | hc
      · refine Or.inr (Or.inr (Or.inr (Or.inl ?_)))
        cases hsign with
        | none => cases hc
        | plus => rw [List.mem_singleton.mp hc]; rfl
        | minus => rw [List.mem_singleton.mp hc]; rfl
      · exact Or.inr (Or.inr (Or.inr (Or.inr (hdigits c hc))))

/-! ## 4. Floating-point texts -/

/-- What a floating-point text denotes, without its sign. -/
inductive Magnitude where
  | number (q : ℚ)
  | infinity
  | nan
deriving DecidableEq

namespace Positional

/-- The value of decimal digits with a decimal exponent. -/
def decimal (v : Positional) : ℚ :=
  Nat.ofDigitChars 10 (v.whole ++ v.frac) 0 * 10 ^ (v.exp - v.frac.length)

/-- The value of hexadecimal digits with a binary exponent. -/
def hexadecimal (v : Positional) : ℚ :=
  ofHexDigits (v.whole ++ v.frac) * 2 ^ (v.exp - 4 * v.frac.length)

end Positional

def scanHexadecimal : List Char → Option (Positional × List Char)
  | '0' :: x :: cs => if x.toLower = 'x' then scanPositional Char.isHexDigit 'p' cs else none
  | _ => none

/-- A hexadecimal number, or else a decimal one. -/
def scanNumber (cs : List Char) : Option (ℚ × List Char) :=
  match scanHexadecimal cs with
  | some (v, rest) => some (v.hexadecimal, rest)
  | none => (scanPositional Char.isDigit 'e' cs).map fun r => (r.1.decimal, r.2)

/-- The rest behind `word`, which may be written in either case. -/
def dropWord (word cs : List Char) : Option (List Char) :=
  if (cs.take word.length).map Char.toLower = word then some (cs.drop word.length) else none

/-- The rest behind a parenthesised sequence, which a NaN may have. -/
def dropNanSequence : List Char → List Char
  | '(' :: cs =>
    match cs.dropWhile isNanChar with
    | ')' :: rest => rest
    | _ => '(' :: cs
  | cs => cs

def scanWord (cs : List Char) : Option (Magnitude × List Char) :=
  match dropWord ['i', 'n', 'f', 'i', 'n', 'i', 't', 'y'] cs, dropWord ['i', 'n', 'f'] cs with
  | some rest, _ => some (.infinity, rest)
  | none, some rest => some (.infinity, rest)
  | none, none =>
    (dropWord ['n', 'a', 'n'] cs).map fun rest => (.nan, dropNanSequence rest)

def scanMagnitude (cs : List Char) : Option (Magnitude × List Char) :=
  match scanNumber cs with
  | some (q, rest) => some (.number q, rest)
  | none => scanWord cs

/-- `strtod(s, &end)`: the sign, the magnitude and the text from `end` on. -/
def strtod (s : List Char) : Option (Bool × Magnitude × List Char) :=
  let (neg, body) := scanSign (s.dropWhile isSpace)
  (scanMagnitude body).map fun r => (neg, r)

/-- A decimal or hexadecimal number, an infinity or a NaN. -/
inductive MagnitudeText : List Char → Magnitude → Prop where
  | decimal {w : List Char} {v : Positional} (h : PositionalText Char.isDigit 'e' w v) :
      MagnitudeText w (.number v.decimal)
  | hexadecimal {x : Char} {w : List Char} {v : Positional} (hx : x.toLower = 'x')
      (h : PositionalText Char.isHexDigit 'p' w v) :
      MagnitudeText ('0' :: x :: w) (.number v.hexadecimal)
  | infinity {w : List Char} (h : w.map Char.toLower = ['i', 'n', 'f', 'i', 'n', 'i', 't', 'y']) :
      MagnitudeText w .infinity
  | inf {w : List Char} (h : w.map Char.toLower = ['i', 'n', 'f']) : MagnitudeText w .infinity
  | nan {w : List Char} (h : w.map Char.toLower = ['n', 'a', 'n']) : MagnitudeText w .nan
  | nanSequence {w seq : List Char} (h : w.map Char.toLower = ['n', 'a', 'n'])
      (hseq : ∀ c ∈ seq, isNanChar c = true) : MagnitudeText (w ++ '(' :: (seq ++ [')'])) .nan

/-- Blanks, an optional sign and a magnitude. -/
inductive FloatText : List Char → Bool → Magnitude → Prop where
  | mk {blanks sign body : List Char} {neg : Bool} {m : Magnitude}
      (hblanks : ∀ c ∈ blanks, isSpace c = true) (hsign : SignText sign neg)
      (hbody : MagnitudeText body m) : FloatText (blanks ++ (sign ++ body)) neg m

/-! ### What is read has the form -/

theorem scanHexadecimal_spec {cs rest : List Char} {v : Positional}
    (h : scanHexadecimal cs = some (v, rest)) :
    ∃ x w, x.toLower = 'x' ∧ PositionalText Char.isHexDigit 'p' w v ∧
      cs = '0' :: x :: (w ++ rest) := by
  unfold scanHexadecimal at h
  split at h
  · next x cs =>
    obtain ⟨hx, hscan⟩ := Option.ite_none_right_eq_some.mp h
    obtain ⟨w, hw, rfl⟩ := scanPositional_spec hscan
    exact ⟨x, w, hx, hw, rfl⟩
  · cases h

theorem scanNumber_spec {cs : List Char} {q : ℚ} (h : scanNumber cs = some (q, [])) :
    MagnitudeText cs (.number q) := by
  unfold scanNumber at h
  split at h
  · next v rest hhex =>
    cases h
    obtain ⟨x, w, hx, hw, rfl⟩ := scanHexadecimal_spec hhex
    rw [List.append_nil]
    exact .hexadecimal hx hw
  · obtain ⟨⟨v, rest⟩, hdec, heq⟩ := Option.map_eq_some_iff.mp h
    cases heq
    obtain ⟨w, hw, rfl⟩ := scanPositional_spec hdec
    rw [List.append_nil]
    exact .decimal hw

theorem dropWord_spec {word cs rest : List Char} (h : dropWord word cs = some rest) :
    ∃ w, w.map Char.toLower = word ∧ cs = w ++ rest := by
  obtain ⟨hword, hrest⟩ := Option.ite_none_right_eq_some.mp h
  cases hrest
  exact ⟨_, hword, (List.take_append_drop word.length cs).symm⟩

theorem dropNanSequence_eq_nil {cs : List Char} (h : dropNanSequence cs = []) :
    cs = [] ∨ ∃ seq, (∀ c ∈ seq, isNanChar c = true) ∧ cs = '(' :: (seq ++ [')']) := by
  unfold dropNanSequence at h
  split at h
  · next cs =>
    split at h
    · next rest heq =>
      refine Or.inr ⟨cs.takeWhile isNanChar, forall_mem_takeWhile cs, ?_⟩
      rw [← h, ← heq, List.takeWhile_append_dropWhile]
    · cases h
  · exact Or.inl h

theorem scanWord_spec {cs : List Char} {m : Magnitude} (h : scanWord cs = some (m, [])) :
    MagnitudeText cs m := by
  unfold scanWord at h
  split at h
  · next rest hword =>
    cases h
    obtain ⟨w, hw, rfl⟩ := dropWord_spec hword
    rw [List.append_nil]
    exact .infinity hw
  · next rest _ hword =>
    cases h
    obtain ⟨w, hw, rfl⟩ := dropWord_spec hword
    rw [List.append_nil]
    exact .inf hw
  · obtain ⟨rest, hword, heq⟩ := Option.map_eq_some_iff.mp h
    obtain ⟨rfl, hrest⟩ := Prod.mk.inj heq
    obtain ⟨w, hw, rfl⟩ := dropWord_spec hword
    rcases dropNanSequence_eq_nil hrest with rfl | ⟨seq, hseq, rfl⟩
    · rw [List.append_nil]
      exact .nan hw
    · exact .nanSequence hw hseq

theorem scanMagnitude_spec {cs : List Char} {m : Magnitude}
    (h : scanMagnitude cs = some (m, [])) : MagnitudeText cs m := by
  unfold scanMagnitude at h
  split at h
  · next q rest hnum =>
    cases h
    exact scanNumber_spec hnum
  · exact scanWord_spec h

/-! ### What has the form is read -/

/-- A letter is in one of two ranges. -/
theorem letter_range {c l : Char} (hl : 97 ≤ l.toNat ∧ l.toNat ≤ 122) (h : c.toLower = l) :
    (97 ≤ c.toNat ∧ c.toNat ≤ 122) ∨ (65 ≤ c.toNat ∧ c.toNat ≤ 90) := by
  have hcase := toNat_of_toLower h
  omega

theorem isDigit_of_letter {c l : Char} (hl : 97 ≤ l.toNat ∧ l.toNat ≤ 122) (h : c.toLower = l) :
    c.isDigit = false := by
  have hrange := letter_range hl h
  rw [Bool.eq_false_iff]
  intro hd
  have hdigit := isDigit_iff.mp hd
  omega

theorem ne_point_of_letter {c l : Char} (hl : 97 ≤ l.toNat ∧ l.toNat ≤ 122)
    (h : c.toLower = l) : c ≠ '.' := by
  have hrange := letter_range hl h
  rintro rfl
  revert hrange
  decide

theorem delimits_decimal : Delimits Char.isDigit 'e' where
  point := by decide
  letter _ hc := isDigit_of_letter (by decide) hc
  letter_ne_point _ hc := ne_point_of_letter (by decide) hc

theorem isHexDigit_iff {c : Char} : c.isHexDigit = true ↔
    (c.isDigit = true ∨ 97 ≤ c.toNat ∧ c.toNat ≤ 102) ∨ 65 ≤ c.toNat ∧ c.toNat ≤ 70 := by
  simp only [Char.isHexDigit, Bool.or_eq_true, Bool.and_eq_true, decide_eq_true_eq, ge_iff_le,
    UInt32.le_iff_toNat_le]
  rfl

theorem delimits_hexadecimal : Delimits Char.isHexDigit 'p' where
  point := by decide
  letter c hc := by
    have hcase : c.toNat = 112 ∨ c.toNat + 32 = 112 := toNat_of_toLower hc
    rw [Bool.eq_false_iff]
    intro hd
    rcases isHexDigit_iff.mp hd with (hdigit | hlower) | hupper
    · exact absurd hdigit (Bool.eq_false_iff.mp (isDigit_of_letter (by decide) hc))
    · omega
    · omega
  letter_ne_point _ hc := ne_point_of_letter (by decide) hc

/-- No decimal text begins with `0x`. -/
theorem scanHexadecimal_decimal {w : List Char} {v : Positional}
    (h : PositionalText Char.isDigit 'e' w v) : scanHexadecimal w = none := by
  unfold scanHexadecimal
  split
  · next x cs =>
    refine if_neg ?_
    intro hx
    have hcase : x.toNat = 120 ∨ x.toNat + 32 = 120 := toNat_of_toLower hx
    have hdigit := Bool.eq_false_iff.mp (isDigit_of_letter (by decide) hx)
    rcases h.mem (c := x) (by simp) with hd | rfl | he | hs | hd
    · exact hdigit hd
    · exact absurd hcase (by decide)
    · exact absurd (hx.symm.trans he) (by decide)
    · simp only [isSign, Bool.or_eq_true, decide_eq_true_eq] at hs
      rcases hs with rfl | rfl
      · exact absurd hcase (by decide)
      · exact absurd hcase (by decide)
    · exact hdigit hd
  · rfl

/-- A text whose first character is neither a digit nor a point is no number. -/
theorem scanNumber_eq_none {c : Char} {cs : List Char} (hdigit : c.isDigit = false)
    (hpoint : c ≠ '.') : scanNumber (c :: cs) = none := by
  have hhex : scanHexadecimal (c :: cs) = none := by
    unfold scanHexadecimal
    split
    · next heq =>
      rw [(List.cons.inj heq).1] at hdigit
      exact absurd hdigit (by decide)
    · rfl
  have hfrac : scanFraction Char.isDigit (c :: cs) = ([], c :: cs) := by
    unfold scanFraction
    split
    · next heq => exact absurd (List.cons.inj heq).1 hpoint
    · rfl
  simp [scanNumber, hhex, scanPositional, hdigit, hfrac]

theorem dropWord_append {word w : List Char} (h : w.map Char.toLower = word)
    (rest : List Char) :
    dropWord word (w ++ rest) = some rest := by
  have hlen : word.length = w.length := by rw [← h, List.length_map]
  rw [dropWord, hlen, List.take_left, List.drop_left, if_pos h]

theorem dropWord_eq_none {l c : Char} {word cs : List Char} (h : c.toLower ≠ l) :
    dropWord (l :: word) (c :: cs) = none :=
  if_neg fun heq => h (List.cons.inj heq).1

/-- The letters of a word, each in one of its forms. -/
theorem exists_cons_of_map_toLower {w word : List Char} {l : Char}
    (h : w.map Char.toLower = l :: word) :
    ∃ c cs, w = c :: cs ∧ c.toLower = l ∧ cs.map Char.toLower = word := by
  obtain ⟨c, cs, rfl, hc, hcs⟩ := List.map_eq_cons_iff.mp h
  exact ⟨c, cs, rfl, hc, hcs⟩

theorem scanNumber_word {w word : List Char} {l : Char} (hl : 97 ≤ l.toNat ∧ l.toNat ≤ 122)
    (h : w.map Char.toLower = l :: word) (rest : List Char) :
    scanNumber (w ++ rest) = none := by
  obtain ⟨c, cs, rfl, hc, -⟩ := exists_cons_of_map_toLower h
  exact scanNumber_eq_none (isDigit_of_letter hl hc) (ne_point_of_letter hl hc)

theorem dropNanSequence_sequence {seq : List Char} (hseq : ∀ c ∈ seq, isNanChar c = true) :
    dropNanSequence ('(' :: (seq ++ [')'])) = [] := by
  rw [dropNanSequence, dropWhile_append hseq (stops_cons.mpr (by decide))]
  rfl

theorem scanWord_nan {w : List Char} (h : w.map Char.toLower = ['n', 'a', 'n'])
    (rest : List Char) :
    scanWord (w ++ rest) = some (.nan, dropNanSequence rest) := by
  have hdrop := dropWord_append h rest
  obtain ⟨c, cs, rfl, hc, -⟩ := exists_cons_of_map_toLower h
  have hne : c.toLower ≠ 'i' := by rw [hc]; decide
  rw [scanWord, hdrop, List.cons_append, dropWord_eq_none hne, dropWord_eq_none hne]
  rfl

theorem scanMagnitude_text {w : List Char} {m : Magnitude} (h : MagnitudeText w m) :
    scanMagnitude w = some (m, []) := by
  cases h with
  | decimal h =>
    simp [scanMagnitude, scanNumber, scanHexadecimal_decimal h,
      scanPositional_text delimits_decimal h]
  | hexadecimal hx h =>
    simp [scanMagnitude, scanNumber, scanHexadecimal, hx,
      scanPositional_text delimits_hexadecimal h]
  | infinity h =>
    have hnum := scanNumber_word (by decide) h []
    have hword := dropWord_append h []
    rw [List.append_nil] at hnum hword
    simp [scanMagnitude, hnum, scanWord, hword]
  | inf h =>
    have hnum := scanNumber_word (by decide) h []
    have hword := dropWord_append h []
    have hlong : dropWord ['i', 'n', 'f', 'i', 'n', 'i', 't', 'y'] w = none := by
      refine if_neg ?_
      intro heq
      have hlen : w.length = 3 := by rw [← List.length_map Char.toLower, h]; rfl
      rw [List.take_of_length_le (by rw [hlen]; decide), h] at heq
      exact absurd heq (by decide)
    rw [List.append_nil] at hnum hword
    simp [scanMagnitude, hnum, scanWord, hword, hlong]
  | nan h =>
    have hnum := scanNumber_word (by decide) h []
    have hword := scanWord_nan h []
    rw [List.append_nil] at hnum hword
    simp [scanMagnitude, hnum, hword, dropNanSequence]
  | nanSequence h hseq =>
    rw [scanMagnitude, scanNumber_word (by decide) h _]
    simp [scanWord_nan h _, dropNanSequence_sequence hseq]

/-- What stands before a magnitude does not begin one. -/
theorem scanMagnitude_eq_none {c : Char} {cs : List Char}
    (h : isSpace c = true ∨ isSign c = true) : scanMagnitude (c :: cs) = none := by
  have hnat : c.toNat = 32 ∨ 9 ≤ c.toNat ∧ c.toNat ≤ 13 ∨ c.toNat = 45 ∨ c.toNat = 43 := by
    rcases h with h | h
    · simp only [isSpace, Bool.or_eq_true, decide_eq_true_eq, Bool.and_eq_true] at h
      omega
    · simp only [isSign, Bool.or_eq_true, decide_eq_true_eq] at h
      rcases h with rfl | rfl
      · exact Or.inr (Or.inr (Or.inl rfl))
      · exact Or.inr (Or.inr (Or.inr rfl))
  have hdigit : c.isDigit = false := by
    rw [Bool.eq_false_iff]
    intro hd
    have hrange := isDigit_iff.mp hd
    omega
  have hpoint : c ≠ '.' := by
    rintro rfl
    exact absurd hnat (by decide)
  have hletter : ∀ l : Char, 97 ≤ l.toNat ∧ l.toNat ≤ 122 → c.toLower ≠ l := by
    intro l hl hc
    have hrange := letter_range hl hc
    omega
  rw [scanMagnitude, scanNumber_eq_none hdigit hpoint]
  simp [scanWord, dropWord_eq_none (hletter 'i' (by decide)),
    dropWord_eq_none (hletter 'n' (by decide))]

theorem MagnitudeText.stops {w : List Char} {m : Magnitude} (h : MagnitudeText w m) :
    Stops isSpace w ∧ Stops isSign w := by
  have hscan := scanMagnitude_text h
  cases w with
  | nil => exact ⟨stops_nil, stops_nil⟩
  | cons c cs =>
    have hnone : ¬ (isSpace c = true ∨ isSign c = true) := fun hc => by
      rw [scanMagnitude_eq_none hc] at hscan
      cases hscan
    rw [not_or, Bool.not_eq_true, Bool.not_eq_true] at hnone
    exact ⟨stops_cons.mpr hnone.1, stops_cons.mpr hnone.2⟩

/-- **`strtod` reads floating-point texts.**  It consumes a text to its end exactly when the
text has one of their forms, and it returns the sign and the magnitude that the form denotes. -/
theorem strtod_eq_some_nil_iff {s : List Char} {neg : Bool} {m : Magnitude} :
    strtod s = some (neg, m, []) ↔ FloatText s neg m := by
  constructor
  · intro h
    obtain ⟨blanks, sign, hblanks, hsign, heq⟩ := exists_blanks_sign s
    simp only [strtod, Option.map_eq_some_iff, Prod.mk.injEq, Prod.exists, existsAndEq,
      and_true] at h
    obtain ⟨hscan, hneg⟩ := h
    have htext : FloatText (blanks ++ (sign ++ _)) _ m :=
      .mk hblanks hsign (scanMagnitude_spec hscan)
    rwa [← heq, hneg] at htext
  · rintro ⟨hblanks, hsign, hbody⟩
    obtain ⟨hspace, hnosign⟩ := hbody.stops
    rw [strtod, scanSign_dropWhile_isSpace hblanks hsign hspace hnosign]
    simp [scanMagnitude_text hbody]

/-! ## 5. What no number contains

The characters of a number other than its leading blanks are ASCII characters from code 40 on. -/

/-- A NUL somewhere, or a blank at the end. -/
def Untidy (s : List Char) : Prop :=
  (∃ c ∈ s, c.toNat = 0) ∨ ∃ c ∈ s.getLast?, isSpace c = true

/-- An ASCII character from code 40 on. -/
def Visible (c : Char) : Prop := 40 ≤ c.toNat ∧ c.toNat < 128

instance (c : Char) : Decidable (Visible c) := inferInstanceAs (Decidable (_ ∧ _))

theorem isSpace_iff {c : Char} :
    isSpace c = true ↔ c.toNat = 32 ∨ 9 ≤ c.toNat ∧ c.toNat ≤ 13 := by
  simp only [isSpace, Bool.or_eq_true, Bool.and_eq_true, decide_eq_true_eq]

theorem visible_of_isDigit {c : Char} (h : c.isDigit = true) : Visible c := by
  have hnat := isDigit_iff.mp h
  unfold Visible
  omega

theorem visible_of_isHexDigit {c : Char} (h : c.isHexDigit = true) : Visible c := by
  rcases isHexDigit_iff.mp h with (hdigit | hlower) | hupper
  · exact visible_of_isDigit hdigit
  · unfold Visible
    omega
  · unfold Visible
    omega

theorem visible_of_isSign {c : Char} (h : isSign c = true) : Visible c := by
  simp only [isSign, Bool.or_eq_true, decide_eq_true_eq] at h
  rcases h with rfl | rfl <;> decide

theorem visible_of_isNanChar {c : Char} (h : isNanChar c = true) : Visible c := by
  have hcode : ∀ {d e : Char}, 40 ≤ d.toNat → e.toNat < 128 → d.val ≤ c.val → c.val ≤ e.val →
      Visible c := fun hd he hdc hce =>
    ⟨Nat.le_trans hd (UInt32.le_iff_toNat_le.mp hdc),
      Nat.lt_of_le_of_lt (UInt32.le_iff_toNat_le.mp hce) he⟩
  rcases (Bool.or_eq_true _ _).mp h with halnum | hunderscore
  · rcases (Bool.or_eq_true _ _).mp halnum with halpha | hdigit
    · rcases (Bool.or_eq_true _ _).mp halpha with hupper | hlower
      · have hrange := of_decide_eq_true hupper
        exact hcode (d := 'A') (e := 'Z') (by decide) (by decide) hrange.1 hrange.2
      · have hrange := (Bool.and_eq_true _ _).mp hlower
        exact hcode (d := 'a') (e := 'z') (by decide) (by decide)
          (of_decide_eq_true hrange.1) (of_decide_eq_true hrange.2)
    · exact visible_of_isDigit hdigit
  · rw [of_decide_eq_true hunderscore]
    decide

theorem visible_of_toLower {c l : Char} (hl : 97 ≤ l.toNat ∧ l.toNat ≤ 122) (h : c.toLower = l) :
    Visible c := by
  have hrange := letter_range hl h
  unfold Visible
  omega

/-- The letters of a word in either case. -/
theorem visible_of_word {w word : List Char} (h : w.map Char.toLower = word)
    (hword : ∀ l ∈ word, 97 ≤ l.toNat ∧ l.toNat ≤ 122) {c : Char} (hc : c ∈ w) : Visible c := by
  have hmem : c.toLower ∈ word := h ▸ List.mem_map_of_mem hc
  exact visible_of_toLower (hword _ hmem) rfl

theorem SignText.visible {sign : List Char} {neg : Bool} (h : SignText sign neg) {c : Char}
    (hc : c ∈ sign) : Visible c := by
  cases h with
  | none => cases hc
  | plus => rw [List.mem_singleton.mp hc]; decide
  | minus => rw [List.mem_singleton.mp hc]; decide

theorem PositionalText.visible {w : List Char} {v : Positional} (h : PositionalText p marker w v)
    (hp : ∀ c, p c = true → Visible c) (hmarker : 97 ≤ marker.toNat ∧ marker.toNat ≤ 122)
    {c : Char} (hc : c ∈ w) : Visible c := by
  rcases h.mem hc with hcp | rfl | hlower | hsign | hdigit
  · exact hp c hcp
  · decide
  · exact visible_of_toLower hmarker hlower
  · exact visible_of_isSign hsign
  · exact visible_of_isDigit hdigit

theorem MagnitudeText.visible {w : List Char} {m : Magnitude} (h : MagnitudeText w m) {c : Char}
    (hc : c ∈ w) : Visible c := by
  cases h with
  | decimal h => exact h.visible (fun _ => visible_of_isDigit) (by decide) hc
  | hexadecimal hx h =>
    rcases List.mem_cons.mp hc with rfl | hc
    · decide
    rcases List.mem_cons.mp hc with rfl | hc
    · exact visible_of_toLower (by decide) hx
    · exact h.visible (fun _ => visible_of_isHexDigit) (by decide) hc
  | infinity h => exact visible_of_word h (by simp) hc
  | inf h => exact visible_of_word h (by simp) hc
  | nan h => exact visible_of_word h (by simp) hc
  | nanSequence h hseq =>
    rcases List.mem_append.mp hc with hc | hc
    · exact visible_of_word h (by simp) hc
    rcases List.mem_cons.mp hc with rfl | hc
    · decide
    rcases List.mem_append.mp hc with hc | hc
    · exact visible_of_isNanChar (hseq c hc)
    · rw [List.mem_singleton.mp hc]
      decide

theorem MagnitudeText.ne_nil {w : List Char} {m : Magnitude} (h : MagnitudeText w m) :
    w ≠ [] := by
  rintro rfl
  have hscan := scanMagnitude_text h
  have hnone : scanMagnitude [] = none := by decide
  rw [hnone] at hscan
  cases hscan

/-- Leading blanks, and visible characters up to the end. -/
def Tidy (s : List Char) : Prop :=
  ∃ blanks body, s = blanks ++ body ∧ body ≠ [] ∧ (∀ c ∈ blanks, isSpace c = true) ∧
    ∀ c ∈ body, Visible c

theorem IntegerText.tidy {s : List Char} {n : ℤ} (h : IntegerText s n) : Tidy s := by
  obtain ⟨hblanks, hsign, hne, hdigits⟩ := h
  refine ⟨_, _, rfl, List.append_ne_nil_of_right_ne_nil _ hne, hblanks, ?_⟩
  intro c hc
  rcases List.mem_append.mp hc with hc | hc
  · exact hsign.visible hc
  · exact visible_of_isDigit (hdigits c hc)

theorem FloatText.tidy {s : List Char} {neg : Bool} {m : Magnitude} (h : FloatText s neg m) :
    Tidy s := by
  obtain ⟨hblanks, hsign, hbody⟩ := h
  refine ⟨_, _, rfl, List.append_ne_nil_of_right_ne_nil _ hbody.ne_nil, hblanks, ?_⟩
  intro c hc
  rcases List.mem_append.mp hc with hc | hc
  · exact hsign.visible hc
  · exact hbody.visible hc

/-- Blanks are ASCII characters too. -/
theorem Tidy.ascii {s : List Char} (h : Tidy s) : ∀ c ∈ s, c.toNat < 128 := by
  obtain ⟨blanks, body, rfl, -, hblanks, hbody⟩ := h
  intro c hc
  rcases List.mem_append.mp hc with hc | hc
  · have hspace := isSpace_iff.mp (hblanks c hc)
    omega
  · exact (hbody c hc).2

theorem Tidy.not_untidy {s : List Char} (h : Tidy s) : ¬ Untidy s := by
  obtain ⟨blanks, body, rfl, hne, hblanks, hbody⟩ := h
  rintro (⟨c, hc, hnul⟩ | ⟨c, hlast, hspace⟩)
  · rcases List.mem_append.mp hc with hc | hc
    · have hblank := isSpace_iff.mp (hblanks c hc)
      omega
    · have hcode := (hbody c hc).1
      omega
  · rw [List.getLast?_append, List.getLast?_eq_some_getLast hne, Option.some_or] at hlast
    have hcode := (hbody c (Option.some.inj hlast ▸ List.getLast_mem hne)).1
    have hspace := isSpace_iff.mp hspace
    omega

end Strto
