/-
# JSON documents

The abstract syntax of a JSON text.  A number is kept as its token, a string as its content
and an object as its members in document order, with repetitions.

`Json.get?` follows a path into a document.  Of the members with one key the last one is taken,
as parsers that build a dictionary do.
-/
import Mathlib.Data.Int.Basic
import MoneroPython.Lib.Assoc

/-! ## 1. Number tokens -/

namespace JsonText

/-- A non-empty run of decimal digits. -/
structure Digits where
  head : Fin 10
  tail : List (Fin 10)
deriving DecidableEq

def Digits.text (ds : Digits) : List Char := (ds.head :: ds.tail).map fun d => Nat.digitChar d

/-- The exponent part of a number: `e` or `E`, an optional sign and digits. -/
structure Exponent where
  upper : Bool
  sign : Option Bool
  digits : Digits
deriving DecidableEq

def Exponent.text (ex : Exponent) : List Char :=
  (if ex.upper then 'E' else 'e') ::
    (match ex.sign with
      | none => []
      | some neg => [if neg then '-' else '+']) ++ ex.digits.text

/-- A number token: its sign, its integer part (which JSON writes without leading zeros), its
fraction and its exponent. -/
structure NumToken where
  neg : Bool := false
  int : ℕ
  frac : Option Digits := none
  exp : Option Exponent := none
deriving DecidableEq

namespace NumToken

def fracText (t : NumToken) : List Char :=
  match t.frac with
  | none => []
  | some ds => '.' :: ds.text

def expText (t : NumToken) : List Char :=
  match t.exp with
  | none => []
  | some ex => ex.text

def text (t : NumToken) : List Char :=
  (if t.neg then ['-'] else []) ++ Nat.toDigits 10 t.int ++ t.fracText ++ t.expText

/-- An integer token has no fraction and no exponent. -/
def IsInteger (t : NumToken) : Prop := t.frac = none ∧ t.exp = none

instance (t : NumToken) : Decidable t.IsInteger := inferInstanceAs (Decidable (_ ∧ _))

/-- The value of an integer token. -/
def value (t : NumToken) : ℤ := if t.neg then -(t.int : ℤ) else t.int

theorem IsInteger.text_eq {t : NumToken} (h : t.IsInteger) :
    t.text = (if t.neg then ['-'] else []) ++ Nat.toDigits 10 t.int := by
  simp [text, fracText, expText, h.1, h.2]

end NumToken

end JsonText

/-! ## 2. Documents -/

/-- A JSON document. -/
inductive Json where
  | null
  | bool (b : Bool)
  | num (t : JsonText.NumToken)
  | str (s : String)
  | arr (es : List Json)
  | obj (ms : List (String × Json))

namespace Json

/-- Induction over a document: what holds of the elements of an array, or of the values of an
object, holds of the array or the object. -/
@[elab_as_elim]
theorem induct {P : Json → Prop} (null : P .null) (bool : ∀ b, P (.bool b))
    (num : ∀ t, P (.num t)) (str : ∀ s, P (.str s))
    (arr : ∀ es, (∀ e ∈ es, P e) → P (.arr es))
    (obj : ∀ ms, (∀ m ∈ ms, P m.2) → P (.obj ms)) : ∀ d, P d
  | .null => null
  | .bool b => bool b
  | .num t => num t
  | .str s => str s
  | .arr es => arr es fun e _he => induct null bool num str arr obj e
  | .obj ms => obj ms fun m _hm => induct null bool num str arr obj m.2
termination_by d => sizeOf d
decreasing_by
  · have hlt := List.sizeOf_lt_of_mem _he
    simp only [Json.arr.sizeOf_spec]
    omega
  · have hlt := List.sizeOf_lt_of_mem _hm
    obtain ⟨k, v⟩ := m
    simp only [Prod.mk.sizeOf_spec, Json.obj.sizeOf_spec] at hlt ⊢
    omega

/-! ## 3. Paths -/

/-- One step into a document. -/
inductive Step where
  | index (i : ℕ)
  | key (k : String)
deriving DecidableEq

/-- The part of a document that one step leads to. -/
def step? : Step → Json → Option Json
  | .index i, .arr es => es[i]?
  | .key k, .obj ms => Assoc.lookupLast k ms
  | _, _ => none

/-- The part of a document at the end of a path. -/
def get? : List Step → Json → Option Json
  | [], d => some d
  | step :: p, d => (d.step? step).bind (get? p)

theorem get?_cons (step : Step) (p : List Step) (d : Json) :
    d.get? (step :: p) = (d.step? step).bind (get? p) := rfl

end Json
