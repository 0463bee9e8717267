/-
# The arguments of a bound function

pybind11 casts the arguments of a call to the parameter types of a lambda.  This module has the
Python objects that are passed, the parameter types of the overloaded bindings, and `casters`, which
casts between them without and with conversions.

Three things come from the repository: the caster of `boost::optional`
(`common/py_monero_common.h`), the class hierarchy (`py_monero_types.h`), and that the bound vectors
are opaque types with an implicit conversion from every iterable
(`py_monero_bind_vectors_and_maps`).  The other casters are pybind11's and are assumed of it, as it
documents them.

A conversion to a vector iterates over its argument and stops at the first element that it cannot
cast.  A list starts anew each time, but an iterator goes on where it was left, so iterators are
kept in a heap.

Left out are `bytes`, strings with lone surrogates, numbers other than `int` and `float`, subclasses
of bound classes with an `__iter__`, `__bool__` or `__index__` of their own, iterators without an
end, and iterables that yield something else the second time.
-/
import Mathlib.Algebra.Ring.Int.Defs
import MoneroPython.Lib.Overload

namespace MoneroPython.Dispatch

open Overload

variable {ρ : Type}

/-! ## 1. Python objects -/

/-- The bound classes with instances that overloaded functions take. -/
inductive PyClass where
  | rpcConnection | sslOptions | walletConfig | txConfig | walletListener | txWallet | txQuery
  | transferQuery | outputQuery | other
deriving DecidableEq

/-- `py::class_<monero_tx_query, monero_tx_wallet, ...>` is the only derivation among them. -/
def PyClass.isA (c d : PyClass) : Bool := c = d || (c = .txQuery && d = .txWallet)

/-- The integer types of the parameters. -/
inductive IntType where
  | int | uint16 | uint32 | uint64
deriving DecidableEq

def IntType.Holds (n : ℤ) : IntType → Prop
  | .int => -2 ^ 31 ≤ n ∧ n < 2 ^ 31
  | .uint16 => 0 ≤ n ∧ n < 2 ^ 16
  | .uint32 => 0 ≤ n ∧ n < 2 ^ 32
  | .uint64 => 0 ≤ n ∧ n < 2 ^ 64

instance (n : ℤ) (t : IntType) : Decidable (t.Holds n) := by
  cases t <;> exact inferInstanceAs (Decidable (_ ∧ _))

/-- A value of an integer type. -/
def IntType.Value (t : IntType) : Type := { n : ℤ // t.Holds n }

def IntType.cast (t : IntType) (n : ℤ) : Option t.Value :=
  if h : t.Holds n then some ⟨n, h⟩ else none

/-- The element types of the vectors that are parameters. -/
inductive ElementType where
  | str
  | int (t : IntType)
  | txWallet
deriving DecidableEq

/-- A `VectorString`, a vector of integers or a `VectorMoneroTxWallet`, which may hold null
pointers. -/
inductive BoundVector (ρ : Type) where
  | strings (l : List String)
  | ints (t : IntType) (l : List t.Value)
  | txWallets (l : List (Option ρ))

/-- A Python object that is passed.  Of a `float` only counts whether it is zero, and `truth` is the
result of `__bool__` where a class has it. -/
inductive PyArg (ρ : Type) where
  | pyNone
  | bool (b : Bool)
  | int (n : ℤ)
  | float (nonzero : Bool)
  | str (s : String)
  | object (cls : PyClass) (r : ρ)
  | vector (v : BoundVector ρ)
  | iterable (truth : Option Bool) (es : List (PyArg ρ))
  | iterator (i : ℕ)

/-- What each iterator will still yield. -/
def PyHeap (ρ : Type) : Type := ℕ → List (PyArg ρ)

instance : Inhabited (PyHeap ρ) := ⟨fun _ => []⟩

def PyHeap.set (heap : PyHeap ρ) (i : ℕ) (es : List (PyArg ρ)) : PyHeap ρ :=
  fun j => if j = i then es else heap j

@[simp] theorem PyHeap.set_self (heap : PyHeap ρ) (i : ℕ) (es : List (PyArg ρ)) :
    heap.set i es i = es := if_pos rfl

/-! ## 2. Parameter types -/

inductive CppType where
  | bool
  | int (t : IntType)
  | str
  | optional (t : CppType)
  | reference (cls : PyClass)
  | sharedPtr (cls : PyClass)
  | vector (t : ElementType)
deriving DecidableEq

/-- What a lambda receives.  `null` is `boost::none` and the null pointer. -/
inductive CppValue (ρ : Type) where
  | bool (b : Bool)
  | int (t : IntType) (v : t.Value)
  | str (s : String)
  | null
  | object (r : ρ)
  | vector (v : BoundVector ρ)

/-! ## 3. Elements -/

/-- `__bool__`, which strings and lists do not have. -/
def PyArg.truth : PyArg ρ → Option Bool
  | .pyNone => some false
  | .bool b => some b
  | .int n => some (n != 0)
  | .float nonzero => some nonzero
  | .vector (.strings l) => some !l.isEmpty
  | .vector (.ints _ l) => some !l.isEmpty
  | .vector (.txWallets l) => some !l.isEmpty
  | .iterable truth _ => truth
  | _ => none

def PyArg.asStr : PyArg ρ → Option String
  | .str s => some s
  | _ => none

/-- `True` and `False` are integers. -/
def PyArg.asInt (t : IntType) : PyArg ρ → Option t.Value
  | .int n => t.cast n
  | .bool b => t.cast (if b then 1 else 0)
  | _ => none

def PyArg.asTxWallet : PyArg ρ → Option (Option ρ)
  | .pyNone => some none
  | .object cls r => if cls.isA .txWallet then some (some r) else none
  | _ => none

/-- The elements up to the first one that cannot be cast, and what is left after it. -/
def castAll {β : Type} (f : PyArg ρ → Option β) : List (PyArg ρ) → Option (List β) × List (PyArg ρ)
  | [] => (some [], [])
  | e :: es =>
    match f e with
    | none => (none, es)
    | some b => ((castAll f es).1.map (b :: ·), (castAll f es).2)

/-- The constructor of a vector from an iterable. -/
def BoundVector.build (es : List (PyArg ρ)) :
    ElementType → Option (BoundVector ρ) × List (PyArg ρ)
  | .str => ((castAll PyArg.asStr es).1.map .strings, (castAll PyArg.asStr es).2)
  | .int t => ((castAll (PyArg.asInt t) es).1.map (.ints t), (castAll (PyArg.asInt t) es).2)
  | .txWallet => ((castAll PyArg.asTxWallet es).1.map .txWallets, (castAll PyArg.asTxWallet es).2)

def BoundVector.elementType : BoundVector ρ → ElementType
  | .strings _ => .str
  | .ints t _ => .int t
  | .txWallets _ => .txWallet

/-- What iterating over a vector yields. -/
def BoundVector.elements : BoundVector ρ → List (PyArg ρ)
  | .strings l => l.map .str
  | .ints _ l => l.map fun v => .int v.1
  | .txWallets l => l.map fun p => p.elim .pyNone (.object .txWallet)

/-- A string yields its characters. -/
def characters (s : String) : List String := s.toList.map String.singleton

/-- What iterating over an argument yields. -/
def PyArg.yields (heap : PyHeap ρ) : PyArg ρ → Option (List (PyArg ρ))
  | .str s => some ((characters s).map .str)
  | .vector v => some v.elements
  | .iterable _ es => some es
  | .iterator i => some (heap i)
  | _ => none

/-- An iteration has stopped before `es`. -/
def PyArg.leave (heap : PyHeap ρ) (es : List (PyArg ρ)) : PyArg ρ → PyHeap ρ
  | .iterator i => heap.set i es
  | _ => heap

/-- An implicit conversion: every iterable can become a vector. -/
def fromIterable (t : ElementType) (a : PyArg ρ) (heap : PyHeap ρ) :
    Option (BoundVector ρ) × PyHeap ρ :=
  match a.yields heap with
  | none => (none, heap)
  | some es => ((BoundVector.build es t).1, a.leave heap (BoundVector.build es t).2)

/-- Strings are what is cast to strings. -/
theorem castAll_asStr {es : List (PyArg ρ)} {l : List String}
    (h : (castAll PyArg.asStr es).1 = some l) : es = l.map .str := by
  induction es generalizing l with
  | nil =>
    cases h
    rfl
  | cons e es ih =>
    cases e with
    | str s =>
      obtain ⟨l', hl', rfl⟩ := Option.map_eq_some_iff.mp h
      rw [List.map_cons, ← ih hl']
    | _ => cases h

theorem castAll_asStr_map (l : List String) :
    castAll (ρ := ρ) PyArg.asStr (l.map .str) = (some l, []) := by
  induction l with
  | nil => rfl
  | cons s l ih => simp only [List.map_cons, castAll, PyArg.asStr, ih, Option.map_some]

theorem build_str_eq_some {es : List (PyArg ρ)} {v : BoundVector ρ}
    (h : (BoundVector.build es .str).1 = some v) : ∃ l, v = .strings l ∧ es = l.map .str := by
  obtain ⟨l, hl, rfl⟩ := Option.map_eq_some_iff.mp h
  exact ⟨l, rfl, castAll_asStr hl⟩

theorem build_str_map (l : List String) :
    BoundVector.build (l.map .str) .str = (some (BoundVector.strings l : BoundVector ρ), []) := by
  rw [BoundVector.build, castAll_asStr_map, Option.map_some]

/-! ## 4. The casters -/

/-- Without conversions. -/
def CppType.exact : CppType → PyArg ρ → Option (CppValue ρ)
  | .bool, .bool b => some (.bool b)
  | .int t, a => (a.asInt t).map (.int t)
  | .str, a => a.asStr.map .str
  | .optional _, .pyNone => some .null
  | .optional t, a => t.exact a
  | .reference d, .object c r => if c.isA d then some (.object r) else none
  | .sharedPtr d, .object c r => if c.isA d then some (.object r) else none
  | .vector t, .vector v => if v.elementType = t then some (.vector v) else none
  | _, _ => none

/-- With conversions.  `None` is a null pointer, but no reference. -/
def CppType.convert : CppType → PyArg ρ → PyHeap ρ → Option (CppValue ρ) × PyHeap ρ
  | .bool, a, heap => (a.truth.map .bool, heap)
  | .optional _, .pyNone, heap => (some .null, heap)
  | .optional t, a, heap => t.convert a heap
  | .sharedPtr _, .pyNone, heap => (some .null, heap)
  | .vector t, a, heap =>
    match CppType.exact (.vector t) a with
    | some v => (some v, heap)
    | none => ((fromIterable t a heap).1.map .vector, (fromIterable t a heap).2)
  | t, a, heap => (t.exact a, heap)

theorem CppType.convert_of_exact {t : CppType} {a : PyArg ρ} {v : CppValue ρ}
    (h : t.exact a = some v) (heap : PyHeap ρ) : t.convert a heap = (some v, heap) := by
  induction t with
  | bool =>
    cases a with
    | bool b =>
      cases h
      rfl
    | _ => cases h
  | int t => rw [convert, h]; all_goals exact nofun
  | str => rw [convert, h]; all_goals exact nofun
  | optional t ih =>
    cases a with
    | pyNone =>
      cases h
      rfl
    | _ => exact ih h
  | reference cls => rw [convert, h]; all_goals exact nofun
  | sharedPtr cls =>
    cases a with
    | pyNone => cases h
    | _ => rw [convert, h]; all_goals exact nofun
  | vector t => rw [convert, h]

/-- The casters of the bindings. -/
def casters : Casters CppType (PyArg ρ) (CppValue ρ) (PyHeap ρ) where
  exact := CppType.exact
  convert := CppType.convert
  convert_of_exact := CppType.convert_of_exact

/-! ## 5. Types that share no argument -/

inductive ArgKind where
  | pyNone | bool | int | float | str | object | vector | iterable | iterator
deriving DecidableEq

def PyArg.kind : PyArg ρ → ArgKind
  | .pyNone => .pyNone
  | .bool _ => .bool
  | .int _ => .int
  | .float _ => .float
  | .str _ => .str
  | .object _ _ => .object
  | .vector _ => .vector
  | .iterable _ _ => .iterable
  | .iterator _ => .iterator

/-- The arguments that a type may accept, conversions included. -/
def CppType.kinds : CppType → List ArgKind
  | .bool => [.pyNone, .bool, .int, .float, .vector, .iterable]
  | .int _ => [.bool, .int]
  | .str => [.str]
  | .optional t => .pyNone :: t.kinds
  | .reference _ => [.object]
  | .sharedPtr _ => [.pyNone, .object]
  | .vector _ => [.str, .vector, .iterable, .iterator]

theorem CppType.refuses_of_notMem {t : CppType} {a : PyArg ρ} (h : a.kind ∉ t.kinds) :
    casters.Refuses t a := by
  intro heap
  change t.convert a heap = (none, heap)
  induction t with
  | optional t ih =>
    have hne : a.kind ≠ .pyNone ∧ a.kind ∉ t.kinds := by simpa [kinds] using h
    cases a with
    | pyNone => exact absurd rfl hne.1
    | _ => exact ih hne.2
  | _ =>
    cases a <;> first
      | rfl
      | exact absurd (by simp [PyArg.kind, kinds]) h

/-- No kind of argument is for both. -/
def CppType.disjoint (t u : CppType) : Bool := t.kinds.all fun k => !u.kinds.contains k

theorem CppType.refuses_or_refuses (t u : CppType) (h : t.disjoint u = true) (a : PyArg ρ) :
    casters.Refuses t a ∨ casters.Refuses u a := by
  by_cases hmem : a.kind ∈ t.kinds
  · have hnot := List.all_eq_true.mp h a.kind hmem
    rw [Bool.not_eq_true', ← Bool.not_eq_true, List.contains_iff_mem] at hnot
    exact Or.inr (refuses_of_notMem hnot)
  · exact Or.inl (refuses_of_notMem hmem)

end MoneroPython.Dispatch
