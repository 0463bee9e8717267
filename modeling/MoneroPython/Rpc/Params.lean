/-
# `PyMoneroRequestParams::to_rapidjson_val`

The parameters of an RPC request are any Python object.  They pass three stages
(`common/py_monero_common.cpp`): `PyGenUtils::serialize` takes a `py::dict`, so pybind11 calls
`dict(p)` on anything that is not a dictionary; `json.dumps` prints the dictionary; and
rapidjson parses the text, leaving the document null when it cannot.  No stage looks at what
the one before has made of the object.

The text between the last two stages is kept as a syntax tree whose strings are the code units
that `json.dumps` escapes and rapidjson reads.  Which double rapidjson reads a number as is a
parameter: its default conversion does not round correctly.

The parsed document is local.  Its root is swapped into the value that is returned, but the members
of the root stay in the pool of the document, which is freed on return.  `faithful_iff` is the
outcome: an object that neither `dict()` nor `json.dumps` refuses arrives as it is exactly when it
is an empty dictionary or another empty mapping.

What the document holds before it is destroyed has losses of its own (`parsed_denotes_iff`): it is
the dictionary exactly when there is no float in it that is infinite, not a number or read as
another one, no unpaired surrogate and no integer outside `[-2 ^ 63, 2 ^ 64)`.
-/
import MoneroPython.Lib.Utf16
import MoneroPython.Rpc.Convert

namespace MoneroPython.Rpc

open Utf16

/-! ## 1. Python objects -/

/-- A key of a Python dictionary; `other` is a key that `json.dumps` does not accept. -/
inductive PyKey where
  | str (s : List CodePoint)
  | int (n : ℤ)
  | float (d : Double)
  | bool (b : Bool)
  | pyNone
  | other
deriving DecidableEq

/-- A Python object.  A `mapping` is an object with keys that is no dictionary, an `iterable`
one that can be iterated over and is neither a list nor a tuple.  `object` is everything else,
and a reference back to a container that is being printed. -/
inductive PyVal where
  | pyNone
  | bool (b : Bool)
  | int (n : ℤ)
  | float (d : Double)
  | str (s : List CodePoint)
  | list (es : List PyVal)
  | tuple (es : List PyVal)
  | dict (items : List (PyKey × PyVal))
  | mapping (items : List (PyKey × PyVal))
  | iterable (es : List PyVal)
  | object

/-- The number that a key is equal to, whatever its type. -/
def PyKey.norm : PyKey → PyKey
  | .bool b => .int (if b then 1 else 0)
  | .float (.finite neg q) =>
    if q.den = 1 then .int (if neg then -q.num else q.num) else .float (.finite neg q)
  | k => k

/-- Keys that a dictionary does not tell apart. -/
def PyKey.same (k k' : PyKey) : Bool :=
  k.norm = k'.norm && k ≠ .float .nan && k ≠ .other

/-- `d[k] = v`; the key that is there stays. -/
def dictAssign (k : PyKey) (v : PyVal) : List (PyKey × PyVal) → List (PyKey × PyVal)
  | [] => [(k, v)]
  | (k', v') :: d => if k'.same k then (k', v) :: d else (k', v') :: dictAssign k v d

def PyKey.val : PyKey → PyVal
  | .str s => .str s
  | .int n => .int n
  | .float d => .float d
  | .bool b => .bool b
  | .pyNone => .pyNone
  | .other => .object

/-- The object as a key; lists and dictionaries cannot be hashed. -/
def PyVal.asKey : PyVal → Option PyKey
  | .str s => some (.str s)
  | .int n => some (.int n)
  | .float d => some (.float d)
  | .bool b => some (.bool b)
  | .pyNone => some .pyNone
  | .list _ => none
  | .dict _ => none
  | _ => some .other

/-- What iterating over the object yields. -/
def PyVal.iter : PyVal → Option (List PyVal)
  | .list es => some es
  | .tuple es => some es
  | .iterable es => some es
  | .str s => some (s.map fun c => .str [c])
  | .dict items => some (items.map fun item => item.1.val)
  | .mapping items => some (items.map fun item => item.1.val)
  | _ => none

/-- The loop of `dict(pairs)`. -/
def dictOfPairs : List PyVal → List (PyKey × PyVal) → Option (List (PyKey × PyVal))
  | [], d => some d
  | e :: es, d =>
    match e.iter with
    | some [k, v] => k.asKey.bind fun key => dictOfPairs es (dictAssign key v d)
    | _ => none

/-- The conversion to `py::dict`, or nothing when `dict(p)` raises. -/
def dictOf : PyVal → Option (List (PyKey × PyVal))
  | .dict items => some items
  | .mapping items => some items
  | p => p.iter.bind fun es => dictOfPairs es []

/-! ## 2. `json.dumps` -/

/-- What printing depends on besides the object: `float.__repr__`, and whether a limit of the
interpreter (on recursion, on the digits of an `int`) stops it. -/
structure PythonRuntime where
  floatRepr : Bool → ℚ → String
  overLimit : List (PyKey × PyVal) → Bool

inductive NumberToken where
  | int (n : ℤ)
  | float (neg : Bool) (magnitude : ℚ)
deriving DecidableEq

/-- The text that `json.dumps` prints. -/
inductive Dumped where
  | null
  | bool (b : Bool)
  | num (t : NumberToken)
  | nan
  | infinity (neg : Bool)
  | str (units : List ℕ)
  | arr (es : List Dumped)
  | obj (ms : List (List ℕ × Dumped))

variable (rt : PythonRuntime)

/-- The string that a key is printed as, or nothing for a `TypeError`. -/
def keyText : PyKey → Option (List ℕ)
  | .str s => some (encode s)
  | .int n => some (encode (ofString (toString n)))
  | .float (.finite neg q) => some (encode (ofString (rt.floatRepr neg q)))
  | .float (.infinity neg) => some (encode (ofString (if neg then "-Infinity" else "Infinity")))
  | .float .nan => some (encode (ofString "NaN"))
  | .bool b => some (encode (ofString (if b then "true" else "false")))
  | .pyNone => some (encode (ofString "null"))
  | .other => none

mutual

/-- What is printed for an object, or nothing when `json.dumps` raises. -/
def dumps : PyVal → Option Dumped
  | .pyNone => some .null
  | .bool b => some (.bool b)
  | .int n => some (.num (.int n))
  | .float (.finite neg q) => some (.num (.float neg q))
  | .float (.infinity neg) => some (.infinity neg)
  | .float .nan => some .nan
  | .str s => some (.str (encode s))
  | .list es => (dumpsElements es).map .arr
  | .tuple es => (dumpsElements es).map .arr
  | .dict items => (dumpsItems items).map .obj
  | .mapping _ => none
  | .iterable _ => none
  | .object => none

def dumpsElements : List PyVal → Option (List Dumped)
  | [] => some []
  | e :: es => (dumps e).bind fun t => (dumpsElements es).map (t :: ·)

def dumpsItems : List (PyKey × PyVal) → Option (List (List ℕ × Dumped))
  | [] => some []
  | (k, v) :: items =>
    (keyText rt k).bind fun name =>
      (dumps v).bind fun t => (dumpsItems items).map ((name, t) :: ·)

end

/-- `PyGenUtils::serialize`. -/
def serialize (d : List (PyKey × PyVal)) : Option Dumped :=
  if rt.overLimit d then none else dumps rt (.dict d)

/-! ## 3. Reading the text -/

def parseString (units : List ℕ) : Option String := (decode units).map String.ofList

/-- What a reader of JSON makes of the parts of a text; a number can be too big for it. -/
structure Reader (V : Type) where
  null : V
  bool : Bool → V
  num : NumberToken → Option V
  str : String → V
  arr : List V → V
  obj : List (String × V) → V

section Reader

variable {V : Type} (rd : Reader V)

mutual

/-- The value that is read, or nothing for a parse error. -/
def Reader.read : Dumped → Option V
  | .null => some rd.null
  | .bool b => some (rd.bool b)
  | .num t => rd.num t
  | .nan => none
  | .infinity _ => none
  | .str units => (parseString units).map rd.str
  | .arr es => (Reader.readElements es).map rd.arr
  | .obj ms => (Reader.readMembers ms).map rd.obj

def Reader.readElements : List Dumped → Option (List V)
  | [] => some []
  | e :: es => (Reader.read e).bind fun v => (Reader.readElements es).map (v :: ·)

def Reader.readMembers : List (List ℕ × Dumped) → Option (List (String × V))
  | [] => some []
  | (units, e) :: ms =>
    (parseString units).bind fun name =>
      (Reader.read e).bind fun v => (Reader.readMembers ms).map ((name, v) :: ·)

end

end Reader

/-! ## 4. rapidjson -/

/-- The tree of a `rapidjson::Value`. -/
inductive RapidValue where
  | null
  | bool (b : Bool)
  | int (n : ℤ)
  | double (d : Double)
  | string (s : String)
  | array (vs : List RapidValue)
  | object (ms : List (String × RapidValue))

/-- The integers that rapidjson stores as integers. -/
def IsInt64 (n : ℤ) : Prop := -2 ^ 63 ≤ n ∧ n < 2 ^ 64

instance (n : ℤ) : Decidable (IsInt64 n) := inferInstanceAs (Decidable (_ ∧ _))

/-- The pool that holds the elements and members of a value. -/
inductive Pool where
  | caller
  | document
deriving DecidableEq

/-- A `rapidjson::Value` that a function returns. -/
structure Root where
  tree : RapidValue
  pool : Pool

/-- Whether a value has anything in its pool. -/
def RapidValue.usesPool : RapidValue → Bool
  -- A short text lies in the value itself; a root that is returned is never a text.
  | .string _ => true
  | .array vs => !vs.isEmpty
  | .object ms => !ms.isEmpty
  | _ => false

/-- What the caller can read of the value.  The pool of the local document is gone. -/
def Root.read (root : Root) : Option RapidValue :=
  if root.pool = .document ∧ root.tree.usesPool then none else some root.tree

-- The double that rapidjson reads a number as, or nothing when the number is too big.
variable (readDouble : NumberToken → Option Double)

/-- `Document::Parse` with default flags. -/
def rapidjson : Reader RapidValue where
  null := .null
  bool := .bool
  num
    | .int n => if IsInt64 n then some (.int n) else (readDouble (.int n)).map .double
    | .float neg q => (readDouble (.float neg q)).map .double
  str := .string
  arr := .array
  obj := .object

/-- `PyMoneroRequestParams::to_rapidjson_val`, or nothing when an exception is raised.  The local
document stays null when the text cannot be parsed; `root.Swap(doc)` takes over its tree, and
nothing is copied into the pool of the caller. -/
def toRapidjsonVal : PyVal → Option Root
  | .pyNone => some { tree := .object [], pool := .caller }
  | p =>
    (dictOf p).bind fun d =>
      (serialize rt d).map fun text =>
        { tree := ((rapidjson readDouble).read text).getD .null, pool := .document }

/-! ## 5. What should arrive -/

/-- `v` is the JSON value that the object denotes: containers of the same kind with the same
elements or members in order, numbers with the same value, strings with the same code units and
keys as `json.dumps` prints them. -/
inductive Denotes : PyVal → RapidValue → Prop where
  | pyNone : Denotes .pyNone .null
  | bool (b : Bool) : Denotes (.bool b) (.bool b)
  | int (n : ℤ) : Denotes (.int n) (.int n)
  | float (neg : Bool) (q : ℚ) :
    Denotes (.float (.finite neg q)) (.double (.finite neg q))
  | str {s : List CodePoint} {t : String} (h : encode s = encode (ofString t)) :
    Denotes (.str s) (.string t)
  | list {es : List PyVal} {vs : List RapidValue} (h : List.Forall₂ Denotes es vs) :
    Denotes (.list es) (.array vs)
  | tuple {es : List PyVal} {vs : List RapidValue} (h : List.Forall₂ Denotes es vs) :
    Denotes (.tuple es) (.array vs)
  | dict {items : List (PyKey × PyVal)} {ms : List (String × RapidValue)}
    (hkeys : List.Forall₂ (fun k name => keyText rt k = some (encode (ofString name)))
      (items.map Prod.fst) (ms.map Prod.fst))
    (hvals : List.Forall₂ Denotes (items.map Prod.snd) (ms.map Prod.snd)) :
    Denotes (.dict items) (.object ms)
  | mapping {items : List (PyKey × PyVal)} {v : RapidValue} (h : Denotes (.dict items) v) :
    Denotes (.mapping items) v

/-- Either an exception is raised or what the caller reads is what `p` denotes, `None` being the
empty object. -/
def Faithful (p : PyVal) : Prop :=
  ∀ root, toRapidjsonVal rt readDouble p = some root →
    ∃ v, root.read = some v ∧ (p = .pyNone ∧ v = .object [] ∨ p ≠ .pyNone ∧ Denotes rt p v)

/-- `dict(p)` or `json.dumps` raises. -/
def Raises (p : PyVal) : Prop := ∀ d, dictOf p = some d → serialize rt d = none

/-- A key that can be parsed. -/
def SendableKey : PyKey → Prop
  | .str s => Paired s
  | .other => False
  | _ => True

/-- Every float is finite and read as the same one, no string or key has an unpaired surrogate, and
no integer is too large. -/
inductive Sendable : PyVal → Prop where
  | pyNone : Sendable .pyNone
  | bool (b : Bool) : Sendable (.bool b)
  | int {n : ℤ} (h : IsInt64 n) : Sendable (.int n)
  | float {neg : Bool} {q : ℚ} (h : readDouble (.float neg q) = some (.finite neg q)) :
    Sendable (.float (.finite neg q))
  | str {s : List CodePoint} (h : Paired s) : Sendable (.str s)
  | list {es : List PyVal} (h : ∀ e ∈ es, Sendable e) : Sendable (.list es)
  | tuple {es : List PyVal} (h : ∀ e ∈ es, Sendable e) : Sendable (.tuple es)
  | dict {items : List (PyKey × PyVal)} (hkeys : ∀ item ∈ items, SendableKey item.1)
    (hvals : ∀ item ∈ items, Sendable item.2) : Sendable (.dict items)

/-! ## 6. Printing and reading together -/

section Transfer

variable {V : Type}

/-- An object through `json.dumps` and a reader. -/
def transfer (rd : Reader V) (v : PyVal) : Option V := (dumps rt v).bind rd.read

/-- An item of a dictionary through both. -/
def transferItem (rd : Reader V) (item : PyKey × PyVal) : Option (String × V) :=
  ((keyText rt item.1).bind parseString).bind fun name => (transfer rt rd item.2).map (name, ·)

variable {rt} {rd : Reader V}

theorem transfer_eq_some {v : PyVal} {r : V} :
    transfer rt rd v = some r ↔ ∃ t, dumps rt v = some t ∧ rd.read t = some r :=
  Option.bind_eq_some_iff

theorem transferItem_eq_some {item : PyKey × PyVal} {m : String × V} :
    transferItem rt rd item = some m ↔
      (∃ units, keyText rt item.1 = some units ∧ parseString units = some m.1) ∧
        transfer rt rd item.2 = some m.2 := by
  obtain ⟨name, r⟩ := m
  simp only [transferItem, Option.bind_eq_some_iff, Option.map_eq_some_iff, Prod.mk.injEq]
  constructor
  · rintro ⟨_, hname, _, hr, rfl, rfl⟩
    exact ⟨hname, hr⟩
  · rintro ⟨hname, hr⟩
    exact ⟨name, hname, r, hr, rfl, rfl⟩

theorem transferElements_eq_some {es : List PyVal} {vs : List V} :
    (dumpsElements rt es).bind rd.readElements = some vs ↔
      List.Forall₂ (fun e v => transfer rt rd e = some v) es vs := by
  induction es generalizing vs with
  | nil => simp [dumpsElements, Reader.readElements, eq_comm]
  | cons e es ih =>
    rw [List.forall₂_cons_left_iff]
    constructor
    · intro h
      obtain ⟨_, hdump, hread⟩ := Option.bind_eq_some_iff.mp h
      simp only [dumpsElements, Option.bind_eq_some_iff, Option.map_eq_some_iff] at hdump
      obtain ⟨t, ht, ts, hts, rfl⟩ := hdump
      simp only [Reader.readElements, Option.bind_eq_some_iff, Option.map_eq_some_iff] at hread
      obtain ⟨v, hv, vs, hvs, rfl⟩ := hread
      exact ⟨v, vs, transfer_eq_some.mpr ⟨t, ht, hv⟩,
        ih.mp (Option.bind_eq_some_iff.mpr ⟨ts, hts, hvs⟩), rfl⟩
    · rintro ⟨v, vs, he, hes, rfl⟩
      obtain ⟨t, ht, hv⟩ := transfer_eq_some.mp he
      obtain ⟨ts, hts, hvs⟩ := Option.bind_eq_some_iff.mp (ih.mpr hes)
      simp [dumpsElements, Reader.readElements, ht, hts, hv, hvs]

theorem transferItems_eq_some {items : List (PyKey × PyVal)} {ms : List (String × V)} :
    (dumpsItems rt items).bind rd.readMembers = some ms ↔
      List.Forall₂ (fun item m => transferItem rt rd item = some m) items ms := by
  induction items generalizing ms with
  | nil => simp [dumpsItems, Reader.readMembers, eq_comm]
  | cons item items ih =>
    obtain ⟨k, v⟩ := item
    rw [List.forall₂_cons_left_iff]
    constructor
    · intro h
      obtain ⟨_, hdump, hread⟩ := Option.bind_eq_some_iff.mp h
      simp only [dumpsItems, Option.bind_eq_some_iff, Option.map_eq_some_iff] at hdump
      obtain ⟨units, hunits, t, ht, ts, hts, rfl⟩ := hdump
      simp only [Reader.readMembers, Option.bind_eq_some_iff, Option.map_eq_some_iff] at hread
      obtain ⟨name, hname, r, hr, ms, hms, rfl⟩ := hread
      exact ⟨(name, r), ms,
        transferItem_eq_some.mpr ⟨⟨units, hunits, hname⟩, transfer_eq_some.mpr ⟨t, ht, hr⟩⟩,
        ih.mp (Option.bind_eq_some_iff.mpr ⟨ts, hts, hms⟩), rfl⟩
    · rintro ⟨m, ms, hitem, hitems, rfl⟩
      obtain ⟨⟨units, hunits, hname⟩, htransfer⟩ := transferItem_eq_some.mp hitem
      obtain ⟨t, ht, hr⟩ := transfer_eq_some.mp htransfer
      obtain ⟨ts, hts, hms⟩ := Option.bind_eq_some_iff.mp (ih.mpr hitems)
      simp [dumpsItems, Reader.readMembers, hunits, hname, ht, hr, hts, hms]

/-- A container is printed and read part by part and wrapped again at the end. -/
theorem map_bind_eq_map {α β γ δ : Type} {o : Option α} {wrap : α → β} {p : β → Option γ}
    {q : α → Option δ} {mk : δ → γ} (h : ∀ a, p (wrap a) = (q a).map mk) :
    (o.map wrap).bind p = (o.bind q).map mk := by
  cases o with
  | none => rfl
  | some a => exact h a

theorem transfer_list_eq_some {es : List PyVal} {v : V} :
    transfer rt rd (.list es) = some v ↔
      ∃ vs, List.Forall₂ (fun e v => transfer rt rd e = some v) es vs ∧ v = rd.arr vs := by
  have hlist : transfer rt rd (.list es) =
      ((dumpsElements rt es).bind rd.readElements).map rd.arr := by
    rw [transfer, dumps]
    exact map_bind_eq_map fun ts => by rw [Reader.read]
  rw [hlist, Option.map_eq_some_iff]
  refine exists_congr fun vs => ?_
  rw [transferElements_eq_some, eq_comm (a := v)]

/-- A tuple is printed like a list. -/
theorem transfer_tuple (es : List PyVal) : transfer rt rd (.tuple es) = transfer rt rd (.list es) :=
  rfl

theorem transfer_dict_eq_some {items : List (PyKey × PyVal)} {v : V} :
    transfer rt rd (.dict items) = some v ↔
      ∃ ms, List.Forall₂ (fun item m => transferItem rt rd item = some m) items ms ∧
        v = rd.obj ms := by
  have hdict : transfer rt rd (.dict items) =
      ((dumpsItems rt items).bind rd.readMembers).map rd.obj := by
    rw [transfer, dumps]
    exact map_bind_eq_map fun ts => by rw [Reader.read]
  rw [hdict, Option.map_eq_some_iff]
  refine exists_congr fun ms => ?_
  rw [transferItems_eq_some, eq_comm (a := v)]

theorem transfer_str_eq_some {s : List CodePoint} {v : V} :
    transfer rt rd (.str s) = some v ↔ ∃ t, parseString (encode s) = some t ∧ v = rd.str t := by
  have hstr : transfer rt rd (.str s) = (parseString (encode s)).map rd.str := by
    rw [transfer, dumps, Option.bind_some, Reader.read]
  rw [hstr, Option.map_eq_some_iff]
  simp only [eq_comm (a := v)]

/-- What has been serialized is read as the dictionary is. -/
theorem read_serialize {d : List (PyKey × PyVal)} {text : Dumped}
    (h : serialize rt d = some text) : rd.read text = transfer rt rd (.dict d) := by
  rw [serialize, Option.ite_none_left_eq_some] at h
  rw [transfer, h.2, Option.bind_some]

end Transfer

/-- Strings whose surrogates are paired arrive with their code units, the others do not. -/
theorem parseString_encode (s : List CodePoint) :
    (Paired s → ∃ t, parseString (encode s) = some t ∧ encode s = encode (ofString t)) ∧
      ∀ t, parseString (encode s) = some t → Paired s := by
  obtain ⟨hback, hnone⟩ := decode_encode s
  constructor
  · intro hs
    obtain ⟨t, hdec, henc⟩ := hback hs
    refine ⟨String.ofList t, by rw [parseString, hdec, Option.map_some], ?_⟩
    rw [ofString, String.toList_ofList, henc]
  · intro t ht
    by_contra hs
    rw [parseString, hnone hs, Option.map_none] at ht
    cases ht

/-- What a key is printed as, when it can be parsed: a name with the same code units. -/
theorem exists_name_of_sendableKey (rt : PythonRuntime) {k : PyKey} (h : SendableKey k) :
    ∃ name, (keyText rt k).bind parseString = some name ∧
      keyText rt k = some (encode (ofString name)) := by
  have htext : ∃ s, Paired s ∧ keyText rt k = some (encode s) := by
    cases k with
    | str s => exact ⟨s, h, rfl⟩
    | int n => exact ⟨_, paired_ofString _, rfl⟩
    | float d =>
      cases d with
      | finite neg q => exact ⟨_, paired_ofString _, rfl⟩
      | infinity neg => exact ⟨_, paired_ofString _, rfl⟩
      | nan => exact ⟨_, paired_ofString _, rfl⟩
    | bool b => exact ⟨_, paired_ofString _, rfl⟩
    | pyNone => exact ⟨_, paired_ofString _, rfl⟩
    | other => exact h.elim
  obtain ⟨s, hs, hk⟩ := htext
  obtain ⟨name, hname, henc⟩ := (parseString_encode s).1 hs
  exact ⟨name, by rw [hk, Option.bind_some, hname], by rw [hk, henc]⟩

theorem sendableKey_of_name {k : PyKey} {units : List ℕ} {name : String}
    (hk : keyText rt k = some units) (hname : parseString units = some name) : SendableKey k := by
  cases k with
  | str s =>
    cases hk
    exact (parseString_encode s).2 name hname
  | other => cases hk
  | _ => trivial

theorem exists_forall₂ {α β : Type} {R : α → β → Prop} {l : List α} (h : ∀ a ∈ l, ∃ b, R a b) :
    ∃ l', List.Forall₂ R l l' := by
  induction l with
  | nil => exact ⟨[], .nil⟩
  | cons a l ih =>
    obtain ⟨b, hb⟩ := h a (by simp)
    obtain ⟨l', hl'⟩ := ih fun a' ha' => h a' (List.mem_cons_of_mem a ha')
    exact ⟨b :: l', .cons hb hl'⟩

/-- What holds of each element for the value in its place. -/
theorem forall_mem_of_forall₂ {α β : Type} {R S : α → β → Prop} {P : α → Prop} {l : List α}
    {l' : List β} (h : ∀ a ∈ l, ∀ b, R a b → S a b → P a) (hR : List.Forall₂ R l l')
    (hS : List.Forall₂ S l l') : ∀ a ∈ l, P a := by
  induction hR with
  | nil => exact List.forall_mem_nil _
  | @cons a b l l' hab _ ih =>
    obtain ⟨hab', hS'⟩ := List.forall₂_cons.mp hS
    rw [List.forall_mem_cons]
    exact ⟨h a (by simp) b hab hab', ih (fun a' ha' => h a' (List.mem_cons_of_mem a ha')) hS'⟩

/-- Induction over what `json.dumps` goes into. -/
@[elab_as_elim]
theorem PyVal.induct {P : PyVal → Prop} (list : ∀ es, (∀ e ∈ es, P e) → P (.list es))
    (tuple : ∀ es, (∀ e ∈ es, P e) → P (.tuple es))
    (dict : ∀ items, (∀ item ∈ items, P item.2) → P (.dict items))
    (rest : ∀ v, (∀ es, v ≠ .list es) → (∀ es, v ≠ .tuple es) → (∀ items, v ≠ .dict items) → P v) :
    ∀ v, P v
  | .list es => list es fun e _he => induct list tuple dict rest e
  | .tuple es => tuple es fun e _he => induct list tuple dict rest e
  | .dict items => dict items fun item _hitem => induct list tuple dict rest item.2
  | .pyNone => rest _ nofun nofun nofun
  | .bool _ => rest _ nofun nofun nofun
  | .int _ => rest _ nofun nofun nofun
  | .float _ => rest _ nofun nofun nofun
  | .str _ => rest _ nofun nofun nofun
  | .mapping _ => rest _ nofun nofun nofun
  | .iterable _ => rest _ nofun nofun nofun
  | .object => rest _ nofun nofun nofun
termination_by v => sizeOf v
decreasing_by
  · have hlt := List.sizeOf_lt_of_mem _he
    simp only [PyVal.list.sizeOf_spec]
    omega
  · have hlt := List.sizeOf_lt_of_mem _he
    simp only [PyVal.tuple.sizeOf_spec]
    omega
  · have hlt := List.sizeOf_lt_of_mem _hitem
    obtain ⟨k, v⟩ := item
    simp only [Prod.mk.sizeOf_spec, PyVal.dict.sizeOf_spec] at hlt ⊢
    omega

/-! ## 7. What the document holds -/

variable {rt} {readDouble}

theorem rapidjson_int (n : ℤ) :
    transfer rt (rapidjson readDouble) (.int n) =
      if IsInt64 n then some (.int n) else (readDouble (.int n)).map .double :=
  rfl

theorem rapidjson_float (neg : Bool) (q : ℚ) :
    transfer rt (rapidjson readDouble) (.float (.finite neg q)) =
      (readDouble (.float neg q)).map .double :=
  rfl

/-- **What can be sent is parsed** as the value that the object denotes. -/
theorem Sendable.transfer {v : PyVal} (h : Sendable readDouble v) :
    ∃ r, Rpc.transfer rt (rapidjson readDouble) v = some r ∧ Denotes rt v r := by
  induction h with
  | pyNone => exact ⟨.null, rfl, .pyNone⟩
  | bool b => exact ⟨.bool b, rfl, .bool b⟩
  | @int n hn => exact ⟨.int n, by rw [rapidjson_int, if_pos hn], .int n⟩
  | @float neg q h =>
    exact ⟨.double (.finite neg q), by rw [rapidjson_float, h, Option.map_some], .float neg q⟩
  | @str s hs =>
    obtain ⟨t, ht, henc⟩ := (parseString_encode s).1 hs
    exact ⟨.string t, transfer_str_eq_some.mpr ⟨t, ht, rfl⟩, .str henc⟩
  | @list es _ ih =>
    obtain ⟨vs, hvs⟩ := exists_forall₂ ih
    exact ⟨.array vs, transfer_list_eq_some.mpr ⟨vs, hvs.imp fun _ _ => And.left, rfl⟩,
      .list (hvs.imp fun _ _ => And.right)⟩
  | @tuple es _ ih =>
    obtain ⟨vs, hvs⟩ := exists_forall₂ ih
    rw [transfer_tuple]
    exact ⟨.array vs, transfer_list_eq_some.mpr ⟨vs, hvs.imp fun _ _ => And.left, rfl⟩,
      .tuple (hvs.imp fun _ _ => And.right)⟩
  | @dict items hkeys _ ih =>
    have hitems : ∀ item ∈ items, ∃ m, transferItem rt (rapidjson readDouble) item = some m ∧
        keyText rt item.1 = some (encode (ofString m.1)) ∧ Denotes rt item.2 m.2 := by
      intro item hitem
      obtain ⟨name, hname, hkey⟩ := exists_name_of_sendableKey rt (hkeys item hitem)
      obtain ⟨r, hr, hden⟩ := ih item hitem
      refine ⟨(name, r), transferItem_eq_some.mpr ⟨?_, hr⟩, hkey, hden⟩
      exact Option.bind_eq_some_iff.mp hname
    obtain ⟨ms, hms⟩ := exists_forall₂ hitems
    refine ⟨.object ms, transfer_dict_eq_some.mpr ⟨ms, hms.imp fun _ _ => And.left, rfl⟩,
      .dict ?_ ?_⟩
    · rw [List.forall₂_map_left_iff, List.forall₂_map_right_iff]
      exact hms.imp fun _ _ h => h.2.1
    · rw [List.forall₂_map_left_iff, List.forall₂_map_right_iff]
      exact hms.imp fun _ _ h => h.2.2

/-- **Only what can be sent is parsed** as the value that the object denotes. -/
theorem sendable_of_transfer {v : PyVal} {r : RapidValue}
    (htransfer : transfer rt (rapidjson readDouble) v = some r) (hden : Denotes rt v r) :
    Sendable readDouble v := by
  induction v using PyVal.induct generalizing r with
  | list es ih =>
    obtain ⟨vs, hvs, rfl⟩ := transfer_list_eq_some.mp htransfer
    cases hden with
    | list h => exact .list (forall_mem_of_forall₂ (fun e he v => ih e he) hvs h)
  | tuple es ih =>
    rw [transfer_tuple] at htransfer
    obtain ⟨vs, hvs, rfl⟩ := transfer_list_eq_some.mp htransfer
    cases hden with
    | tuple h => exact .tuple (forall_mem_of_forall₂ (fun e he v => ih e he) hvs h)
  | dict items ih =>
    obtain ⟨ms, hms, rfl⟩ := transfer_dict_eq_some.mp htransfer
    cases hden with
    | dict hkeys hvals =>
      rw [List.forall₂_map_left_iff, List.forall₂_map_right_iff] at hkeys hvals
      refine .dict (forall_mem_of_forall₂ ?_ hms hkeys) (forall_mem_of_forall₂ ?_ hms hvals)
      · intro item _ m hm _
        obtain ⟨⟨units, hk, hname⟩, -⟩ := transferItem_eq_some.mp hm
        exact sendableKey_of_name rt hk hname
      · intro item hitem m hm hden
        exact ih item hitem (transferItem_eq_some.mp hm).2 hden
  | rest v hlist htuple hdict =>
    cases hden with
    | pyNone => exact .pyNone
    | bool b => exact .bool b
    | int n =>
      refine .int ?_
      by_contra hn
      rw [rapidjson_int, if_neg hn, Option.map_eq_some_iff] at htransfer
      obtain ⟨_, -, h⟩ := htransfer
      cases h
    | float neg q =>
      rw [rapidjson_float, Option.map_eq_some_iff] at htransfer
      obtain ⟨d, hd, h⟩ := htransfer
      cases h
      exact .float hd
    | str h =>
      obtain ⟨t, ht, -⟩ := transfer_str_eq_some.mp htransfer
      exact .str ((parseString_encode _).2 t ht)
    | list h => exact absurd rfl (hlist _)
    | tuple h => exact absurd rfl (htuple _)
    | dict hkeys hvals => exact absurd rfl (hdict _)
    | mapping h => cases htransfer

/-- What is returned for an object other than `None`: the tree of its dictionary, or null when that
cannot be parsed, in the pool of the document. -/
theorem toRapidjsonVal_eq_some {p : PyVal} (hp : p ≠ .pyNone) {root : Root} :
    toRapidjsonVal rt readDouble p = some root ↔
      ∃ d, dictOf p = some d ∧ serialize rt d ≠ none ∧ root.pool = .document ∧
        root.tree = (transfer rt (rapidjson readDouble) (.dict d)).getD .null := by
  have hbody : toRapidjsonVal rt readDouble p =
      (dictOf p).bind fun d =>
        (serialize rt d).map fun text =>
          { tree := ((rapidjson readDouble).read text).getD .null, pool := .document } := by
    cases p with
    | pyNone => exact absurd rfl hp
    | _ => rfl
  rw [hbody, Option.bind_eq_some_iff]
  refine exists_congr fun d => and_congr_right fun _ => ?_
  obtain ⟨tree, pool⟩ := root
  simp only [Option.map_eq_some_iff, Root.mk.injEq]
  constructor
  · rintro ⟨text, htext, rfl, rfl⟩
    refine ⟨?_, rfl, by rw [read_serialize htext]⟩
    rw [htext]
    exact nofun
  · rintro ⟨hne, rfl, rfl⟩
    obtain ⟨text, htext⟩ := Option.ne_none_iff_exists'.mp hne
    exact ⟨text, htext, by rw [read_serialize htext], rfl⟩

/-- Only `None` denotes null. -/
theorem not_denotes_null {p : PyVal} (hp : p ≠ .pyNone) : ¬ Denotes rt p .null := by
  intro h
  cases h with
  | pyNone => exact hp rfl
  | mapping h => cases h

/-- Only dictionaries and other mappings denote objects. -/
theorem Denotes.of_object {p : PyVal} {ms : List (String × RapidValue)}
    (h : Denotes rt p (.object ms)) :
    ∃ items, (p = .dict items ∨ p = .mapping items) ∧ Denotes rt (.dict items) (.object ms) := by
  cases h with
  | dict hkeys hvals => exact ⟨_, Or.inl rfl, .dict hkeys hvals⟩
  | mapping h => exact ⟨_, Or.inr rfl, h⟩

/-- The pairs of a dictionary or another mapping are its own. -/
theorem dictOf_eq {p : PyVal} {items : List (PyKey × PyVal)}
    (hitems : p = .dict items ∨ p = .mapping items) : p ≠ .pyNone ∧ dictOf p = some items := by
  rcases hitems with rfl | rfl
  · exact ⟨nofun, rfl⟩
  · exact ⟨nofun, rfl⟩

theorem exists_dictOf_of_not_raises {p : PyVal} (h : ¬ Raises rt p) :
    ∃ d, dictOf p = some d ∧ serialize rt d ≠ none := by
  by_contra hno
  push Not at hno
  exact h hno

/-- A tree that `p` denotes is an object, and `p` a mapping with its items. -/
theorem exists_items_of_denotes {p : PyVal} (hp : p ≠ .pyNone) {d : List (PyKey × PyVal)}
    (hd : dictOf p = some d)
    (hden : Denotes rt p ((transfer rt (rapidjson readDouble) (.dict d)).getD .null)) :
    (p = .dict d ∨ p = .mapping d) ∧
      ∃ ms, transfer rt (rapidjson readDouble) (.dict d) = some (.object ms) ∧
        Denotes rt (.dict d) (.object ms) := by
  cases htransfer : transfer rt (rapidjson readDouble) (.dict d) with
  | none =>
    rw [htransfer] at hden
    exact absurd hden (not_denotes_null hp)
  | some r =>
    rw [htransfer, Option.getD_some] at hden
    obtain ⟨ms, -, rfl⟩ := transfer_dict_eq_some.mp htransfer
    obtain ⟨items, hitems, hdict⟩ := hden.of_object
    obtain rfl : items = d := Option.some.inj ((dictOf_eq hitems).2.symm.trans hd)
    exact ⟨hitems, ms, rfl, hdict⟩

/-- **What the document holds.**  Unless an exception is raised, its tree is what `p` denotes if and
only if `p` is a dictionary, or another mapping, with nothing in it that rapidjson rejects or reads
as something else. -/
theorem parsed_denotes_iff {p : PyVal} (hp : p ≠ .pyNone) :
    (∀ root, toRapidjsonVal rt readDouble p = some root → Denotes rt p root.tree) ↔
      Raises rt p ∨
        ∃ items, (p = .dict items ∨ p = .mapping items) ∧ Sendable readDouble (.dict items) := by
  constructor
  · intro h
    rw [or_iff_not_imp_left]
    intro hraise
    obtain ⟨d, hd, hser⟩ := exists_dictOf_of_not_raises hraise
    have hden := h ⟨_, .document⟩ ((toRapidjsonVal_eq_some hp).mpr ⟨d, hd, hser, rfl, rfl⟩)
    obtain ⟨hitems, ms, htransfer, hdict⟩ := exists_items_of_denotes hp hd hden
    exact ⟨d, hitems, sendable_of_transfer htransfer hdict⟩
  · rintro (hraise | ⟨items, hitems, hsendable⟩) root hroot
    · obtain ⟨d, hd, hser, -⟩ := (toRapidjsonVal_eq_some hp).mp hroot
      exact absurd (hraise d hd) hser
    · obtain ⟨d, hd, -, -, htree⟩ := (toRapidjsonVal_eq_some hp).mp hroot
      obtain rfl : d = items := Option.some.inj (hd.symm.trans (dictOf_eq hitems).2)
      obtain ⟨r, hr, hden⟩ : ∃ r, transfer rt (rapidjson readDouble) (.dict d) = some r ∧
          Denotes rt (.dict d) r := hsendable.transfer
      rw [htree, hr, Option.getD_some]
      rcases hitems with rfl | rfl
      · exact hden
      · exact .mapping hden

/-! ## 8. What the caller reads -/

theorem Root.read_eq_some {root : Root} {v : RapidValue} :
    root.read = some v ↔ ¬ (root.pool = .document ∧ root.tree.usesPool) ∧ root.tree = v := by
  rw [Root.read, Option.ite_none_left_eq_some, Option.some.injEq]

/-- An object in the pool of the document is read when it has no members. -/
theorem read_object_iff {ms : List (String × RapidValue)} :
    (Root.mk (.object ms) .document).read = some (.object ms) ↔ ms = [] := by
  rw [Root.read_eq_some]
  cases ms <;> simp [RapidValue.usesPool]

/-- Only an empty dictionary denotes the empty object. -/
theorem Denotes.eq_nil {items : List (PyKey × PyVal)} (h : Denotes rt (.dict items) (.object [])) :
    items = [] := by
  cases h with
  | dict hkeys _ =>
    rw [List.map_nil, List.forall₂_nil_right_iff, List.map_eq_nil_iff] at hkeys
    exact hkeys

/-- What arrives faithfully from an object that raises nothing is empty. -/
theorem Faithful.eq_empty {p : PyVal} (h : Faithful rt readDouble p) (hp : p ≠ .pyNone)
    (hraise : ¬ Raises rt p) : p = .dict [] ∨ p = .mapping [] := by
  obtain ⟨d, hd, hser⟩ := exists_dictOf_of_not_raises hraise
  obtain ⟨tree, htree⟩ :
      ∃ tree, tree = (transfer rt (rapidjson readDouble) (.dict d)).getD .null := ⟨_, rfl⟩
  obtain ⟨v, hread, hv⟩ := h ⟨tree, .document⟩
    ((toRapidjsonVal_eq_some hp).mpr ⟨d, hd, hser, rfl, htree⟩)
  obtain rfl : tree = v := (Root.read_eq_some.mp hread).2
  have hden : Denotes rt p tree := by
    rcases hv with ⟨hnone, -⟩ | ⟨-, hden⟩
    · exact absurd hnone hp
    · exact hden
  obtain ⟨hitems, ms, htransfer, hdict⟩ := exists_items_of_denotes hp hd (htree ▸ hden)
  rw [htransfer, Option.getD_some] at htree
  subst htree
  obtain rfl := read_object_iff.mp hread
  obtain rfl := hdict.eq_nil
  exact hitems

/-- `None` arrives as the empty object. -/
theorem faithful_pyNone : Faithful rt readDouble .pyNone := by
  intro root hroot
  cases hroot
  exact ⟨.object [], rfl, Or.inl ⟨rfl, rfl⟩⟩

/-- So does an empty mapping. -/
theorem faithful_of_empty {p : PyVal} (h : p = .dict [] ∨ p = .mapping []) :
    Faithful rt readDouble p := by
  obtain ⟨hp, hdict⟩ := dictOf_eq h
  rintro ⟨tree, pool⟩ hroot
  obtain ⟨d, hd, -, hpool, htree⟩ := (toRapidjsonVal_eq_some hp).mp hroot
  obtain rfl : d = [] := Option.some.inj (hd.symm.trans hdict)
  have hempty : transfer rt (rapidjson readDouble) (.dict []) = some (.object []) :=
    transfer_dict_eq_some.mpr ⟨[], .nil, rfl⟩
  rw [hempty, Option.getD_some] at htree
  subst hpool htree
  refine ⟨.object [], read_object_iff.mpr rfl, Or.inr ⟨hp, ?_⟩⟩
  have hden : Denotes rt (.dict []) (.object []) := .dict .nil .nil
  rcases h with rfl | rfl
  · exact hden
  · exact .mapping hden

variable (rt) (readDouble) in
/-- **Parameters are sent faithfully or not at all** if and only if they are `None`, or
`dict(p)` or `json.dumps` raises, or they are an empty dictionary or another empty mapping.  The
members of any other dictionary are gone when the caller reads them. -/
theorem faithful_iff (p : PyVal) :
    Faithful rt readDouble p ↔ p = .pyNone ∨ Raises rt p ∨ p = .dict [] ∨ p = .mapping [] := by
  constructor
  · intro h
    rcases Classical.em (p = .pyNone) with hp | hp
    · exact Or.inl hp
    rcases Classical.em (Raises rt p) with hraise | hraise
    · exact Or.inr (Or.inl hraise)
    · exact Or.inr (Or.inr (h.eq_empty hp hraise))
  · intro h
    rcases Classical.em (p = .pyNone) with rfl | hp
    · exact faithful_pyNone
    rcases h with hnone | hraise | hempty
    · exact absurd hnone hp
    · intro root hroot
      obtain ⟨d, hd, hser, -⟩ := (toRapidjsonVal_eq_some hp).mp hroot
      exact absurd (hraise d hd) hser
    · exact faithful_of_empty hempty

/-- `{"amount": nan}`: `json.dumps` prints `NaN`, the parse fails and null is sent. -/
theorem nan_sends_null :
    ¬ Faithful { floatRepr := fun _ _ => "0.0", overLimit := fun _ => false } (fun _ => none)
      (.dict [(.str (ofString "amount"), .float .nan)]) := by
  intro h
  obtain ⟨v, hread, ⟨hnone, -⟩ | ⟨-, hden⟩⟩ := h { tree := .null, pool := .document } rfl
  · cases hnone
  · cases hread
    cases hden

end MoneroPython.Rpc
