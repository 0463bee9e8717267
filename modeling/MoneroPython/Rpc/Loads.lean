/-
# Dictionaries as JSON texts and back

`dict_to_binary` and `binary_to_dict` (`utils/py_monero_utils.cpp`) reach the binary format by way
of JSON texts: `PyGenUtils::serialize` prints a dictionary with `json.dumps`, and
`PyGenUtils::deserialize` reads a text with `json.loads`.  The conversion of the text is that of
the library underneath and enters as a parameter.

`loads_dumps_eq_iff` says which objects the text keeps.  Tuples come back as lists and keys as
strings, and two surrogates that form a pair come back as one code point.  What comes back has
none of these (`portable_loads`), so further rounds change nothing (`rounds_succ`).
-/
import Mathlib.Data.List.Nodup
import MoneroPython.Rpc.Params

namespace MoneroPython.Rpc

open Utf16

/-! ## 1. `json.loads` -/

mutual

/-- What a printed text is read as.  Unlike rapidjson, Python reads the infinities and NaN, and
surrogates that are in no pair. -/
def loads : Dumped → PyVal
  | .null => .pyNone
  | .bool b => .bool b
  | .num (.int n) => .int n
  | .num (.float neg q) => .float (.finite neg q)
  | .nan => .float .nan
  | .infinity neg => .float (.infinity neg)
  | .str units => .str (join units)
  | .arr es => .list (loadsElements es)
  | .obj ms => .dict (loadsMembers ms [])

def loadsElements : List Dumped → List PyVal
  | [] => []
  | e :: es => loads e :: loadsElements es

/-- The members are entered one after the other. -/
def loadsMembers : List (List ℕ × Dumped) → List (PyKey × PyVal) → List (PyKey × PyVal)
  | [], d => d
  | (units, e) :: ms, d => loadsMembers ms (dictAssign (.str (join units)) (loads e) d)

end

/-- `PyGenUtils::deserialize`, or nothing when it raises: `overLimit` are the texts at which a
limit of the interpreter stops, and what is not read as a dictionary cannot be cast to one. -/
def deserialize (overLimit : Dumped → Bool) (text : Dumped) : Option (List (PyKey × PyVal)) :=
  if overLimit text then none
  else
    match loads text with
    | .dict items => some items
    | _ => none

variable (rt : PythonRuntime) {β : Type}

/-- `PyMoneroUtils::dict_to_binary`. -/
def dictToBinary (jsonToBinary : Dumped → Option β) (dictionary : List (PyKey × PyVal)) :
    Option β :=
  (serialize rt dictionary).bind jsonToBinary

/-- `PyMoneroUtils::binary_to_dict`. -/
def binaryToDict (overLimit : Dumped → Bool) (binaryToJson : β → Option Dumped) (bin : β) :
    Option (List (PyKey × PyVal)) :=
  (binaryToJson bin).bind (deserialize overLimit)

/-! ## 2. What a text keeps -/

/-- There are no tuples, all keys are different strings, and no string has two surrogates that
form a pair. -/
inductive Portable : PyVal → Prop where
  | pyNone : Portable .pyNone
  | bool (b : Bool) : Portable (.bool b)
  | int (n : ℤ) : Portable (.int n)
  | float (d : Double) : Portable (.float d)
  | str {s : List CodePoint} (h : Joined s) : Portable (.str s)
  | list {es : List PyVal} (h : ∀ e ∈ es, Portable e) : Portable (.list es)
  | dict {items : List (PyKey × PyVal)}
    (hkeys : ∀ k ∈ items.map Prod.fst, ∃ s, k = .str s ∧ Joined s)
    (hnodup : (items.map Prod.fst).Nodup) (hvals : ∀ item ∈ items, Portable item.2) :
    Portable (.dict items)

/-! ### Keys -/

/-- A dictionary tells a string from every other key. -/
theorem same_str_iff {k : PyKey} {s : List CodePoint} : k.same (.str s) = true ↔ k = .str s := by
  cases k with
  | str t => simp [PyKey.same, PyKey.norm]
  | float d =>
    cases d with
    | finite neg q =>
      simp only [PyKey.same, PyKey.norm]
      split <;> simp
    | infinity neg => simp [PyKey.same, PyKey.norm]
    | nan => simp [PyKey.same, PyKey.norm]
  | _ => simp [PyKey.same, PyKey.norm]

theorem dictAssign_of_notMem {s : List CodePoint} {v : PyVal} {d : List (PyKey × PyVal)}
    (h : PyKey.str s ∉ d.map Prod.fst) : dictAssign (.str s) v d = d ++ [(.str s, v)] := by
  induction d with
  | nil => rfl
  | cons item d ih =>
    obtain ⟨k, w⟩ := item
    rw [List.map_cons, List.mem_cons, not_or] at h
    have hsame : ¬ k.same (.str s) = true := fun hk => h.1 (same_str_iff.mp hk).symm
    rw [dictAssign, if_neg hsame, ih h.2, List.cons_append]

/-- The keys after an assignment: a new one stands at the end. -/
theorem keys_dictAssign (s : List CodePoint) (v : PyVal) (d : List (PyKey × PyVal)) :
    (dictAssign (.str s) v d).map Prod.fst =
      if PyKey.str s ∈ d.map Prod.fst then d.map Prod.fst else d.map Prod.fst ++ [.str s] := by
  induction d with
  | nil => rfl
  | cons item d ih =>
    obtain ⟨k, w⟩ := item
    by_cases hk : k = .str s
    · rw [dictAssign, if_pos (same_str_iff.mpr hk), List.map_cons, List.map_cons, if_pos]
      rw [hk]
      exact List.mem_cons_self
    · have hmem : PyKey.str s ∈ k :: d.map Prod.fst ↔ PyKey.str s ∈ d.map Prod.fst := by
        rw [List.mem_cons, or_iff_right (Ne.symm hk)]
      rw [dictAssign, if_neg (fun h => hk (same_str_iff.mp h)), List.map_cons, ih, List.map_cons]
      simp only [hmem]
      split <;> rfl

/-- The values after an assignment are the new one and the old ones. -/
theorem mem_dictAssign {k : PyKey} {v : PyVal} {d : List (PyKey × PyVal)} {item : PyKey × PyVal}
    (h : item ∈ dictAssign k v d) : item.2 = v ∨ item ∈ d := by
  induction d with
  | nil =>
    rw [List.mem_singleton.mp h]
    exact Or.inl rfl
  | cons item' d ih =>
    obtain ⟨k', v'⟩ := item'
    rw [dictAssign] at h
    split at h
    · rcases List.mem_cons.mp h with rfl | h
      · exact Or.inl rfl
      · exact Or.inr (List.mem_cons_of_mem _ h)
    · rcases List.mem_cons.mp h with rfl | h
      · exact Or.inr List.mem_cons_self
      · exact (ih h).imp_right (List.mem_cons_of_mem _)

/-! ### Members -/

/-- What holds of a dictionary and is kept by each assignment holds at the end. -/
theorem loadsMembers_induct {P : List (PyKey × PyVal) → Prop} {ms : List (List ℕ × Dumped)}
    {d : List (PyKey × PyVal)} (hd : P d)
    (hstep : ∀ m ∈ ms, ∀ d, P d → P (dictAssign (.str (join m.1)) (loads m.2) d)) :
    P (loadsMembers ms d) := by
  induction ms generalizing d with
  | nil => exact hd
  | cons m ms ih =>
    obtain ⟨units, e⟩ := m
    refine ih ?_ fun m hm => hstep m (List.mem_cons_of_mem _ hm)
    exact hstep (units, e) List.mem_cons_self d hd

/-- Members with different names are entered as they stand. -/
theorem loadsMembers_of_nodup {ms : List (List ℕ × Dumped)} {d : List (PyKey × PyVal)}
    (h : (d.map Prod.fst ++ ms.map fun m => PyKey.str (join m.1)).Nodup) :
    loadsMembers ms d = d ++ ms.map fun m => (PyKey.str (join m.1), loads m.2) := by
  induction ms generalizing d with
  | nil => rw [loadsMembers, List.map_nil, List.append_nil]
  | cons m ms ih =>
    obtain ⟨units, e⟩ := m
    have hnew : PyKey.str (join units) ∉ d.map Prod.fst := by
      intro hmem
      exact (List.nodup_append.mp h).2.2 _ hmem _ List.mem_cons_self rfl
    rw [loadsMembers, dictAssign_of_notMem hnew, ih, List.append_assoc, List.map_cons]
    · rfl
    · rwa [List.map_append, List.append_assoc]

/-- All keys that are read are joined strings, and they are different. -/
theorem keys_loadsMembers {ms : List (List ℕ × Dumped)}
    (h : ∀ m ∈ ms, ∀ u ∈ m.1, u < 0x10000) :
    (∀ k ∈ (loadsMembers ms []).map Prod.fst, ∃ s, k = .str s ∧ Joined s) ∧
      ((loadsMembers ms []).map Prod.fst).Nodup := by
  refine loadsMembers_induct
    (P := fun d => (∀ k ∈ d.map Prod.fst, ∃ s, k = PyKey.str s ∧ Joined s) ∧
      (d.map Prod.fst).Nodup) ⟨by simp, List.nodup_nil⟩ ?_
  rintro m hm d ⟨hkeys, hnodup⟩
  rw [keys_dictAssign]
  split
  · exact ⟨hkeys, hnodup⟩
  · next hnew =>
    constructor
    · intro k hk
      rcases List.mem_append.mp hk with hk | hk
      · exact hkeys k hk
      · exact ⟨_, List.mem_singleton.mp hk, joined_join (h m hm)⟩
    · exact List.nodup_append.mpr ⟨hnodup, List.nodup_singleton _, fun k hk k' hk' heq =>
        hnew (List.mem_singleton.mp hk' ▸ heq ▸ hk)⟩

/-! ## 3. Printing and reading -/

variable {rt}

theorem dumpsElements_eq_some_iff {es : List PyVal} {ts : List Dumped} :
    dumpsElements rt es = some ts ↔ List.Forall₂ (fun e t => dumps rt e = some t) es ts := by
  induction es generalizing ts with
  | nil => simp [dumpsElements, eq_comm]
  | cons e es ih =>
    simp only [dumpsElements, Option.bind_eq_some_iff, Option.map_eq_some_iff,
      List.forall₂_cons_left_iff, ih]
    constructor
    · rintro ⟨t, ht, ts, hts, rfl⟩
      exact ⟨t, ts, ht, hts, rfl⟩
    · rintro ⟨t, ts, ht, hts, rfl⟩
      exact ⟨t, ht, ts, hts, rfl⟩

theorem dumpsItems_eq_some_iff {items : List (PyKey × PyVal)} {ms : List (List ℕ × Dumped)} :
    dumpsItems rt items = some ms ↔
      List.Forall₂ (fun item m => keyText rt item.1 = some m.1 ∧ dumps rt item.2 = some m.2)
        items ms := by
  induction items generalizing ms with
  | nil => simp [dumpsItems, eq_comm]
  | cons item items ih =>
    obtain ⟨k, v⟩ := item
    simp only [dumpsItems, Option.bind_eq_some_iff, Option.map_eq_some_iff,
      List.forall₂_cons_left_iff, ih]
    constructor
    · rintro ⟨units, hunits, t, ht, ms, hms, rfl⟩
      exact ⟨(units, t), ms, ⟨hunits, ht⟩, hms, rfl⟩
    · rintro ⟨⟨units, t⟩, ms, ⟨hunits, ht⟩, hms, rfl⟩
      exact ⟨units, hunits, t, ht, ms, hms, rfl⟩

theorem loadsElements_eq (ts : List Dumped) : loadsElements ts = ts.map loads := by
  induction ts with
  | nil => rfl
  | cons t ts ih => rw [loadsElements, ih, List.map_cons]

/-- Every key is printed as the units of some string. -/
theorem exists_encode_of_keyText {k : PyKey} {units : List ℕ} (h : keyText rt k = some units) :
    ∃ s, units = encode s := by
  cases k with
  | float d =>
    cases d with
    | finite neg q => exact ⟨_, (Option.some.inj h).symm⟩
    | infinity neg => exact ⟨_, (Option.some.inj h).symm⟩
    | nan => exact ⟨_, (Option.some.inj h).symm⟩
  | other => cases h
  | _ => exact ⟨_, (Option.some.inj h).symm⟩

theorem exists_mem_of_forall₂ {α β : Type} {R : α → β → Prop} {l : List α} {l' : List β}
    (h : List.Forall₂ R l l') : ∀ b ∈ l', ∃ a ∈ l, R a b := by
  induction h with
  | nil => simp
  | @cons a b l l' hab _ ih =>
    intro b' hb'
    rcases List.mem_cons.mp hb' with rfl | hb'
    · exact ⟨a, List.mem_cons_self, hab⟩
    · obtain ⟨a', ha', hR⟩ := ih b' hb'
      exact ⟨a', List.mem_cons_of_mem a ha', hR⟩

theorem map_eq_of_forall₂ {α β : Type} {f : β → α} {l : List α} {l' : List β}
    (h : List.Forall₂ (fun a b => f b = a) l l') : l'.map f = l := by
  induction h with
  | nil => rfl
  | cons hab _ ih => rw [List.map_cons, hab, ih]

theorem units_lt_of_dumpsItems {items : List (PyKey × PyVal)} {ms : List (List ℕ × Dumped)}
    (h : dumpsItems rt items = some ms) : ∀ m ∈ ms, ∀ u ∈ m.1, u < 0x10000 := by
  intro m hm
  obtain ⟨item, -, hkey, -⟩ := exists_mem_of_forall₂ (dumpsItems_eq_some_iff.mp h) m hm
  obtain ⟨s, hs⟩ := exists_encode_of_keyText hkey
  rw [hs]
  exact encode_lt s

theorem portable_loads_arr {es : List PyVal} {ts : List Dumped}
    (ih : ∀ e ∈ es, ∀ {t}, dumps rt e = some t → Portable (loads t))
    (h : dumpsElements rt es = some ts) : Portable (loads (.arr ts)) := by
  rw [loads, loadsElements_eq]
  refine .list ?_
  intro v hv
  obtain ⟨t, ht, rfl⟩ := List.mem_map.mp hv
  obtain ⟨e, he, hdump⟩ := exists_mem_of_forall₂ (dumpsElements_eq_some_iff.mp h) t ht
  exact ih e he hdump

/-- **What is read is portable**, whatever was printed. -/
theorem portable_loads {v : PyVal} {t : Dumped} (h : dumps rt v = some t) : Portable (loads t) := by
  induction v using PyVal.induct generalizing t with
  | list es ih =>
    obtain ⟨ts, hts, rfl⟩ := Option.map_eq_some_iff.mp h
    exact portable_loads_arr ih hts
  | tuple es ih =>
    obtain ⟨ts, hts, rfl⟩ := Option.map_eq_some_iff.mp h
    exact portable_loads_arr ih hts
  | dict items ih =>
    obtain ⟨ms, hms, rfl⟩ := Option.map_eq_some_iff.mp h
    obtain ⟨hkeys, hnodup⟩ := keys_loadsMembers (units_lt_of_dumpsItems hms)
    refine .dict hkeys hnodup ?_
    refine loadsMembers_induct (P := fun d => ∀ item ∈ d, Portable item.2) (by simp) ?_
    intro m hm d hd item hitem
    rcases mem_dictAssign hitem with hval | hold
    · obtain ⟨item', hitem', -, ht⟩ := exists_mem_of_forall₂ (dumpsItems_eq_some_iff.mp hms) m hm
      rw [hval]
      exact ih item' hitem' ht
    · exact hd item hold
  | rest v hlist htuple hdict =>
    cases v with
    | pyNone =>
      cases h
      exact .pyNone
    | bool b =>
      cases h
      exact .bool b
    | int n =>
      cases h
      exact .int n
    | float d =>
      cases d <;> cases h <;> exact .float _
    | str s =>
      cases h
      exact .str (joined_join (encode_lt s))
    | list es => exact absurd rfl (hlist es)
    | tuple es => exact absurd rfl (htuple es)
    | dict items => exact absurd rfl (hdict items)
    | mapping items => cases h
    | iterable es => cases h
    | object => cases h

/-- Portable keys and their units: they are read as what was printed. -/
theorem join_of_keyText {k : PyKey} {units : List ℕ} (hk : ∃ s, k = .str s ∧ Joined s)
    (h : keyText rt k = some units) : PyKey.str (join units) = k := by
  obtain ⟨s, rfl, hs⟩ := hk
  cases h
  rw [join_encode hs]

/-- A portable dictionary is printed as members that are entered as they stand. -/
theorem loadsMembers_dumpsItems {items : List (PyKey × PyVal)} {ms : List (List ℕ × Dumped)}
    (hkeys : ∀ k ∈ items.map Prod.fst, ∃ s, k = .str s ∧ Joined s)
    (hnodup : (items.map Prod.fst).Nodup) (h : dumpsItems rt items = some ms) :
    loadsMembers ms [] = ms.map fun m => (PyKey.str (join m.1), loads m.2) := by
  have hnames : (ms.map fun m => PyKey.str (join m.1)) = items.map Prod.fst := by
    have hall := dumpsItems_eq_some_iff.mp h
    clear h hnodup
    induction hall with
    | nil => rfl
    | @cons item m items ms hm _ ih =>
      rw [List.map_cons, List.map_cons, join_of_keyText (hkeys _ List.mem_cons_self) hm.1,
        ih fun k hk => hkeys k (List.mem_cons_of_mem _ hk)]
  have hnew : (([] : List (PyKey × PyVal)).map Prod.fst ++
      ms.map fun m => PyKey.str (join m.1)).Nodup := by
    rwa [List.map_nil, List.nil_append, hnames]
  exact loadsMembers_of_nodup hnew

/-- What is printed can be read back when it is portable. -/
theorem exists_dumps_of_portable (rt : PythonRuntime) {v : PyVal} (h : Portable v) :
    ∃ t, dumps rt v = some t ∧ loads t = v := by
  induction h with
  | pyNone => exact ⟨.null, rfl, rfl⟩
  | bool b => exact ⟨.bool b, rfl, rfl⟩
  | int n => exact ⟨.num (.int n), rfl, rfl⟩
  | float d =>
    cases d with
    | finite neg q => exact ⟨.num (.float neg q), rfl, rfl⟩
    | infinity neg => exact ⟨.infinity neg, rfl, rfl⟩
    | nan => exact ⟨.nan, rfl, rfl⟩
  | @str s hs => exact ⟨.str (encode s), rfl, by rw [loads, join_encode hs]⟩
  | @list es _ ih =>
    obtain ⟨ts, hts⟩ := exists_forall₂ ih
    have hdump : dumpsElements rt es = some ts :=
      dumpsElements_eq_some_iff.mpr (hts.imp fun _ _ => And.left)
    refine ⟨.arr ts, by rw [dumps, hdump, Option.map_some], ?_⟩
    rw [loads, loadsElements_eq, map_eq_of_forall₂ (hts.imp fun _ _ => And.right)]
  | @dict items hkeys hnodup _ ih =>
    have hitems : ∀ item ∈ items, ∃ m : List ℕ × Dumped,
        (keyText rt item.1 = some m.1 ∧ dumps rt item.2 = some m.2) ∧
          (PyKey.str (join m.1), loads m.2) = item := by
      intro item hitem
      obtain ⟨s, hs, hjoined⟩ := hkeys item.1 (List.mem_map_of_mem hitem)
      obtain ⟨t, ht, hload⟩ := ih item hitem
      have hkey : keyText rt item.1 = some (encode s) := by rw [hs, keyText]
      exact ⟨(encode s, t), ⟨hkey, ht⟩, Prod.ext (by rw [join_encode hjoined, hs]) hload⟩
    obtain ⟨ms, hms⟩ := exists_forall₂ hitems
    have hdump : dumpsItems rt items = some ms :=
      dumpsItems_eq_some_iff.mpr (hms.imp fun _ _ => And.left)
    refine ⟨.obj ms, by rw [dumps, hdump, Option.map_some], ?_⟩
    rw [loads, loadsMembers_dumpsItems hkeys hnodup hdump,
      map_eq_of_forall₂ (hms.imp fun _ _ => And.right)]

/-- **What the text keeps.**  An object is read back as it was printed if and only if it is
portable. -/
theorem loads_dumps_eq_iff (rt : PythonRuntime) {v : PyVal} :
    (dumps rt v).map loads = some v ↔ Portable v := by
  rw [Option.map_eq_some_iff]
  constructor
  · rintro ⟨t, ht, hload⟩
    rw [← hload]
    exact portable_loads ht
  · exact exists_dumps_of_portable rt

/-! ## 4. Dictionaries and binaries -/

variable {overLimit : Dumped → Bool} {d : List (PyKey × PyVal)}

theorem deserialize_eq_some_iff {text : Dumped} :
    deserialize overLimit text = some d ↔ overLimit text = false ∧ loads text = .dict d := by
  rw [deserialize]
  cases hlimit : overLimit text with
  | true => simp
  | false => cases hload : loads text <;> simp

theorem serialize_of_not_overLimit (hwrite : rt.overLimit d = false) :
    serialize rt d = dumps rt (.dict d) := by
  rw [serialize, hwrite, if_neg Bool.false_ne_true]

/-- **Dictionaries through the binary format.**  When the library underneath gives the text of a
dictionary back, and no limit of the interpreter is hit, the dictionary comes back if and only if
it is portable. -/
theorem binaryToDict_dictToBinary_iff {jsonToBinary : Dumped → Option β}
    {binaryToJson : β → Option Dumped} (hwrite : rt.overLimit d = false)
    (hread : ∀ text, dumps rt (.dict d) = some text → overLimit text = false)
    (hcodec : ∀ text, dumps rt (.dict d) = some text →
      ∃ bin, jsonToBinary text = some bin ∧ binaryToJson bin = some text) :
    (dictToBinary rt jsonToBinary d).bind (binaryToDict overLimit binaryToJson) = some d ↔
      Portable (.dict d) := by
  rw [← loads_dumps_eq_iff rt, dictToBinary, serialize_of_not_overLimit hwrite]
  cases htext : dumps rt (.dict d) with
  | none => simp
  | some text =>
    obtain ⟨bin, hbin, hback⟩ := hcodec text htext
    rw [Option.bind_some, hbin, Option.bind_some, binaryToDict, hback, Option.bind_some,
      deserialize_eq_some_iff, and_iff_right (hread text htext), Option.map_some,
      Option.some.injEq]

/-- Printed and read again. -/
def reserialize (rt : PythonRuntime) (overLimit : Dumped → Bool) (d : List (PyKey × PyVal)) :
    Option (List (PyKey × PyVal)) :=
  (serialize rt d).bind (deserialize overLimit)

/-- `n` times. -/
def rounds (rt : PythonRuntime) (overLimit : Dumped → Bool) :
    ℕ → List (PyKey × PyVal) → Option (List (PyKey × PyVal))
  | 0, d => some d
  | n + 1, d => (reserialize rt overLimit d).bind (rounds rt overLimit n)

theorem portable_of_reserialize {d' : List (PyKey × PyVal)}
    (h : reserialize rt overLimit d = some d') : Portable (.dict d') := by
  obtain ⟨text, htext, hread⟩ := Option.bind_eq_some_iff.mp h
  rw [serialize, Option.ite_none_left_eq_some] at htext
  rw [← (deserialize_eq_some_iff.mp hread).2]
  exact portable_loads htext.2

theorem reserialize_of_portable (hwrite : rt.overLimit d = false)
    (hread : ∀ text, dumps rt (.dict d) = some text → overLimit text = false)
    (h : Portable (.dict d)) : reserialize rt overLimit d = some d := by
  obtain ⟨text, htext, hload⟩ := exists_dumps_of_portable rt h
  rw [reserialize, serialize_of_not_overLimit hwrite, htext, Option.bind_some]
  exact deserialize_eq_some_iff.mpr ⟨hread text htext, hload⟩

/-- **One round is as good as many.**  What comes back from the first round comes back from every
further one, as long as no limit of the interpreter is hit. -/
theorem rounds_succ
    (hlimits : ∀ d', reserialize rt overLimit d = some d' →
      rt.overLimit d' = false ∧ ∀ text, dumps rt (.dict d') = some text → overLimit text = false)
    (n : ℕ) : rounds rt overLimit (n + 1) d = reserialize rt overLimit d := by
  rw [rounds]
  cases hfirst : reserialize rt overLimit d with
  | none => rfl
  | some d' =>
    obtain ⟨hwrite, hread⟩ := hlimits d' hfirst
    have hfix : reserialize rt overLimit d' = some d' :=
      reserialize_of_portable hwrite hread (portable_of_reserialize hfirst)
    rw [Option.bind_some]
    induction n with
    | zero => rfl
    | succ n ih => rw [rounds, hfix, Option.bind_some, ih]

/-! ### Two dictionaries

`{"a": 1}` with its 21 bytes, and `{1: (None,), "1": 3}`, which loses its first item. -/

def amountText : Dumped := .obj [(encode (ofString "a"), .num (.int 1))]

def amountBinary : List UInt8 :=
  [1, 17, 1, 1, 1, 1, 2, 1, 1, 4, 1, 97, 5, 1, 0, 0, 0, 0, 0, 0, 0]

def unlimited : PythonRuntime := { floatRepr := fun _ _ => "0.0", overLimit := fun _ => false }

theorem binaryToDict_dictToBinary_iff_amount :
    (dictToBinary unlimited (fun _ => some amountBinary)
        [(.str (ofString "a"), .int 1)]).bind
          (binaryToDict (fun _ => false) fun _ => some amountText) =
        some [(.str (ofString "a"), .int 1)] ↔
      Portable (.dict [(.str (ofString "a"), .int 1)]) := by
  refine binaryToDict_dictToBinary_iff rfl (fun _ _ => rfl) ?_
  intro text htext
  cases htext
  exact ⟨amountBinary, rfl, rfl⟩

theorem rounds_succ_lossy :
    rounds unlimited (fun _ => false) 3
        [(.int 1, .tuple [.pyNone]), (.str (ofString "1"), .int 3)] =
      reserialize unlimited (fun _ => false)
        [(.int 1, .tuple [.pyNone]), (.str (ofString "1"), .int 3)] :=
  rounds_succ (fun _ _ => ⟨rfl, fun _ _ => rfl⟩) 2

end MoneroPython.Rpc
