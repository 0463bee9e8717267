/-
# A dictionary as a document

`PyGenUtils::serialize` prints dictionaries, and `ptree_to_pyobject` decodes what `read_json` has
made of a text (`common/py_monero_common.cpp`).  The two are no inverses of each other.  When a
dictionary is printed and its own text is decoded, every loss of either way shows:
`roundTrip_eq_iff` says exactly which dictionaries come back as they were.

A dictionary that has come back from one round trip, without floats, comes back from any number of
further ones (`roundTrips_succ`).

What a finite float is printed as is a parameter.
-/
import MoneroPython.Rpc.Loads
import MoneroPython.Rpc.Resend

namespace MoneroPython.Rpc

open JsonText Utf16

/-! ## 1. Round trips -/

section RoundTrip

variable (rt : PythonRuntime) (floatToken : Bool → ℚ → NumToken)

/-- An object through `PyGenUtils::serialize`, `read_json` and `ptree_to_pyobject`, or nothing when
one of them raises. -/
def roundTrip (p : PyVal) : Option PyVal :=
  (dictOf p).bind fun d =>
    (serialize rt d).bind fun text =>
      (document floatToken text).map fun doc => (decode doc).toPyVal

/-- `n` round trips, each with what the one before has returned. -/
def roundTrips : ℕ → PyVal → Option PyVal
  | 0, p => some p
  | n + 1, p => (roundTrip rt floatToken p).bind (roundTrips n)

/-- The objects that come back: truth values, integers of 32 bits, floats whose token is read as the
same float, plain texts, and lists and dictionaries of these that are not empty, the dictionaries
with strings as keys, all different and not all empty. -/
inductive Echoes : PyVal → Prop where
  | bool (b : Bool) : Echoes (.bool b)
  | int {n : ℤ} (h : IsInt32 n) : Echoes (.int n)
  | float {neg : Bool} {q : ℚ}
    (h : convertValue (String.ofList (floatToken neg q).text) = .float (.finite neg q)) :
    Echoes (.float (.finite neg q))
  | str {s : String} (h : PlainText s) : Echoes (.str (ofString s))
  | list {es : List PyVal} (hne : es ≠ []) (hes : ∀ e ∈ es, Echoes e) : Echoes (.list es)
  | dict {items : List (PyKey × PyVal)}
    (hkeys : ∀ k ∈ items.map Prod.fst, ∃ s, k = .str (ofString s))
    (hnodup : (items.map Prod.fst).Nodup) (hkey : ∃ k ∈ items.map Prod.fst, k ≠ .str [])
    (hvals : ∀ item ∈ items, Echoes item.2) : Echoes (.dict items)

end RoundTrip

/-! ## 2. The document as what a reader makes of the text -/

section Reader

variable (floatToken : Bool → ℚ → NumToken)

def jsonReader : Reader Json where
  null := .null
  bool := .bool
  num
    | .int n => some (.num (NumToken.ofInt n))
    | .float neg q => some (.num (floatToken neg q))
  str := .str
  arr := .arr
  obj := .obj

mutual

theorem document_eq_read : ∀ t, document floatToken t = (jsonReader floatToken).read t
  | .null => rfl
  | .bool _ => rfl
  | .num (.int _) => rfl
  | .num (.float _ _) => rfl
  | .nan => rfl
  | .infinity _ => rfl
  | .str _ => rfl
  | .arr es => by
    rw [document, Reader.read, documentElements_eq_read es]
    rfl
  | .obj ms => by
    rw [document, Reader.read, documentMembers_eq_read ms]
    rfl

theorem documentElements_eq_read :
    ∀ es, documentElements floatToken es = (jsonReader floatToken).readElements es
  | [] => rfl
  | e :: es => by
    rw [documentElements, Reader.readElements, document_eq_read e, documentElements_eq_read es]

theorem documentMembers_eq_read :
    ∀ ms, documentMembers floatToken ms = (jsonReader floatToken).readMembers ms
  | [] => rfl
  | (_, e) :: ms => by
    rw [documentMembers, Reader.readMembers, document_eq_read e, documentMembers_eq_read ms]

end

end Reader

/-! ## 3. Containers -/

variable {rt : PythonRuntime} {floatToken : Bool → ℚ → NumToken}

theorem toPyVals_eq (os : List PyObj) : PyObj.toPyVals os = os.map PyObj.toPyVal := by
  induction os with
  | nil => rfl
  | cons o os ih => rw [PyObj.toPyVals, ih, List.map_cons]

theorem toPyItems_eq (items : List (String × PyObj)) :
    PyObj.toPyItems items = items.map fun item => (.str (ofString item.1), item.2.toPyVal) := by
  induction items with
  | nil => rfl
  | cons item items ih => rw [PyObj.toPyItems, ih, List.map_cons]

/-- The object that a document is decoded as. -/
def decoded (d : Json) : PyVal := (decode d).toPyVal

theorem decoded_arr {ds : List Json} (h : ds ≠ []) : decoded (.arr ds) = .list (ds.map decoded) := by
  rw [decoded, decode_arr h, PyObj.toPyVal, toPyVals_eq, List.map_map]
  rfl

theorem decoded_obj {ms : List (String × Json)} (hkey : ∃ m ∈ ms, m.1 ≠ "") :
    decoded (.obj ms) =
      .dict (PyObj.toPyItems (Assoc.assignAll [] (ms.map fun m => (m.1, decode m.2)))) := by
  rw [decoded, decode_obj hkey, PyObj.toPyVal]

/-- Members with different names come back as they stand. -/
theorem decoded_obj_of_nodup {ms : List (String × Json)} (hkey : ∃ m ∈ ms, m.1 ≠ "")
    (hnodup : (ms.map Prod.fst).Nodup) :
    decoded (.obj ms) = .dict (ms.map fun m => (.str (ofString m.1), decoded m.2)) := by
  have hnames : (([] ++ ms.map fun m : String × Json => (m.1, decode m.2)).map Prod.fst).Nodup := by
    rw [List.nil_append, List.map_map]
    exact hnodup
  rw [decoded_obj hkey, Assoc.assignAll_of_nodup hnames, List.nil_append, toPyItems_eq,
    List.map_map]
  rfl

/-- A text or a list comes back for an object whose names are all empty. -/
theorem decoded_obj_of_all_empty {ms : List (String × Json)} (h : ∀ m ∈ ms, m.1 = "") :
    ∀ items, decoded (.obj ms) ≠ .dict items := by
  intro items
  rcases eq_or_ne ms [] with rfl | hne
  · intro h
    cases h
  rw [decoded, decode_obj_of_all_empty hne h, PyObj.toPyVal]
  intro h
  cases h

theorem ofString_injective : Function.Injective ofString := by
  intro s t h
  have hread := congrArg (fun cs => parseString (encode cs)) h
  simpa only [parseString_encode_ofString, Option.some.injEq] using hread

theorem strKey_injective : Function.Injective fun s => PyKey.str (ofString s) := by
  intro s t h
  exact ofString_injective (PyKey.str.inj h)

/-! ## 4. What comes back -/

/-- The object is printed, and its document is decoded as the object. -/
def Returns (rt : PythonRuntime) (floatToken : Bool → ℚ → NumToken) (v : PyVal) : Prop :=
  ∃ d, transfer rt (jsonReader floatToken) v = some d ∧ decoded d = v

theorem toPyVal_eq_str_iff {o : PyObj} {s : List CodePoint} :
    o.toPyVal = .str s ↔ ∃ t, o = .str t ∧ ofString t = s := by
  cases o <;> simp [PyObj.toPyVal]

theorem toPyVal_eq_int_iff {o : PyObj} {n : ℤ} : o.toPyVal = .int n ↔ o = .int n := by
  cases o <;> simp [PyObj.toPyVal]

theorem toPyVal_eq_float_iff {o : PyObj} {d : Double} : o.toPyVal = .float d ↔ o = .float d := by
  cases o <;> simp [PyObj.toPyVal]

theorem returns_int_iff {n : ℤ} : Returns rt floatToken (.int n) ↔ IsInt32 n := by
  have hread : transfer rt (jsonReader floatToken) (.int n) = some (.num (NumToken.ofInt n)) := rfl
  simp only [Returns, hread, Option.some.injEq, exists_eq_left', decoded, toPyVal_eq_int_iff]
  constructor
  · intro h
    rw [decode_of_scalarText rfl] at h
    exact (convertValue_eq_int_iff.mp h).2
  · exact decode_ofInt

theorem returns_float_iff {neg : Bool} {q : ℚ} :
    Returns rt floatToken (.float (.finite neg q)) ↔
      convertValue (String.ofList (floatToken neg q).text) = .float (.finite neg q) := by
  have hread : transfer rt (jsonReader floatToken) (.float (.finite neg q)) =
      some (.num (floatToken neg q)) := rfl
  simp only [Returns, hread, Option.some.injEq, exists_eq_left', decoded, toPyVal_eq_float_iff]
  rw [decode_of_scalarText rfl]

theorem returns_str_iff {s : List CodePoint} :
    Returns rt floatToken (.str s) ↔ ∃ t, s = ofString t ∧ PlainText t := by
  have hdecoded : ∀ t, decoded (.str t) = .str s ↔ s = ofString t ∧ PlainText t := by
    intro t
    rw [decoded, decode_of_scalarText rfl, toPyVal_eq_str_iff]
    simp only [convertValue_eq_str_iff]
    constructor
    · rintro ⟨_, ⟨rfl, hplain⟩, rfl⟩
      exact ⟨rfl, hplain⟩
    · rintro ⟨rfl, hplain⟩
      exact ⟨t, ⟨rfl, hplain⟩, rfl⟩
  constructor
  · rintro ⟨_, hread, h⟩
    obtain ⟨t, -, rfl⟩ := transfer_str_eq_some.mp hread
    exact ⟨t, (hdecoded t).mp h⟩
  · rintro ⟨t, rfl, hplain⟩
    refine ⟨.str t, transfer_str_eq_some.mpr ⟨t, parseString_encode_ofString t, rfl⟩, ?_⟩
    exact (hdecoded t).mpr ⟨rfl, hplain⟩

theorem returns_list_iff {es : List PyVal} :
    Returns rt floatToken (.list es) ↔ es ≠ [] ∧ ∀ e ∈ es, Returns rt floatToken e := by
  constructor
  · rintro ⟨_, hread, h⟩
    obtain ⟨ds, hds, rfl⟩ := transfer_list_eq_some.mp hread
    rcases eq_or_ne ds [] with rfl | hne
    · cases h
    replace h : PyVal.list (ds.map decoded) = .list es := (decoded_arr hne).symm.trans h
    rw [PyVal.list.injEq] at h
    subst h
    refine ⟨by simpa using hne, ?_⟩
    intro e he
    obtain ⟨d, hd, rfl⟩ := List.mem_map.mp he
    rw [List.forall₂_map_left_iff, List.forall₂_same] at hds
    exact ⟨d, hds d hd, rfl⟩
  · rintro ⟨hne, hes⟩
    obtain ⟨ds, hds⟩ := exists_forall₂ hes
    refine ⟨.arr ds, transfer_list_eq_some.mpr ⟨ds, hds.imp fun _ _ => And.left, rfl⟩, ?_⟩
    have hmap : ds.map decoded = es := map_eq_of_forall₂ (hds.imp fun _ _ => And.right)
    rw [decoded_arr, hmap]
    rintro rfl
    exact hne hmap.symm

theorem map_fst_eq_of_forall₂ {α β : Type} {l : List (String × α)} {l' : List (String × β)}
    (h : List.Forall₂ (fun a b => b.1 = a.1) l l') : l'.map Prod.fst = l.map Prod.fst := by
  induction h with
  | nil => rfl
  | cons hab _ ih => rw [List.map_cons, List.map_cons, hab, ih]

/-- A string that is a key is read as it is. -/
theorem transferItem_str_iff {s : String} {v : PyVal} {m : String × Json} :
    transferItem rt (jsonReader floatToken) (.str (ofString s), v) = some m ↔
      m.1 = s ∧ transfer rt (jsonReader floatToken) v = some m.2 := by
  rw [transferItem_eq_some]
  simp only [keyText, Option.some.injEq, exists_eq_left', parseString_encode_ofString]
  rw [eq_comm]

theorem returns_dict_iff {items : List (PyKey × PyVal)} :
    Returns rt floatToken (.dict items) ↔
      (∀ k ∈ items.map Prod.fst, ∃ s, k = .str (ofString s)) ∧ (items.map Prod.fst).Nodup ∧
        (∃ k ∈ items.map Prod.fst, k ≠ .str []) ∧ ∀ item ∈ items, Returns rt floatToken item.2 := by
  constructor
  · rintro ⟨_, hread, h⟩
    obtain ⟨ms, hms, rfl⟩ := transfer_dict_eq_some.mp hread
    replace h : decoded (.obj ms) = .dict items := h
    by_cases hkey : ∃ m ∈ ms, m.1 ≠ ""
    swap
    · push Not at hkey
      exact absurd h (decoded_obj_of_all_empty hkey items)
    -- The names that were printed are the keys that came back, so they are different.
    have hnames : (ms.map Prod.fst).Nodup := by
      rw [decoded_obj hkey, PyVal.dict.injEq, toPyItems_eq] at h
      have hnodup : ((Assoc.assignAll [] (ms.map fun m : String × Json =>
          (m.1, decode m.2))).map Prod.fst).Nodup :=
        Assoc.nodup_keys_assignAll List.nodup_nil
      rw [← h, List.forall₂_map_left_iff] at hms
      rwa [map_fst_eq_of_forall₂ (hms.imp fun _ _ hm => (transferItem_str_iff.mp hm).1)]
    rw [decoded_obj_of_nodup hkey hnames, PyVal.dict.injEq] at h
    subst h
    rw [List.forall₂_map_left_iff, List.forall₂_same] at hms
    refine ⟨?_, ?_, ?_, ?_⟩
    · intro k hk
      rw [List.map_map] at hk
      obtain ⟨m, -, rfl⟩ := List.mem_map.mp hk
      exact ⟨m.1, rfl⟩
    · rw [List.map_map]
      simpa [List.map_map, Function.comp_def] using hnames.map strKey_injective
    · obtain ⟨m, hm, hne⟩ := hkey
      refine ⟨.str (ofString m.1), ?_, ?_⟩
      · rw [List.map_map]
        exact List.mem_map_of_mem hm
      · intro heq
        exact hne (ofString_injective (PyKey.str.inj heq))
    · intro item hitem
      obtain ⟨m, hm, rfl⟩ := List.mem_map.mp hitem
      exact ⟨m.2, (transferItem_str_iff.mp (hms m hm)).2, rfl⟩
  · rintro ⟨hkeys, hnodup, hkey, hvals⟩
    have hitems : ∀ item ∈ items, ∃ m, transferItem rt (jsonReader floatToken) item = some m ∧
        (PyKey.str (ofString m.1), decoded m.2) = item := by
      rintro ⟨k, v⟩ hitem
      obtain ⟨s, rfl⟩ := hkeys k (List.mem_map_of_mem hitem)
      obtain ⟨d, hd, hv⟩ := hvals _ hitem
      exact ⟨(s, d), transferItem_str_iff.mpr ⟨rfl, hd⟩, by rw [hv]⟩
    obtain ⟨ms, hms⟩ := exists_forall₂ hitems
    have hmap := map_eq_of_forall₂ (hms.imp fun _ _ => And.right)
    refine ⟨.obj ms, transfer_dict_eq_some.mpr ⟨ms, hms.imp fun _ _ => And.left, rfl⟩, ?_⟩
    rw [← hmap, List.map_map] at hnodup hkey
    rw [decoded_obj_of_nodup, hmap]
    · obtain ⟨k, hk, hne⟩ := hkey
      obtain ⟨m, hm, rfl⟩ := List.mem_map.mp hk
      refine ⟨m, hm, ?_⟩
      intro hempty
      exact hne (by rw [Function.comp_apply, hempty]; rfl)
    · refine List.Nodup.of_map (fun s => PyKey.str (ofString s)) ?_
      rwa [List.map_map]

/-- What cannot be printed or read does not come back. -/
theorem not_returns_of_transfer_eq_none {v : PyVal}
    (h : transfer rt (jsonReader floatToken) v = none) : ¬ Returns rt floatToken v := by
  rintro ⟨_, hread, -⟩
  rw [h] at hread
  cases hread

/-- **What comes back.**  An object comes back as itself exactly when it is made of what the two
ways keep. -/
theorem returns_iff {v : PyVal} : Returns rt floatToken v ↔ Echoes floatToken v := by
  induction v using PyVal.induct with
  | list es ih =>
    rw [returns_list_iff]
    constructor
    · rintro ⟨hne, hes⟩
      exact .list hne fun e he => (ih e he).mp (hes e he)
    · intro h
      cases h with
      | list hne hes => exact ⟨hne, fun e he => (ih e he).mpr (hes e he)⟩
  | tuple es ih =>
    refine iff_of_false ?_ (fun h => by cases h)
    rintro ⟨_, hread, h⟩
    rw [transfer_tuple] at hread
    obtain ⟨ds, -, rfl⟩ := transfer_list_eq_some.mp hread
    rcases eq_or_ne ds [] with rfl | hne
    · cases h
    · cases (decoded_arr hne).symm.trans h
  | dict items ih =>
    rw [returns_dict_iff]
    constructor
    · rintro ⟨hkeys, hnodup, hkey, hvals⟩
      exact .dict hkeys hnodup hkey fun item hitem => (ih item hitem).mp (hvals item hitem)
    · intro h
      cases h with
      | dict hkeys hnodup hkey hvals =>
        exact ⟨hkeys, hnodup, hkey, fun item hitem => (ih item hitem).mpr (hvals item hitem)⟩
  | rest v hlist htuple hdict =>
    cases v with
    | pyNone =>
      refine iff_of_false ?_ (fun h => by cases h)
      rintro ⟨_, hread, h⟩
      cases hread
      replace h : decoded .null = .pyNone := h
      rw [decoded, decode_null] at h
      cases h
    | bool b =>
      refine iff_of_true ⟨.bool b, rfl, ?_⟩ (.bool b)
      rw [decoded, decode_of_scalarText rfl, convertValue_eq_bool_iff.mpr rfl, PyObj.toPyVal]
    | int n =>
      rw [returns_int_iff]
      constructor
      · exact .int
      · intro h
        cases h with
        | int hn => exact hn
    | float d =>
      cases d with
      | finite neg q =>
        rw [returns_float_iff]
        constructor
        · exact .float
        · intro h
          cases h with
          | float hq => exact hq
      | infinity neg =>
        exact iff_of_false (not_returns_of_transfer_eq_none rfl) (fun h => by cases h)
      | nan =>
        exact iff_of_false (not_returns_of_transfer_eq_none rfl) (fun h => by cases h)
    | str s =>
      rw [returns_str_iff]
      constructor
      · rintro ⟨t, rfl, hplain⟩
        exact .str hplain
      · intro h
        cases h with
        | str hplain => exact ⟨_, rfl, hplain⟩
    | list es => exact absurd rfl (hlist es)
    | tuple es => exact absurd rfl (htuple es)
    | dict items => exact absurd rfl (hdict items)
    | mapping items =>
      exact iff_of_false (not_returns_of_transfer_eq_none rfl) (fun h => by cases h)
    | iterable es =>
      exact iff_of_false (not_returns_of_transfer_eq_none rfl) (fun h => by cases h)
    | object =>
      exact iff_of_false (not_returns_of_transfer_eq_none rfl) (fun h => by cases h)

/-! ## 5. One round trip -/

theorem roundTrip_eq_some_iff {p v : PyVal} :
    roundTrip rt floatToken p = some v ↔
      ∃ d, dictOf p = some d ∧ rt.overLimit d = false ∧
        ∃ doc, transfer rt (jsonReader floatToken) (.dict d) = some doc ∧ decoded doc = v := by
  rw [roundTrip, Option.bind_eq_some_iff]
  refine exists_congr fun d => and_congr_right fun _ => ?_
  rw [Option.bind_eq_some_iff]
  constructor
  · rintro ⟨text, htext, h⟩
    obtain ⟨doc, hdoc, hv⟩ := Option.map_eq_some_iff.mp h
    rw [document_eq_read, read_serialize htext] at hdoc
    rw [serialize, Option.ite_none_left_eq_some, Bool.not_eq_true] at htext
    exact ⟨htext.1, doc, hdoc, hv⟩
  · rintro ⟨hlimit, doc, hdoc, hv⟩
    obtain ⟨text, htext, hread⟩ := transfer_eq_some.mp hdoc
    refine ⟨text, by rw [serialize_of_not_overLimit hlimit, htext], ?_⟩
    rw [document_eq_read, hread]
    exact congrArg some hv

/-- **A dictionary there and back.**  What is decoded is the dictionary that was printed if and only
if no limit of the interpreter is hit and the dictionary is made of truth values, integers of 32
bits, floats whose token is read as the same float, plain texts, and lists and dictionaries that are
not empty.  `None`, tuples, empty containers, other keys than strings, larger integers and texts
that look like numbers or literals do not come back. -/
theorem roundTrip_eq_iff (d : List (PyKey × PyVal)) :
    roundTrip rt floatToken (.dict d) = some (.dict d) ↔
      rt.overLimit d = false ∧ Echoes floatToken (.dict d) := by
  have hreturns : Returns rt floatToken (.dict d) ↔ Echoes floatToken (.dict d) := returns_iff
  rw [roundTrip_eq_some_iff, ← hreturns]
  simp only [dictOf, Option.some.injEq, exists_eq_left', Returns]

/-! ## 6. Many round trips -/

/-- What decoding leaves comes back. -/
theorem echoes_of_stable {o : PyObj} (h : Stable o) : Echoes floatToken o.toPyVal := by
  induction h with
  | bool b => exact .bool b
  | int hn => exact .int hn
  | str hs => exact .str hs
  | @list os hne _ ih =>
    rw [PyObj.toPyVal, toPyVals_eq]
    refine .list (by simpa using hne) ?_
    intro e he
    obtain ⟨o, ho, rfl⟩ := List.mem_map.mp he
    exact ih o ho
  | @dict items hnodup hkey _ ih =>
    rw [PyObj.toPyVal, toPyItems_eq]
    have hkeys : (items.map fun item => (PyKey.str (ofString item.1), item.2.toPyVal)).map
        Prod.fst = (items.map Prod.fst).map fun s => PyKey.str (ofString s) := by
      rw [List.map_map, List.map_map]
      rfl
    refine .dict ?_ ?_ ?_ ?_
    · rw [hkeys]
      intro k hk
      obtain ⟨s, -, rfl⟩ := List.mem_map.mp hk
      exact ⟨s, rfl⟩
    · rw [hkeys]
      exact hnodup.map strKey_injective
    · rw [hkeys]
      obtain ⟨item, hitem, hne⟩ := hkey
      exact ⟨_, List.mem_map_of_mem (List.mem_map_of_mem hitem), strKey_injective.ne hne⟩
    · intro item hitem
      obtain ⟨item', hitem', rfl⟩ := List.mem_map.mp hitem
      exact ih item' hitem'

/-- **One round trip is as good as many.**  When the first one returns a dictionary, without floats
and within the limits of the interpreter, every further one returns it again: what is lost is lost
on the first way. -/
theorem roundTrips_succ {p : PyVal}
    (hfloats : ∀ d text doc, dictOf p = some d → serialize rt d = some text →
      document floatToken text = some doc → NoFloats doc)
    (hdict : ∀ v, roundTrip rt floatToken p = some v →
      ∃ items, v = .dict items ∧ rt.overLimit items = false) (n : ℕ) :
    roundTrips rt floatToken (n + 1) p = roundTrip rt floatToken p := by
  rw [roundTrips]
  cases hfirst : roundTrip rt floatToken p with
  | none => rfl
  | some v =>
    obtain ⟨items, rfl, hlimit⟩ := hdict v hfirst
    have hstable : Echoes floatToken (.dict items) := by
      simp only [roundTrip, Option.bind_eq_some_iff, Option.map_eq_some_iff] at hfirst
      obtain ⟨d, hd, text, htext, doc, hdoc, hv⟩ := hfirst
      rw [← hv]
      exact echoes_of_stable (stable_decode (hfloats d text doc hd htext hdoc))
    have hfix : roundTrip rt floatToken (.dict items) = some (.dict items) :=
      (roundTrip_eq_iff items).mpr ⟨hlimit, hstable⟩
    rw [Option.bind_some]
    induction n with
    | zero => rfl
    | succ n ih => rw [roundTrips, hfix, Option.bind_some, ih]

/-- `{"peers": [], "note": None}` comes back as `{"peers": "", "note": "null"}`, which stays. -/
theorem roundTrips_succ_peers :
    roundTrips unlimited (fun _ _ => { int := 0 }) 5
        (.dict [(.str (ofString "peers"), .list []), (.str (ofString "note"), .pyNone)]) =
      roundTrip unlimited (fun _ _ => { int := 0 })
        (.dict [(.str (ofString "peers"), .list []), (.str (ofString "note"), .pyNone)]) := by
  have hnote : ∀ x, convertValue "null" ≠ .float x := by
    have hnull : convertValue "null" = .str "null" := rfl
    simp [hnull]
  refine roundTrips_succ ?_ ?_ 4
  · intro d text doc hd htext hdoc
    cases hd
    cases htext
    cases hdoc
    refine .obj ?_
    intro m hm
    simp only [List.mem_cons, List.not_mem_nil, or_false] at hm
    rcases hm with rfl | rfl
    · exact .arr (List.forall_mem_nil _)
    · exact .scalar rfl hnote
  · intro v hv
    cases hv
    exact ⟨_, rfl, rfl⟩

end MoneroPython.Rpc
