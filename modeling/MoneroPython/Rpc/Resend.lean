/-
# Sending a decoded response

Decoding loses much: the types of scalars, the kind of empty containers, repeated keys, objects
with only empty keys.  What is left is stable.  A decoded response that is printed with
`PyGenUtils::serialize` and read and decoded again is the same Python object (`resend_decode`),
as long as no scalar has become a float.

The text between printing and reading is the document that it denotes.  An infinite float or a
NaN is printed as no document, and neither is a string with an unpaired surrogate.
-/
import MoneroPython.Rpc.Params
import MoneroPython.Rpc.Response

namespace MoneroPython.Rpc

open JsonText Utf16

/-! ## 1. Printing and reading again -/

mutual

/-- A decoded object as an object that `json.dumps` prints. -/
def PyObj.toPyVal : PyObj → PyVal
  | .none => .pyNone
  | .bool b => .bool b
  | .int n => .int n
  | .float d => .float d
  | .str s => .str (ofString s)
  | .list os => .list (PyObj.toPyVals os)
  | .dict items => .dict (PyObj.toPyItems items)

def PyObj.toPyVals : List PyObj → List PyVal
  | [] => []
  | o :: os => o.toPyVal :: PyObj.toPyVals os

def PyObj.toPyItems : List (String × PyObj) → List (PyKey × PyVal)
  | [] => []
  | (k, o) :: items => (.str (ofString k), o.toPyVal) :: PyObj.toPyItems items

end

/-- The token that an integer is printed as. -/
def NumToken.ofInt (n : ℤ) : NumToken := { neg := decide (n < 0), int := n.natAbs }

section Document

variable (floatToken : Bool → ℚ → NumToken)

mutual

/-- The document that a printed text denotes, or nothing when it is no JSON.  `floatToken` is the
token that a finite float is printed as. -/
def document : Dumped → Option Json
  | .null => some .null
  | .bool b => some (.bool b)
  | .num (.int n) => some (.num (NumToken.ofInt n))
  | .num (.float neg q) => some (.num (floatToken neg q))
  | .nan => none
  | .infinity _ => none
  | .str units => (parseString units).map .str
  | .arr es => (documentElements es).map .arr
  | .obj ms => (documentMembers ms).map .obj

def documentElements : List Dumped → Option (List Json)
  | [] => some []
  | e :: es => (document e).bind fun d => (documentElements es).map (d :: ·)

def documentMembers : List (List ℕ × Dumped) → Option (List (String × Json))
  | [] => some []
  | (units, e) :: ms =>
    (parseString units).bind fun name =>
      (document e).bind fun d => (documentMembers ms).map ((name, d) :: ·)

end

end Document

/-- The dictionary `{k: v}` through `PyGenUtils::serialize`, `read_json` and
`ptree_to_pyobject`, or nothing when one of them raises. -/
def resend (rt : PythonRuntime) (floatToken : Bool → ℚ → NumToken) (k : String) (v : PyObj) :
    Option PyObj :=
  (serialize rt (PyObj.toPyItems [(k, v)])).bind fun text =>
    (document floatToken text).map decode

/-! ## 2. What decoding leaves -/

/-- The objects that decoding yields when there are no floats. -/
inductive Stable : PyObj → Prop where
  | bool (b : Bool) : Stable (.bool b)
  | int {n : ℤ} (h : IsInt32 n) : Stable (.int n)
  | str {s : String} (h : PlainText s) : Stable (.str s)
  | list {os : List PyObj} (hne : os ≠ []) (hos : ∀ o ∈ os, Stable o) : Stable (.list os)
  | dict {items : List (String × PyObj)} (hnodup : (items.map Prod.fst).Nodup)
    (hkey : ∃ item ∈ items, item.1 ≠ "") (hitems : ∀ item ∈ items, Stable item.2) :
    Stable (.dict items)

/-- No scalar of the document is decoded as a float. -/
inductive NoFloats : Json → Prop where
  | scalar {d : Json} {text : String} (htext : scalarText d = some text)
    (hfloat : ∀ x, convertValue text ≠ .float x) : NoFloats d
  | arr {es : List Json} (hes : ∀ e ∈ es, NoFloats e) : NoFloats (.arr es)
  | obj {ms : List (String × Json)} (hms : ∀ m ∈ ms, NoFloats m.2) : NoFloats (.obj ms)

theorem stable_convertValue {text : String} (h : ∀ x, convertValue text ≠ .float x) :
    Stable (convertValue text) := by
  rcases convertValue_cases text with ⟨-, hc⟩ | ⟨-, hc⟩ | ⟨n, hn, hc⟩ | ⟨x, -, -, hc⟩ | ⟨hp, hc⟩
  · rw [hc]
    exact .bool true
  · rw [hc]
    exact .bool false
  · rw [hc]
    exact .int hn.2
  · exact absurd hc (h x)
  · rw [hc]
    exact .str hp

/-- The empty text is plain; it is what the empty containers become. -/
theorem stable_empty : Stable (.str "") :=
  .str (convertValue_eq_str_iff.mp (rfl : convertValue "" = .str "")).2

theorem stable_list_map {α : Type} {f : α → PyObj} {l : List α} (hne : l ≠ [])
    (h : ∀ a ∈ l, Stable (f a)) : Stable (.list (l.map f)) := by
  refine .list (by simpa using hne) ?_
  intro o ho
  obtain ⟨a, ha, rfl⟩ := List.mem_map.mp ho
  exact h a ha

/-- **What decoding leaves.** -/
theorem stable_decode {d : Json} (h : NoFloats d) : Stable (decode d) := by
  induction h with
  | scalar htext hfloat =>
    rw [decode_of_scalarText htext]
    exact stable_convertValue hfloat
  | @arr es _ ih =>
    rcases eq_or_ne es [] with rfl | hne
    · rw [decode_empty.1]
      exact stable_empty
    · rw [decode_arr hne]
      exact stable_list_map hne ih
  | @obj ms _ ih =>
    rcases eq_or_ne ms [] with rfl | hne
    · rw [decode_empty.2]
      exact stable_empty
    by_cases hkey : ∃ m ∈ ms, m.1 ≠ ""
    · rw [decode_obj hkey]
      refine .dict (Assoc.nodup_keys_assignAll List.nodup_nil) ?_ ?_
      · obtain ⟨m, hm, hmkey⟩ := hkey
        have hmem : m.1 ∈ (Assoc.assignAll [] (ms.map fun m => (m.1, decode m.2))).map Prod.fst :=
          Assoc.mem_keys_assignAll.mpr (Or.inr (by simpa using ⟨m.2, hm⟩))
        obtain ⟨item, hitem, hfst⟩ := List.mem_map.mp hmem
        exact ⟨item, hitem, hfst ▸ hmkey⟩
      · intro item hitem
        rcases Assoc.mem_assignAll hitem with hnil | hmem
        · cases hnil
        · obtain ⟨m, hm, rfl⟩ := List.mem_map.mp hmem
          exact ih m hm
    · have hall : ∀ m ∈ ms, m.1 = "" := by
        push Not at hkey
        exact hkey
      rw [decode_obj_of_all_empty hne hall]
      exact stable_list_map hne ih

/-! ## 3. Texts -/

/-- The content of a string is read back: no character is a surrogate. -/
theorem parseString_encode_ofString (s : String) : parseString (encode (ofString s)) = some s := by
  rw [parseString, ofString, decode_encode_chars, Option.map_some, String.ofList_toList]

theorem NumToken.value_ofInt (n : ℤ) : (NumToken.ofInt n).value = n := by
  rcases lt_or_ge n 0 with hneg | hpos
  · simp [JsonText.NumToken.value, NumToken.ofInt, hneg, abs_of_neg hneg]
  · simp [JsonText.NumToken.value, NumToken.ofInt, not_lt.mpr hpos, abs_of_nonneg hpos]

/-- An integer that fits is read back. -/
theorem decode_ofInt {n : ℤ} (h : IsInt32 n) : decode (.num (NumToken.ofInt n)) = .int n := by
  have htoken : (NumToken.ofInt n).IsInteger := ⟨rfl, rfl⟩
  rw [decode_of_scalarText rfl]
  refine convertValue_eq_int_iff.mpr ?_
  have hreads := (readsAsInt_token_iff htoken).mpr (by rwa [NumToken.value_ofInt])
  rwa [NumToken.value_ofInt] at hreads

/-! ## 4. The round trip -/

/-- `o` is printed, and its text is read and decoded as `o` again. -/
def Rereads (rt : PythonRuntime) (floatToken : Bool → ℚ → NumToken) (o : PyObj) : Prop :=
  ∃ text d, dumps rt o.toPyVal = some text ∧ document floatToken text = some d ∧ decode d = o

variable {rt : PythonRuntime} {floatToken : Bool → ℚ → NumToken}

/-- The elements of a list, one after the other. -/
theorem Rereads.elements {os : List PyObj} (h : ∀ o ∈ os, Rereads rt floatToken o) :
    ∃ texts ds, dumpsElements rt (PyObj.toPyVals os) = some texts ∧
      documentElements floatToken texts = some ds ∧ ds.map decode = os := by
  induction os with
  | nil => exact ⟨[], [], rfl, rfl, rfl⟩
  | cons o os ih =>
    obtain ⟨ho, hos⟩ := List.forall_mem_cons.mp h
    obtain ⟨text, d, htext, hd, rfl⟩ := ho
    obtain ⟨texts, ds, htexts, hds, rfl⟩ := ih hos
    refine ⟨text :: texts, d :: ds, ?_, ?_, rfl⟩
    · rw [PyObj.toPyVals, dumpsElements, htext, Option.bind_some, htexts, Option.map_some]
    · rw [documentElements, hd, Option.bind_some, hds, Option.map_some]

/-- The items of a dictionary, one after the other. -/
theorem Rereads.items {items : List (String × PyObj)}
    (h : ∀ item ∈ items, Rereads rt floatToken item.2) :
    ∃ texts ms, dumpsItems rt (PyObj.toPyItems items) = some texts ∧
      documentMembers floatToken texts = some ms ∧
      (ms.map fun m => (m.1, decode m.2)) = items := by
  induction items with
  | nil => exact ⟨[], [], rfl, rfl, rfl⟩
  | cons item items ih =>
    obtain ⟨k, o⟩ := item
    obtain ⟨ho, hitems⟩ := List.forall_mem_cons.mp h
    obtain ⟨text, d, htext, hd, hdec⟩ := ho
    obtain ⟨texts, ms, htexts, hms, hmap⟩ := ih hitems
    refine ⟨(encode (ofString k), text) :: texts, (k, d) :: ms, ?_, ?_, ?_⟩
    · rw [PyObj.toPyItems, dumpsItems, keyText, Option.bind_some, htext, Option.bind_some, htexts,
        Option.map_some]
    · rw [documentMembers, parseString_encode_ofString, Option.bind_some, hd, Option.bind_some, hms,
        Option.map_some]
    · rw [List.map_cons, hmap, hdec]

/-- **Stable objects come back.** -/
theorem rereads_of_stable {o : PyObj} (h : Stable o) : Rereads rt floatToken o := by
  induction h with
  | bool b =>
    refine ⟨.bool b, .bool b, rfl, rfl, ?_⟩
    rw [decode_of_scalarText rfl]
    exact convertValue_eq_bool_iff.mpr rfl
  | @int n hn => exact ⟨.num (.int n), .num (NumToken.ofInt n), rfl, rfl, decode_ofInt hn⟩
  | @str s hs =>
    refine ⟨.str (encode (ofString s)), .str s, rfl, ?_, ?_⟩
    · rw [document, parseString_encode_ofString, Option.map_some]
    · rw [decode_of_scalarText rfl]
      exact convertValue_eq_str_iff.mpr ⟨rfl, hs⟩
  | @list os hne _ ih =>
    obtain ⟨texts, ds, htexts, hds, hmap⟩ := Rereads.elements ih
    refine ⟨.arr texts, .arr ds, ?_, ?_, ?_⟩
    · rw [PyObj.toPyVal, dumps, htexts, Option.map_some]
    · rw [document, hds, Option.map_some]
    · rw [decode_arr, hmap]
      rintro rfl
      exact hne hmap.symm
  | @dict items hnodup hkey _ ih =>
    obtain ⟨texts, ms, htexts, hms, hmap⟩ := Rereads.items ih
    refine ⟨.obj texts, .obj ms, ?_, ?_, ?_⟩
    · rw [PyObj.toPyVal, dumps, htexts, Option.map_some]
    · rw [document, hms, Option.map_some]
    · rw [decode_obj, hmap, Assoc.assignAll_of_nodup hnodup, List.nil_append]
      obtain ⟨item, hitem, hne⟩ := hkey
      rw [← hmap] at hitem
      obtain ⟨m, hm, rfl⟩ := List.mem_map.mp hitem
      exact ⟨m, hm, hne⟩

/-- **Decoded responses are stable.**  The decoding of a document without floats, printed as the
value of a key that is not empty and read and decoded again, is the same object under the same
key. -/
theorem resend_decode (floatToken : Bool → ℚ → NumToken) {d : Json} (hd : NoFloats d) {k : String}
    (hk : k ≠ "") (hlimit : rt.overLimit (PyObj.toPyItems [(k, decode d)]) = false) :
    resend rt floatToken k (decode d) = some (.dict [(k, decode d)]) := by
  have hstable : Stable (.dict [(k, decode d)]) := by
    refine .dict (List.nodup_singleton k) ⟨_, List.mem_singleton_self _, hk⟩ ?_
    intro item hitem
    rw [List.mem_singleton.mp hitem]
    exact stable_decode hd
  have hrereads : Rereads rt floatToken (.dict [(k, decode d)]) := rereads_of_stable hstable
  obtain ⟨text, d', htext, hd', hdec⟩ := hrereads
  have hserialize : serialize rt (PyObj.toPyItems [(k, decode d)]) = some text := by
    rw [serialize, hlimit, if_neg Bool.false_ne_true]
    exact htext
  rw [resend, hserialize, Option.bind_some, hd', Option.map_some, hdec]

/-- An empty array, a text that looks like a number and is overwritten by `null`, and an object
that is taken for an array. -/
def lossyResponse : Json :=
  .obj [("peers", .arr []), ("note", .str "12"), ("note", .null),
    ("flags", .obj [("", .bool true)])]

theorem noFloats_lossyResponse : NoFloats lossyResponse := by
  have hdigits : convertValue "12" = .int 12 := rfl
  have hnull : convertValue "null" = .str "null" := rfl
  have htrue : convertValue "true" = .bool true := rfl
  have hflags : NoFloats (.obj [("", .bool true)]) := by
    refine .obj ?_
    intro m hm
    rw [List.mem_singleton.mp hm]
    exact .scalar rfl (by simp [htrue])
  refine .obj ?_
  simp only [List.forall_mem_cons]
  exact ⟨.arr (by simp), .scalar rfl (by simp [hdigits]), .scalar rfl (by simp [hnull]), hflags,
    by simp⟩

theorem resend_decode_lossyResponse :
    resend { floatRepr := fun _ _ => "0.0", overLimit := fun _ => false } (fun _ _ => { int := 0 })
        "result" (decode lossyResponse) =
      some (.dict [("result", decode lossyResponse)]) :=
  resend_decode (fun _ _ => { int := 0 }) noFloats_lossyResponse (by decide) rfl

end MoneroPython.Rpc
