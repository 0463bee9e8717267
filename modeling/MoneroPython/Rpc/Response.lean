/-
# What decoded responses preserve

Four questions about `decode`, the decoding of a response document.

* **Structure.**  `decode_mirrors`: a document without empty containers and without objects that
  have only empty keys keeps its structure at every depth.
* **Strings.**  `get?_decode_str_iff`: a string survives at its position exactly when no object
  on the way has only empty keys and the string is plain, that is neither `true` nor `false`
  nor the text of a number.
* **Integers.**  `get?_decode_int_iff`: an integer survives at its position exactly when no
  object on the way has only empty keys and it fits a 32-bit `int`.  Larger ones become floats.
* **Degenerate values.**  `get?_decode_keepsKind_iff`: `null` and the empty containers never keep
  their kind, and an object does exactly when it has a key that is not empty.

The last three rest on `get?_decode`, which follows a path through document and decoded object at
the same time.
-/
import MoneroPython.Rpc.Ptree

namespace MoneroPython.Rpc

/-! ## 1. Structure -/

/-- No array and no object is empty, and no object has only empty keys. -/
inductive Regular : Json → Prop where
  | null : Regular .null
  | bool (b : Bool) : Regular (.bool b)
  | num (t : JsonText.NumToken) : Regular (.num t)
  | str (s : String) : Regular (.str s)
  | arr {es : List Json} (hne : es ≠ []) (hes : ∀ e ∈ es, Regular e) : Regular (.arr es)
  | obj {ms : List (String × Json)} (hkey : ∃ m ∈ ms, m.1 ≠ "") (hms : ∀ m ∈ ms, Regular m.2) :
    Regular (.obj ms)

/-- The text of a scalar. -/
def scalarText : Json → Option String
  | .null => some "null"
  | .bool b => some (if b then "true" else "false")
  | .num t => some (String.ofList t.text)
  | .str s => some s
  | .arr _ => none
  | .obj _ => none

/-- `o` has the structure of the document: an array is a list of the same length with its
elements in order, an object a dictionary with exactly its keys, each bound to the last member
with that key, and a scalar is `convert_value` of its text. -/
inductive Mirrors : Json → PyObj → Prop where
  | scalar {d : Json} {text : String} (h : scalarText d = some text) :
    Mirrors d (convertValue text)
  | list {es : List Json} {os : List PyObj} (h : List.Forall₂ Mirrors es os) :
    Mirrors (.arr es) (.list os)
  | dict {ms : List (String × Json)} {items : List (String × PyObj)}
    (hnodup : (items.map Prod.fst).Nodup)
    (hkeys : ∀ k, k ∈ items.map Prod.fst ↔ k ∈ ms.map Prod.fst)
    (hitems : ∀ k v o, Assoc.lookupLast k ms = some v → items.lookup k = some o → Mirrors v o) :
    Mirrors (.obj ms) (.dict items)

theorem decode_of_scalarText {d : Json} {text : String} (h : scalarText d = some text) :
    decode d = convertValue text := by
  cases d with
  | arr es => cases h
  | obj ms => cases h
  | _ => cases h; rfl

theorem mirrors_of_scalarText {d : Json} {text : String} (h : scalarText d = some text) :
    Mirrors d (decode d) := by
  rw [decode_of_scalarText h]
  exact .scalar h

/-- A key of a decoded object is bound to the decoding of the last member with that key. -/
theorem lookup_decode_obj (ms : List (String × Json)) (k : String) :
    (Assoc.assignAll [] (ms.map fun m => (m.1, decode m.2))).lookup k =
      (Assoc.lookupLast k ms).map decode := by
  rw [Assoc.lookup_assignAll, Assoc.lookupLast_map, List.lookup_nil, Option.or_none]

/-- **Structural fidelity.**  The decoding of a regular document has its structure. -/
theorem decode_mirrors {d : Json} (h : Regular d) : Mirrors d (decode d) := by
  induction h with
  | null => exact mirrors_of_scalarText rfl
  | bool b => exact mirrors_of_scalarText rfl
  | num t => exact mirrors_of_scalarText rfl
  | str s => exact mirrors_of_scalarText rfl
  | @arr es hne _ ih =>
    rw [decode_arr hne]
    exact .list (List.forall₂_map_right_iff.mpr (List.forall₂_same.mpr ih))
  | @obj ms hkey _ ih =>
    rw [decode_obj hkey]
    refine .dict (Assoc.nodup_keys_assignAll List.nodup_nil) ?_ ?_
    · intro k
      rw [Assoc.mem_keys_assignAll, List.map_map]
      simp
    · intro k v o hv ho
      rw [lookup_decode_obj, hv, Option.map_some] at ho
      cases ho
      exact ih (k, v) (Assoc.mem_of_lookupLast hv)

/-- A document with a repeated key, where the last member wins. -/
theorem decode_mirrors_repeatedKey :
    Mirrors (.obj [("height", .num { int := 1 }), ("height", .arr [.null])])
      (decode (.obj [("height", .num { int := 1 }), ("height", .arr [.null])])) :=
  decode_mirrors (.obj ⟨("height", .num { int := 1 }), by simp⟩ (by
    intro m hm
    simp only [List.mem_cons, List.not_mem_nil, or_false] at hm
    rcases hm with rfl | rfl
    · exact .num _
    · exact .arr (by simp) (by simp [Regular.null])))

/-! ## 2. Positions -/

/-- The part of a Python object that one step leads to. -/
def PyObj.step? : Json.Step → PyObj → Option PyObj
  | .index i, .list os => os[i]?
  | .key k, .dict items => items.lookup k
  | _, _ => Option.none

/-- The part of a Python object at the end of a path. -/
def PyObj.get? : List Json.Step → PyObj → Option PyObj
  | [], o => some o
  | step :: p, o => (o.step? step).bind (PyObj.get? p)

/-- An object that the decoder takes for an array. -/
def Misread (d : Json) : Prop := ∃ ms, d = .obj ms ∧ ∀ m ∈ ms, m.1 = ""

/-- No object that the path goes through has only empty keys. -/
def KeepsObjects (d : Json) (p : List Json.Step) : Prop :=
  ∀ q step rest, p = q ++ step :: rest → ∀ d', d.get? q = some d' → ¬ Misread d'

theorem keepsObjects_nil (d : Json) : KeepsObjects d [] := by
  intro q step rest h
  simp at h

theorem keepsObjects_cons {d : Json} {step : Json.Step} {p : List Json.Step} :
    KeepsObjects d (step :: p) ↔
      ¬ Misread d ∧ ∀ d', d.step? step = some d' → KeepsObjects d' p := by
  constructor
  · intro h
    refine ⟨h [] step p rfl d rfl, ?_⟩
    intro d' hd' q step' rest hp d'' hq
    refine h (step :: q) step' rest (by rw [hp, List.cons_append]) d'' ?_
    rw [Json.get?_cons, hd', Option.bind_some, hq]
  · rintro ⟨hd, hrest⟩ q step' rest hp d' hq
    cases q with
    | nil =>
      cases hq
      exact hd
    | cons step₀ q =>
      obtain ⟨rfl, hp'⟩ := List.cons.inj hp
      rw [Json.get?_cons, Option.bind_eq_some_iff] at hq
      obtain ⟨d₀, hd₀, hq⟩ := hq
      exact hrest d₀ hd₀ q step' rest hp' d' hq

/-- One step: the decoder follows it except into an object that it misreads. -/
theorem step?_decode {d d' : Json} {step : Json.Step} (h : d.step? step = some d') :
    (Misread d → (decode d).step? step = none) ∧
      (¬ Misread d → (decode d).step? step = some (decode d')) := by
  cases d with
  | arr es =>
    cases step with
    | key k => cases h
    | index i =>
      have hne : es ≠ [] := by
        rintro rfl
        cases h
      have hes : es[i]? = some d' := h
      constructor
      · rintro ⟨ms, hms, -⟩
        cases hms
      · intro _
        rw [decode_arr hne, PyObj.step?, List.getElem?_map, hes, Option.map_some]
  | obj ms =>
    cases step with
    | index i => cases h
    | key k =>
      have hms : Assoc.lookupLast k ms = some d' := h
      have hmem := Assoc.mem_of_lookupLast hms
      constructor
      · rintro ⟨ms', hms', hall⟩
        cases hms'
        rw [decode_obj_of_all_empty (List.ne_nil_of_mem hmem) hall]
        rfl
      · intro hreads
        have hkey : ∃ m ∈ ms, m.1 ≠ "" := by
          by_contra hno
          push Not at hno
          exact hreads ⟨ms, rfl, hno⟩
        rw [decode_obj hkey, PyObj.step?, lookup_decode_obj, hms, Option.map_some]
  | _ => cases step <;> cases h

/-- **Following a path.**  What stands at the end of a path is decoded in its place, unless the
path goes through an object with only empty keys; then the place does not exist. -/
theorem get?_decode {p : List Json.Step} {d d' : Json} (h : d.get? p = some d') :
    (KeepsObjects d p → (decode d).get? p = some (decode d')) ∧
      (¬ KeepsObjects d p → (decode d).get? p = none) := by
  induction p generalizing d with
  | nil =>
    cases h
    constructor
    · intro _
      rfl
    · intro hno
      exact absurd (keepsObjects_nil _) hno
  | cons step p ih =>
    rw [Json.get?_cons, Option.bind_eq_some_iff] at h
    obtain ⟨d₀, hd₀, hrest⟩ := h
    obtain ⟨hmis, hreads⟩ := step?_decode hd₀
    have hiff : KeepsObjects d (step :: p) ↔ ¬ Misread d ∧ KeepsObjects d₀ p := by
      rw [keepsObjects_cons]
      simp [hd₀]
    rw [hiff]
    rcases Classical.em (Misread d) with hd | hd
    · constructor
      · intro hk
        exact absurd hd hk.1
      · intro _
        rw [PyObj.get?, hmis hd, Option.bind_none]
    · rw [PyObj.get?, hreads hd, Option.bind_some, and_iff_right hd]
      exact ih hrest

/-- What stands at the end of a path of the decoded object. -/
theorem get?_decode_eq_some_iff {p : List Json.Step} {d d' : Json} (h : d.get? p = some d')
    {o : PyObj} : (decode d).get? p = some o ↔ KeepsObjects d p ∧ decode d' = o := by
  obtain ⟨hkeep, hlose⟩ := get?_decode h
  by_cases hk : KeepsObjects d p
  · rw [hkeep hk, Option.some.injEq, and_iff_right hk]
  · simp [hlose hk, hk]

/-! ## 3. Strings -/

theorem get?_decode_str {d : Json} {p : List Json.Step} {s : String}
    (h : d.get? p = some (.str s)) :
    (decode d).get? p = some (.str s) ↔ KeepsObjects d p ∧ PlainText s := by
  rw [get?_decode_eq_some_iff h]
  apply and_congr_right
  intro _
  exact convertValue_eq_str_iff.trans (and_iff_right rfl)

/-- A decoded object holds a string only where the document has that string. -/
theorem eq_of_get?_decode_str {d : Json} {p : List Json.Step} {s s' : String}
    (h : d.get? p = some (.str s')) (hdec : (decode d).get? p = some (.str s)) : s = s' := by
  have hval : convertValue s' = .str s := ((get?_decode_eq_some_iff h).mp hdec).2
  exact (convertValue_eq_str_iff.mp hval).1

/-- **String fidelity.**  The string `s` at the end of a path is found there in the decoded
object if and only if no object on the way has only empty keys and `s` is plain.  Then a
document with another string in that place decodes to another object. -/
theorem get?_decode_str_iff {d : Json} {p : List Json.Step} {s : String}
    (h : d.get? p = some (.str s)) :
    ((decode d).get? p = some (.str s) ↔ KeepsObjects d p ∧ PlainText s) ∧
      (KeepsObjects d p ∧ PlainText s →
        ∀ d' s', d'.get? p = some (.str s') → s' ≠ s → decode d' ≠ decode d) := by
  refine ⟨get?_decode_str h, ?_⟩
  intro hplain d' s' h' hne heq
  have hdec := (get?_decode_str h).mpr hplain
  rw [← heq] at hdec
  exact hne (eq_of_get?_decode_str h' hdec).symm

theorem get?_decode_str_iff_status :
    ((decode (.obj [("status", .str "OK")])).get? [.key "status"] = some (.str "OK") ↔
        KeepsObjects (.obj [("status", .str "OK")]) [.key "status"] ∧ PlainText "OK") ∧
      (KeepsObjects (.obj [("status", .str "OK")]) [.key "status"] ∧ PlainText "OK" →
        ∀ d' s', d'.get? [.key "status"] = some (.str s') → s' ≠ "OK" →
          decode d' ≠ decode (.obj [("status", .str "OK")])) :=
  get?_decode_str_iff rfl

/-- A payment id that has only decimal digits comes back as an `int`. -/
theorem decode_str_digits :
    ¬ (decode (.obj [("payment_id", .str "123")])).get? [.key "payment_id"] =
      some (.str "123") := by
  have hint : (decode (.obj [("payment_id", .str "123")])).get? [.key "payment_id"] =
      some (.int 123) := rfl
  rw [hint]
  exact nofun

/-! ## 4. Integers -/

theorem integerText_of_isInteger {t : JsonText.NumToken} (h : t.IsInteger) :
    Strto.IntegerText t.text t.value := by
  have hval : t.value = Strto.signed t.neg (Nat.ofDigitChars 10 (Nat.toDigits 10 t.int) 0) := by
    rw [Nat.ofDigitChars_ten_toDigits]
    rfl
  have hdigits : ∀ c ∈ Nat.toDigits 10 t.int, c.isDigit = true := fun c hc =>
    Nat.isDigit_of_mem_toDigits (by decide) (by decide) hc
  rw [h.text_eq, hval]
  cases t.neg with
  | true => exact .mk (List.forall_mem_nil _) .minus Nat.toDigits_ne_nil hdigits
  | false => exact .mk (List.forall_mem_nil _) .none Nat.toDigits_ne_nil hdigits

theorem readsAsInt_token_iff {t : JsonText.NumToken} (h : t.IsInteger) :
    ReadsAsInt (String.ofList t.text) t.value ↔ IsInt32 t.value := by
  rw [ReadsAsInt, String.toList_ofList, and_iff_right (integerText_of_isInteger h)]

/-- **Integer exactness.**  The integer at the end of a path is found there in the decoded
object, as an `int` with its value, if and only if no object on the way has only empty keys and
the value fits a 32-bit `int`.  Of several members with one key only the last is at the end of a
path. -/
theorem get?_decode_int_iff {d : Json} {p : List Json.Step} {t : JsonText.NumToken}
    (h : d.get? p = some (.num t)) (hint : t.IsInteger) :
    (decode d).get? p = some (.int t.value) ↔ KeepsObjects d p ∧ IsInt32 t.value := by
  rw [get?_decode_eq_some_iff h]
  apply and_congr_right
  intro _
  exact convertValue_eq_int_iff.trans (readsAsInt_token_iff hint)

theorem get?_decode_int_iff_height :
    (decode (.obj [("height", .num { int := 3000000 })])).get? [.key "height"] =
        some (.int 3000000) ↔
      KeepsObjects (.obj [("height", .num { int := 3000000 })]) [.key "height"] ∧
        IsInt32 3000000 :=
  get?_decode_int_iff (t := { int := 3000000 }) rfl (by decide)

/-- An amount of 2^31 atomic units is not an `int` any more. -/
theorem decode_int_two_pow_31 :
    ¬ (decode (.obj [("amount", .num { int := 2147483648 })])).get? [.key "amount"] =
      some (.int 2147483648) := by
  intro h
  have hdec : decode (.num { int := 2147483648 }) = .int 2147483648 := Option.some.inj h
  rw [decode_of_scalarText rfl] at hdec
  exact absurd (convertValue_eq_int_iff.mp hdec).2 (by decide)

/-! ## 5. Degenerate values -/

/-- `null`, the empty array and the objects, the empty one among them. -/
def Degenerate (d : Json) : Prop := d = .null ∨ d = .arr [] ∨ ∃ ms, d = .obj ms

/-- The Python object has the kind of the value: `None` for `null`, an empty list for an empty
array, an empty dictionary for an empty object, and a dictionary for an object with members. -/
def KeepsKind : Json → PyObj → Prop
  | .null, o => o = .none
  | .arr [], o => o = .list []
  | .obj [], o => o = .dict []
  | .obj (_ :: _), o => ∃ items, o = .dict items
  | _, _ => True

/-- An object with a key that is not empty. -/
def HasKey (d : Json) : Prop := ∃ ms, d = .obj ms ∧ ∃ m ∈ ms, m.1 ≠ ""

/-- `null` is taken for a text. -/
theorem decode_null : decode .null = .str "null" := by
  rw [decode_of_scalarText rfl]
  rfl

/-- **One value.**  The decoder keeps the kind of a degenerate value only if it is an object with
a key that is not empty. -/
theorem keepsKind_decode_iff {d : Json} (hd : Degenerate d) :
    KeepsKind d (decode d) ↔ HasKey d := by
  rcases hd with rfl | rfl | ⟨ms, rfl⟩
  · simp [KeepsKind, HasKey, decode_null]
  · simp [KeepsKind, HasKey, decode_empty.1]
  · cases ms with
    | nil => simp [KeepsKind, HasKey, decode_empty.2]
    | cons m ms =>
      by_cases hkey : ∃ m' ∈ m :: ms, m'.1 ≠ ""
      · refine iff_of_true ?_ ⟨_, rfl, hkey⟩
        exact ⟨_, decode_obj hkey⟩
      · refine iff_of_false ?_ ?_
        · push Not at hkey
          rintro ⟨items, hitems⟩
          rw [decode_obj_of_all_empty (List.cons_ne_nil m ms) hkey] at hitems
          cases hitems
        · rintro ⟨ms', hms', hkey'⟩
          cases hms'
          exact hkey hkey'

/-- **Degenerate values.**  At the end of a path the decoded object has a value of the right kind
if and only if no object on the way has only empty keys and the value itself is an object with a
key that is not empty.  `null` and the empty containers never keep their kind.  Of several members
with one key only the last is at the end of a path. -/
theorem get?_decode_keepsKind_iff {d v : Json} {p : List Json.Step} (h : d.get? p = some v)
    (hv : Degenerate v) :
    (∃ o, (decode d).get? p = some o ∧ KeepsKind v o) ↔ KeepsObjects d p ∧ HasKey v := by
  rw [← keepsKind_decode_iff hv]
  constructor
  · rintro ⟨o, ho, hkind⟩
    obtain ⟨hk, rfl⟩ := (get?_decode_eq_some_iff h).mp ho
    exact ⟨hk, hkind⟩
  · rintro ⟨hk, hkind⟩
    exact ⟨decode v, (get?_decode_eq_some_iff h).mpr ⟨hk, rfl⟩, hkind⟩

theorem get?_decode_keepsKind_iff_result :
    (∃ o, (decode (.obj [("result", .obj [("", .null), ("id", .null)])])).get? [.key "result"] =
          some o ∧ KeepsKind (.obj [("", .null), ("id", .null)]) o) ↔
      KeepsObjects (.obj [("result", .obj [("", .null), ("id", .null)])]) [.key "result"] ∧
        HasKey (.obj [("", .null), ("id", .null)]) :=
  get?_decode_keepsKind_iff rfl (Or.inr (Or.inr ⟨_, rfl⟩))

/-- A response without peers has a text where the list of peers should be. -/
theorem decode_no_peers :
    ¬ ∃ o, (decode (.obj [("peers", .arr [])])).get? [.key "peers"] = some o ∧
      KeepsKind (.arr []) o := by
  have htext : (decode (.obj [("peers", .arr [])])).get? [.key "peers"] = some (.str "") := rfl
  rw [htext]
  rintro ⟨o, ho, hkind⟩
  cases ho
  cases hkind

end MoneroPython.Rpc
