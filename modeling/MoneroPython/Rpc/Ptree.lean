/-
# `PyGenUtils::ptree_to_pyobject`

`send_json_request` and `send_path_request` hand the property tree of the response to
`ptree_to_pyobject` (`common/py_monero_common.cpp`).  A property tree has a text and named
children at every node and nothing else, so the decoder has to find out from the children
whether a node was an array or an object, and from the text what a scalar was.

`readJson` is the tree that `boost::property_tree::read_json` builds: a scalar becomes a leaf
with its text, the elements of an array become children with the empty name, the members of an
object children with their key, and inner nodes have no text.  An empty array and an empty
object both become a leaf without text.

`decode_arr`, `decode_obj` and `decode_obj_of_all_empty` say what becomes of a
container in terms of its parts; everything else about decoded documents follows from them.
-/
import MoneroPython.Lib.Json
import MoneroPython.Rpc.Convert

namespace MoneroPython.Rpc

/-! ## 1. Property trees -/

/-- `boost::property_tree::ptree`. -/
inductive Ptree where
  | node (data : String) (children : List (String × Ptree))

namespace Ptree

mutual

/-- `boost::property_tree::read_json`. -/
def readJson : Json → Ptree
  | .null => .node "null" []
  | .bool b => .node (if b then "true" else "false") []
  | .num t => .node (String.ofList t.text) []
  | .str s => .node s []
  | .arr es => .node "" (readElements es)
  | .obj ms => .node "" (readMembers ms)

def readElements : List Json → List (String × Ptree)
  | [] => []
  | e :: es => ("", readJson e) :: readElements es

def readMembers : List (String × Json) → List (String × Ptree)
  | [] => []
  | (k, v) :: ms => (k, readJson v) :: readMembers ms

end

end Ptree

mutual

/-- `PyGenUtils::ptree_to_pyobject`. -/
def ptreeToPyobject : Ptree → PyObj
  | .node data children =>
    if children.isEmpty then convertValue data
    else if children.all (fun child => child.1 = "") then .list (appendChildren children)
    else
      .dict (assignChildren children
        (if data = "" then [] else [("__value__", convertValue data)]))

/-- The loop of the array branch. -/
def appendChildren : List (String × Ptree) → List PyObj
  | [] => []
  | (_, child) :: rest => ptreeToPyobject child :: appendChildren rest

/-- The loop of the object branch. -/
def assignChildren : List (String × Ptree) → List (String × PyObj) → List (String × PyObj)
  | [], d => d
  | (k, child) :: rest, d => assignChildren rest (Assoc.assign k (ptreeToPyobject child) d)

end

/-- What a request returns for a response document. -/
def decode (d : Json) : PyObj := ptreeToPyobject (Ptree.readJson d)

/-! ## 2. Containers in terms of their parts -/

theorem appendChildren_readElements (es : List Json) :
    appendChildren (Ptree.readElements es) = es.map decode := by
  induction es with
  | nil => rfl
  | cons e es ih => rw [Ptree.readElements, appendChildren, ih]; rfl

theorem appendChildren_readMembers (ms : List (String × Json)) :
    appendChildren (Ptree.readMembers ms) = ms.map fun m => decode m.2 := by
  induction ms with
  | nil => rfl
  | cons m ms ih => rw [Ptree.readMembers, appendChildren, ih]; rfl

theorem assignChildren_readMembers (ms : List (String × Json)) (d : List (String × PyObj)) :
    assignChildren (Ptree.readMembers ms) d =
      Assoc.assignAll d (ms.map fun m => (m.1, decode m.2)) := by
  induction ms generalizing d with
  | nil => rfl
  | cons m ms ih => rw [Ptree.readMembers, assignChildren, ih]; rfl

theorem all_readElements (es : List Json) :
    (Ptree.readElements es).all (fun child => child.1 = "") = true := by
  induction es with
  | nil => rfl
  | cons e es ih => rw [Ptree.readElements, List.all_cons, ih]; rfl

theorem all_readMembers (ms : List (String × Json)) :
    (Ptree.readMembers ms).all (fun child => child.1 = "") = ms.all (fun m => m.1 = "") := by
  induction ms with
  | nil => rfl
  | cons m ms ih => rw [Ptree.readMembers, List.all_cons, ih, List.all_cons]

/-- An array with elements becomes the list of its elements. -/
theorem decode_arr {es : List Json} (h : es ≠ []) : decode (.arr es) = .list (es.map decode) := by
  cases es with
  | nil => exact absurd rfl h
  | cons e es =>
    rw [decode, Ptree.readJson, ptreeToPyobject, if_neg (by simp [Ptree.readElements]),
      if_pos (all_readElements _), appendChildren_readElements]

/-- An object with a proper key becomes a dictionary, filled member by member. -/
theorem decode_obj {ms : List (String × Json)} (h : ∃ m ∈ ms, m.1 ≠ "") :
    decode (.obj ms) = .dict (Assoc.assignAll [] (ms.map fun m => (m.1, decode m.2))) := by
  have hall : ms.all (fun m => m.1 = "") = false := by simpa using h
  rw [decode, Ptree.readJson, ptreeToPyobject, all_readMembers, hall, if_neg, if_neg (by simp),
    if_pos rfl, assignChildren_readMembers]
  cases ms with
  | nil => simp at h
  | cons m ms => simp [Ptree.readMembers]

/-- An object that has only empty keys is taken for an array. -/
theorem decode_obj_of_all_empty {ms : List (String × Json)} (hne : ms ≠ [])
    (h : ∀ m ∈ ms, m.1 = "") : decode (.obj ms) = .list (ms.map fun m => decode m.2) := by
  have hall : ms.all (fun m => m.1 = "") = true := by simpa using h
  rw [decode, Ptree.readJson, ptreeToPyobject, all_readMembers, hall, if_neg, if_pos rfl,
    appendChildren_readMembers]
  cases ms with
  | nil => exact absurd rfl hne
  | cons m ms => simp [Ptree.readMembers]

/-- An empty container is taken for an empty text. -/
theorem decode_empty : decode (.arr []) = .str "" ∧ decode (.obj []) = .str "" :=
  ⟨rfl, rfl⟩

end MoneroPython.Rpc
