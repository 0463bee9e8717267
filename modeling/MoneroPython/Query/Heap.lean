/-
# The heap of query objects and its five link setters

A `MoneroTxQuery` has three slots for child queries: `transfer_query`, `input_query` and
`output_query`.  The last two hold the same type of child.  Each child points back to a tx
query with `tx_query`.  Python sets these links through five setters
(`wallet/py_monero_wallet_bindings.cpp`): one property for each slot, the `tx_query` property
of `MoneroTransferQuery`, and `MoneroOutputQuery.set_tx_query`.

The three slot properties share the template `PyMoneroUtils::set_query`
(`utils/py_monero_utils.h`).  The two child-side setters are written out by hand, and only the
template guards the case that old and new link are the same object.

Objects are named by the elements of three arbitrary types: `τ` for tx queries, `κ` for
transfer queries and `ω` for output queries.  `None` and a null pointer are `none`.
-/
import MoneroPython.Lib.LinkGraph

namespace MoneroPython.Query

/-! ## 1. The objects -/

/-- The link slots of a `MoneroTxQuery`. -/
@[ext]
structure MoneroTxQuery (κ ω : Type*) where
  transferQuery : Option κ := none
  inputQuery : Option ω := none
  outputQuery : Option ω := none

/-- The back link of a `MoneroTransferQuery`. -/
@[ext]
structure MoneroTransferQuery (τ : Type*) where
  txQuery : Option τ := none

/-- The back link of a `MoneroOutputQuery`. -/
@[ext]
structure MoneroOutputQuery (τ : Type*) where
  txQuery : Option τ := none

/-- The heap: what each query object currently contains. -/
@[ext]
structure Heap (τ κ ω : Type*) where
  txQueries : τ → MoneroTxQuery κ ω
  transferQueries : κ → MoneroTransferQuery τ
  outputQueries : ω → MoneroOutputQuery τ

variable {τ κ ω : Type*}

namespace Heap

/-- All objects freshly constructed, none linked. -/
def fresh : Heap τ κ ω where
  txQueries _ := {}
  transferQueries _ := {}
  outputQueries _ := {}

section Write

variable [DecidableEq τ] [DecidableEq κ] [DecidableEq ω]

def writeTransferQuery (h : Heap τ κ ω) (t : τ) (v : Option κ) : Heap τ κ ω :=
  { h with txQueries := Function.update h.txQueries t { h.txQueries t with transferQuery := v } }

def writeInputQuery (h : Heap τ κ ω) (t : τ) (v : Option ω) : Heap τ κ ω :=
  { h with txQueries := Function.update h.txQueries t { h.txQueries t with inputQuery := v } }

def writeOutputQuery (h : Heap τ κ ω) (t : τ) (v : Option ω) : Heap τ κ ω :=
  { h with txQueries := Function.update h.txQueries t { h.txQueries t with outputQuery := v } }

def writeTransferTxQuery (h : Heap τ κ ω) (q : κ) (v : Option τ) : Heap τ κ ω :=
  { h with transferQueries := Function.update h.transferQueries q ⟨v⟩ }

def writeOutputTxQuery (h : Heap τ κ ω) (q : ω) (v : Option τ) : Heap τ κ ω :=
  { h with outputQueries := Function.update h.outputQueries q ⟨v⟩ }

end Write

end Heap

/-! ## 2. The template behind the three slot properties -/

/-- What an instance of `set_query` reads and writes: the slot of the parent it is given by
reference, and `m_tx_query` of the slot's children. -/
structure Field (H τ κ : Type*) where
  get : H → τ → Option κ
  set : H → τ → Option κ → H
  setTxQuery : H → κ → Option τ → H

/-- `PyMoneroUtils::set_query`. -/
def setQuery {H : Type*} [DecidableEq κ] (field : Field H τ κ) (h : H) (self : τ)
    (val : Option κ) : H :=
  let old := field.get h self
  let h := field.set h self val
  -- set new reference
  let h := match field.get h self with
    | some new => field.setTxQuery h new (some self)
    | none => h
  -- cleanup old
  match old with
  | some o => if field.get h self = some o then h else field.setTxQuery h o none
  | none => h

section Setters

variable [DecidableEq τ] [DecidableEq κ] [DecidableEq ω]

def transferField : Field (Heap τ κ ω) τ κ where
  get h t := (h.txQueries t).transferQuery
  set := Heap.writeTransferQuery
  setTxQuery := Heap.writeTransferTxQuery

def inputField : Field (Heap τ κ ω) τ ω where
  get h t := (h.txQueries t).inputQuery
  set := Heap.writeInputQuery
  setTxQuery := Heap.writeOutputTxQuery

def outputField : Field (Heap τ κ ω) τ ω where
  get h t := (h.txQueries t).outputQuery
  set := Heap.writeOutputQuery
  setTxQuery := Heap.writeOutputTxQuery

/-! ## 3. The five setters -/

namespace Heap

/-- `MoneroTxQuery.transfer_query = val`. -/
def setTransferQuery (h : Heap τ κ ω) (self : τ) (val : Option κ) : Heap τ κ ω :=
  setQuery transferField h self val

/-- `MoneroTxQuery.input_query = val`. -/
def setInputQuery (h : Heap τ κ ω) (self : τ) (val : Option ω) : Heap τ κ ω :=
  setQuery inputField h self val

/-- `MoneroTxQuery.output_query = val`. -/
def setOutputQuery (h : Heap τ κ ω) (self : τ) (val : Option ω) : Heap τ κ ω :=
  setQuery outputField h self val

/-- `MoneroTransferQuery.tx_query = val`. -/
def setTransferTxQuery (h : Heap τ κ ω) (self : κ) (val : Option τ) : Heap τ κ ω :=
  let oldQuery := (h.transferQueries self).txQuery
  let h := h.writeTransferTxQuery self val
  let h := match val with
    | some t => h.writeTransferQuery t (some self)
    | none => h.writeTransferTxQuery self none
  match oldQuery with
  | some t₀ => h.writeTransferQuery t₀ none
  | none => h

/-- `MoneroOutputQuery.set_tx_query(val, output_query)`. -/
def setOutputTxQuery (h : Heap τ κ ω) (self : ω) (val : Option τ) (outputQuery : Bool) :
    Heap τ κ ω :=
  let oldQuery := (h.outputQueries self).txQuery
  let h := match val with
    | some t =>
      let h := h.writeOutputTxQuery self (some t)
      if outputQuery then h.writeOutputQuery t (some self) else h.writeInputQuery t (some self)
    | none => h.writeOutputTxQuery self none
  match oldQuery with
  | some t₀ => if outputQuery then h.writeOutputQuery t₀ none else h.writeInputQuery t₀ none
  | none => h

end Heap

/-- One assignment a Python caller can make. -/
inductive Setter (τ κ ω : Type*) where
  | transferQuery (self : τ) (val : Option κ)
  | inputQuery (self : τ) (val : Option ω)
  | outputQuery (self : τ) (val : Option ω)
  | transferTxQuery (self : κ) (val : Option τ)
  | outputTxQuery (self : ω) (val : Option τ) (outputQuery : Bool)

/-- Perform one assignment. -/
def Heap.assign (h : Heap τ κ ω) : Setter τ κ ω → Heap τ κ ω
  | .transferQuery self val => h.setTransferQuery self val
  | .inputQuery self val => h.setInputQuery self val
  | .outputQuery self val => h.setOutputQuery self val
  | .transferTxQuery self val => h.setTransferTxQuery self val
  | .outputTxQuery self val outputQuery => h.setOutputTxQuery self val outputQuery

end Setters

/-! ## 4. The heap as two link graphs

The transfer queries and the output queries are two separate link graphs over the same tx
queries.  Each setter is one of the two general writers on one of the graphs and does nothing
to the other. -/

/-- The two slots that hold a `MoneroOutputQuery`. -/
inductive OutputSlot where
  | input
  | output
deriving DecidableEq

/-- The slot that `set_tx_query` writes for a given flag. -/
def OutputSlot.ofFlag (outputQuery : Bool) : OutputSlot :=
  if outputQuery then .output else .input

def OutputSlot.other : OutputSlot → OutputSlot
  | .input => .output
  | .output => .input

def MoneroTxQuery.outputSlot (t : MoneroTxQuery κ ω) : OutputSlot → Option ω
  | .input => t.inputQuery
  | .output => t.outputQuery

namespace Heap

/-- One place for each tx query. -/
def transferLinks (h : Heap τ κ ω) : LinkGraph τ κ τ where
  slot t := (h.txQueries t).transferQuery
  back q := (h.transferQueries q).txQuery

/-- Two places for each tx query. -/
def outputLinks (h : Heap τ κ ω) : LinkGraph (τ × OutputSlot) ω τ where
  slot p := (h.txQueries p.1).outputSlot p.2
  back q := (h.outputQueries q).txQuery

end Heap

section Views

variable {H σ γ : Type*} [DecidableEq σ] [DecidableEq γ]

/-- A view of the heap in which the template's reads and writes are those of the place
`place self`. -/
structure Field.Sees (field : Field H τ γ) (view : H → LinkGraph σ γ τ) (place : τ → σ) :
    Prop where
  get : ∀ h t, field.get h t = (view h).slot (place t)
  set : ∀ h t v, view (field.set h t v) = (view h).setSlot (place t) v
  setTxQuery : ∀ h c v, view (field.setTxQuery h c v) = (view h).setBack c v

/-- **The template writes one place.**  In every view that sees the field, `set_query` is the
general writer of a place. -/
theorem setQuery_assign {field : Field H τ γ} {view : H → LinkGraph σ γ τ} {place : τ → σ}
    {owner : σ → τ} (hsees : field.Sees view place) (howner : ∀ t, owner (place t) = t) (h : H)
    (self : τ) (val : Option γ) :
    view (setQuery field h self val) = (view h).assign owner (place self) val := by
  unfold setQuery LinkGraph.assign
  rcases val with _ | c <;> rcases hold : (view h).slot (place self) with _ | o
  · simp [hsees.get, hsees.set, hold]
  · simp [hsees.get, hsees.set, hsees.setTxQuery, hold]
  · simp [hsees.get, hsees.set, hsees.setTxQuery, hold, howner]
  · simp only [hsees.get, hsees.set, hsees.setTxQuery, hold, howner, LinkGraph.setSlot_self,
      LinkGraph.setBack_slot]
    split <;> simp only [hsees.set, hsees.setTxQuery]

/-- What the back links do not show, `set_query` changes by the write of the slot alone. -/
theorem setQuery_slots {α : Type*} {field : Field H τ γ} {view : H → α}
    (htx : ∀ h c v, view (field.setTxQuery h c v) = view h) (h : H) (self : τ)
    (val : Option γ) : view (setQuery field h self val) = view (field.set h self val) := by
  unfold setQuery
  dsimp only
  split <;> split <;> try split
  all_goals simp only [htx]

/-- What the field's writes do not change, `set_query` does not change. -/
theorem setQuery_blind {α : Type*} {field : Field H τ γ} {view : H → α}
    (hset : ∀ h t v, view (field.set h t v) = view h)
    (htx : ∀ h c v, view (field.setTxQuery h c v) = view h) (h : H) (self : τ)
    (val : Option γ) : view (setQuery field h self val) = view h :=
  (setQuery_slots htx h self val).trans (hset h self val)

end Views

namespace Heap

section TxWrites

variable [DecidableEq τ] (h : Heap τ κ ω) (t : τ)

@[simp] theorem transferLinks_writeTransferQuery (v : Option κ) :
    (h.writeTransferQuery t v).transferLinks = h.transferLinks.setSlot t v := by
  ext s : 2
  · by_cases hs : s = t <;>
      simp [transferLinks, writeTransferQuery, LinkGraph.setSlot, Function.update_apply, hs]
  · rfl

@[simp] theorem transferLinks_writeInputQuery (v : Option ω) :
    (h.writeInputQuery t v).transferLinks = h.transferLinks := by
  ext s : 2
  · by_cases hs : s = t <;> simp [transferLinks, writeInputQuery, Function.update_apply, hs]
  · rfl

@[simp] theorem transferLinks_writeOutputQuery (v : Option ω) :
    (h.writeOutputQuery t v).transferLinks = h.transferLinks := by
  ext s : 2
  · by_cases hs : s = t <;> simp [transferLinks, writeOutputQuery, Function.update_apply, hs]
  · rfl

@[simp] theorem outputLinks_writeTransferQuery (v : Option κ) :
    (h.writeTransferQuery t v).outputLinks = h.outputLinks := by
  ext s : 2
  · obtain ⟨u, slot⟩ := s
    by_cases hu : u = t <;> cases slot <;>
      simp [outputLinks, writeTransferQuery, MoneroTxQuery.outputSlot, Function.update_apply, hu]
  · rfl

@[simp] theorem outputLinks_writeInputQuery (v : Option ω) :
    (h.writeInputQuery t v).outputLinks = h.outputLinks.setSlot (t, .input) v := by
  ext s : 2
  · obtain ⟨u, slot⟩ := s
    by_cases hu : u = t <;> cases slot <;>
      simp [outputLinks, writeInputQuery, MoneroTxQuery.outputSlot, LinkGraph.setSlot,
        Function.update_apply, hu]
  · rfl

@[simp] theorem outputLinks_writeOutputQuery (v : Option ω) :
    (h.writeOutputQuery t v).outputLinks = h.outputLinks.setSlot (t, .output) v := by
  ext s : 2
  · obtain ⟨u, slot⟩ := s
    by_cases hu : u = t <;> cases slot <;>
      simp [outputLinks, writeOutputQuery, MoneroTxQuery.outputSlot, LinkGraph.setSlot,
        Function.update_apply, hu]
  · rfl

end TxWrites

section ChildWrites

variable (h : Heap τ κ ω) (v : Option τ)

@[simp] theorem transferLinks_writeTransferTxQuery [DecidableEq κ] (q : κ) :
    (h.writeTransferTxQuery q v).transferLinks = h.transferLinks.setBack q v := by
  ext s : 2
  · rfl
  · by_cases hs : s = q <;>
      simp [transferLinks, writeTransferTxQuery, LinkGraph.setBack, Function.update_apply, hs]

@[simp] theorem transferLinks_writeOutputTxQuery [DecidableEq ω] (q : ω) :
    (h.writeOutputTxQuery q v).transferLinks = h.transferLinks :=
  rfl

@[simp] theorem outputLinks_writeTransferTxQuery [DecidableEq κ] (q : κ) :
    (h.writeTransferTxQuery q v).outputLinks = h.outputLinks :=
  rfl

@[simp] theorem outputLinks_writeOutputTxQuery [DecidableEq ω] (q : ω) :
    (h.writeOutputTxQuery q v).outputLinks = h.outputLinks.setBack q v := by
  ext s : 2
  · rfl
  · by_cases hs : s = q <;>
      simp [outputLinks, writeOutputTxQuery, LinkGraph.setBack, Function.update_apply, hs]

end ChildWrites

/-! ## 5. Each setter as a general writer -/

section Transfer

variable [DecidableEq τ] [DecidableEq κ] (h : Heap τ κ ω)

theorem transferField_sees :
    (transferField : Field (Heap τ κ ω) τ κ).Sees transferLinks id where
  get _ _ := rfl
  set := transferLinks_writeTransferQuery
  setTxQuery h c v := transferLinks_writeTransferTxQuery h v c

theorem transferLinks_setTransferQuery (t : τ) (v : Option κ) :
    (h.setTransferQuery t v).transferLinks = h.transferLinks.assign id t v :=
  setQuery_assign transferField_sees (fun _ => rfl) h t v

theorem outputLinks_setTransferQuery (t : τ) (v : Option κ) :
    (h.setTransferQuery t v).outputLinks = h.outputLinks :=
  setQuery_blind outputLinks_writeTransferQuery
    (fun h q v => outputLinks_writeTransferTxQuery h v q) h t v

theorem transferLinks_setTransferTxQuery (q : κ) (v : Option τ) :
    (h.setTransferTxQuery q v).transferLinks = h.transferLinks.attach id q v := by
  have hold : h.transferLinks.back q = (h.transferQueries q).txQuery := rfl
  unfold setTransferTxQuery LinkGraph.attach
  rw [hold]
  rcases v with _ | t <;> rcases (h.transferQueries q).txQuery with _ | t₀
  · simp [LinkGraph.setBack]
  · simp [LinkGraph.setBack]
  · simp
  · simp

theorem outputLinks_setTransferTxQuery (q : κ) (v : Option τ) :
    (h.setTransferTxQuery q v).outputLinks = h.outputLinks := by
  unfold setTransferTxQuery
  rcases v with _ | t <;> rcases (h.transferQueries q).txQuery with _ | t₀ <;> simp

end Transfer

section Output

variable [DecidableEq τ] [DecidableEq ω] (h : Heap τ κ ω)

theorem inputField_sees :
    (inputField : Field (Heap τ κ ω) τ ω).Sees outputLinks (fun t => (t, .input)) where
  get _ _ := rfl
  set := outputLinks_writeInputQuery
  setTxQuery h c v := outputLinks_writeOutputTxQuery h v c

theorem outputField_sees :
    (outputField : Field (Heap τ κ ω) τ ω).Sees outputLinks (fun t => (t, .output)) where
  get _ _ := rfl
  set := outputLinks_writeOutputQuery
  setTxQuery h c v := outputLinks_writeOutputTxQuery h v c

theorem transferLinks_setInputQuery (t : τ) (v : Option ω) :
    (h.setInputQuery t v).transferLinks = h.transferLinks :=
  setQuery_blind transferLinks_writeInputQuery
    (fun h q v => transferLinks_writeOutputTxQuery h v q) h t v

theorem outputLinks_setInputQuery (t : τ) (v : Option ω) :
    (h.setInputQuery t v).outputLinks = h.outputLinks.assign Prod.fst (t, .input) v :=
  setQuery_assign inputField_sees (fun _ => rfl) h t v

theorem transferLinks_setOutputQuery (t : τ) (v : Option ω) :
    (h.setOutputQuery t v).transferLinks = h.transferLinks :=
  setQuery_blind transferLinks_writeOutputQuery
    (fun h q v => transferLinks_writeOutputTxQuery h v q) h t v

theorem outputLinks_setOutputQuery (t : τ) (v : Option ω) :
    (h.setOutputQuery t v).outputLinks = h.outputLinks.assign Prod.fst (t, .output) v :=
  setQuery_assign outputField_sees (fun _ => rfl) h t v

theorem transferLinks_setOutputTxQuery (q : ω) (v : Option τ) (flag : Bool) :
    (h.setOutputTxQuery q v flag).transferLinks = h.transferLinks := by
  unfold setOutputTxQuery
  rcases v with _ | t <;> rcases (h.outputQueries q).txQuery with _ | t₀ <;> cases flag <;> simp

theorem outputLinks_setOutputTxQuery (q : ω) (v : Option τ) (flag : Bool) :
    (h.setOutputTxQuery q v flag).outputLinks =
      h.outputLinks.attach (fun t => (t, OutputSlot.ofFlag flag)) q v := by
  have hold : h.outputLinks.back q = (h.outputQueries q).txQuery := rfl
  unfold setOutputTxQuery LinkGraph.attach
  rw [hold]
  rcases v with _ | t <;> rcases (h.outputQueries q).txQuery with _ | t₀ <;> cases flag <;>
    simp [OutputSlot.ofFlag]

end Output

end Heap

end MoneroPython.Query
