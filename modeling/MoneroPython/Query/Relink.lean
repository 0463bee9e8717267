/-
# Repeating an assignment, and moving a child

Two questions about single assignments, in any heap.

* When is an assignment that is performed twice the same as performed once?  The template behind
  the slot properties looks whether old and new child are the same object.  The two child-side
  setters do not: their second run empties the slot that the first has filled, unless the child
  already had this parent before (`assign_idempotent_iff`).
* Which other children does a child-side setter unlink?  `set_tx_query` empties the slot of the
  old parent that its flag names, whichever slot the query is in (`sparesOthers_iff`).

Both are answered for link graphs in general and carried over: a heap is determined by its two
link graphs.
-/
import MoneroPython.Query.Links

namespace MoneroPython.Query

variable {τ κ ω : Type*} {h h' : Heap τ κ ω}

/-! ## 1. A heap is its two link graphs -/

theorem Heap.ext_links (htransfer : h.transferLinks = h'.transferLinks)
    (houtput : h.outputLinks = h'.outputLinks) : h = h' := by
  have hslot : ∀ t slot, (h.txQueries t).outputSlot slot = (h'.txQueries t).outputSlot slot :=
    fun t slot => congrFun (congrArg LinkGraph.slot houtput) (t, slot)
  refine Heap.ext ?_ ?_ ?_
  · funext t
    exact MoneroTxQuery.ext (congrFun (congrArg LinkGraph.slot htransfer) t) (hslot t .input)
      (hslot t .output)
  · funext q
    exact MoneroTransferQuery.ext (congrFun (congrArg LinkGraph.back htransfer) q)
  · funext q
    exact MoneroOutputQuery.ext (congrFun (congrArg LinkGraph.back houtput) q)

theorem Heap.eq_iff_links :
    h = h' ↔ h.transferLinks = h'.transferLinks ∧ h.outputLinks = h'.outputLinks := by
  constructor
  · rintro rfl
    exact ⟨rfl, rfl⟩
  · rintro ⟨htransfer, houtput⟩
    exact Heap.ext_links htransfer houtput

variable [DecidableEq τ] [DecidableEq κ] [DecidableEq ω]

/-! ## 2. Repeating an assignment -/

/-- What an assignment must meet, in the heap it is performed on, so that repeating it changes
nothing: a child-side setter with a tx query must assign the one that the child already has. -/
def Setter.Repeatable (h : Heap τ κ ω) : Setter τ κ ω → Prop
  | .transferQuery _ _ => True
  | .inputQuery _ _ => True
  | .outputQuery _ _ => True
  | .transferTxQuery q val => ∀ t, val = some t → (h.transferQueries q).txQuery = some t
  | .outputTxQuery q val _ => ∀ t, val = some t → (h.outputQueries q).txQuery = some t

/-- **Idempotence.**  In any heap an assignment that is performed twice leaves the state that it
leaves when it is performed once, if and only if it is repeatable. -/
theorem assign_idempotent_iff (h : Heap τ κ ω) (op : Setter τ κ ω) :
    (h.assign op).assign op = h.assign op ↔ op.Repeatable h := by
  rw [Heap.eq_iff_links]
  cases op with
  | transferQuery t v =>
    refine iff_of_true ⟨?_, ?_⟩ trivial
    · simp only [Heap.assign, Heap.transferLinks_setTransferQuery, LinkGraph.assign_assign]
    · simp only [Heap.assign, Heap.outputLinks_setTransferQuery]
  | inputQuery t v =>
    refine iff_of_true ⟨?_, ?_⟩ trivial
    · simp only [Heap.assign, Heap.transferLinks_setInputQuery]
    · simp only [Heap.assign, Heap.outputLinks_setInputQuery, LinkGraph.assign_assign]
  | outputQuery t v =>
    refine iff_of_true ⟨?_, ?_⟩ trivial
    · simp only [Heap.assign, Heap.transferLinks_setOutputQuery]
    · simp only [Heap.assign, Heap.outputLinks_setOutputQuery, LinkGraph.assign_assign]
  | transferTxQuery q v =>
    have hplace : ∀ t : τ, id (id t) = t := fun _ => rfl
    simp only [Heap.assign, Heap.transferLinks_setTransferTxQuery,
      Heap.outputLinks_setTransferTxQuery, and_true]
    exact LinkGraph.attach_attach_iff hplace h.transferLinks q v
  | outputTxQuery q v flag =>
    have hplace : ∀ t : τ, Prod.fst (t, OutputSlot.ofFlag flag) = t := fun _ => rfl
    simp only [Heap.assign, Heap.transferLinks_setOutputTxQuery,
      Heap.outputLinks_setOutputTxQuery, true_and]
    exact LinkGraph.attach_attach_iff hplace h.outputLinks q v

/-- `q.tx_query = t` performed twice on fresh objects: the second time empties the slot. -/
theorem relink_not_idempotent :
    ¬ ∀ (h : Heap ℕ ℕ ℕ) (op : Setter ℕ ℕ ℕ), (h.assign op).assign op = h.assign op := by
  intro hidem
  have hslot := congrArg (fun h : Heap ℕ ℕ ℕ => (h.txQueries 0).transferQuery)
    (hidem Heap.fresh (.transferTxQuery 0 (some 0)))
  exact absurd hslot (by decide)

/-! ## 3. Moving a child -/

/-- An assignment from the child's side. -/
inductive ChildSetter (τ κ ω : Type*) where
  | transferTxQuery (self : κ) (val : Option τ)
  | outputTxQuery (self : ω) (val : Option τ) (outputQuery : Bool)

def ChildSetter.setter : ChildSetter τ κ ω → Setter τ κ ω
  | .transferTxQuery self val => .transferTxQuery self val
  | .outputTxQuery self val outputQuery => .outputTxQuery self val outputQuery

/-- A child other than the one that is assigned is still held by each slot that held it, the very
slot apart that the assigned child is put into. -/
def ChildSetter.SparesOthers (h h' : Heap τ κ ω) : ChildSetter τ κ ω → Prop
  | .transferTxQuery q val =>
    (∀ t q', q' ≠ q → (h.txQueries t).transferQuery = some q' → val ≠ some t →
        (h'.txQueries t).transferQuery = some q') ∧
      ∀ t slot q', (h.txQueries t).outputSlot slot = some q' →
        (h'.txQueries t).outputSlot slot = some q'
  | .outputTxQuery q val flag =>
    (∀ t q', (h.txQueries t).transferQuery = some q' →
        (h'.txQueries t).transferQuery = some q') ∧
      ∀ t slot q', q' ≠ q → (h.txQueries t).outputSlot slot = some q' →
        ¬ (val = some t ∧ slot = OutputSlot.ofFlag flag) →
          (h'.txQueries t).outputSlot slot = some q'

/-- When an output query leaves its parent, the slot of the parent that the flag names must not
hold another query. -/
def ChildSetter.ClearsOwnSlot (h : Heap τ κ ω) : ChildSetter τ κ ω → Prop
  | .transferTxQuery _ _ => True
  | .outputTxQuery q val flag =>
    ∀ t₀, (h.outputQueries q).txQuery = some t₀ → val ≠ some t₀ →
      ∀ q', (h.txQueries t₀).outputSlot (OutputSlot.ofFlag flag) = some q' → q' = q

omit [DecidableEq τ] [DecidableEq κ] [DecidableEq ω] in
/-- A place of the output link graph is the one that `set_tx_query` fills. -/
theorem map_outputPlace_eq_some_iff {v : Option τ} {flag : Bool} {t : τ} {slot : OutputSlot} :
    v.map (fun t => (t, OutputSlot.ofFlag flag)) = some (t, slot) ↔
      v = some t ∧ slot = OutputSlot.ofFlag flag := by
  constructor
  · intro hv
    obtain ⟨t', rfl, ht'⟩ := Option.map_eq_some_iff.mp hv
    obtain ⟨rfl, rfl⟩ := Prod.mk.inj ht'
    exact ⟨rfl, rfl⟩
  · rintro ⟨rfl, rfl⟩
    rfl

omit [DecidableEq ω] in
/-- In a one-to-one heap the slot of a transfer query's parent holds that transfer query, so
there is nothing else that leaving the parent could empty. -/
theorem sparesOthers_transferTxQuery (hone : h.OneToOne) (q : κ) (v : Option τ) :
    (ChildSetter.transferTxQuery q v).SparesOthers h (h.setTransferTxQuery q v) := by
  have hplace : ∀ t : τ, id (id t) = t := fun _ => rfl
  refine ⟨?_, ?_⟩
  · have hspare := (LinkGraph.attach_spares_iff hplace h.transferLinks q v).mpr ?_
    · rw [← Heap.transferLinks_setTransferTxQuery] at hspare
      intro t q' hne hq' hv
      exact hspare t q' hne hq' (mt (LinkGraph.map_place_eq_some_iff hplace).mp hv)
    · intro t₀ hb _ q' hq'
      have hq : (h.txQueries t₀).transferQuery = some q := hone.transfer_slot q t₀ hb
      exact Option.some.inj (hq'.symm.trans hq)
  · intro t slot q' hq'
    have hsame := congrFun (congrArg LinkGraph.slot (h.outputLinks_setTransferTxQuery q v))
      (t, slot)
    exact hsame.trans hq'

omit [DecidableEq κ] in
/-- The transfer queries are not touched by `set_tx_query`; on the output queries it is the
general writer of the slot that the flag names. -/
theorem sparesOthers_outputTxQuery_iff (h : Heap τ κ ω) (q : ω) (v : Option τ) (flag : Bool) :
    (ChildSetter.outputTxQuery q v flag).SparesOthers h (h.setOutputTxQuery q v flag) ↔
      (ChildSetter.outputTxQuery q v flag : ChildSetter τ κ ω).ClearsOwnSlot h := by
  have hplace : ∀ t : τ, Prod.fst (t, OutputSlot.ofFlag flag) = t := fun _ => rfl
  have hspare := LinkGraph.attach_spares_iff hplace h.outputLinks q v
  rw [← Heap.outputLinks_setOutputTxQuery] at hspare
  refine Iff.trans ?_ hspare
  constructor
  · rintro ⟨-, hkept⟩ ⟨t, slot⟩ q' hne hq' hv
    exact hkept t slot q' hne hq' (mt map_outputPlace_eq_some_iff.mpr hv)
  · intro hkept
    refine ⟨?_, ?_⟩
    · intro t q' hq'
      have hsame := congrFun (congrArg LinkGraph.slot (h.transferLinks_setOutputTxQuery q v flag)) t
      exact hsame.trans hq'
    · intro t slot q' hne hq' hv
      exact hkept (t, slot) q' hne hq' (mt map_outputPlace_eq_some_iff.mp hv)

/-- **Other children.**  In a one-to-one heap a child-side assignment leaves the other children
where they are if and only if it clears no slot but its own child's. -/
theorem sparesOthers_iff (hone : h.OneToOne) (op : ChildSetter τ κ ω) :
    op.SparesOthers h (h.assign op.setter) ↔ op.ClearsOwnSlot h := by
  cases op with
  | transferTxQuery q v => exact iff_of_true (sparesOthers_transferTxQuery hone q v) trivial
  | outputTxQuery q v flag => exact sparesOthers_outputTxQuery_iff h q v flag

/-- A tx query with an input query and an output query. -/
def Heap.bothSlots : Heap ℕ ℕ ℕ :=
  (Heap.fresh.assign (.inputQuery 0 (some 1))).assign (.outputQuery 0 (some 2))

theorem Heap.bothSlots_oneToOne : Heap.bothSlots.OneToOne := by
  refine (Heap.assign_linksOneToOne (Heap.assign_linksOneToOne fresh_linksOneToOne ?_)
    ?_).oneToOne
  · rintro q ⟨⟩
    exact Or.inl rfl
  · rintro q ⟨⟩
    exact Or.inl rfl

/-- With the flag of the slot it is in, the input query leaves the output query where it is. -/
theorem sparesOthers_iff_bothSlots :
    Heap.bothSlots.OneToOne ∧
      (ChildSetter.SparesOthers Heap.bothSlots
          (Heap.bothSlots.assign (ChildSetter.setter (.outputTxQuery 1 none false)))
          (.outputTxQuery 1 none false) ↔
        ChildSetter.ClearsOwnSlot Heap.bothSlots (.outputTxQuery 1 none false)) :=
  ⟨Heap.bothSlots_oneToOne, sparesOthers_iff Heap.bothSlots_oneToOne (.outputTxQuery 1 none false)⟩

/-- With the other flag it unlinks the output query instead of itself. -/
theorem detach_unlinks_sibling :
    ¬ ∀ h : Heap ℕ ℕ ℕ, h.OneToOne →
      ∀ op : ChildSetter ℕ ℕ ℕ, op.SparesOthers h (h.assign op.setter) := by
  intro hspares
  obtain ⟨-, hkept⟩ := hspares Heap.bothSlots Heap.bothSlots_oneToOne (.outputTxQuery 1 none true)
  have hslot := hkept 0 .output 2 (by decide) (by decide) (by decide)
  exact absurd hslot (by decide)

end MoneroPython.Query
