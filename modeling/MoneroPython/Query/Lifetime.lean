/-
# How long query objects live

The slots of a `MoneroTxQuery` and the back links of its children are `std::shared_ptr`s, and so are
the handles that Python has (the holder type of the classes).  Two queries that are linked refer to
each other.

Nothing dangles, whatever a program does (`noDangling_queries`).  But a link keeps both of its ends:
in a run whose assignments leave the links in agreement, the queries that are left are those that
Python has and those that are linked (`live_iff`).  Linked queries are freed only after they have
been unlinked.
-/
import MoneroPython.Lib.RefCount
import MoneroPython.Query.Links

namespace MoneroPython.Query

open RefCount

variable {τ κ ω : Type*}

/-! ## 1. Query objects refer to each other -/

/-- A query object of either kind. -/
inductive QueryObject (τ κ ω : Type*) where
  | tx (t : τ)
  | transfer (q : κ)
  | output (q : ω)

/-- The first object has a pointer to the second one. -/
def Heap.Refs (h : Heap τ κ ω) : QueryObject τ κ ω → QueryObject τ κ ω → Prop
  | .tx t, .transfer q => (h.txQueries t).transferQuery = some q
  | .tx t, .output q =>
    (h.txQueries t).inputQuery = some q ∨ (h.txQueries t).outputQuery = some q
  | .transfer q, .tx t => (h.transferQueries q).txQuery = some t
  | .output q, .tx t => (h.outputQueries q).txQuery = some t
  | _, _ => False

theorem Heap.not_refs_fresh (a b : QueryObject τ κ ω) : ¬ (Heap.fresh : Heap τ κ ω).Refs a b := by
  cases a <;> cases b <;> simp [Heap.Refs, Heap.fresh]

/-- Links that agree go both ways. -/
theorem Heap.Symmetric.refs_symm {h : Heap τ κ ω} (hs : h.Symmetric) {a b : QueryObject τ κ ω}
    (hab : h.Refs a b) : h.Refs b a := by
  cases a with
  | tx t =>
    cases b with
    | tx t' => exact hab
    | transfer q => exact (hs.1 t q).mp hab
    | output q => exact (hs.2 t q).mp hab
  | transfer q =>
    cases b with
    | tx t => exact (hs.1 t q).mpr hab
    | _ => exact hab.elim
  | output q =>
    cases b with
    | tx t => exact (hs.2 t q).mpr hab
    | _ => exact hab.elim

/-- The objects an assignment is given. -/
def Setter.objects : Setter τ κ ω → Set (QueryObject τ κ ω)
  | .transferQuery t v => {a | a = .tx t ∨ ∃ q, v = some q ∧ a = .transfer q}
  | .inputQuery t v => {a | a = .tx t ∨ ∃ q, v = some q ∧ a = .output q}
  | .outputQuery t v => {a | a = .tx t ∨ ∃ q, v = some q ∧ a = .output q}
  | .transferTxQuery q v => {a | a = .transfer q ∨ ∃ t, v = some t ∧ a = .tx t}
  | .outputTxQuery q v _ => {a | a = .output q ∨ ∃ t, v = some t ∧ a = .tx t}

theorem Setter.objects_nonempty (op : Setter τ κ ω) : op.objects.Nonempty := by
  cases op <;> exact ⟨_, Or.inl rfl⟩

section Assign

variable [DecidableEq τ] [DecidableEq κ] [DecidableEq ω] {h : Heap τ κ ω}

/-- The links between transfer queries and tx queries that an assignment adds are its own. -/
theorem transferLinks_assign (op : Setter τ κ ω) :
    h.transferLinks.AddsOnly id (h.assign op).transferLinks fun t q =>
      .tx t ∈ op.objects ∧ .transfer q ∈ op.objects := by
  cases op with
  | transferQuery t v =>
    rw [Heap.assign, Heap.transferLinks_setTransferQuery]
    refine (LinkGraph.assign_addsOnly _ t v).mono ?_
    rintro t' q ⟨rfl, rfl⟩
    exact ⟨Or.inl rfl, Or.inr ⟨q, rfl, rfl⟩⟩
  | transferTxQuery q v =>
    rw [Heap.assign, Heap.transferLinks_setTransferTxQuery]
    refine (LinkGraph.attach_addsOnly (fun _ => rfl) _ q v).mono ?_
    rintro t q' ⟨rfl, rfl⟩
    exact ⟨Or.inr ⟨t, rfl, rfl⟩, Or.inl rfl⟩
  | inputQuery t v =>
    rw [Heap.assign, Heap.transferLinks_setInputQuery]
    exact .refl _
  | outputQuery t v =>
    rw [Heap.assign, Heap.transferLinks_setOutputQuery]
    exact .refl _
  | outputTxQuery q v flag =>
    rw [Heap.assign, Heap.transferLinks_setOutputTxQuery]
    exact .refl _

/-- So are those between output queries and tx queries. -/
theorem outputLinks_assign (op : Setter τ κ ω) :
    h.outputLinks.AddsOnly Prod.fst (h.assign op).outputLinks fun t q =>
      .tx t ∈ op.objects ∧ .output q ∈ op.objects := by
  cases op with
  | transferQuery t v =>
    rw [Heap.assign, Heap.outputLinks_setTransferQuery]
    exact .refl _
  | transferTxQuery q v =>
    rw [Heap.assign, Heap.outputLinks_setTransferTxQuery]
    exact .refl _
  | inputQuery t v =>
    rw [Heap.assign, Heap.outputLinks_setInputQuery]
    refine (LinkGraph.assign_addsOnly _ _ v).mono ?_
    rintro t' q ⟨rfl, rfl⟩
    exact ⟨Or.inl rfl, Or.inr ⟨q, rfl, rfl⟩⟩
  | outputQuery t v =>
    rw [Heap.assign, Heap.outputLinks_setOutputQuery]
    refine (LinkGraph.assign_addsOnly _ _ v).mono ?_
    rintro t' q ⟨rfl, rfl⟩
    exact ⟨Or.inl rfl, Or.inr ⟨q, rfl, rfl⟩⟩
  | outputTxQuery q v flag =>
    rw [Heap.assign, Heap.outputLinks_setOutputTxQuery]
    refine (LinkGraph.attach_addsOnly (fun _ => rfl) _ q v).mono ?_
    rintro t q' ⟨rfl, rfl⟩
    exact ⟨Or.inr ⟨t, rfl, rfl⟩, Or.inl rfl⟩

/-- **What an assignment adds.**  The new pointers are between the objects it is given. -/
theorem refs_of_assign {op : Setter τ κ ω} {a b : QueryObject τ κ ω}
    (hab : (h.assign op).Refs a b) : h.Refs a b ∨ a ∈ op.objects ∧ b ∈ op.objects := by
  cases a with
  | tx t =>
    cases b with
    | tx t' => exact hab.elim
    | transfer q => exact (transferLinks_assign op).slot hab
    | output q =>
      obtain ⟨p, rfl, hp⟩ := Heap.exists_outputSlot_iff.mpr hab
      exact ((outputLinks_assign op).slot hp).imp
        (fun hold => Heap.exists_outputSlot_iff.mp ⟨p, rfl, hold⟩) id
  | transfer q =>
    cases b with
    | tx t => exact ((transferLinks_assign op).back hab).imp id And.symm
    | _ => exact hab.elim
  | output q =>
    cases b with
    | tx t => exact ((outputLinks_assign op).back hab).imp id And.symm
    | _ => exact hab.elim

variable (τ κ ω)

/-- The heap of query objects as memory with counted references. -/
def queryMemory : Memory (QueryObject τ κ ω) (Heap τ κ ω) (Setter τ κ ω) where
  Refs := Heap.Refs
  write := Heap.assign
  touched := Setter.objects
  refs_of_write := refs_of_assign

/-! ## 2. What is left -/

variable {τ κ ω}

theorem queryMemory_mutual :
    Mutual (queryMemory τ κ ω) (fun h op => op.KeepsLinks h) Heap.Symmetric where
  keeps hs hC := (Heap.assign_symmetric_iff hs _).mpr hC
  symm hs hab := hs.refs_symm hab

variable {L : Set (QueryObject τ κ ω)} {s : State (QueryObject τ κ ω) (Heap τ κ ω)}

/-! ### A run

A tx query and one of two transfer queries are linked.  Python drops both transfer queries, the
other one is freed, and Python takes the linked one from the tx query. -/

def threeLinked : State (QueryObject ℕ ℕ ℕ) (Heap ℕ ℕ ℕ) :=
  ⟨(Heap.fresh : Heap ℕ ℕ ℕ).assign (Setter.transferQuery 0 (some 0)),
    {.tx 0, .transfer 0, .transfer 1}, {.tx 0, .transfer 0, .transfer 1}⟩

def twoDropped : State (QueryObject ℕ ℕ ℕ) (Heap ℕ ℕ ℕ) :=
  { threeLinked with handles := threeLinked.handles \ {.transfer 0, .transfer 1} }

def oneFreed : State (QueryObject ℕ ℕ ℕ) (Heap ℕ ℕ ℕ) :=
  { twoDropped with live := twoDropped.live \ {.transfer 1} }

def linkedPair : State (QueryObject ℕ ℕ ℕ) (Heap ℕ ℕ ℕ) :=
  { oneFreed with handles := insert (.transfer 0) oneFreed.handles }

/-- The only pointers are those of the link. -/
theorem threeLinked_refs {a b : QueryObject ℕ ℕ ℕ} (h : threeLinked.memory.Refs a b) :
    a = .tx 0 ∧ b = .transfer 0 ∨ a = .transfer 0 ∧ b = .tx 0 := by
  have hassign : ((Heap.fresh : Heap ℕ ℕ ℕ).assign (Setter.transferQuery 0 (some 0))).Refs a b := h
  rcases refs_of_assign hassign with hfresh | ⟨ha, hb⟩
  · exact absurd hfresh (Heap.not_refs_fresh a b)
  rcases ha with rfl | ⟨q, hq, rfl⟩
  · rcases hb with rfl | ⟨q, hq, rfl⟩
    · exact h.elim
    · cases hq
      exact Or.inl ⟨rfl, rfl⟩
  · cases hq
    rcases hb with rfl | ⟨q, hq, rfl⟩
    · exact Or.inr ⟨rfl, rfl⟩
    · exact h.elim

theorem linkedPair_reachable {C : Heap ℕ ℕ ℕ → Setter ℕ ℕ ℕ → Prop}
    (hC : C Heap.fresh (Setter.transferQuery 0 (some 0))) :
    Reachable (queryMemory ℕ ℕ ℕ) C Heap.fresh {.tx 0, .transfer 0, .transfer 1} linkedPair := by
  have hwrite : Step (queryMemory ℕ ℕ ℕ) C
      (.fresh Heap.fresh {.tx 0, .transfer 0, .transfer 1}) threeLinked := by
    refine .write (Setter.transferQuery 0 (some 0)) hC ?_
    rintro a (rfl | ⟨q, hq, rfl⟩)
    · exact Or.inl rfl
    · cases hq
      exact Or.inr (Or.inl rfl)
  have hdrop : Step (queryMemory ℕ ℕ ℕ) C threeLinked twoDropped := .drop _
  have hfree : Step (queryMemory ℕ ℕ ℕ) C twoDropped oneFreed := by
    refine .free (Or.inr (Or.inr rfl)) (fun h => h.2 (Or.inr rfl)) ?_
    intro b _ hb
    rcases threeLinked_refs hb with ⟨-, h⟩ | ⟨-, h⟩
    · cases h
    · cases h
  have htake : Step (queryMemory ℕ ℕ ℕ) C oneFreed linkedPair := by
    have hlink : (queryMemory ℕ ℕ ℕ).Refs oneFreed.memory (.tx 0) (.transfer 0) := rfl
    refine .take ⟨Or.inl rfl, ?_⟩ hlink
    rintro (h | h)
    · cases h
    · cases h
  exact (((Relation.ReflTransGen.single hwrite).tail hdrop).tail hfree).tail htake

/-- Python has both ends of the link. -/
theorem linkedPair_settled : Settled (queryMemory ℕ ℕ ℕ) linkedPair := by
  rintro a ⟨rfl | rfl | rfl, hfreed⟩ hnot
  · refine absurd (Or.inr ⟨Or.inl rfl, ?_⟩) hnot
    rintro (h | h)
    · cases h
    · cases h
  · exact absurd (Or.inl rfl) hnot
  · exact absurd rfl hfreed

/-- **No dangling pointers.**  Whatever a program assigns, takes and drops, every pointer of a query
that exists is to a query that exists, and Python has no query that has been freed. -/
theorem noDangling_queries
    (h : Reachable (queryMemory τ κ ω) (fun _ _ => True) Heap.fresh L s) :
    s.handles ⊆ s.live ∧ ∀ a ∈ s.live, ∀ b, s.memory.Refs a b → b ∈ s.live := by
  have hs := noDangling Heap.not_refs_fresh h
  exact ⟨hs.handles, fun _ ha _ hab => hs.refs ha hab⟩

theorem noDangling_queries_linkedPair :
    linkedPair.handles ⊆ linkedPair.live ∧
      ∀ a ∈ linkedPair.live, ∀ b, linkedPair.memory.Refs a b → b ∈ linkedPair.live :=
  noDangling_queries (linkedPair_reachable trivial)

/-- **Which queries exist.**  In a run whose assignments leave the links in agreement, when the
counts have freed what they can, those queries exist that Python has or that are linked. -/
theorem live_iff (h : Reachable (queryMemory τ κ ω) (fun h op => op.KeepsLinks h) Heap.fresh L s)
    (hs : Settled (queryMemory τ κ ω) s) (a : QueryObject τ κ ω) :
    a ∈ s.live ↔ a ∈ s.handles ∨ ∃ b, s.memory.Refs a b :=
  live_iff_of_settled queryMemory_mutual Heap.fresh_symmetric Heap.not_refs_fresh h hs a

theorem live_iff_linkedPair :
    QueryObject.tx 0 ∈ linkedPair.live ↔
      QueryObject.tx 0 ∈ linkedPair.handles ∨ ∃ b, linkedPair.memory.Refs (.tx 0) b :=
  live_iff (linkedPair_reachable fun _ _ => Or.inl rfl) linkedPair_settled _

/-- **Links outlive Python.**  When Python drops all of its queries after such a run, the counts
free all queries that are not linked and none of those that are, in whatever order. -/
theorem live_eq_linked (hfinite : L.Finite)
    (h : Reachable (queryMemory τ κ ω) (fun h op => op.KeepsLinks h) Heap.fresh L s) :
    (∃ s', Relation.ReflTransGen (Step (queryMemory τ κ ω) fun h op => op.KeepsLinks h)
        { s with handles := ∅ } s' ∧ Settled (queryMemory τ κ ω) s') ∧
      ∀ s', Relation.ReflTransGen (Step (queryMemory τ κ ω) fun h op => op.KeepsLinks h)
        { s with handles := ∅ } s' → Settled (queryMemory τ κ ω) s' →
          s'.live = {a | ∃ b, s.memory.Refs a b} := by
  have hdrop : Reachable (queryMemory τ κ ω) (fun h op => op.KeepsLinks h) Heap.fresh L
      { s with handles := ∅ } := by
    have hstep := Step.drop (M := queryMemory τ κ ω) (C := fun h op => op.KeepsLinks h)
      (s := s) s.handles
    rw [Set.sdiff_self] at hstep
    exact h.tail hstep
  constructor
  · have hlive : s.live.Finite := hfinite.subset (live_subset h)
    obtain ⟨L', hsteps, hsettled⟩ := exists_settled (M := queryMemory τ κ ω)
      (C := fun h op => op.KeepsLinks h) (s := { s with handles := ∅ }) hlive
    exact ⟨_, hsteps, hsettled⟩
  · intro s' hsteps hsettled
    obtain ⟨hmemory, hhandles⟩ := memory_eq_of_no_handles Setter.objects_nonempty hsteps rfl
    ext a
    rw [live_iff_of_settled queryMemory_mutual Heap.fresh_symmetric Heap.not_refs_fresh
      (Relation.ReflTransGen.trans hdrop hsteps) hsettled, hhandles, hmemory]
    simp [Linked, queryMemory]

theorem live_eq_linked_linkedPair :
    (∃ s', Relation.ReflTransGen (Step (queryMemory ℕ ℕ ℕ) fun h op => op.KeepsLinks h)
        { linkedPair with handles := ∅ } s' ∧ Settled (queryMemory ℕ ℕ ℕ) s') ∧
      ∀ s', Relation.ReflTransGen (Step (queryMemory ℕ ℕ ℕ) fun h op => op.KeepsLinks h)
        { linkedPair with handles := ∅ } s' → Settled (queryMemory ℕ ℕ ℕ) s' →
          s'.live = {a | ∃ b, linkedPair.memory.Refs a b} :=
  live_eq_linked (Set.toFinite _) (linkedPair_reachable fun _ _ => Or.inl rfl)

end Assign

end MoneroPython.Query
