/-
# Pointers that do not own

Objects are created and freed, and hosts keep raw pointers to some of them.  A pointer is given to a
host while its object is alive, and it stays when the object is freed.  A visit of a host uses all
pointers that it keeps.

A pointer whose object has been freed cannot be taken back, because that would take the object.  So
`allSteps_sound_iff` is exact: no visit uses a freed object if and only if no host is visited after
an object that it has a pointer to has been freed.
-/
import Mathlib.Logic.Function.Basic
import Mathlib.Order.BooleanAlgebra.Set
import MoneroPython.Lib.Run

namespace RawPointers

variable {η α ι : Type*}

/-! ## 1. Events -/

/-- The objects that have been created, those that have not been freed, and the pointers that each
host keeps. -/
structure State (η α : Type*) where
  created : Set α
  alive : Set α
  registered : η → Set α

inductive Event (η α : Type*) where
  | create (a : α)
  | free (a : α)
  | register (h : η) (a : α)
  | unregister (h : η) (a : α)
  | visit (h : η)
  | skip

namespace State

def fresh : State η α := ⟨∅, ∅, fun _ => ∅⟩

/-- A pointer whose object has been freed. -/
def Dangling (s : State η α) (h : η) (a : α) : Prop := a ∈ s.registered h ∧ a ∉ s.alive

/-- Objects are not created twice, and only objects that are alive are freed or passed. -/
def Allowed (s : State η α) : Event η α → Prop
  | .create a => a ∉ s.created
  | .free a => a ∈ s.alive
  | .register _ a => a ∈ s.alive
  | .unregister _ a => a ∈ s.alive
  | .visit _ => True
  | .skip => True

/-- A visit uses no freed object. -/
def Sound (s : State η α) (e : Event η α) : Prop :=
  ∀ h, e = .visit h → ∀ a, ¬ s.Dangling h a

/-- Everything there is has been created. -/
structure WellFormed (s : State η α) : Prop where
  alive : s.alive ⊆ s.created
  registered : ∀ h, s.registered h ⊆ s.created

theorem wellFormed_fresh : (fresh : State η α).WellFormed :=
  ⟨Set.empty_subset _, fun _ => Set.empty_subset _⟩

theorem not_dangling_fresh (h : η) (a : α) : ¬ (fresh : State η α).Dangling h a :=
  fun hdangling => hdangling.1

section Step

variable [DecidableEq η]

/-- A host changes the pointers that it keeps. -/
def keep (s : State η α) (h : η) (R : Set α) : State η α :=
  { s with registered := Function.update s.registered h R }

@[simp] theorem alive_keep (s : State η α) (h : η) (R : Set α) : (s.keep h R).alive = s.alive := rfl

@[simp] theorem registered_keep_self (s : State η α) (h : η) (R : Set α) :
    (s.keep h R).registered h = R := by
  simp [keep]

theorem registered_keep_of_ne (s : State η α) {h h' : η} (hne : h' ≠ h) (R : Set α) :
    (s.keep h R).registered h' = s.registered h' := by
  simp [keep, hne]

theorem keep_self (s : State η α) (h : η) : s.keep h (s.registered h) = s := by
  rw [keep, Function.update_eq_self]

def step (s : State η α) : Event η α → State η α
  | .create a => { s with created := insert a s.created, alive := insert a s.alive }
  | .free a => { s with alive := s.alive \ {a} }
  | .register h a => s.keep h (insert a (s.registered h))
  | .unregister h a => s.keep h (s.registered h \ {a})
  | .visit _ => s
  | .skip => s

theorem WellFormed.keep {s : State η α} (hs : s.WellFormed) {h : η} {R : Set α}
    (hR : R ⊆ s.created) : (s.keep h R).WellFormed := by
  refine ⟨hs.alive, fun h' => ?_⟩
  rcases eq_or_ne h' h with rfl | hne
  · rw [registered_keep_self]
    exact hR
  · rw [registered_keep_of_ne s hne]
    exact hs.registered h'

theorem WellFormed.step {s : State η α} (hs : s.WellFormed) {e : Event η α} (he : s.Allowed e) :
    (s.step e).WellFormed := by
  cases e with
  | create a =>
    exact ⟨Set.insert_subset_insert hs.alive,
      fun h => (hs.registered h).trans (Set.subset_insert a _)⟩
  | free a => exact ⟨Set.sdiff_subset.trans hs.alive, hs.registered⟩
  | register h a => exact hs.keep (Set.insert_subset (hs.alive he) (hs.registered h))
  | unregister h a => exact hs.keep (Set.sdiff_subset.trans (hs.registered h))
  | visit h => exact hs
  | skip => exact hs

/-- What one event does: pointers that dangle stay, and a new one dangles when its object is
freed. -/
theorem dangling_step_iff {s : State η α} (hs : s.WellFormed) {e : Event η α} (he : s.Allowed e)
    {h : η} {a : α} :
    (s.step e).Dangling h a ↔ s.Dangling h a ∨ e = .free a ∧ a ∈ s.registered h := by
  cases e with
  | create b =>
    have hne : a ∈ s.registered h → a ≠ b := by
      rintro hmem rfl
      exact he (hs.registered h hmem)
    simp only [Dangling, State.step, Set.mem_insert_iff, not_or, reduceCtorEq, false_and, or_false]
    exact ⟨fun ⟨hmem, hb⟩ => ⟨hmem, hb.2⟩, fun ⟨hmem, ha⟩ => ⟨hmem, hne hmem, ha⟩⟩
  | free b =>
    simp only [Dangling, State.step, Set.mem_sdiff, Set.mem_singleton_iff, Event.free.injEq]
    constructor
    · rintro ⟨hmem, hnot⟩
      by_cases hab : b = a
      · exact Or.inr ⟨hab, hmem⟩
      · exact Or.inl ⟨hmem, fun ha => hnot ⟨ha, Ne.symm hab⟩⟩
    · rintro (⟨hmem, ha⟩ | ⟨rfl, hmem⟩)
      · exact ⟨hmem, fun hboth => ha hboth.1⟩
      · exact ⟨hmem, fun hboth => hboth.2 rfl⟩
  | register h' b =>
    have hb : b ∈ s.alive := he
    rcases eq_or_ne h h' with rfl | hne
    · simp only [Dangling, State.step, registered_keep_self, alive_keep, Set.mem_insert_iff,
        reduceCtorEq, false_and, or_false]
      constructor
      · rintro ⟨rfl | hmem, ha⟩
        · exact absurd hb ha
        · exact ⟨hmem, ha⟩
      · rintro ⟨hmem, ha⟩
        exact ⟨Or.inr hmem, ha⟩
    · simp only [Dangling, State.step, registered_keep_of_ne s hne, alive_keep, reduceCtorEq,
        false_and, or_false]
  | unregister h' b =>
    have hb : b ∈ s.alive := he
    rcases eq_or_ne h h' with rfl | hne
    · simp only [Dangling, State.step, registered_keep_self, alive_keep, Set.mem_sdiff,
        Set.mem_singleton_iff, reduceCtorEq, false_and, or_false]
      constructor
      · rintro ⟨⟨hmem, -⟩, ha⟩
        exact ⟨hmem, ha⟩
      · rintro ⟨hmem, ha⟩
        refine ⟨⟨hmem, ?_⟩, ha⟩
        rintro rfl
        exact ha hb
    · simp only [Dangling, State.step, registered_keep_of_ne s hne, alive_keep, reduceCtorEq,
        false_and, or_false]
  | visit h' => simp [State.step]
  | skip => simp [State.step]

/-! ## 2. Runs -/

/-- The events are caused by actions. -/
def act (event : ι → Event η α) (s : State η α) (i : ι) : State η α := s.step (event i)

variable {event : ι → Event η α}

/-- No host is visited after an object that it has a pointer to has been freed. -/
def Disciplined (event : ι → Event η α) (s : State η α) (is : List ι) : Prop :=
  ∀ pre i post, is = pre ++ i :: post → ∀ a, event i = .free a →
    ∀ h, a ∈ (pre.foldl (act event) s).registered h → ∀ j ∈ post, event j ≠ .visit h

theorem disciplined_cons_iff {s : State η α} {i : ι} {is : List ι} :
    Disciplined event s (i :: is) ↔
      (∀ a, event i = .free a → ∀ h, a ∈ s.registered h → ∀ j ∈ is, event j ≠ .visit h) ∧
        Disciplined event (act event s i) is := by
  constructor
  · intro hdis
    exact ⟨hdis [] i is rfl, fun pre j post hsplit => hdis (i :: pre) j post (by rw [hsplit]; rfl)⟩
  · rintro ⟨hfirst, hrest⟩ pre j post hsplit
    cases pre with
    | nil =>
      obtain ⟨rfl, rfl⟩ := List.cons.inj hsplit
      exact hfirst
    | cons k pre =>
      obtain ⟨rfl, rfl⟩ := List.cons.inj hsplit
      exact hrest pre j post rfl

/-- From any state, where some pointers may dangle already. -/
theorem allSteps_sound_iff_of_wellFormed {is : List ι} {s : State η α} (hs : s.WellFormed)
    (hallowed : Run.AllSteps (act event) (fun s i => s.Allowed (event i)) s is) :
    Run.AllSteps (act event) (fun s i => s.Sound (event i)) s is ↔
      (∀ h a, s.Dangling h a → ∀ j ∈ is, event j ≠ .visit h) ∧ Disciplined event s is := by
  induction is generalizing s with
  | nil => simp [Run.AllSteps, Disciplined]
  | cons i is ih =>
    obtain ⟨hi, hrest⟩ := hallowed
    rw [Run.AllSteps, ih (s := act event s i) (hs.step hi) hrest, disciplined_cons_iff]
    simp only [act, dangling_step_iff hs hi, List.forall_mem_cons]
    constructor
    · rintro ⟨hsound, hdangling, hdis⟩
      refine ⟨fun h a ha => ⟨?_, hdangling h a (Or.inl ha)⟩, ?_, hdis⟩
      · exact fun hvisit => hsound h hvisit a ha
      · exact fun a hfree h ha => hdangling h a (Or.inr ⟨hfree, ha⟩)
    · rintro ⟨hdangling, hfirst, hdis⟩
      refine ⟨fun h hvisit a ha => (hdangling h a ha).1 hvisit, ?_, hdis⟩
      rintro h a (ha | ⟨hfree, ha⟩)
      · exact (hdangling h a ha).2
      · exact hfirst a hfree h ha

/-- **No use of freed objects.**  In a run from the start, no visit uses a freed object if and only
if no host is visited after an object that it has a pointer to has been freed. -/
theorem allSteps_sound_iff {is : List ι}
    (hallowed : Run.AllSteps (act event) (fun s i => s.Allowed (event i)) fresh is) :
    Run.AllSteps (act event) (fun s i => s.Sound (event i)) fresh is ↔
      Disciplined event fresh is := by
  rw [allSteps_sound_iff_of_wellFormed wellFormed_fresh hallowed]
  exact and_iff_right fun h a ha => absurd ha (not_dangling_fresh h a)

end Step

end State

end RawPointers
