/-
# Counted references

Objects refer to each other with counted references, and a program has handles to some of them.  It
writes references between objects it has handles to, takes handles to objects that its objects refer
to, and drops handles.  An object is freed when it has neither a handle nor a reference from an
object that exists.

`noDangling` is what counting gives for every run: nothing that exists refers to something that has
been freed.  What it does not give is that everything is freed in the end.  When references always
go both ways, the objects that are left are exactly those with a handle or a reference
(`live_iff_of_settled`).
-/
import Mathlib.Data.Set.Card
import Mathlib.Logic.Relation
import Mathlib.Tactic.Common

namespace RefCount

/-- Memory cells of which the references between objects are read, and which are written.  A write
adds only references between the objects it touches. -/
structure Memory (α μ ι : Type*) where
  Refs : μ → α → α → Prop
  write : μ → ι → μ
  touched : ι → Set α
  refs_of_write : ∀ {m i a b}, Refs (write m i) a b → Refs m a b ∨ a ∈ touched i ∧ b ∈ touched i

/-- The memory, the objects that exist, and those with a handle. -/
structure State (α μ : Type*) where
  memory : μ
  live : Set α
  handles : Set α

variable {α μ ι : Type*} (M : Memory α μ ι) (C : μ → ι → Prop)

/-! ## 1. Steps -/

/-- The writes meet `C` in the memory they are performed in. -/
inductive Step : State α μ → State α μ → Prop where
  | write {s : State α μ} (i : ι) (hC : C s.memory i) (hi : M.touched i ⊆ s.handles) :
    Step s { s with memory := M.write s.memory i }
  | take {s : State α μ} {a b : α} (ha : a ∈ s.handles) (hab : M.Refs s.memory a b) :
    Step s { s with handles := insert b s.handles }
  | drop {s : State α μ} (D : Set α) : Step s { s with handles := s.handles \ D }
  | free {s : State α μ} {a : α} (ha : a ∈ s.live) (hhandle : a ∉ s.handles)
    (hrefs : ∀ b ∈ s.live, ¬ M.Refs s.memory b a) : Step s { s with live := s.live \ {a} }

/-- Objects without references, all with a handle. -/
def State.fresh (m : μ) (L : Set α) : State α μ := ⟨m, L, L⟩

/-- The states of a program that starts with fresh objects. -/
def Reachable (m : μ) (L : Set α) (s : State α μ) : Prop :=
  Relation.ReflTransGen (Step M C) (.fresh m L) s

/-- Nothing more can be freed. -/
def Settled (s : State α μ) : Prop :=
  ∀ a ∈ s.live, a ∉ s.handles → ∃ b ∈ s.live, M.Refs s.memory b a

/-! ## 2. No dangling references -/

structure NoDangling (s : State α μ) : Prop where
  handles : s.handles ⊆ s.live
  refs : ∀ {a b}, a ∈ s.live → M.Refs s.memory a b → b ∈ s.live

variable {M C}

theorem Step.noDangling {s s' : State α μ} (h : Step M C s s') (hs : NoDangling M s) :
    NoDangling M s' := by
  cases h with
  | write i hC hi =>
    refine ⟨hs.handles, fun ha hab => ?_⟩
    rcases M.refs_of_write hab with hold | ⟨-, hb⟩
    · exact hs.refs ha hold
    · exact hs.handles (hi hb)
  | @take a b ha hab =>
    exact ⟨Set.insert_subset (hs.refs (hs.handles ha) hab) hs.handles, hs.refs⟩
  | drop D => exact ⟨Set.sdiff_subset.trans hs.handles, hs.refs⟩
  | @free a ha hhandle hrefs =>
    constructor
    · intro c hc
      exact ⟨hs.handles hc, fun hca => hhandle (hca ▸ hc)⟩
    · rintro c d ⟨hc, -⟩ hcd
      refine ⟨hs.refs hc hcd, ?_⟩
      rintro rfl
      exact hrefs c hc hcd

theorem noDangling_fresh {m : μ} {L : Set α} (hm : ∀ a b, ¬ M.Refs m a b) :
    NoDangling M (.fresh m L) :=
  ⟨subset_rfl, fun _ hab => absurd hab (hm _ _)⟩

/-- **No dangling references.**  However a program writes, takes and drops, nothing that exists
refers to something that has been freed. -/
theorem noDangling {m : μ} {L : Set α} (hm : ∀ a b, ¬ M.Refs m a b) {s : State α μ}
    (h : Reachable M C m L s) : NoDangling M s := by
  induction h with
  | refl => exact noDangling_fresh hm
  | tail _ hstep ih => exact hstep.noDangling ih

theorem Step.live_subset {s s' : State α μ} (h : Step M C s s') : s'.live ⊆ s.live := by
  cases h with
  | free => exact Set.sdiff_subset
  | _ => exact subset_rfl

/-- Objects are not created again. -/
theorem live_subset {m : μ} {L : Set α} {s : State α μ} (h : Reachable M C m L s) :
    s.live ⊆ L := by
  induction h with
  | refl => exact subset_rfl
  | tail _ hstep ih => exact hstep.live_subset.trans ih

/-! ## 3. References that go both ways -/

/-- The object has a reference. -/
def Linked (M : Memory α μ ι) (m : μ) (a : α) : Prop := ∃ b, M.Refs m a b

/-- A property of memories that writes with `C` keep, and under which references go both ways. -/
structure Mutual (M : Memory α μ ι) (C : μ → ι → Prop) (P : μ → Prop) : Prop where
  keeps : ∀ {m i}, P m → C m i → P (M.write m i)
  symm : ∀ {m a b}, P m → M.Refs m a b → M.Refs m b a

/-- Linked objects exist. -/
structure LinkedLive (M : Memory α μ ι) (P : μ → Prop) (s : State α μ) : Prop where
  memory : P s.memory
  handles : s.handles ⊆ s.live
  linked : ∀ {a}, Linked M s.memory a → a ∈ s.live

variable {P : μ → Prop}

theorem Step.linkedLive (hP : Mutual M C P) {s s' : State α μ} (h : Step M C s s')
    (hs : LinkedLive M P s) : LinkedLive M P s' := by
  cases h with
  | write i hC hi =>
    refine ⟨hP.keeps hs.memory hC, hs.handles, ?_⟩
    rintro a ⟨b, hab⟩
    rcases M.refs_of_write hab with hold | ⟨ha, -⟩
    · exact hs.linked ⟨b, hold⟩
    · exact hs.handles (hi ha)
  | @take a b ha hab =>
    have hb : Linked M s.memory b := ⟨a, hP.symm hs.memory hab⟩
    exact ⟨hs.memory, Set.insert_subset (hs.linked hb) hs.handles, hs.linked⟩
  | drop D => exact ⟨hs.memory, Set.sdiff_subset.trans hs.handles, hs.linked⟩
  | @free a ha hhandle hrefs =>
    refine ⟨hs.memory, ?_, ?_⟩
    · intro c hc
      exact ⟨hs.handles hc, fun hca => hhandle (hca ▸ hc)⟩
    · rintro c ⟨d, hcd⟩
      refine ⟨hs.linked ⟨d, hcd⟩, ?_⟩
      rintro rfl
      -- The partner of a linked object exists and refers to it, so it is not freed.
      have hdc : M.Refs s.memory d c := hP.symm hs.memory hcd
      exact hrefs d (hs.linked ⟨c, hdc⟩) hdc

theorem linkedLive (hP : Mutual M C P) {m : μ} {L : Set α} (hPm : P m)
    (hm : ∀ a b, ¬ M.Refs m a b) {s : State α μ} (h : Reachable M C m L s) :
    LinkedLive M P s := by
  induction h with
  | refl => exact ⟨hPm, subset_rfl, fun ⟨b, hab⟩ => absurd hab (hm _ b)⟩
  | tail _ hstep ih => exact hstep.linkedLive hP ih

/-- **What is left.**  When references go both ways, and nothing more can be freed, an object exists
if and only if it has a handle or a reference. -/
theorem live_iff_of_settled (hP : Mutual M C P) {m : μ} {L : Set α} (hPm : P m)
    (hm : ∀ a b, ¬ M.Refs m a b) {s : State α μ} (h : Reachable M C m L s) (hs : Settled M s)
    (a : α) : a ∈ s.live ↔ a ∈ s.handles ∨ Linked M s.memory a := by
  have hlive : LinkedLive M P s := linkedLive hP hPm hm h
  constructor
  · intro ha
    by_cases hhandle : a ∈ s.handles
    · exact Or.inl hhandle
    · obtain ⟨b, -, hba⟩ := hs a ha hhandle
      exact Or.inr ⟨b, hP.symm hlive.memory hba⟩
  · rintro (hhandle | hlinked)
    · exact hlive.handles hhandle
    · exact hlive.linked hlinked

/-! ## 4. Without handles -/

/-- A program without handles can only wait for objects to be freed. -/
theorem memory_eq_of_no_handles (htouched : ∀ i, (M.touched i).Nonempty) {s s' : State α μ}
    (h : Relation.ReflTransGen (Step M C) s s') (hs : s.handles = ∅) :
    s'.memory = s.memory ∧ s'.handles = ∅ := by
  induction h with
  | refl => exact ⟨rfl, hs⟩
  | tail _ hstep ih =>
    obtain ⟨hmemory, hhandles⟩ := ih
    cases hstep with
    | write i hC hi =>
      obtain ⟨a, ha⟩ := htouched i
      exact absurd (hi ha) (by simp [hhandles])
    | take ha hab => exact absurd ha (by simp [hhandles])
    | drop D => exact ⟨hmemory, by simp [hhandles]⟩
    | free ha hhandle hrefs => exact ⟨hmemory, hhandles⟩

/-- Of finitely many objects, those that can be freed are freed. -/
theorem exists_settled {s : State α μ} (hfinite : s.live.Finite) :
    ∃ L : Set α, Relation.ReflTransGen (Step M C) s { s with live := L } ∧
      Settled M { s with live := L } := by
  induction hn : s.live.ncard using Nat.strong_induction_on generalizing s with
  | _ n ih =>
    by_cases hsettled : Settled M s
    · exact ⟨s.live, .refl, hsettled⟩
    · obtain ⟨a, ha, hhandle, hrefs⟩ : ∃ a ∈ s.live, a ∉ s.handles ∧
          ∀ b ∈ s.live, ¬ M.Refs s.memory b a := by
        simpa [Settled] using hsettled
      have hlt : (s.live \ {a}).ncard < n := hn ▸ Set.ncard_sdiff_singleton_lt_of_mem ha hfinite
      obtain ⟨L, hsteps, hL⟩ := ih _ hlt (s := { s with live := s.live \ {a} })
        (hfinite.subset Set.sdiff_subset) rfl
      exact ⟨L, .head (.free ha hhandle hrefs) hsteps, hL⟩

end RefCount
