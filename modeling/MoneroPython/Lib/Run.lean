/-
# Runs of a deterministic step function

A run is a start state and the list of actions taken from it.  `trace` lists the states the
run passes through, the start state included, and `AllSteps C` says that every action meets
`C` in the state it is taken from.

The two rules at the end turn a fact about one step into a fact about every state a run
reaches.  `forall_trace` is the invariant rule.  `forall_trace_iff` is its exact form: when
`C` is not only enough for one step to keep `P` but also necessary, then a run stays inside
`P` if and only if all of its steps meet `C`.

Section 3 is about steps that also have an output.  `outputs_eq_iff` compares two such systems over
whole runs.
-/
import Mathlib.Tactic.Common

namespace Run

variable {σ α : Type*} (step : σ → α → σ)

/-! ## 1. The states and the steps of a run -/

/-- The states a run passes through, from its start state to its last one. -/
def trace : σ → List α → List σ
  | s, [] => [s]
  | s, a :: as => s :: trace (step s a) as

/-- Every action of the run meets `C` in the state it is taken from. -/
def AllSteps (C : σ → α → Prop) : σ → List α → Prop
  | _, [] => True
  | s, a :: as => C s a ∧ AllSteps C (step s a) as

theorem mem_trace_self (s : σ) (as : List α) : s ∈ trace step s as := by
  cases as <;> simp [trace]

/-- The states of a run that starts with `a` are the start state and those of the rest. -/
theorem forall_mem_trace_cons {P : σ → Prop} {s : σ} {a : α} {as : List α} :
    (∀ t ∈ trace step s (a :: as), P t) ↔ P s ∧ ∀ t ∈ trace step (step s a) as, P t := by
  simp [trace]

variable {step}

theorem AllSteps.imp {C D : σ → α → Prop} (h : ∀ s a, C s a → D s a) :
    ∀ {as : List α} {s : σ}, AllSteps step C s as → AllSteps step D s as
  | [], _, _ => trivial
  | _ :: _, _, hC => ⟨h _ _ hC.1, AllSteps.imp h hC.2⟩

/-- What holds at the start and is kept by steps that meet `C` holds wherever such a step is
taken. -/
theorem AllSteps.and_invariant {P : σ → Prop} {C : σ → α → Prop}
    (hstep : ∀ s a, P s → C s a → P (step s a)) :
    ∀ {as : List α} {s : σ}, P s → AllSteps step C s as →
      AllSteps step (fun s a => P s ∧ C s a) s as
  | [], _, _, _ => trivial
  | _ :: _, _, hs, hC =>
    ⟨⟨hs, hC.1⟩, AllSteps.and_invariant hstep (hstep _ _ hs hC.1) hC.2⟩

/-- Conditions that agree on the steps that are taken. -/
theorem AllSteps.congr {C D Q : σ → α → Prop} (h : ∀ s a, Q s a → (C s a ↔ D s a)) :
    ∀ {as : List α} {s : σ}, AllSteps step Q s as → (AllSteps step C s as ↔ AllSteps step D s as)
  | [], _, _ => Iff.rfl
  | _ :: _, _, hQ => and_congr (h _ _ hQ.1) (AllSteps.congr h hQ.2)

/-! ## 2. From one step to a run -/

/-- **The invariant rule.**  If each step that meets `C` keeps `P`, a run from `P` whose
steps all meet `C` reaches only states in `P`. -/
theorem forall_trace {P : σ → Prop} {C : σ → α → Prop}
    (hstep : ∀ s a, P s → C s a → P (step s a)) :
    ∀ (as : List α) (s : σ), P s → AllSteps step C s as → ∀ t ∈ trace step s as, P t
  | [], s, hs, _ => by simpa [trace] using hs
  | a :: as, s, hs, hC => by
    rw [forall_mem_trace_cons]
    exact ⟨hs, forall_trace hstep as (step s a) (hstep s a hs hC.1) hC.2⟩

/-- **The exact invariant rule.**  If `C` decides for one step whether `P` is kept, it
decides for whole runs whether `P` is ever left. -/
theorem forall_trace_iff {P : σ → Prop} {C : σ → α → Prop}
    (hstep : ∀ s a, P s → (P (step s a) ↔ C s a)) :
    ∀ (as : List α) (s : σ), P s → ((∀ t ∈ trace step s as, P t) ↔ AllSteps step C s as)
  | [], s, hs => by simpa [trace, AllSteps] using hs
  | a :: as, s, hs => by
    rw [forall_mem_trace_cons]
    constructor
    · rintro ⟨-, hrest⟩
      have hnext : P (step s a) := hrest _ (mem_trace_self step _ as)
      exact ⟨(hstep s a hs).mp hnext, (forall_trace_iff hstep as _ hnext).mp hrest⟩
    · rintro ⟨hC, hrest⟩
      have hnext : P (step s a) := (hstep s a hs).mpr hC
      exact ⟨hs, (forall_trace_iff hstep as _ hnext).mpr hrest⟩

/-! ## 3. Runs with outputs -/

variable {ω : Type*}

/-- The outputs of a run in order, and the state it ends in. -/
def outputs (step : α → σ → ω × σ) : List α → σ → List ω × σ
  | [], s => ([], s)
  | a :: as, s =>
    let next := step a s
    let rest := outputs step as next.2
    (next.1 :: rest.1, rest.2)

/-- **Two systems on the same run.**  When one output tells whether an action meets `C`, and the
systems agree on the actions that do, they agree on a run if and only if all of its actions do. -/
theorem outputs_eq_iff {f g : α → σ → ω × σ} {C : α → Prop}
    (hout : ∀ a s, (f a s).1 = (g a s).1 → C a) (hstep : ∀ a s, C a → f a s = g a s)
    {as : List α} {s : σ} : outputs f as s = outputs g as s ↔ ∀ a ∈ as, C a := by
  induction as generalizing s with
  | nil => simp [outputs]
  | cons a as ih =>
    simp only [outputs, Prod.mk.injEq, List.cons.injEq, List.forall_mem_cons]
    constructor
    · rintro ⟨⟨hfirst, hrest⟩, hlast⟩
      have hC : C a := hout a s hfirst
      rw [hstep a s hC] at hrest hlast
      exact ⟨hC, ih.mp (Prod.ext hrest hlast)⟩
    · rintro ⟨hC, has⟩
      rw [hstep a s hC, ih.mpr has]
      exact ⟨⟨rfl, rfl⟩, rfl⟩

end Run
