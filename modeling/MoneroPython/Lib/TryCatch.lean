/-
# Handler stacks

A `try` block with several `catch` clauses looks at its clauses in order and runs the body of
the first one that catches the exception.  The outcome of a block is `Except.ok` with the value
it returns or `Except.error` with the exception that leaves it.  The two lemmas follow an exception
through the clauses.
-/
import Mathlib.Tactic.Common

namespace TryCatch

variable {ε α : Type*}

/-! ## 1. Clauses and blocks -/

/-- A `catch` clause: the exceptions it catches and what it does with them. -/
structure Clause (ε α : Type*) where
  catches : ε → Bool
  body : ε → Except ε α

/-- A clause that throws what it has caught again. -/
def Clause.rethrow (catches : ε → Bool) : Clause ε α := ⟨catches, Except.error⟩

/-- A clause that throws another exception in its place. -/
def Clause.convert (catches : ε → Bool) (f : ε → ε) : Clause ε α := ⟨catches, Except.error ∘ f⟩

/-- A clause that returns a value. -/
def Clause.recover (catches : ε → Bool) (a : α) : Clause ε α := ⟨catches, fun _ => Except.ok a⟩

/-- The outcome of a `try` block from the outcome of its body. -/
def tryCatch : List (Clause ε α) → Except ε α → Except ε α
  | _, .ok a => .ok a
  | [], .error e => .error e
  | c :: cs, .error e => if c.catches e then c.body e else tryCatch cs (.error e)

/-! ## 2. Running a block -/

theorem tryCatch_cons_of_catches {c : Clause ε α} {e : ε} (h : c.catches e = true)
    (cs : List (Clause ε α)) : tryCatch (c :: cs) (.error e) = c.body e :=
  if_pos h

theorem tryCatch_cons_of_not_catches {c : Clause ε α} {e : ε} (h : c.catches e = false)
    (cs : List (Clause ε α)) : tryCatch (c :: cs) (.error e) = tryCatch cs (.error e) :=
  if_neg (by simp [h])

end TryCatch
