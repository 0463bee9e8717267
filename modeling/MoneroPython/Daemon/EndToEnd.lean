/-
# Daemons and listeners that are implemented in Python

A Python class derives from a class of the daemon bindings and overrides operations.  Every bound
lambda runs under `MONERO_CATCH_AND_RETHROW` and calls its operation on the object.  It finds an
override only if the object was made with a trampoline, and that is decided once for the whole
class, where `PyMoneroTypes` registers it.

`outputs_eq_iff_registered` says that the registration is all that decides.  With it, the bindings
and the trampolines of the daemon lose nothing but the class of an exception: a run of calls has the
trace and the effects of calling the overrides directly, and the results under the handlers of the
bindings, where an exception of an override is a `RuntimeError` with its text.  `MoneroDaemonListener` is registered so.  `MoneroDaemon` is not: nothing uses the trampolines
of `PyMoneroDaemon`, and the bindings never call an override of a daemon
(`run_eq_directly_iff_listener`).
-/
import MoneroPython.Daemon.Calls
import MoneroPython.Errors.Exceptions
import MoneroPython.Lib.Run

namespace MoneroPython.Daemon

open TryCatch MoneroPython.Errors

variable {ρ σ π γ : Type}

/-! ## 1. Classes and objects

`σ` is the state of the world that Python code may read and change, `π` are the Python objects that
an override may return, and `γ` the values that they are converted to. -/

/-- The bound classes that the operations are called on. -/
inductive BoundClass where
  | moneroDaemon | moneroDaemonRpc | moneroDaemonListener
deriving DecidableEq

/-- Whether `PyMoneroTypes` registers the class with a trampoline, `PyMoneroDaemonListener` for
`MoneroDaemonListener`. -/
def BoundClass.hasTrampoline : BoundClass → Bool
  | .moneroDaemon => false
  | .moneroDaemonRpc => false
  | .moneroDaemonListener => true

/-- Whether the class has the operation. -/
def BoundCall.accepts : BoundCall ρ → BoundClass → Bool
  | .daemon _, cls => cls != .moneroDaemonListener
  | .onBlockHeader _, cls => cls == .moneroDaemonListener

theorem BoundCall.hasTrampoline_iff {call : BoundCall ρ} {cls : BoundClass}
    (h : call.accepts cls = true) :
    cls.hasTrampoline = true ↔ ∃ header, call = .onBlockHeader header := by
  cases call with
  | daemon call =>
    cases cls with
    | moneroDaemon => simp [BoundClass.hasTrampoline]
    | moneroDaemonRpc => simp [BoundClass.hasTrampoline]
    | moneroDaemonListener => cases h
  | onBlockHeader header =>
    obtain rfl : cls = .moneroDaemonListener := beq_iff_eq.mp h
    simp [BoundClass.hasTrampoline]

abbrev PyMethod (ρ σ π : Type) := List (Arg ρ) → σ → Except PyException π × σ

/-- An instance of a Python class: the bound class that it derives from, and the methods that it
defines in Python. -/
structure PyInstance (ρ σ π : Type) where
  derivesFrom : BoundClass
  method : Method → Option (PyMethod ρ σ π)

/-! ## 2. Virtual calls -/

/-- The conversion of a Python object to a declared type, and the `what()` of a Python
exception. -/
structure Pybind (π γ : Type) where
  cast : CppType → π → Except CppException γ
  what : PyException → String

/-- The outcome of an override in C++. -/
def Pybind.receive (py : Pybind π γ) (ret : CppType) : Except PyException π → Except CppException γ
  | .ok o => py.cast ret o
  | .error e => .error (.pythonError e (py.what e))

/-- What the C++ caller of a virtual method obtains, and the methods of the object's Python class
that were called on the way. -/
structure Obtained (ρ σ γ : Type) where
  result : Except CppException γ
  calls : List (Method × List (Arg ρ))
  world : σ

/-- The methods of the core.  `plain` are those of an object that is just the core's.  On an object
with a trampoline the methods of the base class are `base`; what they call in turn may be
overridden. -/
structure Core (ρ σ γ : Type) where
  plain : BoundClass → BoundCall ρ → σ → Except CppException γ × σ
  base : OverrideStmt ρ → σ → Obtained ρ σ γ

/-- A statement of a trampoline. -/
def OverrideStmt.run (py : Pybind π γ) (core : Core ρ σ γ) (object : PyInstance ρ σ π)
    (stmt : OverrideStmt ρ) (world : σ) : Obtained ρ σ γ :=
  match object.method stmt.name with
  | none => core.base stmt world
  | some override =>
    let (answer, world) := override stmt.args world
    { result := py.receive stmt.ret answer, calls := [(stmt.name, stmt.args)], world }

/-- The virtual call of a lambda.  `registered` are the classes whose objects get a trampoline when
a Python class derives from them. -/
def BoundCall.dispatch (registered : BoundClass → Bool) (py : Pybind π γ) (core : Core ρ σ γ)
    (object : PyInstance ρ σ π) (call : BoundCall ρ) (world : σ) : Obtained ρ σ γ :=
  if registered object.derivesFrom then
    call.body.run py core object world
  else
    let (result, world) := core.plain object.derivesFrom call world
    { result, calls := [], world }

/-- The statement has the declared type and name and passes what the caller passes. -/
theorem BoundCall.body_eq (call : BoundCall ρ) :
    call.body = ⟨call.signature.ret, call.signature.name, call.args⟩ := by
  cases call with
  | daemon call => cases call <;> rfl
  | onBlockHeader header => rfl

/-! ## 3. Runs -/

/-- What a call leaves behind: the overrides that were called, with their arguments, and what the
caller observed. -/
abbrev Trace (ρ γ : Type) := List (Method × List (Arg ρ)) × Except PyException γ

/-- A call of an operation on an instance whose class defines it in Python. -/
structure OverriddenCall (ρ σ π : Type) where
  object : PyInstance ρ σ π
  call : BoundCall ρ
  override : PyMethod ρ σ π
  accepts : call.accepts object.derivesFrom = true
  method_eq : object.method call.signature.name = some override

section Calls

variable (registered : BoundClass → Bool) (py : Pybind π γ) (core : Core ρ σ γ)

/-- The call as it goes, through C++. -/
def OverriddenCall.serve (c : OverriddenCall ρ σ π) (world : σ) : Trace ρ γ × σ :=
  let obtained := c.call.dispatch registered py core c.object world
  ((obtained.calls, callFromPython (tryCatch catchAndRethrow obtained.result)), obtained.world)

/-- What the caller observes of the answer of an override, under the handlers of the binding: an
exception is a `RuntimeError` with its text. -/
def observed (ret : CppType) : Except PyException π → Except PyException γ
  | .ok o => callFromPython (tryCatch catchAndRethrow (py.cast ret o))
  | .error e => .error (.builtin .runtimeError (py.what e))

/-- The call of the override with the arguments of the caller, and the answer under the handlers of
the binding. -/
def OverriddenCall.directly (c : OverriddenCall ρ σ π) (world : σ) : Trace ρ γ × σ :=
  let answer := c.override c.call.args world
  (([(c.call.signature.name, c.call.args)], observed py c.call.signature.ret answer.1), answer.2)

theorem observed_eq (ret : CppType) (answer : Except PyException π) :
    callFromPython (tryCatch catchAndRethrow (py.receive ret answer)) = observed py ret answer := by
  cases answer with
  | ok o => rfl
  | error e => exact call_catchAndRethrow_stdException rfl rfl

variable {registered}

/-- With a trampoline, the override is called once, with the arguments of the caller. -/
theorem OverriddenCall.serve_registered {c : OverriddenCall ρ σ π}
    (h : registered c.object.derivesFrom = true) (world : σ) :
    c.serve registered py core world = c.directly py world := by
  rw [serve, directly, BoundCall.dispatch, if_pos h, c.call.body_eq]
  simp only [OverrideStmt.run, c.method_eq, observed_eq]

/-- Without one, no override is called. -/
theorem OverriddenCall.serve_calls_unregistered {c : OverriddenCall ρ σ π}
    (h : registered c.object.derivesFrom ≠ true) (world : σ) :
    (c.serve registered py core world).1.1 = [] := by
  rw [serve, BoundCall.dispatch, if_neg h]

variable (registered)

/-- **The registration decides.**  Whichever classes are registered with their trampolines, a run of
calls on any objects has the same trace, the same effects and the same results as calling their
overrides with the arguments of the caller, the handlers of the bindings on both sides, if and only
if the classes of all its objects are. -/
theorem outputs_eq_iff_registered (calls : List (OverriddenCall ρ σ π)) (world : σ) :
    Run.outputs (OverriddenCall.serve registered py core) calls world =
        Run.outputs (OverriddenCall.directly py) calls world ↔
      ∀ c ∈ calls, registered c.object.derivesFrom = true := by
  refine Run.outputs_eq_iff ?_ ?_
  · intro c world htrace
    by_contra h
    have hnone : (c.serve registered py core world).1.1 = [] :=
      c.serve_calls_unregistered py core h world
    rw [htrace] at hnone
    exact List.cons_ne_nil _ _ hnone
  · intro c world h
    exact c.serve_registered py core h world

/-- **From Python to Python.**  As the classes are registered, a run of calls has the same trace,
the same effects and the same results as calling the overrides with the arguments of the caller, the
handlers of the bindings on both sides, if and only if it has no call of a daemon. -/
theorem run_eq_directly_iff_listener (calls : List (OverriddenCall ρ σ π)) (world : σ) :
    Run.outputs (OverriddenCall.serve BoundClass.hasTrampoline py core) calls world =
        Run.outputs (OverriddenCall.directly py) calls world ↔
      ∀ c ∈ calls, ∃ header, c.call = .onBlockHeader header := by
  rw [outputs_eq_iff_registered]
  exact forall₂_congr fun c _ => BoundCall.hasTrampoline_iff c.accepts

end Calls

end MoneroPython.Daemon
