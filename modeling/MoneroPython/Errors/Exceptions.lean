/-
# Exceptions on both sides of a binding

A C++ exception that leaves a bound lambda is turned into a Python exception by pybind11: the
registered translators are tried, the latest first, and what none of them takes is mapped by
pybind11's own defaults.  The module registers one translator
(`py_monero_bind_errors_and_enums` in `common/py_monero_common_bindings.cpp`), for
`monero_rpc_error`.  The line `py::exception<monero_error> pyMoneroError(m, "MoneroError")`
creates the Python class and registers nothing.

`catchAndRethrow` is the handler stack of the macro `MONERO_CATCH_AND_RETHROW`
(`py_monero_types.h`).  `call_catchAndRethrow_stdException` says what a Python caller gets from
a binding that goes through it when the core throws anything but a `monero_rpc_error`: a
builtin `RuntimeError` with the text, and so never a `MoneroError`.
-/
import MoneroPython.Lib.TryCatch

namespace MoneroPython.Errors

open TryCatch

/-! ## 1. Python exceptions -/

/-- The builtin classes that pybind11 raises. -/
inductive BuiltinException where
  | runtimeError | valueError | memoryError | indexError | overflowError
  | other (name : String)
deriving DecidableEq

/-- A Python exception class.  `user` is a class that the caller defines, told apart from the
caller's other classes by `id`. -/
inductive PyClass where
  | builtin (cls : BuiltinException)
  | moneroError
  | moneroRpcError
  | user (id : ℕ) (base : PyClass)
deriving DecidableEq

/-- `issubclass(cls, MoneroError)`; `MoneroRpcError` is a subclass. -/
def PyClass.isMoneroError : PyClass → Bool
  | .builtin _ => false
  | .moneroError => true
  | .moneroRpcError => true
  | .user _ base => base.isMoneroError

/-- A Python exception object: its class, its arguments, and the attribute `code` that
`MoneroRpcError` has. -/
structure PyException where
  cls : PyClass
  args : List String
  code : Option Int32 := none
deriving DecidableEq

/-- `MoneroRpcError(message, code)`. -/
def PyException.moneroRpcError (message : String) (code : Int32) : PyException :=
  { cls := .moneroRpcError, args := [message], code := some code }

def PyException.builtin (cls : BuiltinException) (message : String) : PyException :=
  { cls := .builtin cls, args := [message] }

/-! ## 2. C++ exceptions -/

/-- The classes below `std::exception` that pybind11 tells apart. -/
inductive StdClass where
  | badAlloc | domainError | invalidArgument | lengthError | outOfRange | rangeError
  | overflowError
  | other (name : String)
deriving DecidableEq

/-- What C++ code may throw.  `pythonError` is `py::error_already_set`: a Python exception that
travels through C++, with the text that `what()` makes of it. -/
inductive CppException where
  | rpcError (message : String) (code : Int32)
  | moneroError (message : String)
  | stdException (cls : StdClass) (message : String)
  | pythonError (exc : PyException) (text : String)
  | foreign
deriving DecidableEq

namespace CppException

/-- Caught by `catch (const monero_rpc_error&)`. -/
def isRpcError : CppException → Bool
  | .rpcError _ _ => true
  | _ => false

/-- Caught by `catch (const monero_error&)`. -/
def isMoneroError : CppException → Bool
  | .rpcError _ _ => true
  | .moneroError _ => true
  | _ => false

/-- Caught by `catch (const std::exception&)`. -/
def isStdException : CppException → Bool
  | .foreign => false
  | _ => true

/-- `what()`, a C string: the text as far as its first NUL.  Messages are taken to have none. -/
def what : CppException → String
  | .rpcError message _ => message
  | .moneroError message => message
  | .stdException _ message => message
  | .pythonError _ text => text
  | .foreign => ""

end CppException

/-! ## 3. From C++ to Python -/

/-- The translator for `monero_rpc_error`.  What it does not catch leaves it. -/
def rpcErrorTranslator : CppException → Option PyException
  | .rpcError message code => some (.moneroRpcError message code)
  | _ => none

/-- The translators that the module registers, the latest first. -/
def registeredTranslators : List (CppException → Option PyException) := [rpcErrorTranslator]

/-- The builtin class that pybind11 maps a standard exception to. -/
def StdClass.builtin : StdClass → BuiltinException
  | .badAlloc => .memoryError
  | .domainError => .valueError
  | .invalidArgument => .valueError
  | .lengthError => .valueError
  | .outOfRange => .indexError
  | .rangeError => .valueError
  | .overflowError => .overflowError
  | .other _ => .runtimeError

/-- pybind11's own mapping. -/
def defaultTranslator : CppException → PyException
  | .pythonError exc _ => exc
  | .stdException cls message => .builtin cls.builtin message
  | .moneroError message => .builtin .runtimeError message
  | .rpcError message _ => .builtin .runtimeError message
  | .foreign => .builtin .runtimeError "Caught an unknown exception!"

/-- The Python exception that pybind11 raises for a C++ exception. -/
def translate (e : CppException) : PyException :=
  (registeredTranslators.findSome? (· e)).getD (defaultTranslator e)

/-- What a Python caller of a binding observes. -/
def callFromPython {α : Type*} (outcome : Except CppException α) : Except PyException α :=
  outcome.mapError translate

@[simp] theorem callFromPython_ok {α : Type*} (a : α) :
    callFromPython (.ok a : Except CppException α) = .ok a := rfl

@[simp] theorem callFromPython_error {α : Type*} (e : CppException) :
    callFromPython (.error e : Except CppException α) = .error (translate e) := rfl

@[simp] theorem translate_rpcError (message : String) (code : Int32) :
    translate (.rpcError message code) = .moneroRpcError message code := rfl

@[simp] theorem translate_moneroError (message : String) :
    translate (.moneroError message) = .builtin .runtimeError message := rfl

/-! ## 4. The macro -/

/-- The handlers of `MONERO_CATCH_AND_RETHROW`. -/
def catchAndRethrow {α : Type*} : List (Clause CppException α) :=
  [.rethrow CppException.isRpcError,
   .rethrow CppException.isMoneroError,
   .convert CppException.isStdException fun e => .moneroError e.what]

theorem tryCatch_catchAndRethrow_rpcError {α : Type*} (message : String) (code : Int32) :
    tryCatch (catchAndRethrow (α := α)) (.error (.rpcError message code)) =
      .error (.rpcError message code) :=
  tryCatch_cons_of_catches rfl _

/-- Every other standard exception leaves the macro as a `monero_error` with its text. -/
theorem tryCatch_catchAndRethrow_stdException {α : Type*} {e : CppException}
    (hstd : e.isStdException = true) (hrpc : e.isRpcError = false) :
    tryCatch (catchAndRethrow (α := α)) (.error e) = .error (.moneroError e.what) := by
  rw [catchAndRethrow, tryCatch_cons_of_not_catches hrpc]
  cases hmonero : e.isMoneroError with
  | false =>
    rw [tryCatch_cons_of_not_catches hmonero, tryCatch_cons_of_catches hstd]
    rfl
  | true =>
    -- thrown again, and `e` is a `monero_error` with the text already
    rw [tryCatch_cons_of_catches hmonero]
    cases e with
    | rpcError message code => cases hrpc
    | moneroError message => rfl
    | stdException cls message => cases hmonero
    | pythonError exc text => cases hmonero
    | foreign => cases hmonero

/-- Python gets a `RuntimeError` with the text: no translator is registered for
`monero_error`. -/
theorem call_catchAndRethrow_stdException {α : Type*} {e : CppException}
    (hstd : e.isStdException = true) (hrpc : e.isRpcError = false) :
    callFromPython (tryCatch (catchAndRethrow (α := α)) (.error e)) =
      .error (.builtin .runtimeError e.what) := by
  rw [tryCatch_catchAndRethrow_stdException hstd hrpc, callFromPython_error,
    translate_moneroError]

/-- The Python caller receives an instance of `MoneroError` that carries `message`. -/
def RaisesMoneroError {α : Type*} (message : String) (observed : Except PyException α) : Prop :=
  ∃ exc, observed = .error exc ∧ exc.cls.isMoneroError = true ∧ exc.args.head? = some message

/-- **The macro never yields a `MoneroError`** for a failure other than a `monero_rpc_error`:
whatever standard exception the core throws, `except MoneroError` does not catch it. -/
theorem catchAndRethrow_not_raisesMoneroError {α : Type*} (e : CppException)
    (hstd : e.isStdException = true) (hrpc : e.isRpcError = false) :
    ¬ RaisesMoneroError e.what
      (callFromPython (tryCatch (catchAndRethrow (α := α)) (.error e))) := by
  rw [call_catchAndRethrow_stdException hstd hrpc]
  rintro ⟨exc, hexc, hcls, -⟩
  cases hexc
  cases hcls

/-- The instance at a `monero_error` of the core. -/
theorem catchAndRethrow_not_raisesMoneroError_moneroError :
    ¬ RaisesMoneroError "invalid" (callFromPython
      (tryCatch catchAndRethrow (.error (.moneroError "invalid") : Except CppException Unit))) :=
  catchAndRethrow_not_raisesMoneroError (.moneroError "invalid") rfl rfl

/-- `validate_payment_id` with a payment id that the core rejects by a `monero_error`: the
caller does not receive a `MoneroError`. -/
theorem moneroError_becomes_runtimeError :
    ¬ ∀ e : CppException, e.isStdException = true → e.isRpcError = false →
      RaisesMoneroError e.what
        (callFromPython (tryCatch (catchAndRethrow (α := Unit)) (.error e))) := by
  intro h
  obtain ⟨exc, hexc, hcls, -⟩ := h (.moneroError "Payment ID is invalid") rfl rfl
  cases hexc
  cases hcls

end MoneroPython.Errors
