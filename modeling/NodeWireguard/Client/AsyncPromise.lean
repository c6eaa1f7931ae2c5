import Mathlib
import NodeWireguard.Client.NativeMethods
import NodeWireguard.Foundations.Failures
import NodeWireguard.Netlink.LinkRequests

/-!
# Workers and their promises

`PromiseWorker` of `AsyncPromise.h`. `Execute` runs a function off the JavaScript thread and
keeps the text of an exception, as a C string, and the number of a `SystemError`. Back on the
JavaScript thread `Napi::AsyncWorker` looks at the text alone: without one it calls `OnOK`,
which builds the value from whatever the function left behind, otherwise `OnError`.

So an exception without a text would resolve the promise, and a `SystemError` with the number
zero would lose its number. An exception that has what it needs is reported as it is.

node-addon-api is not part of the repository; what is used of it follows its documentation.
-/

namespace NodeWireguard.AsyncPromise

open ByteText JsValues NativeMethods SocketExchange LinkRequests Failures

/-- Operation not permitted; the five numbers here are those `ErrnoName` has a name for besides
`ENODEV` and `EEXIST`. -/
def EPERM : Int := 1
/-- No such file or directory. -/
def ENOENT : Int := 2
/-- Permission denied. -/
def EACCES : Int := 13
/-- Device or resource busy. -/
def EBUSY : Int := 16
/-- Invalid argument. -/
def EINVAL : Int := 22

/-- `ErrnoName`: seven numbers have a name, and any other one is called `EUNKNOWN`. -/
def errnoName (code : Int) : Bytes :=
  if code = ENODEV then ascii "ENODEV"
  else if code = EEXIST then ascii "EEXIST"
  else if code = ENOENT then ascii "ENOENT"
  else if code = EPERM then ascii "EPERM"
  else if code = EACCES then ascii "EACCES"
  else if code = EINVAL then ascii "EINVAL"
  else if code = EBUSY then ascii "EBUSY"
  else ascii "EUNKNOWN"

/-- The error of `Napi::AsyncWorker`, empty where none was set, and `errnoCode_`. -/
structure PromiseWorker where
  error : Bytes := []
  errnoCode : Int := 0
  deriving DecidableEq

/-- `Execute`: the text goes to `Napi::AsyncWorker::SetError`, which keeps a copy of it for
`OnError`; it comes from `e.what()`, so it ends at a zero octet. -/
def execute {α : Type} (ended : Except Exception α) : PromiseWorker :=
  match ended with
  | .ok _ => {}
  | .error (.systemError code text) => { error := cString text, errnoCode := code }
  | .error failure => { error := cString (what failure) }

/-- A JavaScript error with the properties that `OnError` adds to it. -/
structure ErrorObject where
  message : Bytes
  code : Option Bytes := none
  errno : Option Int := none
  deriving DecidableEq

/-- How a worker settles its promise. There is no third way: `OnWorkComplete` calls one of the
two. -/
inductive Settlement where
  | resolved (value : JsValue)
  | rejected (error : ErrorObject)

/-- `OnError`: the number and its name become properties of the error, unless the number is zero. -/
def PromiseWorker.onError (worker : PromiseWorker) (message : Bytes) : ErrorObject :=
  if worker.errnoCode ≠ 0 then
    { message, code := some (errnoName worker.errnoCode), errno := some worker.errnoCode }
  else { message }

/-- `Napi::AsyncWorker::OnWorkComplete`; `shown` is what `resolve_` builds. Documented to call
`OnOK` where `SetError` was not called or was given an empty text, and otherwise `OnError` with
an error that has the text as its message. -/
def PromiseWorker.onWorkComplete (worker : PromiseWorker) (shown : JsValue) : Settlement :=
  if worker.error = [] then .resolved shown else .rejected (worker.onError worker.error)

/-- A worker from its function to its promise. After an exception `resolve_` would show what
the function had stored by then, which is `stored`. -/
def settle (stored : JsValue) (ended : Except Exception JsValue) : Settlement :=
  (execute ended).onWorkComplete (match ended with | .ok value => value | .error _ => stored)

/-- The number an exception carries. Only a `SystemError` has one. -/
def numberOf : Exception → Option Int
  | .systemError code _ => some code
  | .invalidArgument _ | .outOfRange _ | .runtimeError _ => none

/-- The error that an exception ought to be reported with. -/
def reported (failure : Exception) : ErrorObject where
  message := cString (what failure)
  code := (numberOf failure).map errnoName
  errno := numberOf failure

/-- An exception that a worker can report: it has a text, and no number zero. -/
structure Telling (failure : Exception) : Prop where
  text : cString (what failure) ≠ []
  number : numberOf failure ≠ some 0

/-- A function that returned resolves its promise with the value, whatever had been stored. -/
theorem settle_ok (stored value : JsValue) : settle stored (.ok value) = .resolved value := rfl

/-- Exactly these exceptions are reported as they are. Without a text the worker would call
`OnOK`, and a number that is zero would not be set; the cases are the kinds of exceptions. -/
theorem settle_reports_iff (stored : JsValue) (failure : Exception) :
    settle stored (.error failure) = .rejected (reported failure) ↔ Telling failure := by
  have unnumbered (text : Bytes) (same : what failure = text) (none : numberOf failure = none)
      (executed : execute (.error failure : Except Exception JsValue) = { error := cString text }) :
      settle stored (.error failure) = .rejected (reported failure) ↔ Telling failure := by
    by_cases silent : cString text = []
    · refine iff_of_false ?_ (fun telling => telling.text (same ▸ silent))
      simp [settle, executed, PromiseWorker.onWorkComplete, silent]
    · refine iff_of_true ?_ ⟨same ▸ silent, by simp [none]⟩
      simp [settle, executed, PromiseWorker.onWorkComplete, PromiseWorker.onError, silent, reported,
        same, none]
  cases failure with
  | invalidArgument text => exact unnumbered text rfl rfl rfl
  | outOfRange text => exact unnumbered text rfl rfl rfl
  | runtimeError text => exact unnumbered text rfl rfl rfl
  | systemError code text =>
    by_cases silent : cString text = []
    · refine iff_of_false ?_ (fun telling => telling.text silent)
      simp [settle, execute, PromiseWorker.onWorkComplete, silent]
    · by_cases zero : code = 0
      · refine iff_of_false ?_ (fun telling => telling.number (by simp [numberOf, zero]))
        simp [settle, execute, PromiseWorker.onWorkComplete, PromiseWorker.onError, silent, zero,
          reported, numberOf]
      · refine iff_of_true ?_ ⟨silent, by simpa [numberOf] using zero⟩
        simp [settle, execute, PromiseWorker.onWorkComplete, PromiseWorker.onError, silent, zero,
          reported, numberOf, what]

/-- A text with a beginning of its own is not empty. -/
theorem text_begins (opening : String) (rest : Bytes) (begins : cString (ascii opening) ≠ []) :
    cString (ascii opening ++ rest) ≠ [] := by
  cases octets : ascii opening with
  | nil =>
    rw [octets] at begins
    exact absurd rfl begins
  | cons first others =>
    rw [octets] at begins
    unfold cString at begins ⊢
    by_cases ended : first = 0
    · simp [ended] at begins
    · simp [ended]

/-- An invalid argument whose text begins with words of the code can be reported. -/
theorem argument_telling (opening : String) (rest : Bytes) (begins : cString (ascii opening) ≠ []) :
    Telling (.invalidArgument (ascii opening ++ rest)) :=
  ⟨text_begins opening rest begins, by simp [numberOf]⟩

/-- So can a runtime error whose text does. -/
theorem runtime_telling (opening : String) (rest : Bytes) (begins : cString (ascii opening) ≠ []) :
    Telling (.runtimeError (ascii opening ++ rest)) :=
  ⟨text_begins opening rest begins, by simp [numberOf]⟩

/-- And a system error, where its number is not the one of success. -/
theorem system_telling (code : Int) (opening : String) (rest : Bytes)
    (begins : cString (ascii opening) ≠ []) (failed : code ≠ 0) :
    Telling (.systemError code (ascii opening ++ rest)) :=
  ⟨text_begins opening rest begins, by simpa [numberOf] using failed⟩

end NodeWireguard.AsyncPromise
