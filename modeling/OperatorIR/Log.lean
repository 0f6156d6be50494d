/-!
# Log lines

Work on nodes and registers leaves lines in a log, each at a level of severity. The log is a value:
what was logged is returned next to the result, in order.

## Main definitions

* `OperatorIR.LogLevel`, `OperatorIR.LogLine` — a level, and a text at a level.
* `OperatorIR.Logged` — a value with the lines that were logged on the way to it.

## Main results

* `OperatorIR.Logged.value_andThen`, `OperatorIR.Logged.log_andThen` — one step after another.
-/

set_option autoImplicit false

namespace OperatorIR

/-- How severe a log line is, from the most verbose level on. -/
inductive LogLevel where
  | trace
  | debug
  | info
  | warn
  | error
  deriving DecidableEq

/-- The name of a level. -/
def LogLevel.name : LogLevel → String
  | trace => "TRACE"
  | debug => "DEBUG"
  | info => "INFO"
  | warn => "WARN"
  | error => "ERROR"

/-- One line of the log. -/
structure LogLine where
  /-- How severe it is. -/
  level : LogLevel
  /-- What it says. -/
  text : String
  deriving DecidableEq

/-- A value with the lines that were logged on the way to it. -/
structure Logged (α : Type) where
  /-- The value. -/
  value : α
  /-- The lines, in order. -/
  log : List LogLine

namespace Logged

variable {α β : Type}

/-- A value without any lines. -/
def quiet (a : α) : Logged α := ⟨a, []⟩

/-- Go on with the value; the new lines come after those that are there. -/
def andThen (x : Logged α) (f : α → Logged β) : Logged β :=
  ⟨(f x.value).value, x.log ++ (f x.value).log⟩

/-- The value after two steps. -/
@[simp] theorem value_andThen (x : Logged α) (f : α → Logged β) :
    (x.andThen f).value = (f x.value).value := rfl

/-- The lines of two steps. -/
@[simp] theorem log_andThen (x : Logged α) (f : α → Logged β) :
    (x.andThen f).log = x.log ++ (f x.value).log := rfl

end Logged

end OperatorIR
