import OperatorIR.AttrValue.Text
import OperatorIR.ElementType.Vocabulary
import OperatorIR.Node.Basic

/-!
# Failures

A failure is a chain of faults: the root cause, and around it what was being done when it arose,
one context after the other. The outermost context is the message of the failure; the whole chain
is written either on one line or as a report with the causes listed below the message.

## Main definitions

* `OperatorIR.Fault` — one thing that went wrong, or was being done when something did.
* `OperatorIR.Failure` — a chain of faults, the outermost first.
* `OperatorIR.Failure.within` — the failure inside one more context.
* `OperatorIR.Failure.message`, `inline`, `report` — the three texts of a failure.

## Main results

* `OperatorIR.Failure.chain_within` — a context is put in front of the chain.
* `OperatorIR.Failure.rootCause_within` — a context does not change the root cause.
-/

set_option autoImplicit false

namespace OperatorIR

/-- One link in the chain of a failure. -/
inductive Fault where
  /-- A name that its vocabulary does not have. -/
  | unknownName (name : UnknownName)
  /-- An attribute that the node does not have. -/
  | missingAttr (attr : MissingAttr)
  /-- A value where a destination token was expected for the output type. -/
  | noOutputType (value : AttrValue)
  /-- The extension of a node. -/
  | extending (node : Label)
  /-- A fault in the words of the extender that found it. -/
  | worded (text : String)

/-- What is said about a fault. -/
def Fault.message : Fault → String
  | unknownName name => name.message
  | missingAttr attr => attr.message
  | noOutputType value =>
    "Expected a destination type token for output_type, got " ++ value.kind ++ " " ++ value.display
  | extending node => "Extending " ++ node.text
  | worded text => text

/-- A chain of faults, which has at least one link. -/
structure Failure where
  /-- The outermost fault. -/
  outermost : Fault
  /-- The faults inside it, from the outside in. -/
  causes : List Fault

namespace Failure

/-- The failure that consists of one fault. -/
def ofFault (fault : Fault) : Failure := ⟨fault, []⟩

/-- The failure inside one more context. -/
def within (context : Fault) (f : Failure) : Failure := ⟨context, f.outermost :: f.causes⟩

/-- The faults from the outside in. -/
def chain (f : Failure) : List Fault := f.outermost :: f.causes

/-- The innermost fault. -/
def rootCause (f : Failure) : Fault := f.causes.getLastD f.outermost

/-- The messages from the outside in. -/
def messages (f : Failure) : List String := f.chain.map Fault.message

/-- A context is put in front of the chain. -/
@[simp] theorem chain_within (context : Fault) (f : Failure) :
    (f.within context).chain = context :: f.chain := rfl

/-- A context does not change the root cause. -/
@[simp] theorem rootCause_within (context : Fault) (f : Failure) :
    (f.within context).rootCause = f.rootCause := by
  rw [rootCause, within, List.getLastD_cons, rootCause]

/-! ## Texts -/

/-- The message of the outermost fault. -/
def message (f : Failure) : String := f.outermost.message

/-- The messages of the whole chain on one line. -/
def inline (f : Failure) : String := ": ".intercalate f.messages

/-- A cause below its number, which is set flush right in five columns; further lines of the text
begin under the first. -/
def numberedCause (cause : String) (number : Nat) : String :=
  let digits := Nat.repr number
  Text.spaces (5 - digits.length) ++ digits ++ ": " ++ Text.hang 7 cause

/-- The causes below a message: a single one is set in by four blanks, several are numbered. -/
def causeList : List String → String
  | [cause] => Text.spaces 4 ++ Text.hang 4 cause
  | causes => "\n".intercalate (causes.mapIdx fun i cause => numberedCause cause i)

/-- The message, and if there are causes a list of them below it. -/
def report (f : Failure) : String :=
  match f.causes with
  | [] => f.message
  | causes => f.message ++ "\n\nCaused by:\n" ++ causeList (causes.map Fault.message)

end Failure

end OperatorIR
