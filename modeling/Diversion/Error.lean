import Diversion.Rule.Field

/-!
# `Diversion.Error` — why an operation of the diversion core fails

Errors are causes, not texts: each constructor records what went wrong, and `message` is the
one place that spells it. The first word of a message names the family (`invalid filter: …`,
`invalid parameter: …`, `invalid state: …`), so a reader can tell the family from the text.

## Contents
- `FilterError`: a rule list that does not compile, in the order the compiler checks.
- `Param`, `ParamError`: bounded queue settings, priority, flags and layer out of range.
- `Lifecycle`, `StateError`: an operation the context's state does not allow.
- `Error`, `Error.message`.
-/

namespace Diversion

/-- **Why a rule list is refused.** -/
inductive FilterError
  /-- The byte length is not a whole number of 24-byte records. -/
  | raggedLength (length : Nat)
  /-- More than 255 rules. -/
  | tooManyRules (count : Nat)
  /-- No rules at all. -/
  | emptyList
  /-- A field code above 57. -/
  | unknownField (code : Nat)
  /-- A test code above 5. -/
  | unknownTest (code : Nat)
  /-- Rule `rule` continues at node `target`, which is not strictly after it in a list of
  `count` rules. -/
  | badBranch (rule target count : Nat)
  /-- A narrow field with a nonzero upper argument word. -/
  | upperWordsSet (field : Field)
  /-- Argument word 0 above the field's bound. -/
  | argumentRange (arg : Nat) (field : Field)
  deriving DecidableEq, Repr

namespace FilterError

/-- The reason, without the family prefix. -/
def reason : FilterError → String
  | raggedLength n => s!"rule list length {n} is not a multiple of 24"
  | tooManyRules n => s!"{n} rules exceed the program limit of 255"
  | emptyList => "empty rule list"
  | unknownField n => s!"unknown field {n}"
  | unknownTest n => s!"unknown test {n}"
  | badBranch i t n => s!"rule {i} branches to {t} (must be in {i + 1}..{n})"
  | upperWordsSet f => s!"{f.display} takes a 32-bit argument but upper words are set"
  | argumentRange a f => s!"argument {a} out of range for {f.display} (max {f.maxArg})"

end FilterError

/-- **A bounded queue setting.** -/
inductive Param
  /-- The most packets the queue holds. -/
  | queueLen
  /-- The aging sweep interval in milliseconds. -/
  | queueTime
  deriving DecidableEq, Repr

namespace Param

/-- The setting's name in messages. -/
def name : Param → String
  | queueLen => "QueueLen"
  | queueTime => "QueueTime"

/-- The smallest admissible value. -/
def lo : Param → Nat
  | queueLen => 1
  | queueTime => 128

/-- The largest admissible value. -/
def hi : Param → Nat
  | queueLen => 8192
  | queueTime => 2048

/-- The value a fresh queue starts with. -/
def default : Param → Nat
  | queueLen => 512
  | queueTime => 512

end Param

/-- **A setting out of its range.** -/
inductive ParamError
  | outOfBounds (param : Param) (value : Nat)
  | priority (value : Int)
  | unknownFlags (bits : Nat)
  | unknownLayer (value : Nat)
  deriving DecidableEq, Repr

/-- Lowercase hexadecimal with a `0x` prefix. -/
def hexLiteral (n : Nat) : String := "0x" ++ String.ofList (Nat.toDigits 16 n)

namespace ParamError

/-- The reason, without the family prefix. -/
def reason : ParamError → String
  | outOfBounds p v => s!"{p.name} must be within [{p.lo}, {p.hi}], got {v}"
  | priority v => s!"priority must be within [-1000, 1000], got {v}"
  | unknownFlags bits => s!"unknown flag bits {hexLiteral bits}"
  | unknownLayer v => s!"unknown layer {v}"

end ParamError

/-- **Where a context is in its life**: it only ever moves forward. -/
inductive Lifecycle
  | opening
  | opened
  | closing
  | closed
  deriving DecidableEq, Repr

/-- The state's name in messages. -/
def Lifecycle.name : Lifecycle → String
  | opening => "opening"
  | opened => "open"
  | closing => "closing"
  | closed => "closed"

/-- **An operation the context's state does not allow.** -/
inductive StateError
  /-- The context is not open. -/
  | notOpen (state : Lifecycle)
  /-- `close` on a context that is not open. -/
  | cannotClose (state : Lifecycle)
  /-- A filter operation before any filter was started. -/
  | noFilter
  deriving DecidableEq, Repr

/-- The reason, without the family prefix. -/
def StateError.reason : StateError → String
  | notOpen s => s!"context is {s.name}"
  | cannotClose s => s!"cannot close, context is {s.name}"
  | noFilter => "no filter has been started"

/-- **Why an operation of the core fails.** -/
inductive Error
  | filter (e : FilterError)
  | shuttingDown
  | param (e : ParamError)
  | state (e : StateError)
  | alreadyStarted
  /-- No background executor is available for the queue's tasks. -/
  | runtime (reason : String)
  /-- Settings could not be loaded; the reason is the loader's text. -/
  | config (reason : String)
  deriving DecidableEq, Repr

namespace Error

/-- **The error's text.** -/
def message : Error → String
  | filter e => "invalid filter: " ++ e.reason
  | shuttingDown => "diversion queue is shutting down"
  | param e => "invalid parameter: " ++ e.reason
  | state e => "invalid state: " ++ e.reason
  | alreadyStarted => "filter already started"
  | runtime r => "runtime error: " ++ r
  | config r => "configuration error: " ++ r

/-- **The error's family name**, as error reports tag it. -/
def kind : Error → String
  | filter _ => "InvalidFilter"
  | shuttingDown => "QueueShuttingDown"
  | param _ => "InvalidParam"
  | state _ => "InvalidState"
  | alreadyStarted => "FilterAlreadyStarted"
  | runtime _ => "Runtime"
  | config _ => "Config"

end Error

end Diversion
