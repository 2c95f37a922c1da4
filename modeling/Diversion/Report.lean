/-!
# `Diversion.Report` — failures with context

A report is a chain of messages: what was being done, then why it failed, down to the root
cause. On one line the messages are joined by `: `. As a full report the first message
follows `Error: `, and the causes are listed under `Caused by:`, indented four spaces, and
numbered when there are several.

## Contents
- `Report`, `Report.context`, `Report.line`, `Report.full`.
-/

namespace Diversion

/-- **A failure with its context**, outermost message first. -/
structure Report where
  chain : List String
  deriving DecidableEq, Repr, Inhabited

namespace Report

/-- A report of one message. -/
def ofMessage (m : String) : Report := ⟨[m]⟩

/-- **Adding context**: what was being done when the failure happened. -/
def context (c : String) (r : Report) : Report := ⟨c :: r.chain⟩

/-- The report on one line: messages joined by `: `. -/
def line (r : Report) : String := ": ".intercalate r.chain

/-- `n` right-aligned in five columns. -/
def number (n : Nat) : String :=
  let s := toString n
  String.ofList (List.replicate (5 - s.length) ' ') ++ s

/-- A cause's text indented under its number (or four spaces); later lines of a multi-line
message are indented to match. -/
def cause (numbered : Bool) (n : Nat) (m : String) : String :=
  let first := if numbered then number n ++ ": " else "    "
  let rest := if numbered then "       " else "    "
  first ++ ("\n" ++ rest).intercalate (m.splitOn "\n")

/-- **The full report**, as a program prints it before exiting with failure. -/
def full (r : Report) : String :=
  match r.chain with
  | [] => "Error: \n"
  | [m] => "Error: " ++ m ++ "\n"
  | m :: causes =>
    let numbered := causes.length > 1
    let lines := causes.zipIdx.map fun (c, i) => cause numbered i c
    "Error: " ++ m ++ "\n\nCaused by:\n" ++ "\n".intercalate lines ++ "\n"

end Report

end Diversion
