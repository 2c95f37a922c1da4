/-!
# `Diversion.Rule.Test` — the comparison a rule applies

Six comparisons, numbered 0 to 5 on the wire, each with its symbol in program text and its key
in JSON rule lists. `Test.holds` applies a comparison to two numbers; rules compare 128-bit
operands through their `toNat`.
-/

namespace Diversion

/-- **A comparison of a field value with an argument.** -/
inductive Test
  | eq | neq | lt | leq | gt | geq
  deriving DecidableEq, Repr, Inhabited

namespace Test

/-- Every comparison, in wire-code order. -/
def all : List Test := [eq, neq, lt, leq, gt, geq]

/-- The comparison's wire code. -/
def code : Test → Nat
  | eq => 0
  | neq => 1
  | lt => 2
  | leq => 3
  | gt => 4
  | geq => 5

/-- **The comparison with wire code `n`**, if `n ≤ 5`. -/
def ofCode? (n : Nat) : Option Test := all[n]?

/-- Symbol in program text. -/
def symbol : Test → String
  | eq => "=="
  | neq => "!="
  | lt => "<"
  | leq => "<="
  | gt => ">"
  | geq => ">="

/-- Key in JSON rule lists. -/
def key : Test → String
  | eq => "eq"
  | neq => "neq"
  | lt => "lt"
  | leq => "leq"
  | gt => "gt"
  | geq => "geq"

/-- The comparison whose JSON key is `s`. -/
def ofKey? (s : String) : Option Test := all.find? (·.key == s)

/-- **Whether `value` stands in relation `t` to `arg`.** -/
def holds (t : Test) (value arg : Nat) : Bool :=
  match t with
  | eq => value == arg
  | neq => value != arg
  | lt => decide (value < arg)
  | leq => decide (value ≤ arg)
  | gt => decide (value > arg)
  | geq => decide (value ≥ arg)

theorem ofCode?_code (t : Test) : ofCode? t.code = some t := by
  cases t <;> rfl

theorem ofCode?_isSome_iff (n : Nat) : (ofCode? n).isSome ↔ n < 6 := by
  simp [ofCode?, all]

end Test

end Diversion
