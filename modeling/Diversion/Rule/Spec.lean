import Diversion.Rule.Record
import Diversion.Rule.Field
import Diversion.Rule.Test
import Diversion.Rule.Target
import Diversion.Text.IpLiteral

/-!
# `Diversion.Rule.Spec` — rules as people write them

In a rule list a rule names its field and test, gives its argument as a number, as four
words, or as an IPv4 or IPv6 address, and names its two targets. Turning it into a wire
record converts the argument to four words; an address becomes the words of its octets
read big-endian, word 0 from the last four octets, so an IPv4 address is one word.

## Contents
- `Arg`, `Arg.words`.
- `RuleSpec`, `RuleSpec.toRecord`.
-/

namespace Diversion

/-- **A rule argument as written.** -/
inductive Arg
  /-- A 32-bit number. -/
  | word (n : Nat)
  /-- Four 32-bit words, least significant first. -/
  | wide (o : Operand)
  /-- An IPv4 or IPv6 address literal. -/
  | address (text : String)
  deriving DecidableEq, Repr, Inhabited

namespace Arg

/-- The big-endian word of four octets starting at `i`. -/
def octetWord (os : List Nat) (i : Nat) : Nat :=
  ((os.getD i 0 * 256 + os.getD (i + 1) 0) * 256 + os.getD (i + 2) 0) * 256 + os.getD (i + 3) 0

/-- **The argument's four words**, or why the address text is not one. -/
def words : Arg → Except String Operand
  | word n => .ok (.ofWord n)
  | wide o => .ok o
  | address text =>
    match IpLiteral.parse text with
    | some os =>
      if os.length = 4 then .ok (.ofWord (octetWord os 0))
      else .ok ⟨UInt32.ofNat (octetWord os 12), UInt32.ofNat (octetWord os 8),
        UInt32.ofNat (octetWord os 4), UInt32.ofNat (octetWord os 0)⟩
    | none => .error s!"invalid argument '{text}': expected a number or an address"

end Arg

/-- **A rule as written in a rule list.** -/
structure RuleSpec where
  field : Field
  test : Test
  arg : Arg := .word 0
  onMatch : Target
  onMismatch : Target
  deriving DecidableEq, Repr, Inhabited

/-- **The wire record of a rule.** -/
def RuleSpec.toRecord (r : RuleSpec) : Except String RuleRecord := do
  let arg ← r.arg.words
  pure { field := UInt8.ofNat r.field.code, test := UInt8.ofNat r.test.code,
         onMatch := UInt16.ofNat r.onMatch.toRaw, onMismatch := UInt16.ofNat r.onMismatch.toRaw,
         arg := arg }

end Diversion
