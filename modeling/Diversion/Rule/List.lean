import Diversion.Json.Decode
import Diversion.Rule.Spec
import Diversion.Report

/-!
# `Diversion.Rule.List` — rule lists in JSON

A rule list is a JSON array of rules. A rule is an object with the members `field`, `test`,
`arg` (optional, default `0`), `on_match` and `on_mismatch`; other members are ignored, and a
member given twice is refused. A rule may also be an array of those five values in that
order, the argument again optional.

- `field` and `test` are names in snake case (`tcp_dst_port`, `geq`).
- A target is `"accept"`, `"reject"` or `{"node": N}`.
- The argument is a 32-bit number, an array of four of them, or an address text. It is the
  first of these its value fits.

A complaint names its position in the text. The list is read first and converted second, so
a badly written address is reported with the index of its rule.

## Contents
- `RuleList.readRule`, `RuleList.read`.
- `RuleList.parse`: text to wire records.
-/

namespace Diversion

namespace RuleList

open Json

/-- Field names in wire order. -/
def fieldNames : List String := Field.all.map Field.key

/-- Test names in wire order. -/
def testNames : List String := Test.all.map Test.key

/-- Target variant names. -/
def targetNames : List String := ["accept", "reject", "node"]

/-- **A field name.** -/
def readField (depth : Nat) : ReadM Field :=
  readEnum depth fieldNames fun i inObject => do
    if inObject then readUnit
    pure (Field.all.getD i .zero)

/-- **A test name.** -/
def readTest (depth : Nat) : ReadM Test :=
  readEnum depth testNames fun i inObject => do
    if inObject then readUnit
    pure (Test.all.getD i .eq)

/-- **A target**: `node` needs its index, which only the object form can give. -/
def readTarget (depth : Nat) : ReadM Target :=
  readEnum depth targetNames fun i inObject => do
    if i = 0 then do
      if inObject then readUnit
      pure .accept
    else if i = 1 then do
      if inObject then readUnit
      pure .reject
    else if inObject then pure (.node (← readU16))
    else custom (invalidType .unitVariant "newtype variant")

/-- A 32-bit word of a JSON value. -/
def wordOf? : Json → Option Nat
  | .num (.nat n) => if n < 4294967296 then some n else none
  | _ => none

/-- **The argument a value stands for**: a word, four words, or an address text. -/
def argOf? (j : Json) : Option Arg :=
  match wordOf? j with
  | some n => some (.word n)
  | none =>
    match j with
    | .arr items =>
      match items.mapM wordOf? with
      | some ws => (Operand.ofList? ws).map .wide
      | none => none
    | .str s => some (.address s)
    | _ => none

/-- Complaint for a value that is no argument. -/
def argMismatch : String := "data did not match any variant of untagged enum ArgConfig"

/-- **An argument.** -/
def readArg (depth : Nat) : ReadM Arg := do
  let v ← readValue depth
  match argOf? v with
  | some a => pure a
  | none => custom argMismatch

/-- A rule's members as read so far. -/
structure Members where
  field : Option Field := none
  test : Option Test := none
  arg : Option Arg := none
  onMatch : Option Target := none
  onMismatch : Option Target := none

/-- **The members of a rule object**, up to its closing brace. -/
def readMembers (depth : Nat) : Nat → Bool → Members → ReadM Members
  | 0, _, acc => pure acc
  | fuel + 1, first, acc => do
    match ← nextKey first with
    | none => pure acc
    | some k =>
      if k = "field" then do
        if acc.field.isSome then custom (duplicateField k)
        readColon
        let v ← readField depth
        readMembers depth fuel false { acc with field := some v }
      else if k = "test" then do
        if acc.test.isSome then custom (duplicateField k)
        readColon
        let v ← readTest depth
        readMembers depth fuel false { acc with test := some v }
      else if k = "arg" then do
        if acc.arg.isSome then custom (duplicateField k)
        readColon
        let v ← readArg depth
        readMembers depth fuel false { acc with arg := some v }
      else if k = "on_match" then do
        if acc.onMatch.isSome then custom (duplicateField k)
        readColon
        let v ← readTarget depth
        readMembers depth fuel false { acc with onMatch := some v }
      else if k = "on_mismatch" then do
        if acc.onMismatch.isSome then custom (duplicateField k)
        readColon
        let v ← readTarget depth
        readMembers depth fuel false { acc with onMismatch := some v }
      else do
        readColon
        skipValue
        readMembers depth fuel false acc

/-- **A rule from its members**, the required ones checked in declaration order. -/
def complete (m : Members) : ReadM RuleSpec := do
  let some field := m.field | custom (missingField "field")
  let some test := m.test | custom (missingField "test")
  let some onMatch := m.onMatch | custom (missingField "on_match")
  let some onMismatch := m.onMismatch | custom (missingField "on_mismatch")
  pure { field, test, arg := m.arg.getD (.word 0), onMatch, onMismatch }

/-- What a rule array must hold. -/
def arrayShape : String := "struct RuleConfig with 5 elements"

/-- **A rule written as an array** of its five values. -/
def readElements (depth : Nat) : ReadM RuleSpec := do
  let some _ ← nextElement true | custom (invalidLength 0 arrayShape)
  let field ← readField depth
  let some _ ← nextElement false | custom (invalidLength 1 arrayShape)
  let test ← readTest depth
  let arg ← match ← nextElement false with
    | some _ => readArg depth
    | none => pure (.word 0)
  let some _ ← nextElement false | custom (invalidLength 3 arrayShape)
  let onMatch ← readTarget depth
  let some _ ← nextElement false | custom (invalidLength 4 arrayShape)
  let onMismatch ← readTarget depth
  pure { field, test, arg, onMatch, onMismatch }

/-- **A rule**, as an object or an array. -/
def readRule (depth : Nat) : ReadM RuleSpec := fixing do
  match ← skipSpace with
  | none => failPeek .eofWhileParsingValue
  | some b =>
    if b = 91 then do
      descend depth
      closing (readElements (depth - 1)) endArray
    else if b = 123 then do
      descend depth
      let fuel := (← remaining) + 1
      closing (do complete (← readMembers (depth - 1) fuel true {})) endObject
    else failInvalidType "struct RuleConfig"

/-- The rules of the list, up to its closing bracket. -/
def readRules (depth : Nat) : Nat → Bool → List RuleSpec → ReadM (List RuleSpec)
  | 0, _, acc => pure acc.reverse
  | fuel + 1, first, acc => do
    match ← nextElement first with
    | none => pure acc.reverse
    | some _ =>
      let r ← readRule depth
      readRules depth fuel false (r :: acc)

/-- **A rule list**: one array of rules, nothing after it. -/
def read : ReadM (List RuleSpec) := do
  let rules ← fixing do
    match ← skipSpace with
    | none => failPeek .eofWhileParsingValue
    | some b =>
      if b = 91 then do
        descend depthLimit
        let fuel := (← remaining) + 1
        closing (readRules (depthLimit - 1) fuel true []) endArray
      else failInvalidType "a sequence"
  readEnd
  pure rules

/-- **Wire records from rule-list text**: a reading failure is reported as an invalid list, a
conversion failure with the index of its rule. -/
def parse (text : String) : Except Report (List RuleRecord) := do
  let specs ← match runOn read text with
    | .ok rs => pure rs
    | .error e => throw (Report.context "Invalid JSON rule list" (.ofMessage e.text))
  specs.zipIdx.mapM fun (r, i) =>
    match r.toRecord with
    | .ok rec => pure rec
    | .error m => throw (Report.context s!"rule {i}" (.ofMessage m))

end RuleList

end Diversion
