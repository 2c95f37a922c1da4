import Diversion.Filter.Program

/-!
# `Diversion.Filter.Compile` — from rule records to a program

Compilation checks every record and refuses the whole list at the first fault. The checks run
in a fixed order, which decides which fault is reported when a list has several: first the list
(empty, more than 255 rules), then each rule in index order — field code, test code, the match
target, the mismatch target, upper argument words of a narrow field, argument bound.

## Contents
- `checkTarget`, `compileNode`: one rule.
- `compileRecords`: a decoded list; `compile`: wire bytes (length checks come first).
-/

namespace Diversion

/-- Most rules a program may hold. -/
def maxRules : Nat := 255

/-- **A continuation of rule `index` in a list of `count`**: sentinels pass, a node must lie
strictly after the rule and inside the list. -/
def checkTarget (index count raw : Nat) : Except FilterError Target :=
  match Target.ofRaw raw with
  | .node next =>
    if next ≤ index ∨ next ≥ count then .error (.badBranch index next count) else .ok (.node next)
  | t => .ok t

/-- **Compiling rule `index` of a list of `count`.** -/
def compileNode (index count : Nat) (r : RuleRecord) : Except FilterError Node := do
  let some field := Field.ofCode? r.field.toNat | throw (.unknownField r.field.toNat)
  let some test := Test.ofCode? r.test.toNat | throw (.unknownTest r.test.toNat)
  let onMatch ← checkTarget index count r.onMatch.toNat
  let onMismatch ← checkTarget index count r.onMismatch.toNat
  if !field.wide && r.arg.hasUpper then throw (.upperWordsSet field)
  if r.arg.w0.toNat > field.maxArg then throw (.argumentRange r.arg.w0.toNat field)
  pure ⟨field, test, r.arg, onMatch, onMismatch⟩

/-- **Compiling a decoded rule list.** -/
def compileRecords (rs : List RuleRecord) : Except FilterError Program := do
  if rs.isEmpty then throw .emptyList
  if rs.length > maxRules then throw (.tooManyRules rs.length)
  let nodes ← rs.zipIdx.mapM fun (r, i) => compileNode i rs.length r
  pure ⟨nodes⟩

/-- **Compiling a rule list in wire form**: the length checks come before decoding. -/
def compile (b : Bytes) : Except FilterError Program := do
  if b.length % recordSize ≠ 0 then throw (.raggedLength b.length)
  if b.length / recordSize > maxRules then throw (.tooManyRules (b.length / recordSize))
  compileRecords (recordsOf b)

end Diversion
