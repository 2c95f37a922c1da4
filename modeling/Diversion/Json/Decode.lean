import Diversion.Json.Reader
import Diversion.Json.Unexpected

/-!
# `Diversion.Json.Decode` — reading typed values straight from text

Typed decoding reads JSON text into a wanted shape without building a `Json` value first. A
mismatch is reported by reading the value that stands there and naming it
(`failInvalidType`). Complaints that do not come from the syntax (an unknown variant, a missing
field) get the position the cursor has once the enclosing value has been read; for an array or
object that includes its closing bracket, which is looked for even when the contents failed
(`closing`).

An enumeration is written either as its variant's name in a string, or as an object with the
name as its one key and the variant's contents as the value.

## Contents
- `failInvalidType`, `readVariant`, `readUnit`, `readU16`, `readEnum`, `closing`.
-/

namespace Diversion

namespace Json

/-- **Refuse the value at the cursor**, naming it: scalars are read to be named, arrays and
objects are named by their opening bracket. -/
def failInvalidType {α : Type} (expected : String) : ReadM α := do
  match ← skipSpace with
  | none => failPeek .eofWhileParsingValue
  | some b =>
    let u ← if b = 110 then do eat; readIdent [117, 108, 108]; pure Unexpected.unit
      else if b = 116 then do eat; readIdent [114, 117, 101]; pure (.bool true)
      else if b = 102 then do eat; readIdent [97, 108, 115, 101]; pure (.bool false)
      else if b = 45 then do eat; pure (.ofNumber (← readNumber false))
      else if isDigit b then do pure (.ofNumber (← readNumber true))
      else if b = 34 then do eat; pure (.str (← readString))
      else if b = 91 then pure .seq
      else if b = 123 then pure .map
      else failPeek .expectedSomeValue
    throw (← fixPosition { fault := .custom (invalidType u expected) })

/-- **A variant name** among `names`: its index. -/
def readVariant (names : List String) : ReadM Nat := fixing do
  match ← skipSpace with
  | none => failPeek .eofWhileParsingValue
  | some b =>
    if b = 34 then do
      eat
      let s ← readString
      match names.idxOf? s with
      | some i => pure i
      | none => custom (unknownVariant s names)
    else failInvalidType "variant identifier"

/-- **`null`**, the contents of a variant without data. -/
def readUnit : ReadM Unit := fixing do
  match ← skipSpace with
  | none => failPeek .eofWhileParsingValue
  | some b => if b = 110 then do eat; readIdent [117, 108, 108] else failInvalidType "unit"

/-- **A 16-bit unsigned integer.** -/
def readU16 : ReadM Nat := fixing do
  match ← skipSpace with
  | none => failPeek .eofWhileParsingValue
  | some b =>
    let n ← if b = 45 then do eat; readNumber false
      else if isDigit b then readNumber true
      else failInvalidType "u16"
    match n with
    | .nat v => if v ≤ 65535 then pure v else custom (invalidValue (.unsigned v) "u16")
    | .neg i => custom (invalidValue (.signed i) "u16")
    | .float f => custom (invalidType (.float f) "u16")

/-- **An enumeration value**: `variant i inObject` reads the contents of variant `i`, which
exist only in the object form. -/
def readEnum {α : Type} (depth : Nat) (names : List String) (variant : Nat → Bool → ReadM α) :
    ReadM α := do
  match ← skipSpace with
  | none => failPeek .eofWhileParsingValue
  | some b =>
    if b = 123 then do
      descend depth
      let i ← readVariant names
      readColon
      let v ← variant i true
      match ← skipSpace with
      | some c => if c = 125 then do eat; pure v else fail .expectedSomeValue
      | none => fail .eofWhileParsingObject
    else if b = 34 then do
      let i ← readVariant names
      variant i false
    else failPeek .expectedSomeValue

/-- Run `close` for its effect on the cursor only. -/
def settle (close : ReadM Unit) : ReadM Unit := tryCatch close fun _ => pure ()

/-- **Contents, then the closing bracket**: when the contents fail, the bracket is still
looked for, so a complaint positioned afterwards points past it. -/
def closing {α : Type} (contents : ReadM α) (close : ReadM Unit) : ReadM α := do
  let r ← tryCatch contents fun e => do settle close; throw e
  close
  pure r

end Json

end Diversion
