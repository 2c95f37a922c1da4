import Diversion.Json.Value
import Diversion.Text.Unicode

/-!
# `Diversion.Json.Unexpected` — how a decoder words a mismatch

When a JSON value does not have the shape a decoder wants, the complaint names what was found
and what was expected: `invalid type: integer ` + "`5`" + `, expected a string`. A found string
is quoted with escapes for quotes, backslashes and invisible characters; a found double is
printed positionally and always with a decimal point.

## Contents
- `Unexpected`, `Unexpected.text`, `Unexpected.ofJson`.
- `invalidType`, `invalidValue`, `unknownVariant`, `missingField`, `duplicateField`,
  `invalidLength`.
-/

namespace Diversion

namespace Json

/-- Positional text of a double with a decimal point always present. -/
def pointText (f : Float) : String :=
  let t := Decimal.plainText f
  if f.isFinite ∧ !t.contains '.' then t ++ ".0" else t

/-- Lowercase hex digits of `n`, no padding. -/
def hexDigits (n : Nat) : String := String.ofList (Nat.toDigits 16 n)

/-- **Quoted text** of a string, escapes as a debugging printer writes them: the usual
backslash escapes, and `\u` with hex digits in braces for a character that extends the one
before it or does not print as itself. -/
def debugQuote (s : String) : String :=
  let esc (c : Char) : String :=
    if c = '"' then "\\\""
    else if c = '\\' then "\\\\"
    else if c = '\n' then "\\n"
    else if c = '\r' then "\\r"
    else if c = '\t' then "\\t"
    else if c.toNat = 0 then "\\0"
    else if Text.isGraphemeExtended c || !Text.isPrintable c then
      "\\u\x7b" ++ hexDigits c.toNat ++ "\x7d"
    else c.toString
  "\"" ++ String.join (s.toList.map esc) ++ "\""

/-- **What a decoder found** instead of what it wanted. -/
inductive Unexpected
  | bool (b : Bool)
  | unsigned (n : Nat)
  | signed (i : Int)
  | float (f : Float)
  | str (s : String)
  | unit
  | unitVariant
  | seq
  | map
  deriving Inhabited

/-- The finding's wording. -/
def Unexpected.text : Unexpected → String
  | .bool b => "boolean `" ++ toString b ++ "`"
  | .unsigned n => "integer `" ++ toString n ++ "`"
  | .signed i => "integer `" ++ toString i ++ "`"
  | .float f => "floating point `" ++ pointText f ++ "`"
  | .str s => "string " ++ debugQuote s
  | .unit => "null"
  | .unitVariant => "unit variant"
  | .seq => "sequence"
  | .map => "map"

/-- The finding for a number. -/
def Unexpected.ofNumber : JsonNumber → Unexpected
  | .nat n => .unsigned n
  | .neg i => .signed i
  | .float f => .float f

/-- **The finding for a value.** -/
def Unexpected.ofJson : Json → Unexpected
  | .null => .unit
  | .bool b => .bool b
  | .num n => .ofNumber n
  | .str s => .str s
  | .arr _ => .seq
  | .obj _ => .map

/-- A value of the wrong kind. -/
def invalidType (u : Unexpected) (expected : String) : String :=
  "invalid type: " ++ u.text ++ ", expected " ++ expected

/-- A value of the right kind but out of range. -/
def invalidValue (u : Unexpected) (expected : String) : String :=
  "invalid value: " ++ u.text ++ ", expected " ++ expected

/-- The alternatives, back-quoted: one, `a or b`, or `one of a, b, c`. -/
def oneOf (names : List String) : String :=
  let q (n : String) := "`" ++ n ++ "`"
  match names with
  | [a] => q a
  | [a, b] => q a ++ " or " ++ q b
  | _ => "one of " ++ ", ".intercalate (names.map q)

/-- A name that is none of an enumeration's variants. -/
def unknownVariant (name : String) (names : List String) : String :=
  "unknown variant `" ++ name ++ "`, expected " ++ oneOf names

/-- A required field that was not given. -/
def missingField (name : String) : String := "missing field `" ++ name ++ "`"

/-- A field given twice. -/
def duplicateField (name : String) : String := "duplicate field `" ++ name ++ "`"

/-- A sequence of the wrong length. -/
def invalidLength (n : Nat) (expected : String) : String :=
  "invalid length " ++ toString n ++ ", expected " ++ expected

end Json

end Diversion
