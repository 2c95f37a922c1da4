/-!
# `Diversion.Text.Integer` — decimal integers in text

Integers are read strictly: an optional sign, then decimal digits and nothing else, with no
blanks around them. The first fault met from the left is
the one reported, so a number that grows past its bound is refused as too large even if a
stray character follows.

## Contents
- `readDigits`, `readInteger`.
-/

namespace Diversion

namespace Text

/-- Complaint for text with a character that is not a digit. -/
def invalidDigit : String := "invalid digit found in string"

/-- The digits of `ds` onto `acc`, refused once above `bound`. -/
def readDigits (neg : Bool) (bound : Nat) : List Char → Nat → Except String Nat
  | [], acc => .ok acc
  | d :: ds, acc =>
    if d.isDigit then
      let acc := acc * 10 + (d.toNat - 48)
      if acc > bound then
        .error (if neg then "number too small to fit in target type"
          else "number too large to fit in target type")
      else readDigits neg bound ds acc
    else .error invalidDigit

/-- **A decimal integer in `-lo..=hi`**: an optional sign (`-` only when `signed`), then
digits. -/
def readInteger (signed : Bool) (lo hi : Nat) (s : String) : Except String Int :=
  match s.toList with
  | [] => .error "cannot parse integer from empty string"
  | ['+'] | ['-'] => .error invalidDigit
  | c :: rest =>
    if c = '+' then (readDigits false hi rest 0).map Int.ofNat
    else if c = '-' && signed then (readDigits true lo rest 0).map fun n => -(n : Int)
    else (readDigits false hi (c :: rest) 0).map Int.ofNat

/-- A signed 64-bit integer. -/
def readI64 (s : String) : Except String Int := readInteger true 9223372036854775808 9223372036854775807 s

end Text

end Diversion
