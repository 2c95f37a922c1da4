import Diversion.Bytes
import Diversion.Text.Decimal

/-!
# `Diversion.Text.Hex` — bytes as hex text, sizes as text

Hex text as people paste it: pairs of hex digits, either case, with blanks and `:` separators
anywhere. The digits are taken byte by byte, so a non-ASCII character shows up in a complaint
as its first byte read as a Latin-1 character.

Sizes are printed in bytes below 1 KiB, else in KB or MB with two decimals.

## Contents
- `parseHex`, `formatHex`.
- `formatSize`.
-/

namespace Diversion

namespace Hex

/-- Whether a byte is ASCII whitespace (space, tab, newline, form feed, carriage return). -/
def isBlank (b : UInt8) : Bool := b = 32 || b = 9 || b = 10 || b = 12 || b = 13

/-- The value of a hex digit byte, or the complaint about it. -/
def nibble (b : UInt8) : Except String Nat :=
  if 48 ≤ b ∧ b ≤ 57 then .ok (b.toNat - 48)
  else if 97 ≤ b ∧ b ≤ 102 then .ok (b.toNat - 87)
  else if 65 ≤ b ∧ b ≤ 70 then .ok (b.toNat - 55)
  else .error s!"invalid hex digit '{Char.ofNat b.toNat}'"

/-- Bytes from digit pairs. -/
def pairs : List UInt8 → Except String Bytes
  | a :: b :: rest => do
    let hi ← nibble a
    let lo ← nibble b
    return UInt8.ofNat (hi * 16 + lo) :: (← pairs rest)
  | _ => .ok []

/-- **Reading hex text**: blanks and colons are skipped; an odd digit count is refused before
any digit is checked. -/
def parseHex (text : String) : Except String Bytes :=
  let digits := text.toUTF8.toList.filter fun b => !isBlank b && b != 58
  if digits.length % 2 ≠ 0 then .error "hex string has an odd number of digits"
  else pairs digits

/-- **Hex text of bytes**, two lowercase digits each. -/
def formatHex (b : Bytes) : String :=
  String.join (b.map fun x =>
    let ds := Nat.toDigits 16 x.toNat
    String.ofList (List.replicate (2 - ds.length) '0' ++ ds))

end Hex

/-- **A size as text**: `N B` below 1024, else KB or MB with two decimals of the double
quotient. -/
def formatSize (n : Nat) : String :=
  let x := (UInt64.ofNat n).toFloat
  if n < 1024 then s!"{n} B"
  else if n < 1048576 then Decimal.fixedText 2 (x / 1024.0) ++ " KB"
  else Decimal.fixedText 2 (x / 1048576.0) ++ " MB"

end Diversion
