/-!
# `Diversion.Rule.Operand` — 128-bit operands held as four 32-bit words

A rule argument and a packet field value are both 128-bit unsigned numbers, kept as four
32-bit words with word 3 the most significant (for an IPv6 address, word 0 holds the last four
octets). Comparison is on the number `toNat`, so it is the word-descending lexicographic order.

## Contents
- `Operand`, `Operand.toNat`, `Operand.ofWord` (a 32-bit value in word 0).
- `Operand.toList`/`ofList?`: the JSON view `[w0, w1, w2, w3]`.
- `Operand.hexText`: the `%08x:%08x:%08x:%08x` spelling of a wide argument, words 3 to 0.
-/

namespace Diversion

/-- **A 128-bit operand**: `w0` least significant, `w3` most significant. -/
structure Operand where
  w0 : UInt32
  w1 : UInt32
  w2 : UInt32
  w3 : UInt32
  deriving DecidableEq, Repr, Inhabited

namespace Operand

/-- The all-zero operand. -/
def zero : Operand := ⟨0, 0, 0, 0⟩

/-- **The number an operand stands for**, word 3 most significant. -/
def toNat (o : Operand) : Nat :=
  o.w0.toNat + 4294967296 * (o.w1.toNat + 4294967296 * (o.w2.toNat + 4294967296 * o.w3.toNat))

/-- A 32-bit value in word 0, upper words zero: the shape of every narrow field. -/
def ofWord (n : Nat) : Operand := ⟨UInt32.ofNat n, 0, 0, 0⟩

/-- Whether any of the upper three words is set. -/
def hasUpper (o : Operand) : Bool := o.w1 != 0 || o.w2 != 0 || o.w3 != 0

/-- The words in JSON order `[w0, w1, w2, w3]`. -/
def toList (o : Operand) : List Nat := [o.w0.toNat, o.w1.toNat, o.w2.toNat, o.w3.toNat]

/-- Four words in JSON order; `none` unless there are exactly four. -/
def ofList? : List Nat → Option Operand
  | [a, b, c, d] => some ⟨UInt32.ofNat a, UInt32.ofNat b, UInt32.ofNat c, UInt32.ofNat d⟩
  | _ => none

/-- Lowercase hexadecimal of `n`, left-padded with zeros to `width` digits. -/
def hexPadded (width n : Nat) : String :=
  let digits := Nat.toDigits 16 n
  String.ofList (List.replicate (width - digits.length) '0' ++ digits)

/-- **Wide text**: the words from most to least significant as 8 hex digits each, `:` between. -/
def hexText (o : Operand) : String :=
  String.intercalate ":" ([o.w3, o.w2, o.w1, o.w0].map fun w => hexPadded 8 w.toNat)

theorem toNat_ofWord (n : Nat) (h : n < 4294967296) : (ofWord n).toNat = n := by
  have h2 : n % 4294967296 = n := Nat.mod_eq_of_lt h
  simp [ofWord, toNat, UInt32.toNat_ofNat, h2]

theorem ofList?_toList (o : Operand) : ofList? o.toList = some o := by
  cases o
  simp [toList, ofList?]

end Operand

end Diversion
