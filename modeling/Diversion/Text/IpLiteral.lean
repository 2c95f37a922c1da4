/-!
# `Diversion.Text.IpLiteral` — IPv4 and IPv6 address literals

An IPv4 literal is four decimal octets separated by dots, each at most three digits, at most
255, and without a leading zero unless it is `0` itself. An IPv6 literal is eight groups of one
to four hex digits separated by colons; one `::` may stand for one or more zero groups, and the
last two groups may be written as an IPv4 literal (not before a `::`). Nothing else may
surround the literal: no blanks, no brackets, no zone.

The parsers consume a prefix of the input and return what is left; a parse succeeds when
the whole text is consumed.

## Contents
- `readNumber`, `readIpv4`, `readGroups`, `readIpv6`.
- `IpLiteral.parse`: a literal as 4 or 16 octets.
-/

namespace Diversion

namespace IpLiteral

/-- A digit's value in `radix` (10 or 16). -/
def digitOf (radix : Nat) (c : Char) : Option Nat :=
  if '0' ≤ c ∧ c ≤ '9' then some (c.toNat - 48)
  else if radix = 16 ∧ 'a' ≤ c ∧ c ≤ 'f' then some (c.toNat - 87)
  else if radix = 16 ∧ 'A' ≤ c ∧ c ≤ 'F' then some (c.toNat - 55)
  else none

/-- Digits of a number: value, digit count and rest; `none` past `maxDigits` digits. -/
def digits (radix maxDigits : Nat) : List Char → Nat → Nat → Option (Nat × Nat × List Char)
  | c :: rest, acc, count =>
    match digitOf radix c with
    | some d => if count + 1 > maxDigits then none else digits radix maxDigits rest (acc * radix + d) (count + 1)
    | none => some (acc, count, c :: rest)
  | [], acc, count => some (acc, count, [])

/-- **A number** of one to `maxDigits` digits; with `allowZeroPrefix` false, a leading zero is
allowed only in `0` itself. -/
def readNumber (radix maxDigits : Nat) (allowZeroPrefix : Bool) (s : List Char) :
    Option (Nat × List Char) :=
  match digits radix maxDigits s 0 0 with
  | none => none
  | some (v, count, rest) =>
    if count = 0 then none
    else if !allowZeroPrefix ∧ s.head? = some '0' ∧ count > 1 then none
    else some (v, rest)

/-- Run `inner` after the separator `sep`, except for the first item (`i = 0`). -/
def readSeparator {α : Type} (sep : Char) (i : Nat) (inner : List Char → Option (α × List Char))
    (s : List Char) : Option (α × List Char) :=
  if i = 0 then inner s
  else match s with
    | c :: rest => if c = sep then inner rest else none
    | [] => none

/-- An octet: at most three decimal digits, no leading zero, at most 255. -/
def readOctet (s : List Char) : Option (Nat × List Char) :=
  match readNumber 10 3 false s with
  | some (v, rest) => if v ≤ 255 then some (v, rest) else none
  | none => none

/-- **An IPv4 literal**: four octets. -/
def readIpv4 (s : List Char) : Option (List Nat × List Char) := do
  let (a, s) ← readSeparator '.' 0 readOctet s
  let (b, s) ← readSeparator '.' 1 readOctet s
  let (c, s) ← readSeparator '.' 2 readOctet s
  let (d, s) ← readSeparator '.' 3 readOctet s
  pure ([a, b, c, d], s)

/-- **Up to `limit` colon-separated groups**, the last two possibly as an IPv4 literal:
the groups read, whether an IPv4 tail ended them, and the rest. -/
def readGroups (limit : Nat) (s : List Char) : List Nat × Bool × List Char :=
  let rec go : Nat → Nat → List Char → List Nat → List Nat × Bool × List Char
    | 0, _, s, acc => (acc.reverse, false, s)
    | fuel + 1, i, s, acc =>
      let v4 := if i + 1 < limit then readSeparator ':' i readIpv4 s else none
      match v4 with
      | some ([a, b, c, d], rest) => (acc.reverse ++ [a * 256 + b, c * 256 + d], true, rest)
      | _ =>
        match readSeparator ':' i (readNumber 16 4 true) s with
        | some (g, rest) => go fuel (i + 1) rest (g :: acc)
        | none => (acc.reverse, false, s)
  go limit 0 s []

/-- **An IPv6 literal**: eight groups, or a head and a tail around `::`. -/
def readIpv6 (s : List Char) : Option (List Nat × List Char) :=
  let (head, headV4, s1) := readGroups 8 s
  if head.length = 8 then some (head, s1)
  else if headV4 then none
  else match s1 with
    | ':' :: ':' :: s2 =>
      let (tail, _, s3) := readGroups (8 - (head.length + 1)) s2
      some (head ++ List.replicate (8 - head.length - tail.length) 0 ++ tail, s3)
    | _ => none

/-- The two octets of a 16-bit group. -/
def groupOctets (g : Nat) : List Nat := [g / 256, g % 256]

/-- **An address literal** as its octets: four for IPv4, sixteen for IPv6. An IPv4 literal
followed by anything is refused, not read as IPv6. -/
def parse (text : String) : Option (List Nat) :=
  let s := text.toList
  match readIpv4 s with
  | some (octets, rest) => if rest.isEmpty then some octets else none
  | none =>
    match readIpv6 s with
    | some (groups, rest) => if rest.isEmpty then some (groups.flatMap groupOctets) else none
    | none => none

end IpLiteral

end Diversion
