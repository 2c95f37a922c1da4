/-!
# `Diversion.Text.Decimal` — decimal text of binary floating-point values

A finite double is `m · 2^e` exactly. Its **shortest decimal** is the decimal with the fewest
significant digits that reads back as the same double (lies in its rounding interval; the ends
belong to it when `m` is even, as round-half-to-even reading gives them to `m`); among
decimals of that length, the one nearest the exact value. Such a decimal is found on the grid
of `n`-digit decimals for the smallest `n` where one of the value's two grid neighbours lies in
the interval: a grid point inside the interval means the neighbour on its side is inside too.

Three spellings are built on it: `scientificText` (positional between `1e-5` and `1e16`,
exponent form outside, `.0` kept), `plainText` (always positional), and `fixedText` (a fixed
number of decimals, rounding the exact value half to even).

All arithmetic is on `Nat`: a nonnegative rational is a numerator and a denominator.
-/

namespace Diversion

namespace Decimal

/-- **A finite double, decoded**: `(-1)^negative · mantissa · 2^exponent`. -/
structure Binary where
  negative : Bool
  mantissa : Nat
  exponent : Int
  /-- The exponent field was the smallest normal one or subnormal: the gap below is regular. -/
  lowest : Bool
  deriving Repr

/-- **Decoding the bits of a double**; `none` for infinities and NaN. -/
def decode (f : Float) : Option Binary :=
  let bits : Nat := f.toBits.toNat
  let negative : Bool := bits / 9223372036854775808 % 2 == 1
  let field : Nat := bits / 4503599627370496 % 2048
  let frac : Nat := bits % 4503599627370496
  if field = 2047 then none
  else if field = 0 then some ⟨negative, frac, -1074, true⟩
  else some ⟨negative, frac + 4503599627370496, (field : Int) - 1075, field = 1⟩

/-- `2^k` for an integer `k` as a fraction `(num, den)`. -/
def pow2 (k : Int) : Nat × Nat := if 0 ≤ k then (Nat.pow 2 k.toNat, 1) else (1, Nat.pow 2 (-k).toNat)

/-- `10^k` for an integer `k` as a fraction `(num, den)`. -/
def pow10 (k : Int) : Nat × Nat := if 0 ≤ k then (Nat.pow 10 k.toNat, 1) else (1, Nat.pow 10 (-k).toNat)

/-- Number of decimal digits of `n` (one for zero). -/
def digitCount (n : Nat) : Nat := (Nat.toDigits 10 n).length

/-- Smallest `s ≤ fuel` with `num · 10^s ≥ den`. -/
def firstPow (num den : Nat) : Nat → Nat → Nat
  | 0, s => s
  | fuel + 1, s => if num * Nat.pow 10 s ≥ den then s else firstPow num den fuel (s + 1)

/-- **The decimal exponent** `t` with `10^t ≤ num/den < 10^(t+1)`, for a positive fraction. -/
def exponentOf (num den : Nat) : Int :=
  if num ≥ den then (digitCount (num / den) : Int) - 1
  else -(firstPow num den 400 1 : Int)

/-- The shortest decimal `digits · 10^exp` of a positive decoded double. -/
structure Shortest where
  digits : Nat
  exp : Int
  deriving Repr

/-- Drop trailing zero digits, raising the exponent. -/
def normalize (d : Nat) (k : Int) : Nat → Shortest
  | 0 => ⟨d, k⟩
  | fuel + 1 => if d ≠ 0 ∧ d % 10 = 0 then normalize (d / 10) (k + 1) fuel else ⟨d, k⟩

/-- **The shortest decimal** of `mantissa · 2^exponent` (positive mantissa). Everything is
measured in units of `2^(exponent - 2)`, so the value is `4m` and the interval ends are
`4m ± 2` (or `4m - 1` below a power of two). -/
def shortest (b : Binary) : Shortest :=
  let m := b.mantissa
  let (un, ud) := pow2 (b.exponent - 2)
  let x := 4 * m
  let lo := if m = 4503599627370496 ∧ !b.lowest then 4 * m - 1 else 4 * m - 2
  let hi := 4 * m + 2
  let inclusive := m % 2 = 0
  let t := exponentOf (x * un) ud
  -- `c · 10^k` against `v` units: compare `c · 10^k · ud` with `v · un`.
  let scaled (c : Nat) (k : Int) : Nat × Nat :=
    let (pn, pd) := pow10 k
    (c * pn * ud, un * pd)
  let inside (c : Nat) (k : Int) : Bool :=
    let (l, r) := scaled c k
    if inclusive then lo * r ≤ l ∧ l ≤ hi * r else lo * r < l ∧ l < hi * r
  let distance (c : Nat) (k : Int) : Nat × Nat :=
    let (l, r) := scaled c k
    (if l ≥ x * r then l - x * r else x * r - l, r)
  let rec search : Nat → Nat → Shortest
    | 0, _ => ⟨0, 0⟩
    | fuel + 1, n =>
      let k : Int := t - (n : Int) + 1
      let (pn, pd) := pow10 k
      -- floor of value / 10^k
      let q := (x * un * pd) / (ud * pn)
      let a := inside q k
      let c := inside (q + 1) k
      if a && c then
        let (da, ra) := distance q k
        let (dc, rc) := distance (q + 1) k
        if da * rc ≤ dc * ra then normalize q k 20 else normalize (q + 1) k 20
      else if a then normalize q k 20
      else if c then normalize (q + 1) k 20
      else search fuel (n + 1)
  search 17 1

/-- Decimal digits of `n` as text. -/
def natText (n : Nat) : String := toString n

/-- `n` zeros. -/
def zeros (n : Nat) : String := String.ofList (List.replicate n '0')

/-- **Scientific spelling**, as JSON writers print doubles: positional with `.0` when the
decimal point falls within sixteen digits of the first, `0.000ddd` down to `1e-5`, exponent
form `d.ddde±x` (no `+`) otherwise; NaN and infinities are not numbers and give `none`. -/
def scientificText (f : Float) : Option String :=
  match decode f with
  | none => none
  | some b =>
    let sign := if b.negative then "-" else ""
    if b.mantissa = 0 then some (sign ++ "0.0")
    else
      let s := shortest b
      let ds := natText s.digits
      let len : Int := ds.length
      let kk := len + s.exp
      let body :=
        if 0 ≤ s.exp ∧ kk ≤ 16 then ds ++ zeros s.exp.toNat ++ ".0"
        else if 0 < kk ∧ kk ≤ 16 then
          String.ofList (ds.toList.take kk.toNat) ++ "." ++ String.ofList (ds.toList.drop kk.toNat)
        else if -5 < kk ∧ kk ≤ 0 then "0." ++ zeros (-kk).toNat ++ ds
        else
          let e := kk - 1
          let mant :=
            if ds.length = 1 then ds
            else String.ofList (ds.toList.take 1) ++ "." ++ String.ofList (ds.toList.drop 1)
          mant ++ "e" ++ toString e
      some (sign ++ body)

/-- **Positional spelling** with the fewest digits that read back, never an exponent; no
decimal point for integral values. -/
def plainText (f : Float) : String :=
  match decode f with
  | none => if f.isNaN then "NaN" else if f < 0 then "-inf" else "inf"
  | some b =>
    let sign := if b.negative then "-" else ""
    if b.mantissa = 0 then sign ++ "0"
    else
      let s := shortest b
      let ds := natText s.digits
      let len : Int := ds.length
      let kk := len + s.exp
      let body :=
        if 0 ≤ s.exp then ds ++ zeros s.exp.toNat
        else if 0 < kk then
          String.ofList (ds.toList.take kk.toNat) ++ "." ++ String.ofList (ds.toList.drop kk.toNat)
        else "0." ++ zeros (-kk).toNat ++ ds
      sign ++ body

/-- `num / den` rounded to the nearest integer, a half going to the even neighbour. -/
def roundHalfEven (num den : Nat) : Nat :=
  let q := num / den
  let r := num % den
  if 2 * r > den then q + 1
  else if 2 * r < den then q
  else if q % 2 = 0 then q else q + 1

/-- **Fixed spelling with `places` decimals** of the exact value, rounded half to even. -/
def fixedText (places : Nat) (f : Float) : String :=
  match decode f with
  | none => plainText f
  | some b =>
    let sign := if b.negative then "-" else ""
    let (pn, pd) := pow2 b.exponent
    let n := roundHalfEven (b.mantissa * pn * Nat.pow 10 places) pd
    let whole := n / Nat.pow 10 places
    let frac := n % Nat.pow 10 places
    if places = 0 then sign ++ natText whole
    else
      let fs := natText frac
      sign ++ natText whole ++ "." ++ zeros (places - fs.length) ++ fs

end Decimal

end Diversion
