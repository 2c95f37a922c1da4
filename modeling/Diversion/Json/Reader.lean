import Diversion.Json.Value

/-!
# `Diversion.Json.Reader` — reading JSON text, with positioned faults

The reader works on the UTF-8 bytes of the text with a cursor. A fault carries the line and
column of the cursor when it was found: the column counts the bytes since the last newline.
Two conventions place it: a fault found *after* consuming a byte points at that byte
(`fail`), a fault about the byte *about to be read* points one past the cursor
(`failPeek`). Faults raised by a decoder that does not know the position (`custom`) get it
later, where the enclosing value ends (`fixPosition`).

Numbers follow the usual reader rules: an integer that fits 64 bits stays an integer, a
negative one down to -2^63; everything else becomes a double, computed from up to 19
significant digits and a power of ten (`fromParts`), and a double that overflows is a fault.
Nesting deeper than 127 arrays or objects is a fault.

## Contents
- `Fault`, `ReadError`, `ReadError.text`.
- `ReadM` and the cursor primitives: `peek`, `eat`, `skipSpace`, `fail`, `failPeek`.
- `readIdent`, `readNumber`, `readString`, `skipValue`.
- `readValue`, `Json.parse`: a whole text as a `Json` value.
-/

namespace Diversion

namespace Json

/-- **What the reader found wrong.** -/
inductive Fault
  | eofWhileParsingList
  | eofWhileParsingObject
  | eofWhileParsingString
  | eofWhileParsingValue
  | expectedColon
  | expectedListCommaOrEnd
  | expectedObjectCommaOrEnd
  | expectedSomeIdent
  | expectedSomeValue
  | expectedDoubleQuote
  | invalidEscape
  | invalidNumber
  | numberOutOfRange
  | invalidUnicodeCodePoint
  | controlCharacter
  | keyMustBeAString
  | loneLeadingSurrogate
  | trailingComma
  | trailingCharacters
  | unexpectedEndOfHexEscape
  | recursionLimitExceeded
  /-- A decoder's own reason, e.g. a missing field. -/
  | custom (text : String)
  deriving Inhabited

/-- The fault's wording. -/
def Fault.text : Fault → String
  | .eofWhileParsingList => "EOF while parsing a list"
  | .eofWhileParsingObject => "EOF while parsing an object"
  | .eofWhileParsingString => "EOF while parsing a string"
  | .eofWhileParsingValue => "EOF while parsing a value"
  | .expectedColon => "expected `:`"
  | .expectedListCommaOrEnd => "expected `,` or `]`"
  | .expectedObjectCommaOrEnd => "expected `,` or `\x7d`"
  | .expectedSomeIdent => "expected ident"
  | .expectedSomeValue => "expected value"
  | .expectedDoubleQuote => "expected `\"`"
  | .invalidEscape => "invalid escape"
  | .invalidNumber => "invalid number"
  | .numberOutOfRange => "number out of range"
  | .invalidUnicodeCodePoint => "invalid unicode code point"
  | .controlCharacter => "control character (\\u0000-\\u001F) found while parsing a string"
  | .keyMustBeAString => "key must be a string"
  | .loneLeadingSurrogate => "lone leading surrogate in hex escape"
  | .trailingComma => "trailing comma"
  | .trailingCharacters => "trailing characters"
  | .unexpectedEndOfHexEscape => "unexpected end of hex escape"
  | .recursionLimitExceeded => "recursion limit exceeded"
  | .custom t => t

/-- **A fault with its position**; line 0 means the position is not known yet. -/
structure ReadError where
  fault : Fault
  line : Nat := 0
  column : Nat := 0
  deriving Inhabited

/-- The error's text: the fault, then `at line L column C` when the position is known. -/
def ReadError.text (e : ReadError) : String :=
  if e.line = 0 then e.fault.text else s!"{e.fault.text} at line {e.line} column {e.column}"

/-- **The reader**: the text's bytes, and a cursor. The cursor survives a failure, so a
failure caught further out still sees where reading stopped. -/
abbrev ReadM := ReaderT ByteArray (ExceptT ReadError (StateM Nat))

/-- Line and column of byte offset `i`: lines from 1, columns counting bytes since the last
newline. -/
def position (src : ByteArray) (i : Nat) : Nat × Nat :=
  (src.toList.take i).foldl
    (fun (lc : Nat × Nat) (b : UInt8) => if b = 10 then (lc.1 + 1, 0) else (lc.1, lc.2 + 1)) (1, 0)

/-- The byte at the cursor. -/
def peek : ReadM (Option UInt8) := do
  let src ← read
  let p ← get
  return src[p]?

/-- The byte at the cursor, `0` at the end. -/
def peekOrNull : ReadM UInt8 := return (← peek).getD 0

/-- Move past one byte. -/
def eat : ReadM Unit := modify (· + 1)

/-- Consume and return the byte at the cursor. -/
def next : ReadM (Option UInt8) := do
  let b ← peek
  if b.isSome then eat
  return b

/-- Bytes left after the cursor. -/
def remaining : ReadM Nat := do
  let src ← read
  let p ← get
  return src.size - p

/-- **A fault at the cursor**: the last byte consumed. -/
def fail {α : Type} (f : Fault) : ReadM α := do
  let src ← read
  let p ← get
  let (l, c) := position src p
  throw ⟨f, l, c⟩

/-- **A fault at the byte about to be read.** -/
def failPeek {α : Type} (f : Fault) : ReadM α := do
  let src ← read
  let p ← get
  let (l, c) := position src (min (p + 1) src.size)
  throw ⟨f, l, c⟩

/-- Give a position-less error the cursor's position. -/
def fixPosition (e : ReadError) : ReadM ReadError := do
  if e.line ≠ 0 then return e
  let src ← read
  let p ← get
  let (l, c) := position src p
  return { e with line := l, column := c }

/-- Run `x`; a position-less error it raises gets the position the cursor has then. -/
def fixing {α : Type} (x : ReadM α) : ReadM α :=
  tryCatch x fun e => do throw (← fixPosition e)

/-- A decoder's fault, positioned later. -/
def custom {α : Type} (text : String) : ReadM α := throw { fault := .custom text }

/-- Whether a byte is JSON whitespace. -/
def isSpace (b : UInt8) : Bool := b = 32 || b = 10 || b = 9 || b = 13

/-- Skip whitespace, at most `fuel` bytes. -/
def skipSpaceFor : Nat → ReadM (Option UInt8)
  | 0 => peek
  | fuel + 1 => do
    match ← peek with
    | some b => if isSpace b then do eat; skipSpaceFor fuel else return some b
    | none => return none

/-- **Skip whitespace** and return the next byte without consuming it. -/
def skipSpace : ReadM (Option UInt8) := do skipSpaceFor ((← remaining) + 1)

/-- Consume exactly the bytes `expected` (the rest of `null`, `true`, `false`). -/
def readIdent (expected : List UInt8) : ReadM Unit :=
  expected.forM fun c => do
    match ← next with
    | none => fail .eofWhileParsingValue
    | some b => if b ≠ c then fail .expectedSomeIdent

/-- Whether a byte is an ASCII digit. -/
def isDigit (b : UInt8) : Bool := 48 ≤ b && b ≤ 57

/-- The digit's value. -/
def digitValue (b : UInt8) : Nat := b.toNat - 48

/-- `s * 10 + d` would not fit in 64 bits. -/
def overflows64 (s d : Nat) : Bool :=
  s ≥ 18446744073709551615 / 10 && (s > 18446744073709551615 / 10 || d > 18446744073709551615 % 10)

/-- `e * 10 + d` would not fit in a signed 32-bit integer. -/
def overflows32 (e d : Nat) : Bool :=
  e ≥ 2147483647 / 10 && (e > 2147483647 / 10 || d > 2147483647 % 10)

/-! ## Numbers -/

/-- **The double nearest to `num / den`** (positive `den`), a half going to the even
neighbour; `inf` past the largest double. -/
def nearestDouble (num den : Nat) : Float :=
  if num = 0 then 0.0
  else
    -- e with 2^52 ≤ num / den / 2^e < 2^53
    let e0 : Int := (Nat.log2 num : Int) - (Nat.log2 den : Int) - 52
    let scaledAt (e : Int) : Nat × Nat :=
      let (pn, pd) := Decimal.pow2 e
      (num * pd, den * pn)
    let e1 : Int :=
      let (a, b) := scaledAt e0
      if a / b ≥ 9007199254740992 then e0 + 1 else if a / b < 4503599627370496 then e0 - 1 else e0
    -- subnormals share the exponent of the smallest normal binade
    let e := max e1 (-1074)
    let (a, b) := scaledAt e
    let m := Decimal.roundHalfEven a b
    let (m, e) := if m = 9007199254740992 then (m / 2, e + 1) else (m, e)
    if e + 52 > 1023 then Float.ofScientific 1 false 400
    else if m < 4503599627370496 then Float.ofBits (UInt64.ofNat m)
    else Float.ofBits (UInt64.ofNat ((((e + 1075).toNat) * 4503599627370496) + (m - 4503599627370496)))

/-- `10^k` as the nearest double. -/
def tenTo (k : Nat) : Float := nearestDouble (Nat.pow 10 k) 1

/-- **A double from a significand and a decimal exponent**, by repeated multiplication or
division by powers of ten, refusing a result that overflows. -/
def fromParts (positive : Bool) (significand : Nat) (exponent : Int) : ReadM Float := do
  let rec go : Nat → Float → Int → ReadM Float
    | 0, f, _ => return f
    | fuel + 1, f, e =>
      if e.natAbs ≤ 308 then
        if 0 ≤ e then
          let g := f * tenTo e.natAbs
          if g.isInf then fail .numberOutOfRange else return g
        else return f / tenTo e.natAbs
      else if f == 0.0 then return f
      else if 0 ≤ e then fail .numberOutOfRange
      else go fuel (f / tenTo 308) (e + 308)
  let f ← go 8 (UInt64.ofNat significand).toFloat exponent
  return if positive then f else -f

/-- Digits after an exponent that overflowed: zero, or a fault for a huge positive one. -/
def exponentOverflow (positive zeroSignificand positiveExp : Bool) : ReadM Float := do
  if !zeroSignificand && positiveExp then fail .numberOutOfRange
  let rec skip : Nat → ReadM Unit
    | 0 => pure ()
    | fuel + 1 => do if isDigit (← peekOrNull) then do eat; skip fuel
  skip ((← remaining) + 1)
  return if positive then 0.0 else -0.0

/-- **The exponent part** after `e` or `E`. -/
def readExponent (positive : Bool) (significand : Nat) (start : Int) : ReadM Float := do
  eat
  let positiveExp ← do
    let b ← peekOrNull
    if b = 43 then do eat; pure true
    else if b = 45 then do eat; pure false
    else pure true
  let first ← match ← next with
    | none => fail .eofWhileParsingValue
    | some c => if isDigit c then pure (digitValue c) else fail .invalidNumber
  let rec digits : Nat → Nat → ReadM (Option Nat)
    | 0, e => pure (some e)
    | fuel + 1, e => do
      let c ← peekOrNull
      if isDigit c then
        eat
        if overflows32 e (digitValue c) then return none
        digits fuel (e * 10 + digitValue c)
      else pure (some e)
  match ← digits ((← remaining) + 1) first with
  | none => exponentOverflow positive (significand = 0) positiveExp
  | some exp =>
    let final := if positiveExp then start + exp else start - exp
    fromParts positive significand final

/-- Digits after a fraction whose significand overflowed: ignored. -/
def decimalOverflow (positive : Bool) (significand : Nat) (exponent : Int) : ReadM Float := do
  let rec skip : Nat → ReadM Unit
    | 0 => pure ()
    | fuel + 1 => do if isDigit (← peekOrNull) then do eat; skip fuel
  skip ((← remaining) + 1)
  let b ← peekOrNull
  if b = 101 || b = 69 then readExponent positive significand exponent
  else fromParts positive significand exponent

/-- **The fraction part** after `.`. -/
def readDecimal (positive : Bool) (significand : Nat) (before : Int) : ReadM Float := do
  eat
  let rec digits : Nat → Nat → Int → ReadM (Nat × Int × Bool)
    | 0, s, e => pure (s, e, false)
    | fuel + 1, s, e => do
      let c ← peekOrNull
      if isDigit c then
        if overflows64 s (digitValue c) then return (s, e, true)
        eat
        digits fuel (s * 10 + digitValue c) (e - 1)
      else pure (s, e, false)
  let (s, after, overflowed) ← digits ((← remaining) + 1) significand 0
  if overflowed then return ← decimalOverflow positive s (before + after)
  if after = 0 then
    match ← peek with
    | some _ => failPeek .invalidNumber
    | none => failPeek .eofWhileParsingValue
  let b ← peekOrNull
  if b = 101 || b = 69 then readExponent positive s (before + after)
  else fromParts positive s (before + after)

/-- Digits of an integer too long for 64 bits: counted as a power of ten. -/
def readLongInteger (positive : Bool) (significand : Nat) : ReadM Float := do
  let rec digits : Nat → Int → ReadM Float
    | 0, e => fromParts positive significand e
    | fuel + 1, e => do
      let c ← peekOrNull
      if isDigit c then do eat; digits fuel (e + 1)
      else if c = 46 then readDecimal positive significand e
      else if c = 101 || c = 69 then readExponent positive significand e
      else fromParts positive significand e
  digits ((← remaining) + 1) 0

/-- What follows an integer's digits: a fraction, an exponent, or the end of the number. -/
def numberTail (positive : Bool) (significand : Nat) : ReadM JsonNumber := do
  let b ← peekOrNull
  if b = 46 then return .float (← readDecimal positive significand 0)
  if b = 101 || b = 69 then return .float (← readExponent positive significand 0)
  if positive then return .nat significand
  if significand = 0 then return .float (-0.0)
  if significand ≤ 9223372036854775808 then return .neg (-(significand : Int))
  return .float (-(UInt64.ofNat significand).toFloat)

/-- **A number**, its sign already consumed. -/
def readNumber (positive : Bool) : ReadM JsonNumber := do
  match ← next with
  | none => fail .eofWhileParsingValue
  | some c =>
    if c = 48 then
      if isDigit (← peekOrNull) then failPeek .invalidNumber
      numberTail positive 0
    else if isDigit c then
      let rec digits : Nat → Nat → ReadM JsonNumber
        | 0, s => numberTail positive s
        | fuel + 1, s => do
          let d ← peekOrNull
          if isDigit d then
            if overflows64 s (digitValue d) then
              return .float (← readLongInteger positive s)
            eat
            digits fuel (s * 10 + digitValue d)
          else numberTail positive s
      digits ((← remaining) + 1) (digitValue c)
    else fail .invalidNumber

/-! ## Strings -/

/-- The UTF-8 bytes of a code point. -/
def utf8 (n : Nat) : List UInt8 :=
  if n < 0x80 then [UInt8.ofNat n]
  else if n < 0x800 then [UInt8.ofNat (0xC0 + n / 64), UInt8.ofNat (0x80 + n % 64)]
  else if n < 0x10000 then
    [UInt8.ofNat (0xE0 + n / 4096), UInt8.ofNat (0x80 + n / 64 % 64), UInt8.ofNat (0x80 + n % 64)]
  else
    [UInt8.ofNat (0xF0 + n / 262144), UInt8.ofNat (0x80 + n / 4096 % 64),
      UInt8.ofNat (0x80 + n / 64 % 64), UInt8.ofNat (0x80 + n % 64)]

/-- A hex digit's value. -/
def hexValue (b : UInt8) : Option Nat :=
  if 48 ≤ b && b ≤ 57 then some (b.toNat - 48)
  else if 97 ≤ b && b ≤ 102 then some (b.toNat - 87)
  else if 65 ≤ b && b ≤ 70 then some (b.toNat - 55)
  else none

/-- **Four hex digits** of a `\u` escape. -/
def readHex4 : ReadM Nat := do
  let src ← read
  let p ← get
  if p + 4 > src.size then
    set src.size
    fail .eofWhileParsingString
  set (p + 4)
  let ds := [src[p]?, src[p + 1]?, src[p + 2]?, src[p + 3]?].map fun b => b.bind hexValue
  match ds with
  | [some a, some b, some c, some d] => return ((a * 16 + b) * 16 + c) * 16 + d
  | _ => fail .invalidEscape

/-- **A `\u` escape**: surrogate halves must come in pairs. -/
def readUnicodeEscape : ReadM (List UInt8) := do
  let n ← readHex4
  if 0xDC00 ≤ n ∧ n ≤ 0xDFFF then fail .loneLeadingSurrogate
  if n < 0xD800 ∨ n > 0xDBFF then return utf8 n
  match ← peek with
  | none => fail .eofWhileParsingString
  | some b => if b = 92 then eat else do eat; fail .unexpectedEndOfHexEscape
  match ← peek with
  | none => fail .eofWhileParsingString
  | some b => if b = 117 then eat else do eat; fail .unexpectedEndOfHexEscape
  let n2 ← readHex4
  if n2 < 0xDC00 ∨ n2 > 0xDFFF then fail .loneLeadingSurrogate
  return utf8 ((n - 0xD800) * 1024 + (n2 - 0xDC00) + 0x10000)

/-- **An escape** after a backslash. -/
def readEscape : ReadM (List UInt8) := do
  match ← next with
  | none => fail .eofWhileParsingString
  | some c =>
    if c = 34 then return [34]
    else if c = 92 then return [92]
    else if c = 47 then return [47]
    else if c = 98 then return [8]
    else if c = 102 then return [12]
    else if c = 110 then return [10]
    else if c = 114 then return [13]
    else if c = 116 then return [9]
    else if c = 117 then readUnicodeEscape
    else fail .invalidEscape

/-- **A string's contents**, the opening quote already consumed. -/
def readString : ReadM String := do
  let rec go : Nat → Array UInt8 → ReadM (Array UInt8)
    | 0, acc => return acc
    | fuel + 1, acc => do
      match ← peek with
      | none => fail .eofWhileParsingString
      | some b =>
        if b = 34 then do eat; return acc
        else if b = 92 then do
          eat
          let bs ← readEscape
          go fuel (acc ++ bs.toArray)
        else if b < 32 then do eat; fail .controlCharacter
        else do eat; go fuel (acc.push b)
  let bytes ← go ((← remaining) + 1) #[]
  return (String.fromUTF8? ⟨bytes⟩).getD ""

/-! ## Values -/

/-- Expect `:` between a key and its value. -/
def readColon : ReadM Unit := do
  match ← skipSpace with
  | some b => if b = 58 then eat else failPeek .expectedColon
  | none => failPeek .eofWhileParsingObject

/-- **The end of an array**: `]`, or a fault saying what stands there instead. -/
def endArray : ReadM Unit := do
  match ← skipSpace with
  | some b =>
    if b = 93 then eat
    else if b = 44 then do
      eat
      match ← skipSpace with
      | some c => if c = 93 then failPeek .trailingComma else failPeek .trailingCharacters
      | none => failPeek .trailingCharacters
    else failPeek .trailingCharacters
  | none => failPeek .eofWhileParsingList

/-- **The end of an object**: `}`, or a fault saying what stands there instead. -/
def endObject : ReadM Unit := do
  match ← skipSpace with
  | some b =>
    if b = 125 then eat
    else if b = 44 then failPeek .trailingComma
    else failPeek .trailingCharacters
  | none => failPeek .eofWhileParsingObject

/-- **The next array element's first byte**, past a separating comma; `none` at `]`. -/
def nextElement (first : Bool) : ReadM (Option UInt8) := do
  match ← skipSpace with
  | none => failPeek .eofWhileParsingList
  | some b =>
    let b ← if b = 93 then return none
      else if b = 44 && !first then do eat; pure (← skipSpace)
      else if first then pure (some b)
      else failPeek .expectedListCommaOrEnd
    match b with
    | some c => if c = 93 then failPeek .trailingComma else return some c
    | none => failPeek .eofWhileParsingValue

/-- **The next object key**, past a separating comma; `none` at `}`. -/
def nextKey (first : Bool) : ReadM (Option String) := do
  match ← skipSpace with
  | none => failPeek .eofWhileParsingObject
  | some b =>
    let b ← if b = 125 then return none
      else if b = 44 && !first then do eat; pure (← skipSpace)
      else if first then pure (some b)
      else failPeek .expectedObjectCommaOrEnd
    match b with
    | some c =>
      if c = 34 then do eat; return some (← readString)
      else if c = 125 then failPeek .trailingComma
      else failPeek .keyMustBeAString
    | none => failPeek .eofWhileParsingValue

/-- Enter one more level of nesting, or fault at the limit. -/
def descend (depth : Nat) : ReadM Unit := do
  if depth ≤ 1 then failPeek .recursionLimitExceeded
  eat

mutual

/-- **A value**, at most `depth - 1` more levels deep. -/
def readValue : Nat → ReadM Json
  | 0 => failPeek .recursionLimitExceeded
  | depth + 1 => do
  match ← skipSpace with
  | none => failPeek .eofWhileParsingValue
  | some b =>
    if b = 110 then do eat; readIdent [117, 108, 108]; return .null
    else if b = 116 then do eat; readIdent [114, 117, 101]; return .bool true
    else if b = 102 then do eat; readIdent [97, 108, 115, 101]; return .bool false
    else if b = 45 then do eat; return .num (← readNumber false)
    else if isDigit b then return .num (← readNumber true)
    else if b = 34 then do eat; return .str (← readString)
    else if b = 91 then do
      descend (depth + 1)
      let items ← readItems depth ((← remaining) + 1) true []
      endArray
      return .arr items
    else if b = 123 then do
      descend (depth + 1)
      let members ← readMembers depth ((← remaining) + 1) true []
      endObject
      return .obj members
    else failPeek .expectedSomeValue
termination_by depth => (depth, 0)

/-- The elements of an array. -/
def readItems (depth : Nat) : Nat → Bool → List Json → ReadM (List Json)
  | 0, _, acc => return acc.reverse
  | fuel + 1, first, acc => do
    match ← nextElement first with
    | none => return acc.reverse
    | some _ =>
      let v ← readValue depth
      readItems depth fuel false (v :: acc)
termination_by fuel => (depth, fuel + 1)

/-- The members of an object; a later duplicate key wins. -/
def readMembers (depth : Nat) : Nat → Bool → List (String × Json) → ReadM (List (String × Json))
  | 0, _, acc => return acc
  | fuel + 1, first, acc => do
    match ← nextKey first with
    | none => return acc
    | some k =>
      readColon
      let v ← readValue depth
      readMembers depth fuel false (insertMember k v acc)
termination_by fuel => (depth, fuel + 1)

end

/-- Nesting allowance of the reader. -/
def depthLimit : Nat := 128

/-- After a whole value only whitespace may follow. -/
def readEnd : ReadM Unit := do
  match ← skipSpace with
  | some _ => failPeek .trailingCharacters
  | none => pure ()

/-- Run a reader over a text from its start. -/
def runOn {α : Type} (x : ReadM α) (text : String) : Except ReadError α :=
  (Id.run (((x.run text.toUTF8).run).run 0)).1

/-- **Reading a whole text as one JSON value.** -/
def parse (text : String) : Except ReadError Json :=
  runOn (do let v ← readValue depthLimit; readEnd; return v) text

/-! ## Skipping -/

/-- **Skipping any value**, checking its syntax: nesting is tracked on a stack, so there is
no depth limit, and numbers are checked for shape but not converted. -/
def skipNumberDigits : Nat → ReadM Unit
  | 0 => pure ()
  | fuel + 1 => do if isDigit (← peekOrNull) then do eat; skipNumberDigits fuel

/-- The exponent of a skipped number. -/
def skipExponent : ReadM Unit := do
  eat
  let b ← peekOrNull
  if b = 43 || b = 45 then eat
  match ← next with
  | some c => if !isDigit c then fail .invalidNumber
  | none => fail .invalidNumber
  skipNumberDigits ((← remaining) + 1)

/-- A skipped number, its sign already consumed. -/
def skipNumber : ReadM Unit := do
  let c ← (do return (← next).getD 0)
  if c = 48 then
    if isDigit (← peekOrNull) then failPeek .invalidNumber
  else if isDigit c then skipNumberDigits ((← remaining) + 1)
  else fail .invalidNumber
  let b ← peekOrNull
  if b = 46 then
    eat
    if !isDigit (← peekOrNull) then failPeek .invalidNumber
    skipNumberDigits ((← remaining) + 1)
    let e ← peekOrNull
    if e = 101 || e = 69 then skipExponent
  else if b = 101 || b = 69 then skipExponent

/-- **Skipping a string's contents**, the opening quote consumed: escapes are checked for
shape only, and a control character is reported where it stands. -/
def skipString : ReadM Unit := do
  let rec go : Nat → ReadM Unit
    | 0 => pure ()
    | fuel + 1 => do
      match ← peek with
      | none => fail .eofWhileParsingString
      | some b =>
        if b = 34 then eat
        else if b = 92 then do
          eat
          match ← next with
          | none => fail .eofWhileParsingString
          | some c =>
            if c = 117 then do
              let _ ← readHex4
              go fuel
            else if [34, 92, 47, 98, 102, 110, 114, 116].contains c then go fuel
            else fail .invalidEscape
        else if b < 32 then fail .controlCharacter
        else do eat; go fuel
  go ((← remaining) + 1)

/-- One step of skipping: a scalar, or the opening of an array or object (pushed). -/
def skipScalarOrOpen : ReadM (Option UInt8) := do
  match ← skipSpace with
  | none => failPeek .eofWhileParsingValue
  | some b =>
    if b = 110 then do eat; readIdent [117, 108, 108]; return none
    else if b = 116 then do eat; readIdent [114, 117, 101]; return none
    else if b = 102 then do eat; readIdent [97, 108, 115, 101]; return none
    else if b = 45 then do eat; skipNumber; return none
    else if isDigit b then do skipNumber; return none
    else if b = 34 then do eat; skipString; return none
    else if b = 91 || b = 123 then do eat; return some b
    else failPeek .expectedSomeValue

/-- After an object is opened or a member follows, read the key and colon. -/
def skipKey : ReadM Unit := do
  match ← skipSpace with
  | some b => if b = 34 then eat else failPeek .keyMustBeAString
  | none => failPeek .eofWhileParsingObject
  skipString
  match ← skipSpace with
  | some b => if b = 58 then eat else failPeek .expectedColon
  | none => failPeek .eofWhileParsingObject

/-- **Closing frames** after a value: returns the frame to continue in (after a comma), or
`none` when the outermost frame closed. `acceptComma` is false right after an opening. -/
def closeFrames : Nat → List UInt8 → Bool → ReadM (Option (List UInt8))
  | 0, _, _ => return none
  | fuel + 1, stack, acceptComma => do
    match stack with
    | [] => return none
    | frame :: rest =>
      match ← skipSpace with
      | some b =>
        if b = 44 && acceptComma then do eat; return some stack
        else if (b = 93 && frame = 91) || (b = 125 && frame = 123) then do
          eat
          if rest.isEmpty then return none
          closeFrames fuel rest true
        else if acceptComma then
          failPeek (if frame = 91 then .expectedListCommaOrEnd else .expectedObjectCommaOrEnd)
        else return some stack
      | none =>
        failPeek (if frame = 91 then .eofWhileParsingList else .eofWhileParsingObject)

/-- **Skipping any value.** -/
def skipValue : ReadM Unit := do
  let rec go : Nat → List UInt8 → ReadM Unit
    | 0, _ => pure ()
    | fuel + 1, stack => do
      let (stack, acceptComma) ← do
        match ← skipScalarOrOpen with
        | some frame => pure (frame :: stack, false)
        | none => pure (stack, true)
      if stack.isEmpty then return
      match ← closeFrames ((← remaining) + 2) stack acceptComma with
      | none => return
      | some stack =>
        match stack with
        | frame :: _ => if frame = 123 then skipKey
        | [] => pure ()
        go fuel stack
  go ((← remaining) + 2) []

end Json

end Diversion
