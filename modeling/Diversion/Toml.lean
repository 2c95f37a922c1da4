import Diversion.Json.Reader
import Diversion.Json.Unexpected

/-!
# `Diversion.Toml` — reading TOML documents

A document is read line by line: blank lines and comments are skipped, a line is either a
table header (`[a.b]`, or `[[a]]` for an element of an array of tables) or a `key = value`
pair, and must end at a newline or a comment. Keys may be dotted (`a.b = 1` builds table
`a`). Values are strings (basic with escapes, literal, and both kinds multi-line), integers
(decimal with sign, or `0x`, `0o`, `0b`; underscores between digits), floats (fraction,
exponent, `inf`, `nan`), booleans, datetimes, arrays and inline tables.

**Complaints** name what was expected and what was found, and the line and column (from one)
of the byte where reading stopped; complaints about a value's meaning name its keys. A
carriage return before a line feed counts as part of the line break.

**A datetime marker.** A table, inline or under a header, whose first key is
`$__toml_private_datetime` is read as the datetime its value spells; its other keys are
ignored. A document that is such a table has no settings.

## Contents
- `Value`, `Error`, `Error.text`.
- The tokenizer: `Token`, `nextToken`.
- Numbers and datetimes: `readInteger`, `readFloat`, `datetimeText?`.
- The line reader: `value`, `tableHeader`, `keyValue`, `tables`.
- Assembling: `datetimeKey`, `markedDatetime`, `Walk`, `nextKey`, `members`, `elements` — the
  walk over the tables as written.
- `parse`: the document as a table.
-/

namespace Diversion

namespace Toml

/-- **A TOML value**; a table keeps its keys in the order first given. -/
inductive Value
  | string (s : String)
  | integer (i : Int)
  | float (f : Float)
  | boolean (b : Bool)
  /-- A date, a time or both, in its normal spelling. -/
  | datetime (text : String)
  | array (items : List Value)
  | table (entries : List (String × Value))
  deriving Inhabited

/-- **Why a document was refused**: the complaint, the keys of the value concerned, and the
byte offset where reading stopped. -/
structure Error where
  message : String
  keys : List String := []
  offset : Option Nat := none
  deriving Repr, Inhabited

/-- Byte lengths of the lines of a text, split at line feeds, without an empty last line. -/
def lineLengths (text : String) : List Nat :=
  let parts := (text.splitOn "\n").map String.utf8ByteSize
  if text.isEmpty || text.endsWith "\n" then parts.dropLast else parts

/-- The line and column, both from zero, of byte `offset`. -/
def lineColumn (text : String) (offset : Nat) : Nat × Nat :=
  let rec go : List Nat → Nat → Nat → Nat × Nat
    | [], _, i => (i, 0)
    | len :: rest, cur, i =>
      if cur + len + 1 > offset then (i, offset - cur) else go rest (cur + len + 1) (i + 1)
  go (lineLengths text) 0 0

/-- **The complaint as printed**, for the document `text`. -/
def Error.text (e : Error) (text : String) : String :=
  let keys := if e.keys.isEmpty then "" else " for key `" ++ ".".intercalate e.keys ++ "`"
  let place := match e.offset with
    | some o =>
      let (l, c) := lineColumn text o
      " at line " ++ toString (l + 1) ++ " column " ++ toString (c + 1)
    | none => ""
  e.message ++ keys ++ place

/-- A character as its escaped spelling: printable ASCII as itself, the usual backslash
escapes, anything else as a `\u` escape with hex digits. -/
def escapeChar (c : Char) : String :=
  if c = '\t' then "\\t" else if c = '\r' then "\\r" else if c = '\n' then "\\n"
  else if c = '\\' then "\\\\" else if c = '\'' then "\\'" else if c = '"' then "\\\""
  else if 0x20 ≤ c.toNat && c.toNat ≤ 0x7e then c.toString
  else "\\u\x7b" ++ String.ofList (Nat.toDigits 16 c.toNat) ++ "\x7d"

/-! ## Reading characters -/

/-- **The document's characters** with their byte offsets; a carriage return and line feed
pair reads as one line feed at the return's offset. -/
structure Source where
  chars : Array (Nat × Char)
  size : Nat
  deriving Inhabited

/-- The source of a text. -/
def Source.ofString (s : String) : Source :=
  let rec go : List Char → Nat → Array (Nat × Char) → Array (Nat × Char)
    | '\r' :: '\n' :: rest, i, acc => go rest (i + 2) (acc.push (i, '\n'))
    | c :: rest, i, acc => go rest (i + c.utf8Size) (acc.push (i, c))
    | [], _, acc => acc
  ⟨go s.toList 0 #[], s.utf8ByteSize⟩

/-- Reading: the source at hand, the index of the next character, failure with a complaint. -/
abbrev ReadM := ReaderT Source (StateT Nat (Except Error))

/-- Refuse with a complaint at a byte offset. -/
def fail (offset : Nat) (message : String) : ReadM α := throw { message, offset := some offset }

/-- The byte offset of the next character (the size at the end). -/
def current : ReadM Nat := do
  let s ← read
  let i ← get
  pure (match s.chars[i]? with | some (o, _) => o | none => s.size)

/-- The next character, not taken. -/
def peekChar : ReadM (Option Char) := do
  let i ← get
  pure (((← read).chars[i]?).map (·.2))

/-- Take the next character. -/
def one : ReadM (Option (Nat × Char)) := do
  let i ← get
  let r := (← read).chars[i]?
  if r.isSome then set (i + 1)
  pure r

/-- Take the next character if it is `c`. -/
def eatc (c : Char) : ReadM Bool := do
  if (← peekChar) == some c then do let _ ← one; pure true else pure false

/-- A bound on the steps of any loop over the source. -/
def budget : ReadM Nat := do pure ((← read).chars.size + 1)

/-- Take characters while they satisfy `p`. -/
def skipWhile (p : Char → Bool) : Nat → ReadM Unit
  | 0 => pure ()
  | n + 1 => do
    match ← peekChar with
    | some c => if p c then do let _ ← one; skipWhile p n else pure ()
    | none => pure ()

/-- The characters between two indices. -/
def textBetween (i j : Nat) : ReadM String := do
  pure (String.ofList (((← read).chars.extract i j).toList.map (·.2)))

/-! ## Tokens -/

/-- **A token of the document.** -/
inductive Token
  | newline
  | whitespace (text : String)
  | comment
  | equals
  | period
  | comma
  | colon
  | plus
  | leftBrace
  | rightBrace
  | leftBracket
  | rightBracket
  /-- A bare word: letters, digits, `-` and `_`. -/
  | keylike (text : String)
  | string (value : String) (multiline : Bool)
  deriving DecidableEq, Repr, Inhabited

/-- How complaints name a token. -/
def Token.describe : Token → String
  | .newline => "a newline"
  | .whitespace _ => "whitespace"
  | .comment => "a comment"
  | .equals => "an equals"
  | .period => "a period"
  | .comma => "a comma"
  | .colon => "a colon"
  | .plus => "a plus"
  | .leftBrace => "a left brace"
  | .rightBrace => "a right brace"
  | .leftBracket => "a left bracket"
  | .rightBracket => "a right bracket"
  | .keylike _ => "an identifier"
  | .string _ m => if m then "a multiline string" else "a string"

/-- Characters of bare words. -/
def isKeylike (c : Char) : Bool := c.isAlphanum || c = '-' || c = '_'

/-- Characters a comment may hold. -/
def commentChar (c : Char) : Bool := c = '\t' || c.toNat ≥ 0x20

/-- Characters a string may hold as themselves. -/
def plainInString (c : Char) : Bool := c = '\t' || (c.toNat ≥ 0x20 && c.toNat != 0x7f)

/-- The value of a hex digit. -/
def hexValue? (c : Char) : Option Nat :=
  if '0' ≤ c && c ≤ '9' then some (c.toNat - 48)
  else if 'a' ≤ c && c ≤ 'f' then some (c.toNat - 87)
  else if 'A' ≤ c && c ≤ 'F' then some (c.toNat - 55)
  else none

/-- The complaint about a bad escape character. -/
def badEscape (c : Char) : String := "invalid escape character in string: `" ++ escapeChar c ++ "`"

/-- **The hex digits of a `\u` or `\U` escape** (the escape letter at `escAt`), as a
character. -/
def readHex (start escAt : Nat) : Nat → Nat → ReadM Char
  | 0, acc =>
    if acc < 0xd800 || (0xdfff < acc && acc ≤ 0x10ffff) then pure (Char.ofNat acc)
    else fail escAt ("invalid escape value: `" ++ toString acc ++ "`")
  | k + 1, acc => do
    match ← one with
    | some (i, c) =>
      match hexValue? c with
      | some d => readHex start escAt k (acc * 16 + d)
      | none => fail i ("invalid hex escape character in string: `" ++ escapeChar c ++ "`")
    | none => fail start "unterminated string"

/-- Blanks up to and including a line feed; `false` at any other character. -/
def skipToLineEnd : Nat → ReadM Bool
  | 0 => pure true
  | n + 1 => do
    match ← peekChar with
    | some ' ' | some '\t' => do let _ ← one; skipToLineEnd n
    | some '\n' => do let _ ← one; pure true
    | some _ => pure false
    | none => pure true

/-- **An escape** after a backslash: the character it stands for, or `none` for a line-ending
backslash of a multi-line string, which also drops the blanks after it. -/
def readEscape (start : Nat) (multiline : Bool) : ReadM (Option Char) := do
  match ← one with
  | some (_, '"') => pure (some '"')
  | some (_, '\\') => pure (some '\\')
  | some (_, 'b') => pure (some '\x08')
  | some (_, 'f') => pure (some '\x0c')
  | some (_, 'n') => pure (some '\n')
  | some (_, 'r') => pure (some '\r')
  | some (_, 't') => pure (some '\t')
  | some (i, 'u') => pure (some (← readHex start i 4 0))
  | some (i, 'U') => pure (some (← readHex start i 8 0))
  | some (i, c) =>
    if multiline && (c = ' ' || c = '\t' || c = '\n') then do
      if c ≠ '\n' then
        if !(← skipToLineEnd (← budget)) then fail i (badEscape c)
      skipWhile (fun c => c = ' ' || c = '\t' || c = '\n') (← budget)
      pure none
    else fail i (badEscape c)
  | none => fail start "unterminated string"

/-- **The body of a string** up to its closing quote(s); `n` counts the characters read, a
line feed right after the opening quotes of a multi-line string is dropped. -/
def stringBody (delim : Char) (basic multiline : Bool) (start : Nat) :
    Nat → Nat → String → ReadM Token
  | 0, _, _ => fail start "unterminated string"
  | fuel + 1, n, val => do
    match ← one with
    | none => fail start "unterminated string"
    | some (i, c) =>
      if c = '\n' then
        if multiline then stringBody delim basic multiline start fuel (n + 1) (if n = 0 then val else val.push '\n')
        else fail i "newline in string found"
      else if c = delim then
        if multiline then
          if !(← eatc delim) then stringBody delim basic multiline start fuel (n + 1) (val.push delim)
          else if !(← eatc delim) then
            stringBody delim basic multiline start fuel (n + 1) ((val.push delim).push delim)
          else do
            let val := if ← eatc delim then val.push delim else val
            let val := if ← eatc delim then val.push delim else val
            pure (.string val true)
        else pure (.string val false)
      else if basic && c = '\\' then
        match ← readEscape start multiline with
        | some ch => stringBody delim basic multiline start fuel (n + 1) (val.push ch)
        | none => stringBody delim basic multiline start fuel (n + 1) val
      else if plainInString c then stringBody delim basic multiline start fuel (n + 1) (val.push c)
      else fail i ("invalid character in string: `" ++ escapeChar c ++ "`")

/-- **A string** whose opening quote (at `start`) was taken. -/
def readString (delim : Char) (basic : Bool) (start : Nat) : ReadM Token := do
  let fuel ← budget
  if ← eatc delim then
    if ← eatc delim then stringBody delim basic true start fuel 0 ""
    else pure (.string "" false)
  else stringBody delim basic false start fuel 0 ""

/-- **The next token** and its byte offset. -/
def nextToken : ReadM (Option (Nat × Token)) := do
  match ← one with
  | none => pure none
  | some (start, c) =>
    let i0 := (← get) - 1
    let tok ←
      if c = '\n' then pure Token.newline
      else if c = ' ' || c = '\t' then do
        skipWhile (fun c => c = ' ' || c = '\t') (← budget)
        pure (Token.whitespace (← textBetween i0 (← get)))
      else if c = '#' then do skipWhile commentChar (← budget); pure Token.comment
      else if c = '=' then pure Token.equals
      else if c = '.' then pure Token.period
      else if c = ',' then pure Token.comma
      else if c = ':' then pure Token.colon
      else if c = '+' then pure Token.plus
      else if c = '\x7b' then pure Token.leftBrace
      else if c = '\x7d' then pure Token.rightBrace
      else if c = '[' then pure Token.leftBracket
      else if c = ']' then pure Token.rightBracket
      else if c = '\'' then readString '\'' false start
      else if c = '"' then readString '"' true start
      else if isKeylike c then do
        skipWhile isKeylike (← budget)
        pure (Token.keylike (← textBetween i0 (← get)))
      else fail start ("unexpected character found: `" ++ escapeChar c ++ "`")
    pure (some (start, tok))

/-- The next token, not taken. -/
def peekToken : ReadM (Option (Nat × Token)) := do
  let i ← get
  let r ← nextToken
  set i
  pure r

/-- Take the next token if it is `t`. -/
def eat (t : Token) : ReadM Bool := do
  let i ← get
  match ← nextToken with
  | some (_, t') => if t' == t then pure true else do set i; pure false
  | none => do set i; pure false

/-- The complaint about an unexpected token. -/
def wanted (expected found : String) : String := "expected " ++ expected ++ ", found " ++ found

/-- Take the next token, which must be `t`. -/
def expect (t : Token) : ReadM Unit := do
  let here ← current
  match ← nextToken with
  | some (_, t') => if t' == t then pure () else fail here (wanted t.describe t'.describe)
  | none => fail (← read).size (wanted t.describe "eof")

/-- Skip spaces and tabs. -/
def eatWhitespace : ReadM Unit := do skipWhile (fun c => c = ' ' || c = '\t') (← budget)

/-- The line must end here. -/
def eatNewlineOrEof : ReadM Unit := do
  let here ← current
  match ← nextToken with
  | none | some (_, .newline) => pure ()
  | some (_, t) => fail here (wanted "newline" t.describe)

/-- Take a comment and the end of its line, if a comment comes next. -/
def eatComment : ReadM Bool := do
  if ← eatc '#' then do
    skipWhile commentChar (← budget)
    eatNewlineOrEof
    pure true
  else pure false

/-- **One key**: a bare word or a one-line string. -/
def tableKey : ReadM String := do
  let here ← current
  match ← nextToken with
  | some (_, .keylike k) => pure k
  | some (s, .string v m) => if m then fail s "multiline strings are not allowed for key" else pure v
  | some (_, t) => fail here (wanted "a table key" t.describe)
  | none => fail (← read).size (wanted "a table key" "eof")

/-- Further parts of a dotted key. -/
def dottedRest (acc : List String) : Nat → ReadM (List String)
  | 0 => pure acc
  | n + 1 => do
    if ← eat .period then do
      eatWhitespace
      let k ← tableKey
      eatWhitespace
      dottedRest (acc ++ [k]) n
    else pure acc

/-- **A dotted key** `a.b.c`. -/
def dottedKey : ReadM (List String) := do
  let k ← tableKey
  eatWhitespace
  dottedRest [k] (← budget)

/-! ## Numbers and datetimes -/

/-- Whether `c` is a digit in `radix`. -/
def isDigitIn (radix : Nat) (c : Char) : Bool :=
  match hexValue? c with
  | some d => d < radix && (radix = 16 || c.isDigit)
  | none => false

/-- Scan a number's digits: where they end, and whether none was read or an underscore
ended them. -/
def scanDigits (off radix : Nat) (allowSign leadingZeros : Bool) :
    List Char → Nat → Bool → Bool → Bool → ReadM (Nat × Bool × Bool)
  | [], i, first, _, us => pure (i, first, us)
  | c :: rest, i, first, fz, us =>
    if i = 0 && (c = '+' || c = '-') && allowSign then scanDigits off radix allowSign leadingZeros rest (i + 1) first fz us
    else if c = '0' && first then scanDigits off radix allowSign leadingZeros rest (i + 1) false true us
    else if isDigitIn radix c then
      if !first && fz && !leadingZeros then fail (i + off) "invalid number"
      else scanDigits off radix allowSign leadingZeros rest (i + 1) false fz false
    else if c = '_' && first then fail (i + off) "invalid number"
    else if c = '_' && !us then scanDigits off radix allowSign leadingZeros rest (i + 1) false fz true
    else pure (i, first, us)

/-- **The number at the front of `s`** (at byte `off`) and the rest: digits of `radix`
with single underscores between them, a sign if allowed, no leading zero unless allowed. -/
def integerPrefix (s : String) (off radix : Nat) (allowSign leadingZeros : Bool) :
    ReadM (String × String) := do
  let cs := s.toList
  let (e, first, us) ← scanDigits off radix allowSign leadingZeros cs 0 true false false
  if first || us then fail off "invalid number"
  pure (String.ofList (cs.take e), String.ofList (cs.drop e))

/-- The value of digits in `radix`. -/
def digitsValue (radix : Nat) (ds : List Char) : Nat :=
  ds.foldl (fun acc c => acc * radix + ((hexValue? c).getD 0)) 0

/-- **An integer**: the whole word must be a number, and fit in 64 signed bits. -/
def readInteger (s : String) (off radix : Nat) : ReadM Int := do
  let (pre, suf) ← integerPrefix s off radix (radix = 10) (radix ≠ 10)
  if !suf.isEmpty then fail off "invalid number"
  let ds := (pre.toList.filter (· ≠ '_')).dropWhile (· = '+')
  let (neg, ds) := match ds with
    | '-' :: rest => (true, rest)
    | '+' :: rest => (false, rest)
    | _ => (false, ds)
  if ds.isEmpty || !ds.all (isDigitIn radix) then fail off "invalid number"
  let n := digitsValue radix ds
  if neg then
    if n > 9223372036854775808 then fail off "invalid number" else pure (-(n : Int))
  else if n ≥ 9223372036854775808 then fail off "invalid number" else pure n

/-- **The double nearest to a decimal**, or `none` when it is too large. -/
def decimalValue (neg : Bool) (digits : List Char) (exp : Int) : Option Float :=
  let m := digitsValue 10 digits
  let sign (f : Float) : Float := if neg then -f else f
  if m = 0 then some (sign 0.0)
  else
    let top : Int := exp + (Nat.toDigits 10 m).length
    if top > 310 then none
    else if top < -400 then some (sign 0.0)
    else
      let f := if 0 ≤ exp then Json.nearestDouble (m * Nat.pow 10 exp.toNat) 1
        else Json.nearestDouble m (Nat.pow 10 (-exp).toNat)
      if f.isInf then none else some (sign f)

/-- **A float**: `s` (at byte `off`) holds the integral part and perhaps an exponent;
`after` is the word after a decimal point, with its offset. -/
def readFloat (s : String) (off : Nat) (after : Option (String × Nat)) : ReadM Float := do
  let (integral, suffix) ← integerPrefix s off 10 true false
  let (fraction, suffix, sufOff) ← match after with
    | some (a, aoff) => do
      if !suffix.isEmpty then fail off "invalid number"
      let (f, rest) ← integerPrefix a aoff 10 false true
      pure (f, rest, aoff + f.length)
    | none => pure ("", suffix, off + integral.length)
  let exponent ← if suffix.startsWith "e" || suffix.startsWith "E" then do
      let (e, rest) ← if suffix.length = 1 then do
          let _ ← eat .plus
          match ← nextToken with
          | some (s2, .keylike w) => integerPrefix w s2 10 false true
          | _ => fail off "invalid number"
        else integerPrefix ((suffix.drop 1).toString) (sufOff + 1) 10 true true
      if !rest.isEmpty then fail off "invalid number"
      pure e
    else if !suffix.isEmpty then fail off "invalid number"
    else pure "0"
  let intDs := (integral.toList.filter (· ≠ '_')).dropWhile (· = '+')
  let (neg, intDs) := match intDs with
    | '-' :: rest => (true, rest)
    | _ => (false, intDs)
  let fracDs := fraction.toList.filter (· ≠ '_')
  let expDs := exponent.toList.filter (· ≠ '_')
  let expVal : Int := match expDs with
    | '-' :: rest => -(digitsValue 10 rest : Int)
    | '+' :: rest => digitsValue 10 rest
    | ds => digitsValue 10 ds
  match decimalValue neg (intDs ++ fracDs) (expVal - fracDs.length) with
  | some f => pure f
  | none => fail off "invalid number"

/-- `n` as two digits (or more). -/
def pad2 (n : Nat) : String := if n < 10 then "0" ++ toString n else toString n

/-- Two digits from the front of a character list. -/
def twoDigits : List Char → Option (Nat × List Char)
  | a :: b :: rest => if a.isDigit && b.isDigit then some ((a.toNat - 48) * 10 + (b.toNat - 48), rest) else none
  | _ => none

/-- Leading decimal digits and the rest. -/
def fractionDigits (cs : List Char) : List Char × List Char := (cs.takeWhile Char.isDigit, cs.dropWhile Char.isDigit)

/-- **The time part** `hh:mm:ss[.frac]` of a datetime, its spelling and the rest. -/
def timeText (cs : List Char) : Option (String × List Char) := do
  let (h, cs) ← twoDigits cs
  let cs ← match cs with | ':' :: r => some r | _ => none
  let (m, cs) ← twoDigits cs
  let cs ← match cs with | ':' :: r => some r | _ => none
  let (s, cs) ← twoDigits cs
  let (frac, cs) ← match cs with
    | '.' :: r =>
      let (ds, rest) := fractionDigits r
      if ds.isEmpty then none
      else
        let nine := (ds.take 9 ++ List.replicate (9 - min 9 ds.length) '0')
        let trimmed := (nine.reverse.dropWhile (· = '0')).reverse
        some (if trimmed.isEmpty then "" else "." ++ String.ofList trimmed, rest)
    | _ => some ("", cs)
  if h > 24 || m > 59 || s > 59 then none
  else some (pad2 h ++ ":" ++ pad2 m ++ ":" ++ pad2 s ++ frac, cs)

/-- **A datetime's normal spelling**, or `none` when the text is no datetime. -/
def datetimeText? (text : String) : Option String := do
  let cs := text.toList
  if text.utf8ByteSize < 3 then none
  if cs[2]? == some ':' then
    let (t, rest) ← timeText cs
    if rest.isEmpty then some t else none
  else
    let (y1, cs) ← twoDigits cs
    let (y2, cs) ← twoDigits cs
    let cs ← match cs with | '-' :: r => some r | _ => none
    let (mo, cs) ← twoDigits cs
    let cs ← match cs with | '-' :: r => some r | _ => none
    let (d, cs) ← twoDigits cs
    if mo < 1 || mo > 12 || d < 1 || d > 31 then none
    let year := toString (y1 * 100 + y2)
    let date := String.ofList (List.replicate (4 - year.length) '0') ++ year ++ "-" ++ pad2 mo ++ "-" ++ pad2 d
    match cs with
    | [] => some date
    | sep :: rest =>
      if sep = 'T' || sep = 't' || sep = ' ' then
        let (t, cs) ← timeText rest
        let off ← match cs with
          | [] => some ""
          | ['Z'] | ['z'] => some "Z"
          | sign :: more =>
            if sign = '+' || sign = '-' then do
              let (oh, more) ← twoDigits more
              let more ← match more with | ':' :: r => some r | _ => none
              let (om, more) ← twoDigits more
              if !more.isEmpty then none
              let s := if sign = '-' && oh ≠ 0 then "-" else "+"
              some (s ++ pad2 oh ++ ":" ++ pad2 om)
            else none
        some (date ++ "T" ++ t ++ off)
      else none

/-! ## Values and lines -/

/-- **A value as read**, before tables are assembled; members carry the offset where their
value starts. -/
inductive Raw
  | plain (v : Value)
  | date (text : String)
  | array (items : List (Nat × Raw))
  | inline (members : List (String × Nat × Raw))
  /-- A table built by dotted keys. -/
  | dotted (members : List (String × Nat × Raw))
  deriving Inhabited

/-- Replace the first member named `k`. -/
def replaceMember (k : String) (m : String × Nat × Raw) : List (String × Nat × Raw) → List (String × Nat × Raw)
  | [] => []
  | x :: rest => if x.1 = k then m :: rest else x :: replaceMember k m rest

/-- **Adding a member under a dotted key**: the leading parts name tables built by dotted
keys, created as needed; extending any other value is refused. -/
def addDotted (start : Nat) (v : Raw) : List String → List (String × Nat × Raw) → ReadM (List (String × Nat × Raw))
  | [], ms => pure ms
  | [k], ms => pure (ms ++ [(k, start, v)])
  | k :: rest, ms =>
    match ms.find? (·.1 == k) with
    | some (_, s, .dotted inner) => do
      let inner ← addDotted start v rest inner
      pure (replaceMember k (k, s, .dotted inner) ms)
    | some (_, s, _) => fail s "dotted key attempted to extend non-table type"
    | none => do
      let inner ← addDotted start v rest []
      pure (ms ++ [(k, start, .dotted inner)])

/-- **A word that starts a number or a datetime.** -/
def number (start : Nat) (s : String) : ReadM Raw := do
  if s.startsWith "0x" then pure (.plain (.integer (← readInteger ((s.drop 2).toString) (start + 2) 16)))
  else if s.startsWith "0o" then pure (.plain (.integer (← readInteger ((s.drop 2).toString) (start + 2) 8)))
  else if s.startsWith "0b" then pure (.plain (.integer (← readInteger ((s.drop 2).toString) (start + 2) 2)))
  else if s.contains 'e' || s.contains 'E' then pure (.plain (.float (← readFloat s start none)))
  else if ← eat .period then do
    let here ← current
    match ← nextToken with
    | some (s2, .keylike after) => pure (.plain (.float (← readFloat s start (some (after, s2)))))
    | _ => fail here "invalid number"
  else if s = "inf" then pure (.plain (.float (Float.ofScientific 1 false 400)))
  else if s = "-inf" then pure (.plain (.float (-(Float.ofScientific 1 false 400))))
  else if s = "nan" || s = "-nan" then pure (.plain (.float (0.0 / 0.0)))
  else pure (.plain (.integer (← readInteger s start 10)))

/-- **The rest of a datetime** whose first word `s` (at `start`) was read. -/
def datetime (start : Nat) (colonEaten : Bool) : ReadM Raw := do
  let i ← get
  let spaced ← (do
      match ← nextToken with
      | some (_, .whitespace " ") =>
        match ← nextToken with
        | some (_, .keylike _) => pure true
        | _ => pure false
      | _ => pure false : ReadM Bool) <|> pure false
  if !spaced then set i
  let needWord : ReadM Unit := do
    match ← nextToken with
    | some (_, .keylike _) => pure ()
    | _ => fail start "invalid date"
  if colonEaten || (← eat .colon) then do
    needWord
    expect .colon
    needWord
    if ← eat .period then needWord
    if ← eat .plus then needWord
    if ← eat .colon then needWord
  let stop ← current
  let s ← read
  let text := String.ofList ((s.chars.toList.filter fun (o, _) => start ≤ o && o < stop).map (·.2))
  pure (.date text)

/-- **A number or a datetime** starting with the word `s` at `start`. -/
def numberOrDate (start : Nat) (s : String) : ReadM Raw := do
  let tail := (s.drop 1).toString
  if s.contains 'T' || s.contains 't' ||
      (s.length > 1 && tail.contains '-' && !(s.splitOn "e-").length > 1 && !(s.splitOn "E-").length > 1) then
    datetime start false
  else if ← eat .colon then datetime start true
  else number start s

/-- Skip blanks, line breaks and comments between array elements. -/
def intermediate : Nat → ReadM Unit
  | 0 => pure ()
  | n + 1 => do
    eatWhitespace
    if ← eat .newline then intermediate n
    else if ← eatComment then intermediate n
    else pure ()

mutual

/-- **A value**, nested at most `depth - 1` levels deep. -/
def value : Nat → ReadM (Nat × Raw)
  | 0 => do fail (← current) "unexpected eof encountered"
  | depth + 1 => do
    let here ← current
    match ← nextToken with
    | some (s, .string v _) => pure (s, .plain (.string v))
    | some (s, .keylike "true") => pure (s, .plain (.boolean true))
    | some (s, .keylike "false") => pure (s, .plain (.boolean false))
    | some (s, .keylike k) =>
      if k = "inf" || k = "nan" || k.front = '-' || k.front.isDigit then pure (s, ← numberOrDate s k)
      else fail here "invalid TOML value, did you mean to use a quoted string?"
    | some (s, .plus) => do
      let here2 ← current
      match ← nextToken with
      | some (s2, .keylike k) => pure (s, ← number s2 k)
      | _ => fail here2 "invalid number"
    | some (s, .leftBrace) => do
      eatWhitespace
      if ← eat .rightBrace then pure (s, .inline [])
      else pure (s, .inline (← inlineMembers depth (← budget) []))
    | some (s, .leftBracket) => pure (s, .array (← arrayItems depth (← budget) []))
    | some (_, t) => fail here (wanted "a value" t.describe)
    | none => fail (← read).size "unexpected eof encountered"
termination_by depth => (depth, 0)

/-- The members of an inline table, up to its closing brace. -/
def inlineMembers (depth : Nat) : Nat → List (String × Nat × Raw) → ReadM (List (String × Nat × Raw))
  | 0, acc => pure acc
  | fuel + 1, acc => do
    let key ← dottedKey
    eatWhitespace
    expect .equals
    eatWhitespace
    let (s, v) ← value depth
    let acc ← addDotted s v key acc
    eatWhitespace
    if ← eat .rightBrace then pure acc
    else do
      expect .comma
      eatWhitespace
      inlineMembers depth fuel acc
termination_by fuel => (depth, fuel + 1)

/-- The elements of an array, up to its closing bracket. -/
def arrayItems (depth : Nat) : Nat → List (Nat × Raw) → ReadM (List (Nat × Raw))
  | 0, acc => pure acc
  | fuel + 1, acc => do
    intermediate (← budget)
    if ← eat .rightBracket then pure acc
    else do
      let v ← value depth
      intermediate (← budget)
      if ← eat .comma then arrayItems depth fuel (acc ++ [v])
      else do
        intermediate (← budget)
        expect .rightBracket
        pure (acc ++ [v])
termination_by fuel => (depth, fuel + 1)

end

/-- **A line of the document.** -/
inductive Line
  | header (offset : Nat) (keys : List String) (array : Bool)
  | pair (keys : List String) (start : Nat) (v : Raw)
  deriving Inhabited

/-- Further parts of a table header's key. -/
def headerRest (acc : List String) : Nat → ReadM (List String)
  | 0 => pure acc
  | n + 1 => do
    eatWhitespace
    if ← eat .period then do
      eatWhitespace
      let k ← tableKey
      headerRest (acc ++ [k]) n
    else pure acc

/-- **A table header** `[a.b]` or `[[a.b]]`, and the end of its line. -/
def tableHeader : ReadM Line := do
  let start ← current
  expect .leftBracket
  let array ← eat .leftBracket
  eatWhitespace
  eatWhitespace
  let k ← tableKey
  let keys ← headerRest [k] (← budget)
  expect .rightBracket
  if array then expect .rightBracket
  eatWhitespace
  if !(← eatComment) then eatNewlineOrEof
  pure (.header start keys array)

/-- **A `key = value` line.** -/
def keyValue : ReadM Line := do
  let keys ← dottedKey
  eatWhitespace
  expect .equals
  eatWhitespace
  let (s, v) ← value (← budget)
  eatWhitespace
  if !(← eatComment) then eatNewlineOrEof
  pure (.pair keys s v)

/-- Skip blank lines and comment lines. -/
def skipBlankLines : Nat → ReadM Unit
  | 0 => pure ()
  | n + 1 => do
    eatWhitespace
    if ← eatComment then skipBlankLines n
    else if ← eat .newline then skipBlankLines n
    else pure ()

/-- **The next line**, if any. -/
def line : ReadM (Option Line) := do
  skipBlankLines (← budget)
  match ← peekToken with
  | some (_, .leftBracket) => pure (some (← tableHeader))
  | some _ => pure (some (← keyValue))
  | none => pure none

/-- **A table as written**: where its header is, its key, whether it is an element of an
array of tables, and its members. -/
structure Decl where
  offset : Nat
  header : List String
  array : Bool
  members : Option (List (String × Nat × Raw))
  deriving Inhabited

/-- Whether a table as written holds anything worth keeping. -/
def Decl.keep (d : Decl) : Bool := !d.header.isEmpty || d.members.isSome

/-- **All tables of the document**, the top-level one first. -/
def tables : Nat → Decl → List Decl → ReadM (List Decl)
  | 0, cur, acc => pure (if cur.keep then acc ++ [cur] else acc)
  | n + 1, cur, acc => do
    match ← line with
    | none => pure (if cur.keep then acc ++ [cur] else acc)
    | some (.header pos keys array) =>
      tables n { offset := pos, header := keys, array, members := some [] }
        (if cur.keep then acc ++ [cur] else acc)
    | some (.pair keys s v) => do
      let ms ← addDotted s v keys (cur.members.getD [])
      tables n { cur with members := some ms } acc

/-! ## Assembling tables

The tables as written are walked the way the document's reader hands them to a builder of
values. A walk works in one table (its *parent*) at some depth of header keys, over tables
`cur ..< stop`. It first gives the parent's own members, then each later table whose header
begins like the parent's, key by key: a table deeper than the walk gives its next header key,
and the value under that key is a walk one key deeper; a table at the walk's depth has its
members taken (each table's members are taken once). A table whose header equals the
parent's is a redefinition; a shorter one becomes the parent. An array of tables is a walk
over the tables with that header that are arrays, each element a walk over the tables up to
the next element.

A builder takes each key once: a key met again is a duplicate. Complaints name the keys of
the tables they arose in; one without a place is placed at the last table of the document. -/

/-- A complaint with its keys extended by an outer key. -/
def Error.under (e : Error) (k : String) : Error := { e with keys := k :: e.keys }

/-- A complaint placed at `o` unless it has a place already. -/
def Error.placedAt (e : Error) (o : Nat) : Error :=
  if e.offset.isSome then e else { e with offset := some o }

/-- The complaint about a key met twice. -/
def duplicateKey (k : String) : Error := { message := "duplicate key: `" ++ k ++ "`" }

/-- **The datetime marker**: a table whose first key is this one stands for the datetime its
value spells, and its other keys are not looked at. -/
def datetimeKey : String := "$__toml_private_datetime"

/-- The complaint about a datetime marker whose value is not text. -/
def notDatetime (found : Json.Unexpected) : Error :=
  { message := "invalid type: " ++ found.text ++ ", expected string containing a datetime" }

/-- What a value as read is, for a complaint. -/
def Raw.unexpected : Raw → Json.Unexpected
  | .plain (.string s) => .str s
  | .plain (.integer i) => .signed i
  | .plain (.float f) => .float f
  | .plain (.boolean b) => .bool b
  | .plain (.array _) => .seq
  | .plain _ => .map
  | .date _ => .map
  | .array _ => .seq
  | .inline _ => .map
  | .dotted _ => .map

/-- **A datetime marker's value** starting at `s`: text that spells a datetime. A complaint is
placed where the value starts. -/
def markedDatetime (s : Nat) (r : Raw) : Except Error Value :=
  let made : Except Error Value := match r with
    | .plain (.string t) =>
      match datetimeText? t with
      | some d => .ok (.datetime d)
      | none => .error { message := "failed to parse datetime" }
    | r => .error (notDatetime r.unexpected)
  made.mapError (·.placedAt s)

mutual

/-- **A value as read, made a value**: datetimes checked, each key of a table once. A
complaint without a place is placed where the value starts. -/
def valueOf : Nat → Nat × Raw → Except Error Value
  | 0, _ => .ok (.table [])
  | fuel + 1, (s, r) =>
    let made : Except Error Value := match r with
      | .plain v => .ok v
      | .date t =>
        match datetimeText? t with
        | some d => .ok (.datetime d)
        | none => .error { message := "failed to parse datetime" }
      | .array items => do pure (.array (← items.mapM (valueOf fuel)))
      | .inline ms | .dotted ms =>
        match ms with
        | (k, s2, r2) :: _ =>
          if k = datetimeKey then markedDatetime s2 r2 else do pure (.table (← membersOf fuel ms []))
        | [] => .ok (.table [])
    made.mapError (·.placedAt s)

/-- The members of a table value, each key once. -/
def membersOf : Nat → List (String × Nat × Raw) → List (String × Value) → Except Error (List (String × Value))
  | 0, _, acc => .ok acc
  | _ + 1, [], acc => .ok acc
  | fuel + 1, (k, s, r) :: rest, acc =>
    if acc.any (·.1 == k) then .error (duplicateKey k)
    else do
      let v ← valueOf fuel (s, r)
      membersOf fuel rest (acc ++ [(k, v)])

end

/-- **A place in the walk over the tables**: the depth in header keys, the next table to look
at, the table worked in, the end of the tables in reach, whether it is an array of tables,
and the members of the parent not yet given. -/
structure Walk where
  depth : Nat
  cur : Nat
  parent : Nat
  stop : Nat
  array : Bool
  pending : List (String × Nat × Raw)
  deriving Inhabited

/-- **What a walk gives next**: a member with its value as read, or a header key. -/
inductive Step
  | member (k : String) (start : Nat) (r : Raw)
  | header (k : String)
  deriving Inhabited

/-- The key of a step. -/
def Step.key : Step → String
  | .member k _ _ => k
  | .header k => k

/-- The walk's state: the tables as written, with the members not yet taken. -/
abbrev WalkM := StateT (Array Decl) (Except Error)

/-- Whether the header `h` begins with the keys `pre`. -/
def beginsWith (pre h : List String) : Bool := pre.length ≤ h.length && h.take pre.length == pre

/-- **A datetime marker met first in a walk**: a member's value must spell a datetime; a table
under a header is refused as a table, or as a sequence for an array of tables. A complaint
gains the key. -/
def markedValue (w : Walk) : Step → WalkM Value
  | .member k s r =>
    match markedDatetime s r with
    | .ok v => pure v
    | .error e => throw (e.under k)
  | .header k => do
    let ts ← get
    let t := ts.getD w.cur default
    let found : Json.Unexpected := if t.array && w.depth + 1 == t.header.length then .seq else .map
    throw ((notDatetime found).under k)

mutual

/-- **The next key of a walk**, if any. -/
def nextKey : Nat → Walk → WalkM (Walk × Option Step)
  | 0, w => pure (w, none)
  | fuel + 1, w => do
    if w.parent == w.stop || w.cur == w.stop then return (w, none)
    match w.pending with
    | (k, s, r) :: rest => return ({ w with pending := rest }, some (.member k s r))
    | [] =>
      let ts ← get
      let parent := ts.getD w.parent default
      let pre := parent.header.take w.depth
      let found := (List.range' w.cur (w.stop - w.cur)).find? fun i =>
        let t := ts.getD i default
        beginsWith pre t.header && t.members.isSome
      match found with
      | none => return (w, none)
      | some pos =>
        let t := ts.getD pos default
        let w := { w with cur := pos }
        let w ← if w.parent != pos then
            if parent.header == t.header then
              throw { message := "redefinition of table `" ++ ".".intercalate t.header ++ "`",
                      offset := some t.offset }
            else pure (if t.header.length < parent.header.length then { w with parent := pos } else w)
          else pure w
        if w.depth != t.header.length then return (w, some (.header (t.header.getD w.depth "")))
        if t.array then throw { message := "table redefined as array", offset := some t.offset }
        set (ts.modify pos fun d => { d with members := none })
        nextKey fuel { w with pending := t.members.getD [] }

/-- **The value under a key of a walk**: a member's value, or a walk one key deeper (over the
same tables for an array of tables). A complaint gains the key. -/
def nextValue : Nat → Walk → Step → WalkM (Walk × Value)
  | 0, w, _ => pure (w, .table [])
  | fuel + 1, w, .member k s r =>
    match valueOf fuel (s, r) with
    | .ok v => pure (w, v)
    | .error e => throw (e.under k)
  | fuel + 1, w, .header k => do
    let ts ← get
    let t := ts.getD w.cur default
    let array := t.array && w.depth + 1 == t.header.length
    let inner : Walk :=
      { depth := w.depth + (if array then 0 else 1), cur := 0, parent := w.cur, stop := w.stop,
        array, pending := [] }
    let v ← tryCatch (walkValue fuel inner) fun e => throw (e.under k)
    pure ({ w with cur := w.cur + 1 }, v)

/-- **The value a walk builds**: an array of tables, or a table. -/
def walkValue : Nat → Walk → WalkM Value
  | 0, _ => pure (.table [])
  | fuel + 1, w => if w.array then elements fuel w [] else do
    let (_, v) ← members fuel w []
    pure v

/-- The keys of a walk, each once, and their values. -/
def members : Nat → Walk → List (String × Value) → WalkM (Walk × Value)
  | 0, w, acc => pure (w, .table acc)
  | fuel + 1, w, acc => do
    let (w, step) ← nextKey fuel w
    match step with
    | none => pure (w, .table acc)
    | some st =>
      if acc.isEmpty && st.key == datetimeKey then
        let v ← markedValue w st
        return (w, v)
      if acc.any (·.1 == st.key) then throw (duplicateKey st.key)
      let (w, v) ← nextValue fuel w st
      members fuel w (acc ++ [(st.key, v)])

/-- The elements of an array of tables: each a walk from one element's table to the next. -/
def elements : Nat → Walk → List Value → WalkM Value
  | 0, _, acc => pure (.array acc)
  | fuel + 1, w, acc => do
    if w.parent == w.stop then return .array acc
    let ts ← get
    let here := ts.getD w.parent default
    let next := ((List.range' (w.parent + 1) (w.stop - (w.parent + 1))).find? fun i =>
      let t := ts.getD i default
      t.header == here.header && t.array).getD w.stop
    set (ts.modify w.parent fun d => { d with members := none })
    let (_, elem) ← members fuel
      { depth := w.depth + 1, cur := 0, parent := w.parent, stop := next, array := false,
        pending := here.members.getD [] } []
    elements fuel { w with parent := next } (acc ++ [elem])

end

/-- **The document as one table**: the walk over all its tables. -/
def assembleAll (decls : List Decl) (fuel : Nat) : Except Error (List (String × Value)) :=
  let ts := decls.toArray
  let root : Walk := { depth := 0, cur := 0, parent := 0, stop := ts.size, array := false, pending := [] }
  match (members fuel root []).run ts with
  | .ok ((_, .table es), _) => .ok es
  | .ok _ => .ok []
  | .error e => .error (match decls.getLast? with
    | some d => e.placedAt d.offset
    | none => e)

/-- **Reading a document** as its top-level table; a byte order mark at its start is skipped. -/
def parse (text : String) : Except Error (List (String × Value)) := do
  let src := Source.ofString text
  let fuel := src.chars.size + 1
  let first := if (src.chars[0]?.map (·.2)) == some (Char.ofNat 0xfeff) then 1 else 0
  let (decls, _) ← ((tables fuel { offset := 0, header := [], array := false, members := none } []).run src).run first
  assembleAll decls ((decls.length + fuel + 2) * (decls.length + fuel + 2))

end Toml

end Diversion
