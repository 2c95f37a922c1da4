import Diversion.Text.Decimal

/-!
# `Diversion.Json.Value` — JSON values and their compact text

Numbers keep the three kinds a JSON reader distinguishes: nonnegative integers up to 2^64 - 1,
negative integers down to -2^63, and everything else as a double. Objects keep their members
sorted by key with one member per key, as a reader that lets a later duplicate win leaves them.

## Contents
- `Json.Number`, `Json`, member lookup `Json.get?`, `Json.obj` building.
- `Json.render`: compact text, strings escaped, doubles in `Decimal.scientificText`.
-/

namespace Diversion

/-- **A JSON number**, by the kind a reader gives it. -/
inductive JsonNumber
  /-- A nonnegative integer below 2^64. -/
  | nat (n : Nat)
  /-- A negative integer not below -2^63. -/
  | neg (i : Int)
  /-- Any other number. -/
  | float (f : Float)
  deriving Inhabited

/-- **A JSON value.** -/
inductive Json
  | null
  | bool (b : Bool)
  | num (n : JsonNumber)
  | str (s : String)
  | arr (items : List Json)
  | obj (members : List (String × Json))
  deriving Inhabited

/-- Text of a number: integers in decimal, doubles shortest, non-finite doubles as `null`. -/
def JsonNumber.text : JsonNumber → String
  | .nat n => toString n
  | .neg i => toString i
  | .float f => (Decimal.scientificText f).getD "null"

namespace Json

/-- A nonnegative integer. -/
def nat (n : Nat) : Json := .num (.nat n)

/-- An integer of either sign. -/
def int (i : Int) : Json := if 0 ≤ i then .num (.nat i.toNat) else .num (.neg i)

/-- A double. -/
def float (f : Float) : Json := .num (.float f)

/-- **Insert a member**, replacing one with the same key, keeping keys sorted. -/
def insertMember (k : String) (v : Json) : List (String × Json) → List (String × Json)
  | [] => [(k, v)]
  | (k', v') :: rest =>
    if k = k' then (k, v) :: rest
    else if k < k' then (k, v) :: (k', v') :: rest
    else (k', v') :: insertMember k v rest

/-- An object from members; a later member with the same key wins. -/
def object (members : List (String × Json)) : Json :=
  .obj (members.foldl (fun acc (k, v) => insertMember k v acc) [])

/-- **The member `k`** of an object. -/
def get? (j : Json) (k : String) : Option Json :=
  match j with
  | .obj ms => ms.lookup k
  | _ => none

/-- Four hex digits of a code unit, lowercase. -/
def hex4 (n : Nat) : String :=
  let ds := Nat.toDigits 16 n
  String.ofList (List.replicate (4 - ds.length) '0' ++ ds)

/-- **A string as JSON text**: quote, backslash and control characters escaped. -/
def quote (s : String) : String :=
  let esc (c : Char) : String :=
    if c = '"' then "\\\""
    else if c = '\\' then "\\\\"
    else if c = '\n' then "\\n"
    else if c = '\r' then "\\r"
    else if c = '\t' then "\\t"
    else if c.toNat = 8 then "\\b"
    else if c.toNat = 12 then "\\f"
    else if c.toNat < 32 then "\\u" ++ hex4 c.toNat
    else c.toString
  "\"" ++ String.join (s.toList.map esc) ++ "\""

mutual

/-- **Compact JSON text.** -/
def render : Json → String
  | .null => "null"
  | .bool b => if b then "true" else "false"
  | .num n => n.text
  | .str s => quote s
  | .arr items => "[" ++ renderItems items ++ "]"
  | .obj members => "\x7b" ++ renderMembers members ++ "\x7d"

/-- Array items, comma-separated. -/
def renderItems : List Json → String
  | [] => ""
  | [j] => render j
  | j :: rest => render j ++ "," ++ renderItems rest

/-- Object members, comma-separated. -/
def renderMembers : List (String × Json) → String
  | [] => ""
  | [(k, v)] => quote k ++ ":" ++ render v
  | (k, v) :: rest => quote k ++ ":" ++ render v ++ "," ++ renderMembers rest

end

end Json

end Diversion
