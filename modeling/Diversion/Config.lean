import Diversion.Settings
import Diversion.Json.Unexpected

/-!
# `Diversion.Config` — settings of a diversion handle

The settings are the queue length, the aging time in milliseconds, the priority, the layer
and four flags, each with a default. As a JSON object, every member is optional, unknown
members are ignored, and members are taken in key order, so the first faulty one in that
order is reported. As a JSON array, the values fill the settings in declaration order; a
shorter array leaves the rest at their defaults, a longer one is refused.

Reading checks only the types; `Config.validate` then checks the queue length, the aging
time and the priority, in that order.

## Contents
- `Config`, `Config.flags`, `Config.validate`.
- `Config.ofJson`.
-/

namespace Diversion

/-- **The settings of a diversion handle.** -/
structure Config where
  queueLen : Nat := Param.queueLen.default
  queueTimeMs : Nat := Param.queueTime.default
  priority : Int := 0
  layer : Layer := .network
  sniff : Bool := false
  drop : Bool := false
  noChecksum : Bool := false
  passthru : Bool := false
  deriving DecidableEq, Repr, Inhabited

namespace Config

/-- **The open flags** the settings ask for. -/
def flags (c : Config) : Flags :=
  ⟨(if c.sniff then Flags.sniffBit else 0) ||| (if c.drop then Flags.dropBit else 0) |||
    (if c.noChecksum then Flags.noChecksumBit else 0) |||
    (if c.passthru then Flags.passthruBit else 0)⟩

/-- **Checking the settings**: queue length, aging time, priority. -/
def validate (c : Config) : Except Error Unit := do
  let _ ← Param.queueLen.validate c.queueLen
  let _ ← Param.queueTime.validate c.queueTimeMs
  let _ ← checkPriority c.priority
  pure ()

open Json

/-- An unsigned 64-bit setting. -/
def u64Of : Json → Except String Nat
  | .num (.nat n) => .ok n
  | .num (.neg i) => .error (invalidValue (.signed i) "u64")
  | j => .error (invalidType (.ofJson j) "u64")

/-- A signed 64-bit setting. -/
def i64Of : Json → Except String Int
  | .num (.nat n) => if n < 9223372036854775808 then .ok n else .error (invalidValue (.unsigned n) "i64")
  | .num (.neg i) => .ok i
  | j => .error (invalidType (.ofJson j) "i64")

/-- A boolean setting. -/
def boolOf : Json → Except String Bool
  | .bool b => .ok b
  | j => .error (invalidType (.ofJson j) "a boolean")

/-- Layer names in declaration order. -/
def layerNames : List String := ["network", "network_forward"]

/-- The layer named `s`. -/
def layerNamed (s : String) : Except String Layer :=
  match Layer.ofKey? s with
  | some l => .ok l
  | none => .error (unknownVariant s layerNames)

/-- **The layer setting**: its name, or an object with the name as its one key and `null`. -/
def layerOf : Json → Except String Layer
  | .str s => layerNamed s
  | .obj [(k, v)] => do
    let l ← layerNamed k
    match v with
    | .null => .ok l
    | other => .error (invalidType (.ofJson other) "unit")
  | .obj _ => .error (invalidValue .map "map with a single key")
  | j => .error (invalidType (.ofJson j) "string or map")

/-- **One member** applied to the settings; unknown keys change nothing. -/
def setMember (c : Config) : String × Json → Except String Config
  | ("queue_len", v) => do pure { c with queueLen := ← u64Of v }
  | ("queue_time_ms", v) => do pure { c with queueTimeMs := ← u64Of v }
  | ("priority", v) => do pure { c with priority := ← i64Of v }
  | ("layer", v) => do pure { c with layer := ← layerOf v }
  | ("sniff", v) => do pure { c with sniff := ← boolOf v }
  | ("drop", v) => do pure { c with drop := ← boolOf v }
  | ("no_checksum", v) => do pure { c with noChecksum := ← boolOf v }
  | ("passthru", v) => do pure { c with passthru := ← boolOf v }
  | _ => pure c

/-- Member keys in declaration order, for the array form. -/
def keys : List String :=
  ["queue_len", "queue_time_ms", "priority", "layer", "sniff", "drop", "no_checksum", "passthru"]

/-- **Settings from a JSON value**: an object of members or an array of values. -/
def ofJson : Json → Except String Config
  | .obj ms => ms.foldlM setMember {}
  | .arr items =>
    if items.length > keys.length then
      .error (invalidLength items.length "fewer elements in array")
    else (keys.zip items).foldlM setMember {}
  | j => .error (invalidType (.ofJson j) "struct DivertConfig")

end Config

end Diversion
