import Diversion.Config
import Diversion.Toml
import Diversion.Disk
import Diversion.Report
import Diversion.Text.Integer
import Diversion.Text.Unicode

/-!
# `Diversion.Config.Sources` — settings from a file and the environment

Settings are gathered into one table from two layers: an optional TOML file, then the
environment variables whose names begin with `DIVERT_` (in any case), which override the
file. A variable's name is taken in lower case without the prefix; a file's keys are taken as
written, so only lowercase keys name settings. Unknown keys are ignored.

**Keys are paths.** A top-level key is read as a name followed by `.name` and `[index]` parts
(names of letters, digits, spaces, `_` and `-`); a key that does not read so is one name.
Setting a path makes what it passes through: a slot that must hold a name becomes a table, a
slot that must hold an index becomes an array padded with nothing. A table value is merged
into the table already there, key by key; any other value replaces. So `"queue_len.x" = 5`
makes `queue_len` a table. Tables, and whatever was made only to hold a key, come from no
layer; everything else remembers its layer for complaints.

The file is found by its exact name, else by that name with `.toml` added. An environment
value is taken as a boolean (`true`/`false` in any case), else a 64-bit integer, else a
float, else text.

**Conversion** is lenient. A signed setting accepts booleans (0 or 1), floats (rounded half
away from zero, saturating) and text (`true`/`on`/`yes` for 1, `false`/`off`/`no` for 0, in any
case, or a decimal integer). An unsigned setting does the same but refuses a negative
integer, and a float saturates at zero. A flag accepts numbers (non-zero is on) and text
(`1`/`true`/`on`/`yes`, `0`/`false`/`off`/`no`, in any case; the complaint shows the text in
lower case). The layer is its exact name, or a table whose one key is the exact name.

A failure to gather or convert is reported with the complaint twice, the second time as the
cause of the first; the settings' own checks come last.

## Contents
- `Setting`, `KeyPath`, `KeyPath.ofKey`, `Setting.setPath`.
- `LoadError`.
- `envSetting`, `fileSettings`, `envSettings`.
- `settingInt`, `settingU64`, `settingBool`, `layerOfSetting`.
- `Config.ofSettings`, `Config.load`.
-/

namespace Diversion

/-- **A settings value**, with the layer it came from where it has one. -/
inductive Setting
  /-- Nothing: what pads an array. -/
  | nil
  | boolean (origin : Option String) (b : Bool)
  | integer (origin : Option String) (i : Int)
  | float (origin : Option String) (f : Float)
  | string (origin : Option String) (s : String)
  | table (entries : List (String × Setting))
  | array (origin : Option String) (items : List Setting)
  deriving Inhabited

namespace Setting

/-- The layer a value came from. -/
def origin : Setting → Option String
  | .nil => none
  | .boolean o _ => o
  | .integer o _ => o
  | .float o _ => o
  | .string o _ => o
  | .table _ => none
  | .array o _ => o

/-- The entries of a table; none for anything else. -/
def entries : Setting → List (String × Setting)
  | .table es => es
  | _ => []

/-- The value under `k` among entries. -/
def lookup (k : String) (es : List (String × Setting)) : Option Setting :=
  (es.find? (·.1 == k)).map (·.2)

/-- Entries with `k` set to `v`: in place if present, else added at the end. -/
def put (k : String) (v : Setting) (es : List (String × Setting)) : List (String × Setting) :=
  if es.any (·.1 == k) then es.map fun e => if e.1 = k then (k, v) else e else es ++ [(k, v)]

/-- **Setting a name** in a table (a value that is no table becomes an empty one first): a
table value is merged key by key into what is there, any other value replaces it. -/
def setName : Nat → String → Setting → Setting → Setting
  | 0, _, _, root => root
  | fuel + 1, k, v, root =>
    let es := root.entries
    match v with
    | .table incoming =>
      let target := (lookup k es).getD (.table [])
      .table (put k (incoming.foldl (fun t (k2, v2) => setName fuel k2 v2 t) target) es)
    | _ => .table (put k v es)

/-- The position an index names in an array of `len` items: from the end when negative, none
when that is before the start. -/
def slot (len : Nat) (i : Int) : Option Nat :=
  if 0 ≤ i then some i.toNat
  else if i.natAbs ≤ len then some (len - i.natAbs)
  else none

/-- Items padded with nothing to at least `n`. -/
def pad (items : List Setting) (n : Nat) : List Setting :=
  items ++ List.replicate (n - items.length) .nil

/-- The item at an index set by `f`, the array padded as needed; an array made here comes from
no layer. -/
def atIndex (i : Int) (f : Setting → Setting) (v : Setting) : Setting :=
  let (o, items) := match v with
    | .array o items => (o, items)
    | _ => (none, [])
  match slot items.length i with
  | some j =>
    let items := pad items (j + 1)
    .array o (items.set j (f (items.getD j .nil)))
  | none => v

end Setting

/-- **A key read as a path**: a name, a name inside what a path reaches, or an index into it. -/
inductive KeyPath
  | name (n : String)
  | child (p : KeyPath) (n : String)
  | index (p : KeyPath) (i : Int)
  deriving Repr, Inhabited

namespace KeyPath

/-- Characters a name is made of. -/
def nameChar (c : Char) : Bool :=
  (c.isAlphanum && c.toNat < 128) || c = ' ' || c = '_' || c = '-'

/-- A name at the front: one or more name characters. -/
def readName (cs : List Char) : Option (String × List Char) :=
  let n := cs.takeWhile nameChar
  if n.isEmpty then none else some (String.ofList n, cs.dropWhile nameChar)

/-- An index at the front: blanks, an optional minus, digits, blanks; it must fit in 64 bits. -/
def readIndex (cs : List Char) : Option (Int × List Char) :=
  let blank (c : Char) : Bool := c = ' ' || c = '\t'
  let cs := cs.dropWhile blank
  let (neg, cs) := match cs with
    | '-' :: r => (true, r)
    | r => (false, r)
  let ds := cs.takeWhile Char.isDigit
  let n : Nat := ds.foldl (fun acc d => acc * 10 + (d.toNat - 48)) 0
  let v : Int := if neg then -(n : Int) else n
  if ds.isEmpty || v < -9223372036854775808 || v > 9223372036854775807 then none
  else some (v, (cs.dropWhile Char.isDigit).dropWhile blank)

/-- One part after the first name: `.name` or `[index]`. -/
def readPart (p : KeyPath) : List Char → Option (KeyPath × List Char)
  | '.' :: rest => (readName rest).map fun (n, r) => (.child p n, r)
  | '[' :: rest =>
    match readIndex rest with
    | some (i, ']' :: r) => some (.index p i, r)
    | _ => none
  | _ => none

/-- Parts until the end of the key, at most `fuel` of them. -/
def readParts (p : KeyPath) : List Char → Nat → Option KeyPath
  | [], _ => some p
  | _, 0 => none
  | cs, fuel + 1 =>
    match readPart p cs with
    | some (p, rest) => readParts p rest fuel
    | none => none

/-- **A key as a path**; a key that does not read as one is a single name. -/
def ofKey (k : String) : KeyPath :=
  let cs := k.toList
  let parsed := match readName cs with
    | some (n, rest) => readParts (.name n) rest cs.length
    | none => none
  parsed.getD (.name k)

/-- **Reaching the slot a path names**, making what is missing (a missing key holds nothing,
a slot that must hold a name becomes a table, one that must hold an index an array), and
changing it by `f`. The settings themselves must be a table. -/
def modify (f : Setting → Setting) : KeyPath → Setting → Setting
  | .name n, root =>
    match root with
    | .table es => .table (Setting.put n (f ((Setting.lookup n es).getD .nil)) es)
    | other => other
  | .child p n, root =>
    modify (fun v =>
      let es := v.entries
      .table (Setting.put n (f ((Setting.lookup n es).getD .nil)) es)) p root
  | .index p i, root => modify (Setting.atIndex i f) p root

end KeyPath

/-- How deep a merge of settings may go. -/
def mergeDepth : Nat := 10000

/-- **Setting a path** of the settings to a value. -/
def Setting.setPath : KeyPath → Setting → Setting → Setting
  | .name n, v, root => Setting.setName mergeDepth n v root
  | .child p n, v, root => p.modify (Setting.setName mergeDepth n v) root
  | .index p i, v, root => p.modify (Setting.atIndex i fun _ => v) root

/-- **Setting a top-level key**, read as a path. -/
def Setting.setKey (root : Setting) (k : String) (v : Setting) : Setting :=
  Setting.setPath (KeyPath.ofKey k) v root

/-- **Why settings could not be gathered or converted.** -/
inductive LoadError
  | missingFile (name : String)
  | unreadable (e : IoError)
  /-- The file is no TOML document: the complaint and the file's name. -/
  | malformed (complaint uri : String)
  /-- A value of the wrong kind: its layer, what it was, what was wanted, for which key. -/
  | wrongType (origin : Option String) (found expected key : String)
  | message (m : String)
  deriving Repr, Inhabited

/-- The complaint's text. -/
def LoadError.text : LoadError → String
  | .missingFile n => "configuration file \"" ++ n ++ "\" not found"
  | .unreadable e => e.text
  | .malformed c uri => c ++ " in " ++ uri
  | .wrongType o found expected key =>
    "invalid type: " ++ found ++ ", expected " ++ expected ++ " for key `" ++ key ++ "`" ++
      (match o with | some o => " in " ++ o | none => "")
  | .message m => m

/-! ## Reading values -/

/-- `n` decimal digits from the front of `cs`, and the rest. -/
def spanDigits (cs : List Char) : List Char × List Char := (cs.takeWhile Char.isDigit, cs.dropWhile Char.isDigit)

/-- **A float written in decimal**: a sign, digits with an optional fraction (at least one
digit in all), an optional exponent; or `inf`, `infinity`, `nan` in any case. Too large a
value is infinite. -/
def readFloat? (s : String) : Option Float :=
  let (neg, body) := match s.toList with
    | '+' :: r => (false, r)
    | '-' :: r => (true, r)
    | r => (false, r)
  let sign (f : Float) : Float := if neg then -f else f
  let word := (String.ofList body).toLower
  if word = "inf" || word = "infinity" then some (sign (Float.ofScientific 1 false 400))
  else if word = "nan" then some (0.0 / 0.0)
  else
    let (ints, rest) := spanDigits body
    let (fracs, rest) := match rest with
      | '.' :: r => spanDigits r
      | r => ([], r)
    if ints.isEmpty && fracs.isEmpty then none
    else
      let exp : Option Int := match rest with
        | [] => some 0
        | e :: r =>
          if e = 'e' || e = 'E' then
            let (eneg, r) := match r with
              | '+' :: q => (false, q)
              | '-' :: q => (true, q)
              | q => (false, q)
            if r.isEmpty || !r.all Char.isDigit then none
            else
              let n : Int := r.foldl (fun acc d => acc * 10 + (d.toNat - 48)) 0
              some (if eneg then -n else n)
          else none
      match exp with
      | none => none
      | some e =>
        match Toml.decimalValue neg (ints ++ fracs) (e - fracs.length) with
        | some f => some f
        | none => some (sign (Float.ofScientific 1 false 400))

/-- The layer name of the environment. -/
def environmentOrigin : String := "the environment"

/-- **An environment value**: boolean, else integer, else float, else text. -/
def envSetting (v : String) : Setting :=
  let o := some environmentOrigin
  let lower := Text.toLowerFull v
  if lower = "true" then .boolean o true
  else if lower = "false" then .boolean o false
  else match Text.readI64 v with
    | .ok i => .integer o i
    | .error _ =>
      match readFloat? v with
      | some f => .float o f
      | none => .string o v

/-- **A TOML value as a setting** of the file `uri`; its tables come from no layer. -/
def settingOfToml (uri : String) : Nat → Toml.Value → Setting
  | 0, _ => .nil
  | fuel + 1, v =>
    let o := some uri
    match v with
    | .string s => .string o s
    | .integer i => .integer o i
    | .float f => .float o f
    | .boolean b => .boolean o b
    | .datetime t => .string o t
    | .array items => .array o (items.map (settingOfToml uri fuel))
    | .table es => .table (es.map fun (k, x) => (k, settingOfToml uri fuel x))

/-- **The file's settings** set into `root`: the file found by name or with `.toml` added,
read, and each top-level key set as a path. -/
def fileSettings (disk : Disk) (name : String) (root : Setting) : Except LoadError Setting := do
  let found := match disk.fileAt? name with
    | some n => some n
    | none => (tomlVariant name).bind disk.fileAt?
  let some file := found | throw (.missingFile name)
  let text ← (disk.readText file).mapError .unreadable
  let entries ← (Toml.parse text).mapError fun e => .malformed (e.text text) file
  pure (entries.foldl (fun acc (k, v) => acc.setKey k (settingOfToml file mergeDepth v)) root)

/-- **The environment's settings** set into `root`: each variable with the prefix, its name in
lower case without it, set as a path. -/
def envSettings (env : List (String × String)) (root : Setting) : Setting :=
  env.foldl (fun acc (k, v) =>
    let key := Text.toLowerFull k
    if key.startsWith "divert_" then acc.setKey (key.drop 7).toString (envSetting v) else acc) root

/-! ## Converting values -/

/-- How a complaint names a value of the wrong kind. -/
def foundText : Setting → String
  | .nil => "unit value"
  | .boolean _ b => "boolean `" ++ toString b ++ "`"
  | .integer _ i => "integer 64 bit `" ++ toString i ++ "`"
  | .float _ f => "floating point `" ++ Decimal.plainText f ++ "`"
  | .string _ s => "string " ++ Json.debugQuote s
  | .table _ => "map"
  | .array _ _ => "sequence"

/-- A double rounded half away from zero to a 64-bit integer, saturating; `NaN` is 0. -/
def roundToI64 (f : Float) : Int :=
  if f.isNaN then 0 else f.round.toInt64.toInt

/-- A double rounded half away from zero to an unsigned 64-bit integer, saturating; `NaN` is 0. -/
def roundToU64 (f : Float) : Nat :=
  if f.isNaN then 0 else f.round.toUInt64.toNat

/-- The number a word stands for: 1 for `true`/`on`/`yes`, 0 for `false`/`off`/`no`, in any
case. -/
def wordNumber? (s : String) : Option Nat :=
  let lower := Text.toLowerFull s
  if lower = "true" || lower = "on" || lower = "yes" then some 1
  else if lower = "false" || lower = "off" || lower = "no" then some 0
  else none

/-- **A signed integer setting.** -/
def settingInt (key : String) : Setting → Except LoadError Int
  | .boolean _ b => .ok (if b then 1 else 0)
  | .integer _ i => .ok i
  | .float _ f => .ok (roundToI64 f)
  | .string o s =>
    match wordNumber? s with
    | some n => .ok n
    | none =>
      match Text.readI64 s with
      | .ok i => .ok i
      | .error _ => .error (.wrongType o (foundText (.string o s)) "an integer" key)
  | v => .error (.wrongType v.origin (foundText v) "an integer" key)

/-- **An unsigned 64-bit setting**: a negative integer is refused. -/
def settingU64 (key : String) : Setting → Except LoadError Nat
  | .boolean _ b => .ok (if b then 1 else 0)
  | .integer o i =>
    if i < 0 then
      .error (.wrongType o (foundText (.integer o i)) "an unsigned 64 bit or less integer" key)
    else .ok i.toNat
  | .float _ f => .ok (roundToU64 f)
  | .string o s =>
    match wordNumber? s with
    | some n => .ok n
    | none =>
      match Text.readInteger false 0 18446744073709551615 s with
      | .ok n => .ok n.toNat
      | .error _ => .error (.wrongType o (foundText (.string o s)) "an integer" key)
  | v => .error (.wrongType v.origin (foundText v) "an integer" key)

/-- **A flag setting**; text is compared, and shown in a complaint, in lower case. -/
def settingBool (key : String) : Setting → Except LoadError Bool
  | .boolean _ b => .ok b
  | .integer _ i => .ok (i != 0)
  | .float _ f => .ok (f != 0.0)
  | .string o s =>
    let lower := Text.toLowerFull s
    if lower = "1" || lower = "true" || lower = "on" || lower = "yes" then .ok true
    else if lower = "0" || lower = "false" || lower = "off" || lower = "no" then .ok false
    else .error (.wrongType o (foundText (.string o lower)) "a boolean" key)
  | v => .error (.wrongType v.origin (foundText v) "a boolean" key)

/-- The layer with exactly the given name. -/
def layerNamedExactly (n : String) : Except LoadError Layer :=
  if n = "network" then .ok .network
  else if n = "network_forward" then .ok .networkForward
  else .error (.message ("enum Layer does not have variant constructor " ++ n))

/-- **The layer setting**: a name, or a table with the name as its one key. -/
def layerOfSetting : Setting → Except LoadError Layer
  | .string _ s => layerNamedExactly s
  | .table [(k, _)] => layerNamedExactly k
  | _ => .error (.message "value of enum Layer should be represented by either string or table with exactly one key")

namespace Config

/-- **One setting applied**; unknown keys change nothing. -/
def applySetting (c : Config) : String × Setting → Except LoadError Config
  | ("queue_len", v) => do pure { c with queueLen := ← settingU64 "queue_len" v }
  | ("queue_time_ms", v) => do pure { c with queueTimeMs := ← settingU64 "queue_time_ms" v }
  | ("priority", v) => do pure { c with priority := ← settingInt "priority" v }
  | ("layer", v) => do pure { c with layer := ← layerOfSetting v }
  | ("sniff", v) => do pure { c with sniff := ← settingBool "sniff" v }
  | ("drop", v) => do pure { c with drop := ← settingBool "drop" v }
  | ("no_checksum", v) => do pure { c with noChecksum := ← settingBool "no_checksum" v }
  | ("passthru", v) => do pure { c with passthru := ← settingBool "passthru" v }
  | _ => pure c

/-- **Settings from gathered values**, defaults for the rest. -/
def ofSettings (entries : List (String × Setting)) : Except LoadError Config :=
  entries.foldlM applySetting {}

/-- What loading settings is reported as. -/
def loadContext : String := "Failed to load configuration"

/-- **Loading settings** from an optional file on `disk` and the environment, then checking
them. -/
def load (disk : Disk) (file : Option String) (env : List (String × String)) : Except Report Config := do
  let gathered : Except LoadError Config := do
    let root ← match file with
      | some f => fileSettings disk f (.table [])
      | none => pure (.table [])
    ofSettings (envSettings env root).entries
  match gathered with
  | .error e => throw ⟨[loadContext, (Error.config e.text).message, e.text]⟩
  | .ok cfg =>
    match cfg.validate with
    | .error err => throw ⟨[loadContext, err.message]⟩
    | .ok () => pure cfg

end Config

end Diversion
