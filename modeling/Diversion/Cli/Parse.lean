import Diversion.Cli.Spec
import Diversion.Text.Integer

/-!
# `Diversion.Cli.Parse` — reading the command line

Arguments are read left to right. `--name=value` and `-nVALUE` carry their value; `--name`
and `-n` of an option take the next word. A value waits until the next argument is taken,
and is checked then (or at the end), so a bad value is reported only when something after it
has been accepted. Flags may be grouped (`-vh`). After `--` every word is positional.

**Refusals** are usage errors: an unknown argument (with a similar name as a tip, or a hint to
pass it after `--`), a value missing, a value that does not parse, an argument given twice,
a required argument missing. Each names the argument as in help and, for most, the usage
line. A name is similar to another when their Jaro similarity exceeds 0.7.

## Contents
- `jaro`, `similar`.
- `UsageError`, `Halt`, `Exit`.
- `Found`, `Scan`, `parseCommand`.
- `Invocation`, `parseArgs`.
-/

namespace Diversion

namespace Cli

open Text

/-- Matches of `a` against `b` within the Jaro window: which characters of each matched. -/
def jaroFlags (a b : List Char) : Array Bool × Array Bool :=
  let range := max a.length b.length / 2 - 1
  a.zipIdx.foldl (fun (af, bf) (c, i) =>
    let hi := min b.length (i + range + 1)
    match (List.range hi).find? (fun j => i - range ≤ j && b.getD j ' ' == c && !bf.getD j true) with
    | some j => (af.set! i true, bf.set! j true)
    | none => (af, bf)) (Array.replicate a.length false, Array.replicate b.length false)

/-- The matched characters of `s`, in order. -/
def matchedChars (s : List Char) (flags : Array Bool) : List Char :=
  (s.zip flags.toList).filterMap fun (c, f) => if f then some c else none

/-- **Jaro similarity** of two names. -/
def jaro (a b : String) : Float :=
  let a := a.toList
  let b := b.toList
  if a.isEmpty && b.isEmpty then 1
  else if a.isEmpty || b.isEmpty then 0
  else
    let (af, bf) := jaroFlags a b
    let ma := matchedChars a af
    let m := ma.length
    if m = 0 then 0
    else
      let t := (((ma.zip (matchedChars b bf)).filter fun (x, y) => x != y).length) / 2
      let m' := m.toFloat
      (m' / a.length.toFloat + m' / b.length.toFloat + (m - t).toFloat / m') / 3

/-- **The names similar to `s`**, least similar first (ties in the order given). -/
def similar (s : String) (names : List String) : List String :=
  let scored := (names.map fun n => (jaro s n, n)).filter fun p => p.1 > 0.7
  (scored.mergeSort fun p q => p.1 ≤ q.1).map (·.2)

/-- **A usage error**: its message, a similar name (what kind, which names), tips, and the usage
line. -/
structure UsageError where
  message : String
  similarKind : String := ""
  similarNames : List String := []
  tips : List String := []
  usage : Option String := none
  /-- Whether the error ends by pointing at `--help`. -/
  tryHelp : Bool := true
  deriving Repr, Inhabited

/-- The error as printed. -/
def UsageError.text (e : UsageError) : String :=
  let head := "error: " ++ e.message
  let names := ", ".intercalate (e.similarNames.map fun n => "'" ++ n ++ "'")
  let sim := match e.similarNames with
    | [] => ""
    | [_] => "\n\n  tip: a similar " ++ e.similarKind ++ " exists: " ++ names
    | _ => "\n\n  tip: some similar " ++ e.similarKind ++ "s exist: " ++ names
  let tips := if e.tips.isEmpty then ""
    else (if e.similarNames.isEmpty then "\n" else "") ++ String.join (e.tips.map ("\n  tip: " ++ ·))
  let usage := match e.usage with | some u => "\n\nUsage: " ++ u | none => ""
  let more := if e.tryHelp then "\n\nFor more information, try '--help'.\n" else "\n"
  head ++ sim ++ tips ++ usage ++ more

/-- **How the command line ends before any work**. -/
inductive Halt
  /-- Help asked for. -/
  | help (text : String)
  | version
  | error (e : UsageError)
  /-- Nothing given at all: help, as an error. -/
  | bare
  deriving Repr, Inhabited

/-- **What a run ends with**: its exit code and output. -/
structure Exit where
  code : Nat
  stdout : String := ""
  stderr : String := ""
  deriving Repr, Inhabited

/-- The ending a halt gives. -/
def Halt.exit : Halt → Exit
  | .help t => { code := 0, stdout := t }
  | .version => { code := 0, stdout := versionText }
  | .error e => { code := 2, stderr := e.text }
  | .bare => { code := 2, stderr := topSpec.helpText }

/-- Refusal of a missing or empty value. -/
def emptyValue (a : ArgSpec) : Halt :=
  .error { message := "a value is required for '" ++ a.display ++ "' but none was supplied" }

/-- Refusal of a value that does not parse. -/
def badValue (a : ArgSpec) (v reason : String) : Halt :=
  .error { message := "invalid value '" ++ v ++ "' for '" ++ a.display ++ "': " ++ reason }

/-- **Checking a value** against its argument's kind. -/
def checkValue (a : ArgSpec) (v : String) : Except Halt Unit :=
  match a.kind with
  | .text => .ok ()
  | .path => if v.isEmpty then .error (emptyValue a) else .ok ()
  | .u32 =>
    match readInteger true 9223372036854775808 9223372036854775807 v with
    | .error m => .error (badValue a v m)
    | .ok n =>
      if 0 ≤ n && n ≤ 4294967295 then .ok ()
      else .error (badValue a v (toString n ++ " is not in 0..=4294967295"))
  | .usize =>
    match readInteger false 0 18446744073709551615 v with
    | .error m => .error (badValue a v m)
    | .ok _ => .ok ()

/-- **The arguments taken so far**: the ids present, argument groups included, in the order
they were first given (an argument whose value was refused still counts as given), and the
values taken. -/
structure Found where
  present : List String := []
  values : List (String × String) := []
  deriving Repr, Inhabited

namespace Found

/-- Whether the argument was given. -/
def has (f : Found) (id : String) : Bool := f.present.contains id

/-- The argument's value. -/
def get? (f : Found) (id : String) : Option String := (f.values.find? (·.1 == id)).map (·.2)

/-- **Marking an argument given**, and with it the group of the command's own arguments. -/
def start (c : CommandSpec) (f : Found) (a : ArgSpec) : Found :=
  let present := if f.present.contains a.id then f.present else f.present ++ [a.id]
  let present :=
    if c.args.any (·.id == a.id) && !present.contains c.group then present ++ [c.group] else present
  { f with present }

/-- Record an argument's value. -/
def record (f : Found) (id v : String) : Found := { f with values := f.values ++ [(id, v)] }

end Found

/-- **The reading state**: arguments taken, the next positional's index, the argument waiting
for (or holding) its value, and whether `--` was seen. -/
structure Scan where
  found : Found := {}
  pos : Nat := 0
  pending : Option (ArgSpec × List String) := none
  trailing : Bool := false
  deriving Repr, Inhabited

/-- Whether `id` names an argument of the command (not a group). -/
def isArg (c : CommandSpec) (id : String) : Bool := c.allArgs.any (·.id == id)

/-- Whether `id` names a required argument of the command. -/
def isRequired (c : CommandSpec) (id : String) : Bool := c.args.any fun a => a.id == id && a.required

/-- Usage naming the given ids, or the full usage when there are none. -/
def usageFor (c : CommandSpec) (used : List String) : String :=
  if used.isEmpty then c.usage else c.smartUsage used

/-- **Taking an argument** with its values: help and version stop; an option needs a value;
an argument may be given once; it then counts as given, and its value is checked. A refusal
comes with the scan as far as it got. -/
def store (c : CommandSpec) (s : Scan) (a : ArgSpec) (vals : List String) : Except (Halt × Scan) Scan := do
  if a.id = "help" then throw (.help c.helpText, s)
  if a.id = "version" then throw (.version, s)
  if !a.isFlag && vals.isEmpty then throw (emptyValue a, s)
  if s.found.has a.id then
    throw (.error { message := "the argument '" ++ a.display ++ "' cannot be used multiple times",
                    usage := some c.usage }, s)
  let s := { s with found := s.found.start c a }
  match vals.mapM (checkValue a) with
  | .error h => throw (h, s)
  | .ok _ => pure { s with found := s.found.record a.id (if a.isFlag then "true" else vals.headD "") }

/-- A refusal without the scan. -/
def strict (r : Except (Halt × Scan) Scan) : Except Halt Scan := r.mapError (·.1)

/-- Take the waiting argument, if any. -/
def resolve (c : CommandSpec) (s : Scan) : Except (Halt × Scan) Scan :=
  match s.pending with
  | none => .ok s
  | some (a, vals) => store c { s with pending := none } a vals

/-- **Take the waiting argument, a refusal ignored**: what is done before reporting another
error. -/
def settle (c : CommandSpec) (s : Scan) : Scan :=
  match resolve c s with
  | .ok s => s
  | .error (_, s) => s

/-- Take the waiting argument, then the given argument. -/
def react (c : CommandSpec) (s : Scan) (a : ArgSpec) (vals : List String) : Except Halt Scan := do
  strict (store c (← strict (resolve c s)) a vals)

/-- The long names of a command's arguments. -/
def longs (c : CommandSpec) : List String := c.allArgs.filterMap (·.long)

/-- **A similar long name** in this command, or in a subcommand named later on the line. -/
def suggestLong (c : CommandSpec) (name : String) (rest : List String) :
    Option (String × Option String) :=
  match (similar name (longs c)).getLast? with
  | some l => some (l, none)
  | none =>
    if c.path != "divert" then none
    else
      let subs := subcommands.filterMap fun sub =>
        match (similar name (longs sub)).getLast?, rest.idxOf? sub.name with
        | some l, some i => some (i, l, sub.name)
        | _, _ => none
      let best := subs.foldl (fun acc x => match acc with
        | some y => if x.1 < y.1 then some x else some y
        | none => some x) none
      best.map fun (_, l, sub) => (l, some sub)

/-- **An unknown `--name`**: the waiting argument is taken first, and a similar argument
counts as given for the usage line. -/
def unknownLong (c : CommandSpec) (s : Scan) (name : String) (rest : List String) : Halt :=
  let s := settle c s
  let hasPos := !c.positionals.isEmpty
  let arg := "--" ++ name
  let message := "unexpected argument '" ++ arg ++ "' found"
  let usedIn (f : Found) := f.present.filter (isArg c)
  match suggestLong c name rest with
  | some (l, none) =>
    let f := match c.allArgs.find? (·.long == some l) with
      | some a => s.found.start c a
      | none => s.found
    .error { message, similarKind := "argument", similarNames := ["--" ++ l],
             usage := some (usageFor c (usedIn f)) }
  | some (l, some sub) =>
    .error { message, tips := ["'" ++ sub ++ " --" ++ l ++ "' exists"],
             usage := some (usageFor c (usedIn s.found)) }
  | none =>
    let tips := if !s.trailing && hasPos then ["to pass '" ++ arg ++ "' as a value, use '-- " ++ arg ++ "'"]
      else []
    .error { message, tips, usage := some (usageFor c (usedIn s.found)) }

/-- **`--name` or `--name=value`.** A flag given a value is refused; the usage line names what
was given so far but the required arguments, and the flag. -/
def takeLong (c : CommandSpec) (s : Scan) (body : String) (rest : List String) : Except Halt Scan :=
  let (name, value) := match body.splitOn "=" with
    | [n] => (n, none)
    | n :: vs => (n, some ("=".intercalate vs))
    | [] => (body, none)
  match c.allArgs.find? (·.long == some name) with
  | none => .error (unknownLong c s name rest)
  | some a =>
    if a.isFlag then
      match value with
      | none => react c s a []
      | some v =>
        let used := (s.found.present.filter fun id => !isRequired c id) ++ [a.id]
        .error (.error { message := "unexpected value '" ++ v ++ "' for '" ++ a.display ++
                           "' found; no more were expected",
                         usage := some (usageFor c used) })
    else
      match value with
      | some v => react c s a [v]
      | none => do
        let s ← strict (resolve c s)
        pure { s with pending := some (a, []) }

/-- **A group of short names** `-abc`; an option takes the rest of the group as its value. -/
def takeShorts (c : CommandSpec) : List Char → Scan → Except Halt Scan
  | [], s => .ok s
  | ch :: more, s =>
    match c.allArgs.find? (·.short == some ch) with
    | none =>
      let arg := "-" ++ ch.toString
      let tips := if !s.trailing && !c.positionals.isEmpty then
          ["to pass '" ++ arg ++ "' as a value, use '-- " ++ arg ++ "'"] else []
      .error (.error { message := "unexpected argument '" ++ arg ++ "' found", tips,
                       usage := some c.usage })
    | some a =>
      if a.isFlag then do takeShorts c more (← react c s a [])
      else
        match more with
        | [] => do
          let s ← strict (resolve c s)
          pure { s with pending := some (a, []) }
        | '=' :: v => react c s a [String.ofList v]
        | v => react c s a [String.ofList v]

/-- **A plain word**: the value of a waiting option, else the next positional, which waits
for the next argument to be taken. -/
def takeWord (c : CommandSpec) (s : Scan) (w : String) : Except Halt Scan :=
  match s.pending with
  | some (a, []) =>
    if s.trailing || a.positional then positional else .ok { s with pending := some (a, [w]) }
  | _ => positional
where
  positional : Except Halt Scan :=
    match c.positionals[s.pos]? with
    | some a => do
      let s ← strict (resolve c s)
      pure { s with pending := some (a, [w]), pos := s.pos + 1 }
    | none =>
      .error (.error { message := "unexpected argument '" ++ w ++ "' found", usage := some c.usage })

/-- **Reading a command's arguments** up to the end of the line. -/
def scan (c : CommandSpec) : List String → Scan → Except Halt Scan
  | [], s => .ok s
  | w :: rest, s =>
    if s.trailing then do scan c rest (← takeWord c s w)
    else if w = "--" then scan c rest { s with trailing := true }
    else if w.startsWith "--" then do scan c rest (← takeLong c s (w.drop 2).toString rest)
    else if w.startsWith "-" && w.length > 1 then do scan c rest (← takeShorts c (w.drop 1).toString.toList s)
    else do scan c rest (← takeWord c s w)

/-- **The missing required arguments**: options first, then positionals. -/
def missing (c : CommandSpec) (f : Found) : List ArgSpec :=
  let absent := c.args.filter fun a => a.required && !f.has a.id
  absent.filter (!·.positional) ++ absent.filter (·.positional)

/-- **Reading a subcommand's arguments**, then checking nothing required is missing and
filling in defaults. -/
def parseCommand (c : CommandSpec) (words : List String) : Except Halt Found := do
  let s ← scan c words {}
  let s ← strict (resolve c s)
  match missing c s.found with
  | [] =>
    let defaults := c.args.filterMap fun a =>
      match a.default with
      | some d => if s.found.has a.id then none else some (a.id, d)
      | none => none
    pure { s.found with values := s.found.values ++ defaults }
  | absent =>
    let given := s.found.present.filter fun id => isArg c id && !isRequired c id
    throw (.error {
      message := "the following required arguments were not provided:" ++
        String.join (absent.map fun a => "\n  " ++ a.display)
      usage := some (c.smartUsage (given ++ absent.map (·.id))) })

/-- **What the command line asks for.** -/
inductive Invocation
  | encode (rules output : String)
  | analyze (rules layer : String)
  | check (rules packet : String) (outbound : Bool) (ifIdx subIfIdx : Nat)
  | replay (rules packets : String) (config : Option String) (maxLen : Nat)
  deriving Repr, Inhabited

/-- A checked number's value. -/
def Found.nat (f : Found) (id : String) : Nat :=
  match f.get? id with
  | some v => match readInteger false 0 18446744073709551615 v with
    | .ok n => n.toNat
    | .error _ => 0
  | none => 0

/-- The invocation a subcommand's arguments make. -/
def invocation (name : String) (f : Found) : Invocation :=
  let text id := (f.get? id).getD ""
  match name with
  | "encode" => .encode (text "rules") (text "output")
  | "analyze" => .analyze (text "rules") (text "layer")
  | "check" => .check (text "rules") (text "packet") (f.has "outbound") (f.nat "if_idx") (f.nat "sub_if_idx")
  | _ => .replay (text "rules") (text "packets") (f.get? "config") (f.nat "max_len")

/-- The subcommand named `n`. -/
def subcommand? (n : String) : Option CommandSpec := subcommands.find? (·.name == n)

/-- The help text of the `help` subcommand. -/
def helpHelp : String :=
  helpAbout ++ "\n\nUsage: divert help [COMMAND]...\n\nArguments:\n  [COMMAND]...  Print help for the subcommand(s)\n"

/-- Refusal of an unknown subcommand name. -/
def unrecognized (w usage : String) : Halt :=
  .error { message := "unrecognized subcommand '" ++ w ++ "'", usage := some usage }

/-- Refusal of a subcommand name close to known ones. -/
def misspelled (w : String) (names : List String) : Halt :=
  .error { message := "unrecognized subcommand '" ++ w ++ "'", similarKind := "subcommand",
           similarNames := names, usage := some topSpec.usage }

/-- **`help` with subcommand names**: the help of the one named. Every word after `help` is a
name, so a further name is looked up among the subcommands of the one before; `help` itself
has none, and its own refusals do not point at `--help`. -/
def helpFor : List String → Except Halt Invocation
  | [] => .error (.help topSpec.helpText)
  | ["help"] => .error (.help helpHelp)
  | "help" :: w :: _ =>
    .error (.error { message := "unrecognized subcommand '" ++ w ++ "'",
                     usage := some "divert help [COMMAND]...", tryHelp := false })
  | n :: rest =>
    match subcommand? n with
    | none => .error (unrecognized n topSpec.usage)
    | some c =>
      match rest with
      | [] => .error (.help c.helpText)
      | w :: _ => .error (unrecognized w c.usage)

/-- Refusal of a subcommand name given after `--`, where only values may follow. -/
def afterDashes (w : String) : Halt :=
  .error { message := "unexpected argument '" ++ w ++ "' found",
           tips := ["subcommand '" ++ w ++ "' exists; to use it, remove the '--' before it"],
           usage := some topSpec.usage }

/-- Names of all subcommands, `help` last. -/
def commandNames : List String := subcommands.map (·.name) ++ ["help"]

/-- **Reading the top level** up to the subcommand. -/
def scanTop : List String → Scan → Except Halt Invocation
  | [], s =>
    if s.found.present.isEmpty then .error .bare
    else .error (.error {
      message := "'divert' requires a subcommand but one was not provided\n  [subcommands: " ++
        ", ".intercalate commandNames ++ "]"
      usage := some topSpec.usage })
  | w :: rest, s =>
    if !s.trailing && w = "--" then scanTop rest { s with trailing := true }
    else if !s.trailing && w.startsWith "--" then do scanTop rest (← takeLong topSpec s (w.drop 2).toString rest)
    else if !s.trailing && w.startsWith "-" && w.length > 1 then do
      scanTop rest (← takeShorts topSpec (w.drop 1).toString.toList s)
    else if w = "help" && !s.trailing then helpFor rest
    else
      match subcommand? w with
      | some c => if s.trailing then .error (afterDashes w)
        else (parseCommand c rest).map (invocation c.name)
      | none =>
        if s.trailing && w = "help" then .error (afterDashes w) else
        match similar w commandNames with
        | [] => .error (unrecognized w topSpec.usage)
        | names => .error (misspelled w names)

/-- **Reading the command line** (without the program name). -/
def parseArgs (args : List String) : Except Halt Invocation := scanTop args {}

end Cli

end Diversion
