/-!
# `Diversion.Cli.Spec` — the command line's shape and its help

The `divert` command takes a global `--verbose` flag and one of four subcommands (plus
`help`). Each argument is a positional, an option taking one value, or a flag; it has a help
line, maybe a default, and the kind of value it takes.

Help text lists the arguments in columns. Options are listed by display order (their
position among the options of their command; the global flag keeps its order from the top
command), ties broken by their short name, then their long name; the help flag comes last.
Usage lines name the required arguments and stand for the rest with `[OPTIONS]`.

## Contents
- `ValueKind`, `ArgSpec`, `CommandSpec`, `divertSpec`.
- `ArgSpec.display`, `CommandSpec.usage`, `CommandSpec.smartUsage`, `CommandSpec.helpText`.
- `CommandSpec.group`: every command's own arguments form a group, written `<A|B|...>`.
-/

namespace Diversion

namespace Cli

/-- **What a value must look like.** -/
inductive ValueKind
  /-- A file name: any text but the empty one. -/
  | path
  /-- Any text. -/
  | text
  /-- A decimal number in `0..=4294967295`. -/
  | u32
  /-- A decimal machine-size unsigned number. -/
  | usize
  deriving DecidableEq, Repr, Inhabited

/-- **One argument of a command.** -/
structure ArgSpec where
  id : String
  short : Option Char := none
  long : Option String := none
  /-- The value's placeholder; `none` for flags. -/
  valueName : Option String := none
  positional : Bool := false
  help : String
  required : Bool := false
  default : Option String := none
  kind : ValueKind := .text
  /-- Display order among options. -/
  order : Nat := 0
  deriving DecidableEq, Repr, Inhabited

namespace ArgSpec

/-- Whether the argument is a flag (takes no value). -/
def isFlag (a : ArgSpec) : Bool := !a.positional && a.valueName.isNone

/-- **The argument as errors name it**: `--long <VALUE>`, `--flag`, `<VALUE>`. -/
def display (a : ArgSpec) : String :=
  let v := match a.valueName with | some n => "<" ++ n ++ ">" | none => ""
  if a.positional then v
  else
    let name := match a.long, a.short with
      | some l, _ => "--" ++ l
      | none, some s => "-" ++ s.toString
      | none, none => a.id
    if v.isEmpty then name else name ++ " " ++ v

/-- The argument's column in help: short and long names and the placeholder. -/
def helpSpec (a : ArgSpec) : String :=
  let v := match a.valueName with | some n => " <" ++ n ++ ">" | none => ""
  if a.positional then (a.valueName.map fun n => "<" ++ n ++ ">").getD a.id
  else
    let s := match a.short with | some c => "-" ++ c.toString ++ ", " | none => "    "
    let l := match a.long with | some l => "--" ++ l | none => ""
    s ++ l ++ v

/-- Sort key of an option in help: its short name (lowercase first), else its long name. -/
def sortKey (a : ArgSpec) : String :=
  match a.short with
  | some c => c.toLower.toString ++ (if c.isLower then "0" else "1")
  | none => a.long.getD ("\x7b" ++ a.id)

end ArgSpec

/-- **A command**: its name as typed after `divert`, its one-line description, its
arguments in declaration order. -/
structure CommandSpec where
  name : String
  path : String
  about : String
  args : List ArgSpec
  /-- The group the command's own arguments form; it counts as given with any of them. -/
  group : String
  deriving Repr, Inhabited

/-- The global verbosity flag. -/
def verboseArg : ArgSpec :=
  { id := "verbose", short := some 'v', long := some "verbose", help := "Sets the level of verbosity" }

/-- The help flag every command has. -/
def helpArg : ArgSpec :=
  { id := "help", short := some 'h', long := some "help", help := "Print help", order := 999 }

/-- The version flag of the top command. -/
def versionArg : ArgSpec :=
  { id := "version", short := some 'V', long := some "version", help := "Print version", order := 999 }

/-- The rule-list positional. -/
def rulesArg (help : String) : ArgSpec :=
  { id := "rules", positional := true, valueName := some "RULES", help, required := true, kind := .path }

/-- Description of rule-list arguments that may be binary. -/
def rulesHelp : String := "Rule list (JSON, or binary with a .bin extension)"

/-- **The subcommands.** -/
def subcommands : List CommandSpec := [
  { name := "encode", path := "divert encode", group := "Encode",
    about := "Encode a JSON rule list into the binary wire format",
    args := [rulesArg "JSON rule list",
      { id := "output", short := some 'o', long := some "output", valueName := some "OUTPUT",
        help := "Output file for the encoded records", required := true, kind := .path }] },
  { name := "analyze", path := "divert analyze", group := "Analyze",
    about := "Compile a rule list and show the program and its hook plan",
    args := [rulesArg rulesHelp,
      { id := "layer", long := some "layer", valueName := some "LAYER",
        help := "Layer to plan hooks for", default := some "network" }] },
  { name := "check", path := "divert check", group := "Check",
    about := "Evaluate a rule list against a single packet",
    args := [rulesArg rulesHelp,
      { id := "packet", short := some 'p', long := some "packet", valueName := some "PACKET",
        help := "Packet bytes in hex", required := true },
      { id := "outbound", long := some "outbound",
        help := "Treat the packet as outbound (default inbound)", order := 1 },
      { id := "if_idx", long := some "if-idx", valueName := some "IF_IDX",
        help := "Interface index the packet arrived on", default := some "0", kind := .u32, order := 2 },
      { id := "sub_if_idx", long := some "sub-if-idx", valueName := some "SUB_IF_IDX",
        help := "Sub-interface index the packet arrived on", default := some "0", kind := .u32,
        order := 3 }] },
  { name := "replay", path := "divert replay", group := "Replay",
    about := "Run packets from a file through a diversion context",
    args := [rulesArg rulesHelp,
      { id := "packets", short := some 'p', long := some "packets", valueName := some "PACKETS",
        help := "File of `in|out <hex>` lines", required := true, kind := .path },
      { id := "config", short := some 'c', long := some "config", valueName := some "CONFIG",
        help := "Context configuration (TOML)", kind := .path, order := 1 },
      { id := "max_len", long := some "max-len", valueName := some "MAX_LEN",
        help := "Reader buffer size", default := some "65535", kind := .usize, order := 2 }] }]

/-- Description of the `help` subcommand. -/
def helpAbout : String := "Print this message or the help of the given subcommand(s)"

/-- The program's description. -/
def programAbout : String :=
  "Command-line interface for the rust-divert filter engine and diversion queue"

/-- The program's name and version. -/
def versionText : String := "divert 0.1.0\n"

/-- The top command: its own arguments. -/
def topSpec : CommandSpec :=
  { name := "divert", path := "divert", about := programAbout, args := [verboseArg], group := "Cli" }

namespace CommandSpec

/-- All arguments the command accepts, the global flag and the help flag included. -/
def allArgs (c : CommandSpec) : List ArgSpec :=
  if c.path = "divert" then c.args ++ [helpArg, versionArg] else c.args ++ [verboseArg, helpArg]

/-- The positionals in order. -/
def positionals (c : CommandSpec) : List ArgSpec := c.args.filter (·.positional)

/-- The options and flags, in help order. -/
def options (c : CommandSpec) : List ArgSpec :=
  let opts := c.allArgs.filter (!·.positional)
  opts.mergeSort fun a b => a.order < b.order || (a.order = b.order && decide (a.sortKey ≤ b.sortKey))

/-- How a positional is written in usage: `<X>` when required, `[X]` otherwise. -/
def positionalUsage (a : ArgSpec) : String :=
  let n := a.valueName.getD a.id
  if a.required then "<" ++ n ++ ">" else "[" ++ n ++ "]"

/-- **The usage line** of help and of most errors. -/
def usage (c : CommandSpec) : String :=
  if c.path = "divert" then "divert [OPTIONS] <COMMAND>"
  else
    let reqOpts := (c.args.filter fun a => !a.positional && a.required).map ArgSpec.display
    let pos := c.positionals.map positionalUsage
    " ".intercalate ([c.path, "[OPTIONS]"] ++ reqOpts ++ pos)

/-- **The group as usage writes it**: its members between `<` and `>`, separated by `|`, a
positional by its bare placeholder. -/
def groupUsage (c : CommandSpec) : String :=
  let member (a : ArgSpec) : String :=
    if a.positional then a.valueName.getD a.id else a.display
  "<" ++ "|".intercalate (c.args.map member) ++ ">"

/-- **The required part of a usage line** for the given ids: the required arguments and then
the given ones, options first (each once, in that order), then the group if it was given,
then the positionals by position; the group stands for its members. -/
def requiredUsage (c : CommandSpec) (used : List String) : List String :=
  let wanted := (c.args.filter (·.required)).map (·.id) ++ used
  let grouped := wanted.contains c.group
  let args := wanted.filterMap fun id => c.allArgs.find? (·.id == id)
  let args := if grouped then args.filter fun a => !c.args.any (·.id == a.id) else args
  let opts := ((args.filter (!·.positional)).map ArgSpec.display).eraseDups
  let pos := c.positionals.filter fun p => args.any (·.id == p.id)
  opts ++ (if grouped then [c.groupUsage] else []) ++ pos.map fun p => "<" ++ p.valueName.getD p.id ++ ">"

/-- **The usage line naming what was given**: the required part for those ids, and the
subcommand placeholder for the top command. -/
def smartUsage (c : CommandSpec) (used : List String) : String :=
  let tail := if c.path = "divert" then ["<COMMAND>"] else []
  " ".intercalate ([c.path] ++ c.requiredUsage used ++ tail)

/-- `s` padded with spaces to `width`. -/
def pad (s : String) (width : Nat) : String :=
  s ++ String.ofList (List.replicate (width - s.length) ' ')

/-- A help section: each line's first column padded to the widest. -/
def columns (rows : List (String × String)) : String :=
  let width := rows.foldl (fun w r => max w r.1.length) 0
  String.join (rows.map fun (l, r) => "  " ++ pad l width ++ "  " ++ r ++ "\n")

/-- An argument's help with its default. -/
def argHelp (a : ArgSpec) : String :=
  match a.default with
  | some d => a.help ++ " [default: " ++ d ++ "]"
  | none => a.help

/-- **The help text** of a command. -/
def helpText (c : CommandSpec) : String :=
  let opts := columns (c.options.map fun a => (a.helpSpec, argHelp a))
  if c.path = "divert" then
    let cmds := columns (subcommands.map (fun s => (s.name, s.about)) ++ [("help", helpAbout)])
    c.about ++ "\n\nUsage: " ++ c.usage ++ "\n\nCommands:\n" ++ cmds ++ "\nOptions:\n" ++ opts
  else
    let pos := columns (c.positionals.map fun a => (a.helpSpec, argHelp a))
    c.about ++ "\n\nUsage: " ++ c.usage ++ "\n\nArguments:\n" ++ pos ++ "\nOptions:\n" ++ opts

end CommandSpec

end Cli

end Diversion
