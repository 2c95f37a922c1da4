import Diversion.Cli.Parse
import Diversion.Config.Sources
import Diversion.Rule.List
import Diversion.Context
import Diversion.Filter.Eval
import Diversion.Text.Hex

/-!
# `Diversion.Cli.Run` — the commands

Each command works on a directory of files and an environment and ends with an exit code and
its output; a failing command prints a report of what it was doing and why it failed, and
exits with 1.

- `encode` reads a JSON rule list, checks that it compiles, writes the records and says how
  many rules and bytes it wrote.
- `analyze` compiles a rule list (JSON, or records in a `.bin` file) and prints the program,
  what the analysis allows and the hooks a handle at the chosen layer would use.
- `check` evaluates a rule list against one packet given in hex.
- `replay` opens a handle with settings from a file and the environment, runs the rule list,
  classifies the packets of a file (`in` or `out`, then hex, one per line; blank lines and
  `#` comments skipped) as arriving on interface 1.0, reads back every queued packet, and
  prints a summary of the counters.

## Contents
- `loadWire`, `compileRules`, `parseLayer`, `parsePacketLine`, `loadPackets`.
- `encode`, `analyzeRules`, `checkPacket`, `replay`.
- `run`: a whole command line.
-/

namespace Diversion

namespace Cli

/-- **A section header**: a blank line, the title, and a rule as long as the title. -/
def header (title : String) : String :=
  "\n" ++ title ++ "\n" ++ String.ofList (List.replicate title.length '=') ++ "\n"

/-- A failure to read a file. -/
def readFailure (path : String) (e : IoError) : Report :=
  Report.context ("Failed to read " ++ path) (.ofMessage e.text)

/-- **Rule-list bytes from a file**: the records of a `.bin` file as they are, else a JSON
list, which must hold a rule. -/
def loadWire (disk : Disk) (path : String) : Except Report Bytes := do
  if extension path == some "bin" then
    (disk.read path).mapError (readFailure path)
  else
    let text ← (disk.readText path).mapError (readFailure path)
    let records ← RuleList.parse text
    if records.isEmpty then throw (.ofMessage (path ++ " contains no rules"))
    pure (encodeRules records)

/-- **Compiling a rule list** for a command. -/
def compileRules (wire : Bytes) : Except Report Program :=
  (compile wire).mapError fun e =>
    Report.context "Rule list does not compile" (.ofMessage (Error.filter e).message)

/-- **What `encode` does**: the disk with the records written, and what it prints. -/
def encode (disk : Disk) (rules output : String) : Except Report (Disk × String) := do
  let text ← (disk.readText rules).mapError (readFailure rules)
  let records ← RuleList.parse text
  let encoded := encodeRules records
  let program ← compileRules encoded
  let disk ← (disk.write output encoded).mapError fun e =>
    Report.context ("Failed to write " ++ output) (.ofMessage e.text)
  pure (disk, "Encoded " ++ toString program.nodes.length ++ " rules (" ++ toString encoded.length ++
    " bytes) to " ++ output ++ "\n")

/-- **A layer by name**: `network`, or `network_forward` (also `forward`). -/
def parseLayer (name : String) : Except Report Layer :=
  if name = "network" then .ok .network
  else if name = "network_forward" || name = "forward" then .ok .networkForward
  else .error (.ofMessage ("unknown layer '" ++ name ++ "', expected network or network_forward"))

/-- **What `analyze` prints.** -/
def analyzeRules (disk : Disk) (rules layerName : String) : Except Report String := do
  let layer ← parseLayer layerName
  let wire ← loadWire disk rules
  let program ← compileRules wire
  let a := analyze program
  let plan := HookPlan.derive layer a 0
  let hooks := if plan.isEmpty then "none (the filter can never match)\n"
    else String.join (plan.hooks.map fun h => h.text ++ "\n")
  pure (header "Program" ++ program.text ++ header "Analysis" ++
    "possibly inbound:  " ++ toString a.inbound ++ "\n" ++
    "possibly outbound: " ++ toString a.outbound ++ "\n" ++
    "possibly IPv4:     " ++ toString a.ipv4 ++ "\n" ++
    "possibly IPv6:     " ++ toString a.ipv6 ++ "\n" ++
    header "Hooks" ++ hooks)

/-- **What `check` prints**: whether the rules accept the packet. -/
def checkPacket (disk : Disk) (rules packet : String) (outbound : Bool) (ifIdx subIfIdx : Nat) :
    Except Report String := do
  let wire ← loadWire disk rules
  let program ← compileRules wire
  let data ← (Hex.parseHex packet).mapError fun m => Report.context "Invalid packet" (.ofMessage m)
  let direction := if outbound then Direction.outbound else Direction.inbound
  pure (if program.accepts data { direction, ifIdx, subIfIdx } then "match\n" else "no match\n")

/-- Whether a character is white space in the Unicode sense. -/
def isSpace (c : Char) : Bool :=
  let n := c.toNat
  (9 ≤ n && n ≤ 13) || n = 32 || n = 0x85 || n = 0xa0 || n = 0x1680 || (0x2000 ≤ n && n ≤ 0x200a) ||
    n = 0x2028 || n = 0x2029 || n = 0x202f || n = 0x205f || n = 0x3000

/-- `s` without white space at either end. -/
def trimSpace (s : String) : String :=
  String.ofList (((s.toList.dropWhile isSpace).reverse.dropWhile isSpace).reverse)

/-- **One line of a packet file**: nothing for a blank or comment line, else a direction, white
space, and the packet in hex. -/
def parsePacketLine (line : String) : Except String (Option (Direction × Bytes)) := do
  let line := trimSpace line
  if line.isEmpty || line.startsWith "#" then return none
  let cs := line.toList
  let tag := cs.takeWhile (!isSpace ·)
  let rest := cs.dropWhile (!isSpace ·)
  match rest with
  | [] => throw "expected '<in|out> <hex>'"
  | _ :: hex =>
    let direction ← match String.ofList tag with
      | "in" => pure Direction.inbound
      | "out" => pure Direction.outbound
      | other => throw ("unknown direction '" ++ other ++ "'")
    pure (some (direction, ← Hex.parseHex (String.ofList hex)))

/-- The lines of a text: split at line feeds, a carriage return before one dropped, no empty
last line. -/
def textLines (text : String) : List String :=
  let parts := text.splitOn "\n"
  let parts := if text.endsWith "\n" || text.isEmpty then parts.dropLast else parts
  let n := parts.length
  parts.zipIdx.map fun (p, i) =>
    if (i + 1 < n || text.endsWith "\n") && p.endsWith "\r" then (p.dropEnd 1).toString else p

/-- **The packets of a packet file**, a faulty line reported with its number. -/
def loadPackets (disk : Disk) (path : String) : Except Report (List (Direction × Bytes)) := do
  let text ← (disk.readText path).mapError (readFailure path)
  let parsed ← (textLines text).zipIdx.mapM fun (l, i) =>
    (parsePacketLine l).mapError fun m => Report.context ("line " ++ toString (i + 1)) (.ofMessage m)
  pure parsed.reduceOption

/-- Interface index given to replayed packets. -/
def replayIfIdx : Nat := 1

/-- Read back up to `n` queued packets, each as its printed lines. -/
def drainLines (maxLen : Nat) : Nat → Context → Context × String
  | 0, c => (c, "")
  | n + 1, c =>
    match c.recv maxLen with
    | (c, .ready (.ok d)) =>
      let line := d.address.text ++ " " ++ Hex.formatHex d.data ++ "\n" ++
        (if d.truncated then "  (truncated from " ++ toString d.fullLen ++ " bytes)\n" else "")
      let (c, rest) := drainLines maxLen n c
      (c, line ++ rest)
    | (c, _) => (c, "")

/-- **What `replay` prints.** -/
def replay (disk : Disk) (env : List (String × String)) (rules packets : String)
    (config : Option String) (maxLen : Nat) : Except Report String := do
  let cfg ← Config.load disk config env
  let wire ← loadWire disk rules
  let pkts ← loadPackets disk packets
  let c ← (Context.ofConfig cfg).mapError fun e => Report.ofMessage e.message
  let (c, _) ← (c.startFilter true wire).mapError fun e =>
    Report.context "Failed to start filter" (.ofMessage e.message)
  let (c, classified) := pkts.zipIdx.foldl (fun (c, out) ((dir, data), i) =>
    let (c, v) := c.classify { data, address := { direction := dir, ifIdx := replayIfIdx } }
    let verdict := match v with | .permit => "permit" | .absorb => "absorb"
    (c, out ++ "#" ++ toString (i + 1) ++ " " ++ dir.name ++ " " ++ formatSize data.length ++ ": " ++
      verdict ++ "\n")) (c, "")
  let (c, delivered) := drainLines maxLen c.queue.packets.length c
  let k := c.queue.counters
  pure (header "Classification" ++ classified ++ header "Delivered" ++ delivered ++ header "Summary" ++
    "classified: " ++ toString k.packetsClassified ++ "\n" ++
    "matched:    " ++ toString k.packetsMatched ++ "\n" ++
    "delivered:  " ++ toString k.packetsDelivered ++ "\n" ++
    "dropped:    " ++ toString k.packetsDropped ++ "\n" ++
    "repaired:   " ++ toString k.checksumRepairs ++ "\n" ++
    "avg size:   " ++ Decimal.fixedText 1 k.deliveredSizes.average ++ " B\n")

/-- A command's outcome as an exit: its output, or its report. -/
def finish (r : Except Report String) : Exit :=
  match r with
  | .ok out => { code := 0, stdout := out }
  | .error rep => { code := 1, stderr := rep.full }

/-- **Running a command line** (without the program name) on a directory and an environment:
the exit and the directory afterwards. -/
def run (disk : Disk) (env : List (String × String)) (args : List String) : Exit × Disk :=
  match parseArgs args with
  | .error h => (h.exit, disk)
  | .ok (.encode rules output) =>
    match encode disk rules output with
    | .ok (disk, out) => ({ code := 0, stdout := out }, disk)
    | .error rep => ({ code := 1, stderr := rep.full }, disk)
  | .ok (.analyze rules layer) => (finish (analyzeRules disk rules layer), disk)
  | .ok (.check rules packet outbound ifIdx subIfIdx) =>
    (finish (checkPacket disk rules packet outbound ifIdx subIfIdx), disk)
  | .ok (.replay rules packets config maxLen) =>
    (finish (replay disk env rules packets config maxLen), disk)

end Cli

end Diversion
