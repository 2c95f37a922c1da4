import Diversion.Cli.Run

/-!
# `Diversion.Main` — the `divert` program

The program reads the files its command line names (each argument, and each with `.toml`
added, as a settings file is also looked up by that name) and the settings' environment
variables, runs the command on them, writes back the files the command wrote, prints its
output and exits with its code.

## Contents
- `settingVariables`, `candidateFiles`.
- `main`.
-/

namespace Diversion

/-- The environment variables that carry settings. -/
def settingVariables : List String :=
  ["DIVERT_QUEUE_LEN", "DIVERT_QUEUE_TIME_MS", "DIVERT_PRIORITY", "DIVERT_LAYER", "DIVERT_SNIFF",
   "DIVERT_DROP", "DIVERT_NO_CHECKSUM", "DIVERT_PASSTHRU"]

/-- **The files a command line may read**: its arguments, and each with `.toml` added. -/
def candidateFiles (args : List String) : List String :=
  (args ++ args.filterMap tomlVariant).eraseDups

end Diversion

/-- **Running `divert`** on the working directory. -/
def main (args : List String) : IO UInt32 := do
  let mut files : List (String × Diversion.Bytes) := []
  for name in Diversion.candidateFiles args do
    let rel := Diversion.relativeName name
    if !files.any (·.1 == rel) then
      try
        let data ← IO.FS.readBinFile name
        files := files ++ [(rel, data.toList)]
      catch _ => pure ()
  let mut env : List (String × String) := []
  for v in Diversion.settingVariables do
    if let some x ← IO.getEnv v then env := env ++ [(v, x)]
  let disk : Diversion.Disk := { files }
  let (exit, after) := Diversion.Cli.run disk env args
  for (name, data) in after.files do
    if !disk.files.contains (name, data) then
      IO.FS.writeBinFile name (ByteArray.mk data.toArray)
  IO.print exit.stdout
  IO.eprint exit.stderr
  pure (UInt32.ofNat exit.code)
