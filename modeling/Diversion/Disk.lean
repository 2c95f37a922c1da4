import Diversion.Bytes

/-!
# `Diversion.Disk` — the working directory a command sees

A disk is a flat directory of named files. A path is followed part by part from it: empty
parts and `.` stay where they are, `..` leads to a directory whose files are not known, a
name must be a file of the directory, and nothing lies inside a file (that is "not a
directory"). A directory can be neither read nor written as a file.

Failures carry the operating system's text, because the command line prints it.

## Contents
- `IoError`, `IoError.text`.
- `Place`, `Disk.locate`: following a path part by part.
- `Disk`: `read`, `readText`, `write`, `isFile`.
- `extension`, `tomlVariant`: file names and extensions.
-/

namespace Diversion

/-- **Why a file operation failed.** -/
inductive IoError
  | notFound
  | isDirectory
  | notDirectory
  /-- The file is not UTF-8 text. -/
  | notText
  deriving DecidableEq, Repr, Inhabited

/-- The failure as the operating system words it. -/
def IoError.text : IoError → String
  | .notFound => "No such file or directory (os error 2)"
  | .isDirectory => "Is a directory (os error 21)"
  | .notDirectory => "Not a directory (os error 20)"
  | .notText => "stream did not contain valid UTF-8"

/-- **A directory of files**, by name. -/
structure Disk where
  files : List (String × Bytes) := []
  deriving DecidableEq, Repr, Inhabited

/-- `s` without its leading `./` parts. -/
def dropCurrent (s : String) (fuel : Nat) : String :=
  match fuel with
  | 0 => s
  | fuel + 1 => if s.startsWith "./" then dropCurrent ((s.drop 2).toString) fuel else s

/-- **A name relative to the directory**: leading `./` dropped; `.` for the directory. -/
def relativeName (s : String) : String :=
  let s := dropCurrent s s.length
  if s = "" then "." else s

/-- **Where a path leads** from the working directory. -/
inductive Place
  /-- The working directory itself. -/
  | here
  /-- Another directory, whose files are not known. -/
  | elsewhere
  /-- A file of the working directory. -/
  | file (name : String)
  deriving DecidableEq, Repr, Inhabited

namespace Disk

/-- The file called exactly `name`, if there is one. -/
def find? (d : Disk) (name : String) : Option Bytes :=
  (d.files.find? (·.1 == name)).map (·.2)

/-- **One step along a path**: an empty part or `.` stays, `..` leaves the directory, a name
is looked up; nothing can be looked up inside a file. -/
def step (d : Disk) : Place → String → Except IoError Place
  | .file _, _ => .error .notDirectory
  | p, "" => .ok p
  | p, "." => .ok p
  | _, ".." => .ok .elsewhere
  | .here, n => if (d.find? n).isSome then .ok (.file n) else .error .notFound
  | .elsewhere, _ => .error .notFound

/-- **Following a path** part by part, from the root for an absolute path. -/
def locate (d : Disk) (path : String) : Except IoError Place :=
  if path.isEmpty then .error .notFound
  else (path.splitOn "/").foldlM d.step (if path.startsWith "/" then .elsewhere else .here)

/-- The name of the file `path` leads to, if it leads to one. -/
def fileAt? (d : Disk) (path : String) : Option String :=
  match d.locate path with
  | .ok (.file n) => some n
  | _ => none

/-- Whether `path` leads to a file. -/
def isFile (d : Disk) (path : String) : Bool := (d.fileAt? path).isSome

/-- **Reading a file**; a directory cannot be read. -/
def read (d : Disk) (path : String) : Except IoError Bytes := do
  match ← d.locate path with
  | .file n => match d.find? n with
    | some b => pure b
    | none => throw .notFound
  | _ => throw .isDirectory

/-- **Reading a text file**: it must be UTF-8. -/
def readText (d : Disk) (path : String) : Except IoError String := do
  let b ← d.read path
  match String.fromUTF8? (ByteArray.mk b.toArray) with
  | some s => pure s
  | none => throw .notText

/-- **Writing a file**, replacing one of that name: the path up to its last part must lead to
the directory; a path ending in `/`, `.` or `..` names a directory. -/
def write (d : Disk) (path : String) (b : Bytes) : Except IoError Disk := do
  let parts := path.splitOn "/"
  let last := parts.getLastD ""
  if path.isEmpty then throw .notFound
  if last = "" || last = "." || last = ".." then
    match d.locate path with
    | .ok _ => throw .isDirectory
    | .error .notFound => throw (if last = "" then .isDirectory else .notFound)
    | .error e => throw e
  match ← parts.dropLast.foldlM d.step (if path.startsWith "/" then .elsewhere else .here) with
  | .here => pure { files := (d.files.filter (·.1 != last)) ++ [(last, b)] }
  | .file _ => throw .notDirectory
  | .elsewhere => throw .notFound

end Disk

/-- **The file name ending a path**, and the text before it: the last part that is neither
empty nor `.`, unless that part is `..` or there is none. -/
def splitFileName (p : String) : Option (String × String) :=
  let parts := p.splitOn "/"
  match (parts.zipIdx.filter fun (q, _) => q ≠ "" && q ≠ ".").getLast? with
  | none => none
  | some (q, i) =>
    if q = ".." then none
    else some ((if i = 0 then "" else "/".intercalate (parts.take i) ++ "/"), q)

/-- **A path's extension**: what follows the last dot of its file name, unless that dot
starts the name. -/
def extension (p : String) : Option String :=
  match splitFileName p with
  | none => none
  | some (_, name) =>
    match name.splitOn "." with
    | [] | [_] => none
    | parts => if ".".intercalate parts.dropLast = "" then none else parts.getLast?

/-- **The path with `.toml` added to its file name**, whatever extension it had: the name a
settings file is looked up by when the exact name is not a file. Anything after the file
name (`/`, `/.`) is dropped. -/
def tomlVariant (p : String) : Option String :=
  (splitFileName p).map fun (dir, name) => dir ++ name ++ ".toml"

end Diversion
