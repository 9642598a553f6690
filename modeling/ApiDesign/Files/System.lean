import ApiDesign.Files.Path
import ApiDesign.KeyMap

/-!
# File systems

A file system holds files and directories under absolute locations.  An operation looks its path up
step by step, from the root or the working directory, and either succeeds or tells what is in the
way.

* `FileSystem` — files and directories by location;
* `FileSystem.read`, `write`, `createDirectories` — the operations;
* `FileFault` — why an operation fails.
-/

namespace ApiDesign

/-- What is at a location. -/
inductive FileEntry where
  | file (contents : String)
  | directory
  deriving DecidableEq, Repr, Inhabited

/-- Why an operation on files fails. -/
inductive FileFault where
  | missing
  | alreadyThere
  | notDirectory
  | isDirectory
  | nameTooLong
  deriving DecidableEq, Repr, Inhabited

/-- The message of a fault, with the number that systems give it. -/
def FileFault.message : FileFault → String
  | .missing => "No such file or directory (os error 2)"
  | .alreadyThere => "File exists (os error 17)"
  | .notDirectory => "Not a directory (os error 20)"
  | .isDirectory => "Is a directory (os error 21)"
  | .nameTooLong => "File name too long (os error 36)"

/-- The names on the way from the root. -/
abbrev Location := List String

/-- Files and directories by location. -/
structure FileSystem where
  entries : KeyMap FileEntry
  deriving Inhabited

namespace FileSystem

/-- The path of a location. -/
def pathOf (l : Location) : String := "/" ++ "/".intercalate l

/-- What is at a location.  There always is a root. -/
def entry? (fs : FileSystem) (l : Location) : Option FileEntry :=
  if l.isEmpty then some .directory else fs.entries.get? (pathOf l)

/-- Puts something at a location. -/
def put (fs : FileSystem) (l : Location) (e : FileEntry) : FileSystem :=
  ⟨fs.entries.insert (pathOf l) e⟩

/-- The greatest number of bytes of a name. -/
def maxNameSize : Nat := 255

/-- The greatest number of bytes of a path. -/
def maxPathSize : Nat := 4095

/-- Goes on from a location by names.  Every location on the way must be a directory; the last one
need not exist. -/
def resolve (fs : FileSystem) (l : Location) : List String → Except FileFault Location
  | [] => .ok l
  | name :: names =>
    match fs.entry? l with
    | none => .error .missing
    | some (.file _) => .error .notDirectory
    | some .directory =>
      if name = "." then resolve fs l names
      else if name = ".." then resolve fs l.dropLast names
      else if maxNameSize < name.utf8ByteSize then .error .nameTooLong
      else resolve fs (l ++ [name]) names

/-- The location of a path, seen from a working directory. -/
def locate (fs : FileSystem) (cwd : Location) (path : String) : Except FileFault Location :=
  if path.isEmpty then .error .missing
  else if maxPathSize < path.utf8ByteSize then .error .nameTooLong
  else fs.resolve (if FilePath.isAbsolute path then [] else cwd) (FilePath.components path)

/-- The contents of a file. -/
def read (fs : FileSystem) (cwd : Location) (path : String) : Except FileFault String := do
  match fs.entry? (← fs.locate cwd path) with
  | some (.file contents) => return contents
  | some .directory => throw .isDirectory
  | none => throw .missing

/-- Whether there is a file. -/
def isFile (fs : FileSystem) (cwd : Location) (path : String) : Bool :=
  match fs.read cwd path with
  | .ok _ => true
  | .error _ => false

/-- Whether there is a directory. -/
def isDirectory (fs : FileSystem) (cwd : Location) (path : String) : Bool :=
  match fs.locate cwd path with
  | .ok l => fs.entry? l = some .directory
  | .error _ => false

/-- Writes a file, in place of a former one. -/
def write (fs : FileSystem) (cwd : Location) (path contents : String) :
    Except FileFault FileSystem := do
  let l ← fs.locate cwd path
  match fs.entry? l with
  | some .directory => throw .isDirectory
  | _ => return fs.put l (.file contents)

/-- Creates a directory. -/
def createDirectory (fs : FileSystem) (cwd : Location) (path : String) :
    Except FileFault FileSystem := do
  let l ← fs.locate cwd path
  match fs.entry? l with
  | some _ => throw .alreadyThere
  | none => return fs.put l .directory

/-- Creates a directory, unless it is there already. -/
def ensureDirectory (fs : FileSystem) (cwd : Location) (path : String) :
    Except FileFault FileSystem :=
  match fs.createDirectory cwd path with
  | .ok fs => .ok fs
  | .error e => if fs.isDirectory cwd path then .ok fs else .error e

/-- Creates a directory and the directories on the way to it.  The fuel bounds the number of
parents. -/
def createDirectoriesFrom (cwd : Location) : Nat → FileSystem → String →
    Except FileFault FileSystem
  | 0, _, _ => .error .missing
  | fuel + 1, fs, path =>
    if path.isEmpty then .ok fs
    else
      match fs.ensureDirectory cwd path, FilePath.parent? path with
      | .error .missing, some parent => do
        (← createDirectoriesFrom cwd fuel fs parent).ensureDirectory cwd path
      | outcome, _ => outcome

/-- Creates a directory and the directories on the way to it.  A parent is shorter than its path. -/
def createDirectories (fs : FileSystem) (cwd : Location) (path : String) :
    Except FileFault FileSystem :=
  createDirectoriesFrom cwd (path.length + 1) fs path

/-- Puts a file at a location, with all directories on the way. -/
def addFile (fs : FileSystem) (l : Location) (contents : String) : FileSystem :=
  let fs := (List.range l.length).foldl (fun fs n => fs.put (l.take n) .directory) fs
  fs.put l (.file contents)

end FileSystem

end ApiDesign
