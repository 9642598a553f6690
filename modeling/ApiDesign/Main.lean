import ApiDesign.Cli.Run

/-!
# The program

Loads the files that a command line is about, runs it on them, and then makes the changes it came
to and prints what it says.
-/

namespace ApiDesign.Cli

/-- The locations on the way of a path, seen from a location. -/
def passedLocations (l : Location) : List String → List Location
  | [] => [l]
  | name :: names =>
    let next := if name = "." then l else if name = ".." then l.dropLast else l ++ [name]
    l :: passedLocations next names

/-- The locations that a path needs. -/
def neededLocations (directory path : String) : List Location :=
  let start := if FilePath.isAbsolute path then [] else FilePath.components directory
  (passedLocations start (FilePath.components path)).flatMap fun l =>
    (List.range (l.length + 1)).map l.take

/-- The paths of the files that a command line reads. -/
def inputPaths (arguments : List String) : List String :=
  match Request.ofArguments arguments with
  | .run ⟨_, _, .generate o⟩ => [o.design, o.manifest.getD manifestName]
  | .run ⟨_, _, .validate o⟩ => o.designs
  | _ => []

/-- What is at a path of the machine. -/
def entryAt (path : String) : IO (Option FileEntry) := do
  if ← ((← IO.currentDir) / path).isDir then return some .directory
  else
    try return some (.file (← IO.FS.readFile path))
    catch _ => return none

/-- The files of the machine at some locations. -/
def load (locations : List Location) : IO FileSystem := do
  let mut fs : FileSystem := ⟨.empty⟩
  for l in locations do
    if !l.isEmpty then
      match ← entryAt (FileSystem.pathOf l) with
      | some e => fs := fs.put l e
      | none => pure ()
  return fs

/-- Makes the changes from one state of the files to another. -/
def apply (before after : FileSystem) : IO Unit := do
  for (path, e) in after.entries.entries do
    if before.entries.get? path ≠ some e then
      match e with
      | .directory => IO.FS.createDirAll path
      | .file contents => IO.FS.writeFile path contents

/-- Prints what a run says. -/
def printOutcome (o : Outcome) : IO Unit := do
  for e in o.events do
    IO.eprintln (match o.logFormat with
      | .json => Json.compact e.toJson
      | .pretty => e.level.name ++ " " ++ e.name)
  for line in o.stderr do
    IO.eprintln line
  IO.print o.stdout

end ApiDesign.Cli

open ApiDesign ApiDesign.Cli in
/-- Runs a command line on the files of the machine. -/
def main (arguments : List String) : IO UInt32 := do
  let directory := (← IO.currentDir).toString
  let environment : Environment := ⟨← IO.getEnv "APIFORGE_LOCALES", ← IO.getEnv "RUST_LOG"⟩
  let inputs := (directory :: inputPaths arguments).flatMap (neededLocations directory)
  let foreseen := run ⟨← load inputs, directory⟩ environment arguments
  let outputs := foreseen.files.entries.keys.map FilePath.components
  let files ← load (inputs ++ outputs)
  let outcome := run ⟨files, directory⟩ environment arguments
  apply files outcome.files
  printOutcome outcome
  return outcome.exitCode.toUInt32
