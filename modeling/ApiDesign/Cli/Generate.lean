import ApiDesign.Cli.Arguments
import ApiDesign.DesignFile.Evaluation
import ApiDesign.Files.System
import ApiDesign.Generation
import ApiDesign.Manifest

/-!
# Generating documents

The command that makes the documents of a design for every locale and writes them.

* `Workspace` — the files and the working directory of a run;
* `generate` — the run, with its events and the files after it.
-/

namespace ApiDesign.Cli

/-- The files and the working directory of a run. -/
structure Workspace where
  files : FileSystem
  /-- The path of the working directory. -/
  directory : String

namespace Workspace

/-- The location of the working directory. -/
def location (w : Workspace) : Location := FilePath.components w.directory

/-- The contents of a file. -/
def read (w : Workspace) (path : String) : Except FileFault String := w.files.read w.location path

/-- The path of the working directory, unless it has been removed since. -/
def currentDirectory (w : Workspace) : Except FileFault String :=
  if w.files.entry? w.location = some .directory then .ok w.directory else .error .missing

end Workspace

/-- Why documents are not generated. -/
inductive GenerateError where
  | config (e : SetupError)
  | design (errors : List DesignError)
  | compile (e : CompileError)
  | write (path : String) (fault : FileFault)

/-- The lines of an error, one for every problem. -/
def GenerateError.lines : GenerateError → List String
  | .config e => [e.message]
  | .design errors => errors.map DesignError.message
  | .compile e => [e.message]
  | .write path fault => ["failed to write " ++ path ++ ": " ++ fault.message]

/-! ### Configuration -/

/-- The manifest that is looked for in the working directory. -/
def manifestName : String := "apiforge.yaml"

/-- The directory that documents are written to by default. -/
def defaultOutput : String := "gen/http"

/-- Reads a manifest. -/
def readManifest (w : Workspace) (path : String) : Except ConfigError Manifest :=
  match w.read path with
  | .ok text => Manifest.parse text path
  | .error fault => .error (.manifest ("failed to read " ++ path ++ ": " ++ fault.message))

/-- The directory that a given manifest lies in. -/
def manifestBase (w : Workspace) (path : String) : String :=
  match FilePath.parent? path with
  | some parent => if parent.isEmpty then w.directory else parent
  | none => w.directory

/-- The given manifest, or one in the working directory, with the directory that its paths are seen
from. -/
def loadManifest (w : Workspace) (explicit : Option String) :
    Except ConfigError (Option Manifest × String) :=
  match explicit with
  | some path => do return (some (← readManifest w path), manifestBase w path)
  | none =>
    let path := FilePath.join w.directory manifestName
    if w.files.isFile w.location path then do return (some (← readManifest w path), w.directory)
    else .ok (none, w.directory)

/-- The directory that documents are written to: the given one, else that of the manifest. -/
def outputDirectory (explicit : Option String) (manifest : Option Manifest) (base : String) :
    String :=
  (explicit.orElse fun _ => manifest.bind (·.outputDir base)).getD defaultOutput

/-- The locales and the output directory of a run. -/
structure Configuration where
  locales : LocaleSet
  output : String

/-- The configuration of a run; the environment may give the locales too.  The working directory is
asked for first, whether or not anything is seen from it. -/
def configure (w : Workspace) (o : GenerateOptions) (environment : Option String) :
    Except SetupError Configuration := do
  let _ ← w.currentDirectory.mapError .directory
  let (manifest, base) ← (loadManifest w o.manifest).mapError .config
  let locales ← (resolveLocales (o.locales.orElse fun _ => environment) manifest).mapError .config
  return ⟨locales, outputDirectory o.output manifest base⟩

/-- The design of a file. -/
def readDesign (w : Workspace) (path : String) : Except (List DesignError) Design :=
  match w.read path with
  | .ok text => Design.parse text
  | .error fault => .error [.invalidDesignFile (path ++ ": " ++ fault.message)]

/-! ### Writing -/

/-- The files and events after something was written. -/
structure Written where
  files : FileSystem
  events : List Event

/-- Writes a file, with the directories on the way. -/
def writeFile (location : Location) (fs : FileSystem) (f : GeneratedFile) :
    Except GenerateError Unit × Written :=
  let parent := (FilePath.parent? f.path).getD ""
  match fs.createDirectories location parent with
  | .error fault => (.error (.write parent fault), ⟨fs, []⟩)
  | .ok fs =>
    match fs.write location f.path f.contents with
    | .error fault => (.error (.write f.path fault), ⟨fs, []⟩)
    | .ok fs => (.ok (), ⟨fs, [.fileWritten f.path f.contents.utf8ByteSize]⟩)

/-- Writes files one after the other, up to the first that cannot be written. -/
def writeFiles (location : Location) (fs : FileSystem) :
    List GeneratedFile → Except GenerateError Unit × Written
  | [] => (.ok (), ⟨fs, []⟩)
  | f :: r =>
    match writeFile location fs f with
    | (.error e, written) => (.error e, written)
    | (.ok (), written) =>
      let rest := writeFiles location written.files r
      (rest.1, ⟨rest.2.files, written.events ++ rest.2.events⟩)

/-! ### The run -/

/-- What a run came to: the paths of the written files or an error, and everything else that
shows. -/
structure Generated where
  outcome : Except GenerateError (List String)
  events : List Event
  files : FileSystem

/-- The event of an output. -/
def eventOf (o : LocaleOutput) : Event :=
  match o.result with
  | .ok (some _) => .localeCompleted o.locale o.stem
  | .ok none => .documentSkipped o.locale
  | .error e => .assemblyFailed o.locale e.message

/-- The end of a run: writes the documents of all outputs, or none if one of them failed. -/
def writeOutputs (w : Workspace) (output : String) (outputs : List LocaleOutput) : Generated :=
  match outputFiles output outputs with
  | .error e => ⟨.error (.compile e), [], w.files⟩
  | .ok files =>
    match writeFiles w.location w.files files with
    | (.error e, written) => ⟨.error e, written.events, written.files⟩
    | (.ok (), written) =>
      ⟨.ok (files.map (·.path)), written.events ++ [.generationCompleted files.length],
        written.files⟩

/-- Generates the documents of a design.  That it begins is told before the workers are started. -/
def generate (pools : WorkerPools) (w : Workspace) (o : GenerateOptions)
    (environment : Option String) : Generated :=
  match configure w o environment with
  | .error e => ⟨.error (.config e), [], w.files⟩
  | .ok c =>
    match readDesign w o.design with
    | .error errors =>
      ⟨.error (.design errors), [.designInvalid o.design errors.length], w.files⟩
    | .ok design =>
      let begun : Event := .generationStarted o.design c.locales.display c.output
      match runPasses pools c.locales design with
      | .error e => ⟨.error (.config e), [begun], w.files⟩
      | .ok outputs =>
        let rest := writeOutputs w c.output outputs
        { rest with events := begun :: outputs.map eventOf ++ rest.events }

end ApiDesign.Cli
