import ApiDesign.Files.Path
import ApiDesign.Json.Printer
import ApiDesign.Locale
import ApiDesign.OpenApi.Assembly
import ApiDesign.Yaml.Printer

/-!
# Documents for every locale

Every locale of a set gets the document of the design for it, written both as JSON and as YAML.

* `LocaleOutput` — what became of one locale;
* `WorkerPools` — the pools of workers that a machine can start;
* `generateAll` — the outputs of the passes, in the order of the locales;
* `runPasses` — starts a pool of one worker for each locale, and runs the passes on it;
* `outputFiles` — the files to write: all of them, or none if the document of a locale failed.
-/

namespace ApiDesign

/-- A document in both formats. -/
structure DocumentPair where
  json : String
  yaml : String
  deriving DecidableEq, Repr, Inhabited

/-- A document in both formats. -/
def OpenApi.Document.encode (d : OpenApi.Document) : DocumentPair :=
  ⟨Json.pretty d.toJson, Yaml.print d.toJson⟩

/-- What became of one locale. -/
structure LocaleOutput where
  locale : String
  /-- The name of the files without their endings. -/
  stem : String
  /-- There is no document if the design has no routes. -/
  result : Except CompileError (Option DocumentPair)

namespace LocaleOutput

/-- The name of the JSON file. -/
def jsonName (o : LocaleOutput) : String := o.stem ++ ".json"

/-- The name of the YAML file. -/
def yamlName (o : LocaleOutput) : String := o.stem ++ ".yaml"

end LocaleOutput

/-- The output for one locale. -/
def generateOne (d : Design) (locale stem : String) : LocaleOutput :=
  ⟨locale, stem, (OpenApi.assemble d locale).map fun document =>
    document.map OpenApi.Document.encode⟩

/-- The outputs for all locales, in their order.  The passes may end in any order: a pool hands out
their results in the order in which it was given the passes. -/
def generateAll (locales : LocaleSet) (d : Design) : List LocaleOutput :=
  List.zipWith (generateOne d) locales.codes locales.stems

/-! ### Worker pools -/

/-- The pools of workers that a machine can start.  A machine that is out of threads cannot start a
pool, and tells the reason. -/
structure WorkerPools where
  /-- Starts a pool of so many workers. -/
  start : (workers : Nat) → Except String Unit

namespace WorkerPools

/-- A machine that starts every pool. -/
def ready : WorkerPools := ⟨fun _ => .ok ()⟩

/-- The machine starts a pool of so many workers. -/
def Starts (pools : WorkerPools) (workers : Nat) : Prop := pools.start workers = .ok ()

theorem ready_starts (workers : Nat) : ready.Starts workers := rfl

end WorkerPools

/-- Runs the passes for all locales on a pool of one worker for each of them. -/
def runPasses (pools : WorkerPools) (locales : LocaleSet) (d : Design) :
    Except SetupError (List LocaleOutput) :=
  match pools.start locales.size with
  | .error reason => .error (.workerPool reason)
  | .ok () => .ok (generateAll locales d)

theorem runPasses_of_starts {pools : WorkerPools} {locales : LocaleSet}
    (h : pools.Starts locales.size) (d : Design) :
    runPasses pools locales d = .ok (generateAll locales d) := by
  rw [WorkerPools.Starts] at h
  rw [runPasses, h]

theorem runPasses_of_unstarted {pools : WorkerPools} {locales : LocaleSet} {reason : String}
    (h : pools.start locales.size = .error reason) (d : Design) :
    runPasses pools locales d = .error (.workerPool reason) := by
  rw [runPasses, h]

/-! ### Files to write -/

/-- A file to write. -/
structure GeneratedFile where
  path : String
  contents : String
  deriving DecidableEq, Repr, Inhabited

/-- The files of an output in a directory. -/
def LocaleOutput.files (dir : String) (o : LocaleOutput) :
    Except CompileError (List GeneratedFile) :=
  match o.result with
  | .error e => .error e
  | .ok none => .ok []
  | .ok (some pair) =>
    .ok [⟨FilePath.join dir o.jsonName, pair.json⟩, ⟨FilePath.join dir o.yamlName, pair.yaml⟩]

/-- The files of all outputs in a directory, or the first error. -/
def outputFiles (dir : String) : List LocaleOutput → Except CompileError (List GeneratedFile)
  | [] => .ok []
  | o :: r => do
    let files ← o.files dir
    return files ++ (← outputFiles dir r)

end ApiDesign
