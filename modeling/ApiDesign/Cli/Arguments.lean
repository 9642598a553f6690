import ApiDesign.Log

/-!
# Command lines

* `Invocation` — a command with its options;
* `Request` — what a command line asks for;
* `Request.ofArguments` — reads a command line from left to right.  An option is followed by its
  value, or joined with it: `--name value`, `--name=value`, `-n value`, `-nvalue` and `-n=value`.
-/

namespace ApiDesign.Cli

/-- The options of the command that generates documents. -/
structure GenerateOptions where
  design : String
  manifest : Option String
  locales : Option String
  output : Option String
  deriving DecidableEq, Repr, Inhabited

/-- The options of the command that validates designs. -/
structure ValidateOptions where
  designs : List String
  format : String
  deriving DecidableEq, Repr, Inhabited

/-- A command with its options. -/
inductive Command where
  | generate (options : GenerateOptions)
  | validate (options : ValidateOptions)
  deriving DecidableEq, Repr, Inhabited

/-- A command and the settings of the log as they are written. -/
structure Invocation where
  logLevel : Option String
  logFormat : Option String
  command : Command
  deriving DecidableEq, Repr, Inhabited

/-- What a command line asks for. -/
inductive Request where
  | run (invocation : Invocation)
  | help
  | version
  /-- The command line cannot be understood. -/
  | misuse
  deriving DecidableEq, Repr, Inhabited

/-! ### Options -/

/-- The options. -/
inductive OptionName where
  | logLevel | logFormat | design | manifest | locales | output | format
  deriving DecidableEq, Repr, Inhabited

/-- The commands by name. -/
inductive CommandName where
  | generate | validate
  deriving DecidableEq, Repr, Inhabited

namespace OptionName

/-- The option of a long name, before or after a command. -/
def ofLong? (command : Option CommandName) (name : String) : Option OptionName :=
  match command, name with
  | _, "log-level" => some .logLevel
  | _, "log-format" => some .logFormat
  | some _, "design" => some .design
  | some .generate, "manifest" => some .manifest
  | some .generate, "locales" => some .locales
  | some .generate, "output" => some .output
  | some .validate, "format" => some .format
  | _, _ => none

/-- The option of a short name, before or after a command. -/
def ofShort? (command : Option CommandName) (name : Char) : Option OptionName :=
  match command, name with
  | some _, 'd' => some .design
  | some .generate, 'm' => some .manifest
  | some .generate, 'l' => some .locales
  | some .generate, 'o' => some .output
  | _, _ => none

/-- Whether an option may be given several values and more than once. -/
def isList (command : Option CommandName) (o : OptionName) : Bool :=
  command = some .validate && o = .design

/-- Whether a value must not be empty: that of a path. -/
def refusesEmpty : OptionName → Bool
  | .design | .manifest | .output => true
  | _ => false

end OptionName

/-- An option with a value, and whether it was given after the command. -/
structure Setting where
  option : OptionName
  value : String
  afterCommand : Bool

/-- What was read of a command line. -/
structure Reading where
  command : Option CommandName
  settings : List Setting
  /-- The option whose value is expected, and whether it has got one. -/
  open? : Option (OptionName × Bool)

namespace Reading

/-- Nothing was read yet. -/
def start : Reading := ⟨none, [], none⟩

/-- The values of an option at the present place. -/
def has (r : Reading) (o : OptionName) : Bool :=
  r.settings.any fun s => s.option = o && s.afterCommand = r.command.isSome

/-- The option whose value cannot be left out. -/
def isWaiting (r : Reading) : Bool :=
  match r.open? with
  | some (_, false) => true
  | _ => false

/-- Adds a value of an option, unless it must not be empty. -/
def add (r : Reading) (o : OptionName) (value : String) (open? : Option (OptionName × Bool)) :
    Option Reading :=
  if value.isEmpty && o.refusesEmpty then none
  else
    some { r with settings := r.settings ++ [⟨o, value, r.command.isSome⟩], open? := open? }

/-- Reads an option with the value that is joined with it, if there is one. -/
def option (r : Reading) (o : OptionName) (joined : Option String) : Option Reading :=
  if r.isWaiting || (r.has o && !o.isList r.command) then none
  else
    match joined with
    | some value => r.add o value none
    | none => some { r with open? := some (o, false) }

/-- Reads a word that is no option. -/
def word (r : Reading) (w : String) : Option Reading :=
  match r.open?, r.command with
  | some (o, false), _ => r.add o w (if o.isList r.command then some (o, true) else none)
  | some (o, true), _ => r.add o w (some (o, true))
  | none, none =>
    if w = "generate" then some { r with command := some .generate }
    else if w = "validate" then some { r with command := some .validate }
    else none
  | none, some _ => none

/-- The value of an option: the one after the command wins. -/
def value? (r : Reading) (o : OptionName) : Option String :=
  let values := r.settings.filter (·.option = o)
  ((values.filter (·.afterCommand)).getLast?.orElse fun _ => values.getLast?).map (·.value)

/-- The command with its options, unless one is missing. -/
def command? (r : Reading) : Option Command :=
  match r.command with
  | none => none
  | some .generate => do
    return .generate ⟨← r.value? .design, r.value? .manifest, r.value? .locales,
      r.value? .output⟩
  | some .validate =>
    let designs := (r.settings.filter (·.option = .design)).map (·.value)
    if designs.isEmpty then none
    else some (.validate ⟨designs, (r.value? .format).getD "text"⟩)

/-- What the whole command line asks for. -/
def finish (r : Reading) : Request :=
  if r.isWaiting then .misuse
  else
    match r.command? with
    | some command => .run ⟨r.value? .logLevel, r.value? .logFormat, command⟩
    | none => .misuse

end Reading

/-! ### Words -/

/-- A word of a command line. -/
inductive Word where
  /-- The end of the options. -/
  | stop
  | long (name : String) (value : Option String)
  | short (name : Char) (rest : List Char)
  | plain (word : String)

/-- The name and the value of a long option. -/
def splitLong (cs : List Char) : Word :=
  let name := String.ofList (cs.takeWhile (· ≠ '='))
  match cs.dropWhile (· ≠ '=') with
  | [] => .long name none
  | _ :: value => .long name (some (String.ofList value))

/-- The kind of a word. -/
def Word.ofString (s : String) : Word :=
  match s.toList with
  | ['-', '-'] => .stop
  | '-' :: '-' :: cs => splitLong cs
  | ['-'] => .plain s
  | '-' :: c :: cs => .short c cs
  | _ => .plain s

/-- The value that is joined with a short option. -/
def joinedValue : List Char → Option String
  | [] => none
  | '=' :: cs => some (String.ofList cs)
  | cs => some (String.ofList cs)

/-- Asks for help, about everything or about what one name stands for. -/
def askForHelp : List String → Request
  | [] => .help
  | [name] => if ["generate", "validate", "help"].contains name then .help else .misuse
  | _ => .misuse

/-- Reads a command line that goes on after what was read. -/
def readArguments (r : Reading) : List String → Request
  | [] => r.finish
  | s :: rest =>
    let go (next : Option Reading) : Request :=
      match next with
      | some r => readArguments r rest
      | none => .misuse
    match Word.ofString s with
    | .stop => if rest.isEmpty then r.finish else .misuse
    | .plain w =>
      if w = "help" && r.command.isNone && r.open?.isNone then askForHelp rest else go (r.word w)
    | .long name value =>
      if r.isWaiting then .misuse
      else if name = "help" && value.isNone then .help
      else if name = "version" && value.isNone && r.command.isNone then .version
      else
        match OptionName.ofLong? r.command name with
        | some o => go (r.option o value)
        | none => .misuse
    | .short name joined =>
      if r.isWaiting then .misuse
      else if name = 'h' then .help
      else if name = 'V' && r.command.isNone then .version
      else
        match OptionName.ofShort? r.command name with
        | some o => go (r.option o (joinedValue joined))
        | none => .misuse

/-- What a command line asks for. -/
def Request.ofArguments (arguments : List String) : Request := readArguments .start arguments

end ApiDesign.Cli
