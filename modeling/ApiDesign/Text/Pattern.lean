import ApiDesign.Text.Alphanumeric
import ApiDesign.Text.Blank
import ApiDesign.Text.Digits

/-!
# Regular expressions

Which texts are regular expressions.  Nothing is matched against them here.

A regular expression is read either by characters or, after the flag `-u`, by octets.  Classes and
word boundaries that depend on the properties of all characters are not to be had, nor is matching in
any letter case by characters; and an expression by octets may only match what is a text.

* `Pattern.State` — what is known between two parts of an expression;
* `Pattern.readSet` — a set of characters between brackets;
* `isPattern` — whether a text is a regular expression.
-/

namespace ApiDesign.Text

namespace Pattern

/-- The flags that bear on what may be written. -/
structure Flags where
  /-- Letters match in any case. -/
  ignoreCase : Bool
  /-- The expression is read by characters, and not by octets. -/
  unicode : Bool
  /-- Blanks and comments are passed over. -/
  extended : Bool

/-- The flags at the beginning. -/
def Flags.initial : Flags := ⟨false, true, false⟩

/-- Sets the flag of a letter.  The other flags do not bear on what may be written. -/
def Flags.set (f : Flags) (letter : Char) (value : Bool) : Flags :=
  match letter with
  | 'i' => { f with ignoreCase := value }
  | 'u' => { f with unicode := value }
  | 'x' => { f with extended := value }
  | _ => f

/-- What is known between two parts of an expression. -/
structure State where
  flags : Flags
  /-- The flags outside of each open group, the innermost group first. -/
  outerFlags : List Flags
  /-- Whether there is something that a repetition mark can be about. -/
  repeatable : Bool
  /-- The names of groups so far. -/
  names : List (List Char)

/-- The state at the beginning. -/
def State.initial : State := ⟨.initial, [], false, []⟩

/-- Passes over blanks and comments; `comment` tells whether a comment was begun. -/
def skipBlanks (comment : Bool) : List Char → List Char
  | [] => []
  | c :: r =>
    if comment then skipBlanks (c ≠ '\n') r
    else if isBlank c then skipBlanks false r
    else if c = '#' then skipBlanks true r
    else c :: r

/-- Passes over what the flags say is passed over. -/
def Flags.skip (f : Flags) (cs : List Char) : List Char :=
  if f.extended then skipBlanks false cs else cs

/-! ### Escapes -/

/-- What an escape stands for. -/
inductive Escape where
  | char (c : Char)
  /-- A character or an octet by its number of two digits. -/
  | numbered (number : Nat)
  /-- A class of characters, or all characters outside of it. -/
  | classOf (negated : Bool)
  | position
  | wordBoundary

/-- Whether an escaped character stands for itself. -/
def standsForItself (c : Char) : Bool :=
  c.toNat < 0x80 && !c.isAlphanum && c ≠ '<' && c ≠ '>'

/-- Reads a number of hexadecimal digits after what was read before. -/
def readNumber? (f : Flags) (digits : List Char) : Nat → List Char → Option (Nat × List Char)
  | 0, cs => (Text.readNumber? 16 digits.reverse).map fun n => (n, cs)
  | count + 1, cs =>
    match f.skip cs with
    | [] => none
    | c :: r => if (digitValue? 16 c).isSome then readNumber? f (c :: digits) count r else none

/-- Reads a character by its number. -/
def readNumbered? (f : Flags) (count : Nat) (cs : List Char) : Option (Escape × List Char) := do
  let (n, r) ← readNumber? f [] count cs
  if count = 2 then return (.numbered n, f.skip r)
  else if n.isValidChar then return (.char (Char.ofNat n), f.skip r)
  else none

/-- Reads an escape after its backslash. -/
def readEscape? (f : Flags) : List Char → Option (Escape × List Char)
  | [] => none
  | c :: r =>
    if c = 'x' then readNumbered? f 2 r
    else if c = 'u' then readNumbered? f 4 r
    else if c = 'U' then readNumbered? f 8 r
    else if ['d', 's', 'w'].contains c then some (.classOf false, r)
    else if ['D', 'S', 'W'].contains c then some (.classOf true, r)
    else if standsForItself c || ['a', 'f', 't', 'n', 'r', 'v'].contains c then some (.char c, r)
    else if c = 'A' || c = 'z' then some (.position, r)
    else if ['b', 'B', '<', '>'].contains c then some (.wordBoundary, r)
    else none

/-- Whether an escape may stand outside of sets. -/
def Escape.isAllowed (f : Flags) : Escape → Bool
  | .char _ => !(f.ignoreCase && f.unicode)
  | .numbered n => if f.unicode then !f.ignoreCase else n < 0x80
  | .classOf negated => !f.unicode && !negated
  | .position => true
  | .wordBoundary => !f.unicode

/-! ### Sets -/

/-- The number of the character that an escape stands for in a set, if it stands for one. -/
def Escape.inSet? (f : Flags) : Escape → Option Nat
  | .char c => if f.unicode || c.toNat < 0x80 then some c.toNat else none
  | .numbered n => if f.unicode || n < 0x80 then some n else none
  | _ => none

/-- Whether an escape may stand alone in a set. -/
def Escape.isAllowedInSet (f : Flags) : Escape → Bool
  | .classOf negated => !f.unicode && !negated
  | e => (e.inSet? f).isSome

/-- The names of the classes that may stand in a set. -/
def classNames : List String :=
  ["alnum", "alpha", "ascii", "blank", "cntrl", "digit", "graph", "lower", "print", "punct", "space",
    "upper", "word", "xdigit"]

/-- Reads a named class after its bracket; tells whether it is negated. -/
def readNamedClass? : List Char → Option (Bool × List Char)
  | ':' :: r =>
    let negated := r.head? = some '^'
    let r := if negated then r.drop 1 else r
    let name := r.takeWhile (· ≠ ':')
    match r.drop name.length with
    | ':' :: ']' :: r =>
      if classNames.contains (String.ofList name) then some (negated, r) else none
    | _ => none
  | _ => none

/-- Passes over the hyphens that a set begins with; tells whether there are any. -/
def skipHyphens (f : Flags) (fuel : Nat) (found : Bool) (cs : List Char) : Bool × List Char :=
  match fuel, cs with
  | fuel + 1, '-' :: r => skipHyphens f fuel true (f.skip r)
  | _, cs => (found, cs)

/-- Reads the beginning of a set after its bracket.  A bracket that closes stands for itself there. -/
def openSet? (f : Flags) (cs : List Char) : Option (List Char) := do
  let cs := f.skip cs
  let negated := cs.head? = some '^'
  if negated && !f.unicode then none
  let cs := if negated then f.skip (cs.drop 1) else cs
  let (found, cs) := skipHyphens f cs.length false cs
  match cs with
  | [] => none
  | c :: r => return if !found && c = ']' then f.skip r else c :: r

/-- Reads a character or an escape of a set. -/
def readMember? (f : Flags) : List Char → Option (Escape × List Char)
  | [] => none
  | '\\' :: r => readEscape? f r
  | c :: r => some (.char c, r)

/-- Whether a hyphen with the characters after it makes a range. -/
def makesRange (f : Flags) (cs : List Char) : Bool :=
  match cs with
  | '-' :: r => (f.skip r).head? ≠ some ']' && (f.skip r).head? ≠ some '-'
  | _ => false

/-- Reads a member of a set, or a range. -/
def readRange? (f : Flags) (cs : List Char) : Option (List Char) := do
  let (first, cs) ← readMember? f cs
  let cs := f.skip cs
  if makesRange f cs then
    let (last, cs) ← readMember? f (f.skip (cs.drop 1))
    if (← first.inSet? f) ≤ (← last.inSet? f) then return cs else none
  else if first.isAllowedInSet f then return cs
  else none

/-- Reads the rest of a set, given the number of sets around it.  Every step passes over a
character. -/
def readSetFrom? (f : Flags) : Nat → Nat → List Char → Option (List Char)
  | 0, _, _ => none
  | fuel + 1, depth, cs =>
    match f.skip cs with
    | [] => none
    | '[' :: r =>
      match readNamedClass? r with
      | some (negated, r) => if negated && !f.unicode then none else readSetFrom? f fuel depth r
      | none => (openSet? f r).bind (readSetFrom? f fuel (depth + 1))
    | ']' :: r =>
      match depth with
      | 0 => some r
      | depth + 1 => readSetFrom? f fuel depth r
    | '&' :: '&' :: r => readSetFrom? f fuel depth r
    | '-' :: '-' :: r => readSetFrom? f fuel depth r
    | '~' :: '~' :: r => readSetFrom? f fuel depth r
    | cs => (readRange? f cs).bind (readSetFrom? f fuel depth)

/-- Reads a set after its bracket. -/
def readSet? (f : Flags) (cs : List Char) : Option (List Char) :=
  if f.ignoreCase && f.unicode then none
  else (openSet? f cs).bind (readSetFrom? f (cs.length + 1) 0)

/-! ### Groups -/

/-- A character of the name of a group. -/
def isNameChar (first : Bool) (c : Char) : Bool :=
  if first then c = '_' || (isAlphanumeric c && !c.isDigit)
  else c = '_' || c = '.' || c = '[' || c = ']' || isAlphanumeric c

/-- Whether characters are the name of a group. -/
def isName : List Char → Bool
  | [] => false
  | c :: r => isNameChar true c && r.all (isNameChar false)

/-- Reads flags up to the mark after them, which is returned too.  No flag is repeated, and one hyphen
may stand before some of them. -/
def readFlags? (f : Flags) (seen : List Char) (negative dangling : Bool) :
    List Char → Option (Flags × Char × List Char)
  | [] => none
  | c :: r =>
    if c = ':' || c = ')' then
      if dangling || (c = ')' && seen.isEmpty) then none else some (f, c, r)
    else if c = '-' then
      if negative then none else readFlags? f seen true true r
    else if ['i', 'm', 's', 'U', 'u', 'R', 'x'].contains c && !seen.contains c then
      readFlags? (f.set c !negative) (c :: seen) negative false r
    else none

namespace State

/-- Begins a group in which the flags apply. -/
def enter (s : State) (f : Flags) : State :=
  { s with flags := f, outerFlags := s.flags :: s.outerFlags, repeatable := false }

/-- Ends a group. -/
def leave? (s : State) : Option State :=
  match s.outerFlags with
  | f :: outer => some { s with flags := f, outerFlags := outer, repeatable := true }
  | [] => none

/-- Begins a group with a name. -/
def enterNamed? (s : State) (cs : List Char) : Option (State × List Char) :=
  let name := cs.takeWhile (· ≠ '>')
  match cs.drop name.length with
  | _ :: r =>
    if isName name && !s.names.contains name then
      some ({ s with names := name :: s.names }.enter s.flags, r)
    else none
  | [] => none

/-- Reads flags, which apply to a group or to what follows. -/
def readFlags? (s : State) (cs : List Char) : Option (State × List Char) := do
  let (f, mark, r) ← Pattern.readFlags? s.flags [] false false cs
  return (if mark = ':' then s.enter f else { s with flags := f, repeatable := false }, r)

/-- Reads what follows the parenthesis that opens a group.  Groups that look ahead or behind are not
to be had. -/
def openGroup? (s : State) (cs : List Char) : Option (State × List Char) :=
  match s.flags.skip cs with
  | '?' :: '=' :: _ => none
  | '?' :: '!' :: _ => none
  | '?' :: '<' :: '=' :: _ => none
  | '?' :: '<' :: '!' :: _ => none
  | '?' :: 'P' :: '<' :: r => s.enterNamed? r
  | '?' :: '<' :: r => s.enterNamed? r
  | '?' :: r => s.readFlags? r
  | r => some (s.enter s.flags, r)

/-! ### Expressions -/

/-- What follows something that can be repeated. -/
def operand (s : State) (isAllowed : Bool) (r : List Char) : Option (State × List Char) :=
  if isAllowed then some ({ s with repeatable := true }, r) else none

/-- Reads the part of an expression that begins with a character.  A count in braces is not to be
had, since no brace closes it. -/
def step? (s : State) (c : Char) (r : List Char) : Option (State × List Char) :=
  match c with
  | '(' => s.openGroup? r
  | ')' => s.leave?.map fun s => (s, r)
  | '|' => some ({ s with repeatable := false }, r)
  | '[' => (readSet? s.flags r).bind (s.operand true)
  | '?' | '*' | '+' =>
    if s.repeatable then some (s, if r.head? = some '?' then r.drop 1 else r) else none
  | '\x7b' => none
  | '\\' => (readEscape? s.flags r).bind fun e => s.operand (e.1.isAllowed s.flags) e.2
  | '.' => s.operand s.flags.unicode r
  | '^' | '$' => s.operand true r
  | c => s.operand ((Escape.char c).isAllowed s.flags) r

/-- Whether the rest is the end of an expression.  Every step passes over a character. -/
def accepts (s : State) : Nat → List Char → Bool
  | 0, _ => false
  | fuel + 1, cs =>
    match s.flags.skip cs with
    | [] => s.outerFlags.isEmpty
    | c :: r =>
      match s.step? c r with
      | some (s, r) => accepts s fuel r
      | none => false

end State

end Pattern

/-- Whether a text without closing braces is a regular expression. -/
def isPattern (cs : List Char) : Bool := Pattern.State.initial.accepts (cs.length + 1) cs

end ApiDesign.Text
