import ApiDesign.DesignError
import ApiDesign.Text.Alphanumeric

/-!
# Path templates

A path template is a literal path with wildcards between braces.  Stars before the name of a
wildcard mark it as a catch-all and are no part of the name.

* `PathTemplate.check` — whether a text is a template, with the first fault if it is none;
* `PathTemplate.wildcards` — the names of the wildcards of a text, template or not.
-/

namespace ApiDesign.PathTemplate

/-- Why a text is no path template. -/
inductive Fault where
  | noLeadingSlash
  | nestedBraces
  | unmatchedClosingBrace
  | emptyName
  | duplicateName (name : String)
  | invalidCharacter (c : Char)
  | unclosedBrace
  deriving DecidableEq, Repr

/-- The description of a fault. -/
def Fault.describe : Fault → String
  | .noLeadingSlash => "must start with '/'"
  | .nestedBraces => "nested braces not allowed"
  | .unmatchedClosingBrace => "unmatched closing brace"
  | .emptyName => "empty wildcard name"
  | .duplicateName name => "duplicate wildcard '" ++ name ++ "'"
  | .invalidCharacter c =>
    "invalid character '" ++ String.ofList [c] ++ "' in wildcard name"
  | .unclosedBrace => "unclosed brace"

/-- A character of a wildcard name. -/
def isNameChar (c : Char) : Bool := Text.isAlphanumeric c || c = '_' || c = '.'

/-- Reads a text from a place outside or inside a wildcard.  `seen` holds the names of the
wildcards so far; inside, the characters of the name so far are given in reverse. -/
def scan (seen : List (List Char)) : Option (List Char) → List Char → Except Fault Unit
  | none, [] => .ok ()
  | some _, [] => .error .unclosedBrace
  | none, c :: r =>
    if c = '{' then scan seen (some []) r
    else if c = '}' then .error .unmatchedClosingBrace
    else scan seen none r
  | some name, c :: r =>
    if c = '{' then .error .nestedBraces
    else if c = '}' then
      if name.isEmpty then .error .emptyName
      else if seen.contains name.reverse then .error (.duplicateName (String.ofList name.reverse))
      else scan (name.reverse :: seen) none r
    else if c = '*' && name.isEmpty then scan seen (some name) r
    else if isNameChar c then scan seen (some (c :: name)) r
    else .error (.invalidCharacter c)

/-- Whether the characters are a path template. -/
def checkChars : List Char → Except Fault Unit
  | '/' :: r => scan [] none r
  | _ => .error .noLeadingSlash

/-- Whether the text is a path template. -/
def check (path : String) : Except DesignError Unit :=
  match checkChars path.toList with
  | .ok () => .ok ()
  | .error fault => .error (.invalidPathTemplate (path ++ " - " ++ fault.describe))

/-- The name inside a wildcard, given in reverse: without leading stars, if anything is left. -/
def nameOf (inside : List Char) : List String :=
  let name := inside.reverse.dropWhile (· = '*')
  if name.isEmpty then [] else [String.ofList name]

/-- The wildcard names from a place outside or inside a wildcard. -/
def collect : Option (List Char) → List Char → List String
  | _, [] => []
  | none, c :: r => if c = '{' then collect (some []) r else collect none r
  | some inside, c :: r =>
    if c = '}' then nameOf inside ++ collect none r else collect (some (c :: inside)) r

/-- The names of the wildcards, in order of appearance. -/
def wildcards (path : String) : List String := collect none path.toList

end ApiDesign.PathTemplate
