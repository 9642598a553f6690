import ApiDesign.Yaml.Scalar
import ApiDesign.Yaml.Stream

/-!
# Tokens

A stream is a sequence of tokens: the marks of collections, scalars, and the properties of nodes.
Collections that are shown by indentation have a token at either end as well.

* `Token` — the tokens;
* `readAnchor`, `readTag`, `readDirective` — tokens that consist of words.
-/

namespace ApiDesign.Yaml

/-- A token of a stream. -/
inductive Token where
  | blockSequenceStart | blockMappingStart | blockEnd
  | flowSequenceStart | flowSequenceEnd | flowMappingStart | flowMappingEnd
  | blockEntry | flowEntry | key | value
  | alias (name : String)
  | anchor (name : String)
  /-- A tag.  The handle of one that is written in full is empty. -/
  | tag (handle : String) (suffix : Tag)
  | scalar (style : ScalarStyle) (text : String)
  | versionDirective (major minor : Nat)
  | tagDirective (handle : String) (start : Tag)
  | documentStart | documentEnd
  deriving DecidableEq, Repr, Inhabited

/-! ### Anchors and aliases -/

/-- Whether a name may end before the characters. -/
def endsName : List Char → Bool
  | [] => true
  | c :: _ => isGap c || "?:,]\x7d%@`".toList.contains c

/-- Reads the name of an anchor after its mark. -/
def readAnchor (cs : List Char) : Except SyntaxError (String × List Char) :=
  let name := cs.takeWhile isWordChar
  let rest := cs.dropWhile isWordChar
  if name.isEmpty || !endsName rest then .error .malformedAnchor
  else .ok (String.ofList name, rest)

/-! ### Tags -/

/-- A character of the address that a tag stands for.  Commas and brackets only occur where no
collection can be meant. -/
def isTagChar (brackets : Bool) (c : Char) : Bool :=
  isWordChar c || ";/?:@&=+$.%!~*'()".toList.contains c || (brackets && ",[]".toList.contains c)

/-- The octet that an escape stands for. -/
def readOctet : List Char → Except SyntaxError (UInt8 × List Char)
  | '%' :: a :: b :: r =>
    match Text.digitValue? 16 a, Text.digitValue? 16 b with
    | some x, some y => .ok (UInt8.ofNat (16 * x + y), r)
    | _, _ => .error .malformedTag
  | _ => .error .malformedTag

/-- The number of octets of a character that begins with an octet. -/
def octetCount? (octet : UInt8) : Option Nat :=
  if octet < 0x80 then some 1
  else if octet < 0xC0 then none
  else if octet < 0xE0 then some 2
  else if octet < 0xF0 then some 3
  else if octet < 0xF8 then some 4
  else none

/-- Reads the escapes of a number of octets that continue a character. -/
def readContinuation : Nat → List Char → Except SyntaxError (List UInt8 × List Char)
  | 0, cs => .ok ([], cs)
  | n + 1, cs => do
    let (octet, r) ← readOctet cs
    if 0x80 ≤ octet && octet < 0xC0 then
      let (octets, r) ← readContinuation n r
      return (octet :: octets, r)
    else throw .malformedTag

/-- Reads the escapes of a character.  There are as many as the first octet announces; whether they
are the shortest form of a character does not matter. -/
def readEscaped (cs : List Char) : Except SyntaxError (List UInt8 × List Char) := do
  let (octet, r) ← readOctet cs
  match octetCount? octet with
  | none => throw .malformedTag
  | some count =>
    let (octets, r) ← readContinuation (count - 1) r
    return (octet :: octets, r)

/-- The octets of an address, which is written in ASCII characters.  The fuel is the number of
characters. -/
def octetsOf : Nat → List Char → Except SyntaxError (List UInt8)
  | 0, _ => .ok []
  | _, [] => .ok []
  | fuel + 1, c :: r =>
    if c = '%' then do
      let (octets, r) ← readEscaped (c :: r)
      return octets ++ (← octetsOf fuel r)
    else do return UInt8.ofNat c.toNat :: (← octetsOf fuel r)

/-- Reads an address up to the first character that cannot belong to it.  The address ends before the
first octet that is zero, whatever follows. -/
def readAddress (brackets : Bool) (cs : List Char) : Except SyntaxError (Tag × List Char) := do
  let written := cs.takeWhile (isTagChar brackets)
  let octets ← octetsOf written.length written
  return (⟨octets.takeWhile (· ≠ 0)⟩, cs.dropWhile (isTagChar brackets))

/-- Reads an address of which at least one character is written. -/
def readSomeAddress (brackets : Bool) (cs : List Char) : Except SyntaxError (Tag × List Char) :=
  if (cs.head?.map (isTagChar brackets)).getD false then readAddress brackets cs
  else .error .malformedTag

/-- Reads the address of a tag that is written in full, after `!<`. -/
def readFullTag (cs : List Char) : Except SyntaxError (Token × List Char) := do
  let (address, r) ← readSomeAddress true cs
  match r with
  | '>' :: r => return (.tag "" address, r)
  | _ => throw .malformedTag

/-- Reads a tag after its first mark: `!handle!suffix`, `!suffix`, or the mark alone, which is
itself the tag. -/
def readShortTag (cs : List Char) : Except SyntaxError (Token × List Char) := do
  let word := cs.takeWhile isWordChar
  match cs.dropWhile isWordChar with
  | '!' :: r =>
    let (suffix, r) ← readSomeAddress false r
    return (.tag (String.ofList ('!' :: word ++ ['!'])) suffix, r)
  | _ =>
    let (suffix, r) ← readAddress false cs
    return (if suffix.octets.isEmpty then .tag "" (.ofText "!") else .tag "!" suffix, r)

/-- Whether a tag may end before the characters. -/
def endsTag (flow : Bool) : List Char → Bool
  | [] => true
  | c :: _ => isGap c || (flow && c = ',')

/-- Reads a tag after its first mark. -/
def readTag (flow : Bool) (cs : List Char) : Except SyntaxError (Token × List Char) := do
  let (tag, r) ← match cs with
    | '<' :: r => readFullTag r
    | r => readShortTag r
  if endsTag flow r then return (tag, r) else throw .malformedTag

/-! ### Directives -/

/-- Reads a part of a version number, of at most nine digits. -/
def readVersionPart (cs : List Char) : Except SyntaxError (Nat × List Char) :=
  let digits := cs.takeWhile Char.isDigit
  if digits.isEmpty || 9 < digits.length then .error .malformedDirective
  else .ok (Decimal.readDigits 0 digits, cs.dropWhile Char.isDigit)

/-- Reads the version that a directive declares. -/
def readVersion (cs : List Char) : Except SyntaxError (Token × List Char) := do
  let (major, r) ← readVersionPart (cs.dropWhile isWhite)
  match r with
  | '.' :: r =>
    let (minor, r) ← readVersionPart r
    return (.versionDirective major minor, r)
  | _ => throw .malformedDirective

/-- Reads the handle that a directive declares: the mark alone, or a word between two marks. -/
def readHandle : List Char → Except SyntaxError (String × List Char)
  | '!' :: cs =>
    let word := cs.takeWhile isWordChar
    match cs.dropWhile isWordChar with
    | '!' :: r => .ok (String.ofList ('!' :: word ++ ['!']), r)
    | r => if word.isEmpty then .ok ("!", r) else .error .malformedDirective
  | _ => .error .malformedDirective

/-- Reads a handle and the beginning of an address that it stands for. -/
def readTagDeclaration (cs : List Char) : Except SyntaxError (Token × List Char) := do
  let (handle, r) ← readHandle (cs.dropWhile isWhite)
  if (r.head?.map isWhite).getD false then
    let (start, r) ← readSomeAddress true (r.dropWhile isWhite)
    if startsGap r then return (.tagDirective handle start, r) else throw .malformedDirective
  else throw .malformedDirective

/-- Reads a directive after its mark, up to the end of its line. -/
def readDirective (cs : List Char) : Except SyntaxError (Token × List Char) := do
  let name := String.ofList (cs.takeWhile isWordChar)
  let r := cs.dropWhile isWordChar
  if name.isEmpty || !startsGap r then throw .malformedDirective
  else
    let (token, r) ←
      if name = "YAML" then readVersion r
      else if name = "TAG" then readTagDeclaration r
      else throw .unknownDirective
    return (token, ← skipLineEnd .malformedDirective r)

end ApiDesign.Yaml
