import ApiDesign.Yaml.BlockText
import ApiDesign.Yaml.PlainText
import ApiDesign.Yaml.Quoted
import ApiDesign.Yaml.Token

/-!
# Layout

How a stream is cut into tokens.  Indentation opens and closes collections.  A mapping key need not
be marked: what stands before a colon on the same line is a key, so the place where a key may have
begun is kept in mind until the colon comes or can no longer come.

* `Layout` — the state between two tokens;
* `Layout.step` — the next token, with the tokens that indentation implies;
* `tokensOf` — the tokens of a stream.
-/

namespace ApiDesign.Yaml

/-- A place where an unmarked key may have begun. -/
structure PossibleKey where
  /-- The number of tokens before it. -/
  tokens : Nat
  line : Nat
  column : Nat
  /-- The number of octets before it on its line. -/
  octets : Nat
  /-- Whether only a key can stand there. -/
  required : Bool

/-- The state between two tokens. -/
structure Layout where
  rest : List Char
  line : Nat
  column : Nat
  /-- The number of octets before the rest on its line. -/
  octets : Nat
  /-- The tokens so far, the last one first. -/
  tokens : List Token
  /-- The column of the innermost block collection; -1 outside of all. -/
  indent : Int
  /-- The columns of the block collections around it. -/
  outerIndents : List Int
  /-- Where an unmarked key may have begun in the innermost collection. -/
  possibleKey : Option PossibleKey
  /-- The same for the collections around each open flow collection. -/
  outerKeys : List (Option PossibleKey)
  /-- Whether an unmarked key may begin here. -/
  keyAllowed : Bool

namespace Layout

/-- The state before a stream. -/
def start (cs : List Char) : Layout := ⟨cs, 0, 0, 0, [], -1, [], none, [], true⟩

/-- Whether a flow collection is open. -/
def inFlow (l : Layout) : Bool := !l.outerKeys.isEmpty

/-- Appends a token. -/
def emit (l : Layout) (t : Token) : Layout := { l with tokens := t :: l.tokens }

/-- Puts a token behind the first tokens, of which the number is given. -/
def insertToken (l : Layout) (number : Nat) (t : Token) : Layout :=
  let later := l.tokens.length - number
  { l with tokens := l.tokens.take later ++ t :: l.tokens.drop later }

/-- Passes over a character. -/
def pass (l : Layout) (c : Char) : Layout :=
  if isBreak c then { l with line := l.line + 1, column := 0, octets := 0 }
  else { l with column := l.column + 1, octets := l.octets + c.utf8Size }

/-- Goes on with characters that are the end of the rest. -/
def goto (l : Layout) (rest : List Char) : Layout :=
  { (l.rest.take (l.rest.length - rest.length)).foldl pass l with rest := rest }

/-! ### Indentation -/

/-- Opens a block collection at a column if that is indented more than the one around it.  Its token
stands behind the first tokens, of which the number is given. -/
def openBlock (l : Layout) (column number : Nat) (t : Token) : Layout :=
  if !l.inFlow && l.indent < column then
    { l with indent := column, outerIndents := l.indent :: l.outerIndents }.insertToken number t
  else l

/-- Closes the block collections that are indented by more than a column, given the columns of the
collections around the innermost one. -/
def closeBlocksTo (l : Layout) (column : Int) : List Int → Layout
  | [] => l
  | outer :: r =>
    if column < l.indent then
      closeBlocksTo ({ l with indent := outer, outerIndents := r }.emit .blockEnd) column r
    else l

/-- Closes the block collections that are indented by more than a column, unless a flow collection is
open. -/
def closeBlocks (l : Layout) (column : Int) : Layout :=
  if l.inFlow then l else l.closeBlocksTo column l.outerIndents

/-! ### Unmarked keys -/

/-- Gives up the place where a key may have begun. -/
def dropKey (l : Layout) : Except SyntaxError Layout :=
  match l.possibleKey with
  | some k => if k.required then .error .keyWithoutValue else .ok { l with possibleKey := none }
  | none => .ok l

/-- Notes that a key may begin here.  In a block that is indented to this column, it must. -/
def noteKey (l : Layout) : Except SyntaxError Layout :=
  if l.keyAllowed then do
    let required := !l.inFlow && l.indent = l.column
    return { ← l.dropKey with
      possibleKey := some ⟨l.tokens.length, l.line, l.column, l.octets, required⟩ }
  else .ok l

/-- A place where a key may have begun, unless the colon can no longer come: a key ends on its line
and within 1024 octets. -/
def freshKey (l : Layout) (k : Option PossibleKey) : Except SyntaxError (Option PossibleKey) :=
  match k with
  | some k =>
    if k.line < l.line || k.octets + 1024 < l.octets then
      if k.required then .error .keyWithoutValue else .ok none
    else .ok (some k)
  | none => .ok none

/-- Gives up the places where no key can have begun. -/
def dropStaleKeys (l : Layout) : Except SyntaxError Layout := do
  let possibleKey ← l.freshKey l.possibleKey
  let outerKeys ← l.outerKeys.mapM l.freshKey
  return { l with possibleKey := possibleKey, outerKeys := outerKeys }

/-! ### Blanks and comments -/

/-- Passes over blanks, comments and line breaks; `comment` tells whether a comment was begun.  Tabs
count as blanks where no key may begin, and a byte order mark does at the beginning of a line. -/
def skipFrom (l : Layout) (comment : Bool) : List Char → Layout
  | [] => { l with rest := [] }
  | c :: r =>
    if isBreak c then
      skipFrom { l.pass c with keyAllowed := l.keyAllowed || !l.inFlow } false r
    else if comment || c = ' ' || (c = '\t' && (l.inFlow || !l.keyAllowed))
        || (c = '\ufeff' && l.column = 0) then
      skipFrom (l.pass c) comment r
    else if c = '#' then skipFrom (l.pass c) true r
    else { l with rest := c :: r }

/-- Passes over blanks, comments and line breaks. -/
def skip (l : Layout) : Layout := l.skipFrom false l.rest

/-! ### Single tokens -/

/-- Appends a token that ends before the given characters, after which an unmarked key may or may
not begin. -/
def take (l : Layout) (t : Token) (rest : List Char) (keyAllowed : Bool) : Layout :=
  { (l.goto rest).emit t with keyAllowed := keyAllowed }

/-- Ends all blocks for a directive or a mark of a document. -/
def endBlocks (l : Layout) : Except SyntaxError Layout := (l.closeBlocks (-1)).dropKey

/-- A directive. -/
def directive (l : Layout) (r : List Char) : Except SyntaxError Layout := do
  let l ← l.endBlocks
  let (t, rest) ← readDirective r
  return l.take t rest false

/-- A mark at the beginning or the end of a document. -/
def documentMark (l : Layout) (t : Token) (r : List Char) : Except SyntaxError Layout := do
  return (← l.endBlocks).take t r false

/-- The beginning of a flow collection. -/
def openFlow (l : Layout) (t : Token) (r : List Char) : Except SyntaxError Layout := do
  let l ← l.noteKey
  return { l.take t r true with possibleKey := none, outerKeys := l.possibleKey :: l.outerKeys }

/-- The end of a flow collection. -/
def closeFlow (l : Layout) (t : Token) (r : List Char) : Except SyntaxError Layout := do
  let l := (← l.dropKey).take t r false
  match l.outerKeys with
  | k :: outer => return { l with possibleKey := k, outerKeys := outer }
  | [] => return l

/-- The comma of a flow collection. -/
def flowEntry (l : Layout) (r : List Char) : Except SyntaxError Layout := do
  return (← l.dropKey).take .flowEntry r true

/-- The dash of a block sequence. -/
def blockEntry (l : Layout) (r : List Char) : Except SyntaxError Layout := do
  if !l.inFlow && !l.keyAllowed then throw .misplacedEntry
  else
    let l := l.openBlock l.column l.tokens.length .blockSequenceStart
    return (← l.dropKey).take .blockEntry r true

/-- The mark of a key. -/
def key (l : Layout) (r : List Char) : Except SyntaxError Layout := do
  if !l.inFlow && !l.keyAllowed then throw .misplacedKey
  else
    let l := l.openBlock l.column l.tokens.length .blockMappingStart
    return (← l.dropKey).take .key r (!l.inFlow)

/-- The colon after a key. -/
def value (l : Layout) (r : List Char) : Except SyntaxError Layout :=
  match l.possibleKey with
  | some k =>
    let l := (l.insertToken k.tokens .key).openBlock k.column k.tokens .blockMappingStart
    .ok { l.take .value r false with possibleKey := none }
  | none =>
    if !l.inFlow && !l.keyAllowed then .error .misplacedValue
    else
      let l := l.openBlock l.column l.tokens.length .blockMappingStart
      .ok (l.take .value r (!l.inFlow))

/-- An anchor or an alias. -/
def anchor (l : Layout) (make : String → Token) (r : List Char) : Except SyntaxError Layout := do
  let l ← l.noteKey
  let (name, rest) ← readAnchor r
  return l.take (make name) rest false

/-- A tag. -/
def tag (l : Layout) (r : List Char) : Except SyntaxError Layout := do
  let l ← l.noteKey
  let (t, rest) ← readTag l.inFlow r
  return l.take t rest false

/-- A block scalar. -/
def blockScalar (l : Layout) (style : ScalarStyle) (r : List Char) :
    Except SyntaxError Layout := do
  let l ← l.dropKey
  let (text, rest) ← readBlock (style = .folded) l.indent r
  return l.take (.scalar style text) rest true

/-- A quoted scalar. -/
def quotedScalar (l : Layout) (style : ScalarStyle) (r : List Char) :
    Except SyntaxError Layout := do
  let l ← l.noteKey
  let (text, rest) ← if style = .doubleQuoted then readDouble r else readSingle r
  return l.take (.scalar style text) rest false

/-- Whether a plain scalar may begin with a character that other characters follow. -/
def startsPlain (flow : Bool) (c : Char) (r : List Char) : Bool :=
  if c = '-' then !(r.head?.map isWhite).getD false
  else if c = '?' || c = ':' then !flow && !startsGap r
  else !isGap c && !"-?:,[]\x7b\x7d#&*!|>'\"%@`".toList.contains c

/-- A plain scalar. -/
def plainScalar (l : Layout) : Except SyntaxError Layout := do
  let l ← l.noteKey
  let plain ← readPlain l.inFlow (l.indent + 1) l.rest
  return l.take (.scalar .plain plain.text) plain.rest plain.brokenAfter

/-! ### Streams -/

/-- The token that begins with a character; its place is known to be neither blank nor that of a
directive or a mark of a document. -/
def tokenAt (l : Layout) (c : Char) (r : List Char) : Except SyntaxError Layout :=
  if c = '[' then l.openFlow .flowSequenceStart r
  else if c = '{' then l.openFlow .flowMappingStart r
  else if c = ']' then l.closeFlow .flowSequenceEnd r
  else if c = '}' then l.closeFlow .flowMappingEnd r
  else if c = ',' then l.flowEntry r
  else if c = '-' && startsGap r then l.blockEntry r
  else if c = '?' && (l.inFlow || startsGap r) then l.key r
  else if c = ':' && (l.inFlow || startsGap r) then l.value r
  else if c = '*' then l.anchor .alias r
  else if c = '&' then l.anchor .anchor r
  else if c = '!' then l.tag r
  else if c = '|' && !l.inFlow then l.blockScalar .literal r
  else if c = '>' && !l.inFlow then l.blockScalar .folded r
  else if c = '\'' then l.quotedScalar .singleQuoted r
  else if c = '"' then l.quotedScalar .doubleQuoted r
  else if startsPlain l.inFlow c r then l.plainScalar
  else .error .unexpectedCharacter

/-- The next token, or none at the end of the stream. -/
def step (l : Layout) : Except SyntaxError (Layout × Bool) := do
  let l := l.skip
  let l ← l.dropStaleKeys
  let l := l.closeBlocks l.column
  match l.rest with
  | [] => return (← l.endBlocks, false)
  | c :: r =>
    if l.column = 0 && c = '%' then return (← l.directive r, true)
    else if l.column = 0 && startsDocumentMark (c :: r) then
      let t := if c = '-' then Token.documentStart else Token.documentEnd
      return (← l.documentMark t (r.drop 2), true)
    else return (← l.tokenAt c r, true)

/-- The state at the end of the stream.  Every step passes over a character, so that the number of
characters is fuel enough. -/
def run (l : Layout) : Nat → Except SyntaxError Layout
  | 0 => .ok l
  | fuel + 1 => do
    let (l, more) ← l.step
    if more then run l fuel else return l

end Layout

/-- The tokens of a stream. -/
def tokensOf (cs : List Char) : Except SyntaxError (List Token) := do
  return (← (Layout.start cs).run (cs.length + 1)).tokens.reverse

end ApiDesign.Yaml
