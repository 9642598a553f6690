/-!
# Streams of characters

The characters of a YAML stream, and what can be wrong with a stream.

* `SyntaxError` — why a text is not one well-formed document;
* `streamOf` — the characters of a text: all spellings of the line feed become one, and characters
  that no stream may hold are refused;
* `isBreak`, `isWhite`, `isWordChar` — the classes of characters;
* `startsDocumentMark` — the marks `---` and `...` at the beginning of a line;
* `skipLineEnd` — passes over the end of a line.
-/

namespace ApiDesign.Yaml

/-- Why a text is not one well-formed document. -/
inductive SyntaxError where
  | forbiddenCharacter | unexpectedCharacter
  | unknownDirective | malformedDirective | repeatedDirective | unsupportedVersion
  | malformedAnchor | unknownAnchor
  | malformedTag | undefinedTagHandle
  | unknownEscape | malformedEscape | unclosedQuote | documentMarkInQuotes
  | malformedBlockHeader | tabInIndentation | colonInPlainText
  | keyWithoutValue | misplacedEntry | misplacedKey | misplacedValue
  | expectedNode | expectedEntry | expectedKey | expectedSeparator
  | expectedDocument | severalDocuments
  deriving DecidableEq, Repr, Inhabited

/-- The message of a syntax error. -/
def SyntaxError.message : SyntaxError → String
  | .forbiddenCharacter => "control characters are not allowed"
  | .unexpectedCharacter => "found character that cannot start any token"
  | .unknownDirective => "found unknown directive name"
  | .malformedDirective => "did not find expected comment or line break"
  | .repeatedDirective => "found duplicate directive"
  | .unsupportedVersion => "found incompatible YAML document"
  | .malformedAnchor => "did not find expected alphabetic or numeric character"
  | .unknownAnchor => "unknown anchor"
  | .malformedTag => "did not find expected tag URI"
  | .undefinedTagHandle => "found undefined tag handle"
  | .unknownEscape => "found unknown escape character"
  | .malformedEscape => "did not find expected hexadecimal number"
  | .unclosedQuote => "found unexpected end of stream"
  | .documentMarkInQuotes => "found unexpected document indicator"
  | .malformedBlockHeader => "did not find expected comment or line break"
  | .tabInIndentation => "found a tab character where an indentation space is expected"
  | .colonInPlainText => "found unexpected ':'"
  | .keyWithoutValue => "could not find expected ':'"
  | .misplacedEntry => "block sequence entries are not allowed in this context"
  | .misplacedKey => "mapping keys are not allowed in this context"
  | .misplacedValue => "mapping values are not allowed in this context"
  | .expectedNode => "did not find expected node content"
  | .expectedEntry => "did not find expected '-' indicator"
  | .expectedKey => "did not find expected key"
  | .expectedSeparator => "did not find expected ','"
  | .expectedDocument => "did not find expected <document start>"
  | .severalDocuments => "deserializing from YAML containing more than one document is not supported"

/-! ### Classes of characters -/

/-- A character that a stream may hold. -/
def isAllowed (c : Char) : Bool :=
  let n := c.toNat
  n == 0x09 || n == 0x0A || n == 0x0D || (0x20 ≤ n && n ≤ 0x7E) || n == 0x85
    || (0xA0 ≤ n && n ≤ 0xD7FF) || (0xE000 ≤ n && n ≤ 0xFFFD)
    || (0x10000 ≤ n && n ≤ 0x10FFFF)

/-- A line break of a normalised stream. -/
def isBreak (c : Char) : Bool := c = '\n' || c = '\u2028' || c = '\u2029'

/-- A blank or a tab. -/
def isWhite (c : Char) : Bool := c = ' ' || c = '\t'

/-- A blank, a tab or a line break. -/
def isGap (c : Char) : Bool := isWhite c || isBreak c

/-- A character of a name: a letter, a digit, `-` or `_`. -/
def isWordChar (c : Char) : Bool := c.isAlphanum || c = '-' || c = '_'

/-- Whether the characters are at an end or go on with a blank, a tab or a line break. -/
def startsGap : List Char → Bool
  | [] => true
  | c :: _ => isGap c

/-- Whether the characters go on with a mark of a document. -/
def startsDocumentMark : List Char → Bool
  | '-' :: '-' :: '-' :: r => startsGap r
  | '.' :: '.' :: '.' :: r => startsGap r
  | _ => false

/-- The characters after the rest of a line that holds nothing but perhaps a comment; the given
error tells what else it may hold. -/
def skipLineEnd (error : SyntaxError) (cs : List Char) : Except SyntaxError (List Char) :=
  let r := cs.dropWhile isWhite
  let r := if r.head? = some '#' then r.dropWhile (!isBreak ·) else r
  match r with
  | [] => .ok []
  | c :: r => if isBreak c then .ok r else .error error

/-! ### From texts to streams -/

/-- Makes one line feed of carriage returns, with or without a line feed, and of U+0085. -/
def normaliseBreaks : List Char → List Char
  | [] => []
  | '\r' :: '\n' :: r => '\n' :: normaliseBreaks r
  | c :: r => (if c = '\r' || c = '\u0085' then '\n' else c) :: normaliseBreaks r

/-- The stream of a text. -/
def streamOf (text : String) : Except SyntaxError (List Char) :=
  let cs := text.toList
  if cs.all isAllowed then .ok (normaliseBreaks cs) else .error .forbiddenCharacter

end ApiDesign.Yaml
