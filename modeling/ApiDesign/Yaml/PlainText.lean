import ApiDesign.Yaml.Gap

/-!
# Plain scalars

Text without quotes.  It ends before `: `, before ` #`, in a flow collection also before the
characters of the collection, and in a block where a line is indented too little.
-/

namespace ApiDesign.Yaml

/-- What reading a plain scalar came to. -/
structure PlainText where
  text : String
  rest : List Char
  /-- Whether line breaks were passed after the last character of the text. -/
  brokenAfter : Bool

/-- A character that structures flow collections. -/
def isFlowMark (c : Char) : Bool :=
  c = ',' || c = '[' || c = ']' || c = '{' || c = '}'

/-- Whether a plain scalar ends before the characters, apart from gaps. -/
def endsPlain (flow : Bool) : List Char → Bool
  | [] => true
  | c :: r => (c = ':' && startsGap r) || (flow && isFlowMark c)

/-- Whether a plain scalar ends after a gap: before a line that is indented too little, before a mark
of a document, and before a comment. -/
def Gap.endsPlain (gap : Gap) (flow : Bool) (indent : Int) (cs : List Char) : Bool :=
  (gap.broken && !flow && (gap.column : Int) < indent)
    || (gap.atLineStart && startsDocumentMark cs)
    || (cs.head? = some '#' && (gap.broken || !gap.blanks.isEmpty))

/-- A colon that is glued to a character of a flow collection. -/
def isGluedColon : List Char → Bool
  | ':' :: d :: _ => isFlowMark d || d = '?'
  | _ => false

/-- The end of a plain scalar.  The text is given in reverse, then the gap after it. -/
def PlainText.ofReading (text : List Char) (gap : Gap) (rest : List Char) : PlainText :=
  ⟨String.ofList text.reverse, rest, gap.broken⟩

/-- Reads on in a plain scalar.  Continuation lines are indented by at least `indent`; the text so
far is given in reverse, then the gap after it. -/
def readPlainFrom (flow : Bool) (indent : Int) (text : List Char) (gap : Gap) :
    List Char → Except SyntaxError PlainText
  | [] => .ok (.ofReading text gap [])
  | c :: r =>
    if isWhite c then
      if gap.broken && c = '\t' && (gap.column : Int) < indent then .error .tabInIndentation
      else readPlainFrom flow indent text (gap.addBlank c) r
    else if isBreak c then readPlainFrom flow indent text (gap.addBreak c) r
    else if gap.endsPlain flow indent (c :: r) then .ok (.ofReading text gap (c :: r))
    else if flow && isGluedColon (c :: r) then .error .colonInPlainText
    else if endsPlain flow (c :: r) then .ok (.ofReading text gap (c :: r))
    else readPlainFrom flow indent (c :: gap.append text) .empty r

/-- Reads a plain scalar. -/
def readPlain (flow : Bool) (indent : Int) (cs : List Char) : Except SyntaxError PlainText :=
  readPlainFrom flow indent [] .empty cs

end ApiDesign.Yaml
