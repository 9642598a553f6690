import ApiDesign.Yaml.Stream

/-!
# Gaps inside flowing text

Blanks and line breaks between the words of a scalar that is not a block scalar.  Blanks count only
if no line break follows or precedes them; a single line feed becomes a blank, and of several breaks
the first is dropped.
-/

namespace ApiDesign.Yaml

/-- A gap that is being read. -/
structure Gap where
  /-- The blanks so far, the last one first, as long as no line break was seen. -/
  blanks : List Char
  /-- Whether a line break was seen. -/
  broken : Bool
  /-- The first line break, unless it was escaped. -/
  first : List Char
  /-- The other line breaks, the last one first. -/
  others : List Char
  /-- The number of blanks since the last line break. -/
  column : Nat

namespace Gap

/-- The gap of no characters. -/
def empty : Gap := ⟨[], false, [], [], 0⟩

/-- The gap that an escaped line break begins. -/
def escaped : Gap := ⟨[], true, [], [], 0⟩

/-- The gap with one more blank or tab. -/
def addBlank (g : Gap) (c : Char) : Gap :=
  if g.broken then { g with column := g.column + 1 }
  else { g with blanks := c :: g.blanks, column := g.column + 1 }

/-- The gap with one more line break. -/
def addBreak (g : Gap) (c : Char) : Gap :=
  if g.broken then { g with others := c :: g.others, column := 0 }
  else ⟨[], true, [c], [], 0⟩

/-- What the gap stands for. -/
def text (g : Gap) : List Char :=
  if !g.broken then g.blanks.reverse
  else if g.first = ['\n'] then
    if g.others.isEmpty then [' '] else g.others.reverse
  else g.first ++ g.others.reverse

/-- Text, the last character first, that goes on after a gap. -/
def append (g : Gap) (reversed : List Char) : List Char := g.text.reverse ++ reversed

/-- Whether the next character stands at the beginning of a line. -/
def atLineStart (g : Gap) : Bool := g.broken && g.column = 0

end Gap

end ApiDesign.Yaml
