import ApiDesign.Text.Split

/-!
# Paths

Paths are texts, with slashes between the names; they are kept as they are written.

* `join` — a path seen from another one;
* `parent?` — a path without its last component;
* `components` — the names on the way.
-/

namespace ApiDesign.FilePath

/-- Whether a path starts at the root. -/
def isAbsolute (p : String) : Bool := p.toList.head? = some '/'

/-- A path seen from a base: after the base and one slash, unless it starts at the root. -/
def join (base p : String) : String :=
  if isAbsolute p then p
  else if base.isEmpty || base.toList.getLast? = some '/' then base ++ p
  else base ++ "/" ++ p

/-- Words with the number of characters before the end of each; `start` characters stand before the
first. -/
def withEnds (start : Nat) : List (List Char) → List (List Char × Nat)
  | [] => []
  | word :: words => (word, start + word.length) :: withEnds (start + word.length + 1) words

/-- The ends of the components of a path.  The root is a component, and so is a dot at the
beginning; other dots are none. -/
def componentEnds (p : List Char) : List Nat :=
  match withEnds 0 (Text.splitAt '/' p) with
  | [] => []
  | (word, stop) :: rest =>
    let first := if !word.isEmpty then [stop] else if p.isEmpty then [] else [1]
    first ++ (rest.filter fun w => w.1 ≠ [] && w.1 ≠ ['.']).map (·.2)

/-- A path without its last component.  The root has no parent, and neither has the empty path. -/
def parent? (p : String) : Option String :=
  match (componentEnds p.toList).reverse with
  | [] => none
  | [_] => if isAbsolute p then none else some ""
  | _ :: stop :: _ => some (String.ofList (p.toList.take stop))

/-- The names on the way from the root, or from the working directory.  A slash at the end asks for a
directory, as a dot does. -/
def components (p : String) : List String :=
  let words := (Text.splitText '/' p).filter (· ≠ "")
  if p.toList.getLast? = some '/' then words ++ ["."] else words

end ApiDesign.FilePath
