import ApiDesign.Security.Scheme

/-!
# The scheme registry

Security schemes are registered once, in order, and found again by name or by the handle that
their registration returned.

* `SchemeRegistry.register` — refuses a name that is taken;
* `SchemeRegistry.get?`, `SchemeRegistry.resolve` — look-up by name and by reference.
-/

namespace ApiDesign

/-- The place of a scheme in its registry, counted from zero. -/
structure SchemeHandle where
  index : Nat
  deriving DecidableEq, Repr, Inhabited

/-- A reference to a scheme. -/
inductive SchemeRef where
  | name (name : String)
  | handle (handle : SchemeHandle)
  deriving DecidableEq, Repr, Inhabited

/-- The registered schemes, in the order of their registration. -/
structure SchemeRegistry where
  schemes : List SecurityScheme
  deriving Inhabited

namespace SchemeRegistry

/-- The registry without schemes. -/
def empty : SchemeRegistry := ⟨[]⟩

/-- The number of registered schemes. -/
def size (r : SchemeRegistry) : Nat := r.schemes.length

/-- Whether no scheme is registered. -/
def isEmpty (r : SchemeRegistry) : Bool := r.schemes.isEmpty

/-- The scheme of a name. -/
def get? (r : SchemeRegistry) (name : String) : Option SecurityScheme :=
  r.schemes.find? fun s => s.name = name

/-- Whether a scheme of the name is registered. -/
def contains (r : SchemeRegistry) (name : String) : Bool := (r.get? name).isSome

/-- Registers a scheme under its name, which must be free, and returns its handle. -/
def register (r : SchemeRegistry) (scheme : SecurityScheme) :
    Except DesignError (SchemeHandle × SchemeRegistry) :=
  if r.contains scheme.name then .error (.duplicateScheme scheme.name)
  else .ok (⟨r.schemes.length⟩, ⟨r.schemes ++ [scheme]⟩)

/-- The scheme that a reference stands for. -/
def resolve (r : SchemeRegistry) : SchemeRef → Except DesignError SecurityScheme
  | .name name =>
    match r.get? name with
    | some scheme => .ok scheme
    | none => .error (.unknownScheme name)
  | .handle h =>
    match r.schemes[h.index]? with
    | some scheme => .ok scheme
    | none => .error (.unknownScheme ("#" ++ toString h.index))

end SchemeRegistry

end ApiDesign
