import ApiDesign.OpenApi.Document
import ApiDesign.PathTemplate

/-!
# Parameters of a route

A payload attribute that is named after a wildcard of the path is a path parameter, which is always
required; every other one goes into the query.  Attributes that carry credentials belong to the
security schemes and are no parameters.
-/

namespace ApiDesign.OpenApi

/-- The text for a locale, if there is one. -/
def localText (text : Option (Localized String)) (locale : String) : Option String :=
  text.map (·.resolve locale)

/-- The parameter that an attribute becomes in a path with the given wildcards. -/
def Parameter.ofAttribute (wildcards : List String) (locale : String) (a : Attribute) :
    Parameter where
  location := if wildcards.contains a.name then .path else .query
  name := a.name
  description := localText a.description locale
  required := wildcards.contains a.name || a.required
  explode := if a.type.isArray then some true else none
  schema := Schema.ofType a.type
  example? := a.example?.map (·.resolve locale)

/-- The parameters that the attributes of a payload become in a path. -/
def classify (attributes : List Attribute) (path locale : String) : List Parameter :=
  (attributes.filter (·.role.isNone)).map
    (Parameter.ofAttribute (PathTemplate.wildcards path) locale)

end ApiDesign.OpenApi
