import ApiDesign.CompileError
import ApiDesign.OpenApi.Parameters
import ApiDesign.Security.Effective

/-!
# Security of operations and components

The security in effect for a method becomes a list of requirement objects.  While operations are
written, the schemes they refer to are collected together with the scopes they require, and every
collected scheme becomes a component.

* `Referenced` — the collected schemes and scopes;
* `renderSecurity` — the security of an operation, and what it adds to the collection; an operation
  that names an unknown scheme keeps what it added before;
* `renderScheme` — the component of a scheme.
-/

namespace ApiDesign.OpenApi

/-- A set of names in order. -/
abbrev NameSet := KeyMap Unit

/-- The set with more names. -/
def NameSet.addAll (s : NameSet) (names : List String) : NameSet :=
  names.foldl (fun s name => s.insert name ()) s

/-- The schemes that operations refer to, with the scopes they require from each. -/
abbrev Referenced := KeyMap NameSet

/-- The collection with a scheme and scopes required from it. -/
def Referenced.add (r : Referenced) (scheme : String) (scopes : List String) : Referenced :=
  r.insert scheme (NameSet.addAll ((r.get? scheme).getD .empty) scopes)

/-- The scopes of a requirement that a scheme defines. -/
def requiredScopes (scheme : SecurityScheme) (requirement : Requirement) : List String :=
  requirement.scopes.filter scheme.hasScope

/-- The scopes that a requirement object lists for a scheme: only OAuth2 has a place for them. -/
def listedScopes (scheme : SecurityScheme) (required : List String) : List String :=
  if scheme.kind = .oauth2 then required else []

/-- Writes the schemes of a requirement into its object. -/
def renderSchemes (registry : SchemeRegistry) (operationId : String) (requirement : Requirement) :
    List String → SecurityRequirementObject → Referenced →
      Except CompileError SecurityRequirementObject × Referenced
  | [], object, referenced => (.ok object, referenced)
  | name :: r, object, referenced =>
    match registry.get? name with
    | none => (.error (.unknownScheme operationId name), referenced)
    | some scheme =>
      let required := requiredScopes scheme requirement
      renderSchemes registry operationId requirement r
        (object.insert name (listedScopes scheme required)) (referenced.add name required)

/-- Writes alternatives one after the other. -/
def renderAlternatives (registry : SchemeRegistry) (operationId : String) :
    List Requirement → Referenced →
      Except CompileError (List SecurityRequirementObject) × Referenced
  | [], referenced => (.ok [], referenced)
  | requirement :: r, referenced =>
    match renderSchemes registry operationId requirement requirement.schemes .empty referenced with
    | (.error e, referenced) => (.error e, referenced)
    | (.ok object, referenced) =>
      let rest := renderAlternatives registry operationId r referenced
      (rest.1.map (object :: ·), rest.2)

/-- The security of an operation, and the schemes referred to so far. -/
def renderSecurity (effective : EffectiveSecurity) (registry : SchemeRegistry)
    (operationId : String) (referenced : Referenced) :
    Except CompileError (Option (List SecurityRequirementObject)) × Referenced :=
  match effective with
  | .unspecified => (.ok none, referenced)
  | .disabled => (.ok (some []), referenced)
  | .required alternatives =>
    let rendered := renderAlternatives registry operationId alternatives referenced
    (rendered.1.map some, rendered.2)

/-! ### Components -/

/-- A name between backticks. -/
def codeSpan (s : String) : String := "`" ++ s ++ "`"

/-- The paragraph that lists the scopes a scheme defines. -/
def scopesParagraph (scopes : List Scope) : String :=
  "**Security Scopes**:"
    ++ String.join (scopes.map fun s => "\n  * " ++ codeSpan s.name ++ ": " ++ s.description)

/-- The paragraph that lists the scopes operations require. -/
def requiredParagraph (names : List String) : String :=
  "**Required security scopes**: " ++ ", ".intercalate (names.map codeSpan)

/-- The description of a JWT scheme: its own, then the scopes it defines, then the scopes that
operations require. -/
def jwtDescription (description : Option String) (scheme : SecurityScheme) (required : NameSet) :
    Option String :=
  let paragraphs := description.toList
    ++ (if scheme.scopes.isEmpty then [] else [scopesParagraph scheme.scopes])
    ++ (if required.isEmpty then [] else [requiredParagraph required.keys])
  if paragraphs.isEmpty then none else some ("\n\n".intercalate paragraphs)

/-- The flows of a scheme.  Of several flows for one grant the last stays. -/
def renderFlows (scheme : SecurityScheme) : OAuthFlows :=
  let scopes := KeyMap.ofList (scheme.scopes.map fun s => (s.name, s.description))
  scheme.flows.foldl
    (fun fs f => fs.set f.kind ⟨f.authorizationUrl, f.tokenUrl, f.refreshUrl, scopes⟩)
    .empty

/-- The component of a scheme, given the scopes that operations require from it.  The kind `none`
has no component. -/
def renderScheme (scheme : SecurityScheme) (required : NameSet) (locale : String) :
    Option SecuritySchemeObject :=
  let description := localText scheme.description locale
  match scheme.kind with
  | .basic => some ⟨"http", description, some "basic", none, none, none, none⟩
  | .jwt =>
    some ⟨"http", jwtDescription description scheme required, some "bearer", some "JWT", none,
      none, none⟩
  | .apiKey => some ⟨"apiKey", description, none, none, some "header", some "Authorization", none⟩
  | .oauth2 => some ⟨"oauth2", description, none, none, none, none, some (renderFlows scheme)⟩
  | .none => none

end ApiDesign.OpenApi
