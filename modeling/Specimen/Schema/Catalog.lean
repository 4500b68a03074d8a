import Specimen.Schema.Resolution

/-!
# The catalog of declarations

Every element and attribute that can occur below the global elements, with its path.  An element is
followed by its attributes and then by what it contains.  A recursive type is listed again where it
is entered a second time on the same path, and not followed further.
-/

namespace Specimen

/-- What a catalog entry stands for. -/
inductive EntryKind where
  | element
  | attr
  deriving DecidableEq, Repr

/-- An element or attribute that can occur. -/
structure CatalogEntry where
  kind : EntryKind
  /-- The local name; that of an attribute begins with `@`. -/
  name : String
  /-- The names from the global element on, separated by slashes. -/
  path : String
  /-- The simple type, when the entry holds a value. -/
  facets : Option Facets
  /-- The named type that is referred to. -/
  typeName : Option String
  minOccurs : Nat
  deriving DecidableEq, Repr

/-- Whether a path ends with whole segments that spell a key. -/
def pathEndsWith (path key : String) : Bool :=
  path == key || ("/" ++ key).toList.isSuffixOf path.toList

/-- A key without the slashes at its start. -/
def trimSlashes (key : String) : String :=
  String.ofList (key.toList.dropWhile (· = '/'))

/-- Whether a key names an entry: a key with a slash is compared with the end of the path, any other
with the local name. -/
def keyMatches (key name path : String) : Bool :=
  if key.toList.contains '/' then pathEndsWith path (trimSlashes key) else name == key

namespace CatalogEntry

def isLeaf (e : CatalogEntry) : Bool := e.facets.isSome

def matchesKey (e : CatalogEntry) (key : String) : Bool := keyMatches key e.name e.path

end CatalogEntry

/-- The path of something below a parent path, which may be empty. -/
def joinPath (parent name : String) : String :=
  if parent = "" then name else parent ++ "/" ++ name

namespace Schema

def attributeEntry (schema : Schema) (owner : String) (a : AttributeDecl) :
    Except SchemaError CatalogEntry := do
  let facets ← schema.resolveAttribute a
  return {
    kind := .attr
    name := "@" ++ a.name
    path := owner ++ "/@" ++ a.name
    facets := some facets
    typeName := a.typeRef.filter fun ref => (Primitive.ofTypeName? ref).isNone
    minOccurs := if a.required then 1 else 0 }

/-- The entry of an element whose type is known, followed by those of its attributes. -/
def elementEntries (schema : Schema) (path : String) (e : Element) (type : ResolvedType) :
    Except SchemaError (List CatalogEntry) := do
  let attributes ← type.attributes.mapM (schema.attributeEntry path)
  return {
    kind := .element
    name := e.name
    path
    facets := type.content.facets?
    typeName := type.identity
    minOccurs := e.minOccurs } :: attributes

mutual

/-- The entries of an element and all it contains.  `enter` lists what a named type contains; it is
used where the element refers to a named type. -/
def entriesOfElement (schema : Schema)
    (enter : String → List String → String → Group → Except SchemaError (List CatalogEntry))
    (active : List String) (parent : String) : Element → Except SchemaError (List CatalogEntry)
  | .mk decl none => do
    let e := Element.mk decl none
    let path := joinPath parent decl.name
    let type ← schema.resolveType e
    let own ← schema.elementEntries path e type
    match type.identity, type.content with
    | some identity, .complex g =>
      if identity ∈ active then return own
      else return own ++ (← enter identity active path g)
    | _, _ => return own
  | .mk decl (some g) => do
    let e := Element.mk decl (some g)
    let path := joinPath parent decl.name
    let type ← schema.resolveType e
    let own ← schema.elementEntries path e type
    match type.content with
    | .complex _ => return own ++ (← entriesOfGroup schema enter active path g)
    | _ => return own

def entriesOfGroup (schema : Schema)
    (enter : String → List String → String → Group → Except SchemaError (List CatalogEntry))
    (active : List String) (path : String) : Group → Except SchemaError (List CatalogEntry)
  | .mk _ members => entriesOfMembers schema enter active path members

/-- The entries of the members of a group. -/
def entriesOfMembers (schema : Schema)
    (enter : String → List String → String → Group → Except SchemaError (List CatalogEntry))
    (active : List String) (path : String) :
    List Particle → Except SchemaError (List CatalogEntry)
  | [] => .ok []
  | .element e :: rest => do
    let first ← entriesOfElement schema enter active path e
    return first ++ (← entriesOfMembers schema enter active path rest)
  | .group g :: rest => do
    let first ← entriesOfGroup schema enter active path g
    return first ++ (← entriesOfMembers schema enter active path rest)

end

/-- The entries of what a named type contains.  `budget` is the number of named types that are not yet
active on the path; none is entered twice, so it does not run out. -/
def entriesOfType (schema : Schema) :
    Nat → String → List String → String → Group → Except SchemaError (List CatalogEntry)
  | 0, _, _, _, _ => .ok []
  | budget + 1, identity, active, path, g =>
    entriesOfGroup schema (entriesOfType schema budget) (identity :: active) path g

def catalog (schema : Schema) : Except SchemaError (List CatalogEntry) := do
  let entries ← schema.elements.mapM
    (entriesOfElement schema (schema.entriesOfType (schema.types.length + 1)) [] "")
  return entries.flatten

end Schema
end Specimen
