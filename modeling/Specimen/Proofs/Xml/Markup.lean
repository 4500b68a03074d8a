import Specimen.Xml.Writer

/-!
# Markup

A document as it is written: tags with qualified names and attributes, the declarations of namespaces among
them, with no record of the namespaces that the names came from.  `write_eq_markup` says that the text of
a document is the text of its markup, so that whatever is read from the markup is read from the text.
-/

namespace Specimen
namespace Xml

mutual

/-- An element as it is written: the name and the attributes of its tag, its text and its children. -/
inductive Markup where
  | mk (name : String) (attributes : List (String × String)) (text : Option String)
    (children : List MarkupChild)

/-- A child of an element as it is written. -/
inductive MarkupChild where
  | element (markup : Markup)
  | comment (text : String)

end

namespace Markup

/-- An opening tag without its last bracket. -/
def tagText (name : String) (attributes : List (String × String)) : String :=
  "<" ++ name ++ String.join (attributes.map fun a => attributeText a.1 a.2)

/-- What follows the opening tag of an element without children. -/
def flatEnd (name : String) : Option String → String
  | some s => ">" ++ escapeText s ++ "</" ++ name ++ ">"
  | none => "/>"

mutual

/-- The lines of an element at a level. -/
def lines (format : Format) (level : Nat) : Markup → List String
  | .mk name attributes text [] =>
    [margin format level ++ (tagText name attributes ++ flatEnd name text)]
  | .mk name attributes text (c :: cs) =>
    (margin format level ++ tagText name attributes ++ ">") ::
      (text.toList.map fun s => margin format (level + 1) ++ escapeText s) ++
      linesAmong format (level + 1) (c :: cs) ++
      [margin format level ++ "</" ++ name ++ ">"]

/-- The lines of children at a level. -/
def linesAmong (format : Format) (level : Nat) : List MarkupChild → List String
  | [] => []
  | .comment text :: rest =>
    (margin format level ++ "<!-- " ++ sanitizeComment text ++ " -->") :: linesAmong format level rest
  | .element m :: rest => m.lines format level ++ linesAmong format level rest

end

/-- The text of a document. -/
def text (format : Format) (m : Markup) : String :=
  String.join <| (prolog format ++ m.lines format 0).map (· ++ "\n")

end Markup

/-! ## The markup of a document -/

/-- The declarations on the root, as attributes. -/
def rootDeclared (ns : Namespaces) : List (String × String) :=
  ns.default.toList.map (fun uri => ("xmlns", uri)) ++
    ns.declared.map (fun d => ("xmlns:" ++ d.1, d.2)) ++
    if ns.usesNil then [("xmlns:xsi", instanceUri)] else []

/-- The declaration on an element that is not the root, as an attribute. -/
def innerDeclared (scope : Option String) (h : NodeHead) : List (String × String) :=
  if h.uri.isNone ∧ scope.isSome then [("xmlns", "")] else []

/-- The attributes of an element by their qualified names, with the mark for nil. -/
def ownAttributes (ns : Namespaces) (h : NodeHead) : List (String × String) :=
  h.attributes.map (fun a => (ns.attributeName a, a.value)) ++
    if h.nil then [("xsi:nil", "true")] else []

mutual

/-- The markup of an element with some declarations.  `scope` is the default namespace inside it. -/
def markup (ns : Namespaces) (declared : List (String × String)) (scope : Option String) :
    Node → Markup
  | .mk h children =>
    .mk (ns.elementName h) (declared ++ ownAttributes ns h) (visibleText? h)
      (markupAmong ns scope children)

/-- The markup of children. -/
def markupAmong (ns : Namespaces) (scope : Option String) : List NodeChild → List MarkupChild
  | [] => []
  | .comment text :: rest => .comment text :: markupAmong ns scope rest
  | .element n :: rest =>
    .element (markup ns (innerDeclared scope n.head) (innerScope scope n.head) n) ::
      markupAmong ns scope rest

end

/-- The markup of a document. -/
def documentMarkup (format : Format) (root : Node) : Markup :=
  let ns := Namespaces.collect root format
  markup ns (rootDeclared ns) ns.default root

section Lines

variable {format : Format} {ns : Namespaces}

/-- The text of several attributes. -/
def attributesText (attributes : List (String × String)) : String :=
  String.join (attributes.map fun a => attributeText a.1 a.2)

theorem attributesText_append (as bs : List (String × String)) :
    attributesText (as ++ bs) = attributesText as ++ attributesText bs := by
  rw [attributesText, List.map_append, String.join_append]
  rfl

theorem attributesText_rootDeclared :
    attributesText (rootDeclared ns) = rootDeclarations ns := by
  have hdeclared : attributesText (ns.declared.map fun d => ("xmlns:" ++ d.1, d.2)) =
      String.join (ns.declared.map fun d => attributeText ("xmlns:" ++ d.1) d.2) := by
    rw [attributesText, List.map_map]
    rfl
  have hdefault : attributesText (ns.default.toList.map fun uri => ("xmlns", uri)) =
      match ns.default with
      | some uri => attributeText "xmlns" uri
      | none => "" := by
    cases ns.default with
    | none => rfl
    | some uri => simp [attributesText]
  have hnil : attributesText (if ns.usesNil then [("xmlns:xsi", instanceUri)] else []) =
      if ns.usesNil then attributeText "xmlns:xsi" instanceUri else "" := by
    split <;> simp [attributesText]
  rw [rootDeclared, attributesText_append, attributesText_append, hdeclared, hdefault, hnil]
  rfl

theorem attributesText_innerDeclared (scope : Option String) (h : NodeHead) :
    attributesText (innerDeclared scope h) = innerDeclaration scope h := by
  unfold innerDeclared innerDeclaration
  split <;> simp [attributesText]

theorem openingTag_eq_tagText (declared : List (String × String)) (h : NodeHead) :
    openingTag ns (attributesText declared) h =
      Markup.tagText (ns.elementName h) (declared ++ ownAttributes ns h) := by
  have hown : attributesText (ownAttributes ns h) =
      String.join (h.attributes.map fun a => attributeText (ns.attributeName a) a.value) ++
        if h.nil then attributeText "xsi:nil" "true" else "" := by
    rw [ownAttributes, attributesText_append, attributesText, List.map_map]
    congr 1
    split <;> simp [attributesText]
  change _ = "<" ++ ns.elementName h ++ attributesText (declared ++ ownAttributes ns h)
  rw [attributesText_append, hown, openingTag]
  simp only [String.append_assoc]

mutual

theorem lines_eq_markup (level : Nat) (declared : List (String × String)) (scope : Option String) :
    (n : Node) → lines format ns level (attributesText declared) scope n =
      (markup ns declared scope n).lines format level
  | .mk h [] => by
    rw [lines, markup, markupAmong, Markup.lines, flatLine, openingTag_eq_tagText]
    cases visibleText? h <;> rfl
  | .mk h (c :: cs) => by
    have hchildren := childLines_eq_markup (level + 1) scope (c :: cs)
    have hcons : ∃ d ds, markupAmong ns scope (c :: cs) = d :: ds := by
      cases c <;> exact ⟨_, _, rfl⟩
    obtain ⟨d, ds, hmarkup⟩ := hcons
    rw [hmarkup] at hchildren
    rw [lines, markup, hmarkup, Markup.lines, openingTag_eq_tagText, hchildren]
    rfl

theorem childLines_eq_markup (level : Nat) (scope : Option String) :
    (cs : List NodeChild) → childLines format ns level scope cs =
      Markup.linesAmong format level (markupAmong ns scope cs)
  | [] => rfl
  | .comment text :: rest => by
    rw [childLines, markupAmong, Markup.linesAmong, childLines_eq_markup level scope rest]
  | .element n :: rest => by
    rw [childLines, markupAmong, Markup.linesAmong, childLines_eq_markup level scope rest,
      ← attributesText_innerDeclared, lines_eq_markup level _ _ n]

end

end Lines

theorem write_eq_markup (format : Format) (root : Node) :
    write format root = (documentMarkup format root).text format := by
  rw [write, documentMarkup, Markup.text, ← lines_eq_markup, attributesText_rootDeclared]

end Xml
end Specimen
