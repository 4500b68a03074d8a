import Specimen.Xml.Namespaces

/-!
# Writing documents

A document is written line by line: an element without children on one line, an element with children
on one line for each tag and its children in between, further indented.  Texts, attribute values and
comments are escaped so that they can be read back.
-/

namespace Specimen
namespace Xml

/-! ## Escaping -/

def textChar : Char → List Char
  | '&' => "&amp;".toList
  | '<' => "&lt;".toList
  | '>' => "&gt;".toList
  | c => [c]

/-- A character of an attribute value, which stands in double quotes.  Ends of lines and tabs are
written by number, as a reader would make blanks of them. -/
def attributeChar : Char → List Char
  | '"' => "&quot;".toList
  | '\n' => "&#10;".toList
  | '\r' => "&#13;".toList
  | '\t' => "&#9;".toList
  | c => textChar c

/-- A text as it is written between tags. -/
def escapeText (s : String) : String := String.ofList (s.toList.flatMap textChar)

/-- A text as it is written in an attribute. -/
def escapeAttribute (s : String) : String := String.ofList (s.toList.flatMap attributeChar)

/-- Characters with a blank between hyphens that follow each other, and behind a hyphen at the end. -/
def spaceHyphens : List Char → List Char
  | [] => []
  | ['-'] => ['-', ' ']
  | '-' :: '-' :: rest => '-' :: ' ' :: spaceHyphens ('-' :: rest)
  | c :: rest => c :: spaceHyphens rest

/-- A text as it is written in a comment, where two hyphens must not follow each other. -/
def sanitizeComment (s : String) : String := String.ofList (spaceHyphens s.toList)

/-! ## Lines and tags -/

def instanceUri : String := "http://www.w3.org/2001/XMLSchema-instance"

/-- An attribute as it is written, a blank first. -/
def attributeText (name value : String) : String := " " ++ name ++ "=\"" ++ escapeAttribute value ++ "\""

def rootDeclarations (ns : Namespaces) : String :=
  (match ns.default with
    | some uri => attributeText "xmlns" uri
    | none => "") ++
  String.join (ns.declared.map fun d => attributeText ("xmlns:" ++ d.1) d.2) ++
  if ns.usesNil then attributeText "xmlns:xsi" instanceUri else ""

/-- The declaration on an element that is not the root: it leaves the default namespace when it has
none itself. -/
def innerDeclaration (scope : Option String) (h : NodeHead) : String :=
  if h.uri.isNone ∧ scope.isSome then attributeText "xmlns" "" else ""

/-- The default namespace inside an element that is not the root. -/
def innerScope (scope : Option String) (h : NodeHead) : Option String :=
  if h.uri.isNone then none else scope

/-- The opening tag of an element without its last bracket. -/
def openingTag (ns : Namespaces) (declarations : String) (h : NodeHead) : String :=
  "<" ++ ns.elementName h ++ declarations ++
    String.join (h.attributes.map fun a => attributeText (ns.attributeName a) a.value) ++
    if h.nil then attributeText "xsi:nil" "true" else ""

def margin (format : Format) (level : Nat) : String :=
  String.ofList (List.replicate (level * format.indent) ' ')

/-- The text of an element, unless it is empty. -/
def visibleText? (h : NodeHead) : Option String := h.text.filter fun s => !s.isEmpty

/-- The line of an element without children. -/
def flatLine (ns : Namespaces) (declarations : String) (h : NodeHead) : String :=
  openingTag ns declarations h ++
    match visibleText? h with
    | some s => ">" ++ escapeText s ++ "</" ++ ns.elementName h ++ ">"
    | none => "/>"

/-- The line of the text of an element that has children. -/
def textLines (format : Format) (level : Nat) (h : NodeHead) : List String :=
  (visibleText? h).toList.map fun s => margin format level ++ escapeText s

mutual

/-- The lines of an element at a level.  `scope` is the default namespace inside it. -/
def lines (format : Format) (ns : Namespaces) (level : Nat) (declarations : String)
    (scope : Option String) : Node → List String
  | .mk h [] => [margin format level ++ flatLine ns declarations h]
  | .mk h (c :: cs) =>
    (margin format level ++ openingTag ns declarations h ++ ">") ::
      textLines format (level + 1) h ++ childLines format ns (level + 1) scope (c :: cs) ++
      [margin format level ++ "</" ++ ns.elementName h ++ ">"]

def childLines (format : Format) (ns : Namespaces) (level : Nat) (scope : Option String) :
    List NodeChild → List String
  | [] => []
  | .comment text :: rest =>
    (margin format level ++ "<!-- " ++ sanitizeComment text ++ " -->") ::
      childLines format ns level scope rest
  | .element n :: rest =>
    lines format ns level (innerDeclaration scope n.head) (innerScope scope n.head) n ++
      childLines format ns level scope rest

end

def prolog (format : Format) : List String :=
  if format.declaration then ["<?xml version=\"1.0\" encoding=\"UTF-8\"?>"] else []

def write (format : Format) (root : Node) : String :=
  let ns := Namespaces.collect root format
  String.join <| (prolog format ++ lines format ns 0 (rootDeclarations ns) ns.default root).map
    (· ++ "\n")

end Xml
end Specimen
