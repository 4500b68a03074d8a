import Mathlib.Data.List.TakeWhile
import Specimen.Proofs.Document.Outline
import Specimen.Proofs.Xml.Declarations
import Specimen.Proofs.Xml.Markup

/-!
# Names that are read back

A reader of a document keeps the default namespace and the prefixes that are declared around it and
expands qualified names by them.  Names without a prefix are in the default namespace if they are names of
elements, and in none if they are names of attributes.

What is written is read back as the names of the document, with one exception.  The default namespace is
switched off on an element without a namespace and never switched on again, so an element in the default
namespace is lost below it (`names_kept_iff`).
-/

namespace Specimen
namespace Xml

/-! ## Reading names -/

/-- A namespace, if there is one, and a local name. -/
abbrev ExpandedName := Option String × String

/-- The prefix of a qualified name, if there is one, and what is behind it. -/
def splitName (name : String) : Option String × String :=
  match name.toList.dropWhile (· != ':') with
  | [] => (none, name)
  | _ :: back => (some (String.ofList (name.toList.takeWhile (· != ':'))), String.ofList back)

theorem splitName_plain {name : String} (h : ':' ∉ name.toList) : splitName name = (none, name) := by
  have hall : ∀ c ∈ name.toList, (c != ':') = true := by
    intro c hc
    rw [bne_iff_ne]
    rintro rfl
    exact h hc
  rw [splitName, List.dropWhile_eq_nil_iff.2 hall]

theorem splitName_prefixed {p : String} (h : ':' ∉ p.toList) (name : String) :
    splitName (p ++ ":" ++ name) = (some p, name) := by
  have hall : ∀ c ∈ p.toList, (c != ':') = true := by
    intro c hc
    rw [bne_iff_ne]
    rintro rfl
    exact h hc
  have hlist : (p ++ ":" ++ name).toList = p.toList ++ ':' :: name.toList := by simp
  rw [splitName, hlist, List.takeWhile_append_of_pos hall, List.dropWhile_append_of_pos hall]
  simp

/-- Whether an attribute with a name declares a namespace. -/
def isDeclaration (name : String) : Bool :=
  match splitName name with
  | (none, l) => l == "xmlns"
  | (some p, _) => p == "xmlns"

theorem isDeclaration_plain {name : String} (h : ':' ∉ name.toList) :
    isDeclaration name = (name == "xmlns") := by
  rw [isDeclaration, splitName_plain h]

theorem isDeclaration_prefixed {p : String} (h : ':' ∉ p.toList) (name : String) :
    isDeclaration (p ++ ":" ++ name) = (p == "xmlns") := by
  rw [isDeclaration, splitName_prefixed h]

/-- What is declared at a place of a document. -/
structure Scope where
  /-- The namespace of elements without a prefix. -/
  default : Option String := none
  /-- Prefixes with their namespaces, the innermost first. -/
  prefixes : List (String × String) := []

namespace Scope

/-- The scope behind an attribute. -/
def declare (scope : Scope) (a : String × String) : Scope :=
  match splitName a.1 with
  | (none, l) =>
    if l = "xmlns" then { scope with default := if a.2 = "" then none else some a.2 } else scope
  | (some p, l) =>
    if p = "xmlns" then { scope with prefixes := (l, a.2) :: scope.prefixes } else scope

/-- The name of an element; there is none if its prefix is not declared. -/
def elementName? (scope : Scope) (name : String) : Option ExpandedName :=
  match splitName name with
  | (none, l) => some (scope.default, l)
  | (some p, l) => (scope.prefixes.lookup p).map fun uri => (some uri, l)

/-- The name of an attribute; there is none if its prefix is not declared. -/
def attributeName? (scope : Scope) (name : String) : Option ExpandedName :=
  match splitName name with
  | (none, l) => some (none, l)
  | (some p, l) => (scope.prefixes.lookup p).map fun uri => (some uri, l)

/-- The names of the attributes of a tag that declare nothing. -/
def attributeNames? (scope : Scope) : List (String × String) → Option (List ExpandedName)
  | [] => some []
  | a :: rest =>
    if isDeclaration a.1 then scope.attributeNames? rest
    else do return (← scope.attributeName? a.1) :: (← scope.attributeNames? rest)

end Scope

/-- The names of an element, of its attributes, and of all below it. -/
inductive Names where
  | mk (element : ExpandedName) (attributes : List ExpandedName) (children : List Names)

mutual

/-- The names that a reader gives to an element and all below it. -/
def Markup.names? (scope : Scope) : Markup → Option Names
  | .mk name attributes _ children => do
    let inner := attributes.foldl Scope.declare scope
    return .mk (← inner.elementName? name) (← inner.attributeNames? attributes)
      (← namesAmong? inner children)

/-- The names that a reader gives to the elements among children and below. -/
def namesAmong? (scope : Scope) : List MarkupChild → Option (List Names)
  | [] => some []
  | .comment _ :: rest => namesAmong? scope rest
  | .element m :: rest => do return (← m.names? scope) :: (← namesAmong? scope rest)

end

/-! ## The names of a document -/

/-- The names of the attributes of an element, with the mark for nil. -/
def attributeNames (h : NodeHead) : List ExpandedName :=
  h.attributes.map (fun a => (a.uri, a.name)) ++ if h.nil then [(some instanceUri, "nil")] else []

mutual

/-- The names of an element and all below it. -/
def names : Node → Names
  | .mk h children => .mk (h.uri, h.name) (attributeNames h) (namesAmong children)

/-- The names of the elements among children and below. -/
def namesAmong : List NodeChild → List Names
  | [] => []
  | .comment _ :: rest => namesAmong rest
  | .element n :: rest => names n :: namesAmong rest

end

mutual

/-- Whether an element in a namespace, the given one or one below, stands where that namespace is not the
default.  It is no longer the default from an element without a namespace on. -/
def strays (uri : String) (inScope : Bool) : Node → Bool
  | .mk h children => (h.uri == some uri && !inScope) || straysAmong uri inScope children

/-- Whether an element among children or below stands where its namespace is not the default. -/
def straysAmong (uri : String) (inScope : Bool) : List NodeChild → Bool
  | [] => false
  | .comment _ :: rest => straysAmong uri inScope rest
  | .element n :: rest =>
    strays uri (inScope && n.head.uri.isSome) n || straysAmong uri inScope rest

end

/-- The names of an element are free of colons, and its namespaces are not empty. -/
structure PlainNames (h : NodeHead) : Prop where
  element : ':' ∉ h.name.toList ∧ h.uri ≠ some ""
  attributes : ∀ a ∈ h.attributes, ':' ∉ a.name.toList ∧ a.uri ≠ some ""

/-- No attribute of an element looks like a declaration of the default namespace. -/
def Undeclaring (h : NodeHead) : Prop := ∀ a ∈ h.attributes, a.uri = none → a.name ≠ "xmlns"

/-! ## Every namespace has a prefix -/

/-- What an element needs is declared. -/
structure Covers (ns : Namespaces) (h : NodeHead) : Prop where
  element : ∀ u, h.uri = some u → ns.default ≠ some u → (ns.prefixOf? u).isSome
  attributes : ∀ a ∈ h.attributes, ∀ u, a.uri = some u → (ns.prefixOf? u).isSome
  nil : h.nil = true → ns.usesNil = true

theorem mem_foldl_addNew {found added : List String} {uri : String} :
    uri ∈ added.foldl addNew found ↔ uri ∈ found ∨ uri ∈ added := by
  induction added generalizing found with
  | nil => simp
  | cons name rest ih =>
      rw [List.foldl_cons, ih, addNew]
      by_cases hname : found.contains name
      · have hmem : name ∈ found := List.contains_iff_mem.1 hname
        rw [if_pos hname, List.mem_cons]
        constructor
        · exact Or.imp_right .inr
        · rintro (h | rfl | h)
          · exact .inl h
          · exact .inl hmem
          · exact .inr h
      · rw [if_neg hname, List.mem_append, List.mem_singleton, List.mem_cons, or_assoc]

mutual

theorem elementUris_eq : (n : Node) → (found : List String) →
    elementUris found n = (n.heads.flatMap fun h => h.uri.toList).foldl addNew found
  | .mk h children, found => by
    rw [elementUris, elementUrisAmong_eq children, Node.heads, List.flatMap_cons, List.foldl_append]

theorem elementUrisAmong_eq : (cs : List NodeChild) → (found : List String) →
    elementUrisAmong found cs = ((headsAmong cs).flatMap fun h => h.uri.toList).foldl addNew found
  | [], _ => rfl
  | .comment _ :: rest, found => elementUrisAmong_eq rest found
  | .element n :: rest, found => by
    rw [elementUrisAmong, elementUris_eq n, elementUrisAmong_eq rest, headsAmong,
      List.flatMap_append, List.foldl_append]

end

mutual

theorem attributeUris_eq : (n : Node) → (found : List String) → attributeUris found n =
    (n.heads.flatMap fun h => h.attributes.filterMap (·.uri)).foldl addNew found
  | .mk h children, found => by
    rw [attributeUris, attributeUrisAmong_eq children, Node.heads, List.flatMap_cons,
      List.foldl_append]

theorem attributeUrisAmong_eq : (cs : List NodeChild) → (found : List String) →
    attributeUrisAmong found cs =
      ((headsAmong cs).flatMap fun h => h.attributes.filterMap (·.uri)).foldl addNew found
  | [], _ => rfl
  | .comment _ :: rest, found => attributeUrisAmong_eq rest found
  | .element n :: rest, found => by
    rw [attributeUrisAmong, attributeUris_eq n, attributeUrisAmong_eq rest, headsAmong,
      List.flatMap_append, List.foldl_append]

end

mutual

theorem usesNil_eq : (n : Node) → usesNil n = n.heads.any (·.nil)
  | .mk h children => by rw [usesNil, usesNilAmong_eq children, Node.heads, List.any_cons]

theorem usesNilAmong_eq : (cs : List NodeChild) → usesNilAmong cs = (headsAmong cs).any (·.nil)
  | [] => rfl
  | .comment _ :: rest => usesNilAmong_eq rest
  | .element n :: rest => by
    rw [usesNilAmong, usesNil_eq n, usesNilAmong_eq rest, headsAmong, List.any_append]

end

theorem covers_collect (root : Node) {format : Format} (hformat : format.Usable) :
    ∀ h ∈ root.heads, Covers (Namespaces.collect root format) h := by
  obtain ⟨-, -, hnil, helements, hattributes⟩ := Namespaces.collect_spec root hformat
  intro h hh
  constructor
  · intro u hu hother
    refine helements u ?_ hother
    rw [elementUris_eq, mem_foldl_addNew]
    exact .inr (List.mem_flatMap.2 ⟨h, hh, Option.mem_toList.2 hu⟩)
  · intro a ha u hu
    refine hattributes u ?_
    rw [attributeUris_eq, mem_foldl_addNew]
    exact .inr (List.mem_flatMap.2 ⟨h, hh, List.mem_filterMap.2 ⟨a, ha, hu⟩⟩)
  · intro hisNil
    rw [hnil, usesNil_eq]
    exact List.any_eq_true.2 ⟨h, hh, hisNil⟩

/-! ## Reading one tag -/

/-- The prefixes that are declared on the root stand for their namespaces. -/
structure Bound (ns : Namespaces) (prefixes : List (String × String)) : Prop where
  plain : ∀ u p, ns.prefixOf? u = some p → ':' ∉ p.toList ∧ p ≠ "xmlns"
  lookup : ∀ u p, ns.prefixOf? u = some p → prefixes.lookup p = some u
  nil : ns.usesNil = true → prefixes.lookup "xsi" = some instanceUri

section Tags

variable {ns : Namespaces} {prefixes : List (String × String)} {h : NodeHead} {scope : Scope}

theorem declare_of_not_isDeclaration {a : String × String} (ha : isDeclaration a.1 = false) :
    scope.declare a = scope := by
  unfold isDeclaration at ha
  unfold Scope.declare
  split at ha <;> simp_all

theorem foldl_declare_of_not_isDeclaration {attributes : List (String × String)}
    (hattributes : ∀ a ∈ attributes, isDeclaration a.1 = false) :
    attributes.foldl Scope.declare scope = scope := by
  induction attributes with
  | nil => rfl
  | cons a rest ih =>
      rw [List.foldl_cons, declare_of_not_isDeclaration (hattributes a List.mem_cons_self)]
      exact ih fun b hb => hattributes b (List.mem_cons_of_mem _ hb)

theorem attributeNames?_of_declarations {declared : List (String × String)}
    (hdeclared : ∀ d ∈ declared, isDeclaration d.1 = true) (own : List (String × String)) :
    scope.attributeNames? (declared ++ own) = scope.attributeNames? own := by
  induction declared with
  | nil => rfl
  | cons d rest ih =>
      rw [List.cons_append, Scope.attributeNames?, if_pos (hdeclared d List.mem_cons_self)]
      exact ih fun b hb => hdeclared b (List.mem_cons_of_mem _ hb)

/-- A name is read for every attribute that declares nothing, and only for those. -/
theorem length_attributeNames? {attributes : List (String × String)} {found : List ExpandedName}
    (hfound : scope.attributeNames? attributes = some found) :
    found.length = attributes.countP fun a => !isDeclaration a.1 := by
  induction attributes generalizing found with
  | nil => cases hfound; rfl
  | cons a rest ih =>
      rw [Scope.attributeNames?] at hfound
      split at hfound
      · rename_i ha
        rw [List.countP_cons_of_neg (by simp [ha])]
        exact ih hfound
      · rename_i ha
        obtain ⟨first, -, hfound⟩ := Option.bind_eq_some_iff.1 hfound
        obtain ⟨more, hmore, hfound⟩ := Option.bind_eq_some_iff.1 hfound
        cases hfound
        rw [List.countP_cons_of_pos (by simpa using ha), List.length_cons, ih hmore]

theorem attributeName?_attributeName (hbound : Bound ns prefixes)
    {a : Attribute} (hplain : ':' ∉ a.name.toList)
    (hcovered : ∀ u, a.uri = some u → (ns.prefixOf? u).isSome) (default : Option String) :
    Scope.attributeName? ⟨default, prefixes⟩ (ns.attributeName a) = some (a.uri, a.name) := by
  unfold Namespaces.attributeName
  cases huri : a.uri with
  | none =>
      simp only [Option.bind_none]
      rw [Scope.attributeName?, splitName_plain hplain]
  | some u =>
      obtain ⟨p, hp⟩ := Option.isSome_iff_exists.1 (hcovered u huri)
      simp only [Option.bind_some, hp]
      rw [Scope.attributeName?, splitName_prefixed (hbound.plain u p hp).1]
      simp only [hbound.lookup u p hp, Option.map_some]

theorem isDeclaration_attributeName (hbound : Bound ns prefixes)
    {a : Attribute} (hplain : ':' ∉ a.name.toList)
    (hcovered : ∀ u, a.uri = some u → (ns.prefixOf? u).isSome) :
    isDeclaration (ns.attributeName a) = (a.uri.isNone && a.name == "xmlns") := by
  unfold Namespaces.attributeName
  cases huri : a.uri with
  | none => simp [isDeclaration_plain hplain]
  | some u =>
      obtain ⟨p, hp⟩ := Option.isSome_iff_exists.1 (hcovered u huri)
      simp only [Option.bind_some, hp]
      rw [isDeclaration_prefixed (hbound.plain u p hp).1]
      simp [(hbound.plain u p hp).2]

/-- The name of an element is read back, unless the element is in the default namespace where that is
switched off. -/
theorem elementName?_elementName (hbound : Bound ns prefixes) (hplain : PlainNames h)
    (hcovers : Covers ns h) {default : Option String}
    (hdefault : default = none ∨ default = ns.default) (hqualified : default.isSome → h.uri.isSome) :
    Scope.elementName? ⟨default, prefixes⟩ (ns.elementName h) = some (h.uri, h.name) ↔
      ∀ u, ns.default = some u → h.uri = some u → default.isSome = true := by
  unfold Namespaces.elementName
  cases huri : h.uri with
  | none =>
      have hnone : default = none := by
        cases default with
        | none => rfl
        | some u => simp [huri] at hqualified
      simp [Scope.elementName?, splitName_plain hplain.element.1, hnone]
  | some v =>
      by_cases hv : ns.default = some v
      · simp only [hv, if_true, Scope.elementName?, splitName_plain hplain.element.1]
        rcases hdefault with rfl | hsame
        · simp
        · simp [hsame, hv]
      · obtain ⟨p, hp⟩ := Option.isSome_iff_exists.1 (hcovers.element v huri hv)
        simp only [hv, if_false, hp, Scope.elementName?, splitName_prefixed (hbound.plain v p hp).1,
          hbound.lookup v p hp, Option.map_some, true_iff]
        intro u hu huv
        exact absurd (hu.trans (congrArg some (Option.some.inj huv).symm)) hv

theorem isDeclaration_of_mem_ownAttributes (hbound : Bound ns prefixes) (hplain : PlainNames h)
    (hcovers : Covers ns h) (hundeclaring : Undeclaring h) :
    ∀ a ∈ ownAttributes ns h, isDeclaration a.1 = false := by
  intro written hwritten
  rcases List.mem_append.1 hwritten with hown | hnil
  · obtain ⟨a, ha, rfl⟩ := List.mem_map.1 hown
    rw [isDeclaration_attributeName hbound (hplain.attributes a ha).1 (hcovers.attributes a ha)]
    cases huri : a.uri with
    | none => simpa using hundeclaring a ha huri
    | some u => rfl
  · split at hnil
    · rw [List.mem_singleton.1 hnil]
      decide +kernel
    · cases hnil

theorem attributeNames?_map {α : Type} {list : List α} {written : α → String × String}
    {read : α → ExpandedName}
    (hlist : ∀ a ∈ list, isDeclaration (written a).1 = false ∧
      scope.attributeName? (written a).1 = some (read a)) (rest : List (String × String)) :
    scope.attributeNames? (list.map written ++ rest) =
      (scope.attributeNames? rest).map (list.map read ++ ·) := by
  induction list with
  | nil => simp
  | cons a more ih =>
      obtain ⟨hnot, hname⟩ := hlist a List.mem_cons_self
      rw [List.map_cons, List.cons_append, Scope.attributeNames?, hnot, hname,
        ih fun b hb => hlist b (List.mem_cons_of_mem _ hb)]
      cases scope.attributeNames? rest <;> rfl

theorem attributeNames?_ownAttributes (hbound : Bound ns prefixes) (hplain : PlainNames h)
    (hcovers : Covers ns h) (hundeclaring : Undeclaring h) (default : Option String) :
    Scope.attributeNames? ⟨default, prefixes⟩ (ownAttributes ns h) = some (attributeNames h) := by
  have hnot := isDeclaration_of_mem_ownAttributes hbound hplain hcovers hundeclaring
  have hown : ∀ a ∈ h.attributes, isDeclaration (ns.attributeName a, a.value).1 = false ∧
      Scope.attributeName? ⟨default, prefixes⟩ (ns.attributeName a, a.value).1 =
        some (a.uri, a.name) := fun a ha =>
    ⟨hnot _ (List.mem_append_left _ (List.mem_map_of_mem ha)),
      attributeName?_attributeName hbound (hplain.attributes a ha).1 (hcovers.attributes a ha) default⟩
  rw [ownAttributes, attributeNames?_map hown, attributeNames]
  cases hnil : h.nil with
  | false => rfl
  | true =>
      have hxsi : splitName "xsi:nil" = (some "xsi", "nil") := by decide +kernel
      have hmark : isDeclaration "xsi:nil" = false := by rw [isDeclaration, hxsi]; rfl
      have hname : Scope.attributeName? ⟨default, prefixes⟩ "xsi:nil" =
          some (some instanceUri, "nil") := by
        rw [Scope.attributeName?, hxsi]
        simp only [hbound.nil (hcovers.nil hnil), Option.map_some]
      simp [Scope.attributeNames?, hmark, hname]

/-- An attribute that looks like a declaration is not read as an attribute, whatever is declared. -/
theorem undeclaring_of_attributeNames? (hbound : Bound ns prefixes) (hplain : PlainNames h)
    (hcovers : Covers ns h)
    (hread : scope.attributeNames? (ownAttributes ns h) = some (attributeNames h)) :
    Undeclaring h := by
  have hlength : (ownAttributes ns h).length = (attributeNames h).length := by
    simp only [ownAttributes, attributeNames, List.length_append, List.length_map]
    split <;> rfl
  have hcount := length_attributeNames? hread
  rw [← hlength] at hcount
  have hnot := List.countP_eq_length.1 hcount.symm
  intro a ha huri hname
  have hmem : (ns.attributeName a, a.value) ∈ ownAttributes ns h :=
    List.mem_append_left _ (List.mem_map_of_mem ha)
  have hread := hnot _ hmem
  rw [isDeclaration_attributeName hbound (hplain.attributes a ha).1 (hcovers.attributes a ha)] at hread
  simp [huri, hname] at hread

end Tags

/-! ## Reading documents -/

theorem names?_mk_eq_some {scope : Scope} {name : String} {attributes : List (String × String)}
    {text : Option String} {children : List MarkupChild} {e : ExpandedName} {as : List ExpandedName}
    {cs : List Names} :
    (Markup.mk name attributes text children).names? scope = some (.mk e as cs) ↔
      (attributes.foldl Scope.declare scope).elementName? name = some e ∧
        (attributes.foldl Scope.declare scope).attributeNames? attributes = some as ∧
          namesAmong? (attributes.foldl Scope.declare scope) children = some cs := by
  rw [Markup.names?]
  simp only [bind, Option.bind_eq_some_iff, pure, Option.some.injEq, Names.mk.injEq]
  constructor
  · rintro ⟨own, hown, attributes, hattributes, below, hbelow, rfl, rfl, rfl⟩
    exact ⟨hown, hattributes, hbelow⟩
  · rintro ⟨hown, hattributes, hbelow⟩
    exact ⟨_, hown, _, hattributes, _, hbelow, rfl, rfl, rfl⟩

theorem foldl_declare_innerDeclared (default : Option String) (prefixes : List (String × String))
    (h : NodeHead) :
    (innerDeclared default h).foldl Scope.declare ⟨default, prefixes⟩ =
      ⟨innerScope default h, prefixes⟩ := by
  have hxmlns : splitName "xmlns" = (none, "xmlns") := splitName_plain (by decide)
  unfold innerDeclared innerScope
  cases h.uri with
  | some u => rfl
  | none => cases default <;> simp [Scope.declare, hxmlns]

theorem isDeclaration_of_mem_innerDeclared {default : Option String} {h : NodeHead}
    {d : String × String} (hd : d ∈ innerDeclared default h) : isDeclaration d.1 = true := by
  unfold innerDeclared at hd
  split at hd
  · rw [List.mem_singleton.1 hd]
    decide +kernel
  · cases hd

section Documents

variable {ns : Namespaces} {prefixes : List (String × String)}

theorem strays_mk_eq_false {h : NodeHead} {children : List NodeChild} {inScope : Bool} :
    (∀ u, ns.default = some u → strays u inScope (.mk h children) = false) ↔
      (∀ u, ns.default = some u → h.uri = some u → inScope = true) ∧
        ∀ u, ns.default = some u → straysAmong u inScope children = false := by
  simp only [strays, Bool.or_eq_false_iff, Bool.and_eq_false_imp, beq_iff_eq, Bool.not_eq_false']
  constructor
  · intro hall
    exact ⟨fun u hu => (hall u hu).1, fun u hu => (hall u hu).2⟩
  · rintro ⟨hown, hbelow⟩ u hu
    exact ⟨hown u hu, hbelow u hu⟩

mutual

/-- An element is read back, with all below it, exactly if no attribute looks like a declaration and no
element is in the default namespace where that is switched off. -/
theorem names?_markup (hbound : Bound ns prefixes) : (n : Node) →
    (∀ h ∈ n.heads, PlainNames h ∧ Covers ns h) → (declared : List (String × String)) →
    (∀ d ∈ declared, isDeclaration d.1 = true) → (scope : Scope) → (default : Option String) →
    declared.foldl Scope.declare scope = ⟨default, prefixes⟩ →
    (default = none ∨ default = ns.default) → (default.isSome → n.head.uri.isSome) →
    ((markup ns declared default n).names? scope = some (names n) ↔
      (∀ h ∈ n.heads, Undeclaring h) ∧
        ∀ u, ns.default = some u → strays u default.isSome n = false)
  | .mk h children, hready, declared, hdeclared, scope, default, hscope, hdefault, hqualified => by
    obtain ⟨⟨hplain, hcovers⟩, hbelow⟩ := List.forall_mem_cons.1 hready
    have hchildren := namesAmong?_markup hbound children hbelow default hdefault
    have helement := elementName?_elementName hbound hplain hcovers hdefault hqualified
    rw [markup, names, names?_mk_eq_some, Node.heads, List.forall_mem_cons, strays_mk_eq_false,
      attributeNames?_of_declarations hdeclared]
    by_cases hundeclaring : Undeclaring h
    · have hnot := isDeclaration_of_mem_ownAttributes hbound hplain hcovers hundeclaring
      have hinner : (declared ++ ownAttributes ns h).foldl Scope.declare scope =
          ⟨default, prefixes⟩ := by
        rw [List.foldl_append, hscope, foldl_declare_of_not_isDeclaration hnot]
      have hattributes := attributeNames?_ownAttributes hbound hplain hcovers hundeclaring default
      rw [hinner, helement, hchildren]
      constructor
      · rintro ⟨hown, -, hmore, hstrays⟩
        exact ⟨⟨hundeclaring, hmore⟩, hown, hstrays⟩
      · rintro ⟨⟨-, hmore⟩, hown, hstrays⟩
        exact ⟨hown, hattributes, hmore, hstrays⟩
    · constructor
      · rintro ⟨-, hread, -⟩
        exact absurd (undeclaring_of_attributeNames? hbound hplain hcovers hread) hundeclaring
      · rintro ⟨⟨hown, -⟩, -⟩
        exact absurd hown hundeclaring

theorem namesAmong?_markup (hbound : Bound ns prefixes) : (cs : List NodeChild) →
    (∀ h ∈ headsAmong cs, PlainNames h ∧ Covers ns h) → (default : Option String) →
    (default = none ∨ default = ns.default) →
    (namesAmong? ⟨default, prefixes⟩ (markupAmong ns default cs) = some (namesAmong cs) ↔
      (∀ h ∈ headsAmong cs, Undeclaring h) ∧
        ∀ u, ns.default = some u → straysAmong u default.isSome cs = false)
  | [], _, _, _ => by simp [markupAmong, namesAmong?, namesAmong, headsAmong, straysAmong]
  | .comment _ :: rest, hready, default, hdefault =>
    namesAmong?_markup hbound rest hready default hdefault
  | .element n :: rest, hready, default, hdefault => by
    obtain ⟨hfirst, hmore⟩ := List.forall_mem_append.1 hready
    have hinner : innerScope default n.head = none ∨ innerScope default n.head = ns.default := by
      unfold innerScope
      split
      · exact .inl rfl
      · exact hdefault
    have hqualified : (innerScope default n.head).isSome → n.head.uri.isSome := by
      unfold innerScope
      cases n.head.uri <;> simp
    have hswitched : (innerScope default n.head).isSome = (default.isSome && n.head.uri.isSome) := by
      unfold innerScope
      cases n.head.uri <;> simp
    have hn := names?_markup hbound n hfirst (innerDeclared default n.head)
      (fun d => isDeclaration_of_mem_innerDeclared) ⟨default, prefixes⟩ _
      (foldl_declare_innerDeclared default prefixes n.head) hinner hqualified
    have hrest := namesAmong?_markup hbound rest hmore default hdefault
    rw [hswitched] at hn
    rw [markupAmong, namesAmong?, namesAmong, headsAmong, List.forall_mem_append]
    simp only [bind, Option.bind_eq_some_iff, pure, Option.some.injEq, List.cons.injEq, straysAmong,
      Bool.or_eq_false_iff]
    constructor
    · rintro ⟨_, hread, _, hreadRest, rfl, rfl⟩
      obtain ⟨hown, hstrays⟩ := hn.1 hread
      obtain ⟨hbelow, hstraysRest⟩ := hrest.1 hreadRest
      exact ⟨⟨hown, hbelow⟩, fun u hu => ⟨hstrays u hu, hstraysRest u hu⟩⟩
    · rintro ⟨⟨hown, hbelow⟩, hstrays⟩
      exact ⟨_, hn.2 ⟨hown, fun u hu => (hstrays u hu).1⟩, _,
        hrest.2 ⟨hbelow, fun u hu => (hstrays u hu).2⟩, rfl, rfl⟩

end

end Documents

/-! ## The declarations on the root -/

theorem foldl_declare_prefixes (declared : List (String × String)) (scope : Scope) :
    (declared.map fun d => ("xmlns:" ++ d.1, d.2)).foldl Scope.declare scope =
      { scope with prefixes := declared.reverse ++ scope.prefixes } := by
  induction declared generalizing scope with
  | nil => rfl
  | cons d rest ih =>
      have hsplit : splitName ("xmlns:" ++ d.1) = (some "xmlns", d.1) :=
        splitName_prefixed (p := "xmlns") (by decide) d.1
      have hdeclare : scope.declare ("xmlns:" ++ d.1, d.2) =
          { scope with prefixes := d :: scope.prefixes } := by
        simp [Scope.declare, hsplit]
      rw [List.map_cons, List.foldl_cons, hdeclare, ih]
      simp

theorem lookup_of_mem {list : List (String × String)} (hkeys : (list.map (·.1)).Nodup)
    {p u : String} (hmem : (p, u) ∈ list) : list.lookup p = some u := by
  induction list with
  | nil => cases hmem
  | cons d rest ih =>
      rw [List.map_cons, List.nodup_cons] at hkeys
      rcases List.mem_cons.1 hmem with rfl | hmem
      · simp
      · have hother : p ≠ d.1 := by
          rintro rfl
          exact hkeys.1 (List.mem_map.2 ⟨_, hmem, rfl⟩)
        rw [List.lookup_cons, beq_false_of_ne hother]
        exact ih hkeys.2 hmem

theorem declared_valid {ns : Namespaces} {format : Format} (hformat : format.Usable)
    (hsound : ns.Sound format) {d : String × String} (hd : d ∈ ns.declared) :
    ':' ∉ d.1.toList ∧ d.1 ≠ "xmlns" ∧ d.1 ≠ "xsi" := by
  rcases hsound.origin d hd with hconfigured | ⟨-, k, hk⟩
  · have hvalid := hformat.valid _ _ hconfigured
    exact ⟨hvalid.plain, hvalid.free.2⟩
  · rw [hk]
    exact ⟨colon_not_mem_numbered k, numbered_ne (by decide) k, numbered_ne (by decide) k⟩

/-- The prefixes that a reader knows inside the root. -/
def rootPrefixes (ns : Namespaces) : List (String × String) :=
  (if ns.usesNil then [("xsi", instanceUri)] else []) ++ ns.declared.reverse

theorem bound_rootPrefixes {ns : Namespaces} {format : Format} (hformat : format.Usable)
    (hsound : ns.Sound format) : Bound ns (rootPrefixes ns) := by
  have hkeys : ((rootPrefixes ns).map (·.1)).Nodup := by
    have hdeclared : (ns.declared.reverse.map (·.1)).Nodup := by
      rw [List.map_reverse, List.nodup_reverse]
      exact hsound.prefixes
    rw [rootPrefixes, List.map_append]
    split
    · refine List.nodup_cons.2 ⟨fun hmem => ?_, hdeclared⟩
      obtain ⟨d, hd, hxsi⟩ := List.mem_map.1 hmem
      exact (declared_valid hformat hsound (List.mem_reverse.1 hd)).2.2 hxsi
    · exact hdeclared
  constructor
  · intro u p hp
    have hvalid := declared_valid hformat hsound (Namespaces.prefixOf?_eq_some hp)
    exact ⟨hvalid.1, hvalid.2.1⟩
  · intro u p hp
    refine lookup_of_mem hkeys (List.mem_append_right _ (List.mem_reverse.2 ?_))
    exact Namespaces.prefixOf?_eq_some hp
  · intro hnil
    refine lookup_of_mem hkeys (List.mem_append_left _ ?_)
    rw [if_pos hnil]
    exact List.mem_singleton_self _

theorem foldl_declare_rootDeclared {ns : Namespaces} (hdefault : ns.default ≠ some "") :
    (rootDeclared ns).foldl Scope.declare {} = ⟨ns.default, rootPrefixes ns⟩ := by
  have hxmlns : splitName "xmlns" = (none, "xmlns") := splitName_plain (by decide)
  have hfirst : (ns.default.toList.map fun uri => ("xmlns", uri)).foldl Scope.declare {} =
      ⟨ns.default, []⟩ := by
    cases hns : ns.default with
    | none => rfl
    | some uri =>
        have huri : uri ≠ "" := fun h => hdefault (by rw [hns, h])
        simp [Scope.declare, hxmlns, huri]
  have hlast : ∀ scope : Scope,
      (if ns.usesNil then [("xmlns:xsi", instanceUri)] else []).foldl Scope.declare scope =
        { scope with
          prefixes := (if ns.usesNil then [("xsi", instanceUri)] else []) ++ scope.prefixes } := by
    intro scope
    split
    · exact foldl_declare_prefixes [("xsi", instanceUri)] scope
    · rfl
  rw [rootDeclared, List.foldl_append, List.foldl_append, hfirst, foldl_declare_prefixes, hlast]
  simp [rootPrefixes]

theorem isDeclaration_of_mem_rootDeclared {ns : Namespaces} {d : String × String}
    (hd : d ∈ rootDeclared ns) : isDeclaration d.1 = true := by
  have hdefault : isDeclaration "xmlns" = true := by decide +kernel
  have hprefixed : ∀ p, isDeclaration ("xmlns:" ++ p) = true := fun p => by
    have hsplit : splitName ("xmlns:" ++ p) = (some "xmlns", p) :=
      splitName_prefixed (p := "xmlns") (by decide) p
    rw [isDeclaration, hsplit]
    rfl
  rcases List.mem_append.1 hd with hd | hd
  · rcases List.mem_append.1 hd with hd | hd
    · obtain ⟨uri, -, rfl⟩ := List.mem_map.1 hd
      exact hdefault
    · obtain ⟨e, -, rfl⟩ := List.mem_map.1 hd
      exact hprefixed e.1
  · split at hd
    · rw [List.mem_singleton.1 hd]
      exact hprefixed "xsi"
    · cases hd

/-- The names of a document are read back from what is written exactly if no attribute looks like a
declaration and no element in the default namespace stands below an element without a namespace. -/
theorem names_kept_iff (o : Overrides) (hprefixes : ∀ p ∈ o.prefixes.keys, ValidPrefix p)
    (root : Node) (hplain : ∀ h ∈ root.heads, PlainNames h) :
    write (.ofOverrides o) root = (documentMarkup (.ofOverrides o) root).text (.ofOverrides o) ∧
      ((documentMarkup (.ofOverrides o) root).names? {} = some (names root) ↔
        (∀ h ∈ root.heads, Undeclaring h) ∧
          ∀ u, Namespaces.defaultOf root (.ofOverrides o) = some u → strays u true root = false) := by
  refine ⟨write_eq_markup _ root, ?_⟩
  have hformat := Format.usable_ofOverrides hprefixes
  obtain ⟨hsound, hdefault, -, -, -⟩ := Namespaces.collect_spec root hformat
  have hready : ∀ h ∈ root.heads,
      PlainNames h ∧ Covers (Namespaces.collect root (.ofOverrides o)) h := fun h hh =>
    ⟨hplain h hh, covers_collect root hformat h hh⟩
  have hroot : root.head ∈ root.heads := by
    cases root
    exact List.mem_cons_self
  have hqualified : ∀ u, Namespaces.defaultOf root (.ofOverrides o) = some u → root.head.uri = some u :=
    fun u hu => (Option.filter_eq_some_iff.1 hu).1
  have hnonempty : (Namespaces.collect root (.ofOverrides o)).default ≠ some "" := fun hempty =>
    (hplain _ hroot).element.2 (hqualified "" (hdefault ▸ hempty))
  have hread := names?_markup (bound_rootPrefixes hformat hsound) root hready _
    (fun d => isDeclaration_of_mem_rootDeclared) {} _ (foldl_declare_rootDeclared hnonempty) (.inr rfl)
    (fun hsome => by
      obtain ⟨u, hu⟩ := Option.isSome_iff_exists.1 hsome
      rw [hqualified u (hdefault ▸ hu)]
      rfl)
  rw [documentMarkup, hread, hdefault]
  refine and_congr_right fun _ => forall_congr' fun u => imp_congr_right fun hu => ?_
  rw [hu]
  rfl

/-- A root with an attribute in its own namespace; below it an element without a namespace, and below that
one an element in another namespace that is nil. -/
def mixedDocument : Node :=
  .mk { name := "Root", uri := some "urn:a", attributes := [⟨"id", some "urn:a", "1"⟩] } [
    .element (.mk { name := "Local" } [
      .element (.mk { name := "Other", uri := some "urn:b", nil := true } [])])]

/-- Overrides that name a prefix for one of the namespaces. -/
def mixedOverrides : Overrides := { prefixes := Dict.empty.insert "b" "urn:b" }

theorem names_kept_mixed : (∀ p ∈ mixedOverrides.prefixes.keys, ValidPrefix p) ∧
    (∀ h ∈ mixedDocument.heads, PlainNames h) ∧
      (documentMarkup (.ofOverrides mixedOverrides) mixedDocument).names? {} =
        some (names mixedDocument) := by
  have hprefixes : ∀ p ∈ mixedOverrides.prefixes.keys, ValidPrefix p := by
    intro p hp
    obtain rfl : p = "b" := List.mem_singleton.1 hp
    exact ⟨by decide, by decide, by decide⟩
  have hheads : mixedDocument.heads = [
      { name := "Root", uri := some "urn:a", attributes := [⟨"id", some "urn:a", "1"⟩] },
      { name := "Local" }, { name := "Other", uri := some "urn:b", nil := true }] := rfl
  have hplain : ∀ h ∈ mixedDocument.heads, PlainNames h := by
    rw [hheads]
    simp only [List.forall_mem_cons]
    exact ⟨⟨by decide, by decide⟩, ⟨by decide, by decide⟩, ⟨by decide, by decide⟩, nofun⟩
  have hundeclaring : ∀ h ∈ mixedDocument.heads, Undeclaring h := by
    rw [hheads]
    simp [Undeclaring]
  have hinside : ∀ u, strays u true mixedDocument = false ∨ u = "urn:b" := by
    intro u
    by_cases hu : u = "urn:b"
    · exact .inr hu
    · exact .inl (by simp [mixedDocument, strays, straysAmong, Node.head, Ne.symm hu])
  refine ⟨hprefixes, hplain, (names_kept_iff _ hprefixes _ hplain).2.2 ⟨hundeclaring, ?_⟩⟩
  intro u hu
  refine (hinside u).resolve_right ?_
  rintro rfl
  have huri := (Option.filter_eq_some_iff.1 hu).1
  simp [mixedDocument, Node.head] at huri

/-- A root in a namespace, below it an element without one, and below that one in the namespace again. -/
def switchedDefault : Node :=
  .mk { name := "Root", uri := some "urn:a" } [.element (.mk { name := "Local" } [
    .element (.mk { name := "Inner", uri := some "urn:a" } [])])]

theorem plainNames_switchedDefault : ∀ h ∈ switchedDefault.heads, PlainNames h := by
  intro h hh
  have hcases : h ∈ [({ name := "Root", uri := some "urn:a" } : NodeHead), { name := "Local" },
    { name := "Inner", uri := some "urn:a" }] := hh
  simp only [List.mem_cons, List.not_mem_nil, or_false] at hcases
  rcases hcases with rfl | rfl | rfl <;> exact ⟨by decide, by simp⟩

theorem names?_switchedDefault :
    (documentMarkup (.ofOverrides {}) switchedDefault).names? {} =
      some (.mk (some "urn:a", "Root") [] [.mk (none, "Local") [] [.mk (none, "Inner") [] []]]) := by
  rfl

/-- An element in the default namespace is read without a namespace below one that has none. -/
theorem names_lost_below_unqualified : ¬ ∀ (o : Overrides), (∀ p ∈ o.prefixes.keys, ValidPrefix p) →
    ∀ root : Node, (∀ h ∈ root.heads, PlainNames h) →
      (documentMarkup (.ofOverrides o) root).names? {} = some (names root) := by
  intro h
  have hread := h {} (fun p hp => nomatch hp) switchedDefault plainNames_switchedDefault
  rw [names?_switchedDefault] at hread
  simp [switchedDefault, names, namesAmong] at hread

end Xml
end Specimen
