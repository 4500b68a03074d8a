import Specimen.Proofs.Walk.Inversion

/-!
# Documents that are built as declared

`BuiltAs` says that an element is what its declaration makes of it: it is nil, or it has a text, or its
children are a word of the group of its type.  A group contributes its repetitions one after the other; a
repetition of a choice is what one member contributes, and any other repetition is what all members
contribute in order.  Comments between elements do not count.

What is asked of a document beyond this shape is left open (`Demands`): how often something may occur, and
whether something may be missing.  One theorem about the walk then serves every such demand that the walk
meets.  Nothing is said of values.
-/

namespace Specimen

/-- What is asked of a document beyond its shape. -/
structure Demands where
  /-- How often something may occur within its bounds; the branch that a choice has taken is forced. -/
  occurs : (force : Bool) → (low : Nat) → (high : MaxOccurs) → (count : Nat) → Prop
  /-- Whether something may be missing. -/
  gaps : Prop

/-- The attributes of an element are those that are declared, in order; optional ones may be left out. -/
inductive AttributesOf (schema : Schema) : List AttributeDecl → List Attribute → Prop where
  | nil : AttributesOf schema [] []
  | omitted {a : AttributeDecl} {rest : List AttributeDecl} {built : List Attribute}
      (hoptional : a.required = false) (hrest : AttributesOf schema rest built) :
      AttributesOf schema (a :: rest) built
  | present {a : AttributeDecl} {rest : List AttributeDecl} {built : List Attribute} {facets : Facets}
      {value : String} (hfacets : schema.resolveAttribute a = .ok facets)
      (hrest : AttributesOf schema rest built) :
      AttributesOf schema (a :: rest) ({ name := a.name, uri := a.uri, value } :: built)

mutual

/-- An element at a path is what its declaration makes of it. -/
inductive BuiltAs (schema : Schema) (d : Demands) :
    (path : String) → (uri : Option String) → Element → Node → Prop where
  | nil {path : String} {uri : Option String} {e : Element} {type : ResolvedType}
      {attributes : List Attribute} (hnillable : e.decl.nillable = true)
      (htype : schema.resolveType e = .ok type)
      (hattributes : AttributesOf schema type.attributes attributes) :
      BuiltAs schema d path uri e (.mk { name := e.name, uri, attributes, nil := true } [])
  | text {path : String} {uri : Option String} {e : Element} {type : ResolvedType}
      {attributes : List Attribute} {facets : Facets} {text : String} {truncated : Bool}
      (htype : schema.resolveType e = .ok type)
      (hattributes : AttributesOf schema type.attributes attributes)
      (hfacets : type.content.facets? = some facets)
      (htruncated : truncated = true → d.gaps) :
      BuiltAs schema d path uri e
        (.mk { name := e.name, uri, attributes, text := some text, truncated } [])
  | empty {path : String} {uri : Option String} {e : Element} {type : ResolvedType}
      {attributes : List Attribute} {truncated : Bool} (htype : schema.resolveType e = .ok type)
      (hattributes : AttributesOf schema type.attributes attributes)
      (hempty : type.content = .empty) (htruncated : truncated = true → d.gaps) :
      BuiltAs schema d path uri e (.mk { name := e.name, uri, attributes, truncated } [])
  | complex {path : String} {uri : Option String} {e : Element} {type : ResolvedType}
      {attributes : List Attribute} {g : Group} {children : List NodeChild} {truncated : Bool}
      (htype : schema.resolveType e = .ok type)
      (hattributes : AttributesOf schema type.attributes attributes)
      (hcomplex : type.content = .complex g)
      (hword : WordOf schema d path false g (Walk.elementsAmong children))
      (htruncated : truncated = true → d.gaps) :
      BuiltAs schema d path uri e (.mk { name := e.name, uri, attributes, truncated } children)
  /-- An empty element stands for one that could not be built. -/
  | stub {path : String} {uri : Option String} {e : Element} (hgaps : d.gaps) :
      BuiltAs schema d path uri e (.mk { name := e.name, uri, truncated := true } [])

/-- Elements in a row are what a group contributes: one repetition after the other. -/
inductive WordOf (schema : Schema) (d : Demands) :
    (path : String) → (force : Bool) → Group → List Node → Prop where
  | mk {path : String} {force : Bool} {g : Group} {repetitions : List (List Node)}
      (hcount : d.occurs force g.minOccurs g.maxOccurs repetitions.length)
      (hrepetitions : ∀ nodes ∈ repetitions, RepetitionOf schema d path g nodes) :
      WordOf schema d path force g repetitions.flatten

/-- Elements in a row are one repetition of a group. -/
inductive RepetitionOf (schema : Schema) (d : Demands) :
    (path : String) → Group → List Node → Prop where
  | all {path : String} {g : Group} {nodes : List Node} (hkind : g.kind ≠ .choice)
      (hnodes : SequenceOf schema d path g.members nodes) : RepetitionOf schema d path g nodes
  | branch {path : String} {g : Group} {p : Particle} {nodes : List Node} (hkind : g.kind = .choice)
      (hmember : p ∈ g.members) (hnodes : ContributionOf schema d path true p nodes) :
      RepetitionOf schema d path g nodes
  | nothing {path : String} {g : Group} (hkind : g.kind = .choice)
      (hreason : g.members = [] ∨ d.gaps) : RepetitionOf schema d path g []

/-- Elements in a row are what members contribute in order. -/
inductive SequenceOf (schema : Schema) (d : Demands) :
    (path : String) → List Particle → List Node → Prop where
  | nil {path : String} : SequenceOf schema d path [] []
  | cons {path : String} {p : Particle} {rest : List Particle} {own more : List Node}
      (hown : ContributionOf schema d path false p own) (hmore : SequenceOf schema d path rest more) :
      SequenceOf schema d path (p :: rest) (own ++ more)
  | stopped {path : String} {members : List Particle} (hgaps : d.gaps) :
      SequenceOf schema d path members []

/-- Elements in a row are what a member contributes. -/
inductive ContributionOf (schema : Schema) (d : Demands) :
    (path : String) → (force : Bool) → Particle → List Node → Prop where
  | elements {path : String} {force : Bool} {e : Element} {nodes : List Node}
      (hcount : d.occurs force e.minOccurs e.maxOccurs nodes.length)
      (hnodes : ∀ n ∈ nodes, BuiltAs schema d (joinPath path e.name) e.decl.uri e n) :
      ContributionOf schema d path force (.element e) nodes
  | group {path : String} {force : Bool} {g : Group} {nodes : List Node}
      (hword : WordOf schema d path force g nodes) :
      ContributionOf schema d path force (.group g) nodes

end

/-! ## Occurrence bounds -/

/-- A number of occurrences is within bounds; the branch that a choice has taken occurs at least once,
also when its upper bound is zero. -/
def InBounds (force : Bool) (low : Nat) (high : MaxOccurs) (count : Nat) : Prop :=
  Walk.leastOccurs low force ≤ count ∧ (high.allows count = true ∨ (force = true ∧ count = 1))

theorem inBounds_clampOccurs {low : Nat} {high : MaxOccurs} (hbounds : Schema.exceeded? low high = none)
    (force : Bool) (requested ceiling : Nat) :
    InBounds force low high (clampOccurs requested (Walk.leastOccurs low force) high ceiling) := by
  unfold InBounds clampOccurs MaxOccurs.allows Walk.leastOccurs
  unfold Schema.exceeded? at hbounds
  refine ⟨Nat.le_max_right _ _, ?_⟩
  cases hlimit : high.limit? with
  | none => exact .inl rfl
  | some limit =>
      rw [hlimit] at hbounds
      have hlow : low ≤ limit := by simpa using hbounds
      cases force with
      | false => left; simp; omega
      | true =>
          simp only [if_true, decide_eq_true_eq, true_and]
          omega

theorem inBounds_zero {force : Bool} {low : Nat} (high : MaxOccurs)
    (hlow : Walk.leastOccurs low force = 0) : InBounds force low high 0 := by
  refine ⟨Nat.le_of_eq hlow, .inl ?_⟩
  unfold MaxOccurs.allows
  split <;> simp

theorem inBounds_occurrenceCount {setup : Setup} {e : Element}
    (hbounds : Schema.exceeded? e.minOccurs e.maxOccurs = none) (path : String)
    (rule : Option ElementRule) (force : Bool) :
    InBounds force e.minOccurs e.maxOccurs (Walk.occurrenceCount setup e path rule force) := by
  unfold Walk.occurrenceCount
  dsimp only
  split
  · rename_i habsent
    exact inBounds_zero e.maxOccurs habsent.1
  · exact inBounds_clampOccurs hbounds force _ _

theorem inBounds_groupCount {setup : Setup} {g : Group}
    (hbounds : Schema.exceeded? g.minOccurs g.maxOccurs = none) (path : String) (force : Bool) :
    InBounds force g.minOccurs g.maxOccurs (Walk.groupCount setup g path force) := by
  unfold Walk.groupCount
  dsimp only
  split
  · rename_i habsent
    exact inBounds_zero g.maxOccurs habsent.1
  · exact inBounds_clampOccurs hbounds force _ _

end Specimen
