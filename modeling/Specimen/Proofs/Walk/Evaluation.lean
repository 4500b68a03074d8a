import Specimen.Proofs.Walk.Leaves

/-!
# Following the walk

How the walk goes on from what its parts have come to: an occurrence from its attributes and its content, a
document from its root.  A document whose leaves are known can be built up from here one part after the
other, without running the walk.
-/

namespace Specimen

open Run

namespace Walk

variable {setup : Setup} {e : Element} {type : ResolvedType} {path : String}

theorem exec_isHalted_bind {α : Type} (f : Bool → Run α) (s : RunState) :
    (isHalted >>= f).exec s = (f s.halted).exec s := by
  unfold isHalted
  rw [bind_assoc, exec_get_bind, pure_bind]

/-- Only a named type can be refused. -/
theorem refused?_of_anonymous (hidentity : type.identity = none) (s : RunState) :
    refused? setup s type = none := by
  unfold refused?
  rw [hidentity]
  rfl

/-! ## Occurrences -/

theorem step_of_budget (path : String) {s : RunState}
    (hbudget : setup.options.isExceededBy (s.report.steps + 1) = false) :
    (step setup path).exec s =
      (.ok true, { s with report := { s.report with steps := s.report.steps + 1 } }) := by
  have htick : (tick setup.options).exec s =
      (.ok (), { s with report := { s.report with steps := s.report.steps + 1 } }) := by
    unfold tick
    rw [exec_record_bind, exec_get_bind]
    dsimp only
    rw [hbudget]
    rfl
  unfold step
  rw [exec_tryCatch, exec_bind, htick]
  rfl

/-- The state in which the attributes of an element are resolved, or its text when it has none. -/
def atText (s : RunState) : RunState :=
  { s with
    scopes := s.scopes + 1
    report := { s.report with steps := s.report.steps + 1 }.countElement }

theorem quiet_atText (s : RunState) : s.Quiet (atText s) := ⟨.of_same rfl rfl rfl rfl, rfl, rfl, rfl⟩

theorem quiet_countAttribute (s : RunState) : s.Quiet { s with report := s.report.countAttribute } :=
  ⟨.of_same rfl rfl rfl rfl, rfl, rfl, rfl⟩

/-- A required attribute is built from its value. -/
theorem buildAttributes_of_value {owner : String} {scope : Nat} {a : AttributeDecl}
    {rest : List AttributeDecl} (hrequired : a.required = true) {s t u : RunState} {value : String}
    {more : List Attribute}
    (hvalue : (attributeValue setup a (owner ++ "/@" ++ a.name) scope).exec s = (.ok value, t))
    (hrest : (buildAttributes setup owner scope rest).exec { t with report := t.report.countAttribute } =
      (.ok more, u)) :
    (buildAttributes setup owner scope (a :: rest)).exec s =
      (.ok ({ name := a.name, uri := a.uri, value } :: more), u) := by
  unfold buildAttributes
  dsimp only
  rw [if_neg (by simp [hrequired]), exec_bind_of_ok hvalue, exec_record_bind, exec_bind_of_ok hrest]
  rfl

theorem buildContent_of_text {facets : Facets} (hfacets : type.content.facets? = some facets)
    {head : NodeHead} {parentScope : Nat} {inside : Run (List NodeChild)} {s t : RunState} {value : String}
    (htext : (leafText setup e path facets parentScope).exec s = (.ok value, t)) :
    (buildContent setup e type path head parentScope inside).exec s =
      (.ok (.mk { head with text := some value } []), t) := by
  unfold buildContent
  cases hcontent : type.content with
  | builtin p =>
      rw [hcontent] at hfacets
      cases hfacets
      exact exec_bind_of_ok htext
  | simple f =>
      rw [hcontent] at hfacets
      cases hfacets
      exact exec_bind_of_ok htext
  | complex g => rw [hcontent] at hfacets; cases hfacets
  | empty => rw [hcontent] at hfacets; cases hfacets

/-- The content of an element without a named type is what is inside it. -/
theorem buildContent_of_inside {g : Group} (hcontent : type.content = .complex g)
    (hidentity : type.identity = none) {head : NodeHead} {parentScope : Nat}
    {inside : Run (List NodeChild)} {s t : RunState} {cs : List NodeChild}
    (hinside : inside.exec s = (.ok cs, t)) :
    (buildContent setup e type path head parentScope inside).exec s = (.ok (.mk head cs), t) := by
  unfold buildContent
  rw [hcontent, hidentity]
  exact exec_bind_of_ok hinside

/-- An occurrence of an element that is not nil is its attributes and its content. -/
theorem buildOccurrence_of_parts {rule : Option ElementRule} (hnil : rule.any (·.nil) = false)
    {uri : Option String} {parentScope : Nat} {inside : Inside} {s t u : RunState}
    (hbudget : setup.options.isExceededBy (s.report.steps + 1) = false) {attributes : List Attribute}
    {node : Node}
    (hattributes : (buildAttributes setup path (s.scopes + 1) type.attributes).exec (atText s) =
      (.ok attributes, t))
    (hcontent : (buildContent setup e type path { name := e.name, uri, attributes } parentScope
      (inside (s.scopes + 1))).exec t = (.ok node, u)) :
    (buildOccurrence setup e type path rule uri parentScope inside).exec s =
      (.ok (some (if u.halted then node.truncate else node)), u) := by
  have hnotNil : becomesNil e path rule = pure false := by
    unfold becomesNil
    rw [hnil]
    rfl
  unfold buildOccurrence
  rw [exec_bind_of_ok (step_of_budget path hbudget)]
  simp only [Bool.not_true, Bool.false_eq_true, if_false, hnotNil, pure_bind]
  rw [exec_openScope_bind, exec_record_bind]
  change (_ >>= _ : Run _).exec (atText s) = _
  rw [exec_bind_of_ok hattributes, exec_bind_of_ok hcontent]
  rfl

/-- An occurrence of an element with a simple type and without attributes is its text. -/
theorem buildOccurrence_of_text {facets : Facets} (hfacets : type.content.facets? = some facets)
    (hattributes : type.attributes = []) {rule : Option ElementRule}
    (hnil : rule.any (·.nil) = false) (uri : Option String) {parentScope : Nat} (inside : Inside)
    {s t : RunState} (hbudget : setup.options.isExceededBy (s.report.steps + 1) = false) {value : String}
    (htext : (leafText setup e path facets parentScope).exec (atText s) = (.ok value, t)) :
    ∃ node, (buildOccurrence setup e type path rule uri parentScope inside).exec s = (.ok (some node), t) ∧
      node.name = e.name ∧ node.leaves path = [⟨e.name, path, value⟩] := by
  have hnone : (buildAttributes setup path (s.scopes + 1) type.attributes).exec (atText s) =
      (.ok [], atText s) := by
    rw [hattributes]
    rfl
  refine ⟨_, buildOccurrence_of_parts hnil hbudget hnone (buildContent_of_text hfacets htext), ?_, ?_⟩
  · split <;> rfl
  · split <;> rfl

/-! ## Content of one element -/

/-- An element that occurs once is its occurrence. -/
theorem buildElement_of_one {parentPath : String} {scope : Nat} {force : Bool}
    {inside : ResolvedType → String → Option ElementRule → Inside}
    (hresolve : setup.schema.resolveType e = .ok type) (hidentity : type.identity = none)
    (hcount : occurrenceCount setup e (joinPath parentPath e.name)
      (setup.plan.rule? e.name (joinPath parentPath e.name)) force = 1)
    (hcomments : setup.plan.settings.includeComments = false) {s t : RunState} {node : Node}
    (hoccurrence : (buildOccurrence setup e type (joinPath parentPath e.name)
      (setup.plan.rule? e.name (joinPath parentPath e.name)) e.decl.uri scope
      (inside type (joinPath parentPath e.name)
        (setup.plan.rule? e.name (joinPath parentPath e.name)))).exec s = (.ok (some node), t)) :
    (buildElement setup e parentPath scope force inside).exec s = (.ok [.element node], t) := by
  unfold buildElement
  simp only [hresolve, ofSchema, pure_bind]
  rw [exec_get_bind, refused?_of_anonymous hidentity]
  dsimp only
  rw [hcount, if_neg Nat.one_ne_zero]
  unfold buildEach occurrenceComment
  rw [exec_bind_of_ok hoccurrence, hcomments, exec_isHalted_bind]
  cases t.halted with
  | true => rfl
  | false => rfl

theorem repeatStep_one {body : Run (List NodeChild)} {s t : RunState} {cs : List NodeChild}
    (hbody : body.exec s = (.ok cs, t)) : (repeatStep body 1).exec s = (.ok cs, t) := by
  unfold repeatStep
  rw [exec_bind_of_ok hbody, exec_isHalted_bind]
  cases t.halted with
  | true => rfl
  | false =>
      unfold repeatStep
      simp

section Groups

variable {enter : Enter} {scope : Nat} {rule : Option ElementRule}

theorem walkAll_nil (s : RunState) : (walkAll setup enter path scope rule []).exec s = (.ok [], s) := by
  rw [walkAll, exec_pure]

/-- Members are walked one after the other as long as the walk goes on. -/
theorem walkAll_cons_of_going {p : Particle} {rest : List Particle} {s t u : RunState} {cs ds : List NodeChild}
    (hfirst : (walkParticle setup enter path scope rule false p).exec s = (.ok cs, t)) (hgoing : t.halted = false)
    (hrest : (walkAll setup enter path scope rule rest).exec t = (.ok ds, u)) :
    (walkAll setup enter path scope rule (p :: rest)).exec s = (.ok (cs ++ ds), u) := by
  rw [walkAll, exec_bind_of_ok hfirst, exec_isHalted_bind, hgoing]
  exact exec_bind_of_ok hrest

/-- A group that occurs once is its members. -/
theorem walkGroup_of_all {force : Bool} {decl : GroupDecl} {members : List Particle} (hkind : decl.kind = .sequence)
    (hcount : groupCount setup (.mk decl members) path force = 1) {s t : RunState} {cs : List NodeChild}
    (hall : (walkAll setup enter path scope rule members).exec s = (.ok cs, t)) :
    (walkGroup setup enter path scope rule force (.mk decl members)).exec s = (.ok cs, t) := by
  unfold walkGroup
  dsimp only
  rw [hkind, hcount]
  exact repeatStep_one hall

/-- A group of one element that occurs once is the element. -/
theorem walkGroup_of_element {force : Bool} {decl : GroupDecl} (hkind : decl.kind = .sequence)
    (hcount : groupCount setup (.mk decl [.element e]) path force = 1) {s t : RunState}
    {cs : List NodeChild} (hchild : (walkElement setup enter path scope false e).exec s = (.ok cs, t)) :
    (walkGroup setup enter path scope rule force (.mk decl [.element e])).exec s = (.ok cs, t) := by
  refine walkGroup_of_all hkind hcount ?_
  unfold walkAll walkParticle
  rw [exec_bind_of_ok hchild, exec_isHalted_bind]
  cases t.halted with
  | true => rfl
  | false =>
      unfold walkAll
      simp

end Groups

/-! ## Documents -/

/-- A document is an occurrence of its root. -/
theorem buildDocument_of_occurrence {root : Element} (hresolve : setup.schema.resolveType root = .ok type)
    (hidentity : type.identity = none) {s t : RunState} {node : Node}
    (hoccurrence : (buildOccurrence setup root type (joinPath "" root.name)
      (setup.plan.rule? root.name (joinPath "" root.name)) (root.decl.uri <|> setup.schema.targetNamespace)
      (s.scopes + 1) (insideOf setup root type (joinPath "" root.name)
        (setup.plan.rule? root.name (joinPath "" root.name)))).exec { s with scopes := s.scopes + 1 } =
          (.ok (some node), t)) :
    (buildDocument setup root).exec s = (.ok node, t) := by
  unfold buildDocument buildIn
  dsimp only
  rw [exec_openScope_bind]
  simp only [hresolve, ofSchema, pure_bind, bind_assoc]
  rw [exec_get_bind, refused?_of_anonymous hidentity, exec_bind_of_ok hoccurrence]
  rfl

/-- The document of a root with a simple type and without attributes is one leaf. -/
theorem buildDocument_of_text {root : Element} {type : ResolvedType} {facets : Facets}
    (hresolve : setup.schema.resolveType root = .ok type) (hfacets : type.content.facets? = some facets)
    (hidentity : type.identity = none) (hattributes : type.attributes = [])
    (hnil : (setup.plan.rule? root.name (joinPath "" root.name)).any (·.nil) = false) {s t : RunState}
    (hbudget : setup.options.isExceededBy (s.report.steps + 1) = false) {value : String}
    (htext : (leafText setup root (joinPath "" root.name) facets (s.scopes + 1)).exec
      (atText { s with scopes := s.scopes + 1 }) = (.ok value, t)) :
    ∃ document, (buildDocument setup root).exec s = (.ok document, t) ∧
      document.documentLeaves = [⟨root.name, joinPath "" root.name, value⟩] := by
  obtain ⟨document, hoccurrence, hname, hleaves⟩ := buildOccurrence_of_text hfacets hattributes hnil
    (root.decl.uri <|> setup.schema.targetNamespace)
    (insideOf setup root type (joinPath "" root.name)
      (setup.plan.rule? root.name (joinPath "" root.name)))
    (s := { s with scopes := s.scopes + 1 }) hbudget htext
  refine ⟨document, buildDocument_of_occurrence hresolve hidentity hoccurrence, ?_⟩
  unfold Node.documentLeaves
  rw [hname, hleaves]

end Walk
end Specimen
