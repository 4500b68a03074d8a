import Specimen.Proofs.Document.Outline
import Specimen.Proofs.Walk.Steps

/-!
# Actions that have returned

What an action of the walk has done when it has returned a value: which parts of it ran, from where to
where, and how the value was put together.  Whatever is shown of documents starts from here, and no later
proof unfolds the walk.
-/

namespace Specimen

open Run

/-! ## Names of attributes -/

/-- The namespace of an attribute, if it has one, and its local name. -/
def AttributeDecl.expandedName (a : AttributeDecl) : Option String × String := (a.uri, a.name)

/-- The namespace of a generated attribute, if it has one, and its local name. -/
def Attribute.expandedName (a : Attribute) : Option String × String := (a.uri, a.name)

namespace Walk

variable {setup : Setup} {s s' : RunState}

/-! ## Steps and scopes -/

theorem record_quiet {change : Report → Report} (hchange : WalkCount change)
    (h : (record change).exec s = (.ok (), s')) : s.Quiet s' := by
  cases h
  exact .of_quietSteps (quietSteps_of_walkStep (.counted change hchange) rfl)

theorem isHalted_eq_ok {halted : Bool} (h : isHalted.exec s = (.ok halted, s')) :
    halted = s.halted ∧ s' = s := by
  cases h
  exact ⟨rfl, rfl⟩

/-- When there is no step left to take and the walk goes on nevertheless, it was stopped. -/
theorem step_eq_ok {path : String} {goesOn : Bool}
    (h : (step setup path).exec s = (.ok goesOn, s')) : goesOn = true ∨ s'.halted = true := by
  unfold step at h
  rw [exec_tryCatch, exec_bind] at h
  rcases htick : (tick setup.options).exec s with ⟨e | ⟨⟩, t⟩
  · rw [htick] at h
    dsimp only at h
    split at h
    · rw [exec_bind, exec_throw] at h
      cases h
    · cases h
      exact .inr rfl
  · rw [htick] at h
    cases h
    exact .inl rfl

/-- An action that goes on unless the walk is stopped. -/
theorem unlessHalted_eq_ok {own cs : List NodeChild} {rest : Run (List NodeChild)}
    (h : (isHalted >>= fun halted =>
      if halted = true then pure own else rest >>= fun more => pure (own ++ more) : Run _).exec s =
        (.ok cs, s')) :
    (s.halted = true ∧ cs = own ∧ s' = s) ∨
      s.halted = false ∧ ∃ more, rest.exec s = (.ok more, s') ∧ cs = own ++ more := by
  obtain ⟨halted, t, hhalted, h⟩ := exec_bind_eq_ok.1 h
  obtain ⟨rfl, rfl⟩ := isHalted_eq_ok hhalted
  split at h
  · rename_i hstopped
    obtain ⟨rfl, rfl⟩ := exec_pure_eq_ok.1 h
    exact .inl ⟨hstopped, rfl, rfl⟩
  · rename_i hgoing
    obtain ⟨more, t', hrest, h⟩ := exec_bind_eq_ok.1 h
    obtain ⟨rfl, rfl⟩ := exec_pure_eq_ok.1 h
    exact .inr ⟨Bool.eq_false_of_not_eq_true hgoing, more, hrest, rfl⟩

/-- Inside a named type the type is open, and it is closed again at the end. -/
theorem within_eq_ok {α : Type} {type : Option String} {inside : Run α} {a : α}
    (h : (within type inside).exec s = (.ok a, s')) :
    ∃ t, inside.exec (s.withOpen (type.toList ++ s.openTypes)) = (.ok a, t) ∧
      s' = t.withOpen s'.openTypes := by
  cases type with
  | none => exact ⟨s', h, rfl⟩
  | some identity =>
      change ((inside.exec (s.pushType identity)).1, (inside.exec (s.pushType identity)).2.popType) =
        (.ok a, s') at h
      rcases hrun : inside.exec (s.pushType identity) with ⟨r, t⟩
      rw [hrun] at h
      cases h
      exact ⟨t, hrun, rfl⟩

/-! ## Occurrences of an element -/

theorem becomesNil_eq_true {e : Element} {path : String} {rule : Option ElementRule}
    (h : (becomesNil e path rule).exec s = (.ok true, s')) : e.decl.nillable = true := by
  unfold becomesNil at h
  split at h
  · cases h
  · split at h
    · assumption
    · obtain ⟨_, t, -, hlast⟩ := exec_bind_eq_ok.1 h
      cases hlast

/-- How an attribute that is present has got its value. -/
theorem attributeValue_eq_ok {a : AttributeDecl} {path : String} {scope : Nat} {value : String}
    (h : (attributeValue setup a path scope).exec s = (.ok value, s')) :
    ∃ facets, setup.schema.resolveAttribute a = .ok facets ∧
      (Leaf.resolve setup {
        name := "@" ++ a.name, path, facets, fixed := a.fixed, scope := some scope }).exec s =
          (.ok value, s') := by
  unfold attributeValue at h
  cases hfacets : setup.schema.resolveAttribute a with
  | error e =>
      rw [hfacets, exec_bind] at h
      cases h
  | ok facets =>
      rw [hfacets] at h
      exact ⟨facets, rfl, h⟩

/-- Whether the element at a path keeps an attribute: it is required, or the mode leaves it in. -/
def keeps (setup : Setup) (owner : String) (a : AttributeDecl) : Bool :=
  a.required || optionalPresent setup ("@" ++ a.name) (owner ++ "/@" ++ a.name)

theorem buildAttributes_cons_eq_ok {owner : String} {scope : Nat} {a : AttributeDecl}
    {rest : List AttributeDecl} {built : List Attribute}
    (h : (buildAttributes setup owner scope (a :: rest)).exec s = (.ok built, s')) :
    (keeps setup owner a = false ∧
        ∃ t, s.Quiet t ∧ (buildAttributes setup owner scope rest).exec t = (.ok built, s')) ∨
      keeps setup owner a = true ∧
        ∃ value more t u, (attributeValue setup a (owner ++ "/@" ++ a.name) scope).exec s = (.ok value, t) ∧
          (buildAttributes setup owner scope rest).exec u = (.ok more, s') ∧
          t.Quiet u ∧ built = { name := a.name, uri := a.uri, value } :: more := by
  unfold buildAttributes at h
  dsimp only at h
  rw [← Bool.not_or] at h
  change (if (!keeps setup owner a) = true then _ else _ : Run _).exec s = _ at h
  cases hkeeps : keeps setup owner a with
  | false =>
      rw [hkeeps, Bool.not_false, if_pos rfl] at h
      obtain ⟨_, t, hcount, hrest⟩ := exec_bind_eq_ok.1 h
      exact .inl ⟨rfl, t, record_quiet .omitted hcount, hrest⟩
  | true =>
      rw [hkeeps, Bool.not_true, if_neg Bool.false_ne_true] at h
      obtain ⟨value, t, hvalue, h⟩ := exec_bind_eq_ok.1 h
      obtain ⟨_, u, hcount, h⟩ := exec_bind_eq_ok.1 h
      obtain ⟨more, v, hrest, h⟩ := exec_bind_eq_ok.1 h
      obtain ⟨rfl, rfl⟩ := exec_pure_eq_ok.1 h
      have hquiet := record_quiet .attribute hcount
      exact .inr ⟨rfl, value, more, t, u, hvalue, hrest, hquiet, rfl⟩

/-- Attributes that were built at a path are exactly those of the declared ones that the element there keeps, in
order. -/
def AreKept (setup : Setup) (owner : String) (attributes : List AttributeDecl) (built : List Attribute) : Prop :=
  built.map Attribute.expandedName = (attributes.filter (keeps setup owner)).map AttributeDecl.expandedName

theorem buildAttributes_areKept {owner : String} {scope : Nat} {attributes : List AttributeDecl}
    {built : List Attribute} (h : (buildAttributes setup owner scope attributes).exec s = (.ok built, s')) :
    AreKept setup owner attributes built := by
  unfold AreKept
  induction attributes generalizing s built with
  | nil =>
      obtain ⟨rfl, -⟩ := exec_pure_eq_ok.1 h
      rfl
  | cons a rest ih =>
      rcases buildAttributes_cons_eq_ok h with
        ⟨hkeeps, t, -, hrest⟩ | ⟨hkeeps, value, more, t, u, -, hrest, -, rfl⟩
      · rw [ih hrest, List.filter_cons_of_neg (by simp [hkeeps])]
      · rw [List.map_cons, ih hrest, List.filter_cons_of_pos hkeeps, List.map_cons]
        rfl

/-- The parts of an occurrence that was built, or that was not because the walk was stopped. -/
theorem buildOccurrence_eq_ok {e : Element} {type : ResolvedType} {path : String}
    {rule : Option ElementRule} {uri : Option String} {parentScope : Nat} {inside : Inside}
    {built : Option Node}
    (h : (buildOccurrence setup e type path rule uri parentScope inside).exec s = (.ok built, s')) :
    (built = none ∧ s'.halted = true ∧ s.Quiet s') ∨
      ∃ scope attributes t u, Relation.ReflTransGen QuietStep s t ∧
        (buildAttributes setup path scope type.attributes).exec t = (.ok attributes, u) ∧
        ((e.decl.nillable = true ∧ Relation.ReflTransGen QuietStep u s' ∧
            built = some (.mk { name := e.name, uri, attributes, nil := true } [])) ∨
          ∃ node v, Relation.ReflTransGen QuietStep u v ∧
            (buildContent setup e type path { name := e.name, uri, attributes } parentScope
              (inside scope)).exec v = (.ok node, s') ∧
            built = some (if s'.halted = true then node.truncate else node)) := by
  unfold buildOccurrence at h
  obtain ⟨goesOn, s₁, hstep, h⟩ := exec_bind_eq_ok.1 h
  have hsteps := (step_takesQuietSteps path).steps_of_exec hstep
  split at h
  · rename_i hstopped
    obtain ⟨rfl, rfl⟩ := exec_pure_eq_ok.1 h
    exact .inl ⟨rfl, (step_eq_ok hstep).resolve_left (by simpa using hstopped), .of_quietSteps hsteps⟩
  · obtain ⟨scope, s₂, hscope, h⟩ := exec_bind_eq_ok.1 h
    obtain ⟨_, t, hcount, h⟩ := exec_bind_eq_ok.1 h
    obtain ⟨attributes, u, hattributes, h⟩ := exec_bind_eq_ok.1 h
    dsimp only at h
    obtain ⟨nil, v, hnil, h⟩ := exec_bind_eq_ok.1 h
    have hopen : TakesQuietSteps setup openScope := openScope_takesQuietSteps
    have hrecord : TakesQuietSteps setup (record .countElement) := record_takesQuietSteps .element
    have hbecomes : TakesQuietSteps setup (becomesNil e path rule) :=
      becomesNil_takesQuietSteps e path rule
    have hst := (hsteps.trans (hopen.steps_of_exec hscope)).trans (hrecord.steps_of_exec hcount)
    have huv := hbecomes.steps_of_exec hnil
    refine .inr ⟨scope, attributes, t, u, hst, hattributes, ?_⟩
    split at h
    · rename_i hisNil
      obtain ⟨rfl, rfl⟩ := exec_pure_eq_ok.1 h
      rw [hisNil] at hnil
      exact .inl ⟨becomesNil_eq_true hnil, huv, rfl⟩
    · obtain ⟨node, w, hcontent, h⟩ := exec_bind_eq_ok.1 h
      obtain ⟨halted, w', hhalted, h⟩ := exec_bind_eq_ok.1 h
      obtain ⟨rfl, rfl⟩ := isHalted_eq_ok hhalted
      obtain ⟨rfl, rfl⟩ := exec_pure_eq_ok.1 h
      exact .inr ⟨node, v, huv, hcontent, rfl⟩

theorem leafContent_eq_ok {e : Element} {type : ResolvedType} {path : String} {head : NodeHead}
    {parentScope : Nat} {inside : Run (List NodeChild)} {node : Node} {facets : Facets}
    (hfacets : type.content.facets? = some facets)
    (h : (buildContent setup e type path head parentScope inside).exec s = (.ok node, s')) :
    ∃ text, (Leaf.resolve setup {
        name := e.name, path, facets, fixed := e.decl.fixed, scope := some parentScope }).exec s =
          (.ok text, s') ∧
      node = .mk { head with text := some text } [] := by
  unfold buildContent at h
  cases hcontent : type.content with
  | builtin p =>
      rw [hcontent] at h hfacets
      cases hfacets
      obtain ⟨text, t, htext, h⟩ := exec_bind_eq_ok.1 h
      obtain ⟨rfl, rfl⟩ := exec_pure_eq_ok.1 h
      exact ⟨text, htext, rfl⟩
  | simple f =>
      rw [hcontent] at h hfacets
      cases hfacets
      obtain ⟨text, t, htext, h⟩ := exec_bind_eq_ok.1 h
      obtain ⟨rfl, rfl⟩ := exec_pure_eq_ok.1 h
      exact ⟨text, htext, rfl⟩
  | complex g => rw [hcontent] at hfacets; cases hfacets
  | empty => rw [hcontent] at hfacets; cases hfacets

theorem complexContent_eq_ok {e : Element} {type : ResolvedType} {path : String} {head : NodeHead}
    {parentScope : Nat} {inside : Run (List NodeChild)} {node : Node} {g : Group}
    (hcontent : type.content = .complex g)
    (h : (buildContent setup e type path head parentScope inside).exec s = (.ok node, s')) :
    ∃ children, (within type.identity inside).exec s = (.ok children, s') ∧
      node = .mk head children := by
  unfold buildContent at h
  rw [hcontent] at h
  obtain ⟨children, t, hchildren, h⟩ := exec_bind_eq_ok.1 h
  obtain ⟨rfl, rfl⟩ := exec_pure_eq_ok.1 h
  exact ⟨children, hchildren, rfl⟩

theorem emptyContent_eq_ok {e : Element} {type : ResolvedType} {path : String} {head : NodeHead}
    {parentScope : Nat} {inside : Run (List NodeChild)} {node : Node}
    (hcontent : type.content = .empty)
    (h : (buildContent setup e type path head parentScope inside).exec s = (.ok node, s')) :
    node = .mk head [] ∧ s' = s := by
  unfold buildContent at h
  rw [hcontent] at h
  obtain ⟨rfl, rfl⟩ := exec_pure_eq_ok.1 h
  exact ⟨rfl, rfl⟩

theorem buildEach_succ_eq_ok {e : Element} {count left : Nat} {occurrence : Run (Option Node)}
    {cs : List NodeChild}
    (h : (buildEach setup e count occurrence (left + 1)).exec s = (.ok cs, s')) :
    ∃ built t own, occurrence.exec s = (.ok built, t) ∧
      own = occurrenceComment setup e (count - left) count ++
        (built.map NodeChild.element).toList ∧
      ((t.halted = true ∧ cs = own ∧ s' = t) ∨
        t.halted = false ∧ ∃ more, (buildEach setup e count occurrence left).exec t = (.ok more, s') ∧
          cs = own ++ more) := by
  unfold buildEach at h
  obtain ⟨built, t, hbuilt, h⟩ := exec_bind_eq_ok.1 h
  exact ⟨built, t, _, hbuilt, rfl, unlessHalted_eq_ok h⟩

/-- The children that are elements, in order. -/
def elementsAmong (children : List NodeChild) : List Node := children.filterMap NodeChild.element?

@[simp] theorem elementsAmong_append (cs ds : List NodeChild) :
    elementsAmong (cs ++ ds) = elementsAmong cs ++ elementsAmong ds := List.filterMap_append

theorem headsAmong_eq (cs : List NodeChild) : headsAmong cs = (elementsAmong cs).flatMap Node.heads := by
  induction cs with
  | nil => rfl
  | cons c rest ih =>
      cases c with
      | comment text => exact ih
      | element n =>
          rw [headsAmong, ih]
          rfl

@[simp] theorem elementsAmong_occurrenceComment (e : Element) (number count : Nat) :
    elementsAmong (occurrenceComment setup e number count) = [] := by
  unfold occurrenceComment
  split <;> rfl

@[simp] theorem elementsAmong_toList (built : Option Node) :
    elementsAmong (built.map NodeChild.element).toList = built.toList := by
  cases built <;> rfl

/-- Whether it is on record that a type was nested too deeply. -/
def Refused (s : RunState) : Prop := ∃ e ∈ s.trace, e.isRefusal = true

theorem Refused.grows {s t : RunState} (h : Refused s) (hgrows : s.Grows t) : Refused t := by
  obtain ⟨e, he, hrefusal⟩ := h
  exact ⟨e, hgrows.trace e he, hrefusal⟩

theorem refused_of_follow {e : TraceEvent} (he : e.isRefusal = true)
    (h : (follow e).exec s = (.ok (), s')) : Refused s' := by
  cases h
  exact ⟨e, Array.mem_push_self, he⟩

/-- The empty element that stands for a required element of a type that is nested too deeply. -/
def stub (e : Element) : Node := .mk { name := e.name, uri := e.decl.uri, truncated := true } []

theorem cutOff_eq_ok {e : Element} {path identity : String} {cs : List NodeChild}
    (h : (cutOff setup e path identity).exec s = (.ok cs, s')) :
    elementsAmong cs = List.replicate e.minOccurs (stub e) ∧ Refused s' ∧ s.Quiet s' := by
  have hquiet := quiet_of_exec (cutOff_takesQuietSteps e path identity) h
  unfold cutOff at h
  rw [exec_get_bind] at h
  obtain ⟨⟨⟩, t, hfollow, h⟩ := exec_bind_eq_ok.1 h
  obtain ⟨⟨⟩, u, hrecord, h⟩ := exec_bind_eq_ok.1 h
  obtain ⟨rfl, rfl⟩ := exec_pure_eq_ok.1 h
  have hgrows := (record_quiet (.truncation _) hrecord).grows
  refine ⟨?_, (refused_of_follow rfl hfollow).grows hgrows, hquiet⟩
  have hstubs : elementsAmong (List.replicate e.minOccurs (.element (stub e))) =
      List.replicate e.minOccurs (stub e) := List.filterMap_replicate_of_some rfl
  rw [elementsAmong_append]
  split
  · exact hstubs
  · exact hstubs

theorem buildElement_eq_ok {e : Element} {type : ResolvedType}
    (hresolve : setup.schema.resolveType e = .ok type) {parentPath : String} {scope : Nat}
    {force : Bool} {inside : ResolvedType → String → Option ElementRule → Inside}
    {cs : List NodeChild}
    (h : (buildElement setup e parentPath scope force inside).exec s = (.ok cs, s')) :
    let path := joinPath parentPath e.name
    let rule := setup.plan.rule? e.name path
    let count := occurrenceCount setup e path rule force
    (∃ identity, refused? setup s type = some identity ∧
        (cutOff setup e path identity).exec s = (.ok cs, s')) ∨
      refused? setup s type = none ∧
        ((count = 0 ∧ cs = [] ∧ s.Quiet s') ∨
          (buildEach setup e count (buildOccurrence setup e type path rule e.decl.uri scope
            (inside type path rule)) count).exec s = (.ok cs, s')) := by
  unfold buildElement at h
  simp only [hresolve, ofSchema, pure_bind] at h
  rw [exec_get_bind] at h
  dsimp only
  split at h
  · rename_i identity hrefused
    exact .inl ⟨identity, hrefused, h⟩
  · rename_i hrefused
    refine .inr ⟨hrefused, ?_⟩
    split at h
    · rename_i hcount
      split at h
      · obtain ⟨_, t, hrecord, h⟩ := exec_bind_eq_ok.1 h
        obtain ⟨rfl, rfl⟩ := exec_pure_eq_ok.1 h
        exact .inl ⟨hcount, rfl, record_quiet .omitted hrecord⟩
      · obtain ⟨rfl, rfl⟩ := exec_pure_eq_ok.1 h
        exact .inl ⟨hcount, rfl, .refl s⟩
    · exact .inr h

/-! ## Members of groups -/

theorem repeatStep_succ_eq_ok {body : Run (List NodeChild)} {count : Nat} {cs : List NodeChild}
    (h : (repeatStep body (count + 1)).exec s = (.ok cs, s')) :
    ∃ own t, body.exec s = (.ok own, t) ∧
      ((t.halted = true ∧ cs = own ∧ s' = t) ∨
        t.halted = false ∧
          ∃ more, (repeatStep body count).exec t = (.ok more, s') ∧ cs = own ++ more) := by
  obtain ⟨own, t, hown, h⟩ := exec_bind_eq_ok.1 h
  exact ⟨own, t, hown, unlessHalted_eq_ok h⟩

theorem walkAll_cons_eq_ok {enter : Enter} {path : String} {scope : Nat}
    {rule : Option ElementRule} {p : Particle} {rest : List Particle} {cs : List NodeChild}
    (h : (walkAll setup enter path scope rule (p :: rest)).exec s = (.ok cs, s')) :
    ∃ own t, (walkParticle setup enter path scope rule false p).exec s = (.ok own, t) ∧
      ((t.halted = true ∧ cs = own ∧ s' = t) ∨
        t.halted = false ∧ ∃ more, (walkAll setup enter path scope rule rest).exec t = (.ok more, s') ∧
          cs = own ++ more) := by
  unfold walkAll at h
  obtain ⟨own, t, hown, h⟩ := exec_bind_eq_ok.1 h
  exact ⟨own, t, hown, unlessHalted_eq_ok h⟩

theorem walkNth_eq (enter : Enter) (path : String) (scope : Nat) (rule : Option ElementRule)
    (position : Nat) (members : List Particle) :
    walkNth setup enter path scope rule position members =
      match members[position]? with
      | some p => walkParticle setup enter path scope rule true p
      | none => pure [] := by
  induction members generalizing position with
  | nil => rfl
  | cons p rest ih =>
      cases position with
      | zero => rfl
      | succ position => exact ih position

theorem walkGroup_of_choice (enter : Enter) (path : String) (scope : Nat)
    (rule : Option ElementRule) (force : Bool) {decl : GroupDecl} (members : List Particle)
    (hkind : decl.kind = .choice) :
    walkGroup setup enter path scope rule force (.mk decl members) =
      repeatStep (chooseBranch setup path rule members >>= fun chosen =>
          match chosen with
          | some position => walkNth setup enter path scope rule position members
          | none => pure [])
        (groupCount setup (.mk decl members) path force) := by
  unfold walkGroup
  cases h : decl.kind with
  | choice => rfl
  | sequence | all =>
      rw [h] at hkind
      cases hkind

theorem walkGroup_of_ne_choice (enter : Enter) (path : String) (scope : Nat)
    (rule : Option ElementRule) (force : Bool) {decl : GroupDecl} (members : List Particle)
    (hkind : decl.kind ≠ .choice) :
    walkGroup setup enter path scope rule force (.mk decl members) =
      repeatStep (walkAll setup enter path scope rule members)
        (groupCount setup (.mk decl members) path force) := by
  unfold walkGroup
  cases h : decl.kind with
  | choice => exact absurd h hkind
  | sequence | all => rfl

theorem chooseFreely_eq_ok {path : String} {branches : List Branch} (hbranches : branches ≠ [])
    {chosen : Option Nat} (h : (chooseFreely setup path branches).exec s = (.ok chosen, s')) :
    ∃ b ∈ branches, chosen = some b.2 := by
  unfold chooseFreely at h
  split at h
  · rename_i b hb
    obtain ⟨rfl, -⟩ := exec_pure_eq_ok.1 h
    refine ⟨b, ?_, rfl⟩
    unfold plainBranch? at hb
    dsimp only at hb
    split at hb
    · rename_i b' hkept
      cases hb
      split at hkept
      · cases hkept
      · exact List.mem_of_find?_eq_some hkept
    · exact List.mem_of_find?_eq_some hb
  · obtain ⟨index, t, hdraw, h⟩ := exec_bind_eq_ok.1 h
    obtain ⟨_, u, -, h⟩ := exec_bind_eq_ok.1 h
    obtain ⟨rfl, -⟩ := exec_pure_eq_ok.1 h
    have hindex : index < branches.length := by
      cases hdraw
      exact Random.Draw.index_lt (List.length_pos_iff.2 hbranches) s.rng
    refine ⟨branches[index], List.getElem_mem hindex, ?_⟩
    rw [List.getElem?_eq_getElem hindex]
    rfl

theorem getElem?_of_mem_eligible {members : List Particle} {b : Branch}
    (hb : b ∈ eligible setup s members) : members[b.2]? = some b.1 :=
  List.mk_mem_zipIdx_iff_getElem?.1 (List.mem_filter.1 hb).1

/-- When no member of a choice is left, the first one was nested too deeply. -/
theorem exists_cutType?_of_eligible_eq_nil {p : Particle} {rest : List Particle}
    (h : eligible setup s (p :: rest) = []) : ∃ type, cutType? setup s p = some type := by
  have hfirst := (List.filter_eq_nil_iff.1 h) (p, 0) (by simp)
  exact Option.ne_none_iff_exists'.1 (by simpa using hfirst)

/-- A choice takes one of its members, unless it has none or they were all nested too deeply. -/
theorem chooseBranch_eq_ok {path : String} {rule : Option ElementRule} {members : List Particle}
    {chosen : Option Nat} (h : (chooseBranch setup path rule members).exec s = (.ok chosen, s')) :
    (chosen = none ∧ (members = [] ∨ Refused s')) ∨
      ∃ position p, chosen = some position ∧ members[position]? = some p := by
  unfold chooseBranch at h
  rw [exec_get_bind] at h
  obtain ⟨⟨⟩, t, hfollow, h⟩ := exec_bind_eq_ok.1 h
  dsimp only at h
  split at h
  · rename_i hempty
    obtain ⟨rfl, rfl⟩ := exec_pure_eq_ok.1 h
    refine .inl ⟨rfl, ?_⟩
    cases members with
    | nil => exact .inl rfl
    | cons p rest =>
        obtain ⟨type, htype⟩ := exists_cutType?_of_eligible_eq_nil (List.isEmpty_iff.1 hempty)
        refine .inr ⟨.passedOver path type, ?_, rfl⟩
        have htrace : t.trace = s.trace ++
            ((p :: rest).filterMap (cutType? setup s)).map (TraceEvent.passedOver path) :=
          (congrArg (·.2.trace) hfollow).symm
        rw [htrace, List.filterMap_cons_some htype, List.map_cons, ← Array.mem_toList_iff,
          Array.toList_appendList]
        exact List.mem_append_right _ List.mem_cons_self
  · rename_i hne
    have hbranches : eligible setup s members ≠ [] := by simpa using hne
    have hfree : ∀ {t : RunState}, (chooseFreely setup path (eligible setup s members)).exec t =
        (.ok chosen, s') → ∃ position p, chosen = some position ∧ members[position]? = some p := by
      intro t hrun
      obtain ⟨b, hb, rfl⟩ := chooseFreely_eq_ok hbranches hrun
      exact ⟨b.2, b.1, rfl, getElem?_of_mem_eligible hb⟩
    refine .inr ?_
    split at h
    · exact hfree h
    · split at h
      · rename_i b hb
        obtain ⟨_, u, -, h⟩ := exec_bind_eq_ok.1 h
        obtain ⟨rfl, -⟩ := exec_pure_eq_ok.1 h
        exact ⟨b.2, b.1, rfl, getElem?_of_mem_eligible (List.mem_of_find?_eq_some hb)⟩
      · obtain ⟨_, u, -, h⟩ := exec_bind_eq_ok.1 h
        exact hfree h

end Walk
end Specimen
