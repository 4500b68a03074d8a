import Specimen.Document.Node
import Specimen.Proofs.Run.Action
import Specimen.Proofs.Run.Settings
import Specimen.Proofs.Walk.Inversion
import Specimen.Proofs.Walk.Limits

/-!
# Runs with comments and without them

The comments of a document stand among the children of its elements.  Without them, the elements are still there,
with their attributes, their texts and their marks, and in the same order.

Whether comments are written is asked where they are written and nowhere else, and no part of the walk looks at
what other parts have built.  So each part of a walk that writes no comments is the same part of the walk that
writes them, with the comments taken out of its result: both run through the same states and fail in the same way.
Before the walk, everything is checked with the same outcome, so comments are all that changes.
-/

namespace Specimen

/-! ## Documents without comments -/

mutual

/-- An element without the comments in it. -/
def Node.withoutComments : Node → Node
  | .mk h children => .mk h (withoutCommentsAmong children)

/-- Children without the comments among them and below. -/
def withoutCommentsAmong : List NodeChild → List NodeChild
  | [] => []
  | .comment _ :: rest => withoutCommentsAmong rest
  | .element n :: rest => .element n.withoutComments :: withoutCommentsAmong rest

end

theorem Node.withoutComments_mk (h : NodeHead) (children : List NodeChild) :
    (Node.mk h children).withoutComments = .mk h (withoutCommentsAmong children) := by
  rw [Node.withoutComments]

theorem Node.withoutComments_leaf (h : NodeHead) : (Node.mk h []).withoutComments = .mk h [] := by
  rw [Node.withoutComments_mk, withoutCommentsAmong]

theorem Node.withoutComments_truncate (n : Node) : n.truncate.withoutComments = n.withoutComments.truncate := by
  cases n with
  | mk h children =>
      rw [Node.withoutComments_mk]
      exact Node.withoutComments_mk _ children

@[simp] theorem withoutCommentsAmong_nil : withoutCommentsAmong [] = [] := by
  rw [withoutCommentsAmong]

@[simp] theorem withoutCommentsAmong_comment (text : String) : withoutCommentsAmong [.comment text] = [] := by
  rw [withoutCommentsAmong, withoutCommentsAmong]

@[simp] theorem withoutCommentsAmong_append (cs ds : List NodeChild) :
    withoutCommentsAmong (cs ++ ds) = withoutCommentsAmong cs ++ withoutCommentsAmong ds := by
  induction cs with
  | nil => rw [withoutCommentsAmong, List.nil_append, List.nil_append]
  | cons c rest ih =>
      cases c with
      | comment text => rw [List.cons_append, withoutCommentsAmong, withoutCommentsAmong, ih]
      | element n => rw [List.cons_append, withoutCommentsAmong, withoutCommentsAmong, ih, List.cons_append]

/-- An element that may not have been built. -/
theorem withoutCommentsAmong_toList (built : Option Node) :
    withoutCommentsAmong (built.map NodeChild.element).toList =
      ((built.map Node.withoutComments).map NodeChild.element).toList := by
  cases built with
  | none => rfl
  | some n =>
      change withoutCommentsAmong [.element n] = [.element n.withoutComments]
      rw [withoutCommentsAmong, withoutCommentsAmong]

theorem withoutCommentsAmong_replicate (count : Nat) (h : NodeHead) :
    withoutCommentsAmong (List.replicate count (.element (.mk h []))) =
      List.replicate count (.element (.mk h [])) := by
  induction count with
  | zero => rw [List.replicate_zero, withoutCommentsAmong]
  | succ count ih => rw [List.replicate_succ, withoutCommentsAmong, Node.withoutComments_leaf, ih]

/-! ## The walk without comments -/

open Run

namespace Run

variable {α β : Type}

theorem exec_map (f : α → β) (m : Run α) (s : RunState) :
    (f <$> m).exec s = ((m.exec s).1.map f, (m.exec s).2) := by
  rw [map_eq_pure_bind, exec_bind]
  rcases m.exec s with ⟨e | a, s'⟩
  · rfl
  · rfl

theorem map_andFinally (f : α → β) (body : Run α) (change : RunState → RunState) :
    f <$> andFinally body change = andFinally (f <$> body) change := by
  funext s
  change (f <$> andFinally body change).exec s = (andFinally (f <$> body) change).exec s
  rw [exec_map]
  change (Except.map f (body.exec s).1, change (body.exec s).2) =
    (((f <$> body).exec s).1, change ((f <$> body).exec s).2)
  rw [exec_map]

end Run

namespace Walk

variable (setup : Setup)

/-- A setup in which no comments are written. -/
abbrev silent : Setup := setup.withComments false

/-! ## What does not depend on comments -/

theorem silent_eq_vary : silent setup = setup.vary { setup.variation with comments := false } := rfl

theorem schema_silent : (silent setup).schema = setup.schema := rfl

theorem rule?_silent (name path : String) : (silent setup).plan.rule? name path = setup.plan.rule? name path := rfl

theorem step_silent (path : String) : step (silent setup) path = step setup path := rfl

theorem refused?_silent (s : RunState) (type : ResolvedType) :
    refused? (silent setup) s type = refused? setup s type := rfl

theorem buildAttributes_silent (owner : String) (scope : Nat) (attributes : List AttributeDecl) :
    buildAttributes (silent setup) owner scope attributes = buildAttributes setup owner scope attributes :=
  buildAttributes_vary setup { setup.variation with comments := false } (fun _ _ => rfl) (fun _ => rfl) owner scope
    fun _ _ => rfl

theorem leafText_silent (e : Element) (path : String) (facets : Facets) (scope : Nat) :
    leafText (silent setup) e path facets scope = leafText setup e path facets scope :=
  leafText_vary setup { setup.variation with comments := false } (fun _ _ => rfl) rfl facets scope

theorem occurrenceCount_silent (e : Element) (path : String) (rule : Option ElementRule) (force : Bool) :
    occurrenceCount (silent setup) e path rule force = occurrenceCount setup e path rule force :=
  occurrenceCount_vary setup { setup.variation with comments := false } rfl rule force

theorem groupCount_silent (g : Group) (path : String) (force : Bool) :
    groupCount (silent setup) g path force = groupCount setup g path force :=
  groupCount_vary setup { setup.variation with comments := false } g (fun _ _ => rfl) force

theorem chooseBranch_silent (path : String) (rule : Option ElementRule) (members : List Particle) :
    chooseBranch (silent setup) path rule members = chooseBranch setup path rule members := by
  unfold chooseBranch
  simp only [silent_eq_vary, chooseFreely_vary]
  rfl

/-! ## Occurrences -/

variable {setup}

theorem map_within {α β : Type} (f : α → β) (type : Option String) (inside : Run α) :
    f <$> within type inside = within type (f <$> inside) := by
  cases type with
  | none => rfl
  | some identity =>
      unfold within
      dsimp only
      rw [map_bind]
      simp only [map_andFinally]

theorem buildContent_silent (e : Element) (type : ResolvedType) (path : String) (head : NodeHead)
    (parentScope : Nat) (inside : Run (List NodeChild)) :
    Node.withoutComments <$> buildContent setup e type path head parentScope inside =
      buildContent (silent setup) e type path head parentScope (withoutCommentsAmong <$> inside) := by
  unfold buildContent
  cases type.content with
  | builtin p => simp only [map_bind, map_pure, Node.withoutComments_leaf, leafText_silent]
  | simple f => simp only [map_bind, map_pure, Node.withoutComments_leaf, leafText_silent]
  | complex g => simp only [map_bind, map_pure, Node.withoutComments_mk, ← map_within, bind_map_left]
  | empty => rw [map_pure, Node.withoutComments_leaf]

theorem buildOccurrence_silent (e : Element) (type : ResolvedType) (path : String) (rule : Option ElementRule)
    (uri : Option String) (parentScope : Nat) (inside : Inside) :
    Option.map Node.withoutComments <$> buildOccurrence setup e type path rule uri parentScope inside =
      buildOccurrence (silent setup) e type path rule uri parentScope
        fun scope => withoutCommentsAmong <$> inside scope := by
  unfold buildOccurrence
  rw [step_silent, map_bind]
  refine bind_congr fun goesOn => ?_
  split
  · rfl
  · simp only [map_bind, buildAttributes_silent, ← buildContent_silent, bind_map_left]
    refine bind_congr fun scope => bind_congr fun _ => bind_congr fun attributes => bind_congr fun nil => ?_
    split
    · rw [map_pure, Option.map_some, Node.withoutComments_leaf]
    · simp only [map_bind, map_pure, Option.map_some]
      refine bind_congr fun node => bind_congr fun halted => ?_
      cases halted with
      | true => exact congrArg (pure ∘ some) node.withoutComments_truncate
      | false => rfl

/-! ## Occurrences of an element -/

theorem withoutComments_occurrenceComment (e : Element) (number count : Nat) :
    withoutCommentsAmong (occurrenceComment setup e number count) = [] := by
  unfold occurrenceComment
  split
  · exact withoutCommentsAmong_comment _
  · exact withoutCommentsAmong_nil

theorem occurrenceComment_silent (e : Element) (number count : Nat) :
    occurrenceComment (silent setup) e number count = [] := rfl

theorem buildEach_silent (e : Element) (count : Nat) (occurrence : Run (Option Node)) (left : Nat) :
    withoutCommentsAmong <$> buildEach setup e count occurrence left =
      buildEach (silent setup) e count (Option.map Node.withoutComments <$> occurrence) left := by
  induction left with
  | zero => rw [buildEach, buildEach, map_pure, withoutCommentsAmong_nil]
  | succ left ih =>
      have hown : ∀ built : Option Node, withoutCommentsAmong
          (occurrenceComment setup e (count - left) count ++ (built.map NodeChild.element).toList) =
            ((built.map Node.withoutComments).map NodeChild.element).toList := by
        intro built
        rw [withoutCommentsAmong_append, withoutComments_occurrenceComment, withoutCommentsAmong_toList,
          List.nil_append]
      unfold buildEach
      simp only [map_bind, bind_map_left, occurrenceComment_silent, List.nil_append, ← ih]
      refine bind_congr fun built => bind_congr fun halted => ?_
      split
      · rw [map_pure, hown]
      · simp only [map_bind, map_pure, withoutCommentsAmong_append (_ ++ _), hown]

theorem cutOff_silent (e : Element) (path identity : String) :
    withoutCommentsAmong <$> cutOff setup e path identity = cutOff (silent setup) e path identity := by
  unfold cutOff
  simp only [map_bind, map_pure, withoutCommentsAmong_append, withoutCommentsAmong_replicate]
  refine bind_congr fun s => bind_congr fun _ => bind_congr fun _ => congrArg (pure <| · ++ _) ?_
  change _ = []
  split
  · exact withoutCommentsAmong_comment _
  · exact withoutCommentsAmong_nil

theorem buildElement_silent (e : Element) (parentPath : String) (scope : Nat) (force : Bool)
    (inside : ResolvedType → String → Option ElementRule → Inside) :
    withoutCommentsAmong <$> buildElement setup e parentPath scope force inside =
      buildElement (silent setup) e parentPath scope force fun type path rule scope =>
        withoutCommentsAmong <$> inside type path rule scope := by
  unfold buildElement
  simp only [map_bind, schema_silent, rule?_silent, refused?_silent, occurrenceCount_silent]
  refine bind_congr fun type => bind_congr fun s => ?_
  split
  · exact cutOff_silent e _ _
  · split
    · split
      · rw [map_bind, map_pure, withoutCommentsAmong_nil]
      · rw [map_pure, withoutCommentsAmong_nil]
    · rw [buildEach_silent, buildOccurrence_silent]

/-! ## Members of groups -/

theorem repeatStep_silent (body : Run (List NodeChild)) (count : Nat) :
    withoutCommentsAmong <$> repeatStep body count = repeatStep (withoutCommentsAmong <$> body) count := by
  induction count with
  | zero => rw [repeatStep, repeatStep, map_pure, withoutCommentsAmong_nil]
  | succ count ih =>
      unfold repeatStep
      simp only [map_bind, bind_map_left, ← ih]
      refine bind_congr fun own => bind_congr fun halted => ?_
      split
      · rw [map_pure]
      · simp only [map_bind, map_pure, withoutCommentsAmong_append]

/-- A way of entering named types, without comments. -/
def plainly (enter : Enter) : Enter := fun path scope rule g => withoutCommentsAmong <$> enter path scope rule g

section Members

variable {enter : Enter} {path : String} {scope : Nat} {rule : Option ElementRule} {members : List Particle}

/-- A member without comments is the same member of the walk that writes none. -/
abbrev MemberSilent (setup : Setup) (enter : Enter) (p : Particle) : Prop :=
  ∀ path scope rule force, withoutCommentsAmong <$> walkParticle setup enter path scope rule force p =
    walkParticle (silent setup) (plainly enter) path scope rule force p

theorem walkAll_silent (h : ∀ p ∈ members, MemberSilent setup enter p) :
    withoutCommentsAmong <$> walkAll setup enter path scope rule members =
      walkAll (silent setup) (plainly enter) path scope rule members := by
  induction members with
  | nil => rw [walkAll, walkAll, map_pure, withoutCommentsAmong_nil]
  | cons p rest ih =>
      obtain ⟨hfirst, hrest⟩ := List.forall_mem_cons.1 h
      unfold walkAll
      simp only [map_bind, bind_map_left, ← hfirst path scope rule false, ← ih hrest]
      refine bind_congr fun own => bind_congr fun halted => ?_
      split
      · rw [map_pure]
      · simp only [map_bind, map_pure, withoutCommentsAmong_append]

theorem walkNth_silent (h : ∀ p ∈ members, MemberSilent setup enter p) (position : Nat) :
    withoutCommentsAmong <$> walkNth setup enter path scope rule position members =
      walkNth (silent setup) (plainly enter) path scope rule position members := by
  rw [walkNth_eq, walkNth_eq]
  cases hp : members[position]? with
  | none => rw [map_pure, withoutCommentsAmong_nil]
  | some p => exact h p (List.mem_of_getElem? hp) path scope rule true

theorem walkGroup_silent_of_members (decl : GroupDecl) (h : ∀ p ∈ members, MemberSilent setup enter p)
    (force : Bool) :
    withoutCommentsAmong <$> walkGroup setup enter path scope rule force (.mk decl members) =
      walkGroup (silent setup) (plainly enter) path scope rule force (.mk decl members) := by
  by_cases hkind : decl.kind = .choice
  · rw [walkGroup_of_choice _ _ _ _ _ _ hkind, walkGroup_of_choice _ _ _ _ _ _ hkind, repeatStep_silent,
      groupCount_silent, chooseBranch_silent, map_bind]
    refine congrArg (repeatStep · _) (bind_congr fun chosen => ?_)
    cases chosen with
    | none => rw [map_pure, withoutCommentsAmong_nil]
    | some position => exact walkNth_silent h position
  · rw [walkGroup_of_ne_choice _ _ _ _ _ _ hkind, walkGroup_of_ne_choice _ _ _ _ _ _ hkind, repeatStep_silent,
      groupCount_silent, walkAll_silent h]

theorem insideNamed_silent (type : ResolvedType) (path : String) (rule : Option ElementRule) (scope : Nat) :
    withoutCommentsAmong <$> insideNamed enter type path rule scope =
      insideNamed (plainly enter) type path rule scope := by
  unfold insideNamed
  split
  · rfl
  · rw [map_pure, withoutCommentsAmong_nil]

/-- Without comments, elements, groups and members are those of the walk that writes none. -/
theorem members_silent (setup : Setup) (enter : Enter) :
    (∀ e path scope force, withoutCommentsAmong <$> walkElement setup enter path scope force e =
      walkElement (silent setup) (plainly enter) path scope force e) ∧
    (∀ g path scope rule force, withoutCommentsAmong <$> walkGroup setup enter path scope rule force g =
      walkGroup (silent setup) (plainly enter) path scope rule force g) ∧
    ∀ p, MemberSilent setup enter p := by
  apply tree_induction
  · intro decl path scope force
    unfold walkElement
    rw [buildElement_silent]
    simp only [insideNamed_silent]
  · intro decl g ih path scope force
    unfold walkElement
    rw [buildElement_silent]
    simp only [ih]
  · intro decl members ih path scope rule force
    exact walkGroup_silent_of_members decl ih force
  · intro e ih path scope rule force
    unfold walkParticle
    exact ih path scope force
  · intro g ih path scope rule force
    unfold walkParticle
    exact ih path scope rule force

end Members

/-! ## Documents -/

theorem enterWithin_silent (budget : Nat) :
    plainly (enterWithin setup budget) = enterWithin (silent setup) budget := by
  induction budget with
  | zero =>
      funext path scope rule g
      exact (map_pure _ _).trans (congrArg pure withoutCommentsAmong_nil)
  | succ budget ih =>
      funext path scope rule g
      unfold plainly enterWithin
      rw [(members_silent setup (enterWithin setup budget)).2.1, ih]

theorem insideOf_silent (e : Element) (type : ResolvedType) (path : String) (rule : Option ElementRule)
    (scope : Nat) : withoutCommentsAmong <$> insideOf setup e type path rule scope =
      insideOf (silent setup) e type path rule scope := by
  have henter : plainly (enter setup) = enter (silent setup) := enterWithin_silent _
  unfold insideOf
  cases e.content with
  | none =>
      dsimp only
      rw [insideNamed_silent, henter]
  | some g =>
      dsimp only
      rw [(members_silent setup (enter setup)).2.1, henter]

theorem buildIn_silent (e : Element) (parentPath : String) (uri : Option String) (scope : Nat) :
    Option.map Node.withoutComments <$> buildIn setup e parentPath uri scope =
      buildIn (silent setup) e parentPath uri scope := by
  unfold buildIn
  simp only [map_bind, schema_silent, rule?_silent, refused?_silent]
  refine bind_congr fun type => bind_congr fun s => ?_
  split
  · simp only [map_bind, map_pure, Option.map_none]
  · rw [buildOccurrence_silent]
    simp only [insideOf_silent]

/-- Without its comments, a document is the one that is built when no comments are written. -/
theorem buildDocument_silent (root : Element) :
    Node.withoutComments <$> buildDocument setup root = buildDocument (silent setup) root := by
  unfold buildDocument
  simp only [map_bind, schema_silent, ← buildIn_silent, bind_map_left]
  refine bind_congr fun scope => bind_congr fun built => ?_
  cases built with
  | none => exact (map_pure _ _).trans (congrArg pure (Node.withoutComments_leaf _))
  | some node => exact map_pure _ _

end Walk

/-! ## Runs -/

/-- A configuration with comments or without them. -/
def Config.withComments (config : Config) (comments : Bool) : Config :=
  { config with settings := { config.settings with includeComments := comments } }

theorem Config.unseen_withComments (config : Config) (comments : Bool) :
    config.Unseen (fun s => { s with includeComments := comments })
      fun s => { s with includeComments := comments } := by
  constructor
  · unfold compileSettings
    dsimp only
  · exact fun _ => rfl

/-- What a run gives without the comments: the document without them, and the report. -/
def Generated.uncommented (made : Generated) : Node × Report := (made.document.withoutComments, made.report)

namespace Generation

variable {schema : Schema} {config : Config} {options : Options} {freshSeed : UInt64}

/-- What is settled before the walk does not depend on whether comments are written. -/
theorem prepare_withComments (comments : Bool) : prepare schema (config.withComments comments) options =
    (prepare schema config options).map fun p => (p.1.withComments comments, p.2) := by
  have hunseen := (override config options).unseen_withComments comments
  have hoverride : override (config.withComments comments) options =
      (override config options).withComments comments := rfl
  have hprepare := @prepare_mapSettings config _ _ schema options id hunseen hoverride rfl
  exact hprepare.trans (congrArg (Except.map · _) (funext fun _ => rfl))

/-- Without comments, a run gives what it gives with them, but for the comments. -/
theorem run_withoutComments : (run schema (config.withComments false) options freshSeed).map Generated.result =
    (run schema config options freshSeed).map Generated.uncommented := by
  refine run_map Walk.silent Node.withoutComments (prepare_withComments false) fun setup root _ => ?_
  rw [← Walk.buildDocument_silent, Run.exec_map]
  rfl

/-- Comments make no difference to a run: with them and without them, it fails in the same way or succeeds with the
same report, and the documents are the same once the comments are taken out.  Without them there are none. -/
theorem comments_make_no_difference (schema : Schema) (config : Config) (options : Options) (freshSeed : UInt64) :
    (run schema (config.withComments true) options freshSeed).map Generated.uncommented =
        (run schema (config.withComments false) options freshSeed).map Generated.uncommented ∧
      ∀ made, run schema (config.withComments false) options freshSeed = .ok made →
        made.document.withoutComments = made.document := by
  have hcommented := @run_withoutComments schema (config.withComments true) options freshSeed
  have hbare := @run_withoutComments schema (config.withComments false) options freshSeed
  have hresult : (run schema (config.withComments false) options freshSeed).map Generated.result =
      (run schema (config.withComments false) options freshSeed).map Generated.uncommented := hbare
  refine ⟨hcommented.symm.trans hbare, fun made hmade => ?_⟩
  rw [hmade] at hresult
  exact (Prod.mk.inj (Except.ok.inj hresult)).1.symm

-- with them there is one before each occurrence of an element that can be repeated
example : (run { version := "1", elements := [.mk { name := "Trip" } (some (.mk { kind := .sequence } [
      .element (.mk { name := "City", typeRef := some "xs:string", fixed := some "x", maxOccurs := .unbounded }
        none)]))] } (Config.withComments {} true) {} 0).toOption.map (·.document.comments) =
    some ["City: occurrence 1 of 2 (minOccurs=1, maxOccurs=unbounded)",
      "City: occurrence 2 of 2 (minOccurs=1, maxOccurs=unbounded)"] := by
  decide +kernel

end Generation

end Specimen
