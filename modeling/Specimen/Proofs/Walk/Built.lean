import Specimen.Proofs.Walk.Account
import Specimen.Proofs.Walk.Guard

/-!
# How a document was built

`Built` says how the walk comes from what it was asked for to the elements that it builds, and to their account.
There is one rule for each thing that the walk can do: an element is cut off or occurs as often as the plan says,
a choice takes a member that the guard admits, and a row ends early where the steps run out.

The induction over the walk is done here, once.  It needs no fact about values, so nothing is said of them.
-/

open Relation (ReflTransGen)

namespace Specimen

open Run

namespace Walk

/-! ## What the walk is asked for -/

/-- What the walk can be asked for below a path. -/
inductive Task where
  /-- All occurrences of an element; the branch that a choice has taken is forced. -/
  | element (force : Bool) (e : Element)
  | occurrence (e : Element)
  | group (force : Bool) (g : Group)
  | repetition (g : Group)
  /-- One task after the other. -/
  | row (tasks : List Task)

/-- What a member of a group asks for. -/
def Task.ofParticle (force : Bool) : Particle → Task
  | .element e => .element force e
  | .group g => .group force g

/-- Below a path and while certain types are open, a task has led to elements, and they have an account. -/
inductive Built (setup : Setup) :
    (path : String) → (stack : List String) → Task → List Node → Account → Prop where
  /-- The steps run out where the occurrence would begin. -/
  | missing {path : String} {stack : List String} {e : Element} :
      Built setup path stack (.occurrence e) [] { stop := some (joinPath path e.name) }
  /-- The element is nil, or its type has no members. -/
  | flat {path : String} {stack : List String} {e : Element} {type : ResolvedType} {n : Node} {s : RunState}
      (htype : setup.schema.resolveType e = .ok type) (hopen : s.openTypes = stack)
      (hadmitted : refused? setup s type = none) (hname : n.name = e.name)
      (hflat : n.head.nil = true ∨ ∀ g, type.content ≠ .complex g) (hchildren : n.children = [])
      (hmark : n.head.truncated = false)
      (hattributes : AreKept setup (joinPath path e.name) type.attributes n.head.attributes) :
      Built setup path stack (.occurrence e) [n] { elements := 1 }
  /-- The element is marked if the steps run out inside it. -/
  | nested {path : String} {stack : List String} {e : Element} {type : ResolvedType} {g : Group} {n : Node}
      {a : Account} {s : RunState} (htype : setup.schema.resolveType e = .ok type)
      (hopen : s.openTypes = stack) (hadmitted : refused? setup s type = none) (hname : n.name = e.name)
      (hnil : n.head.nil = false) (hcontent : type.content = .complex g)
      (hinside : Built setup (joinPath path e.name) (type.identity.toList ++ stack) (.group false g)
        (elementsAmong n.children) a)
      (hmark : n.head.truncated = a.stop.isSome)
      (hattributes : AreKept setup (joinPath path e.name) type.attributes n.head.attributes) :
      Built setup path stack (.occurrence e) [n] a.begin
  /-- The guard refuses the type of the element. -/
  | cut {path : String} {stack : List String} {force : Bool} {e : Element} {type : ResolvedType}
      {identity : String} {s : RunState} (htype : setup.schema.resolveType e = .ok type)
      (hopen : s.openTypes = stack) (hrefused : refused? setup s type = some identity) :
      Built setup path stack (.element force e) (List.replicate e.minOccurs (stub e))
        { cuts := [cutNotice e (joinPath path e.name) identity (stack.count identity)] }
  | occurrences {path : String} {stack : List String} {force : Bool} {e : Element} {nodes : List Node}
      {a : Account}
      (hrow : Built setup path stack (.row (List.replicate
        (occurrenceCount setup e (joinPath path e.name)
          (setup.plan.rule? e.name (joinPath path e.name)) force) (.occurrence e))) nodes a) :
      Built setup path stack (.element force e) nodes a
  | repetitions {path : String} {stack : List String} {force : Bool} {g : Group} {nodes : List Node}
      {a : Account}
      (hrow : Built setup path stack
        (.row (List.replicate (groupCount setup g path force) (.repetition g))) nodes a) :
      Built setup path stack (.group force g) nodes a
  | all {path : String} {stack : List String} {g : Group} {nodes : List Node} {a : Account}
      (hkind : g.kind ≠ .choice)
      (hrow : Built setup path stack (.row (g.members.map (.ofParticle false))) nodes a) :
      Built setup path stack (.repetition g) nodes a
  | branch {path : String} {stack : List String} {g : Group} {p : Particle} {nodes : List Node}
      {a : Account} {s : RunState} (hkind : g.kind = .choice) (hmember : p ∈ g.members)
      (hopen : s.openTypes = stack) (hadmitted : cutType? setup s p = none)
      (hbranch : Built setup path stack (.ofParticle true p) nodes a) :
      Built setup path stack (.repetition g) nodes a
  | empty {path : String} {stack : List String} {g : Group} (hkind : g.kind = .choice)
      (hmembers : g.members = []) : Built setup path stack (.repetition g) [] {}
  /-- The guard refuses every member of the choice. -/
  | bare {path : String} {stack : List String} {g : Group} {s : RunState} (hkind : g.kind = .choice)
      (hmembers : g.members ≠ []) (hopen : s.openTypes = stack)
      (hcut : ∀ p ∈ g.members, (cutType? setup s p).isSome) :
      Built setup path stack (.repetition g) [] { bare := [path] }
  | done {path : String} {stack : List String} : Built setup path stack (.row []) [] {}
  | last {path : String} {stack : List String} {task : Task} {rest : List Task} {nodes : List Node}
      {a : Account} (hfirst : Built setup path stack task nodes a) (hstop : a.stop.isSome) :
      Built setup path stack (.row (task :: rest)) nodes a
  | next {path : String} {stack : List String} {task : Task} {rest : List Task} {own more : List Node}
      {a b : Account} (hfirst : Built setup path stack task own a) (hgoing : a.stop = none)
      (hrest : Built setup path stack (.row rest) more b) :
      Built setup path stack (.row (task :: rest)) (own ++ more) (a ++ b)

variable {setup : Setup} {path : String} {stack : List String} {s s' t : RunState}

/-- On the way from one state to another, a task has led to elements that have the account of the report. -/
def Leads (setup : Setup) (path : String) (stack : List String) (task : Task) (s : RunState)
    (nodes : List Node) (s' : RunState) : Prop :=
  ∃ a, Built setup path stack task nodes a ∧ s.Accounted setup.options a s'

/-- Whenever an action goes on from where certain types are open, it does what a task asks for. -/
def Does (setup : Setup) (path : String) (stack : List String) (task : Task)
    (m : Run (List NodeChild)) : Prop :=
  ∀ s cs s', s.openTypes = stack → s.halted = false → m.exec s = (.ok cs, s') →
    Leads setup path stack task s (elementsAmong cs) s'

/-! ## Rows -/

theorem does_done : Does setup path stack (.row []) (pure []) := by
  intro s cs s' _ hgoing hrun
  obtain ⟨rfl, rfl⟩ := exec_pure_eq_ok.1 hrun
  exact ⟨{}, .done, .refl hgoing⟩

/-- What is done first is all when the walk is stopped, and else the rest of the row comes behind it. -/
theorem leads_row {task : Task} {tasks : List Task} {own cs : List NodeChild}
    {rest : Run (List NodeChild)} (hopen : s.openTypes = stack)
    (hfirst : Leads setup path stack task s (elementsAmong own) t)
    (hrest : Does setup path stack (.row tasks) rest)
    (hrun : (isHalted >>= fun halted =>
      if halted = true then pure own else rest >>= fun more => pure (own ++ more) : Run _).exec t =
        (.ok cs, s')) :
    Leads setup path stack (.row (task :: tasks)) s (elementsAmong cs) s' := by
  obtain ⟨a, hbuilt, haccount⟩ := hfirst
  rw [exec_isHalted_bind, haccount.halted] at hrun
  cases hstop : a.stop with
  | some stop =>
      rw [hstop] at hrun
      obtain ⟨rfl, rfl⟩ := exec_pure_eq_ok.1 hrun
      exact ⟨a, .last hbuilt (by rw [hstop]; rfl), haccount⟩
  | none =>
      rw [hstop] at hrun
      obtain ⟨more, u, hmore, hrun⟩ := exec_bind_eq_ok.1 hrun
      obtain ⟨rfl, rfl⟩ := exec_pure_eq_ok.1 hrun
      obtain ⟨b, hbuilt', haccount'⟩ :=
        hrest t more _ (haccount.openTypes.trans hopen) (haccount.going hstop) hmore
      rw [elementsAmong_append]
      exact ⟨a ++ b, .next hbuilt hstop hbuilt', haccount.append hstop haccount'⟩

theorem repeatStep_does {task : Task} {body : Run (List NodeChild)}
    (hbody : Does setup path stack task body) (count : Nat) :
    Does setup path stack (.row (List.replicate count task)) (repeatStep body count) := by
  induction count with
  | zero => exact does_done
  | succ count ih =>
      intro s cs s' hopen hgoing hrun
      unfold repeatStep at hrun
      obtain ⟨own, t, hown, hrun⟩ := exec_bind_eq_ok.1 hrun
      exact leads_row hopen (hbody s own t hopen hgoing hown) ih hrun

/-! ## Occurrences of an element -/

/-- The guard looks only at the types that are open. -/
theorem refused?_congr (h : t.openTypes = s.openTypes) (type : ResolvedType) :
    refused? setup t type = refused? setup s type := by
  unfold refused? wouldTruncate RunState.occurrences RunState.directRecursion
  rw [h]

/-- The state in which the walk is stopped, since no step is left for the occurrence at a path. -/
def stopState (path : String) (s : RunState) : RunState :=
  ({ countStep s with
    report := (countStep s).report.truncate (stopNotice path (s.report.steps + 1)) } : RunState).halt

theorem exec_step_of_stop (path : String) (hpartial : setup.options.allowPartial = true)
    (h : setup.options.isExceededBy (s.report.steps + 1) = true) :
    (step setup path).exec s = (.ok false, stopState path s) := by
  have htick : (tick setup.options >>= fun _ => pure true).exec s =
      (.error (.timeout (s.report.steps + 1)), countStep s) := by
    refine exec_bind_of_error ?_
    rw [exec_tick, h]
    rfl
  unfold step
  rw [exec_tryCatch, htick]
  dsimp only
  rw [hpartial]
  rfl

/-- An occurrence that returns was begun unless there was no step left, and then the walk is stopped. -/
theorem buildOccurrence_begun {e : Element} {type : ResolvedType} {rule : Option ElementRule}
    {uri : Option String} {parentScope : Nat} {inside : Inside} {built : Option Node}
    (h : (buildOccurrence setup e type path rule uri parentScope inside).exec s = (.ok built, s')) :
    (built = none ∧ setup.options.allowPartial = true ∧
        setup.options.isExceededBy (s.report.steps + 1) = true ∧ s' = stopState path s) ∨
      setup.options.isExceededBy (s.report.steps + 1) = false ∧ ∃ attributes t, (atText s).Steady t ∧
        AreKept setup path type.attributes attributes ∧
        ((t = s' ∧ built = some (.mk { name := e.name, uri, attributes, nil := true } [])) ∨
          ∃ node, (buildContent setup e type path { name := e.name, uri, attributes } parentScope
              (inside (s.scopes + 1))).exec t = (.ok node, s') ∧
            built = some (if s'.halted = true then node.truncate else node)) := by
  unfold buildOccurrence at h
  cases hexceeded : setup.options.isExceededBy (s.report.steps + 1) with
  | true =>
      cases hpartial : setup.options.allowPartial with
      | false =>
          have hstop := exec_step_of_exceeded path hexceeded
          rw [hpartial, if_neg Bool.false_ne_true] at hstop
          rw [exec_bind_of_error hstop] at h
          cases h
      | true =>
          rw [exec_bind_of_ok (exec_step_of_stop path hpartial hexceeded)] at h
          obtain ⟨rfl, rfl⟩ := exec_pure_eq_ok.1 h
          exact .inl ⟨rfl, rfl, rfl, rfl⟩
  | false =>
      rw [exec_bind_of_ok (exec_step_of_within path hexceeded)] at h
      simp only [Bool.not_true, Bool.false_eq_true, if_false] at h
      rw [exec_openScope_bind, exec_record_bind] at h
      change (_ >>= _ : Run _).exec (atText s) = _ at h
      obtain ⟨attributes, t, hattributes, h⟩ := exec_bind_eq_ok.1 h
      obtain ⟨nil, u, hnil, h⟩ := exec_bind_eq_ok.1 h
      have hsteady := ((buildAttributes_isSteady path _ _).steady hattributes).trans
        ((becomesNil_isSteady e path rule).steady hnil)
      refine .inr ⟨rfl, attributes, u, hsteady, buildAttributes_areKept hattributes, ?_⟩
      split at h
      · obtain ⟨rfl, rfl⟩ := exec_pure_eq_ok.1 h
        exact .inl ⟨rfl, rfl⟩
      · obtain ⟨node, v, hcontent, h⟩ := exec_bind_eq_ok.1 h
        rw [exec_isHalted_bind] at h
        obtain ⟨rfl, rfl⟩ := exec_pure_eq_ok.1 h
        exact .inr ⟨node, hcontent, rfl⟩

/-- An element that was begun has the account of its children and one element more. -/
theorem accounted_begin {a : Account} {u : RunState}
    (hwithin : setup.options.isExceededBy (s.report.steps + 1) = false) (hst : (atText s).Steady t)
    (htu : t.Accounted setup.options a u) : s.Accounted setup.options a.begin u := by
  have hbegun : (atText s).Accounted setup.options a u := .after hst htu
  constructor
  · exact hbegun.openTypes
  · exact hbegun.halted
  · exact hbegun.isPartial
  · rw [hbegun.elements]
    change s.report.elements + 1 + a.elements = s.report.elements + (a.elements + 1)
    omega
  · rw [hbegun.steps]
    change s.report.steps + 1 + a.elements + _ = s.report.steps + (a.elements + 1) + a.stop.toList.length
    omega
  · exact hbegun.truncations
  · intro _
    change setup.options.isExceededBy (s.report.steps + (a.elements + 1)) = false
    rw [← Nat.add_assoc, Nat.add_right_comm]
    rcases Nat.eq_zero_or_pos a.elements with hzero | hpos
    · rwa [hzero]
    · exact hbegun.taken hpos
  · intro hstop
    have hexceeded := hbegun.stopped hstop
    change setup.options.isExceededBy (s.report.steps + (a.elements + 1) + 1) = true
    rwa [← Nat.add_assoc, Nat.add_right_comm s.report.steps]

theorem accounted_stopState (path : String)
    (hexceeded : setup.options.isExceededBy (s.report.steps + 1) = true) :
    s.Accounted setup.options { stop := some path } (stopState path s) := by
  refine ⟨rfl, rfl, ?_, rfl, rfl, ?_, nofun, fun _ => hexceeded⟩
  · exact (Bool.or_true _).symm
  · change (s.report.truncations.push _).toList = s.report.truncations.toList ++ [] ++ [_]
    rw [Array.toList_push, List.append_nil]
    rfl

/-- All that is built inside an element does what the group in its type asks for. -/
abbrev InsideDoes (setup : Setup) (stack : List String)
    (inside : ResolvedType → String → Option ElementRule → Inside) (e : Element) : Prop :=
  ∀ type g, setup.schema.resolveType e = .ok type → setup.schema.TypePasses type →
    type.content = .complex g → (∀ id, type.identity = some id → StackFits setup (id :: stack)) →
      ∀ path rule scope, Does setup path (type.identity.toList ++ stack) (.group false g)
        (inside type path rule scope)

theorem within_leads {type : Option String} {inside : Run (List NodeChild)} {task : Task}
    (hinside : Does setup path (type.toList ++ stack) task inside) {cs : List NodeChild}
    (hopen : s.openTypes = stack) (hgoing : s.halted = false)
    (hrun : (within type inside).exec s = (.ok cs, s')) :
    ∃ a, Built setup path (type.toList ++ stack) task (elementsAmong cs) a ∧
      s.Accounted setup.options a s' := by
  cases type with
  | none => exact hinside s cs s' hopen hgoing hrun
  | some identity =>
      change ((inside.exec (s.pushType identity)).1, (inside.exec (s.pushType identity)).2.popType) =
        (.ok cs, s') at hrun
      rcases hbody : inside.exec (s.pushType identity) with ⟨r, t⟩
      rw [hbody] at hrun
      cases hrun
      have hpush : (s.pushType identity).openTypes = identity :: stack := congrArg (identity :: ·) hopen
      obtain ⟨a, hbuilt, haccount⟩ := hinside (s.pushType identity) cs t hpush hgoing hbody
      refine ⟨a, hbuilt, ?_, haccount.halted, haccount.isPartial, haccount.elements, haccount.steps,
        haccount.truncations, haccount.taken, haccount.stopped⟩
      change t.openTypes.tail = s.openTypes
      rw [haccount.openTypes]
      rfl

/-- What is in an element that is not nil, and how it was built. -/
theorem buildContent_leads {e : Element} {type : ResolvedType}
    (hresolve : setup.schema.resolveType e = .ok type) {uri : Option String} {attributes : List Attribute}
    {parentPath : String} {parentScope : Nat} {inside : Run (List NodeChild)}
    (hattributes : AreKept setup (joinPath parentPath e.name) type.attributes attributes)
    (hadmitted : refused? setup s type = none)
    (hinside : ∀ g, type.content = .complex g →
      Does setup (joinPath parentPath e.name) (type.identity.toList ++ stack) (.group false g) inside)
    {node : Node} (hopen : s.openTypes = stack) (hgoing : s.halted = false)
    (hrun : (buildContent setup e type path { name := e.name, uri, attributes } parentScope inside).exec s =
      (.ok node, s')) :
    ∃ a : Account, s.Accounted setup.options a s' ∧
      Built setup parentPath stack (.occurrence e) [if s'.halted = true then node.truncate else node]
        a.begin := by
  have hleaf : ∀ facets, type.content.facets? = some facets → ∃ a : Account,
      s.Accounted setup.options a s' ∧ Built setup parentPath stack (.occurrence e)
        [if s'.halted = true then node.truncate else node] a.begin := by
    intro facets hfacets
    obtain ⟨text, htext, rfl⟩ := leafContent_eq_ok hfacets hrun
    have hsteady : s.Steady s' := (leafText_isSteady e path facets parentScope).steady htext
    rw [marked_eq _ rfl, hsteady.halted, hgoing]
    refine ⟨{}, .of_steady hgoing hsteady, .flat hresolve hopen hadmitted rfl (.inr fun g hg => ?_) rfl rfl
      hattributes⟩
    rw [hg] at hfacets
    cases hfacets
  cases hcontent : type.content with
  | builtin p => exact hleaf (Facets.ofBase p) (by rw [hcontent]; rfl)
  | simple f => exact hleaf f (by rw [hcontent]; rfl)
  | empty =>
      obtain ⟨rfl, rfl⟩ := emptyContent_eq_ok hcontent hrun
      rw [marked_eq _ rfl, hgoing]
      refine ⟨{}, .refl hgoing, .flat hresolve hopen hadmitted rfl (.inr fun g hg => ?_) rfl rfl
        hattributes⟩
      rw [hg] at hcontent
      cases hcontent
  | complex g =>
      obtain ⟨children, hchildren, rfl⟩ := complexContent_eq_ok hcontent hrun
      obtain ⟨a, hbuilt, haccount⟩ := within_leads (hinside g hcontent) hopen hgoing hchildren
      rw [marked_eq _ rfl]
      exact ⟨a, haccount, .nested hresolve hopen hadmitted rfl rfl hcontent hbuilt haccount.halted hattributes⟩

/-- One occurrence of an element, and how it was built. -/
theorem buildOccurrence_leads {e : Element} {type : ResolvedType}
    (hresolve : setup.schema.resolveType e = .ok type) {parentPath : String} {rule : Option ElementRule}
    {uri : Option String} {parentScope : Nat} {inside : Inside}
    (hadmitted : refused? setup s type = none)
    (hinside : ∀ g, type.content = .complex g → ∀ scope,
      Does setup (joinPath parentPath e.name) (type.identity.toList ++ stack) (.group false g)
        (inside scope)) {built : Option Node} (hopen : s.openTypes = stack) (hgoing : s.halted = false)
    (hrun : (buildOccurrence setup e type (joinPath parentPath e.name) rule uri parentScope inside).exec s =
      (.ok built, s')) :
    Leads setup parentPath stack (.occurrence e) s built.toList s' := by
  rcases buildOccurrence_begun hrun with
    ⟨rfl, -, hexceeded, rfl⟩ | ⟨hwithin, attributes, t, hst, hattributes, h⟩
  · exact ⟨_, .missing, accounted_stopState _ hexceeded⟩
  · have hgoingt : t.halted = false := hst.halted.trans hgoing
    rcases h with ⟨rfl, rfl⟩ | ⟨node, hcontent, rfl⟩
    · refine ⟨Account.begin {}, .flat hresolve hopen hadmitted rfl (.inl rfl) rfl rfl hattributes, ?_⟩
      exact accounted_begin hwithin hst (.refl hgoingt)
    · have hopent : t.openTypes = stack := hst.openTypes.trans hopen
      have hadmitted' : refused? setup t type = none :=
        (refused?_congr hst.openTypes type).trans hadmitted
      obtain ⟨a, haccount, hbuilt⟩ := buildContent_leads hresolve hattributes hadmitted'
        (fun g hg => hinside g hg _) hopent hgoingt hcontent
      exact ⟨a.begin, hbuilt, accounted_begin hwithin hst haccount⟩

theorem buildEach_does {e : Element} {count : Nat} {occurrence : Run (Option Node)}
    (hoccurrence : ∀ s built s', s.openTypes = stack → s.halted = false →
      occurrence.exec s = (.ok built, s') → Leads setup path stack (.occurrence e) s built.toList s')
    (left : Nat) :
    Does setup path stack (.row (List.replicate left (.occurrence e)))
      (buildEach setup e count occurrence left) := by
  induction left with
  | zero => exact does_done
  | succ left ih =>
      intro s cs s' hopen hgoing hrun
      unfold buildEach at hrun
      obtain ⟨built, t, hbuilt, hrun⟩ := exec_bind_eq_ok.1 hrun
      have hfirst : Leads setup path stack (.occurrence e) s (elementsAmong
          (occurrenceComment setup e (count - left) count ++ (built.map NodeChild.element).toList)) t := by
        rw [elementsAmong_append, elementsAmong_occurrenceComment, elementsAmong_toList, List.nil_append]
        exact hoccurrence s built t hopen hgoing hbuilt
      exact leads_row hopen hfirst ih hrun

theorem accounted_cutOff {e : Element} {identity : String} {cs : List NodeChild}
    (hopen : s.openTypes = stack) (hgoing : s.halted = false)
    (h : (cutOff setup e path identity).exec s = (.ok cs, s')) :
    s.Accounted setup.options { cuts := [cutNotice e path identity (stack.count identity)] } s' := by
  unfold cutOff at h
  rw [exec_get_bind] at h
  cases h
  subst hopen
  refine ⟨rfl, hgoing, ?_, rfl, rfl, ?_, nofun, nofun⟩
  · exact (Bool.or_false _).symm
  · change (s.report.truncations.push _).toList = s.report.truncations.toList ++ [_] ++ []
    rw [Array.toList_push, List.append_nil]
    rfl

/-- All occurrences of an element, and how they were built. -/
theorem buildElement_does (hvalid : setup.schema.validate = .ok ()) {e : Element}
    (he : setup.schema.ElementPasses e) (hfits : StackFits setup stack) {scope : Nat} {force : Bool}
    {inside : ResolvedType → String → Option ElementRule → Inside}
    (hinside : InsideDoes setup stack inside e) :
    Does setup path stack (.element force e) (buildElement setup e path scope force inside) := by
  intro s cs s' hopen hgoing hrun
  obtain ⟨type, hresolve, htype⟩ := Schema.resolveType_passes hvalid he
  unfold buildElement at hrun
  simp only [hresolve, ofSchema, pure_bind] at hrun
  rw [exec_get_bind] at hrun
  split at hrun
  · rename_i identity hrefused
    obtain ⟨hstubs, -, -⟩ := cutOff_eq_ok hrun
    rw [hstubs]
    exact ⟨_, .cut hresolve hopen hrefused, accounted_cutOff hopen hgoing hrun⟩
  · rename_i hadmitted
    have hpush : ∀ id, type.identity = some id → StackFits setup (id :: stack) := fun _ =>
      hfits.push hopen htype hadmitted
    split at hrun
    · rename_i hcount
      have hnone : Built setup path stack (.element force e) [] {} := by
        refine .occurrences ?_
        rw [hcount]
        exact .done
      split at hrun
      · obtain ⟨_, t, hrecord, hrun⟩ := exec_bind_eq_ok.1 hrun
        obtain ⟨rfl, rfl⟩ := exec_pure_eq_ok.1 hrun
        exact ⟨{}, hnone, .of_steady hgoing (countOmitted_isSteady.steady hrecord)⟩
      · obtain ⟨rfl, rfl⟩ := exec_pure_eq_ok.1 hrun
        exact ⟨{}, hnone, .refl hgoing⟩
    · -- between occurrences the same types are open, so the guard admits each of them
      have hone : ∀ u built u', u.openTypes = stack → u.halted = false →
          (buildOccurrence setup e type (joinPath path e.name)
            (setup.plan.rule? e.name (joinPath path e.name)) e.decl.uri scope
            (inside type (joinPath path e.name) (setup.plan.rule? e.name (joinPath path e.name)))).exec u =
              (.ok built, u') →
          Leads setup path stack (.occurrence e) u built.toList u' := by
        intro u built u' hopenu hgoingu hbuilt
        refine buildOccurrence_leads hresolve ?_ (fun g hg scope => ?_) hopenu hgoingu hbuilt
        · rw [← hadmitted]
          exact refused?_congr (hopenu.trans hopen.symm) type
        · exact hinside type g hresolve htype hg hpush _ _ scope
      obtain ⟨a, hbuilt, haccount⟩ := buildEach_does hone _ s cs s' hopen hgoing hrun
      exact ⟨a, .occurrences hbuilt, haccount⟩

/-! ## Members of groups -/

/-- A choice takes a member that the guard admits, unless it refuses them all. -/
theorem chooseBranch_admits {rule : Option ElementRule} {members : List Particle} {chosen : Option Nat}
    (h : (chooseBranch setup path rule members).exec s = (.ok chosen, s')) :
    (chosen = none ∧ eligible setup s members = []) ∨
      ∃ b ∈ eligible setup s members, chosen = some b.2 := by
  unfold chooseBranch at h
  rw [exec_get_bind] at h
  obtain ⟨⟨⟩, t, -, h⟩ := exec_bind_eq_ok.1 h
  dsimp only at h
  split at h
  · rename_i hempty
    obtain ⟨rfl, -⟩ := exec_pure_eq_ok.1 h
    exact .inl ⟨rfl, List.isEmpty_iff.1 hempty⟩
  · rename_i hne
    have hbranches : eligible setup s members ≠ [] := by simpa using hne
    refine .inr ?_
    split at h
    · exact chooseFreely_eq_ok hbranches h
    · split at h
      · rename_i b hb
        obtain ⟨_, u, -, h⟩ := exec_bind_eq_ok.1 h
        obtain ⟨rfl, -⟩ := exec_pure_eq_ok.1 h
        exact ⟨b, List.mem_of_find?_eq_some hb, rfl⟩
      · obtain ⟨_, u, -, h⟩ := exec_bind_eq_ok.1 h
        exact chooseFreely_eq_ok hbranches h

theorem cut_of_eligible_eq_nil {members : List Particle} (h : eligible setup s members = []) :
    ∀ p ∈ members, (cutType? setup s p).isSome := by
  intro p hp
  obtain ⟨position, hposition⟩ := List.getElem?_of_mem hp
  have hcut := (List.filter_eq_nil_iff.1 h) (p, position) (List.mk_mem_zipIdx_iff_getElem?.2 hposition)
  exact Option.isSome_iff_ne_none.2 (by simpa using hcut)

section Members

variable {enter : Enter} {scope : Nat} {rule : Option ElementRule} {members : List Particle}

/-- What is walked for a member is what the member asks for. -/
abbrev MemberDoes (setup : Setup) (stack : List String) (enter : Enter) (p : Particle) : Prop :=
  ∀ path scope rule force,
    Does setup path stack (.ofParticle force p) (walkParticle setup enter path scope rule force p)

theorem walkAll_does (hmembers : ∀ p ∈ members, MemberDoes setup stack enter p) :
    Does setup path stack (.row (members.map (.ofParticle false)))
      (walkAll setup enter path scope rule members) := by
  induction members with
  | nil => exact does_done
  | cons p rest ih =>
      intro s cs s' hopen hgoing hrun
      unfold walkAll at hrun
      obtain ⟨own, t, hown, hrun⟩ := exec_bind_eq_ok.1 hrun
      have hfirst := hmembers p List.mem_cons_self path scope rule false s own t hopen hgoing hown
      exact leads_row hopen hfirst (ih fun q hq => hmembers q (List.mem_cons_of_mem p hq)) hrun

/-- One repetition of a choice, and how it was built. -/
theorem choice_does {decl : GroupDecl} (hkind : decl.kind = .choice)
    (hmembers : ∀ p ∈ members, MemberDoes setup stack enter p) :
    Does setup path stack (.repetition (.mk decl members))
      (chooseBranch setup path rule members >>= fun chosen =>
        match chosen with
        | some position => walkNth setup enter path scope rule position members
        | none => pure []) := by
  intro s cs s' hopen hgoing hrun
  obtain ⟨chosen, t, hchosen, hrun⟩ := exec_bind_eq_ok.1 hrun
  have hsteady := (chooseBranch_isSteady path rule members).steady hchosen
  rcases chooseBranch_admits hchosen with ⟨rfl, hnone⟩ | ⟨b, hb, rfl⟩
  · obtain ⟨rfl, rfl⟩ := exec_pure_eq_ok.1 hrun
    by_cases hempty : members = []
    · exact ⟨{}, .empty hkind hempty, .of_steady hgoing hsteady⟩
    · have hbare : Built setup path stack (.repetition (.mk decl members)) [] { bare := [path] } :=
        .bare hkind hempty hopen (cut_of_eligible_eq_nil hnone)
      have haccount : s.Accounted setup.options {} t := .of_steady hgoing hsteady
      exact ⟨_, hbare, haccount.openTypes, haccount.halted, haccount.isPartial, haccount.elements,
        haccount.steps, haccount.truncations, nofun, nofun⟩
  · dsimp only at hrun
    rw [walkNth_eq, getElem?_of_mem_eligible hb] at hrun
    have hmember : b.1 ∈ members := List.mem_of_getElem? (getElem?_of_mem_eligible hb)
    have hadmitted : cutType? setup s b.1 = none := by simpa using (List.mem_filter.1 hb).2
    obtain ⟨a, hbuilt, haccount⟩ := hmembers b.1 hmember path scope rule true t cs s'
      (hsteady.openTypes.trans hopen) (hsteady.halted.trans hgoing) hrun
    exact ⟨a, .branch hkind hmember hopen hadmitted hbuilt, .after hsteady haccount⟩

theorem walkGroup_does_of_members {decl : GroupDecl} {force : Bool}
    (hmembers : ∀ p ∈ members, MemberDoes setup stack enter p) :
    Does setup path stack (.group force (.mk decl members))
      (walkGroup setup enter path scope rule force (.mk decl members)) := by
  have hrepetitions : ∀ {body : Run (List NodeChild)},
      Does setup path stack (.repetition (.mk decl members)) body →
        Does setup path stack (.group force (.mk decl members))
          (repeatStep body (groupCount setup (.mk decl members) path force)) := by
    intro body hbody s cs s' hopen hgoing hrun
    obtain ⟨a, hbuilt, haccount⟩ := repeatStep_does hbody _ s cs s' hopen hgoing hrun
    exact ⟨a, .repetitions hbuilt, haccount⟩
  by_cases hkind : decl.kind = .choice
  · rw [walkGroup_of_choice enter path scope rule force members hkind]
    exact hrepetitions (choice_does hkind hmembers)
  · rw [walkGroup_of_ne_choice enter path scope rule force members hkind]
    refine hrepetitions fun s cs s' hopen hgoing hrun => ?_
    obtain ⟨a, hbuilt, haccount⟩ := walkAll_does hmembers s cs s' hopen hgoing hrun
    exact ⟨a, .all hkind hbuilt, haccount⟩

end Members

/-! ## Types that are entered -/

/-- Whatever named type may be opened, entering its members does what its group asks for. -/
abbrev EnterDoes (setup : Setup) (stack : List String) (enter : Enter) : Prop :=
  ∀ identity, StackFits setup (identity :: stack) → ∀ path scope rule g, setup.schema.GroupPasses g →
    Does setup path (identity :: stack) (.group false g) (enter path scope rule g)

theorem insideNamed_does {enter : Enter} (henter : EnterDoes setup stack enter) (decl : ElementDecl) :
    InsideDoes setup stack (insideNamed enter) (.mk decl none) := by
  intro type g hresolve htype hcontent hfits path rule scope
  obtain ⟨identity, hidentity⟩ := Schema.identity_of_resolveType hresolve hcontent
  unfold insideNamed
  rw [hcontent, hidentity]
  exact henter identity (hfits identity hidentity) path scope rule g (htype.content g hcontent)

theorem insideAnonymous_does {decl : ElementDecl} {g : Group}
    {walk : String → Nat → Option ElementRule → Run (List NodeChild)}
    (hwalk : ∀ path scope rule, Does setup path stack (.group false g) (walk path scope rule)) :
    InsideDoes setup stack (fun _ path rule scope => walk path scope rule) (.mk decl (some g)) := by
  intro type g' hresolve _ hcontent _ path rule scope
  obtain ⟨rfl, hidentity⟩ := Schema.content_of_resolveType hresolve hcontent
  rw [hidentity]
  exact hwalk path scope rule

/-- Walking elements, groups and members does what they ask for, when entering named types does. -/
theorem members_do (hvalid : setup.schema.validate = .ok ()) (hfits : StackFits setup stack)
    {enter : Enter} (henter : EnterDoes setup stack enter) :
    (∀ e, setup.schema.ElementPasses e → ∀ path scope force,
      Does setup path stack (.element force e) (walkElement setup enter path scope force e)) ∧
    (∀ g, setup.schema.GroupPasses g → ∀ path scope rule force,
      Does setup path stack (.group force g) (walkGroup setup enter path scope rule force g)) ∧
    ∀ p, setup.schema.ParticlePasses p → MemberDoes setup stack enter p := by
  apply tree_induction
  · intro decl he path scope force
    unfold walkElement
    exact buildElement_does hvalid he hfits (insideNamed_does henter decl)
  · intro decl g ih he path scope force
    unfold walkElement
    exact buildElement_does hvalid he hfits
      (insideAnonymous_does fun path scope rule => ih (Schema.content_passes he) path scope rule false)
  · intro decl members ih hg path scope rule force
    exact walkGroup_does_of_members fun p hp => ih p hp (Schema.member_passes hg p hp)
  · intro e ih he path scope rule force
    unfold walkParticle
    exact ih he path scope force
  · intro g ih hg path scope rule force
    unfold walkParticle
    exact ih hg path scope rule force

theorem enterWithin_does (hvalid : setup.schema.validate = .ok ()) (budget : Nat) (stack : List String)
    (hbudget : setup.schema.types.length * setup.plan.settings.maxDepth.toNat ≤ budget + stack.length) :
    EnterDoes setup stack (enterWithin setup budget) := by
  induction budget generalizing stack with
  | zero =>
      intro identity hfits
      have hlength := hfits.length_le
      rw [List.length_cons] at hlength
      omega
  | succ budget ih =>
      intro identity hfits path scope rule g hg
      have henter := ih (identity :: stack) (by rw [List.length_cons]; omega)
      exact (members_do hvalid hfits henter).2.1 g hg path scope rule false

/-! ## Documents -/

theorem insideOf_does (hvalid : setup.schema.validate = .ok ()) {e : Element}
    (he : setup.schema.ElementPasses e) : InsideDoes setup [] (insideOf setup e) e := by
  have henter : EnterDoes setup [] (enter setup) := enterWithin_does hvalid _ [] (Nat.le_succ _)
  have hmembers := members_do hvalid (stackFits_nil setup) henter
  cases e with
  | mk decl content =>
      cases content with
      | none => exact insideNamed_does henter decl
      | some g =>
          exact insideAnonymous_does fun path scope rule =>
            hmembers.2.1 g (Schema.content_passes he) path scope rule false

/-- The empty root that is all of a document when no step can be taken. -/
def emptyRoot (setup : Setup) (root : Element) : Node :=
  let uri := root.decl.uri <|> setup.schema.targetNamespace
  .mk { name := root.name, uri, truncated := true } []

/-- A document is the root with an account, or an empty root that is marked when there was no step to take. -/
theorem buildDocument_leads (hdepth : 1 ≤ setup.plan.settings.maxDepth.toNat)
    (hvalid : setup.schema.validate = .ok ()) {root : Element} (hroot : setup.schema.ElementPasses root)
    (hopen : s.openTypes = []) (hgoing : s.halted = false) {document : Node}
    (hrun : (buildDocument setup root).exec s = (.ok document, t)) :
    Leads setup "" [] (.occurrence root) s [document] t ∨
      (document = emptyRoot setup root ∧ Leads setup "" [] (.occurrence root) s [] t) := by
  obtain ⟨type, hresolve, htype⟩ := Schema.resolveType_passes hvalid hroot
  unfold buildDocument buildIn at hrun
  dsimp only at hrun
  rw [exec_openScope_bind] at hrun
  simp only [hresolve, ofSchema, pure_bind, bind_assoc] at hrun
  rw [exec_get_bind] at hrun
  have hsteady : s.Steady { s with scopes := s.scopes + 1 } := ⟨rfl, rfl, rfl, rfl, rfl, rfl⟩
  have hadmitted : refused? setup { s with scopes := s.scopes + 1 } type = none := by
    rw [refused?_congr hsteady.openTypes]
    cases hrefused : refused? setup s type with
    | none => rfl
    | some identity =>
        obtain ⟨-, hmem⟩ := mem_openTypes_of_refused hdepth hrefused
        rw [hopen] at hmem
        cases hmem
  rw [hadmitted] at hrun
  obtain ⟨built, u, hbuilt, hrun⟩ := exec_bind_eq_ok.1 hrun
  have hpush : ∀ id, type.identity = some id → StackFits setup [id] := fun _ =>
    (stackFits_nil setup).push hopen htype hadmitted
  obtain ⟨a, hleads, haccount⟩ := buildOccurrence_leads hresolve hadmitted
    (fun g hg => insideOf_does hvalid hroot type g hresolve htype hg hpush _ _) hopen hgoing hbuilt
  have haccount := RunState.Accounted.after hsteady haccount
  cases built with
  | none =>
      obtain ⟨rfl, rfl⟩ := exec_pure_eq_ok.1 hrun
      exact .inr ⟨rfl, a, hleads, haccount⟩
  | some node =>
      obtain ⟨rfl, rfl⟩ := exec_pure_eq_ok.1 hrun
      exact .inl ⟨a, hleads, haccount⟩

end Walk
end Specimen
