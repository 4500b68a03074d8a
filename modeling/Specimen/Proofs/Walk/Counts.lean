import Specimen.Proofs.Run.Unfinished
import Specimen.Proofs.Walk.Conformance

/-!
# How many occurrences are built

The number of occurrences of an element or a group is in the range that the schema declares, with one exception: a
member that a choice has taken is built once also when its upper bound is zero.

What the walk builds of an element or a group is this number of occurrences, one after the other.  There are fewer
when the steps run out, and an element of a type that is nested too deeply is replaced by as many empty elements as
its lower bound asks for.
-/

namespace Specimen

open Run

/-- A choice has taken a member of which the schema allows no occurrence. -/
def TakenAtZero (force : Bool) (high : MaxOccurs) : Prop := force = true ∧ high.limit? = some 0

theorem MaxOccurs.allows_of_le {high : MaxOccurs} {m n : Nat} (hn : high.allows n = true) (hmn : m ≤ n) :
    high.allows m = true := by
  unfold MaxOccurs.allows at *
  split
  · rename_i limit hlimit
    rw [hlimit] at hn
    exact decide_eq_true (hmn.trans (of_decide_eq_true hn))
  · rfl

/-- The lower bound itself is in a range that is not empty. -/
theorem MaxOccurs.allows_low {low : Nat} {high : MaxOccurs} (hbounds : Schema.exceeded? low high = none) :
    high.allows low = true := by
  unfold Schema.exceeded? at hbounds
  unfold MaxOccurs.allows
  split
  · rename_i limit hlimit
    rw [hlimit] at hbounds
    have hlow : ¬limit < low := by simpa using hbounds
    exact decide_eq_true (Nat.not_lt.1 hlow)
  · rfl

namespace InBounds

variable {force : Bool} {low : Nat} {high : MaxOccurs} {count : Nat}

theorem low_le (h : InBounds force low high count) : low ≤ count :=
  (Nat.le_max_left low _).trans h.1

theorem allows (h : InBounds force low high count) (hzero : ¬TakenAtZero force high) :
    high.allows count = true := by
  rcases h.2 with hallows | ⟨rfl, rfl⟩
  · exact hallows
  · unfold MaxOccurs.allows
    split
    · rename_i limit hlimit
      have hlimit : limit ≠ 0 := fun h0 => hzero ⟨rfl, hlimit.trans (congrArg some h0)⟩
      exact decide_eq_true (Nat.one_le_iff_ne_zero.2 hlimit)
    · rfl

/-- The upper bound is exceeded just where it is zero and a choice has taken the member. -/
theorem allows_iff (h : InBounds force low high count) :
    high.allows count = true ↔ ¬TakenAtZero force high := by
  refine ⟨?_, h.allows⟩
  rintro hallows ⟨rfl, hlimit⟩
  have hcount : 1 ≤ count := (Nat.le_max_right low 1).trans h.1
  unfold MaxOccurs.allows at hallows
  rw [hlimit] at hallows
  exact absurd (hcount.trans (of_decide_eq_true hallows)) (by decide)

end InBounds

namespace Walk

variable {setup : Setup} {s t : RunState}

/-! ## Elements -/

theorem buildContent_name {e : Element} {type : ResolvedType} {path : String} {head : NodeHead}
    {parentScope : Nat} {inside : Run (List NodeChild)} {node : Node}
    (h : (buildContent setup e type path head parentScope inside).exec s = (.ok node, t)) :
    node.name = head.name := by
  cases hfacets : type.content.facets? with
  | some facets =>
      obtain ⟨text, -, rfl⟩ := leafContent_eq_ok hfacets h
      rfl
  | none =>
      cases hcontent : type.content with
      | complex g =>
          obtain ⟨children, -, rfl⟩ := complexContent_eq_ok hcontent h
          rfl
      | empty =>
          obtain ⟨rfl, -⟩ := emptyContent_eq_ok hcontent h
          rfl
      | builtin p | simple f => rw [hcontent] at hfacets; cases hfacets

/-- An occurrence is missing only if the walk was stopped. -/
theorem buildOccurrence_eq_some {e : Element} {type : ResolvedType} {path : String}
    {rule : Option ElementRule} {uri : Option String} {parentScope : Nat} {inside : Inside}
    {built : Option Node}
    (h : (buildOccurrence setup e type path rule uri parentScope inside).exec s = (.ok built, t)) :
    (built = none ∧ t.halted = true) ∨ ∃ n, built = some n ∧ n.name = e.name := by
  rcases buildOccurrence_eq_ok h with
    ⟨rfl, hhalted, -⟩ | ⟨scope, attributes, u, v, -, -, ⟨-, -, rfl⟩ | ⟨node, w, -, hcontent, rfl⟩⟩
  · exact .inl ⟨rfl, hhalted⟩
  · exact .inr ⟨_, rfl, rfl⟩
  · refine .inr ⟨_, rfl, ?_⟩
    have hname : node.name = e.name := buildContent_name hcontent
    cases node
    split
    · exact hname
    · exact hname

/-- A row of occurrences of an element: as many as are missing, or fewer if the walk was stopped. -/
theorem buildEach_count {e : Element} {count : Nat} {occurrence : Run (Option Node)}
    (hoccurrence : ∀ s built t, occurrence.exec s = (.ok built, t) →
      (built = none ∧ t.halted = true) ∨ ∃ n, built = some n ∧ n.name = e.name)
    {left : Nat} {cs : List NodeChild}
    (h : (buildEach setup e count occurrence left).exec s = (.ok cs, t)) :
    (∀ n ∈ elementsAmong cs, n.name = e.name) ∧ (elementsAmong cs).length ≤ left ∧
      (t.halted = false → (elementsAmong cs).length = left) := by
  induction left generalizing s cs with
  | zero =>
      obtain ⟨rfl, rfl⟩ := exec_pure_eq_ok.1 h
      exact ⟨List.forall_mem_nil _, Nat.le_refl 0, fun _ => rfl⟩
  | succ left ih =>
      obtain ⟨built, u, own, hbuilt, rfl, hrest⟩ := buildEach_succ_eq_ok h
      have hnames : ∀ n ∈ built.toList, n.name = e.name := by
        intro n hn
        rcases hoccurrence s built u hbuilt with ⟨rfl, -⟩ | ⟨n', rfl, hname⟩
        · cases hn
        · rwa [List.mem_singleton.1 hn]
      have hlength : built.toList.length ≤ 1 := Option.length_toList_le
      rcases hrest with ⟨hhalted, rfl, rfl⟩ | ⟨hgoing, more, hmore, rfl⟩
      · simp only [elementsAmong_append, elementsAmong_occurrenceComment, elementsAmong_toList,
          List.nil_append]
        exact ⟨hnames, by omega, fun hgoes => absurd (hgoes.symm.trans hhalted) Bool.false_ne_true⟩
      · obtain ⟨hmoreNames, hmoreLe, hmoreEq⟩ := ih hmore
        obtain ⟨n, rfl, -⟩ : ∃ n, built = some n ∧ n.name = e.name := by
          refine (hoccurrence s built u hbuilt).resolve_left ?_
          rintro ⟨-, hhalted⟩
          exact absurd (hgoing.symm.trans hhalted) Bool.false_ne_true
        simp only [elementsAmong_append, elementsAmong_occurrenceComment, elementsAmong_toList,
          List.nil_append, Option.toList_some, List.singleton_append, List.length_cons]
        refine ⟨List.forall_mem_cons.2 ⟨hnames n List.mem_cons_self, hmoreNames⟩, by omega, fun hgoes => ?_⟩
        exact congrArg (· + 1) (hmoreEq hgoes)

/-- An element is built as often as the plan says, unless the walk was stopped; where its type is refused, it is
replaced by empty elements. -/
theorem buildElement_count {e : Element} {path : String} {scope : Nat} {force : Bool}
    {inside : ResolvedType → String → Option ElementRule → Inside} {cs : List NodeChild}
    (h : (buildElement setup e path scope force inside).exec s = (.ok cs, t)) :
    (∀ n ∈ elementsAmong cs, n.name = e.name) ∧
      ((∃ type identity, setup.schema.resolveType e = .ok type ∧ refused? setup s type = some identity ∧
          (elementsAmong cs).length = e.minOccurs) ∨
        ∃ count, count = occurrenceCount setup e (joinPath path e.name)
            (setup.plan.rule? e.name (joinPath path e.name)) force ∧
          (elementsAmong cs).length ≤ count ∧ (t.halted = false → (elementsAmong cs).length = count)) := by
  cases htype : setup.schema.resolveType e with
  | error fault =>
      unfold buildElement at h
      simp only [htype, ofSchema, exec_bind, exec_throw] at h
      cases h
  | ok type =>
      rcases buildElement_eq_ok htype h with ⟨identity, hrefused, hcut⟩ | ⟨-, ⟨hzero, rfl, -⟩ | heach⟩
      · obtain ⟨hstubs, -⟩ := cutOff_eq_ok hcut
        rw [hstubs]
        refine ⟨fun n hn => ?_, .inl ⟨type, identity, rfl, hrefused, List.length_replicate⟩⟩
        rw [List.eq_of_mem_replicate hn]
        rfl
      · exact ⟨List.forall_mem_nil _, .inr ⟨_, rfl, Nat.zero_le _, fun _ => hzero.symm⟩⟩
      · obtain ⟨hnames, hle, heq⟩ := buildEach_count (fun s built t => buildOccurrence_eq_some) heach
        exact ⟨hnames, .inr ⟨_, rfl, hle, heq⟩⟩

/-! ## Groups -/

/-- An action has been run several times in a row. -/
inductive Repeated (body : Run (List NodeChild)) : RunState → List (List NodeChild) → RunState → Prop where
  | none (s : RunState) : Repeated body s [] s
  | next {s t u : RunState} {own : List NodeChild} {rest : List (List NodeChild)}
      (hown : body.exec s = (.ok own, t)) (hrest : Repeated body t rest u) : Repeated body s (own :: rest) u

theorem repeatStep_count {body : Run (List NodeChild)} {count : Nat} {cs : List NodeChild}
    (h : (repeatStep body count).exec s = (.ok cs, t)) :
    ∃ parts, Repeated body s parts t ∧ cs = parts.flatten ∧ parts.length ≤ count ∧
      (t.halted = false → parts.length = count) := by
  induction count generalizing s cs with
  | zero =>
      obtain ⟨rfl, rfl⟩ := exec_pure_eq_ok.1 h
      exact ⟨[], .none s, rfl, Nat.le_refl 0, fun _ => rfl⟩
  | succ count ih =>
      obtain ⟨own, u, hown, ⟨hhalted, rfl, rfl⟩ | ⟨-, more, hmore, rfl⟩⟩ := repeatStep_succ_eq_ok h
      · refine ⟨[cs], .next hown (.none t), List.flatten_singleton.symm, ?_, fun hgoes => ?_⟩
        · exact Nat.succ_le_succ (Nat.zero_le count)
        · exact absurd (hgoes.symm.trans hhalted) Bool.false_ne_true
      · obtain ⟨parts, hparts, rfl, hle, heq⟩ := ih hmore
        exact ⟨own :: parts, .next hown hparts, rfl, Nat.succ_le_succ hle,
          fun hgoes => congrArg (· + 1) (heq hgoes)⟩

/-- One repetition of a group. -/
def repetition (setup : Setup) (enter : Enter) (path : String) (scope : Nat) (rule : Option ElementRule)
    (g : Group) : Run (List NodeChild) :=
  match g.kind with
  | .choice => do
    match ← chooseBranch setup path rule g.members with
    | some position => walkNth setup enter path scope rule position g.members
    | none => return []
  | _ => walkAll setup enter path scope rule g.members

theorem walkGroup_eq_repeatStep (enter : Enter) (path : String) (scope : Nat) (rule : Option ElementRule)
    (force : Bool) (g : Group) :
    walkGroup setup enter path scope rule force g =
      repeatStep (repetition setup enter path scope rule g) (groupCount setup g path force) := by
  cases g with
  | mk decl members => exact walkGroup.eq_1 setup enter path scope rule force decl members

/-! ## Ranges -/

/-- How often something was built is in its range: not less often than the lower bound unless the walk was
stopped, and not more often than the upper bound unless that is zero and a choice has taken it. -/
structure BuiltInRange (force : Bool) (low : Nat) (high : MaxOccurs) (halted : Bool) (count : Nat) : Prop where
  low_le : halted = false → low ≤ count
  allows : ¬TakenAtZero force high → high.allows count = true

theorem builtInRange_of_inBounds {force halted : Bool} {low count built : Nat} {high : MaxOccurs}
    (h : InBounds force low high count) (hle : built ≤ count) (heq : halted = false → built = count) :
    BuiltInRange force low high halted built where
  low_le hgoes := (heq hgoes).symm ▸ h.low_le
  allows hzero := MaxOccurs.allows_of_le (h.allows hzero) hle

/-- For every declaration with a range that is not empty, the number of occurrences is not below the range, and it
is above the range just if the upper bound is zero and a choice has taken the member.  What is built is this number
of occurrences in a row, which are all elements of the declared name or all repetitions of the group; so it is in
the range under the same condition, except that there is less when the steps have run out. -/
theorem counts_in_range (setup : Setup) (path : String) (force : Bool) :
    (∀ e : Element, Schema.exceeded? e.minOccurs e.maxOccurs = none →
      (∀ place rule, e.minOccurs ≤ occurrenceCount setup e place rule force ∧
        (e.maxOccurs.allows (occurrenceCount setup e place rule force) = true ↔
          ¬TakenAtZero force e.maxOccurs)) ∧
      ∀ scope inside s cs t, (buildElement setup e path scope force inside).exec s = (.ok cs, t) →
        (∀ n ∈ elementsAmong cs, n.name = e.name) ∧
          BuiltInRange force e.minOccurs e.maxOccurs t.halted (elementsAmong cs).length) ∧
    ∀ g : Group, Schema.exceeded? g.minOccurs g.maxOccurs = none →
      (g.minOccurs ≤ groupCount setup g path force ∧
        (g.maxOccurs.allows (groupCount setup g path force) = true ↔ ¬TakenAtZero force g.maxOccurs)) ∧
      ∀ enter scope rule s cs t, (walkGroup setup enter path scope rule force g).exec s = (.ok cs, t) →
        ∃ parts, Repeated (repetition setup enter path scope rule g) s parts t ∧ cs = parts.flatten ∧
          BuiltInRange force g.minOccurs g.maxOccurs t.halted parts.length := by
  constructor
  · intro e hbounds
    constructor
    · intro place rule
      have hcount : InBounds force e.minOccurs e.maxOccurs (occurrenceCount setup e place rule force) :=
        inBounds_occurrenceCount hbounds place rule force
      exact ⟨hcount.low_le, hcount.allows_iff⟩
    · intro scope inside s cs t hrun
      obtain ⟨hnames, ⟨-, -, -, -, hlength⟩ | ⟨count, rfl, hle, heq⟩⟩ := buildElement_count hrun
      · rw [hlength]
        exact ⟨hnames, fun _ => Nat.le_refl _, fun _ => MaxOccurs.allows_low hbounds⟩
      · exact ⟨hnames, builtInRange_of_inBounds (inBounds_occurrenceCount hbounds _ _ force) hle heq⟩
  · intro g hbounds
    have hcount : InBounds force g.minOccurs g.maxOccurs (groupCount setup g path force) :=
      inBounds_groupCount hbounds path force
    refine ⟨⟨hcount.low_le, hcount.allows_iff⟩, fun enter scope rule s cs t hrun => ?_⟩
    rw [walkGroup_eq_repeatStep] at hrun
    obtain ⟨parts, hparts, hcs, hle, heq⟩ := repeatStep_count hrun
    exact ⟨parts, hparts, hcs, builtInRange_of_inBounds hcount hle heq⟩

end Walk

namespace Generation

/-! ## Books on a shelf -/

def bookElement (low : UInt32) (high : MaxOccurs) : Element :=
  .mk { name := "Book", typeRef := some "xs:string", minOccurs := low, maxOccurs := high, fixed := some "x" } none

/-- The content of a shelf. -/
def shelfContent (kind : GroupKind) (book : Element) : Group := .mk { kind } [.element book]

def shelfSchema (kind : GroupKind) (book : Element) : Schema where
  version := "1"
  elements := [.mk { name := "Shelf" } (some (shelfContent kind book))]

/-- The books of a shelf, in the state in which the walk begins. -/
def shelved (setup : Setup) (root book : Element) : Except RunError (List NodeChild) × RunState :=
  (Walk.buildElement setup book root.name 0 false fun _ _ _ _ => pure []).exec (beginning setup root 0)

/-- Two books are asked for, and the schema allows up to three. -/
theorem counts_in_range_shelf : ∃ setup root cs t,
    prepare (shelfSchema .sequence (bookElement 1 (.bounded 3))) {} {} = .ok (setup, root) ∧
      shelved setup root (bookElement 1 (.bounded 3)) = (.ok cs, t) ∧ t.halted = false ∧
      (Walk.elementsAmong cs).length = 2 ∧ 1 ≤ (Walk.elementsAmong cs).length ∧
      (MaxOccurs.bounded 3).allows (Walk.elementsAmong cs).length = true := by
  have hcomputed : (match prepare (shelfSchema .sequence (bookElement 1 (.bounded 3))) {} {} with
      | .ok (setup, root) =>
        let (result, t) := shelved setup root (bookElement 1 (.bounded 3))
        match result with
        | .ok cs => !t.halted && (Walk.elementsAmong cs).length == 2
        | .error _ => false
      | .error _ => false) = true := by decide +kernel
  split at hcomputed
  · rename_i setup root hprepared
    rcases hrun : shelved setup root (bookElement 1 (.bounded 3)) with ⟨e | cs, t⟩
    · rw [hrun] at hcomputed
      cases hcomputed
    · rw [hrun] at hcomputed
      dsimp only at hcomputed
      rw [Bool.and_eq_true, Bool.not_eq_true', beq_iff_eq] at hcomputed
      have hbuilt := (((Walk.counts_in_range setup root.name false).1 (bookElement 1 (.bounded 3))
        (by decide)).2 0 _ _ cs t hrun).2
      exact ⟨setup, root, cs, t, hprepared, hrun, hcomputed.1, hcomputed.2, hbuilt.low_le hcomputed.1,
        hbuilt.allows fun hzero => Bool.false_ne_true hzero.1⟩
  · cases hcomputed

/-- A choice takes a member of which the schema allows no occurrence, and it is built once. -/
theorem forbidden_book_built : ∃ setup root made,
    prepare (shelfSchema .choice (bookElement 0 (.bounded 0))) {} {} = .ok (setup, root) ∧
      run (shelfSchema .choice (bookElement 0 (.bounded 0))) {} {} 0 = .ok made ∧
      made.report.isPartial = false ∧ Schema.exceeded? 0 (.bounded 0) = none ∧
      Walk.occurrenceCount setup (bookElement 0 (.bounded 0)) "Shelf/Book" none true = 1 ∧
      (MaxOccurs.bounded 0).allows 1 = false ∧ made.document.elements.map (·.name) = ["Book"] := by
  have hcomputed : (match prepare (shelfSchema .choice (bookElement 0 (.bounded 0))) {} {} with
      | .ok (setup, root) =>
        Walk.occurrenceCount setup (bookElement 0 (.bounded 0)) "Shelf/Book" none true == 1 &&
        (match (walk setup root (seedOf setup 0)).1 with
          | .ok made => !made.report.isPartial && made.document.elements.map (·.name) == ["Book"]
          | .error _ => false)
      | .error _ => false) = true := by decide +kernel
  split at hcomputed
  · rename_i setup root hprepared
    rw [Bool.and_eq_true, beq_iff_eq] at hcomputed
    obtain ⟨hcount, hmade⟩ := hcomputed
    split at hmade
    · rename_i made hwalk
      rw [Bool.and_eq_true, Bool.not_eq_true', beq_iff_eq] at hmade
      have hrun : run (shelfSchema .choice (bookElement 0 (.bounded 0))) {} {} 0 = .ok made := by
        unfold run
        rw [hprepared]
        exact hwalk
      exact ⟨setup, root, made, hprepared, hrun, hmade.1, rfl, hcount, rfl, hmade.2⟩
    · cases hmade
  · cases hcomputed

end Generation
end Specimen
