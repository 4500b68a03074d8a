import Specimen.Proofs.Run.Unfinished
import Specimen.Proofs.Walk.Stubs

/-!
# Complete branches

What a choice takes is complete if the recursion guard cuts off none of the elements that then have to be there:
the element that is taken, or those that a group which is taken declares for certain, also in the groups inside it.

A choice asks the guard about the elements among its members and does not look into groups.  So it never takes an
element that is cut off, and it is without a branch only if it has no complete member, but it may take a group in
which a required element is cut off although another member is complete.
-/

namespace Specimen

open Run

namespace Walk

mutual

/-- Whether the guard cuts off nothing that has to be there when a member is built; what a choice has taken has to
be there itself. -/
def completes (setup : Setup) (s : RunState) (path : String) (force : Bool) : Particle → Bool
  | .element e => leastOccurs e.minOccurs force == 0 || (cutType? setup s (.element e)).isNone
  | .group g => groupCompletes setup s path force g

/-- Whether the guard cuts off nothing that has to be there when a group is built: all members of a repetition, or
one member of a choice. -/
def groupCompletes (setup : Setup) (s : RunState) (path : String) (force : Bool) : Group → Bool
  | .mk decl members =>
    groupCount setup (.mk decl members) path force == 0 ||
      match decl.kind with
      | .choice => members.isEmpty || anyCompletes setup s path members
      | _ => allComplete setup s path members

/-- Whether one of several members is complete when a choice has taken it. -/
def anyCompletes (setup : Setup) (s : RunState) (path : String) : List Particle → Bool
  | [] => false
  | p :: rest => completes setup s path true p || anyCompletes setup s path rest

def allComplete (setup : Setup) (s : RunState) (path : String) : List Particle → Bool
  | [] => true
  | p :: rest => completes setup s path false p && allComplete setup s path rest

end

variable {setup : Setup} {s t : RunState} {path : String}

theorem anyCompletes_eq_any (members : List Particle) :
    anyCompletes setup s path members = members.any (completes setup s path true) := by
  induction members with
  | nil => rfl
  | cons p rest ih => rw [anyCompletes, ih, List.any_cons]

theorem allComplete_eq_all (members : List Particle) :
    allComplete setup s path members = members.all (completes setup s path false) := by
  induction members with
  | nil => rfl
  | cons p rest ih => rw [allComplete, ih, List.all_cons]

/-- An element that a choice has taken is complete unless its type is refused. -/
theorem completes_element_forced (e : Element) :
    completes setup s path true (.element e) = (cutType? setup s (.element e)).isNone := by
  have hforced : (leastOccurs e.minOccurs true == 0) = false := by
    unfold leastOccurs
    rw [if_pos rfl, beq_eq_false_iff_ne]
    omega
  rw [completes, hforced, Bool.false_or]

/-! ## What completeness means for the walk -/

/-- Nothing was cut off, no choice had to go without a branch, and the steps have not run out. -/
structure Clean (a : Account) : Prop where
  cuts : a.cuts = []
  bare : a.bare = []
  going : a.stop = none

theorem Clean.of_append {a b : Account} (h : Clean (a ++ b)) (hgoing : a.stop = none) : Clean a ∧ Clean b := by
  obtain ⟨hcutsA, hcutsB⟩ := List.append_eq_nil_iff.1 h.cuts
  obtain ⟨hbareA, hbareB⟩ := List.append_eq_nil_iff.1 h.bare
  have hstop := h.going
  rw [Account.stop_append, hgoing] at hstop
  exact ⟨⟨hcutsA, hbareA, hgoing⟩, hcutsB, hbareB, hstop⟩

/-- In a row in which nothing is missing, nothing is missing of any part. -/
theorem Built.clean_of_mem {stack : List String} {tasks : List Task} {nodes : List Node} {a : Account}
    (h : Built setup path stack (.row tasks) nodes a) (hclean : Clean a) :
    ∀ task ∈ tasks, ∃ own b, Built setup path stack task own b ∧ Clean b := by
  induction tasks generalizing nodes a with
  | nil => exact fun _ htask => nomatch htask
  | cons first rest ih =>
      cases h with
      | last _ hstop =>
          rw [hclean.going] at hstop
          cases hstop
      | next hfirst hgoing hrest =>
          obtain ⟨hcleanFirst, hcleanRest⟩ := hclean.of_append hgoing
          exact List.forall_mem_cons.2 ⟨⟨_, _, hfirst, hcleanFirst⟩, ih hrest hcleanRest⟩

theorem leastOccurs_le_occurrenceCount (setup : Setup) (e : Element) (path : String)
    (rule : Option ElementRule) (force : Bool) :
    leastOccurs e.minOccurs force ≤ occurrenceCount setup e path rule force := by
  unfold occurrenceCount
  dsimp only
  split
  · rename_i habsent
    exact Nat.le_of_eq habsent.1
  · exact Nat.le_max_right _ _

/-- An element that is begun has a type that the guard admits. -/
theorem Built.admitted_of_occurrence {stack : List String} {e : Element} {nodes : List Node} {a : Account}
    (h : Built setup path stack (.occurrence e) nodes a) (hgoing : a.stop = none) (hopen : s.openTypes = stack) :
    cutType? setup s (.element e) = none := by
  have hsame : ∀ {type : ResolvedType} {t : RunState}, setup.schema.resolveType e = .ok type →
      t.openTypes = stack → refused? setup t type = none → cutType? setup s (.element e) = none := by
    intro type t htype hopent hadmitted
    unfold cutType?
    dsimp only
    rw [htype]
    exact (refused?_congr (hopen.trans hopent.symm) type).trans hadmitted
  cases h with
  | missing => cases hgoing
  | flat htype hopent hadmitted => exact hsame htype hopent hadmitted
  | nested htype hopent hadmitted => exact hsame htype hopent hadmitted

theorem Built.completes_element {stack : List String} {force : Bool} {e : Element} {nodes : List Node}
    {a : Account} (h : Built setup path stack (.element force e) nodes a) (hclean : Clean a)
    (hopen : s.openTypes = stack) : completes setup s path force (.element e) = true := by
  unfold completes
  rw [Bool.or_eq_true, beq_iff_eq, Option.isNone_iff_eq_none]
  cases h with
  | cut =>
      have hcuts := hclean.cuts
      cases hcuts
  | occurrences hrow =>
      by_cases hleast : leastOccurs e.minOccurs force = 0
      · exact .inl hleast
      · have hcount := leastOccurs_le_occurrenceCount setup e (joinPath path e.name)
          (setup.plan.rule? e.name (joinPath path e.name)) force
        obtain ⟨own, b, hbuilt, hcleanOwn⟩ := hrow.clean_of_mem hclean (.occurrence e)
          (List.mem_replicate.2 ⟨by omega, rfl⟩)
        exact .inr (hbuilt.admitted_of_occurrence hcleanOwn.going hopen)

/-- A member of which nothing is missing when it was built is complete. -/
theorem Built.completes {stack : List String} (hopen : s.openTypes = stack) :
    ∀ p force nodes a, Built setup path stack (.ofParticle force p) nodes a → Clean a →
      Walk.completes setup s path force p = true := by
  refine (tree_induction (E := fun _ => True)
    (G := fun g => ∀ force nodes a, Built setup path stack (.group force g) nodes a → Clean a →
      groupCompletes setup s path force g = true)
    (fun _ => trivial) (fun _ _ _ => trivial) ?_ ?_ ?_).2.2
  · intro decl members ih force nodes a h hclean
    unfold groupCompletes
    rw [Bool.or_eq_true, beq_iff_eq]
    by_cases hcount : groupCount setup (.mk decl members) path force = 0
    · exact .inl hcount
    · right
      cases h with
      | repetitions hrow =>
          obtain ⟨own, b, hbuilt, hcleanOwn⟩ := hrow.clean_of_mem hclean (.repetition (.mk decl members))
            (List.mem_replicate.2 ⟨hcount, rfl⟩)
          cases hbuilt with
          | all hkind hmembers =>
              have hall : allComplete setup s path members = true := by
                rw [allComplete_eq_all, List.all_eq_true]
                intro p hp
                obtain ⟨_, _, hp', hcleanp⟩ :=
                  hmembers.clean_of_mem hcleanOwn _ (List.mem_map.2 ⟨p, hp, rfl⟩)
                exact ih p hp false _ _ hp' hcleanp
              split
              · rename_i hchoice
                exact absurd hchoice hkind
              · exact hall
          | @branch _ _ _ p _ _ _ hkind hmember _ _ hbranch =>
              have hany : anyCompletes setup s path members = true := by
                rw [anyCompletes_eq_any, List.any_eq_true]
                exact ⟨p, hmember, ih p hmember true _ _ hbranch hcleanOwn⟩
              rw [show decl.kind = .choice from hkind]
              exact Bool.or_eq_true_iff.2 (.inr hany)
          | empty hkind hempty =>
              rw [show decl.kind = .choice from hkind, show members = [] from hempty]
              rfl
          | bare =>
              have hbare := hcleanOwn.bare
              cases hbare
  · intro e _ force nodes a h hclean
    exact h.completes_element hclean hopen
  · intro g ih force nodes a h hclean
    unfold Walk.completes
    exact ih force nodes a h hclean

/-! ## What a choice takes -/

theorem chooseFreely_returns (setup : Setup) (path : String) (branches : List Branch) (s : RunState) :
    ∃ chosen t, (chooseFreely setup path branches).exec s = (.ok chosen, t) := by
  unfold chooseFreely
  split
  · exact ⟨_, _, rfl⟩
  · exact ⟨_, _, rfl⟩

theorem chooseBranch_returns (setup : Setup) (path : String) (rule : Option ElementRule) (members : List Particle)
    (s : RunState) : ∃ chosen t, (chooseBranch setup path rule members).exec s = (.ok chosen, t) := by
  unfold chooseBranch
  rw [exec_get_bind, exec_bind_of_ok (show (followAll _).exec s = (.ok (), _) from rfl)]
  dsimp only
  split
  · exact ⟨_, _, rfl⟩
  · split
    · exact chooseFreely_returns setup path _ _
    · split
      · exact ⟨_, _, rfl⟩
      · rw [exec_bind_of_ok (show (warn _).exec _ = (.ok (), _) from rfl)]
        exact chooseFreely_returns setup path _ _

/-- A member that is complete is one that a choice can take. -/
theorem eligible_ne_nil_of_completes {members : List Particle} {p : Particle} (hp : p ∈ members)
    (hcomplete : completes setup s path true p = true) : eligible setup s members ≠ [] := by
  intro hnone
  have hcut := cut_of_eligible_eq_nil hnone p hp
  cases p with
  | element e =>
      rw [completes_element_forced, Option.isNone_iff_eq_none] at hcomplete
      rw [hcomplete] at hcut
      cases hcut
  | group g => cases hcut

/-- Whatever is configured and whatever the state is, a choice comes to a decision.  It is without a branch only if
none of its members is complete, and what it takes is complete unless that is a group in which the guard cuts off
something.  So where no group among the members is cut in this way, a choice with a complete member takes a complete
member. -/
theorem chosen_branch_complete (setup : Setup) (path : String) (rule : Option ElementRule)
    (members : List Particle) (s : RunState) :
    ∃ chosen t, (chooseBranch setup path rule members).exec s = (.ok chosen, t) ∧
      (chosen = none → ∀ p ∈ members, completes setup s path true p = false) ∧
      (∀ position, chosen = some position → ∃ p, members[position]? = some p ∧
        (completes setup s path true p = true ∨
          ∃ g, p = .group g ∧ groupCompletes setup s path true g = false)) ∧
      ((∀ g, .group g ∈ members → groupCompletes setup s path true g = true) →
        (∃ p ∈ members, completes setup s path true p = true) →
          ∃ position p, chosen = some position ∧ members[position]? = some p ∧
            completes setup s path true p = true) := by
  obtain ⟨chosen, t, hrun⟩ := chooseBranch_returns setup path rule members s
  have hnone : chosen = none → ∀ p ∈ members, completes setup s path true p = false := by
    rintro rfl p hp
    rw [← Bool.not_eq_true]
    intro hcomplete
    rcases chooseBranch_admits hrun with ⟨-, hempty⟩ | ⟨b, -, hb⟩
    · exact eligible_ne_nil_of_completes hp hcomplete hempty
    · cases hb
  have hsome : ∀ position, chosen = some position → ∃ p, members[position]? = some p ∧
      (completes setup s path true p = true ∨
        ∃ g, p = .group g ∧ groupCompletes setup s path true g = false) := by
    rintro position rfl
    rcases chooseBranch_admits hrun with ⟨hb, -⟩ | ⟨⟨p, position'⟩, hb, hposition⟩
    · cases hb
    · cases hposition
      have hadmitted : cutType? setup s p = none := by simpa using (List.mem_filter.1 hb).2
      refine ⟨p, getElem?_of_mem_eligible hb, ?_⟩
      cases p with
      | element e =>
          rw [completes_element_forced, hadmitted]
          exact .inl rfl
      | group g =>
          rw [completes]
          cases hg : groupCompletes setup s path true g with
          | true => exact .inl rfl
          | false => exact .inr ⟨g, rfl, hg⟩
  refine ⟨chosen, t, hrun, hnone, hsome, ?_⟩
  rintro hgroups ⟨p, hp, hcomplete⟩
  cases hchosen : chosen with
  | none =>
      rw [hnone hchosen p hp] at hcomplete
      cases hcomplete
  | some position =>
      obtain ⟨q, hq, hqcomplete | ⟨g, rfl, hg⟩⟩ := hsome position hchosen
      · exact ⟨position, q, rfl, hq, hqcomplete⟩
      · rw [hgroups g (List.mem_of_getElem? hq)] at hg
        cases hg

end Walk

namespace Generation

/-! ## Twigs -/

/-- An element that contains itself. -/
def twigElement : Element := .mk { name := "Twig", typeRef := some "Twig" } none

/-- An element that contains nothing. -/
def budElement : Element := .mk { name := "Bud", typeRef := some "xs:string", fixed := some "x" } none

/-- The content of a twig: a branch with another twig, or something else. -/
def twigContent (branch : Particle) : Group := .mk { kind := .choice } [branch, .element budElement]

/-- A branch that has another twig in a group of its own. -/
def bunch : Particle := .group (.mk { kind := .sequence } [.element twigElement])

def twigSchema (branch : Particle) : Schema where
  version := "1"
  elements := [twigElement]
  types := [{ name := "Twig", content := some (twigContent branch) }]

/-- A configuration that lets no element of a type be inside another one. -/
def shallowConfig : Config where
  settings := { maxDepth := 1 }

/-- A state inside a twig. -/
def insideTwig (setup : Setup) : RunState := (beginning setup twigElement 0).pushType "Twig"

/-- Which members of a choice inside a twig are complete. -/
def twigsComplete (setup : Setup) (branch : Particle) : List Bool :=
  (twigContent branch).members.map (Walk.completes setup (insideTwig setup) "Twig" true)

/-- What a choice takes inside a twig. -/
def twigChoice (setup : Setup) (branch : Particle) : Except RunError (Option Nat) :=
  ((Walk.chooseBranch setup "Twig" none (twigContent branch).members).exec (insideTwig setup)).1

/-- Inside a twig another one would be cut off, and the choice takes the bud. -/
theorem chosen_branch_complete_twig : ∃ setup root position p,
    prepare (twigSchema (.element twigElement)) shallowConfig {} = .ok (setup, root) ∧
      twigsComplete setup (.element twigElement) = [false, true] ∧
      twigChoice setup (.element twigElement) = .ok (some position) ∧
      (twigContent (.element twigElement)).members[position]? = some p ∧
      Walk.completes setup (insideTwig setup) "Twig" true p = true := by
  have hcomputed : (match prepare (twigSchema (.element twigElement)) shallowConfig {} with
      | .ok (setup, _) => twigsComplete setup (.element twigElement) == [false, true]
      | .error _ => false) = true := by decide +kernel
  split at hcomputed
  · rename_i setup root hprepared
    have hcompletes : twigsComplete setup (.element twigElement) = [false, true] := eq_of_beq hcomputed
    have hbud : Walk.completes setup (insideTwig setup) "Twig" true (.element budElement) = true :=
      (List.cons.inj (List.cons.inj hcompletes).2).1
    obtain ⟨chosen, t, hrun, -, -, htaken⟩ := Walk.chosen_branch_complete setup "Twig" none
      (twigContent (.element twigElement)).members (insideTwig setup)
    have hgroups : ∀ g, .group g ∈ (twigContent (.element twigElement)).members →
        Walk.groupCompletes setup (insideTwig setup) "Twig" true g = true := by
      intro g hg
      simp [twigContent, Group.members] at hg
    obtain ⟨position, p, rfl, hp, hcomplete⟩ := htaken hgroups
      ⟨.element budElement, List.mem_cons_of_mem _ List.mem_cons_self, hbud⟩
    exact ⟨setup, root, position, p, hprepared, hcompletes, congrArg Prod.fst hrun, hp, hcomplete⟩
  · cases hcomputed

/-- When the other twig is in a group, the choice takes it although a bud would be complete, and the document that
is generated has an empty twig inside. -/
theorem cut_twig_chosen : ∃ setup root made,
    prepare (twigSchema bunch) shallowConfig {} = .ok (setup, root) ∧
      run (twigSchema bunch) shallowConfig {} 0 = .ok made ∧
      twigsComplete setup bunch = [false, true] ∧ twigChoice setup bunch = .ok (some 0) ∧
      made.document.elements.map (fun n => (n.name, n.head.truncated)) = [("Twig", true)] := by
  have hcomputed : (match prepare (twigSchema bunch) shallowConfig {} with
      | .ok (setup, root) =>
        twigsComplete setup bunch == [false, true] &&
        ((match twigChoice setup bunch with
          | .ok chosen => chosen == some 0
          | .error _ => false) &&
        match (walk setup root (seedOf setup 0)).1 with
        | .ok made => made.document.elements.map (fun n => (n.name, n.head.truncated)) == [("Twig", true)]
        | .error _ => false)
      | .error _ => false) = true := by decide +kernel
  split at hcomputed
  · rename_i setup root hprepared
    rw [Bool.and_eq_true, Bool.and_eq_true, beq_iff_eq] at hcomputed
    obtain ⟨hcompletes, hchoice, hmade⟩ := hcomputed
    have hchosen : twigChoice setup bunch = .ok (some 0) := by
      split at hchoice
      · rename_i chosen hchosen
        rw [hchosen, eq_of_beq hchoice]
      · cases hchoice
    split at hmade
    · rename_i made hwalk
      have hrun : run (twigSchema bunch) shallowConfig {} 0 = .ok made := by
        unfold run
        rw [hprepared]
        exact hwalk
      exact ⟨setup, root, made, hprepared, hrun, hcompletes, hchosen, eq_of_beq hmade⟩
    · cases hmade
  · cases hcomputed

end Generation
end Specimen
