import Specimen.Proofs.Run.Unfinished

/-!
# What is cut off and what is reported

The recursion guard can take something away in two ways.  An element whose type it refuses is left out or
replaced by empty elements, and each time a notice says so.  And a choice passes over the members that the guard
refuses; when these are all of its members, nothing is left to take and no notice is given.  So the notices are
complete where a choice always has a member that the guard admits.
-/

namespace Specimen

/-- A group is the same as another one or is in it. -/
inductive Group.Holds : Group → Group → Prop where
  | self (g : Group) : Holds g g
  | inside {g inner h : Group} (hmember : .group inner ∈ g.members) (hholds : Holds inner h) : Holds g h

theorem Group.Holds.member {g h inner : Group} (hholds : g.Holds h) (hmember : .group inner ∈ h.members) :
    g.Holds inner := by
  induction hholds with
  | self g => exact .inside hmember (.self inner)
  | inside hfirst _ ih => exact .inside hfirst (ih hmember)

theorem mem_declared_of_member {g : Group} {p : Particle} (hp : p ∈ g.members) {e : Element}
    (he : e ∈ p.declared) : e ∈ g.declared := by
  cases g with
  | mk decl members => exact mem_declaredAmong hp he

theorem Group.Holds.declared {g h : Group} (hholds : g.Holds h) : ∀ e ∈ h.declared, e ∈ g.declared := by
  induction hholds with
  | self g => exact fun _ he => he
  | inside hmember _ ih => exact fun e he => mem_declared_of_member hmember (ih e he)

namespace Walk

/-- Wherever the walk can come, the guard admits a member of each choice that has members. -/
def BranchesAdmitted (setup : Setup) (root : Element) : Prop :=
  ∀ path stack g h, Enters setup root path stack g → g.Holds h → h.kind = .choice → h.members ≠ [] →
    ∀ s : RunState, s.openTypes = stack → ∃ p ∈ h.members, cutType? setup s p = none

mutual

/-- The walk can be asked for a task below a path, while certain types are open. -/
def Task.MayCome (setup : Setup) (root : Element) (path : String) (stack : List String) : Task → Prop
  | .element _ e => Visits setup root (joinPath path e.name) stack e
  | .occurrence e => Visits setup root (joinPath path e.name) stack e
  | .group _ h => ∃ g, Enters setup root path stack g ∧ g.Holds h
  | .repetition h => ∃ g, Enters setup root path stack g ∧ g.Holds h
  | .row tasks => AllMayCome setup root path stack tasks

/-- The walk can be asked for each of several tasks. -/
def AllMayCome (setup : Setup) (root : Element) (path : String) (stack : List String) : List Task → Prop
  | [] => True
  | task :: rest => task.MayCome setup root path stack ∧ AllMayCome setup root path stack rest

end

variable {setup : Setup} {root : Element} {path : String} {stack : List String}

theorem allMayCome_replicate {task : Task} (h : task.MayCome setup root path stack) (count : Nat) :
    AllMayCome setup root path stack (List.replicate count task) := by
  induction count with
  | zero => trivial
  | succ count ih => exact ⟨h, ih⟩

/-- The walk can come to each member of a group that it can come to. -/
theorem mayCome_member {g h : Group} (henters : Enters setup root path stack g) (hholds : g.Holds h)
    {p : Particle} (hp : p ∈ h.members) (force : Bool) :
    (Task.ofParticle force p).MayCome setup root path stack := by
  cases p with
  | element e =>
      have he : e ∈ h.declared := mem_declared_of_member hp (List.mem_singleton_self e)
      exact henters.visitsAll e (hholds.declared e he)
  | group inner => exact ⟨g, henters, hholds.member hp⟩

theorem allMayCome_map {members : List Particle}
    (h : ∀ p ∈ members, (Task.ofParticle false p).MayCome setup root path stack) :
    AllMayCome setup root path stack (members.map (.ofParticle false)) := by
  induction members with
  | nil => trivial
  | cons p rest ih =>
      exact ⟨h p List.mem_cons_self, ih fun q hq => h q (List.mem_cons_of_mem p hq)⟩

/-- Where the guard admits a member of each choice, no choice has to go without a branch. -/
theorem Built.bare_eq_nil (hbranches : BranchesAdmitted setup root) {task : Task} {nodes : List Node}
    {a : Account} (h : Built setup path stack task nodes a) (hcome : task.MayCome setup root path stack) :
    a.bare = [] := by
  induction h with
  | missing | flat | cut | empty | done => rfl
  | @nested path stack e type g n a s htype hopen hadmitted _ _ hcontent _ _ _ ih =>
      have henters : Enters setup root (joinPath path e.name) (type.identity.toList ++ stack) g :=
        ⟨e, stack, type, hcome, htype, hcontent, ⟨s, hopen, hadmitted⟩, rfl⟩
      exact ih ⟨g, henters, .self g⟩
  | @occurrences _ _ _ e _ _ _ ih => exact ih (@allMayCome_replicate _ _ _ _ (.occurrence e) hcome _)
  | @repetitions _ _ _ g _ _ _ ih => exact ih (@allMayCome_replicate _ _ _ _ (.repetition g) hcome _)
  | all _ _ ih =>
      obtain ⟨g, henters, hholds⟩ := hcome
      exact ih (allMayCome_map fun p hp => mayCome_member henters hholds hp false)
  | branch _ hmember _ _ _ ih =>
      obtain ⟨g, henters, hholds⟩ := hcome
      exact ih (mayCome_member henters hholds hmember true)
  | @bare path stack h s hkind hmembers hopen hcut =>
      obtain ⟨g, henters, hholds⟩ := hcome
      obtain ⟨p, hp, hadmitted⟩ := hbranches path stack g h henters hholds hkind hmembers s hopen
      have hrefused := hcut p hp
      rw [hadmitted] at hrefused
      cases hrefused
  | last _ _ ih => exact ih hcome.1
  | next _ _ _ ihfirst ihrest =>
      rw [Account.bare_append, ihfirst hcome.1, ihrest hcome.2]
      rfl

/-- When no choice had to go without a branch, each repetition of a choice with members is what one of them
was built to. -/
theorem Built.takes_branch {g : Group} {nodes : List Node} {a : Account}
    (h : Built setup path stack (.repetition g) nodes a) (hkind : g.kind = .choice) (hmembers : g.members ≠ [])
    (hbare : a.bare = []) : ∃ p ∈ g.members, Built setup path stack (.ofParticle true p) nodes a := by
  cases h with
  | all hnot => exact absurd hkind hnot
  | branch _ hmember _ _ hbranch => exact ⟨_, hmember, hbranch⟩
  | empty _ hnone => exact absurd hnone hmembers
  | bare => cases hbare

end Walk

namespace Generation

variable {options : Options} {a : Account} {r : Report}

theorem Shows.depthLimits (h : Shows options a r) (hcuts : ∀ n ∈ a.cuts, n.code = "depth_limit") :
    r.truncations.toList.filter (·.code == "depth_limit") = a.cuts := by
  have hall : a.cuts.filter (·.code == "depth_limit") = a.cuts :=
    List.filter_eq_self.2 fun n hn => beq_iff_eq.2 (hcuts n hn)
  rw [h.truncations, List.filter_append, hall]
  cases a.stop with
  | none => exact List.append_nil _
  | some stop => exact List.append_nil _

/-- A report without truncations on a document that is not unfinished leaves nothing to account for. -/
theorem Shows.nothing_cut (h : Shows options a r) (hwhole : r.isPartial = false)
    (hnone : r.truncations = #[]) : a.cuts = [] ∧ a.stop = none := by
  constructor
  · have hempty := h.truncations
    rw [hnone] at hempty
    exact (List.append_eq_nil_iff.1 hempty.symm).1
  · rw [h.isPartial] at hwhole
    simpa using hwhole

/-- Every run that gives a document reports what the recursion guard has cut off: the notices of a depth limit
are those of the elements that were left out or replaced since their type was refused, one for each and in the
order of the document.  Only where the guard refuses all members of a choice is something missing without a
notice, and this happens nowhere if wherever the walk can come the guard admits a member of each choice.  So if
the document is not unfinished and the report has no truncations, nothing else is missing, and then each
repetition of a choice with members is what one of them was built to. -/
theorem cuts_reported (schema : Schema) (config : Config) (options : Options) (setup : Setup) (root : Element)
    (hprepared : prepare schema config options = .ok (setup, root)) (seed : UInt64) (rng : Random.Rng)
    (made : Generated) (trace : Trace)
    (hrun : walkFrom setup root (firstState setup root seed rng) = (.ok made, trace)) :
    ∃ nodes a, Walk.Built setup "" [] (.occurrence root) nodes a ∧
      (nodes = [made.document] ∨ nodes = [] ∧ made.document = Walk.emptyRoot setup root) ∧
      made.report.truncations.toList.filter (·.code == "depth_limit") = a.cuts ∧
      (Walk.BranchesAdmitted setup root → a.bare = []) ∧
      (made.report.isPartial = false → made.report.truncations = #[] →
        nodes = [made.document] ∧ a.cuts = [] ∧ a.stop = none) ∧
      ∀ path stack g built b, Walk.Built setup path stack (.repetition g) built b → g.kind = .choice →
        g.members ≠ [] → b.bare = [] →
          ∃ p ∈ g.members, Walk.Built setup path stack (.ofParticle true p) built b := by
  obtain ⟨nodes, a, hbuilt, hshows, hnodes⟩ := exists_account hprepared hrun
  refine ⟨nodes, a, hbuilt, hnodes, hshows.depthLimits hbuilt.cuts_code,
    fun hbranches => hbuilt.bare_eq_nil hbranches .root, fun hwhole hnone => ?_,
    fun path stack g built b h => h.takes_branch⟩
  obtain ⟨hcuts, hstop⟩ := hshows.nothing_cut hwhole hnone
  refine ⟨?_, hcuts, hstop⟩
  rcases hnodes with hnodes | ⟨rfl, -⟩
  · exact hnodes
  · cases hbuilt
    cases hstop

/-! ## Chains -/

/-- An element that contains itself. -/
def chainElement : Element := .mk { name := "Chain", typeRef := some "Chain" } none

/-- An element that ends a chain. -/
def endElement : Element := .mk { name := "End", typeRef := some "xs:string", fixed := some "x" } none

/-- The content of a chain: another chain, or something else. -/
def chainContent (others : List Particle) : Group :=
  .mk { kind := .choice } (.element chainElement :: others)

/-- A schema in which an element contains itself, as one of the members of a choice. -/
def chainSchema (others : List Particle) : Schema where
  version := "1"
  elements := [chainElement]
  types := [{ name := "Chain", content := some (chainContent others) }]

theorem resolveType_chainElement (others : List Particle) :
    (chainSchema others).resolveType chainElement =
      .ok { identity := some "Chain", content := .complex (chainContent others), attributes := [] } := rfl

theorem resolveType_endElement (others : List Particle) :
    (chainSchema others).resolveType endElement =
      .ok { identity := none, content := .builtin .string, attributes := [] } := rfl

/-- A chain that can end is nowhere without a branch. -/
theorem branchesAdmitted_chain {setup : Setup} (hschema : setup.schema = chainSchema [.element endElement]) :
    Walk.BranchesAdmitted setup chainElement := by
  have hcontent : ∀ e type g, e ∈ [chainElement, endElement] → setup.schema.resolveType e = .ok type →
      type.content = .complex g → g = chainContent [.element endElement] := by
    intro e type g he hresolve hcontent
    rw [hschema] at hresolve
    simp only [List.mem_cons, List.not_mem_nil, or_false] at he
    rcases he with rfl | rfl
    · cases (resolveType_chainElement _).symm.trans hresolve
      cases hcontent
      rfl
    · cases (resolveType_endElement _).symm.trans hresolve
      cases hcontent
  have hvisits : ∀ path stack e, Walk.Visits setup chainElement path stack e →
      e ∈ [chainElement, endElement] := by
    intro path stack e h
    induction h with
    | root => exact List.mem_cons_self
    | child _ hresolve hcomplex _ hc ih =>
        rw [hcontent _ _ _ ih hresolve hcomplex] at hc
        exact hc
  rintro path stack g h ⟨e, outer, type, he, hresolve, hcomplex, -, -⟩ hholds - - s -
  rw [hcontent e type g (hvisits _ _ e he) hresolve hcomplex] at hholds
  cases hholds with
  | inside hmember => simp [chainContent, Group.members] at hmember
  | self =>
      refine ⟨.element endElement, List.mem_cons_of_mem _ List.mem_cons_self, ?_⟩
      unfold Walk.cutType?
      dsimp only
      rw [hschema, resolveType_endElement]
      rfl

theorem cuts_reported_chain : ∃ setup root made trace,
    prepare (chainSchema [.element endElement]) pairConfig {} = .ok (setup, root) ∧
      walkFrom setup root (beginning setup root 0) = (.ok made, trace) ∧
      made.report.isPartial = false ∧ made.report.truncations = #[] ∧
      ∃ nodes a, Walk.Built setup "" [] (.occurrence root) nodes a ∧ nodes = [made.document] ∧
        a.cuts = [] ∧ a.stop = none ∧ a.bare = [] := by
  have hcomputed : (match run (chainSchema [.element endElement]) pairConfig {} 0 with
      | .ok made => !made.report.isPartial && made.report.truncations.isEmpty
      | .error _ => false) = true := by decide +kernel
  split at hcomputed
  · rename_i made hmade
    rw [Bool.and_eq_true, Bool.not_eq_true', Array.isEmpty_iff] at hcomputed
    obtain ⟨hwhole, hnone⟩ := hcomputed
    obtain ⟨setup, root, trace, hprepared, hrun⟩ := walkFrom_of_run hmade
    have h := prepared_of_prepare hprepared
    obtain rfl : root = chainElement := by simpa [chainSchema] using h.root_mem
    obtain ⟨nodes, a, hbuilt, -, -, hbare, hall, -⟩ := cuts_reported (chainSchema [.element endElement])
      pairConfig {} setup chainElement hprepared _ _ made trace hrun
    obtain ⟨hnodes, hcuts, hstop⟩ := hall hwhole hnone
    exact ⟨setup, chainElement, made, trace, hprepared, hrun, hwhole, hnone, nodes, a, hbuilt, hnodes, hcuts,
      hstop, hbare (branchesAdmitted_chain h.schema_eq)⟩
  · cases hcomputed

/-- A chain that cannot end is cut off without a notice.  The run is not unfinished and reports no truncation,
and the element that the content model asks for, in one repetition of a choice, is missing from the document. -/
theorem bare_choice_unreported : ∃ setup root made,
    prepare (chainSchema []) pairConfig {} = .ok (setup, root) ∧
      run (chainSchema []) pairConfig {} 0 = .ok made ∧
      made.report.isPartial = false ∧ made.report.truncations = #[] ∧
      (∃ type, (chainSchema []).resolveType root = .ok type ∧ type.content = .complex (chainContent [])) ∧
      (chainContent []).kind = .choice ∧ (chainContent []).members = [.element chainElement] ∧
      chainElement.minOccurs = 1 ∧ Walk.groupCount setup (chainContent []) "Chain/Chain" false = 1 ∧
      made.document.elements.map (fun n => (n.name, n.head.nil, n.elements.length)) =
        [("Chain", false, 0)] := by
  have hcomputed : (match prepare (chainSchema []) pairConfig {} with
      | .ok (setup, root) => Walk.groupCount setup (chainContent []) "Chain/Chain" false == 1 &&
        (match (walk setup root (seedOf setup 0)).1 with
          | .ok made => !made.report.isPartial && (made.report.truncations.isEmpty &&
              made.document.elements.map (fun n => (n.name, n.head.nil, n.elements.length)) ==
                [("Chain", false, 0)])
          | .error _ => false)
      | .error _ => false) = true := by decide +kernel
  split at hcomputed
  · rename_i setup root hprepared
    rw [Bool.and_eq_true, beq_iff_eq] at hcomputed
    obtain ⟨hcount, hmade⟩ := hcomputed
    split at hmade
    · rename_i made hwalk
      rw [Bool.and_eq_true, Bool.and_eq_true, Bool.not_eq_true', Array.isEmpty_iff, beq_iff_eq] at hmade
      obtain ⟨hwhole, hnone, hchildren⟩ := hmade
      have hroot := (prepared_of_prepare hprepared).root_mem
      obtain rfl : root = chainElement := by simpa [chainSchema] using hroot
      have hrun : run (chainSchema []) pairConfig {} 0 = .ok made := by
        unfold run
        rw [hprepared]
        exact hwalk
      exact ⟨setup, chainElement, made, hprepared, hrun, hwhole, hnone,
        ⟨_, resolveType_chainElement [], rfl⟩, rfl, rfl, rfl, hcount, hchildren⟩
    · cases hmade
  · cases hcomputed

end Generation
end Specimen
