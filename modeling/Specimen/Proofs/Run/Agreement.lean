import Specimen.Proofs.Run.Cuts
import Specimen.Proofs.Run.Recursion
import Specimen.Proofs.Run.Unfinished
import Specimen.Proofs.Walk.Books
import Specimen.Proofs.Walk.Stubs

/-!
# Reports that agree with their documents

The counts of a report are those of the document that was made with it, and they belong together: the elements that
were begun are those that are not stubs, one for each step, the attributes are all there, and what is counted in
several ways adds up.  This holds of unfinished documents as well.

The budget of a run is one of elements that are begun.  A stub is not begun: where the guard refuses the type of a
required element, the document has as many stubs as the element has required occurrences, and none of them takes a
step.  So a document has at most as many elements as there are steps besides its stubs, and stubs are all that can
make it larger.
-/

namespace Specimen
namespace Generation

variable {schema : Schema} {config : Config} {options : Options} {setup : Setup} {root : Element}

end Generation

/-! ## How large documents become -/

namespace Walk

variable {setup : Setup} {root : Element} {path : String} {stack : List String}

/-- Wherever the walk can come, the guard refuses only what may be left out. -/
def RefusesOptional (setup : Setup) (root : Element) : Prop :=
  ∀ path stack e, Visits setup root path stack e → RefusesElement setup stack e → e.minOccurs = 0

/-- Where the guard refuses only what may be left out, every element was begun. -/
theorem Built.length_heads_eq (hoptional : RefusesOptional setup root) {task : Task} {nodes : List Node}
    {a : Account} (h : Built setup path stack task nodes a) (hcome : task.MayCome setup root path stack) :
    (nodes.flatMap Node.heads).length = a.elements := by
  induction h with
  | missing | empty | bare | done => rfl
  | flat _ _ _ _ _ hchildren =>
      rw [List.flatMap_singleton, length_heads, hchildren]
      rfl
  | @nested path stack e type g n a s htype hopen hadmitted _ _ hcontent _ _ _ ih =>
      have henters : Enters setup root (joinPath path e.name) (type.identity.toList ++ stack) g :=
        ⟨e, stack, type, hcome, htype, hcontent, ⟨s, hopen, hadmitted⟩, rfl⟩
      rw [List.flatMap_singleton, length_heads, ih ⟨g, henters, .self g⟩]
      rfl
  | @cut path stack force e type identity s htype hopen hrefused =>
      have hrefuses : RefusesElement setup stack e := ⟨type, s, htype, hopen, by rw [hrefused]; rfl⟩
      rw [hoptional _ stack e hcome hrefuses]
      rfl
  | @occurrences _ _ _ e _ _ _ ih => exact ih (@allMayCome_replicate _ _ _ _ (.occurrence e) hcome _)
  | @repetitions _ _ _ g _ _ _ ih => exact ih (@allMayCome_replicate _ _ _ _ (.repetition g) hcome _)
  | all _ _ ih =>
      obtain ⟨g, henters, hholds⟩ := hcome
      exact ih (allMayCome_map fun p hp => mayCome_member henters hholds hp false)
  | branch _ hmember _ _ _ ih =>
      obtain ⟨g, henters, hholds⟩ := hcome
      exact ih (mayCome_member henters hholds hmember true)
  | last _ _ ih => exact ih hcome.1
  | next _ _ _ ihfirst ihrest =>
      rw [List.flatMap_append, List.length_append, ihfirst hcome.1, ihrest hcome.2, Account.elements_append]

/-- In a schema without recursive types the guard refuses nothing at all. -/
theorem refusesOptional_of_acyclic (hdepth : 1 ≤ setup.plan.settings.maxDepth.toNat)
    (hnone : setup.schema.typeGraph.recursive = []) (root : Element) : RefusesOptional setup root := by
  rintro path stack e hvisits ⟨type, s, hresolve, hopen, hrefused⟩
  obtain ⟨identity, hidentity⟩ := Option.isSome_iff_exists.1 hrefused
  have hrecursive : identity ∈ setup.schema.typeGraph.recursive :=
    refusesIn_recursive hdepth root hvisits hresolve hopen hidentity
  rw [hnone] at hrecursive
  cases hrecursive

end Walk

namespace Generation

variable {schema : Schema} {config : Config} {options : Options} {setup : Setup} {root : Element}

/-- No more elements are begun than the budget has steps. -/
theorem Shows.elements_le_steps {a : Account} {r : Report} (h : Shows options a r) :
    r.elements ≤ options.maxSteps.toNat := by
  rw [h.elements]
  rcases Nat.eq_zero_or_pos a.elements with hzero | hpos
  · rw [hzero]
    exact Nat.zero_le _
  · have hwithin := h.taken hpos
    rw [Options.isExceededBy, Bool.or_eq_false_iff, decide_eq_false_iff_not] at hwithin
    exact Nat.le_of_not_lt hwithin.1

/-- So many elements of a document stand where the guard refuses a type.  There are none if there was no step for
the root. -/
def HasRefused (setup : Setup) (root : Element) (document : Node) (count : Nat) : Prop :=
  Walk.Stubs setup [] root document count ∨ document = Walk.emptyRoot setup root ∧ count = 0

/-- Every run with a budget of at least one step that gives a document has begun at most as many elements as the
budget has steps, and the document has at most these and the stubs that stand where the guard refuses a type.  So
it has at most as many elements as the budget has steps if, wherever the walk can come, the guard refuses only
elements that may be left out. -/
theorem extent_within_steps (schema : Schema) (config : Config) (options : Options) (freshSeed : UInt64)
    (made : Generated) (hsteps : 1 ≤ options.maxSteps.toNat)
    (hrun : run schema config options freshSeed = .ok made) :
    ∃ setup root refused, prepare schema config options = .ok (setup, root) ∧
      made.report.elements ≤ options.maxSteps.toNat ∧
      HasRefused setup root made.document refused ∧
      made.document.heads.length ≤ options.maxSteps.toNat + refused ∧
      (Walk.RefusesOptional setup root → made.document.heads.length ≤ options.maxSteps.toNat) := by
  obtain ⟨setup, root, trace, hprepared, hwalk⟩ := walkFrom_of_run hrun
  obtain ⟨nodes, a, hbuilt, hshows, hnodes⟩ := exists_account hprepared hwalk
  have hbegun := hshows.elements_le_steps
  rcases hnodes with rfl | ⟨rfl, hempty⟩
  · have hroot : ∀ e ∈ (Walk.Task.occurrence root).declared, e ∈ [root] := fun _ he => he
    obtain ⟨count, hstubs, hlength⟩ := hbuilt.stubs hroot
    rw [List.flatMap_singleton, ← hshows.elements] at hlength
    cases hstubs with
    | @cons _ _ _ _ _ first _ he hfirst hrest =>
        cases hrest
        rw [List.mem_singleton.1 he] at hfirst
        refine ⟨setup, root, first, hprepared, hbegun, .inl hfirst, by omega, fun hoptional => ?_⟩
        have hall := hbuilt.length_heads_eq hoptional .root
        rw [List.flatMap_singleton, ← hshows.elements] at hall
        rwa [hall]
  · -- without a step for the root, the document is an empty root
    have hone : made.document.heads.length = 1 := by
      rw [hempty]
      rfl
    exact ⟨setup, root, 0, hprepared, hbegun, .inr ⟨hempty, rfl⟩, by omega, fun _ => by omega⟩

/-- A stub makes five elements out of four steps; without recursive types five steps make at most five. -/
theorem extent_within_steps_nest :
    (∃ made, 1 ≤ ({ maxSteps := 4 } : Options).maxSteps.toNat ∧
      run nestSchema pairConfig { maxSteps := 4 } 0 = .ok made ∧ made.document.heads.length = 5 ∧
      ∃ setup root refused, prepare nestSchema pairConfig { maxSteps := 4 } = .ok (setup, root) ∧
        made.report.elements ≤ 4 ∧ HasRefused setup root made.document refused ∧
        made.document.heads.length ≤ 4 + refused) ∧
    ∃ setup root made, prepare legSchema {} { maxSteps := 5 } = .ok (setup, root) ∧
      run legSchema {} { maxSteps := 5 } 0 = .ok made ∧ Walk.RefusesOptional setup root ∧
      made.document.heads.length ≤ 5 := by
  constructor
  · have hcomputed : (match run nestSchema pairConfig { maxSteps := 4 } 0 with
        | .ok made => made.document.heads.length == 5
        | .error _ => false) = true := by decide +kernel
    split at hcomputed
    · rename_i made hmade
      obtain ⟨setup, root, refused, hprepared, hbegun, hrefused, hextent, -⟩ :=
        extent_within_steps nestSchema pairConfig { maxSteps := 4 } 0 made (by decide) hmade
      exact ⟨made, by decide, hmade, eq_of_beq hcomputed, setup, root, refused, hprepared, hbegun, hrefused,
        hextent⟩
    · cases hcomputed
  · have hcomputed : (match run legSchema {} { maxSteps := 5 } 0 with
        | .ok _ => true
        | .error _ => false) = true := by decide +kernel
    split at hcomputed
    · rename_i made hmade
      obtain ⟨setup, root, refused, hprepared, -, -, -, hoptional⟩ :=
        extent_within_steps legSchema {} { maxSteps := 5 } 0 made (by decide) hmade
      have h := prepared_of_prepare hprepared
      have hacyclic : setup.schema.typeGraph.recursive = [] := by
        rw [h.schema_eq]
        decide +kernel
      have hrefuses := Walk.refusesOptional_of_acyclic h.depth_pos.1 hacyclic root
      exact ⟨setup, root, made, hprepared, hmade, hrefuses, hoptional hrefuses⟩
    · cases hcomputed

/-- A schema in which an element contains itself three times. -/
def broodSchema : Schema where
  version := "1"
  elements := [.mk { name := "Nest", typeRef := some "Nest" } none]
  types := [
    { name := "Nest"
      content := some (.mk { kind := .sequence } [
        .element (.mk { name := "Nest", typeRef := some "Nest", minOccurs := 3, maxOccurs := .bounded 3 }
          none)]) }]

/-- With a budget of one step, a run gives a document of four elements that is not unfinished. -/
theorem brood_exceeds_budget : ∃ made, broodSchema.validate = .ok () ∧
    run broodSchema { settings := { maxDepth := 1 } } { maxSteps := 1 } 0 = .ok made ∧
    made.report.isPartial = false ∧ made.document.heads.length = 4 ∧
    ¬ made.document.heads.length ≤ ({ maxSteps := 1 } : Options).maxSteps.toNat := by
  have hcomputed : (match run broodSchema { settings := { maxDepth := 1 } } { maxSteps := 1 } 0 with
      | .ok made => !made.report.isPartial && made.document.heads.length == 4
      | .error _ => false) = true := by decide +kernel
  split at hcomputed
  · rename_i made hmade
    rw [Bool.and_eq_true, Bool.not_eq_true', beq_iff_eq] at hcomputed
    refine ⟨made, by decide +kernel, hmade, hcomputed.1, hcomputed.2, ?_⟩
    rw [hcomputed.2]
    decide
  · cases hcomputed

end Generation
end Specimen
