import Specimen.Proofs.Leaf.Acceptance
import Specimen.Proofs.Leaf.Rotation
import Specimen.Proofs.Run.Documents
import Specimen.Proofs.Walk.Account
import Specimen.Proofs.Walk.Evaluation

/-!
# Siblings that repeat a value

Where siblings have to differ, a leaf that repeats the value of an earlier one with the same parent and path is
reported.  What a leaf is given is marked as used in the scope of its siblings, whichever source it comes from, and
nothing is ever taken out of a scope; so the later leaf meets the value there, and its own sources only let it pass
with a warning.  Leaves with a fixed value are not marked, and a relationship is not asked whether its value is new.
-/

namespace Specimen

open Run

namespace Leaf

variable {setup : Setup} {root : Element} {s t : RunState} {xs : List ResolvedLeaf}

/-- A leaf repeats the value of another one with the same parent and path, neither value is fixed, and its own is not
from a relationship. -/
structure Repeats (setup : Setup) (x y : ResolvedLeaf) : Prop where
  parent : x.parent = y.parent
  path : x.request.path = y.request.path
  value : x.value = y.value
  notFixed : x.request.fixed = none ∧ y.request.fixed = none
  notSupplied : ¬ IsSupplied setup y.request y.before

/-- A leaf that repeats the value of an earlier one of the same scope is reported.  The induction is on the row: what
the first leaf was given is marked when the others are resolved. -/
theorem Row.repeats_flagged (hunique : setup.plan.settings.uniqueCombinations = true)
    (h : Row setup root s xs t) : xs.Pairwise fun x y =>
      (∃ scope, x.request.scope = some scope ∧ y.request.scope = some scope) → Repeats setup x y →
        y.request.Flagged t := by
  induction h with
  | nil => exact .nil
  | cons hquiet _ hrun hrest ih =>
      refine .cons (fun y hy => ?_) ih
      rintro ⟨scope, hx, hscope⟩ hrepeats
      obtain ⟨v, hbefore, hresolve, hafter⟩ := hrest.resolve_of_mem hy
      have hmarked := (resolve_returnsMarked hrepeats.notFixed.1 _ _ _ hrun).2 hunique scope hx
      have hused := hbefore.used scope _ _ hmarked
      rw [hrepeats.path, hrepeats.value] at hused
      exact (resolve_flags hrepeats.notFixed.2 hrepeats.notSupplied hunique hscope hused hresolve).grows hafter

end Leaf

namespace Generation

/-- In every run in which siblings have to differ, of two leaves of the document with the same parent and path that
are not fixed and have the same value, the later one is reported at its path, unless its value is from a
relationship. -/
theorem repeated_siblings_flagged (schema : Schema) (config : Config) (options : Options) (setup : Setup)
    (root : Element) (hprepared : prepare schema config options = .ok (setup, root))
    (hunique : setup.plan.settings.uniqueCombinations = true) (seed : UInt64) (rng : Random.Rng)
    (made : Generated) (trace : Trace)
    (hrun : walkFrom setup root (firstState setup root seed rng) = (.ok made, trace)) :
    (∃ xs t, Leaf.Row setup root (firstState setup root seed rng) xs t ∧ t.report = made.report ∧
      xs.map (·.placed) = made.document.placed ∧ Leaf.SharesScopes xs) ∧
    ∀ xs t, Leaf.Row setup root (firstState setup root seed rng) xs t → t.report = made.report →
      xs.map (·.placed) = made.document.placed → Leaf.SharesScopes xs →
        xs.Pairwise fun x y => Leaf.Repeats setup x y →
          ∃ n ∈ made.report.warnings, n.code = "constraint_violation" ∧ n.path = some y.request.path := by
  have h := prepared_of_prepare hprepared
  obtain ⟨t, hdocument, hreport, -⟩ := walkFrom_eq_ok hrun
  refine ⟨?_, fun xs u hrow hend _ hshared => ?_⟩
  · obtain ⟨xs, hrow, hplaced, hshared⟩ := Walk.buildDocument_carried h.schema_valid h.root_passes hdocument
    exact ⟨xs, t, hrow, hreport.symm, hplaced, hshared⟩
  · have hflagged := hrow.repeats_flagged hunique
    rw [← hend]
    refine hflagged.imp_of_mem fun {x y} hx hy hpair hrepeats => ?_
    exact hpair (hshared x hx y hy hrepeats.parent) hrepeats

/-! ## A box of chips -/

/-- A chip, which has a colour. -/
def chipElement : Element := .mk { name := "Chip", typeRef := some "xs:string" } none

def chipType : ResolvedType := ⟨none, .builtin .string, []⟩

/-- A box with two chips. -/
def boxElement : Element :=
  .mk { name := "Box" } (some (.mk { kind := .sequence } [.element chipElement, .element chipElement]))

def boxType : ResolvedType :=
  ⟨none, .complex (.mk { kind := .sequence } [.element chipElement, .element chipElement]), []⟩

def boxSchema : Schema where
  version := "1"
  elements := [boxElement]

/-- A configuration by which chips in a box have to differ, although there is only one colour. -/
def boxConfig : Config where
  settings := { uniqueCombinations := true }
  elements := Dict.empty.insert "Chip" { customValues := [.string "red"] }
  overrides := { enforceConstraints := false }

/-- The setup of a run for a box. -/
def boxSetup : Setup :=
  ((prepare boxSchema boxConfig {}).toOption.map (·.1)).getD { schema := boxSchema, plan := {} }

theorem prepare_box : prepare boxSchema boxConfig {} = .ok (boxSetup, boxElement) :=
  prepare_eq_ok_of_isSome rfl (by decide +kernel) rfl rfl (by decide +kernel)

/-- The request for the colour of a chip. -/
def chipRequest (scope : Nat) : LeafRequest where
  name := "Chip"
  path := "Box/Chip"
  facets := .ofBase .string
  scope := some scope

theorem resolve_chip (scope : Nat) (s : RunState) :
    ∃ t, (Leaf.resolve boxSetup (chipRequest scope)).exec s = (.ok "red", t) := by
  have hdelegate : Leaf.delegate? boxSetup (chipRequest 0) = none := by decide +kernel
  have hrule : boxSetup.plan.rule? "Chip" "Box/Chip" = some { key := "Chip", customValues := ["red"] } := by
    decide +kernel
  exact Leaf.resolve_of_singleton (q := chipRequest scope) (by decide +kernel) rfl hdelegate hrule rfl rfl s

/-- A chip. -/
def chipNode : Node := .mk { name := "Chip", text := some "red" } []

theorem box_isExceededBy : ∀ steps ≤ 3, boxSetup.options.isExceededBy steps = false := by
  rw [(prepared_of_prepare prepare_box).options_eq]
  decide

/-- What is built for a chip is a chip, and one more step was taken. -/
theorem walk_chip (enter : Walk.Enter) (scope : Nat) (rule : Option ElementRule) {s : RunState}
    (hgoing : s.halted = false) (hsteps : s.report.steps ≤ 2) :
    ∃ t, (Walk.walkParticle boxSetup enter "Box" scope rule false (.element chipElement)).exec s =
        (.ok [.element chipNode], t) ∧
      (Leaf.resolve boxSetup (chipRequest scope)).exec (Walk.atText s) = (.ok "red", t) ∧
      t.halted = false ∧ t.report.steps = s.report.steps + 1 := by
  have hnil : (boxSetup.plan.rule? "Chip" "Box/Chip").any (·.nil) = false := by decide +kernel
  have hcount : Walk.occurrenceCount boxSetup chipElement (joinPath "Box" "Chip")
      (boxSetup.plan.rule? "Chip" (joinPath "Box" "Chip")) false = 1 := by decide +kernel
  have hcomments : boxSetup.plan.settings.includeComments = false := by decide +kernel
  have hresolve : boxSetup.schema.resolveType chipElement = .ok chipType := rfl
  have hbudget := box_isExceededBy (s.report.steps + 1) (Nat.succ_le_succ hsteps)
  obtain ⟨t, hchip⟩ := resolve_chip scope (Walk.atText s)
  have hsteady : (Walk.atText s).Steady t :=
    (Walk.leafText_isSteady chipElement "Box/Chip" (.ofBase .string) scope).steady hchip
  have hhalted : t.halted = false := hsteady.halted.trans hgoing
  refine ⟨t, ?_, hchip, hhalted, hsteady.steps⟩
  have hcontent : (Walk.buildContent boxSetup chipElement chipType "Box/Chip" { name := "Chip" } scope
      (Walk.insideNamed enter chipType "Box/Chip" (boxSetup.plan.rule? "Chip" "Box/Chip")
        (s.scopes + 1))).exec (Walk.atText s) = (.ok chipNode, t) :=
    Walk.buildContent_of_text rfl hchip
  have hoccurrence := Walk.buildOccurrence_of_parts hnil hbudget rfl hcontent
  rw [if_neg (by simp [hhalted])] at hoccurrence
  have helement : (Walk.buildElement boxSetup chipElement "Box" scope false (Walk.insideNamed enter)).exec s =
      (.ok [.element chipNode], t) :=
    Walk.buildElement_of_one hresolve rfl hcount hcomments hoccurrence
  unfold Walk.walkParticle chipElement Walk.walkElement
  exact helement

/-- A box with two chips. -/
def boxDocument : Node := .mk { name := "Box" } [.element chipNode, .element chipNode]

/-- The chips of the box, as they were resolved in two states. -/
def chipRow (s t : RunState) : List Leaf.ResolvedLeaf :=
  [⟨[0], chipRequest 2, s, "red"⟩, ⟨[0], chipRequest 2, t, "red"⟩]

theorem chip_declared : boxSetup.schema.HasLeaf boxElement "Chip" "Box/Chip" (.ofBase .string) none := by
  have hbox : boxSetup.schema.resolveType boxElement = .ok boxType := rfl
  have hchip : boxSetup.schema.resolveType chipElement = .ok chipType := rfl
  exact .text (.child .root hbox rfl List.mem_cons_self) hchip rfl

/-- Whatever the seed and the random numbers, both chips of the box are red. -/
theorem box_run (seed : UInt64) (rng : Random.Rng) :
    ∃ made trace s t u, walkFrom boxSetup boxElement (firstState boxSetup boxElement seed rng) =
        (.ok made, trace) ∧ made.document = boxDocument ∧ u.report = made.report ∧
      Leaf.Row boxSetup boxElement (firstState boxSetup boxElement seed rng) (chipRow s t) u := by
  have hnil : (boxSetup.plan.rule? "Box" "Box").any (·.nil) = false := by decide +kernel
  have hcount : Walk.groupCount boxSetup (.mk { kind := .sequence } [.element chipElement, .element chipElement])
      "Box" false = 1 := by decide +kernel
  have huri : (boxElement.decl.uri <|> boxSetup.schema.targetNamespace) = none := by
    rw [(prepared_of_prepare prepare_box).schema_eq]
    rfl
  let s := { firstState boxSetup boxElement seed rng with scopes := 1 }
  obtain ⟨t, hfirst, hred, hgoing, hsteps⟩ := walk_chip (Walk.enter boxSetup) 2
    (boxSetup.plan.rule? "Box" "Box") (s := Walk.atText s) rfl (show 1 ≤ 2 from Nat.le_succ 1)
  obtain ⟨u, hsecond, hredAgain, hhalted, -⟩ := walk_chip (Walk.enter boxSetup) 2
    (boxSetup.plan.rule? "Box" "Box") hgoing (by rw [hsteps]; exact Nat.le_refl 2)
  have hmembers : (Walk.walkAll boxSetup (Walk.enter boxSetup) "Box" 2 (boxSetup.plan.rule? "Box" "Box")
      [.element chipElement, .element chipElement]).exec (Walk.atText s) =
        (.ok [.element chipNode, .element chipNode], u) :=
    Walk.walkAll_cons_of_going hfirst hgoing (Walk.walkAll_cons_of_going hsecond hhalted (Walk.walkAll_nil u))
  have hinside : (Walk.insideOf boxSetup boxElement boxType "Box" (boxSetup.plan.rule? "Box" "Box") 2).exec
      (Walk.atText s) = (.ok [.element chipNode, .element chipNode], u) :=
    Walk.walkGroup_of_all rfl hcount hmembers
  have hcontent : (Walk.buildContent boxSetup boxElement boxType "Box" { name := "Box" } 1
      (Walk.insideOf boxSetup boxElement boxType "Box" (boxSetup.plan.rule? "Box" "Box") 2)).exec
        (Walk.atText s) = (.ok boxDocument, u) :=
    Walk.buildContent_of_inside rfl rfl hinside
  have hoccurrence : (Walk.buildOccurrence boxSetup boxElement boxType "Box" (boxSetup.plan.rule? "Box" "Box")
      none 1 (Walk.insideOf boxSetup boxElement boxType "Box" (boxSetup.plan.rule? "Box" "Box"))).exec s =
        (.ok (some (if u.halted then boxDocument.truncate else boxDocument)), u) :=
    Walk.buildOccurrence_of_parts hnil (box_isExceededBy 1 (by decide)) rfl hcontent
  rw [if_neg (by simp [hhalted]), ← huri] at hoccurrence
  have hresolve : boxSetup.schema.resolveType boxElement = .ok boxType := rfl
  have hdocument : (Walk.buildDocument boxSetup boxElement).exec (firstState boxSetup boxElement seed rng) =
      (.ok boxDocument, u) := Walk.buildDocument_of_occurrence hresolve rfl hoccurrence
  refine ⟨⟨boxDocument, u.report, boxSetup.plan⟩, u.trace, Walk.atText (Walk.atText s), Walk.atText t, u, ?_, rfl,
    rfl, ?_⟩
  · unfold walkFrom
    rw [hdocument]
    rfl
  · have hopened : RunState.Quiet (firstState boxSetup boxElement seed rng) s :=
      ⟨.of_same rfl rfl rfl rfl, rfl, rfl, rfl⟩
    have hbefore := (hopened.trans (Walk.quiet_atText s)).trans (Walk.quiet_atText _)
    exact .cons hbefore chip_declared hred (.cons (Walk.quiet_atText t) chip_declared hredAgain (.nil (.refl u)))

/-- The second chip of the box is as red as the first one, so it is reported. -/
theorem repeated_siblings_flagged_box : ∃ made trace,
    prepare boxSchema boxConfig {} = .ok (boxSetup, boxElement) ∧
      boxSetup.plan.settings.uniqueCombinations = true ∧
      walkFrom boxSetup boxElement (firstState boxSetup boxElement 0 (.ofSeed 0)) = (.ok made, trace) ∧
      made.document = boxDocument ∧
      ∃ n ∈ made.report.warnings, n.code = "constraint_violation" ∧ n.path = some "Box/Chip" := by
  have hunique : boxSetup.plan.settings.uniqueCombinations = true := by decide +kernel
  have hdelegate : Leaf.delegate? boxSetup (chipRequest 2) = none := by decide +kernel
  obtain ⟨made, trace, s, t, u, hrun, hdocument, hreport, hrow⟩ := box_run 0 (.ofSeed 0)
  obtain ⟨-, hflagged⟩ := repeated_siblings_flagged boxSchema boxConfig {} boxSetup boxElement prepare_box hunique
    0 (.ofSeed 0) made trace hrun
  have hplaced : (chipRow s t).map (·.placed) = made.document.placed := by
    rw [hdocument]
    rfl
  have hshared : Leaf.SharesScopes (chipRow s t) := by
    have hscope : ∀ x ∈ chipRow s t, x.request.scope = some 2 := by simp [chipRow, chipRequest]
    exact fun x hx y hy _ => ⟨2, hscope x hx, hscope y hy⟩
  have hpair := List.pairwise_cons.1 (hflagged (chipRow s t) u hrow hreport hplaced hshared)
  have hrepeats : Leaf.Repeats boxSetup ⟨[0], chipRequest 2, s, "red"⟩ ⟨[0], chipRequest 2, t, "red"⟩ :=
    { parent := rfl, path := rfl, value := rfl, notFixed := ⟨rfl, rfl⟩
      notSupplied := fun ⟨_, _, _, hfield, _⟩ => by cases hdelegate.symm.trans hfield }
  exact ⟨made, trace, prepare_box, hunique, hrun, hdocument, hpair.1 _ List.mem_cons_self hrepeats⟩

end Generation
end Specimen
