import Specimen.Proofs.Leaf.Acceptance
import Specimen.Proofs.Run.Prepared
import Specimen.Proofs.Walk.Leaves

/-!
# Generated documents

What the document of a run is, whatever the schema, the configuration, the options and the random
numbers.  A document that is neither cut short nor cut off conforms to its schema; and in every document,
a value that breaks its simple type is reported.
-/

open Relation (ReflTransGen)

namespace Specimen

/-- Nothing may be missing, and everything occurs as often as it may. -/
def Demands.conforming : Demands where
  occurs := InBounds
  gaps := False

/-- Anything may be missing or occur any number of times. -/
def Demands.shapeOnly : Demands where
  occurs _ _ _ _ := True
  gaps := True

namespace Leaf

variable {setup : Setup} {root : Element} {s t : RunState} {xs : List ResolvedLeaf}

theorem resolve_grows {q : LeafRequest} {value : String} (hrun : (resolve setup q).exec s = (.ok value, t)) :
    s.Grows t :=
  .of_valueSteps ((resolve_takesValueSteps setup q).steps_of_exec hrun)

theorem Row.grows (h : Row setup root s xs t) : s.Grows t := by
  induction h with
  | nil hquiet => exact hquiet.grows
  | cons hquiet _ hrun _ ih => exact (hquiet.grows.trans (resolve_grows hrun)).trans ih

/-- A leaf of a row was resolved on the way. -/
theorem Row.resolve_of_mem (h : Row setup root s xs t) {y : ResolvedLeaf} (hy : y ∈ xs) :
    ∃ u, s.Grows y.before ∧ (resolve setup y.request).exec y.before = (.ok y.value, u) ∧ u.Grows t := by
  induction h with
  | nil => cases hy
  | cons hquiet _ hrun hrest ih =>
      rcases List.mem_cons.1 hy with rfl | hy
      · exact ⟨_, hquiet.grows, hrun, hrest.grows⟩
      · obtain ⟨u, hbefore, hresolve, hafter⟩ := ih hy
        exact ⟨u, (hquiet.grows.trans (resolve_grows hrun)).trans hbefore, hresolve, hafter⟩

/-- What is told of a leaf of a row is still told at the end of the row. -/
theorem Row.excused (h : Row setup root s xs t) {x : ResolvedLeaf} (hx : x ∈ xs)
    (hfixed : x.request.fixed = none) : x.request.Excused setup x.value t := by
  obtain ⟨u, -, hresolve, hafter⟩ := h.resolve_of_mem hx
  exact (resolve_returnsMarked hfixed _ _ _ hresolve).1.grows hafter

end Leaf

namespace Walk

theorem meets_conforming (setup : Setup) {t : RunState} (hhalted : t.halted = false)
    (hrefused : ¬ Refused t) : Meets setup t .conforming where
  occurs _ _ _ _ h := h
  gaps := False.elim
  halted h := by rw [hhalted] at h; cases h
  refused := hrefused

theorem meets_shapeOnly (setup : Setup) (t : RunState) : Meets setup t .shapeOnly where
  occurs _ _ _ _ _ := trivial
  gaps _ _ _ _ _ := trivial
  halted _ := trivial
  refused _ := trivial

end Walk

namespace Generation

/-- What a run that gave a document has done. -/
theorem walkFrom_eq_ok {setup : Setup} {root : Element} {s : RunState} {made : Generated} {trace : Trace}
    (h : walkFrom setup root s = (.ok made, trace)) :
    ∃ t, (Walk.buildDocument setup root).exec s = (.ok made.document, t) ∧ made.report = t.report ∧
      trace = t.trace := by
  unfold walkFrom at h
  rcases hrun : (Walk.buildDocument setup root).exec s with ⟨r, t⟩
  rw [hrun] at h
  dsimp only at h
  obtain ⟨houtcome, rfl⟩ := Prod.mk.inj h
  unfold outcome at houtcome
  split at houtcome
  · cases houtcome
    exact ⟨t, rfl, rfl, rfl⟩
  · cases houtcome
  · cases houtcome

/-- The document of a run is built as declared, for all demands that the end of the run meets. -/
theorem document_builtAs {schema : Schema} {config : Config} {options : Options} {setup : Setup}
    {root : Element} (hprepared : prepare schema config options = .ok (setup, root)) {seed : UInt64}
    {rng : Random.Rng} {made : Generated} {trace : Trace}
    (hrun : walkFrom setup root (firstState setup root seed rng) = (.ok made, trace)) :
    ∃ t, ReflTransGen WalkStep (firstState setup root seed rng) t ∧ made.report = t.report ∧
      trace = t.trace ∧ ∀ d, Walk.Meets setup t d →
        BuiltAs schema d root.name (root.decl.uri <|> schema.targetNamespace) root made.document := by
  have h := prepared_of_prepare hprepared
  obtain ⟨t, hdocument, hreport, htrace⟩ := walkFrom_eq_ok hrun
  have hsteps := Walk.buildDocument_takesWalkSteps h.schema_valid h.root_passes
  refine ⟨t, hsteps.steps_of_exec hdocument, hreport, htrace, fun d hmeets => ?_⟩
  have hbuilt := Walk.buildDocument_builtAs hmeets h.schema_valid h.root_passes rfl hdocument
  rw [h.schema_eq] at hbuilt
  exact hbuilt

/-- A document that is not partial, on whose way no type was nested too deeply, is a word of its content
model at every element. -/
theorem document_conforms (schema : Schema) (config : Config) (options : Options) (setup : Setup)
    (root : Element) (hprepared : prepare schema config options = .ok (setup, root)) (seed : UInt64)
    (rng : Random.Rng) (made : Generated) (trace : Trace)
    (hrun : walkFrom setup root (firstState setup root seed rng) = (.ok made, trace))
    (hwhole : made.report.isPartial = false) (hquiet : ∀ e ∈ trace, e.isRefusal = false) :
    BuiltAs schema .conforming root.name (root.decl.uri <|> schema.targetNamespace) root
      made.document := by
  obtain ⟨t, hsteps, hreport, rfl, hbuilt⟩ := document_builtAs hprepared hrun
  have hstops := RunState.stopsPartial_of_walkSteps hsteps nofun
  have hhalted : t.halted = false := by
    rw [hreport] at hwhole
    exact Bool.eq_false_iff.2 fun hhalted => absurd (hstops hhalted) (by simp [hwhole])
  have hrefused : ¬ Walk.Refused t := by
    rintro ⟨e, he, hrefusal⟩
    rw [hquiet e he] at hrefusal
    cases hrefusal
  exact hbuilt _ (Walk.meets_conforming setup hhalted hrefused)

/-- A schema of orders: items, of which there may be many, and then a note, twice at most. -/
def orderSchema : Schema where
  version := "1"
  elements := [.mk { name := "Order" } (some (.mk { kind := .sequence } [
    .element (.mk
      { name := "Item", typeRef := some "xs:string", maxOccurs := .unbounded, fixed := some "x" } none),
    .group (.mk { kind := .choice, maxOccurs := .bounded 2 } [
      .element (.mk { name := "Note", typeRef := some "xs:string", fixed := some "y" } none)])]))]

/-- Random numbers that are all zero. -/
def zeroRng : Random.Rng := ⟨Vector.replicate 8 0, 0, List.replicate 64 0⟩

/-- Whether a run with random numbers that are all zero gives a document, and a condition holds. -/
def zeroRun (schema : Schema) (config : Config) (condition : Generated → Trace → Bool) : Bool :=
  match prepare schema config {} with
  | .error _ => false
  | .ok (setup, root) =>
    match walkFrom setup root (firstState setup root 0 zeroRng) with
    | (.error _, _) => false
    | (.ok made, trace) => condition made trace

theorem exists_of_zeroRun {schema : Schema} {config : Config} {condition : Generated → Trace → Bool}
    (h : zeroRun schema config condition = true) :
    ∃ setup root made trace, prepare schema config {} = .ok (setup, root) ∧
      walkFrom setup root (firstState setup root 0 zeroRng) = (.ok made, trace) ∧
      condition made trace = true := by
  unfold zeroRun at h
  split at h
  · cases h
  · rename_i setup root hprepared
    split at h
    · cases h
    · rename_i made trace hrun
      exact ⟨setup, root, made, trace, hprepared, hrun, h⟩

theorem document_conforms_order : ∃ setup root made trace,
    prepare orderSchema {} {} = .ok (setup, root) ∧
      walkFrom setup root (firstState setup root 0 zeroRng) = (.ok made, trace) ∧
      made.report.isPartial = false ∧ (∀ e ∈ trace, e.isRefusal = false) ∧
      BuiltAs orderSchema .conforming root.name (root.decl.uri <|> orderSchema.targetNamespace) root
        made.document := by
  have hzero : zeroRun orderSchema {} (fun made trace =>
      !made.report.isPartial && trace.all fun e => !e.isRefusal) = true := by decide +kernel
  obtain ⟨setup, root, made, trace, hprepared, hrun, hcondition⟩ := exists_of_zeroRun hzero
  rw [Bool.and_eq_true, Array.all_eq_true_iff_forall_mem] at hcondition
  have hwhole : made.report.isPartial = false := by simpa using hcondition.1
  have hquiet : ∀ e ∈ trace, e.isRefusal = false := fun e he => by simpa using hcondition.2 e he
  exact ⟨setup, root, made, trace, hprepared, hrun, hwhole, hquiet,
    document_conforms orderSchema {} {} setup root hprepared 0 zeroRng made trace hrun hwhole hquiet⟩

/-- The leaves of every document, texts and attribute values, are those that were resolved on the way, each for its own
declaration.  A value that is not fixed satisfies the simple type of the declaration for which it was resolved, or the
report warns of a violation at its path. -/
theorem violations_flagged (schema : Schema) (config : Config) (options : Options) (setup : Setup)
    (root : Element) (hprepared : prepare schema config options = .ok (setup, root)) (seed : UInt64)
    (rng : Random.Rng) (made : Generated) (trace : Trace)
    (hrun : walkFrom setup root (firstState setup root seed rng) = (.ok made, trace)) :
    (∃ xs t, Leaf.Row setup root (firstState setup root seed rng) xs t ∧ t.report = made.report ∧
      xs.map (·.placed) = made.document.placed) ∧
    ∀ xs t, Leaf.Row setup root (firstState setup root seed rng) xs t → t.report = made.report →
      xs.map (·.placed) = made.document.placed → ∀ x ∈ xs, x.request.fixed = none →
        x.request.facets.check x.value options.libraries.isMatch = .ok () ∨
          ∃ n ∈ made.report.warnings, n.code = "constraint_violation" ∧ n.path = some x.request.path := by
  have h := prepared_of_prepare hprepared
  obtain ⟨t, hdocument, hreport, -⟩ := walkFrom_eq_ok hrun
  refine ⟨?_, fun xs u hrow hend _ x hx hfixed => ?_⟩
  · obtain ⟨xs, hrow, hplaced, -⟩ := Walk.buildDocument_carried h.schema_valid h.root_passes hdocument
    exact ⟨xs, t, hrow, hreport.symm, hplaced⟩
  · rw [← hend, ← h.options_eq]
    exact hrow.excused hx hfixed

/-- A configuration that keeps a value although the leaf can only be `a`. -/
def strayValueConfig : Config where
  elements := Dict.empty.insert "Root"
    { customValues := [.string "b"], selectionStrategy := some "random" }
  overrides := { enforceConstraints := false }

/-- The only leaf below the element of the schema can only be `a`. -/
theorem hasLeaf_leafSchema {root : Element} (hroot : root ∈ leafSchema.elements) {name path : String}
    {facets : Facets} {fixed : Option String} (h : leafSchema.HasLeaf root name path facets fixed) :
    path = "Root" ∧ facets = { base := .string, enumeration := ["a"] } ∧ fixed = none := by
  obtain rfl := List.mem_singleton.1 hroot
  have hresolve : leafSchema.resolveType leafElement =
      .ok ⟨none, .simple { base := .string, enumeration := ["a"] }, []⟩ := rfl
  cases h with
  | text he htype hfacets =>
      obtain ⟨rfl, rfl⟩ := he.eq_root hresolve nofun
      cases htype
      cases hfacets
      exact ⟨rfl, rfl, rfl⟩
  | attr he htype ha =>
      obtain ⟨rfl, rfl⟩ := he.eq_root hresolve nofun
      cases htype
      cases ha

/-- The value that was kept is reported at the path of the leaf. -/
theorem violations_flagged_strayValue : ∃ setup root made trace,
    prepare leafSchema strayValueConfig {} = .ok (setup, root) ∧
      walkFrom setup root (firstState setup root 0 zeroRng) = (.ok made, trace) ∧
      made.document.documentLeaves = [⟨"Root", "Root", "b"⟩] ∧
      ∃ n ∈ made.report.warnings, n.code = "constraint_violation" ∧ n.path = some "Root" := by
  have hzero : zeroRun leafSchema strayValueConfig (fun made _ =>
      made.document.placed == [⟨[], "Root", "Root", "b"⟩]) = true := by decide +kernel
  obtain ⟨setup, root, made, trace, hprepared, hrun, hcondition⟩ := exists_of_zeroRun hzero
  have h := prepared_of_prepare hprepared
  have hdocument : made.document.placed = [⟨[], "Root", "Root", "b"⟩] := eq_of_beq hcondition
  refine ⟨setup, root, made, trace, hprepared, hrun, by rw [← made.document.leaf_placed, hdocument]; rfl, ?_⟩
  obtain ⟨⟨xs, t, hrow, hend, hplaced⟩, hflagged⟩ :=
    violations_flagged leafSchema strayValueConfig {} setup root hprepared 0 zeroRng made trace hrun
  have hleaf := hplaced.trans hdocument
  cases hrow with
  | nil => cases hleaf
  | @cons _ _ _ x rest hquiet hdeclared hresolve hrest =>
      obtain ⟨hx, -⟩ := List.cons.inj hleaf
      have hvalue : x.value = "b" := congrArg (·.leaf.value) hx
      rw [h.schema_eq] at hdeclared
      obtain ⟨hpath, hfacets, hfixed⟩ := hasLeaf_leafSchema h.root_mem hdeclared
      have hjudged := hflagged (x :: rest) t (.cons hquiet (h.schema_eq ▸ hdeclared) hresolve hrest) hend hplaced x
        List.mem_cons_self hfixed
      rw [hvalue, hfacets, hpath] at hjudged
      exact hjudged.resolve_left (by decide +kernel)

end Generation
end Specimen
