import Specimen.Proofs.Run.Budget

/-!
# Other settings

Some settings are only looked at during the walk.  When a configuration differs from another one in such settings
alone, it is checked with the same outcome, and the setups that are prepared differ in these settings alone.  Then
the runs differ by what the settings make of the walk.
-/

namespace Specimen

/-- A configuration with other settings. -/
def Config.mapSettings (config : Config) (f : GenerationSettings → GenerationSettings) : Config :=
  { config with settings := f config.settings }

/-- A plan with other settings. -/
def Plan.mapSettings (plan : Plan) (g : PlanSettings → PlanSettings) : Plan :=
  { plan with settings := g plan.settings }

/-- A change of settings that is not seen when a configuration is compiled: what it does to the settings of the
configuration becomes a change to the settings of the plan. -/
structure Config.Unseen (config : Config) (f : GenerationSettings → GenerationSettings)
    (g : PlanSettings → PlanSettings) : Prop where
  compiled : compileSettings (f config.settings) =
    ((compileSettings config.settings).1, g (compileSettings config.settings).2)
  unique : ∀ s, (g s).uniqueCombinations = s.uniqueCombinations

/-- What a run gives: the document and the report. -/
def Generated.result (made : Generated) : Node × Report := (made.document, made.report)

variable {config : Config} {f : GenerationSettings → GenerationSettings} {g : PlanSettings → PlanSettings}

namespace Config

theorem draft_mapSettings (h : config.Unseen f g) :
    (config.mapSettings f).draft = (config.draft.1, config.draft.2.mapSettings g) := by
  have hsettings : compileSettings (config.mapSettings f).settings = _ := h.compiled
  have hrelationship : (config.mapSettings f).compileRelationship (g (compileSettings config.settings).2) =
      config.compileRelationship (compileSettings config.settings).2 := by
    funext id d
    unfold compileRelationship
    rw [h.unique]
    rfl
  unfold draft
  simp only [hsettings, hrelationship]
  dsimp only [mapSettings, Plan.mapSettings]

theorem compile_mapSettings (h : config.Unseen f g) :
    (config.mapSettings f).compile = config.compile.map (·.mapSettings g) := by
  unfold compile
  rw [draft_mapSettings h]
  dsimp only
  split
  · rfl
  · rfl

end Config

namespace Generation

variable {schema : Schema} {options : Options} {k : Options → Options}

theorem planFor_mapSettings (h : (override config options).Unseen f g)
    (hoverride : override (config.mapSettings f) (k options) = (override config options).mapSettings f) :
    planFor schema (config.mapSettings f) (k options) =
      (planFor schema config options).map (·.mapSettings g) := by
  unfold planFor
  rw [hoverride, Config.compile_mapSettings h]
  cases (override config options).compile with
  | error faults => rfl
  | ok plan =>
      change (if (ConfigReport.ofFaults (plan.faultsAgainst schema)).isOk then _ else _) =
        Except.map _ (if (ConfigReport.ofFaults (plan.faultsAgainst schema)).isOk then _ else _)
      split
      · rfl
      · rfl

/-- What is settled before the walk does not depend on settings and options that are only looked at during it. -/
theorem prepare_mapSettings (h : (override config options).Unseen f g)
    (hoverride : override (config.mapSettings f) (k options) = (override config options).mapSettings f)
    (hroot : (k options).rootElement = options.rootElement) :
    prepare schema (config.mapSettings f) (k options) = (prepare schema config options).map fun p =>
      ({ p.1 with plan := p.1.plan.mapSettings g, options := k p.1.options }, p.2) := by
  have hselect : ∀ plan, selectRoot schema (plan.mapSettings g) (k options) = selectRoot schema plan options := by
    intro plan
    unfold selectRoot
    rw [hroot]
    rfl
  unfold prepare
  rw [planFor_mapSettings h hoverride]
  cases schema.validate with
  | error e => rfl
  | ok valid =>
      cases planFor schema config options with
      | error e => rfl
      | ok plan =>
          change (Except.mapError _ (contextsFor plan) >>= _) =
            Except.map _ (Except.mapError _ (contextsFor plan) >>= _)
          cases contextsFor plan with
          | error e => rfl
          | ok contexts =>
              change (Except.mapError _ (Index.ofSchema schema plan) >>= _) =
                Except.map _ (Except.mapError _ (Index.ofSchema schema plan) >>= _)
              cases Index.ofSchema schema plan with
              | error e => rfl
              | ok index =>
                  change (Except.mapError _ (selectRoot schema (plan.mapSettings g) (k options)) >>= _) =
                    Except.map _ (Except.mapError _ (selectRoot schema plan options) >>= _)
                  rw [hselect]
                  cases selectRoot schema plan options with
                  | error e => rfl
                  | ok root => rfl

/-! ## Runs -/

/-- What comes of two walks that end in the same state, when one document is made from the other. -/
theorem outcome_map (setup setup' : Setup) (change : Node → Node) (s : RunState) (result : Except RunError Node) :
    (outcome setup' s (result.map change)).map Generated.result =
      (outcome setup s result).map fun made => (change made.document, made.report) := by
  cases result with
  | ok document => rfl
  | error e => cases e <;> rfl

/-- Two runs whose setups correspond to each other, and whose walks end in the same states, give the same reports
and fail in the same way. -/
theorem run_map {config' : Config} {options' : Options} {freshSeed : UInt64} (setups : Setup → Setup)
    (change : Node → Node)
    (hprepare : prepare schema config' options' =
      (prepare schema config options).map fun p => (setups p.1, p.2))
    (hwalk : ∀ setup root, prepare schema config options = .ok (setup, root) →
      (Walk.buildDocument (setups setup) root).exec (beginning (setups setup) root freshSeed) =
        (((Walk.buildDocument setup root).exec (beginning setup root freshSeed)).1.map change,
          ((Walk.buildDocument setup root).exec (beginning setup root freshSeed)).2)) :
    (run schema config' options' freshSeed).map Generated.result =
      (run schema config options freshSeed).map fun made => (change made.document, made.report) := by
  cases hfirst : prepare schema config options with
  | error e =>
      rw [hfirst] at hprepare
      unfold run
      rw [hprepare, hfirst]
      rfl
  | ok p =>
      obtain ⟨setup, root⟩ := p
      rw [hfirst] at hprepare
      rw [run_of_walk hprepare (hwalk setup root hfirst), run_of_walk hfirst rfl]
      exact outcome_map setup (setups setup) change _ _

end Generation
end Specimen
