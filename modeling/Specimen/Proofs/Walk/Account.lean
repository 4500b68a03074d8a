import Specimen.Proofs.Walk.Content
import Specimen.Proofs.Walk.Evaluation
import Specimen.Proofs.Walk.Limited

/-!
# The account of a document

A document shows what the walk has done to build it: which elements were begun, what the recursion guard cut
off, and where the steps ran out.  `Built` reads this off the declarations, without a state, and adds it up to
an `Account`.  An unfinished walk that keeps what it has leaves its report behind in just the way that the
account says.  What a run reports is then shown of documents alone, by induction on how they were built.
-/

open Relation (ReflTransGen)

namespace Specimen

open Run

/-! ## Accounts -/

/-- What a part of a document says about the walk that has built it. -/
structure Account where
  /-- How many elements were begun. -/
  elements : Nat := 0
  /-- The notices of what was cut off, in order. -/
  cuts : List Notice := []
  /-- The paths of choices that had to go without a branch, since the guard refuses all their members. -/
  bare : List String := []
  /-- The path of the occurrence at which the steps ran out. -/
  stop : Option String := none

namespace Account

/-- The account of two parts in a row. -/
def append (a b : Account) : Account where
  elements := a.elements + b.elements
  cuts := a.cuts ++ b.cuts
  bare := a.bare ++ b.bare
  stop := a.stop <|> b.stop

instance : Append Account := ⟨append⟩

variable (a b : Account)

@[simp] theorem elements_append : (a ++ b).elements = a.elements + b.elements := rfl

@[simp] theorem cuts_append : (a ++ b).cuts = a.cuts ++ b.cuts := rfl

@[simp] theorem bare_append : (a ++ b).bare = a.bare ++ b.bare := rfl

@[simp] theorem stop_append : (a ++ b).stop = (a.stop <|> b.stop) := rfl

/-- The account of an element whose children have an account. -/
def begin (a : Account) : Account := { a with elements := a.elements + 1 }

end Account

/-- The notice that the steps ran out at a path. -/
def stopNotice (path : String) (steps : Nat) : Notice where
  code := "timeout"
  message := "walk stopped: " ++ (RunError.timeout steps).message
  path := some path

namespace RunState

/-- From a walk that goes on, the report has come as far as an account says, below the budget of the options
unless the steps ran out. -/
structure Accounted (options : Options) (a : Account) (s t : RunState) : Prop where
  openTypes : t.openTypes = s.openTypes
  halted : t.halted = a.stop.isSome
  isPartial : t.report.isPartial = (s.report.isPartial || a.stop.isSome)
  elements : t.report.elements = s.report.elements + a.elements
  steps : t.report.steps = s.report.steps + a.elements + a.stop.toList.length
  truncations : t.report.truncations.toList =
    s.report.truncations.toList ++ a.cuts ++ a.stop.toList.map (stopNotice · t.report.steps)
  taken : 0 < a.elements → options.isExceededBy (s.report.steps + a.elements) = false
  stopped : a.stop.isSome → options.isExceededBy (s.report.steps + a.elements + 1) = true

/-- Between two states no element was begun and nothing was cut off, and the walk goes on as it did. -/
structure Steady (s t : RunState) : Prop where
  openTypes : t.openTypes = s.openTypes
  halted : t.halted = s.halted
  isPartial : t.report.isPartial = s.report.isPartial
  elements : t.report.elements = s.report.elements
  steps : t.report.steps = s.report.steps
  truncations : t.report.truncations = s.report.truncations

namespace Steady

variable {s t u : RunState}

theorem refl (s : RunState) : s.Steady s := ⟨rfl, rfl, rfl, rfl, rfl, rfl⟩

theorem trans (hst : s.Steady t) (htu : t.Steady u) : s.Steady u where
  openTypes := htu.openTypes.trans hst.openTypes
  halted := htu.halted.trans hst.halted
  isPartial := htu.isPartial.trans hst.isPartial
  elements := htu.elements.trans hst.elements
  steps := htu.steps.trans hst.steps
  truncations := htu.truncations.trans hst.truncations

theorem of_chain (h : ReflTransGen Steady s t) : s.Steady t := by
  induction h with
  | refl => exact refl s
  | tail _ hstep ih => exact ih.trans hstep

theorem of_valueStep (h : ValueStep s t) : s.Steady t := by
  cases h with
  | drew | picked | related | used | followed => exact ⟨rfl, rfl, rfl, rfl, rfl, rfl⟩
  | counted change hcount => cases hcount <;> exact ⟨rfl, rfl, rfl, rfl, rfl, rfl⟩

end Steady

namespace Accounted

variable {options : Options} {a b : Account} {s t u : RunState}

theorem of_steady (hgoing : s.halted = false) (h : s.Steady t) : s.Accounted options {} t where
  openTypes := h.openTypes
  halted := h.halted.trans hgoing
  isPartial := by simp [h.isPartial]
  elements := h.elements
  steps := h.steps
  truncations := by simp [h.truncations]
  taken := nofun
  stopped := nofun

theorem refl (hgoing : s.halted = false) : s.Accounted options {} s := of_steady hgoing (.refl s)

theorem going (h : s.Accounted options a t) (hgoing : a.stop = none) : t.halted = false := by
  rw [h.halted, hgoing]
  rfl

/-- The reports of two parts in a row add up, when the walk goes on after the first one. -/
theorem append (hst : s.Accounted options a t) (hgoing : a.stop = none) (htu : t.Accounted options b u) :
    s.Accounted options (a ++ b) u := by
  have hsteps : t.report.steps = s.report.steps + a.elements := by rw [hst.steps, hgoing]; rfl
  have hstop : (a ++ b).stop = b.stop := by simp [hgoing]
  constructor
  · rw [htu.openTypes, hst.openTypes]
  · rw [htu.halted, hstop]
  · rw [htu.isPartial, hst.isPartial, hgoing, hstop]
    simp
  · rw [htu.elements, hst.elements, Account.elements_append, Nat.add_assoc]
  · rw [htu.steps, hsteps, hstop, Account.elements_append, Nat.add_assoc s.report.steps]
  · rw [htu.truncations, hst.truncations, hgoing, hstop]
    simp
  · intro hpos
    rw [Account.elements_append] at hpos ⊢
    rcases Nat.eq_zero_or_pos b.elements with hzero | hmore
    · rw [hzero, Nat.add_zero]
      exact hst.taken (by omega)
    · have htaken := htu.taken hmore
      rwa [hsteps, Nat.add_assoc] at htaken
  · intro hstopped
    rw [hstop] at hstopped
    have hexceeded := htu.stopped hstopped
    rwa [hsteps, Nat.add_assoc s.report.steps] at hexceeded

theorem after (hst : s.Steady t) (htu : t.Accounted options a u) : s.Accounted options a u where
  openTypes := htu.openTypes.trans hst.openTypes
  halted := htu.halted
  isPartial := hst.isPartial ▸ htu.isPartial
  elements := hst.elements ▸ htu.elements
  steps := hst.steps ▸ htu.steps
  truncations := hst.truncations ▸ htu.truncations
  taken := hst.steps ▸ htu.taken
  stopped := hst.steps ▸ htu.stopped

end Accounted
end RunState

namespace Run

variable {α : Type}

/-- An action begins no element and cuts nothing off, and it does not stop the walk. -/
abbrev IsSteady (m : Run α) : Prop := Confined RunState.Steady (fun _ => True) m

theorem IsSteady.steady {m : Run α} (hm : IsSteady m) {s t : RunState} {r : Except RunError α}
    (h : m.exec s = (r, t)) : s.Steady t :=
  .of_chain (hm.steps_of_exec h)

theorem TakesValueSteps.isSteady {failure : RunError → Prop} {m : Run α}
    (h : TakesValueSteps failure m) : IsSteady m :=
  h.mono (fun _ _ => .of_valueStep) fun _ _ => trivial

theorem follow_isSteady (e : TraceEvent) : IsSteady (follow e) :=
  .modify fun _ => .single ⟨rfl, rfl, rfl, rfl, rfl, rfl⟩

theorem followAll_isSteady (events : List TraceEvent) : IsSteady (followAll events) :=
  .modify fun _ => .single ⟨rfl, rfl, rfl, rfl, rfl, rfl⟩

theorem warn_isSteady (n : Notice) : IsSteady (warn n) :=
  (follow_isSteady _).bind fun _ => .modify fun _ => .single ⟨rfl, rfl, rfl, rfl, rfl, rfl⟩

theorem draw_isSteady (d : Random.Draw α) : IsSteady (draw d) :=
  .modifyGet fun _ => .single ⟨rfl, rfl, rfl, rfl, rfl, rfl⟩

theorem ofSchema_isSteady (found : Except SchemaError α) : IsSteady (ofSchema found) := by
  cases found with
  | ok a => exact .pure a
  | error e => exact .throw trivial

theorem countOmitted_isSteady : IsSteady (record .countOmitted) :=
  .modify fun _ => .single ⟨rfl, rfl, rfl, rfl, rfl, rfl⟩

theorem countAttribute_isSteady : IsSteady (record .countAttribute) :=
  .modify fun _ => .single ⟨rfl, rfl, rfl, rfl, rfl, rfl⟩

end Run

namespace Walk

variable {setup : Setup} {path : String} {stack : List String} {s s' : RunState}

/-! ## Steady parts of the walk -/

theorem buildAttributes_isSteady (owner : String) (scope : Nat) (attributes : List AttributeDecl) :
    IsSteady (buildAttributes setup owner scope attributes) := by
  induction attributes with
  | nil => exact .pure _
  | cons a rest ih =>
      unfold buildAttributes
      dsimp only
      split
      · exact countOmitted_isSteady.bind fun _ => ih
      · have hvalue : IsSteady (attributeValue setup a (owner ++ "/@" ++ a.name) scope) :=
          (ofSchema_isSteady _).bind fun _ => (Leaf.resolve_takesValueSteps setup _).isSteady
        exact hvalue.bind fun _ => countAttribute_isSteady.bind fun _ => ih.bind fun _ => .pure _

theorem leafText_isSteady (e : Element) (path : String) (facets : Facets) (scope : Nat) :
    IsSteady (leafText setup e path facets scope) := (Leaf.resolve_takesValueSteps setup _).isSteady

theorem becomesNil_isSteady (e : Element) (path : String) (rule : Option ElementRule) :
    IsSteady (becomesNil e path rule) := by
  unfold becomesNil
  split
  · exact .pure _
  · split
    · exact .pure _
    · exact (warn_isSteady _).bind fun _ => .pure _

theorem chooseFreely_isSteady (path : String) (branches : List Branch) :
    IsSteady (chooseFreely setup path branches) := by
  unfold chooseFreely
  split
  · exact .pure _
  · exact (draw_isSteady _).bind fun _ => (follow_isSteady _).bind fun _ => .pure _

theorem chooseBranch_isSteady (path : String) (rule : Option ElementRule) (members : List Particle) :
    IsSteady (chooseBranch setup path rule members) := by
  refine Confined.get.bind fun s => (followAll_isSteady _).bind fun _ => ?_
  dsimp only
  split
  · exact .pure _
  · split
    · exact chooseFreely_isSteady path _
    · split
      · exact (follow_isSteady _).bind fun _ => .pure _
      · exact (warn_isSteady _).bind fun _ => chooseFreely_isSteady path _

end Walk
end Specimen
