import Specimen.Proofs.Plan.Specificity
import Specimen.Proofs.Run.Cuts

/-!
# What the complete mode includes

The complete mode keeps every optional attribute and every optional element.  How often an element then occurs is
another question: a rule or the settings ask for a number, up to a ceiling.  If the number and the ceiling are not
zero, an optional element that may occur does so in each repetition of a sequence of which it is a member.
-/

namespace Specimen

open Run

namespace Walk

variable {setup : Setup} {root : Element} {path : String} {stack : List String}

/-! ## How often optional elements occur -/

theorem optionalPresent_of_complete (hmode : setup.plan.settings.mode = .complete) (name path : String) :
    optionalPresent setup name path = true := by
  unfold optionalPresent
  rw [hmode]

/-- An occurrence of an element at a path is asked for, by its rule or else by the settings, and the ceiling allows
one. -/
def Asked (setup : Setup) (e : Element) (path : String) : Prop :=
  setup.plan.settings.unboundedCount ≠ 0 ∧
    match (setup.plan.rule? e.name path).bind (·.repeatCount) with
    | some n => n ≠ 0
    | none => setup.plan.settings.repeatCount ≠ 0

theorem toNat_pos {n : UInt32} : 0 < n.toNat ↔ n ≠ 0 := by
  rw [Nat.pos_iff_ne_zero, Ne, Ne, not_iff_not]
  exact UInt32.toNat_inj (b := 0)

theorem clampOccurs_pos {low : Nat} {high : MaxOccurs} (hhigh : high.limit? ≠ some 0) (requested ceiling : Nat) :
    0 < clampOccurs requested low high ceiling ↔ 0 < low ∨ 0 < ceiling ∧ 0 < requested := by
  unfold clampOccurs
  cases hlimit : high.limit? with
  | none =>
      dsimp only
      omega
  | some limit =>
      have hne : limit ≠ 0 := fun hzero => hhigh (hlimit.trans (congrArg some hzero))
      dsimp only
      omega

/-- In the complete mode an element that may occur does so exactly if it has to or is asked for. -/
theorem occurrenceCount_pos (hmode : setup.plan.settings.mode = .complete) {e : Element}
    (hhigh : e.maxOccurs.limit? ≠ some 0) (path : String) (force : Bool) :
    0 < occurrenceCount setup e path (setup.plan.rule? e.name path) force ↔
      0 < leastOccurs e.minOccurs force ∨ Asked setup e path := by
  have hkept : ¬ (leastOccurs e.minOccurs force = 0 ∧ (!optionalPresent setup e.name path) = true) := by
    rw [optionalPresent_of_complete hmode]
    simp
  have hminimal : ¬ setup.plan.settings.mode = .minimalistic := by
    rw [hmode]
    decide
  unfold occurrenceCount Asked
  dsimp only
  rw [if_neg hkept, clampOccurs_pos hhigh, toNat_pos]
  cases hasked : (setup.plan.rule? e.name path).bind (·.repeatCount) with
  | some n => rw [toNat_pos]
  | none => rw [if_neg hminimal, toNat_pos]

/-- The complete mode leaves out no attribute. -/
theorem AreKept.all (hmode : setup.plan.settings.mode = .complete) {owner : String} {attributes : List AttributeDecl}
    {built : List Attribute} (h : AreKept setup owner attributes built) :
    built.map Attribute.expandedName = attributes.map AttributeDecl.expandedName := by
  have hkept : ∀ a ∈ attributes, keeps setup owner a = true := fun a _ => by
    unfold keeps
    rw [optionalPresent_of_complete hmode, Bool.or_true]
  exact h.trans (congrArg (List.map _) (List.filter_eq_self.2 hkept))

/-! ## What is in a document -/

/-- What was built for a task is not marked and has all that is optional.  Each element has all attributes that are
declared for it, in order.  Each optional element that is asked for is there in every repetition of a sequence of which
it is a member. -/
inductive Included (setup : Setup) : (path : String) → Task → List Node → Prop where
  /-- The element is nil, or its type has no members. -/
  | flat {path : String} {e : Element} {type : ResolvedType} {n : Node}
      (htype : setup.schema.resolveType e = .ok type) (hname : n.name = e.name)
      (hflat : n.head.nil = true ∨ ∀ g, type.content ≠ .complex g) (hchildren : n.children = [])
      (hmark : n.head.truncated = false)
      (hattributes : n.head.attributes.map Attribute.expandedName =
        type.attributes.map AttributeDecl.expandedName) : Included setup path (.occurrence e) [n]
  | nested {path : String} {e : Element} {type : ResolvedType} {g : Group} {n : Node}
      (htype : setup.schema.resolveType e = .ok type) (hname : n.name = e.name)
      (hcontent : type.content = .complex g)
      (hinside : Included setup (joinPath path e.name) (.group false g) (elementsAmong n.children))
      (hmark : n.head.truncated = false)
      (hattributes : n.head.attributes.map Attribute.expandedName =
        type.attributes.map AttributeDecl.expandedName) : Included setup path (.occurrence e) [n]
  /-- An element that may occur is there if it is asked for, also when it is optional. -/
  | occurrences {path : String} {force : Bool} {e : Element} {nodes : List Node}
      (hasked : e.maxOccurs.limit? ≠ some 0 → Asked setup e (joinPath path e.name) → nodes ≠ [])
      (hrow : Included setup path (.row (List.replicate nodes.length (.occurrence e))) nodes) :
      Included setup path (.element force e) nodes
  | repetitions {path : String} {force : Bool} {g : Group} {nodes : List Node}
      (hrow : Included setup path
        (.row (List.replicate (groupCount setup g path force) (.repetition g))) nodes) :
      Included setup path (.group force g) nodes
  | all {path : String} {g : Group} {nodes : List Node} (hkind : g.kind ≠ .choice)
      (hrow : Included setup path (.row (g.members.map (.ofParticle false))) nodes) :
      Included setup path (.repetition g) nodes
  | branch {path : String} {g : Group} {p : Particle} {nodes : List Node} (hkind : g.kind = .choice)
      (hmember : p ∈ g.members) (hbranch : Included setup path (.ofParticle true p) nodes) :
      Included setup path (.repetition g) nodes
  | nothing {path : String} {g : Group} (hkind : g.kind = .choice) : Included setup path (.repetition g) []
  | done {path : String} : Included setup path (.row []) []
  | next {path : String} {task : Task} {rest : List Task} {own more : List Node}
      (hfirst : Included setup path task own) (hrest : Included setup path (.row rest) more) :
      Included setup path (.row (task :: rest)) (own ++ more)

/-- As long as the steps last, there is an element for each occurrence. -/
theorem Built.length_occurrences {e : Element} {count : Nat} {nodes : List Node} {a : Account}
    (h : Built setup path stack (.row (List.replicate count (.occurrence e))) nodes a) (hgoing : a.stop = none) :
    nodes.length = count := by
  induction count generalizing nodes a with
  | zero =>
      cases h
      rfl
  | succ count ih =>
      rw [List.replicate_succ] at h
      cases h with
      | last _ hstop =>
          rw [hgoing] at hstop
          cases hstop
      | next hfirst hown hrest =>
          rw [Account.stop_append, hown] at hgoing
          rw [List.length_append, ih hrest hgoing, Nat.add_comm]
          cases hfirst with
          | missing => cases hown
          | flat => rfl
          | nested => rfl

/-- Where nothing was cut off and the steps have lasted, the complete mode has included what it is asked for. -/
theorem Built.included (hmode : setup.plan.settings.mode = .complete) {task : Task} {nodes : List Node} {a : Account}
    (h : Built setup path stack task nodes a) (hcuts : a.cuts = []) (hgoing : a.stop = none) :
    Included setup path task nodes := by
  induction h with
  | missing => cases hgoing
  | cut => cases hcuts
  | flat htype _ _ hname hflat hchildren hmark hattributes =>
      exact .flat htype hname hflat hchildren hmark (hattributes.all hmode)
  | @nested _ _ _ _ _ _ a _ htype _ _ hname _ hcontent _ hmark hattributes ih =>
      have hstop : a.stop = none := hgoing
      rw [hstop] at hmark
      exact .nested htype hname hcontent (ih hcuts hgoing) hmark (hattributes.all hmode)
  | @occurrences path _ force e nodes _ hrow ih =>
      have hlength := hrow.length_occurrences hgoing
      refine .occurrences (fun hhigh hasked => ?_) (hlength ▸ ih hcuts hgoing)
      rw [← List.length_pos_iff, hlength]
      exact (occurrenceCount_pos hmode hhigh _ force).2 (.inr hasked)
  | repetitions _ ih => exact .repetitions (ih hcuts hgoing)
  | all hkind _ ih => exact .all hkind (ih hcuts hgoing)
  | branch hkind hmember _ _ _ ih => exact .branch hkind hmember (ih hcuts hgoing)
  | empty hkind _ => exact .nothing hkind
  | bare hkind _ _ _ => exact .nothing hkind
  | done => exact .done
  | last _ hstop _ =>
      rw [hgoing] at hstop
      cases hstop
  | next _ hown _ ihfirst ihrest =>
      obtain ⟨hcutsOwn, hcutsMore⟩ := List.append_eq_nil_iff.1 hcuts
      rw [Account.stop_append, hown] at hgoing
      exact .next (ihfirst hcutsOwn hown) (ihrest hcutsMore hgoing)

end Walk

/-! ## What a configuration asks for -/

namespace Config

variable {c : Config} {plan : Plan}

theorem counts_of_compile (h : c.compile = .ok plan) :
    plan.settings.repeatCount = c.settings.repeatCount ∧
      plan.settings.unboundedCount = c.settings.unboundedCount := by
  obtain ⟨-, rfl⟩ := compile_eq_ok h
  exact ⟨rfl, rfl⟩

/-- A rule asks for as many occurrences as the element of the configuration that it was made of. -/
theorem exists_element_of_rule (h : c.compile = .ok plan) {rule : ElementRule} (hrule : rule ∈ plan.rules) :
    ∃ entry ∈ c.elements.entries, rule.repeatCount = entry.2.repeatCount := by
  obtain ⟨-, rfl⟩ := compile_eq_ok h
  obtain ⟨checked, hchecked, hsome⟩ := List.mem_filterMap.1 hrule
  obtain ⟨entry, hentry, rfl⟩ := List.mem_map.1 hchecked
  refine ⟨entry, hentry, ?_⟩
  rw [← Option.some.inj (ifSound_eq_some hsome)]

end Config

namespace Generation

variable {schema : Schema} {config : Config} {options : Options} {setup : Setup} {root : Element}

/-- Every element is asked for if the settings and the elements of a configuration never ask for none. -/
theorem Prepared.asked (h : Prepared schema config options setup root)
    (helements : ∀ entry ∈ config.elements.entries, entry.2.repeatCount ≠ some 0)
    (hrepeat : config.settings.repeatCount ≠ 0) (hceiling : config.settings.unboundedCount ≠ 0) (e : Element)
    (path : String) : Walk.Asked setup e path := by
  obtain ⟨plan, warnings, hcompile, hplan, -⟩ := h.compiled
  obtain ⟨hsameRepeat, hsameCeiling⟩ := Config.counts_of_compile hcompile
  unfold Walk.Asked
  rw [hplan]
  change plan.settings.unboundedCount ≠ 0 ∧ _
  rw [hsameCeiling]
  refine ⟨hceiling, ?_⟩
  split
  · rename_i n hn
    obtain ⟨rule, hrule, hcount⟩ := Option.bind_eq_some_iff.1 hn
    have hmem : rule ∈ plan.rules := Plan.mem_rules_of_rule? hrule
    obtain ⟨entry, hentry, hsame⟩ := Config.exists_element_of_rule hcompile hmem
    rintro rfl
    exact helements entry hentry (hsame.symm.trans hcount)
  · change plan.settings.repeatCount ≠ 0
    rw [hsameRepeat]
    exact hrepeat

/-- Whether a run is in the complete mode and gives a letter in which nothing was cut off and nothing is written. -/
def isBlank (made : Generated) : Bool :=
  made.report.mode == "complete" && !made.report.isPartial && made.report.truncations.isEmpty &&
    (made.document.elements.map (·.name)).isEmpty

end Generation
end Specimen
