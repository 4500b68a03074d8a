import Specimen.Proofs.Leaf.Delivery
import Specimen.Proofs.Relation.Coherence
import Specimen.Proofs.Run.Documents
import Specimen.Proofs.Validity.Facets
import Specimen.Proofs.Walk.Evaluation

/-!
# Personas in documents

A leaf that asks for a field takes its next value, counted over the whole document, and a persona has one
record for each count.  So all leaves that a persona supplies for the same count carry the values of one
record, wherever they are.

It is not the element that they are in that counts.  Leaves of one element that belong to the same persona
carry the values of one record if their fields were asked for equally often before; where one of the fields
was asked for more often than another, they mix two records.
-/

namespace Specimen

open Run

open Specimen.Relation (HandsOut answers)

namespace Leaf

/-- The field that a leaf asks for, with the answer; a leaf that is fixed or has custom values that come
first asks for none. -/
def call? (setup : Setup) (s : RunState) (q : LeafRequest) : Option (String × Option String) :=
  match q.fixed, delegate? setup q with
  | none, some field =>
    match (Relation.resolveField setup (fieldSources setup) field).exec s with
    | (.ok value, _) => some (field, value)
    | (.error _, _) => none
  | _, _ => none

/-- A leaf of a document with the call that was made for its value. -/
structure AskedLeaf where
  leaf : DocumentLeaf
  call : Option (String × Option String)

/-- The calls that were made for leaves. -/
def callsFor (row : List AskedLeaf) : List (String × Option String) :=
  row.flatMap fun x => x.call.toList

/-- Leaves that were resolved in a row on the way from one state to another, with the calls that were made
for them, and nothing was settled in between. -/
inductive Asked (setup : Setup) : RunState → List AskedLeaf → RunState → Prop where
  | nil {s t : RunState} (hquiet : s.Quiet t) : Asked setup s [] t
  | cons {s t u v : RunState} {q : LeafRequest} {value : String} {rest : List AskedLeaf}
      (hquiet : s.Quiet t) (hrun : (resolve setup q).exec t = (.ok value, u))
      (hrest : Asked setup u rest v) :
      Asked setup s (⟨⟨q.name, q.path, value⟩, call? setup t q⟩ :: rest) v

/-- The relationship supplies the leaf at a position of a row by the `n`-th value of a field: the leaf has
asked for the field and had an answer, and `n` leaves before it have asked for this field. -/
structure Supplies (setup : Setup) (r : Relationship) (row : List AskedLeaf) (position : Nat)
    (field : String) (n : Nat) (leaf : DocumentLeaf) : Prop where
  answered : ∃ v, row[position]? = some ⟨leaf, some (field, some v)⟩
  owned : setup.plan.owns r field = true
  earlier : (answers field (callsFor (row.take position))).length = n

variable {setup : Setup} {root : Element} {q : LeafRequest} {s t u : RunState} {row : List AskedLeaf}

theorem Asked.after (hquiet : s.Quiet t) (h : Asked setup t row u) : Asked setup s row u := by
  cases h with
  | nil hq => exact .nil (hquiet.trans hq)
  | cons hq hrun hrest => exact .cons (hquiet.trans hq) hrun hrest

theorem Resolved.exists_asked {leaves : List DocumentLeaf} (h : Resolved setup root s leaves t) :
    ∃ row, Asked setup s row t ∧ row.map (·.leaf) = leaves := by
  obtain ⟨xs, hrow, rfl⟩ := h
  induction hrow with
  | nil hquiet => exact ⟨[], .nil hquiet, rfl⟩
  | cons hquiet _ hrun _ ih =>
      obtain ⟨row, hrow, hleaves⟩ := ih
      exact ⟨_, .cons hquiet hrun hrow, by rw [List.map_cons, List.map_cons, hleaves]; rfl⟩

/-- A leaf hands out the value that it asks for, and carries it. -/
theorem resolve_handsOut
    (hfields : ∀ field r, setup.plan.owner? field = some r → field ∈ r.fields) {value : String}
    (hrun : (resolve setup q).exec s = (.ok value, t)) :
    HandsOut setup s (call? setup s q).toList t ∧
      ∀ field v, call? setup s q = some (field, some v) → value = v := by
  unfold resolve at hrun
  unfold call?
  cases hfixed : q.fixed with
  | some fixed =>
      rw [hfixed] at hrun
      obtain ⟨_, u, hrecord, hrun⟩ := exec_bind_eq_ok.1 hrun
      obtain ⟨rfl, rfl⟩ := exec_pure_eq_ok.1 hrun
      have hsteps : TakesTentativeSteps (LeafFailure setup) (record (.countValue "fixed")) :=
        record_takesTentativeSteps (.value _)
      exact ⟨.of_quiet (hsteps.quiet hrecord), nofun⟩
  | none =>
      rw [hfixed] at hrun
      rcases resolveOpen_eq_ok hrun with
        ⟨hnone, hquiet⟩ | ⟨field, supplied, u, hfield, hsupplied, hquiet, hvalue⟩
      · rw [hnone]
        exact ⟨.of_quiet hquiet, nofun⟩
      · rw [hfield]
        dsimp only
        rw [hsupplied]
        constructor
        · exact (HandsOut.of_call fieldSources_supplied.leavesAlone (hfields field) hsupplied).trans
            (.of_quiet hquiet)
        · rintro _ v ⟨⟩
          exact hvalue v rfl

theorem Asked.handsOut (hfields : ∀ field r, setup.plan.owner? field = some r → field ∈ r.fields)
    (h : Asked setup s row t) : HandsOut setup s (callsFor row) t ∧
      ∀ x ∈ row, ∀ field v, x.call = some (field, some v) → x.leaf.value = v := by
  induction h with
  | nil hquiet => exact ⟨.of_quiet hquiet, List.forall_mem_nil _⟩
  | cons hquiet hrun _ ih =>
      obtain ⟨hhanded, hcarried⟩ := ih
      obtain ⟨hfirst, hvalue⟩ := resolve_handsOut hfields hrun
      exact ⟨(HandsOut.of_quiet hquiet).trans (hfirst.trans hhanded),
        List.forall_mem_cons.2 ⟨hvalue, hcarried⟩⟩

/-- A leaf that asks for a field and is answered carries the answer if its type allows it. -/
theorem resolve_of_answer (hfixed : q.fixed = none) {field : String}
    (hdelegate : delegate? setup q = some field) {value : String}
    (hcall : (Relation.resolveField setup (fieldSources setup) field).exec s = (.ok (some value), t))
    (hcheck : q.facets.check value setup.options.libraries.isMatch = .ok ())
    (hunique : setup.plan.settings.uniqueCombinations = false) :
    (resolve setup q).exec s =
        (.ok value, { t with report := t.report.countValue "relationship" }) ∧
      call? setup s q = some (field, some value) := by
  constructor
  · unfold resolve resolveOpen
    rw [hfixed, hdelegate]
    dsimp only
    rw [exec_bind_of_ok hcall]
    dsimp only
    unfold keepRelated keep markUsed
    rw [hcheck, hunique]
    cases q.scope <;> rfl
  · unfold call?
    rw [hfixed, hdelegate]
    dsimp only
    rw [hcall]

/-- The value of a leaf that a relationship supplies is an answer to the calls of the row. -/
theorem Supplies.answer {r : Relationship} {position n : Nat} {field : String} {leaf : DocumentLeaf}
    (h : Supplies setup r row position field n leaf)
    (hcarried : ∀ x ∈ row, ∀ field v, x.call = some (field, some v) → x.leaf.value = v) :
    (answers field (callsFor row))[n]? = some (some leaf.value) := by
  obtain ⟨v, hfound⟩ := h.answered
  obtain rfl : leaf.value = v := hcarried _ (List.mem_of_getElem? hfound) field v rfl
  have hdrop : row.drop position = ⟨leaf, some (field, some leaf.value)⟩ :: row.drop (position + 1) := by
    obtain ⟨hlt, hget⟩ := List.getElem?_eq_some_iff.1 hfound
    rw [List.drop_eq_getElem_cons hlt, hget]
  have hcalls : callsFor row = callsFor (row.take position) ++ (field, some leaf.value) ::
      callsFor (row.drop (position + 1)) := by
    unfold callsFor
    conv_lhs => rw [← List.take_append_drop position row, hdrop]
    rw [List.flatMap_append]
    rfl
  have hhead : ∀ rest, answers field ((field, some leaf.value) :: rest) =
      some leaf.value :: answers field rest := by
    intro rest
    unfold answers
    rw [List.filter_cons_of_pos (by simp)]
    rfl
  rw [hcalls, Relation.answers_append, hhead, ← h.earlier, List.getElem?_append_right (Nat.le_refl _),
    Nat.sub_self]
  rfl

end Leaf

namespace Generation

/-- In every document, the leaves that a persona supplies by the `n`-th values of their fields carry the
values of one record. -/
theorem supplied_from_one_record (schema : Schema) (config : Config) (options : Options) (setup : Setup)
    (root : Element) (hprepared : prepare schema config options = .ok (setup, root)) (seed : UInt64)
    (rng : Random.Rng) (made : Generated) (trace : Trace)
    (hrun : walkFrom setup root (firstState setup root seed rng) = (.ok made, trace)) :
    (∃ row t, Leaf.Asked setup (firstState setup root seed rng) row t ∧
      row.map (·.leaf) = made.document.documentLeaves) ∧
    ∀ row t, Leaf.Asked setup (firstState setup root seed rng) row t →
      row.map (·.leaf) = made.document.documentLeaves →
        ∀ r ∈ setup.plan.relationships, r.strategy = .consistentPersona → ∀ n,
          (∃ position field leaf, Leaf.Supplies setup r row position field n leaf) →
            ∃ index record, setup.recordAt? r index = some record ∧
              ∀ position field leaf, Leaf.Supplies setup r row position field n leaf →
                recordText? record (r.recordKey field) = some leaf.value := by
  have h := prepared_of_prepare hprepared
  obtain ⟨t, hdocument, -, -⟩ := walkFrom_eq_ok hrun
  refine ⟨?_, ?_⟩
  · obtain ⟨row, hrow, hleaves⟩ :=
      (Walk.buildDocument_resolved h.schema_valid h.root_passes hdocument).exists_asked
    exact ⟨row, t, hrow, hleaves⟩
  · intro row u hrow _ r hr hpersona n hsupplied
    obtain ⟨plan, warnings, hcompile, hplan, -⟩ := h.compiled
    have hfields : ∀ field r, setup.plan.owner? field = some r → field ∈ r.fields := by
      rw [hplan]
      exact fun field r => Config.mem_fields_of_owner? hcompile
    have hfound : setup.plan.relationship? r.id = some r := by
      rw [hplan] at hr ⊢
      exact Config.relationship?_of_mem hcompile hr
    obtain ⟨hhanded, hcarried⟩ := hrow.handsOut hfields
    have hrecords : u.relations.FromRecords setup r :=
      hhanded.coheres.fromRecords r hfound hpersona Relation.fromRecords_of_empty
    -- a value that was supplied is remembered for its instance, so it is from the record of the instance
    have hfrom : ∀ position field leaf, Leaf.Supplies setup r row position field n leaf →
        ∃ index record, u.relations.persona? r.id n = some (some index) ∧
          setup.recordAt? r index = some record ∧
            recordText? record (r.recordKey field) = some leaf.value := by
      intro position field leaf hleaf
      have hasked : (firstState setup root seed rng).relations.asked.getD field 0 = 0 :=
        Std.HashMap.getD_empty
      have hvalue := hhanded.remembered field n leaf.value (hleaf.answer hcarried)
      rw [hasked, Nat.zero_add] at hvalue
      exact hrecords n field leaf.value hleaf.owned hvalue
    obtain ⟨position, field, leaf, hleaf⟩ := hsupplied
    obtain ⟨index, record, hindex, hrecord, -⟩ := hfrom position field leaf hleaf
    refine ⟨index, record, hrecord, fun position field leaf hleaf => ?_⟩
    obtain ⟨index', record', hindex', hrecord', htext⟩ := hfrom position field leaf hleaf
    cases hindex.symm.trans hindex'
    cases hrecord.symm.trans hrecord'
    exact htext

/-! ## A team of one person -/

/-- A person with a first name and a mail address. -/
def personElement : Element :=
  .mk
    { name := "Person", typeRef := some "xs:string", fixed := some "x"
      attributes := [{ name := "First", required := true }, { name := "Mail", required := true }] } none

/-- The type of a person. -/
def personType : ResolvedType :=
  ⟨none, .builtin .string, [{ name := "First", required := true }, { name := "Mail", required := true }]⟩

/-- A team of one person, with a first name of its own. -/
def teamElement : Element :=
  .mk { name := "Team", attributes := [{ name := "First", required := true }] }
    (some (.mk { kind := .sequence } [.element personElement]))

/-- The type of the team. -/
def teamType : ResolvedType :=
  ⟨none, .complex (.mk { kind := .sequence } [.element personElement]),
    [{ name := "First", required := true }]⟩

def teamSchema : Schema where
  version := "0.1"
  elements := [teamElement]

open Specimen.Relation (people peopleConfig PersonRelationship)

/-- The setup of a run for a team. -/
def teamSetup : Setup :=
  ((prepare teamSchema peopleConfig {}).toOption.map (·.1)).getD { schema := teamSchema, plan := {} }

theorem prepare_team : prepare teamSchema peopleConfig {} = .ok (teamSetup, teamElement) :=
  prepare_eq_ok_of_isSome rfl (by decide +kernel) rfl rfl (by decide +kernel)

theorem exists_teamRelationship : ∃ r, PersonRelationship teamSetup r := by
  have hmerged := (prepared_of_prepare prepare_team).merged
  have hpeople : Contexts.merge peopleConfig.dataContexts =
      .ok ((Contexts.merge peopleConfig.dataContexts).toOption.getD {}) := rfl
  rw [hpeople] at hmerged
  refine Relation.exists_personRelationship (by decide +kernel) ?_
  rw [← Except.ok.inj hmerged]
  rfl

/-- The request for the text of an attribute. -/
def attributeRequest (name owner : String) (scope : Nat) : LeafRequest where
  name := "@" ++ name
  path := owner ++ "/@" ++ name
  facets := .ofBase .string
  scope := some scope

/-- The request for the text of the person. -/
def personRequest (scope : Nat) : LeafRequest where
  name := "Person"
  path := "Team/Person"
  facets := .ofBase .string
  fixed := some "x"
  scope := some scope

theorem team_unique : teamSetup.plan.settings.uniqueCombinations = false := by decide +kernel

theorem team_delegates (scope : Nat) :
    Leaf.delegate? teamSetup (attributeRequest "First" "Team" scope) = some "@First" ∧
      Leaf.delegate? teamSetup (attributeRequest "First" "Team/Person" scope) = some "@First" ∧
      Leaf.delegate? teamSetup (attributeRequest "Mail" "Team/Person" scope) = some "@Mail" := by
  have h : Leaf.delegate? teamSetup (attributeRequest "First" "Team" 0) = some "@First" ∧
      Leaf.delegate? teamSetup (attributeRequest "First" "Team/Person" 0) = some "@First" ∧
      Leaf.delegate? teamSetup (attributeRequest "Mail" "Team/Person" 0) = some "@Mail" := by decide +kernel
  exact h

theorem team_texts : ∀ text ∈ ["Ana", "Ben", "ana@x"],
    (Facets.ofBase .string).check text teamSetup.options.libraries.isMatch = .ok () := by
  intro text htext
  rw [Facets.check_eq_of_pattern_none rfl _ Pattern.accepts]
  revert text
  decide +kernel

section Team

open Specimen.Relation.PersonRelationship (TookFirst handsOut_first handsOut_second handsOut_mail)

variable {r : Relationship} {s : RunState}

/-- The team takes its first name from the first person. -/
theorem resolve_teamFirst (hr : PersonRelationship teamSetup r) (hrelations : s.relations = {})
    (hselection : s.selection = {}) (scope : Nat) :
    ∃ t, (Leaf.resolve teamSetup (attributeRequest "First" "Team" scope)).exec s = (.ok "Ana", t) ∧
      Leaf.call? teamSetup s (attributeRequest "First" "Team" scope) = some ("@First", some "Ana") ∧
      TookFirst r t.relations t.selection ∧ t.halted = s.halted ∧ t.report.steps = s.report.steps := by
  obtain ⟨hcall, htook⟩ := handsOut_first hr (Leaf.fieldSources teamSetup) hrelations hselection
  obtain ⟨hrun, hanswer⟩ := Leaf.resolve_of_answer rfl (team_delegates scope).1 hcall
    (team_texts "Ana" (by simp)) team_unique
  exact ⟨_, hrun, hanswer, htook, rfl, rfl⟩

/-- The person in it takes its first name from the second person. -/
theorem resolve_personFirst (hr : PersonRelationship teamSetup r)
    (hs : TookFirst r s.relations s.selection) (scope : Nat) :
    ∃ t, (Leaf.resolve teamSetup (attributeRequest "First" "Team/Person" scope)).exec s = (.ok "Ben", t) ∧
      Leaf.call? teamSetup s (attributeRequest "First" "Team/Person" scope) =
        some ("@First", some "Ben") ∧
      t.relations.asked.getD "@Mail" 0 = 0 ∧ t.relations.value? "@Mail" 0 = some "ana@x" ∧
      t.halted = s.halted := by
  obtain ⟨hcall, hasked, hmail⟩ := handsOut_second hr (Leaf.fieldSources teamSetup) hs
  obtain ⟨hrun, hanswer⟩ := Leaf.resolve_of_answer rfl (team_delegates scope).2.1 hcall
    (team_texts "Ben" (by simp)) team_unique
  exact ⟨_, hrun, hanswer, hasked, hmail, rfl⟩

/-- Its mail address is the first one that is asked for, so it is from the first person. -/
theorem resolve_personMail (hasked : s.relations.asked.getD "@Mail" 0 = 0)
    (hmail : s.relations.value? "@Mail" 0 = some "ana@x") (scope : Nat) :
    ∃ t, (Leaf.resolve teamSetup (attributeRequest "Mail" "Team/Person" scope)).exec s = (.ok "ana@x", t) ∧
      Leaf.call? teamSetup s (attributeRequest "Mail" "Team/Person" scope) =
        some ("@Mail", some "ana@x") ∧ t.halted = s.halted := by
  obtain ⟨hrun, hanswer⟩ := Leaf.resolve_of_answer rfl (team_delegates scope).2.2
    (handsOut_mail (Leaf.fieldSources teamSetup) hasked hmail) (team_texts "ana@x" (by simp)) team_unique
  exact ⟨_, hrun, hanswer, rfl⟩

/-- The person of the team. -/
def personNode : Node :=
  .mk
    { name := "Person"
      attributes := [{ name := "First", value := "Ben" }, { name := "Mail", value := "ana@x" }]
      text := some "x" } []

/-- The document of the team. -/
def teamDocument : Node :=
  .mk { name := "Team", attributes := [{ name := "First", value := "Ana" }] } [.element personNode]

/-- The leaves of the person with the calls that were made for them. -/
def personRow : List Leaf.AskedLeaf := [
  ⟨⟨"@First", "Team/Person/@First", "Ben"⟩, some ("@First", some "Ben")⟩,
  ⟨⟨"@Mail", "Team/Person/@Mail", "ana@x"⟩, some ("@Mail", some "ana@x")⟩,
  ⟨⟨"Person", "Team/Person", "x"⟩, none⟩]

/-- The leaves of the team with the calls that were made for them. -/
def teamRow : List Leaf.AskedLeaf :=
  ⟨⟨"@First", "Team/@First", "Ana"⟩, some ("@First", some "Ana")⟩ :: personRow

theorem team_isExceededBy : ∀ steps ≤ 2, teamSetup.options.isExceededBy steps = false := by
  rw [(prepared_of_prepare prepare_team).options_eq]
  decide

theorem walk_person (hr : PersonRelationship teamSetup r) (hs : TookFirst r s.relations s.selection)
    (hsteps : s.report.steps = 1) (hhalted : s.halted = false) (enter : Walk.Enter) (scope : Nat) :
    ∃ t, (Walk.walkElement teamSetup enter "Team" scope false personElement).exec s =
        (.ok [.element personNode], t) ∧ t.halted = false ∧ Leaf.Asked teamSetup s personRow t := by
  have hnil : (teamSetup.plan.rule? "Person" "Team/Person").any (·.nil) = false := by decide +kernel
  have hcount : Walk.occurrenceCount teamSetup personElement (joinPath "Team" "Person")
      (teamSetup.plan.rule? "Person" (joinPath "Team" "Person")) false = 1 := by decide +kernel
  have hcomments : teamSetup.plan.settings.includeComments = false := by decide +kernel
  have hresolve : teamSetup.schema.resolveType personElement = .ok personType := rfl
  have hfacets : personType.content.facets? = some (Facets.ofBase .string) := rfl
  obtain ⟨t, hname, hcallName, hasked, hmail, hhaltedt⟩ :=
    resolve_personFirst hr (s := Walk.atText s) hs (s.scopes + 1)
  obtain ⟨u, haddress, hcallAddress, hhaltedu⟩ :=
    resolve_personMail (s := { t with report := t.report.countAttribute }) hasked hmail (s.scopes + 1)
  have hhaltedu : u.halted = false := (hhaltedu.trans hhaltedt).trans hhalted
  -- the text is fixed, so nothing is asked for
  have htext : ∀ scope, (Leaf.resolve teamSetup (personRequest scope)).exec
      { u with report := u.report.countAttribute } =
        (.ok "x", { u with report := u.report.countAttribute.countValue "fixed" }) := fun _ => rfl
  have hattributes : (Walk.buildAttributes teamSetup "Team/Person" (s.scopes + 1)
      personType.attributes).exec (Walk.atText s) =
        (.ok [{ name := "First", value := "Ben" }, { name := "Mail", value := "ana@x" }],
          { u with report := u.report.countAttribute }) :=
    Walk.buildAttributes_of_value rfl hname (Walk.buildAttributes_of_value rfl haddress rfl)
  have hbudget := team_isExceededBy (s.report.steps + 1) (by rw [hsteps])
  refine ⟨{ u with report := u.report.countAttribute.countValue "fixed" }, ?_, hhaltedu, ?_⟩
  · have hcontent : (Walk.buildContent teamSetup personElement personType "Team/Person"
        { name := "Person"
          attributes := [{ name := "First", value := "Ben" }, { name := "Mail", value := "ana@x" }] } scope
        (Walk.insideNamed enter personType "Team/Person" (teamSetup.plan.rule? "Person" "Team/Person")
          (s.scopes + 1))).exec { u with report := u.report.countAttribute } =
            (.ok personNode, { u with report := u.report.countAttribute.countValue "fixed" }) :=
      Walk.buildContent_of_text hfacets (htext scope)
    have hoccurrence := Walk.buildOccurrence_of_parts hnil hbudget hattributes hcontent
    rw [if_neg (by simp [hhaltedu])] at hoccurrence
    have helement : (Walk.buildElement teamSetup personElement "Team" scope false
        (Walk.insideNamed enter)).exec s =
          (.ok [.element personNode], { u with report := u.report.countAttribute.countValue "fixed" }) := by
      refine Walk.buildElement_of_one hresolve rfl ?_ hcomments ?_
      · exact hcount
      · exact hoccurrence
    unfold personElement Walk.walkElement
    exact helement
  · have hlast := Leaf.Asked.cons (Walk.quiet_countAttribute u) (htext scope) (.nil (.refl _))
    have hrest := Leaf.Asked.cons (Walk.quiet_countAttribute t) haddress hlast
    have hall := Leaf.Asked.cons (Walk.quiet_atText s) hname hrest
    rw [hcallName, hcallAddress] at hall
    exact hall

/-- Whatever the seed and the random numbers, the team is built as it is, by these calls. -/
theorem team_run (hr : PersonRelationship teamSetup r) (seed : UInt64) (rng : Random.Rng) :
    ∃ t, (Walk.buildDocument teamSetup teamElement).exec (firstState teamSetup teamElement seed rng) =
        (.ok teamDocument, t) ∧
      Leaf.Asked teamSetup (firstState teamSetup teamElement seed rng) teamRow t := by
  have hnil : (teamSetup.plan.rule? "Team" "Team").any (·.nil) = false := by decide +kernel
  have hcount : Walk.groupCount teamSetup (.mk { kind := .sequence } [.element personElement]) "Team"
      false = 1 := by decide +kernel
  have hresolve : teamSetup.schema.resolveType teamElement = .ok teamType := rfl
  have huri : (teamElement.decl.uri <|> teamSetup.schema.targetNamespace) = none := by
    rw [(prepared_of_prepare prepare_team).schema_eq]
    rfl
  obtain ⟨t, hname, hcallName, htook, hhaltedt, hstepst⟩ := resolve_teamFirst hr
    (s := Walk.atText { firstState teamSetup teamElement seed rng with scopes := 1 }) rfl rfl 2
  obtain ⟨u, hperson, hhaltedu, hasked⟩ := walk_person hr (s := { t with
    report := t.report.countAttribute }) htook hstepst hhaltedt (Walk.enter teamSetup) 2
  have hattributes : (Walk.buildAttributes teamSetup "Team" 2 teamType.attributes).exec
      (Walk.atText { firstState teamSetup teamElement seed rng with scopes := 1 }) =
        (.ok [{ name := "First", value := "Ana" }], { t with report := t.report.countAttribute }) :=
    Walk.buildAttributes_of_value rfl hname rfl
  have hinside : (Walk.insideOf teamSetup teamElement teamType "Team" (teamSetup.plan.rule? "Team" "Team")
      2).exec { t with report := t.report.countAttribute } = (.ok [.element personNode], u) :=
    Walk.walkGroup_of_element rfl hcount hperson
  have hcontent : (Walk.buildContent teamSetup teamElement teamType "Team"
      { name := "Team", attributes := [{ name := "First", value := "Ana" }] } 1
      (Walk.insideOf teamSetup teamElement teamType "Team" (teamSetup.plan.rule? "Team" "Team") 2)).exec
        { t with report := t.report.countAttribute } = (.ok teamDocument, u) :=
    Walk.buildContent_of_inside rfl rfl hinside
  have hoccurrence : (Walk.buildOccurrence teamSetup teamElement teamType "Team"
      (teamSetup.plan.rule? "Team" "Team") none 1 (Walk.insideOf teamSetup teamElement teamType "Team"
        (teamSetup.plan.rule? "Team" "Team"))).exec
          { firstState teamSetup teamElement seed rng with scopes := 1 } =
            (.ok (some (if u.halted then teamDocument.truncate else teamDocument)), u) :=
    Walk.buildOccurrence_of_parts hnil (team_isExceededBy 1 (by decide)) hattributes hcontent
  rw [if_neg (by simp [hhaltedu]), ← huri] at hoccurrence
  refine ⟨u, Walk.buildDocument_of_occurrence hresolve rfl hoccurrence, ?_⟩
  have hscope : RunState.Quiet (firstState teamSetup teamElement seed rng)
      { firstState teamSetup teamElement seed rng with scopes := 1 } :=
    ⟨.of_same rfl rfl rfl rfl, rfl, rfl, rfl⟩
  have hrow := Leaf.Asked.cons (hscope.trans (Walk.quiet_atText _)) hname
    (hasked.after (Walk.quiet_countAttribute t))
  rw [hcallName] at hrow
  exact hrow

theorem walkFrom_team (hr : PersonRelationship teamSetup r) (seed : UInt64) (rng : Random.Rng) :
    ∃ made trace t, walkFrom teamSetup teamElement (firstState teamSetup teamElement seed rng) =
        (.ok made, trace) ∧ made.document = teamDocument ∧
      Leaf.Asked teamSetup (firstState teamSetup teamElement seed rng) teamRow t := by
  obtain ⟨t, hdocument, hasked⟩ := team_run hr seed rng
  refine ⟨⟨teamDocument, t.report, teamSetup.plan⟩, t.trace, t, ?_, rfl, hasked⟩
  unfold walkFrom
  rw [hdocument]
  rfl

theorem team_supplies (hr : PersonRelationship teamSetup r) :
    Leaf.Supplies teamSetup r teamRow 0 "@First" 0 ⟨"@First", "Team/@First", "Ana"⟩ ∧
      Leaf.Supplies teamSetup r teamRow 1 "@First" 1 ⟨"@First", "Team/Person/@First", "Ben"⟩ ∧
      Leaf.Supplies teamSetup r teamRow 2 "@Mail" 0 ⟨"@Mail", "Team/Person/@Mail", "ana@x"⟩ := by
  have howned := hr.turns.owned
  rw [hr.fields] at howned
  have hfirst := howned "@First" (by simp)
  have hmail := howned "@Mail" (by simp)
  exact ⟨⟨⟨_, rfl⟩, hfirst, by decide⟩, ⟨⟨_, rfl⟩, hfirst, by decide⟩, ⟨⟨_, rfl⟩, hmail, by decide⟩⟩

/-- The team and the person in it have the name and the address of one record between them. -/
theorem supplied_from_one_record_team : ∃ made trace,
    prepare teamSchema peopleConfig {} = .ok (teamSetup, teamElement) ∧
      walkFrom teamSetup teamElement (firstState teamSetup teamElement 0 (.ofSeed 0)) = (.ok made, trace) ∧
      made.document = teamDocument ∧
      ∃ r ∈ teamSetup.plan.relationships, ∃ index record, teamSetup.recordAt? r index = some record ∧
        recordText? record (r.recordKey "@First") = some "Ana" ∧
        recordText? record (r.recordKey "@Mail") = some "ana@x" := by
  obtain ⟨r, hr⟩ := exists_teamRelationship
  have hmem : r ∈ teamSetup.plan.relationships :=
    (Relation.owner?_spec (hr.owner "@First" (by simp [hr.fields]))).1
  obtain ⟨made, trace, t, hrun, hdocument, hasked⟩ := walkFrom_team hr 0 (.ofSeed 0)
  obtain ⟨hteam, -, hmail⟩ := team_supplies hr
  obtain ⟨-, hone⟩ := supplied_from_one_record teamSchema peopleConfig {} teamSetup teamElement
    prepare_team 0 (.ofSeed 0) made trace hrun
  obtain ⟨index, record, hrecord, htexts⟩ :=
    hone teamRow t hasked (by rw [hdocument]; decide) r hmem hr.turns.strategy 0 ⟨_, _, _, hteam⟩
  exact ⟨made, trace, prepare_team, hrun, hdocument, r, hmem, index, record, hrecord, htexts _ _ _ hteam,
    htexts _ _ _ hmail⟩

/-- One element can mix two records: the team has a name of its own, so the person in it takes its name from
the second record, but its mail address from the first. -/
theorem records_mixed_in_element : ∃ setup root made trace row t r,
    prepare teamSchema peopleConfig {} = .ok (setup, root) ∧ walk setup root 0 = (.ok made, trace) ∧
      Leaf.Asked setup (firstState setup root 0 (.ofSeed 0)) row t ∧
      row.map (·.leaf) = made.document.documentLeaves ∧
      r ∈ setup.plan.relationships ∧ r.strategy = .consistentPersona ∧
      made.document.elements = [personNode] ∧
      made.document.documentLeaves.drop 1 = personNode.leaves "Team/Person" ∧
      Leaf.Supplies setup r row 1 "@First" 1 ⟨"@First", "Team/Person/@First", "Ben"⟩ ∧
      Leaf.Supplies setup r row 2 "@Mail" 0 ⟨"@Mail", "Team/Person/@Mail", "ana@x"⟩ ∧
      ¬ ∃ index record, setup.recordAt? r index = some record ∧
        recordText? record (r.recordKey "@First") = some "Ben" ∧
        recordText? record (r.recordKey "@Mail") = some "ana@x" := by
  obtain ⟨r, hr⟩ := exists_teamRelationship
  have hmem : r ∈ teamSetup.plan.relationships :=
    (Relation.owner?_spec (hr.owner "@First" (by simp [hr.fields]))).1
  obtain ⟨made, trace, t, hrun, hdocument, hasked⟩ := walkFrom_team hr 0 (.ofSeed 0)
  obtain ⟨-, hname, hmail⟩ := team_supplies hr
  refine ⟨teamSetup, teamElement, made, trace, teamRow, t, r, prepare_team, hrun, hasked,
    by rw [hdocument]; decide, hmem, hr.turns.strategy, by rw [hdocument]; rfl, by rw [hdocument]; decide,
    hname, hmail, ?_⟩
  rintro ⟨index, record, hrecord, hfirst, hlast⟩
  obtain ⟨source, hsource, hpeople⟩ := hr.turns.source
  have hget : people[index]? = some record := by
    unfold Setup.recordAt? at hrecord
    rw [hsource, Option.bind_some, hpeople] at hrecord
    exact hrecord
  rw [hr.keys.1] at hfirst
  rw [hr.keys.2] at hlast
  match index with
  | 0 =>
      cases hget
      exact absurd hfirst (by decide)
  | 1 =>
      cases hget
      exact absurd hlast (by decide)
  | index + 2 => cases hget

end Team

end Generation
end Specimen
