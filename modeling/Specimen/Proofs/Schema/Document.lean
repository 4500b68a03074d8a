import Specimen.Proofs.Json.Records
import Specimen.Schema.Document

/-!
# Schemas read back

What is written for a schema is read back as the same schema.  Every record is written in the order of its
fields, and what is left out is what the reader starts from.  Elements, groups and members are read by
following the document down, so they are taken together, by induction on how far down the reader goes.
-/

namespace Specimen

open Json

/-! ## Plain values -/

theorem readWord32_write (n : UInt32) : readWord32 (writeWord32 n) = .ok n := by
  have hhigh : (n.toNat : Int) ≤ Nat.pow 2 32 - 1 := by
    have hlt : n.toNat < 2 ^ 32 := n.toNat_lt
    have hpow : ((Nat.pow 2 32 : Nat) : Int) = 4294967296 := rfl
    omega
  rw [readWord32, readNat32, writeWord32, Json.nat, readInt_of_le (Int.natCast_nonneg _) hhigh]
  exact congrArg Except.ok (by simp)

namespace Primitive

theorem ofName?_xsdName (p : Primitive) : ofName? p.xsdName = some p := by
  cases p <;> rfl

theorem read_xsdName (source : Source) (p : Primitive) : read source (.string p.xsdName) = .ok p := by
  have hword : readVariant source (all.map xsdName) (.string p.xsdName) = .ok p.xsdName :=
    readWord_of_mem (List.mem_map_of_mem p.mem_all)
  rw [read, hword, Except.map, ofName?_xsdName, Option.getD_some]

end Primitive

theorem MaxOccurs.read_toJson (m : MaxOccurs) : MaxOccurs.read m.toJson = .ok m := by
  cases m with
  | bounded n =>
    rw [MaxOccurs.read, MaxOccurs.toJson, readWord32_write]
  | unbounded => rfl

theorem GroupKind.read_name (source : Source) (k : GroupKind) : GroupKind.read source (.string k.name) = .ok k := by
  cases k <;> rfl

theorem readOption_text {v : Option String} : ∀ s ∈ v, readOption readString (.string s) = .ok (some s) :=
  fun _ _ => rfl

theorem readOption_word32 {v : Option UInt32} :
    ∀ n ∈ v, readOption readWord32 (writeWord32 n) = .ok (some n) :=
  fun n _ => readOption_of_ne_null nofun (readWord32_write n)

/-! ## Facets and attributes -/

theorem Facets.keys_nodup (source : Source) : ((Facets.record source).fields.map Field.key).Nodup := by
  change List.Nodup ["base", "pattern", "enumeration", "length", "min_length", "max_length", "min_inclusive",
    "max_inclusive", "min_exclusive", "max_exclusive", "total_digits", "fraction_digits"]
  decide

theorem Facets.read_toJson (source : Source) (f : Facets) : Facets.read source f.toJson = .ok f := by
  refine Record.read_object source (Facets.keys_nodup source) ?_
  simp only [List.append_assoc, List.singleton_append]
  refine .needed (f.base.read_xsdName source) ?_
  refine .ifSome rfl readOption_text ?_
  refine .ifAny rfl (fun _ _ => rfl) ?_
  refine .ifSome rfl readOption_word32 ?_
  refine .ifSome rfl readOption_word32 ?_
  refine .ifSome rfl readOption_word32 ?_
  refine .ifSome rfl readOption_text ?_
  refine .ifSome rfl readOption_text ?_
  refine .ifSome rfl readOption_text ?_
  refine .ifSome rfl readOption_text ?_
  refine .ifSome rfl readOption_word32 ?_
  refine .ifSome rfl readOption_word32 ?_
  exact .done f

theorem readOption_facets (source : Source) {v : Option Facets} :
    ∀ f ∈ v, readOption (Facets.read source) f.toJson = .ok (some f) :=
  fun f _ => readOption_object (f.read_toJson source)

theorem AttributeDecl.keys_nodup (source : Source) :
    ((AttributeDecl.record source).fields.map Field.key).Nodup := by
  change List.Nodup ["name", "namespace", "type_ref", "simple_type", "required", "fixed", "default"]
  decide

theorem AttributeDecl.read_toJson (source : Source) (a : AttributeDecl) :
    AttributeDecl.read source a.toJson = .ok a := by
  refine Record.read_object source (AttributeDecl.keys_nodup source) ?_
  simp only [List.append_assoc, List.singleton_append]
  refine .needed rfl ?_
  refine .ifSome rfl readOption_text ?_
  refine .ifSome rfl readOption_text ?_
  refine .ifSome rfl (readOption_facets source) ?_
  refine .optional rfl ?_
  refine .ifSome rfl readOption_text ?_
  refine .ifSome rfl readOption_text ?_
  exact .done a

/-! ## Elements and groups -/

section Parts

variable {source : Source}

theorem Element.members_mk (e : ElementDecl) (content : Option Group) :
    (Element.mk e content).members =
      [("name", .string e.name)] ++
      memberIfSome "namespace" .string e.uri ++
      memberIfSome "type_ref" .string e.typeRef ++
      [("min_occurs", writeWord32 e.minOccurs), ("max_occurs", e.maxOccurs.toJson),
        ("nillable", .bool e.nillable)] ++
      memberIfSome "simple_type" Facets.toJson e.simpleType ++
      memberIfSome "content" Group.toJson content ++
      memberIfAny "attributes" AttributeDecl.toJson e.attributes ++
      memberIfSome "fixed" .string e.fixed ++
      memberIfSome "default" .string e.default := by
  cases content <;> rfl

/-- The document of a member of a group: that of the element or group, with a tag in front. -/
def Particle.toJson : Particle → Json
  | .element e => .object (("particle", .string "element") :: e.members)
  | .group g => .object (("particle", .string "group") :: g.documentMembers)

theorem writeParticles_eq_map (ps : List Particle) : writeParticles ps = ps.map Particle.toJson := by
  induction ps with
  | nil => rfl
  | cons p rest ih => cases p <;> simp only [writeParticles, Particle.toJson, List.map_cons, ih]

theorem Element.record_keys (source : Source) (readContent : Json → Decoded Group) :
    (Element.record source readContent).fields.map Field.key =
      ["name", "namespace", "type_ref", "min_occurs", "max_occurs", "nillable", "simple_type", "content",
        "attributes", "fixed", "default"] :=
  rfl

theorem Group.record_keys (source : Source) (readMember : Json → Decoded Particle) :
    (Group.record source readMember).fields.map Field.key = ["kind", "members", "min_occurs", "max_occurs"] :=
  rfl

/-- The members of an element fill its record when the content can be read back. -/
theorem Element.fills {readContent : Json → Decoded Group} (e : ElementDecl) {content : Option Group}
    (hcontent : ∀ g ∈ content, readContent g.toJson = .ok g) :
    Fills (Element.record source readContent).fields (Element.record source readContent).blank
      ((Element.mk e content).members ++ []) (e, content) := by
  rw [Element.members_mk]
  simp only [List.append_assoc, List.cons_append, List.nil_append]
  refine .needed rfl ?_
  refine .ifSome rfl readOption_text ?_
  refine .ifSome rfl readOption_text ?_
  refine .optional (readWord32_write _) ?_
  refine .optional e.maxOccurs.read_toJson ?_
  refine .optional rfl ?_
  refine .ifSome rfl (readOption_facets source) ?_
  -- What was read so far, written out; what is compared from here on stays small.
  change Fills _ (({
    name := e.name, uri := e.uri, typeRef := e.typeRef, minOccurs := e.minOccurs,
    maxOccurs := e.maxOccurs, nillable := e.nillable, simpleType := e.simpleType } : ElementDecl), none) _ _
  refine .ifSome rfl (fun g hg => readOption_object (hcontent g hg)) ?_
  refine .ifAny rfl (fun a _ => a.read_toJson source) ?_
  refine .ifSome rfl readOption_text ?_
  refine .ifSome rfl readOption_text ?_
  exact .done (e, content)

/-- The members of a group fill its record when its parts can be read back. -/
theorem Group.fills {readMember : Json → Decoded Particle} (g : GroupDecl) {members : List Particle}
    (hmembers : ∀ p ∈ members, readMember p.toJson = .ok p) :
    Fills (Group.record source readMember).fields (Group.record source readMember).blank
      ((Group.mk g members).documentMembers ++ []) (g, members) := by
  simp only [Group.documentMembers, writeParticles_eq_map, List.cons_append, List.nil_append]
  refine .needed (g.kind.read_name source) ?_
  refine .optional (readList_map hmembers) ?_
  refine .optional (readWord32_write _) ?_
  refine .optional g.maxOccurs.read_toJson ?_
  exact .done (g, members)

theorem Element.read_members {readContent : Json → Decoded Group} (e : ElementDecl) {content : Option Group}
    (hcontent : ∀ g ∈ content, readContent g.toJson = .ok g) :
    (Element.record source readContent).read source (Element.mk e content).toJson = .ok (e, content) :=
  Record.read_object source (by rw [Element.record_keys]; decide) (Element.fills e hcontent)

theorem Group.read_members {readMember : Json → Decoded Particle} (g : GroupDecl) {members : List Particle}
    (hmembers : ∀ p ∈ members, readMember p.toJson = .ok p) :
    (Group.record source readMember).read source (Group.mk g members).toJson = .ok (g, members) :=
  Record.read_object source (by rw [Group.record_keys]; decide) (Group.fills g hmembers)

end Parts

/-! ## Tags -/

/-- Nothing that fills a record is taken for a tag when no field has its key. -/
theorem filter_tag_of_fills {α : Type} {record : Record α} {members : List (String × Json)} {a : α}
    (hkeys : "particle" ∉ record.fields.map Field.key)
    (hfills : Fills record.fields record.blank (members ++ []) a) :
    members.filter (fun m => m.1 != "particle") = members := by
  rw [List.append_nil] at hfills
  refine List.filter_eq_self.2 fun m hm => ?_
  have hne : m.1 ≠ "particle" := fun h => hkeys (h ▸ hfills.key_mem hm)
  simpa using hne

/-- Which keys an element is written with does not depend on how its content is read, so any reader will do. -/
theorem Element.filter_tag (e : Element) : e.members.filter (fun m => m.1 != "particle") = e.members := by
  obtain ⟨e, content⟩ := e
  have hcontent : ∀ g ∈ content, (.ok (content.getD default) : Decoded Group) = .ok g := by
    rintro g ⟨⟩
    rfl
  have hfills : Fills (Element.record .direct fun _ => .ok (content.getD default)).fields _
    ((Element.mk e content).members ++ []) (e, content) := Element.fills e hcontent
  exact filter_tag_of_fills (by rw [Element.record_keys]; decide) hfills

theorem Group.filter_tag (g : Group) :
    g.documentMembers.filter (fun m => m.1 != "particle") = g.documentMembers := by
  obtain ⟨g, members⟩ := g
  simp [Group.documentMembers]

theorem ParticleTag.split_tagged {source : Source} {word : String} {tag : ParticleTag}
    {members : List (String × Json)} (hword : ParticleTag.read source (.string word) = .ok tag)
    (hmembers : members.filter (fun m => m.1 != "particle") = members) :
    ParticleTag.split source (.object (("particle", .string word) :: members)) = .ok (tag, .object members) := by
  have hbody : (("particle", Json.string word) :: members).filter (fun m => m.1 != "particle") = members := by
    rw [List.filter_cons_of_neg (by simp), hmembers]
  rw [ParticleTag.split, List.find?_cons_of_pos (by simp)]
  simp only [hword, hbody]
  rfl

theorem ParticleTag.split_toJson (source : Source) (p : Particle) :
    ParticleTag.split source p.toJson =
      .ok (match p with | .element e => (.element, e.toJson) | .group g => (.group, g.toJson)) := by
  cases p with
  | element e => exact ParticleTag.split_tagged (by cases source <;> rfl) e.filter_tag
  | group g => exact ParticleTag.split_tagged (by cases source <;> rfl) g.filter_tag

/-! ## Following a document down -/

theorem Element.depth_content_lt {e : ElementDecl} {content : Option Group} {g : Group} (hg : g ∈ content) :
    g.toJson.depth < (Element.mk e content).toJson.depth := by
  have hmem : ("content", g.toJson) ∈ (Element.mk e content).members := by
    rw [Element.members_mk, Option.mem_def.1 hg]
    simp [memberIfSome]
  exact depth_lt_of_mem_members hmem

/-- A member stands two levels below its group: in the list of members, which is a member of the document. -/
theorem Group.depth_member_lt {g : GroupDecl} {members : List Particle} {p : Particle} (hp : p ∈ members) :
    p.toJson.depth + 1 < (Group.mk g members).toJson.depth := by
  have hitem : p.toJson ∈ writeParticles members := by
    rw [writeParticles_eq_map]
    exact List.mem_map_of_mem hp
  have hmem : ("members", .array (writeParticles members)) ∈ (Group.mk g members).documentMembers := by
    simp [Group.documentMembers]
  have hinner := depth_lt_of_mem_items hitem
  have houter := depth_lt_of_mem_members hmem
  exact Nat.lt_of_le_of_lt hinner houter

/-- Readers that may go as far down as a document is nested read back what was written. -/
theorem readWithin_toJson (fuel : Nat) :
    (∀ source (e : Element), 2 * e.toJson.depth ≤ fuel → Element.readWithin fuel source e.toJson = .ok e) ∧
    (∀ source (g : Group), 2 * g.toJson.depth ≤ fuel → Group.readWithin fuel source g.toJson = .ok g) ∧
    ∀ source (p : Particle), 2 * p.toJson.depth < fuel → Particle.readWithin fuel source p.toJson = .ok p := by
  induction fuel with
  | zero =>
    refine ⟨fun source e hfuel => ?_, fun source g hfuel => ?_, fun source p hfuel => absurd hfuel (by omega)⟩
    · rw [Element.toJson, depth] at hfuel
      omega
    · rw [Group.toJson, depth] at hfuel
      omega
  | succ fuel ih =>
    obtain ⟨ihElement, ihGroup, ihParticle⟩ := ih
    refine ⟨fun source e hfuel => ?_, fun source g hfuel => ?_, fun source p hfuel => ?_⟩
    · obtain ⟨e, content⟩ := e
      have hcontent : ∀ g ∈ content, Group.readWithin fuel source g.toJson = .ok g := by
        intro g hg
        have hdepth := Element.depth_content_lt (e := e) hg
        exact ihGroup source g (by omega)
      rw [Element.readWithin, Element.read_members e hcontent]
      rfl
    · obtain ⟨g, members⟩ := g
      have hmembers : ∀ p ∈ members, Particle.readWithin fuel source p.toJson = .ok p := by
        intro p hp
        have hdepth := Group.depth_member_lt (g := g) hp
        exact ihParticle source p (by omega)
      rw [Group.readWithin, Group.read_members g hmembers]
      rfl
    · rw [Particle.readWithin, ParticleTag.split_toJson]
      cases p with
      | element e =>
        have hdepth : e.toJson.depth ≤ (Particle.element e).toJson.depth := depth_object_le_cons _ _
        simp only [ihElement .copied e (by omega)]
        rfl
      | group g =>
        have hdepth : g.toJson.depth ≤ (Particle.group g).toJson.depth := depth_object_le_cons _ _
        simp only [ihGroup .copied g (by omega)]
        rfl

theorem Element.read_toJson (e : Element) : Element.read e.toJson = .ok e :=
  (readWithin_toJson _).1 .direct e (Nat.le_add_right _ _)

theorem Group.read_toJson (g : Group) : Group.read g.toJson = .ok g :=
  (readWithin_toJson _).2.1 .direct g (Nat.le_add_right _ _)

/-! ## Types and schemas -/

theorem TypeDefinition.read_toJson (t : TypeDefinition) : TypeDefinition.read t.toJson = .ok t := by
  have hkeys : TypeDefinition.record.fields.map Field.key = ["name", "simple_type", "content", "attributes"] :=
    rfl
  refine Record.read_object .direct (by rw [hkeys]; decide) ?_
  simp only [List.append_assoc, List.singleton_append]
  refine .needed rfl ?_
  refine .ifSome rfl (readOption_facets .direct) ?_
  refine .ifSome rfl (fun g _ => readOption_object g.read_toJson) ?_
  refine .ifAny rfl (fun a _ => a.read_toJson .direct) ?_
  exact .done t

theorem Schema.read_toJson (s : Schema) : Schema.read s.toJson = .ok s := by
  have hkeys : Schema.record.fields.map Field.key =
      ["schema_version", "target_namespace", "elements", "types"] := rfl
  refine Record.read_object .direct (by rw [hkeys]; decide) ?_
  simp only [List.append_assoc, List.cons_append, List.nil_append]
  refine .needed rfl ?_
  refine .ifSome rfl readOption_text ?_
  refine .needed (readList_map fun e _ => e.read_toJson) ?_
  refine .optional (readList_map fun t _ => t.read_toJson) ?_
  exact .done s

/-- Schemas survive being written: what is written for a schema is read back as that schema, and a document
that was read as a schema says the same once the schema is written again. -/
theorem Schema.schema_reads_back :
    (∀ s : Schema, Schema.read s.toJson = .ok s) ∧
    ∀ (j : Json) (s : Schema), Schema.read j = .ok s → Schema.read s.toJson = .ok s :=
  ⟨Schema.read_toJson, fun _ s _ => s.read_toJson⟩

/-- A document that leaves out what has a default, with a group inside a group and a bound that is a word. -/
def invoiceDocument : Json :=
  .object [("schema_version", .string "0.1"), ("elements", .array [.object [
    ("name", .string "Invoice"), ("content", .object [("kind", .string "sequence"), ("members", .array [
      .object [("particle", .string "group"), ("kind", .string "choice"), ("max_occurs", .string "unbounded"),
        ("members", .array [.object [("name", .string "Note"), ("particle", .string "element"),
          ("min_occurs", .int 0), ("simple_type", .object [("base", .string "token"),
            ("enumeration", .array [.string "paid", .string "due"])])]])]])]),
    ("attributes", .array [.object [("name", .string "currency"), ("default", .string "EUR")]])]])]

/-- The schema that the document stands for. -/
def invoiceSchema : Schema where
  version := "0.1"
  elements := [.mk { name := "Invoice", attributes := [{ name := "currency", default := some "EUR" }] } <|
    some <| .mk { kind := .sequence } [.group <| .mk { kind := .choice, maxOccurs := .unbounded } [
      .element <| .mk { name := "Note", minOccurs := 0,
                        simpleType := some { base := .token, enumeration := ["paid", "due"] } } none]]]

theorem invoice_reads_back :
    Schema.read invoiceDocument = .ok invoiceSchema ∧ Schema.read invoiceSchema.toJson = .ok invoiceSchema := by
  have hread : Schema.read invoiceDocument = .ok invoiceSchema := rfl
  exact ⟨hread, Schema.schema_reads_back.2 invoiceDocument invoiceSchema hread⟩

end Specimen
