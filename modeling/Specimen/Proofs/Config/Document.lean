import Specimen.Config.Document
import Specimen.Proofs.Dict
import Specimen.Proofs.Schema.Document

/-!
# Configurations read back

A configuration that was read from a document is read back as the same configuration from what is written
for it.  The values of a data context share an object with the names of its parents, so a value under the
key of the parents would be lost.  A context that was read has no such value, whatever stood in the document.
-/

namespace Specimen

open Json

/-! ## Numbers and dictionaries -/

theorem readWord64_write (n : UInt64) : readWord64 (.nat n.toNat) = .ok n := by
  have hhigh : (n.toNat : Int) ≤ Nat.pow 2 64 - 1 := by
    have hlt : n.toNat < 2 ^ 64 := n.toNat_lt
    have hpow : ((Nat.pow 2 64 : Nat) : Int) = 18446744073709551616 := rfl
    omega
  rw [readWord64, readNat64, Json.nat, readInt_of_le (Int.natCast_nonneg _) hhigh]
  exact congrArg Except.ok (by simp)

theorem readSigned32_write (n : Int32) : readSigned32 (.int n.toInt) = .ok n := by
  have hhigh : n.toInt ≤ Nat.pow 2 31 - 1 := by
    have hlt := n.toInt_lt
    have hpow : ((Nat.pow 2 31 : Nat) : Int) = 2 ^ 31 := rfl
    omega
  have hlow : -((Nat.pow 2 31 : Nat) : Int) ≤ n.toInt := n.le_toInt
  rw [readSigned32, readInt32, readInt_of_le hlow hhigh]
  exact congrArg Except.ok n.ofInt_toInt

section Dictionaries

variable {α β : Type} {read : Json → Decoded α} {write : α → Json}

theorem readMembers_map {entries : List (String × α)} (hread : ∀ e ∈ entries, read (write e.2) = .ok e.2) :
    readMembers read (entries.map fun e => (e.1, write e.2)) = .ok entries := by
  induction entries with
  | nil => rfl
  | cons e rest ih =>
    obtain ⟨he, hrest⟩ := List.forall_mem_cons.1 hread
    rw [List.map_cons, readMembers, he]
    simp only [ih hrest]
    rfl

theorem readDict_mapValues {d : Dict α} (hread : ∀ e ∈ d.entries, read (write e.2) = .ok e.2) :
    readDict read (.object (d.mapValues write).entries) = .ok d := by
  have hmembers : readMap read (.object (d.mapValues write).entries) = .ok d.entries := readMembers_map hread
  rw [readDict, hmembers]
  exact congrArg Except.ok d.ofList_entries

/-- A dictionary that is written only when it has entries. -/
theorem Json.Fills.ifEntries {key : String} {put : Dict α → β → β} {d : Dict α} {fields : List (Field β)}
    {a b : β} {members : List (String × Json)} (hblank : put {} a = a)
    (hread : ∀ e ∈ d.entries, read (write e.2) = .ok e.2) (hrest : Fills fields (put d a) members b) :
    Fills (.optional key (readDict read) put :: fields) a (memberIfEntries key write d ++ members) b := by
  cases hempty : d.isEmpty with
  | true =>
    have hd : d = {} := Dict.ext (List.isEmpty_iff.1 hempty)
    subst hd
    rw [hblank] at hrest
    exact .absent rfl hrest
  | false =>
    rw [memberIfEntries, hempty]
    exact Fills.optional (readDict_mapValues hread) hrest

theorem exists_of_mem_readDict {j : Json} {d : Dict α} (h : readDict read j = .ok d) {e : String × α}
    (he : e ∈ d.entries) : ∃ j, read j = .ok e.2 := by
  cases j with
  | object members =>
    rw [readDict, readMap] at h
    cases hmembers : readMembers read members with
    | error e => simp [hmembers, Except.map] at h
    | ok list =>
      rw [hmembers] at h
      cases h
      exact readMembers_mem hmembers (Dict.mem_of_mem_ofList he)
  | _ => cases h

end Dictionaries

/-! ## Data contexts -/

namespace DataContext

/-- A context without a value under the key of its parents. -/
def Plain (c : DataContext) : Prop := c.values.get? "inherits" = none

theorem plain_of_read {j : Json} {c : DataContext} (h : read j = .ok c) : c.Plain := by
  cases j with
  | object members =>
    simp only [read] at h
    cases hfound : members.find? fun m => m.1 == "inherits" with
    | none =>
      rw [hfound] at h
      cases h
      refine Option.eq_none_iff_forall_not_mem.2 fun v hv => ?_
      have hmem : ("inherits", v) ∈ members := Dict.mem_of_mem_ofList (Dict.get?_mem hv)
      exact absurd (beq_self_eq_true _) (List.find?_eq_none.1 hfound _ hmem)
    | some m =>
      simp only [hfound] at h
      cases hparents : readList readString m.2 with
      | error e => simp [hparents, Except.map] at h
      | ok parents =>
        rw [hparents] at h
        cases h
        simp [Plain]
  | _ => cases h

/-- The parents are taken out of the object again, and nothing else with them. -/
theorem read_toJson {c : DataContext} (hplain : c.Plain) : read c.toJson = .ok c := by
  obtain ⟨parents, values⟩ := c
  cases parents with
  | nil =>
    have hfound : values.entries.find? (fun m => m.1 == "inherits") = none :=
      Option.map_eq_none_iff.1 hplain
    simp only [read, toJson, memberIfAny, List.nil_append, hfound, Dict.ofList_entries]
  | cons parent rest =>
    have hlist : readList readString (.array ((parent :: rest).map Json.string)) = .ok (parent :: rest) :=
      readList_map fun _ _ => rfl
    have hvalues (j : Json) : (Dict.ofList (("inherits", j) :: values.entries)).erase "inherits" = values := by
      refine Dict.ext_get? fun key => ?_
      change (((Dict.empty.insert "inherits" j).merge values).erase "inherits").get? key = values.get? key
      rw [Dict.get?_erase, Dict.get?_merge, Dict.get?_insert, Dict.get?_empty]
      split
      · rename_i hkey
        subst hkey
        exact hplain.symm
      · rw [Option.or_none]
    simp only [read, toJson, memberIfAny, List.singleton_append, List.find?_cons_of_pos, beq_self_eq_true, hlist,
      hvalues]
    rfl

end DataContext

/-! ## Records -/

theorem Metadata.read_toJson (m : Metadata) : Metadata.read m.toJson = .ok m := by
  have hkeys : Metadata.record.fields.map Field.key = ["name", "schema_name", "root_element", "description"] :=
    rfl
  refine Record.read_object .direct (by rw [hkeys]; decide) ?_
  simp only [List.append_assoc]
  refine .ifSome rfl readOption_text ?_
  refine .ifSome rfl readOption_text ?_
  refine .ifSome rfl readOption_text ?_
  refine .ifSome rfl readOption_text ?_
  exact .done m

theorem GenerationSettings.read_toJson (s : GenerationSettings) : GenerationSettings.read s.toJson = .ok s := by
  have hkeys : GenerationSettings.record.fields.map Field.key =
      ["mode", "global_repeat_count", "max_depth", "include_comments", "deterministic_seed",
        "ensure_unique_combinations", "max_unbounded_count"] := rfl
  refine Record.read_object .direct (by rw [hkeys]; decide) ?_
  simp only [List.append_assoc, List.cons_append, List.nil_append]
  refine .optional rfl ?_
  refine .optional (readWord32_write _) ?_
  refine .optional (readWord32_write _) ?_
  refine .optional rfl ?_
  refine .ifSome rfl (fun n _ => readOption_of_ne_null nofun (readWord64_write n)) ?_
  refine .optional rfl ?_
  refine .optional (readWord32_write _) ?_
  exact .done s

theorem readOption_switch {v : Option Bool} : ∀ b ∈ v, readOption readBool (.bool b) = .ok (some b) :=
  fun _ _ => rfl

theorem RelationshipDef.read_toJson (r : RelationshipDef) : RelationshipDef.read r.toJson = .ok r := by
  have hkeys : RelationshipDef.record.fields.map Field.key =
      ["fields", "strategy", "depends_on", "constraints", "ensure_unique", "source", "selection_strategy",
        "priority", "field_map", "max_attempts"] := rfl
  refine Record.read_object .direct (by rw [hkeys]; decide) ?_
  simp only [List.append_assoc, List.cons_append, List.nil_append]
  refine .needed (readList_map fun _ _ => rfl) ?_
  refine .needed rfl ?_
  refine .ifAny rfl (fun _ _ => rfl) ?_
  refine .ifAny rfl (fun _ _ => rfl) ?_
  refine .ifSome rfl readOption_switch ?_
  refine .ifSome rfl readOption_text ?_
  refine .ifSome rfl readOption_text ?_
  refine .optional (readSigned32_write _) ?_
  refine .ifEntries rfl (fun _ _ => rfl) ?_
  refine .ifSome rfl readOption_word32 ?_
  exact .done r

theorem ElementConfig.read_toJson (e : ElementConfig) : ElementConfig.read e.toJson = .ok e := by
  have hkeys : ElementConfig.record.fields.map Field.key =
      ["custom_values", "data_context", "selection_strategy", "relationship", "repeat_count", "template_source",
        "template_field", "choice", "nil"] := rfl
  refine Record.read_object .direct (by rw [hkeys]; decide) ?_
  simp only [List.append_assoc]
  refine .ifAny rfl (fun _ _ => rfl) ?_
  refine .ifSome rfl readOption_text ?_
  refine .ifSome rfl readOption_text ?_
  refine .ifSome rfl readOption_text ?_
  refine .ifSome rfl readOption_word32 ?_
  refine .ifSome rfl readOption_text ?_
  refine .ifSome rfl readOption_text ?_
  refine .ifSome rfl readOption_text ?_
  refine .ifSome rfl readOption_switch ?_
  exact .done e

theorem Overrides.read_toJson (o : Overrides) : Overrides.read o.toJson = .ok o := by
  have hkeys : Overrides.record.fields.map Field.key =
      ["use_realistic_data", "namespace_prefixes", "enforce_constraints"] := rfl
  refine Record.read_object .direct (by rw [hkeys]; decide) ?_
  simp only [List.append_assoc, List.cons_append, List.nil_append]
  refine .optional rfl ?_
  refine .ifEntries rfl (fun _ _ => rfl) ?_
  refine .optional rfl ?_
  exact .done o

/-! ## Configurations -/

namespace Config

/-- A configuration in which no data context has a value under the key of its parents. -/
def Plain (c : Config) : Prop := ∀ e ∈ c.dataContexts.entries, e.2.Plain

theorem plain_of_read {j : Json} {c : Config} (h : read j = .ok c) : c.Plain := by
  have hblank : ({} : Config).Plain := fun _ he => nomatch he
  refine Record.read_keeps hblank (fun f hf => ?_) h
  simp only [record, List.mem_cons, List.not_mem_nil, or_false] at hf
  obtain rfl | rfl | rfl | rfl | rfl | rfl := hf
  · exact Field.keeps_optional fun _ _ _ _ hc => hc
  · exact Field.keeps_optional fun _ _ _ _ hc => hc
  · refine Field.keeps_optional fun j contexts hcontexts c hc e he => ?_
    obtain ⟨j, hread⟩ := exists_of_mem_readDict hcontexts he
    exact DataContext.plain_of_read hread
  · exact Field.keeps_optional fun _ _ _ _ hc => hc
  · exact Field.keeps_optional fun _ _ _ _ hc => hc
  · exact Field.keeps_optional fun _ _ _ _ hc => hc

theorem read_toJson {c : Config} (hplain : c.Plain) : read c.toJson = .ok c := by
  have hkeys : record.fields.map Field.key =
      ["metadata", "generation_settings", "data_contexts", "smart_relationships", "element_configs",
        "global_overrides"] := rfl
  refine Record.read_object .direct (by rw [hkeys]; decide) ?_
  simp only [List.append_assoc, List.cons_append, List.nil_append]
  refine .optional c.metadata.read_toJson ?_
  refine .optional c.settings.read_toJson ?_
  refine .ifEntries rfl (fun e he => DataContext.read_toJson (hplain e he)) ?_
  refine .ifEntries rfl (fun e _ => e.2.read_toJson) ?_
  refine .ifEntries rfl (fun e _ => e.2.read_toJson) ?_
  refine .optional c.overrides.read_toJson ?_
  exact .done c

/-- Configurations survive being written: a configuration that was read from a document is read back, as it
is, from what is written for it. -/
theorem config_reads_back (j : Json) (c : Config) (h : read j = .ok c) : read c.toJson = .ok c :=
  read_toJson (plain_of_read h)

/-- A document whose contexts hold values of all kinds, with some settings at their defaults and some not. -/
def shopDocument : Json :=
  .object [
    ("data_contexts", .object [
      ("people", .object [("inherits", .array [.string "world"]), ("name", .null), ("roles", .array [])]),
      ("world", .object [("rates", .object [("none", .object []), ("some", .array [.null, .int 2])])])]),
    ("element_configs", .object [
      ("Code", .object [("custom_values", .array [.null, .object [], .array [.bool true]]), ("nil", .bool false)])]),
    ("generation_settings", .object [("mode", .string "minimal"), ("max_depth", .int 5)]),
    ("global_overrides", .object [("enforce_constraints", .bool false)])]

theorem shopDocument_reads_back :
    ∃ c, read shopDocument = .ok c ∧ c.dataContexts.keys = ["people", "world"] ∧
      ((c.dataContexts.get? "people").map fun d => (d.inherits, d.values.keys)) =
        some (["world"], ["name", "roles"]) ∧
      read c.toJson = .ok c := by
  obtain ⟨c, hread, hkeys, hpeople⟩ : ∃ c, read shopDocument = .ok c ∧
      c.dataContexts.keys = ["people", "world"] ∧
      ((c.dataContexts.get? "people").map fun d => (d.inherits, d.values.keys)) =
        some (["world"], ["name", "roles"]) := ⟨_, rfl, rfl, rfl⟩
  exact ⟨c, hread, hkeys, hpeople, config_reads_back shopDocument c hread⟩

end Config
end Specimen
