import Mathlib.Data.List.Nodup
import Specimen.Json.Decode

/-!
# Reading records that were written

A record is written member by member in the order of its fields.  A member may be left out when its field
holds what a reader starts from.  Members of this kind fill the fields of a record one after the other, and
whatever fills all fields is read back.
-/

namespace Specimen
namespace Json

/-! ## Values -/

section Values

variable {α : Type} {read : Json → Decoded α}

theorem readOption_of_ne_null {j : Json} {a : α} (hne : j ≠ .null) (hread : read j = .ok a) :
    readOption read j = .ok (some a) := by
  cases j <;> first | exact absurd rfl hne | exact congrArg (Except.map some) hread

theorem readOption_object {members : List (String × Json)} {a : α} (hread : read (.object members) = .ok a) :
    readOption read (.object members) = .ok (some a) :=
  readOption_of_ne_null nofun hread

theorem readInt_of_le {low high n : Int} {type : String} (hlow : low ≤ n) (hhigh : n ≤ high) :
    readInt low high type (.int n) = .ok n :=
  if_pos ⟨hlow, hhigh⟩

theorem readWord_of_mem {variants : List String} {word : String} (h : word ∈ variants) :
    readWord variants word = .ok word :=
  if_pos h

/-- Items that can be read back one by one can be read back as a list. -/
theorem readList_map {write : α → Json} {items : List α} (hread : ∀ a ∈ items, read (write a) = .ok a) :
    readList read (.array (items.map write)) = .ok items := by
  change readItems read (items.map write) = .ok items
  induction items with
  | nil => rfl
  | cons a rest ih =>
    obtain ⟨ha, hrest⟩ := List.forall_mem_cons.1 hread
    rw [List.map_cons, readItems, ha]
    simp only [ih hrest]
    rfl

end Values

/-! ## Members in the order of fields -/

section Fills

variable {α β : Type} {f : Field α} {fields : List (Field α)} {a b : α} {members : List (String × Json)}

/-- Members that fill fields in turn and lead from one record to another.  Fields that are not required may
be passed over. -/
inductive Fills : List (Field α) → α → List (String × Json) → α → Prop
  | done (a : α) : Fills [] a [] a
  | member {f : Field α} {fields : List (Field α)} {a b : α} {members : List (String × Json)} {j : Json}
      {put : α → α} (hread : f.read j = .ok put) (hrest : Fills fields (put a) members b) :
      Fills (f :: fields) a ((f.key, j) :: members) b
  | absent {f : Field α} {fields : List (Field α)} {a b : α} {members : List (String × Json)}
      (hoptional : f.required = false) (hrest : Fills fields a members b) : Fills (f :: fields) a members b

namespace Fills

theorem key_mem (h : Fills fields a members b) {m : String × Json} (hm : m ∈ members) :
    m.1 ∈ fields.map Field.key := by
  induction h with
  | done => cases hm
  | member hread hrest ih =>
    rcases List.mem_cons.1 hm with rfl | hm
    · exact List.mem_cons_self
    · exact List.mem_cons_of_mem _ (ih hm)
  | absent hoptional hrest ih => exact List.mem_cons_of_mem _ (ih hm)

theorem exists_of_required (h : Fills fields a members b) (hf : f ∈ fields) (hrequired : f.required = true) :
    members.any (fun m => m.1 == f.key) = true := by
  induction h with
  | done => cases hf
  | @member g fields a b members j put hread hrest ih =>
    rw [List.any_cons, Bool.or_eq_true]
    rcases List.mem_cons.1 hf with rfl | hf
    · exact .inl (beq_self_eq_true _)
    · exact .inr (ih hf)
  | absent hoptional hrest ih =>
    rcases List.mem_cons.1 hf with rfl | hf
    · rw [hoptional] at hrequired
      cases hrequired
    · exact ih hf

/-- The field that a key belongs to, among fields with different keys. -/
theorem find?_field {fields before after : List (Field α)} (hfields : fields = before ++ f :: after)
    (hkeys : (fields.map Field.key).Nodup) : fields.find? (fun g => g.key == f.key) = some f := by
  subst hfields
  have hbefore : ∀ g ∈ before, ¬(g.key == f.key) = true := by
    intro g hg heq
    rw [List.map_append, List.map_cons] at hkeys
    exact (List.nodup_append.1 hkeys).2.2 _ (List.mem_map_of_mem hg) _ List.mem_cons_self
      (eq_of_beq heq)
  rw [List.find?_append, List.find?_eq_none.2 hbefore, Option.none_or, List.find?_cons_of_pos (by simp)]

/-- A reader that knows more fields, with other keys, reads the members as they fill the fields. -/
theorem readMembersInto {all before : List (Field α)} (h : Fills fields a members b)
    (hall : all = before ++ fields) (hkeys : (all.map Field.key).Nodup) :
    Record.readMembersInto all a members = .ok b := by
  induction h generalizing before with
  | done => rfl
  | @member f fields a b members j put hread hrest ih =>
    have hnext : all = (before ++ [f]) ++ fields := by simp [hall]
    unfold Record.readMembersInto
    rw [find?_field hall hkeys]
    simp only [hread]
    exact ih hnext
  | @absent f fields a b members hoptional hrest ih =>
    have hnext : all = (before ++ [f]) ++ fields := by simp [hall]
    exact ih hnext

/-! ### One field -/

section Field

variable {key : String} {read : Json → Decoded β} {put : β → α → α} {v : β}

theorem needed {j : Json} (hread : read j = .ok v) (hrest : Fills fields (put v a) members b) :
    Fills (.needed key read put :: fields) a ((key, j) :: members) b :=
  have hfield : (Field.needed key read put).read j = .ok (put v) := by
    simp only [Field.needed, hread]
    rfl
  .member hfield hrest

theorem optional {j : Json} (hread : read j = .ok v) (hrest : Fills fields (put v a) members b) :
    Fills (.optional key read put :: fields) a ((key, j) :: members) b :=
  have hfield : (Field.optional key read put).read j = .ok (put v) := by
    simp only [Field.optional, hread]
    rfl
  .member hfield hrest

/-- A value that is written only when there is one. -/
theorem ifSome {write : β → Json} {put : Option β → α → α} {v : Option β} (hblank : put none a = a)
    (hread : ∀ b ∈ v, readOption read (write b) = .ok (some b)) (hrest : Fills fields (put v a) members b) :
    Fills (.optional key (readOption read) put :: fields) a (memberIfSome key write v ++ members) b := by
  cases v with
  | none =>
    rw [hblank] at hrest
    exact .absent rfl hrest
  | some v => exact optional (hread v rfl) hrest

/-- A list that is written only when it has items. -/
theorem ifAny {write : β → Json} {put : List β → α → α} {items : List β} (hblank : put [] a = a)
    (hread : ∀ b ∈ items, read (write b) = .ok b) (hrest : Fills fields (put items a) members b) :
    Fills (.optional key (readList read) put :: fields) a (memberIfAny key write items ++ members) b := by
  cases items with
  | nil =>
    rw [hblank] at hrest
    exact .absent rfl hrest
  | cons first rest => exact optional (readList_map hread) hrest

end Field
end Fills
end Fills

/-- A record is read back from members that fill all its fields. -/
theorem Record.read_object {α : Type} {record : Record α} {a : α} {members : List (String × Json)}
    (source : Source) (hkeys : (record.fields.map Field.key).Nodup)
    (hfills : Fills record.fields record.blank (members ++ []) a) :
    record.read source (.object members) = .ok a := by
  rw [List.append_nil] at hfills
  have hrequired : record.fields.find? (fun f => f.required && !(members.any fun m => m.1 == f.key)) = none := by
    refine List.find?_eq_none.2 fun f hf => ?_
    cases hneeded : f.required with
    | false => simp
    | true => simp [hfills.exists_of_required hf hneeded]
  simp only [Record.read, hfills.readMembersInto (List.nil_append _).symm hkeys, hrequired]

/-! ## What every field keeps -/

section Keeps

variable {α : Type} {P : α → Prop}

/-- A field that changes no record from one with a property into one without it. -/
def Field.Keeps (P : α → Prop) (f : Field α) : Prop :=
  ∀ j put, f.read j = .ok put → ∀ a, P a → P (put a)

theorem Record.readMembersInto_keeps {fields : List (Field α)} (hfields : ∀ f ∈ fields, f.Keeps P)
    {members : List (String × Json)} {a b : α} (ha : P a) (h : readMembersInto fields a members = .ok b) :
    P b := by
  induction members generalizing a with
  | nil =>
    cases h
    exact ha
  | cons m rest ih =>
    obtain ⟨k, j⟩ := m
    unfold readMembersInto at h
    cases hfound : fields.find? fun f => f.key == k with
    | none =>
      rw [hfound] at h
      exact ih ha h
    | some f =>
      simp only [hfound] at h
      cases hput : f.read j with
      | error e => simp [hput] at h
      | ok put =>
        simp only [hput] at h
        exact ih (hfields f (List.mem_of_find?_eq_some hfound) j put hput a ha) h

theorem Record.readItemsInto_keeps {fields : List (Field α)} (hfields : ∀ f ∈ fields, f.Keeps P)
    {expected : String} {index : Nat} {items : List Json} {a b : α} (ha : P a)
    (h : readItemsInto expected index a fields items = .ok b) : P b := by
  induction fields generalizing index items a with
  | nil =>
    cases h
    exact ha
  | cons f fields ih =>
    obtain ⟨hf, hrest⟩ := List.forall_mem_cons.1 hfields
    cases items with
    | nil =>
      unfold readItemsInto at h
      split at h
      · cases h
      · exact ih hrest ha h
    | cons j items =>
      unfold readItemsInto at h
      cases hput : f.read j with
      | error e => simp [hput] at h
      | ok put =>
        simp only [hput] at h
        exact ih hrest (hf j put hput a ha) h

/-- What the blank record has and every field keeps, every record has that is read. -/
theorem Record.read_keeps {record : Record α} {source : Source} {j : Json} {a : α} (hblank : P record.blank)
    (hfields : ∀ f ∈ record.fields, f.Keeps P) (h : record.read source j = .ok a) : P a := by
  cases j with
  | object members =>
    simp only [read] at h
    cases hmembers : readMembersInto record.fields record.blank members with
    | error e => simp [hmembers] at h
    | ok b =>
      simp only [hmembers] at h
      split at h
      · cases h
      · cases h
        exact readMembersInto_keeps hfields hblank hmembers
  | array items =>
    simp only [read] at h
    split at h
    · cases h
    · rename_i b hitems
      have hb : P b := readItemsInto_keeps hfields hblank hitems
      split at h
      · split at h <;> cases h
      · cases h
        exact hb
  | _ => cases h

theorem Field.keeps_optional {β : Type} {key : String} {read : Json → Decoded β} {put : β → α → α}
    (hput : ∀ j v, read j = .ok v → ∀ a, P a → P (put v a)) : (Field.optional key read put).Keeps P := by
  intro j put' hread a ha
  simp only [Field.optional] at hread
  cases hv : read j with
  | error e =>
    rw [hv] at hread
    cases hread
  | ok v =>
    rw [hv] at hread
    cases hread
    exact hput j v hv a ha

/-- Every member that was read as one of a map was read on its own. -/
theorem readMembers_mem {β : Type} {read : Json → Decoded β} {members : List (String × Json)}
    {values : List (String × β)} (h : readMembers read members = .ok values) {e : String × β}
    (he : e ∈ values) : ∃ j, read j = .ok e.2 := by
  induction members generalizing values with
  | nil =>
    cases h
    cases he
  | cons m rest ih =>
    obtain ⟨k, j⟩ := m
    unfold readMembers at h
    cases hj : read j with
    | error e => simp [hj] at h
    | ok b =>
      simp only [hj] at h
      cases hrest : readMembers read rest with
      | error e => simp [hrest, Except.map] at h
      | ok bs =>
        rw [hrest] at h
        cases h
        rcases List.mem_cons.1 he with rfl | he
        · exact ⟨j, hj⟩
        · exact ih hrest he

end Keeps

/-! ## Depth -/

theorem depth_lt_of_mem_items {j : Json} {items : List Json} (h : j ∈ items) :
    j.depth < (Json.array items).depth := by
  have hle : j.depth ≤ depthOfItems items := by
    induction items with
    | nil => cases h
    | cons first rest ih =>
      rw [depthOfItems]
      rcases List.mem_cons.1 h with rfl | h
      · exact Nat.le_max_left _ _
      · exact Nat.le_trans (ih h) (Nat.le_max_right _ _)
  rw [depth]
  exact Nat.lt_succ_of_le hle

theorem depth_lt_of_mem_members {m : String × Json} {members : List (String × Json)} (h : m ∈ members) :
    m.2.depth < (Json.object members).depth := by
  have hle : m.2.depth ≤ depthOfMembers members := by
    induction members with
    | nil => cases h
    | cons first rest ih =>
      obtain ⟨k, j⟩ := first
      rw [depthOfMembers]
      rcases List.mem_cons.1 h with rfl | h
      · exact Nat.le_max_left _ _
      · exact Nat.le_trans (ih h) (Nat.le_max_right _ _)
  rw [depth]
  exact Nat.lt_succ_of_le hle

theorem depth_object_le_cons (m : String × Json) (members : List (String × Json)) :
    (Json.object members).depth ≤ (Json.object (m :: members)).depth := by
  obtain ⟨k, j⟩ := m
  rw [depth, depth, depthOfMembers]
  exact Nat.succ_le_succ (Nat.le_max_right _ _)

end Json
end Specimen
