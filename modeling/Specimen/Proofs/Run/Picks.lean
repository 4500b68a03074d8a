import Specimen.Proofs.Relation.Suspension
import Specimen.Proofs.Run.Documents
import Specimen.Proofs.Run.Selection
import Specimen.Proofs.Schema.Leaves
import Specimen.Proofs.Walk.Composition

/-!
# Picks of personas and picks of leaves

What was picked is kept for paths and strategies, and a persona is given a path that begins with `relationships/`.
Whatever else a run does, it changes what is kept by picks alone, each of a persona or of a leaf.  If no persona has
the path and the strategy of a leaf, the two kinds are therefore served as if the other one were not there: what
each is given, and what is kept for it, comes of its own picks.

Paths of leaves begin with the names of global elements.  So a persona has the path of a leaf only if a global element
is called `relationships`, or something with a slash that begins like this.
-/

namespace Specimen

open Run
open Specimen.Random (Rng)

/-! ## What picks leave alone -/

namespace SelectionState

variable {seed : UInt64} {path path' : String} {strategy strategy' : SelectionStrategy} {s t u : SelectionState}

/-- Two states have the same rotation for a path and a strategy, and the same numbers if these are seeded. -/
structure SameFor (seed : UInt64) (path : String) (strategy : SelectionStrategy) (s t : SelectionState) : Prop where
  cursor : t.cursor path strategy = s.cursor path strategy
  stream : strategy = .seeded → t.stream seed path = s.stream seed path

namespace SameFor

theorem refl (s : SelectionState) : SameFor seed path strategy s s := ⟨rfl, fun _ => rfl⟩

theorem symm (h : SameFor seed path strategy s t) : SameFor seed path strategy t s :=
  ⟨h.cursor.symm, fun hseeded => (h.stream hseeded).symm⟩

theorem trans (h : SameFor seed path strategy s t) (h' : SameFor seed path strategy t u) :
    SameFor seed path strategy s u :=
  ⟨h'.cursor.trans h.cursor, fun hseeded => (h'.stream hseeded).trans (h.stream hseeded)⟩

/-- A pick for another path or by another strategy makes no difference. -/
theorem pick_of_ne (s : SelectionState) (hne : ¬(path' = path ∧ strategy' = strategy)) (length : Nat) (rng : Rng) :
    SameFor seed path strategy s (s.pick seed path' strategy' length rng).2.1 where
  cursor := cursor_pick_of_ne s seed length rng hne
  stream hseeded := stream_pick_of_ne s seed length rng (hseeded ▸ hne)

theorem pick_of_rotates (h : SameFor seed path strategy s t) (hrotates : Rotates strategy) {length : Nat}
    (hlength : 0 < length) (rng : Rng) :
    (t.pick seed path strategy length rng).1 = (s.pick seed path strategy length rng).1 ∧
      SameFor seed path strategy (s.pick seed path strategy length rng).2.1
        (t.pick seed path strategy length rng).2.1 := by
  rw [SelectionState.pick_of_rotates s _ _ _ hrotates hlength,
    SelectionState.pick_of_rotates t _ _ _ hrotates hlength]
  refine ⟨by rw [h.cursor], by rw [cursor_rotate_self, cursor_rotate_self, h.cursor], ?_⟩
  rintro rfl
  rcases hrotates with hrotates | hrotates
  · cases hrotates
  · cases hrotates

/-- What a pick is given, and what it leaves behind, is decided by the rotation or the numbers of its own path. -/
theorem pick (h : SameFor seed path strategy s t) (length : Nat) (rng : Rng) :
    (t.pick seed path strategy length rng).1 = (s.pick seed path strategy length rng).1 ∧
      SameFor seed path strategy (s.pick seed path strategy length rng).2.1
        (t.pick seed path strategy length rng).2.1 := by
  obtain rfl | hlength := Nat.eq_zero_or_pos length
  · exact ⟨rfl, h⟩
  cases strategy with
  | sequential => exact h.pick_of_rotates (.inl rfl) hlength rng
  | template => exact h.pick_of_rotates (.inr rfl) hlength rng
  | random =>
      rw [pick_random s _ _ _ hlength, pick_random t _ _ _ hlength]
      exact ⟨rfl, h⟩
  | seeded =>
      rw [pick_seeded s _ _ _ hlength, pick_seeded t _ _ _ hlength, h.stream rfl]
      refine ⟨rfl, h.cursor, fun _ => ?_⟩
      rw [stream_drawSeeded_self, stream_drawSeeded_self, h.stream rfl]

end SameFor

variable {A : String → SelectionStrategy → Prop}

/-- Two states have the same rotations and seeded numbers for some paths and strategies. -/
def SameOn (seed : UInt64) (A : String → SelectionStrategy → Prop) (s t : SelectionState) : Prop :=
  ∀ path strategy, A path strategy → SameFor seed path strategy s t

theorem SameOn.refl (s : SelectionState) : SameOn seed A s s := fun _ _ _ => .refl s

theorem SameOn.symm (h : SameOn seed A s t) : SameOn seed A t s := fun path strategy hA => (h path strategy hA).symm

theorem SameOn.pick (h : SameOn seed A s t) (hA : A path strategy) (length : Nat) (rng : Rng) :
    (t.pick seed path strategy length rng).1 = (s.pick seed path strategy length rng).1 ∧
      SameOn seed A (s.pick seed path strategy length rng).2.1 (t.pick seed path strategy length rng).2.1 := by
  refine ⟨((h path strategy hA).pick length rng).1, fun path' strategy' hA' => ?_⟩
  by_cases hself : path = path' ∧ strategy = strategy'
  · obtain ⟨rfl, rfl⟩ := hself
    exact ((h path strategy hA).pick length rng).2
  · exact (SameFor.pick_of_ne s hself length rng).symm.trans (h path' strategy' hA') |>.trans
      (.pick_of_ne t hself length rng)

theorem SameOn.pick_left (h : SameOn seed A s t) (hA : ¬A path strategy) (length : Nat) (rng : Rng) :
    SameOn seed A (s.pick seed path strategy length rng).2.1 t := by
  intro path' strategy' hA'
  have hne : ¬(path = path' ∧ strategy = strategy') := by
    rintro ⟨rfl, rfl⟩
    exact hA hA'
  exact (SameFor.pick_of_ne s hne length rng).symm.trans (h path' strategy' hA')

end SelectionState

/-! ## Who picks -/

/-- Who asks for one of a number of positions: a persona for a record, or a leaf for a value. -/
inductive Picker where
  | persona (r : Relationship)
  | leaf (path : String) (strategy : SelectionStrategy)

namespace Picker

def path : Picker → String
  | persona r => r.selectionPath
  | leaf path _ => path

def strategy : Picker → SelectionStrategy
  | persona r => r.selection
  | leaf _ strategy => strategy

def isPersona : Picker → Bool
  | persona _ => true
  | leaf .. => false

/-- The key of what is kept for the picks of one. -/
def key (p : Picker) : String := SelectionState.key p.path p.strategy

end Picker

/-- A pick: who asked for a position, of how many, and which one was given. -/
structure Pick where
  picker : Picker
  length : Nat
  given : Option Nat

/-- Picks are served one after the other and lead from one state to another.  The numbers of the run may have moved
before each of them. -/
inductive Served (seed : UInt64) : SelectionState → List Pick → SelectionState → Prop where
  | nil {s : SelectionState} : Served seed s [] s
  | cons {s t : SelectionState} {p : Pick} {rest : List Pick} (rng : Rng)
      (hgiven : (s.pick seed p.picker.path p.picker.strategy p.length rng).1 = p.given)
      (hrest : Served seed (s.pick seed p.picker.path p.picker.strategy p.length rng).2.1 rest t) :
      Served seed s (p :: rest) t

namespace Served

open SelectionState (SameOn)

variable {seed : UInt64} {s t u : SelectionState} {picks more : List Pick}

theorem append (h : Served seed s picks t) (hmore : Served seed t more u) : Served seed s (picks ++ more) u := by
  induction h with
  | nil => exact hmore
  | cons rng hgiven _ ih => exact .cons rng hgiven (ih hmore)

variable {A : String → SelectionStrategy → Prop}

/-- What picks leave behind is the same for others. -/
theorem sameOn (h : Served seed s picks t) (hother : ∀ p ∈ picks, ¬A p.picker.path p.picker.strategy)
    {s' : SelectionState} (hs : SameOn seed A s s') : SameOn seed A t s' := by
  induction h with
  | nil => exact hs
  | @cons s t p rest rng _ _ ih =>
      have hfirst := hs.pick_left (hother p List.mem_cons_self) p.length rng
      exact ih (fun q hq => hother q (List.mem_cons_of_mem p hq)) hfirst

/-- Picks are served without the others as they are among them, if these have other paths or strategies. -/
theorem filter {own : Pick → Bool} {s' : SelectionState} (h : Served seed s picks t) (hs : SameOn seed A s s')
    (hown : ∀ p ∈ picks, own p = true ↔ A p.picker.path p.picker.strategy) :
    ∃ t', Served seed s' (picks.filter own) t' ∧ SameOn seed A t t' := by
  induction h generalizing s' with
  | nil => exact ⟨s', .nil, hs⟩
  | @cons s t p rest rng hgiven _ ih =>
      have hrest := fun q hq => hown q (List.mem_cons_of_mem p hq)
      have hfirst := hown p List.mem_cons_self
      by_cases hp : own p = true
      · obtain ⟨hsame, hafter⟩ := hs.pick (hfirst.1 hp) p.length rng
        obtain ⟨t', hserved, ht⟩ := ih hafter hrest
        rw [List.filter_cons_of_pos hp]
        exact ⟨t', .cons rng (hsame.trans hgiven) hserved, ht⟩
      · obtain ⟨t', hserved, ht⟩ := ih (hs.pick_left (fun hA => hp (hfirst.2 hA)) p.length rng) hrest
        rw [List.filter_cons_of_neg hp]
        exact ⟨t', hserved, ht⟩

end Served

/-! ## Picks of actions -/

/-- Between two states there were picks, all by certain pickers. -/
def RunState.PicksOf (A : Picker → Prop) (s t : RunState) : Prop :=
  t.seed = s.seed ∧ ∃ picks, Served s.seed s.selection picks t.selection ∧ ∀ p ∈ picks, A p.picker

namespace RunState.PicksOf

variable {A : Picker → Prop} {s t u : RunState}

theorem refl (s : RunState) : s.PicksOf A s := ⟨rfl, [], .nil, List.forall_mem_nil _⟩

theorem of_same (h : s.PicksOf A t) (hsame : t.SamePicks u) : s.PicksOf A u := by
  obtain ⟨hseed, picks, hserved, hA⟩ := h
  exact ⟨hsame.seed.trans hseed, picks, hsame.selection ▸ hserved, hA⟩

theorem pick (h : s.PicksOf A t) {picker : Picker} (hA : A picker) (length : Nat) :
    s.PicksOf A ((Run.pick picker.path picker.strategy length).exec t).2 := by
  obtain ⟨hseed, picks, hserved, hpicks⟩ := h
  let last : Pick :=
    ⟨picker, length, (t.selection.pick s.seed picker.path picker.strategy length t.rng).1⟩
  refine ⟨hseed, picks ++ [last], hserved.append ?_, List.forall_mem_append.2 ⟨hpicks, ?_⟩⟩
  · change Served s.seed t.selection [last] (t.selection.pick t.seed picker.path picker.strategy length t.rng).2.1
    rw [hseed]
    exact .cons t.rng rfl .nil
  · exact List.forall_mem_singleton.2 hA

end RunState.PicksOf

namespace Run

variable {A : Picker → Prop} {s : RunState} {setup : Setup}

theorem Maintains.of_samePicks {α : Type} {m : Run α} (h : ∀ t : RunState, t.SamePicks (m.exec t).2) :
    Maintains (s.PicksOf A) m := fun t ht => ht.of_same (h t)

theorem picksOf_composable (A : Picker → Prop) (s : RunState) :
    Composable fun _ m => Maintains (s.PicksOf A) m where
  pure := .pure
  throw := .throw
  bind := .bind
  look _ hf := .get_bind hf
  retry := .of_samePicks fun _ => ⟨rfl, rfl⟩
  relationship _ := .of_samePicks fun _ => ⟨rfl, rfl⟩
  value _ := .of_samePicks fun _ => ⟨rfl, rfl⟩
  modifyGet _ _ hpicks := .of_samePicks hpicks
  followAll _ := .of_samePicks fun _ => ⟨rfl, rfl⟩
  warn _ := .of_samePicks fun _ => ⟨rfl, rfl⟩

/-- The picks for a path and a strategy are those of a picker that has them. -/
theorem picksOf_selective {P : String → SelectionStrategy → Prop} (s : RunState)
    (hA : ∀ path strategy, P path strategy → ∃ p, A p ∧ p.path = path ∧ p.strategy = strategy) :
    Selective P fun _ m => Maintains (s.PicksOf A) m where
  toComposable := picksOf_composable A s
  pick hP length t ht := by
    obtain ⟨p, hp, rfl, rfl⟩ := hA _ _ hP
    exact ht.pick hp length

end Run

/-! ## Personas and leaves -/

namespace Setup

variable (setup : Setup)

/-- A relationship that takes records. -/
structure IsPersona (r : Relationship) : Prop where
  mem : r ∈ setup.plan.relationships
  strategy : r.strategy = .consistentPersona

/-- A leaf that documents can have, below any global element. -/
def HasLeaf (name path : String) : Prop :=
  ∃ root ∈ setup.schema.elements, ∃ facets fixed, setup.schema.HasLeaf root name path facets fixed

/-- The paths and strategies by which leaves are picked: for their own sources, and for fields that depend on
others. -/
inductive PicksLeaf : (path : String) → SelectionStrategy → Prop where
  | sources {name path : String} {strategy : SelectionStrategy} (hleaf : setup.HasLeaf name path)
      (hselects : Leaf.Selects setup name path strategy) : PicksLeaf path strategy
  | drawn {field : String} {r : Relationship} (howner : setup.plan.owner? field = some r)
      (hstrategy : r.strategy = .dependentValues) :
      PicksLeaf (Leaf.fieldSelection setup field).1 (Leaf.fieldSelection setup field).2

/-- Who picks in a run. -/
def Picks : Picker → Prop
  | .persona r => setup.IsPersona r
  | .leaf path strategy => setup.PicksLeaf path strategy

/-- The paths and strategies by which personas pick, or else leaves. -/
def PicksBy (persona : Bool) (path : String) (strategy : SelectionStrategy) : Prop :=
  ∃ p, setup.Picks p ∧ p.isPersona = persona ∧ p.path = path ∧ p.strategy = strategy

/-- What is kept for a persona is kept for no leaf. -/
def KeysApart : Prop :=
  ∀ p q, setup.Picks p → setup.Picks q → p.isPersona = true → q.isPersona = false → p.key ≠ q.key

variable {setup}

theorem keysApart_iff :
    setup.KeysApart ↔ ∀ r, setup.IsPersona r → ¬setup.PicksLeaf r.selectionPath r.selection := by
  constructor
  · intro h r hr hleaf
    exact h (.persona r) (.leaf r.selectionPath r.selection) hr hleaf rfl rfl rfl
  · intro h p q hp hq hpersona hother hkey
    cases p with
    | leaf => cases hpersona
    | persona r =>
        cases q with
        | persona => cases hother
        | leaf path strategy =>
            obtain ⟨rfl, rfl⟩ := SelectionState.key_inj.1 hkey
            exact h r hp hq

/-- Where keys are apart, the path and the strategy of a pick tell of which kind it is. -/
theorem KeysApart.isPersona_iff (h : setup.KeysApart) {p : Picker} (hp : setup.Picks p) (persona : Bool) :
    p.isPersona = persona ↔ setup.PicksBy persona p.path p.strategy := by
  constructor
  · exact fun hkind => ⟨p, hp, hkind, rfl, rfl⟩
  · rintro ⟨q, hq, hkind, hpath, hstrategy⟩
    have hkey : q.key = p.key := SelectionState.key_inj.2 ⟨hpath, hstrategy⟩
    by_contra hne
    cases persona with
    | true => exact h q p hq hp hkind (Bool.eq_false_iff.2 hne) hkey
    | false => exact h p q hp hq (Bool.not_eq_false _ ▸ hne) hkind hkey.symm

end Setup

/-! ## Picks of a run -/

namespace Run

variable {setup : Setup} {root : Element} {A : Picker → Prop}

theorem handlesRecords_picksOf (A : Picker → Prop) (s : RunState) (r : Relationship) :
    r.HandlesRecords fun _ m => Maintains (s.PicksOf A) m where
  forget := .of_samePicks fun _ => ⟨rfl, rfl⟩
  exhausted _ := .of_samePicks fun _ => ⟨rfl, rfl⟩
  use _ := .of_samePicks fun _ => ⟨rfl, rfl⟩
  picked _ _ := .of_samePicks fun _ => ⟨rfl, rfl⟩
  remember _ _ := .of_samePicks fun _ => ⟨rfl, rfl⟩

/-- The picks of one picker. -/
theorem picker_selective (p : Picker) (hp : A p) (s : RunState) :
    Selective (fun path strategy => path = p.path ∧ strategy = p.strategy) fun _ m => Maintains (s.PicksOf A) m :=
  picksOf_selective s fun _ _ h => ⟨p, hp, h.1.symm, h.2.symm⟩

theorem takesRecords_picksOf (s : RunState) :
    TakesRecords setup fun _ m => Maintains (s.PicksOf setup.Picks) m := by
  intro resolve field r source records hresolve howner hstrategy _ _ ordinal
  have hr : setup.IsPersona r :=
    ⟨List.mem_of_find?_eq_some (Relation.relationship?_of_owner? howner), hstrategy⟩
  exact (handlesRecords_picksOf _ s r).personaOf (picker_selective (.persona r) hr s) ⟨rfl, rfl⟩ hresolve records
    field ordinal

/-- An action leaves alone what is kept for the picks of personas, or else for those of leaves. -/
def Spares (setup : Setup) (persona : Bool) {α : Type} (m : Run α) : Prop :=
  ∀ s : RunState, SelectionState.SameOn s.seed (setup.PicksBy persona) s.selection (m.exec s).2.selection

/-- Where keys are apart, an action that only one picker picks in leaves the other kind alone. -/
theorem spares_of_picksOf (h : setup.KeysApart) (p : Picker) (hp : setup.Picks p) {α : Type} {m : Run α}
    (hm : ∀ s : RunState, Maintains (s.PicksOf (Eq p)) m) {persona : Bool} (hkind : p.isPersona ≠ persona) :
    Spares setup persona m := by
  intro s
  obtain ⟨-, picks, hserved, hpicks⟩ := hm s s (.refl s)
  refine (hserved.sameOn (fun pick hpick hkeys => ?_) (.refl s.selection)).symm
  rw [← hpicks pick hpick] at hkeys
  exact hkind ((h.isPersona_iff hp persona).2 hkeys)

end Run

/-- No pick of a persona moves what is kept for leaves, and no pick of a leaf what is kept for personas. -/
structure Setup.SparesOthers (setup : Setup) : Prop where
  persona : ∀ {r : Relationship}, setup.IsPersona r → ∀ records ordinal,
    Spares setup false (Relation.pickPersona setup r records ordinal)
  pool : ∀ {q : LeafRequest} {strategy : SelectionStrategy}, setup.PicksLeaf q.path strategy →
    ∀ pool {source : String}, IsGiven source → Spares setup true (Leaf.pickFromPool setup q pool strategy source)
  records : ∀ {q : LeafRequest} {rule : ElementRule}, setup.PicksLeaf q.path (rule.selection.getD .template) →
    ∀ path, Spares setup true (Leaf.pickFromRecords setup q rule path)
  dependent : ∀ {field : String} {r : Relationship}, setup.plan.owner? field = some r →
    r.strategy = .dependentValues → ∀ bound pool,
      Spares setup true (Relation.drawDependent (Leaf.fieldSources setup) r bound field pool)

theorem Setup.KeysApart.sparesOthers {setup : Setup} (h : setup.KeysApart) : setup.SparesOthers where
  persona {r} hr records ordinal := by
    refine spares_of_picksOf h (.persona r) hr (fun s => ?_) (fun hkind => Bool.noConfusion hkind)
    exact (handlesRecords_picksOf _ s r).pickPersona (picker_selective (.persona r) rfl s) ⟨rfl, rfl⟩ records
      ordinal
  pool {q strategy} hpicks pool source hsource := by
    refine spares_of_picksOf h (.leaf q.path strategy) hpicks (fun s => ?_) Bool.false_ne_true
    exact (picker_selective (.leaf q.path strategy) rfl s).pickFromPool (fun _ => ⟨rfl, rfl⟩) hsource
  records {q rule} hpicks path := by
    let p : Picker := .leaf q.path (rule.selection.getD .template)
    refine spares_of_picksOf h p hpicks (fun s => ?_) Bool.false_ne_true
    exact (picker_selective p rfl s).pickFromRecords ⟨rfl, rfl⟩ path
  dependent {field r} howner hstrategy bound pool := by
    let p : Picker := .leaf (Leaf.fieldSelection setup field).1 (Leaf.fieldSelection setup field).2
    refine spares_of_picksOf h p (.drawn howner hstrategy) (fun s => ?_) Bool.false_ne_true
    refine (picker_selective p rfl s).drawDependent r bound ?_ pool
    exact ⟨rfl, rfl⟩

/-- Each kind of picks is served by itself as it is among all of them, and comes to the same. -/
def Setup.ServedApart (setup : Setup) (seed : UInt64) (picks : List Pick) (t : SelectionState) : Prop :=
  ∀ persona, ∃ u, Served seed {} (picks.filter fun p => p.picker.isPersona == persona) u ∧
    SelectionState.SameOn seed (setup.PicksBy persona) t u

theorem Setup.KeysApart.servedApart {setup : Setup} (h : setup.KeysApart) {seed : UInt64} {picks : List Pick}
    {t : SelectionState} (hserved : Served seed {} picks t) (hpicks : ∀ p ∈ picks, setup.Picks p.picker) :
    setup.ServedApart seed picks t := fun persona =>
  hserved.filter (.refl _) fun p hp => beq_iff_eq.trans (h.isPersona_iff (hpicks p hp) persona)

/-! ## Paths of leaves -/

namespace Schema

variable {schema : Schema} {root e : Element} {path : String} {stack : List String}

theorem Listed.hasLeaf (hvalid : schema.validate = .ok ()) {entry : CatalogEntry} (h : schema.Listed entry)
    (hleaf : entry.isLeaf = true) :
    ∃ root ∈ schema.elements, ∃ facets fixed, schema.HasLeaf root entry.name entry.path facets fixed := by
  cases h with
  | element hroot hreaches hnodup htype hname hpath hfacets =>
      unfold CatalogEntry.isLeaf at hleaf
      rw [hfacets] at hleaf
      obtain ⟨facets, hsome⟩ := Option.isSome_iff_exists.1 hleaf
      rw [hname, hpath]
      exact ⟨_, hroot, facets, _, .text hreaches.places htype hsome⟩
  | attr hroot hreaches hnodup htype ha hname hpath =>
      have hpasses := hreaches.passes hvalid (elements_pass hvalid _ hroot)
      obtain ⟨type', htype', hattributes⟩ := resolveType_passes hvalid hpasses
      obtain rfl := Except.ok.inj (htype.symm.trans htype')
      obtain ⟨facets, hfacets⟩ := hattributes.attributes _ ha
      rw [hname, hpath]
      exact ⟨_, hroot, facets, _, .attr hreaches.places htype ha hfacets⟩

theorem HasLeaf.exists_holds {name : String} {facets : Facets} {fixed : Option String}
    (h : schema.HasLeaf root name path facets fixed) :
    ∃ inner, schema.Holds (joinPath "" root.name) [] root name path inner := by
  cases h with
  | text he htype hfacets =>
      obtain ⟨stack, he⟩ := he.exists_reaches
      exact ⟨stack, he.holds (.text htype (by rw [hfacets]; rfl))⟩
  | attr he htype ha =>
      obtain ⟨stack, he⟩ := he.exists_reaches
      exact ⟨stack, he.holds (.attr htype ha)⟩

/-- The path of a leaf begins with the name of the global element. -/
theorem HasLeaf.root_above {name : String} {facets : Facets} {fixed : Option String}
    (hvalid : schema.validate = .ok ()) (hroot : root ∈ schema.elements)
    (h : schema.HasLeaf root name path facets fixed) : root.name ∈ pathsAbove path := by
  obtain ⟨inner, hholds⟩ := h.exists_holds
  have habove := hholds.mem_pathsAbove hvalid hroot .root
  rwa [joinPath, if_pos rfl] at habove

end Schema

namespace Generation

variable {schema : Schema} {config : Config} {options : Options} {setup : Setup} {root : Element}

namespace Prepared

/-- What a field stands for is a leaf. -/
theorem hasLeaf_of_fieldEntry (h : Prepared schema config options setup root) {field : String}
    {entry : CatalogEntry} {facets : Facets} (hentry : setup.index.fieldEntry? field = some (entry, facets)) :
    setup.HasLeaf entry.name entry.path := by
  obtain ⟨catalog, hcatalog, hindex⟩ := h.index_eq_ofCatalog
  obtain ⟨entries, hentries, hlists⟩ := Schema.catalog_lists h.valid
  obtain rfl := Except.ok.inj (hentries.symm.trans hcatalog)
  rw [hindex] at hentry
  obtain ⟨found, hfound, heq⟩ := List.exists_of_findSome?_eq_some hentry
  split at heq
  · obtain ⟨_, hfacets, hpair⟩ := Option.map_eq_some_iff.1 heq
    cases hpair
    have hlisted := hlists.listed List.nodup_nil (fun e he => ⟨e, he, .root⟩) _ hfound
    unfold Setup.HasLeaf
    rw [h.schema_eq]
    exact hlisted.hasLeaf h.valid (by unfold CatalogEntry.isLeaf; rw [hfacets]; rfl)
  · cases heq

theorem picksFields (h : Prepared schema config options setup root) : Leaf.PicksFields setup setup.PicksLeaf where
  sources hentry := .sources (h.hasLeaf_of_fieldEntry hentry)
  drawn := .drawn

/-- Whatever a leaf is picked by has the path of a leaf. -/
theorem hasLeaf_of_picksLeaf (h : Prepared schema config options setup root) {path : String}
    {strategy : SelectionStrategy} (hpicks : setup.PicksLeaf path strategy) : ∃ name, setup.HasLeaf name path := by
  cases hpicks with
  | sources hleaf => exact ⟨_, hleaf⟩
  | @drawn field r howner hstrategy =>
      have howned : (setup.plan.owners.get? field).isSome := by
        obtain ⟨id, hid, -⟩ := Option.bind_eq_some_iff.1 howner
        exact Option.isSome_of_eq_some hid
      obtain ⟨⟨entry, facets⟩, hentry⟩ := Option.isSome_iff_exists.1 (h.fieldEntry?_of_owned howned)
      have hpath : (Leaf.fieldSelection setup field).1 = entry.path := by
        unfold Leaf.fieldSelection
        rw [hentry]
        dsimp only
        split
        · rfl
        · rfl
      rw [hpath]
      exact ⟨_, h.hasLeaf_of_fieldEntry hentry⟩

/-- A whole run makes picks for personas and for leaves and changes nothing else of what is kept for picks. -/
theorem carries_picksOf (h : Prepared schema config options setup root) (s : RunState) :
    Walk.Carries setup root fun _ m => Maintains (s.PicksOf setup.Picks) m := by
  have hleaves : Selective setup.PicksLeaf fun _ m => Maintains (s.PicksOf setup.Picks) m :=
    picksOf_selective s fun path strategy hpicks => ⟨.leaf path strategy, hpicks, rfl, rfl⟩
  refine .ofMaintains (picksOf_composable _ s) (fun _ => .of_samePicks fun _ => ⟨rfl, rfl⟩)
    (fun _ ht => ht.of_same ⟨rfl, rfl⟩) (fun _ ht => ht.of_same ⟨rfl, rfl⟩) fun {q} hdeclared => ?_
  have hleaf : setup.HasLeaf q.name q.path := ⟨root, h.schema_eq ▸ h.root_mem, q.facets, q.fixed, hdeclared⟩
  exact hleaves.resolve (hleaves.generates fun _ => .of_samePicks fun _ => ⟨rfl, rfl⟩) h.picksFields
    (takesRecords_picksOf s) (.sources hleaf)

/-- Where no global element has a name that begins like the paths of personas, no leaf has such a path. -/
theorem keysApart_of_names (h : Prepared schema config options setup root)
    (hnames : ∀ e ∈ schema.elements, "relationships" ∉ pathsAbove e.name) : setup.KeysApart := by
  refine Setup.keysApart_iff.2 fun r _ hpicks => ?_
  obtain ⟨name, top, htop, facets, fixed, hleaf⟩ := h.hasLeaf_of_picksLeaf hpicks
  rw [h.schema_eq] at htop
  have habove : top.name ∈ pathsAbove r.selectionPath := (h.schema_eq ▸ hleaf).root_above h.valid htop
  have hprefix : "relationships" ∈ pathsAbove r.selectionPath := mem_pathsAbove.2 (.inr ⟨r.id, rfl⟩)
  exact hnames top htop (mem_pathsAbove_of_name (by decide) hprefix habove)

end Prepared

/-- Personas and leaves have the keys of their picks for themselves exactly if no persona has the path and the strategy
of a leaf, in particular if no global element has a name that begins like the paths of personas.  All that a run keeps
for picks comes of picks for its personas and leaves, also when it fails.  Where keys are apart, no pick of one kind
moves what is kept for the other, so each kind is served as it would be by itself. -/
theorem picks_kept_apart (schema : Schema) (config : Config) (options : Options) (setup : Setup) (root : Element)
    (hprepared : prepare schema config options = .ok (setup, root)) :
    (setup.KeysApart ↔ ∀ r, setup.IsPersona r → ¬setup.PicksLeaf r.selectionPath r.selection) ∧
    ((∀ e ∈ schema.elements, "relationships" ∉ pathsAbove e.name) → setup.KeysApart) ∧
    (setup.KeysApart → setup.SparesOthers) ∧
    ∀ (seed : UInt64) (rng : Rng), ∃ picks result t,
      (Walk.buildDocument setup root).exec (firstState setup root seed rng) = (result, t) ∧
        Served seed {} picks t.selection ∧ (∀ p ∈ picks, setup.Picks p.picker) ∧
        (setup.KeysApart → setup.ServedApart seed picks t.selection) := by
  have h := prepared_of_prepare hprepared
  refine ⟨Setup.keysApart_iff, h.keysApart_of_names, Setup.KeysApart.sparesOthers, fun seed rng => ?_⟩
  obtain ⟨-, picks, hserved, hpicks⟩ :=
    (h.carries_picksOf (firstState setup root seed rng)).buildDocument _ (.refl _)
  exact ⟨picks, _, _, rfl, hserved, hpicks, fun hapart => hapart.servedApart hserved hpicks⟩

/-- An element with a name that personas supply and a leaf that has values of its own. -/
def household (called : String) : Element :=
  .mk { name := called }
    (some (.mk { kind := .sequence }
      [.element (.mk { name := "Name", typeRef := some "xs:string" } none),
        .element (.mk { name := "Leaf", typeRef := some "xs:string" } none)]))

def householdSchema (called : String) : Schema where
  version := "0.1"
  elements := [household called]

def householdRecords : List Json := [.object [("Name", .string "Ana")], .object [("Name", .string "Ben")]]

/-- The persona is called like the leaf, and both take turns. -/
def householdConfig : Config where
  dataContexts := Dict.empty.insert "c" { values := Dict.empty.insert "people" (.array householdRecords) }
  relationships := Dict.empty.insert "Leaf"
    { fields := ["Name"]
      strategy := "consistent_persona"
      source := some "c.people"
      selectionStrategy := some "sequential" }
  elements := (Dict.empty.insert "Leaf" { customValues := [.string "a", .string "b"] }).insert "Name"
    { relationship := some "Leaf" }

/-- What is said of the persona and the leaf of a household. -/
structure InHousehold (called : String) (setup : Setup) (root : Element) (r : Relationship) : Prop where
  prepared : prepare (householdSchema called) householdConfig {} = .ok (setup, root)
  persona : setup.IsPersona r
  path : r.selectionPath = "relationships/Leaf"
  selection : r.selection = .sequential
  leaf : setup.PicksLeaf (called ++ "/Leaf") .sequential

def householdCheck (called : String) (setup : Setup) : Bool :=
  (setup.plan.relationships.any fun r =>
    r.strategy == .consistentPersona && r.id == "Leaf" && r.selection == .sequential) &&
  (setup.plan.rule? "Leaf" (called ++ "/Leaf")).any fun rule =>
    rule.selection == none && rule.customValues == ["a", "b"]

theorem household_hasLeaf {called : String} (hcalled : called ≠ "") :
    (householdSchema called).HasLeaf (household called) "Leaf" (called ++ "/Leaf") (.ofBase .string) none := by
  let leaf : Element := .mk { name := "Leaf", typeRef := some "xs:string" } none
  have hroot : (householdSchema called).Places (household called) (joinPath "" called) (household called) := .root
  have hchild := hroot.child (c := leaf) rfl rfl (List.mem_cons_of_mem _ List.mem_cons_self)
  change (householdSchema called).Places _ (joinPath (joinPath "" called) "Leaf") _ at hchild
  have hname : called ++ "/" ++ "Leaf" = called ++ "/Leaf" := String.append_assoc
  rw [joinPath, joinPath, if_pos rfl, if_neg hcalled, hname] at hchild
  exact .text hchild rfl rfl

theorem householdCheck_of_prepare (called : String) (hcalled : called = "relationships" ∨ called = "Household") :
    ∃ setup root, prepare (householdSchema called) householdConfig {} = .ok (setup, root) ∧
      householdCheck called setup = true := by
  have horder : (householdConfig.relationships.entries.map fun e =>
      householdConfig.compileRelationship (Config.compileSettings householdConfig.settings).2 e.1 e.2).filterMap
        (·.2) |>.Pairwise fun a b => Config.precedes a b = true := by decide +kernel
  have hchecked : (prepare (householdSchema called) householdConfig {}).toOption.any
      (fun p => householdCheck called p.1) = true := by
    unfold prepare planFor Config.compile Config.draft
    rw [show override householdConfig {} = householdConfig from rfl]
    dsimp only
    rw [Config.mergeSort_of_inOrder horder]
    rcases hcalled with rfl | rfl
    · decide +kernel
    · decide +kernel
  obtain ⟨⟨setup, root⟩, hsome, hcheck⟩ := (Option.any_eq_true _ _).1 hchecked
  exact ⟨setup, root, toOption_eq_some.1 hsome, hcheck⟩

theorem exists_household (called : String) (hcalled : called = "relationships" ∨ called = "Household") :
    ∃ setup root r, InHousehold called setup root r := by
  obtain ⟨setup, root, hprepared, hcheck⟩ := householdCheck_of_prepare called hcalled
  simp only [householdCheck, Bool.and_eq_true, List.any_eq_true, Option.any_eq_true, beq_iff_eq] at hcheck
  obtain ⟨⟨r, hr, ⟨hstrategy, hid⟩, hselection⟩, rule, hrule, hordered, hvalues⟩ := hcheck
  have hschema : setup.schema = householdSchema called := (prepared_of_prepare hprepared).schema_eq
  have hleaf : setup.HasLeaf "Leaf" (called ++ "/Leaf") := by
    unfold Setup.HasLeaf
    rw [hschema]
    refine ⟨household called, List.mem_singleton_self _, .ofBase .string, none, household_hasLeaf ?_⟩
    rcases hcalled with rfl | rfl
    · decide
    · decide
  have hselects : Leaf.Selects setup "Leaf" (called ++ "/Leaf") (rule.selection.getD .sequential) :=
    .customValues hrule (by rw [hvalues]; exact List.cons_ne_nil _ _)
  rw [hordered] at hselects
  exact ⟨setup, root, r, hprepared, ⟨hr, hstrategy⟩, congrArg ("relationships/" ++ ·) hid, hselection,
    .sources hleaf hselects⟩

/-- A persona that is called like a leaf below an element `relationships` takes turns with it: each of its picks moves
the rotation of the leaf on. -/
theorem keys_shared : ∃ setup root r,
    prepare (householdSchema "relationships") householdConfig {} = .ok (setup, root) ∧ setup.IsPersona r ∧
      setup.PicksLeaf "relationships/Leaf" .sequential ∧
      SelectionState.key r.selectionPath r.selection = SelectionState.key "relationships/Leaf" .sequential ∧
      ¬setup.KeysApart ∧ ∀ (s : SelectionState) seed length rng, 0 < length →
        (s.pick seed r.selectionPath r.selection length rng).2.1.cursor "relationships/Leaf" .sequential =
          s.cursor "relationships/Leaf" .sequential + 1 := by
  obtain ⟨setup, root, r, hprepared, hr, hpath, hselection, hleaf⟩ := exists_household "relationships" (.inl rfl)
  have hleaf : setup.PicksLeaf "relationships/Leaf" .sequential := hleaf
  refine ⟨setup, root, r, hprepared, hr, hleaf, by rw [hpath, hselection], fun hapart => ?_, ?_⟩
  · refine Setup.keysApart_iff.1 hapart r hr ?_
    rwa [hpath, hselection]
  · intro s seed length rng hlength
    rw [hpath, hselection, SelectionState.pick_of_rotates _ _ _ _ (.inl rfl) hlength]
    exact SelectionState.cursor_rotate_self s length

/-- In a household the persona and the leaf are served by themselves. -/
theorem picks_kept_apart_household : ∃ setup root r picks result t,
    prepare (householdSchema "Household") householdConfig {} = .ok (setup, root) ∧ setup.IsPersona r ∧
      setup.PicksLeaf "Household/Leaf" .sequential ∧ setup.KeysApart ∧ setup.SparesOthers ∧
      (Walk.buildDocument setup root).exec (firstState setup root 0 zeroRng) = (result, t) ∧
      Served 0 {} picks t.selection ∧ setup.ServedApart 0 picks t.selection := by
  obtain ⟨setup, root, r, hprepared, hr, -, -, hleaf⟩ := exists_household "Household" (.inr rfl)
  obtain ⟨-, hnames, hspares, hruns⟩ := picks_kept_apart _ _ _ setup root hprepared
  have hapart : setup.KeysApart := hnames fun e he => by
    rw [List.mem_singleton.1 he, show (household "Household").name = "Household" from rfl,
      pathsAbove_name (by decide)]
    decide
  obtain ⟨picks, result, t, hrun, hserved, -, hserve⟩ := hruns 0 zeroRng
  exact ⟨setup, root, r, picks, result, t, hprepared, hr, hleaf, hapart, hspares hapart, hrun, hserved,
    hserve hapart⟩

end Generation
end Specimen
