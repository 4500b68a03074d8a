import Specimen.Proofs.Document.Outline
import Specimen.Proofs.Walk.Gathering

/-!
# Where leaves come from

The leaves of a document are the leaves whose values the walk has asked for, in document order: nothing is
left out, nothing comes in between, and between two of them nothing is settled.  Each of them was asked for
as the schema declares it at its path, and those that have the same parent in the same scope of siblings.  What is
shown of the value of one leaf so carries over to documents, by induction on the row of leaves and without the walk.
-/

namespace Specimen

open Run

namespace Schema

/-- The leaves that a document can have, by name and path, with the simple type and the fixed value of their
declaration. -/
inductive HasLeaf (schema : Schema) (root : Element) :
    (name path : String) → (facets : Facets) → (fixed : Option String) → Prop where
  | text {path : String} {e : Element} {type : ResolvedType} {facets : Facets} (he : Places schema root path e)
      (htype : schema.resolveType e = .ok type) (hfacets : type.content.facets? = some facets) :
      HasLeaf schema root e.name path facets e.decl.fixed
  | attr {path : String} {e : Element} {type : ResolvedType} {a : AttributeDecl} {facets : Facets}
      (he : Places schema root path e) (htype : schema.resolveType e = .ok type)
      (ha : a ∈ type.attributes) (hfacets : schema.resolveAttribute a = .ok facets) :
      HasLeaf schema root ("@" ++ a.name) (path ++ "/@" ++ a.name) facets a.fixed

end Schema

namespace Leaf

/-- A leaf that was resolved: the place of its parent, what was asked for, the state in which it was asked for, and
the value. -/
structure ResolvedLeaf where
  parent : List Nat
  request : LeafRequest
  before : RunState
  value : String

namespace ResolvedLeaf

/-- The leaf in the document. -/
def leaf (x : ResolvedLeaf) : DocumentLeaf := ⟨x.request.name, x.request.path, x.value⟩

def placed (x : ResolvedLeaf) : PlacedLeaf := ⟨x.parent, x.leaf⟩

end ResolvedLeaf

/-- Leaves that were resolved in a row on the way from one state to another, each as one that the schema
declares, and nothing was settled in between. -/
inductive Row (setup : Setup) (root : Element) :
    RunState → List ResolvedLeaf → RunState → Prop where
  | nil {s t : RunState} (hquiet : s.Quiet t) : Row setup root s [] t
  | cons {s u v : RunState} {x : ResolvedLeaf} {rest : List ResolvedLeaf} (hquiet : s.Quiet x.before)
      (hdeclared : setup.schema.HasLeaf root x.request.name x.request.path x.request.facets x.request.fixed)
      (hrun : (resolve setup x.request).exec x.before = (.ok x.value, u)) (hrest : Row setup root u rest v) :
      Row setup root s (x :: rest) v

/-- The leaves of a document are those that were resolved in a row on the way from one state to another. -/
def Resolved (setup : Setup) (root : Element) (s : RunState) (leaves : List DocumentLeaf) (t : RunState) : Prop :=
  ∃ xs, Row setup root s xs t ∧ xs.map (·.leaf) = leaves

/-- Leaves that have the same parent were asked for in the same scope. -/
def SharesScopes (xs : List ResolvedLeaf) : Prop :=
  ∀ x ∈ xs, ∀ y ∈ xs, x.parent = y.parent →
    ∃ scope, x.request.scope = some scope ∧ y.request.scope = some scope

/-- Leaves were resolved in a row for the children in a place and below, and those of the children themselves in one
scope. -/
structure Carries (setup : Setup) (root : Element) (place : List Nat) (scope : Nat) (s : RunState)
    (leaves : List PlacedLeaf) (t : RunState) (xs : List ResolvedLeaf) : Prop where
  row : Row setup root s xs t
  placed : xs.map (·.placed) = leaves
  among : ∀ x ∈ xs, x.parent = place → x.request.scope = some scope
  shared : SharesScopes xs

variable {setup : Setup} {root : Element} {s t u : RunState}

namespace Row

variable {xs ys : List ResolvedLeaf}

theorem after (hquiet : s.Quiet t) (h : Row setup root t xs u) : Row setup root s xs u := by
  cases h with
  | nil hq => exact .nil (hquiet.trans hq)
  | cons hq hdeclared hrun hrest => exact .cons (hquiet.trans hq) hdeclared hrun hrest

theorem append (h : Row setup root s xs t) (hmore : Row setup root t ys u) :
    Row setup root s (xs ++ ys) u := by
  induction h with
  | nil hquiet => exact hmore.after hquiet
  | cons hquiet hdeclared hrun _ ih => exact .cons hquiet hdeclared hrun (ih hmore)

end Row

/-- There are leaves that were resolved in a row as a document carries them. -/
abbrev Carried (setup : Setup) (root : Element) (place : List Nat) (scope : Nat) (s : RunState)
    (leaves : List PlacedLeaf) (t : RunState) : Prop :=
  ∃ xs, Carries setup root place scope s leaves t xs

namespace Carried

variable {place : List Nat} {scope : Nat} {leaves more : List PlacedLeaf}

theorem nil (hquiet : s.Quiet t) : Carried setup root place scope s [] t :=
  ⟨[], .nil hquiet, rfl, List.forall_mem_nil _, List.forall_mem_nil _⟩

theorem after (hquiet : s.Quiet t) (h : Carried setup root place scope t leaves u) :
    Carried setup root place scope s leaves u := by
  obtain ⟨xs, hxs⟩ := h
  exact ⟨xs, { hxs with row := hxs.row.after hquiet }⟩

/-- A leaf that was resolved in the scope of a place is one that has its parent there. -/
theorem of_resolve {q : LeafRequest} {value : String}
    (hdeclared : setup.schema.HasLeaf root q.name q.path q.facets q.fixed) (hscope : q.scope = some scope)
    (hrun : (resolve setup q).exec s = (.ok value, t)) :
    Carried setup root place scope s [⟨place, ⟨q.name, q.path, value⟩⟩] t := by
  refine ⟨[⟨place, q, s, value⟩], .cons (.refl s) hdeclared hrun (.nil (.refl t)), rfl, ?_, ?_⟩
  · exact List.forall_mem_singleton.2 fun _ => hscope
  · intro x hx y hy _
    rw [List.mem_singleton.1 hx, List.mem_singleton.1 hy]
    exact ⟨scope, hscope, hscope⟩

/-- Two rows for the same place make one, if leaves from both have no other parent in common. -/
theorem append (h : Carried setup root place scope s leaves t) (hmore : Carried setup root place scope t more u)
    (hapart : ∀ x ∈ leaves, ∀ y ∈ more, x.parent = y.parent → x.parent = place) :
    Carried setup root place scope s (leaves ++ more) u := by
  obtain ⟨xs, hrow, rfl, hamong, hshared⟩ := h
  obtain ⟨ys, hrowMore, rfl, hamongMore, hsharedMore⟩ := hmore
  have hcross : ∀ x ∈ xs, ∀ y ∈ ys, x.parent = y.parent →
      x.request.scope = some scope ∧ y.request.scope = some scope := by
    intro x hx y hy hparent
    have hplace : x.parent = place := hapart x.placed (List.mem_map_of_mem hx) y.placed (List.mem_map_of_mem hy) hparent
    exact ⟨hamong x hx hplace, hamongMore y hy (hparent.symm.trans hplace)⟩
  refine ⟨xs ++ ys, hrow.append hrowMore, List.map_append, ?_, ?_⟩
  · exact List.forall_mem_append.2 ⟨hamong, hamongMore⟩
  · intro x hx y hy hparent
    rcases List.mem_append.1 hx with hx | hx
    · rcases List.mem_append.1 hy with hy | hy
      · exact hshared x hx y hy hparent
      · exact ⟨scope, hcross x hx y hy hparent⟩
    · rcases List.mem_append.1 hy with hy | hy
      · exact ⟨scope, (hcross y hy x hx hparent.symm).symm⟩
      · exact hsharedMore x hx y hy hparent

theorem before (h : Carried setup root place scope s leaves t) (hquiet : t.Quiet u) :
    Carried setup root place scope s leaves u := by
  rw [← List.append_nil leaves]
  exact h.append (.nil hquiet) fun _ _ => List.forall_mem_nil _

/-- What is carried inside a child is carried in the place of the child. -/
theorem inside {position own : Nat} (h : Carried setup root (place ++ [position]) own s leaves t)
    (hinside : ∀ x ∈ leaves, place ++ [position] <+: x.parent) : Carried setup root place scope s leaves t := by
  obtain ⟨xs, hrow, rfl, -, hshared⟩ := h
  refine ⟨xs, hrow, rfl, fun x hx hparent => ?_, hshared⟩
  have hlength : (place ++ [position]).length ≤ x.parent.length :=
    (hinside x.placed (List.mem_map_of_mem hx)).length_le
  rw [hparent, List.length_append, List.length_singleton] at hlength
  omega

end Carried
end Leaf

namespace Walk

open Leaf (Carried Row Resolved SharesScopes)

variable {setup : Setup} {root : Element}

/-! ## Leaves among children -/

theorem placedAmong_of_elements_nil {path : String} {place : List Nat} {position : Nat} {cs : List NodeChild}
    (h : elementsAmong cs = []) : placedAmong path place position cs = [] := by
  induction cs generalizing position with
  | nil => rfl
  | cons c rest ih =>
      cases c with
      | comment text => exact ih h
      | element n => cases h

theorem placedAmong_stubs {path : String} {place : List Nat} {position : Nat} {e : Element} {count : Nat}
    {cs : List NodeChild} (h : elementsAmong cs = List.replicate count (stub e)) :
    placedAmong path place position cs = [] := by
  induction cs generalizing position count with
  | nil => rfl
  | cons c rest ih =>
      cases c with
      | comment text => exact ih h
      | element n =>
          cases count with
          | zero => cases h
          | succ count =>
              obtain ⟨rfl, hrest⟩ := List.cons.inj h
              exact ih hrest

theorem quiet_withOpen (s : RunState) (types : List String) : s.Quiet (s.withOpen types) :=
  ⟨withOpen_grows s types, rfl, rfl, rfl⟩

/-! ## Occurrences of an element -/

theorem buildAttributes_carried {owner : String} {place : List Nat} {scope : Nat} {attributes : List AttributeDecl}
    (hdeclared : ∀ a ∈ attributes, ∀ facets, setup.schema.resolveAttribute a = .ok facets →
      setup.schema.HasLeaf root ("@" ++ a.name) (owner ++ "/@" ++ a.name) facets a.fixed)
    {s s' : RunState} {built : List Attribute}
    (hrun : (buildAttributes setup owner scope attributes).exec s = (.ok built, s')) :
    Carried setup root place scope s (built.map fun a => ⟨place, .ofAttribute owner a⟩) s' := by
  induction attributes generalizing s built with
  | nil =>
      obtain ⟨rfl, rfl⟩ := exec_pure_eq_ok.1 hrun
      exact .nil (.refl _)
  | cons a rest ih =>
      have hrest := fun b hb => hdeclared b (List.mem_cons_of_mem a hb)
      rcases buildAttributes_cons_eq_ok hrun with
        ⟨-, t, hquiet, htail⟩ | ⟨-, value, more, t, u, hvalue, htail, hquiet, rfl⟩
      · exact (ih hrest htail).after hquiet
      · obtain ⟨facets, hfacets, hresolve⟩ := attributeValue_eq_ok hvalue
        have hfirst : Carried setup root place scope s _ t :=
          .of_resolve (hdeclared a List.mem_cons_self facets hfacets) rfl hresolve
        refine hfirst.append ((ih hrest htail).after hquiet) fun x hx _ _ _ => ?_
        rw [List.mem_singleton.1 hx]

/-- The children that an action builds carry the leaves that it has resolved. -/
abbrev ResolvesBelow (setup : Setup) (root : Element) (path : String) (scope : Nat)
    (m : Run (List NodeChild)) : Prop :=
  ∀ s cs s', m.exec s = (.ok cs, s') → ∀ place position,
    Carried setup root place scope s (placedAmong path place position cs) s'

theorem ResolvesBelow.nil (path : String) (scope : Nat) : ResolvesBelow setup root path scope (pure []) := by
  intro s cs s' hrun _ _
  obtain ⟨rfl, rfl⟩ := exec_pure_eq_ok.1 hrun
  exact .nil (.refl _)

theorem within_resolves {path : String} {scope : Nat} {inside : Run (List NodeChild)}
    (h : ResolvesBelow setup root path scope inside) (type : Option String) :
    ResolvesBelow setup root path scope (within type inside) := by
  intro s cs s' hrun place position
  obtain ⟨t, hinside, hclosed⟩ := within_eq_ok hrun
  rw [hclosed]
  exact ((h _ cs t hinside place position).after (quiet_withOpen s _)).before (quiet_withOpen t _)

/-- An element carries its attributes and what is in it: its text among the children around it, its own children
among themselves and beside the attributes. -/
theorem buildContent_carried {e : Element} {type : ResolvedType} {path : String}
    (he : setup.schema.Places root path e) (hresolve : setup.schema.resolveType e = .ok type)
    {inside : Run (List NodeChild)} {scope : Nat}
    (hinside : ∀ g, type.content = .complex g → ResolvesBelow setup root path scope inside)
    {uri : Option String} {attributes : List Attribute} {parentScope : Nat} {outer : List Nat} {position : Nat}
    {s t u : RunState} {node : Node}
    (hattributes : Carried setup root (outer ++ [position]) scope s
      (attributes.map fun a => ⟨outer ++ [position], .ofAttribute path a⟩) t)
    (hrun : (buildContent setup e type path { name := e.name, uri, attributes } parentScope inside).exec t =
      (.ok node, u)) :
    node.name = e.name ∧ Carried setup root outer parentScope s (node.placedLeaves path outer position) u := by
  have hown : ∀ x ∈ attributes.map fun a => (⟨outer ++ [position], .ofAttribute path a⟩ : PlacedLeaf),
      x.parent = outer ++ [position] := by
    intro x hx
    obtain ⟨a, -, rfl⟩ := List.mem_map.1 hx
    rfl
  have hbeside : Carried setup root outer parentScope s
      (attributes.map fun a => ⟨outer ++ [position], .ofAttribute path a⟩) t :=
    hattributes.inside fun x hx => hown x hx ▸ List.prefix_refl _
  have hleaf : ∀ facets, type.content.facets? = some facets → node.name = e.name ∧
      Carried setup root outer parentScope s (node.placedLeaves path outer position) u := by
    intro facets hfacets
    obtain ⟨text, htext, rfl⟩ := leafContent_eq_ok hfacets hrun
    have hcarried : Carried setup root outer parentScope t [⟨outer, e.name, path, text⟩] u :=
      .of_resolve (.text he hresolve hfacets) rfl htext
    have hall := hbeside.append hcarried fun x _ y hy hparent => by rw [hparent, List.mem_singleton.1 hy]
    rw [← List.append_nil (_ ++ _)] at hall
    exact ⟨rfl, hall⟩
  cases hcontent : type.content with
  | complex g =>
      obtain ⟨children, hchildren, rfl⟩ := complexContent_eq_ok hcontent hrun
      have hbelow := within_resolves (hinside g hcontent) type.identity t children u hchildren
        (outer ++ [position]) 0
      have hall := hattributes.append hbelow fun x hx _ _ _ => hown x hx
      rw [← List.append_nil (attributes.map _)] at hall
      refine ⟨rfl, hall.inside fun x hx => ?_⟩
      rw [List.append_nil] at hx
      rcases List.mem_append.1 hx with hx | hx
      · exact hown x hx ▸ List.prefix_refl _
      · rcases parent_of_mem_placedAmong hx with heq | ⟨k, -, -, hprefix⟩
        · exact heq ▸ List.prefix_refl _
        · exact (List.prefix_append _ _).trans hprefix
  | empty =>
      obtain ⟨rfl, rfl⟩ := emptyContent_eq_ok hcontent hrun
      rw [← List.append_nil (attributes.map _), ← List.append_nil (_ ++ _)] at hbeside
      exact ⟨rfl, hbeside⟩
  | builtin p => exact hleaf (Facets.ofBase p) (by rw [hcontent]; rfl)
  | simple f => exact hleaf f (by rw [hcontent]; rfl)

/-- An occurrence of an element carries the leaves that were resolved for it. -/
theorem buildOccurrence_carried {e : Element} {type : ResolvedType} {path : String}
    (he : setup.schema.Places root path e) (hresolve : setup.schema.resolveType e = .ok type)
    {rule : Option ElementRule} {uri : Option String} {parentScope : Nat} {inside : Inside}
    (hinside : ∀ g, type.content = .complex g → ∀ scope, ResolvesBelow setup root path scope (inside scope))
    {s s' : RunState} {built : Option Node}
    (hrun : (buildOccurrence setup e type path rule uri parentScope inside).exec s = (.ok built, s'))
    (outer : List Nat) (position : Nat) :
    (∀ n ∈ built, n.name = e.name) ∧
      Carried setup root outer parentScope s
        (built.toList.flatMap (·.placedLeaves path outer position)) s' := by
  rcases buildOccurrence_eq_ok hrun with
    ⟨rfl, -, hquiet⟩ | ⟨scope, attributes, t, u, hst, hattributes, hrest⟩
  · exact ⟨nofun, .nil hquiet⟩
  · have hcarried : Carried setup root (outer ++ [position]) scope s _ u :=
      (buildAttributes_carried (fun a ha facets hfacets => .attr he hresolve ha hfacets)
        hattributes).after (.of_quietSteps hst)
    rcases hrest with ⟨-, hus', rfl⟩ | ⟨node, v, huv, hcontent, rfl⟩
    · refine ⟨fun n hn => ?_, ?_⟩
      · rw [← Option.some.inj hn]
        rfl
      · have hempty : Carried setup root outer parentScope s _ s' :=
          (hcarried.before (.of_quietSteps hus')).inside fun x hx => by
            obtain ⟨a, -, rfl⟩ := List.mem_map.1 hx
            exact List.prefix_refl _
        simpa [Node.placedLeaves, NodeHead.placedLeaves, placedAmong] using hempty
    · obtain ⟨hname, hall⟩ := buildContent_carried he hresolve (fun g hg => hinside g hg scope)
        (hcarried.before (.of_quietSteps huv)) hcontent
      cases hhalted : s'.halted with
      | true =>
          refine ⟨fun n hn => ?_, by simpa [hhalted] using hall⟩
          rw [← Option.some.inj hn, ← hname]
          cases node
          rfl
      | false => exact ⟨fun n hn => Option.some.inj hn ▸ hname, by simpa [hhalted] using hall⟩

theorem buildEach_resolves {e : Element} {path : String} {scope : Nat} {occurrence : Run (Option Node)}
    (h : ∀ s built s', occurrence.exec s = (.ok built, s') → ∀ place position,
      (∀ n ∈ built, n.name = e.name) ∧ Carried setup root place scope s
        (built.toList.flatMap (·.placedLeaves (joinPath path e.name) place position)) s')
    (count left : Nat) : ResolvesBelow setup root path scope (buildEach setup e count occurrence left) := by
  induction left with
  | zero => exact .nil path scope
  | succ left ih =>
      intro s cs s' hrun place position
      obtain ⟨built, t, own, hbuilt, rfl, hrest⟩ := buildEach_succ_eq_ok hrun
      have hown : Carried setup root place scope s (placedAmong path place position
          (occurrenceComment setup e (count - left) count ++
            (built.map NodeChild.element).toList)) t := by
        obtain ⟨hname, hleaves⟩ := h s built t hbuilt place
          (position + (occurrenceComment setup e (count - left) count).length)
        rw [placedAmong_append, placedAmong_of_elements_nil (elementsAmong_occurrenceComment _ _ _),
          List.nil_append]
        cases built with
        | none => exact hleaves
        | some n =>
            rw [← hname n rfl] at hleaves
            exact hleaves
      rcases hrest with ⟨-, rfl, rfl⟩ | ⟨-, more, hmore, rfl⟩
      · exact hown
      · rw [placedAmong_append]
        exact hown.append (ih t more s' hmore place _) fun x hx y hy => parent_eq_of_placedAmong hx hy

/-! ## Documents -/

/-- Children that may stand where they were built carry the leaves that were resolved for them. -/
def ResolvedBelow (setup : Setup) (root : Element) : ChildCondition := fun path scope _ declared s cs s' =>
  (∀ c ∈ declared, setup.schema.Places root (joinPath path c.name) c) → ∀ place position,
    Carried setup root place scope s (placedAmong path place position cs) s'

theorem buildElement_resolves (hvalid : setup.schema.validate = .ok ()) {e : Element}
    (hpasses : setup.schema.ElementPasses e) {path : String}
    (he : setup.schema.Places root (joinPath path e.name) e)
    {inside : ResolvedType → String → Option ElementRule → Inside} {stack : List String}
    (hinside : InsideGathers setup (ResolvedBelow setup root) stack inside e) (scope : Nat)
    (force : Bool) : ResolvesBelow setup root path scope (buildElement setup e path scope force inside) := by
  intro s cs s' hrun place position
  obtain ⟨type, hresolve, htype⟩ := Schema.resolveType_passes hvalid hpasses
  rcases buildElement_eq_ok hresolve hrun with
    ⟨identity, -, hcut⟩ | ⟨-, ⟨-, rfl, hquiet⟩ | heach⟩
  · obtain ⟨hstubs, -, hquiet⟩ := cutOff_eq_ok hcut
    rw [placedAmong_stubs hstubs]
    exact .nil hquiet
  · exact .nil hquiet
  · refine buildEach_resolves (fun t built t' hbuilt => ?_) _ _ s cs s' heach place position
    refine buildOccurrence_carried he hresolve (fun g hg scope s cs s' hrun => ?_) hbuilt
    exact hinside type g hresolve htype hg _ _ scope s cs s' hrun fun c hc => .child he hresolve hg hc

theorem resolvedBelow_gathering (hvalid : setup.schema.validate = .ok ()) :
    Gathering setup (ResolvedBelow setup root) where
  nil _ _ _ _ s _ _ _ := .nil (.refl s)
  append hcs hds hplaces place position := by
    rw [placedAmong_append]
    exact (hcs hplaces place position).append (hds hplaces place _) fun x hx y hy => parent_eq_of_placedAmong hx hy
  after hchosen hcs hplaces place position :=
    (hcs hplaces place position).after (quiet_of_exec (chooseBranch_takesQuietSteps _ _ _) hchosen)
  mono hsub hcs hplaces := hcs fun c hc => hplaces c (hsub c hc)
  element hpasses _ hinside path scope force := by
    intro s cs s' hrun hplaces
    have he := hplaces _ (List.mem_singleton_self _)
    exact buildElement_resolves hvalid hpasses he hinside scope force s cs s' hrun

/-- The leaves of a document, with the places of their parents, are those that were resolved for it in a row. -/
theorem buildDocument_carried (hvalid : setup.schema.validate = .ok ())
    (hroot : setup.schema.ElementPasses root) {s t : RunState} {document : Node}
    (hrun : (buildDocument setup root).exec s = (.ok document, t)) :
    ∃ xs, Row setup root s xs t ∧ xs.map (·.placed) = document.placed ∧ SharesScopes xs := by
  obtain ⟨scope, u, hscope, hrun⟩ := exec_bind_eq_ok.1 hrun
  obtain ⟨built, v, hbuilt, hlast⟩ := exec_bind_eq_ok.1 hrun
  have hopened : TakesQuietSteps setup openScope := openScope_takesQuietSteps
  obtain ⟨type, hresolve, htype⟩ := Schema.resolveType_passes hvalid hroot
  suffices h : Carried setup root [] scope s document.placed t by
    obtain ⟨xs, hxs⟩ := h
    exact ⟨xs, hxs.row, hxs.placed, hxs.shared⟩
  refine Carried.after (quiet_of_exec hopened hscope) ?_
  unfold buildIn at hbuilt
  simp only [hresolve, ofSchema, pure_bind] at hbuilt
  rw [exec_get_bind] at hbuilt
  cases hrefused : refused? setup u type with
  | some identity =>
      rw [hrefused] at hbuilt
      obtain ⟨_, w, hfollow, hbuilt⟩ := exec_bind_eq_ok.1 hbuilt
      obtain ⟨rfl, rfl⟩ := exec_pure_eq_ok.1 hbuilt
      obtain ⟨rfl, rfl⟩ := exec_pure_eq_ok.1 hlast
      have hpassed : TakesQuietSteps setup (follow (.passedOver (joinPath "" root.name) identity)) :=
        follow_takesQuietSteps _
      exact .nil (quiet_of_exec hpassed hfollow)
  | none =>
      rw [hrefused] at hbuilt
      have hinside : InsideGathers setup (ResolvedBelow setup root) [] (insideOf setup root) root :=
        (resolvedBelow_gathering hvalid).insideOf hvalid hroot
      obtain ⟨hname, hcarried⟩ := buildOccurrence_carried .root hresolve
        (fun g hg scope s cs s' hrun => hinside type g hresolve htype hg _ _ scope s cs s' hrun
          fun c hc => .child .root hresolve hg hc) hbuilt [] 0
      cases built with
      | none =>
          obtain ⟨rfl, rfl⟩ := exec_pure_eq_ok.1 hlast
          exact hcarried
      | some n =>
          obtain ⟨rfl, rfl⟩ := exec_pure_eq_ok.1 hlast
          unfold Node.placed
          rw [hname n rfl]
          simpa using hcarried

/-- The leaves of a document are those that were resolved for it, in document order. -/
theorem buildDocument_resolved (hvalid : setup.schema.validate = .ok ())
    (hroot : setup.schema.ElementPasses root) {s t : RunState} {document : Node}
    (hrun : (buildDocument setup root).exec s = (.ok document, t)) :
    Resolved setup root s document.documentLeaves t := by
  obtain ⟨xs, hrow, hplaced, -⟩ := buildDocument_carried hvalid hroot hrun
  refine ⟨xs, hrow, ?_⟩
  rw [← document.leaf_placed, ← hplaced, List.map_map]
  rfl

end Walk
end Specimen
