import Specimen.Proofs.Walk.Unfinished

/-!
# Stubs

Where the guard refuses the type of a required element, the document has an empty element that stands for it.  These
stubs are the only elements that were not begun: all others are counted in the account of the document.
-/

namespace Specimen
namespace Walk

mutual

/-- So many elements, of an element and all below it, are stubs: they stand where the guard refuses the type of a
required element. -/
inductive Stubs (setup : Setup) : (stack : List String) → Element → Node → (count : Nat) → Prop where
  | stub {stack : List String} {e : Element} (hrequired : 0 < e.minOccurs)
      (hrefused : RefusesElement setup stack e) : Stubs setup stack e (stub e) 1
  | element {stack : List String} {e : Element} {type : ResolvedType} {n : Node} {count : Nat}
      (hadmitted : AdmitsElement setup stack e type) (hname : n.name = e.name)
      (hchildren : StubsAmong setup (type.identity.toList ++ stack) type.content.declared
        (elementsAmong n.children) count) :
      Stubs setup stack e n count

/-- So many elements, of several in a row and all below them, are stubs. -/
inductive StubsAmong (setup : Setup) :
    (stack : List String) → (declared : List Element) → List Node → (count : Nat) → Prop where
  | nil {stack : List String} {declared : List Element} : StubsAmong setup stack declared [] 0
  | cons {stack : List String} {declared : List Element} {e : Element} {n : Node} {nodes : List Node}
      {count more : Nat} (he : e ∈ declared) (hfirst : Stubs setup stack e n count)
      (hrest : StubsAmong setup stack declared nodes more) :
      StubsAmong setup stack declared (n :: nodes) (count + more)

end

variable {setup : Setup} {path : String} {stack : List String} {declared : List Element}

namespace StubsAmong

variable {nodes rest : List Node} {count more : Nat}

theorem append (h : StubsAmong setup stack declared nodes count) (hrest : StubsAmong setup stack declared rest more) :
    StubsAmong setup stack declared (nodes ++ rest) (count + more) := by
  induction nodes generalizing count with
  | nil =>
      cases h
      rwa [Nat.zero_add]
  | cons n nodes ih =>
      cases h with
      | cons he hfirst hnodes =>
          rw [Nat.add_assoc]
          exact .cons he hfirst (ih hnodes)

theorem single {e : Element} {n : Node} (he : e ∈ declared) (h : Stubs setup stack e n count) :
    StubsAmong setup stack declared [n] count := .cons he h .nil

theorem replicate_stub {e : Element} (he : e ∈ declared) (hrefused : RefusesElement setup stack e) {number : Nat}
    (hrequired : number ≤ e.minOccurs) : StubsAmong setup stack declared (List.replicate number (stub e)) number := by
  induction number with
  | zero => exact .nil
  | succ number ih =>
      rw [List.replicate_succ, Nat.add_comm]
      exact .cons he (.stub (Nat.zero_lt_of_lt hrequired) hrefused) (ih (Nat.le_of_succ_le hrequired))

end StubsAmong

/-! ## Elements that were begun -/

theorem length_heads (n : Node) :
    n.heads.length = ((elementsAmong n.children).flatMap Node.heads).length + 1 := by
  cases n with
  | mk head children => rw [Node.heads, List.length_cons, headsAmong_eq, Node.children]

theorem length_stubs (e : Element) (number : Nat) :
    ((List.replicate number (stub e)).flatMap Node.heads).length = number := by
  induction number with
  | zero => rfl
  | succ number ih =>
      rw [List.replicate_succ, List.flatMap_cons, List.length_append, ih, Nat.add_comm]
      rfl

/-- Of the elements that were built for a task, those were begun that are not stubs. -/
theorem Built.stubs {task : Task} {nodes : List Node} {a : Account} (h : Built setup path stack task nodes a)
    (hdeclared : ∀ e ∈ task.declared, e ∈ declared) :
    ∃ count, StubsAmong setup stack declared nodes count ∧
      (nodes.flatMap Node.heads).length = a.elements + count := by
  induction h generalizing declared with
  | missing | empty | bare | done => exact ⟨0, .nil, rfl⟩
  | @flat path stack e type n s htype hopen hadmitted hname _ hchildren =>
      have hinside : StubsAmong setup (type.identity.toList ++ stack) type.content.declared
          (elementsAmong n.children) 0 := by
        rw [hchildren]
        exact .nil
      have hbegun := Stubs.element ⟨htype, s, hopen, hadmitted⟩ hname hinside
      refine ⟨0, .single (hdeclared e (List.mem_singleton_self e)) hbegun, ?_⟩
      rw [List.flatMap_singleton, length_heads, hchildren]
      rfl
  | @nested path stack e type g n a s htype hopen hadmitted hname _ hcontent _ _ _ ih =>
      obtain ⟨count, hinside, hlength⟩ := @ih type.content.declared fun c hc => by rw [hcontent]; exact hc
      have hbegun := Stubs.element ⟨htype, s, hopen, hadmitted⟩ hname hinside
      refine ⟨count, .single (hdeclared e (List.mem_singleton_self e)) hbegun, ?_⟩
      rw [List.flatMap_singleton, length_heads, hlength]
      change _ = a.elements + 1 + count
      omega
  | @cut path stack force e type identity s htype hopen hrefused =>
      have hstub : RefusesElement setup stack e := ⟨type, s, htype, hopen, by rw [hrefused]; rfl⟩
      refine ⟨e.minOccurs, .replicate_stub (hdeclared e (List.mem_singleton_self e)) hstub le_rfl, ?_⟩
      rw [length_stubs]
      exact (Nat.zero_add _).symm
  | occurrences _ ih | repetitions _ ih =>
      refine ih fun e he => ?_
      have hmem := mem_of_mem_declaredOf_replicate he
      exact hdeclared e hmem
  | @all _ _ g _ _ _ _ ih =>
      refine ih fun e he => hdeclared e ?_
      cases g with
      | mk decl members => exact mem_of_mem_declaredOf_map he
  | @branch _ _ g p _ _ _ _ hmember _ _ _ ih =>
      refine ih fun e he => hdeclared e ?_
      rw [declared_ofParticle] at he
      cases g with
      | mk decl members => exact mem_declaredAmong hmember he
  | last _ _ ih => exact ih fun e he => hdeclared e (List.mem_append_left _ he)
  | @next _ _ _ _ _ _ a b _ _ _ ihfirst ihrest =>
      obtain ⟨count, hfirst, hown⟩ := @ihfirst declared fun e he => hdeclared e (List.mem_append_left _ he)
      obtain ⟨more, hrest, hmore⟩ := @ihrest declared fun e he => hdeclared e (List.mem_append_right _ he)
      refine ⟨count + more, hfirst.append hrest, ?_⟩
      rw [List.flatMap_append, List.length_append, hown, hmore, Account.elements_append]
      omega

/-! ## How many stubs there are -/

theorem Stubs.name_eq {e : Element} {n : Node} {count : Nat} (h : Stubs setup stack e n count) :
    n.name = e.name := by
  cases h with
  | stub _ _ => rfl
  | element _ hname _ => exact hname

/-- The guard does not both refuse and admit a type while the same types are open. -/
theorem not_refuses_of_admits {e e' : Element} {type : ResolvedType}
    (hsame : setup.schema.resolveType e = setup.schema.resolveType e')
    (hrefused : RefusesElement setup stack e) (hadmitted : AdmitsElement setup stack e' type) : False := by
  obtain ⟨type', s, hresolve, hopen, hrefused⟩ := hrefused
  obtain ⟨hresolve', t, hopen', hadmitted⟩ := hadmitted
  rw [hresolve, hresolve'] at hsame
  obtain rfl := Except.ok.inj hsame
  rw [refused?_congr (hopen.trans hopen'.symm), hadmitted] at hrefused
  cases hrefused

/-- Declarations of one name among several have the same type. -/
def SameTypes (schema : Schema) (declared : List Element) : Prop :=
  ∀ c ∈ declared, ∀ c' ∈ declared, c.name = c'.name → schema.resolveType c = schema.resolveType c'

/-- If the elements of one name inside an element always have the same type, a document has its stubs in one way
only. -/
theorem Stubs.unique (hconsistent : ∀ e type, setup.schema.resolveType e = .ok type →
      SameTypes setup.schema type.content.declared) {e e' : Element} {n : Node} {count count' : Nat}
    (h : Stubs setup stack e n count) (h' : Stubs setup stack e' n count')
    (hsame : setup.schema.resolveType e = setup.schema.resolveType e') : count = count' := by
  -- by induction on the first way; in the second one the element may come from another declaration of its type
  refine @Stubs.rec setup
    (fun stack e n count _ => ∀ e' count', setup.schema.resolveType e = setup.schema.resolveType e' →
      Stubs setup stack e' n count' → count = count')
    (fun stack declared nodes count _ => SameTypes setup.schema declared →
      ∀ count', StubsAmong setup stack declared nodes count' → count = count')
    ?stub ?element ?nil ?cons stack e n count h e' count' hsame h'
  case stub =>
    intro stack e _ hrefused e' count' hsame h'
    generalize Walk.stub e = n at h'
    cases h' with
    | stub _ _ => rfl
    | element hadmitted _ _ => exact (not_refuses_of_admits hsame hrefused hadmitted).elim
  case element =>
    intro stack e type n count hadmitted _ _ ih e' count' hsame h'
    cases h' with
    | stub _ hrefused => exact (not_refuses_of_admits hsame.symm hrefused hadmitted).elim
    | element hadmitted' _ hchildren =>
        have htype := hadmitted'.1
        rw [← hsame, hadmitted.1] at htype
        obtain rfl := Except.ok.inj htype
        exact ih (hconsistent _ _ hadmitted.1) _ hchildren
  case nil =>
    intro stack declared _ count' h'
    cases h'
    rfl
  case cons =>
    intro stack declared e n nodes count more he hfirst _ ihfirst ihrest hdeclared count' h'
    cases h' with
    | cons he' hfirst' hrest' =>
        have htypes := hdeclared _ he _ he' (hfirst.name_eq.symm.trans hfirst'.name_eq)
        rw [ihfirst _ _ htypes hfirst', ihrest hdeclared _ hrest']

end Walk
end Specimen
