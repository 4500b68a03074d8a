import Specimen.Proofs.Walk.Built

/-!
# Unfinished documents

An element is marked when something is missing from it.  In a whole element these are the empty elements that
stand where the guard refuses a type.  In an unfinished one they are besides the elements on the chain down to
the parent of the occurrence at which the steps ran out, and each of them is the last child of the one above.
-/

namespace Specimen

/-- The elements that are declared in the content of a type. -/
def TypeContent.declared : TypeContent → List Element
  | .complex g => g.declared
  | _ => []

namespace Walk

/-- The guard admits the type of an element while certain types are open. -/
def AdmitsElement (setup : Setup) (stack : List String) (e : Element) (type : ResolvedType) : Prop :=
  setup.schema.resolveType e = .ok type ∧ Admits setup stack type

/-- The guard refuses the type of an element while certain types are open. -/
def RefusesElement (setup : Setup) (stack : List String) (e : Element) : Prop :=
  ∃ type s, setup.schema.resolveType e = .ok type ∧ s.openTypes = stack ∧ (refused? setup s type).isSome

mutual

/-- An element of a document is whole: it is marked only if it stands where the guard refuses its type, and
its children are whole. -/
inductive Whole (setup : Setup) : (stack : List String) → Element → Node → Prop where
  | stub {stack : List String} {e : Element} (hrefused : RefusesElement setup stack e) :
      Whole setup stack e (stub e)
  | element {stack : List String} {e : Element} {type : ResolvedType} {n : Node}
      (hadmitted : AdmitsElement setup stack e type) (hname : n.name = e.name)
      (hmark : n.head.truncated = false)
      (hchildren : WholeAmong setup (type.identity.toList ++ stack) type.content.declared
        (elementsAmong n.children)) :
      Whole setup stack e n

/-- Elements in a row are whole, each for one of several declarations. -/
inductive WholeAmong (setup : Setup) :
    (stack : List String) → (declared : List Element) → List Node → Prop where
  | nil {stack : List String} {declared : List Element} : WholeAmong setup stack declared []
  | cons {stack : List String} {declared : List Element} {e : Element} {n : Node} {nodes : List Node}
      (he : e ∈ declared) (hfirst : Whole setup stack e n) (hrest : WholeAmong setup stack declared nodes) :
      WholeAmong setup stack declared (n :: nodes)

end

mutual

/-- The element at a path is unfinished, since the steps ran out inside it: it is marked, and of its children
at most the last one is unfinished as well. -/
inductive OpenAt (setup : Setup) :
    (path : String) → (stack : List String) → Element → Node → (stop : String) → Prop where
  | mk {path : String} {stack : List String} {e : Element} {type : ResolvedType} {n : Node} {stop : String}
      (hadmitted : AdmitsElement setup stack e type) (hname : n.name = e.name)
      (hmark : n.head.truncated = true)
      (hchildren : StopsAmong setup path (type.identity.toList ++ stack) type.content.declared
        (elementsAmong n.children) stop) :
      OpenAt setup path stack e n stop

/-- Below a path, the steps ran out behind elements that are whole: at an occurrence that would come next, or
inside the last element. -/
inductive StopsAmong (setup : Setup) : (path : String) → (stack : List String) →
    (declared : List Element) → List Node → (stop : String) → Prop where
  | behind {path : String} {stack : List String} {declared : List Element} {e : Element} {nodes : List Node}
      (hwhole : WholeAmong setup stack declared nodes) (he : e ∈ declared) :
      StopsAmong setup path stack declared nodes (joinPath path e.name)
  | inside {path : String} {stack : List String} {declared : List Element} {e : Element} {nodes : List Node}
      {n : Node} {stop : String} (hwhole : WholeAmong setup stack declared nodes) (he : e ∈ declared)
      (hlast : OpenAt setup (joinPath path e.name) stack e n stop) :
      StopsAmong setup path stack declared (nodes ++ [n]) stop

end

variable {setup : Setup} {path : String} {stack : List String} {declared : List Element}

theorem WholeAmong.append {nodes more : List Node} (h : WholeAmong setup stack declared nodes)
    (hmore : WholeAmong setup stack declared more) : WholeAmong setup stack declared (nodes ++ more) := by
  induction nodes with
  | nil => exact hmore
  | cons n rest ih =>
      cases h with
      | cons he hfirst hrest => exact .cons he hfirst (ih hrest)

theorem WholeAmong.replicate {e : Element} {n : Node} (he : e ∈ declared) (h : Whole setup stack e n)
    (count : Nat) : WholeAmong setup stack declared (List.replicate count n) := by
  induction count with
  | zero => exact .nil
  | succ count ih => exact .cons he h ih

theorem StopsAmong.after {nodes more : List Node} {stop : String}
    (h : WholeAmong setup stack declared nodes) (hmore : StopsAmong setup path stack declared more stop) :
    StopsAmong setup path stack declared (nodes ++ more) stop := by
  cases hmore with
  | behind hwhole he => exact .behind (h.append hwhole) he
  | inside hwhole he hlast =>
      rw [← List.append_assoc]
      exact .inside (h.append hwhole) he hlast

/-! ## What was built -/

mutual

/-- The elements that a task may lead to. -/
def Task.declared : Task → List Element
  | .element _ e => [e]
  | .occurrence e => [e]
  | .group _ g => g.declared
  | .repetition g => g.declared
  | .row tasks => declaredOf tasks

def declaredOf : List Task → List Element
  | [] => []
  | task :: rest => task.declared ++ declaredOf rest

end

theorem declared_ofParticle (force : Bool) (p : Particle) :
    (Task.ofParticle force p).declared = p.declared := by
  cases p <;> rfl

theorem mem_of_mem_declaredOf_map {force : Bool} {members : List Particle} {e : Element}
    (he : e ∈ declaredOf (members.map (.ofParticle force))) : e ∈ declaredAmong members := by
  induction members with
  | nil => exact he
  | cons p rest ih =>
      rw [List.map_cons, declaredOf, declared_ofParticle] at he
      rcases List.mem_append.1 he with hfirst | hrest
      · exact mem_declaredAmong List.mem_cons_self hfirst
      · obtain ⟨q, hq, hmem⟩ := exists_of_mem_declaredAmong (ih hrest)
        exact mem_declaredAmong (List.mem_cons_of_mem p hq) hmem

theorem mem_of_mem_declaredOf_replicate {task : Task} {count : Nat} {e : Element}
    (he : e ∈ declaredOf (List.replicate count task)) : e ∈ task.declared := by
  induction count with
  | zero => cases he
  | succ count ih =>
      rw [List.replicate_succ, declaredOf] at he
      exact (List.mem_append.1 he).elim id ih

/-- What was built is whole if the walk went on behind it, and else the steps ran out in it. -/
def Ends (setup : Setup) (path : String) (stack : List String) (declared : List Element)
    (nodes : List Node) : (stop : Option String) → Prop
  | none => WholeAmong setup stack declared nodes
  | some stop => StopsAmong setup path stack declared nodes stop

theorem Built.ends {task : Task} {nodes : List Node} {a : Account}
    (h : Built setup path stack task nodes a) (hdeclared : ∀ e ∈ task.declared, e ∈ declared) :
    Ends setup path stack declared nodes a.stop := by
  induction h generalizing declared with
  | missing => exact .behind .nil (hdeclared _ (List.mem_singleton_self _))
  | @flat path stack e type n s htype hopen hadmitted hname hflat hchildren hmark =>
      refine .cons (hdeclared e (List.mem_singleton_self e)) ?_ .nil
      refine .element ⟨htype, s, hopen, hadmitted⟩ hname hmark ?_
      rw [hchildren]
      exact .nil
  | @nested path stack e type g n a s htype hopen hadmitted hname _ hcontent _ hmark _ ih =>
      have he : e ∈ declared := hdeclared e (List.mem_singleton_self e)
      have hadmits : AdmitsElement setup stack e type := ⟨htype, s, hopen, hadmitted⟩
      have hchildren := @ih type.content.declared fun c hc => by rw [hcontent]; exact hc
      change Ends setup path stack declared [n] a.stop
      cases hstop : a.stop with
      | none =>
          rw [hstop] at hchildren hmark
          exact .cons he (.element hadmits hname hmark hchildren) .nil
      | some stop =>
          rw [hstop] at hchildren hmark
          exact .inside .nil he (.mk hadmits hname hmark hchildren)
  | @cut path stack force e type identity s htype hopen hrefused =>
      have hstub : RefusesElement setup stack e := ⟨type, s, htype, hopen, by rw [hrefused]; rfl⟩
      exact .replicate (hdeclared e (List.mem_singleton_self e)) (.stub hstub) _
  | occurrences _ ih | repetitions _ ih =>
      refine ih fun e he => ?_
      have hmem := mem_of_mem_declaredOf_replicate he
      exact hdeclared e hmem
  | @all _ _ g _ _ _ _ ih =>
      refine ih fun e he => hdeclared e ?_
      cases g with
      | mk decl members => exact mem_of_mem_declaredOf_map he
  | @branch _ _ g p _ _ _ _ hmember _ _ _ ih =>
      refine ih fun e he => hdeclared e ?_
      rw [declared_ofParticle] at he
      cases g with
      | mk decl members => exact mem_declaredAmong hmember he
  | empty | bare | done => exact .nil
  | last _ _ ih => exact ih fun e he => hdeclared e (List.mem_append_left _ he)
  | @next _ _ _ _ _ _ a b _ hgoing _ ihfirst ihrest =>
      have hfirst := @ihfirst declared fun e he => hdeclared e (List.mem_append_left _ he)
      have hrest := @ihrest declared fun e he => hdeclared e (List.mem_append_right _ he)
      rw [hgoing] at hfirst
      rw [Account.stop_append, hgoing]
      change Ends _ _ _ _ _ b.stop
      cases hstop : b.stop with
      | none =>
          rw [hstop] at hrest
          exact WholeAmong.append hfirst hrest
      | some stop =>
          rw [hstop] at hrest
          exact StopsAmong.after hfirst hrest

/-- The root of a document is whole, or the steps ran out inside it. -/
theorem Built.ends_root {root : Element} {document : Node} {a : Account}
    (h : Built setup "" [] (.occurrence root) [document] a) :
    0 < a.elements ∧
      ((a.stop = none ∧ Whole setup [] root document) ∨
        ∃ stop, a.stop = some stop ∧ OpenAt setup (joinPath "" root.name) [] root document stop) := by
  cases h with
  | @flat _ _ _ type _ s htype hopen hadmitted hname _ hchildren hmark =>
      refine ⟨Nat.one_pos, .inl ⟨rfl, .element ⟨htype, s, hopen, hadmitted⟩ hname hmark ?_⟩⟩
      rw [hchildren]
      exact .nil
  | @nested _ _ _ type g _ a s htype hopen hadmitted hname _ hcontent hinside hmark =>
      refine ⟨Nat.succ_pos _, ?_⟩
      have hchildren : Ends setup (joinPath "" root.name) (type.identity.toList ++ [])
          type.content.declared (elementsAmong document.children) a.stop := by
        rw [hcontent]
        exact hinside.ends fun _ hc => hc
      change (a.stop = none ∧ _) ∨ ∃ stop, a.stop = some stop ∧ _
      cases hstop : a.stop with
      | none =>
          rw [hstop] at hchildren hmark
          exact .inl ⟨rfl, .element ⟨htype, s, hopen, hadmitted⟩ hname hmark hchildren⟩
      | some stop =>
          rw [hstop] at hchildren hmark
          exact .inr ⟨stop, rfl, .mk ⟨htype, s, hopen, hadmitted⟩ hname hmark hchildren⟩

/-- What the guard cuts off is noted as a depth limit. -/
theorem Built.cuts_code {task : Task} {nodes : List Node} {a : Account}
    (h : Built setup path stack task nodes a) : ∀ n ∈ a.cuts, n.code = "depth_limit" := by
  induction h with
  | missing | flat | empty | bare | done => exact List.forall_mem_nil _
  | cut =>
      intro n hn
      rw [List.mem_singleton.1 hn]
      rfl
  | nested _ _ _ _ _ _ _ _ _ ih => exact ih
  | occurrences _ ih | repetitions _ ih | all _ _ ih | branch _ _ _ _ _ ih | last _ _ ih => exact ih
  | next _ _ _ ihfirst ihrest =>
      intro n hn
      exact (List.mem_append.1 hn).elim (ihfirst n) (ihrest n)

end Walk
end Specimen
