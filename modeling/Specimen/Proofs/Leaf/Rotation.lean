import Mathlib.Data.List.Rotate
import Mathlib.Data.List.TakeWhile
import Specimen.Leaf.Resolution
import Specimen.Proofs.Run.Action
import Specimen.Proofs.Run.Selection

/-!
# Pools in rotation

A rotation that has come to some place in a pool goes on from there, around the end of the pool, until every value was
tried once.  As long as a value is refused only its retry is counted, and whether another one is accepted does not
change.  So with as many tries as there are values, the first acceptable one is found that comes next.
-/

namespace Specimen

open Run

namespace SelectionState

/-- The candidates in the order in which the rotation of a path and a strategy comes to them. -/
def turns {α : Type} (s : SelectionState) (path : String) (strategy : SelectionStrategy) (candidates : List α) :
    List α :=
  candidates.rotate (s.cursor path strategy).toNat

/-- A rotation has gone on by a number of picks.  Other rotations and what is drawn are as they were. -/
structure TurnedBy (s : SelectionState) (path : String) (strategy : SelectionStrategy) (picks : Nat)
    (t : SelectionState) : Prop where
  cursor : t.cursor path strategy = s.cursor path strategy + UInt64.ofNat picks
  others : ∀ path' strategy', ¬(path' = path ∧ strategy' = strategy) →
    t.cursor path' strategy' = s.cursor path' strategy'
  streams : t.streams = s.streams

variable {s t u : SelectionState} {path : String} {strategy : SelectionStrategy}

theorem turnedBy_rotate (s : SelectionState) (path : String) (strategy : SelectionStrategy) (length : Nat) :
    s.TurnedBy path strategy 1 (s.rotate (key path strategy) length).2 where
  cursor := cursor_rotate_self s length
  others _ _ hne := cursor_rotate_of_ne s length fun h => hne ⟨h.1.symm, h.2.symm⟩
  streams := rfl

theorem TurnedBy.trans {m n : Nat} (hst : s.TurnedBy path strategy m t) (htu : t.TurnedBy path strategy n u) :
    s.TurnedBy path strategy (m + n) u where
  cursor := by rw [htu.cursor, hst.cursor, UInt64.ofNat_add, UInt64.add_assoc]
  others path' strategy' hne := (htu.others path' strategy' hne).trans (hst.others path' strategy' hne)
  streams := htu.streams.trans hst.streams

/-- Once the next candidate has had its turn, it comes last. -/
theorem turns_rotate {α : Type} {candidates rest : List α} {a : α} (length : Nat)
    (hturns : s.turns path strategy candidates = a :: rest)
    (hfew : (s.cursor path strategy).toNat + 1 < UInt64.size) :
    (s.rotate (key path strategy) length).2.turns path strategy candidates = rest ++ [a] := by
  unfold turns at hturns ⊢
  rw [toNat_cursor_rotate length hfew, ← List.rotate_rotate, hturns, List.rotate_cons_succ, List.rotate_zero]

end SelectionState

/-- A state in which a rotation has gone on by one pick. -/
def RunState.turned (s : RunState) (path : String) (strategy : SelectionStrategy) (length : Nat) : RunState :=
  { s with selection := (s.selection.rotate (SelectionState.key path strategy) length).2 }

@[simp] theorem RunState.used_turned (s : RunState) (path : String) (strategy : SelectionStrategy) (length : Nat) :
    (s.turned path strategy length).used = s.used := rfl

/-- A rotation picks the candidate whose turn it is. -/
theorem Run.pickFrom_of_turns {α : Type} {path : String} {strategy : SelectionStrategy}
    (hrotates : SelectionState.Rotates strategy) {candidates rest : List α} {a : α} {s : RunState}
    (hturns : s.selection.turns path strategy candidates = a :: rest) :
    (pickFrom path strategy candidates).exec s = (.ok (some a), s.turned path strategy candidates.length) := by
  unfold SelectionState.turns at hturns
  have hlength : 0 < candidates.length := by
    rw [← List.length_rotate candidates (s.selection.cursor path strategy).toNat, hturns]
    exact Nat.succ_pos _
  have hget : candidates[(s.selection.cursor path strategy).toNat % candidates.length]? = some a := by
    rw [← Nat.zero_add (s.selection.cursor path strategy).toNat, ← List.getElem?_rotate hlength, hturns]
    rfl
  have hpick : (pick path strategy candidates.length).exec s =
      (.ok (some ((s.selection.cursor path strategy).toNat % candidates.length)),
        s.turned path strategy candidates.length) := by
    change (Except.ok (s.selection.pick s.seed path strategy candidates.length s.rng).1,
      { s with
        selection := (s.selection.pick s.seed path strategy candidates.length s.rng).2.1
        rng := (s.selection.pick s.seed path strategy candidates.length s.rng).2.2 }) = _
    rw [s.selection.pick_of_rotates s.seed path s.rng hrotates hlength]
    rfl
  refine exec_bind_eq_ok.2 ⟨_, _, hpick, ?_⟩
  rw [Option.bind_some, hget, exec_pure]

namespace Leaf

variable {setup : Setup} {q : LeafRequest} {s t : RunState}

/-- Whether a value is refused. -/
def refuses (setup : Setup) (s : RunState) (q : LeafRequest) (value : String) : Bool :=
  match accept setup s q value with
  | .ok () => false
  | .error _ => true

theorem accept_of_refuses {value : String} (h : refuses setup s q value = true) :
    ∃ reason, accept setup s q value = .error reason := by
  unfold refuses at h
  split at h
  · cases h
  · rename_i reason hreason
    exact ⟨reason, hreason⟩

theorem refuses_eq_false_iff {value : String} :
    refuses setup s q value = false ↔ accept setup s q value = .ok () := by
  unfold refuses
  split
  · rename_i haccept
    simp [haccept]
  · rename_i reason hreason
    simp [hreason]

/-- What is accepted depends on nothing but the values that siblings have used. -/
theorem accept_congr (h : t.used = s.used) (value : String) : accept setup t q value = accept setup s q value := by
  unfold accept RunState.isUsed
  rw [h]

theorem refuses_congr (h : t.used = s.used) (value : String) : refuses setup t q value = refuses setup s q value := by
  unfold refuses
  rw [accept_congr h]

/-- The values that are refused before one is accepted. -/
def refusedFirst (setup : Setup) (s : RunState) (q : LeafRequest) (values : List String) : List String :=
  values.takeWhile (refuses setup s q)

theorem refusedFirst_append {values : List String} (h : ∃ v ∈ values, accept setup s q v = .ok ()) :
    ∃ v rest, values = refusedFirst setup s q values ++ v :: rest ∧ accept setup s q v = .ok () := by
  cases hrest : values.dropWhile (refuses setup s q) with
  | nil =>
      obtain ⟨v, hv, haccept⟩ := h
      have hrefused := List.dropWhile_eq_nil_iff.1 hrest v hv
      rw [refuses_eq_false_iff.2 haccept] at hrefused
      cases hrefused
  | cons v rest =>
      refine ⟨v, rest, ?_, ?_⟩
      · rw [← hrest]
        exact List.takeWhile_append_dropWhile.symm
      · have hfirst : values.find? (fun w => !refuses setup s q w) = some v := by
          rw [List.find?_not_eq_head?_dropWhile, hrest, List.head?_cons]
        have haccepted := List.find?_some hfirst
        rw [Bool.not_eq_true'] at haccepted
        exact refuses_eq_false_iff.1 haccepted

/-- How a state is left when some values of a pool in rotation were refused and then one was found. -/
structure Found (setup : Setup) (q : LeafRequest) (strategy : SelectionStrategy) (source : String) (s : RunState)
    (refusals : Nat) (value : String) (t : RunState) : Prop where
  turned : s.selection.TurnedBy q.path strategy (refusals + 1) t.selection
  report : t.report = Report.countValue source { s.report with retries := s.report.retries + refusals }
  used : t.used = ((markUsed setup q value).exec s).2.used
  others : t = { s with selection := t.selection, report := t.report, used := t.used }

theorem used_markUsed_congr (h : t.used = s.used) (value : String) :
    ((markUsed setup q value).exec t).2.used = ((markUsed setup q value).exec s).2.used := by
  unfold markUsed
  split
  · split
    · change (t.markUsed _ _ _).used = (s.markUsed _ _ _).used
      unfold RunState.markUsed
      rw [h]
    · exact h
  · exact h

/-- A state in which the next value of a rotation has been refused. -/
def afterRefusal (s : RunState) (q : LeafRequest) (strategy : SelectionStrategy) (length : Nat) : RunState :=
  { s.turned q.path strategy length with report := s.report.countRetry }

theorem used_afterRefusal (s : RunState) (q : LeafRequest) (strategy : SelectionStrategy) (length : Nat) :
    (afterRefusal s q strategy length).used = s.used := rfl

/-- A value that was refused before is one more refusal. -/
theorem Found.of_afterRefusal {strategy : SelectionStrategy} {source value : String} {length refusals : Nat}
    (h : Found setup q strategy source (afterRefusal s q strategy length) refusals value t) :
    Found setup q strategy source s (refusals + 1) value t where
  turned := by
    rw [Nat.add_comm]
    exact (SelectionState.turnedBy_rotate s.selection q.path strategy length).trans h.turned
  report := by
    rw [h.report, Nat.add_comm refusals 1, ← Nat.add_assoc]
    rfl
  used := h.used.trans (used_markUsed_congr (used_afterRefusal s q strategy length) value)
  others := h.others

theorem keep_exec (source value : String) : (keep setup q source value).exec s =
    (.ok (), { s with
      report := s.report.countValue source
      used := ((markUsed setup q value).exec s).2.used }) := by
  unfold keep markUsed
  split
  · split <;> rfl
  · rfl

section Turns

variable {pool : List String} {strategy : SelectionStrategy} {source : String}
  (hrotates : SelectionState.Rotates strategy)

include hrotates

theorem tryPool_of_accept {v : String} {rest : List String}
    (hturns : s.selection.turns q.path strategy pool = v :: rest) (haccept : accept setup s q v = .ok ())
    (tries : Nat) (last : Option Refusal) :
    (tryPool setup q pool strategy source (tries + 1) last).exec s =
      (.ok (.value v), { s.turned q.path strategy pool.length with
        report := s.report.countValue source
        used := ((markUsed setup q v).exec s).2.used }) := by
  unfold tryPool
  rw [exec_bind_of_ok (pickFrom_of_turns hrotates hturns)]
  dsimp only
  rw [exec_get_bind, accept_congr (RunState.used_turned s _ _ _), haccept]
  dsimp only
  rw [exec_bind_of_ok (keep_exec source v), exec_pure, used_markUsed_congr (RunState.used_turned s _ _ _)]
  rfl

theorem tryPool_of_refuse {w reason : String} {rest : List String}
    (hturns : s.selection.turns q.path strategy pool = w :: rest) (hrefuse : accept setup s q w = .error reason)
    (tries : Nat) (last : Option Refusal) :
    (tryPool setup q pool strategy source (tries + 1) last).exec s =
      (tryPool setup q pool strategy source tries (some ⟨w, reason⟩)).exec
        (afterRefusal s q strategy pool.length) := by
  rw [tryPool, exec_bind_of_ok (pickFrom_of_turns hrotates hturns)]
  dsimp only
  rw [exec_get_bind, accept_congr (RunState.used_turned s _ _ _), hrefuse]
  rfl

/-- Values in rotation are tried one after the other until one is accepted.  The induction is on the refused ones: each
of them goes to the end of the row, and the rest of the tries begins in the state after its refusal. -/
theorem tryPool_of_turns {refused rest : List String} {v : String}
    (hturns : s.selection.turns q.path strategy pool = refused ++ v :: rest)
    (hrefused : ∀ w ∈ refused, refuses setup s q w = true) (haccept : accept setup s q v = .ok ())
    (hfew : (s.selection.cursor q.path strategy).toNat + refused.length < UInt64.size)
    {tries : Nat} (htries : refused.length < tries) (last : Option Refusal) :
    ∃ t, (tryPool setup q pool strategy source tries last).exec s = (.ok (.value v), t) ∧
      Found setup q strategy source s refused.length v t := by
  obtain ⟨tries, rfl⟩ := Nat.exists_eq_succ_of_ne_zero (Nat.ne_of_gt (Nat.zero_lt_of_lt htries))
  induction refused generalizing s rest tries last with
  | nil =>
      refine ⟨_, tryPool_of_accept hrotates hturns haccept tries last, ?_, rfl, rfl, rfl⟩
      exact SelectionState.turnedBy_rotate _ _ _ pool.length
  | cons w refused ih =>
      obtain ⟨reason, hreason⟩ := accept_of_refuses (hrefused w List.mem_cons_self)
      rw [List.length_cons] at hfew htries
      rw [List.cons_append] at hturns
      obtain ⟨tries, rfl⟩ : ∃ more, tries = more + 1 := ⟨tries - 1, by omega⟩
      have hused := used_afterRefusal s q strategy pool.length
      have hnext : ((afterRefusal s q strategy pool.length).selection.cursor q.path strategy).toNat =
          (s.selection.cursor q.path strategy).toNat + 1 :=
        SelectionState.toNat_cursor_rotate pool.length (by omega)
      have hlater : (afterRefusal s q strategy pool.length).selection.turns q.path strategy pool =
          refused ++ v :: (rest ++ [w]) := by
        have hturn := SelectionState.turns_rotate pool.length hturns (by omega)
        rwa [List.append_assoc] at hturn
      have hstill : ∀ w ∈ refused, refuses setup (afterRefusal s q strategy pool.length) q w = true := by
        intro w hw
        rw [refuses_congr hused]
        exact hrefused w (List.mem_cons_of_mem _ hw)
      obtain ⟨t, hrun, hfound⟩ := ih hlater hstill ((accept_congr hused v).trans haccept) (by omega)
        (some ⟨w, reason⟩) tries (by omega)
      exact ⟨t, (tryPool_of_refuse hrotates hturns hreason _ last).trans hrun, hfound.of_afterRefusal⟩

end Turns

/-- Of a pool in rotation with one value this value is found, whether it is accepted or not, if values that are
refused are kept. -/
theorem tryPool_singleton (hkeeps : setup.plan.overrides.enforceConstraints = false) {strategy : SelectionStrategy}
    (hrotates : SelectionState.Rotates strategy) (value source : String) (tries : Nat) (last : Option Refusal)
    (hsome : 0 < tries ∨ last.map (·.value) = some value) (s : RunState) :
    ∃ t, (tryPool setup q [value] strategy source tries last).exec s = (.ok (.value value), t) := by
  induction tries generalizing last s with
  | zero =>
      obtain ⟨refusal, rfl, rfl⟩ := Option.map_eq_some_iff.1 (hsome.resolve_left (Nat.lt_irrefl 0))
      unfold tryPool settle
      dsimp only
      rw [hkeeps]
      exact ⟨_, exec_bind_eq_ok.2 ⟨(), _, rfl, exec_bind_eq_ok.2 ⟨(), _, keep_exec source refusal.value, rfl⟩⟩⟩
  | succ tries ih =>
      have hturns : s.selection.turns q.path strategy [value] = value :: [] := List.rotate_singleton value _
      cases haccept : accept setup s q value with
      | ok accepted => exact ⟨_, tryPool_of_accept hrotates hturns haccept tries last⟩
      | error reason =>
          rw [tryPool_of_refuse hrotates hturns haccept tries last]
          exact ih _ (.inr rfl) _

/-- A leaf whose rule has one value gets it, if values that are refused are kept. -/
theorem resolve_of_singleton (hkeeps : setup.plan.overrides.enforceConstraints = false)
    (hfixed : q.fixed = none) (hdelegate : delegate? setup q = none) {rule : ElementRule}
    (hrule : setup.plan.rule? q.name q.path = some rule) {value : String} (hvalues : rule.customValues = [value])
    (hselection : rule.selection = none) (s : RunState) : ∃ t, (resolve setup q).exec s = (.ok value, t) := by
  have htries : 0 < setup.options.valueTries := Nat.lt_of_lt_of_le Nat.one_pos (Nat.le_max_right _ _)
  obtain ⟨t, hpicked⟩ := tryPool_singleton (q := q) hkeeps (.inl rfl) value "custom_values"
    setup.options.valueTries none (.inl htries) s
  refine ⟨t, ?_⟩
  unfold resolve resolveOpen fromSources
  rw [hfixed, hdelegate, hrule]
  dsimp only
  unfold fromRule pickFromPool
  rw [hvalues, hselection]
  exact exec_bind_eq_ok.2 ⟨_, t, hpicked, rfl⟩

/-- When a pool in rotation has an acceptable value and there is a try for each of its values, the first acceptable
one is found that comes next.  One retry is counted for each value that was refused before it, the rotation has gone on
by as many picks as values were tried, and neither a fallback nor a warning comes of it.  This needs only that a cursor
can count the picks that came before each of these (`hfew`), since it begins anew when it cannot. -/
theorem pickFromPool_of_rotates (setup : Setup) (q : LeafRequest) (pool : List String) (strategy : SelectionStrategy)
    (source : String) (s : RunState) (hrotates : SelectionState.Rotates strategy)
    (hsome : ∃ v ∈ pool, accept setup s q v = .ok ()) (htries : pool.length ≤ setup.options.valueTries)
    (hfew : (s.selection.cursor q.path strategy).toNat +
      (refusedFirst setup s q (s.selection.turns q.path strategy pool)).length < UInt64.size) :
    ∃ v rest t, s.selection.turns q.path strategy pool =
        refusedFirst setup s q (s.selection.turns q.path strategy pool) ++ v :: rest ∧
      accept setup s q v = .ok () ∧
      (pickFromPool setup q pool strategy source).exec s = (.ok (.value v), t) ∧
      Found setup q strategy source s
        (refusedFirst setup s q (s.selection.turns q.path strategy pool)).length v t := by
  obtain ⟨w, hw, hacceptable⟩ := hsome
  have hturn : w ∈ s.selection.turns q.path strategy pool := List.mem_rotate.2 hw
  obtain ⟨v, rest, hturns, haccept⟩ := refusedFirst_append ⟨w, hturn, hacceptable⟩
  have hcount : (refusedFirst setup s q (s.selection.turns q.path strategy pool)).length < pool.length := by
    have hlength := congrArg List.length hturns
    rw [List.length_append, List.length_cons] at hlength
    have hall : (s.selection.turns q.path strategy pool).length = pool.length := List.length_rotate _ _
    omega
  obtain ⟨t, hrun, hfound⟩ :
      ∃ t, (tryPool setup q pool strategy source setup.options.valueTries none).exec s = (.ok (.value v), t) ∧
        Found setup q strategy source s
          (refusedFirst setup s q (s.selection.turns q.path strategy pool)).length v t :=
    tryPool_of_turns hrotates hturns (fun w hw => List.mem_takeWhile_imp hw) haccept hfew
      (Nat.lt_of_lt_of_le hcount htries) none
  refine ⟨v, rest, t, hturns, haccept, ?_, hfound⟩
  unfold pickFromPool
  rw [if_neg (by simpa using List.ne_nil_of_mem hw)]
  exact hrun

/-- The leaf of a flag that has to be white. -/
def flagLeaf : LeafRequest where
  name := "Flag"
  path := "Flag"
  facets := { base := .string, enumeration := ["white"] }

def flagSetup : Setup := { schema := { version := "1", elements := [] }, plan := {} }

/-- A state in which the colours of flags have come to the second one. -/
def flagState : RunState := (RunState.start 0 {}).turned flagLeaf.path .sequential 3

theorem cursor_flagState : flagState.selection.cursor flagLeaf.path .sequential = 1 :=
  (SelectionState.cursor_rotate_self {} 3).trans
    (congrArg (· + 1) (SelectionState.cursor_empty flagLeaf.path .sequential))

theorem turns_flagState : flagState.selection.turns flagLeaf.path .sequential ["white", "red", "green"] =
    ["red", "green", "white"] := by
  unfold SelectionState.turns
  rw [cursor_flagState]
  rfl

/-- With two colours refused on the way the white one is found, past the end of the pool. -/
theorem pickFromPool_of_rotates_flag : ∃ t,
    (pickFromPool flagSetup flagLeaf ["white", "red", "green"] .sequential "custom_values").exec flagState =
      (.ok (.value "white"), t) ∧
    t.report.retries = 2 ∧ t.report.warnings = #[] ∧ t.selection.cursor flagLeaf.path .sequential = 4 := by
  have hrefused : refusedFirst flagSetup flagState flagLeaf ["red", "green", "white"] = ["red", "green"] := by
    decide +kernel
  obtain ⟨v, rest, t, hturns, -, hrun, hfound⟩ := pickFromPool_of_rotates flagSetup flagLeaf
    ["white", "red", "green"] .sequential "custom_values" flagState (.inl rfl) ⟨"white", List.mem_cons_self, rfl⟩
    (by decide) (by rw [turns_flagState, hrefused, cursor_flagState]; decide)
  rw [turns_flagState, hrefused] at hturns hfound
  obtain ⟨rfl, -⟩ : v = "white" ∧ rest = [] := by simpa [eq_comm] using hturns
  have hcursor := hfound.turned.cursor
  rw [cursor_flagState] at hcursor
  refine ⟨t, hrun, ?_, ?_, hcursor⟩
  · rw [hfound.report]
    rfl
  · rw [hfound.report]
    rfl

end Leaf
end Specimen
