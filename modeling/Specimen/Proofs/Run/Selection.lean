import Specimen.Proofs.Random.Draw

/-!
# Streams of selections

Every path has a rotation and a stream of drawn positions of its own, for each strategy.  All of them are
kept in maps by a text that is put together from the path and the strategy; that text determines both, also
when a path has the separator in it.  A request therefore moves the stream of its own path and strategy and
no other, and the results of one stream are the same whatever is requested in between.
-/

namespace Specimen

open Specimen.Random

/-! ## Keys -/

theorem SelectionStrategy.name_injective {strategy strategy' : SelectionStrategy}
    (h : strategy.name = strategy'.name) : strategy = strategy' := by
  cases strategy <;> cases strategy' <;> first | rfl | exact absurd h (by decide)

theorem SelectionStrategy.name_separatorFree (strategy : SelectionStrategy) :
    strategy.name.toList.all (fun c => decide (c ≠ '#')) = true := by
  cases strategy <;> rfl

namespace SelectionState

/-- The name of a strategy has no separator, so it is what stands after the last separator of a key. -/
theorem takeWhile_reverse_key (path : String) (strategy : SelectionStrategy) :
    (key path strategy).toList.reverse.takeWhile (· ≠ '#') = strategy.name.toList.reverse := by
  have hname : ∀ c ∈ strategy.name.toList.reverse, decide (c ≠ '#') = true := fun c hc =>
    List.all_eq_true.1 strategy.name_separatorFree c (List.mem_reverse.1 hc)
  have hreverse : (key path strategy).toList.reverse =
      strategy.name.toList.reverse ++ '#' :: path.toList.reverse := by simp [key]
  rw [hreverse, List.takeWhile_append_of_pos hname, List.takeWhile_cons_of_neg (by simp), List.append_nil]

theorem key_inj {path path' : String} {strategy strategy' : SelectionStrategy} :
    key path strategy = key path' strategy' ↔ path = path' ∧ strategy = strategy' := by
  constructor
  · intro h
    have hnames : strategy.name.toList.reverse = strategy'.name.toList.reverse := by
      rw [← takeWhile_reverse_key path, ← takeWhile_reverse_key path', h]
    obtain rfl : strategy = strategy' :=
      SelectionStrategy.name_injective (String.toList_inj.1 (List.reverse_inj.1 hnames))
    have hlists := congrArg String.toList h
    simp only [key, String.toList_append, List.append_cancel_right_eq] at hlists
    exact ⟨String.toList_inj.1 hlists, rfl⟩
  · rintro ⟨rfl, rfl⟩
    rfl

/-! ## One request -/

/-- A request for one of a number of positions. -/
structure Request where
  path : String
  strategy : SelectionStrategy
  length : Nat
  deriving DecidableEq

/-- A request that belongs to a path and a strategy. -/
def Request.isFor (path : String) (strategy : SelectionStrategy) (r : Request) : Bool :=
  decide (r.path = path ∧ r.strategy = strategy)

/-- How often the rotation of a path and a strategy was asked. -/
def cursor (s : SelectionState) (path : String) (strategy : SelectionStrategy) : UInt64 :=
  s.cursors.getD (key path strategy) 0

/-- The numbers that the next seeded pick for a path is drawn from. -/
def stream (s : SelectionState) (seed : UInt64) (path : String) : Rng :=
  s.streams.getD (key path .seeded) (Rng.ofSeedAndText seed path)

@[simp] theorem cursor_empty (path : String) (strategy : SelectionStrategy) :
    ({} : SelectionState).cursor path strategy = 0 :=
  Std.HashMap.getD_empty

@[simp] theorem stream_empty (seed : UInt64) (path : String) :
    ({} : SelectionState).stream seed path = Rng.ofSeedAndText seed path :=
  Std.HashMap.getD_empty

/-- A strategy that goes through the positions in turn. -/
def Rotates (strategy : SelectionStrategy) : Prop := strategy = .sequential ∨ strategy = .template

section Pick

variable (s : SelectionState) (seed : UInt64) (path : String) {length : Nat} (rng : Rng)

theorem pick_zero (strategy : SelectionStrategy) : s.pick seed path strategy 0 rng = (none, s, rng) := rfl

theorem pick_of_rotates {strategy : SelectionStrategy} (hrotates : Rotates strategy) (hlength : 0 < length) :
    s.pick seed path strategy length rng =
      (some ((s.cursor path strategy).toNat % length), (s.rotate (key path strategy) length).2, rng) := by
  obtain rfl | rfl := hrotates <;> simp only [pick, if_neg (Nat.ne_of_gt hlength), rotate, cursor]

theorem pick_random (hlength : 0 < length) :
    s.pick seed path .random length rng =
      (some (Draw.index length rng).1, s, (Draw.index length rng).2) := by
  simp only [pick, if_neg (Nat.ne_of_gt hlength)]
  rfl

theorem drawSeeded_eq (length : Nat) :
    s.drawSeeded seed path (key path .seeded) length =
      ((Draw.index length (s.stream seed path)).1,
        { s with streams :=
            s.streams.insert (key path .seeded) (Draw.index length (s.stream seed path)).2 }) :=
  rfl

theorem pick_seeded (hlength : 0 < length) :
    s.pick seed path .seeded length rng =
      (some (Draw.index length (s.stream seed path)).1,
        (s.drawSeeded seed path (key path .seeded) length).2, rng) := by
  simp only [pick, if_neg (Nat.ne_of_gt hlength), drawSeeded_eq]

end Pick

/-! ## What a request leaves alone -/

section Kept

variable {path path' : String} {strategy strategy' : SelectionStrategy}

theorem cursor_rotate_self (s : SelectionState) (length : Nat) :
    (s.rotate (key path strategy) length).2.cursor path strategy = s.cursor path strategy + 1 :=
  Std.HashMap.getD_insert_self

/-- A cursor that does not begin anew counts the request. -/
theorem toNat_cursor_rotate {s : SelectionState} (length : Nat)
    (hfew : (s.cursor path strategy).toNat + 1 < UInt64.size) :
    ((s.rotate (key path strategy) length).2.cursor path strategy).toNat = (s.cursor path strategy).toNat + 1 := by
  rw [cursor_rotate_self, UInt64.toNat_add]
  exact Nat.mod_eq_of_lt hfew

theorem cursor_rotate_of_ne (s : SelectionState) (length : Nat) (hne : ¬(path' = path ∧ strategy' = strategy)) :
    (s.rotate (key path' strategy') length).2.cursor path strategy = s.cursor path strategy := by
  simp only [rotate, cursor, Std.HashMap.getD_insert, beq_iff_eq, key_inj, if_neg hne]

theorem stream_drawSeeded_self (s : SelectionState) (seed : UInt64) (length : Nat) :
    (s.drawSeeded seed path (key path .seeded) length).2.stream seed path =
      (Draw.index length (s.stream seed path)).2 :=
  Std.HashMap.getD_insert_self

theorem stream_drawSeeded_of_ne (s : SelectionState) (seed : UInt64) (length : Nat) (hne : path' ≠ path) :
    (s.drawSeeded seed path' (key path' .seeded) length).2.stream seed path = s.stream seed path := by
  rw [drawSeeded_eq]
  simp only [stream, Std.HashMap.getD_insert, beq_iff_eq, key_inj, hne, false_and, if_false]

/-- A request moves no rotation but that of its own path and strategy. -/
theorem cursor_pick_of_ne (s : SelectionState) (seed : UInt64) (length : Nat) (rng : Rng)
    (hne : ¬(path' = path ∧ strategy' = strategy)) :
    (s.pick seed path' strategy' length rng).2.1.cursor path strategy = s.cursor path strategy := by
  obtain rfl | hlength := Nat.eq_zero_or_pos length
  · rw [pick_zero]
  cases strategy' with
  | sequential => rw [pick_of_rotates _ _ _ _ (.inl rfl) hlength, cursor_rotate_of_ne _ _ hne]
  | template => rw [pick_of_rotates _ _ _ _ (.inr rfl) hlength, cursor_rotate_of_ne _ _ hne]
  | random => rw [pick_random _ _ _ _ hlength]
  | seeded => rw [pick_seeded _ _ _ _ hlength]; rfl

/-- A request moves no stream but that of its own path, and only when its numbers are seeded. -/
theorem stream_pick_of_ne (s : SelectionState) (seed : UInt64) (length : Nat) (rng : Rng)
    (hne : ¬(path' = path ∧ strategy' = .seeded)) :
    (s.pick seed path' strategy' length rng).2.1.stream seed path = s.stream seed path := by
  obtain rfl | hlength := Nat.eq_zero_or_pos length
  · rw [pick_zero]
  cases strategy' with
  | sequential => rw [pick_of_rotates _ _ _ _ (.inl rfl) hlength]; rfl
  | template => rw [pick_of_rotates _ _ _ _ (.inr rfl) hlength]; rfl
  | random => rw [pick_random _ _ _ _ hlength]
  | seeded => rw [pick_seeded _ _ _ _ hlength, stream_drawSeeded_of_ne _ _ _ fun h => hne ⟨h, rfl⟩]

/-- Only random requests use the numbers of the run. -/
theorem rng_pick_of_ne (s : SelectionState) (seed : UInt64) (path : String) (length : Nat) (rng : Rng)
    (hne : strategy ≠ .random) : (s.pick seed path strategy length rng).2.2 = rng := by
  obtain rfl | hlength := Nat.eq_zero_or_pos length
  · rw [pick_zero]
  cases strategy with
  | sequential => rw [pick_of_rotates _ _ _ _ (.inl rfl) hlength]
  | template => rw [pick_of_rotates _ _ _ _ (.inr rfl) hlength]
  | random => exact absurd rfl hne
  | seeded => rw [pick_seeded _ _ _ _ hlength]

end Kept

/-! ## Requests in turn -/

/-- Serves requests one after the other and notes what each is given. -/
def serve (seed : UInt64) : List Request → SelectionState → Rng →
    List (Request × Option Nat) × SelectionState × Rng
  | [], s, rng => ([], s, rng)
  | r :: rest, s, rng =>
    let (result, s, rng) := s.pick seed r.path r.strategy r.length rng
    let (log, s, rng) := serve seed rest s rng
    ((r, result) :: log, s, rng)

/-- What the requests for a path and a strategy were given, in their order. -/
def resultsFor (path : String) (strategy : SelectionStrategy) (log : List (Request × Option Nat)) :
    List (Option Nat) :=
  (log.filter fun entry => entry.1.isFor path strategy).map Prod.snd

/-- The numbers of candidates of the requests for a path and a strategy, in their order. -/
def lengthsFor (path : String) (strategy : SelectionStrategy) (requests : List Request) : List Nat :=
  (requests.filter (Request.isFor path strategy)).map Request.length

/-- The numbers of candidates of the random requests, in their order. -/
def randomLengths (requests : List Request) : List Nat :=
  (requests.filter fun r => r.strategy = .random).map Request.length

section Serve

variable (seed : UInt64) (path : String) (strategy : SelectionStrategy)

theorem lengthsFor_cons_self {r : Request} (hfor : r.isFor path strategy) (rest : List Request) :
    lengthsFor path strategy (r :: rest) = r.length :: lengthsFor path strategy rest := by
  simp [lengthsFor, hfor]

theorem lengthsFor_cons_of_ne {r : Request} (hfor : ¬r.isFor path strategy) (rest : List Request) :
    lengthsFor path strategy (r :: rest) = lengthsFor path strategy rest := by
  simp [lengthsFor, hfor]

theorem resultsFor_serve_cons_self {r : Request} (hfor : r.isFor path strategy) (rest : List Request)
    (s : SelectionState) (rng : Rng) :
    resultsFor path strategy (serve seed (r :: rest) s rng).1 =
      let (result, s, rng) := s.pick seed r.path r.strategy r.length rng
      result :: resultsFor path strategy (serve seed rest s rng).1 := by
  simp [serve, resultsFor, hfor]

theorem resultsFor_serve_cons_of_ne {r : Request} (hfor : ¬r.isFor path strategy) (rest : List Request)
    (s : SelectionState) (rng : Rng) :
    resultsFor path strategy (serve seed (r :: rest) s rng).1 =
      let (_, s, rng) := s.pick seed r.path r.strategy r.length rng
      resultsFor path strategy (serve seed rest s rng).1 := by
  simp [serve, resultsFor, hfor]

/-- The requests of a rotating strategy take the positions of their path in turn, wherever they stand among
other requests. -/
theorem resultsFor_of_rotates {strategy : SelectionStrategy} (hrotates : Rotates strategy)
    (requests : List Request) (s : SelectionState) (rng : Rng)
    (hpositive : ∀ n ∈ lengthsFor path strategy requests, 0 < n)
    (hfew : (s.cursor path strategy).toNat + (lengthsFor path strategy requests).length < Nat.pow 2 64) :
    resultsFor path strategy (serve seed requests s rng).1 =
      (lengthsFor path strategy requests).mapIdx fun k n =>
        some (((s.cursor path strategy).toNat + k) % n) := by
  induction requests generalizing s rng with
  | nil => rfl
  | cons r rest ih =>
    by_cases hfor : r.isFor path strategy
    · obtain ⟨rfl, rfl⟩ : r.path = path ∧ r.strategy = strategy := of_decide_eq_true hfor
      rw [lengthsFor_cons_self _ _ hfor] at hpositive hfew ⊢
      rw [List.length_cons] at hfew
      have hsize : Nat.pow 2 64 = UInt64.size := rfl
      have hnext : ((s.rotate (key r.path r.strategy) r.length).2.cursor r.path r.strategy).toNat =
          (s.cursor r.path r.strategy).toNat + 1 := toNat_cursor_rotate r.length (by omega)
      have hrest := ih (s.rotate (key r.path r.strategy) r.length).2 rng
        (fun n hn => hpositive n (List.mem_cons_of_mem _ hn)) (by omega)
      rw [resultsFor_serve_cons_self _ _ _ hfor,
        pick_of_rotates _ _ _ _ hrotates (hpositive _ List.mem_cons_self), List.mapIdx_cons]
      simp only [hrest, hnext, Nat.add_zero, Nat.add_assoc, Nat.add_comm 1]
    · have hne : ¬(r.path = path ∧ r.strategy = strategy) := fun h => hfor (decide_eq_true h)
      rw [lengthsFor_cons_of_ne _ _ hfor] at hpositive hfew ⊢
      rw [resultsFor_serve_cons_of_ne _ _ _ hfor]
      have hkept := cursor_pick_of_ne s seed r.length rng hne
      have hrest := ih (s.pick seed r.path r.strategy r.length rng).2.1
        (s.pick seed r.path r.strategy r.length rng).2.2 hpositive (by rw [hkept]; exact hfew)
      rw [hkept] at hrest
      exact hrest

/-- The seeded requests for a path are given the positions that are drawn from the numbers of the path,
wherever they stand among other requests. -/
theorem resultsFor_seeded (requests : List Request) (s : SelectionState) (rng : Rng)
    (hpositive : ∀ n ∈ lengthsFor path .seeded requests, 0 < n) :
    resultsFor path .seeded (serve seed requests s rng).1 =
      ((lengthsFor path .seeded requests).mapM Draw.index (s.stream seed path)).1.map some := by
  induction requests generalizing s rng with
  | nil => rfl
  | cons r rest ih =>
    by_cases hfor : r.isFor path .seeded
    · obtain ⟨rfl, hseeded⟩ : r.path = path ∧ r.strategy = .seeded := of_decide_eq_true hfor
      rw [lengthsFor_cons_self _ _ hfor] at hpositive ⊢
      have hrest := ih (s.drawSeeded seed r.path (key r.path .seeded) r.length).2 rng
        (fun n hn => hpositive n (List.mem_cons_of_mem _ hn))
      rw [resultsFor_serve_cons_self _ _ _ hfor, hseeded,
        pick_seeded _ _ _ _ (hpositive _ List.mem_cons_self), List.mapM_cons]
      rw [stream_drawSeeded_self] at hrest
      simp only [hrest]
      rfl
    · have hne : ¬(r.path = path ∧ r.strategy = .seeded) := fun h => hfor (decide_eq_true h)
      rw [lengthsFor_cons_of_ne _ _ hfor] at hpositive ⊢
      rw [resultsFor_serve_cons_of_ne _ _ _ hfor]
      have hrest := ih (s.pick seed r.path r.strategy r.length rng).2.1
        (s.pick seed r.path r.strategy r.length rng).2.2 hpositive
      rw [stream_pick_of_ne s seed r.length rng hne] at hrest
      exact hrest

/-- Requests move the numbers of the run as far as the random ones among them draw. -/
theorem rng_serve (requests : List Request) (s : SelectionState) (rng : Rng)
    (hpositive : ∀ n ∈ randomLengths requests, 0 < n) :
    (serve seed requests s rng).2.2 = ((randomLengths requests).mapM Draw.index rng).2 := by
  induction requests generalizing s rng with
  | nil => rfl
  | cons r rest ih =>
    by_cases hrandom : r.strategy = .random
    · have hlengths : randomLengths (r :: rest) = r.length :: randomLengths rest := by
        simp [randomLengths, hrandom]
      rw [hlengths] at hpositive ⊢
      have hpick := pick_random s seed r.path rng (hpositive _ List.mem_cons_self)
      have hrest := ih s (Draw.index r.length rng).2 (fun n hn => hpositive n (List.mem_cons_of_mem _ hn))
      simp only [serve, hrandom, hpick, hrest, List.mapM_cons]
      rfl
    · have hlengths : randomLengths (r :: rest) = randomLengths rest := by
        simp [randomLengths, hrandom]
      rw [hlengths] at hpositive ⊢
      have hrest := ih (s.pick seed r.path r.strategy r.length rng).2.1
        (s.pick seed r.path r.strategy r.length rng).2.2 hpositive
      rw [rng_pick_of_ne s seed r.path r.length rng hrandom] at hrest
      simp only [serve]
      rw [rng_pick_of_ne s seed r.path r.length rng hrandom]
      exact hrest

end Serve

theorem lengthsFor_positive {requests : List Request} (hpositive : ∀ r ∈ requests, 0 < r.length)
    (path : String) (strategy : SelectionStrategy) : ∀ n ∈ lengthsFor path strategy requests, 0 < n := by
  intro n hn
  obtain ⟨r, hr, rfl⟩ := List.mem_map.1 hn
  exact hpositive r (List.mem_filter.1 hr).1

theorem randomLengths_positive {requests : List Request} (hpositive : ∀ r ∈ requests, 0 < r.length) :
    ∀ n ∈ randomLengths requests, 0 < n := by
  intro n hn
  obtain ⟨r, hr, rfl⟩ := List.mem_map.1 hn
  exact hpositive r (List.mem_filter.1 hr).1

theorem length_lengthsFor_le (path : String) (strategy : SelectionStrategy) (requests : List Request) :
    (lengthsFor path strategy requests).length ≤ requests.length := by
  rw [lengthsFor, List.length_map]
  exact List.length_filter_le _ _

/-- From a fresh state, what the requests of a path and a strategy are given is determined by their numbers
of candidates, unless they are random. -/
theorem resultsFor_congr (seed : UInt64) {path : String} {strategy : SelectionStrategy}
    (hne : strategy ≠ .random) {requests others : List Request} (rng rng' : Rng)
    (hpositive : ∀ n ∈ lengthsFor path strategy requests, 0 < n)
    (hfew : (lengthsFor path strategy requests).length < Nat.pow 2 64)
    (hsame : lengthsFor path strategy others = lengthsFor path strategy requests) :
    resultsFor path strategy (serve seed others {} rng').1 =
      resultsFor path strategy (serve seed requests {} rng).1 := by
  have hrotating (hrotates : Rotates strategy) :
      resultsFor path strategy (serve seed others {} rng').1 =
        resultsFor path strategy (serve seed requests {} rng).1 := by
    have hcount : (({} : SelectionState).cursor path strategy).toNat +
        (lengthsFor path strategy requests).length < Nat.pow 2 64 := by simpa using hfew
    rw [resultsFor_of_rotates seed path hrotates requests {} rng hpositive hcount,
      resultsFor_of_rotates seed path hrotates others {} rng' (by rwa [hsame]) (by rwa [hsame]), hsame]
  cases strategy with
  | sequential => exact hrotating (.inl rfl)
  | template => exact hrotating (.inr rfl)
  | random => exact absurd rfl hne
  | seeded =>
    rw [resultsFor_seeded seed path requests {} rng hpositive,
      resultsFor_seeded seed path others {} rng' (by rwa [hsame]), hsame]

/-- Streams of selections are isolated.  However requests for different paths and strategies follow one
another, rotation takes the positions of each path in turn, a seeded path is given what its own numbers
give, neither changes with the requests for others, and the numbers of the run move as the random requests
draw.  A request for one of no candidates is given nothing and changes nothing. -/
theorem streams_isolated (seed : UInt64) (requests : List Request) (rng : Rng)
    (hpositive : ∀ r ∈ requests, 0 < r.length) (hfew : requests.length < Nat.pow 2 64) :
    (∀ path strategy, Rotates strategy →
      resultsFor path strategy (serve seed requests {} rng).1 =
        (lengthsFor path strategy requests).mapIdx fun k n => some (k % n)) ∧
    (∀ path, resultsFor path .seeded (serve seed requests {} rng).1 =
      ((lengthsFor path .seeded requests).mapM Draw.index (Rng.ofSeedAndText seed path)).1.map some) ∧
    (∀ path strategy, strategy ≠ .random → ∀ (others : List Request) (rng' : Rng),
      lengthsFor path strategy others = lengthsFor path strategy requests →
      resultsFor path strategy (serve seed others {} rng').1 =
        resultsFor path strategy (serve seed requests {} rng).1) ∧
    (serve seed requests {} rng).2.2 = ((randomLengths requests).mapM Draw.index rng).2 ∧
    ∀ (s : SelectionState) (path : String) (strategy : SelectionStrategy),
      s.pick seed path strategy 0 rng = (none, s, rng) := by
  have hshort (path strategy) : (lengthsFor path strategy requests).length < Nat.pow 2 64 :=
    Nat.lt_of_le_of_lt (length_lengthsFor_le path strategy requests) hfew
  refine ⟨fun path strategy hrotates => ?_, fun path => ?_, fun path strategy hne others rng' hsame => ?_,
    ?_, fun s path strategy => s.pick_zero seed path rng strategy⟩
  · have hturns := resultsFor_of_rotates seed path hrotates requests {} rng
      (lengthsFor_positive hpositive path strategy) (by simpa using hshort path strategy)
    simpa using hturns
  · rw [resultsFor_seeded seed path requests {} rng (lengthsFor_positive hpositive path .seeded), stream_empty]
  · exact resultsFor_congr seed hne rng rng' (lengthsFor_positive hpositive path strategy)
      (hshort path strategy) hsame
  · exact rng_serve seed requests {} rng (randomLengths_positive hpositive)

/-- Requests of all strategies in between one another, one of them for a path that reads like a key. -/
def mixedRequests : List Request := [
  ⟨"Order/Code", .sequential, 3⟩, ⟨"Order/Code", .seeded, 10⟩, ⟨"Order/Code#sequential", .template, 2⟩,
  ⟨"Order/Code", .random, 7⟩, ⟨"Order/Code", .sequential, 2⟩, ⟨"Order/Code#sequential", .sequential, 4⟩,
  ⟨"Order/Code", .template, 5⟩, ⟨"Order/Code", .seeded, 10⟩, ⟨"Order/Code", .sequential, 5⟩]

theorem mixedRequests_isolated :
    (∀ r ∈ mixedRequests, 0 < r.length) ∧ mixedRequests.length < Nat.pow 2 64 ∧
      resultsFor "Order/Code" .sequential (serve 7 mixedRequests {} default).1 = [some 0, some 1, some 2] ∧
      resultsFor "Order/Code#sequential" .template (serve 7 mixedRequests {} default).1 = [some 0] ∧
      resultsFor "Order/Code" .seeded
          (serve 7 [⟨"Order/Code", .seeded, 10⟩, ⟨"Order/Code", .seeded, 10⟩] {} default).1 =
        resultsFor "Order/Code" .seeded (serve 7 mixedRequests {} default).1 := by
  have hpositive : ∀ r ∈ mixedRequests, 0 < r.length := by decide
  have hfew : mixedRequests.length < Nat.pow 2 64 := by decide
  obtain ⟨hturns, -, hothers, -, -⟩ := streams_isolated 7 mixedRequests default hpositive hfew
  exact ⟨hpositive, hfew, hturns _ _ (.inl rfl), hturns _ _ (.inr rfl),
    hothers _ _ (by decide) _ default (by decide)⟩

end SelectionState
end Specimen
