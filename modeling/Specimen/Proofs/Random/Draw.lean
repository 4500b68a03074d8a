import Specimen.Run.Selection

/-!
# The range of what is drawn

A position that is drawn for a list lies in the list, also after the correction of the bias, and an integer that is
drawn from a range lies in the range.  What is picked for a path is therefore an item whenever there is one to pick.
-/

namespace Specimen
namespace Random
namespace Draw

theorem bind_apply {α β : Type} (draw : Draw α) (next : α → Draw β) (rng : Rng) :
    (draw >>= next) rng = next (draw rng).1 (draw rng).2 := rfl

theorem pure_apply {α : Type} (a : α) (rng : Rng) : (pure a : Draw α) rng = (a, rng) := rfl

theorem word32_lt (rng : Rng) : (word32 rng).1 < Nat.pow 2 32 := by
  simp only [word32]
  exact rng.nextWord.1.toNat_lt

/-- A word that is put together from two halves. -/
theorem halves_lt {low high size : Nat} (hlow : low < size) (hhigh : high < size) :
    low + high * size < size * size :=
  calc low + high * size < size + high * size := Nat.add_lt_add_right hlow _
    _ = (high + 1) * size := by rw [Nat.succ_mul, Nat.add_comm]
    _ ≤ size * size := Nat.mul_le_mul_right size hhigh

theorem word64_lt (rng : Rng) : (word64 rng).1 < Nat.pow 2 64 :=
  halves_lt (word32_lt rng) (word32_lt (word32 rng).2)

theorem word128_lt (rng : Rng) : (word128 rng).1 < Nat.pow 2 128 :=
  halves_lt (word64_lt rng) (word64_lt (word64 rng).2)

theorem word_lt (width : Width) (rng : Rng) : (word width rng).1 < Nat.pow 2 width.bits := by
  cases width with
  | w32 => exact word32_lt rng
  | w64 => exact word64_lt rng
  | w128 => exact word128_lt rng

/-- The high half of a product is below the count, and when a carry can come from the low half there is
room for it. -/
theorem high_lt {x size count : Nat} (hx : x < size) (hcount : 0 < count) :
    x * count / size < count ∧
      (size - count < x * count % size → x * count / size + 1 < count) := by
  have hsize : 0 < size := Nat.lt_of_le_of_lt (Nat.zero_le x) hx
  have hproduct : x * count + count ≤ size * count := by
    rw [← Nat.succ_mul]
    exact Nat.mul_le_mul_right count hx
  have hparts : size * (x * count / size) + x * count % size = x * count := Nat.div_add_mod _ _
  constructor
  · rw [Nat.div_lt_iff_lt_mul hsize, Nat.mul_comm count size]
    omega
  · intro hlow
    have hroom : size * (x * count / size + 1) < size * count := by
      rw [Nat.mul_succ]
      omega
    exact Nat.lt_of_mul_lt_mul_left hroom

theorem below_lt (width : Width) {count : Nat} (hcount : 0 < count) (rng : Rng) :
    (below width count rng).1 < count := by
  have hword := word_lt width rng
  simp only [below, bind, StateT.bind]
  rcases hx : word width rng with ⟨x, rng'⟩
  rw [hx] at hword
  have hhigh := high_lt hword hcount
  by_cases hlow : Nat.pow 2 width.bits - count < x * count % Nat.pow 2 width.bits
  · simp only [if_pos hlow, bind, StateT.bind]
    rcases word width rng' with ⟨y, rng''⟩
    dsimp only
    split
    · exact hhigh.2 hlow
    · exact hhigh.1
  · simp only [if_neg hlow]
    exact hhigh.1

theorem index_lt {length : Nat} (hlength : 0 < length) (rng : Rng) :
    (index length rng).1 < length :=
  below_lt _ hlength rng

/-- An integer that is drawn from a range lies in it.  If the range has as many integers as there are words, it has
to begin at zero. -/
theorem range_mem (width : Width) {low high : Int} (hle : low ≤ high)
    (hfits : high - low + 1 = (Nat.pow 2 width.bits : Nat) → low = 0) (rng : Rng) :
    low ≤ (range width low high rng).1 ∧ (range width low high rng).1 ≤ high := by
  simp only [range]
  by_cases hfull : high - low + 1 = (Nat.pow 2 width.bits : Nat)
  · obtain rfl := hfits hfull
    have hword := word_lt width rng
    simp only [if_pos hfull, bind_apply, pure_apply]
    generalize (word width rng).1 = x at hword
    have hnonneg : ¬ ((0 : Int) < 0 ∧ (Nat.pow 2 width.bits : Nat) ≤ 2 * (x : Int)) := fun h =>
      absurd h.1 (by decide)
    rw [if_neg hnonneg]
    omega
  · have hcount : 0 < (high - low + 1).toNat := by omega
    have hlt := below_lt width hcount rng
    simp only [if_neg hfull, bind_apply, pure_apply]
    omega

/-- As many items are drawn as there are items that ask for one. -/
theorem length_mapM {α β : Type} (draw : α → Draw β) (items : List α) (rng : Rng) :
    (items.mapM draw rng).1.length = items.length := by
  induction items generalizing rng with
  | nil => rfl
  | cons item rest ih =>
      rw [List.mapM_cons]
      exact congrArg (· + 1) (ih (draw item rng).2)

theorem length_bytes (count : Nat) (rng : Rng) : (bytes count rng).1.length = count := by
  have hwords := length_mapM (fun _ => word32) (List.range ((count + 3) / 4)) rng
  rw [List.length_range] at hwords
  simp only [bytes, bind_apply, pure_apply]
  rw [List.length_take, List.length_flatMap]
  simp only [List.length_cons, List.length_nil, List.map_const', List.sum_replicate_nat, hwords]
  omega

end Draw
end Random

namespace SelectionState

/-- There is a position to pick unless there are none, and it is one of those there are. -/
theorem pick_spec (s : SelectionState) (seed : UInt64) (path : String) (strategy : SelectionStrategy)
    {length : Nat} (hlength : 0 < length) (rng : Random.Rng) :
    ∃ i, i < length ∧ (s.pick seed path strategy length rng).1 = some i := by
  have hne : length ≠ 0 := Nat.ne_of_gt hlength
  simp only [pick, if_neg hne]
  cases strategy with
  | sequential => exact ⟨_, Nat.mod_lt _ hlength, rfl⟩
  | template => exact ⟨_, Nat.mod_lt _ hlength, rfl⟩
  | random => exact ⟨_, Random.Draw.index_lt hlength rng, rfl⟩
  | seeded => exact ⟨_, Random.Draw.index_lt hlength _, rfl⟩

end SelectionState
end Specimen
