import Specimen.Plan.AgainstSchema

/-!
# Paths above a path

The paths above a path are the path itself and those behind which it goes on with a slash.  A name without
slashes adds one segment to a path, so above the longer path there is only one path more.
-/

namespace Specimen
namespace Text

variable {mark : Char}

theorem splitAt_ne_nil (l : List Char) : splitAt mark l ≠ [] := by
  induction l with
  | nil => exact List.cons_ne_nil _ _
  | cons c rest ih =>
      unfold splitAt
      split
      · exact List.cons_ne_nil _ _
      · split
        · exact List.cons_ne_nil _ _
        · exact List.cons_ne_nil _ _

theorem splitAt_mark_cons (rest : List Char) : splitAt mark (mark :: rest) = [] :: splitAt mark rest := by
  rw [splitAt]
  cases hparts : splitAt mark rest with
  | nil => exact absurd hparts (splitAt_ne_nil rest)
  | cons part parts => simp

theorem splitAt_cons {c : Char} {rest part : List Char} {parts : List (List Char)} (hc : c ≠ mark)
    (h : splitAt mark rest = part :: parts) : splitAt mark (c :: rest) = (c :: part) :: parts := by
  rw [splitAt, h]
  exact if_neg hc

/-- What is split at a mark that stands in the midst of it is split on both sides. -/
theorem splitAt_append_mark (a b : List Char) :
    splitAt mark (a ++ mark :: b) = splitAt mark a ++ splitAt mark b := by
  induction a with
  | nil => exact splitAt_mark_cons b
  | cons c rest ih =>
      by_cases hc : c = mark
      · subst hc
        rw [List.cons_append, splitAt_mark_cons, splitAt_mark_cons, ih, List.cons_append]
      · cases hparts : splitAt mark rest with
        | nil => exact absurd hparts (splitAt_ne_nil rest)
        | cons part parts =>
            rw [hparts, List.cons_append] at ih
            rw [List.cons_append, splitAt_cons hc ih, splitAt_cons hc hparts, List.cons_append]

theorem splitAt_of_not_mem {a : List Char} (h : mark ∉ a) : splitAt mark a = [a] := by
  induction a with
  | nil => rfl
  | cons c rest ih =>
      rw [List.mem_cons, not_or] at h
      exact splitAt_cons (Ne.symm h.1) (ih h.2)

/-- The last part of a text is what comes after its last mark. -/
theorem getLast?_splitAt (mark : Char) (l : List Char) :
    (splitAt mark l).getLast? = some (l.reverse.takeWhile (· ≠ mark)).reverse := by
  have hlast : mark ∉ (l.reverse.takeWhile (· ≠ mark)).reverse := by
    rw [List.mem_reverse]
    intro hmem
    have hne := List.all_eq_true.1 List.all_takeWhile mark hmem
    simp at hne
  have hsplit : l = (l.reverse.dropWhile (· ≠ mark)).reverse ++ (l.reverse.takeWhile (· ≠ mark)).reverse := by
    rw [← List.reverse_append, List.takeWhile_append_dropWhile, List.reverse_reverse]
  generalize (l.reverse.takeWhile (· ≠ mark)).reverse = last at hlast hsplit ⊢
  cases hrest : l.reverse.dropWhile (· ≠ mark) with
  | nil =>
      rw [hsplit, hrest, List.reverse_nil, List.nil_append, splitAt_of_not_mem hlast]
      rfl
  | cons c before =>
      have hmark : c = mark := by
        have hhead := List.head?_dropWhile_not (· ≠ mark) l.reverse
        rw [hrest] at hhead
        simpa using hhead
      rw [hsplit, hrest, hmark, List.reverse_cons, List.append_assoc, List.singleton_append,
        splitAt_append_mark, splitAt_of_not_mem hlast, List.getLast?_concat]

end Text

/-! ## Segments -/

theorem joinSegments_append {a b : List (List Char)} (ha : a ≠ []) (hb : b ≠ []) :
    joinSegments (a ++ b) = joinSegments a ++ "/" ++ joinSegments b := by
  unfold joinSegments
  rw [List.map_append]
  exact String.intercalate_append_of_ne_nil (by simpa using ha) (by simpa using hb)

theorem joinSegments_singleton (a : List Char) : joinSegments [a] = String.ofList a :=
  String.intercalate_singleton

/-- The segments of a text, with slashes between them, are the text again. -/
theorem joinSegments_splitAt (text : List Char) :
    joinSegments (Text.splitAt '/' text) = String.ofList text := by
  induction text with
  | nil => exact joinSegments_singleton []
  | cons c rest ih =>
      cases hparts : Text.splitAt '/' rest with
      | nil => exact absurd hparts (Text.splitAt_ne_nil rest)
      | cons part parts =>
          rw [hparts] at ih
          have hcons : String.ofList (c :: rest) = String.ofList [c] ++ String.ofList rest := by
            rw [← String.ofList_append, List.singleton_append]
          by_cases hc : c = '/'
          · rw [hc, Text.splitAt_mark_cons, hparts, ← List.singleton_append,
              joinSegments_append (List.cons_ne_nil _ _) (List.cons_ne_nil _ _), ih, ← hc, hcons, hc]
            rfl
          · have hhead : joinSegments ((c :: part) :: parts) =
                String.ofList [c] ++ joinSegments (part :: parts) := by
              unfold joinSegments
              rw [List.map_cons, List.map_cons, ← String.intercalate_cons_append, ← String.ofList_append,
                List.singleton_append]
            rw [Text.splitAt_cons hc hparts, hhead, ih, hcons]

/-! ## Paths above -/

variable {path p name : String}

/-- The segments of a path. -/
abbrev segmentsOf (path : String) : List (List Char) := Text.splitAt '/' path.toList

theorem joinSegments_segmentsOf (path : String) : joinSegments (segmentsOf path) = path := by
  rw [joinSegments_splitAt, String.ofList_toList]

theorem segmentsOf_append (path rest : String) :
    segmentsOf (path ++ "/" ++ rest) = segmentsOf path ++ segmentsOf rest := by
  have hlist : (path ++ "/" ++ rest).toList = path.toList ++ '/' :: rest.toList := by
    simp [String.toList_append]
  unfold segmentsOf
  rw [hlist, Text.splitAt_append_mark]

theorem segmentsOf_name (h : '/' ∉ name.toList) : segmentsOf name = [name.toList] :=
  Text.splitAt_of_not_mem h

theorem mem_pathsAbove_iff_take :
    p ∈ pathsAbove path ↔
      ∃ n < (segmentsOf path).length, joinSegments ((segmentsOf path).take (n + 1)) = p := by
  unfold pathsAbove
  simp [List.mem_map, List.mem_range]

/-- A path is below those that are above it: it is the same, or it goes on with a slash. -/
theorem mem_pathsAbove : p ∈ pathsAbove path ↔ path = p ∨ ∃ rest, path = p ++ "/" ++ rest := by
  rw [mem_pathsAbove_iff_take]
  constructor
  · rintro ⟨n, hn, rfl⟩
    have htake : (segmentsOf path).take (n + 1) ≠ [] := by
      intro h
      rw [List.take_eq_nil_iff] at h
      exact h.elim (by omega) (Text.splitAt_ne_nil _)
    by_cases hdrop : (segmentsOf path).drop (n + 1) = []
    · left
      rw [List.take_of_length_le (List.drop_eq_nil_iff.1 hdrop), joinSegments_segmentsOf]
    · right
      refine ⟨joinSegments ((segmentsOf path).drop (n + 1)), ?_⟩
      rw [← joinSegments_append htake hdrop, List.take_append_drop, joinSegments_segmentsOf]
  · intro h
    have hpos : 0 < (segmentsOf p).length := List.length_pos_iff.2 (Text.splitAt_ne_nil _)
    have hprefix : ∃ more, segmentsOf path = segmentsOf p ++ more := by
      rcases h with rfl | ⟨rest, rfl⟩
      · exact ⟨[], (List.append_nil _).symm⟩
      · exact ⟨_, segmentsOf_append p rest⟩
    obtain ⟨more, hmore⟩ := hprefix
    refine ⟨(segmentsOf p).length - 1, ?_, ?_⟩
    · rw [hmore, List.length_append]
      omega
    · rw [Nat.sub_add_cancel hpos, hmore, List.take_left, joinSegments_segmentsOf]

theorem mem_pathsAbove_self (path : String) : path ∈ pathsAbove path := mem_pathsAbove.2 (.inl rfl)

theorem pathsAbove_trans {q : String} (h : p ∈ pathsAbove q) (h' : q ∈ pathsAbove path) :
    p ∈ pathsAbove path := by
  rw [mem_pathsAbove] at h h' ⊢
  rcases h with rfl | ⟨rest, rfl⟩
  · exact h'
  · rcases h' with rfl | ⟨more, rfl⟩
    · exact .inr ⟨rest, rfl⟩
    · exact .inr ⟨rest ++ "/" ++ more, by simp only [String.append_assoc]⟩

/-- A path begins with the same segment as those above it. -/
theorem head?_segmentsOf (h : p ∈ pathsAbove path) : (segmentsOf path).head? = (segmentsOf p).head? := by
  rcases mem_pathsAbove.1 h with rfl | ⟨rest, rfl⟩
  · rfl
  · obtain ⟨first, more, hsegments⟩ : ∃ first more, segmentsOf p = first :: more :=
      List.exists_cons_of_ne_nil (Text.splitAt_ne_nil _)
    rw [segmentsOf_append, hsegments]
    rfl

/-- A name without slashes is above all paths above a path if it is above that. -/
theorem mem_pathsAbove_of_name (hname : '/' ∉ name.toList) (habove : name ∈ pathsAbove path)
    (hp : p ∈ pathsAbove path) : name ∈ pathsAbove p := by
  have hhead : (segmentsOf p).head? = some name.toList := by
    rw [← head?_segmentsOf hp, head?_segmentsOf habove, segmentsOf_name hname]
    rfl
  obtain ⟨more, hsegments⟩ := List.head?_eq_some_iff.1 hhead
  refine mem_pathsAbove_iff_take.2 ⟨0, by rw [hsegments]; exact Nat.succ_pos _, ?_⟩
  rw [hsegments]
  exact (joinSegments_singleton _).trans String.ofList_toList

theorem pathsAbove_name (h : '/' ∉ name.toList) : pathsAbove name = [name] := by
  have hsegments : Text.splitAt '/' name.toList = [name.toList] := segmentsOf_name h
  unfold pathsAbove
  rw [hsegments]
  simp [joinSegments_singleton]

/-- Above a path that is one name longer, there is one path more. -/
theorem pathsAbove_child (h : '/' ∉ name.toList) :
    pathsAbove (path ++ "/" ++ name) = pathsAbove path ++ [path ++ "/" ++ name] := by
  have hsegments : Text.splitAt '/' (path ++ "/" ++ name).toList = segmentsOf path ++ [name.toList] := by
    rw [← segmentsOf_name h]
    exact segmentsOf_append path name
  unfold pathsAbove
  dsimp only
  rw [hsegments, List.length_append, List.length_singleton, List.range_succ, List.map_append]
  congr 1
  · refine List.map_congr_left fun n hn => ?_
    rw [List.mem_range] at hn
    rw [List.take_append_of_le_length (by omega)]
  · rw [List.map_singleton, List.take_of_length_le (by simp), ← segmentsOf_name h, ← segmentsOf_append,
      joinSegments_segmentsOf]

/-- The path of an attribute is one name longer than that of its element. -/
theorem attribute_path (path name : String) : path ++ "/@" ++ name = path ++ "/" ++ ("@" ++ name) := by
  have hmark : "/@" = "/" ++ "@" := rfl
  rw [hmark]
  simp only [String.append_assoc]

/-- Two paths that are one name longer than others are the same only if the others and the names are. -/
theorem child_inj {path' name' : String} (h : '/' ∉ name.toList) (h' : '/' ∉ name'.toList)
    (heq : path ++ "/" ++ name = path' ++ "/" ++ name') : path = path' ∧ name = name' := by
  have hsegments : segmentsOf path ++ [name.toList] = segmentsOf path' ++ [name'.toList] := by
    rw [← segmentsOf_name h, ← segmentsOf_name h', ← segmentsOf_append, ← segmentsOf_append, heq]
  obtain ⟨hpath, hname⟩ := List.append_inj' hsegments rfl
  constructor
  · rw [← joinSegments_segmentsOf path, hpath, joinSegments_segmentsOf]
  · exact String.toList_inj.1 (List.singleton_inj.1 hname)

/-- A path that is one name longer than another one is no name. -/
theorem child_ne_name {path' name' : String} (h' : '/' ∉ name'.toList) :
    path ++ "/" ++ path' ≠ name' := by
  rintro rfl
  refine h' ?_
  simp [String.toList_append]

end Specimen
