/-!
# Cutting a text at a separator

Cuts at every separator are `List.splitOn`, which always yields at least one piece; the pieces are
those texts without a separator that give back the text (`splitOn_eq_iff`). Here are the cuts at
one separator: the first (`cutFirst`) and the last (`cutLast`). Both give back the text when the
parts are put together again, and the part on the near side of the cut holds no separator.
-/

namespace ConnectionRouter.Text

theorem not_mem_of_mem_splitOn {sep : Char} {s piece : List Char} (h : piece ∈ s.splitOn sep) :
    sep ∉ piece := by
  induction s generalizing piece with
  | nil => simp_all
  | cons c s ih =>
    rw [List.splitOn_cons_eq_if_modifyHead] at h
    split at h
    · rcases List.mem_cons.mp h with rfl | h
      · exact List.not_mem_nil
      · exact ih h
    · rename_i hc
      obtain ⟨first, rest, hs⟩ := List.exists_cons_of_ne_nil (List.splitOn_ne_nil sep s)
      rw [hs, List.modifyHead_cons] at h
      rw [hs] at ih
      rcases List.mem_cons.mp h with rfl | h
      · refine List.not_mem_cons_of_ne_of_not_mem ?_ (ih List.mem_cons_self)
        rintro rfl
        simp at hc
      · exact ih (List.mem_cons_of_mem _ h)

/-- The pieces of a text are the texts without a separator that it is put together from. -/
theorem splitOn_eq_iff {sep : Char} {s : List Char} {pieces : List (List Char)} :
    s.splitOn sep = pieces ↔
      s = [sep].intercalate pieces ∧ pieces ≠ [] ∧ ∀ piece ∈ pieces, sep ∉ piece := by
  constructor
  · rintro rfl
    exact ⟨(List.intercalate_splitOn sep).symm, List.splitOn_ne_nil sep s,
      fun _ => not_mem_of_mem_splitOn⟩
  · rintro ⟨rfl, hne, hfree⟩
    exact List.splitOn_intercalate sep hfree hne

theorem splitOn_eq_singleton_iff {sep : Char} {s piece : List Char} :
    s.splitOn sep = [piece] ↔ s = piece ∧ sep ∉ piece := by
  simp [splitOn_eq_iff, List.intercalate_singleton]

theorem splitOn_eq_pair_iff {sep : Char} {s a b : List Char} :
    s.splitOn sep = [a, b] ↔ s = a ++ sep :: b ∧ sep ∉ a ∧ sep ∉ b := by
  simp [splitOn_eq_iff, List.intercalate_cons_cons, List.intercalate_singleton]

/-- The parts before and after the first `sep`, if there is one. -/
def cutFirst (sep : Char) : List Char → Option (List Char × List Char)
  | [] => none
  | c :: s => if c = sep then some ([], s) else (cutFirst sep s).map fun (a, b) => (c :: a, b)

/-- The parts before and after the last `sep`, if there is one. -/
def cutLast (sep : Char) (s : List Char) : Option (List Char × List Char) :=
  (cutFirst sep s.reverse).map fun (b, a) => (a.reverse, b.reverse)

theorem cutFirst_eq_none_iff {sep : Char} {s : List Char} : cutFirst sep s = none ↔ sep ∉ s := by
  induction s with
  | nil => simp [cutFirst]
  | cons c s ih =>
    by_cases h : c = sep
    · simp [cutFirst, h]
    · simp [cutFirst, h, ih, Ne.symm h]

theorem cutFirst_eq_some_iff {sep : Char} {s a b : List Char} :
    cutFirst sep s = some (a, b) ↔ s = a ++ sep :: b ∧ sep ∉ a := by
  induction s generalizing a with
  | nil => simp [cutFirst]
  | cons c s ih =>
    by_cases h : c = sep
    · subst h
      cases a with
      | nil => simp [cutFirst, eq_comm]
      | cons d a => simp [cutFirst]; grind
    · cases a with
      | nil => simp [cutFirst, h]
      | cons d a => simp [cutFirst, h, ih]; grind

theorem cutLast_eq_none_iff {sep : Char} {s : List Char} : cutLast sep s = none ↔ sep ∉ s := by
  simp [cutLast, cutFirst_eq_none_iff]

theorem cutLast_eq_some_iff {sep : Char} {s a b : List Char} :
    cutLast sep s = some (a, b) ↔ s = a ++ sep :: b ∧ sep ∉ b := by
  simp only [cutLast, Option.map_eq_some_iff, Prod.mk.injEq, Prod.exists, cutFirst_eq_some_iff]
  constructor
  · rintro ⟨b', a', ⟨hs, hb⟩, rfl, rfl⟩
    refine ⟨?_, by simpa using hb⟩
    rw [← s.reverse_reverse, hs]
    simp
  · rintro ⟨rfl, hb⟩
    exact ⟨b.reverse, a.reverse, ⟨by simp, by simpa using hb⟩, by simp, by simp⟩

end ConnectionRouter.Text
