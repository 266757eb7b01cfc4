import GuidAtlas.Text.Blank
import GuidAtlas.Proofs.Text.Search
import GuidAtlas.Proofs.Text.Trim

/-!
The lines of a text that was written line by line.
-/

namespace GuidAtlas.Text

/-- A line is read back without the carriage return that it may end in. -/
theorem exists_lines_append {t : Text} (h : '\n' ∉ t) (rest : Text) :
    ∃ line, lines (t ++ '\n' :: rest) = line :: lines rest ∧ (t = line ∨ t = line ++ ['\r']) := by
  induction t with
  | nil => exact ⟨[], rfl, .inl rfl⟩
  | cons c t ih =>
      obtain ⟨line, hlines, hline⟩ := ih fun hmem => h (List.mem_cons_of_mem _ hmem)
      have hc : c ≠ '\n' := fun hd => h (by simp [hd])
      -- A carriage return counts to the end of the line only right before the line feed.
      by_cases hreturn : c = '\r' ∧ t = []
      case pos =>
        obtain ⟨rfl, rfl⟩ := hreturn
        exact ⟨[], rfl, .inr rfl⟩
      case neg =>
        have hmore : ∀ next, c = '\r' → t ++ '\n' :: rest = '\n' :: next → False := by
          intro next hr hnext
          cases t with
          | nil => exact hreturn ⟨hr, rfl⟩
          | cons d t =>
              cases hnext
              exact h (by simp)
        have hcons : lines (c :: t ++ '\n' :: rest) = (c :: line) :: lines rest := by
          rw [List.cons_append, lines, hlines]
          · exact hc
          · exact hmore
        refine ⟨c :: line, hcons, ?_⟩
        rcases hline with rfl | rfl
        · exact .inl rfl
        · exact .inr rfl

theorem map_trim_lines_append {t : Text} (h : '\n' ∉ t) (rest : Text) :
    (lines (t ++ '\n' :: rest)).map trim = trim t :: (lines rest).map trim := by
  have hreturn : ∀ c ∈ ['\r'], isBlank c = true := by simp; decide
  obtain ⟨line, hlines, rfl | rfl⟩ := exists_lines_append h rest
  · rw [hlines, List.map_cons]
  · rw [hlines, List.map_cons, trim, trim, trimOf_append_right hreturn]

/-- Lines are read back as they were written, but for blanks at their ends. -/
theorem map_trim_lines_unlines {rows : List Text} (h : ∀ row ∈ rows, '\n' ∉ row) :
    (lines (unlines rows)).map trim = rows.map trim := by
  induction rows with
  | nil => rfl
  | cons row rows ih =>
      obtain ⟨hrow, hrows⟩ := List.forall_mem_cons.1 h
      have htext : unlines (row :: rows) = row ++ '\n' :: unlines rows := by simp [unlines]
      rw [htext, map_trim_lines_append hrow, ih hrows, List.map_cons]

theorem lines_of_not_lf {t : Text} (h : '\n' ∉ t) (hne : t ≠ []) : lines t = [t] := by
  induction t with
  | nil => exact absurd rfl hne
  | cons c t ih =>
      have ht : '\n' ∉ t := fun hmem => h (List.mem_cons_of_mem _ hmem)
      have hc : c ≠ '\n' := fun hd => h (by simp [hd])
      rw [lines]
      · by_cases hnil : t = []
        · rw [hnil, lines]
        · rw [ih ht hnil]
      · exact hc
      · rintro rest - rfl
        exact ht List.mem_cons_self

theorem map_trim_lines_join {rows : List Text} (h : ∀ row ∈ rows, '\n' ∉ row)
    (hlast : ∀ row ∈ rows.getLast?, row ≠ []) :
    (lines (join ['\n'] rows)).map trim = rows.map trim := by
  induction rows with
  | nil => rfl
  | cons row rows ih =>
      obtain ⟨hrow, hrows⟩ := List.forall_mem_cons.1 h
      cases rows with
      | nil => rw [join_singleton, lines_of_not_lf hrow (hlast row rfl)]
      | cons second rows =>
          rw [List.getLast?_cons_cons] at hlast
          rw [join_cons_cons, List.append_assoc, List.singleton_append,
            map_trim_lines_append hrow, ih hrows hlast]
          rfl

theorem unlines_nil : unlines [] = [] := rfl

theorem unlines_cons (row : Text) (rows : List Text) :
    unlines (row :: rows) = row ++ ['\n'] ++ unlines rows :=
  List.flatMap_cons

theorem splitAt_append_cons (sep : Char) (before t : Text) :
    splitAt sep (before ++ sep :: t) = splitAt sep before ++ splitAt sep t := by
  induction before with
  | nil => simp [splitAt]
  | cons c before ih =>
      obtain ⟨piece, pieces, hpieces⟩ := List.exists_cons_of_ne_nil (splitAt_ne_nil sep before)
      rw [List.cons_append, splitAt, splitAt, ih, hpieces]
      split <;> rfl

/-- Lines are split off again, whatever follows the last of them. -/
theorem splitAt_unlines {rows : List Text} (h : ∀ row ∈ rows, '\n' ∉ row) (t : Text) :
    splitAt '\n' (unlines rows ++ t) = rows ++ splitAt '\n' t := by
  induction rows with
  | nil => rfl
  | cons row rows ih =>
      obtain ⟨hrow, hrows⟩ := List.forall_mem_cons.1 h
      rw [unlines_cons, List.append_assoc, List.append_assoc, List.singleton_append,
        splitAt_append hrow, ih hrows, List.cons_append]

end GuidAtlas.Text
