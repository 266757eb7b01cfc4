import GuidAtlas.Proofs.Text.Search
import GuidAtlas.Proofs.Text.Spelling

/-!
Deleting a part of a text and reading the words of one, each described by where things stand in the
text: the occurrences of the part from the left, and the longest pieces without blanks. Both
descriptions fit every text and one result only, that of `replace` and that of `words`.
-/

namespace GuidAtlas.Text

/-- The occurrences of `part` are taken out from the left: one in front of which none starts, and
then those in the text behind it. What is left of both is not searched again. -/
inductive Deletes (part : Text) : Text → Text → Prop
  | nothing {t : Text} (h : ¬part <:+: t) : Deletes part t t
  | first {before rest kept : Text} (hfirst : ¬part <:+: before ++ part.dropLast)
      (h : Deletes part rest kept) : Deletes part (before ++ part ++ rest) (before ++ kept)

/-- The words are the longest pieces of the text without blanks, in their order. -/
inductive HasWords : Text → List Text → Prop
  | nil {blanks : Text} (hblanks : ∀ c ∈ blanks, isBlank c = true) : HasWords blanks []
  | cons {blanks word rest : Text} {parts : List Text} (hblanks : ∀ c ∈ blanks, isBlank c = true)
      (hword : IsSolid word) (hend : ∀ c ∈ rest.head?, isBlank c = true) (h : HasWords rest parts) :
      HasWords (blanks ++ word ++ rest) (word :: parts)

variable {part before rest kept t w word : Text} {parts : List Text} {c : Char}

/-- An occurrence in front of another one lies in the text up to the last character of that one. -/
theorem prefix_cons_append_part_iff (rest : Text) :
    part <+: c :: (before ++ part ++ rest) ↔ part <+: c :: (before ++ part.dropLast) := by
  have hshort : c :: (before ++ part.dropLast) <+: c :: (before ++ part ++ rest) := by
    rw [List.append_assoc, List.prefix_cons_inj, List.prefix_append_right_inj]
    exact (List.dropLast_prefix part).trans (List.prefix_append part rest)
  refine ⟨fun h => List.prefix_of_prefix_length_le h hshort ?_, fun h => h.trans hshort⟩
  simp only [List.length_cons, List.length_append, List.length_dropLast]
  omega

theorem Deletes.cons (hstart : ¬part <+: c :: t) (h : Deletes part t kept) :
    Deletes part (c :: t) (c :: kept) := by
  cases h with
  | nothing h =>
      refine .nothing ?_
      rw [List.infix_cons_iff, not_or]
      exact ⟨hstart, h⟩
  | @first before rest kept hfirst h =>
      have hnone : ¬part <:+: c :: before ++ part.dropLast := by
        rw [List.cons_append, List.infix_cons_iff, not_or, ← prefix_cons_append_part_iff rest]
        exact ⟨hstart, hfirst⟩
      exact Deletes.first hnone h

theorem deletes_replaceFrom (hne : part ≠ []) (skip : Nat) (t : Text) :
    Deletes part (t.drop skip) (replaceFrom part [] skip t) := by
  fun_induction replaceFrom part [] skip t with
  | case1 skip =>
      rw [List.drop_nil]
      exact .nothing fun hpart => hne (List.infix_nil.1 hpart)
  | case2 skip c t ih => exact ih
  | case3 c t hfound ih =>
      obtain ⟨rest, htext⟩ := List.isPrefixOf_iff_prefix.1 hfound
      obtain ⟨d, part, rfl⟩ := List.exists_cons_of_ne_nil hne
      obtain ⟨rfl, rfl : part ++ rest = t⟩ := List.cons.inj htext
      have hfirst : ¬(d :: part) <:+: [] ++ (d :: part).dropLast :=
        fun hpart => absurd hpart.length_le (by simp)
      rw [List.length_cons, Nat.add_sub_cancel, List.drop_left] at ih
      exact .first hfirst ih
  | case4 c t hother ih =>
      rw [List.isPrefixOf_iff_prefix] at hother
      exact ih.cons hother

/-- An occurrence is deleted when none starts in front of it. -/
theorem replace_append_part (hne : part ≠ []) (hfirst : ¬part <:+: before ++ part.dropLast)
    (rest : Text) : replace part [] (before ++ part ++ rest) = before ++ replace part [] rest := by
  induction before with
  | nil =>
      obtain ⟨d, part, rfl⟩ := List.exists_cons_of_ne_nil hne
      exact @replace_append d part [] List.not_mem_nil [] rest
  | cons c before ih =>
      rw [List.cons_append, List.infix_cons_iff, not_or] at hfirst
      have hstart : ¬part.isPrefixOf (c :: (before ++ part ++ rest)) = true := by
        rw [List.isPrefixOf_iff_prefix, prefix_cons_append_part_iff]
        exact hfirst.1
      rw [List.cons_append, List.cons_append, replace, replaceFrom, if_neg hstart]
      exact congrArg (c :: ·) (ih hfirst.2)

/-- Deleting a nonempty part is replacing it by nothing. -/
theorem deletes_iff (hne : part ≠ []) : Deletes part t kept ↔ kept = replace part [] t := by
  constructor
  · intro h
    induction h with
    | nothing h => exact (replace_eq_self h).symm
    | first hfirst _ ih => rw [replace_append_part hne hfirst, ih]
  · rintro rfl
    exact deletes_replaceFrom hne 0 t

theorem HasWords.cons_blank (h : HasWords t parts) (hc : isBlank c = true) :
    HasWords (c :: t) parts := by
  cases h with
  | nil hblanks => exact .nil (List.forall_mem_cons.2 ⟨hc, hblanks⟩)
  | cons hblanks hword hend h => exact .cons (List.forall_mem_cons.2 ⟨hc, hblanks⟩) hword hend h

theorem HasWords.cons_word (hword : IsSolid word) (hend : ∀ c ∈ rest.head?, isBlank c = true)
    (h : HasWords rest parts) : HasWords (word ++ rest) (word :: parts) := by
  have hnone : ∀ c ∈ ([] : Text), isBlank c = true := by simp
  exact HasWords.cons hnone hword hend h

theorem hasWords_wordsFrom (hw : ∀ c ∈ w, isBlank c = false) (t : Text) :
    HasWords (w.reverse ++ t) (wordsFrom w t) := by
  have hsolid {w : Text} (hw : ∀ c ∈ w, isBlank c = false) (hopen : w.isEmpty ≠ true) :
      IsSolid w.reverse := ⟨by simpa using hopen, by simpa using hw⟩
  fun_induction wordsFrom w t with
  | case1 w hopen =>
      rw [List.isEmpty_iff.1 hopen]
      exact .nil (by simp)
  | case2 w hopen =>
      exact .cons_word (hsolid hw hopen) (by simp) (.nil (by simp))
  | case3 w c t hc hopen ih =>
      rw [List.isEmpty_iff.1 hopen]
      exact (ih (by simp)).cons_blank hc
  | case4 w c t hc hopen ih =>
      exact .cons_word (hsolid hw hopen) (by simpa using hc) ((ih (by simp)).cons_blank hc)
  | case5 w c t hc ih =>
      have hopen := ih (List.forall_mem_cons.2 ⟨by simpa using hc, hw⟩)
      rwa [List.reverse_cons, List.append_assoc] at hopen

theorem wordsFrom_append (hword : ∀ c ∈ word, isBlank c = false) (hne : w ++ word ≠ [])
    (hend : ∀ c ∈ rest.head?, isBlank c = true) :
    wordsFrom w (word ++ rest) = (w.reverse ++ word) :: words rest := by
  induction word generalizing w with
  | nil =>
      rw [List.append_nil] at hne
      cases rest with
      | nil => simp [wordsFrom, words, hne]
      | cons c rest => simp [wordsFrom, words, hne, hend c rfl]
  | cons c word ih =>
      obtain ⟨hc, hword⟩ := List.forall_mem_cons.1 hword
      simp [wordsFrom, hc, ih hword (w := c :: w) (by simp)]

/-- A text has the words that it is split into, and no others. -/
theorem hasWords_iff : HasWords t parts ↔ parts = words t := by
  constructor
  · intro h
    induction h with
    | @nil blanks hblanks =>
        have hnone := wordsFrom_nil_append hblanks []
        rw [List.append_nil] at hnone
        exact hnone.symm
    | @cons blanks word rest parts hblanks hword hend _ ih =>
        rw [words, List.append_assoc, wordsFrom_nil_append hblanks,
          wordsFrom_append hword.not_blank (by simpa using hword.ne_nil) hend, ih]
        simp
  · rintro rfl
    exact hasWords_wordsFrom (w := []) (by simp) t

end GuidAtlas.Text
