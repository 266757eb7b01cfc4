import GuidAtlas.Proofs.Text.Search
import GuidAtlas.Proofs.Text.Trim
import GuidAtlas.Text.Blank
import Mathlib.Data.List.Chain

/-!
Texts in which every blank is a space and stands alone. Whatever is cut out of such texts is one of
them, and so are two of them put together where no two spaces meet.
-/

namespace GuidAtlas.Text

def Spaced (t : Text) : Prop := ∀ c ∈ t, isBlank c = true → c = ' '

instance (t : Text) : Decidable (Spaced t) :=
  decidable_of_iff (t.all fun c => !isBlank c || c = ' ')
    (by simp [Spaced, Decidable.imp_iff_not_or])

/-- Every blank is a space, and no two spaces stand side by side. -/
structure SingleSpaced (t : Text) : Prop where
  spaced : Spaced t
  apart : t.IsChain fun a b => ¬(a = ' ' ∧ b = ' ')

instance (t : Text) : Decidable (SingleSpaced t) :=
  decidable_of_iff (Spaced t ∧ t.IsChain fun a b => ¬(a = ' ' ∧ b = ' '))
    ⟨fun h => ⟨h.1, h.2⟩, fun h => ⟨h.spaced, h.apart⟩⟩

/-- Single spaces between words, and none at the ends. -/
structure Collapsed (t : Text) : Prop extends SingleSpaced t where
  head_ne : t.head? ≠ some ' '
  last_ne : t.getLast? ≠ some ' '

variable {s t new piece : Text} {c : Char}

theorem Spaced.of_subset (h : Spaced t) (hsub : s ⊆ t) : Spaced s := fun c hc => h c (hsub hc)

@[simp] theorem spaced_nil : Spaced [] := fun _ hc => absurd hc List.not_mem_nil

@[simp] theorem spaced_append_iff : Spaced (s ++ t) ↔ Spaced s ∧ Spaced t :=
  List.forall_mem_append

@[simp] theorem spaced_cons_iff : Spaced (c :: t) ↔ (isBlank c = true → c = ' ') ∧ Spaced t :=
  List.forall_mem_cons

theorem Spaced.trimOf (h : Spaced t) (p : Char → Bool) : Spaced (trimOf p t) :=
  h.of_subset (trimOf_subset p t)

theorem SingleSpaced.not_two_spaces (h : SingleSpaced t) : ¬[' ', ' '] <:+: t :=
  fun hspaces => by simpa using List.IsChain.infix h.apart hspaces

@[simp] theorem singleSpaced_nil : SingleSpaced [] := ⟨spaced_nil, .nil⟩

theorem SingleSpaced.of_isInfix (h : SingleSpaced t) (hpart : s <:+: t) : SingleSpaced s :=
  ⟨h.spaced.of_subset hpart.subset, List.IsChain.infix h.apart hpart⟩

theorem SingleSpaced.append (hs : SingleSpaced s) (ht : SingleSpaced t)
    (hmeet : s.getLast? ≠ some ' ' ∨ t.head? ≠ some ' ') : SingleSpaced (s ++ t) := by
  refine ⟨spaced_append_iff.2 ⟨hs.spaced, ht.spaced⟩,
    List.isChain_append.2 ⟨hs.apart, ht.apart, ?_⟩⟩
  rintro a ha b hb ⟨rfl, rfl⟩
  exact hmeet.elim (fun h => h ha) fun h => h hb

theorem singleSpaced_singleton (h : isBlank c = true → c = ' ') : SingleSpaced [c] :=
  ⟨spaced_cons_iff.2 ⟨h, spaced_nil⟩, .singleton c⟩

theorem ne_space_of_not_blank (h : isBlank c = false) : c ≠ ' ' := by
  rintro rfl
  cases h

theorem SingleSpaced.cons (hc : isBlank c = false) (h : SingleSpaced t) :
    SingleSpaced (c :: t) :=
  (singleSpaced_singleton (by simp [hc])).append h
    (.inl (by simpa using ne_space_of_not_blank hc))

theorem singleSpaced_of_not_blank (h : ∀ c ∈ t, isBlank c = false) : SingleSpaced t := by
  induction t with
  | nil => exact singleSpaced_nil
  | cons c t ih =>
      obtain ⟨hc, ht⟩ := List.forall_mem_cons.1 h
      exact (ih ht).cons hc

theorem SingleSpaced.trimOf (h : SingleSpaced t) (p : Char → Bool) : SingleSpaced (trimOf p t) :=
  h.of_isInfix (trimOf_isInfix p t)

theorem SingleSpaced.of_cut? {sep before rest : Text} (h : SingleSpaced t)
    (hcut : cut? sep t = some (before, rest)) : SingleSpaced before ∧ SingleSpaced rest := by
  rw [eq_append_of_cut? hcut] at h
  exact ⟨h.of_isInfix ⟨[], sep ++ rest, by simp⟩, h.of_isInfix (List.suffix_append _ _).isInfix⟩

theorem SingleSpaced.of_cutLast? {sep before rest : Text} (h : SingleSpaced t)
    (hcut : cutLast? sep t = some (before, rest)) : SingleSpaced before := by
  rw [eq_append_of_cutLast? hcut] at h
  exact h.of_isInfix ⟨[], sep ++ rest, by simp⟩

theorem SingleSpaced.of_afterStart? {start rest : Text} (h : SingleSpaced t)
    (hstart : afterStart? start t = some rest) : SingleSpaced rest := by
  rw [afterStart?_eq_some_iff.1 hstart] at h
  exact h.of_isInfix (List.suffix_append _ _).isInfix

/-- Replacing by a text without blanks brings no spaces together. -/
theorem SingleSpaced.replaceFrom (h : SingleSpaced t) (hnew : ∀ c ∈ new, isBlank c = false)
    (hne : new ≠ []) (old : Text) (skip : Nat) :
    SingleSpaced (replaceFrom old new skip t) ∧
      (skip = 0 → (replaceFrom old new skip t).head? = some ' ' → t.head? = some ' ') := by
  fun_induction Text.replaceFrom old new skip t with
  | case1 skip => exact ⟨singleSpaced_nil, by simp⟩
  | case2 skip c t ih => exact ⟨(ih (h.of_isInfix (List.suffix_cons c t).isInfix)).1, by simp⟩
  | case3 c t hfound ih =>
      obtain ⟨d, new, rfl⟩ := List.exists_cons_of_ne_nil hne
      have hlast : (d :: new).getLast? ≠ some ' ' := fun hlast =>
        ne_space_of_not_blank (hnew _ (List.mem_of_getLast? hlast)) rfl
      have hrest := (ih (h.of_isInfix (List.suffix_cons c t).isInfix)).1
      refine ⟨(singleSpaced_of_not_blank hnew).append hrest (.inl hlast), fun _ hd => ?_⟩
      exact absurd (by simpa using hd) (ne_space_of_not_blank (hnew d List.mem_cons_self))
  | case4 c t hother ih =>
      obtain ⟨hrest, hhead⟩ := ih (h.of_isInfix (List.suffix_cons c t).isInfix)
      have hsingle : SingleSpaced [c] := h.of_isInfix ⟨[], t, rfl⟩
      refine ⟨hsingle.append hrest ?_, fun _ hd => hd⟩
      by_cases hc : c = ' '
      case pos =>
        refine .inr fun hspace => ?_
        exact (List.isChain_cons.1 h.apart).1 ' ' (hhead rfl hspace) ⟨hc, rfl⟩
      case neg => exact .inl (by simpa using hc)

theorem SingleSpaced.replace (h : SingleSpaced t) (hnew : ∀ c ∈ new, isBlank c = false)
    (hne : new ≠ []) (old : Text) : SingleSpaced (replace old new t) :=
  (h.replaceFrom hnew hne old 0).1

theorem not_blank_of_mem_wordsFrom {w t word : Text} (hw : ∀ c ∈ w, isBlank c = false)
    (hword : word ∈ wordsFrom w t) : word ≠ [] ∧ ∀ c ∈ word, isBlank c = false := by
  fun_induction wordsFrom w t with
  | case1 w hopen => cases hword
  | case2 w hopen =>
      cases List.mem_singleton.1 hword
      simpa using ⟨by simpa using hopen, hw⟩
  | case3 w c t hblank hopen ih => exact ih (by simp) hword
  | case4 w c t hblank hopen ih =>
      rcases List.mem_cons.1 hword with rfl | hword
      · simpa using ⟨by simpa using hopen, hw⟩
      · exact ih (by simp) hword
  | case5 w c t hc ih => exact ih (List.forall_mem_cons.2 ⟨by simpa using hc, hw⟩) hword

theorem Collapsed.append (hs : Collapsed s) (ht : Collapsed t) : Collapsed (s ++ t) where
  toSingleSpaced := hs.toSingleSpaced.append ht.toSingleSpaced (.inl hs.last_ne)
  head_ne := by
    rw [List.head?_append, ne_eq, Option.or_eq_some_iff]
    exact fun h => h.elim hs.head_ne fun h => ht.head_ne h.2
  last_ne := by
    rw [List.getLast?_append, ne_eq, Option.or_eq_some_iff]
    exact fun h => h.elim ht.last_ne fun h => hs.last_ne h.2

@[simp] theorem collapsed_nil : Collapsed [] := ⟨singleSpaced_nil, by simp, by simp⟩

theorem collapsed_of_not_blank (h : ∀ c ∈ t, isBlank c = false) : Collapsed t where
  toSingleSpaced := singleSpaced_of_not_blank h
  head_ne hhead := ne_space_of_not_blank (h _ (List.mem_of_head? hhead)) rfl
  last_ne hlast := ne_space_of_not_blank (h _ (List.mem_of_getLast? hlast)) rfl

theorem Collapsed.append_space (hs : Collapsed s) (hsNe : s ≠ []) (ht : Collapsed t)
    (htNe : t ≠ []) : Collapsed (s ++ ' ' :: t) where
  toSingleSpaced := by
    have hspace : SingleSpaced (' ' :: t) :=
      (singleSpaced_singleton fun _ => rfl).append ht.toSingleSpaced (.inr ht.head_ne)
    exact hs.toSingleSpaced.append hspace (.inl hs.last_ne)
  head_ne := by
    rw [List.head?_append_of_ne_nil _ hsNe]
    exact hs.head_ne
  last_ne := by
    rw [List.getLast?_append_of_ne_nil _ (List.cons_ne_nil _ _), List.getLast?_cons_of_ne_nil htNe]
    exact ht.last_ne

theorem collapsed_join {parts : List Text}
    (h : ∀ part ∈ parts, part ≠ [] ∧ ∀ c ∈ part, isBlank c = false) :
    Collapsed (join [' '] parts) := by
  induction parts with
  | nil => exact collapsed_nil
  | cons first parts ih =>
      obtain ⟨⟨hne, hfirst⟩, hparts⟩ := List.forall_mem_cons.1 h
      have hfirst := collapsed_of_not_blank hfirst
      cases parts with
      | nil => simpa using hfirst
      | cons second parts =>
          have hjoin : join [' '] (second :: parts) ≠ [] := fun hnil => by
            have hpart := infix_join_of_mem (List.mem_cons_self (a := second) (l := parts)) [' ']
            rw [hnil, List.infix_nil] at hpart
            exact (hparts second List.mem_cons_self).1 hpart
          rw [join_cons_cons, List.append_assoc]
          exact hfirst.append_space hne (ih hparts) hjoin

theorem collapsed_collapse (t : Text) : Collapsed (collapse t) :=
  collapsed_join fun _ => not_blank_of_mem_wordsFrom (by simp)

end GuidAtlas.Text
