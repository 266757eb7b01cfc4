import GuidAtlas.ActivatableClasses
import Mathlib.Data.List.InsertIdx

/-!
Binary search among strictly ascending names. The places that are left always enclose the one where
a name is or belongs, so putting the name there keeps the order.
-/

namespace GuidAtlas.ActivatableClasses

open Text

/-- The names before the places from `base` on, `size` of them, come before `name`, and the names
behind these places come after it. -/
structure Encloses (names : List Text) (name : Text) (base size : Nat) : Prop where
  fits : base + size ≤ names.length
  below : ∀ i (hi : i < names.length), i < base → names[i] < name
  above : ∀ i (hi : i < names.length), base + size ≤ i → name < names[i]

variable {names : List Text} {name : Text} {base size : Nat}

theorem encloses_all (names : List Text) (name : Text) : Encloses names name 0 names.length where
  fits := by omega
  below i _ hbase := by omega
  above i hi hbehind := by omega

theorem Encloses.halve (h : names.Pairwise (· < ·)) (henclosed : Encloses names name base size)
    (hsize : 1 < size) :
    Encloses names name
      (if names[base + size / 2]?.any (name < ·) then base else base + size / 2)
      (size - size / 2) := by
  have hfits := henclosed.fits
  have hmiddle : base + size / 2 < names.length := by omega
  rw [List.getElem?_eq_getElem hmiddle, Option.any_some]
  have hsorted (i j : Nat) (hj : j < names.length) (hlt : i < j) :
      names[i] < names[j] :=
    List.pairwise_iff_getElem.1 h i j (by omega) hj hlt
  split
  case isTrue hafter =>
    rw [decide_eq_true_eq] at hafter
    refine ⟨by omega, henclosed.below, fun i hi hbehind => ?_⟩
    rcases Nat.eq_or_lt_of_le (show base + size / 2 ≤ i by omega) with rfl | hlt
    · exact hafter
    · exact List.lt_trans hafter (hsorted _ i hi hlt)
  case isFalse hnotAfter =>
    rw [decide_eq_true_eq, List.not_lt, List.le_iff_lt_or_eq] at hnotAfter
    refine ⟨by omega, fun i hi hbefore => ?_, fun i hi hbehind =>
      henclosed.above i hi (by omega)⟩
    have hmiddleAfter := hsorted i _ hmiddle hbefore
    rcases hnotAfter with hlt | heq
    · exact List.lt_trans hmiddleAfter hlt
    · exact heq ▸ hmiddleAfter

/-- The place that is left is the only one that can hold the name. -/
theorem Encloses.narrow (h : names.Pairwise (· < ·)) (henclosed : Encloses names name base size)
    (hsize : 0 < size) : Encloses names name (narrow names name base size) 1 := by
  fun_induction ActivatableClasses.narrow names name base size with
  | case1 base size hone =>
      obtain rfl : size = 1 := by omega
      exact henclosed
  | case2 base size hone half comesAfter ih =>
      exact ih (henclosed.halve h (by omega)) (by omega)

/-- A name is found where it is, and otherwise it belongs between the names before and after it. -/
theorem search_cases (h : names.Pairwise (· < ·)) (name : Text) :
    (∃ index, search names name = .known index ∧ name ∈ names) ∨
    ∃ index, search names name = .free index ∧ index ≤ names.length ∧
      (∀ other ∈ names.take index, other < name) ∧ ∀ other ∈ names.drop index, name < other := by
  by_cases hnil : names = []
  case pos =>
    subst hnil
    exact .inr ⟨0, rfl, Nat.le_refl 0, by simp, by simp⟩
  case neg =>
    have henclosed := (encloses_all names name).narrow h (List.length_pos_iff.2 hnil)
    rw [search]
    generalize narrow names name 0 names.length = index at henclosed
    have hindex : index < names.length := henclosed.fits
    rw [List.getElem?_eq_getElem hindex]
    have hbefore : ∀ other ∈ names.take index, other < name := fun other hother => by
      obtain ⟨i, hi, rfl⟩ := List.mem_take_iff_getElem.1 hother
      exact henclosed.below i (by omega) (by omega)
    have hbehind : ∀ other ∈ names.drop (index + 1), name < other := fun other hother => by
      obtain ⟨i, hi, rfl⟩ := List.mem_drop_iff_getElem.1 hother
      exact henclosed.above _ (by omega) (by omega)
    by_cases heq : names[index] = name
    · exact .inl ⟨index, by simp [heq], heq ▸ List.getElem_mem hindex⟩
    · by_cases hlt : names[index] < name
      · refine .inr ⟨index + 1, by simp [heq, hlt], hindex, fun other hother => ?_, hbehind⟩
        rw [List.take_succ_eq_append_getElem hindex] at hother
        rcases List.mem_append.1 hother with hother | hother
        · exact hbefore other hother
        · exact List.mem_singleton.1 hother ▸ hlt
      · have hgt : name < names[index] :=
          (List.le_iff_lt_or_eq.1 (List.not_lt.1 hlt)).resolve_right (Ne.symm heq)
        refine .inr ⟨index, by simp [heq, hlt], Nat.le_of_lt hindex, hbefore,
          fun other hother => ?_⟩
        rw [List.drop_eq_getElem_cons hindex] at hother
        rcases List.mem_cons.1 hother with rfl | hother
        · exact hgt
        · exact hbehind other hother

theorem pairwise_insertIdx (h : names.Pairwise (· < ·)) {index : Nat}
    (hbefore : ∀ other ∈ names.take index, other < name)
    (hbehind : ∀ other ∈ names.drop index, name < other) :
    (names.insertIdx index name).Pairwise (· < ·) := by
  induction names generalizing index with
  | nil =>
      cases index with
      | zero => exact List.pairwise_singleton _ _
      | succ index => exact .nil
  | cons first rest ih =>
      cases index with
      | zero => exact List.pairwise_cons.2 ⟨hbehind, h⟩
      | succ index =>
          obtain ⟨hfirst, hrest⟩ := List.pairwise_cons.1 h
          rw [List.insertIdx_succ_cons]
          refine List.pairwise_cons.2 ⟨fun other hother => ?_, ih hrest
            (fun other hother => hbefore other (List.mem_cons_of_mem _ hother)) hbehind⟩
          rcases List.eq_or_mem_of_mem_insertIdx hother with rfl | hother
          · exact hbefore first List.mem_cons_self
          · exact hfirst other hother

end GuidAtlas.ActivatableClasses
