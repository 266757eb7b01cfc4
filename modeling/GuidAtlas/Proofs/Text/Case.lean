import GuidAtlas.Text.Blank
import GuidAtlas.Text.Case
import Mathlib.Data.List.Basic

/-!
Upper case character by character: what its images look like, and the texts that it leaves alone.
What holds of the blanks is checked for each of them.
-/

namespace GuidAtlas.Text

@[simp] theorem upper_nil : upper [] = [] := rfl

@[simp] theorem upper_cons (c : Char) (t : Text) : upper (c :: t) = upperChar c ++ upper t := rfl

@[simp] theorem upper_append (s t : Text) : upper (s ++ t) = upper s ++ upper t := by
  simp [upper]

theorem isLower_iff (c : Char) : c.isLower = true ↔ 97 ≤ c.toNat ∧ c.toNat ≤ 122 := by
  unfold Char.isLower
  rw [Bool.and_eq_true, decide_eq_true_iff, decide_eq_true_iff]
  rfl

theorem toUpper_eq_self {c : Char} (h : c.isLower = false) : c.toUpper = c :=
  dif_neg fun hc => absurd ((isLower_iff c).2 hc) (by simp [h])

theorem toNat_toUpper {c : Char} (h : c.isLower = true) : c.toUpper.toNat = c.toNat - 32 := by
  obtain ⟨ha, hz⟩ := (isLower_iff c).1 h
  have hshift : ('A'.val - 'a'.val).toNat = 4294967296 - 32 := by decide
  unfold Char.toUpper
  rw [dif_pos ⟨ha, hz⟩, ← Char.toNat_val, UInt32.toNat_add, Char.toNat_val, hshift]
  omega

theorem isLower_toUpper (c : Char) : c.toUpper.isLower = false := by
  cases h : c.isLower with
  | false => rw [toUpper_eq_self h, h]
  | true =>
      have hc := (isLower_iff c).1 h
      rw [Bool.eq_false_iff, Ne, isLower_iff, toNat_toUpper h]
      omega

theorem toNat_ofNat {n : Nat} (h : n.isValidChar) : (Char.ofNat n).toNat = n := by
  rw [Char.ofNat, dif_pos h]
  rfl

theorem isLower_ofNat {n : Nat} (h : n < 97 ∨ 122 < n) : (Char.ofNat n).isLower = false := by
  by_cases hn : n.isValidChar
  · rw [Bool.eq_false_iff, Ne, isLower_iff, toNat_ofNat hn]
    omega
  · rw [Char.ofNat, dif_neg hn]
    rfl

theorem CaseRun.isLower_of_image {run : CaseRun}
    (h : 122 < run.target ∨ run.target + (run.last - run.first) < 97) {n code : Nat}
    (himage : run.image? n = some code) : (Char.ofNat code).isLower = false := by
  apply isLower_ofNat
  simp only [CaseRun.image?] at himage
  split at himage
  · cases himage
    omega
  · cases himage

theorem upperRuns_avoid_lower :
    ∀ run ∈ upperRuns, 122 < run.target ∨ run.target + (run.last - run.first) < 97 := by
  have hall : upperRuns.all (fun run =>
      122 < run.target || run.target + (run.last - run.first) < 97) = true := by cbv
  simpa using hall

theorem upperExpansions_avoid_lower :
    ∀ entry ∈ upperExpansions, ∀ code ∈ entry.2, code < 97 ∨ 122 < code := by
  have hall : upperExpansions.all (fun (_, codes) =>
      codes.all fun code => code < 97 || 122 < code) = true := by cbv
  simpa using hall

theorem isLower_mappedBy_upper {c d : Char} (hc : 128 ≤ c.toNat)
    (h : d ∈ mappedBy upperRuns upperExpansions c) : d.isLower = false := by
  simp only [mappedBy] at h
  split at h
  case h_1 codes hcodes =>
    obtain ⟨code, hcode, rfl⟩ := List.mem_map.1 h
    have hmem : (c.toNat, codes) ∈ upperExpansions := by
      obtain ⟨before, after, happ, -⟩ := List.lookup_eq_some_iff.1 hcodes
      rw [happ]
      simp
    exact isLower_ofNat (upperExpansions_avoid_lower _ hmem code hcode)
  case h_2 =>
    split at h
    case h_1 code hcode =>
      obtain ⟨run, hrun, himage⟩ := List.exists_of_findSome?_eq_some hcode
      rw [List.mem_singleton.1 h]
      exact run.isLower_of_image (upperRuns_avoid_lower run hrun) himage
    case h_2 =>
      rw [List.mem_singleton.1 h, ← Char.ofNat_toNat c]
      exact isLower_ofNat (by omega)

theorem isLower_of_mem_upper {t : Text} {c : Char} (h : c ∈ upper t) : c.isLower = false := by
  obtain ⟨d, -, hd⟩ := List.mem_flatMap.1 h
  simp only [upperChar] at hd
  split at hd
  · rw [List.mem_singleton.1 hd]
    exact isLower_toUpper d
  · exact isLower_mappedBy_upper (by omega) hd

theorem upper_eq_map_toUpper {t : Text} (h : ∀ c ∈ t, c.toNat < 128) :
    upper t = t.map Char.toUpper := by
  induction t with
  | nil => rfl
  | cons c t ih =>
      have hc : upperChar c = [c.toUpper] := by simp [upperChar, h c]
      simp [hc, ih fun d hd => h d (List.mem_cons_of_mem _ hd)]

theorem upper_eq_self {t : Text} (hascii : ∀ c ∈ t, c.toNat < 128)
    (hlower : ∀ c ∈ t, c.isLower = false) : upper t = t := by
  rw [upper_eq_map_toUpper hascii]
  calc t.map Char.toUpper = t.map id :=
        List.map_congr_left fun c hc => toUpper_eq_self (hlower c hc)
    _ = t := List.map_id t

theorem has_induction {ranges : CodeRanges} {p : Char → Bool}
    (h : ranges.all (fun (first, last) =>
      (List.range' first (last + 1 - first)).all (p <| Char.ofNat ·)) = true)
    {c : Char} (hc : ranges.has c = true) : p c = true := by
  obtain ⟨⟨first, last⟩, hmem, hbounds⟩ := List.any_eq_true.1 hc
  simp only [Bool.and_eq_true, decide_eq_true_eq] at hbounds
  have hp := List.all_eq_true.1 (List.all_eq_true.1 h _ hmem) c.toNat
    (List.mem_range'_1.2 (by omega))
  rwa [Char.ofNat_toNat] at hp

theorem upperChar_of_isBlank {c : Char} (h : isBlank c = true) : upperChar c = [c] := by
  simpa using has_induction (p := fun c => upperChar c = [c]) (by decide) h

end GuidAtlas.Text
