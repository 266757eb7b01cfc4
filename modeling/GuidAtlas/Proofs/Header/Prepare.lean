import GuidAtlas.Header.Line
import GuidAtlas.Proofs.Text.Blank
import GuidAtlas.Proofs.Text.Lines

/-!
How lines of a header are prepared that stand alone: without a block comment and a backslash at the
end, each line of the source becomes one prepared line, whatever is around it.
-/

namespace GuidAtlas.Header

open Text

/-- Outside of a block comment a line is prepared to a line, and the next one starts anew. -/
structure Prepares (source prepared : Text) : Prop where
  not_continued : beforeBackslash? (trim source) = none
  uncommented : ∃ kept, uncomment false (trim source) = (kept, false) ∧
    collapse (withoutMarkers kept) = prepared

variable {t source prepared : Text}

theorem beforeBackslash?_eq_none (h : t.getLast? ≠ some '\\') : beforeBackslash? t = none := by
  rw [beforeBackslash?]
  split
  case h_1 rest hreverse =>
    rw [← List.head?_reverse, hreverse] at h
    exact absurd rfl h
  case h_2 => rfl

theorem uncomment_eq_self (h : '/' ∉ t) : uncomment false t = (t, false) := by
  induction t with
  | nil => rfl
  | cons c t ih =>
      have hc : c ≠ '/' := fun hd => h (by simp [hd])
      rw [uncomment, ih fun hmem => h (List.mem_cons_of_mem _ hmem)]
      · rintro rest rfl
        exact absurd rfl hc
      · rintro rest rfl
        exact absurd rfl hc

theorem withoutMarkers_eq_self (hparen : ¬"__declspec(novtable)".toList <:+: t)
    (hword : ¬"DECLSPEC_NOVTABLE".toList <:+: t) : withoutMarkers t = t := by
  rw [withoutMarkers, replace_eq_self hparen, replace_eq_self hword]

/-- A line without comments, markers and superfluous blanks is left as it is. -/
theorem prepares_self (htight : IsTight t) (hlast : t.getLast? ≠ some '\\') (hslash : '/' ∉ t)
    (hparen : ¬"__declspec(novtable)".toList <:+: t)
    (hword : ¬"DECLSPEC_NOVTABLE".toList <:+: t) : Prepares t t := by
  have htrim := trim_eq_self htight
  refine ⟨by rw [htrim, beforeBackslash?_eq_none hlast], t, by rw [htrim, uncomment_eq_self hslash],
    ?_⟩
  rw [withoutMarkers_eq_self hparen hword, collapse_eq_self htight]

theorem prepares_blank (h : ∀ c ∈ t, isBlank c = true) : Prepares t [] := by
  have htrim : trim t = [] := by
    rw [← List.append_nil t, trim, trimOf_append_left h]
    rfl
  exact ⟨by rw [htrim]; rfl, [], by rw [htrim]; rfl, rfl⟩

theorem prepares_comment {lead text : Text} (hlead : ∀ c ∈ lead, isBlank c = true)
    (htext : (trimEnd text).getLast? ≠ some '\\') : Prepares (lead ++ '/' :: '/' :: text) [] := by
  have hslash : isBlank '/' = false := by decide
  have htrim : trim (lead ++ '/' :: '/' :: text) = '/' :: '/' :: trimEnd text := by
    have hstart : trimStartOf isBlank ('/' :: '/' :: text) = '/' :: '/' :: text :=
      trimStartOf_eq_self (by simpa using hslash)
    rw [trim, trimOf_append_left hlead, trimOf, hstart]
    exact trimEndOf_append_cons hslash ['/'] text
  have hlast : ('/' :: '/' :: trimEnd text).getLast? ≠ some '\\' := by
    cases hend : trimEnd text with
    | nil => simp
    | cons c rest => rwa [List.getLast?_cons_cons, List.getLast?_cons_cons, ← hend]
  exact ⟨by rw [htrim, beforeBackslash?_eq_none hlast], [], by rw [htrim, uncomment], rfl⟩

theorem preparedFrom_cons (h : Prepares source prepared) (below : List Text) :
    preparedFrom false none (source :: below) = prepared :: preparedFrom false none below := by
  obtain ⟨kept, hkept, hcollapse⟩ := h.uncommented
  rw [preparedFrom, withPending, h.not_continued, ← hcollapse]
  simp only [hkept]

theorem Prepares.of_trim_eq {other : Text} (h : Prepares source prepared)
    (htrim : trim other = trim source) : Prepares other prepared :=
  ⟨htrim ▸ h.not_continued, htrim ▸ h.uncommented⟩

theorem preparedFrom_eq {sources lines : List Text} (h : List.Forall₂ Prepares sources lines) :
    preparedFrom false none sources = lines := by
  induction h with
  | nil => rfl
  | cons hline _ ih => rw [preparedFrom_cons hline, ih]

theorem prepare_of_map_trim {t : Text} {sources lines : List Text}
    (h : List.Forall₂ Prepares sources lines)
    (htrims : (Text.lines t).map trim = sources.map trim) : prepare t = lines := by
  refine preparedFrom_eq ?_
  generalize Text.lines t = written at htrims
  induction h generalizing written with
  | nil =>
      rw [List.map_nil, List.map_eq_nil_iff] at htrims
      rw [htrims]
      exact .nil
  | cons hline _ ih =>
      obtain ⟨first, rest, rfl, htrim, hrest⟩ := List.map_eq_cons_iff.1 htrims
      exact .cons (hline.of_trim_eq htrim) (ih _ hrest)

/-- A header that is written line by line is prepared line by line. -/
theorem prepare_unlines {sources lines : List Text} (h : List.Forall₂ Prepares sources lines)
    (hlf : ∀ source ∈ sources, '\n' ∉ source) : prepare (unlines sources) = lines :=
  prepare_of_map_trim h (map_trim_lines_unlines hlf)

theorem prepare_join {sources lines : List Text} (h : List.Forall₂ Prepares sources lines)
    (hlf : ∀ source ∈ sources, '\n' ∉ source) (hlast : ∀ source ∈ sources.getLast?, source ≠ []) :
    prepare (join ['\n'] sources) = lines :=
  prepare_of_map_trim h (map_trim_lines_join hlf hlast)

end GuidAtlas.Header
