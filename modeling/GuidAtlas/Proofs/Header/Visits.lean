import GuidAtlas.Header.Declaration

/-!
Which lines of a header are read. A reading that takes lines below its own makes the next one start
after them, so each line is either visited or taken by exactly one line above it.
-/

namespace GuidAtlas.Header

open Text

/-- What is read at a line, which is counted from zero. -/
def readingAt (projected : Bool) (lines : List Text) (i : Nat) : Reading Outcome :=
  match lines[i]? with
  | some line =>
    if isValid line false then
      readLine projected (lines.take i).reverse line (lines.drop (i + 1))
    else ⟨.nothing, 0⟩
  | none => ⟨.nothing, 0⟩

/-- The line at which reading goes on. -/
def nextVisit (projected : Bool) (lines : List Text) (i : Nat) : Nat :=
  i + 1 + (readingAt projected lines i).taken

inductive VisitsFrom (projected : Bool) (lines : List Text) : Nat → Nat → Prop
  | here (i : Nat) : VisitsFrom projected lines i i
  | later {i j : Nat} (h : VisitsFrom projected lines (nextVisit projected lines i) j) :
      VisitsFrom projected lines i j

/-- A line of a header at which a reading starts. -/
def Visited (projected : Bool) (lines : List Text) (i : Nat) : Prop :=
  VisitsFrom projected lines 0 i

/-- A line of a header that a reading from a line above it takes. -/
def Taken (projected : Bool) (lines : List Text) (i : Nat) : Prop :=
  ∃ j < i, Visited projected lines j ∧ i ≤ j + (readingAt projected lines j).taken

variable {projected : Bool} {lines : List Text} {i j start : Nat}

theorem readingAt_of_getElem? {line : Text} (h : lines[i]? = some line)
    (hvalid : isValid line false = true) :
    readingAt projected lines i =
      readLine projected (lines.take i).reverse line (lines.drop (i + 1)) := by
  rw [readingAt, h]
  exact if_pos hvalid

theorem readingAt_of_invalid {line : Text} (h : lines[i]? = some line)
    (hvalid : isValid line false = false) : readingAt projected lines i = ⟨.nothing, 0⟩ := by
  rw [readingAt, h]
  exact if_neg (by simp [hvalid])

theorem readingAt_of_length_le (h : lines.length ≤ i) :
    readingAt projected lines i = ⟨.nothing, 0⟩ := by
  rw [readingAt, List.getElem?_eq_none h]

theorem visitsFrom_iff : VisitsFrom projected lines start i ↔
    i = start ∨ VisitsFrom projected lines (nextVisit projected lines start) i := by
  constructor
  · intro h
    cases h with
    | here => exact .inl rfl
    | later h => exact .inr h
  · rintro (rfl | h)
    · exact .here i
    · exact .later h

theorem VisitsFrom.le (h : VisitsFrom projected lines start i) : start ≤ i := by
  induction h with
  | here => exact Nat.le_refl _
  | later _ ih =>
      simp only [nextVisit] at ih
      omega

theorem VisitsFrom.next (h : VisitsFrom projected lines start i) :
    VisitsFrom projected lines start (nextVisit projected lines i) := by
  induction h with
  | here i => exact .later (.here _)
  | later _ ih => exact .later ih

/-- Visits do not overlap. -/
theorem VisitsFrom.nextVisit_le (hi : VisitsFrom projected lines start i)
    (hj : VisitsFrom projected lines start j) (hlt : i < j) : nextVisit projected lines i ≤ j := by
  induction hi with
  | here i =>
      rcases visitsFrom_iff.1 hj with rfl | hj
      · omega
      · exact hj.le
  | later hi ih =>
      rcases visitsFrom_iff.1 hj with rfl | hj
      · have := hi.le
        simp only [nextVisit] at this
        omega
      · exact ih hj hlt

theorem visited_or_taken (projected : Bool) (lines : List Text) (i : Nat) :
    Visited projected lines i ∨ Taken projected lines i := by
  induction i with
  | zero => exact .inl (.here 0)
  | succ i ih =>
      -- The line above is at `j` or taken from there; `j` takes this line too or stops before it.
      obtain ⟨j, hj, hvisited, hle⟩ : ∃ j ≤ i, Visited projected lines j ∧
          i ≤ j + (readingAt projected lines j).taken := by
        rcases ih with hvisited | ⟨j, hlt, hvisited, hle⟩
        · exact ⟨i, Nat.le_refl i, hvisited, by omega⟩
        · exact ⟨j, by omega, hvisited, hle⟩
      by_cases hmore : i + 1 ≤ j + (readingAt projected lines j).taken
      case pos => exact .inr ⟨j, by omega, hvisited, hmore⟩
      case neg =>
        have hnext : nextVisit projected lines j = i + 1 := by
          simp only [nextVisit]
          omega
        exact .inl (hnext ▸ hvisited.next)

theorem Visited.not_taken (h : Visited projected lines i) : ¬Taken projected lines i := by
  rintro ⟨j, hlt, hvisited, hle⟩
  have := hvisited.nextVisit_le h hlt
  simp only [nextVisit] at this
  omega

/-- An outcome is recorded for a line, which is counted from one. -/
def Contents.Holds (contents : Contents) (n : Nat) : Outcome → Prop
  | .found guid name => ⟨guid, name, n⟩ ∈ contents.declarations
  | .unread => n ∈ contents.unread
  | .nothing => False

theorem Contents.holds_withOutcome (contents : Contents) (above : List Text) {n : Nat}
    {outcome other : Outcome} (h : other ≠ .nothing) :
    (contents.withOutcome above outcome).Holds n other ↔
      (n = above.length + 1 ∧ outcome = other) ∨ contents.Holds n other := by
  cases outcome <;> cases other <;> grind [Contents.withOutcome, Contents.Holds]

/-- At a line that no declaration has taken, its own outcome is recorded and reading goes on behind
the lines it takes. -/
theorem contentsFrom_cons {above below : List Text} {line : Text}
    (hlines : lines = above.reverse ++ line :: below) :
    contentsFrom projected above 0 (line :: below) =
      (contentsFrom projected (line :: above) (readingAt projected lines above.length).taken
        below).withOutcome above (readingAt projected lines above.length).value := by
  have hline : lines[above.length]? = some line := by simp [hlines]
  have habove : (lines.take above.length).reverse = above := by simp [hlines]
  have hdrop : lines.drop (above.length + 1) = below := by
    have hlines : lines = (line :: above).reverse ++ below := by simp [hlines]
    rw [hlines]
    exact List.drop_left' (by simp)
  rw [contentsFrom]
  split
  case isTrue hvalid => rw [readingAt_of_getElem? hline hvalid, habove, hdrop]
  case isFalse hvalid =>
    rw [readingAt_of_invalid hline (by simpa using hvalid)]
    rfl

/-- What the reading below some lines records, in terms of its visits. -/
theorem holds_contentsFrom {outcome : Outcome} (h : outcome ≠ .nothing) {n skip : Nat}
    {above rest : List Text} (hlines : lines = above.reverse ++ rest) :
    (contentsFrom projected above skip rest).Holds n outcome ↔
      ∃ i, VisitsFrom projected lines (above.length + skip) i ∧
        (readingAt projected lines i).value = outcome ∧ n = i + 1 := by
  -- On the lines below; the next visit is at the one after the skipped lines.
  induction rest generalizing above skip with
  | nil =>
      have hempty : ¬(contentsFrom projected above skip []).Holds n outcome := by
        cases outcome <;> simp [contentsFrom, Contents.Holds]
      refine ⟨fun hholds => absurd hholds hempty, ?_⟩
      rintro ⟨i, hvisits, hvalue, -⟩
      have hlength : lines.length ≤ i := by
        have := hvisits.le
        simp only [hlines, List.append_nil, List.length_reverse]
        omega
      rw [readingAt_of_length_le hlength] at hvalue
      exact absurd hvalue.symm h
  | cons line below ih =>
      have hbelow : lines = (line :: above).reverse ++ below := by simp [hlines]
      cases skip with
      | succ skip =>
          rw [contentsFrom, ih hbelow, List.length_cons, Nat.add_assoc, Nat.add_comm 1]
      | zero =>
          have hnext : (line :: above).length + (readingAt projected lines above.length).taken =
              nextVisit projected lines above.length := rfl
          rw [contentsFrom_cons hlines, Contents.holds_withOutcome _ _ h, ih hbelow, hnext,
            Nat.add_zero]
          constructor
          · rintro (⟨rfl, hvalue⟩ | ⟨i, hvisits, hrest⟩)
            · exact ⟨above.length, .here _, hvalue, rfl⟩
            · exact ⟨i, .later hvisits, hrest⟩
          · rintro ⟨i, hvisits, hvalue, rfl⟩
            rcases visitsFrom_iff.1 hvisits with rfl | hvisits
            · exact .inl ⟨rfl, hvalue⟩
            · exact .inr ⟨i, hvisits, hvalue, rfl⟩

/-- A header records what is read at the lines it visits. -/
theorem holds_read {outcome : Outcome} (h : outcome ≠ .nothing) {t : Text} {n : Nat} :
    (read projected t).Holds n outcome ↔
      ∃ i, Visited projected (prepare t) i ∧
        (readingAt projected (prepare t) i).value = outcome ∧ n = i + 1 :=
  holds_contentsFrom h rfl

end GuidAtlas.Header
