import GuidAtlas.Header.Word
import GuidAtlas.Proofs.Header.Positions.Lines

/-!
A position in the lines of a header, which may stand behind the last one. What moves it on takes as
many of the lines below it as the reading on from its line does.
-/

namespace GuidAtlas.Header

open Text

theorem reverse_take_succ {lines : List Text} {i : Nat} (hi : i < lines.length) :
    (lines.take (i + 1)).reverse = lines[i] :: (lines.take i).reverse := by
  rw [List.take_succ_eq_append_getElem hi, List.reverse_append]
  rfl

structure Cursor where
  lines : List Text
  pos : Nat

namespace Cursor

/-- Behind the last line there is nothing. -/
def current (cursor : Cursor) : Text := cursor.lines[cursor.pos]?.getD []

def below (cursor : Cursor) : List Text := cursor.lines.drop (cursor.pos + 1)

def above (cursor : Cursor) : List Text := (cursor.lines.take cursor.pos).reverse

def place (cursor : Cursor) (offset : Nat) : Place := ⟨cursor.current, offset, cursor.below⟩

def step (cursor : Cursor) : Cursor := { cursor with pos := cursor.pos + 1 }

/-- Moves to the next valid line. The position moves on in any case, also behind the last line. -/
def advanceValid (allowBraces : Bool) : (window : Nat) → Cursor → Option Text × Cursor
  | 0, cursor => (none, cursor)
  | window + 1, cursor =>
    match cursor.step.lines[cursor.step.pos]? with
    | none => (none, cursor.step)
    | some line =>
      if isValid line allowBraces then (some line, cursor.step)
      else advanceValid allowBraces window cursor.step

/-- Whether a cursor has taken lines below another one. Behind the last line its position does not
matter. -/
structure Takes (cursor : Cursor) (taken : Nat) (later : Cursor) : Prop where
  lines : later.lines = cursor.lines
  pos : min (later.pos + 1) cursor.lines.length = min (cursor.pos + 1 + taken) cursor.lines.length

variable {cursor later last : Cursor} {taken more window : Nat} {line : Text} {allowBraces : Bool}
  {α : Type} {missed : α} {onward : Text → List Text → Reading α}
  {search : Nat → List Text → Reading α}

theorem current_eq (h : cursor.pos < cursor.lines.length) :
    cursor.current = cursor.lines[cursor.pos] := by
  rw [current, List.getElem?_eq_getElem h]
  rfl

theorem drop_eq_cons (h : cursor.pos < cursor.lines.length) :
    cursor.lines.drop cursor.pos = cursor.current :: cursor.below := by
  rw [current_eq h, List.drop_eq_getElem_cons h, below]

theorem length_above (h : cursor.pos < cursor.lines.length) : cursor.above.length = cursor.pos := by
  rw [above, List.length_reverse, List.length_take, Nat.min_eq_left (Nat.le_of_lt h)]

theorem above_step (h : cursor.pos < cursor.lines.length) :
    cursor.step.above = cursor.current :: cursor.above := by
  rw [current_eq h]
  exact reverse_take_succ h

theorem Takes.refl (cursor : Cursor) : cursor.Takes 0 cursor := ⟨rfl, rfl⟩

theorem Takes.trans (h : cursor.Takes taken later) (hlast : later.Takes more last) :
    cursor.Takes (taken + more) last where
  lines := hlast.lines.trans h.lines
  pos := by
    have hfirst := h.pos
    have hsecond := hlast.pos
    rw [h.lines] at hsecond
    omega

theorem Takes.below (h : cursor.Takes taken later) : later.below = cursor.below.drop taken := by
  rw [Cursor.below, Cursor.below, List.drop_drop, h.lines, List.drop_eq_drop_min, h.pos,
    ← List.drop_eq_drop_min]

theorem Takes.above (h : cursor.Takes taken later) :
    later.step.above = (cursor.lines.take (cursor.pos + 1 + taken)).reverse := by
  rw [Cursor.above, Cursor.step, h.lines, List.take_eq_take_min, h.pos, ← List.take_eq_take_min]

theorem Takes.step (h : cursor.step.Takes taken later) : cursor.Takes (taken + 1) later where
  lines := h.lines
  pos := by
    have hpos := h.pos
    simp only [Cursor.step] at hpos
    omega

/-- A result agrees with a reading: nothing has gone wrong on the way to its value and the cursor
has taken the same lines. -/
def Reads (cursor : Cursor) (result : Option (α × Cursor)) (reading : Reading α) : Prop :=
  ∃ later, result = some (reading.value, later) ∧ cursor.Takes reading.taken later

theorem Reads.ite {p : Prop} [Decidable p] {first second : Option (α × Cursor)}
    {reading other : Reading α} (hfirst : cursor.Reads first reading)
    (hsecond : cursor.Reads second other) :
    cursor.Reads (if p then first else second) (if p then reading else other) := by
  split
  case isTrue => exact hfirst
  case isFalse => exact hsecond

/-- A search below a line goes on from the first valid one of the lines it may look at. -/
structure Searches (allowBraces : Bool) (missed : α) (onward : Text → List Text → Reading α)
    (search : Nat → List Text → Reading α) : Prop where
  closed (below : List Text) : search 0 below = ⟨missed, 0⟩
  ended (window : Nat) : search window [] = ⟨missed, 0⟩
  looked (window : Nat) (line : Text) (below : List Text) : search (window + 1) (line :: below) =
    if isValid line allowBraces then (onward line below).below else (search window below).below

theorem below_eq_nil (h : cursor.step.lines[cursor.step.pos]? = none) : cursor.below = [] :=
  List.drop_eq_nil_of_le (List.getElem?_eq_none_iff.1 h)

theorem below_eq_cons (h : cursor.step.lines[cursor.step.pos]? = some line) :
    cursor.below = line :: cursor.step.below := by
  obtain ⟨hlt, rfl⟩ := List.getElem?_eq_some_iff.1 h
  exact List.drop_eq_getElem_cons hlt

theorem length_below_lt (h : cursor.advanceValid allowBraces window = (some line, later)) :
    later.below.length < cursor.below.length := by
  induction window generalizing cursor with
  | zero => cases h
  | succ window ih =>
      rw [advanceValid] at h
      cases hline : cursor.step.lines[cursor.step.pos]? with
      | none =>
          rw [hline] at h
          cases h
      | some next =>
          simp only [hline] at h
          rw [below_eq_cons hline, List.length_cons]
          split at h
          case isTrue =>
            cases h
            exact Nat.lt_succ_self _
          case isFalse => exact Nat.lt_succ_of_lt (ih h)

/-- The cursor finds the line that a search goes on from, or none with it. -/
theorem advanceValid_cases (h : Searches allowBraces missed onward search) (cursor : Cursor)
    (window : Nat) :
    (∃ later taken, cursor.advanceValid allowBraces window = (none, later) ∧
      cursor.Takes taken later ∧ search window cursor.below = ⟨missed, taken⟩) ∨
    ∃ line later taken, cursor.advanceValid allowBraces window = (some line, later) ∧
      later.current = line ∧ isValid line allowBraces = true ∧ cursor.Takes (taken + 1) later ∧
      search window cursor.below = ⟨(onward line later.below).value,
        (onward line later.below).taken + (taken + 1)⟩ := by
  induction window generalizing cursor with
  | zero => exact .inl ⟨cursor, 0, rfl, .refl cursor, h.closed _⟩
  | succ window ih =>
      rw [advanceValid]
      cases hline : cursor.step.lines[cursor.step.pos]? with
      | none =>
          refine .inl ⟨cursor.step, 0, rfl, ⟨rfl, ?_⟩, by rw [below_eq_nil hline, h.ended]⟩
          have hlength : cursor.lines.length ≤ cursor.pos + 1 := List.getElem?_eq_none_iff.1 hline
          simp only [step]
          omega
      | some line =>
          rw [below_eq_cons hline, h.looked]
          by_cases hvalid : isValid line allowBraces = true
          case pos =>
            refine .inr ⟨line, cursor.step, 0, by simp [hvalid], ?_, hvalid, ⟨rfl, rfl⟩,
              by rw [if_pos hvalid]; rfl⟩
            rw [current, hline]
            rfl
          case neg =>
            simp only [hvalid]
            rcases ih cursor.step with ⟨later, taken, hadvance, htakes, hsearch⟩ |
              ⟨line, later, taken, hadvance, hcurrent, hfound, htakes, hsearch⟩
            · exact .inl ⟨later, taken + 1, hadvance, htakes.step, by rw [hsearch]; rfl⟩
            · exact .inr ⟨line, later, taken + 1, hadvance, hcurrent, hfound, htakes.step,
                by rw [hsearch]; rfl⟩

end Cursor

end GuidAtlas.Header
