import GuidAtlas.Proofs.Text.Blank
import Mathlib.Data.List.Infix

/-!
Texts with holes. Where the holes take only word characters, a finite check of the fixed parts tells
what no filling contains, and that every filling has single spaces.
-/

namespace GuidAtlas.Text

inductive Piece (Hole : Type) where
  | lit (t : Text)
  | hole (hole : Hole)
  deriving DecidableEq

def charsFrom (first : Char) (count : Nat) : Text :=
  (List.range' first.toNat count).map Char.ofNat

def identifierChars : Text :=
  charsFrom 'a' 26 ++ charsFrom 'A' 26 ++ charsFrom '0' 10 ++ ['_']

def holeChars : Text := [':', '-'] ++ identifierChars

def isHoleChar (c : Char) : Bool := holeChars.elem c

theorem holeChars_induction {p : Char → Bool} (h : holeChars.all p = true) {c : Char}
    (hc : isHoleChar c = true) : p c = true :=
  List.all_eq_true.1 h c (List.elem_iff.1 hc)

variable {Hole : Type}

def Piece.fill (values : Hole → Text) : Piece Hole → Text
  | .lit t => t
  | .hole slot => values slot

def fillAll (values : Hole → Text) (pieces : List (Piece Hole)) : Text :=
  pieces.flatMap (·.fill values)

@[simp] theorem fillAll_nil (values : Hole → Text) : fillAll values [] = [] := rfl

@[simp] theorem fillAll_cons (values : Hole → Text) (piece : Piece Hole)
    (pieces : List (Piece Hole)) :
    fillAll values (piece :: pieces) = piece.fill values ++ fillAll values pieces := rfl

@[simp] theorem fillAll_append (values : Hole → Text) (first second : List (Piece Hole)) :
    fillAll values (first ++ second) = fillAll values first ++ fillAll values second :=
  List.flatMap_append

structure Fills (values : Hole → Text) (pieces : List (Piece Hole)) : Prop where
  ne_nil : ∀ hole, .hole hole ∈ pieces → values hole ≠ []
  isHoleChar : ∀ hole, .hole hole ∈ pieces → ∀ c ∈ values hole, isHoleChar c = true

variable {values : Hole → Text} {pieces : List (Piece Hole)} {part : Text}

theorem Fills.of_subset {fewer : List (Piece Hole)} (h : Fills values pieces)
    (hsubset : fewer ⊆ pieces) : Fills values fewer :=
  ⟨fun hole hmem => h.ne_nil hole (hsubset hmem),
    fun hole hmem => h.isHoleChar hole (hsubset hmem)⟩

theorem Fills.of_cons {piece : Piece Hole} (h : Fills values (piece :: pieces)) :
    Fills values pieces :=
  h.of_subset (List.subset_cons_self piece pieces)

def litsAll (p : Char → Bool) (pieces : List (Piece Hole)) : Bool :=
  pieces.all fun
    | .lit t => t.all p
    | .hole _ => true

theorem of_mem_fillAll {p : Char → Bool} (h : Fills values pieces)
    (hlits : litsAll p pieces = true) (hholes : holeChars.all p = true) {c : Char}
    (hc : c ∈ fillAll values pieces) : p c = true := by
  obtain ⟨piece, hpiece, hc⟩ := List.mem_flatMap.1 hc
  cases piece with
  | lit t => exact List.all_eq_true.1 (List.all_eq_true.1 hlits _ hpiece) c hc
  | hole hole => exact holeChars_induction hholes (h.isHoleChar hole hpiece c hc)

/-- Characters that neither the fixed parts nor words have are not in a filling. -/
theorem not_mem_fillAll {chars : Text} (h : Fills values pieces)
    (hlits : litsAll (fun c => !chars.elem c) pieces = true)
    (hholes : holeChars.all (fun c => !chars.elem c) = true) {d : Char} (hd : d ∈ chars) :
    d ∉ fillAll values pieces := by
  intro hmem
  have hfound := of_mem_fillAll h hlits hholes hmem
  rw [List.elem_iff.2 hd] at hfound
  cases hfound

/-- The scan for single spaces, passing over holes as over words. -/
def tightenPiece (state : Option Bool) : Piece Hole → Option Bool
  | .lit t => t.foldl tighten state
  | .hole _ => state.map fun _ => true

theorem foldl_tighten_fillAll (h : Fills values pieces) (state : Option Bool) :
    (fillAll values pieces).foldl tighten state = pieces.foldl tightenPiece state := by
  induction pieces generalizing state with
  | nil => rfl
  | cons piece pieces ih =>
      rw [fillAll_cons, List.foldl_append, List.foldl_cons, ih h.of_cons]
      cases piece with
      | lit t => rfl
      | hole hole =>
          have hblank : ∀ c ∈ values hole, isBlank c = false := by
            intro c hc
            have hall : holeChars.all (!isBlank ·) = true := by decide
            simpa using holeChars_induction hall (h.isHoleChar hole List.mem_cons_self c hc)
          cases state with
          | none => simp [Piece.fill, tightenPiece]
          | some openWord =>
              rw [Piece.fill,
                foldl_tighten_of_not_blank hblank (h.ne_nil hole List.mem_cons_self)]
              rfl

def mayStart : List (Piece Hole) → (part : Text) → Bool
  | [], part => part.isEmpty
  | .lit t :: pieces, part =>
    part.isPrefixOf t ||
      match afterStart? t part with
      | some rest => mayStart pieces rest
      | none => false
  | .hole _ :: pieces, part =>
    part.all isHoleChar || (List.range part.length).any fun k =>
      (part.take (k + 1)).all isHoleChar && mayStart pieces (part.drop (k + 1))

/-- Whether a filling may contain a part elsewhere than inside a hole. -/
def mayMeet (part : Text) : List (Piece Hole) → Bool
  | [] => false
  | .lit t :: pieces =>
    ((List.range t.length).any fun k => mayStart (.lit (t.drop k) :: pieces) part) ||
      mayMeet part pieces
  | .hole _ :: pieces =>
    ((List.range part.length).any fun k => (part.take (k + 1)).all isHoleChar &&
      !(part.drop (k + 1)).isEmpty && mayStart pieces (part.drop (k + 1))) || mayMeet part pieces

theorem mayStart_of_prefix (h : Fills values pieces) (hpart : part <+: fillAll values pieces) :
    mayStart pieces part = true := by
  induction pieces generalizing part with
  | nil =>
      rw [fillAll_nil, List.prefix_nil] at hpart
      rw [hpart]
      rfl
  | cons piece pieces ih =>
      rw [fillAll_cons] at hpart
      cases piece with
      | lit t =>
          simp only [mayStart, Bool.or_eq_true, List.isPrefixOf_iff_prefix]
          rcases prefix_append_cases hpart with hpart | ⟨rest, rfl, hrest⟩
          · exact .inl hpart
          · rw [Piece.fill, afterStart?_append]
            exact .inr (ih h.of_cons hrest)
      | hole hole =>
          have hword := h.isHoleChar hole List.mem_cons_self
          simp only [mayStart, Bool.or_eq_true, List.all_eq_true, List.any_eq_true, List.mem_range,
            Bool.and_eq_true]
          rcases prefix_append_cases hpart with hpart | ⟨rest, rfl, hrest⟩
          · exact .inl fun c hc => hword c (hpart.subset hc)
          · obtain ⟨k, hk⟩ := Nat.exists_eq_add_one.2
              (List.length_pos_iff.2 (h.ne_nil hole List.mem_cons_self))
            rw [Piece.fill]
            refine .inr ⟨k, by rw [List.length_append]; omega, ?_, ?_⟩
            · rw [← hk, List.take_left']
              · exact hword
              · rfl
            · rw [← hk, List.drop_left']
              · exact ih h.of_cons hrest
              · rfl

theorem infix_append_cases {a b : Text} (h : part <:+: a ++ b) :
    part <:+: b ∨ ∃ k < a.length, part <+: a.drop k ++ b := by
  induction a with
  | nil => exact .inl h
  | cons c a ih =>
      rw [List.cons_append, List.infix_cons_iff] at h
      rcases h with h | h
      · exact .inr ⟨0, by simp, h⟩
      · rcases ih h with h | ⟨k, hk, h⟩
        · exact .inl h
        · exact .inr ⟨k + 1, by simpa using hk, h⟩

/-- A part that starts inside a hole ends there, or the check finds where it goes on. -/
theorem mayMeet_of_hole {hole : Hole} (h : Fills values (.hole hole :: pieces)) {k : Nat}
    (hk : k < (values hole).length)
    (hpart : part <+: (values hole).drop k ++ fillAll values pieces) :
    mayMeet part (.hole hole :: pieces) = true ∨ part <:+: values hole := by
  have hdrop : (values hole).drop k <:+: values hole := (List.drop_suffix k _).isInfix
  rcases prefix_append_cases hpart with hinside | ⟨rest, rfl, hafter⟩
  · exact .inr (hinside.isInfix.trans hdrop)
  · cases rest with
    | nil => exact .inr (by simpa using hdrop)
    | cons c rest =>
        -- The part takes the rest of the hole, one character at least, and goes on behind it.
        have hword : ∀ c ∈ (values hole).drop k, isHoleChar c = true := fun c hc =>
          h.isHoleChar hole List.mem_cons_self c (List.mem_of_mem_drop hc)
        have hlength : ((values hole).drop k).length = (values hole).length - k - 1 + 1 := by
          rw [List.length_drop]
          omega
        simp only [mayMeet, Bool.or_eq_true, List.any_eq_true, List.mem_range, Bool.and_eq_true,
          List.all_eq_true]
        refine .inl (.inl ⟨(values hole).length - k - 1, ?_, ⟨?_, ?_⟩, ?_⟩)
        · rw [List.length_append]
          omega
        · rw [← hlength, List.take_left' rfl]
          exact hword
        · rw [← hlength, List.drop_left' rfl]
          rfl
        · rw [← hlength, List.drop_left' rfl]
          exact mayStart_of_prefix h.of_cons hafter

/-- What a filling contains, the check finds unless it is inside a hole. -/
theorem mayMeet_of_infix (h : Fills values pieces) (hne : part ≠ [])
    (hpart : part <:+: fillAll values pieces) :
    mayMeet part pieces = true ∨ ∃ hole, .hole hole ∈ pieces ∧ part <:+: values hole := by
  induction pieces with
  | nil => exact absurd (List.infix_nil.1 hpart) hne
  | cons piece pieces ih =>
      rw [fillAll_cons] at hpart
      rcases infix_append_cases hpart with hpart | ⟨k, hk, hpart⟩
      · rcases ih h.of_cons hpart with hmeet | ⟨hole, hmem, hpart⟩
        · cases piece <;> simp [mayMeet, hmeet]
        · exact .inr ⟨hole, List.mem_cons_of_mem _ hmem, hpart⟩
      · cases piece with
        | lit t =>
            have hfills : Fills values (.lit (t.drop k) :: pieces) :=
              ⟨fun hole hmem => h.ne_nil hole (by simpa using hmem),
                fun hole hmem => h.isHoleChar hole (by simpa using hmem)⟩
            have hstart := mayStart_of_prefix hfills hpart
            simp only [mayMeet, Bool.or_eq_true, List.any_eq_true, List.mem_range]
            exact .inl (.inl ⟨k, hk, hstart⟩)
        | hole hole =>
            rcases mayMeet_of_hole h hk hpart with hmeet | hinside
            · exact .inl hmeet
            · exact .inr ⟨hole, List.mem_cons_self, hinside⟩

theorem not_infix_fillAll (h : Fills values pieces) (hmeet : mayMeet part pieces = false)
    (hword : part.all isHoleChar = false) : ¬part <:+: fillAll values pieces := by
  intro hpart
  have hne : part ≠ [] := by
    rintro rfl
    cases hword
  rcases mayMeet_of_infix h hne hpart with hfound | ⟨hole, hmem, hinside⟩
  · rw [hmeet] at hfound
    cases hfound
  · have hall : part.all isHoleChar = true :=
      List.all_eq_true.2 fun c hc => h.isHoleChar hole hmem c (hinside.subset hc)
    rw [hword] at hall
    cases hall

end GuidAtlas.Text
