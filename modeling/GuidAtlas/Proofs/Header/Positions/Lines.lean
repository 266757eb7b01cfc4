import GuidAtlas.Header.Line
import GuidAtlas.Proofs.Text.Slice

/-!
Lines prepared by position, in place and with slices of their bytes. A result is missing if a
position lies outside of its text or list, or inside a character; none does, and the lines are the
prepared ones.
-/

namespace GuidAtlas.Header

open Text

def stripComments? (kept rest : Text) (inBlock : Bool) : Option (Text × Bool) :=
  if inBlock then
    match find? "*/" rest with
    | some stop =>
      (sliceFrom? (stop + 2) rest).pbind fun rest _ => stripComments? kept rest false
    | none => some (kept, true)
  else
    match find? "//" rest, find? "/*" rest with
    | some lineStart, some blockStart =>
      if lineStart < blockStart then do
        let before ← sliceTo? lineStart rest
        return (kept ++ before, false)
      else do
        let before ← sliceTo? blockStart rest
        (sliceFrom? (blockStart + 2) rest).pbind fun rest _ =>
          stripComments? (kept ++ before) rest true
    | none, some blockStart => do
      let before ← sliceTo? blockStart rest
      (sliceFrom? (blockStart + 2) rest).pbind fun rest _ =>
        stripComments? (kept ++ before) rest true
    | some lineStart, none => do
      let before ← sliceTo? lineStart rest
      return (kept ++ before, false)
    | none, none => some (kept ++ rest, false)
termination_by rest.length
decreasing_by all_goals exact length_lt_of_sliceFrom? ‹_›

def set? (lines : List Text) (i : Nat) (line : Text) : Option (List Text) :=
  if i < lines.length then some (lines.set i line) else none

/-- Prepares the lines from `i` on; a line that is continued is put in front of the next one and
cleared. -/
def preprocessFrom? : (todo i : Nat) → (inBlock : Bool) → (lines : List Text) → Option (List Text)
  | 0, _, _, lines => some lines
  | todo + 1, i, inBlock, lines => do
    let line := trim (← lines[i]?)
    match (beforeBackslash? line).filter fun _ => i + 1 < lines.length with
    | some head =>
      let next ← lines[i + 1]?
      let lines ← set? lines (i + 1) (trimEnd head ++ ' ' :: trim next)
      let lines ← set? lines i []
      preprocessFrom? todo (i + 1) inBlock lines
    | none =>
      let (cleaned, inBlock) ← stripComments? [] ((beforeBackslash? line).getD line) inBlock
      let lines ← set? lines i (collapse (withoutMarkers cleaned))
      preprocessFrom? todo (i + 1) inBlock lines

def preprocess? (t : Text) : Option (List Text) :=
  preprocessFrom? (lines t).length 0 false (lines t)

variable {kept rest : Text} {c : Char}

theorem stripComments?_inside (h : ¬"*/".toList <+: c :: rest) :
    stripComments? kept (c :: rest) true = stripComments? kept rest true := by
  rw [stripComments?, stripComments?, if_pos rfl, if_pos rfl, find?_cons h]
  cases find? "*/" rest with
  | none => rfl
  | some stop =>
      simp only [Option.map_some, Nat.add_right_comm _ c.utf8Size, sliceFrom?_cons,
        Option.pbind_eq_bind]

theorem stripComments?_outside (hline : ¬"//".toList <+: c :: rest)
    (hblock : ¬"/*".toList <+: c :: rest) :
    stripComments? kept (c :: rest) false = stripComments? (kept ++ [c]) rest false := by
  rw [stripComments?, stripComments?, if_neg (by decide), if_neg (by decide), find?_cons hline,
    find?_cons hblock]
  cases find? "//" rest <;> cases find? "/*" rest <;>
    simp only [Option.map_some, Option.map_none, Nat.add_right_comm _ c.utf8Size,
      Nat.add_lt_add_iff_right, sliceFrom?_cons, sliceTo?_cons, Option.bind_eq_bind,
      Option.pbind_eq_bind, Option.bind_map, List.append_assoc, List.singleton_append] <;>
    rfl

theorem uncomment_inside (h : ¬"*/".toList <+: c :: rest) :
    uncomment true (c :: rest) = uncomment true rest := by
  rw [uncomment]
  rintro rest rfl rfl
  exact h ⟨rest, rfl⟩

theorem uncomment_outside (hline : ¬"//".toList <+: c :: rest)
    (hblock : ¬"/*".toList <+: c :: rest) :
    uncomment false (c :: rest) = (c :: (uncomment false rest).1, (uncomment false rest).2) := by
  rw [uncomment]
  · rintro rest rfl rfl
    exact hline ⟨rest, rfl⟩
  · rintro rest rfl rfl
    exact hblock ⟨rest, rfl⟩

@[elab_as_elim] theorem marks_induction {motive : Bool → Text → Prop} (inBlock : Bool) (t : Text)
    (nil : ∀ inBlock, motive inBlock [])
    (closes : ∀ t, motive false t → motive true ('*' :: '/' :: t))
    (inside : ∀ c t, ¬"*/".toList <+: c :: t → motive true t → motive true (c :: t))
    (ends : ∀ t, motive false ('/' :: '/' :: t))
    (opens : ∀ t, motive true t → motive false ('/' :: '*' :: t))
    (outside : ∀ c t, ¬"//".toList <+: c :: t → ¬"/*".toList <+: c :: t → motive false t →
      motive false (c :: t)) : motive inBlock t := by
  match inBlock, t with
  | inBlock, [] => exact nil inBlock
  | true, c :: t =>
      by_cases hclose : "*/".toList <+: c :: t
      case pos =>
        obtain ⟨rest, hrest⟩ := hclose
        obtain ⟨rfl, rfl⟩ := List.cons.inj hrest
        exact closes rest (marks_induction false rest nil closes inside ends opens outside)
      case neg =>
        exact inside c t hclose (marks_induction true t nil closes inside ends opens outside)
  | false, c :: t =>
      by_cases hline : "//".toList <+: c :: t
      case pos =>
        obtain ⟨rest, hrest⟩ := hline
        obtain ⟨rfl, rfl⟩ := List.cons.inj hrest
        exact ends rest
      case neg =>
        by_cases hblock : "/*".toList <+: c :: t
        case pos =>
          obtain ⟨rest, hrest⟩ := hblock
          obtain ⟨rfl, rfl⟩ := List.cons.inj hrest
          exact opens rest (marks_induction true rest nil closes inside ends opens outside)
        case neg =>
          exact outside c t hline hblock
            (marks_induction false t nil closes inside ends opens outside)
termination_by t.length

/-- No slice misses, and what is kept is the line without its comments. -/
theorem stripComments?_eq (kept rest : Text) (inBlock : Bool) :
    stripComments? kept rest inBlock =
      some (kept ++ (uncomment inBlock rest).1, (uncomment inBlock rest).2) := by
  induction inBlock, rest using marks_induction generalizing kept with
  | nil inBlock => cases inBlock <;> simp [stripComments?, find?, cut?, uncomment]
  | closes rest ih =>
      have hclose : find? "*/" ('*' :: '/' :: rest) = some 0 := find?_append_left rest (by decide)
      have hbelow : sliceFrom? (0 + 2) ('*' :: '/' :: rest) = some rest :=
        sliceFrom?_append "*/" rest
      rw [stripComments?, if_pos rfl, hclose]
      simp [hbelow, ih, uncomment]
  | inside c rest hclose ih => rw [stripComments?_inside hclose, uncomment_inside hclose, ih]
  | ends rest =>
      have hline : find? "//" ('/' :: '/' :: rest) = some 0 := find?_append_left rest (by decide)
      have hblock : ¬"/*".toList <+: '/' :: '/' :: rest := by simp
      have hsize : '/'.utf8Size = 1 := rfl
      rw [stripComments?, if_neg (by decide), hline, find?_cons hblock]
      cases find? "/*" ('/' :: rest) <;> simp [sliceTo?, hsize, uncomment]
  | opens rest ih =>
      have hblock : find? "/*" ('/' :: '*' :: rest) = some 0 := find?_append_left rest (by decide)
      have hbelow : sliceFrom? (0 + 2) ('/' :: '*' :: rest) = some rest :=
        sliceFrom?_append "/*" rest
      have hline : ¬"//".toList <+: '/' :: '*' :: rest := by simp
      rw [stripComments?, if_neg (by decide), hblock, find?_cons hline]
      cases find? "//" ('*' :: rest) <;> simp [sliceTo?, hbelow, ih, uncomment]
  | outside c rest hline hblock ih =>
      rw [stripComments?_outside hline hblock, uncomment_outside hline hblock, ih]
      simp

theorem set?_append (done : List Text) (line other : Text) (below : List Text) :
    set? (done ++ line :: below) done.length other = some (done ++ other :: below) := by
  simp [set?]

theorem preparedFrom_some (inBlock : Bool) (head next : Text) (below : List Text) :
    preparedFrom inBlock (some head) (next :: below) =
      preparedFrom inBlock none ((head ++ ' ' :: trim next) :: below) := by
  rw [preparedFrom, preparedFrom]
  rfl

/-- The lines in front of `i` are done, and those from there on are still the given ones. -/
theorem preprocessFrom?_append (done below : List Text) (inBlock : Bool) :
    preprocessFrom? below.length done.length inBlock (done ++ below) =
      some (done ++ preparedFrom inBlock none below) := by
  induction hn : below.length generalizing done below inBlock with
  | zero =>
      rw [List.length_eq_zero_iff.1 hn]
      rfl
  | succ n ih =>
      obtain ⟨line, below, rfl⟩ := List.exists_cons_of_length_eq_add_one hn
      obtain hn : below.length = n := Nat.succ_inj.1 hn
      have hline : (done ++ line :: below)[done.length]? = some line := by simp
      have hnext (other : Text) (below : List Text) (inBlock : Bool) (hn : below.length = n) :
          preprocessFrom? n (done.length + 1) inBlock (done ++ other :: below) =
            some (done ++ other :: preparedFrom inBlock none below) := by
        simpa using ih (done ++ [other]) below inBlock hn
      rw [preprocessFrom?, hline, preparedFrom]
      cases hhead : beforeBackslash? (trim line) with
      | none =>
          simp [withPending, hhead, stripComments?_eq, set?_append, hnext _ _ _ hn]
      | some head =>
          cases below with
          | nil => simp [withPending, hhead, stripComments?_eq, set?_append, hnext _ _ _ hn]
          | cons next below =>
              have hset : set? (done ++ line :: next :: below) (done.length + 1)
                  (trimEnd head ++ ' ' :: trim next) =
                    some (done ++ line :: (trimEnd head ++ ' ' :: trim next) :: below) := by
                simpa using set?_append (done ++ [line]) next
                  (trimEnd head ++ ' ' :: trim next) below
              have hjoined := hnext [] ((trimEnd head ++ ' ' :: trim next) :: below) inBlock hn
              simp [withPending, hhead, hset, set?_append, preparedFrom_some, hjoined,
                Option.filter_some]

theorem preprocess?_eq (t : Text) : preprocess? t = some (prepare t) :=
  preprocessFrom?_append [] (lines t) false

end GuidAtlas.Header
