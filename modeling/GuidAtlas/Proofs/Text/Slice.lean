import GuidAtlas.Proofs.Text.Search
import GuidAtlas.Proofs.Text.Utf8

/-!
Slices of a text at byte positions. Slicing fails at a position behind the end or inside a
character; the positions that searches give, with the bytes of what they found, never do.
-/

namespace GuidAtlas.Text

/-- Cuts a text at a byte position that lies in it, between two characters or at an end. -/
def cutBytes? : Nat → Text → Option (Text × Text)
  | 0, t => some ([], t)
  | _ + 1, [] => none
  | n + 1, c :: t =>
    if c.utf8Size ≤ n + 1 then
      (cutBytes? (n + 1 - c.utf8Size) t).map fun (s, rest) => (c :: s, rest)
    else none

def sliceTo? (stop : Nat) (t : Text) : Option Text := (cutBytes? stop t).map Prod.fst

def sliceFrom? (start : Nat) (t : Text) : Option Text := (cutBytes? start t).map Prod.snd

/-- The slice between two positions; the first must not stand behind the second. -/
def slice? (start stop : Nat) (t : Text) : Option Text := (sliceTo? stop t).bind (sliceFrom? start)

/-- The byte position of the first occurrence of a part. -/
def find? (part t : Text) : Option Nat := (cut? part t).map (utf8Length ·.1)

def findLast? (part t : Text) : Option Nat := (cutLast? part t).map (utf8Length ·.1)

variable {part s t before rest : Text} {c : Char} {n : Nat}

@[simp] theorem cutBytes?_zero (t : Text) : cutBytes? 0 t = some ([], t) := by
  rw [cutBytes?]

theorem cutBytes?_cons (n : Nat) (c : Char) (t : Text) :
    cutBytes? (n + c.utf8Size) (c :: t) = (cutBytes? n t).map fun (s, rest) => (c :: s, rest) := by
  obtain ⟨m, hm⟩ : ∃ m, n + c.utf8Size = m + 1 :=
    Nat.exists_eq_add_one.2 (by have := c.utf8Size_pos; omega)
  have hsub : m + 1 - c.utf8Size = n := by omega
  rw [hm, cutBytes?, if_pos (by omega), hsub]

/-- A text is cut exactly behind the bytes of its beginnings. -/
theorem cutBytes?_eq_some_iff :
    cutBytes? n t = some (s, rest) ↔ t = s ++ rest ∧ n = utf8Length s := by
  constructor
  · intro h
    fun_induction cutBytes? n t generalizing s with
    | case1 t =>
        cases h
        exact ⟨rfl, rfl⟩
    | case2 => cases h
    | case3 n c t hle ih =>
        obtain ⟨⟨s, rest⟩, hcut, heq⟩ := Option.map_eq_some_iff.1 h
        cases heq
        obtain ⟨rfl, hn⟩ := ih hcut
        refine ⟨rfl, ?_⟩
        rw [utf8Length_cons]
        omega
    | case4 => cases h
  · rintro ⟨rfl, rfl⟩
    induction s with
    | nil => exact cutBytes?_zero rest
    | cons c s ih =>
        rw [utf8Length_cons, Nat.add_comm, List.cons_append, cutBytes?_cons, ih]
        rfl

theorem utf8Length_eq_utf8ByteSize (t : Text) : utf8Length t = (String.ofList t).utf8ByteSize := by
  induction t with
  | nil => rfl
  | cons c t ih =>
      have hsplit : String.ofList (c :: t) = String.singleton c ++ String.ofList t := by
        rw [String.singleton_eq_ofList, ← String.ofList_append]
        rfl
      rw [utf8Length_cons, ih, hsplit, String.utf8ByteSize_append, String.utf8ByteSize_singleton]

/-- A text is cut at the valid positions of the string with its characters. -/
theorem isSome_cutBytes?_iff :
    (cutBytes? n t).isSome = true ↔ (⟨n⟩ : String.Pos.Raw).IsValid (String.ofList t) := by
  rw [Option.isSome_iff_exists, String.Pos.Raw.isValid_ofList]
  constructor
  · rintro ⟨⟨s, rest⟩, h⟩
    obtain ⟨rfl, rfl⟩ := cutBytes?_eq_some_iff.1 h
    exact ⟨s.length, by rw [List.take_left, ← utf8Length_eq_utf8ByteSize]⟩
  · rintro ⟨i, hn⟩
    rw [← utf8Length_eq_utf8ByteSize] at hn
    exact ⟨(t.take i, t.drop i), cutBytes?_eq_some_iff.2 ⟨(List.take_append_drop i t).symm, hn⟩⟩

/-- Inside of a character nothing is cut. -/
example : sliceFrom? 1 "é" = none := by decide

theorem cutBytes?_append (s rest : Text) : cutBytes? (utf8Length s) (s ++ rest) = some (s, rest) :=
  cutBytes?_eq_some_iff.2 ⟨rfl, rfl⟩

@[simp] theorem sliceTo?_append (s rest : Text) : sliceTo? (utf8Length s) (s ++ rest) = some s := by
  rw [sliceTo?, cutBytes?_append]
  rfl

@[simp] theorem sliceFrom?_append (s rest : Text) :
    sliceFrom? (utf8Length s) (s ++ rest) = some rest := by
  rw [sliceFrom?, cutBytes?_append]
  rfl

@[simp] theorem slice?_append (before s rest : Text) :
    slice? (utf8Length before) (utf8Length s + utf8Length before) (before ++ (s ++ rest)) =
      some s := by
  rw [slice?, Nat.add_comm, ← utf8Length_append, ← List.append_assoc, sliceTo?_append,
    Option.bind_some, sliceFrom?_append]

theorem length_lt_of_sliceFrom? (h : sliceFrom? (n + 1) t = some rest) :
    rest.length < t.length := by
  obtain ⟨⟨s, rest⟩, hcut, rfl⟩ := Option.map_eq_some_iff.1 h
  obtain ⟨rfl, hn⟩ := cutBytes?_eq_some_iff.1 hcut
  cases s with
  | nil => cases hn
  | cons c s =>
      simp only [List.length_append, List.length_cons]
      omega

theorem getD_sliceFrom? (n : Nat) (t : Text) : (sliceFrom? n t).getD [] = dropBytes n t := by
  induction t generalizing n with
  | nil => cases n <;> rfl
  | cons c t ih =>
      cases n with
      | zero => rfl
      | succ n =>
          rw [sliceFrom?, cutBytes?, dropBytes]
          split
          case isTrue =>
            rw [Option.map_map, ← ih, sliceFrom?]
            rfl
          case isFalse => rfl

theorem sliceTo?_cons (n : Nat) (c : Char) (t : Text) :
    sliceTo? (n + c.utf8Size) (c :: t) = (sliceTo? n t).map (c :: ·) := by
  rw [sliceTo?, cutBytes?_cons, Option.map_map, sliceTo?, Option.map_map]
  rfl

theorem sliceFrom?_cons (n : Nat) (c : Char) (t : Text) :
    sliceFrom? (n + c.utf8Size) (c :: t) = sliceFrom? n t := by
  rw [sliceFrom?, cutBytes?_cons, Option.map_map, sliceFrom?]
  rfl

theorem find?_append_left (t : Text) (h : part ≠ []) : find? part (part ++ t) = some 0 := by
  obtain ⟨c, part, rfl⟩ := List.exists_cons_of_ne_nil h
  rw [find?, List.cons_append, cut?, ← List.cons_append, afterStart?_append]
  rfl

theorem find?_cons (h : ¬part <+: c :: t) :
    find? part (c :: t) = (find? part t).map (· + c.utf8Size) := by
  rw [find?, cut?, afterStart?_eq_none_iff.2 h, find?]
  simp only [Option.map_map]
  refine congrArg (Option.map · _) (funext fun _ => ?_)
  exact Nat.add_comm _ _

theorem find?_append {d : Char} (h : d ∉ s) (part rest : Text) :
    find? (d :: part) (s ++ rest) = (find? (d :: part) rest).map (· + utf8Length s) := by
  induction s with
  | nil => simp
  | cons c s ih =>
      have hstart : ¬d :: part <+: c :: (s ++ rest) := fun hstart =>
        h (by simp [(List.cons_prefix_cons.1 hstart).1])
      rw [List.cons_append, find?_cons hstart, ih fun hmem => h (List.mem_cons_of_mem c hmem),
        Option.map_map, utf8Length_cons]
      refine congrArg (Option.map · _) (funext fun n => ?_)
      simp only [Function.comp_apply]
      omega

theorem find?_append_self {d : Char} (h : d ∉ s) (part rest : Text) :
    find? (d :: part) (s ++ (d :: part ++ rest)) = some (utf8Length s) := by
  rw [find?_append h, find?_append_left rest (List.cons_ne_nil d part), Option.map_some,
    Nat.zero_add]

theorem find?_of_cut? (h : cut? part t = some (before, rest)) :
    find? part t = some (utf8Length before) := by
  rw [find?, h, Option.map_some]

theorem findLast?_of_cutLast? (h : cutLast? part t = some (before, rest)) :
    findLast? part t = some (utf8Length before) := by
  rw [findLast?, h, Option.map_some]

theorem findLast?_add_le (h : findLast? part t = some n) : n + utf8Length part ≤ utf8Length t := by
  obtain ⟨parts, hcut, rfl⟩ := Option.map_eq_some_iff.1 h
  rw [eq_append_of_cutLast? hcut, utf8Length_append, utf8Length_append]
  exact Nat.le_add_right _ _

theorem length_lt_of_findLast? (h : findLast? part t = some n) (hpart : part ≠ [])
    (hbefore : sliceTo? n t = some before) : before.length < t.length := by
  obtain ⟨⟨s, rest⟩, hcut, rfl⟩ := Option.map_eq_some_iff.1 h
  obtain rfl := eq_append_of_cutLast? hcut
  rw [List.append_assoc, sliceTo?_append] at hbefore
  cases hbefore
  have := List.length_pos_of_ne_nil hpart
  simp only [List.length_append]
  omega

theorem findLast?_append_of_some (h : findLast? part t = some n) (s : Text) :
    findLast? part (s ++ t) = some (utf8Length s + n) := by
  obtain ⟨⟨before, rest⟩, hcut, rfl⟩ := Option.map_eq_some_iff.1 h
  have hmoved : cutLast? part (s ++ t) = some (s ++ before, rest) := by
    induction s with
    | nil => exact hcut
    | cons c s ih =>
        rw [List.cons_append, cutLast?, ih]
        rfl
  rw [findLast?_of_cutLast? hmoved, utf8Length_append]

theorem findLast?_append_of_not_mem {d : Char} (h : d ∉ t) (s : Text) :
    findLast? [d] (s ++ t) = findLast? [d] s := by
  have hkept : cutLast? [d] (s ++ t) =
      (cutLast? [d] s).map fun (before, rest) => (before, rest ++ t) := by
    induction s with
    | nil => exact cutLast?_eq_none h
    | cons c s ih =>
        rw [List.cons_append, cutLast?, cutLast?, ih]
        cases cutLast? [d] s <;> by_cases hd : d = c <;> simp [afterStart?, hd]
  rw [findLast?, hkept, Option.map_map, findLast?]
  rfl

end GuidAtlas.Text
