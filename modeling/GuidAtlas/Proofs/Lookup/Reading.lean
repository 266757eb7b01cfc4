import GuidAtlas.Lookup.IniDocument
import GuidAtlas.Proofs.Text.Trim

/-!
The steps of the reader of documents: where it stands in a line, what it passes over, and which text
it takes up to a stop. Line breaks after an odd number of backslashes do not stop it.
-/

namespace GuidAtlas.Lookup

open Text

/-- A line feed stands in column zero. -/
def Position.Fits (position : Position) (t : Text) : Prop :=
  t.head? = some '\n' → position.column = 0

theorem Position.onto_fits (position : Position) (t : Text) : (position.onto t).Fits t := by
  intro h
  cases t with
  | nil => cases h
  | cons c t =>
      cases h
      rfl

structure Position.BeginsLine (position : Position) (t : Text) : Prop where
  fits : position.Fits t
  column_le : position.column ≤ 1

theorem Position.onto_beginsLine {position : Position} {t : Text} (h : position.column = 0) :
    (position.onto t).BeginsLine t := by
  refine ⟨position.onto_fits t, ?_⟩
  simp only [onto]
  split <;> simp [h]

/-- A line break after this text is taken along: the backslashes at its end are an odd number. -/
def continues (t : Text) : Bool := (t.reverse.takeWhile (· = '\\')).length % 2 = 1

@[simp] theorem continues_nil : continues [] = false := rfl

theorem continues_cons {c : Char} (hc : c ≠ '\\') (t : Text) :
    continues (c :: t) = continues t := by
  rw [continues, continues, List.reverse_cons, List.takeWhile_append]
  split
  case isTrue hall =>
    have hwhole := (List.takeWhile_prefix _).eq_of_length hall
    simp [hwhole, hc]
  case isFalse => rfl

/-- A backslash takes the character behind it along. -/
theorem continues_slash (d : Char) (t : Text) : continues ('\\' :: d :: t) = continues t := by
  have hreverse : ('\\' :: d :: t).reverse = t.reverse ++ [d, '\\'] := by simp
  rw [continues, continues, hreverse, List.takeWhile_append]
  split
  case isTrue hall =>
    have hwhole := (List.takeWhile_prefix _).eq_of_length hall
    by_cases hd : d = '\\'
    case pos => simp [hwhole, hd]
    case neg => simp [hwhole, hd]
  case isFalse => rfl

theorem continues_eq_false {t : Text} (h : t.getLast? ≠ some '\\') : continues t = false := by
  rw [← List.head?_reverse] at h
  rw [continues]
  cases hreverse : t.reverse with
  | nil => rfl
  | cons c rest =>
      have hc : c ≠ '\\' := fun heq => h (by rw [hreverse, heq]; rfl)
      simp [hc]

/-- A text that is continued ends in a backslash that no other one takes along. -/
theorem exists_of_continues {t : Text} (h : continues t = true) :
    ∃ init, t = init ++ ['\\'] ∧ continues init = false := by
  rcases List.eq_nil_or_concat' t with rfl | ⟨init, c, rfl⟩
  · cases h
  · by_cases hc : c = '\\'
    case pos =>
      subst hc
      refine ⟨init, rfl, ?_⟩
      simp only [continues, List.reverse_append, List.reverse_singleton, List.singleton_append,
        decide_true, List.takeWhile_cons_of_pos, List.length_cons, decide_eq_true_eq,
        decide_eq_false_iff_not] at h ⊢
      omega
    case neg =>
      rw [continues_eq_false (by simpa using hc)] at h
      cases h

/-- A text that a reader up to the first stop takes whole. -/
structure Unbroken (stop : Char → Bool) (t : Text) : Prop where
  not_stop : ∀ c ∈ t, stop c = false
  not_lf : '\n' ∉ t
  last_ne : t.getLast? ≠ some '\\'

instance (stop : Char → Bool) (t : Text) : Decidable (Unbroken stop t) :=
  decidable_of_iff (t.any stop = false ∧ '\n' ∉ t ∧ t.getLast? ≠ some '\\')
    ⟨fun ⟨hstop, hlf, hlast⟩ => ⟨by simpa using hstop, hlf, hlast⟩,
      fun ⟨hstop, hlf, hlast⟩ => ⟨by simpa using hstop, hlf, hlast⟩⟩

theorem Unbroken.of_suffix {stop : Char → Bool} {t tail : Text} (h : Unbroken stop t)
    (hsuffix : tail <:+ t) : Unbroken stop tail := by
  refine ⟨fun c hc => h.not_stop c (hsuffix.subset hc), fun hc => h.not_lf (hsuffix.subset hc),
    fun hlast => h.last_ne ?_⟩
  obtain ⟨before, rfl⟩ := hsuffix
  rw [List.getLast?_append, hlast]
  rfl

namespace Reader

variable {position : Position} {t r : Text} {stop : Char → Bool}

theorem dropFrom_append {p : Char → Bool} {d : Char} (ht : ∀ c ∈ t, p c = true) (hd : p d = false)
    (hfits : position.Fits (t ++ d :: r)) :
    ∃ stop : Position, dropFrom p position (t ++ d :: r) = ⟨stop, d :: r⟩ ∧ stop.Fits (d :: r) := by
  induction t generalizing position with
  | nil => exact ⟨position, by simp [dropFrom, hd], hfits⟩
  | cons c t ih =>
      obtain ⟨stop, heq, hstop⟩ := ih (fun x hx => ht x (List.mem_cons_of_mem _ hx))
        (position.onto_fits (t ++ d :: r))
      exact ⟨stop, by simp [dropFrom, ht c, heq], hstop⟩

theorem upToFrom_stop {stop : Char → Bool} {d : Char} (hd : stop d = true) (position : Position)
    (r : Text) : upToFrom stop position (d :: r) = ([], ⟨position, d :: r⟩) := by
  cases r <;> simp [upToFrom, hd]

theorem upToFrom_plain {stop : Char → Bool} {c : Char} (hc : stop c = false) (hslash : c ≠ '\\')
    (position : Position) (t : Text) :
    upToFrom stop position (c :: t) =
      (c :: (upToFrom stop (position.onto t) t).1, (upToFrom stop (position.onto t) t).2) := by
  cases t <;> simp [upToFrom, hc, hslash]

theorem upToFrom_slash {stop : Char → Bool} {e : Char} (hslash : stop '\\' = false) (he : e ≠ '\n')
    (position : Position) (t : Text) :
    upToFrom stop position ('\\' :: e :: t) =
      let place := (position.onto (e :: t)).onto t
      ('\\' :: e :: (upToFrom stop place t).1, (upToFrom stop place t).2) := by
  simp [upToFrom, hslash, he]

/-- A reader takes a text whole in which nothing stops it and every backslash has a character to
take along, or is taken along itself. -/
theorem upToFrom_whole (hstop : ∀ c ∈ t, stop c = false) (hlf : '\n' ∉ t)
    (hwhole : continues t = false) (position : Position) (r : Text) :
    ∃ place : Position, (position.Fits (t ++ r) → place.Fits r) ∧
      upToFrom stop position (t ++ r) =
        (t ++ (upToFrom stop place r).1, (upToFrom stop place r).2) := by
  -- On the length, since a backslash takes the character behind it along.
  induction hn : t.length using Nat.strong_induction_on generalizing t position with
  | _ n ih =>
      subst hn
      cases t with
      | nil => exact ⟨position, id, rfl⟩
      | cons c t =>
          obtain ⟨hc, hrest⟩ := List.forall_mem_cons.1 hstop
          rw [List.mem_cons, not_or] at hlf
          by_cases hslash : c = '\\'
          case neg =>
            rw [continues_cons hslash] at hwhole
            obtain ⟨place, hplace, heq⟩ := ih t.length (Nat.lt_succ_self _) hrest hlf.2 hwhole
              (position.onto (t ++ r)) rfl
            refine ⟨place, fun _ => hplace (position.onto_fits _), ?_⟩
            rw [List.cons_append, upToFrom_plain hc hslash, heq]
            rfl
          case pos =>
            subst hslash
            cases t with
            | nil => cases hwhole
            | cons d t =>
                rw [List.mem_cons, not_or] at hlf
                rw [continues_slash] at hwhole
                obtain ⟨place, hplace, heq⟩ := ih t.length (Nat.lt_succ_of_lt (Nat.lt_succ_self _))
                  (List.forall_mem_cons.1 hrest).2 hlf.2.2 hwhole
                  ((position.onto (d :: (t ++ r))).onto (t ++ r)) rfl
                refine ⟨place, fun _ => hplace (Position.onto_fits _ _), ?_⟩
                rw [List.cons_append, List.cons_append, upToFrom_slash hc (Ne.symm hlf.2.1)]
                simp only [heq]
                rfl

/-- A line break that a text takes along is left out together with the backslash before it. -/
theorem upToFrom_continued (hstop : ∀ c ∈ t, stop c = false) (hlf : '\n' ∉ t)
    (hcontinues : continues t = true) (position : Position) (r : Text) :
    ∃ place : Position, place.BeginsLine r ∧
      upToFrom stop position (t ++ '\n' :: r) =
        (t.dropLast ++ (upToFrom stop place r).1, (upToFrom stop place r).2) := by
  obtain ⟨init, rfl, hinit⟩ := exists_of_continues hcontinues
  obtain ⟨place, -, heq⟩ := upToFrom_whole (fun c hc => hstop c (List.mem_append_left _ hc))
    (fun hmem => hlf (List.mem_append_left _ hmem)) hinit position ('\\' :: '\n' :: r)
  have hslash : stop '\\' = false := hstop _ List.mem_concat_self
  refine ⟨(place.onto ('\n' :: r)).onto r, Position.onto_beginsLine rfl, ?_⟩
  rw [List.append_assoc, List.singleton_append, heq, List.dropLast_concat]
  simp [upToFrom, hslash]

theorem upToFrom_append {d : Char} (ht : Unbroken stop t) (hd : stop d = true)
    (hfits : position.Fits (t ++ d :: r)) :
    ∃ place : Position, upToFrom stop position (t ++ d :: r) = (t, ⟨place, d :: r⟩) ∧
      place.Fits (d :: r) := by
  obtain ⟨place, hplace, heq⟩ := upToFrom_whole ht.not_stop ht.not_lf
    (continues_eq_false ht.last_ne) position (d :: r)
  refine ⟨place, ?_, hplace hfits⟩
  rw [heq, upToFrom_stop hd, List.append_nil]

theorem skipFrom_of_not_blank {c : Char} (hc : isBlank c = false) (position : Position) (t : Text) :
    skipFrom position (c :: t) = ⟨position, c :: t⟩ := by
  have hlf : c ≠ '\n' := by rintro rfl; cases hc
  have hcr : c ≠ '\r' := by rintro rfl; cases hc
  cases t <;> simp [skipFrom, hlf, hcr, hc]

def NotIndented (t : Text) : Prop := ∀ c ∈ t.head?, c ≠ ' ' ∧ c ≠ '\t'

theorem notIndented_nil : NotIndented [] := fun _ hc => by cases hc

theorem skipFrom_lf (h : NotIndented r) (position : Position) :
    skipFrom position ('\n' :: r) = skipFrom (position.onto r) r := by
  cases r with
  | nil => rfl
  | cons d r =>
      have hd := h d rfl
      simp [skipFrom, hd]

theorem itemsFrom_succ {rounds : Nat} {key : Text} {c : Char} {items : List Item} {next : Text}
    {reader : Reader} (h : round key c ⟨position, c :: t⟩ = .more items next reader) :
    itemsFrom (rounds + 1) key ⟨position, c :: t⟩ =
      (itemsFrom rounds next reader).map (items ++ ·) := by
  simp [itemsFrom, h]

theorem itemsFrom_silent {rounds : Nat} {key : Text} {c : Char} {next : Text} {reader : Reader}
    (h : round key c ⟨position, c :: t⟩ = .more [] next reader) :
    itemsFrom (rounds + 1) key ⟨position, c :: t⟩ = itemsFrom rounds next reader := by
  rw [itemsFrom_succ h]
  cases itemsFrom rounds next reader <;> rfl

end Reader

end GuidAtlas.Lookup
