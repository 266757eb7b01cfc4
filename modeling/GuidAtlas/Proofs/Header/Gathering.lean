import GuidAtlas.Proofs.Header.Arguments
import GuidAtlas.Proofs.Header.Layout

/-!
Reading tokens that stand on several lines. A reading takes the lines up to the token that completes
it, and nothing is read from a semicolon that is left below.
-/

namespace GuidAtlas.Header

open Text

variable {first closed t : Text} {tokens spelled later body after : List Text}
  {fillers below : List Text} {line : Text} {complete : Text → Bool} {allowBraces : Bool}
  {window : Nat} {projected : Bool} {above : List Text}

/-- Behind `first`, what spells a part of the tokens is complete as soon as the body is there. -/
def CompletesAt (complete : Text → Bool) (first : Text) (body after : List Text) : Prop :=
  ∀ spelled t, spelled <+: body ++ after → Spells spelled t →
    (complete (first ++ t) = true ↔ body <+: spelled)

theorem gatherFrom_append (hinvalid : ∀ filler ∈ fillers, isValid filler allowBraces = false)
    (hlength : fillers.length < window) (hvalid : isValid line allowBraces = true) (t : Text)
    (below : List Text) :
    gatherFrom complete allowBraces t window (fillers ++ line :: below) =
      ⟨(gather complete allowBraces (t ++ line) below).value,
        (gather complete allowBraces (t ++ line) below).taken + (fillers.length + 1)⟩ := by
  induction fillers generalizing window with
  | nil =>
      cases window with
      | zero => cases hlength
      | succ window =>
          by_cases hdone : complete (t ++ line) = true <;>
            simp [gatherFrom, gather, hvalid, hdone, Reading.below]
  | cons filler fillers ih =>
      obtain ⟨hfiller, hfillers⟩ := List.forall_mem_cons.1 hinvalid
      cases window with
      | zero => cases hlength
      | succ window =>
          rw [List.cons_append, gatherFrom, hfiller, ih hfillers (Nat.lt_of_succ_lt_succ hlength)]
          rfl

/-- The lines that spell the body are gathered, whatever stands between them. -/
theorem exists_gather (hcomplete : CompletesAt complete first body after)
    (hspells : Spells spelled closed) (hsplit : spelled ++ later = body ++ after)
    (hlined : Lined allowBraces later below) :
    ∃ t extra rest taken, gather complete allowBraces (first ++ closed) below =
        ⟨some (first ++ t), taken⟩ ∧ Spells (body ++ extra) t ∧ extra ++ rest = after ∧
      Lined allowBraces rest (below.drop taken) := by
  -- On the lines below, with the text gathered so far in `closed`.
  induction hlined generalizing spelled closed with
  | nil =>
      rw [List.append_nil] at hsplit
      have hdone : complete (first ++ closed) = true :=
        (hcomplete spelled closed (hsplit ▸ List.prefix_rfl) hspells).2
          (hsplit ▸ List.prefix_append body after)
      refine ⟨closed, after, [], 0, by rw [gather, if_pos hdone], hsplit ▸ hspells, ?_, .nil⟩
      exact List.append_nil after
  | @cons fillers token line now later below hinvalid hlength hline hvalid hlined ih =>
      have hspelled := hcomplete spelled closed (hsplit ▸ List.prefix_append spelled _) hspells
      by_cases hdone : complete (first ++ closed) = true
      case pos =>
        obtain ⟨extra, rfl⟩ := hspelled.1 hdone
        rw [List.append_assoc, List.append_right_inj] at hsplit
        exact ⟨closed, extra, token :: now ++ later, 0, by rw [gather, if_pos hdone], hspells,
          hsplit, .cons hinvalid hlength hline hvalid hlined⟩
      case neg =>
        have hmore : Spells (spelled ++ token :: now) (closed ++ (token ++ line)) :=
          hspells.append (hline.cons_self token)
        obtain ⟨t, extra, rest, taken, hgather, ht, hextra, hrest⟩ :=
          ih hmore (by rw [List.append_assoc, hsplit])
        rw [← List.append_assoc] at hgather
        refine ⟨t, extra, rest, taken + (fillers.length + 1), ?_, ht, hextra, ?_⟩
        · rw [gather, if_neg hdone, gatherFrom_append (fun filler h => hinvalid filler h _) hlength
            hvalid, hgather]
        · have hskip : fillers ++ (token ++ line) :: below =
              (fillers ++ [token ++ line]) ++ below := by simp
          have hlengths : (fillers ++ [token ++ line]).length = fillers.length + 1 := by simp
          rwa [hskip, Nat.add_comm, ← List.drop_drop, List.drop_left' hlengths]

/-- It is enough to know how much of the tokens is there. -/
theorem CompletesAt.of_concat {last : Text}
    (hblind : ∀ {spelled t}, spelled <+: body ++ [last] ++ after → Spells spelled t →
      complete (first ++ t) = complete (first ++ spelled.flatten))
    (hbefore : ∀ spelled, spelled <+: body → complete (first ++ spelled.flatten) = false)
    (hbehind : ∀ spelled, body ++ [last] <+: spelled → complete (first ++ spelled.flatten) = true) :
    CompletesAt complete first (body ++ [last]) after := by
  intro spelled t hspelled hspells
  rw [hblind hspelled hspells]
  constructor
  · intro hdone
    rcases List.prefix_or_prefix_of_prefix hspelled (List.prefix_append _ after) with hless | hmore
    · rcases List.prefix_concat_iff.1 hless with rfl | hless
      · exact List.prefix_rfl
      · rw [hbefore spelled hless] at hdone
        cases hdone
    · exact hmore
  · exact hbehind spelled

theorem argumentsOf?_spelled {part : Text} {parts extra : List Text} (hfirst : '(' ∉ first)
    (hspells : Spells (['('] :: ((part :: parts).intersperse [','] ++ [[')']]) ++ extra) t)
    (hparts : ∀ other ∈ part :: parts, IsIdentifier other) :
    argumentsOf? (first ++ t) = some (part :: parts) := by
  have hsolid : ∀ other ∈ part :: parts, IsSolid other ∧ ',' ∉ other :=
    fun other hother => ⟨(hparts other hother).isSolid, (hparts other hother).not_mem (by decide)⟩
  cases hspells with
  | @cons blanks _ inside _ hblanks hinside =>
      rw [List.append_eq, List.append_assoc] at hinside
      obtain ⟨members, closing, rfl, hmembers, hclosing⟩ := hinside.exists_append
      cases hclosing with
      | @cons trail _ tail _ htrail htail =>
          have hinner : ')' ∉ members ++ trail := by
            have hmembers : ')' ∉ members := hmembers.not_mem (by decide) fun token htoken => by
              rcases mem_of_mem_intersperse htoken with rfl | htoken
              · decide
              · exact (hparts token htoken).not_mem (by decide)
            have htrail : ')' ∉ trail := not_mem_of_blanks htrail (by decide)
            simp [hmembers, htrail]
          have hhead : '(' ∉ first ++ blanks := by
            have hblanks : '(' ∉ blanks := not_mem_of_blanks hblanks (by decide)
            simp [hfirst, hblanks]
          have htext : first ++ (blanks ++ (['('] ++ (members ++ (trail ++ ([')'] ++ tail))))) =
              first ++ blanks ++ '(' :: (members ++ trail ++ ')' :: tail) := by simp
          rw [htext, argumentsOf?_append hhead hinner,
            hmembers.map_trim_splitAt (by decide) htrail hsolid]

theorem exists_contentsFrom_append (h : ∀ filler ∈ fillers, isValid filler false = false)
    (above below : List Text) : ∃ passed, contentsFrom projected above 0 (fillers ++ below) =
      contentsFrom projected passed 0 below := by
  induction fillers generalizing above with
  | nil => exact ⟨above, rfl⟩
  | cons filler fillers ih =>
      obtain ⟨hfiller, hfillers⟩ := List.forall_mem_cons.1 h
      obtain ⟨passed, hpassed⟩ := ih hfillers (filler :: above)
      exact ⟨passed, by rw [List.cons_append, contentsFrom, hfiller, ← hpassed]; rfl⟩

theorem exists_contentsFrom_drop (skip : Nat) (above below : List Text) :
    ∃ passed, contentsFrom projected above skip below =
      contentsFrom projected passed 0 (below.drop skip) := by
  induction skip generalizing above below with
  | zero => exact ⟨above, rfl⟩
  | succ skip ih =>
      cases below with
      | nil => exact ⟨above, rfl⟩
      | cons line below =>
          obtain ⟨passed, hpassed⟩ := ih (line :: above) below
          exact ⟨passed, by rw [contentsFrom, hpassed, List.drop_succ_cons]⟩

/-- Nothing is read from a semicolon that is left, nor from the lines in front of it. -/
theorem contentsFrom_semicolon {rest : List Text} (hrest : rest <:+ [[';']])
    (hlined : Lined allowBraces rest below) (above : List Text) :
    contentsFrom projected above 0 below = ⟨[], []⟩ := by
  cases hlined with
  | nil => rfl
  | @cons fillers token closed now later below hinvalid _ hspells _ hlined =>
      have htoken : token = [';'] ∧ now ++ later = [] := by
        rcases List.suffix_cons_iff.1 hrest with heq | hnil
        · exact List.cons_eq_cons.1 heq
        · cases List.suffix_nil.1 hnil
      obtain ⟨rfl, hnone⟩ := htoken
      obtain ⟨rfl, rfl⟩ := List.append_eq_nil_iff.1 hnone
      cases hspells
      cases hlined
      obtain ⟨passed, hpassed⟩ :=
        exists_contentsFrom_append (fun filler h => hinvalid filler h false) above [[';']]
      exact hpassed.trans rfl

end GuidAtlas.Header
