import GuidAtlas.Proofs.Text.Digits
import GuidAtlas.Text.Quoted

/-!
Quoted text read back. Whatever a quoted text shows as it is and whatever it writes as a number, its
reader finds the text again and stops at the closing quote.
-/

namespace GuidAtlas.Text

def escaped? (c : Char) : Option Char :=
  if c = '0' then some '\x00'
  else if c = 't' then some '\t'
  else if c = 'r' then some '\r'
  else if c = 'n' then some '\n'
  else if c = '"' then some '"'
  else if c = '\\' then some '\\'
  else none

def numbered? (digits : Text) : Option Char :=
  if digits.length ≤ 6 then do
    let n ← number? 16 digits
    if n.isValidChar then some (Char.ofNat n) else none
  else none

/-- Where the reader of a quoted text stands. -/
inductive QuotedState where
  | plain
  | escape
  | opening
  | digits (seen : Text)

def prepend (c : Char) : Text × Text → Text × Text
  | (t, rest) => (c :: t, rest)

/-- Reads up to the closing quote: the text that is quoted, and what follows the quote. -/
def unquoteFrom : QuotedState → Text → Option (Text × Text)
  | _, [] => none
  | .plain, c :: t =>
    if c = '"' then some ([], t)
    else if c = '\\' then unquoteFrom .escape t
    else (unquoteFrom .plain t).map (prepend c)
  | .escape, c :: t =>
    if c = 'u' then unquoteFrom .opening t
    else (escaped? c).bind fun d => (unquoteFrom .plain t).map (prepend d)
  | .opening, c :: t => if c = '\x7b' then unquoteFrom (.digits []) t else none
  | .digits seen, c :: t =>
    if c = '\x7d' then (numbered? seen).bind fun d => (unquoteFrom .plain t).map (prepend d)
    else unquoteFrom (.digits (seen ++ [c])) t

def unquote? : Text → Option (Text × Text)
  | '"' :: t => unquoteFrom .plain t
  | _ => none

theorem numbered?_lowerHex (c : Char) : numbered? (lowerHex c.toNat) = some c := by
  have hvalid : c.toNat.isValidChar := c.valid
  have hlt : c.toNat < 16 ^ (5 + 1) := by
    rcases hvalid with h | h <;> omega
  have hlength : (lowerHex c.toNat).length ≤ 6 := by
    rw [lowerHex, List.length_map]
    exact length_digitsBelow_le hlt
  rw [numbered?, if_pos hlength, number?_lowerHex]
  simp [hvalid, Char.ofNat_toNat]

theorem brace_not_mem_lowerHex (n : Nat) : '\x7d' ∉ lowerHex n := fun h => by
  obtain ⟨d, -, hd⟩ := (isDigits_lowerHex n).digit _ h
  cases hd

theorem unquoteFrom_digits {digits : Text} (h : '\x7d' ∉ digits) (seen rest : Text) :
    unquoteFrom (.digits seen) (digits ++ '\x7d' :: rest) =
      (numbered? (seen ++ digits)).bind fun d => (unquoteFrom .plain rest).map (prepend d) := by
  induction digits generalizing seen with
  | nil => simp [unquoteFrom]
  | cons c digits ih =>
      rw [List.mem_cons, not_or] at h
      rw [List.cons_append, unquoteFrom, if_neg (Ne.symm h.1), ih h.2, List.append_assoc,
        List.singleton_append]

/-- A quoted character is read in front of whatever follows it. -/
theorem unquoteFrom_quotedCharBy (shows : Char → Bool) (c : Char) (rest : Text) :
    unquoteFrom .plain (quotedCharBy shows c ++ rest) =
      (unquoteFrom .plain rest).map (prepend c) := by
  unfold quotedCharBy
  split_ifs with hnul htab hreturn hfeed hquote hslash hshown
  · rw [hnul]; rfl
  · rw [htab]; rfl
  · rw [hreturn]; rfl
  · rw [hfeed]; rfl
  · rw [hquote]; rfl
  · rw [hslash]; rfl
  · rw [List.singleton_append, unquoteFrom, if_neg hquote, if_neg hslash]
  · have hdigits := unquoteFrom_digits (brace_not_mem_lowerHex c.toNat) [] rest
    rw [List.nil_append, numbered?_lowerHex, Option.bind_some] at hdigits
    rw [List.append_assoc, List.append_assoc]
    exact hdigits

/-- A quoted text is read in front of whatever follows it. -/
theorem unquote?_quotedBy (shows : Char → Bool) (t rest : Text) :
    unquote? (quotedBy shows t ++ rest) = some (t, rest) := by
  have hbody : unquoteFrom .plain (t.flatMap (quotedCharBy shows) ++ '"' :: rest) =
      some (t, rest) := by
    induction t with
    | nil => rfl
    | cons c t ih =>
        rw [List.flatMap_cons, List.append_assoc, unquoteFrom_quotedCharBy, ih]
        rfl
  rw [quotedBy, List.cons_append, List.cons_append, List.append_assoc]
  exact hbody

end GuidAtlas.Text
