/-!
Text as a list of characters, with the searching, cutting and joining operations of the library.
All of them are structural, so they compute in proofs as well as in the program.
-/

namespace GuidAtlas

abbrev Text := List Char

instance : Coe String Text := ⟨String.toList⟩

namespace Text

def afterStart? : (start t : Text) → Option Text
  | [], t => some t
  | _ :: _, [] => none
  | a :: start, c :: t => if a = c then afterStart? start t else none

def startsWith (t start : Text) : Bool := start.isPrefixOf t

def endsWith (t tail : Text) : Bool := tail.isSuffixOf t

/-- Cuts a text at the first occurrence of `sep`, which belongs to neither part. -/
def cut? (sep : Text) : Text → Option (Text × Text)
  | [] => if sep.isEmpty then some ([], []) else none
  | c :: t =>
    match afterStart? sep (c :: t) with
    | some rest => some ([], rest)
    | none => (cut? sep t).map fun (before, rest) => (c :: before, rest)

def cutLast? (sep : Text) : Text → Option (Text × Text)
  | [] => if sep.isEmpty then some ([], []) else none
  | c :: t =>
    match cutLast? sep t with
    | some (before, rest) => some (c :: before, rest)
    | none => (afterStart? sep (c :: t)).map fun rest => ([], rest)

def contains (t part : Text) : Bool := (cut? part t).isSome

/-- The pieces between the characters equal to `sep`, at least one. -/
def splitAt (sep : Char) : Text → List Text
  | [] => [[]]
  | c :: t =>
    if c = sep then [] :: splitAt sep t
    else match splitAt sep t with
      | [] => [[c]]
      | piece :: pieces => (c :: piece) :: pieces

/-- Replacement with `skip` characters of the occurrence at hand still to be passed over. -/
def replaceFrom (old new : Text) : (skip : Nat) → Text → Text
  | _, [] => []
  | skip + 1, _ :: t => replaceFrom old new skip t
  | 0, c :: t =>
    if old.isPrefixOf (c :: t) then new ++ replaceFrom old new (old.length - 1) t
    else c :: replaceFrom old new 0 t

/-- Replaces the occurrences of a nonempty `old` that a search from the left meets. -/
def replace (old new t : Text) : Text := replaceFrom old new 0 t

/-- The pieces between the occurrences of a nonempty `sep`, with `skip` characters still to be
passed over. -/
def piecesFrom (sep : Text) : (skip : Nat) → Text → List Text
  | _, [] => [[]]
  | skip + 1, _ :: t => piecesFrom sep skip t
  | 0, c :: t =>
    if sep.isPrefixOf (c :: t) then [] :: piecesFrom sep (sep.length - 1) t
    else match piecesFrom sep 0 t with
      | [] => [[c]]
      | piece :: pieces => (c :: piece) :: pieces

def pieces (sep t : Text) : List Text := piecesFrom sep 0 t

def replaceChar (old : Char) (new : Text) (t : Text) : Text :=
  t.flatMap fun c => if c = old then new else [c]

def trimStartOf (p : Char → Bool) (t : Text) : Text := t.dropWhile p

def trimEndOf (p : Char → Bool) (t : Text) : Text := (t.reverse.dropWhile p).reverse

def trimOf (p : Char → Bool) (t : Text) : Text := trimEndOf p (trimStartOf p t)

/-- The lines of a text without their ends, a line feed or a carriage return and a line feed. -/
def lines : Text → List Text
  | [] => []
  | '\n' :: t => [] :: lines t
  | '\r' :: '\n' :: t => [] :: lines t
  | c :: t =>
    match lines t with
    | [] => [[c]]
    | line :: rest => (c :: line) :: rest

def join (sep : Text) (parts : List Text) : Text := List.intercalate sep parts

def unlines (parts : List Text) : Text := parts.flatMap (· ++ ['\n'])

/-- Digits above nine are capital letters. -/
def digit (n : Nat) : Char :=
  if n < 10 then Char.ofNat (48 + n) else Char.ofNat (55 + n)

def digitsBelow (base : Nat) : (fuel : Nat) → Nat → Text
  | 0, _ => []
  | fuel + 1, n =>
    if n < base then [digit n] else digitsBelow base fuel (n / base) ++ [digit (n % base)]

def decimal (n : Nat) : Text := digitsBelow 10 (n + 1) n

def decimalOfInt : Int → Text
  | .ofNat n => decimal n
  | .negSucc n => '-' :: decimal (n + 1)

def hexFixed : (width : Nat) → Nat → Text
  | 0, _ => []
  | width + 1, n => hexFixed width (n / 16) ++ [digit (n % 16)]

def lowerHex (n : Nat) : Text := (digitsBelow 16 (n + 1) n).map Char.toLower

def digitValue? (c : Char) : Option Nat :=
  if '0' ≤ c ∧ c ≤ '9' then some (c.toNat - 48)
  else if 'a' ≤ c ∧ c ≤ 'f' then some (c.toNat - 87)
  else if 'A' ≤ c ∧ c ≤ 'F' then some (c.toNat - 55)
  else none

/-- The number that nonempty digits of a base up to sixteen spell. -/
def number? (base : Nat) (digits : Text) : Option Nat :=
  if digits.isEmpty then none
  else digits.foldlM (fun n c => do
    let d ← digitValue? c
    if d < base then some (n * base + d) else none) 0

/-- `number?` after at most one plus sign. -/
def signedNumber? (base : Nat) : Text → Option Nat
  | '+' :: digits => number? base digits
  | digits => number? base digits

/-- The text from a byte position of its UTF-8 form on, nothing if that lies inside a character. -/
def dropBytes : Nat → Text → Text
  | 0, t => t
  | _ + 1, [] => []
  | n + 1, c :: t => if c.utf8Size ≤ n + 1 then dropBytes (n + 1 - c.utf8Size) t else []

def utf8Length (t : Text) : Nat := t.foldr (fun c n => c.utf8Size + n) 0

end Text

end GuidAtlas
