import GuidAtlas.Text.Basic

/-!
Finite maps with text keys, kept in ascending order of the keys.
-/

namespace GuidAtlas

namespace Directory

def insertInto {α : Type} (key : Text) (value : α) : List (Text × α) → List (Text × α)
  | [] => [(key, value)]
  | (k, v) :: rest =>
    if key < k then (key, value) :: (k, v) :: rest
    else if key = k then (key, value) :: rest
    else (k, v) :: insertInto key value rest

theorem mem_insertInto {α : Type} {key : Text} {value : α} {entry : Text × α}
    {entries : List (Text × α)} (h : entry ∈ insertInto key value entries) :
    entry = (key, value) ∨ entry ∈ entries := by
  induction entries with
  | nil => simpa [insertInto] using h
  | cons head rest ih =>
    obtain ⟨k, v⟩ := head
    simp only [insertInto] at h
    split at h
    · simpa using h
    · split at h
      · rcases List.mem_cons.1 h with h | h <;> simp [h]
      · rcases List.mem_cons.1 h with h | h
        · simp [h]
        · rcases ih h with h | h <;> simp [h]

theorem pairwise_insertInto {α : Type} (key : Text) (value : α) {entries : List (Text × α)}
    (h : entries.Pairwise (·.1 < ·.1)) : (insertInto key value entries).Pairwise (·.1 < ·.1) := by
  induction entries with
  | nil => simp [insertInto]
  | cons head rest ih =>
    obtain ⟨k, v⟩ := head
    obtain ⟨hk, hrest⟩ := List.pairwise_cons.1 h
    simp only [insertInto]
    split
    case isTrue hlt =>
      refine List.pairwise_cons.2 ⟨fun entry hentry => ?_, h⟩
      rcases List.mem_cons.1 hentry with rfl | hentry
      · exact hlt
      · exact List.lt_trans hlt (hk entry hentry)
    case isFalse hnlt =>
      split
      case isTrue heq => exact List.pairwise_cons.2 ⟨by subst heq; exact hk, hrest⟩
      case isFalse hne =>
        refine List.pairwise_cons.2 ⟨fun entry hentry => ?_, ih hrest⟩
        rcases mem_insertInto hentry with rfl | hentry
        · rcases List.le_iff_lt_or_eq.1 (List.not_lt.1 hnlt) with hlt | heq
          · exact hlt
          · exact absurd heq.symm hne
        · exact hk entry hentry

end Directory

structure Directory (α : Type) where
  entries : List (Text × α)
  sorted : entries.Pairwise (·.1 < ·.1)

namespace Directory

def empty {α : Type} : Directory α := ⟨[], .nil⟩

def get? {α : Type} (directory : Directory α) (key : Text) : Option α :=
  directory.entries.lookup key

def insert {α : Type} (directory : Directory α) (key : Text) (value : α) : Directory α :=
  ⟨insertInto key value directory.entries, pairwise_insertInto key value directory.sorted⟩

def size {α : Type} (directory : Directory α) : Nat := directory.entries.length

end Directory

end GuidAtlas
