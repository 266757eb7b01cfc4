import GuidAtlas.Lookup.Registry
import GuidAtlas.Proofs.Directory
import Mathlib.Data.List.Dedup
import Mathlib.Data.List.Induction

/-!
The index over the entries of a database: the first entry of a key counts, and there is one key for
each group of entries that are equal in normal form. In a registry it is the last entry that counts.
-/

namespace GuidAtlas.Lookup

open Text

variable {entries : List (Text × Text)}

def addFirst (names : Directory Text) (entry : Text × Text) : Directory Text :=
  let key := Guid.normalizeKey entry.1
  match names.get? key with
  | some _ => names
  | none => names.insert key (trim entry.2)

theorem indexFirst_eq_foldl (entries : List (Text × Text)) :
    indexFirst entries = entries.foldl addFirst .empty := rfl

theorem get?_addFirst (names : Directory Text) (entry : Text × Text) (key : Text) :
    (addFirst names entry).get? key =
      (names.get? key).or
        (if Guid.normalizeKey entry.1 = key then some (trim entry.2) else none) := by
  rw [addFirst]
  cases hget : names.get? (Guid.normalizeKey entry.1) with
  | some name =>
      by_cases hkey : Guid.normalizeKey entry.1 = key
      case pos => simp [← hkey, hget]
      case neg => simp [hkey]
  | none =>
      by_cases hkey : Guid.normalizeKey entry.1 = key
      case pos => simp [← hkey, hget]
      case neg => simp [hkey, Ne.symm hkey]

theorem get?_foldl_addFirst (names : Directory Text) (key : Text) :
    (entries.foldl addFirst names).get? key =
      (names.get? key).or
        ((entries.find? (Guid.normalizeKey ·.1 = key)).map (trim ·.2)) := by
  induction entries generalizing names with
  | nil => simp
  | cons entry entries ih =>
      rw [List.foldl_cons, ih, get?_addFirst, Option.or_assoc, List.find?_cons]
      by_cases hkey : Guid.normalizeKey entry.1 = key <;> simp [hkey]

theorem get?_indexFirst (entries : List (Text × Text)) (key : Text) :
    (indexFirst entries).get? key =
      (entries.find? (Guid.normalizeKey ·.1 = key)).map (trim ·.2) := by
  rw [indexFirst_eq_foldl, get?_foldl_addFirst, Directory.get?_empty, Option.none_or]

theorem size_indexFirst (entries : List (Text × Text)) :
    (indexFirst entries).size = (entries.map (Guid.normalizeKey ·.1)).dedup.length := by
  refine Directory.size_eq_length _ (List.nodup_dedup _) fun key => ?_
  rw [get?_indexFirst, Option.isSome_map, List.find?_isSome]
  simp

theorem get?_ofEntries (entries : List (Text × Text)) (key : Text) :
    (Registry.ofEntries entries).names.get? key =
      (entries.reverse.find? (Guid.normalizeKey ·.1 = key)).map (·.2) := by
  rw [Registry.ofEntries]
  induction entries using List.reverseRecOn with
  | nil => rfl
  | append_singleton entries entry ih =>
      rw [List.foldl_concat, Directory.get?_insert, ih, List.reverse_append, List.reverse_singleton,
        List.singleton_append, List.find?_cons]
      by_cases hkey : Guid.normalizeKey entry.1 = key
      · simp [hkey]
      · simp [hkey, Ne.symm hkey]

end GuidAtlas.Lookup
