import GuidAtlas.Directory
import Mathlib.Algebra.GroupWithZero.Nat
import Mathlib.Data.List.Nodup

/-!
A directory behaves as a finite map: an insertion changes the value of one key, and its entries are
exactly the keys with their values.
-/

namespace GuidAtlas.Directory

variable {α : Type}

theorem lookup_cons_if (key k : Text) (v : α) (rest : List (Text × α)) :
    ((k, v) :: rest).lookup key = if key = k then some v else rest.lookup key := by
  by_cases h : key = k
  · simp [h]
  · rw [List.lookup_cons, beq_false_of_ne h, if_neg h]

theorem lookup_insertInto (key other : Text) (value : α) (entries : List (Text × α)) :
    (insertInto key value entries).lookup other =
      if other = key then some value else entries.lookup other := by
  induction entries with
  | nil => simp [insertInto, lookup_cons_if]
  | cons head rest ih =>
      obtain ⟨k, v⟩ := head
      simp only [insertInto]
      split
      · rw [lookup_cons_if]
      · split
        case isTrue heq =>
          subst heq
          by_cases h : other = key <;> simp [lookup_cons_if, h]
        case isFalse hne =>
          rw [lookup_cons_if, lookup_cons_if, ih]
          by_cases h : other = k
          · subst h
            simp [Ne.symm hne]
          · simp [h]

@[simp] theorem get?_empty (key : Text) : (empty : Directory α).get? key = none := rfl

@[simp] theorem get?_insert (directory : Directory α) (key other : Text) (value : α) :
    (directory.insert key value).get? other =
      if other = key then some value else directory.get? other :=
  lookup_insertInto key other value directory.entries

theorem nodup_keys (directory : Directory α) : (directory.entries.map Prod.fst).Nodup :=
  directory.sorted.map _ fun _ _ hlt heq => List.lt_irrefl _ (heq ▸ hlt)

theorem mem_iff_lookup {entries : List (Text × α)} (hnodup : (entries.map Prod.fst).Nodup)
    (key : Text) (value : α) : (key, value) ∈ entries ↔ entries.lookup key = some value := by
  induction entries with
  | nil => simp
  | cons head rest ih =>
      obtain ⟨k, v⟩ := head
      simp only [List.map_cons, List.nodup_cons, List.mem_map, not_exists, not_and] at hnodup
      by_cases h : key = k
      · subst h
        have hrest : (key, value) ∉ rest := fun hmem => hnodup.1 _ hmem rfl
        simp [hrest, eq_comm]
      · simp [lookup_cons_if, h, ih hnodup.2]

theorem mem_entries_iff (directory : Directory α) (key : Text) (value : α) :
    (key, value) ∈ directory.entries ↔ directory.get? key = some value :=
  mem_iff_lookup directory.nodup_keys key value

theorem mem_keys_iff (directory : Directory α) (key : Text) :
    key ∈ directory.entries.map Prod.fst ↔ (directory.get? key).isSome := by
  simp [Option.isSome_iff_exists, ← mem_entries_iff]

theorem eq_of_get? {first second : Directory α}
    (h : ∀ key, first.get? key = second.get? key) : first = second := by
  have hmem : ∀ entry, entry ∈ first.entries ↔ entry ∈ second.entries := fun (key, value) => by
    rw [mem_entries_iff, mem_entries_iff, h]
  have hperm := (List.perm_ext_iff_of_nodup first.nodup_keys.of_map second.nodup_keys.of_map).2 hmem
  have hentries := hperm.eq_of_pairwise
    (fun _ _ _ _ hlt hgt => absurd (List.lt_trans hlt hgt) (List.lt_irrefl _))
    first.sorted second.sorted
  cases first
  cases second
  simpa using hentries

theorem insert_eq_self {directory : Directory α} {key : Text} {value : α}
    (h : directory.get? key = some value) : directory.insert key value = directory := by
  refine eq_of_get? fun other => ?_
  rw [get?_insert]
  split
  case isTrue heq => rw [heq, h]
  case isFalse => rfl

theorem size_eq_length (directory : Directory α) {keys : List Text} (hnodup : keys.Nodup)
    (hkeys : ∀ key, key ∈ keys ↔ (directory.get? key).isSome) : directory.size = keys.length := by
  rw [size, ← List.length_map (f := Prod.fst)]
  refine ((List.perm_ext_iff_of_nodup directory.nodup_keys hnodup).2 fun key => ?_).length_eq
  rw [mem_keys_iff, hkeys]

/-- A key has its place behind the smaller keys and before the greater ones. -/
theorem exists_split {entries : List (Text × α)} (h : entries.Pairwise (·.1 < ·.1)) (key : Text) :
    ∃ before after, (∀ entry ∈ before, entry.1 < key) ∧ (∀ entry ∈ after, key < entry.1) ∧
      entries = before ++ (entries.lookup key).toList.map (Prod.mk key) ++ after ∧
      ∀ value, insertInto key value entries = before ++ (key, value) :: after := by
  induction entries with
  | nil => exact ⟨[], [], by simp, by simp, rfl, fun _ => rfl⟩
  | cons head rest ih =>
      obtain ⟨k, v⟩ := head
      obtain ⟨hhead, hrest⟩ := List.pairwise_cons.1 h
      by_cases hlt : key < k
      case pos =>
        -- Behind a key that is greater there are only greater ones.
        have hafter : ∀ entry ∈ (k, v) :: rest, key < entry.1 :=
          List.forall_mem_cons.2 ⟨hlt, fun entry hentry => List.lt_trans hlt (hhead entry hentry)⟩
        have hnone : ((k, v) :: rest).lookup key = none := by
          rw [List.lookup_eq_none_iff]
          intro entry hentry
          simpa using fun heq : key = entry.1 => List.lt_irrefl _ (heq ▸ hafter entry hentry)
        refine ⟨[], (k, v) :: rest, by simp, hafter, by simp [hnone], fun value => ?_⟩
        simp [insertInto, hlt]
      case neg =>
        by_cases heq : key = k
        case pos =>
          subst heq
          exact ⟨[], rest, by simp, hhead, by simp, fun value => by simp [insertInto]⟩
        case neg =>
          have hkey : k < key :=
            (List.le_iff_lt_or_eq.1 (List.not_lt.1 hlt)).resolve_right (Ne.symm heq)
          obtain ⟨before, after, hbefore, hafter, hsplit, hinsert⟩ := ih hrest
          refine ⟨(k, v) :: before, after, List.forall_mem_cons.2 ⟨hkey, hbefore⟩, hafter, ?_,
            fun value => ?_⟩
          · rw [lookup_cons_if, if_neg heq, List.cons_append, List.cons_append, ← hsplit]
          · simp [insertInto, hlt, heq, hinsert]

theorem sum_insertInto {entries : List (Text × α)} (h : entries.Pairwise (·.1 < ·.1)) (key : Text)
    (value : α) (f : α → Nat) :
    ((insertInto key value entries).map (f ·.2)).sum + ((entries.lookup key).map f).getD 0 =
      (entries.map (f ·.2)).sum + f value := by
  obtain ⟨before, after, -, -, hsplit, hinsert⟩ := exists_split h key
  have hold : (((entries.lookup key).toList.map (Prod.mk key)).map (f ·.2)).sum =
      ((entries.lookup key).map f).getD 0 := by
    cases entries.lookup key <;> simp
  have hsum := congrArg (fun entries => (entries.map (f ·.2)).sum) hsplit
  simp only [List.map_append, List.sum_append, hold] at hsum
  rw [hinsert, hsum]
  simp only [List.map_append, List.map_cons, List.sum_append, List.sum_cons]
  omega

theorem sum_insert (directory : Directory α) (key : Text) (value : α) (f : α → Nat) :
    ((directory.insert key value).entries.map (f ·.2)).sum + ((directory.get? key).map f).getD 0 =
      (directory.entries.map (f ·.2)).sum + f value :=
  sum_insertInto directory.sorted key value f

end GuidAtlas.Directory
