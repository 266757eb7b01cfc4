import GuidAtlas.Proofs.Except
import GuidAtlas.Proofs.Text.Search
import GuidAtlas.Storage.Tree

/-!
Writing files into directories. A file whose name no link bears is written under that name, where it
can be read from then on, and every file of another name stays what it was.
-/

namespace GuidAtlas.Storage

open Text

/-! Paths of files in a directory. -/

/-- A text that is one step of a path, to a file in whatever directory it is looked for. -/
structure IsFileName (name : Text) : Prop where
  ne_nil : name ≠ []
  ne_here : name ≠ ['.']
  ne_above : name ≠ ['.', '.']
  no_slash : '/' ∉ name

namespace Path

variable {name : Text}

/-- The steps to a directory, with a slash at the end or without. -/
def stepsTo (directory : Path) : List Text := (splitAt '/' directory).filter (!·.isEmpty)

theorem isAbsolute_of_not_mem (h : '/' ∉ name) : isAbsolute name = false := by
  rw [isAbsolute, Bool.eq_false_iff, Ne, startsWith_iff]
  exact fun hstart => h (hstart.subset List.mem_cons_self)

theorem endsWith_slash_iff {path : Path} :
    endsWith path "/" = true ↔ path.getLast? = some '/' := by
  rw [endsWith, List.isSuffixOf_iff_suffix, List.getLast?_eq_some_iff]
  exact ⟨fun ⟨outer, h⟩ => ⟨outer, h.symm⟩, fun ⟨outer, h⟩ => ⟨outer, h.symm⟩⟩

/-- A name stands behind the slash at the end of its directory, which is added if it is missing. -/
theorem join_eq (h : '/' ∉ name) (directory : Path) : directory.join name =
    if directory = [] ∨ directory.getLast? = some '/' then directory ++ name
    else directory ++ '/' :: name := by
  rw [join, isAbsolute_of_not_mem h]
  simp only [Bool.false_or, Bool.or_eq_true, List.isEmpty_iff, endsWith_slash_iff,
    Bool.false_eq_true, if_false]

theorem stepsTo_append_slash (directory : Path) :
    (directory ++ ['/']).stepsTo = directory.stepsTo := by
  simp [stepsTo, splitAt_append_sep, splitAt]

theorem stepsTo_join (h : IsFileName name) (directory : Path) :
    (directory.join name).stepsTo = directory.stepsTo ++ [name] := by
  have hbehind (outer : Path) : (outer ++ '/' :: name).stepsTo = outer.stepsTo ++ [name] := by
    simp [stepsTo, splitAt_append_sep, splitAt_of_not_mem h.no_slash, h.ne_nil]
  rw [join_eq h.no_slash]
  split
  case isTrue hend =>
    rcases hend with rfl | hend
    · simp [stepsTo, splitAt, splitAt_of_not_mem h.no_slash, h.ne_nil]
    · obtain ⟨outer, rfl⟩ := List.getLast?_eq_some_iff.1 hend
      rw [stepsTo_append_slash, ← hbehind, List.append_assoc]
      rfl
  case isFalse => exact hbehind directory

theorem getLast?_join (h : IsFileName name) (directory : Path) :
    (directory.join name).getLast? = name.getLast? := by
  rw [join_eq h.no_slash]
  split
  · exact List.getLast?_append_of_ne_nil _ h.ne_nil
  · rw [← List.singleton_append, ← List.append_assoc, List.getLast?_append_of_ne_nil _ h.ne_nil]

theorem steps_join (h : IsFileName name) (directory : Path) :
    (directory.join name).steps = directory.stepsTo ++ [name] := by
  have hend : endsWith (directory.join name) "/" = false := by
    rw [Bool.eq_false_iff, Ne, endsWith_slash_iff, getLast?_join h]
    exact fun hlast => h.no_slash (List.mem_of_getLast? hlast)
  rw [steps, if_neg (Bool.eq_false_iff.1 hend)]
  exact stepsTo_join h directory

end Path

namespace Tree

variable {tree next : Tree} {place q : Place} {node : Node} {bytes : List UInt8}

/-! What a change of one node keeps. -/

theorem node?_put_self (h : place ≠ []) : (tree.put place node).node? place = some node := by
  rw [node?, if_neg (by simpa using h)]
  exact List.lookup_cons_self

theorem node?_put_of_ne (h : q ≠ place) : (tree.put place node).node? q = tree.node? q := by
  have hfilter (nodes : List (Place × Node)) :
      (nodes.filter (·.1 ≠ place)).lookup q = nodes.lookup q := by
    induction nodes with
    | nil => rfl
    | cons head nodes ih =>
        obtain ⟨other, node⟩ := head
        by_cases hother : other = place
        · rw [List.filter_cons_of_neg (by simpa using hother), ih, List.lookup_cons,
            beq_false_of_ne (hother ▸ h)]
        · rw [List.filter_cons_of_pos (by simpa using hother), List.lookup_cons, List.lookup_cons,
            ih]
  rw [node?, node?, put, List.lookup_cons, beq_false_of_ne h, hfilter]

/-- Directories and links are the same, and files outside of the written places. -/
structure Keeps (written : Place → Prop) (tree next : Tree) : Prop where
  workingDirectory_eq : next.workingDirectory = tree.workingDirectory
  directory {place : Place} :
    tree.node? place = some .directory → next.node? place = some .directory
  link_iff (place : Place) (target : Path) :
    next.node? place = some (.link target) ↔ tree.node? place = some (.link target)
  file {place : Place} {bytes : List UInt8} : tree.node? place = some (.file bytes) →
    ∃ others, next.node? place = some (.file others) ∧ (¬written place → others = bytes)

theorem Keeps.refl (written : Place → Prop) (tree : Tree) : Keeps written tree tree where
  workingDirectory_eq := rfl
  directory h := h
  link_iff _ _ := Iff.rfl
  file h := ⟨_, h, fun _ => rfl⟩

theorem Keeps.trans {written : Place → Prop} {last : Tree} (h : Keeps written tree next)
    (hnext : Keeps written next last) : Keeps written tree last where
  workingDirectory_eq := hnext.workingDirectory_eq.trans h.workingDirectory_eq
  directory hplace := hnext.directory (h.directory hplace)
  link_iff place target := (hnext.link_iff place target).trans (h.link_iff place target)
  file hplace := by
    obtain ⟨others, hothers, heq⟩ := h.file hplace
    obtain ⟨final, hfinal, hlast⟩ := hnext.file hothers
    exact ⟨final, hfinal, fun hout => (hlast hout).trans (heq hout)⟩

theorem Keeps.mono {written more : Place → Prop} (h : Keeps written tree next)
    (hmore : ∀ place, written place → more place) : Keeps more tree next where
  workingDirectory_eq := h.workingDirectory_eq
  directory := h.directory
  link_iff := h.link_iff
  file hplace := by
    obtain ⟨others, hothers, heq⟩ := h.file hplace
    exact ⟨others, hothers, fun hout => heq fun hin => hout (hmore _ hin)⟩

/-- A place that has nothing can be given a file or a directory, and one that has a file other
bytes. -/
theorem keeps_put (hq : q ≠ []) (hlink : ∀ target, node ≠ .link target)
    (hold : tree.node? q = none ∨ ∃ old new, tree.node? q = some (.file old) ∧ node = .file new) :
    Keeps (fun place => place = q ∧ tree.node? q ≠ none) tree (tree.put q node) where
  workingDirectory_eq := rfl
  directory := by
    intro place hplace
    rw [node?_put_of_ne, hplace]
    rintro rfl
    rcases hold with hold | ⟨old, new, hold, -⟩ <;> rw [hold] at hplace <;> cases hplace
  link_iff := by
    intro place target
    by_cases heq : place = q
    · subst heq
      rw [node?_put_self hq]
      rcases hold with hold | ⟨old, new, hold, -⟩ <;> simp [hold, hlink target]
    · rw [node?_put_of_ne heq]
  file := by
    intro place bytes hplace
    by_cases heq : place = q
    · subst heq
      rcases hold with hold | ⟨old, new, -, rfl⟩
      · rw [hold] at hplace
        cases hplace
      · exact ⟨new, node?_put_self hq, fun hout => absurd ⟨rfl, by simp [hplace]⟩ hout⟩
    · exact ⟨bytes, by rw [node?_put_of_ne heq, hplace], fun _ => rfl⟩

/-! Walks through a tree that keeps what there was. -/

variable {written : Place → Prop} {followLast : Bool} {links : Nat} {steps : List Text}
  {name : Text} {path : Path}

/-- Whether a walk found its way, at the latest with a file of another tree in the last place. -/
def FindsWay (next : Tree) : Arrival → Prop
  | .missing directory name => ∃ bytes, next.node? (name :: directory) = some (.file bytes)
  | .blocked _ => False
  | _ => True

def filled : Arrival → Arrival
  | .missing directory name => .reached (name :: directory)
  | arrival => arrival

theorem walk_of_directory (h : tree.node? place = some .directory) (followLast : Bool) (step : Text)
    (rest : List Text) : tree.walk followLast place (step :: rest) =
      if step = ['.'] then tree.walk followLast place rest
      else if step = ['.', '.'] then tree.walk followLast place.tail rest
      else match tree.node? (step :: place) with
        | none => if rest.isEmpty then .missing place step else .blocked .notFound
        | some (.link target) =>
          if rest.isEmpty && !followLast then .reached (step :: place)
          else .redirected place target rest
        | some _ => tree.walk followLast (step :: place) rest := by
  rw [walk]
  exact if_neg (by simp [h])

theorem walk_of_not_directory (h : tree.node? place ≠ some .directory) (followLast : Bool)
    (step : Text) (rest : List Text) :
    tree.walk followLast place (step :: rest) = .blocked .notDirectory := by
  rw [walk, if_pos h]

theorem Keeps.walk_eq (h : Keeps written tree next)
    (hway : next.FindsWay (tree.walk followLast place steps)) :
    next.walk followLast place steps = filled (tree.walk followLast place steps) := by
  have hdirectory {place : Place} (hplace : ¬tree.node? place ≠ some .directory) :=
    walk_of_directory (h.directory (not_not.1 hplace)) followLast
  -- By the cases of the earlier walk; what decides on its next step is kept in the later tree.
  fun_induction tree.walk followLast place steps with
  | case1 place => rfl
  | case2 place step rest hplace => cases hway
  | case3 place rest hplace ih => rw [hdirectory hplace, if_pos rfl, ih hway]
  | case4 place rest hplace hhere ih =>
      rw [hdirectory hplace, if_neg hhere, if_pos rfl, ih hway]
  | case5 place step rest hplace hhere habove hnode hlast =>
      obtain ⟨bytes, hfile⟩ := hway
      obtain rfl := List.isEmpty_iff.1 hlast
      rw [hdirectory hplace, if_neg hhere, if_neg habove, hfile]
      rfl
  | case6 place step rest hplace hhere habove hnode hmore => cases hway
  | case7 place step rest hplace hhere habove target hnode hlast =>
      rw [hdirectory hplace, if_neg hhere, if_neg habove, (h.link_iff _ _).2 hnode]
      exact if_pos hlast
  | case8 place step rest hplace hhere habove target hnode hmore =>
      rw [hdirectory hplace, if_neg hhere, if_neg habove, (h.link_iff _ _).2 hnode]
      exact if_neg hmore
  | case9 place step rest hplace hhere habove node hlink hnode ih =>
      rw [hdirectory hplace, if_neg hhere, if_neg habove]
      cases node with
      | file bytes =>
          obtain ⟨others, hothers, -⟩ := h.file hnode
          rw [hothers]
          exact ih hway
      | directory =>
          rw [h.directory hnode]
          exact ih hway
      | link target => exact (hlink target rfl).elim

theorem Keeps.resolveFrom_eq (h : Keeps written tree next)
    (hway : next.FindsWay (tree.resolveFrom followLast links place steps)) :
    next.resolveFrom followLast links place steps =
      filled (tree.resolveFrom followLast links place steps) := by
  induction links generalizing place steps with
  | zero => cases hway
  | succ links ih =>
      rw [resolveFrom] at hway ⊢
      rw [resolveFrom]
      cases hwalk : tree.walk followLast place steps with
      | redirected directory target rest =>
          rw [hwalk] at hway
          rw [h.walk_eq (by rw [hwalk]; trivial), hwalk]
          exact ih hway
      | _ =>
          rw [hwalk] at hway
          rw [h.walk_eq (by rwa [hwalk]), hwalk]
          rfl

theorem Keeps.resolve_eq (h : Keeps written tree next)
    (hway : next.FindsWay (tree.resolve followLast path)) :
    next.resolve followLast path = filled (tree.resolve followLast path) := by
  rw [resolve] at hway ⊢
  rw [resolve]
  split
  case isTrue hempty =>
    rw [if_pos hempty] at hway
    cases hway
  case isFalse hempty =>
    rw [if_neg hempty] at hway
    split
    case isTrue hnul =>
      rw [if_pos hnul] at hway
      cases hway
    case isFalse hnul =>
      rw [if_neg hnul] at hway
      rw [h.workingDirectory_eq]
      exact h.resolveFrom_eq hway

/-! Files under their names. -/

theorem read_eq_ok_iff : tree.read path = .ok bytes ↔
    ∃ place, tree.resolve true path = .reached place ∧ tree.node? place = some (.file bytes) := by
  rw [read, find]
  cases tree.resolve true path with
  | reached place => cases hnode : tree.node? place with
    | none => simp [hnode]
    | some node => cases node <;> simp [hnode]
  | _ => simp

/-- The name of a file that no link bears. -/
structure IsUnlinked (tree : Tree) (name : Text) : Prop extends IsFileName name where
  not_link : ∀ (directory : Place) (target : Path),
    tree.node? (name :: directory) ≠ some (.link target)

theorem IsUnlinked.later (h : tree.IsUnlinked name) (hkeeps : Keeps written tree next) :
    next.IsUnlinked name where
  toIsFileName := h.toIsFileName
  not_link directory target hlink := h.not_link directory target ((hkeeps.link_iff _ _).1 hlink)

/-- Where a walk in search of a file with a name can end. -/
def EndsAt (tree : Tree) (name : Text) : Arrival → Prop
  | .reached place => ∃ directory node, place = name :: directory ∧ tree.node? place = some node
  | .missing directory last => last = name ∧ tree.node? (name :: directory) = none
  | .redirected _ _ rest => ∃ front, rest = front ++ [name]
  | .blocked _ => True

theorem IsUnlinked.endsAt_walk (h : tree.IsUnlinked name) (place : Place) (steps : List Text) :
    tree.EndsAt name (tree.walk true place (steps ++ [name])) := by
  induction steps generalizing place with
  | nil =>
      by_cases hplace : tree.node? place = some .directory
      case neg =>
        rw [List.nil_append, walk_of_not_directory hplace]
        trivial
      case pos =>
        rw [List.nil_append, walk_of_directory hplace, if_neg h.ne_here, if_neg h.ne_above]
        cases hnode : tree.node? (name :: place) with
        | none => exact ⟨rfl, hnode⟩
        | some node =>
            cases node with
            | link target => exact absurd hnode (h.not_link place target)
            | _ => exact ⟨place, _, rfl, hnode⟩
  | cons step steps ih =>
      by_cases hplace : tree.node? place = some .directory
      case neg =>
        rw [List.cons_append, walk_of_not_directory hplace]
        trivial
      case pos =>
        have hmore : (steps ++ [name]).isEmpty = false := by simp
        rw [List.cons_append, walk_of_directory hplace]
        split
        · exact ih place
        · split
          · exact ih place.tail
          · split
            · rw [if_neg (by simp)]
              trivial
            · rw [if_neg (by simp)]
              exact ⟨steps, rfl⟩
            · exact ih _

theorem IsUnlinked.endsAt_resolveFrom (h : tree.IsUnlinked name) (links : Nat) (place : Place)
    (steps : List Text) :
    tree.EndsAt name (tree.resolveFrom true links place (steps ++ [name])) := by
  induction links generalizing place steps with
  | zero => trivial
  | succ links ih =>
      have hwalk := h.endsAt_walk place steps
      rw [resolveFrom]
      split
      case h_1 directory target rest heq =>
        rw [heq] at hwalk
        obtain ⟨front, rfl⟩ := hwalk
        rw [← List.append_assoc]
        exact ih _ _
      case h_2 => exact hwalk

theorem IsUnlinked.endsAt_join (h : tree.IsUnlinked name) (directory : Path) :
    tree.EndsAt name (tree.resolve true (directory.join name)) := by
  rw [resolve, Path.steps_join h.toIsFileName]
  split
  · trivial
  · split
    · trivial
    · exact h.endsAt_resolveFrom _ _ _

theorem IsUnlinked.read_join_iff (h : tree.IsUnlinked name) {directory : Path} :
    tree.read (directory.join name) = .ok bytes ↔ ∃ outer,
      tree.resolve true (directory.join name) = .reached (name :: outer) ∧
        tree.node? (name :: outer) = some (.file bytes) := by
  rw [read_eq_ok_iff]
  constructor
  · rintro ⟨place, hplace, hnode⟩
    have hends := h.endsAt_join directory
    rw [hplace] at hends
    obtain ⟨outer, -, rfl, -⟩ := hends
    exact ⟨outer, hplace, hnode⟩
  · rintro ⟨outer, hplace, hnode⟩
    exact ⟨_, hplace, hnode⟩

theorem IsUnlinked.read_of_keeps (h : tree.IsUnlinked name) (hkeeps : Keeps written tree next)
    (hwritten : ∀ outer, ¬written (name :: outer)) {directory : Path}
    (hread : tree.read (directory.join name) = .ok bytes) :
    next.read (directory.join name) = .ok bytes := by
  obtain ⟨outer, hplace, hnode⟩ := h.read_join_iff.1 hread
  obtain ⟨others, hothers, heq⟩ := hkeeps.file hnode
  refine (h.later hkeeps).read_join_iff.2 ⟨outer, ?_, heq (hwritten outer) ▸ hothers⟩
  rw [hkeeps.resolve_eq (by rw [hplace]; trivial), hplace]
  rfl

/-- A write under such a name changes no file of another name, and is what is read from then on. -/
theorem IsUnlinked.keeps_write (h : tree.IsUnlinked name) {directory : Path}
    (hwrite : tree.write (directory.join name) bytes = .ok next) :
    Keeps (·.head? = some name) tree next ∧ next.read (directory.join name) = .ok bytes := by
  have hends := h.endsAt_join directory
  rw [write] at hwrite
  -- In both cases the file is put at a place of its name that a walk through the later tree finds.
  have hput {outer : Place} (hold : tree.node? (name :: outer) = none ∨
        ∃ old, tree.node? (name :: outer) = some (.file old))
      (hfilled : filled (tree.resolve true (directory.join name)) = .reached (name :: outer))
      (hway : (tree.put (name :: outer) (.file bytes)).FindsWay
        (tree.resolve true (directory.join name)))
      (hnext : tree.put (name :: outer) (.file bytes) = next) :
      Keeps (·.head? = some name) tree next ∧ next.read (directory.join name) = .ok bytes := by
    subst hnext
    have hkeeps := keeps_put (List.cons_ne_nil name outer)
      (fun _ hlink => Node.noConfusion hlink)
      (hold.imp_right fun ⟨old, hold⟩ => ⟨old, bytes, hold, rfl⟩)
    refine ⟨hkeeps.mono fun place hplace => by rw [hplace.1]; rfl, ?_⟩
    refine (h.later hkeeps).read_join_iff.2 ⟨outer, ?_, node?_put_self (List.cons_ne_nil _ _)⟩
    rw [hkeeps.resolve_eq hway, hfilled]
  split at hwrite
  case h_1 place hresolve =>
    rw [hresolve] at hends
    obtain ⟨outer, node, rfl, hnode⟩ := hends
    split at hwrite
    case isTrue => cases hwrite
    case isFalse hdirectory =>
      refine hput (.inr ?_) (by rw [hresolve]; rfl) (by rw [hresolve]; trivial)
        (Except.ok.inj hwrite)
      cases node with
      | file old => exact ⟨old, hnode⟩
      | directory => exact absurd hnode hdirectory
      | link target => exact absurd hnode (h.not_link outer target)
  case h_2 outer last hresolve =>
    rw [hresolve] at hends
    obtain ⟨rfl, hnone⟩ := hends
    exact hput (.inl hnone) (by rw [hresolve]; rfl)
      (by rw [hresolve]; exact ⟨bytes, node?_put_self (List.cons_ne_nil _ _)⟩)
      (Except.ok.inj hwrite)
  case h_3 => cases hwrite
  case h_4 => cases hwrite

/-! Directories that are made. -/

theorem node?_of_walk_missing {directory : Place}
    (h : tree.walk followLast place steps = .missing directory name) :
    tree.node? (name :: directory) = none := by
  fun_induction tree.walk followLast place steps with
  | case3 place rest hplace ih => exact ih h
  | case4 place rest hplace hhere ih => exact ih h
  | case5 place step rest hplace hhere habove hnode hlast =>
      cases h
      exact hnode
  | case9 place step rest hplace hhere habove node hlink hnode ih => exact ih h
  | _ => cases h

theorem node?_of_resolve_missing {directory : Place}
    (h : tree.resolve followLast path = .missing directory name) :
    tree.node? (name :: directory) = none := by
  have hfrom {links : Nat} {place : Place} {steps : List Text}
      (h : tree.resolveFrom followLast links place steps = .missing directory name) :
      tree.node? (name :: directory) = none := by
    induction links generalizing place steps with
    | zero => cases h
    | succ links ih =>
        rw [resolveFrom] at h
        split at h
        · exact ih h
        · exact node?_of_walk_missing h
  rw [resolve] at h
  split at h
  · cases h
  · split at h
    · cases h
    · exact hfrom h

theorem keeps_make (h : tree.make path .directory = .ok next) :
    Keeps (fun _ => False) tree next := by
  dsimp only [make] at h
  split at h
  case h_2 outer name hresolve =>
    obtain rfl := Except.ok.inj h
    have hnone := node?_of_resolve_missing hresolve
    exact (keeps_put (List.cons_ne_nil _ _) (fun _ hlink => by cases hlink) (.inl hnone)).mono
      fun place hplace => hplace.2 hnone
  all_goals cases h

theorem keeps_of_found {found : Bool} {error : StorageError}
    (h : (if found then Except.ok tree else .error error) = .ok next) :
    Keeps (fun _ => False) tree next := by
  cases found with
  | true =>
      obtain rfl := Except.ok.inj h
      exact .refl _ _
  | false => cases h

theorem keeps_makeDirectoriesFrom {depth : Nat}
    (h : tree.makeDirectoriesFrom depth path = .ok next) : Keeps (fun _ => False) tree next := by
  induction depth generalizing path next with
  | zero =>
      obtain rfl := Except.ok.inj h
      exact .refl _ _
  | succ depth ih =>
      rw [makeDirectoriesFrom] at h
      split at h
      case isTrue =>
        obtain rfl := Except.ok.inj h
        exact .refl _ _
      case isFalse =>
        split at h
        case h_1 made hmade =>
          obtain rfl := Except.ok.inj h
          exact keeps_make hmade
        case h_2 =>
          obtain ⟨outer, houter, h⟩ := bind_eq_ok_iff.1 h
          refine (ih houter).trans ?_
          split at h
          case h_1 made hmade =>
            obtain rfl := Except.ok.inj h
            exact keeps_make hmade
          case h_2 => exact keeps_of_found h
        case h_3 => exact keeps_of_found h

theorem keeps_makeDirectories (h : tree.makeDirectories path = .ok next) :
    Keeps (fun _ => False) tree next :=
  keeps_makeDirectoriesFrom h

end Tree

end GuidAtlas.Storage
