import Mathlib.Data.List.Basic

/-!
When a computation that can fail succeeds.
-/

namespace GuidAtlas

variable {ε α β : Type}

theorem bind_eq_ok_iff {x : Except ε α} {f : α → Except ε β} {b : β} :
    x >>= f = .ok b ↔ ∃ a, x = .ok a ∧ f a = .ok b := by
  cases x with
  | error e => simp [bind, Except.bind]
  | ok a => simp [bind, Except.bind]

theorem map_eq_ok_iff {x : Except ε α} {f : α → β} {b : β} :
    x.map f = .ok b ↔ ∃ a, x = .ok a ∧ f a = b := by
  cases x with
  | error e => simp [Except.map]
  | ok a => simp [Except.map]

theorem toOption_eq_some_iff {x : Except ε α} {a : α} : x.toOption = some a ↔ x = .ok a := by
  cases x with
  | error e => simp [Except.toOption]
  | ok b => simp [Except.toOption]

theorem mapM_eq_ok_iff {f : α → Except ε β} {g : α → β} {p : α → Prop}
    (h : ∀ a b, f a = .ok b ↔ p a ∧ g a = b) (l : List α) (bs : List β) :
    l.mapM f = .ok bs ↔ (∀ a ∈ l, p a) ∧ l.map g = bs := by
  induction l generalizing bs with
  | nil =>
      rw [List.mapM_nil, List.map_nil]
      constructor
      · intro heq
        exact ⟨fun a ha => absurd ha List.not_mem_nil, Except.ok.inj heq⟩
      · rintro ⟨-, rfl⟩
        rfl
  | cons a l ih =>
      rw [List.mapM_cons, bind_eq_ok_iff]
      simp only [bind_eq_ok_iff, h, ih, List.forall_mem_cons, List.map_cons]
      constructor
      · rintro ⟨-, ⟨ha, rfl⟩, -, ⟨hl, rfl⟩, heq⟩
        exact ⟨⟨ha, hl⟩, Except.ok.inj heq⟩
      · rintro ⟨⟨ha, hl⟩, rfl⟩
        exact ⟨g a, ⟨ha, rfl⟩, l.map g, ⟨hl, rfl⟩, rfl⟩

end GuidAtlas
