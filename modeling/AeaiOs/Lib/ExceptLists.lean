import Mathlib.Data.List.Forall2

/-!
Computations that may raise, and lists that are mapped by one.
-/
namespace ExceptLists
variable {ε α β γ : Type}

theorem bind_eq_ok {x : Except ε α} {f : α → Except ε β} {b : β} :
    (x >>= f) = .ok b ↔ ∃ a, x = .ok a ∧ f a = .ok b := by
  cases x with
  | error e => simp [bind, Except.bind]
  | ok a => simp [bind, Except.bind]

theorem pure_eq_ok {a b : α} : (pure a : Except ε α) = .ok b ↔ a = b := by
  simp [pure, Except.pure]

theorem except_map_ok {f : α → β} {r : Except ε α} {b : β} (mapped : r.map f = .ok b) :
    ∃ a, r = .ok a ∧ f a = b := by
  cases r with
  | error e => cases mapped
  | ok a =>
    simp only [Except.map, Except.ok.injEq] at mapped
    exact ⟨a, rfl, mapped⟩

theorem mapM_ok_iff {f : α → Except ε β} {xs : List α} {ys : List β} :
    xs.mapM f = .ok ys ↔ List.Forall₂ (fun x y => f x = .ok y) xs ys := by
  induction xs generalizing ys with
  | nil => rw [List.mapM_nil, pure_eq_ok, List.forall₂_nil_left_iff, eq_comm]
  | cons x xs ih =>
    simp only [List.mapM_cons, bind_eq_ok, pure_eq_ok, List.forall₂_cons_left_iff]
    constructor
    · rintro ⟨y, first, rest, later, rfl⟩
      exact ⟨y, rest, first, ih.mp later, rfl⟩
    · rintro ⟨y, rest, first, later, rfl⟩
      exact ⟨y, first, rest, ih.mpr later, rfl⟩

/-- Every result comes from an element. -/
theorem mapM_source {f : α → Except ε β} {xs : List α} {ys : List β} (made : xs.mapM f = .ok ys) :
    ∀ y ∈ ys, ∃ x ∈ xs, f x = .ok y := by
  have related := mapM_ok_iff.mp made
  clear made
  induction related with
  | nil => simp
  | cons first _ ih =>
    rw [List.forall_mem_cons]
    constructor
    · exact ⟨_, List.mem_cons_self, first⟩
    · intro y inside
      obtain ⟨x, member, made⟩ := ih y inside
      exact ⟨x, List.mem_cons_of_mem _ member, made⟩

/-- Every element has a result. -/
theorem mapM_target {f : α → Except ε β} {xs : List α} {ys : List β} (made : xs.mapM f = .ok ys) :
    ∀ x ∈ xs, ∃ y ∈ ys, f x = .ok y := by
  have related := mapM_ok_iff.mp made
  clear made
  induction related with
  | nil => simp
  | cons first _ ih =>
    rw [List.forall_mem_cons]
    constructor
    · exact ⟨_, List.mem_cons_self, first⟩
    · intro x inside
      obtain ⟨y, member, made⟩ := ih x inside
      exact ⟨y, List.mem_cons_of_mem _ member, made⟩

theorem mapM_keeps {f : α → Except ε α} {view : α → γ}
    (keeps : ∀ a b, f a = .ok b → view b = view a) {xs ys : List α} (mapped : xs.mapM f = .ok ys) :
    ys.map view = xs.map view := by
  have related := mapM_ok_iff.mp mapped
  clear mapped
  induction related with
  | nil => rfl
  | cons first _ ih => rw [List.map_cons, List.map_cons, keeps _ _ first, ih]

end ExceptLists
