import Mathlib.Tactic.Basic

/-!
Actions on a store that may raise. A raised exception keeps what has been
written before it, as statements of an imperative method do.
-/
namespace StoreAction

variable {σ ε α β : Type}

def Action (σ ε α : Type) : Type := σ → Except ε α × σ

namespace Action

def bind (first : Action σ ε α) (rest : α → Action σ ε β) : Action σ ε β := fun s =>
  match first s with
  | (.ok value, s') => rest value s'
  | (.error e, s') => (.error e, s')

instance : Monad (Action σ ε) where
  pure value := fun s => (.ok value, s)
  bind := bind

def raise (e : ε) : Action σ ε α := fun s => (.error e, s)

def read : Action σ ε σ := fun s => (.ok s, s)

def change (f : σ → σ) : Action σ ε Unit := fun s => (.ok (), f s)

def ofExcept : Except ε α → Action σ ε α
  | .ok value => fun s => (.ok value, s)
  | .error e => fun s => (.error e, s)

@[simp] theorem pure_run (value : α) (s : σ) : (pure value : Action σ ε α) s = (.ok value, s) := rfl

@[simp] theorem raise_run (e : ε) (s : σ) : (raise e : Action σ ε α) s = (.error e, s) := rfl

@[simp] theorem read_run (s : σ) : (read : Action σ ε σ) s = (.ok s, s) := rfl

@[simp] theorem change_run (f : σ → σ) (s : σ) :
    (change f : Action σ ε Unit) s = (.ok (), f s) := rfl

@[simp] theorem ofExcept_run (r : Except ε α) (s : σ) :
    (ofExcept r : Action σ ε α) s = (r, s) := by
  cases r <;> rfl

theorem bind_run (first : Action σ ε α) (rest : α → Action σ ε β) (s : σ) :
    (first >>= rest) s = match first s with
      | (.ok value, s') => rest value s'
      | (.error e, s') => (.error e, s') := rfl

theorem bind_of_ok {first : Action σ ε α} {rest : α → Action σ ε β} {s s' : σ} {value : α}
    (h : first s = (.ok value, s')) : (first >>= rest) s = rest value s' := by
  rw [bind_run, h]

theorem bind_of_error {first : Action σ ε α} {rest : α → Action σ ε β} {s s' : σ} {e : ε}
    (h : first s = (.error e, s')) : (first >>= rest) s = (.error e, s') := by
  rw [bind_run, h]

/-- Whatever the action answers, the store it leaves is related to the one it
    found. -/
def Keeps (R : σ → σ → Prop) (action : Action σ ε α) : Prop := ∀ s, R s (action s).2

section keeps
variable {R : σ → σ → Prop}

theorem keeps_pure (refl : ∀ s, R s s) (value : α) : Keeps R (pure value : Action σ ε α) :=
  fun s => refl s

theorem keeps_raise (refl : ∀ s, R s s) (e : ε) : Keeps R (raise e : Action σ ε α) :=
  fun s => refl s

theorem keeps_read (refl : ∀ s, R s s) : Keeps R (read : Action σ ε σ) := fun s => refl s

theorem keeps_ofExcept (refl : ∀ s, R s s) (r : Except ε α) :
    Keeps R (ofExcept r : Action σ ε α) := by
  intro s
  rw [ofExcept_run]
  exact refl s

theorem keeps_bind (trans : ∀ a b c, R a b → R b c → R a c) {first : Action σ ε α}
    {rest : α → Action σ ε β} (h : Keeps R first) (later : ∀ value, Keeps R (rest value)) :
    Keeps R (first >>= rest) := by
  intro s
  have start := h s
  rw [bind_run]
  split
  · rename_i value s' hs
    rw [hs] at start
    exact trans _ _ _ start (later value s')
  · rename_i e s' hs
    rw [hs] at start
    exact start

end keeps

/-! The same call on two stores. -/

section twins
variable {τ : Type} {R : σ → τ → Prop}

/-- The same answer, and related stores after it. -/
def Matches (R : σ → τ → Prop) (a : Action σ ε α) (b : Action τ ε α) (s : σ) (t : τ) : Prop :=
  (a s).1 = (b t).1 ∧ R (a s).2 (b t).2

/-- The same answer; a call that raises has changed neither store. -/
def Twins (R : σ → τ → Prop) (a : Action σ ε α) (b : Action τ ε α) (s : σ) (t : τ) : Prop :=
  (∃ e, a s = (.error e, s) ∧ b t = (.error e, t)) ∨
    ∃ value s' t', a s = (.ok value, s') ∧ b t = (.ok value, t') ∧ R s' t'

theorem twins_match {a : Action σ ε α} {b : Action τ ε α} {s : σ} {t : τ} (related : R s t)
    (h : Twins R a b s t) : Matches R a b s t := by
  unfold Matches
  rcases h with ⟨e, ha, hb⟩ | ⟨value, s', t', ha, hb, after⟩
  · rw [ha, hb]
    exact ⟨rfl, related⟩
  · rw [ha, hb]
    exact ⟨rfl, after⟩

theorem matches_bind {a : Action σ ε α} {b : Action τ ε α} {restA : α → Action σ ε β}
    {restB : α → Action τ ε β} {s : σ} {t : τ} (first : Matches R a b s t)
    (later : ∀ value s' t', R s' t' → Matches R (restA value) (restB value) s' t') :
    Matches R (a >>= restA) (b >>= restB) s t := by
  obtain ⟨same, related⟩ := first
  unfold Matches
  rw [bind_run, bind_run]
  rcases ha : a s with ⟨ra, s'⟩
  rcases hb : b t with ⟨rb, t'⟩
  rw [ha, hb] at same related
  simp only at same related
  subst same
  cases ra with
  | error e => exact ⟨rfl, related⟩
  | ok value => exact later value s' t' related

end twins
end Action
end StoreAction
