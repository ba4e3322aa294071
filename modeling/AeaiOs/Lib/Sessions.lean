import AeaiOs.Lib.StoreAction

/-!
A database session: statements work on a copy, any statement may fail, and only a commit
changes what is stored.
-/
namespace StoreAction

variable {δ ε α β : Type}

structure Session (δ : Type) where
  stored : δ
  working : δ
  /-- How many statements have been executed. -/
  statements : Nat

namespace Session

def opened (stored : δ) : Session δ := ⟨stored, stored, 0⟩

section statements
variable (fault : Nat → Option ε)

/-- The next statement, which may raise instead. -/
def execute (change : δ → α × δ) : Action (Session δ) ε α := fun s =>
  match fault s.statements with
  | some e => (.error e, { s with statements := s.statements + 1 })
  | none => (.ok (change s.working).1,
      ⟨s.stored, (change s.working).2, s.statements + 1⟩)

def commit : Action (Session δ) ε Unit := fun s =>
  match fault s.statements with
  | some e => (.error e, { s with statements := s.statements + 1 })
  | none => (.ok (), ⟨s.working, s.working, s.statements + 1⟩)

def rollback : Action (Session δ) ε Unit := fun s => (.ok (), { s with working := s.stored })

/-- `except BaseException: rollback; raise` -/
def orRollback (body : Action (Session δ) ε α) : Action (Session δ) ε α := fun s =>
  match body s with
  | (.error e, s') => (.error e, { s' with working := s'.stored })
  | (.ok value, s') => (.ok value, s')

end statements

/-- An action that has not touched what is stored. -/
def Tentative (s s' : Session δ) : Prop := s'.stored = s.stored

/-- Where the action raises, nothing is stored. -/
def Undone (action : Action (Session δ) ε α) : Prop :=
  ∀ s e s', action s = (.error e, s') → s'.stored = s.stored

section rules
variable {fault : Nat → Option ε}

theorem keeps_execute (change : δ → α × δ) : Action.Keeps Tentative (execute fault change) := by
  intro s
  unfold execute Tentative
  split <;> rfl

/-- Where a statement returns, it has made its change. -/
theorem execute_ok {change : δ → α × δ} {s s' : Session δ} {value : α}
    (h : execute fault change s = (.ok value, s')) :
    value = (change s.working).1 ∧ s'.working = (change s.working).2 ∧ s'.stored = s.stored := by
  unfold execute at h
  split at h
  · cases h
  · cases h
    exact ⟨rfl, rfl, rfl⟩

theorem commit_ok {s s' : Session δ} (h : commit fault s = (.ok (), s')) :
    s'.stored = s.working := by
  unfold commit at h
  split at h
  · cases h
  · cases h
    rfl

theorem commit_error {s s' : Session δ} {e : ε} (h : commit fault s = (.error e, s')) :
    s'.stored = s.stored := by
  unfold commit at h
  split at h
  · cases h
    rfl
  · cases h

theorem Tentative.refl (s : Session δ) : Tentative s s := rfl

theorem Tentative.trans (a b c : Session δ) (first : Tentative a b) (second : Tentative b c) :
    Tentative a c := by
  unfold Tentative at first second ⊢
  rw [second, first]

theorem keeps_rollback : Action.Keeps Tentative (rollback : Action (Session δ) ε Unit) := by
  intro s
  rfl

theorem undone_of_keeps {action : Action (Session δ) ε α}
    (keeps : Action.Keeps Tentative action) : Undone action := by
  intro s e s' h
  have kept := keeps s
  rw [h] at kept
  exact kept

theorem undone_bind {first : Action (Session δ) ε α} {rest : α → Action (Session δ) ε β}
    (keeps : Action.Keeps Tentative first) (later : ∀ value, Undone (rest value)) :
    Undone (first >>= rest) := by
  intro s e s' h
  have kept := keeps s
  rw [Action.bind_run] at h
  split at h
  · rename_i value mid here
    rw [here] at kept
    rw [later value mid e s' h]
    exact kept
  · rename_i e' mid here
    rw [here] at kept
    cases h
    exact kept

/-- A commit is the last thing that can raise. -/
theorem undone_commit (value : α) :
    Undone (commit fault >>= fun _ => (pure value : Action (Session δ) ε α)) := by
  intro s e s' h
  rw [Action.bind_run] at h
  split at h
  · cases h
  · rename_i e' mid here
    cases h
    exact commit_error here

theorem undone_orRollback {body : Action (Session δ) ε α} (undone : Undone body) :
    Undone (orRollback body) := by
  intro s e s' h
  unfold orRollback at h
  split at h
  · rename_i e' mid raised
    cases h
    exact undone s e mid raised
  · cases h

theorem orRollback_ok {body : Action (Session δ) ε α} {s s' : Session δ} {value : α}
    (h : orRollback body s = (.ok value, s')) : body s = (.ok value, s') := by
  unfold orRollback at h
  split at h
  · cases h
  · rename_i value' s'' returned
    cases h
    exact returned

end rules
end Session

namespace Action

/-- A sequence that returns: both parts have returned. -/
theorem bind_ok {σ : Type} {first : Action σ ε α} {rest : α → Action σ ε β} {s s' : σ} {value : β}
    (h : (first >>= rest) s = (.ok value, s')) :
    ∃ a mid, first s = (.ok a, mid) ∧ rest a mid = (.ok value, s') := by
  rw [bind_run] at h
  split at h
  · rename_i a mid here
    exact ⟨a, mid, here, h⟩
  · cases h

theorem ofExcept_ok {σ : Type} {r : Except ε α} {s s' : σ} {value : α}
    (h : (ofExcept r : Action σ ε α) s = (.ok value, s')) : r = .ok value ∧ s' = s := by
  rw [ofExcept_run] at h
  cases h
  exact ⟨rfl, rfl⟩

end Action
end StoreAction
