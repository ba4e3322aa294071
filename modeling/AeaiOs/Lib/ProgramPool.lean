import AeaiOs.Lib.AtomicProgram
import Mathlib.Logic.Function.Basic
import Mathlib.Logic.Relation

/-!
Any number of programs over one store, and the rest of the world beside them. At a turn one of
the programs performs its next operation. What operations note goes to one log, and a program
is judged by its own notes alone: they do not depend on when the others had their turns.
-/
namespace ProgramPool
open AtomicProgram

variable {ι : Type} [DecidableEq ι] {Op : Type → Type} {ε α σ η : Type}

structure Pool (ι : Type) (Op : Type → Type) (ε α σ η : Type) where
  programs : ι → Program Op ε α
  store : σ
  /-- The notes, each with the program whose turn it was; newest first. -/
  log : List (ι × η)

inductive Step (h : Handler Op ε σ) (describe : {β : Type} → Op β → Except ε β → Option η)
    (world : σ → σ → Prop) : Pool ι Op ε α σ η → Pool ι Op ε α σ η → Prop where
  | turn (pool : Pool ι Op ε α σ η) (i : ι) {β : Type} (op : Op β)
      (next : Except ε β → Program Op ε α) (waits : pool.programs i = .call op next) :
      Step h describe world pool
        { programs := Function.update pool.programs i (next (h.handle op pool.store).1)
          store := (h.handle op pool.store).2
          log := record ((describe op (h.handle op pool.store).1).map fun note => (i, note))
            pool.log }
  | world (pool : Pool ι Op ε α σ η) (s : σ) (moved : world pool.store s) :
      Step h describe world pool { pool with store := s }

/-- Turns in any order. -/
abbrev Run (h : Handler Op ε σ) (describe : {β : Type} → Op β → Except ε β → Option η)
    (world : σ → σ → Prop) : Pool ι Op ε α σ η → Pool ι Op ε α σ η → Prop :=
  Relation.ReflTransGen (Step h describe world)

/-- The notes of one program, newest first. -/
def own (i : ι) (log : List (ι × η)) : List η :=
  log.filterMap fun entry => if entry.1 = i then some entry.2 else none

theorem mem_own {i : ι} {log : List (ι × η)} {note : η} :
    note ∈ own i log ↔ (i, note) ∈ log := by
  unfold own
  rw [List.mem_filterMap]
  constructor
  · intro found
    obtain ⟨⟨k, note'⟩, member, noted⟩ := found
    dsimp only at noted
    split at noted
    · rename_i same
      cases noted
      subst same
      exact member
    · cases noted
  · intro member
    exact ⟨(i, note), member, if_pos rfl⟩

theorem own_record_self (i : ι) (note : Option η) (log : List (ι × η)) :
    own i (record (note.map fun note => (i, note)) log) = record note (own i log) := by
  cases note with
  | none => rfl
  | some note =>
    unfold own
    simp only [Option.map_some, record_some, List.filterMap_cons, if_true]

theorem own_record_other {i k : ι} (other : k ≠ i) (note : Option η) (log : List (ι × η)) :
    own i (record (note.map fun note => (k, note)) log) = own i log := by
  cases note with
  | none => rfl
  | some note =>
    unfold own
    simp only [Option.map_some, record_some, List.filterMap_cons, if_neg other]

/-- The behaviour of a store of which only the notes are seen: any possible answer may come, and
    what an operation notes has to be fine. -/
def noting (describe : {β : Type} → Op β → Except ε β → Option η)
    (possible : {β : Type} → Op β → Except ε β → Prop) (fine : List η → Prop) :
    Behaviour Op ε (List η) where
  asks op notes := ∀ answer, possible op answer → fine (record (describe op answer) notes)
  allows op notes answer notes' := possible op answer ∧ notes' = record (describe op answer) notes

section laws
variable {h : Handler Op ε σ} {describe : {β : Type} → Op β → Except ε β → Option η}
  {world : σ → σ → Prop} {possible : {β : Type} → Op β → Except ε β → Prop}
  {pool pool' : Pool ι Op ε α σ η}

/-- A program that is right about its own notes is right in any company. -/
theorem step_own {fine : List η → Prop} {post : Outcome ε α → List η → Prop}
    (answers : ∀ {β : Type} (op : Op β) (s : σ), possible op (h.handle op s).1) {i : ι}
    (right : (pool.programs i).wp (noting describe possible fine) post (own i pool.log) ∧
      fine (own i pool.log))
    (step : Step h describe world pool pool') :
    (pool'.programs i).wp (noting describe possible fine) post (own i pool'.log) ∧
      fine (own i pool'.log) := by
  cases step with
  | turn k op next waits =>
    by_cases mine : k = i
    · subst mine
      rw [waits] at right
      obtain ⟨⟨asked, goes⟩, -⟩ := right
      have answered := answers op pool.store
      dsimp only
      rw [own_record_self, Function.update_self]
      exact ⟨goes _ _ ⟨answered, rfl⟩, asked _ answered⟩
    · dsimp only
      rw [own_record_other mine, Function.update_of_ne (Ne.symm mine)]
      exact right
  | world s moved => exact right

theorem run_own {fine : List η → Prop} {post : Outcome ε α → List η → Prop}
    (answers : ∀ {β : Type} (op : Op β) (s : σ), possible op (h.handle op s).1) {i : ι}
    (right : (pool.programs i).wp (noting describe possible fine) post (own i pool.log) ∧
      fine (own i pool.log))
    (run : Run h describe world pool pool') :
    (pool'.programs i).wp (noting describe possible fine) post (own i pool'.log) ∧
      fine (own i pool'.log) := by
  induction run with
  | refl => exact right
  | tail front step ih => exact step_own answers ih step

/-- What every operation and the world keep, whosever turn it is, holds after every run. -/
theorem run_keeps (inv : σ → List (ι × η) → Prop)
    (turn : ∀ (i : ι) {β : Type} (op : Op β) (s : σ) (log : List (ι × η)), inv s log →
      inv (h.handle op s).2
        (record ((describe op (h.handle op s).1).map fun note => (i, note)) log))
    (apart : ∀ s s' log, inv s log → world s s' → inv s' log)
    (start : inv pool.store pool.log) (run : Run h describe world pool pool') :
    inv pool'.store pool'.log := by
  induction run with
  | refl => exact start
  | tail front step ih =>
    cases step with
    | turn i op next waits => exact turn i op _ _ ih
    | world s moved => exact apart _ _ _ ih moved

end laws

/-- The next turns, as a schedule has them; a program that has ended lets its turn pass. -/
def turns (h : Handler Op ε σ) (describe : {β : Type} → Op β → Except ε β → Option η) :
    List ι → Pool ι Op ε α σ η → Pool ι Op ε α σ η
  | [], pool => pool
  | i :: rest, pool =>
      match pool.programs i with
      | .call op next =>
          turns h describe rest
            { programs := Function.update pool.programs i (next (h.handle op pool.store).1)
              store := (h.handle op pool.store).2
              log := record ((describe op (h.handle op pool.store).1).map fun note => (i, note))
                pool.log }
      | _ => turns h describe rest pool

theorem run_turns {h : Handler Op ε σ} {describe : {β : Type} → Op β → Except ε β → Option η}
    (world : σ → σ → Prop) (schedule : List ι) (pool : Pool ι Op ε α σ η) :
    Run h describe world pool (turns h describe schedule pool) := by
  induction schedule generalizing pool with
  | nil => exact Relation.ReflTransGen.refl
  | cons i rest ih =>
    unfold turns
    split
    · rename_i op next waits
      exact Relation.ReflTransGen.head (.turn pool i op next waits) (ih _)
    · exact ih pool

end ProgramPool
