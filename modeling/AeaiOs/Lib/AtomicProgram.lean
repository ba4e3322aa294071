import Mathlib.Tactic.Basic

/-!
Programs made of atomic operations on one shared store. An operation answers
or raises and changes the store in one step; between two operations of a
program anything else may run. `unfinished` marks a loop cut off after its
bound, so a program that ends in it has said nothing about its result.
-/
namespace AtomicProgram

variable {Op : Type → Type} {ε α β γ σ κ : Type}

inductive Program (Op : Type → Type) (ε α : Type) : Type 1 where
  | returned (value : α)
  | raised (error : ε)
  | unfinished
  | call {β : Type} (op : Op β) (next : Except ε β → Program Op ε α)

inductive Outcome (ε α : Type) where
  | returned (value : α)
  | raised (error : ε)
  | unfinished
  deriving DecidableEq, Repr

namespace Program

def bind : Program Op ε α → (α → Program Op ε β) → Program Op ε β
  | .returned value, rest => rest value
  | .raised error, _ => .raised error
  | .unfinished, _ => .unfinished
  | .call op next, rest => .call op fun answer => (next answer).bind rest

def tryCatch : Program Op ε α → (ε → Program Op ε α) → Program Op ε α
  | .returned value, _ => .returned value
  | .raised error, handler => handler error
  | .unfinished, _ => .unfinished
  | .call op next, handler => .call op fun answer => (next answer).tryCatch handler

instance : Monad (Program Op ε) where
  pure := .returned
  bind := bind

/-- A single operation whose exception propagates. -/
def perform (op : Op α) : Program Op ε α :=
  .call op fun
    | .ok value => .returned value
    | .error error => .raised error

/-- A pure computation that may raise. -/
def ofExcept : Except ε α → Program Op ε α
  | .ok value => .returned value
  | .error error => .raised error

@[simp] theorem pure_eq (value : α) : (pure value : Program Op ε α) = .returned value := rfl

@[simp] theorem bind_eq (p : Program Op ε α) (rest : α → Program Op ε β) :
    (p >>= rest) = p.bind rest := rfl

theorem bind_assoc (p : Program Op ε α) (f : α → Program Op ε β) (g : β → Program Op ε γ) :
    (p.bind f).bind g = p.bind fun value => (f value).bind g := by
  induction p with
  | returned value => rfl
  | raised error => rfl
  | unfinished => rfl
  | call op next ih =>
    simp only [bind]
    congr 1
    funext answer
    exact ih answer

end Program

/-- One operation's answer and the store it leaves. -/
structure Handler (Op : Type → Type) (ε σ : Type) where
  handle : {β : Type} → Op β → σ → Except ε β × σ

namespace Program

def run (h : Handler Op ε σ) : Program Op ε α → σ → Outcome ε α × σ
  | .returned value, s => (.returned value, s)
  | .raised error, s => (.raised error, s)
  | .unfinished, s => (.unfinished, s)
  | .call op next, s => (next (h.handle op s).1).run h (h.handle op s).2

/-- The store after the first `n` operations: what a process leaves when it
    stops there. -/
def crash (h : Handler Op ε σ) : Nat → Program Op ε α → σ → σ
  | n + 1, .call op next, s => (next (h.handle op s).1).crash h n (h.handle op s).2
  | _, _, s => s

/-- The next operation done, the rest of the program left to do. -/
def advance (h : Handler Op ε σ) : Program Op ε α → σ → Program Op ε α × σ
  | .call op next, s => (next (h.handle op s).1, (h.handle op s).2)
  | p, s => (p, s)

def Finished : Program Op ε α → Prop
  | .returned _ => True
  | .raised _ => True
  | .unfinished => False
  | .call _ _ => False

end Program

/-- The rules of a shared store, as an operation sees them: what the caller owes
    before it (`asks`), and every answer and next state that may come of it. -/
structure Behaviour (Op : Type → Type) (ε κ : Type) where
  asks : {β : Type} → Op β → κ → Prop
  allows : {β : Type} → Op β → κ → Except ε β → κ → Prop

/-- From a good store a handler seen through `view` does only what the behaviour
    allows, and the store stays good. -/
def Simulates (h : Handler Op ε σ) (good : σ → Prop) (view : σ → κ) (b : Behaviour Op ε κ) : Prop :=
  ∀ {β : Type} (op : Op β) (s : σ), good s → b.asks op (view s) →
    good (h.handle op s).2 ∧ b.allows op (view s) (h.handle op s).1 (view (h.handle op s).2)

/-! A handler and a behaviour that also keep a history, newest entry first. -/

section history
variable {η : Type} (describe : {β : Type} → Op β → Except ε β → Option η)

def record (entry : Option η) (history : List η) : List η :=
  match entry with
  | some e => e :: history
  | none => history

@[simp] theorem record_some (entry : η) (history : List η) :
    record (some entry) history = entry :: history := rfl

@[simp] theorem record_none (history : List η) : record none history = history := rfl

theorem mem_record_of_mem {e : η} {history : List η} (entry : Option η) (member : e ∈ history) :
    e ∈ record entry history := by
  cases entry with
  | none => exact member
  | some newer => exact List.mem_cons_of_mem newer member

theorem mem_record_of_eq {e : η} {entry : Option η} {history : List η} (h : entry = some e) :
    e ∈ record entry history := by
  rw [h]
  exact List.mem_cons_self

def Handler.observed (h : Handler Op ε σ) : Handler Op ε (σ × List η) where
  handle op s :=
    ((h.handle op s.1).1,
      ((h.handle op s.1).2, record (describe op (h.handle op s.1).1) s.2))

def Behaviour.observed (b : Behaviour Op ε κ) : Behaviour Op ε (κ × List η) where
  asks op s := b.asks op s.1
  allows op s answer s' :=
    b.allows op s.1 answer s'.1 ∧ s'.2 = record (describe op answer) s.2

/-- The steps whose entries are all fine. -/
def Behaviour.restricted (b : Behaviour Op ε κ) (fine : η → Prop) : Behaviour Op ε κ where
  asks := b.asks
  allows op s answer s' := b.allows op s answer s' ∧ ∀ e ∈ describe op answer, fine e

theorem Simulates.observed {h : Handler Op ε σ} {good : σ → Prop} {view : σ → κ}
    {b : Behaviour Op ε κ} (sim : Simulates h good view b) :
    Simulates (h.observed describe) (fun s => good s.1) (fun s => (view s.1, s.2))
      (b.observed describe) := by
  intro β op s fine asked
  obtain ⟨still, allowed⟩ := sim op s.1 fine asked
  exact ⟨still, allowed, rfl⟩

/-- Every entry of the history was asked for, and allowed, on the entries before it. -/
def Owed (b : Behaviour Op ε (List η)) (history : List η) : Prop :=
  ∀ newer entry older, history = newer ++ entry :: older →
    ∃ (β : Type) (op : Op β) (answer : Except ε β), describe op answer = some entry ∧
      b.asks op older ∧ b.allows op older answer (entry :: older)

theorem owed_nil (b : Behaviour Op ε (List η)) : Owed describe b [] := by
  intro newer entry older split
  simp at split

theorem owed_record {b : Behaviour Op ε (List η)} {history : List η} (owed : Owed describe b history)
    {op : Op β} {answer : Except ε β} (asked : b.asks op history)
    (allowed : b.allows op history answer (record (describe op answer) history)) :
    Owed describe b (record (describe op answer) history) := by
  cases noted : describe op answer with
  | none => exact owed
  | some entry =>
    rw [noted] at allowed
    intro newer e older split
    cases newer with
    | nil =>
      simp only [record_some, List.nil_append, List.cons.injEq] at split
      obtain ⟨rfl, rfl⟩ := split
      exact ⟨_, op, answer, noted, asked, allowed⟩
    | cons first newer =>
      simp only [record_some, List.cons_append, List.cons.injEq] at split
      exact owed newer e older split.2

/-- A behaviour that only sees the history makes all of it owed. -/
theorem Simulates.owed {h : Handler Op ε σ} {good : σ → Prop} {view : σ → List η}
    {b : Behaviour Op ε (List η)} (sim : Simulates h good view b)
    (noted : ∀ {β : Type} (op : Op β) s answer s', b.allows op s answer s' →
      s' = record (describe op answer) s) :
    Simulates h (fun s => good s ∧ Owed describe b (view s)) view b := by
  rintro β op s ⟨fine, owed⟩ asked
  obtain ⟨still, allowed⟩ := sim op s fine asked
  refine ⟨⟨still, ?_⟩, allowed⟩
  have same := noted op _ _ _ allowed
  rw [same] at allowed
  rw [same]
  exact owed_record describe owed asked allowed

/-- Every entry of the history was asked for in a state that was sound. -/
def AskedFor (b : Behaviour Op ε (κ × List η)) (sound : κ × List η → Prop) (history : List η) :
    Prop :=
  ∀ newer entry older, history = newer ++ entry :: older →
    ∃ (β : Type) (op : Op β) (answer : Except ε β) (k : κ), describe op answer = some entry ∧
      sound (k, older) ∧ b.asks op (k, older)

theorem askedFor_nil (b : Behaviour Op ε (κ × List η)) (sound : κ × List η → Prop) :
    AskedFor describe b sound [] := by
  intro newer entry older split
  simp at split

theorem askedFor_record {b : Behaviour Op ε (κ × List η)} {sound : κ × List η → Prop} {k : κ}
    {history : List η} (asked : AskedFor describe b sound history) {op : Op β}
    {answer : Except ε β} (here : sound (k, history)) (now : b.asks op (k, history)) :
    AskedFor describe b sound (record (describe op answer) history) := by
  cases noted : describe op answer with
  | none => exact asked
  | some entry =>
    intro newer e older split
    cases newer with
    | nil =>
      simp only [record_some, List.nil_append, List.cons.injEq] at split
      obtain ⟨rfl, rfl⟩ := split
      exact ⟨_, op, answer, k, noted, here, now⟩
    | cons first newer =>
      simp only [record_some, List.cons_append, List.cons.injEq] at split
      exact asked newer e older split.2

theorem Simulates.askedFor {h : Handler Op ε σ} {good : σ → Prop} {view : σ → κ × List η}
    {b : Behaviour Op ε (κ × List η)} (sim : Simulates h good view b)
    {sound : κ × List η → Prop} (known : ∀ s, good s → sound (view s))
    (noted : ∀ {β : Type} (op : Op β) s answer s', b.allows op s answer s' →
      s'.2 = record (describe op answer) s.2) :
    Simulates h (fun s => good s ∧ AskedFor describe b sound (view s).2) view b := by
  rintro β op s ⟨fine, asked⟩ now
  obtain ⟨still, allowed⟩ := sim op s fine now
  refine ⟨⟨still, ?_⟩, allowed⟩
  rw [noted op _ _ _ allowed]
  exact askedFor_record describe asked (known s fine) now

end history

/-- What every step that was asked for keeps, the handler keeps. -/
theorem Simulates.keeps {h : Handler Op ε σ} {good : σ → Prop} {view : σ → κ}
    {b : Behaviour Op ε κ} (sim : Simulates h good view b) {inv : κ → Prop}
    (step : ∀ {β : Type} (op : Op β) s answer s', inv s → b.asks op s →
      b.allows op s answer s' → inv s') :
    Simulates h (fun s => good s ∧ inv (view s)) view b := by
  rintro β op s ⟨fine, kept⟩ now
  obtain ⟨still, allowed⟩ := sim op s fine now
  exact ⟨⟨still, step op _ _ _ kept now allowed⟩, allowed⟩

namespace Program

/-- Weakest precondition under a demonic behaviour: every operation is asked for
    rightly and `post` holds of the outcome. -/
def wp (b : Behaviour Op ε κ) (post : Outcome ε α → κ → Prop) : Program Op ε α → κ → Prop
  | .returned value, s => post (.returned value) s
  | .raised error, s => post (.raised error) s
  | .unfinished, s => post .unfinished s
  | .call op next, s =>
      b.asks op s ∧ ∀ answer s', b.allows op s answer s' → (next answer).wp b post s'

/-- How the postcondition of a bind distributes over its first program. -/
def thenPost (b : Behaviour Op ε κ) (post : Outcome ε β → κ → Prop)
    (rest : α → Program Op ε β) : Outcome ε α → κ → Prop
  | .returned value, s => (rest value).wp b post s
  | .raised error, s => post (.raised error) s
  | .unfinished, s => post .unfinished s

/-- How the postcondition of a handled program distributes over it. -/
def catchPost (b : Behaviour Op ε κ) (post : Outcome ε α → κ → Prop)
    (handler : ε → Program Op ε α) : Outcome ε α → κ → Prop
  | .returned value, s => post (.returned value) s
  | .raised error, s => (handler error).wp b post s
  | .unfinished, s => post .unfinished s

section wp
variable {b : Behaviour Op ε κ}

@[simp] theorem wp_returned {post : Outcome ε α → κ → Prop} (value : α) (s : κ) :
    (Program.returned value : Program Op ε α).wp b post s ↔ post (.returned value) s := Iff.rfl

@[simp] theorem wp_raised {post : Outcome ε α → κ → Prop} (error : ε) (s : κ) :
    (Program.raised error : Program Op ε α).wp b post s ↔ post (.raised error) s := Iff.rfl

@[simp] theorem wp_unfinished {post : Outcome ε α → κ → Prop} (s : κ) :
    (Program.unfinished : Program Op ε α).wp b post s ↔ post .unfinished s := Iff.rfl

theorem wp_call {post : Outcome ε α → κ → Prop} (op : Op β)
    (next : Except ε β → Program Op ε α) (s : κ) :
    (Program.call op next).wp b post s ↔ b.asks op s ∧
      ∀ answer s', b.allows op s answer s' → (next answer).wp b post s' := Iff.rfl

theorem wp_bind {post : Outcome ε β → κ → Prop} (p : Program Op ε α)
    (rest : α → Program Op ε β) (s : κ) :
    (p.bind rest).wp b post s ↔ p.wp b (thenPost b post rest) s := by
  induction p generalizing s with
  | returned value => rfl
  | raised error => rfl
  | unfinished => rfl
  | call op next ih =>
    simp only [bind, wp_call]
    constructor
    · rintro ⟨asked, h⟩
      exact ⟨asked, fun answer s' allowed => (ih answer s').mp (h answer s' allowed)⟩
    · rintro ⟨asked, h⟩
      exact ⟨asked, fun answer s' allowed => (ih answer s').mpr (h answer s' allowed)⟩

theorem wp_tryCatch {post : Outcome ε α → κ → Prop} (p : Program Op ε α)
    (handler : ε → Program Op ε α) (s : κ) :
    (p.tryCatch handler).wp b post s ↔ p.wp b (catchPost b post handler) s := by
  induction p generalizing s with
  | returned value => rfl
  | raised error => rfl
  | unfinished => rfl
  | call op next ih =>
    simp only [tryCatch, wp_call]
    constructor
    · rintro ⟨asked, h⟩
      exact ⟨asked, fun answer s' allowed => (ih answer s').mp (h answer s' allowed)⟩
    · rintro ⟨asked, h⟩
      exact ⟨asked, fun answer s' allowed => (ih answer s').mpr (h answer s' allowed)⟩

theorem wp_mono {post post' : Outcome ε α → κ → Prop} {p : Program Op ε α} {s : κ}
    (h : p.wp b post s) (weaker : ∀ o s', post o s' → post' o s') : p.wp b post' s := by
  induction p generalizing s with
  | returned value => exact weaker _ _ h
  | raised error => exact weaker _ _ h
  | unfinished => exact weaker _ _ h
  | call op next ih => exact ⟨h.1, fun answer s' allowed => ih answer (h.2 answer s' allowed)⟩

/-- What relates the states of every step relates the first to the last. -/
theorem wp_tracks {R : κ → κ → Prop} (refl : ∀ s, R s s)
    (trans : ∀ r s t, R r s → R s t → R r t)
    (step : ∀ {β : Type} (op : Op β) s answer s', b.allows op s answer s' → R s s')
    {post : Outcome ε α → κ → Prop} {p : Program Op ε α} {s : κ} (h : p.wp b post s) :
    p.wp b (fun o s' => post o s' ∧ R s s') s := by
  induction p generalizing s with
  | returned value => exact ⟨h, refl s⟩
  | raised error => exact ⟨h, refl s⟩
  | unfinished => exact ⟨h, refl s⟩
  | call op next ih =>
    refine ⟨h.1, ?_⟩
    intro answer s' allowed
    refine wp_mono (ih answer (h.2 answer s' allowed)) ?_
    intro o t reached
    exact ⟨reached.1, trans s s' t (step op s answer s' allowed) reached.2⟩

/-- The rule for `do let value ← p; rest value`. -/
theorem wp_then {post : Outcome ε β → κ → Prop} {mid : α → κ → Prop} {p : Program Op ε α}
    {rest : α → Program Op ε β} {s : κ}
    (first : p.wp b (fun o s' => match o with
      | .returned value => mid value s'
      | .raised error => post (.raised error) s'
      | .unfinished => post .unfinished s') s)
    (later : ∀ value s', mid value s' → (rest value).wp b post s') :
    (p.bind rest).wp b post s := by
  rw [wp_bind]
  refine wp_mono first ?_
  rintro (value | error | _) s' h
  · exact later value s' h
  · exact h
  · exact h

theorem wp_perform {post : Outcome ε α → κ → Prop} (op : Op α) (s : κ) :
    (perform op : Program Op ε α).wp b post s ↔ b.asks op s ∧
      (∀ value s', b.allows op s (.ok value) s' → post (.returned value) s') ∧
      (∀ error s', b.allows op s (.error error) s' → post (.raised error) s') := by
  simp only [perform, wp_call]
  constructor
  · rintro ⟨asked, h⟩
    exact ⟨asked, fun value s' allowed => h (.ok value) s' allowed,
      fun error s' allowed => h (.error error) s' allowed⟩
  · rintro ⟨asked, good, bad⟩
    refine ⟨asked, ?_⟩
    rintro (error | value) s' allowed
    · exact bad error s' allowed
    · exact good value s' allowed

/-- A single operation and the program after it. -/
theorem wp_perform_bind {post : Outcome ε β → κ → Prop} (op : Op α)
    (rest : α → Program Op ε β) (s : κ) :
    ((perform op).bind rest).wp b post s ↔ b.asks op s ∧
      (∀ value s', b.allows op s (.ok value) s' → (rest value).wp b post s') ∧
      (∀ error s', b.allows op s (.error error) s' → post (.raised error) s') := by
  rw [wp_bind, wp_perform]
  rfl

theorem wp_ofExcept {post : Outcome ε α → κ → Prop} (e : Except ε α) (s : κ) :
    (ofExcept e : Program Op ε α).wp b post s ↔
      match e with
      | .ok value => post (.returned value) s
      | .error error => post (.raised error) s := by
  cases e <;> rfl

theorem wp_ofExcept_bind {post : Outcome ε β → κ → Prop} (e : Except ε α)
    (rest : α → Program Op ε β) (s : κ) :
    ((ofExcept e).bind rest).wp b post s ↔
      match e with
      | .ok value => (rest value).wp b post s
      | .error error => post (.raised error) s := by
  cases e <;> rfl

/-! Postconditions about what a program returns; what it raises is left open. -/

def Returns (good : α → κ → Prop) : Outcome ε α → κ → Prop
  | .returned value, s => good value s
  | .raised _, _ => True
  | .unfinished, _ => True

theorem returns_then {mid : α → κ → Prop} {good : β → κ → Prop} {p : Program Op ε α}
    {rest : α → Program Op ε β} {s : κ} (first : p.wp b (Returns mid) s)
    (later : ∀ value s', mid value s' → (rest value).wp b (Returns good) s') :
    (p.bind rest).wp b (Returns good) s := by
  rw [wp_bind]
  refine wp_mono first ?_
  rintro (value | error | _) s' h
  · exact later value s' h
  · trivial
  · trivial

theorem returns_perform {good : β → κ → Prop} {op : Op α} {rest : α → Program Op ε β} {s : κ}
    (asked : b.asks op s)
    (later : ∀ value s', b.allows op s (.ok value) s' → (rest value).wp b (Returns good) s') :
    ((perform op).bind rest).wp b (Returns good) s :=
  (wp_perform_bind op rest s).mpr ⟨asked, later, fun _ _ _ => trivial⟩

/-! Postconditions that also say how a program raises, and whether it may be cut off. -/

def Ends (good : α → κ → Prop) (bad : ε → κ → Prop) (cut : Prop) : Outcome ε α → κ → Prop
  | .returned value, s => good value s
  | .raised error, s => bad error s
  | .unfinished, _ => cut

section ends
variable {bad : ε → κ → Prop} {cut : Prop} {s : κ}

theorem ends_then {mid : α → κ → Prop} {good : β → κ → Prop} {p : Program Op ε α}
    {rest : α → Program Op ε β} (first : p.wp b (Ends mid bad cut) s)
    (later : ∀ value s', mid value s' → (rest value).wp b (Ends good bad cut) s') :
    (p.bind rest).wp b (Ends good bad cut) s := by
  rw [wp_bind]
  refine wp_mono first ?_
  rintro (value | error | _) s' h
  · exact later value s' h
  · exact h
  · exact h

theorem ends_perform {good : β → κ → Prop} {op : Op α} {rest : α → Program Op ε β}
    (asked : b.asks op s)
    (later : ∀ value s', b.allows op s (.ok value) s' → (rest value).wp b (Ends good bad cut) s')
    (failed : ∀ error s', b.allows op s (.error error) s' → bad error s') :
    ((perform op).bind rest).wp b (Ends good bad cut) s :=
  (wp_perform_bind op rest s).mpr ⟨asked, later, failed⟩

theorem ends_mono {good good' : α → κ → Prop} {cut' : Prop} {p : Program Op ε α}
    (h : p.wp b (Ends good bad cut) s) (better : ∀ value s', good value s' → good' value s')
    (longer : cut → cut') : p.wp b (Ends good' bad cut') s := by
  refine wp_mono h ?_
  rintro (value | error | _) s' reached
  · exact better value s' reached
  · exact reached
  · exact longer reached

end ends

/-! Programs that only look: they leave the state as it is or raise. -/

/-- From `s` the program returns with the state unchanged, or it raises and leaves
    what `raises` says. -/
def Still (b : Behaviour Op ε κ) (raises : ε → κ → Prop) (p : Program Op ε α) (s : κ) : Prop :=
  p.wp b (fun o s' => match o with
    | .returned _ => s' = s
    | .raised error => raises error s'
    | .unfinished => False) s

section still
variable {raises : ε → κ → Prop} {s : κ}

theorem Still.then {post : Outcome ε β → κ → Prop} {p : Program Op ε α}
    {rest : α → Program Op ε β} (h : Still b raises p s)
    (later : ∀ value, (rest value).wp b post s)
    (failed : ∀ error s', raises error s' → post (.raised error) s') :
    (p.bind rest).wp b post s := by
  rw [wp_bind]
  refine wp_mono h ?_
  rintro (value | error | _) s' reached
  · have same : s' = s := reached
    subst same
    exact later value
  · exact failed error s' reached
  · exact reached.elim

theorem Still.returns {good : β → κ → Prop} {p : Program Op ε α} {rest : α → Program Op ε β}
    (h : Still b raises p s) (later : ∀ value, (rest value).wp b (Returns good) s) :
    (p.bind rest).wp b (Returns good) s :=
  h.then later fun _ _ _ => trivial

theorem Still.ends {good : β → κ → Prop} {cut : Prop} {p : Program Op ε α}
    {rest : α → Program Op ε β} (h : Still b raises p s)
    (later : ∀ value, (rest value).wp b (Ends good raises cut) s) :
    (p.bind rest).wp b (Ends good raises cut) s :=
  h.then later fun _ _ reached => reached

theorem still_returned (value : α) : Still b raises (.returned value : Program Op ε α) s := rfl

theorem still_bind {p : Program Op ε α} {rest : α → Program Op ε β} (h : Still b raises p s)
    (later : ∀ value, Still b raises (rest value) s) : Still b raises (p.bind rest) s :=
  h.then later fun _ _ reached => reached

theorem still_perform {op : Op α} (asked : b.asks op s)
    (kept : ∀ value s', b.allows op s (.ok value) s' → s' = s)
    (raised : ∀ error s', b.allows op s (.error error) s' → raises error s') :
    Still b raises (perform op) s :=
  (wp_perform op s).mpr ⟨asked, kept, raised⟩

end still
end wp

/-- A proof about the viewed states carries to the run of the handler. -/
theorem wp_run {h : Handler Op ε σ} {good : σ → Prop} {view : σ → κ} {b : Behaviour Op ε κ}
    {post : Outcome ε α → κ → Prop} (sim : Simulates h good view b)
    {p : Program Op ε α} {s : σ} (fine : good s) (proof : p.wp b post (view s)) :
    good (p.run h s).2 ∧ post (p.run h s).1 (view (p.run h s).2) := by
  induction p generalizing s with
  | returned value => exact ⟨fine, proof⟩
  | raised error => exact ⟨fine, proof⟩
  | unfinished => exact ⟨fine, proof⟩
  | call op next ih =>
    obtain ⟨still, allowed⟩ := sim op s fine proof.1
    exact ih _ still (proof.2 _ _ allowed)

/-- Every store at which the program may be stopped is good. -/
theorem wp_crash {h : Handler Op ε σ} {good : σ → Prop} {view : σ → κ} {b : Behaviour Op ε κ}
    {post : Outcome ε α → κ → Prop} (sim : Simulates h good view b) {p : Program Op ε α} {s : σ}
    (fine : good s) (proof : p.wp b post (view s)) (n : Nat) : good (p.crash h n s) := by
  induction n generalizing p s with
  | zero => cases p <;> exact fine
  | succ n ih =>
    cases p with
    | call op next =>
      obtain ⟨still, allowed⟩ := sim op s fine proof.1
      exact ih still (proof.2 _ _ allowed)
    | returned value => exact fine
    | raised error => exact fine
    | unfinished => exact fine

/-! A run in which some step was not fine says so in its history for ever, so what
    is proved of the fine steps holds of every run whose history is fine. -/

section restricted
variable {η : Type} {describe : {β : Type} → Op β → Except ε β → Option η}
  {b : Behaviour Op ε κ} {fine : η → Prop}

/-- What the caller owes does not depend on the history. -/
theorem wp_spoiled {post : Outcome ε α → κ × List η → Prop}
    (free : ∀ {β : Type} (op : Op β) s, b.asks op s) (p : Program Op ε α) {s : κ × List η}
    {e : η} (member : e ∈ s.2) (bad : ¬ fine e) :
    p.wp (b.observed describe) (fun o s' => (∀ e ∈ s'.2, fine e) → post o s') s := by
  induction p generalizing s with
  | returned value => exact fun all => absurd (all e member) bad
  | raised error => exact fun all => absurd (all e member) bad
  | unfinished => exact fun all => absurd (all e member) bad
  | call op next ih =>
    refine ⟨free op s.1, ?_⟩
    intro answer s' allowed
    have kept : e ∈ s'.2 := by
      rw [allowed.2]
      exact mem_record_of_mem _ member
    exact ih answer kept

theorem wp_of_restricted {post : Outcome ε α → κ × List η → Prop}
    (free : ∀ {β : Type} (op : Op β) s, b.asks op s) {p : Program Op ε α} {s : κ × List η}
    (h : p.wp ((b.observed describe).restricted describe fine) post s) :
    p.wp (b.observed describe) (fun o s' => (∀ e ∈ s'.2, fine e) → post o s') s := by
  induction p generalizing s with
  | returned value => exact fun _ => h
  | raised error => exact fun _ => h
  | unfinished => exact fun _ => h
  | call op next ih =>
    refine ⟨h.1, ?_⟩
    intro answer s' allowed
    by_cases good : ∀ e ∈ describe op answer, fine e
    · exact ih answer (h.2 answer s' ⟨allowed, good⟩)
    · simp only [Classical.not_forall] at good
      obtain ⟨e, he, bad⟩ := good
      have member : e ∈ s'.2 := by
        rw [allowed.2]
        exact mem_record_of_eq (Option.mem_def.mp he)
      exact wp_spoiled free _ member bad

end restricted
end Program
end AtomicProgram
