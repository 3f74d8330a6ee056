import ServiceContainer.Error

/-!
# Diagnostics

Findings that do not end a generation. A computation that notes findings keeps those that it made before it failed.

## Main definitions

* `Severity`, `Diagnostic` — a finding about a type
* `Noted` — a result or an error, with the findings made on the way
-/

namespace ServiceContainer

/-- How serious a finding is. -/
inductive Severity where
  | note | warning
  deriving DecidableEq, Repr

/-- The name of a severity. -/
def Severity.name : Severity → String
  | .note => "note"
  | .warning => "warning"

/-- A finding about a type. -/
structure Diagnostic where
  severity : Severity
  type : String
  message : String
  deriving DecidableEq, Repr

/-- The line that shows a finding. -/
def Diagnostic.line (d : Diagnostic) : String := d.severity.name ++ ": " ++ d.type ++ ": " ++ d.message

/-- The findings that are warnings. -/
def warnings (ds : List Diagnostic) : List Diagnostic := ds.filter (·.severity = .warning)

/-- A result or an error, with the findings made on the way to it. -/
structure Noted (α : Type) where
  notes : List Diagnostic
  outcome : Except GenerationError α

namespace Noted

variable {α β : Type}

/-- A result without findings. -/
def ok (x : α) : Noted α := ⟨[], .ok x⟩

/-- An error without findings. -/
def fail (e : GenerationError) : Noted α := ⟨[], .error e⟩

/-- A result or an error without findings. -/
def ofExcept (r : Except GenerationError α) : Noted α := ⟨[], r⟩

/-- Goes on with the result; the findings of both parts count. -/
def andThen (m : Noted α) (f : α → Noted β) : Noted β :=
  match m.outcome with
  | .ok x => ⟨m.notes ++ (f x).notes, (f x).outcome⟩
  | .error e => ⟨m.notes, .error e⟩

instance : Monad Noted where
  pure := ok
  bind := andThen

/-- Notes a finding. -/
def tell (d : Diagnostic) : Noted Unit := ⟨[d], .ok ()⟩

@[simp] theorem pure_notes (x : α) : (pure x : Noted α).notes = [] := rfl

@[simp] theorem pure_outcome (x : α) : (pure x : Noted α).outcome = .ok x := rfl

theorem bind_ok {m : Noted α} {x : α} (f : α → Noted β) (h : m.outcome = .ok x) :
    m >>= f = ⟨m.notes ++ (f x).notes, (f x).outcome⟩ := by
  change andThen m f = _
  simp [andThen, h]

theorem bind_error {m : Noted α} {e : GenerationError} (f : α → Noted β) (h : m.outcome = .error e) :
    m >>= f = ⟨m.notes, .error e⟩ := by
  change andThen m f = _
  simp [andThen, h]

@[simp] theorem ofExcept_outcome (r : Except GenerationError α) : (ofExcept r).outcome = r := rfl

@[simp] theorem tell_outcome (d : Diagnostic) : (tell d).outcome = .ok () := rfl

@[simp] theorem fail_outcome (e : GenerationError) : (fail e : Noted α).outcome = .error e := rfl

theorem outcome_bind_eq_ok {m : Noted α} {f : α → Noted β} {y : β} :
    (m >>= f).outcome = .ok y ↔ ∃ x, m.outcome = .ok x ∧ (f x).outcome = .ok y := by
  cases h : m.outcome with
  | ok x => simp [bind_ok f h]
  | error e => simp [bind_error f h]

theorem outcome_bind_eq_error {m : Noted α} {f : α → Noted β} {e : GenerationError} :
    (m >>= f).outcome = .error e ↔
      m.outcome = .error e ∨ ∃ x, m.outcome = .ok x ∧ (f x).outcome = .error e := by
  cases h : m.outcome with
  | ok x => simp [bind_ok f h]
  | error e' => simp [bind_error f h]

end Noted

/-! ### Results without findings -/

section Results

variable {ε α β : Type}

theorem ok_bind {x : α} {f : α → Except ε β} : (Except.ok x >>= f) = f x := rfl

theorem bind_eq_ok {x : Except ε α} {f : α → Except ε β} {y : β} :
    x >>= f = .ok y ↔ ∃ a, x = .ok a ∧ f a = .ok y := by
  cases x with
  | ok a => exact ⟨fun h => ⟨a, rfl, h⟩, fun ⟨_, ha, h⟩ => Except.ok.inj ha ▸ h⟩
  | error e => exact ⟨(nomatch ·), fun ⟨_, ha, _⟩ => nomatch ha⟩

theorem bind_eq_error {x : Except ε α} {f : α → Except ε β} {e : ε} :
    x >>= f = .error e ↔ x = .error e ∨ ∃ a, x = .ok a ∧ f a = .error e := by
  cases x with
  | ok a =>
    change f a = .error e ↔ _
    simp
  | error e' =>
    change Except.error e' = .error e ↔ _
    simp

theorem mapError_eq_ok {ε' : Type} {f : ε → ε'} {x : Except ε α} {y : α} : x.mapError f = .ok y ↔ x = .ok y := by
  cases x with
  | ok a =>
    change Except.ok a = .ok y ↔ _
    simp
  | error e =>
    change Except.error (f e) = .ok y ↔ _
    simp

theorem mapError_eq_error {ε' : Type} {f : ε → ε'} {x : Except ε α} {e : ε'} :
    x.mapError f = .error e ↔ ∃ e', x = .error e' ∧ f e' = e := by
  cases x with
  | ok a =>
    change Except.ok a = .error e ↔ _
    simp
  | error e' =>
    change Except.error (f e') = .error e ↔ _
    simp

theorem map_eq_error {f : α → β} {x : Except ε α} {e : ε} : x.map f = .error e ↔ x = .error e := by
  cases x <;> simp [Except.map]

theorem exists_map_eq_ok {f : α → β} {x : Except ε α} : (∃ y, x.map f = .ok y) ↔ ∃ y, x = .ok y := by
  cases x <;> simp [Except.map]

/-- There is a result where there is no error. -/
theorem ok_iff_not_error {x : Except ε α} : (∃ y, x = .ok y) ↔ ∀ e, x ≠ .error e := by
  cases x <;> simp

theorem toOption_eq_some {x : Except ε α} {y : α} : x.toOption = some y ↔ x = .ok y := by
  cases x <;> simp [Except.toOption]

/-- A check that there is a result finds it. -/
theorem eq_ok_of_isSome {x : Except ε α} (h : x.toOption.isSome = true) : x = .ok (x.toOption.get h) := by
  cases x with
  | ok => rfl
  | error => exact nomatch h

theorem pure_eq_ok {x y : α} : (pure x : Except ε α) = .ok y ↔ x = y :=
  ⟨Except.ok.inj, congrArg Except.ok⟩

end Results

end ServiceContainer
