/-!
Computations that leave a trace of entries and may fail; what was traced before a failure is kept.
-/

namespace TextTemplate

structure Traced (Entry Error α : Type) where
  trace : List Entry
  outcome : Except Error α

namespace Traced

variable {Entry Error α β : Type}

def ok (result : α) : Traced Entry Error α := ⟨[], .ok result⟩

def fail (error : Error) : Traced Entry Error α := ⟨[], .error error⟩

def note (entries : List Entry) : Traced Entry Error Unit := ⟨entries, .ok ()⟩

def andThen (first : Traced Entry Error α) (next : α → Traced Entry Error β) : Traced Entry Error β :=
  match first.outcome with
  | .error error => ⟨first.trace, .error error⟩
  | .ok result => ⟨first.trace ++ (next result).trace, (next result).outcome⟩

def mapError {Other : Type} (change : Error → Other) (traced : Traced Entry Error α) :
    Traced Entry Other α :=
  ⟨traced.trace, traced.outcome.mapError change⟩

instance : Monad (Traced Entry Error) where
  pure := ok
  bind := andThen

instance : LawfulMonad (Traced Entry Error) := by
  refine .mk' _ ?_ ?_ ?_
  · rintro α ⟨trace, outcome⟩
    change andThen ⟨trace, outcome⟩ ok = _
    cases outcome <;> simp [andThen, ok]
  · intro α β result next
    change andThen (ok result) next = _
    simp [andThen, ok]
  · rintro α β γ ⟨trace, outcome⟩ next last
    change andThen (andThen ⟨trace, outcome⟩ next) last =
      andThen ⟨trace, outcome⟩ fun result => andThen (next result) last
    cases outcome with
    | error error => rfl
    | ok result =>
        simp only [andThen]
        cases (next result).outcome <;> simp

theorem outcome_bind_eq (first : Traced Entry Error α) (next : α → Traced Entry Error β) :
    (first >>= next).outcome = first.outcome >>= fun result => (next result).outcome := by
  obtain ⟨trace, outcome⟩ := first
  cases outcome <;> rfl

theorem outcome_bind {first : Traced Entry Error α} {next : α → Traced Entry Error β} {result : α}
    (finished : first.outcome = .ok result) : (first >>= next).outcome = (next result).outcome := by
  obtain ⟨trace, outcome⟩ := first
  cases finished
  rfl

theorem trace_bind {first : Traced Entry Error α} {next : α → Traced Entry Error β} {result : α}
    (finished : first.outcome = .ok result) : (first >>= next).trace = first.trace ++ (next result).trace := by
  obtain ⟨trace, outcome⟩ := first
  cases finished
  rfl

theorem outcome_bind_of_error {first : Traced Entry Error α} {error : Error}
    (failed : first.outcome = .error error) (next : α → Traced Entry Error β) :
    (first >>= next).outcome = .error error := by
  obtain ⟨trace, outcome⟩ := first
  cases failed
  rfl

theorem outcome_bind_eq_ok {first : Traced Entry Error α} {next : α → Traced Entry Error β} {result : β} :
    (first >>= next).outcome = .ok result ↔
      ∃ value, first.outcome = .ok value ∧ (next value).outcome = .ok result := by
  constructor
  · intro finished
    cases outcome : first.outcome with
    | ok value =>
        rw [outcome_bind outcome] at finished
        exact ⟨value, rfl, finished⟩
    | error error =>
        rw [outcome_bind_of_error outcome next] at finished
        cases finished
  · rintro ⟨value, outcome, finished⟩
    rw [outcome_bind outcome, finished]

theorem mapError_bind {Other : Type} (change : Error → Other) (traced : Traced Entry Error α)
    (next : α → Traced Entry Error β) :
    (traced >>= next).mapError change = traced.mapError change >>= fun result => (next result).mapError change := by
  obtain ⟨trace, outcome⟩ := traced
  cases outcome <;> rfl

end Traced

end TextTemplate
