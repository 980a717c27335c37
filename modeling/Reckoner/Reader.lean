/-!
# Readers

A reader takes a value off the front of a list of symbols, or fails. It carries a proof that it
takes at least one symbol, so that a loop over a reader ends when the symbols run out. -/

namespace Reckoner

/-- A step after another has a result when both have one. -/
theorem bind_eq_ok_iff {ε α β : Type} {first : Except ε α} {next : α → Except ε β} {b : β} :
    first.bind next = .ok b ↔ ∃ a, first = .ok a ∧ next a = .ok b := by
  cases first with
  | error e =>
      constructor
      · intro done
        contradiction
      · rintro ⟨a, done, _⟩
        contradiction
  | ok a =>
      constructor
      · intro done
        exact ⟨a, rfl, done⟩
      · rintro ⟨_, ⟨rfl⟩, done⟩
        exact done

/-- Reads a value of type `α` off the front of a list of symbols, taking at least one of them. -/
structure Reader (σ ε α : Type) where
  read : List σ → Except ε (α × List σ)
  shortens : ∀ {symbols value rest}, read symbols = .ok (value, rest) →
    rest.length < symbols.length

namespace Reader

variable {σ ε α β : Type}

/-- Applies `f` to what is read. -/
def map (f : α → β) (reader : Reader σ ε α) : Reader σ ε β where
  read symbols :=
    match reader.read symbols with
    | .error e => .error e
    | .ok (value, rest) => .ok (f value, rest)
  shortens done := by
    split at done
    · contradiction
    · rename_i step
      cases done
      exact reader.shortens step

end Reader

end Reckoner
