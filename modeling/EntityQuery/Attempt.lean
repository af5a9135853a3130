import EntityQuery.Error

/-! Attempts to change something, which may fail on the way. -/

namespace EntityQuery

/-- An attempt to change something: how it ended, and what is there afterwards in either case. -/
structure Attempt (σ α : Type) where
  result : Except QueryError α
  after : σ

namespace Attempt

variable {σ τ α : Type}

def failed (e : QueryError) (before : σ) : Attempt σ α :=
  ⟨.error e, before⟩

def ofExcept (before : σ) : Except QueryError σ → Attempt σ Unit
  | .ok after => ⟨.ok (), after⟩
  | .error e => failed e before

def within (f : σ → τ) (attempt : Attempt σ α) : Attempt τ α :=
  ⟨attempt.result, f attempt.after⟩

end Attempt

end EntityQuery
