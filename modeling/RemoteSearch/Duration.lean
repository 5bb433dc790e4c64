set_option autoImplicit false

/-! # Durations

A span of time as a count of nanoseconds. Where a span limits how long a call may take, a span of
zero means the same as no limit.
-/

namespace RemoteSearch

/-- A span of time. -/
structure Duration where
  nanoseconds : Nat
deriving DecidableEq

namespace Duration

/-- The span of so many milliseconds. -/
def ofMilliseconds (n : Nat) : Duration := ⟨n * 1000000⟩

/-- A limit in force: one of zero is no limit. -/
def limit? (d : Option Duration) : Option Duration := d.filter (0 < ·.nanoseconds)

/-- The limit given by so many milliseconds, none for zero. -/
def limitOfMilliseconds (n : Nat) : Option Duration :=
  if 0 < n then some (ofMilliseconds n) else none

theorem limit?_ne_zero (d : Option Duration) : limit? d ≠ some ⟨0⟩ := by
  cases d with
  | none => simp [limit?]
  | some d =>
    intro h
    simp only [limit?, Option.filter_eq_some_iff, decide_eq_true_eq] at h
    obtain ⟨_, h⟩ := h
    exact absurd h (Nat.lt_irrefl 0)

@[simp] theorem limit?_limitOfMilliseconds (n : Nat) :
    limit? (limitOfMilliseconds n) = limitOfMilliseconds n := by
  unfold limitOfMilliseconds
  split
  · next h =>
    have hp : 0 < n * 1000000 := by omega
    simp [limit?, ofMilliseconds, Option.filter, hp]
  · rfl

end Duration

end RemoteSearch
