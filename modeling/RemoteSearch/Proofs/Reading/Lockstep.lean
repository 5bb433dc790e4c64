import RemoteSearch.Reader

set_option autoImplicit false

/-! # Reading a field, read after read

How the reading of a field goes on is decided by its next read: it is over if nothing is missing, if
there are no more bytes or if the read fails for good, and otherwise there is less to do. These
equations are all that is needed to follow two readers at once.

A relation between two readers that is kept by reads is kept by the reading of a field as well
(`complete_lockstep`), where each read asks for something, and none for more than was missing at the
start. What reads keep of
one reader is a case of it (`complete_keeps`).
-/

namespace RemoteSearch.Reader

/-! ## The next read -/

theorem complete_zero (field : Field) (got : Nat) (newest : List UInt8) (r : Reader) :
    r.complete field got 0 newest = (.ok newest.reverse, r) := by
  rw [complete, if_pos rfl]

theorem complete_of_ended {field : Field} {got missing : Nat} (hm : missing ≠ 0)
    {newest : List UInt8} {r r' : Reader} (h : r.read missing = (.ok [], r')) :
    r.complete field got missing newest = (.error (.shortRead field (got + missing) got), r') := by
  rw [complete, if_neg hm]
  split
  · next h' => rw [h] at h'; cases h'; rfl
  · next h' => rw [h] at h'; cases h'
  · next h' => rw [h] at h'; cases h'

theorem complete_of_bytes {field : Field} {got missing : Nat} (hm : missing ≠ 0)
    {newest : List UInt8} {r r' : Reader} {b : UInt8} {bs : List UInt8}
    (h : r.read missing = (.ok (b :: bs), r')) :
    r.complete field got missing newest =
      r'.complete field (got + (b :: bs).length) (missing - (b :: bs).length)
        ((b :: bs).reverseAux newest) := by
  rw [complete, if_neg hm]
  split
  · next h' => rw [h] at h'; cases h'
  · next h' => rw [h] at h'; cases h'; rfl
  · next h' => rw [h] at h'; cases h'

theorem complete_of_error {field : Field} {got missing : Nat} (hm : missing ≠ 0)
    {newest : List UInt8} {r r' : Reader} {e : StreamError}
    (h : r.read missing = (.error e, r')) :
    r.complete field got missing newest =
      if e.isInterruption then r'.complete field got missing newest
      else (.error (.ofCall .reading e), r') := by
  rw [complete, if_neg hm]
  split
  · next h' => rw [h] at h'; cases h'
  · next h' => rw [h] at h'; cases h'
  · next h' => rw [h] at h'; cases h'; rfl

/-! ## All reads -/

variable {related : Reader → Reader → Prop} {limit : Nat}

/-- Two readers whose reads agree, as long as they ask for something and for no more than the limit,
agree on a field within it. -/
theorem complete_lockstep
    (step : ∀ asked, asked ≠ 0 → asked ≤ limit → ∀ r s, related r s →
      (r.read asked).1 = (s.read asked).1 ∧ related (r.read asked).2 (s.read asked).2)
    (field : Field) {got missing : Nat} (hmissing : missing ≤ limit) {newest : List UInt8}
    {r s : Reader} (h : related r s) :
    (r.complete field got missing newest).1 = (s.complete field got missing newest).1 ∧
      related (r.complete field got missing newest).2 (s.complete field got missing newest).2 := by
  fun_induction complete field got missing newest r generalizing s with
  | case1 got newest r =>
    rw [complete_zero]
    exact ⟨rfl, h⟩
  | case2 got missing newest r hm r' hr =>
    obtain ⟨ho, h'⟩ := step missing hm hmissing r s h
    rw [hr] at ho h'
    have hs : s.read missing = (.ok [], (s.read missing).2) := Prod.ext ho.symm rfl
    rw [complete_of_ended hm hs]
    exact ⟨rfl, h'⟩
  | case3 got missing newest r hm b bs r' hr ih =>
    obtain ⟨ho, h'⟩ := step missing hm hmissing r s h
    rw [hr] at ho h'
    have hs : s.read missing = (.ok (b :: bs), (s.read missing).2) := Prod.ext ho.symm rfl
    rw [complete_of_bytes hm hs]
    exact ih (Nat.le_trans (Nat.sub_le ..) hmissing) h'
  | case4 got missing newest r hm e r' hr hi ih =>
    obtain ⟨ho, h'⟩ := step missing hm hmissing r s h
    rw [hr] at ho h'
    have hs : s.read missing = (.error e, (s.read missing).2) := Prod.ext ho.symm rfl
    rw [complete_of_error hm hs, if_pos hi]
    exact ih hmissing h'
  | case5 got missing newest r hm e r' hr hi =>
    obtain ⟨ho, h'⟩ := step missing hm hmissing r s h
    rw [hr] at ho h'
    have hs : s.read missing = (.error e, (s.read missing).2) := Prod.ext ho.symm rfl
    rw [complete_of_error hm hs, if_neg hi]
    exact ⟨rfl, h'⟩

variable {P : Reader → Prop}

/-- What every read within the limit keeps, the reading of a field within it keeps. -/
theorem complete_keeps_within
    (step : ∀ asked, asked ≠ 0 → asked ≤ limit → ∀ r, P r → P (r.read asked).2)
    (field : Field) {got missing : Nat} (hmissing : missing ≤ limit) {newest : List UInt8}
    {r : Reader} (h : P r) : P (r.complete field got missing newest).2 := by
  have hboth : ∀ asked, asked ≠ 0 → asked ≤ limit → ∀ r s, r = s ∧ P r →
      (r.read asked).1 = (s.read asked).1 ∧
        (r.read asked).2 = (s.read asked).2 ∧ P (r.read asked).2 := by
    rintro asked hpos hasked r _ ⟨rfl, hr⟩
    exact ⟨rfl, rfl, step asked hpos hasked r hr⟩
  exact (complete_lockstep hboth field hmissing ⟨rfl, h⟩).2.2

/-- What every read keeps, the reading of a field keeps. -/
theorem complete_keeps (step : ∀ asked r, P r → P (r.read asked).2) (field : Field)
    (got missing : Nat) (newest : List UInt8) {r : Reader} (h : P r) :
    P (r.complete field got missing newest).2 :=
  complete_keeps_within (fun asked _ _ => step asked) field (Nat.le_refl missing) h

end RemoteSearch.Reader
