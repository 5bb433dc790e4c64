import Mathlib.Data.Nat.Digits.Defs
import RemoteSearch.Text.Numeral

set_option autoImplicit false

/-! # Numerals and the numbers they stand for

A numeral is one or more digits, with a plus sign before them or not, and stands for the number that
has these digits (`Denotes`). Reading stops at the first digit that takes it past the limit, yet it
accepts every numeral whose number is within the limit and nothing else (`read_eq_ok_iff`): digits
that follow never make a number smaller, and leading zeros leave it at zero.
-/

namespace RemoteSearch.Text.Numeral

/-! ## Digits -/

/-- The character is the digit of this value in the radix. Letters count in either case. -/
def IsDigit (radix : Nat) (c : Char) (d : Nat) : Prop := d < radix ∧ c.toLower = Nat.digitChar d

theorem digit?_of_ascii : ∀ n < 128, ∀ d < 16,
    digit? 16 (Char.ofNat n) = some d ↔ (Char.ofNat n).toLower = Nat.digitChar d := by
  decide +kernel

theorem digit?_of_not_ascii {c : Char} (h : 128 ≤ c.toNat) (radix : Nat) :
    digit? radix c = none := by
  have hdecimal : ¬('0' ≤ c ∧ c ≤ '9') := fun hc => by
    have : c.toNat ≤ 57 := hc.2
    omega
  have hsmall : ¬('a' ≤ c ∧ c ≤ 'z') := fun hc => by
    have : c.toNat ≤ 122 := hc.2
    omega
  have hcapital : ¬('A' ≤ c ∧ c ≤ 'Z') := fun hc => by
    have : c.toNat ≤ 90 := hc.2
    omega
  simp only [digit?, if_neg hdecimal, if_neg hsmall, if_neg hcapital]
  rfl

theorem toNat_digitChar_lt : ∀ d < 16, (Nat.digitChar d).toNat < 128 := by decide

theorem toNat_toLower_of_not_ascii {c : Char} (h : 128 ≤ c.toNat) : c.toLower = c := by
  have hcapital : ¬(c.val ≥ 'A'.val ∧ c.val ≤ 'Z'.val) := fun hc => by
    have : c.toNat ≤ 90 := hc.2
    omega
  exact dif_neg hcapital

/-- Digits are told from other characters, up to a radix of sixteen. -/
theorem digit?_eq_some_iff {radix : Nat} (hradix : radix ≤ 16) (c : Char) (d : Nat) :
    digit? radix c = some d ↔ IsDigit radix c d := by
  have hfilter : digit? radix c = some d ↔ d < radix ∧ digit? 16 c = some d := by
    simp only [digit?, Option.filter_eq_some_iff, decide_eq_true_eq]
    constructor
    · rintro ⟨hvalue, hlt⟩
      exact ⟨hlt, hvalue, by omega⟩
    · rintro ⟨hlt, hvalue, -⟩
      exact ⟨hvalue, hlt⟩
  rw [hfilter, IsDigit]
  refine and_congr_right fun hlt => ?_
  have hd : d < 16 := by omega
  by_cases hascii : c.toNat < 128
  · have key := digit?_of_ascii c.toNat hascii d hd
    rwa [Char.ofNat_toNat] at key
  · -- Beyond ASCII there is no digit, and nothing is made small.
    have hc : 128 ≤ c.toNat := Nat.not_lt.1 hascii
    rw [digit?_of_not_ascii hc, toNat_toLower_of_not_ascii hc]
    refine iff_of_false nofun ?_
    rintro rfl
    have := toNat_digitChar_lt d hd
    omega

/-! ## Numerals -/

/-- The characters are digits of these values, the most significant first. -/
def AreDigits (radix : Nat) (s : List Char) (ds : List Nat) : Prop :=
  List.Forall₂ (IsDigit radix) s ds

/-- A numeral with the number that it stands for. -/
inductive Denotes (radix : Nat) : List Char → Nat → Prop
  | unsigned {s : List Char} {ds : List Nat} (some : s ≠ []) (digits : AreDigits radix s ds) :
      Denotes radix s (Nat.ofDigits radix ds.reverse)
  | signed {s : List Char} {ds : List Nat} (some : s ≠ []) (digits : AreDigits radix s ds) :
      Denotes radix ('+' :: s) (Nat.ofDigits radix ds.reverse)

/-- Digits are read after a number within the limit if and only if what they make of it is within
the limit too. -/
theorem readDigits_eq_ok_iff {radix limit : Nat} (hpos : 0 < radix) (hradix : radix ≤ 16)
    (s : List Char) (n m : Nat) :
    readDigits radix limit n s = .ok m ∧ n ≤ limit ↔
      ∃ ds, AreDigits radix s ds ∧
        m = radix ^ ds.length * n + Nat.ofDigits radix ds.reverse ∧ m ≤ limit := by
  induction s generalizing n with
  | nil =>
    constructor
    · rintro ⟨h, hn⟩
      cases h
      exact ⟨[], .nil, by simp, hn⟩
    · rintro ⟨ds, hds, rfl, hle⟩
      cases hds
      simp at hle ⊢
      exact ⟨by simp [readDigits], hle⟩
  | cons c s ih =>
    -- What a first digit `d` makes of `n` is where the others start from.
    have hvalue (d : Nat) (ds : List Nat) :
        radix ^ (d :: ds).length * n + Nat.ofDigits radix (d :: ds).reverse =
          radix ^ ds.length * (radix * n + d) + Nat.ofDigits radix ds.reverse := by
      rw [Nat.ofDigits_reverse_cons, List.length_cons, pow_succ]
      ring
    constructor
    · rintro ⟨h, hn⟩
      rw [readDigits] at h
      split at h
      · cases h
      · next d hd =>
        split at h
        · next hle =>
          obtain ⟨ds, hds, hm, hlimit⟩ := (ih _).1 ⟨h, hle⟩
          exact ⟨d :: ds, .cons ((digit?_eq_some_iff hradix c d).1 hd) hds,
            hm.trans (hvalue d ds).symm, hlimit⟩
        · cases h
    · rintro ⟨_ | ⟨d, ds⟩, hds, hm, hlimit⟩
      · cases hds
      · obtain ⟨hd, hds⟩ := List.forall₂_cons.1 hds
        rw [hvalue] at hm
        obtain ⟨hread, hle⟩ := (ih (radix * n + d)).2 ⟨ds, hds, hm, hlimit⟩
        have hn : n ≤ radix * n := Nat.le_mul_of_pos_left n hpos
        refine ⟨?_, by omega⟩
        rw [readDigits, (digit?_eq_some_iff hradix c d).2 hd]
        simp only [if_pos hle]
        exact hread

theorem read_of_unsigned (radix limit : Nat) {c : Char} (hc : c ≠ '+') (s : List Char) :
    read radix limit (c :: s) = readDigits radix limit 0 (c :: s) := by
  unfold read
  split
  · next h => cases h
  · next h => exact absurd (List.cons.inj h).1 hc
  · rfl

/-- A plus sign is no digit, neither on its own nor before others. -/
theorem readDigits_plus (radix limit n m : Nat) (s : List Char) :
    readDigits radix limit n ('+' :: s) ≠ .ok m := by
  have hplus : digit? radix '+' = none := rfl
  rw [readDigits, hplus]
  intro h
  cases h

/-- Reading with a limit accepts exactly the numerals of numbers within the limit. -/
theorem read_eq_ok_iff {radix : Nat} (hpos : 0 < radix) (hradix : radix ≤ 16) (limit : Nat)
    (s : List Char) (n : Nat) :
    read radix limit s = .ok n ↔ Denotes radix s n ∧ n ≤ limit := by
  have hdigits (s : List Char) : readDigits radix limit 0 s = .ok n ↔
      ∃ ds, AreDigits radix s ds ∧ n = Nat.ofDigits radix ds.reverse ∧ n ≤ limit := by
    have key : readDigits radix limit 0 s = .ok n ∧ 0 ≤ limit ↔ _ :=
      readDigits_eq_ok_iff hpos hradix s 0 n
    simpa using key
  constructor
  · intro h
    rcases s with _ | ⟨c, s⟩
    · cases h
    by_cases hc : c = '+'
    · subst hc
      rcases s with _ | ⟨c, s⟩
      · exact absurd h (readDigits_plus radix limit 0 n [])
      · obtain ⟨ds, hds, rfl, hle⟩ := (hdigits (c :: s)).1 h
        exact ⟨.signed nofun hds, hle⟩
    · rw [read_of_unsigned radix limit hc] at h
      obtain ⟨ds, hds, rfl, hle⟩ := (hdigits (c :: s)).1 h
      exact ⟨.unsigned nofun hds, hle⟩
  · rintro ⟨h, hle⟩
    cases h with
    | @unsigned s ds some digits =>
      obtain ⟨c, s, rfl⟩ := List.exists_cons_of_ne_nil some
      have hread := (hdigits (c :: s)).2 ⟨ds, digits, rfl, hle⟩
      have hc : c ≠ '+' := by
        rintro rfl
        exact readDigits_plus radix limit 0 _ s hread
      rw [read_of_unsigned radix limit hc]
      exact hread
    | @signed s ds some digits =>
      obtain ⟨c, s, rfl⟩ := List.exists_cons_of_ne_nil some
      exact (hdigits (c :: s)).2 ⟨ds, digits, rfl, hle⟩

end RemoteSearch.Text.Numeral
