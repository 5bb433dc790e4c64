import Mathlib.Algebra.Group.Nat.Defs
import RemoteSearch.Text.Utf8

set_option autoImplicit false

/-! # Reading what was written

The reading of text undoes its writing, and gives nothing else: bytes are read strictly as a text if
and only if they are the bytes of that text (`strict?_eq_some_iff`).

A character is open after some of its bytes. What the machine keeps of them then admits certain
numbers, and of every number that it admits the character begins with just the bytes that were read
(`Inside.Opened`). Each byte that fits keeps this true, and the last one makes it say that the
character that is read has the bytes it was read from.

What is read leniently has the newlines of its bytes and no others (`count_newline_lenient`),
because neither a character of several bytes nor an invalid stretch shows as one.
-/

namespace RemoteSearch.Text.Utf8

/-! ## The bytes of a character -/

/-- The last so many bytes of the character of a number, with six bits in each. -/
def tail : Nat → Nat → List UInt8
  | 0, _ => []
  | n + 1, v => UInt8.ofNat (v / 64 ^ n % 64 + 128) :: tail n v

theorem toNat_ofNat {v : Nat} (h : v.isValidChar) : (Char.ofNat v).val.toNat = v := by
  rw [Char.ofNat, dif_pos h]
  rfl

theorem encodeChar_one {v : Nat} (h : v < 0x80) :
    String.utf8EncodeChar (Char.ofNat v) = [UInt8.ofNat v] := by
  have hvalid : v.isValidChar := .inl (by omega)
  rw [String.utf8EncodeChar]
  simp only [toNat_ofNat hvalid]
  rw [if_pos (by omega)]

theorem encodeChar_two {v : Nat} (h : 0x80 ≤ v) (h' : v < 0x800) :
    v.isValidChar ∧
      String.utf8EncodeChar (Char.ofNat v) = UInt8.ofNat (v / 64 + 192) :: tail 1 v := by
  have hvalid : v.isValidChar := .inl (by omega)
  refine ⟨hvalid, ?_⟩
  have hlead : v / 64 % 32 = v / 64 := by omega
  rw [String.utf8EncodeChar]
  simp only [toNat_ofNat hvalid]
  rw [if_neg (by omega), if_pos (by omega), hlead]
  simp [tail]

theorem encodeChar_three {v : Nat} (h : 0x800 ≤ v) (h' : v < 0x10000)
    (hvalid : v < 0xd800 ∨ 0xdfff < v) :
    v.isValidChar ∧
      String.utf8EncodeChar (Char.ofNat v) = UInt8.ofNat (v / 4096 + 224) :: tail 2 v := by
  have hvalid : v.isValidChar := hvalid.imp id fun h => ⟨h, by omega⟩
  refine ⟨hvalid, ?_⟩
  have hlead : v / 4096 % 16 = v / 4096 := by omega
  rw [String.utf8EncodeChar]
  simp only [toNat_ofNat hvalid]
  rw [if_neg (by omega), if_neg (by omega), if_pos (by omega), hlead]
  simp [tail]

theorem encodeChar_four {v : Nat} (h : 0x10000 ≤ v) (h' : v < 0x110000) :
    v.isValidChar ∧
      String.utf8EncodeChar (Char.ofNat v) = UInt8.ofNat (v / 262144 + 240) :: tail 3 v := by
  have hvalid : v.isValidChar := .inr ⟨by omega, h'⟩
  refine ⟨hvalid, ?_⟩
  have hlead : v / 262144 % 8 = v / 262144 := by omega
  rw [String.utf8EncodeChar]
  simp only [toNat_ofNat hvalid]
  rw [if_neg (by omega), if_neg (by omega), if_neg (by omega), hlead]
  simp [tail]

/-- A byte below `80` stands for its own character and in no other. -/
theorem not_mem_encodeChar {c : Char} {b : UInt8} (hb : b.toNat < 0x80) (hc : c.toNat ≠ b.toNat) :
    b ∉ String.utf8EncodeChar c := by
  have hne : ∀ n, 0x80 ≤ n → n < 0x100 → b ≠ .ofNat n := by
    rintro n hn hn' rfl
    have hread : (UInt8.ofNat n).toNat = n := UInt8.toNat_ofNat_of_lt hn'
    omega
  rw [String.utf8EncodeChar]
  have hv : c.val.toNat = c.toNat := rfl
  simp only [hv]
  split
  · rw [List.mem_singleton]
    rintro rfl
    have hread : (UInt8.ofNat c.toNat).toNat = c.toNat :=
      UInt8.toNat_ofNat_of_lt (by show _ < 256; omega)
    exact hc hread.symm
  split
  · simp only [List.mem_cons, List.not_mem_nil, or_false, not_or]
    exact ⟨hne _ (by omega) (by omega), hne _ (by omega) (by omega)⟩
  split
  · simp only [List.mem_cons, List.not_mem_nil, or_false, not_or]
    exact ⟨hne _ (by omega) (by omega), hne _ (by omega) (by omega), hne _ (by omega) (by omega)⟩
  · simp only [List.mem_cons, List.not_mem_nil, or_false, not_or]
    exact ⟨hne _ (by omega) (by omega), hne _ (by omega) (by omega), hne _ (by omega) (by omega),
      hne _ (by omega) (by omega)⟩

/-! ## Open characters -/

/-- A number that the bytes read so far admit. -/
structure Inside.Admits (i : Inside) (v : Nat) : Prop where
  bits : v / 64 ^ i.owed = i.bits
  low : i.low.toNat ≤ v / 64 ^ (i.owed - 1) % 64 + 128
  high : v / 64 ^ (i.owed - 1) % 64 + 128 ≤ i.high.toNat

/-- A character is open after bytes. -/
structure Inside.Opened (i : Inside) (bytes : List UInt8) : Prop where
  begun : bytes ≠ []
  owed : 0 < i.owed
  low : 0x80 ≤ i.low.toNat
  high : i.high.toNat ≤ 0xbf
  encodes : ∀ v, i.Admits v →
    v.isValidChar ∧ String.utf8EncodeChar (Char.ofNat v) = bytes ++ tail i.owed v

theorem opened_two {b : UInt8} (h : 0xc2 ≤ b.toNat) (h' : b.toNat < 0xe0) :
    (⟨1, 0x80, 0xbf, b.toNat - 0xc0⟩ : Inside).Opened [b] := by
  refine ⟨nofun, Nat.one_pos, Nat.le_refl _, Nat.le_refl _, fun v hv => ?_⟩
  have hbits : v / 64 = b.toNat - 0xc0 := hv.bits
  obtain ⟨hvalid, hencode⟩ := encodeChar_two (v := v) (by omega) (by omega)
  have hlead : v / 64 + 192 = b.toNat := by omega
  rw [hlead, UInt8.ofNat_toNat] at hencode
  exact ⟨hvalid, hencode⟩

theorem opened_three {b low high : UInt8} {bits : Nat} (hlead : bits + 224 = b.toNat)
    (hlow : 0x80 ≤ low.toNat) (hhigh : high.toNat ≤ 0xbf)
    (hrange : ∀ next, low.toNat ≤ next + 128 → next + 128 ≤ high.toNat →
      0x20 ≤ bits * 64 + next ∧ bits < 16 ∧ (bits * 64 + next < 0x360 ∨ 0x380 ≤ bits * 64 + next)) :
    (⟨2, low, high, bits⟩ : Inside).Opened [b] := by
  refine ⟨nofun, Nat.two_pos, hlow, hhigh, fun v hv => ?_⟩
  have hbits : v / 4096 = bits := hv.bits
  have hnext := hrange (v / 64 % 64) hv.low hv.high
  obtain ⟨hvalid, hencode⟩ := encodeChar_three (v := v) (by omega) (by omega) (by omega)
  rw [hbits, hlead, UInt8.ofNat_toNat] at hencode
  exact ⟨hvalid, hencode⟩

theorem opened_four {b low high : UInt8} {bits : Nat} (hlead : bits + 240 = b.toNat)
    (hlow : 0x80 ≤ low.toNat) (hhigh : high.toNat ≤ 0xbf)
    (hrange : ∀ next, low.toNat ≤ next + 128 → next + 128 ≤ high.toNat →
      0x10 ≤ bits * 64 + next ∧ bits * 64 + next < 0x110) :
    (⟨3, low, high, bits⟩ : Inside).Opened [b] := by
  refine ⟨nofun, Nat.succ_pos 2, hlow, hhigh, fun v hv => ?_⟩
  have hbits : v / 262144 = bits := hv.bits
  have hnext := hrange (v / 4096 % 64) hv.low hv.high
  obtain ⟨hvalid, hencode⟩ := encodeChar_four (v := v) (by omega) (by omega)
  rw [hbits, hlead, UInt8.ofNat_toNat] at hencode
  exact ⟨hvalid, hencode⟩

theorem start_ascii {b : UInt8} (h : b < 0x80) : start b = ([some (Char.ofNat b.toNat)], none) :=
  if_pos h

/-- A byte from `80` on that comes between characters opens one, or is invalid. -/
theorem start_cases {b : UInt8} (hb : ¬b < 0x80) :
    start b = ([none], none) ∨ ∃ i, start b = ([], some i) ∧ i.Opened [b] := by
  -- There is one case for each condition of `start`, in its order.
  unfold start
  rw [if_neg hb]
  split
  · exact .inl rfl
  split
  · next h h' =>
    simp only [UInt8.lt_iff_toNat_lt, UInt8.reduceToNat] at h h'
    exact .inr ⟨_, rfl, opened_two (by omega) h'⟩
  split
  · next h =>
    subst h
    exact .inr ⟨_, rfl, opened_three rfl (by decide) (by decide) (by simp; omega)⟩
  split
  · next h =>
    subst h
    exact .inr ⟨_, rfl, opened_three rfl (by decide) (by decide) (by simp; omega)⟩
  split
  · next h₁ h₂ h₃ h₄ =>
    simp only [UInt8.lt_iff_toNat_lt, ← UInt8.toNat_inj, UInt8.reduceToNat] at *
    exact .inr ⟨_, rfl, opened_three (by omega) (by decide) (by decide) (by simp; omega)⟩
  split
  · next h =>
    subst h
    exact .inr ⟨_, rfl, opened_four rfl (by decide) (by decide) (by simp; omega)⟩
  split
  · next h₁ h₂ h₃ h₄ =>
    simp only [UInt8.lt_iff_toNat_lt, ← UInt8.toNat_inj, UInt8.reduceToNat] at *
    exact .inr ⟨_, rfl, opened_four (by omega) (by decide) (by decide) (by simp; omega)⟩
  split
  · next h =>
    subst h
    exact .inr ⟨_, rfl, opened_four rfl (by decide) (by decide) (by simp; omega)⟩
  · exact .inl rfl

theorem resume_of_fits {i : Inside} {b : UInt8} (h : i.low ≤ b ∧ b ≤ i.high) :
    resume i b =
      if i.owed ≤ 1 then ([some (Char.ofNat (i.bits * 64 + (b.toNat - 0x80)))], none)
      else ([], some ⟨i.owed - 1, 0x80, 0xbf, i.bits * 64 + (b.toNat - 0x80)⟩) :=
  if_pos h

theorem resume_of_not_fits {i : Inside} {b : UInt8} (h : ¬(i.low ≤ b ∧ b ≤ i.high)) :
    resume i b = (none :: (start b).1, (start b).2) :=
  if_neg h

/-- A byte that fits into an open character completes it or keeps it open. -/
theorem Inside.Opened.resume {i : Inside} {bytes : List UInt8} {b : UInt8} (h : i.Opened bytes)
    (hb : i.low ≤ b ∧ b ≤ i.high) :
    (∃ c, Utf8.resume i b = ([some c], none) ∧ String.utf8EncodeChar c = bytes ++ [b]) ∨
      ∃ i', Utf8.resume i b = ([], some i') ∧ i'.Opened (bytes ++ [b]) := by
  obtain ⟨-, howed, hlow, hhigh, hencodes⟩ := h
  have hfits := resume_of_fits hb
  obtain ⟨hb, hb'⟩ := hb
  rw [UInt8.le_iff_toNat_le] at hb hb'
  obtain ⟨owed, low, high, bits⟩ := i
  -- The number read so far gives both what it was before this byte and the byte itself.
  obtain ⟨w, hw⟩ : ∃ w, w = bits * 64 + (b.toNat - 0x80) := ⟨_, rfl⟩
  have hbits : w / 64 = bits := by omega
  have hbyte : w % 64 + 128 = b.toNat := by
    have hge : 0x80 ≤ b.toNat := Nat.le_trans hlow hb
    have hle : b.toNat ≤ 0xbf := Nat.le_trans hb' hhigh
    omega
  simp only [← hw] at hfits
  match owed, howed with
  | 1, _ =>
    have hv : (⟨1, low, high, bits⟩ : Inside).Admits w := by
      refine ⟨hbits, ?_, ?_⟩
      · show low.toNat ≤ w / 1 % 64 + 128
        rwa [Nat.div_one, hbyte]
      · show w / 1 % 64 + 128 ≤ high.toNat
        rwa [Nat.div_one, hbyte]
    obtain ⟨-, hencode⟩ := hencodes w hv
    refine .inl ⟨_, hfits, ?_⟩
    rw [hencode, tail, tail, Nat.pow_zero, Nat.div_one, hbyte, UInt8.ofNat_toNat]
  | owed + 2, _ =>
    refine .inr ⟨_, hfits, by simp, Nat.succ_pos owed, Nat.le_refl _, Nat.le_refl _, fun v hv => ?_⟩
    have hw' : v / 64 ^ (owed + 1) = w := hv.bits
    have hv' : (⟨owed + 2, low, high, bits⟩ : Inside).Admits v := by
      refine ⟨?_, ?_, ?_⟩
      · show v / 64 ^ (owed + 1 + 1) = bits
        rw [Nat.pow_succ, ← Nat.div_div_eq_div_mul, hw', hbits]
      · show low.toNat ≤ v / 64 ^ (owed + 1) % 64 + 128
        rwa [hw', hbyte]
      · show v / 64 ^ (owed + 1) % 64 + 128 ≤ high.toNat
        rwa [hw', hbyte]
    obtain ⟨hvalid, hencode⟩ := hencodes v hv'
    refine ⟨hvalid, ?_⟩
    rw [hencode, tail, hw', hbyte, UInt8.ofNat_toNat, List.append_assoc]
    rfl

/-! ## Bytes of a text -/

/-- The bytes of the character at which the machine is, between characters or inside one. -/
def Begun : Option Inside → List UInt8 → Prop
  | none, bytes => bytes = []
  | some i, bytes => i.Opened bytes

/-- A byte completes a character, keeps one open, or shows that the bytes are invalid. -/
theorem step_cases {state : Option Inside} {bytes : List UInt8} (h : Begun state bytes)
    (b : UInt8) :
    (∃ c, step state b = ([some c], none) ∧ String.utf8EncodeChar c = bytes ++ [b]) ∨
      (∃ i, step state b = ([], some i) ∧ i.Opened (bytes ++ [b])) ∨
      ∃ more state', step state b = (none :: more, state') := by
  cases state with
  | none =>
    have hbytes : bytes = [] := h
    subst hbytes
    show (∃ c, start b = _ ∧ _) ∨ (∃ i, start b = _ ∧ _) ∨ ∃ more state', start b = _
    by_cases hb : b < 0x80
    · refine .inl ⟨_, start_ascii hb, ?_⟩
      rw [UInt8.lt_iff_toNat_lt] at hb
      rw [encodeChar_one hb, UInt8.ofNat_toNat]
      rfl
    · rcases start_cases hb with hstart | hstart
      · exact .inr (.inr ⟨_, _, hstart⟩)
      · exact .inr (.inl hstart)
  | some i =>
    by_cases hb : i.low ≤ b ∧ b ≤ i.high
    · rcases Inside.Opened.resume h hb with hread | hread
      · exact .inl hread
      · exact .inr (.inl hread)
    · exact .inr (.inr ⟨_, _, resume_of_not_fits hb⟩)

/-- Bytes that are read without an invalid stretch are those of the characters that are read. -/
theorem encode_of_readFrom {state : Option Inside} {begun bytes : List UInt8} {s : List Char}
    (h : Begun state begun) (hread : readFrom state bytes = s.map some) :
    encode s = begun ++ bytes := by
  induction bytes generalizing state begun s with
  | nil =>
    cases state with
    | none =>
      have hbegun : begun = [] := h
      rw [readFrom, eq_comm, List.map_eq_nil_iff] at hread
      rw [hread, hbegun]
      rfl
    | some i => cases s <;> cases hread
  | cons b bytes ih =>
    rw [readFrom] at hread
    rcases step_cases h b with ⟨c, hstep, hencode⟩ | ⟨i, hstep, hopened⟩ | ⟨more, state', hstep⟩
    · rw [hstep] at hread
      cases s with
      | nil => cases hread
      | cons c' s =>
        obtain ⟨hc, hs⟩ := List.cons.inj hread
        cases hc
        have key : encode s = [] ++ bytes := ih (show Begun none [] from rfl) hs
        rw [encode, List.flatMap_cons, ← encode, key, hencode, List.append_assoc]
        rfl
    · rw [hstep] at hread
      rw [ih (show Begun (some i) (begun ++ [b]) from hopened) hread, List.append_assoc]
      rfl
    · rw [hstep] at hread
      cases s with
      | nil => cases hread
      | cons c' s => cases (List.cons.inj hread).1

/-! ## Text in bytes -/

theorem start_two {b : UInt8} (h : 0xc2 ≤ b.toNat) (h' : b.toNat < 0xe0) :
    start b = ([], some ⟨1, 0x80, 0xbf, b.toNat - 0xc0⟩) := by
  simp only [start, UInt8.lt_iff_toNat_lt, UInt8.reduceToNat]
  rw [if_neg (by omega), if_neg (by omega), if_pos (by omega)]

theorem start_three {b : UInt8} (h : 0xe1 ≤ b.toNat) (h' : b.toNat < 0xf0) (hb : b.toNat ≠ 0xed) :
    start b = ([], some ⟨2, 0x80, 0xbf, b.toNat - 0xe0⟩) := by
  simp only [start, UInt8.lt_iff_toNat_lt, ← UInt8.toNat_inj, UInt8.reduceToNat]
  rw [if_neg (by omega), if_neg (by omega), if_neg (by omega), if_neg (by omega), if_neg (by omega),
    if_pos (by omega)]

theorem start_four {b : UInt8} (h : 0xf1 ≤ b.toNat) (h' : b.toNat < 0xf4) :
    start b = ([], some ⟨3, 0x80, 0xbf, b.toNat - 0xf0⟩) := by
  simp only [start, UInt8.lt_iff_toNat_lt, ← UInt8.toNat_inj, UInt8.reduceToNat]
  rw [if_neg (by omega), if_neg (by omega), if_neg (by omega), if_neg (by omega), if_neg (by omega),
    if_neg (by omega), if_neg (by omega), if_pos (by omega)]

theorem opened_of_start {b : UInt8} {i : Inside} (h : start b = ([], some i)) : i.Opened [b] := by
  by_cases hb : b < 0x80
  · rw [start_ascii hb] at h
    cases h
  · rcases start_cases hb with hinvalid | ⟨i', hstart, hopened⟩
    · rw [hinvalid] at h
      cases h
    · rw [hstart] at h
      cases h
      exact hopened

/-- Where any continuation byte may come next, a number is admitted by its upper bits alone. -/
theorem admits_of_bits {owed bits v : Nat} (h : v / 64 ^ owed = bits) :
    (⟨owed, 0x80, 0xbf, bits⟩ : Inside).Admits v := by
  refine ⟨h, ?_, ?_⟩
  · show 0x80 ≤ _ % 64 + 128
    omega
  · show _ % 64 + 128 ≤ 0xbf
    omega

/-- Every character of more than one byte is opened by some byte. -/
theorem exists_start {v : Nat} (hvalid : v.isValidChar) (h : 0x80 ≤ v) :
    ∃ b i, start b = ([], some i) ∧ i.Admits v := by
  have hscalar : v < 0xd800 ∨ 0xdfff < v ∧ v < 0x110000 := hvalid
  have hlead : ∀ n, n < 0x100 → ∃ b : UInt8, b.toNat = n :=
    fun n hn => ⟨.ofNat n, UInt8.toNat_ofNat_of_lt hn⟩
  -- After four of the leads the next byte is limited. What this leaves out has a shorter form, is a
  -- surrogate or is beyond the last code point.
  by_cases h₂ : v < 0x800
  · obtain ⟨b, hb⟩ := hlead (v / 64 + 0xc0) (by omega)
    exact ⟨b, _, start_two (by omega) (by omega), admits_of_bits (show v / 64 = _ by omega)⟩
  by_cases h₃ : v < 0x10000
  · by_cases he0 : v < 0x1000
    · exact ⟨0xe0, _, rfl, show v / 4096 = 0 by omega, show 0xa0 ≤ v / 64 % 64 + 128 by omega,
        show v / 64 % 64 + 128 ≤ 0xbf by omega⟩
    by_cases hed : v / 4096 = 0xd
    · exact ⟨0xed, _, rfl, hed, show 0x80 ≤ v / 64 % 64 + 128 by omega,
        show v / 64 % 64 + 128 ≤ 0x9f by omega⟩
    obtain ⟨b, hb⟩ := hlead (v / 4096 + 0xe0) (by omega)
    exact ⟨b, _, start_three (by omega) (by omega) (by omega),
      admits_of_bits (show v / 4096 = _ by omega)⟩
  · by_cases hf0 : v < 0x40000
    · exact ⟨0xf0, _, rfl, show v / 262144 = 0 by omega, show 0x90 ≤ v / 4096 % 64 + 128 by omega,
        show v / 4096 % 64 + 128 ≤ 0xbf by omega⟩
    by_cases hf4 : 0x100000 ≤ v
    · exact ⟨0xf4, _, rfl, show v / 262144 = 4 by omega, show 0x80 ≤ v / 4096 % 64 + 128 by omega,
        show v / 4096 % 64 + 128 ≤ 0x8f by omega⟩
    obtain ⟨b, hb⟩ := hlead (v / 262144 + 0xf0) (by omega)
    exact ⟨b, _, start_four (by omega) (by omega), admits_of_bits (show v / 262144 = _ by omega)⟩

/-- The next byte of a number that is admitted fits. -/
theorem resume_tail {v n : Nat} {i : Inside} (howed : i.owed = n + 1) (h : i.Admits v) :
    resume i (.ofNat (v / 64 ^ n % 64 + 128)) =
      if n = 0 then ([some (Char.ofNat v)], none) else ([], some ⟨n, 0x80, 0xbf, v / 64 ^ n⟩) := by
  obtain ⟨hbits, hlow, hhigh⟩ := h
  rw [howed] at hbits hlow hhigh
  generalize hbyte : UInt8.ofNat (v / 64 ^ n % 64 + 128) = b
  have hb : b.toNat = v / 64 ^ n % 64 + 128 := by
    rw [← hbyte]
    exact UInt8.toNat_ofNat_of_lt (by show _ < 256; omega)
  have hfits : i.low ≤ b ∧ b ≤ i.high := by
    rw [UInt8.le_iff_toNat_le, UInt8.le_iff_toNat_le, hb]
    exact ⟨hlow, hhigh⟩
  have hread : i.bits * 64 + (b.toNat - 0x80) = v / 64 ^ n := by
    rw [hb, ← hbits, Nat.pow_succ, ← Nat.div_div_eq_div_mul]
    omega
  rw [resume_of_fits hfits, hread, howed]
  cases n with
  | zero => rw [Nat.pow_zero, Nat.div_one]; rfl
  | succ n => rfl

/-- The bytes that an open character lacks complete it. -/
theorem readFrom_tail (v : Nat) (rest : List UInt8) (n : Nat) {i : Inside} (howed : i.owed = n + 1)
    (h : i.Admits v) :
    readFrom (some i) (tail (n + 1) v ++ rest) = some (Char.ofNat v) :: readFrom none rest := by
  induction n generalizing i with
  | zero =>
    rw [tail, List.cons_append, readFrom, step, resume_tail howed h]
    rfl
  | succ n ih =>
    rw [tail, List.cons_append, readFrom, step, resume_tail howed h]
    exact ih rfl (admits_of_bits rfl)

theorem readFrom_encodeChar (c : Char) (rest : List UInt8) :
    readFrom none (String.utf8EncodeChar c ++ rest) = some c :: readFrom none rest := by
  have hc : Char.ofNat c.toNat = c := Char.ofNat_toNat c
  have hvalid : c.toNat.isValidChar := c.valid
  by_cases h : c.toNat < 0x80
  · have hread : (UInt8.ofNat c.toNat).toNat = c.toNat :=
      UInt8.toNat_ofNat_of_lt (by show _ < 256; omega)
    have hb : UInt8.ofNat c.toNat < 0x80 := by
      rw [UInt8.lt_iff_toNat_lt, hread]
      exact h
    have hencode := encodeChar_one h
    rw [hc] at hencode
    rw [hencode, List.cons_append, readFrom, step, start_ascii hb, hread, hc]
    rfl
  · obtain ⟨b, i, hstart, hadmits⟩ := exists_start hvalid (by omega)
    obtain ⟨-, howed, -, -, hencodes⟩ := opened_of_start hstart
    obtain ⟨-, hencode⟩ := hencodes _ hadmits
    obtain ⟨n, hn⟩ : ∃ n, i.owed = n + 1 := ⟨i.owed - 1, by omega⟩
    rw [hc, hn] at hencode
    rw [hencode, List.append_assoc, List.cons_append, readFrom, step, hstart]
    show readFrom (some i) (tail (n + 1) c.toNat ++ rest) = some c :: readFrom none rest
    rw [readFrom_tail c.toNat rest n hn hadmits, hc]

theorem read_encode (s : List Char) : read (encode s) = s.map some := by
  induction s with
  | nil => rfl
  | cons c s ih =>
    rw [read] at ih
    rw [read, encode, List.flatMap_cons, ← encode, readFrom_encodeChar, ih]
    rfl

theorem mapM_id_eq_some {α : Type} {as : List (Option α)} {bs : List α} :
    as.mapM id = some bs ↔ as = bs.map some := by
  induction as generalizing bs with
  | nil => cases bs <;> simp
  | cons a as ih =>
    cases a with
    | none => cases bs <;> simp
    | some a =>
      cases bs with
      | nil => cases h : as.mapM id <;> simp [h]
      | cons b bs =>
        rw [List.map_cons, List.cons.injEq, Option.some.injEq, ← ih]
        cases h : as.mapM id <;> simp [h]

/-- Bytes are read strictly as a text if and only if they are the bytes of that text. -/
theorem strict?_eq_some_iff {bytes : List UInt8} {s : List Char} :
    strict? bytes = some s ↔ encode s = bytes := by
  rw [strict?, mapM_id_eq_some]
  constructor
  · intro h
    exact encode_of_readFrom (show Begun none [] from rfl) h
  · rintro rfl
    exact read_encode s

/-! ## Newlines in lenient text -/

/-- The number of newlines that are read, where invalid stretches show as `U+FFFD`. -/
def newlines (progress : List (Option Char)) : Nat := (progress.map (·.getD '\ufffd')).count '\n'

theorem newlines_append (p q : List (Option Char)) :
    newlines (p ++ q) = newlines p + newlines q := by
  rw [newlines, List.map_append, List.count_append]
  rfl

theorem newlines_some (c : Char) : newlines [some c] = if c = '\n' then 1 else 0 := by
  by_cases h : c = '\n' <;> simp [newlines, h]

theorem count_newline_of_ne {b : UInt8} (h : b ≠ 10) : [b].count 10 = 0 := by
  rw [List.count_singleton, if_neg]
  simpa using h

theorem newlines_start (b : UInt8) :
    newlines (start b).1 = [b].count 10 ∧ ∃ begun, Begun (start b).2 begun := by
  by_cases hb : b < 0x80
  · rw [start_ascii hb, newlines_some]
    refine ⟨?_, [], rfl⟩
    by_cases h : b = 10
    · rw [h]
      rfl
    · rw [if_neg, count_newline_of_ne h]
      intro hc
      have hvalid : b.toNat.isValidChar := .inl (Nat.lt_trans (UInt8.toNat_lt b) (by decide))
      have hv := toNat_ofNat hvalid
      rw [hc] at hv
      exact h (UInt8.toNat_inj.1 hv.symm)
  · have h : b ≠ 10 := by
      rintro rfl
      exact hb (by decide)
    rw [count_newline_of_ne h]
    rcases start_cases hb with hstart | ⟨i, hstart, hopened⟩
    · rw [hstart]
      exact ⟨rfl, [], rfl⟩
    · rw [hstart]
      exact ⟨rfl, [b], hopened⟩

/-- Each byte brings a newline if it is one, wherever it comes. -/
theorem newlines_step {state : Option Inside} {bytes : List UInt8} (h : Begun state bytes)
    (b : UInt8) :
    newlines (step state b).1 = [b].count 10 ∧ ∃ begun, Begun (step state b).2 begun := by
  cases state with
  | none => exact newlines_start b
  | some i =>
    show newlines (resume i b).1 = _ ∧ ∃ begun, Begun (resume i b).2 begun
    by_cases hb : i.low ≤ b ∧ b ≤ i.high
    · have hne : b ≠ 10 := by
        rintro rfl
        have hlow := UInt8.le_iff_toNat_le.1 hb.1
        have hopen := h.low
        simp only [UInt8.reduceToNat] at hlow
        omega
      rw [count_newline_of_ne hne]
      rcases Inside.Opened.resume h hb with ⟨c, hread, hencode⟩ | ⟨i', hread, hopened⟩
      · rw [hread, newlines_some, if_neg]
        · exact ⟨rfl, [], rfl⟩
        · -- A newline has one byte, and this character has had one before.
          rintro rfl
          have hlength := congrArg List.length hencode
          have hbegun := List.length_pos_iff.2 h.begun
          rw [List.length_append] at hlength
          have hone : (String.utf8EncodeChar '\n').length = 1 := by decide
          simp only [List.length_singleton] at hlength
          omega
      · rw [hread]
        exact ⟨rfl, _, hopened⟩
    · rw [resume_of_not_fits hb]
      obtain ⟨hcount, hbegun⟩ := newlines_start b
      exact ⟨hcount, hbegun⟩

theorem newlines_readFrom (bytes : List UInt8) {state : Option Inside} {begun : List UInt8}
    (h : Begun state begun) : newlines (readFrom state bytes) = bytes.count 10 := by
  induction bytes generalizing state begun with
  | nil => cases state <;> rfl
  | cons b bytes ih =>
    obtain ⟨hcount, begun', hbegun⟩ := newlines_step h b
    calc newlines (readFrom state (b :: bytes))
        = newlines (step state b).1 + newlines (readFrom (step state b).2 bytes) := by
          rw [readFrom, newlines_append]
      _ = [b].count 10 + bytes.count 10 := by rw [hcount, ih hbegun]
      _ = ([b] ++ bytes).count 10 := List.count_append.symm

/-- Bytes that are shown as text have as many newlines as bytes that are one. -/
theorem count_newline_lenient (bytes : List UInt8) :
    (lenient bytes).count '\n' = bytes.count 10 :=
  newlines_readFrom bytes (show Begun none [] from rfl)

end RemoteSearch.Text.Utf8
