import Mathlib.Data.Nat.Bitwise
import RemoteSearch.Proofs.Mode.Grammar

set_option autoImplicit false

/-! # Reading what modes are shown as

A mode is shown by the names of its flags, and bits without a name as a number after them. Shown
modes can be joined by separators, with white space around every piece, and the whole be read again.
As long as no bit is without a name this gives the union of the modes.

A number, however, is only read where it is all of the text. Hence a mode that has named and unnamed
bits is not read back, and neither is a list of several modes in which there are unnamed ones: the
number is then taken for a name (`parse_shown`).
-/

namespace RemoteSearch.Mode

/-! ## The flags of a mode -/

theorem inter_union_distrib (m f g : Mode) : m ∩ (f ∪ g) = m ∩ f ∪ m ∩ g :=
  ext_bits (UInt8.toBitVec_inj.1 BitVec.and_or_distrib_left)

/-- A single bit is all there, or nothing of it. -/
theorem inter_of_bit {f : Mode} {i : Nat} (hf : f.bits.toNat = 2 ^ i) (m : Mode) :
    m ∩ f = f ∨ m ∩ f = ∅ := by
  have hbits : (m ∩ f).bits.toNat = (m.bits.toNat.testBit i).toNat * f.bits.toNat := by
    rw [inter_bits, UInt8.toNat_and, hf, Nat.and_two_pow]
  cases hbit : m.bits.toNat.testBit i with
  | true =>
    rw [hbit, Bool.toNat_true, Nat.one_mul] at hbits
    exact .inl (ext_bits (UInt8.toNat_inj.1 hbits))
  | false =>
    rw [hbit, Bool.toNat_false, Nat.zero_mul] at hbits
    exact .inr (ext_bits (UInt8.toNat_inj.1 hbits))

/-- Flags that are there or not are together what a mode has of all of them. -/
theorem unionAll_filter_contains {m : Mode} {fs : List (Mode × String)}
    (h : ∀ f ∈ fs, m ∩ f.1 = f.1 ∨ m ∩ f.1 = ∅) :
    unionAll ((fs.filter fun f => m.contains f.1).map (·.1)) = m ∩ unionAll (fs.map (·.1)) := by
  induction fs with
  | nil => exact (ext_bits UInt8.and_zero).symm
  | cons f fs ih =>
    have hothers := ih fun g hg => h g (List.mem_cons_of_mem f hg)
    rw [List.map_cons, unionAll_cons, inter_union_distrib, ← hothers]
    by_cases hf : m ∩ f.1 = f.1
    · rw [List.filter_cons_of_pos (by simpa [contains] using hf), List.map_cons, unionAll_cons, hf]
    · have hnone : m ∩ f.1 = ∅ := (h f (List.mem_cons_self ..)).resolve_left hf
      rw [List.filter_cons_of_neg (by simpa [contains] using hf), hnone, empty_union]

/-- The flags of a mode that have a name. -/
def flags (m : Mode) : List Mode := (shownFlags.filter fun f => m.contains f.1).map (·.1)

theorem unionAll_flags (m : Mode) : unionAll m.flags = m ∩ all := by
  refine unionAll_filter_contains fun f hf => ?_
  simp only [shownFlags, List.mem_cons, List.not_mem_nil, or_false] at hf
  rcases hf with rfl | rfl | rfl
  · exact inter_of_bit (i := 0) rfl m
  · exact inter_of_bit (i := 1) rfl m
  · exact inter_of_bit (i := 2) rfl m

/-- A mode consists of its flags and of what has no name. -/
theorem unionAll_flags_union_unnamed (m : Mode) : unionAll m.flags ∪ m.unnamed = m := by
  have hevery : all ∪ ⟨~~~all.bits⟩ = ⟨-1⟩ := rfl
  rw [unionAll_flags]
  show m ∩ all ∪ m ∩ ⟨~~~all.bits⟩ = m
  rw [← inter_union_distrib, hevery]
  exact ext_bits UInt8.and_neg_one

theorem unionAll_flags_of_named {m : Mode} (h : m.unnamed = ∅) : unionAll m.flags = m := by
  have key := unionAll_flags_union_unnamed m
  rwa [h, union_empty] at key

/-- There are no flags if and only if all bits are without a name. -/
theorem flags_eq_nil_iff (m : Mode) : m.flags = [] ↔ m.unnamed = m := by
  constructor
  · intro h
    have key := unionAll_flags_union_unnamed m
    rwa [h, unionAll_nil, empty_union] at key
  · intro h
    have hnamed : ∀ f ∈ shownFlags, (⟨~~~all.bits⟩ ∩ f.1 : Mode) = ∅ ∧ f.1 ≠ ∅ := by decide
    rw [flags, List.map_eq_nil_iff, List.filter_eq_nil_iff]
    intro f hf hcontains
    obtain ⟨hempty, hne⟩ := hnamed f hf
    have hflag : m ∩ f.1 = f.1 := by simpa [contains] using hcontains
    apply hne
    calc f.1 = m.unnamed ∩ f.1 := by rw [h, hflag]
      _ = m ∩ (⟨~~~all.bits⟩ ∩ f.1) := ext_bits (UInt8.and_assoc _ _ _)
      _ = ∅ := by rw [hempty]; exact ext_bits UInt8.and_zero

/-! ## The pieces of a shown mode -/

theorem name_of_shown {f : Mode × String} (hf : f ∈ shownFlags) : Name (nameOf f.2.toList) f.1 := by
  have hlookup : ∀ f ∈ shownFlags, names.lookup (nameOf f.2.toList) = some f.1 := by
    decide +kernel
  exact (lookup_names_eq_some_iff _ _).1 (hlookup f hf)

/-- The names of the flags of a mode. -/
def flagNames (m : Mode) : List String := (shownFlags.filter fun f => m.contains f.1).map (·.2)

theorem named_flags (m : Mode) : Named (m.flagNames.map String.toList) m.flags := by
  rw [Named, flagNames, flags, List.map_map, List.forall₂_map_left_iff, List.forall₂_map_right_iff,
    List.forall₂_same]
  exact fun f hf => name_of_shown (List.mem_of_mem_filter hf)

theorem flagNames_eq_nil_iff (m : Mode) : m.flagNames = [] ↔ m.flags = [] := by
  rw [flagNames, flags, List.map_eq_nil_iff, List.map_eq_nil_iff]

/-- What stands between the separators of a shown mode. -/
def shownPieces (m : Mode) : List (List Char) :=
  (if m.shownParts = [] then ["none"] else m.shownParts).map String.toList

theorem shownPieces_ne_nil (m : Mode) : m.shownPieces ≠ [] := by
  rw [shownPieces]
  split
  · exact List.cons_ne_nil _ _
  · next h => simpa using h

/-- A mode whose bits all have a name is shown in pieces that stand for it. -/
theorem exists_named_shownPieces {m : Mode} (h : m.unnamed = ∅) :
    ∃ ns, Named m.shownPieces ns ∧ unionAll ns = m := by
  have hparts : m.shownParts = m.flagNames := by
    rw [shownParts, if_pos h, List.append_nil, flagNames]
  rw [shownPieces, hparts]
  split
  · next hnone =>
    have hm := unionAll_flags_of_named h
    rw [(flagNames_eq_nil_iff m).1 hnone] at hm
    have hname : Name (nameOf "none".toList) ∅ :=
      (lookup_names_eq_some_iff _ _).1 (by decide +kernel)
    exact ⟨[∅], .cons hname .nil, hm⟩
  · exact ⟨m.flags, named_flags m, unionAll_flags_of_named h⟩

theorem shownPieces_of_unnamed {m : Mode} (h : m.unnamed ≠ ∅) :
    m.shownPieces = m.flagNames.map String.toList ++ [(hexByte m.unnamed.bits).toList] := by
  have hparts : m.shownParts = m.flagNames ++ [hexByte m.unnamed.bits] := by
    rw [shownParts, if_neg h, flagNames]
  rw [shownPieces, hparts, if_neg (by simp), List.map_append, List.map_singleton]

theorem isSeparator_hexByte (b : UInt8) : ∀ c ∈ (hexByte b).toList, isSeparator c = false := by
  have hdigit : ∀ d < 16, isSeparator (Nat.digitChar d) = false := by decide
  have hlt : b.toNat < 256 := b.toNat_lt
  have hhigh := hdigit (b.toNat / 16) (by omega)
  have hlow := hdigit (b.toNat % 16) (by omega)
  intro c hc
  rw [hexByte, String.toList_ofList] at hc
  simp only [List.mem_cons, List.not_mem_nil, or_false] at hc
  rcases hc with rfl | rfl | rfl | rfl
  · rfl
  · rfl
  · exact hhigh
  · exact hlow

theorem isSeparator_shownPieces (m : Mode) :
    ∀ p ∈ m.shownPieces, ∀ c ∈ p, isSeparator c = false := by
  have hflag : ∀ f ∈ shownFlags, f.2.toList.any isSeparator = false := by decide +kernel
  have hnone : "none".toList.any isSeparator = false := by decide +kernel
  intro p hp
  obtain ⟨part, hpart, rfl⟩ := List.mem_map.1 hp
  split at hpart
  · rw [List.mem_singleton.1 hpart]
    exact fun c hc => Bool.eq_false_iff.2 (List.any_eq_false.1 hnone c hc)
  · rw [shownParts, List.mem_append] at hpart
    rcases hpart with hname | hnumber
    · obtain ⟨f, hf, rfl⟩ := List.mem_map.1 hname
      have huncut := hflag f (List.mem_of_mem_filter hf)
      exact fun c hc => Bool.eq_false_iff.2 (List.any_eq_false.1 huncut c hc)
    · split at hnumber
      · cases hnumber
      · rw [List.mem_singleton.1 hnumber]
        exact isSeparator_hexByte m.unnamed.bits

theorem pieces_toText (m : Mode) : Text.pieces isSeparator m.toText.toList = m.shownPieces := by
  have htext : m.toText.toList = ['|'].intercalate m.shownPieces := by
    rw [toText, shownPieces]
    split
    · rfl
    · exact String.toList_intercalate
  rw [Text.pieces_eq_iff, htext]
  exact ⟨Text.joined_intercalate rfl m.shownPieces_ne_nil, m.isSeparator_shownPieces⟩

/-- What is read for shown modes depends on their pieces, whatever white space and separators are
around these. -/
theorem map_trim_pieces_of_shown {ms : List Mode} {texts : List (List Char)} {s : List Char}
    (respaced : List.Forall₂ (fun m => Text.Respaced isSeparator m.toText.toList) ms texts)
    (joined : Text.Joined isSeparator texts s) :
    (Text.pieces isSeparator s).map Text.trim = (ms.flatMap shownPieces).map Text.trim := by
  have hsame : List.Forall₂ (fun t u => (Text.pieces isSeparator u).map Text.trim =
      (Text.pieces isSeparator t).map Text.trim) (ms.map fun m => m.toText.toList) texts := by
    rw [List.forall₂_map_left_iff]
    exact respaced.imp fun _ _ h => h.map_trim_pieces isSeparator_of_isBlank
  rw [joined.map_trim_pieces hsame, List.flatMap_map]
  exact congrArg (List.map Text.trim) (List.flatMap_congr fun m _ => pieces_toText m)

/-! ## Numbers in the text -/

theorem trim_hexByte (b : UInt8) : Text.trim (hexByte b).toList = (hexByte b).toList := by
  have hdigit : ∀ d < 16, Text.isBlank (Nat.digitChar d) = false := by decide
  have hlast := hdigit (b.toNat % 16) (by omega)
  rw [hexByte, String.toList_ofList]
  exact Text.trim_eq_self rfl hlast
    (rfl : _ = ['0', 'x', Nat.digitChar (b.toNat / 16)] ++ [Nat.digitChar (b.toNat % 16)])

theorem toLower_digitChar : ∀ d < 16, (Nat.digitChar d).toLower = Nat.digitChar d := by decide

/-- A number keeps its text when it is compared with names. -/
theorem nameOf_hexByte (b : UInt8) : nameOf (hexByte b).toList = hexByte b := by
  have hlt : b.toNat < 256 := b.toNat_lt
  have hhigh := toLower_digitChar (b.toNat / 16) (by omega)
  have hlow := toLower_digitChar (b.toNat % 16) (by omega)
  rw [nameOf, trim_hexByte, hexByte, String.toList_ofList, Text.lower]
  simp only [List.map_cons, List.map_nil, hhigh, hlow]
  rfl

theorem not_name_hexByte (b : UInt8) (m : Mode) : ¬Name (nameOf (hexByte b).toList) m := by
  rw [hexByte, String.toList_ofList]
  exact not_name_of_leading (by decide) _ m

/-- Two hexadecimal digits are the number of the byte. -/
theorem number?_hexByte (b : UInt8) : number? (hexByte b).toList = some b := by
  have hlt : b.toNat < 256 := b.toNat_lt
  have hdigits : Text.Numeral.AreDigits 16
      [Nat.digitChar (b.toNat / 16), Nat.digitChar (b.toNat % 16)]
      [b.toNat / 16, b.toNat % 16] :=
    .cons ⟨by omega, toLower_digitChar _ (by omega)⟩
      (.cons ⟨by omega, toLower_digitChar _ (by omega)⟩ .nil)
  have hvalue : Nat.ofDigits 16 [b.toNat / 16, b.toNat % 16].reverse = b.toNat := by
    show b.toNat % 16 + 16 * (b.toNat / 16 + 16 * 0) = b.toNat
    omega
  have hnumeral : Text.Numeral.Denotes 16
      [Nat.digitChar (b.toNat / 16), Nat.digitChar (b.toNat % 16)] b.toNat := by
    have key := Text.Numeral.Denotes.unsigned (List.cons_ne_nil _ _) hdigits
    rwa [hvalue] at key
  rw [number?_eq_some_iff, hexByte, String.toList_ofList]
  exact .hexadecimal hnumeral

theorem isSeparator_of_digits {radix : Nat} (hradix : radix ≤ 16) {s : List Char} {ds : List Nat}
    (h : Text.Numeral.AreDigits radix s ds) : ∀ c ∈ s, isSeparator c = false := by
  have hbar : Text.Numeral.digit? radix '|' = none := rfl
  have hcomma : Text.Numeral.digit? radix ',' = none := rfl
  induction h with
  | nil => exact nofun
  | @cons c d s ds digit _ ih =>
    intro c' hc'
    rcases List.mem_cons.1 hc' with rfl | hc'
    · have hdigit := (Text.Numeral.digit?_eq_some_iff hradix c' d).2 digit
      rw [isSeparator, Bool.or_eq_false_iff, decide_eq_false_iff_not, decide_eq_false_iff_not]
      constructor
      · rintro rfl
        rw [hbar] at hdigit
        cases hdigit
      · rintro rfl
        rw [hcomma] at hdigit
        cases hdigit
    · exact ih c' hc'

theorem isSeparator_of_denotes {radix : Nat} (hradix : radix ≤ 16) {s : List Char} {n : Nat}
    (h : Text.Numeral.Denotes radix s n) : ∀ c ∈ s, isSeparator c = false := by
  cases h with
  | unsigned _ digits => exact isSeparator_of_digits hradix digits
  | signed _ digits => exact List.forall_mem_cons.2 ⟨rfl, isSeparator_of_digits hradix digits⟩

/-- A number is one piece. -/
theorem Literal.pieces_eq {s : List Char} {n : Nat} (h : Literal s n) :
    Text.pieces isSeparator s = [s] := by
  refine Text.pieces_of_no_sep ?_
  cases h with
  | decimal numeral => exact isSeparator_of_denotes (by decide) numeral
  | hexadecimal numeral =>
    have hdigits := isSeparator_of_denotes (by decide) numeral
    exact List.forall_mem_cons.2 ⟨rfl, List.forall_mem_cons.2 ⟨rfl, hdigits⟩⟩
  | binary numeral =>
    have hdigits := isSeparator_of_denotes (by decide) numeral
    exact List.forall_mem_cons.2 ⟨rfl, List.forall_mem_cons.2 ⟨rfl, hdigits⟩⟩

/-! ## Reading back -/

theorem exists_named_flatMap_shownPieces {ms : List Mode} (h : ∀ m ∈ ms, m.unnamed = ∅) :
    ∃ ns, Named (ms.flatMap shownPieces) ns ∧ unionAll ns = unionAll ms := by
  induction ms with
  | nil => exact ⟨[], .nil, rfl⟩
  | cons m ms ih =>
    obtain ⟨ns, hnamed, hunion⟩ := exists_named_shownPieces (h m (List.mem_cons_self ..))
    obtain ⟨ns', hnamed', hunion'⟩ := ih fun n hn => h n (List.mem_cons_of_mem m hn)
    refine ⟨ns ++ ns', ?_, ?_⟩
    · rw [List.flatMap_cons]
      exact List.rel_append hnamed hnamed'
    · rw [unionAll_append, hunion, hunion', unionAll_cons]

/-- Modes that are read back: all their bits have names, or there is one mode and none of its bits
has a name. -/
def ReadBack (ms : List Mode) : Prop :=
  (∀ m ∈ ms, m.unnamed = ∅) ∨ ∃ m, ms = [m] ∧ m.unnamed = m

theorem exists_first_unnamed {ms : List Mode} (h : ¬∀ m ∈ ms, m.unnamed = ∅) :
    ∃ before m after, ms = before ++ m :: after ∧ (∀ n ∈ before, n.unnamed = ∅) ∧
      m.unnamed ≠ ∅ := by
  induction ms with
  | nil => exact absurd nofun h
  | cons m ms ih =>
    by_cases hm : m.unnamed = ∅
    · obtain ⟨before, n, after, rfl, hbefore, hn⟩ :=
        ih fun hms => h (List.forall_mem_cons.2 ⟨hm, hms⟩)
      exact ⟨m :: before, n, after, rfl, List.forall_mem_cons.2 ⟨hm, hbefore⟩, hn⟩
    · exact ⟨[], m, ms, rfl, nofun, hm⟩

theorem flatMap_shownPieces_eq_nil {ms : List Mode} (h : ms.flatMap shownPieces = []) :
    ms = [] := by
  cases ms with
  | nil => rfl
  | cons m ms =>
    rw [List.flatMap_cons, List.append_eq_nil_iff] at h
    exact absurd h.1 m.shownPieces_ne_nil

/-- Where a mode with unnamed bits is all in one piece, there is nothing besides these bits. -/
theorem alone_of_length_eq_one {before after : List Mode} {m : Mode} (hm : m.unnamed ≠ ∅)
    (h : ((before ++ m :: after).flatMap shownPieces).length = 1) :
    before = [] ∧ after = [] ∧ m.unnamed = m := by
  rw [List.flatMap_append, List.flatMap_cons, shownPieces_of_unnamed hm] at h
  simp only [List.length_append, List.length_map, List.length_singleton] at h
  refine ⟨flatMap_shownPieces_eq_nil (List.length_eq_zero_iff.1 (by omega)),
    flatMap_shownPieces_eq_nil (List.length_eq_zero_iff.1 (by omega)), ?_⟩
  rw [← flags_eq_nil_iff, ← flagNames_eq_nil_iff]
  exact List.length_eq_zero_iff.1 (by omega)

section

variable {ms : List Mode} {s : String}
  (hps : (Text.pieces isSeparator s.toList).map Text.trim = (ms.flatMap shownPieces).map Text.trim)

include hps

theorem parse_of_readBack (h : ReadBack ms) : parse s = .ok (unionAll ms) := by
  by_cases hnamed : ∀ m ∈ ms, m.unnamed = ∅
  · obtain ⟨ns, hns, hunion⟩ := exists_named_flatMap_shownPieces hnamed
    rw [parse_of_named hps hns, hunion]
  · obtain ⟨m, rfl, hm⟩ := h.resolve_left hnamed
    have hne : m.unnamed ≠ ∅ := fun hempty => hnamed fun n hn => by
      rw [List.mem_singleton.1 hn, hempty]
    have hnone : m.flagNames = [] := (flagNames_eq_nil_iff m).2 ((flags_eq_nil_iff m).2 hm)
    rw [List.flatMap_singleton, shownPieces_of_unnamed hne, hnone, hm, List.map_nil,
      List.nil_append, List.map_singleton, trim_hexByte, List.map_eq_singleton_iff] at hps
    obtain ⟨p, hp, htrim⟩ := hps
    have htext := Text.eq_of_pieces_eq_singleton hp
    have hnumber : number? (Text.trim s.toList) = some m.bits := by
      rw [← htext, htrim, number?_hexByte]
    rw [parse_of_number hnumber, unionAll_cons, unionAll_nil, union_empty]

/-- Of several pieces none is a number, so that the first one of unnamed bits is reported. -/
theorem parse_of_not_readBack (h : ¬ReadBack ms) : ∃ before m after, ms = before ++ m :: after ∧
    (∀ n ∈ before, n.unnamed = ∅) ∧ m.unnamed ≠ ∅ ∧
      parse s = .error (.unknownFlag (hexByte m.unnamed.bits)) := by
  obtain ⟨before, m, after, rfl, hbefore, hm⟩ := exists_first_unnamed fun hnamed => h (.inl hnamed)
  refine ⟨before, m, after, rfl, hbefore, hm, ?_⟩
  have hnumberless : number? (Text.trim s.toList) = none := by
    refine (number?_eq_none_iff _).2 fun n _ hliteral => h (.inr ⟨m, ?_⟩)
    have htrim := (Text.padded_trim s.toList).map_trim_pieces isSeparator_of_isBlank
    rw [hliteral.pieces_eq, hps] at htrim
    have hlength := congrArg List.length htrim
    rw [List.length_map, List.length_map, List.length_singleton] at hlength
    obtain ⟨rfl, rfl, hunnamed⟩ := alone_of_length_eq_one hm hlength
    exact ⟨rfl, hunnamed⟩
  obtain ⟨ns, hns, -⟩ := exists_named_flatMap_shownPieces hbefore
  have hpieces : (before ++ m :: after).flatMap shownPieces =
      (before.flatMap shownPieces ++ m.flagNames.map String.toList) ++
        (hexByte m.unnamed.bits).toList :: after.flatMap shownPieces := by
    rw [List.flatMap_append, List.flatMap_cons, shownPieces_of_unnamed hm]
    simp only [List.append_assoc, List.singleton_append]
  have hnames : Named (before.flatMap shownPieces ++ m.flagNames.map String.toList)
      (ns ++ m.flags) := List.rel_append hns (named_flags m)
  rw [parse_of_numberless hnumberless, ofNames_pieces_trim, ofNames_congr hps, hpieces,
    ofNames_of_unknown hnames (not_name_hexByte m.unnamed.bits), nameOf_hexByte]

end

/-- Shown modes that are joined by separators, with any white space around their pieces, are read as
their union if and only if they are modes that are read back. Otherwise the unnamed bits of the
first mode that has any are taken for a name, which is unknown. -/
theorem parse_shown (ms : List Mode) (texts : List (List Char)) (s : String)
    (respaced : List.Forall₂ (fun m => Text.Respaced isSeparator m.toText.toList) ms texts)
    (joined : Text.Joined isSeparator texts s.toList) :
    (parse s = .ok (unionAll ms) ↔ ReadBack ms) ∧
    (¬ReadBack ms → ∃ before m after, ms = before ++ m :: after ∧
      (∀ n ∈ before, n.unnamed = ∅) ∧ m.unnamed ≠ ∅ ∧
        parse s = .error (.unknownFlag (hexByte m.unnamed.bits))) := by
  have hps := map_trim_pieces_of_shown respaced joined
  refine ⟨⟨fun hok => ?_, parse_of_readBack hps⟩, parse_of_not_readBack hps⟩
  by_contra h
  obtain ⟨_, m, _, -, -, -, herror⟩ := parse_of_not_readBack hps h
  rw [hok] at herror
  cases herror

/-- Separators and white space may be any. -/
theorem parse_shown_respaced : parse " first , needle|none\t" = .ok ⟨0x03⟩ := by
  have hflags : Text.Respaced isSeparator (toText ⟨0x03⟩).toList " first , needle".toList :=
    Text.respaced_of_map_trim_pieces (by decide +kernel)
  have hnone : Text.Respaced isSeparator (toText ∅).toList "none\t".toList :=
    Text.respaced_of_map_trim_pieces (by decide +kernel)
  have hjoined : Text.Joined isSeparator [" first , needle".toList, "none\t".toList]
      " first , needle|none\t".toList := by
    show Text.Joined isSeparator _ (" first , needle".toList ++ '|' :: "none\t".toList)
    exact .cons _ rfl (.one _)
  exact (parse_shown [⟨0x03⟩, ∅] _ _ (.cons hflags (.cons hnone .nil)) hjoined).1.2
    (.inl (by decide))

/-- A mode with named and unnamed bits is shown as what is not read. -/
theorem mixed_not_read_back : toText ⟨0x81⟩ = "first|0x80" ∧
    parse "first|0x80" = .error (.unknownFlag "0x80") ∧ ¬∀ m : Mode, parse m.toText = .ok m := by
  have hparse : parse (toText ⟨0x81⟩) = .error (.unknownFlag "0x80") := by decide +kernel
  refine ⟨by decide +kernel, by decide +kernel, fun h => ?_⟩
  have hok := h ⟨0x81⟩
  rw [hparse] at hok
  cases hok

end RemoteSearch.Mode
