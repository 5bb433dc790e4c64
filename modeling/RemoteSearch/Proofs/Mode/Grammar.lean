import Mathlib.Data.List.Forall2
import RemoteSearch.Mode.Text
import RemoteSearch.Proofs.Text.Numeral
import RemoteSearch.Proofs.Text.Pieces

set_option autoImplicit false

/-! # The grammar of modes

Trimmed text is read as a mode in one of two ways, and `Reads` says in which: as a number that fits
into a byte, and only where it is none as names between separators. Reading follows this grammar,
with its failures (`parse_follows_grammar`).

Names and numbers cannot be taken for each other, as they begin with different characters
(`Literal.ofNames_ne_ok`). So what names stand for depends on nothing but the set of those that are
there: neither their order nor how often they occur, nor what stands around and between them.
-/

namespace RemoteSearch.Mode

/-! ## Numbers -/

/-- A number as it is written in a mode. -/
inductive Literal : List Char → Nat → Prop
  | decimal {s : List Char} {n : Nat} (numeral : Text.Numeral.Denotes 10 s n) : Literal s n
  | hexadecimal {s : List Char} {n : Nat} (numeral : Text.Numeral.Denotes 16 s n) :
      Literal ('0' :: 'x' :: s) n
  | binary {s : List Char} {n : Nat} (numeral : Text.Numeral.Denotes 2 s n) :
      Literal ('0' :: 'b' :: s) n

/-- A numeral that fits into a byte is read as this byte. -/
theorem read_byte_iff {radix : Nat} (hpos : 0 < radix) (hradix : radix ≤ 16) (s : List Char)
    (b : UInt8) :
    (Text.Numeral.read radix 255 s).toOption.map UInt8.ofNat = some b ↔
      Text.Numeral.Denotes radix s b.toNat := by
  rw [Option.map_eq_some_iff]
  constructor
  · rintro ⟨n, hn, rfl⟩
    cases hread : Text.Numeral.read radix 255 s with
    | error e =>
      rw [hread] at hn
      cases hn
    | ok m =>
      rw [hread] at hn
      cases hn
      obtain ⟨hdenotes, hle⟩ := (Text.Numeral.read_eq_ok_iff hpos hradix 255 s n).1 hread
      have hn : (UInt8.ofNat n).toNat = n := UInt8.toNat_ofNat_of_lt (by show n < 256; omega)
      rwa [hn]
  · intro h
    have hlt : b.toNat < 256 := b.toNat_lt
    have hread := (Text.Numeral.read_eq_ok_iff hpos hradix 255 s b.toNat).2 ⟨h, by omega⟩
    refine ⟨b.toNat, ?_, UInt8.ofNat_toNat⟩
    rw [hread]
    rfl

/-- After a zero a numeral goes on with digits, so that `0x` and `0b` begin none. -/
theorem not_denotes_of_letter {c : Char} (hc : c = 'x' ∨ c = 'b') (s : List Char) (n : Nat) :
    ¬Text.Numeral.Denotes 10 ('0' :: c :: s) n := by
  intro h
  cases h with
  | unsigned _ digits =>
    cases digits with
    | cons _ others =>
      cases others with
      | cons letter _ =>
        have hdigit := (Text.Numeral.digit?_eq_some_iff (by decide) c _).2 letter
        rcases hc with rfl | rfl
        · cases hdigit
        · cases hdigit

theorem number?_eq_some_iff (s : List Char) (b : UInt8) :
    number? s = some b ↔ Literal s b.toNat := by
  unfold number?
  split
  · next digits =>
    rw [read_byte_iff (by decide) (by decide)]
    constructor
    · exact .hexadecimal
    · intro h
      cases h with
      | decimal numeral => exact absurd numeral (not_denotes_of_letter (.inl rfl) digits _)
      | hexadecimal numeral => exact numeral
  · next digits =>
    rw [read_byte_iff (by decide) (by decide)]
    constructor
    · exact .binary
    · intro h
      cases h with
      | decimal numeral => exact absurd numeral (not_denotes_of_letter (.inr rfl) digits _)
      | binary numeral => exact numeral
  · next hhexadecimal hbinary =>
    rw [read_byte_iff (by decide) (by decide)]
    constructor
    · exact .decimal
    · intro h
      cases h with
      | decimal numeral => exact numeral
      | hexadecimal numeral => exact absurd rfl (hhexadecimal _)
      | binary numeral => exact absurd rfl (hbinary _)

theorem number?_eq_none_iff (s : List Char) :
    number? s = none ↔ ∀ n ≤ 255, ¬Literal s n := by
  rw [Option.eq_none_iff_forall_ne_some]
  constructor
  · intro h n hn hliteral
    have hbyte : (UInt8.ofNat n).toNat = n := UInt8.toNat_ofNat_of_lt (by show n < 256; omega)
    refine h (UInt8.ofNat n) ((number?_eq_some_iff s _).2 ?_)
    rwa [hbyte]
  · intro h b hb
    have hlt : b.toNat < 256 := b.toNat_lt
    exact h b.toNat (by omega) ((number?_eq_some_iff s b).1 hb)

/-! ## Names -/

/-- A name in small letters, with the flags that it stands for. -/
inductive Name : String → Mode → Prop
  | first : Name "first" first
  | needle : Name "needle" needle
  | userData {name : String}
      (spelling : name ∈ ["user-data", "user_data", "userdata", "data"]) : Name name userData
  | all : Name "all" all
  | nothing {name : String} (spelling : name ∈ ["none", ""]) : Name name ∅

/-- A piece of text as it is compared with the names. -/
def nameOf (p : List Char) : String := String.ofList (Text.lower (Text.trim p))

theorem lookup_names_eq_some_iff (name : String) (m : Mode) :
    names.lookup name = some m ↔ Name name m := by
  constructor
  · intro h
    obtain ⟨before, after, hnames, -⟩ := List.lookup_eq_some_iff.1 h
    have hmem : (name, m) ∈ names := by
      rw [hnames]
      exact List.mem_append_right before (List.mem_cons_self ..)
    simp only [names, List.mem_cons, Prod.mk.injEq, List.not_mem_nil, or_false] at hmem
    rcases hmem with ⟨rfl, rfl⟩ | ⟨rfl, rfl⟩ | ⟨rfl, rfl⟩ | ⟨rfl, rfl⟩ | ⟨rfl, rfl⟩ | ⟨rfl, rfl⟩ |
      ⟨rfl, rfl⟩ | ⟨rfl, rfl⟩ | ⟨rfl, rfl⟩
    · exact .first
    · exact .needle
    · exact .userData (by decide)
    · exact .userData (by decide)
    · exact .userData (by decide)
    · exact .userData (by decide)
    · exact .all
    · exact .nothing (by decide)
    · exact .nothing (by decide)
  · intro h
    cases h with
    | first | needle | all => rfl
    | userData spelling =>
      simp only [List.mem_cons, List.not_mem_nil, or_false] at spelling
      rcases spelling with rfl | rfl | rfl | rfl <;> rfl
    | nothing spelling =>
      simp only [List.mem_cons, List.not_mem_nil, or_false] at spelling
      rcases spelling with rfl | rfl <;> rfl

theorem ofName_eq (p : List Char) :
    ofName p = match names.lookup (nameOf p) with
      | some m => .ok m
      | none => .error (.unknownFlag (nameOf p)) := rfl

theorem ofName_of_name {p : List Char} {m : Mode} (h : Name (nameOf p) m) : ofName p = .ok m := by
  rw [ofName_eq, (lookup_names_eq_some_iff (nameOf p) m).2 h]

theorem ofName_of_unknown {p : List Char} (h : ∀ m, ¬Name (nameOf p) m) :
    ofName p = .error (.unknownFlag (nameOf p)) := by
  have hlookup : names.lookup (nameOf p) = none :=
    Option.eq_none_iff_forall_ne_some.2 fun m hm => h m ((lookup_names_eq_some_iff _ m).1 hm)
  rw [ofName_eq, hlookup]

/-- A name stands for one set of flags. -/
theorem Name.unique {name : String} {m m' : Mode} (h : Name name m) (h' : Name name m') :
    m = m' := by
  have hlookup := (lookup_names_eq_some_iff name m).2 h
  rw [(lookup_names_eq_some_iff name m').2 h'] at hlookup
  exact (Option.some.inj hlookup).symm

/-! ## Names together -/

/-- The flags of any of the modes. -/
def unionAll (ms : List Mode) : Mode := ⟨(ms.map Mode.bits).foldr (· ||| ·) 0⟩

@[simp] theorem unionAll_nil : unionAll [] = ∅ := rfl

theorem unionAll_cons (m : Mode) (ms : List Mode) : unionAll (m :: ms) = m ∪ unionAll ms := rfl

theorem unionAll_append (ms ns : List Mode) :
    unionAll (ms ++ ns) = unionAll ms ∪ unionAll ns := by
  induction ms with
  | nil => exact (empty_union _).symm
  | cons m ms ih => rw [List.cons_append, unionAll_cons, unionAll_cons, ih, union_assoc]

/-- A mode that is among others adds nothing to them. -/
theorem unionAll_union_of_mem {m : Mode} {ms : List Mode} (h : m ∈ ms) :
    unionAll ms ∪ m = unionAll ms := by
  induction ms with
  | nil => cases h
  | cons n ms ih =>
    rw [unionAll_cons]
    rcases List.mem_cons.1 h with rfl | h
    · rw [union_comm, ← union_assoc, union_self]
    · rw [union_assoc, ih h]

theorem unionAll_union_of_subset {ms ns : List Mode} (h : ∀ n ∈ ns, n ≠ ∅ → n ∈ ms) :
    unionAll ms ∪ unionAll ns = unionAll ms := by
  induction ns with
  | nil => exact union_empty _
  | cons n ns ih =>
    have htail := ih fun n' hn' => h n' (List.mem_cons_of_mem n hn')
    rw [unionAll_cons, ← union_assoc]
    by_cases hn : n = ∅
    · rw [hn, union_empty, htail]
    · rw [unionAll_union_of_mem (h n (List.mem_cons_self ..) hn), htail]

/-- The union is one of the set of modes, in which the empty mode does not count. -/
theorem unionAll_eq_of_same {ms ns : List Mode} (h : ∀ m, m ≠ ∅ → (m ∈ ms ↔ m ∈ ns)) :
    unionAll ms = unionAll ns := by
  have hleft := unionAll_union_of_subset fun n hn hne => (h n hne).2 hn
  have hright := unionAll_union_of_subset fun m hm hne => (h m hne).1 hm
  rw [← hleft, union_comm, hright]

/-- The pieces are names and stand for these modes, one by one. -/
def Named (ps : List (List Char)) (ms : List Mode) : Prop :=
  List.Forall₂ (fun p m => Name (nameOf p) m) ps ms

theorem ofNames_of_named {ps : List (List Char)} {ms : List Mode} (h : Named ps ms) :
    ofNames ps = .ok (unionAll ms) := by
  induction h with
  | nil => rfl
  | cons name _ ih =>
    rw [ofNames, ofName_of_name name, ih]
    rfl

/-- The first piece that is no name is complained about, whatever comes after it. -/
theorem ofNames_of_unknown {before : List (List Char)} {ms : List Mode} (h : Named before ms)
    {p : List Char} (hp : ∀ m, ¬Name (nameOf p) m) (after : List (List Char)) :
    ofNames (before ++ p :: after) = .error (.unknownFlag (nameOf p)) := by
  induction h with
  | nil => rw [List.nil_append, ofNames, ofName_of_unknown hp]
  | cons name _ ih => rw [List.cons_append, ofNames, ofName_of_name name, ih]

/-- Pieces are all names, or one of them is the first that is none. -/
theorem named_or_unknown (ps : List (List Char)) :
    (∃ ms, Named ps ms) ∨
      ∃ before ms p after,
        ps = before ++ p :: after ∧ Named before ms ∧ ∀ m, ¬Name (nameOf p) m := by
  induction ps with
  | nil => exact .inl ⟨[], .nil⟩
  | cons p ps ih =>
    by_cases hp : ∃ m, Name (nameOf p) m
    · obtain ⟨m, hm⟩ := hp
      rcases ih with ⟨ms, hms⟩ | ⟨before, ms, q, after, rfl, hbefore, hq⟩
      · exact .inl ⟨m :: ms, .cons hm hms⟩
      · exact .inr ⟨p :: before, m :: ms, q, after, rfl, .cons hm hbefore, hq⟩
    · exact .inr ⟨[], [], p, ps, rfl, .nil, fun m hm => hp ⟨m, hm⟩⟩

/-! ## The grammar -/

/-- What is read for a trimmed text: the number that it is, if it fits into a byte, or else the
union of the modes for which its pieces stand, unless one of them is no name. -/
inductive Reads (t : List Char) : Except Misconfiguration Mode → Prop
  | number {n : Nat} (literal : Literal t n) (fits : n ≤ 255) : Reads t (.ok ⟨UInt8.ofNat n⟩)
  | names {ps : List (List Char)} {ms : List Mode} (numberless : ∀ n ≤ 255, ¬Literal t n)
      (pieces : Text.ArePieces isSeparator t ps) (named : Named ps ms) :
      Reads t (.ok (unionAll ms))
  | unknown {before : List (List Char)} {ms : List Mode} {p : List Char}
      {after : List (List Char)} (numberless : ∀ n ≤ 255, ¬Literal t n)
      (pieces : Text.ArePieces isSeparator t (before ++ p :: after)) (named : Named before ms)
      (unknown : ∀ m, ¬Name (nameOf p) m) : Reads t (.error (.unknownFlag (nameOf p)))

theorem parse_of_number {s : String} {b : UInt8} (h : number? (Text.trim s.toList) = some b) :
    parse s = .ok ⟨b⟩ := by
  rw [parse, ofChars]
  simp only [h]

theorem parse_of_numberless {s : String} (h : number? (Text.trim s.toList) = none) :
    parse s = ofNames (Text.pieces isSeparator (Text.trim s.toList)) := by
  rw [parse, ofChars]
  simp only [h]

theorem parse_eq_iff (s : String) (r : Except Misconfiguration Mode) :
    parse s = r ↔ Reads (Text.trim s.toList) r := by
  constructor
  · rintro rfl
    cases hnumber : number? (Text.trim s.toList) with
    | some b =>
      rw [parse_of_number hnumber, ← UInt8.ofNat_toNat (x := b)]
      have hlt : b.toNat < 256 := b.toNat_lt
      exact .number ((number?_eq_some_iff _ b).1 hnumber) (by omega)
    | none =>
      have hnumberless := (number?_eq_none_iff _).1 hnumber
      have hpieces : Text.ArePieces isSeparator (Text.trim s.toList) _ :=
        (Text.pieces_eq_iff (Text.trim s.toList) _).1 rfl
      rw [parse_of_numberless hnumber]
      rcases named_or_unknown (Text.pieces isSeparator (Text.trim s.toList)) with
        ⟨ms, hms⟩ | ⟨before, ms, p, after, hps, hbefore, hp⟩
      · rw [ofNames_of_named hms]
        exact .names hnumberless hpieces hms
      · rw [hps] at hpieces ⊢
        rw [ofNames_of_unknown hbefore hp]
        exact .unknown hnumberless hpieces hbefore hp
  · intro h
    cases h with
    | @number n literal fits =>
      have hbyte : (UInt8.ofNat n).toNat = n := UInt8.toNat_ofNat_of_lt (by show n < 256; omega)
      refine parse_of_number ((number?_eq_some_iff _ _).2 ?_)
      rwa [hbyte]
    | names numberless pieces named =>
      rw [parse_of_numberless ((number?_eq_none_iff _).2 numberless),
        (Text.pieces_eq_iff _ _).2 pieces, ofNames_of_named named]
    | unknown numberless pieces named unknown =>
      rw [parse_of_numberless ((number?_eq_none_iff _).2 numberless),
        (Text.pieces_eq_iff _ _).2 pieces, ofNames_of_unknown named unknown]

/-! ## Lists of names -/

/-- The characters with which a number begins. -/
def leading : List Char := ['+', '0', '1', '2', '3', '4', '5', '6', '7', '8', '9']

theorem mem_leading_of_isDigit {c : Char} {d : Nat} (h : Text.Numeral.IsDigit 10 c d) :
    c ∈ leading := by
  have hascii : ∀ n < 128, ∀ d < 10,
      (Char.ofNat n).toLower = Nat.digitChar d → Char.ofNat n ∈ leading := by
    decide +kernel
  obtain ⟨hd, hlower⟩ := h
  by_cases hc : c.toNat < 128
  · have key := hascii c.toNat hc d hd
    rw [Char.ofNat_toNat] at key
    exact key hlower
  · have hnone := Text.Numeral.digit?_of_not_ascii (Nat.not_lt.1 hc) 10
    rw [(Text.Numeral.digit?_eq_some_iff (by decide) c d).2 ⟨hd, hlower⟩] at hnone
    cases hnone

theorem Literal.begins {s : List Char} {n : Nat} (h : Literal s n) :
    ∃ c rest, s = c :: rest ∧ c ∈ leading := by
  cases h with
  | decimal numeral =>
    cases numeral with
    | unsigned some digits =>
      cases digits with
      | nil => exact absurd rfl some
      | cons digit _ => exact ⟨_, _, rfl, mem_leading_of_isDigit digit⟩
    | signed => exact ⟨'+', _, rfl, by decide⟩
  | hexadecimal => exact ⟨'0', _, rfl, by decide⟩
  | binary => exact ⟨'0', _, rfl, by decide⟩

/-- No name begins like a number. -/
theorem Name.not_leading {name : String} {m : Mode} (h : Name name m) :
    name.toList.head?.any leading.contains = false := by
  cases h with
  | first | needle | all => decide +kernel
  | userData spelling =>
    have hletters : ∀ name ∈ ["user-data", "user_data", "userdata", "data"],
        name.toList.head?.any leading.contains = false := by decide +kernel
    exact hletters name spelling
  | nothing spelling =>
    have hletters : ∀ name ∈ ["none", ""], name.toList.head?.any leading.contains = false := by
      decide +kernel
    exact hletters name spelling

theorem not_name_of_leading {c : Char} (hc : c ∈ leading) (rest : List Char) (m : Mode) :
    ¬Name (nameOf (c :: rest)) m := by
  have hblank : ∀ c ∈ leading, ¬Text.isBlank c = true := List.any_eq_false.1 (by decide)
  have hlower : ∀ c ∈ leading, (c.toLower == c) = true := List.all_eq_true.1 (by decide)
  have hname : (nameOf (c :: rest)).toList.head? = some c := by
    rw [nameOf, Text.trim_cons_of_not_blank (Bool.eq_false_iff.2 (hblank c hc)),
      String.toList_ofList, Text.lower, List.map_cons, eq_of_beq (hlower c hc)]
    rfl
  intro h
  have hnot := h.not_leading
  rw [hname, Option.any_some, List.contains_eq_mem, decide_eq_false_iff_not] at hnot
  exact hnot hc

/-- A number is not read as names. -/
theorem Literal.ofNames_ne_ok {s : List Char} {n : Nat} (h : Literal s n) (m : Mode) :
    ofNames (Text.pieces isSeparator s) ≠ .ok m := by
  obtain ⟨c, rest, rfl, hc⟩ := h.begins
  have hseparator : ∀ c ∈ leading, ¬isSeparator c = true := List.any_eq_false.1 (by decide)
  obtain ⟨p, ps, -, hpieces⟩ :=
    Text.pieces_cons_of_not_sep (Bool.eq_false_iff.2 (hseparator c hc)) rest
  have hunknown : ofNames ((c :: p) :: ps) = .error (.unknownFlag (nameOf (c :: p))) :=
    ofNames_of_unknown .nil (not_name_of_leading hc p) ps
  rw [hpieces]
  intro hok
  rw [hok] at hunknown
  cases hunknown

theorem isSeparator_of_isBlank (c : Char) (h : Text.isBlank c = true) : isSeparator c = false := by
  rw [isSeparator, Bool.or_eq_false_iff, decide_eq_false_iff_not, decide_eq_false_iff_not]
  constructor
  · rintro rfl
    cases h
  · rintro rfl
    cases h

/-- Pieces are read alike whatever white space is around them. -/
theorem ofNames_congr {ps qs : List (List Char)} (h : ps.map Text.trim = qs.map Text.trim) :
    ofNames ps = ofNames qs := by
  induction ps generalizing qs with
  | nil =>
    cases qs with
    | nil => rfl
    | cons => cases h
  | cons p ps ih =>
    cases qs with
    | nil => cases h
    | cons q qs =>
      rw [List.map_cons, List.map_cons, List.cons.injEq] at h
      have hname : nameOf p = nameOf q := congrArg (fun t => String.ofList (Text.lower t)) h.1
      rw [ofNames, ofNames, ofName_eq, ofName_eq, hname, ih h.2]

/-- Trimming a text is trimming its pieces, of which white space is no part. -/
theorem ofNames_pieces_trim (s : List Char) :
    ofNames (Text.pieces isSeparator (Text.trim s)) = ofNames (Text.pieces isSeparator s) :=
  ofNames_congr ((Text.padded_trim s).map_trim_pieces isSeparator_of_isBlank).symm

/-- What is read for a text whose pieces are names, up to the white space around them. -/
theorem parse_of_named {s : String} {ps : List (List Char)} {ms : List Mode}
    (hps : (Text.pieces isSeparator s.toList).map Text.trim = ps.map Text.trim)
    (h : Named ps ms) : parse s = .ok (unionAll ms) := by
  have hnames : ofNames (Text.pieces isSeparator (Text.trim s.toList)) = .ok (unionAll ms) := by
    rw [ofNames_pieces_trim, ofNames_congr hps, ofNames_of_named h]
  have hnumberless : number? (Text.trim s.toList) = none :=
    (number?_eq_none_iff _).2 fun n _ hliteral => hliteral.ofNames_ne_ok _ hnames
  rw [parse_of_numberless hnumberless, hnames]

/-- A text in which every piece is a name, though it may be the empty one. -/
def IsNameList (s : String) : Prop :=
  ∀ p ∈ Text.pieces isSeparator s.toList, ∃ m, Name (nameOf p) m

/-- The names in a text. -/
def namesIn (s : String) : List String := (Text.pieces isSeparator s.toList).map nameOf

theorem exists_named {ps : List (List Char)} (h : ∀ p ∈ ps, ∃ m, Name (nameOf p) m) :
    ∃ ms, Named ps ms := by
  rcases named_or_unknown ps with hms | ⟨before, ms, p, after, rfl, -, hp⟩
  · exact hms
  · obtain ⟨m, hm⟩ := h p (List.mem_append_right before (List.mem_cons_self ..))
    exact absurd hm (hp m)

/-- A mode that is named has the name of a piece. -/
theorem Named.exists_name {ps : List (List Char)} {ms : List Mode} (h : Named ps ms) (m : Mode) :
    m ∈ ms ↔ ∃ name ∈ ps.map nameOf, Name name m := by
  induction h with
  | nil => simp
  | @cons p n ps ns name _ ih =>
    rw [List.mem_cons, ih, List.map_cons]
    constructor
    · rintro (rfl | ⟨other, hother, hname⟩)
      · exact ⟨nameOf p, List.mem_cons_self .., name⟩
      · exact ⟨other, List.mem_cons_of_mem _ hother, hname⟩
    · rintro ⟨other, hother, hname⟩
      rcases List.mem_cons.1 hother with rfl | hother
      · exact .inl (hname.unique name)
      · exact .inr ⟨other, hother, hname⟩

theorem Name.ne_empty {name : String} {m : Mode} (h : Name name m) (hm : m ≠ ∅) : name ≠ "" := by
  rintro rfl
  exact hm (h.unique (.nothing (by decide)))

/-- Reading follows the grammar, for every text and with its failures.

What is read for names depends only on which of them are there, the empty one not counted: not on
their order, on their number, on their case, or on what stands around and between them. Where two
lists of names are joined by a separator, it is the union of what is read for each. -/
theorem parse_follows_grammar :
    (∀ (s : String) (r : Except Misconfiguration Mode),
      parse s = r ↔ Reads (Text.trim s.toList) r) ∧
    (∀ s s' : String, IsNameList s → IsNameList s' →
      (∀ name, name ≠ "" → (name ∈ namesIn s ↔ name ∈ namesIn s')) →
      ∃ m, parse s = .ok m ∧ parse s' = .ok m) ∧
    ∀ (s s' : String) (c : Char), isSeparator c = true → IsNameList s → IsNameList s' →
      ∃ m m', parse s = .ok m ∧ parse s' = .ok m' ∧
        parse (s ++ String.singleton c ++ s') = .ok (m ∪ m') := by
  refine ⟨parse_eq_iff, ?_, ?_⟩
  · intro s s' hs hs' hsame
    obtain ⟨ms, hms⟩ := exists_named hs
    obtain ⟨ms', hms'⟩ := exists_named hs'
    refine ⟨unionAll ms, parse_of_named rfl hms, ?_⟩
    have hunion : unionAll ms' = unionAll ms := by
      refine unionAll_eq_of_same fun m hm => ?_
      rw [hms.exists_name m, hms'.exists_name m]
      constructor
      · rintro ⟨name, hmem, hname⟩
        exact ⟨name, (hsame name (hname.ne_empty hm)).2 hmem, hname⟩
      · rintro ⟨name, hmem, hname⟩
        exact ⟨name, (hsame name (hname.ne_empty hm)).1 hmem, hname⟩
    rw [parse_of_named rfl hms', hunion]
  · intro s s' c hc hs hs'
    obtain ⟨ms, hms⟩ := exists_named hs
    obtain ⟨ms', hms'⟩ := exists_named hs'
    refine ⟨unionAll ms, unionAll ms', parse_of_named rfl hms, parse_of_named rfl hms', ?_⟩
    have hjoined : (s ++ String.singleton c ++ s').toList = s.toList ++ c :: s'.toList := by
      rw [String.toList_append, String.toList_append, String.toList_singleton, List.append_assoc]
      rfl
    have hnamed : Named (Text.pieces isSeparator (s ++ String.singleton c ++ s').toList)
        (ms ++ ms') := by
      rw [hjoined, Text.pieces_append_sep hc]
      exact List.rel_append hms hms'
    rw [parse_of_named rfl hnamed, unionAll_append]

/-- Numbers end at one byte, and what is none is read as names. -/
example :
    ["0x+00fF", "0b0101", "007", "256", "0x", " data ,, FIRST| First", "7,", "first|0x80"].map
        (fun s => (parse s).toOption.map Mode.bits) =
      [some 255, some 5, some 7, none, none, some 5, none, none] := by
  decide +kernel

end RemoteSearch.Mode
