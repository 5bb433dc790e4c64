import Mathlib.Algebra.Ring.Nat
import RemoteSearch.Console
import RemoteSearch.Proofs.Client.Receiving
import RemoteSearch.Proofs.Text.Utf8

set_option autoImplicit false

/-! # Lines of output

The answers of the console stand between its prompts, one text for each occurrence, which starts in
a fixed way and ends with a newline. What is shown of an occurrence is not escaped, though, and
brings its own newlines: one for each byte of its data and each unit of its needle that is one. So
an answer has as many lines as there are occurrences only where none of these is shown, and a server
that sends them can have one occurrence look like several (`run_prints_forged`).
-/

namespace RemoteSearch

namespace Wire

theorem scalarOr_eq_newline_iff (w : UInt32) : scalarOr w = '\n' ↔ w = 10 := by
  rw [scalarOr]
  split
  · next h =>
    constructor
    · intro hc
      exact congrArg Char.val hc
    · rintro rfl
      rfl
  · next h =>
    constructor
    · intro hc
      cases hc
    · rintro rfl
      exact absurd (by decide) h

/-- The text of bytes has as many newlines as there are units of that number. -/
theorem WideText.count_newline_toChars (order : Endian) (t : WideText) :
    (t.toChars order).count '\n' = (units t.bytes).countP fun unit => order.decode unit = 10 := by
  rw [toChars, List.count_eq_countP, List.countP_map]
  congr 1
  funext unit
  show decide (scalarOr (order.decode unit) = '\n') = decide (order.decode unit = 10)
  rw [decide_eq_decide]
  exact scalarOr_eq_newline_iff _

end Wire

namespace Console

/-! ## Newlines -/

/-- The number of newlines in a text. -/
def newlines (s : String) : Nat := s.toList.count '\n'

theorem newlines_append (s t : String) : newlines (s ++ t) = newlines s + newlines t := by
  rw [newlines, String.toList_append, List.count_append]
  rfl

theorem newlines_toString (n : Nat) : newlines (toString n) = 0 := by
  rw [newlines, Nat.toString_eq_ofList_toDigits, String.toList_ofList, List.count_eq_zero]
  intro h
  have hdigit := Nat.isDigit_of_mem_toDigits (by decide) (by decide) h
  cases hdigit

theorem newlines_join (ss : List String) : newlines (String.join ss) = (ss.map newlines).sum := by
  rw [newlines, String.toList_join, List.count_flatMap]
  rfl

/-- The number of newlines in what is shown of an occurrence. -/
def shownNewlines (mode : Mode) (order : Wire.Endian) (o : Occurrence) : Nat :=
  (if mode.hasNeedle then
      (o.needle.map fun t => (Wire.units t.bytes).countP fun unit => order.decode unit = 10).getD 0
    else 0) +
    if mode.hasUserData then o.data.count 10 else 0

theorem newlines_occurrenceLine (mode : Mode) (order : Wire.Endian) (o : Occurrence) :
    newlines (occurrenceLine mode order o) = shownNewlines mode order o := by
  have htext (t : Wire.WideText) : newlines (t.toString order) =
      (Wire.units t.bytes).countP fun unit => order.decode unit = 10 := by
    rw [newlines, Wire.WideText.toString, String.toList_ofList, Wire.WideText.count_newline_toChars]
  have hbytes : newlines (String.ofList (Text.Utf8.lenient o.data)) = o.data.count 10 := by
    rw [newlines, String.toList_ofList, Text.Utf8.count_newline_lenient]
  have hneedle (t : Wire.WideText) :
      newlines s!" \"{t.toString order}\" ({t.length})" = newlines (t.toString order) := by
    simp only [newlines_append, newlines_toString]
    exact Nat.zero_add _
  have hdata :
      newlines s!" data length: \"{String.ofList (Text.Utf8.lenient o.data)}\" {o.dataSize}" =
        newlines (String.ofList (Text.Utf8.lenient o.data)) := by
    simp only [newlines_append, newlines_toString]
    exact Nat.zero_add _
  have hparts (needle data : String) :
      newlines s!"found{needle}{data}" = newlines needle + newlines data := by
    rw [newlines_append, newlines_append]
    exact congrArg (· + newlines data) (Nat.zero_add (newlines needle))
  rw [occurrenceLine, hparts, shownNewlines]
  refine congrArg₂ (· + ·) ?_ ?_
  · cases o.needle with
    | none => cases mode.hasNeedle <;> rfl
    | some t =>
      cases mode.hasNeedle with
      | false => rfl
      | true => exact (hneedle t).trans (htext t)
  · cases mode.hasUserData with
    | false => rfl
    | true => exact hdata.trans hbytes

/-! ## Answers -/

theorem dialect_exchange (mode : Mode) (needle : String) (c : Client) :
    (exchange mode needle c).2.2.dialect = c.dialect := by
  have hsend : (c.send mode needle c.writeTimeout).2.dialect = c.dialect := by
    unfold Client.send
    split
    · rfl
    · rfl
  rw [exchange]
  generalize c.send mode needle c.writeTimeout = x at hsend ⊢
  rcases x with ⟨e | ⟨⟩, c'⟩
  · exact hsend
  · have hreceive := (c'.dialect_receive mode c'.readTimeout).trans hsend
    dsimp only
    generalize c'.receive mode c'.readTimeout = y at hreceive ⊢
    rcases y with ⟨e | os, c''⟩
    · exact hreceive
    · exact hreceive

/-- What a conversation prints are the answers to searches that its client makes one after the
other, each after a prompt, and a last prompt, after which the input may end. -/
theorem converse_answers (mode : Mode) (asked : List (List UInt8)) (c : Client) :
    ∃ (needles : List String) (found : List (List Occurrence)) (ending : List String),
      (asked.take needles.length).map needleOf = needles.map .ok ∧
      (c.run (needles.map fun needle => .search needle mode)).1 =
        found.map (fun os => .ok (.found os)) ∧
      (ending = [] ∨ ending = [farewell]) ∧
      (converse mode asked c).output =
        (found.flatMap fun os => prompt :: answerText mode c.dialect.order os) ++
          prompt :: ending := by
  induction asked generalizing c with
  | nil => exact ⟨[], [], [farewell], rfl, rfl, .inr rfl, rfl⟩
  | cons line asked ih =>
    cases hneedle : needleOf line with
    | error e =>
      refine ⟨[], [], [], rfl, rfl, .inl rfl, ?_⟩
      rw [converse, turn, hneedle]
      rfl
    | ok needle =>
      have hdialect := dialect_exchange mode needle c
      have hsearch := exchange_eq_search mode needle c
      rcases hexchange : exchange mode needle c with ⟨e | os, entries, c'⟩
      · refine ⟨[], [], [], rfl, rfl, .inl rfl, ?_⟩
        rw [converse, turn, hneedle]
        simp only [hexchange]
        rfl
      · rw [hexchange] at hdialect hsearch
        obtain ⟨needles, found, ending, hneedles, hrun, hending, houtput⟩ := ih c'
        have horder : c'.dialect.order = c.dialect.order := congrArg Dialect.order hdialect
        refine ⟨needle :: needles, os :: found, ending, ?_, ?_, hending, ?_⟩
        · rw [List.length_cons, List.take_succ_cons, List.map_cons, hneedle, hneedles]
          rfl
        · have hstep : c.step (.search needle mode) = (.ok (.found os), c') := by
            show (c.search mode needle).map _ id = _
            rw [← hsearch]
            rfl
          rw [List.map_cons, Client.run, hstep]
          exact congrArg (_ :: ·) hrun
        · rw [converse, turn, hneedle]
          simp only [hexchange]
          show prompt :: answerText mode c'.dialect.order os ++ (converse mode asked c').output = _
          rw [houtput, horder, List.flatMap_cons, List.append_assoc]

/-- An answer by its lines. There are as many as texts, one or one for each occurrence, and one more
for each newline that is shown. -/
structure AnswerLines (mode : Mode) (order : Wire.Endian) (os : List Occurrence) : Prop where
  texts : (answerText mode order os).length = max 1 os.length
  shape : ∀ text ∈ answerText mode order os,
    os = [] ∧ text = "not found\n" ∨ os ≠ [] ∧ ∃ shown, text = "found" ++ shown ++ "\n"
  count : newlines (String.join (answerText mode order os)) =
    max 1 os.length + (os.map (shownNewlines mode order)).sum
  single : newlines (String.join (answerText mode order os)) = max 1 os.length ↔
    ∀ o ∈ os, shownNewlines mode order o = 0

theorem occurrenceLine_eq (mode : Mode) (order : Wire.Endian) (o : Occurrence) :
    ∃ shown, occurrenceLine mode order o = "found" ++ shown := by
  rw [occurrenceLine]
  exact ⟨_, String.append_assoc ..⟩

theorem newlines_answerText (mode : Mode) (order : Wire.Endian) (os : List Occurrence) :
    newlines (String.join (answerText mode order os)) =
      max 1 os.length + (os.map (shownNewlines mode order)).sum := by
  rw [newlines_join]
  cases os with
  | nil => rfl
  | cons o os =>
    have hline (o : Occurrence) :
        newlines (occurrenceLine mode order o ++ "\n") = shownNewlines mode order o + 1 := by
      rw [newlines_append, newlines_occurrenceLine]
      rfl
    have hsum (os : List Occurrence) :
        ((os.map fun o => occurrenceLine mode order o ++ "\n").map newlines).sum =
          os.length + (os.map (shownNewlines mode order)).sum := by
      induction os with
      | nil => rfl
      | cons o os ih =>
        simp only [List.map_cons, List.sum_cons, List.length_cons, hline]
        omega
    show ((List.map (fun o => occurrenceLine mode order o ++ "\n") (o :: os)).map newlines).sum = _
    rw [hsum, Nat.max_eq_right (show 1 ≤ (o :: os).length from Nat.succ_pos _)]

theorem answerLines (mode : Mode) (order : Wire.Endian) (os : List Occurrence) :
    AnswerLines mode order os where
  texts := by
    cases os with
    | nil => rfl
    | cons o os =>
      show (List.map _ (o :: os)).length = _
      rw [List.length_map, Nat.max_eq_right (show 1 ≤ (o :: os).length from Nat.succ_pos _)]
  shape := by
    intro text htext
    cases os with
    | nil => exact .inl ⟨rfl, List.mem_singleton.1 htext⟩
    | cons o os =>
      obtain ⟨o', -, rfl⟩ := List.mem_map.1 htext
      obtain ⟨shown, hshown⟩ := occurrenceLine_eq mode order o'
      exact .inr ⟨nofun, shown, by rw [hshown]⟩
  count := newlines_answerText mode order os
  single := by
    rw [newlines_answerText, Nat.add_eq_left, List.sum_eq_zero_iff_forall_eq_nat,
      List.forall_mem_map]

/-- Between the prompts of a conversation stand the answers to its searches. An answer has one text
for each occurrence that was found, or a single one that none was. It has as many lines as texts if
and only if no newline is shown in it: each byte of data and each unit of a needle that is one,
where the mode asks for these, breaks a line of its own. -/
theorem answers_break_at_newlines (mode : Mode) (asked : List (List UInt8)) (c : Client) :
    ∃ (needles : List String) (found : List (List Occurrence)) (ending : List String),
      (asked.take needles.length).map needleOf = needles.map .ok ∧
      (c.run (needles.map fun needle => .search needle mode)).1 =
        found.map (fun os => .ok (.found os)) ∧
      (ending = [] ∨ ending = ["\n"]) ∧
      (converse mode asked c).output =
        (found.flatMap fun os => "Needle: " :: answerText mode c.dialect.order os) ++
          "Needle: " :: ending ∧
      ∀ os ∈ found, AnswerLines mode c.dialect.order os := by
  obtain ⟨needles, found, ending, hneedles, hrun, hending, houtput⟩ :=
    converse_answers mode asked c
  exact ⟨needles, found, ending, hneedles, hrun, hending, houtput,
    fun os _ => answerLines mode c.dialect.order os⟩

/-- A line of its own for one byte of data, and one occurrence that is shown just as two others are.
Where its data are no text, they take up less than they show, so that even the sizes agree. -/
theorem run_prints_forged :
    let d : Dialect := ⟨.big, defaultFieldLimit⟩
    let broken : List UInt8 := [0, 0, 0, 1, 10, 255, 255, 255, 255]
    let forging : List UInt8 := [0, 0, 0, 36] ++
      Text.Utf8.encode "\" 0\nfound data length: \"".toList ++ List.replicate 12 255 ++
        [255, 255, 255, 255]
    let honest : List UInt8 := [0, 0, 0, 0, 0, 0, 0, 36] ++
      Text.Utf8.encode (List.replicate 12 '\ufffd') ++ [255, 255, 255, 255]
    let printed (sends : List UInt8) : String :=
      String.join (run {} ⟨.unix "s", sends, false⟩ none
        ["-e", "big", "-n", "unix", "-a", "s", "-m", "4"] [97, 10]).output
    ((d.decode .userData broken).1 = .ok [⟨[10], none⟩] ∧
        newlines (occurrenceLine .userData d.order ⟨[10], none⟩) = 1 ∧
        printed broken = "Needle: found data length: \"\n\" 1\nNeedle: \n") ∧
      (d.decode .userData forging).1.map List.length = .ok 1 ∧
      (d.decode .userData honest).1.map List.length = .ok 2 ∧ printed forging = printed honest := by
  decide +kernel

end Console

end RemoteSearch
