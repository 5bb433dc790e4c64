import RemoteSearch.Proofs.Reading.Advance
import RemoteSearch.Request

set_option autoImplicit false

/-! # What sending leaves as it was

Whatever the connection replies, a frame that is being sent reaches it as far as it gets, and in
order: what is accepted is a prefix of the frame (`Connection.sends_writeAll`). Nothing on the side
that reads is touched. How this goes on from call to call is `Connection.Sends`.

On a connection that is `Obliging`, which may take its time but does not fail, all of the frame is
accepted.
-/

namespace RemoteSearch

namespace Connection

/-! ## Calls and the bytes they send -/

/-- How a connection may stand after calls that send bytes and read none. -/
structure Sends (bytes : List UInt8) (before after : Connection) : Prop where
  arrivals : after.arrivals = before.arrivals
  readLimit : after.readLimit = before.readLimit
  taken : after.taken = before.taken
  replies : after.replies <:+ before.replies
  flushes : after.flushes <:+ before.flushes
  deadlines : after.deadlines <:+ before.deadlines
  sent : after.sent = before.sent ++ bytes

namespace Sends

theorem refl (c : Connection) : Sends [] c c :=
  ⟨rfl, rfl, rfl, List.suffix_rfl, List.suffix_rfl, List.suffix_rfl, (List.append_nil _).symm⟩

theorem trans {bytes more : List UInt8} {c c₁ c₂ : Connection} (h : Sends bytes c c₁)
    (k : Sends more c₁ c₂) : Sends (bytes ++ more) c c₂ where
  arrivals := k.arrivals.trans h.arrivals
  readLimit := k.readLimit.trans h.readLimit
  taken := k.taken.trans h.taken
  replies := k.replies.trans h.replies
  flushes := k.flushes.trans h.flushes
  deadlines := k.deadlines.trans h.deadlines
  sent := by rw [k.sent, h.sent, List.append_assoc]

end Sends

/-- A call sends the bytes that it got accepted. -/
theorem sent_of_calls {c c' : Connection} {call : Call} (h : c'.calls = call :: c.calls) :
    c'.sent = c.sent ++ (call.accepted?).getD [] := by
  rw [sent, accepted, history, h, List.reverse_cons, List.filterMap_append, List.flatten_append]
  congr 1
  cases hc : call.accepted? with
  | none => rw [List.filterMap_cons_none hc]; rfl
  | some bytes => rw [List.filterMap_cons_some hc]; exact List.append_nil bytes

theorem suffix_answer (size : Nat) (rs : List Reply) : (Reply.answer size rs).2 <:+ rs := by
  cases rs with
  | nil => exact List.suffix_rfl
  | cons reply rest => cases reply <;> exact List.suffix_cons _ rest

theorem sends_write (offered : List UInt8) (c : Connection) :
    Sends (((c.write offered).1.toOption.map offered.take).getD []) c (c.write offered).2 := by
  have hcalls : (c.write offered).2.calls = .write offered (c.write offered).1 :: c.calls := rfl
  refine ⟨rfl, rfl, ?_, suffix_answer offered.length c.replies, List.suffix_rfl,
    List.suffix_rfl, ?_⟩
  · rw [taken_of_calls hcalls]
    exact Nat.zero_add _
  · rw [sent_of_calls hcalls]
    cases (c.write offered).1 <;> rfl

theorem sends_flush (c : Connection) : Sends [] c c.flush.2 := by
  have hcalls : c.flush.2.calls = .flush c.flush.1 :: c.calls := rfl
  refine ⟨rfl, rfl, ?_, List.suffix_rfl, List.tail_suffix _, List.suffix_rfl, sent_of_calls hcalls⟩
  rw [taken_of_calls hcalls]
  exact Nat.zero_add _

theorem sends_setDeadline (direction : Direction) (limit : Option Duration) (c : Connection) :
    Sends [] c (c.setDeadline direction limit).2 := by
  have hcalls : (c.setDeadline direction limit).2.calls =
      .setDeadline direction limit (c.setDeadline direction limit).1 :: c.calls := rfl
  exact ⟨rfl, rfl, taken_setDeadline direction limit c, List.suffix_rfl, List.suffix_rfl,
    List.tail_suffix _, sent_of_calls hcalls⟩

/-! ## Writing all bytes -/

/-- What is accepted of bytes that are written is a prefix of them, and all of them if the write
succeeds. -/
theorem sends_writeAll (bytes : List UInt8) (c : Connection) :
    ∃ written, written <+: bytes ∧ Sends written c (c.writeAll bytes).2 ∧
      ((c.writeAll bytes).1 = .ok () → written = bytes) := by
  fun_induction writeAll bytes c with
  | case1 c => exact ⟨[], List.prefix_rfl, .refl c, fun _ => rfl⟩
  | case2 c b rest c' h =>
    have key := sends_write (b :: rest) c
    rw [h] at key
    exact ⟨[], List.nil_prefix, key, nofun⟩
  | case3 c b rest n c' h ih =>
    have key := sends_write (b :: rest) c
    rw [h] at key
    obtain ⟨written, hprefix, hsends, hall⟩ := ih
    have hsplit : (b :: rest).take (n + 1) ++ rest.drop n = b :: rest :=
      List.take_append_drop (n + 1) (b :: rest)
    refine ⟨(b :: rest).take (n + 1) ++ written, ?_, key.trans hsends, fun hok => ?_⟩
    · have hmore := (List.prefix_append_right_inj ((b :: rest).take (n + 1))).2 hprefix
      rwa [hsplit] at hmore
    · rw [hall hok, hsplit]
  | case4 c b rest e c' h hi ih =>
    -- An interrupted write accepts nothing, and the same bytes are offered again.
    have key := sends_write (b :: rest) c
    rw [h] at key
    obtain ⟨written, hprefix, hsends, hall⟩ := ih
    exact ⟨written, hprefix, key.trans hsends, hall⟩
  | case5 c b rest e c' h hi =>
    have key := sends_write (b :: rest) c
    rw [h] at key
    exact ⟨[], List.nil_prefix, key, nofun⟩

/-! ## Obliging connections -/

end Connection

/-- A reply that accepts something, or a mere interruption. -/
def Reply.Accepts : Reply → Prop
  | all => True
  | upTo limit => 0 < limit
  | failure e => e.isInterruption = true

instance : DecidablePred Reply.Accepts
  | .all => .isTrue trivial
  | .upTo limit => inferInstanceAs (Decidable (0 < limit))
  | .failure e => inferInstanceAs (Decidable (e.isInterruption = true))

namespace Connection

/-- A connection on which no call fails other than a read: writes may be partial or interrupted. -/
structure Obliging (c : Connection) : Prop where
  replies : ∀ reply ∈ c.replies, reply.Accepts
  flushes : ∀ failed ∈ c.flushes, failed = none
  deadlines : ∀ failed ∈ c.deadlines, failed = none

theorem Obliging.of_sends {bytes : List UInt8} {c c' : Connection} (h : c.Obliging)
    (k : Sends bytes c c') : c'.Obliging where
  replies reply hmem := h.replies reply (k.replies.subset hmem)
  flushes failed hmem := h.flushes failed (k.flushes.subset hmem)
  deadlines failed hmem := h.deadlines failed (k.deadlines.subset hmem)

/-- Reads do not bear on what the other calls meet. -/
theorem Obliging.of_writingSide {c c' : Connection} (h : c.Obliging)
    (k : c'.writingSide = c.writingSide) : c'.Obliging := by
  have hreplies : c'.replies = c.replies := (congrArg Connection.replies k :)
  have hflushes : c'.flushes = c.flushes := (congrArg Connection.flushes k :)
  have hdeadlines : c'.deadlines = c.deadlines := (congrArg Connection.deadlines k :)
  constructor
  · rw [hreplies]
    exact h.replies
  · rw [hflushes]
    exact h.flushes
  · rw [hdeadlines]
    exact h.deadlines

theorem join_head?_of_forall {outcomes : List (Option StreamError)}
    (h : ∀ failed ∈ outcomes, failed = none) : outcomes.head?.join = none := by
  cases outcomes with
  | nil => rfl
  | cons failed rest =>
    rw [h failed (List.mem_cons_self ..)]
    rfl

/-- Of bytes that are offered some are accepted, unless the write is interrupted. -/
theorem write_obliging {c : Connection} (h : c.Obliging) (b : UInt8) (rest : List UInt8) :
    match (c.write (b :: rest)).1 with
    | .ok n => 0 < n
    | .error e => e.isInterruption = true := by
  show match (Reply.answer (b :: rest).length c.replies).1 with
    | .ok n => 0 < n
    | .error e => e.isInterruption = true
  have hreplies := h.replies
  generalize c.replies = replies at hreplies ⊢
  cases replies with
  | nil => exact Nat.succ_pos rest.length
  | cons reply replies =>
    have hreply : reply.Accepts := hreplies reply (List.mem_cons_self ..)
    cases reply with
    | all => exact Nat.succ_pos rest.length
    | upTo limit => exact Nat.lt_min.2 ⟨hreply, Nat.succ_pos rest.length⟩
    | failure e => exact hreply

theorem writeAll_obliging (bytes : List UInt8) {c : Connection} (h : c.Obliging) :
    (c.writeAll bytes).1 = .ok () := by
  fun_induction writeAll bytes c with
  | case1 => rfl
  | case2 c b rest c' hw =>
    have key := write_obliging h b rest
    rw [hw] at key
    exact absurd key (Nat.lt_irrefl 0)
  | case3 c b rest n c' hw ih =>
    have key := sends_write (b :: rest) c
    rw [hw] at key
    exact ih (h.of_sends key)
  | case4 c b rest e c' hw hi ih =>
    have key := sends_write (b :: rest) c
    rw [hw] at key
    exact ih (h.of_sends key)
  | case5 c b rest e c' hw hi =>
    have key := write_obliging h b rest
    rw [hw] at key
    exact absurd key hi

/-- An obliging connection accepts all that is sent. -/
theorem send_obliging (bytes : List UInt8) {c : Connection} (h : c.Obliging) :
    (c.send bytes).1 = .ok () ∧ Sends bytes c (c.send bytes).2 := by
  have hwrite := writeAll_obliging bytes h
  obtain ⟨written, -, hsends, hall⟩ := sends_writeAll bytes c
  rw [hall hwrite] at hsends
  have hflush : (c.writeAll bytes).2.flush.1 = none :=
    join_head?_of_forall (h.of_sends hsends).flushes
  have hsend : c.send bytes = (.ok (), (c.writeAll bytes).2.flush.2) := by
    have hw : c.writeAll bytes = (.ok (), (c.writeAll bytes).2) := Prod.ext hwrite rfl
    have hf : (c.writeAll bytes).2.flush = (none, (c.writeAll bytes).2.flush.2) :=
      Prod.ext hflush rfl
    unfold send
    rw [hw]
    simp only []
    rw [hf]
  rw [hsend]
  refine ⟨rfl, ?_⟩
  have key := hsends.trans (sends_flush (c.writeAll bytes).2)
  rwa [List.append_nil] at key

end Connection

namespace Request

/-- A request whose needle fits is sent as its frame. -/
theorem send_obliging (order : Wire.Endian) {q : Request} (hq : q.needle.length < UInt32.size)
    {c : Connection} (h : c.Obliging) :
    (q.send order c).1 = .ok () ∧ c.Sends (q.layout order) (q.send order c).2 := by
  have hframe : q.frame order = .ok (q.layout order) := if_pos hq
  rw [send, hframe]
  exact c.send_obliging (q.layout order) h

end Request

end RemoteSearch
