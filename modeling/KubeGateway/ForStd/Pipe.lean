/-!
# Byte streams and copy loops

A `Pipe` is one direction of a connection: everything that was written to it and
how much of that was read.  A write may stop part of the way, which ends the
pipe; a read returns any number of the bytes that are on their way, so every way
of splitting and joining the bytes is a choice of the reads.  A broken pipe
gives nothing more to read.  What was read is a prefix of what was written
because the number of bytes read is bounded by a field.

A `Pump` copies one pipe to another through a buffer, one read or one write at a
time.  `Carried` is what such a loop keeps: what it wrote, with its buffer, is
what it read.
-/

universe u

/-- One direction of a connection. -/
structure Pipe (α : Type u) where
  sent : List α
  taken : Nat
  /-- nothing more is written: the writer closed it, or it broke -/
  ended : Bool
  /-- nothing more is read -/
  broken : Bool
  taken_le : taken ≤ sent.length
  ended_of_broken : broken = true → ended = true

namespace Pipe

variable {α : Type u} (p : Pipe α)

/-- A new connection. -/
def fresh : Pipe α := ⟨[], 0, false, false, Nat.le_refl _, nofun⟩

/-- What was read so far. -/
def received : List α := p.sent.take p.taken

/-- What was written and not read yet. -/
def pending : List α := p.sent.drop p.taken

/-- A write of `data` of which the first `k` elements are accepted; a write that
    stops early is an error, and the last one. -/
def write (data : List α) (k : Nat) : Pipe α :=
  if h : p.ended = true then p
  else
    { p with
      sent := p.sent ++ data.take k
      ended := decide (k < data.length)
      taken_le := Nat.le_trans p.taken_le (by simp)
      ended_of_broken := fun hb => absurd (p.ended_of_broken hb) h }

/-- What a read of at most `n` elements returns. -/
def chunk (n : Nat) : List α := if p.broken then [] else p.pending.take n

/-- A read of at most `n` elements. -/
def read (n : Nat) : Pipe α :=
  { p with
    taken := p.taken + (p.chunk n).length
    taken_le := by
      have h := p.taken_le
      unfold chunk pending
      split
      · exact h
      · simp only [List.length_take, List.length_drop]
        omega }

/-- The writer closes the pipe. -/
def finish : Pipe α := { p with ended := true, ended_of_broken := fun _ => rfl }

/-- The connection breaks; what is on its way is lost. -/
def reset : Pipe α :=
  { p with ended := true, broken := true, ended_of_broken := fun _ => rfl }

/-- A read returns, without an element: at the end of the stream, or because the
    connection broke.  Otherwise a read waits until there is something. -/
def dead : Bool := p.broken || (p.ended && p.taken == p.sent.length)

theorem unbroken {p : Pipe α} (h : p.ended = false) : p.broken = false := by
  cases hbroken : p.broken with
  | false => rfl
  | true =>
    rw [p.ended_of_broken hbroken] at h
    cases h

theorem write_of_ended {p : Pipe α} (h : p.ended = true) (data : List α) (k : Nat) :
    p.write data k = p := by
  unfold write
  rw [dif_pos h]

theorem sent_write_of_not_ended {p : Pipe α} (h : p.ended = false) (data : List α) (k : Nat) :
    (p.write data k).sent = p.sent ++ data.take k := by
  unfold write
  rw [dif_neg (by rw [h]; decide)]

theorem ended_write_of_not_ended {p : Pipe α} (h : p.ended = false) (data : List α) (k : Nat) :
    (p.write data k).ended = decide (k < data.length) := by
  unfold write
  rw [dif_neg (by rw [h]; decide)]

@[simp] theorem taken_write (data : List α) (k : Nat) : (p.write data k).taken = p.taken := by
  unfold write
  split <;> rfl

@[simp] theorem broken_write (data : List α) (k : Nat) : (p.write data k).broken = p.broken := by
  unfold write
  split <;> rfl

/-- A write adds to the end. -/
theorem sent_prefix_write (data : List α) (k : Nat) : p.sent <+: (p.write data k).sent := by
  cases h : p.ended with
  | true => simp only [write_of_ended h, List.prefix_refl]
  | false => rw [sent_write_of_not_ended h]; exact List.prefix_append _ _

/-- What was read is a prefix of what was written. -/
theorem received_prefix : p.received <+: p.sent := List.take_prefix _ _

theorem drop_received_prefix (n : Nat) : p.received.drop n <+: p.sent.drop n := by
  unfold received
  rw [List.drop_take]
  exact List.take_prefix _ _

@[simp] theorem received_write (data : List α) (k : Nat) :
    (p.write data k).received = p.received := by
  cases h : p.ended with
  | true => rw [write_of_ended h]
  | false =>
    unfold received
    rw [taken_write, sent_write_of_not_ended h]
    exact List.take_append_of_le_length p.taken_le

/-- A read adds what it returns. -/
theorem received_read (n : Nat) : (p.read n).received = p.received ++ p.chunk n := by
  unfold received read chunk pending
  dsimp only
  split
  · simp
  · rw [List.take_add]
    congr 1
    rw [List.length_take, ← List.take_take, List.take_length]

/-- A pipe with the same contents gave the same. -/
theorem received_congr {p p' : Pipe α} (hsent : p'.sent = p.sent) (htaken : p'.taken = p.taken) :
    p'.received = p.received := by
  unfold received
  rw [hsent, htaken]

theorem length_received : p.received.length = p.taken := by
  unfold received
  rw [List.length_take]
  exact Nat.min_eq_left p.taken_le

/-! ## Streams that give nothing more -/

theorem ended_of_dead {p : Pipe α} (h : p.dead = true) : p.ended = true := by
  unfold dead at h
  simp only [Bool.or_eq_true, Bool.and_eq_true] at h
  exact h.elim p.ended_of_broken And.left

theorem write_of_dead {p : Pipe α} (h : p.dead = true) (data : List α) (k : Nat) :
    p.write data k = p := write_of_ended (ended_of_dead h) data k

theorem dead_finish_of_dead {p : Pipe α} (h : p.dead = true) : p.finish.dead = true := by
  unfold dead finish at *
  simp only [Bool.or_eq_true, Bool.and_eq_true, Bool.true_and] at h ⊢
  exact h.imp id And.right

theorem chunk_of_dead {p : Pipe α} (h : p.dead = true) (n : Nat) : p.chunk n = [] := by
  unfold dead at h
  unfold chunk pending
  cases hbroken : p.broken with
  | true => rfl
  | false =>
    simp only [hbroken, Bool.false_or, Bool.and_eq_true, beq_iff_eq] at h
    rw [h.2, List.drop_length, List.take_nil]
    rfl

theorem read_of_dead {p : Pipe α} (h : p.dead = true) (n : Nat) : p.read n = p := by
  obtain ⟨sent, taken, ended, broken, hle, hended⟩ := p
  unfold read
  simp only [chunk_of_dead h, List.length_nil, Nat.add_zero]

/-- What is over in the one is over in the other. -/
structure Later (p p' : Pipe α) : Prop where
  ended : p.ended = true → p'.ended = true := by exact id
  dead : p.dead = true → p'.dead = true := by exact id

theorem Later.refl (p : Pipe α) : p.Later p := {}

theorem later_write (data : List α) (k : Nat) : p.Later (p.write data k) where
  ended := fun h => by rw [write_of_ended h]; exact h
  dead := fun h => by rw [write_of_dead h]; exact h

theorem later_read (n : Nat) : p.Later (p.read n) where
  dead := fun h => by rw [read_of_dead h]; exact h

theorem later_finish : p.Later p.finish where
  ended := fun _ => rfl
  dead := dead_finish_of_dead

theorem later_reset : p.Later p.reset where
  ended := fun _ => rfl
  dead := fun _ => rfl

/-! ## What is on its way -/

theorem length_pending : p.pending.length = p.sent.length - p.taken := by
  unfold pending
  rw [List.length_drop]

theorem pending_eq_nil {p : Pipe α} (hbroken : p.broken = false) (h : p.dead = true) :
    p.pending = [] := by
  unfold dead at h
  unfold pending
  simp only [hbroken, Bool.false_or, Bool.and_eq_true, beq_iff_eq] at h
  rw [h.2, List.drop_length]

/-- With nothing on its way, all that was written has been read. -/
theorem received_of_pending_eq_nil {p : Pipe α} (h : p.pending = []) : p.received = p.sent := by
  unfold received
  unfold pending at h
  rw [List.take_of_length_le (List.drop_eq_nil_iff.mp h)]

theorem length_pending_read {p : Pipe α} (n : Nat) :
    (p.read n).pending.length + (p.chunk n).length = p.pending.length := by
  have hle := (p.read n).taken_le
  rw [length_pending, length_pending]
  unfold read at hle ⊢
  dsimp only at hle ⊢
  omega

theorem length_pending_write {p : Pipe α} (h : p.ended = false) (data : List α) {k : Nat}
    (hk : data.length ≤ k) :
    (p.write data k).pending.length = p.pending.length + data.length := by
  have hle := p.taken_le
  rw [length_pending, length_pending, taken_write, sent_write_of_not_ended h,
    List.take_of_length_le hk, List.length_append]
  omega

end Pipe

/-! ## Copy loops -/

/-- A loop that copies one pipe to another: the elements it has read and not
    written yet, and whether it has returned. -/
structure Pump (α : Type u) where
  buf : List α
  done : Bool

namespace Pump

variable {α : Type u}

/-- A loop that starts. -/
def start : Pump α := ⟨[], false⟩

/-- One read (with an empty buffer) or one write of at most `n` elements, from
    `src` to `dst`.  The loop returns at the end of the source and on errors. -/
def step (q : Pump α) (n : Nat) (src dst : Pipe α) : Pump α × Pipe α × Pipe α :=
  if q.done then (q, src, dst)
  else if q.buf = [] then
    if src.dead then ({ q with done := true }, src, dst)
    else ({ q with buf := src.chunk n }, src.read n, dst)
  else if dst.ended then ({ q with done := true }, src, dst)
  else ({ buf := q.buf.drop n, done := decide (n < q.buf.length) }, src, dst.write q.buf n)

/-- A loop writes nothing to its source. -/
theorem sent_src_step (q : Pump α) (n : Nat) (src dst : Pipe α) :
    (q.step n src dst).2.1.sent = src.sent := by
  unfold step
  repeat' split
  all_goals rfl

/-- A loop only reads from its source. -/
theorem taken_le_src_step (q : Pump α) (n : Nat) (src dst : Pipe α) :
    src.taken ≤ (q.step n src dst).2.1.taken := by
  unfold step
  repeat' split
  all_goals first
    | exact Nat.le_refl _
    | exact Nat.le_add_right _ _

theorem ended_src_step (q : Pump α) (n : Nat) (src dst : Pipe α) :
    (q.step n src dst).2.1.ended = src.ended := by
  unfold step
  repeat' split
  all_goals rfl

theorem broken_src_step (q : Pump α) (n : Nat) (src dst : Pipe α) :
    (q.step n src dst).2.1.broken = src.broken := by
  unfold step
  repeat' split
  all_goals rfl

/-- A loop takes nothing from a source that has ended. -/
theorem src_step_of_dead (q : Pump α) (n : Nat) {src : Pipe α} (dst : Pipe α)
    (h : src.dead = true) : (q.step n src dst).2.1 = src := by
  unfold step
  repeat' split
  all_goals rfl

/-- A loop only adds to its destination. -/
theorem sent_prefix_dst_step (q : Pump α) (n : Nat) (src dst : Pipe α) :
    dst.sent <+: (q.step n src dst).2.2.sent := by
  unfold step
  repeat' split
  all_goals first
    | exact List.prefix_refl _
    | exact Pipe.sent_prefix_write _ _ _

/-- A loop reads nothing from its destination. -/
theorem taken_dst_step (q : Pump α) (n : Nat) (src dst : Pipe α) :
    (q.step n src dst).2.2.taken = dst.taken := by
  unfold step
  repeat' split
  all_goals first
    | rfl
    | exact Pipe.taken_write _ _ _

theorem received_dst_step (q : Pump α) (n : Nat) (src dst : Pipe α) :
    (q.step n src dst).2.2.received = dst.received := by
  unfold step
  repeat' split
  all_goals first
    | rfl
    | exact Pipe.received_write _ _ _

/-- A loop reads on from where its source was read. -/
theorem received_prefix_src_step (q : Pump α) (n : Nat) (src dst : Pipe α) :
    src.received <+: (q.step n src dst).2.1.received := by
  unfold step
  repeat' split
  all_goals first
    | exact List.prefix_refl _
    | rw [Pipe.received_read]; exact List.prefix_append _ _

/-- A loop leaves a destination alone that takes nothing more. -/
theorem dst_step_of_ended (q : Pump α) (n : Nat) (src : Pipe α) {dst : Pipe α}
    (h : dst.ended = true) : (q.step n src dst).2.2 = dst := by
  unfold step
  repeat' split
  all_goals rfl

/-- A loop leaves what its destination starts with. -/
theorem take_dst_step (q : Pump α) (n : Nat) (src : Pipe α) {dst : Pipe α} {k : Nat}
    (h : k ≤ dst.sent.length ∨ dst.ended = true) :
    (q.step n src dst).2.2.sent.take k = dst.sent.take k := by
  obtain hle | hended := h
  · obtain ⟨rest, hrest⟩ := q.sent_prefix_dst_step n src dst
    rw [← hrest, List.take_append_of_le_length hle]
  · rw [dst_step_of_ended q n src hended]

/-- The loop wrote to `dst`, after its first `skipped` elements, what it read
    from `src` after the first `consumed`, up to its buffer. -/
def Carried (q : Pump α) (src : Pipe α) (consumed : Nat) (dst : Pipe α) (skipped : Nat) : Prop :=
  dst.sent.drop skipped ++ q.buf = src.received.drop consumed

/-- One step of the loop keeps `Carried`. -/
theorem carried_step {q : Pump α} {src dst : Pipe α} {consumed skipped : Nat} (n : Nat)
    (hconsumed : consumed ≤ src.taken ∨ src.dead = true)
    (hskipped : skipped ≤ dst.sent.length ∨ dst.ended = true)
    (h : q.Carried src consumed dst skipped) :
    (q.step n src dst).1.Carried (q.step n src dst).2.1 consumed
      (q.step n src dst).2.2 skipped := by
  unfold step
  split
  · exact h
  · split
    · rename_i hbuf
      split
      · exact h
      · rename_i hlive
        -- a read moves elements into the empty buffer
        unfold Carried at h ⊢
        rw [hbuf, List.append_nil] at h
        have hlen : consumed ≤ src.received.length := by
          rw [Pipe.length_received]
          exact hconsumed.resolve_right hlive
        rw [Pipe.received_read, List.drop_append_of_le_length hlen, h]
    · split
      · exact h
      · rename_i hended
        -- a write moves them out of it
        have hlive : dst.ended = false := Bool.not_eq_true _ ▸ hended
        have hlen : skipped ≤ dst.sent.length := by
          obtain hle | he := hskipped
          · exact hle
          · exact absurd he hended
        unfold Carried at h ⊢
        rw [Pipe.sent_write_of_not_ended hlive, List.drop_append_of_le_length hlen,
          List.append_assoc, List.take_append_drop]
        exact h

/-- A loop that carried its source wrote a prefix of it. -/
theorem Carried.prefix {q : Pump α} {src dst : Pipe α} {consumed skipped : Nat}
    (h : q.Carried src consumed dst skipped) :
    dst.sent.drop skipped <+: src.received.drop consumed := ⟨q.buf, h⟩

/-! ### Loops that move everything on -/

theorem later_src_step (q : Pump α) (n : Nat) (src dst : Pipe α) :
    src.Later (q.step n src dst).2.1 := by
  unfold step
  repeat' split
  all_goals first
    | exact Pipe.Later.refl _
    | exact Pipe.later_read _ _

theorem later_dst_step (q : Pump α) (n : Nat) (src dst : Pipe α) :
    dst.Later (q.step n src dst).2.2 := by
  unfold step
  repeat' split
  all_goals first
    | exact Pipe.Later.refl _
    | exact Pipe.later_write _ _ _

/-- A loop has a reason to have returned: the end of its source, or of its destination. -/
def Excused (q : Pump α) (src dst : Pipe α) : Prop :=
  q.done = true → (q.buf = [] ∧ src.dead = true) ∨ dst.ended = true

theorem Excused.later {q : Pump α} {src src' dst dst' : Pipe α} (h : q.Excused src dst)
    (hsrc : src.Later src') (hdst : dst.Later dst') : q.Excused src' dst' :=
  fun hdone => (h hdone).imp (And.imp_right hsrc.dead) hdst.ended

theorem Excused.step {q : Pump α} {src dst : Pipe α} (h : q.Excused src dst) (n : Nat) :
    (q.step n src dst).1.Excused (q.step n src dst).2.1 (q.step n src dst).2.2 := by
  unfold Pump.step
  split
  · exact h
  · rename_i hrunning
    split
    · rename_i hbuf
      split
      · rename_i hdead
        exact fun _ => Or.inl ⟨hbuf, hdead⟩
      · exact fun hdone => absurd hdone hrunning
    · split
      · rename_i hended
        exact fun _ => Or.inr hended
      · -- a write that stops early is the last one
        rename_i hlive
        intro hdone
        right
        rw [Pipe.ended_write_of_not_ended (Bool.not_eq_true _ ▸ hlive)]
        exact hdone

/-- The elements a loop has still to move. -/
def waiting (q : Pump α) (src : Pipe α) : Nat := q.buf.length + src.pending.length

/-- A step of a loop whose ends are open, that reads something and writes its whole
    buffer: there is nothing to move, or it reads, or it writes. -/
theorem step_progress {q : Pump α} {n : Nat} {src dst : Pipe α} (hn : 1 ≤ n)
    (hbuf : q.buf.length ≤ n) (hsrc : src.broken = false) (hdst : dst.ended = false)
    (hexcused : q.Excused src dst) :
    (q.waiting src = 0 ∧ (q.step n src dst).1.buf = q.buf ∧
      (q.step n src dst).2.1.pending = src.pending ∧ (q.step n src dst).2.2 = dst) ∨
    (q.buf = [] ∧ 1 ≤ (q.step n src dst).1.buf.length ∧
      (q.step n src dst).2.1.pending.length + (q.step n src dst).1.buf.length =
        src.pending.length ∧ (q.step n src dst).2.2 = dst) ∨
    (1 ≤ q.buf.length ∧ (q.step n src dst).1.buf = [] ∧
      (q.step n src dst).2.1.pending = src.pending ∧
      (q.step n src dst).2.2.pending.length = dst.pending.length + q.buf.length ∧
      (q.step n src dst).2.2.ended = false) := by
  unfold step waiting
  split
  · -- the loop has returned, at the end of its source
    rename_i hdone
    obtain ⟨hempty, hdead⟩ | hended := hexcused hdone
    · left
      rw [hempty, Pipe.pending_eq_nil hsrc hdead]
      exact ⟨rfl, rfl, rfl, rfl⟩
    · rw [hdst] at hended
      cases hended
  · split
    · rename_i hempty
      split
      · rename_i hdead
        left
        rw [hempty, Pipe.pending_eq_nil hsrc hdead]
        exact ⟨rfl, rfl, rfl, rfl⟩
      · have hchunk : src.chunk n = src.pending.take n := by
          unfold Pipe.chunk
          rw [hsrc]
          rfl
        rcases Nat.eq_zero_or_pos src.pending.length with hnone | hsome
        · -- a read that waits
          left
          have hnil : src.pending = [] := List.length_eq_zero_iff.mp hnone
          have hread := @Pipe.length_pending_read _ src n
          rw [hchunk, hnil, List.take_nil] at hread ⊢
          rw [hempty]
          exact ⟨rfl, rfl, List.length_eq_zero_iff.mp (by simpa using hread), rfl⟩
        · right
          left
          refine ⟨hempty, ?_, Pipe.length_pending_read n, rfl⟩
          show 1 ≤ (src.chunk n).length
          rw [hchunk, List.length_take]
          omega
    · rename_i hfull
      rw [hdst]
      right
      right
      refine ⟨List.length_pos_iff.mpr hfull, List.drop_eq_nil_iff.mpr hbuf, rfl,
        Pipe.length_pending_write hdst q.buf hbuf, ?_⟩
      show (dst.write q.buf n).ended = false
      rw [Pipe.ended_write_of_not_ended hdst]
      exact decide_eq_false (Nat.not_lt.mpr hbuf)

/-- Counting each element once for each read and write that is still ahead of it, a
    step of such a loop brings the sum down, or does not matter. -/
theorem step_weight {q : Pump α} {n : Nat} {src dst : Pipe α} (hn : 1 ≤ n)
    (hbuf : q.buf.length ≤ n) (hsrc : src.broken = false) (hdst : dst.ended = false)
    (hexcused : q.Excused src dst) (w : Nat) :
    (q.step n src dst).2.2.ended = false ∧
      ((w + 2) * (q.step n src dst).2.1.pending.length + (w + 1) * (q.step n src dst).1.buf.length +
          w * (q.step n src dst).2.2.pending.length <
        (w + 2) * src.pending.length + (w + 1) * q.buf.length + w * dst.pending.length ∨
      (q.waiting src = 0 ∧ (q.step n src dst).1.buf = q.buf ∧
        (q.step n src dst).2.1.pending = src.pending ∧ (q.step n src dst).2.2 = dst)) := by
  rcases step_progress hn hbuf hsrc hdst hexcused with hidle | ⟨hempty, hsome, hread, hsame⟩ |
    ⟨hsome, hempty, hsame, hwritten, hlive⟩
  · exact ⟨by rw [hidle.2.2.2]; exact hdst, Or.inr hidle⟩
  · refine ⟨by rw [hsame]; exact hdst, Or.inl ?_⟩
    rw [hsame, hempty, ← hread, List.length_nil]
    simp only [Nat.add_mul, Nat.mul_add]
    omega
  · refine ⟨hlive, Or.inl ?_⟩
    rw [hempty, hsame, hwritten, List.length_nil]
    simp only [Nat.add_mul, Nat.mul_add]
    omega

/-! ### Loops whose reads and writes succeed -/

/-- One read of at most `n` elements, or a write of the whole buffer. -/
def copy (q : Pump α) (n : Nat) (src dst : Pipe α) : Pump α × Pipe α × Pipe α :=
  q.step (if q.buf = [] then n else q.buf.length) src dst

/-- What one round does while the destination takes what is written. -/
theorem copy_cases (q : Pump α) (n : Nat) (src dst : Pipe α) (h : dst.ended = false) :
    (q.done = true ∧ q.copy n src dst = (q, src, dst)) ∨
    (q.done = false ∧ q.buf = [] ∧ src.dead = true ∧
      q.copy n src dst = ({ q with done := true }, src, dst)) ∨
    (q.done = false ∧ q.buf = [] ∧ src.dead = false ∧
      q.copy n src dst = ({ q with buf := src.chunk n }, src.read n, dst)) ∨
    (q.done = false ∧ q.buf ≠ [] ∧
      q.copy n src dst = ({ buf := [], done := false }, src, dst.write q.buf q.buf.length)) := by
  unfold copy step
  cases hdone : q.done with
  | true => exact Or.inl ⟨rfl, by simp⟩
  | false =>
    by_cases hbuf : q.buf = []
    · cases hdead : src.dead with
      | true => exact Or.inr (Or.inl ⟨rfl, hbuf, rfl, by simp [hbuf]⟩)
      | false => exact Or.inr (Or.inr (Or.inl ⟨rfl, hbuf, rfl, by simp [hbuf]⟩))
    · exact Or.inr (Or.inr (Or.inr ⟨rfl, hbuf, by simp [hbuf, h]⟩))

theorem broken_src_copy (q : Pump α) (n : Nat) (src dst : Pipe α) :
    (q.copy n src dst).2.1.broken = src.broken := broken_src_step q _ src dst

/-- A write that succeeds does not end its pipe. -/
theorem ended_dst_copy (q : Pump α) (n : Nat) (src : Pipe α) {dst : Pipe α}
    (h : dst.ended = false) : (q.copy n src dst).2.2.ended = false := by
  rcases q.copy_cases n src dst h with ⟨-, heq⟩ | ⟨-, -, -, heq⟩ | ⟨-, -, -, heq⟩ | ⟨-, -, heq⟩
  · rw [heq, h]
  · rw [heq, h]
  · rw [heq, h]
  · rw [heq, Pipe.ended_write_of_not_ended h]
    simp

/-- The loop has written, up to its buffer, all that it has read, and it ends at the
    end of its source only. -/
structure Whole (q : Pump α) (src dst : Pipe α) : Prop where
  carried : dst.sent ++ q.buf = src.received
  atEnd : q.done = true → q.buf = [] ∧ src.dead = true

theorem whole_start : (start : Pump α).Whole Pipe.fresh Pipe.fresh := ⟨rfl, nofun⟩

/-- A loop that has ended has written all that was sent. -/
theorem Whole.sent_eq {q : Pump α} {src dst : Pipe α} (h : q.Whole src dst) (hdone : q.done = true)
    (hbroken : src.broken = false) : dst.sent = src.sent := by
  obtain ⟨hbuf, hdead⟩ := h.atEnd hdone
  have hcarried := h.carried
  rw [hbuf, List.append_nil] at hcarried
  rw [hcarried]
  -- the end of a stream that did not break is behind its last element
  unfold Pipe.dead at hdead
  simp only [hbroken, Bool.false_or, Bool.and_eq_true, beq_iff_eq] at hdead
  unfold Pipe.received
  rw [hdead.2, List.take_length]

theorem Whole.congr {q : Pump α} {src src' dst dst' : Pipe α} (h : q.Whole src dst)
    (hreceived : src'.received = src.received) (hdead : src.dead = true → src'.dead = true)
    (hsent : dst'.sent = dst.sent) : q.Whole src' dst' := by
  constructor
  · rw [hsent, hreceived, h.carried]
  · intro hdone
    exact ⟨(h.atEnd hdone).1, hdead (h.atEnd hdone).2⟩

theorem Whole.src_write {q : Pump α} {src dst : Pipe α} (h : q.Whole src dst) (data : List α)
    (k : Nat) : q.Whole (src.write data k) dst := by
  refine h.congr (Pipe.received_write src data k) (fun hdead => ?_) rfl
  rw [Pipe.write_of_dead hdead]
  exact hdead

theorem Whole.src_finish {q : Pump α} {src dst : Pipe α} (h : q.Whole src dst) :
    q.Whole src.finish dst :=
  h.congr rfl Pipe.dead_finish_of_dead rfl

theorem Whole.copy {q : Pump α} {src dst : Pipe α} (h : q.Whole src dst) (hdst : dst.ended = false)
    (n : Nat) : (q.copy n src dst).1.Whole (q.copy n src dst).2.1 (q.copy n src dst).2.2 := by
  rcases q.copy_cases n src dst hdst with ⟨-, heq⟩ | ⟨-, hbuf, hdead, heq⟩ | ⟨hdone, hbuf, -, heq⟩ |
    ⟨hdone, -, heq⟩
  · rw [heq]
    exact h
  · rw [heq]
    exact ⟨h.carried, fun _ => ⟨hbuf, hdead⟩⟩
  · rw [heq]
    constructor
    · have hcarried := h.carried
      rw [hbuf, List.append_nil] at hcarried
      rw [Pipe.received_read, hcarried]
    · intro hdone'
      rw [hdone] at hdone'
      exact nomatch hdone'
  · rw [heq]
    constructor
    · rw [Pipe.sent_write_of_not_ended hdst, List.take_length, List.append_nil, h.carried]
    · exact nofun

end Pump
