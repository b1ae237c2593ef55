import Mathlib.Data.List.Basic
import Mathlib.Logic.Function.Iterate

/-!
# Reading framed messages from a connection

A message is a head and a body; how long the head is, and by the head how long the
body is, only shows while reading.  Each message is read through a buffer of its
own: what the buffer holds behind the message is gone when the next one is read
through another.

`Conn` is the reading side of a connection, as the results of its reads, so the
bytes come in segments.  `copies_iff` is about a loop that reads one message after
the other and hands it on: it hands on exactly the messages that were sent when
every message ends where a segment ends, and every message ends, for the parser,
where it was meant to.
-/

namespace Framing

variable {β : Type}

inductive ReadError where
  | eof
  | failed
  deriving DecidableEq, Repr

/-- The result of one `Read`. -/
inductive ReadResult (β : Type) where
  | data (segment : List β)
  | error (e : ReadError)
  deriving DecidableEq, Repr

/-- The results of the reads of a connection, and what every read after them
    returns: an error, or nothing yet. -/
structure Conn (β : Type) where
  reads : List (ReadResult β)
  ending : Option ReadError
  deriving DecidableEq, Repr

/-- What a parser makes of the bytes so far: it needs more, it rejects them, or
    the part it reads is the first `used` of them. -/
inductive Progress where
  | more
  | bad
  | done (used : Nat)
  deriving DecidableEq, Repr

/-- A parser of one part of a message.  The flag says that no bytes will follow. -/
abbrev Stage (β : Type) := Bool → List β → Progress

/-- How reading a part ends. -/
inductive Outcome (β : Type) where
  /-- the part, and what the buffer holds behind it -/
  | part (bytes rest : List β)
  | malformed
  /-- the connection was at its end, and the buffer empty -/
  | eof
  | cut (e : ReadError)
  | waits
  deriving DecidableEq, Repr

/-- A part whose reading meets an error of the connection. -/
def Stage.atError (stage : Stage β) (buf : List β) : ReadError → Outcome β
  | .failed => .cut .failed
  | .eof =>
    match stage true buf with
    | .done n => .part (buf.take n) (buf.drop n)
    | _ => if buf.isEmpty then .eof else .cut .eof

/-- Reads one part, through a buffer that holds some bytes already; and the results
    that are left for the reads after it. -/
def Stage.read (stage : Stage β) (ending : Option ReadError) :
    List β → List (ReadResult β) → Outcome β × List (ReadResult β)
  | buf, [] =>
    match stage false buf with
    | .done n => (.part (buf.take n) (buf.drop n), [])
    | .bad => (.malformed, [])
    | .more =>
      match ending with
      | none => (.waits, [])
      | some e => (stage.atError buf e, [])
  | buf, r :: reads =>
    match stage false buf with
    | .done n => (.part (buf.take n) (buf.drop n), r :: reads)
    | .bad => (.malformed, r :: reads)
    | .more =>
      match r with
      | .data segment => stage.read ending (buf ++ segment) reads
      | .error e => (stage.atError buf e, reads)

/-- A parser of messages: of their heads, and of the body that follows a head. -/
structure Parser (β : Type) where
  head : List β → Progress
  body : List β → Stage β

/-- A message, as the bytes it was read from. -/
structure Message (β : Type) where
  head : List β
  body : List β
  deriving DecidableEq, Repr

/-- The bytes of a message on the wire. -/
def Message.wire (m : Message β) : List β := m.head ++ m.body

/-- The bytes of messages, one after the other. -/
def wires (ms : List (Message β)) : List β := ms.flatMap Message.wire

/-- Reads a head through a new buffer. -/
def Parser.readHead (p : Parser β) (c : Conn β) : Outcome β × Conn β :=
  let (out, reads) := Stage.read (fun _ => p.head) c.ending [] c.reads
  (out, { c with reads := reads })

/-- Reads the body that follows a head, through the same buffer. -/
def Parser.readBody (p : Parser β) (head rest : List β) (c : Conn β) : Outcome β × Conn β :=
  let (out, reads) := Stage.read (p.body head) c.ending rest c.reads
  (out, { c with reads := reads })

/-- Reads a whole message through a new buffer, and what the buffer holds behind it. -/
def Parser.readMessage (p : Parser β) (c : Conn β) : Option (Message β × List β) × Conn β :=
  match p.readHead c with
  | (.part head rest, c) =>
    match p.readBody head rest c with
    | (.part body rest, c) => (some (⟨head, body⟩, rest), c)
    | (_, c) => (none, c)
  | (_, c) => (none, c)

/-! ## What a parser decides -/

/-- The parser ends the part where `w` ends, and not before it. -/
structure Stage.Decides (stage : Stage β) (w : List β) : Prop where
  more : ∀ v, v <+: w → v ≠ w → stage false v = .more
  done : ∀ closed rest, stage closed (w ++ rest) = .done w.length

/-- The parser takes everything up to the end of the connection, and this is `w`. -/
structure Stage.TakesAll (stage : Stage β) (w : List β) : Prop where
  more : ∀ v, v <+: w → stage false v = .more
  done : stage true w = .done w.length

/-- A part ends at one place of the stream, or at the end of the connection. -/
structure Stage.Lawful (stage : Stage β) : Prop where
  open_done : ∀ w n, stage false w = .done n → n ≤ w.length ∧ stage.Decides (w.take n)
  closed_done : ∀ w n, stage true w = .done n →
    stage false w = .done n ∨ n = w.length ∧ stage.TakesAll w

/-- Heads end at one place of the stream and are not empty; a body follows the
    head it is read by. -/
structure Parser.Lawful (p : Parser β) : Prop where
  head : Stage.Lawful (fun _ => p.head)
  head_pos : p.head [] ≠ .done 0
  body : ∀ head, Stage.Lawful (p.body head)

/-- For the parser the message ends where it was meant to, whatever follows it. -/
structure Parser.Frames (p : Parser β) (m : Message β) : Prop where
  head_ne_nil : m.head ≠ []
  head : Stage.Decides (fun _ => p.head) m.head
  body : (p.body m.head).Decides m.body

/-- A message that ends with the connection. -/
structure Parser.FramesToEnd (p : Parser β) (m : Message β) : Prop where
  head_ne_nil : m.head ≠ []
  head : Stage.Decides (fun _ => p.head) m.head
  body : (p.body m.head).TakesAll m.body

/-- Each of the messages ends where it was meant to; the last one may end with the
    connection. -/
def Parser.FramesAll (p : Parser β) (ending : Option ReadError) : List (Message β) → Prop
  | [] => True
  | m :: ms =>
    (p.Frames m ∨ ms = [] ∧ ending = some .eof ∧ p.FramesToEnd m) ∧ p.FramesAll ending ms

/-- Every message ends where some segment ends. -/
def Aligned (segments : List (List β)) (ms : List (Message β)) : Prop :=
  ∀ k, k ≤ ms.length → ∃ i, (segments.take i).flatten.length = (wires (ms.take k)).length

/-! ## Reading one part -/

private theorem length_lt_of_prefix {v w : List β} (h : v <+: w) (hne : v ≠ w) :
    v.length < w.length := by
  rcases Nat.lt_or_ge v.length w.length with hlt | hge
  · exact hlt
  · exact absurd (h.eq_of_length_le hge) hne

section

variable {stage : Stage β} {ending : Option ReadError} {buf w : List β}

private theorem read_of_done {n : Nat} (h : stage false buf = .done n)
    (reads : List (ReadResult β)) :
    stage.read ending buf reads = (.part (buf.take n) (buf.drop n), reads) := by
  cases reads with
  | nil => simp only [Stage.read, h]
  | cons r reads => simp only [Stage.read, h]

private theorem read_of_bad (h : stage false buf = .bad) (reads : List (ReadResult β)) :
    stage.read ending buf reads = (.malformed, reads) := by
  cases reads with
  | nil => simp only [Stage.read, h]
  | cons r reads => simp only [Stage.read, h]

private theorem read_data_of_more (h : stage false buf = .more) (segment : List β)
    (reads : List (ReadResult β)) :
    stage.read ending buf (.data segment :: reads) = stage.read ending (buf ++ segment) reads := by
  simp only [Stage.read, h]

/-- Reading leaves a later part of the connection. -/
theorem Stage.read_suffix (stage : Stage β) (ending : Option ReadError) (buf : List β)
    (reads : List (ReadResult β)) : (stage.read ending buf reads).2 <:+ reads := by
  -- by the results of the reads, as `Stage.read` recurses; the buffer grows
  induction reads generalizing buf with
  | nil =>
    unfold Stage.read
    split
    · exact List.suffix_refl []
    · exact List.suffix_refl []
    · split <;> exact List.suffix_refl []
  | cons r reads ih =>
    unfold Stage.read
    split
    · exact List.suffix_refl _
    · exact List.suffix_refl _
    · cases r with
      | data segment => exact (ih _).trans (List.suffix_cons _ _)
      | error e => exact List.suffix_cons _ _

/-- A part that ends in the bytes that are sent is read from the first segments
    that hold it. -/
theorem Stage.Decides.read (h : stage.Decides w) (ending : Option ReadError)
    {segments : List (List β)} (hpre : w <+: buf ++ segments.flatten) :
    ∃ i, stage.read ending buf (segments.map .data) =
        (.part w ((buf ++ (segments.take i).flatten).drop w.length),
          (segments.drop i).map .data) ∧
      w.length ≤ (buf ++ (segments.take i).flatten).length ∧
      ∀ j < i, (buf ++ (segments.take j).flatten).length < w.length := by
  induction segments generalizing buf with
  | nil =>
    rw [List.flatten_nil, List.append_nil] at hpre
    obtain ⟨rest, rfl⟩ := hpre
    refine ⟨0, ?_, by simp, nofun⟩
    rw [read_of_done (h.done false rest)]
    simp
  | cons segment segments ih =>
    -- if the buffer holds the whole part already, no segment is read
    by_cases hbuf : w <+: buf
    · obtain ⟨rest, rfl⟩ := hbuf
      refine ⟨0, ?_, by simp, nofun⟩
      rw [read_of_done (h.done false rest)]
      simp
    · -- the buffer holds a proper prefix of the part
      have hshort : buf <+: w := by
        rcases List.prefix_or_prefix_of_prefix hpre (List.prefix_append _ _) with hle | hle
        · exact absurd hle hbuf
        · exact hle
      have hne : buf ≠ w := by
        rintro rfl
        exact hbuf (List.prefix_refl _)
      have hlt := length_lt_of_prefix hshort hne
      rw [List.flatten_cons, ← List.append_assoc] at hpre
      obtain ⟨i, hread, hle, hmin⟩ := ih hpre
      refine ⟨i + 1, ?_, ?_, ?_⟩
      · rw [List.map_cons, read_data_of_more (h.more buf hshort hne), hread]
        simp
      · simpa using hle
      · intro j hj
        cases j with
        | zero => simpa using hlt
        | succ j => simpa using hmin j (by omega)

/-- A part that ends with the connection is all that is left. -/
theorem Stage.TakesAll.read (h : stage.TakesAll w) {segments : List (List β)}
    (hall : buf ++ segments.flatten = w) :
    stage.read (some .eof) buf (segments.map .data) = (.part w [], []) := by
  induction segments generalizing buf with
  | nil =>
    rw [List.flatten_nil, List.append_nil] at hall
    subst hall
    simp [Stage.read, Stage.atError, h.more buf (List.prefix_refl _), h.done]
  | cons segment segments ih =>
    rw [List.flatten_cons, ← List.append_assoc] at hall
    -- while the connection is open the parser always wants more
    have hmore : stage false buf = .more := by
      apply h.more
      rw [← hall, List.append_assoc]
      exact List.prefix_append _ _
    rw [List.map_cons, read_data_of_more hmore]
    exact ih hall

/-- A part that was read is decided by its own bytes, or by the end of the
    connection. -/
theorem Stage.Lawful.of_read (h : stage.Lawful) {segments : List (List β)} {bytes rest : List β}
    {reads : List (ReadResult β)}
    (hread : stage.read ending buf (segments.map .data) = (.part bytes rest, reads)) :
    ∃ i, reads = (segments.drop i).map .data ∧
      bytes ++ rest = buf ++ (segments.take i).flatten ∧
      (stage.Decides bytes ∨
        reads = [] ∧ rest = [] ∧ ending = some .eof ∧ stage.TakesAll bytes) := by
  induction segments generalizing buf with
  | nil =>
    cases hopen : stage false buf with
    | done n =>
      rw [read_of_done hopen] at hread
      simp only [Prod.mk.injEq, Outcome.part.injEq] at hread
      obtain ⟨⟨rfl, rfl⟩, rfl⟩ := hread
      exact ⟨0, by simp, by simp, Or.inl (h.open_done buf n hopen).2⟩
    | bad =>
      rw [read_of_bad hopen] at hread
      exact nomatch hread
    | more =>
      simp only [List.map_nil, Stage.read, hopen] at hread
      cases ending with
      | none => exact nomatch hread
      | some e =>
        cases e with
        | failed => exact nomatch hread
        | eof =>
          simp only [Stage.atError, Prod.mk.injEq] at hread
          obtain ⟨hpart, rfl⟩ := hread
          cases hclosed : stage true buf with
          | done n =>
            rw [hclosed] at hpart
            simp only [Outcome.part.injEq] at hpart
            obtain ⟨rfl, rfl⟩ := hpart
            -- decided at the end only, since the open connection asked for more
            rcases h.closed_done buf n hclosed with hdone | ⟨rfl, hall⟩
            · exact nomatch hopen.symm.trans hdone
            · exact ⟨0, by simp, by simp, Or.inr ⟨rfl, by simp, rfl, by simpa using hall⟩⟩
          | more =>
            simp only [hclosed] at hpart
            split at hpart <;> exact nomatch hpart
          | bad =>
            simp only [hclosed] at hpart
            split at hpart <;> exact nomatch hpart
  | cons segment segments ih =>
    cases hopen : stage false buf with
    | done n =>
      rw [read_of_done hopen] at hread
      simp only [Prod.mk.injEq, Outcome.part.injEq] at hread
      obtain ⟨⟨rfl, rfl⟩, rfl⟩ := hread
      exact ⟨0, by simp, by simp, Or.inl (h.open_done buf n hopen).2⟩
    | bad =>
      rw [read_of_bad hopen] at hread
      exact nomatch hread
    | more =>
      rw [List.map_cons, read_data_of_more hopen] at hread
      obtain ⟨i, hreads, hbytes, hend⟩ := ih hread
      exact ⟨i + 1, by simpa using hreads, by simpa using hbytes, hend⟩

end

/-! ## Reading a message -/

section

variable {p : Parser β} {ending : Option ReadError}

private theorem flatten_take_append_drop (segments : List (List β)) (i : Nat) :
    (segments.take i).flatten ++ (segments.drop i).flatten = segments.flatten := by
  rw [← List.flatten_append, List.take_append_drop]

theorem length_wires_cons (m : Message β) (ms : List (Message β)) :
    (wires (m :: ms)).length = m.wire.length + (wires ms).length := by
  simp [wires]

theorem wires_append (ms ms' : List (Message β)) : wires (ms ++ ms') = wires ms ++ wires ms' := by
  simp [wires]

/-- A connection of which some reads have returned. -/
structure Conn.Later (c c' : Conn β) : Prop where
  reads : c'.reads <:+ c.reads
  ending : c'.ending = c.ending

theorem Conn.Later.refl (c : Conn β) : c.Later c := ⟨List.suffix_refl _, rfl⟩

theorem Conn.Later.trans {c₁ c₂ c₃ : Conn β} (h : c₁.Later c₂) (h' : c₂.Later c₃) : c₁.Later c₃ :=
  ⟨h'.reads.trans h.reads, h'.ending.trans h.ending⟩

theorem Parser.readHead_later (p : Parser β) (c : Conn β) : c.Later (p.readHead c).2 :=
  ⟨Stage.read_suffix _ _ _ _, rfl⟩

theorem Parser.readBody_later (p : Parser β) (head rest : List β) (c : Conn β) :
    c.Later (p.readBody head rest c).2 :=
  ⟨Stage.read_suffix _ _ _ _, rfl⟩

/-- A message is read when its head is, and then its body. -/
theorem Parser.readMessage_eq_some {c c' : Conn β} {m : Message β} {rest : List β} :
    p.readMessage c = (some (m, rest), c') ↔
      ∃ rest₁ c₁, p.readHead c = (.part m.head rest₁, c₁) ∧
        p.readBody m.head rest₁ c₁ = (.part m.body rest, c') := by
  unfold Parser.readMessage
  constructor
  · intro h
    split at h
    next head rest₁ c₁ hhead =>
      split at h
      next body rest₂ c₂ hbody =>
        simp only [Prod.mk.injEq, Option.some.injEq] at h
        obtain ⟨⟨rfl, rfl⟩, rfl⟩ := h
        exact ⟨rest₁, c₁, hhead, hbody⟩
      next => exact nomatch h
    next => exact nomatch h
  · rintro ⟨rest₁, c₁, hhead, hbody⟩
    simp only [hhead, hbody]

/-- The segments that are still to be read, on an otherwise good connection. -/
def Conn.ofSegments (segments : List (List β)) (ending : Option ReadError) : Conn β :=
  { reads := segments.map .data, ending := ending }

/-- A message that is framed is read from the first segments that hold it. -/
theorem Parser.Frames.readMessage {m : Message β} (h : p.Frames m) (ending : Option ReadError)
    {segments : List (List β)} (hpre : m.wire <+: segments.flatten) :
    ∃ i, p.readMessage (.ofSegments segments ending) =
        (some (m, (segments.take i).flatten.drop m.wire.length),
          .ofSegments (segments.drop i) ending) ∧
      m.wire.length ≤ (segments.take i).flatten.length ∧
      ∀ j < i, (segments.take j).flatten.length < m.wire.length := by
  have hheadpre : m.head <+: [] ++ segments.flatten :=
    (List.prefix_append m.head m.body).trans hpre
  obtain ⟨i, hhead, hle, hmin⟩ := h.head.read ending hheadpre
  rw [List.nil_append] at hhead hle
  -- what is left of the stream behind the head starts with the body
  have hbodypre : m.body <+: (segments.take i).flatten.drop m.head.length ++
      (segments.drop i).flatten := by
    rw [← List.drop_append_of_le_length hle, flatten_take_append_drop]
    obtain ⟨tail, htail⟩ := hpre
    rw [← htail, Message.wire, List.append_assoc, List.drop_left]
    exact List.prefix_append _ _
  -- the body goes on in the same buffer, over the segments that are left
  obtain ⟨j, hbody, hle', hmin'⟩ := h.body.read ending hbodypre
  have htake : ∀ k, (segments.take i).flatten.drop m.head.length ++
      ((segments.drop i).take k).flatten = (segments.take (i + k)).flatten.drop m.head.length := by
    intro k
    rw [← List.drop_append_of_le_length hle, ← List.flatten_append, ← List.take_add]
  rw [htake, List.length_drop] at hle'
  refine ⟨i + j, ?_, ?_, ?_⟩
  · rw [Parser.readMessage_eq_some]
    refine ⟨(segments.take i).flatten.drop m.head.length,
      .ofSegments (segments.drop i) ending, ?_, ?_⟩
    · unfold Parser.readHead Conn.ofSegments
      rw [hhead]
    · unfold Parser.readBody Conn.ofSegments
      rw [hbody, htake, List.drop_drop, List.drop_drop, Message.wire, List.length_append]
  · have hgrow : (segments.take i).flatten.length ≤ (segments.take (i + j)).flatten.length := by
      rw [List.take_add, List.flatten_append, List.length_append]
      omega
    rw [Message.wire, List.length_append]
    omega
  · intro k hk
    rw [Message.wire, List.length_append]
    -- before the head's last segment the head is missing, after it the body's end
    by_cases hki : k < i
    · have := hmin k hki
      rw [List.nil_append] at this
      omega
    · have := hmin' (k - i) (by omega)
      rw [htake, List.length_drop, Nat.add_sub_cancel' (by omega)] at this
      have hgrow : (segments.take i).flatten.length ≤ (segments.take k).flatten.length := by
        rw [show k = i + (k - i) by omega, List.take_add, List.flatten_append, List.length_append]
        omega
      omega

/-- A message that ends with the connection is read from all that is left. -/
theorem Parser.FramesToEnd.readMessage {m : Message β} (h : p.FramesToEnd m)
    {segments : List (List β)} (hall : segments.flatten = m.wire) :
    p.readMessage (.ofSegments segments (some .eof)) =
      (some (m, []), .ofSegments [] (some .eof)) := by
  have hheadpre : m.head <+: [] ++ segments.flatten := by
    rw [List.nil_append, hall]
    exact List.prefix_append _ _
  obtain ⟨i, hhead, hle, -⟩ := h.head.read (some .eof) hheadpre
  rw [List.nil_append] at hhead hle
  have hrest : (segments.take i).flatten.drop m.head.length ++ (segments.drop i).flatten =
      m.body := by
    rw [← List.drop_append_of_le_length hle, flatten_take_append_drop, hall, Message.wire,
      List.drop_left]
  rw [Parser.readMessage_eq_some]
  refine ⟨(segments.take i).flatten.drop m.head.length,
    .ofSegments (segments.drop i) (some .eof), ?_, ?_⟩
  · unfold Parser.readHead Conn.ofSegments
    rw [hhead]
  · unfold Parser.readBody Conn.ofSegments
    rw [h.body.read hrest]
    rfl

/-- A message that was read is framed, or it ends with the connection; and its
    bytes and what the buffer held behind it are the segments that were read. -/
theorem Parser.Lawful.of_readMessage (hp : p.Lawful) {segments : List (List β)} {m : Message β}
    {rest : List β} {c : Conn β}
    (hread : p.readMessage (.ofSegments segments ending) = (some (m, rest), c)) :
    ∃ i, c = .ofSegments (segments.drop i) ending ∧
      m.wire ++ rest = (segments.take i).flatten ∧ segments ≠ [] ∧
      (p.Frames m ∨ c.reads = [] ∧ ending = some .eof ∧ p.FramesToEnd m) := by
  obtain ⟨rest₁, c₁, hhead, hbody⟩ := Parser.readMessage_eq_some.mp hread
  simp only [Parser.readHead, Conn.ofSegments, Prod.mk.injEq] at hhead
  obtain ⟨hhead, rfl⟩ := hhead
  obtain ⟨i, hreads, hbytes, hend⟩ := hp.head.of_read (Prod.ext hhead rfl)
  -- the head is decided by its own bytes, since it does not look at the end
  have hdec : Stage.Decides (fun _ => p.head) m.head := by
    rcases hend with hdec | ⟨-, -, -, hall⟩
    · exact hdec
    · have hmore := hall.more m.head (List.prefix_refl _)
      exact nomatch hmore.symm.trans hall.done
  have hne : m.head ≠ [] := by
    intro hnil
    have hdone := hdec.done false []
    rw [hnil] at hdone
    exact hp.head_pos hdone
  have hseg : segments ≠ [] := by
    rintro rfl
    simp [hne] at hbytes
  simp only [Parser.readBody, hreads, Prod.mk.injEq] at hbody
  obtain ⟨hbody, rfl⟩ := hbody
  -- only a body may be decided by the end of the connection
  obtain ⟨j, hreads', hbytes', hend'⟩ := (hp.body m.head).of_read (Prod.ext hbody rfl)
  refine ⟨i + j, ?_, ?_, hseg, ?_⟩
  · unfold Conn.ofSegments
    rw [← List.drop_drop]
    exact congrArg (fun reads => (⟨reads, ending⟩ : Conn β)) hreads'
  · rw [Message.wire, List.append_assoc, hbytes', ← List.append_assoc, hbytes, List.nil_append,
      ← List.flatten_append, ← List.take_add]
  · rcases hend' with hdec' | ⟨hnil, -, heof, hall⟩
    · exact Or.inl ⟨hne, hdec, hdec'⟩
    · exact Or.inr ⟨hnil, heof, hne, hdec, hall⟩

end

/-! ## A loop that reads one message after the other -/

section

variable {p : Parser β} {ending : Option ReadError} {segments : List (List β)}

/-- The messages `ms` are still to come on the connection, each ending with a
    segment. -/
structure Ahead (p : Parser β) (ending : Option ReadError) (segments : List (List β))
    (ms : List (Message β)) : Prop where
  flatten : segments.flatten = wires ms
  aligned : Aligned segments ms
  framed : p.FramesAll ending ms

/-- Nothing of the stream is behind a message that ends with a segment. -/
private theorem ahead_of_frames {m : Message β} {ms : List (Message β)}
    (h : Ahead p ending segments (m :: ms)) (hm : p.Frames m) :
    ∃ i, p.readMessage (.ofSegments segments ending) =
        (some (m, []), .ofSegments (segments.drop i) ending) ∧
      Ahead p ending (segments.drop i) ms := by
  have hpre : m.wire <+: segments.flatten := by
    rw [h.flatten]
    exact List.prefix_append _ _
  obtain ⟨i, hread, hle, hmin⟩ := hm.readMessage ending hpre
  have hgrow : ∀ j, (segments.take (i + j)).flatten.length =
      (segments.take i).flatten.length + ((segments.drop i).take j).flatten.length := by
    intro j
    rw [List.take_add, List.flatten_append, List.length_append]
  -- the segment in which the message ends is the last one that is read
  have hafter : ∀ k, m.wire.length ≤ (segments.take k).flatten.length →
      ∃ j, k = i + j := by
    intro k hk
    refine ⟨k - i, ?_⟩
    have : ¬ k < i := fun hlt => absurd (hmin k hlt) (by omega)
    omega
  have hlen : (segments.take i).flatten.length = m.wire.length := by
    obtain ⟨k, hk⟩ := h.aligned 1 (by simp)
    have hk' : (segments.take k).flatten.length = m.wire.length := by
      rw [hk]
      simp [wires]
    obtain ⟨j, rfl⟩ := hafter k (by omega)
    have := hgrow j
    omega
  have hsplit : (segments.take i).flatten ++ (segments.drop i).flatten = m.wire ++ wires ms := by
    rw [flatten_take_append_drop, h.flatten]
    simp [wires]
  obtain ⟨-, hdrop⟩ := List.append_inj hsplit hlen
  refine ⟨i, ?_, hdrop, ?_, h.framed.2⟩
  · rw [hread, List.drop_eq_nil_of_le (by omega)]
  · intro k hk
    -- the ends of the later messages, counted from behind this one
    obtain ⟨k', hk'⟩ := h.aligned (k + 1) (by simpa using hk)
    rw [List.take_succ_cons, length_wires_cons] at hk'
    obtain ⟨j, rfl⟩ := hafter k' (by omega)
    refine ⟨j, ?_⟩
    have := hgrow j
    omega

/-- The next message is read with nothing behind it, and the others are still to come. -/
theorem Ahead.readMessage {m : Message β} {ms : List (Message β)}
    (h : Ahead p ending segments (m :: ms)) :
    ∃ segments', p.readMessage (.ofSegments segments ending) =
        (some (m, []), .ofSegments segments' ending) ∧ Ahead p ending segments' ms := by
  rcases h.framed.1 with hm | ⟨rfl, rfl, hm⟩
  · obtain ⟨i, hread, hahead⟩ := ahead_of_frames h hm
    exact ⟨segments.drop i, hread, hahead⟩
  · refine ⟨[], ?_, rfl, ?_, trivial⟩
    · apply hm.readMessage
      rw [h.flatten]
      simp [wires]
    · intro k hk
      exact ⟨0, by simp [wires]⟩

/-- When no message is to come, no head is read. -/
theorem Ahead.readHead_nil (hp : p.Lawful) (h : Ahead p ending segments []) (head rest : List β)
    (c : Conn β) : p.readHead (.ofSegments segments ending) ≠ (.part head rest, c) := by
  intro hread
  simp only [Parser.readHead, Conn.ofSegments, Prod.mk.injEq] at hread
  obtain ⟨i, -, hbytes, hend⟩ := hp.head.of_read (Prod.ext hread.1 rfl)
  -- all segments are empty
  have hnil : (segments.take i).flatten = [] := by
    have hall := flatten_take_append_drop segments i
    rw [h.flatten] at hall
    exact (List.append_eq_nil_iff.mp hall).1
  rw [hnil, List.nil_append] at hbytes
  obtain ⟨rfl, -⟩ := List.append_eq_nil_iff.mp hbytes
  rcases hend with hdec | ⟨-, -, -, hall⟩
  · exact hp.head_pos (hdec.done false [])
  · exact hp.head_pos hall.done

private theorem ofSegments_later {c : Conn β} (h : (Conn.ofSegments segments ending).Later c) :
    ∃ i, c = .ofSegments (segments.drop i) ending := by
  obtain ⟨hreads, hending⟩ := h
  obtain ⟨reads, ending'⟩ := c
  have hdrop := List.suffix_iff_eq_drop.mp hreads
  simp only [Conn.ofSegments] at hdrop hending
  subst hending
  rw [← List.map_drop] at hdrop
  exact ⟨_, congrArg (fun reads => (⟨reads, ending'⟩ : Conn β)) hdrop⟩

/-- What a loop over the connection has done so far: the messages it has read, and
    how many bytes went by that are in none of them. -/
structure Copied (p : Parser β) (ending : Option ReadError) (segments : List (List β))
    (c : Conn β) (log : List (Message β)) : Prop where
  /-- `i` segments have been read, and `lost` bytes of them are gone -/
  bytes : ∃ i lost, c = .ofSegments (segments.drop i) ending ∧
    (segments.take i).flatten.length = (wires log).length + lost ∧
    (lost = 0 → Aligned segments log)
  framed : (∀ m ∈ log, p.Frames m) ∨
    c.reads = [] ∧ ending = some .eof ∧
      ∃ pre m, log = pre ++ [m] ∧ (∀ m' ∈ pre, p.Frames m') ∧ p.FramesToEnd m

private theorem copied_start : Copied p ending segments (.ofSegments segments ending) [] := by
  refine ⟨⟨0, 0, rfl, by simp [wires], ?_⟩, Or.inl nofun⟩
  intro _ k hk
  exact ⟨0, by simp [wires]⟩

/-- Reads that are not handed on lose the bytes they return. -/
private theorem Copied.later {c c' : Conn β} {log : List (Message β)}
    (h : Copied p ending segments c log) (hc : c.Later c') : Copied p ending segments c' log := by
  obtain ⟨⟨i, lost, rfl, hlen, haligned⟩, hframed⟩ := h
  -- the segments that went by add to the loss, so the alignment is not asked for
  obtain ⟨j, rfl⟩ := ofSegments_later hc
  constructor
  · refine ⟨i + j, lost + ((segments.drop i).take j).flatten.length, by rw [List.drop_drop], ?_, ?_⟩
    · rw [List.take_add, List.flatten_append, List.length_append]
      omega
    · intro hzero
      exact haligned (by omega)
  · rcases hframed with hframed | ⟨hnil, heof, hlast⟩
    · exact Or.inl hframed
    · refine Or.inr ⟨?_, heof, hlast⟩
      have := hc.reads
      rw [hnil] at this
      exact List.suffix_nil.mp this

/-- A message that is handed on adds to the log, and what the buffer held behind it
    is lost. -/
private theorem Copied.message (hp : p.Lawful) {c c' : Conn β} {log : List (Message β)}
    {m : Message β} {rest : List β} (h : Copied p ending segments c log)
    (hread : p.readMessage c = (some (m, rest), c')) :
    Copied p ending segments c' (log ++ [m]) := by
  obtain ⟨⟨i, lost, rfl, hlen, haligned⟩, hframed⟩ := h
  obtain ⟨j, rfl, hbytes, hne, hframes⟩ := hp.of_readMessage hread
  have hlen' : (segments.take (i + j)).flatten.length =
      (wires (log ++ [m])).length + (lost + rest.length) := by
    have hwire : (wires (log ++ [m])).length = (wires log).length + m.wire.length := by
      rw [wires_append, List.length_append]
      simp [wires]
    have htake := congrArg List.length hbytes
    rw [List.length_append] at htake
    rw [List.take_add, List.flatten_append, List.length_append]
    omega
  constructor
  · refine ⟨i + j, lost + rest.length, by rw [List.drop_drop], hlen', ?_⟩
    intro hzero k hk
    -- nothing is lost: the new message ends where the reads have come to, and the
    -- older ones end where they did before
    rcases Nat.lt_or_ge log.length k with hlast | hold
    · refine ⟨i + j, ?_⟩
      have hall : (log ++ [m]).take k = log ++ [m] := by
        apply List.take_of_length_le
        rw [List.length_append, List.length_singleton]
        exact hlast
      rw [hall]
      omega
    · rw [List.take_append_of_le_length hold]
      exact haligned (by omega) k hold
  · -- there is something to read, so no earlier message has taken the end
    have hfirst : ∀ m' ∈ log, p.Frames m' := by
      rcases hframed with hframed | ⟨hnil, -⟩
      · exact hframed
      · simp only [Conn.ofSegments, List.map_eq_nil_iff] at hnil
        exact absurd hnil hne
    rcases hframes with hm | ⟨hnil, heof, hm⟩
    · left
      intro m' hmem
      rcases List.mem_append.mp hmem with hmem | hmem
      · exact hfirst m' hmem
      · rw [List.mem_singleton] at hmem
        rwa [hmem]
    · exact Or.inr ⟨hnil, heof, log, m, rfl, hfirst, hm⟩

/-- Messages that are framed one by one, but for the last. -/
private theorem framesAll_of_forall {ms : List (Message β)} (h : ∀ m ∈ ms, p.Frames m) :
    p.FramesAll ending ms := by
  induction ms with
  | nil => trivial
  | cons m ms ih =>
    rw [List.forall_mem_cons] at h
    exact ⟨Or.inl h.1, ih h.2⟩

private theorem framesAll_snoc {pre : List (Message β)} {m : Message β}
    (h : ∀ m' ∈ pre, p.Frames m') (hm : p.FramesToEnd m) :
    p.FramesAll (some .eof) (pre ++ [m]) := by
  induction pre with
  | nil => exact ⟨Or.inr ⟨rfl, rfl, hm⟩, trivial⟩
  | cons m' pre ih =>
    rw [List.forall_mem_cons] at h
    exact ⟨Or.inl h.1, ih h.2⟩

/-- Where everything that was sent has been handed on, nothing was lost. -/
private theorem Copied.aligned {c : Conn β} {ms : List (Message β)}
    (h : Copied p ending segments c ms) (hflat : segments.flatten = wires ms) :
    Aligned segments ms ∧ p.FramesAll ending ms := by
  obtain ⟨⟨i, lost, -, hlen, haligned⟩, hframed⟩ := h
  constructor
  · apply haligned
    -- the messages take all the bytes there are, so none of them was lost
    have htotal := congrArg List.length (flatten_take_append_drop segments i)
    rw [List.length_append, hflat] at htotal
    omega
  · rcases hframed with hframed | ⟨-, rfl, pre, m, rfl, hpre, hm⟩
    · exact framesAll_of_forall hframed
    · exact framesAll_snoc hpre hm

/-- A loop that hands on every message it reads, and of others a part.  Its log has
    `none` for a message that is cut off. -/
structure Copies {σ : Type} (p : Parser β) (conn : σ → Conn β)
    (log : σ → List (Option (Message β))) (running : σ → Prop) (step : σ → σ) : Prop where
  /-- a round that reads no head -/
  quiet : ∀ s, (running s → ∀ head rest c, p.readHead (conn s) ≠ (.part head rest, c)) →
    log (step s) = log s ∧ (conn s).Later (conn (step s))
  /-- a round that reads a head goes on with the body -/
  head : ∀ s head rest c, running s → p.readHead (conn s) = (.part head rest, c) →
    conn (step s) = (p.readBody head rest c).2 ∧
      match (p.readBody head rest c).1 with
      | .part body _ => log (step s) = log s ++ [some ⟨head, body⟩] ∧ running (step s)
      | _ => log (step s) = log s ++ [none]

variable {σ : Type} {conn : σ → Conn β} {log : σ → List (Option (Message β))}
  {running : σ → Prop} {step : σ → σ}

/-- A round that reads a message hands it on. -/
theorem Copies.message (hcopies : Copies p conn log running step) {s : σ} {m : Message β}
    {rest : List β} {c : Conn β} (hrunning : running s)
    (hread : p.readMessage (conn s) = (some (m, rest), c)) :
    conn (step s) = c ∧ log (step s) = log s ++ [some m] ∧ running (step s) := by
  obtain ⟨rest₁, c₁, hhead, hbody⟩ := Parser.readMessage_eq_some.mp hread
  have h := hcopies.head s m.head rest₁ c₁ hrunning hhead
  rw [hbody] at h
  exact h

/-- A round that reads none hands on none. -/
theorem Copies.broken (hcopies : Copies p conn log running step) {s : σ}
    (hnone : running s → (p.readMessage (conn s)).1 = none) :
    (conn s).Later (conn (step s)) ∧ (log (step s)).filterMap id = (log s).filterMap id := by
  -- either no head is read, or the body behind it is not
  by_cases hquiet : running s → ∀ head rest c, p.readHead (conn s) ≠ (.part head rest, c)
  · obtain ⟨hlog, hlater⟩ := hcopies.quiet s hquiet
    exact ⟨hlater, by rw [hlog]⟩
  · simp only [Classical.not_imp, not_forall, not_not] at hquiet
    obtain ⟨hrunning, head, rest, c, hhead⟩ := hquiet
    obtain ⟨hconn, hlog⟩ := hcopies.head s head rest c hrunning hhead
    have hlater := p.readHead_later (conn s)
    rw [hhead] at hlater
    constructor
    · rw [hconn]
      exact hlater.trans (p.readBody_later head rest c)
    · have hmessage := hnone hrunning
      simp only [Parser.readMessage, hhead] at hmessage
      cases hbody : p.readBody head rest c with
      | mk out c' =>
        rw [hbody] at hlog
        cases out with
        | part body rest' => simp [hbody] at hmessage
        | malformed | eof | cut | waits =>
          rw [hlog, List.filterMap_append]
          exact List.append_nil _

/-- One round keeps the invariant. -/
private theorem copied_step (hp : p.Lawful) (hcopies : Copies p conn log running step) {s : σ}
    (h : Copied p ending segments (conn s) ((log s).filterMap id)) :
    Copied p ending segments (conn (step s)) ((log (step s)).filterMap id) := by
  -- a round hands on the message it reads, or loses what it reads
  by_cases hbroken : running s → (p.readMessage (conn s)).1 = none
  · obtain ⟨hlater, hlog⟩ := hcopies.broken hbroken
    rw [hlog]
    exact h.later hlater
  · rw [Classical.not_imp] at hbroken
    obtain ⟨hrunning, hsome⟩ := hbroken
    cases hread : p.readMessage (conn s) with
    | mk out c =>
      cases out with
      | none =>
        rw [hread] at hsome
        exact absurd rfl hsome
      | some out =>
        obtain ⟨m, rest⟩ := out
        obtain ⟨hconn, hlog, -⟩ := hcopies.message hrunning hread
        rw [hconn, hlog, List.filterMap_append]
        exact h.message hp hread

private theorem copied_iterate (hp : p.Lawful) (hcopies : Copies p conn log running step) {s : σ}
    (h : Copied p ending segments (conn s) ((log s).filterMap id)) (n : Nat) :
    Copied p ending segments (conn (step^[n] s)) ((log (step^[n] s)).filterMap id) := by
  induction n generalizing s with
  | zero => exact h
  | succ n ih => exact ih (copied_step hp hcopies h)

/-- Once no message is to come, nothing is handed on any more. -/
private theorem log_iterate_of_ahead_nil (hp : p.Lawful)
    (hcopies : Copies p conn log running step) {s : σ} {segments : List (List β)}
    (hconn : conn s = .ofSegments segments ending) (h : Ahead p ending segments []) (n : Nat) :
    log (step^[n] s) = log s := by
  induction n generalizing s segments with
  | zero => rfl
  | succ n ih =>
    have hhead : ∀ head rest c, p.readHead (conn s) ≠ (.part head rest, c) := by
      rw [hconn]
      exact h.readHead_nil hp
    obtain ⟨hlog, hlater⟩ := hcopies.quiet s (fun _ => hhead)
    rw [hconn] at hlater
    obtain ⟨i, hconn'⟩ := ofSegments_later hlater
    have hahead : Ahead p ending (segments.drop i) [] := by
      refine ⟨?_, fun k hk => ⟨0, by simp [wires]⟩, trivial⟩
      have hall := flatten_take_append_drop segments i
      rw [h.flatten] at hall
      exact (List.append_eq_nil_iff.mp hall).2
    rw [Function.iterate_succ_apply, ih hconn' hahead, hlog]

/-- The messages to come are handed on, each in one round. -/
private theorem log_iterate_of_ahead (hp : p.Lawful) (hcopies : Copies p conn log running step)
    {s : σ} {segments : List (List β)} {ms : List (Message β)} (hrunning : running s)
    (hconn : conn s = .ofSegments segments ending) (h : Ahead p ending segments ms) {n : Nat}
    (hn : ms.length ≤ n) : log (step^[n] s) = log s ++ ms.map some := by
  induction ms generalizing s segments n with
  | nil => rw [log_iterate_of_ahead_nil hp hcopies hconn h, List.map_nil, List.append_nil]
  | cons m ms ih =>
    -- one round for the first message, and the rest by induction
    obtain ⟨segments', hread, hahead⟩ := h.readMessage
    rw [← hconn] at hread
    obtain ⟨hconn', hlog, hrunning'⟩ := hcopies.message hrunning hread
    obtain ⟨n, rfl⟩ : ∃ k, n = k + 1 := ⟨n - 1, by simp at hn; omega⟩
    rw [Function.iterate_succ_apply, ih hrunning' hconn' hahead (by simpa using hn), hlog,
      List.append_assoc, List.map_cons, List.singleton_append]

/-- A loop that hands on the messages it reads hands on exactly those that were
    sent if and only if each of them ends with a segment, and where the parser ends it. -/
theorem copies_iff (hp : p.Lawful) (hcopies : Copies p conn log running step) {s : σ}
    {ms : List (Message β)} (hrunning : running s) (hlog : log s = [])
    (hconn : conn s = .ofSegments segments ending) (hflat : segments.flatten = wires ms) {n : Nat}
    (hn : ms.length ≤ n) :
    log (step^[n] s) = ms.map some ↔ Aligned segments ms ∧ p.FramesAll ending ms := by
  constructor
  · intro heq
    -- run the invariant to the end, where the log is all that was sent
    have hstart : Copied p ending segments (conn s) ((log s).filterMap id) := by
      rw [hconn, hlog]
      exact copied_start
    have h := copied_iterate hp hcopies hstart n
    rw [heq, List.filterMap_map, Function.id_comp, List.filterMap_some] at h
    exact h.aligned hflat
  · rintro ⟨haligned, hframed⟩
    rw [log_iterate_of_ahead hp hcopies hrunning hconn ⟨hflat, haligned, hframed⟩ hn, hlog,
      List.nil_append]

end

/-! ## Heads that end with a terminator -/

section

variable [DecidableEq β] {stop : List β}

/-- Where the first occurrence of `stop` ends. -/
def endOf (stop : List β) : List β → Option Nat
  | [] => none
  | b :: bytes =>
    if stop.isPrefixOf (b :: bytes) then some stop.length else (endOf stop bytes).map (· + 1)

theorem endOf_bounds {w : List β} {n : Nat} (h : endOf stop w = some n) :
    stop.length ≤ n ∧ n ≤ w.length := by
  induction w generalizing n with
  | nil => exact nomatch h
  | cons b w ih =>
    unfold endOf at h
    by_cases hstop : stop.isPrefixOf (b :: w) = true
    · rw [if_pos hstop] at h
      obtain rfl := Option.some.inj h
      exact ⟨Nat.le_refl _, (List.isPrefixOf_iff_prefix.mp hstop).length_le⟩
    · rw [if_neg hstop, Option.map_eq_some_iff] at h
      obtain ⟨k, hk, rfl⟩ := h
      obtain ⟨hle, hle'⟩ := ih hk
      rw [List.length_cons]
      omega

/-- What follows the end does not matter. -/
theorem endOf_take_append {w : List β} {n : Nat} (hne : stop ≠ []) (h : endOf stop w = some n)
    (rest : List β) : endOf stop (w.take n ++ rest) = some n := by
  induction w generalizing n with
  | nil => exact nomatch h
  | cons b w ih =>
    unfold endOf at h
    by_cases hstop : stop.isPrefixOf (b :: w) = true
    · rw [if_pos hstop] at h
      obtain rfl := Option.some.inj h
      have hpre := List.isPrefixOf_iff_prefix.mp hstop
      rw [← List.prefix_iff_eq_take.mp hpre]
      obtain ⟨a, as, rfl⟩ := List.exists_cons_of_ne_nil hne
      rw [List.cons_append, endOf, if_pos]
      rw [List.isPrefixOf_iff_prefix]
      exact ⟨rest, rfl⟩
    · rw [if_neg hstop, Option.map_eq_some_iff] at h
      obtain ⟨k, hk, rfl⟩ := h
      have hle := (endOf_bounds hk).1
      rw [List.take_succ_cons, List.cons_append, endOf, if_neg, ih hk, Option.map_some]
      -- an occurrence at the front would lie in the bytes that are kept
      intro hfront
      apply hstop
      rw [List.isPrefixOf_iff_prefix] at hfront ⊢
      have hkept : stop <+: b :: w.take k := by
        apply List.prefix_of_prefix_length_le hfront (List.prefix_append (b :: w.take k) rest)
        have := (endOf_bounds hk).2
        rw [List.length_cons, List.length_take]
        omega
      exact hkept.trans (List.prefix_cons_inj b |>.mpr (List.take_prefix k w))

/-- Before the end there is none. -/
theorem endOf_of_lt {v w : List β} {n : Nat} (h : endOf stop w = some n) (hpre : v <+: w)
    (hlt : v.length < n) : endOf stop v = none := by
  induction v generalizing w n with
  | nil => rfl
  | cons b v ih =>
    obtain ⟨rest, rfl⟩ := hpre
    rw [List.cons_append] at h
    unfold endOf at h ⊢
    -- the terminator is longer than what is left of the prefix
    have hstop : ¬ stop.isPrefixOf (b :: v) = true := by
      intro hfront
      have hfront' : stop.isPrefixOf (b :: (v ++ rest)) = true := by
        rw [List.isPrefixOf_iff_prefix] at hfront ⊢
        exact hfront.trans (List.prefix_append (b :: v) rest)
      rw [if_pos hfront'] at h
      obtain rfl := Option.some.inj h
      have := (List.isPrefixOf_iff_prefix.mp hfront).length_le
      omega
    rw [if_neg hstop]
    by_cases hwhole : stop.isPrefixOf (b :: (v ++ rest)) = true
    · rw [if_pos hwhole] at h
      obtain rfl := Option.some.inj h
      -- the rest is too short to hold the terminator
      rw [List.length_cons] at hlt
      cases hv : endOf stop v with
      | none => rfl
      | some k =>
        have := endOf_bounds hv
        omega
    · rw [if_neg hwhole, Option.map_eq_some_iff] at h
      obtain ⟨k, hk, rfl⟩ := h
      rw [ih hk (List.prefix_append v rest) (by simpa using hlt), Option.map_none]

/-- Heads that end with `stop`, and bodies whose length the head gives. -/
def Parser.terminated (stop : List β) (bodyLength : List β → Nat) : Parser β where
  head := fun bytes =>
    match endOf stop bytes with
    | none => .more
    | some n => .done n
  body := fun head _ bytes =>
    if bodyLength head ≤ bytes.length then .done (bodyLength head) else .more

theorem Parser.lawful_terminated (hne : stop ≠ []) (bodyLength : List β → Nat) :
    (Parser.terminated stop bodyLength).Lawful := by
  have hhead : ∀ w n, (Parser.terminated stop bodyLength).head w = .done n →
      endOf stop w = some n := by
    intro w n h
    simp only [Parser.terminated] at h
    split at h
    · exact nomatch h
    · rw [← Progress.done.inj h]
      assumption
  have hopen : ∀ w n, (Parser.terminated stop bodyLength).head w = .done n → n ≤ w.length ∧
      Stage.Decides (fun _ => (Parser.terminated stop bodyLength).head) (w.take n) := by
    intro w n h
    have hend := hhead w n h
    have hle := (endOf_bounds hend).2
    refine ⟨hle, ?_, ?_⟩
    · intro v hpre hv
      have hlt := length_lt_of_prefix hpre hv
      rw [List.length_take_of_le hle] at hlt
      simp only [Parser.terminated, endOf_of_lt hend (hpre.trans (List.take_prefix n w)) hlt]
    · intro closed rest
      simp only [Parser.terminated, endOf_take_append hne hend, List.length_take_of_le hle]
  refine ⟨⟨hopen, fun w n h => Or.inl h⟩, nofun, ?_⟩
  intro head
  have hbody : ∀ closed w n, (Parser.terminated stop bodyLength).body head closed w = .done n →
      n = bodyLength head ∧ n ≤ w.length := by
    intro closed w n h
    simp only [Parser.terminated] at h
    split at h
    · obtain rfl := Progress.done.inj h
      exact ⟨rfl, ‹_›⟩
    · exact nomatch h
  refine ⟨?_, fun w n h => Or.inl h⟩
  intro w n h
  obtain ⟨rfl, hle⟩ := hbody false w n h
  refine ⟨hle, ?_, ?_⟩
  · intro v hpre hv
    have hlt := length_lt_of_prefix hpre hv
    rw [List.length_take_of_le hle] at hlt
    simp only [Parser.terminated, if_neg (Nat.not_le_of_lt hlt)]
  · intro closed rest
    have hfits : bodyLength head ≤ (w.take (bodyLength head) ++ rest).length := by
      rw [List.length_append, List.length_take_of_le hle]
      omega
    simp only [Parser.terminated, if_pos hfits, List.length_take_of_le hle]

/-- A message whose head has the terminator at its end only, and whose body has
    the length the head gives. -/
theorem Parser.frames_terminated (hne : stop ≠ []) {bodyLength : List β → Nat} {m : Message β}
    (hhead : endOf stop m.head = some m.head.length) (hbody : m.body.length = bodyLength m.head) :
    (Parser.terminated stop bodyLength).Frames m := by
  have hlawful := Parser.lawful_terminated hne bodyLength
  refine ⟨?_, ?_, ?_⟩
  · intro hnil
    rw [hnil] at hhead
    exact nomatch hhead
  · have h := (hlawful.head.open_done m.head m.head.length (by
      simp only [Parser.terminated, hhead])).2
    rwa [List.take_length] at h
  · have h := ((hlawful.body m.head).open_done m.body m.body.length (by
      simp only [Parser.terminated, hbody, Nat.le_refl, if_true])).2
    rwa [List.take_length] at h

end

/-! ## What was read

Whatever the parser and the connection do, a part that is read is a piece of the bytes
of the connection, and what is read later is behind it. -/

section

/-- The bytes of a read. -/
def ReadResult.bytes : ReadResult β → List β
  | .data segment => segment
  | .error _ => []

/-- The bytes that are still to be read. -/
def Conn.unread (c : Conn β) : List β := c.reads.flatMap ReadResult.bytes

theorem Conn.Later.unread {c c' : Conn β} (h : c.Later c') : c'.unread <:+ c.unread := by
  obtain ⟨before, hreads⟩ := h.reads
  unfold Conn.unread
  rw [← hreads, List.flatMap_append]
  exact List.suffix_append _ _

private theorem atError_part {stage : Stage β} {buf bytes rest : List β} {e : ReadError}
    (h : stage.atError buf e = .part bytes rest) : bytes ++ rest = buf := by
  cases e with
  | failed => cases h
  | eof =>
    unfold Stage.atError at h
    dsimp only at h
    split at h
    · obtain ⟨rfl, rfl⟩ := Outcome.part.inj h
      exact List.take_append_drop _ _
    · split at h <;> cases h

theorem Stage.read_part {stage : Stage β} {ending : Option ReadError} {buf bytes rest : List β}
    {reads reads' : List (ReadResult β)}
    (h : stage.read ending buf reads = (.part bytes rest, reads')) :
    buf ++ reads.flatMap ReadResult.bytes = bytes ++ rest ++ reads'.flatMap ReadResult.bytes := by
  induction reads generalizing buf with
  | nil =>
    unfold Stage.read at h
    split at h
    · obtain ⟨hpart, rfl⟩ := Prod.mk.inj h
      obtain ⟨rfl, rfl⟩ := Outcome.part.inj hpart
      rw [List.take_append_drop]
    · cases h
    · split at h
      · cases h
      · obtain ⟨hpart, rfl⟩ := Prod.mk.inj h
        rw [atError_part hpart]
  | cons r reads ih =>
    unfold Stage.read at h
    split at h
    · obtain ⟨hpart, rfl⟩ := Prod.mk.inj h
      obtain ⟨rfl, rfl⟩ := Outcome.part.inj hpart
      rw [List.take_append_drop]
    · cases h
    · cases r with
      | data segment =>
        rw [List.flatMap_cons, ← List.append_assoc]
        exact ih h
      | error e =>
        obtain ⟨hpart, rfl⟩ := Prod.mk.inj h
        rw [atError_part hpart, List.flatMap_cons]
        rfl

theorem Parser.readHead_part {p : Parser β} {c c' : Conn β} {head rest : List β}
    (h : p.readHead c = (.part head rest, c')) : c.unread = head ++ rest ++ c'.unread := by
  obtain ⟨hout, rfl⟩ := Prod.mk.inj h
  exact Stage.read_part (Prod.ext hout rfl)

theorem Parser.readBody_part {p : Parser β} {c c' : Conn β} {head rest body rest' : List β}
    (h : p.readBody head rest c = (.part body rest', c')) :
    rest ++ c.unread = body ++ rest' ++ c'.unread := by
  obtain ⟨hout, rfl⟩ := Prod.mk.inj h
  exact Stage.read_part (Prod.ext hout rfl)

/-- The pieces are in the stream, one after the other, and `rest` is a part of the
    stream that comes after them. -/
def InOrder : List (List β) → List β → List β → Prop
  | [], stream, rest => rest <:+ stream
  | w :: ws, stream, rest => ∃ gap behind, stream = gap ++ w ++ behind ∧ InOrder ws behind rest

theorem InOrder.later {ws : List (List β)} {stream rest rest' : List β}
    (h : InOrder ws stream rest) (hrest : rest' <:+ rest) : InOrder ws stream rest' := by
  induction ws generalizing stream with
  | nil => exact hrest.trans h
  | cons w ws ih =>
    obtain ⟨gap, behind, hstream, htail⟩ := h
    exact ⟨gap, behind, hstream, ih htail⟩

/-- The next piece is taken from what comes after the others. -/
theorem InOrder.concat {ws : List (List β)} {stream rest rest' w behind : List β}
    (h : InOrder ws stream rest) (hrest : rest = w ++ behind) (hrest' : rest' <:+ behind) :
    InOrder (ws ++ [w]) stream rest' := by
  induction ws generalizing stream with
  | nil =>
    obtain ⟨gap, hstream⟩ := h
    exact ⟨gap, behind, by rw [← hstream, hrest, List.append_assoc], hrest'⟩
  | cons w' ws ih =>
    obtain ⟨gap, behind', hstream, htail⟩ := h
    exact ⟨gap, behind', hstream, ih htail⟩

end

end Framing
