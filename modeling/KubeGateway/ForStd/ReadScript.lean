import KubeGateway.ForStd.Framing

/-!
# Connections that come to an end

A `Script` is what the reads of a connection return when from some point on they
return errors only, of any kinds and in any order.  An error ends the part that is
being read, and a head is never ended by one, so the reading of a message takes at
most one error.

`Parser.AtEnd` is the one state of a connection in which reading says that it has
ended; `exists_atEnd` and `not_atEnd_of_noEof` say of some scripts whether it comes.
-/

namespace Framing

variable {β : Type}

/-- The results of the reads of a connection: some, and then errors for ever. -/
structure Script (β : Type) where
  reads : List (ReadResult β)
  tail : Nat → ReadError

/-- As much of the script as the reading of one message can take. -/
def Script.conn (s : Script β) : Conn β := ⟨s.reads ++ [.error (s.tail 0)], none⟩

/-- What is left of the script when `c` is left of `s.conn`. -/
def Script.after (s : Script β) (c : Conn β) : Script β :=
  if c.reads = [] then ⟨[], fun n => s.tail (n + 1)⟩ else ⟨c.reads.dropLast, s.tail⟩

/-- The connection after the reading of one message, which may have met an error. -/
def Parser.round (p : Parser β) (c : Conn β) : Conn β :=
  match p.readHead c with
  | (.part head rest, c) => (p.readBody head rest c).2
  | (_, c) => c

/-- The script after the reading of one message. -/
def Parser.advance (p : Parser β) (s : Script β) : Script β := s.after (p.round s.conn)

/-- The connection is at its end where the next message would begin. -/
def Parser.AtEnd (p : Parser β) (s : Script β) : Prop := (p.readHead s.conn).1 = .eof

theorem Parser.round_later (p : Parser β) (c : Conn β) : c.Later (p.round c) := by
  have hhead := p.readHead_later c
  unfold Parser.round
  split
  · next heq =>
    rw [heq] at hhead
    exact hhead.trans (p.readBody_later _ _ _)
  · next heq =>
    rw [heq] at hhead
    exact hhead

/-! ## An error ends a part -/

section

variable {stage : Stage β} {e : ReadError}

private theorem atError_ne_waits (buf : List β) : stage.atError buf e ≠ .waits := by
  cases e with
  | failed => exact nofun
  | eof =>
    unfold Stage.atError
    dsimp only
    split
    · exact nofun
    · split <;> exact nofun

/-- Before an error nothing waits. -/
theorem Stage.read_error_ne_waits (reads : List (ReadResult β)) (buf : List β) :
    (stage.read none buf (reads ++ [.error e])).1 ≠ .waits := by
  induction reads generalizing buf with
  | nil =>
    rw [List.nil_append]
    simp only [Stage.read]
    split
    · simp
    · simp
    · exact atError_ne_waits buf
  | cons r reads ih =>
    rw [List.cons_append]
    simp only [Stage.read]
    split
    · simp
    · simp
    · cases r with
      | data segment => exact ih (buf ++ segment)
      | error e' => exact atError_ne_waits buf

/-- Only an end of the connection is read as one. -/
theorem Stage.read_eq_eof {ending : Option ReadError} {reads : List (ReadResult β)} {buf : List β}
    (h : (stage.read ending buf reads).1 = .eof) : .error .eof ∈ reads ∨ ending = some .eof := by
  induction reads generalizing buf with
  | nil =>
    simp only [Stage.read] at h
    split at h
    · cases h
    · cases h
    · cases ending with
      | none => cases h
      | some e =>
        cases e with
        | eof => exact Or.inr rfl
        | failed => cases h
  | cons r reads ih =>
    simp only [Stage.read] at h
    split at h
    · cases h
    · cases h
    · cases r with
      | data segment =>
        rcases ih h with hmem | hending
        · exact Or.inl (List.mem_cons_of_mem _ hmem)
        · exact Or.inr hending
      | error e' =>
        cases e' with
        | eof => exact Or.inl List.mem_cons_self
        | failed => cases h

variable {head : List β → Progress}

private theorem atError_ne_part {buf : List β} (hmore : head buf = .more) (bytes rest : List β) :
    Stage.atError (fun _ => head) buf e ≠ .part bytes rest := by
  cases e with
  | failed => simp [Stage.atError]
  | eof =>
    simp only [Stage.atError, hmore]
    split <;> simp

/-- A part that does not look at the end of the connection is over before the error. -/
theorem Stage.read_part_error {reads left : List (ReadResult β)} {buf bytes rest : List β}
    (hread : Stage.read (fun _ => head) none buf (reads ++ [.error e]) = (.part bytes rest, left)) :
    ∃ left', left = left' ++ [.error e] := by
  induction reads generalizing buf with
  | nil =>
    rw [List.nil_append] at hread
    simp only [Stage.read] at hread
    split at hread
    · exact ⟨[], (congrArg Prod.snd hread).symm⟩
    · cases hread
    · next hmore => exact absurd (congrArg Prod.fst hread) (atError_ne_part hmore bytes rest)
  | cons r reads ih =>
    rw [List.cons_append] at hread
    simp only [Stage.read] at hread
    split at hread
    · exact ⟨r :: reads, (congrArg Prod.snd hread).symm⟩
    · cases hread
    · next hmore =>
      cases r with
      | data segment => exact ih hread
      | error e' => exact absurd (congrArg Prod.fst hread) (atError_ne_part hmore bytes rest)

end

/-! ## Reading a script -/

section

variable (p : Parser β) (s : Script β)

theorem Parser.readHead_conn_ne_waits : (p.readHead s.conn).1 ≠ .waits :=
  Stage.read_error_ne_waits s.reads []

/-- The body behind a head does not wait either. -/
theorem Parser.readBody_conn_ne_waits {head rest : List β} {c : Conn β}
    (hread : p.readHead s.conn = (.part head rest, c)) : (p.readBody head rest c).1 ≠ .waits := by
  obtain ⟨left, hleft⟩ : ∃ left, c.reads = left ++ [.error (s.tail 0)] := by
    have hout := congrArg Prod.fst hread
    have hconn := congrArg (fun r => r.2.reads) hread
    exact Stage.read_part_error (Prod.ext hout hconn)
  have hending : c.ending = none := by
    have hlater := p.readHead_later s.conn
    rw [hread] at hlater
    exact hlater.ending
  unfold Parser.readBody
  rw [hleft, hending]
  exact Stage.read_error_ne_waits left rest

/-- No read of the script says that the connection has ended. -/
def Script.NoEof : Prop := .error .eof ∉ s.reads ∧ ∀ n, s.tail n ≠ .eof

variable {p s}

theorem Script.NoEof.after {c : Conn β} (h : s.NoEof) (hc : s.conn.Later c) :
    (s.after c).NoEof := by
  unfold Script.after
  split
  · exact ⟨List.not_mem_nil, fun n => h.2 (n + 1)⟩
  · refine ⟨?_, h.2⟩
    intro hmem
    -- what is left was there, or is the first error of the tail
    have hconn := hc.reads.subset (List.dropLast_subset _ hmem)
    rcases List.mem_append.mp hconn with hreads | htail
    · exact h.1 hreads
    · exact h.2 0 (ReadResult.error.inj (List.mem_singleton.mp htail)).symm

theorem Script.NoEof.not_atEnd (h : s.NoEof) : ¬ p.AtEnd s := by
  intro hend
  rcases Stage.read_eq_eof hend with hmem | hending
  · rcases List.mem_append.mp hmem with hreads | htail
    · exact h.1 hreads
    · exact h.2 0 (ReadResult.error.inj (List.mem_singleton.mp htail)).symm
  · exact nomatch hending

/-- A connection that never says that it has ended is never read to its end. -/
theorem Parser.not_atEnd_of_noEof (h : s.NoEof) (n : Nat) : ¬ p.AtEnd (p.advance^[n] s) := by
  suffices hn : (p.advance^[n] s).NoEof from hn.not_atEnd
  induction n generalizing s with
  | zero => exact h
  | succ n ih => exact ih (h.after (p.round_later s.conn))

/-- A head takes at least one read, if it is not empty. -/
theorem Parser.length_round_lt (hp : p.head [] = .more) {r : ReadResult β} {c : Conn β}
    {reads : List (ReadResult β)} (hc : c.reads = r :: reads) :
    (p.round c).reads.length ≤ reads.length := by
  have hhead : (p.readHead c).2.reads <:+ reads := by
    simp only [Parser.readHead, hc, Stage.read, hp]
    cases r with
    | data segment => exact Stage.read_suffix _ _ _ _
    | error e => exact List.suffix_refl _
  unfold Parser.round
  split
  · next heq =>
    rw [heq] at hhead
    exact (((p.readBody_later _ _ _).reads).trans hhead).length_le
  · next heq =>
    rw [heq] at hhead
    exact hhead.length_le

/-- A connection that ends, and says so from then on, is read to its end. -/
theorem Parser.exists_atEnd (hp : p.head [] = .more) (htail : ∀ n, s.tail n = .eof) :
    ∃ n, p.AtEnd (p.advance^[n] s) := by
  -- by the number of reads that are left before the end
  induction hlen : s.reads.length using Nat.strongRecOn generalizing s with
  | ind len ih =>
    obtain ⟨reads, tail⟩ := s
    cases reads with
    | nil =>
      refine ⟨0, ?_⟩
      obtain rfl : tail = fun _ => .eof := funext htail
      simp [Parser.AtEnd, Parser.readHead, Script.conn, Stage.read, Stage.atError, hp]
    | cons r reads =>
      have hround : (p.round (Script.conn ⟨r :: reads, tail⟩)).reads.length ≤
          (reads ++ [ReadResult.error (tail 0)]).length := Parser.length_round_lt hp rfl
      have hshorter : (p.advance ⟨r :: reads, tail⟩).reads.length < len := by
        rw [List.length_append, List.length_singleton] at hround
        rw [List.length_cons] at hlen
        unfold Parser.advance Script.after
        split
        · rw [List.length_nil]
          omega
        · rw [List.length_dropLast]
          omega
      have htail' : ∀ n, (p.advance ⟨r :: reads, tail⟩).tail n = .eof := by
        unfold Parser.advance Script.after
        split
        · exact fun n => htail (n + 1)
        · exact htail
      obtain ⟨n, hn⟩ := ih _ hshorter htail' rfl
      exact ⟨n + 1, hn⟩

end

end Framing
