/-!
# Programs that read a shared cell

A `Reads κ ρ` is a program that reads a cell again and again: between two of its
reads another thread may write the cell.  The cell is a pointer to a value of `κ`,
and a read of a nil pointer panics.  `eval v` is what the program returns when
every read finds the value `v`.

A `Reader` runs such programs, one after the other.  It checks the pointer for nil
first, and it may look at the cell once more when it has used a result.  As long as
the cell stays as it was at that check, a program returns what `eval` says.
-/

universe u v

/-- A program that reads the cell. -/
inductive Reads (κ ρ : Type u) where
  | ret (r : ρ)
  | panic
  | read (next : κ → Reads κ ρ)

namespace Reads

variable {κ α β ρ : Type u}

def bind : Reads κ α → (α → Reads κ β) → Reads κ β
  | ret a, f => f a
  | panic, _ => panic
  | read next, f => read fun v => (next v).bind f

instance : Monad (Reads κ) where
  pure := ret
  bind := bind

/-- A field of what the cell points to. -/
def field (f : κ → α) : Reads κ α := read fun v => ret (f v)

/-- An element of a slice that the cell points to. -/
def index (f : κ → List α) (x : Nat) : Reads κ α :=
  read fun v =>
    match (f v)[x]? with
    | some a => ret a
    | none => panic

/-- What the program returns on a value that does not change; `none` is a panic. -/
def eval (v : κ) : Reads κ ρ → Option ρ
  | ret r => some r
  | panic => none
  | read next => (next v).eval v

variable {v : κ}

@[simp] theorem eval_ret (r : ρ) : (ret r : Reads κ ρ).eval v = some r := rfl

@[simp] theorem eval_pure (r : ρ) : (pure r : Reads κ ρ).eval v = some r := rfl

@[simp] theorem eval_read (next : κ → Reads κ ρ) : (read next).eval v = (next v).eval v := rfl

@[simp] theorem eval_field (f : κ → α) : (field f).eval v = some (f v) := rfl

theorem eval_index {f : κ → List α} {x : Nat} {a : α} (h : (f v)[x]? = some a) :
    (index f x).eval v = some a := by
  simp only [index, eval_read, h, eval_ret]

@[simp] theorem eval_bind (p : Reads κ α) (f : α → Reads κ β) :
    (p >>= f).eval v = (p.eval v).bind fun a => (f a).eval v := by
  show (p.bind f).eval v = _
  induction p with
  | ret a => rfl
  | panic => rfl
  | read next ih => exact ih v

/-! ## Loops -/

/-- A loop over values that the program has itself. -/
theorem eval_foldlM {σ : Type u} {f : σ → α → Reads κ σ} {g : σ → α → σ}
    (h : ∀ s a, (f s a).eval v = some (g s a)) (s : σ) (l : List α) :
    (l.foldlM f s).eval v = some (l.foldl g s) := by
  induction l generalizing s with
  | nil => rfl
  | cons a l ih =>
    rw [List.foldlM_cons, eval_bind, h, Option.bind_some, ih, List.foldl_cons]

/-- A loop over the positions of a slice in the cell. -/
theorem eval_foldlM_range {σ : Type u} {f : σ → Nat → Reads κ σ} {g : σ → α → σ} {l : List α}
    (h : ∀ s x a, l[x]? = some a → (f s x).eval v = some (g s a)) (s : σ) :
    ((List.range l.length).foldlM f s).eval v = some (l.foldl g s) := by
  rw [List.range_eq_range']
  -- from any position on, over the elements that are left
  suffices key : ∀ (k x : Nat) (s : σ), k = l.length - x →
      ((List.range' x k).foldlM f s).eval v = some ((l.drop x).foldl g s) by
    simpa using key l.length 0 s (by simp)
  intro k
  induction k with
  | zero =>
    intro x s hk
    have hx : l.length ≤ x := by omega
    simp [List.drop_eq_nil_of_le hx]
  | succ k ih =>
    intro x s hk
    have hx : x < l.length := by omega
    rw [List.range'_succ, List.foldlM_cons, eval_bind, h s x l[x] (List.getElem?_eq_getElem hx),
      Option.bind_some, ih (x + 1) _ (by omega), List.drop_eq_getElem_cons hx, List.foldl_cons]

/-! ## A cell that changes -/

/-- Whatever the reads find, as long as each finds a value of `P`, the program returns
    a result of `Q`, or panics. -/
def Ensures (P : κ → Prop) (Q : ρ → Prop) : Reads κ ρ → Prop
  | ret r => Q r
  | panic => True
  | read next => ∀ v, P v → (next v).Ensures P Q

variable {P : κ → Prop}

theorem Ensures.mono {p : Reads κ ρ} {Q Q' : ρ → Prop} (h : p.Ensures P Q)
    (hQ : ∀ r, Q r → Q' r) : p.Ensures P Q' := by
  induction p with
  | ret r => exact hQ r h
  | panic => trivial
  | read next ih => exact fun v hv => ih v (h v hv)

theorem ensures_pure {Q : ρ → Prop} {r : ρ} (h : Q r) : (pure r : Reads κ ρ).Ensures P Q := h

theorem ensures_bind {Q : β → Prop} {p : Reads κ α} {f : α → Reads κ β}
    (h : p.Ensures P fun a => (f a).Ensures P Q) : (p >>= f).Ensures P Q := by
  show (p.bind f).Ensures P Q
  induction p with
  | ret a => exact h
  | panic => trivial
  | read next ih => exact fun v hv => ih v (h v hv)

theorem ensures_field {Q : α → Prop} {f : κ → α} (h : ∀ v, P v → Q (f v)) :
    (field f).Ensures P Q := h

theorem ensures_index {Q : α → Prop} {f : κ → List α} {x : Nat}
    (h : ∀ v a, P v → (f v)[x]? = some a → Q a) : (index f x).Ensures P Q := by
  intro v hv
  dsimp only
  split
  · next a ha => exact h v a hv ha
  · trivial

/-- A loop that has already done a part. -/
theorem ensures_foldlM_append {γ : Type v} {σ : Type u} {f : σ → γ → Reads κ σ}
    {I : List γ → σ → Prop}
    (hstep : ∀ done a s, I done s → (f s a).Ensures P (I (done ++ [a]))) (l : List γ)
    {done : List γ} {s : σ} (h : I done s) : (l.foldlM f s).Ensures P (I (done ++ l)) := by
  induction l generalizing done s with
  | nil => rwa [List.append_nil]
  | cons a l ih =>
    rw [List.foldlM_cons]
    refine ensures_bind ((hstep done a s h).mono fun s' hs' => ?_)
    rw [List.append_cons]
    exact ih hs'

/-- The rule for a loop, with an invariant of the part that is done. -/
theorem ensures_foldlM {γ : Type v} {σ : Type u} {f : σ → γ → Reads κ σ}
    {I : List γ → σ → Prop}
    (hstep : ∀ done a s, I done s → (f s a).Ensures P (I (done ++ [a]))) (l : List γ) {s : σ}
    (h : I [] s) : (l.foldlM f s).Ensures P (I l) :=
  ensures_foldlM_append hstep l h

end Reads

/-- A thread that handles inputs of `β`: between two inputs, in the program for one of
    them, or before its last look at the cell.  It keeps the value it found at its nil
    check only for what is said about it. -/
inductive Reader (κ β ρ : Type u) where
  | idle
  | reading (version : κ) (input : β) (program : Reads κ ρ)
  | looking

namespace Reader

variable {κ β ρ : Type u}

/-- The nil check: a nil pointer, and there is nothing to do. -/
def check (program : β → Reads κ ρ) (cell : Option κ) (input : β) : Reader κ β ρ → Reader κ β ρ
  | idle =>
    match cell with
    | none => idle
    | some v => reading v input (program input)
  | r => r

/-- The next read, or the use of the result; `none` is a panic. -/
def next (again : ρ → Bool) (cell : Option κ) : Reader κ β ρ → Option (Reader κ β ρ)
  | idle => some idle
  | reading v input (.read next) => cell.map fun c => reading v input (next c)
  | reading _ _ (.ret r) => some (if again r then looking else idle)
  | reading _ _ .panic => none
  | looking => cell.map fun _ => idle

/-- What the next step finds or uses is of the version at the nil check. -/
def OneVersion (f : κ → β → ρ) (cell : Option κ) : Reader κ β ρ → Prop
  | idle => True
  | reading v _ (.read _) => cell = some v
  | reading v input (.ret r) => r = f v input
  | reading _ _ .panic => False
  | looking => cell ≠ none

/-- Another value in the cell makes no difference to a step that is to come. -/
def Allows (again : ρ → Bool) (cell cell' : Option κ) : Reader κ β ρ → Prop
  | reading _ _ (.read _) => cell' = cell
  | reading _ _ (.ret r) => again r = true → cell' ≠ none
  | looking => cell' ≠ none
  | _ => True

/-- The program returns what it should on the version at the nil check, and every step
    to come finds what it should. -/
structure Faithful (f : κ → β → ρ) (again : ρ → Bool) (cell : Option κ) (r : Reader κ β ρ) :
    Prop where
  now : r.OneVersion f cell
  later : ∀ v input program, r = reading v input program → program.eval v = some (f v input)
  last : ∀ v input res, r = reading v input (.ret res) → again res = true → cell ≠ none

variable {f : κ → β → ρ} {cell cell' : Option κ} {r : Reader κ β ρ} {again : ρ → Bool}

theorem faithful_idle : Faithful f again cell (idle : Reader κ β ρ) := ⟨trivial, nofun, nofun⟩

/-- A program about to run is faithful if its next read finds the version it expects. -/
theorem faithful_reading {v : κ} {input : β} {program : Reads κ ρ} (hcell : cell = some v)
    (heval : program.eval v = some (f v input)) :
    Faithful f again cell (reading v input program) := by
  refine ⟨?_, ?_, ?_⟩
  · cases program with
    | ret r => exact Option.some.inj heval
    | panic => exact nomatch heval
    | read next => exact hcell
  · intro v' input' program' h
    cases h
    exact heval
  · intro _ _ _ _ _
    rw [hcell]
    exact Option.some_ne_none v

theorem Faithful.check {program : β → Reads κ ρ} (h : Faithful f again cell r)
    (hprogram : ∀ v input, (program input).eval v = some (f v input)) (input : β) :
    Faithful f again cell (r.check program cell input) := by
  cases r with
  | reading => exact h
  | looking => exact h
  | idle =>
    cases cell with
    | none => exact faithful_idle
    | some v => exact faithful_reading rfl (hprogram v input)

/-- A faithful reader does not panic, and goes on faithfully. -/
theorem Faithful.next (h : Faithful f again cell r) :
    ∃ r', r.next again cell = some r' ∧ Faithful f again cell r' := by
  cases r with
  | idle => exact ⟨idle, rfl, faithful_idle⟩
  | looking =>
    obtain ⟨c, hc⟩ := Option.ne_none_iff_exists'.mp h.now
    exact ⟨idle, by rw [hc]; rfl, faithful_idle⟩
  | reading v input program =>
    have heval := h.later v input program rfl
    cases program with
    | panic => exact nomatch heval
    | read next =>
      have hcell : cell = some v := h.now
      exact ⟨reading v input (next v), by rw [hcell]; rfl, faithful_reading hcell heval⟩
    | ret res =>
      cases hagain : again res with
      | false => exact ⟨idle, by simp [Reader.next, hagain], faithful_idle⟩
      | true =>
        have hcell := h.last v input res rfl hagain
        exact ⟨looking, by simp [Reader.next, hagain], hcell, nofun, nofun⟩

theorem Faithful.of_allows (h : Faithful f again cell r) (hallows : r.Allows again cell cell') :
    Faithful f again cell' r := by
  have hnow := h.now
  cases r with
  | idle => exact faithful_idle
  | looking => exact ⟨hallows, nofun, nofun⟩
  | reading v input program =>
    have heval := h.later v input program rfl
    cases program with
    | panic => exact nomatch heval
    | read next =>
      have hcell : cell' = cell := hallows
      rw [hcell]
      exact h
    | ret res =>
      refine ⟨hnow, h.later, ?_⟩
      intro _ _ res' heq
      cases heq
      exact hallows

/-! ## A cell that changes -/

/-- The program in hand returns what it should for its input, as long as its reads find
    values of `P`. -/
def Ensures (P : κ → Prop) (Q : β → ρ → Prop) : Reader κ β ρ → Prop
  | reading _ input program => program.Ensures P (Q input)
  | _ => True

variable {P : κ → Prop} {Q : β → ρ → Prop}

theorem Ensures.check {program : β → Reads κ ρ} (h : Ensures P Q r)
    (hprogram : ∀ input, (program input).Ensures P (Q input)) (input : β) :
    Ensures P Q (r.check program cell input) := by
  cases r with
  | reading => exact h
  | looking => trivial
  | idle =>
    cases cell with
    | none => trivial
    | some v => exact hprogram input

theorem Ensures.next {r' : Reader κ β ρ} (h : Ensures P Q r) (hcell : ∀ v, cell = some v → P v)
    (hnext : r.next again cell = some r') : Ensures P Q r' := by
  cases r with
  | idle =>
    obtain rfl := Option.some.inj hnext
    trivial
  | looking =>
    obtain ⟨v, -, rfl⟩ := Option.map_eq_some_iff.mp hnext
    trivial
  | reading version input program =>
    cases program with
    | panic => cases hnext
    | ret res =>
      obtain rfl := Option.some.inj hnext
      split <;> trivial
    | read next =>
      obtain ⟨v, hv, rfl⟩ := Option.map_eq_some_iff.mp hnext
      exact h v (hcell v hv)

end Reader
