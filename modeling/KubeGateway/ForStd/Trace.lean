/-!
# Runs of a step function

Generic facts about the runs of a total step function `step : σ → ε → σ` over
a list of events.  A scheduler's choices are events too, so a list of events
ranges over the interleavings of a concurrent system; an event that is not
enabled leaves the state as it is.

`Along step P s es` says that `P` holds of every step of the run: of each event
together with the state it meets.  Safety properties of runs, and conditions on
the steps of a run, are both stated with it.
-/

namespace Trace

universe u v

variable {σ : Type u} {ε : Type v} (step : σ → ε → σ)

/-- The state after the events `es`, in order, from `s`. -/
def run (s : σ) (es : List ε) : σ := es.foldl step s

@[simp] theorem run_nil (s : σ) : run step s [] = s := rfl

@[simp] theorem run_cons (s : σ) (e : ε) (es : List ε) :
    run step s (e :: es) = run step (step s e) es := rfl

@[simp] theorem run_append (s : σ) (es es' : List ε) :
    run step s (es ++ es') = run step (run step s es) es' := by
  simp only [run, List.foldl_append]

/-- `P` holds of every event of the run with the state the event meets. -/
def Along (P : σ → ε → Prop) : σ → List ε → Prop
  | _, [] => True
  | s, e :: es => P s e ∧ Along P (step s e) es

variable {step} {P Q A : σ → ε → Prop} {s : σ} {es : List ε}

@[simp] theorem along_nil : Along step P s [] := trivial

@[simp] theorem along_cons {e : ε} :
    Along step P s (e :: es) ↔ P s e ∧ Along step P (step s e) es := Iff.rfl

theorem along_append {es' : List ε} :
    Along step P s (es ++ es') ↔ Along step P s es ∧ Along step P (run step s es) es' := by
  induction es generalizing s with
  | nil => simp
  | cons e es ih => simp only [List.cons_append, along_cons, run_cons, ih, and_assoc]

/-- A run of events that are made from others is a run of those. -/
theorem along_map {ι : Type v} {g : ι → ε} {l : List ι} :
    Along step P s (l.map g) ↔ Along (fun s i => step s (g i)) (fun s i => P s (g i)) s l := by
  induction l generalizing s with
  | nil => exact Iff.rfl
  | cons i l ih => exact and_congr_right fun _ => ih

instance instDecidableAlong [∀ s e, Decidable (P s e)] : ∀ s es, Decidable (Along step P s es)
  | _, [] => isTrue trivial
  | s, e :: es =>
    have := instDecidableAlong (step s e) es
    inferInstanceAs (Decidable (P s e ∧ Along step P (step s e) es))

theorem along_of_forall (h : ∀ s e, P s e) : Along step P s es := by
  induction es generalizing s with
  | nil => trivial
  | cons e es ih => exact ⟨h s e, ih⟩

theorem Along.mono (h : Along step P s es) (hPQ : ∀ s e, P s e → Q s e) :
    Along step Q s es := by
  induction es generalizing s with
  | nil => trivial
  | cons e es ih => exact ⟨hPQ s e h.1, ih h.2⟩

theorem Along.and (hP : Along step P s es) (hQ : Along step Q s es) :
    Along step (fun s e => P s e ∧ Q s e) s es := by
  induction es generalizing s with
  | nil => trivial
  | cons e es ih => exact ⟨⟨hP.1, hQ.1⟩, ih hP.2 hQ.2⟩

/-! ## Invariants -/

/-- A state predicate that every step keeps holds after every run. -/
theorem run_invariant {I : σ → Prop} (hstep : ∀ s e, I s → I (step s e)) (hs : I s) :
    I (run step s es) := by
  induction es generalizing s with
  | nil => exact hs
  | cons e es ih => exact ih (hstep s e hs)

/-- An invariant that also mentions the events so far, oldest first. -/
theorem run_history_invariant {I : List ε → σ → Prop} (hs : I [] s)
    (hstep : ∀ h e, I h (run step s h) → I (h ++ [e]) (step (run step s h) e)) (es : List ε) :
    I es (run step s es) := by
  -- for every history so far, so that the induction can move events into it
  suffices key : ∀ h, I h (run step s h) → I (h ++ es) (run step s (h ++ es)) from key [] hs
  induction es with
  | nil => intro h hI; simpa using hI
  | cons e es ih =>
    intro h hI
    have hnext : I (h ++ [e]) (run step s (h ++ [e])) := by
      rw [run_append]
      exact hstep h e hI
    have := ih (h ++ [e]) hnext
    rwa [List.append_assoc, List.singleton_append] at this

/-- A state predicate that the allowed steps keep holds after every allowed run. -/
theorem run_of_along {I : σ → Prop} (hstep : ∀ s e, I s → A s e → I (step s e)) (hs : I s)
    (hA : Along step A s es) : I (run step s es) := by
  induction es generalizing s with
  | nil => exact hs
  | cons e es ih => exact ih (hstep s e hs hA.1) hA.2

/-- Under an invariant of the allowed runs, a step property that the invariant
    gives holds of every step. -/
theorem along_of_invariant {I : σ → Prop} (hstep : ∀ s e, I s → A s e → I (step s e))
    (hP : ∀ s e, I s → A s e → P s e) (hs : I s) (hA : Along step A s es) :
    Along step P s es := by
  induction es generalizing s with
  | nil => trivial
  | cons e es ih => exact ⟨hP s e hs hA.1, ih (hstep s e hs hA.1) hA.2⟩

/-- What each step keeps exactly if it has a property holds after a run exactly if
    every step has it. -/
theorem run_iff_along {I : σ → Prop} (hstep : ∀ s e, I (step s e) ↔ I s ∧ P s e) :
    I (run step s es) ↔ I s ∧ Along step P s es := by
  induction es generalizing s with
  | nil => simp
  | cons e es ih => rw [run_cons, ih, hstep, along_cons, and_assoc]

/-- Two step properties that agree wherever an invariant holds agree on every
    run, also when the invariant is only kept by the steps with the property. -/
theorem along_iff_of_invariant {I : σ → Prop} (hstep : ∀ s e, I s → P s e → I (step s e))
    (hPQ : ∀ s e, I s → (P s e ↔ Q s e)) (hs : I s) :
    Along step P s es ↔ Along step Q s es := by
  induction es generalizing s with
  | nil => exact Iff.rfl
  | cons e es ih =>
    rw [along_cons, along_cons, ← hPQ s e hs]
    exact and_congr_right fun hP => ih (hstep s e hs hP)

/-- Two step properties that agree everywhere agree on every run. -/
theorem along_congr (hPQ : ∀ s e, P s e ↔ Q s e) : Along step P s es ↔ Along step Q s es :=
  along_iff_of_invariant (I := fun _ => True) (fun _ _ _ _ => trivial)
    (fun s e _ => hPQ s e) trivial

/-! ## Quantities that go up or down -/

theorem le_run {f : σ → Nat} (hmono : ∀ s e, f s ≤ f (step s e)) : f s ≤ f (run step s es) := by
  induction es generalizing s with
  | nil => exact Nat.le_refl _
  | cons e es ih => exact Nat.le_trans (hmono s e) ih

/-- What every step brings down, while it is not zero, a long enough run brings to
    zero. -/
theorem run_le_sub {f : σ → Nat} (hstep : ∀ s, ∀ e ∈ es, f (step s e) ≤ f s - 1) :
    f (run step s es) ≤ f s - es.length := by
  induction es generalizing s with
  | nil => exact Nat.le_refl _
  | cons e es ih =>
    have hhead : f (step s e) ≤ f s - 1 := hstep s e List.mem_cons_self
    have htail : f (run step (step s e) es) ≤ f (step s e) - es.length :=
      ih fun s e he => hstep s e (List.mem_cons_of_mem _ he)
    rw [run_cons, List.length_cons]
    omega

/-! ### Rounds

A measure that no step raises comes down in a round if some event of the round would
bring it down, and keeps waiting to do so until another one has. -/

section

variable {I : σ → Prop} {Waits : σ → ε → Prop} {f : σ → Nat}

theorem run_le_of_keep (hstep : ∀ s e, I s → A s e → I (step s e))
    (hkeep : ∀ s e, I s → A s e → f (step s e) < f s ∨
      (f (step s e) = f s ∧ ¬ Waits s e ∧ ∀ e', Waits s e' → Waits (step s e) e'))
    (hs : I s) (hA : Along step A s es) : f (run step s es) ≤ f s := by
  induction es generalizing s with
  | nil => exact Nat.le_refl _
  | cons e es ih =>
    have htail : f (run step (step s e) es) ≤ f (step s e) := ih (hstep s e hs hA.1) hA.2
    obtain hlt | ⟨heq, -⟩ := hkeep s e hs hA.1
    · exact Nat.le_trans htail (Nat.le_of_lt hlt)
    · exact Nat.le_trans htail (Nat.le_of_eq heq)

theorem run_lt_of_waits (hstep : ∀ s e, I s → A s e → I (step s e))
    (hkeep : ∀ s e, I s → A s e → f (step s e) < f s ∨
      (f (step s e) = f s ∧ ¬ Waits s e ∧ ∀ e', Waits s e' → Waits (step s e) e'))
    (hs : I s) (hA : Along step A s es) {e : ε} (he : e ∈ es) (hwaits : Waits s e) :
    f (run step s es) < f s := by
  induction es generalizing s with
  | nil => cases he
  | cons e' es ih =>
    have hnext : I (step s e') := hstep s e' hs hA.1
    rw [run_cons]
    obtain hlt | ⟨heq, hnot, hstays⟩ := hkeep s e' hs hA.1
    · exact Nat.lt_of_le_of_lt (run_le_of_keep hstep hkeep hnext hA.2) hlt
    · -- this was not the event that waits, which still does
      have htail : e ∈ es := by
        obtain rfl | htail := List.mem_cons.mp he
        · exact absurd hwaits hnot
        · exact htail
      rw [← heq]
      exact ih hnext hA.2 htail (hstays e hwaits)

/-- If an event of each round waits while the measure is not zero, enough rounds bring
    it to zero. -/
theorem run_rounds_le {rounds : List (List ε)} (hstep : ∀ s e, I s → A s e → I (step s e))
    (hkeep : ∀ s e, I s → A s e → f (step s e) < f s ∨
      (f (step s e) = f s ∧ ¬ Waits s e ∧ ∀ e', Waits s e' → Waits (step s e) e'))
    (hround : ∀ s, I s → 0 < f s → ∀ r ∈ rounds, ∃ e ∈ r, Waits s e)
    (hs : I s) (hA : Along step A s rounds.flatten) :
    f (run step s rounds.flatten) ≤ f s - rounds.length := by
  induction rounds generalizing s with
  | nil => exact Nat.le_refl _
  | cons r rounds ih =>
    rw [List.flatten_cons, along_append] at hA
    have hnext : I (run step s r) := run_of_along hstep hs hA.1
    have htail : f (run step (run step s r) rounds.flatten) ≤ f (run step s r) - rounds.length :=
      ih (fun s hs hpos r' hr' => hround s hs hpos r' (List.mem_cons_of_mem _ hr')) hnext hA.2
    have hhead : f (run step s r) ≤ f s - 1 := by
      rcases Nat.eq_zero_or_pos (f s) with hzero | hpos
      · -- there is nothing left to bring down
        have hle := run_le_of_keep hstep hkeep hs hA.1
        omega
      · obtain ⟨e, he, hwaits⟩ := hround s hs hpos r List.mem_cons_self
        have hlt := run_lt_of_waits hstep hkeep hs hA.1 he hwaits
        omega
    rw [List.flatten_cons, run_append, List.length_cons]
    omega

end

/-- A bound on the final value bounds the value at every step. -/
theorem along_lt_of_run_lt {f : σ → Nat} {n : Nat} (hmono : ∀ s e, f s ≤ f (step s e))
    (h : f (run step s es) < n) : Along step (fun s _ => f s < n) s es := by
  induction es generalizing s with
  | nil => trivial
  | cons e es ih =>
    have hle : f s ≤ f (run step s (e :: es)) := le_run hmono
    exact ⟨Nat.lt_of_le_of_lt hle h, ih h⟩

end Trace
