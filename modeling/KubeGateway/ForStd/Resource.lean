/-!
# Resources and the tasks that open them

A map `owner` holds the open resources, each with the task that has opened it.  A
task that ends closes what it has deferred the closing of, and so everything that is
open belongs to a task that runs as long as no task ends with something open that it
has not deferred.
-/

namespace Resource

universe u v

variable {ρ : Type u} {ι : Type v}

/-- Every open resource belongs to a running task. -/
def Owned (owner : ρ → Option ι) (running : ι → Prop) : Prop :=
  ∀ r i, owner r = some i → running i

theorem owned_none (running : ι → Prop) : Owned (fun _ : ρ => none) running :=
  fun _ _ h => nomatch h

variable {owner : ρ → Option ι} {running running' : ι → Prop}

theorem Owned.mono (h : Owned owner running) (hrunning : ∀ i, running i → running' i) :
    Owned owner running' :=
  fun r i hr => hrunning i (h r i hr)

variable [DecidableEq ρ]

/-! ## Opening and closing -/

/-- What is open after the task `i` has opened `r`. -/
def acquire (owner : ρ → Option ι) (r : ρ) (i : ι) : ρ → Option ι :=
  fun r' => if r' = r then some i else owner r'

/-- What is open after all of `rs` have been closed. -/
def close (owner : ρ → Option ι) (rs : List ρ) : ρ → Option ι :=
  fun r => if r ∈ rs then none else owner r

@[simp] theorem acquire_self (r : ρ) (i : ι) : acquire owner r i r = some i := if_pos rfl

theorem acquire_of_ne {r r' : ρ} (h : r' ≠ r) (i : ι) : acquire owner r i r' = owner r' := if_neg h

theorem acquire_eq_some {r r' : ρ} {i j : ι} :
    acquire owner r i r' = some j ↔ (r' = r ∧ i = j) ∨ (r' ≠ r ∧ owner r' = some j) := by
  unfold acquire
  split
  · rename_i h
    simp [h]
  · rename_i h
    simp [h]

theorem close_eq_some {rs : List ρ} {r : ρ} {i : ι} :
    close owner rs r = some i ↔ r ∉ rs ∧ owner r = some i := by
  unfold close
  split <;> simp_all

/-- A running task may open something. -/
theorem owned_acquire (h : Owned owner running) (r : ρ) {i : ι} (hi : running i) :
    Owned (acquire owner r i) running := by
  intro r' j hj
  rcases acquire_eq_some.mp hj with ⟨-, rfl⟩ | ⟨-, hj⟩
  · exact hi
  · exact h r' j hj

theorem owned_close (h : Owned owner running) (rs : List ρ) : Owned (close owner rs) running :=
  fun r i hi => h r i (close_eq_some.mp hi).2

/-- When a task has ended and closed `rs`, what is open belongs to a running task
    exactly if the task had nothing open besides. -/
theorem owned_close_iff (h : Owned owner running) {rs : List ρ} {i : ι} (hended : ¬ running' i)
    (hothers : ∀ j, j ≠ i → (running j ↔ running' j)) :
    Owned (close owner rs) running' ↔ ∀ r, owner r = some i → r ∈ rs := by
  constructor
  · intro howned r hr
    refine Decidable.byContradiction fun hmem => ?_
    exact hended (howned r i (close_eq_some.mpr ⟨hmem, hr⟩))
  · intro hall r j hj
    obtain ⟨hmem, hj⟩ := close_eq_some.mp hj
    have hne : j ≠ i := by
      rintro rfl
      exact hmem (hall r hj)
    exact (hothers j hne).mp (h r j hj)

end Resource
