import KubeGateway.ForStd.JsonTarget

/-!
# What JSON values leave behind

When the JSON values decoded into a place, one after the other, leave a given value
there, told from the values themselves: a string or a flag is the last one of its
kind, a pointer or a slice is as the values behind the last `null` make it, and a
struct is told field by field.  Values of a wrong kind count for nothing, wherever
they stand.
-/

namespace GoJson

/-- The values behind the last one that forgets what was there. -/
def behindLast (forgets : Json → Bool) : List Json → List Json
  | [] => []
  | j :: js =>
    if js.any forgets then behindLast forgets js
    else if forgets j then js
    else j :: js

theorem behindLast_cons (forgets : Json → Bool) (j : Json) (js : List Json) :
    behindLast forgets (j :: js) =
      if js.any forgets then behindLast forgets js
      else if forgets j then js
      else j :: js := rfl

/-- Decoding all values comes to decoding those behind the last that forgets. -/
theorem foldl_behindLast {α : Type} {f : α → Json → α} {forgets : Json → Bool} {zero : α}
    (hforgets : ∀ a j, forgets j = true → f a j = zero) (js : List Json) (a : α) :
    js.foldl f a = (behindLast forgets js).foldl f (if js.any forgets then zero else a) := by
  induction js generalizing a with
  | nil => rfl
  | cons j js ih =>
    rw [behindLast_cons, List.any_cons]
    cases hlater : js.any forgets with
    | true =>
      rw [List.foldl_cons, ih, hlater]
      simp
    | false =>
      cases hj : forgets j with
      -- the first value is the last that forgets
      | true => simp [hforgets a j hj]
      | false => rfl

/-- None of the values behind the last that forgets does. -/
theorem not_forgets_of_mem_behindLast (forgets : Json → Bool) (js : List Json) :
    ¬ ∃ j ∈ behindLast forgets js, forgets j = true := by
  induction js with
  | nil => rintro ⟨j, hj, -⟩; exact nomatch hj
  | cons j js ih =>
    rw [behindLast_cons]
    cases hlater : js.any forgets with
    | true => exact ih
    | false =>
      rw [List.any_eq_false] at hlater
      cases hj : forgets j with
      | true =>
        rintro ⟨j', hmem, hj'⟩
        exact hlater j' hmem hj'
      | false =>
        rintro ⟨j', hmem, hj'⟩
        rcases List.mem_cons.mp hmem with rfl | hmem
        · rw [hj] at hj'
          exact nomatch hj'
        · exact hlater j' hmem hj'

/-- When values decoded over `a` leave `b`, told without decoding. -/
structure Outcome {α : Type} (t : Target α) where
  Leaves : List Json → α → α → Prop
  leaves_iff : ∀ js a b, t.Same (t.run js a) b ↔ Leaves js a b

namespace Outcome

/-- The last value that can be read, if there is one. -/
def scalar {α : Type} [DecidableEq α] (zero : α) (read : Json → Option α) :
    Outcome (Target.scalar zero read) where
  Leaves := fun js a b => ((js.filterMap read).getLast?).getD a = b
  leaves_iff := by
    intro js a b
    have hlast : (Target.scalar zero read).run js a = ((js.filterMap read).getLast?).getD a := by
      induction js generalizing a with
      | nil => rfl
      | cons j js ih =>
        rw [Target.run_cons, ih]
        cases hread : read j with
        | none => simp [Target.scalar, hread]
        | some a' =>
          rw [List.filterMap_cons_some hread, List.getLast?_cons]
          simp [Target.scalar, hread]
    rw [← hlast]
    rfl

def string : Outcome Target.string := scalar "" Json.str?

def bool : Outcome Target.bool := scalar false Json.bool?

def unsupported : Outcome Target.unsupported where
  Leaves := fun _ _ _ => True
  leaves_iff := fun _ _ _ => Iff.rfl

section

variable {α : Type} {t : Target α} (o : Outcome t)

/-- A pointer is nil until there is a value behind the last `null`; what it points
    to is told by the values there. -/
def LeavesPointer (js : List Json) (p q : Option α) : Prop :=
  let start := if js.any Json.isNull then none else p
  match behindLast Json.isNull js, start, q with
  | [], none, none => True
  | later, some a, some b => o.Leaves later a b
  | j :: later, none, some b => o.Leaves (j :: later) t.zero b
  | _, _, _ => False

/-- `*T` -/
def pointer : Outcome t.pointer where
  Leaves := o.LeavesPointer
  leaves_iff := by
    intro js p q
    show t.SamePointer (js.foldl (fun p j => t.decodePointer j p) p) q ↔ _
    have hnull : ∀ (p : Option α) (j : Json), j.isNull = true → t.decodePointer j p = none := by
      intro p j hj
      unfold Target.decodePointer
      rw [hj, if_pos rfl]
    rw [foldl_behindLast hnull]
    have hrest := not_forgets_of_mem_behindLast Json.isNull js
    unfold LeavesPointer
    generalize (if js.any Json.isNull then none else p) = start
    cases hlater : behindLast Json.isNull js with
    | nil =>
      cases start with
      | none => cases q <;> exact Iff.rfl
      | some a =>
        cases q with
        | none => exact Iff.rfl
        | some b => exact o.leaves_iff [] a b
    | cons j later =>
      rw [hlater] at hrest
      have hj : j.isNull = false := by
        cases hj : j.isNull with
        | true => exact absurd ⟨j, List.mem_cons_self, hj⟩ hrest
        | false => rfl
      have hrest' : ¬ ∃ j ∈ later, j.isNull = true := by
        rintro ⟨j', hmem, h⟩
        exact hrest ⟨j', List.mem_cons_of_mem j hmem, h⟩
      -- the first value makes the pointer, if it is nil, and the others go on from there
      have hstep : t.decodePointer j start = some (t.decode j (start.getD t.zero)) := by
        unfold Target.decodePointer
        rw [hj]
        rfl
      rw [List.foldl_cons, hstep, t.foldl_decodePointer_of_not_null hrest']
      cases start with
      | none =>
        cases q with
        | none => exact Iff.rfl
        | some b => exact o.leaves_iff (j :: later) t.zero b
      | some a =>
        cases q with
        | none => exact Iff.rfl
        | some b => exact o.leaves_iff (j :: later) a b

/-- A slice is empty until there is an array behind the last value that empties it.
    The last array gives its length, and each element is told by the items at its
    position. -/
def LeavesSlice (js : List Json) (s s' : GoSlice α) : Prop :=
  let start := if js.any Json.emptiesSlice then .nil else s
  let arrays := (behindLast Json.emptiesSlice js).filterMap Json.items?
  (s'.elems.length =
    match arrays.getLast? with
    | none => start.elems.length
    | some last => last.length) ∧
  ∀ i, i < s'.elems.length →
    o.Leaves (Target.column arrays i) (start.backing t.zero i) (s'.backing t.zero i)

/-- `[]T` -/
def slice : Outcome t.slice where
  Leaves := o.LeavesSlice
  leaves_iff := by
    intro js s s'
    show t.SameSlice (js.foldl (fun s j => t.decodeSlice j s) s) s' ↔ _
    have hempties : ∀ (s : GoSlice α) (j : Json), j.emptiesSlice = true →
        t.decodeSlice j s = .nil := by
      intro s j hj
      unfold Target.decodeSlice
      rw [hj, if_pos rfl]
    rw [foldl_behindLast hempties]
    have hrest := not_forgets_of_mem_behindLast Json.emptiesSlice js
    unfold LeavesSlice Target.SameSlice
    generalize (if js.any Json.emptiesSlice then GoSlice.nil else s) = start
    obtain ⟨hback, hlen⟩ := t.foldl_decodeSlice_of_not_empties hrest start
    rw [hlen]
    simp only [hback]
    constructor
    · rintro ⟨hn, hsame⟩
      exact ⟨hn.symm, fun i hi => (o.leaves_iff _ _ _).mp (hsame i (hn.symm ▸ hi))⟩
    · rintro ⟨hn, hleaves⟩
      exact ⟨hn.symm, fun i hi => (o.leaves_iff _ _ _).mpr (hleaves i (hn.symm ▸ hi))⟩

end

end Outcome

/-! ## Structs -/

/-- What values leave in each of some fields. -/
inductive Outcomes {σ : Type} : List (Field σ) → Type 1 where
  | nil : Outcomes []
  | cons {f : Field σ} {fields : List (Field σ)} (o : Outcome f.target) (later : Outcomes fields) :
    Outcomes (f :: fields)

namespace Outcomes

variable {σ : Type}

def Leaves (values : Field σ → List Json) (s s' : σ) :
    {fields : List (Field σ)} → Outcomes fields → Prop
  | _, .nil => True
  | f :: _, .cons o later => o.Leaves (values f) (f.get s) (f.get s') ∧ later.Leaves values s s'

theorem leaves_iff {fields : List (Field σ)} (os : Outcomes fields)
    (values : Field σ → List Json) (s s' : σ) :
    (∀ f ∈ fields, f.target.Same (f.target.run (values f) (f.get s)) (f.get s')) ↔
      os.Leaves values s s' := by
  induction os with
  | nil => simp [Leaves]
  | cons o later ih =>
    rw [List.forall_mem_cons, ih, o.leaves_iff]
    rfl

/-- A struct, told by its fields -/
def struct (l : Layout σ) (os : Outcomes l.fields) : Outcome l.target where
  Leaves := fun js s s' => os.Leaves (fun f => l.valuesOf f (js.flatMap Json.members)) s s'
  leaves_iff := by
    intro js s s'
    have hfold : l.target.run js s = (js.flatMap Json.members).foldl l.applyMember s := by
      rw [List.foldl_flatMap]
      rfl
    rw [hfold, ← os.leaves_iff]
    apply forall₂_congr
    intro f hf
    rw [l.get_foldl_applyMember hf]

end Outcomes

end GoJson
