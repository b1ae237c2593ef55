import Mathlib.Data.List.Pairwise
import Mathlib.Tactic.MkIffOfInductiveProp

/-!
# Decoding JSON over a value that is already there

What `encoding/json` does with a target that is not empty: a `null` empties a
pointer or a slice and leaves everything else alone, a value of the wrong type
is recorded and skipped, an object changes the fields it names, and an array is
decoded element by element over the slice's backing array, the part behind its
length included.

A `Target` is a type that can be decoded into.  With its decoder it carries when
two values are the same to a reader (`Same`), and when nothing of an old value
survives a sequence of JSON values (`Clean`): `same_iff` says that decoding over
the old value gives what decoding over a zero value gives, exactly then.
-/

namespace GoJson

/-- A JSON value.  The members of an object are in order, with duplicates. -/
inductive Json where
  | null
  | bool (b : Bool)
  | num (text : String)
  | str (s : String)
  | arr (items : List Json)
  | obj (members : List (String × Json))

namespace Json

def isNull : Json → Bool
  | .null => true
  | _ => false

def str? : Json → Option String
  | .str s => some s
  | _ => none

def bool? : Json → Option Bool
  | .bool b => some b
  | _ => none

/-- The members of an object, none for other values. -/
def members : Json → List (String × Json)
  | .obj members => members
  | _ => []

/-- The items of an array that is not empty. -/
def items? : Json → Option (List Json)
  | .arr (j :: js) => some (j :: js)
  | _ => none

/-- A value that empties a slice: `null`, and the array without elements. -/
def emptiesSlice : Json → Bool
  | .null => true
  | .arr [] => true
  | _ => false

end Json

/-- A slice: its elements, and what is behind them in the backing array.  Beyond
    that the array holds zero values. -/
structure GoSlice (α : Type) where
  elems : List α
  spare : List α
  deriving DecidableEq, Repr

namespace GoSlice

variable {α : Type}

/-- `nil`; an empty slice is not told from it. -/
def nil : GoSlice α := ⟨[], []⟩

/-- The element of the backing array at a position. -/
def backing (zero : α) (s : GoSlice α) (i : Nat) : α := ((s.elems ++ s.spare)[i]?).getD zero

/-- The slice without what is behind it. -/
def bare (s : GoSlice α) : GoSlice α := ⟨s.elems, []⟩

end GoSlice

/-- A type `json.Unmarshal` can decode into. -/
structure Target (α : Type) where
  zero : α
  /-- decodes over a value -/
  decode : Json → α → α
  /-- the value decodes without an `UnmarshalTypeError` -/
  accepts : Json → Bool
  /-- a reader cannot tell the two values apart -/
  Same : α → α → Prop
  /-- nothing of the old value survives the JSON values, decoded in order -/
  Clean : List Json → α → Prop
  same_refl : ∀ a, Same a a
  same_iff : ∀ js a, Same (js.foldl (fun a j => decode j a) a)
    (js.foldl (fun a j => decode j a) zero) ↔ Clean js a

namespace Target

variable {α : Type}

/-- Decoding JSON values one after the other. -/
def run (t : Target α) (js : List Json) (a : α) : α := js.foldl (fun a j => t.decode j a) a

@[simp] theorem run_nil (t : Target α) (a : α) : t.run [] a = a := rfl

@[simp] theorem run_cons (t : Target α) (j : Json) (js : List Json) (a : α) :
    t.run (j :: js) a = t.run js (t.decode j a) := rfl

theorem same_run (t : Target α) (js : List Json) (a : α) :
    t.Same (t.run js a) (t.run js t.zero) ↔ t.Clean js a := t.same_iff js a

/-! ## Strings and booleans -/

/-- A target that is replaced by a value of its kind and by nothing else. -/
def scalar [DecidableEq α] (zero : α) (read : Json → Option α) : Target α where
  zero := zero
  decode := fun j a => (read j).getD a
  accepts := fun j => j.isNull || (read j).isSome
  Same := fun a b => a = b
  Clean := fun js a => a = zero ∨ ∃ j ∈ js, (read j).isSome
  same_refl := fun _ => rfl
  same_iff := by
    intro js
    induction js with
    | nil => intro a; simp
    | cons j js ih =>
      intro a
      -- the first value of the right kind replaces the old one, and the rest agree
      cases hread : read j with
      | some b => simp [hread]
      | none =>
        simp only [List.foldl_cons, hread, Option.getD_none, List.mem_cons, exists_eq_or_imp,
          Option.isSome_none, Bool.false_eq_true, false_or]
        exact ih a

/-- `string` -/
def string : Target String := scalar "" Json.str?

/-- `bool` -/
def bool : Target Bool := scalar false Json.bool?

/-- A field that no value can be decoded into, such as a map whose keys are
    structs: only `null` is no error. -/
def unsupported : Target Unit where
  zero := ()
  decode := fun _ a => a
  accepts := Json.isNull
  Same := fun _ _ => True
  Clean := fun _ _ => True
  same_refl := fun _ => trivial
  same_iff := fun _ _ => Iff.rfl

/-! ## Pointers -/

/-- What a pointer's value decodes to: `null` empties it, everything else is
    decoded over what it points to, or over a new zero value. -/
def decodePointer (t : Target α) (j : Json) (p : Option α) : Option α :=
  if j.isNull then none else some (t.decode j (p.getD t.zero))

/-- Two pointers to the same, or to nothing. -/
def SamePointer (t : Target α) : Option α → Option α → Prop
  | none, none => True
  | some a, some b => t.Same a b
  | _, _ => False

/-- Nothing of a pointer survives a `null`; otherwise it has to be empty where no
    value comes, and what it points to has to be clean. -/
def CleanPointer (t : Target α) (js : List Json) (p : Option α) : Prop :=
  (∃ j ∈ js, j.isNull = true) ∨
    ((js = [] → p = none) ∧ (js ≠ [] → t.Clean js (p.getD t.zero)))

private theorem samePointer_refl (t : Target α) (p : Option α) : t.SamePointer p p := by
  cases p with
  | none => trivial
  | some a => exact t.same_refl a

/-- After a `null` nothing is left of the pointer. -/
private theorem foldl_decodePointer_of_null (t : Target α) {js : List Json}
    (h : ∃ j ∈ js, j.isNull = true) (p q : Option α) :
    js.foldl (fun p j => t.decodePointer j p) p = js.foldl (fun p j => t.decodePointer j p) q := by
  induction js generalizing p q with
  | nil => simp at h
  | cons j js ih =>
    rw [List.foldl_cons, List.foldl_cons]
    cases hj : j.isNull with
    | true =>
      have hnone : ∀ p, t.decodePointer j p = none := by
        intro p
        unfold decodePointer
        rw [hj, if_pos rfl]
      rw [hnone, hnone]
    | false =>
      apply ih
      simpa [hj] using h

/-- Without a `null` a pointer that is there is decoded over. -/
theorem foldl_decodePointer_of_not_null (t : Target α) {js : List Json}
    (h : ¬ ∃ j ∈ js, j.isNull = true) (a : α) :
    js.foldl (fun p j => t.decodePointer j p) (some a) = some (t.run js a) := by
  induction js generalizing a with
  | nil => rfl
  | cons j js ih =>
    have hj : j.isNull = false := by
      cases hj : j.isNull with
      | true => exact absurd ⟨j, List.mem_cons_self, hj⟩ h
      | false => rfl
    have hjs : ¬ ∃ j ∈ js, j.isNull = true := by
      rintro ⟨j', hmem, hnull⟩
      exact h ⟨j', List.mem_cons_of_mem j hmem, hnull⟩
    have hstep : t.decodePointer j (some a) = some (t.decode j a) := by
      unfold decodePointer
      rw [hj]
      rfl
    rw [List.foldl_cons, hstep, ih hjs, run_cons]

/-- `*T` -/
def pointer (t : Target α) : Target (Option α) where
  zero := none
  decode := t.decodePointer
  accepts := fun j => j.isNull || t.accepts j
  Same := t.SamePointer
  Clean := t.CleanPointer
  same_refl := t.samePointer_refl
  same_iff := by
    intro js p
    unfold CleanPointer
    -- a `null` on the way forgets the old pointer
    by_cases hnull : ∃ j ∈ js, j.isNull = true
    · rw [t.foldl_decodePointer_of_null hnull p none]
      exact iff_of_true (t.samePointer_refl _) (Or.inl hnull)
    · cases js with
      | nil =>
        cases p with
        | none => exact iff_of_true trivial (Or.inr ⟨fun _ => rfl, fun h => absurd rfl h⟩)
        -- no value comes: an old pointer stays, and a new one stays nil
        | some a =>
          apply iff_of_false id
          rintro (h | ⟨h, _⟩)
          · exact hnull h
          · exact nomatch h rfl
      | cons j js =>
        have hj : j.isNull = false := by
          cases hj : j.isNull with
          | true => exact absurd ⟨j, List.mem_cons_self, hj⟩ hnull
          | false => rfl
        have hjs : ¬ ∃ j ∈ js, j.isNull = true := by
          rintro ⟨j', hmem, h⟩
          exact hnull ⟨j', List.mem_cons_of_mem j hmem, h⟩
        -- the first value makes the pointer, the others are decoded over it
        have hstep : ∀ p, t.decodePointer j p = some (t.decode j (p.getD t.zero)) := by
          intro p
          unfold decodePointer
          rw [hj]
          rfl
        rw [List.foldl_cons, List.foldl_cons, hstep, hstep,
          t.foldl_decodePointer_of_not_null hjs, t.foldl_decodePointer_of_not_null hjs,
          or_iff_right hnull]
        show t.Same (t.run (j :: js) _) (t.run (j :: js) t.zero) ↔ _
        rw [same_run]
        constructor
        · intro h
          exact ⟨nofun, fun _ => h⟩
        · intro h
          exact h.2 nofun

/-- Pointers are the same when a view of what they point to is. -/
theorem samePointer_iff_map_eq {β : Type} {view : α → β} (t : Target α)
    (ht : ∀ a b, t.Same a b ↔ view a = view b) (p q : Option α) :
    t.SamePointer p q ↔ p.map view = q.map view := by
  cases p with
  | none => cases q <;> simp [SamePointer]
  | some a =>
    cases q with
    | none => simp [SamePointer]
    | some b => simp [SamePointer, ht]

/-! ## Slices -/

/-- The items of an array, decoded over a backing array; and what is left of the
    backing array behind them. -/
def decodeItems (t : Target α) : List Json → List α → List α × List α
  | [], backing => ([], backing)
  | j :: js, [] =>
    let (elems, spare) := t.decodeItems js []
    (t.decode j t.zero :: elems, spare)
  | j :: js, a :: backing =>
    let (elems, spare) := t.decodeItems js backing
    (t.decode j a :: elems, spare)

/-- What a slice's value decodes to. -/
def decodeSlice (t : Target α) (j : Json) (s : GoSlice α) : GoSlice α :=
  if j.emptiesSlice then .nil
  else
    match j.items? with
    | none => s
    | some js =>
      let (elems, spare) := t.decodeItems js (s.elems ++ s.spare)
      ⟨elems, spare⟩

/-- Two slices with the same elements. -/
def SameSlice (t : Target α) (s s' : GoSlice α) : Prop :=
  s.elems.length = s'.elems.length ∧
    ∀ i, i < s.elems.length → t.Same (s.backing t.zero i) (s'.backing t.zero i)

/-- The items at one position of some arrays. -/
def column (arrays : List (List Json)) (i : Nat) : List Json := arrays.filterMap (fun js => js[i]?)

/-- Nothing of a slice survives a value that empties it; otherwise it has to be
    empty where no array comes, and below the length of the last array the
    element of the backing array at each position has to be clean. -/
def CleanSlice (t : Target α) (js : List Json) (s : GoSlice α) : Prop :=
  (∃ j ∈ js, j.emptiesSlice = true) ∨
    ((js.filterMap Json.items? = [] → s.elems = []) ∧
      ∀ last, (js.filterMap Json.items?).getLast? = some last → ∀ i, i < last.length →
        t.Clean (column (js.filterMap Json.items?) i) (s.backing t.zero i))

private theorem length_decodeItems (t : Target α) (js : List Json) (backing : List α) :
    (t.decodeItems js backing).1.length = js.length := by
  induction js generalizing backing with
  | nil => rfl
  | cons j js ih =>
    cases backing with
    | nil => simp only [decodeItems, List.length_cons, ih]
    | cons a backing => simp only [decodeItems, List.length_cons, ih]

/-- Every position of the backing array is decoded over, or as before. -/
private theorem getElem?_decodeItems (t : Target α) (js : List Json) (backing : List α) (i : Nat) :
    (((t.decodeItems js backing).1 ++ (t.decodeItems js backing).2)[i]?).getD t.zero =
      t.run (js[i]?).toList ((backing[i]?).getD t.zero) := by
  induction js generalizing backing i with
  | nil => simp [decodeItems]
  | cons j js ih =>
    cases backing with
    | nil =>
      cases i with
      | zero => simp [decodeItems]
      | succ i => simpa [decodeItems] using ih [] i
    | cons a backing =>
      cases i with
      | zero => simp [decodeItems]
      | succ i => simpa [decodeItems] using ih backing i

/-- An element stays where it is in a slice when the value is an array that is long
    enough and whose item there leaves it alone, or no array at all. -/
theorem getElem?_decodeSlice (t : Target α) {j : Json} {s : GoSlice α} {k : Nat} {a : α}
    (h : s.elems[k]? = some a) (hempties : j.emptiesSlice = false)
    (hitems : ∀ js, j.items? = some js → ∃ item, js[k]? = some item ∧ t.decode item a = a) :
    (t.decodeSlice j s).elems[k]? = some a := by
  unfold decodeSlice
  rw [if_neg (by rw [hempties]; exact Bool.false_ne_true)]
  cases hjs : j.items? with
  | none => exact h
  | some js =>
    obtain ⟨item, hitem, hdecode⟩ := hitems js hjs
    obtain ⟨hlt, -⟩ := List.getElem?_eq_some_iff.mp hitem
    have hbacking : (s.elems ++ s.spare)[k]? = some a := by
      rw [List.getElem?_append_left (List.getElem?_eq_some_iff.mp h).1]
      exact h
    have hrun := t.getElem?_decodeItems js (s.elems ++ s.spare) k
    rw [← t.length_decodeItems js (s.elems ++ s.spare)] at hlt
    rw [List.getElem?_append_left hlt, List.getElem?_eq_getElem hlt, hitem, hbacking] at hrun
    show (t.decodeItems js (s.elems ++ s.spare)).1[k]? = some a
    rw [List.getElem?_eq_getElem hlt]
    exact congrArg some (hrun.trans hdecode)

/-- After a value that empties it nothing is left of the slice. -/
private theorem foldl_decodeSlice_of_empties (t : Target α) {js : List Json}
    (h : ∃ j ∈ js, j.emptiesSlice = true) (s s' : GoSlice α) :
    js.foldl (fun s j => t.decodeSlice j s) s = js.foldl (fun s j => t.decodeSlice j s) s' := by
  induction js generalizing s s' with
  | nil => simp at h
  | cons j js ih =>
    rw [List.foldl_cons, List.foldl_cons]
    cases hj : j.emptiesSlice with
    | true =>
      have hnil : ∀ s, t.decodeSlice j s = .nil := by
        intro s
        unfold decodeSlice
        rw [hj, if_pos rfl]
      rw [hnil, hnil]
    | false =>
      apply ih
      simpa [hj] using h

/-- One value that does not empty the slice. -/
private theorem decodeSlice_of_not_empties (t : Target α) {j : Json} (hj : j.emptiesSlice = false)
    (s : GoSlice α) :
    (j.items? = none → t.decodeSlice j s = s) ∧
      (∀ js, j.items? = some js → (t.decodeSlice j s).elems.length = js.length ∧
        ∀ i, (t.decodeSlice j s).backing t.zero i =
          t.run (js[i]?).toList (s.backing t.zero i)) := by
  unfold decodeSlice
  rw [hj, if_neg (by decide)]
  constructor
  · intro hitems
    rw [hitems]
  · intro js hitems
    rw [hitems]
    exact ⟨t.length_decodeItems js _, fun i => t.getElem?_decodeItems js _ i⟩

/-- Values that do not empty the slice decode over the positions of its backing
    array, and the last array among them gives its length. -/
theorem foldl_decodeSlice_of_not_empties (t : Target α) {js : List Json}
    (h : ¬ ∃ j ∈ js, j.emptiesSlice = true) (s : GoSlice α) :
    (∀ i, (js.foldl (fun s j => t.decodeSlice j s) s).backing t.zero i =
        t.run (column (js.filterMap Json.items?) i) (s.backing t.zero i)) ∧
      (js.foldl (fun s j => t.decodeSlice j s) s).elems.length =
        match (js.filterMap Json.items?).getLast? with
        | none => s.elems.length
        | some last => last.length := by
  induction js generalizing s with
  | nil => exact ⟨fun _ => rfl, rfl⟩
  | cons j js ih =>
    have hj : j.emptiesSlice = false := by
      cases hj : j.emptiesSlice with
      | true => exact absurd ⟨j, List.mem_cons_self, hj⟩ h
      | false => rfl
    have hjs : ¬ ∃ j ∈ js, j.emptiesSlice = true := by
      rintro ⟨j', hmem, he⟩
      exact h ⟨j', List.mem_cons_of_mem j hmem, he⟩
    obtain ⟨hnone, hsome⟩ := t.decodeSlice_of_not_empties hj s
    obtain ⟨hback, hlen⟩ := ih hjs (t.decodeSlice j s)
    rw [List.foldl_cons]
    cases hitems : j.items? with
    -- a value of another kind is skipped
    | none =>
      rw [hnone hitems] at hback hlen
      rw [hnone hitems, List.filterMap_cons_none hitems]
      exact ⟨hback, hlen⟩
    | some items =>
      obtain ⟨hlength, hbacking⟩ := hsome items hitems
      rw [List.filterMap_cons_some hitems]
      constructor
      · intro i
        rw [hback, hbacking]
        unfold column
        -- positions behind this array keep what they have
        cases hi : items[i]? with
        | none => simp only [List.filterMap_cons, hi, Option.toList_none, run_nil]
        | some item =>
          simp only [List.filterMap_cons, hi, Option.toList_some, run_cons, run_nil]
      · rw [hlen]
        cases hlast : (js.filterMap Json.items?).getLast? with
        | none =>
          rw [List.getLast?_eq_none_iff] at hlast
          rw [hlast]
          exact hlength
        | some last =>
          have hne : js.filterMap Json.items? ≠ [] := by
            intro hnil
            rw [hnil] at hlast
            exact nomatch hlast
          rw [List.getLast?_cons_of_ne_nil hne, hlast]

/-- `[]T` -/
def slice (t : Target α) : Target (GoSlice α) where
  zero := .nil
  decode := t.decodeSlice
  accepts := fun
    | .null => true
    | .arr js => js.all t.accepts
    | _ => false
  Same := t.SameSlice
  Clean := t.CleanSlice
  same_refl := fun _ => ⟨rfl, fun _ _ => t.same_refl _⟩
  same_iff := by
    intro js s
    unfold CleanSlice
    -- an emptying value on the way also forgets the backing array
    by_cases hempties : ∃ j ∈ js, j.emptiesSlice = true
    · rw [t.foldl_decodeSlice_of_empties hempties s .nil]
      exact iff_of_true ⟨rfl, fun _ _ => t.same_refl _⟩ (Or.inl hempties)
    · obtain ⟨hback, hlen⟩ := t.foldl_decodeSlice_of_not_empties hempties s
      obtain ⟨hback', hlen'⟩ := t.foldl_decodeSlice_of_not_empties hempties .nil
      -- an empty slice has zero values at every position
      have hzero : ∀ i, GoSlice.backing t.zero GoSlice.nil i = t.zero := fun _ => rfl
      rw [or_iff_right hempties]
      unfold SameSlice
      simp only [hlen, hlen', hback, hback', hzero, same_run]
      cases hlast : (js.filterMap Json.items?).getLast? with
      | none =>
        -- no array: the old elements stay
        have hnil : js.filterMap Json.items? = [] := List.getLast?_eq_none_iff.mp hlast
        simp only [hnil, forall_const, reduceCtorEq, false_implies, and_true]
        constructor
        · intro h
          exact List.length_eq_zero_iff.mp h.1
        · intro h
          rw [h]
          exact ⟨rfl, fun i hi => absurd hi (Nat.not_lt_zero i)⟩
      | some last =>
        have hne : js.filterMap Json.items? ≠ [] := by
          intro hnil
          rw [hnil] at hlast
          exact nomatch hlast
        constructor
        · intro h
          refine ⟨fun hnil => absurd hnil hne, ?_⟩
          intro last' heq i hi
          obtain rfl := Option.some.inj heq
          exact h.2 i hi
        · intro h
          exact ⟨rfl, fun i hi => h.2 last rfl i hi⟩

/-- Two slices of values without hidden parts are the same when their elements are. -/
theorem sameSlice_iff_bare_eq (t : Target α) (ht : ∀ a b, t.Same a b ↔ a = b)
    (s s' : GoSlice α) : t.SameSlice s s' ↔ s.bare = s'.bare := by
  have hget : ∀ (s : GoSlice α) i (hi : i < s.elems.length), s.backing t.zero i = s.elems[i] := by
    intro s i hi
    unfold GoSlice.backing
    rw [List.getElem?_append_left hi, List.getElem?_eq_getElem hi, Option.getD_some]
  unfold SameSlice GoSlice.bare
  rw [GoSlice.mk.injEq]
  constructor
  · rintro ⟨hlen, hsame⟩
    refine ⟨List.ext_getElem hlen ?_, rfl⟩
    intro i hi hi'
    rw [← hget s i hi, ← hget s' i hi']
    exact (ht _ _).mp (hsame i hi)
  · rintro ⟨heq, -⟩
    refine ⟨by rw [heq], ?_⟩
    intro i hi
    have hi' : i < s'.elems.length := by rwa [← heq]
    rw [ht, hget s i hi, hget s' i hi']
    simp only [heq]

end Target

/-! ## Structs -/

/-- A field of a struct, under its JSON name. -/
structure Field (σ : Type) where
  name : String
  {type : Type}
  target : Target type
  get : σ → type
  set : type → σ → σ

/-- The name with letters that differ in case only made equal: ASCII letters, and
    the long s and the Kelvin sign, which Unicode folds to them. -/
def foldName (s : String) : List Char :=
  s.toList.map fun c =>
    if c = '\u017F' then 'S' else if c = '\u212A' then 'K' else c.toUpper

namespace Field

variable {σ : Type}

/-- Two fields that can be told apart, and written independently. -/
@[mk_iff]
structure Apart (f g : Field σ) : Prop where
  name : f.name ≠ g.name
  left : ∀ b s, g.get (f.set b s) = g.get s
  right : ∀ b s, f.get (g.set b s) = f.get s

instance : Std.Symm (@Field.Apart σ) where
  symm _ _ h := ⟨fun he => h.name he.symm, h.right, h.left⟩

end Field

/-- The fields of a struct that JSON can name. -/
structure Layout (σ : Type) where
  zero : σ
  fields : List (Field σ)
  apart : fields.Pairwise Field.Apart
  get_set : ∀ f ∈ fields, ∀ b s, f.get (f.set b s) = b
  get_zero : ∀ f ∈ fields, f.get zero = f.target.zero

namespace Layout

variable {σ : Type} (l : Layout σ)

/-- The field a member's name stands for: the one of that name, or else the first
    whose name differs in case only. -/
def lookup (key : String) : Option (Field σ) :=
  (l.fields.find? (fun f => f.name == key)).or
    (l.fields.find? (fun f => foldName f.name == foldName key))

/-- A member is decoded over the field it names; other members are skipped. -/
def applyMember (s : σ) (m : String × Json) : σ :=
  match l.lookup m.1 with
  | none => s
  | some f => f.set (f.target.decode m.2 (f.get s)) s

/-- The values the members give to a field. -/
def valuesOf (f : Field σ) (members : List (String × Json)) : List Json :=
  members.filterMap fun m => if (l.lookup m.1).map Field.name = some f.name then some m.2 else none

theorem mem_of_lookup {key : String} {f : Field σ} (h : l.lookup key = some f) : f ∈ l.fields := by
  unfold lookup at h
  rcases Option.or_eq_some_iff.mp h with h | ⟨-, h⟩ <;> exact List.mem_of_find?_eq_some h

/-- Two fields of the struct are one field, or are apart. -/
theorem eq_or_apart {f g : Field σ} (hf : f ∈ l.fields) (hg : g ∈ l.fields) :
    f = g ∨ f.Apart g := by
  by_cases h : f = g
  · exact Or.inl h
  · exact Or.inr (l.apart.forall hf hg h)

/-- What a member does to one field. -/
theorem get_applyMember {f : Field σ} (hf : f ∈ l.fields) (s : σ) (m : String × Json) :
    f.get (l.applyMember s m) = f.target.run (l.valuesOf f [m]) (f.get s) := by
  unfold applyMember valuesOf
  cases hlook : l.lookup m.1 with
  | none => simp [hlook]
  | some g =>
    have hg := l.mem_of_lookup hlook
    -- the member names this very field, or one that is independent of it
    rcases l.eq_or_apart hf hg with rfl | hap
    · simp [hlook, l.get_set f hf]
    · have hne : g.name ≠ f.name := fun he => hap.name he.symm
      simp [hlook, hne, hap.right]

/-- A member keeps what holds of a field when the values it gives to that field do. -/
theorem applyMember_keeps {f : Field σ} (hf : f ∈ l.fields) {q : f.type → Prop}
    {m : String × Json}
    (hvalue : (l.lookup m.1).map Field.name = some f.name → ∀ a, q a → q (f.target.decode m.2 a))
    {s : σ} (h : q (f.get s)) : q (f.get (l.applyMember s m)) := by
  rw [l.get_applyMember hf]
  unfold valuesOf
  by_cases hname : (l.lookup m.1).map Field.name = some f.name
  · simp only [List.filterMap_cons, if_pos hname, List.filterMap_nil]
    exact hvalue hname _ h
  · simp only [List.filterMap_cons, if_neg hname, List.filterMap_nil]
    exact h

/-- Decoding the members decodes each field over its own values. -/
theorem get_foldl_applyMember {f : Field σ} (hf : f ∈ l.fields)
    (members : List (String × Json)) (s : σ) :
    f.get (members.foldl l.applyMember s) = f.target.run (l.valuesOf f members) (f.get s) := by
  induction members generalizing s with
  | nil => rfl
  | cons m members ih =>
    have hcons : l.valuesOf f (m :: members) = l.valuesOf f [m] ++ l.valuesOf f members := by
      unfold valuesOf
      rw [← List.filterMap_append, List.singleton_append]
    rw [List.foldl_cons, ih, l.get_applyMember hf, hcons]
    unfold Target.run
    rw [List.foldl_append]

/-- A struct -/
def target : Target σ where
  zero := l.zero
  decode := fun j s => j.members.foldl l.applyMember s
  accepts := fun
    | .null => true
    | .obj members => members.all fun m =>
        match l.lookup m.1 with
        | none => true
        | some f => f.target.accepts m.2
    | _ => false
  Same := fun s s' => ∀ f ∈ l.fields, f.target.Same (f.get s) (f.get s')
  Clean := fun js s => ∀ f ∈ l.fields,
    f.target.Clean (l.valuesOf f (js.flatMap Json.members)) (f.get s)
  same_refl := fun s f _ => f.target.same_refl (f.get s)
  same_iff := by
    intro js s
    -- several objects are decoded like one with all their members
    have hfold : ∀ s, js.foldl (fun s j => j.members.foldl l.applyMember s) s =
        (js.flatMap Json.members).foldl l.applyMember s := by
      intro s
      rw [List.foldl_flatMap]
    apply forall₂_congr
    intro f hf
    rw [hfold, hfold, l.get_foldl_applyMember hf, l.get_foldl_applyMember hf, l.get_zero f hf,
      Target.same_run]

/-! ## One write at a time -/

/-- The writes of a value decoded over a pointer to a struct: the pointer is emptied; or
    it is filled if it is nil, and then the members are decoded one after the other. -/
def pointerWrites (j : Json) : List (Option σ → Option σ) :=
  if j.isNull then [fun _ => none]
  else (fun p => some (p.getD l.zero)) :: j.members.map fun m p => p.map fun s => l.applyMember s m

theorem foldl_pointerWrites (j : Json) (p : Option σ) :
    (l.pointerWrites j).foldl (fun p write => write p) p = l.target.pointer.decode j p := by
  show _ = l.target.decodePointer j p
  unfold pointerWrites Target.decodePointer
  cases j.isNull with
  | true => rfl
  | false =>
    have hmembers : ∀ (members : List (String × Json)) (s : σ),
        members.foldl (fun p m => p.map fun s => l.applyMember s m) (some s) =
          some (members.foldl l.applyMember s) := by
      intro members
      induction members with
      | nil => exact fun _ => rfl
      | cons m members ih => exact fun s => ih (l.applyMember s m)
    simp only [Bool.false_eq_true, if_false, List.foldl_cons, List.foldl_map]
    exact hmembers j.members (p.getD l.zero)

/-- Each of the writes keeps what holds of the struct when the members do, and none of
    them empties the pointer. -/
theorem pointerWrites_keep {p : σ → Prop} {j : Json} (hnull : j.isNull = false)
    (hmembers : ∀ m ∈ j.members, ∀ s, p s → p (l.applyMember s m)) {write : Option σ → Option σ}
    (hwrite : write ∈ l.pointerWrites j) {s : σ} (h : p s) :
    ∃ s', write (some s) = some s' ∧ p s' := by
  unfold pointerWrites at hwrite
  rw [if_neg (by rw [hnull]; exact Bool.false_ne_true), List.mem_cons, List.mem_map] at hwrite
  obtain rfl | ⟨m, hm, rfl⟩ := hwrite
  · exact ⟨s, rfl, h⟩
  · exact ⟨l.applyMember s m, rfl, hmembers m hm s h⟩

end Layout

end GoJson
