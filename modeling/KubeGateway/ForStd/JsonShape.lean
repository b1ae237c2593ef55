import KubeGateway.ForStd.JsonTarget

/-!
# What a Go type keeps of a JSON value

A program that decodes JSON into a struct and encodes the struct again keeps the
members that the struct declares, and no others.  A `Shape` says what a type
declares; `Shape.keep` is the round trip.

Two texts denote the same JSON value if they agree on every path into it: the order
of members does not matter, of members with one name the last counts, and a number
is what its text stands for.  `value_keep_iff` says that a value survives the round
trip exactly if every member that counts, at any depth, is declared.
-/

namespace GoJson

/-- The root of a JSON value. -/
inductive Root (ν : Type) where
  | null
  | bool (b : Bool)
  | num (n : ν)
  | str (s : String)
  | arr
  | obj
  deriving DecidableEq, Repr

/-- One step into a JSON value. -/
inductive Step where
  | item (i : Nat)
  | member (name : String)
  deriving DecidableEq, Repr

/-- The value of the member with a name; of several the last. -/
def memberOf (members : List (String × Json)) (name : String) : Option Json :=
  members.reverse.lookup name

namespace Json

variable {ν : Type} (number : String → ν)

def root : Json → Root ν
  | null => .null
  | bool b => .bool b
  | num text => .num (number text)
  | str s => .str s
  | arr _ => .arr
  | obj _ => .obj

/-- What a JSON value denotes: the root of what is at the end of each path. -/
def value : Json → List Step → Option (Root ν)
  | j, [] => some (j.root number)
  | arr items, .item i :: path => (items[i]?).bind fun j => j.value path
  | obj members, .member name :: path => (memberOf members name).bind fun j => j.value path
  | _, _ :: _ => none

end Json

/-- What a Go type declares. -/
inductive Shape where
  /-- everything, such as a string, or a map of any values -/
  | whole
  | list (item : Shape)
  | struct (declares : String → Bool) (member : String → Shape)
  /-- one type or another, as the value has it -/
  | union (variant : Json → Shape)

/-- What is left of a JSON value that is decoded and encoded again. -/
def Shape.keep : Shape → Json → Json
  | .whole, j => j
  | .list item, .arr items => .arr (items.map item.keep)
  | .struct declares member, .obj members =>
    .obj (members.filterMap fun m =>
      if declares m.1 then some (m.1, (member m.1).keep m.2) else none)
  | .union variant, j => (variant j).keep j
  -- nothing is decoded
  | .list _, _ => .arr []
  | .struct _ _, _ => .obj []

/-- Every member that counts is declared. -/
def Shape.Declares : Shape → Json → Prop
  | .whole, _ => True
  | .list item, .arr items => ∀ j ∈ items, item.Declares j
  | .struct declares member, .obj members =>
    ∀ name j, memberOf members name = some j → declares name = true ∧ (member name).Declares j
  | .union variant, j => (variant j).Declares j
  | .list _, _ | .struct _ _, _ => False

/-! ## Values -/

section

variable {ν : Type} {number : String → ν}

/-- Two values below a step agree on every path if both are missing or they are the same. -/
private theorem bind_value_eq_iff (a b : Option Json) :
    (∀ path, (a.bind fun j => j.value number path) = b.bind fun j => j.value number path) ↔
      a.map (Json.value number) = b.map (Json.value number) := by
  cases a with
  | none =>
    cases b with
    | none => simp
    | some b =>
      apply iff_of_false
      · exact fun h => nomatch h []
      · exact nofun
  | some a =>
    cases b with
    | none =>
      apply iff_of_false
      · exact fun h => nomatch h []
      · exact nofun
    | some b => simp [funext_iff]

theorem value_arr_eq_iff {items items' : List Json} :
    (Json.arr items).value number = (Json.arr items').value number ↔
      ∀ i : Nat, (items[i]?).map (Json.value number) = (items'[i]?).map (Json.value number) := by
  constructor
  · intro h i
    rw [← bind_value_eq_iff]
    exact fun path => congrFun h (.item i :: path)
  · intro h
    funext path
    cases path with
    | nil => rfl
    | cons step path =>
      cases step with
      | item i => exact (bind_value_eq_iff _ _).mpr (h i) path
      | member name => rfl

theorem value_obj_eq_iff {members members' : List (String × Json)} :
    (Json.obj members).value number = (Json.obj members').value number ↔
      ∀ name, (memberOf members name).map (Json.value number) =
        (memberOf members' name).map (Json.value number) := by
  constructor
  · intro h name
    rw [← bind_value_eq_iff]
    exact fun path => congrFun h (.member name :: path)
  · intro h
    funext path
    cases path with
    | nil => rfl
    | cons step path =>
      cases step with
      | item i => rfl
      | member name => exact (bind_value_eq_iff _ _).mpr (h name) path

end

/-! ## The round trip -/

private theorem lookup_filterMap (declares : String → Bool) (keep : String → Json → Json)
    (members : List (String × Json)) (name : String) :
    (members.filterMap fun m =>
      if declares m.1 then some (m.1, keep m.1 m.2) else none).lookup name =
      if declares name then (members.lookup name).map (keep name) else none := by
  induction members with
  | nil => simp
  | cons m members ih =>
    obtain ⟨name', j⟩ := m
    by_cases hname : name = name'
    · subst hname
      cases hdeclares : declares name with
      | true => simp [hdeclares]
      | false => simpa [hdeclares] using ih
    · have hne : (name == name') = false := beq_false_of_ne hname
      rw [List.lookup_cons, hne, ← ih]
      cases hdeclares : declares name' with
      | true => simp [hdeclares, List.lookup_cons, hne]
      | false => simp [hdeclares]

/-- The round trip keeps the members that are declared. -/
theorem memberOf_filterMap (declares : String → Bool) (keep : String → Json → Json)
    (members : List (String × Json)) (name : String) :
    memberOf (members.filterMap fun m => if declares m.1 then some (m.1, keep m.1 m.2) else none)
        name =
      if declares name then (memberOf members name).map (keep name) else none := by
  unfold memberOf
  rw [← List.filterMap_reverse, lookup_filterMap]

/-- A value survives the round trip if and only if every member that counts is declared. -/
theorem Shape.value_keep_iff {ν : Type} (number : String → ν) (shape : Shape) (j : Json) :
    (shape.keep j).value number = j.value number ↔ shape.Declares j := by
  -- by the declarations of the type, as both sides recurse
  induction shape generalizing j with
  | whole => exact iff_of_true rfl trivial
  | union variant ih => exact ih j j
  | list item ih =>
    cases j with
    | arr items =>
      simp only [Shape.keep, Shape.Declares, value_arr_eq_iff, List.getElem?_map, Option.map_map]
      constructor
      · intro h j hmem
        obtain ⟨i, hi⟩ := List.getElem?_of_mem hmem
        have hvalue := h i
        rw [hi, Option.map_some, Option.map_some, Option.some.injEq] at hvalue
        exact (ih j).mp hvalue
      · intro h i
        cases hi : items[i]? with
        | none => rfl
        | some j =>
          have hvalue := (ih j).mpr (h j (List.mem_of_getElem? hi))
          exact congrArg some hvalue
    | null | bool | num | str | obj => exact iff_of_false (fun h => nomatch congrFun h []) id
  | struct declares member ih =>
    cases j with
    | obj members =>
      simp only [Shape.keep, Shape.Declares, value_obj_eq_iff,
        memberOf_filterMap declares fun name => (member name).keep]
      apply forall_congr'
      intro name
      cases memberOf members name with
      | none => simp
      | some j =>
        cases declares name with
        | true => simp [ih name j]
        | false => simp
    | null | bool | num | str | arr => exact iff_of_false (fun h => nomatch congrFun h []) id

end GoJson
