import Mathlib.Algebra.Ring.Nat
import Mathlib.Data.List.Basic

/-!
# Cursors over buffers

A buffer of a fixed size that is written, or read, field by field from its front to
its end; and the bytes of a number, in either order.  An access outside the buffer
is `none`.
-/

namespace Cursor

/-! ## Numbers in bytes -/

/-- The `width` lowest bytes of a number, the lowest first. -/
def littleBytes : Nat → Nat → List UInt8
  | 0, _ => []
  | width + 1, n => UInt8.ofNat n :: littleBytes width (n / 256)

/-- The number that bytes make up, the lowest first. -/
def littleValue : List UInt8 → Nat
  | [] => 0
  | b :: bytes => b.toNat + 256 * littleValue bytes

/-- The `width` lowest bytes of a number, the highest first. -/
def bigBytes (width n : Nat) : List UInt8 := (littleBytes width n).reverse

/-- The number that bytes make up, the highest first. -/
def bigValue (bytes : List UInt8) : Nat := littleValue bytes.reverse

@[simp]
theorem length_littleBytes (width n : Nat) : (littleBytes width n).length = width := by
  induction width generalizing n with
  | zero => rfl
  | succ width ih => rw [littleBytes, List.length_cons, ih]

@[simp]
theorem length_bigBytes (width n : Nat) : (bigBytes width n).length = width := by
  rw [bigBytes, List.length_reverse, length_littleBytes]

theorem littleValue_littleBytes {width n : Nat} (h : n < 256 ^ width) :
    littleValue (littleBytes width n) = n := by
  induction width generalizing n with
  | zero =>
    have hzero : n = 0 := by omega
    rw [hzero]
    rfl
  | succ width ih =>
    have hrest : n / 256 < 256 ^ width := by
      rw [Nat.pow_succ] at h
      omega
    have hlow : (UInt8.ofNat n).toNat = n % 256 := UInt8.toNat_ofNat'
    rw [littleBytes, littleValue, ih hrest, hlow]
    omega

theorem bigValue_bigBytes {width n : Nat} (h : n < 256 ^ width) :
    bigValue (bigBytes width n) = n := by
  rw [bigValue, bigBytes, List.reverse_reverse, littleValue_littleBytes h]

/-! ## Writing -/

variable {α : Type}

/-- A buffer and the place in it where the next field starts. -/
structure Writer (α : Type) where
  cells : List α
  pos : Nat

/-- Takes the next `n` cells, and copies as much of `src` there as there is and fits. -/
def Writer.put (b : Writer α) (n : Nat) (src : List α) : Option (Writer α) :=
  if b.pos + n ≤ b.cells.length then
    let field := src.take n
    some ⟨b.cells.take b.pos ++ field ++ b.cells.drop (b.pos + field.length), b.pos + n⟩
  else none

/-- Writes fields, each with its size, one behind the other. -/
def Writer.putAll (b : Writer α) (fields : List (Nat × List α)) : Option (Writer α) :=
  fields.foldlM (fun b field => b.put field.1 field.2) b

/-- The `n` cells of a field that `src` was copied to. -/
def padded (blank : α) (n : Nat) (src : List α) : List α :=
  src.take n ++ List.replicate (n - src.length) blank

/-- A buffer that has been written up to the cursor, with `room` blank cells behind it. -/
def Writer.filled (blank : α) (written : List α) (room : Nat) : Writer α :=
  ⟨written ++ List.replicate room blank, written.length⟩

@[simp]
theorem length_padded (blank : α) (n : Nat) (src : List α) : (padded blank n src).length = n := by
  rw [padded, List.length_append, List.length_take, List.length_replicate]
  omega

theorem padded_of_length_eq (blank : α) {n : Nat} {src : List α} (h : src.length = n) :
    padded blank n src = src := by
  rw [padded, h, Nat.sub_self, List.take_of_length_le (Nat.le_of_eq h)]
  exact List.append_nil src

/-- A field that fits into the room is written in front of the rest of it. -/
theorem Writer.put_filled (blank : α) (written src : List α) {room n : Nat} (h : n ≤ room) :
    (filled blank written room).put n src =
      some (filled blank (written ++ padded blank n src) (room - n)) := by
  have hlen : (src.take n).length = min n src.length := List.length_take
  have hrest : n - src.length + (room - n) = room - min n src.length := by omega
  unfold put filled
  rw [if_pos (by simp only [List.length_append, List.length_replicate]; omega)]
  simp only [List.take_left', hlen, List.drop_append, List.length_append, length_padded]
  rw [List.drop_eq_nil_of_le (by omega), Nat.add_sub_cancel_left, List.drop_replicate,
    List.nil_append, padded, List.append_assoc, List.append_assoc, List.append_assoc,
    List.replicate_append_replicate, hrest]

/-- Fields that fit into the room together are all written. -/
theorem Writer.putAll_filled (blank : α) (fields : List (Nat × List α)) (written : List α)
    {room : Nat} (h : (fields.map Prod.fst).sum ≤ room) :
    (filled blank written room).putAll fields =
      some (filled blank (written ++ fields.flatMap fun field => padded blank field.1 field.2)
        (room - (fields.map Prod.fst).sum)) := by
  unfold putAll
  induction fields generalizing written room with
  | nil => simp
  | cons field fields ih =>
    rw [List.map_cons, List.sum_cons] at h
    rw [List.foldlM_cons, put_filled blank written field.2 (by omega), Option.bind_eq_bind,
      Option.bind_some, ih _ (by omega), List.flatMap_cons, List.append_assoc, List.map_cons,
      List.sum_cons, Nat.sub_sub]

/-! ## Reading -/

/-- `n` cells of a buffer. -/
def slice (cells : List α) (pos n : Nat) : List α := (cells.drop pos).take n

structure Reader (α : Type) where
  cells : List α
  pos : Nat

/-- The next `n` cells. -/
def Reader.next (b : Reader α) (n : Nat) : Option (List α × Reader α) :=
  if b.pos + n ≤ b.cells.length then some (slice b.cells b.pos n, ⟨b.cells, b.pos + n⟩) else none

/-- The next cell. -/
def Reader.read (b : Reader α) : Option (α × Reader α) :=
  if h : b.pos < b.cells.length then some (b.cells[b.pos], ⟨b.cells, b.pos + 1⟩) else none

theorem Reader.next_of_le {cells : List α} {pos n : Nat} (h : pos + n ≤ cells.length) :
    Reader.next ⟨cells, pos⟩ n = some (slice cells pos n, ⟨cells, pos + n⟩) := if_pos h

theorem Reader.read_of_lt {cells : List α} {pos : Nat} (h : pos < cells.length) :
    Reader.read ⟨cells, pos⟩ = some (cells[pos], ⟨cells, pos + 1⟩) := dif_pos h

/-- What comes after a read that finds its cells. -/
theorem Reader.next_bind {β : Type} {cells : List α} {pos n : Nat} (h : pos + n ≤ cells.length)
    (after : List α × Reader α → Option β) :
    (Reader.next ⟨cells, pos⟩ n >>= after) = after (slice cells pos n, ⟨cells, pos + n⟩) := by
  rw [next_of_le h]
  rfl

theorem Reader.read_bind {β : Type} {cells : List α} {pos : Nat} (h : pos < cells.length)
    (after : α × Reader α → Option β) :
    (Reader.read ⟨cells, pos⟩ >>= after) = after (cells[pos], ⟨cells, pos + 1⟩) := by
  rw [read_of_lt h]
  rfl

/-- Cells read one by one are a slice. -/
theorem slice_succ {cells : List α} {pos : Nat} (h : pos < cells.length) (n : Nat) :
    slice cells pos (n + 1) = cells[pos] :: slice cells (pos + 1) n := by
  rw [slice, List.drop_eq_getElem_cons h, List.take_succ_cons, slice]

theorem slice_zero (cells : List α) (pos : Nat) : slice cells pos 0 = [] := List.take_zero

/-- A field is read where it was written. -/
theorem slice_field (before field after : List α) :
    slice (before ++ (field ++ after)) before.length field.length = field := by
  rw [slice, List.drop_left, List.take_left]

/-- What is behind a field does not matter to it. -/
theorem slice_take {pos n k : Nat} (h : pos + n ≤ k) (cells : List α) :
    slice (cells.take k) pos n = slice cells pos n := by
  rw [slice, slice, List.drop_take, List.take_take, Nat.min_eq_left (by omega)]

end Cursor
