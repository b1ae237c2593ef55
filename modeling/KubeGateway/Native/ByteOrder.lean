import Mathlib.Tactic.IntervalCases

/-!
# Byte order of the eBPF programs

`bpf2go` compiles `mirrors.c` once for each byte order (`mirrors_bpfel.o`,
`mirrors_bpfeb.o`), so the conversions of `bpf_endian.h` are functions of the
build's byte order.  `storeLong` and `storeShort` give the bytes a value leaves
in memory, in address order, which is how the Go side reads the answer of the
`getsockopt` hook.
-/

namespace KubeGateway.Ebpf

/-- The byte order an object file was built for. -/
inductive ByteOrder where
  | little
  | big
  deriving DecidableEq, Repr

/-- Reverse the four bytes of a 32-bit value. -/
def swapLong (x : BitVec 32) : BitVec 32 :=
  x.extractLsb' 0 8 ++ x.extractLsb' 8 8 ++ x.extractLsb' 16 8 ++ x.extractLsb' 24 8

/-- Reverse the two bytes of a 16-bit value. -/
def swapShort (x : BitVec 16) : BitVec 16 :=
  x.extractLsb' 0 8 ++ x.extractLsb' 8 8

/-- `bpf_ntohl` -/
def bpfNtohl : ByteOrder → BitVec 32 → BitVec 32
  | .little, x => swapLong x
  | .big, x => x

/-- `bpf_htonl` -/
def bpfHtonl : ByteOrder → BitVec 32 → BitVec 32
  | .little, x => swapLong x
  | .big, x => x

/-- `bpf_ntohs` -/
def bpfNtohs : ByteOrder → BitVec 16 → BitVec 16
  | .little, x => swapShort x
  | .big, x => x

/-- `bpf_htons` -/
def bpfHtons : ByteOrder → BitVec 16 → BitVec 16
  | .little, x => swapShort x
  | .big, x => x

/-- The bytes of a 32-bit value in memory, lowest address first. -/
def storeLong : ByteOrder → BitVec 32 → BitVec 8 × BitVec 8 × BitVec 8 × BitVec 8
  | .little, x => (x.extractLsb' 0 8, x.extractLsb' 8 8, x.extractLsb' 16 8, x.extractLsb' 24 8)
  | .big, x => (x.extractLsb' 24 8, x.extractLsb' 16 8, x.extractLsb' 8 8, x.extractLsb' 0 8)

/-- The bytes of a 16-bit value in memory, lowest address first. -/
def storeShort : ByteOrder → BitVec 16 → BitVec 8 × BitVec 8
  | .little, x => (x.extractLsb' 0 8, x.extractLsb' 8 8)
  | .big, x => (x.extractLsb' 8 8, x.extractLsb' 0 8)

/-! ## Round trips -/

theorem swapLong_swapLong (x : BitVec 32) : swapLong (swapLong x) = x := by
  simp only [swapLong]
  ext i hi
  simp only [BitVec.getElem_append, BitVec.getElem_extractLsb', BitVec.getLsbD_append,
    BitVec.getLsbD_extractLsb']
  interval_cases i <;> rfl

theorem swapShort_swapShort (x : BitVec 16) : swapShort (swapShort x) = x := by
  simp only [swapShort]
  ext i hi
  simp only [BitVec.getElem_append, BitVec.getElem_extractLsb', BitVec.getLsbD_append,
    BitVec.getLsbD_extractLsb']
  interval_cases i <;> rfl

@[simp] theorem bpfNtohl_bpfHtonl (o : ByteOrder) (x : BitVec 32) :
    bpfNtohl o (bpfHtonl o x) = x := by
  cases o with
  | little => exact swapLong_swapLong x
  | big => rfl

@[simp] theorem bpfHtonl_bpfHtonl (o : ByteOrder) (x : BitVec 32) :
    bpfHtonl o (bpfHtonl o x) = x := by
  cases o with
  | little => exact swapLong_swapLong x
  | big => rfl

@[simp] theorem bpfNtohs_bpfHtons (o : ByteOrder) (x : BitVec 16) :
    bpfNtohs o (bpfHtons o x) = x := by
  cases o with
  | little => exact swapShort_swapShort x
  | big => rfl

/-- On a little-endian build the port field, read as 32 bits and swapped,
    carries the port in its upper half. -/
theorem bpfNtohl_zeroExtend_bpfHtons (x : BitVec 16) :
    (bpfNtohl .little ((bpfHtons .little x).setWidth 32) >>> 16).setWidth 16 = x := by
  simp only [bpfNtohl, bpfHtons, swapLong, swapShort]
  ext i hi
  simp only [BitVec.getElem_setWidth, BitVec.getLsbD_ushiftRight, BitVec.getLsbD_append,
    BitVec.getLsbD_extractLsb', BitVec.getLsbD_setWidth]
  interval_cases i <;> rfl

end KubeGateway.Ebpf
