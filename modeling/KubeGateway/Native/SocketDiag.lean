import KubeGateway.ForStd.Cursor
import KubeGateway.Native.ByteOrder
import KubeGateway.Native.LoadEPF

/-!
# Sockets in netlink messages

The second half of `gateway/pkg/manager/connections.go`: how a request about a
socket is written for the kernel's socket diagnosis, and how a socket is read from
its answer.  A panic, of an index outside the buffer, is `none`.
-/

namespace KubeGateway.Gateway

open Cursor
open Ebpf (ByteOrder)

/-! ## Addresses and words -/

/-- `net.IP` -/
abbrev IP := List UInt8

/-- `IP.To4`, nil for an address that is not IPv4. -/
def IP.to4 (ip : IP) : IP :=
  if ip.length = 4 then ip
  else if ip.length = 16 ∧ ip.take 12 = v4InV6Prefix then ip.drop 12
  else []

/-- `IP.To16`, nil for what is no address. -/
def IP.to16 (ip : IP) : IP :=
  if ip.length = 4 then v4InV6Prefix ++ ip
  else if ip.length = 16 then ip
  else []

/-- `net.IPv4` -/
def ipv4 (a b c d : UInt8) : IP := v4InV6Prefix ++ [a, b, c, d]

/-- `binary.BigEndian.PutUint16` -/
def putUint16 (x : UInt16) : List UInt8 := bigBytes 2 x.toNat

/-- `binary.BigEndian.Uint16` -/
def uint16 (bytes : List UInt8) : UInt16 := UInt16.ofNat (bigValue bytes)

/-- `nl.NativeEndian().PutUint32` -/
def putUint32 : ByteOrder → UInt32 → List UInt8
  | .little, x => littleBytes 4 x.toNat
  | .big, x => bigBytes 4 x.toNat

/-- `nl.NativeEndian().Uint32` -/
def uint32 : ByteOrder → List UInt8 → UInt32
  | .little, bytes => UInt32.ofNat (littleValue bytes)
  | .big, bytes => UInt32.ofNat (bigValue bytes)

@[simp]
theorem length_putUint16 (x : UInt16) : (putUint16 x).length = 2 := length_bigBytes 2 _

@[simp]
theorem length_putUint32 (order : ByteOrder) (x : UInt32) : (putUint32 order x).length = 4 := by
  cases order with
  | little => exact length_littleBytes 4 _
  | big => exact length_bigBytes 4 _

@[simp]
theorem uint16_putUint16 (x : UInt16) : uint16 (putUint16 x) = x := by
  rw [uint16, putUint16, bigValue_bigBytes x.toNat_lt, UInt16.ofNat_toNat]

@[simp]
theorem uint32_putUint32 (order : ByteOrder) (x : UInt32) :
    uint32 order (putUint32 order x) = x := by
  cases order with
  | little => rw [uint32, putUint32, littleValue_littleBytes x.toNat_lt, UInt32.ofNat_toNat]
  | big => rw [uint32, putUint32, bigValue_bigBytes x.toNat_lt, UInt32.ofNat_toNat]

/-! ## Sockets -/

/-- `SocketID`, the package's own and that of the netlink package. -/
structure SocketID where
  source : IP
  destination : IP
  cookie : UInt32 × UInt32
  interface : UInt32
  sourcePort : UInt16
  destinationPort : UInt16
  deriving DecidableEq, Repr

structure Socket where
  id : SocketID
  expires : UInt32
  rQueue : UInt32
  wQueue : UInt32
  uid : UInt32
  iNode : UInt32
  family : UInt8
  state : UInt8
  timer : UInt8
  retrans : UInt8
  deriving DecidableEq, Repr

structure SocketRequest where
  id : SocketID
  states : UInt32
  family : UInt8
  protocol : UInt8
  ext : UInt8
  pad : UInt8
  deriving DecidableEq, Repr

/-- `syscall.AF_INET` -/
def AF_INET : UInt8 := 2

/-- `syscall.AF_INET6` -/
def AF_INET6 : UInt8 := 10

def sizeofSocketID : Nat := 0x30
def sizeofSocketRequest : Nat := sizeofSocketID + 0x8
def sizeofSocket : Nat := sizeofSocketID + 0x18

/-- Convert a `SocketRequest` to bytes. -/
def SocketRequest.serialize (order : ByteOrder) (r : SocketRequest) : Option (List UInt8) := do
  let b : Writer UInt8 := ⟨List.replicate sizeofSocketRequest 0, 0⟩
  let b ← b.put 1 [r.family]
  let b ← b.put 1 [r.protocol]
  let b ← b.put 1 [r.ext]
  let b ← b.put 1 [r.pad]
  let b ← b.put 4 (putUint32 order r.states)
  let b ← b.put 2 (putUint16 r.id.sourcePort)
  let b ← b.put 2 (putUint16 r.id.destinationPort)
  let b ←
    if r.family = AF_INET6 then do
      let b ← b.put 16 r.id.source
      b.put 16 r.id.destination
    else do
      let b ← b.put 16 r.id.source.to4
      b.put 16 r.id.destination.to4
  let b ← b.put 4 (putUint32 order r.id.interface)
  let b ← b.put 4 (putUint32 order r.id.cookie.1)
  let b ← b.put 4 (putUint32 order r.id.cookie.2)
  return b.cells

/-- `net.IPv4` of the next four bytes; the twelve behind them are left out. -/
def readIPv4 (rb : Reader UInt8) : Option (IP × Reader UInt8) := do
  let (a, rb) ← rb.read
  let (b, rb) ← rb.read
  let (c, rb) ← rb.read
  let (d, rb) ← rb.read
  let (_, rb) ← rb.next 12
  return (ipv4 a b c d, rb)

/-- One of the two addresses; both are of the family. -/
def readAddress (family : UInt8) (rb : Reader UInt8) : Option (IP × Reader UInt8) :=
  if family = AF_INET6 then rb.next 16 else readIPv4 rb

/-- What `deserialize` reads of a buffer that is long enough, and how far. -/
def Socket.readFrom (order : ByteOrder) (rb : Reader UInt8) : Option (Socket × Reader UInt8) := do
  let (family, rb) ← rb.read
  let (state, rb) ← rb.read
  let (timer, rb) ← rb.read
  let (retrans, rb) ← rb.read
  let (sourcePort, rb) ← rb.next 2
  let (destinationPort, rb) ← rb.next 2
  let (source, rb) ← readAddress family rb
  let (destination, rb) ← readAddress family rb
  let (interface, rb) ← rb.next 4
  let (cookie₀, rb) ← rb.next 4
  let (cookie₁, rb) ← rb.next 4
  let (expires, rb) ← rb.next 4
  let (rQueue, rb) ← rb.next 4
  let (wQueue, rb) ← rb.next 4
  let (uid, rb) ← rb.next 4
  let (iNode, rb) ← rb.next 4
  let id : SocketID :=
    { source, destination
      cookie := (uint32 order cookie₀, uint32 order cookie₁)
      interface := uint32 order interface
      sourcePort := uint16 sourcePort
      destinationPort := uint16 destinationPort }
  pure (
    { id, family, state, timer, retrans
      expires := uint32 order expires
      rQueue := uint32 order rQueue
      wQueue := uint32 order wQueue
      uid := uint32 order uid
      iNode := uint32 order iNode }, rb)

/-- `deserialize`: the socket afterwards, and the error. -/
def Socket.deserialize (order : ByteOrder) (s : Socket) (b : List UInt8) :
    Option (Socket × Option String) :=
  if b.length < sizeofSocket then
    some (s, some s!"socket data short read ({b.length}); want {sizeofSocket}")
  else (Socket.readFrom order ⟨b, 0⟩).map fun (s, _) => (s, none)

end KubeGateway.Gateway
