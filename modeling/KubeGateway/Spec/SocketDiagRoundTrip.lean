import Mathlib.Data.List.GetD
import KubeGateway.Native.SocketDiag

/-!
# Socket requests and sockets

The request for a socket and the socket in the kernel's answer have the socket's
identity at the same place behind their first words.  What `serialize` writes there,
`deserialize` reads back, whatever the order of the bytes of a word.
-/

namespace KubeGateway.Gateway

open Cursor
open Ebpf (ByteOrder)

/-! ## Serialize -/

/-- The sixteen bytes of an address. -/
def addressBytes (family : UInt8) (ip : IP) : List UInt8 :=
  padded 0 16 (if family = AF_INET6 then ip else ip.to4)

/-- The bytes of a socket's identity. -/
def SocketID.bytes (order : ByteOrder) (family : UInt8) (id : SocketID) : List UInt8 :=
  putUint16 id.sourcePort ++ putUint16 id.destinationPort ++
  addressBytes family id.source ++ addressBytes family id.destination ++
  putUint32 order id.interface ++ putUint32 order id.cookie.1 ++ putUint32 order id.cookie.2

theorem SocketID.length_bytes (order : ByteOrder) (family : UInt8) (id : SocketID) :
    (id.bytes order family).length = sizeofSocketID := by
  simp [SocketID.bytes, addressBytes, sizeofSocketID]

/-- The fields of a request, with their sizes. -/
def SocketRequest.fields (order : ByteOrder) (r : SocketRequest) : List (Nat × List UInt8) :=
  [(1, [r.family]), (1, [r.protocol]), (1, [r.ext]), (1, [r.pad]), (4, putUint32 order r.states),
    (2, putUint16 r.id.sourcePort), (2, putUint16 r.id.destinationPort),
    (16, if r.family = AF_INET6 then r.id.source else r.id.source.to4),
    (16, if r.family = AF_INET6 then r.id.destination else r.id.destination.to4),
    (4, putUint32 order r.id.interface), (4, putUint32 order r.id.cookie.1),
    (4, putUint32 order r.id.cookie.2)]

/-- `serialize` writes the fields into a blank buffer. -/
theorem SocketRequest.serialize_eq_fields (order : ByteOrder) (r : SocketRequest) :
    r.serialize order =
      ((Writer.filled 0 [] sizeofSocketRequest).putAll (r.fields order)).bind
        fun b => some b.cells := by
  have hblank : (⟨List.replicate sizeofSocketRequest 0, 0⟩ : Writer UInt8) =
      .filled 0 [] sizeofSocketRequest := rfl
  unfold SocketRequest.serialize SocketRequest.fields Writer.putAll
  rw [hblank]
  by_cases hfamily : r.family = AF_INET6
  · simp only [hfamily, if_true, List.foldlM_cons, List.foldlM_nil, Option.bind_eq_bind,
      Option.bind_assoc]
    rfl
  · simp only [hfamily, if_false, List.foldlM_cons, List.foldlM_nil, Option.bind_eq_bind,
      Option.bind_assoc]
    rfl

/-- Every write of `serialize` has its place, and the fields follow each other. -/
theorem SocketRequest.serialize_eq (order : ByteOrder) (r : SocketRequest) :
    r.serialize order =
      some ([r.family, r.protocol, r.ext, r.pad] ++ putUint32 order r.states ++
        r.id.bytes order r.family) := by
  have hword : ∀ x, padded 0 4 (putUint32 order x) = putUint32 order x :=
    fun x => padded_of_length_eq 0 (length_putUint32 order x)
  have hport : ∀ x, padded 0 2 (putUint16 x) = putUint16 x :=
    fun x => padded_of_length_eq 0 (length_putUint16 x)
  have hbyte : ∀ c : UInt8, padded 0 1 [c] = [c] := fun c => padded_of_length_eq 0 rfl
  have hroom : ((r.fields order).map Prod.fst).sum = sizeofSocketRequest := rfl
  rw [serialize_eq_fields, Writer.putAll_filled 0 _ [] (Nat.le_of_eq hroom), hroom]
  simp [SocketRequest.fields, Writer.filled, SocketID.bytes, addressBytes, hword, hport, hbyte]

/-! ## Deserialize -/

/-- The address at a place in an answer. -/
def addressAt (family : UInt8) (b : List UInt8) (pos : Nat) : IP :=
  if family = AF_INET6 then slice b pos 16 else v4InV6Prefix ++ slice b pos 4

/-- The identity of the socket in an answer. -/
def socketIDAt (order : ByteOrder) (family : UInt8) (b : List UInt8) : SocketID :=
  { source := addressAt family b 8
    destination := addressAt family b 24
    cookie := (uint32 order (slice b 44 4), uint32 order (slice b 48 4))
    interface := uint32 order (slice b 40 4)
    sourcePort := uint16 (slice b 4 2)
    destinationPort := uint16 (slice b 6 2) }

theorem readIPv4_eq {b : List UInt8} {pos : Nat} (h : pos + 16 ≤ b.length) :
    readIPv4 ⟨b, pos⟩ = some (v4InV6Prefix ++ slice b pos 4, ⟨b, pos + 16⟩) := by
  have hbytes : slice b pos 4 = [b[pos], b[pos + 1], b[pos + 2], b[pos + 3]] := by
    rw [slice_succ (by omega), slice_succ (by omega), slice_succ (by omega), slice_succ (by omega),
      slice_zero]
  unfold readIPv4
  rw [hbytes, Reader.read_of_lt (by omega), Option.bind_eq_bind, Option.bind_some]
  simp (disch := omega) only [Reader.read_of_lt, Reader.next_of_le, Option.bind_eq_bind,
    Option.bind_some]
  rfl

theorem readAddress_bind {β : Type} (family : UInt8) {b : List UInt8} {pos : Nat}
    (h : pos + 16 ≤ b.length) (after : IP × Reader UInt8 → Option β) :
    (readAddress family ⟨b, pos⟩ >>= after) = after (addressAt family b pos, ⟨b, pos + 16⟩) := by
  unfold readAddress addressAt
  split
  · rw [Reader.next_of_le h]
    rfl
  · rw [readIPv4_eq h]
    rfl

/-- Every read of `deserialize` finds its field, and the cursor ends behind the last. -/
theorem Socket.readFrom_eq (order : ByteOrder) {b : List UInt8} (h : sizeofSocket ≤ b.length) :
    Socket.readFrom order ⟨b, 0⟩ = some (
      { id := socketIDAt order (b.getD 0 0) b
        expires := uint32 order (slice b 52 4)
        rQueue := uint32 order (slice b 56 4)
        wQueue := uint32 order (slice b 60 4)
        uid := uint32 order (slice b 64 4)
        iNode := uint32 order (slice b 68 4)
        family := b.getD 0 0
        state := b.getD 1 0
        timer := b.getD 2 0
        retrans := b.getD 3 0 }, ⟨b, sizeofSocket⟩) := by
  have hlen : 72 ≤ b.length := h
  unfold Socket.readFrom
  simp (disch := omega) only [Reader.read_bind, Reader.next_bind, readAddress_bind]
  rw [List.getD_eq_getElem b 0 (by omega), List.getD_eq_getElem b 0 (by omega),
    List.getD_eq_getElem b 0 (by omega), List.getD_eq_getElem b 0 (by omega)]
  rfl

/-- An answer that is too short leaves the socket as it is. -/
theorem Socket.deserialize_of_short (order : ByteOrder) (s : Socket) {b : List UInt8}
    (h : b.length < sizeofSocket) : ∃ err, s.deserialize order b = some (s, some err) := by
  unfold Socket.deserialize
  rw [if_pos h]
  exact ⟨_, rfl⟩

/-- The socket read of an answer. -/
theorem Socket.deserialize_of_long (order : ByteOrder) (s : Socket) {b : List UInt8}
    (h : sizeofSocket ≤ b.length) :
    ∃ s', Socket.readFrom order ⟨b, 0⟩ = some (s', ⟨b, sizeofSocket⟩) ∧
      s.deserialize order b = some (s', none) ∧
      s'.id = socketIDAt order (b.getD 0 0) b := by
  refine ⟨_, readFrom_eq order h, ?_, rfl⟩
  unfold Socket.deserialize
  rw [if_neg (Nat.not_lt.mpr h), readFrom_eq order h]
  rfl

/-- Nothing behind the first 72 bytes matters. -/
theorem Socket.deserialize_congr (order : ByteOrder) (s : Socket) {b b' : List UInt8}
    (h : sizeofSocket ≤ b.length) (htake : b'.take sizeofSocket = b.take sizeofSocket) :
    s.deserialize order b' = s.deserialize order b := by
  have hlen : 72 ≤ b.length := h
  have hlen' : 72 ≤ b'.length := by
    have hlength := congrArg List.length htake
    rw [List.length_take, List.length_take] at hlength
    simp only [sizeofSocket, sizeofSocketID] at hlength
    omega
  have hslice : ∀ pos n, pos + n ≤ 72 → slice b' pos n = slice b pos n := by
    intro pos n hn
    rw [← slice_take hn b', ← slice_take hn b]
    exact congrArg (slice · pos n) htake
  have hbyte : ∀ i, i < 72 → b'.getD i 0 = b.getD i 0 := by
    intro i hi
    have hcell := hslice i 1 (by omega)
    rw [slice_succ (by omega), slice_succ (by omega)] at hcell
    rw [List.getD_eq_getElem b' 0 (by omega), List.getD_eq_getElem b 0 (by omega)]
    exact (List.cons.inj hcell).1
  unfold Socket.deserialize
  have hlong : ¬ b'.length < sizeofSocket := Nat.not_lt.mpr hlen'
  rw [if_neg (Nat.not_lt.mpr h), if_neg hlong, readFrom_eq order h, readFrom_eq order hlen']
  unfold socketIDAt addressAt
  simp (disch := omega) only [hslice, hbyte, Option.map_some]

/-! ## There and back -/

/-- An IPv4 address, of 4 bytes or of 16. -/
def IP.IsIPv4 (ip : IP) : Prop := ip.length = 4 ∨ (ip.length = 16 ∧ ip.take 12 = v4InV6Prefix)

/-- The addresses of a request are of its family. -/
def SocketRequest.Addressed (r : SocketRequest) : Prop :=
  (r.family = AF_INET ∧ r.id.source.IsIPv4 ∧ r.id.destination.IsIPv4) ∨
    (r.family = AF_INET6 ∧ r.id.source.length = 16 ∧ r.id.destination.length = 16)

/-- The identity `id'` denotes what `id` does; its addresses are in the 16-byte form. -/
structure SocketID.Denotes (id' id : SocketID) : Prop where
  source : id'.source = id.source.to16
  destination : id'.destination = id.destination.to16
  cookie : id'.cookie = id.cookie
  interface : id'.interface = id.interface
  sourcePort : id'.sourcePort = id.sourcePort
  destinationPort : id'.destinationPort = id.destinationPort

/-- The four bytes of an IPv4 address make up its longer form. -/
theorem IP.prefix_to4 {ip : IP} (h : ip.IsIPv4) :
    ip.to4.length = 4 ∧ v4InV6Prefix ++ ip.to4 = ip.to16 := by
  unfold IP.to4 IP.to16
  rcases h with hlen | ⟨hlen, htake⟩
  · rw [if_pos hlen, if_pos hlen]
    exact ⟨hlen, rfl⟩
  · have hne : ip.length ≠ 4 := by omega
    rw [if_neg hne, if_neg hne, if_pos ⟨hlen, htake⟩, if_pos hlen, List.length_drop, hlen,
      ← htake, List.take_append_drop]
    exact ⟨rfl, rfl⟩

/-- An address is read as it was written. -/
theorem address_read {family : UInt8} {ip : IP} {b : List UInt8} {pos : Nat}
    (hfamily : (family = AF_INET ∧ ip.IsIPv4) ∨ (family = AF_INET6 ∧ ip.length = 16))
    (hb : slice b pos 16 = addressBytes family ip) : addressAt family b pos = ip.to16 := by
  unfold addressAt
  unfold addressBytes at hb
  rcases hfamily with ⟨rfl, hip⟩ | ⟨rfl, hlen⟩
  · obtain ⟨hlen, hto16⟩ := IP.prefix_to4 hip
    have hread : (slice b pos 16).take 4 = slice b pos 4 := by
      rw [slice, slice, List.take_take]
      rfl
    have hwhole : ip.to4.take 16 = ip.to4 := List.take_of_length_le (by omega)
    have hwritten : (padded 0 16 ip.to4).take 4 = ip.to4 := by
      rw [padded, hwhole, List.take_left' hlen]
    rw [if_neg (by decide)] at hb
    have hfour : slice b pos 4 = ip.to4 := by rw [← hread, hb, hwritten]
    rw [if_neg (by decide), hfour, hto16]
  · rw [if_pos rfl] at hb ⊢
    rw [hb, padded_of_length_eq 0 hlen, IP.to16, if_neg (by omega), if_pos hlen]

/-- The bytes of an identity, found again behind four others. -/
theorem slice_bytes (order : ByteOrder) (family : UInt8) (id : SocketID) {header : List UInt8}
    (tail : List UInt8) (hheader : header.length = 4) :
    let b := header ++ id.bytes order family ++ tail
    (slice b 4 2 = putUint16 id.sourcePort ∧ slice b 6 2 = putUint16 id.destinationPort) ∧
    (slice b 8 16 = addressBytes family id.source ∧
      slice b 24 16 = addressBytes family id.destination) ∧
    slice b 40 4 = putUint32 order id.interface ∧
    slice b 44 4 = putUint32 order id.cookie.1 ∧ slice b 48 4 = putUint32 order id.cookie.2 := by
  intro b
  -- a field is where the lengths of the fields before it say
  have hfield : ∀ before field after : List UInt8, b = before ++ (field ++ after) →
      ∀ pos n, before.length = pos → field.length = n → slice b pos n = field := by
    rintro before field after hb pos n rfl rfl
    rw [hb, slice_field]
  have haddress : ∀ ip, (addressBytes family ip).length = 16 := fun ip => length_padded 0 16 _
  have hb₁ : b = header ++ (putUint16 id.sourcePort ++ (putUint16 id.destinationPort ++
      (addressBytes family id.source ++ (addressBytes family id.destination ++
      (putUint32 order id.interface ++ (putUint32 order id.cookie.1 ++
      (putUint32 order id.cookie.2 ++ tail))))))) := by
    simp only [b, SocketID.bytes, List.append_assoc]
  have hb₂ := hb₁.trans (List.append_assoc _ _ _).symm
  have hb₃ := hb₂.trans (List.append_assoc _ _ _).symm
  have hb₄ := hb₃.trans (List.append_assoc _ _ _).symm
  have hb₅ := hb₄.trans (List.append_assoc _ _ _).symm
  have hb₆ := hb₅.trans (List.append_assoc _ _ _).symm
  have hb₇ := hb₆.trans (List.append_assoc _ _ _).symm
  refine ⟨⟨hfield _ _ _ hb₁ 4 2 hheader ?_, hfield _ _ _ hb₂ 6 2 ?_ ?_⟩,
    ⟨hfield _ _ _ hb₃ 8 16 ?_ ?_, hfield _ _ _ hb₄ 24 16 ?_ ?_⟩,
    hfield _ _ _ hb₅ 40 4 ?_ ?_, hfield _ _ _ hb₆ 44 4 ?_ ?_, hfield _ _ _ hb₇ 48 4 ?_ ?_⟩
  all_goals simp [hheader, haddress]

/-- What a request says of its socket is what an answer with the same bytes says. -/
theorem socketIDAt_denotes (order : ByteOrder) {r : SocketRequest} (haddressed : r.Addressed)
    {header : List UInt8} (tail : List UInt8) (hheader : header.length = 4) :
    (socketIDAt order r.family (header ++ r.id.bytes order r.family ++ tail)).Denotes r.id := by
  obtain ⟨⟨hsourcePort, hdestinationPort⟩, ⟨hsource, hdestination⟩, hinterface, hcookie₁,
    hcookie₂⟩ := slice_bytes order r.family r.id tail hheader
  have haddresses : ((r.family = AF_INET ∧ r.id.source.IsIPv4) ∨
        (r.family = AF_INET6 ∧ r.id.source.length = 16)) ∧
      ((r.family = AF_INET ∧ r.id.destination.IsIPv4) ∨
        (r.family = AF_INET6 ∧ r.id.destination.length = 16)) := by
    rcases haddressed with ⟨hfamily, hs, hd⟩ | ⟨hfamily, hs, hd⟩
    · exact ⟨Or.inl ⟨hfamily, hs⟩, Or.inl ⟨hfamily, hd⟩⟩
    · exact ⟨Or.inr ⟨hfamily, hs⟩, Or.inr ⟨hfamily, hd⟩⟩
  constructor
  · exact address_read haddresses.1 hsource
  · exact address_read haddresses.2 hdestination
  · show (uint32 order _, uint32 order _) = _
    rw [hcookie₁, hcookie₂, uint32_putUint32, uint32_putUint32]
  · show uint32 order _ = _
    rw [hinterface, uint32_putUint32]
  · show uint16 _ = _
    rw [hsourcePort, uint16_putUint16]
  · show uint16 _ = _
    rw [hdestinationPort, uint16_putUint16]

/-- The identity of a request, found again in an answer that carries its bytes. -/
theorem Socket.deserialize_serialize (order : ByteOrder) {r : SocketRequest} (s : Socket)
    {header tail : List UInt8} (haddressed : r.Addressed) (hheader : header.length = 4)
    (hfamily : header.head? = some r.family) (htail : tail.length = 20) :
    ∃ bytes s', r.serialize order = some bytes ∧
      s.deserialize order (header ++ slice bytes 8 48 ++ tail) = some (s', none) ∧
      s'.id.Denotes r.id := by
  have hbody : slice ([r.family, r.protocol, r.ext, r.pad] ++ putUint32 order r.states ++
      r.id.bytes order r.family) 8 48 = r.id.bytes order r.family := by
    have hfield := slice_field ([r.family, r.protocol, r.ext, r.pad] ++ putUint32 order r.states)
      (r.id.bytes order r.family) []
    simpa [SocketID.length_bytes, sizeofSocketID] using hfield
  have hlong : sizeofSocket ≤ (header ++ r.id.bytes order r.family ++ tail).length := by
    simp [SocketID.length_bytes, hheader, htail, sizeofSocket, sizeofSocketID]
  obtain ⟨s', -, hs', hid⟩ := s.deserialize_of_long order hlong
  refine ⟨_, s', r.serialize_eq order, by rw [hbody]; exact hs', ?_⟩
  have hfirst : (header ++ r.id.bytes order r.family ++ tail).getD 0 0 = r.family := by
    cases header with
    | nil => exact nomatch hfamily
    | cons first header => exact Option.some.inj hfamily
  rw [hid, hfirst]
  exact socketIDAt_denotes order haddressed tail hheader

/-- The encoder and the decoder of sockets: the one fills its buffer and stays in it,
    the other reads the first 72 bytes or nothing, and an identity comes back as it
    was sent. -/
theorem socketDiag_agree (order : ByteOrder) :
    (∀ r : SocketRequest, ∃ bytes, r.serialize order = some bytes ∧
      bytes.length = sizeofSocketRequest) ∧
    (∀ (s : Socket) (b : List UInt8), b.length < sizeofSocket →
      ∃ err, s.deserialize order b = some (s, some err)) ∧
    (∀ (s : Socket) (b : List UInt8), sizeofSocket ≤ b.length →
      ∃ s', Socket.readFrom order ⟨b, 0⟩ = some (s', ⟨b, sizeofSocket⟩) ∧
        ∀ b', b'.take sizeofSocket = b.take sizeofSocket →
          s.deserialize order b' = some (s', none)) ∧
    ∀ (r : SocketRequest) (s : Socket) (header tail : List UInt8), r.Addressed →
      header.length = 4 → header.head? = some r.family → tail.length = 20 →
      ∃ bytes s', r.serialize order = some bytes ∧
        s.deserialize order (header ++ slice bytes 8 48 ++ tail) = some (s', none) ∧
        s'.id.Denotes r.id := by
  refine ⟨?_, ?_, ?_, ?_⟩
  · intro r
    refine ⟨_, r.serialize_eq order, ?_⟩
    simp [SocketID.length_bytes, sizeofSocketRequest]
    omega
  · intro s b hshort
    exact s.deserialize_of_short order hshort
  · intro s b hlong
    obtain ⟨s', hread, hs', -⟩ := s.deserialize_of_long order hlong
    exact ⟨s', hread, fun b' htake => (s.deserialize_congr order hlong htake).trans hs'⟩
  · intro r s header tail haddressed hheader hfamily htail
    exact s.deserialize_serialize order haddressed hheader hfamily htail

/-- A connection of the loopback address, there and back. -/
theorem socketDiag_agree_loopback :
    let id : SocketID := ⟨[127, 0, 0, 1], [127, 0, 0, 1], (7, 0), 1, 53, 50000⟩
    ∃ bytes s', SocketRequest.serialize .little ⟨id, 0, AF_INET, 6, 0, 0⟩ = some bytes ∧
      Socket.deserialize .little ⟨id, 0, 0, 0, 0, 0, 0, 0, 0, 0⟩
        ([AF_INET, 1, 0, 0] ++ slice bytes 8 48 ++ List.replicate 20 0) = some (s', none) ∧
      s'.id.Denotes id := by
  intro id
  exact (socketDiag_agree .little).2.2.2 ⟨id, 0, AF_INET, 6, 0, 0⟩ _ [AF_INET, 1, 0, 0] _
    (Or.inl ⟨rfl, Or.inl rfl, Or.inl rfl⟩) rfl rfl rfl

end KubeGateway.Gateway
