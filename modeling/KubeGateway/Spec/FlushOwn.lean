import KubeGateway.ForStd.Trace
import KubeGateway.Native.Flush

/-!
# Resets and whom they reply to

A flag of `Tuple.Run` stays up after the segment that put it up, so from then on
every segment of the interface is answered, until the other direction is seen too.
The resets stay on their connection exactly if no other segment comes in between.
-/

namespace KubeGateway.Gateway

/-- The segment belongs to the connection, in one of its directions. -/
def Tuple.Owns (t : Tuple) (ip : IPv4Layer) (tcp : TCPLayer) : Prop :=
  (dottedQuad ip.srcIP = t.sourceIP ∧ tcp.srcPort.toNat = t.sourcePort.toNat ∧
    dottedQuad ip.dstIP = t.destIP ∧ tcp.dstPort.toNat = t.destPort.toNat) ∨
  (dottedQuad ip.srcIP = t.destIP ∧ tcp.srcPort.toNat = t.destPort.toNat ∧
    dottedQuad ip.dstIP = t.sourceIP ∧ tcp.dstPort.toNat = t.sourcePort.toNat)

def Tuple.OwnsPacket (t : Tuple) (p : Packet) : Prop :=
  ∃ eth ip tcp, p.segment = some (eth, ip, tcp) ∧ t.Owns ip tcp

/-- Every reset sent so far replies to a packet of the connection. -/
def Flush.RepliesToOwn (t : Tuple) (s : Flush) : Prop :=
  ∀ reply ∈ s.sent, t.OwnsPacket reply.1

/-- A segment that `Run` gets to see while a reset can be written. -/
structure Flush.Meets (count : Int) (s : Flush) (r : Captured) (eth : EthernetLayer)
    (ip : IPv4Layer) (tcp : TCPLayer) : Prop where
  running : s.returned = false
  inTime : r.timedOut = false
  segment : r.packet.segment = some (eth, ip, tcp)
  count_pos : 0 < count
  writes : r.writeFails ≠ some 0

/-- While a flag is up only segments of the connection are met, and one that is taken
    for a segment of the connection, its ports compared in 16 bits, is one. -/
structure Flush.Stays (t : Tuple) (count : Int) (s : Flush) (r : Captured) : Prop where
  unmixed : ∀ eth ip tcp, s.Meets count r eth ip tcp → s.ingress = true ∨ s.egress = true →
    t.Owns ip tcp
  ports : ∀ eth ip tcp, s.Meets count r eth ip tcp →
    t.isIngress ip tcp = true ∨ t.isEgress ip tcp = true → t.Owns ip tcp

/-! ## One round -/

section

variable {layerType : UInt16 → Nat} {t : Tuple} {count : Int} {s : Flush} {r : Captured}

theorem Flush.sent_reply (eth : EthernetLayer) (ip : IPv4Layer) (tcp : TCPLayer) :
    (s.reply layerType count r eth ip tcp).sent = s.sent ++
      ((List.range count.toNat).map fun i => (r.packet, replyRST eth ip tcp i)).take
        (r.writeFails.getD count.toNat) := by
  unfold Flush.reply
  dsimp only
  split
  · rfl
  · split
    · rfl
    · rfl

/-- There is a reply unless none is asked for, or the first cannot be sent. -/
theorem replies_ne_nil_iff (p : Packet) (eth : EthernetLayer) (ip : IPv4Layer) (tcp : TCPLayer)
    (writeFails : Option Nat) :
    ((List.range count.toNat).map fun i => (p, replyRST eth ip tcp i)).take
        (writeFails.getD count.toNat) ≠ [] ↔ 0 < count ∧ writeFails ≠ some 0 := by
  rw [Ne, List.take_eq_nil_iff, List.map_eq_nil_iff, List.range_eq_nil]
  cases writeFails with
  | none => simp
  | some i => simp; omega

/-- What a round adds to the resets all replies to its packet. -/
theorem Flush.repliesToOwn_reply (eth : EthernetLayer) (ip : IPv4Layer) (tcp : TCPLayer) :
    (s.reply layerType count r eth ip tcp).RepliesToOwn t ↔
      s.RepliesToOwn t ∧ (0 < count ∧ r.writeFails ≠ some 0 → t.OwnsPacket r.packet) := by
  unfold Flush.RepliesToOwn
  rw [sent_reply, ← replies_ne_nil_iff r.packet eth ip tcp, List.forall_mem_append]
  apply and_congr_right
  intro _
  generalize hreplies : List.take _ _ = replies
  have hpacket : ∀ reply ∈ replies, reply.1 = r.packet := by
    intro reply hmem
    rw [← hreplies] at hmem
    obtain ⟨i, -, rfl⟩ := List.mem_map.mp (List.mem_of_mem_take hmem)
    rfl
  constructor
  · intro h hne
    obtain ⟨reply, hmem⟩ := List.exists_mem_of_ne_nil replies hne
    exact hpacket reply hmem ▸ h reply hmem
  · intro h reply hmem
    exact (hpacket reply hmem).symm ▸ h (List.ne_nil_of_mem hmem)

/-- A round in which nothing is met adds no condition. -/
private theorem stays_of_not_meets (h : ∀ eth ip tcp, ¬ s.Meets count r eth ip tcp) :
    s.Stays t count r :=
  ⟨fun eth ip tcp hmeets => absurd hmeets (h eth ip tcp),
    fun eth ip tcp hmeets => absurd hmeets (h eth ip tcp)⟩

/-- For a segment that is met: with a flag up after it, it is the connection's. -/
private theorem stays_iff_of_segment {eth : EthernetLayer} {ip : IPv4Layer} {tcp : TCPLayer}
    (hrunning : s.returned = false) (htime : r.timedOut = false)
    (hsegment : r.packet.segment = some (eth, ip, tcp)) :
    s.Stays t count r ↔ (0 < count ∧ r.writeFails ≠ some 0 →
      ((s.ingress || t.isIngress ip tcp) || (s.egress || t.isEgress ip tcp)) = true →
        t.Owns ip tcp) := by
  have hsame : ∀ eth' ip' tcp', s.Meets count r eth' ip' tcp' → ip' = ip ∧ tcp' = tcp := by
    intro eth' ip' tcp' hmeets
    have heq := hmeets.segment.symm.trans hsegment
    simp only [Option.some.injEq, Prod.mk.injEq] at heq
    exact heq.2
  simp only [Bool.or_eq_true]
  constructor
  · rintro ⟨hunmixed, hports⟩ ⟨hcount, hwrites⟩ hflag
    have hmeets : s.Meets count r eth ip tcp := ⟨hrunning, htime, hsegment, hcount, hwrites⟩
    rcases hflag with (hup | hhit) | (hup | hhit)
    · exact hunmixed _ _ _ hmeets (Or.inl hup)
    · exact hports _ _ _ hmeets (Or.inl hhit)
    · exact hunmixed _ _ _ hmeets (Or.inr hup)
    · exact hports _ _ _ hmeets (Or.inr hhit)
  · intro h
    constructor
    · intro eth' ip' tcp' hmeets hup
      obtain ⟨rfl, rfl⟩ := hsame _ _ _ hmeets
      exact h ⟨hmeets.count_pos, hmeets.writes⟩ (hup.imp Or.inl Or.inl)
    · intro eth' ip' tcp' hmeets hhit
      obtain ⟨rfl, rfl⟩ := hsame _ _ _ hmeets
      exact h ⟨hmeets.count_pos, hmeets.writes⟩ (hhit.imp Or.inr Or.inr)

private theorem ownsPacket_iff {p : Packet} {eth : EthernetLayer} {ip : IPv4Layer} {tcp : TCPLayer}
    (hsegment : p.segment = some (eth, ip, tcp)) : t.OwnsPacket p ↔ t.Owns ip tcp := by
  unfold Tuple.OwnsPacket
  simp [hsegment]

/-- One round keeps the resets to the connection exactly if it stays with it. -/
theorem Flush.repliesToOwn_step :
    (s.step layerType t count r).RepliesToOwn t ↔ s.RepliesToOwn t ∧ s.Stays t count r := by
  unfold Flush.step
  split
  · next hreturned =>
    have hnone : ∀ eth ip tcp, ¬ s.Meets count r eth ip tcp :=
      fun _ _ _ hmeets => nomatch hreturned.symm.trans hmeets.running
    exact (and_iff_left (stays_of_not_meets hnone)).symm
  · next hrunning =>
    split
    · next htime =>
      have hnone : ∀ eth ip tcp, ¬ s.Meets count r eth ip tcp :=
        fun _ _ _ hmeets => nomatch htime.symm.trans hmeets.inTime
      exact (and_iff_left (stays_of_not_meets hnone)).symm
    · next htime =>
      split
      · next hsegment =>
        have hnone : ∀ eth ip tcp, ¬ s.Meets count r eth ip tcp :=
          fun _ _ _ hmeets => nomatch hsegment.symm.trans hmeets.segment
        exact (and_iff_left (stays_of_not_meets hnone)).symm
      · next eth ip tcp hsegment =>
        have hrunning' : s.returned = false := Bool.eq_false_iff.mpr hrunning
        have htime' : r.timedOut = false := Bool.eq_false_iff.mpr htime
        rw [stays_iff_of_segment hrunning' htime' hsegment, ← ownsPacket_iff hsegment]
        dsimp only
        split
        · next hflag =>
          rw [repliesToOwn_reply]
          exact and_congr_right fun _ => by simp only [hflag, forall_const]
        · next hflag =>
          exact (and_iff_left fun _ hup => absurd hup hflag).symm

end

/-! ## A whole capture -/

/-- In every capture the resets all reply to the connection's own packets exactly if
    every round stays with the connection. -/
theorem flush_replies_to_own_iff (layerType : UInt16 → Nat) (t : Tuple) (count : Int)
    (rs : List Captured) :
    (Trace.run (Flush.step layerType t count) .start rs).RepliesToOwn t ↔
      Trace.Along (Flush.step layerType t count) (Flush.Stays t count) .start rs := by
  rw [Trace.run_iff_along fun _ _ => Flush.repliesToOwn_step]
  exact and_iff_right (List.forall_mem_nil _)

/-! ## A stranger in between -/

/-- A segment with an acknowledgement between two ports of two hosts. -/
def segmentBetween (src dst : BitVec 32) (srcPort dstPort : UInt16) : Captured :=
  { packet :=
      { ethernet := some ⟨0, 0⟩
        ipv4 := some ⟨src, dst⟩
        tcp := some ⟨srcPort, dstPort, 1000, 512, false, false, false⟩ }
    timedOut := false
    writeFails := none
    socketsDump := none }

/-- The connection from port 40000 of 10.0.0.1 to port 80 of 10.0.0.2. -/
def webConnection : Tuple := ⟨dottedQuad 0x0a000001#32, 40000, dottedQuad 0x0a000002#32, 80⟩

/-- A segment of the connection is followed by one of a login from elsewhere, which is
    reset three times. -/
theorem not_flush_replies_to_own :
    ¬ ∀ (layerType : UInt16 → Nat) (t : Tuple) (count : Int) (rs : List Captured),
      (Trace.run (Flush.step layerType t count) .start rs).RepliesToOwn t := by
  intro h
  have hreplies := h (fun _ => 0) webConnection 3
    [segmentBetween 0x0a000001#32 0x0a000002#32 40000 80,
      segmentBetween 0x0a000003#32 0x0a000001#32 50000 22]
  rw [Trace.run_iff_along fun _ _ => Flush.repliesToOwn_step] at hreplies
  obtain ⟨-, -, hstays, -⟩ := hreplies
  -- the flag is up, and the next segment has none of the connection's ports
  have howns := hstays.unmixed ⟨0, 0⟩ ⟨0x0a000003#32, 0x0a000001#32⟩
    ⟨50000, 22, 1000, 512, false, false, false⟩
    ⟨by decide, rfl, rfl, by decide, nofun⟩ (Or.inl (by decide))
  rcases howns with ⟨-, hport, -⟩ | ⟨-, hport, -⟩
  · exact absurd hport (by decide)
  · exact absurd hport (by decide)

end KubeGateway.Gateway
