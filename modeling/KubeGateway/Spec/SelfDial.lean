import KubeGateway.ForStd.Trace
import KubeGateway.Native.Addresses

/-!
# A gateway that calls itself

An external handler dials whatever its peer asks for, unless the text is that of
the internal listener's address.  The same address written otherwise, and the
addresses of the external listeners, pass.
-/

namespace KubeGateway.Gateway

/-! ## The property -/

/-- Whatever calls an external handler makes after it has read `bytes`, it dials none
    of the gateway's own listeners. -/
def NeverDialsSelf (host : Host) (c : Config) (bytes : GoString) : Prop :=
  ∀ ok replies text,
    Trace.run (External.next c) .readDestination (.data bytes ok :: replies) = .dial text →
    ∀ ep ∈ host.dials text, c.isOwn host ep = false

/-! ## What a handler dials -/

/-- A handler that has read its destination dials this, if anything. -/
def DialsOnly (text : GoString) : External → Prop
  | .readDestination => False
  | .dial remoteAddress => remoteAddress = text
  | _ => True

theorem dialsOnly_next (c : Config) {text : GoString} (h : External) (r : Reply)
    (hI : DialsOnly text h) : DialsOnly text (External.next c h r) := by
  cases h with
  | readDestination => exact hI.elim
  | dial remoteAddress =>
    cases r with
    | done ok => cases ok <;> trivial
    | _ => exact hI
  | writeAck remoteAddress => cases r <;> trivial
  | relay remoteAddress => cases r <;> trivial
  | returned => cases r <;> trivial

/-- After the text of the internal listener's address the handler has returned, and
    stays so. -/
theorem run_returned (c : Config) (replies : List Reply) :
    Trace.run (External.next c) .returned replies = .returned := by
  induction replies with
  | nil => rfl
  | cons r replies ih =>
    rw [Trace.run_cons]
    cases r <;> exact ih

/-- A handler that has read `bytes` dials this text, if it is not that of the internal
    listener's address, and no other. -/
theorem dials_iff (c : Config) (bytes text : GoString) :
    (∃ ok replies,
      Trace.run (External.next c) .readDestination (.data bytes ok :: replies) = .dial text) ↔
      text = bytes ∧ bytes ≠ c.internalAddr := by
  simp only [Trace.run_cons]
  by_cases hguard : bytes = c.internalAddr
  · have hreturned : ∀ ok, External.next c .readDestination (.data bytes ok) = .returned :=
      fun _ => if_pos hguard
    refine iff_of_false ?_ (fun htext => htext.2 hguard)
    rintro ⟨ok, replies, hrun⟩
    rw [hreturned, run_returned] at hrun
    exact nomatch hrun
  · have hdial : ∀ ok, External.next c .readDestination (.data bytes ok) = .dial bytes :=
      fun _ => if_neg hguard
    simp only [hdial]
    constructor
    · rintro ⟨_, replies, hrun⟩
      have honly : DialsOnly bytes (Trace.run (External.next c) (.dial bytes) replies) :=
        Trace.run_invariant (dialsOnly_next c) rfl
      rw [hrun] at honly
      exact ⟨honly, hguard⟩
    · rintro ⟨rfl, -⟩
      exact ⟨true, [], rfl⟩

/-- The guard, or the resolver, keeps a text from leading back. -/
private theorem neverDialsSelf_iff_dials (host : Host) (c : Config) (bytes : GoString) :
    NeverDialsSelf host c bytes ↔
      (bytes ≠ c.internalAddr → ∀ ep ∈ host.dials bytes, c.isOwn host ep = false) := by
  constructor
  · intro hnever hguard
    obtain ⟨ok, replies, hrun⟩ := (dials_iff c bytes bytes).mpr ⟨rfl, hguard⟩
    exact hnever ok replies bytes hrun
  · intro hdials ok replies text hrun
    obtain ⟨rfl, hguard⟩ := (dials_iff c bytes text).mp ⟨ok, replies, hrun⟩
    exact hdials hguard

/-! ## Main results -/

/-- An external handler dials none of the gateway's own listeners exactly if the text
    is that of the internal listener's address, or stands for none of them. -/
theorem never_dials_self_iff (host : Host) (c : Config) (bytes : GoString) :
    NeverDialsSelf host c bytes ↔
      bytes = c.internalAddr ∨ ∀ ep ∈ host.dials bytes, c.isOwn host ep = false := by
  rw [neverDialsSelf_iff_dials, or_iff_not_imp_left]

/-- For an IPv4 address and a port in digits, nothing is left to the resolver. -/
theorem never_dials_self_literal_iff (host : Host) (c : Config) (addr : BitVec 32) {port : Nat}
    (hport : port ≤ 65535) :
    NeverDialsSelf host c (hostPort (dottedQuad addr) port) ↔
      hostPort (dottedQuad addr) port = c.internalAddr ∨
        c.isOwn host ⟨.v4 addr, port⟩ = false := by
  rw [neverDialsSelf_iff_dials, dials_hostPort host addr hport, List.forall_mem_singleton,
    or_iff_not_imp_left]

/-! ## The external listener -/

/-- A pod with no address but the loopback ones. -/
def bareHost : Host :=
  { assigned := fun _ => false, ipv6 := true, resolve := fun _ => [], picked := fun _ => 1 }

/-- A gateway can call itself: 127.0.0.1:18001 is where its external listener is. -/
theorem not_never_dials_self :
    ¬ ∀ (host : Host) (c : Config) (bytes : GoString), NeverDialsSelf host c bytes := by
  intro hclaim
  have hself := hclaim bareHost (sidecarConfig podRange) (goString "127.0.0.1:18001") true []
    (goString "127.0.0.1:18001") (by decide)
  exact absurd (hself ⟨.v4 loopback, 18001⟩ (by decide)) (by decide)

end KubeGateway.Gateway
