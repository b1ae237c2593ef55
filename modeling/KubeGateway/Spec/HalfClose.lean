import KubeGateway.ForStd.Trace
import KubeGateway.Native.CopyGateway

/-!
# Half-closed connections

`Copy_gateway` returns at the end of what `egress` sends, and with it ends the
relay: what `ingress` has sent and the goroutine has not written yet is lost, and so
is what it sends later.  The end of what `ingress` sends, on the other hand, is not
passed on: nothing is done at the end of the goroutine's loop.
-/

namespace KubeGateway.Gateway

/-- Once the function has returned, everything either endpoint sent has been written to
    the other one; and where the goroutine's loop has ended, `egress` gets to know, or is
    about to. -/
structure Untruncated (s : Relay) : Prop where
  forward : s.returned = true → s.toEgress.sent = s.fromIngress.sent
  back : s.returned = true → s.toIngress.sent = s.fromEgress.sent
  passedOn : s.forward.done = true → s.toEgress.ended = true ∨ s.back.done = true

/-- The step leaves nothing truncated or withheld. -/
def KeepsUntruncated (s : Relay) (e : RelayEvent) : Prop := Untruncated (s.step e)

/-- `ingress` has closed and all it sent has been written when the function returns, as
    far as it still has something to send; and the goroutine does not find the end of
    what `ingress` sends before the other loop has ended. -/
def EgressEndsLast (s : Relay) : RelayEvent → Prop
  | .ingressSends bytes => s.returned = true → s.fromIngress.ended = true ∨ bytes = []
  | .forward _ =>
    s.returned = false → s.forward.done = false → s.forward.buf = [] → s.fromIngress.dead = true →
      s.back.done = true
  | .returns => s.back.done = true → s.returned = false → s.toEgress.sent = s.fromIngress.sent
  | _ => True

/-- What holds in every run so far. -/
structure RelayInvariant (s : Relay) : Prop where
  untruncated : Untruncated s
  unbroken : s.fromIngress.broken = false ∧ s.fromEgress.broken = false
  open_ : s.returned = false → s.toIngress.ended = false ∧ s.toEgress.ended = false
  closed : s.returned = true → s.back.done = true ∧ s.toEgress.ended = true
  forward : s.returned = false → s.forward.Whole s.fromIngress s.toEgress
  back : s.back.Whole s.fromEgress s.toIngress

/-! ## One step -/

section

variable {s : Relay}

theorem relayInvariant_start : RelayInvariant .start where
  untruncated := ⟨nofun, nofun, nofun⟩
  unbroken := ⟨rfl, rfl⟩
  open_ := fun _ => ⟨rfl, rfl⟩
  closed := nofun
  forward := fun _ => Pump.whole_start
  back := Pump.whole_start

/-- While the relay runs, only the end of the goroutine's loop can go wrong. -/
private theorem untruncated_of_running (hreturned : s.returned = false) :
    Untruncated s ↔ (s.forward.done = true → s.toEgress.ended = true ∨ s.back.done = true) := by
  constructor
  · exact Untruncated.passedOn
  · intro h
    refine ⟨fun hr => ?_, fun hr => ?_, h⟩
    all_goals
      rw [hreturned] at hr
      cases hr

private theorem untruncated_ingressSends (h : RelayInvariant s) (bytes : List UInt8) :
    KeepsUntruncated s (.ingressSends bytes) ↔ EgressEndsLast s (.ingressSends bytes) := by
  have hold := h.untruncated
  unfold KeepsUntruncated
  simp only [Relay.step, EgressEndsLast]
  cases hended : s.fromIngress.ended with
  | true =>
    -- nothing more is sent
    rw [Pipe.write_of_ended hended]
    exact iff_of_true hold fun _ => Or.inl rfl
  | false =>
    have hsent := Pipe.sent_write_of_not_ended hended bytes bytes.length
    rw [List.take_length] at hsent
    constructor
    · intro hnew hreturned
      have hforward := hnew.forward hreturned
      simp only [hsent, hold.forward hreturned] at hforward
      exact Or.inr (by simpa using hforward)
    · intro hnothing
      refine ⟨fun hreturned => ?_, hold.back, hold.passedOn⟩
      have hempty : bytes = [] := (hnothing hreturned).resolve_left Bool.false_ne_true
      simp only [hsent]
      rw [hempty, List.append_nil]
      exact hold.forward hreturned

/-- What `egress` sends is over when the function returns. -/
private theorem untruncated_egressSends (h : RelayInvariant s) (bytes : List UInt8) :
    Untruncated (s.step (.egressSends bytes)) := by
  have hold := h.untruncated
  refine ⟨hold.forward, fun hreturned => ?_, hold.passedOn⟩
  have hdead := (h.back.atEnd (h.closed hreturned).1).2
  simp only [Relay.step, Pipe.write_of_dead hdead]
  exact hold.back hreturned

private theorem untruncated_forward (h : RelayInvariant s) (n : Nat) :
    KeepsUntruncated s (.forward n) ↔ EgressEndsLast s (.forward n) := by
  have hold := h.untruncated
  unfold KeepsUntruncated
  simp only [Relay.step, EgressEndsLast]
  cases hreturned : s.returned with
  | true =>
    simp only [if_true]
    exact iff_of_true ⟨fun _ => hold.forward hreturned, fun _ => hold.back hreturned,
      fun _ => Or.inl (h.closed hreturned).2⟩ nofun
  | false =>
    have hopen := (h.open_ hreturned).2
    simp only [Bool.false_eq_true, if_false, forall_const]
    rw [untruncated_of_running rfl]
    rcases s.forward.copy_cases n s.fromIngress s.toEgress hopen with
      ⟨hdone, heq⟩ | ⟨hdone, hbuf, hdead, heq⟩ | ⟨hdone, hbuf, hdead, heq⟩ | ⟨hdone, hbuf, heq⟩
    · rw [heq]
      exact iff_of_true hold.passedOn (by simp [hdone])
    · -- the loop has come to the end of its source
      rw [heq]
      simp [hdone, hbuf, hdead, hopen]
    · rw [heq]
      simp [hdone, hdead]
    · rw [heq]
      simp [hbuf]

private theorem untruncated_back (h : RelayInvariant s) (n : Nat) :
    Untruncated (s.step (.back n)) := by
  have hold := h.untruncated
  simp only [Relay.step]
  cases hreturned : s.returned with
  | true =>
    simp only [if_true]
    exact hold
  | false =>
    simp only [Bool.false_eq_true, if_false]
    rw [untruncated_of_running rfl]
    intro hdone
    have hback : s.back.done = true :=
      (hold.passedOn hdone).resolve_left (by simp [(h.open_ hreturned).2])
    -- a loop that has ended stays so
    rcases s.back.copy_cases n s.fromEgress s.toIngress (h.open_ hreturned).1 with
      ⟨-, heq⟩ | ⟨hrun, -⟩ | ⟨hrun, -⟩ | ⟨hrun, -⟩
    · rw [heq]
      exact Or.inr hback
    all_goals
      rw [hback] at hrun
      exact nomatch hrun

private theorem untruncated_returns (h : RelayInvariant s) :
    KeepsUntruncated s .returns ↔ EgressEndsLast s .returns := by
  have hold := h.untruncated
  unfold KeepsUntruncated
  simp only [Relay.step, EgressEndsLast]
  cases hdone : s.back.done with
  | false =>
    simp only [Bool.false_eq_true, if_false]
    exact iff_of_true hold nofun
  | true =>
    simp only [if_true, forall_const]
    constructor
    · intro hnew _
      exact hnew.forward rfl
    · intro hall
      refine ⟨fun _ => ?_, fun _ => ?_, fun _ => Or.inl rfl⟩
      · cases hreturned : s.returned with
        | true => exact hold.forward hreturned
        | false => exact hall hreturned
      · exact h.back.sent_eq hdone h.unbroken.2

/-- A step truncates nothing exactly if `egress` ends last, as far as the step shows. -/
private theorem keepsUntruncated_iff (h : RelayInvariant s) (e : RelayEvent) :
    KeepsUntruncated s e ↔ EgressEndsLast s e := by
  have hold := h.untruncated
  cases e with
  | ingressSends bytes => exact untruncated_ingressSends h bytes
  | forward n => exact untruncated_forward h n
  | returns => exact untruncated_returns h
  | egressSends bytes => exact iff_of_true (untruncated_egressSends h bytes) trivial
  | back n => exact iff_of_true (untruncated_back h n) trivial
  | ingressCloses => exact iff_of_true ⟨hold.forward, hold.back, hold.passedOn⟩ trivial
  | egressCloses => exact iff_of_true ⟨hold.forward, hold.back, hold.passedOn⟩ trivial

/-- The endpoints and the loops keep the invariant, as long as nothing is truncated. -/
private theorem relayInvariant_step (h : RelayInvariant s) (e : RelayEvent)
    (hkeeps : KeepsUntruncated s e) : RelayInvariant (s.step e) := by
  cases e with
  | ingressSends bytes =>
    exact ⟨hkeeps, ⟨by simpa [Relay.step] using h.unbroken.1, h.unbroken.2⟩, h.open_, h.closed,
      fun hreturned => (h.forward hreturned).src_write bytes bytes.length, h.back⟩
  | ingressCloses =>
    exact ⟨hkeeps, h.unbroken, h.open_, h.closed, fun hreturned => (h.forward hreturned).src_finish,
      h.back⟩
  | egressSends bytes =>
    exact ⟨hkeeps, ⟨h.unbroken.1, by simpa [Relay.step] using h.unbroken.2⟩, h.open_, h.closed,
      h.forward, h.back.src_write bytes bytes.length⟩
  | egressCloses =>
    exact ⟨hkeeps, h.unbroken, h.open_, h.closed, h.forward, h.back.src_finish⟩
  | forward n =>
    cases hreturned : s.returned with
    | true =>
      have hstep : s.step (.forward n) = { s with forward := { s.forward with done := true } } := by
        simp only [Relay.step, hreturned, if_true]
      have hreturned' : (s.step (.forward n)).returned = true := by rw [hstep]; exact hreturned
      unfold KeepsUntruncated at hkeeps
      rw [hstep] at hkeeps hreturned' ⊢
      refine ⟨hkeeps, h.unbroken, h.open_, h.closed, fun hrunning => ?_, h.back⟩
      rw [hreturned'] at hrunning
      exact nomatch hrunning
    | false =>
      have hopen := h.open_ hreturned
      have hforward := h.forward hreturned
      unfold KeepsUntruncated at hkeeps
      simp only [Relay.step, hreturned, Bool.false_eq_true, if_false] at hkeeps ⊢
      refine ⟨hkeeps, ⟨?_, h.unbroken.2⟩, fun _ => ⟨hopen.1, ?_⟩, nofun, fun _ => ?_, h.back⟩
      · rw [Pump.broken_src_copy]
        exact h.unbroken.1
      · exact Pump.ended_dst_copy _ n _ hopen.2
      · exact hforward.copy hopen.2 n
  | back n =>
    cases hreturned : s.returned with
    | true =>
      have hstep : s.step (.back n) = s := by
        simp only [Relay.step, hreturned, if_true]
      rw [hstep]
      exact h
    | false =>
      have hopen := h.open_ hreturned
      unfold KeepsUntruncated at hkeeps
      simp only [Relay.step, hreturned, Bool.false_eq_true, if_false] at hkeeps ⊢
      refine ⟨hkeeps, ⟨h.unbroken.1, ?_⟩, fun _ => ⟨?_, hopen.2⟩, nofun,
        fun _ => h.forward hreturned, ?_⟩
      · rw [Pump.broken_src_copy]
        exact h.unbroken.2
      · exact Pump.ended_dst_copy _ n _ hopen.1
      · exact h.back.copy hopen.1 n
  | returns =>
    unfold KeepsUntruncated at hkeeps
    cases hdone : s.back.done with
    | false =>
      have hstep : s.step .returns = s := by
        simp [Relay.step, hdone]
      rw [hstep]
      exact h
    | true =>
      simp only [Relay.step, hdone, if_true] at hkeeps ⊢
      exact ⟨hkeeps, h.unbroken, nofun, fun _ => ⟨hdone, rfl⟩, nofun,
        h.back.congr rfl id rfl⟩

end

/-- For all streams the endpoints send, however they are cut and however the two loops
    take turns, each endpoint closing its sending direction at any moment: in every step of
    the run nothing is truncated or withheld, if and only if at every step `egress` ends
    last. -/
theorem untruncated_iff_egress_ends_last (events : List RelayEvent) :
    Trace.Along Relay.step KeepsUntruncated .start events ↔
      Trace.Along Relay.step EgressEndsLast .start events :=
  Trace.along_iff_of_invariant (I := RelayInvariant)
    (fun _ e h hkeeps => relayInvariant_step h e hkeeps)
    (fun _ e h => keepsUntruncated_iff h e) relayInvariant_start

/-! ## A request and its response -/

/-- `handleExternalConnection`: the peer sends a request and closes its direction, and the
    target answers when it has read the end of the request. -/
theorem not_untruncated :
    ¬ ∀ events, Trace.Along Relay.step KeepsUntruncated .start events := by
  intro h
  have hbad := h [.egressSends [1], .egressCloses, .back 1, .back 1, .back 1, .returns,
    .ingressSends [2]]
  -- the function has returned at the end of the request
  obtain ⟨-, -, -, -, -, -, hlast, -⟩ := hbad
  exact absurd (hlast.forward (by decide)) (by decide)

end KubeGateway.Gateway
