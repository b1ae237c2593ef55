import KubeGateway.ForStd.Trace
import KubeGateway.Native.Outbound

/-!
# Outbound connections and their handlers

A handler closes what it has dialled by what it defers.  Five of the six defer the
`Close` right behind the dial; `directConnect` defers none, so the connection to its
target is open when it returns.  In every other way a handler can end nothing stays
open, and the connections of the other handlers are not touched.
-/

namespace KubeGateway.Gateway

/-- Each open outbound connection belongs to a handler that has not returned. -/
def Outbound.Owned (g : Outbound) : Prop := Resource.Owned g.owner fun i => g.running i = true

/-- The call that returns is the gateway function of `directConnect`, which has dialled
    its target by then. -/
def Outbound.EndsDirectConnect (g : Outbound) : OutboundEvent → Prop
  | .reply i (.done _) =>
    g.exited = false ∧
      ∃ s dst wire, g.table i = some s ∧ s.handler = .internal (.relay .directConnect dst wire)
  | _ => False

/-! ## Handlers -/

/-- The handler is `directConnect`, behind its dial. -/
def Handler.keepsOpen : Handler → Bool
  | .internal (.writeDestination fn _ _) => fn = .directConnect
  | .internal (.readAck fn _ _) => fn = .directConnect
  | .internal (.relay fn _ _) => fn = .directConnect
  | _ => false

theorem Handler.returned_start (fn : HandlerFn) : fn.start.returned = false := by
  cases fn <;> rfl

theorem Handler.keepsOpen_start (fn : HandlerFn) : fn.start.keepsOpen = false := by
  cases fn <;> rfl

section

variable {pki : Pki} {c : Config} {r : Reply} {h h' : Handler}

/-- Behind a dial that succeeds the handler runs, and keeps the connection open exactly
    if it has not deferred the `Close`. -/
private theorem next_of_dials (hnext : h.next pki c r = some h') (hdials : h.dials r = true) :
    h.keepsOpen = false ∧ h'.returned = false ∧ h'.keepsOpen = !h.defersClose := by
  unfold Handler.dials at hdials
  split at hdials
  · rename_i fn dst wire endpoint
    cases fn <;> simp [Handler.next, Internal.next] at hnext <;> subst hnext <;>
      exact ⟨rfl, rfl, rfl⟩
  · simp only [Handler.next, External.next, Option.some.injEq] at hnext
    subst hnext
    exact ⟨rfl, rfl, rfl⟩
  · cases hdials

/-- Any other call leaves the handler on its side of the dial, unless it returns. -/
private theorem keepsOpen_next (hnext : h.next pki c r = some h') (hdials : h.dials r = false)
    (hreturned : h'.returned = false) : h'.keepsOpen = h.keepsOpen := by
  cases h with
  | internal h =>
    unfold Handler.next at hnext
    dsimp only at hnext
    split at hnext
    · exact nomatch hnext
    · rename_i hexited
      rw [Option.some.injEq] at hnext
      subst hnext
      unfold Internal.next at hexited hreturned ⊢
      split <;> simp_all [Handler.keepsOpen, Handler.returned, Handler.dials]
      -- what is left is the test of the certificates
      rename_i fn dst _
      rcases Internal.afterTest_cases pki c fn dst with h | ⟨wire, endpoint, h⟩
      · exact absurd h hexited
      · rw [h]
  | external fn h =>
    rw [Handler.next, Option.some.injEq] at hnext
    subst hnext
    rfl

/-- A handler that returns is `directConnect` behind its dial exactly if its gateway
    function has returned. -/
private theorem keepsOpen_of_returns (hnext : h.next pki c r = some h')
    (hreturned : h'.returned = true) (hrunning : h.returned = false) :
    h.keepsOpen = true ↔
      (∃ dst wire, h = .internal (.relay .directConnect dst wire)) ∧ ∃ ok, r = .done ok := by
  cases h with
  | internal h =>
    unfold Handler.next at hnext
    dsimp only at hnext
    split at hnext
    · exact nomatch hnext
    · rename_i hexited
      rw [Option.some.injEq] at hnext
      subst hnext
      unfold Internal.next at hexited hreturned
      split at hreturned <;> simp_all [Handler.keepsOpen, Handler.returned]
  | external fn h => simp [Handler.keepsOpen]

end

/-! ## What a goroutine accounts for -/

/-- What the goroutine of `i` has deferred the closing of is open and its own, and it is
    all that `i` has open unless the handler is `directConnect` behind its dial. -/
structure Goroutine.Accounts (owner : Nat → Option Nat) (i : Nat) (s : Goroutine) : Prop where
  deferred : ∀ targetConn ∈ s.deferred, owner targetConn = some i
  all_iff : (∀ targetConn, owner targetConn = some i → targetConn ∈ s.deferred) ↔
    s.handler.keepsOpen = false

theorem Goroutine.Accounts.congr {owner owner' : Nat → Option Nat} {i : Nat} {s : Goroutine}
    (h : s.Accounts owner i) (howner : ∀ t, owner' t = some i ↔ owner t = some i) :
    s.Accounts owner' i := by
  refine ⟨fun t ht => (howner t).mpr (h.deferred t ht), ?_⟩
  simp only [howner]
  exact h.all_iff

/-- A goroutine that has dialled `targetConn`. -/
theorem Goroutine.accounts_dial {owner : Nat → Option Nat} {i targetConn : Nat} {s : Goroutine}
    {h : Handler} (haccounts : s.Accounts owner i) (hfresh : owner targetConn = none)
    (hbefore : s.handler.keepsOpen = false) (hkeeps : h.keepsOpen = !s.handler.defersClose) :
    Goroutine.Accounts (Resource.acquire owner targetConn i) i
      ⟨h, if s.handler.defersClose then targetConn :: s.deferred else s.deferred⟩ := by
  have hall := haccounts.all_iff.mpr hbefore
  have hnew : targetConn ∉ s.deferred := by
    intro hmem
    rw [haccounts.deferred targetConn hmem] at hfresh
    exact nomatch hfresh
  have hold : ∀ t ∈ s.deferred, Resource.acquire owner targetConn i t = some i := by
    intro t ht
    have hne : t ≠ targetConn := fun heq => hnew (heq ▸ ht)
    rw [Resource.acquire_of_ne hne]
    exact haccounts.deferred t ht
  cases hdefers : s.handler.defersClose with
  | true =>
    rw [if_pos rfl]
    refine ⟨?_, iff_of_true ?_ (by rw [hkeeps, hdefers]; rfl)⟩
    · intro t ht
      rcases List.mem_cons.mp ht with rfl | ht
      · exact Resource.acquire_self t i
      · exact hold t ht
    · intro t ht
      rcases Resource.acquire_eq_some.mp ht with ⟨rfl, -⟩ | ⟨-, ht⟩
      · exact List.mem_cons_self
      · exact List.mem_cons_of_mem _ (hall t ht)
  | false =>
    rw [if_neg Bool.false_ne_true]
    refine ⟨hold, iff_of_false ?_ (by rw [hkeeps, hdefers]; exact Bool.noConfusion)⟩
    intro hmem
    exact hnew (hmem targetConn (Resource.acquire_self targetConn i))

/-! ## The invariant -/

/-- What holds of every state in which each open connection belongs to a handler. -/
structure OutboundInvariant (g : Outbound) : Prop where
  owned : g.Owned
  fresh : ∀ targetConn i, g.owner targetConn = some i → targetConn < g.dialled
  accounts : g.exited = false → ∀ i s, g.table i = some s → s.handler.returned = false →
    s.Accounts g.owner i

theorem Outbound.table_set_self (g : Outbound) (i : Nat) (s : Goroutine) :
    (g.set i s).table i = some s := Function.update_self _ _ _

theorem Outbound.table_set_of_ne (g : Outbound) {i j : Nat} (hji : j ≠ i) (s : Goroutine) :
    (g.set i s).table j = g.table j := Function.update_of_ne hji _ _

theorem Outbound.running_set_self (g : Outbound) (i : Nat) (s : Goroutine) :
    (g.set i s).running i = !s.handler.returned := by
  unfold running
  rw [table_set_self]
  rfl

theorem Outbound.running_set_of_ne (g : Outbound) {i j : Nat} (hji : j ≠ i) (s : Goroutine) :
    (g.set i s).running j = g.running j := by
  unfold running
  rw [table_set_of_ne g hji]

/-- A goroutine that runs takes nothing from the others. -/
theorem Outbound.running_set (g : Outbound) (i : Nat) {s : Goroutine}
    (hs : s.handler.returned = false) {j : Nat} (hj : g.running j = true) :
    (g.set i s).running j = true := by
  by_cases hji : j = i
  · rw [hji, running_set_self, hs]
    rfl
  · rw [running_set_of_ne g hji]
    exact hj

theorem Outbound.running_of_table {g : Outbound} {i : Nat} {s : Goroutine}
    (hs : g.table i = some s) : g.running i = !s.handler.returned := by
  unfold running
  rw [hs]
  rfl

/-- What a step does, with what the proofs below need of it. -/
inductive OutboundStep (g : Outbound) (e : OutboundEvent) : Outbound → Prop
  | same (hends : ¬ g.EndsDirectConnect e) : OutboundStep g e g
  | loaded (certs : Option Certs) (hends : ¬ g.EndsDirectConnect e) :
    OutboundStep g e { g with config := { g.config with certificates := certs } }
  | accepted (i : Nat) (fn : HandlerFn) (hnew : g.table i = none)
    (hends : ¬ g.EndsDirectConnect e) : OutboundStep g e (g.set i ⟨fn.start, []⟩)
  | called (i : Nat) (s : Goroutine) (h : Handler) (hs : g.table i = some s)
    (hrunning : s.handler.returned = false) (hnext : h.returned = false)
    (hkeeps : h.keepsOpen = s.handler.keepsOpen) (hends : ¬ g.EndsDirectConnect e) :
    OutboundStep g e (g.set i { s with handler := h })
  | dialled (i : Nat) (s : Goroutine) (h : Handler) (hs : g.table i = some s)
    (hrunning : s.handler.returned = false) (hbefore : s.handler.keepsOpen = false)
    (hnext : h.returned = false) (hkeeps : h.keepsOpen = !s.handler.defersClose)
    (hends : ¬ g.EndsDirectConnect e) : OutboundStep g e (g.dial i s h)
  | returned (i : Nat) (s : Goroutine) (h : Handler) (hup : g.exited = false)
    (hs : g.table i = some s) (hrunning : s.handler.returned = false)
    (hreturned : h.returned = true) (hends : s.handler.keepsOpen = true ↔ g.EndsDirectConnect e) :
    OutboundStep g e (g.returns i s h)
  | collected (targetConn i : Nat) (howner : g.owner targetConn = some i)
    (hreturned : g.running i = false) (hends : ¬ g.EndsDirectConnect e) :
    OutboundStep g e { g with owner := Resource.close g.owner [targetConn] }
  | exited (hends : ¬ g.EndsDirectConnect e) : OutboundStep g e g.exit

section

variable {pki : Pki} {g g' : Outbound} {e : OutboundEvent}

theorem exited_of_endsDirectConnect (h : g.EndsDirectConnect e) : g.exited = false := by
  unfold Outbound.EndsDirectConnect at h
  split at h
  · exact h.1
  · exact h.elim

theorem table_of_endsDirectConnect {i : Nat} {r : Reply} (h : g.EndsDirectConnect (.reply i r)) :
    ∃ s, g.table i = some s ∧
      (∃ dst wire, s.handler = .internal (.relay .directConnect dst wire)) ∧
      ∃ ok, r = .done ok := by
  cases r with
  | done ok =>
    obtain ⟨-, s, dst, wire, hs, hrelay⟩ := h
    exact ⟨s, hs, ⟨dst, wire, hrelay⟩, ok, rfl⟩
  | target dst => exact h.elim
  | data bytes ok => exact h.elim

/-- The call of a goroutine that returns ends `directConnect` exactly in its gateway
    function. -/
private theorem endsDirectConnect_reply {i : Nat} {s : Goroutine} {r : Reply}
    (hup : g.exited = false) (hs : g.table i = some s) :
    g.EndsDirectConnect (.reply i r) ↔
      (∃ dst wire, s.handler = .internal (.relay .directConnect dst wire)) ∧
        ∃ ok, r = .done ok := by
  constructor
  · intro hend
    obtain ⟨s', hs', hrelay⟩ := table_of_endsDirectConnect hend
    rw [hs, Option.some.injEq] at hs'
    rw [hs']
    exact hrelay
  · rintro ⟨⟨dst, wire, hrelay⟩, ok, rfl⟩
    exact ⟨hup, s, dst, wire, hs, hrelay⟩

/-- The gateway function of `directConnect` returns to it. -/
private theorem next_relay (c : Config) (dst : Target) (wire : Wire) (ok : Bool) :
    Handler.next pki c (.done ok) (.internal (.relay .directConnect dst wire)) =
      some (.internal .returned) := rfl

private theorem reply_step {i : Nat} {s : Goroutine} {r : Reply} (hup : g.exited = false)
    (hs : g.table i = some s) (hrunning : s.handler.returned = false) :
    OutboundStep g (.reply i r) (g.reply pki i s r) := by
  have hends := endsDirectConnect_reply (r := r) hup hs
  have hgoes : ∀ h, s.handler.next pki g.config r = some h → h.returned = false →
      ¬ g.EndsDirectConnect (.reply i r) := by
    rintro h hnext hreturned hend
    obtain ⟨⟨dst, wire, hrelay⟩, ok, rfl⟩ := hends.mp hend
    rw [hrelay, next_relay, Option.some.injEq] at hnext
    subst hnext
    exact nomatch hreturned
  unfold Outbound.reply
  split
  · rename_i hnext
    refine .exited fun hend => ?_
    obtain ⟨⟨dst, wire, hrelay⟩, ok, rfl⟩ := hends.mp hend
    rw [hrelay, next_relay] at hnext
    exact nomatch hnext
  · rename_i h hnext
    split
    · rename_i hdials
      obtain ⟨hbefore, hreturned, hkeeps⟩ := next_of_dials hnext hdials
      exact .dialled i s h hs hrunning hbefore hreturned hkeeps (hgoes h hnext hreturned)
    · rename_i hdials
      rw [Bool.not_eq_true] at hdials
      split
      · rename_i hreturned
        exact .returned i s h hup hs hrunning hreturned
          ((keepsOpen_of_returns hnext hreturned hrunning).trans hends.symm)
      · rename_i hreturned
        rw [Bool.not_eq_true] at hreturned
        exact .called i s h hs hrunning hreturned (keepsOpen_next hnext hdials hreturned)
          (hgoes h hnext hreturned)

private theorem outboundStep_step (pki : Pki) (g : Outbound) (e : OutboundEvent) :
    OutboundStep g e (g.step pki e) := by
  unfold Outbound.step
  split
  · rename_i hexited
    refine .same fun hend => ?_
    rw [exited_of_endsDirectConnect hend] at hexited
    cases hexited
  · rename_i hup
    rw [Bool.not_eq_true] at hup
    cases e with
    | loads certs =>
      dsimp only
      split
      · exact .loaded certs id
      · exact .same id
    | accept i fn =>
      dsimp only
      split
      · exact .same id
      · rename_i hnew
        split
        · exact .accepted i fn hnew id
        · exact .same id
    | reply i r =>
      dsimp only
      split
      · rename_i hnone
        refine .same fun hend => ?_
        obtain ⟨s, hs, -⟩ := table_of_endsDirectConnect hend
        rw [hnone] at hs
        cases hs
      · rename_i s hs
        split
        · rename_i hreturned
          refine .same fun hend => ?_
          obtain ⟨⟨dst, wire, hrelay⟩, -⟩ := (endsDirectConnect_reply hup hs).mp hend
          rw [hrelay] at hreturned
          cases hreturned
        · rename_i hrunning
          rw [Bool.not_eq_true] at hrunning
          exact reply_step hup hs hrunning
    | collects targetConn =>
      dsimp only
      split
      · exact .same id
      · rename_i i howner
        split
        · exact .same id
        · rename_i hreturned
          rw [Bool.not_eq_true] at hreturned
          exact .collected targetConn i howner hreturned id
    | exits => exact .exited id

/-- After a step every open connection belongs to a handler again, unless
    `directConnect` has returned from its gateway function. -/
private theorem owned_step_iff (hinv : OutboundInvariant g) (hstep : OutboundStep g e g') :
    g'.Owned ↔ ¬ g.EndsDirectConnect e := by
  cases hstep with
  | same hends => exact iff_of_true hinv.owned hends
  | loaded certs hends => exact iff_of_true hinv.owned hends
  | accepted i fn hnew hends =>
    refine iff_of_true (hinv.owned.mono fun j => ?_) hends
    exact Outbound.running_set g i (Handler.returned_start fn)
  | called i s h hs hrunning hnext hkeeps hends =>
    refine iff_of_true (hinv.owned.mono fun j => ?_) hends
    exact Outbound.running_set g i hnext
  | dialled i s h hs hrunning hbefore hnext hkeeps hends =>
    have hothers : ∀ j, g.running j = true → (g.dial i s h).running j = true :=
      fun j => Outbound.running_set g i hnext
    have hself : (g.dial i s h).running i = true := by
      show (g.set i _).running i = true
      rw [Outbound.running_set_self, hnext]
      rfl
    exact iff_of_true (Resource.owned_acquire (hinv.owned.mono hothers) g.dialled hself) hends
  | returned i s h hup hs hrunning hreturned hends =>
    have hended : ¬ (g.returns i s h).running i = true := by
      show ¬ (g.set i _).running i = true
      rw [Outbound.running_set_self, hreturned]
      exact Bool.false_ne_true
    have hothers : ∀ j, j ≠ i → (g.running j = true ↔ (g.returns i s h).running j = true) := by
      intro j hji
      show g.running j = true ↔ (g.set i _).running j = true
      rw [Outbound.running_set_of_ne g hji]
    have hall := (hinv.accounts hup i s hs hrunning).all_iff
    rw [← hends, Bool.not_eq_true, ← hall]
    exact Resource.owned_close_iff hinv.owned hended hothers
  | collected targetConn i howner hreturned hends =>
    exact iff_of_true (Resource.owned_close hinv.owned [targetConn]) hends
  | exited hends => exact iff_of_true (Resource.owned_none _) hends

/-- What the others account for is not touched by a goroutine's own connections. -/
private theorem accounts_set {i : Nat} {s' : Goroutine} {owner : Nat → Option Nat}
    (hinv : OutboundInvariant g) (hup : g.exited = false)
    (howner : ∀ t j, j ≠ i → (owner t = some j ↔ g.owner t = some j))
    (hself : s'.handler.returned = false → s'.Accounts owner i) :
    ∀ j s, (g.set i s').table j = some s → s.handler.returned = false → s.Accounts owner j := by
  intro j s hs hrunning
  by_cases hji : j = i
  · subst hji
    rw [Outbound.table_set_self, Option.some.injEq] at hs
    subst hs
    exact hself hrunning
  · rw [Outbound.table_set_of_ne g hji] at hs
    exact (hinv.accounts hup j s hs hrunning).congr fun t => howner t j hji

private theorem outboundInvariant_dial {i : Nat} {s : Goroutine} {h : Handler}
    (hinv : OutboundInvariant g) (hs : g.table i = some s) (hrunning : s.handler.returned = false)
    (hbefore : s.handler.keepsOpen = false) (hkeeps : h.keepsOpen = !s.handler.defersClose)
    (howned : (g.dial i s h).Owned) : OutboundInvariant (g.dial i s h) := by
  have hnew : g.owner g.dialled = none := by
    rw [Option.eq_none_iff_forall_ne_some]
    intro j hj
    exact Nat.lt_irrefl _ (hinv.fresh g.dialled j hj)
  refine ⟨howned, ?_, fun hup => accounts_set hinv hup ?_ ?_⟩
  · intro t j ht
    show t < g.dialled + 1
    rcases Resource.acquire_eq_some.mp ht with ⟨rfl, -⟩ | ⟨-, ht⟩
    · omega
    · have := hinv.fresh t j ht
      omega
  · intro t j hji
    show Resource.acquire g.owner g.dialled i t = some j ↔ g.owner t = some j
    by_cases ht : t = g.dialled
    · subst ht
      rw [Resource.acquire_self, hnew, Option.some.injEq]
      exact iff_of_false (fun hij => hji hij.symm) (Option.some_ne_none j).symm
    · rw [Resource.acquire_of_ne ht]
  · intro _
    exact Goroutine.accounts_dial (hinv.accounts hup i s hs hrunning) hnew hbefore hkeeps

private theorem outboundInvariant_returns {i : Nat} {s : Goroutine} {h : Handler}
    (hinv : OutboundInvariant g) (hup : g.exited = false) (hs : g.table i = some s)
    (hrunning : s.handler.returned = false) (hreturned : h.returned = true)
    (howned : (g.returns i s h).Owned) : OutboundInvariant (g.returns i s h) := by
  have hfresh : ∀ t j, (g.returns i s h).owner t = some j → t < g.dialled :=
    fun t j ht => hinv.fresh t j (Resource.close_eq_some.mp ht).2
  refine ⟨howned, hfresh, fun _ => accounts_set hinv hup ?_ ?_⟩
  · -- what is closed is the goroutine's own
    intro t j hji
    show Resource.close g.owner s.deferred t = some j ↔ g.owner t = some j
    rw [Resource.close_eq_some, and_iff_right_iff_imp]
    intro ht hmem
    rw [(hinv.accounts hup i s hs hrunning).deferred t hmem, Option.some.injEq] at ht
    exact hji ht.symm
  · intro hnext
    rw [hreturned] at hnext
    cases hnext

private theorem outboundInvariant_step (hinv : OutboundInvariant g) (hstep : OutboundStep g e g')
    (howned : g'.Owned) : OutboundInvariant g' := by
  cases hstep with
  | same => exact hinv
  | loaded certs => exact ⟨howned, hinv.fresh, hinv.accounts⟩
  | accepted i fn hnew =>
    refine ⟨howned, hinv.fresh, fun hup => accounts_set hinv hup (fun _ _ _ => Iff.rfl) ?_⟩
    intro _
    -- it has nothing open, as it has not run before
    refine ⟨fun t ht => (nomatch ht), iff_of_true (fun t ht => ?_) (Handler.keepsOpen_start fn)⟩
    have hrunning : g.running i = true := hinv.owned t i ht
    unfold Outbound.running at hrunning
    rw [hnew] at hrunning
    exact nomatch hrunning
  | called i s h hs hrunning hnext hkeeps =>
    refine ⟨howned, hinv.fresh, fun hup => accounts_set hinv hup (fun _ _ _ => Iff.rfl) ?_⟩
    intro _
    have haccounts := hinv.accounts hup i s hs hrunning
    refine ⟨haccounts.deferred, ?_⟩
    rw [hkeeps]
    exact haccounts.all_iff
  | dialled i s h hs hrunning hbefore hnext hkeeps =>
    exact outboundInvariant_dial hinv hs hrunning hbefore hkeeps howned
  | returned i s h hup hs hrunning hreturned =>
    exact outboundInvariant_returns hinv hup hs hrunning hreturned howned
  | collected targetConn i howner hreturned =>
    refine ⟨howned, fun t j ht => hinv.fresh t j (Resource.close_eq_some.mp ht).2, ?_⟩
    intro hup j s hs hrunning
    have hj : g.running j = true := by
      rw [Outbound.running_of_table (g := g) hs, hrunning]
      rfl
    refine (hinv.accounts hup j s hs hrunning).congr fun t => ?_
    show Resource.close g.owner [targetConn] t = some j ↔ g.owner t = some j
    rw [Resource.close_eq_some, and_iff_right_iff_imp, List.mem_singleton]
    rintro ht rfl
    -- the connection belongs to a handler that has returned
    rw [howner, Option.some.injEq] at ht
    rw [ht, hj] at hreturned
    exact nomatch hreturned
  | exited => exact ⟨howned, fun _ _ ht => (nomatch ht), fun hup => nomatch hup⟩

end

private theorem outboundInvariant_start (c : Config) : OutboundInvariant (.start c) :=
  ⟨Resource.owned_none _, fun _ _ h => (nomatch h), fun _ _ _ h => nomatch h⟩

/-- For all connections handled at once by the six handlers, in any mode, with any
    outcome of each call and in any order: in every state the run reaches, each open
    outbound connection belongs to a handler that has not returned, if and only if
    `directConnect` never returns from its gateway function. -/
theorem outbound_owned_iff (pki : Pki) (c : Config) (events : List OutboundEvent) :
    Trace.Along (Outbound.step pki) (fun g e => (g.step pki e).Owned) (.start c) events ↔
      Trace.Along (Outbound.step pki) (fun g e => ¬ g.EndsDirectConnect e) (.start c) events :=
  Trace.along_iff_of_invariant (I := OutboundInvariant)
    (fun g e hinv howned => outboundInvariant_step hinv (outboundStep_step pki g e) howned)
    (fun g e hinv => owned_step_iff hinv (outboundStep_step pki g e)) (outboundInvariant_start c)

/-! ## A request in AI mode -/

/-- An application's connection that is relayed to its target, until one of them closes it. -/
def aiRequest : List OutboundEvent :=
  [.accept 0 (.internal .directConnect), .reply 0 (.target (some ⟨0x0af40005, 80⟩)),
    .reply 0 (.done true), .reply 0 (.done true)]

/-- The connection to the target is open, and nothing is going to close it. -/
theorem not_outbound_owned :
    ∃ c, Setup {} (fun name => if name = "AI" then some [] else none) some = some c ∧
      ¬ Trace.Along (Outbound.step ⟨fun _ => true, fun _ _ => true⟩)
        (fun g e => (g.step ⟨fun _ => true, fun _ _ => true⟩ e).Owned) (.start c) aiRequest := by
  refine ⟨_, rfl, ?_⟩
  rintro ⟨-, -, -, howned, -⟩
  exact absurd (howned 0 0 rfl) (by decide)

end KubeGateway.Gateway
