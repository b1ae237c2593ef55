import KubeGateway.ForStd.Trace
import KubeGateway.Native.HttpWrites
import KubeGateway.Spec.BannedWords

/-!
# The order of the responses

The application may send a request before the last one is answered.  If the policy
blocks it, the goroutine answers it at once, also while the target has an older
request to answer, and also while the response loop is writing an older answer.  The
responses come in order, each in one piece, as long as a request is only blocked when
all the requests before it have been answered.

The target is taken at its word: on one connection it answers requests in the order
it is sent them, with any number of interim responses before a final one.
-/

namespace KubeGateway.Gateway

open Framing

/-- The calls made, and those that are left of the responses begun. -/
def HttpWrites.calls (s : HttpWrites) : List WriteCall :=
  s.written ++ (s.answering ++ s.refusing)

/-- The requests of these calls, and those that the target has to answer. -/
def HttpWrites.order (s : HttpWrites) : List Nat :=
  s.calls.map WriteCall.request ++ s.unanswered

/-- What holds in every run so far. -/
structure OrderInvariant (s : HttpWrites) : Prop where
  sorted : s.order.Pairwise (· ≤ ·)
  taken : ∀ i ∈ s.order, i < s.gateway.requests.taken.length
  inTurn : (s.calls.map WriteCall.response).Pairwise (· ≤ ·)
  begun : ∀ n ∈ s.calls.map WriteCall.response, n < s.begun
  alone : s.refusing ≠ [] → s.answering = [] ∧ s.unanswered = []

section

variable {net : NetHttp} {sdk : Sdk} {s s' : HttpWrites}

/-- Requests may be read as long as the calls stay the same, made or not. -/
private theorem OrderInvariant.congr (h : OrderInvariant s) (hcalls : s'.calls = s.calls)
    (hbegun : s'.begun = s.begun) (hunanswered : s'.unanswered = s.unanswered)
    (htaken : s.gateway.requests.taken.length ≤ s'.gateway.requests.taken.length)
    (halone : s'.refusing ≠ [] → s'.answering = [] ∧ s'.unanswered = []) : OrderInvariant s' where
  sorted := by
    rw [HttpWrites.order, hcalls, hunanswered]
    exact h.sorted
  taken := by
    rw [HttpWrites.order, hcalls, hunanswered]
    exact fun i hi => Nat.lt_of_lt_of_le (h.taken i hi) htaken
  inTurn := by
    rw [hcalls]
    exact h.inTurn
  begun := by
    rw [hcalls, hbegun]
    exact h.begun
  alone := halone

/-- Copies of a number that is above all numbers so far go to the end. -/
private theorem pairwise_append_replicate {l : List Nat} {i : Nat} (n : Nat)
    (hsorted : l.Pairwise (· ≤ ·)) (hle : ∀ j ∈ l, j ≤ i) :
    (l ++ List.replicate n i).Pairwise (· ≤ ·) := by
  refine List.pairwise_append.mpr
    ⟨hsorted, List.pairwise_replicate.mpr (Or.inr (Nat.le_refl i)), fun j hj k hk => ?_⟩
  rw [List.eq_of_mem_replicate hk]
  exact hle j hj

/-- A request that is handed to the target is the youngest. -/
private theorem OrderInvariant.forward (h : OrderInvariant s) (hcalls : s'.calls = s.calls)
    (hbegun : s'.begun = s.begun)
    (hunanswered : s'.unanswered = s.unanswered ++ [s.gateway.requests.taken.length])
    (htaken : s'.gateway.requests.taken.length = s.gateway.requests.taken.length + 1)
    (hrefusing : s'.refusing = []) : OrderInvariant s' := by
  have horder : s'.order = s.order ++ List.replicate 1 s.gateway.requests.taken.length := by
    rw [HttpWrites.order, hcalls, hunanswered, ← List.append_assoc]
    rfl
  refine ⟨?_, ?_, ?_, ?_, fun hne => absurd hrefusing hne⟩
  · rw [horder]
    exact pairwise_append_replicate 1 h.sorted fun j hj => Nat.le_of_lt (h.taken j hj)
  · intro j hj
    rw [horder, List.mem_append] at hj
    rw [htaken]
    obtain hj | hj := hj
    · exact Nat.lt_succ_of_lt (h.taken j hj)
    · rw [List.eq_of_mem_replicate hj]
      exact Nat.lt_succ_self _
  · rw [hcalls]
    exact h.inTurn
  · rw [hcalls, hbegun]
    exact h.begun

end

end KubeGateway.Gateway
