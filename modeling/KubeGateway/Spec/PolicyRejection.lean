import KubeGateway.ForStd.JsonOutcome
import KubeGateway.Spec.PolicyHistory

/-!
# Rejected policies

A text that is no JSON is not decoded at all.  Of a JSON text that is rejected for
a value of a wrong type, everything else has been decoded into the policy in force
by the time the error is logged: whatever of it differs from that policy takes
effect.
-/

namespace KubeGateway.Gateway

open GoJson

/-! ## What a document holds -/

def promtReplaceOutcome : Outcome promtReplaceLayout.target :=
  Outcomes.struct promtReplaceLayout (.cons .string (.cons .string (.cons .bool .nil)))

def modelReplaceOutcome : Outcome modelReplaceLayout.target :=
  Outcomes.struct modelReplaceLayout (.cons .string (.cons .string .nil))

def requestOutcome : Outcome requestLayout.target :=
  Outcomes.struct requestLayout
    (.cons .string
      (.cons modelReplaceOutcome.slice
        (.cons promtReplaceOutcome.slice
          (.cons promtReplaceOutcome.slice
            (.cons .bool
              (.cons .bool .nil))))))

def responseOutcome : Outcome responseLayout.target :=
  Outcomes.struct responseLayout (.cons .bool (.cons Outcome.string.slice .nil))

def transactionOutcome : Outcome transactionLayout.target :=
  Outcomes.struct transactionLayout
    (.cons .unsupported (.cons requestOutcome.pointer (.cons responseOutcome.pointer .nil)))

/-- As far as its values can be read, a document says what the policy says already. -/
def AITransaction.Holds (c : AITransaction) (j : Json) : Prop := transactionOutcome.Leaves [j] c c

/-- A document is read into a policy without changing it. -/
theorem AITransaction.bare_decode_iff (c : AITransaction) (j : Json) :
    (transactionLayout.target.decode j c).bare = c.bare ↔ c.Holds j := by
  rw [← same_transaction]
  exact transactionOutcome.leaves_iff [j] c c

/-! ## The event that brings it -/

section

variable {parse : String → Option Json} {podname namespace_ : String} {w : Watch} {m : ConfigMap}

/-- Rejected or not, a version of the ConfigMap leaves the policy as it was exactly
    if it is no JSON, or holds of the policy. -/
theorem policy_unchanged_iff {e : WatchEvent} (hw : w.Running podname namespace_)
    (hm : m.For podname namespace_) (he : e.Writes m) :
    (w.step parse e).config.bare = w.config.bare ↔
      ∀ j, parse m.config = some j → w.config.Holds j := by
  rw [step_of_writes hw hm he]
  show (w.config.unmarshal parse m.config).1.bare = _ ↔ _
  unfold AITransaction.unmarshal
  cases hj : parse m.config with
  | none => simp
  | some j => simp [AITransaction.bare_decode_iff]

end

/-- The policy an event leaves that brings a rejected version is the policy before it
    exactly if the version is no JSON, or says nothing else as far as it can be read. -/
theorem rejected_policy_unchanged_iff (parse : String → Option Json)
    (podname namespace_ : String) (w : Watch) (m : ConfigMap) (e : WatchEvent)
    (hw : w.Running podname namespace_) (hm : m.For podname namespace_) (he : e.Writes m)
    (hreject : (w.config.unmarshal parse m.config).2 = false) :
    (w.step parse e).config.bare = w.config.bare ↔
      parse m.config = none ∨
        ∃ j, parse m.config = some j ∧ transactionLayout.target.accepts j = false ∧
          w.config.Holds j := by
  rw [policy_unchanged_iff hw hm he]
  unfold AITransaction.unmarshal at hreject
  cases hj : parse m.config with
  | none => simp
  | some j =>
    have haccepts : transactionLayout.target.accepts j = false := by
      rw [hj] at hreject
      exact hreject
    simp [haccepts]

/-- A watch with rules for requests and for responses. -/
def ruledWatch : Watch :=
  { Watch.newWatcher "web" "default" with
    config :=
      { request := some { requestLayout.zero with block := true }
        response := some { debug := false, bannedWords := ⟨["hello"], []⟩ } } }

/-- A policy that blocks, with a number in place of its response. -/
def numberText : String := "\x7b\"request\":\x7b\"block\":true\x7d,\"response\":5\x7d"

def numberJson : Json :=
  .obj [("request", .obj [("block", .bool true)]), ("response", .num "5")]

/-- A rejected version whose request says what the policy says already. -/
theorem rejected_policy_unchanged_number :
    (ruledWatch.step (fun _ => some numberJson)
      (.modified (some (version numberText)))).config.bare = ruledWatch.config.bare := by
  have hholds : ruledWatch.config.Holds numberJson :=
    (AITransaction.bare_decode_iff _ _).mp (by decide)
  exact (rejected_policy_unchanged_iff _ "web" "default" ruledWatch (version numberText) _
    ⟨rfl, rfl, rfl⟩ ⟨by decide, rfl⟩ (Or.inr rfl) (by decide)).mpr
      (Or.inr ⟨numberJson, rfl, by decide, hholds⟩)

/-- From no policy the response of this version is rejected, too, and its request blocks
    from then on. -/
theorem not_rejected_policy_unchanged :
    ¬ ∀ (parse : String → Option Json) (podname namespace_ : String) (w : Watch) (m : ConfigMap)
      (e : WatchEvent), w.Running podname namespace_ → m.For podname namespace_ → e.Writes m →
      (w.config.unmarshal parse m.config).2 = false →
      (w.step parse e).config.bare = w.config.bare := by
  intro h
  have hsame := h (fun _ => some numberJson) "web" "default" (.newWatcher "web" "default")
    (version numberText) (.added (some (version numberText))) ⟨rfl, rfl, rfl⟩ ⟨by decide, rfl⟩
    (Or.inl rfl) rfl
  exact absurd hsame (by decide)

end KubeGateway.Gateway
