import Mathlib.Data.List.Perm.Basic
import KubeGateway.Native.OpenAI

/-!
# Chains of model rules

Each of a policy's `modelReplace` rules is tried on the model as the earlier rules
have left it, so that one rule can lead to another.  The rules act as a map on the
models they are for as long as no such chain leads away from where its first rule
went.
-/

namespace KubeGateway.Gateway

/-! ## Following the rules -/

/-- The loop over the rules. -/
def modelAfter (rules : List ModelReplace) (m : String) : String :=
  rules.foldl (fun model rule => if model = rule.orig then rule.new else model) m

/-- What the rules say of a model, taken as a map. -/
def modelFor : List ModelReplace → String → String
  | [], m => m
  | rule :: rules, m => if m = rule.orig then rule.new else modelFor rules m

/-- The rules behind the first one for a model. -/
def rulesBehind : List ModelReplace → String → List ModelReplace
  | [], _ => []
  | rule :: rules, m => if m = rule.orig then rules else rulesBehind rules m

/-- From `m` the rules lead to `m'`, one after the other. -/
inductive Chain : List ModelReplace → String → String → Prop where
  | nil (m : String) : Chain [] m m
  | skip (rule : ModelReplace) {rules : List ModelReplace} {m m' : String}
    (hm : m ≠ rule.orig) (later : Chain rules m m') : Chain (rule :: rules) m m'
  | take (rule : ModelReplace) {rules : List ModelReplace} {m' : String}
    (later : Chain rules rule.new m') : Chain (rule :: rules) rule.orig m'

/-- No rule leads to one that would change the model again. -/
def Unchained (rules : List ModelReplace) : Prop :=
  ∀ rule ∈ rules, ∀ rule' ∈ rules, rule.new = rule'.orig → rule'.new = rule'.orig

theorem Request.replaceModel_eq (c : Request) (m : String) :
    c.replaceModel m = modelAfter c.modelReplace.elems m := rfl

@[simp]
theorem modelAfter_nil (m : String) : modelAfter [] m = m := rfl

theorem modelAfter_cons (rule : ModelReplace) (rules : List ModelReplace) (m : String) :
    modelAfter (rule :: rules) m = modelAfter rules (if m = rule.orig then rule.new else m) := rfl

theorem modelAfter_append (rules later : List ModelReplace) (m : String) :
    modelAfter (rules ++ later) m = modelAfter later (modelAfter rules m) :=
  List.foldl_append

/-- Rules that are for other models, or change nothing, lead nowhere. -/
theorem modelAfter_of_fixed {rules : List ModelReplace} {m : String}
    (h : ∀ rule ∈ rules, m = rule.orig → rule.new = rule.orig) : modelAfter rules m = m := by
  induction rules with
  | nil => rfl
  | cons rule rules ih =>
    rw [List.forall_mem_cons] at h
    rw [modelAfter_cons]
    split
    · next hm => rw [h.1 hm, ← hm, ih h.2]
    · exact ih h.2

/-- The chain from a model ends where the loop does. -/
theorem chain_iff {rules : List ModelReplace} {m m' : String} :
    Chain rules m m' ↔ modelAfter rules m = m' := by
  constructor
  · intro hchain
    induction hchain with
    | nil => rfl
    | skip rule hm _ ih => rw [modelAfter_cons, if_neg hm, ih]
    | take rule _ ih => rw [modelAfter_cons, if_pos rfl, ih]
  · rintro rfl
    induction rules generalizing m with
    | nil => exact .nil m
    | cons rule rules ih =>
      rw [modelAfter_cons]
      split
      · next hm =>
        rw [hm]
        exact .take rule ih
      · next hm => exact .skip rule hm ih

/-- The first rule for a model takes it where the map says; the rules behind it go
    on from there. -/
theorem modelAfter_eq_behind (rules : List ModelReplace) (m : String) :
    modelAfter rules m = modelAfter (rulesBehind rules m) (modelFor rules m) := by
  induction rules with
  | nil => rfl
  | cons rule rules ih =>
    rw [modelAfter_cons]
    unfold modelFor rulesBehind
    split
    · rfl
    · exact ih

/-- For one model and one list: the loop is the map exactly if the chain from the
    new value, through the rules behind, comes back to it. -/
theorem modelAfter_eq_modelFor_iff (rules : List ModelReplace) (m : String) :
    modelAfter rules m = modelFor rules m ↔
      Chain (rulesBehind rules m) (modelFor rules m) (modelFor rules m) := by
  rw [chain_iff, modelAfter_eq_behind]

/-! ## In any order -/

theorem mem_of_mem_rulesBehind {rules : List ModelReplace} {m : String} {rule : ModelReplace}
    (h : rule ∈ rulesBehind rules m) : rule ∈ rules := by
  induction rules with
  | nil => exact h
  | cons first rules ih =>
    unfold rulesBehind at h
    split at h
    · exact List.mem_cons_of_mem _ h
    · exact List.mem_cons_of_mem _ (ih h)

/-- The value of the map is that of a rule, or there is no rule. -/
theorem modelFor_cases (rules : List ModelReplace) (m : String) :
    (∃ rule ∈ rules, rule.orig = m ∧ modelFor rules m = rule.new) ∨
      (modelFor rules m = m ∧ rulesBehind rules m = []) := by
  induction rules with
  | nil => exact Or.inr ⟨rfl, rfl⟩
  | cons rule rules ih =>
    unfold modelFor rulesBehind
    split
    · next hm => exact Or.inl ⟨rule, List.mem_cons_self, hm.symm, rfl⟩
    · rcases ih with ⟨rule', hmem, horig, hnew⟩ | hnone
      · exact Or.inl ⟨rule', List.mem_cons_of_mem _ hmem, horig, hnew⟩
      · exact Or.inr hnone

/-- With distinct `orig` values the map has the value of each of its rules. -/
theorem modelFor_of_mem {rules : List ModelReplace} (hdistinct : (rules.map (·.orig)).Nodup)
    {rule : ModelReplace} (hrule : rule ∈ rules) : modelFor rules rule.orig = rule.new := by
  induction rules with
  | nil => exact nomatch hrule
  | cons first rules ih =>
    rw [List.map_cons, List.nodup_cons] at hdistinct
    unfold modelFor
    rcases List.mem_cons.mp hrule with rfl | hlater
    · exact if_pos rfl
    · have hne : rule.orig ≠ first.orig := by
        intro heq
        exact hdistinct.1 (heq ▸ List.mem_map_of_mem hlater)
      rw [if_neg hne]
      exact ih hdistinct.2 hlater

/-- The map does not depend on the order of its rules. -/
theorem modelFor_perm {rules rules' : List ModelReplace} (hperm : rules'.Perm rules)
    (hdistinct : (rules.map (·.orig)).Nodup) (m : String) :
    modelFor rules' m = modelFor rules m := by
  have hdistinct' : (rules'.map (·.orig)).Nodup := (hperm.map _).nodup_iff.mpr hdistinct
  rcases modelFor_cases rules' m with ⟨rule, hrule, rfl, hnew⟩ | ⟨hnone', -⟩
  · rw [hnew, modelFor_of_mem hdistinct (hperm.mem_iff.mp hrule)]
  · rcases modelFor_cases rules m with ⟨rule, hrule, rfl, -⟩ | ⟨hnone, -⟩
    · rw [modelFor_of_mem hdistinct hrule, modelFor_of_mem hdistinct' (hperm.mem_iff.mpr hrule)]
    · rw [hnone', hnone]

/-- Two rules can be put last. -/
private theorem exists_perm_pair {rules : List ModelReplace} {rule rule' : ModelReplace}
    (hrule : rule ∈ rules) (hrule' : rule' ∈ rules) (hne : rule' ≠ rule) :
    ∃ others, (others ++ [rule, rule']).Perm rules := by
  have hlater : rule' ∈ rules.erase rule := (List.mem_erase_of_ne hne).mpr hrule'
  refine ⟨(rules.erase rule).erase rule', List.perm_append_comm.trans ?_⟩
  exact ((List.perm_cons_erase hlater).symm.cons rule).trans (List.perm_cons_erase hrule).symm

/-- For every model and every order: the loop is the map exactly if the rules are
    unchained. -/
theorem modelAfter_perm_iff {rules : List ModelReplace}
    (hdistinct : (rules.map (·.orig)).Nodup) :
    (∀ rules', rules'.Perm rules → ∀ m, modelAfter rules' m = modelFor rules m) ↔
      Unchained rules := by
  constructor
  · intro hmap rule hrule rule' hrule' hnew
    by_cases heq : rule' = rule
    · rw [heq] at hnew ⊢
      exact hnew
    · -- with the two of them last, the second would lead on
      obtain ⟨others, hperm⟩ := exists_perm_pair hrule hrule' heq
      have hdistinct' := (hperm.map (·.orig)).nodup_iff.mpr hdistinct
      rw [List.map_append, List.nodup_append] at hdistinct'
      have hothers : modelAfter others rule.orig = rule.orig := by
        apply modelAfter_of_fixed
        intro other hother horig
        exact absurd horig.symm (hdistinct'.2.2 _ (List.mem_map_of_mem hother) _ (by simp))
      have hend := hmap _ hperm rule.orig
      rw [modelAfter_append, hothers, modelFor_of_mem hdistinct hrule, modelAfter_cons,
        if_pos rfl, modelAfter_cons, if_pos hnew, modelAfter_nil] at hend
      rw [hend, hnew]
  · intro hunchained rules' hperm m
    rw [modelAfter_eq_behind, ← modelFor_perm hperm hdistinct]
    rcases modelFor_cases rules' m with ⟨rule, hrule, -, hnew⟩ | ⟨-, hbehind⟩
    · rw [hnew]
      apply modelAfter_of_fixed
      intro rule' hrule' horig
      exact hunchained rule (hperm.mem_iff.mp hrule) rule'
        (hperm.mem_iff.mp (mem_of_mem_rulesBehind hrule')) horig
    · rw [hbehind]
      rfl

/-! ## The model of a request -/

/-- What is forwarded of a chat request has the model at the end of the chain from
    its own.  That is the one the map has for it exactly if the chain from there
    comes back, and in every order for every model exactly if the rules are
    unchained. -/
theorem openAIRequest_replaceModel (sdk : Sdk) (c : Request) (body : GoString)
    (chat : ChatCompletionNewParams) (hchat : sdk.unmarshalParams body = some chat)
    (hblock : c.block = false) (hdistinct : (c.modelReplace.elems.map (·.orig)).Nodup) :
    openAIRequest sdk c (some body) = .pass ((sdk.marshalParams (c.rewrite chat)).getD []) ∧
      Chain c.modelReplace.elems chat.model (c.rewrite chat).model ∧
      ((c.rewrite chat).model = modelFor c.modelReplace.elems chat.model ↔
        Chain (rulesBehind c.modelReplace.elems chat.model)
          (modelFor c.modelReplace.elems chat.model)
          (modelFor c.modelReplace.elems chat.model)) ∧
      ((∀ c' : Request, c'.modelReplace.elems.Perm c.modelReplace.elems →
          ∀ m, c'.replaceModel m = modelFor c.modelReplace.elems m) ↔
        Unchained c.modelReplace.elems) := by
  refine ⟨openAIRequest_of_pass sdk hchat hblock, chain_iff.mpr rfl,
    modelAfter_eq_modelFor_iff c.modelReplace.elems chat.model, ?_⟩
  simp only [Request.replaceModel_eq]
  rw [← modelAfter_perm_iff hdistinct]
  constructor
  · intro h rules' hperm m
    exact h { c with modelReplace := ⟨rules', []⟩ } hperm m
  · exact fun h c' hperm m => h c'.modelReplace.elems hperm m

/-- The rules of two models that have nothing to do with each other. -/
theorem openAIRequest_replaceModel_unchained :
    let c : Request := ⟨"", ⟨[⟨"a", "x"⟩, ⟨"b", "y"⟩], []⟩, .nil, .nil, false, false⟩
    let chat : ChatCompletionNewParams := ⟨"a", [.ofUser (.ofString "hi") []], []⟩
    let body := chatText "a" [messageText "user" "hi"]
    let newBody := chatText "x" [messageText "user" "hi"]
    openAIRequest (oneRequestSdk body newBody chat) c (some body) = .pass newBody ∧
      ∀ c' : Request, c'.modelReplace.elems.Perm c.modelReplace.elems →
        c'.replaceModel "a" = "x" := by
  intro c chat body newBody
  obtain ⟨hpass, -, -, horders⟩ := openAIRequest_replaceModel (oneRequestSdk body newBody chat) c
    body chat (by simp) rfl (by decide)
  refine ⟨hpass, fun c' hperm => ?_⟩
  exact horders.mpr (by unfold Unchained; decide) c' hperm "a"

/-- Two rules that are to swap two models take each of them back, or on. -/
theorem not_replaceModel_map :
    ¬ ∀ (c : Request) (m : String), (c.modelReplace.elems.map (·.orig)).Nodup →
      c.replaceModel m = modelFor c.modelReplace.elems m := by
  intro h
  have hswap := h ⟨"", ⟨[⟨"a", "b"⟩, ⟨"b", "a"⟩], []⟩, .nil, .nil, false, false⟩ "a" (by decide)
  exact absurd hswap (by decide)

end KubeGateway.Gateway
