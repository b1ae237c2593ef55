import KubeGateway.ForStd.Decimal
import KubeGateway.ForStd.Trace
import KubeGateway.Native.HttpGateway

/-!
# Banned words

What the application gets of the responses the gateway reads while a response
policy is in force.  A body that decodes is encoded again, with the gateway's own
choice in place of all the others if one of them has a banned word.  A body that
does not decode has been read by then, so its response is written without it.
-/

namespace KubeGateway.Gateway

open Framing

/-! ## What is delivered -/

/-- No banned word occurs in the choice. -/
def ChatCompletionChoice.Clean (policy : Response) (choice : ChatCompletionChoice) : Prop :=
  ∀ word ∈ policy.bannedWords.elems, ¬ word.toList <:+: choice.content.toList

/-- The choice is the gateway's own, as far as it is the gateway's to say. -/
def ChatCompletionChoice.IsRefusal (choice : ChatCompletionChoice) : Prop :=
  choice.content = refusalChoice.content ∧ choice.finishReason = refusalChoice.finishReason

/-- The choices an application finds in a body. -/
def Sdk.choices (sdk : Sdk) (body : GoString) : List ChatCompletionChoice :=
  match sdk.unmarshalCompletion body with
  | some chat => chat.choices
  | none => []

/-- The choices an application finds in what was written to it.  A response that
    breaks off has no body to decode. -/
def Sent.choices (net : NetHttp) (sdk : Sdk) : Sent → List ChatCompletionChoice
  | .whole m => sdk.choices (net.content m)
  | .rewritten _ newBody => sdk.choices newBody
  | .emptied _ => sdk.choices []
  | .part _ => []

/-- The responses read in a run, each with whether it can be written. -/
def HttpGateway.responsesRead (net : NetHttp) (sdk : Sdk) :
    HttpGateway → List Round → List (Message UInt8 × Bool)
  | _, [] => []
  | g, r :: rs =>
    let read :=
      match r.turn with
      | .response writes => (g.responses.reads net r.policy).toList.map fun m => (m, writes)
      | .request _ => []
    read ++ HttpGateway.responsesRead net sdk (g.stepUnder net sdk r) rs

/-- What the SDK promises of completions: one that was decoded can be encoded
    again, also with other choices, and decodes to the same texts and reasons; an
    empty body is no completion. -/
structure Sdk.Reencodes (sdk : Sdk) : Prop where
  again : ∀ body chat, sdk.unmarshalCompletion body = some chat →
    ∀ choices, (choices = chat.choices ∨ choices = [refusalChoice]) →
      ∃ newBody chat', sdk.marshalCompletion { chat with choices := choices } = some newBody ∧
        sdk.unmarshalCompletion newBody = some chat' ∧
        chat'.choices.map (fun choice => (choice.content, choice.finishReason)) =
          choices.map (fun choice => (choice.content, choice.finishReason))
  empty : sdk.unmarshalCompletion [] = none

/-- What became of a response that was read: each choice delivered is free of
    banned words or is the refusal, and a clean completion that could be written
    was delivered with the contents it came with. -/
structure Delivers (net : NetHttp) (sdk : Sdk) (policy : Response) (read : Message UInt8 × Bool)
    (sent : Sent) : Prop where
  clean : ∀ choice ∈ sent.choices net sdk, choice.Clean policy ∨ choice.IsRefusal
  untouched : ∀ chat, sdk.unmarshalCompletion (net.content read.1) = some chat →
    (∀ choice ∈ chat.choices, choice.Clean policy) → read.2 = true →
    (sent.choices net sdk).map ChatCompletionChoice.content =
      chat.choices.map ChatCompletionChoice.content

/-! ## One response -/

section

variable {net : NetHttp} {sdk : Sdk} {policy : Response}

/-- The decision of `openAIResponse` is about substrings. -/
theorem Response.bans_eq_false {chat : ChatCompletion} :
    policy.bans chat = false ↔ ∀ choice ∈ chat.choices, choice.Clean policy := by
  simp [Response.bans, contains, ChatCompletionChoice.Clean]

/-- A body that decodes is delivered with its own choices or with the refusal. -/
private theorem choices_newBody (policy : Response) (hsdk : sdk.Reencodes) {body : GoString}
    {chat : ChatCompletion}
    (hchat : sdk.unmarshalCompletion body = some chat) :
    ∃ newBody, openAIResponse sdk policy body = some (policy.bans chat, newBody) ∧
      (sdk.choices newBody).map (fun choice => (choice.content, choice.finishReason)) =
        (if policy.bans chat then [refusalChoice] else chat.choices).map
          (fun choice => (choice.content, choice.finishReason)) := by
  have hsplit : (if policy.bans chat then { chat with choices := [refusalChoice] } else chat) =
      { chat with choices := if policy.bans chat then [refusalChoice] else chat.choices } := by
    split <;> rfl
  have hchoices : (if policy.bans chat then [refusalChoice] else chat.choices) = chat.choices ∨
      (if policy.bans chat then [refusalChoice] else chat.choices) = [refusalChoice] := by
    split
    · exact Or.inr rfl
    · exact Or.inl rfl
  obtain ⟨newBody, chat', hmarshal, hunmarshal, hsame⟩ := hsdk.again body chat hchat _ hchoices
  refine ⟨newBody, ?_, ?_⟩
  · simp only [openAIResponse, hchat, hsplit, hmarshal, Option.getD_some]
  · simpa only [Sdk.choices, hunmarshal] using hsame

/-- The new body of a response that decodes is delivered as it should be. -/
private theorem delivers_rewritten {m : Message UInt8} {chat : ChatCompletion}
    (hchat : sdk.unmarshalCompletion (net.content m) = some chat) {newBody : GoString}
    (hsame : (sdk.choices newBody).map (fun choice => (choice.content, choice.finishReason)) =
      (if policy.bans chat then [refusalChoice] else chat.choices).map
        (fun choice => (choice.content, choice.finishReason))) (writes : Bool) :
    Delivers net sdk policy (m, writes) (.rewritten m newBody) := by
  constructor
  · intro choice hchoice
    -- the choice has the content and reason of one that was encoded
    have hmem : (choice.content, choice.finishReason) ∈
        (if policy.bans chat then [refusalChoice] else chat.choices).map
          (fun choice => (choice.content, choice.finishReason)) := by
      rw [← hsame]
      exact List.mem_map.mpr ⟨choice, hchoice, rfl⟩
    obtain ⟨choice', hchoice', heq⟩ := List.mem_map.mp hmem
    rw [Prod.mk.injEq] at heq
    cases hbans : policy.bans chat with
    | true =>
      rw [if_pos hbans, List.mem_singleton] at hchoice'
      subst hchoice'
      exact Or.inr ⟨heq.1.symm, heq.2.symm⟩
    | false =>
      rw [if_neg (by rw [hbans]; decide)] at hchoice'
      have hclean := Response.bans_eq_false.mp hbans choice' hchoice'
      unfold ChatCompletionChoice.Clean at hclean
      rw [heq.1] at hclean
      exact Or.inl hclean
  · intro chat' hchat' hclean _
    obtain rfl : chat = chat' := Option.some.inj (hchat.symm.trans hchat')
    rw [if_neg (by rw [Response.bans_eq_false.mpr hclean]; decide)] at hsame
    simpa [Sent.choices, List.map_map, Function.comp_def] using congrArg (List.map Prod.fst) hsame

/-- A response that is written with nothing in it, or not to its end, delivers nothing. -/
private theorem delivers_nothing {read : Message UInt8 × Bool} {sent : Sent}
    (hnone : sent.choices net sdk = [])
    (hlost : sdk.unmarshalCompletion (net.content read.1) = none ∨ read.2 = false) :
    Delivers net sdk policy read sent := by
  constructor
  · intro choice hchoice
    rw [hnone] at hchoice
    exact absurd hchoice List.not_mem_nil
  · intro chat hchat _ hwrites
    rcases hlost with h | h
    · rw [h] at hchat
      cases hchat
    · rw [h] at hwrites
      cases hwrites

/-- A response that was read to its end is written once, as it should be. -/
private theorem delivers_answer (policy : Response) (hsdk : sdk.Reencodes) (s : ResponseLoop)
    (writes : Bool) (m : Message UInt8) :
    ∃ sent, (s.answer net sdk policy writes m).ingress = s.ingress ++ [sent] ∧
      Delivers net sdk policy (m, writes) sent := by
  cases hchat : sdk.unmarshalCompletion (net.content m) with
  | some chat =>
    obtain ⟨newBody, hopen, hsame⟩ := choices_newBody policy hsdk hchat
    simp only [ResponseLoop.answer, hopen, ResponseLoop.write]
    cases writes with
    | true => exact ⟨_, rfl, delivers_rewritten hchat hsame true⟩
    | false => exact ⟨_, rfl, delivers_nothing rfl (Or.inr rfl)⟩
  | none =>
    have hopen : openAIResponse sdk policy (net.content m) = none := by
      simp only [openAIResponse, hchat]
    have hempty : sdk.choices [] = [] := by
      simp only [Sdk.choices, hsdk.empty]
    simp only [ResponseLoop.answer, hopen, ResponseLoop.write]
    -- the body is gone: the head alone is written, or nothing that could be read
    split
    · exact ⟨_, rfl, delivers_nothing hempty (Or.inl hchat)⟩
    · cases writes with
      | true => exact ⟨_, rfl, delivers_nothing hempty (Or.inl hchat)⟩
      | false => exact ⟨_, rfl, delivers_nothing rfl (Or.inr rfl)⟩

/-- A round of the loop writes once for a response it reads to its end, and not at
    all otherwise. -/
private theorem delivers_iterate (hsdk : sdk.Reencodes) {c : AITransaction}
    (hc : c.response = some policy) (s : ResponseLoop) (writes : Bool) :
    ∃ delivered, (s.iterate net sdk c writes).ingress = s.ingress ++ delivered ∧
      List.Forall₂ (Delivers net sdk policy) ((s.reads net c).toList.map fun m => (m, writes))
        delivered := by
  rcases s.iterate_of_policy sdk hc writes with ⟨m, conn, hreads, hiterate⟩ | ⟨hreads, hsame⟩
  · obtain ⟨sent, hsent, hdelivers⟩ :=
      delivers_answer policy hsdk { s with egress := conn } writes m
    rw [hreads, hiterate]
    exact ⟨[sent], hsent, .cons hdelivers .nil⟩
  -- a body that breaks off ends the loop before anything is written
  · rw [hreads]
    exact ⟨[], by rw [hsame, List.append_nil], .nil⟩

/-- A round of either loop. -/
private theorem delivers_step (net : NetHttp) (hsdk : sdk.Reencodes) (g : HttpGateway) {r : Round}
    (hr : r.policy.response = some policy) :
    ∃ delivered, (g.stepUnder net sdk r).responses.ingress = g.responses.ingress ++ delivered ∧
      List.Forall₂ (Delivers net sdk policy)
        (HttpGateway.responsesRead net sdk g [r]) delivered := by
  unfold HttpGateway.stepUnder HttpGateway.step HttpGateway.responsesRead
  simp only [HttpGateway.responsesRead, List.append_nil]
  by_cases hcrashed : g.responses.state = .crashed
  · -- a loop that has crashed reads nothing
    rw [if_pos hcrashed]
    have hreads : g.responses.reads net r.policy = none := by
      unfold ResponseLoop.reads
      rw [if_neg (by rw [hcrashed]; decide)]
    refine ⟨[], (List.append_nil _).symm, ?_⟩
    cases r.turn <;> simp [hreads]
  · rw [if_neg hcrashed]
    cases r.turn with
    | request writes => exact ⟨[], (List.append_nil _).symm, .nil⟩
    | response writes => exact delivers_iterate hsdk hr g.responses writes

end

/-! ## Every run -/

/-- While a response policy is in force, from any state of the gateway, for all that
    the connections return and however the loops take turns: each response read to
    its end is written once, in order, so that no choice with a banned word reaches
    the application and a clean completion reaches it with its own contents. -/
theorem banned_words_never_delivered {net : NetHttp} {sdk : Sdk} {policy : Response}
    (hsdk : sdk.Reencodes) (g : HttpGateway) {rounds : List Round}
    (hpolicy : ∀ r ∈ rounds, r.policy.response = some policy) :
    ∃ delivered,
      (Trace.run (HttpGateway.stepUnder net sdk) g rounds).responses.ingress =
        g.responses.ingress ++ delivered ∧
      List.Forall₂ (Delivers net sdk policy) (g.responsesRead net sdk rounds) delivered := by
  induction rounds generalizing g with
  | nil => exact ⟨[], (List.append_nil _).symm, .nil⟩
  | cons r rs ih =>
    rw [List.forall_mem_cons] at hpolicy
    obtain ⟨now, hnow, hdelivers⟩ := delivers_step net hsdk g hpolicy.1
    obtain ⟨later, hlater, hdelivers'⟩ := ih (g.stepUnder net sdk r) hpolicy.2
    refine ⟨now ++ later, ?_, ?_⟩
    · rw [Trace.run_cons, hlater, hnow, List.append_assoc]
    · simp only [HttpGateway.responsesRead, List.append_nil] at hdelivers ⊢
      exact List.rel_append hdelivers hdelivers'

/-! ## A completion with a banned word -/

/-- A completion, as far as the gateway looks into it. -/
def helloBody : GoString :=
  goString "\x7b\"choices\":[\x7b\"message\":" ++
    goString "\x7b\"content\":\"hello\"\x7d\x7d]\x7d"

def refusedBody : GoString :=
  goString "\x7b\"choices\":[\x7b\"finish_reason\":\"Stop\",\"message\":" ++
    goString "\x7b\"content\":\"kube-gateway says no\"\x7d\x7d]\x7d"

def helloChoice : ChatCompletionChoice := { content := "hello", finishReason := "", rest := [] }

/-- A chat with these choices. -/
def chatOf (choices : List ChatCompletionChoice) : ChatCompletion :=
  { id := "", model := "", choices := choices, rest := [] }

/-- The SDK, on one completion and what the gateway can make of it. -/
def helloSdk : Sdk where
  unmarshalParams := fun _ => none
  marshalParams := fun _ => none
  unmarshalCompletion := fun body =>
    if body = helloBody then some (chatOf [helloChoice])
    else if body = refusedBody then some (chatOf [refusalChoice])
    else none
  marshalCompletion := fun chat =>
    if chat.choices.map ChatCompletionChoice.content = ["hello"] then some helloBody
    else some refusedBody

private theorem reencodes_helloSdk : helloSdk.Reencodes := by
  have hne : refusedBody ≠ helloBody := by decide
  have hhello : helloSdk.unmarshalCompletion helloBody = some (chatOf [helloChoice]) := by
    simp only [helloSdk, if_pos]
  have hrefused : helloSdk.unmarshalCompletion refusedBody = some (chatOf [refusalChoice]) := by
    simp only [helloSdk, if_neg hne, if_pos]
  constructor
  · intro body chat hchat choices hchoices
    -- both completions have one choice: hello, or the refusal
    have hone : choices = [helloChoice] ∨ choices = [refusalChoice] := by
      rcases hchoices with rfl | rfl
      · simp only [helloSdk] at hchat
        split at hchat
        · rw [Option.some.injEq] at hchat
          exact Or.inl (hchat ▸ rfl)
        · split at hchat
          · rw [Option.some.injEq] at hchat
            exact Or.inr (hchat ▸ rfl)
          · exact nomatch hchat
      · exact Or.inr rfl
    rcases hone with rfl | rfl
    · exact ⟨helloBody, _, rfl, hhello, rfl⟩
    · exact ⟨refusedBody, _, rfl, hrefused, rfl⟩
  · decide

def helloHead : GoString :=
  goString "HTTP/1.1 200 OK\r\nContent-Length: " ++ Decimal.digits helloBody.length ++
    goString "\r\n\r\n"

/-- One completion that says hello, under a policy that bans the word. -/
theorem banned_words_never_delivered_hello :
    let policy : Response := { debug := false, bannedWords := ⟨["hello"], []⟩ }
    let g := HttpGateway.start ⟨[], none⟩
      (.ofSegments [helloHead ++ helloBody] none)
    let rounds : List Round := [⟨⟨none, some policy⟩, .response true⟩]
    ∃ delivered,
      (Trace.run (HttpGateway.stepUnder (fixedNet helloBody.length) helloSdk) g
          rounds).responses.ingress =
        g.responses.ingress ++ delivered ∧
      List.Forall₂ (Delivers (fixedNet helloBody.length) helloSdk policy)
        (g.responsesRead (fixedNet helloBody.length) helloSdk rounds) delivered := by
  intro policy g rounds
  exact banned_words_never_delivered reencodes_helloSdk g (List.forall_mem_singleton.mpr rfl)

end KubeGateway.Gateway
