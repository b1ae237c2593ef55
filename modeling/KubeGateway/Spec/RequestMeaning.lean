import KubeGateway.ForStd.Decimal
import KubeGateway.ForStd.JsonShape
import KubeGateway.ForStd.Trace
import KubeGateway.Native.HttpGateway

/-!
# What a request means after the gateway

Under a request policy every body is decoded into the SDK's struct for chat requests
and encoded again, whatever endpoint it is for.  If no rule matches, what is written
to the target is the round trip of the body through that struct:
`keeps_meaning_iff_declared` says for which bodies it is still the same value.
-/

namespace KubeGateway.Gateway

open Framing GoJson

/-- What the SDK promises of chat requests: of a body that is decoded, what the struct
    declares is kept, and written back when it is encoded again. -/
def Sdk.KeepsDeclared {ν : Type} (sdk : Sdk) (parse : GoString → Option Json)
    (number : String → ν) (declared : Shape) : Prop :=
  ∀ body chat j, sdk.unmarshalParams body = some chat → parse body = some j →
    ∃ newBody j', sdk.marshalParams chat = some newBody ∧ parse newBody = some j' ∧
      j'.value number = (declared.keep j).value number

/-- The round reads a request whose body is JSON, under a policy that does not block
    and has no rule that matches it. -/
structure Unruled (net : NetHttp) (sdk : Sdk) (parse : GoString → Option Json) (g : HttpGateway)
    (r : Round) (policy : Request) (m : Message UInt8) (j : Json) : Prop where
  alive : g.responses.state ≠ .crashed
  finds : r.policy.request = some policy
  passes : policy.block = false
  reads : g.requests.reads net = some m
  json : parse (net.content m) = some j
  noMatch : ∀ chat, sdk.unmarshalParams (net.content m) = some chat → policy.NoMatch chat

/-- Such a request is written to the target, if it can be written, with a body that
    denotes the value it came with. -/
def KeepsMeaning {ν : Type} (net : NetHttp) (sdk : Sdk) (parse : GoString → Option Json)
    (number : String → ν) (g : HttpGateway) (r : Round) : Prop :=
  match r.turn with
  | .request true => ∀ policy m j, Unruled net sdk parse g r policy m j →
      ∃ newBody j', (g.stepUnder net sdk r).requests.egress =
          g.requests.egress ++ [.rewritten m newBody] ∧
        parse newBody = some j' ∧ j'.value number = j.value number
  | _ => True

/-- The body of such a request decodes, and has only members that the struct declares. -/
def AllDeclared (net : NetHttp) (sdk : Sdk) (parse : GoString → Option Json) (declared : Shape)
    (g : HttpGateway) (r : Round) : Prop :=
  match r.turn with
  | .request true => ∀ policy m j, Unruled net sdk parse g r policy m j →
      (sdk.unmarshalParams (net.content m)).isSome ∧ declared.Declares j
  | _ => True

/-! ## One request -/

section

variable {net : NetHttp} {sdk : Sdk} {parse : GoString → Option Json} {g : HttpGateway} {r : Round}
  {policy : Request} {m : Message UInt8} {j : Json}

/-- What is written of a request that no rule matches: its body, decoded and encoded. -/
private theorem egress_unruled (hturn : r.turn = .request true)
    (h : Unruled net sdk parse g r policy m j) :
    (g.stepUnder net sdk r).requests.egress = g.requests.egress ++
      match sdk.unmarshalParams (net.content m) with
      | none => []
      | some chat => [.rewritten m ((sdk.marshalParams chat).getD [])] := by
  obtain ⟨s, rest, hegress, -, hiterate⟩ :=
    RequestLoop.iterate_of_reads sdk h.finds true h.reads
  rw [HttpGateway.stepUnder_request hturn h.alive, hiterate, ← hegress]
  rcases openAIRequest_cases sdk policy (net.content m) with
    ⟨hchat, hverdict⟩ | ⟨chat, hchat, ⟨hblock, -⟩ | ⟨-, hverdict⟩⟩
  · simp only [RequestLoop.apply, bytesRead, Option.map_some, hverdict, hchat, List.append_nil]
  · exact absurd (hblock.symm.trans h.passes) (by simp)
  · rw [Request.rewrite_of_noMatch (h.noMatch chat hchat)] at hverdict
    simp only [RequestLoop.apply, bytesRead, Option.map_some, hverdict, hchat]
    rfl

/-- One request keeps its value if and only if its body decodes and is declared. -/
private theorem keeps_iff {ν : Type} {number : String → ν} {declared : Shape}
    (hsdk : sdk.KeepsDeclared parse number declared) (hturn : r.turn = .request true)
    (h : Unruled net sdk parse g r policy m j) :
    (∃ newBody j', (g.stepUnder net sdk r).requests.egress =
          g.requests.egress ++ [.rewritten m newBody] ∧
        parse newBody = some j' ∧ j'.value number = j.value number) ↔
      (sdk.unmarshalParams (net.content m)).isSome ∧ declared.Declares j := by
  rw [egress_unruled hturn h, ← declared.value_keep_iff number]
  cases hchat : sdk.unmarshalParams (net.content m) with
  | none => simp
  | some chat =>
    obtain ⟨newBody, j', hmarshal, hparse, hvalue⟩ := hsdk _ chat j hchat h.json
    rw [← hvalue]
    simp only [hmarshal, Option.getD_some, List.append_cancel_left_eq, List.cons.injEq,
      Sent.rewritten.injEq, true_and, and_true, Option.isSome_some]
    constructor
    · rintro ⟨_, j'', rfl, hparse', hvalue'⟩
      obtain rfl : j' = j'' := Option.some.inj (hparse.symm.trans hparse')
      exact hvalue'
    · intro hvalue'
      exact ⟨newBody, j', rfl, hparse, hvalue'⟩

end

private theorem keepsMeaning_iff {ν : Type} {net : NetHttp} {sdk : Sdk}
    {parse : GoString → Option Json} {number : String → ν} {declared : Shape}
    (hsdk : sdk.KeepsDeclared parse number declared) (g : HttpGateway) (r : Round) :
    KeepsMeaning net sdk parse number g r ↔ AllDeclared net sdk parse declared g r := by
  unfold KeepsMeaning AllDeclared
  split
  · next hturn =>
    apply forall₃_congr
    intro policy m j
    exact forall_congr' fun h => keeps_iff hsdk hturn h
  · exact Iff.rfl

/-! ## Every run -/

/-- For every JSON body, whatever the head before it, every policy that does not block
    and has no rule that matches, and every order of the loops' rounds: each request is
    written with the value it came with if and only if the body of each decodes and has
    only members, at any depth, that the SDK's struct declares. -/
theorem keeps_meaning_iff_declared {ν : Type} {net : NetHttp} {sdk : Sdk}
    {parse : GoString → Option Json} {number : String → ν} {declared : Shape}
    (hsdk : sdk.KeepsDeclared parse number declared) (g : HttpGateway) (rounds : List Round) :
    Trace.Along (HttpGateway.stepUnder net sdk) (KeepsMeaning net sdk parse number) g rounds ↔
      Trace.Along (HttpGateway.stepUnder net sdk) (AllDeclared net sdk parse declared) g rounds :=
  Trace.along_congr (keepsMeaning_iff hsdk)

/-! ## A request for a stream -/

/-- A chat request, as JSON and as text. -/
def chatMembers : List (String × Json) :=
  [("messages", .arr [.obj [("content", .str "hi"), ("role", .str "user")]]),
   ("model", .str "gpt-4o")]

def chatBody : GoString := chatText "gpt-4o" [messageText "user" "hi"]

/-- The same request, for an answer in events.  The SDK's struct has no such member. -/
def streamMembers : List (String × Json) := chatMembers ++ [("stream", .bool true)]

def streamBody : GoString :=
  goString "\x7b\"messages\":[" ++ messageText "user" "hi" ++
    goString "],\"model\":\"gpt-4o\",\"stream\":true\x7d"

/-- The syntax of the two bodies. -/
def chatParse (body : GoString) : Option Json :=
  if body = chatBody then some (.obj chatMembers)
  else if body = streamBody then some (.obj streamMembers)
  else none

/-- The members of the struct that occur in the two bodies. -/
def chatDeclared : Shape :=
  .struct (fun name => name == "messages" || name == "model") fun _ => .whole

/-- What both bodies decode to. -/
def chatParams : ChatCompletionNewParams :=
  { model := "gpt-4o", messages := [.ofUser (.ofString "hi") []], rest := [] }

/-- The SDK, on the two bodies. -/
def chatSdk : Sdk where
  unmarshalParams := fun body => (chatParse body).map fun _ => chatParams
  marshalParams := fun _ => some chatBody
  unmarshalCompletion := fun _ => none
  marshalCompletion := fun _ => none

private theorem keepsDeclared_chatSdk : chatSdk.KeepsDeclared chatParse id chatDeclared := by
  intro body chat j _ hparse
  refine ⟨chatBody, .obj chatMembers, rfl, if_pos rfl, ?_⟩
  unfold chatParse at hparse
  split at hparse
  · rw [← Option.some.inj hparse]
    rfl
  · split at hparse
    · rw [← Option.some.inj hparse]
      rfl
    · exact nomatch hparse

/-- Rules for another model and another prompt. -/
def otherRules : Request :=
  { requestLayout.zero with
    modelReplace := ⟨[⟨"llama3.2", "gemma2:2b"⟩], []⟩
    userPromptReplace := ⟨[⟨"joke", "fact", false⟩], []⟩ }

def chatRequest (body : GoString) : Message UInt8 :=
  ⟨goString "POST /v1/chat/completions HTTP/1.1\r\nContent-Length: " ++
    Decimal.digits body.length ++ goString "\r\n\r\n", body⟩

def chatGateway (body : GoString) : HttpGateway :=
  .start (.ofSegments [(chatRequest body).wire] none) ⟨[], none⟩

private theorem reads_chatGateway :
    (chatGateway chatBody).requests.reads (fixedNet chatBody.length) =
      some (chatRequest chatBody) := by
  decide +kernel

private theorem reads_streamGateway :
    (chatGateway streamBody).requests.reads (fixedNet streamBody.length) =
      some (chatRequest streamBody) := by
  decide +kernel

/-- `keeps_meaning_iff_declared` for a request that has only members of the struct. -/
theorem keeps_meaning_iff_declared_chat :
    Trace.Along (HttpGateway.stepUnder (fixedNet chatBody.length) chatSdk)
      (KeepsMeaning (fixedNet chatBody.length) chatSdk chatParse id) (chatGateway chatBody)
      [⟨⟨some otherRules, none⟩, .request true⟩] := by
  apply (keeps_meaning_iff_declared keepsDeclared_chatSdk _ _).mpr
  refine ⟨?_, trivial⟩
  intro policy m j h
  obtain rfl : chatRequest chatBody = m := Option.some.inj (reads_chatGateway.symm.trans h.reads)
  obtain rfl : Json.obj chatMembers = j := Option.some.inj ((if_pos rfl).symm.trans h.json)
  refine ⟨rfl, ?_⟩
  intro name j hmember
  by_cases hmodel : name = "model"
  · subst hmodel
    exact ⟨rfl, trivial⟩
  · by_cases hmessages : name = "messages"
    · subst hmessages
      exact ⟨rfl, trivial⟩
    · simp [memberOf, chatMembers, List.lookup_cons, beq_false_of_ne hmodel,
        beq_false_of_ne hmessages] at hmember

/-- The wish for a stream is lost, though no rule has anything to do with it. -/
theorem not_keeps_meaning :
    ¬ ∀ (net : NetHttp) (sdk : Sdk) (parse : GoString → Option Json) (declared : Shape),
      sdk.KeepsDeclared parse id declared →
      ∀ (ingress egress : Conn UInt8) (rounds : List Round),
        Trace.Along (HttpGateway.stepUnder net sdk) (KeepsMeaning net sdk parse id)
          (.start ingress egress) rounds := by
  intro h
  obtain ⟨hround, -⟩ := h (fixedNet streamBody.length) chatSdk chatParse chatDeclared
    keepsDeclared_chatSdk (.ofSegments [(chatRequest streamBody).wire] none) ⟨[], none⟩
    [⟨⟨some otherRules, none⟩, .request true⟩]
  have hunruled : Unruled (fixedNet streamBody.length) chatSdk chatParse (chatGateway streamBody)
      ⟨⟨some otherRules, none⟩, .request true⟩ otherRules (chatRequest streamBody)
      (.obj streamMembers) := by
    refine ⟨nofun, rfl, rfl, reads_streamGateway, rfl, ?_⟩
    intro chat hchat
    obtain rfl : chatParams = chat := Option.some.inj hchat
    constructor
    · intro rule hrule
      obtain rfl := List.mem_singleton.mp hrule
      decide
    · intro rule hrule content rest hmessage
      obtain rfl := List.mem_singleton.mp hrule
      obtain ⟨hcontent, -⟩ := ChatMessage.ofUser.inj (List.mem_singleton.mp hmessage)
      obtain rfl := UserContent.ofString.inj hcontent
      decide
  obtain ⟨-, hdeclared⟩ := (keeps_iff keepsDeclared_chatSdk rfl hunruled).mp (hround _ _ _ hunruled)
  exact nomatch (hdeclared "stream" (.bool true) rfl).1

end KubeGateway.Gateway
