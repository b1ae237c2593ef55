import Mathlib.Data.List.Infix
import KubeGateway.Native.Connection
import KubeGateway.Native.Policy

/-!
# Chat requests and completions

`gateway/openai.go`: what the policy does to one chat completion request and to
one completion.  The bodies are decoded and encoded by the OpenAI SDK, which is a
parameter here; of its structs only the members are named that the gateway reads
or writes, the others are in `rest`.
-/

namespace KubeGateway.Gateway

open GoJson

/-! ## Strings -/

/-- Replaces from left to right, after leaving out `skip` characters. -/
def replaceFrom (old new : List Char) : Nat → List Char → List Char
  | _, [] => []
  | skip + 1, _ :: cs => replaceFrom old new skip cs
  | 0, c :: cs =>
    if old.isPrefixOf (c :: cs) then new ++ replaceFrom old new (old.length - 1) cs
    else c :: replaceFrom old new 0 cs

/-- `strings.ReplaceAll`; an empty `old` matches before and after every character. -/
def replaceAll (s old new : String) : String :=
  if old = "" then String.ofList (new.toList ++ s.toList.flatMap (fun c => c :: new.toList))
  else String.ofList (replaceFrom old.toList new.toList 0 s.toList)

/-- `strings.Contains` -/
def contains (s substr : String) : Bool := decide (substr.toList <:+: s.toList)

private theorem replaceFrom_eq_self {old : List Char} (new : List Char) {cs : List Char}
    (h : ¬ old <:+: cs) : replaceFrom old new 0 cs = cs := by
  induction cs with
  | nil => rfl
  | cons c cs ih =>
    have hfront : ¬ old.isPrefixOf (c :: cs) = true := by
      intro hpre
      exact h (List.isPrefixOf_iff_prefix.mp hpre).isInfix
    unfold replaceFrom
    rw [if_neg hfront, ih fun hlater => h (hlater.trans (List.suffix_cons c cs).isInfix)]

/-- Nothing is replaced where nothing matches. -/
theorem replaceAll_of_not_contains {s old : String} (h : contains s old = false) (new : String) :
    replaceAll s old new = s := by
  have hinfix : ¬ old.toList <:+: s.toList := of_decide_eq_false h
  unfold replaceAll
  split
  · next hempty =>
    -- the empty string is in every string
    rw [hempty] at hinfix
    exact absurd (List.nil_infix) hinfix
  · rw [replaceFrom_eq_self _ hinfix, String.ofList_toList]

/-! ## The SDK -/

/-- A part of a content array. -/
inductive ContentPart where
  | text (text : String)
  | other (members : List (String × Json))

/-- The content of a user message.  `absent` is one that is omitted or null. -/
inductive UserContent where
  | ofString (value : String)
  | ofArrayOfContentParts (parts : List ContentPart)
  | absent

inductive Role where
  | assistant
  | developer
  | tool
  | system
  | function
  deriving DecidableEq, Repr

/-- `ChatCompletionMessageParamUnion` -/
inductive ChatMessage where
  | ofUser (content : UserContent) (rest : List (String × Json))
  | ofOther (role : Role) (members : List (String × Json))

structure ChatCompletionNewParams where
  model : String
  messages : List ChatMessage
  rest : List (String × Json)

structure ChatCompletionChoice where
  content : String
  finishReason : String
  rest : List (String × Json)

structure ChatCompletion where
  id : String
  model : String
  choices : List ChatCompletionChoice
  rest : List (String × Json)

/-- `json.Unmarshal` and `json.Marshal` on the SDK's structs; `none` is an error. -/
structure Sdk where
  unmarshalParams : GoString → Option ChatCompletionNewParams
  marshalParams : ChatCompletionNewParams → Option GoString
  unmarshalCompletion : GoString → Option ChatCompletion
  marshalCompletion : ChatCompletion → Option GoString

/-! ## Requests -/

/-- An `http.Response` the gateway makes up. -/
structure HttpResponse where
  status : String
  statusCode : Nat
  header : List (String × String)
  contentLength : Nat
  body : GoString
  deriving DecidableEq, Repr

/-- The choice the gateway answers with itself. -/
def refusalChoice : ChatCompletionChoice :=
  { content := "kube-gateway says no", finishReason := "Stop", rest := [] }

/-- The pseudo response to the original requester. -/
def refusal (sdk : Sdk) : HttpResponse :=
  let newBody := (sdk.marshalCompletion
    { id := "1234", model := "kube-gateway", choices := [refusalChoice], rest := [] }).getD []
  { status := "200 OK"
    statusCode := 200
    header := [("Content-Type", "application/json"), ("User-Agent", "kube-gateway")]
    contentLength := newBody.length
    body := newBody }

/-- The rules for the model, one after the other. -/
def Request.replaceModel (c : Request) (model : String) : String :=
  c.modelReplace.elems.foldl (fun model rule => if model = rule.orig then rule.new else model) model

/-- The rules for prompts, one after the other. -/
def Request.replacePrompt (c : Request) (content : String) : String :=
  c.userPromptReplace.elems.foldl (fun content rule => replaceAll content rule.orig rule.new)
    content

def Request.rewriteMessage (c : Request) : ChatMessage → ChatMessage
  | .ofUser (.ofString content) rest => .ofUser (.ofString (c.replacePrompt content)) rest
  | m => m

/-- What the rules make of a chat request. -/
def Request.rewrite (c : Request) (chat : ChatCompletionNewParams) : ChatCompletionNewParams :=
  { chat with
    model := c.replaceModel chat.model
    messages := chat.messages.map c.rewriteMessage }

/-- No rule matches the model of a request, or one of its prompts. -/
structure Request.NoMatch (c : Request) (chat : ChatCompletionNewParams) : Prop where
  model : ∀ rule ∈ c.modelReplace.elems, chat.model ≠ rule.orig
  prompt : ∀ rule ∈ c.userPromptReplace.elems, ∀ content rest,
    ChatMessage.ofUser (.ofString content) rest ∈ chat.messages →
    contains content rule.orig = false

private theorem foldl_of_fixed {α β : Type} {f : β → α → β} {l : List α} {b : β}
    (h : ∀ a ∈ l, f b a = b) : l.foldl f b = b := by
  induction l with
  | nil => rfl
  | cons a l ih =>
    rw [List.forall_mem_cons] at h
    rw [List.foldl_cons, h.1]
    exact ih h.2

/-- The rules leave a request alone that none of them matches. -/
theorem Request.rewrite_of_noMatch {c : Request} {chat : ChatCompletionNewParams}
    (h : c.NoMatch chat) : c.rewrite chat = chat := by
  have hmodel : c.replaceModel chat.model = chat.model :=
    foldl_of_fixed fun rule hrule => if_neg (h.model rule hrule)
  have hmessages : chat.messages.map c.rewriteMessage = chat.messages := by
    rw [← List.map_id chat.messages, List.map_map]
    apply List.map_congr_left
    intro m hm
    show c.rewriteMessage m = m
    unfold Request.rewriteMessage
    split
    · next content rest =>
      have hprompt : c.replacePrompt content = content :=
        foldl_of_fixed fun rule hrule =>
          replaceAll_of_not_contains (h.prompt rule hrule content rest hm) rule.new
      rw [hprompt]
    · rfl
  unfold Request.rewrite
  rw [hmodel, hmessages]

/-- The results of `openAIRequest`. -/
inductive RequestVerdict where
  | err
  | block (res : HttpResponse)
  | pass (newBody : GoString)
  deriving DecidableEq, Repr

/-- `openAIRequest`, on what `io.ReadAll(req.Body)` returns, `none` for an error. -/
def openAIRequest (sdk : Sdk) (c : Request) (body : Option GoString) : RequestVerdict :=
  match body with
  | none => .err
  | some body =>
    match sdk.unmarshalParams body with
    | none => .err
    | some chat =>
      if c.block then .block (refusal sdk)
      else .pass ((sdk.marshalParams (c.rewrite chat)).getD [])

/-- The `http.Request` given to `openAIRequest`, as far as that sets it. -/
structure HttpRequest where
  contentLength : Int
  body : GoString
  deriving DecidableEq, Repr

/-- The request once `openAIRequest` is done with it. -/
def RequestVerdict.update (req : HttpRequest) : RequestVerdict → HttpRequest
  -- `io.ReadAll` has left 0 bytes in the body
  | .err | .block _ => { req with body := [] }
  | .pass newBody => { req with contentLength := newBody.length, body := newBody }

/-- The verdict on a body that was read: an error, a refusal, or a new body. -/
theorem openAIRequest_cases (sdk : Sdk) (c : Request) (body : GoString) :
    (sdk.unmarshalParams body = none ∧ openAIRequest sdk c (some body) = .err) ∨
    ∃ chat, sdk.unmarshalParams body = some chat ∧
      ((c.block = true ∧ openAIRequest sdk c (some body) = .block (refusal sdk)) ∨
        (c.block = false ∧
          openAIRequest sdk c (some body) =
            .pass ((sdk.marshalParams (c.rewrite chat)).getD []))) := by
  unfold openAIRequest
  cases hchat : sdk.unmarshalParams body with
  | none => exact Or.inl ⟨rfl, by simp [hchat]⟩
  | some chat =>
    refine Or.inr ⟨chat, rfl, ?_⟩
    cases hblock : c.block with
    | true => exact Or.inl ⟨rfl, by simp [hchat]⟩
    | false => exact Or.inr ⟨rfl, by simp [hchat]⟩

/-- A request that decodes and is not blocked goes on as the rules rewrite it. -/
theorem openAIRequest_of_pass (sdk : Sdk) {c : Request} {body : GoString}
    {chat : ChatCompletionNewParams} (hchat : sdk.unmarshalParams body = some chat)
    (hblock : c.block = false) :
    openAIRequest sdk c (some body) = .pass ((sdk.marshalParams (c.rewrite chat)).getD []) := by
  unfold openAIRequest
  simp [hchat, hblock]

/-! ## One chat request -/

/-- A message, as text; nothing in it needs an escape. -/
def messageText (role content : String) : GoString :=
  goString "\x7b\"content\":\"" ++ goString content ++ goString "\",\"role\":\"" ++
    goString role ++ goString "\"\x7d"

/-- A chat request, as text. -/
def chatText (model : String) (messages : List GoString) : GoString :=
  goString "\x7b\"messages\":[" ++ (goString ",").intercalate messages ++
    goString "],\"model\":\"" ++ goString model ++ goString "\"\x7d"

/-- The SDK, on one chat request and on what becomes of it. -/
def oneRequestSdk (body newBody : GoString) (chat : ChatCompletionNewParams) : Sdk where
  unmarshalParams := fun data => if data = body then some chat else none
  marshalParams := fun _ => some newBody
  unmarshalCompletion := fun _ => none
  marshalCompletion := fun _ => none

@[simp] theorem unmarshalParams_oneRequestSdk (body newBody : GoString)
    (chat : ChatCompletionNewParams) :
    (oneRequestSdk body newBody chat).unmarshalParams body = some chat := if_pos rfl

/-! ## Responses -/

/-- Some choice contains a banned word. -/
def Response.bans (c : Response) (chat : ChatCompletion) : Bool :=
  chat.choices.any fun choice => c.bannedWords.elems.any fun word => contains choice.content word

/-- `openAIResponse`: whether the response is blocked, and its new body; `none` for
    a body that is not a completion. -/
def openAIResponse (sdk : Sdk) (c : Response) (body : GoString) : Option (Bool × GoString) :=
  match sdk.unmarshalCompletion body with
  | none => none
  | some chat =>
    let block := c.bans chat
    let chat := if block then { chat with choices := [refusalChoice] } else chat
    some (block, (sdk.marshalCompletion chat).getD [])

end KubeGateway.Gateway
