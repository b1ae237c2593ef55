import KubeGateway.Native.OpenAI

/-!
# What a rewrite leaves alone

The rules of a request policy are for the model and for the strings users write.
Everything else of a chat request is encoded again as it was decoded: the messages
in their order, those of the other roles, contents that are not a plain string, and
the top-level fields.
-/

namespace KubeGateway.Gateway

open GoJson

/-- What may differ between a message and the one that takes its place. -/
inductive ChatMessage.SameButString : ChatMessage → ChatMessage → Prop where
  | other (role : Role) (members : List (String × Json)) :
    SameButString (.ofOther role members) (.ofOther role members)
  | parts (parts : List ContentPart) (rest : List (String × Json)) :
    SameButString (.ofUser (.ofArrayOfContentParts parts) rest)
      (.ofUser (.ofArrayOfContentParts parts) rest)
  | absent (rest : List (String × Json)) :
    SameButString (.ofUser .absent rest) (.ofUser .absent rest)
  | string (content newContent : String) (rest : List (String × Json)) :
    SameButString (.ofUser (.ofString content) rest) (.ofUser (.ofString newContent) rest)

/-- The second request is the first but for what the rules name. -/
structure Request.Frames (c : Request) (chat newChat : ChatCompletionNewParams) : Prop where
  length : newChat.messages.length = chat.messages.length
  others : ∀ (i : Nat) (role : Role) (members : List (String × Json)),
    chat.messages[i]? = some (.ofOther role members) →
    newChat.messages[i]? = some (.ofOther role members)
  contents : ∀ (i : Nat) (content : UserContent) (rest : List (String × Json)),
    chat.messages[i]? = some (.ofUser content rest) → (∀ s, content ≠ .ofString s) →
    newChat.messages[i]? = some (.ofUser content rest)
  strings : ∀ (i : Nat) (s : String) (rest : List (String × Json)),
    chat.messages[i]? = some (.ofUser (.ofString s) rest) →
    ∃ s', newChat.messages[i]? = some (.ofUser (.ofString s') rest)
  fields : newChat.rest = chat.rest
  unmatched : c.NoMatch chat → newChat = chat

/-- One message, by its role and the form of its content. -/
theorem Request.rewriteMessage_sameButString (c : Request) (m : ChatMessage) :
    m.SameButString (c.rewriteMessage m) := by
  cases m with
  | ofOther role members => exact .other role members
  | ofUser content rest =>
    cases content with
    | ofString s => exact .string s (c.replacePrompt s) rest
    | ofArrayOfContentParts parts => exact .parts parts rest
    | absent => exact .absent rest

/-- The messages stay in their places. -/
theorem Request.rewrite_messages_getElem? (c : Request) (chat : ChatCompletionNewParams)
    {i : Nat} {m : ChatMessage} (hm : chat.messages[i]? = some m) :
    ∃ m', (c.rewrite chat).messages[i]? = some m' ∧ m.SameButString m' := by
  refine ⟨c.rewriteMessage m, ?_, c.rewriteMessage_sameButString m⟩
  show (chat.messages.map c.rewriteMessage)[i]? = _
  rw [List.getElem?_map, hm, Option.map_some]

/-- The rewrite touches only what the policy names. -/
theorem Request.rewrite_frames (c : Request) (chat : ChatCompletionNewParams) :
    c.Frames chat (c.rewrite chat) where
  length := List.length_map c.rewriteMessage
  others i role members hm := by
    obtain ⟨m', hm', hsame⟩ := c.rewrite_messages_getElem? chat hm
    cases hsame
    exact hm'
  contents i content rest hm hform := by
    obtain ⟨m', hm', hsame⟩ := c.rewrite_messages_getElem? chat hm
    cases hsame with
    | parts => exact hm'
    | absent => exact hm'
    | string s => exact absurd rfl (hform s)
  strings i s rest hm := by
    obtain ⟨m', hm', hsame⟩ := c.rewrite_messages_getElem? chat hm
    cases hsame with
    | string _ s' => exact ⟨s', hm'⟩
  fields := rfl
  unmatched hmatch := rewrite_of_noMatch hmatch

/-- A request that is not blocked goes on with the encoding of one that its rules
    frame, and with that length. -/
theorem openAIRequest_frames (sdk : Sdk) (c : Request) (body : GoString)
    (chat : ChatCompletionNewParams) (hchat : sdk.unmarshalParams body = some chat)
    (hblock : c.block = false) (req : HttpRequest) :
    ∃ newChat, c.Frames chat newChat ∧
      ((openAIRequest sdk c (some body)).update req).body =
        (sdk.marshalParams newChat).getD [] ∧
      ((openAIRequest sdk c (some body)).update req).contentLength =
        ((openAIRequest sdk c (some body)).update req).body.length := by
  refine ⟨c.rewrite chat, c.rewrite_frames chat, ?_⟩
  rw [openAIRequest_of_pass sdk hchat hblock]
  exact ⟨rfl, rfl⟩

/-- The model is renamed, and what the system said stays. -/
theorem openAIRequest_frames_renamed :
    let c : Request := ⟨"", ⟨[⟨"m", "n"⟩], []⟩, .nil, .nil, false, false⟩
    let chat : ChatCompletionNewParams :=
      ⟨"m", [.ofOther .system [("content", .str "be kind")], .ofUser (.ofString "hi") []], []⟩
    let said := [messageText "system" "be kind", messageText "user" "hi"]
    let verdict := openAIRequest (oneRequestSdk (chatText "m" said) (chatText "n" said) chat) c
      (some (chatText "m" said))
    ∃ newChat, c.Frames chat newChat ∧ newChat.messages.length = 2 ∧
      (verdict.update ⟨(chatText "m" said).length, chatText "m" said⟩).body =
        chatText "n" said := by
  intro c chat said verdict
  obtain ⟨newChat, hframes, hbody, -⟩ := openAIRequest_frames
    (oneRequestSdk (chatText "m" said) (chatText "n" said) chat) c (chatText "m" said) chat
    (by simp) rfl ⟨(chatText "m" said).length, chatText "m" said⟩
  exact ⟨newChat, hframes, hframes.length, hbody⟩

end KubeGateway.Gateway
