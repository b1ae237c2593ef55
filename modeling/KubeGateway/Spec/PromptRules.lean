import KubeGateway.Native.OpenAI

/-!
# Prompt rules and letter case

What a policy's `userPromptReplace` rules are for: every text a user wrote, as a
string or as a text part, with each rule matching as its `caseSensitive` says.  The
gateway rewrites the strings only, and matches every rule exactly.  How letters of
different case are told to be the same letter is a parameter, `fold`.
-/

namespace KubeGateway.Gateway

/-! ## Matching regardless of letter case -/

section

variable (fold : Char → Char)

/-- `cs` starts with `old`, but for the case of its letters. -/
def startsLike (old cs : List Char) : Bool := (old.map fold).isPrefixOf (cs.map fold)

/-- `replaceFrom`, regardless of letter case. -/
def replaceLikeFrom (old new : List Char) : Nat → List Char → List Char
  | _, [] => []
  | skip + 1, _ :: cs => replaceLikeFrom old new skip cs
  | 0, c :: cs =>
    if startsLike fold old (c :: cs) then new ++ replaceLikeFrom old new (old.length - 1) cs
    else c :: replaceLikeFrom old new 0 cs

/-- `replaceAll`, regardless of letter case. -/
def replaceAllLike (s old new : String) : String :=
  if old = "" then replaceAll s old new
  else String.ofList (replaceLikeFrom fold old.toList new.toList 0 s.toList)

/-- A character that is the same letter as itself only. -/
def Caseless (c : Char) : Prop := ∀ d, fold c = fold d → c = d

variable {fold}

private theorem startsLike_of_caseless {old : List Char} (hold : ∀ c ∈ old, Caseless fold c)
    (cs : List Char) : startsLike fold old cs = old.isPrefixOf cs := by
  unfold startsLike
  induction old generalizing cs with
  | nil => rfl
  | cons c old ih =>
    rw [List.forall_mem_cons] at hold
    cases cs with
    | nil => rfl
    | cons d cs =>
      have hhead : (fold c == fold d) = (c == d) := by
        rw [Bool.eq_iff_iff, beq_iff_eq, beq_iff_eq]
        exact ⟨hold.1 d, congrArg fold⟩
      rw [List.map_cons, List.map_cons, List.isPrefixOf_cons_cons, List.isPrefixOf_cons_cons, hhead,
        ih hold.2]

private theorem replaceLikeFrom_of_caseless {old : List Char}
    (hold : ∀ c ∈ old, Caseless fold c) (new : List Char) (skip : Nat) (cs : List Char) :
    replaceLikeFrom fold old new skip cs = replaceFrom old new skip cs := by
  induction cs generalizing skip with
  | nil => cases skip <;> rfl
  | cons c cs ih =>
    cases skip with
    | succ skip => exact ih skip
    | zero =>
      unfold replaceLikeFrom replaceFrom
      rw [startsLike_of_caseless hold, ih, ih]

/-- Case makes no difference to a text without letters. -/
theorem replaceAllLike_of_caseless {old : String} (hold : ∀ c ∈ old.toList, Caseless fold c)
    (s new : String) : replaceAllLike fold s old new = replaceAll s old new := by
  unfold replaceAllLike
  split
  · rfl
  · next hne =>
    unfold replaceAll
    rw [if_neg hne, replaceLikeFrom_of_caseless hold]

end

/-! ## The rules as they are written -/

section

variable (fold : Char → Char)

/-- What a rule says is to be done with a text. -/
def PromtReplace.says (rule : PromtReplace) (text : String) : String :=
  if rule.caseSensitive then replaceAll text rule.orig rule.new
  else replaceAllLike fold text rule.orig rule.new

/-- What the rules of a policy say, in list order. -/
def Request.promptRulesSay (c : Request) (text : String) : String :=
  c.userPromptReplace.elems.foldl (fun text rule => rule.says fold text) text

/-- The same rules, each of them case sensitive. -/
def Request.allCaseSensitive (c : Request) : Request :=
  { c with
    userPromptReplace :=
      ⟨c.userPromptReplace.elems.map fun rule => { rule with caseSensitive := true },
        c.userPromptReplace.spare⟩ }

end

/-- The texts of a user message, in either form. -/
def UserContent.texts : UserContent → List String
  | .ofString value => [value]
  | .ofArrayOfContentParts parts =>
    parts.filterMap fun
      | .text text => some text
      | .other _ => none
  | .absent => []

def ChatMessage.userTexts : ChatMessage → List String
  | .ofUser content _ => content.texts
  | .ofOther _ _ => []

/-- Every text of a user has become what the rules say. -/
def Request.CoversPrompts (fold : Char → Char) (c : Request)
    (chat newChat : ChatCompletionNewParams) : Prop :=
  newChat.messages.map ChatMessage.userTexts =
    chat.messages.map fun m => m.userTexts.map (c.promptRulesSay fold)

instance (fold : Char → Char) (c : Request) (chat newChat : ChatCompletionNewParams) :
    Decidable (c.CoversPrompts fold chat newChat) :=
  inferInstanceAs (Decidable (_ = _))

/-- The request has nothing for the rules that they are not also carried out on:
    their flags make no difference to its strings, and its text parts are to stay. -/
structure Request.PlainFor (fold : Char → Char) (c : Request)
    (chat : ChatCompletionNewParams) : Prop where
  strings : ∀ s rest, ChatMessage.ofUser (.ofString s) rest ∈ chat.messages →
    c.allCaseSensitive.promptRulesSay fold s = c.promptRulesSay fold s
  parts : ∀ parts rest text,
    ChatMessage.ofUser (.ofArrayOfContentParts parts) rest ∈ chat.messages →
    ContentPart.text text ∈ parts → c.promptRulesSay fold text = text

section

variable {fold : Char → Char} {c : Request}

/-- The gateway reads every rule as case sensitive. -/
theorem Request.promptRulesSay_allCaseSensitive (fold : Char → Char) (c : Request) (s : String) :
    c.allCaseSensitive.promptRulesSay fold s = c.replacePrompt s := by
  show (c.userPromptReplace.elems.map _).foldl _ s = _
  rw [List.foldl_map]
  rfl

/-- Where no rule has a letter in another case to match, the flags do not matter. -/
theorem Request.promptRulesSay_of_caseless
    (h : ∀ rule ∈ c.userPromptReplace.elems,
      rule.caseSensitive = true ∨ ∀ ch ∈ rule.orig.toList, Caseless fold ch) (s : String) :
    c.allCaseSensitive.promptRulesSay fold s = c.promptRulesSay fold s := by
  rw [promptRulesSay_allCaseSensitive]
  apply List.foldl_ext
  intro text rule hrule
  unfold PromtReplace.says
  split
  · rfl
  · next hflag =>
    have hcaseless := (h rule hrule).resolve_left hflag
    rw [replaceAllLike_of_caseless hcaseless]

/-- One message: its texts are rewritten as the rules say exactly if the flags make
    no difference to its string, or its text parts are to stay. -/
theorem Request.userTexts_rewriteMessage_iff (m : ChatMessage) :
    (c.rewriteMessage m).userTexts = m.userTexts.map (c.promptRulesSay fold) ↔
      (∀ s rest, m = .ofUser (.ofString s) rest →
        c.allCaseSensitive.promptRulesSay fold s = c.promptRulesSay fold s) ∧
      ∀ parts rest text, m = .ofUser (.ofArrayOfContentParts parts) rest →
        ContentPart.text text ∈ parts → c.promptRulesSay fold text = text := by
  match m with
  | .ofOther _ _ => simp [Request.rewriteMessage, ChatMessage.userTexts]
  | .ofUser .absent _ => simp [Request.rewriteMessage, ChatMessage.userTexts, UserContent.texts]
  | .ofUser (.ofString s) rest =>
    have htexts : (c.rewriteMessage (.ofUser (.ofString s) rest)).userTexts =
        [c.allCaseSensitive.promptRulesSay fold s] := by
      rw [promptRulesSay_allCaseSensitive]
      rfl
    rw [htexts]
    simp [ChatMessage.userTexts, UserContent.texts]
  | .ofUser (.ofArrayOfContentParts parts) rest =>
    -- the parts are as they were, so the rules have to leave each of them alone
    show (UserContent.ofArrayOfContentParts parts).texts =
      (UserContent.ofArrayOfContentParts parts).texts.map _ ↔ _
    have hmem : ∀ text, text ∈ (UserContent.ofArrayOfContentParts parts).texts ↔
        ContentPart.text text ∈ parts := by
      intro text
      simp only [UserContent.texts, List.mem_filterMap]
      constructor
      · rintro ⟨part, hpart, htext⟩
        cases part with
        | text t =>
          cases htext
          exact hpart
        | other => exact nomatch htext
      · exact fun hpart => ⟨_, hpart, rfl⟩
    generalize (UserContent.ofArrayOfContentParts parts).texts = texts at hmem ⊢
    nth_rewrite 1 [← List.map_id texts]
    rw [List.map_inj_left]
    constructor
    · intro hstay
      refine ⟨fun s rest' hm => (nomatch hm), fun parts' rest' text hm htext => ?_⟩
      cases hm
      exact (hstay text ((hmem text).mpr htext)).symm
    · exact fun h text htext => (h.2 parts rest text rfl ((hmem text).mp htext)).symm

/-- The messages, one by one. -/
theorem Request.coversPrompts_iff (chat : ChatCompletionNewParams) :
    c.CoversPrompts fold chat (c.rewrite chat) ↔ c.PlainFor fold chat := by
  show (chat.messages.map c.rewriteMessage).map _ = _ ↔ _
  rw [List.map_map, List.map_inj_left]
  simp only [Function.comp_apply, userTexts_rewriteMessage_iff]
  constructor
  · exact fun h => ⟨fun s rest hm => (h _ hm).1 s rest rfl,
      fun parts rest text hm htext => (h _ hm).2 parts rest text rfl htext⟩
  · rintro ⟨hstrings, hparts⟩ m hm
    constructor
    · rintro s rest rfl
      exact hstrings s rest hm
    · rintro parts rest text rfl htext
      exact hparts parts rest text hm htext

end

/-- What is forwarded of a chat request has the user's texts as the rules say
    exactly if the request is plain for them. -/
theorem openAIRequest_coversPrompts_iff (fold : Char → Char) (sdk : Sdk) (c : Request)
    (body : GoString) (chat : ChatCompletionNewParams)
    (hchat : sdk.unmarshalParams body = some chat) (hblock : c.block = false) :
    openAIRequest sdk c (some body) = .pass ((sdk.marshalParams (c.rewrite chat)).getD []) ∧
      (c.CoversPrompts fold chat (c.rewrite chat) ↔ c.PlainFor fold chat) :=
  ⟨openAIRequest_of_pass sdk hchat hblock, c.coversPrompts_iff chat⟩

/-- A case-sensitive rule is carried out on a string. -/
theorem openAIRequest_coversPrompts_iff_string :
    let c : Request := ⟨"", .nil, ⟨[⟨"Go.", "horse", true⟩], []⟩, .nil, false, false⟩
    let chat : ChatCompletionNewParams := ⟨"m", [.ofUser (.ofString "Go. Run.") []], []⟩
    let body := chatText "m" [messageText "user" "Go. Run."]
    let newBody := chatText "m" [messageText "user" "horse Run."]
    openAIRequest (oneRequestSdk body newBody chat) c (some body) = .pass newBody ∧
      c.CoversPrompts Char.toLower chat (c.rewrite chat) := by
  intro c chat body newBody
  obtain ⟨hpass, hcovers⟩ := openAIRequest_coversPrompts_iff Char.toLower
    (oneRequestSdk body newBody chat) c body chat (by simp) rfl
  refine ⟨hpass, hcovers.mpr ⟨?_, ?_⟩⟩
  · intro s rest _
    exact Request.promptRulesSay_of_caseless (by simp [c]) s
  · simp [chat]

/-- A joke with a capital letter stays a joke, and so does one in a text part. -/
theorem not_coversPrompts :
    ¬ ∀ (c : Request) (chat : ChatCompletionNewParams), c.userPromptReplace.elems ≠ [] →
      (∀ rule ∈ c.userPromptReplace.elems, rule.orig ≠ "") →
      c.CoversPrompts Char.toLower chat (c.rewrite chat) := by
  intro h
  have hcovers := h ⟨"", .nil, ⟨[⟨"joke", "fact", false⟩], []⟩, .nil, false, false⟩
    ⟨"m", [.ofUser (.ofString "A Joke") [],
      .ofUser (.ofArrayOfContentParts [.text "a joke"]) []], []⟩ (by simp) (by simp)
  exact absurd hcovers (by decide)

end KubeGateway.Gateway
