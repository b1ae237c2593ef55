import Mathlib.Logic.Function.Basic
import KubeGateway.ForStd.SharedRead
import KubeGateway.Native.OpenAI

/-!
# The policy in shared memory

The watcher writes the policy while the loops of any number of `Http_gateway` calls
read it.  A loop gets the pointer once to check it for nil; `openAIRequest` and
`openAIResponse` then get it again from the `AITransaction` for each field they
read.  The watcher decodes an update field by field, and `Reset` takes two writes.
-/

namespace KubeGateway.Gateway

open GoJson

/-! ## The reads of `openAIRequest` and `openAIResponse` -/

/-- The loop over `c.Request.ModelReplace`. -/
def replaceModelReads (model : String) : Reads Request String := do
  let len ← Reads.field fun c => c.modelReplace.elems.length
  if len = 0 then return model
  let len ← Reads.field fun c => c.modelReplace.elems.length
  (List.range len).foldlM (fun model x => do
    let rule ← Reads.index (fun c => c.modelReplace.elems) x
    if model = rule.orig then
      let _logged ← Reads.index (fun c => c.modelReplace.elems) x
      let rule ← Reads.index (fun c => c.modelReplace.elems) x
      return rule.new
    else return model) model

/-- The loop over `c.Request.UserPromptReplace`, for one message. -/
def replacePromptReads (content : String) : Reads Request String := do
  let len ← Reads.field fun c => c.userPromptReplace.elems.length
  if len = 0 then return content
  let len ← Reads.field fun c => c.userPromptReplace.elems.length
  (List.range len).foldlM (fun content y => do
    let orig ← Reads.index (fun c => c.userPromptReplace.elems) y
    let new ← Reads.index (fun c => c.userPromptReplace.elems) y
    let _logged ← Reads.index (fun c => c.userPromptReplace.elems) y
    let _logged ← Reads.index (fun c => c.userPromptReplace.elems) y
    return replaceAll content orig.orig new.new) content

def rewriteMessageReads : ChatMessage → Reads Request ChatMessage
  | .ofUser (.ofString content) rest => do
    let content ← replacePromptReads content
    return .ofUser (.ofString content) rest
  | m => return m

/-- `openAIRequest`, with each read of `c.Request`. -/
def openAIRequestReads (sdk : Sdk) (body : Option GoString) : Reads Request RequestVerdict := do
  let _debug ← Reads.field Request.debug
  match body with
  | none => return .err
  | some body =>
    match sdk.unmarshalParams body with
    | none => return .err
    | some chat =>
      let block ← Reads.field Request.block
      if block then return .block (refusal sdk)
      let model ← replaceModelReads chat.model
      let messages ← chat.messages.foldlM (fun messages m => do
        let m ← rewriteMessageReads m
        return messages ++ [m]) []
      return .pass ((sdk.marshalParams { chat with model, messages }).getD [])

/-- The loop over `c.Response.BannedWords`, for one choice. -/
def bansReads (content : String) (block : Bool) : Reads Response Bool := do
  let len ← Reads.field fun c => c.bannedWords.elems.length
  (List.range len).foldlM (fun block y => do
    let word ← Reads.index (fun c => c.bannedWords.elems) y
    return block || contains content word) block

/-- `openAIResponse`, with each read of `c.Response`.  `response.Debug` is read through
    the pointer that was checked for nil. -/
def openAIResponseReads (sdk : Sdk) (body : GoString) : Reads Response (Option (Bool × GoString)) :=
  match sdk.unmarshalCompletion body with
  | none => return none
  | some chat => do
    let block ← chat.choices.foldlM (fun block choice => bansReads choice.content block) false
    let chat := if block then { chat with choices := [refusalChoice] } else chat
    return some (block, (sdk.marshalCompletion chat).getD [])

/-- Whether `c.Request.Debug` is read once more, after the refusal has been written. -/
def RequestVerdict.blocks : RequestVerdict → Bool
  | .block _ => true
  | _ => false

/-! ## The writes of the watcher -/

/-- A write of one field of the policy, or of a field of what it points to. -/
inductive PolicyWrite where
  | request (write : Option Request → Option Request)
  | response (write : Option Response → Option Response)

def PolicyWrite.apply (c : AITransaction) : PolicyWrite → AITransaction
  | .request write => { c with request := write c.request }
  | .response write => { c with response := write c.response }

/-- Some of the writes are to the request policy. -/
def writesRequest (writes : List PolicyWrite) : Bool :=
  writes.any fun
    | .request _ => true
    | .response _ => false

/-- Some of the writes are to the response policy. -/
def writesResponse (writes : List PolicyWrite) : Bool :=
  writes.any fun
    | .request _ => false
    | .response _ => true

/-- The writes of one member of the ConfigMap's object. -/
def memberWrites (m : String × Json) : List PolicyWrite :=
  match (transactionLayout.lookup m.1).map Field.name with
  | some "request" => (requestLayout.pointerWrites m.2).map .request
  | some "response" => (responseLayout.pointerWrites m.2).map .response
  | _ => []

/-- The writes of `json.Unmarshal`. -/
def unmarshalWrites (parse : String → Option Json) (data : String) : List PolicyWrite :=
  match parse data with
  | none => []
  | some j => j.members.flatMap memberWrites

/-- The writes of `Reset`. -/
def resetWrites : List PolicyWrite := [.request fun _ => none, .response fun _ => none]

/-- The writes of one round of the watcher's loop. -/
def Watch.writes (parse : String → Option Json) (w : Watch) (event : WatchEvent) :
    List PolicyWrite :=
  match event with
  | .added (some m) | .modified (some m) =>
    if m.name = w.configMapName ∧ m.namespace_ = w.namespace_ then unmarshalWrites parse m.config
    else []
  | .deleted (some _) => resetWrites
  | _ => []

/-! ## The watcher and the loops -/

/-- The watcher with the policy, what it has written of the last event and what it has
    not, the versions there have been, with the one that is being written; and the loops
    of the `Http_gateway` calls, by number. -/
structure SharedPolicy where
  watch : Watch
  written : List PolicyWrite
  pending : List PolicyWrite
  versions : List AITransaction
  requests : Nat → Reader Request (Option GoString) RequestVerdict
  responses : Nat → Reader Response GoString (Option (Bool × GoString))
  /-- a loop has ended the process -/
  crashed : Bool

def SharedPolicy.start (podname namespace_ : String) : SharedPolicy :=
  { watch := .newWatcher podname namespace_, written := [], pending := [], versions := [.empty]
    requests := fun _ => .idle, responses := fun _ => .idle, crashed := false }

/-- The process has ended. -/
def SharedPolicy.stopped (s : SharedPolicy) : Bool := s.crashed || s.watch.crashed

/-- An event of the watch, and one write; a request or response that a loop has read
    meets the nil check, and one read. -/
inductive PolicyEvent where
  | watch (event : WatchEvent)
  | write
  | request (i : Nat) (body : Option GoString)
  | nextRequest (i : Nat)
  | response (i : Nat) (body : GoString)
  | nextResponse (i : Nat)

/-- One step.  The watcher takes up an event when it is done with the last one. -/
def SharedPolicy.step (parse : String → Option Json) (sdk : Sdk) (s : SharedPolicy)
    (e : PolicyEvent) : SharedPolicy :=
  if s.stopped then s
  else
    match e with
    | .watch event =>
      match s.pending with
      | [] =>
        let w := s.watch.step parse event
        { s with
          watch := { s.watch with crashed := w.crashed }
          written := []
          pending := s.watch.writes parse event
          versions := s.versions ++ [w.config] }
      | _ :: _ => s
    | .write =>
      match s.pending with
      | [] => s
      | w :: rest =>
        { s with
          watch := { s.watch with config := w.apply s.watch.config }
          written := s.written ++ [w]
          pending := rest }
    | .request i body =>
      let r := (s.requests i).check (openAIRequestReads sdk) s.watch.config.getRequest body
      { s with requests := Function.update s.requests i r }
    | .nextRequest i =>
      match (s.requests i).next RequestVerdict.blocks s.watch.config.request with
      | some r => { s with requests := Function.update s.requests i r }
      | none => { s with crashed := true }
    | .response i body =>
      let r := (s.responses i).check (openAIResponseReads sdk) s.watch.config.getResponse body
      { s with responses := Function.update s.responses i r }
    | .nextResponse i =>
      match (s.responses i).next (fun _ => false) s.watch.config.response with
      | some r => { s with responses := Function.update s.responses i r }
      | none => { s with crashed := true }

/-! ## Reading one version -/

theorem eval_replaceModelReads (c : Request) (model : String) :
    (replaceModelReads model).eval c = some (c.replaceModel model) := by
  unfold replaceModelReads Request.replaceModel
  by_cases hlen : c.modelReplace.elems.length = 0
  · have hnil : c.modelReplace.elems = [] := List.eq_nil_of_length_eq_zero hlen
    simp [hnil]
  · simp only [Reads.eval_bind, Reads.eval_field, Option.bind_some, if_neg hlen]
    apply Reads.eval_foldlM_range
    intro model x rule hrule
    have hread : (Reads.index (fun c : Request => c.modelReplace.elems) x).eval c = some rule :=
      Reads.eval_index hrule
    rw [Reads.eval_bind, hread, Option.bind_some]
    split
    · simp [hread]
    · rfl

theorem eval_replacePromptReads (c : Request) (content : String) :
    (replacePromptReads content).eval c = some (c.replacePrompt content) := by
  unfold replacePromptReads Request.replacePrompt
  by_cases hlen : c.userPromptReplace.elems.length = 0
  · have hnil : c.userPromptReplace.elems = [] := List.eq_nil_of_length_eq_zero hlen
    simp [hnil]
  · simp only [Reads.eval_bind, Reads.eval_field, Option.bind_some, if_neg hlen]
    apply Reads.eval_foldlM_range
    intro content y rule hrule
    have hread : (Reads.index (fun c : Request => c.userPromptReplace.elems) y).eval c =
        some rule :=
      Reads.eval_index hrule
    simp [hread]

theorem eval_rewriteMessageReads (c : Request) (m : ChatMessage) :
    (rewriteMessageReads m).eval c = some (c.rewriteMessage m) := by
  cases m with
  | ofOther role members => rfl
  | ofUser content rest =>
    cases content with
    | ofString content =>
      simp [rewriteMessageReads, Request.rewriteMessage, eval_replacePromptReads]
    | ofArrayOfContentParts parts => rfl
    | absent => rfl

/-- If the policy stays as it is, the program computes what `openAIRequest` does. -/
theorem eval_openAIRequestReads (sdk : Sdk) (c : Request) (body : Option GoString) :
    (openAIRequestReads sdk body).eval c = some (openAIRequest sdk c body) := by
  unfold openAIRequestReads openAIRequest
  rw [Reads.eval_bind, Reads.eval_field, Option.bind_some]
  cases body with
  | none => rfl
  | some body =>
    dsimp only
    cases sdk.unmarshalParams body with
    | none => rfl
    | some chat =>
      dsimp only
      rw [Reads.eval_bind, Reads.eval_field, Option.bind_some]
      cases c.block with
      | true => rfl
      | false =>
        have hmessages : (chat.messages.foldlM (fun messages m => do
            let m ← rewriteMessageReads m
            return messages ++ [m]) [] : Reads Request (List ChatMessage)).eval c =
              some (chat.messages.map c.rewriteMessage) := by
          have hstep : ∀ messages m, (do
              let m ← rewriteMessageReads m
              return messages ++ [m] : Reads Request (List ChatMessage)).eval c =
                some (messages ++ [c.rewriteMessage m]) := by
            intro messages m
            simp [eval_rewriteMessageReads]
          rw [Reads.eval_foldlM hstep, List.foldl_append_eq_append, List.nil_append,
            ← List.flatMap_def, ← List.map_eq_flatMap]
        simp [eval_replaceModelReads, hmessages, Request.rewrite]

private theorem foldl_or_eq_any {α : Type} (p : α → Bool) (l : List α) (b : Bool) :
    l.foldl (fun b a => b || p a) b = (b || l.any p) := by
  induction l generalizing b with
  | nil => simp
  | cons a l ih => rw [List.foldl_cons, ih, List.any_cons, Bool.or_assoc]

theorem eval_bansReads (c : Response) (content : String) (block : Bool) :
    (bansReads content block).eval c =
      some (block || c.bannedWords.elems.any fun word => contains content word) := by
  unfold bansReads
  rw [Reads.eval_bind, Reads.eval_field, Option.bind_some, ← foldl_or_eq_any]
  apply Reads.eval_foldlM_range
  intro block y word hword
  have hread : (Reads.index (fun c : Response => c.bannedWords.elems) y).eval c = some word :=
    Reads.eval_index hword
  simp [hread]

/-- If the policy stays as it is, the program computes what `openAIResponse` does. -/
theorem eval_openAIResponseReads (sdk : Sdk) (c : Response) (body : GoString) :
    (openAIResponseReads sdk body).eval c = some (openAIResponse sdk c body) := by
  have hbans : ∀ choices : List ChatCompletionChoice,
      (choices.foldlM (fun block choice => bansReads choice.content block) false :
          Reads Response Bool).eval c =
        some (choices.any fun choice =>
          c.bannedWords.elems.any fun word => contains choice.content word) := by
    intro choices
    have hstep : ∀ (block : Bool) (choice : ChatCompletionChoice),
        (bansReads choice.content block).eval c =
          some (block || c.bannedWords.elems.any fun word => contains choice.content word) :=
      fun block choice => eval_bansReads c choice.content block
    rw [Reads.eval_foldlM hstep, foldl_or_eq_any, Bool.false_or]
  unfold openAIResponseReads openAIResponse
  cases sdk.unmarshalCompletion body with
  | none => rfl
  | some chat =>
    dsimp only
    rw [Reads.eval_bind, hbans]
    rfl

/-! ## Writing one version -/

private theorem foldl_request (writes : List (Option Request → Option Request))
    (c : AITransaction) :
    (writes.map PolicyWrite.request).foldl PolicyWrite.apply c =
      { c with request := writes.foldl (fun p write => write p) c.request } := by
  induction writes generalizing c with
  | nil => rfl
  | cons write writes ih => exact ih (PolicyWrite.apply c (.request write))

private theorem foldl_response (writes : List (Option Response → Option Response))
    (c : AITransaction) :
    (writes.map PolicyWrite.response).foldl PolicyWrite.apply c =
      { c with response := writes.foldl (fun p write => write p) c.response } := by
  induction writes generalizing c with
  | nil => rfl
  | cons write writes ih => exact ih (PolicyWrite.apply c (.response write))

private theorem foldl_memberWrites (c : AITransaction) (m : String × Json) :
    (memberWrites m).foldl PolicyWrite.apply c = transactionLayout.applyMember c m := by
  unfold memberWrites Layout.applyMember
  cases hlook : transactionLayout.lookup m.1 with
  | none => rfl
  | some f =>
    have hf := transactionLayout.mem_of_lookup hlook
    simp only [transactionLayout, List.mem_cons, List.not_mem_nil, or_false] at hf
    rcases hf with rfl | rfl | rfl
    · rfl
    · show ((requestLayout.pointerWrites m.2).map PolicyWrite.request).foldl _ c = _
      rw [foldl_request, Layout.foldl_pointerWrites]
    · show ((responseLayout.pointerWrites m.2).map PolicyWrite.response).foldl _ c = _
      rw [foldl_response, Layout.foldl_pointerWrites]

/-- An event is a step of the watcher's loop, once all its writes are made. -/
theorem Watch.foldl_writes (parse : String → Option Json) {w : Watch} (event : WatchEvent)
    (hcrashed : w.crashed = false) :
    (w.writes parse event).foldl PolicyWrite.apply w.config = (w.step parse event).config := by
  have hunmarshal : ∀ data, (unmarshalWrites parse data).foldl PolicyWrite.apply w.config =
      (w.config.unmarshal parse data).1 := by
    intro data
    unfold unmarshalWrites AITransaction.unmarshal
    cases parse data with
    | none => rfl
    | some j =>
      rw [List.foldl_flatMap]
      simp only [foldl_memberWrites]
      rfl
  have hmap : ∀ m : ConfigMap,
      (if m.name = w.configMapName ∧ m.namespace_ = w.namespace_ then unmarshalWrites parse m.config
        else []).foldl PolicyWrite.apply w.config =
      (if m.name = w.configMapName ∧ m.namespace_ = w.namespace_ then
        { w with config := (w.config.unmarshal parse m.config).1 }
        else w).config := by
    intro m
    split
    · exact hunmarshal m.config
    · rfl
  unfold Watch.step
  rw [if_neg (by rw [hcrashed]; exact Bool.false_ne_true)]
  cases event with
  | added object =>
    cases object with
    | none => rfl
    | some m => exact hmap m
  | modified object =>
    cases object with
    | none => rfl
    | some m => exact hmap m
  | deleted object => cases object <;> rfl
  | other => rfl

/-- Writes to the other half leave the request policy alone. -/
theorem request_foldl_apply {writes : List PolicyWrite} (h : writesRequest writes = false)
    (c : AITransaction) : (writes.foldl PolicyWrite.apply c).request = c.request := by
  induction writes generalizing c with
  | nil => rfl
  | cons w writes ih =>
    cases w with
    | request write => simp [writesRequest] at h
    | response write => exact ih (by simpa [writesRequest] using h) _

/-- Writes to the other half leave the response policy alone. -/
theorem response_foldl_apply {writes : List PolicyWrite} (h : writesResponse writes = false)
    (c : AITransaction) : (writes.foldl PolicyWrite.apply c).response = c.response := by
  induction writes generalizing c with
  | nil => rfl
  | cons w writes ih =>
    cases w with
    | request write => exact ih (by simpa [writesResponse] using h) _
    | response write => simp [writesResponse] at h

/-! ## What a step can do -/

section

variable (parse : String → Option Json) (sdk : Sdk) (s : SharedPolicy) (e : PolicyEvent)

/-- To the policy and to what the watcher has still to write: nothing, or it takes up
    an event, or it makes the next write. -/
theorem SharedPolicy.config_step :
    let s' := s.step parse sdk e
    (s'.watch.config = s.watch.config ∧ s'.pending = s.pending) ∨
    (∃ event, e = .watch event ∧ s'.watch.config = s.watch.config ∧
      s'.pending = s.watch.writes parse event) ∨
    ∃ w, s.pending = w :: s'.pending ∧ s'.watch.config = w.apply s.watch.config := by
  unfold SharedPolicy.step
  cases s.stopped with
  | true => exact Or.inl ⟨rfl, rfl⟩
  | false =>
    rw [if_neg Bool.false_ne_true]
    cases e with
    | watch event =>
      cases hpending : s.pending with
      | nil => exact Or.inr (Or.inl ⟨event, rfl, rfl, rfl⟩)
      | cons w rest => exact Or.inl ⟨rfl, hpending⟩
    | write =>
      cases hpending : s.pending with
      | nil => exact Or.inl ⟨rfl, hpending⟩
      | cons w rest => exact Or.inr (Or.inr ⟨w, rfl, rfl⟩)
    | request i body => exact Or.inl ⟨rfl, rfl⟩
    | response i body => exact Or.inl ⟨rfl, rfl⟩
    | nextRequest i =>
      dsimp only
      cases (s.requests i).next RequestVerdict.blocks s.watch.config.request with
      | none => exact Or.inl ⟨rfl, rfl⟩
      | some r => exact Or.inl ⟨rfl, rfl⟩
    | nextResponse i =>
      dsimp only
      cases (s.responses i).next (fun _ => false) s.watch.config.response with
      | none => exact Or.inl ⟨rfl, rfl⟩
      | some r => exact Or.inl ⟨rfl, rfl⟩

/-- To a request loop: nothing, or it checks its policy, or it goes on. -/
theorem SharedPolicy.requests_step (i : Nat) :
    let s' := s.step parse sdk e
    s'.requests i = s.requests i ∨
    (∃ body, s'.requests i =
      (s.requests i).check (openAIRequestReads sdk) s.watch.config.request body) ∨
    (s.requests i).next RequestVerdict.blocks s.watch.config.request = some (s'.requests i) := by
  unfold SharedPolicy.step
  cases s.stopped with
  | true => exact Or.inl rfl
  | false =>
    rw [if_neg Bool.false_ne_true]
    cases e with
    | watch event => cases s.pending <;> exact Or.inl rfl
    | write => cases s.pending <;> exact Or.inl rfl
    | response j body => exact Or.inl rfl
    | nextResponse j =>
      dsimp only
      cases (s.responses j).next (fun _ => false) s.watch.config.response <;> exact Or.inl rfl
    | request j body =>
      by_cases hj : i = j
      · subst hj
        exact Or.inr (Or.inl ⟨body, Function.update_self ..⟩)
      · exact Or.inl (Function.update_of_ne hj ..)
    | nextRequest j =>
      dsimp only
      cases hnext : (s.requests j).next RequestVerdict.blocks s.watch.config.request with
      | none => exact Or.inl rfl
      | some r =>
        by_cases hj : i = j
        · subst hj
          refine Or.inr (Or.inr (hnext.trans ?_))
          dsimp only
          rw [Function.update_self]
        · exact Or.inl (Function.update_of_ne hj ..)

/-- The same for a response loop. -/
theorem SharedPolicy.responses_step (i : Nat) :
    let s' := s.step parse sdk e
    s'.responses i = s.responses i ∨
    (∃ body, s'.responses i =
      (s.responses i).check (openAIResponseReads sdk) s.watch.config.response body) ∨
    (s.responses i).next (fun _ => false) s.watch.config.response = some (s'.responses i) := by
  unfold SharedPolicy.step
  cases s.stopped with
  | true => exact Or.inl rfl
  | false =>
    rw [if_neg Bool.false_ne_true]
    cases e with
    | watch event => cases s.pending <;> exact Or.inl rfl
    | write => cases s.pending <;> exact Or.inl rfl
    | request j body => exact Or.inl rfl
    | nextRequest j =>
      dsimp only
      cases (s.requests j).next RequestVerdict.blocks s.watch.config.request <;> exact Or.inl rfl
    | response j body =>
      by_cases hj : i = j
      · subst hj
        exact Or.inr (Or.inl ⟨body, Function.update_self ..⟩)
      · exact Or.inl (Function.update_of_ne hj ..)
    | nextResponse j =>
      dsimp only
      cases hnext : (s.responses j).next (fun _ => false) s.watch.config.response with
      | none => exact Or.inl rfl
      | some r =>
        by_cases hj : i = j
        · subst hj
          refine Or.inr (Or.inr (hnext.trans ?_))
          dsimp only
          rw [Function.update_self]
        · exact Or.inl (Function.update_of_ne hj ..)

end

end KubeGateway.Gateway
