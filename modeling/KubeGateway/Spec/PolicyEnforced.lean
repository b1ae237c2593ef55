import KubeGateway.Spec.BannedWords
import KubeGateway.Spec.BlockAirtight
import KubeGateway.Spec.PolicyHistory
import KubeGateway.Spec.PolicySnapshots
import KubeGateway.Spec.RequestMeaning

/-!
# A rule in force is enforced while the policy changes

The loops read the policy field by field while the watcher writes it, so a message
can be treated by a mixture of versions.  A rule that all of these versions share is
enforced all the same: nothing that is read in between can switch it off.  For a
policy that blocks this is so as long as no version says otherwise; for a banned word
also its place in the list has to stay, because the loop goes through the list by
position.

What switches a rule off is said of the documents, as they are decoded: a version
that leaves a member out keeps it.

## Key results

- `openAIRequestReads_ensures`, `openAIResponseReads_ensures`: what the programs return
  whatever their reads find
- `block_enforced`, `banned_word_enforced`: every run from a policy with the rule
-/

namespace KubeGateway.Gateway

open GoJson

/-! ## Rules in force -/

/-- A write that leaves a rule of the policy in force. -/
def PolicyWrite.Keeps (P : AITransaction → Prop) (w : PolicyWrite) : Prop :=
  ∀ c, P c → P (w.apply c)

/-- The policy has the rule, and the update that is under way leaves it. -/
structure SharedPolicy.InForce (P : AITransaction → Prop) (s : SharedPolicy) : Prop where
  now : P s.watch.config
  pending : ∀ w ∈ s.pending, w.Keeps P

/-- The policy blocks requests. -/
def Blocks (c : AITransaction) : Prop :=
  ∃ policy, c.request = some policy ∧ policy.block = true

/-- The policy bans the word, at this place of its list. -/
def Bans (k : Nat) (word : String) (c : AITransaction) : Prop :=
  ∃ policy, c.response = some policy ∧ policy.bannedWords.elems[k]? = some word

/-- The document does not take a block back. -/
def KeepsBlock (j : Json) : Prop :=
  ∀ m ∈ j.members, (transactionLayout.lookup m.1).map Field.name = some "request" →
    m.2.isNull = false ∧
    ∀ m' ∈ m.2.members, (requestLayout.lookup m'.1).map Field.name = some "block" →
      m'.2.bool? ≠ some false

/-- The document does not take the word out of its place: each list in it is long
    enough, and has the word there or nothing that can be read. -/
def KeepsWord (k : Nat) (word : String) (j : Json) : Prop :=
  ∀ m ∈ j.members, (transactionLayout.lookup m.1).map Field.name = some "response" →
    m.2.isNull = false ∧
    ∀ m' ∈ m.2.members, (responseLayout.lookup m'.1).map Field.name = some "bannedWords" →
      m'.2.emptiesSlice = false ∧
      ∀ items, m'.2.items? = some items →
        ∃ item, items[k]? = some item ∧ ∀ text, item.str? = some text → text = word

/-- An event that keeps a rule: it is no deletion, and the documents for this pod keep it. -/
def WatchEvent.Keeps (parse : String → Option Json) (doc : Json → Prop) (w : Watch) :
    WatchEvent → Prop
  | .added (some m) | .modified (some m) =>
    m.For w.podname w.namespace_ → ∀ j, parse m.config = some j → doc j
  | .deleted (some _) => False
  | _ => True

/-- The same for a step of the process. -/
def PolicyEvent.Keeps (parse : String → Option Json) (doc : Json → Prop) (s : SharedPolicy) :
    PolicyEvent → Prop
  | .watch event => event.Keeps parse doc s.watch
  | _ => True

/-! ## The writes of a document -/

/-- The fields of the two rules. -/
def blockField : GoJson.Field Request :=
  ⟨"block", .bool, Request.block, fun v r => { r with block := v }⟩

def bannedWordsField : GoJson.Field Response :=
  ⟨"bannedWords", Target.string.slice, Response.bannedWords,
    fun v r => { r with bannedWords := v }⟩

theorem blockField_mem : blockField ∈ requestLayout.fields := by
  simp [requestLayout, blockField]

theorem bannedWordsField_mem : bannedWordsField ∈ responseLayout.fields := by
  simp [responseLayout, bannedWordsField]

/-- What a block survives. -/
theorem keeps_memberWrites_of_keepsBlock {j : Json} (hj : KeepsBlock j) {m : String × Json}
    (hm : m ∈ j.members) : ∀ w ∈ memberWrites m, w.Keeps Blocks := by
  intro w hw c hc
  obtain ⟨policy, hpolicy, hblock⟩ := hc
  unfold memberWrites at hw
  split at hw
  · next hname =>
    obtain ⟨hnull, hvalues⟩ := hj m hm hname
    obtain ⟨write, hwrite, rfl⟩ := List.mem_map.mp hw
    have hmembers : ∀ m' ∈ m.2.members, ∀ r : Request, r.block = true →
        (requestLayout.applyMember r m').block = true := by
      intro m' hm' r hr
      refine requestLayout.applyMember_keeps blockField_mem (q := fun b : Bool => b = true) ?_ hr
      intro hblockName b hb
      show (m'.2.bool?).getD b = true
      cases hvalue : m'.2.bool? with
      | none => exact hb
      | some b' =>
        cases b' with
        | true => rfl
        | false => exact absurd hvalue (hvalues m' hm' hblockName)
    obtain ⟨policy', hwritten, hblock'⟩ :=
      requestLayout.pointerWrites_keep (p := fun r => r.block = true) hnull hmembers hwrite hblock
    exact ⟨policy', by
      show write c.request = _
      rw [hpolicy, hwritten], hblock'⟩
  · obtain ⟨write, -, rfl⟩ := List.mem_map.mp hw
    exact ⟨policy, hpolicy, hblock⟩
  · cases hw

/-- What a banned word survives. -/
theorem keeps_memberWrites_of_keepsWord {k : Nat} {word : String} {j : Json}
    (hj : KeepsWord k word j) {m : String × Json} (hm : m ∈ j.members) :
    ∀ w ∈ memberWrites m, w.Keeps (Bans k word) := by
  intro w hw c hc
  obtain ⟨policy, hpolicy, hword⟩ := hc
  unfold memberWrites at hw
  split at hw
  · obtain ⟨write, -, rfl⟩ := List.mem_map.mp hw
    exact ⟨policy, hpolicy, hword⟩
  · next hname =>
    obtain ⟨hnull, hvalues⟩ := hj m hm hname
    obtain ⟨write, hwrite, rfl⟩ := List.mem_map.mp hw
    have hmembers : ∀ m' ∈ m.2.members, ∀ r : Response, r.bannedWords.elems[k]? = some word →
        (responseLayout.applyMember r m').bannedWords.elems[k]? = some word := by
      intro m' hm' r hr
      refine responseLayout.applyMember_keeps bannedWordsField_mem
        (q := fun words : GoSlice String => words.elems[k]? = some word) ?_ hr
      intro hwordsName words hwords
      obtain ⟨hempties, hitems⟩ := hvalues m' hm' hwordsName
      refine Target.string.getElem?_decodeSlice hwords hempties fun items hitems' => ?_
      obtain ⟨item, hitem, htext⟩ := hitems items hitems'
      refine ⟨item, hitem, ?_⟩
      show (item.str?).getD word = word
      cases hstr : item.str? with
      | none => rfl
      | some text => exact htext text hstr
    obtain ⟨policy', hwritten, hword'⟩ :=
      responseLayout.pointerWrites_keep
        (p := fun r : Response => r.bannedWords.elems[k]? = some word) hnull hmembers hwrite hword
    exact ⟨policy', by
      show write c.response = _
      rw [hpolicy, hwritten], hword'⟩
  · cases hw

/-- The writes of an event that keeps a rule keep it. -/
theorem keeps_writes {parse : String → Option Json} {doc : Json → Prop} {P : AITransaction → Prop}
    {w : Watch} {event : WatchEvent} (hevent : event.Keeps parse doc w)
    (hdoc : ∀ j, doc j → ∀ m ∈ j.members, ∀ write ∈ memberWrites m, write.Keeps P) :
    ∀ write ∈ w.writes parse event, write.Keeps P := by
  have hversion : ∀ m : ConfigMap,
      (m.For w.podname w.namespace_ → ∀ j, parse m.config = some j → doc j) →
      ∀ write ∈ (if m.name = w.configMapName ∧ m.namespace_ = w.namespace_ then
        unmarshalWrites parse m.config else []), write.Keeps P := by
    intro m hm write hwrite
    split at hwrite
    · next hfor =>
      unfold unmarshalWrites at hwrite
      split at hwrite
      · cases hwrite
      · next j hj =>
        obtain ⟨member, hmember, hwrite⟩ := List.mem_flatMap.mp hwrite
        exact hdoc j (hm hfor j hj) member hmember write hwrite
    · cases hwrite
  intro write hwrite
  cases event with
  | added object =>
    cases object with
    | none => cases hwrite
    | some m => exact hversion m hevent write hwrite
  | modified object =>
    cases object with
    | none => cases hwrite
    | some m => exact hversion m hevent write hwrite
  | deleted object =>
    cases object with
    | none => cases hwrite
    | some m => exact hevent.elim
  | other => cases hwrite

section

variable {parse : String → Option Json} {sdk : Sdk} {s : SharedPolicy} {e : PolicyEvent}
  {P : AITransaction → Prop} {doc : Json → Prop}

/-- A step that keeps a rule leaves it in force. -/
theorem SharedPolicy.InForce.step (h : s.InForce P) (hevent : e.Keeps parse doc s)
    (hdoc : ∀ j, doc j → ∀ m ∈ j.members, ∀ write ∈ memberWrites m, write.Keeps P) :
    (s.step parse sdk e).InForce P := by
  obtain ⟨hconfig, hpending⟩ | ⟨event, rfl, hconfig, hpending⟩ | ⟨w, hpending, hconfig⟩ :=
    SharedPolicy.config_step parse sdk s e
  · exact ⟨by rw [hconfig]; exact h.now, by rw [hpending]; exact h.pending⟩
  · exact ⟨by rw [hconfig]; exact h.now, by rw [hpending]; exact keeps_writes hevent hdoc⟩
  · have hall := h.pending
    rw [hpending, List.forall_mem_cons] at hall
    exact ⟨by rw [hconfig]; exact hall.1 _ h.now, hall.2⟩

/-! ## The programs -/

/-- The request is refused if it decodes, and dropped if it does not. -/
def Refuses (sdk : Sdk) (body : Option GoString) (verdict : RequestVerdict) : Prop :=
  verdict = if (body.bind sdk.unmarshalParams).isSome then .block (refusal sdk) else .err

/-- Whatever the request program finds in the policy, as long as it finds it blocking. -/
theorem openAIRequestReads_ensures (sdk : Sdk) (body : Option GoString) :
    (openAIRequestReads sdk body).Ensures (fun policy => policy.block = true)
      (Refuses sdk body) := by
  unfold openAIRequestReads
  refine Reads.ensures_bind (Reads.ensures_field fun policy _ => ?_)
  cases body with
  | none => exact rfl
  | some body =>
    cases hchat : sdk.unmarshalParams body with
    | none =>
      simp only [hchat]
      exact Reads.ensures_pure (by simp [Refuses, hchat])
    | some chat =>
      simp only [hchat]
      refine Reads.ensures_bind (Reads.ensures_field fun policy hblock => ?_)
      rw [if_pos hblock]
      exact Reads.ensures_pure (by simp [Refuses, hchat])

/-- One choice, against a list that has the word at its place at every read. -/
theorem bansReads_ensures (k : Nat) (word content : String) (block : Bool) :
    (bansReads content block).Ensures (fun policy => policy.bannedWords.elems[k]? = some word)
      fun block' => block = true ∨ contains content word = true → block' = true := by
  unfold bansReads
  refine Reads.ensures_bind (Reads.ensures_field fun policy hword => ?_)
  obtain ⟨hlt, -⟩ := List.getElem?_eq_some_iff.mp hword
  -- once the loop has been at the word's place, the choice is banned
  refine Reads.Ensures.mono (Reads.ensures_foldlM
    (I := fun done block' => (block = true ∨ k ∈ done ∧ contains content word = true) →
      block' = true) (fun done x block' hdone => ?_) _ ?_) ?_
  · refine Reads.ensures_bind (Reads.ensures_index fun policy found hword hfound => ?_)
    refine Reads.ensures_pure fun h => ?_
    rw [Bool.or_eq_true]
    obtain hblock | ⟨hmem, hcontains⟩ := h
    · exact Or.inl (hdone (Or.inl hblock))
    · rw [List.mem_append, List.mem_singleton] at hmem
      obtain hmem | rfl := hmem
      · exact Or.inl (hdone (Or.inr ⟨hmem, hcontains⟩))
      · obtain rfl := Option.some.inj (hfound.symm.trans hword)
        exact Or.inr hcontains
  · intro h
    obtain hblock | ⟨hmem, -⟩ := h
    · exact hblock
    · cases hmem
  · intro block' hloop h
    exact hloop (h.imp_right fun hcontains => ⟨List.mem_range.mpr hlt, hcontains⟩)

/-- The completion is answered with the refusal if one of its choices contains the word. -/
def RefusesWord (sdk : Sdk) (word : String) (body : GoString)
    (result : Option (Bool × GoString)) : Prop :=
  ∀ chat, sdk.unmarshalCompletion body = some chat →
    (∃ choice ∈ chat.choices, contains choice.content word = true) →
    result = some (true, (sdk.marshalCompletion { chat with choices := [refusalChoice] }).getD [])

/-- Whatever the response program finds in the policy, as long as it finds the word at
    its place. -/
theorem openAIResponseReads_ensures (sdk : Sdk) (k : Nat) (word : String) (body : GoString) :
    (openAIResponseReads sdk body).Ensures
      (fun policy => policy.bannedWords.elems[k]? = some word) (RefusesWord sdk word body) := by
  unfold openAIResponseReads
  cases hchat : sdk.unmarshalCompletion body with
  | none =>
    intro chat hdecoded
    rw [hchat] at hdecoded
    cases hdecoded
  | some chat =>
    refine Reads.ensures_bind (Reads.Ensures.mono (Reads.ensures_foldlM
      (I := fun done block => (∃ choice ∈ done, contains choice.content word = true) →
        block = true) (fun done choice block hdone => ?_) _ ?_) ?_)
    · refine (bansReads_ensures k word choice.content block).mono fun block' hblock' h => ?_
      obtain ⟨found, hmem, hcontains⟩ := h
      rw [List.mem_append, List.mem_singleton] at hmem
      obtain hmem | rfl := hmem
      · exact hblock' (Or.inl (hdone ⟨found, hmem, hcontains⟩))
      · exact hblock' (Or.inr hcontains)
    · rintro ⟨choice, hmem, -⟩
      cases hmem
    · intro block hloop chat' hdecoded hcontains
      obtain rfl := Option.some.inj (hchat.symm.trans hdecoded)
      rw [hloop hcontains]
      rfl

/-! ## The loops -/

/-- A request loop goes on as the rule says. -/
theorem requests_ensures_step {i : Nat} (h : s.InForce Blocks)
    (hi : (s.requests i).Ensures (fun policy => policy.block = true) (Refuses sdk)) :
    ((s.step parse sdk e).requests i).Ensures (fun policy => policy.block = true)
      (Refuses sdk) := by
  obtain hsame | ⟨body, hcheck⟩ | hnext := SharedPolicy.requests_step parse sdk s e i
  · rw [hsame]
    exact hi
  · rw [hcheck]
    exact hi.check (openAIRequestReads_ensures sdk) body
  · refine hi.next (fun policy hpolicy => ?_) hnext
    obtain ⟨found, hfound, hblock⟩ := h.now
    obtain rfl := Option.some.inj (hpolicy.symm.trans hfound)
    exact hblock

/-- So does a response loop. -/
theorem responses_ensures_step {k : Nat} {word : String} {i : Nat} (h : s.InForce (Bans k word))
    (hi : (s.responses i).Ensures (fun policy => policy.bannedWords.elems[k]? = some word)
      (RefusesWord sdk word)) :
    ((s.step parse sdk e).responses i).Ensures
      (fun policy => policy.bannedWords.elems[k]? = some word) (RefusesWord sdk word) := by
  obtain hsame | ⟨body, hcheck⟩ | hnext := SharedPolicy.responses_step parse sdk s e i
  · rw [hsame]
    exact hi
  · rw [hcheck]
    exact hi.check (openAIResponseReads_ensures sdk k word) body
  · refine hi.next (fun policy hpolicy => ?_) hnext
    obtain ⟨found, hfound, hword⟩ := h.now
    obtain rfl := Option.some.inj (hpolicy.symm.trans hfound)
    exact hword

end

/-! ## Main results -/

/-- From every state with a policy that blocks, in every interleaving of single reads
    and writes: as long as the ConfigMap is not deleted and none of its versions says
    otherwise, the policy blocks, and every request that a loop takes up is refused if
    it decodes and dropped if it does not, whatever the versions it has met. -/
theorem block_enforced (parse : String → Option Json) (sdk : Sdk) (s : SharedPolicy)
    (es : List PolicyEvent) (i : Nat) (hforce : s.InForce Blocks)
    (hfree : ∀ policy body program, s.requests i ≠ .reading policy body program)
    (hkeeps : Trace.Along (SharedPolicy.step parse sdk) (PolicyEvent.Keeps parse KeepsBlock) s es) :
    let s' := Trace.run (SharedPolicy.step parse sdk) s es
    s'.InForce Blocks ∧
      ∀ policy body verdict, s'.requests i = .reading policy body (.ret verdict) →
        Refuses sdk body verdict := by
  have hrun := Trace.run_of_along
    (I := fun s => s.InForce Blocks ∧
      (s.requests i).Ensures (fun policy => policy.block = true) (Refuses sdk))
    (fun s e hs he => ⟨hs.1.step he fun _ hj _ hm => keeps_memberWrites_of_keepsBlock hj hm,
      requests_ensures_step hs.1 hs.2⟩) ⟨hforce, ?_⟩ hkeeps
  · refine ⟨hrun.1, fun policy body verdict hloop => ?_⟩
    have hverdict := hrun.2
    rw [hloop] at hverdict
    exact hverdict
  · cases hloop : s.requests i with
    | idle => trivial
    | looking => trivial
    | reading policy body program => exact absurd hloop (hfree policy body program)

/-- The SDK, on one chat request and the refusal of it. -/
def blockedSdk : Sdk := { chatSdk with marshalCompletion := fun _ => some refusedBody }

/-- `block_enforced` for a request during which a version without any policy arrives. -/
theorem block_enforced_emptied :
    let s := Trace.run (SharedPolicy.step parseTexts blockedSdk) (.start "web" "default")
      [.watch (.added (some (version blockText))), .write, .write]
    let s' := Trace.run (SharedPolicy.step parseTexts blockedSdk) s
      [.request 0 (some chatBody), .watch (.modified (some (version emptyText))), .nextRequest 0,
        .nextRequest 0]
    s'.InForce Blocks ∧
      ∀ policy body verdict, s'.requests 0 = .reading policy body (.ret verdict) →
        Refuses blockedSdk body verdict := by
  intro s
  refine block_enforced parseTexts blockedSdk s _ 0 ⟨⟨_, rfl, rfl⟩, fun _ hw => by cases hw⟩
    (fun _ _ _ hloop => by cases hloop) ⟨trivial, ?_, trivial, trivial, trivial⟩
  -- the empty document has no member
  intro _ j hj m hm
  obtain rfl : Json.obj [] = j := Option.some.inj (hj.symm.trans rfl).symm
  cases hm

/-- From every state with a word in the list of banned words, in every interleaving of
    single reads and writes: as long as the ConfigMap is not deleted and none of its
    versions takes the word out of its place, it stays there, and every completion that
    a loop takes up and that has a choice with the word is replaced by the refusal, if the
    loop does not panic at an entry that a shorter list has no more. -/
theorem banned_word_enforced (parse : String → Option Json) (sdk : Sdk) (s : SharedPolicy)
    (es : List PolicyEvent) (i k : Nat) (word : String) (hforce : s.InForce (Bans k word))
    (hfree : ∀ policy body program, s.responses i ≠ .reading policy body program)
    (hkeeps : Trace.Along (SharedPolicy.step parse sdk)
      (PolicyEvent.Keeps parse (KeepsWord k word)) s es) :
    let s' := Trace.run (SharedPolicy.step parse sdk) s es
    s'.InForce (Bans k word) ∧
      ∀ policy body result, s'.responses i = .reading policy body (.ret result) →
        RefusesWord sdk word body result := by
  have hrun := Trace.run_of_along
    (I := fun s => s.InForce (Bans k word) ∧
      (s.responses i).Ensures (fun policy => policy.bannedWords.elems[k]? = some word)
        (RefusesWord sdk word))
    (fun s e hs he => ⟨hs.1.step he fun _ hj _ hm => keeps_memberWrites_of_keepsWord hj hm,
      responses_ensures_step hs.1 hs.2⟩) ⟨hforce, ?_⟩ hkeeps
  · refine ⟨hrun.1, fun policy body result hloop => ?_⟩
    have hresult := hrun.2
    rw [hloop] at hresult
    exact hresult
  · cases hloop : s.responses i with
    | idle => trivial
    | looking => trivial
    | reading policy body program => exact absurd hloop (hfree policy body program)

/-! ## A list whose words move -/

/-- A document with these banned words. -/
def wordsDocument (words : List String) : Json :=
  .obj [("response", .obj [("bannedWords", .arr (words.map .str))])]

/-- Two versions with the same words, and one with more. -/
def parseWords (text : String) : Option Json :=
  if text = "first" then some (wordsDocument ["other", "hello"])
  else if text = "moved" then some (wordsDocument ["hello", "other"])
  else if text = "longer" then some (wordsDocument ["one", "hello", "two"])
  else none

/-- The gateway has the first version. -/
def firstWords : SharedPolicy :=
  Trace.run (SharedPolicy.step parseWords helloSdk) (.start "web" "default")
    [.watch (.added (some (version "first"))), .write, .write]

/-- A completion that a loop takes up, with the version `text` arriving when the loop has
    looked at the first word of the list. -/
def updateBetween (text : String) : List PolicyEvent :=
  [.response 0 helloBody, .nextResponse 0, .nextResponse 0,
    .watch (.modified (some (version text))), .write, .write, .nextResponse 0]

/-- `banned_word_enforced` for a version in which the word stays where it is. -/
theorem banned_word_enforced_longer :
    let s' :=
      Trace.run (SharedPolicy.step parseWords helloSdk) firstWords (updateBetween "longer")
    s'.InForce (Bans 1 "hello") ∧
      ∀ policy body result, s'.responses 0 = .reading policy body (.ret result) →
        RefusesWord helloSdk "hello" body result := by
  refine banned_word_enforced parseWords helloSdk firstWords _ 0 1 "hello"
    ⟨⟨_, rfl, rfl⟩, fun _ hw => by cases hw⟩ (fun _ _ _ hloop => by cases hloop)
    ⟨trivial, trivial, trivial, ?_, trivial, trivial, trivial, trivial⟩
  intro _ j hj m hm _
  obtain rfl : wordsDocument ["one", "hello", "two"] = j :=
    Option.some.inj (hj.symm.trans rfl).symm
  obtain rfl := List.mem_singleton.mp hm
  refine ⟨rfl, fun m' hm' _ => ?_⟩
  obtain rfl := List.mem_singleton.mp hm'
  refine ⟨rfl, fun items hitems => ?_⟩
  obtain rfl := Option.some.inj hitems
  exact ⟨_, rfl, fun text htext => (Option.some.inj htext).symm⟩

/-- Whether a loop is about to let a completion through. -/
def letsThrough : Reader Response GoString (Option (Bool × GoString)) → Bool
  | .reading _ _ (.ret (some (block, _))) => !block
  | _ => false

-- A word that is in both versions is let through when it changes its place meanwhile.
example : letsThrough ((Trace.run (SharedPolicy.step parseWords helloSdk) firstWords
    (updateBetween "moved")).responses 0) = true := by decide +kernel

end KubeGateway.Gateway
