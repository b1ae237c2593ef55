import Mathlib.Data.List.AList
import KubeGateway.ForStd.JsonTarget

/-!
# The AI policy

`gateway/gateway.go`: what the gateway does to requests and responses, as it is
written in a ConfigMap; and `gateway/pkg/watcher/watcher.go`: the loop that keeps
it up to date.  Every version of the ConfigMap is decoded over the policy that
is there.
-/

namespace KubeGateway.Gateway

open GoJson

structure PromtReplace where
  orig : String
  new : String
  caseSensitive : Bool
  deriving DecidableEq, Repr

structure ModelReplace where
  orig : String
  new : String
  deriving DecidableEq, Repr

structure Request where
  maxTokens : String
  modelReplace : GoSlice ModelReplace
  userPromptReplace : GoSlice PromtReplace
  devPromptReplace : GoSlice PromtReplace
  block : Bool
  debug : Bool
  deriving DecidableEq, Repr

structure Response where
  debug : Bool
  bannedWords : GoSlice String
  deriving DecidableEq, Repr

/-- `AITransaction`; its `TokenCount` is never written. -/
structure AITransaction where
  request : Option Request
  response : Option Response
  deriving DecidableEq, Repr

/-- `&gateway.AITransaction{}` -/
def AITransaction.empty : AITransaction := ⟨none, none⟩

def AITransaction.reset (c : AITransaction) : AITransaction :=
  { c with request := none, response := none }

def AITransaction.getRequest (c : AITransaction) : Option Request := c.request

def AITransaction.getResponse (c : AITransaction) : Option Response := c.response

/-! ## The JSON tags -/

def promtReplaceLayout : Layout PromtReplace where
  zero := ⟨"", "", false⟩
  fields :=
    [⟨"orig", .string, PromtReplace.orig, fun v p => { p with orig := v }⟩,
     ⟨"new", .string, PromtReplace.new, fun v p => { p with new := v }⟩,
     ⟨"caseSensitive", .bool, PromtReplace.caseSensitive, fun v p => { p with caseSensitive := v }⟩]
  apart := by simp [Field.apart_iff]
  get_set := by simp
  get_zero := by simp [Target.string, Target.bool, Target.scalar]

def modelReplaceLayout : Layout ModelReplace where
  zero := ⟨"", ""⟩
  fields :=
    [⟨"orig", .string, ModelReplace.orig, fun v m => { m with orig := v }⟩,
     ⟨"new", .string, ModelReplace.new, fun v m => { m with new := v }⟩]
  apart := by simp [Field.apart_iff]
  get_set := by simp
  get_zero := by simp [Target.string, Target.scalar]

def requestLayout : Layout Request where
  zero := ⟨"", .nil, .nil, .nil, false, false⟩
  fields :=
    [⟨"maxTokens", .string, Request.maxTokens, fun v r => { r with maxTokens := v }⟩,
     ⟨"modelReplace", modelReplaceLayout.target.slice, Request.modelReplace,
      fun v r => { r with modelReplace := v }⟩,
     ⟨"userPromptReplace", promtReplaceLayout.target.slice, Request.userPromptReplace,
      fun v r => { r with userPromptReplace := v }⟩,
     ⟨"devPromptReplace", promtReplaceLayout.target.slice, Request.devPromptReplace,
      fun v r => { r with devPromptReplace := v }⟩,
     ⟨"block", .bool, Request.block, fun v r => { r with block := v }⟩,
     ⟨"debug", .bool, Request.debug, fun v r => { r with debug := v }⟩]
  apart := by simp [Field.apart_iff]
  get_set := by simp
  get_zero := by simp [Target.string, Target.bool, Target.scalar, Target.slice]

def responseLayout : Layout Response where
  zero := ⟨false, .nil⟩
  fields :=
    [⟨"debug", .bool, Response.debug, fun v r => { r with debug := v }⟩,
     ⟨"bannedWords", Target.string.slice, Response.bannedWords,
      fun v r => { r with bannedWords := v }⟩]
  apart := by simp [Field.apart_iff]
  get_set := by simp
  get_zero := by simp [Target.bool, Target.scalar, Target.slice]

def transactionLayout : Layout AITransaction where
  zero := .empty
  fields :=
    [⟨"TokenCount", .unsupported, fun _ => (), fun _ c => c⟩,
     ⟨"request", requestLayout.target.pointer, AITransaction.request,
      fun v c => { c with request := v }⟩,
     ⟨"response", responseLayout.target.pointer, AITransaction.response,
      fun v c => { c with response := v }⟩]
  apart := by simp [Field.apart_iff]
  get_set := by simp
  get_zero := by simp [AITransaction.empty, Target.pointer, Target.unsupported]

/-- `json.Unmarshal` into a policy, and whether it returned no error.  `parse` is
    the syntax of JSON: a text that is not JSON is not decoded at all. -/
def AITransaction.unmarshal (parse : String → Option Json) (data : String) (c : AITransaction) :
    AITransaction × Bool :=
  match parse data with
  | none => (c, false)
  | some j => (transactionLayout.target.decode j c, transactionLayout.target.accepts j)

/-! ## The ConfigMap watcher -/

/-- The parts of a `v1.ConfigMap` the watcher reads. -/
structure ConfigMap where
  name : String
  namespace_ : String
  data : AList (fun _ : String => String)

/-- `Data["config"]`, where a missing key reads as the empty string. -/
def ConfigMap.config (m : ConfigMap) : String := (m.data.lookup "config").getD ""

/-- An event of the watch; the object is `none` when it is no ConfigMap.  The
    types the loop has no case for are `other`. -/
inductive WatchEvent where
  | added (object : Option ConfigMap)
  | modified (object : Option ConfigMap)
  | deleted (object : Option ConfigMap)
  | other

/-- The `Watch` of a gateway: its environment, the policy it keeps up to date, and
    whether a nil ConfigMap has ended the process. -/
structure Watch where
  podname : String
  namespace_ : String
  config : AITransaction
  crashed : Bool

def Watch.configMapName (w : Watch) : String := w.podname ++ "-kube-gateway"

/-- `NewWatcher` of a gateway that has just started. -/
def Watch.newWatcher (podname namespace_ : String) : Watch :=
  { podname, namespace_, config := .empty, crashed := false }

/-- One round of the loop; a decoding error is only logged. -/
def Watch.step (parse : String → Option Json) (w : Watch) (event : WatchEvent) : Watch :=
  if w.crashed then w
  else
    match event with
    | .added none | .modified none | .deleted none => { w with crashed := true }
    | .added (some m) | .modified (some m) =>
      -- decoded over the policy that is there
      if m.name = w.configMapName ∧ m.namespace_ = w.namespace_ then
        { w with config := (w.config.unmarshal parse m.config).1 }
      else w
    | .deleted (some _) =>
      -- Force the struct to blank
      { w with config := w.config.reset }
    | .other => w

end KubeGateway.Gateway
