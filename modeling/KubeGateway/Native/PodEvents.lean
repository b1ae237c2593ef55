import Mathlib.Logic.Function.Basic
import KubeGateway.Native.Watch

/-!
# Pods and their events

The API server stores the pods, and every write to one becomes an event for the
watcher.  The watcher's handler writes to pods itself, so its writes come back to
it, behind the events that are waiting already.

The events are delivered in order and one at a time, and no call of the handler
fails on its own.  Writes of others come between deliveries: one between the
start of a handler and its patch may as well come before the delivery, which
changes neither the event nor what the patch finds, and one between the patch and
the `Update` would make the `Update` a conflict.
-/

namespace KubeGateway.Watcher

/-- What names a pod in the API. -/
def Pod.key (pod : Pod) : String × String := (pod.namespace_, pod.name)

/-- An event on its way to the watcher, with the pod as the write stored it.
    `OnAdd` does nothing, so that the creation of a pod is not among them. -/
inductive PodEvent where
  | updated (pod : Pod)
  | deleted (pod : Pod)

/-- The pods, the events that wait, oldest first, and the watcher. -/
structure Api where
  pods : String × String → Option Pod
  keyed : ∀ key pod, pods key = some pod → pod.key = key
  pending : List PodEvent
  watcher : State

/-- The pod is stored under its name. -/
def Api.store (a : Api) (pod : Pod) : Api :=
  { a with
    pods := Function.update a.pods pod.key (some pod)
    keyed := by
      intro key stored hstored
      by_cases hkey : key = pod.key
      · subst hkey
        rw [Function.update_self] at hstored
        rw [← Option.some.inj hstored]
      · rw [Function.update_of_ne hkey] at hstored
        exact a.keyed key stored hstored }

/-- A write to a pod that exists. -/
def Api.write (a : Api) (pod : Pod) : Api :=
  if (a.pods pod.key).isSome then
    { a.store pod with pending := a.pending ++ [.updated pod] }
  else a

/-- A pod is created, if its name is free. -/
def Api.create (a : Api) (pod : Pod) : Api :=
  if (a.pods pod.key).isSome then a else a.store pod

/-- A pod is deleted. -/
def Api.remove (a : Api) (key : String × String) : Api :=
  match a.pods key with
  | none => a
  | some pod =>
    { a with
      pods := Function.update a.pods key none
      keyed := by
        intro other stored hstored
        by_cases hkey : other = key
        · rw [hkey, Function.update_self] at hstored
          exact nomatch hstored
        · rw [Function.update_of_ne hkey] at hstored
          exact a.keyed other stored hstored
      pending := a.pending ++ [.deleted pod] }

/-- The writes to pods among the effects of a handler, the effects newest first
    and the writes oldest first.  `patched` is what the patch stored. -/
def podWrites (patched : Option Pod) (effects : List Effect) : List Pod :=
  effects.reverse.flatMap fun
    | .patch _ _ => patched.toList
    | .update pod => [pod]
    | .mint _ _ => []
    | .load _ _ _ => []

/-- The effects of a step, newest first. -/
def State.effectsSince (s' s : State) : List Effect :=
  s'.log.take (s'.log.length - s.log.length)

/-- What a patch of the ephemeralcontainers subresource stores: `containers`, and
    the rest of the pod as it is. -/
def Api.patched (a : Api) (key : String × String) (containers : List EphemeralContainer) :
    Option Pod :=
  (a.pods key).map fun stored => { stored with ephemeralContainers := containers }

/-- The oldest event reaches its handler, which runs to its end. -/
def Api.deliver (h : Handler) (a : Api) (containers : List EphemeralContainer)
    (token : String) : Api :=
  match a.pending with
  | [] => a
  | .updated pod :: rest =>
    let patched := a.patched pod.key containers
    let watcher := a.watcher.step h (.update pod
      { check := .succeeds token, loadFails := false, patched := patched, updateFails := false })
    -- the handler's writes, as anyone's
    (podWrites patched (watcher.effectsSince a.watcher)).foldl Api.write
      { a with pending := rest, watcher := watcher }
  | .deleted pod :: rest =>
    { a with pending := rest, watcher := a.watcher.step h (.delete pod false) }

/-- Someone creates, writes or deletes a pod, or changes the other API objects; or
    the watcher is given its next event. -/
inductive Act where
  | create (pod : Pod)
  | write (pod : Pod)
  | remove (key : String × String)
  | others (cluster : Cluster)
  | deliver (containers : List EphemeralContainer) (token : String)

def Api.step (h : Handler) (a : Api) : Act → Api
  | .create pod => a.create pod
  | .write pod => a.write pod
  | .remove key => a.remove key
  | .others cluster => { a with watcher := { a.watcher with cluster := cluster } }
  | .deliver containers token => a.deliver h containers token

/-- A cluster without pods, and a watcher that has just started. -/
def Api.start (cacert cakey : Pem) (cluster : Cluster) : Api :=
  { pods := fun _ => none
    keyed := fun _ _ hstored => nomatch hstored
    pending := []
    watcher := .start cacert cakey cluster }

end KubeGateway.Watcher
