import MachineControllerManager.Api.Objects

/-!
# The API servers, the informer cache and the calls the controller makes

A `World` is everything a reconcile of the in-place rollout touches: the `store` (what the
API servers hold), the `cache` (what the informer listers return), and the answers the
servers will give to the coming calls. Each call (`patchMachine`, `updateNode`,
`updateMachineSet`, `patchMachineSet`, `deleteMachineSet`, `externalCall`) takes the next
`Outcome`: the server either applies the write or refuses it (`Outcome.fails`), and the
informer of the written kind either delivers the pending writes before the next read
(`Outcome.delivered`) or lags. Quantifying over `World.outcomes` is quantifying over every
failure schedule and every informer delivery order; when the list runs out the servers
accept and the informers keep up.

The servers also refuse what a real API server refuses whatever the schedule: a write to an
object that does not exist (`NotFound`), an `Update` whose resource version is stale when
the server compares versions (`checksResourceVersion`, optimistic concurrency), and a
machine patch that would change `metadata.uid`. `controlIsTarget` says whether
`controlCoreClient` and `targetCoreClient` address one cluster.

Every call is appended to `log` with whether it succeeded.
-/

namespace MachineControllerManager

/-- The API server a client of the controller talks to: `controlCoreClient` or
`targetCoreClient`. -/
inductive Client where
  | control
  | target
  deriving DecidableEq, Repr

/-- The body of a `PatchMachine` call, a JSON merge patch: the labels it sets, the labels it
deletes (`null` values), a replacement `ownerReferences` list naming the new controller, and
`metadata.uid`. -/
structure MachinePatch where
  labels : Labels := []
  removedLabels : List String := []
  controller : Option String := none
  uid : Option String := none
  deriving DecidableEq, Repr

/-- The machine a merge patch leaves: set labels win, deleted labels go, a given owner list
replaces the old one. -/
def MachinePatch.apply (p : MachinePatch) (m : Machine) : Machine :=
  { m with labels := p.labels ++ m.labels.filter (fun q => !p.removedLabels.contains q.1)
           controller := p.controller.or m.controller }

/-- The label a merge patch leaves: the patch's own binding, or the machine's unless the
patch deletes the key. -/
theorem MachinePatch.get?_apply (p : MachinePatch) (m : Machine) (k : String) :
    (p.apply m).labels.get? k =
      (p.labels.get? k).or (if p.removedLabels.contains k then none else m.labels.get? k) := by
  rw [MachinePatch.apply, Labels.get?_append,
    Labels.get?_filter_key m.labels (fun x => !p.removedLabels.contains x) k]
  cases p.removedLabels.contains k <;> rfl

/-- A call to an API server, as the log records it. `external` is a call made by a helper of
the controller whose effect on the objects is not modelled. -/
inductive Call where
  | patchMachine (name : String) (patch : MachinePatch)
  | patchMachineSet (name : String) (labels : Labels)
  | updateMachineSet (ms : MachineSet)
  | deleteMachineSet (name : String)
  | updateNode (client : Client) (node : Node)
  | external (helper : String)
  deriving DecidableEq, Repr

/-- One logged call and whether the server accepted it. -/
structure Attempt where
  call : Call
  ok : Bool
  deriving DecidableEq, Repr

/-- How the server answers one call, and whether the informer delivers before the next
read. -/
structure Outcome where
  fails : Bool
  delivered : Bool
  deriving DecidableEq, Repr

/-- A Go `error`: the API errors the servers return, and the `fmt.Errorf` texts of
`deployment_inplace.go`. -/
inductive GoError where
  | notFound (resource name : String)
  | conflict (resource name : String)
  | invalid (resource name : String)
  | rejected (resource name : String)
  | external (helper : String)
  | errorf (text : String)
  /-- A run-time panic (a slice bound out of range). It unwinds the reconcile; the model
  returns it like an error, which every caller hands straight back. -/
  | panic (text : String)
  deriving DecidableEq, Repr

namespace GoError

/-- `apierrors.IsNotFound`. -/
def isNotFound : GoError → Bool
  | notFound _ _ => true
  | _ => false

/-- Whether the error is an `apierrors.APIStatus`, one that an API server or a lister returns:
not found, conflict, invalid or refused. -/
def isAPIStatus : GoError → Bool
  | notFound _ _ | conflict _ _ | invalid _ _ | rejected _ _ => true
  | _ => false

/-- The error's text, as `%s` and `%v` print it. -/
def message : GoError → String
  | notFound r n => r ++ " \"" ++ n ++ "\" not found"
  | conflict r n => "Operation cannot be fulfilled on " ++ r ++ " \"" ++ n ++
      "\": the object has been modified; please apply your changes to the latest version " ++
      "and try again"
  | invalid r n => r ++ " \"" ++ n ++ "\" is invalid: metadata.uid: field is immutable"
  | rejected r n => "the server rejected the request on " ++ r ++ " \"" ++ n ++ "\""
  | external h => h ++ " failed"
  | errorf t => t
  | panic t => t

end GoError

/-- The server accepts the call and the informer delivers it. -/
def Outcome.accepted : Outcome := ⟨false, true⟩

/-- The server refuses the call. -/
def Outcome.refused : Outcome := ⟨true, true⟩

/-- Everything a reconcile touches: the servers' objects, the informer cache, the servers'
coming answers and the log of calls. -/
structure World where
  store : Cluster
  cache : Cluster
  outcomes : List Outcome
  log : List Attempt
  checksResourceVersion : Bool
  controlIsTarget : Bool

namespace World

/-- A world whose informers have caught up with the servers, before any call. -/
def init (c : Cluster) (outcomes : List Outcome) (checksResourceVersion controlIsTarget : Bool) :
    World :=
  ⟨c, c, outcomes, [], checksResourceVersion, controlIsTarget⟩

variable (w : World)

/-- The server's answer to the next call. -/
def answer : Outcome × World :=
  (w.outcomes.headD ⟨false, true⟩, { w with outcomes := w.outcomes.tail })

/-- Settle a call: `r` is what the server does, the cluster it then holds or the error it
returns; on delivery the informer copies the written kind from the store into the cache. -/
def commit (call : Call) (o : Outcome) (r : Except GoError Cluster)
    (refresh : Cluster → Cluster → Cluster) : Option GoError × World :=
  match r with
  | .ok c =>
    (none, { w with store := c, log := w.log ++ [⟨call, true⟩]
                    cache := if o.delivered then refresh w.cache c else w.cache })
  | .error e =>
    (some e, { w with log := w.log ++ [⟨call, false⟩]
                      cache := if o.delivered then refresh w.cache w.store else w.cache })

/-- Go code that mutates a node it got from `nodeLister` mutates the informer's copy: the
cache's node becomes `x` if the cache still holds the object `listed` that was handed out. -/
def mutateCachedNode (listed x : Node) : World :=
  if w.cache.getNode listed.name = some listed then { w with cache := w.cache.setNode x } else w

@[simp] theorem mutateCachedNode_store (listed x : Node) :
    (w.mutateCachedNode listed x).store = w.store := by
  unfold mutateCachedNode; split <;> rfl

@[simp] theorem mutateCachedNode_log (listed x : Node) :
    (w.mutateCachedNode listed x).log = w.log := by
  unfold mutateCachedNode; split <;> rfl

@[simp] theorem mutateCachedNode_checksResourceVersion (listed x : Node) :
    (w.mutateCachedNode listed x).checksResourceVersion = w.checksResourceVersion := by
  unfold mutateCachedNode; split <;> rfl

@[simp] theorem mutateCachedNode_controlIsTarget (listed x : Node) :
    (w.mutateCachedNode listed x).controlIsTarget = w.controlIsTarget := by
  unfold mutateCachedNode; split <;> rfl

/-- The machine informer delivers every pending write. -/
def syncMachines : World := { w with cache := w.cache.refreshMachines w.store }

/-- The machine-set informer delivers every pending write. -/
def syncMachineSets : World := { w with cache := w.cache.refreshMachineSets w.store }

/-- The node informer delivers every pending write. -/
def syncNodes : World := { w with cache := w.cache.refreshNodes w.store }

end World

/-! ### What the servers do with each call -/

namespace Cluster

variable (c : Cluster)

/-- The server's answer to a machine patch; `fails` refuses it. -/
def applyPatchMachine (name : String) (p : MachinePatch) (fails : Bool) : Except GoError Cluster :=
  match c.getMachine name with
  | none => .error (.notFound "machines" name)
  | some m =>
    if fails then .error (.rejected "machines" name)
    else if p.uid.any (· != m.uid) then .error (.invalid "machines" name)
    else .ok (c.setMachine (p.apply m))

/-- The server's answer to a node `Update`, on the target cluster's nodes when `toTarget` and
on the control cluster's otherwise; with `checksResourceVersion`, a stale copy conflicts. -/
def applyUpdateNode (toTarget checksResourceVersion : Bool) (x : Node) (fails : Bool) :
    Except GoError Cluster :=
  match (if toTarget then c.nodes else c.controlNodes).find? (fun s => s.name == x.name) with
  | none => .error (.notFound "nodes" x.name)
  | some s =>
    if fails then .error (.rejected "nodes" x.name)
    else if checksResourceVersion && s.resourceVersion != x.resourceVersion then
      .error (.conflict "nodes" x.name)
    else
      let x' := { x with resourceVersion := s.resourceVersion + 1 }
      .ok (if toTarget then c.setNode x' else c.setControlNode x')

/-- The server's answer to a machine-set `Update`: the whole object is written, after the
resource-version check when the server makes it. -/
def applyUpdateMachineSet (checksResourceVersion : Bool) (ms : MachineSet) (fails : Bool) :
    Except GoError Cluster :=
  match c.getMachineSet ms.name with
  | none => .error (.notFound "machinesets" ms.name)
  | some s =>
    if fails then .error (.rejected "machinesets" ms.name)
    else if checksResourceVersion && s.resourceVersion != ms.resourceVersion then
      .error (.conflict "machinesets" ms.name)
    else .ok (c.setMachineSet { ms with resourceVersion := s.resourceVersion + 1 })

/-- The server's answer to a labels-only machine-set merge patch. A patch that changes nothing
leaves the object, and its resource version, as it is. -/
def applyPatchMachineSet (name : String) (labels : Labels) (fails : Bool) :
    Except GoError Cluster :=
  match c.getMachineSet name with
  | none => .error (.notFound "machinesets" name)
  | some s =>
    if fails then .error (.rejected "machinesets" name)
    else if Labels.selects labels s.labels then .ok c
    else .ok (c.setMachineSet
      { s with labels := labels ++ s.labels, resourceVersion := s.resourceVersion + 1 })

/-- The server's answer to a machine-set `Delete`. -/
def applyDeleteMachineSet (name : String) (fails : Bool) : Except GoError Cluster :=
  match c.getMachineSet name with
  | none => .error (.notFound "machinesets" name)
  | some _ => if fails then .error (.rejected "machinesets" name) else .ok (c.deleteMachineSet name)

/-- An accepted machine patch stores the patched machine in place of the stored one. -/
theorem applyPatchMachine_ok {name : String} {p : MachinePatch} {fails : Bool} {c' : Cluster}
    (h : c.applyPatchMachine name p fails = .ok c') :
    ∃ m, c.getMachine name = some m ∧ c' = c.setMachine (p.apply m) := by
  unfold applyPatchMachine at h
  split at h
  · cases h
  · split at h
    · cases h
    · split at h
      · cases h
      · cases h; exact ⟨_, ‹_›, rfl⟩

/-- An accepted node `Update` stores the node sent, at a new version, in the cluster the
client reaches. -/
theorem applyUpdateNode_ok {toTarget checksResourceVersion fails : Bool} {x : Node} {c' : Cluster}
    (h : c.applyUpdateNode toTarget checksResourceVersion x fails = .ok c') :
    ∃ rv, c' = if toTarget then c.setNode { x with resourceVersion := rv }
      else c.setControlNode { x with resourceVersion := rv } := by
  unfold applyUpdateNode at h
  split at h
  · cases h
  · split at h
    · cases h
    · split at h
      · cases h
      · cases h; exact ⟨_, rfl⟩

/-- An accepted node `Update` leaves the machines and the machine sets. -/
theorem applyUpdateNode_ok_machines {toTarget checksResourceVersion fails : Bool} {x : Node}
    {c' : Cluster} (h : c.applyUpdateNode toTarget checksResourceVersion x fails = .ok c') :
    c'.machines = c.machines ∧ c'.machineSets = c.machineSets := by
  obtain ⟨rv, rfl⟩ := c.applyUpdateNode_ok h
  split <;> exact ⟨rfl, rfl⟩

/-- An accepted machine-set `Update` found the set, at the version sent when versions are
checked, and stores what was sent at the next version. -/
theorem applyUpdateMachineSet_ok {checksResourceVersion fails : Bool} {ms : MachineSet}
    {c' : Cluster} (h : c.applyUpdateMachineSet checksResourceVersion ms fails = .ok c') :
    ∃ s, c.getMachineSet ms.name = some s ∧
      (checksResourceVersion = true → s.resourceVersion = ms.resourceVersion) ∧
      c' = c.setMachineSet { ms with resourceVersion := s.resourceVersion + 1 } := by
  unfold applyUpdateMachineSet at h
  split at h
  · cases h
  · split at h
    · cases h
    · split at h
      · cases h
      · rename_i hrv
        cases h
        exact ⟨_, ‹_›, fun hc => by simpa [hc] using hrv, rfl⟩

/-- An accepted machine-set label patch leaves the cluster, when the labels are already there,
or stores the set with the labels merged in at the next version. -/
theorem applyPatchMachineSet_ok {name : String} {labels : Labels} {fails : Bool} {c' : Cluster}
    (h : c.applyPatchMachineSet name labels fails = .ok c') :
    c' = c ∨ ∃ s, c.getMachineSet name = some s ∧
      c' = c.setMachineSet
        { s with labels := labels ++ s.labels, resourceVersion := s.resourceVersion + 1 } := by
  unfold applyPatchMachineSet at h
  split at h
  · cases h
  · split at h
    · cases h
    · split at h
      · cases h; exact .inl rfl
      · cases h; exact .inr ⟨_, ‹_›, rfl⟩

/-- An accepted machine-set `Delete` removes the set. -/
theorem applyDeleteMachineSet_ok {name : String} {fails : Bool} {c' : Cluster}
    (h : c.applyDeleteMachineSet name fails = .ok c') : c' = c.deleteMachineSet name := by
  unfold applyDeleteMachineSet at h
  split at h
  · cases h
  · split at h
    · cases h
    · cases h; rfl

end Cluster

/-! ### The calls -/

/-- `machineControl.PatchMachine(ctx, namespace, name, patch)`. -/
def patchMachine (name : String) (p : MachinePatch) (w : World) : Option GoError × World :=
  let (o, w) := w.answer
  w.commit (.patchMachine name p) o (w.store.applyPatchMachine name p o.fails)
    Cluster.refreshMachines

/-- `CoreV1().Nodes().Update(ctx, x)` through `client`. The control client reaches the
target cluster's nodes only when the two clients address one cluster. -/
def updateNode (client : Client) (x : Node) (w : World) : Option GoError × World :=
  let (o, w) := w.answer
  w.commit (.updateNode client x) o
    (w.store.applyUpdateNode (client == .target || w.controlIsTarget) w.checksResourceVersion x
      o.fails)
    Cluster.refreshNodes

/-- `controlMachineClient.MachineSets(namespace).Update(ctx, ms)`. -/
def updateMachineSet (ms : MachineSet) (w : World) : Option GoError × World :=
  let (o, w) := w.answer
  w.commit (.updateMachineSet ms) o (w.store.applyUpdateMachineSet w.checksResourceVersion ms o.fails)
    Cluster.refreshMachineSets

/-- `machineSetControl.PatchMachineSet(ctx, namespace, name, patch)` with a labels-only merge
patch. -/
def patchMachineSet (name : String) (labels : Labels) (w : World) : Option GoError × World :=
  let (o, w) := w.answer
  w.commit (.patchMachineSet name labels) o (w.store.applyPatchMachineSet name labels o.fails)
    Cluster.refreshMachineSets

/-- `controlMachineClient.MachineSets(namespace).Delete(ctx, name)`. -/
def deleteMachineSet (name : String) (w : World) : Option GoError × World :=
  let (o, w) := w.answer
  w.commit (.deleteMachineSet name) o (w.store.applyDeleteMachineSet name o.fails)
    Cluster.refreshMachineSets

/-- A call made by a helper whose effect on the modelled objects is nil or not tracked
(status updates, annotations): it can only fail. -/
def externalCall (helper : String) (w : World) : Option GoError × World :=
  let (o, w) := w.answer
  w.commit (.external helper) o (if o.fails then .error (.external helper) else .ok w.store)
    fun c _ => c

/-! ### What a call changes

`Settles call refresh serve w w' err` is everything a call does to the world: it logs itself,
keeps the servers' configuration, refreshes the cache of the written kind or leaves it, and
either stores what the server `serve` answered (for some outcome) or leaves the store. Each
call settles its own server answer; proofs about the controller cite these facts and never
unfold a call. -/

/-- What a call that took the world `w` to `w'` with error `err` did. -/
structure Settles (call : Call) (refresh : Cluster → Cluster → Cluster)
    (serve : Bool → Except GoError Cluster) (w w' : World) (err : Option GoError) : Prop where
  log : w'.log = w.log ++ [⟨call, err.isNone⟩]
  checksResourceVersion : w'.checksResourceVersion = w.checksResourceVersion
  controlIsTarget : w'.controlIsTarget = w.controlIsTarget
  cache : w'.cache = w.cache ∨ w'.cache = refresh w.cache w'.store
  ok : err = none → ∃ fails, serve fails = .ok w'.store
  error : err ≠ none → w'.store = w.store

section Settles

variable {w w' : World} {err : Option GoError}

/-- Every call is committed the same way, so each settles its own server answer. -/
theorem World.commit_settles {call : Call} {o : Outcome} {refresh : Cluster → Cluster → Cluster}
    {serve : Bool → Except GoError Cluster} {os : List Outcome}
    (h : ({ w with outcomes := os } : World).commit call o (serve o.fails) refresh = (err, w')) :
    Settles call refresh serve w w' err := by
  cases hr : serve o.fails <;> rw [hr] at h <;> simp only [World.commit, Prod.mk.injEq] at h <;>
    obtain ⟨rfl, rfl⟩ := h
  · exact ⟨rfl, rfl, rfl, by split <;> simp, nofun, fun _ => rfl⟩
  · exact ⟨rfl, rfl, rfl, by split <;> simp, fun _ => ⟨_, hr⟩, fun h => absurd rfl h⟩

/-- What a machine patch does. -/
theorem patchMachine_settles {name : String} {p : MachinePatch}
    (h : patchMachine name p w = (err, w')) :
    Settles (.patchMachine name p) Cluster.refreshMachines (w.store.applyPatchMachine name p) w w'
      err :=
  World.commit_settles h

/-- What a node `Update` does. -/
theorem updateNode_settles {client : Client} {x : Node} (h : updateNode client x w = (err, w')) :
    Settles (.updateNode client x) Cluster.refreshNodes
      (w.store.applyUpdateNode (client == .target || w.controlIsTarget) w.checksResourceVersion x)
      w w' err :=
  World.commit_settles h

/-- What a machine-set `Update` does. -/
theorem updateMachineSet_settles {ms : MachineSet} (h : updateMachineSet ms w = (err, w')) :
    Settles (.updateMachineSet ms) Cluster.refreshMachineSets
      (w.store.applyUpdateMachineSet w.checksResourceVersion ms) w w' err :=
  World.commit_settles h

/-- What a machine-set label patch does. -/
theorem patchMachineSet_settles {name : String} {labels : Labels}
    (h : patchMachineSet name labels w = (err, w')) :
    Settles (.patchMachineSet name labels) Cluster.refreshMachineSets
      (w.store.applyPatchMachineSet name labels) w w' err :=
  World.commit_settles h

/-- What a machine-set `Delete` does. -/
theorem deleteMachineSet_settles {name : String} (h : deleteMachineSet name w = (err, w')) :
    Settles (.deleteMachineSet name) Cluster.refreshMachineSets (w.store.applyDeleteMachineSet name)
      w w' err :=
  World.commit_settles h

/-- What a call of an external helper does: it stores nothing new. -/
theorem externalCall_settles {helper : String} (h : externalCall helper w = (err, w')) :
    Settles (.external helper) (fun c _ => c)
      (fun fails => if fails then .error (.external helper) else .ok w.store) w w' err :=
  World.commit_settles h

end Settles

/-! ### The errors of a call -/

/-- A call's error is the server's answer. -/
theorem World.commit_error {w : World} {call : Call} {o : Outcome} {r : Except GoError Cluster}
    {refresh : Cluster → Cluster → Cluster} {e : GoError}
    (h : (w.commit call o r refresh).1 = some e) : r = .error e := by
  cases r <;> simp_all [World.commit]

/-- The server refuses a machine patch only with an API status. -/
theorem Cluster.applyPatchMachine_error {c : Cluster} {name : String} {p : MachinePatch}
    {fails : Bool} {e : GoError} (h : c.applyPatchMachine name p fails = .error e) :
    e.isAPIStatus = true := by
  unfold Cluster.applyPatchMachine at h
  repeat' split at h
  all_goals first | (cases h; rfl) | cases h

/-- The server refuses a node `Update` only with an API status. -/
theorem Cluster.applyUpdateNode_error {c : Cluster} {toTarget checksResourceVersion fails : Bool}
    {x : Node} {e : GoError} (h : c.applyUpdateNode toTarget checksResourceVersion x fails = .error e) :
    e.isAPIStatus = true := by
  unfold Cluster.applyUpdateNode at h
  repeat' split at h
  all_goals first | (cases h; rfl) | cases h

/-- A machine patch fails only with an API status error. -/
theorem patchMachine_error {w : World} {name : String} {p : MachinePatch} {e : GoError}
    (h : (patchMachine name p w).1 = some e) : e.isAPIStatus = true :=
  Cluster.applyPatchMachine_error (World.commit_error h)

/-- A node `Update` fails only with an API status error. -/
theorem updateNode_error {w : World} {client : Client} {x : Node} {e : GoError}
    (h : (updateNode client x w).1 = some e) : e.isAPIStatus = true :=
  Cluster.applyUpdateNode_error (World.commit_error h)

/-- The machine sets written by the successful `Update`s of a log, in order. -/
def setWrites (log : List Attempt) : List MachineSet :=
  log.filterMap fun a =>
    match a with
    | ⟨.updateMachineSet ms, true⟩ => some ms
    | _ => none

/-- The replica counts written by the successful machine-set `Update`s of a log, in order. -/
def replicaWrites (log : List Attempt) : List (String × Int) :=
  (setWrites log).map fun ms => (ms.name, ms.replicas.toInt)

end MachineControllerManager
