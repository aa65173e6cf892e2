import MachineControllerManager.Controller.Rollout

/-!
# Snapshot writes within one reconcile

`rolloutAutoInPlace` hands `syncMachineSets` and then `reconcileNewMachineSetInPlace` the same
machine-set copies, and both write absolute replica counts computed from those copies. When
the server does not compare resource versions, a count `reconcileNewMachineSetInPlace`
computes from the stale copy overwrites the scale-up `syncMachineSets` has just made
(`rolloutAutoInPlace_overwrites_sync_scale_up`). When it does, the run argument of
`Api/Run.lean` applies to the whole reconcile: every machine set is written at most once
(`rolloutAutoInPlace_writes_each_machineSet_once`), so a second, snapshot-based write to a set
fails with a conflict instead of undoing the first.

Across reconciles nothing holds the counts to the machines moved. A reconcile re-derives
everything from the listers, and a machine informer that has not delivered an ownership patch
shows the moved machine under the old set: the next reconcile labels it from that stale copy,
writing the old selector's label back, and moves it a second time, so that the old set is
scaled down twice for one machine (`rolloutAutoInPlace_moves_lagged_machine_twice`).
-/

namespace MachineControllerManager

/-- **Optimistic concurrency over a reconcile**: when the server checks resource versions and
the sets handed to the reconcile have distinct names, each machine set is written
successfully at most once by `rolloutAutoInPlace`; no write of
`reconcileNewMachineSetInPlace` from a snapshot replaces a write of `syncMachineSets`. -/
theorem rolloutAutoInPlace_writes_each_machineSet_once
    (autoscalerScaleDownAnnotationDuringRollout : Bool) (d : MachineDeployment)
    (newIS : MachineSet) (oldISs : List MachineSet) (w : World)
    (hrv : w.checksResourceVersion = true)
    (hnames : ((newIS :: oldISs).map MachineSet.name).Nodup) :
    ∃ seg, (rolloutAutoInPlace autoscalerScaleDownAnnotationDuringRollout d newIS oldISs w).2.log =
        w.log ++ seg ∧ ((setWrites seg).map MachineSet.name).Nodup :=
  (rolloutAutoInPlace_reaches autoscalerScaleDownAnnotationDuringRollout d newIS oldISs
    w).setWrites_names_nodup hrv hnames

/-- An old set of two replicas whose selector is `machineset=old`. -/
def concurrencyExampleOldIS : MachineSet :=
  { name := "machineset-old", uid := "uid-old", labels := [], selector := [("machineset", "old")]
    replicas := 2, statusReplicas := 2, availableReplicas := 2, creationTimestamp := 0
    resourceVersion := 1 }

/-- A new set of one replica whose selector is `machineset=new`. -/
def concurrencyExampleNewIS : MachineSet :=
  { name := "machineset-new", uid := "uid-new", labels := [], selector := [("machineset", "new")]
    replicas := 1, statusReplicas := 1, availableReplicas := 1, creationTimestamp := 1
    resourceVersion := 1 }

/-- Machine `i` of the set `set`, on node `i`, with the extra labels given. -/
def concurrencyExampleMachine (set i : String) (labels : Labels) : Machine :=
  { name := "machine-" ++ i, uid := "uid-machine-" ++ i, controller := some ("machineset-" ++ set)
    labels := labels ++ [("machineset", set), (nodeLabelKey, "node-" ++ i)] }

/-- Node `i`, schedulable, with the labels given. -/
def concurrencyExampleNode (i : String) (labels : Labels) : Node :=
  { name := "node-" ++ i, labels := labels, unschedulable := false, resourceVersion := 1 }

/-- The new set holds two machines for one replica, one of them labelled update-successful
(left by an earlier transfer); the old set holds two machines, one on an updated node. -/
def concurrencyExampleCluster : Cluster :=
  { machineSets := [concurrencyExampleOldIS, concurrencyExampleNewIS]
    machines := [concurrencyExampleMachine "old" "0" [], concurrencyExampleMachine "old" "1" [],
      concurrencyExampleMachine "new" "2" [(labelKeyMachineUpdateSuccessful, "true")],
      concurrencyExampleMachine "new" "3" []]
    nodes := [concurrencyExampleNode "0" [(labelKeyMachineUpdateSuccessful, "true")],
      concurrencyExampleNode "1" [], concurrencyExampleNode "2" [], concurrencyExampleNode "3" []]
    controlNodes := [], machineSets_nodup := by decide, machines_nodup := by decide
    nodes_nodup := by decide, controlNodes_nodup := by decide }

/-- A deployment of three replicas. -/
def concurrencyExampleDeployment : MachineDeployment :=
  { replicas := 3, maxUnavailable := 1, revisionHistoryLimit := none, complete := false }

/-- **A snapshot-based write overwrites the sync's scale-up**: with a server that does not
compare resource versions, `syncMachineSets` scales the new set to 2, then
`reconcileNewMachineSetInPlace` moves one machine and writes the new set's count from its
snapshot, 1 + 1 = 2, not 2 + 1: the new set ends at 2 replicas while holding 3 machines. -/
theorem rolloutAutoInPlace_overwrites_sync_scale_up :
    let w := (rolloutAutoInPlace false concurrencyExampleDeployment concurrencyExampleNewIS
      [concurrencyExampleOldIS] (World.init concurrencyExampleCluster [] false true)).2
    replicaWrites w.log =
      [("machineset-new", 2), ("machineset-old", 1), ("machineset-new", 2)] ∧
    (w.store.getMachineSet "machineset-new").map (·.replicas.toInt) = some 2 ∧
    (w.store.listMachines concurrencyExampleNewIS.selector).length = 3 := by
  decide

/-- The same reconcile against a server that compares resource versions writes each set at
most once. -/
theorem rolloutAutoInPlace_writes_each_machineSet_once_example :
    (World.init concurrencyExampleCluster [] true true).checksResourceVersion = true ∧
    ([concurrencyExampleNewIS, concurrencyExampleOldIS].map MachineSet.name).Nodup ∧
    ∃ seg, (rolloutAutoInPlace false concurrencyExampleDeployment concurrencyExampleNewIS
        [concurrencyExampleOldIS] (World.init concurrencyExampleCluster [] true true)).2.log =
        (World.init concurrencyExampleCluster [] true true).log ++ seg ∧
      ((setWrites seg).map MachineSet.name).Nodup :=
  ⟨rfl, by decide, rolloutAutoInPlace_writes_each_machineSet_once false _ _ _ _ rfl (by decide)⟩

/-- The old set of `transferExampleCluster`, already labelled skip-update by an earlier
reconcile. -/
def lagExampleOldIS : MachineSet :=
  { transferExampleOldIS 2 with labels := [(labelKeyMachineSetSkipUpdate, "true")] }

/-- The old set holds `machine-0` and `machine-1`; only `node-0` is labelled update-successful. -/
def lagExampleCluster : Cluster :=
  { machineSets := [lagExampleOldIS, transferExampleNewIS]
    machines := [transferExampleMachine "0", transferExampleMachine "1"]
    nodes := [{ transferExampleNode "0" with labels := [(labelKeyMachineUpdateSuccessful, "true")] },
      { transferExampleNode "1" with labels := [] }]
    controlNodes := [], machineSets_nodup := (by decide : ["machineset-old", "machineset-new"].Nodup)
    machines_nodup := by decide, nodes_nodup := by decide, controlNodes_nodup := by decide }

/-- The first reconcile of `lagExampleCluster`: every call succeeds, and the machine informer
does not deliver the sixth call, the ownership patch of `machine-0`. -/
def lagExampleFirstReconcile : World :=
  (rolloutAutoInPlace false transferExampleDeployment transferExampleNewIS [lagExampleOldIS]
    (World.init lagExampleCluster
      [.accepted, .accepted, .accepted, .accepted, .accepted, ⟨false, false⟩] true true)).2

/-- The second reconcile, handed the sets as the machine-set lister returns them after the
first. -/
def lagExampleSecondReconcile : World :=
  match lagExampleFirstReconcile.cache.getMachineSet "machineset-old",
    lagExampleFirstReconcile.cache.getMachineSet "machineset-new" with
  | some old, some new =>
    (rolloutAutoInPlace false transferExampleDeployment new [old] lagExampleFirstReconcile).2
  | _, _ => lagExampleFirstReconcile

/-- **A lagging machine informer moves one machine twice**: the first reconcile moves
`machine-0` and writes the old set down to 1. The second labels `machine-0`
candidate-for-update from its stale copy, which writes `machineset=old` back, lists it for the
old set again and moves it a second time. The old set is written down to 0 while `machine-1`
still belongs to it: one machine left it, and its replicas dropped by two. -/
theorem rolloutAutoInPlace_moves_lagged_machine_twice :
    replicaWrites lagExampleSecondReconcile.log =
      [("machineset-old", 1), ("machineset-new", 1), ("machineset-old", 0), ("machineset-new", 2)] ∧
    lagExampleSecondReconcile.store.machines.map Machine.controller =
      [some "machineset-new", some "machineset-old"] := by
  decide

end MachineControllerManager
