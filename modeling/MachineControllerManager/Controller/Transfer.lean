import MachineControllerManager.Controller.Helpers

/-!
# `reconcileNewMachineSetInPlace`: moving updated machines to the new set

For each old set, the machines of its selector whose node is labelled update-successful are
patched over to the new set (labels rewritten to the new selector, owner reference replaced)
and their nodes uncordoned; the old set is then scaled down by the machines moved out of
it, and after the last old set the new set is scaled up by all of them. All the replica
counts written are computed from the machine-set copies the function was given.

A failed ownership patch ends the function after two writes, the new set's scale-up first;
a failed uncordon ends it with no write at all. The uncordon goes through
`controlCoreClient`, where every other node write of the rollout goes through
`targetCoreClient`.
-/

namespace MachineControllerManager

/-- How the node loop of `reconcileNewMachineSetInPlace` for one old set ends: with its
counters after the last node, or with a return from the function. -/
inductive TransferExit where
  | next (transfferedMachineCount addedNewReplicasCount : Int32)
  | ret (scaled : Bool) (err : Option GoError)
  deriving DecidableEq, Repr

/-- The labels a moved machine gets: the old selector's keys dropped, the new selector's
labels and update-successful set. -/
def machineNewLabels (newIS is : MachineSet) (machine : Machine) : Labels :=
  mergeStringMaps (mergeWithOverwriteAndFilter machine.labels is.selector newIS.selector)
    [(labelKeyMachineUpdateSuccessful, "true")]

/-- The ownership patch of a moved machine: its new labels, an owner list naming the new set,
and its own uid. -/
def addControllerPatch (newIS is : MachineSet) (machine : Machine) : MachinePatch :=
  { labels := machineNewLabels newIS is machine, controller := some newIS.name
    uid := some machine.uid }

/-- The writes after a failed ownership patch: the new set scaled up by the machines moved so
far, then `is` scaled down by its own; the function then returns the patch's error `err`. -/
def scaleAfterTransferFailure (newIS is : MachineSet)
    (transfferedMachineCount addedNewReplicasCount : Int32) (err : GoError) (w : World) :
    TransferExit × World :=
  match scaleMachineSetAndRecordEvent newIS (newIS.replicas + addedNewReplicasCount) w with
  | ((_, some err2), w) => (.ret (0 < addedNewReplicasCount) (some err2), w)
  | ((scaled, none), w) =>
    match scaleMachineSetAndRecordEvent is (is.replicas - transfferedMachineCount) w with
    | ((_, some _), w) => (.ret (0 < addedNewReplicasCount) (some err), w)
    | ((_, none), w) => (.ret scaled (some err), w)

/-- The scales after a failed transfer are a run. -/
theorem scaleAfterTransferFailure_reaches {S : List MachineSet} {newIS is : MachineSet}
    (hnew : newIS ∈ S) (his : is ∈ S) (transfferedMachineCount addedNewReplicasCount : Int32)
    (err : GoError) (w : World) :
    Reaches S w (scaleAfterTransferFailure newIS is transfferedMachineCount addedNewReplicasCount
      err w).2 := by
  have hup := scaleMachineSetAndRecordEvent_reaches hnew (newIS.replicas + addedNewReplicasCount) w
  dsimp only [scaleAfterTransferFailure]
  split
  · exact .of_eq hup ‹_›
  · refine (Reaches.of_eq hup ‹_›).trans ?_
    have hdown := scaleMachineSetAndRecordEvent_reaches his (is.replicas - transfferedMachineCount)
      ‹World›
    split <;> exact .of_eq hdown ‹_›

/-- The node loop of `reconcileNewMachineSetInPlace` for the old set `is`, over the nodes
labelled update-successful, from the counters `transfferedMachineCount` (of `is`) and
`addedNewReplicasCount` (of the whole call). -/
def transferLoop (newIS is : MachineSet) (machines : List Machine) :
    List Node → Int32 → Int32 → World → TransferExit × World
  | [], transfferedMachineCount, addedNewReplicasCount, w =>
    (.next transfferedMachineCount addedNewReplicasCount, w)
  | node :: nodes, transfferedMachineCount, addedNewReplicasCount, w =>
    match getMachineFromNode machines node with
    | none => transferLoop newIS is machines nodes transfferedMachineCount addedNewReplicasCount w
    | some machine =>
      match patchMachine machine.name (addControllerPatch newIS is machine) w with
      | (some err, w) =>
        scaleAfterTransferFailure newIS is transfferedMachineCount addedNewReplicasCount err w
      | (none, w) =>
        let w := w.mutateCachedNode node { node with unschedulable := false }
        match updateNode .control { node with unschedulable := false } w with
        | (some _, w) =>
          (.ret false (some (.errorf ("failed to uncordon the node " ++ node.name))), w)
        | (none, w) =>
          transferLoop newIS is machines nodes (transfferedMachineCount + 1)
            (addedNewReplicasCount + 1) w

/-- The transfer loop is a run. -/
theorem transferLoop_reaches {S : List MachineSet} {newIS is : MachineSet} (hnew : newIS ∈ S)
    (his : is ∈ S) (machines : List Machine) :
    ∀ (nodes : List Node) (transfferedMachineCount addedNewReplicasCount : Int32) (w : World),
      Reaches S w
        (transferLoop newIS is machines nodes transfferedMachineCount addedNewReplicasCount w).2
  | [], _, _, _ => .refl
  | node :: nodes, t, added, w => by
    dsimp only [transferLoop]
    split
    · exact transferLoop_reaches hnew his machines nodes t added w
    · split
      · exact (Reaches.of_patchMachine ‹_›).trans
          (scaleAfterTransferFailure_reaches hnew his t added _ _)
      · refine (Reaches.of_patchMachine ‹_›).trans
          ((Reaches.mutateCachedNode node { node with unschedulable := false }).trans ?_)
        split
        · exact .of_updateNode ‹_›
        · exact (Reaches.of_updateNode ‹_›).trans (transferLoop_reaches hnew his machines nodes _ _ _)

/-- The loop of `reconcileNewMachineSetInPlace` over the old sets, carrying
`addedNewReplicasCount`. -/
def reconcileNewLoop (newIS : MachineSet) :
    List MachineSet → Int32 → World → (Bool × Option GoError) × World
  | [], addedNewReplicasCount, w =>
    scaleMachineSetAndRecordEvent newIS (newIS.replicas + addedNewReplicasCount) w
  | is :: rest, addedNewReplicasCount, w =>
    let machines := w.cache.listMachines is.selector
    let nodes := w.cache.listNodes [(labelKeyMachineUpdateSuccessful, "true")]
    match transferLoop newIS is machines nodes 0 addedNewReplicasCount w with
    | (.ret scaled err, w) => ((scaled, err), w)
    | (.next transfferedMachineCount addedNewReplicasCount, w) =>
      match scaleMachineSetAndRecordEvent is (is.replicas - transfferedMachineCount) w with
      | ((_, some e), w) => ((0 < addedNewReplicasCount, some e), w)
      | ((_, none), w) => reconcileNewLoop newIS rest addedNewReplicasCount w

/-- The loop over the old sets is a run. -/
theorem reconcileNewLoop_reaches {S : List MachineSet} {newIS : MachineSet} (hnew : newIS ∈ S) :
    ∀ {l : List MachineSet}, l ⊆ S → ∀ (addedNewReplicasCount : Int32) (w : World),
      Reaches S w (reconcileNewLoop newIS l addedNewReplicasCount w).2
  | [], _, added, w => scaleMachineSetAndRecordEvent_reaches hnew _ w
  | is :: rest, hS, added, w => by
    have his := hS (List.mem_cons_self is rest)
    dsimp only [reconcileNewLoop]
    have hloop := transferLoop_reaches hnew his (w.cache.listMachines is.selector)
      (w.cache.listNodes [(labelKeyMachineUpdateSuccessful, "true")]) 0 added w
    split
    · exact .of_eq hloop ‹_›
    · rename_i t _ w₁ _
      refine (Reaches.of_eq hloop ‹_›).trans ?_
      have hdown := scaleMachineSetAndRecordEvent_reaches his (is.replicas - t) w₁
      split
      · exact .of_eq hdown ‹_›
      · exact (Reaches.of_eq hdown ‹_›).trans
          (reconcileNewLoop_reaches hnew (fun _ h => hS (List.mem_cons_of_mem is h)) _ _)

/-- `reconcileNewMachineSetInPlace(oldISs, newIS, deployment)`. -/
def reconcileNewMachineSetInPlace (oldISs : List MachineSet) (newIS : MachineSet)
    (d : MachineDeployment) (w : World) : (Bool × Option GoError) × World :=
  if newIS.replicas = d.replicas then ((false, none), w)
  else if d.replicas < newIS.replicas then scaleMachineSetAndRecordEvent newIS d.replicas w
  else reconcileNewLoop newIS oldISs 0 w

/-- `reconcileNewMachineSetInPlace` over sets of the snapshot is a run. -/
theorem reconcileNewMachineSetInPlace_reaches {S oldISs : List MachineSet} {newIS : MachineSet}
    (hnew : newIS ∈ S) (hold : oldISs ⊆ S) (d : MachineDeployment) (w : World) :
    Reaches S w (reconcileNewMachineSetInPlace oldISs newIS d w).2 := by
  unfold reconcileNewMachineSetInPlace
  split
  · exact .refl
  · split
    · exact scaleMachineSetAndRecordEvent_reaches hnew _ w
    · exact reconcileNewLoop_reaches hnew hold 0 w

/-- An old set whose selector is `machineset=old`, with the given replicas. -/
def transferExampleOldIS (replicas : Int32) : MachineSet :=
  { name := "machineset-old", uid := "uid-old", labels := [], selector := [("machineset", "old")]
    replicas := replicas, statusReplicas := replicas, availableReplicas := replicas
    creationTimestamp := 0, resourceVersion := 1 }

/-- A new set with no replicas yet, whose selector is `machineset=new`. -/
def transferExampleNewIS : MachineSet :=
  { name := "machineset-new", uid := "uid-new", labels := [], selector := [("machineset", "new")]
    replicas := 0, statusReplicas := 0, availableReplicas := 0, creationTimestamp := 1
    resourceVersion := 1 }

/-- A machine of the old set on the node of the same index. -/
def transferExampleMachine (i : String) : Machine :=
  { name := "machine-" ++ i, uid := "uid-machine-" ++ i, controller := some "machineset-old"
    labels := [("machineset", "old"), (nodeLabelKey, "node-" ++ i)] }

/-- A cordoned node whose in-place update succeeded. -/
def transferExampleNode (i : String) : Node :=
  { name := "node-" ++ i, labels := [(labelKeyMachineUpdateSuccessful, "true")]
    unschedulable := true, resourceVersion := 1 }

/-- The two sets, and two updated machines matching the old selector. -/
def transferExampleCluster (replicas : Int32) : Cluster :=
  { machineSets := [transferExampleOldIS replicas, transferExampleNewIS]
    machines := [transferExampleMachine "0", transferExampleMachine "1"]
    nodes := [transferExampleNode "0", transferExampleNode "1"], controlNodes := []
    machineSets_nodup := (by decide : ["machineset-old", "machineset-new"].Nodup)
    machines_nodup := by decide, nodes_nodup := by decide, controlNodes_nodup := by decide }

/-- A deployment of two replicas. -/
def transferExampleDeployment : MachineDeployment :=
  { replicas := 2, maxUnavailable := 1, revisionHistoryLimit := none, complete := false }

/-- **The transfer uncordons through the wrong client**: every other node `Update` of the
rollout goes through `targetCoreClient`, to the cluster the node lister reads, but the one after
an ownership patch goes through `controlCoreClient`. With the nodes in the target cluster only,
that `Update` finds no node: `machine-0` already belongs to the new set, yet the function
returns before any scale, and both sets keep the replicas they had, the old set 2 for its one
machine left and the new set 0 for its one machine. -/
theorem reconcileNewMachineSetInPlace_uncordon_failure_skips_scale :
    match reconcileNewMachineSetInPlace [transferExampleOldIS 2] transferExampleNewIS
      transferExampleDeployment (World.init (transferExampleCluster 2) [] true false) with
    | (result, w) =>
      (w.store.getMachine "machine-0").bind Machine.controller = some "machineset-new" ∧
      (w.store.getMachineSet "machineset-old").map (·.replicas.toInt) = some 2 ∧
      (w.store.getMachineSet "machineset-new").map (·.replicas.toInt) = some 0 ∧
      replicaWrites w.log = [] ∧
      result = (false, some (.errorf "failed to uncordon the node node-0")) := by
  decide

/-- **A failed ownership patch scales the new set up first**: the first machine moves, the
second one's patch is refused, and the new set is written up to 1 while the old set still
stores 2; the old set's scale-down to 1 comes second. -/
theorem reconcileNewMachineSetInPlace_scales_up_before_down :
    (transferExampleOldIS 2).replicas.toInt + transferExampleNewIS.replicas.toInt = 2 ∧
    replicaWrites (reconcileNewMachineSetInPlace [transferExampleOldIS 2] transferExampleNewIS
      transferExampleDeployment (World.init (transferExampleCluster 2)
        [.accepted, .accepted, .refused] true true)).2.log =
      [("machineset-new", 1), ("machineset-old", 1)] := by
  decide

/-- **The old set's scale-down is not clamped**: an old set of one replica whose selector
holds two updated machines is written down to `-1`. -/
theorem reconcileNewMachineSetInPlace_writes_negative_replicas :
    0 ≤ (transferExampleOldIS 1).replicas.toInt ∧
    replicaWrites (reconcileNewMachineSetInPlace [transferExampleOldIS 1] transferExampleNewIS
      transferExampleDeployment (World.init (transferExampleCluster 1) [] true true)).2.log =
      [("machineset-old", -1), ("machineset-new", 2)] := by
  decide

end MachineControllerManager
