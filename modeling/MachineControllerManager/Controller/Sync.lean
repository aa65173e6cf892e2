import MachineControllerManager.Controller.Helpers

/-!
# `syncMachineSets`

Before and after the in-place transfer, `syncMachineSets` settles what earlier reconciles
left behind: it scales the new set up to the machines labelled update-successful that its
selector already holds, strips the handshake labels from those machines, uncordons nodes,
and scales each old set down to the machines its selector still holds.

The uncordon loop runs over **every** machine of the new set, not only over those labelled
update-successful as its comment says.
-/

namespace MachineControllerManager

/-- The loop of `syncMachineSets` that strips the handshake labels from the new set's
machines labelled update-successful. -/
def removeUpdateLabelsLoop : List Machine → World → Option GoError × World
  | [], w => (none, w)
  | m :: ms, w =>
    let labelsToRemove := [labelKeyMachineSelectedForUpdate, labelKeyMachineDrainSuccessful,
      labelKeyMachineUpdateSuccessful]
    match patchMachine m.name (removeLabels labelsToRemove) w with
    | (some e, w) => (some e, w)
    | (none, w) => removeUpdateLabelsLoop ms w

/-- The label-removal loop is a run. -/
theorem removeUpdateLabelsLoop_reaches (S : List MachineSet) :
    ∀ (machines : List Machine) (w : World), Reaches S w (removeUpdateLabelsLoop machines w).2
  | [], _ => .refl
  | m :: ms, w => by
    dsimp only [removeUpdateLabelsLoop]
    split
    · exact .of_patchMachine ‹_›
    · exact (Reaches.of_patchMachine ‹_›).trans (removeUpdateLabelsLoop_reaches S ms _)

/-- The node a machine's uncordon writes: without the update-successful and ready-for-update
labels, schedulable. -/
def uncordonedNode (node : Node) : Node :=
  { node with labels := (node.labels.erase labelKeyMachineUpdateSuccessful).erase
                          labelKeyMachineReadyForUpdate
              unschedulable := false }

/-- The loop of `syncMachineSets` that uncordons the node of every machine of the new set. -/
def uncordonLoop : List Machine → World → Option GoError × World
  | [], w => (none, w)
  | m :: ms, w =>
    match m.labels.get? nodeLabelKey with
    | none => (some (.errorf ("node label not found for machine " ++ m.name)), w)
    | some nodeName =>
      match w.cache.getNode nodeName with
      | none => (some (.errorf ("failed to get node " ++ nodeName)), w)
      | some node =>
        let w := w.mutateCachedNode node (uncordonedNode node)
        match updateNode .target (uncordonedNode node) w with
        | (some _, w) => (some (.errorf ("failed to uncordon the node " ++ node.name)), w)
        | (none, w) => uncordonLoop ms w

/-- The uncordon loop is a run. -/
theorem uncordonLoop_reaches (S : List MachineSet) :
    ∀ (machines : List Machine) (w : World), Reaches S w (uncordonLoop machines w).2
  | [], _ => .refl
  | m :: ms, w => by
    dsimp only [uncordonLoop]
    split
    · exact .refl
    · split
      · exact .refl
      · rename_i node _
        refine (Reaches.mutateCachedNode node (uncordonedNode node)).trans ?_
        split
        · exact .of_updateNode ‹_›
        · exact (Reaches.of_updateNode ‹_›).trans (uncordonLoop_reaches S ms _)

/-- The loop of `syncMachineSets` that scales each old set down to the machines its selector
holds, when there are fewer of them than its replicas. -/
def scaleDownOldLoop : List MachineSet → World → Option GoError × World
  | [], w => (none, w)
  | is :: rest, w =>
    let machines := w.cache.listMachines is.selector
    if (machines.length : Int) < is.replicas.toInt then
      match scaleMachineSetAndRecordEvent is (Int32.ofInt machines.length) w with
      | ((_, some _), w) => (some (.errorf ("failed to scale down machine set " ++ is.name)), w)
      | ((_, none), w) => scaleDownOldLoop rest w
    else scaleDownOldLoop rest w

/-- Scaling down old sets of the snapshot is a run. -/
theorem scaleDownOldLoop_reaches {S : List MachineSet} :
    ∀ {l : List MachineSet}, l ⊆ S → ∀ w, Reaches S w (scaleDownOldLoop l w).2
  | [], _, _ => .refl
  | is :: rest, hS, w => by
    have hrest : rest ⊆ S := fun _ h => hS (List.mem_cons_of_mem is h)
    dsimp only [scaleDownOldLoop]
    split
    · have hs := scaleMachineSetAndRecordEvent_reaches (hS (List.mem_cons_self is rest))
        (Int32.ofInt (w.cache.listMachines is.selector).length) w
      split
      · exact .of_eq hs ‹_›
      · exact (Reaches.of_eq hs ‹_›).trans (scaleDownOldLoop_reaches hrest _)
    · exact scaleDownOldLoop_reaches hrest w

/-- The first block of `syncMachineSets`: when the new set's selector holds more machines than
its replicas and some are labelled update-successful, scale it up by as many of those as fit. -/
def scaleUpNewMachineSet (newIS : MachineSet)
    (machines machinesWithUpdateSuccessfulLabel : List Machine) (w : World) :
    Option GoError × World :=
  if newIS.replicas.toInt < machines.length ∧ 0 < machinesWithUpdateSuccessfulLabel.length then
    let scaleUpBy : Int :=
      min machinesWithUpdateSuccessfulLabel.length (machines.length - newIS.replicas.toInt)
    match scaleMachineSetAndRecordEvent newIS (newIS.replicas + Int32.ofInt scaleUpBy) w with
    | ((_, err), w) => (err, w)
  else (none, w)

/-- Scaling up the new set, a set of the snapshot, is a run. -/
theorem scaleUpNewMachineSet_reaches {S : List MachineSet} {newIS : MachineSet} (hnew : newIS ∈ S)
    (machines machinesWithUpdateSuccessfulLabel : List Machine) (w : World) :
    Reaches S w (scaleUpNewMachineSet newIS machines machinesWithUpdateSuccessfulLabel w).2 := by
  dsimp only [scaleUpNewMachineSet]
  split
  · exact scaleMachineSetAndRecordEvent_reaches hnew _ w
  · exact .refl

/-- `syncMachineSets(oldISs, newIS, deployment)`. -/
def syncMachineSets (oldISs : List MachineSet) (newIS : MachineSet) (w : World) :
    Option GoError × World :=
  let machines := w.cache.listMachines newIS.selector
  let machinesWithUpdateSuccessfulLabel := filterMachinesWithUpdateSuccessfulLabel machines
  match scaleUpNewMachineSet newIS machines machinesWithUpdateSuccessfulLabel w with
  | (some e, w) => (some e, w)
  | (none, w) =>
    match removeUpdateLabelsLoop machinesWithUpdateSuccessfulLabel w with
    | (some e, w) => (some e, w)
    | (none, w) =>
      match uncordonLoop machines w with
      | (some e, w) => (some e, w)
      | (none, w) => scaleDownOldLoop oldISs w

/-- `syncMachineSets` over sets of the snapshot is a run. -/
theorem syncMachineSets_reaches {S oldISs : List MachineSet} {newIS : MachineSet}
    (hnew : newIS ∈ S) (hold : oldISs ⊆ S) (w : World) :
    Reaches S w (syncMachineSets oldISs newIS w).2 := by
  dsimp only [syncMachineSets]
  have hscale := scaleUpNewMachineSet_reaches hnew (w.cache.listMachines newIS.selector)
    (filterMachinesWithUpdateSuccessfulLabel (w.cache.listMachines newIS.selector)) w
  split
  · exact .of_eq hscale ‹_›
  · refine (Reaches.of_eq hscale ‹_›).trans ?_
    split
    · exact .of_eq (removeUpdateLabelsLoop_reaches S _ _) ‹_›
    · refine (Reaches.of_eq (removeUpdateLabelsLoop_reaches S _ _) ‹_›).trans ?_
      split
      · exact .of_eq (uncordonLoop_reaches S _ _) ‹_›
      · exact (Reaches.of_eq (uncordonLoop_reaches S _ _) ‹_›).trans (scaleDownOldLoop_reaches hold _)

/-- A new set whose selector is `machineset=new`. -/
def syncExampleNewIS : MachineSet :=
  { name := "machineset-new", uid := "uid-new", labels := [], selector := [("machineset", "new")]
    replicas := 1, statusReplicas := 1, availableReplicas := 1, creationTimestamp := 1
    resourceVersion := 1 }

/-- A machine of `syncExampleNewIS` on `node-0`, without the update-successful label. -/
def syncExampleMachine : Machine :=
  { name := "machine-0", uid := "uid-machine-0", controller := some "machineset-new"
    labels := [("machineset", "new"), (nodeLabelKey, "node-0")] }

/-- A cordoned node, as a drain for deletion leaves it. -/
def syncExampleNode : Node :=
  { name := "node-0", labels := [], unschedulable := true, resourceVersion := 1 }

/-- The new set, its machine and that machine's cordoned node. -/
def syncExampleCluster : Cluster :=
  { machineSets := [syncExampleNewIS], machines := [syncExampleMachine], nodes := [syncExampleNode]
    controlNodes := [], machineSets_nodup := by decide, machines_nodup := by decide
    nodes_nodup := by decide, controlNodes_nodup := by decide }

/-- **The uncordon loop ignores the update-successful label**: a cordoned node backing a
machine of the new set that is not labelled update-successful is made schedulable. -/
theorem syncMachineSets_uncordons_unlabelled_machine_node :
    syncExampleMachine.labels.get? labelKeyMachineUpdateSuccessful = none ∧
    syncExampleCluster.getNode "node-0" = some syncExampleNode ∧
    syncExampleNode.unschedulable = true ∧
    ((syncMachineSets [] syncExampleNewIS
      (World.init syncExampleCluster [] true false)).2.store.getNode "node-0").map
        Node.unschedulable = some false := by
  decide

end MachineControllerManager
