import MachineControllerManager.Controller.Select
import MachineControllerManager.Controller.Sync
import MachineControllerManager.Controller.Transfer

/-!
# `rolloutAutoInPlace`

One reconcile of a machine deployment with the in-place strategy: freeze the old sets, mark
their machines and nodes candidates for update, settle leftovers (`syncMachineSets`), move
updated machines to the new set (`reconcileNewMachineSetInPlace`), and otherwise select
more machines for update (`reconcileOldMachineSetsInPlace`); when the rollout is complete,
prune old sets.

The steps whose effect lies outside the modelled objects (node taints and annotations, the
deployment's status) are calls that can only fail. `getAllMachineSetsAndSyncRevision` is
not in the source: a reconcile is given the new set and the old sets as the machine-set
lister returns them.
-/

namespace MachineControllerManager

/-- The loop of `labelNodesBackingMachineSets` over the machines of one set: label the machine
candidate-for-update, then its node unless the node is gone or already labelled. -/
def labelNodesLoop : List Machine → World → Option GoError × World
  | [], w => (none, w)
  | m :: ms, w =>
    if m.labels.get nodeLabelKey ≠ "" then
      let labels := mergeStringMaps m.labels [(labelKeyMachineCandidateForUpdate, "true")]
      match patchMachine m.name { labels := labels } w with
      | (some e, w) => (some e, w)
      | (none, w) =>
        match w.cache.getNode (m.labels.get nodeLabelKey) with
        | none => labelNodesLoop ms w
        | some node =>
          if node.labels.get labelKeyMachineCandidateForUpdate = "true" then labelNodesLoop ms w
          else
            match updateNode .target
                { node with labels := node.labels.set labelKeyMachineCandidateForUpdate "true" } w with
            | (some e, w) => (some e, w)
            | (none, w) => labelNodesLoop ms w
    else labelNodesLoop ms w

/-- The candidate-marking loop is a run. -/
theorem labelNodesLoop_reaches (S : List MachineSet) :
    ∀ (machines : List Machine) (w : World), Reaches S w (labelNodesLoop machines w).2
  | [], _ => .refl
  | m :: ms, w => by
    dsimp only [labelNodesLoop]
    split
    · split
      · exact .of_patchMachine ‹_›
      · refine (Reaches.of_patchMachine ‹_›).trans ?_
        split
        · exact labelNodesLoop_reaches S ms _
        · split
          · exact labelNodesLoop_reaches S ms _
          · split
            · exact .of_updateNode ‹_›
            · exact (Reaches.of_updateNode ‹_›).trans (labelNodesLoop_reaches S ms _)
    · exact labelNodesLoop_reaches S ms w

/-- `labelNodesBackingMachineSets(machineSets, label)`: the machines of every set, and their
nodes, labelled candidate-for-update. -/
def labelNodesBackingMachineSets : List MachineSet → World → Option GoError × World
  | [], w => (none, w)
  | machineSet :: rest, w =>
    match labelNodesLoop (w.cache.listMachines machineSet.selector) w with
    | (some e, w) => (some e, w)
    | (none, w) => labelNodesBackingMachineSets rest w

/-- `labelNodesBackingMachineSets` is a run. -/
theorem labelNodesBackingMachineSets_reaches (S : List MachineSet) :
    ∀ (machineSets : List MachineSet) (w : World),
      Reaches S w (labelNodesBackingMachineSets machineSets w).2
  | [], _ => .refl
  | machineSet :: rest, w => by
    dsimp only [labelNodesBackingMachineSets]
    split
    · exact .of_eq (labelNodesLoop_reaches S _ _) ‹_›
    · exact (Reaches.of_eq (labelNodesLoop_reaches S _ _) ‹_›).trans
        (labelNodesBackingMachineSets_reaches S rest _)

/-- `labelMachineSets(MachineSets, labels)`. -/
def labelMachineSets (labels : Labels) : List MachineSet → World → Option GoError × World
  | [], w => (none, w)
  | machineSet :: rest, w =>
    match patchMachineSet machineSet.name (mergeStringMaps machineSet.labels labels) w with
    | (some e, w) =>
      (some (.errorf ("failed to label MachineSet " ++ machineSet.name ++ ": " ++ e.message)), w)
    | (none, w) => labelMachineSets labels rest w

/-- `labelMachineSets` is a run. -/
theorem labelMachineSets_reaches (S : List MachineSet) (labels : Labels) :
    ∀ (machineSets : List MachineSet) (w : World), Reaches S w (labelMachineSets labels machineSets w).2
  | [], _ => .refl
  | machineSet :: rest, w => by
    dsimp only [labelMachineSets]
    split
    · exact .of_patchMachineSet ‹_›
    · exact (Reaches.of_patchMachineSet ‹_›).trans (labelMachineSets_reaches S labels rest _)

/-- Delete machine sets one by one, stopping at the first error. -/
def deleteMachineSetsLoop : List MachineSet → World → Option GoError × World
  | [], w => (none, w)
  | is :: rest, w =>
    match deleteMachineSet is.name w with
    | (some e, w) => (some e, w)
    | (none, w) => deleteMachineSetsLoop rest w

/-- The delete loop is a run. -/
theorem deleteMachineSetsLoop_reaches (S : List MachineSet) :
    ∀ (machineSets : List MachineSet) (w : World), Reaches S w (deleteMachineSetsLoop machineSets w).2
  | [], _ => .refl
  | is :: rest, w => by
    dsimp only [deleteMachineSetsLoop]
    split
    · exact .of_deleteMachineSet ‹_›
    · exact (Reaches.of_deleteMachineSet ‹_›).trans (deleteMachineSetsLoop_reaches S rest _)

/-- Modelled from the spec: `dc.cleanupMachineDeployment(oldISs, deployment)`, not in the
source, prunes old sets "per history policy": with a revision history limit, the old sets
with zero replicas beyond the limit are deleted, oldest first. -/
def cleanupMachineDeployment (oldISs : List MachineSet) (d : MachineDeployment) (w : World) :
    Option GoError × World :=
  match d.revisionHistoryLimit with
  | none => (none, w)
  | some limit =>
    let cleanable := oldISs.filter fun is => is.replicas = 0 ∧ is.statusReplicas = 0
    let diff : Int := cleanable.length - limit.toInt
    if diff ≤ 0 then (none, w)
    else deleteMachineSetsLoop ((sortMachineSetsByCreationTimestamp cleanable).take diff.toNat) w

/-- `cleanupMachineDeployment` is a run. -/
theorem cleanupMachineDeployment_reaches (S oldISs : List MachineSet) (d : MachineDeployment)
    (w : World) : Reaches S w (cleanupMachineDeployment oldISs d w).2 := by
  dsimp only [cleanupMachineDeployment]
  split
  · exact .refl
  · split
    · exact .refl
    · exact deleteMachineSetsLoop_reaches S _ w

/-- `rolloutAutoInPlace(d, isList, machineMap)` for the new set `newIS` and the old sets
`oldISs`. `autoscalerScaleDownAnnotationDuringRollout` is the controller's flag. -/
def rolloutAutoInPlace (autoscalerScaleDownAnnotationDuringRollout : Bool)
    (d : MachineDeployment) (newIS : MachineSet) (oldISs : List MachineSet) (w : World) :
    Option GoError × World :=
  let allISs := oldISs ++ [newIS]
  let rolling := oldISs ≠ [] ∧ machineSetsScaledToZero oldISs = false
  match (if rolling then labelMachineSets [(labelKeyMachineSetSkipUpdate, "true")] oldISs w
         else (none, w)) with
  | (some e, w) => (some e, w)
  | (none, w) =>
  match (if autoscalerScaleDownAnnotationDuringRollout ∧ rolling then
           externalCall "annotateNodesBackingMachineSets" w
         else (none, w)) with
  | (some e, w) => (some e, w)
  | (none, w) =>
  match labelNodesBackingMachineSets oldISs w with
  | (some e, w) =>
    (some (.errorf ("failed to label nodes backing old machine sets as candidate for update: " ++
      e.message)), w)
  | (none, w) =>
  match syncMachineSets oldISs newIS w with
  | (some e, w) => (some e, w)
  | (none, w) =>
  match reconcileNewMachineSetInPlace oldISs newIS d w with
  | ((_, some e), w) => (some e, w)
  | ((true, none), w) => externalCall "syncRolloutStatus" w
  | ((false, none), w) =>
  match reconcileOldMachineSetsInPlace allISs (filterActiveMachineSets oldISs) newIS d w with
  | ((_, some e), w) => (some e, w)
  | ((true, none), w) => externalCall "syncRolloutStatus" w
  | ((false, none), w) =>
  match syncMachineSets oldISs newIS w with
  | (some e, w) => (some e, w)
  | (none, w) =>
  match (if d.complete then
           match (if autoscalerScaleDownAnnotationDuringRollout then
                    externalCall "removeAutoscalerAnnotationsIfRequired" w
                  else (none, w)) with
           | (some e, w) => (some e, w)
           | (none, w) => cleanupMachineDeployment oldISs d w
         else (none, w)) with
  | (some e, w) => (some e, w)
  | (none, w) => externalCall "syncRolloutStatus" w

/-- A reconcile is a run whose machine-set writes are copies of the sets it was handed. -/
theorem rolloutAutoInPlace_reaches (autoscalerScaleDownAnnotationDuringRollout : Bool)
    (d : MachineDeployment) (newIS : MachineSet) (oldISs : List MachineSet) (w : World) :
    Reaches (newIS :: oldISs) w
      (rolloutAutoInPlace autoscalerScaleDownAnnotationDuringRollout d newIS oldISs w).2 := by
  have hnew : newIS ∈ newIS :: oldISs := List.mem_cons_self _ _
  have hold : oldISs ⊆ newIS :: oldISs := List.subset_cons_self _ _
  have hsync := fun w => syncMachineSets_reaches hnew hold w
  have hext := fun helper w => @Reaches.external (newIS :: oldISs) w helper
  dsimp only [rolloutAutoInPlace]
  split
  · exact .of_ite_eq (fun _ => labelMachineSets_reaches _ _ _ _) ‹_›
  refine (Reaches.of_ite_eq (fun _ => labelMachineSets_reaches _ _ _ _) ‹_›).trans ?_
  split
  · exact .of_ite_eq (fun _ => hext _ _) ‹_›
  refine (Reaches.of_ite_eq (fun _ => hext _ _) ‹_›).trans ?_
  split
  · exact .of_eq (labelNodesBackingMachineSets_reaches _ _ _) ‹_›
  refine (Reaches.of_eq (labelNodesBackingMachineSets_reaches _ _ _) ‹_›).trans ?_
  split
  · exact .of_eq (hsync _) ‹_›
  refine (Reaches.of_eq (hsync _) ‹_›).trans ?_
  have hnewr := fun w => reconcileNewMachineSetInPlace_reaches hnew hold d w
  split
  · exact .of_eq (hnewr _) ‹_›
  · exact (Reaches.of_eq (hnewr _) ‹_›).trans (hext _ _)
  refine (Reaches.of_eq (hnewr _) ‹_›).trans ?_
  have holdr := fun w => @reconcileOldMachineSetsInPlace_reaches _ (oldISs ++ [newIS]) _
    ((filterActiveMachineSets_subset oldISs).trans hold) newIS d w
  split
  · exact .of_eq (holdr _) ‹_›
  · exact (Reaches.of_eq (holdr _) ‹_›).trans (hext _ _)
  refine (Reaches.of_eq (holdr _) ‹_›).trans ?_
  split
  · exact .of_eq (hsync _) ‹_›
  refine (Reaches.of_eq (hsync _) ‹_›).trans ?_
  have hcomplete : ∀ w, Reaches (newIS :: oldISs) w
      (if d.complete then
         match (if autoscalerScaleDownAnnotationDuringRollout then
                  externalCall "removeAutoscalerAnnotationsIfRequired" w
                else (none, w)) with
         | (some e, w) => (some e, w)
         | (none, w) => cleanupMachineDeployment oldISs d w
       else (none, w)).2 := by
    intro w
    split
    · split
      · exact .of_ite_eq (fun _ => hext _ _) ‹_›
      · exact (Reaches.of_ite_eq (fun _ => hext _ _) ‹_›).trans
          (cleanupMachineDeployment_reaches _ _ _ _)
    · exact .refl
  split
  · exact .of_eq (hcomplete _) ‹_›
  · exact (Reaches.of_eq (hcomplete _) ‹_›).trans (hext _ _)

/-! ### The round around its transfer

`rolloutAutoInPlace` is the calls before `reconcileNewMachineSetInPlace`, that call, and the
calls after it; `rolloutAutoInPlace_eq` cuts it there. -/

/-- The calls of `rolloutAutoInPlace` before `reconcileNewMachineSetInPlace`: the skip label on
the old sets, the node annotations, the candidate labels and the first `syncMachineSets`. -/
def rolloutPrefix (autoscalerScaleDownAnnotationDuringRollout : Bool) (newIS : MachineSet)
    (oldISs : List MachineSet) (w : World) : Option GoError × World :=
  let rolling := oldISs ≠ [] ∧ machineSetsScaledToZero oldISs = false
  match (if rolling then labelMachineSets [(labelKeyMachineSetSkipUpdate, "true")] oldISs w
         else (none, w)) with
  | (some e, w) => (some e, w)
  | (none, w) =>
  match (if autoscalerScaleDownAnnotationDuringRollout ∧ rolling then
           externalCall "annotateNodesBackingMachineSets" w
         else (none, w)) with
  | (some e, w) => (some e, w)
  | (none, w) =>
  match labelNodesBackingMachineSets oldISs w with
  | (some e, w) =>
    (some (.errorf ("failed to label nodes backing old machine sets as candidate for update: " ++
      e.message)), w)
  | (none, w) => syncMachineSets oldISs newIS w

/-- The calls of `rolloutAutoInPlace` after `reconcileNewMachineSetInPlace` returned `scaledUp`
and no error. -/
def rolloutSuffix (autoscalerScaleDownAnnotationDuringRollout : Bool) (d : MachineDeployment)
    (newIS : MachineSet) (oldISs : List MachineSet) (scaledUp : Bool) (w : World) :
    Option GoError × World :=
  let allISs := oldISs ++ [newIS]
  if scaledUp then externalCall "syncRolloutStatus" w else
  match reconcileOldMachineSetsInPlace allISs (filterActiveMachineSets oldISs) newIS d w with
  | ((_, some e), w) => (some e, w)
  | ((true, none), w) => externalCall "syncRolloutStatus" w
  | ((false, none), w) =>
  match syncMachineSets oldISs newIS w with
  | (some e, w) => (some e, w)
  | (none, w) =>
  match (if d.complete then
           match (if autoscalerScaleDownAnnotationDuringRollout then
                    externalCall "removeAutoscalerAnnotationsIfRequired" w
                  else (none, w)) with
           | (some e, w) => (some e, w)
           | (none, w) => cleanupMachineDeployment oldISs d w
         else (none, w)) with
  | (some e, w) => (some e, w)
  | (none, w) => externalCall "syncRolloutStatus" w

/-- The rollout is its prefix, the new set's reconcile and its suffix, one after the other. -/
theorem rolloutAutoInPlace_eq (autoscalerScaleDownAnnotationDuringRollout : Bool)
    (d : MachineDeployment) (newIS : MachineSet) (oldISs : List MachineSet) (w : World) :
    rolloutAutoInPlace autoscalerScaleDownAnnotationDuringRollout d newIS oldISs w =
      match rolloutPrefix autoscalerScaleDownAnnotationDuringRollout newIS oldISs w with
      | (some e, w) => (some e, w)
      | (none, w) =>
        match reconcileNewMachineSetInPlace oldISs newIS d w with
        | ((_, some e), w) => (some e, w)
        | ((scaledUp, none), w) =>
          rolloutSuffix autoscalerScaleDownAnnotationDuringRollout d newIS oldISs scaledUp w := by
  dsimp only [rolloutAutoInPlace, rolloutPrefix, rolloutSuffix]
  split
  · rfl
  split
  · rfl
  split
  · rfl
  split
  · rfl
  split <;> rename_i h <;> simp only [h, if_true, Bool.false_eq_true, if_false]

end MachineControllerManager
