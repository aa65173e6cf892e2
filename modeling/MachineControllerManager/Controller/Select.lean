import MachineControllerManager.Controller.Drain

/-!
# Selecting machines of the old sets for update

`reconcileOldMachineSetsInPlace` either scales every old set to zero (when the new set
already has the deployment's replicas) or, behind the gate `maxUpdatePossible > 0`, calls
`selectMachineForUpdate`, which walks the active old sets oldest first and labels machines
selected-for-update against its own budget `totalReadyForUpdateCount`: the reported
available machines beyond `minAvailable`, less those already in update.
-/

namespace MachineControllerManager

/-- The loop of `selectMachineForUpdate` over the sorted old sets, from the total
`totalReadyForUpdate` so far, against the budget `totalReadyForUpdateCount`. -/
def selectLoop (totalReadyForUpdateCount : Int32) :
    List MachineSet → Int32 → World → (Int32 × Option GoError) × World
  | [], totalReadyForUpdate, w => ((totalReadyForUpdate, none), w)
  | targetIS :: rest, totalReadyForUpdate, w =>
    if totalReadyForUpdateCount ≤ totalReadyForUpdate then ((totalReadyForUpdate, none), w)
    else if targetIS.replicas = 0 then selectLoop totalReadyForUpdateCount rest totalReadyForUpdate w
    else
      let readyForUpdateCount := min targetIS.replicas (totalReadyForUpdateCount - totalReadyForUpdate)
      let newReplicasCount := targetIS.replicas - readyForUpdateCount
      if targetIS.replicas < newReplicasCount then
        ((0, some (.errorf ("when selecting machine from old IS for update, got invalid request " ++
          targetIS.name ++ " " ++ toString targetIS.replicas.toInt ++ " -> " ++
          toString newReplicasCount.toInt))), w)
      else
        match labelMachinesToSelectedForUpdate targetIS newReplicasCount w with
        | ((machinesSelectedForUpdate, some e), w) =>
          ((totalReadyForUpdate + machinesSelectedForUpdate, some e), w)
        | ((machinesSelectedForUpdate, none), w) =>
          selectLoop totalReadyForUpdateCount rest (totalReadyForUpdate + machinesSelectedForUpdate) w

/-- The selection loop is a run. -/
theorem selectLoop_reaches (S : List MachineSet) (totalReadyForUpdateCount : Int32) :
    ∀ (l : List MachineSet) (totalReadyForUpdate : Int32) (w : World),
      Reaches S w (selectLoop totalReadyForUpdateCount l totalReadyForUpdate w).2
  | [], _, _ => .refl
  | targetIS :: rest, totalReadyForUpdate, w => by
    dsimp only [selectLoop]
    split
    · exact .refl
    · split
      · exact selectLoop_reaches S _ rest _ w
      · split
        · exact .refl
        · split
          · exact .of_eq (labelMachinesToSelectedForUpdate_reaches S _ _ _) ‹_›
          · exact (Reaches.of_eq (labelMachinesToSelectedForUpdate_reaches S _ _ _) ‹_›).trans
              (selectLoop_reaches S _ rest _ _)

/-- `selectMachineForUpdate(allISs, oldISs, deployment, oldISsMachinesUndergoingUpdate)`. -/
def selectMachineForUpdate (allISs oldISs : List MachineSet) (d : MachineDeployment)
    (oldISsMachinesUndergoingUpdate : Int32) (w : World) : (Int32 × Option GoError) × World :=
  let maxUnavailable := maxUnavailable d
  let minAvailable := d.replicas - maxUnavailable
  let availableMachineCount :=
    getAvailableReplicaCountForMachineSets allISs - oldISsMachinesUndergoingUpdate
  if availableMachineCount ≤ minAvailable then ((0, none), w)
  else
    let totalReadyForUpdateCount := availableMachineCount - minAvailable
    selectLoop totalReadyForUpdateCount (sortMachineSetsByCreationTimestamp oldISs) 0 w

/-- `selectMachineForUpdate` is a run. -/
theorem selectMachineForUpdate_reaches (S allISs oldISs : List MachineSet) (d : MachineDeployment)
    (oldISsMachinesUndergoingUpdate : Int32) (w : World) :
    Reaches S w (selectMachineForUpdate allISs oldISs d oldISsMachinesUndergoingUpdate w).2 := by
  dsimp only [selectMachineForUpdate]
  split
  · exact .refl
  · exact selectLoop_reaches S _ _ _ _

/-- The loop of `reconcileOldMachineSetsInPlace` that scales every old set to zero. -/
def scaleToZeroLoop : List MachineSet → World → Option GoError × World
  | [], w => (none, w)
  | is :: rest, w =>
    match scaleMachineSetAndRecordEvent is 0 w with
    | ((_, some e), w) => (some e, w)
    | ((_, none), w) => scaleToZeroLoop rest w

/-- Scaling sets of the snapshot to zero is a run. -/
theorem scaleToZeroLoop_reaches {S : List MachineSet} :
    ∀ {l : List MachineSet}, l ⊆ S → ∀ w, Reaches S w (scaleToZeroLoop l w).2
  | [], _, _ => .refl
  | is :: rest, hS, w => by
    dsimp only [scaleToZeroLoop]
    have hs := scaleMachineSetAndRecordEvent_reaches (hS (List.mem_cons_self is rest)) 0 w
    split
    · exact .of_eq hs ‹_›
    · exact (Reaches.of_eq hs ‹_›).trans
        (scaleToZeroLoop_reaches (fun _ h => hS (List.mem_cons_of_mem is h)) _)

/-- Scaling the old sets to zero writes machine sets only: the stored machines stay. -/
theorem scaleToZeroLoop_machines : ∀ (l : List MachineSet) (w : World),
    (scaleToZeroLoop l w).2.store.machines = w.store.machines
  | [], _ => rfl
  | is :: rest, w => by
    have hs := (scaleMachineSetAndRecordEvent_store is 0 w).1
    dsimp only [scaleToZeroLoop]
    split
    · rename_i heq; rw [heq] at hs; exact hs
    · rename_i heq; rw [heq] at hs; exact (scaleToZeroLoop_machines rest _).trans hs

/-- `reconcileOldMachineSetsInPlace(allISs, oldISs, newIS, deployment)`. -/
def reconcileOldMachineSetsInPlace (allISs oldISs : List MachineSet) (newIS : MachineSet)
    (d : MachineDeployment) (w : World) : (Bool × Option GoError) × World :=
  let oldMachinesCount := getReplicaCountForMachineSets oldISs
  if oldMachinesCount = 0 then ((false, none), w)
  else if newIS.replicas = d.replicas then
    match scaleToZeroLoop oldISs w with
    | (some e, w) => ((false, some e), w)
    | (none, w) => ((true, none), w)
  else
    let allMachinesCount := getReplicaCountForMachineSets allISs
    let maxUnavailable := maxUnavailable d
    let minAvailable := d.replicas - maxUnavailable
    let newISUnavailableMachineCount := newIS.replicas - newIS.availableReplicas
    let oldISsMachinesUndergoingUpdate := getMachinesUndergoingUpdate w.cache oldISs
    let maxUpdatePossible := allMachinesCount - minAvailable - newISUnavailableMachineCount -
      oldISsMachinesUndergoingUpdate
    if maxUpdatePossible ≤ 0 then ((false, none), w)
    else
      match selectMachineForUpdate allISs oldISs d oldISsMachinesUndergoingUpdate w with
      | ((_, some e), w) => ((false, some e), w)
      | ((machinesSelectedForUpdate, none), w) => ((0 < machinesSelectedForUpdate, none), w)

/-- `reconcileOldMachineSetsInPlace` over old sets of the snapshot is a run. -/
theorem reconcileOldMachineSetsInPlace_reaches {S allISs oldISs : List MachineSet} (hS : oldISs ⊆ S)
    (newIS : MachineSet) (d : MachineDeployment) (w : World) :
    Reaches S w (reconcileOldMachineSetsInPlace allISs oldISs newIS d w).2 := by
  dsimp only [reconcileOldMachineSetsInPlace]
  split
  · exact .refl
  · split
    · split <;> exact .of_eq (scaleToZeroLoop_reaches hS w) ‹_›
    · split
      · exact .refl
      · split <;> exact .of_eq (selectMachineForUpdate_reaches S _ _ _ _ _) ‹_›

/-- What `reconcileOldMachineSetsInPlace` can do to the world: nothing; scale every old set to
zero, once the new set has the deployment's replicas; or, behind a positive
`maxUpdatePossible`, run `selectMachineForUpdate`. -/
theorem reconcileOldMachineSetsInPlace_cases (allISs oldISs : List MachineSet) (newIS : MachineSet)
    (d : MachineDeployment) (w : World) :
    (reconcileOldMachineSetsInPlace allISs oldISs newIS d w).2 = w ∨
    (newIS.replicas = d.replicas ∧
      (reconcileOldMachineSetsInPlace allISs oldISs newIS d w).2 = (scaleToZeroLoop oldISs w).2) ∨
    (0 < (getReplicaCountForMachineSets allISs - (d.replicas - maxUnavailable d) -
        (newIS.replicas - newIS.availableReplicas) - getMachinesUndergoingUpdate w.cache oldISs).toInt ∧
      (reconcileOldMachineSetsInPlace allISs oldISs newIS d w).2 =
        (selectMachineForUpdate allISs oldISs d (getMachinesUndergoingUpdate w.cache oldISs) w).2) := by
  by_cases h0 : getReplicaCountForMachineSets oldISs = 0
  · left; simp only [reconcileOldMachineSetsInPlace, h0, if_true]
  by_cases h1 : newIS.replicas = d.replicas
  · refine .inr (.inl ⟨h1, ?_⟩)
    simp only [reconcileOldMachineSetsInPlace, h0, h1, if_false, if_true]
    split <;> rename_i heq <;> rw [heq]
  by_cases h2 : getReplicaCountForMachineSets allISs - (d.replicas - maxUnavailable d) -
      (newIS.replicas - newIS.availableReplicas) - getMachinesUndergoingUpdate w.cache oldISs ≤ 0
  · left; simp only [reconcileOldMachineSetsInPlace, h0, h1, h2, if_false, if_true]
  refine .inr (.inr ⟨by rw [Int32.le_def, Int32.toInt_zero] at h2; omega, ?_⟩)
  simp only [reconcileOldMachineSetsInPlace, h0, h1, h2, if_false]
  split <;> rename_i heq <;> rw [heq]

/-- An old set of one replica whose selector is `pool=<pool>`. -/
def selectExampleOldIS (pool : String) (creationTimestamp : Nat) : MachineSet :=
  { name := "machineset-" ++ pool, uid := "uid-" ++ pool, labels := [], selector := [("pool", pool)]
    replicas := 1, statusReplicas := 1, availableReplicas := 1
    creationTimestamp := creationTimestamp, resourceVersion := 1 }

/-- A new set with no replicas yet. -/
def selectExampleNewIS : MachineSet :=
  { name := "machineset-new", uid := "uid-new", labels := [], selector := [("pool", "new")]
    replicas := 0, statusReplicas := 0, availableReplicas := 0, creationTimestamp := 2
    resourceVersion := 1 }

/-- A candidate machine of the old set `pool=<pool>`, on the node of the same suffix. -/
def selectExampleMachine (pool : String) : Machine :=
  { name := "machine-" ++ pool, uid := "uid-machine-" ++ pool, controller := some ("machineset-" ++ pool)
    labels := [("pool", pool), (labelKeyMachineCandidateForUpdate, "true"),
      (nodeLabelKey, "node-" ++ pool)] }

/-- Two old sets of one machine each; the node of `machine-a` already carries
`selected-for-update=true`, while no machine does. -/
def selectExampleCluster : Cluster :=
  { machineSets := [selectExampleOldIS "a" 0, selectExampleOldIS "b" 1, selectExampleNewIS]
    machines := [selectExampleMachine "a", selectExampleMachine "b"]
    nodes := [{ name := "node-a", labels := [(labelKeyMachineSelectedForUpdate, "true")]
                unschedulable := false, resourceVersion := 1 },
              { name := "node-b", labels := [], unschedulable := false, resourceVersion := 1 }]
    controlNodes := [], machineSets_nodup := by decide, machines_nodup := by decide
    nodes_nodup := by decide, controlNodes_nodup := by decide }

/-- A deployment of two replicas, one of which may be unavailable. -/
def selectExampleDeployment : MachineDeployment :=
  { replicas := 2, maxUnavailable := 1, revisionHistoryLimit := none, complete := false }

/-- **A machine whose node is already labelled is not counted**: the budget is one machine,
yet `machine-a` is labelled without being counted (its node carries the label), so the loop
goes on to the second set and labels `machine-b` as well. -/
theorem selectMachineForUpdate_exceeds_budget :
    getMachinesUndergoingUpdate selectExampleCluster [selectExampleOldIS "a" 0,
      selectExampleOldIS "b" 1] = 0 ∧
    (getAvailableReplicaCountForMachineSets [selectExampleOldIS "a" 0, selectExampleOldIS "b" 1,
      selectExampleNewIS] - 0 - (selectExampleDeployment.replicas -
        maxUnavailable selectExampleDeployment)).toInt = 1 ∧
    selectExampleCluster.selectedForUpdate = [] ∧
    (selectMachineForUpdate [selectExampleOldIS "a" 0, selectExampleOldIS "b" 1, selectExampleNewIS]
      [selectExampleOldIS "b" 1, selectExampleOldIS "a" 0] selectExampleDeployment 0
      (World.init selectExampleCluster [] true false)).2.store.selectedForUpdate =
      ["machine-a", "machine-b"] := by
  decide

end MachineControllerManager
