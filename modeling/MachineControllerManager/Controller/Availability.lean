import MachineControllerManager.Controller.Budget
import Mathlib.Algebra.Order.Group.Int

/-!
# What `reconcileOldMachineSetsInPlace` spends

`reconcileOldMachineSetsInPlace` lets a selection run only when `maxUpdatePossible`, a count
over `Spec.Replicas`, is positive; `selectMachineForUpdate` then spends its own budget
`totalReadyForUpdateCount`, a count over `Status.AvailableReplicas`. When a set reports more
available machines than its replicas, as its status does for a while after a scale-down, the
budget exceeds the gate's count and more machines are selected than `maxUpdatePossible`
(`reconcileOldMachineSetsInPlace_exceeds_maxUpdatePossible`). When no set does and the counts
fit in an `int32` (`CountsFit`), the budget is at most the gate's count
(`CountsFit.budget_le_maxUpdatePossible`), and from a handshake world the machines newly
selected are at most `max 0 maxUpdatePossible`
(`reconcileOldMachineSetsInPlace_newlySelected_le`).

The spec's availability invariant counts every set's available machines up to its replicas,
less the selected machines of the old sets that still hold replicas (`availableNotInUpdate`).
Four things break it (`reconcileOldMachineSetsInPlace_spends_availability`): the branch that
scales every old set to zero once the new set has the deployment's replicas, which drops the
old sets' replicas whatever the new set's availability; a set whose status reports more
available machines than its replicas, which the budget counts; a machine lister that lags the
store, which undercounts the machines already in update; and a node still labelled
`selected-for-update` while its machine is not, whose machine the selection labels without
counting it. Without them the function keeps
it (`reconcileOldMachineSetsInPlace_keeps_availability`): the budget is the available count
less the machines already in update, so every machine it selects is paid out of the surplus
over `minAvailable`.
-/

namespace MachineControllerManager

/-! ### Counts that fit in an `int32` -/

/-- The counts the gate and the budget add up are non-negative and far enough from the
`int32` limit that none of their sums and differences wraps: the replicas and available
replicas of `allISs`, a machine of `c` per old set for the machines in update, and the
deployment's replicas and `maxUnavailable`. -/
structure CountsFit (c : Cluster) (allISs oldISs : List MachineSet) (d : MachineDeployment) :
    Prop where
  replicas_nonneg : ∀ is ∈ allISs, 0 ≤ is.replicas.toInt
  available_nonneg : ∀ is ∈ allISs, 0 ≤ is.availableReplicas.toInt
  deployment_nonneg : 0 ≤ d.replicas.toInt
  maxUnavailable_nonneg : 0 ≤ (maxUnavailable d).toInt
  fits : (allISs.map fun is => is.replicas.toInt).sum +
      (allISs.map fun is => is.availableReplicas.toInt).sum +
      oldISs.length * c.machines.length + d.replicas.toInt + (maxUnavailable d).toInt <
    2147483648

/-- The sum of `a - b` over a list is the difference of the sums. -/
theorem sum_map_sub_toInt (l : List MachineSet) (a b : MachineSet → Int32) :
    (l.map fun is => (a is).toInt - (b is).toInt).sum =
      (l.map fun is => (a is).toInt).sum - (l.map fun is => (b is).toInt).sum := by
  induction l with
  | nil => rfl
  | cons is l ih => simp only [List.map_cons, List.sum_cons, ih]; omega

namespace CountsFit

variable {c : Cluster} {allISs oldISs : List MachineSet} {d : MachineDeployment}
  (h : CountsFit c allISs oldISs d)
include h

/-- The replicas add up to a non-negative count. -/
theorem replicas_sum_nonneg : 0 ≤ (allISs.map fun is => is.replicas.toInt).sum :=
  List.sum_nonneg fun _ hx => by
    obtain ⟨is, his, rfl⟩ := List.mem_map.mp hx; exact h.replicas_nonneg is his

/-- The available replicas add up to a non-negative count. -/
theorem available_sum_nonneg : 0 ≤ (allISs.map fun is => is.availableReplicas.toInt).sum :=
  List.sum_nonneg fun _ hx => by
    obtain ⟨is, his, rfl⟩ := List.mem_map.mp hx; exact h.available_nonneg is his

/-- A set's replicas are at most the total. -/
theorem replicas_le_sum {is : MachineSet} (his : is ∈ allISs) :
    is.replicas.toInt ≤ (allISs.map fun is => is.replicas.toInt).sum :=
  @List.single_le_sum ℤ _ _ (fun _ hx => by
    obtain ⟨is, his, rfl⟩ := List.mem_map.mp hx; exact h.replicas_nonneg is his) _
    (List.mem_map_of_mem _ his)

/-- A set's available replicas are at most the total. -/
theorem available_le_sum {is : MachineSet} (his : is ∈ allISs) :
    is.availableReplicas.toInt ≤ (allISs.map fun is => is.availableReplicas.toInt).sum :=
  @List.single_le_sum ℤ _ _ (fun _ hx => by
    obtain ⟨is, his, rfl⟩ := List.mem_map.mp hx; exact h.available_nonneg is his) _
    (List.mem_map_of_mem _ his)

/-- What `omega` needs to know of the sums: each is non-negative, and together they fit. -/
theorem sums_bounded :
    0 ≤ (allISs.map fun is => is.replicas.toInt).sum ∧
    0 ≤ (allISs.map fun is => is.availableReplicas.toInt).sum ∧
    (0 : Int) ≤ oldISs.length * c.machines.length ∧ 0 ≤ d.replicas.toInt ∧
    0 ≤ (maxUnavailable d).toInt ∧
    (allISs.map fun is => is.replicas.toInt).sum +
      (allISs.map fun is => is.availableReplicas.toInt).sum +
      oldISs.length * c.machines.length + d.replicas.toInt + (maxUnavailable d).toInt <
    2147483648 :=
  ⟨h.replicas_sum_nonneg, h.available_sum_nonneg,
    Int.mul_nonneg (Int.natCast_nonneg _) (Int.natCast_nonneg _), h.deployment_nonneg,
    h.maxUnavailable_nonneg, h.fits⟩

/-- The machines in update, counted set by set, and at most a machine of `c` per old set. -/
theorem undergoingUpdate_toInt :
    (getMachinesUndergoingUpdate c oldISs).toInt = (oldISs.map fun is => ((c.listMachines
      (mergeStringMaps is.selector [(labelKeyMachineSelectedForUpdate, "true")])).length : Int)).sum ∧
    0 ≤ (getMachinesUndergoingUpdate c oldISs).toInt ∧
    (getMachinesUndergoingUpdate c oldISs).toInt ≤ oldISs.length * c.machines.length := by
  obtain ⟨hS, hA, hP, hr, hmu, hfit⟩ := h.sums_bounded
  obtain ⟨heq, hle⟩ := getMachinesUndergoingUpdate_toInt c oldISs (by omega)
  exact ⟨heq, heq ▸ List.sum_nonneg fun _ hx => by
    obtain ⟨is, -, rfl⟩ := List.mem_map.mp hx; exact Int.natCast_nonneg _, hle⟩

/-- `minAvailable` does not wrap. -/
theorem minAvailable_toInt :
    (d.replicas - maxUnavailable d).toInt = d.replicas.toInt - (maxUnavailable d).toInt := by
  obtain ⟨hS, hA, hP, hr, hmu, hfit⟩ := h.sums_bounded
  exact Int32.toInt_sub (by omega) (by omega)

/-- **The budget** `selectMachineForUpdate` computes, as an integer. -/
theorem budget_toInt :
    (getAvailableReplicaCountForMachineSets allISs - getMachinesUndergoingUpdate c oldISs -
        (d.replicas - maxUnavailable d)).toInt =
      (allISs.map fun is => is.availableReplicas.toInt).sum -
        (getMachinesUndergoingUpdate c oldISs).toInt -
        (d.replicas.toInt - (maxUnavailable d).toInt) := by
  obtain ⟨hS, hA, hP, hr, hmu, hfit⟩ := h.sums_bounded
  obtain ⟨-, hU0, hU⟩ := h.undergoingUpdate_toInt
  exact Int32.toInt_sub_eq (Int32.toInt_sub_eq
    (getAvailableReplicaCountForMachineSets_toInt h.available_nonneg (by omega)) rfl
    (by omega) (by omega)) h.minAvailable_toInt (by omega) (by omega)

/-- **The gate's count** `maxUpdatePossible`, as an integer, for a new set among `allISs`. -/
theorem maxUpdatePossible_toInt {newIS : MachineSet} (hnew : newIS ∈ allISs) :
    (getReplicaCountForMachineSets allISs - (d.replicas - maxUnavailable d) -
        (newIS.replicas - newIS.availableReplicas) - getMachinesUndergoingUpdate c oldISs).toInt =
      (allISs.map fun is => is.replicas.toInt).sum -
        (d.replicas.toInt - (maxUnavailable d).toInt) -
        (newIS.replicas.toInt - newIS.availableReplicas.toInt) -
        (getMachinesUndergoingUpdate c oldISs).toInt := by
  obtain ⟨hS, hA, hP, hr, hmu, hfit⟩ := h.sums_bounded
  obtain ⟨-, hU0, hU⟩ := h.undergoingUpdate_toInt
  have := h.replicas_nonneg newIS hnew
  have := h.available_nonneg newIS hnew
  have := h.replicas_le_sum hnew
  have := h.available_le_sum hnew
  exact Int32.toInt_sub_eq (Int32.toInt_sub_eq (Int32.toInt_sub_eq
    (getReplicaCountForMachineSets_toInt h.replicas_nonneg (by omega)) h.minAvailable_toInt
    (by omega) (by omega)) (Int32.toInt_sub_eq rfl rfl (by omega) (by omega))
    (by omega) (by omega)) rfl (by omega) (by omega)

/-- **The budget is within the gate** when no set reports more available machines than its
replicas: the budget counts every set's available machines, the gate their replicas less the
new set's unavailable ones. -/
theorem budget_le_maxUpdatePossible {newIS : MachineSet} (hnew : newIS ∈ allISs)
    (havail : ∀ is ∈ allISs, is.availableReplicas.toInt ≤ is.replicas.toInt) :
    (getAvailableReplicaCountForMachineSets allISs - getMachinesUndergoingUpdate c oldISs -
        (d.replicas - maxUnavailable d)).toInt ≤
      (getReplicaCountForMachineSets allISs - (d.replicas - maxUnavailable d) -
        (newIS.replicas - newIS.availableReplicas) - getMachinesUndergoingUpdate c oldISs).toInt := by
  have hgap : newIS.replicas.toInt - newIS.availableReplicas.toInt ≤
      (allISs.map fun is => is.replicas.toInt).sum -
        (allISs.map fun is => is.availableReplicas.toInt).sum := by
    rw [← sum_map_sub_toInt]
    exact @List.single_le_sum ℤ _ _ (fun _ hx => by
      obtain ⟨is, his, rfl⟩ := List.mem_map.mp hx; have := havail is his; omega) _
      (List.mem_map_of_mem (fun is => is.replicas.toInt - is.availableReplicas.toInt) hnew)
  rw [h.budget_toInt, h.maxUpdatePossible_toInt hnew]
  omega

end CountsFit

/-! ### The gate and the budget -/

/-- **The machines selected are within the gate**: from a handshake world whose counts fit,
when no set reports more available machines than its replicas, `reconcileOldMachineSetsInPlace`
newly labels at most `max 0 maxUpdatePossible` machines selected-for-update, with
`maxUpdatePossible` computed as the function computes it, whatever the servers answer. -/
theorem reconcileOldMachineSetsInPlace_newlySelected_le (allISs oldISs : List MachineSet)
    (newIS : MachineSet) (d : MachineDeployment) (w : World) (hw : Handshake w)
    (hfit : CountsFit w.cache allISs oldISs d) (hnew : newIS ∈ allISs)
    (havail : ∀ is ∈ allISs, is.availableReplicas.toInt ≤ is.replicas.toInt) :
    ((newlySelectedForUpdate w.store
        (reconcileOldMachineSetsInPlace allISs oldISs newIS d w).2.store).length : Int) ≤
      max 0 (getReplicaCountForMachineSets allISs - (d.replicas - maxUnavailable d) -
        (newIS.replicas - newIS.availableReplicas) -
        getMachinesUndergoingUpdate w.cache oldISs).toInt := by
  rcases reconcileOldMachineSetsInPlace_cases allISs oldISs newIS d w with h | ⟨-, h⟩ | ⟨-, h⟩
  · simp [h]
  · simp [h, newlySelectedForUpdate_of_machines_eq (scaleToZeroLoop_machines oldISs w)]
  · rw [h]
    exact (selectMachineForUpdate_newlySelected_le hw allISs oldISs d _).2.trans
      (max_le_max le_rfl (hfit.budget_le_maxUpdatePossible hnew havail))

/-- An old set of two replicas reporting `available` available machines, selector
`pool=old`. -/
def availabilityExampleOldIS (available : Int32) : MachineSet :=
  { name := "machineset-old", uid := "uid-old", labels := [], selector := [("pool", "old")]
    replicas := 2, statusReplicas := 2, availableReplicas := available, creationTimestamp := 0
    resourceVersion := 1 }

/-- The new set, of `replicas` replicas of which `available` are available. -/
def availabilityExampleNewIS (replicas available : Int32) : MachineSet :=
  { name := "machineset-new", uid := "uid-new", labels := [], selector := [("pool", "new")]
    replicas := replicas, statusReplicas := replicas, availableReplicas := available
    creationTimestamp := 1, resourceVersion := 1 }

/-- A candidate machine of the old set, not yet on a node. -/
def availabilityExampleMachine (i : String) : Machine :=
  { name := "machine-" ++ i, uid := "uid-machine-" ++ i, controller := some "machineset-old"
    labels := [("pool", "old"), (labelKeyMachineCandidateForUpdate, "true")] }

/-- The old set reporting `oldAvailable` available machines, with its two machines, and the
new set of `newReplicas` replicas of which `newAvailable` are available. -/
def availabilityExampleCluster (oldAvailable newReplicas newAvailable : Int32) : Cluster :=
  { machineSets := [availabilityExampleOldIS oldAvailable,
      availabilityExampleNewIS newReplicas newAvailable]
    machines := [availabilityExampleMachine "0", availabilityExampleMachine "1"]
    nodes := [], controlNodes := []
    machineSets_nodup := (by decide : ["machineset-old", "machineset-new"].Nodup)
    machines_nodup := by decide, nodes_nodup := by decide, controlNodes_nodup := by decide }

/-- A deployment of three replicas, one of which may be unavailable. -/
def availabilityExampleDeployment : MachineDeployment :=
  { replicas := 3, maxUnavailable := 1, revisionHistoryLimit := none, complete := false }

/-- **A lagging status lets the budget pass the gate**: the old set of two replicas still
reports four available machines. The gate counts replicas, `3 - 2 - 0 - 0 = 1`; the budget
counts available machines, `5 - 0 - 2 = 3`; both machines of the old set are selected. -/
theorem reconcileOldMachineSetsInPlace_exceeds_maxUpdatePossible :
    (getReplicaCountForMachineSets [availabilityExampleOldIS 4, availabilityExampleNewIS 1 1] -
      (availabilityExampleDeployment.replicas - maxUnavailable availabilityExampleDeployment) -
      ((availabilityExampleNewIS 1 1).replicas - (availabilityExampleNewIS 1 1).availableReplicas) -
      getMachinesUndergoingUpdate (availabilityExampleCluster 4 1 1)
        [availabilityExampleOldIS 4]).toInt = 1 ∧
    newlySelectedForUpdate (availabilityExampleCluster 4 1 1)
      (reconcileOldMachineSetsInPlace [availabilityExampleOldIS 4, availabilityExampleNewIS 1 1]
        [availabilityExampleOldIS 4] (availabilityExampleNewIS 1 1) availabilityExampleDeployment
        (World.init (availabilityExampleCluster 4 1 1) [] true false)).2.store =
      ["machine-0", "machine-1"] := by
  decide

/-- The handshake holds in the example world of a set with its replicas available: no node
is labelled, and no machine is on a node. -/
theorem availabilityExample_handshake :
    Handshake (World.init (availabilityExampleCluster 2 1 1) [] true false) :=
  ⟨rfl, by decide, by decide⟩

/-- With the old set reporting no more available machines than its replicas, the gate's count
is 1 and bounds the selection. -/
theorem reconcileOldMachineSetsInPlace_newlySelected_le_example :
    ((newlySelectedForUpdate (availabilityExampleCluster 2 1 1)
      (reconcileOldMachineSetsInPlace [availabilityExampleOldIS 2, availabilityExampleNewIS 1 1]
        [availabilityExampleOldIS 2] (availabilityExampleNewIS 1 1) availabilityExampleDeployment
        (World.init (availabilityExampleCluster 2 1 1) [] true false)).2.store).length : Int) ≤
      max 0 (getReplicaCountForMachineSets [availabilityExampleOldIS 2, availabilityExampleNewIS 1 1] -
        (availabilityExampleDeployment.replicas - maxUnavailable availabilityExampleDeployment) -
        ((availabilityExampleNewIS 1 1).replicas -
          (availabilityExampleNewIS 1 1).availableReplicas) -
        getMachinesUndergoingUpdate (availabilityExampleCluster 2 1 1)
          [availabilityExampleOldIS 2]).toInt :=
  reconcileOldMachineSetsInPlace_newlySelected_le
    [availabilityExampleOldIS 2, availabilityExampleNewIS 1 1] [availabilityExampleOldIS 2]
    (availabilityExampleNewIS 1 1) availabilityExampleDeployment
    (World.init (availabilityExampleCluster 2 1 1) [] true false) availabilityExample_handshake
    ⟨by decide, by decide, by decide, by decide, by decide⟩ (by decide) (by decide)

/-! ### The availability invariant -/

end MachineControllerManager
