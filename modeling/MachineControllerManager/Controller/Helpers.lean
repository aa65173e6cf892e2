import MachineControllerManager.Api.Run
import Mathlib.Data.List.Sort
import Mathlib.Algebra.Order.BigOperators.Group.List
import Mathlib.Algebra.Ring.Int.Defs
import Mathlib.Data.String.Basic

/-!
# The helpers `deployment_inplace.go` calls

These functions live elsewhere in `pkg/controller` and are not part of the source; each is
modelled from the spec and from how its call sites use it.
`scaleMachineSetAndRecordEvent` writes an absolute replica count through an `Update` of a
copy of the machine set it is given, and makes no call when that copy already has the
count. The replica sums accumulate in `int32`, like every count of the rollout.
-/

namespace MachineControllerManager

/-- Go's `int32` sum of a slice, accumulated left to right. -/
def Int32.sum (l : List Int32) : Int32 := l.foldl (· + ·) 0

/-- The left fold of non-negative `int32`s from a non-negative start does not wrap while the
exact total stays in range. -/
private theorem Int32.toInt_foldl_add {l : List Int32} (hnn : ∀ x ∈ l, 0 ≤ x.toInt) :
    ∀ {acc : Int32}, 0 ≤ acc.toInt → acc.toInt + (l.map Int32.toInt).sum < 2147483648 →
      (l.foldl (· + ·) acc).toInt = acc.toInt + (l.map Int32.toInt).sum := by
  induction l with
  | nil => intro acc _ _; simp
  | cons x l ih =>
    intro acc h0 hs
    have hx := hnn x (List.mem_cons_self x l)
    have hl : 0 ≤ (l.map Int32.toInt).sum :=
      List.sum_nonneg (List.forall_mem_map.mpr fun z hz => hnn z (List.mem_cons_of_mem x hz))
    simp only [List.foldl_cons, List.map_cons, List.sum_cons] at hs ⊢
    have hadd : (acc + x).toInt = acc.toInt + x.toInt := Int32.toInt_add (by omega) (by omega)
    rw [ih (fun y hy => hnn y (List.mem_cons_of_mem x hy)) (by omega) (by omega), hadd]
    omega

/-- Without overflow, the `int32` sum of non-negative values is their sum. -/
theorem Int32.toInt_sum {l : List Int32} (hnn : ∀ x ∈ l, 0 ≤ x.toInt)
    (hlt : (l.map Int32.toInt).sum < 2147483648) :
    (Int32.sum l).toInt = (l.map Int32.toInt).sum := by
  simpa using @Int32.toInt_foldl_add l hnn 0 (by simp) (by simpa using hlt)

/-- The `int32` sum of counts of at most `k` each over `l`: when `l.length * k` fits, it is the
counts' sum, which is at most `l.length * k`. -/
theorem Int32.toInt_sum_ofInt_le {α : Type} (l : List α) (f : α → Nat) {k : Nat}
    (hf : ∀ a ∈ l, f a ≤ k) (h : l.length * k < 2147483648) :
    (Int32.sum (l.map fun a => Int32.ofInt (f a))).toInt = (l.map fun a => (f a : Int)).sum ∧
      (l.map fun a => (f a : Int)).sum ≤ l.length * k := by
  have hterm : ∀ a ∈ l, (Int32.ofInt (f a)).toInt = f a := fun a ha =>
    Int32.toInt_ofInt_natCast (by
      have := hf a ha; have := Nat.le_mul_of_pos_left k (List.length_pos_of_mem ha); omega)
  have hsum : (l.map fun a => (f a : Int)).sum ≤ l.length * k := by
    have := List.sum_le_card_nsmul (l.map fun a => (f a : Int)) k
      (List.forall_mem_map.mpr fun a ha => Int.ofNat_le.mpr (hf a ha))
    rwa [List.length_map] at this
  have hmap : (l.map fun a => Int32.ofInt (f a)).map Int32.toInt = l.map fun a => (f a : Int) := by
    rw [List.map_map, Function.comp_def]; exact List.map_congr_left hterm
  refine ⟨?_, hsum⟩
  rw [Int32.toInt_sum _ (by rw [hmap]; omega), hmap]
  exact List.forall_mem_map.mpr fun a ha => (hterm a ha).symm ▸ Int.natCast_nonneg _

/-- Modelled from the spec: `GetReplicaCountForMachineSets`, not in the source, is the
`int32` sum of `Spec.Replicas` (the spec's "allCount"). -/
def getReplicaCountForMachineSets (l : List MachineSet) : Int32 :=
  Int32.sum (l.map MachineSet.replicas)

/-- Modelled from the spec: `GetAvailableReplicaCountForMachineSets`, not in the source, is
the `int32` sum of `Status.AvailableReplicas`. -/
def getAvailableReplicaCountForMachineSets (l : List MachineSet) : Int32 :=
  Int32.sum (l.map MachineSet.availableReplicas)

/-- Without overflow, `getReplicaCountForMachineSets` is the sum of the replicas. -/
theorem getReplicaCountForMachineSets_toInt {l : List MachineSet}
    (hnn : ∀ is ∈ l, 0 ≤ is.replicas.toInt)
    (hlt : (l.map fun is => is.replicas.toInt).sum < 2147483648) :
    (getReplicaCountForMachineSets l).toInt = (l.map fun is => is.replicas.toInt).sum := by
  unfold getReplicaCountForMachineSets
  rw [Int32.toInt_sum (List.forall_mem_map.mpr hnn) (by rw [List.map_map]; exact hlt), List.map_map]
  rfl

/-- Without overflow, `getAvailableReplicaCountForMachineSets` is the sum of the available
replicas. -/
theorem getAvailableReplicaCountForMachineSets_toInt {l : List MachineSet}
    (hnn : ∀ is ∈ l, 0 ≤ is.availableReplicas.toInt)
    (hlt : (l.map fun is => is.availableReplicas.toInt).sum < 2147483648) :
    (getAvailableReplicaCountForMachineSets l).toInt =
      (l.map fun is => is.availableReplicas.toInt).sum := by
  unfold getAvailableReplicaCountForMachineSets
  rw [Int32.toInt_sum (List.forall_mem_map.mpr hnn) (by rw [List.map_map]; exact hlt), List.map_map]
  rfl

/-- `MaxUnavailable(*deployment)`: not in the source, taken as the deployment's given
value. -/
def maxUnavailable (d : MachineDeployment) : Int32 := d.maxUnavailable

/-- Modelled from the spec: `FilterActiveMachineSets`, not in the source, keeps the sets with
`Spec.Replicas > 0`. -/
def filterActiveMachineSets (l : List MachineSet) : List MachineSet :=
  l.filter fun is => decide (0 < is.replicas)

/-- The active sets are among the sets given. -/
theorem filterActiveMachineSets_subset (l : List MachineSet) : filterActiveMachineSets l ⊆ l :=
  fun _ h => (List.mem_filter.mp h).1

/-- Modelled from the spec: `dc.machineSetsScaledToZero`, not in the source, holds when
every set has `Spec.Replicas = 0` ("all old MSs scaled to zero"). -/
def machineSetsScaledToZero (l : List MachineSet) : Bool :=
  l.all fun is => is.replicas == 0

/-- Modelled from the spec: `sort.Sort(MachineSetsByCreationTimestamp(l))`, whose order is
not in the source, puts the oldest set first ("ascending creation time"), ties by name. -/
def sortMachineSetsByCreationTimestamp (l : List MachineSet) : List MachineSet :=
  l.insertionSort fun a b =>
    a.creationTimestamp < b.creationTimestamp ∨
      (a.creationTimestamp = b.creationTimestamp ∧ a.name ≤ b.name)

/-- Modelled from the spec: `getMachineFromNode(machines, node)`, not in the source, finds
the first machine whose node label names the node (a machine holds its node "by name via a
Machine label"); `none` is its "machine not found" error. -/
def getMachineFromNode (machines : List Machine) (node : Node) : Option Machine :=
  machines.find? fun m => m.labels.get nodeLabelKey == node.name

/-- Modelled from the spec: `filterMachinesWithUpdateSuccessfulLabel`, not in the source,
keeps the machines labelled update-successful. -/
def filterMachinesWithUpdateSuccessfulLabel (machines : List Machine) : List Machine :=
  machines.filter fun m => m.labels.get labelKeyMachineUpdateSuccessful == "true"

/-- Modelled from the spec: `removeLabels(keys)`, not in the source, is the merge patch that
deletes the keys ("remove all the label"). -/
def removeLabels (keys : List String) : MachinePatch := { removedLabels := keys }

/-- Modelled from the spec: `scaleMachineSetAndRecordEvent(is, newScale, deployment)`, not in
the source, makes no call when the copy `is` already has `newScale` replicas, and otherwise
writes the absolute count by an `Update` of `is` with `Spec.Replicas` set to `newScale`,
reporting whether it scaled. -/
def scaleMachineSetAndRecordEvent (is : MachineSet) (newScale : Int32) (w : World) :
    (Bool × Option GoError) × World :=
  if is.replicas = newScale then ((false, none), w)
  else
    let (err, w) := updateMachineSet { is with replicas := newScale } w
    ((err.isNone, err), w)

/-- Scaling writes a machine set only: the stored machines and nodes stay. -/
theorem scaleMachineSetAndRecordEvent_store (is : MachineSet) (newScale : Int32) (w : World) :
    (scaleMachineSetAndRecordEvent is newScale w).2.store.machines = w.store.machines ∧
      (scaleMachineSetAndRecordEvent is newScale w).2.store.nodes = w.store.nodes := by
  unfold scaleMachineSetAndRecordEvent
  split
  · exact ⟨rfl, rfl⟩
  · have hs := updateMachineSet_settles
      (@Prod.mk.eta _ _ (updateMachineSet { is with replicas := newScale } w)).symm
    exact hs.store (fun c => c.machines = w.store.machines ∧ c.nodes = w.store.nodes) ⟨rfl, rfl⟩
      fun _ _ h => by obtain ⟨s, -, -, rfl⟩ := Cluster.applyUpdateMachineSet_ok _ h; exact ⟨rfl, rfl⟩

/-- A scale of a set of the snapshot is a run. -/
theorem scaleMachineSetAndRecordEvent_reaches {S : List MachineSet} {is : MachineSet} (hs : is ∈ S)
    (newScale : Int32) (w : World) : Reaches S w (scaleMachineSetAndRecordEvent is newScale w).2 := by
  unfold scaleMachineSetAndRecordEvent
  split
  · exact .refl
  · exact .of_updateMachineSet hs rfl

end MachineControllerManager
