import MachineControllerManager.Go.Int32
import MachineControllerManager.Api.Labels

/-!
# Machines, machine sets, nodes and the cluster that holds them

The fields of `v1alpha1.Machine`, `v1alpha1.MachineSet`, `v1alpha1.MachineDeployment` and
`v1.Node` that `deployment_inplace.go` reads or writes, and nothing else. A `Cluster` is the
content of the API servers: the control cluster's machine sets and machines, the target
cluster's nodes, and the control cluster's own `Node` objects (what `controlCoreClient`
writes to). Names are unique per kind, a field of the structure, so a cluster with two
objects of one name cannot be built.

The listers of `dc` read a `Cluster` too, the informer cache; `Cluster.listMachines`,
`Cluster.getNode` and `Cluster.listNodes` are `machineLister.List`, `nodeLister.Get` and
`nodeLister.List`.
-/

namespace MachineControllerManager

/-- A `v1alpha1.Machine`: its name and uid, its labels and its controller owner reference,
the name of the owning machine set. -/
structure Machine where
  name : String
  uid : String
  labels : Labels
  controller : Option String
  deriving DecidableEq, Repr

/-- A `v1.Node`: labels and `Spec.Unschedulable`, with the resource version the API server
compares on `Update`. -/
structure Node where
  name : String
  labels : Labels
  unschedulable : Bool
  resourceVersion : Nat
  deriving DecidableEq, Repr

/-- A `v1alpha1.MachineSet`. `selector` is `Spec.Selector.MatchLabels`, `replicas` is
`Spec.Replicas`; `statusReplicas` and `availableReplicas` are `Status.Replicas` and
`Status.AvailableReplicas`. -/
structure MachineSet where
  name : String
  uid : String
  labels : Labels
  selector : Labels
  replicas : Int32
  statusReplicas : Int32
  availableReplicas : Int32
  creationTimestamp : Nat
  resourceVersion : Nat
  deriving DecidableEq, Repr

/-- The parts of a `v1alpha1.MachineDeployment` the in-place rollout reads. `maxUnavailable`
is the value `MaxUnavailable(d)` returns and `complete` the value of
`MachineDeploymentComplete(d, &d.Status)`: both helpers are outside the source, so their
results are taken as given. `revisionHistoryLimit` is `Spec.RevisionHistoryLimit`. -/
structure MachineDeployment where
  replicas : Int32
  maxUnavailable : Int32
  revisionHistoryLimit : Option Int32
  complete : Bool
  deriving DecidableEq, Repr

/-- Replace, in a list of named objects, the object of `x`'s name by `x`. -/
def replaceNamed {α : Type} (name : α → String) (l : List α) (x : α) : List α :=
  l.map fun y => if name y = name x then x else y

/-- A replacement keeps the names. -/
@[simp]
theorem map_name_replaceNamed {α : Type} (name : α → String) (l : List α) (x : α) :
    (replaceNamed name l x).map name = l.map name := by
  simp only [replaceNamed, List.map_map]
  congr 1
  funext y
  by_cases h : name y = name x <;> simp [h]

/-- A replacement keeps the length. -/
@[simp]
theorem length_replaceNamed {α : Type} (name : α → String) (l : List α) (x : α) :
    (replaceNamed name l x).length = l.length :=
  List.length_map _ _

/-- After a replacement an object is the replacement, or one of before of another name. -/
theorem mem_replaceNamed {α : Type} {name : α → String} {l : List α} {x y : α}
    (h : y ∈ replaceNamed name l x) : y = x ∨ (y ∈ l ∧ name y ≠ name x) := by
  obtain ⟨z, hz, rfl⟩ := List.mem_map.mp h
  by_cases hn : name z = name x
  · simp [hn]
  · simp [hn, hz]

/-- Finding a name after a replacement finds the replacement, where the name was there. -/
theorem find?_replaceNamed {α : Type} (name : α → String) (l : List α) (x : α) (n : String) :
    (replaceNamed name l x).find? (fun y => name y == n) =
      if name x = n then (l.find? fun y => name y == n).map fun _ => x
      else l.find? fun y => name y == n := by
  induction l with
  | nil => split <;> rfl
  | cons y l ih =>
    simp only [replaceNamed, List.map_cons] at ih ⊢
    by_cases hy : name y = name x <;> by_cases hx : name x = n <;>
      simp_all [List.find?_cons]

/-- Filtering keeps the names distinct. -/
theorem nodup_map_filter {α : Type} (name : α → String) {l : List α} (p : α → Bool)
    (h : (l.map name).Nodup) : ((l.filter p).map name).Nodup :=
  h.sublist ((List.filter_sublist l).map name)

/-- The content of the API servers (or of the informer cache). -/
structure Cluster where
  machineSets : List MachineSet
  machines : List Machine
  /-- The target cluster's nodes. -/
  nodes : List Node
  /-- The control cluster's `Node` objects. -/
  controlNodes : List Node
  machineSets_nodup : (machineSets.map MachineSet.name).Nodup
  machines_nodup : (machines.map Machine.name).Nodup
  nodes_nodup : (nodes.map Node.name).Nodup
  controlNodes_nodup : (controlNodes.map Node.name).Nodup

namespace Cluster

variable (c : Cluster)

/-- `machineLister.List(labels.SelectorFromSet(sel))`, in the cache's order. -/
def listMachines (sel : Labels) : List Machine :=
  c.machines.filter fun m => sel.selects m.labels

/-- `nodeLister.List(labels.SelectorFromSet(sel))`. -/
def listNodes (sel : Labels) : List Node :=
  c.nodes.filter fun n => sel.selects n.labels

/-- `nodeLister.Get(name)`; `none` is the lister's `NotFound`. -/
def getNode (n : String) : Option Node :=
  c.nodes.find? fun x => x.name == n

/-- The machine of a name. -/
def getMachine (n : String) : Option Machine :=
  c.machines.find? fun x => x.name == n

/-- The machine set of a name. -/
def getMachineSet (n : String) : Option MachineSet :=
  c.machineSets.find? fun x => x.name == n

/-- The node found by name is stored under that name. -/
theorem getNode_eq_some {n : String} {x : Node} (h : c.getNode n = some x) :
    x ∈ c.nodes ∧ x.name = n :=
  ⟨List.mem_of_find?_eq_some h, by simpa using List.find?_some h⟩

/-- The machine found by name is stored under that name. -/
theorem getMachine_eq_some {n : String} {x : Machine} (h : c.getMachine n = some x) :
    x ∈ c.machines ∧ x.name = n :=
  ⟨List.mem_of_find?_eq_some h, by simpa using List.find?_some h⟩

/-- The machine set found by name is stored under that name. -/
theorem getMachineSet_eq_some {n : String} {x : MachineSet} (h : c.getMachineSet n = some x) :
    x ∈ c.machineSets ∧ x.name = n :=
  ⟨List.mem_of_find?_eq_some h, by simpa using List.find?_some h⟩

/-- Store `m`, replacing the machine of its name. -/
def setMachine (m : Machine) : Cluster :=
  { c with machines := replaceNamed Machine.name c.machines m
           machines_nodup := by simpa using c.machines_nodup }

/-- Store `ms`, replacing the machine set of its name. -/
def setMachineSet (ms : MachineSet) : Cluster :=
  { c with machineSets := replaceNamed MachineSet.name c.machineSets ms
           machineSets_nodup := by simpa using c.machineSets_nodup }

/-- Delete the machine set of a name. -/
def deleteMachineSet (n : String) : Cluster :=
  { c with machineSets := c.machineSets.filter fun x => x.name != n
           machineSets_nodup := nodup_map_filter _ _ c.machineSets_nodup }

/-- Store `x` in the target cluster, replacing the node of its name. -/
def setNode (x : Node) : Cluster :=
  { c with nodes := replaceNamed Node.name c.nodes x
           nodes_nodup := by simpa using c.nodes_nodup }

/-- Store `x` in the control cluster, replacing the node of its name. -/
def setControlNode (x : Node) : Cluster :=
  { c with controlNodes := replaceNamed Node.name c.controlNodes x
           controlNodes_nodup := by simpa using c.controlNodes_nodup }

/-- The cache `c` after the machine informer has delivered every write of `store`. -/
def refreshMachines (store : Cluster) : Cluster :=
  { c with machines := store.machines, machines_nodup := store.machines_nodup }

/-- The cache `c` after the machine-set informer has delivered every write of `store`. -/
def refreshMachineSets (store : Cluster) : Cluster :=
  { c with machineSets := store.machineSets, machineSets_nodup := store.machineSets_nodup }

/-- The cache `c` after the node informer has delivered every write of `store`. -/
def refreshNodes (store : Cluster) : Cluster :=
  { c with nodes := store.nodes, nodes_nodup := store.nodes_nodup }

/-- A cluster's machine sets are read from its list of machine sets alone. -/
theorem getMachineSet_congr {c' : Cluster} (h : c'.machineSets = c.machineSets) :
    c'.getMachineSet = c.getMachineSet := by
  funext n; simp only [getMachineSet, h]

/-- Reading a set back after storing one: the stored set under its name, the rest as they
were. -/
theorem getMachineSet_setMachineSet (ms : MachineSet) (n : String) :
    (c.setMachineSet ms).getMachineSet n =
      if ms.name = n then (c.getMachineSet n).map fun _ => ms else c.getMachineSet n :=
  find?_replaceNamed _ _ _ _

@[simp] theorem setMachine_machineSets (m : Machine) :
    (c.setMachine m).machineSets = c.machineSets := rfl
@[simp] theorem setMachine_nodes (m : Machine) : (c.setMachine m).nodes = c.nodes := rfl
@[simp] theorem setMachineSet_machines (ms : MachineSet) :
    (c.setMachineSet ms).machines = c.machines := rfl
@[simp] theorem setMachineSet_nodes (ms : MachineSet) :
    (c.setMachineSet ms).nodes = c.nodes := rfl
@[simp] theorem deleteMachineSet_machines (n : String) :
    (c.deleteMachineSet n).machines = c.machines := rfl
@[simp] theorem deleteMachineSet_nodes (n : String) :
    (c.deleteMachineSet n).nodes = c.nodes := rfl
@[simp] theorem setNode_machines (x : Node) : (c.setNode x).machines = c.machines := rfl
@[simp] theorem setNode_machineSets (x : Node) :
    (c.setNode x).machineSets = c.machineSets := rfl
@[simp] theorem setControlNode_machines (x : Node) :
    (c.setControlNode x).machines = c.machines := rfl
@[simp] theorem setControlNode_machineSets (x : Node) :
    (c.setControlNode x).machineSets = c.machineSets := rfl
@[simp] theorem setControlNode_nodes (x : Node) : (c.setControlNode x).nodes = c.nodes := rfl

end Cluster

end MachineControllerManager
