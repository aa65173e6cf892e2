import MachineControllerManager.Controller.Rollout

/-!
# What a pass of the rollout leaves when it succeeds

The passes of `rolloutAutoInPlace` return `nil` only after every write they meant to make
went through. This module states what the store then holds, for every input world: whatever
the caches lag, and whatever the store held before.

* `Cluster.MachineHas c n P` and `Cluster.NodeHas c n P` read one stored object by name. A
  call keeps such a fact when what it writes to that name keeps `P`
  (`MachineHas.patch`, `NodeHas.update`, `MachineSetHas.patch`), and a successful call
  establishes it for the name it writes (`MachineHas.of_patch_ok`, `NodeHas.of_update_ok`,
  `MachineSetHas.of_patch_ok`).
* Each loop is then two lemmas: what it keeps for every name, and, on success, what it
  establishes for the names it was handed; a later iteration never undoes an earlier one,
  because all the loop's writes are of one kind.
* **The harvest** (`syncMachineSets_harvests`): when `syncMachineSets` succeeds, each machine
  of the new set that was listed with `update-successful` no longer carries
  selected-for-update, drain-successful or update-successful, and the node of *every* listed
  machine of the new set is schedulable and carries neither update-successful nor
  ready-for-update.
* **Skip-update** (`labelMachineSets_labels`): when `labelMachineSets` succeeds, every set it
  was handed carries the labels in the store.
* **Selection** (`labelMachinesToSelectedForUpdate_selects`): when
  `labelMachinesToSelectedForUpdate` succeeds, every machine `getMachinesForDrain` chose is
  stored with selected-for-update.
-/

namespace MachineControllerManager

/-! ### One stored object, read by name -/

/-- The stored machine named `n` exists and satisfies `P`. -/
def Cluster.MachineHas (c : Cluster) (n : String) (P : Machine → Prop) : Prop :=
  ∃ m, c.getMachine n = some m ∧ P m

/-- The stored target node named `n` exists and satisfies `P`. -/
def Cluster.NodeHas (c : Cluster) (n : String) (P : Node → Prop) : Prop :=
  ∃ x, c.getNode n = some x ∧ P x

/-- The stored machine set named `n` exists and satisfies `P`. -/
def Cluster.MachineSetHas (c : Cluster) (n : String) (P : MachineSet → Prop) : Prop :=
  ∃ s, c.getMachineSet n = some s ∧ P s

/-- Storing a machine replaces the machine of its name and leaves the others. -/
theorem Cluster.getMachine_setMachine (c : Cluster) (x : Machine) (n : String) :
    (c.setMachine x).getMachine n =
      if x.name = n then (c.getMachine n).map fun _ => x else c.getMachine n :=
  find?_replaceNamed _ _ _ _

/-- Storing a node replaces the node of its name and leaves the others. -/
theorem Cluster.getNode_setNode (c : Cluster) (x : Node) (n : String) :
    (c.setNode x).getNode n = if x.name = n then (c.getNode n).map fun _ => x else c.getNode n :=
  find?_replaceNamed _ _ _ _

/-- A node `Update` through the target client that the server accepts replaces a stored node
of the same name. -/
theorem Cluster.applyUpdateNode_target_ok (c : Cluster) {checksResourceVersion fails : Bool}
    {x : Node} {c' : Cluster} (h : c.applyUpdateNode true checksResourceVersion x fails = .ok c') :
    c.getNode x.name ≠ none ∧ ∃ rv, c' = c.setNode { x with resourceVersion := rv } := by
  unfold applyUpdateNode at h
  split at h
  · cases h
  rename_i s hs
  refine ⟨fun hn => ?_, ?_⟩
  · have : c.getNode x.name = some s := hs
    rw [hn] at this; cases this
  · split at h
    · cases h
    · split at h
      · cases h
      · cases h; exact ⟨_, rfl⟩

section Calls

variable {w w' : World} {err : Option GoError} {n : String}

/-- A fact about a stored machine reads only the machines. -/
theorem Cluster.MachineHas.of_machines_eq {c c' : Cluster} {P : Machine → Prop}
    (hm : c.MachineHas n P) (h : c'.machines = c.machines) : c'.MachineHas n P := by
  rwa [Cluster.MachineHas, Cluster.getMachine, h]

/-- A fact about a stored node reads only the nodes. -/
theorem Cluster.NodeHas.of_nodes_eq {c c' : Cluster} {P : Node → Prop} (hx : c.NodeHas n P)
    (h : c'.nodes = c.nodes) : c'.NodeHas n P := by
  rwa [Cluster.NodeHas, Cluster.getNode, h]

/-- A fact about a stored set reads only the sets. -/
theorem Cluster.MachineSetHas.of_machineSets_eq {c c' : Cluster} {P : MachineSet → Prop}
    (hs : c.MachineSetHas n P) (h : c'.machineSets = c.machineSets) : c'.MachineSetHas n P := by
  rwa [Cluster.MachineSetHas, Cluster.getMachineSet_congr _ h]

/-- A machine patch keeps a fact about the machine `n` when, applied to it, it keeps the fact. -/
theorem Cluster.MachineHas.patch {P : Machine → Prop} (hm : w.store.MachineHas n P)
    {name : String} {p : MachinePatch} (hp : ∀ m, P m → P (p.apply m))
    (h : patchMachine name p w = (err, w')) : w'.store.MachineHas n P := by
  refine (patchMachine_settles h).store (·.MachineHas n P) hm fun _ _ hc => ?_
  obtain ⟨m, hm₁, rfl⟩ := Cluster.applyPatchMachine_ok _ hc
  obtain ⟨y, hy, hPy⟩ := hm
  rw [Cluster.MachineHas, Cluster.getMachine_setMachine, hy]
  split
  · rename_i hmn
    obtain ⟨hmem, hname⟩ := Cluster.getMachine_eq_some _ hm₁
    have : m = y := by
      rw [← hname, show m.name = n from hmn] at hm₁; rw [hy] at hm₁; cases hm₁; rfl
    exact ⟨_, rfl, hp m (this ▸ hPy)⟩
  · exact ⟨y, rfl, hPy⟩

/-- A machine patch the server accepts leaves the patched machine as the patch makes it. -/
theorem Cluster.MachineHas.of_patch_ok {P : Machine → Prop} {name : String}
    {p : MachinePatch} (hp : ∀ m, P (p.apply m)) (h : patchMachine name p w = (none, w')) :
    w'.store.MachineHas name P := by
  obtain ⟨_, hc⟩ := (patchMachine_settles h).ok rfl
  obtain ⟨m, hm, hc⟩ := Cluster.applyPatchMachine_ok _ hc
  rw [Cluster.MachineHas, hc, Cluster.getMachine_setMachine,
    if_pos (show (p.apply m).name = name from (Cluster.getMachine_eq_some _ hm).2), hm]
  exact ⟨_, rfl, hp m⟩

/-- A node `Update` leaves every machine. -/
theorem Cluster.MachineHas.nodeUpdate {P : Machine → Prop} (hm : w.store.MachineHas n P)
    {client : Client} {x : Node} (h : updateNode client x w = (err, w')) :
    w'.store.MachineHas n P :=
  (updateNode_settles h).store (·.MachineHas n P) hm fun _ _ hc =>
    hm.of_machines_eq (Cluster.applyUpdateNode_ok_machines _ hc).1

/-- A target node `Update` keeps a fact about the node `n` when the node it sends has it,
whatever resource version the server stamps. -/
theorem Cluster.NodeHas.update {P : Node → Prop} (hn : w.store.NodeHas n P) {client : Client}
    {x : Node} (hx : ∀ rv, P { x with resourceVersion := rv })
    (h : updateNode client x w = (err, w')) : w'.store.NodeHas n P := by
  refine (updateNode_settles h).store (·.NodeHas n P) hn fun _ _ hc => ?_
  obtain ⟨rv, rfl⟩ := Cluster.applyUpdateNode_ok _ hc
  obtain ⟨y, hy, hPy⟩ := hn
  split
  · rw [Cluster.NodeHas, Cluster.getNode_setNode, hy]
    split
    exacts [⟨_, rfl, hx rv⟩, ⟨y, rfl, hPy⟩]
  · exact ⟨y, hy, hPy⟩

/-- A target node `Update` the server accepts leaves the node as it was sent. -/
theorem Cluster.NodeHas.of_update_ok {P : Node → Prop} {x : Node}
    (hx : ∀ rv, P { x with resourceVersion := rv }) (h : updateNode .target x w = (none, w')) :
    w'.store.NodeHas x.name P := by
  obtain ⟨_, hc⟩ := (updateNode_settles h).ok rfl
  obtain ⟨hfound, rv, hc⟩ := Cluster.applyUpdateNode_target_ok _ hc
  obtain ⟨y, hy⟩ := Option.ne_none_iff_exists'.mp hfound
  rw [Cluster.NodeHas, hc, Cluster.getNode_setNode, if_pos rfl, hy]
  exact ⟨_, rfl, hx rv⟩

/-- A labels-only machine-set patch keeps a fact about the set `n` when merging the labels
into it keeps the fact. -/
theorem Cluster.MachineSetHas.patch {P : MachineSet → Prop}
    (hs : w.store.MachineSetHas n P) {name : String} {labels : Labels}
    (hl : ∀ s, P s → P { s with labels := labels ++ s.labels, resourceVersion := s.resourceVersion + 1 })
    (h : patchMachineSet name labels w = (err, w')) : w'.store.MachineSetHas n P := by
  refine (patchMachineSet_settles h).store (·.MachineSetHas n P) hs fun _ _ hc => ?_
  rcases Cluster.applyPatchMachineSet_ok _ hc with rfl | ⟨s, hs₁, rfl⟩
  · exact hs
  obtain ⟨y, hy, hPy⟩ := hs
  rw [Cluster.MachineSetHas, Cluster.getMachineSet_setMachineSet, hy]
  split
  · rename_i hsn
    have : s = y := by
      obtain ⟨-, hname⟩ := Cluster.getMachineSet_eq_some _ hs₁
      rw [← hname, show s.name = n from hsn, hy] at hs₁; cases hs₁; rfl
    exact ⟨_, rfl, hl s (this ▸ hPy)⟩
  · exact ⟨y, rfl, hPy⟩

/-- A labels-only machine-set patch the server accepts leaves the set holding the labels. -/
theorem Cluster.MachineSetHas.of_patch_ok {name : String} {labels : Labels}
    (h : patchMachineSet name labels w = (none, w')) :
    w'.store.MachineSetHas name fun s => ∀ k v, labels.get? k = some v → s.labels.get? k = some v := by
  obtain ⟨_, hc⟩ := (patchMachineSet_settles h).ok rfl
  rw [Cluster.applyPatchMachineSet] at hc
  split at hc
  · cases hc
  rename_i s hs
  split at hc
  · cases hc
  split at hc
  · rename_i hsel
    rw [← Except.ok.inj hc]
    exact ⟨s, hs, Labels.selects_iff.mp hsel⟩
  · rw [← Except.ok.inj hc, Cluster.MachineSetHas, Cluster.getMachineSet_setMachineSet,
      if_pos (Cluster.getMachineSet_eq_some _ hs).2, hs]
    exact ⟨_, rfl, fun k v hk => by simp only [Labels.get?_append, hk]; rfl⟩

end Calls

/-! ### The harvest of `syncMachineSets` -/

/-- A machine the harvest is done with: it carries none of the labels `syncMachineSets`
removes (`labelsToRemove`). -/
def Machine.Harvested (m : Machine) : Prop :=
  ∀ k ∈ [labelKeyMachineSelectedForUpdate, labelKeyMachineDrainSuccessful,
    labelKeyMachineUpdateSuccessful], m.labels.get? k = none

/-- A node the harvest is done with: schedulable, and carrying neither update-successful nor
ready-for-update. -/
def Node.Uncordoned (x : Node) : Prop :=
  x.unschedulable = false ∧ x.labels.get? labelKeyMachineUpdateSuccessful = none ∧
    x.labels.get? labelKeyMachineReadyForUpdate = none

/-- The harvest's label removal leaves a machine harvested. -/
theorem removeLabels_apply_harvested (m : Machine) :
    ((removeLabels [labelKeyMachineSelectedForUpdate, labelKeyMachineDrainSuccessful,
      labelKeyMachineUpdateSuccessful]).apply m).Harvested := fun k hk => by
  rw [MachinePatch.get?_apply]
  split
  · rfl
  · exact absurd (List.elem_iff.mpr hk) ‹_›

/-- The node the harvest sends is uncordoned, at whatever version the server stores it. -/
theorem uncordonedNode_uncordoned (x : Node) (rv : Nat) :
    ({ uncordonedNode x with resourceVersion := rv } : Node).Uncordoned := by
  refine ⟨rfl, ?_, ?_⟩ <;> simp only [uncordonedNode, Labels.get?_erase] <;> split <;> simp_all

section Loops

variable {w w' : World} {n : String}

/-- A fact about a machine that the label removal keeps survives the removal loop. -/
theorem removeUpdateLabelsLoop_keeps {P : Machine → Prop}
    (hP : ∀ m, P m → P ((removeLabels [labelKeyMachineSelectedForUpdate,
      labelKeyMachineDrainSuccessful, labelKeyMachineUpdateSuccessful]).apply m)) :
    ∀ (machines : List Machine) (w : World), w.store.MachineHas n P →
      (removeUpdateLabelsLoop machines w).2.store.MachineHas n P
  | [], _, hm => hm
  | m :: ms, w, hm => by
    dsimp only [removeUpdateLabelsLoop]
    split
    · exact hm.patch hP ‹_›
    · exact removeUpdateLabelsLoop_keeps hP ms _ (hm.patch hP ‹_›)

/-- On success every machine handed to the removal loop is harvested. -/
theorem removeUpdateLabelsLoop_harvests :
    ∀ (machines : List Machine) (w : World), removeUpdateLabelsLoop machines w = (none, w') →
      ∀ m ∈ machines, w'.store.MachineHas m.name Machine.Harvested
  | [], _, _ => fun _ hm => absurd hm (List.not_mem_nil _)
  | m :: ms, w, h => by
    dsimp only [removeUpdateLabelsLoop] at h
    split at h
    · cases h
    rename_i w₁ hp
    intro x hx
    rcases List.mem_cons.mp hx with rfl | hx
    · have := removeUpdateLabelsLoop_keeps (fun m _ => removeLabels_apply_harvested m) ms w₁
        (Cluster.MachineHas.of_patch_ok removeLabels_apply_harvested hp)
      rwa [h] at this
    · exact removeUpdateLabelsLoop_harvests ms w₁ h x hx

/-- The uncordon loop writes nodes only. -/
theorem uncordonLoop_machines : ∀ (machines : List Machine) (w : World),
    (uncordonLoop machines w).2.store.machines = w.store.machines
  | [], _ => rfl
  | m :: ms, w => by
    dsimp only [uncordonLoop]
    split
    · rfl
    split
    · rfl
    rename_i node _
    have hu := fun {err w'} (h : updateNode .target (uncordonedNode node)
        (w.mutateCachedNode node (uncordonedNode node)) = (err, w')) =>
      (updateNode_settles h).store (·.machines = w.store.machines) (by simp) fun _ _ hc =>
        (Cluster.applyUpdateNode_ok_machines _ hc).1.trans (by simp)
    split
    · exact hu ‹_›
    · exact (uncordonLoop_machines ms _).trans (hu ‹_›)

/-- A node uncordoned stays uncordoned through the uncordon loop. -/
theorem uncordonLoop_keeps : ∀ (machines : List Machine) (w : World),
    w.store.NodeHas n Node.Uncordoned → (uncordonLoop machines w).2.store.NodeHas n Node.Uncordoned
  | [], _, hn => hn
  | m :: ms, w, hn => by
    dsimp only [uncordonLoop]
    split
    · exact hn
    split
    · exact hn
    rename_i node _
    have hn₁ : (w.mutateCachedNode node (uncordonedNode node)).store.NodeHas n Node.Uncordoned := by
      rwa [World.mutateCachedNode_store]
    split
    · exact hn₁.update (uncordonedNode_uncordoned node) ‹_›
    · exact uncordonLoop_keeps ms _ (hn₁.update (uncordonedNode_uncordoned node) ‹_›)

/-- On success the node of every machine handed to the uncordon loop is uncordoned. -/
theorem uncordonLoop_uncordons : ∀ (machines : List Machine) (w : World),
    uncordonLoop machines w = (none, w') → ∀ m ∈ machines, ∃ nodeName,
      m.labels.get? nodeLabelKey = some nodeName ∧ w'.store.NodeHas nodeName Node.Uncordoned
  | [], _, _ => fun _ hm => absurd hm (List.not_mem_nil _)
  | m :: ms, w, h => by
    dsimp only [uncordonLoop] at h
    split at h
    · cases h
    rename_i nodeName hnl
    split at h
    · cases h
    rename_i node hnode
    split at h
    · cases h
    rename_i w₁ hu
    intro x hx
    rcases List.mem_cons.mp hx with rfl | hx
    · have hname : (uncordonedNode node).name = nodeName := (Cluster.getNode_eq_some _ hnode).2
      have := uncordonLoop_keeps ms w₁
        (Cluster.NodeHas.of_update_ok (uncordonedNode_uncordoned node) hu)
      rw [h, hname] at this
      exact ⟨nodeName, hnl, this⟩
    · exact uncordonLoop_uncordons ms w₁ h x hx

/-- Scaling the old sets down writes machine sets only. -/
theorem scaleDownOldLoop_store : ∀ (l : List MachineSet) (w : World),
    (scaleDownOldLoop l w).2.store.machines = w.store.machines ∧
      (scaleDownOldLoop l w).2.store.nodes = w.store.nodes
  | [], _ => ⟨rfl, rfl⟩
  | is :: rest, w => by
    have hs := scaleMachineSetAndRecordEvent_store is
      (Int32.ofInt (w.cache.listMachines is.selector).length) w
    dsimp only [scaleDownOldLoop]
    split
    · split <;> rename_i heq <;> rw [heq] at hs
      · exact hs
      · have := scaleDownOldLoop_store rest ‹World›
        exact ⟨this.1.trans hs.1, this.2.trans hs.2⟩
    · exact scaleDownOldLoop_store rest w

/-- **The harvest**: when `syncMachineSets` succeeds, every machine of the new set listed with
update-successful is stored without selected-for-update, drain-successful and
update-successful, and the node of every machine of the new set it listed, labelled or not,
is stored schedulable and without update-successful and ready-for-update. -/
theorem syncMachineSets_harvests (oldISs : List MachineSet) (newIS : MachineSet)
    (h : syncMachineSets oldISs newIS w = (none, w')) :
    (∀ m ∈ filterMachinesWithUpdateSuccessfulLabel (w.cache.listMachines newIS.selector),
      w'.store.MachineHas m.name Machine.Harvested) ∧
    ∀ m ∈ w.cache.listMachines newIS.selector, ∃ nodeName,
      m.labels.get? nodeLabelKey = some nodeName ∧ w'.store.NodeHas nodeName Node.Uncordoned := by
  dsimp only [syncMachineSets] at h
  split at h
  · cases h
  split at h
  · cases h
  rename_i w₁ _ _ w₂ hr
  split at h
  · cases h
  rename_i w₃ hu
  have hd := scaleDownOldLoop_store oldISs w₃
  have hm := uncordonLoop_machines (w.cache.listMachines newIS.selector) w₂
  rw [h] at hd
  rw [hu] at hm
  refine ⟨fun m hmem => ?_, fun m hmem => ?_⟩
  · exact ((removeUpdateLabelsLoop_harvests _ w₁ hr m hmem).of_machines_eq hm).of_machines_eq hd.1
  · obtain ⟨nodeName, hnl, hn⟩ := uncordonLoop_uncordons _ w₂ hu m hmem
    exact ⟨nodeName, hnl, hn.of_nodes_eq hd.2⟩

/-- The harvest at work: `syncMachineSets` on the sync example succeeds, and the node of its
machine, cordoned before and not labelled update-successful, comes out uncordoned. -/
theorem syncMachineSets_harvests_example :
    (syncMachineSets [] syncExampleNewIS (World.init syncExampleCluster [] true false)).1 = none ∧
    (syncMachineSets [] syncExampleNewIS
      (World.init syncExampleCluster [] true false)).2.store.NodeHas "node-0" Node.Uncordoned := by
  have hok : (syncMachineSets [] syncExampleNewIS
      (World.init syncExampleCluster [] true false)).1 = none := by decide
  obtain ⟨nodeName, hnl, hn⟩ :=
    (syncMachineSets_harvests [] syncExampleNewIS (Prod.ext hok rfl)).2 syncExampleMachine
      (by decide)
  obtain rfl : "node-0" = nodeName := Option.some.inj hnl
  exact ⟨hok, hn⟩

/-! ### Labelling the old sets -/

/-- A set that carries the labels keeps them through the rest of the loop. -/
theorem labelMachineSets_keeps (labels : Labels) :
    ∀ (machineSets : List MachineSet) (w : World),
      w.store.MachineSetHas n (fun s => labels.selects s.labels) →
      (labelMachineSets labels machineSets w).2.store.MachineSetHas n fun s => labels.selects s.labels
  | [], _, hs => hs
  | machineSet :: rest, w, hs => by
    have hl : ∀ s : MachineSet, labels.selects s.labels →
        labels.selects (mergeStringMaps machineSet.labels labels ++ s.labels) := fun s _ =>
      Labels.selects_iff.mpr fun k v hk => by
        simp only [Labels.get?_append, get?_mergeStringMaps, hk]; rfl
    dsimp only [labelMachineSets]
    split
    · exact hs.patch hl ‹_›
    · exact labelMachineSets_keeps labels rest _ (hs.patch hl ‹_›)

/-- **Skip-update**: when `labelMachineSets` succeeds, every set it was handed is stored
carrying the labels, whatever labels the copies it was handed had. -/
theorem labelMachineSets_labels (labels : Labels) :
    ∀ (machineSets : List MachineSet) (w : World), labelMachineSets labels machineSets w = (none, w') →
      ∀ ms ∈ machineSets, w'.store.MachineSetHas ms.name fun s => labels.selects s.labels
  | [], _, _ => fun _ hm => absurd hm (List.not_mem_nil _)
  | machineSet :: rest, w, h => by
    dsimp only [labelMachineSets] at h
    split at h
    · cases h
    rename_i w₁ hp
    intro ms hms
    rcases List.mem_cons.mp hms with rfl | hms
    · obtain ⟨s, hs, hl⟩ := Cluster.MachineSetHas.of_patch_ok hp
      have := labelMachineSets_keeps labels rest w₁ ⟨s, hs, Labels.selects_iff.mpr fun k v hk =>
        hl k v (by simp only [get?_mergeStringMaps, hk]; rfl)⟩
      rwa [h] at this
    · exact labelMachineSets_labels labels rest w₁ h ms hms

/-- The skip-update label, patched onto the old set of the transfer's example. -/
theorem labelMachineSets_labels_example :
    (labelMachineSets [(labelKeyMachineSetSkipUpdate, "true")] [transferExampleOldIS 2]
      (World.init (transferExampleCluster 2) [] true true)).1 = none ∧
    (labelMachineSets [(labelKeyMachineSetSkipUpdate, "true")] [transferExampleOldIS 2]
      (World.init (transferExampleCluster 2) [] true true)).2.store.MachineSetHas
        "machineset-old" fun s => Labels.selects [(labelKeyMachineSetSkipUpdate, "true")] s.labels := by
  have hok : (labelMachineSets [(labelKeyMachineSetSkipUpdate, "true")] [transferExampleOldIS 2]
      (World.init (transferExampleCluster 2) [] true true)).1 = none := by decide
  exact ⟨hok, labelMachineSets_labels _ _ _ (Prod.ext hok rfl) _ (List.mem_singleton_self _)⟩

/-! ### Selecting machines for update -/

/-- A machine selected for update. -/
def Machine.Selected (m : Machine) : Prop :=
  m.labels.get? labelKeyMachineSelectedForUpdate = some "true"

/-- The selection's patch leaves the machine selected. -/
theorem selectedPatch_apply_selected (x m : Machine) :
    (({ labels := mergeStringMaps x.labels [(labelKeyMachineSelectedForUpdate, "true")] } :
      MachinePatch).apply m).Selected := by
  simp only [Machine.Selected, MachinePatch.apply, Labels.get?_append, get?_mergeStringMaps,
    Labels.get?_cons, if_true]
  rfl

/-- A machine selected stays selected through the labelling loop. -/
theorem labelMachinesLoop_keeps :
    ∀ (machines : List Machine) (count : Int32) (w : World),
      w.store.MachineHas n Machine.Selected →
      (labelMachinesLoop machines count w).2.store.MachineHas n Machine.Selected
  | [], _, _, hm => hm
  | m :: ms, count, w, hm => by
    have hp := fun {err w₁} (h : patchMachine m.name _ w = (err, w₁)) =>
      hm.patch (fun x _ => selectedPatch_apply_selected m x) h
    unfold labelMachinesLoop
    split
    · exact hp ‹_›
    dsimp only
    split
    · split
      · exact hp ‹_›
      split
      · exact labelMachinesLoop_keeps ms count _ (hp ‹_›)
      split
      · exact (hp ‹_›).nodeUpdate ‹_›
      · exact labelMachinesLoop_keeps ms _ _ ((hp ‹_›).nodeUpdate ‹_›)
    · exact labelMachinesLoop_keeps ms _ _ (hp ‹_›)

/-- On success every machine handed to the selection loop is stored selected for update. -/
theorem labelMachinesLoop_selects :
    ∀ (machines : List Machine) (count : Int32) (w : World) {count' : Int32},
      labelMachinesLoop machines count w = ((count', none), w') →
      ∀ m ∈ machines, w'.store.MachineHas m.name Machine.Selected
  | [], _, _, _, _ => fun _ hm => absurd hm (List.not_mem_nil _)
  | m :: ms, count, w, count', h => by
    unfold labelMachinesLoop at h
    split at h
    · cases h
    rename_i w₁ hp
    have hsel := Cluster.MachineHas.of_patch_ok (selectedPatch_apply_selected m) hp
    dsimp only at h
    have hrest : ∀ {c : Int32} {w₂ : World}, w₂.store.MachineHas m.name Machine.Selected →
        labelMachinesLoop ms c w₂ = ((count', none), w') →
        ∀ x ∈ m :: ms, w'.store.MachineHas x.name Machine.Selected := fun {c w₂} hw₂ hl x hx => by
      rcases List.mem_cons.mp hx with rfl | hx
      · have := labelMachinesLoop_keeps ms c w₂ hw₂; rwa [hl] at this
      · exact labelMachinesLoop_selects ms _ _ hl x hx
    split at h
    · split at h
      · cases h
      split at h
      · exact hrest hsel h
      split at h
      · cases h
      · exact hrest (hsel.nodeUpdate ‹_›) h
    · exact hrest hsel h

/-- **Selection**: when `labelMachinesToSelectedForUpdate` succeeds, every machine that
`getMachinesForDrain` chose from the lister is stored with selected-for-update, whatever
happened to the nodes. -/
theorem labelMachinesToSelectedForUpdate_selects (is : MachineSet) (newScale : Int32)
    {count : Int32} (h : labelMachinesToSelectedForUpdate is newScale w = ((count, none), w')) :
    ∀ m ∈ (getMachinesForDrain w.cache is (is.replicas - newScale)).1,
      w'.store.MachineHas m.name Machine.Selected := by
  dsimp only [labelMachinesToSelectedForUpdate] at h
  split at h
  · cases h
  rename_i machines hdrain
  rw [hdrain]
  exact labelMachinesLoop_selects machines 0 w h

/-- Room for one of two candidates: `machine-0` is stored selected. -/
theorem labelMachinesToSelectedForUpdate_selects_example :
    (labelMachinesToSelectedForUpdate drainExampleSet 1
      (World.init (drainExampleCluster [drainExampleMachine "machine-0",
        drainExampleMachine "machine-1"] (by decide)) [] true true)).1.2 = none ∧
    (labelMachinesToSelectedForUpdate drainExampleSet 1
      (World.init (drainExampleCluster [drainExampleMachine "machine-0",
        drainExampleMachine "machine-1"] (by decide)) [] true true)).2.store.MachineHas
          "machine-0" Machine.Selected := by
  have hok : (labelMachinesToSelectedForUpdate drainExampleSet 1
      (World.init (drainExampleCluster [drainExampleMachine "machine-0",
        drainExampleMachine "machine-1"] (by decide)) [] true true)).1.2 = none := by decide
  exact ⟨hok, labelMachinesToSelectedForUpdate_selects drainExampleSet 1
    (Prod.ext (Prod.ext rfl hok) rfl) (drainExampleMachine "machine-0") (by decide)⟩

end Loops

end MachineControllerManager
