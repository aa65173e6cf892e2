import MachineControllerManager.Controller.Rollout

/-!
# The writes a reconcile is made of

Every function of the in-place rollout writes through a handful of kinds of calls, and every
machine or node it writes is built from a copy the lister handed out, by one of a few edits:

* `ControllerPatch newIS x p`: the label patches, built from the lister's machine `x`: the
  candidate and selected labels, and the removal of the update labels;
* the ownership patch `addControllerPatch ns is x` to a copy of the new set (`CopyOf newIS ns`),
  sent for the lister's machine `x` on the lister's node reporting update-successful;
* `NodeEdit x y`: the nodes sent with `Update` or written into the lister's copy, built from
  the lister's node `x`: the candidate and selected labels, and the uncordon of the transfer;
* the harvest's uncordon `uncordonedNode x`, sent for the node a machine of the new set names;
* machine-set `Update`s, patches and deletes, and the external helpers.

This module says so once, for every invariant at a time. An `Invariant` is a property `Good`
of worlds together with what it asks of a lister copy of a machine (`MachineOk`) or a node
(`NodeOk`) before the controller may write it back; `Discipline I newIS` has one obligation per
kind of call. `I.Stays w w'` says that `w'` is good and every copy good in `w` is still good
in `w'`: a loop that listed its copies early may write them late.

`rolloutAutoInPlace_stays` and the lemmas before it, one for each function and loop of the
source, show that under a discipline every reconcile, whatever it is handed and wherever it
stops, keeps the invariant. Each invariant of the rollout then only discharges the
obligations, call by call.

Most invariants say something of every copy of every object, in the store and in the lister
(`Elementwise`); those obey the discipline as soon as each write maps good copies to good ones
(`Elementwise.discipline`).
-/

namespace MachineControllerManager

/-- `ns` is the new set as one reconcile lists it: the name and selector of `newIS`, and any
replicas and status. -/
def CopyOf (newIS ns : MachineSet) : Prop := ns.name = newIS.name ∧ ns.selector = newIS.selector

/-- The label patches the rollout sends, each built from the lister's machine `x`. -/
inductive ControllerPatch (newIS : MachineSet) (x : Machine) : MachinePatch → Prop
  | candidate : ControllerPatch newIS x
      { labels := mergeStringMaps x.labels [(labelKeyMachineCandidateForUpdate, "true")] }
  | selected : ControllerPatch newIS x
      { labels := mergeStringMaps x.labels [(labelKeyMachineSelectedForUpdate, "true")] }
  | removeUpdateLabels : ControllerPatch newIS x (removeLabels [labelKeyMachineSelectedForUpdate,
      labelKeyMachineDrainSuccessful, labelKeyMachineUpdateSuccessful])

/-- The label patches leave the owner alone. -/
theorem ControllerPatch.controller {newIS : MachineSet} {x : Machine} {p : MachinePatch}
    (hp : ControllerPatch newIS x p) : p.controller = none := by
  cases hp <;> rfl

/-- The nodes the rollout builds from the lister's node `x`, to send or to write into the
lister's copy, whatever machine names `x`. The harvest's uncordon, sent only for the node of a
machine of the new set, is not one of them. -/
inductive NodeEdit (x : Node) : Node → Prop
  | candidate : NodeEdit x { x with labels := x.labels.set labelKeyMachineCandidateForUpdate "true" }
  | selected : NodeEdit x { x with labels := x.labels.set labelKeyMachineSelectedForUpdate "true" }
  | schedulable : NodeEdit x { x with unschedulable := false }

/-- A property of worlds, and what it asks of a lister copy before it may be written back. -/
structure Invariant where
  Good : World → Prop
  MachineOk : World → Machine → Prop
  NodeOk : World → Node → Prop

/-- From `w` to `w'` the invariant holds at the end, and the copies good in `w` stay good. -/
structure Invariant.Stays (I : Invariant) (w w' : World) : Prop where
  good : I.Good w'
  machine : ∀ m, I.MachineOk w m → I.MachineOk w' m
  node : ∀ x, I.NodeOk w x → I.NodeOk w' x

/-- **The obligations**, one per kind of call the rollout makes: the cache holds good copies,
and each write built from good copies keeps the invariant and the copies good. -/
structure Discipline (I : Invariant) (newIS : MachineSet) : Prop where
  cache_machines : ∀ {w : World}, I.Good w → ∀ m ∈ w.cache.machines, I.MachineOk w m
  cache_nodes : ∀ {w : World}, I.Good w → ∀ x ∈ w.cache.nodes, I.NodeOk w x
  patch : ∀ {w w' : World} {x : Machine} {p : MachinePatch} {err : Option GoError}, I.Good w →
    I.MachineOk w x → ControllerPatch newIS x p → patchMachine x.name p w = (err, w') →
    I.Stays w w'
  transfer : ∀ {w w' : World} {x : Machine} {node : Node} {ns : MachineSet} {err : Option GoError}
    (is : MachineSet), I.Good w → I.MachineOk w x → I.NodeOk w node → CopyOf newIS ns →
    node.labels.get? labelKeyMachineUpdateSuccessful = some "true" →
    x.labels.get nodeLabelKey = node.name →
    patchMachine x.name (addControllerPatch ns is x) w = (err, w') → I.Stays w w'
  update : ∀ {w w' : World} {client : Client} {x y : Node} {err : Option GoError}, I.Good w →
    I.NodeOk w x → NodeEdit x y → updateNode client y w = (err, w') → I.Stays w w'
  mutate : ∀ {w : World} {x y : Node}, I.Good w → I.NodeOk w x → NodeEdit x y →
    I.Stays w (w.mutateCachedNode x y)
  harvest : ∀ {w w' : World} {x : Node} {mm : Machine} {err : Option GoError}, I.Good w →
    I.NodeOk w x → I.MachineOk w mm → newIS.selector.selects mm.labels = true →
    mm.labels.get? nodeLabelKey = some x.name →
    updateNode .target (uncordonedNode x) w = (err, w') → I.Stays w w'
  harvestCache : ∀ {w : World} {x : Node} {mm : Machine}, I.Good w → I.NodeOk w x →
    I.MachineOk w mm → newIS.selector.selects mm.labels = true →
    mm.labels.get? nodeLabelKey = some x.name → I.Stays w (w.mutateCachedNode x (uncordonedNode x))
  scale : ∀ {w w' : World} {ms : MachineSet} {err : Option GoError}, I.Good w →
    updateMachineSet ms w = (err, w') → I.Stays w w'
  labelSet : ∀ {w w' : World} {name : String} {labels : Labels} {err : Option GoError}, I.Good w →
    patchMachineSet name labels w = (err, w') → I.Stays w w'
  deleteSet : ∀ {w w' : World} {name : String} {err : Option GoError}, I.Good w →
    deleteMachineSet name w = (err, w') → I.Stays w w'
  external : ∀ {w : World} (helper : String), I.Good w → I.Stays w (externalCall helper w).2

namespace Invariant.Stays

variable {I : Invariant} {w w₁ w₂ : World}

/-- Doing nothing keeps a good world good. -/
theorem refl (h : I.Good w) : I.Stays w w := ⟨h, fun _ => id, fun _ => id⟩

/-- Two stretches that keep the invariant make one. -/
theorem trans (h₁ : I.Stays w w₁) (h₂ : I.Stays w₁ w₂) : I.Stays w w₂ :=
  ⟨h₂.good, fun m h => h₂.machine m (h₁.machine m h), fun x h => h₂.node x (h₁.node x h)⟩

/-- The world a call returns, named by the equation that destructures its result. -/
theorem of_eq {α : Type} {r : α × World} {a : α} (hr : I.Stays w r.2) (h : r = (a, w₁)) :
    I.Stays w w₁ := by
  subst h; exact hr

/-- A call made only under a condition. -/
theorem of_ite_eq {c : Prop} [Decidable c] {r : Option GoError × World} {err : Option GoError}
    (hw : I.Good w) (hr : c → I.Stays w r.2) (h : (if c then r else (none, w)) = (err, w₁)) :
    I.Stays w w₁ := by
  split at h
  · exact .of_eq (hr ‹_›) h
  · cases h; exact .refl hw

/-- Machine copies listed in `w` are still good in `w₁`. -/
theorem listed (h : I.Stays w w₁) {l : List Machine} (hl : ∀ m ∈ l, I.MachineOk w m) :
    ∀ m ∈ l, I.MachineOk w₁ m :=
  fun m hm => h.machine m (hl m hm)

/-- Node copies listed in `w` are still good in `w₁`. -/
theorem listedNodes (h : I.Stays w w₁) {l : List Node} (hl : ∀ x ∈ l, I.NodeOk w x) :
    ∀ x ∈ l, I.NodeOk w₁ x :=
  fun x hx => h.node x (hl x hx)

end Invariant.Stays

/-- The nodes the transfer lists report update-successful. -/
theorem updateSuccessful_of_mem_listNodes {c : Cluster} {x : Node}
    (hx : x ∈ c.listNodes [(labelKeyMachineUpdateSuccessful, "true")]) :
    x.labels.get? labelKeyMachineUpdateSuccessful = some "true" :=
  Labels.selects_iff.mp (List.mem_filter.mp hx).2 _ _ (by rw [Labels.get?_cons, if_pos rfl])

/-- The machine found for a node is a listed machine naming the node. -/
theorem getMachineFromNode_eq_some {machines : List Machine} {node : Node} {m : Machine}
    (h : getMachineFromNode machines node = some m) :
    m ∈ machines ∧ m.labels.get nodeLabelKey = node.name := by
  have hp := List.find?_some h
  exact ⟨List.mem_of_find?_eq_some h, beq_iff_eq.mp hp⟩

/-- The machines `getMachinesForDrain` hands over are the lister's. -/
theorem getMachinesForDrain_subset (c : Cluster) (is : MachineSet) (readyForDrain : Int32) :
    (getMachinesForDrain c is readyForDrain).1 ⊆ c.machines := by
  have hsub : machinesWithoutSelectedForUpdate c is ⊆ c.machines := fun _ hm =>
    List.mem_of_mem_filter (List.mem_of_mem_filter hm)
  dsimp only [getMachinesForDrain]
  split
  · split
    · exact List.nil_subset _
    · exact (List.take_subset _ _).trans hsub
  · exact hsub

section Functions

variable {I : Invariant} {newIS : MachineSet} (hD : Discipline I newIS) {w : World}

include hD

/-- What the machine lister returns is good. -/
theorem Discipline.listMachines (hG : I.Good w) (sel : Labels) :
    ∀ m ∈ w.cache.listMachines sel, I.MachineOk w m :=
  fun m hm => hD.cache_machines hG m (List.mem_of_mem_filter hm)

/-- The node the node lister finds is good. -/
theorem Discipline.getNode (hG : I.Good w) {n : String} {x : Node} (h : w.cache.getNode n = some x) :
    I.NodeOk w x :=
  hD.cache_nodes hG x (Cluster.getNode_eq_some _ h).1

/-- A scale is a machine-set update, or nothing when the scale is already right. -/
theorem scaleMachineSetAndRecordEvent_stays (is : MachineSet) (newScale : Int32) (hG : I.Good w) :
    I.Stays w (scaleMachineSetAndRecordEvent is newScale w).2 := by
  unfold scaleMachineSetAndRecordEvent
  split
  · exact .refl hG
  · exact hD.scale hG rfl

/-- Each label removal patches a good listed machine. -/
theorem removeUpdateLabelsLoop_stays : ∀ (machines : List Machine) (w : World), I.Good w →
    (∀ m ∈ machines, I.MachineOk w m) → I.Stays w (removeUpdateLabelsLoop machines w).2
  | [], _, hG, _ => .refl hG
  | m :: ms, w, hG, hms => by
    have hp := fun {err w₁} => @Discipline.patch _ _ hD w w₁ m _ err hG
      (hms m (List.mem_cons_self m ms)) .removeUpdateLabels
    dsimp only [removeUpdateLabelsLoop]
    split
    · exact hp ‹_›
    · have h₁ := hp ‹_›
      exact h₁.trans (removeUpdateLabelsLoop_stays ms _ h₁.good
        (h₁.listed fun x hx => hms x (List.mem_cons_of_mem m hx)))

/-- The harvest uncordons the node of each machine of the new set it was handed. -/
theorem uncordonLoop_stays : ∀ (machines : List Machine) (w : World), I.Good w →
    (∀ m ∈ machines, I.MachineOk w m) →
    (∀ m ∈ machines, newIS.selector.selects m.labels = true) →
    I.Stays w (uncordonLoop machines w).2
  | [], _, hG, _, _ => .refl hG
  | m :: ms, w, hG, hms, hsel => by
    have hm := hms m (List.mem_cons_self m ms)
    have hsm := hsel m (List.mem_cons_self m ms)
    dsimp only [uncordonLoop]
    split
    · exact .refl hG
    rename_i hlabel
    split
    · exact .refl hG
    rename_i node hnode
    have hname : m.labels.get? nodeLabelKey = some node.name := by
      rw [hlabel, (Cluster.getNode_eq_some _ hnode).2]
    have hx := hD.getNode hG hnode
    have h₁ := hD.harvestCache hG hx hm hsm hname
    have hu := fun {err w₂} => @Discipline.harvest _ _ hD _ w₂ _ _ err h₁.good (h₁.node _ hx)
      (h₁.machine _ hm) hsm hname
    split
    · exact h₁.trans (hu ‹_›)
    · have h₂ := h₁.trans (hu ‹_›)
      exact h₂.trans (uncordonLoop_stays ms _ h₂.good
        (h₂.listed fun y hy => hms y (List.mem_cons_of_mem m hy))
        fun y hy => hsel y (List.mem_cons_of_mem m hy))

/-- The old sets are scaled down one scale at a time. -/
theorem scaleDownOldLoop_stays : ∀ (l : List MachineSet) (w : World), I.Good w →
    I.Stays w (scaleDownOldLoop l w).2
  | [], _, hG => .refl hG
  | is :: rest, w, hG => by
    dsimp only [scaleDownOldLoop]
    split
    · have hs := scaleMachineSetAndRecordEvent_stays hD is
        (Int32.ofInt (w.cache.listMachines is.selector).length) hG
      split
      · exact .of_eq hs ‹_›
      · have h₁ := Invariant.Stays.of_eq hs ‹_›
        exact h₁.trans (scaleDownOldLoop_stays rest _ h₁.good)
    · exact scaleDownOldLoop_stays rest w hG

/-- The sync of a finished rollout: the scale-up, the uncordon of the new set's nodes and
the scale-down of the old sets. -/
theorem syncMachineSets_stays (oldISs : List MachineSet) {ns : MachineSet} (hns : CopyOf newIS ns)
    (hG : I.Good w) : I.Stays w (syncMachineSets oldISs ns w).2 := by
  dsimp only [syncMachineSets]
  have hlisted := hD.listMachines hG ns.selector
  have hscale : I.Stays w (scaleUpNewMachineSet ns (w.cache.listMachines ns.selector)
      (filterMachinesWithUpdateSuccessfulLabel (w.cache.listMachines ns.selector)) w).2 := by
    dsimp only [scaleUpNewMachineSet]
    split
    · exact scaleMachineSetAndRecordEvent_stays hD ns _ hG
    · exact .refl hG
  split
  · exact .of_eq hscale ‹_›
  have h₁ := Invariant.Stays.of_eq hscale ‹_›
  have hremove := removeUpdateLabelsLoop_stays hD
    (filterMachinesWithUpdateSuccessfulLabel (w.cache.listMachines ns.selector)) _ h₁.good
    (h₁.listed fun m hm => hlisted m (List.mem_of_mem_filter hm))
  split
  · exact h₁.trans (.of_eq hremove ‹_›)
  have h₂ := h₁.trans (.of_eq hremove ‹_›)
  have huncordon := uncordonLoop_stays hD (w.cache.listMachines ns.selector) _ h₂.good
    (h₂.listed hlisted) fun m hm => hns.2 ▸ (List.mem_filter.mp hm).2
  split
  · exact h₂.trans (.of_eq huncordon ‹_›)
  · have h₃ := h₂.trans (.of_eq huncordon ‹_›)
    exact h₃.trans (scaleDownOldLoop_stays hD oldISs _ h₃.good)

/-- Each machine is marked a candidate, and its node after it. -/
theorem labelNodesLoop_stays : ∀ (machines : List Machine) (w : World), I.Good w →
    (∀ m ∈ machines, I.MachineOk w m) → I.Stays w (labelNodesLoop machines w).2
  | [], _, hG, _ => .refl hG
  | m :: ms, w, hG, hms => by
    have hrest : ∀ {w₁}, I.Stays w w₁ → I.Stays w (labelNodesLoop ms w₁).2 := fun h₁ =>
      h₁.trans (labelNodesLoop_stays ms _ h₁.good
        (h₁.listed fun x hx => hms x (List.mem_cons_of_mem m hx)))
    have hp := fun {err w₁} => @Discipline.patch _ _ hD w w₁ m _ err hG
      (hms m (List.mem_cons_self m ms)) .candidate
    dsimp only [labelNodesLoop]
    split
    · split
      · exact hp ‹_›
      have h₁ := hp ‹_›
      split
      · exact hrest h₁
      rename_i node hnode
      have hu := fun {err w₂} => @Discipline.update _ _ hD _ w₂ .target _ _ err h₁.good
        (hD.getNode h₁.good hnode) .candidate
      split
      · exact hrest h₁
      split
      · exact h₁.trans (hu ‹_›)
      · exact hrest (h₁.trans (hu ‹_›))
    · exact hrest (.refl hG)

/-- Each set's listed machines are marked in turn. -/
theorem labelNodesBackingMachineSets_stays : ∀ (machineSets : List MachineSet) (w : World),
    I.Good w → I.Stays w (labelNodesBackingMachineSets machineSets w).2
  | [], _, hG => .refl hG
  | machineSet :: rest, w, hG => by
    have hloop := labelNodesLoop_stays hD _ w hG (hD.listMachines hG machineSet.selector)
    dsimp only [labelNodesBackingMachineSets]
    split
    · exact .of_eq hloop ‹_›
    · have h₁ := Invariant.Stays.of_eq hloop ‹_›
      exact h₁.trans (labelNodesBackingMachineSets_stays rest _ h₁.good)

/-- Each set is patched in turn. -/
theorem labelMachineSets_stays (labels : Labels) : ∀ (machineSets : List MachineSet) (w : World),
    I.Good w → I.Stays w (labelMachineSets labels machineSets w).2
  | [], _, hG => .refl hG
  | machineSet :: rest, w, hG => by
    dsimp only [labelMachineSets]
    split
    · exact hD.labelSet hG ‹_›
    · have h₁ := hD.labelSet hG ‹_›
      exact h₁.trans (labelMachineSets_stays labels rest _ h₁.good)

/-- Each set handed over is deleted in turn. -/
theorem deleteMachineSetsLoop_stays : ∀ (machineSets : List MachineSet) (w : World),
    I.Good w → I.Stays w (deleteMachineSetsLoop machineSets w).2
  | [], _, hG => .refl hG
  | is :: rest, w, hG => by
    dsimp only [deleteMachineSetsLoop]
    split
    · exact hD.deleteSet hG ‹_›
    · have h₁ := hD.deleteSet hG ‹_›
      exact h₁.trans (deleteMachineSetsLoop_stays rest _ h₁.good)

/-- The cleanup deletes old sets, or nothing. -/
theorem cleanupMachineDeployment_stays (oldISs : List MachineSet) (d : MachineDeployment)
    (hG : I.Good w) : I.Stays w (cleanupMachineDeployment oldISs d w).2 := by
  dsimp only [cleanupMachineDeployment]
  split
  · exact .refl hG
  split
  · exact .refl hG
  · exact deleteMachineSetsLoop_stays hD _ w hG

/-- After a failed transfer, the new set is scaled up and then the old set down. -/
theorem scaleAfterTransferFailure_stays (ns is : MachineSet)
    (transfferedMachineCount addedNewReplicasCount : Int32) (err : GoError) (hG : I.Good w) :
    I.Stays w (scaleAfterTransferFailure ns is transfferedMachineCount addedNewReplicasCount
      err w).2 := by
  have hup := scaleMachineSetAndRecordEvent_stays hD ns (ns.replicas + addedNewReplicasCount) hG
  dsimp only [scaleAfterTransferFailure]
  split
  · exact .of_eq hup ‹_›
  have h₁ := Invariant.Stays.of_eq hup ‹_›
  have hdown := scaleMachineSetAndRecordEvent_stays hD is (is.replicas - transfferedMachineCount)
    h₁.good
  split <;> exact h₁.trans (.of_eq hdown ‹_›)

/-- Each transfer moves a good listed machine to the new set and uncordons its node. -/
theorem transferLoop_stays {ns : MachineSet} (hns : CopyOf newIS ns) (is : MachineSet)
    (machines : List Machine) :
    ∀ (nodes : List Node) (transfferedMachineCount addedNewReplicasCount : Int32) (w : World),
      I.Good w → (∀ m ∈ machines, I.MachineOk w m) → (∀ x ∈ nodes, I.NodeOk w x) →
      (∀ x ∈ nodes, x.labels.get? labelKeyMachineUpdateSuccessful = some "true") →
      I.Stays w (transferLoop ns is machines nodes transfferedMachineCount
        addedNewReplicasCount w).2
  | [], _, _, _, hG, _, _, _ => .refl hG
  | node :: nodes, t, added, w, hG, hms, hnodes, hupd => by
    have hx := hnodes node (List.mem_cons_self node nodes)
    have hrest : ∀ {t' added' w₁}, I.Stays w w₁ →
        I.Stays w (transferLoop ns is machines nodes t' added' w₁).2 := fun h₁ =>
      h₁.trans (transferLoop_stays hns is machines nodes _ _ _ h₁.good (h₁.listed hms)
        (h₁.listedNodes fun y hy => hnodes y (List.mem_cons_of_mem node hy))
        fun y hy => hupd y (List.mem_cons_of_mem node hy))
    dsimp only [transferLoop]
    split
    · exact hrest (.refl hG)
    rename_i machine hmachine
    obtain ⟨hmem, hlabel⟩ := getMachineFromNode_eq_some hmachine
    have hp := fun {err w₁} => @Discipline.transfer _ _ hD w w₁ machine node _ err is hG
      (hms machine hmem) hx hns (hupd node (List.mem_cons_self _ _)) hlabel
    split
    · have h₁ := hp ‹_›
      exact h₁.trans (scaleAfterTransferFailure_stays hD ns is t added _ h₁.good)
    have h₁ := hp ‹_›
    have h₂ := h₁.trans (hD.mutate h₁.good (h₁.node _ hx) .schedulable)
    have hu := fun {err w₃} => @Discipline.update _ _ hD _ w₃ .control _ _ err h₂.good
      (h₂.node _ hx) .schedulable
    split
    · exact h₂.trans (hu ‹_›)
    · exact hrest (h₂.trans (hu ‹_›))

/-- Each old set hands its updated machines over and is scaled down; the new set is scaled up
at the end. -/
theorem reconcileNewLoop_stays {ns : MachineSet} (hns : CopyOf newIS ns) :
    ∀ (l : List MachineSet) (addedNewReplicasCount : Int32) (w : World), I.Good w →
      I.Stays w (reconcileNewLoop ns l addedNewReplicasCount w).2
  | [], _, _, hG => scaleMachineSetAndRecordEvent_stays hD ns _ hG
  | is :: rest, added, w, hG => by
    have hloop := transferLoop_stays hD hns is (w.cache.listMachines is.selector)
      (w.cache.listNodes [(labelKeyMachineUpdateSuccessful, "true")]) 0 added w hG
      (hD.listMachines hG is.selector) (fun x hx => hD.cache_nodes hG x (List.mem_of_mem_filter hx))
      fun _ hx => updateSuccessful_of_mem_listNodes hx
    dsimp only [reconcileNewLoop]
    split
    · exact .of_eq hloop ‹_›
    rename_i t _ w₁ _
    have h₁ := Invariant.Stays.of_eq hloop ‹_›
    have hdown := scaleMachineSetAndRecordEvent_stays hD is (is.replicas - t) h₁.good
    split
    · exact h₁.trans (.of_eq hdown ‹_›)
    · have h₂ := h₁.trans (.of_eq hdown ‹_›)
      exact h₂.trans (reconcileNewLoop_stays hns rest _ _ h₂.good)

/-- **The new set's reconcile** keeps every disciplined invariant. -/
theorem reconcileNewMachineSetInPlace_stays (oldISs : List MachineSet) {ns : MachineSet}
    (hns : CopyOf newIS ns) (d : MachineDeployment) (hG : I.Good w) :
    I.Stays w (reconcileNewMachineSetInPlace oldISs ns d w).2 := by
  unfold reconcileNewMachineSetInPlace
  split
  · exact .refl hG
  split
  · exact scaleMachineSetAndRecordEvent_stays hD ns _ hG
  · exact reconcileNewLoop_stays hD hns oldISs 0 w hG

/-- Each machine handed over is patched selected-for-update. -/
theorem labelMachinesLoop_stays : ∀ (machines : List Machine) (count : Int32) (w : World),
    I.Good w → (∀ m ∈ machines, I.MachineOk w m) → I.Stays w (labelMachinesLoop machines count w).2
  | [], _, _, hG, _ => .refl hG
  | m :: ms, count, w, hG, hms => by
    have hrest : ∀ {c w₁}, I.Stays w w₁ → I.Stays w (labelMachinesLoop ms c w₁).2 := fun h₁ =>
      h₁.trans (labelMachinesLoop_stays ms _ _ h₁.good
        (h₁.listed fun x hx => hms x (List.mem_cons_of_mem m hx)))
    have hp := fun {err w₁} => @Discipline.patch _ _ hD w w₁ m _ err hG
      (hms m (List.mem_cons_self m ms)) .selected
    unfold labelMachinesLoop
    split
    · exact hp ‹_›
    have h₁ := hp ‹_›
    dsimp only
    split
    · split
      · exact h₁
      rename_i node hnode
      have hu := fun {err w₂} => @Discipline.update _ _ hD _ w₂ .target _ _ err h₁.good
        (hD.getNode h₁.good hnode) .selected
      split
      · exact hrest h₁
      split
      · exact h₁.trans (hu ‹_›)
      · exact hrest (h₁.trans (hu ‹_›))
    · exact hrest h₁

/-- The machines `getMachinesForDrain` picks are the lister's, so each patch is of a good
copy. -/
theorem labelMachinesToSelectedForUpdate_stays (is : MachineSet) (newScale : Int32)
    (hG : I.Good w) : I.Stays w (labelMachinesToSelectedForUpdate is newScale w).2 := by
  dsimp only [labelMachinesToSelectedForUpdate]
  split
  · exact .refl hG
  rename_i hdrain
  have hsub := getMachinesForDrain_subset w.cache is (is.replicas - newScale)
  rw [hdrain] at hsub
  exact labelMachinesLoop_stays hD _ 0 w hG fun m hm => hD.cache_machines hG m (hsub hm)

/-- Each target set has its machines selected in turn. -/
theorem selectLoop_stays (totalReadyForUpdateCount : Int32) :
    ∀ (l : List MachineSet) (totalReadyForUpdate : Int32) (w : World), I.Good w →
      I.Stays w (selectLoop totalReadyForUpdateCount l totalReadyForUpdate w).2
  | [], _, _, hG => .refl hG
  | targetIS :: rest, T, w, hG => by
    dsimp only [selectLoop]
    split
    · exact .refl hG
    split
    · exact selectLoop_stays _ rest T w hG
    split
    · exact .refl hG
    have hl := labelMachinesToSelectedForUpdate_stays hD targetIS
      (targetIS.replicas - min targetIS.replicas (totalReadyForUpdateCount - T)) hG
    split
    · exact .of_eq hl ‹_›
    · have h₁ := Invariant.Stays.of_eq hl ‹_›
      exact h₁.trans (selectLoop_stays _ rest _ _ h₁.good)

/-- The sets handed over are scaled to zero one at a time. -/
theorem scaleToZeroLoop_stays : ∀ (l : List MachineSet) (w : World), I.Good w →
    I.Stays w (scaleToZeroLoop l w).2
  | [], _, hG => .refl hG
  | is :: rest, w, hG => by
    have hs := scaleMachineSetAndRecordEvent_stays hD is 0 hG
    dsimp only [scaleToZeroLoop]
    split
    · exact .of_eq hs ‹_›
    · have h₁ := Invariant.Stays.of_eq hs ‹_›
      exact h₁.trans (scaleToZeroLoop_stays rest _ h₁.good)

/-- **The old sets' reconcile** keeps every disciplined invariant, whichever of its three
ways it takes. -/
theorem reconcileOldMachineSetsInPlace_stays (allISs oldISs : List MachineSet) (ns : MachineSet)
    (d : MachineDeployment) (hG : I.Good w) :
    I.Stays w (reconcileOldMachineSetsInPlace allISs oldISs ns d w).2 := by
  rcases reconcileOldMachineSetsInPlace_cases allISs oldISs ns d w with h | ⟨-, h⟩ | ⟨-, h⟩ <;>
    rw [h]
  · exact .refl hG
  · exact scaleToZeroLoop_stays hD oldISs w hG
  · dsimp only [selectMachineForUpdate]
    split
    · exact .refl hG
    · exact selectLoop_stays hD _ _ 0 w hG

/-- The calls before the transfer keep every disciplined invariant. -/
theorem rolloutPrefix_stays (autoscalerScaleDownAnnotationDuringRollout : Bool) {ns : MachineSet}
    (hns : CopyOf newIS ns) (oldISs : List MachineSet) (hG : I.Good w) :
    I.Stays w (rolloutPrefix autoscalerScaleDownAnnotationDuringRollout ns oldISs w).2 := by
  dsimp only [rolloutPrefix]
  split
  · exact .of_ite_eq hG (fun _ => labelMachineSets_stays hD _ oldISs w hG) ‹_›
  have h₁ := Invariant.Stays.of_ite_eq hG (fun _ => labelMachineSets_stays hD _ oldISs w hG) ‹_›
  split
  · exact h₁.trans (.of_ite_eq h₁.good (fun _ => hD.external _ h₁.good) ‹_›)
  have h₂ := h₁.trans (.of_ite_eq h₁.good (fun _ => hD.external _ h₁.good) ‹_›)
  have hnodes := h₂.trans (labelNodesBackingMachineSets_stays hD oldISs _ h₂.good)
  split
  · exact .of_eq hnodes ‹_›
  have h₃ := Invariant.Stays.of_eq hnodes ‹_›
  exact h₃.trans (syncMachineSets_stays hD oldISs hns h₃.good)

/-- The calls after the transfer keep every disciplined invariant. -/
theorem rolloutSuffix_stays (autoscalerScaleDownAnnotationDuringRollout : Bool)
    (d : MachineDeployment) {ns : MachineSet} (hns : CopyOf newIS ns) (oldISs : List MachineSet)
    (scaledUp : Bool) (hG : I.Good w) :
    I.Stays w (rolloutSuffix autoscalerScaleDownAnnotationDuringRollout d ns oldISs scaledUp w).2 := by
  have hext := fun {w₁ : World} (h₁ : I.Stays w w₁) (helper : String) =>
    h₁.trans (hD.external helper h₁.good)
  dsimp only [rolloutSuffix]
  split
  · exact hD.external _ hG
  have hold := reconcileOldMachineSetsInPlace_stays hD (oldISs ++ [ns])
    (filterActiveMachineSets oldISs) ns d hG
  split
  · exact .of_eq hold ‹_›
  · exact hext (.of_eq hold ‹_›) _
  have h₁ := Invariant.Stays.of_eq hold ‹_›
  have hsync := h₁.trans (syncMachineSets_stays hD oldISs hns h₁.good)
  split
  · exact .of_eq hsync ‹_›
  have h₂ := Invariant.Stays.of_eq hsync ‹_›
  have hcomplete : ∀ {w₁}, I.Stays w w₁ → I.Stays w
      (if d.complete then
         match (if autoscalerScaleDownAnnotationDuringRollout then
                  externalCall "removeAutoscalerAnnotationsIfRequired" w₁
                else (none, w₁)) with
         | (some e, w) => (some e, w)
         | (none, w) => cleanupMachineDeployment oldISs d w
       else (none, w₁)).2 := by
    intro w₁ h₁
    split
    · split
      · exact h₁.trans (.of_ite_eq h₁.good (fun _ => hD.external _ h₁.good) ‹_›)
      · have h₂ := h₁.trans (.of_ite_eq h₁.good (fun _ => hD.external _ h₁.good) ‹_›)
        exact h₂.trans (cleanupMachineDeployment_stays hD oldISs d h₂.good)
    · exact h₁
  split
  · exact .of_eq (hcomplete h₂) ‹_›
  · exact hext (.of_eq (hcomplete h₂) ‹_›) _

/-- **A reconcile keeps every disciplined invariant**, for any deployment, flag, old sets and
copy of the new set: wherever it stops, each call it made kept the invariant. -/
theorem rolloutAutoInPlace_stays (autoscalerScaleDownAnnotationDuringRollout : Bool)
    (d : MachineDeployment) {ns : MachineSet} (hns : CopyOf newIS ns) (oldISs : List MachineSet)
    (hG : I.Good w) :
    I.Stays w (rolloutAutoInPlace autoscalerScaleDownAnnotationDuringRollout d ns oldISs w).2 := by
  rw [rolloutAutoInPlace_eq]
  have hpre := rolloutPrefix_stays hD autoscalerScaleDownAnnotationDuringRollout hns oldISs hG
  split
  · exact .of_eq hpre ‹_›
  have h₁ := Invariant.Stays.of_eq hpre ‹_›
  have hnew := h₁.trans (reconcileNewMachineSetInPlace_stays hD oldISs hns d h₁.good)
  split
  · exact .of_eq hnew ‹_›
  · have h₂ := Invariant.Stays.of_eq hnew ‹_›
    exact h₂.trans (rolloutSuffix_stays hD autoscalerScaleDownAnnotationDuringRollout d hns oldISs
      _ h₂.good)

end Functions

/-! ### Calls that leave the machines and nodes

The machine-set calls and the external helpers write neither machines nor nodes, and their
refresh copies neither: every fact about machines and nodes survives them. -/

/-- `w'` holds the machines and nodes of `w`, in the store and in the listers. -/
structure SameObjects (w w' : World) : Prop where
  store_machines : w'.store.machines = w.store.machines
  store_nodes : w'.store.nodes = w.store.nodes
  cache_machines : w'.cache.machines = w.cache.machines
  cache_nodes : w'.cache.nodes = w.cache.nodes

section SameObjects

variable {w w₁ w' : World} {err : Option GoError}

/-- A world holds its own objects. -/
protected theorem SameObjects.refl (w : World) : SameObjects w w := ⟨rfl, rfl, rfl, rfl⟩

/-- Two stretches that keep the objects make one. -/
protected theorem SameObjects.trans (h₁ : SameObjects w w₁) (h₂ : SameObjects w₁ w') :
    SameObjects w w' :=
  ⟨h₂.1.trans h₁.1, h₂.2.trans h₁.2, h₂.3.trans h₁.3, h₂.4.trans h₁.4⟩

/-- A call whose server answers keep the machines and nodes, and whose refresh copies
neither. -/
theorem SameObjects.of_settles {call : Call} {refresh : Cluster → Cluster → Cluster}
    {serve : Bool → Except GoError Cluster} (hs : Settles call refresh serve w w' err)
    (hserve : ∀ f c', serve f = .ok c' → c'.machines = w.store.machines ∧ c'.nodes = w.store.nodes)
    (hrefresh : ∀ c c', (refresh c c').machines = c.machines ∧ (refresh c c').nodes = c.nodes) :
    SameObjects w w' := by
  have hst := hs.store (fun c => c.machines = w.store.machines ∧ c.nodes = w.store.nodes)
    ⟨rfl, rfl⟩ hserve
  have hc : w'.cache.machines = w.cache.machines ∧ w'.cache.nodes = w.cache.nodes := by
    rcases hs.cache with h | h <;> rw [h]
    exacts [⟨rfl, rfl⟩, hrefresh _ _]
  exact ⟨hst.1, hst.2, hc.1, hc.2⟩

/-- A machine-set update writes a set only. -/
theorem SameObjects.updateMachineSet {ms : MachineSet} (h : updateMachineSet ms w = (err, w')) :
    SameObjects w w' :=
  .of_settles (updateMachineSet_settles h)
    (fun _ _ hc => by obtain ⟨s, -, -, rfl⟩ := Cluster.applyUpdateMachineSet_ok _ hc; exact ⟨rfl, rfl⟩)
    fun _ _ => ⟨rfl, rfl⟩

/-- A machine-set label patch writes a set only. -/
theorem SameObjects.patchMachineSet {name : String} {labels : Labels}
    (h : patchMachineSet name labels w = (err, w')) : SameObjects w w' :=
  .of_settles (patchMachineSet_settles h)
    (fun _ _ hc => by
      rcases Cluster.applyPatchMachineSet_ok _ hc with rfl | ⟨s, -, rfl⟩ <;> exact ⟨rfl, rfl⟩)
    fun _ _ => ⟨rfl, rfl⟩

/-- A machine-set delete removes a set only. -/
theorem SameObjects.deleteMachineSet {name : String} (h : deleteMachineSet name w = (err, w')) :
    SameObjects w w' :=
  .of_settles (deleteMachineSet_settles h)
    (fun _ _ hc => by rw [Cluster.applyDeleteMachineSet_ok _ hc]; exact ⟨rfl, rfl⟩)
    fun _ _ => ⟨rfl, rfl⟩

/-- An external helper writes nothing the model holds. -/
theorem SameObjects.externalCall (w : World) (helper : String) :
    SameObjects w (externalCall helper w).2 :=
  .of_settles (externalCall_settles rfl)
    (fun f _ hc => by cases f <;> cases hc; exact ⟨rfl, rfl⟩) fun _ _ => ⟨rfl, rfl⟩

/-- A scale writes a set only. -/
theorem SameObjects.scale (is : MachineSet) (newScale : Int32) (w : World) :
    SameObjects w (scaleMachineSetAndRecordEvent is newScale w).2 := by
  unfold scaleMachineSetAndRecordEvent
  split
  · exact .refl w
  · exact .updateMachineSet rfl

end SameObjects

/-! ### Invariants of every copy

Most invariants of the rollout say something of each machine and each node, wherever a copy of
it is held: in the store and in the lister. Such an invariant obeys the discipline as soon as
every write the controller builds maps good copies to good ones. -/

/-- Every machine satisfies `MP` and every node `NP`, in the store and in the lister. The
control cluster's own `Node` objects are read by no one but the transfer's uncordon, and are
left out. -/
structure Elementwise (MP : Machine → Prop) (NP : Node → Prop) (w : World) : Prop where
  store_nodes : ∀ x ∈ w.store.nodes, NP x
  cache_nodes : ∀ x ∈ w.cache.nodes, NP x
  store_machines : ∀ m ∈ w.store.machines, MP m
  cache_machines : ∀ m ∈ w.cache.machines, MP m

/-- The invariant asks of a copy what it asks of every object. -/
def Elementwise.invariant (MP : Machine → Prop) (NP : Node → Prop) : Invariant :=
  ⟨Elementwise MP NP, fun _ => MP, fun _ => NP⟩

section Calls

variable {MP : Machine → Prop} {NP : Node → Prop} {w w' : World} {err : Option GoError}

/-- A world where every copy is good ends a stretch that keeps the invariant. -/
theorem Elementwise.stays (h : Elementwise MP NP w') : (Elementwise.invariant MP NP).Stays w w' :=
  ⟨h, fun _ => id, fun _ => id⟩

/-- A weaker invariant of every copy holds wherever a stronger one does. -/
theorem Elementwise.mono {MQ : Machine → Prop} {NQ : Node → Prop} (h : Elementwise MP NP w)
    (hm : ∀ m, MP m → MQ m) (hn : ∀ x, NP x → NQ x) : Elementwise MQ NQ w :=
  ⟨fun x hx => hn x (h.store_nodes x hx), fun x hx => hn x (h.cache_nodes x hx),
    fun m hm' => hm m (h.store_machines m hm'), fun m hm' => hm m (h.cache_machines m hm')⟩

/-- Two invariants of every copy make one. -/
theorem Elementwise.and {MQ : Machine → Prop} {NQ : Node → Prop} (h₁ : Elementwise MP NP w)
    (h₂ : Elementwise MQ NQ w) : Elementwise (fun m => MP m ∧ MQ m) (fun x => NP x ∧ NQ x) w :=
  ⟨fun x hx => ⟨h₁.store_nodes x hx, h₂.store_nodes x hx⟩,
    fun x hx => ⟨h₁.cache_nodes x hx, h₂.cache_nodes x hx⟩,
    fun m hm => ⟨h₁.store_machines m hm, h₂.store_machines m hm⟩,
    fun m hm => ⟨h₁.cache_machines m hm, h₂.cache_machines m hm⟩⟩

/-- The lister's copy of a kind is the old copy or the store's. -/
theorem Elementwise.of_lists (hk : Elementwise MP NP w)
    (hsn : ∀ x ∈ w'.store.nodes, NP x) (hsm : ∀ m ∈ w'.store.machines, MP m)
    (hcn : w'.cache.nodes = w.cache.nodes ∨ w'.cache.nodes = w'.store.nodes)
    (hcm : w'.cache.machines = w.cache.machines ∨ w'.cache.machines = w'.store.machines) :
    Elementwise MP NP w' where
  store_nodes := hsn
  cache_nodes := by rcases hcn with h | h <;> rw [h]; exacts [hk.cache_nodes, hsn]
  store_machines := hsm
  cache_machines := by rcases hcm with h | h <;> rw [h]; exacts [hk.cache_machines, hsm]

/-- A call that writes neither machines nor nodes keeps every invariant of every copy. -/
theorem Elementwise.of_same (hk : Elementwise MP NP w) (h : SameObjects w w') :
    Elementwise MP NP w' :=
  ⟨h.store_nodes ▸ hk.store_nodes, h.cache_nodes ▸ hk.cache_nodes,
    h.store_machines ▸ hk.store_machines, h.cache_machines ▸ hk.cache_machines⟩

/-- **A machine patch** keeps the invariant when it maps the stored machine to a good one. -/
theorem Elementwise.patchMachine (hk : Elementwise MP NP w) {name : String} {p : MachinePatch}
    (hp : ∀ m ∈ w.store.machines, m.name = name → MP (p.apply m))
    (h : patchMachine name p w = (err, w')) : Elementwise MP NP w' := by
  have hs := patchMachine_settles h
  have hst : (∀ m ∈ w'.store.machines, MP m) ∧ w'.store.nodes = w.store.nodes :=
    hs.store (fun c => (∀ m ∈ c.machines, MP m) ∧ c.nodes = w.store.nodes)
      ⟨hk.store_machines, rfl⟩ fun _ _ hc => by
        obtain ⟨m, hm, rfl⟩ := Cluster.applyPatchMachine_ok _ hc
        obtain ⟨hmem, hname⟩ := Cluster.getMachine_eq_some _ hm
        refine ⟨fun y hy => ?_, rfl⟩
        rcases mem_replaceNamed hy with rfl | ⟨hy, -⟩
        exacts [hp m hmem hname, hk.store_machines y hy]
  refine hk.of_lists (hst.2 ▸ hk.store_nodes) hst.1 ?_ ?_ <;> rcases hs.cache with hc | hc <;>
    rw [hc]
  exacts [.inl rfl, .inl rfl, .inl rfl, .inr rfl]

/-- **A node `Update`** keeps the invariant when the node it sends is good at any version,
through either client. -/
theorem Elementwise.updateNode (hk : Elementwise MP NP w) {client : Client} {x : Node}
    (hx : ∀ rv, NP { x with resourceVersion := rv }) (h : updateNode client x w = (err, w')) :
    Elementwise MP NP w' := by
  have hs := updateNode_settles h
  have hst : (∀ y ∈ w'.store.nodes, NP y) ∧ w'.store.machines = w.store.machines :=
    hs.store (fun c => (∀ y ∈ c.nodes, NP y) ∧ c.machines = w.store.machines)
      ⟨hk.store_nodes, rfl⟩ fun _ _ hc => by
        obtain ⟨rv, rfl⟩ := Cluster.applyUpdateNode_ok _ hc
        split
        · refine ⟨fun y hy => ?_, rfl⟩
          rcases mem_replaceNamed hy with rfl | ⟨hy, -⟩
          exacts [hx rv, hk.store_nodes y hy]
        · exact ⟨hk.store_nodes, rfl⟩
  refine hk.of_lists hst.1 (hst.2 ▸ hk.store_machines) ?_ ?_ <;> rcases hs.cache with hc | hc <;>
    rw [hc]
  exacts [.inl rfl, .inr rfl, .inl rfl, .inl rfl]

/-- **The controller's write to the lister's node** keeps the invariant when it writes a good
node. -/
theorem Elementwise.mutateCachedNode (hk : Elementwise MP NP w) (listed : Node) {x : Node}
    (hx : NP x) : Elementwise MP NP (w.mutateCachedNode listed x) := by
  unfold World.mutateCachedNode
  split
  · refine ⟨hk.store_nodes, fun y hy => ?_, hk.store_machines, hk.cache_machines⟩
    rcases mem_replaceNamed hy with rfl | ⟨hy, -⟩
    exacts [hx, hk.cache_nodes y hy]
  · exact hk

end Calls

/-- **An invariant of every copy obeys the discipline** when each label patch and each
ownership patch maps the stored namesake of a good copy to a good machine, each node edit and
the harvest's uncordon of a good node is good, and the server's version stamp is not looked
at. -/
theorem Elementwise.discipline {MP : Machine → Prop} {NP : Node → Prop} {newIS : MachineSet}
    (hpatch : ∀ {x p}, MP x → ControllerPatch newIS x p →
      ∀ m, m.name = x.name → MP m → MP (p.apply m))
    (htransfer : ∀ {x node ns} (is : MachineSet), MP x → NP node → CopyOf newIS ns →
      node.labels.get? labelKeyMachineUpdateSuccessful = some "true" →
      x.labels.get nodeLabelKey = node.name →
      ∀ m, m.name = x.name → MP m → MP ((addControllerPatch ns is x).apply m))
    (hedit : ∀ {x y}, NP x → NodeEdit x y → NP y) (huncordon : ∀ {x}, NP x → NP (uncordonedNode x))
    (hversion : ∀ {y} (rv : Nat), NP y → NP { y with resourceVersion := rv }) :
    Discipline (Elementwise.invariant MP NP) newIS where
  cache_machines hk := hk.cache_machines
  cache_nodes hk := hk.cache_nodes
  patch hk hx hp h :=
    (hk.patchMachine (fun m hm hn => hpatch hx hp m hn (hk.store_machines m hm)) h).stays
  transfer is hk hx hnode hns hu hl h :=
    (hk.patchMachine (fun m hm hn => htransfer is hx hnode hns hu hl m hn (hk.store_machines m hm))
      h).stays
  update hk hx he h := (hk.updateNode (fun rv => hversion rv (hedit hx he)) h).stays
  mutate hk hx he := (hk.mutateCachedNode _ (hedit hx he)).stays
  harvest hk hx _ _ _ h := (hk.updateNode (fun rv => hversion rv (huncordon hx)) h).stays
  harvestCache hk hx _ _ _ := (hk.mutateCachedNode _ (huncordon hx)).stays
  scale hk h := (hk.of_same (.updateMachineSet h)).stays
  labelSet hk h := (hk.of_same (.patchMachineSet h)).stays
  deleteSet hk h := (hk.of_same (.deleteMachineSet h)).stays
  external helper hk := (hk.of_same (.externalCall _ helper)).stays

end MachineControllerManager
