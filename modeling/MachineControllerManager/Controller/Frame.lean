import MachineControllerManager.Controller.Discipline

/-!
# What the in-place rollout never touches

The rollout talks to the node agent through a small vocabulary of labels
(`inPlaceLabelKeys`: candidate-for-update, selected-for-update, update-successful,
ready-for-update, drain-successful). Every other label of a node or a machine belongs to
someone else. Yet the rollout never writes a label alone: its machine patches carry a whole
label map built from the lister's copy (`MergeStringMaps(machine.Labels, ...)`), and its node
`Update`s send back the lister's whole node. With informers that lag, those copies may be
stale.

This module shows that nothing outside the vocabulary moves all the same, over **every run
of the system**: any sequence of reconciles of one rollout (any deployment, copies of the
new set, old sets, flag), interleaved with the node agent rewriting handshake labels and
cordons, and with informers delivering, under every failure schedule.

* `Kept c₀ newIS w` says each node and machine of the world, stored or cached, is a version
  of the one of its name in the starting cluster `c₀`: a node agrees with it off the
  vocabulary; a machine agrees with it off the vocabulary up to labels rewritten to the new
  set's selector values (`LabelAgrees`), and is owned as it was or by the new set.
* `PatchKeeps` says what a machine patch built from a lister copy may do; the candidate and
  selected patches, the label removal and the ownership patch each satisfy it
  (`PatchKeeps.label`, `PatchKeeps.removeUpdateLabels`, `PatchKeeps.transfer`).
* `Kept` is an invariant of every copy (`Elementwise`), and every patch and node edit the
  controller builds maps a version to a version: it obeys the discipline of
  `Controller/Discipline.lean` (`keptDiscipline`), so every function of the controller keeps
  it (`rolloutAutoInPlace_kept`): every copy it writes comes from a world where `Kept` held.
* `RolloutRun` is the system's run relation; `Kept.event` is the step and `Kept.run` the run,
  and `rolloutRun_keeps_node_labels` and `rolloutRun_keeps_machine_labels` read the invariant
  off the store.

The machine statement records that the ownership patch does **not** drop the old set's
labels, whatever its comment says: a JSON merge patch deletes only the keys it sets to
`null`, and `machineNewLabels` sets none. Only the new selector's keys are rewritten.
-/

namespace MachineControllerManager

/-! ### Versions of the starting objects -/

/-- `x` is a version of the node of its name in `c₀`: the two agree on every label outside
the handshake vocabulary. -/
def NodeKept (c₀ : Cluster) (x : Node) : Prop :=
  ∃ x₀ ∈ c₀.nodes, x₀.name = x.name ∧
    ∀ k, k ∉ inPlaceLabelKeys → x.labels.get? k = x₀.labels.get? k

/-- At the key `k`, the labels `l'` hold what `l` holds, or the value `sel` binds `k` to. -/
def LabelAgrees (sel l l' : Labels) (k : String) : Prop :=
  l'.get? k = l.get? k ∨ ∃ v, sel.get? k = some v ∧ l'.get? k = some v

/-- `m'` differs from `m` at most in the handshake labels, in labels rewritten to the new set's
selector, and in an owner reference moved to the new set. -/
def MachineAgrees (newIS : MachineSet) (m m' : Machine) : Prop :=
  (∀ k, k ∉ inPlaceLabelKeys → LabelAgrees newIS.selector m.labels m'.labels k) ∧
  (m'.controller = m.controller ∨ m'.controller = some newIS.name)

/-- `m` is a version of the machine of its name in `c₀`. -/
def MachineKept (c₀ : Cluster) (newIS : MachineSet) (m : Machine) : Prop :=
  ∃ m₀ ∈ c₀.machines, m₀.name = m.name ∧ MachineAgrees newIS m₀ m

/-- Every node and machine of the world, in the store and in the informer cache, is a
version of its namesake in `c₀`. -/
abbrev Kept (c₀ : Cluster) (newIS : MachineSet) : World → Prop :=
  Elementwise (MachineKept c₀ newIS) (NodeKept c₀)

variable {c₀ : Cluster} {newIS : MachineSet}

/-- A key outside the rollout's vocabulary is none of its keys. -/
theorem not_mem_inPlaceLabelKeys_ne {k k' : String} (hk : k ∉ inPlaceLabelKeys)
    (hk' : k' ∈ inPlaceLabelKeys) : k ≠ k' :=
  fun h => hk (h ▸ hk')

/-- A node of the same name that agrees off the vocabulary is kept too. -/
theorem NodeKept.of_labels {x x' : Node} (hx : NodeKept c₀ x) (hname : x'.name = x.name)
    (hl : ∀ k, k ∉ inPlaceLabelKeys → x'.labels.get? k = x.labels.get? k) : NodeKept c₀ x' := by
  obtain ⟨x₀, hx₀, hn, hk⟩ := hx
  exact ⟨x₀, hx₀, hn.trans hname.symm, fun k h => (hl k h).trans (hk k h)⟩

/-- Agreement at a key reads only the value at that key. -/
theorem LabelAgrees.of_get?_eq {sel l l' l'' : Labels} {k : String} (h : l'.get? k = l''.get? k)
    (ha : LabelAgrees sel l l'' k) : LabelAgrees sel l l' k := by
  rw [LabelAgrees, h]; exact ha

/-- Agreement on a key composes along two writes. -/
theorem LabelAgrees.trans {sel l₁ l₂ l₃ : Labels} {k : String} (h₁ : LabelAgrees sel l₁ l₂ k)
    (h₂ : LabelAgrees sel l₂ l₃ k) : LabelAgrees sel l₁ l₃ k := by
  rcases h₂ with h₂ | h₂
  · exact .of_get?_eq h₂ h₁
  · exact .inr h₂

/-- Agreement of machines composes along two writes. -/
theorem MachineAgrees.trans {m₁ m₂ m₃ : Machine} (h₁ : MachineAgrees newIS m₁ m₂)
    (h₂ : MachineAgrees newIS m₂ m₃) : MachineAgrees newIS m₁ m₃ := by
  refine ⟨fun k hk => (h₁.1 k hk).trans (h₂.1 k hk), ?_⟩
  rcases h₂.2 with h | h
  · exact h ▸ h₁.2
  · exact .inr h

/-- A labels-only edit that agrees with the machine off the vocabulary, and names no owner but
the machine's or the new set, keeps a machine a version of its namesake. -/
theorem MachineKept.of_labels {m m' : Machine} (hm : MachineKept c₀ newIS m)
    (hname : m'.name = m.name)
    (hl : ∀ k, k ∉ inPlaceLabelKeys → LabelAgrees newIS.selector m.labels m'.labels k)
    (hc : m'.controller = m.controller ∨ m'.controller = some newIS.name) :
    MachineKept c₀ newIS m' := by
  obtain ⟨m₀, hm₀, hn, ha⟩ := hm
  exact ⟨m₀, hm₀, hn.trans hname.symm, ha.trans ⟨hl, hc⟩⟩

/-- What a machine patch built from the lister's copy `x` may do: set, off the vocabulary,
only labels `x` has or the new selector's values; delete only vocabulary keys; name no owner
but the new set. -/
structure PatchKeeps (newIS : MachineSet) (x : Machine) (p : MachinePatch) : Prop where
  labels : ∀ k, k ∉ inPlaceLabelKeys → p.labels.get? k = none ∨
    p.labels.get? k = x.labels.get? k ∨ ∃ v, newIS.selector.get? k = some v ∧ p.labels.get? k = some v
  removed : ∀ k ∈ p.removedLabels, k ∈ inPlaceLabelKeys
  controller : p.controller = none ∨ p.controller = some newIS.name

/-- **A machine patch keeps versions** when it is built from a version of the same machine. -/
theorem MachineKept.apply {m x : Machine} (hm : MachineKept c₀ newIS m)
    (hx : MachineKept c₀ newIS x) (hn : x.name = m.name) {p : MachinePatch}
    (hp : PatchKeeps newIS x p) : MachineKept c₀ newIS (p.apply m) := by
  obtain ⟨m₀, hm₀, hmn, hma⟩ := hm
  obtain ⟨x₀, hx₀, hxn, hxa⟩ := hx
  obtain rfl : x₀ = m₀ :=
    List.inj_on_of_nodup_map c₀.machines_nodup hx₀ hm₀ (hxn.trans (hn.trans hmn.symm))
  refine ⟨x₀, hx₀, hmn, fun k hk => ?_, ?_⟩
  · have hrk : p.removedLabels.contains k = false :=
      Bool.eq_false_iff.mpr fun h => hk (hp.removed k (List.elem_iff.mp h))
    have hres : (p.apply m).labels.get? k = (p.labels.get? k).or (m.labels.get? k) := by
      rw [MachinePatch.get?_apply, hrk, if_neg Bool.false_ne_true]
    rcases hp.labels k hk with h | h | ⟨v, hs, h⟩
    · exact .of_get?_eq (by rw [hres, h, Option.none_or]) (hma.1 k hk)
    · cases hxk : x.labels.get? k
      · exact .of_get?_eq (by rw [hres, h, hxk, Option.none_or]) (hma.1 k hk)
      · exact .of_get?_eq (by rw [hres, h, hxk]; rfl) (hxa.1 k hk)
    · exact .inr ⟨v, hs, by rw [hres, h]; rfl⟩
  · rcases hp.controller with h | h
    · have : (p.apply m).controller = m.controller := by
        simp only [MachinePatch.apply, h, Option.none_or]
      exact this ▸ hma.2
    · exact .inr (by simp only [MachinePatch.apply, h]; rfl)

/-! ### The controller's writes -/

/-- The candidate label is in the vocabulary. -/
theorem candidate_mem_inPlaceLabelKeys : labelKeyMachineCandidateForUpdate ∈ inPlaceLabelKeys := by
  decide

/-- The selection label is in the vocabulary. -/
theorem selected_mem_inPlaceLabelKeys : labelKeyMachineSelectedForUpdate ∈ inPlaceLabelKeys := by
  decide

/-- `MergeStringMaps(machine.Labels, {k: v})` for a vocabulary key `k`: the candidate and
selected-for-update patches. -/
theorem PatchKeeps.label (x : Machine) {k v : String} (hk : k ∈ inPlaceLabelKeys) :
    PatchKeeps newIS x { labels := mergeStringMaps x.labels [(k, v)] } where
  labels k' hk' := .inr (.inl (by
    simp only [get?_mergeStringMaps, Labels.get?_cons, if_neg (not_mem_inPlaceLabelKeys_ne hk' hk),
      Labels.get?_nil, Option.none_or]))
  removed _ h := nomatch h
  controller := .inl rfl

/-- The patch of `removeUpdateLabelsLoop` deletes three vocabulary keys and sets nothing. -/
theorem PatchKeeps.removeUpdateLabels (x : Machine) :
    PatchKeeps newIS x (removeLabels [labelKeyMachineSelectedForUpdate,
      labelKeyMachineDrainSuccessful, labelKeyMachineUpdateSuccessful]) where
  labels _ _ := .inl rfl
  removed := by decide
  controller := .inl rfl

/-- **The ownership patch** of the transfer sets the new selector's keys and update-successful,
and off them only the lister's labels that the old selector does not bind; it deletes nothing. -/
theorem PatchKeeps.transfer {ns : MachineSet} (hns : CopyOf newIS ns) (is : MachineSet)
    (x : Machine) : PatchKeeps newIS x (addControllerPatch ns is x) where
  labels k hk := by
    have hu : labelKeyMachineUpdateSuccessful ∈ inPlaceLabelKeys := by decide
    simp only [addControllerPatch, machineNewLabels, get?_mergeStringMaps,
      get?_mergeWithOverwriteAndFilter, Labels.get?_cons, if_neg (not_mem_inPlaceLabelKeys_ne hk hu),
      Labels.get?_nil, hns.2, Option.none_or]
    cases newIS.selector.get? k with
    | none => split <;> simp
    | some v => exact .inr (.inr ⟨v, rfl, rfl⟩)
  removed _ h := nomatch h
  controller := .inr (congrArg some hns.1)

/-- Setting a vocabulary label keeps a node. -/
theorem NodeKept.setLabel {x : Node} (hx : NodeKept c₀ x) {k : String}
    (hk : k ∈ inPlaceLabelKeys) (v : String) : NodeKept c₀ { x with labels := x.labels.set k v } :=
  hx.of_labels rfl fun k' hk' => by
    simp only [Labels.get?_set, if_neg (not_mem_inPlaceLabelKeys_ne hk' hk)]

/-- Making a node schedulable keeps it. -/
theorem NodeKept.schedulable {x : Node} (hx : NodeKept c₀ x) :
    NodeKept c₀ { x with unschedulable := false } :=
  hx.of_labels rfl fun _ _ => rfl

/-- The harvest's uncordon keeps a node: it erases vocabulary labels only. -/
theorem NodeKept.uncordoned {x : Node} (hx : NodeKept c₀ x) : NodeKept c₀ (uncordonedNode x) :=
  hx.of_labels rfl fun k hk => by
    simp only [uncordonedNode, Labels.get?_erase,
      if_neg (not_mem_inPlaceLabelKeys_ne hk (by decide : labelKeyMachineUpdateSuccessful ∈ _)),
      if_neg (not_mem_inPlaceLabelKeys_ne hk (by decide : labelKeyMachineReadyForUpdate ∈ _))]

/-! ### What each call keeps -/

/-! ### `Kept` obeys the discipline

Every machine and node the controller sends is built from a lister copy by a patch or an edit
that keeps versions, so every copy is a version: `Kept` is an invariant of the discipline of
`Controller/Discipline.lean`, and every function of the rollout keeps it. -/

/-- Every patch the controller builds keeps the machine. -/
theorem ControllerPatch.keeps {x : Machine} {p : MachinePatch} (hp : ControllerPatch newIS x p) :
    PatchKeeps newIS x p := by
  cases hp with
  | candidate => exact .label x candidate_mem_inPlaceLabelKeys
  | selected => exact .label x selected_mem_inPlaceLabelKeys
  | removeUpdateLabels => exact .removeUpdateLabels x

/-- Every node edit the controller builds keeps the node. -/
theorem NodeKept.edit {x y : Node} (hx : NodeKept c₀ x) (he : NodeEdit x y) : NodeKept c₀ y := by
  cases he with
  | candidate => exact hx.setLabel candidate_mem_inPlaceLabelKeys "true"
  | selected => exact hx.setLabel selected_mem_inPlaceLabelKeys "true"
  | schedulable => exact hx.schedulable

/-- **`Kept` obeys the discipline**: every patch and every node edit of a version is a
version. -/
theorem keptDiscipline :
    Discipline (Elementwise.invariant (MachineKept c₀ newIS) (NodeKept c₀)) newIS :=
  Elementwise.discipline (fun hx hp _ hn hm => hm.apply hx hn.symm hp.keeps)
    (fun is hx _ hns _ _ _ hn hm => hm.apply hx hn.symm (.transfer hns is _))
    (fun hx he => hx.edit he) (fun hx => hx.uncordoned) fun _ hy => hy

/-- **A reconcile keeps `Kept`**, for any deployment, flag, old sets and copy of the new set. -/
theorem rolloutAutoInPlace_kept {w : World} (autoscalerScaleDownAnnotationDuringRollout : Bool)
    (d : MachineDeployment) {ns : MachineSet} (hns : CopyOf newIS ns) (oldISs : List MachineSet)
    (hk : Kept c₀ newIS w) :
    Kept c₀ newIS (rolloutAutoInPlace autoscalerScaleDownAnnotationDuringRollout d ns oldISs w).2 :=
  (rolloutAutoInPlace_stays keptDiscipline autoscalerScaleDownAnnotationDuringRollout d hns oldISs
    hk).good


/-! ### Runs of the system -/

/-- One event of the system around a rollout to the new set `newIS`: a reconcile, handed a
copy of the new set and any deployment, old sets and flag; the external node agent (or the
machine controller that reports its results) rewriting a stored node or machine, off the
handshake vocabulary only as it was, and never the owner; or an informer delivering. -/
inductive RolloutEvent (newIS : MachineSet) : World → World → Prop
  | reconcile (w : World) (autoscalerScaleDownAnnotationDuringRollout : Bool)
      (d : MachineDeployment) (ns : MachineSet) (oldISs : List MachineSet) (hns : CopyOf newIS ns) :
      RolloutEvent newIS w (rolloutAutoInPlace autoscalerScaleDownAnnotationDuringRollout d ns oldISs w).2
  | agentNode (w : World) (x x' : Node) (hx : x ∈ w.store.nodes) (hname : x'.name = x.name)
      (hlabels : ∀ k, k ∉ inPlaceLabelKeys → x'.labels.get? k = x.labels.get? k) :
      RolloutEvent newIS w { w with store := w.store.setNode x' }
  | agentMachine (w : World) (m m' : Machine) (hm : m ∈ w.store.machines)
      (hname : m'.name = m.name)
      (hlabels : ∀ k, k ∉ inPlaceLabelKeys → m'.labels.get? k = m.labels.get? k)
      (hcontroller : m'.controller = m.controller) :
      RolloutEvent newIS w { w with store := w.store.setMachine m' }
  | syncMachines (w : World) : RolloutEvent newIS w w.syncMachines
  | syncNodes (w : World) : RolloutEvent newIS w w.syncNodes
  | syncMachineSets (w : World) : RolloutEvent newIS w w.syncMachineSets

/-- The runs of the system: any sequence of events, under any failure schedule. -/
def RolloutRun (newIS : MachineSet) : World → World → Prop :=
  Relation.ReflTransGen (RolloutEvent newIS)

/-- Before the rollout, every object is its own version. -/
theorem Kept.init (c₀ : Cluster) (outcomes : List Outcome)
    (checksResourceVersion controlIsTarget : Bool) :
    Kept c₀ newIS (World.init c₀ outcomes checksResourceVersion controlIsTarget) where
  store_nodes x hx := ⟨x, hx, rfl, fun _ _ => rfl⟩
  cache_nodes x hx := ⟨x, hx, rfl, fun _ _ => rfl⟩
  store_machines m hm := ⟨m, hm, rfl, fun _ _ => .inl rfl, .inl rfl⟩
  cache_machines m hm := ⟨m, hm, rfl, fun _ _ => .inl rfl, .inl rfl⟩

/-- **The step**: every event keeps `Kept`. -/
theorem Kept.event {w w' : World} (hk : Kept c₀ newIS w) (he : RolloutEvent newIS w w') :
    Kept c₀ newIS w' := by
  cases he with
  | reconcile flag d ns oldISs hns => exact rolloutAutoInPlace_kept flag d hns oldISs hk
  | agentNode x x' hx hname hlabels =>
    refine ⟨fun y hy => ?_, hk.cache_nodes, hk.store_machines, hk.cache_machines⟩
    rcases mem_replaceNamed hy with rfl | ⟨hy, -⟩
    exacts [(hk.store_nodes x hx).of_labels hname hlabels, hk.store_nodes y hy]
  | agentMachine m m' hm hname hlabels hcontroller =>
    refine ⟨hk.store_nodes, hk.cache_nodes, fun y hy => ?_, hk.cache_machines⟩
    rcases mem_replaceNamed hy with rfl | ⟨hy, -⟩
    exacts [(hk.store_machines m hm).of_labels hname (fun k h => .inl (hlabels k h)) (.inl hcontroller),
      hk.store_machines y hy]
  | syncMachines => exact ⟨hk.store_nodes, hk.cache_nodes, hk.store_machines, hk.store_machines⟩
  | syncNodes => exact ⟨hk.store_nodes, hk.store_nodes, hk.store_machines, hk.cache_machines⟩
  | syncMachineSets => exact ⟨hk.store_nodes, hk.cache_nodes, hk.store_machines, hk.cache_machines⟩

/-- **The run**: `Kept` holds all along every run. -/
theorem Kept.run {w w' : World} (hk : Kept c₀ newIS w) (h : RolloutRun newIS w w') :
    Kept c₀ newIS w' := by
  induction h with
  | refl => exact hk
  | tail _ he ih => exact ih.event he

/-- Two reconciles of the transfer example with the machine and node informers delivering in
between. -/
def frameExampleWorld : World :=
  let w₁ := (rolloutAutoInPlace false transferExampleDeployment transferExampleNewIS
    [transferExampleOldIS 2] (World.init (transferExampleCluster 2) [] true true)).2
  (rolloutAutoInPlace false transferExampleDeployment transferExampleNewIS
    [transferExampleOldIS 2] w₁.syncMachines.syncNodes).2

/-- The example's two reconciles are a run of the rollout. -/
theorem frameExampleWorld_run :
    RolloutRun transferExampleNewIS (World.init (transferExampleCluster 2) [] true true)
      frameExampleWorld :=
  .tail (.tail (.tail (.single (.reconcile _ false _ _ _ ⟨rfl, rfl⟩)) (.syncMachines _))
    (.syncNodes _)) (.reconcile _ false _ _ _ ⟨rfl, rfl⟩)

/-- **No foreign node label moves**: along every run of the system from a cluster `c`, every
stored node carries, off the handshake vocabulary, exactly the labels its namesake had in `c`.
The candidate and selected labels the rollout sets, the uncordon that erases two of them, and
the whole-object `Update`s it sends from lister copies that may be stale, leave every other
label as it was. -/
theorem rolloutRun_keeps_node_labels {c : Cluster} {outcomes : List Outcome}
    {checksResourceVersion controlIsTarget : Bool} {newIS : MachineSet} {w : World}
    (h : RolloutRun newIS (World.init c outcomes checksResourceVersion controlIsTarget) w) :
    ∀ x ∈ w.store.nodes, ∃ x₀ ∈ c.nodes, x₀.name = x.name ∧
      ∀ k, k ∉ inPlaceLabelKeys → x.labels.get? k = x₀.labels.get? k :=
  ((Kept.init c outcomes checksResourceVersion controlIsTarget).run h).store_nodes

/-- After the example's two reconciles every node keeps its labels off the vocabulary. -/
theorem frameExample_keeps_node_labels :
    RolloutRun transferExampleNewIS (World.init (transferExampleCluster 2) [] true true)
      frameExampleWorld ∧
    ∀ x ∈ frameExampleWorld.store.nodes, ∃ x₀ ∈ (transferExampleCluster 2).nodes,
      x₀.name = x.name ∧ ∀ k, k ∉ inPlaceLabelKeys → x.labels.get? k = x₀.labels.get? k :=
  ⟨frameExampleWorld_run, rolloutRun_keeps_node_labels frameExampleWorld_run⟩

/-- **Machines move only towards the new set**: along every run from `c`, every stored machine
carries, off the handshake vocabulary, each label its namesake had in `c` or the value the new
set's selector gives the key, and its owner is the one it had or the new set. In particular
the ownership transfer never deletes a label the old selector bound and the new one does not:
a merge patch removes only the keys it sets to `null`. -/
theorem rolloutRun_keeps_machine_labels {c : Cluster} {outcomes : List Outcome}
    {checksResourceVersion controlIsTarget : Bool} {newIS : MachineSet} {w : World}
    (h : RolloutRun newIS (World.init c outcomes checksResourceVersion controlIsTarget) w) :
    ∀ m ∈ w.store.machines, ∃ m₀ ∈ c.machines, m₀.name = m.name ∧
      (∀ k, k ∉ inPlaceLabelKeys → m.labels.get? k = m₀.labels.get? k ∨
        ∃ v, newIS.selector.get? k = some v ∧ m.labels.get? k = some v) ∧
      (m.controller = m₀.controller ∨ m.controller = some newIS.name) :=
  ((Kept.init c outcomes checksResourceVersion controlIsTarget).run h).store_machines

/-- After the example's two reconciles every machine carries, off the vocabulary, its old labels
or the new selector's, and its old owner or the new set. -/
theorem frameExample_keeps_machine_labels :
    RolloutRun transferExampleNewIS (World.init (transferExampleCluster 2) [] true true)
      frameExampleWorld ∧
    ∀ m ∈ frameExampleWorld.store.machines, ∃ m₀ ∈ (transferExampleCluster 2).machines,
      m₀.name = m.name ∧
      (∀ k, k ∉ inPlaceLabelKeys → m.labels.get? k = m₀.labels.get? k ∨
        ∃ v, transferExampleNewIS.selector.get? k = some v ∧ m.labels.get? k = some v) ∧
      (m.controller = m₀.controller ∨ m.controller = some transferExampleNewIS.name) :=
  ⟨frameExampleWorld_run, rolloutRun_keeps_machine_labels frameExampleWorld_run⟩

end MachineControllerManager
