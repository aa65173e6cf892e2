import MachineControllerManager.Controller.Discipline

/-!
# No lost node update under optimistic concurrency

The rollout writes nodes with whole-object `Update`s (`Nodes().Update(ctx, node)`), and the
node it sends is the lister's copy with one edit applied. The node agent meanwhile writes the
same nodes: cordons, drain-successful, ready-for-update, update-successful. A stale copy sent
back whole would silently undo those writes. What prevents it is the API server's
resource-version check: an `Update` carrying an older version than the stored one conflicts.

This module shows that the check suffices, over every run of the system.

* `NodeEditOf s x`: `x` is the node `s` with at most the controller's own edits
  (candidate-for-update and selected-for-update set to `true`, update-successful and
  ready-for-update erased, the cordon lifted), everything else as in `s`.
* `NodeCopyOk w y`: the lister copy `y` is no newer than the stored node, and at the stored
  node's version it is that node with at most the controller's edits.
* `versionInvariant w₀` is an invariant of the discipline of `Controller/Discipline.lean`
  (`versionDiscipline`) when the server checks versions: hence every reconcile changes each
  stored node only by the controller's edits (`rolloutAutoInPlace_edits_nodes`).
* Along every run from a caught-up cluster in which the server stamps each node write with a
  newer version (`VersionedEvent`), every reconcile changes each stored node only by the
  controller's edits (`versionedRun_reconcile_edits_nodes`): no label or cordon the agent
  wrote is ever lost, however stale the copies the controller reads.
* Without the check a stale copy does undo the agent's write
  (`versionedRun_reconcile_loses_drain_label_without_version_check`).
-/

namespace MachineControllerManager

/-! ### The controller's edits of a node -/

/-- `x` is the node `s` with at most the controller's edits: candidate-for-update and
selected-for-update set to `true`, update-successful and ready-for-update erased, the cordon
lifted. Every other label, and drain-successful in particular, is as in `s`. -/
structure NodeEditOf (s x : Node) : Prop where
  name : x.name = s.name
  foreign : ∀ k, k ∉ [labelKeyMachineCandidateForUpdate, labelKeyMachineSelectedForUpdate,
    labelKeyMachineUpdateSuccessful, labelKeyMachineReadyForUpdate] →
    x.labels.get? k = s.labels.get? k
  set : ∀ k ∈ [labelKeyMachineCandidateForUpdate, labelKeyMachineSelectedForUpdate],
    x.labels.get? k = s.labels.get? k ∨ x.labels.get? k = some "true"
  erased : ∀ k ∈ [labelKeyMachineUpdateSuccessful, labelKeyMachineReadyForUpdate],
    x.labels.get? k = s.labels.get? k ∨ x.labels.get? k = none
  unschedulable : x.unschedulable = s.unschedulable ∨ x.unschedulable = false

namespace NodeEditOf

/-- A node is an edit of itself. -/
theorem refl (s : Node) : NodeEditOf s s :=
  ⟨rfl, fun _ _ => rfl, fun _ _ => .inl rfl, fun _ _ => .inl rfl, .inl rfl⟩

/-- An edit of an edit is an edit. -/
theorem trans {s x y : Node} (h₁ : NodeEditOf s x) (h₂ : NodeEditOf x y) : NodeEditOf s y where
  name := h₂.name.trans h₁.name
  foreign k hk := (h₂.foreign k hk).trans (h₁.foreign k hk)
  set k hk := (h₂.set k hk).elim (fun h => by rw [h]; exact h₁.set k hk) .inr
  erased k hk := (h₂.erased k hk).elim (fun h => by rw [h]; exact h₁.erased k hk) .inr
  unschedulable := h₂.unschedulable.elim (fun h => by rw [h]; exact h₁.unschedulable) .inr

/-- The server's version stamp is not an edit. -/
theorem version {s x : Node} (h : NodeEditOf s x) (rv : Nat) :
    NodeEditOf s { x with resourceVersion := rv } :=
  ⟨h.name, h.foreign, h.set, h.erased, h.unschedulable⟩

end NodeEditOf

/-- The controller's edits keep the copy's version: the server compares it. -/
theorem NodeEdit.resourceVersion {x y : Node} (he : NodeEdit x y) :
    y.resourceVersion = x.resourceVersion := by
  cases he <;> rfl

/-- The labels the controller sets are not the ones it erases. -/
theorem setKeys_not_mem_erasedKeys :
    ∀ k ∈ [labelKeyMachineCandidateForUpdate, labelKeyMachineSelectedForUpdate],
      k ∉ [labelKeyMachineUpdateSuccessful, labelKeyMachineReadyForUpdate] := by decide

/-- Each edit the controller builds from a lister copy is one of its edits. -/
theorem NodeEdit.editOf {x y : Node} (he : NodeEdit x y) : NodeEditOf x y := by
  have hset : ∀ {k}, k ∈ [labelKeyMachineCandidateForUpdate, labelKeyMachineSelectedForUpdate] →
      NodeEditOf x { x with labels := x.labels.set k "true" } := fun {k} hk =>
    { name := rfl
      foreign := fun k' hk' => by
        rw [Labels.get?_set, if_neg fun h : k' = k => hk' (by
          subst h; simp only [List.mem_cons] at hk ⊢; tauto)]
      set := fun k' _ => by
        rw [Labels.get?_set]; split
        exacts [.inr rfl, .inl rfl]
      erased := fun k' hk' => .inl (by rw [Labels.get?_set, if_neg fun h : k' = k =>
        setKeys_not_mem_erasedKeys k hk (h ▸ hk')])
      unschedulable := .inl rfl }
  cases he with
  | candidate => exact hset (List.mem_cons_self _ _)
  | selected => exact hset (List.mem_cons_of_mem _ (List.mem_singleton_self _))
  | schedulable => exact ⟨rfl, fun _ _ => rfl, fun _ _ => .inl rfl, fun _ _ => .inl rfl, .inr rfl⟩

/-- The harvest's uncordon is one of the controller's edits. -/
theorem uncordonedNode_editOf (x : Node) : NodeEditOf x (uncordonedNode x) := by
  refine ⟨rfl, fun k hk => ?_, fun k hk => .inl ?_, fun k hk => .inr ?_, .inr rfl⟩ <;>
    simp only [uncordonedNode, Labels.get?_erase]
  · rw [if_neg fun h => hk (by simp [h]), if_neg fun h => hk (by simp [h])]
  · rw [if_neg fun h => setKeys_not_mem_erasedKeys k hk (by simp [h]),
      if_neg fun h => setKeys_not_mem_erasedKeys k hk (by simp [h])]
  · simp only [List.mem_cons, List.mem_singleton, List.not_mem_nil, or_false] at hk
    rcases hk with rfl | rfl <;> split <;> simp_all

/-! ### Lister copies and versions -/

/-- The lister copy `y` is no newer than the stored node of its name, and at that node's
version it is that node with at most the controller's edits. -/
def NodeCopyOk (w : World) (y : Node) : Prop :=
  ∀ s ∈ w.store.nodes, s.name = y.name →
    y.resourceVersion ≤ s.resourceVersion ∧ (y.resourceVersion = s.resourceVersion → NodeEditOf s y)

/-- Each stored node of `c'` is the one of `c`, or its namesake at a newer version: what the
server's stamp gives of every write it accepts. -/
def NodesBumped (c c' : Cluster) : Prop :=
  ∀ s' ∈ c'.nodes, ∃ s ∈ c.nodes,
    s' = s ∨ (s.name = s'.name ∧ s.resourceVersion < s'.resourceVersion)

/-- Each stored node of `c'` is the one of `c`, or a newer version of it with at most the
controller's edits. -/
def NodesAdvance (c c' : Cluster) : Prop :=
  ∀ s' ∈ c'.nodes, ∃ s ∈ c.nodes, s' = s ∨
    (s.resourceVersion < s'.resourceVersion ∧ NodeEditOf s s')

/-- Each stored node of `c'` is one of `c` with at most the controller's edits. -/
def NodesEdited (c c' : Cluster) : Prop :=
  ∀ s' ∈ c'.nodes, ∃ s ∈ c.nodes, NodeEditOf s s'

/-- A stored node is a good copy of itself: names are unique. -/
theorem NodeCopyOk.of_store {w : World} {x : Node} (hx : x ∈ w.store.nodes) : NodeCopyOk w x :=
  fun s hs hn => by
    obtain rfl := List.inj_on_of_nodup_map w.store.nodes_nodup hs hx hn
    exact ⟨le_rfl, fun _ => .refl s⟩

/-- Where every stored node is kept or bumped, a good copy stays good: a copy older than the
stored node is never at its version. -/
theorem NodeCopyOk.advance {w w' : World} {y : Node} (hy : NodeCopyOk w y)
    (hadv : NodesBumped w.store w'.store) : NodeCopyOk w' y := fun s' hs' hn => by
  obtain ⟨s, hs, rfl | ⟨hname, hlt⟩⟩ := hadv s' hs'
  · exact hy s' hs hn
  · have := (hy s hs (hname.trans hn)).1
    exact ⟨by omega, fun h => by omega⟩

/-- Unchanged nodes are bumped trivially. -/
theorem NodesBumped.of_nodes_eq {c c' : Cluster} (h : c'.nodes = c.nodes) : NodesBumped c c' :=
  fun s hs => ⟨s, h ▸ hs, .inl rfl⟩

/-- Another writer's `Update` of a stored node, stamped with a newer version. -/
theorem NodesBumped.setNode {c : Cluster} {x x' : Node} (hx : x ∈ c.nodes)
    (hname : x'.name = x.name) (hrv : x.resourceVersion < x'.resourceVersion) :
    NodesBumped c (c.setNode x') := fun s' hs' => by
  rcases mem_replaceNamed hs' with rfl | ⟨hs', -⟩
  exacts [⟨x, hx, .inr ⟨hname.symm, hrv⟩⟩, ⟨s', hs', .inl rfl⟩]

/-- The nodes advance trivially over themselves. -/
theorem NodesAdvance.refl (c : Cluster) : NodesAdvance c c := fun s hs => ⟨s, hs, .inl rfl⟩

/-- Unchanged nodes advance trivially. -/
theorem NodesAdvance.of_nodes_eq {c c' : Cluster} (h : c'.nodes = c.nodes) : NodesAdvance c c' :=
  fun s hs => ⟨s, h ▸ hs, .inl rfl⟩

/-- Advanced nodes are bumped: every new copy is at a newer version. -/
theorem NodesAdvance.bumped {c c' : Cluster} (h : NodesAdvance c c') : NodesBumped c c' :=
  fun s' hs' => by
    obtain ⟨s, hs, rfl | ⟨hlt, hedit⟩⟩ := h s' hs'
    exacts [⟨s', hs, .inl rfl⟩, ⟨s, hs, .inr ⟨hedit.name.symm, hlt⟩⟩]

/-- Every node is edited from itself. -/
theorem NodesEdited.refl (c : Cluster) : NodesEdited c c := fun s hs => ⟨s, hs, .refl s⟩

/-- Edits followed by advances are edits. -/
theorem NodesEdited.advance {c c' c'' : Cluster} (h : NodesEdited c c')
    (hadv : NodesAdvance c' c'') : NodesEdited c c'' := fun s'' hs'' => by
  obtain ⟨s', hs', rfl | ⟨-, hedit⟩⟩ := hadv s'' hs''
  · exact h s'' hs'
  · obtain ⟨s, hs, h₁⟩ := h s' hs'
    exact ⟨s, hs, h₁.trans hedit⟩

/-! ### The version invariant -/

/-- The server checks versions, and every node in the lister is a good copy. -/
structure VersionsHold (w : World) : Prop where
  checked : w.checksResourceVersion = true
  copies : ∀ x ∈ w.cache.nodes, NodeCopyOk w x

/-- Every reconcile step from `w₀` on: versions hold, and the stored nodes are those of `w₀`
with at most the controller's edits. -/
def versionInvariant (w₀ : World) : Invariant where
  Good w := VersionsHold w ∧ NodesEdited w₀.store w.store
  MachineOk _ _ := True
  NodeOk := NodeCopyOk

section Calls

variable {w₀ w w' : World}

/-- A call whose stored nodes only advance, and whose node cache is the old one or the
store's, keeps the invariant. -/
theorem versionInvariant.stays (hG : (versionInvariant w₀).Good w)
    (hadv : NodesAdvance w.store w'.store) (hrv : w'.checksResourceVersion = w.checksResourceVersion)
    (hcache : w'.cache.nodes = w.cache.nodes ∨ w'.cache.nodes = w'.store.nodes) :
    (versionInvariant w₀).Stays w w' where
  good := ⟨⟨hrv.trans hG.1.checked, fun x hx => by
      rcases hcache with h | h <;> rw [h] at hx
      exacts [(hG.1.copies x hx).advance hadv.bumped, .of_store hx]⟩, hG.2.advance hadv⟩
  machine _ _ := trivial
  node _ hy := hy.advance hadv.bumped

/-- A call that writes no node keeps the invariant. -/
theorem versionInvariant.stays_of_settles {call : Call} {refresh : Cluster → Cluster → Cluster}
    {serve : Bool → Except GoError Cluster} {err : Option GoError}
    (hG : (versionInvariant w₀).Good w) (hs : Settles call refresh serve w w' err)
    (hserve : ∀ f c', serve f = .ok c' → c'.nodes = w.store.nodes)
    (hrefresh : ∀ c c', (refresh c c').nodes = c.nodes) : (versionInvariant w₀).Stays w w' := by
  refine versionInvariant.stays hG (.of_nodes_eq (hs.store (·.nodes = w.store.nodes) rfl hserve))
    hs.checksResourceVersion (.inl ?_)
  rcases hs.cache with h | h <;> rw [h]
  exact hrefresh _ _

/-- The server's answer to a node `Update` it accepts: it found the node of the name, at the
copy's version when it checks versions, and stored the copy with the next version. -/
theorem Cluster.applyUpdateNode_ok_version (c : Cluster) {toTarget checksResourceVersion fails : Bool}
    {x : Node} {c' : Cluster} (h : c.applyUpdateNode toTarget checksResourceVersion x fails = .ok c') :
    ∃ s ∈ (if toTarget then c.nodes else c.controlNodes), s.name = x.name ∧
      (checksResourceVersion = true → s.resourceVersion = x.resourceVersion) ∧
      c' = if toTarget then c.setNode { x with resourceVersion := s.resourceVersion + 1 }
        else c.setControlNode { x with resourceVersion := s.resourceVersion + 1 } := by
  unfold applyUpdateNode at h
  split at h
  · cases h
  rename_i s hs
  split at h
  · cases h
  split at h
  · cases h
  rename_i hrv
  cases h
  exact ⟨s, List.mem_of_find?_eq_some hs, by simpa using List.find?_some hs,
    fun hc => by simpa [hc] using hrv, rfl⟩

/-- **A node `Update` built from a good copy** advances the stored node by the controller's
edit, or conflicts: the server's version check catches every stale copy. -/
theorem versionInvariant.update (hG : (versionInvariant w₀).Good w) {client : Client}
    {x y : Node} {err : Option GoError} (hx : NodeCopyOk w x) (hxy : NodeEditOf x y)
    (hrv : y.resourceVersion = x.resourceVersion) (h : updateNode client y w = (err, w')) :
    (versionInvariant w₀).Stays w w' := by
  have hs := updateNode_settles h
  have hadv : NodesAdvance w.store w'.store := by
    refine hs.store (NodesAdvance w.store) (.refl _) fun _ _ hc => ?_
    obtain ⟨s, hs₁, hname, hrv', rfl⟩ := Cluster.applyUpdateNode_ok_version _ hc
    split
    · rename_i htarget
      rw [if_pos htarget] at hs₁
      intro s' hs'
      rcases mem_replaceNamed hs' with rfl | ⟨hs', -⟩
      · obtain ⟨-, hcur⟩ := hx s hs₁ (hname.trans hxy.name)
        have hver : x.resourceVersion = s.resourceVersion :=
          hrv ▸ (hrv' hG.1.checked).symm
        exact ⟨s, hs₁, .inr ⟨by simp, ((hcur hver).trans hxy).version _⟩⟩
      · exact ⟨s', hs', .inl rfl⟩
    · exact .of_nodes_eq rfl
  refine versionInvariant.stays hG hadv hs.checksResourceVersion ?_
  rcases hs.cache with hc | hc <;> rw [hc]
  exacts [.inl rfl, .inr rfl]

/-- Writing the controller's edit into the lister's copy keeps the copies good. -/
theorem versionInvariant.mutate (hG : (versionInvariant w₀).Good w) {x y : Node}
    (hx : NodeCopyOk w x) (hxy : NodeEditOf x y) (hrv : y.resourceVersion = x.resourceVersion) :
    (versionInvariant w₀).Stays w (w.mutateCachedNode x y) := by
  have hy : NodeCopyOk w y := fun s hs hn => by
    obtain ⟨hle, hcur⟩ := hx s hs (hn.trans hxy.name)
    exact ⟨hrv ▸ hle, fun h => (hcur (hrv ▸ h)).trans hxy⟩
  have hstore : NodesBumped w.store (w.mutateCachedNode x y).store :=
    .of_nodes_eq (by rw [World.mutateCachedNode_store])
  refine ⟨⟨⟨?_, fun z hz => (?_ : NodeCopyOk w z).advance hstore⟩, ?_⟩, fun _ _ => trivial,
    fun z hz => hz.advance hstore⟩
  · exact (World.mutateCachedNode_checksResourceVersion w x y).trans hG.1.checked
  · unfold World.mutateCachedNode at hz
    split at hz
    · rcases mem_replaceNamed hz with rfl | ⟨hz, -⟩
      exacts [hy, hG.1.copies z hz]
    · exact hG.1.copies z hz
  · rw [World.mutateCachedNode_store]; exact hG.2

/-- **The version invariant obeys the discipline** of every copy of every new set. -/
theorem versionDiscipline (w₀ : World) (newIS : MachineSet) :
    Discipline (versionInvariant w₀) newIS where
  cache_machines _ _ _ := trivial
  cache_nodes hG := hG.1.copies
  patch hG _ _ h := versionInvariant.stays_of_settles hG (patchMachine_settles h)
    (fun _ _ hc => by obtain ⟨m, -, rfl⟩ := Cluster.applyPatchMachine_ok _ hc; rfl) fun _ _ => rfl
  transfer _ hG _ _ _ _ _ h := versionInvariant.stays_of_settles hG (patchMachine_settles h)
    (fun _ _ hc => by obtain ⟨m, -, rfl⟩ := Cluster.applyPatchMachine_ok _ hc; rfl) fun _ _ => rfl
  update hG hx he h := versionInvariant.update hG hx he.editOf he.resourceVersion h
  mutate hG hx he := versionInvariant.mutate hG hx he.editOf he.resourceVersion
  harvest hG hx _ _ _ h := versionInvariant.update hG hx (uncordonedNode_editOf _) rfl h
  harvestCache hG hx _ _ _ := versionInvariant.mutate hG hx (uncordonedNode_editOf _) rfl
  scale hG h := versionInvariant.stays_of_settles hG (updateMachineSet_settles h)
    (fun _ _ hc => by obtain ⟨s, -, -, rfl⟩ := Cluster.applyUpdateMachineSet_ok _ hc; rfl)
    fun _ _ => rfl
  labelSet hG h := versionInvariant.stays_of_settles hG (patchMachineSet_settles h)
    (fun _ _ hc => by rcases Cluster.applyPatchMachineSet_ok _ hc with rfl | ⟨s, -, rfl⟩ <;> rfl)
    fun _ _ => rfl
  deleteSet hG h := versionInvariant.stays_of_settles hG (deleteMachineSet_settles h)
    (fun _ _ hc => by rw [Cluster.applyDeleteMachineSet_ok _ hc]; rfl) fun _ _ => rfl
  external _ hG := versionInvariant.stays_of_settles hG (externalCall_settles rfl)
    (fun f _ hc => by cases f <;> cases hc; rfl) fun _ _ => rfl

end Calls

/-- **A reconcile only edits nodes**: from a world whose server checks versions and whose
lister holds good copies, each stored node after `rolloutAutoInPlace` is one from before with
at most the controller's edits, and the lister still holds good copies. -/
theorem rolloutAutoInPlace_edits_nodes {w : World} (h : VersionsHold w)
    (autoscalerScaleDownAnnotationDuringRollout : Bool) (d : MachineDeployment)
    (newIS : MachineSet) (oldISs : List MachineSet) :
    VersionsHold (rolloutAutoInPlace autoscalerScaleDownAnnotationDuringRollout d newIS oldISs w).2 ∧
      NodesEdited w.store
        (rolloutAutoInPlace autoscalerScaleDownAnnotationDuringRollout d newIS oldISs w).2.store :=
  (rolloutAutoInPlace_stays (versionDiscipline w newIS) autoscalerScaleDownAnnotationDuringRollout
    d ⟨rfl, rfl⟩ oldISs ⟨h, .refl _⟩).good

/-! ### Runs -/

/-- One event of the system: a reconcile of any deployment; an `Update` of any node by another
writer (the node agent, an operator), which the server stamps with a newer version; a write of
any machine; an informer delivery. -/
inductive VersionedEvent : World → World → Prop
  | reconcile (w : World) (autoscalerScaleDownAnnotationDuringRollout : Bool)
      (d : MachineDeployment) (newIS : MachineSet) (oldISs : List MachineSet) :
      VersionedEvent w
        (rolloutAutoInPlace autoscalerScaleDownAnnotationDuringRollout d newIS oldISs w).2
  | writeNode (w : World) (x x' : Node) (hx : x ∈ w.store.nodes) (hname : x'.name = x.name)
      (hrv : x.resourceVersion < x'.resourceVersion) :
      VersionedEvent w { w with store := w.store.setNode x' }
  | writeMachine (w : World) (m : Machine) :
      VersionedEvent w { w with store := w.store.setMachine m }
  | syncMachines (w : World) : VersionedEvent w w.syncMachines
  | syncNodes (w : World) : VersionedEvent w w.syncNodes
  | syncMachineSets (w : World) : VersionedEvent w w.syncMachineSets

/-- The runs of the system: any sequence of events, under any failure schedule. -/
def VersionedRun : World → World → Prop := Relation.ReflTransGen VersionedEvent

/-- Before any event, the lister holds the stored nodes themselves. -/
theorem VersionsHold.init (c : Cluster) (outcomes : List Outcome) (controlIsTarget : Bool) :
    VersionsHold (World.init c outcomes true controlIsTarget) :=
  ⟨rfl, fun _ hx => .of_store hx⟩

/-- **The step**: every event keeps the lister's copies good. -/
theorem VersionsHold.event {w w' : World} (h : VersionsHold w) (he : VersionedEvent w w') :
    VersionsHold w' := by
  cases he with
  | reconcile flag d newIS oldISs => exact (rolloutAutoInPlace_edits_nodes h flag d newIS oldISs).1
  | writeNode x x' hx hname hrv =>
    exact ⟨h.checked, fun y hy => (h.copies y hy).advance (.setNode hx hname hrv)⟩
  | writeMachine m => exact ⟨h.checked, fun y hy => (h.copies y hy).advance (.of_nodes_eq rfl)⟩
  | syncMachines => exact ⟨h.checked, h.copies⟩
  | syncNodes => exact ⟨h.checked, fun _ hx => .of_store hx⟩
  | syncMachineSets => exact ⟨h.checked, h.copies⟩

/-- **The run**: the lister's copies stay good all along every run. -/
theorem VersionsHold.run {w w' : World} (h : VersionsHold w) (hr : VersionedRun w w') :
    VersionsHold w' := by
  induction hr with
  | refl => exact h
  | tail _ he ih => exact ih.event he

/-- **No lost node update**: along every run from a caught-up cluster whose server checks
resource versions, in which other writers change any node at any time and the informers
deliver late, each reconcile changes each stored node only by the controller's own edits.
Every label but the four the controller writes, the drain-successful label of the node agent
among them, is as the reconcile found it, however stale the lister's copies it sent back. -/
theorem versionedRun_reconcile_edits_nodes {c : Cluster} {outcomes : List Outcome}
    {controlIsTarget : Bool} {w : World}
    (h : VersionedRun (World.init c outcomes true controlIsTarget) w)
    (autoscalerScaleDownAnnotationDuringRollout : Bool) (d : MachineDeployment)
    (newIS : MachineSet) (oldISs : List MachineSet) :
    ∀ s' ∈ (rolloutAutoInPlace autoscalerScaleDownAnnotationDuringRollout d newIS oldISs
      w).2.store.nodes, ∃ s ∈ w.store.nodes, NodeEditOf s s' :=
  (rolloutAutoInPlace_edits_nodes ((VersionsHold.init c outcomes controlIsTarget).run h)
    autoscalerScaleDownAnnotationDuringRollout d newIS oldISs).2

/-- One reconcile of the transfer's example, from its start: every node is an edit of its
start. -/
theorem versionedRun_reconcile_edits_nodes_example :
    VersionedRun (World.init (transferExampleCluster 2) [] true true)
      (World.init (transferExampleCluster 2) [] true true) ∧
    ∀ s' ∈ (rolloutAutoInPlace false transferExampleDeployment transferExampleNewIS
      [transferExampleOldIS 2] (World.init (transferExampleCluster 2) [] true true)).2.store.nodes,
      ∃ s ∈ (transferExampleCluster 2).nodes, NodeEditOf s s' :=
  ⟨.refl, versionedRun_reconcile_edits_nodes .refl false transferExampleDeployment
    transferExampleNewIS [transferExampleOldIS 2]⟩

/-- The node agent's write in the transfer example: `node-0` drained, at the next version. -/
def drainedExampleNode : Node :=
  { transferExampleNode "0" with
    labels := (labelKeyMachineDrainSuccessful, "true") :: (transferExampleNode "0").labels
    resourceVersion := 2 }

/-- **The check is needed**: without it, the agent drains `node-0` after the lister took its
copy, and the reconcile that labels the node a candidate sends the stale copy back whole,
erasing the drain-successful label. -/
theorem versionedRun_reconcile_loses_drain_label_without_version_check :
    ∃ w, VersionedRun (World.init (transferExampleCluster 2) [] false true) w ∧
      ∃ s' ∈ (rolloutAutoInPlace false transferExampleDeployment transferExampleNewIS
        [transferExampleOldIS 2] w).2.store.nodes, ¬∃ s ∈ w.store.nodes, NodeEditOf s s' := by
  let w₀ := World.init (transferExampleCluster 2) [] false true
  let w := { w₀ with store := w₀.store.setNode drainedExampleNode }
  have hrun : VersionedRun w₀ w :=
    .single (.writeNode w₀ (transferExampleNode "0") _ (by decide) rfl (by decide))
  have hdrained : ∀ s ∈ w.store.nodes, s.name = "node-0" →
      s.labels.get? labelKeyMachineDrainSuccessful = some "true" := by decide
  obtain ⟨s', hs', hname, hlost⟩ : ∃ s' ∈ (rolloutAutoInPlace false transferExampleDeployment
      transferExampleNewIS [transferExampleOldIS 2] w).2.store.nodes,
      s'.name = "node-0" ∧ s'.labels.get? labelKeyMachineDrainSuccessful = none := by decide
  refine ⟨w, hrun, s', hs', fun ⟨s, hs, hedit⟩ => ?_⟩
  have hkept := hedit.foreign labelKeyMachineDrainSuccessful (by decide)
  rw [hlost, hdrained s hs (hedit.name.symm.trans hname)] at hkept
  cases hkept

end MachineControllerManager
