import MachineControllerManager.Controller.Progress
import MachineControllerManager.Controller.Frame
import MachineControllerManager.Controller.Conservation

/-!
# A whole reconcile hands over every reported machine

`reconcileNewMachineSetInPlace` runs inside `rolloutAutoInPlace`, after calls that label the
old sets' machines and nodes candidates and harvest the new set's machines, and before calls
that select more machines, harvest again and prune (`rolloutAutoInPlace_eq` cuts the round
there). This module follows a reported machine through the whole round, and the owner of every
machine through every run.

* `ownerInvariant n P`: the stored machine `n` has `P`, a property of its owner that the new
  set's machines have. Every call keeps it (`ownerDiscipline`): the label patches name no
  owner, the ownership patch names the new set. Over every run of the system a machine changes
  its owner at most once, and only to the new set (`rolloutRun_moves_owner_once`).
* `trackInvariant newIS old m x`: `Tracks` as an invariant of the discipline. It obeys it
  (`trackDiscipline`) when the old set's selector binds no handshake label, so that the label
  patches built from copies of `m` keep `old` selecting it, and when the old and new
  selectors conflict, so that the harvest never uncordons `x`: it uncordons only nodes named
  by machines the new set selects, and the only machine naming `x` is `m`, which `old`
  selects.
* `rolloutAutoInPlace_moves_reported_machines`: a reconcile that reports success, from a
  caught-up world with the new set below the deployment's replicas, hands every reported
  machine of `old` to the new set. `Tracks` holds up to the transfer (`rolloutPrefix_stays`),
  the transfer moves the machine (`reconcileNewMachineSetInPlace_moves`), and the calls after
  it keep the owner (`rolloutSuffix_stays`).
* **Progress** (`rolloutRun_grows_new_set`): the number of machines the new set owns
  (`Cluster.ownedNames`) never falls along a run, and a run through such a reconcile ends with
  more of them than it began with.
-/

namespace MachineControllerManager

/-! ### The owner of a machine -/

/-- The stored machine `n` has `P`; nothing is asked of lister copies. -/
def ownerInvariant (n : String) (P : Machine → Prop) : Invariant :=
  ⟨fun w => w.store.MachineHas n P, fun _ _ => True, fun _ _ => True⟩

section Owner

variable {n : String} {P : Machine → Prop} {w w' : World} {err : Option GoError}

/-- A world whose machine has the fact ends a stretch that keeps the owner invariant. -/
theorem ownerInvariant.stays (h : w'.store.MachineHas n P) : (ownerInvariant n P).Stays w w' :=
  ⟨h, fun _ _ => trivial, fun _ _ => trivial⟩

/-- Writing through a listed node leaves every machine. -/
theorem Cluster.MachineHas.mutateCachedNode (h : w.store.MachineHas n P) (listed x : Node) :
    (w.mutateCachedNode listed x).store.MachineHas n P := by
  rw [World.mutateCachedNode_store]; exact h

/-- Writing a machine of the same owner keeps a fact about owners. -/
theorem Cluster.MachineHas.setMachine {c : Cluster} (h : c.MachineHas n P) {m : Machine}
    (hm : m ∈ c.machines) {m' : Machine} (hname : m'.name = m.name)
    (hcontroller : m'.controller = m.controller)
    (hP : ∀ y y', y'.controller = y.controller → P y → P y') : (c.setMachine m').MachineHas n P := by
  obtain ⟨y, hy, hPy⟩ := h
  rw [Cluster.MachineHas, Cluster.getMachine_setMachine, hy]
  split
  · rename_i hn
    obtain ⟨hymem, hyn⟩ := Cluster.getMachine_eq_some _ hy
    obtain rfl := List.inj_on_of_nodup_map c.machines_nodup hymem hm (hyn.trans (hn.symm.trans hname))
    exact ⟨m', rfl, hP y m' hcontroller hPy⟩
  · exact ⟨y, rfl, hPy⟩

/-- **Every call keeps a fact about the owner** of a stored machine, when machines of the same
owner share it and the new set's machines have it: the label patches leave the owner, the
ownership patch names the new set, and no other call writes a machine. -/
theorem ownerDiscipline (newIS : MachineSet) (n : String)
    (hP : ∀ m m', m'.controller = m.controller → P m → P m')
    (hnew : ∀ m, m.OwnedBy newIS → P m) : Discipline (ownerInvariant n P) newIS where
  cache_machines _ _ _ := trivial
  cache_nodes _ _ _ := trivial
  patch hG _ hp h := ownerInvariant.stays (hG.patch (fun m => hP m _
    (by simp only [MachinePatch.apply, hp.controller, Option.none_or])) h)
  transfer is hG _ _ hns _ _ h := ownerInvariant.stays
    (hG.patch (fun m _ => hnew _ (addControllerPatch_apply_ownedBy_of_copy hns is _ m)) h)
  update hG _ _ h := ownerInvariant.stays (hG.nodeUpdate h)
  mutate hG _ _ := ownerInvariant.stays (hG.mutateCachedNode _ _)
  harvest hG _ _ _ _ h := ownerInvariant.stays (hG.nodeUpdate h)
  harvestCache hG _ _ _ _ := ownerInvariant.stays (hG.mutateCachedNode _ _)
  scale hG h := ownerInvariant.stays (hG.of_same (.updateMachineSet h))
  labelSet hG h := ownerInvariant.stays (hG.of_same (.patchMachineSet h))
  deleteSet hG h := ownerInvariant.stays (hG.of_same (.deleteMachineSet h))
  external helper hG := ownerInvariant.stays (hG.of_same (.externalCall _ helper))

/-- The new set's ownership of a machine is such a fact. -/
theorem ownedDiscipline (newIS : MachineSet) (n : String) :
    Discipline (ownerInvariant n (Machine.OwnedBy newIS)) newIS :=
  ownerDiscipline newIS n (fun _ _ h hm => h.trans hm) fun _ h => h

/-- **The step**: every event of the system keeps a fact about the owner of a stored machine;
the node agent writes no owner. -/
theorem ownerInvariant.event {newIS : MachineSet}
    (hP : ∀ m m', m'.controller = m.controller → P m → P m')
    (hnew : ∀ m, m.OwnedBy newIS → P m) (hG : (ownerInvariant n P).Good w)
    (he : RolloutEvent newIS w w') : (ownerInvariant n P).Good w' := by
  cases he with
  | reconcile flag d ns oldISs hns =>
    exact (rolloutAutoInPlace_stays (ownerDiscipline newIS n hP hnew) flag d hns oldISs hG).good
  | agentNode x x' => exact hG.of_machines_eq rfl
  | agentMachine m m' hm hname _ hcontroller => exact hG.setMachine hm hname hcontroller hP
  | syncMachines => exact hG
  | syncNodes => exact hG
  | syncMachineSets => exact hG

/-- **The run**: a fact about the owner of a stored machine holds all along every run. -/
theorem ownerInvariant.run {newIS : MachineSet}
    (hP : ∀ m m', m'.controller = m.controller → P m → P m')
    (hnew : ∀ m, m.OwnedBy newIS → P m) (hG : (ownerInvariant n P).Good w)
    (h : RolloutRun newIS w w') : (ownerInvariant n P).Good w' := by
  induction h with
  | refl => exact hG
  | tail _ he ih => exact ownerInvariant.event hP hnew ih he

end Owner

/-- **A machine changes its owner at most once, and only to the new set**: along every run of
the system, from any of its worlds, a stored machine owned by `o` is at every later world
still stored, owned by `o` or by the new set. Taking `o` to be the new set: a machine the new
set owns stays its own, however the listers lag and whatever the node agent writes. -/
theorem rolloutRun_moves_owner_once {newIS : MachineSet} {w w' : World}
    (h : RolloutRun newIS w w') {n : String} {o : Option String}
    (hm : w.store.MachineHas n fun m => m.controller = o) :
    w'.store.MachineHas n fun m => m.controller = o ∨ m.OwnedBy newIS :=
  ownerInvariant.run (fun _ _ h' => by rw [Machine.OwnedBy, Machine.OwnedBy, h']; exact id)
    (fun _ h' => .inr h')
    (let ⟨y, hy, hc⟩ := hm; ⟨y, hy, .inl hc⟩) h

/-- After the example's two reconciles `machine-0` belongs to its old set or to the new one. -/
theorem frameExample_moves_owner_once :
    RolloutRun transferExampleNewIS (World.init (transferExampleCluster 2) [] true true)
      frameExampleWorld ∧
    (World.init (transferExampleCluster 2) [] true true).store.MachineHas "machine-0"
      (fun m => m.controller = some "machineset-old") ∧
    frameExampleWorld.store.MachineHas "machine-0"
      (fun m => m.controller = some "machineset-old" ∨ m.OwnedBy transferExampleNewIS) :=
  have hm : (World.init (transferExampleCluster 2) [] true true).store.MachineHas "machine-0"
      (fun m => m.controller = some "machineset-old") := ⟨_, rfl, rfl⟩
  ⟨frameExampleWorld_run, hm, rolloutRun_moves_owner_once frameExampleWorld_run hm⟩

/-! ### The round follows a reported machine -/

/-- Merging a vocabulary label leaves every key outside the vocabulary. -/
theorem get?_mergeStringMaps_of_not_mem (labels : Labels) {k k' : String}
    (hk : k ∉ inPlaceLabelKeys) (hk' : k' ∈ inPlaceLabelKeys) (v : String) :
    (mergeStringMaps labels [(k', v)]).get? k = labels.get? k := by
  simp only [get?_mergeStringMaps, Labels.get?_cons, if_neg (not_mem_inPlaceLabelKeys_ne hk hk'),
    Labels.get?_nil, Option.none_or]

/-- Off the handshake vocabulary, a label patch leaves a machine the label of the lister's copy
it was built from, or its own. -/
theorem ControllerPatch.get?_apply {newIS : MachineSet} {x : Machine} {p : MachinePatch}
    (hp : ControllerPatch newIS x p) {k : String} (hk : k ∉ inPlaceLabelKeys) (sm : Machine) :
    (p.apply sm).labels.get? k = x.labels.get? k ∨ (p.apply sm).labels.get? k = sm.labels.get? k := by
  have hrk : p.removedLabels.contains k = false :=
    Bool.eq_false_iff.mpr fun h => hk (hp.keeps.removed k (List.elem_iff.mp h))
  have hpk : p.labels.get? k = none ∨ p.labels.get? k = x.labels.get? k := by
    cases hp with
    | candidate => exact .inr (get?_mergeStringMaps_of_not_mem _ hk candidate_mem_inPlaceLabelKeys _)
    | selected => exact .inr (get?_mergeStringMaps_of_not_mem _ hk selected_mem_inPlaceLabelKeys _)
    | removeUpdateLabels => exact .inl rfl
  rw [MachinePatch.get?_apply, hrk, if_neg Bool.false_ne_true]
  rcases hpk with h | h <;> rw [h]
  · exact .inr Option.none_or
  · cases x.labels.get? k <;> simp

/-- `Tracks` as an invariant of the discipline: a lister copy may be written back when the new
set owns `m`, or when it is as `Follows` asks. -/
def trackInvariant (newIS old : MachineSet) (m : Machine) (x : Node) : Invariant :=
  ⟨Tracks newIS old m x,
    fun w y => w.store.MachineHas m.name (Machine.OwnedBy newIS) ∨ FollowsMachine old m x y,
    fun w y => w.store.MachineHas m.name (Machine.OwnedBy newIS) ∨ FollowsNode x y⟩

section Track

variable {newIS old : MachineSet} {m : Machine} {x : Node} {w w' : World} {err : Option GoError}

/-- A label patch built from a copy of a machine writes a copy as `FollowsMachine` asks, when
`old`'s selector binds no handshake label: the patched machine keeps, off the vocabulary, the
labels of the lister's copy or its own, and both are as asked. -/
theorem FollowsMachine.patch (hkeys : ∀ k ∈ inPlaceLabelKeys, old.selector.get? k = none)
    {x' sm : Machine} {p : MachinePatch} (hx : FollowsMachine old m x x')
    (hp : ControllerPatch newIS x' p) (hsm : FollowsMachine old m x sm) (hsn : sm.name = x'.name) :
    FollowsMachine old m x (p.apply sm) := by
  have hlabel : (p.apply sm).labels.get nodeLabelKey = x'.labels.get nodeLabelKey ∨
      (p.apply sm).labels.get nodeLabelKey = sm.labels.get nodeLabelKey :=
    (hp.get?_apply (by decide) sm).imp (congrArg (Option.getD · "")) (congrArg (Option.getD · ""))
  refine ⟨fun hl => hlabel.elim (fun h => hsn.trans (hx.1 (h.symm.trans hl)))
    (fun h => hsm.1 (h.symm.trans hl)), fun hn => ?_⟩
  have hxs := hx.2 (hsn.symm.trans hn)
  have hss := hsm.2 hn
  refine ⟨Labels.selects_iff.mpr fun k v hv => ?_, hlabel.elim (·.trans hxs.2) (·.trans hss.2)⟩
  have hk : k ∉ inPlaceLabelKeys := fun hk => by rw [hkeys k hk] at hv; cases hv
  rcases hp.get?_apply hk sm with h | h <;> rw [h]
  exacts [Labels.selects_iff.mp hxs.1 k v hv, Labels.selects_iff.mp hss.1 k v hv]

/-- A patch the controller builds from a machine that follows keeps it following. -/
theorem Follows.patch (hkeys : ∀ k ∈ inPlaceLabelKeys, old.selector.get? k = none)
    (hf : Follows old m x w) {x' : Machine} {p : MachinePatch} (hx : FollowsMachine old m x x')
    (hp : ControllerPatch newIS x' p) (h : patchMachine x'.name p w = (err, w')) :
    Follows old m x w' :=
  hf.of_names (hf.copies.patchMachine (fun sm hsm hsn =>
    hx.patch hkeys hp (hf.copies.store_machines sm hsm) hsn) h) (.patchMachine h)

/-- The node edits keep the update-successful label. -/
theorem FollowsNode.edit {x₀ y : Node} (hx : FollowsNode x x₀) (he : NodeEdit x₀ y) :
    FollowsNode x y := fun hn => by
  cases he with
  | candidate => rw [Labels.get?_set, if_neg (by decide)]; exact hx hn
  | selected => rw [Labels.get?_set, if_neg (by decide)]; exact hx hn
  | schedulable => exact hx hn

/-- **The harvest uncordons no copy of `x`** when the selectors conflict: the machine naming
the node it uncordons is selected by the new set, while the only machine naming `x` is `m`,
which `old` selects. -/
theorem FollowsNode.uncordoned (hconflict : selectorsConflict newIS.selector old.selector = true)
    {x₀ : Node} {mm : Machine} (hmm : FollowsMachine old m x mm)
    (hsel : newIS.selector.selects mm.labels = true)
    (hlabel : mm.labels.get? nodeLabelKey = some x₀.name) : FollowsNode x (uncordonedNode x₀) :=
  fun hn => by
    have hmx : mm.labels.get nodeLabelKey = x.name := by rw [Labels.get_eq, hlabel]; exact hn
    have hold := (hmm.2 (hmm.1 hmx)).1
    rw [selectorsConflict_selects hconflict hsel] at hold
    cases hold

/-- A call keeps the invariant when it keeps the new set's ownership of `m` and ends in a
world the round tracks. -/
theorem trackInvariant.stays
    (hown : w.store.MachineHas m.name (Machine.OwnedBy newIS) →
      w'.store.MachineHas m.name (Machine.OwnedBy newIS))
    (ht : Tracks newIS old m x w') : (trackInvariant newIS old m x).Stays w w' :=
  ⟨ht, fun _ => Or.imp_left hown, fun _ => Or.imp_left hown⟩

/-- A call that leaves the machines and nodes keeps the invariant. -/
theorem trackInvariant.of_same (hG : Tracks newIS old m x w) (h : SameObjects w w') :
    (trackInvariant newIS old m x).Stays w w' :=
  trackInvariant.stays (·.of_same h) (hG.of_same h)

/-- A call that writes a copy keeps the invariant when it keeps the new set's ownership of `m`,
and `Tracks` from a world the round follows when the copy is as `Follows` asks. -/
theorem trackInvariant.stays_of {P : Prop}
    (hown : w.store.MachineHas m.name (Machine.OwnedBy newIS) →
      w'.store.MachineHas m.name (Machine.OwnedBy newIS))
    (hG : Tracks newIS old m x w) (hP : w.store.MachineHas m.name (Machine.OwnedBy newIS) ∨ P)
    (hf : Follows old m x w → P → Tracks newIS old m x w') :
    (trackInvariant newIS old m x).Stays w w' := by
  refine trackInvariant.stays hown ?_
  rcases hG with ho | hG
  · exact .inl (hown ho)
  rcases hP with ho | hP
  exacts [.inl (hown ho), hf hG hP]

/-- **Every call keeps `Tracks`**, when the new selector leaves the node label alone, `old`'s
selector binds no handshake label, and the two selectors conflict. -/
theorem trackDiscipline (hnew : newIS.selector.get? nodeLabelKey = none)
    (hkeys : ∀ k ∈ inPlaceLabelKeys, old.selector.get? k = none)
    (hconflict : selectorsConflict newIS.selector old.selector = true) :
    Discipline (trackInvariant newIS old m x) newIS where
  cache_machines hG y hy := hG.imp id fun hf => hf.copies.cache_machines y hy
  cache_nodes hG y hy := hG.imp id fun hf => hf.copies.cache_nodes y hy
  patch hG hx hp h := trackInvariant.stays_of
    (fun ho => ((ownedDiscipline newIS m.name).patch ho trivial hp h).good) hG hx fun hf hx =>
      .inr (hf.patch hkeys hx hp h)
  transfer is hG hx _ hns hus hxn h := trackInvariant.stays_of
    (fun ho => ((ownedDiscipline newIS m.name).transfer is ho trivial trivial hns hus hxn h).good)
    hG hx fun hf hx => Tracks.transfer hns hnew (.inr hf) hx h
  update hG hx he h := trackInvariant.stays_of (·.nodeUpdate h) hG hx fun hf hx =>
    Tracks.update (.inr hf) (hx.edit he) h
  mutate hG hx he := trackInvariant.stays_of (·.mutateCachedNode _ _) hG hx fun hf hx =>
    Tracks.mutate (.inr hf) _ (hx.edit he)
  harvest hG _ hmm hsel hlabel h := trackInvariant.stays_of (·.nodeUpdate h) hG hmm fun hf hmm =>
    Tracks.update (.inr hf) (FollowsNode.uncordoned hconflict hmm hsel hlabel) h
  harvestCache hG _ hmm hsel hlabel := trackInvariant.stays_of (·.mutateCachedNode _ _) hG hmm
    fun hf hmm => Tracks.mutate (.inr hf) _ (FollowsNode.uncordoned hconflict hmm hsel hlabel)
  scale hG h := trackInvariant.of_same hG (.updateMachineSet h)
  labelSet hG h := trackInvariant.of_same hG (.patchMachineSet h)
  deleteSet hG h := trackInvariant.of_same hG (.deleteMachineSet h)
  external helper hG := trackInvariant.of_same hG (.externalCall _ helper)

end Track

/-- A reconcile that reports success hands `m` to the new set when the round tracks `m` from
its start, below the deployment's replicas: `Tracks` holds up to the transfer, the transfer
moves `m`, and the calls after it keep the owner. -/
theorem rolloutAutoInPlace_moves {flag : Bool} {d : MachineDeployment} {newIS old : MachineSet}
    {oldISs : List MachineSet} {w : World} {m : Machine} {x : Node}
    (hnew : newIS.selector.get? nodeLabelKey = none)
    (hkeys : ∀ k ∈ inPlaceLabelKeys, old.selector.get? k = none)
    (hconflict : selectorsConflict newIS.selector old.selector = true)
    (hgrow : newIS.replicas < d.replicas) (ht : Tracks newIS old m x w) (hold : old ∈ oldISs)
    (hok : (rolloutAutoInPlace flag d newIS oldISs w).1 = none) :
    (rolloutAutoInPlace flag d newIS oldISs w).2.store.MachineHas m.name
      (Machine.OwnedBy newIS) := by
  have hcopy : CopyOf newIS newIS := ⟨rfl, rfl⟩
  have hpre := rolloutPrefix_stays (trackDiscipline hnew hkeys hconflict) flag hcopy oldISs ht
  rw [rolloutAutoInPlace_eq] at hok ⊢
  revert hok
  split
  · exact fun h => nomatch h
  have ht₁ := (Invariant.Stays.of_eq hpre ‹_›).good
  split
  · exact fun h => nomatch h
  rename_i heq
  intro _
  have hown := reconcileNewMachineSetInPlace_moves hnew hgrow ht₁ hold (by rw [heq])
  rw [heq] at hown
  exact (rolloutSuffix_stays (ownedDiscipline newIS m.name) flag d hcopy oldISs _ hown).good

/-- **A reconcile that reports success hands over every reported machine**: from a world whose
listers have caught up, when the new set is below the deployment's replicas and
`rolloutAutoInPlace` returns no error, every machine of an old set whose node is labelled
update-successful, and that no other machine names, is owned by the new set at the end of the
reconcile, however the listers lag during it. The calls before the transfer label machines and
nodes and uncordon the new set's nodes; the calls after it select, drain and prune. The new
selector may not bind the node label, the old selectors may not bind a handshake label, and
each old selector must conflict with the new one. -/
theorem rolloutAutoInPlace_moves_reported_machines {flag : Bool} {d : MachineDeployment}
    {newIS : MachineSet} {oldISs : List MachineSet} {w : World} (hfresh : w.cache = w.store)
    (hnew : newIS.selector.get? nodeLabelKey = none)
    (hkeys : ∀ old ∈ oldISs, ∀ k ∈ inPlaceLabelKeys, old.selector.get? k = none)
    (hconflict : ∀ old ∈ oldISs, selectorsConflict newIS.selector old.selector = true)
    (hgrow : newIS.replicas < d.replicas) (hok : (rolloutAutoInPlace flag d newIS oldISs w).1 = none) :
    ∀ m ∈ w.store.machines, (∃ is ∈ oldISs, is.selector.selects m.labels = true) →
      ∀ x ∈ w.store.nodes, x.name = m.labels.get nodeLabelKey →
      x.labels.get? labelKeyMachineUpdateSuccessful = some "true" →
      (∀ m' ∈ w.store.machines, m'.labels.get nodeLabelKey = x.name → m'.name = m.name) →
      (rolloutAutoInPlace flag d newIS oldISs w).2.store.MachineHas m.name
        (Machine.OwnedBy newIS) := by
  intro m hm ⟨old, hold, hsm⟩ x hx hxm hux huniq
  exact rolloutAutoInPlace_moves hnew (hkeys old hold) (hconflict old hold) hgrow
    (.inr (Follows.init hfresh hm hsm hx hxm.symm hux huniq)) hold hok

/-- One round over the transfer's example, from a caught-up world: every machine on a node
reported update-successful moves to the new set. -/
theorem rolloutAutoInPlace_moves_reported_machines_example :
    (World.init (transferExampleCluster 2) [] false true).cache =
      (World.init (transferExampleCluster 2) [] false true).store ∧
    transferExampleNewIS.selector.get? nodeLabelKey = none ∧
    (∀ old ∈ [transferExampleOldIS 2], ∀ k ∈ inPlaceLabelKeys, old.selector.get? k = none) ∧
    (∀ old ∈ [transferExampleOldIS 2],
      selectorsConflict transferExampleNewIS.selector old.selector = true) ∧
    transferExampleNewIS.replicas < transferExampleDeployment.replicas ∧
    (rolloutAutoInPlace false transferExampleDeployment transferExampleNewIS
      [transferExampleOldIS 2] (World.init (transferExampleCluster 2) [] false true)).1 = none ∧
    ∀ m ∈ (World.init (transferExampleCluster 2) [] false true).store.machines,
      (∃ is ∈ [transferExampleOldIS 2], is.selector.selects m.labels = true) →
      ∀ x ∈ (World.init (transferExampleCluster 2) [] false true).store.nodes,
      x.name = m.labels.get nodeLabelKey →
      x.labels.get? labelKeyMachineUpdateSuccessful = some "true" →
      (∀ m' ∈ (World.init (transferExampleCluster 2) [] false true).store.machines,
        m'.labels.get nodeLabelKey = x.name → m'.name = m.name) →
      (rolloutAutoInPlace false transferExampleDeployment transferExampleNewIS
        [transferExampleOldIS 2] (World.init (transferExampleCluster 2) [] false true)).2.store.MachineHas
        m.name (Machine.OwnedBy transferExampleNewIS) := by
  have hnew : transferExampleNewIS.selector.get? nodeLabelKey = none := by decide
  have hkeys : ∀ old ∈ [transferExampleOldIS 2], ∀ k ∈ inPlaceLabelKeys,
      old.selector.get? k = none := by decide
  have hconflict : ∀ old ∈ [transferExampleOldIS 2],
      selectorsConflict transferExampleNewIS.selector old.selector = true := by decide
  have hgrow : transferExampleNewIS.replicas < transferExampleDeployment.replicas := by decide
  have hok : (rolloutAutoInPlace false transferExampleDeployment transferExampleNewIS
      [transferExampleOldIS 2] (World.init (transferExampleCluster 2) [] false true)).1 = none := by
    decide
  exact ⟨rfl, hnew, hkeys, hconflict, hgrow, hok,
    rolloutAutoInPlace_moves_reported_machines rfl hnew hkeys hconflict hgrow hok⟩


/-! ### The rollout's progress measure -/

/-- Ownership is decided on the controller's name. -/
instance (ms : MachineSet) (m : Machine) : Decidable (m.OwnedBy ms) :=
  inferInstanceAs (Decidable (m.controller = some ms.name))

/-- The names of the stored machines the set `ms` owns, in the store's order. Their number is
the rollout's progress measure. -/
def Cluster.ownedNames (c : Cluster) (ms : MachineSet) : List String :=
  (c.machines.filter fun m => decide (m.OwnedBy ms)).map Machine.name

/-- The owned names are the names of the machines the set owns. -/
theorem Cluster.mem_ownedNames {c : Cluster} {ms : MachineSet} {n : String} :
    n ∈ c.ownedNames ms ↔ c.MachineHas n (Machine.OwnedBy ms) := by
  simp only [Cluster.ownedNames, List.mem_map, List.mem_filter, decide_eq_true_eq]
  constructor
  · rintro ⟨m, ⟨hm, ho⟩, rfl⟩
    exact ⟨m, Cluster.getMachine_of_mem hm, ho⟩
  · rintro ⟨m, hm, ho⟩
    obtain ⟨hmem, rfl⟩ := Cluster.getMachine_eq_some _ hm
    exact ⟨m, ⟨hmem, ho⟩, rfl⟩

section Measure

variable {c c' : Cluster} {ms : MachineSet}

/-- A store where every machine the set owned is still owned holds at least as many. -/
theorem Cluster.ownedNames_length_le
    (h : ∀ n, c.MachineHas n (Machine.OwnedBy ms) → c'.MachineHas n (Machine.OwnedBy ms)) :
    (c.ownedNames ms).length ≤ (c'.ownedNames ms).length :=
  (List.subperm_of_subset (nodup_map_filter _ _ c.machines_nodup) fun _ hn =>
    Cluster.mem_ownedNames.mpr (h _ (Cluster.mem_ownedNames.mp hn))).length_le

/-- ... and one more when it now owns a machine it did not own. -/
theorem Cluster.ownedNames_length_lt
    (h : ∀ n, c.MachineHas n (Machine.OwnedBy ms) → c'.MachineHas n (Machine.OwnedBy ms))
    {n : String} (hn' : c'.MachineHas n (Machine.OwnedBy ms))
    (hn : ¬ c.MachineHas n (Machine.OwnedBy ms)) :
    (c.ownedNames ms).length < (c'.ownedNames ms).length :=
  (List.subperm_of_subset
    (List.nodup_cons.mpr ⟨mt Cluster.mem_ownedNames.mp hn, nodup_map_filter _ _ c.machines_nodup⟩)
    (List.cons_subset.mpr ⟨Cluster.mem_ownedNames.mpr hn', fun _ hk =>
      Cluster.mem_ownedNames.mpr (h _ (Cluster.mem_ownedNames.mp hk))⟩)).length_le

end Measure

/-- Along every run the new set owns at least the machines it owned. -/
theorem ownedNames_length_le_of_run {newIS : MachineSet} {w w' : World}
    (h : RolloutRun newIS w w') :
    (w.store.ownedNames newIS).length ≤ (w'.store.ownedNames newIS).length :=
  Cluster.ownedNames_length_le fun _ hn =>
    ownerInvariant.run (fun _ _ h' hm => h'.trans hm) (fun _ h' => h') hn h

/-- **Every reported machine brings the rollout nearer its end**: the number of machines the
new set owns never falls along a run of the system, and a run through a reconcile that
reports success, from a caught-up world in which an old set's machine not owned by the new
set is reported as in `rolloutAutoInPlace_moves_reported_machines`, ends with more than it
began with. The number is bounded by the number of stored machines, which no run changes. -/
theorem rolloutRun_grows_new_set {newIS : MachineSet} {w w₁ w' : World} {flag : Bool}
    {d : MachineDeployment} {oldISs : List MachineSet} (h₁ : RolloutRun newIS w w₁)
    (h₂ : RolloutRun newIS (rolloutAutoInPlace flag d newIS oldISs w₁).2 w')
    (hfresh : w₁.cache = w₁.store) (hnew : newIS.selector.get? nodeLabelKey = none)
    (hkeys : ∀ old ∈ oldISs, ∀ k ∈ inPlaceLabelKeys, old.selector.get? k = none)
    (hconflict : ∀ old ∈ oldISs, selectorsConflict newIS.selector old.selector = true)
    (hgrow : newIS.replicas < d.replicas)
    (hok : (rolloutAutoInPlace flag d newIS oldISs w₁).1 = none) :
    ∀ m ∈ w₁.store.machines, ¬ m.OwnedBy newIS →
      (∃ is ∈ oldISs, is.selector.selects m.labels = true) →
      ∀ x ∈ w₁.store.nodes, x.name = m.labels.get nodeLabelKey →
      x.labels.get? labelKeyMachineUpdateSuccessful = some "true" →
      (∀ m' ∈ w₁.store.machines, m'.labels.get nodeLabelKey = x.name → m'.name = m.name) →
      (w.store.ownedNames newIS).length < (w'.store.ownedNames newIS).length := by
  intro m hm hmo ⟨old, hold, hsm⟩ x hx hxm hux huniq
  have hkept : ∀ n, w₁.store.MachineHas n (Machine.OwnedBy newIS) →
      (rolloutAutoInPlace flag d newIS oldISs w₁).2.store.MachineHas n (Machine.OwnedBy newIS) :=
    fun n hn => (rolloutAutoInPlace_stays (ownedDiscipline newIS n) flag d ⟨rfl, rfl⟩ oldISs hn).good
  have hmoved := rolloutAutoInPlace_moves hnew (hkeys old hold) (hconflict old hold) hgrow
    (.inr (Follows.init hfresh hm hsm hx hxm.symm hux huniq)) hold hok
  have hnot : ¬ w₁.store.MachineHas m.name (Machine.OwnedBy newIS) := fun ⟨y, hy, hyo⟩ => by
    rw [Cluster.getMachine_of_mem hm] at hy
    cases hy
    exact hmo hyo
  calc (w.store.ownedNames newIS).length
      ≤ (w₁.store.ownedNames newIS).length := ownedNames_length_le_of_run h₁
    _ < ((rolloutAutoInPlace flag d newIS oldISs w₁).2.store.ownedNames newIS).length :=
      Cluster.ownedNames_length_lt hkept hmoved hnot
    _ ≤ (w'.store.ownedNames newIS).length := ownedNames_length_le_of_run h₂

/-- One round over the transfer's example, from a caught-up world whose control client reaches
the nodes: the new set owns more machines than before. -/
theorem rolloutRun_grows_new_set_example :
    RolloutRun transferExampleNewIS (World.init (transferExampleCluster 2) [] false true)
      (World.init (transferExampleCluster 2) [] false true) ∧
    RolloutRun transferExampleNewIS (rolloutAutoInPlace false transferExampleDeployment
      transferExampleNewIS [transferExampleOldIS 2]
        (World.init (transferExampleCluster 2) [] false true)).2
      (rolloutAutoInPlace false transferExampleDeployment transferExampleNewIS
        [transferExampleOldIS 2] (World.init (transferExampleCluster 2) [] false true)).2 ∧
    (World.init (transferExampleCluster 2) [] false true).cache =
      (World.init (transferExampleCluster 2) [] false true).store ∧
    transferExampleNewIS.selector.get? nodeLabelKey = none ∧
    (∀ old ∈ [transferExampleOldIS 2], ∀ k ∈ inPlaceLabelKeys, old.selector.get? k = none) ∧
    (∀ old ∈ [transferExampleOldIS 2],
      selectorsConflict transferExampleNewIS.selector old.selector = true) ∧
    transferExampleNewIS.replicas < transferExampleDeployment.replicas ∧
    (rolloutAutoInPlace false transferExampleDeployment transferExampleNewIS
      [transferExampleOldIS 2] (World.init (transferExampleCluster 2) [] false true)).1 = none ∧
    ∀ m ∈ (World.init (transferExampleCluster 2) [] false true).store.machines,
      ¬ m.OwnedBy transferExampleNewIS →
      (∃ is ∈ [transferExampleOldIS 2], is.selector.selects m.labels = true) →
      ∀ x ∈ (World.init (transferExampleCluster 2) [] false true).store.nodes,
      x.name = m.labels.get nodeLabelKey →
      x.labels.get? labelKeyMachineUpdateSuccessful = some "true" →
      (∀ m' ∈ (World.init (transferExampleCluster 2) [] false true).store.machines,
        m'.labels.get nodeLabelKey = x.name → m'.name = m.name) →
      ((World.init (transferExampleCluster 2) [] false true).store.ownedNames
        transferExampleNewIS).length <
      ((rolloutAutoInPlace false transferExampleDeployment transferExampleNewIS
        [transferExampleOldIS 2] (World.init (transferExampleCluster 2) [] false true)).2.store.ownedNames
        transferExampleNewIS).length := by
  have hnew : transferExampleNewIS.selector.get? nodeLabelKey = none := by decide
  have hkeys : ∀ old ∈ [transferExampleOldIS 2], ∀ k ∈ inPlaceLabelKeys,
      old.selector.get? k = none := by decide
  have hconflict : ∀ old ∈ [transferExampleOldIS 2],
      selectorsConflict transferExampleNewIS.selector old.selector = true := by decide
  have hgrow : transferExampleNewIS.replicas < transferExampleDeployment.replicas := by decide
  have hok : (rolloutAutoInPlace false transferExampleDeployment transferExampleNewIS
      [transferExampleOldIS 2] (World.init (transferExampleCluster 2) [] false true)).1 = none := by
    decide
  exact ⟨.refl, .refl, rfl, hnew, hkeys, hconflict, hgrow, hok,
    rolloutRun_grows_new_set .refl .refl rfl hnew hkeys hconflict hgrow hok⟩

end MachineControllerManager
