import MachineControllerManager.Controller.Progress
import MachineControllerManager.Controller.Availability

/-!
# Marking the candidates, and selecting them

`labelNodesBackingMachineSets` is the rollout's marking step: for each old set it lists the
set's machines, patches every machine that names a node with candidate-for-update, and
updates that node unless the node lister already shows it marked. Its listers may lag its own
writes, and it trusts the node lister's mark.

* `AgreesOffCandidate w₀ y`: a machine copy carries the labels of its namesake in `w₀`,
  candidate-for-update apart. The candidate patch keeps every copy so
  (`AgreesOffCandidate.patch`), so each later listing still holds every machine a set
  selected at the start.
* `Marking w₀ w`: the store and the listers hold the names of `w₀`, every machine copy agrees
  with its namesake off the candidate label, and the node lister shows a node marked only
  when the store holds it marked. Both calls of the pass keep it (`Marking.patch`,
  `Marking.update`), and neither removes a mark (`MarksKept`).
* **Candidates** (`labelNodesBackingMachineSets_marks_candidates`): from a caught-up world,
  when the pass succeeds, every machine an old set selects that names a node is stored
  marked, and so is the stored node it names, provided no old selector binds the candidate
  label.

`selectMachineForUpdate` then selects marked machines within its budget. Until it labels a
machine it makes no call at all, so the first old set, in creation order, with replicas and an
eligible machine in the lister gets one labelled:

* **Selection makes progress** (`selectMachineForUpdate_selects_some`): from a caught-up world,
  when the selection passes its availability gate with a positive budget and succeeds, and an
  old set with replicas has a marked machine not yet selected, some machine is newly labelled
  selected-for-update.
-/

namespace MachineControllerManager

/-- A machine marked candidate for update. -/
def Machine.Candidate (m : Machine) : Prop :=
  m.labels.get? labelKeyMachineCandidateForUpdate = some "true"

/-- A node marked candidate for update. -/
def Node.Candidate (x : Node) : Prop :=
  x.labels.get? labelKeyMachineCandidateForUpdate = some "true"

/-- The marking's patch leaves the machine a candidate. -/
theorem candidatePatch_apply_candidate (x m : Machine) :
    (({ labels := mergeStringMaps x.labels [(labelKeyMachineCandidateForUpdate, "true")] } :
      MachinePatch).apply m).Candidate := by
  simp only [Machine.Candidate, MachinePatch.apply, Labels.get?_append, get?_mergeStringMaps,
    Labels.get?_cons, if_true]
  rfl

/-- The marking's node edit leaves the node a candidate, at whatever version it is stored. -/
theorem candidateNode_candidate (x : Node) (rv : Nat) :
    ({ x with labels := x.labels.set labelKeyMachineCandidateForUpdate "true",
               resourceVersion := rv } : Node).Candidate := by
  simp only [Node.Candidate, Labels.get?_set, if_true]

/-- The lister's test `node.Labels[candidate] == "true"`. -/
theorem Node.candidate_of_get {x : Node}
    (h : x.labels.get labelKeyMachineCandidateForUpdate = "true") : x.Candidate := by
  rw [Labels.get_eq] at h
  unfold Node.Candidate
  cases hc : x.labels.get? labelKeyMachineCandidateForUpdate with
  | none => rw [hc] at h; exact absurd h (by decide)
  | some v => rw [hc, Option.getD_some] at h; rw [h]

/-- A stored node is found by its name. -/
theorem Cluster.getNode_of_mem {c : Cluster} {x : Node} (hx : x ∈ c.nodes) :
    c.getNode x.name = some x := by
  have hsome : (c.getNode x.name).isSome := List.find?_isSome.mpr ⟨x, hx, beq_self_eq_true _⟩
  obtain ⟨y, hy⟩ := Option.isSome_iff_exists.mp hsome
  obtain ⟨hym, hyn⟩ := c.getNode_eq_some hy
  exact hy.trans (congrArg some (List.inj_on_of_nodup_map c.nodes_nodup hym hx hyn))

/-- A name the node lister does not find is no stored node's. -/
theorem Cluster.getNode_eq_none {c : Cluster} {n : String} (h : c.getNode n = none) :
    n ∉ c.nodes.map Node.name := fun hn => by
  obtain ⟨x, hx, rfl⟩ := List.mem_map.mp hn
  exact List.find?_eq_none.mp h x hx (beq_self_eq_true _)

section Calls

variable {w w' : World} {err : Option GoError}

/-- A machine patch leaves the nodes, in the store and in the lister. -/
theorem patchMachine_nodes {name : String} {p : MachinePatch}
    (h : patchMachine name p w = (err, w')) :
    w'.store.nodes = w.store.nodes ∧ w'.cache.nodes = w.cache.nodes := by
  have hs := patchMachine_settles h
  refine ⟨hs.store (·.nodes = w.store.nodes) rfl fun _ _ hc => ?_, ?_⟩
  · obtain ⟨m, -, rfl⟩ := Cluster.applyPatchMachine_ok _ hc; rfl
  · rcases hs.cache with hc | hc <;> rw [hc]; rfl

/-- After a node `Update` the node lister shows what it showed or what is stored. -/
theorem updateNode_cache_nodes {client : Client} {x : Node}
    (h : updateNode client x w = (err, w')) :
    w'.cache.nodes = w.cache.nodes ∨ w'.cache.nodes = w'.store.nodes :=
  (updateNode_settles h).cache.imp (congrArg Cluster.nodes) (fun hc => by rw [hc]; rfl)

end Calls

/-! ### What the pass keeps -/

/-- The machine copy `y` carries, candidate-for-update apart, the labels of its namesake in
`w₀`. -/
def AgreesOffCandidate (w₀ : World) (y : Machine) : Prop :=
  ∀ m ∈ w₀.store.machines, y.name = m.name →
    ∀ k, k ≠ labelKeyMachineCandidateForUpdate → y.labels.get? k = m.labels.get? k

/-- The candidate patch built from a copy leaves the machine it writes a copy. -/
theorem AgreesOffCandidate.patch {w₀ : World} {x sm : Machine} (hx : AgreesOffCandidate w₀ x)
    (hsm : AgreesOffCandidate w₀ sm) (hn : sm.name = x.name) :
    AgreesOffCandidate w₀
      (({ labels := mergeStringMaps x.labels [(labelKeyMachineCandidateForUpdate, "true")] } :
        MachinePatch).apply sm) :=
  fun m hm hmn k hk => by
    rw [MachinePatch.get?_apply, get?_mergeStringMaps, Labels.get?_cons, if_neg hk,
      Labels.get?_nil, Option.none_or, hx m hm (hn.symm.trans hmn) k hk, hsm m hm hmn k hk]
    cases m.labels.get? k <;> rfl

/-- A copy of a machine a selector matches is matched too, when the selector leaves the
candidate label alone. -/
theorem AgreesOffCandidate.selects {w₀ : World} {y m : Machine} (hy : AgreesOffCandidate w₀ y)
    (hm : m ∈ w₀.store.machines) (hn : y.name = m.name) {sel : Labels}
    (hsel : sel.get? labelKeyMachineCandidateForUpdate = none) (h : sel.selects m.labels = true) :
    sel.selects y.labels = true :=
  Labels.selects_iff.mpr fun k v hk => by
    rw [hy m hm hn k fun hk' => by rw [hk', hsel] at hk; cases hk]
    exact Labels.selects_iff.mp h k v hk

/-- A world reached by the marking pass from the caught-up world `w₀`: the store and the
listers hold the names of `w₀`, every machine copy agrees with its namesake off the candidate
label, and the node lister shows a node marked only when the store holds it marked. -/
structure Marking (w₀ w : World) : Prop where
  copies : Elementwise (AgreesOffCandidate w₀) (fun _ => True) w
  storeMachines : w.store.machines.map Machine.name = w₀.store.machines.map Machine.name
  cacheMachines : w.cache.machines.map Machine.name = w₀.store.machines.map Machine.name
  storeNodes : w.store.nodes.map Node.name = w₀.store.nodes.map Node.name
  cacheNodes : w.cache.nodes.map Node.name = w₀.store.nodes.map Node.name
  listed : ∀ x ∈ w.cache.nodes, x.Candidate → w.store.NodeHas x.name Node.Candidate

/-- Neither call of the pass removes a stored mark. -/
structure MarksKept (w w' : World) : Prop where
  machines : ∀ n, w.store.MachineHas n Machine.Candidate → w'.store.MachineHas n Machine.Candidate
  nodes : ∀ n, w.store.NodeHas n Node.Candidate → w'.store.NodeHas n Node.Candidate

section Marking

variable {w₀ w w₁ w' : World} {err : Option GoError}

/-- A world keeps its own marks. -/
protected theorem MarksKept.refl (w : World) : MarksKept w w :=
  ⟨fun _ => id, fun _ => id⟩

/-- Two stretches that keep the marks make one. -/
protected theorem MarksKept.trans (h₁ : MarksKept w w₁) (h₂ : MarksKept w₁ w') : MarksKept w w' :=
  ⟨fun n h => h₂.machines n (h₁.machines n h), fun n h => h₂.nodes n (h₁.nodes n h)⟩

/-- The marking's machine patch keeps every mark. -/
protected theorem MarksKept.patch {x : Machine}
    (h : patchMachine x.name
      { labels := mergeStringMaps x.labels [(labelKeyMachineCandidateForUpdate, "true")] } w =
        (err, w')) : MarksKept w w' :=
  ⟨fun _ hn => hn.patch (fun m _ => candidatePatch_apply_candidate x m) h,
    fun _ hn => hn.of_nodes_eq (patchMachine_nodes h).1⟩

/-- The marking's node `Update` keeps every mark. -/
protected theorem MarksKept.update {node : Node}
    (h : updateNode .target
      { node with labels := node.labels.set labelKeyMachineCandidateForUpdate "true" } w =
        (err, w')) : MarksKept w w' :=
  ⟨fun _ hn => hn.nodeUpdate h, fun _ hn => hn.update (candidateNode_candidate node) h⟩

/-- A world whose listers have caught up starts the marking invariant. -/
theorem Marking.init (hfresh : w₀.cache = w₀.store) : Marking w₀ w₀ :=
  have hm : ∀ y ∈ w₀.store.machines, AgreesOffCandidate w₀ y := fun y hy m hm hn _ _ => by
    rw [List.inj_on_of_nodup_map w₀.store.machines_nodup hy hm hn]
  { copies := ⟨fun _ _ => trivial, fun _ _ => trivial, hm, hfresh ▸ hm⟩
    storeMachines := rfl
    cacheMachines := by rw [hfresh]
    storeNodes := rfl
    cacheNodes := by rw [hfresh]
    listed := fun x hx hc => ⟨x, Cluster.getNode_of_mem (hfresh ▸ hx), hc⟩ }

/-- A call that keeps the names and the copies keeps `Marking` when it removes no stored mark
and its node lister keeps its copies or takes the store's. -/
theorem Marking.of_call (hM : Marking w₀ w)
    (hk : Elementwise (AgreesOffCandidate w₀) (fun _ => True) w') (hn : NamesKept w w')
    (hmarks : MarksKept w w') (hc : w'.cache.nodes = w.cache.nodes ∨ w'.cache.nodes = w'.store.nodes) :
    Marking w₀ w' where
  copies := hk
  storeMachines := hn.store_machines.trans hM.storeMachines
  cacheMachines := by
    rcases hn.cache_machines with h | h
    · exact h.trans hM.cacheMachines
    · rw [h]; exact hn.store_machines.trans hM.storeMachines
  storeNodes := hn.store_nodes.trans hM.storeNodes
  cacheNodes := by
    rcases hn.cache_nodes with h | h
    · exact h.trans hM.cacheNodes
    · rw [h]; exact hn.store_nodes.trans hM.storeNodes
  listed := by
    rcases hc with h | h <;> rw [h]
    · exact fun x hx hx' => hmarks.nodes _ (hM.listed x hx hx')
    · exact fun x hx hx' => ⟨x, Cluster.getNode_of_mem hx, hx'⟩

/-- The marking's machine patch of a machine as the lister showed it keeps the invariant. -/
theorem Marking.patch (hM : Marking w₀ w) {x : Machine} (hx : AgreesOffCandidate w₀ x)
    (h : patchMachine x.name
      { labels := mergeStringMaps x.labels [(labelKeyMachineCandidateForUpdate, "true")] } w =
        (err, w')) : Marking w₀ w' :=
  hM.of_call (hM.copies.patchMachine (fun sm hsm hsn =>
      hx.patch (hM.copies.store_machines sm hsm) hsn) h)
    (.patchMachine h) (.patch h) (.inl (patchMachine_nodes h).2)

/-- The marking's node `Update` keeps the invariant. -/
theorem Marking.update (hM : Marking w₀ w) {node : Node}
    (h : updateNode .target
      { node with labels := node.labels.set labelKeyMachineCandidateForUpdate "true" } w =
        (err, w')) : Marking w₀ w' :=
  hM.of_call (hM.copies.updateNode (fun _ => trivial) h) (.updateNode h) (.update h)
    (updateNode_cache_nodes h)

/-- The node loop keeps `Marking` and every mark, for the copies it is handed. -/
theorem labelNodesLoop_marking : ∀ (machines : List Machine) (w : World), Marking w₀ w →
    (∀ y ∈ machines, AgreesOffCandidate w₀ y) →
    Marking w₀ (labelNodesLoop machines w).2 ∧ MarksKept w (labelNodesLoop machines w).2
  | [], w, hM, _ => ⟨hM, .refl w⟩
  | y :: ys, w, hM, hys => by
    have hnext : ∀ {w₁ : World}, Marking w₀ w₁ → MarksKept w w₁ →
        Marking w₀ (labelNodesLoop ys w₁).2 ∧ MarksKept w (labelNodesLoop ys w₁).2 :=
      fun hM₁ hk => (labelNodesLoop_marking ys _ hM₁ fun z hz => hys z (.tail _ hz)).imp_right
        hk.trans
    unfold labelNodesLoop
    split
    · dsimp only
      split
      · exact ⟨hM.patch (hys y (.head _)) ‹_›, .patch ‹_›⟩
      rename_i w₁ hp
      have hM₁ := hM.patch (hys y (.head _)) hp
      split
      · exact hnext hM₁ (.patch hp)
      split
      · exact hnext hM₁ (.patch hp)
      split
      · exact ⟨hM₁.update ‹_›, (MarksKept.patch hp).trans (.update ‹_›)⟩
      · exact hnext (hM₁.update ‹_›) ((MarksKept.patch hp).trans (.update ‹_›))
    · exact hnext hM (.refl w)

/-- The copy `y` is stored marked in `w`, and so is the node it names when `w₀` stored that
name. -/
def MarkedIn (w₀ w : World) (y : Machine) : Prop :=
  w.store.MachineHas y.name Machine.Candidate ∧
    (y.labels.get nodeLabelKey ∈ w₀.store.nodes.map Node.name →
      w.store.NodeHas (y.labels.get nodeLabelKey) Node.Candidate)

/-- A machine marked, with its node, stays marked. -/
theorem MarksKept.markedIn (hk : MarksKept w w') {y : Machine} (h : MarkedIn w₀ w y) :
    MarkedIn w₀ w' y :=
  ⟨hk.machines _ h.1, fun hx => hk.nodes _ (h.2 hx)⟩

/-- On success the node loop has marked every copy it was handed that names a node. -/
theorem labelNodesLoop_marks : ∀ (machines : List Machine) (w : World), Marking w₀ w →
    (∀ y ∈ machines, AgreesOffCandidate w₀ y) → labelNodesLoop machines w = (none, w') →
    ∀ y ∈ machines, y.labels.get nodeLabelKey ≠ "" → MarkedIn w₀ w' y
  | [], _, _, _, _ => fun _ hy => absurd hy (List.not_mem_nil _)
  | y :: ys, w, hM, hys, h => by
    have hys' : ∀ z ∈ ys, AgreesOffCandidate w₀ z := fun z hz => hys z (.tail _ hz)
    have hrest : ∀ {w₂ : World}, Marking w₀ w₂ → labelNodesLoop ys w₂ = (none, w') →
        (y.labels.get nodeLabelKey ≠ "" → MarkedIn w₀ w₂ y) →
        ∀ z ∈ y :: ys, z.labels.get nodeLabelKey ≠ "" → MarkedIn w₀ w' z :=
      fun {w₂} hM₂ hl hy z hz hzn => by
        rcases List.mem_cons.mp hz with rfl | hz
        · have hk := (labelNodesLoop_marking ys w₂ hM₂ hys').2
          rw [hl] at hk
          exact hk.markedIn (hy hzn)
        · exact labelNodesLoop_marks ys w₂ hM₂ hys' hl z hz hzn
    unfold labelNodesLoop at h
    split at h
    · dsimp only at h
      split at h
      · cases h
      rename_i w₁ hp
      have hM₁ := hM.patch (hys y (.head _)) hp
      have hmark := Cluster.MachineHas.of_patch_ok (candidatePatch_apply_candidate y) hp
      split at h
      · rename_i hnone
        exact hrest hM₁ h fun _ => ⟨hmark, fun hx =>
          absurd (hM₁.cacheNodes ▸ hx) (Cluster.getNode_eq_none hnone)⟩
      rename_i node hnode
      obtain ⟨hmem, hname⟩ := Cluster.getNode_eq_some _ hnode
      split at h
      · exact hrest hM₁ h fun _ =>
          ⟨hmark, fun _ => hname ▸ hM₁.listed node hmem (Node.candidate_of_get ‹_›)⟩
      split at h
      · cases h
      rename_i w₂ hu
      have hnode := Cluster.NodeHas.of_update_ok (candidateNode_candidate node) hu
      exact hrest (hM₁.update hu) h fun _ =>
        ⟨(MarksKept.update hu).machines _ hmark, fun _ => hname ▸ hnode⟩
    · exact hrest hM h fun hne => absurd hne ‹_›

/-- The marking pass keeps the invariant and every mark. -/
theorem labelNodesBackingMachineSets_marking : ∀ (machineSets : List MachineSet) (w : World),
    Marking w₀ w → Marking w₀ (labelNodesBackingMachineSets machineSets w).2 ∧
      MarksKept w (labelNodesBackingMachineSets machineSets w).2
  | [], w, hM => ⟨hM, .refl w⟩
  | s :: rest, w, hM => by
    have hloop := labelNodesLoop_marking (w.cache.listMachines s.selector) w hM fun y hy =>
      hM.copies.cache_machines y (List.mem_of_mem_filter hy)
    dsimp only [labelNodesBackingMachineSets]
    split
    · rename_i heq
      rw [heq] at hloop
      exact hloop
    · rename_i w₁ heq
      rw [heq] at hloop
      exact (labelNodesBackingMachineSets_marking rest w₁ hloop.1).imp_right hloop.2.trans

/-- On success every machine of `w₀` that a set selects and that names a node is marked. -/
theorem labelNodesBackingMachineSets_marks : ∀ (machineSets : List MachineSet) (w : World),
    Marking w₀ w → (∀ s ∈ machineSets, s.selector.get? labelKeyMachineCandidateForUpdate = none) →
    labelNodesBackingMachineSets machineSets w = (none, w') →
    ∀ s ∈ machineSets, ∀ m ∈ w₀.store.machines, s.selector.selects m.labels = true →
      m.labels.get nodeLabelKey ≠ "" → MarkedIn w₀ w' m
  | [], _, _, _, _ => fun _ hs => absurd hs (List.not_mem_nil _)
  | s :: rest, w, hM, hkeys, h => by
    have hagree : ∀ y ∈ w.cache.listMachines s.selector, AgreesOffCandidate w₀ y := fun y hy =>
      hM.copies.cache_machines y (List.mem_of_mem_filter hy)
    dsimp only [labelNodesBackingMachineSets] at h
    split at h
    · cases h
    rename_i w₁ hl
    have hM₁ := (labelNodesLoop_marking _ w hM hagree).1
    rw [hl] at hM₁
    intro s' hs' m hm hsel hne
    rcases List.mem_cons.mp hs' with rfl | hs'
    · have hlisted : m.name ∈ w.cache.machines.map Machine.name := by
        rw [hM.cacheMachines]; exact List.mem_map_of_mem _ hm
      obtain ⟨y, hy, hyn⟩ := List.mem_map.mp hlisted
      have hya := hM.copies.cache_machines y hy
      have hnode : y.labels.get nodeLabelKey = m.labels.get nodeLabelKey := by
        rw [Labels.get_eq, Labels.get_eq, hya m hm hyn nodeLabelKey (by decide)]
      have hk := (labelNodesBackingMachineSets_marking rest w₁ hM₁).2
      rw [h] at hk
      have hy' := hk.markedIn (labelNodesLoop_marks _ w hM hagree hl y
        (List.mem_filter.mpr ⟨hy, hya.selects hm hyn (hkeys s' (.head _)) hsel⟩) (hnode ▸ hne))
      rwa [MarkedIn, hyn, hnode] at hy'
    · exact labelNodesBackingMachineSets_marks rest w₁ hM₁ (fun s hs => hkeys s (.tail _ hs)) h
        s' hs' m hm hsel hne

end Marking

/-- **Marking the candidates**: from a world whose listers have caught up, when
`labelNodesBackingMachineSets` succeeds, every stored machine an old set selects and that
names a node is stored with candidate-for-update, and so is every stored node such a machine
names, however the listers lag the pass's own writes. No old selector may bind the candidate
label. -/
theorem labelNodesBackingMachineSets_marks_candidates {machineSets : List MachineSet}
    {w w' : World} (hfresh : w.cache = w.store)
    (hkeys : ∀ s ∈ machineSets, s.selector.get? labelKeyMachineCandidateForUpdate = none)
    (h : labelNodesBackingMachineSets machineSets w = (none, w')) :
    ∀ s ∈ machineSets, ∀ m ∈ w.store.machines, s.selector.selects m.labels = true →
      m.labels.get nodeLabelKey ≠ "" →
      w'.store.MachineHas m.name Machine.Candidate ∧
        ∀ x ∈ w.store.nodes, x.name = m.labels.get nodeLabelKey →
          w'.store.NodeHas x.name Node.Candidate := by
  intro s hs m hm hsel hne
  obtain ⟨hmm, hmn⟩ :=
    labelNodesBackingMachineSets_marks machineSets w (.init hfresh) hkeys h s hs m hm hsel hne
  refine ⟨hmm, fun x hx hxn => ?_⟩
  rw [hxn]
  exact hmn (hxn ▸ List.mem_map_of_mem _ hx)

/-- The marking pass over the transfer's example, from a caught-up world. -/
theorem labelNodesBackingMachineSets_marks_candidates_example :
    (World.init (transferExampleCluster 2) [] true true).cache =
      (World.init (transferExampleCluster 2) [] true true).store ∧
    (∀ s ∈ [transferExampleOldIS 2], s.selector.get? labelKeyMachineCandidateForUpdate = none) ∧
    (labelNodesBackingMachineSets [transferExampleOldIS 2]
      (World.init (transferExampleCluster 2) [] true true)).1 = none ∧
    ∀ s ∈ [transferExampleOldIS 2], ∀ m ∈ (World.init (transferExampleCluster 2) [] true true).store.machines,
      s.selector.selects m.labels = true → m.labels.get nodeLabelKey ≠ "" →
      (labelNodesBackingMachineSets [transferExampleOldIS 2]
        (World.init (transferExampleCluster 2) [] true true)).2.store.MachineHas m.name
          Machine.Candidate ∧
      ∀ x ∈ (World.init (transferExampleCluster 2) [] true true).store.nodes,
        x.name = m.labels.get nodeLabelKey →
        (labelNodesBackingMachineSets [transferExampleOldIS 2]
          (World.init (transferExampleCluster 2) [] true true)).2.store.NodeHas x.name
            Node.Candidate := by
  have hkeys : ∀ s ∈ [transferExampleOldIS 2],
      s.selector.get? labelKeyMachineCandidateForUpdate = none := by decide
  have hok : (labelNodesBackingMachineSets [transferExampleOldIS 2]
      (World.init (transferExampleCluster 2) [] true true)).1 = none := by decide
  exact ⟨rfl, hkeys, hok, labelNodesBackingMachineSets_marks_candidates rfl hkeys (Prod.ext hok rfl)⟩

/-! ### Selection makes progress -/

section Selection

variable {n : String}

/-- A machine stored selected stays selected: the selection only adds the label. -/
theorem labelMachinesToSelectedForUpdate_keeps (is : MachineSet) (newScale : Int32) (w : World)
    (hm : w.store.MachineHas n Machine.Selected) :
    (labelMachinesToSelectedForUpdate is newScale w).2.store.MachineHas n Machine.Selected := by
  dsimp only [labelMachinesToSelectedForUpdate]
  split
  · exact hm
  · exact labelMachinesLoop_keeps _ 0 w hm

/-- A machine stored selected stays selected through the rest of the selection loop. -/
theorem selectLoop_keeps (B : Int32) : ∀ (l : List MachineSet) (total : Int32) (w : World),
    w.store.MachineHas n Machine.Selected →
    (selectLoop B l total w).2.store.MachineHas n Machine.Selected
  | [], _, _, hm => hm
  | is :: rest, total, w, hm => by
    dsimp only [selectLoop]
    split
    · exact hm
    split
    · exact selectLoop_keeps B rest total w hm
    split
    · exact hm
    have hl := labelMachinesToSelectedForUpdate_keeps is
      (is.replicas - min is.replicas (B - total)) w hm
    split <;> rename_i heq <;> rw [heq] at hl
    · exact hl
    · exact selectLoop_keeps B rest _ _ hl

/-- With a positive budget and nothing counted yet, the selection loop labels a machine
eligible in the lister as it found it, when a set with replicas has one: a set with no
eligible machine makes no call. -/
theorem selectLoop_selects_some {B : Int32} (hB : 0 < B.toInt) :
    ∀ (l : List MachineSet) (w : World), (selectLoop B l 0 w).1.2 = none →
      (∃ is ∈ l, is.replicas ≠ 0 ∧ machinesWithoutSelectedForUpdate w.cache is ≠ []) →
      ∃ is ∈ l, ∃ m ∈ machinesWithoutSelectedForUpdate w.cache is,
        (selectLoop B l 0 w).2.store.MachineHas m.name Machine.Selected
  | [], _, _, ⟨_, h, _⟩ => absurd h (List.not_mem_nil _)
  | is :: rest, w, hok, ⟨is', his', hr, he⟩ => by
    -- a set with nothing to give is passed over, and the eligible set is further on
    have hskip : is.replicas = 0 ∨ machinesWithoutSelectedForUpdate w.cache is = [] →
        (selectLoop B rest 0 w).1.2 = none →
        ∃ s ∈ is :: rest, ∃ m ∈ machinesWithoutSelectedForUpdate w.cache s,
          (selectLoop B rest 0 w).2.store.MachineHas m.name Machine.Selected := fun hnone hok' => by
      rcases List.mem_cons.mp his' with rfl | his'
      · rcases hnone with h | h
        exacts [absurd h hr, absurd h he]
      · obtain ⟨s, hs, m, hm, hsel⟩ := selectLoop_selects_some hB rest w hok' ⟨is', his', hr, he⟩
        exact ⟨s, .tail _ hs, m, hm, hsel⟩
    have hB' : ¬B ≤ 0 := fun h => by rw [Int32.le_def, Int32.toInt_zero] at h; omega
    dsimp only [selectLoop] at hok ⊢
    rw [if_neg hB'] at hok ⊢
    by_cases h0 : is.replicas = 0
    · rw [if_pos h0] at hok ⊢
      exact hskip (.inl h0) hok
    rw [if_neg h0] at hok ⊢
    by_cases hvalid : is.replicas < is.replicas - min is.replicas (B - 0)
    · rw [if_pos hvalid] at hok; cases hok
    rw [if_neg hvalid] at hok ⊢
    obtain ⟨hone, -, -⟩ := selectLoop_ready_in_range (le_refl (0 : Int32).toInt)
      (by rw [Int32.toInt_zero]; exact hB) h0 hvalid
    rcases hL : labelMachinesToSelectedForUpdate is (is.replicas - min is.replicas (B - 0)) w with
      ⟨⟨count, _ | e⟩, w₁⟩
    all_goals rw [hL] at hok; dsimp only at hok ⊢
    · dsimp only [labelMachinesToSelectedForUpdate] at hL
      rw [getMachinesForDrain_eq_take _ _ (by omega)] at hL
      dsimp only at hL
      cases hmw : machinesWithoutSelectedForUpdate w.cache is with
      | nil =>
        simp only [hmw, List.take_nil, labelMachinesLoop, Prod.mk.injEq] at hL
        obtain ⟨⟨rfl, -⟩, rfl⟩ := hL
        exact hskip (.inr hmw) hok
      | cons m ms =>
        rw [hmw] at hL
        have htake : m ∈ (m :: ms).take
            (is.replicas - (is.replicas - min is.replicas (B - 0))).toInt.toNat := by
          rw [List.take_cons (by omega)]; exact List.mem_cons_self _ _
        refine ⟨is, List.mem_cons_self _ _, m, by rw [hmw]; exact List.mem_cons_self _ _, ?_⟩
        exact selectLoop_keeps B rest _ _ (labelMachinesLoop_selects _ 0 w hL m htake)
    · cases hok

/-- A selection that passes its gate with a positive budget and succeeds labels a machine the
lister showed without selected-for-update, when an old set with replicas has an eligible one. -/
theorem selectMachineForUpdate_selects_eligible (allISs oldISs : List MachineSet)
    (d : MachineDeployment) (oldISsMachinesUndergoingUpdate : Int32) {w : World}
    (hgate : ¬getAvailableReplicaCountForMachineSets allISs - oldISsMachinesUndergoingUpdate ≤
      d.replicas - maxUnavailable d)
    (hbudget : 0 < (getAvailableReplicaCountForMachineSets allISs - oldISsMachinesUndergoingUpdate -
      (d.replicas - maxUnavailable d)).toInt)
    (hok : (selectMachineForUpdate allISs oldISs d oldISsMachinesUndergoingUpdate w).1.2 = none)
    (heligible : ∃ is ∈ oldISs, 0 < is.replicas.toInt ∧ machinesWithoutSelectedForUpdate w.cache is ≠ []) :
    ∃ m ∈ w.cache.machines, m.labels.get? labelKeyMachineSelectedForUpdate = none ∧
      (selectMachineForUpdate allISs oldISs d oldISsMachinesUndergoingUpdate w).2.store.MachineHas
        m.name Machine.Selected := by
  dsimp only [selectMachineForUpdate] at hok ⊢
  rw [if_neg hgate] at hok ⊢
  obtain ⟨is, his, hr, he⟩ := heligible
  have hr0 : is.replicas ≠ 0 := fun h => by rw [h, Int32.toInt_zero] at hr; omega
  obtain ⟨s, -, m, hm, hsel⟩ := selectLoop_selects_some hbudget _ w hok
    ⟨is, (List.perm_insertionSort _ oldISs).mem_iff.mpr his, hr0, he⟩
  exact ⟨m, List.mem_of_mem_filter (List.mem_of_mem_filter hm),
    Option.isNone_iff_eq_none.mp (List.mem_filter.mp hm).2, hsel⟩

/-- A name stored selected in `c'`, none of whose namesakes in `c` is selected, is newly
selected. -/
theorem newlySelectedForUpdate_ne_nil {c c' : Cluster} {n : String}
    (hc : ∀ m ∈ c.machines, m.name = n → ¬m.Selected) (hc' : c'.MachineHas n Machine.Selected) :
    newlySelectedForUpdate c c' ≠ [] := by
  obtain ⟨y, hy, hys⟩ := hc'
  obtain ⟨hymem, hyn⟩ := Cluster.getMachine_eq_some _ hy
  refine List.ne_nil_of_mem (mem_newlySelectedForUpdate.mpr ⟨Cluster.mem_selectedForUpdate.mpr
    ⟨y, hymem, hys, hyn⟩, fun hin => ?_⟩)
  obtain ⟨x, hx, hxs, hxn⟩ := Cluster.mem_selectedForUpdate.mp hin
  exact hc x hx hxn hxs

end Selection

/-- **Selection makes progress**: from a world whose listers have caught up, when
`selectMachineForUpdate` passes its availability gate with a positive budget (both in the
code's `int32` arithmetic) and returns no error, and an old set with replicas has a machine
that its selector and candidate-for-update match and that carries no selected-for-update key,
some machine is newly labelled selected-for-update. -/
theorem selectMachineForUpdate_selects_some (allISs oldISs : List MachineSet)
    (d : MachineDeployment) (oldISsMachinesUndergoingUpdate : Int32) {w : World}
    (hfresh : w.cache = w.store)
    (hgate : ¬getAvailableReplicaCountForMachineSets allISs - oldISsMachinesUndergoingUpdate ≤
      d.replicas - maxUnavailable d)
    (hbudget : 0 < (getAvailableReplicaCountForMachineSets allISs - oldISsMachinesUndergoingUpdate -
      (d.replicas - maxUnavailable d)).toInt)
    (hok : (selectMachineForUpdate allISs oldISs d oldISsMachinesUndergoingUpdate w).1.2 = none)
    (heligible : ∃ is ∈ oldISs, 0 < is.replicas.toInt ∧ machinesWithoutSelectedForUpdate w.store is ≠ []) :
    newlySelectedForUpdate w.store
      (selectMachineForUpdate allISs oldISs d oldISsMachinesUndergoingUpdate w).2.store ≠ [] := by
  obtain ⟨m, hmem, hnone, hsel⟩ := selectMachineForUpdate_selects_eligible allISs oldISs d _
    hgate hbudget hok (hfresh ▸ heligible)
  rw [hfresh] at hmem
  refine newlySelectedForUpdate_ne_nil (fun x hx hxn hxs => ?_) hsel
  rw [List.inj_on_of_nodup_map w.store.machines_nodup hx hmem hxn, Machine.Selected, hnone] at hxs
  cases hxs

/-- A selection over the availability example, with a budget of one, selects a machine. -/
theorem selectMachineForUpdate_selects_some_example :
    (World.init (availabilityExampleCluster 2 1 1) [] true false).cache =
      (World.init (availabilityExampleCluster 2 1 1) [] true false).store ∧
    ¬getAvailableReplicaCountForMachineSets [availabilityExampleOldIS 2, availabilityExampleNewIS 1 1] - 0 ≤
      availabilityExampleDeployment.replicas - maxUnavailable availabilityExampleDeployment ∧
    0 < (getAvailableReplicaCountForMachineSets [availabilityExampleOldIS 2, availabilityExampleNewIS 1 1] - 0 -
      (availabilityExampleDeployment.replicas - maxUnavailable availabilityExampleDeployment)).toInt ∧
    (selectMachineForUpdate [availabilityExampleOldIS 2, availabilityExampleNewIS 1 1]
      [availabilityExampleOldIS 2] availabilityExampleDeployment 0
      (World.init (availabilityExampleCluster 2 1 1) [] true false)).1.2 = none ∧
    (∃ is ∈ [availabilityExampleOldIS 2], 0 < is.replicas.toInt ∧
      machinesWithoutSelectedForUpdate (availabilityExampleCluster 2 1 1) is ≠ []) ∧
    newlySelectedForUpdate (availabilityExampleCluster 2 1 1)
      (selectMachineForUpdate [availabilityExampleOldIS 2, availabilityExampleNewIS 1 1]
        [availabilityExampleOldIS 2] availabilityExampleDeployment 0
        (World.init (availabilityExampleCluster 2 1 1) [] true false)).2.store ≠ [] := by
  have hgate : ¬getAvailableReplicaCountForMachineSets
      [availabilityExampleOldIS 2, availabilityExampleNewIS 1 1] - 0 ≤
      availabilityExampleDeployment.replicas - maxUnavailable availabilityExampleDeployment := by
    decide
  have hbudget : 0 < (getAvailableReplicaCountForMachineSets
      [availabilityExampleOldIS 2, availabilityExampleNewIS 1 1] - 0 -
      (availabilityExampleDeployment.replicas - maxUnavailable availabilityExampleDeployment)).toInt := by
    decide
  have hok : (selectMachineForUpdate [availabilityExampleOldIS 2, availabilityExampleNewIS 1 1]
      [availabilityExampleOldIS 2] availabilityExampleDeployment 0
      (World.init (availabilityExampleCluster 2 1 1) [] true false)).1.2 = none := by decide
  have heligible : ∃ is ∈ [availabilityExampleOldIS 2], 0 < is.replicas.toInt ∧
      machinesWithoutSelectedForUpdate (availabilityExampleCluster 2 1 1) is ≠ [] := by decide
  exact ⟨rfl, hgate, hbudget, hok, heligible,
    selectMachineForUpdate_selects_some _ _ _ _ rfl hgate hbudget hok heligible⟩

end MachineControllerManager
