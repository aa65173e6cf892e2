import MachineControllerManager.Controller.Discipline
import MachineControllerManager.Controller.Effects

/-!
# A round that reports success hands over every reported machine

`reconcileNewMachineSetInPlace` is the step of the in-place rollout that makes progress: for
each old set it lists the set's machines and the nodes labelled update-successful, and moves
the machine naming each such node to the new set. Its listers may lag the store and the
controller's own writes.

This module shows that the step misses no machine: when a round scales the new set up and
reports success, every machine of an old set whose node reports update-successful is owned
by the new set at its end (`reconcileNewMachineSetInPlace_moves_reported_machines`), however
far behind the listers are, provided no selector binds the node label and no other machine
names that node.

* `Follows old m x w`: the machine `m` of the old set `old` and its node `x` as a round finds
  them before it moves `m`. Every copy of a machine naming `x` is a copy of `m`, every copy of
  `m` names `x` and is selected by `old`, every copy of `x` reports update-successful, and the
  store and the listers hold both; no call removes a name (`NamesKept`).
* `Tracks newIS old m x w`: the new set owns `m`, or the round follows it. Each call of the
  round keeps it (`Tracks.transfer`, `Tracks.update`, `Tracks.mutate`, `Tracks.scale`).
* `transferLoop_moves`: a node loop that runs to its end moves `m` once it meets a copy of
  `x`, and `reconcileNewLoop_moves` lifts this to the loop over the old sets; an owned machine
  stays owned (`transferLoop_keeps_owned`, `reconcileNewLoop_keeps_owned`).
-/

namespace MachineControllerManager

/-- The machine is owned by the set `ms`. -/
def Machine.OwnedBy (ms : MachineSet) (m : Machine) : Prop := m.controller = some ms.name

/-- The ownership patch makes the new set the owner. -/
theorem addControllerPatch_apply_ownedBy (newIS is : MachineSet) (machine sm : Machine) :
    ((addControllerPatch newIS is machine).apply sm).OwnedBy newIS :=
  rfl

/-- The ownership patch leaves the patched machine the node label of the lister's copy or its
own, when the new set's selector leaves the label alone. -/
theorem addControllerPatch_nodeLabel {newIS : MachineSet}
    (hnew : newIS.selector.get? nodeLabelKey = none) (is : MachineSet) (machine sm : Machine) :
    ((addControllerPatch newIS is machine).apply sm).labels.get nodeLabelKey =
        machine.labels.get nodeLabelKey ∨
      ((addControllerPatch newIS is machine).apply sm).labels.get nodeLabelKey =
        sm.labels.get nodeLabelKey := by
  have hu : nodeLabelKey ≠ labelKeyMachineUpdateSuccessful := by decide
  simp only [Labels.get_eq, MachinePatch.get?_apply, addControllerPatch, machineNewLabels,
    get?_mergeStringMaps, get?_mergeWithOverwriteAndFilter, Labels.get?_cons, if_neg hu,
    Labels.get?_nil, hnew, Option.none_or]
  split
  · cases machine.labels.get? nodeLabelKey <;> simp
  · simp

/-- Writing through a listed node leaves the machine lister. -/
theorem World.mutateCachedNode_cache_machines (w : World) (listed x : Node) :
    (w.mutateCachedNode listed x).cache.machines = w.cache.machines := by
  unfold World.mutateCachedNode; split <;> rfl

/-! ### No call removes a name -/

/-- From `w` to `w'` no object was created or deleted: the store holds the same names, and
each lister the names it held or the store's objects. -/
structure NamesKept (w w' : World) : Prop where
  store_machines : w'.store.machines.map Machine.name = w.store.machines.map Machine.name
  store_nodes : w'.store.nodes.map Node.name = w.store.nodes.map Node.name
  cache_machines : w'.cache.machines.map Machine.name = w.cache.machines.map Machine.name ∨
    w'.cache.machines = w'.store.machines
  cache_nodes : w'.cache.nodes.map Node.name = w.cache.nodes.map Node.name ∨
    w'.cache.nodes = w'.store.nodes

section Names

variable {w w' : World} {err : Option GoError}

/-- A call whose server answers keep the stored names, and whose refresh keeps the lister's
objects of a kind or copies the store's. -/
theorem NamesKept.of_settles {call : Call} {refresh : Cluster → Cluster → Cluster}
    {serve : Bool → Except GoError Cluster} (hs : Settles call refresh serve w w' err)
    (hserve : ∀ f c', serve f = .ok c' → c'.machines.map Machine.name =
      w.store.machines.map Machine.name ∧ c'.nodes.map Node.name = w.store.nodes.map Node.name)
    (hrefresh : ∀ c c', ((refresh c c').machines = c.machines ∨
      (refresh c c').machines = c'.machines) ∧
      ((refresh c c').nodes = c.nodes ∨ (refresh c c').nodes = c'.nodes)) :
    NamesKept w w' := by
  obtain ⟨hm, hn⟩ := hs.store (fun c => c.machines.map Machine.name =
    w.store.machines.map Machine.name ∧ c.nodes.map Node.name = w.store.nodes.map Node.name)
    ⟨rfl, rfl⟩ hserve
  refine ⟨hm, hn, ?_, ?_⟩ <;> rcases hs.cache with hc | hc <;> rw [hc]
  · exact .inl rfl
  · exact (hrefresh _ _).1.imp (fun h => by rw [h]) id
  · exact .inl rfl
  · exact (hrefresh _ _).2.imp (fun h => by rw [h]) id

/-- A machine patch keeps the names. -/
theorem NamesKept.patchMachine {name : String} {p : MachinePatch}
    (h : patchMachine name p w = (err, w')) : NamesKept w w' :=
  .of_settles (patchMachine_settles h) (fun _ _ hc => by
    obtain ⟨m, -, rfl⟩ := Cluster.applyPatchMachine_ok _ hc
    exact ⟨map_name_replaceNamed _ _ _, rfl⟩) fun _ _ => ⟨.inr rfl, .inl rfl⟩

/-- A node `Update` keeps the names. -/
theorem NamesKept.updateNode {client : Client} {x : Node}
    (h : updateNode client x w = (err, w')) : NamesKept w w' :=
  .of_settles (updateNode_settles h) (fun _ _ hc => by
    obtain ⟨rv, rfl⟩ := Cluster.applyUpdateNode_ok _ hc
    split
    · exact ⟨rfl, map_name_replaceNamed _ _ _⟩
    · exact ⟨rfl, rfl⟩) fun _ _ => ⟨.inl rfl, .inr rfl⟩

/-- A call that leaves the machines and nodes keeps the names. -/
theorem NamesKept.of_same (h : SameObjects w w') : NamesKept w w' :=
  ⟨by rw [h.store_machines], by rw [h.store_nodes], .inl (by rw [h.cache_machines]),
    .inl (by rw [h.cache_nodes])⟩

/-- Writing through a listed node keeps the names. -/
theorem NamesKept.mutateCachedNode (w : World) (listed x : Node) :
    NamesKept w (w.mutateCachedNode listed x) := by
  refine ⟨by rw [World.mutateCachedNode_store], by rw [World.mutateCachedNode_store],
    .inl (by rw [World.mutateCachedNode_cache_machines]), .inl ?_⟩
  unfold World.mutateCachedNode
  split
  · exact map_name_replaceNamed _ _ _
  · rfl

end Names

/-! ### Following one machine and its node through a round -/

/-- A copy `y` of a machine, seen from the machine `m` of the old set `old` on the node `x`: a
copy naming `x` is a copy of `m`, and a copy of `m` names `x` and is selected by `old`. -/
def FollowsMachine (old : MachineSet) (m : Machine) (x : Node) (y : Machine) : Prop :=
  (y.labels.get nodeLabelKey = x.name → y.name = m.name) ∧
    (y.name = m.name → old.selector.selects y.labels = true ∧ y.labels.get nodeLabelKey = x.name)

/-- A copy of the node `x` reports update-successful. -/
def FollowsNode (x y : Node) : Prop :=
  y.name = x.name → y.labels.get? labelKeyMachineUpdateSuccessful = some "true"

/-- The machine `m` and its node `x` as a round finds them before it moves `m`: every copy of
a machine and of a node is as above, and the store and the listers hold both. -/
structure Follows (old : MachineSet) (m : Machine) (x : Node) (w : World) : Prop where
  copies : Elementwise (FollowsMachine old m x) (FollowsNode x) w
  machineStored : m.name ∈ w.store.machines.map Machine.name
  machineListed : m.name ∈ w.cache.machines.map Machine.name
  nodeStored : x.name ∈ w.store.nodes.map Node.name
  nodeListed : x.name ∈ w.cache.nodes.map Node.name

/-- The new set owns `m`, or the round follows `m` on `x`. -/
def Tracks (newIS old : MachineSet) (m : Machine) (x : Node) (w : World) : Prop :=
  w.store.MachineHas m.name (Machine.OwnedBy newIS) ∨ Follows old m x w

section Calls

variable {newIS old : MachineSet} {m : Machine} {x : Node} {w w' : World} {err : Option GoError}

/-- A call that keeps the names keeps `Follows` when it keeps every copy as above. -/
theorem Follows.of_names (hf : Follows old m x w)
    (hk : Elementwise (FollowsMachine old m x) (FollowsNode x) w') (hn : NamesKept w w') :
    Follows old m x w' where
  copies := hk
  machineStored := hn.store_machines ▸ hf.machineStored
  machineListed := by
    rcases hn.cache_machines with h | h
    · exact h ▸ hf.machineListed
    · rw [h]; exact hn.store_machines ▸ hf.machineStored
  nodeStored := hn.store_nodes ▸ hf.nodeStored
  nodeListed := by
    rcases hn.cache_nodes with h | h
    · exact h ▸ hf.nodeListed
    · rw [h]; exact hn.store_nodes ▸ hf.nodeStored

/-- A call that leaves the machines keeps a fact about one of them. -/
theorem Cluster.MachineHas.of_same {n : String} {P : Machine → Prop}
    (hm : w.store.MachineHas n P) (h : SameObjects w w') : w'.store.MachineHas n P :=
  hm.of_machines_eq h.store_machines

/-- A call that leaves the machines and nodes keeps a machine following its node. -/
theorem Follows.of_same (hf : Follows old m x w) (h : SameObjects w w') : Follows old m x w' :=
  hf.of_names (hf.copies.of_same h) (.of_same h)

/-- A call that leaves the machines and nodes keeps the tracking. -/
theorem Tracks.of_same (ht : Tracks newIS old m x w) (h : SameObjects w w') :
    Tracks newIS old m x w' :=
  ht.imp (·.of_same h) (·.of_same h)

/-- A scale keeps the tracking. -/
theorem Tracks.scale (ht : Tracks newIS old m x w) (is : MachineSet) (newScale : Int32) :
    Tracks newIS old m x (scaleMachineSetAndRecordEvent is newScale w).2 :=
  ht.of_same (.scale is newScale w)

/-- The world a call returns, named by the equation that destructures its result. -/
theorem Tracks.of_eq {α : Type} {r : α × World} {a : α} (ht : Tracks newIS old m x r.2)
    (h : r = (a, w')) : Tracks newIS old m x w' := by
  subst h; exact ht

/-- The writes after a refused ownership patch. -/
theorem Tracks.afterTransferFailure (ht : Tracks newIS old m x w) (newIS' is : MachineSet)
    (t added : Int32) (e : GoError) :
    Tracks newIS old m x (scaleAfterTransferFailure newIS' is t added e w).2 := by
  have hup := ht.scale newIS' (newIS'.replicas + added)
  dsimp only [scaleAfterTransferFailure]
  split
  · exact hup.of_eq ‹_›
  have hdown := (hup.of_eq ‹_›).scale is (is.replicas - t)
  split <;> exact hdown.of_eq ‹_›

/-- The ownership patch of a copy of the new set makes the new set the owner. -/
theorem addControllerPatch_apply_ownedBy_of_copy {ns : MachineSet} (hns : CopyOf newIS ns)
    (is : MachineSet) (machine sm : Machine) :
    ((addControllerPatch ns is machine).apply sm).OwnedBy newIS :=
  (addControllerPatch_apply_ownedBy ns is machine sm).trans (congrArg some hns.1)

/-- **The ownership patch** of a lister's copy: accepted for `m`, it makes the new set `m`'s
owner; refused, it leaves the store; for another machine it keeps every copy as it was, as the
patched machine keeps the node label of the lister's copy or its own. -/
theorem Tracks.transfer {ns : MachineSet} (hns : CopyOf newIS ns)
    (hnew : newIS.selector.get? nodeLabelKey = none)
    (ht : Tracks newIS old m x w) {is : MachineSet} {machine : Machine}
    (hmachine : FollowsMachine old m x machine)
    (h : patchMachine machine.name (addControllerPatch ns is machine) w = (err, w')) :
    Tracks newIS old m x w' := by
  have hown := addControllerPatch_apply_ownedBy_of_copy hns is machine
  refine ht.elim (fun ho => .inl (ho.patch (fun sm _ => hown sm) h)) fun hf => ?_
  have hs := patchMachine_settles h
  by_cases hn : machine.name = m.name
  · cases err with
    | none => exact .inl (hn ▸ Cluster.MachineHas.of_patch_ok hown h)
    | some e =>
      have hstore := hs.error (Option.some_ne_none e)
      refine .inr (hf.of_names (hf.copies.of_lists (hstore ▸ hf.copies.store_nodes)
        (hstore ▸ hf.copies.store_machines) ?_ ?_) (.patchMachine h)) <;>
        rcases hs.cache with hc | hc <;> rw [hc]
      exacts [.inl rfl, .inl rfl, .inl rfl, .inr rfl]
  · refine .inr (hf.of_names (hf.copies.patchMachine (fun sm hsm hsn => ⟨fun hl => ?_,
      fun hl => absurd (hsn.symm.trans hl) hn⟩) h) (.patchMachine h))
    rcases addControllerPatch_nodeLabel (hns.2 ▸ hnew) is machine sm with hp | hp <;> rw [hp] at hl
    · exact absurd (hmachine.1 hl) hn
    · exact absurd (hsn.symm.trans ((hf.copies.store_machines sm hsm).1 hl)) hn

/-- **The lister's node written** with an edit that keeps every copy of `x` reporting. -/
theorem Tracks.mutate (ht : Tracks newIS old m x w) (listed : Node) {y : Node}
    (hy : FollowsNode x y) : Tracks newIS old m x (w.mutateCachedNode listed y) :=
  ht.imp (fun hown => by rw [World.mutateCachedNode_store]; exact hown)
    fun hf => hf.of_names (hf.copies.mutateCachedNode listed hy) (.mutateCachedNode w listed y)

/-- **A node `Update`** of a node that reports when it is a copy of `x`, through either
client. -/
theorem Tracks.update (ht : Tracks newIS old m x w) {client : Client} {y : Node}
    (hy : FollowsNode x y) (h : updateNode client y w = (err, w')) : Tracks newIS old m x w' :=
  ht.imp (·.nodeUpdate h) fun hf => hf.of_names (hf.copies.updateNode (fun _ => hy) h)
    (.updateNode h)

end Calls

/-! ### Owned machines stay owned -/

section Owned

variable {newIS : MachineSet} {n : String} {w w' : World}

/-- The world a call returns, named by the equation that destructures its result. -/
theorem Cluster.MachineHas.of_snd_eq {α : Type} {P : Machine → Prop} {r : α × World} {a : α}
    (h : r.2.store.MachineHas n P) (heq : r = (a, w')) : w'.store.MachineHas n P := by
  subst heq; exact h

/-- A scale leaves every machine. -/
theorem Cluster.MachineHas.scale {P : Machine → Prop} (h : w.store.MachineHas n P)
    (is : MachineSet) (newScale : Int32) :
    (scaleMachineSetAndRecordEvent is newScale w).2.store.MachineHas n P :=
  h.of_machines_eq (scaleMachineSetAndRecordEvent_store is newScale w).1

/-- The scales after a failed transfer leave every machine. -/
theorem Cluster.MachineHas.afterTransferFailure {P : Machine → Prop} (h : w.store.MachineHas n P)
    (newIS' is : MachineSet) (t added : Int32) (e : GoError) :
    (scaleAfterTransferFailure newIS' is t added e w).2.store.MachineHas n P := by
  have hup := h.scale newIS' (newIS'.replicas + added)
  dsimp only [scaleAfterTransferFailure]
  split
  · exact hup.of_snd_eq ‹_›
  have hdown := (hup.of_snd_eq ‹_›).scale is (is.replicas - t)
  split <;> exact hdown.of_snd_eq ‹_›

/-- A machine the new set owns stays owned through the rest of the transfer loop. -/
theorem transferLoop_keeps_owned (is : MachineSet) (machines : List Machine) :
    ∀ (nodes : List Node) (t added : Int32) (w : World),
      w.store.MachineHas n (Machine.OwnedBy newIS) →
      (transferLoop newIS is machines nodes t added w).2.store.MachineHas n (Machine.OwnedBy newIS)
  | [], _, _, _, h => h
  | node :: nodes, t, added, w, h => by
    dsimp only [transferLoop]
    split
    · exact transferLoop_keeps_owned is machines nodes t added w h
    rename_i machine _
    have hp : ∀ {err w₁}, patchMachine machine.name (addControllerPatch newIS is machine) w =
        (err, w₁) → w₁.store.MachineHas n (Machine.OwnedBy newIS) :=
      fun h' => h.patch (fun _ _ => addControllerPatch_apply_ownedBy _ _ _ _) h'
    split
    · exact (hp ‹_›).afterTransferFailure _ _ _ _ _
    have h₁ := hp ‹_›
    rw [← World.mutateCachedNode_store _ node { node with unschedulable := false }] at h₁
    split
    · exact h₁.nodeUpdate ‹_›
    · exact transferLoop_keeps_owned is machines nodes _ _ _ (h₁.nodeUpdate ‹_›)

/-- A machine the new set owns stays owned through the rest of the loop over the old sets. -/
theorem reconcileNewLoop_keeps_owned :
    ∀ (l : List MachineSet) (added : Int32) (w : World),
      w.store.MachineHas n (Machine.OwnedBy newIS) →
      (reconcileNewLoop newIS l added w).2.store.MachineHas n (Machine.OwnedBy newIS)
  | [], _, _, h => h.scale _ _
  | is :: rest, added, w, h => by
    have hloop := transferLoop_keeps_owned is (w.cache.listMachines is.selector)
      (w.cache.listNodes [(labelKeyMachineUpdateSuccessful, "true")]) 0 added w h
    dsimp only [reconcileNewLoop]
    split
    · exact hloop.of_snd_eq ‹_›
    rename_i t _ _ _
    have hdown := (hloop.of_snd_eq ‹_›).scale is (is.replicas - t)
    split
    · exact hdown.of_snd_eq ‹_›
    · exact reconcileNewLoop_keeps_owned rest _ _ (hdown.of_snd_eq ‹_›)

end Owned

/-! ### The loops of the round -/

section Loops

variable {newIS old is : MachineSet} {m : Machine} {x : Node} {machines : List Machine}

/-- The writes after a refused ownership patch end the node loop with an error. -/
theorem scaleAfterTransferFailure_ret (newIS is : MachineSet) (t added : Int32) (e : GoError)
    (w : World) : ∃ scaled e', (scaleAfterTransferFailure newIS is t added e w).1 =
      .ret scaled (some e') := by
  dsimp only [scaleAfterTransferFailure]
  split
  · exact ⟨_, _, rfl⟩
  split <;> exact ⟨_, _, rfl⟩

/-- A node loop that returns early returns an error. -/
theorem transferLoop_ret :
    ∀ (nodes : List Node) (t added : Int32) (w : World) {scaled : Bool} {err : Option GoError}
      {w' : World}, transferLoop newIS is machines nodes t added w = (.ret scaled err, w') →
      err ≠ none
  | [], _, _, _, _, _, _, h => by cases h
  | node :: nodes, t, added, w, _, _, _, h => by
    dsimp only [transferLoop] at h
    split at h
    · exact transferLoop_ret nodes t added w h
    split at h
    · obtain ⟨_, _, hr⟩ := scaleAfterTransferFailure_ret newIS is t added ‹_› ‹_›
      rw [h] at hr; cases hr; exact Option.some_ne_none _
    split at h
    · cases h; exact Option.some_ne_none _
    · exact transferLoop_ret nodes _ _ _ h

/-- The node loop keeps `Tracks`, given that its listed machines and nodes are copies as in
`Follows`. -/
theorem transferLoop_tracks (hnew : newIS.selector.get? nodeLabelKey = none)
    (hmachines : ∀ mm ∈ machines, FollowsMachine old m x mm) :
    ∀ (nodes : List Node) (t added : Int32) (w : World), Tracks newIS old m x w →
      (∀ y ∈ nodes, FollowsNode x y) →
      Tracks newIS old m x (transferLoop newIS is machines nodes t added w).2
  | [], _, _, _, ht, _ => ht
  | node :: nodes, t, added, w, ht, hnodes => by
    have hnode := hnodes node (List.mem_cons_self _ _)
    have hrest := fun y hy => hnodes y (List.mem_cons_of_mem node hy)
    dsimp only [transferLoop]
    split
    · exact transferLoop_tracks hnew hmachines nodes t added w ht hrest
    rename_i machine hmachine
    have hfm := hmachines machine (getMachineFromNode_eq_some hmachine).1
    split
    · exact (ht.transfer ⟨rfl, rfl⟩ hnew hfm ‹_›).afterTransferFailure _ _ _ _ _
    have hnode' : FollowsNode x { node with unschedulable := false } := hnode
    have h₁ := (ht.transfer ⟨rfl, rfl⟩ hnew hfm ‹_›).mutate node hnode'
    split
    · exact h₁.update hnode' ‹_›
    · exact transferLoop_tracks hnew hmachines nodes _ _ _ (h₁.update hnode' ‹_›) hrest

/-- **The node loop moves `m`**: a node loop that runs to its end, over listed machines that
hold a copy of `m` and name `x` only in copies of `m`, and over listed nodes that hold a copy of
`x`, makes the new set `m`'s owner. -/
theorem transferLoop_moves (hmachines : ∀ mm ∈ machines, FollowsMachine old m x mm)
    (hm : ∃ mm ∈ machines, mm.name = m.name) :
    ∀ (nodes : List Node) (t added : Int32) (w : World) {t' added' : Int32} {w' : World},
      (∃ y ∈ nodes, y.name = x.name) →
      transferLoop newIS is machines nodes t added w = (.next t' added', w') →
      w'.store.MachineHas m.name (Machine.OwnedBy newIS)
  | [], _, _, _, _, _, _, ⟨_, hy, _⟩, _ => absurd hy (List.not_mem_nil _)
  | node :: nodes, t, added, w, _, _, _, ⟨y, hy, hyx⟩, h => by
    dsimp only [transferLoop] at h
    split at h
    · rename_i hnone
      rcases List.mem_cons.mp hy with rfl | hy
      · obtain ⟨mm, hmm, hmn⟩ := hm
        rw [getMachineFromNode, List.find?_eq_none] at hnone
        exact absurd (beq_iff_eq.mpr (((hmachines mm hmm).2 hmn).2.trans hyx.symm))
          (by simpa using hnone mm hmm)
      · exact transferLoop_moves hmachines hm nodes t added w ⟨y, hy, hyx⟩ h
    rename_i machine hmachine
    obtain ⟨hmem, hlabel⟩ := getMachineFromNode_eq_some hmachine
    split at h
    · obtain ⟨_, _, hr⟩ := scaleAfterTransferFailure_ret newIS is t added ‹_› ‹_›
      rw [h] at hr; cases hr
    rename_i w₁ hpatch
    split at h
    · cases h
    rename_i w₂ hupdate
    rcases List.mem_cons.mp hy with hyn | hy
    · have hown := Cluster.MachineHas.of_patch_ok (fun _ => addControllerPatch_apply_ownedBy _ _ _ _)
        hpatch
      rw [(hmachines machine hmem).1 (hlabel.trans (hyn ▸ hyx)), ← World.mutateCachedNode_store _ node
        { node with unschedulable := false }] at hown
      exact (transferLoop_keeps_owned is machines nodes _ _ _ (hown.nodeUpdate hupdate)).of_snd_eq h
    · exact transferLoop_moves hmachines hm nodes _ _ _ ⟨y, hy, hyx⟩ h

/-- The nodes the round lists: those of the lister labelled update-successful. -/
theorem mem_listNodes_updateSuccessful {c : Cluster} {y : Node} (hy : y ∈ c.nodes)
    (hu : y.labels.get? labelKeyMachineUpdateSuccessful = some "true") :
    y ∈ c.listNodes [(labelKeyMachineUpdateSuccessful, "true")] :=
  List.mem_filter.mpr ⟨hy, Labels.selects_iff.mpr fun k v hk => by
    rw [Labels.get?_cons] at hk
    split at hk
    · cases hk; rename_i h; rw [h]; exact hu
    · cases hk⟩

/-- **The loop over the old sets moves `m`**: a loop that reports success, over old sets among
which is `old`, makes the new set `m`'s owner. -/
theorem reconcileNewLoop_moves (hnew : newIS.selector.get? nodeLabelKey = none) :
    ∀ (l : List MachineSet) (added : Int32) (w : World), Tracks newIS old m x w → old ∈ l →
      (reconcileNewLoop newIS l added w).1.2 = none →
      (reconcileNewLoop newIS l added w).2.store.MachineHas m.name (Machine.OwnedBy newIS)
  | [], _, _, _, hold, _ => absurd hold (List.not_mem_nil _)
  | is :: rest, added, w, ht, hold, hok => by
    rcases ht with hown | hf
    · exact reconcileNewLoop_keeps_owned _ _ _ hown
    have hmachines : ∀ mm ∈ w.cache.listMachines is.selector, FollowsMachine old m x mm :=
      fun mm hmm => hf.copies.cache_machines mm (List.mem_of_mem_filter hmm)
    have hnodes : ∀ y ∈ w.cache.listNodes [(labelKeyMachineUpdateSuccessful, "true")],
        FollowsNode x y :=
      fun y hy => hf.copies.cache_nodes y (List.mem_of_mem_filter hy)
    dsimp only [reconcileNewLoop] at hok ⊢
    split
    · rename_i hloop
      rw [hloop] at hok
      exact absurd hok (transferLoop_ret _ _ _ _ hloop)
    rename_i t added' w₁ hloop
    rw [hloop] at hok
    dsimp only at hok
    split
    · rename_i hscale
      rw [hscale] at hok; cases hok
    rename_i w₂ hscale
    rw [hscale] at hok
    rcases List.mem_cons.mp hold with rfl | hold
    · obtain ⟨y, hy, hyx⟩ := List.mem_map.mp hf.nodeListed
      obtain ⟨mm, hmm, hmn⟩ := List.mem_map.mp hf.machineListed
      have hsel := (hf.copies.cache_machines mm hmm).2 hmn
      have hown := transferLoop_moves hmachines ⟨mm, List.mem_filter.mpr ⟨hmm, hsel.1⟩, hmn⟩ _ 0
        added w ⟨y, mem_listNodes_updateSuccessful hy (hf.copies.cache_nodes y hy hyx), hyx⟩ hloop
      exact reconcileNewLoop_keeps_owned rest _ _ ((hown.scale _ _).of_snd_eq hscale)
    · have htrack := (transferLoop_tracks hnew hmachines _ 0 added w (.inr hf) hnodes).of_eq hloop
      exact reconcileNewLoop_moves hnew rest _ _ ((htrack.scale _ _).of_eq hscale) hold hok

end Loops

/-- The round scales the new set up by the loop over the old sets when the new set is below
the deployment's replicas. -/
theorem reconcileNewMachineSetInPlace_eq_loop {oldISs : List MachineSet} {newIS : MachineSet}
    {d : MachineDeployment} (hgrow : newIS.replicas < d.replicas) (w : World) :
    reconcileNewMachineSetInPlace oldISs newIS d w = reconcileNewLoop newIS oldISs 0 w := by
  rw [Int32.lt_def] at hgrow
  unfold reconcileNewMachineSetInPlace
  rw [if_neg fun h => by rw [h] at hgrow; exact lt_irrefl _ hgrow,
    if_neg fun h => by rw [Int32.lt_def] at h; omega]

/-- **The transfer moves a followed machine**: when the new set is below the deployment's
replicas and `reconcileNewMachineSetInPlace` reports success, the new set owns `m` at its end,
from any world where the round tracks `m` of one of the old sets. -/
theorem reconcileNewMachineSetInPlace_moves {oldISs : List MachineSet} {newIS old : MachineSet}
    {d : MachineDeployment} {w : World} {m : Machine} {x : Node}
    (hnew : newIS.selector.get? nodeLabelKey = none) (hgrow : newIS.replicas < d.replicas)
    (ht : Tracks newIS old m x w) (hold : old ∈ oldISs)
    (hok : (reconcileNewMachineSetInPlace oldISs newIS d w).1.2 = none) :
    (reconcileNewMachineSetInPlace oldISs newIS d w).2.store.MachineHas m.name
      (Machine.OwnedBy newIS) := by
  rw [reconcileNewMachineSetInPlace_eq_loop hgrow] at hok ⊢
  exact reconcileNewLoop_moves hnew oldISs 0 w ht hold hok

/-- A caught-up world starts following `m` of `old` on `x`, when no other machine names `x`. -/
theorem Follows.init {old : MachineSet} {w : World} (hfresh : w.cache = w.store) {m : Machine}
    (hm : m ∈ w.store.machines) (hsel : old.selector.selects m.labels = true) {x : Node}
    (hx : x ∈ w.store.nodes) (hmx : m.labels.get nodeLabelKey = x.name)
    (hux : x.labels.get? labelKeyMachineUpdateSuccessful = some "true")
    (huniq : ∀ m' ∈ w.store.machines, m'.labels.get nodeLabelKey = x.name → m'.name = m.name) :
    Follows old m x w :=
  have hmachines : ∀ y ∈ w.store.machines, FollowsMachine old m x y := fun y hy =>
    ⟨huniq y hy, fun hn => by
      rw [List.inj_on_of_nodup_map w.store.machines_nodup hy hm hn]; exact ⟨hsel, hmx⟩⟩
  have hnodes : ∀ y ∈ w.store.nodes, FollowsNode x y := fun y hy hn => by
    rw [List.inj_on_of_nodup_map w.store.nodes_nodup hy hx hn]; exact hux
  { copies := ⟨hnodes, hfresh ▸ hnodes, hmachines, hfresh ▸ hmachines⟩
    machineStored := List.mem_map_of_mem _ hm
    machineListed := hfresh ▸ List.mem_map_of_mem _ hm
    nodeStored := List.mem_map_of_mem _ hx
    nodeListed := hfresh ▸ List.mem_map_of_mem _ hx }

/-- **A round that reports success hands over every reported machine**: from a world whose
listers have caught up, when the new set is below the deployment's replicas and
`reconcileNewMachineSetInPlace` returns no error, every machine of an old set whose node is
labelled update-successful, and that no other machine names, is owned by the new set, however
the listers lag during the round. No selector may bind the node label. -/
theorem reconcileNewMachineSetInPlace_moves_reported_machines {oldISs : List MachineSet}
    {newIS : MachineSet} {d : MachineDeployment} {w : World} (hfresh : w.cache = w.store)
    (hsel : ∀ s ∈ newIS :: oldISs, s.selector.get? nodeLabelKey = none)
    (hgrow : newIS.replicas < d.replicas)
    (hok : (reconcileNewMachineSetInPlace oldISs newIS d w).1.2 = none) :
    ∀ m ∈ w.store.machines, (∃ is ∈ oldISs, is.selector.selects m.labels = true) →
      ∀ x ∈ w.store.nodes, x.name = m.labels.get nodeLabelKey →
      x.labels.get? labelKeyMachineUpdateSuccessful = some "true" →
      (∀ m' ∈ w.store.machines, m'.labels.get nodeLabelKey = x.name → m'.name = m.name) →
      (reconcileNewMachineSetInPlace oldISs newIS d w).2.store.MachineHas m.name
        (Machine.OwnedBy newIS) := by
  intro m hm ⟨old, hold, hsm⟩ x hx hxm hux huniq
  exact reconcileNewMachineSetInPlace_moves (hsel newIS (List.mem_cons_self _ _)) hgrow
    (.inr (Follows.init hfresh hm hsm hx hxm.symm hux huniq)) hold hok

/-- The transfer's example, from a caught-up world: every machine on a node reported
update-successful moves to the new set. -/
theorem reconcileNewMachineSetInPlace_moves_reported_machines_example :
    (World.init (transferExampleCluster 2) [] true true).cache =
      (World.init (transferExampleCluster 2) [] true true).store ∧
    (∀ s ∈ [transferExampleNewIS, transferExampleOldIS 2], s.selector.get? nodeLabelKey = none) ∧
    transferExampleNewIS.replicas < transferExampleDeployment.replicas ∧
    (reconcileNewMachineSetInPlace [transferExampleOldIS 2] transferExampleNewIS
      transferExampleDeployment (World.init (transferExampleCluster 2) [] true true)).1.2 = none ∧
    ∀ m ∈ (World.init (transferExampleCluster 2) [] true true).store.machines,
      (∃ is ∈ [transferExampleOldIS 2], is.selector.selects m.labels = true) →
      ∀ x ∈ (World.init (transferExampleCluster 2) [] true true).store.nodes,
      x.name = m.labels.get nodeLabelKey →
      x.labels.get? labelKeyMachineUpdateSuccessful = some "true" →
      (∀ m' ∈ (World.init (transferExampleCluster 2) [] true true).store.machines,
        m'.labels.get nodeLabelKey = x.name → m'.name = m.name) →
      (reconcileNewMachineSetInPlace [transferExampleOldIS 2] transferExampleNewIS
        transferExampleDeployment (World.init (transferExampleCluster 2) [] true true)).2.store.MachineHas
        m.name (Machine.OwnedBy transferExampleNewIS) := by
  have hsel : ∀ s ∈ [transferExampleNewIS, transferExampleOldIS 2],
      s.selector.get? nodeLabelKey = none := by decide
  have hgrow : transferExampleNewIS.replicas < transferExampleDeployment.replicas := by decide
  have hok : (reconcileNewMachineSetInPlace [transferExampleOldIS 2] transferExampleNewIS
      transferExampleDeployment (World.init (transferExampleCluster 2) [] true true)).1.2 = none := by
    decide
  exact ⟨rfl, hsel, hgrow, hok,
    reconcileNewMachineSetInPlace_moves_reported_machines rfl hsel hgrow hok⟩

end MachineControllerManager
