import MachineControllerManager.Controller.Transfer

/-!
# Conservation of replicas in `reconcileNewMachineSetInPlace`

`reconcileNewMachineSetInPlace` moves the updated machines of each old set to the new set,
then writes each old set's count less the machines it moved and, last, the new set's count
plus all of them. The counts are snapshot-based, and a failed uncordon returns before any of
the writes (`reconcileNewMachineSetInPlace_uncordon_failure_skips_scale`): a moved machine is
then counted nowhere.

When the servers accept every node and machine-set `Update` of the call (`UpdatesAccepted`),
whatever they answer to the ownership patches, the counts are conserved
(`reconcileNewMachineSetInPlace_conserves_replicas`): each old set ends with its replicas less
the accepted patches of its machines (`movedOutOf`), and the new set with its replicas plus
all of them. This needs the sets to be stored as given, the listers to have caught up, and
the sets' selectors to conflict pairwise (`DisjointSelectors`), so that a machine moved to the
new set is never listed for another old set.

The proof follows the code: `transferLoop_accounts` for the node loop of one old set,
`reconcileNewLoop_accounts` for the loop over the old sets, each built on the per-call facts
`TransferInv.patch`, `TransferInv.uncordon` and `scaleMachineSetAndRecordEvent_accounts`.
-/

namespace MachineControllerManager

/-! ### What the log records -/

/-- Whether a call is a node or machine-set `Update`. -/
def Call.isUpdate : Call → Bool
  | .updateNode _ _ => true
  | .updateMachineSet _ => true
  | _ => false

/-- Every node and machine-set `Update` of the log was accepted. -/
def UpdatesAccepted (log : List Attempt) : Prop :=
  ∀ a ∈ log, a.call.isUpdate = true → a.ok = true

/-- Whether the updates were accepted is decided attempt by attempt. -/
instance (log : List Attempt) : Decidable (UpdatesAccepted log) :=
  inferInstanceAs (Decidable (∀ a ∈ log, a.call.isUpdate = true → a.ok = true))

/-- The updates of two logs were accepted when each log's were. -/
@[simp]
theorem UpdatesAccepted_append {s t : List Attempt} :
    UpdatesAccepted (s ++ t) ↔ UpdatesAccepted s ∧ UpdatesAccepted t := by
  simp only [UpdatesAccepted, List.mem_append, or_imp, forall_and]

/-- The updates of a log were accepted when its head's and its tail's were. -/
@[simp]
theorem UpdatesAccepted_cons {a : Attempt} {l : List Attempt} :
    UpdatesAccepted (a :: l) ↔ (a.call.isUpdate = true → a.ok = true) ∧ UpdatesAccepted l :=
  List.forall_mem_cons

/-- The updates of one attempt were accepted when it was, if it is an update. -/
@[simp]
theorem UpdatesAccepted_singleton {a : Attempt} :
    UpdatesAccepted [a] ↔ (a.call.isUpdate = true → a.ok = true) :=
  List.forall_mem_singleton

/-- The machines whose patch the log records as accepted, in order. -/
def acceptedMachinePatches (log : List Attempt) : List String :=
  log.filterMap fun a =>
    match a with
    | ⟨.patchMachine name _, true⟩ => some name
    | _ => none

/-- The accepted patches of two logs, one after the other. -/
@[simp]
theorem acceptedMachinePatches_append (s t : List Attempt) :
    acceptedMachinePatches (s ++ t) = acceptedMachinePatches s ++ acceptedMachinePatches t :=
  List.filterMap_append _ _ _

/-- An empty log accepted no patch. -/
@[simp]
theorem acceptedMachinePatches_nil : acceptedMachinePatches [] = [] := rfl

/-- A machine patch counts when it was accepted. -/
@[simp]
theorem acceptedMachinePatches_cons_patchMachine (n : String) (p : MachinePatch) (ok : Bool)
    (l : List Attempt) :
    acceptedMachinePatches (⟨.patchMachine n p, ok⟩ :: l) =
      if ok then n :: acceptedMachinePatches l else acceptedMachinePatches l := by
  cases ok <;> rfl

/-- A node `Update` is no machine patch. -/
@[simp]
theorem acceptedMachinePatches_cons_updateNode (client : Client) (x : Node) (ok : Bool)
    (l : List Attempt) :
    acceptedMachinePatches (⟨.updateNode client x, ok⟩ :: l) = acceptedMachinePatches l := by
  cases ok <;> rfl

/-- The accepted patches of the log that moved a machine of `X`: one that matches `X`'s
selector in `c₀`. -/
def movedOutOf (c₀ : Cluster) (X : MachineSet) (log : List Attempt) : Nat :=
  ((acceptedMachinePatches log).filter fun n =>
    (c₀.getMachine n).any fun m => X.selector.selects m.labels).length

/-- A machine is found by its own name: names are unique. -/
theorem Cluster.getMachine_of_mem {c : Cluster} {m : Machine} (hm : m ∈ c.machines) : c.getMachine m.name = some m := by
  have hsome : (c.getMachine m.name).isSome := List.find?_isSome.mpr ⟨m, hm, beq_self_eq_true _⟩
  obtain ⟨x, hx⟩ := Option.isSome_iff_exists.mp hsome
  obtain ⟨hxm, hxn⟩ := c.getMachine_eq_some hx
  exact hx.trans (congrArg some (List.inj_on_of_nodup_map c.machines_nodup hxm hm hxn))

/-- The moves of a log are those of its two parts. -/
theorem movedOutOf_append (c₀ : Cluster) (X : MachineSet) (s t : List Attempt) :
    movedOutOf c₀ X (s ++ t) = movedOutOf c₀ X s + movedOutOf c₀ X t := by
  simp [movedOutOf, List.filter_append]

/-- When every machine the log moved matches `X` in `c₀`, each counts for `X`. -/
theorem movedOutOf_eq_length {c₀ : Cluster} {X : MachineSet} {seg : List Attempt}
    (h : ∀ x ∈ acceptedMachinePatches seg,
      ∃ m ∈ c₀.machines, m.name = x ∧ X.selector.selects m.labels = true) :
    movedOutOf c₀ X seg = (acceptedMachinePatches seg).length := by
  unfold movedOutOf
  rw [List.filter_eq_self.mpr]
  intro x hx
  obtain ⟨m, hm, rfl, hsel⟩ := h x hx
  simp [c₀.getMachine_of_mem hm, hsel]

/-- When no machine the log moved matches `X` in `c₀`, none counts for `X`. -/
theorem movedOutOf_eq_zero {c₀ : Cluster} {X : MachineSet} {seg : List Attempt}
    (h : ∀ x ∈ acceptedMachinePatches seg,
      ∃ m ∈ c₀.machines, m.name = x ∧ X.selector.selects m.labels = false) :
    movedOutOf c₀ X seg = 0 := by
  unfold movedOutOf
  rw [List.length_eq_zero, List.filter_eq_nil_iff]
  intro x hx
  obtain ⟨m, hm, rfl, hsel⟩ := h x hx
  simp [c₀.getMachine_of_mem hm, hsel]

/-- A log that moved no machine moved none of `X`'s. -/
theorem movedOutOf_of_no_patches {c₀ : Cluster} {X : MachineSet} {seg : List Attempt}
    (h : acceptedMachinePatches seg = []) : movedOutOf c₀ X seg = 0 := by
  simp [movedOutOf, h]

/-! ### Selectors that no machine matches twice -/

/-- Two selectors bind some key to different values, so that no labels match both. -/
def selectorsConflict (s t : Labels) : Bool :=
  s.any fun p =>
    match s.get? p.1, t.get? p.1 with
    | some v, some v' => v != v'
    | _, _ => false

/-- Labels matched by a selector are not matched by one it conflicts with. -/
theorem selectorsConflict_selects {s t labels : Labels} (h : selectorsConflict s t = true)
    (hs : s.selects labels = true) : t.selects labels = false := by
  obtain ⟨p, -, hp⟩ := List.any_eq_true.mp h
  rw [Bool.eq_false_iff]
  intro ht
  rw [Labels.selects_iff] at hs ht
  split at hp
  · rename_i v v' hv hv'
    cases Option.some.inj ((hs _ _ hv).symm.trans (ht _ _ hv'))
    simp at hp
  · exact Bool.false_ne_true hp

/-- `selectorsConflict_selects`, read from the second selector. -/
theorem selectorsConflict_selects' {s t labels : Labels} (h : selectorsConflict s t = true)
    (ht : t.selects labels = true) : s.selects labels = false := by
  cases hs : s.selects labels
  · rfl
  · rw [selectorsConflict_selects h hs] at ht; cases ht

/-- The selectors of the sets conflict pairwise: no machine matches two of them. -/
def DisjointSelectors (l : List MachineSet) : Prop :=
  l.Pairwise fun a b => selectorsConflict a.selector b.selector = true

/-- Whether the selectors conflict is decided pair by pair. -/
instance (l : List MachineSet) : Decidable (DisjointSelectors l) :=
  inferInstanceAs (Decidable (l.Pairwise _))

/-! ### What the transfer keeps -/

/-- Each machine of `c` is one of `c₀`, or matches the new set's selector: it was moved. -/
def MachinesFromOrNew (c₀ : Cluster) (newIS : MachineSet) (c : Cluster) : Prop :=
  ∀ m ∈ c.machines, m ∈ c₀.machines ∨ newIS.selector.selects m.labels = true

/-- What the transfer keeps of the world `w₀` it started in: every machine, stored or cached,
is an old one or a moved one, and the nodes stay as many. -/
structure TransferInv (w₀ : World) (newIS : MachineSet) (w : World) : Prop where
  store : MachinesFromOrNew w₀.store newIS w.store
  cache : MachinesFromOrNew w₀.store newIS w.cache
  store_nodes : w.store.nodes.length = w₀.store.nodes.length
  cache_nodes : w.cache.nodes.length = w₀.store.nodes.length

/-- A world whose listers have caught up keeps the invariant with itself. -/
theorem TransferInv.init {w : World} (h : w.cache = w.store) (newIS : MachineSet) :
    TransferInv w newIS w where
  store m hm := .inl hm
  cache m hm := .inl (h ▸ hm)
  store_nodes := rfl
  cache_nodes := by rw [h]

/-- A world whose machines and nodes moved only as the transfer moves them keeps the
invariant. -/
theorem TransferInv.of_store {w₀ w w₁ : World} {newIS : MachineSet} (hinv : TransferInv w₀ newIS w)
    (hsm : MachinesFromOrNew w₀.store newIS w₁.store)
    (hcm : w₁.cache.machines = w.cache.machines ∨ w₁.cache.machines = w₁.store.machines)
    (hsn : w₁.store.nodes.length = w.store.nodes.length)
    (hcn : w₁.cache.nodes.length = w.cache.nodes.length ∨ w₁.cache.nodes = w₁.store.nodes) :
    TransferInv w₀ newIS w₁ where
  store := hsm
  cache m hm := by
    rcases hcm with h | h <;> rw [h] at hm
    exacts [hinv.cache m hm, hsm m hm]
  store_nodes := hsn.trans hinv.store_nodes
  cache_nodes := by
    rcases hcn with h | h
    · exact h.trans hinv.cache_nodes
    · rw [h, hsn, hinv.store_nodes]

/-- A machine patched over to the new set matches the new set's selector, when that selector
does not name the update-successful key the patch sets. -/
theorem addControllerPatch_apply_selects {newIS : MachineSet}
    (hUS : newIS.selector.get? labelKeyMachineUpdateSuccessful = none) (is : MachineSet)
    (machine sm : Machine) :
    newIS.selector.selects ((addControllerPatch newIS is machine).apply sm).labels = true := by
  rw [Labels.selects_iff]
  intro k v hk
  have hne : k ≠ labelKeyMachineUpdateSuccessful := by rintro rfl; rw [hUS] at hk; cases hk
  simp [MachinePatch.apply, addControllerPatch, machineNewLabels, hne, hk]

/-- **The ownership patch** keeps the invariant and every machine set, whatever its answer. -/
theorem TransferInv.patch {w₀ w w₁ : World} {newIS is : MachineSet} {machine : Machine}
    {err : Option GoError} (hinv : TransferInv w₀ newIS w)
    (hUS : newIS.selector.get? labelKeyMachineUpdateSuccessful = none)
    (h : patchMachine machine.name (addControllerPatch newIS is machine) w = (err, w₁)) :
    TransferInv w₀ newIS w₁ ∧ w₁.store.machineSets = w.store.machineSets ∧
      w₁.log = w.log ++ [⟨.patchMachine machine.name (addControllerPatch newIS is machine),
        err.isNone⟩] := by
  have hs := patchMachine_settles h
  have hst : w₁.store = w.store ∨
      ∃ sm, w₁.store = w.store.setMachine ((addControllerPatch newIS is machine).apply sm) := by
    cases err with
    | some e => exact .inl (hs.error (by simp))
    | none =>
      obtain ⟨f, hf⟩ := hs.ok rfl
      obtain ⟨sm, -, h'⟩ := Cluster.applyPatchMachine_ok _ hf
      exact .inr ⟨sm, h'⟩
  refine ⟨hinv.of_store ?_ ?_ ?_ ?_, ?_, hs.log⟩
  · rcases hst with h | ⟨sm, h⟩ <;> rw [h]
    · exact hinv.store
    · intro m hm
      rcases mem_replaceNamed hm with rfl | ⟨hm, -⟩
      exacts [.inr (addControllerPatch_apply_selects hUS is machine sm), hinv.store m hm]
  · rcases hs.cache with h | h <;> rw [h]
    exacts [.inl rfl, .inr rfl]
  · rcases hst with h | ⟨sm, h⟩ <;> rw [h]; rfl
  · rcases hs.cache with h | h <;> rw [h] <;> exact .inl rfl
  · rcases hst with h | ⟨sm, h⟩ <;> rw [h]; rfl

/-- Mutating the informer's copy of a node moves no machine and no node. -/
theorem TransferInv.mutateCachedNode {w₀ w : World} {newIS : MachineSet}
    (hinv : TransferInv w₀ newIS w) (listed x : Node) :
    TransferInv w₀ newIS (w.mutateCachedNode listed x) :=
  hinv.of_store (by rw [World.mutateCachedNode_store]; exact hinv.store)
    (.inl (by unfold World.mutateCachedNode; split <;> rfl))
    (by rw [World.mutateCachedNode_store])
    (.inl (by unfold World.mutateCachedNode; split <;> simp [Cluster.setNode]))

/-- **The uncordon** after a moved machine keeps the invariant and every machine set, whatever
its answer. -/
theorem TransferInv.uncordon {w₀ w w₁ : World} {newIS : MachineSet} {node : Node}
    {err : Option GoError} (hinv : TransferInv w₀ newIS w)
    (h : updateNode .control { node with unschedulable := false }
      (w.mutateCachedNode node { node with unschedulable := false }) = (err, w₁)) :
    TransferInv w₀ newIS w₁ ∧ w₁.store.machineSets = w.store.machineSets ∧
      w₁.log = w.log ++ [⟨.updateNode .control { node with unschedulable := false },
        err.isNone⟩] := by
  set W := w.mutateCachedNode node { node with unschedulable := false }
  have hinv' : TransferInv w₀ newIS W := hinv.mutateCachedNode _ _
  have hs := updateNode_settles h
  have hst : w₁.store.machines = W.store.machines ∧ w₁.store.machineSets = W.store.machineSets ∧
      w₁.store.nodes.length = W.store.nodes.length := by
    cases err with
    | some e => rw [hs.error (by simp)]; exact ⟨rfl, rfl, rfl⟩
    | none =>
      obtain ⟨f, hf⟩ := hs.ok rfl
      obtain ⟨hm, hms⟩ := Cluster.applyUpdateNode_ok_machines _ hf
      obtain ⟨rv, h'⟩ := Cluster.applyUpdateNode_ok _ hf
      refine ⟨hm, hms, ?_⟩
      rw [h']; split <;> simp [Cluster.setNode]
  refine ⟨hinv'.of_store (fun m hm => hinv'.store m (hst.1 ▸ hm)) ?_ hst.2.2 ?_,
    by rw [hst.2.1, World.mutateCachedNode_store], by rw [hs.log, World.mutateCachedNode_log]⟩
  · rcases hs.cache with h | h <;> rw [h] <;> exact .inl rfl
  · rcases hs.cache with h | h <;> rw [h]
    exacts [.inl rfl, .inr rfl]

/-- The store holds, under `X`'s name, a set with the replicas of the copy `X`. -/
def StoredAs (c : Cluster) (X : MachineSet) : Prop :=
  (c.getMachineSet X.name).map MachineSet.replicas = some X.replicas

/-- **A scale** patches no machine and keeps the invariant; when its `Update` is accepted it
returns no error, every set but `X`'s stays, and `X`'s, if stored as `X`, gets `newScale`
replicas. -/
theorem scaleMachineSetAndRecordEvent_accounts {w₀ w w' : World} {newIS X : MachineSet}
    {newScale : Int32} {res : Bool × Option GoError} (hinv : TransferInv w₀ newIS w)
    (h : scaleMachineSetAndRecordEvent X newScale w = (res, w')) :
    TransferInv w₀ newIS w' ∧ ∃ seg, w'.log = w.log ++ seg ∧ acceptedMachinePatches seg = [] ∧
      (UpdatesAccepted seg → res.2 = none ∧
        (StoredAs w.store X → (w'.store.getMachineSet X.name).map MachineSet.replicas = some newScale) ∧
        ∀ n, n ≠ X.name → w'.store.getMachineSet n = w.store.getMachineSet n) := by
  unfold scaleMachineSetAndRecordEvent at h
  split at h
  · rename_i heq
    cases h
    exact ⟨hinv, [], by simp, rfl, fun _ => ⟨rfl, fun hX => heq ▸ hX, fun _ _ => rfl⟩⟩
  rcases hu : updateMachineSet { X with replicas := newScale } w with ⟨err, w₁⟩
  rw [hu] at h
  obtain ⟨rfl, rfl⟩ := Prod.mk.inj h
  have hs := updateMachineSet_settles hu
  have hm : w₁.store.machines = w.store.machines ∧ w₁.store.nodes = w.store.nodes := by
    refine hs.store (fun c => c.machines = w.store.machines ∧ c.nodes = w.store.nodes) ⟨rfl, rfl⟩
      fun _ _ h => ?_
    obtain ⟨_, -, -, rfl⟩ := Cluster.applyUpdateMachineSet_ok _ h
    exact ⟨rfl, rfl⟩
  refine ⟨hinv.of_store (fun m hm' => hinv.store m (hm.1 ▸ hm')) ?_ (by rw [hm.2]) ?_,
    _, hs.log, rfl, fun hok => ?_⟩
  · rcases hs.cache with h | h <;> rw [h] <;> exact .inl rfl
  · rcases hs.cache with h | h <;> rw [h] <;> exact .inl rfl
  have herr : err = none := by simpa using (UpdatesAccepted_singleton.mp hok) rfl
  subst herr
  obtain ⟨f, hf⟩ := hs.ok rfl
  obtain ⟨s, hs', -, hst⟩ := Cluster.applyUpdateMachineSet_ok _ hf
  refine ⟨rfl, fun _ => ?_, fun n hn => ?_⟩
  · rw [hst, Cluster.getMachineSet_setMachineSet, if_pos rfl]
    change ((w.store.getMachineSet X.name).map _).map _ = _
    rw [show w.store.getMachineSet X.name = some s from hs']
    rfl
  · rw [hst, Cluster.getMachineSet_setMachineSet, if_neg (Ne.symm hn)]

/-- A stored replica count, read as an integer. -/
theorem map_replicas_toInt {o : Option MachineSet} {r : Int32} {x : Int}
    (h : o.map MachineSet.replicas = some r) (hr : r.toInt = x) :
    o.map (·.replicas.toInt) = some x := by
  rw [← hr, ← Option.map_some', ← h, Option.map_map]; rfl

/-! ### One old set: the node loop -/

/-- What the node loop for the old set `A` did from `w` with the counters `t` and `added`,
handed `n` nodes, returning `r` after the calls `seg`: every machine it moved is one of `A`'s
in `w₀`, at most one per node; at the end of the nodes both counters are up by the machines
moved and no set was written; after a failed patch whose writes were accepted, the new set
and `A` hold their replicas with the machines moved counted, and every other set stayed. -/
structure TransferAccounts (w₀ : World) (newIS A : MachineSet) (n : Nat) (t added : Int32)
    (w : World) (r : TransferExit × World) (seg : List Attempt) : Prop where
  inv : TransferInv w₀ newIS r.2
  log : r.2.log = w.log ++ seg
  moved : ∀ x ∈ acceptedMachinePatches seg,
    ∃ m ∈ w₀.store.machines, m.name = x ∧ A.selector.selects m.labels = true
  moved_le : (acceptedMachinePatches seg).length ≤ n
  next : ∀ t' added', r.1 = .next t' added' →
    t'.toInt = t.toInt + (acceptedMachinePatches seg).length ∧
    added'.toInt = added.toInt + (acceptedMachinePatches seg).length ∧
    r.2.store.machineSets = w.store.machineSets
  ret : UpdatesAccepted seg → StoredAs w.store newIS → StoredAs w.store A →
    ∀ scaled e, r.1 = .ret scaled e →
      (r.2.store.getMachineSet newIS.name).map (·.replicas.toInt) =
        some (newIS.replicas.toInt + added.toInt + (acceptedMachinePatches seg).length) ∧
      (r.2.store.getMachineSet A.name).map (·.replicas.toInt) =
        some (A.replicas.toInt - (t.toInt + (acceptedMachinePatches seg).length)) ∧
      ∀ n, n ≠ newIS.name → n ≠ A.name → r.2.store.getMachineSet n = w.store.getMachineSet n

/-- Stores with the same machine sets store the same copies. -/
theorem StoredAs.of_machineSets_eq {c c' : Cluster} {X : MachineSet}
    (h : c'.machineSets = c.machineSets) : StoredAs c' X ↔ StoredAs c X := by
  rw [StoredAs, StoredAs, Cluster.getMachineSet_congr _ h]

namespace TransferAccounts

variable {w₀ w w₁ : World} {newIS A : MachineSet} {n : Nat} {t added : Int32}
  {r : TransferExit × World} {seg : List Attempt}

/-- The bound on the machines moved can be loosened. -/
theorem mono (h : TransferAccounts w₀ newIS A n t added w r seg) {n' : Nat} (hn : n ≤ n') :
    TransferAccounts w₀ newIS A n' t added w r seg :=
  { h with moved_le := h.moved_le.trans hn }

/-- A refused patch before the rest of the loop changes none of its accounts. -/
theorem of_refused (h : TransferAccounts w₀ newIS A n t added w₁ r seg) {x : String}
    {p : MachinePatch} (hlog : w₁.log = w.log ++ [⟨.patchMachine x p, false⟩])
    (hms : w₁.store.machineSets = w.store.machineSets) :
    TransferAccounts w₀ newIS A n t added w r (⟨.patchMachine x p, false⟩ :: seg) where
  inv := h.inv
  log := by rw [h.log, hlog, List.append_assoc]; rfl
  moved := h.moved
  moved_le := h.moved_le
  next t' added' hr := by simpa [hms] using h.next t' added' hr
  ret hacc hN hA sc e hr := by
    obtain ⟨h₁, h₂, h₃⟩ := h.ret (UpdatesAccepted_cons.mp hacc).2
      ((StoredAs.of_machineSets_eq hms).mpr hN) ((StoredAs.of_machineSets_eq hms).mpr hA) sc e hr
    simp only [acceptedMachinePatches_cons_patchMachine, Bool.false_eq_true, ite_false]
    exact ⟨h₁, h₂, fun n hn hnA => (h₃ n hn hnA).trans (congrFun (Cluster.getMachineSet_congr _ hms) n)⟩

/-- A machine of `A` moved, with its node uncordoned, before the rest of the loop: one more
machine in every account. -/
theorem of_moved (h : TransferAccounts w₀ newIS A n (t + 1) (added + 1) w₁ r seg) {m : Machine}
    {p : MachinePatch} {client : Client} {x : Node}
    (hlog : w₁.log = w.log ++ [⟨.patchMachine m.name p, true⟩, ⟨.updateNode client x, true⟩])
    (hms : w₁.store.machineSets = w.store.machineSets)
    (hm : m ∈ w₀.store.machines ∧ A.selector.selects m.labels = true)
    (ht : (t + 1).toInt = t.toInt + 1) (ha : (added + 1).toInt = added.toInt + 1) :
    TransferAccounts w₀ newIS A (n + 1) t added w r
      (⟨.patchMachine m.name p, true⟩ :: ⟨.updateNode client x, true⟩ :: seg) where
  inv := h.inv
  log := by rw [h.log, hlog, List.append_assoc]; rfl
  moved := by
    simp only [acceptedMachinePatches_cons_patchMachine, if_true,
      acceptedMachinePatches_cons_updateNode, List.mem_cons]
    rintro y (rfl | hy)
    exacts [⟨m, hm.1, rfl, hm.2⟩, h.moved y hy]
  moved_le := by simpa using h.moved_le
  next t' added' hr := by
    obtain ⟨h₁, h₂, h₃⟩ := h.next t' added' hr
    simp only [acceptedMachinePatches_cons_patchMachine, if_true,
      acceptedMachinePatches_cons_updateNode, List.length_cons, Nat.cast_add, Nat.cast_one]
    exact ⟨by omega, by omega, h₃.trans hms⟩
  ret hacc hN hA sc e hr := by
    simp only [UpdatesAccepted_cons] at hacc
    obtain ⟨h₁, h₂, h₃⟩ := h.ret hacc.2.2
      ((StoredAs.of_machineSets_eq hms).mpr hN) ((StoredAs.of_machineSets_eq hms).mpr hA) sc e hr
    simp only [acceptedMachinePatches_cons_patchMachine, if_true,
      acceptedMachinePatches_cons_updateNode, List.length_cons, Nat.cast_add, Nat.cast_one]
    refine ⟨by rw [h₁, ha]; congr 1; omega, by rw [h₂, ht]; congr 1; omega, fun n hn hnA => ?_⟩
    exact (h₃ n hn hnA).trans (congrFun (Cluster.getMachineSet_congr _ hms) n)

end TransferAccounts

section TransferLoop

variable {w₀ : World} {newIS A : MachineSet}
  (hname : A.name ≠ newIS.name) (hAnn : 0 ≤ A.replicas.toInt) (hnew : 0 ≤ newIS.replicas.toInt)

include hname hAnn hnew in
/-- **The writes after a failed patch** move no machine; accepted, they write the new set's
count with `added` and `A`'s with `t`, and leave every other set. -/
theorem scaleAfterTransferFailure_accounts {t added : Int32} {w : World} {err : GoError}
    (hinv : TransferInv w₀ newIS w) (ht : 0 ≤ t.toInt) (hta : t.toInt ≤ added.toInt)
    (hfit : newIS.replicas.toInt + added.toInt < 2147483648) :
    ∃ seg, TransferAccounts w₀ newIS A 0 t added w
      (scaleAfterTransferFailure newIS A t added err w) seg := by
  have := A.replicas.toInt_lt
  have := t.toInt_lt
  have hN : (newIS.replicas + added).toInt = newIS.replicas.toInt + added.toInt :=
    Int32.toInt_add (by omega) (by omega)
  have hA : (A.replicas - t).toInt = A.replicas.toInt - t.toInt :=
    Int32.toInt_sub (by omega) (by omega)
  dsimp only [scaleAfterTransferFailure]
  split
  · rename_i e₂ w₁ hup
    obtain ⟨hinv₁, seg, hlog, hacc, hok⟩ := scaleMachineSetAndRecordEvent_accounts hinv hup
    exact ⟨seg, hinv₁, hlog, by simp [hacc], by simp [hacc], (fun _ _ h => by cases h),
      fun h => absurd (hok h).1 (by simp)⟩
  rename_i scaled w₁ hup
  obtain ⟨hinv₁, seg₁, hlog₁, hacc₁, hok₁⟩ := scaleMachineSetAndRecordEvent_accounts hinv hup
  split <;> rename_i w₂ hdown <;>
    obtain ⟨hinv₂, seg₂, hlog₂, hacc₂, hok₂⟩ := scaleMachineSetAndRecordEvent_accounts hinv₁ hdown
  · exact ⟨seg₁ ++ seg₂, hinv₂, by rw [hlog₂, hlog₁, List.append_assoc], by simp [hacc₁, hacc₂],
      by simp [hacc₁, hacc₂], (fun _ _ h => by cases h),
      fun h => absurd (hok₂ (UpdatesAccepted_append.mp h).2).1 (by simp)⟩
  refine ⟨seg₁ ++ seg₂, hinv₂, by rw [hlog₂, hlog₁, List.append_assoc], by simp [hacc₁, hacc₂],
    by simp [hacc₁, hacc₂], (fun _ _ h => by cases h), fun h hNs hAs _ _ _ => ?_⟩
  obtain ⟨-, hN₁, hframe₁⟩ := hok₁ (UpdatesAccepted_append.mp h).1
  obtain ⟨-, hA₂, hframe₂⟩ := hok₂ (UpdatesAccepted_append.mp h).2
  simp only [acceptedMachinePatches_append, hacc₁, hacc₂, List.append_nil, List.length_nil]
  refine ⟨map_replicas_toInt ?_ (hN.trans (by omega)), map_replicas_toInt (hA₂ ?_) (hA.trans (by omega)),
    fun n hn hnA => ?_⟩
  · rw [hframe₂ newIS.name (Ne.symm hname)]; exact hN₁ hNs
  · rw [StoredAs, hframe₁ A.name hname]; exact hAs
  · rw [hframe₂ n hnA, hframe₁ n hn]

include hname hAnn hnew in
/-- **One old set's node loop**: every machine it moves is one of `A`'s, at most one per node;
at the end of the nodes the counters count them, and after a failed patch the accepted writes
do. -/
theorem transferLoop_accounts {machines : List Machine}
    (hUS : newIS.selector.get? labelKeyMachineUpdateSuccessful = none)
    (hmachines : ∀ m ∈ machines, m ∈ w₀.store.machines ∧ A.selector.selects m.labels = true) :
    ∀ (nodes : List Node) (t added : Int32) (w : World), TransferInv w₀ newIS w →
      0 ≤ t.toInt → t.toInt ≤ added.toInt →
      newIS.replicas.toInt + added.toInt + nodes.length < 2147483648 →
      ∃ seg, TransferAccounts w₀ newIS A nodes.length t added w
        (transferLoop newIS A machines nodes t added w) seg
  | [], t, added, w, hinv, _, _, _ =>
    ⟨[], hinv, (List.append_nil _).symm, by simp, by simp,
      fun _ _ h => by cases h; exact ⟨by simp, by simp, rfl⟩, fun _ _ _ _ _ h => by cases h⟩
  | node :: nodes, t, added, w, hinv, ht, hta, hfit => by
    simp only [List.length_cons, Nat.cast_add, Nat.cast_one] at hfit
    dsimp only [transferLoop]
    split
    · obtain ⟨seg, h⟩ := transferLoop_accounts hUS hmachines nodes t added w hinv ht hta (by omega)
      exact ⟨seg, h.mono (Nat.le_succ _)⟩
    rename_i machine hmach
    have hm := hmachines machine (List.mem_of_find?_eq_some hmach)
    split
    · rename_i err w₁ hp
      obtain ⟨hinv₁, hms₁, hlog₁⟩ := hinv.patch hUS hp
      obtain ⟨seg, h⟩ := @scaleAfterTransferFailure_accounts _ _ _ hname hAnn hnew t added w₁ err
        hinv₁ ht hta (by omega)
      exact ⟨_, (h.of_refused hlog₁ hms₁).mono (Nat.zero_le _)⟩
    rename_i w₁ hp
    obtain ⟨hinv₁, hms₁, hlog₁⟩ := hinv.patch hUS hp
    split
    · rename_i e w₂ hu
      obtain ⟨hinv₂, -, hlog₂⟩ := hinv₁.uncordon hu
      refine ⟨[⟨.patchMachine machine.name (addControllerPatch newIS A machine), true⟩,
        ⟨.updateNode .control { node with unschedulable := false }, false⟩], hinv₂,
        by rw [hlog₂, hlog₁, List.append_assoc]; rfl, ?_, by simp, (fun _ _ h => by cases h),
        fun hacc => by simp [Call.isUpdate] at hacc⟩
      simpa using ⟨machine, hm.1, rfl, hm.2⟩
    rename_i w₂ hu
    obtain ⟨hinv₂, hms₂, hlog₂⟩ := hinv₁.uncordon hu
    have ht1 : (t + 1).toInt = t.toInt + 1 :=
      Int32.toInt_add (by rw [Int32.toInt_one]; omega) (by rw [Int32.toInt_one]; omega)
    have ha1 : (added + 1).toInt = added.toInt + 1 :=
      Int32.toInt_add (by rw [Int32.toInt_one]; omega) (by rw [Int32.toInt_one]; omega)
    obtain ⟨seg, h⟩ := transferLoop_accounts hUS hmachines nodes (t + 1) (added + 1) w₂ hinv₂
      (by omega) (by omega) (by omega)
    exact ⟨_, h.of_moved (by rw [hlog₂, hlog₁, List.append_assoc]; rfl) (hms₂.trans hms₁) hm
      ht1 ha1⟩

end TransferLoop

/-! ### The old sets: the loop of `reconcileNewMachineSetInPlace` -/

/-- What the loop over the old sets `rest`, carrying `added`, did from `w` to `w'` with the
calls `seg`: every machine it moved matches one of `rest` in `w₀`, so that the moves counted
per set are all of them; and when its updates were accepted, from a store holding the new set
and `rest` as given, each set of `rest` ends with its replicas less the accepted patches of its
machines, the new set with its replicas plus `added` and all of them, and every other set
stays. -/
structure LoopAccounts (w₀ : World) (newIS : MachineSet) (rest : List MachineSet) (added : Int32)
    (w w' : World) (seg : List Attempt) : Prop where
  log : w'.log = w.log ++ seg
  moved : ∀ x ∈ acceptedMachinePatches seg,
    ∃ m ∈ w₀.store.machines, m.name = x ∧ ∃ X ∈ rest, X.selector.selects m.labels = true
  counted : (rest.map fun X => (movedOutOf w₀.store X seg : Int)).sum =
    (acceptedMachinePatches seg).length
  accepted : UpdatesAccepted seg → StoredAs w.store newIS → (∀ X ∈ rest, StoredAs w.store X) →
    (w'.store.getMachineSet newIS.name).map (·.replicas.toInt) =
      some (newIS.replicas.toInt + added.toInt +
        (rest.map fun X => (movedOutOf w₀.store X seg : Int)).sum) ∧
    (∀ X ∈ rest, (w'.store.getMachineSet X.name).map (·.replicas.toInt) =
      some (X.replicas.toInt - movedOutOf w₀.store X seg)) ∧
    ∀ n, n ∉ (newIS :: rest).map MachineSet.name →
      w'.store.getMachineSet n = w.store.getMachineSet n

/-- The machines listed for an old set are machines of `w₀` that its selector matches: a moved
machine matches the new set's selector, which conflicts with the old set's. -/
theorem TransferInv.listMachines {w₀ w : World} {newIS X : MachineSet}
    (hinv : TransferInv w₀ newIS w) (hc : selectorsConflict newIS.selector X.selector = true) :
    ∀ m ∈ w.cache.listMachines X.selector,
      m ∈ w₀.store.machines ∧ X.selector.selects m.labels = true := by
  intro m hm
  obtain ⟨hm, hsel⟩ := List.mem_filter.mp hm
  refine ⟨(hinv.cache m hm).resolve_right fun hnew => ?_, hsel⟩
  rw [selectorsConflict_selects hc hnew] at hsel
  cases hsel

/-- `movedOutOf_append`, summed over the sets `l`. -/
theorem sum_movedOutOf_append (c₀ : Cluster) (l : List MachineSet) (s t : List Attempt) :
    (l.map fun X => (movedOutOf c₀ X (s ++ t) : Int)).sum =
      (l.map fun X => (movedOutOf c₀ X s : Int)).sum +
        (l.map fun X => (movedOutOf c₀ X t : Int)).sum := by
  induction l with
  | nil => rfl
  | cons X l ih =>
    simp only [List.map_cons, List.sum_cons]
    rw [ih, movedOutOf_append]
    push_cast
    omega

/-- A log that moved none of the machines of the sets `l` counts nothing for them. -/
theorem sum_movedOutOf_eq_zero {c₀ : Cluster} {l : List MachineSet} {seg : List Attempt}
    (h : ∀ X ∈ l, movedOutOf c₀ X seg = 0) : (l.map fun X => (movedOutOf c₀ X seg : Int)).sum = 0 := by
  induction l with
  | nil => rfl
  | cons X l ih =>
    simp [h X (List.mem_cons_self _ _), ih fun Y hY => h Y (List.mem_cons_of_mem _ hY)]

/-- The sets after the head `X` of the loop: their names differ from `X`'s and the new set's,
and their selectors conflict with `X`'s. -/
structure LoopHead (newIS X : MachineSet) (rest : List MachineSet) : Prop where
  ne_new : X.name ≠ newIS.name
  new_not_mem : newIS.name ∉ rest.map MachineSet.name
  not_mem : X.name ∉ rest.map MachineSet.name
  conflict : ∀ Y ∈ rest, selectorsConflict X.selector Y.selector = true

/-- Distinct names and pairwise conflicting selectors give the loop's head its facts. -/
theorem LoopHead.of_nodup {newIS X : MachineSet} {rest : List MachineSet}
    (hnames : ((newIS :: X :: rest).map MachineSet.name).Nodup)
    (hdisj : DisjointSelectors (newIS :: X :: rest)) : LoopHead newIS X rest := by
  simp only [List.map_cons, List.nodup_cons, List.mem_cons, not_or] at hnames
  exact ⟨Ne.symm hnames.1.1, hnames.1.2, hnames.2.1,
    (List.pairwise_cons.mp (List.pairwise_cons.mp hdisj).2).1⟩

/-- A set after the head is named neither as the head nor as the new set. -/
theorem LoopHead.name_ne {newIS X Y : MachineSet} {rest : List MachineSet}
    (hh : LoopHead newIS X rest) (hY : Y ∈ rest) : Y.name ≠ X.name ∧ Y.name ≠ newIS.name := by
  have hYn : Y.name ∈ rest.map MachineSet.name := List.mem_map_of_mem _ hY
  exact ⟨fun h => hh.not_mem (h ▸ hYn), fun h => hh.new_not_mem (h ▸ hYn)⟩

namespace TransferAccounts

variable {w₀ w : World} {newIS X : MachineSet} {rest : List MachineSet} {n : Nat}
  {t added : Int32} {r : TransferExit × World} {seg : List Attempt}

/-- The machines the node loop for `X` moved count for `X` and for none of the sets after it. -/
theorem movedOutOf_rest (hT : TransferAccounts w₀ newIS X n t added w r seg)
    (hh : LoopHead newIS X rest) :
    ((X :: rest).map fun Y => (movedOutOf w₀.store Y seg : Int)).sum =
      (acceptedMachinePatches seg).length ∧
    ∀ Y ∈ rest, movedOutOf w₀.store Y seg = 0 := by
  have hzero : ∀ Y ∈ rest, movedOutOf w₀.store Y seg = 0 := fun Y hY =>
    movedOutOf_eq_zero fun x hx => by
      obtain ⟨m, hm, hn, hsel⟩ := hT.moved x hx
      exact ⟨m, hm, hn, selectorsConflict_selects (hh.conflict Y hY) hsel⟩
  refine ⟨?_, hzero⟩
  rw [List.map_cons, List.sum_cons, movedOutOf_eq_length hT.moved, sum_movedOutOf_eq_zero hzero,
    add_zero]

/-- The machines the node loop for `X` moved are machines of `X`, the head of the sets. -/
theorem moved_head (hT : TransferAccounts w₀ newIS X n t added w r seg) :
    ∀ x ∈ acceptedMachinePatches seg,
      ∃ m ∈ w₀.store.machines, m.name = x ∧ ∃ Y ∈ X :: rest, Y.selector.selects m.labels = true :=
  fun x hx => by
    obtain ⟨m, hm, hn, hsel⟩ := hT.moved x hx
    exact ⟨m, hm, hn, X, List.mem_cons_self _ _, hsel⟩

end TransferAccounts

/-- Loop accounts when the node loop for the head `X` returned after a failed patch. -/
theorem LoopAccounts.of_ret {w₀ w : World} {newIS X : MachineSet} {rest : List MachineSet}
    {added : Int32} {r : TransferExit × World} {seg : List Attempt} {n : Nat} {sc : Bool}
    {err : Option GoError} (hh : LoopHead newIS X rest)
    (hT : TransferAccounts w₀ newIS X n 0 added w r seg) (hr : r.1 = .ret sc err) :
    LoopAccounts w₀ newIS (X :: rest) added w r.2 seg where
  log := hT.log
  moved := hT.moved_head
  counted := (hT.movedOutOf_rest hh).1
  accepted hacc hN hrest := by
    obtain ⟨h₁, h₂, h₃⟩ := hT.ret hacc hN (hrest X (List.mem_cons_self _ _)) sc err hr
    obtain ⟨hsum, hzero⟩ := hT.movedOutOf_rest hh
    simp only [Int32.toInt_zero, zero_add] at h₂
    refine ⟨by rw [hsum]; exact h₁, fun Y hY => ?_, fun n hn => ?_⟩
    · rcases List.mem_cons.mp hY with rfl | hY
      · rw [movedOutOf_eq_length hT.moved]; exact h₂
      · rw [h₃ Y.name (hh.name_ne hY).2 (hh.name_ne hY).1]
        exact map_replicas_toInt (hrest Y (List.mem_cons_of_mem _ hY)) (by simp [hzero Y hY])
    · simp only [List.map_cons, List.mem_cons, not_or] at hn
      exact h₃ n hn.1 hn.2.1

/-- Loop accounts when the node loop for the head `X` reached the end of the nodes and the
scale-down of `X` by the machines moved was refused. -/
theorem LoopAccounts.of_scale_error {w₀ w w₂ : World} {newIS X : MachineSet}
    {rest : List MachineSet} {added : Int32} {r : TransferExit × World} {segT segS : List Attempt}
    {n : Nat} {t : Int32} (hh : LoopHead newIS X rest)
    (hT : TransferAccounts w₀ newIS X n t added w r segT) (hlogS : w₂.log = r.2.log ++ segS)
    (haccS : acceptedMachinePatches segS = []) (hrefused : ¬UpdatesAccepted segS) :
    LoopAccounts w₀ newIS (X :: rest) added w w₂ (segT ++ segS) where
  log := by rw [hlogS, hT.log, List.append_assoc]
  moved := by rw [acceptedMachinePatches_append, haccS, List.append_nil]; exact hT.moved_head
  counted := by
    rw [sum_movedOutOf_append, sum_movedOutOf_eq_zero fun _ _ => movedOutOf_of_no_patches haccS,
      add_zero, acceptedMachinePatches_append, haccS, List.append_nil]
    exact (hT.movedOutOf_rest hh).1
  accepted hacc := absurd (UpdatesAccepted_append.mp hacc).2 hrefused

/-- Loop accounts when the node loop for the head `X` reached the end of the nodes, `X` was
scaled down by the machines moved, and the loop went on with the sets after it. -/
theorem LoopAccounts.of_next {w₀ w w₂ w' : World} {newIS X : MachineSet} {rest : List MachineSet}
    {added t' added' : Int32} {r : TransferExit × World} {segT segS segR : List Attempt} {n : Nat}
    {res : Bool × Option GoError} (hh : LoopHead newIS X rest)
    (hT : TransferAccounts w₀ newIS X n 0 added w r segT) (hr : r.1 = .next t' added')
    (hsub : (X.replicas - t').toInt = X.replicas.toInt - t'.toInt)
    (hlogS : w₂.log = r.2.log ++ segS) (haccS : acceptedMachinePatches segS = [])
    (hokS : UpdatesAccepted segS → res.2 = none ∧
      (StoredAs r.2.store X →
        (w₂.store.getMachineSet X.name).map MachineSet.replicas = some (X.replicas - t')) ∧
      ∀ n, n ≠ X.name → w₂.store.getMachineSet n = r.2.store.getMachineSet n)
    (hR : LoopAccounts w₀ newIS rest added' w₂ w' segR) :
    LoopAccounts w₀ newIS (X :: rest) added w w' (segT ++ segS ++ segR) := by
  obtain ⟨ht', hadded', hms⟩ := hT.next t' added' hr
  obtain ⟨hsumT, hzeroT⟩ := hT.movedOutOf_rest hh
  have hXR : movedOutOf w₀.store X segR = 0 := movedOutOf_eq_zero fun x hx => by
    obtain ⟨m, hm, hn, Y, hY, hsel⟩ := hR.moved x hx
    exact ⟨m, hm, hn, selectorsConflict_selects' (hh.conflict Y hY) hsel⟩
  have hX : movedOutOf w₀.store X (segT ++ segS ++ segR) = (acceptedMachinePatches segT).length := by
    simp only [movedOutOf_append, movedOutOf_of_no_patches haccS, hXR,
      movedOutOf_eq_length hT.moved, add_zero]
  have hrestR : ∀ Y ∈ rest,
      movedOutOf w₀.store Y (segT ++ segS ++ segR) = movedOutOf w₀.store Y segR := fun Y hY => by
    simp only [movedOutOf_append, movedOutOf_of_no_patches haccS, hzeroT Y hY, zero_add]
  have hsum : ((X :: rest).map fun Y => (movedOutOf w₀.store Y (segT ++ segS ++ segR) : Int)).sum =
      (acceptedMachinePatches segT).length + (rest.map fun Y => (movedOutOf w₀.store Y segR : Int)).sum := by
    rw [List.map_cons, List.sum_cons, hX, List.map_congr_left fun Y hY => by rw [hrestR Y hY]]
  refine ⟨by rw [hR.log, hlogS, hT.log]; simp only [List.append_assoc], ?_, ?_, ?_⟩
  · simp only [acceptedMachinePatches_append, haccS, List.append_nil, List.mem_append]
    rintro x (hx | hx)
    · exact hT.moved_head x hx
    · obtain ⟨m, hm, hn, Y, hY, hsel⟩ := hR.moved x hx
      exact ⟨m, hm, hn, Y, List.mem_cons_of_mem _ hY, hsel⟩
  · rw [hsum, hR.counted]
    simp [haccS]
  intro hacc hN hrest
  simp only [UpdatesAccepted_append] at hacc
  obtain ⟨-, hX₂, hframe₂⟩ := hokS hacc.1.2
  have hstored₂ : ∀ Y : MachineSet, Y.name ≠ X.name → StoredAs w.store Y → StoredAs w₂.store Y :=
    fun Y hYX hs => by rw [StoredAs, hframe₂ _ hYX, Cluster.getMachineSet_congr _ hms]; exact hs
  obtain ⟨h₁, h₂, h₃⟩ := hR.accepted hacc.2 (hstored₂ newIS (Ne.symm hh.ne_new) hN)
    fun Y hY => hstored₂ Y (hh.name_ne hY).1 (hrest Y (List.mem_cons_of_mem _ hY))
  have hXfin : w'.store.getMachineSet X.name = w₂.store.getMachineSet X.name :=
    h₃ X.name (by simp only [List.map_cons, List.mem_cons, not_or]; exact ⟨hh.ne_new, hh.not_mem⟩)
  simp only [Int32.toInt_zero, zero_add] at ht' hadded'
  refine ⟨h₁.trans (congrArg some (by rw [hsum]; omega)), fun Y hY => ?_, fun m hm => ?_⟩
  · rcases List.mem_cons.mp hY with rfl | hY
    · rw [hXfin, hX]
      exact map_replicas_toInt (hX₂ ((StoredAs.of_machineSets_eq hms).mpr
        (hrest Y (List.mem_cons_self _ _)))) (by rw [hsub, ht'])
    · rw [hrestR Y hY]; exact h₂ Y hY
  · simp only [List.map_cons, List.mem_cons, not_or] at hm
    rw [h₃ m (by simp only [List.map_cons, List.mem_cons, not_or]; exact ⟨hm.1, hm.2.2⟩),
      hframe₂ m hm.2.1, Cluster.getMachineSet_congr _ hms]

section ReconcileNewLoop

variable {w₀ : World} {newIS : MachineSet}
  (hUS : newIS.selector.get? labelKeyMachineUpdateSuccessful = none) (hnew : 0 ≤ newIS.replicas.toInt)

include hUS hnew in
/-- **The loop over the old sets**: the machines it moves are the old sets' machines, each
counted for one old set; when its updates are accepted, each old set ends with its replicas
less its machines moved and the new set with its replicas plus `added` and all of them. -/
theorem reconcileNewLoop_accounts :
    ∀ (rest : List MachineSet) (added : Int32) (w : World), TransferInv w₀ newIS w →
      ((newIS :: rest).map MachineSet.name).Nodup → DisjointSelectors (newIS :: rest) →
      (∀ X ∈ rest, 0 ≤ X.replicas.toInt) → 0 ≤ added.toInt →
      newIS.replicas.toInt + added.toInt + ↑(rest.length * w₀.store.nodes.length) < 2147483648 →
      ∃ seg, LoopAccounts w₀ newIS rest added w (reconcileNewLoop newIS rest added w).2 seg
  | [], added, w, hinv, _, _, _, hadded, hfit => by
    obtain ⟨-, seg, hlog, hacc, hok⟩ := scaleMachineSetAndRecordEvent_accounts hinv
      (@Prod.mk.eta _ _ (scaleMachineSetAndRecordEvent newIS (newIS.replicas + added) w)).symm
    refine ⟨seg, hlog, by simp [hacc], by simp [hacc], fun hok' hN _ => ?_⟩
    obtain ⟨-, hN', hframe⟩ := hok hok'
    refine ⟨map_replicas_toInt (hN' hN) ((Int32.toInt_add (by omega) (by simpa using hfit)).trans
      (by simp)), fun _ h => (List.not_mem_nil _ h).elim, fun n hn => hframe n (by simpa using hn)⟩
  | X :: rest, added, w, hinv, hnames, hdisj, hX, hadded, hfit => by
    have hh := LoopHead.of_nodup hnames hdisj
    have hXnn := hX X (List.mem_cons_self _ _)
    have hsub : List.Sublist (newIS :: rest) (newIS :: X :: rest) :=
      (List.sublist_cons_self X rest).cons₂ newIS
    have hN : (w.cache.listNodes [(labelKeyMachineUpdateSuccessful, "true")]).length ≤
        w₀.store.nodes.length := hinv.cache_nodes ▸ List.length_filter_le _ _
    rw [List.length_cons, Nat.add_one_mul] at hfit
    obtain ⟨segT, hT⟩ := transferLoop_accounts hh.ne_new hXnn hnew hUS
      (hinv.listMachines ((List.pairwise_cons.mp hdisj).1 X (List.mem_cons_self _ _)))
      (w.cache.listNodes [(labelKeyMachineUpdateSuccessful, "true")]) 0 added w hinv
      Int32.toInt_zero.ge (Int32.toInt_zero ▸ hadded) (by omega)
    dsimp only [reconcileNewLoop]
    split
    · rename_i sc err w₁ hr
      rw [hr] at hT
      exact ⟨segT, LoopAccounts.of_ret hh hT rfl⟩
    rename_i t' added' w₁ hr
    rw [hr] at hT
    have hmoved := hT.moved_le
    obtain ⟨ht', hadded', -⟩ := hT.next t' added' rfl
    simp only [Int32.toInt_zero, zero_add] at ht'
    have := X.replicas.toInt_lt
    split
    · rename_i e w₂ hS
      obtain ⟨-, segS, hlogS, haccS, hokS⟩ := scaleMachineSetAndRecordEvent_accounts hT.inv hS
      exact ⟨_, LoopAccounts.of_scale_error hh hT hlogS haccS fun h => by simpa using (hokS h).1⟩
    rename_i b w₂ hS
    obtain ⟨hinv₂, segS, hlogS, haccS, hokS⟩ := scaleMachineSetAndRecordEvent_accounts hT.inv hS
    obtain ⟨segR, hR⟩ := reconcileNewLoop_accounts rest added' w₂ hinv₂
      ((hsub.map _).nodup hnames) (hdisj.sublist hsub) (fun Y hY => hX Y (List.mem_cons_of_mem _ hY))
      (by omega) (by omega)
    exact ⟨_, LoopAccounts.of_next hh hT rfl (Int32.toInt_sub (by omega) (by omega)) hlogS haccS hokS hR⟩

end ReconcileNewLoop

/-! ### The function -/

/-- **Replicas are conserved** by `reconcileNewMachineSetInPlace` when the servers accept every
node and machine-set `Update` of the call, whatever they answer to the ownership patches: every
accepted patch moved a machine of exactly one old set; each old set ends with its replicas less
its machines moved, the new set with its replicas plus all of them, and every other set stays. -/
theorem reconcileNewMachineSetInPlace_conserves_replicas (oldISs : List MachineSet)
    (newIS : MachineSet) (d : MachineDeployment) (w : World) (hcache : w.cache = w.store)
    (hstored : ∀ X ∈ newIS :: oldISs, w.store.getMachineSet X.name = some X)
    (hnames : ((newIS :: oldISs).map MachineSet.name).Nodup)
    (hdisj : DisjointSelectors (newIS :: oldISs))
    (hUS : newIS.selector.get? labelKeyMachineUpdateSuccessful = none)
    (hold : ∀ X ∈ oldISs, 0 ≤ X.replicas.toInt) (hnew : 0 ≤ newIS.replicas.toInt)
    (hfit : newIS.replicas.toInt + ↑(oldISs.length * w.store.nodes.length) < 2147483648)
    (hlt : newIS.replicas < d.replicas) :
    let r := reconcileNewMachineSetInPlace oldISs newIS d w
    ∃ seg, r.2.log = w.log ++ seg ∧
      (oldISs.map fun X => (movedOutOf w.store X seg : Int)).sum =
        (acceptedMachinePatches seg).length ∧
      (UpdatesAccepted seg →
        (r.2.store.getMachineSet newIS.name).map (·.replicas.toInt) =
          some (newIS.replicas.toInt + (acceptedMachinePatches seg).length) ∧
        (∀ X ∈ oldISs, (r.2.store.getMachineSet X.name).map (·.replicas.toInt) =
          some (X.replicas.toInt - movedOutOf w.store X seg)) ∧
        ∀ n, n ∉ (newIS :: oldISs).map MachineSet.name →
          r.2.store.getMachineSet n = w.store.getMachineSet n) := by
  have hne : newIS.replicas ≠ d.replicas := fun h => by rw [Int32.lt_def, h] at hlt; omega
  have hnlt : ¬d.replicas < newIS.replicas := by rw [Int32.lt_def] at hlt ⊢; omega
  dsimp only
  rw [reconcileNewMachineSetInPlace, if_neg hne, if_neg hnlt]
  obtain ⟨seg, h⟩ := reconcileNewLoop_accounts hUS hnew oldISs 0 w (TransferInv.init hcache newIS)
    hnames hdisj hold Int32.toInt_zero.ge (by rw [Int32.toInt_zero, add_zero]; exact hfit)
  refine ⟨seg, h.log, h.counted, fun hacc => ?_⟩
  have hSt : ∀ X ∈ newIS :: oldISs, StoredAs w.store X := fun X hX => by
    rw [StoredAs, hstored X hX]; rfl
  obtain ⟨h₁, h₂, h₃⟩ := h.accepted hacc (hSt newIS (List.mem_cons_self _ _))
    fun X hX => hSt X (List.mem_cons_of_mem _ hX)
  rw [h.counted, Int32.toInt_zero, add_zero] at h₁
  exact ⟨h₁, h₂, h₃⟩

/-- The transfer's example in a world whose control client reaches the target cluster's nodes,
so that the uncordons go through: the replicas leave the old set as they join the new one. -/
theorem reconcileNewMachineSetInPlace_conserves_replicas_example :
    let r := reconcileNewMachineSetInPlace [transferExampleOldIS 2] transferExampleNewIS
      transferExampleDeployment (World.init (transferExampleCluster 2) [] true true)
    ∃ seg, r.2.log = [] ++ seg ∧
      ([transferExampleOldIS 2].map fun X =>
        (movedOutOf (transferExampleCluster 2) X seg : Int)).sum =
        (acceptedMachinePatches seg).length ∧
      (UpdatesAccepted seg →
        (r.2.store.getMachineSet transferExampleNewIS.name).map (·.replicas.toInt) =
          some (transferExampleNewIS.replicas.toInt + (acceptedMachinePatches seg).length) ∧
        (∀ X ∈ [transferExampleOldIS 2], (r.2.store.getMachineSet X.name).map (·.replicas.toInt) =
          some (X.replicas.toInt - movedOutOf (transferExampleCluster 2) X seg)) ∧
        ∀ n, n ∉ (transferExampleNewIS :: [transferExampleOldIS 2]).map MachineSet.name →
          r.2.store.getMachineSet n = (transferExampleCluster 2).getMachineSet n) :=
  reconcileNewMachineSetInPlace_conserves_replicas [transferExampleOldIS 2] transferExampleNewIS
    transferExampleDeployment (World.init (transferExampleCluster 2) [] true true) rfl
    (by decide) (by decide) (by decide) (by decide) (by decide) (by decide) (by decide) (by decide)

end MachineControllerManager
