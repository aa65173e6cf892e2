import MachineControllerManager.Controller.Select

/-!
# The selection budget

`selectMachineForUpdate` spends a budget `totalReadyForUpdateCount` of machines: it labels
candidates selected-for-update set by set, and counts each labelled machine against the
budget. A machine is counted after its node is labelled too, and is **not** counted when its
node already carries the label (the `continue` of `labelMachinesToSelectedForUpdate`). That
skip is harmless exactly when a node labelled selected-for-update carries only machines that
are selected already, which is the order the handshake labels them in (machine first, then
node). `Handshake` states it, with a caught-up cache and one machine per node, for the world
a selection starts in.

From a handshake world every patch and node update of the selection keeps `SelectionInv`
(`SelectionInv.patch`, `SelectionInv.updateNode`), and under it
`selectMachineForUpdate_newlySelected_le` bounds the machines newly labelled by
`max 0 totalReadyForUpdateCount`, whatever the servers answer and whenever the informers
deliver. The bound is assembled from `labelMachinesLoop_outcome` (one set: the new labels
never outnumber the machines handed over, nor, on success, the count) and
`selectLoop_newlySelected_le` (the sets: the counts add up to at most the budget).
-/

namespace MachineControllerManager

/-! ### The handshake, and what selection keeps -/

/-- The world a selection may start in: the informers have caught up, a node carries
`selected-for-update=true` only when each of its machines does, and a node backs at most one
machine. -/
structure Handshake (w : World) : Prop where
  cache_eq : w.cache = w.store
  node_selected : ∀ node ∈ w.store.nodes,
    node.labels.get labelKeyMachineSelectedForUpdate = "true" →
    ∀ m ∈ w.store.machines, m.labels.get nodeLabelKey = node.name →
      m.labels.get? labelKeyMachineSelectedForUpdate = some "true"
  node_backs_one : ∀ m₁ ∈ w.store.machines, ∀ m₂ ∈ w.store.machines,
    m₁.labels.get nodeLabelKey ≠ "" →
    m₁.labels.get nodeLabelKey = m₂.labels.get nodeLabelKey → m₁.name = m₂.name

/-- The machine agrees with its version in `c₀` on every label but `selected-for-update`. -/
def AgreesOffSelected (c₀ : Cluster) (m : Machine) : Prop :=
  ∃ m₀ ∈ c₀.machines, m₀.name = m.name ∧
    ∀ k, k ≠ labelKeyMachineSelectedForUpdate → m.labels.get? k = m₀.labels.get? k

/-- Each of `nodes` labelled selected-for-update carries only machines of `c` that are. -/
def NodesSelectedAfterMachines (nodes : List Node) (c : Cluster) : Prop :=
  ∀ node ∈ nodes, node.labels.get labelKeyMachineSelectedForUpdate = "true" →
    ∀ m ∈ c.machines, m.labels.get nodeLabelKey = node.name →
      m.labels.get? labelKeyMachineSelectedForUpdate = some "true"

/-- What a selection started in `w₀` keeps: machines change only by gaining
`selected-for-update`, the nodes keep the handshake, and the machine sets stay. -/
structure SelectionInv (w₀ w : World) : Prop where
  store_agrees : ∀ m ∈ w.store.machines, AgreesOffSelected w₀.store m
  cache_agrees : ∀ m ∈ w.cache.machines, AgreesOffSelected w₀.store m
  store_nodes : NodesSelectedAfterMachines w.store.nodes w.store
  cache_nodes : NodesSelectedAfterMachines w.cache.nodes w.store
  machineSets : w.store.machineSets = w₀.store.machineSets

/-- The node label is not the selection label. -/
theorem nodeLabelKey_ne_selected : nodeLabelKey ≠ labelKeyMachineSelectedForUpdate := by decide

/-- A machine sits on the node it sat on in `c₀`. -/
theorem AgreesOffSelected.nodeLabel {c₀ : Cluster} {m : Machine} (h : AgreesOffSelected c₀ m) :
    ∃ m₀ ∈ c₀.machines, m₀.name = m.name ∧
      m.labels.get nodeLabelKey = m₀.labels.get nodeLabelKey := by
  obtain ⟨m₀, hm₀, hn, hk⟩ := h
  exact ⟨m₀, hm₀, hn, by rw [Labels.get_eq, Labels.get_eq, hk _ nodeLabelKey_ne_selected]⟩

/-- Two machines of one world's name agree with the same machine of `c₀`. -/
theorem AgreesOffSelected.get?_eq {c₀ : Cluster} {m x : Machine} (hm : AgreesOffSelected c₀ m)
    (hx : AgreesOffSelected c₀ x) (hn : x.name = m.name) {k : String}
    (hk : k ≠ labelKeyMachineSelectedForUpdate) : x.labels.get? k = m.labels.get? k := by
  obtain ⟨m₀, hm₀, hmn, hmk⟩ := hm
  obtain ⟨x₀, hx₀, hxn, hxk⟩ := hx
  have : x₀ = m₀ :=
    List.inj_on_of_nodup_map c₀.machines_nodup hx₀ hm₀ (hxn.trans (hn.trans hmn.symm))
  rw [hxk k hk, hmk k hk, this]

/-- Storing a selected machine keeps the nodes selected after their machines. -/
theorem NodesSelectedAfterMachines.setMachine {nodes : List Node} {c : Cluster}
    (h : NodesSelectedAfterMachines nodes c) {x : Machine}
    (hx : x.labels.get? labelKeyMachineSelectedForUpdate = some "true") :
    NodesSelectedAfterMachines nodes (c.setMachine x) := by
  intro node hn hsel m hm hmn
  rcases mem_replaceNamed hm with rfl | ⟨hm, -⟩
  exacts [hx, h node hn hsel m hm hmn]

/-- The invariant reads only the machines. -/
theorem NodesSelectedAfterMachines.of_machines_eq {nodes : List Node} {c c' : Cluster}
    (h : NodesSelectedAfterMachines nodes c) (he : c'.machines = c.machines) :
    NodesSelectedAfterMachines nodes c' := by
  intro node hn hsel m hm; rw [he] at hm; exact h node hn hsel m hm

/-- A world whose store and cache moved only in the ways selection moves them keeps the
invariant. -/
theorem SelectionInv.of_store {w₀ w w₁ : World} (hinv : SelectionInv w₀ w)
    (hcm : w₁.cache.machines = w.cache.machines ∨ w₁.cache.machines = w₁.store.machines)
    (hcn : w₁.cache.nodes = w.cache.nodes ∨ w₁.cache.nodes = w₁.store.nodes)
    (hagree : ∀ m ∈ w₁.store.machines, AgreesOffSelected w₀.store m)
    (hnodes : NodesSelectedAfterMachines w₁.store.nodes w₁.store)
    (hcnodes : NodesSelectedAfterMachines w.cache.nodes w₁.store)
    (hms : w₁.store.machineSets = w.store.machineSets) : SelectionInv w₀ w₁ where
  store_agrees := hagree
  cache_agrees m hm := by
    rcases hcm with h | h <;> rw [h] at hm
    exacts [hinv.cache_agrees m hm, hagree m hm]
  store_nodes := hnodes
  cache_nodes := by rcases hcn with h | h <;> rw [h]; exacts [hcnodes, hnodes]
  machineSets := hms.trans hinv.machineSets

/-- A handshake world starts the invariant. -/
theorem SelectionInv.init {w₀ : World} (h : Handshake w₀) : SelectionInv w₀ w₀ where
  store_agrees m hm := ⟨m, hm, rfl, fun _ _ => rfl⟩
  cache_agrees m hm := ⟨m, h.cache_eq ▸ hm, rfl, fun _ _ => rfl⟩
  store_nodes := h.node_selected
  cache_nodes := h.cache_eq ▸ h.node_selected
  machineSets := rfl

section Selection

variable {w₀ w w₁ : World} (hw₀ : Handshake w₀)

include hw₀ in
/-- A node backs at most one machine, whichever version of it the world holds. -/
theorem SelectionInv.eq_name_of_node (hinv : SelectionInv w₀ w) {m x : Machine}
    (hm : AgreesOffSelected w₀.store m) (hne : m.labels.get nodeLabelKey ≠ "")
    (hx : x ∈ w.store.machines) (hxn : x.labels.get nodeLabelKey = m.labels.get nodeLabelKey) :
    x.name = m.name := by
  obtain ⟨m₀, hm₀, hmn, hmk⟩ := hm.nodeLabel
  obtain ⟨x₀, hx₀, hxn', hxk⟩ := (hinv.store_agrees x hx).nodeLabel
  rw [← hxn', ← hmn]
  exact (hw₀.node_backs_one m₀ hm₀ x₀ hx₀ (hmk ▸ hne) (by rw [← hmk, ← hxk, hxn])).symm

include hw₀ in
/-- **The selection's node update**, made after the machine on the node was selected, keeps
the invariant and no machine. -/
theorem SelectionInv.updateNode (hinv : SelectionInv w₀ w) {m : Machine}
    (hm : AgreesOffSelected w₀.store m) (hne : m.labels.get nodeLabelKey ≠ "") {N : Node}
    (hN : N.name = m.labels.get nodeLabelKey)
    (hsel : ∀ x ∈ w.store.machines, x.name = m.name →
      x.labels.get? labelKeyMachineSelectedForUpdate = some "true")
    {err : Option GoError}
    (h : updateNode .target
      { N with labels := N.labels.set labelKeyMachineSelectedForUpdate "true" } w = (err, w₁)) :
    SelectionInv w₀ w₁ ∧ w₁.store.machines = w.store.machines := by
  have hs := updateNode_settles h
  have hcm : w₁.cache.machines = w.cache.machines := by rcases hs.cache with h | h <;> rw [h]; rfl
  have hcn : w₁.cache.nodes = w.cache.nodes ∨ w₁.cache.nodes = w₁.store.nodes := by
    rcases hs.cache with h | h <;> rw [h]
    exacts [.inl rfl, .inr rfl]
  cases err with
  | some e =>
    have hst : w₁.store = w.store := hs.error (by simp)
    exact ⟨hinv.of_store (.inl hcm) hcn (hst ▸ hinv.store_agrees) (hst ▸ hinv.store_nodes)
      (hst ▸ hinv.cache_nodes) (by rw [hst]), by rw [hst]⟩
  | none =>
    obtain ⟨f, hf⟩ := hs.ok rfl
    obtain ⟨rv, hst⟩ := Cluster.applyUpdateNode_ok _ hf
    simp only [beq_self_eq_true, Bool.true_or, if_true] at hst
    have hms : w₁.store.machines = w.store.machines := by rw [hst]; rfl
    refine ⟨hinv.of_store (.inl hcm) hcn (hms ▸ hinv.store_agrees) ?_
      (hinv.cache_nodes.of_machines_eq hms) (by rw [hst]; rfl), hms⟩
    intro y hy hysel x hx hxn
    rw [hms] at hx
    rw [hst] at hy
    rcases mem_replaceNamed hy with rfl | ⟨hy, -⟩
    · exact hsel x hx (hinv.eq_name_of_node hw₀ hm hne hx (hxn.trans hN))
    · exact hinv.store_nodes y hy hysel x hx hxn

end Selection

/-- The labels the selection's patch leaves on a stored machine `sm`: `selected-for-update`
first, then the listed copy's labels, then the stored ones. -/
theorem selectedPatch_apply_labels (m sm : Machine) :
    (MachinePatch.apply
      { labels := mergeStringMaps m.labels [(labelKeyMachineSelectedForUpdate, "true")] } sm).labels =
      (labelKeyMachineSelectedForUpdate, "true") :: (m.labels ++ sm.labels) := by
  simp [MachinePatch.apply, mergeStringMaps]

/-- What the selection's patch of the listed machine `m` did, taking `w` to `w₁` with `err`. -/
structure SelectedPatch (w₀ w w₁ : World) (m : Machine) (err : Option GoError) : Prop where
  inv : SelectionInv w₀ w₁
  cache_nodes : w₁.cache.nodes = w.cache.nodes
  newly_sub : newlySelectedForUpdate w.store w₁.store ⊆ [m.name]
  newly_nil : m.name ∈ w.store.selectedForUpdate → newlySelectedForUpdate w.store w₁.store = []
  stored : err = none → ∃ sm ∈ w.store.machines, sm.name = m.name
  selected : err = none → ∀ x ∈ w₁.store.machines, x.name = m.name →
    x.labels.get? labelKeyMachineSelectedForUpdate = some "true"

/-- **The selection's machine patch** keeps the invariant, newly selects at most the patched
machine (none if it was selected), and on success leaves it selected. -/
theorem SelectionInv.patch {w₀ w w₁ : World} (hinv : SelectionInv w₀ w) {m : Machine}
    (hm : AgreesOffSelected w₀.store m) {err : Option GoError}
    (h : patchMachine m.name
      { labels := mergeStringMaps m.labels [(labelKeyMachineSelectedForUpdate, "true")] } w =
      (err, w₁)) :
    SelectedPatch w₀ w w₁ m err := by
  have hs := patchMachine_settles h
  have hcn : w₁.cache.nodes = w.cache.nodes := by rcases hs.cache with h | h <;> rw [h]; rfl
  have hcm : w₁.cache.machines = w.cache.machines ∨ w₁.cache.machines = w₁.store.machines := by
    rcases hs.cache with h | h <;> rw [h]
    exacts [.inl rfl, .inr rfl]
  cases err with
  | some e =>
    have hst : w₁.store = w.store := hs.error (by simp)
    have hnil := newlySelectedForUpdate_of_machines_eq (congrArg Cluster.machines hst)
    exact ⟨hinv.of_store hcm (.inl hcn) (hst ▸ hinv.store_agrees) (hst ▸ hinv.store_nodes)
      (hst ▸ hinv.cache_nodes) (by rw [hst]), hcn, by simp [hnil], fun _ => hnil, nofun, nofun⟩
  | none =>
    obtain ⟨f, hf⟩ := hs.ok rfl
    obtain ⟨sm, hsm, hst⟩ := Cluster.applyPatchMachine_ok _ hf
    obtain ⟨hsmem, hsn⟩ := Cluster.getMachine_eq_some _ hsm
    have hsel : (MachinePatch.apply { labels := (mergeStringMaps m.labels
        [(labelKeyMachineSelectedForUpdate, "true")]) } sm).labels.get?
          labelKeyMachineSelectedForUpdate = some "true" := by
      rw [selectedPatch_apply_labels, Labels.get?_cons, if_pos rfl]
    refine ⟨hinv.of_store hcm (.inl hcn) ?_ ?_ ?_ ?_, hcn, ?_, fun hin => ?_,
      fun _ => ⟨sm, hsmem, hsn⟩, fun _ x hx hxn => ?_⟩
    · intro x hx
      rw [hst] at hx
      rcases mem_replaceNamed hx with rfl | ⟨hx, -⟩
      · obtain ⟨m₀, hm₀, hmn, hmk⟩ := hm
        refine ⟨m₀, hm₀, hmn.trans hsn.symm, fun k hk => ?_⟩
        rw [selectedPatch_apply_labels, Labels.get?_cons, if_neg hk, Labels.get?_append,
          AgreesOffSelected.get?_eq ⟨m₀, hm₀, hmn, hmk⟩ (hinv.store_agrees sm hsmem) hsn hk,
          hmk k hk]
        cases m₀.labels.get? k <;> rfl
      · exact hinv.store_agrees x hx
    · rw [hst]; exact hinv.store_nodes.setMachine hsel
    · rw [hst]; exact hinv.cache_nodes.setMachine hsel
    · rw [hst]; rfl
    · rw [hst, ← hsn]; exact (newlySelectedForUpdate_setMachine _ _).1
    · rw [hst]; exact (newlySelectedForUpdate_setMachine _ _).2 (hsn ▸ hin)
    · rw [hst] at hx
      rcases mem_replaceNamed hx with rfl | ⟨-, hne⟩
      exacts [hsel, absurd (hxn.trans hsn.symm) hne]

/-! ### One set: `labelMachinesLoop` -/

/-- What the loop over the machines handed over for one set achieved, from the world `w` and
the count `count` to `w'` and `count'`, for `n` machines handed over. -/
structure LabelOutcome (w₀ w w' : World) (count count' : Int32) (err : Option GoError) (n : Nat) :
    Prop where
  inv : SelectionInv w₀ w'
  count_ge : count.toInt ≤ count'.toInt
  count_le : count'.toInt ≤ count.toInt + n
  newly_le : (newlySelectedForUpdate w.store w'.store).length ≤ n
  newly_le_count : err = none →
    ((newlySelectedForUpdate w.store w'.store).length : Int) ≤ count'.toInt - count.toInt

namespace LabelOutcome

variable {w₀ w w₁ w' : World} {count count₁ count' : Int32} {err : Option GoError} {n : Nat}

/-- The loop stops with an error after newly selecting at most one machine. -/
theorem stop (hinv : SelectionInv w₀ w') (h : (newlySelectedForUpdate w.store w'.store).length ≤ 1)
    (herr : err ≠ none) : LabelOutcome w₀ w w' count count err (n + 1) :=
  ⟨hinv, le_rfl, by omega, h.trans (by omega), fun he => absurd he herr⟩

/-- One machine handled, then the rest: a step that counts at most one machine, and every
machine it newly selects. -/
theorem step (hc : count.toInt ≤ count₁.toInt) (hc₁ : count₁.toInt ≤ count.toInt + 1)
    (hcount : ((newlySelectedForUpdate w.store w₁.store).length : Int) ≤
      count₁.toInt - count.toInt)
    (ih : LabelOutcome w₀ w₁ w' count₁ count' err n) :
    LabelOutcome w₀ w w' count count' err (n + 1) := by
  have htrans := length_newlySelectedForUpdate_trans w.store w₁.store w'.store
  obtain ⟨hinv, hge, hle, hnewly, hcnt⟩ := ih
  exact ⟨hinv, by omega, by push_cast; omega, by omega, fun he => by have := hcnt he; omega⟩

end LabelOutcome

/-- A list of distinct names within one name has at most one. -/
theorem length_le_one_of_subset_singleton {l : List String} {a : String} (hl : l.Nodup)
    (h : l ⊆ [a]) : l.length ≤ 1 :=
  (List.subperm_of_subset hl h).length_le

section Loops

variable {w₀ : World} (hw₀ : Handshake w₀)

include hw₀ in
/-- **One set's labels**: the loop keeps the invariant; it newly selects no more machines than
it was handed; its count grows by at most as many; and when it succeeds, every machine it
newly selected was counted. -/
theorem labelMachinesLoop_outcome : ∀ (machines : List Machine) (count : Int32) (w : World),
    (∀ m ∈ machines, AgreesOffSelected w₀.store m) → SelectionInv w₀ w → 0 ≤ count.toInt →
    count.toInt + machines.length < 2147483648 →
    LabelOutcome w₀ w (labelMachinesLoop machines count w).2 count
      (labelMachinesLoop machines count w).1.1 (labelMachinesLoop machines count w).1.2
      machines.length
  | [], count, w, _, hinv, _, _ =>
    (⟨hinv, le_rfl, by simp, by simp, fun _ => by simp⟩ : LabelOutcome w₀ w w count count none 0)
  | m :: ms, count, w, hL, hinv, h0, hlt => by
    have hm := hL m (List.mem_cons_self _ _)
    have hms : ∀ x ∈ ms, AgreesOffSelected w₀.store x := fun x hx => hL x (List.mem_cons_of_mem _ hx)
    simp only [List.length_cons, Nat.cast_add, Nat.cast_one] at hlt ⊢
    have hsucc : (count + 1).toInt = count.toInt + 1 :=
      Int32.toInt_add (by rw [Int32.toInt_one]; omega) (by rw [Int32.toInt_one]; omega)
    have hnode : ∀ {x : Machine}, x ∈ w.store.machines → x.name = m.name →
        x.labels.get nodeLabelKey = m.labels.get nodeLabelKey := fun hx hxn => by
      rw [Labels.get_eq, Labels.get_eq,
        AgreesOffSelected.get?_eq hm (hinv.store_agrees _ hx) hxn nodeLabelKey_ne_selected]
    dsimp only [labelMachinesLoop]
    split
    · rename_i e w₁ hp
      have hp := hinv.patch hm hp
      exact .stop hp.inv (length_le_one_of_subset_singleton (newlySelectedForUpdate_nodup _ _)
        hp.newly_sub) nofun
    rename_i w₁ hp
    have hp := hinv.patch hm hp
    have h1 := length_le_one_of_subset_singleton (newlySelectedForUpdate_nodup _ _) hp.newly_sub
    have ih := fun count w hinv h0 hlt => labelMachinesLoop_outcome ms count w hms hinv h0 hlt
    split
    · rename_i hne
      split
      · exact .stop hp.inv h1 nofun
      rename_i N hN
      obtain ⟨hNmem, hNname⟩ := Cluster.getNode_eq_some _ hN
      split
      · rename_i hsel
        obtain ⟨sm, hsmem, hsn⟩ := hp.stored rfl
        have hnil := hp.newly_nil (Cluster.mem_selectedForUpdate.mpr ⟨sm, hsmem,
          hinv.cache_nodes N (hp.cache_nodes ▸ hNmem) hsel sm hsmem
            ((hnode hsmem hsn).trans hNname.symm), hsn⟩)
        exact .step le_rfl (by omega) (by simp [hnil])
          (ih count w₁ hp.inv h0 (by omega))
      split
      · rename_i e w₂ hu
        obtain ⟨hinv₂, hm₂⟩ := hp.inv.updateNode hw₀ hm hne hNname (hp.selected rfl) hu
        have := length_newlySelectedForUpdate_trans w.store w₁.store w₂.store
        rw [newlySelectedForUpdate_of_machines_eq hm₂] at this
        exact .stop hinv₂ (by dsimp only; simp at this; omega) nofun
      · rename_i w₂ hu
        obtain ⟨hinv₂, hm₂⟩ := hp.inv.updateNode hw₀ hm hne hNname (hp.selected rfl) hu
        have := length_newlySelectedForUpdate_trans w.store w₁.store w₂.store
        rw [newlySelectedForUpdate_of_machines_eq hm₂] at this
        exact .step (by omega) (by omega) (by simp at this; omega)
          (ih (count + 1) w₂ hinv₂ (by omega) (by omega))
    · exact .step (by omega) (by omega) (by omega) (ih (count + 1) w₁ hp.inv (by omega) (by omega))

include hw₀ in
/-- One set, through `labelMachinesToSelectedForUpdate`: the loop is handed at most
`is.Spec.Replicas - newScale` machines of the cache, and starts counting from 0. -/
theorem labelMachinesToSelectedForUpdate_outcome (is : MachineSet) (newScale : Int32) (w : World)
    (hinv : SelectionInv w₀ w) (hr : 0 ≤ (is.replicas - newScale).toInt) :
    LabelOutcome w₀ w (labelMachinesToSelectedForUpdate is newScale w).2 0
      (labelMachinesToSelectedForUpdate is newScale w).1.1
      (labelMachinesToSelectedForUpdate is newScale w).1.2 (is.replicas - newScale).toInt.toNat := by
  dsimp only [labelMachinesToSelectedForUpdate]
  rw [getMachinesForDrain_eq_take _ _ hr]
  dsimp only
  have hL : ∀ m ∈ (machinesWithoutSelectedForUpdate w.cache is).take (is.replicas - newScale).toInt.toNat,
      AgreesOffSelected w₀.store m := fun m hm =>
    hinv.cache_agrees m (List.mem_of_mem_filter (List.mem_of_mem_filter (List.mem_of_mem_take hm)))
  have hlen := List.length_take_le (is.replicas - newScale).toInt.toNat
    (machinesWithoutSelectedForUpdate w.cache is)
  have hlt := (is.replicas - newScale).toInt_lt
  obtain ⟨hinv', hge, hle, hnewly, hcnt⟩ :=
    labelMachinesLoop_outcome hw₀ _ 0 w hL hinv le_rfl (by rw [Int32.toInt_zero]; omega)
  exact ⟨hinv', hge, by omega, by omega, hcnt⟩

/-- From a total `0 ≤ T < B`, what is left of the budget does not wrap, nor does the set's
share `min replicas (B - T)` of it. -/
theorem toInt_min_budget {B T : Int32} (replicas : Int32) (hT : 0 ≤ T.toInt)
    (hTB : T.toInt < B.toInt) :
    (min replicas (B - T)).toInt = min replicas.toInt (B.toInt - T.toInt) := by
  have := B.toInt_lt
  rw [Int32.toInt_min, Int32.toInt_sub (by omega) (by omega)]

/-- The readiness arithmetic of one set of `selectMachineForUpdate`: unless the set is
refused as an invalid request, its replicas are positive and the machines it may label are
`min replicas (budget - total)`, exactly. -/
theorem selectLoop_ready {B T replicas : Int32} (hT : 0 ≤ T.toInt) (hTB : T.toInt < B.toInt)
    (h0 : replicas ≠ 0) (hvalid : ¬replicas < replicas - min replicas (B - T)) :
    0 < replicas.toInt ∧
      (replicas - (replicas - min replicas (B - T))).toInt =
        min replicas.toInt (B.toInt - T.toInt) := by
  have hrl := replicas.le_toInt
  have hrr := replicas.toInt_lt
  have hm := toInt_min_budget replicas hT hTB
  have h1 := min_le_left replicas.toInt (B.toInt - T.toInt)
  have h2 := min_le_right replicas.toInt (B.toInt - T.toInt)
  have h3 := min_choice replicas.toInt (B.toInt - T.toInt)
  have hnew : (replicas - min replicas (B - T)).toInt =
      replicas.toInt - min replicas.toInt (B.toInt - T.toInt) := by
    rw [Int32.toInt_sub] <;> omega
  have hr0 : replicas.toInt ≠ 0 := fun h => h0 (Int32.ext_iff'.mpr h)
  rw [Int32.lt_def, hnew] at hvalid
  refine ⟨by omega, ?_⟩
  rw [Int32.toInt_sub] <;> omega

/-- The other way round: a set refused as an invalid request has negative replicas. -/
theorem selectLoop_invalid {B T replicas : Int32} (hT : 0 ≤ T.toInt) (hTB : T.toInt < B.toInt)
    (hinvalid : replicas < replicas - min replicas (B - T)) : replicas.toInt < 0 := by
  have hrr := replicas.toInt_lt
  have hm := toInt_min_budget replicas hT hTB
  have h1 := min_le_left replicas.toInt (B.toInt - T.toInt)
  have h3 := min_choice replicas.toInt (B.toInt - T.toInt)
  rw [Int32.lt_def] at hinvalid
  by_contra hr
  rw [Int32.toInt_sub (by omega) (by omega)] at hinvalid
  omega

/-- The bound a set is handed, `readyForDrain = replicas - newScale`, lies in
`[1, replicas]`, and within what is left of the budget. -/
theorem selectLoop_ready_in_range {B T replicas : Int32} (hT : 0 ≤ T.toInt)
    (hTB : T.toInt < B.toInt) (h0 : replicas ≠ 0)
    (hvalid : ¬replicas < replicas - min replicas (B - T)) :
    1 ≤ (replicas - (replicas - min replicas (B - T))).toInt ∧
      (replicas - (replicas - min replicas (B - T))).toInt ≤ replicas.toInt ∧
      (replicas - (replicas - min replicas (B - T))).toInt ≤ B.toInt - T.toInt := by
  obtain ⟨hpos, hready⟩ := selectLoop_ready hT hTB h0 hvalid
  have h1 := min_le_left replicas.toInt (B.toInt - T.toInt)
  have h2 := min_le_right replicas.toInt (B.toInt - T.toInt)
  have h3 := min_choice replicas.toInt (B.toInt - T.toInt)
  rw [hready]
  omega

/-! ### The sets: `selectLoop` and `selectMachineForUpdate` -/

include hw₀ in
/-- **The sets**: walking the old sets from the total `totalReadyForUpdate`, the loop keeps
the invariant and newly selects at most what is left of the budget. -/
theorem selectLoop_newlySelected_le (totalReadyForUpdateCount : Int32) :
    ∀ (l : List MachineSet) (totalReadyForUpdate : Int32) (w : World), SelectionInv w₀ w →
      0 ≤ totalReadyForUpdate.toInt →
      SelectionInv w₀ (selectLoop totalReadyForUpdateCount l totalReadyForUpdate w).2 ∧
      ((newlySelectedForUpdate w.store
          (selectLoop totalReadyForUpdateCount l totalReadyForUpdate w).2.store).length : Int) ≤
        max 0 (totalReadyForUpdateCount.toInt - totalReadyForUpdate.toInt)
  | [], _, w, hinv, _ => ⟨hinv, length_newlySelectedForUpdate_self_le _ (le_max_left _ _)⟩
  | targetIS :: rest, T, w, hinv, hT => by
    have hmax := le_max_left 0 (totalReadyForUpdateCount.toInt - T.toInt)
    have hmax' := le_max_right 0 (totalReadyForUpdateCount.toInt - T.toInt)
    dsimp only [selectLoop]
    split
    · exact ⟨hinv, length_newlySelectedForUpdate_self_le _ hmax⟩
    rename_i hBT
    rw [Int32.le_def] at hBT
    split
    · exact selectLoop_newlySelected_le _ rest T w hinv hT
    split
    · exact ⟨hinv, length_newlySelectedForUpdate_self_le _ hmax⟩
    rename_i h0 hvalid
    obtain ⟨hpos, hready⟩ := selectLoop_ready hT (by omega) h0 hvalid
    have ho := labelMachinesToSelectedForUpdate_outcome hw₀ targetIS _ w hinv (by rw [hready]; omega)
    rw [hready] at ho
    have h1 := min_le_right targetIS.replicas.toInt (totalReadyForUpdateCount.toInt - T.toInt)
    have hn : ((min targetIS.replicas.toInt (totalReadyForUpdateCount.toInt - T.toInt)).toNat : Int) =
        min targetIS.replicas.toInt (totalReadyForUpdateCount.toInt - T.toInt) :=
      Int.toNat_of_nonneg (le_min hpos.le (by omega))
    split
    · rename_i c e w₁ hl
      simp only [hl] at ho
      have := ho.newly_le
      exact ⟨ho.inv, by dsimp only; omega⟩
    · rename_i c w₁ hl
      simp only [hl] at ho
      have hc0 := ho.count_ge
      have hc1 := ho.count_le
      have hB := totalReadyForUpdateCount.toInt_lt
      simp only [Int32.toInt_zero, zero_add] at hc0 hc1
      have hTc : (T + c).toInt = T.toInt + c.toInt := Int32.toInt_add (by omega) (by omega)
      obtain ⟨hinv', ih⟩ := selectLoop_newlySelected_le _ rest (T + c) w₁ ho.inv (by omega)
      refine ⟨hinv', ?_⟩
      have htrans := length_newlySelectedForUpdate_trans w.store w₁.store
        (selectLoop totalReadyForUpdateCount rest (T + c) w₁).2.store
      have hcnt := ho.newly_le_count rfl
      simp only [Int32.toInt_zero, sub_zero] at hcnt
      rw [hTc, max_eq_right (by omega)] at ih
      omega

include hw₀ in
/-- **The selection budget**: from a handshake world, `selectMachineForUpdate` newly labels at
most `max 0 totalReadyForUpdateCount` machines selected-for-update, where the budget is the
one it computes, `GetAvailableReplicaCountForMachineSets(allISs) -
oldISsMachinesUndergoingUpdate - (d.Spec.Replicas - MaxUnavailable(d))` in `int32`. -/
theorem selectMachineForUpdate_newlySelected_le (allISs oldISs : List MachineSet)
    (d : MachineDeployment) (oldISsMachinesUndergoingUpdate : Int32) :
    SelectionInv w₀ (selectMachineForUpdate allISs oldISs d oldISsMachinesUndergoingUpdate w₀).2 ∧
    ((newlySelectedForUpdate w₀.store (selectMachineForUpdate allISs oldISs d
        oldISsMachinesUndergoingUpdate w₀).2.store).length : Int) ≤
      max 0 (getAvailableReplicaCountForMachineSets allISs - oldISsMachinesUndergoingUpdate -
        (d.replicas - maxUnavailable d)).toInt := by
  dsimp only [selectMachineForUpdate]
  split
  · exact ⟨.init hw₀, length_newlySelectedForUpdate_self_le _ (le_max_left _ _)⟩
  · simpa only [Int32.toInt_zero, sub_zero] using
      selectLoop_newlySelected_le hw₀ _ _ 0 w₀ (.init hw₀) le_rfl

end Loops

end MachineControllerManager
