import MachineControllerManager.Controller.Helpers

/-!
# Choosing machines for an in-place update

`getMachinesForDrain(is, readyForDrain)` lists the machines of `is` that carry
`candidate-for-update=true`, drops those that already have a `selected-for-update` key, and
cuts the rest to `readyForDrain` **in the order the lister returns them**; the source's
comment calls this choosing "randomly". `labelMachinesToSelectedForUpdate` labels the chosen
machines and their nodes and counts them; `getMachinesUndergoingUpdate` counts the machines
of the old sets that are already selected.

`getMachinesForDrain_eq_take` characterises the cut: the first `readyForDrain` candidates in
lister order. So two listers that return the same machines in different orders choose the
same machines only when every candidate is chosen (`getMachinesForDrain_perm_of_length_le`);
`getMachinesForDrain_order_dependent` shows two orders choosing different machines.
-/

namespace MachineControllerManager

/-- The machines `getMachinesForDrain` may choose from: candidates of `is` for update, in
lister order, without a `selected-for-update` key. -/
def machinesWithoutSelectedForUpdate (c : Cluster) (is : MachineSet) : List Machine :=
  (c.listMachines (mergeStringMaps is.selector [(labelKeyMachineCandidateForUpdate, "true")])).filter
    fun m => (m.labels.get? labelKeyMachineSelectedForUpdate).isNone

/-- `getMachinesForDrain(is, readyForDrain)`, reading the lister `c`. Go's slice expression
`[:readyForDrain]` panics on a negative bound, naming it. -/
def getMachinesForDrain (c : Cluster) (is : MachineSet) (readyForDrain : Int32) :
    List Machine × Option GoError :=
  let machines := machinesWithoutSelectedForUpdate c is
  if readyForDrain.toInt < machines.length then
    if readyForDrain.toInt < 0 then
      ([], some (.panic ("runtime error: slice bounds out of range [:" ++
        toString readyForDrain.toInt ++ "]")))
    else (machines.take readyForDrain.toInt.toNat, none)
  else (machines, none)

/-- **The cut is a prefix in lister order**: for a non-negative bound, `getMachinesForDrain`
returns the first `readyForDrain` candidates, and no error. -/
theorem getMachinesForDrain_eq_take (c : Cluster) (is : MachineSet) {r : Int32}
    (hr : 0 ≤ r.toInt) :
    getMachinesForDrain c is r = ((machinesWithoutSelectedForUpdate c is).take r.toInt.toNat, none) := by
  by_cases h : r.toInt < (machinesWithoutSelectedForUpdate c is).length
  · simp only [getMachinesForDrain, h, if_true, if_neg (not_lt.mpr hr)]
  · simp only [getMachinesForDrain, h, if_false]
    rw [List.take_of_length_le (by omega)]

/-- Listers that hold the same machines in two orders offer the same eligible machines, in
those orders. -/
theorem machinesWithoutSelectedForUpdate_perm {c₁ c₂ : Cluster} (is : MachineSet)
    (h : c₁.machines.Perm c₂.machines) :
    (machinesWithoutSelectedForUpdate c₁ is).Perm (machinesWithoutSelectedForUpdate c₂ is) :=
  (h.filter _).filter _

/-- When the bound covers every candidate, the lister's order does not matter: listers that
return the same machines in any two orders choose the same machines. -/
theorem getMachinesForDrain_perm_of_length_le {c₁ c₂ : Cluster} (is : MachineSet) {r : Int32}
    (h : c₁.machines.Perm c₂.machines)
    (hr : ((machinesWithoutSelectedForUpdate c₁ is).length : Int) ≤ r.toInt) :
    (getMachinesForDrain c₁ is r).1.Perm (getMachinesForDrain c₂ is r).1 := by
  have hp := machinesWithoutSelectedForUpdate_perm is h
  have hr₂ : ((machinesWithoutSelectedForUpdate c₂ is).length : Int) ≤ r.toInt := by
    rw [← hp.length_eq]; exact hr
  simp only [getMachinesForDrain, if_neg (not_lt.mpr hr), if_neg (not_lt.mpr hr₂)]
  exact hp

/-- The loop of `labelMachinesToSelectedForUpdate` over the machines chosen for drain, from
the count `machinesSelectedForUpdate` so far: patch the machine, then label its node unless
the node already carries the label, and count the machine. A node that already carries the
label skips the count (the `continue` of the source). -/
def labelMachinesLoop : List Machine → Int32 → World → (Int32 × Option GoError) × World
  | [], count, w => ((count, none), w)
  | m :: ms, count, w =>
    match patchMachine m.name
        { labels := mergeStringMaps m.labels [(labelKeyMachineSelectedForUpdate, "true")] } w with
    | (some e, w) => ((count, some e), w)
    | (none, w) =>
      let nodeName := m.labels.get nodeLabelKey
      if nodeName ≠ "" then
        match w.cache.getNode nodeName with
        | none => ((count, some (.notFound "nodes" nodeName)), w)
        | some node =>
          if node.labels.get labelKeyMachineSelectedForUpdate = "true" then
            labelMachinesLoop ms count w
          else
            match updateNode .target
                { node with labels := node.labels.set labelKeyMachineSelectedForUpdate "true" } w with
            | (some e, w) => ((count, some e), w)
            | (none, w) => labelMachinesLoop ms (count + 1) w
      else labelMachinesLoop ms (count + 1) w

/-- The labelling loop is a run. -/
theorem labelMachinesLoop_reaches (S : List MachineSet) :
    ∀ (machines : List Machine) (count : Int32) (w : World),
      Reaches S w (labelMachinesLoop machines count w).2
  | [], _, _ => .refl
  | m :: ms, count, w => by
    unfold labelMachinesLoop
    split
    · exact .of_patchMachine ‹_›
    · refine (Reaches.of_patchMachine ‹_›).trans ?_
      dsimp only
      split
      · split
        · exact .refl
        · split
          · exact labelMachinesLoop_reaches S ms count _
          · split
            · exact .of_updateNode ‹_›
            · exact (Reaches.of_updateNode ‹_›).trans (labelMachinesLoop_reaches S ms _ _)
      · exact labelMachinesLoop_reaches S ms _ _

/-- The loop's count only grows, by at most one a machine. -/
theorem labelMachinesLoop_count : ∀ (machines : List Machine) (count : Int32) (w : World),
    0 ≤ count.toInt → count.toInt + machines.length < 2147483648 →
    count.toInt ≤ (labelMachinesLoop machines count w).1.1.toInt ∧
      (labelMachinesLoop machines count w).1.1.toInt ≤ count.toInt + machines.length
  | [], count, _, _, _ => ⟨le_rfl, show count.toInt ≤ count.toInt + (0 : Nat) by omega⟩
  | m :: ms, count, w, h0, hlt => by
    simp only [List.length_cons, Nat.cast_add, Nat.cast_one] at hlt ⊢
    have h1 : (count + 1).toInt = count.toInt + 1 :=
      Int32.toInt_add (by rw [Int32.toInt_one]; omega) (by rw [Int32.toInt_one]; omega)
    have hsame := fun w => labelMachinesLoop_count ms count w h0 (by omega)
    have hnext := fun w => labelMachinesLoop_count ms (count + 1) w (by omega) (by omega)
    dsimp only [labelMachinesLoop]
    split
    · exact ⟨le_rfl, by dsimp only; omega⟩
    rename_i w₁ _
    split
    · split
      · exact ⟨le_rfl, by dsimp only; omega⟩
      · split
        · exact (hsame w₁).imp id fun h => by omega
        · split
          · exact ⟨le_rfl, by dsimp only; omega⟩
          · rename_i w₂ _
            exact (hnext w₂).imp (fun h => by omega) fun h => by omega
    · exact (hnext w₁).imp (fun h => by omega) fun h => by omega

/-- The loop fails only with an API status error: a refused patch or node `Update`, or the node
lister's `NotFound`. -/
theorem labelMachinesLoop_error : ∀ (machines : List Machine) (count : Int32) (w : World)
    {e : GoError}, (labelMachinesLoop machines count w).1.2 = some e → e.isAPIStatus = true
  | [], _, _, _, h => by cases h
  | m :: ms, count, w, e, h => by
    dsimp only [labelMachinesLoop] at h
    split at h
    · rename_i e' _ hp
      cases h
      exact patchMachine_error (e := e) (by rw [hp])
    split at h
    · split at h
      · cases h; rfl
      · split at h
        · exact labelMachinesLoop_error ms count _ h
        · split at h
          · rename_i e' _ hu
            cases h
            exact updateNode_error (by rw [hu])
          · exact labelMachinesLoop_error ms _ _ h
    · exact labelMachinesLoop_error ms _ _ h

/-- `labelMachinesToSelectedForUpdate(is, newScale)`: label `is.Spec.Replicas - newScale`
machines of `is` selected-for-update, with their nodes, and count them. -/
def labelMachinesToSelectedForUpdate (is : MachineSet) (newScale : Int32) (w : World) :
    (Int32 × Option GoError) × World :=
  let readyForDrain := is.replicas - newScale
  match getMachinesForDrain w.cache is readyForDrain with
  | (_, some e) => ((0, some e), w)
  | (machines, none) => labelMachinesLoop machines 0 w

/-- For a bound `is.Spec.Replicas - newScale ≥ 0`, the call counts at most that many machines,
and fails only with an API status error. -/
theorem labelMachinesToSelectedForUpdate_of_nonneg (is : MachineSet) (newScale : Int32)
    (w : World) (hr : 0 ≤ (is.replicas - newScale).toInt) :
    (0 ≤ (labelMachinesToSelectedForUpdate is newScale w).1.1.toInt ∧
      (labelMachinesToSelectedForUpdate is newScale w).1.1.toInt ≤ (is.replicas - newScale).toInt) ∧
    ∀ e, (labelMachinesToSelectedForUpdate is newScale w).1.2 = some e → e.isAPIStatus = true := by
  dsimp only [labelMachinesToSelectedForUpdate]
  rw [getMachinesForDrain_eq_take _ _ hr]
  dsimp only
  have hlen := List.length_take_le (is.replicas - newScale).toInt.toNat
    (machinesWithoutSelectedForUpdate w.cache is)
  have hlt := (is.replicas - newScale).toInt_lt
  have := Int.toNat_of_nonneg hr
  have hc := labelMachinesLoop_count ((machinesWithoutSelectedForUpdate w.cache is).take
    (is.replicas - newScale).toInt.toNat) 0 w le_rfl (by simp only [Int32.toInt_zero]; omega)
  simp only [Int32.toInt_zero, zero_add] at hc
  exact ⟨⟨hc.1, by omega⟩, fun e => labelMachinesLoop_error _ _ _⟩

/-- `labelMachinesToSelectedForUpdate` is a run. -/
theorem labelMachinesToSelectedForUpdate_reaches (S : List MachineSet) (is : MachineSet)
    (newScale : Int32) (w : World) :
    Reaches S w (labelMachinesToSelectedForUpdate is newScale w).2 := by
  dsimp only [labelMachinesToSelectedForUpdate]
  split
  · exact .refl
  · exact labelMachinesLoop_reaches S _ _ _

/-- `getMachinesUndergoingUpdate(oldISs)`: the `int32` count of machines of the old sets that
carry `selected-for-update=true`, set by set. The lister cannot fail, so neither can this. -/
def getMachinesUndergoingUpdate (c : Cluster) (oldISs : List MachineSet) : Int32 :=
  Int32.sum (oldISs.map fun is => Int32.ofInt
    (c.listMachines (mergeStringMaps is.selector [(labelKeyMachineSelectedForUpdate, "true")])).length)

/-- Without overflow, `getMachinesUndergoingUpdate` is the number of selected machines each
old set's selector lists, added up, and at most a machine per set. -/
theorem getMachinesUndergoingUpdate_toInt (c : Cluster) (oldISs : List MachineSet)
    (h : oldISs.length * c.machines.length < 2147483648) :
    (getMachinesUndergoingUpdate c oldISs).toInt = (oldISs.map fun is => ((c.listMachines
      (mergeStringMaps is.selector [(labelKeyMachineSelectedForUpdate, "true")])).length : Int)).sum ∧
    (getMachinesUndergoingUpdate c oldISs).toInt ≤ oldISs.length * c.machines.length := by
  obtain ⟨heq, hsum⟩ := Int32.toInt_sum_ofInt_le oldISs (fun is => (c.listMachines
    (mergeStringMaps is.selector [(labelKeyMachineSelectedForUpdate, "true")])).length)
    (fun _ _ => List.length_filter_le _ _) h
  exact ⟨heq, heq ▸ hsum⟩

/-- The names of the machines labelled `selected-for-update=true`. -/
def Cluster.selectedForUpdate (c : Cluster) : List String :=
  (c.machines.filter fun m => m.labels.get? labelKeyMachineSelectedForUpdate = some "true").map
    Machine.name

/-- The machines labelled `selected-for-update=true` in `c'` and not in `c`. -/
def newlySelectedForUpdate (c c' : Cluster) : List String :=
  c'.selectedForUpdate.filter fun n => n ∉ c.selectedForUpdate

/-- A name is selected when a machine of that name carries the label. -/
theorem Cluster.mem_selectedForUpdate {c : Cluster} {n : String} :
    n ∈ c.selectedForUpdate ↔
      ∃ m ∈ c.machines, m.labels.get? labelKeyMachineSelectedForUpdate = some "true" ∧
        m.name = n := by
  simp [Cluster.selectedForUpdate, and_assoc]

/-- Each selected name is listed once. -/
theorem Cluster.selectedForUpdate_nodup (c : Cluster) : c.selectedForUpdate.Nodup :=
  nodup_map_filter _ _ c.machines_nodup

/-- A name is newly selected when it is selected in the second store and not in the first. -/
theorem mem_newlySelectedForUpdate {c c' : Cluster} {n : String} :
    n ∈ newlySelectedForUpdate c c' ↔ n ∈ c'.selectedForUpdate ∧ n ∉ c.selectedForUpdate := by
  simp [newlySelectedForUpdate]

/-- Each newly selected name is listed once. -/
theorem newlySelectedForUpdate_nodup (c c' : Cluster) : (newlySelectedForUpdate c c').Nodup :=
  c'.selectedForUpdate_nodup.filter _

/-- A store whose machines did not change selects no machine anew. -/
theorem newlySelectedForUpdate_of_machines_eq {c c' : Cluster} (h : c'.machines = c.machines) :
    newlySelectedForUpdate c c' = [] := by
  have : c'.selectedForUpdate = c.selectedForUpdate := by simp only [Cluster.selectedForUpdate, h]
  simp only [newlySelectedForUpdate, this]
  exact List.filter_eq_nil_iff.mpr fun n hn => by simpa using hn

/-- A store selects nothing anew over itself. -/
@[simp]
theorem newlySelectedForUpdate_self (c : Cluster) : newlySelectedForUpdate c c = [] :=
  newlySelectedForUpdate_of_machines_eq rfl

/-- No machines are newly selected over the same store, fewer than any non-negative bound. -/
theorem length_newlySelectedForUpdate_self_le (c : Cluster) {x : Int} (h : 0 ≤ x) :
    ((newlySelectedForUpdate c c).length : Int) ≤ x := by
  rw [newlySelectedForUpdate_self]; exact h

/-- Machines newly selected from `c` to `c''` were newly selected in one of the two legs. -/
theorem length_newlySelectedForUpdate_trans (c c' c'' : Cluster) :
    (newlySelectedForUpdate c c'').length ≤
      (newlySelectedForUpdate c c').length + (newlySelectedForUpdate c' c'').length := by
  rw [← List.length_append]
  refine (List.subperm_of_subset (newlySelectedForUpdate_nodup c c'') fun n hn => ?_).length_le
  rw [mem_newlySelectedForUpdate] at hn
  by_cases h' : n ∈ c'.selectedForUpdate
  · exact List.mem_append_left _ (mem_newlySelectedForUpdate.mpr ⟨h', hn.2⟩)
  · exact List.mem_append_right _ (mem_newlySelectedForUpdate.mpr ⟨hn.1, h'⟩)

/-- Storing one machine newly selects at most that machine, and none if it was selected. -/
theorem newlySelectedForUpdate_setMachine (c : Cluster) (x : Machine) :
    newlySelectedForUpdate c (c.setMachine x) ⊆ [x.name] ∧
      (x.name ∈ c.selectedForUpdate → newlySelectedForUpdate c (c.setMachine x) = []) := by
  have key : ∀ n ∈ (c.setMachine x).selectedForUpdate, n = x.name ∨ n ∈ c.selectedForUpdate := by
    intro n hn
    obtain ⟨y, hy, hsel, rfl⟩ := Cluster.mem_selectedForUpdate.mp hn
    rcases mem_replaceNamed hy with rfl | ⟨hy, -⟩
    · exact .inl rfl
    · exact .inr (Cluster.mem_selectedForUpdate.mpr ⟨y, hy, hsel, rfl⟩)
  refine ⟨fun n hn => ?_, fun hx => List.filter_eq_nil_iff.mpr fun n hn => ?_⟩
  · rw [mem_newlySelectedForUpdate] at hn
    exact List.mem_singleton.mpr ((key n hn.1).resolve_right hn.2)
  · rcases key n hn with rfl | h <;> simpa

/-- **Which machines are chosen for drain.** For two listers returning the same machines in
any orders, each chooses the first `readyForDrain` candidates in its own order, and the two
choices are the same machines whenever the bound covers every candidate. -/
theorem getMachinesForDrain_choice_by_lister_order {c₁ c₂ : Cluster} (is : MachineSet)
    {r : Int32} (h : c₁.machines.Perm c₂.machines) (hr : 0 ≤ r.toInt) :
    (getMachinesForDrain c₁ is r).1 = (machinesWithoutSelectedForUpdate c₁ is).take r.toInt.toNat ∧
    (getMachinesForDrain c₂ is r).1 = (machinesWithoutSelectedForUpdate c₂ is).take r.toInt.toNat ∧
    (((machinesWithoutSelectedForUpdate c₁ is).length : Int) ≤ r.toInt →
      (getMachinesForDrain c₁ is r).1.Perm (getMachinesForDrain c₂ is r).1) :=
  ⟨by rw [getMachinesForDrain_eq_take c₁ is hr], by rw [getMachinesForDrain_eq_take c₂ is hr],
    getMachinesForDrain_perm_of_length_le is h⟩

/-- A machine set whose selector is `app=pool`. -/
def drainExampleSet : MachineSet :=
  { name := "machineset-0", uid := "uid-ms-0", labels := [], selector := [("app", "pool")]
    replicas := 2, statusReplicas := 2, availableReplicas := 2, creationTimestamp := 0
    resourceVersion := 1 }

/-- A candidate machine of `drainExampleSet`. -/
def drainExampleMachine (name : String) : Machine :=
  { name := name, uid := "uid-" ++ name, controller := some "machineset-0"
    labels := [("app", "pool"), (labelKeyMachineCandidateForUpdate, "true")] }

/-- A lister cache holding the given machines, in that order. -/
def drainExampleCluster (l : List Machine) (h : (l.map Machine.name).Nodup) : Cluster :=
  { machineSets := [drainExampleSet], machines := l, nodes := [], controlNodes := []
    machineSets_nodup := by decide, machines_nodup := h, nodes_nodup := by decide
    controlNodes_nodup := by decide }

/-- **The choice follows the lister's order**: two candidates and room for one; a lister
returning them in one order gets `machine-0` chosen, in the other order `machine-1`. -/
theorem getMachinesForDrain_order_dependent :
    (getMachinesForDrain (drainExampleCluster [drainExampleMachine "machine-0",
        drainExampleMachine "machine-1"] (by decide)) drainExampleSet 1).1.map Machine.name =
      ["machine-0"] ∧
    (getMachinesForDrain (drainExampleCluster [drainExampleMachine "machine-1",
        drainExampleMachine "machine-0"] (by decide)) drainExampleSet 1).1.map Machine.name =
      ["machine-1"] := by
  decide

/-- With room for both candidates, the two lister orders choose the same two machines. -/
theorem getMachinesForDrain_choice_by_lister_order_two_candidates :
    (drainExampleCluster [drainExampleMachine "machine-0", drainExampleMachine "machine-1"]
        (by decide)).machines.Perm
      (drainExampleCluster [drainExampleMachine "machine-1", drainExampleMachine "machine-0"]
        (by decide)).machines ∧
    0 ≤ (2 : Int32).toInt ∧
    ((getMachinesForDrain (drainExampleCluster [drainExampleMachine "machine-0",
        drainExampleMachine "machine-1"] (by decide)) drainExampleSet 2).1.Perm
      (getMachinesForDrain (drainExampleCluster [drainExampleMachine "machine-1",
        drainExampleMachine "machine-0"] (by decide)) drainExampleSet 2).1) :=
  have hp : (drainExampleCluster [drainExampleMachine "machine-0", drainExampleMachine "machine-1"]
      (by decide)).machines.Perm
      (drainExampleCluster [drainExampleMachine "machine-1", drainExampleMachine "machine-0"]
        (by decide)).machines := List.Perm.swap _ _ _
  ⟨hp, by decide,
    (getMachinesForDrain_choice_by_lister_order drainExampleSet hp (by decide)).2.2 (by decide)⟩

/-! ### The machines chosen for drain -/

/-- The machines the spec has `getMachinesForDrain` choose from, in the lister's order: those
that match the set's selector, carry `candidate-for-update=true` and have no
`selected-for-update` key. -/
def eligibleForDrain (c : Cluster) (is : MachineSet) : List Machine :=
  c.machines.filter fun m => is.selector.selects m.labels &&
    m.labels.get? labelKeyMachineCandidateForUpdate == some "true" &&
    (m.labels.get? labelKeyMachineSelectedForUpdate).isNone

/-- The lister's candidates are the eligible machines when the set's selector binds
`candidate-for-update` to nothing but `true`. -/
theorem machinesWithoutSelectedForUpdate_eq_eligibleForDrain (c : Cluster) (is : MachineSet)
    (hsel : is.selector.get? labelKeyMachineCandidateForUpdate = none ∨
      is.selector.get? labelKeyMachineCandidateForUpdate = some "true") :
    machinesWithoutSelectedForUpdate c is = eligibleForDrain c is := by
  unfold machinesWithoutSelectedForUpdate eligibleForDrain Cluster.listMachines
  rw [List.filter_filter]
  exact List.filter_congr fun m _ => by rw [selects_mergeStringMaps_singleton hsel, Bool.and_comm]

/-- **The drain takes the first eligible machines**: for a bound `readyForDrain ≥ 0` and a set
whose selector binds `candidate-for-update` to nothing but `true`, `getMachinesForDrain`
returns without error the first `readyForDrain` eligible machines in the lister's order, an
order-preserving sublist of them without repeats, `min readyForDrain` of their number long. -/
theorem getMachinesForDrain_takes_eligible (c : Cluster) (is : MachineSet) {r : Int32}
    (hr : 0 ≤ r.toInt)
    (hsel : is.selector.get? labelKeyMachineCandidateForUpdate = none ∨
      is.selector.get? labelKeyMachineCandidateForUpdate = some "true") :
    getMachinesForDrain c is r = ((eligibleForDrain c is).take r.toInt.toNat, none) ∧
    (getMachinesForDrain c is r).1.Sublist (eligibleForDrain c is) ∧
    (getMachinesForDrain c is r).1.Nodup ∧
    ((getMachinesForDrain c is r).1.length : Int) = min r.toInt (eligibleForDrain c is).length := by
  have heq : getMachinesForDrain c is r = ((eligibleForDrain c is).take r.toInt.toNat, none) := by
    rw [getMachinesForDrain_eq_take c is hr,
      machinesWithoutSelectedForUpdate_eq_eligibleForDrain c is hsel]
  have hsub : ((eligibleForDrain c is).take r.toInt.toNat).Sublist c.machines :=
    (List.take_sublist _ _).trans (List.filter_sublist _)
  rw [heq]
  refine ⟨rfl, List.take_sublist _ _, List.Nodup.of_map Machine.name
    (c.machines_nodup.sublist (hsub.map _)), ?_⟩
  rw [List.length_take]
  have := Int.toNat_of_nonneg hr
  omega

/-- Room for one of two eligible machines: the first eligible one is taken. -/
theorem getMachinesForDrain_takes_eligible_example :
    getMachinesForDrain (drainExampleCluster [drainExampleMachine "machine-0",
        drainExampleMachine "machine-1"] (by decide)) drainExampleSet 1 =
      ((eligibleForDrain (drainExampleCluster [drainExampleMachine "machine-0",
        drainExampleMachine "machine-1"] (by decide)) drainExampleSet).take (1 : Int32).toInt.toNat,
        none) ∧
    (getMachinesForDrain (drainExampleCluster [drainExampleMachine "machine-0",
        drainExampleMachine "machine-1"] (by decide)) drainExampleSet 1).1.Sublist
      (eligibleForDrain (drainExampleCluster [drainExampleMachine "machine-0",
        drainExampleMachine "machine-1"] (by decide)) drainExampleSet) ∧
    (getMachinesForDrain (drainExampleCluster [drainExampleMachine "machine-0",
        drainExampleMachine "machine-1"] (by decide)) drainExampleSet 1).1.Nodup ∧
    ((getMachinesForDrain (drainExampleCluster [drainExampleMachine "machine-0",
        drainExampleMachine "machine-1"] (by decide)) drainExampleSet 1).1.length : Int) =
      min (1 : Int32).toInt (eligibleForDrain (drainExampleCluster [drainExampleMachine "machine-0",
        drainExampleMachine "machine-1"] (by decide)) drainExampleSet).length :=
  getMachinesForDrain_takes_eligible _ drainExampleSet (by decide) (.inl (by decide))

/-- `drainExampleSet` with a selector that binds `candidate-for-update` to `false`. -/
def drainCandidateKeySet : MachineSet :=
  { drainExampleSet with
    selector := [("app", "pool"), (labelKeyMachineCandidateForUpdate, "false")] }

/-- **The lister's selector overrides the set's `candidate-for-update`**: `getMachinesForDrain`
lists with `candidate-for-update=true` merged over the set's `candidate-for-update=false`, so it
chooses `machine-0`, which the set's selector does not match; no machine is eligible. -/
theorem getMachinesForDrain_overrides_selector_candidate_key :
    (getMachinesForDrain (drainExampleCluster [drainExampleMachine "machine-0"] (by decide))
      drainCandidateKeySet 1).1.map Machine.name = ["machine-0"] ∧
    drainCandidateKeySet.selector.selects (drainExampleMachine "machine-0").labels = false ∧
    eligibleForDrain (drainExampleCluster [drainExampleMachine "machine-0"] (by decide))
      drainCandidateKeySet = [] := by
  decide

/-! ### What the labelling counts -/

/-- A candidate machine of `drainExampleSet` on the node `node`. -/
def labelCountExampleMachine (name node : String) : Machine :=
  { drainExampleMachine name with
    labels := (drainExampleMachine name).labels ++ [(nodeLabelKey, node)] }

/-- `machine-0` on `node-0`, which already carries `selected-for-update=true`, and `machine-1`
on `node-1`, which the node lister does not know. -/
def labelCountExampleCluster : Cluster :=
  { machineSets := [drainExampleSet]
    machines := [labelCountExampleMachine "machine-0" "node-0",
      labelCountExampleMachine "machine-1" "node-1"]
    nodes := [{ name := "node-0", labels := [(labelKeyMachineSelectedForUpdate, "true")]
                unschedulable := false, resourceVersion := 1 }]
    controlNodes := [], machineSets_nodup := by decide, machines_nodup := by decide
    nodes_nodup := by decide, controlNodes_nodup := by decide }

/-- **The count misses machines it labelled**: both machines are patched selected-for-update,
but `machine-0`'s node already carries the label, whose `continue` skips the count, and
`machine-1`'s node is not found after its patch: the call returns 0 with the lister's error. -/
theorem labelMachinesToSelectedForUpdate_undercounts :
    (labelMachinesToSelectedForUpdate drainExampleSet 0
        (World.init labelCountExampleCluster [] true true)).1 =
      (0, some (.notFound "nodes" "node-1")) ∧
    (labelMachinesToSelectedForUpdate drainExampleSet 0
        (World.init labelCountExampleCluster [] true true)).2.store.selectedForUpdate =
      ["machine-0", "machine-1"] := by
  decide

end MachineControllerManager
