import MachineControllerManager.Controller.Budget

/-!
# The bounds `selectMachineForUpdate` hands over

`selectMachineForUpdate` calls `labelMachinesToSelectedForUpdate(targetIS, newScale)` with
`newScale = Spec.Replicas - min(Spec.Replicas, totalReadyForUpdateCount - totalReadyForUpdate)`,
all in `int32`, and `getMachinesForDrain` cuts the candidates at
`readyForDrain = Spec.Replicas - newScale`, a slice that panics on a negative bound.

Which calls the loop makes is stated as a use principle. `selectLoopWith label` is the loop
with its callee as a parameter, and `selectLoopWith_eq_of_agree` shows that every `label`
agreeing with `labelMachinesToSelectedForUpdate` on the sets of the walk at the bounds
`1 ≤ readyForDrain ≤ Spec.Replicas` (`AgreesInRange`) runs exactly as `selectLoop`: the loop
never consults its callee elsewhere. The step is `selectLoop_ready_in_range` (the bound of one
call) with `total_add_labelled_nonneg` (a call's count keeps the total within the budget);
the run is the induction over the sets.

`selectLoop_error` says where the loop's errors come from: the callee's API status errors, or
the invalid-request error for a set of negative replicas. So **no slice panics**, whatever the
replicas and the budget, and when no old set has negative replicas the invalid-request error
is never returned (`selectMachineForUpdate_labels_in_range`).
-/

namespace MachineControllerManager

/-- The loop of `selectMachineForUpdate` as `selectLoop` has it, with `label` called in the
place of `labelMachinesToSelectedForUpdate`. -/
def selectLoopWith (label : MachineSet → Int32 → World → (Int32 × Option GoError) × World)
    (totalReadyForUpdateCount : Int32) :
    List MachineSet → Int32 → World → (Int32 × Option GoError) × World
  | [], totalReadyForUpdate, w => ((totalReadyForUpdate, none), w)
  | targetIS :: rest, totalReadyForUpdate, w =>
    if totalReadyForUpdateCount ≤ totalReadyForUpdate then ((totalReadyForUpdate, none), w)
    else if targetIS.replicas = 0 then
      selectLoopWith label totalReadyForUpdateCount rest totalReadyForUpdate w
    else
      let readyForUpdateCount := min targetIS.replicas (totalReadyForUpdateCount - totalReadyForUpdate)
      let newReplicasCount := targetIS.replicas - readyForUpdateCount
      if targetIS.replicas < newReplicasCount then
        ((0, some (.errorf ("when selecting machine from old IS for update, got invalid request " ++
          targetIS.name ++ " " ++ toString targetIS.replicas.toInt ++ " -> " ++
          toString newReplicasCount.toInt))), w)
      else
        match label targetIS newReplicasCount w with
        | ((machinesSelectedForUpdate, some e), w) =>
          ((totalReadyForUpdate + machinesSelectedForUpdate, some e), w)
        | ((machinesSelectedForUpdate, none), w) =>
          selectLoopWith label totalReadyForUpdateCount rest
            (totalReadyForUpdate + machinesSelectedForUpdate) w

/-- `selectMachineForUpdate` with `label` called in the place of
`labelMachinesToSelectedForUpdate`. -/
def selectMachineForUpdateWith
    (label : MachineSet → Int32 → World → (Int32 × Option GoError) × World)
    (allISs oldISs : List MachineSet) (d : MachineDeployment)
    (oldISsMachinesUndergoingUpdate : Int32) (w : World) : (Int32 × Option GoError) × World :=
  let maxUnavailable := maxUnavailable d
  let minAvailable := d.replicas - maxUnavailable
  let availableMachineCount :=
    getAvailableReplicaCountForMachineSets allISs - oldISsMachinesUndergoingUpdate
  if availableMachineCount ≤ minAvailable then ((0, none), w)
  else
    let totalReadyForUpdateCount := availableMachineCount - minAvailable
    selectLoopWith label totalReadyForUpdateCount (sortMachineSetsByCreationTimestamp oldISs) 0 w

/-- `label` agrees with `labelMachinesToSelectedForUpdate` on the sets of `l`, at every
`newScale` whose bound `readyForDrain = Spec.Replicas - newScale` lies in `[1, Spec.Replicas]`. -/
def AgreesInRange (label : MachineSet → Int32 → World → (Int32 × Option GoError) × World)
    (l : List MachineSet) : Prop :=
  ∀ is ∈ l, ∀ (newScale : Int32) (w : World), 1 ≤ (is.replicas - newScale).toInt →
    (is.replicas - newScale).toInt ≤ is.replicas.toInt →
    label is newScale w = labelMachinesToSelectedForUpdate is newScale w

/-- Agreeing on the sets of a list, a labelling agrees on the sets of any part of it. -/
theorem AgreesInRange.of_subset {label : MachineSet → Int32 → World → (Int32 × Option GoError) × World}
    {l l' : List MachineSet} (h : AgreesInRange label l) (hl : l' ⊆ l) : AgreesInRange label l' :=
  fun is his => h is (hl his)

/-- From a total `T ≥ 0`, a set handed a bound in `[1, B - T]` leaves the total non-negative:
its count is at most the bound, so the sum stays within the budget and does not wrap. -/
theorem total_add_labelled_nonneg {B T : Int32} (is : MachineSet) (newScale : Int32) (w : World)
    (hT : 0 ≤ T.toInt) (hr₁ : 1 ≤ (is.replicas - newScale).toInt)
    (hr₂ : (is.replicas - newScale).toInt ≤ B.toInt - T.toInt) :
    0 ≤ (T + (labelMachinesToSelectedForUpdate is newScale w).1.1).toInt := by
  obtain ⟨⟨hc₀, hc₁⟩, -⟩ := labelMachinesToSelectedForUpdate_of_nonneg is newScale w (by omega)
  have := B.toInt_lt
  rw [Int32.toInt_add (by omega) (by omega)]
  omega

/-- **The use principle of the walk**: from a total `T ≥ 0`, every callee that agrees with
`labelMachinesToSelectedForUpdate` at the in-range bounds runs the loop as the source's does. -/
theorem selectLoopWith_eq_of_agree
    {label : MachineSet → Int32 → World → (Int32 × Option GoError) × World} (B : Int32) :
    ∀ (l : List MachineSet) (T : Int32) (w : World), AgreesInRange label l → 0 ≤ T.toInt →
      selectLoopWith label B l T w = selectLoop B l T w
  | [], _, _, _, _ => rfl
  | targetIS :: rest, T, w, hl, hT => by
    have hrest := hl.of_subset (List.subset_cons_self targetIS rest)
    dsimp only [selectLoopWith, selectLoop]
    split
    · rfl
    rename_i hBT
    rw [Int32.le_def, not_le] at hBT
    split
    · exact selectLoopWith_eq_of_agree B rest T w hrest hT
    split
    · rfl
    rename_i h0 hvalid
    obtain ⟨hr₁, hr₂, hr₃⟩ := selectLoop_ready_in_range hT hBT h0 hvalid
    have hnext := total_add_labelled_nonneg targetIS _ w hT hr₁ hr₃
    rw [hl targetIS (List.mem_cons_self targetIS rest) _ w hr₁ hr₂]
    rcases hc : labelMachinesToSelectedForUpdate targetIS
      (targetIS.replicas - min targetIS.replicas (B - T)) w with ⟨⟨c, _ | e⟩, w₁⟩
    · rw [hc] at hnext
      exact selectLoopWith_eq_of_agree B rest (T + c) w₁ hrest hnext
    · rfl

/-- Where the loop's errors come from, from a total `T ≥ 0`: the callee's API status errors,
or the invalid-request error for a set of the walk with negative replicas. -/
theorem selectLoop_error (B : Int32) {S : List MachineSet} :
    ∀ {l : List MachineSet}, l ⊆ S → ∀ (T : Int32) (w : World) {e : GoError}, 0 ≤ T.toInt →
      (selectLoop B l T w).1.2 = some e →
      e.isAPIStatus = true ∨ ∃ is ∈ S, is.replicas.toInt < 0 ∧ ∃ text, e = .errorf text
  | [], _, _, _, _, _, h => by cases h
  | targetIS :: rest, hS, T, w, e, hT, h => by
    have hrest := List.subset_of_cons_subset hS
    dsimp only [selectLoop] at h
    split at h
    · cases h
    rename_i hBT
    rw [Int32.le_def, not_le] at hBT
    split at h
    · exact selectLoop_error B hrest T w hT h
    split at h
    · rename_i hinvalid
      cases h
      exact .inr ⟨targetIS, hS (List.mem_cons_self targetIS rest),
        selectLoop_invalid hT hBT hinvalid, _, rfl⟩
    rename_i h0 hvalid
    obtain ⟨hr₁, -, hr₃⟩ := selectLoop_ready_in_range hT hBT h0 hvalid
    have hnext := total_add_labelled_nonneg targetIS _ w hT hr₁ hr₃
    have herr := (labelMachinesToSelectedForUpdate_of_nonneg targetIS _ w (Int.le_trans (by decide) hr₁)).2
    split at h
    · rename_i c e' w₁ hc
      exact .inl (herr e (by rw [hc]; exact h))
    · rename_i c w₁ hc
      rw [hc] at hnext
      exact selectLoop_error B hrest (T + c) w₁ hnext h

/-- **The bounds of the labelling calls**: whatever the replicas of the old sets and the
budget, `selectMachineForUpdate` calls `labelMachinesToSelectedForUpdate(targetIS, newScale)`
only with `1 ≤ targetIS.Spec.Replicas - newScale ≤ targetIS.Spec.Replicas`, in that every
callee agreeing with it there gives the same run. No slice `[:readyForDrain]` panics, and when
every old set has `Spec.Replicas ≥ 0` each error is an API status error: the invalid-request
error is never returned. -/
theorem selectMachineForUpdate_labels_in_range (allISs oldISs : List MachineSet)
    (d : MachineDeployment) (oldISsMachinesUndergoingUpdate : Int32) (w : World) :
    (∀ label, AgreesInRange label oldISs →
      selectMachineForUpdateWith label allISs oldISs d oldISsMachinesUndergoingUpdate w =
        selectMachineForUpdate allISs oldISs d oldISsMachinesUndergoingUpdate w) ∧
    (∀ text, (selectMachineForUpdate allISs oldISs d oldISsMachinesUndergoingUpdate w).1.2 ≠
      some (.panic text)) ∧
    ((∀ is ∈ oldISs, 0 ≤ is.replicas.toInt) → ∀ e,
      (selectMachineForUpdate allISs oldISs d oldISsMachinesUndergoingUpdate w).1.2 = some e →
      e.isAPIStatus = true) := by
  have hsort : sortMachineSetsByCreationTimestamp oldISs ⊆ oldISs := fun _ h =>
    (List.perm_insertionSort _ oldISs).subset h
  have herr : ∀ e, (selectMachineForUpdate allISs oldISs d oldISsMachinesUndergoingUpdate w).1.2 =
      some e → e.isAPIStatus = true ∨ ∃ is ∈ oldISs, is.replicas.toInt < 0 ∧
        ∃ text, e = .errorf text := by
    intro e h
    dsimp only [selectMachineForUpdate] at h
    split at h
    · cases h
    · exact selectLoop_error _ hsort 0 w le_rfl h
  refine ⟨fun label hl => ?_, fun text h => ?_, fun hnn e h => ?_⟩
  · dsimp only [selectMachineForUpdateWith, selectMachineForUpdate]
    split
    · rfl
    · exact selectLoopWith_eq_of_agree _ _ 0 w (hl.of_subset hsort) le_rfl
  · rcases herr _ h with h | ⟨_, _, _, _, h⟩ <;> cases h
  · exact (herr e h).resolve_right fun ⟨is, his, hneg, _⟩ => absurd (hnn is his) (not_le.mpr hneg)

end MachineControllerManager
