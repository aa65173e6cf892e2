import MachineControllerManager.Api.Server
import Mathlib.Logic.Relation
import Mathlib.Data.List.Nodup

/-!
# Runs of calls, and what optimistic concurrency guarantees over them

A reconcile is a run of `Step`s: API calls, and the controller's writes to the informer's
copy of a node. The in-place rollout writes machine sets in one way only, an `Update` of a
copy of a machine set it was handed with a new replica count; the step relation records the
snapshots `S` those copies come from. Every function of the controller is shown to reach its
result world by such a run (the `_reaches` lemmas beside each function), so a fact proved
here once for `Step` holds of every reconcile.

**Optimistic concurrency.** When the server checks resource versions, a successful `Update`
of a machine set carries the version the server held and leaves a larger one. Along a run
the versions written to one name therefore increase (`WritesBehind`), and two copies of one
snapshot, which carry the same version, never both succeed
(`Reaches.setWrites_names_nodup`).
-/

namespace MachineControllerManager

/-! ### Steps and runs -/

/-- One step of a reconcile handed the machine sets `S`: an API call, or a write of the
controller to the informer's copy of a node. -/
inductive Step (S : List MachineSet) : World → World → Prop
  | patchMachine (w : World) (name : String) (p : MachinePatch) :
      Step S w (patchMachine name p w).2
  | updateNode (w : World) (client : Client) (x : Node) : Step S w (updateNode client x w).2
  | updateMachineSet (w : World) {s : MachineSet} (replicas : Int32) (hs : s ∈ S) :
      Step S w (updateMachineSet { s with replicas := replicas } w).2
  | patchMachineSet (w : World) (name : String) (labels : Labels) :
      Step S w (patchMachineSet name labels w).2
  | deleteMachineSet (w : World) (name : String) : Step S w (deleteMachineSet name w).2
  | externalCall (w : World) (helper : String) : Step S w (externalCall helper w).2
  | mutateCachedNode (w : World) (listed x : Node) : Step S w (w.mutateCachedNode listed x)

/-- `w'` is reached from `w` by a run of steps. -/
def Reaches (S : List MachineSet) : World → World → Prop := Relation.ReflTransGen (Step S)

namespace Reaches

variable {S : List MachineSet} {w w₁ w₂ : World} {err : Option GoError}

/-- A world reaches itself. -/
theorem refl : Reaches S w w := Relation.ReflTransGen.refl

/-- Two runs, one after the other, make a run. -/
theorem trans (h₁ : Reaches S w w₁) (h₂ : Reaches S w₁ w₂) : Reaches S w w₂ :=
  Relation.ReflTransGen.trans h₁ h₂

/-- The world a call returns, named by the equation that destructures its result. -/
theorem of_eq {α : Type} {r : α × World} {a : α} (hr : Reaches S w r.2) (h : r = (a, w₁)) :
    Reaches S w w₁ := by
  subst h; exact hr

/-- A call made only under a condition. -/
theorem of_ite_eq {c : Prop} [Decidable c] {r : Option GoError × World}
    (hr : c → Reaches S w r.2) (h : (if c then r else (none, w)) = (err, w₁)) : Reaches S w w₁ := by
  split at h
  · exact .of_eq (hr ‹_›) h
  · cases h; exact .refl

/-- A machine patch is a step. -/
theorem of_patchMachine {name : String} {p : MachinePatch}
    (h : patchMachine name p w = (err, w₁)) : Reaches S w w₁ := by
  have := Relation.ReflTransGen.single (@Step.patchMachine S w name p); rwa [h] at this

/-- A node `Update`, through either client, is a step. -/
theorem of_updateNode {client : Client} {x : Node} (h : updateNode client x w = (err, w₁)) :
    Reaches S w w₁ := by
  have := Relation.ReflTransGen.single (@Step.updateNode S w client x); rwa [h] at this

/-- A replica write to a set of the snapshot is a step. -/
theorem of_updateMachineSet {s : MachineSet} {replicas : Int32} (hs : s ∈ S)
    (h : updateMachineSet { s with replicas := replicas } w = (err, w₁)) : Reaches S w w₁ := by
  have := Relation.ReflTransGen.single (Step.updateMachineSet w replicas hs); rwa [h] at this

/-- A machine-set label patch is a step. -/
theorem of_patchMachineSet {name : String} {labels : Labels}
    (h : patchMachineSet name labels w = (err, w₁)) : Reaches S w w₁ := by
  have := Relation.ReflTransGen.single (@Step.patchMachineSet S w name labels); rwa [h] at this

/-- A machine-set delete is a step. -/
theorem of_deleteMachineSet {name : String} (h : deleteMachineSet name w = (err, w₁)) :
    Reaches S w w₁ := by
  have := Relation.ReflTransGen.single (@Step.deleteMachineSet S w name); rwa [h] at this

/-- A call of an external helper is a step. -/
theorem of_externalCall {helper : String} (h : externalCall helper w = (err, w₁)) :
    Reaches S w w₁ := by
  have := Relation.ReflTransGen.single (@Step.externalCall S w helper); rwa [h] at this

/-- `of_externalCall`, for the world the call returns. -/
theorem external (helper : String) : Reaches S w (externalCall helper w).2 :=
  Relation.ReflTransGen.single (Step.externalCall w helper)

/-- Writing through a node the lister handed out is a step. -/
theorem mutateCachedNode (listed x : Node) : Reaches S w (w.mutateCachedNode listed x) :=
  Relation.ReflTransGen.single (Step.mutateCachedNode w listed x)

end Reaches

/-! ### What a settled call leaves in the store -/

/-- A property of the store that every answer of the server keeps is kept by the call. -/
theorem Settles.store {call : Call} {refresh : Cluster → Cluster → Cluster}
    {serve : Bool → Except GoError Cluster} {w w' : World} {err : Option GoError}
    (hs : Settles call refresh serve w w' err) (P : Cluster → Prop) (h : P w.store)
    (hserve : ∀ fails c', serve fails = .ok c' → P c') : P w'.store := by
  cases err with
  | none => obtain ⟨f, hf⟩ := hs.ok rfl; exact hserve f _ hf
  | some e => rw [hs.error (by simp)]; exact h

/-- An empty log holds no machine-set writes. -/
@[simp] theorem setWrites_nil : setWrites [] = [] := rfl

/-- The writes of two logs, one after the other. -/
@[simp]
theorem setWrites_append (l₁ l₂ : List Attempt) :
    setWrites (l₁ ++ l₂) = setWrites l₁ ++ setWrites l₂ :=
  List.filterMap_append _ _ _

/-- An attempt at any other call writes no machine set. -/
theorem setWrites_single_of_ne {a : Attempt} (h : ∀ ms, a.call ≠ .updateMachineSet ms) :
    setWrites [a] = [] := by
  obtain ⟨call, ok⟩ := a
  cases call with
  | updateMachineSet ms => exact absurd rfl (h ms)
  | _ => rfl

/-! ### Optimistic concurrency -/

/-- The successful machine-set writes `writes` of a run are behind the store `c`: the
versions written to one name increase along the run, and stay below the version the store
now holds for that name. -/
def WritesBehind (writes : List MachineSet) (c : Cluster) : Prop :=
  writes.Pairwise (fun a b => a.name = b.name → a.resourceVersion < b.resourceVersion) ∧
  ∀ a ∈ writes, ∀ s ∈ c.machineSets, s.name = a.name → a.resourceVersion < s.resourceVersion

/-- Each of `writes` has the name and the version of a snapshot of `S`. -/
def WritesFrom (S writes : List MachineSet) : Prop :=
  ∀ a ∈ writes, ∃ s ∈ S, s.name = a.name ∧ s.resourceVersion = a.resourceVersion

namespace WritesBehind

variable {writes : List MachineSet} {c c' : Cluster}

/-- No writes are behind every store. -/
theorem nil : WritesBehind [] c :=
  ⟨List.Pairwise.nil, fun _ h => absurd h (List.not_mem_nil _)⟩

/-- Stored versions that only grow, for names that stay, keep the writes behind. -/
theorem mono (h : WritesBehind writes c)
    (hc : ∀ s' ∈ c'.machineSets, ∃ s ∈ c.machineSets, s.name = s'.name ∧
      s.resourceVersion ≤ s'.resourceVersion) :
    WritesBehind writes c' := by
  refine ⟨h.1, fun a ha s' hs' hn => ?_⟩
  obtain ⟨s, hs, hsn, hle⟩ := hc s' hs'
  exact lt_of_lt_of_le (h.2 a ha s hs (hsn.trans hn)) hle

/-- A successful `Update` of `ms`, which found the version `ms` carries, puts `ms` behind. -/
theorem update (h : WritesBehind writes c) {ms s : MachineSet}
    (hs : c.getMachineSet ms.name = some s) (hv : s.resourceVersion = ms.resourceVersion) :
    WritesBehind (writes ++ [ms])
      (c.setMachineSet { ms with resourceVersion := s.resourceVersion + 1 }) := by
  have hsm : s ∈ c.machineSets := List.mem_of_find?_eq_some hs
  have hsn : s.name = ms.name := by simpa using List.find?_some hs
  refine ⟨List.pairwise_append.mpr ⟨h.1, List.pairwise_singleton _ _, ?_⟩, ?_⟩
  · intro a ha b hb hn
    obtain rfl := List.mem_singleton.mp hb
    rw [← hv]
    exact h.2 a ha s hsm (hsn.trans hn.symm)
  · intro a ha x hx hn
    rcases mem_replaceNamed hx with rfl | ⟨hx, hxn⟩
    · rcases List.mem_append.mp ha with ha | ha
      · exact lt_trans (h.2 a ha s hsm (hsn.trans hn)) (Nat.lt_succ_self _)
      · rw [List.mem_singleton.mp ha, ← hv]; exact Nat.lt_succ_self _
    · rcases List.mem_append.mp ha with ha | ha
      · exact h.2 a ha x hx hn
      · exact absurd (hn.trans (List.mem_singleton.mp ha ▸ rfl)) hxn

end WritesBehind

/-- Every call keeps the stored versions of the machine sets that remain, or raises them. -/
def VersionsGrow (c c' : Cluster) : Prop :=
  ∀ s' ∈ c'.machineSets, ∃ s ∈ c.machineSets, s.name = s'.name ∧
    s.resourceVersion ≤ s'.resourceVersion

/-- A call that leaves the machine sets as they were keeps their versions. -/
theorem VersionsGrow.of_eq {c c' : Cluster} (h : c'.machineSets = c.machineSets) :
    VersionsGrow c c' :=
  fun s' hs' => ⟨s', h ▸ hs', rfl, le_rfl⟩

/-- No writes come from every snapshot. -/
theorem WritesFrom.nil {S : List MachineSet} : WritesFrom S [] :=
  fun _ h => absurd h (List.not_mem_nil _)

/-- What a step does to the log and to the machine-set writes, stated once. -/
def StepWrites (S : List MachineSet) (w w' : World) : Prop :=
  ∃ l, w'.log = w.log ++ l ∧ WritesFrom S (setWrites l) ∧
    w'.checksResourceVersion = w.checksResourceVersion ∧
    (w.checksResourceVersion = true → ∀ writes, WritesBehind writes w.store →
      WritesBehind (writes ++ setWrites l) w'.store)

/-- A call that writes no machine set and lets stored versions only grow. -/
theorem StepWrites.of_call {S : List MachineSet} {w w' : World} {a : Attempt}
    (hlog : w'.log = w.log ++ [a]) (ha : ∀ ms, a.call ≠ .updateMachineSet ms)
    (hrv : w'.checksResourceVersion = w.checksResourceVersion)
    (hgrow : VersionsGrow w.store w'.store) : StepWrites S w w' := by
  refine ⟨[a], hlog, ?_, hrv, fun _ writes hw => ?_⟩ <;> rw [setWrites_single_of_ne ha]
  · exact WritesFrom.nil
  · rw [List.append_nil]; exact hw.mono hgrow

/-- **One step**: it appends to the log, its writes are copies of snapshots, and when the
server checks versions it keeps every earlier write behind the store. -/
theorem stepWrites_of_step {S : List MachineSet} {w w' : World} (hs : Step S w w') :
    StepWrites S w w' := by
  cases hs with
  | patchMachine name p =>
    have hs := patchMachine_settles (@Prod.mk.eta _ _ (patchMachine name p w)).symm
    exact .of_call hs.log (by simp) hs.checksResourceVersion
      (hs.store (VersionsGrow w.store) (VersionsGrow.of_eq rfl) fun _ _ h => by
        obtain ⟨m, -, rfl⟩ := Cluster.applyPatchMachine_ok _ h; exact VersionsGrow.of_eq rfl)
  | updateNode client x =>
    have hs := updateNode_settles (@Prod.mk.eta _ _ (updateNode client x w)).symm
    exact .of_call hs.log (by simp) hs.checksResourceVersion
      (hs.store (VersionsGrow w.store) (VersionsGrow.of_eq rfl) fun _ _ h =>
        VersionsGrow.of_eq (Cluster.applyUpdateNode_ok_machines _ h).2)
  | @updateMachineSet s replicas hmem =>
    rcases h : updateMachineSet { s with replicas := replicas } w with ⟨err, w'⟩
    have hs := updateMachineSet_settles h
    refine ⟨_, hs.log, ?_, hs.checksResourceVersion, fun hrv writes hw => ?_⟩ <;>
      cases err with
      | none => ?_
      | some e => ?_
    · exact fun a ha => ⟨s, hmem, by simp_all [setWrites]⟩
    · exact WritesFrom.nil
    · obtain ⟨f, hf⟩ := hs.ok rfl
      obtain ⟨st, hst, hv, hc⟩ := Cluster.applyUpdateMachineSet_ok _ hf
      rw [hc]
      exact hw.update hst (hv hrv)
    · rw [hs.error (by simp)]
      simpa [setWrites] using hw
  | patchMachineSet name labels =>
    have hs := patchMachineSet_settles (@Prod.mk.eta _ _ (patchMachineSet name labels w)).symm
    refine .of_call hs.log (by simp) hs.checksResourceVersion
      (hs.store (VersionsGrow w.store) (VersionsGrow.of_eq rfl) fun _ _ h => ?_)
    rcases Cluster.applyPatchMachineSet_ok _ h with rfl | ⟨st, hst, rfl⟩
    · exact VersionsGrow.of_eq rfl
    · intro s' hs'
      rcases mem_replaceNamed hs' with rfl | ⟨hs', -⟩
      · exact ⟨st, List.mem_of_find?_eq_some hst, rfl, Nat.le_succ _⟩
      · exact ⟨s', hs', rfl, le_rfl⟩
  | deleteMachineSet name =>
    have hs := deleteMachineSet_settles (@Prod.mk.eta _ _ (deleteMachineSet name w)).symm
    refine .of_call hs.log (by simp) hs.checksResourceVersion
      (hs.store (VersionsGrow w.store) (VersionsGrow.of_eq rfl) fun _ _ h => ?_)
    rw [Cluster.applyDeleteMachineSet_ok _ h]
    exact fun s' hs' => ⟨s', (List.mem_filter.mp hs').1, rfl, le_rfl⟩
  | externalCall helper =>
    have hs := externalCall_settles (@Prod.mk.eta _ _ (externalCall helper w)).symm
    refine .of_call hs.log (by simp) hs.checksResourceVersion
      (hs.store (VersionsGrow w.store) (VersionsGrow.of_eq rfl) fun f _ h => ?_)
    cases f <;> simp only [if_true, if_false, reduceCtorEq, Except.ok.injEq] at h
    exact h ▸ VersionsGrow.of_eq rfl
  | mutateCachedNode listed x =>
    refine ⟨[], by simp, WritesFrom.nil, by simp, fun _ writes hw => ?_⟩
    simpa using hw

/-- **A run**: it appends to the log; its machine-set writes are copies of snapshots, and when
the server checks versions they stay behind the store. -/
theorem Reaches.writes {S : List MachineSet} {w₀ w : World} (h : Reaches S w₀ w) :
    ∃ seg, w.log = w₀.log ++ seg ∧ WritesFrom S (setWrites seg) ∧
      w.checksResourceVersion = w₀.checksResourceVersion ∧
      (w₀.checksResourceVersion = true → WritesBehind (setWrites seg) w.store) := by
  induction h with
  | refl => exact ⟨[], by simp, WritesFrom.nil, rfl, fun _ => WritesBehind.nil⟩
  | tail _ hs ih =>
    obtain ⟨seg, hlog, hfrom, hrv, hb⟩ := ih
    obtain ⟨l, hl, hfl, hrvl, hbl⟩ := stepWrites_of_step hs
    refine ⟨seg ++ l, by rw [hl, hlog, List.append_assoc], ?_, hrvl.trans hrv, fun h0 => ?_⟩ <;>
      rw [setWrites_append]
    · intro a ha
      rcases List.mem_append.mp ha with ha | ha
      exacts [hfrom a ha, hfl a ha]
    · exact hbl (hrv.trans h0) _ (hb h0)

/-- **Optimistic concurrency**: when the server checks resource versions, a run whose
snapshots have distinct names writes each machine set successfully at most once. -/
theorem Reaches.setWrites_names_nodup {S : List MachineSet} {w₀ w : World} (h : Reaches S w₀ w)
    (hrv : w₀.checksResourceVersion = true) (hS : (S.map MachineSet.name).Nodup) :
    ∃ seg, w.log = w₀.log ++ seg ∧ ((setWrites seg).map MachineSet.name).Nodup := by
  obtain ⟨seg, hlog, hfrom, -, hb⟩ := h.writes
  refine ⟨seg, hlog, List.Pairwise.map _ (fun _ _ h => h) ((hb hrv).1.imp_of_mem ?_)⟩
  intro a b ha hb' hlt hn
  obtain ⟨sa, hsa, hna, hva⟩ := hfrom a ha
  obtain ⟨sb, hsb, hnb, hvb⟩ := hfrom b hb'
  have : sa = sb := List.inj_on_of_nodup_map hS hsa hsb (hna.trans (hn.trans hnb.symm))
  exact absurd (hlt hn) (by rw [← hva, ← hvb, this]; exact lt_irrefl _)

end MachineControllerManager
