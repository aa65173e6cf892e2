import MachineControllerManager.Controller.Frame
import MachineControllerManager.Controller.Versions

/-!
# A machine moves to the new set only after its node reported the update

The in-place handshake ends when the node agent labels a node update-successful; only then may
the rollout hand the node's machine to the new set (`reconcileNewMachineSetInPlace`), scale
the old set down and the new one up. The transfer reads both halves from listers that lag:
the nodes labelled update-successful, and the old set's machines with their node label.

This module shows that the handover is never early, over every run of the system: every
machine the new set owns, and did not own at the start, runs on a node that at some earlier
point of the run was stored labelled update-successful.

* `ReportedIn U x`: a node labelled update-successful is in the set `U` of nodes known to
  have reported. `MovedFor c₀ newIS U m`: a machine the new set owns, while its namesake in
  `c₀` was not owned by it, runs (by its node label in `c₀`) on a node of `U`.
* `handoverDiscipline`: together with `Kept`, both are an invariant of every copy that obeys
  the discipline of `Controller/Discipline.lean`, when the new set's selector leaves the node
  label alone. The ownership patch is sent only for a listed machine naming a listed node
  that reports (`MachineKept.nodeLabel`), and no node edit adds the label
  (`ReportedIn.edit`).
* `Reported newIS w₀ w n`: some world of the run from `w₀` to `w` stored node `n` labelled
  update-successful. `Handover.event` is the step, where a reconcile fixes `U` to the nodes
  reported before it, and `Handover.run` the run.
* `rolloutRun_moves_only_reported_machines` reads the invariant off the store.
-/

namespace MachineControllerManager

/-! ### Reported nodes and moved machines -/

/-- A node labelled update-successful is one of the nodes `U` known to have reported. -/
def ReportedIn (U : String → Prop) (x : Node) : Prop :=
  x.labels.get? labelKeyMachineUpdateSuccessful = some "true" → U x.name

/-- A machine the new set owns, while its namesake in `c₀` was not owned by it, runs on a node
of `U`, by its node label in `c₀`. -/
def MovedFor (c₀ : Cluster) (newIS : MachineSet) (U : String → Prop) (m : Machine) : Prop :=
  m.controller = some newIS.name → ∀ m₀ ∈ c₀.machines, m₀.name = m.name →
    m₀.controller ≠ some newIS.name → U (m₀.labels.get nodeLabelKey)

variable {c₀ : Cluster} {newIS : MachineSet} {U U' : String → Prop}

/-- A node reported for fewer names is reported for more. -/
theorem ReportedIn.mono {x : Node} (h : ReportedIn U x) (hU : ∀ n, U n → U' n) :
    ReportedIn U' x :=
  fun hu => hU _ (h hu)

/-- A machine moved for fewer names is moved for more. -/
theorem MovedFor.mono {m : Machine} (h : MovedFor c₀ newIS U m) (hU : ∀ n, U n → U' n) :
    MovedFor c₀ newIS U' m :=
  fun hc m₀ hm₀ hn hne => hU _ (h hc m₀ hm₀ hn hne)

/-- No edit of the controller adds the update-successful label: the uncordons erase it, the
others leave it. -/
theorem ReportedIn.edit {x y : Node} (hx : ReportedIn U x) (hxy : NodeEditOf x y) :
    ReportedIn U y := fun hu => by
  rcases hxy.erased labelKeyMachineUpdateSuccessful (by decide) with h | h <;> rw [h] at hu
  · exact hxy.name ▸ hx hu
  · cases hu

/-- A version of a machine runs on the node its namesake in `c₀` names, when the new set's
selector leaves the node label alone. -/
theorem MachineKept.nodeLabel (hsel : newIS.selector.get? nodeLabelKey = none) {x m₀ : Machine}
    (hx : MachineKept c₀ newIS x) (hm₀ : m₀ ∈ c₀.machines) (hname : m₀.name = x.name) :
    m₀.labels.get nodeLabelKey = x.labels.get nodeLabelKey := by
  obtain ⟨x₀, hx₀, hxn, hagree, -⟩ := hx
  obtain rfl := List.inj_on_of_nodup_map c₀.machines_nodup hx₀ hm₀ (hxn.trans hname.symm)
  rcases hagree nodeLabelKey (by decide) with h | ⟨v, hv, -⟩
  · rw [Labels.get_eq, Labels.get_eq, h]
  · rw [hsel] at hv; cases hv

/-! ### The handover invariant obeys the discipline -/

/-- What a reconcile keeps of every copy: it is a version of its namesake in `c₀`; a node
that reports is in `U`; a machine moved to the new set was moved for a node of `U`. -/
def handoverInvariant (c₀ : Cluster) (newIS : MachineSet) (U : String → Prop) : Invariant :=
  Elementwise.invariant (fun m => MachineKept c₀ newIS m ∧ MovedFor c₀ newIS U m)
    (fun x => NodeKept c₀ x ∧ ReportedIn U x)

/-- **The handover obeys the discipline**: a label patch keeps the owner; the ownership patch
is sent for a listed machine whose node label names a listed node that reports, and that label
is the one of its namesake in `c₀`; a node edit never adds the report. -/
theorem handoverDiscipline (hsel : newIS.selector.get? nodeLabelKey = none) :
    Discipline (handoverInvariant c₀ newIS U) newIS :=
  Elementwise.discipline
    (fun hx hp _ hn hm => ⟨hm.1.apply hx.1 hn.symm hp.keeps, fun hc => hm.2 (by
      rwa [MachinePatch.apply, hp.controller, Option.none_or] at hc)⟩)
    (fun is hx hnode hns hu hl _ hn hm => ⟨hm.1.apply hx.1 hn.symm (.transfer hns is _),
      fun _ m₀ hm₀ hname _ => by
        rw [MachineKept.nodeLabel hsel hx.1 hm₀ (hname.trans hn), hl]
        exact hnode.2 hu⟩)
    (fun hx he => ⟨hx.1.edit he, hx.2.edit he.editOf⟩)
    (fun hx => ⟨hx.1.uncordoned, hx.2.edit (uncordonedNode_editOf _)⟩) fun _ hy => hy

/-! ### Runs -/

/-- Some world of the run from `w₀` to `w` stored node `n` labelled update-successful. -/
def Reported (newIS : MachineSet) (w₀ w : World) (n : String) : Prop :=
  ∃ w₁, RolloutRun newIS w₀ w₁ ∧ RolloutRun newIS w₁ w ∧
    ∃ x ∈ w₁.store.nodes, x.name = n ∧
      x.labels.get? labelKeyMachineUpdateSuccessful = some "true"

/-- Along a run: nodes that report, and machines moved to the new set, as the invariant has
them for the nodes reported so far. -/
abbrev Handover (c₀ : Cluster) (newIS : MachineSet) (U : String → Prop) : World → Prop :=
  Elementwise (MovedFor c₀ newIS U) (ReportedIn U)

section Runs

variable {w₀ w w' : World}

/-- A report made before stays made after one more event. -/
theorem Reported.tail {n : String} (h : Reported newIS w₀ w n) (he : RolloutEvent newIS w w') :
    Reported newIS w₀ w' n :=
  let ⟨w₁, h₀₁, h₁, hx⟩ := h
  ⟨w₁, h₀₁, h₁.tail he, hx⟩

/-- A stored node that reports has been reported. -/
theorem Reported.of_store (h : RolloutRun newIS w₀ w) {x : Node} (hx : x ∈ w.store.nodes) :
    ReportedIn (Reported newIS w₀ w) x :=
  fun hu => ⟨w, h, .refl, x, hx, rfl, hu⟩

/-- Before the rollout, the new set owns what it owned, and every report is stored. -/
theorem Handover.init (c : Cluster) (outcomes : List Outcome)
    (checksResourceVersion controlIsTarget : Bool) :
    let w₀ := World.init c outcomes checksResourceVersion controlIsTarget
    Handover c newIS (Reported newIS w₀ w₀) w₀ :=
  have hmoved : ∀ m ∈ c.machines, MovedFor c newIS _ m := fun _ hm hc _ hm₀ hn hne =>
    absurd (List.inj_on_of_nodup_map c.machines_nodup hm₀ hm hn ▸ hc) hne
  ⟨fun _ hx => Reported.of_store .refl hx, fun _ hx => Reported.of_store .refl hx, hmoved, hmoved⟩

/-- **The step**: every event keeps the handover, for the nodes reported up to it. -/
theorem Handover.event (hsel : newIS.selector.get? nodeLabelKey = none)
    (hrun : RolloutRun newIS w₀ w) (hk : Kept c₀ newIS w)
    (hh : Handover c₀ newIS (Reported newIS w₀ w) w) (he : RolloutEvent newIS w w') :
    Handover c₀ newIS (Reported newIS w₀ w') w' := by
  have hU : ∀ n, Reported newIS w₀ w n → Reported newIS w₀ w' n := fun _ hn => hn.tail he
  have hstore : ∀ x ∈ w'.store.nodes, ReportedIn (Reported newIS w₀ w') x :=
    fun _ hx => Reported.of_store (hrun.tail he) hx
  have hh' := hh.mono (fun _ hm => hm.mono hU) fun _ hx => hx.mono hU
  cases he with
  | reconcile flag d ns oldISs hns =>
    have hr := (rolloutAutoInPlace_stays (handoverDiscipline hsel) flag d hns oldISs
      (hk.and hh)).good
    exact hr.mono (fun _ hm => hm.2.mono hU) fun _ hx => hx.2.mono hU
  | agentNode => exact ⟨hstore, hh'.cache_nodes, hh'.store_machines, hh'.cache_machines⟩
  | agentMachine m m' hm hname _ hcontroller =>
    refine ⟨hstore, hh'.cache_nodes, fun y hy => ?_, hh'.cache_machines⟩
    rcases mem_replaceNamed hy with rfl | ⟨hy, -⟩
    · exact fun hc m₀ hm₀ hn => hh'.store_machines m hm (hcontroller ▸ hc) m₀ hm₀ (hn.trans hname)
    · exact hh'.store_machines y hy
  | syncMachines => exact ⟨hstore, hh'.cache_nodes, hh'.store_machines, hh'.store_machines⟩
  | syncNodes => exact ⟨hstore, hstore, hh'.store_machines, hh'.cache_machines⟩
  | syncMachineSets => exact ⟨hstore, hh'.cache_nodes, hh'.store_machines, hh'.cache_machines⟩

/-- **The run**: the handover holds all along every run from a world where it holds. -/
theorem Handover.run (hsel : newIS.selector.get? nodeLabelKey = none)
    (h : RolloutRun newIS w₀ w) (hk : Kept c₀ newIS w₀)
    (hh : Handover c₀ newIS (Reported newIS w₀ w₀) w₀) :
    Handover c₀ newIS (Reported newIS w₀ w) w := by
  induction h with
  | refl => exact hh
  | tail hrun he ih => exact ih.event hsel hrun (hk.run hrun) he

end Runs

/-- **A machine moves to the new set only after its node reported the update**: along every
run of the system from a cluster `c`, under any failure schedule and any informer lag, every
stored machine the new set owns, whose namesake in `c` it did not own, runs on a node (by its
node label in `c`) that some earlier world of the run stored labelled update-successful. The
new set's selector is assumed not to bind the node label, which the transfer would otherwise
rewrite. -/
theorem rolloutRun_moves_only_reported_machines {c : Cluster} {outcomes : List Outcome}
    {checksResourceVersion controlIsTarget : Bool} {newIS : MachineSet} {w : World}
    (hsel : newIS.selector.get? nodeLabelKey = none)
    (h : RolloutRun newIS (World.init c outcomes checksResourceVersion controlIsTarget) w) :
    ∀ m ∈ w.store.machines, m.controller = some newIS.name → ∀ m₀ ∈ c.machines,
      m₀.name = m.name → m₀.controller ≠ some newIS.name →
      ∃ w₁, RolloutRun newIS (World.init c outcomes checksResourceVersion controlIsTarget) w₁ ∧
        RolloutRun newIS w₁ w ∧ ∃ x ∈ w₁.store.nodes, x.name = m₀.labels.get nodeLabelKey ∧
          x.labels.get? labelKeyMachineUpdateSuccessful = some "true" :=
  (Handover.run hsel h (Kept.init c outcomes checksResourceVersion controlIsTarget)
    (Handover.init c outcomes checksResourceVersion controlIsTarget)).store_machines

/-- After the example's two reconciles every machine of the new set was reported by its node. -/
theorem frameExample_moves_only_reported_machines :
    transferExampleNewIS.selector.get? nodeLabelKey = none ∧
    RolloutRun transferExampleNewIS (World.init (transferExampleCluster 2) [] true true)
      frameExampleWorld ∧
    ∀ m ∈ frameExampleWorld.store.machines, m.controller = some transferExampleNewIS.name →
      ∀ m₀ ∈ (transferExampleCluster 2).machines, m₀.name = m.name →
      m₀.controller ≠ some transferExampleNewIS.name →
      ∃ w₁, RolloutRun transferExampleNewIS (World.init (transferExampleCluster 2) [] true true)
          w₁ ∧ RolloutRun transferExampleNewIS w₁ frameExampleWorld ∧
        ∃ x ∈ w₁.store.nodes, x.name = m₀.labels.get nodeLabelKey ∧
          x.labels.get? labelKeyMachineUpdateSuccessful = some "true" :=
  ⟨by decide, frameExampleWorld_run,
    rolloutRun_moves_only_reported_machines (by decide) frameExampleWorld_run⟩

end MachineControllerManager
