import Mathlib.Tactic.Common

/-!
# Label maps and label selectors

Labels are Go `map[string]string` values. A map is modelled as an association list read
through its first binding of each key (`Labels.get?`), so every list is a valid map: writing
a key conses a binding in front, deleting it filters all its bindings out. Two lists that
bind the same keys to the same values are the same map; the lemmas below are all stated
through `get?`, never through the list itself.

A selector `labels.SelectorFromSet(set)` matches a label map when every key of `set` is
bound to `set`'s value (`Labels.selects`). `MergeStringMaps` and
`MergeWithOverwriteAndFilter` are the helpers of `pkg/controller` that the in-place rollout
builds its patches with; they are not in the source, and `mergeStringMaps` and
`mergeWithOverwriteAndFilter` model them from what the spec and the call sites say they do.

The well-known label keys are constants of `pkg/apis/machine/v1alpha1`, which is not in the
source either; their values follow the spec's list of labels. Only their being pairwise
distinct is ever used.
-/

namespace MachineControllerManager

/-- A Go `map[string]string` of labels, read by the first binding of each key. -/
abbrev Labels := List (String × String)

namespace Labels

/-- Go's `v, ok := m[k]`: the binding of `k`, if there is one. -/
def get? (m : Labels) (k : String) : Option String := m.lookup k

/-- Go's `m[k]`: the bound value, or `""` when `k` is unbound. -/
def get (m : Labels) (k : String) : String := (m.get? k).getD ""

/-- Go's `delete(m, k)`. -/
def erase (m : Labels) (k : String) : Labels := m.filter fun p => p.1 != k

/-- Go's `m[k] = v`. -/
def set (m : Labels) (k v : String) : Labels := (k, v) :: m

/-- `labels.SelectorFromSet(sel).Matches(labels.Set(m))`: every key of `sel` is bound in `m`
to the value `sel` binds it to. -/
def selects (sel m : Labels) : Bool := sel.all fun p => m.get? p.1 == sel.get? p.1

/-- The empty map binds nothing. -/
@[simp]
theorem get?_nil (k : String) : get? [] k = none := rfl

/-- The first binding of a key is its value. -/
@[simp]
theorem get?_cons (k k' v : String) (m : Labels) :
    get? ((k', v) :: m) k = if k = k' then some v else get? m k := by
  simp only [get?, List.lookup_cons, beq_iff_eq]
  split <;> simp_all

/-- In two maps one after the other, the first map's binding wins. -/
@[simp]
theorem get?_append (m₁ m₂ : Labels) (k : String) :
    get? (m₁ ++ m₂) k = (get? m₁ k).or (get? m₂ k) :=
  List.lookup_append

/-- Filtering bindings by their key keeps or drops the key's value as a whole. -/
theorem get?_filter_key (m : Labels) (f : String → Bool) (k : String) :
    get? (m.filter fun p => f p.1) k = if f k then get? m k else none := by
  induction m with
  | nil => simp
  | cons p m ih =>
    obtain ⟨k', v⟩ := p
    by_cases hk : k = k'
    · subst hk; by_cases hf : f k <;> simp [List.filter_cons, hf, ih]
    · by_cases hf : f k' <;> simp [List.filter_cons, hf, hk, ih]

/-- Erasing a key unbinds it and leaves the others. -/
@[simp]
theorem get?_erase (m : Labels) (k k' : String) :
    get? (m.erase k') k = if k = k' then none else get? m k := by
  rw [erase, get?_filter_key m (fun x => x != k') k]
  by_cases h : k = k' <;> simp [h]

/-- Setting a key binds it and leaves the others. -/
@[simp]
theorem get?_set (m : Labels) (k k' v : String) :
    get? (m.set k' v) k = if k = k' then some v else get? m k :=
  get?_cons k k' v m

/-- Go's `m[k]`: the value, or `""` when the key is unbound. -/
theorem get_eq (m : Labels) (k : String) : m.get k = (m.get? k).getD "" := rfl

/-- A selector matches exactly the maps that bind each of its keys as it does. -/
theorem selects_iff {sel m : Labels} :
    selects sel m = true ↔ ∀ k v, sel.get? k = some v → m.get? k = some v := by
  simp only [selects, List.all_eq_true, beq_iff_eq]
  constructor
  · intro h k v hk
    obtain ⟨p, hp, hpk⟩ := List.lookup_isSome_iff.mp (Option.isSome_iff_exists.mpr ⟨v, hk⟩)
    rw [beq_iff_eq] at hpk
    subst hpk
    rw [h p hp]
    exact hk
  · intro h p hp
    obtain ⟨v, hv⟩ := Option.isSome_iff_exists.mp
      (List.lookup_isSome_iff.mpr ⟨p, hp, beq_self_eq_true p.1⟩)
    exact (h p.1 v hv).trans hv.symm

end Labels

/-- Modelled from the spec: `MergeStringMaps(old, new)`, not in the source, is the union of
the two maps, `new` winning on shared keys; its call sites add labels to a copy of an
object's labels with it. -/
def mergeStringMaps (old new : Labels) : Labels := new ++ old

/-- Modelled from the spec: `MergeWithOverwriteAndFilter(current, filter, new)`, not in the
source, is `current` without the keys of `filter`, overwritten by `new` ("rewrite its labels
to match the new MS's selector, drop old-only labels"). -/
def mergeWithOverwriteAndFilter (current filter new : Labels) : Labels :=
  new ++ current.filter fun p => (filter.get? p.1).isNone

/-- In `MergeStringMaps(old, new)` a key has its value in `new`, or else in `old`. -/
@[simp]
theorem get?_mergeStringMaps (old new : Labels) (k : String) :
    (mergeStringMaps old new).get? k = (new.get? k).or (old.get? k) :=
  Labels.get?_append new old k

/-- A selector extended by the binding `k = v` matches the maps that the selector matches and
that bind `k` to `v`, when the selector binds `k` to nothing or to `v` already. -/
theorem selects_mergeStringMaps_singleton {sel m : Labels} {k v : String}
    (hk : sel.get? k = none ∨ sel.get? k = some v) :
    (mergeStringMaps sel [(k, v)]).selects m = (sel.selects m && m.get? k == some v) := by
  refine Bool.eq_iff_iff.mpr ?_
  simp only [Bool.and_eq_true, beq_iff_eq, Labels.selects_iff, get?_mergeStringMaps,
    Labels.get?_cons, Labels.get?_nil]
  constructor
  · intro h
    refine ⟨fun k' v' hk' => h k' v' ?_, h k v (by simp)⟩
    by_cases hkk : k' = k
    · subst hkk
      rcases hk with hk | hk <;> rw [hk] at hk'
      · cases hk'
      · cases hk'; simp
    · simp [hkk, hk']
  · rintro ⟨h, hv⟩ k' v' hk'
    by_cases hkk : k' = k
    · subst hkk
      simp only [if_true, Option.or_some, Option.some.injEq] at hk'
      exact hk' ▸ hv
    · simp only [hkk, if_false, Option.none_or] at hk'
      exact h k' v' hk'

/-- In `MergeWithOverwriteAndFilter(current, filter, new)` a key has its value in `new`, or
else its value in `current` unless `filter` names it. -/
@[simp]
theorem get?_mergeWithOverwriteAndFilter (current filter new : Labels) (k : String) :
    (mergeWithOverwriteAndFilter current filter new).get? k =
      (new.get? k).or (if (filter.get? k).isNone then current.get? k else none) := by
  rw [mergeWithOverwriteAndFilter, Labels.get?_append,
    Labels.get?_filter_key current (fun x => (filter.get? x).isNone) k]

/-! ### The well-known label keys -/

/-- Modelled from the spec: `v1alpha1.NodeLabelKey`, not in the source, is the machine label
naming the machine's node ("referenced by name via a Machine label"). -/
def nodeLabelKey : String := "node"

/-- Modelled from the spec: `v1alpha1.LabelKeyMachineCandidateForUpdate`, not in the
source. -/
def labelKeyMachineCandidateForUpdate : String := "node.machine.sapcloud.io/candidate-for-update"

/-- Modelled from the spec: `v1alpha1.LabelKeyMachineSelectedForUpdate`, not in the
source. -/
def labelKeyMachineSelectedForUpdate : String := "node.machine.sapcloud.io/selected-for-update"

/-- Modelled from the spec: `v1alpha1.LabelKeyMachineUpdateSuccessful`, not in the source,
the `update-successful` label the node agent sets. -/
def labelKeyMachineUpdateSuccessful : String := "node.machine.sapcloud.io/update-successful"

/-- Modelled from the spec: `v1alpha1.LabelKeyMachineReadyForUpdate`, not in the source. -/
def labelKeyMachineReadyForUpdate : String := "node.machine.sapcloud.io/ready-for-update"

/-- Modelled from the spec: `v1alpha1.LabelKeyMachineDrainSuccessful`, not in the source. -/
def labelKeyMachineDrainSuccessful : String := "node.machine.sapcloud.io/drain-successful"

/-- Modelled from the spec: `v1alpha1.LabelKeyMachineSetSkipUpdate`, not in the source. -/
def labelKeyMachineSetSkipUpdate : String := "machine.sapcloud.io/skip-update"

/-- The keys the in-place handshake writes on machines and nodes. A selector that does not
mention them is blind to every label write of the rollout. -/
def inPlaceLabelKeys : List String :=
  [labelKeyMachineCandidateForUpdate, labelKeyMachineSelectedForUpdate,
    labelKeyMachineUpdateSuccessful, labelKeyMachineReadyForUpdate,
    labelKeyMachineDrainSuccessful]

end MachineControllerManager
