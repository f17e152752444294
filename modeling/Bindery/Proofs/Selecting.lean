import Bindery.Catalog.Selection
import Bindery.Proofs.FirstOccurrences

/-!
# What a selection resolves to

A selection is two lists, and all that counts of the second is which of the names in the
first it has. What is resolved is told by that: which names, and in which order.
-/

namespace Bindery.Selection

variable {s : Selection} {name : String}

/-- The selection without any exclusion of a name. -/
def sparing (name : String) (s : Selection) : Selection :=
  { s with excluded := s.excluded.filter (· ≠ name) }

/-! ## Resolved names -/

/-- Repetitions may be left out before the exclusions are. -/
theorem resolve_eq_filter (s : Selection) :
    s.resolve = (distinct s.included).filter (· ∉ s.excluded) := by
  rw [resolve, distinct_filter]
  refine List.filter_congr fun name _ => ?_
  simp

theorem followsFirst_resolve (s : Selection) : FollowsFirst s.included s.resolve := by
  rw [resolve_eq_filter]
  exact (followsFirst_distinct s.included).filter _

/-- Exclusions that leave out the same of the included names come to the same. -/
theorem resolve_congr {excluded : List String}
    (h : ∀ name ∈ s.included, name ∈ excluded ↔ name ∈ s.excluded) :
    resolve ⟨s.included, excluded⟩ = s.resolve := by
  rw [resolve_eq_filter, resolve_eq_filter]
  refine List.filter_congr fun name hname => ?_
  simp only [h name (mem_distinct.1 hname)]

theorem resolve_all {names : List String} (h : names.Nodup) : (all names).resolve = names := by
  rw [resolve_eq_filter]
  simp [all, distinct_of_nodup h]

/-! ## Exclusions without effect -/

theorem mem_unusedExclusions :
    name ∈ s.unusedExclusions ↔ name ∈ s.excluded ∧ name ∉ s.included := by
  simp [unusedExclusions]

theorem resolve_without_unused (s : Selection) :
    resolve ⟨s.included, s.excluded.filter (· ∉ s.unusedExclusions)⟩ = s.resolve := by
  apply resolve_congr
  intro name hname
  simp [mem_unusedExclusions, hname]

/-- An exclusion has no effect exactly if its name is not included. -/
theorem resolve_sparing_iff (h : name ∈ s.excluded) :
    (s.sparing name).resolve = s.resolve ↔ name ∉ s.included := by
  constructor
  · intro heq hname
    have hkept : name ∈ (s.sparing name).resolve := by
      simp [mem_resolve, sparing, hname]
    rw [heq, mem_resolve] at hkept
    exact hkept.2 h
  · intro hname
    refine resolve_congr fun n hn => ?_
    have hne : n ≠ name := fun heq => hname (heq ▸ hn)
    simp [hne]

/-- A selection is resolved to one list, which is told by its names and their order: what it takes
of the exclusions is which of the included names they have, and what it takes of the inclusions is
where a name occurs first. The exclusions without effect are those that make no difference to the
list when all of their name are taken back. -/
theorem selection_resolved (s : Selection) :
    (∀ names, names = s.resolve ↔ names.Nodup ∧
      (∀ name, name ∈ names ↔ name ∈ s.included ∧ name ∉ s.excluded) ∧
        FollowsFirst s.included names) ∧
    (∀ excluded, (∀ name, name ∈ excluded ↔ name ∈ s.excluded) →
      resolve ⟨s.included, excluded⟩ = s.resolve) ∧
    resolve ⟨s.included, s.excluded.filter (· ∉ s.unusedExclusions)⟩ = s.resolve ∧
    (∀ before after name, s.included = before ++ after → name ∈ before →
      resolve ⟨before ++ name :: after, s.excluded⟩ = s.resolve) ∧
    (all s.resolve).resolve = s.resolve ∧
    s.unusedExclusions =
      s.excluded.filter fun name => decide ((s.sparing name).resolve = s.resolve) := by
  refine ⟨fun names => ⟨?_, ?_⟩, ?_, s.resolve_without_unused, ?_, resolve_all s.nodup_resolve, ?_⟩
  · rintro rfl
    exact ⟨s.nodup_resolve, fun _ => mem_resolve, s.followsFirst_resolve⟩
  · rintro ⟨-, hmem, hfollows⟩
    refine hfollows.eq_of_mem_iff s.followsFirst_resolve fun name => ?_
    rw [hmem, mem_resolve]
  · intro excluded h
    exact resolve_congr fun name _ => h name
  · intro before after name hincluded hname
    rw [resolve_eq_filter, resolve_eq_filter, hincluded, distinct_repeat hname]
  · refine List.filter_congr fun name hname => ?_
    simp [resolve_sparing_iff hname]

/-- Names that repeat in both lists, one of them excluded in vain. -/
theorem selection_resolved_windowing :
    let s : Selection :=
      ⟨["MFCC", "Windowing", "MFCC", "Energy"], ["Loudness", "Energy", "Loudness"]⟩
    s.resolve = ["MFCC", "Windowing"] ∧
      resolve ⟨s.included, ["Energy", "Energy", "Loudness"]⟩ = s.resolve ∧
      resolve ⟨s.included, ["Energy"]⟩ = s.resolve ∧
      resolve ⟨["MFCC", "Windowing", "MFCC", "Windowing", "Energy"], s.excluded⟩ = s.resolve ∧
      s.unusedExclusions = ["Loudness", "Loudness"] := by
  intro s
  obtain ⟨hunique, hexcluded, hunused, hrepeated, -, hsparing⟩ := selection_resolved s
  have hfollows : FollowsFirst s.included ["MFCC", "Windowing"] := by
    simp [FollowsFirst, s, List.idxOf_cons]
  refine ⟨((hunique _).2 ⟨by decide, fun name => ?_, hfollows⟩).symm,
    hexcluded _ fun name => ?_, hunused,
    hrepeated ["MFCC", "Windowing", "MFCC"] _ _ rfl (by decide), hsparing.trans (by decide)⟩
  · simp only [s, List.mem_cons, List.not_mem_nil, or_false]
    grind
  · simp only [s, List.mem_cons, List.not_mem_nil, or_false]
    grind

end Bindery.Selection
