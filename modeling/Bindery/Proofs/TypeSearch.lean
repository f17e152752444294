import Bindery.Generator
import Bindery.Proofs.FirstOccurrences
import Bindery.Proofs.Outcome

/-!
# Tags in use and the parameters that have them

A type summary and a search for a tag go over the same descriptors in ways of their own. The
summary has every tag once, at its first use, and the searches for its tags share all
parameters out among them: none is lost, and none is told twice.
-/

namespace Bindery

/-! ## Tags in use -/

namespace TypeSummary

/-- The tags of one kind of use, each once and in the order of first use. -/
structure Lists (uses : Descriptor → List Tag) (ds : List Descriptor) (tags : List Tag) : Prop where
  once : tags.Nodup
  used : ∀ tag, tag ∈ tags ↔ ∃ d ∈ ds, tag ∈ uses d
  ordered : FollowsFirst (ds.flatMap uses) tags

theorem lists_distinct (uses : Descriptor → List Tag) (ds : List Descriptor) :
    Lists uses ds (distinct (ds.flatMap uses)) where
  once := nodup_distinct _
  used tag := by rw [mem_distinct, List.mem_flatMap]
  ordered := followsFirst_distinct _

/-- The three lists of a summary are lists of tags in use. -/
structure Tells (summary : TypeSummary) (ds : List Descriptor) : Prop where
  parameters : Lists (fun d => d.parameters.map (·.tag)) ds summary.parameters
  inputs : Lists (fun d => d.inputs.map (·.tag)) ds summary.inputs
  outputs : Lists (fun d => d.outputs.map (·.tag)) ds summary.outputs

theorem tells_collect (ds : List Descriptor) : (collect ds).Tells ds :=
  ⟨lists_distinct _ ds, lists_distinct _ ds, lists_distinct _ ds⟩

/-- The summary goes on where the other one ends. -/
structure Continues (later earlier : TypeSummary) : Prop where
  parameters : earlier.parameters <+: later.parameters
  inputs : earlier.inputs <+: later.inputs
  outputs : earlier.outputs <+: later.outputs

theorem distinct_uses_append (uses : Descriptor → List Tag) (ds more : List Descriptor) :
    distinct (ds.flatMap uses) <+: distinct ((ds ++ more).flatMap uses) := by
  rw [List.flatMap_append]
  exact distinct_prefix_append _ _

/-- More descriptors add to the end of the three lists. -/
theorem continues_collect (ds more : List Descriptor) :
    (collect (ds ++ more)).Continues (collect ds) :=
  ⟨distinct_uses_append _ ds more, distinct_uses_append _ ds more, distinct_uses_append _ ds more⟩

end TypeSummary

/-! ## Searches -/

namespace ParameterMatch

variable {tag : Tag} {d : Descriptor}

theorem namesOf_eq_nil_iff : namesOf tag d = [] ↔ ¬ ∃ p ∈ d.parameters, p.tag = tag := by
  simp [namesOf, List.filter_eq_nil_iff]

theorem of?_of_mem (h : ∃ p ∈ d.parameters, p.tag = tag) :
    of? tag d = some ⟨d.name, namesOf tag d⟩ := by
  have hnames : namesOf tag d ≠ [] := fun hnil => namesOf_eq_nil_iff.1 hnil h
  rw [of?, if_neg (by simpa using hnames)]

theorem of?_of_not_mem (h : ¬ ∃ p ∈ d.parameters, p.tag = tag) : of? tag d = none := by
  rw [of?, if_pos (by simpa using namesOf_eq_nil_iff.2 h)]

end ParameterMatch

section Searches

variable {tag : Tag} {ds : List Descriptor}

theorem findParameters_eq_map (tag : Tag) (ds : List Descriptor) :
    findParameters tag ds =
      (ds.filter fun d => ∃ p ∈ d.parameters, p.tag = tag).map fun d =>
        ⟨d.name, (d.parameters.filter (·.tag = tag)).map (·.name)⟩ := by
  induction ds with
  | nil => rfl
  | cons d rest ih =>
      rw [findParameters] at ih ⊢
      by_cases h : ∃ p ∈ d.parameters, p.tag = tag
      · rw [List.filterMap_cons_some (ParameterMatch.of?_of_mem h),
          List.filter_cons_of_pos (by simpa using h), List.map_cons, ih]
        rfl
      · rw [List.filterMap_cons_none (ParameterMatch.of?_of_not_mem h),
          List.filter_cons_of_neg (by simpa using h), ih]

theorem findParameters_ne_nil :
    findParameters tag ds ≠ [] ↔ ∃ d ∈ ds, ∃ p ∈ d.parameters, p.tag = tag := by
  simp [findParameters_eq_map, List.filter_eq_nil_iff]

theorem ne_nil_of_mem_findParameters {m : ParameterMatch} (h : m ∈ findParameters tag ds) :
    m.parameters ≠ [] := by
  rw [findParameters_eq_map, List.mem_map] at h
  obtain ⟨d, hd, rfl⟩ := h
  intro hnil
  exact ParameterMatch.namesOf_eq_nil_iff.1 hnil (by simpa using (List.mem_filter.1 hd).2)

end Searches

/-! ## Every parameter is told once -/

/-- A parameter as a search tells it: with the tag that was searched for and the algorithm. -/
structure ParameterUse where
  tag : Tag
  algorithm : String
  parameter : String
deriving DecidableEq

def Descriptor.parameterUses (d : Descriptor) : List ParameterUse :=
  d.parameters.map fun p => ⟨p.tag, d.name, p.name⟩

/-- What a match says that a search for the tag has found. -/
def ParameterMatch.uses (tag : Tag) (m : ParameterMatch) : List ParameterUse :=
  m.parameters.map fun name => ⟨tag, m.algorithm, name⟩

theorem ParameterMatch.uses_namesOf (tag : Tag) (d : Descriptor) :
    uses tag ⟨d.name, namesOf tag d⟩ = d.parameterUses.filter (·.tag = tag) := by
  rw [uses, namesOf, Descriptor.parameterUses, List.filter_map, List.map_map]
  refine List.map_congr_left fun p hp => ?_
  have htag : p.tag = tag := by simpa using (List.mem_filter.1 hp).2
  simp [htag]

/-- A search for a tag tells the parameters of that tag, in the order of the descriptors. -/
theorem flatMap_uses_findParameters (tag : Tag) (ds : List Descriptor) :
    (findParameters tag ds).flatMap (·.uses tag) =
      (ds.flatMap Descriptor.parameterUses).filter (·.tag = tag) := by
  induction ds with
  | nil => rfl
  | cons d rest ih =>
      rw [findParameters] at ih ⊢
      rw [List.flatMap_cons, List.filter_append, ← ih, ← ParameterMatch.uses_namesOf]
      by_cases h : ∃ p ∈ d.parameters, p.tag = tag
      · rw [List.filterMap_cons_some (ParameterMatch.of?_of_mem h), List.flatMap_cons]
      · rw [List.filterMap_cons_none (ParameterMatch.of?_of_not_mem h),
          ParameterMatch.namesOf_eq_nil_iff.2 h]
        rfl

/-- A list is shared out among keys that have all of it and do not repeat. -/
theorem perm_flatMap_filter {α β : Type} [DecidableEq α] {key : β → α} {keys : List α} {l : List β}
    (hnodup : keys.Nodup) (hcover : ∀ b ∈ l, key b ∈ keys) :
    (keys.flatMap fun k => l.filter (key · = k)).Perm l := by
  induction keys generalizing l with
  | nil =>
      rw [List.eq_nil_iff_forall_not_mem.2 fun b hb => List.not_mem_nil (hcover b hb)]
      exact .nil
  | cons k rest ih =>
      rw [List.nodup_cons] at hnodup
      -- the other keys share out what the first one leaves
      have hrest : (rest.flatMap fun j => l.filter (key · = j)) =
          rest.flatMap fun j => (l.filter fun b => !decide (key b = k)).filter (key · = j) := by
        refine List.flatMap_congr fun j hj => ?_
        rw [List.filter_filter]
        refine List.filter_congr fun b _ => ?_
        by_cases hb : key b = j
        · have hne : j ≠ k := fun heq => hnodup.1 (heq ▸ hj)
          simp [hb, hne]
        · simp [hb]
      have hleft : ∀ b ∈ l.filter (fun b => !decide (key b = k)), key b ∈ rest := by
        intro b hb
        rw [List.mem_filter] at hb
        exact (List.mem_cons.1 (hcover b hb.1)).resolve_left (by simpa using hb.2)
      rw [List.flatMap_cons, hrest]
      exact ((ih hnodup.2 hleft).append_left _).trans (List.filter_append_perm _ l)

theorem perm_uses (ds : List Descriptor) :
    ((TypeSummary.collect ds).parameters.flatMap fun tag =>
      (findParameters tag ds).flatMap (·.uses tag)).Perm (ds.flatMap Descriptor.parameterUses) := by
  have htells := (TypeSummary.tells_collect ds).parameters
  simp only [flatMap_uses_findParameters]
  refine perm_flatMap_filter htells.once fun use huse => ?_
  obtain ⟨d, hd, huse⟩ := List.mem_flatMap.1 huse
  obtain ⟨p, hp, rfl⟩ := List.mem_map.1 huse
  exact (htells.used p.tag).2 ⟨d, hd, List.mem_map_of_mem hp⟩

theorem findParameters_ne_nil_iff_mem {tag : Tag} {ds : List Descriptor} :
    findParameters tag ds ≠ [] ↔ tag ∈ (TypeSummary.collect ds).parameters := by
  rw [findParameters_ne_nil, (TypeSummary.tells_collect ds).parameters.used]
  simp only [List.mem_map]

/-- A summary lists the tags in use at their first use and keeps them there when more descriptors
come. A search for a tag finds something exactly if the summary has the tag; it tells the
descriptors with parameters of the tag in their order, with these parameters in theirs, and over the
tags of the summary every parameter is told once. For a generator both fail in the same way. -/
theorem summary_tells_searches :
    (∀ ds, (TypeSummary.collect ds).Tells ds) ∧
    (∀ ds more, (TypeSummary.collect (ds ++ more)).Continues (TypeSummary.collect ds)) ∧
    (∀ tag ds, findParameters tag ds ≠ [] ↔ tag ∈ (TypeSummary.collect ds).parameters) ∧
    (∀ tag ds, findParameters tag ds =
      (ds.filter fun d => ∃ p ∈ d.parameters, p.tag = tag).map fun d =>
        ⟨d.name, (d.parameters.filter (·.tag = tag)).map (·.name)⟩) ∧
    (∀ tag ds, ∀ m ∈ findParameters tag ds, m.parameters ≠ []) ∧
    (∀ ds, ((TypeSummary.collect ds).parameters.flatMap fun tag =>
      (findParameters tag ds).flatMap (·.uses tag)).Perm (ds.flatMap Descriptor.parameterUses)) ∧
    ∀ (g : Generator) sel tag,
      (g.findParameters sel tag).map (fun found => decide (found ≠ [])) =
        (g.typeSummary sel).map fun summary => decide (tag ∈ summary.parameters) := by
  refine ⟨TypeSummary.tells_collect, TypeSummary.continues_collect,
    fun _ _ => findParameters_ne_nil_iff_mem, findParameters_eq_map,
    fun _ _ _ => ne_nil_of_mem_findParameters, perm_uses, fun g sel tag => ?_⟩
  rw [Generator.findParameters, Generator.typeSummary]
  cases g.descriptors sel with
  | error e => rfl
  | ok ds => exact congrArg Except.ok (decide_eq_decide.2 findParameters_ne_nil_iff_mem)

/-- Two algorithms share a name, a parameter and its foreign tag, and one has a tag twice. -/
theorem summary_tells_searches_chords :
    let chords : Descriptor := {
      name := "Chords"
      parameters := [⟨"size", .integer, "8", ""⟩, ⟨"labels", .other "map", "", ""⟩,
        ⟨"hop", .integer, "2", ""⟩] }
    let other : Descriptor := {
      name := "Chords"
      parameters := [⟨"labels", .other "map", "", ""⟩, ⟨"type", .string, "hann", ""⟩] }
    let found : ParameterMatch := ⟨"Chords", ["labels"]⟩
    (TypeSummary.collect [chords, other]).parameters = [.integer, .other "map", .string] ∧
      findParameters .bool [chords, other] = [] ∧
      found ∈ findParameters (.other "map") [chords, other] ∧ found.parameters ≠ [] ∧
      (TypeSummary.collect [chords]).parameters <+:
        (TypeSummary.collect [chords, other]).parameters := by
  intro chords other found
  obtain ⟨-, hcontinues, hfound, -, hnonempty, -⟩ := summary_tells_searches
  have hmem : found ∈ findParameters (.other "map") [chords, other] := by decide
  refine ⟨by decide, ?_, hmem, hnonempty _ _ found hmem, (hcontinues [chords] [other]).parameters⟩
  exact not_not.1 (mt (hfound .bool [chords, other]).1 (by decide))

end Bindery
