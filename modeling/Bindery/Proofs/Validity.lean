import Bindery.Catalog.Issue
import Bindery.Proofs.Identifier

/-!
# What valid descriptors satisfy

A list of names is free of issues exactly when its names are identifiers and none of
them repeats. What code relies on follows from this for each list of a descriptor.
-/

namespace Bindery

/-- Names that nothing is said against are identifiers, none of which repeats or is seen before. -/
theorem nameIssues_eq_nil {list : Section} {seen names : List String} {index : Nat} :
    nameIssues list seen index names = [] ↔
      (∀ name ∈ names, isIdentifier name = true) ∧ names.Nodup ∧ ∀ name ∈ names, name ∉ seen := by
  induction names generalizing seen index with
  | nil => simp [nameIssues]
  | cons name rest ih =>
      rw [nameIssues]
      by_cases hname : isIdentifier name = true
      · by_cases hseen : seen.contains name = true
        · simp_all
        · rw [if_neg (by simp [hname]), if_neg hseen, ih]
          simp only [List.mem_cons, not_or, List.nodup_cons]
          grind
      · simp_all

theorem parameterIssues_eq_nil {index : Nat} {ps : List Parameter} :
    parameterIssues index ps = [] ↔
      ∀ p ∈ ps, p.tag.isParameterType = true ∧ p.tag.accepts p.default = true := by
  induction ps generalizing index with
  | nil => simp [parameterIssues]
  | cons p rest ih =>
      have hissue : (p.issue? index).toList = [] ↔
          p.tag.isParameterType = true ∧ p.tag.accepts p.default = true := by
        unfold Parameter.issue?
        split
        · simp_all
        · split <;> simp_all
      rw [parameterIssues, List.append_eq_nil_iff, ih, List.forall_mem_cons, hissue]

namespace Descriptor

/-- No list of the descriptor has a name twice. -/
structure HasDistinctNames (d : Descriptor) : Prop where
  inputs : (d.inputs.map (·.name)).Nodup
  outputs : (d.outputs.map (·.name)).Nodup
  parameters : (d.parameters.map (·.name)).Nodup

/-- A descriptor is valid when its names are identifiers and distinct, it is not empty, and every
parameter has a parameter type and a default of that type. -/
theorem isValid_iff {d : Descriptor} :
    d.IsValid ↔ d.HasIdentifiers ∧ d.HasDistinctNames ∧ d.isEmpty = false ∧
      ∀ p ∈ d.parameters, p.tag.isParameterType = true ∧ p.tag.accepts p.default = true := by
  have hname : (if isIdentifier d.name then [] else [Issue.badAlgorithmName d.name]) = [] ↔
      isIdentifier d.name = true := by
    split <;> simp_all
  have hempty : (if d.isEmpty then [Issue.empty d.name] else []) = [] ↔ d.isEmpty = false := by
    split <;> simp_all
  simp only [IsValid, issues, List.append_eq_nil_iff, hname, hempty, nameIssues_eq_nil,
    parameterIssues_eq_nil, List.forall_mem_map]
  constructor
  · rintro ⟨⟨⟨⟨⟨hd, he⟩, hi, hin, -⟩, ho, hon, -⟩, hp, hpn, -⟩, htypes⟩
    exact ⟨⟨hd, hi, ho, hp⟩, ⟨hin, hon, hpn⟩, he, htypes⟩
  · rintro ⟨⟨hd, hi, ho, hp⟩, ⟨hin, hon, hpn⟩, he, htypes⟩
    simp_all

theorem IsValid.hasIdentifiers {d : Descriptor} (h : d.IsValid) : d.HasIdentifiers :=
  (isValid_iff.1 h).1

theorem IsValid.hasDistinctNames {d : Descriptor} (h : d.IsValid) : d.HasDistinctNames :=
  (isValid_iff.1 h).2.1

theorem IsValid.isParameterType {d : Descriptor} (h : d.IsValid) {p : Parameter}
    (hp : p ∈ d.parameters) : p.tag.isParameterType = true :=
  ((isValid_iff.1 h).2.2.2 p hp).1

theorem IsValid.accepts {d : Descriptor} (h : d.IsValid) {p : Parameter}
    (hp : p ∈ d.parameters) : p.tag.accepts p.default = true :=
  ((isValid_iff.1 h).2.2.2 p hp).2

end Descriptor

end Bindery
