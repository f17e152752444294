import Bindery.Proofs.Validity
import Mathlib.Data.List.Nodup

/-!
# What a validation finds

A validation walks through each list with the identifiers that it has seen. What it
finds can be said without the walk: an entry is at fault for its own name, or for the
name of an earlier entry. No place is told twice.
-/

namespace Bindery

/-- A fault as it is told: a code, and where it is unless it is the whole descriptor. -/
structure Finding where
  code : String
  path? : Option String
deriving Repr, DecidableEq

def Issue.finding (x : Issue) : Finding := ⟨x.code, x.path?⟩

/-- The fault of a name at its index among the names of a list, `duplicate` being the code of names
that an earlier index has. -/
def nameFinding? (list duplicate : String) (names : List String) (entry : String × Nat) :
    Option Finding :=
  let path := list ++ "[" ++ toString entry.2 ++ "].name"
  if isIdentifier entry.1 = false then some ⟨"D001", some path⟩
  else if entry.1 ∈ names.take entry.2 then some ⟨duplicate, some path⟩
  else none

def nameFindings (list duplicate : String) (names : List String) : List Finding :=
  names.zipIdx.filterMap (nameFinding? list duplicate names)

/-- The fault of a parameter at its index. -/
def parameterFinding? (entry : Parameter × Nat) : Option Finding :=
  let place := "parameters[" ++ toString entry.2
  if entry.1.tag.isParameterType = false then some ⟨"D006", some (place ++ "].type")⟩
  else if entry.1.tag.accepts entry.1.default = false then
    some ⟨"D005", some (place ++ "].default")⟩
  else none

/-- The faults of a descriptor in order. -/
def Descriptor.findings (d : Descriptor) : List Finding :=
  (if isIdentifier d.name then [] else [⟨"D001", some "name"⟩]) ++
  (if d.inputs = [] ∧ d.outputs = [] ∧ d.parameters = [] then [⟨"D007", none⟩] else []) ++
  nameFindings "inputs" "D002" (d.inputs.map (·.name)) ++
  nameFindings "outputs" "D003" (d.outputs.map (·.name)) ++
  nameFindings "parameters" "D004" (d.parameters.map (·.name)) ++
  d.parameters.zipIdx.filterMap parameterFinding?

/-! ## The walks through the lists -/

/-- The code of a name that repeats. -/
def Section.duplicate : Section → String
  | .inputs => "D002"
  | .outputs => "D003"
  | .parameters => "D004"

@[simp] theorem finding_badName (name : String) (list : Section) (i : Nat) :
    (Issue.badName name list i).finding =
      ⟨"D001", some (list.name ++ "[" ++ toString i ++ "].name")⟩ := by
  simp [Issue.finding, Issue.code, Issue.path?, Issue.memberPath, ← String.toList_inj]

@[simp] theorem finding_repeatedName (name : String) (list : Section) (i : Nat) :
    (Issue.repeatedName name list i).finding =
      ⟨list.duplicate, some (list.name ++ "[" ++ toString i ++ "].name")⟩ := by
  cases list <;> simp [Issue.finding, Issue.code, Issue.path?, Issue.memberPath,
    Section.duplicate, ← String.toList_inj]

/-- What the walk has seen are the identifiers before the index, and of the names before it only
those can be met again. -/
theorem map_finding_nameIssues {list : Section} (before : List String) {rest seen : List String}
    (hseen : ∀ name, isIdentifier name = true → (name ∈ seen ↔ name ∈ before)) :
    (nameIssues list seen before.length rest).map Issue.finding =
      (rest.zipIdx before.length).filterMap
        (nameFinding? list.name list.duplicate (before ++ rest)) := by
  induction rest generalizing before seen with
  | nil => rfl
  | cons name rest ih =>
      have hnext : ∀ seen', (∀ n, isIdentifier n = true → (n ∈ seen' ↔ n ∈ before ++ [name])) →
          (nameIssues list seen' (before.length + 1) rest).map Issue.finding =
            (rest.zipIdx (before.length + 1)).filterMap
              (nameFinding? list.name list.duplicate (before ++ name :: rest)) := by
        intro seen' hseen'
        have hrest := ih (before ++ [name]) hseen'
        rwa [List.length_append, List.length_singleton, List.append_assoc,
          List.singleton_append] at hrest
      -- A name that is met before, or no identifier, is as good as not met.
      have hsame (hname : isIdentifier name = true → name ∈ before) :=
        hnext seen fun n hn => by
          rw [hseen n hn, List.mem_append, List.mem_singleton, or_iff_left_of_imp]
          rintro rfl
          exact hname hn
      rw [nameIssues, List.zipIdx_cons, List.filterMap_cons]
      by_cases hname : isIdentifier name = true
      · by_cases hmem : name ∈ before
        · simp [hname, hmem, (hseen name hname).2 hmem, hsame fun _ => hmem, nameFinding?]
        · have hmore := hnext (name :: seen) fun n hn => by
            rw [List.mem_cons, hseen n hn, List.mem_append, List.mem_singleton, or_comm]
          have hnot : name ∉ seen := fun h => hmem ((hseen name hname).1 h)
          simp [hname, hmem, hnot, hmore, nameFinding?]
      · simp [hname, hsame fun h => absurd h hname, nameFinding?]

theorem nameIssues_findings (list : Section) (names : List String) :
    (nameIssues list [] 0 names).map Issue.finding =
      nameFindings list.name list.duplicate names :=
  map_finding_nameIssues [] fun _ _ => Iff.rfl

theorem map_finding_issue? (p : Parameter) (i : Nat) :
    (p.issue? i).map Issue.finding = parameterFinding? (p, i) := by
  unfold Parameter.issue? parameterFinding?
  cases p.tag.isParameterType with
  | false =>
      simp [Issue.finding, Issue.code, Issue.path?, Issue.memberPath, Section.name,
        ← String.toList_inj]
  | true =>
      cases p.tag.accepts p.default with
      | false =>
          simp [Issue.finding, Issue.code, Issue.path?, Issue.memberPath, Section.name,
            ← String.toList_inj]
      | true => rfl

theorem parameterIssues_findings (index : Nat) (ps : List Parameter) :
    (parameterIssues index ps).map Issue.finding =
      (ps.zipIdx index).filterMap parameterFinding? := by
  induction ps generalizing index with
  | nil => rfl
  | cons p rest ih =>
      rw [parameterIssues, List.map_append, ih, List.zipIdx_cons, List.filterMap_cons,
        ← map_finding_issue?]
      cases p.issue? index <;> rfl

theorem Descriptor.isEmpty_eq_true {d : Descriptor} :
    d.isEmpty = true ↔ d.inputs = [] ∧ d.outputs = [] ∧ d.parameters = [] := by
  simp [isEmpty, and_assoc]

theorem issues_findings (d : Descriptor) : d.issues.map Issue.finding = d.findings := by
  simp only [Descriptor.issues, Descriptor.findings, List.map_append, nameIssues_findings,
    parameterIssues_findings, Descriptor.isEmpty_eq_true]
  congr 5
  · split <;> rfl
  · split <;> rfl

/-! ## Places -/

/-- Where a fault can be. -/
inductive Place where
  | name
  | whole
  | member (list : Section) (index : Nat) (member : String)

namespace Place

def path? : Place → Option String
  | .name => some "name"
  | .whole => none
  | .member list index m => some (Issue.memberPath list index m)

end Place

def Issue.place : Issue → Place
  | badAlgorithmName _ => .name
  | empty _ => .whole
  | badName _ list index => .member list index "name"
  | repeatedName _ list index => .member list index "name"
  | unsupportedType _ _ index => .member .parameters index "type"
  | badDefault _ _ _ index => .member .parameters index "default"

theorem Issue.path?_place (x : Issue) : x.place.path? = x.path? := by
  cases x <;> rfl

theorem isWord_section (list : Section) : IsWord list.name.toList :=
  isWord_of_isIdentifier (by cases list <;> decide)

theorem isWord_toString (n : Nat) : IsWord (toString n).toList := by
  intro c hc
  have hdigit : c.isDigit = true :=
    Nat.isDigit_of_mem_toDigits (by decide) (by decide) (Nat.toList_repr ▸ hc)
  rw [continuesIdentifier, Bool.or_eq_true]
  exact .inr (by simpa [Char.isDigit, Char.le_def] using hdigit)

theorem toString_nat_inj {i j : Nat} (h : (toString i).toList = (toString j).toList) : i = j := by
  have hdigits : Nat.toDigits 10 i = Nat.toDigits 10 j := by
    rw [← Nat.toList_repr, ← Nat.toList_repr]
    exact h
  calc
    i = Nat.ofDigitChars 10 (Nat.toDigits 10 i) 0 :=
      (Nat.ofDigitChars_toDigits (by decide) (by decide)).symm
    _ = Nat.ofDigitChars 10 (Nat.toDigits 10 j) 0 := by rw [hdigits]
    _ = j := Nat.ofDigitChars_toDigits (by decide) (by decide)

/-- A path tells the list, the index and the member. -/
theorem memberPath_inj {list list' : Section} {i i' : Nat} {m m' : String}
    (h : Issue.memberPath list i m = Issue.memberPath list' i' m') :
    list = list' ∧ i = i' ∧ m = m' := by
  have htext := congrArg String.toList h
  simp only [Issue.memberPath, String.toList_append, List.append_assoc] at htext
  obtain ⟨hlist, -, hrest⟩ := IsWord.append_inj (isWord_section list) (isWord_section list')
    (by decide) (by decide) htext
  obtain ⟨hi, -, hm⟩ := IsWord.append_inj (isWord_toString i) (isWord_toString i')
    (by decide) (by decide) hrest
  refine ⟨?_, toString_nat_inj hi, String.toList_inj.1 ?_⟩
  · cases list <;> cases list' <;> first | rfl | exact absurd hlist (by decide)
  · simpa using hm

theorem Place.path?_injective : Function.Injective Place.path? := by
  have hname (list : Section) (i : Nat) (m : String) : Issue.memberPath list i m ≠ "name" := by
    intro h
    have hmark : '[' ∈ (Issue.memberPath list i m).toList := by simp [Issue.memberPath]
    rw [h] at hmark
    exact absurd hmark (by decide)
  intro x y h
  cases x with
  | name =>
      cases y with
      | name => rfl
      | whole => cases h
      | member list i m => exact absurd (Option.some.inj h).symm (hname list i m)
  | whole =>
      cases y with
      | name => cases h
      | whole => rfl
      | member list i m => cases h
  | member list i m =>
      cases y with
      | name => exact absurd (Option.some.inj h) (hname list i m)
      | whole => cases h
      | member list' i' m' =>
          obtain ⟨rfl, rfl, rfl⟩ := memberPath_inj (Option.some.inj h)
          rfl

/-- The places of the names of a list from `index` on. -/
def namePlaces (list : Section) (index : Nat) (names : List String) : List Place :=
  (List.range' index names.length).map fun i => .member list i "name"

def parameterPlaces (index : Nat) (ps : List Parameter) : List Place :=
  (List.range' index ps.length).flatMap fun i =>
    [.member .parameters i "type", .member .parameters i "default"]

/-- Every place that a validation looks at, in its order. -/
def Descriptor.places (d : Descriptor) : List Place :=
  [.name] ++ [.whole] ++ namePlaces .inputs 0 (d.inputs.map (·.name)) ++
  namePlaces .outputs 0 (d.outputs.map (·.name)) ++
  namePlaces .parameters 0 (d.parameters.map (·.name)) ++
  parameterPlaces 0 d.parameters

theorem mem_namePlaces {list : Section} {index : Nat} {names : List String} {x : Place}
    (hx : x ∈ namePlaces list index names) : ∃ i, x = .member list i "name" := by
  obtain ⟨i, -, rfl⟩ := List.mem_map.1 hx
  exact ⟨i, rfl⟩

theorem mem_parameterPlaces {index : Nat} {ps : List Parameter} {x : Place}
    (hx : x ∈ parameterPlaces index ps) :
    ∃ i, x = .member .parameters i "type" ∨ x = .member .parameters i "default" := by
  obtain ⟨i, -, hi⟩ := List.mem_flatMap.1 hx
  exact ⟨i, by simpa using hi⟩

theorem nodup_namePlaces (list : Section) (index : Nat) (names : List String) :
    (namePlaces list index names).Nodup := by
  refine List.Nodup.map (fun i j h => ?_) List.nodup_range'
  cases h
  rfl

theorem nodup_parameterPlaces (index : Nat) (ps : List Parameter) :
    (parameterPlaces index ps).Nodup := by
  rw [parameterPlaces, List.nodup_flatMap]
  refine ⟨fun i _ => by simp, List.Pairwise.imp (fun hne => ?_) List.nodup_range'⟩
  simp [Function.onFun, List.disjoint_left, hne]

theorem nodup_places (d : Descriptor) : d.places.Nodup := by
  simp only [Descriptor.places, List.nodup_append, nodup_namePlaces, nodup_parameterPlaces]
  grind [mem_namePlaces, mem_parameterPlaces]

theorem sublist_nameIssues (list : Section) (seen : List String) (index : Nat)
    (names : List String) :
    ((nameIssues list seen index names).map Issue.place).Sublist (namePlaces list index names) := by
  induction names generalizing seen index with
  | nil => exact .slnil
  | cons name rest ih =>
      rw [nameIssues, namePlaces, List.length_cons, List.range'_succ, List.map_cons]
      split
      · exact (ih _ _).cons_cons _
      · split
        · exact (ih _ _).cons_cons _
        · exact (ih _ _).cons _

theorem sublist_parameterIssues (index : Nat) (ps : List Parameter) :
    ((parameterIssues index ps).map Issue.place).Sublist (parameterPlaces index ps) := by
  induction ps generalizing index with
  | nil => exact .slnil
  | cons p rest ih =>
      rw [parameterIssues, parameterPlaces, List.length_cons, List.range'_succ, List.flatMap_cons,
        List.map_append]
      refine List.Sublist.append ?_ (ih _)
      unfold Parameter.issue?
      split
      · exact .cons_cons _ (List.nil_sublist _)
      · split
        · exact .cons _ (List.Sublist.refl _)
        · exact List.nil_sublist _

theorem sublist_issues (d : Descriptor) : (d.issues.map Issue.place).Sublist d.places := by
  simp only [Descriptor.issues, Descriptor.places, List.map_append]
  refine .append (.append (.append (.append (.append ?_ ?_) ?_) ?_) ?_) ?_
  · split
    · exact List.nil_sublist _
    · exact List.Sublist.refl _
  · split
    · exact List.Sublist.refl _
    · exact List.nil_sublist _
  · exact sublist_nameIssues ..
  · exact sublist_nameIssues ..
  · exact sublist_nameIssues ..
  · exact sublist_parameterIssues ..

theorem nodup_paths (d : Descriptor) : (d.issues.map Issue.path?).Nodup := by
  have hplaces := (sublist_issues d).nodup (nodup_places d)
  have hpaths := hplaces.map Place.path?_injective
  simpa only [List.map_map, Function.comp_def, Issue.path?_place] using hpaths

/-- A validation finds nothing exactly in a descriptor that says something, with identifiers that
are distinct within each list, and with parameters of parameter types and their defaults. Otherwise
it finds the fault of every entry in its place, and no fault twice. -/
theorem validation_findings (d : Descriptor) :
    (d.IsValid ↔ isIdentifier d.name = true ∧
      ¬ (d.inputs = [] ∧ d.outputs = [] ∧ d.parameters = []) ∧
      (∀ names ∈ [d.inputs.map (·.name), d.outputs.map (·.name), d.parameters.map (·.name)],
        (∀ name ∈ names, isIdentifier name = true) ∧ names.Nodup) ∧
      ∀ p ∈ d.parameters, p.tag.isParameterType = true ∧ p.tag.accepts p.default = true) ∧
    d.issues.map Issue.finding = d.findings ∧
    (d.issues.map Issue.finding).Nodup := by
  refine ⟨?_, issues_findings d, ?_⟩
  · rw [Descriptor.isValid_iff, ← Bool.not_eq_true, Descriptor.isEmpty_eq_true]
    simp only [List.forall_mem_cons, List.forall_mem_map]
    constructor
    · rintro ⟨hids, hdistinct, hempty, htypes⟩
      exact ⟨hids.name, hempty, ⟨⟨hids.inputs, hdistinct.inputs⟩,
        ⟨hids.outputs, hdistinct.outputs⟩, ⟨hids.parameters, hdistinct.parameters⟩, by simp⟩,
        htypes⟩
    · rintro ⟨hname, hempty, ⟨⟨hi, hin⟩, ⟨ho, hon⟩, ⟨hp, hpn⟩, -⟩, htypes⟩
      exact ⟨⟨hname, hi, ho, hp⟩, ⟨hin, hon, hpn⟩, hempty, htypes⟩
  · refine List.Nodup.of_map Finding.path? ?_
    rw [List.map_map]
    exact nodup_paths d

/-- Names that are no identifiers are not counted among those that repeat. -/
example :
    let d : Descriptor := {
      name := "Mix"
      inputs := [⟨"left", .vectorReal, ""⟩, ⟨"1st", .vectorReal, ""⟩, ⟨"left", .vectorReal, ""⟩,
        ⟨"1st", .vectorReal, ""⟩] }
    d.issues.map Issue.finding = [⟨"D001", some "inputs[1].name"⟩,
      ⟨"D002", some "inputs[2].name"⟩, ⟨"D001", some "inputs[3].name"⟩] := by
  rfl

end Bindery
