import Bindery.Proofs.Computation
import Mathlib.Data.List.Nodup

/-!
# Variables that meet

Native code has a variable for every input and every output, one for the handle and one
for the result. Each is called by joining two names, and joined names can be the same
although no two of the names are. What has to be excluded is the same in all cases: a
name that goes on where a prefix ends.
-/

namespace Bindery

/-! ## Joined names -/

/-- Two joined names are one when the longer prefix takes the difference from its own name. -/
theorem join_eq_join_iff {p q x y : String} :
    p ++ x = q ++ y ↔
      (∃ w, q = p ++ w ∧ x = w ++ y) ∨ ∃ w, p = q ++ w ∧ y = w ++ x := by
  constructor
  · intro h
    simp only [← String.toList_inj, String.toList_append, List.append_eq_append_iff] at h
    rcases h with ⟨w, hq, hx⟩ | ⟨w, hp, hy⟩
    · exact .inl ⟨String.ofList w, by simp [← String.toList_inj, hq],
        by simp [← String.toList_inj, hx]⟩
    · exact .inr ⟨String.ofList w, by simp [← String.toList_inj, hp],
        by simp [← String.toList_inj, hy]⟩
  · rintro (⟨w, rfl, rfl⟩ | ⟨w, rfl, rfl⟩) <;> rw [String.append_assoc]

theorem isIdentifier_append {w x : String} (hw : isIdentifier w = true) (hx : IsWord x.toList) :
    isIdentifier (w ++ x) = true := by
  obtain ⟨c, rest, hlist, hc⟩ := exists_cons_of_isIdentifier hw
  have hrest : ∀ d ∈ rest, continuesIdentifier d = true := by
    intro d hd
    exact isWord_of_isIdentifier hw d (hlist ▸ List.mem_cons_of_mem c hd)
  simp only [isIdentifier, String.toList_append, hlist, List.cons_append, isIdentifierText, hc,
    Bool.true_and, List.all_append, Bool.and_eq_true, List.all_eq_true]
  exact ⟨hrest, hx⟩

/-- What an identifier begins with is an identifier. -/
theorem isIdentifier_of_append {w x : String} (h : isIdentifier (w ++ x) = true) (hw : w ≠ "") :
    isIdentifier w = true := by
  cases hlist : w.toList with
  | nil => exact absurd (String.toList_eq_nil_iff.1 hlist) hw
  | cons c rest =>
      simp only [isIdentifier, String.toList_append, hlist, List.cons_append, isIdentifierText,
        List.all_append, Bool.and_eq_true] at h ⊢
      exact ⟨h.1, h.2.1⟩

/-- Where identifiers meet behind different texts, one text is the other with an identifier behind
it. -/
theorem exists_identifier_of_join_eq {p q x y : String} (hne : p ≠ q)
    (hx : isIdentifier x = true) (hy : isIdentifier y = true) (h : p ++ x = q ++ y) :
    ∃ w, isIdentifier w = true ∧ (q = p ++ w ∨ p = q ++ w) := by
  have hrest : ∀ {u v w : String}, u ≠ v → u = v ++ w → w ≠ "" := by
    rintro u v w huv rfl rfl
    exact huv (String.append_empty)
  rcases join_eq_join_iff.1 h with ⟨w, hq, rfl⟩ | ⟨w, hp, rfl⟩
  · exact ⟨w, isIdentifier_of_append hx (hrest hne.symm hq), .inl hq⟩
  · exact ⟨w, isIdentifier_of_append hy (hrest hne hp), .inr hp⟩

/-! ## Inputs and outputs -/

/-- Whatever valid descriptor code is written for, no input shares its variable with an output. -/
def Settings.KeepsApart (s : Settings) : Prop :=
  ∀ d a, d.IsValid → Algorithm.ofDescriptor s d = .ok a →
    ∀ i ∈ a.inputs, ∀ o ∈ a.outputs, i.ident ≠ o.ident

theorem Settings.IsValid.inputPrefix_ne {s : Settings} (h : s.IsValid) :
    s.inputPrefix ≠ s.outputPrefix := by
  intro heq
  simp only [IsValid, fault?, heq, or_self, if_true] at h
  split at h <;> cases h

/-- One input and one output. -/
def meeting (input output : String) : Descriptor where
  name := "Meeting"
  inputs := [⟨input, .real, ""⟩]
  outputs := [⟨output, .real, ""⟩]

theorem isValid_meeting {input output : String} (hinput : isIdentifier input = true)
    (houtput : isIdentifier output = true) : (meeting input output).IsValid := by
  have hname : isIdentifier "Meeting" = true := by decide
  refine Descriptor.isValid_iff.2 ⟨⟨hname, ?_, ?_, ?_⟩, ⟨?_, ?_, ?_⟩, rfl, ?_⟩
  all_goals simp [meeting, hinput, houtput]

theorem Settings.KeepsApart.ne {s : Settings} (h : s.KeepsApart) {input output : String}
    (hinput : isIdentifier input = true) (houtput : isIdentifier output = true) :
    s.inputPrefix ++ input ≠ s.outputPrefix ++ output :=
  h (meeting input output) _ (isValid_meeting hinput houtput) rfl _ List.mem_cons_self _
    List.mem_cons_self

/-- Prefixes that differ keep inputs and outputs apart exactly when neither is the other with an
identifier behind it. -/
theorem keepsApart_iff {s : Settings} (hs : s.IsValid) :
    s.KeepsApart ↔ ∀ w, isIdentifier w = true →
      s.outputPrefix ≠ s.inputPrefix ++ w ∧ s.inputPrefix ≠ s.outputPrefix ++ w := by
  have hne := hs.inputPrefix_ne
  constructor
  · intro h w hw
    have hlonger : isIdentifier (w ++ "x") = true :=
      isIdentifier_append hw (List.all_eq_true.1 (by decide))
    have hshort : isIdentifier "x" = true := by decide
    constructor
    · intro heq
      exact h.ne hlonger hshort (join_eq_join_iff.2 (.inl ⟨w, heq, rfl⟩))
    · intro heq
      exact h.ne hshort hlonger (join_eq_join_iff.2 (.inr ⟨w, heq, rfl⟩))
  · intro h d a hd ha i hi o ho heq
    have hids := hd.hasIdentifiers
    obtain ⟨-, rfl⟩ := Algorithm.ofDescriptor_eq_ok.1 ha
    obtain ⟨p, hp, rfl⟩ := List.mem_map.1 hi
    obtain ⟨q, hq, rfl⟩ := List.mem_map.1 ho
    obtain ⟨w, hw, houtput | hinput⟩ :=
      exists_identifier_of_join_eq hne (hids.inputs p hp) (hids.outputs q hq) heq
    · exact (h w hw).1 houtput
    · exact (h w hw).2 hinput

/-- One prefix may begin with the other where no name can fill the difference. -/
theorem keepsApart_digit :
    let s : Settings := { inputPrefix := "in", outputPrefix := "in2" }
    s.IsValid ∧ s.KeepsApart := by
  intro s
  have hs : s.IsValid := by decide
  refine ⟨hs, (keepsApart_iff hs).2 fun w hw => ⟨?_, ?_⟩⟩
  · intro heq
    have hjoin : "in" ++ "2" = "in" ++ w := heq
    rw [← (String.append_right_inj "in").1 hjoin] at hw
    exact absurd hw (by decide)
  · intro heq
    have hlength := congrArg String.length heq
    rw [String.length_append] at hlength
    exact absurd hlength (Nat.ne_of_lt (Nat.lt_add_right _ (by decide)))

/-- Prefixes that are accepted although they do not keep an input and an output apart. The
function that computes declares its own argument. -/
theorem prefixes_meet :
    let s : Settings := { inputPrefix := "in_", outputPrefix := "in_out_" }
    let d : Descriptor := {
      name := "Mixer", inputs := [⟨"out_gain", .real, ""⟩], outputs := [⟨"gain", .real, ""⟩] }
    s.IsValid ∧ d.IsValid ∧ ∃ a x, Algorithm.ofDescriptor s d = .ok a ∧
      emit .definition a s = .ok x ∧ (∃ i ∈ a.inputs, ∃ o ∈ a.outputs, i.ident = o.ident) ∧
      "val Mixer::compute(float in_out_gain) \x7b" ∈ x.lines ∧
      "\tfloat in_out_gain;" ∈ x.lines := by
  intro s d
  refine ⟨by decide, by decide, _, _, rfl, rfl, ?_, ?_, ?_⟩ <;> decide

/-! ## All variables of a class -/

namespace Native

/-- No name of a method hides another one. -/
structure CapturesNothing (a : Algorithm) : Prop where
  /-- The handle is not a parameter, of the constructor or of `configure`. -/
  handle : a.handle ∉ parameterNames a
  /-- What `compute` names are different variables. -/
  distinct : (variableNames a).Nodup

variable {s : Settings} {d : Descriptor} {a : Algorithm}

theorem nodup_idents (before : String) {ps : List Pin} (h : (ps.map (·.name)).Nodup) :
    ((ps.map (Algorithm.slot before)).map (·.ident)).Nodup := by
  have hjoined : (ps.map (Algorithm.slot before)).map (·.ident) =
      (ps.map (·.name)).map (before ++ ·) := by
    simp only [List.map_map]
    rfl
  rw [hjoined]
  exact List.Nodup.map (fun _ _ => (String.append_right_inj before).1) h

/-- Variables for one list of a valid descriptor are different. What remains is that variables of
different kinds are. -/
theorem nodup_variableNames_iff (hd : d.IsValid) (ha : Algorithm.ofDescriptor s d = .ok a) :
    (variableNames a).Nodup ↔
      s.handle d.name ≠ "output" ++ d.name ∧
      (∀ i ∈ d.inputs, s.inputPrefix ++ i.name ≠ s.handle d.name ∧
        s.inputPrefix ++ i.name ≠ "output" ++ d.name) ∧
      (∀ o ∈ d.outputs, s.outputPrefix ++ o.name ≠ s.handle d.name ∧
        s.outputPrefix ++ o.name ≠ "output" ++ d.name) ∧
      ∀ i ∈ d.inputs, ∀ o ∈ d.outputs, s.inputPrefix ++ i.name ≠ s.outputPrefix ++ o.name := by
  have hinputs := nodup_idents s.inputPrefix hd.hasDistinctNames.inputs
  have houtputs := nodup_idents s.outputPrefix hd.hasDistinctNames.outputs
  obtain ⟨-, rfl⟩ := Algorithm.ofDescriptor_eq_ok.1 ha
  simp only [variableNames, resultName, Algorithm.name, List.nodup_cons, List.nodup_append,
    List.mem_cons, List.mem_append, not_or, hinputs, houtputs]
  simp only [List.map_map, List.mem_map, Function.comp_def, Algorithm.slot]
  grind

/-- With the usual names an algorithm captures nothing unless a parameter is called like the handle,
or an output like the algorithm less an underscore. -/
theorem capturesNothing_iff (hd : d.IsValid) (ha : Algorithm.ofDescriptor {} d = .ok a) :
    CapturesNothing a ↔
      (∀ p ∈ d.parameters, p.name ≠ "_" ++ Text.lowerCase d.name) ∧
        ∀ o ∈ d.outputs, d.name ≠ "_" ++ o.name := by
  have hhandle : a.handle ∉ parameterNames a ↔
      ∀ p ∈ d.parameters, p.name ≠ "_" ++ Text.lowerCase d.name := by
    obtain ⟨-, rfl⟩ := Algorithm.ofDescriptor_eq_ok.1 ha
    simp [parameterNames, Algorithm.parameters, Settings.handle]
  have hresult : ∀ o : Pin, "output_" ++ o.name = "output" ++ d.name ↔ d.name = "_" ++ o.name := by
    intro o
    have hsplit : "output_" = "output" ++ "_" := by decide
    rw [hsplit, String.append_assoc, String.append_right_inj, eq_comm]
  -- all other pairs of variables differ in the character they begin with
  have hdistinct : (variableNames a).Nodup ↔ ∀ o ∈ d.outputs, d.name ≠ "_" ++ o.name := by
    simp only [nodup_variableNames_iff hd ha, Settings.handle, ne_eq, hresult]
    simp [← String.toList_inj]
  constructor
  · intro h
    exact ⟨hhandle.1 h.handle, hdistinct.1 h.distinct⟩
  · intro h
    exact ⟨hhandle.2 h.1, hdistinct.2 h.2⟩

/-- Upper case keeps the algorithm from its output, and its underscore keeps the handle from the
parameter. -/
theorem capturesNothing_upper_case :
    let d : Descriptor := {
      name := "_Gain"
      inputs := [⟨"Gain", .vectorReal, ""⟩]
      outputs := [⟨"gain", .real, ""⟩]
      parameters := [⟨"_gain", .real, "1", ""⟩] }
    d.IsValid ∧ ∃ a, Algorithm.ofDescriptor {} d = .ok a ∧ CapturesNothing a := by
  intro d
  have hd : d.IsValid := by decide
  exact ⟨hd, _, rfl, (capturesNothing_iff hd rfl).2 ⟨by decide, by decide⟩⟩

/-- Valid descriptors with the usual names whose code captures one: a constructor that assigns to its
parameter, and a function that declares its result under the name of an output. -/
theorem names_captured :
    let energy : Descriptor := {
      name := "Energy"
      outputs := [⟨"energy", .real, ""⟩]
      parameters := [⟨"_energy", .real, "1", ""⟩] }
    let gain : Descriptor := { name := "_gain", outputs := [⟨"gain", .real, ""⟩] }
    (energy.IsValid ∧ ∃ a x, Algorithm.ofDescriptor {} energy = .ok a ∧
      emit .definition a {} = .ok x ∧ a.handle ∈ parameterNames a ∧
      "Energy::Energy(const float _energy) \x7b" ∈ x.lines ∧
      "\t_energy = AlgorithmFactory::create(\"Energy\", \"_energy\", _energy);" ∈ x.lines) ∧
    gain.IsValid ∧ ∃ a x, Algorithm.ofDescriptor {} gain = .ok a ∧
      emit .definition a {} = .ok x ∧ ¬ (variableNames a).Nodup ∧
      "\tfloat output_gain;" ∈ x.lines ∧ "\tval output_gain(val::object());" ∈ x.lines := by
  intro energy gain
  refine ⟨⟨by decide, _, _, rfl, rfl, ?_, ?_, ?_⟩, by decide, _, _, rfl, rfl, ?_, ?_, ?_⟩
  all_goals decide

end Native

end Bindery
