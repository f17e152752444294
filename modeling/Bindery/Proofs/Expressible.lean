import Bindery.Proofs.Passes

/-!
# Which algorithms can be written for which target

Each writer looks at types in its own way. The lemmas below bring every one of
these checks to a condition on the tags of the descriptor alone, so that the
targets can be compared.
-/

namespace Bindery

/-- What a native class takes has a native form: the parameters are of types that parameters may
have, and every input has a native type. -/
structure Descriptor.HasNativeSignature (d : Descriptor) : Prop where
  parameters : ∀ p ∈ d.parameters, p.tag.isParameterType = true
  inputs : ∀ i ∈ d.inputs, i.tag.native?.isSome = true

/-- A native class can be defined: there is an output, and outputs have native types too. -/
structure Descriptor.IsDefinable (d : Descriptor) : Prop extends d.HasNativeSignature where
  hasOutput : d.outputs ≠ []
  outputs : ∀ o ∈ d.outputs, o.tag.native?.isSome = true

/-! ## Algorithms of descriptors -/

theorem Algorithm.ofDescriptor_eq_ok {s : Settings} {d : Descriptor} {a : Algorithm} :
    Algorithm.ofDescriptor s d = .ok a ↔
      d.isEmpty = false ∧
        a = ⟨d, s.handle d.name, d.inputs.map (slot s.inputPrefix),
          d.outputs.map (slot s.outputPrefix)⟩ := by
  unfold Algorithm.ofDescriptor
  cases d.isEmpty with
  | true => simp
  | false => simp [eq_comm]

theorem Algorithm.descriptor_of_ok {s : Settings} {d : Descriptor} {a : Algorithm}
    (h : Algorithm.ofDescriptor s d = .ok a) : a.descriptor = d := by
  obtain ⟨-, rfl⟩ := Algorithm.ofDescriptor_eq_ok.1 h
  rfl

/-- An identifier stands beside the tag and does not change it. -/
theorem Algorithm.forall_slot_tag {ps : List Pin} {before : String} {P : Tag → Prop} :
    (∀ x ∈ ps.map (slot before), P x.tag) ↔ ∀ p ∈ ps, P p.tag := by
  simp [slot]

/-! ## Tags -/

theorem Tag.isKnown_iff {t : Tag} : t.isKnown = true ↔ ∀ name, t ≠ .other name := by
  cases t <;> simp [isKnown]

/-- The wrapper has a type for every tag of the vocabulary. -/
theorem Tag.isSome_wrapper? (t : Tag) : t.wrapper?.isSome = t.isKnown := by
  cases t <;> rfl

theorem Tag.isKnown_of_native? {t : Tag} (h : t.native?.isSome = true) : t.isKnown = true := by
  rw [← isSome_wrapper?]
  exact wrapper?_isSome_of_native? h

/-! ## Native code -/

namespace Native

@[simp] theorem isOk_require {α : Type} (a : Algorithm) (field : String) (surface : Surface)
    (tag : Tag) (found : Option α) :
    (require a field surface tag found).isOk = found.isSome := by
  cases found <;> rfl

/-- A type that parameters may have is a native type as well, so that one check is enough. -/
theorem isSome_argument? (p : Parameter) : (argument? p).isSome = p.tag.isParameterType := by
  unfold argument?
  cases h : p.tag.isParameterType with
  | true => simpa using Tag.native?_isSome_of_isParameterType h
  | false => rfl

theorem isOk_parameters {a : Algorithm} :
    (parameters a).isOk = true ↔ ∀ p ∈ a.parameters, p.tag.isParameterType = true := by
  simp [parameters, isOk_mapM, isSome_argument?]

theorem isOk_inputs {a : Algorithm} :
    (inputs a).isOk = true ↔ ∀ i ∈ a.inputs, i.tag.native?.isSome = true := by
  simp [inputs, isOk_mapM]

theorem isOk_signature {a : Algorithm} :
    (Signature.of a).isOk = true ↔
      (parameters a).isOk = true ∧ (inputs a).isOk = true := by
  unfold Signature.of
  cases parameters a <;> cases inputs a <;> simp [isOk_iff]

theorem isOk_locals {a : Algorithm} :
    (locals a).isOk = true ↔ ∀ o ∈ a.outputs, o.tag.native?.isSome = true := by
  simp [locals, isOk_mapM]

theorem length_locals {a : Algorithm} {outputs : List Local} (h : locals a = .ok outputs) :
    outputs.length = a.outputs.length := by
  have hl := congrArg List.length (mapM_eq_ok.1 h)
  simpa using hl.symm

theorem isOk_constructorTypes {a : Algorithm} :
    (constructorTypes a).isOk = true ↔ ∀ p ∈ a.parameters, p.tag.isParameterType = true := by
  have hcheck : ∀ t : Tag,
      (if t.isParameterType then t.binding? else none).isSome = t.isParameterType := by
    intro t
    cases h : t.isParameterType with
    | true => simpa [Tag.binding?] using Tag.native?_isSome_of_isParameterType h
    | false => rfl
  simp [constructorTypes, isOk_mapM, hcheck]

theorem isOk_declaration (a : Algorithm) :
    (declaration a).isOk = (Signature.of a).isOk := by
  simp [declaration]

/-- A class that cannot be declared is not registered, and every other one is. -/
theorem isOk_registration {a : Algorithm} :
    (registration a).isOk = true ↔ (declaration a).isOk = true := by
  rw [isOk_declaration, isOk_signature, isOk_parameters, ← isOk_constructorTypes]
  unfold registration
  cases inputs a <;> cases constructorTypes a <;> simp [isOk_iff]

theorem isOk_definition {a : Algorithm} {s : Settings} :
    (definition a s).isOk = true ↔
      (Signature.of a).isOk = true ∧ a.outputs ≠ [] ∧ (locals a).isOk = true := by
  unfold definition
  cases hs : Signature.of a with
  | error e => simp [isOk_iff]
  | ok sig =>
      cases hl : locals a with
      | error e => simp [isOk_iff]
      | ok outputs =>
          have hempty : outputs = [] ↔ a.outputs = [] := by
            rw [← List.length_eq_zero_iff, ← List.length_eq_zero_iff, length_locals hl]
          cases outputs with
          | nil => simp [isOk_iff, ← hempty]
          | cons o rest => simp [isOk_iff, ← hempty]

end Native

/-! ## The wrapper -/

namespace Wrapper

/-- Containers are taken as anything and other inputs by their type: together these are the tags of
the vocabulary. -/
theorem isOk_inputs {a : Algorithm} :
    (inputs a).isOk = true ↔ ∀ i ∈ a.inputs, i.tag.isKnown = true := by
  unfold inputs
  rw [isOk_mapM]
  refine forall₂_congr fun i _ => ?_
  cases h : container? i.tag with
  | none => simp [Tag.isSome_wrapper?]
  | some documented =>
      have hknown : i.tag.isKnown = true := by
        cases ht : i.tag <;> simp_all [container?, Tag.isKnown]
      simp [hknown, isOk_iff]

theorem isOk_wrapperClass (a : Algorithm) (s : Settings) :
    (wrapperClass a s).isOk = (inputs a).isOk := by
  simp [wrapperClass]

theorem isOk_parameterType {a : Algorithm} :
    (parameterType a).isOk = true ↔ ∀ p ∈ a.parameters, p.tag.isKnown = true := by
  unfold parameterType
  cases h : a.hasParameters with
  | true => simp [fields, isOk_mapM, Tag.isSome_wrapper?]
  | false =>
      have hnone : a.parameters = [] := by
        simpa [Algorithm.hasParameters, Descriptor.hasParameters, Algorithm.parameters] using h
      simp [hnone, isOk_iff]

end Wrapper

/-! ## All targets -/

section Targets

variable {s : Settings} {d : Descriptor} {a : Algorithm}
  (ha : Algorithm.ofDescriptor s d = .ok a)
include ha

theorem isOk_emit_declaration :
    (emit .declaration a s).isOk = true ↔ d.HasNativeSignature := by
  obtain ⟨-, rfl⟩ := Algorithm.ofDescriptor_eq_ok.1 ha
  rw [emit, Native.isOk_declaration, Native.isOk_signature, Native.isOk_parameters,
    Native.isOk_inputs]
  constructor
  · intro h
    obtain ⟨hp, hi⟩ := h
    exact ⟨hp, (Algorithm.forall_slot_tag (P := fun t => t.native?.isSome = true)).1 hi⟩
  · intro h
    obtain ⟨hp, hi⟩ := h
    exact ⟨hp, (Algorithm.forall_slot_tag (P := fun t => t.native?.isSome = true)).2 hi⟩

theorem isOk_emit_binding : (emit .binding a s).isOk = true ↔ d.HasNativeSignature := by
  rw [← isOk_emit_declaration ha]
  exact Native.isOk_registration

theorem isOk_emit_definition : (emit .definition a s).isOk = true ↔ d.IsDefinable := by
  have hsig := isOk_emit_declaration ha
  obtain ⟨-, rfl⟩ := Algorithm.ofDescriptor_eq_ok.1 ha
  rw [emit, Native.isOk_declaration] at hsig
  rw [emit, Native.isOk_definition, hsig, Native.isOk_locals]
  constructor
  · intro h
    obtain ⟨hs, ho, hl⟩ := h
    exact ⟨hs, by simpa using ho,
      (Algorithm.forall_slot_tag (P := fun t => t.native?.isSome = true)).1 hl⟩
  · intro h
    obtain ⟨hs, ho, hl⟩ := h
    exact ⟨hs, by simpa using ho,
      (Algorithm.forall_slot_tag (P := fun t => t.native?.isSome = true)).2 hl⟩

theorem isOk_emit_wrapper :
    (emit .wrapper a s).isOk = true ↔ ∀ i ∈ d.inputs, i.tag.isKnown = true := by
  obtain ⟨-, rfl⟩ := Algorithm.ofDescriptor_eq_ok.1 ha
  rw [emit, Wrapper.isOk_wrapperClass, Wrapper.isOk_inputs]
  exact Algorithm.forall_slot_tag (P := fun t => t.isKnown = true)

theorem isOk_emit_parameterTypes :
    (emit .parameterTypes a s).isOk = true ↔ ∀ p ∈ d.parameters, p.tag.isKnown = true := by
  obtain ⟨-, rfl⟩ := Algorithm.ofDescriptor_eq_ok.1 ha
  rw [emit, Wrapper.isOk_parameterType]
  rfl

/-- What can be defined can be written for every target. -/
theorem isOk_emit_of_isDefinable (h : d.IsDefinable) (t : Target) :
    (emit t a s).isOk = true := by
  have hparam : ∀ p ∈ d.parameters, p.tag.isKnown = true := fun p hp =>
    Tag.isKnown_of_native? (Tag.native?_isSome_of_isParameterType (h.parameters p hp))
  cases t with
  | declaration => exact (isOk_emit_declaration ha).2 h.toHasNativeSignature
  | definition => exact (isOk_emit_definition ha).2 h
  | binding => exact (isOk_emit_binding ha).2 h.toHasNativeSignature
  | wrapper =>
      exact (isOk_emit_wrapper ha).2 fun i hi => Tag.isKnown_of_native? (h.inputs i hi)
  | parameterTypes => exact (isOk_emit_parameterTypes ha).2 hparam

end Targets

theorem Descriptor.IsDefinable.isEmpty_eq_false {d : Descriptor} (h : d.IsDefinable) :
    d.isEmpty = false := by
  simp [Descriptor.isEmpty, h.hasOutput]

/-- What a target asks of the types of a descriptor. -/
def Descriptor.Suits (d : Descriptor) : Target → Prop
  | .declaration => d.HasNativeSignature
  | .definition => d.IsDefinable
  | .binding => d.HasNativeSignature
  | .wrapper => ∀ i ∈ d.inputs, i.tag.isKnown = true
  | .parameterTypes => ∀ p ∈ d.parameters, p.tag.isKnown = true

theorem isOk_emit {s : Settings} {d : Descriptor} {a : Algorithm}
    (ha : Algorithm.ofDescriptor s d = .ok a) (t : Target) :
    (emit t a s).isOk = true ↔ d.Suits t := by
  cases t with
  | declaration => exact isOk_emit_declaration ha
  | definition => exact isOk_emit_definition ha
  | binding => exact isOk_emit_binding ha
  | wrapper => exact isOk_emit_wrapper ha
  | parameterTypes => exact isOk_emit_parameterTypes ha

/-- A run looks at emptiness and types and at nothing else. -/
theorem Generator.isOk_run_iff_suits {g : Generator} {sel : Selection} {ts : List Target} :
    (g.run sel ts).outcome.isOk = true ↔
      ∀ name ∈ sel.resolve, ∃ d, g.provider name = .ok d ∧ d.isEmpty = false ∧
        ∀ t ∈ ts, d.Suits t := by
  rw [isOk_run]
  constructor
  · intro h name hname
    obtain ⟨hfetch, hwritten⟩ := h
    obtain ⟨a, hok⟩ := isOk_iff.1 (hfetch name hname)
    obtain ⟨d, hd, ha⟩ := fetch_eq_ok.1 hok
    refine ⟨d, hd, (Algorithm.ofDescriptor_eq_ok.1 ha).1, fun t ht => ?_⟩
    have hemit := hwritten t ht name hname
    rw [artifact, hok, ok_bind] at hemit
    exact (isOk_emit ha t).1 hemit
  · intro h
    have hready : ∀ name ∈ sel.resolve, ∃ a, g.fetch name = .ok a ∧
        ∀ t ∈ ts, (emit t a g.settings).isOk = true := by
      intro name hname
      obtain ⟨d, hd, hempty, hsuits⟩ := h name hname
      have ha := Algorithm.ofDescriptor_eq_ok (s := g.settings).2 ⟨hempty, rfl⟩
      exact ⟨_, fetch_eq_ok.2 ⟨d, hd, ha⟩, fun t ht => (isOk_emit ha t).2 (hsuits t ht)⟩
    refine ⟨fun name hname => ?_, fun t ht name hname => ?_⟩
    · obtain ⟨a, hfetch, -⟩ := hready name hname
      exact isOk_iff.2 ⟨a, hfetch⟩
    · obtain ⟨a, hfetch, hemit⟩ := hready name hname
      exact isOk_bind.2 ⟨a, hfetch, hemit t ht⟩

/-- A run for all targets asks for nothing but definitions. -/
theorem Generator.isOk_runAll {g : Generator} {sel : Selection} :
    (g.runAll sel).outcome.isOk = true ↔
      ∀ name ∈ sel.resolve, ∃ d, g.provider name = .ok d ∧ d.IsDefinable := by
  rw [runAll, isOk_run_iff_suits]
  refine forall₂_congr fun name _ => exists_congr fun d => and_congr_right fun _ => ?_
  constructor
  · intro h
    exact h.2 .definition (Target.mem_all _)
  · intro h
    have ha := Algorithm.ofDescriptor_eq_ok (s := g.settings).2 ⟨h.isEmpty_eq_false, rfl⟩
    exact ⟨h.isEmpty_eq_false, fun t _ => (isOk_emit ha t).1 (isOk_emit_of_isDefinable ha h t)⟩

/-- Declarations and registrations accept the same descriptors, definitions accept fewer, and what
a definition accepts every target accepts. The wrapper and its parameter types each look at one
list alone and refuse nothing of the vocabulary. -/
theorem expressibility_lattice (s : Settings) :
    (∀ d : Descriptor, d.isEmpty = false → ∃ a, Algorithm.ofDescriptor s d = .ok a ∧
      ((emit .declaration a s).isOk = true ↔ (emit .binding a s).isOk = true) ∧
      ((emit .declaration a s).isOk = true ↔ d.HasNativeSignature) ∧
      ((emit .definition a s).isOk = true ↔ d.IsDefinable) ∧
      ((emit .wrapper a s).isOk = true ↔ ∀ i ∈ d.inputs, ∀ name, i.tag ≠ .other name) ∧
      ((emit .parameterTypes a s).isOk = true ↔
        ∀ p ∈ d.parameters, ∀ name, p.tag ≠ .other name) ∧
      ((emit .definition a s).isOk = true → ∀ t, (emit t a s).isOk = true)) ∧
    ∀ (provider : Provider) (sel : Selection),
      ((Generator.mk provider s).runAll sel).outcome.isOk = true ↔
        ∀ name ∈ sel.resolve, ∃ d, provider name = .ok d ∧ d.IsDefinable := by
  refine ⟨fun d hd => ?_, fun provider sel => Generator.isOk_runAll⟩
  have ha := Algorithm.ofDescriptor_eq_ok (s := s).2 ⟨hd, rfl⟩
  have hdefinition := isOk_emit_definition ha
  refine ⟨_, ha, ?_, isOk_emit_declaration ha, hdefinition, ?_, ?_, ?_⟩
  · rw [isOk_emit_declaration ha, isOk_emit_binding ha]
  · simpa only [Tag.isKnown_iff] using isOk_emit_wrapper ha
  · simpa only [Tag.isKnown_iff] using isOk_emit_parameterTypes ha
  · intro h
    exact isOk_emit_of_isDefinable ha (hdefinition.1 h)

/-- A complex input stands in the wrapper, but in no native code. -/
theorem expressibility_lattice_magnitude :
    ∃ a, Algorithm.ofDescriptor {} {
        name := "Magnitude"
        inputs := [⟨"complex", .vectorComplex, "the complex numbers"⟩]
        outputs := [⟨"magnitude", .vectorReal, "their magnitudes"⟩]
        parameters := [⟨"window", .vectorString, "[]", "names"⟩] } = .ok a ∧
      (emit .declaration a {}).isOk = false ∧ (emit .binding a {}).isOk = false ∧
      (emit .definition a {}).isOk = false ∧ (emit .wrapper a {}).isOk = true ∧
      (emit .parameterTypes a {}).isOk = true := by
  obtain ⟨a, ha, hbinding, hdeclaration, hdefinition, hwrapper, htypes, -⟩ :=
    (expressibility_lattice {}).1 {
        name := "Magnitude"
        inputs := [⟨"complex", .vectorComplex, "the complex numbers"⟩]
        outputs := [⟨"magnitude", .vectorReal, "their magnitudes"⟩]
        parameters := [⟨"window", .vectorString, "[]", "names"⟩] } rfl
  have hnone : ¬ (emit .declaration a {}).isOk = true := by
    rw [hdeclaration]
    intro h
    have hinput := h.inputs _ (List.mem_singleton.2 rfl)
    cases hinput
  refine ⟨a, ha, by simpa using hnone, ?_, ?_, ?_, ?_⟩
  · simpa [hbinding] using hnone
  · have hdef : ¬ (emit .definition a {}).isOk = true := by
      rw [hdefinition]
      intro h
      exact hnone (hdeclaration.2 h.toHasNativeSignature)
    simpa using hdef
  · rw [hwrapper]
    simp
  · rw [htypes]
    simp

end Bindery
