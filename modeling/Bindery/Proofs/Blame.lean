import Bindery.Proofs.Expressible

/-!
# Which field a failure blames

Writers look up the types of fields in lists of their own order, and stop at the first
that has no form. So every failure names the first such field of the list, the surface
on which it was looked up, and its tag. A definition that finds a form for everything
can still fail, for want of an output.
-/

namespace Bindery

/-- A field whose type is looked up for a surface. -/
structure TypeUse where
  field : String
  tag : Tag
  surface : Surface
  isParameter : Bool
deriving Repr, DecidableEq

namespace TypeUse

def ofParameter (surface : Surface) (p : Parameter) : TypeUse := ⟨p.name, p.tag, surface, true⟩

def ofSlot (surface : Surface) (x : Slot) : TypeUse := ⟨x.name, x.tag, surface, false⟩

/-- The tag has no form on the surface, or it is that of a parameter in native code or in a
registration and no parameter type. -/
def IsUnsupported (u : TypeUse) : Prop :=
  u.tag.mapped? u.surface = none ∨
    u.isParameter = true ∧ u.surface ≠ .wrapper ∧ u.tag.isParameterType = false

instance (u : TypeUse) : Decidable u.IsUnsupported := inferInstanceAs (Decidable (_ ∨ _))

def error (u : TypeUse) (algorithm : String) : GenerationError :=
  .unsupportedType algorithm u.field u.surface u.tag

/-- The error that a use gives in the code of an algorithm, if it gives one. -/
def error? (algorithm : String) (u : TypeUse) : Option GenerationError :=
  if u.IsUnsupported then some (u.error algorithm) else none

theorem error?_eq_none {algorithm : String} {u : TypeUse} :
    u.error? algorithm = none ↔ ¬ u.IsUnsupported := by
  simp [error?]

theorem error?_eq_some {algorithm : String} {u : TypeUse} {e : GenerationError} :
    u.error? algorithm = some e ↔ u.IsUnsupported ∧ e = u.error algorithm := by
  simp [error?, eq_comm]

/-- The error of the first use that gives one. -/
def firstError? (uses : List TypeUse) (algorithm : String) : Option GenerationError :=
  uses.findSome? (error? algorithm)

theorem firstError?_append (us vs : List TypeUse) (algorithm : String) :
    firstError? (us ++ vs) algorithm =
      (firstError? us algorithm).or (firstError? vs algorithm) :=
  List.findSome?_append

theorem firstError?_eq_none {uses : List TypeUse} {algorithm : String} :
    firstError? uses algorithm = none ↔ ∀ u ∈ uses, ¬ u.IsUnsupported := by
  simp [firstError?, error?_eq_none]

theorem firstError?_eq_some {uses : List TypeUse} {algorithm : String} {e : GenerationError} :
    firstError? uses algorithm = some e ↔ ∃ before u after, uses = before ++ u :: after ∧
      (∀ v ∈ before, ¬ v.IsUnsupported) ∧ u.IsUnsupported ∧ e = u.error algorithm := by
  unfold firstError?
  rw [List.findSome?_eq_some_iff]
  refine exists_congr fun before => exists_congr fun u => exists_congr fun after => ?_
  rw [error?_eq_some]
  simp only [error?_eq_none]
  exact and_congr_right fun _ => and_comm

/-- A traversal that looks up one type for every item fails as those uses do. -/
theorem failure?_mapM {α β : Type} {f : α → Except GenerationError β} {use : α → TypeUse}
    {algorithm : String} (h : ∀ x, failure? (f x) = (use x).error? algorithm) (l : List α) :
    failure? (l.mapM f) = firstError? (l.map use) algorithm := by
  rw [Bindery.failure?_mapM, firstError?, List.findSome?_map]
  exact findSome?_congr fun x _ => h x

end TypeUse

namespace Algorithm

def nativeParameters (a : Algorithm) : List TypeUse := a.parameters.map (.ofParameter .native)

def nativeInputs (a : Algorithm) : List TypeUse := a.inputs.map (.ofSlot .native)

/-- The types that the writer of a target looks up, in its order. -/
def typeUses (a : Algorithm) : Target → List TypeUse
  | .declaration => a.nativeParameters ++ a.nativeInputs
  | .definition => a.nativeParameters ++ a.nativeInputs ++ a.outputs.map (.ofSlot .native)
  | .binding => a.nativeInputs ++ a.parameters.map (.ofParameter .binding)
  | .wrapper => a.inputs.map (.ofSlot .wrapper)
  | .parameterTypes => a.parameters.map (.ofParameter .wrapper)

end Algorithm

/-! ## Native code -/

namespace Native

variable (a : Algorithm)

/-- What is required fails as its use does, where it is there for supported uses only. -/
theorem failure?_require {α : Type} {found : Option α} {u : TypeUse}
    (h : u.IsUnsupported ↔ found = none) :
    failure? (require a u.field u.surface u.tag found) = u.error? a.name := by
  cases found with
  | none => exact (TypeUse.error?_eq_some.2 ⟨h.2 rfl, rfl⟩).symm
  | some x => exact (TypeUse.error?_eq_none.2 fun hu => Option.some_ne_none x (h.1 hu)).symm

theorem isUnsupported_argument (p : Parameter) :
    (TypeUse.ofParameter .native p).IsUnsupported ↔ argument? p = none := by
  rw [← Option.not_isSome_iff_eq_none, isSome_argument?]
  cases h : p.tag <;> simp [TypeUse.IsUnsupported, TypeUse.ofParameter, h, Tag.mapped?,
    Tag.native?, Tag.isParameterType]

theorem isUnsupported_constructorType (p : Parameter) :
    (TypeUse.ofParameter .binding p).IsUnsupported ↔
      (if p.tag.isParameterType then p.tag.binding? else none) = none := by
  cases h : p.tag <;> simp [TypeUse.IsUnsupported, TypeUse.ofParameter, h, Tag.mapped?,
    Tag.binding?, Tag.native?, Tag.isParameterType]

theorem isUnsupported_slot (surface : Surface) (x : Slot) :
    (TypeUse.ofSlot surface x).IsUnsupported ↔ x.tag.mapped? surface = none := by
  simp [TypeUse.IsUnsupported, TypeUse.ofSlot]

theorem failure?_parameters :
    failure? (parameters a) = TypeUse.firstError? a.nativeParameters a.name :=
  TypeUse.failure?_mapM (fun p => failure?_require a (isUnsupported_argument p)) a.parameters

theorem failure?_inputs :
    failure? (inputs a) = TypeUse.firstError? a.nativeInputs a.name := by
  refine TypeUse.failure?_mapM (fun i => ?_) a.inputs
  rw [failure?_map]
  exact failure?_require a (isUnsupported_slot .native i)

theorem failure?_locals :
    failure? (locals a) = TypeUse.firstError? (a.outputs.map (.ofSlot .native)) a.name := by
  refine TypeUse.failure?_mapM (fun o => ?_) a.outputs
  rw [failure?_map]
  exact failure?_require a (isUnsupported_slot .native o)

theorem failure?_constructorTypes :
    failure? (constructorTypes a) =
      TypeUse.firstError? (a.parameters.map (.ofParameter .binding)) a.name :=
  TypeUse.failure?_mapM (fun p => failure?_require a (isUnsupported_constructorType p))
    a.parameters

theorem failure?_signature :
    failure? (Signature.of a) =
      TypeUse.firstError? (a.nativeParameters ++ a.nativeInputs) a.name := by
  rw [TypeUse.firstError?_append, ← failure?_parameters, ← failure?_inputs]
  exact failure?_bind fun _ _ => failure?_bind_pure _ _

theorem failure?_registration :
    failure? (registration a) = TypeUse.firstError? (a.typeUses .binding) a.name := by
  rw [Algorithm.typeUses, TypeUse.firstError?_append, ← failure?_inputs,
    ← failure?_constructorTypes]
  exact failure?_bind fun _ _ => failure?_bind_pure _ _

/-- The want of an output is found after every type. -/
theorem failure?_definition (s : Settings) :
    failure? (definition a s) = (TypeUse.firstError? (a.typeUses .definition) a.name).or
      (if a.outputs = [] then some (.missingOutput a.name) else none) := by
  rw [Algorithm.typeUses, TypeUse.firstError?_append, ← failure?_signature, ← failure?_locals,
    Option.or_assoc]
  refine failure?_bind fun sig _ => failure?_bind fun outputs hlocals => ?_
  have hempty : outputs = [] ↔ a.outputs = [] := by
    rw [← List.length_eq_zero_iff, ← List.length_eq_zero_iff, length_locals hlocals]
  simp only [List.isEmpty_iff, hempty]
  split
  · rfl
  · rfl

end Native

/-! ## The wrapper -/

namespace Wrapper

variable (a : Algorithm)

/-- Containers are taken without a look at their type, and have one. -/
theorem failure?_inputs :
    failure? (inputs a) = TypeUse.firstError? (a.typeUses .wrapper) a.name := by
  refine TypeUse.failure?_mapM (fun i => ?_) a.inputs
  cases hcontainer : container? i.tag with
  | none =>
      dsimp only
      rw [failure?_map]
      exact Native.failure?_require a (Native.isUnsupported_slot .wrapper i)
  | some documented =>
      refine (TypeUse.error?_eq_none.2 ?_).symm
      rw [Native.isUnsupported_slot]
      cases htag : i.tag <;> simp_all [container?, Tag.mapped?, Tag.wrapper?]

theorem failure?_fields :
    failure? (fields a) = TypeUse.firstError? (a.typeUses .parameterTypes) a.name := by
  refine TypeUse.failure?_mapM (fun p => ?_) a.parameters
  have hwrapper : (TypeUse.ofParameter .wrapper p).IsUnsupported ↔ p.tag.wrapper? = none := by
    simp [TypeUse.IsUnsupported, TypeUse.ofParameter, Tag.mapped?]
  rw [failure?_map]
  exact Native.failure?_require a hwrapper

theorem failure?_parameterType :
    failure? (parameterType a) = TypeUse.firstError? (a.typeUses .parameterTypes) a.name := by
  unfold parameterType
  cases h : a.hasParameters with
  | true =>
      rw [if_pos rfl, failure?_map]
      exact failure?_fields a
  | false =>
      have hnone : a.parameters = [] := by
        simpa [Algorithm.hasParameters, Descriptor.hasParameters, Algorithm.parameters] using h
      rw [Algorithm.typeUses, hnone]
      rfl

end Wrapper

/-! ## All targets -/

/-- A writer fails with the error of the first type that it looks up in vain; where there is none,
only a definition without outputs fails. -/
theorem failure?_emit (t : Target) (a : Algorithm) (s : Settings) :
    failure? (emit t a s) = (TypeUse.firstError? (a.typeUses t) a.name).or
      (if t = .definition ∧ a.outputs = [] then some (.missingOutput a.name) else none) := by
  cases t with
  | declaration =>
      simpa [emit, Native.declaration, Algorithm.typeUses] using Native.failure?_signature a
  | definition => simpa [emit] using Native.failure?_definition a s
  | binding => simpa [emit] using Native.failure?_registration a
  | wrapper => simpa [emit, Wrapper.wrapperClass] using Wrapper.failure?_inputs a
  | parameterTypes => simpa [emit] using Wrapper.failure?_parameterType a

/-- Every failure of a writer names the algorithm that it writes. -/
theorem algorithm?_of_emit {t : Target} {a : Algorithm} {s : Settings} {e : GenerationError}
    (h : emit t a s = .error e) : e.algorithm? = some a.name := by
  have hfailure := failure?_eq_some.2 h
  rw [failure?_emit, Option.or_eq_some_iff] at hfailure
  obtain htype | ⟨-, houtput⟩ := hfailure
  · obtain ⟨-, u, -, -, -, -, rfl⟩ := TypeUse.firstError?_eq_some.1 htype
    rfl
  · obtain ⟨-, rfl⟩ := by simpa [eq_comm] using houtput
    rfl

/-- A writer fails in two ways. An output is found missing after all parameters and inputs are
found to have native types, and only for a definition. Otherwise the first field of the writer's
order whose type has no form is the one that the error names, with its surface and its tag. -/
theorem emit_blames_first (t : Target) (a : Algorithm) (s : Settings) (e : GenerationError) :
    emit t a s = .error e ↔
      (t = .definition ∧ (∀ u ∈ a.nativeParameters ++ a.nativeInputs, ¬ u.IsUnsupported) ∧
        a.outputs = [] ∧ e = .missingOutput a.name) ∨
      ∃ before u after, a.typeUses t = before ++ u :: after ∧
        (∀ v ∈ before, ¬ v.IsUnsupported) ∧ u.IsUnsupported ∧
        e = .unsupportedType a.name u.field u.surface u.tag := by
  rw [← failure?_eq_some, failure?_emit, Option.or_eq_some_iff, TypeUse.firstError?_eq_none,
    TypeUse.firstError?_eq_some, or_comm]
  refine or_congr ?_ Iff.rfl
  constructor
  · intro h
    obtain ⟨hsupported, he⟩ := h
    obtain ⟨⟨rfl, houtputs⟩, rfl⟩ := by simpa [eq_comm] using he
    refine ⟨rfl, fun u hu => hsupported u ?_, houtputs, rfl⟩
    exact List.mem_append_left _ hu
  · intro h
    obtain ⟨rfl, hsupported, houtputs, rfl⟩ := h
    refine ⟨?_, by simp [houtputs]⟩
    simpa [Algorithm.typeUses, houtputs] using hsupported

/-- One descriptor, two blames: a declaration looks at parameters first, a registration at
inputs. -/
example :
    let a : Algorithm := {
      descriptor := { name := "Magnitude", parameters := [⟨"window", .vectorString, "[]", ""⟩] }
      handle := "_magnitude"
      inputs := [⟨⟨"complex", .vectorComplex, ""⟩, "input_complex"⟩]
      outputs := [] }
    emit .declaration a {} = .error (.unsupportedType "Magnitude" "window" .native .vectorString) ∧
    emit .binding a {} = .error (.unsupportedType "Magnitude" "complex" .native .vectorComplex) :=
  ⟨rfl, rfl⟩

end Bindery
