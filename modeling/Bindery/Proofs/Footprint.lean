import Bindery.Proofs.Assembly
import Bindery.Proofs.Expressible
import Bindery.Proofs.Recovery

/-!
# What the code for a target is made from

Each writer reads its part of an algorithm and of the settings, and two algorithms
that look the same there have the same code or the same failure. Everything that a
writer says about a list it says item by item, so that it is enough to compare what
each item shows.
-/

namespace Bindery

section Writers

variable {a b : Algorithm} {s s' : Settings} (hname : a.name = b.name)

theorem hasParameters_congr {β : Type} {view : Parameter → β}
    (h : a.parameters.map view = b.parameters.map view) : a.hasParameters = b.hasParameters := by
  have hempty := congrArg List.isEmpty h
  rw [List.isEmpty_map, List.isEmpty_map] at hempty
  exact congrArg not hempty

/-! ## Native code -/

namespace Native

include hname

theorem require_congr {α : Type} (field : String) (surface : Surface) (tag : Tag)
    (found : Option α) : require a field surface tag found = require b field surface tag found := by
  unfold require
  rw [hname]

theorem parameters_congr
    (hp : a.parameters.map (fun p => (p.name, p.tag, p.default)) =
      b.parameters.map fun p => (p.name, p.tag, p.default)) : parameters a = parameters b := by
  refine mapM_eq_of_map_eq hp fun p q hpq => ?_
  simp only [Prod.mk.injEq] at hpq
  simp only [argument?, hpq, require_congr hname]

/-- Without their defaults, arguments are the names and types of parameters. -/
theorem plainParameters_congr
    (hp : a.parameters.map (fun p => (p.name, p.tag)) =
      b.parameters.map fun p => (p.name, p.tag)) :
    (parameters a).map (List.map Argument.plain) =
      (parameters b).map (List.map Argument.plain) := by
  rw [parameters, parameters, map_mapM, map_mapM]
  refine mapM_eq_of_map_eq hp fun p q hpq => ?_
  obtain ⟨hn, ht⟩ := Prod.mk.inj hpq
  have hplain : (argument? p).map Argument.plain = (argument? q).map Argument.plain := by
    unfold argument?
    rw [hn, ht]
    split
    · rw [Option.map_map, Option.map_map]
      rfl
    · rfl
  have hrequire : ∀ found : Option Argument,
      (require b q.name .native q.tag found).map Argument.plain =
        require b q.name .native q.tag (found.map Argument.plain) := by
    intro found
    cases found <;> rfl
  rw [require_congr hname, hn, ht, hrequire, hrequire, hplain]

theorem inputs_congr
    (hi : a.inputs.map (fun i => (i.name, i.tag, i.ident)) =
      b.inputs.map fun i => (i.name, i.tag, i.ident)) : inputs a = inputs b := by
  refine mapM_eq_of_map_eq hi fun i j hij => ?_
  simp only [Prod.mk.injEq] at hij
  simp only [hij, require_congr hname]

theorem locals_congr
    (ho : a.outputs.map (fun o => (o.name, o.tag, o.ident)) =
      b.outputs.map fun o => (o.name, o.tag, o.ident)) : locals a = locals b := by
  refine mapM_eq_of_map_eq ho fun o q hoq => ?_
  simp only [Prod.mk.injEq] at hoq
  simp only [hoq, require_congr hname]

theorem constructorTypes_congr
    (hp : a.parameters.map (fun p => (p.name, p.tag)) =
      b.parameters.map fun p => (p.name, p.tag)) : constructorTypes a = constructorTypes b := by
  refine mapM_eq_of_map_eq hp fun p q hpq => ?_
  obtain ⟨hn, ht⟩ := Prod.mk.inj hpq
  rw [require_congr hname, hn, ht]

/-- How an input is called in native code does not decide whether there is code. -/
theorem failure?_inputs_congr
    (hi : a.inputs.map (fun i => (i.name, i.tag)) = b.inputs.map fun i => (i.name, i.tag)) :
    failure? (inputs a) = failure? (inputs b) := by
  have htypes : (inputs a).map (List.map Argument.type) =
      (inputs b).map (List.map Argument.type) := by
    rw [inputs, inputs, map_mapM, map_mapM]
    refine mapM_eq_of_map_eq hi fun i j hij => ?_
    obtain ⟨hn, ht⟩ := Prod.mk.inj hij
    rw [require_congr hname, hn, ht]
    cases j.tag.native? <;> rfl
  rw [← failure?_map _ (List.map Argument.type), htypes, failure?_map]

theorem declaration_congr (hhandle : a.handle = b.handle)
    (hp : a.parameters.map (fun p => (p.name, p.tag, p.default)) =
      b.parameters.map fun p => (p.name, p.tag, p.default))
    (hi : a.inputs.map (fun i => (i.name, i.tag, i.ident)) =
      b.inputs.map fun i => (i.name, i.tag, i.ident)) : declaration a = declaration b := by
  simp only [declaration, Signature.of, parameters_congr hname hp, inputs_congr hname hi,
    declarationLines, hname, hhandle]

theorem registration_congr
    (hp : a.parameters.map (fun p => (p.name, p.tag)) = b.parameters.map fun p => (p.name, p.tag))
    (hi : a.inputs.map (fun i => (i.name, i.tag)) = b.inputs.map fun i => (i.name, i.tag)) :
    registration a = registration b := by
  unfold registration
  rw [bind_const_congr (failure?_inputs_congr hname hi), constructorTypes_congr hname hp]
  simp only [registrationLines, hname]

/-- A registration that succeeds lists types and says nothing else of the parameters. -/
theorem registration_ok_congr {x y : Artifact} (hx : registration a = .ok x)
    (hy : registration b = .ok y) (hp : a.parameters.map (·.tag) = b.parameters.map (·.tag)) :
    x = y := by
  obtain ⟨-, -, hx⟩ := bind_eq_ok.1 hx
  obtain ⟨types, htypes, hx⟩ := bind_eq_ok.1 hx
  obtain ⟨-, -, hy⟩ := bind_eq_ok.1 hy
  obtain ⟨types', htypes', hy⟩ := bind_eq_ok.1 hy
  have hsame := congrArg (List.map nativeType) hp
  rw [List.map_map, List.map_map] at hsame
  have heq : types = types' :=
    (constructorTypes_eq htypes).trans (hsame.trans (constructorTypes_eq htypes').symm)
  cases hx
  cases hy
  simp only [registrationLines, hname, heq]

/-- What a definition takes from its signature. -/
def Signature.plain (sig : Signature) : Signature :=
  ⟨sig.parameters.map Argument.plain, sig.inputs⟩

omit hname in
theorem definitionLines_plain (sig : Signature) (outputs : List Local) :
    definitionLines a s sig.plain outputs = definitionLines a s sig outputs := by
  have hplain : sig.plain.parameters.map Argument.plain = sig.parameters.map Argument.plain := by
    rw [Signature.plain, List.map_map]
    rfl
  simp only [definitionLines, methods, hplain]
  rfl

omit hname in
/-- A definition is made from a signature without defaults. -/
theorem definition_eq_plain :
    definition a s = (Signature.of a).map Signature.plain >>= fun sig =>
      locals a >>= fun outputs =>
        if outputs.isEmpty then .error (.missingOutput a.name)
        else .ok ⟨a.name, .definition, definitionLines a s sig outputs⟩ := by
  unfold definition
  cases Signature.of a with
  | error e => rfl
  | ok sig =>
      change _ = locals a >>= fun outputs => _
      simp only [ok_bind, definitionLines_plain]

theorem plainSignature_congr
    (hp : a.parameters.map (fun p => (p.name, p.tag)) = b.parameters.map fun p => (p.name, p.tag))
    (hi : a.inputs.map (fun i => (i.name, i.tag, i.ident)) =
      b.inputs.map fun i => (i.name, i.tag, i.ident)) :
    (Signature.of a).map Signature.plain = (Signature.of b).map Signature.plain := by
  have hsplit : ∀ c : Algorithm, (Signature.of c).map Signature.plain =
      (parameters c).map (List.map Argument.plain) >>= fun ps =>
        (inputs c).map fun is => ⟨ps, is⟩ := by
    intro c
    unfold Signature.of
    cases parameters c with
    | error e => rfl
    | ok ps => cases inputs c <;> rfl
  rw [hsplit, hsplit, plainParameters_congr hname hp, inputs_congr hname hi]

section Definitions

variable (hhandle : a.handle = b.handle)
  (hp : a.parameters.map (fun p => (p.name, p.tag)) = b.parameters.map fun p => (p.name, p.tag))
include hhandle hp

omit hname hhandle in
theorem parameterNames_congr : parameterNames a = parameterNames b :=
  map_eq_map_of hp fun _ _ _ _ hpq => (Prod.mk.inj hpq).1

theorem creation_congr : creation a = creation b := by
  rw [creation, creation, hhandle, hname, parameterNames_congr hp]

/-- Without parameters nothing is made anew, whatever the settings say of the name. -/
theorem reconfiguration_congr
    (hrecreated : b.hasParameters = true → s.recreates b.name = s'.recreates b.name) :
    reconfiguration a s = reconfiguration b s' := by
  unfold reconfiguration
  rw [hasParameters_congr hp, creation_congr hname hhandle hp, parameterNames_congr hp, hhandle,
    hname]
  cases hhas : b.hasParameters with
  | false => rfl
  | true => rw [hrecreated hhas]

variable (hi : a.inputs.map (fun i => (i.name, i.tag, i.ident)) =
  b.inputs.map fun i => (i.name, i.tag, i.ident))
include hi

omit hp in
theorem computation_congr (outputs : List Local) :
    computation a outputs = computation b outputs := by
  have hbound : a.inputs.map (fun i => Statement.bindInput b.handle i.name i.ident) =
      b.inputs.map fun i => Statement.bindInput b.handle i.name i.ident := by
    refine map_eq_map_of hi fun i _ j _ hij => ?_
    simp only [Prod.mk.injEq] at hij
    rw [hij.1, hij.2.2]
  simp only [computation, resultName, hhandle, hbound, hname]

/-- Defaults of parameters and descriptions do not reach a definition. -/
theorem definition_congr
    (ho : a.outputs.map (fun o => (o.name, o.tag, o.ident)) =
      b.outputs.map fun o => (o.name, o.tag, o.ident))
    (hreference : s.referenceBase = s'.referenceBase)
    (hrecreated : b.hasParameters = true → s.recreates b.name = s'.recreates b.name) :
    definition a s = definition b s' := by
  have hlines : ∀ sig outputs, definitionLines a s sig outputs =
      definitionLines b s' sig outputs := by
    intro sig outputs
    simp only [definitionLines, methods, Settings.referenceUrl, hreference, hhandle, hname,
      creation_congr hname hhandle hp, reconfiguration_congr hname hhandle hp hrecreated,
      computation_congr hname hhandle hi]
  rw [definition_eq_plain, definition_eq_plain, plainSignature_congr hname hp hi,
    locals_congr hname ho]
  simp only [hname, hlines]

end Definitions

end Native

/-! ## The wrapper -/

namespace Wrapper

include hname

theorem inputs_congr
    (hi : a.inputs.map (fun i => (i.name, i.tag, i.description)) =
      b.inputs.map fun i => (i.name, i.tag, i.description)) : inputs a = inputs b := by
  refine mapM_eq_of_map_eq hi fun i j hij => ?_
  simp only [Prod.mk.injEq] at hij
  simp only [hij, Native.require_congr hname]

section Classes

variable
  (hp : a.parameters.map (fun p => (p.name, p.tag, p.default)) =
    b.parameters.map fun p => (p.name, p.tag, p.default))
include hp

omit hname in
/-- Fields hold defaults, and name the parameter type where there are any. -/
theorem fieldLines_congr {type type' : String} (htype : b.hasParameters = true → type = type') :
    fieldLines a type = fieldLines b type' := by
  have hdefaults : a.parameters.map (fun p => "    " ++ p.name ++ ": " ++ defaultLiteral p ++ ",") =
      b.parameters.map fun p => "    " ++ p.name ++ ": " ++ defaultLiteral p ++ "," := by
    refine map_eq_map_of hp fun p _ q _ hpq => ?_
    simp only [Prod.mk.injEq] at hpq
    simp only [defaultLiteral, hpq]
  unfold fieldLines
  rw [hasParameters_congr hp, hdefaults]
  cases hhas : b.hasParameters with
  | false => rfl
  | true => rw [htype hhas]

omit hname in
theorem coercedNames_congr : coercedNames a = coercedNames b := by
  have hfilter := congrArg (fun l => (l.filter fun x => needsCoercion x.2.1).map (·.1)) hp
  simp only [List.filter_map, List.map_map] at hfilter
  exact hfilter

theorem methods_congr
    (ho : a.outputs.map (fun o => (o.name, o.description)) =
      b.outputs.map fun o => (o.name, o.description))
    (hbackend : s.backend = s'.backend)
    (htype : b.hasParameters = true →
      s.qualifiedParameterType b.name = s'.qualifiedParameterType b.name) (is : List Input) :
    methods a s is = methods b s' is := by
  have hnames : parameterNames a = parameterNames b :=
    map_eq_map_of hp fun p _ q _ hpq => (Prod.mk.inj hpq).1
  have hresult : resultComment a.outputs = resultComment b.outputs := by
    unfold resultComment
    rw [map_eq_map_of ho fun o _ q _ hoq => ?_]
    obtain ⟨hn, hd⟩ := Prod.mk.inj hoq
    rw [hn, hd]
  simp only [methods, parameterComment, parameterArgument, updating, memberComment,
    hasParameters_congr hp, hname, hnames, coercedNames_congr hp, hresult, hbackend]
  cases hhas : b.hasParameters with
  | false => simp only [Bool.false_eq_true, if_false]
  | true => rw [htype hhas]

theorem classLines_congr (hsummary : a.descriptor.summary = b.descriptor.summary)
    (ho : a.outputs.map (fun o => (o.name, o.description)) =
      b.outputs.map fun o => (o.name, o.description))
    (hreference : s.referenceBase = s'.referenceBase) (hbackend : s.backend = s'.backend)
    (hspace : b.hasParameters = true → s.typeNamespace = s'.typeNamespace) (is : List Input) :
    classLines a s is = classLines b s' is := by
  have htype : b.hasParameters = true →
      s.qualifiedParameterType b.name = s'.qualifiedParameterType b.name := by
    intro hhas
    rw [Settings.qualifiedParameterType, hspace hhas, Settings.qualifiedParameterType]
  rw [classLines, methods_congr hname hp ho hbackend htype, hname,
    fieldLines_congr hp htype, hsummary, Settings.referenceUrl, hreference]
  rfl

/-- The types of outputs and the descriptions of parameters do not reach a wrapper. -/
theorem wrapperClass_congr (hsummary : a.descriptor.summary = b.descriptor.summary)
    (hi : a.inputs.map (fun i => (i.name, i.tag, i.description)) =
      b.inputs.map fun i => (i.name, i.tag, i.description))
    (ho : a.outputs.map (fun o => (o.name, o.description)) =
      b.outputs.map fun o => (o.name, o.description))
    (hreference : s.referenceBase = s'.referenceBase) (hbackend : s.backend = s'.backend)
    (hspace : b.hasParameters = true → s.typeNamespace = s'.typeNamespace) :
    wrapperClass a s = wrapperClass b s' := by
  simp only [wrapperClass, inputs_congr hname hi,
    classLines_congr hname hp hsummary ho hreference hbackend hspace, hname]

end Classes

theorem parameterType_congr (hp : a.parameters = b.parameters) :
    parameterType a = parameterType b := by
  have hfields : fields a = fields b := by
    refine mapM_eq_of_map_eq (congrArg (List.map id) hp) fun p q hpq => ?_
    obtain rfl : p = q := hpq
    rw [Native.require_congr hname]
  have hhas : a.hasParameters = b.hasParameters := hasParameters_congr (congrArg (List.map id) hp)
  simp only [parameterType, typeLines, hhas, hfields, hname]

end Wrapper

end Writers

/-! ## Descriptors -/

/-- The code of a descriptor for a target: it is made ready and written. -/
def Descriptor.artifact (d : Descriptor) (t : Target) (s : Settings) :
    Except GenerationError Artifact := do
  emit t (← Algorithm.ofDescriptor s d) s

theorem Descriptor.artifact_eq_emit {d : Descriptor} (hd : d.isEmpty = false) (t : Target)
    (s : Settings) :
    d.artifact t s = emit t ⟨d, s.handle d.name, d.inputs.map (Algorithm.slot s.inputPrefix),
      d.outputs.map (Algorithm.slot s.outputPrefix)⟩ s := by
  rw [artifact, Algorithm.ofDescriptor_eq_ok.2 ⟨hd, rfl⟩, ok_bind]

/-- Of an empty descriptor there is the same failure whatever it was to be written for. -/
theorem Descriptor.artifact_of_isEmpty {d : Descriptor} (hd : d.isEmpty = true) (t : Target)
    (s : Settings) : d.artifact t s = .error (.malformed d.name) := by
  rw [artifact, Algorithm.ofDescriptor, if_pos hd, error_bind]

/-- Behind a prefix a pin is what it was. -/
theorem Algorithm.map_slot {β : Type} (ps : List Pin) (before : String) (view : Pin → β) :
    (ps.map (slot before)).map (fun x => view x.toPin) = ps.map view := by
  rw [List.map_map]
  rfl

/-- Behind one prefix, pins of the same names and types have the same identifiers. -/
theorem Algorithm.map_slot_ident {ps qs : List Pin} (before : String)
    (h : ps.map (fun p => (p.name, p.tag)) = qs.map fun q => (q.name, q.tag)) :
    (ps.map (slot before)).map (fun x => (x.name, x.tag, x.ident)) =
      (qs.map (slot before)).map fun x => (x.name, x.tag, x.ident) := by
  rw [List.map_map, List.map_map]
  refine map_eq_map_of h fun p _ q _ hpq => ?_
  obtain ⟨hn, ht⟩ := Prod.mk.inj hpq
  simp only [Function.comp_apply, slot, hn, ht]

section Settings

variable {s s' : Settings} (d : Descriptor)

/-- An empty descriptor has no code under any settings, so that only the others are compared. -/
theorem Descriptor.artifact_congr {t : Target}
    (h : d.isEmpty = false → d.artifact t s = d.artifact t s') :
    d.artifact t s = d.artifact t s' := by
  cases hd : d.isEmpty with
  | true => rw [artifact_of_isEmpty hd, artifact_of_isEmpty hd]
  | false => exact h hd

theorem Descriptor.declaration_of_settings (hinput : s.inputPrefix = s'.inputPrefix)
    (hhandle : s.handlePrefix = s'.handlePrefix) :
    d.artifact .declaration s = d.artifact .declaration s' := by
  refine d.artifact_congr fun hd => ?_
  rw [artifact_eq_emit hd, artifact_eq_emit hd, hinput, Settings.handle, hhandle]
  exact Native.declaration_congr rfl rfl rfl rfl

theorem Descriptor.definition_of_settings (hinput : s.inputPrefix = s'.inputPrefix)
    (houtput : s.outputPrefix = s'.outputPrefix) (hhandle : s.handlePrefix = s'.handlePrefix)
    (hreference : s.referenceBase = s'.referenceBase)
    (hrecreated : d.hasParameters = true → s.recreates d.name = s'.recreates d.name) :
    d.artifact .definition s = d.artifact .definition s' := by
  refine d.artifact_congr fun hd => ?_
  rw [artifact_eq_emit hd, artifact_eq_emit hd, hinput, houtput, Settings.handle, hhandle]
  exact Native.definition_congr rfl rfl rfl rfl rfl hreference hrecreated

theorem Descriptor.registration_of_settings :
    d.artifact .binding s = d.artifact .binding s' := by
  refine d.artifact_congr fun hd => ?_
  have hinputs := (Algorithm.map_slot d.inputs s.inputPrefix fun p => (p.name, p.tag)).trans
    (Algorithm.map_slot d.inputs s'.inputPrefix fun p => (p.name, p.tag)).symm
  rw [artifact_eq_emit hd, artifact_eq_emit hd]
  exact Native.registration_congr rfl rfl hinputs

theorem Descriptor.wrapper_of_settings (hreference : s.referenceBase = s'.referenceBase)
    (hbackend : s.backend = s'.backend)
    (hspace : d.hasParameters = true → s.typeNamespace = s'.typeNamespace) :
    d.artifact .wrapper s = d.artifact .wrapper s' := by
  refine d.artifact_congr fun hd => ?_
  have hslots : ∀ {β : Type} (ps : List Pin) (before before' : String) (view : Pin → β),
      (ps.map (Algorithm.slot before)).map (fun x => view x.toPin) =
        (ps.map (Algorithm.slot before')).map fun x => view x.toPin := by
    intro β ps before before' view
    rw [Algorithm.map_slot, Algorithm.map_slot]
  rw [artifact_eq_emit hd, artifact_eq_emit hd]
  exact Wrapper.wrapperClass_congr rfl rfl rfl
    (hslots _ _ _ fun p => (p.name, p.tag, p.description))
    (hslots _ _ _ fun p => (p.name, p.description)) hreference hbackend hspace

theorem Descriptor.parameterType_of_settings :
    d.artifact .parameterTypes s = d.artifact .parameterTypes s' := by
  refine d.artifact_congr fun hd => ?_
  rw [artifact_eq_emit hd, artifact_eq_emit hd]
  exact Wrapper.parameterType_congr rfl rfl

end Settings

/-! ## Runs -/

namespace Generator

variable {p : Provider} {s s' : Settings} {sel : Selection} {ts : List Target} {r r' : Run}

theorem artifact_of_settings {t : Target} (h : ∀ d : Descriptor, d.artifact t s = d.artifact t s')
    (name : String) : (Generator.mk p s).artifact t name = (Generator.mk p s').artifact t name := by
  simp only [artifact, fetch, Algorithm.fetch]
  cases p name with
  | error e => rfl
  | ok d => exact h d

/-- Settings do not decide whether a run succeeds. -/
theorem isOk_run_of_settings :
    ((Generator.mk p s).run sel ts).outcome.isOk =
      ((Generator.mk p s').run sel ts).outcome.isOk := by
  rw [Bool.eq_iff_iff, isOk_run_iff_suits, isOk_run_iff_suits]

/-- Where settings have no part in the code for a target, two runs file the same under it. -/
theorem forTarget_of_settings {t : Target}
    (htarget : ∀ d : Descriptor, d.artifact t s = d.artifact t s') (ht : t ∈ ts)
    (h : ((Generator.mk p s).run sel ts).outcome = .ok r)
    (h' : ((Generator.mk p s').run sel ts).outcome = .ok r') : r.forTarget t = r'.forTarget t := by
  rw [forTarget_of_run h ht, forTarget_of_run h' ht]
  refine List.map_congr_left fun name hname => ?_
  have hx := artifact_of_run h' ht hname
  rw [← artifact_of_settings htarget] at hx
  exact written_of_ok (p := (t, name)) hx

theorem exports_of_settings (h : ((Generator.mk p s).run sel ts).outcome = .ok r)
    (h' : ((Generator.mk p s').run sel ts).outcome = .ok r') : r'.exports = r.exports := by
  rw [exports_of_run h, exports_of_run h']
  by_cases ht : Target.parameterTypes ∈ ts
  · rw [if_pos ht, if_pos ht, ← Run.exportBlock_forTarget r, ← Run.exportBlock_forTarget r',
      forTarget_of_settings (fun d => d.parameterType_of_settings) ht h h']
  · rw [if_neg ht, if_neg ht]

end Generator

/-! ## Footprints -/

theorem Settings.recreates_eq_iff {s s' : Settings} {name : String} :
    s.recreates name = s'.recreates name ↔ (name ∈ s.recreated ↔ name ∈ s'.recreated) := by
  rw [Bool.eq_iff_iff, recreates, recreates, List.contains_iff_mem, List.contains_iff_mem]

theorem Descriptor.hasParameters_iff {d : Descriptor} :
    d.hasParameters = true ↔ d.parameters ≠ [] := by
  simp [hasParameters]

/-- Which settings the code for a target depends on. Registrations and parameter types depend on
none and the other targets on some; what an algorithm has no use for does not matter to it. The
export block is the same under all settings. -/
theorem settings_footprint (s s' : Settings) :
    (∀ d : Descriptor,
      d.artifact .binding s = d.artifact .binding s' ∧
      d.artifact .parameterTypes s = d.artifact .parameterTypes s' ∧
      (s.inputPrefix = s'.inputPrefix → s.handlePrefix = s'.handlePrefix →
        d.artifact .declaration s = d.artifact .declaration s') ∧
      (s.inputPrefix = s'.inputPrefix → s.outputPrefix = s'.outputPrefix →
        s.handlePrefix = s'.handlePrefix → s.referenceBase = s'.referenceBase →
        (d.parameters ≠ [] → (d.name ∈ s.recreated ↔ d.name ∈ s'.recreated)) →
        d.artifact .definition s = d.artifact .definition s') ∧
      (s.referenceBase = s'.referenceBase → s.backend = s'.backend →
        (d.parameters ≠ [] → s.typeNamespace = s'.typeNamespace) →
        d.artifact .wrapper s = d.artifact .wrapper s')) ∧
    ∀ (p : Provider) (sel : Selection) (ts : List Target) (r : Run),
      ((Generator.mk p s).run sel ts).outcome = .ok r →
      ∃ r', ((Generator.mk p s').run sel ts).outcome = .ok r' ∧ r'.exports = r.exports := by
  refine ⟨fun d => ⟨d.registration_of_settings, d.parameterType_of_settings, ?_, ?_, ?_⟩, ?_⟩
  · exact d.declaration_of_settings
  · intro hinput houtput hhandle hreference hrecreated
    refine d.definition_of_settings hinput houtput hhandle hreference fun hhas => ?_
    exact Settings.recreates_eq_iff.2 (hrecreated (Descriptor.hasParameters_iff.1 hhas))
  · intro hreference hbackend hspace
    exact d.wrapper_of_settings hreference hbackend fun hhas =>
      hspace (Descriptor.hasParameters_iff.1 hhas)
  · intro p sel ts r h
    have hok : ((Generator.mk p s').run sel ts).outcome.isOk = true :=
      Generator.isOk_run_of_settings.symm.trans (isOk_iff.2 ⟨r, h⟩)
    obtain ⟨r', h'⟩ := isOk_iff.1 hok
    exact ⟨r', h', Generator.exports_of_settings h h'⟩

/-- Settings that are not the usual ones wherever a target has no use for them. -/
theorem settings_footprint_scale :
    let energy : Descriptor := {
      name := "Energy"
      inputs := [⟨"array", .vectorReal, ""⟩]
      outputs := [⟨"energy", .real, ""⟩] }
    let scale : Descriptor := {
      name := "Scale"
      inputs := [⟨"signal", .vectorReal, ""⟩]
      outputs := [⟨"signal", .vectorReal, ""⟩]
      parameters := [⟨"factor", .real, "10", ""⟩] }
    let lookup : String → Option Descriptor := fun name =>
      [energy, scale].find? (·.name = name)
    let elsewhere : Settings := {
      outputPrefix := "result_", referenceBase := "reference/", backend := "module",
      typeNamespace := "types", recreated := ["Scale"] }
    let native : Settings := {
      backend := "module", typeNamespace := "types", recreated := ["Energy"] }
    let wrapped : Settings := {
      inputPrefix := "in_", outputPrefix := "out_", handlePrefix := "h", typeNamespace := "types" }
    scale.artifact .declaration {} = scale.artifact .declaration elsewhere ∧
      energy.artifact .definition {} = energy.artifact .definition native ∧
      energy.artifact .wrapper {} = energy.artifact .wrapper wrapped ∧
      ∃ r r', ((Generator.mk (.ofLookup lookup) {}).run { included := ["Energy", "Scale"] }
          Target.all).outcome = .ok r ∧
        ((Generator.mk (.ofLookup lookup) elsewhere).run { included := ["Energy", "Scale"] }
          Target.all).outcome = .ok r' ∧ r'.exports = r.exports := by
  intro energy scale lookup elsewhere native wrapped
  obtain ⟨hsame, hruns⟩ := settings_footprint {} elsewhere
  obtain ⟨-, -, hdeclaration, -, -⟩ := hsame scale
  obtain ⟨-, -, -, hdefinition, -⟩ := (settings_footprint {} native).1 energy
  obtain ⟨-, -, -, -, hwrapper⟩ := (settings_footprint {} wrapped).1 energy
  have hok : ((Generator.mk (.ofLookup lookup) {}).run { included := ["Energy", "Scale"] }
      Target.all).outcome.isOk = true := by rfl
  obtain ⟨r, hr⟩ := isOk_iff.1 hok
  obtain ⟨r', hr', hexports⟩ := hruns _ _ _ r hr
  exact ⟨hdeclaration rfl rfl, hdefinition rfl rfl rfl rfl fun hhas => absurd rfl hhas,
    hwrapper rfl rfl fun hhas => absurd rfl hhas, r, r', hr, hr', hexports⟩

/-- Which parts of a descriptor the code for a target depends on, for descriptors of one name that
are not empty. Types of outputs reach definitions alone, defaults reach declarations, wrappers and
parameter types, and a registration that succeeds shows the types of parameters only. -/
theorem descriptor_footprint (s : Settings) {d e : Descriptor} (hname : d.name = e.name)
    (hd : d.isEmpty = false) (he : e.isEmpty = false) :
    (d.parameters.map (fun p => (p.name, p.tag, p.default)) =
        e.parameters.map (fun p => (p.name, p.tag, p.default)) →
      d.inputs.map (fun i => (i.name, i.tag)) = e.inputs.map (fun i => (i.name, i.tag)) →
      d.artifact .declaration s = e.artifact .declaration s) ∧
    (d.parameters.map (fun p => (p.name, p.tag)) = e.parameters.map (fun p => (p.name, p.tag)) →
      d.inputs.map (fun i => (i.name, i.tag)) = e.inputs.map (fun i => (i.name, i.tag)) →
      d.outputs.map (fun o => (o.name, o.tag)) = e.outputs.map (fun o => (o.name, o.tag)) →
      d.artifact .definition s = e.artifact .definition s) ∧
    (∀ x y, d.artifact .binding s = .ok x → e.artifact .binding s = .ok y →
      d.parameters.map (·.tag) = e.parameters.map (·.tag) → x = y) ∧
    (d.summary = e.summary → d.inputs = e.inputs →
      d.outputs.map (fun o => (o.name, o.description)) =
        e.outputs.map (fun o => (o.name, o.description)) →
      d.parameters.map (fun p => (p.name, p.tag, p.default)) =
        e.parameters.map (fun p => (p.name, p.tag, p.default)) →
      d.artifact .wrapper s = e.artifact .wrapper s) ∧
    (d.parameters = e.parameters →
      d.artifact .parameterTypes s = e.artifact .parameterTypes s) := by
  have hhandle : s.handle d.name = s.handle e.name := congrArg s.handle hname
  simp only [Descriptor.artifact_eq_emit hd, Descriptor.artifact_eq_emit he]
  refine ⟨?_, ?_, ?_, ?_, ?_⟩
  · intro hp hi
    exact Native.declaration_congr hname hhandle hp (Algorithm.map_slot_ident _ hi)
  · intro hp hi ho
    refine Native.definition_congr hname hhandle hp (Algorithm.map_slot_ident _ hi)
      (Algorithm.map_slot_ident _ ho) rfl fun _ => rfl
  · intro x y hx hy hp
    refine Native.registration_ok_congr ?_ hx hy ?_
    · exact hname
    · exact hp
  · intro hsummary hi ho hp
    refine Wrapper.wrapperClass_congr hname hp hsummary ?_ ?_ rfl rfl fun _ => rfl
    · rw [hi]
    · have hslots := fun ps : List Pin =>
        Algorithm.map_slot ps s.outputPrefix fun o => (o.name, o.description)
      exact (hslots _).trans (ho.trans (hslots _).symm)
  · intro hp
    exact Wrapper.parameterType_congr hname hp

/-- New descriptions leave native code as it is, and so does a new default the definition. -/
theorem descriptor_footprint_gain :
    let gain : Descriptor := {
      name := "Gain"
      description := "Louder.\n\nMuch."
      inputs := [⟨"signal", .vectorReal, "the signal"⟩]
      outputs := [⟨"signal", .vectorReal, "the louder signal"⟩]
      parameters := [⟨"factor", .real, "10", "how much louder"⟩] }
    let retyped : Descriptor := { gain with
      description := "Louder.\n\nMore."
      outputs := [⟨"signal", .vectorComplex, "the louder signal"⟩]
      parameters := [⟨"factor", .real, "10", "the factor"⟩] }
    let retuned : Descriptor := { gain with
      description := "Scales."
      inputs := [⟨"signal", .vectorReal, "any signal"⟩]
      outputs := [⟨"signal", .vectorReal, ""⟩]
      parameters := [⟨"factor", .real, "inf", "the factor"⟩] }
    let renamed : Descriptor := { gain with
      inputs := []
      parameters := [⟨"amount", .real, "1", ""⟩] }
    (∀ s : Settings, gain.artifact .declaration s = retyped.artifact .declaration s ∧
      gain.artifact .wrapper s = retyped.artifact .wrapper s) ∧
    (∀ s : Settings, gain.artifact .definition s = retuned.artifact .definition s) ∧
    (∃ x, gain.artifact .binding {} = .ok x ∧ renamed.artifact .binding {} = .ok x) ∧
    ∀ s : Settings, gain.artifact .parameterTypes s =
      { gain with outputs := [] }.artifact .parameterTypes s := by
  intro gain retyped retuned renamed
  refine ⟨fun s => ?_, fun s => ?_, ?_, fun s => ?_⟩
  · obtain ⟨hdeclaration, -, -, hwrapper, -⟩ :=
      descriptor_footprint s (d := gain) (e := retyped) rfl rfl rfl
    exact ⟨hdeclaration rfl rfl, hwrapper (by decide) rfl rfl rfl⟩
  · obtain ⟨-, hdefinition, -⟩ := descriptor_footprint s (d := gain) (e := retuned) rfl rfl rfl
    exact hdefinition rfl rfl rfl
  · obtain ⟨-, -, hbinding, -⟩ := descriptor_footprint {} (d := gain) (e := renamed) rfl rfl rfl
    have hgain : (gain.artifact .binding {}).isOk = true := by rfl
    have hrenamed : (renamed.artifact .binding {}).isOk = true := by rfl
    obtain ⟨x, hx⟩ := isOk_iff.1 hgain
    obtain ⟨y, hy⟩ := isOk_iff.1 hrenamed
    obtain rfl := hbinding x y hx hy rfl
    exact ⟨x, hx, hy⟩
  · obtain ⟨-, -, -, -, htypes⟩ :=
      descriptor_footprint s (d := gain) (e := { gain with outputs := [] }) rfl rfl rfl
    exact htypes rfl

end Bindery
