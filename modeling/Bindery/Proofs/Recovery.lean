import Bindery.Proofs.Computation

/-!
# Descriptors recovered from definitions

The lines of a definition show what they were written for. Lists between parentheses
come apart into their items, an item into a type and a name, and a type belongs to one
tag. How many outputs there are is known from the number of lines.
-/

namespace Bindery

/-- What a descriptor has for the code of a class: the name, and each list by names and tags. -/
structure Descriptor.SameSignature (d e : Descriptor) : Prop where
  name : d.name = e.name
  parameters : d.parameters.map (fun p => (p.name, p.tag)) =
    e.parameters.map fun p => (p.name, p.tag)
  inputs : d.inputs.map (fun i => (i.name, i.tag)) = e.inputs.map fun i => (i.name, i.tag)
  outputs : d.outputs.map (fun o => (o.name, o.tag)) = e.outputs.map fun o => (o.name, o.tag)

/-- What determines one value of each element determines it for all elements of a list. -/
theorem map_eq_map_of {α β γ : Type} {f : α → β} {g : α → γ} {l l' : List α}
    (h : l.map f = l'.map f) (hfg : ∀ x ∈ l, ∀ y ∈ l', f x = f y → g x = g y) :
    l.map g = l'.map g := by
  induction l generalizing l' with
  | nil => cases l' <;> simp_all
  | cons x rest ih =>
      cases l' with
      | nil => cases h
      | cons y rest' =>
          obtain ⟨hxy, hrest⟩ := List.cons.inj h
          have hhead := hfg x List.mem_cons_self y List.mem_cons_self hxy
          have htail := ih hrest fun u hu v hv =>
            hfg u (List.mem_cons_of_mem _ hu) v (List.mem_cons_of_mem _ hv)
          rw [List.map_cons, List.map_cons, hhead, htail]

theorem Carries.unique {lines : List String} {head tail text text' : String}
    (h : Carries lines head tail text) (h' : Carries lines head tail text') : text = text' :=
  (h' text).1 ((h text).2 rfl)

namespace Native

/-! ## Types -/

/-- The tag whose values have the type. -/
def tagOfValue? (type : String) : Option Tag :=
  Tag.all.find? fun t => t.native?.map valueType == some type

theorem tagOfValue?_nativeType {t : Tag} (h : t.native?.isSome = true) :
    tagOfValue? (valueType (nativeType t)) = some t := by
  cases t with
  | other name => cases h
  | _ => first | decide | cases h

/-- No two tags have values of one type. -/
theorem tag_eq_of_valueType {t u : Tag} (ht : t.native?.isSome = true)
    (hu : u.native?.isSome = true)
    (h : valueType (nativeType t) = valueType (nativeType u)) : t = u := by
  have htag := congrArg tagOfValue? h
  rwa [tagOfValue?_nativeType ht, tagOfValue?_nativeType hu, Option.some.injEq] at htag

theorem valueType_append (u v : String) : valueType (u ++ v) = valueType u ++ valueType v := by
  simp [valueType]

/-- Being constant or a reference does not change which values there are. -/
theorem valueType_nativeArgument (p : Parameter) :
    valueType p.nativeArgument = "const " ++ valueType (nativeType p.tag) := by
  have hconst : valueType "const " = "const " := by decide
  have href : valueType "&" = "" := by decide
  unfold Parameter.nativeArgument constantType
  split <;> simp [valueType_append, hconst, href]

/-! ## Typed names -/

theorem typed_inj {type type' name name' : String} (h : IsWord name.toList)
    (h' : IsWord name'.toList) (heq : type ++ " " ++ name = type' ++ " " ++ name') :
    type = type' ∧ name = name' := by
  have hread : typed? (type ++ " " ++ name).toList = some (type, name) := typed?_append h
  rw [heq, typed?_append h', Option.some.injEq, Prod.mk.injEq] at hread
  exact ⟨hread.1.symm, hread.2.symm⟩

theorem argumentList_inj {as bs : List Argument}
    (ha : ∀ x ∈ as, x.IsReadable) (hb : ∀ x ∈ bs, x.IsReadable)
    (h : argumentList as = argumentList bs) :
    as.map (fun x => (x.type, x.name)) = bs.map fun x => (x.type, x.name) := by
  have hread := items_arguments ha
  rw [h, items_arguments hb] at hread
  exact (Option.some.inj hread).symm

/-! ## Lists of a descriptor -/

section Lists

variable {d e : Descriptor} {before : String}

theorem isReadable_parameters (hd : d.HasIdentifiers)
    (ht : ∀ p ∈ d.parameters, p.tag.native?.isSome = true) :
    ∀ x ∈ (d.parameters.map parameterArgument).map Argument.plain, x.IsReadable := by
  refine List.forall_mem_map.2 (List.forall_mem_map.2 fun p hp => ?_)
  exact ⟨rfl, isItem_nativeArgument (ht p hp), isWord_of_isIdentifier (hd.parameters p hp)⟩

theorem isReadable_inputs (hd : d.HasIdentifiers) (hbefore : isIdentifier before = true)
    (ht : ∀ i ∈ d.inputs, i.tag.native?.isSome = true) :
    ∀ x ∈ (d.inputs.map (Algorithm.slot before)).map inputArgument, x.IsReadable := by
  refine List.forall_mem_map.2 (List.forall_mem_map.2 fun i hi => ?_)
  exact ⟨rfl, isItem_nativeType (ht i hi), isWord_slot hbefore (hd.inputs i hi)⟩

variable (hd : d.HasIdentifiers) (he : e.HasIdentifiers)
include hd he

/-- Texts are taken by reference and everything else as it is, so that the types of parameters
differ as their values do. -/
theorem parameters_of_argumentList (htd : ∀ p ∈ d.parameters, p.tag.native?.isSome = true)
    (hte : ∀ p ∈ e.parameters, p.tag.native?.isSome = true)
    (h : argumentList ((d.parameters.map parameterArgument).map Argument.plain) =
      argumentList ((e.parameters.map parameterArgument).map Argument.plain)) :
    d.parameters.map (fun p => (p.name, p.tag)) = e.parameters.map fun p => (p.name, p.tag) := by
  have htyped :=
    argumentList_inj (isReadable_parameters hd htd) (isReadable_parameters he hte) h
  simp only [List.map_map] at htyped
  refine map_eq_map_of htyped fun p hp q hq hpq => ?_
  obtain ⟨htype, hname⟩ := Prod.mk.inj hpq
  have hvalue : valueType p.nativeArgument = valueType q.nativeArgument :=
    congrArg valueType htype
  rw [valueType_nativeArgument, valueType_nativeArgument, String.append_right_inj] at hvalue
  exact Prod.ext hname (tag_eq_of_valueType (htd p hp) (hte q hq) hvalue)

variable (hbefore : isIdentifier before = true)
include hbefore

theorem inputs_of_argumentList (htd : ∀ i ∈ d.inputs, i.tag.native?.isSome = true)
    (hte : ∀ i ∈ e.inputs, i.tag.native?.isSome = true)
    (h : argumentList ((d.inputs.map (Algorithm.slot before)).map inputArgument) =
      argumentList ((e.inputs.map (Algorithm.slot before)).map inputArgument)) :
    d.inputs.map (fun i => (i.name, i.tag)) = e.inputs.map fun i => (i.name, i.tag) := by
  have htyped :=
    argumentList_inj (isReadable_inputs hd hbefore htd) (isReadable_inputs he hbefore hte) h
  simp only [List.map_map] at htyped
  refine map_eq_map_of htyped fun i hi j hj hij => ?_
  obtain ⟨htype, hident⟩ := Prod.mk.inj hij
  exact Prod.ext ((String.append_right_inj before).1 hident)
    (tag_eq_of_valueType (htd i hi) (hte j hj) (congrArg valueType htype))

theorem outputs_of_declarations (htd : ∀ o ∈ d.outputs, o.tag.native?.isSome = true)
    (hte : ∀ o ∈ e.outputs, o.tag.native?.isSome = true)
    (h : ((d.outputs.map (Algorithm.slot before)).map outputLocal).map
        (fun o => (Statement.declare o.type o.ident).text) =
      ((e.outputs.map (Algorithm.slot before)).map outputLocal).map
        fun o => (Statement.declare o.type o.ident).text) :
    d.outputs.map (fun o => (o.name, o.tag)) = e.outputs.map fun o => (o.name, o.tag) := by
  simp only [List.map_map] at h
  refine map_eq_map_of h fun o ho p hp hop => ?_
  have htyped := (String.append_left_inj ";").1 hop
  obtain ⟨htype, hident⟩ := typed_inj (isWord_slot hbefore (hd.outputs o ho))
    (isWord_slot hbefore (he.outputs p hp)) htyped
  exact Prod.ext ((String.append_right_inj before).1 hident)
    (tag_eq_of_valueType (htd o ho) (hte p hp) htype)

end Lists

/-! ## Lines of a definition -/

/-- Each output has as many lines as every other, so that the declarations of two computations with
the same lines stand side by side. -/
theorem declarations_of_computation {a b : Algorithm} {outputs outputs' : List Local}
    (hinputs : a.inputs.length = b.inputs.length)
    (h : (computation a outputs).map (fun st => "\t" ++ st.text) =
      (computation b outputs').map fun st => "\t" ++ st.text) :
    outputs.map (fun o => (Statement.declare o.type o.ident).text) =
      outputs'.map fun o => (Statement.declare o.type o.ident).text := by
  have hlength := congrArg List.length h
  simp only [computation, List.length_map, List.length_append, List.length_cons,
    List.length_nil] at hlength
  have houtputs : outputs.length = outputs'.length := by omega
  simp only [computation, List.map_append, List.map_map, List.append_assoc] at h
  obtain ⟨-, h⟩ := List.append_inj h (by simpa using hinputs)
  obtain ⟨h, -⟩ := List.append_inj h (by simpa using houtputs)
  exact map_eq_map_of h fun o _ p _ hop => (String.append_right_inj "\t").1 hop

/-- The parts of a definition that its lines show. -/
structure SameParts (a b : Algorithm) : Prop where
  name : a.name = b.name
  parameters : argumentList ((signature a).parameters.map Argument.plain) =
    argumentList ((signature b).parameters.map Argument.plain)
  inputs : argumentList (signature a).inputs = argumentList (signature b).inputs
  body : (computation a (a.outputs.map outputLocal)).map (fun st => "\t" ++ st.text) =
    (computation b (b.outputs.map outputLocal)).map fun st => "\t" ++ st.text

theorem sameParts_of_definitionLines {a b : Algorithm} {s : Settings}
    (ha : isIdentifier a.name = true)
    (h : definitionLines a s (signature a) (a.outputs.map outputLocal) =
      definitionLines b s (signature b) (b.outputs.map outputLocal)) : SameParts a b := by
  have hname : a.name = b.name := by
    have hfirst := congrArg List.head? h
    simpa [definitionLines] using hfirst
  have hb : isIdentifier b.name = true := hname ▸ ha
  have hconstructor : Carries (definitionLines a s (signature a) (a.outputs.map outputLocal)) _ _
      _ := definition_carries_constructor ha
  have hblock : block? _ _ (definitionLines a s (signature a) (a.outputs.map outputLocal)) = _ :=
    block?_definitionLines ha
  rw [h, hname] at hconstructor hblock
  rw [block?_definitionLines hb, Option.some.injEq, Prod.mk.injEq] at hblock
  obtain ⟨hhead, hbody⟩ := hblock
  constructor
  case name => exact hname
  case parameters => exact hconstructor.unique (definition_carries_constructor hb)
  case inputs => exact ((String.append_right_inj _).1 ((String.append_left_inj _).1 hhead)).symm
  case body => exact hbody.symm

end Native

variable {s : Settings} {d e : Descriptor} {a b : Algorithm} {x y : Artifact}

/-- Two descriptors are defined by the same lines only if code has the same name, parameters, inputs
and outputs to be written for. The handle may be called anything. -/
theorem definition_determines_signature (hinput : isIdentifier s.inputPrefix = true)
    (houtput : isIdentifier s.outputPrefix = true) (hd : d.HasIdentifiers) (he : e.HasIdentifiers)
    (ha : Algorithm.ofDescriptor s d = .ok a) (hb : Algorithm.ofDescriptor s e = .ok b)
    (hx : emit .definition a s = .ok x) (hy : emit .definition b s = .ok y)
    (h : x.lines = y.lines) : d.SameSignature e := by
  have hdefd : d.IsDefinable := (isOk_emit_definition ha).1 (isOk_iff.2 ⟨x, hx⟩)
  have hdefe : e.IsDefinable := (isOk_emit_definition hb).1 (isOk_iff.2 ⟨y, hy⟩)
  have hname : isIdentifier a.name = true := by
    rw [Algorithm.name, Algorithm.descriptor_of_ok ha]
    exact hd.name
  rw [Native.definition_lines hx, Native.definition_lines hy] at h
  have hparts := Native.sameParts_of_definitionLines hname h
  obtain ⟨-, rfl⟩ := Algorithm.ofDescriptor_eq_ok.1 ha
  obtain ⟨-, rfl⟩ := Algorithm.ofDescriptor_eq_ok.1 hb
  have hinputs := Native.inputs_of_argumentList hd he hinput hdefd.inputs hdefe.inputs hparts.inputs
  have hlength : d.inputs.length = e.inputs.length := by
    simpa using congrArg List.length hinputs
  constructor
  case name => exact hparts.name
  case parameters =>
    refine Native.parameters_of_argumentList hd he ?_ ?_ hparts.parameters
    · exact fun p hp => Tag.native?_isSome_of_isParameterType (hdefd.parameters p hp)
    · exact fun p hp => Tag.native?_isSome_of_isParameterType (hdefe.parameters p hp)
  case inputs => exact hinputs
  case outputs =>
    refine Native.outputs_of_declarations hd he houtput hdefd.outputs hdefe.outputs ?_
    exact Native.declarations_of_computation (by simpa using hlength) hparts.body

/-- Texts that are not in the code differ, and the handle is no identifier. -/
theorem definition_determines_signature_windowing :
    let d : Descriptor := {
      name := "Windowing"
      description := "Applies a window."
      inputs := [⟨"frame", .vectorReal, "the frame"⟩, ⟨"names", .vectorString, ""⟩]
      outputs := [⟨"frame", .vectorVectorReal, "windowed"⟩, ⟨"size", .integer, ""⟩]
      parameters := [⟨"type", .string, "hann", "the window"⟩, ⟨"points", .vectorReal, "[0]", ""⟩] }
    let e : Descriptor := {
      name := "Windowing"
      inputs := [⟨"frame", .vectorReal, ""⟩, ⟨"names", .vectorString, "labels"⟩]
      outputs := [⟨"frame", .vectorVectorReal, ""⟩, ⟨"size", .integer, "its size"⟩]
      parameters := [⟨"type", .string, "none", ""⟩, ⟨"points", .vectorReal, "[1, 2]", "x"⟩] }
    let s : Settings := { inputPrefix := "in", outputPrefix := "in", handlePrefix := "this->" }
    d ≠ e ∧ ∃ a b x y, Algorithm.ofDescriptor s d = .ok a ∧ Algorithm.ofDescriptor s e = .ok b ∧
      emit .definition a s = .ok x ∧ emit .definition b s = .ok y ∧ x.lines = y.lines ∧
      d.SameSignature e := by
  intro d e s
  have hd : d.HasIdentifiers := by
    constructor <;> decide
  have he : e.HasIdentifiers := by
    constructor <;> decide
  exact ⟨by decide, _, _, _, _, rfl, rfl, rfl, rfl, rfl,
    definition_determines_signature (s := s) (by decide) (by decide) hd he rfl rfl rfl rfl rfl⟩

end Bindery
