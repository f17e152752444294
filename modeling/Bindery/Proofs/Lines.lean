import Bindery.Emit
import Bindery.Proofs.Outcome

/-!
# The lines that writers give

A writer that succeeds has found a type for everything it looked at. What it writes
is then given by total functions of the algorithm, without any failure in them.
-/

namespace Bindery

namespace Native

/-- The native type of a tag, and nothing where it has none. -/
def nativeType (t : Tag) : String := t.native?.getD ""

theorem native?_eq_some {t : Tag} (h : t.native?.isSome = true) :
    t.native? = some (nativeType t) := by
  obtain ⟨native, hn⟩ := Option.isSome_iff_exists.1 h
  rw [nativeType, hn]
  rfl

/-- A parameter as a native argument. -/
def parameterArgument (p : Parameter) : Argument :=
  ⟨constantType p.tag (nativeType p.tag), p.name, some (defaultText p.tag p.default)⟩

/-- An input as a native argument. -/
def inputArgument (i : Slot) : Argument := ⟨nativeType i.tag, i.ident, none⟩

/-- The signature of an algorithm's native class. -/
def signature (a : Algorithm) : Signature :=
  ⟨a.parameters.map parameterArgument, a.inputs.map inputArgument⟩

/-- An output as a local variable. -/
def outputLocal (o : Slot) : Local := ⟨o.name, valueType (nativeType o.tag), o.ident⟩

theorem require_eq_ok {α : Type} {a : Algorithm} {field : String} {surface : Surface} {tag : Tag}
    {found : Option α} {x : α} : require a field surface tag found = .ok x ↔ found = some x := by
  cases found <;> simp [require]

theorem native_eq {t : Tag} {native : String} (h : t.native? = some native) :
    native = nativeType t := by
  rw [nativeType, h]
  rfl

theorem argument?_eq_some {p : Parameter} {x : Argument} (h : argument? p = some x) :
    x = parameterArgument p := by
  unfold argument? at h
  split at h
  · obtain ⟨native, hn, rfl⟩ := Option.map_eq_some_iff.1 h
    rw [parameterArgument, native_eq hn]
  · cases h

theorem parameters_eq {a : Algorithm} {ps : List Argument} (h : parameters a = .ok ps) :
    ps = a.parameters.map parameterArgument :=
  eq_map_of_mapM (fun _ _ hp => argument?_eq_some (require_eq_ok.1 hp)) h

theorem inputs_eq {a : Algorithm} {is : List Argument} (h : inputs a = .ok is) :
    is = a.inputs.map inputArgument := by
  refine eq_map_of_mapM (fun i x hx => ?_) h
  obtain ⟨native, hn, rfl⟩ := map_eq_ok.1 hx
  rw [inputArgument, native_eq (require_eq_ok.1 hn)]

theorem signature_eq {a : Algorithm} {sig : Signature} (h : Signature.of a = .ok sig) :
    sig = signature a := by
  obtain ⟨ps, hps, h⟩ := bind_eq_ok.1 h
  obtain ⟨is, his, h⟩ := bind_eq_ok.1 h
  cases h
  rw [signature, parameters_eq hps, inputs_eq his]

theorem locals_eq {a : Algorithm} {outputs : List Local} (h : locals a = .ok outputs) :
    outputs = a.outputs.map outputLocal := by
  refine eq_map_of_mapM (fun o x hx => ?_) h
  obtain ⟨native, hn, rfl⟩ := map_eq_ok.1 hx
  rw [outputLocal, native_eq (require_eq_ok.1 hn)]

theorem constructorTypes_eq {a : Algorithm} {types : List String}
    (h : constructorTypes a = .ok types) :
    types = a.parameters.map fun p => nativeType p.tag := by
  refine eq_map_of_mapM (fun p x hx => ?_) h
  have hfound := require_eq_ok.1 hx
  split at hfound
  · exact native_eq hfound
  · cases hfound

theorem declaration_lines {a : Algorithm} {x : Artifact} (h : declaration a = .ok x) :
    x.lines = declarationLines a (signature a) := by
  obtain ⟨sig, hsig, rfl⟩ := map_eq_ok.1 h
  rw [signature_eq hsig]

theorem definition_lines {a : Algorithm} {s : Settings} {x : Artifact}
    (h : definition a s = .ok x) :
    x.lines = definitionLines a s (signature a) (a.outputs.map outputLocal) := by
  obtain ⟨sig, hsig, h⟩ := bind_eq_ok.1 h
  obtain ⟨outputs, houtputs, h⟩ := bind_eq_ok.1 h
  split at h
  · cases h
  · cases h
    rw [signature_eq hsig, locals_eq houtputs]

theorem registration_lines {a : Algorithm} {x : Artifact} (h : registration a = .ok x) :
    x.lines = registrationLines a (a.parameters.map fun p => nativeType p.tag) := by
  obtain ⟨is, -, h⟩ := bind_eq_ok.1 h
  obtain ⟨types, htypes, h⟩ := bind_eq_ok.1 h
  cases h
  rw [constructorTypes_eq htypes]

end Native

namespace Wrapper

/-- The wrapper type of a tag, and nothing where it has none. -/
def wrapperType (t : Tag) : String := t.wrapper?.getD ""

/-- An input as an argument of the wrapper. -/
def inputArgument (i : Slot) : Input :=
  match container? i.tag with
  | some documented => ⟨i.name, "any", documented, i.description⟩
  | none => ⟨i.name, wrapperType i.tag, wrapperType i.tag, i.description⟩

@[simp] theorem inputArgument_name (i : Slot) : (inputArgument i).name = i.name := by
  unfold inputArgument
  split <;> rfl

theorem inputs_eq {a : Algorithm} {is : List Input} (h : inputs a = .ok is) :
    is = a.inputs.map inputArgument := by
  refine eq_map_of_mapM (fun i x hx => ?_) h
  unfold inputArgument
  cases hc : container? i.tag with
  | some documented =>
      simp only [hc] at hx
      cases hx
      rfl
  | none =>
      simp only [hc] at hx
      obtain ⟨mapped, hm, rfl⟩ := map_eq_ok.1 hx
      rw [wrapperType, Native.require_eq_ok.1 hm]
      rfl

theorem wrapperClass_lines {a : Algorithm} {s : Settings} {x : Artifact}
    (h : wrapperClass a s = .ok x) : x.lines = classLines a s (a.inputs.map inputArgument) := by
  obtain ⟨is, his, rfl⟩ := map_eq_ok.1 h
  rw [inputs_eq his]

end Wrapper

end Bindery
