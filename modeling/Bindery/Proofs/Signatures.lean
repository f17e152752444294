import Bindery.Proofs.Expressible
import Bindery.Proofs.Forwarding
import Bindery.Proofs.Heads

/-!
# Signatures agree on all surfaces

Four writers put the parameters and the inputs of an algorithm into code, each with its
own template. What a reader finds in the four artifacts is one list of parameters and
one list of inputs, in the order of the descriptor.
-/

namespace Bindery

open Native (nativeType constantType defaultText)

/-! ## Lists in code -/

/-- The type of a parameter in native code. -/
def Parameter.nativeArgument (p : Parameter) : String := constantType p.tag (nativeType p.tag)

/-- Quoted names and values in turn. -/
def namedItems (ps : List Parameter) : List String :=
  ps.flatMap fun p => ["\"" ++ p.name ++ "\"", p.name]

namespace Native

/-- Joining named arguments is joining their items. -/
theorem namedArguments_eq (ps : List Parameter) :
    namedArguments (ps.map (·.name)) = ", ".intercalate (namedItems ps) := by
  have hquote : "\", " = "\"" ++ ", " := by simp
  unfold namedArguments
  rw [hquote]
  induction ps with
  | nil => rfl
  | cons p ps ih =>
      cases ps with
      | nil => simp [namedItems, String.append_assoc]
      | cons q ps =>
          simp only [namedItems, List.map_cons, List.flatMap_cons, String.intercalate_cons_cons,
            List.cons_append, List.nil_append] at ih ⊢
          rw [ih]
          simp only [String.append_assoc]

theorem factoryArguments_eq (name : String) (ps : List Parameter) :
    factoryArguments name (ps.map (·.name)) =
      ", ".intercalate (("\"" ++ name ++ "\"") :: namedItems ps) := by
  cases ps with
  | nil => simp [factoryArguments, namedItems]
  | cons p ps =>
      have hitems : namedItems (p :: ps) =
          ("\"" ++ p.name ++ "\"") :: p.name :: namedItems ps := rfl
      have hne : ((p :: ps).map (·.name)).isEmpty = false := rfl
      rw [factoryArguments, namedArguments_eq, hne, hitems]
      simp only [String.intercalate_cons_cons, Bool.false_eq_true, if_false, String.append_assoc]

/-- Declarations have a default after every parameter. -/
theorem declared_eq (ps : List Parameter) :
    argumentList (ps.map parameterArgument) =
      ", ".intercalate (ps.map fun p =>
        p.nativeArgument ++ " " ++ p.name ++ "=" ++ defaultText p.tag p.default) := by
  simp only [argumentList, List.map_map]
  congr 2
  funext p
  simp [parameterArgument, Argument.text, Parameter.nativeArgument, String.append_assoc]

/-- Definitions leave the defaults out. -/
theorem defined_eq (ps : List Parameter) :
    argumentList ((ps.map parameterArgument).map Argument.plain) =
      ", ".intercalate (ps.map fun p => p.nativeArgument ++ " " ++ p.name) := by
  simp only [argumentList, List.map_map]
  congr 2
  funext p
  simp [parameterArgument, Argument.plain, Argument.text, Parameter.nativeArgument]

theorem computed_eq (ps : List Pin) (before : String) :
    argumentList ((ps.map (Algorithm.slot before)).map inputArgument) =
      ", ".intercalate (ps.map fun i => nativeType i.tag ++ " " ++ (before ++ i.name)) := by
  simp only [argumentList, List.map_map]
  congr 2
  funext i
  simp [inputArgument, Argument.text, Algorithm.slot]

end Native

/-! ## Items that can be read back -/

theorem isItem_of_isIdentifier {name : String} (h : isIdentifier name = true) : IsItem name := by
  constructor
  · obtain ⟨c, rest, hname, -⟩ := exists_cons_of_isIdentifier h
    intro hnil
    rw [hnil] at hname
    cases hname
  · exact (isWord_of_isIdentifier h).not_mem (by decide)

theorem IsItem.append {u v : String} (hu : IsItem u) (hv : ',' ∉ v.toList) : IsItem (u ++ v) := by
  constructor
  · intro hnil
    exact hu.1 (String.append_eq_empty_iff.1 hnil).1
  · simp [hu.2, hv]

theorem isItem_quoted {name : String} (h : isIdentifier name = true) :
    IsItem ("\"" ++ name ++ "\"") := by
  have hquote : IsItem "\"" := by
    constructor <;> decide
  exact (hquote.append (isItem_of_isIdentifier h).2).append (by decide)

theorem isItem_namedItems {ps : List Parameter} (hps : ∀ p ∈ ps, isIdentifier p.name = true) :
    ∀ item ∈ namedItems ps, IsItem item := by
  intro item hitem
  obtain ⟨p, hp, hitem⟩ := List.mem_flatMap.1 hitem
  simp only [List.mem_cons, List.not_mem_nil, or_false] at hitem
  rcases hitem with rfl | rfl
  · exact isItem_quoted (hps p hp)
  · exact isItem_of_isIdentifier (hps p hp)

namespace Native

theorem isItem_nativeType {t : Tag} (h : t.native?.isSome = true) : IsItem (nativeType t) := by
  refine ⟨?_, fun hc => (nativeType_marks t _ hc).2.2 rfl⟩
  cases t with
  | other name => cases h
  | _ => first | decide | cases h

theorem isItem_nativeArgument {p : Parameter} (h : p.tag.native?.isSome = true) :
    IsItem p.nativeArgument := by
  have hconst : IsItem "const " := by
    constructor <;> decide
  have htype := (isItem_nativeType h).2
  unfold Parameter.nativeArgument constantType
  split
  · exact (hconst.append htype).append (by decide)
  · exact hconst.append htype

end Native

/-- What is handed on are the parameters, in their order. -/
theorem Wrapper.items_forwarded {a : Algorithm}
    (hps : ∀ p ∈ a.parameters, isIdentifier p.name = true) :
    items (forwarded (parameterNames a)) = a.parameters.map fun p => "this.params." ++ p.name := by
  rw [forwarded, parameterNames, List.map_map]
  refine items_intercalate (List.forall_mem_map.2 fun p hp => ?_)
  have hthis : IsItem "this.params." := by
    constructor <;> decide
  exact hthis.append (isItem_of_isIdentifier (hps p hp)).2

/-! ## Agreement -/

/-- Four artifacts of one descriptor take the same parameters and the same inputs. -/
structure AgreedSignatures (s : Settings) (d : Descriptor)
    (header source binding wrapper : List String) : Prop where
  /-- Every parameter and every input has the native type of its tag. -/
  typed : (∀ p ∈ d.parameters, p.tag.native? = some (nativeType p.tag)) ∧
    ∀ i ∈ d.inputs, i.tag.native? = some (nativeType i.tag)
  /-- The header gives a default to every parameter, in both places. -/
  declared : ∃ list, Carries header ("\t\t" ++ d.name ++ "(") ");" list ∧
    Carries header "\t\tvoid configure(" ");" list ∧
    list = ", ".intercalate (d.parameters.map fun p =>
      p.nativeArgument ++ " " ++ p.name ++ "=" ++ defaultText p.tag p.default)
  /-- The source has the same types and names, in both places. -/
  defined : ∃ list, Carries source (d.name ++ "::" ++ d.name ++ "(") ") \x7b" list ∧
    Carries source ("void " ++ d.name ++ "::configure(") ") \x7b" list ∧
    items list = d.parameters.map fun p => p.nativeArgument ++ " " ++ p.name
  registered : ∃ list, Carries binding "\t.constructor<" ">()" list ∧
    items list = d.parameters.map fun p => nativeType p.tag
  /-- However often the factory is called. -/
  created : ∃ list, (∀ x, Calls source "AlgorithmFactory::create" x ↔ x = list) ∧
    items list = ("\"" ++ d.name ++ "\"") :: namedItems d.parameters
  /-- The handle is configured in place unless it is made anew. -/
  configured : ∃ list, (∀ x, Calls source "->configure" x ↔
      x = list ∧ (d.hasParameters && s.recreates d.name) = false) ∧
    items list = namedItems d.parameters
  forwarded : ∃ list,
    Carries wrapper ("    this.algoInstance = new " ++ s.backend ++ "." ++ d.name ++ "(") ");"
      list ∧
    Carries wrapper "    this.algoInstance.configure(" ");" list ∧
    items list = d.parameters.map fun p => "this.params." ++ p.name
  /-- Header and source take the inputs under their prefixed names. -/
  computed : ∃ list, Carries header "\t\tval compute(" ");" list ∧
    Carries source ("val " ++ d.name ++ "::compute(") ") \x7b" list ∧
    items list = d.inputs.map fun i => nativeType i.tag ++ " " ++ (s.inputPrefix ++ i.name)
  passed : ∃ list, Carries wrapper "    return this.algoInstance.compute(" ");" list ∧
    items list = d.inputs.map (·.name)

variable {s : Settings} {d : Descriptor} {a : Algorithm}
  {header source binding wrapper : Artifact}

end Bindery
