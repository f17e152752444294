import Bindery.Proofs.Expressible
import Bindery.Proofs.Lines

/-!
# Defaults in generated files

The default of a parameter is written in two files: as an expression behind the argument of
a declared constructor and of `configure`, and as a literal behind a key in the wrapper.
-/

namespace Bindery

/-- A parameter has one native argument, whose default is `expression`. Every declaration of an
algorithm with the parameter has it in both signatures, and every wrapper class has `literal`. -/
structure DefaultStands (p : Parameter) (type expression literal : String) : Prop where
  argument : Native.argument? p = some ⟨type, p.name, some expression⟩
  declared : ∀ (a : Algorithm) (s : Settings) (x : Artifact), p ∈ a.parameters →
    emit .declaration a s = .ok x →
    ∃ arguments, type ++ " " ++ p.name ++ "=" ++ expression ∈ arguments ∧
      ∀ callee ∈ [a.name, "void configure"],
        "\t\t" ++ callee ++ "(" ++ ", ".intercalate arguments ++ ");" ∈ x.lines
  wrapped : ∀ (a : Algorithm) (s : Settings) (x : Artifact), p ∈ a.parameters →
    emit .wrapper a s = .ok x → "    " ++ p.name ++ ": " ++ literal ++ "," ∈ x.lines

namespace Native

/-- The class of the wrapper has a line for the default of every parameter. -/
theorem default_mem_classLines {a : Algorithm} {p : Parameter} (hp : p ∈ a.parameters)
    (s : Settings) (inputs : List Wrapper.Input) :
    "    " ++ p.name ++ ": " ++ Wrapper.defaultLiteral p ++ "," ∈
      Wrapper.classLines a s inputs := by
  have hparameters : a.hasParameters = true := by
    simpa [Algorithm.hasParameters, Descriptor.hasParameters, Algorithm.parameters] using
      List.ne_nil_of_mem hp
  have hline : "    " ++ p.name ++ ": " ++ Wrapper.defaultLiteral p ++ "," ∈
      Wrapper.fieldLines a (s.qualifiedParameterType a.name) := by
    rw [Wrapper.fieldLines, if_pos hparameters]
    refine List.mem_cons_of_mem _ (List.mem_append_left _ (List.mem_append_right _ ?_))
    exact List.mem_map.2 ⟨p, hp, rfl⟩
  rw [Wrapper.classLines]
  exact List.mem_append_left _ (List.mem_append_left _ (List.mem_append_right _ hline))

theorem argument?_of_isParameterType {p : Parameter} (h : p.tag.isParameterType = true) :
    argument? p = some (parameterArgument p) := by
  rw [argument?, if_pos h, native?_eq_some (Tag.native?_isSome_of_isParameterType h)]
  rfl

theorem parameterArgument_mem {a : Algorithm} {p : Parameter} (hp : p ∈ a.parameters) :
    constantType p.tag (nativeType p.tag) ++ " " ++ p.name ++ "=" ++ defaultText p.tag p.default ∈
      (a.parameters.map parameterArgument).map Argument.text := by
  refine List.mem_map.2 ⟨parameterArgument p, List.mem_map_of_mem hp, ?_⟩
  simp [parameterArgument, Argument.text, ← String.toList_inj]

end Native

/-- What the native writer and the wrapper make of a default is what stands in the files. -/
theorem Parameter.default_stands {p : Parameter} (h : p.tag.isParameterType = true) :
    DefaultStands p (Native.constantType p.tag (Native.nativeType p.tag))
      (Native.defaultText p.tag p.default) (Wrapper.defaultLiteral p) where
  argument := Native.argument?_of_isParameterType h
  declared a s x hp hx := by
    refine ⟨_, Native.parameterArgument_mem hp, ?_⟩
    rw [Native.declaration_lines hx]
    simp [Native.declarationLines, Native.signature, Native.argumentList]
  wrapped a s x hp hx := by
    rw [Wrapper.wrapperClass_lines hx]
    exact Native.default_mem_classLines hp s _

/-! ### By type -/

theorem DefaultStands.of_real {p : Parameter} (h : p.tag = .real) :
    DefaultStands p "const float" (Native.realDefault p.default)
      (Wrapper.realLiteral p.default) := by
  obtain ⟨name, tag, default, description⟩ := p
  cases h
  exact Parameter.default_stands rfl

theorem DefaultStands.of_integer {p : Parameter} (h : p.tag = .integer) :
    DefaultStands p "const int" p.default p.default := by
  obtain ⟨name, tag, default, description⟩ := p
  cases h
  exact Parameter.default_stands rfl

theorem DefaultStands.of_vectorReal {p : Parameter} (h : p.tag = .vectorReal) :
    DefaultStands p "const std::vector<float>&"
      ("std::vector<float>" ++
        if Text.trimmed p.default = "[]" then "()" else Native.braced p.default)
      p.default := by
  obtain ⟨name, tag, default, description⟩ := p
  cases h
  exact Parameter.default_stands rfl

end Bindery
