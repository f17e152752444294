import Bindery.Proofs.Assembly
import Bindery.Proofs.Members
import Bindery.Proofs.Operations
import Bindery.Proofs.Signatures

/-!
# Parameter types and the wrapper

A wrapper class refers to a type that another writer declares and a third place exports.
What a reader finds in all three is one list of parameters, and nothing in any of them
where an algorithm has no parameter.
-/

namespace Bindery

namespace Wrapper

/-! ## Reading types -/

/-- A field of a type: its name, and the type before the comma. -/
def field? (line : String) : Option (String × String) :=
  match Piece.read? [.text "  ", .hole .word, .text ": ", .hole .all] line.toList with
  | some [name, rest] => (between? "" "," rest).map (name, ·)
  | _ => none

/-- The name of a type, and its fields with their types. -/
def parameterType? (lines : List String) : Option (String × List (String × String)) := do
  let (head, body) ← block? "type " "\x7d;" lines
  let name ← between? "type " " = \x7b" head
  let fields ← body.mapM field?
  return (name, fields)

variable {a : Algorithm} {s : Settings} {x : Artifact} {d : Descriptor}

theorem field?_line {f : Field} (hname : IsWord f.parameter.name.toList) :
    field? f.line = some (f.parameter.name, f.type) := by
  have hfill : f.line.toList = Piece.fill [.text "  ", .hole .word, .text ": ", .hole .all]
      [f.parameter.name, f.type ++ ","] := by
    simp [Field.line, Piece.fill]
  have hread := Piece.read?_fill [.text "  ", .hole .word, .text ": ", .hole .all]
    [f.parameter.name, f.type ++ ","] (by decide) ⟨hname, fun _ _ => rfl, trivial⟩
  have htype := between?_append "" f.type ","
  rw [String.empty_append] at htype
  simp only [field?, hfill, hread, htype, Option.map_some]

theorem parameterType?_typeLines {fs : List Field}
    (hwords : ∀ f ∈ fs, IsWord f.parameter.name.toList) :
    parameterType? (typeLines a fs) =
      some (Settings.parameterType a.name, fs.map fun f => (f.parameter.name, f.type)) := by
  let before := ["/**", " * Parameter object type accepted by `" ++ a.name ++ "` algorithm",
    " *@type"] ++ fs.map Field.comment ++ ["*/"]
  have hlines : typeLines a fs = before ++
      ("type " ++ Settings.parameterType a.name ++ " = \x7b") ::
        (fs.map Field.line ++ ["\x7d;"]) := by
    simp only [typeLines, before, List.append_assoc, List.cons_append, List.nil_append]
  have hbefore : ∀ l ∈ before, ¬ "type ".toList <+: l.toList := by
    intro l hl
    simp only [before, List.mem_append, List.mem_cons, List.mem_map, List.not_mem_nil,
      or_false] at hl
    rcases hl with ((rfl | rfl | rfl) | ⟨f, -, rfl⟩) | rfl
    · decide
    · rw [String.append_assoc]
      exact Piece.not_prefix_of_differ _ (by decide)
    · decide
    · delta Field.comment
      simp only [String.append_assoc]
      exact Piece.not_prefix_of_differ _ (by decide)
    · decide
  have hopen : "\x7d;" ∉ fs.map Field.line := by
    intro hmem
    obtain ⟨f, -, hline⟩ := List.mem_map.1 hmem
    have hchars := congrArg (·.toList.take 1) hline
    simp [Field.line] at hchars
  have hblock : block? "type " "\x7d;" (typeLines a fs) =
      some ("type " ++ Settings.parameterType a.name ++ " = \x7b", fs.map Field.line) := by
    rw [hlines]
    exact block?_eq hbefore (by simp) hopen
  have hname := between?_append "type " (Settings.parameterType a.name) " = \x7b"
  have hfields : (fs.map Field.line).mapM field? =
      some (fs.map fun f => (f.parameter.name, f.type)) := by
    rw [List.mapM_map]
    exact mapM_some fun f hf => field?_line (hwords f hf)
  simp only [parameterType?, hblock, hname, hfields, Option.bind_eq_bind, Option.bind_some]
  rfl

/-- A parameter as a field of its type. -/
def parameterField (p : Parameter) : Field := ⟨p, wrapperType p.tag⟩

theorem fields_eq {fs : List Field} (h : fields a = .ok fs) :
    fs = a.parameters.map parameterField := by
  refine eq_map_of_mapM (fun p f hf => ?_) h
  obtain ⟨type, htype, rfl⟩ := map_eq_ok.1 hf
  rw [parameterField, wrapperType, Native.require_eq_ok.1 htype]
  rfl

theorem parameterType_lines (h : parameterType a = .ok x) :
    x.lines = if a.hasParameters then typeLines a (a.parameters.map parameterField) else [] := by
  unfold parameterType at h
  split at h
  · rename_i hp
    obtain ⟨fs, hfs, rfl⟩ := map_eq_ok.1 h
    rw [fields_eq hfs, if_pos hp]
  · rename_i hp
    cases h
    rw [if_neg hp]
    rfl

theorem parameterType_lines_ne_nil (h : parameterType a = .ok x) :
    x.lines ≠ [] ↔ a.hasParameters = true := by
  rw [parameterType_lines h]
  split
  · rename_i hp
    exact iff_of_true (List.append_ne_nil_of_right_ne_nil _ (List.cons_ne_nil _ _)) hp
  · rename_i hp
    exact iff_of_false (fun hne => hne rfl) hp

/-! ## Agreement -/

theorem qualifiedParameterType_eq (s : Settings) (name : String) :
    s.qualifiedParameterType name = s.typeNamespace ++ ".Params" ++ name := by
  have hdot : ".Params" = "." ++ "Params" := by decide
  simp only [Settings.qualifiedParameterType, Settings.parameterType, hdot, String.append_assoc]

/-- A wrapper class and a parameter type of one descriptor are about the same parameters. -/
structure ParametersAgree (s : Settings) (d : Descriptor) (wrapper types : List String) :
    Prop where
  /-- The defaults are declared with the parameter type, and have a key for every parameter. -/
  declared : defaults? wrapper =
    if d.hasParameters then
      some (s.typeNamespace ++ ".Params" ++ d.name, d.parameters.map (·.name))
    else none
  /-- The type has a field for every parameter. -/
  typed : parameterType? types =
    if d.hasParameters then
      some ("Params" ++ d.name, d.parameters.map fun p => (p.name, wrapperType p.tag))
    else none
  written : types ≠ [] ↔ d.hasParameters = true
  /-- The backend is given every parameter, when it is made and when it is configured. -/
  forwarded : ∃ list,
    Carries wrapper ("    this.algoInstance = new " ++ s.backend ++ "." ++ d.name ++ "(") ");"
      list ∧
    Carries wrapper "    this.algoInstance.configure(" ");" list ∧
    items list = d.parameters.map fun p => "this.params." ++ p.name
  /-- The caller may give parameters where there are any. -/
  taken : ∃ argument, Carries wrapper "  constructor(" ") \x7b" argument ∧
    Carries wrapper "  configure(" ") \x7b" argument ∧
    argument = if d.hasParameters then
      "params: Partial<" ++ s.typeNamespace ++ ".Params" ++ d.name ++ "> = \x7b\x7d" else ""
  members : memberNames wrapper =
    ["algoInstance"] ++ (if d.hasParameters then ["defaultParams", "params"] else []) ++
      ["constructor", "configure", "compute", "delete"] ++
      if d.hasParameters then ["updateParams"] else []

theorem parametersAgree {class' types : Artifact} (hd : d.HasIdentifiers)
    (ha : Algorithm.ofDescriptor s d = .ok a) (hclass : emit .wrapper a s = .ok class')
    (htypes : emit .parameterTypes a s = .ok types) :
    ParametersAgree s d class'.lines types.lines := by
  have hdescriptor := Algorithm.descriptor_of_ok ha
  have hwords : ∀ p ∈ a.parameters, IsWord p.name.toList := by
    rw [Algorithm.parameters, hdescriptor]
    exact fun p hp => isWord_of_isIdentifier (hd.parameters p hp)
  have htypeLines := parameterType_lines htypes
  have hwritten := parameterType_lines_ne_nil htypes
  rw [wrapperClass_lines hclass]
  subst hdescriptor
  constructor
  case declared =>
    rw [← qualifiedParameterType_eq]
    exact defaults?_classLines hwords
  case typed =>
    have hfields : ∀ f ∈ a.parameters.map parameterField, IsWord f.parameter.name.toList := by
      intro f hf
      obtain ⟨p, hp, rfl⟩ := List.mem_map.1 hf
      exact hwords p hp
    rw [htypeLines, Algorithm.hasParameters]
    split
    · rw [parameterType?_typeLines hfields, List.map_map]
      rfl
    · rfl
  case written => exact hwritten
  case forwarded =>
    exact ⟨_, class_carries_create, class_carries_configure, items_forwarded hd.parameters⟩
  case taken =>
    refine ⟨_, class_carries_constructor, class_carries_configuration, ?_⟩
    rw [parameterArgument, qualifiedParameterType_eq]
    simp only [String.append_assoc]
    rfl
  case members => exact memberNames_classLines

end Wrapper

/-! ## Runs -/

namespace Generator

variable {g : Generator} {s : Selection} {ts : List Target} {r : Run}

/-- The artifacts of a name come from one descriptor. -/
theorem emit_of_run (h : (g.run s ts).outcome = .ok r) {name : String} (hname : name ∈ s.resolve) :
    ∃ d a, g.provider name = .ok d ∧ Algorithm.ofDescriptor g.settings d = .ok a ∧
      ∀ t ∈ ts, emit t a g.settings = .ok (g.written (t, name)) := by
  obtain ⟨a, hfetch⟩ := isOk_iff.1 ((isOk_run.1 (isOk_iff.2 ⟨r, h⟩)).1 name hname)
  obtain ⟨d, hd, ha⟩ := fetch_eq_ok.1 hfetch
  refine ⟨d, a, hd, ha, fun t ht => ?_⟩
  have hartifact := artifact_of_run h ht hname
  rwa [artifact, hfetch, ok_bind] at hartifact

end Generator

/-- The algorithms of a selection that a catalog has parameters for. -/
def Catalog.parameterized (c : Catalog) (s : Selection) : List String :=
  s.resolve.filter fun name => (c.get? name).any Descriptor.hasParameters

section Catalogs

variable {c : Catalog} {settings : Settings} {s : Selection} {ts : List Target} {r : Run}

theorem Catalog.get?_of_descriptor {name : String} {d : Descriptor}
    (hd : c.descriptor name = .ok d) : c.get? name = some d := by
  unfold descriptor at hd
  cases hget : c.get? name with
  | none => simp [hget] at hd
  | some found => simpa [hget] using hd

/-- The block lists the parameter types that are there, and those are the ones of algorithms with
parameters. -/
theorem exportBlock_of_run (hc : c.Built)
    (h : ((Generator.mk c.descriptor settings).run s ts).outcome = .ok r)
    (ht : .parameterTypes ∈ ts) :
    Wrapper.exportBlock r.artifacts = ["export \x7b"] ++
      (c.parameterized s).map (fun name => "  Params" ++ name ++ ",") ++
        ["\x7d"] := by
  let g : Generator := ⟨c.descriptor, settings⟩
  have hfiled := Generator.written_filed (g := g) fun _ _ hd => hc.indexed.name_eq hd
  have hkept : ∀ name ∈ s.resolve,
      (decide ((g.written (.parameterTypes, name)).target = .parameterTypes) &&
        !(g.written (.parameterTypes, name)).isEmpty) =
      (c.get? name).any Descriptor.hasParameters := by
    intro name hname
    obtain ⟨d, a, hd, ha, hemit⟩ := Generator.emit_of_run h hname
    have hlines := Wrapper.parameterType_lines_ne_nil (hemit .parameterTypes ht)
    rw [(hfiled _).1, Catalog.get?_of_descriptor hd, Artifact.isEmpty, Bool.eq_iff_iff]
    simpa [Algorithm.hasParameters, Algorithm.descriptor_of_ok ha] using hlines
  have hline : (fun x : Artifact => "  " ++ Settings.parameterType x.algorithm ++ ",") ∘
      (fun name => g.written (.parameterTypes, name)) =
        fun name => "  Params" ++ name ++ "," := by
    funext name
    have hstart : "  Params" = "  " ++ "Params" := by decide
    rw [Function.comp_apply, (hfiled (.parameterTypes, name)).2, Settings.parameterType, hstart]
    simp only [String.append_assoc]
  rw [← Run.exportBlock_forTarget, Generator.forTarget_of_run h ht, Wrapper.exportBlock,
    List.filter_map, List.map_map, Catalog.parameterized, ← List.filter_congr hkept, ← hline]
  rfl

end Catalogs

/-- Wrapper classes, parameter types and the block that exports the types are about the same
algorithms and the same parameters. -/
theorem parameter_types_agree {c : Catalog} (hc : c.Built)
    (hids : ∀ d ∈ c.descriptors, d.HasIdentifiers) (settings : Settings) (s : Selection)
    (ts : List Target) (r : Run)
    (h : ((Generator.mk c.descriptor settings).run s ts).outcome = .ok r)
    (hwrapper : .wrapper ∈ ts) (htypes : .parameterTypes ∈ ts) :
    (∀ name ∈ s.resolve, ∃ d wrapper types, c.get? name = some d ∧
      r.get? name .wrapper = some wrapper ∧ r.get? name .parameterTypes = some types ∧
      Wrapper.ParametersAgree settings d wrapper.lines types.lines) ∧
    r.exports = some (["export \x7b"] ++
      (c.parameterized s).map (fun name => "  Params" ++ name ++ ",") ++
        ["\x7d"]) ∧
    (c.parameterized s).Nodup := by
  refine ⟨fun name hname => ?_, ?_, s.nodup_resolve.filter _⟩
  · obtain ⟨d, a, hd, ha, hemit⟩ := Generator.emit_of_run h hname
    have hnames : ∀ name d, c.descriptor name = .ok d → d.name = name :=
      fun _ _ hd => hc.indexed.name_eq hd
    have hget := Catalog.get?_of_descriptor hd
    have hmem := (hc.indexed.get?_eq_some.1 hget).1
    exact ⟨d, _, _, hget, Generator.get?_of_run h hnames hwrapper hname,
      Generator.get?_of_run h hnames htypes hname,
      Wrapper.parametersAgree (hids d hmem) ha (hemit .wrapper hwrapper)
        (hemit .parameterTypes htypes)⟩
  · rw [Generator.exports_of_run h, if_pos htypes, exportBlock_of_run hc h htypes]

/-- One algorithm with parameters between two without. -/
theorem parameter_types_agree_mixed :
    ∃ (c : Catalog) (r : Run), c.Built ∧ (∀ d ∈ c.descriptors, d.HasIdentifiers) ∧
      ((Generator.mk c.descriptor {}).run { included := ["Energy", "Windowing", "Mix"] }
        Target.all).outcome = .ok r ∧
      r.exports = some ["export \x7b", "  ParamsWindowing,", "\x7d"] ∧
      ∀ name ∈ ["Energy", "Windowing", "Mix"], ∃ d wrapper types, c.get? name = some d ∧
        r.get? name .wrapper = some wrapper ∧ r.get? name .parameterTypes = some types ∧
        Wrapper.ParametersAgree {} d wrapper.lines types.lines := by
  let energy : Descriptor := {
    name := "Energy"
    inputs := [⟨"array", .vectorReal, ""⟩]
    outputs := [⟨"energy", .real, ""⟩] }
  let windowing : Descriptor := {
    name := "Windowing"
    inputs := [⟨"frame", .vectorReal, ""⟩]
    outputs := [⟨"frame", .vectorReal, ""⟩]
    parameters := [⟨"type", .string, "hann, or none", ""⟩, ⟨"points", .vectorReal, "[0, 1]", ""⟩] }
  let mix : Descriptor := {
    name := "Mix"
    inputs := [⟨"left", .vectorReal, ""⟩, ⟨"right", .vectorReal, ""⟩]
    outputs := [⟨"signal", .vectorReal, ""⟩] }
  let c : Catalog := ⟨[energy, windowing, mix], [("Mix", 2), ("Windowing", 1), ("Energy", 0)]⟩
  have hc : c.Built :=
    .insert (.insert (.insert .empty (d := energy) rfl) (d := windowing) rfl) (d := mix) rfl
  have hids : ∀ d ∈ c.descriptors, d.HasIdentifiers := by
    intro d hd
    simp only [c, List.mem_cons, List.not_mem_nil, or_false] at hd
    rcases hd with rfl | rfl | rfl <;> constructor <;> decide
  have hok : ((Generator.mk c.descriptor {}).run { included := ["Energy", "Windowing", "Mix"] }
      Target.all).outcome.isOk = true := by rfl
  obtain ⟨r, hr⟩ := isOk_iff.1 hok
  obtain ⟨hagree, hexports, -⟩ := parameter_types_agree hc hids {} _ _ r hr (by decide) (by decide)
  exact ⟨c, r, hc, hids, hr, hexports, hagree⟩

end Bindery
