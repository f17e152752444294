import Bindery.Proofs.Execution

/-!
# What computations mean

The function that computes, read from the lines of a definition, does for every list of
inputs and outputs what the descriptor says: each slot has its own variable, the handle
computes once and in between, and the result has the answers under their names.
-/

namespace Bindery.Native

/-! ## The order of statements -/

namespace Statement

def bindsInput (slot : String) : Statement → Bool
  | .bindInput _ name _ => name == slot
  | _ => false

def bindsOutput (slot : String) : Statement → Bool
  | .bindOutput _ name _ => name == slot
  | _ => false

def declares (v : String) : Statement → Bool
  | .declare _ ident => ident == v
  | _ => false

/-- The variables that have to be there for the statement. -/
def uses : Statement → List String
  | .create handle _ parameters | .configure handle parameters => handle :: parameters
  | .destroy handle | .compute handle | .reset handle => [handle]
  | .bindInput handle _ ident | .bindOutput handle _ ident => [handle, ident]
  | .setResult result _ ident => [result, ident]
  | .giveResult result => [result]
  | .declare .. | .beginResult _ => []

/-- The statement is one for before the handle computes. -/
def isPreparation : Statement → Bool
  | .bindInput .. | .declare .. | .bindOutput .. => true
  | _ => false

/-- The statement is one for after the handle has computed. -/
def isDelivery : Statement → Bool
  | .beginResult _ | .setResult .. | .giveResult _ => true
  | _ => false

end Statement

theorem filter_map_eq {α : Type} {g : α → Statement} {key : α → String} {p : Statement → Bool}
    {l : List α} {x : α} (hkeys : (l.map key).Nodup) (hx : x ∈ l)
    (hp : ∀ y, p (g y) = (key y == key x)) : (l.map g).filter p = [g x] := by
  induction l with
  | nil => cases hx
  | cons y rest ih =>
      rw [List.map_cons, List.nodup_cons] at hkeys
      rw [List.map_cons, List.filter_cons, hp]
      rcases List.mem_cons.1 hx with rfl | hx
      · have hrest : (rest.map g).filter p = [] := by
          simp only [List.filter_eq_nil_iff, List.forall_mem_map, hp, beq_iff_eq]
          intro z hz heq
          exact hkeys.1 (heq ▸ List.mem_map_of_mem hz)
        rw [beq_self_eq_true, if_pos rfl, hrest]
      · have hy : key y ≠ key x := fun heq => hkeys.1 (heq ▸ List.mem_map_of_mem hx)
        rw [beq_eq_false_iff_ne.2 hy, if_neg Bool.false_ne_true, ih hkeys.2 hx]

def inputVariables (s : Settings) (d : Descriptor) : List (String × String) :=
  d.inputs.map fun i => (i.name, s.inputPrefix ++ i.name)

def outputVariables (s : Settings) (d : Descriptor) : List (String × String) :=
  d.outputs.map fun o => (o.name, s.outputPrefix ++ o.name)

/-- The type of what a native type refers to, which is that type without the reference mark at its
end, or all of it where there is no such mark. -/
structure IsValueType (native type : String) : Prop where
  unmarked : '&' ∉ type.toList
  stem : native = type ∨ native = type ++ "&"

theorem isValueType_valueType {t : Tag} {native : String} (h : t.native? = some native) :
    IsValueType native (valueType native) := by
  cases t <;> cases h <;> constructor <;> decide

/-- A computation does what the descriptor says. -/
structure Computation.Realizes (m : Computation) (s : Settings) (d : Descriptor) : Prop where
  arguments : m.arguments = d.inputs.map fun i => (nativeType i.tag, s.inputPrefix ++ i.name)
  /-- Every input slot is bound once, to the argument of that input. -/
  inputs : ∀ i ∈ d.inputs, m.body.filter (·.bindsInput i.name) =
    [.bindInput (s.handle d.name) i.name (s.inputPrefix ++ i.name)]
  /-- Every output slot is bound once, to its own local variable. -/
  outputs : ∀ o ∈ d.outputs, m.body.filter (·.bindsOutput o.name) =
    [.bindOutput (s.handle d.name) o.name (s.outputPrefix ++ o.name)]
  /-- Every local variable is declared once, as a value, and before it is used. -/
  declared : ∀ o ∈ d.outputs, ∃ native type before after, o.tag.native? = some native ∧
    IsValueType native type ∧
    m.body = before ++ .declare type (s.outputPrefix ++ o.name) :: after ∧
    (∀ st ∈ before, s.outputPrefix ++ o.name ∉ st.uses) ∧
    ∀ st ∈ before ++ after, st.declares (s.outputPrefix ++ o.name) = false
  /-- The handle computes once, after everything is bound and before anything is delivered. -/
  computed : ∃ before after, m.body = before ++ .compute (s.handle d.name) :: after ∧
    (∀ st ∈ before, st.isPreparation = true) ∧ ∀ st ∈ after, st.isDelivery = true
  /-- Whatever the arguments have and the algorithm answers, all statements can be executed, and the
  result has the answers under the names of the outputs in order. -/
  runs : ∀ (V : Type) (answer : List (String × V) → String → V) (values : String → V),
    ∃ f, (Frame.start (s.handle d.name) (m.arguments.map (·.2)) values).run answer m.body = some f ∧
      Frame.Ends answer (inputVariables s d) (outputVariables s d) values f

variable {s : Settings} {d : Descriptor} {a : Algorithm} {x : Artifact}

theorem filter_bindsInput {outputs : List Local} {i : Slot}
    (hnames : (a.inputs.map (·.name)).Nodup) (hi : i ∈ a.inputs) :
    (computation a outputs).filter (·.bindsInput i.name) =
      [.bindInput a.handle i.name i.ident] := by
  have hinput := filter_map_eq (g := fun i : Slot => .bindInput a.handle i.name i.ident)
    (p := (·.bindsInput i.name)) hnames hi fun _ => rfl
  simpa [computation, List.filter_map, Function.comp_def, Statement.bindsInput] using hinput

theorem filter_bindsOutput {outputs : List Local} {o : Local}
    (hnames : (outputs.map (·.name)).Nodup) (ho : o ∈ outputs) :
    (computation a outputs).filter (·.bindsOutput o.name) =
      [.bindOutput a.handle o.name o.ident] := by
  have houtput := filter_map_eq (g := fun o : Local => .bindOutput a.handle o.name o.ident)
    (p := (·.bindsOutput o.name)) hnames ho fun _ => rfl
  simpa [computation, List.filter_map, Function.comp_def, Statement.bindsOutput] using houtput

theorem exists_declaration {outputs : List Local} {o : Local}
    (hapart : Apart a outputs) (ho : o ∈ outputs) :
    ∃ before after, computation a outputs = before ++ .declare o.type o.ident :: after ∧
      (∀ st ∈ before, o.ident ∉ st.uses) ∧
      ∀ st ∈ before ++ after, st.declares o.ident = false := by
  have hidents := hapart.idents
  have hfresh := hapart.locals o ho
  -- nothing is declared after the declarations, whatever it is
  obtain ⟨tail, hbody, htail⟩ : ∃ tail, computation a outputs =
      a.inputs.map (fun i => .bindInput a.handle i.name i.ident) ++
        (outputs.map (fun o => .declare o.type o.ident) ++ tail) ∧
      ∀ st ∈ tail, st.declares o.ident = false := by
    refine ⟨outputs.map (fun o => .bindOutput a.handle o.name o.ident) ++
      (.compute a.handle :: .beginResult (resultName a) ::
        (outputs.map (fun o => .setResult (resultName a) o.name o.ident) ++
          [.giveResult (resultName a)])), by simp [computation], ?_⟩
    simp only [List.mem_append, List.mem_cons, List.mem_map, List.not_mem_nil, or_false]
    rintro st (⟨p, -, rfl⟩ | rfl | rfl | ⟨p, -, rfl⟩ | rfl) <;> rfl
  obtain ⟨done, rest, rfl⟩ := List.append_of_mem ho
  have hother : ∀ p ∈ done ++ rest, p.ident ≠ o.ident := by
    intro p hp heq
    simp only [List.map_append, List.map_cons, List.nodup_append, List.nodup_cons] at hidents
    rcases List.mem_append.1 hp with hp | hp
    · exact hidents.2.2 _ (List.mem_map_of_mem hp) _ List.mem_cons_self heq
    · exact hidents.2.1.1 (heq ▸ List.mem_map_of_mem hp)
  refine ⟨a.inputs.map (fun i => .bindInput a.handle i.name i.ident) ++
      done.map (fun o => .declare o.type o.ident),
    rest.map (fun o => .declare o.type o.ident) ++ tail, by simp [hbody], ?_, ?_⟩
  · intro st hst huse
    rcases List.mem_append.1 hst with hst | hst
    · obtain ⟨i, hi, rfl⟩ := List.mem_map.1 hst
      simp only [Statement.uses, List.mem_cons, List.not_mem_nil, or_false] at huse
      rcases huse with heq | heq
      · exact hfresh (List.mem_cons.2 (.inl heq))
      · exact hfresh (List.mem_cons_of_mem _ (heq ▸ List.mem_map_of_mem hi))
    · obtain ⟨p, -, rfl⟩ := List.mem_map.1 hst
      cases huse
  · intro st hst
    simp only [List.mem_append, List.mem_map] at hst
    rcases hst with (⟨i, -, rfl⟩ | ⟨p, hp, rfl⟩) | ⟨p, hp, rfl⟩ | hst
    · rfl
    · exact beq_eq_false_iff_ne.2 (hother p (List.mem_append_left _ hp))
    · exact beq_eq_false_iff_ne.2 (hother p (List.mem_append_right _ hp))
    · exact htail st hst

theorem exists_compute (a : Algorithm) (outputs : List Local) :
    ∃ before after, computation a outputs = before ++ .compute a.handle :: after ∧
      (∀ st ∈ before, st.isPreparation = true) ∧ ∀ st ∈ after, st.isDelivery = true := by
  refine ⟨a.inputs.map (fun i => .bindInput a.handle i.name i.ident) ++
      (outputs.map (fun o => .declare o.type o.ident) ++
        outputs.map (fun o => .bindOutput a.handle o.name o.ident)),
    .beginResult (resultName a) ::
      (outputs.map (fun o => .setResult (resultName a) o.name o.ident) ++
        [.giveResult (resultName a)]), by simp [computation], ?_, ?_⟩
  · simp only [List.mem_append, List.mem_map]
    rintro st (⟨i, -, rfl⟩ | ⟨o, -, rfl⟩ | ⟨o, -, rfl⟩) <;> rfl
  · simp only [List.mem_cons, List.mem_append, List.mem_map, List.not_mem_nil, or_false]
    rintro st (rfl | ⟨o, -, rfl⟩ | rfl) <;> rfl

/-- Read as a program, the function that computes binds every input and every output of a valid
descriptor to its own variable, computes once, and gives back every output under its name. -/
theorem computation_realizes (hd : d.IsValid) (ha : Algorithm.ofDescriptor s d = .ok a)
    (hv : HasDistinctVariables a) (hx : emit .definition a s = .ok x) :
    ∃ m, Computation.read? d.name x.lines = some m ∧ m.Realizes s d := by
  obtain ⟨hhandle, hinputs, houtputs⟩ : a.handle = s.handle d.name ∧
      a.inputs = d.inputs.map (Algorithm.slot s.inputPrefix) ∧
      a.outputs = d.outputs.map (Algorithm.slot s.outputPrefix) := by
    obtain ⟨-, rfl⟩ := Algorithm.ofDescriptor_eq_ok.1 ha
    exact ⟨rfl, rfl, rfl⟩
  let locals := d.outputs.map fun o => outputLocal (Algorithm.slot s.outputPrefix o)
  have hlocals : a.outputs.map outputLocal = locals := by
    rw [houtputs]
    exact List.map_map ..
  have hcomplete : ∀ o ∈ d.outputs, o.tag.native?.isSome = true := by
    have hok := isOk_locals.1 (isOk_definition.1 (isOk_iff.2 ⟨x, hx⟩)).2.2
    rw [houtputs] at hok
    exact (Algorithm.forall_slot_tag (P := fun t => t.native?.isSome = true)).1 hok
  have hinputNames : (a.inputs.map (·.name)).Nodup := by
    rw [hinputs, List.map_map]
    exact hd.hasDistinctNames.inputs
  have houtputNames : (locals.map (·.name)).Nodup := by
    rw [List.map_map]
    exact hd.hasDistinctNames.outputs
  have hapart : Apart a locals := by
    have hidents : locals.map (·.ident) = a.outputs.map (·.ident) := by
      rw [← hlocals, List.map_map]
      rfl
    apply Apart.of_nodup
    rw [hidents]
    exact hv.distinct
  have hread := read?_definition hd.hasIdentifiers ha hv hx
  rw [hlocals] at hread
  refine ⟨_, hread, ?_⟩
  constructor
  case arguments =>
    rw [hinputs]
    exact List.map_map ..
  case inputs =>
    intro i hi
    rw [← hhandle]
    have hslot : Algorithm.slot s.inputPrefix i ∈ a.inputs := by
      rw [hinputs]
      exact List.mem_map_of_mem hi
    exact filter_bindsInput hinputNames hslot
  case outputs =>
    intro o ho
    rw [← hhandle]
    exact filter_bindsOutput houtputNames (List.mem_map_of_mem ho)
  case declared =>
    intro o ho
    obtain ⟨before, after, hbody, hbefore, hafter⟩ :=
      exists_declaration hapart (List.mem_map_of_mem ho)
    have hnative := native?_eq_some (hcomplete o ho)
    exact ⟨_, _, before, after, hnative, isValueType_valueType hnative, hbody, hbefore, hafter⟩
  case computed =>
    rw [← hhandle]
    exact exists_compute a _
  case runs =>
    intro V answer values
    have hrun := Frame.run_computation answer values hinputNames houtputNames hapart
    have hslots : a.inputs.map (fun i => (i.name, i.ident)) = inputVariables s d := by
      rw [hinputs]
      exact List.map_map ..
    have hvariables : locals.map (fun o => (o.name, o.ident)) = outputVariables s d :=
      List.map_map ..
    rw [hhandle, hslots, hvariables] at hrun
    simpa [List.map_map, Function.comp_def] using hrun

/-- An input and an output of one name, and a second output of another type. -/
theorem computation_realizes_windowing :
    let d : Descriptor := {
      name := "Windowing"
      inputs := [⟨"frame", .vectorReal, ""⟩, ⟨"gain", .real, ""⟩]
      outputs := [⟨"frame", .vectorReal, ""⟩, ⟨"size", .integer, ""⟩] }
    ∃ a x m, d.IsValid ∧ Algorithm.ofDescriptor {} d = .ok a ∧ HasDistinctVariables a ∧
      emit .definition a {} = .ok x ∧ Computation.read? d.name x.lines = some m ∧
      m.Realizes {} d := by
  intro d
  have hd : d.IsValid := by decide
  have hv : HasDistinctVariables ⟨d, Settings.handle {} d.name,
      d.inputs.map (Algorithm.slot "input_"), d.outputs.map (Algorithm.slot "output_")⟩ := by
    constructor <;> decide
  obtain ⟨m, hm, hrealizes⟩ := computation_realizes (s := {}) hd rfl hv rfl
  exact ⟨_, _, m, hd, rfl, hv, rfl, hm, hrealizes⟩

end Bindery.Native
