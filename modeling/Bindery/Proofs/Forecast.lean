import Bindery.Console.Survey
import Bindery.Proofs.Expressible

/-!
# What a survey of types foretells

A type summary forgets which algorithm has which tag, how often, and where. It keeps
enough to tell whether code can be written for all targets: the tags that are in the
way are the ones that the printed survey remarks on, and all that it does not show is
an algorithm without outputs.
-/

namespace Bindery

/-! ## Tags in a summary -/

/-- What can be declared in native code has a type in the wrapper as well. -/
theorem Tag.isComplete_eq (t : Tag) : t.isComplete = t.native?.isSome := by
  unfold isComplete
  cases h : t.native?.isSome with
  | true => exact wrapper?_isSome_of_native? h
  | false => rfl

namespace TypeSummary

variable {ds : List Descriptor} {t : Tag}

theorem mem_parameters_collect :
    t ∈ (collect ds).parameters ↔ ∃ d ∈ ds, ∃ p ∈ d.parameters, p.tag = t := by
  simp [collect]

theorem mem_inputs_collect :
    t ∈ (collect ds).inputs ↔ ∃ d ∈ ds, ∃ i ∈ d.inputs, i.tag = t := by
  simp [collect]

theorem mem_outputs_collect :
    t ∈ (collect ds).outputs ↔ ∃ d ∈ ds, ∃ o ∈ d.outputs, o.tag = t := by
  simp [collect]

/-- No tag of a summary is in the way of code for all targets. -/
structure IsClear (s : TypeSummary) : Prop where
  parameters : s.unsupported = []
  inputs : ∀ t ∈ s.inputs, t.isComplete = true
  outputs : ∀ t ∈ s.outputs, t.isComplete = true

theorem unsupported_eq_nil {s : TypeSummary} :
    s.unsupported = [] ↔ ∀ t ∈ s.parameters, t.isParameterType = true := by
  simp [unsupported, List.filter_eq_nil_iff]

/-- What stands in the way of some definition stands in the summary, unless it is the lack of an
output. -/
theorem isClear_collect :
    (∀ d ∈ ds, d.IsDefinable) ↔ (∀ d ∈ ds, d.outputs ≠ []) ∧ (collect ds).IsClear := by
  constructor
  · intro h
    refine ⟨fun d hd => (h d hd).hasOutput, ?_⟩
    constructor
    case parameters =>
      rw [unsupported_eq_nil]
      intro t ht
      obtain ⟨d, hd, p, hp, rfl⟩ := mem_parameters_collect.1 ht
      exact (h d hd).parameters p hp
    case inputs =>
      intro t ht
      obtain ⟨d, hd, i, hi, rfl⟩ := mem_inputs_collect.1 ht
      rw [Tag.isComplete_eq]
      exact (h d hd).inputs i hi
    case outputs =>
      intro t ht
      obtain ⟨d, hd, o, ho, rfl⟩ := mem_outputs_collect.1 ht
      rw [Tag.isComplete_eq]
      exact (h d hd).outputs o ho
  · rintro ⟨houtput, hclear⟩ d hd
    refine ⟨⟨fun p hp => ?_, fun i hi => ?_⟩, houtput d hd, fun o ho => ?_⟩
    · exact unsupported_eq_nil.1 hclear.parameters _ (mem_parameters_collect.2 ⟨d, hd, p, hp, rfl⟩)
    · rw [← Tag.isComplete_eq]
      exact hclear.inputs _ (mem_inputs_collect.2 ⟨d, hd, i, hi, rfl⟩)
    · rw [← Tag.isComplete_eq]
      exact hclear.outputs _ (mem_outputs_collect.2 ⟨d, hd, o, ho, rfl⟩)

end TypeSummary

/-! ## Remarks in a survey -/

namespace Console

/-- What a line remarks on. -/
def note? (l : Line) : Option String := (l.find? fun s => s.style = .warning).map (·.text)

theorem note?_tagLine (noteOf? : Tag → Option String) (t : Tag) :
    note? (tagLine noteOf? t) = noteOf? t := by
  unfold tagLine
  cases noteOf? t <;> rfl

theorem filterMap_tagLines (heading : String) (noteOf? : Tag → Option String) (tags : List Tag) :
    (tagLines heading noteOf? tags).filterMap note? = tags.filterMap noteOf? := by
  cases tags with
  | nil => rfl
  | cons t rest =>
      have hlines : ((t :: rest).map (tagLine noteOf?)).filterMap note? =
          (t :: rest).filterMap noteOf? := by
        rw [List.filterMap_map]
        exact congrArg (List.filterMap · _) (funext (note?_tagLine noteOf?))
      exact hlines

theorem parameterNote?_eq_none {t : Tag} :
    parameterNote? t = none ↔ t.isParameterType = true := by
  simp [parameterNote?]

theorem pinNote?_eq_none {t : Tag} : pinNote? t = none ↔ t.isComplete = true := by
  simp [pinNote?]

/-- A survey has no remarks exactly if no tag is in the way. -/
theorem filterMap_summaryLines {s : TypeSummary} :
    (summaryLines s).filterMap note? = [] ↔ s.IsClear := by
  simp only [summaryLines, List.filterMap_append, filterMap_tagLines, List.append_eq_nil_iff,
    List.filterMap_eq_nil_iff, parameterNote?_eq_none, pinNote?_eq_none]
  constructor
  · rintro ⟨⟨hp, hi⟩, ho⟩
    exact ⟨TypeSummary.unsupported_eq_nil.2 hp, hi, ho⟩
  · intro h
    exact ⟨⟨TypeSummary.unsupported_eq_nil.1 h.parameters, h.inputs⟩, h.outputs⟩

end Console

/-! ## Known selections -/

namespace Generator

variable {g : Generator} {sel : Selection}

/-- The descriptors of known names. -/
theorem exists_descriptors (h : ∀ name ∈ sel.resolve, ∃ d, g.provider name = .ok d) :
    ∃ ds, g.descriptors sel = .ok ds ∧
      ∀ d, d ∈ ds ↔ ∃ name ∈ sel.resolve, g.provider name = .ok d := by
  have hok : (g.descriptors sel).isOk = true := by
    rw [descriptors, isOk_mapM]
    intro name hname
    obtain ⟨d, hd⟩ := h name hname
    rw [hd]
    rfl
  obtain ⟨ds, hds⟩ := isOk_iff.1 hok
  refine ⟨ds, hds, fun d => ?_⟩
  rw [mem_iff_of_mapM hds]
  refine exists_congr fun name => and_congr_right fun _ => ?_
  cases g.provider name <;> simp

end Generator

/-- When all selected names are known, a run for all targets succeeds exactly if every selected
algorithm has an output and no tag of the type summary is in the way; that is, if the survey that is
printed for people remarks on none. -/
theorem survey_foretells [YamlReader] (g : Generator) (sel : Selection)
    (h : ∀ name ∈ sel.resolve, ∃ d, g.provider name = .ok d) :
    ∃ summary, g.typeSummary sel = .ok summary ∧
      ((g.runAll sel).outcome.isOk = true ↔
        (∀ name ∈ sel.resolve, ∀ d, g.provider name = .ok d → d.outputs ≠ []) ∧
          summary.unsupported = [] ∧ ∀ t ∈ summary.inputs ++ summary.outputs,
            t.isComplete = true) ∧
      ((g.runAll sel).outcome.isOk = true ↔
        (∀ name ∈ sel.resolve, ∀ d, g.provider name = .ok d → d.outputs ≠ []) ∧
          (Console.summaryLines summary).filterMap Console.note? = []) ∧
      ∀ t catalogPath configPath, Console.loadGenerator t catalogPath configPath = .ok (g, sel) →
        Console.surveyTypes t catalogPath configPath false =
          .ended t (Console.summaryLines summary) 0 := by
  obtain ⟨ds, hds, hmem⟩ := Generator.exists_descriptors h
  have hsummary : g.typeSummary sel = .ok (.collect ds) := by
    rw [Generator.typeSummary, hds]
    rfl
  have hdefinable : (g.runAll sel).outcome.isOk = true ↔ ∀ d ∈ ds, d.IsDefinable := by
    rw [Generator.isOk_runAll]
    constructor
    · intro hrun d hd
      obtain ⟨name, hname, hfound⟩ := (hmem d).1 hd
      obtain ⟨d', hd', hdef⟩ := hrun name hname
      rw [hfound] at hd'
      cases hd'
      exact hdef
    · intro hall name hname
      obtain ⟨d, hd⟩ := h name hname
      exact ⟨d, hd, hall d ((hmem d).2 ⟨name, hname, hd⟩)⟩
  have houtputs : (∀ d ∈ ds, d.outputs ≠ []) ↔
      ∀ name ∈ sel.resolve, ∀ d, g.provider name = .ok d → d.outputs ≠ [] := by
    constructor
    · intro hall name hname d hd
      exact hall d ((hmem d).2 ⟨name, hname, hd⟩)
    · intro hall d hd
      obtain ⟨name, hname, hfound⟩ := (hmem d).1 hd
      exact hall name hname d hfound
  have hclear := hdefinable.trans TypeSummary.isClear_collect
  rw [houtputs] at hclear
  refine ⟨_, hsummary, ?_, ?_, ?_⟩
  · rw [hclear]
    refine and_congr_right fun _ => ?_
    simp only [List.forall_mem_append]
    exact ⟨fun hc => ⟨hc.parameters, hc.inputs, hc.outputs⟩, fun hc => ⟨hc.1, hc.2.1, hc.2.2⟩⟩
  · rw [hclear, Console.filterMap_summaryLines]
  · intro t catalogPath configPath hload
    simp only [Console.surveyTypes, hload, hsummary]
    rfl

/-- A complex input of one of two algorithms is remarked on, and the run for all targets fails;
without that algorithm nothing is in the way. -/
theorem survey_foretells_magnitude :
    let energy : Descriptor := {
      name := "Energy"
      inputs := [⟨"array", .vectorReal, ""⟩]
      outputs := [⟨"energy", .real, ""⟩] }
    let magnitude : Descriptor := {
      name := "Magnitude"
      inputs := [⟨"complex", .vectorComplex, ""⟩]
      outputs := [⟨"magnitude", .vectorReal, ""⟩] }
    let lookup : String → Option Descriptor := fun name =>
      [energy, magnitude].find? (·.name = name)
    let g : Generator := ⟨.ofLookup lookup, {}⟩
    (g.runAll { included := ["Magnitude", "Energy"] }).outcome.isOk = false ∧
      (g.runAll { included := ["Energy"] }).outcome.isOk = true := by
  intro energy magnitude lookup g
  have hboth : ∀ name ∈ Selection.resolve { included := ["Magnitude", "Energy"] },
      ∃ d, g.provider name = .ok d := by
    intro name hname
    have hname : name ∈ ["Magnitude", "Energy"] := by simpa [Selection.mem_resolve] using hname
    simp only [List.mem_cons, List.not_mem_nil, or_false] at hname
    rcases hname with rfl | rfl
    · exact ⟨magnitude, rfl⟩
    · exact ⟨energy, rfl⟩
  have hone : ∀ name ∈ Selection.resolve { included := ["Energy"] },
      ∃ d, g.provider name = .ok d := by
    intro name hname
    obtain rfl : name = "Energy" := by simpa [Selection.mem_resolve] using hname
    exact ⟨energy, rfl⟩
  obtain ⟨summary, hsummary, hrun, -, -⟩ := survey_foretells g _ hboth
  obtain ⟨summary', hsummary', hrun', -, -⟩ := survey_foretells g _ hone
  cases hsummary
  cases hsummary'
  constructor
  · rw [← Bool.not_eq_true, hrun]
    rintro ⟨-, -, hcomplete⟩
    exact absurd (hcomplete .vectorComplex (by decide)) (by decide)
  · refine hrun'.2 ⟨fun name hname d hd => ?_, by decide, by decide⟩
    obtain rfl : name = "Energy" := by simpa [Selection.mem_resolve] using hname
    cases hd
    decide

end Bindery
