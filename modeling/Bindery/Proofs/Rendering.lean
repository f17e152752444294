import Bindery.Run

/-!
# What a rendered file depends on

Artifacts of all targets are pushed onto one run, in any order. The file of a target has
the lines of its own artifacts that are not empty, in the order of their pushes, and for
parameter types the block of exports. Who made an artifact, what was pushed in between
and what other files have leaves no trace in it.
-/

namespace Bindery.Run

/-! ## Steps -/

/-- The run with another block of exports, or with none. -/
def setExports (r : Run) (block : Option (List String)) : Run := { r with exports := block }

/-- Something that is done to a run. -/
inductive Step where
  | push (a : Artifact)
  | exports (block : Option (List String))

def perform (r : Run) : Step → Run
  | .push a => r.push a
  | .exports block => r.setExports block

/-- The run after some steps on an empty one. -/
def history (steps : List Step) : Run := steps.foldl perform .empty

/-- The lines that a step brings for a target. An artifact without any line brings nothing, and one
with an empty line brings that. -/
def Step.lines? (t : Target) : Step → Option (List String)
  | .push a => if a.target = t ∧ a.lines ≠ [] then some a.lines else none
  | .exports _ => none

/-- The lines of each artifact for a target that has any, in the order of the pushes. -/
def linesFor (t : Target) (steps : List Step) : List (List String) :=
  steps.filterMap (Step.lines? t)

/-! ## Texts -/

/-- The texts of a target's artifacts that are not empty. -/
def texts (r : Run) (t : Target) : List String :=
  ((r.forTarget t).filter (!·.isEmpty)).map Artifact.text

variable {r r' : Run} {t : Target} {a : Artifact}

theorem texts_perform (r : Run) (t : Target) (step : Step) :
    (r.perform step).texts t = r.texts t ++ ((step.lines? t).map ("\n".intercalate ·)).toList := by
  cases step with
  | exports block => simp [perform, setExports, texts, forTarget, Step.lines?]
  | push a =>
      rw [perform, push, texts, texts, forTarget, forTarget, List.filter_append, List.filter_append,
        List.map_append, Step.lines?]
      congr 1
      by_cases ht : a.target = t
      · by_cases hlines : a.lines = []
        · simp [hlines, Artifact.isEmpty]
        · simp [ht, hlines, Artifact.isEmpty, Artifact.text]
      · simp [ht]

/-- Whatever else happens to a run, its texts for a target are those of the lines that the steps
have brought for it. -/
theorem texts_history (t : Target) (steps : List Step) :
    (history steps).texts t = (linesFor t steps).map ("\n".intercalate ·) := by
  have hrun : ∀ r : Run, (steps.foldl perform r).texts t =
      r.texts t ++ (linesFor t steps).map ("\n".intercalate ·) := by
    induction steps with
    | nil => simp [linesFor]
    | cons step rest ih =>
        intro r
        rw [List.foldl_cons, ih, texts_perform, List.append_assoc, linesFor, linesFor,
          List.filterMap_cons]
        cases step.lines? t <;> simp
  exact hrun .empty

theorem texts_push_of (h : a.lines = [] ∨ a.target ≠ t) : (r.push a).texts t = r.texts t := by
  have hnone : (Step.push a).lines? t = none := by
    rw [Step.lines?, if_neg]
    rintro ⟨ht, hlines⟩
    exact h.elim hlines (absurd ht)
  have hperform := texts_perform r t (.push a)
  rwa [hnone, Option.map_none, Option.toList_none, List.append_nil] at hperform

theorem texts_push (ht : a.target = t) (hlines : a.lines ≠ []) :
    (r.push a).texts t = r.texts t ++ [a.text] := by
  have hsome : (Step.push a).lines? t = some a.lines := if_pos ⟨ht, hlines⟩
  have hperform := texts_perform r t (.push a)
  rwa [hsome] at hperform

theorem texts_ne_nil (h : ∃ b ∈ r.artifacts, b.target = t ∧ b.lines ≠ []) : r.texts t ≠ [] := by
  obtain ⟨b, hb, ht, hlines⟩ := h
  have hmem : b.text ∈ r.texts t := by
    refine List.mem_map_of_mem (List.mem_filter.2 ⟨List.mem_filter.2 ⟨hb, by simpa using ht⟩, ?_⟩)
    simpa [Artifact.isEmpty] using hlines
  exact List.ne_nil_of_mem hmem

/-! ## Files -/

/-- A file depends on the texts of its target, and on the exports only where they belong. -/
theorem render_eq_of_texts (htexts : r.texts t = r'.texts t)
    (hexports : t = .parameterTypes → r.exports = r'.exports) : r.render t = r'.render t := by
  rw [render, render, blocks, blocks, ← texts, ← texts, htexts]
  by_cases ht : t = .parameterTypes
  · rw [hexports ht]
  · rw [if_neg ht, if_neg ht]

/-- Without a block of exports the texts are all there is. -/
theorem render_of_texts (hexports : t = .parameterTypes → r.exports = none) :
    r.render t = "\n\n".intercalate (r.texts t) ++ "\n" := by
  rw [render, blocks, ← texts]
  by_cases ht : t = .parameterTypes
  · rw [hexports ht, Option.map_none, Option.toList_none, ite_self, List.append_nil]
  · rw [if_neg ht, List.append_nil]

/-- The file of a target is told by the lines of the artifacts for it that have any, and for
parameter types by the exports; so empty artifacts, other targets and, but for parameter types, the
exports change nothing. One more artifact with lines adds an empty line and its text behind those
that are there, and the file ends its last line in any case. -/
theorem render_footprint (t : Target) :
    (∀ steps steps', linesFor t steps = linesFor t steps' →
      (t = .parameterTypes → (history steps).exports = (history steps').exports) →
        (history steps).render t = (history steps').render t ∧
          (history steps).digest t = (history steps').digest t) ∧
    (∀ (r : Run) a, a.lines = [] ∨ a.target ≠ t → (r.push a).render t = r.render t) ∧
    (∀ (r : Run) block, t ≠ .parameterTypes → (r.setExports block).render t = r.render t) ∧
    (∀ (r : Run) a, a.target = t → a.lines ≠ [] →
      (∃ b ∈ r.artifacts, b.target = t ∧ b.lines ≠ []) →
        (t = .parameterTypes → r.exports = none) → ∀ body, r.render t = body ++ "\n" →
          (r.push a).render t = body ++ "\n\n" ++ a.text ++ "\n") ∧
    ∀ r : Run, ∃ body, r.render t = body ++ "\n" := by
  refine ⟨fun steps steps' hlines hexports => ?_, fun r a h => ?_, fun r block ht => ?_,
    fun r a ht hlines hb hexports body hbody => ?_, fun r => ⟨_, rfl⟩⟩
  · have hrender : (history steps).render t = (history steps').render t := by
      refine render_eq_of_texts ?_ hexports
      rw [texts_history, texts_history, hlines]
    exact ⟨hrender, congrArg Digest.blake3 hrender⟩
  · exact render_eq_of_texts (texts_push_of h) fun _ => rfl
  · exact render_eq_of_texts rfl fun heq => absurd heq ht
  · have hsame : "\n\n".intercalate (r.texts t) = body := by
      rw [render_of_texts hexports] at hbody
      exact (String.append_left_inj "\n").1 hbody
    have hpush : t = .parameterTypes → (r.push a).exports = none := hexports
    rw [render_of_texts hpush, texts_push ht hlines,
      String.intercalate_append_of_ne_nil (texts_ne_nil hb) (List.cons_ne_nil _ _), hsame,
      String.intercalate_singleton]

/-- The artifacts of other algorithms in another order, among them one without lines, and one with
an empty line that counts. -/
theorem render_footprint_interleaved :
    let steps : List Step := [.push ⟨"Energy", .binding, ["a"]⟩, .push ⟨"Energy", .wrapper, ["w"]⟩,
      .push ⟨"MFCC", .binding, [""]⟩]
    let steps' : List Step := [.push ⟨"Gain", .wrapper, ["v"]⟩, .push (.blank "Gain" .binding),
      .push ⟨"Scale", .binding, ["a"]⟩, .exports (some ["export"]),
      .push ⟨"Melody", .binding, [""]⟩]
    let more : Artifact := ⟨"Onsets", .binding, ["b", "c"]⟩
    (history steps).render .binding = "a\n\n\n" ∧
      (history steps').render .binding = (history steps).render .binding ∧
      ((history steps).push more).render .binding = "a\n\n\n\nb\nc\n" ∧
      ((history steps).push (.blank "Gain" .binding)).render .binding =
        (history steps).render .binding ∧
      ((history steps).setExports (some [])).render .binding = (history steps).render .binding := by
  intro steps steps' more
  obtain ⟨hlines, hempty, hexports, hmore, -⟩ := render_footprint .binding
  have hrender : (history steps).render .binding = "a\n\n" ++ "\n" := by decide
  exact ⟨hrender, (hlines steps' steps (by decide) nofun).1,
    hmore _ more rfl (by decide) (by decide) nofun _ hrender, hempty _ _ (.inl rfl),
    hexports _ _ (by decide)⟩

end Bindery.Run
