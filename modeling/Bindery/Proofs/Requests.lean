import Bindery.Proofs.FirstOccurrences
import Bindery.Proofs.Rendering
import Bindery.Proofs.Story
import Bindery.Target.Parse
import Mathlib.Data.List.Forall2

/-!
# Requested targets

A target can be asked for again, under one tag or under several. Repetitions are left out
twice: where tags are read, and where passes are taken. Both are loops that remember what
they have met and that may fail on their way, and a run does not depend on which of the
two has left a repetition out.
-/

namespace Bindery

namespace Target

/-! ## Tags -/

/-- A tag names a target: it is the name of the target or one of its aliases. -/
def IsNamed (t : Target) (tag : String) : Prop := tag = t.name ∨ tag ∈ t.aliases

/-- A tag is known when it names some target. -/
def IsKnown (tag : String) : Prop := ∃ t, IsNamed t tag

variable {t : Target} {tag : String} {tags : List String} {named found : List Target}

theorem ofName?_eq_some : ofName? tag = some t ↔ t.IsNamed tag := by
  constructor
  · intro h
    have hfound := List.find?_some h
    rw [Bool.or_eq_true, beq_iff_eq, List.contains_iff_mem] at hfound
    exact hfound.imp_left Eq.symm
  · rintro (rfl | halias)
    · exact ofName?_name t
    · have hall : ∀ tag ∈ t.aliases, ofName? tag = some t := by cases t <;> decide
      exact hall tag halias

theorem parse_eq_ok : parse tag = .ok t ↔ t.IsNamed tag := by
  rw [← ofName?_eq_some, parse]
  cases ofName? tag <;> simp

theorem isOk_parse : (parse tag).isOk = true ↔ IsKnown tag := by
  simp only [isOk_iff, parse_eq_ok, IsKnown]

theorem parse_eq_error {e : GenerationError} :
    parse tag = .error e ↔ ¬ IsKnown tag ∧ e = .invalidTarget tag := by
  simp only [IsKnown, ← ofName?_eq_some, parse]
  cases ofName? tag <;> simp [eq_comm]

theorem mapM_parse_eq_ok : tags.mapM parse = .ok named ↔ List.Forall₂ IsNamed named tags := by
  have hnamed : (fun t tag => Except.ok t = parse tag) = IsNamed := by
    funext t tag
    exact propext (eq_comm.trans parse_eq_ok)
  rw [mapM_eq_ok, eq_comm, ← List.forall₂_eq_eq_eq, List.forall₂_map_left_iff,
    List.forall₂_map_right_iff, hnamed]

/-! ## Reading tags -/

theorem parseAll_of_ne_nil (h : tags ≠ []) :
    parseAll tags = (tags.mapM parse).map distinct := by
  cases tags with
  | nil => exact absurd rfl h
  | cons tag rest => rfl

theorem failure?_parseAll (tags : List String) :
    failure? (parseAll tags) = failure? (tags.mapM parse) := by
  cases tags with
  | nil => rfl
  | cons tag rest => exact failure?_map _ _

/-- The first tag that is not known is told. -/
theorem parseAll_eq_error {e : GenerationError} :
    parseAll tags = .error e ↔ ∃ before tag after, tags = before ++ tag :: after ∧
      (∀ b ∈ before, IsKnown b) ∧ ¬ IsKnown tag ∧ e = .invalidTarget tag := by
  rw [← failure?_eq_some, failure?_parseAll, failure?_eq_some, mapM_eq_error]
  simp only [isOk_parse, parse_eq_error]

theorem exists_parseAll_eq_error :
    (∃ e, parseAll tags = .error e) ↔ ∃ tag ∈ tags, ¬ IsKnown tag := by
  have hfails : (∃ e, parseAll tags = .error e) ↔ ¬ failure? (tags.mapM parse) = none := by
    rw [← failure?_parseAll, ← ne_eq, Option.ne_none_iff_exists']
    simp only [failure?_eq_some]
  rw [hfails, failure?_eq_none, isOk_mapM]
  simp only [isOk_parse, not_forall, exists_prop]

theorem parseAll_of_mapM (hne : tags ≠ []) (h : tags.mapM parse = .ok named) :
    parseAll tags = .ok (distinct named) := by
  rw [parseAll_of_ne_nil hne, h]
  rfl

/-- Names of targets that do not repeat are read back. -/
theorem parseAll_names (hne : named ≠ []) (h : named.Nodup) :
    parseAll (named.map name) = .ok named := by
  have hnames : (named.map name).mapM parse = .ok named := by
    rw [mapM_eq_ok, List.map_map]
    exact List.map_congr_left fun t _ => parse_name t
  rw [parseAll_of_mapM (by simpa using hne) hnames, distinct_of_nodup h]

/-- Reads one tag after the other behind targets that have been found, and finds each target
once. -/
def gather (found : List Target) : List String → Except GenerationError (List Target)
  | [] => .ok found
  | tag :: rest => do
    let t ← parse tag
    gather (if t ∈ found then found else found ++ [t]) rest

theorem gather_eq (found : List Target) (tags : List String) :
    gather found tags =
      (tags.mapM parse).map fun named => found ++ (distinct named).filter (· ∉ found) := by
  induction tags generalizing found with
  | nil => simp [gather, Except.map, distinct]
  | cons tag rest ih =>
      rw [gather, List.mapM_cons]
      cases parse tag with
      | error e => rfl
      | ok t =>
          rw [ok_bind, ok_bind, ih]
          cases rest.mapM parse with
          | error e => rfl
          | ok named =>
              simp only [ok_bind, pure_eq_ok, Except.map, Except.ok.injEq]
              by_cases ht : t ∈ found
              · rw [if_pos ht, filter_distinct_cons_of_mem ht]
              · rw [if_neg ht, filter_distinct_cons_of_not_mem ht, List.append_assoc,
                  List.singleton_append]

/-- Tags are read in a loop that remembers which targets it has found. -/
theorem parseAll_eq_gather (h : tags ≠ []) : parseAll tags = gather [] tags := by
  rw [parseAll_of_ne_nil h, gather_eq]
  simp

end Target

/-! ## Passes -/

/-- The run with what one more pass has written, and with its exports if it is the pass that
has any. -/
def Run.extend (r : Run) (t : Target) (artifacts : List Artifact) : Run :=
  artifacts.foldl push <|
    if t = .parameterTypes then r.setExports (some (Wrapper.exportBlock artifacts)) else r

theorem Run.foldl_push (r : Run) (artifacts : List Artifact) :
    artifacts.foldl push r = ⟨r.artifacts ++ artifacts, r.exports⟩ := by
  induction artifacts generalizing r with
  | nil => simp
  | cons x rest ih => rw [List.foldl_cons, ih, push, List.append_assoc, List.singleton_append]

theorem Run.extend_eq (r : Run) (t : Target) (artifacts : List Artifact) :
    r.extend t artifacts = ⟨r.artifacts ++ artifacts,
      if t = .parameterTypes then some (Wrapper.exportBlock artifacts) else r.exports⟩ := by
  rw [extend, foldl_push]
  by_cases ht : t = .parameterTypes
  · rw [if_pos ht, if_pos ht, setExports]
  · rw [if_neg ht, if_neg ht]

/-- Only parameter types are exported. -/
theorem Wrapper.exportBlock_congr {xs ys : List Artifact}
    (h : xs.filter (·.target = .parameterTypes) = ys.filter (·.target = .parameterTypes)) :
    exportBlock xs = exportBlock ys := by
  rw [← Run.exportBlock_forTarget ⟨xs, none⟩, ← Run.exportBlock_forTarget ⟨ys, none⟩,
    Run.forTarget, Run.forTarget, h]

namespace Generator

/-- Takes one pass after the other, and none for a target that is done. -/
def proceed (g : Generator) (as : List Algorithm) (done : List Target) (r : Run) :
    List Target → Logged Run
  | [] => pure r
  | t :: rest =>
    if t ∈ done then g.proceed as done r rest
    else do
      let artifacts ← g.pass as t
      g.proceed as (done ++ [t]) (r.extend t artifacts) rest

variable {g : Generator} {as : List Algorithm} {t : Target} {ts : List Target}

theorem target_of_passes {artifacts : List Artifact}
    (h : (g.passes as ts).outcome = .ok artifacts) {x : Artifact} (hx : x ∈ artifacts) :
    x.target ∈ ts := by
  rw [passes_eq_mapM, Logged.outcome_bind, Logged.outcome_mapM] at h
  obtain ⟨written, hwritten, h⟩ := bind_eq_ok.1 h
  cases h
  obtain ⟨artifacts, hartifacts, hx⟩ := List.mem_flatten.1 hx
  obtain ⟨t, ht, hpass⟩ := (mem_iff_of_mapM hwritten).1 hartifacts
  exact target_of_pass hpass hx ▸ ht

/-- The exports of a pass or of those after it are the exports of all of them, since no target has
two passes. -/
theorem exports_extend {first later : List Artifact} (r : Run) (ht : t ∉ ts)
    (hfirst : (g.pass as t).outcome = .ok first) (hlater : (g.passes as ts).outcome = .ok later) :
    (if .parameterTypes ∈ ts then some (Wrapper.exportBlock later)
      else (r.extend t first).exports) =
    if .parameterTypes ∈ t :: ts then some (Wrapper.exportBlock (first ++ later))
      else r.exports := by
  rw [Run.extend_eq]
  by_cases htypes : t = .parameterTypes
  · subst htypes
    have hnone : later.filter (·.target = .parameterTypes) = [] := by
      refine List.filter_eq_nil_iff.2 fun x hx => ?_
      have hne : x.target ≠ .parameterTypes := fun heq => ht (heq ▸ target_of_passes hlater hx)
      simpa using hne
    have hblock : Wrapper.exportBlock (first ++ later) = Wrapper.exportBlock first := by
      apply Wrapper.exportBlock_congr
      rw [List.filter_append, hnone, List.append_nil]
    rw [if_neg ht, if_pos rfl, if_pos List.mem_cons_self, hblock]
  · have hnone : first.filter (·.target = .parameterTypes) = [] :=
      List.filter_eq_nil_iff.2 fun x hx => by simpa [target_of_pass hfirst hx] using htypes
    have hblock : Wrapper.exportBlock (first ++ later) = Wrapper.exportBlock later := by
      apply Wrapper.exportBlock_congr
      rw [List.filter_append, hnone, List.nil_append]
    have hmem : .parameterTypes ∈ t :: ts ↔ .parameterTypes ∈ ts := by
      rw [List.mem_cons, or_iff_right (Ne.symm htypes)]
    simp only [hmem, if_neg htypes, hblock]

/-- The loop takes the passes that have not been done, and adds what they write to the run. -/
theorem proceed_eq (g : Generator) (as : List Algorithm) (done : List Target) (r : Run)
    (ts : List Target) :
    g.proceed as done r ts = do
      let artifacts ← g.passes as ((distinct ts).filter (· ∉ done))
      return ⟨r.artifacts ++ artifacts,
        if .parameterTypes ∈ (distinct ts).filter (· ∉ done) then
          some (Wrapper.exportBlock artifacts) else r.exports⟩ := by
  -- every pass makes another run and another list of what is done, so both stay open
  induction ts generalizing done r with
  | nil => simp [proceed, passes, distinct]
  | cons t rest ih =>
      by_cases ht : t ∈ done
      · rw [proceed, if_pos ht, ih, filter_distinct_cons_of_mem ht]
      · have hnew : t ∉ (distinct rest).filter (· ∉ done ++ [t]) := by simp
        rw [proceed, if_neg ht, filter_distinct_cons_of_not_mem ht, passes, bind_assoc]
        -- a pass that fails ends both sides; after one that succeeds its artifacts are known
        refine Logged.bind_congr_of_outcome fun first hfirst => ?_
        rw [ih, bind_assoc]
        refine Logged.bind_congr_of_outcome fun later hlater => ?_
        rw [pure_bind, exports_extend r hnew hfirst hlater, Run.extend_eq, List.append_assoc]

/-- A run is a loop over its targets that remembers which of them are done. -/
theorem run_eq_proceed (g : Generator) (s : Selection) (ts : List Target) :
    g.run s ts = g.algorithms s >>= fun as => g.proceed as [] .empty ts := by
  have hall : (distinct ts).filter (· ∉ []) = distinct ts := by simp
  simp only [proceed_eq, hall, mem_distinct]
  rfl

theorem run_distinct (g : Generator) (s : Selection) (ts : List Target) :
    g.run s (distinct ts) = g.run s ts := by
  simp only [run, distinct_of_nodup (nodup_distinct ts), mem_distinct]

end Generator

/-- Tags that ask for targets. Reading them fails over a tag that is neither a name nor an alias,
and tells the first one. No tags ask for all five targets; other tags ask for each of the targets
that they name, once and in the order in which they name them first, and the names of those ask for
the same again. What is read and what is run are loops that pass over what they have met, so that a
run for the targets of the tags is the run for all that they name with every repetition, in what it
tells and in what it comes to. -/
theorem targets_requested_once (tags : List String) :
    ((∃ e, Target.parseAll tags = .error e) ↔ ∃ tag ∈ tags, ¬ Target.IsKnown tag) ∧
    (∀ e, Target.parseAll tags = .error e ↔
      ∃ before tag after, tags = before ++ tag :: after ∧ (∀ b ∈ before, Target.IsKnown b) ∧
        ¬ Target.IsKnown tag ∧ e = .invalidTarget tag) ∧
    Target.parseAll [] = .ok [.declaration, .definition, .binding, .wrapper, .parameterTypes] ∧
    (tags ≠ [] → Target.parseAll tags = Target.gather [] tags) ∧
    (∀ (g : Generator) (s : Selection) (ts : List Target),
      g.run s ts = g.algorithms s >>= fun as => g.proceed as [] .empty ts) ∧
    (∀ named, tags.mapM Target.parse = .ok named ↔ List.Forall₂ Target.IsNamed named tags) ∧
    ∀ named, tags.mapM Target.parse = .ok named →
      ∃ targets, Target.parseAll tags = .ok targets ∧
        (tags ≠ [] → targets.Nodup ∧ (∀ t, t ∈ targets ↔ t ∈ named) ∧
          FollowsFirst named targets) ∧
        Target.parseAll (targets.map Target.name) = .ok targets ∧
        ∀ (g : Generator) (s : Selection),
          g.run s targets = g.run s (if tags = [] then Target.all else named) := by
  refine ⟨Target.exists_parseAll_eq_error, fun e => Target.parseAll_eq_error, rfl,
    Target.parseAll_eq_gather, Generator.run_eq_proceed, fun named => Target.mapM_parse_eq_ok,
    fun named hnamed => ?_⟩
  by_cases htags : tags = []
  · subst htags
    exact ⟨Target.all, rfl, absurd rfl, rfl, fun g s => by rw [if_pos rfl]⟩
  · have hne : distinct named ≠ [] := by
      rw [ne_eq, distinct_eq_nil]
      rintro rfl
      exact htags (List.map_eq_nil_iff.1 (mapM_eq_ok.1 hnamed))
    refine ⟨distinct named, Target.parseAll_of_mapM htags hnamed, fun _ => ?_,
      Target.parseAll_names hne (nodup_distinct named), fun g s => ?_⟩
    · exact ⟨nodup_distinct named, fun t => mem_distinct, followsFirst_distinct named⟩
    · rw [if_neg htags, g.run_distinct]

/-- An alias and a name ask for one pass, after which the next pass fails in both runs. Of two
tags that are not known the first is told. -/
theorem targets_requested_once_magnitude :
    let magnitude : Descriptor := {
      name := "Magnitude"
      inputs := [⟨"complex", .vectorComplex, ""⟩]
      outputs := [⟨"magnitude", .vectorReal, ""⟩] }
    let lookup : String → Option Descriptor := fun name =>
      if name = "Magnitude" then some magnitude else none
    let g : Generator := ⟨.ofLookup lookup, {}⟩
    let s : Selection := { included := ["Magnitude"] }
    let tags := ["param_types", "header", "param-types", "declaration", "wrapper"]
    let named : List Target :=
      [.parameterTypes, .declaration, .parameterTypes, .declaration, .wrapper]
    tags.mapM Target.parse = .ok named ∧
      Target.parseAll tags = .ok [.parameterTypes, .declaration, .wrapper] ∧
      g.run s [.parameterTypes, .declaration, .wrapper] = g.run s named ∧
      (g.run s named).outcome =
        .error (.unsupportedType "Magnitude" "complex" .native .vectorComplex) ∧
      ¬ Target.IsKnown "python" ∧
      Target.parseAll ["wrapper", "python", "rust"] = .error (.invalidTarget "python") := by
  intro magnitude lookup g s tags named
  have hnamed : tags.mapM Target.parse = .ok named := rfl
  obtain ⟨-, -, -, -, -, -, hnames⟩ := targets_requested_once tags
  obtain ⟨targets, htargets, -, -, hrun⟩ := hnames named hnamed
  obtain rfl : [.parameterTypes, .declaration, .wrapper] = targets := Except.ok.inj htargets
  have hknown : Target.IsKnown "wrapper" := ⟨.wrapper, .inl rfl⟩
  have hunknown : ¬ Target.IsKnown "python" := (Target.parse_eq_error.1 rfl).1
  obtain ⟨-, hfirst, -⟩ := targets_requested_once ["wrapper", "python", "rust"]
  refine ⟨hnamed, htargets, hrun g s, rfl, hunknown, (hfirst _).2 ?_⟩
  exact ⟨["wrapper"], "python", ["rust"], rfl, by simpa using hknown, hunknown, rfl⟩

end Bindery
