import Bindery.Proofs.Assembly
import Bindery.Proofs.Blame
import Bindery.Proofs.Lines

/-!
# The story of a run

A computation with events tells everything up to its first failure and nothing after
it. For a run this means that exclusions without effect are told first, then each pass
from its beginning to its end, and of a pass that fails what it has come to.
-/

namespace Bindery

/-! ## Events of one step after another -/

namespace Logged

variable {α β γ : Type}

@[simp] theorem events_ofExcept (x : Except GenerationError α) : (ofExcept x).events = [] := rfl

@[simp] theorem events_pure (a : α) : (pure a : Logged α).events = [] := rfl

theorem events_bind_of_ok {x : Logged α} {a : α} (h : x.outcome = .ok a) (f : α → Logged β) :
    (x >>= f).events = x.events ++ (f a).events := by
  change (x.andThen f).events = _
  rw [andThen, h]

theorem events_bind_of_error {x : Logged α} {e : GenerationError} (h : x.outcome = .error e)
    (f : α → Logged β) : (x >>= f).events = x.events := by
  change (x.andThen f).events = _
  rw [andThen, h]

@[simp] theorem events_log_bind (events : List Event) (f : Unit → Logged β) :
    (log events >>= f).events = events ++ (f ()).events := rfl

/-- What is only worked on further tells nothing more. -/
@[simp] theorem events_bind_pure (x : Logged α) (f : α → β) :
    (x >>= fun a => pure (f a)).events = x.events := by
  cases h : x.outcome with
  | ok a => rw [events_bind_of_ok h, events_pure, List.append_nil]
  | error e => rw [events_bind_of_error h]

/-- What comes second is asked only for what the first step comes to. -/
theorem bind_congr_of_outcome {x : Logged α} {f k : α → Logged β}
    (h : ∀ a, x.outcome = .ok a → f a = k a) : (x >>= f) = x >>= k := by
  change x.andThen f = x.andThen k
  unfold andThen
  cases hx : x.outcome with
  | ok a => simp only [h a hx]
  | error e => rfl

theorem pure_andThen (a : α) (f : α → Logged β) : (ofExcept (.ok a)).andThen f = f a := rfl

theorem andThen_ofExcept (x : Logged α) : (x.andThen fun a => ofExcept (.ok a)) = x := by
  obtain ⟨events, outcome⟩ := x
  cases outcome with
  | ok a => simp [andThen, ofExcept]
  | error e => rfl

theorem andThen_assoc (x : Logged α) (f : α → Logged β) (k : β → Logged γ) :
    (x.andThen f).andThen k = x.andThen fun a => (f a).andThen k := by
  unfold andThen
  cases x.outcome with
  | error e => rfl
  | ok a => cases h : (f a).outcome <;> simp [h]

instance : LawfulMonad Logged :=
  .mk' Logged andThen_ofExcept pure_andThen andThen_assoc

theorem outcome_mapM (step : α → Logged β) (l : List α) :
    (l.mapM step).outcome = l.mapM fun a => (step a).outcome := by
  induction l with
  | nil => rfl
  | cons a rest ih =>
      rw [List.mapM_cons, List.mapM_cons, ← ih]
      simp only [outcome_bind, outcome_pure, pure_eq_ok]

/-- Steps that all succeed are told one after the other. -/
theorem events_mapM {step : α → Logged β} {l : List α} (h : ∀ a ∈ l, (step a).outcome.isOk = true) :
    (l.mapM step).events = l.flatMap fun a => (step a).events := by
  induction l with
  | nil => rfl
  | cons a rest ih =>
      rw [List.forall_mem_cons] at h
      obtain ⟨b, hb⟩ := isOk_iff.1 h.1
      rw [List.mapM_cons, events_bind_of_ok hb, events_bind_pure, ih h.2, List.flatMap_cons]

/-- A step that fails is the last one that tells anything. -/
theorem events_mapM_of_error {step : α → Logged β} {before after : List α} {a : α}
    {e : GenerationError} (hbefore : ∀ b ∈ before, (step b).outcome.isOk = true)
    (ha : (step a).outcome = .error e) :
    ((before ++ a :: after).mapM step).events =
      (before.flatMap fun b => (step b).events) ++ (step a).events := by
  induction before with
  | nil =>
      rw [List.nil_append, List.mapM_cons]
      exact events_bind_of_error ha _
  | cons b rest ih =>
      rw [List.forall_mem_cons] at hbefore
      obtain ⟨x, hx⟩ := isOk_iff.1 hbefore.1
      rw [List.cons_append, List.mapM_cons, events_bind_of_ok hx, events_bind_pure,
        ih hbefore.2, List.flatMap_cons, List.append_assoc]

end Logged

/-! ## What is told -/

/-- An event as a listener is told of it. -/
structure Notice where
  level : Level
  message : String
  details : List (String × String)
deriving DecidableEq

def Event.notice (e : Event) : Notice := ⟨e.level, e.message, e.details⟩

namespace Notice

def unusedExclusion (name : String) : Notice :=
  ⟨.warn, "excluded algorithm is not in the inclusion list", [("algorithm", name)]⟩

def generating (t : Target) (algorithms : Nat) : Notice :=
  ⟨.info, "generating", [("pass", t.name), ("algorithms", toString algorithms)]⟩

def emitting (t : Target) (algorithm : String) : Notice :=
  ⟨.debug, "emitting", [("pass", t.name), ("algorithm", algorithm)]⟩

def finished (t : Target) (generated : Nat) : Notice :=
  ⟨.info, "finished", [("pass", t.name), ("generated", toString generated)]⟩

/-- A pass over `selected` algorithms that has come to those of the names. -/
def begun (t : Target) (selected : Nat) (names : List String) : List Notice :=
  generating t selected :: names.map (emitting t)

/-- A pass over the algorithms of the names that has written the artifacts. -/
def pass (t : Target) (names : List String) (artifacts : List Artifact) : List Notice :=
  begun t names.length names ++ [finished t (artifacts.countP (!·.isEmpty))]

end Notice

namespace Event

@[simp] theorem notice_unusedExclusion (name : String) :
    (unusedExclusion name).notice = .unusedExclusion name := rfl

@[simp] theorem notice_generating (t : Target) (algorithms : Nat) :
    (generating t algorithms).notice = .generating t algorithms := rfl

@[simp] theorem notice_emitting (t : Target) (algorithm : String) :
    (emitting t algorithm).notice = .emitting t algorithm := rfl

@[simp] theorem notice_finished (t : Target) (generated : Nat) :
    (finished t generated).notice = .finished t generated := rfl

end Event

namespace Generator

/-- The notices of a run. -/
def told (g : Generator) (s : Selection) (ts : List Target) : List Notice :=
  (g.run s ts).events.map Event.notice

variable {g : Generator} {s : Selection} {ts : List Target} {t : Target} {as : List Algorithm}

/-! ## Passes -/

/-- An algorithm is told before its code is written. -/
def emission (g : Generator) (t : Target) (a : Algorithm) : Logged Artifact := do
  Logged.log [.emitting t a.name]
  Logged.ofExcept (emit t a g.settings)

theorem notices_emissions (g : Generator) (t : Target) (as : List Algorithm) :
    (as.flatMap fun a => (g.emission t a).events).map Event.notice =
      (as.map (·.name)).map (Notice.emitting t) := by
  rw [List.map_map, List.map_flatMap]
  exact List.map_eq_flatMap.symm

theorem outcome_emission (g : Generator) (t : Target) (a : Algorithm) :
    (g.emission t a).outcome = emit t a g.settings := by
  simp [emission]

theorem emitEach_eq_mapM (g : Generator) (t : Target) (as : List Algorithm) :
    g.emitEach t as = as.mapM (g.emission t) := by
  induction as with
  | nil => rfl
  | cons a rest ih => simp only [emitEach, List.mapM_cons, emission, bind_assoc, ih]

theorem passes_eq_mapM (g : Generator) (as : List Algorithm) (ts : List Target) :
    g.passes as ts = ts.mapM (g.pass as) >>= fun artifacts => pure artifacts.flatten := by
  induction ts with
  | nil => rfl
  | cons t rest ih =>
      simp only [passes, List.mapM_cons, ih, bind_assoc, pure_bind, List.flatten_cons]

/-- A pass that succeeds is told from its beginning to its end. -/
theorem notices_pass {artifacts : List Artifact} (h : (g.pass as t).outcome = .ok artifacts) :
    (g.pass as t).events.map Event.notice = Notice.pass t (as.map (·.name)) artifacts := by
  rw [outcome_pass] at h
  have heach : (g.emitEach t as).outcome = .ok artifacts := by rw [outcome_emitEach, h]
  have hall : ∀ a ∈ as, (g.emission t a).outcome.isOk = true := by
    simp only [outcome_emission]
    exact isOk_mapM.1 (isOk_iff.2 ⟨artifacts, h⟩)
  rw [pass, Logged.events_log_bind, Logged.events_bind_of_ok heach, Logged.events_log_bind,
    Logged.events_pure, emitEach_eq_mapM, Logged.events_mapM hall]
  simp [notices_emissions, Notice.pass, Notice.begun, List.countP_eq_length_filter]

/-- A pass that fails is told up to the algorithm that it fails for. -/
theorem notices_pass_of_error {before after : List Algorithm} {a : Algorithm} {e : GenerationError}
    (hbefore : ∀ b ∈ before, (emit t b g.settings).isOk = true)
    (ha : emit t a g.settings = .error e) :
    (g.pass (before ++ a :: after) t).events.map Event.notice =
      Notice.begun t (before ++ a :: after).length ((before ++ [a]).map (·.name)) := by
  have hfails : (g.emitEach t (before ++ a :: after)).outcome = .error e := by
    rw [outcome_emitEach]
    exact mapM_eq_error.2 ⟨before, a, after, rfl, hbefore, ha⟩
  have hemissions : ∀ b ∈ before, (g.emission t b).outcome.isOk = true := by
    simpa only [outcome_emission] using hbefore
  have hreached : (g.emitEach t (before ++ a :: after)).events =
      (before ++ [a]).flatMap fun b => (g.emission t b).events := by
    rw [emitEach_eq_mapM, Logged.events_mapM_of_error hemissions
      ((g.outcome_emission t a).trans ha), List.flatMap_append, List.flatMap_singleton]
  rw [pass, Logged.events_log_bind, Logged.events_bind_of_error hfails, hreached, List.map_append,
    notices_emissions]
  rfl

/-! ## Runs -/

theorem notices_passes {written : Target → List Artifact}
    (h : ∀ t ∈ ts, (g.pass as t).outcome = .ok (written t)) :
    (g.passes as ts).events.map Event.notice =
      ts.flatMap fun t => Notice.pass t (as.map (·.name)) (written t) := by
  rw [passes_eq_mapM, Logged.events_bind_pure,
    Logged.events_mapM fun t ht => isOk_iff.2 ⟨_, h t ht⟩, List.map_flatMap]
  exact List.flatMap_congr fun t ht => notices_pass (h t ht)

theorem notices_passes_of_error {done later : List Target} {e : GenerationError}
    {written : Target → List Artifact} (hdone : ∀ u ∈ done, (g.pass as u).outcome = .ok (written u))
    (ht : (g.pass as t).outcome = .error e) :
    (g.passes as (done ++ t :: later)).events.map Event.notice =
      (done.flatMap fun u => Notice.pass u (as.map (·.name)) (written u)) ++
        (g.pass as t).events.map Event.notice := by
  rw [passes_eq_mapM, Logged.events_bind_pure,
    Logged.events_mapM_of_error (fun u hu => isOk_iff.2 ⟨_, hdone u hu⟩) ht, List.map_append,
    List.map_flatMap, List.flatMap_congr fun u hu => notices_pass (hdone u hu)]

theorem events_algorithms (g : Generator) (s : Selection) :
    (g.algorithms s).events = s.unusedExclusions.map .unusedExclusion := by
  simp [algorithms]

/-- The exclusions that a run warns of. -/
def warnings (s : Selection) : List Notice :=
  (s.excluded.filter fun name => name ∉ s.included).map .unusedExclusion

theorem notices_algorithms (g : Generator) (s : Selection) :
    (g.algorithms s).events.map Event.notice = warnings s := by
  rw [events_algorithms, List.map_map, warnings, Selection.unusedExclusions]
  congr 1
  exact List.filter_congr fun name _ => by simp

theorem told_of_error {e : GenerationError} (h : (g.algorithms s).outcome = .error e) :
    g.told s ts = warnings s := by
  rw [told, run, Logged.events_bind_of_error h, notices_algorithms]

theorem told_of_ok (h : (g.algorithms s).outcome = .ok as) :
    g.told s ts = warnings s ++ (g.passes as (distinct ts)).events.map Event.notice := by
  rw [told, run, Logged.events_bind_of_ok h, Logged.events_bind_pure, List.map_append,
    notices_algorithms]

theorem outcome_generate_of_ok (h : (g.algorithms s).outcome = .ok as) (t : Target) :
    (g.generate s t).outcome = (g.pass as t).outcome := by
  rw [generate, Logged.outcome_bind, h, ok_bind]

theorem outcome_passes_of_run {e : GenerationError} (h : (g.algorithms s).outcome = .ok as)
    (hrun : (g.run s ts).outcome = .error e) :
    (distinct ts).mapM (fun t => (g.pass as t).outcome) = .error e := by
  rw [run, Logged.outcome_bind, h, ok_bind, Logged.outcome_bind, passes_eq_mapM,
    Logged.outcome_bind, Logged.outcome_mapM] at hrun
  cases hpasses : (distinct ts).mapM fun t => (g.pass as t).outcome with
  | ok artifacts =>
      rw [hpasses] at hrun
      cases hrun
  | error e' =>
      rw [hpasses, error_bind, error_bind] at hrun
      cases hrun
      rfl

/-! ## Artifacts of a pass -/

/-- Only parameter types are ever empty. -/
theorem isEmpty_of_emit {a : Algorithm} {settings : Settings} {x : Artifact}
    (h : emit t a settings = .ok x) (ht : t ≠ .parameterTypes) : x.isEmpty = false := by
  cases t with
  | declaration => rw [Artifact.isEmpty, Native.declaration_lines h]; rfl
  | definition => rw [Artifact.isEmpty, Native.definition_lines h]; rfl
  | binding => rw [Artifact.isEmpty, Native.registration_lines h]; rfl
  | wrapper => rw [Artifact.isEmpty, Wrapper.wrapperClass_lines h]; rfl
  | parameterTypes => exact absurd rfl ht

theorem exists_emit_of_pass {artifacts : List Artifact}
    (h : (g.pass as t).outcome = .ok artifacts) {x : Artifact} (hx : x ∈ artifacts) :
    ∃ a ∈ as, emit t a g.settings = .ok x := by
  rw [outcome_pass] at h
  exact (mem_iff_of_mapM h).1 hx

theorem target_of_pass {artifacts : List Artifact} (h : (g.pass as t).outcome = .ok artifacts)
    {x : Artifact} (hx : x ∈ artifacts) : x.target = t := by
  obtain ⟨a, -, ha⟩ := exists_emit_of_pass h hx
  exact (emit_filed ha).1

theorem countP_of_pass {artifacts : List Artifact} (h : (g.pass as t).outcome = .ok artifacts)
    (ht : t ≠ .parameterTypes) : artifacts.countP (!·.isEmpty) = as.length := by
  have hwritten := (g.outcome_pass as t).symm.trans h
  have hlength : artifacts.length = as.length := by
    simpa using (congrArg List.length (mapM_eq_ok.1 hwritten)).symm
  rw [← hlength, List.countP_eq_length]
  intro x hx
  obtain ⟨a, -, ha⟩ := exists_emit_of_pass h hx
  simp [isEmpty_of_emit ha ht]

/-- The export block has a line for each parameter type of the pass that is not empty. -/
theorem exportBlock_of_pass {artifacts : List Artifact}
    (h : (g.pass as .parameterTypes).outcome = .ok artifacts) :
    ∃ exported : List String,
      Wrapper.exportBlock artifacts =
        ["export \x7b"] ++ exported.map (fun name => "  " ++ name ++ ",") ++ ["\x7d"] ∧
      artifacts.countP (!·.isEmpty) = exported.length := by
  have hfilter : (artifacts.filter fun x => x.target = .parameterTypes && !x.isEmpty) =
      artifacts.filter fun x => !x.isEmpty :=
    List.filter_congr fun x hx => by simp [target_of_pass h hx]
  refine ⟨(artifacts.filter fun x => !x.isEmpty).map fun x => Settings.parameterType x.algorithm,
    ?_, ?_⟩
  · rw [Wrapper.exportBlock, hfilter, List.map_map]
    rfl
  · rw [List.length_map, List.countP_eq_length_filter]

/-! ## The whole story -/

/-- Where the passes of a run stop: after those that are done, a pass fails for an algorithm. -/
structure StopsAt (g : Generator) (ts : List Target) (as : List Algorithm) (done : List Target)
    (t : Target) (before : List Algorithm) (a : Algorithm) (e : GenerationError) : Prop where
  targets : ∃ later, distinct ts = done ++ t :: later
  algorithms : ∃ after, as = before ++ a :: after
  before : ∀ b ∈ before, (emit t b g.settings).isOk = true
  failure : emit t a g.settings = .error e

theorem told_of_run {r : Run} (h : (g.algorithms s).outcome = .ok as)
    (hrun : (g.run s ts).outcome = .ok r) :
    g.told s ts = warnings s ++
      (distinct ts).flatMap fun t => Notice.pass t (as.map (·.name)) (r.forTarget t) := by
  rw [told_of_ok h, notices_passes]
  intro t ht
  rw [← outcome_generate_of_ok h]
  exact generate_of_run hrun (mem_distinct.1 ht)

theorem told_of_run_error {e : GenerationError} (h : (g.algorithms s).outcome = .ok as)
    (hrun : (g.run s ts).outcome = .error e) :
    ∃ done t before a, ∃ written : Target → List Artifact,
      g.StopsAt ts as done t before a e ∧
      (∀ u ∈ done, (g.generate s u).outcome = .ok (written u)) ∧
      g.told s ts = warnings s ++
        (done.flatMap fun u => Notice.pass u (as.map (·.name)) (written u)) ++
        Notice.begun t as.length ((before ++ [a]).map (·.name)) := by
  obtain ⟨done, t, later, hts, hdone, ht⟩ := mapM_eq_error.1 (outcome_passes_of_run h hrun)
  obtain ⟨before, a, after, rfl, hbefore, ha⟩ :=
    mapM_eq_error.1 ((g.outcome_pass as t).symm.trans ht)
  let written : Target → List Artifact := fun u =>
    match (g.pass (before ++ a :: after) u).outcome with
    | .ok artifacts => artifacts
    | .error _ => []
  have hwritten : ∀ u ∈ done, (g.pass (before ++ a :: after) u).outcome = .ok (written u) := by
    intro u hu
    obtain ⟨artifacts, hok⟩ := isOk_iff.1 (hdone u hu)
    simp only [written, hok]
  refine ⟨done, t, before, a, written, ⟨⟨later, hts⟩, ⟨after, rfl⟩, hbefore, ha⟩, ?_, ?_⟩
  · intro u hu
    rw [outcome_generate_of_ok h, hwritten u hu]
  · rw [told_of_ok h, hts, notices_passes_of_error hwritten ht,
      notices_pass_of_error hbefore ha, List.append_assoc]

/-- What a run tells. Exclusions without effect come first, and alone where the algorithms cannot be
made ready. Then every target has its pass: how many algorithms there are, each of them, and how
many artifacts are not empty, which is all of them but for parameter types, where it is as many as
the export block has names. Where an algorithm cannot be written, it is the last that is told. -/
theorem run_story (g : Generator) (s : Selection) (ts : List Target) :
    (∀ e, (g.algorithms s).outcome = .error e →
      (g.run s ts).outcome = .error e ∧ g.told s ts = warnings s) ∧
    ∀ as, (g.algorithms s).outcome = .ok as →
      s.resolve.map g.fetch = as.map .ok ∧
      (∀ r, (g.run s ts).outcome = .ok r →
        g.told s ts = warnings s ++
          (distinct ts).flatMap (fun t => Notice.pass t (as.map (·.name)) (r.forTarget t)) ∧
        (.parameterTypes ∈ ts →
          r.exports = some (Wrapper.exportBlock (r.forTarget .parameterTypes)))) ∧
      (∀ e, (g.run s ts).outcome = .error e →
        ∃ done t before a, ∃ written : Target → List Artifact,
          g.StopsAt ts as done t before a e ∧ e.algorithm? = some a.name ∧
          (∀ u ∈ done, (g.generate s u).outcome = .ok (written u)) ∧
          g.told s ts = warnings s ++
            (done.flatMap fun u => Notice.pass u (as.map (·.name)) (written u)) ++
            Notice.begun t as.length ((before ++ [a]).map (·.name))) ∧
      ∀ t artifacts, (g.generate s t).outcome = .ok artifacts →
        (t ≠ .parameterTypes → artifacts.countP (!·.isEmpty) = as.length) ∧
        (t = .parameterTypes → ∃ exported : List String,
          Wrapper.exportBlock artifacts =
            ["export \x7b"] ++ exported.map (fun name => "  " ++ name ++ ",") ++ ["\x7d"] ∧
          artifacts.countP (!·.isEmpty) = exported.length) := by
  refine ⟨fun e he => ?_, fun as has => ⟨?_, fun r hr => ⟨told_of_run has hr, fun ht => ?_⟩,
    fun e he => ?_, fun t artifacts hok => ?_⟩⟩
  · refine ⟨?_, told_of_error he⟩
    rw [run, Logged.outcome_bind, he, error_bind]
  · rw [outcome_algorithms] at has
    exact mapM_eq_ok.1 has
  · rw [exports_of_run hr, if_pos ht, Run.exportBlock_forTarget]
  · obtain ⟨done, t, before, a, written, hstops, hdone, htold⟩ := told_of_run_error has he
    exact ⟨done, t, before, a, written, hstops, algorithm?_of_emit hstops.failure, hdone, htold⟩
  · rw [outcome_generate_of_ok has] at hok
    refine ⟨countP_of_pass hok, ?_⟩
    rintro rfl
    exact exportBlock_of_pass hok

/-- A complex input stops the second pass, whose last notice names the algorithm. -/
theorem run_story_magnitude :
    ∃ g : Generator, ∃ as e done t before a, ∃ written : Target → List Artifact,
      let s : Selection := { included := ["Gain", "Magnitude"], excluded := ["Gains", "Gains"] }
      let ts : List Target := [.parameterTypes, .declaration, .parameterTypes, .wrapper]
      (g.algorithms s).outcome = .ok as ∧ (g.run s ts).outcome = .error e ∧
      g.StopsAt ts as done t before a e ∧ e.algorithm? = some a.name ∧
      (∀ u ∈ done, (g.generate s u).outcome = .ok (written u)) ∧
      g.told s ts = warnings s ++
        (done.flatMap fun u => Notice.pass u (as.map (·.name)) (written u)) ++
        Notice.begun t as.length ((before ++ [a]).map (·.name)) ∧
      g.told s ts = [.unusedExclusion "Gains", .unusedExclusion "Gains",
        .generating .parameterTypes 2, .emitting .parameterTypes "Gain",
        .emitting .parameterTypes "Magnitude", .finished .parameterTypes 1,
        .generating .declaration 2, .emitting .declaration "Gain",
        .emitting .declaration "Magnitude"] := by
  let gain : Descriptor := {
    name := "Gain"
    inputs := [⟨"signal", .vectorReal, ""⟩]
    outputs := [⟨"signal", .vectorReal, ""⟩]
    parameters := [⟨"factor", .real, "10", ""⟩] }
  let magnitude : Descriptor := {
    name := "Magnitude"
    inputs := [⟨"complex", .vectorComplex, ""⟩]
    outputs := [⟨"magnitude", .vectorReal, ""⟩] }
  let c : Catalog := ⟨[gain, magnitude], [("Magnitude", 1), ("Gain", 0)]⟩
  let g : Generator := ⟨c.descriptor, {}⟩
  let s : Selection := { included := ["Gain", "Magnitude"], excluded := ["Gains", "Gains"] }
  let ts : List Target := [.parameterTypes, .declaration, .parameterTypes, .wrapper]
  obtain ⟨as, has⟩ := isOk_iff.1 (show (g.algorithms s).outcome.isOk = true by rfl)
  obtain ⟨e, he⟩ : ∃ e, failure? (g.run s ts).outcome = some e := ⟨_, rfl⟩
  have he := failure?_eq_some.1 he
  obtain ⟨done, t, before, a, written, hstops, hblame, hdone, htold⟩ :=
    ((run_story g s ts).2 as has).2.2.1 e he
  exact ⟨g, as, e, done, t, before, a, written, has, he, hstops, hblame, hdone, htold, by rfl⟩

end Generator

end Bindery
