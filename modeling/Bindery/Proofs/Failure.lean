import Bindery.Proofs.Passes

/-!
# Which failure a run reports

Two phases can fail. While algorithms are fetched, the first name that is refused
decides, whatever is asked for. After that the first pair that cannot be written
decides, in the order of the passes.
-/

namespace Bindery

/-- Why a name is refused before any code is written: it has no descriptor, or one that says
nothing. -/
def Provider.refusal? (p : Provider) (name : String) : Option GenerationError :=
  match p name with
  | .error e => some (.catalog e)
  | .ok d => if d.isEmpty then some (.malformed d.name) else none

/-- Providers that look names up refuse what they do not know and what is empty. -/
theorem Provider.refusal?_ofLookup {lookup : String → Option Descriptor} {name : String}
    {e : GenerationError} :
    (ofLookup lookup).refusal? name = some e ↔
      (lookup name = none ∧ e = .catalog (.unknown name)) ∨
        ∃ d, lookup name = some d ∧ d.isEmpty = true ∧ e = .malformed d.name := by
  unfold refusal? ofLookup
  cases lookup name with
  | none => simp [eq_comm (a := e)]
  | some d =>
      by_cases h : d.isEmpty = true
      · simp [h, eq_comm (a := e)]
      · simp [h]

namespace Generator

/-- Why the writer of a target fails on the algorithm of a name. -/
def writeFailure? (g : Generator) (t : Target) (name : String) : Option GenerationError :=
  match g.fetch name with
  | .ok a => failure? (emit t a g.settings)
  | .error _ => none

variable (g : Generator)

theorem failure?_fetch (name : String) : failure? (g.fetch name) = g.provider.refusal? name := by
  unfold fetch Algorithm.fetch Provider.refusal?
  cases g.provider name with
  | error e => rfl
  | ok d =>
      change failure? (Algorithm.ofDescriptor g.settings d) =
        if d.isEmpty then some (.malformed d.name) else none
      unfold Algorithm.ofDescriptor
      split <;> rfl

/-- A name that is not refused has an artifact unless the writer fails. -/
theorem failure?_artifact {t : Target} {name : String} (h : g.provider.refusal? name = none) :
    failure? (g.artifact t name) = g.writeFailure? t name := by
  rw [← failure?_fetch, failure?_eq_none] at h
  obtain ⟨a, ha⟩ := isOk_iff.1 h
  rw [artifact, writeFailure?, ha]
  rfl

/-- The two phases of a run: first all names, then all pairs. -/
theorem failure?_run (s : Selection) (ts : List Target) :
    failure? (g.run s ts).outcome =
      (s.resolve.findSome? g.provider.refusal?).or
        ((pairs (distinct ts) s.resolve).findSome? fun p => g.writeFailure? p.1 p.2) := by
  have hfetch : failure? (s.resolve.mapM g.fetch) = s.resolve.findSome? g.provider.refusal? := by
    rw [failure?_mapM]
    congr 1
    funext name
    exact g.failure?_fetch name
  rw [outcome_run, failure?_bind_const, hfetch, failure?_map, failure?_mapM]
  cases hrefused : s.resolve.findSome? g.provider.refusal? with
  | some e => rfl
  | none =>
      rw [Option.none_or, Option.none_or]
      apply findSome?_congr
      intro p hp
      exact g.failure?_artifact (List.findSome?_eq_none_iff.1 hrefused _ (mem_pairs.1 hp).2)

/-- One pass is a run for one target. -/
theorem failure?_generate (s : Selection) (t : Target) :
    failure? (g.generate s t).outcome = failure? (g.run s [t]).outcome := by
  have hpairs : pairs (distinct [t]) s.resolve = s.resolve.map fun name => (t, name) := by
    simp [pairs, distinct]
  rw [outcome_generate, outcome_run, failure?_bind_const, failure?_bind_const, failure?_map, hpairs,
    List.mapM_map]
  rfl

/-- The failure that is reported. Refused names come first and in order, whatever the targets are
and whatever their writers would do; then comes the first pair that cannot be written. -/
theorem reported_failure (s : Selection) :
    (∀ ts, (∃ e, (g.run s ts).outcome = .error e) ↔
      (∃ name ∈ s.resolve, (g.provider.refusal? name).isSome = true) ∨
        ∃ t ∈ ts, ∃ name ∈ s.resolve, (g.writeFailure? t name).isSome = true) ∧
    (∀ e, s.resolve.findSome? g.provider.refusal? = some e →
      ∀ ts, (g.run s ts).outcome = .error e) ∧
    (s.resolve.findSome? g.provider.refusal? = none → ∀ ts e,
      (g.run s ts).outcome = .error e ↔
        (pairs (distinct ts) s.resolve).findSome? (fun p => g.writeFailure? p.1 p.2) = some e) ∧
    (∀ lookup, g.provider = Provider.ofLookup lookup → ∀ name e,
      g.provider.refusal? name = some e ↔
        (lookup name = none ∧ e = .catalog (.unknown name)) ∨
          ∃ d, lookup name = some d ∧ d.isEmpty = true ∧ e = .malformed d.name) ∧
    ∀ t e, (g.generate s t).outcome = .error e ↔ (g.run s [t]).outcome = .error e := by
  refine ⟨?_, ?_, ?_, ?_, ?_⟩
  · intro ts
    have hsome : (∃ e, (g.run s ts).outcome = .error e) ↔
        (failure? (g.run s ts).outcome).isSome = true := by
      simp only [Option.isSome_iff_exists, failure?_eq_some]
    rw [hsome, failure?_run, Option.isSome_or, Bool.or_eq_true, List.findSome?_isSome_iff,
      List.findSome?_isSome_iff,
      exists_mem_pairs (P := fun t name => (g.writeFailure? t name).isSome = true)]
  · intro e h ts
    rw [← failure?_eq_some, failure?_run, h]
    rfl
  · intro h ts e
    rw [← failure?_eq_some, failure?_run, h, Option.none_or]
  · intro lookup hg name e
    rw [hg]
    exact Provider.refusal?_ofLookup
  · intro t e
    rw [← failure?_eq_some, failure?_generate, failure?_eq_some]

/-- An empty descriptor is told before an earlier algorithm that no native code can be written for;
without it, that algorithm is told in the pass that fails. -/
theorem reported_failure_magnitude :
    let magnitude : Descriptor := {
      name := "Magnitude"
      inputs := [⟨"complex", .vectorComplex, ""⟩]
      outputs := [⟨"magnitude", .vectorReal, ""⟩] }
    let lookup : String → Option Descriptor := fun name =>
      if name = "Magnitude" then some magnitude
      else if name = "Nothing" then some { name := "Nothing" } else none
    let g : Generator := ⟨.ofLookup lookup, {}⟩
    (∀ ts, (g.run { included := ["Magnitude", "Nothing", "Spectrum"] } ts).outcome =
        .error (.malformed "Nothing")) ∧
      (g.run { included := ["Magnitude"] } [.wrapper, .binding, .wrapper]).outcome =
        .error (.unsupportedType "Magnitude" "complex" .native .vectorComplex) := by
  intro magnitude lookup g
  exact ⟨(g.reported_failure { included := ["Magnitude", "Nothing", "Spectrum"] }).2.1 _ rfl,
    ((g.reported_failure { included := ["Magnitude"] }).2.2.1 rfl
      [.wrapper, .binding, .wrapper] _).2 rfl⟩

end Generator

end Bindery
