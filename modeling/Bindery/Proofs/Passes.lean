import Bindery.Generator
import Bindery.Proofs.Outcome

/-!
# What the passes of a generator come to

All algorithms are fetched first, and then each target takes one pass. Seen from the
outside this is one traversal of the names and one of all pairs of a target and a
name, target by target.
-/

namespace Bindery

/-- What is found step by step can be worked on step by step. -/
theorem mapM_of_map_eq_ok {ε α β γ : Type} {f : α → Except ε β} {k : β → Except ε γ}
    {l : List α} {r : List β} (h : l.map f = r.map .ok) :
    r.mapM k = l.mapM fun a => f a >>= k := by
  induction l generalizing r with
  | nil =>
      cases r with
      | nil => rfl
      | cons b bs => simp at h
  | cons a rest ih =>
      cases r with
      | nil => simp at h
      | cons b bs =>
          rw [List.map_cons, List.map_cons, List.cons.injEq] at h
          rw [List.mapM_cons, List.mapM_cons, h.1, ok_bind, ih h.2]

namespace Generator

/-- Looks an algorithm up and makes it ready. -/
def fetch (g : Generator) (name : String) : Except GenerationError Algorithm :=
  Algorithm.fetch g.provider g.settings name

/-- The code of the algorithm of a name for a target. -/
def artifact (g : Generator) (t : Target) (name : String) : Except GenerationError Artifact := do
  emit t (← g.fetch name) g.settings

/-- Every name with every target, target by target. -/
def pairs (ts : List Target) (names : List String) : List (Target × String) :=
  ts.flatMap fun t => names.map fun name => (t, name)

theorem mem_pairs {ts : List Target} {names : List String} {t : Target} {name : String} :
    (t, name) ∈ pairs ts names ↔ t ∈ ts ∧ name ∈ names := by
  simp [pairs]

/-- All pairs are looked at once each target is looked at with each name. -/
theorem forall_mem_pairs {ts : List Target} {names : List String} {P : Target → String → Prop} :
    (∀ p ∈ pairs (distinct ts) names, P p.1 p.2) ↔ ∀ t ∈ ts, ∀ name ∈ names, P t name := by
  simp only [Prod.forall, mem_pairs, mem_distinct]
  constructor
  · intro h t ht name hname
    exact h t name ⟨ht, hname⟩
  · intro h t name hp
    exact h t hp.1 name hp.2

theorem exists_mem_pairs {ts : List Target} {names : List String} {P : Target → String → Prop} :
    (∃ p ∈ pairs (distinct ts) names, P p.1 p.2) ↔ ∃ t ∈ ts, ∃ name ∈ names, P t name := by
  simp only [Prod.exists, mem_pairs, mem_distinct]
  constructor
  · intro h
    obtain ⟨t, name, ⟨ht, hname⟩, hp⟩ := h
    exact ⟨t, ht, name, hname, hp⟩
  · intro h
    obtain ⟨t, ht, name, hname, hp⟩ := h
    exact ⟨t, name, ⟨ht, hname⟩, hp⟩

theorem pairs_cons (t : Target) (rest : List Target) (names : List String) :
    pairs (t :: rest) names = names.map (fun name => (t, name)) ++ pairs rest names := rfl

theorem length_pairs (ts : List Target) (names : List String) :
    (pairs ts names).length = ts.length * names.length := by
  induction ts with
  | nil => simp [pairs]
  | cons t rest ih =>
      rw [pairs_cons, List.length_append, ih, List.length_map, List.length_cons, Nat.succ_mul,
        Nat.add_comm]

/-- The run that artifacts make up for targets. -/
def assembled (ts : List Target) (artifacts : List Artifact) : Run where
  artifacts := artifacts
  exports := if Target.parameterTypes ∈ ts then some (Wrapper.exportBlock artifacts) else none

theorem fetch_eq_ok {g : Generator} {name : String} {a : Algorithm} :
    g.fetch name = .ok a ↔
      ∃ d, g.provider name = .ok d ∧ Algorithm.ofDescriptor g.settings d = .ok a := by
  unfold fetch Algorithm.fetch
  cases g.provider name with
  | ok d => simp
  | error e => simp

variable (g : Generator)

theorem outcome_algorithms (s : Selection) :
    (g.algorithms s).outcome = s.resolve.mapM g.fetch := by
  simp only [algorithms, Logged.outcome_bind, Logged.outcome_log, Logged.outcome_ofExcept, ok_bind]
  rfl

theorem outcome_emitEach (t : Target) (as : List Algorithm) :
    (g.emitEach t as).outcome = as.mapM fun a => emit t a g.settings := by
  induction as with
  | nil => rfl
  | cons a rest ih =>
      rw [List.mapM_cons, ← ih]
      simp only [emitEach, Logged.outcome_bind, Logged.outcome_log, Logged.outcome_ofExcept,
        Logged.outcome_pure, ok_bind, pure_eq_ok]

theorem outcome_pass (as : List Algorithm) (t : Target) :
    (g.pass as t).outcome = as.mapM fun a => emit t a g.settings := by
  rw [← outcome_emitEach]
  simp only [pass, Logged.outcome_bind, Logged.outcome_log, Logged.outcome_pure, ok_bind]
  cases (g.emitEach t as).outcome <;> rfl

/-- The passes over fetched algorithms are one traversal of the pairs. -/
theorem outcome_passes {as : List Algorithm} {names : List String}
    (h : names.map g.fetch = as.map .ok) (ts : List Target) :
    (g.passes as ts).outcome = (pairs ts names).mapM fun p => g.artifact p.1 p.2 := by
  induction ts with
  | nil => rfl
  | cons t rest ih =>
      have hpass : (g.pass as t).outcome = names.mapM (g.artifact t) := by
        rw [outcome_pass, mapM_of_map_eq_ok h]
        rfl
      simp only [passes, Logged.outcome_bind, Logged.outcome_pure]
      rw [pairs_cons, List.mapM_append, List.mapM_map, hpass, ih]
      rfl

theorem outcome_generate (s : Selection) (t : Target) :
    (g.generate s t).outcome =
      s.resolve.mapM g.fetch >>= fun _ => s.resolve.mapM (g.artifact t) := by
  rw [generate, Logged.outcome_bind, outcome_algorithms]
  cases h : s.resolve.mapM g.fetch with
  | error e => rfl
  | ok as =>
      rw [ok_bind, ok_bind, outcome_pass, mapM_of_map_eq_ok (mapM_eq_ok.1 h)]
      rfl

theorem outcome_run (s : Selection) (ts : List Target) :
    (g.run s ts).outcome =
      s.resolve.mapM g.fetch >>= fun _ =>
        ((pairs (distinct ts) s.resolve).mapM fun p => g.artifact p.1 p.2).map (assembled ts) := by
  rw [run, Logged.outcome_bind, outcome_algorithms]
  cases h : s.resolve.mapM g.fetch with
  | error e => rfl
  | ok as =>
      rw [ok_bind, ok_bind, Logged.outcome_bind, outcome_passes g (mapM_eq_ok.1 h)]
      rfl

/-- A run succeeds when everything can be fetched and written. -/
theorem isOk_run {g : Generator} {s : Selection} {ts : List Target} :
    (g.run s ts).outcome.isOk = true ↔
      (∀ name ∈ s.resolve, (g.fetch name).isOk = true) ∧
        ∀ t ∈ ts, ∀ name ∈ s.resolve, (g.artifact t name).isOk = true := by
  rw [outcome_run, isOk_bind, ← forall_mem_pairs, ← isOk_mapM, ← isOk_mapM, isOk_map]
  constructor
  · intro h
    obtain ⟨as, has, h⟩ := h
    exact ⟨isOk_iff.2 ⟨as, has⟩, h⟩
  · intro h
    obtain ⟨hfetch, h⟩ := h
    obtain ⟨as, has⟩ := isOk_iff.1 hfetch
    exact ⟨as, has, h⟩

end Generator

end Bindery
