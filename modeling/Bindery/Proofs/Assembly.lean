import Bindery.Proofs.Catalog
import Bindery.Proofs.Passes
import Mathlib.Data.List.Nodup
import Mathlib.Data.Prod.Basic

/-!
# What a run is made of

A run that succeeds has one artifact for every pair of a target and a name, in the
order of the pairs, and each artifact is filed under its own pair. The second half
needs a provider that answers with the name it is asked for, as catalogs do.
-/

namespace Bindery

/-! ## Artifacts are filed under their algorithm and target -/

theorem emit_filed {t : Target} {a : Algorithm} {s : Settings} {x : Artifact}
    (h : emit t a s = .ok x) : x.target = t ∧ x.algorithm = a.name := by
  cases t with
  | declaration =>
      obtain ⟨sig, -, rfl⟩ := map_eq_ok.1 h
      exact ⟨rfl, rfl⟩
  | definition =>
      obtain ⟨sig, -, h⟩ := bind_eq_ok.1 h
      obtain ⟨outputs, -, h⟩ := bind_eq_ok.1 h
      split at h
      · cases h
      · cases h
        exact ⟨rfl, rfl⟩
  | binding =>
      obtain ⟨inputs, -, h⟩ := bind_eq_ok.1 h
      obtain ⟨types, -, h⟩ := bind_eq_ok.1 h
      cases h
      exact ⟨rfl, rfl⟩
  | wrapper =>
      obtain ⟨inputs, -, rfl⟩ := map_eq_ok.1 h
      exact ⟨rfl, rfl⟩
  | parameterTypes =>
      change Wrapper.parameterType a = .ok x at h
      unfold Wrapper.parameterType at h
      split at h
      · obtain ⟨fields, -, rfl⟩ := map_eq_ok.1 h
        exact ⟨rfl, rfl⟩
      · cases h
        exact ⟨rfl, rfl⟩

namespace Generator

theorem algorithm_name {g : Generator} {name : String} {a : Algorithm}
    (hnames : ∀ name d, g.provider name = .ok d → d.name = name) (h : g.fetch name = .ok a) :
    a.name = name := by
  obtain ⟨d, hd, ha⟩ := fetch_eq_ok.1 h
  unfold Algorithm.ofDescriptor at ha
  split at ha
  · cases ha
  · cases ha
    exact hnames name d hd

/-- The artifact of a pair, without any line where none can be written. -/
def written (g : Generator) (p : Target × String) : Artifact :=
  match g.artifact p.1 p.2 with
  | .ok x => x
  | .error _ => .blank p.2 p.1

theorem written_of_ok {g : Generator} {p : Target × String} {x : Artifact}
    (h : g.artifact p.1 p.2 = .ok x) : g.written p = x := by
  unfold written
  rw [h]

theorem written_target (g : Generator) (p : Target × String) : (g.written p).target = p.1 := by
  unfold written
  split
  · rename_i x h
    obtain ⟨a, -, hemit⟩ := bind_eq_ok.1 h
    exact (emit_filed hemit).1
  · rfl

theorem written_filed {g : Generator}
    (hnames : ∀ name d, g.provider name = .ok d → d.name = name) (p : Target × String) :
    (g.written p).target = p.1 ∧ (g.written p).algorithm = p.2 := by
  refine ⟨written_target g p, ?_⟩
  unfold written
  split
  · rename_i x h
    obtain ⟨a, hfetch, hemit⟩ := bind_eq_ok.1 h
    rw [(emit_filed hemit).2, algorithm_name hnames hfetch]
  · rfl

/-! ## Pairs -/

theorem nodup_pairs {ts : List Target} {names : List String} (hts : ts.Nodup)
    (hnames : names.Nodup) : (pairs ts names).Nodup := by
  induction ts with
  | nil => simp [pairs]
  | cons t rest ih =>
      rw [List.nodup_cons] at hts
      rw [pairs_cons, List.nodup_append]
      refine ⟨List.Nodup.map (fun a b h => (Prod.mk.inj h).2) hnames, ih hts.2, ?_⟩
      intro p hp q hq heq
      subst heq
      obtain ⟨name, -, rfl⟩ := List.mem_map.1 hp
      exact hts.1 (mem_pairs.1 hq).1

theorem filter_pairs_of_not_mem {ts : List Target} {names : List String} {t : Target}
    (ht : t ∉ ts) : (pairs ts names).filter (fun p => p.1 = t) = [] := by
  rw [List.filter_eq_nil_iff]
  intro p hp
  have hu := (mem_pairs.1 hp).1
  simp only [decide_eq_true_eq]
  intro heq
  exact ht (heq ▸ hu)

/-- The pairs of one target are its pass over the names. -/
theorem filter_pairs {ts : List Target} {names : List String} {t : Target} (hts : ts.Nodup)
    (ht : t ∈ ts) :
    (pairs ts names).filter (fun p => p.1 = t) = names.map fun name => (t, name) := by
  induction ts with
  | nil => cases ht
  | cons u rest ih =>
      rw [List.nodup_cons] at hts
      rw [pairs_cons, List.filter_append]
      by_cases hu : u = t
      · subst hu
        rw [filter_pairs_of_not_mem hts.1, List.append_nil, List.filter_eq_self]
        intro p hp
        obtain ⟨name, -, rfl⟩ := List.mem_map.1 hp
        simp
      · have hhead : (names.map fun name => (u, name)).filter (fun p => p.1 = t) = [] := by
          rw [List.filter_eq_nil_iff]
          intro p hp
          obtain ⟨name, -, rfl⟩ := List.mem_map.1 hp
          simpa using hu
        have hmem : t ∈ rest := (List.mem_cons.1 ht).resolve_left (Ne.symm hu)
        rw [hhead, List.nil_append, ih hts.2 hmem]

/-! ## Runs -/

section Run

variable {g : Generator} {s : Selection} {ts : List Target} {r : Run}
  (h : (g.run s ts).outcome = .ok r)
include h

theorem artifacts_of_run :
    r.artifacts.map .ok = (pairs (distinct ts) s.resolve).map fun p => g.artifact p.1 p.2 := by
  rw [outcome_run] at h
  obtain ⟨as, -, hrun⟩ := bind_eq_ok.1 h
  obtain ⟨artifacts, hartifacts, rfl⟩ := map_eq_ok.1 hrun
  exact (mapM_eq_ok.1 hartifacts).symm

theorem exports_of_run :
    r.exports =
      if Target.parameterTypes ∈ ts then some (Wrapper.exportBlock r.artifacts) else none := by
  rw [outcome_run] at h
  obtain ⟨as, -, hrun⟩ := bind_eq_ok.1 h
  obtain ⟨artifacts, -, rfl⟩ := map_eq_ok.1 hrun
  rfl

theorem artifact_of_run {t : Target} {name : String} (ht : t ∈ ts) (hname : name ∈ s.resolve) :
    g.artifact t name = .ok (g.written (t, name)) := by
  have hp : (t, name) ∈ pairs (distinct ts) s.resolve := mem_pairs.2 ⟨mem_distinct.2 ht, hname⟩
  have hmem : g.artifact t name ∈ r.artifacts.map .ok := by
    rw [artifacts_of_run h]
    exact List.mem_map.2 ⟨(t, name), hp, rfl⟩
  obtain ⟨x, -, hx⟩ := List.mem_map.1 hmem
  rw [← hx, written_of_ok (p := (t, name)) hx.symm]

theorem artifacts_eq_written :
    r.artifacts = (pairs (distinct ts) s.resolve).map g.written := by
  have hok : r.artifacts.map (Except.ok (ε := GenerationError)) =
      ((pairs (distinct ts) s.resolve).map g.written).map .ok := by
    rw [artifacts_of_run h, List.map_map]
    refine List.map_congr_left fun p hp => ?_
    have hp := mem_pairs.1 hp
    exact artifact_of_run h (mem_distinct.1 hp.1) hp.2
  exact List.map_injective_iff.2 (fun a b hab => Except.ok.inj hab) hok

theorem forTarget_eq_filter (t : Target) :
    r.forTarget t =
      ((pairs (distinct ts) s.resolve).filter fun p => p.1 = t).map g.written := by
  have hfiled : ((fun x : Artifact => decide (x.target = t)) ∘ g.written) =
      fun p => decide (p.1 = t) := by
    funext p
    simp [written_target g p]
  rw [Run.forTarget, artifacts_eq_written h, List.filter_map, hfiled]

theorem forTarget_of_run {t : Target} (ht : t ∈ ts) :
    r.forTarget t = s.resolve.map fun name => g.written (t, name) := by
  rw [forTarget_eq_filter h, filter_pairs (nodup_distinct ts) (mem_distinct.2 ht), List.map_map]
  rfl

theorem forTarget_of_run_eq_nil {t : Target} (ht : t ∉ ts) : r.forTarget t = [] := by
  rw [forTarget_eq_filter h, filter_pairs_of_not_mem (fun hmem => ht (mem_distinct.1 hmem)),
    List.map_nil]

theorem generate_of_run {t : Target} (ht : t ∈ ts) :
    (g.generate s t).outcome = .ok (r.forTarget t) := by
  have hpass : s.resolve.mapM (g.artifact t) = .ok (r.forTarget t) := by
    rw [forTarget_of_run h ht, mapM_eq_ok, List.map_map]
    exact List.map_congr_left fun name hname => artifact_of_run h ht hname
  rw [outcome_run] at h
  obtain ⟨as, has, -⟩ := bind_eq_ok.1 h
  rw [outcome_generate, has, ok_bind, hpass]

variable (hnames : ∀ name d, g.provider name = .ok d → d.name = name)
include hnames

theorem get?_of_run {t : Target} {name : String} (ht : t ∈ ts) (hname : name ∈ s.resolve) :
    r.get? name t = some (g.written (t, name)) := by
  have hfiled : ((fun x : Artifact => x.target = t && x.algorithm == name) ∘ g.written) =
      fun p => p.1 = t && p.2 == name := by
    funext p
    simp [written_filed hnames p]
  have hp : (t, name) ∈ pairs (distinct ts) s.resolve := mem_pairs.2 ⟨mem_distinct.2 ht, hname⟩
  rw [Run.get?, artifacts_eq_written h, List.find?_map, hfiled]
  cases hfind : (pairs (distinct ts) s.resolve).find? fun p => p.1 = t && p.2 == name with
  | none =>
      have hnone := List.find?_eq_none.1 hfind _ hp
      simp at hnone
  | some q =>
      have hq := List.find?_some hfind
      simp only [Bool.and_eq_true, decide_eq_true_eq, beq_iff_eq] at hq
      rw [Option.map_some, ← hq.1, ← hq.2]

theorem get?_of_run_eq_none {t : Target} {name : String} (hp : ¬ (t ∈ ts ∧ name ∈ s.resolve)) :
    r.get? name t = none := by
  rw [Run.get?, artifacts_eq_written h, List.find?_eq_none]
  intro x hx
  obtain ⟨⟨u, n⟩, hun, rfl⟩ := List.mem_map.1 hx
  have hfiled := written_filed hnames (u, n)
  simp only [Bool.and_eq_true, decide_eq_true_eq, beq_iff_eq, hfiled.1, hfiled.2]
  intro heq
  obtain ⟨rfl, rfl⟩ := heq
  have hun := mem_pairs.1 hun
  exact hp ⟨mem_distinct.1 hun.1, hun.2⟩

end Run

end Generator

/-! ## Files -/

/-- The body of a target's file needs the artifacts of that target, and the export block only
where it belongs. -/
theorem Run.render_congr {r r' : Run} {t : Target} (hf : r.forTarget t = r'.forTarget t)
    (he : t = .parameterTypes → r.exports = r'.exports) : r.render t = r'.render t := by
  unfold render blocks
  rw [hf]
  by_cases ht : t = .parameterTypes
  · rw [he ht]
  · simp [ht]

theorem Run.exportBlock_forTarget (r : Run) :
    Wrapper.exportBlock (r.forTarget .parameterTypes) = Wrapper.exportBlock r.artifacts := by
  have hfilter : (fun a : Artifact => (a.target = .parameterTypes && !a.isEmpty) &&
      decide (a.target = .parameterTypes)) = fun a => a.target = .parameterTypes && !a.isEmpty := by
    funext a
    cases decide (a.target = .parameterTypes) <;> simp
  rw [Wrapper.exportBlock, Wrapper.exportBlock, forTarget, List.filter_filter, hfilter]

/-- Two runs over the same selection write the same file for a target that both are asked for. -/
theorem Generator.render_of_runs {g : Generator} {s : Selection} {ts ts' : List Target}
    {r r' : Run} (h : (g.run s ts).outcome = .ok r) (h' : (g.run s ts').outcome = .ok r')
    {t : Target} (ht : t ∈ ts) (ht' : t ∈ ts') :
    r.forTarget t = r'.forTarget t ∧ r.render t = r'.render t := by
  have hsame : ∀ u ∈ ts, u ∈ ts' → r.forTarget u = r'.forTarget u := by
    intro u hu hu'
    rw [forTarget_of_run h hu, forTarget_of_run h' hu']
  refine ⟨hsame t ht ht', Run.render_congr (hsame t ht ht') ?_⟩
  intro heq
  subst heq
  rw [exports_of_run h, exports_of_run h', if_pos ht, if_pos ht', ← r.exportBlock_forTarget,
    ← r'.exportBlock_forTarget, hsame _ ht ht']

/-- The artifacts of a run, in order: a pass over the resolved names for each target at its first
place. Nothing is lost, doubled or filed under another pair, and what a run has for one target
does not depend on the other targets. -/
theorem run_assembly {c : Catalog} (hc : c.Built) (settings : Settings) (s : Selection)
    (ts : List Target) (r : Run)
    (h : ((Generator.mk c.descriptor settings).run s ts).outcome = .ok r) :
    let g : Generator := ⟨c.descriptor, settings⟩
    r.artifacts.map .ok =
        (distinct ts).flatMap (fun t => s.resolve.map fun name => g.artifact t name) ∧
      r.artifacts.length = (distinct ts).length * s.resolve.length ∧
      (r.artifacts.map fun x => (x.algorithm, x.target)).Nodup ∧
      (∀ name t, name ∈ s.resolve → t ∈ ts →
        ∃ x, g.artifact t name = .ok x ∧ r.get? name t = some x) ∧
      (∀ name t, ¬ (name ∈ s.resolve ∧ t ∈ ts) → r.get? name t = none) ∧
      (∀ t ∈ ts, (g.generate s t).outcome = .ok (r.forTarget t)) ∧
      (r.exports.isSome = true ↔ Target.parameterTypes ∈ ts) ∧
      ∀ ts' r', (g.run s ts').outcome = .ok r' → ∀ t ∈ ts, t ∈ ts' →
        r.forTarget t = r'.forTarget t ∧ r.render t = r'.render t ∧ r.digest t = r'.digest t := by
  intro g
  have hnames : ∀ name d, g.provider name = .ok d → d.name = name :=
    fun name d hd => hc.indexed.name_eq hd
  have hwritten := Generator.artifacts_eq_written h
  refine ⟨?_, ?_, ?_, ?_, ?_, ?_, ?_, ?_⟩
  · rw [Generator.artifacts_of_run h, Generator.pairs, List.map_flatMap]
    simp only [List.map_map]
    rfl
  · rw [hwritten, List.length_map, Generator.length_pairs]
  · have hkey : (fun x : Artifact => (x.algorithm, x.target)) ∘ g.written = Prod.swap := by
      funext p
      have hfiled := Generator.written_filed hnames p
      exact Prod.ext hfiled.2 hfiled.1
    rw [hwritten, List.map_map, hkey]
    exact List.Nodup.map Prod.swap_injective
      (Generator.nodup_pairs (nodup_distinct ts) s.nodup_resolve)
  · intro name t hname ht
    exact ⟨_, Generator.artifact_of_run h ht hname, Generator.get?_of_run h hnames ht hname⟩
  · intro name t hp
    exact Generator.get?_of_run_eq_none h hnames fun hp' => hp hp'.symm
  · intro t ht
    exact Generator.generate_of_run h ht
  · rw [Generator.exports_of_run h]
    split <;> simp_all
  · intro ts' r' h' t ht ht'
    obtain ⟨hfor, hrender⟩ := Generator.render_of_runs h h' ht ht'
    exact ⟨hfor, hrender, by rw [Run.digest, Run.digest, hrender]⟩

/-- Two algorithms and two targets make four artifacts, however often each is named. -/
theorem run_assembly_repeated :
    ∃ (c : Catalog) (r : Run), c.Built ∧
      ((Generator.mk c.descriptor {}).run { included := ["Scale", "Energy", "Scale"] }
        [.binding, .parameterTypes, .binding]).outcome = .ok r ∧
      r.artifacts.length = 4 ∧ r.exports.isSome = true ∧
      (∃ x, r.get? "Energy" .parameterTypes = some x) ∧ r.get? "Energy" .wrapper = none := by
  let energy : Descriptor := {
    name := "Energy"
    inputs := [⟨"array", .vectorReal, ""⟩]
    outputs := [⟨"energy", .real, ""⟩] }
  let scale : Descriptor := {
    name := "Scale"
    inputs := [⟨"signal", .vectorReal, ""⟩]
    outputs := [⟨"signal", .vectorReal, ""⟩]
    parameters := [⟨"factor", .real, "10", ""⟩] }
  let c : Catalog := ⟨[energy, scale], [("Scale", 1), ("Energy", 0)]⟩
  have hc : c.Built := .insert (.insert .empty (d := energy) rfl) (d := scale) rfl
  have hok : ((Generator.mk c.descriptor {}).run { included := ["Scale", "Energy", "Scale"] }
      [.binding, .parameterTypes, .binding]).outcome.isOk = true := by rfl
  obtain ⟨r, hr⟩ := isOk_iff.1 hok
  obtain ⟨-, hlen, -, hfound, hmissing, -, hexports, -⟩ := run_assembly hc {} _ _ r hr
  obtain ⟨x, -, hx⟩ := hfound "Energy" .parameterTypes (by decide) (by decide)
  exact ⟨c, r, hc, hr, by rw [hlen]; decide, hexports.2 (by decide), ⟨x, hx⟩,
    hmissing "Energy" .wrapper (by decide)⟩

end Bindery
