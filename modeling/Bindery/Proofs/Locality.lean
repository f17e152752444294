import Bindery.Proofs.Assembly
import Bindery.Proofs.Operations

/-!
# What a generation depends on

A generation asks its provider for the resolved names and for nothing else, and the
artifact of a name is made from the answer for that name alone. So it matters neither
what else a catalog holds nor where it holds it, and the order of a selection is the
order of the artifacts and no more.
-/

namespace Bindery

/-- What a provider finds has the name that was asked for. -/
def Provider.Faithful (p : Provider) : Prop := ∀ name d, p name = .ok d → d.name = name

theorem Catalog.Built.faithful {c : Catalog} (hc : c.Built) : Provider.Faithful c.descriptor :=
  fun _ _ hd => hc.indexed.name_eq hd

namespace Generator

/-- Whatever is asked of two generators for a selection, they answer alike: with the same events,
the same results and the same failures. -/
structure AnswersAlike (g g' : Generator) (s : Selection) : Prop where
  run : ∀ ts, g.run s ts = g'.run s ts
  generate : ∀ t, g.generate s t = g'.generate s t
  typeSummary : g.typeSummary s = g'.typeSummary s
  findParameters : ∀ tag, g.findParameters s tag = g'.findParameters s tag

/-! ## Other descriptors -/

section Providers

variable {p q : Provider} {settings : Settings} {s : Selection}

theorem fetch_congr {name : String} (h : p name = q name) :
    (Generator.mk p settings).fetch name = (Generator.mk q settings).fetch name := by
  simp only [fetch, Algorithm.fetch, h]

theorem artifact_congr {t : Target} {name : String} (h : p name = q name) :
    (Generator.mk p settings).artifact t name = (Generator.mk q settings).artifact t name := by
  simp only [artifact, fetch_congr h]

/-- Once the algorithms are fetched, the provider is not asked again. -/
theorem pass_congr (as : List Algorithm) (t : Target) :
    (Generator.mk p settings).pass as t = (Generator.mk q settings).pass as t := by
  have heach : (Generator.mk p settings).emitEach t as =
      (Generator.mk q settings).emitEach t as := by
    induction as with
    | nil => rfl
    | cons a rest ih => simp only [emitEach, ih]
  simp only [pass, heach]

theorem passes_congr (as : List Algorithm) (ts : List Target) :
    (Generator.mk p settings).passes as ts = (Generator.mk q settings).passes as ts := by
  induction ts with
  | nil => rfl
  | cons t rest ih => rw [passes, passes, ih, pass_congr (q := q)]

variable (h : ∀ name ∈ s.resolve, p name = q name)
include h

theorem algorithms_congr :
    (Generator.mk p settings).algorithms s = (Generator.mk q settings).algorithms s := by
  have hfetch : s.resolve.mapM (Algorithm.fetch p settings) =
      s.resolve.mapM (Algorithm.fetch q settings) :=
    mapM_congr fun name hname => fetch_congr (h name hname)
  simp only [algorithms, hfetch]

theorem descriptors_congr :
    (Generator.mk p settings).descriptors s = (Generator.mk q settings).descriptors s := by
  refine mapM_congr fun name hname => ?_
  simp only [h name hname]

/-- Providers that agree on the resolved names cannot be told apart. -/
theorem answersAlike_of_agree : AnswersAlike ⟨p, settings⟩ ⟨q, settings⟩ s where
  run ts := by simp only [Generator.run, algorithms_congr h, passes_congr (q := q)]
  generate t := by simp only [Generator.generate, algorithms_congr h, pass_congr (q := q)]
  typeSummary := by simp only [Generator.typeSummary, descriptors_congr h]
  findParameters tag := by simp only [Generator.findParameters, descriptors_congr h]

end Providers

end Generator

/-! ## Other places in a catalog -/

section Catalogs

variable {c c' : Catalog} {name : String}

theorem Catalog.descriptor_congr (h : c.get? name = c'.get? name) :
    c.descriptor name = c'.descriptor name := by
  rw [descriptor, descriptor, h]

/-- The place of a descriptor is of no account to a lookup. -/
theorem Catalog.Indexed.get?_of_perm (hc : c.Indexed) (hc' : c'.Indexed)
    (hperm : c.descriptors.Perm c'.descriptors) : c.get? name = c'.get? name := by
  ext d
  rw [hc.get?_eq_some, hc'.get?_eq_some, hperm.mem_iff]

/-- Inserts change no lookup of a name that is there already or that they do not bring. -/
theorem Catalog.Built.get?_insertAll {ds : List Descriptor} (hc : c.Built)
    (hi : c.insertAll ds = .ok c') (h : name ∈ c.names ∨ name ∉ ds.map (·.name)) :
    c'.get? name = c.get? name := by
  obtain ⟨hc', hds⟩ := hc.of_insertAll hi
  have hnames : c'.names = c.names ++ ds.map (·.name) := by
    rw [names, hds, List.map_append, names]
  have hapart : (c.names ++ ds.map (·.name)).Nodup := hnames ▸ hc'.indexed.nodup_names
  have hout : name ∉ ds.map (·.name) := by
    rcases h with hold | hout
    · intro hnew
      exact (List.nodup_append.1 hapart).2.2 name hold name hnew rfl
    · exact hout
  ext d
  rw [hc'.indexed.get?_eq_some, hc.indexed.get?_eq_some, hds, List.mem_append]
  constructor
  · rintro ⟨hd | hd, rfl⟩
    · exact ⟨hd, rfl⟩
    · exact absurd (List.mem_map_of_mem hd) hout
  · rintro ⟨hd, rfl⟩
    exact ⟨Or.inl hd, rfl⟩

end Catalogs

/-! ## Other orders -/

namespace Generator

section Runs

variable {g : Generator} {s s' : Selection} {ts : List Target} {r r' : Run}

theorem isOk_run_of_perm (hperm : s.resolve.Perm s'.resolve) :
    (g.run s ts).outcome.isOk = (g.run s' ts).outcome.isOk := by
  rw [Bool.eq_iff_iff, isOk_run, isOk_run]
  simp only [hperm.mem_iff]

/-- Whatever else a run is about, the artifacts for a target are those of the names. -/
theorem forTarget_eq_artifacts (h : (g.run s ts).outcome = .ok r) {t : Target} (ht : t ∈ ts) :
    (r.forTarget t).map .ok = s.resolve.map (g.artifact t) := by
  rw [forTarget_of_run h ht, List.map_map]
  refine List.map_congr_left fun name hname => ?_
  exact (artifact_of_run h ht hname).symm

theorem perm_forTarget (hperm : s.resolve.Perm s'.resolve) (h : (g.run s ts).outcome = .ok r)
    (h' : (g.run s' ts).outcome = .ok r') (t : Target) :
    (r.forTarget t).Perm (r'.forTarget t) := by
  by_cases ht : t ∈ ts
  · rw [forTarget_of_run h ht, forTarget_of_run h' ht]
    exact hperm.map _
  · rw [forTarget_of_run_eq_nil h ht, forTarget_of_run_eq_nil h' ht]

theorem get?_of_perm (hnames : g.provider.Faithful) (hperm : s.resolve.Perm s'.resolve)
    (h : (g.run s ts).outcome = .ok r) (h' : (g.run s' ts).outcome = .ok r') (name : String)
    (t : Target) : r.get? name t = r'.get? name t := by
  by_cases hp : t ∈ ts ∧ name ∈ s.resolve
  · rw [get?_of_run h hnames hp.1 hp.2, get?_of_run h' hnames hp.1 (hperm.mem_iff.1 hp.2)]
  · have hp' : ¬ (t ∈ ts ∧ name ∈ s'.resolve) := by rwa [← hperm.mem_iff]
    rw [get?_of_run_eq_none h hnames hp, get?_of_run_eq_none h' hnames hp']

/-- Two generators that are told the same about an algorithm write the same code for it, whatever
else their runs are about. -/
theorem get?_of_runs {g' : Generator} {ts' : List Target} {name : String} {t : Target}
    (hnames : g.provider.Faithful) (hnames' : g'.provider.Faithful)
    (hartifact : g.artifact t name = g'.artifact t name)
    (h : (g.run s ts).outcome = .ok r) (h' : (g'.run s' ts').outcome = .ok r')
    (hname : name ∈ s.resolve) (hname' : name ∈ s'.resolve) (ht : t ∈ ts) (ht' : t ∈ ts') :
    ∃ x, g.artifact t name = .ok x ∧ r.get? name t = some x ∧ r'.get? name t = some x := by
  have hx := artifact_of_run h ht hname
  refine ⟨g.written (t, name), hx, get?_of_run h hnames ht hname, ?_⟩
  rw [get?_of_run h' hnames' ht' hname', written_of_ok (p := (t, name)) (hartifact ▸ hx)]

end Runs

/-- Two selections of the same algorithms in different orders come to the same, but for the
order: target by target, both have the artifacts of their names in the order of their names. -/
structure Reorders (g : Generator) (s s' : Selection) (ts : List Target) : Prop where
  succeeds : (g.run s ts).outcome.isOk = (g.run s' ts).outcome.isOk
  perm : ∀ r r', (g.run s ts).outcome = .ok r → (g.run s' ts).outcome = .ok r' →
    ∀ t, (r.forTarget t).Perm (r'.forTarget t)
  ordered : ∀ r r', (g.run s ts).outcome = .ok r → (g.run s' ts).outcome = .ok r' →
    ∀ t ∈ ts, (r.forTarget t).map .ok = s.resolve.map (g.artifact t) ∧
      (r'.forTarget t).map .ok = s'.resolve.map (g.artifact t)
  get? : g.provider.Faithful → ∀ r r', (g.run s ts).outcome = .ok r →
    (g.run s' ts).outcome = .ok r' → ∀ name t, r.get? name t = r'.get? name t

theorem reorders_of_perm (g : Generator) {s s' : Selection} (ts : List Target)
    (hperm : s.resolve.Perm s'.resolve) : g.Reorders s s' ts where
  succeeds := isOk_run_of_perm hperm
  perm _ _ h h' := perm_forTarget hperm h h'
  ordered _ _ h h' _ ht := ⟨forTarget_eq_artifacts h ht, forTarget_eq_artifacts h' ht⟩
  get? hnames _ _ h h' := get?_of_perm hnames hperm h h'

end Generator

/-- Only the selected descriptors matter to a generation: another provider or catalog that has the
same for the resolved names gives the same events, results and failures. The order of the
selected names only permutes what is written, and an algorithm has one artifact for a target in
all runs that have one. -/
theorem generation_locality (settings : Settings) :
    (∀ (p q : Provider) (s : Selection), (∀ name ∈ s.resolve, p name = q name) →
      Generator.AnswersAlike ⟨p, settings⟩ ⟨q, settings⟩ s) ∧
    (∀ (c c' : Catalog) (s : Selection), c.Built → c'.Built →
      c.descriptors.Perm c'.descriptors →
      Generator.AnswersAlike ⟨c.descriptor, settings⟩ ⟨c'.descriptor, settings⟩ s) ∧
    (∀ (c c' : Catalog) (ds : List Descriptor) (s : Selection), c.Built →
      c.insertAll ds = .ok c' →
      (∀ name ∈ s.resolve, name ∈ c.names ∨ name ∉ ds.map (·.name)) →
      Generator.AnswersAlike ⟨c.descriptor, settings⟩ ⟨c'.descriptor, settings⟩ s) ∧
    (∀ (p : Provider) (s s' : Selection) (ts : List Target), s.resolve.Perm s'.resolve →
      Generator.Reorders ⟨p, settings⟩ s s' ts) ∧
    (∀ (p : Provider) (s : Selection) (ts : List Target) (r : Run),
      ((Generator.mk p settings).run s ts).outcome = .ok r → ∀ t ∈ ts,
        (r.forTarget t).map .ok = s.resolve.map ((Generator.mk p settings).artifact t)) ∧
    (∀ c : Catalog, c.Built → Provider.Faithful c.descriptor) ∧
    ∀ (p q : Provider) (s s' : Selection) (ts ts' : List Target) (r r' : Run) (name : String)
      (t : Target), p.Faithful → q.Faithful → p name = q name →
      ((Generator.mk p settings).run s ts).outcome = .ok r →
      ((Generator.mk q settings).run s' ts').outcome = .ok r' →
      name ∈ s.resolve → name ∈ s'.resolve → t ∈ ts → t ∈ ts' →
      ∃ x, r.get? name t = some x ∧ r'.get? name t = some x := by
  refine ⟨?_, ?_, ?_, ?_, ?_, ?_, ?_⟩
  · intro p q s h
    exact Generator.answersAlike_of_agree h
  · intro c c' s hc hc' hperm
    refine Generator.answersAlike_of_agree fun name _ => ?_
    exact Catalog.descriptor_congr (hc.indexed.get?_of_perm hc'.indexed hperm)
  · intro c c' ds s hc hi h
    refine Generator.answersAlike_of_agree fun name hname => ?_
    exact Catalog.descriptor_congr (hc.get?_insertAll hi (h name hname)).symm
  · intro p s s' ts hperm
    exact Generator.reorders_of_perm _ ts hperm
  · intro p s ts r h t ht
    exact Generator.forTarget_eq_artifacts h ht
  · intro c hc
    exact hc.faithful
  · intro p q s s' ts ts' r r' name t hp hq hname h h' hs hs' ht ht'
    obtain ⟨x, -, hx, hx'⟩ := Generator.get?_of_runs hp hq (Generator.artifact_congr hname) h h'
      hs hs' ht ht'
    exact ⟨x, hx, hx'⟩

/-- Neither the place of two descriptors in a catalog nor their place in a selection changes what
is written for each. -/
theorem generation_locality_reordered :
    ∃ (c c' : Catalog) (r r' : Run), c.Built ∧ c'.Built ∧ c.names ≠ c'.names ∧
      ((Generator.mk c.descriptor {}).run { included := ["Scale", "Energy"] }
        Target.all).outcome = .ok r ∧
      ((Generator.mk c'.descriptor {}).run { included := ["Energy", "Scale"] }
        Target.all).outcome = .ok r' ∧
      (∀ t, (r.forTarget t).Perm (r'.forTarget t)) ∧
      ∀ name t, r.get? name t = r'.get? name t := by
  let energy : Descriptor := {
    name := "Energy"
    inputs := [⟨"array", .vectorReal, ""⟩]
    outputs := [⟨"energy", .real, ""⟩] }
  let scale : Descriptor := {
    name := "Scale"
    inputs := [⟨"signal", .vectorReal, ""⟩]
    outputs := [⟨"signal", .vectorReal, ""⟩]
    parameters := [⟨"factor", .real, "10", ""⟩] }
  let c : Catalog := ⟨[energy, scale], [("Scale", 1), ("Energy", 0)]⟩
  let c' : Catalog := ⟨[scale, energy], [("Energy", 1), ("Scale", 0)]⟩
  let s : Selection := { included := ["Scale", "Energy"] }
  let s' : Selection := { included := ["Energy", "Scale"] }
  have hc : c.Built := .insert (.insert .empty (d := energy) rfl) (d := scale) rfl
  have hc' : c'.Built := .insert (.insert .empty (d := scale) rfl) (d := energy) rfl
  obtain ⟨-, hcatalog, -, horder, -, -, -⟩ := generation_locality {}
  have hok : ((Generator.mk c.descriptor {}).run s Target.all).outcome.isOk = true := by rfl
  have halike := hcatalog c c' s' hc hc' (List.Perm.swap _ _ _)
  have hreorders := horder c.descriptor s s' Target.all (List.Perm.swap _ _ _)
  obtain ⟨r, hr⟩ := isOk_iff.1 hok
  obtain ⟨r', hr'⟩ := isOk_iff.1 (hreorders.succeeds ▸ hok)
  have hr'' := (congrArg Logged.outcome (halike.run Target.all)).symm.trans hr'
  exact ⟨c, c', r, r', hc, hc', by decide, hr, hr'', hreorders.perm r r' hr hr',
    hreorders.get? hc.faithful r r' hr hr'⟩

end Bindery
