import Bindery.Proofs.Directories
import Bindery.Proofs.DryRun

/-!
# What a generation does to files

A generation writes last: whatever stops it earlier leaves all files as they are. Then
it makes the output directory and writes one file for each target into it. The files
do not touch one another, so that at the end each holds the whole body of its target,
and a path that is none of them holds what it has held.
-/

namespace Bindery

theorem Target.isFileName_fileName (t : Target) : FileTree.IsFileName t.fileName := by
  cases t <;> decide

/-- The targets of a list of names are all targets, or those that are named, each once. -/
theorem Target.parseAll_eq_ok {names : List String} {targets : List Target}
    (h : parseAll names = .ok targets) :
    targets.Nodup ∧
      ∀ target, target ∈ targets ↔ names = [] ∨ ∃ name ∈ names, parse name = .ok target := by
  cases names with
  | nil =>
      cases h
      exact ⟨by decide, fun target => by simp⟩
  | cons name rest =>
      obtain ⟨named, hnamed, rfl⟩ := map_eq_ok.1 h
      refine ⟨nodup_distinct named, fun target => ?_⟩
      rw [mem_distinct, mem_iff_of_mapM hnamed]
      simp

namespace Console

open FileTree (join segments)

/-- The place of a target's file in a directory. -/
def filePlace (place : Path) (target : Target) : Path := place ++ [target.fileName]

theorem filePlace_injective {place : Path} {t u : Target}
    (h : filePlace place t = filePlace place u) : t = u := by
  have hname := List.append_cancel_left h
  exact Target.fileName_injective (List.cons.inj hname).1

variable {run : Run} {directory : String} {place : Path} {targets : List Target}
  {t t' : FileTree}

/-! ## Writing the files of targets -/

/-- The files of targets have been written into a directory, and nothing else has happened. -/
structure Wrote (run : Run) (directory : String) (place : Path) (targets : List Target)
    (t t' : FileTree) : Prop where
  here : t'.here = t.here
  isDirectory : ∀ q, t'.isDirectory q = t.isDirectory q
  located : ∀ target ∈ targets,
    t'.locate (join directory target.fileName) = .ok (filePlace place target)
  written : ∀ target ∈ targets,
    t'.content? (filePlace place target) = some (.text (run.render target))
  others : ∀ q, q ∉ targets.map (filePlace place) → t'.content? q = t.content? q

theorem Wrote.nil (t : FileTree) : Wrote run directory place [] t t :=
  ⟨rfl, fun _ => rfl, by simp, by simp, fun _ _ => rfl⟩

theorem Wrote.locate {path : String} {p : Path} (h : Wrote run directory place targets t t')
    (hp : t.locate path = .ok p) : t'.locate path = .ok p :=
  FileTree.locate_mono h.here (fun q hq => (h.isDirectory q).trans hq) hp

theorem Wrote.walk {start p : Path} {names : List String}
    (h : Wrote run directory place targets t t') (hw : t.walk start names = .ok p) :
    t'.walk start names = .ok p :=
  FileTree.walk_mono (fun q hq => (h.isDirectory q).trans hq) hw

/-- A file that is written later is no file that has been written, or it is given the same body. -/
theorem Wrote.append {t'' : FileTree} {more : List Target}
    (h : Wrote run directory place targets t t') (h' : Wrote run directory place more t' t'') :
    Wrote run directory place (targets ++ more) t t'' where
  here := h'.here.trans h.here
  isDirectory q := (h'.isDirectory q).trans (h.isDirectory q)
  located target htarget := by
    rcases List.mem_append.1 htarget with htarget | htarget
    · exact h'.locate (h.located target htarget)
    · exact h'.located target htarget
  written target htarget := by
    by_cases hmore : target ∈ more
    · exact h'.written target hmore
    · have hfirst : target ∈ targets := (List.mem_append.1 htarget).resolve_right hmore
      have hapart : filePlace place target ∉ more.map (filePlace place) := by
        intro hmem
        obtain ⟨other, hother, heq⟩ := List.mem_map.1 hmem
        exact hmore (filePlace_injective heq ▸ hother)
      rw [h'.others _ hapart, h.written target hfirst]
  others q hq := by
    rw [List.map_append, List.mem_append, not_or] at hq
    rw [h'.others q hq.2, h.others q hq.1]

/-- Writing one file into a directory. -/
theorem wrote_writeText {target : Target}
    (hw : t.walk (t.origin directory) (segments directory) = .ok place)
    (hplace : t.isDirectory place = true)
    (h : t.writeText (join directory target.fileName) (run.render target) = .ok t') :
    Wrote run directory place [target] t t' := by
  obtain ⟨p, hp, -, rfl⟩ := FileTree.writeText_eq_ok.1 h
  obtain ⟨-, rfl⟩ := (FileTree.locate_join target.isFileName_fileName hw hplace).1 hp
  have hdirs : ∀ q, (t.setContent (place ++ [target.fileName])
      (.text (run.render target))).isDirectory q = t.isDirectory q :=
    fun q => FileTree.isDirectory_setContent hplace _
  constructor
  case here => rfl
  case isDirectory => exact hdirs
  case located =>
    intro u hu
    obtain rfl := List.mem_singleton.1 hu
    refine FileTree.locate_mono ?_ (fun q hq => (hdirs q).trans hq) hp
    rfl
  case written =>
    intro u hu
    obtain rfl := List.mem_singleton.1 hu
    exact FileTree.content?_setContent_self _ _ _
  case others =>
    intro q hq
    exact FileTree.content?_setContent_of_ne t _ fun heq => hq (by simp [heq, filePlace])

/-- The loop over the targets goes through trees in which the directory is at its place. -/
theorem wrote_writeTargets (hw : t.walk (t.origin directory) (segments directory) = .ok place)
    (hplace : t.isDirectory place = true)
    (h : (writeTargets run directory t targets).outcome = .ok 0) :
    Wrote run directory place targets t (writeTargets run directory t targets).files ∧
      (writeTargets run directory t targets).lines = targets.map (writtenLine run) := by
  induction targets generalizing t with
  | nil => exact ⟨.nil t, rfl⟩
  | cons target rest ih =>
      rw [writeTargets] at h ⊢
      cases hwrite : t.writeText (join directory target.fileName) (run.render target) with
      | error e =>
          rw [hwrite] at h
          cases h
      | ok t₁ =>
          rw [hwrite] at h
          have hfirst := wrote_writeText hw hplace hwrite
          have hw₁ : t₁.walk (t₁.origin directory) (segments directory) = .ok place := by
            rw [FileTree.origin_congr hfirst.here]
            exact hfirst.walk hw
          obtain ⟨hrest, hlines⟩ := ih hw₁ ((hfirst.isDirectory place).trans hplace) h
          exact ⟨hfirst.append hrest, congrArg (writtenLine run target :: ·) hlines⟩

/-! ## Delivering a run -/

/-- A run has been delivered into the directory at a written path, whose place is known: files of
the targets hold their bodies, directories on the way have been made where there were none, and
everything else is as it was. -/
structure Delivered (run : Run) (directory : String) (place : Path) (targets : List Target)
    (t t' : FileTree) : Prop where
  reached : t'.walk (t'.origin directory) (segments directory) = .ok place
  isDirectory : t'.isDirectory place = true
  located : ∀ target ∈ targets,
    t'.locate (join directory target.fileName) = .ok (filePlace place target)
  written : ∀ target ∈ targets,
    t'.content? (filePlace place target) = some (.text (run.render target))
  apart : ∀ target other, filePlace place target = filePlace place other → target = other
  others : ∀ q, q ∉ targets.map (filePlace place) → t'.content? q = t.content? q
  here : t'.here = t.here
  kept : ∀ q, t.isDirectory q = true → t'.isDirectory q = true
  made : ∀ q, t'.isDirectory q = true → t.isDirectory q = true ∨
    ∃ way, way <+: segments directory ∧ t'.walk (t'.origin directory) way = .ok q

theorem delivered_writeRun (h : (writeRun run targets directory t).outcome = .ok 0) :
    (∃ place, Delivered run directory place targets t (writeRun run targets directory t).files) ∧
      (writeRun run targets directory t).lines = targets.map (writtenLine run) := by
  unfold writeRun at h ⊢
  cases hmake : t.makeDirectories directory with
  | error e =>
      rw [hmake] at h
      cases h
  | ok t₁ =>
      rw [hmake] at h
      obtain ⟨hgrown, hleads⟩ := FileTree.grown_makeDirectories hmake
      obtain ⟨place, hw, hplace⟩ := FileTree.leadsToDirectory_iff.1 hleads
      rw [← FileTree.origin_congr hgrown.here] at hw
      obtain ⟨hwrote, hlines⟩ := wrote_writeTargets hw hplace h
      have horigin := FileTree.origin_congr (hwrote.here.trans hgrown.here) directory
      refine ⟨⟨place, ?_⟩, hlines⟩
      constructor
      case reached =>
        rw [FileTree.origin_congr hwrote.here]
        exact hwrote.walk hw
      case isDirectory => exact (hwrote.isDirectory place).trans hplace
      case located => exact hwrote.located
      case written => exact hwrote.written
      case apart => exact fun _ _ => filePlace_injective
      case others => exact fun q hq => (hwrote.others q hq).trans (hgrown.content? q)
      case here => exact hwrote.here.trans hgrown.here
      case kept => exact fun q hq => (hwrote.isDirectory q).trans (hgrown.kept q hq)
      case made =>
        intro q hq
        rw [horigin]
        refine (hgrown.made q ((hwrote.isDirectory q).symm.trans hq)).imp_right ?_
        rintro ⟨way, hprefix, hway⟩
        exact ⟨way, hprefix, hwrote.walk hway⟩

/-! ## Printed digests -/

/-- The file and the digits that a line tells of. -/
def digest? : Line → Option (String × String)
  | [_, ⟨.good, _⟩, ⟨.plain, file⟩, ⟨.faint, digits⟩] => some (file, digits)
  | _ => none

theorem filterMap_writtenLine (run : Run) (targets : List Target) :
    (targets.map (writtenLine run)).filterMap digest? =
      targets.map fun target =>
        (" " ++ target.fileName ++ " ", shortDigest (run.digest target)) := by
  induction targets with
  | nil => rfl
  | cons target rest ih =>
      rw [List.map_cons, List.filterMap_cons, ih]
      rfl

/-! ## Generations -/

/-- The report of a command that gives up with an error and leaves all files as they are. -/
def Report.GivesUp (r : Report) (t : FileTree) : Prop := r.files = t ∧ ∃ f, r.outcome = .error f

theorem Report.before_of_ok {r : Report} {code : Nat} (h : r.outcome = .ok code)
    (lines : List Line) : r.before lines = { r with lines := r.lines ++ lines } := by
  unfold Report.before
  rw [h]

section Generate

variable [YamlReader] {catalogPath configPath : String} {names : List String} {c : Catalog} {config : RunConfig}

theorem givesUp_of_targets {e : GenerationError} (h : Target.parseAll names = .error e) :
    (generate t catalogPath configPath directory names).GivesUp t := by
  rw [generate, h]
  exact ⟨rfl, _, rfl⟩

theorem givesUp_of_inputs {f : Failure} (h : loadInputs t catalogPath configPath = .error f) :
    (generate t catalogPath configPath directory names).GivesUp t := by
  rw [generate]
  cases Target.parseAll names with
  | error e => exact ⟨rfl, _, rfl⟩
  | ok targets =>
      rw [h]
      exact ⟨rfl, _, rfl⟩

variable (hinputs : loadInputs t catalogPath configPath = .ok (c, config))
include hinputs

theorem givesUp_of_settings (h : ¬ config.settings.IsValid) :
    (generate t catalogPath configPath directory names).GivesUp t := by
  rw [generate]
  cases Target.parseAll names with
  | error e => exact ⟨rfl, _, rfl⟩
  | ok targets =>
      obtain ⟨fault, hfault⟩ := Option.ne_none_iff_exists'.1 h
      simp only [hinputs, generateFrom, Generator.checked, hfault]
      exact ⟨rfl, _, rfl⟩

variable (htargets : Target.parseAll names = .ok targets) (hs : config.settings.IsValid)
include htargets hs

theorem generate_of_failure {e : GenerationError}
    (h : ((Generator.mk c.descriptor config.settings).run config.selection targets).outcome =
      .error e) :
    (generate t catalogPath configPath directory names).files = t ∧
      (generate t catalogPath configPath directory names).outcome = .ok 2 := by
  have hfault : config.settings.fault? = none := hs
  simp only [generate, htargets, hinputs, generateFrom, Generator.checked, hfault, h]
  exact ⟨rfl, rfl⟩

end Generate

/-- A generation that ends well has gone through all of its phases. -/
structure Completed [YamlReader] (t : FileTree) (catalogPath configPath directory : String)
    (names : List String) (targets : List Target) (c : Catalog) (config : RunConfig) (run : Run)
    (r : Report) : Prop where
  asked : Target.parseAll names = .ok targets
  loaded : loadInputs t catalogPath configPath = .ok (c, config)
  accepted : config.settings.IsValid
  succeeded : ((Generator.mk c.descriptor config.settings).run config.selection targets).outcome =
    .ok run
  delivered : ∃ place, Delivered run directory place targets t r.files
  /-- Every file is told of with the first sixteen digits of the digest of its text. -/
  digests : r.lines.filterMap digest? = targets.map fun target =>
    (" " ++ target.fileName ++ " ",
      String.ofList ((Digest.blake3 (run.render target)).toList.take 16))

section Completion

variable [YamlReader] {catalogPath configPath : String} {names : List String} {c : Catalog} {config : RunConfig}

theorem completed_of_run (htargets : Target.parseAll names = .ok targets)
    (hinputs : loadInputs t catalogPath configPath = .ok (c, config))
    (hs : config.settings.IsValid)
    (hrun : ((Generator.mk c.descriptor config.settings).run config.selection targets).outcome =
      .ok run)
    (h : (generate t catalogPath configPath directory names).outcome = .ok 0) :
    Completed t catalogPath configPath directory names targets c config run
      (generate t catalogPath configPath directory names) := by
  have hfault : config.settings.fault? = none := hs
  simp only [generate, htargets, hinputs, generateFrom, Generator.checked, hfault, hrun,
    Report.after, Report.outcome_before] at h ⊢
  obtain ⟨hdelivered, hlines⟩ := delivered_writeRun h
  rw [Report.before_of_ok h]
  refine ⟨htargets, hinputs, hs, hrun, hdelivered, ?_⟩
  -- of all lines, only those about written files have digits
  have hhead : [labelled "Catalog:" catalogPath, labelled "Output dir:" directory].filterMap
      digest? = [] := rfl
  have hselection : ∀ n m, [selectionLine n m].filterMap digest? = [] := fun _ _ => rfl
  have hsuccess : ∀ n m, (successLines n m).filterMap digest? = [] := fun _ _ => rfl
  simp only [hlines, List.filterMap_append, hhead, hselection, hsuccess, filterMap_writtenLine,
    List.nil_append, List.append_nil]
  rfl

theorem exists_completed (h : (generate t catalogPath configPath directory names).outcome = .ok 0) :
    ∃ targets c config run, Completed t catalogPath configPath directory names targets c config run
      (generate t catalogPath configPath directory names) := by
  have hkept : ¬ (generate t catalogPath configPath directory names).GivesUp t := by
    rintro ⟨-, f, hf⟩
    rw [h] at hf
    cases hf
  cases htargets : Target.parseAll names with
  | error e => exact absurd (givesUp_of_targets htargets) hkept
  | ok targets =>
      cases hinputs : loadInputs t catalogPath configPath with
      | error f => exact absurd (givesUp_of_inputs hinputs) hkept
      | ok inputs =>
          obtain ⟨c, config⟩ := inputs
          by_cases hs : config.settings.IsValid
          · cases hrun : ((Generator.mk c.descriptor config.settings).run config.selection
                targets).outcome with
            | error e =>
                have hcode : (generate t catalogPath configPath directory names).outcome = .ok 2 :=
                  (generate_of_failure hinputs htargets hs hrun).2
                rw [h] at hcode
                cases hcode
            | ok run =>
                exact ⟨targets, c, config, run, completed_of_run htargets hinputs hs hrun h⟩
          · exact absurd (givesUp_of_settings hinputs hs) hkept

end Completion

/-- A generation that does not get as far as its files leaves all of them as they are: it gives up
over a name of no target, an input that cannot be loaded or settings that are refused, and ends
with code 2 over code that cannot be written. Otherwise it ends well or a file or directory cannot
be made. When it ends well, the files of the targets hold the bodies of the run over the
configured selection, whose digests are told, and nothing else differs but the directories that
were missing on the way. All of this holds however YAML is read. -/
theorem generation_files [YamlReader] (t : FileTree) (catalogPath configPath directory : String)
    (names : List String) :
    let r := generate t catalogPath configPath directory names
    (∀ e, Target.parseAll names = .error e → r.GivesUp t) ∧
    (∀ f, loadInputs t catalogPath configPath = .error f → r.GivesUp t) ∧
    (∀ c config, loadInputs t catalogPath configPath = .ok (c, config) →
      (¬ config.settings.IsValid → r.GivesUp t) ∧
      ∀ targets, Target.parseAll names = .ok targets → config.settings.IsValid →
        let story := (Generator.mk c.descriptor config.settings).run config.selection targets
        (∀ e, story.outcome = .error e → r.files = t ∧ r.outcome = .ok 2) ∧
        (∀ run, story.outcome = .ok run → r.ReachesFiles)) ∧
    (r.outcome = .ok 0 → ∃ targets c config run,
      Completed t catalogPath configPath directory names targets c config run r) ∧
    ∀ targets, Target.parseAll names = .ok targets → targets.Nodup ∧
      ∀ target, target ∈ targets ↔
        names = [] ∨ ∃ name ∈ names, Target.parse name = .ok target := by
  intro r
  refine ⟨fun e h => givesUp_of_targets h, fun f h => givesUp_of_inputs h, ?_, exists_completed,
    fun targets h => Target.parseAll_eq_ok h⟩
  intro c config hinputs
  refine ⟨givesUp_of_settings hinputs, fun targets htargets hs => ⟨fun e he => ?_, ?_⟩⟩
  · exact generate_of_failure hinputs htargets hs he
  · intro run hrun
    obtain ⟨c', hc, hrest⟩ := bind_eq_ok.1 hinputs
    obtain ⟨config', hconfig, heq⟩ := bind_eq_ok.1 hrest
    cases heq
    exact reachesFiles_generate hc hconfig hs htargets hrun directory

/-- An alias and a name of one target make one file, next to that of another target, in a directory
that was missing; a name of no target makes none. The configuration is written in YAML. -/
theorem generation_files_energy :
    let energy : Descriptor := {
      name := "Energy"
      inputs := [⟨"array", .vectorReal, ""⟩]
      outputs := [⟨"energy", .real, ""⟩] }
    let c : Catalog := ⟨[energy], [("Energy", 0)]⟩
    let t := inputFiles c.pretty "run.yaml" "include:\n  - Energy\n"
    let r := generate t "catalog.json" "run.yaml" "out/code" ["header", "declaration", "wrapper"]
    (generate t "catalog.json" "run.yaml" "out/code" ["header", "rust"]).GivesUp t ∧
      r.outcome = .ok 0 ∧
      ∃ run, ((Generator.mk c.descriptor {}).run { included := ["Energy"] }
          [.declaration, .wrapper]).outcome = .ok run ∧
        (∃ p, r.files.locate "out/code/algorithms.h" = .ok p ∧
          r.files.content? p = some (.text (run.render .declaration))) ∧
        ∃ p, r.files.locate "out/code/wrapper.ts" = .ok p ∧
          r.files.content? p = some (.text (run.render .wrapper)) := by
  intro energy c t r
  have hstored : c.Stored := .insert .empty (by constructor <;> decide) rfl
  have hc : loadCatalog t "catalog.json" = .ok c :=
    loadCatalog_of_readText (by rfl) hstored.ofJson_pretty
  have hyaml : RunConfig.ofYaml "include:\n  - Energy\n" = .ok { included := ["Energy"] } := by
    decide +kernel
  have hconfig : loadConfig t "run.yaml" = .ok { included := ["Energy"] } := by
    refine loadConfig_of_readText .yaml (by decide) (by rfl) ?_
    simp [RunConfig.ofText, YamlReader.read, hyaml, Except.mapError]
  have hinputs : loadInputs t "catalog.json" "run.yaml" = .ok (c, { included := ["Energy"] }) := by
    rw [loadInputs, hc, hconfig]
    rfl
  obtain ⟨run, hrun⟩ := isOk_iff.1 (show ((Generator.mk c.descriptor {}).run
    { included := ["Energy"] } [.declaration, .wrapper]).outcome.isOk = true by rfl)
  have htargets : Target.parseAll ["header", "declaration", "wrapper"] =
      .ok [.declaration, .wrapper] := by rfl
  have hwrite : (writeRun run [.declaration, .wrapper] "out/code" t).outcome = .ok 0 := by rfl
  have hok : r.outcome = .ok 0 := by
    have hfault : Settings.fault? {} = none := by decide
    simp only [r, generate, htargets, hinputs, generateFrom, Generator.checked, hfault,
      RunConfig.selection, hrun, Report.after, Report.outcome_before, hwrite]
  obtain ⟨hnames, -⟩ := generation_files t "catalog.json" "run.yaml" "out/code" ["header", "rust"]
  obtain ⟨-, -, -, hdone, -⟩ := generation_files t "catalog.json" "run.yaml" "out/code"
    ["header", "declaration", "wrapper"]
  obtain ⟨targets, c', config, run', hcompleted⟩ := hdone hok
  obtain rfl := Except.ok.inj (htargets.symm.trans hcompleted.asked)
  obtain ⟨rfl, rfl⟩ := Prod.mk.inj (Except.ok.inj (hinputs.symm.trans hcompleted.loaded))
  obtain rfl := Except.ok.inj (hrun.symm.trans hcompleted.succeeded)
  obtain ⟨place, hdelivered⟩ := hcompleted.delivered
  exact ⟨hnames (.invalidTarget "rust") rfl, hok, run, hrun,
    ⟨_, hdelivered.located .declaration (by decide), hdelivered.written .declaration (by decide)⟩,
    _, hdelivered.located .wrapper (by decide), hdelivered.written .wrapper (by decide)⟩

end Console

end Bindery
