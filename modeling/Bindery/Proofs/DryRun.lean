import Bindery.Console.Check
import Bindery.Console.Generation
import Bindery.Proofs.Catalog
import Bindery.Proofs.Passes
import Bindery.Proofs.RoundTrip
import Bindery.Proofs.Selecting
import Mathlib.Algebra.GroupWithZero.Nat
import Mathlib.Data.List.Nodup

/-!
# A check foretells a run

A check goes on where a run stops, and looks at everything once where a run takes two
phases. It counts no problem exactly when a run for all targets succeeds and every
descriptor is valid, so that what passes the check is generated.
-/

namespace Bindery

/-! ## Counting problems -/

/-- How many problems an algorithm has: one if it cannot be made ready, else one for each target
that cannot be written. -/
def failureCount (p : Provider) (s : Settings) (name : String) : Nat :=
  match Algorithm.fetch p s name with
  | .error _ => 1
  | .ok a => Target.all.countP fun t => !(emit t a s).isOk

theorem failureCount_eq_zero {p : Provider} {s : Settings} {name : String} :
    failureCount p s name = 0 ↔
      ∃ a, Algorithm.fetch p s name = .ok a ∧ ∀ t, (emit t a s).isOk = true := by
  unfold failureCount
  cases Algorithm.fetch p s name with
  | error e => simp
  | ok a => simp [List.countP_eq_zero]

/-- The issues of all descriptors, and the problems of the named algorithms. -/
def problemCount (c : Catalog) (names : List String) (s : Settings) : Nat :=
  (c.descriptors.map (·.issues.length)).sum + (names.map (failureCount c.descriptor s)).sum

theorem problemCount_eq_zero {c : Catalog} {names : List String} {s : Settings} :
    problemCount c names s = 0 ↔
      (∀ d ∈ c.descriptors, d.IsValid) ∧ ∀ name ∈ names, failureCount c.descriptor s name = 0 := by
  simp [problemCount, List.sum_eq_zero_iff_forall_eq_nat, Descriptor.IsValid]

/-- A run for all targets looks at the same algorithms and targets, whatever stops it first. -/
theorem Generator.isOk_runAll_iff {g : Generator} {sel : Selection} :
    (g.runAll sel).outcome.isOk = true ↔
      ∀ name ∈ sel.resolve, failureCount g.provider g.settings name = 0 := by
  rw [runAll, isOk_run]
  constructor
  · intro h name hname
    obtain ⟨hfetch, hwrite⟩ := h
    obtain ⟨a, ha⟩ := isOk_iff.1 (hfetch name hname)
    refine failureCount_eq_zero.2 ⟨a, ha, fun t => ?_⟩
    obtain ⟨b, hb, hemit⟩ := isOk_bind.1 (hwrite t (Target.mem_all t) name hname)
    rw [ha] at hb
    cases hb
    exact hemit
  · intro h
    refine ⟨fun name hname => ?_, fun t _ name hname => ?_⟩
    · obtain ⟨a, ha, -⟩ := failureCount_eq_zero.1 (h name hname)
      exact isOk_iff.2 ⟨a, ha⟩
    · obtain ⟨a, ha, hemit⟩ := failureCount_eq_zero.1 (h name hname)
      exact isOk_bind.2 ⟨a, ha, hemit t⟩

/-- What succeeds for all targets succeeds for some. -/
theorem Generator.isOk_run_of_runAll {g : Generator} {sel : Selection}
    (h : (g.runAll sel).outcome.isOk = true) (ts : List Target) :
    (g.run sel ts).outcome.isOk = true := by
  obtain ⟨hfetch, hwrite⟩ := isOk_run.1 h
  exact isOk_run.2 ⟨hfetch, fun t _ => hwrite t (Target.mem_all t)⟩

namespace Console

/-! ## Reports of checks -/

theorem length_descriptorProblems (c : Catalog) :
    (descriptorProblems c).length = (c.descriptors.map (·.issues.length)).sum := by
  simp [descriptorProblems, List.length_flatMap]

theorem length_generationProblems (c : Catalog) (s : Settings) (name : String) :
    (generationProblems c s name).length = failureCount c.descriptor s name := by
  unfold generationProblems failureCount
  cases Algorithm.fetch c.descriptor s name with
  | error e => rfl
  | ok a =>
      dsimp only
      rw [List.length_filterMap_eq_countP]
      congr 1
      funext t
      cases emit t a s <;> rfl

theorem count_find (c : Catalog) (sel : Selection) (s : Settings) :
    (Problems.find c sel s).count = problemCount c sel.resolve s := by
  have hfilter : ∀ l : List (String × List GenerationError),
      (l.filter (!·.2.isEmpty)).flatMap (·.2) = l.flatMap (·.2) := by
    intro l
    induction l with
    | nil => rfl
    | cons a rest ih => cases h : a.2 <;> simp [h, ih]
  rw [Problems.count, Problems.find, length_descriptorProblems, hfilter, problemCount]
  simp [List.length_flatMap, Function.comp_def, length_generationProblems]

theorem algorithms_find (c : Catalog) (sel : Selection) (s : Settings) :
    (Problems.find c sel s).algorithms.map (·.1) =
      sel.resolve.filter fun name => failureCount c.descriptor s name != 0 := by
  have hsome : ∀ name, (!(generationProblems c s name).isEmpty) =
      (failureCount c.descriptor s name != 0) := by
    intro name
    rw [← length_generationProblems]
    cases generationProblems c s name <;> rfl
  simp [Problems.find, List.filter_map, Function.comp_def, hsome]

def isProblemLine (l : Line) : Bool := l[1]? = some ⟨.bad, "x"⟩

def announced? : Line → Option String
  | [⟨.warning, "Algorithm:"⟩, ⟨.plain, name⟩] => some name
  | _ => none

theorem countP_codedLine {ε : Type} [Coded ε] (es : List ε) :
    (es.map codedLine).countP isProblemLine = es.length := by
  rw [List.countP_map, List.countP_eq_length]
  intro e _
  rfl

theorem countP_lines (p : Problems) : p.lines.countP isProblemLine = p.count := by
  have hlines : ∀ a : String × List GenerationError,
      (Problems.algorithmLines a.1 a.2).countP isProblemLine = a.2.length := by
    intro a
    rw [Problems.algorithmLines, List.countP_cons, countP_codedLine]
    rfl
  rw [Problems.lines, List.countP_append, countP_codedLine, List.countP_flatMap, Problems.count,
    List.length_flatMap]
  simp only [Function.comp_def, hlines]

theorem announced?_codedLine {ε : Type} [Coded ε] (es : List ε) :
    (es.map codedLine).filterMap announced? = [] := by
  rw [List.filterMap_map, List.filterMap_eq_nil_iff]
  intro e _
  rfl

theorem filterMap_lines (p : Problems) :
    p.lines.filterMap announced? = p.algorithms.map fun a => " " ++ a.1 := by
  rw [Problems.lines, List.filterMap_append, announced?_codedLine, List.filterMap_flatMap,
    List.nil_append]
  induction p.algorithms with
  | nil => rfl
  | cons a rest ih =>
      rw [List.flatMap_cons, ih, Problems.algorithmLines, List.filterMap_cons,
        announced?_codedLine]
      rfl

/-- The report of a check of a catalog and of the named algorithms under settings. -/
structure Tells (c : Catalog) (names : List String) (s : Settings) (r : Report) : Prop where
  outcome : r.outcome = .ok (if problemCount c names s = 0 then 0 else 1)
  /-- Every problem has a line. -/
  told : r.lines.countP isProblemLine = problemCount c names s
  /-- The algorithms with problems are announced in order. -/
  announced : r.lines.filterMap announced? =
    (names.filter fun name => failureCount c.descriptor s name != 0).map (" " ++ ·)
  verdict : r.lines.getLast? = some
    (if problemCount c names s = 0 then
      ([⟨.success, "VALID"⟩, " " ++ toString names.length ++ " algorithm(s) checked"] : Line)
    else [⟨.failure, "INVALID"⟩, " " ++ toString (problemCount c names s) ++ " problem(s)"])

theorem tells_checkWith (t : FileTree) (c : Catalog) (sel : Selection) {s : Settings}
    (hs : s.IsValid) {before : List Line} (hcount : before.countP isProblemLine = 0)
    (hannounced : before.filterMap announced? = []) :
    Tells c sel.resolve s ((checkWith t c sel s).after before) := by
  have hreport : (checkWith t c sel s).after before =
      .ended t (before ++ ((Problems.find c sel s).lines ++
          verdictLines sel.resolve.length (problemCount c sel.resolve s)))
        (if problemCount c sel.resolve s = 0 then 0 else 1) := by
    rw [checkWith, hs, ← count_find]
    rfl
  rw [hreport]
  constructor
  case outcome => rfl
  case told =>
    change (before ++ _).countP isProblemLine = _
    rw [List.countP_append, List.countP_append, hcount, countP_lines, count_find]
    unfold verdictLines
    split <;> simp [isProblemLine]
  case announced =>
    change (before ++ _).filterMap announced? = _
    have hverdict : ∀ n m, (verdictLines n m).filterMap announced? = [] := by
      intro n m
      unfold verdictLines
      split <;> rfl
    rw [List.filterMap_append, List.filterMap_append, hannounced, filterMap_lines, hverdict,
      ← algorithms_find, List.nil_append, List.append_nil, List.map_map]
    rfl
  case verdict =>
    change (before ++ _).getLast? = _
    unfold verdictLines
    split <;> simp

/-! ## Checks and generations -/

/-- Without problems the command ends well, and only then. -/
theorem Tells.outcome_eq_zero {c : Catalog} {sel : Selection} {s : Settings} {r : Report}
    (h : Tells c sel.resolve s r) :
    r.outcome = .ok 0 ↔ (∀ d ∈ c.descriptors, d.IsValid) ∧
      ((Generator.mk c.descriptor s).runAll sel).outcome.isOk = true := by
  rw [Generator.isOk_runAll_iff, ← problemCount_eq_zero, h.outcome]
  split <;> simp_all

/-- The command has come as far as its files: it ends well, or one of them fails. -/
def Report.ReachesFiles (r : Report) : Prop :=
  r.outcome = .ok 0 ∨
    ∃ path e, r.outcome = .error (.directory path e) ∨ r.outcome = .error (.write path e)

theorem reachesFiles_writeTargets (run : Run) (directory : String) (t : FileTree)
    (targets : List Target) :
    (writeTargets run directory t targets).ReachesFiles := by
  induction targets generalizing t with
  | nil => exact .inl rfl
  | cons target rest ih =>
      rw [writeTargets]
      cases t.writeText (FileTree.join directory target.fileName) (run.render target) with
      | ok t => exact ih t
      | error e => exact .inr ⟨_, e, .inr rfl⟩

theorem reachesFiles_writeRun (run : Run) (targets : List Target) (directory : String)
    (t : FileTree) : (writeRun run targets directory t).ReachesFiles := by
  rw [writeRun]
  cases t.makeDirectories directory with
  | error e => exact .inr ⟨_, e, .inl rfl⟩
  | ok t => exact reachesFiles_writeTargets run directory t targets

theorem Report.outcome_before (r : Report) (lines : List Line) :
    (r.before lines).outcome = r.outcome := by
  unfold Report.before
  split <;> rfl

variable {t : FileTree} {catalogPath configPath : String} {c : Catalog} {config : RunConfig}

theorem reachesFiles_generate [YamlReader] (hc : loadCatalog t catalogPath = .ok c)
    (hconfig : loadConfig t configPath = .ok config) (hs : config.settings.IsValid)
    {names : List String} {targets : List Target} (hnames : Target.parseAll names = .ok targets)
    {run : Run}
    (hrun : ((Generator.mk c.descriptor config.settings).run config.selection targets).outcome =
      .ok run) (directory : String) :
    (generate t catalogPath configPath directory names).ReachesFiles := by
  have hinputs : loadInputs t catalogPath configPath = .ok (c, config) := by
    rw [loadInputs, hc, hconfig]
    rfl
  have hchecked : Generator.checked c.descriptor config.settings =
      .ok ⟨c.descriptor, config.settings⟩ := by
    rw [Generator.checked, hs]
  have houtcome : (generate t catalogPath configPath directory names).outcome =
      (writeRun run targets directory t).outcome := by
    rw [generate, hnames]
    simp only [hinputs, Report.after, generateFrom, hchecked, hrun, Report.outcome_before]
  unfold Report.ReachesFiles
  rw [houtcome]
  exact reachesFiles_writeRun run targets directory t

theorem built_of_loadCatalog (hc : loadCatalog t catalogPath = .ok c) : c.Built := by
  unfold loadCatalog Catalog.load at hc
  cases htext : readInput t catalogPath with
  | error e => simp [htext] at hc
  | ok text =>
      cases hread : Catalog.ofJson text with
      | error e => simp [htext, hread] at hc
      | ok d =>
          rw [htext, ok_bind, hread] at hc
          cases hc
          exact .of_ofJson hread

/-- A check and a run for all targets accept the same catalogs and configurations, and a check tells
how many problems there are. Without a configuration it looks at every algorithm of the
catalog once and in order, under the usual settings. What passes is generated for any targets. -/
theorem dry_run_agrees [YamlReader] (hc : loadCatalog t catalogPath = .ok c) :
    (∀ configPath config, loadConfig t configPath = .ok config → config.settings.IsValid →
      let g : Generator := ⟨c.descriptor, config.settings⟩
      let report := check t catalogPath (some configPath)
      Tells c config.selection.resolve config.settings report ∧
      (report.outcome = .ok 0 ↔ (∀ d ∈ c.descriptors, d.IsValid) ∧
        (g.runAll config.selection).outcome.isOk = true) ∧
      (report.outcome = .ok 0 → ∀ names targets, Target.parseAll names = .ok targets →
        (g.run config.selection targets).outcome.isOk = true ∧
          ∀ directory, (generate t catalogPath configPath directory names).ReachesFiles)) ∧
    let report := check t catalogPath none
    c.names.Nodup ∧ Tells c c.names {} report ∧
      (report.outcome = .ok 0 ↔ (∀ d ∈ c.descriptors, d.IsValid) ∧
        ((Generator.usual c.descriptor).runAll (.all c.names)).outcome.isOk = true) := by
  have hnodup := (built_of_loadCatalog hc).indexed.nodup_names
  have hall := Selection.resolve_all hnodup
  constructor
  · intro configPath config hconfig hs g report
    have hreport : report = (checkWith t c config.selection config.settings).after
        [labelled "Validating:" catalogPath] := by
      simp only [report, check, hc, hconfig]
    have htells : Tells c config.selection.resolve config.settings report := by
      rw [hreport]
      exact tells_checkWith t c config.selection hs rfl rfl
    refine ⟨htells, htells.outcome_eq_zero, fun hzero names targets hnames => ?_⟩
    have hrun := Generator.isOk_run_of_runAll (htells.outcome_eq_zero.1 hzero).2 targets
    obtain ⟨run, hok⟩ := isOk_iff.1 hrun
    exact ⟨hrun, reachesFiles_generate hc hconfig hs hnames hok⟩
  · intro report
    have hreport : report = (checkWith t c (.all c.names) {}).after
        [labelled "Validating:" catalogPath] := by
      simp only [report, check, hc]
    have htells : Tells c (Selection.all c.names).resolve {} report := by
      rw [hreport]
      exact tells_checkWith t c (.all c.names) (show Settings.IsValid {} by decide) rfl rfl
    have hzero := htells.outcome_eq_zero
    rw [hall] at htells
    exact ⟨hnodup, htells, hzero⟩

/-! ### Files to read -/

/-- A tree with a catalog, and with a configuration in a file of some name. -/
def inputFiles (catalog name config : String) : FileTree where
  files := [(["catalog.json"], .text catalog), ([name], .text config)]

theorem loadCatalog_of_readText {text : String} (hread : t.readText catalogPath = .ok text)
    (h : Catalog.ofJson text = .ok c) : loadCatalog t catalogPath = .ok c := by
  simp [loadCatalog, Catalog.load, readInput, hread, h]

theorem loadConfig_of_readText [YamlReader] (format : RunConfig.Format) {text : String}
    (hformat : ((FileTree.extension? configPath).map Text.lowerCase).bind
      RunConfig.Format.ofExtension? = some format)
    (hread : t.readText configPath = .ok text) (h : RunConfig.ofText format text = .ok config) :
    loadConfig t configPath = .ok config := by
  simp [loadConfig, RunConfig.load, hformat, readInput, hread, h]

/-- Two valid algorithms, one of which can be written for all targets. A configuration that includes
that one passes the check; without a configuration the other one is told for three targets. -/
theorem dry_run_agrees_energy :
    let energy : Descriptor := {
      name := "Energy"
      inputs := [⟨"array", .vectorReal, ""⟩]
      outputs := [⟨"energy", .real, ""⟩] }
    let magnitude : Descriptor := {
      name := "Magnitude"
      inputs := [⟨"complex", .vectorComplex, ""⟩]
      outputs := [⟨"magnitude", .vectorReal, ""⟩] }
    let c : Catalog := ⟨[energy, magnitude], [("Magnitude", 1), ("Energy", 0)]⟩
    let t := inputFiles c.pretty "run.json"
      (Json.Value.object [("include", .ofStrings ["Energy"])]).pretty
    loadCatalog t "catalog.json" = .ok c ∧
      loadConfig t "run.json" = .ok { included := ["Energy"] } ∧
      (check t "catalog.json" (some "run.json")).outcome = .ok 0 ∧
      (generate t "catalog.json" "run.json" "out" ["header", "wrapper"]).ReachesFiles ∧
      problemCount c c.names {} = 3 ∧ (check t "catalog.json" none).outcome = .ok 1 := by
  intro energy magnitude c t
  have hstored : c.Stored := by
    have henergy : energy.IsCanonical := by constructor <;> decide
    have hmagnitude : magnitude.IsCanonical := by constructor <;> decide
    exact .insert (.insert .empty henergy rfl) hmagnitude rfl
  have hc : loadCatalog t "catalog.json" = .ok c :=
    loadCatalog_of_readText (by rfl) hstored.ofJson_pretty
  have hconfig : loadConfig t "run.json" = .ok { included := ["Energy"] } := by
    refine loadConfig_of_readText .json (by decide) (by rfl) ?_
    rw [RunConfig.ofText, RunConfig.ofJson, Json.decodeText_pretty]
    · rfl
    · simp [Json.Value.ofStrings, Json.Value.IsNumberless, Json.Value.AreNumberless,
        Json.Value.HaveNumberless]
  have hvalid : ∀ d ∈ c.descriptors, d.IsValid := by decide
  have hcount : problemCount c c.names {} = 3 := by decide
  obtain ⟨hwith, -, htells, -⟩ := dry_run_agrees hc
  obtain ⟨-, hzero, hgenerate⟩ := hwith _ _ hconfig (by decide)
  have hok := hzero.2 ⟨hvalid, by rfl⟩
  refine ⟨hc, hconfig, hok, (hgenerate hok _ [.declaration, .wrapper] rfl).2 "out", hcount, ?_⟩
  rw [htells.outcome, hcount]
  rfl

end Console

end Bindery
