import Bindery.Proofs.Assembly
import Bindery.Proofs.Expressible
import Bindery.Proofs.Validity

/-!
# What a generation checks of its descriptors

A generator refuses a descriptor that says nothing at all, and a type that a target has
no form for. It asks for nothing more: names and defaults are looked at by validation,
which is a step of its own. So the issues that validation has left to find after a run
are those of names and defaults, and of types only where no native code was written.
-/

namespace Bindery

def Target.isNative : Target → Bool
  | .declaration | .definition | .binding => true
  | .wrapper | .parameterTypes => false

namespace Descriptor

variable {d : Descriptor}

/-- Native code of any kind takes no parameter outside the parameter types. -/
theorem Suits.isParameterType {t : Target} (h : d.Suits t) (ht : t.isNative = true) :
    ∀ p ∈ d.parameters, p.tag.isParameterType = true := by
  cases t with
  | declaration => exact HasNativeSignature.parameters h
  | definition => exact (IsDefinable.toHasNativeSignature h).parameters
  | binding => exact HasNativeSignature.parameters h
  | wrapper => cases ht
  | parameterTypes => cases ht

end Descriptor

/-! ## The issues of each check -/

theorem mem_nameIssues {list : Section} {seen names : List String} {index : Nat} {x : Issue}
    (hx : x ∈ nameIssues list seen index names) :
    ∃ name i, x = .badName name list i ∨ x = .repeatedName name list i := by
  induction names generalizing seen index with
  | nil => simp [nameIssues] at hx
  | cons name rest ih =>
      rw [nameIssues] at hx
      split at hx
      · rcases List.mem_cons.1 hx with rfl | hx
        · exact ⟨name, index, Or.inl rfl⟩
        · exact ih hx
      · split at hx
        · rcases List.mem_cons.1 hx with rfl | hx
          · exact ⟨name, index, Or.inr rfl⟩
          · exact ih hx
        · exact ih hx

theorem mem_parameterIssues {index : Nat} {ps : List Parameter} {x : Issue}
    (hx : x ∈ parameterIssues index ps) :
    ∃ p ∈ ps, ∃ i, (p.tag.isParameterType = false ∧ x = .unsupportedType p.name p.tag i) ∨
      x = .badDefault p.default p.name p.tag i := by
  induction ps generalizing index with
  | nil => simp [parameterIssues] at hx
  | cons p rest ih =>
      rw [parameterIssues, List.mem_append] at hx
      rcases hx with hx | hx
      · refine ⟨p, List.mem_cons_self, index, ?_⟩
        unfold Parameter.issue? at hx
        split at hx
        · simp_all
        · split at hx <;> simp_all
      · obtain ⟨q, hq, hissue⟩ := ih hx
        exact ⟨q, List.mem_cons_of_mem _ hq, hissue⟩

namespace Descriptor

variable {d : Descriptor}

/-- What is not empty has issues of names and defaults, or of a parameter's type. -/
theorem mem_issues (hempty : d.isEmpty = false) {x : Issue} (hx : x ∈ d.issues) :
    x.code ∈ ["D001", "D002", "D003", "D004", "D005"] ∨
      x.code = "D006" ∧ ∃ p ∈ d.parameters, p.tag.isParameterType = false := by
  have hlist : ∀ list names, x ∈ nameIssues list [] 0 names →
      x.code ∈ ["D001", "D002", "D003", "D004", "D005"] := by
    intro list names hmem
    obtain ⟨name, i, rfl | rfl⟩ := mem_nameIssues hmem
    · simp [Issue.code]
    · cases list <;> simp [Issue.code]
  simp only [issues, hempty, List.mem_append] at hx
  rcases hx with ((((hname | hnone) | hi) | ho) | hp) | htypes
  · split at hname
    · simp at hname
    · rw [List.mem_singleton.1 hname]
      simp [Issue.code]
  · simp at hnone
  · exact Or.inl (hlist _ _ hi)
  · exact Or.inl (hlist _ _ ho)
  · exact Or.inl (hlist _ _ hp)
  · obtain ⟨p, hp, i, ⟨htag, rfl⟩ | rfl⟩ := mem_parameterIssues htypes
    · exact Or.inr ⟨rfl, p, hp, htag⟩
    · exact Or.inl (by simp [Issue.code])

/-- Only parameter types have literals, so that a default that is accepted has such a type. -/
theorem isValid_iff_of_not_empty (hempty : d.isEmpty = false) :
    d.IsValid ↔ d.HasIdentifiers ∧ d.HasDistinctNames ∧
      ∀ p ∈ d.parameters, p.tag.accepts p.default = true := by
  have htype : ∀ p : Parameter, p.tag.accepts p.default = true →
      p.tag.isParameterType = true := by
    intro p h
    cases htag : p.tag <;> simp_all [Tag.accepts, Tag.isParameterType]
  rw [isValid_iff]
  constructor
  · rintro ⟨hids, hdistinct, -, hparams⟩
    exact ⟨hids, hdistinct, fun p hp => (hparams p hp).2⟩
  · rintro ⟨hids, hdistinct, hparams⟩
    exact ⟨hids, hdistinct, hempty, fun p hp => ⟨htype p (hparams p hp), hparams p hp⟩⟩

end Descriptor

/-! ## Runs -/

/-- Code is written for descriptors that validation refuses: for a default that is no number, for
two inputs of one name and for a name that is no identifier. -/
theorem run_of_invalid_descriptors :
    ∃ (c : Catalog) (r : Run) (gain mix lowPass : Descriptor), c.Built ∧
      ((Generator.mk c.descriptor {}).run { included := ["Gain", "Mix", "Low Pass"] }
        Target.all).outcome = .ok r ∧
      c.get? "Gain" = some gain ∧ gain.issues.map Issue.code = ["D005"] ∧
      c.get? "Mix" = some mix ∧ mix.issues.map Issue.code = ["D002"] ∧
      c.get? "Low Pass" = some lowPass ∧ lowPass.issues.map Issue.code = ["D001"] ∧
      ∀ t, (r.forTarget t).map (·.algorithm) = ["Gain", "Mix", "Low Pass"] := by
  let gain : Descriptor := {
    name := "Gain"
    outputs := [⟨"signal", .vectorReal, ""⟩]
    parameters := [⟨"gain", .real, "loud", ""⟩] }
  let mix : Descriptor := {
    name := "Mix"
    inputs := [⟨"signal", .vectorReal, ""⟩, ⟨"signal", .vectorReal, ""⟩]
    outputs := [⟨"signal", .vectorReal, ""⟩] }
  let lowPass : Descriptor := {
    name := "Low Pass"
    inputs := [⟨"signal", .vectorReal, ""⟩]
    outputs := [⟨"signal", .vectorReal, ""⟩] }
  let c : Catalog := ⟨[gain, mix, lowPass], [("Low Pass", 2), ("Mix", 1), ("Gain", 0)]⟩
  have hc : c.Built :=
    .insert (.insert (.insert .empty (d := gain) rfl) (d := mix) rfl) (d := lowPass) rfl
  have hok : ((Generator.mk c.descriptor {}).run { included := ["Gain", "Mix", "Low Pass"] }
      Target.all).outcome.isOk = true := by rfl
  obtain ⟨r, hr⟩ := isOk_iff.1 hok
  refine ⟨c, r, gain, mix, lowPass, hc, hr, rfl, by decide, rfl, by decide, rfl, by decide, ?_⟩
  intro t
  have hfiled : (fun x : Artifact => x.algorithm) ∘
      (fun name => (Generator.mk c.descriptor {}).written (t, name)) = id := by
    funext name
    exact (Generator.written_filed (fun _ _ hd => hc.indexed.name_eq hd) (t, name)).2
  rw [Generator.forTarget_of_run hr (Target.mem_all t), List.map_map, hfiled, List.map_id]
  decide

/-- A run succeeds when everything that is selected is found, is not empty and has types that the
targets have. Validation then has nothing left to find but bad names and defaults, and types of
parameters where no native code was asked for. -/
theorem generation_checks (settings : Settings) (p : Provider) (s : Selection)
    (ts : List Target) :
    (((Generator.mk p settings).run s ts).outcome.isOk = true ↔
      ∀ name ∈ s.resolve, ∃ d, p name = .ok d ∧ d.isEmpty = false ∧ ∀ t ∈ ts, d.Suits t) ∧
    ∀ r, ((Generator.mk p settings).run s ts).outcome = .ok r →
      ∀ name ∈ s.resolve, ∃ d, p name = .ok d ∧ d.isEmpty = false ∧
        (∀ t ∈ ts, t.isNative = true → ∀ q ∈ d.parameters, q.tag.isParameterType = true) ∧
        (∀ x ∈ d.issues, x.code ∈ ["D001", "D002", "D003", "D004", "D005"] ∨
          x.code = "D006" ∧ ∀ t ∈ ts, t.isNative = false) ∧
        (d.IsValid ↔ d.HasIdentifiers ∧ d.HasDistinctNames ∧
          ∀ q ∈ d.parameters, q.tag.accepts q.default = true) := by
  refine ⟨Generator.isOk_run_iff_suits, fun r hr name hname => ?_⟩
  obtain ⟨d, hd, hempty, hsuits⟩ :=
    Generator.isOk_run_iff_suits.1 (isOk_iff.2 ⟨r, hr⟩) name hname
  refine ⟨d, hd, hempty, fun t ht hnative => (hsuits t ht).isParameterType hnative, ?_,
    d.isValid_iff_of_not_empty hempty⟩
  intro x hx
  rcases Descriptor.mem_issues hempty hx with hcode | ⟨hcode, q, hq, htag⟩
  · exact Or.inl hcode
  · refine Or.inr ⟨hcode, fun t ht => Bool.eq_false_iff.2 fun hnative => ?_⟩
    have htype := (hsuits t ht).isParameterType hnative q hq
    rw [htag] at htype
    cases htype

/-- A matrix may be a parameter of a wrapper, but of nothing that is native or valid. -/
theorem generation_checks_matrix :
    ∃ (c : Catalog) (r : Run) (d : Descriptor), c.Built ∧
      ((Generator.mk c.descriptor {}).run { included := ["Warp"] }
        [.wrapper, .parameterTypes]).outcome = .ok r ∧
      ((Generator.mk c.descriptor {}).run { included := ["Warp"] }
        [.wrapper, .binding]).outcome.isOk = false ∧
      c.descriptor "Warp" = .ok d ∧ d.issues.map Issue.code = ["D006"] ∧
      (d.IsValid ↔ d.HasIdentifiers ∧ d.HasDistinctNames ∧
        ∀ q ∈ d.parameters, q.tag.accepts q.default = true) := by
  let warp : Descriptor := {
    name := "Warp"
    outputs := [⟨"signal", .vectorReal, ""⟩]
    parameters := [⟨"basis", .matrixReal, "[]", ""⟩] }
  let c : Catalog := ⟨[warp], [("Warp", 0)]⟩
  have hok : ((Generator.mk c.descriptor {}).run { included := ["Warp"] }
      [.wrapper, .parameterTypes]).outcome.isOk = true := by rfl
  obtain ⟨r, hr⟩ := isOk_iff.1 hok
  obtain ⟨d, hd, -, -, -, hvalid⟩ :=
    (generation_checks {} c.descriptor { included := ["Warp"] } _).2 r hr "Warp" (by decide)
  cases hd
  exact ⟨c, r, warp, .insert .empty (d := warp) rfl, hr, by rfl, rfl, by decide, hvalid⟩

end Bindery
