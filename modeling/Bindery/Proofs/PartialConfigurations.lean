import Bindery.Proofs.CatalogSchema
import Bindery.Proofs.ClosedRecords
import Bindery.RunConfig
import Mathlib.Data.List.Sort

/-!
# Partial run configurations

A run configuration need not say more than what differs from the defaults. An unknown member,
one that stands twice or one with a value of another kind is refused, in the configuration as
in its settings. Neither the order of members nor the order and the repetitions of the names
to recreate matter.
-/

namespace Bindery

open Json (Draft Error Given IsPartial Kind OnlyValues Record Spells Value)

/-! ## Texts and names -/

namespace Json

def Value.IsText (v : Value) : Prop := ∃ s, v = .string s

def Value.AreNames (v : Value) : Prop := ∃ names, v = .ofStrings names

theorem text_draft_eq_ok {v : Value} {s : String} : v.draft.text = .ok s ↔ v = .string s := by
  cases v <;> simp [Value.draft, Draft.text]

/-- Each item of a list is what its element is decoded from. -/
theorem mapM_draft_eq_ok {α : Type} {element : Draft → Except Error α} {json : α → Value}
    (h : ∀ (v : Value) a, element v.draft = .ok a ↔ v = json a) {vs : List Value} {as : List α} :
    vs.mapM (fun v => element v.draft) = .ok as ↔ vs = as.map json := by
  rw [mapM_eq_ok]
  induction vs generalizing as with
  | nil => cases as <;> simp
  | cons v rest ih => cases as <;> simp [h, ih]

theorem texts_draft_eq_ok {v : Value} {names : List String} :
    v.draft.texts = .ok names ↔ v = .ofStrings names := by
  cases v with
  | array items =>
      rw [Value.draft, Draft.texts, Draft.list, Schema.list_draftItems, Value.ofStrings,
        mapM_draft_eq_ok fun _ _ => text_draft_eq_ok, Value.array.injEq]
  | _ => simp [Value.draft, Draft.texts, Draft.list, Value.ofStrings]

theorem Value.ofStrings_injective : Function.Injective Value.ofStrings := by
  intro names names' h
  rw [Value.ofStrings, Value.ofStrings, Value.array.injEq] at h
  exact List.map_injective_iff.2 (fun _ _ hs => Value.string.inj hs) h

theorem isOk_text_draft {v : Value} : v.draft.text.isOk = true ↔ v.IsText := by
  simp only [isOk_iff, text_draft_eq_ok, Value.IsText]

theorem isOk_texts_draft {v : Value} : v.draft.texts.isOk = true ↔ v.AreNames := by
  simp only [isOk_iff, texts_draft_eq_ok, Value.AreNames]

theorem Value.IsText.not_hasNull {v : Value} (h : v.IsText) : ¬ v.HasNull := by
  obtain ⟨s, rfl⟩ := h
  intro hnull
  cases hnull

theorem Value.AreNames.not_hasNull {v : Value} (h : v.AreNames) : ¬ v.HasNull := by
  obtain ⟨names, rfl⟩ := h
  intro hnull
  cases hnull with
  | item hmem hnull =>
      obtain ⟨s, -, rfl⟩ := List.mem_map.1 hmem
      cases hnull

/-- A member that may be missing takes what its decoder takes. -/
theorem Record.takes_of {α β : Type} {name : String} {decode : Draft → Except Error β}
    {set : β → α → α} {Takes : Value → Prop}
    (h : ∀ v : Value, (decode v.draft).isOk = true ↔ Takes v) :
    (Member.of name false decode set).name = name ∧
      (Member.of name false decode set).required = false ∧
        ∀ (v : Value) a, ((Member.of name false decode set).put v.draft a).isOk = true ↔ Takes v :=
  ⟨rfl, rfl, fun v a => by rw [Member.of, isOk_map, h]⟩

end Json

/-! ## Sets of names -/

theorem pairwise_insertName {names : List String} (h : names.Pairwise (· < ·)) (name : String) :
    (insertName name names).Pairwise (· < ·) := by
  induction names with
  | nil => exact List.pairwise_singleton _ _
  | cons n rest ih =>
      have hrest := List.pairwise_cons.1 h
      rw [insertName]
      split
      · exact h
      · split
        case isTrue hlt =>
          refine .cons (List.forall_mem_cons.2 ⟨hlt, fun a ha => ?_⟩) h
          exact String.lt_trans hlt (hrest.1 a ha)
        case isFalse hne hle =>
          refine .cons (fun a ha => ?_) (ih hrest.2)
          rcases mem_insertName.1 ha with rfl | ha
          · exact Std.lt_of_le_of_ne (String.not_lt.1 hle) (Ne.symm hne)
          · exact hrest.1 a ha

theorem pairwise_nameSet (names : List String) : (nameSet names).Pairwise (· < ·) := by
  induction names with
  | nil => exact .nil
  | cons name rest ih => exact pairwise_insertName ih name

/-- A set of names depends neither on their order nor on repetitions. -/
theorem nameSet_congr {names names' : List String} (h : ∀ a, a ∈ names ↔ a ∈ names') :
    nameSet names = nameSet names' := by
  refine List.Pairwise.eq_of_mem_iff (pairwise_nameSet names) (pairwise_nameSet names') fun a => ?_
  rw [mem_nameSet, mem_nameSet, h]

/-! ## Settings -/

namespace Settings

/-- The members of settings, in the order of the declaration. -/
def kinds : List Kind := [
  ⟨"input_prefix", Value.IsText⟩,
  ⟨"output_prefix", Value.IsText⟩,
  ⟨"handle_prefix", Value.IsText⟩,
  ⟨"reconfigure_by_recreate", Value.AreNames⟩,
  ⟨"reference_base_url", Value.IsText⟩,
  ⟨"backend_var", Value.IsText⟩,
  ⟨"param_types_namespace", Value.IsText⟩]

/-- The settings that are texts, by their names. -/
def texts : List (String × (Settings → String)) := [
  ("input_prefix", inputPrefix),
  ("output_prefix", outputPrefix),
  ("handle_prefix", handlePrefix),
  ("reference_base_url", referenceBase),
  ("backend_var", backend),
  ("param_types_namespace", typeNamespace)]

/-- Each of the settings is what its member gives, or the default. -/
@[mk_iff]
structure Overrides (ms : List (String × Value)) (s : Settings) : Prop where
  texts : ∀ setting ∈ texts,
    Given ms setting.1 (fun v x => v = .string x) (setting.2 {}) (setting.2 s)
  recreated : Given ms "reconfigure_by_recreate"
    (fun v x => ∃ names, v = .ofStrings names ∧ x = nameSet names) ({} : Settings).recreated
    s.recreated

/-- Members in another order, or the names to recreate in another order or repeated. -/
inductive Respelled : List (String × Value) → List (String × Value) → Prop
  | permuted {ms ms' : List (String × Value)} (h : ms.Perm ms') : Respelled ms ms'
  | recreated {names names' : List String} (h : ∀ a, a ∈ names ↔ a ∈ names')
      (ms : List (String × Value)) :
      Respelled (("reconfigure_by_recreate", .ofStrings names) :: ms)
        (("reconfigure_by_recreate", .ofStrings names') :: ms)
  | trans {ms ms' ms'' : List (String × Value)} (h : Respelled ms ms') (h' : Respelled ms' ms'') :
      Respelled ms ms''

theorem reads : record.Reads kinds where
  closed := rfl
  nodup := by
    have hnodup : ["input_prefix", "output_prefix", "handle_prefix", "reconfigure_by_recreate",
      "reference_base_url", "backend_var", "param_types_namespace"].Nodup := by decide
    exact hnodup
  members :=
    have htext := fun _ => Json.isOk_text_draft
    .cons (Record.takes_of htext) <|
    .cons (Record.takes_of htext) <|
    .cons (Record.takes_of htext) <|
    .cons (Record.takes_of fun _ => Json.isOk_texts_draft) <|
    .cons (Record.takes_of htext) <|
    .cons (Record.takes_of htext) <|
    .cons (Record.takes_of htext) .nil

theorem onlyValues : OnlyValues record.decode := by
  refine Record.onlyValues_decode ?_ rfl
  simp only [record, members, List.forall_mem_cons, List.not_mem_nil, false_implies, implies_true,
    and_true]
  have htext := Json.onlyValues_text
  and_intros <;> intro a <;> first | exact htext.map _ | exact htext.list.map _

theorem eq_of_texts {s s' : Settings} (htexts : ∀ setting ∈ texts, setting.2 s = setting.2 s')
    (hrecreated : s.recreated = s'.recreated) : s = s' := by
  cases s
  cases s'
  simp only [texts, List.forall_mem_cons] at htexts
  simp_all

theorem writes_texts : ∀ setting ∈ texts, ∀ m ∈ record.members,
    m.Writes setting.1 setting.2 fun v x => v = .string x := by
  simp only [texts, record, members, List.forall_mem_cons, List.not_mem_nil, false_implies,
    implies_true, and_true]
  and_intros <;> first
  | exact .of_own fun _ _ _ h => Json.text_draft_eq_ok.1 h
  | exact .of_apart (by decide) fun _ _ => rfl

theorem writes_recreated : ∀ m ∈ record.members,
    m.Writes "reconfigure_by_recreate" recreated
      fun v x => ∃ names, v = .ofStrings names ∧ x = nameSet names := by
  simp only [record, members, List.forall_mem_cons, List.not_mem_nil, false_implies, implies_true,
    and_true]
  and_intros <;> first
  | exact .of_own fun _ names _ h => ⟨names, Json.texts_draft_eq_ok.1 h, rfl⟩
  | exact .of_apart (by decide) fun _ _ => rfl

theorem overrides_of_putKnown {ms : List (String × Value)} (hpartial : IsPartial kinds ms)
    {s : Settings} (h : record.putKnown ms {} = .ok s) : Overrides ms s where
  texts setting hsetting := reads.given (writes_texts setting hsetting) hpartial h
  recreated := reads.given writes_recreated hpartial h

theorem Overrides.unique {ms : List (String × Value)} {s s' : Settings} (h : Overrides ms s)
    (h' : Overrides ms s') (hnodup : (ms.map (·.1)).Nodup) : s = s' := by
  apply eq_of_texts
  · intro setting hsetting
    refine (h.texts setting hsetting).unique (h'.texts setting hsetting) hnodup ?_
    intro v _ hv hv'
    rw [hv, Value.string.injEq] at hv'
    exact hv'
  · refine h.recreated.unique h'.recreated hnodup ?_
    rintro v - ⟨names, hv, hx⟩ ⟨names', hv', hy⟩
    rw [hx, hy, Json.Value.ofStrings_injective (hv.symm.trans hv')]

/-- What is decoded is what a value gives over the defaults. -/
theorem decode_eq_ok {v : Value} {s : Settings} :
    record.decode v.draft = .ok s ↔
      ∃ ms, v.Gives (kinds.map (·.name)) ms ∧ IsPartial kinds ms ∧ Overrides ms s := by
  rw [reads.decode_eq_ok]
  refine exists_congr fun ms => and_congr_right fun _ => and_congr_right fun hpartial => ?_
  exact reads.putKnown_iff hpartial (fun _ => overrides_of_putKnown hpartial)
    fun _ _ h h' => h.unique h' hpartial.once

theorem Respelled.isPartial {ms ms' : List (String × Value)} (h : Respelled ms ms') :
    IsPartial kinds ms ↔ IsPartial kinds ms' := by
  induction h with
  | permuted h => exact ⟨fun hpartial => hpartial.perm h, fun hpartial => hpartial.perm h.symm⟩
  | @recreated names names' _ ms =>
      have hnames : ∀ names, (Value.ofStrings names).AreNames := fun names => ⟨names, rfl⟩
      exact Json.isPartial_cons (by simp [kinds, hnames])
  | trans _ _ ih ih' => exact ih.trans ih'

theorem Respelled.overrides {ms ms' : List (String × Value)} (h : Respelled ms ms')
    {s : Settings} : Overrides ms s ↔ Overrides ms' s := by
  induction h with
  | permuted h =>
      rw [overrides_iff, overrides_iff, Json.given_perm h]
      exact and_congr_left' (forall₂_congr fun _ _ => Json.given_perm h)
  | @recreated names names' h ms =>
      have hother : ∀ setting ∈ texts, "reconfigure_by_recreate" ≠ setting.1 := by simp [texts]
      rw [overrides_iff, overrides_iff]
      refine and_congr (forall₂_congr fun setting hsetting => ?_) (Json.given_cons fun _ => ?_)
      · exact Json.given_cons fun heq => absurd heq (hother setting hsetting)
      · simp only [Value.ofStrings_injective.eq_iff, exists_eq_left', nameSet_congr h]
  | trans _ _ ih ih' => exact ih.trans ih'

end Settings

/-! ## Run configurations -/

/-- The path is that of a file in JSON, and its text spells the value. -/
structure FileTree.HoldsJson (t : FileTree) (path : String) (v : Value) : Prop where
  extension : (extension? path).map Text.lowerCase = some "json"
  text : ∃ text, t.readText path = .ok text ∧ Json.Holds text v

namespace RunConfig

/-- The members of a configuration, in the order of the declaration. -/
def kinds : List Kind := [
  ⟨"include", Value.AreNames⟩,
  ⟨"exclude", Value.AreNames⟩,
  ⟨"codegen", Spells Settings.kinds⟩]

/-- Each part of the configuration is what its member gives, or the default. -/
@[mk_iff]
structure Overrides (ms : List (String × Value)) (c : RunConfig) : Prop where
  included : Given ms "include" (fun v x => v = .ofStrings x) [] c.included
  excluded : Given ms "exclude" (fun v x => v = .ofStrings x) [] c.excluded
  settings : Given ms "codegen"
    (fun v x => ∃ ss, v.Gives (Settings.kinds.map (·.name)) ss ∧ Settings.Overrides ss x) {}
    c.settings

/-- Members in another order, or settings in another order or with the names to recreate in
another order or repeated. -/
inductive Respelled : List (String × Value) → List (String × Value) → Prop
  | permuted {ms ms' : List (String × Value)} (h : ms.Perm ms') : Respelled ms ms'
  | settings {ss ss' : List (String × Value)} (h : Settings.Respelled ss ss')
      (ms : List (String × Value)) :
      Respelled (("codegen", .object ss) :: ms) (("codegen", .object ss') :: ms)
  | trans {ms ms' ms'' : List (String × Value)} (h : Respelled ms ms') (h' : Respelled ms' ms'') :
      Respelled ms ms''

/-- Something is wrong with the members of the configuration, or with those of its settings. -/
inductive IsFaulty (ms : List (String × Value)) : Prop
  | outside (h : Json.IsFaulty kinds ms)
  | inside {ss : List (String × Value)} (h : ("codegen", .object ss) ∈ ms)
      (hfaulty : Json.IsFaulty Settings.kinds ss)

theorem reads : record.Reads kinds where
  closed := rfl
  nodup := by
    have hnodup : ["include", "exclude", "codegen"].Nodup := by decide
    exact hnodup
  members :=
    .cons (Record.takes_of fun _ => Json.isOk_texts_draft) <|
    .cons (Record.takes_of fun _ => Json.isOk_texts_draft) <|
    .cons (Record.takes_of fun _ => Settings.reads.isOk_decode) .nil

theorem onlyValues : OnlyValues record.decode := by
  refine Record.onlyValues_decode ?_ rfl
  simp only [record, members, List.forall_mem_cons, List.not_mem_nil, false_implies, implies_true,
    and_true]
  have htexts := Json.onlyValues_text.list
  exact ⟨fun _ => htexts.map _, fun _ => htexts.map _, fun _ => Settings.onlyValues.map _⟩

theorem writes_included : ∀ m ∈ record.members,
    m.Writes "include" included fun v x => v = .ofStrings x := by
  simp only [record, members, List.forall_mem_cons, List.not_mem_nil, false_implies, implies_true,
    and_true]
  exact ⟨.of_own fun _ _ _ h => Json.texts_draft_eq_ok.1 h,
    .of_apart (by decide) fun _ _ => rfl, .of_apart (by decide) fun _ _ => rfl⟩

theorem writes_excluded : ∀ m ∈ record.members,
    m.Writes "exclude" excluded fun v x => v = .ofStrings x := by
  simp only [record, members, List.forall_mem_cons, List.not_mem_nil, false_implies, implies_true,
    and_true]
  exact ⟨.of_apart (by decide) fun _ _ => rfl,
    .of_own fun _ _ _ h => Json.texts_draft_eq_ok.1 h, .of_apart (by decide) fun _ _ => rfl⟩

theorem writes_settings : ∀ m ∈ record.members, m.Writes "codegen" settings
    fun v x => ∃ ss, v.Gives (Settings.kinds.map (·.name)) ss ∧ Settings.Overrides ss x := by
  simp only [record, members, List.forall_mem_cons, List.not_mem_nil, false_implies, implies_true,
    and_true]
  refine ⟨.of_apart (by decide) fun _ _ => rfl, .of_apart (by decide) fun _ _ => rfl,
    .of_own fun v s _ hs => ?_⟩
  obtain ⟨ss, hgives, -, hs⟩ := Settings.decode_eq_ok.1 hs
  exact ⟨ss, hgives, hs⟩

theorem overrides_of_putKnown {ms : List (String × Value)} (hpartial : IsPartial kinds ms)
    {c : RunConfig} (h : record.putKnown ms {} = .ok c) : Overrides ms c where
  included := reads.given writes_included hpartial h
  excluded := reads.given writes_excluded hpartial h
  settings := reads.given writes_settings hpartial h

/-- What stands for the settings gives partial settings. -/
theorem spells_of_isPartial {ms : List (String × Value)} (h : IsPartial kinds ms) {v : Value}
    (hv : ("codegen", v) ∈ ms) : Spells Settings.kinds v := by
  obtain ⟨kind, hkind, hname, htakes⟩ := h.taken _ hv
  have hcodegen : ⟨"codegen", Spells Settings.kinds⟩ ∈ kinds := by simp [kinds]
  obtain rfl := List.inj_on_of_nodup_map reads.nodup_kinds hkind hcodegen hname
  exact htakes

theorem Overrides.unique {ms : List (String × Value)} {c c' : RunConfig} (h : Overrides ms c)
    (h' : Overrides ms c') (hpartial : IsPartial kinds ms) : c = c' := by
  have hnames : ∀ v x y, v = Value.ofStrings x → v = Value.ofStrings y → x = y :=
    fun v x y hx hy => Value.ofStrings_injective (hx.symm.trans hy)
  have hsettings : c.settings = c'.settings := by
    -- the settings are told by the members that their value gives, which are partial
    refine h.settings.unique h'.settings hpartial.once ?_
    rintro v hv ⟨ss, hss, hs⟩ ⟨ss', hss', hs'⟩
    obtain ⟨ss'', hss'', hparts⟩ := spells_of_isPartial hpartial hv
    obtain rfl := hss.unique hss'
    obtain rfl := hss.unique hss''
    exact hs.unique hs' hparts.once
  have hincluded := h.included.unique h'.included hpartial.once fun v _ => hnames v _ _
  have hexcluded := h.excluded.unique h'.excluded hpartial.once fun v _ => hnames v _ _
  cases c
  cases c'
  congr

theorem decode_object_eq_ok {ms : List (String × Value)} {c : RunConfig} :
    record.decode (Value.object ms).draft = .ok c ↔ IsPartial kinds ms ∧ Overrides ms c := by
  rw [reads.decode_object_eq_ok]
  refine and_congr_right fun hpartial => ?_
  exact reads.putKnown_iff hpartial (fun _ => overrides_of_putKnown hpartial)
    fun _ _ h h' => h.unique h' hpartial

theorem Respelled.isPartial {ms ms' : List (String × Value)} (h : Respelled ms ms') :
    IsPartial kinds ms ↔ IsPartial kinds ms' := by
  induction h with
  | permuted h => exact ⟨fun hpartial => hpartial.perm h, fun hpartial => hpartial.perm h.symm⟩
  | settings h ms => exact Json.isPartial_cons (by simp [kinds, Json.spells_object, h.isPartial])
  | trans _ _ ih ih' => exact ih.trans ih'

theorem Respelled.overrides {ms ms' : List (String × Value)} (h : Respelled ms ms')
    {c : RunConfig} : Overrides ms c ↔ Overrides ms' c := by
  induction h with
  | permuted h =>
      rw [overrides_iff, overrides_iff, Json.given_perm h, Json.given_perm h, Json.given_perm h]
  | settings h ms =>
      rw [overrides_iff, overrides_iff]
      refine and_congr (Json.given_cons fun heq => ?_) (and_congr (Json.given_cons fun heq => ?_)
        (Json.given_cons fun _ => ?_))
      · exact absurd heq (by decide)
      · exact absurd heq (by decide)
      · simp only [Value.gives_object, exists_eq_left, h.overrides]
  | trans _ _ ih ih' => exact ih.trans ih'

/-- The members are faulty or partial. -/
theorem isFaulty_iff {ms : List (String × Value)} : IsFaulty ms ↔ ¬ IsPartial kinds ms := by
  constructor
  · intro h hpartial
    cases h with
    | outside h => exact (Json.isFaulty_iff reads.nodup_kinds).1 h hpartial
    | inside h hfaulty =>
        exact (Json.isFaulty_iff Settings.reads.nodup_kinds).1 hfaulty
          (Json.spells_object.1 (spells_of_isPartial hpartial h))
  · intro h
    exact .outside ((Json.isFaulty_iff reads.nodup_kinds).2 h)

/-- No null stands in what is read. -/
theorem not_hasNull {v : Value} (h : Spells kinds v) : ¬ v.HasNull := by
  have hsettings : ∀ kind ∈ Settings.kinds, ∀ w, kind.Takes w → ¬ w.HasNull := by
    simp only [Settings.kinds, List.forall_mem_cons, List.not_mem_nil, false_implies, implies_true,
      and_true]
    and_intros <;> first
    | exact fun _ => Value.IsText.not_hasNull
    | exact fun _ => Value.AreNames.not_hasNull
  refine h.not_hasNull ?_
  simp only [kinds, List.forall_mem_cons, List.not_mem_nil, false_implies, implies_true, and_true]
  exact ⟨fun _ => Value.AreNames.not_hasNull, fun _ => Value.AreNames.not_hasNull,
    fun _ hspells => hspells.not_hasNull hsettings⟩

/-! ## Files -/

section Files

variable [YamlReader]

theorem load_json {t : FileTree} {path text : String}
    (hextension : (FileTree.extension? path).map Text.lowerCase = some "json")
    (hread : t.readText path = .ok text) :
    load t path = (ofJson text).mapError .badJson := by
  have hformat : (some "json").bind Format.ofExtension? = some .json := rfl
  simp only [load, hextension, hformat, readInput, hread, ok_bind, ofText]
  cases ofJson text <;> rfl

theorem load_of_holdsJson {t : FileTree} {path : String} {v : Value} (h : t.HoldsJson path v) :
    load t path = (record.decode v.draft).mapError .badJson := by
  obtain ⟨hextension, text, hread, hholds⟩ := h
  rw [load_json hextension hread, ofJson, Json.decodeText_of_holds _ hholds]

theorem load_eq_ok {t : FileTree} {path : String} {v : Value} (h : t.HoldsJson path v)
    {c : RunConfig} : load t path = .ok c ↔ record.decode v.draft = .ok c := by
  rw [load_of_holdsJson h]
  cases record.decode v.draft <;> simp [Except.mapError]

theorem exists_badJson_iff {t : FileTree} {path : String} {v : Value} (h : t.HoldsJson path v) :
    (∃ e, load t path = .error (.badJson e)) ↔ ¬ Spells kinds v := by
  rw [← reads.isOk_decode, load_of_holdsJson h]
  cases record.decode v.draft <;> simp [Except.mapError, isOk_iff]

/-- What is loaded from JSON stands there as a value. -/
theorem exists_holdsJson {t : FileTree} {path : String} {c : RunConfig}
    (hextension : (FileTree.extension? path).map Text.lowerCase = some "json")
    (h : load t path = .ok c) : ∃ v, t.HoldsJson path v := by
  cases hread : t.readText path with
  | error e =>
      have hformat : (some "json").bind Format.ofExtension? = some .json := rfl
      simp [load, hextension, hformat, readInput, hread] at h
  | ok text =>
      rw [load_json hextension hread] at h
      cases hjson : ofJson text with
      | error e => simp [hjson, Except.mapError] at h
      | ok c =>
          obtain ⟨hroot, htrailing⟩ := Json.decodeText_eq_ok.1 hjson
          obtain ⟨v, hv⟩ := onlyValues _ _ hroot
          refine ⟨v, hextension, text, hread, ?_⟩
          rw [Json.Holds, hv, ← htrailing]

/-- A configuration in JSON overrides the defaults, part by part. Members in another order, and
names to recreate in another order or repeated, make no difference. What is faulty is refused,
and so is a null; what is loaded stands there as a value of the declared kinds. -/
theorem configuration_overrides :
    (∀ t path ms, FileTree.HoldsJson t path (.object ms) → IsPartial kinds ms →
      ∃ c, load t path = .ok c ∧ Overrides ms c ∧ ∀ c', Overrides ms c' → c' = c) ∧
    (∀ t t' path path' ms ms', FileTree.HoldsJson t path (.object ms) →
      FileTree.HoldsJson t' path' (.object ms') → Respelled ms ms' →
      ∀ c, load t path = .ok c ↔ load t' path' = .ok c) ∧
    (∀ t path ms, FileTree.HoldsJson t path (.object ms) →
      (IsFaulty ms ↔ ∃ e, load t path = .error (.badJson e))) ∧
    (∀ t path v, FileTree.HoldsJson t path v → v.HasNull →
      ∃ e, load t path = .error (.badJson e)) ∧
    ∀ t path, (FileTree.extension? path).map Text.lowerCase = some "json" →
      ((load t path).isOk = true ↔ ∃ v, t.HoldsJson path v ∧ Spells kinds v) := by
  refine ⟨?_, ?_, ?_, ?_, ?_⟩
  · intro t path ms h hpartial
    obtain ⟨c, hc⟩ := isOk_iff.1 (reads.isOk_decode.2 (Json.spells_object.2 hpartial))
    have hoverrides := (decode_object_eq_ok.1 hc).2
    exact ⟨c, (load_eq_ok h).2 hc, hoverrides, fun c' h' => h'.unique hoverrides hpartial⟩
  · intro t t' path path' ms ms' h h' hrespelled c
    rw [load_eq_ok h, load_eq_ok h', decode_object_eq_ok, decode_object_eq_ok,
      hrespelled.isPartial, hrespelled.overrides]
  · intro t path ms h
    rw [exists_badJson_iff h, Json.spells_object, isFaulty_iff]
  · intro t path v h hnull
    exact (exists_badJson_iff h).2 fun hspells => not_hasNull hspells hnull
  · intro t path hextension
    constructor
    · intro hok
      obtain ⟨c, hc⟩ := isOk_iff.1 hok
      obtain ⟨v, hv⟩ := exists_holdsJson hextension hc
      exact ⟨v, hv, reads.isOk_decode.1 (isOk_iff.2 ⟨c, (load_eq_ok hv).1 hc⟩)⟩
    · rintro ⟨v, hv, hspells⟩
      obtain ⟨c, hc⟩ := isOk_iff.1 (reads.isOk_decode.2 hspells)
      exact isOk_iff.2 ⟨c, (load_eq_ok hv).2 hc⟩

end Files

/-- A file with a value, which is printed. -/
def printed (v : Value) : FileTree where
  files := [(["run.json"], .text v.pretty)]

theorem holdsJson_printed {v : Value} (hv : v.IsNumberless) :
    (printed v).HoldsJson "run.json" v where
  extension := by decide
  text := by
    have hlocate : (printed v).locate "run.json" = .ok ["run.json"] := by rfl
    have hcontent : (printed v).content? ["run.json"] = some (.text v.pretty) := by rfl
    refine ⟨v.pretty, ?_, Json.ofText_pretty hv⟩
    simp [FileTree.readText, hlocate, hcontent]

/-- Two spellings of a configuration that gives two of the settings and the names to include, one
with the name of a setting that there is not, and one with a null. -/
theorem configuration_overrides_chords :
    let written : List (String × Value) := [
      ("codegen", .object [("reconfigure_by_recreate", .ofStrings ["Key", "Chords", "Key"]),
        ("backend_var", .string "essentia")]),
      ("include", .ofStrings ["Energy"])]
    let respelled : List (String × Value) := [
      ("include", .ofStrings ["Energy"]),
      ("codegen", .object [("backend_var", .string "essentia"),
        ("reconfigure_by_recreate", .ofStrings ["Chords", "Key"])])]
    let misspelt : List (String × Value) := [
      ("codegen", .object [("backend", .string "essentia")])]
    let c : RunConfig := {
      included := ["Energy"]
      settings := { recreated := ["Chords", "Key"], backend := "essentia" } }
    load (printed (.object written)) "run.json" = .ok c ∧
      load (printed (.object respelled)) "run.json" = .ok c ∧
      (∃ e, load (printed (.object misspelt)) "run.json" = .error (.badJson e)) ∧
      (∃ e, load (printed (.object [("include", .array [.null])])) "run.json"
        = .error (.badJson e)) ∧
      ∃ v, (printed (.object written)).HoldsJson "run.json" v ∧ Spells kinds v := by
  intro written respelled misspelt c
  obtain ⟨hpartial, hrespelled, hfaulty, hnull, hloaded⟩ := configuration_overrides
  have hwritten : (printed (.object written)).HoldsJson "run.json" (.object written) :=
    holdsJson_printed (by simp [written, Value.ofStrings, Value.IsNumberless, Value.AreNumberless,
      Value.HaveNumberless])
  have hparts : IsPartial kinds written := by
    have hsettings : Spells Settings.kinds (.object [
        ("reconfigure_by_recreate", .ofStrings ["Key", "Chords", "Key"]),
        ("backend_var", .string "essentia")]) := by
      rw [Json.spells_object]
      refine ⟨by decide, ?_⟩
      rw [List.forall_mem_cons, List.forall_mem_singleton]
      exact ⟨⟨⟨"reconfigure_by_recreate", Value.AreNames⟩, by simp [Settings.kinds], rfl, _, rfl⟩,
        ⟨"backend_var", Value.IsText⟩, by simp [Settings.kinds], rfl, _, rfl⟩
    refine ⟨by decide, ?_⟩
    rw [List.forall_mem_cons, List.forall_mem_singleton]
    exact ⟨⟨⟨"codegen", Spells Settings.kinds⟩, by simp [kinds], rfl, hsettings⟩,
      ⟨"include", Value.AreNames⟩, by simp [kinds], rfl, _, rfl⟩
  have hoverrides : Overrides written c := by
    refine ⟨.inl ⟨_, List.mem_cons_of_mem _ List.mem_cons_self, rfl⟩, .inr ⟨by decide, rfl⟩,
      .inl ⟨_, List.mem_cons_self, _, .object _, ?_⟩⟩
    constructor
    · simp only [Settings.texts, List.forall_mem_cons, List.not_mem_nil, false_implies,
        implies_true, and_true]
      and_intros <;> first
      | exact .inr ⟨by decide, rfl⟩
      | exact .inl ⟨_, List.mem_cons_of_mem _ List.mem_cons_self, rfl⟩
    · exact .inl ⟨_, List.mem_cons_self, _, rfl, by decide⟩
  have hsame : Respelled written respelled := by
    have hnames : ∀ a, a ∈ ["Key", "Chords", "Key"] ↔ a ∈ ["Chords", "Key"] := by
      intro a
      simp only [List.mem_cons, List.not_mem_nil, or_false]
      tauto
    have hsettings := (Settings.Respelled.recreated hnames
      [("backend_var", .string "essentia")]).trans (.permuted (.swap _ _ _))
    exact .trans (.settings hsettings _) (.permuted (.swap _ _ _))
  have hbackend : IsFaulty misspelt :=
    .inside List.mem_cons_self (.unknown List.mem_cons_self (by decide))
  have hnothing : (Value.object [("include", .array [.null])]).HasNull :=
    .member List.mem_cons_self (.item List.mem_cons_self .null)
  obtain ⟨c', hc', -, hunique⟩ := hpartial _ _ _ hwritten hparts
  obtain rfl := hunique c hoverrides
  refine ⟨hc', (hrespelled _ _ _ _ _ _ hwritten ?_ hsame _).1 hc', (hfaulty _ _ _ ?_).1 hbackend,
    hnull _ _ _ ?_ hnothing, (hloaded _ _ hwritten.extension).1 (isOk_iff.2 ⟨_, hc'⟩)⟩
  all_goals
    refine holdsJson_printed ?_
    simp [respelled, misspelt, Value.ofStrings, Value.IsNumberless, Value.AreNumberless,
      Value.HaveNumberless]

end RunConfig

end Bindery
