import Bindery.Proofs.Lines
import Bindery.Proofs.Reading

/-!
# Statements of native definitions

With identifiers for names, the text of a statement shows which statement it is: a
call is found where its marks are, and no name has such a mark in it.
-/

namespace Bindery

/-- The names that writers put into code are words; the algorithm's own is an identifier. -/
structure Algorithm.IsPlain (a : Algorithm) : Prop where
  name : isIdentifier a.name = true
  handle : IsWord a.handle.toList
  inputs : ∀ i ∈ a.inputs, IsWord i.name.toList ∧ IsWord i.ident.toList
  outputs : ∀ o ∈ a.outputs, IsWord o.name.toList ∧ IsWord o.ident.toList
  parameters : ∀ p ∈ a.parameters, IsWord p.name.toList

theorem Algorithm.isPlain_of_ofDescriptor {s : Settings} {d : Descriptor} {a : Algorithm}
    (hd : d.HasIdentifiers) (hs : s.HasIdentifierPrefixes)
    (ha : Algorithm.ofDescriptor s d = .ok a) : a.IsPlain := by
  unfold Algorithm.ofDescriptor at ha
  split at ha
  · cases ha
  · cases ha
    refine ⟨hd.name, hs.isWord_handle hd, ?_, ?_, ?_⟩
    · intro i hi
      obtain ⟨p, hp, rfl⟩ := List.mem_map.1 hi
      exact ⟨isWord_of_isIdentifier (hd.inputs p hp), isWord_slot hs.input (hd.inputs p hp)⟩
    · intro o ho
      obtain ⟨p, hp, rfl⟩ := List.mem_map.1 ho
      exact ⟨isWord_of_isIdentifier (hd.outputs p hp), isWord_slot hs.output (hd.outputs p hp)⟩
    · intro p hp
      exact isWord_of_isIdentifier (hd.parameters p hp)

namespace Native

/-- Native types have no mark of a call, and no comma. -/
theorem nativeType_marks (t : Tag) :
    ∀ c ∈ (nativeType t).toList, c ≠ '(' ∧ c ≠ '-' ∧ c ≠ ',' := by
  cases t <;> simp [nativeType, Tag.native?]

theorem mem_valueType {native : String} {c : Char} (h : c ∈ (valueType native).toList) :
    c ∈ native.toList := by
  rw [valueType, String.toList_ofList] at h
  exact (List.mem_filter.1 h).1

/-! ## Methods -/

/-- What the names and types of a statement are made of. -/
def Statement.IsPlain : Statement → Prop
  | .create handle algorithm parameters =>
    IsWord handle.toList ∧ IsWord algorithm.toList ∧ ∀ p ∈ parameters, IsWord p.toList
  | .destroy handle => IsWord handle.toList
  | .configure handle parameters => IsWord handle.toList ∧ ∀ p ∈ parameters, IsWord p.toList
  | .bindInput handle name ident =>
    IsWord handle.toList ∧ IsWord name.toList ∧ IsWord ident.toList
  | .declare type ident => (∀ c ∈ type.toList, c ≠ '(' ∧ c ≠ '-') ∧ IsWord ident.toList
  | .bindOutput handle name ident =>
    IsWord handle.toList ∧ IsWord name.toList ∧ IsWord ident.toList
  | .compute handle => IsWord handle.toList
  | .beginResult result => IsWord result.toList
  | .setResult result name ident =>
    IsWord result.toList ∧ IsWord name.toList ∧ IsWord ident.toList
  | .giveResult result => IsWord result.toList
  | .reset handle => IsWord handle.toList

/-- The statements of all methods in order. -/
def statements (a : Algorithm) (s : Settings) (sig : Signature) (outputs : List Local) :
    List Statement :=
  (methods a s sig outputs).flatMap (·.body)

theorem mem_statements {a : Algorithm} {s : Settings} {sig : Signature} {outputs : List Local}
    {st : Statement} :
    st ∈ statements a s sig outputs ↔
      st = creation a ∨ st = .destroy a.handle ∨ st ∈ reconfiguration a s ∨
        st ∈ computation a outputs ∨ st = .reset a.handle := by
  simp [statements, methods]

/-- Reconfiguring a handle is making it anew or configuring it. -/
theorem mem_reconfiguration {a : Algorithm} {s : Settings} {st : Statement}
    (h : st ∈ reconfiguration a s) :
    st = .destroy a.handle ∨ st = creation a ∨ st = .configure a.handle (parameterNames a) := by
  unfold reconfiguration at h
  split at h
  · simp only [List.mem_cons, List.not_mem_nil, or_false] at h
    exact h.imp_right .inl
  · exact .inr (.inr (List.mem_singleton.1 h))

theorem mem_computation {a : Algorithm} {st : Statement} :
    st ∈ computation a (a.outputs.map outputLocal) ↔
      (∃ i ∈ a.inputs, st = .bindInput a.handle i.name i.ident) ∨
        (∃ o ∈ a.outputs, st = .declare (valueType (nativeType o.tag)) o.ident) ∨
        (∃ o ∈ a.outputs, st = .bindOutput a.handle o.name o.ident) ∨
        st = .compute a.handle ∨ st = .beginResult (resultName a) ∨
        (∃ o ∈ a.outputs, st = .setResult (resultName a) o.name o.ident) ∨
        st = .giveResult (resultName a) := by
  simp only [computation, List.map_map, List.mem_append, List.mem_map, List.mem_cons,
    List.not_mem_nil, or_false, Function.comp_apply, or_assoc, eq_comm]
  rfl

theorem isWord_resultName {a : Algorithm} (ha : isIdentifier a.name = true) :
    IsWord (resultName a).toList := by
  rw [resultName, String.toList_append, isWord_append]
  exact ⟨isWord_of_all (by decide), isWord_of_isIdentifier ha⟩

theorem isPlain_of_mem_computation {a : Algorithm} (ha : a.IsPlain) {st : Statement}
    (h : st ∈ computation a (a.outputs.map outputLocal)) : st.IsPlain := by
  have hresult := isWord_resultName ha.name
  rcases mem_computation.1 h with
    ⟨i, hi, rfl⟩ | ⟨o, ho, rfl⟩ | ⟨o, ho, rfl⟩ | rfl | rfl | ⟨o, ho, rfl⟩ | rfl
  · exact ⟨ha.handle, ha.inputs i hi⟩
  · refine ⟨fun c hc => ?_, (ha.outputs o ho).2⟩
    have hmarks := nativeType_marks o.tag c (mem_valueType hc)
    exact ⟨hmarks.1, hmarks.2.1⟩
  · exact ⟨ha.handle, ha.outputs o ho⟩
  · exact ha.handle
  · exact hresult
  · exact ⟨hresult, ha.outputs o ho⟩
  · exact hresult

theorem isPlain_of_mem_statements {a : Algorithm} (ha : a.IsPlain) {s : Settings}
    {sig : Signature} {st : Statement}
    (h : st ∈ statements a s sig (a.outputs.map outputLocal)) : st.IsPlain := by
  have hparams : ∀ p ∈ parameterNames a, IsWord p.toList := by
    intro p hp
    obtain ⟨q, hq, rfl⟩ := List.mem_map.1 hp
    exact ha.parameters q hq
  have hcreation : (creation a).IsPlain := ⟨ha.handle, isWord_of_isIdentifier ha.name, hparams⟩
  rcases mem_statements.1 h with rfl | rfl | h | h | rfl
  · exact hcreation
  · exact ha.handle
  · rcases mem_reconfiguration h with rfl | rfl | rfl
    · exact ha.handle
    · exact hcreation
    · exact ⟨ha.handle, hparams⟩
  · exact isPlain_of_mem_computation ha h
  · exact ha.handle

/-! ## Calls -/

/-- The arguments of the factory's call. -/
def factoryArguments (algorithm : String) (parameters : List String) : String :=
  "\"" ++ algorithm ++ "\"" ++
    if parameters.isEmpty then "" else ", " ++ namedArguments parameters

/-- Named arguments are made of names, quotes, commas and blanks. -/
theorem mem_namedArguments {ps : List String} {c : Char} (h : c ∈ (namedArguments ps).toList) :
    c = '"' ∨ c = ',' ∨ c = ' ' ∨ ∃ p ∈ ps, c ∈ p.toList := by
  induction ps with
  | nil => simp [namedArguments] at h
  | cons p ps ih =>
      cases ps with
      | nil =>
          simp [namedArguments] at h
          grind
      | cons q ps =>
          simp only [namedArguments, List.map_cons, String.intercalate_cons_cons] at h ih
          simp at h ih
          grind

theorem not_mem_namedArguments {ps : List String} (hps : ∀ p ∈ ps, IsWord p.toList) {c : Char}
    (hword : continuesIdentifier c = false) (hmark : c ≠ '"' ∧ c ≠ ',' ∧ c ≠ ' ') :
    c ∉ (namedArguments ps).toList := by
  intro h
  rcases mem_namedArguments h with rfl | rfl | rfl | ⟨p, hp, hc⟩
  · exact hmark.1 rfl
  · exact hmark.2.1 rfl
  · exact hmark.2.2 rfl
  · exact (hps p hp).not_mem hword hc

/-- Two colons stand in creations, in declarations, and where a result begins. -/
theorem Statement.eq_of_colon {st : Statement} (hst : st.IsPlain) (h : ':' ∈ st.text.toList) :
    (∃ handle algorithm parameters, st = .create handle algorithm parameters) ∨
      (∃ type ident, st = .declare type ident) ∨ ∃ result, st = .beginResult result := by
  have hword : ∀ {w : String}, IsWord w.toList → ':' ∉ w.toList :=
    fun hw => hw.not_mem (by decide)
  cases st with
  | create handle algorithm parameters => exact .inl ⟨handle, algorithm, parameters, rfl⟩
  | declare type ident => exact .inr (.inl ⟨type, ident, rfl⟩)
  | beginResult result => exact .inr (.inr ⟨result, rfl⟩)
  | configure handle parameters =>
      have hps := not_mem_namedArguments hst.2 (c := ':') (by decide) (by decide)
      simp [Statement.text, hword hst.1, hps] at h
  | bindInput handle name ident =>
      simp [Statement.text, hword hst.1, hword hst.2.1, hword hst.2.2] at h
  | bindOutput handle name ident =>
      simp [Statement.text, hword hst.1, hword hst.2.1, hword hst.2.2] at h
  | setResult result name ident =>
      simp [Statement.text, hword hst.1, hword hst.2.1, hword hst.2.2] at h
  | destroy handle => simp [Statement.text, hword hst] at h
  | compute handle => simp [Statement.text, hword hst] at h
  | giveResult result => simp [Statement.text, hword hst] at h
  | reset handle => simp [Statement.text, hword hst] at h

theorem factoryCall_eq (algorithm : String) (parameters : List String) :
    factoryCall algorithm parameters =
      "AlgorithmFactory::create" ++ "(" ++ factoryArguments algorithm parameters ++ ")" := by
  have hquote : "AlgorithmFactory::create(\"" = "AlgorithmFactory::create" ++ "(" ++ "\"" := by
    simp
  unfold factoryCall factoryArguments
  rw [hquote]
  simp only [String.append_assoc]

/-- A call of the factory has nothing but the arguments of a creation. -/
theorem Statement.eq_create_of_text {st : Statement} (hst : st.IsPlain)
    {before arguments : String}
    (h : before ++ "AlgorithmFactory::create" ++ "(" ++ arguments ++ ");" = "\t" ++ st.text) :
    ∃ handle algorithm parameters, st = .create handle algorithm parameters ∧
      arguments = factoryArguments algorithm parameters := by
  have hcolon : ':' ∈ st.text.toList := by
    have hmem : ':' ∈ ("\t" ++ st.text).toList := by simp [← h]
    simpa using hmem
  have hlist := String.toList_inj.2 h
  rcases Statement.eq_of_colon hst hcolon with ⟨handle, algorithm, parameters, rfl⟩ |
    ⟨type, ident, rfl⟩ | ⟨result, rfl⟩
  · have hhandle : '(' ∉ handle.toList := hst.1.not_mem (by decide)
    have halgorithm : '(' ∉ algorithm.toList := hst.2.1.not_mem (by decide)
    have hps := not_mem_namedArguments hst.2.2 (c := '(') (by decide) (by decide)
    have hcall : (before ++ "AlgorithmFactory::create").toList ++
          '(' :: (arguments.toList ++ [')', ';']) =
        ("\t" ++ handle ++ " = AlgorithmFactory::create").toList ++
          '(' :: ((factoryArguments algorithm parameters).toList ++ [')', ';']) := by
      simpa [Statement.text, factoryCall_eq] using hlist
    have hbefore : '(' ∉ ("\t" ++ handle ++ " = AlgorithmFactory::create").toList := by
      simp [hhandle]
    have hafter : '(' ∉ (factoryArguments algorithm parameters).toList ++ [')', ';'] := by
      unfold factoryArguments
      split <;> simp [halgorithm, hps]
    have harguments := (eq_of_one_mark hbefore hafter hcall).2
    exact ⟨handle, algorithm, parameters, rfl,
      String.toList_inj.1 (List.append_cancel_right harguments)⟩
  · have hparen : '(' ∉ ("\t" ++ (Statement.declare type ident).text).toList := by
      have htype : '(' ∉ type.toList := fun hc => (hst.1 _ hc).1 rfl
      have hident : '(' ∉ ident.toList := hst.2.not_mem (by decide)
      simp [Statement.text, htype, hident]
    simp [← h] at hparen
  -- Where a result begins there are two parentheses; the factory's name stands before neither.
  · have hresult : '(' ∉ ("\tval " ++ result).toList := by
      have hword : '(' ∉ result.toList := IsWord.not_mem hst (by decide)
      simp [hword]
    have hcall : (before ++ "AlgorithmFactory::create").toList ++
          '(' :: (arguments.toList ++ [')', ';']) =
        ("\tval " ++ result).toList ++ '(' :: "val::object());".toList := by
      simpa [Statement.text, resultType] using hlist
    rcases eq_or_of_first_mark hresult hcall with ⟨hhead, -⟩ | ⟨z, hhead, hz⟩
    · have hmark : ':' ∉ ("\tval " ++ result).toList := by
        have hword : ':' ∉ result.toList := IsWord.not_mem hst (by decide)
        simp [hword]
      simp [← hhead] at hmark
    · have hinner : z = "val::object".toList :=
        (eq_of_one_mark (by decide) (by decide) (v := [')', ')', ';']) hz).1
      rw [hinner] at hhead
      have hlast := congrArg List.reverse hhead
      simp at hlast

theorem Statement.eq_configure_of_text {st : Statement} (hst : st.IsPlain)
    {before arguments : String}
    (h : before ++ "->configure" ++ "(" ++ arguments ++ ");" = "\t" ++ st.text) :
    ∃ handle parameters, st = .configure handle parameters ∧
      arguments = namedArguments parameters := by
  have hdash : '-' ∈ st.text.toList := by
    have hmem : '-' ∈ ("\t" ++ st.text).toList := by simp [← h]
    simpa using hmem
  have hword : ∀ {w : String}, IsWord w.toList → '-' ∉ w.toList :=
    fun hw => hw.not_mem (by decide)
  -- What follows the only dash shows which method of the handle is called.
  have hcall : ∀ {w : String} (rest : List Char), IsWord w.toList → '-' ∉ rest →
      ("\t" ++ st.text).toList = ("\t" ++ w).toList ++ '-' :: rest →
      ">configure(".toList ++ (arguments.toList ++ [')', ';']) = rest := by
    intro w rest hw hrest heq
    have hbefore : '-' ∉ ("\t" ++ w).toList := by simp [hword hw]
    refine (eq_of_one_mark hbefore hrest (x := before.toList) ?_).2
    rw [← heq, ← h]
    simp
  cases st with
  | create handle algorithm parameters =>
      have hps := not_mem_namedArguments hst.2.2 (c := '-') (by decide) (by decide)
      have hsuffix : '-' ∉ (factoryArguments algorithm parameters).toList := by
        unfold factoryArguments
        split <;> simp [hword hst.2.1, hps]
      simp [Statement.text, factoryCall_eq, hword hst.1, hsuffix] at hdash
  | destroy handle => simp [Statement.text, hword hst] at hdash
  | configure handle parameters =>
      have hps := not_mem_namedArguments hst.2 (c := '-') (by decide) (by decide)
      have harguments := hcall (">configure(".toList ++ ((namedArguments parameters).toList ++
        [')', ';'])) hst.1 (by simp [hps]) (by simp [Statement.text])
      have hinner := List.append_cancel_left harguments
      exact ⟨handle, parameters, rfl, String.toList_inj.1 (List.append_cancel_right hinner)⟩
  | bindInput handle name ident =>
      have hslot := hcall
        (">input(\"".toList ++ name.toList ++ "\").set(".toList ++ ident.toList ++ [')', ';'])
        hst.1 (by simp [hword hst.2.1, hword hst.2.2]) (by simp [Statement.text])
      simp at hslot
  | declare type ident =>
      have htype : '-' ∉ type.toList := fun hc => (hst.1 _ hc).2 rfl
      simp [Statement.text, htype, hword hst.2] at hdash
  | bindOutput handle name ident =>
      have hslot := hcall
        (">output(\"".toList ++ name.toList ++ "\").set(".toList ++ ident.toList ++ [')', ';'])
        hst.1 (by simp [hword hst.2.1, hword hst.2.2]) (by simp [Statement.text])
      simp at hslot
  | compute handle =>
      have hrun := hcall ">compute();".toList hst (by decide) (by simp [Statement.text])
      simp at hrun
  | beginResult result => simp [Statement.text, resultType, hword hst] at hdash
  | setResult result name ident =>
      simp [Statement.text, hword hst.1, hword hst.2.1, hword hst.2.2] at hdash
  | giveResult result => simp [Statement.text, hword hst] at hdash
  | reset handle =>
      have hrun := hcall ">reset();".toList hst (by decide) (by simp [Statement.text])
      simp at hrun

/-! ## Lines of definitions -/

variable {a : Algorithm} {s : Settings} {sig : Signature} {outputs : List Local} {l : String}

theorem mem_definitionLines :
    l ∈ definitionLines a s sig outputs ↔
      l = "// START " ++ a.name ++ " definitions" ∨ l = "// check " ++ s.referenceUrl a.name ∨
        (∃ m ∈ methods a s sig outputs, l = m.head ++ " \x7b") ∨
        (∃ st ∈ statements a s sig outputs, l = "\t" ++ st.text) ∨ l = "\x7d" ∨
        l = "// END " ++ a.name ++ " definitions" := by
  have hmethods : l ∈ (methods a s sig outputs).flatMap Method.lines ↔
      (∃ m ∈ methods a s sig outputs, l = m.head ++ " \x7b") ∨
        (∃ st ∈ statements a s sig outputs, l = "\t" ++ st.text) ∨ l = "\x7d" := by
    simp only [statements, Method.lines, List.mem_flatMap, List.mem_append, List.mem_cons,
      List.mem_map, List.not_mem_nil, or_false]
    constructor
    · intro h
      obtain ⟨m, hm, (hl | ⟨st, hst, hl⟩) | hl⟩ := h
      · exact .inl ⟨m, hm, hl⟩
      · exact .inr (.inl ⟨st, ⟨m, hm, hst⟩, hl.symm⟩)
      · exact .inr (.inr hl)
    · intro h
      rcases h with ⟨m, hm, hl⟩ | ⟨st, ⟨m, hm, hst⟩, hl⟩ | hl
      · exact ⟨m, hm, .inl (.inl hl)⟩
      · exact ⟨m, hm, .inl (.inr ⟨st, hst, hl.symm⟩)⟩
      · exact ⟨_, List.mem_cons_self, .inr hl⟩
  simp only [definitionLines, List.mem_append, List.mem_cons, List.not_mem_nil, or_false, hmethods,
    or_assoc]

/-- Of the lines that define a class only statements end in a semicolon. -/
theorem exists_statement_of_mem_definitionLines (h : l ++ ";" ∈ definitionLines a s sig outputs) :
    ∃ st ∈ statements a s sig outputs, l ++ ";" = "\t" ++ st.text := by
  have hend : ∀ {t : String}, l ++ ";" = t → t.toList.reverse.head? = some ';' := by
    intro t ht
    simp [← ht]
  rcases mem_definitionLines.1 h with hl | hl | ⟨m, -, hl⟩ | hst | hl | hl
  · simpa using hend hl
  · simpa [Settings.referenceUrl] using hend hl
  · simpa using hend hl
  · exact hst
  · simpa using hend hl
  · simpa using hend hl

theorem create_mem_statements {handle algorithm : String} {parameters : List String} :
    .create handle algorithm parameters ∈ statements a s sig outputs ↔
      handle = a.handle ∧ algorithm = a.name ∧ parameters = parameterNames a := by
  simp only [mem_statements, reconfiguration, creation, computation, List.mem_append, List.mem_map,
    List.mem_cons, List.not_mem_nil, or_false]
  split <;> simp

theorem configure_mem_statements {handle : String} {parameters : List String} :
    .configure handle parameters ∈ statements a s sig outputs ↔
      handle = a.handle ∧ parameters = parameterNames a ∧
        (a.hasParameters && s.recreates a.name) = false := by
  simp only [mem_statements, reconfiguration, creation, computation, List.mem_append, List.mem_map,
    List.mem_cons, List.not_mem_nil, or_false]
  split <;> simp_all

/-- A call at the end of a line is a statement. -/
theorem calls_definitionLines {callee arguments : String} :
    Calls (definitionLines a s sig outputs) callee arguments ↔
      ∃ before, ∃ st ∈ statements a s sig outputs,
        before ++ callee ++ "(" ++ arguments ++ ");" = "\t" ++ st.text := by
  constructor
  · intro h
    obtain ⟨before, hline⟩ := h
    rw [append_close] at hline
    obtain ⟨st, hst, htext⟩ := exists_statement_of_mem_definitionLines hline
    exact ⟨before, st, hst, (append_close _).trans htext⟩
  · intro h
    obtain ⟨before, st, hst, htext⟩ := h
    exact ⟨before, mem_definitionLines.2 (.inr (.inr (.inr (.inl ⟨st, hst, htext⟩))))⟩

theorem calls_create (ha : a.IsPlain) {arguments : String} :
    Calls (definitionLines a s sig (a.outputs.map outputLocal)) "AlgorithmFactory::create"
        arguments ↔
      arguments = factoryArguments a.name (parameterNames a) := by
  rw [calls_definitionLines]
  constructor
  · intro h
    obtain ⟨before, st, hst, htext⟩ := h
    obtain ⟨handle, algorithm, parameters, rfl, harguments⟩ :=
      Statement.eq_create_of_text (isPlain_of_mem_statements ha hst) htext
    obtain ⟨-, halgorithm, hparameters⟩ := create_mem_statements.1 hst
    rw [harguments, halgorithm, hparameters]
  · intro h
    refine ⟨"\t" ++ a.handle ++ " = ", creation a, mem_statements.2 (.inl rfl), ?_⟩
    rw [h, creation, Statement.text, factoryCall_eq]
    simp [← String.toList_inj]

/-- The handle is configured in place unless it is made anew. -/
theorem calls_configure (ha : a.IsPlain) {arguments : String} :
    Calls (definitionLines a s sig (a.outputs.map outputLocal)) "->configure" arguments ↔
      arguments = namedArguments (parameterNames a) ∧
        (a.hasParameters && s.recreates a.name) = false := by
  rw [calls_definitionLines]
  constructor
  · intro h
    obtain ⟨before, st, hst, htext⟩ := h
    obtain ⟨handle, parameters, rfl, harguments⟩ :=
      Statement.eq_configure_of_text (isPlain_of_mem_statements ha hst) htext
    obtain ⟨-, hparameters, hplace⟩ := configure_mem_statements.1 hst
    exact ⟨by rw [harguments, hparameters], hplace⟩
  · intro h
    obtain ⟨rfl, hplace⟩ := h
    refine ⟨"\t" ++ a.handle, _, configure_mem_statements.2 ⟨rfl, rfl, hplace⟩, ?_⟩
    simp [← String.toList_inj, Statement.text]

end Native

end Bindery
