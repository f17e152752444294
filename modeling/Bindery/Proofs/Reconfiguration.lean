import Bindery.Proofs.Footprint

/-!
# Reconfiguration

Most handles take new values of their parameters in place. Those that settings list are
deleted and made anew instead, which needs parameters to be worth it. A reader of a
definition takes the bodies of the methods from its lines: `configure` either does what
the destructor and then the constructor do, or hands the list of the constructor on to
the handle. Nothing outside its body depends on that choice.
-/

namespace Bindery.Native

/-! ## Reading bodies -/

/-- The bodies of a class's methods, line by line. -/
structure Bodies where
  creation : List String
  destruction : List String
  configuration : List String
  computation : List String
  reset : List String
deriving DecidableEq

/-- The head of `configure` up to its arguments. -/
def configurationHead (name : String) : String := "void " ++ name ++ "::configure("

/-- The lines between the head that begins with `start` and the brace that closes its body. -/
def bodyOf? (start : String) (lines : List String) : Option (List String) :=
  (block? start "\x7d" lines).map (·.2)

def bodies? (name : String) (lines : List String) : Option Bodies := do
  return {
    creation := ← bodyOf? (name ++ "::" ++ name ++ "(") lines
    destruction := ← bodyOf? (name ++ "::~" ++ name ++ "(") lines
    configuration := ← bodyOf? (configurationHead name) lines
    computation := ← bodyOf? ("val " ++ name ++ "::compute(") lines
    reset := ← bodyOf? ("void " ++ name ++ "::reset(") lines }

/-- The line is a call of the handle's `configure`. -/
def configures (handle line : String) : Bool :=
  ("\t" ++ handle ++ "->configure(").toList.isPrefixOf line.toList

/-- The line deletes the handle, under its condition or without one. -/
def deletes (handle line : String) : Bool :=
  ("\tif (" ++ handle ++ ") delete ").toList.isPrefixOf line.toList ||
    ("\tdelete " ++ handle ++ ";").toList.isPrefixOf line.toList

variable {a : Algorithm} {s : Settings} {sig : Signature} {outputs : List Local}

section Reading

variable (ha : isIdentifier a.name = true)
include ha

theorem bodyOf?_constructor :
    bodyOf? (a.name ++ "::" ++ a.name ++ "(") (definitionLines a s sig outputs) =
      some ["\t" ++ (creation a).text] := by
  obtain ⟨c, rest, hname, hc⟩ := exists_cons_of_isIdentifier ha
  have hmethods : methods a s sig outputs = [] ++ _ :: [_, _, _, _] := rfl
  rw [bodyOf?, block?_method hmethods (by simp [hname]; rfl) hc (by simp) (by simp)]
  rfl

theorem bodyOf?_destructor :
    bodyOf? (a.name ++ "::~" ++ a.name ++ "(") (definitionLines a s sig outputs) =
      some ["\t" ++ (Statement.destroy a.handle).text] := by
  have hword := isWord_of_isIdentifier ha
  obtain ⟨c, rest, hname, hc⟩ := exists_cons_of_isIdentifier ha
  have hmethods : methods a s sig outputs = [_] ++ _ :: [_, _, _] := rfl
  rw [bodyOf?, block?_method hmethods (by simp [hname]; rfl) hc ?_ (by simp)]
  · rfl
  · intro m hm hbegins
    obtain ⟨tail, htail⟩ := hbegins
    rw [List.mem_singleton.1 hm] at htail
    simp at htail
    exact hword.append_ne [] rfl (by decide) (by decide) (by decide) htail.symm

/-- Before `configure` no method begins like it. -/
theorem not_prefix_configurationHead : ∀ m ∈ (methods a s sig outputs).take 2,
    ¬ (configurationHead a.name).toList <+: (m.head ++ " \x7b").toList := by
  have hword := isWord_of_isIdentifier ha
  intro m hm hbegins
  obtain ⟨tail, htail⟩ := hbegins
  simp only [methods, List.take, List.mem_cons, List.not_mem_nil, or_false] at hm
  rcases hm with rfl | rfl
  all_goals simp [configurationHead] at htail
  · exact word_ne_void hword (by decide) (by decide) htail.symm
  · exact word_ne_void hword (by decide) (by decide) htail.symm

theorem bodyOf?_configuration :
    bodyOf? (configurationHead a.name) (definitionLines a s sig outputs) =
      some ((reconfiguration a s).map fun st => "\t" ++ st.text) := by
  have hmethods : methods a s sig outputs = (methods a s sig outputs).take 2 ++ _ :: [_, _] := rfl
  rw [bodyOf?, block?_method hmethods (c := 'v') (by simp [configurationHead]; rfl) (by decide)
    (not_prefix_configurationHead ha) (by simp [configurationHead])]
  rfl

/-- What settings say of a name reaches nothing but the body of `configure`. -/
theorem aroundBlock_definitionLines (names : List String) :
    aroundBlock (configurationHead a.name) "\x7d"
        (definitionLines a { s with recreated := names } sig outputs) =
      aroundBlock (configurationHead a.name) "\x7d" (definitionLines a s sig outputs) := by
  have haround : ∀ s : Settings, aroundBlock (configurationHead a.name) "\x7d"
      (definitionLines a s sig outputs) = linesBefore a s ((methods a s sig outputs).take 2) ++
        (configurationHead a.name ++ argumentList (sig.parameters.map Argument.plain) ++ ")" ++
          " \x7b") :: "\x7d" :: linesAfter a ((methods a s sig outputs).drop 3) := by
    intro s
    have hmethods : methods a s sig outputs = (methods a s sig outputs).take 2 ++ _ ::
      (methods a s sig outputs).drop 3 := rfl
    exact aroundBlock_method hmethods (c := 'v') (by simp [configurationHead]; rfl) (by decide)
      (not_prefix_configurationHead ha) (by simp [configurationHead])
  rw [haround, haround]
  rfl

theorem bodyOf?_computation :
    bodyOf? ("val " ++ a.name ++ "::compute(") (definitionLines a s sig outputs) =
      some ((computation a outputs).map fun st => "\t" ++ st.text) := by
  rw [bodyOf?, block?_definitionLines ha]
  rfl

theorem bodyOf?_reset :
    bodyOf? ("void " ++ a.name ++ "::reset(") (definitionLines a s sig outputs) =
      some ["\t" ++ (Statement.reset a.handle).text] := by
  have hword := isWord_of_isIdentifier ha
  have hmethods : methods a s sig outputs = [_, _, _, _] ++ _ :: [] := rfl
  rw [bodyOf?, block?_method hmethods (c := 'v') (by simp; rfl) (by decide) ?_ (by simp)]
  · rfl
  · intro m hm hbegins
    obtain ⟨tail, htail⟩ := hbegins
    simp only [List.mem_cons, List.not_mem_nil, or_false] at hm
    rcases hm with rfl | rfl | rfl | rfl
    all_goals simp [resultType] at htail
    · exact word_ne_void hword (by decide) (by decide) htail.symm
    · exact word_ne_void hword (by decide) (by decide) htail.symm

theorem bodies?_definitionLines :
    bodies? a.name (definitionLines a s sig outputs) = some {
      creation := ["\t" ++ (creation a).text]
      destruction := ["\t" ++ (Statement.destroy a.handle).text]
      configuration := (reconfiguration a s).map fun st => "\t" ++ st.text
      computation := (computation a outputs).map fun st => "\t" ++ st.text
      reset := ["\t" ++ (Statement.reset a.handle).text] } := by
  simp only [bodies?, bodyOf?_constructor ha, bodyOf?_destructor ha, bodyOf?_configuration ha,
    bodyOf?_computation ha, bodyOf?_reset ha]
  rfl

end Reading

/-! ## Calls and deletions -/

theorem statements_eq : statements a s sig outputs = creation a :: .destroy a.handle ::
    (reconfiguration a s ++ (computation a outputs ++ [.reset a.handle])) := by
  simp [statements, methods]

/-- Only statements are indented. -/
theorem filter_definitionLines (ha : isIdentifier a.name = true) {p : String → Bool}
    (hp : ∀ l, p l = true → l.toList.head? = some '\t') :
    (definitionLines a s sig outputs).filter p =
      ((statements a s sig outputs).map fun st => "\t" ++ st.text).filter p := by
  have hnone : ∀ {l : String}, l.toList.head? ≠ some '\t' → ¬ p l = true :=
    fun hl h => hl (hp _ h)
  have hhead : ∀ m ∈ methods a s sig outputs, ¬ p (m.head ++ " \x7b") = true := by
    intro m hm
    obtain ⟨c, rest, hline, hc⟩ := exists_cons_head ha hm
    have htab : c ≠ '\t' := by
      rintro rfl
      exact absurd hc (by decide)
    exact hnone (by simpa [hline] using htab)
  have hmethod : ∀ m ∈ methods a s sig outputs, m.lines.filter p = m.bodyLines.filter p := by
    intro m hm
    rw [Method.lines, List.filter_append, List.filter_cons_of_neg (hhead m hm),
      List.filter_cons_of_neg (hnone (by decide)), List.filter_nil, List.append_nil]
    rfl
  have hmarks : ["// START " ++ a.name ++ " definitions",
      "// check " ++ s.referenceUrl a.name].filter p = [] := by
    rw [List.filter_cons_of_neg (hnone (by simp)), List.filter_cons_of_neg (hnone (by simp)),
      List.filter_nil]
  rw [definitionLines, List.filter_append, List.filter_append, hmarks, List.filter_flatMap,
    List.flatMap_congr hmethod, List.filter_cons_of_neg (hnone (by simp)), List.filter_nil,
    List.append_nil, List.nil_append, statements, List.map_flatMap, List.filter_flatMap]
  rfl

section Lines

variable {handle : String} {l : String} {w r : List Char} {c : Char}

/-- The line is a tab, a word, and what follows behind the word's end. -/
def BeginsWith (l : String) (w : List Char) (c : Char) (r : List Char) : Prop :=
  l.toList = '\t' :: (w ++ c :: r) ∧ IsWord w ∧ continuesIdentifier c = false

theorem configures_iff (hl : BeginsWith l w c r) (hhandle : IsWord handle.toList) :
    configures handle l = true ↔
      w = handle.toList ∧ c = '-' ∧ ">configure(".toList <+: r := by
  have hcall : ("\t" ++ handle ++ "->configure(").toList =
      '\t' :: (handle.toList ++ '-' :: ">configure(".toList) := by
    simp
  rw [configures, List.isPrefixOf_iff_prefix, hl.1, hcall]
  constructor
  · rintro ⟨tail, htail⟩
    rw [List.cons_append, List.append_assoc, List.cons_append] at htail
    obtain ⟨hw, hmark, hrest⟩ :=
      hhandle.append_inj hl.2.1 (by decide) hl.2.2 (List.cons.inj htail).2
    exact ⟨hw.symm, hmark.symm, tail, hrest⟩
  · rintro ⟨rfl, rfl, tail, rfl⟩
    exact ⟨tail, by simp⟩

theorem deletes_cases (hl : BeginsWith l w c r) (h : deletes handle l = true) :
    c = ' ' ∧ ((w = "if".toList ∧ ['('] <+: r) ∨
      (w = "delete".toList ∧ handle.toList ++ [';'] <+: r)) := by
  have hif : IsWord "if".toList := isWord_of_all (by decide)
  have hdelete : IsWord "delete".toList := isWord_of_all (by decide)
  rw [deletes, Bool.or_eq_true, List.isPrefixOf_iff_prefix, List.isPrefixOf_iff_prefix, hl.1] at h
  rcases h with ⟨tail, htail⟩ | ⟨tail, htail⟩
  · have hline : "if".toList ++ ' ' :: '(' :: (handle.toList ++ ") delete ".toList ++ tail) =
        w ++ c :: r := by
      simpa using htail
    obtain ⟨hw, hmark, hrest⟩ := hif.append_inj hl.2.1 (by decide) hl.2.2 hline
    exact ⟨hmark.symm, .inl ⟨hw.symm, _, hrest⟩⟩
  · have hline : "delete".toList ++ ' ' :: (handle.toList ++ [';'] ++ tail) = w ++ c :: r := by
      simpa using htail
    obtain ⟨hw, hmark, hrest⟩ := hdelete.append_inj hl.2.1 (by decide) hl.2.2 hline
    exact ⟨hmark.symm, .inr ⟨hw.symm, _, hrest⟩⟩

/-- The line neither configures the handle nor deletes it. -/
def IsOther (handle l : String) : Prop := ¬ configures handle l = true ∧ ¬ deletes handle l = true

/-- Another method of the handle is called. -/
theorem isOther_call (hhandle : IsWord handle.toList) {rest : String}
    (hrest : ¬ "configure(".toList <+: rest.toList) :
    IsOther handle ("\t" ++ (handle ++ "->" ++ rest)) := by
  have hl : BeginsWith ("\t" ++ (handle ++ "->" ++ rest)) handle.toList '-'
      ('>' :: rest.toList) := ⟨by simp, hhandle, by decide⟩
  constructor
  · intro h
    obtain ⟨-, -, tail, htail⟩ := (configures_iff hl hhandle).1 h
    exact hrest ⟨tail, (List.cons.inj htail).2⟩
  · intro h
    exact absurd (deletes_cases hl h).1 (by decide)

/-- The line begins with a word that says something else. -/
theorem isOther_word (hhandle : IsWord handle.toList) (hl : BeginsWith l w c r) (hc : c ≠ '-')
    (hif : w ≠ "if".toList) (hdelete : w ≠ "delete".toList) : IsOther handle l := by
  constructor
  · intro h
    exact hc ((configures_iff hl hhandle).1 h).2.1
  · intro h
    rcases (deletes_cases hl h).2 with ⟨hw, -⟩ | ⟨hw, -⟩
    · exact hif hw
    · exact hdelete hw

end Lines

/-- The first words of types. -/
def typeWords : List (List Char) := ["", "int", "float", "bool", "std"].map String.toList

theorem exists_word_valueType (t : Tag) : ∃ w c rest,
    (valueType (nativeType t) ++ " ").toList = w ++ c :: rest ∧ w ∈ typeWords ∧
      (c = ' ' ∨ c = ':') := by
  let type := (valueType (nativeType t) ++ " ").toList
  have hfirst : type.takeWhile continuesIdentifier ∈ typeWords ∧
      (type.dropWhile continuesIdentifier).head? ∈ [some ' ', some ':'] := by
    cases t with
    | other n =>
        have hnone : nativeType (.other n) = "" := rfl
        simp only [type, hnone]
        decide
    | _ => decide
  obtain ⟨hword, hmark⟩ := hfirst
  have hsplit := List.takeWhile_append_dropWhile (p := continuesIdentifier) (l := type)
  simp only [List.mem_cons, List.not_mem_nil, or_false] at hmark
  rcases hmark with hmark | hmark
  · obtain ⟨rest, hrest⟩ := List.head?_eq_some_iff.1 hmark
    exact ⟨_, ' ', rest, by rw [← hrest, hsplit], hword, .inl rfl⟩
  · obtain ⟨rest, hrest⟩ := List.head?_eq_some_iff.1 hmark
    exact ⟨_, ':', rest, by rw [← hrest, hsplit], hword, .inr rfl⟩

section Statements

variable (ha : isIdentifier a.name = true) (hhandle : IsWord a.handle.toList)
include hhandle

theorem isOther_declare (t : Tag) (ident : String) :
    IsOther a.handle ("\t" ++ (Statement.declare (valueType (nativeType t)) ident).text) := by
  obtain ⟨w, c, rest, htype, hw, hc⟩ := exists_word_valueType t
  have hwords : ∀ w ∈ typeWords, w.all continuesIdentifier = true ∧ w ≠ "if".toList ∧
      w ≠ "delete".toList := by
    decide
  have hline : ("\t" ++ (Statement.declare (valueType (nativeType t)) ident).text).toList =
      '\t' :: (w ++ c :: (rest ++ (ident ++ ";").toList)) := by
    have happend : ("\t" ++ (Statement.declare (valueType (nativeType t)) ident).text).toList =
        '\t' :: ((valueType (nativeType t) ++ " ").toList ++ (ident ++ ";").toList) := by
      simp [Statement.text]
    rw [happend, htype, List.append_assoc, List.cons_append]
  have hmark : continuesIdentifier c = false ∧ c ≠ '-' := by
    rcases hc with rfl | rfl <;> decide
  obtain ⟨hword, hif, hdelete⟩ := hwords w hw
  exact isOther_word hhandle ⟨hline, List.all_eq_true.1 hword, hmark.1⟩ hmark.2 hif hdelete

theorem isOther_reset : IsOther a.handle ("\t" ++ (Statement.reset a.handle).text) := by
  have hcall : (Statement.reset a.handle).text = a.handle ++ "->" ++ "reset();" := by
    simp [Statement.text, ← String.toList_inj]
  rw [hcall]
  exact isOther_call hhandle (by decide)

include ha

theorem isOther_of_mem_computation {st : Statement}
    (hst : st ∈ computation a (a.outputs.map outputLocal)) :
    IsOther a.handle ("\t" ++ st.text) := by
  have hresult := isWord_resultName ha
  rcases mem_computation.1 hst with
    ⟨i, -, rfl⟩ | ⟨o, -, rfl⟩ | ⟨o, -, rfl⟩ | rfl | rfl | ⟨o, -, rfl⟩ | rfl
  · have hcall : (Statement.bindInput a.handle i.name i.ident).text =
        a.handle ++ "->" ++ ("input(\"" ++ i.name ++ "\").set(" ++ i.ident ++ ");") := by
      simp [Statement.text, ← String.toList_inj]
    rw [hcall]
    exact isOther_call hhandle (by simp)
  · exact isOther_declare hhandle o.tag o.ident
  · have hcall : (Statement.bindOutput a.handle o.name o.ident).text =
        a.handle ++ "->" ++ ("output(\"" ++ o.name ++ "\").set(" ++ o.ident ++ ");") := by
      simp [Statement.text, ← String.toList_inj]
    exact hcall ▸ isOther_call hhandle (by simp)
  · have hcall : (Statement.compute a.handle).text = a.handle ++ "->" ++ "compute();" := by
      simp [Statement.text, ← String.toList_inj]
    rw [hcall]
    exact isOther_call hhandle (by decide)
  · have hline : BeginsWith ("\t" ++ (Statement.beginResult (resultName a)).text) "val".toList ' '
        (resultName a ++ "(val::object());").toList :=
      ⟨by simp [Statement.text, resultType], isWord_of_all (by decide), by decide⟩
    exact isOther_word hhandle hline (by decide) (by decide) (by decide)
  · have hline : BeginsWith ("\t" ++ (Statement.setResult (resultName a) o.name o.ident).text)
        (resultName a).toList '.' ("set(\"" ++ o.name ++ "\", " ++ o.ident ++ ");").toList :=
      ⟨by simp [Statement.text], hresult, by decide⟩
    exact isOther_word hhandle hline (by decide) (by simp [resultName]) (by simp [resultName])
  · have hline : BeginsWith ("\t" ++ (Statement.giveResult (resultName a)).text)
        "return".toList ' ' (resultName a ++ ";").toList :=
      ⟨by simp [Statement.text], isWord_of_all (by decide), by decide⟩
    exact isOther_word hhandle hline (by decide) (by decide) (by decide)

omit ha

theorem isOther_creation : IsOther a.handle ("\t" ++ (creation a).text) := by
  have hline : BeginsWith ("\t" ++ (creation a).text) a.handle.toList ' '
      ("= " ++ factoryCall a.name (parameterNames a) ++ ";").toList :=
    ⟨by simp [creation, Statement.text], hhandle, by decide⟩
  constructor
  · intro h
    exact absurd ((configures_iff hline hhandle).1 h).2.1 (by decide)
  · intro h
    rcases (deletes_cases hline h).2 with ⟨-, hbegins⟩ | ⟨hname, hbegins⟩
    · simp at hbegins
    · simp [hname] at hbegins

theorem filter_statements (ha : isIdentifier a.name = true) {p : String → Bool}
    (hp : ∀ l, IsOther a.handle l → ¬ p l = true) :
    ((statements a s sig (a.outputs.map outputLocal)).map fun st => "\t" ++ st.text).filter p =
      ["\t" ++ (Statement.destroy a.handle).text].filter p ++
        ((reconfiguration a s).map fun st => "\t" ++ st.text).filter p := by
  have hcomputation : ((computation a (a.outputs.map outputLocal)).map
      fun st => "\t" ++ st.text).filter p = [] := by
    rw [List.filter_eq_nil_iff, List.forall_mem_map]
    exact fun st hst => hp _ (isOther_of_mem_computation ha hhandle hst)
  have hreset : ["\t" ++ (Statement.reset a.handle).text].filter p = [] := by
    rw [List.filter_cons_of_neg (hp _ (isOther_reset hhandle)), List.filter_nil]
  rw [statements_eq, List.map_cons, List.map_cons, List.map_append, List.map_append,
    List.filter_cons_of_neg (hp _ (isOther_creation hhandle)), ← List.singleton_append,
    List.filter_append, List.filter_append, List.filter_append, hcomputation, List.nil_append,
    List.map_singleton, hreset, List.append_nil]

end Statements

/-! ## Reconfigurations -/

theorem head?_of_configures {handle l : String} (h : configures handle l = true) :
    l.toList.head? = some '\t' := by
  rw [configures, List.isPrefixOf_iff_prefix] at h
  obtain ⟨tail, htail⟩ := h
  simp [← htail]

theorem head?_of_deletes {handle l : String} (h : deletes handle l = true) :
    l.toList.head? = some '\t' := by
  rw [deletes, Bool.or_eq_true, List.isPrefixOf_iff_prefix, List.isPrefixOf_iff_prefix] at h
  rcases h with ⟨tail, htail⟩ | ⟨tail, htail⟩
  · simp [← htail]
  · simp [← htail]

theorem creation_text : "\t" ++ (creation a).text =
    "\t" ++ a.handle ++ " = AlgorithmFactory::create(\"" ++ a.name ++ "\"" ++
      (if a.parameters = [] then "" else ", " ++ namedArguments (a.parameters.map (·.name))) ++
      ");" := by
  simp [← String.toList_inj, creation, Statement.text, factoryCall_eq, factoryArguments,
    parameterNames]

theorem configures_configure (handle : String) (parameters : List String) :
    configures handle ("\t" ++ (Statement.configure handle parameters).text) = true := by
  rw [configures, List.isPrefixOf_iff_prefix]
  simp [Statement.text]

theorem deletes_destroy (handle : String) :
    deletes handle ("\t" ++ (Statement.destroy handle).text) = true := by
  rw [deletes, Bool.or_eq_true, List.isPrefixOf_iff_prefix]
  exact .inl (by simp [Statement.text])

section Choices

variable (ha : isIdentifier a.name = true) (hhandle : IsWord a.handle.toList)
include ha hhandle

theorem filter_configures :
    (definitionLines a s sig (a.outputs.map outputLocal)).filter (configures a.handle) =
      if a.hasParameters && s.recreates a.name then []
      else ["\t" ++ (Statement.configure a.handle (parameterNames a)).text] := by
  have hdestroy : BeginsWith ("\t" ++ (Statement.destroy a.handle).text) "if".toList ' '
      ("(" ++ a.handle ++ ") delete " ++ a.handle ++ ";").toList :=
    ⟨by simp [Statement.text], List.all_eq_true.1 (by decide), by decide⟩
  have hkeeps : ¬ configures a.handle ("\t" ++ (Statement.destroy a.handle).text) = true :=
    fun h => absurd ((configures_iff hdestroy hhandle).1 h).2.1 (by decide)
  rw [filter_definitionLines ha fun _ => head?_of_configures,
    filter_statements hhandle ha fun _ h => h.1, List.filter_cons_of_neg hkeeps]
  unfold reconfiguration
  split
  · rw [List.map_cons, List.map_singleton, List.filter_cons_of_neg hkeeps,
      List.filter_cons_of_neg (isOther_creation hhandle).1]
    rfl
  · rw [List.map_singleton, List.filter_cons_of_pos (configures_configure a.handle _)]
    rfl

/-- In place, nothing but the destructor deletes the handle. -/
theorem filter_deletes (hplace : (a.hasParameters && s.recreates a.name) = false) :
    (definitionLines a s sig (a.outputs.map outputLocal)).filter (deletes a.handle) =
      ["\t" ++ (Statement.destroy a.handle).text] := by
  have hconfigure : BeginsWith ("\t" ++ (Statement.configure a.handle (parameterNames a)).text)
      a.handle.toList '-' (">configure(" ++ namedArguments (parameterNames a) ++ ");").toList :=
    ⟨by simp [Statement.text], hhandle, by decide⟩
  have hkeeps : ¬ deletes a.handle
      ("\t" ++ (Statement.configure a.handle (parameterNames a)).text) = true :=
    fun h => absurd (deletes_cases hconfigure h).1 (by decide)
  rw [filter_definitionLines ha fun _ => head?_of_deletes,
    filter_statements hhandle ha fun _ h => h.2, List.filter_cons_of_pos (deletes_destroy a.handle),
    reconfiguration, hplace, if_neg Bool.false_ne_true, List.map_singleton,
    List.filter_cons_of_neg hkeeps]
  rfl

end Choices

/-! ### Lines that look like calls and deletions -/

/-- A text that is the last word before a semicolon is read from behind. -/
theorem eq_of_last_word {u v x y : List Char} {m : Char} (hm : continuesIdentifier m = false)
    (hx : IsWord x) (hy : IsWord y) (h : u ++ m :: x = v ++ m :: y) : u = v := by
  have hreverse : ∀ {w : List Char}, IsWord w → IsWord w.reverse :=
    fun hw c hc => hw c (List.mem_reverse.1 hc)
  have hback := congrArg List.reverse h
  rw [List.reverse_append, List.reverse_append, List.reverse_cons, List.reverse_cons,
    List.append_assoc, List.append_assoc, List.singleton_append, List.singleton_append] at hback
  exact List.reverse_inj.1 ((hreverse hx).append_inj (hreverse hy) hm hm hback).2.2

theorem not_delete_suffix_type (t : Tag) :
    ¬ "delete".toList <:+ ("\t" ++ valueType (nativeType t)).toList := by
  cases t with
  | other n =>
      have hnone : nativeType (.other n) = "" := rfl
      rw [hnone]
      decide
  | _ => decide

theorem destroy_mem_statements {handle : String}
    (h : .destroy handle ∈ statements a s sig (a.outputs.map outputLocal)) :
    handle = a.handle := by
  rcases mem_statements.1 h with h | h | h | h | h
  · cases h
  · exact Statement.destroy.inj h
  · rcases mem_reconfiguration h with h | h | h
    · exact Statement.destroy.inj h
    · cases h
    · cases h
  · rcases mem_computation.1 h with
      ⟨i, -, h⟩ | ⟨o, -, h⟩ | ⟨o, -, h⟩ | h | h | ⟨o, -, h⟩ | h <;> cases h
  · cases h

theorem declare_mem_statements {type ident : String}
    (h : .declare type ident ∈ statements a s sig (a.outputs.map outputLocal)) :
    ∃ t, type = valueType (nativeType t) := by
  rcases mem_statements.1 h with h | h | h | h | h
  · cases h
  · cases h
  · rcases mem_reconfiguration h with h | h | h <;> cases h
  · rcases mem_computation.1 h with
      ⟨i, -, h⟩ | ⟨o, -, h⟩ | ⟨o, -, h⟩ | h | h | ⟨o, -, h⟩ | h
    case inr.inl => exact ⟨o.tag, (Statement.declare.inj h).1⟩
    all_goals cases h
  · cases h

/-- Of the statements with words for names only a deletion ends like one. -/
theorem eq_destroy_of_text (ha : a.IsPlain) {handle before : String} {st : Statement}
    (hhandle : IsWord handle.toList) (hne : handle ≠ "")
    (hst : st ∈ statements a s sig (a.outputs.map outputLocal))
    (h : before ++ "delete " ++ handle ++ ";" = "\t" ++ st.text) : st = .destroy a.handle := by
  have hplain := isPlain_of_mem_statements ha hst
  have hcall : ∀ t : String, st.text ≠ t ++ ");" := by
    intro t ht
    -- the last character before the semicolon would be one of the handle's
    obtain ⟨init, c, hlast⟩ := (List.eq_nil_or_concat handle.toList).resolve_left
      fun hnil => hne (String.toList_eq_nil_iff.1 hnil)
    have hchars := congrArg (List.reverse ∘ String.toList) (ht ▸ h)
    simp [hlast] at hchars
    exact hhandle.not_mem (c := ')') (by decide) (by simp [hlast, hchars.1])
  have hword : ∀ start ident : String, IsWord ident.toList →
      st.text = start ++ " " ++ ident ++ ";" →
        (before ++ "delete").toList = ("\t" ++ start).toList := by
    intro start ident hident htext
    rw [htext] at h
    have hchars := congrArg String.toList h
    have hlist : (before ++ "delete").toList ++ ' ' :: handle.toList ++ [';'] =
        ("\t" ++ start).toList ++ ' ' :: ident.toList ++ [';'] := by
      simpa using hchars
    exact eq_of_last_word (by decide) hhandle hident (List.append_cancel_right hlist)
  cases st with
  | destroy handle => rw [destroy_mem_statements hst]
  | declare type ident =>
      obtain ⟨t, rfl⟩ := declare_mem_statements hst
      have hbefore := hword _ ident hplain.2 rfl
      refine absurd ⟨before.toList, ?_⟩ (not_delete_suffix_type t)
      rw [← hbefore, String.toList_append]
  | giveResult result =>
      have hbefore := hword "return" result hplain rfl
      have hlast := congrArg List.reverse hbefore
      simp at hlast
  | create handle algorithm parameters =>
      exact absurd (by simp [Statement.text, factoryCall_eq, ← String.toList_inj])
        (hcall (handle ++ " = AlgorithmFactory::create(" ++ factoryArguments algorithm parameters))
  | configure handle parameters =>
      exact absurd rfl (hcall (handle ++ "->configure(" ++ namedArguments parameters))
  | bindInput handle name ident =>
      exact absurd rfl (hcall (handle ++ "->input(\"" ++ name ++ "\").set(" ++ ident))
  | bindOutput handle name ident =>
      exact absurd rfl (hcall (handle ++ "->output(\"" ++ name ++ "\").set(" ++ ident))
  | compute handle =>
      exact absurd (by simp [Statement.text, ← String.toList_inj]) (hcall (handle ++ "->compute("))
  | beginResult result =>
      exact absurd (by simp [Statement.text, ← String.toList_inj])
        (hcall (resultType ++ " " ++ result ++ "(val::object()"))
  | setResult result name ident =>
      exact absurd rfl (hcall (result ++ ".set(\"" ++ name ++ "\", " ++ ident))
  | reset handle =>
      exact absurd (by simp [Statement.text, ← String.toList_inj]) (hcall (handle ++ "->reset("))

/-- With words for names, what ends like a call of `configure` or like a deletion of the handle
is one. -/
theorem isCall_of_text (ha : a.IsPlain) (hne : a.handle ≠ "") (before : String) :
    (∀ arguments, before ++ "->configure" ++ "(" ++ arguments ++ ");" ∈
        definitionLines a s sig (a.outputs.map outputLocal) →
      configures a.handle (before ++ "->configure" ++ "(" ++ arguments ++ ");") = true) ∧
    (before ++ "delete " ++ a.handle ++ ";" ∈
        definitionLines a s sig (a.outputs.map outputLocal) →
      deletes a.handle (before ++ "delete " ++ a.handle ++ ";") = true) := by
  constructor
  · intro arguments hmem
    rw [append_close] at hmem
    obtain ⟨st, hst, htext⟩ := exists_statement_of_mem_definitionLines hmem
    rw [append_close, htext]
    rw [← append_close] at htext
    obtain ⟨handle, parameters, rfl, -⟩ :=
      Statement.eq_configure_of_text (isPlain_of_mem_statements ha hst) htext
    rw [(configure_mem_statements.1 hst).1]
    exact configures_configure a.handle parameters
  · intro hmem
    obtain ⟨st, hst, htext⟩ := exists_statement_of_mem_definitionLines hmem
    rw [htext, eq_destroy_of_text ha ha.handle hne hst htext]
    exact deletes_destroy a.handle

end Bindery.Native

namespace Bindery

open Native (aroundBlock_definitionLines bodies? bodies?_definitionLines configurationHead
  configures deletes namedArguments)

end Bindery
