import Bindery.Proofs.ParameterTypes

/-!
# Blocks of native files

The body of a native file is cut back into the algorithms that it was made from. No line
that is written is blank or has a break in it, so the blank lines of a body are those
between blocks. The marks around a definition are lines of their own kind, and each is
there once.
-/

namespace Bindery

/-! ## Cutting files -/

/-- The lines of a text. -/
def linesOf (text : String) : List String := (text.toList.splitOn '\n').map String.ofList

/-- What is left of a file without the line break at its end, line by line. -/
def bodyLines? (file : String) : Option (List String) := (between? "" "\n" file).map linesOf

/-- The pieces of a file between blank lines. -/
def cut? (file : String) : Option (List (List String)) :=
  (bodyLines? file).map fun lines => lines.splitOn ""

/-- A line that stands alone in a file: it is not blank, and no break is in it. -/
def IsLine (l : String) : Prop := l ≠ "" ∧ '\n' ∉ l.toList

/-- What begins with some text is not blank. -/
theorem isLine_append {before rest : String} (hne : before ≠ "") (hbefore : '\n' ∉ before.toList)
    (hrest : '\n' ∉ rest.toList) : IsLine (before ++ rest) := by
  constructor
  · intro h
    have hlist := congrArg String.toList h
    rw [String.toList_append, String.toList_empty, List.append_eq_nil_iff] at hlist
    exact hne (String.toList_eq_nil_iff.1 hlist.1)
  · rw [String.toList_append, List.mem_append, not_or]
    exact ⟨hbefore, hrest⟩

theorem linesOf_intercalate {ls : List String} (hne : ls ≠ []) (h : ∀ l ∈ ls, '\n' ∉ l.toList) :
    linesOf ("\n".intercalate ls) = ls := by
  have hlines : ("\n".intercalate ls).toList = ['\n'].intercalate (ls.map String.toList) :=
    String.toList_intercalate
  rw [linesOf, hlines, List.splitOn_intercalate '\n' (List.forall_mem_map.2 h) (by simpa using hne),
    List.map_map]
  simp

theorem intercalate_ne_nil {bs : List (List String)} (hne : bs ≠ []) (h : ∀ b ∈ bs, b ≠ []) :
    [""].intercalate bs ≠ [] := by
  cases bs with
  | nil => exact absurd rfl hne
  | cons b rest =>
      rw [List.forall_mem_cons] at h
      cases rest with
      | nil => simpa using h.1
      | cons b' rest => simp [List.intercalate_cons_cons]

/-- Blocks with an empty line between them are the lines of all blocks with a blank one between. -/
theorem intercalate_blocks {bs : List (List String)} (h : ∀ b ∈ bs, b ≠ []) :
    "\n\n".intercalate (bs.map ("\n".intercalate ·)) = "\n".intercalate ([""].intercalate bs) := by
  induction bs with
  | nil => simp
  | cons b rest ih =>
      rw [List.forall_mem_cons] at h
      cases rest with
      | nil => simp
      | cons b' rest =>
          have hrest : [""].intercalate (b' :: rest) ≠ [] :=
            intercalate_ne_nil (List.cons_ne_nil b' rest) h.2
          have hbreak : "\n\n" = "\n" ++ "\n" := by decide
          rw [List.map_cons, List.map_cons, String.intercalate_cons_cons, ← List.map_cons, ih h.2,
            List.intercalate_cons_cons, List.append_assoc, List.singleton_append,
            String.intercalate_append_of_ne_nil h.1 (List.cons_ne_nil _ _),
            String.intercalate_cons_of_ne_nil hrest, hbreak, String.empty_append]
          simp only [String.append_assoc]

theorem bodyLines?_intercalate {bs : List (List String)} (hne : bs ≠ [])
    (hlines : ∀ b ∈ bs, b ≠ [] ∧ ∀ l ∈ b, IsLine l) :
    bodyLines? ("\n\n".intercalate (bs.map ("\n".intercalate ·)) ++ "\n") =
      some ([""].intercalate bs) := by
  have hbody (body : String) : between? "" "\n" (body ++ "\n") = some body := by
    have hread := between?_append "" body "\n"
    rwa [String.empty_append] at hread
  have hblocks : ∀ b ∈ bs, b ≠ [] := fun b hb => (hlines b hb).1
  rw [bodyLines?, hbody, Option.map_some, intercalate_blocks hblocks, linesOf_intercalate]
  · exact intercalate_ne_nil hne hblocks
  · intro l hl
    rcases eq_or_mem_of_mem_intercalate hl with rfl | ⟨b, hb, hmem⟩
    · decide
    · exact ((hlines b hb).2 l hmem).2

/-- A file that is made from blocks without blank lines is cut back into them. -/
theorem cut?_intercalate {bs : List (List String)} (hne : bs ≠ [])
    (hlines : ∀ b ∈ bs, b ≠ [] ∧ ∀ l ∈ b, IsLine l) :
    cut? ("\n\n".intercalate (bs.map ("\n".intercalate ·)) ++ "\n") = some bs := by
  have hblank : ∀ b ∈ bs, "" ∉ b := fun b hb hmem => ((hlines b hb).2 "" hmem).1 rfl
  rw [cut?, bodyLines?_intercalate hne hlines, Option.map_some,
    List.splitOn_intercalate "" hblank hne]

/-! ## Lines of native code -/

/-- What settings put into native code has no line break in it. -/
structure Settings.IsUnbroken (s : Settings) : Prop where
  input : '\n' ∉ s.inputPrefix.toList
  output : '\n' ∉ s.outputPrefix.toList
  handle : '\n' ∉ s.handlePrefix.toList
  reference : '\n' ∉ s.referenceBase.toList

/-- The names that writers put into native code have no line break in them. -/
structure Algorithm.IsUnbroken (a : Algorithm) : Prop where
  name : isIdentifier a.name = true
  handle : '\n' ∉ a.handle.toList
  inputs : ∀ i ∈ a.inputs, '\n' ∉ i.name.toList ∧ '\n' ∉ i.ident.toList
  outputs : ∀ o ∈ a.outputs, '\n' ∉ o.name.toList ∧ '\n' ∉ o.ident.toList
  parameters : ∀ p ∈ a.parameters, '\n' ∉ p.name.toList

theorem not_break_of_isIdentifier {name : String} (h : isIdentifier name = true) :
    '\n' ∉ name.toList :=
  (isWord_of_isIdentifier h).not_mem (by decide)

theorem Algorithm.isUnbroken_of_ofDescriptor {s : Settings} {d : Descriptor} {a : Algorithm}
    (hd : d.HasIdentifiers) (hs : s.IsUnbroken) (ha : Algorithm.ofDescriptor s d = .ok a) :
    a.IsUnbroken := by
  have hslot : ∀ (before : String) (p : Pin), '\n' ∉ before.toList → isIdentifier p.name = true →
      '\n' ∉ (slot before p).name.toList ∧ '\n' ∉ (slot before p).ident.toList := by
    intro before p hbefore hp
    have hname := not_break_of_isIdentifier hp
    exact ⟨hname, by simp [slot, hbefore, hname]⟩
  obtain ⟨-, rfl⟩ := Algorithm.ofDescriptor_eq_ok.1 ha
  refine ⟨hd.name, ?_, ?_, ?_, fun p hp => not_break_of_isIdentifier (hd.parameters p hp)⟩
  · have hname : '\n' ∉ (Text.lowerCase d.name).toList :=
      (isWord_lowerCase (isWord_of_isIdentifier hd.name)).not_mem (by decide)
    simp [Settings.handle, hs.handle, hname]
  · exact List.forall_mem_map.2 fun p hp => hslot _ p hs.input (hd.inputs p hp)
  · exact List.forall_mem_map.2 fun p hp => hslot _ p hs.output (hd.outputs p hp)

namespace Native

variable {a : Algorithm} {s : Settings} (ha : a.IsUnbroken)

theorem nativeType_unbroken (t : Tag) : '\n' ∉ (nativeType t).toList := by
  cases t <;> simp [nativeType, Tag.native?]

theorem namedArguments_unbroken {names : List String} (h : ∀ n ∈ names, '\n' ∉ n.toList) :
    '\n' ∉ (namedArguments names).toList := by
  refine not_mem_intercalate (by decide) (List.forall_mem_map.2 fun n hn => ?_)
  simp [h n hn]

include ha

theorem parameterNames_unbroken : ∀ n ∈ parameterNames a, '\n' ∉ n.toList :=
  List.forall_mem_map.2 ha.parameters

theorem parameters_unbroken :
    '\n' ∉ (argumentList ((signature a).parameters.map Argument.plain)).toList := by
  refine not_mem_intercalate (by decide) ?_
  rw [signature, List.map_map, List.map_map, List.forall_mem_map]
  intro p hp
  have htype : '\n' ∉ (constantType p.tag (nativeType p.tag)).toList := by
    have hnative := nativeType_unbroken p.tag
    unfold constantType
    split <;> simp [hnative]
  simp [Argument.text, Argument.plain, parameterArgument, htype, ha.parameters p hp]

theorem inputs_unbroken : '\n' ∉ (argumentList (signature a).inputs).toList := by
  refine not_mem_intercalate (by decide) ?_
  rw [signature, List.map_map, List.forall_mem_map]
  intro i hi
  simp [Argument.text, inputArgument, nativeType_unbroken, (ha.inputs i hi).2]

theorem heads_unbroken {outputs : List Local} :
    ∀ m ∈ methods a s (signature a) outputs, '\n' ∉ m.head.toList := by
  have hname := not_break_of_isIdentifier ha.name
  have hparameters := parameters_unbroken ha
  have hinputs := inputs_unbroken ha
  intro m hm
  rcases mem_methods.1 hm with rfl | rfl | rfl | rfl | rfl
  · simp [hname, hparameters]
  · simp [hname]
  · simp [hname, hparameters]
  · simp [resultType, hname, hinputs]
  · simp [hname]

theorem creation_unbroken : '\n' ∉ (creation a).text.toList := by
  have hname := not_break_of_isIdentifier ha.name
  have hnames := namedArguments_unbroken (parameterNames_unbroken ha)
  have harguments : '\n' ∉ (factoryArguments a.name (parameterNames a)).toList := by
    unfold factoryArguments
    split <;> simp [hname, hnames]
  simp [creation, Statement.text, factoryCall_eq, ha.handle, harguments]

theorem computation_unbroken :
    ∀ st ∈ computation a (a.outputs.map outputLocal), '\n' ∉ st.text.toList := by
  have hresult : '\n' ∉ (resultName a).toList := by
    simp [resultName, not_break_of_isIdentifier ha.name]
  intro st hst
  rcases mem_computation.1 hst with
    ⟨i, hi, rfl⟩ | ⟨o, ho, rfl⟩ | ⟨o, ho, rfl⟩ | rfl | rfl | ⟨o, ho, rfl⟩ | rfl
  · simp [Statement.text, ha.handle, ha.inputs i hi]
  · have htype : '\n' ∉ (valueType (nativeType o.tag)).toList :=
      fun hc => nativeType_unbroken o.tag (mem_valueType hc)
    simp [Statement.text, htype, ha.outputs o ho]
  · simp [Statement.text, ha.handle, ha.outputs o ho]
  · simp [Statement.text, ha.handle]
  · simp [Statement.text, resultType, hresult]
  · simp [Statement.text, hresult, ha.outputs o ho]
  · simp [Statement.text, hresult]

theorem statements_unbroken :
    ∀ st ∈ statements a s (signature a) (a.outputs.map outputLocal), '\n' ∉ st.text.toList := by
  have hdestroy : '\n' ∉ (Statement.destroy a.handle).text.toList := by
    simp [Statement.text, ha.handle]
  intro st hst
  rcases mem_statements.1 hst with rfl | rfl | hst | hst | rfl
  · exact creation_unbroken ha
  · exact hdestroy
  · rcases mem_reconfiguration hst with rfl | rfl | rfl
    · exact hdestroy
    · exact creation_unbroken ha
    · simp [Statement.text, ha.handle, namedArguments_unbroken (parameterNames_unbroken ha)]
  · exact computation_unbroken ha st hst
  · simp [Statement.text, ha.handle]

theorem isLine_of_mem_definitionLines (hreference : '\n' ∉ s.referenceBase.toList) {l : String}
    (hl : l ∈ definitionLines a s (signature a) (a.outputs.map outputLocal)) : IsLine l := by
  have hname := not_break_of_isIdentifier ha.name
  rcases mem_definitionLines.1 hl with rfl | rfl | ⟨m, hm, rfl⟩ | ⟨st, hst, rfl⟩ | rfl | rfl
  · rw [String.append_assoc]
    exact isLine_append (by decide) (by decide) (by simp [hname])
  · exact isLine_append (by decide) (by decide) (by simp [Settings.referenceUrl, hreference, hname])
  · obtain ⟨c, rest, hhead, -⟩ := exists_cons_head ha.name hm
    exact isLine_append (by simp [← String.toList_inj, hhead]) (heads_unbroken ha m hm) (by decide)
  · exact isLine_append (by decide) (by decide) (statements_unbroken ha st hst)
  · exact ⟨by decide, by decide⟩
  · rw [String.append_assoc]
    exact isLine_append (by decide) (by decide) (by simp [hname])

theorem isLine_of_mem_registrationLines {l : String}
    (hl : l ∈ registrationLines a (a.parameters.map fun p => nativeType p.tag)) : IsLine l := by
  have hname := not_break_of_isIdentifier ha.name
  have htypes : '\n' ∉ (", ".intercalate (a.parameters.map fun p => nativeType p.tag)).toList :=
    not_mem_intercalate (by decide) (List.forall_mem_map.2 fun p _ => nativeType_unbroken p.tag)
  have hmethod : ∀ before after : String, before ≠ "" → '\n' ∉ before.toList →
      '\n' ∉ after.toList → IsLine (before ++ a.name ++ after) := by
    intro before after hne hbefore hafter
    rw [String.append_assoc]
    exact isLine_append hne hbefore (by simp [hname, hafter])
  simp only [registrationLines, List.mem_cons, List.not_mem_nil, or_false] at hl
  rcases hl with rfl | rfl | rfl | rfl | rfl | rfl
  · rw [String.append_assoc, String.append_assoc, String.append_assoc]
    exact isLine_append (by decide) (by decide) (by simp [hname])
  · rw [String.append_assoc]
    refine isLine_append (by decide) (by decide) ?_
    rw [String.toList_append, List.mem_append, not_or]
    exact ⟨htypes, by decide⟩
  · exact hmethod _ _ (by decide) (by decide) (by decide)
  · exact hmethod _ _ (by decide) (by decide) (by decide)
  · exact hmethod _ _ (by decide) (by decide) (by decide)
  · exact ⟨by decide, by decide⟩

omit ha

/-! ## Marks -/

/-- The line that begins the definition of a class. -/
def startMark (name : String) : String := "// START " ++ name ++ " definitions"

/-- The line that ends the definition of a class. -/
def endMark (name : String) : String := "// END " ++ name ++ " definitions"

def isBlockMark (l : String) : Bool :=
  "// START ".toList.isPrefixOf l.toList || "// END ".toList.isPrefixOf l.toList

/-- The block is between its own marks, and no other mark is in it. -/
def IsMarked (name : String) (block : List String) : Prop :=
  ∃ inner, block = startMark name :: (inner ++ [endMark name]) ∧ ∀ l ∈ inner, isBlockMark l = false

theorem isBlockMark_startMark (name : String) : isBlockMark (startMark name) = true := by
  rw [isBlockMark, Bool.or_eq_true, List.isPrefixOf_iff_prefix]
  exact .inl (by simp [startMark])

theorem isBlockMark_endMark (name : String) : isBlockMark (endMark name) = true := by
  rw [isBlockMark, Bool.or_eq_true, List.isPrefixOf_iff_prefix, List.isPrefixOf_iff_prefix]
  exact .inr (by simp [endMark])

theorem startMark_inj {name name' : String} : startMark name = startMark name' ↔ name = name' := by
  simp [startMark]

theorem endMark_inj {name name' : String} : endMark name = endMark name' ↔ name = name' := by
  simp [endMark]

theorem startMark_ne_endMark (name name' : String) : startMark name ≠ endMark name' := by
  simp [startMark, endMark, ← String.toList_inj]

/-- Only comments can be marks. -/
theorem isBlockMark_eq_false {l : String} (h : l.toList.head? ≠ some '/') :
    isBlockMark l = false := by
  rw [← Bool.not_eq_true, isBlockMark, Bool.or_eq_true, List.isPrefixOf_iff_prefix,
    List.isPrefixOf_iff_prefix]
  rintro (⟨tail, htail⟩ | ⟨tail, htail⟩)
  · exact h (by simp [← htail])
  · exact h (by simp [← htail])

theorem isMarked_definitionLines (hname : isIdentifier a.name = true) {sig : Signature}
    {outputs : List Local} : IsMarked a.name (definitionLines a s sig outputs) := by
  refine ⟨("// check " ++ s.referenceUrl a.name) ::
    (methods a s sig outputs).flatMap Method.lines, rfl, ?_⟩
  rw [List.forall_mem_cons]
  constructor
  · have hcheck : ∀ before : String, Piece.differ "// check ".toList before.toList = true →
        ¬ before.toList <+: ("// check " ++ s.referenceUrl a.name).toList :=
      fun _ h => Piece.not_prefix_of_differ _ h
    rw [← Bool.not_eq_true, isBlockMark, Bool.or_eq_true, List.isPrefixOf_iff_prefix,
      List.isPrefixOf_iff_prefix, not_or]
    exact ⟨hcheck "// START " (by decide), hcheck "// END " (by decide)⟩
  · intro l hl
    obtain ⟨m, hm, hl⟩ := List.mem_flatMap.1 hl
    refine isBlockMark_eq_false ?_
    simp only [Method.lines, List.mem_append, List.mem_cons, List.mem_map, List.not_mem_nil,
      or_false] at hl
    rcases hl with (rfl | ⟨st, -, rfl⟩) | rfl
    · obtain ⟨c, rest, hhead, hc⟩ := exists_cons_head hname hm
      have hslash : c ≠ '/' := by
        rintro rfl
        exact absurd hc (by decide)
      simpa [hhead] using hslash
    · simp
    · decide

theorem IsMarked.filter {name : String} {block : List String} (h : IsMarked name block) :
    block.filter isBlockMark = [startMark name, endMark name] := by
  obtain ⟨inner, rfl, hinner⟩ := h
  have hnone : inner.filter isBlockMark = [] :=
    List.filter_eq_nil_iff.2 fun l hl => by simp [hinner l hl]
  rw [List.filter_cons_of_pos (isBlockMark_startMark name), List.filter_append, hnone,
    List.filter_cons_of_pos (isBlockMark_endMark name)]
  rfl

/-! ### Marks of files -/

theorem filter_intercalate {p : String → Bool} (hp : p "" = false) (bs : List (List String)) :
    ([""].intercalate bs).filter p = bs.flatMap (·.filter p) := by
  induction bs with
  | nil => rfl
  | cons b rest ih =>
      cases rest with
      | nil => simp
      | cons b' rest =>
          rw [List.intercalate_cons_cons, List.filter_append, List.filter_append, ih,
            List.filter_cons_of_neg (by simp [hp])]
          simp

/-- The marks that definitions of some names have, in order. -/
def marks (names : List String) : List String :=
  names.flatMap fun name => [startMark name, endMark name]

/-- A mark that each name has once is there as often as the name. -/
theorem count_marks {mark : String → String}
    (hmark : ∀ n name, [startMark n, endMark n].count (mark name) = if n = name then 1 else 0)
    (names : List String) (name : String) : (marks names).count (mark name) = names.count name := by
  induction names with
  | nil => rfl
  | cons n rest ih =>
      rw [marks, List.flatMap_cons, List.count_append, ← marks, ih, hmark, List.count_cons,
        Nat.add_comm]
      simp

theorem count_startMark (names : List String) (name : String) :
    (marks names).count (startMark name) = names.count name := by
  apply count_marks
  intro n name
  have hend : ¬ endMark n = startMark name := fun h => startMark_ne_endMark name n h.symm
  simp [List.count_cons, startMark_inj, hend]

theorem count_endMark (names : List String) (name : String) :
    (marks names).count (endMark name) = names.count name := by
  apply count_marks
  intro n name
  have hstart : ¬ startMark n = endMark name := startMark_ne_endMark n name
  simp [List.count_cons, endMark_inj, hstart]

end Native

/-! ## Files of runs -/

open Native (IsMarked endMark isBlockMark marks startMark)

section Runs

variable {c : Catalog} {s : Settings} {sel : Selection} {ts : List Target} {r : Run}

/-- The lines of the artifacts that a target's file is made from. -/
def blocksOf (g : Generator) (sel : Selection) (t : Target) : List (List String) :=
  sel.resolve.map fun name => (g.written (t, name)).lines

section

variable {g : Generator} (h : (g.run sel ts).outcome = .ok r)
include h

theorem render_of_run {t : Target} (ht : t ∈ ts) (htypes : t ≠ .parameterTypes)
    (hlines : ∀ b ∈ blocksOf g sel t, b ≠ []) :
    r.render t = "\n\n".intercalate ((blocksOf g sel t).map ("\n".intercalate ·)) ++ "\n" := by
  have hkept : ∀ x ∈ r.forTarget t, (!x.isEmpty) = true := by
    rw [Generator.forTarget_of_run h ht, List.forall_mem_map]
    intro name hname
    simp [Artifact.isEmpty, hlines _ (List.mem_map_of_mem hname)]
  rw [Run.render, Run.blocks, if_neg htypes, List.append_nil, List.filter_eq_self.2 hkept,
    Generator.forTarget_of_run h ht, List.map_map, blocksOf, List.map_map]
  rfl

end

variable (hc : c.Built) (hids : ∀ d ∈ c.descriptors, d.HasIdentifiers) (hs : s.IsUnbroken)
  (h : ((Generator.mk c.descriptor s).run sel ts).outcome = .ok r)
include hc hids hs h

theorem exists_unbroken_of_run {name : String} (hname : name ∈ sel.resolve) :
    ∃ a : Algorithm, a.IsUnbroken ∧ a.name = name ∧
      ∀ t ∈ ts, emit t a s = .ok ((Generator.mk c.descriptor s).written (t, name)) := by
  obtain ⟨d, a, hd, ha, hemit⟩ := Generator.emit_of_run h hname
  have hmem := (hc.indexed.get?_eq_some.1 (Catalog.get?_of_descriptor hd)).1
  refine ⟨a, Algorithm.isUnbroken_of_ofDescriptor (hids d hmem) hs ha, ?_, hemit⟩
  rw [Algorithm.name, Algorithm.descriptor_of_ok ha]
  exact hc.indexed.name_eq hd

theorem isLine_of_run {t : Target} (ht : t ∈ ts) (hnative : t = .definition ∨ t = .binding) :
    ∀ b ∈ blocksOf ⟨c.descriptor, s⟩ sel t, b ≠ [] ∧ ∀ l ∈ b, IsLine l := by
  refine List.forall_mem_map.2 fun name hname => ?_
  obtain ⟨a, ha, -, hemit⟩ := exists_unbroken_of_run hc hids hs h hname
  rcases hnative with rfl | rfl
  · rw [Native.definition_lines (hemit .definition ht)]
    exact ⟨List.cons_ne_nil _ _, fun l hl =>
      Native.isLine_of_mem_definitionLines ha hs.reference hl⟩
  · rw [Native.registration_lines (hemit .binding ht)]
    exact ⟨List.cons_ne_nil _ _, fun l hl => Native.isLine_of_mem_registrationLines ha hl⟩

theorem isMarked_of_run (ht : .definition ∈ ts) : ∀ name ∈ sel.resolve,
    IsMarked name ((Generator.mk c.descriptor s).written (.definition, name)).lines := by
  intro name hname
  obtain ⟨a, ha, rfl, hemit⟩ := exists_unbroken_of_run hc hids hs h hname
  rw [Native.definition_lines (hemit .definition ht)]
  exact Native.isMarked_definitionLines ha.name

end Runs

/-- The files of definitions and registrations are cut back into the artifacts of the resolved
names, in order. In the file of definitions the marks of each resolved name are there once, around
its block, and there are no others. -/
theorem native_files_cut {c : Catalog} (hc : c.Built)
    (hids : ∀ d ∈ c.descriptors, d.HasIdentifiers) {s : Settings} (hs : s.IsUnbroken)
    (sel : Selection) (hsel : sel.resolve ≠ []) (ts : List Target) (r : Run)
    (h : ((Generator.mk c.descriptor s).run sel ts).outcome = .ok r) :
    (∀ t ∈ ts, t = .definition ∨ t = .binding →
      ∃ blocks, cut? (r.render t) = some blocks ∧
        blocks.map (fun b => some ("\n".intercalate b)) =
          sel.resolve.map fun name => (r.get? name t).map Artifact.text) ∧
    (.definition ∈ ts →
      (∃ blocks, cut? (r.render .definition) = some blocks ∧
        List.Forall₂ IsMarked sel.resolve blocks) ∧
      ∃ lines, bodyLines? (r.render .definition) = some lines ∧
        lines.filter isBlockMark =
          sel.resolve.flatMap (fun name => [startMark name, endMark name]) ∧
        ∀ name, lines.count (startMark name) = (if name ∈ sel.resolve then 1 else 0) ∧
          lines.count (endMark name) = if name ∈ sel.resolve then 1 else 0) := by
  let g : Generator := ⟨c.descriptor, s⟩
  have hnames : ∀ name d, g.provider name = .ok d → d.name = name :=
    fun _ _ hd => hc.indexed.name_eq hd
  have hfile : ∀ t ∈ ts, t = .definition ∨ t = .binding →
      r.render t = "\n\n".intercalate ((blocksOf g sel t).map ("\n".intercalate ·)) ++ "\n" := by
    intro t ht hnative
    refine render_of_run h ht ?_ fun b hb => (isLine_of_run hc hids hs h ht hnative b hb).1
    rcases hnative with rfl | rfl <;> decide
  have hne : ∀ t, blocksOf g sel t ≠ [] := fun t => by simpa [blocksOf] using hsel
  refine ⟨fun t ht hnative => ?_, fun ht => ⟨?_, ?_⟩⟩
  · refine ⟨blocksOf g sel t, ?_, ?_⟩
    · rw [hfile t ht hnative]
      exact cut?_intercalate (hne t) (isLine_of_run hc hids hs h ht hnative)
    · rw [blocksOf, List.map_map]
      refine List.map_congr_left fun name hname => ?_
      rw [Generator.get?_of_run h hnames ht hname]
      rfl
  · refine ⟨blocksOf g sel .definition, ?_, ?_⟩
    · rw [hfile _ ht (.inl rfl)]
      exact cut?_intercalate (hne _) (isLine_of_run hc hids hs h ht (.inl rfl))
    · rw [blocksOf, List.forall₂_map_right_iff, List.forall₂_same]
      exact isMarked_of_run hc hids hs h ht
  · let lines := [""].intercalate (blocksOf g sel .definition)
    have hmarks : lines.filter isBlockMark = marks sel.resolve := by
      rw [Native.filter_intercalate (by decide), blocksOf, List.flatMap_map]
      exact List.flatMap_congr fun name hname => (isMarked_of_run hc hids hs h ht name hname).filter
    have hcount : ∀ mark, isBlockMark mark = true →
        lines.count mark = (marks sel.resolve).count mark := by
      intro mark hmark
      rw [← hmarks, List.count_filter hmark]
    have honce : ∀ name, sel.resolve.count name = if name ∈ sel.resolve then 1 else 0 := by
      intro name
      split
      · exact List.count_eq_one_of_mem sel.nodup_resolve ‹_›
      · exact List.count_eq_zero_of_not_mem ‹_›
    refine ⟨lines, ?_, hmarks, fun name => ⟨?_, ?_⟩⟩
    · rw [hfile _ ht (.inl rfl)]
      exact bodyLines?_intercalate (hne _) (isLine_of_run hc hids hs h ht (.inl rfl))
    · rw [hcount _ (Native.isBlockMark_startMark name), Native.count_startMark, honce]
    · rw [hcount _ (Native.isBlockMark_endMark name), Native.count_endMark, honce]

/-- Two algorithms out of order, one of which is made anew and shares a beginning with the other's
name. -/
theorem native_files_cut_melody :
    ∃ (c : Catalog) (r : Run), c.Built ∧ (∀ d ∈ c.descriptors, d.HasIdentifiers) ∧
      ((Generator.mk c.descriptor {}).run { included := ["PitchMelodia", "Pitch"] }
        [.definition, .binding]).outcome = .ok r ∧
      (∃ blocks, cut? (r.render .binding) = some blocks ∧
        blocks.map (fun b => some ("\n".intercalate b)) =
          ["PitchMelodia", "Pitch"].map fun name => (r.get? name .binding).map Artifact.text) ∧
      ∃ lines, bodyLines? (r.render .definition) = some lines ∧
        lines.filter isBlockMark = [startMark "PitchMelodia", endMark "PitchMelodia",
          startMark "Pitch", endMark "Pitch"] := by
  let pitch : Descriptor := {
    name := "Pitch"
    outputs := [⟨"pitch", .real, ""⟩] }
  let melody : Descriptor := {
    name := "PitchMelodia"
    inputs := [⟨"signal", .vectorReal, ""⟩]
    outputs := [⟨"pitch", .vectorReal, ""⟩, ⟨"confidence", .vectorReal, ""⟩]
    parameters := [⟨"rate", .real, "44100", ""⟩] }
  let c : Catalog := ⟨[pitch, melody], [("PitchMelodia", 1), ("Pitch", 0)]⟩
  have hc : c.Built := .insert (.insert .empty (d := pitch) rfl) (d := melody) rfl
  have hids : ∀ d ∈ c.descriptors, d.HasIdentifiers := by
    intro d hd
    simp only [c, List.mem_cons, List.not_mem_nil, or_false] at hd
    rcases hd with rfl | rfl <;> constructor <;> decide
  have hs : ({} : Settings).IsUnbroken := by
    constructor <;> decide
  have hok : ((Generator.mk c.descriptor {}).run { included := ["PitchMelodia", "Pitch"] }
      [.definition, .binding]).outcome.isOk = true := by rfl
  obtain ⟨r, hr⟩ := isOk_iff.1 hok
  obtain ⟨hcut, hdefinition⟩ := native_files_cut hc hids hs _ (by decide) _ r hr
  obtain ⟨-, lines, hlines, hmarks, -⟩ := hdefinition (by decide)
  exact ⟨c, r, hc, hids, hr, hcut .binding (by decide) (.inr rfl), lines, hlines, hmarks⟩

end Bindery
