import Bindery.Proofs.Forms
import Bindery.Proofs.Signatures
import Bindery.Proofs.Validity

/-!
# Reading computations

The function of a class that computes is found among the lines of the class and read
back from its text. Where its variables are identifiers, a reader finds the arguments
and the statements that were written.
-/

namespace Bindery.Native

/-! ## Statements -/

def bindInputForm : Form Statement where
  pieces := [.hole .word, .text "->input(\"", .hole .word, .text "\").set(", .hole .word,
    .text ");"]
  make
    | [handle, name, ident] => some (.bindInput handle name ident)
    | _ => none

def bindOutputForm : Form Statement where
  pieces := [.hole .word, .text "->output(\"", .hole .word, .text "\").set(", .hole .word,
    .text ");"]
  make
    | [handle, name, ident] => some (.bindOutput handle name ident)
    | _ => none

def computeForm : Form Statement where
  pieces := [.hole .word, .text "->compute();"]
  make
    | [handle] => some (.compute handle)
    | _ => none

def beginResultForm : Form Statement where
  pieces := [.text "val ", .hole .word, .text "(val::object());"]
  make
    | [result] => some (.beginResult result)
    | _ => none

def setResultForm : Form Statement where
  pieces := [.hole .word, .text ".set(\"", .hole .word, .text "\", ", .hole .word, .text ");"]
  make
    | [result, name, ident] => some (.setResult result name ident)
    | _ => none

def callForms : List (Form Statement) :=
  [bindInputForm, bindOutputForm, computeForm, beginResultForm, setResultForm]

theorem areApart_callForms : Form.areApart callForms = true := by decide

/-- A type and the name after it, with a blank between them. -/
def typed? (cs : List Char) : Option (String × String) :=
  match cs.reverse.dropWhile continuesIdentifier with
  | ' ' :: type =>
    some (String.ofList type.reverse,
      String.ofList (cs.reverse.takeWhile continuesIdentifier).reverse)
  | _ => none

theorem typed?_append {type name : String} (h : IsWord name.toList) :
    typed? (type ++ " " ++ name).toList = some (type, name) := by
  have hreverse : (type ++ " " ++ name).toList.reverse =
      name.toList.reverse ++ ' ' :: type.toList.reverse := by simp
  have hname : ∀ c ∈ name.toList.reverse, continuesIdentifier c = true := by
    intro c hc
    exact h c (List.mem_reverse.1 hc)
  have hblank : ¬ continuesIdentifier ' ' = true := by decide
  unfold typed?
  rw [hreverse, List.dropWhile_append_of_pos hname, List.takeWhile_append_of_pos hname,
    List.dropWhile_cons_of_neg hblank, List.takeWhile_cons_of_neg hblank]
  simp

/-- The statements that end in a name. What stands before it is a type, or gives the result back. -/
def named? (cs : List Char) : Option Statement :=
  match cs.reverse with
  | ';' :: rest =>
    (typed? rest.reverse).map fun (type, name) =>
      if type = "return" then .giveResult name else .declare type name
  | _ => none

def Statement.read? (cs : List Char) : Option Statement :=
  (named? cs).or (Form.readBy? callForms cs)

theorem named?_append {type name : String} (h : IsWord name.toList) :
    named? (type ++ " " ++ name ++ ";").toList =
      some (if type = "return" then .giveResult name else .declare type name) := by
  have hreverse : (type ++ " " ++ name ++ ";").toList.reverse =
      ';' :: (type ++ " " ++ name).toList.reverse := by simp
  simp only [named?, hreverse, List.reverse_reverse, typed?_append h, Option.map_some]

/-- A call has no name at its end. -/
theorem read?_call (f : Form Statement) (ws : List String) (cs : List Char) {st : Statement}
    (htext : st.text.toList = Piece.fill f.pieces ws) (hcall : st.text.toList = cs ++ [')', ';'])
    (hf : f ∈ callForms) (hws : Piece.Fits f.pieces ws) (hst : f.make ws = some st) :
    Statement.read? st.text.toList = some st := by
  have hnamed : named? st.text.toList = none := by
    simp [hcall, named?, typed?, continuesIdentifier, startsIdentifier]
  rw [Statement.read?, hnamed, Option.none_or, htext,
    Form.readBy?_fill areApart_callForms hf hws hst]

def Statement.IsComputational : Statement → Prop
  | .bindInput .. | .bindOutput .. | .compute _ | .beginResult _ | .setResult .. | .giveResult _ =>
    True
  | .declare type _ => type ≠ "return"
  | _ => False

theorem Statement.read?_text {st : Statement} (hst : st.IsPlain) (hc : st.IsComputational) :
    Statement.read? st.text.toList = some st := by
  cases st with
  | create | destroy | configure | reset => cases hc
  | bindInput handle name ident =>
      obtain ⟨hh, hn, hi⟩ := hst
      refine read?_call bindInputForm [handle, name, ident]
        (handle ++ "->input(\"" ++ name ++ "\").set(" ++ ident).toList ?_ ?_
        (by simp [callForms]) ⟨hh, hn, hi, trivial⟩ rfl
      · simp [Statement.text, bindInputForm, Piece.fill]
      · simp [Statement.text]
  | bindOutput handle name ident =>
      obtain ⟨hh, hn, hi⟩ := hst
      refine read?_call bindOutputForm [handle, name, ident]
        (handle ++ "->output(\"" ++ name ++ "\").set(" ++ ident).toList ?_ ?_
        (by simp [callForms]) ⟨hh, hn, hi, trivial⟩ rfl
      · simp [Statement.text, bindOutputForm, Piece.fill]
      · simp [Statement.text]
  | compute handle =>
      refine read?_call computeForm [handle] (handle ++ "->compute(").toList ?_ ?_
        (by simp [callForms]) ⟨hst, trivial⟩ rfl
      · simp [Statement.text, computeForm, Piece.fill]
      · simp [Statement.text]
  | beginResult result =>
      refine read?_call beginResultForm [result] ("val " ++ result ++ "(val::object()").toList
        ?_ ?_ (by simp [callForms]) ⟨hst, trivial⟩ rfl
      · simp [Statement.text, resultType, beginResultForm, Piece.fill]
      · simp [Statement.text, resultType]
  | setResult result name ident =>
      obtain ⟨hr, hn, hi⟩ := hst
      refine read?_call setResultForm [result, name, ident]
        (result ++ ".set(\"" ++ name ++ "\", " ++ ident).toList ?_ ?_
        (by simp [callForms]) ⟨hr, hn, hi, trivial⟩ rfl
      · simp [Statement.text, setResultForm, Piece.fill]
      · simp [Statement.text]
  | declare type ident =>
      rw [Statement.read?, Statement.text, named?_append hst.2, if_neg hc, Option.some_or]
  | giveResult result =>
      have htext : (Statement.giveResult result).text.toList =
          ("return" ++ " " ++ result ++ ";").toList := by
        simp [Statement.text]
      rw [Statement.read?, htext, named?_append hst, if_pos rfl, Option.some_or]

/-! ## Functions -/

/-- The function that computes, as a reader of the code sees it. -/
structure Computation where
  /-- The types and names of the arguments. -/
  arguments : List (String × String)
  body : List Statement

/-- Finds and reads the function of a class that computes. -/
def Computation.read? (name : String) (lines : List String) : Option Computation := do
  let start := "val " ++ name ++ "::compute("
  let (head, body) ← block? start "\x7d" lines
  match ← Piece.read? [.text start, .hole .list, .text ") \x7b"] head.toList with
  | [list] =>
    let arguments ← (items list).mapM fun item => typed? item.toList
    let body ← body.mapM fun l => (l.toList.dropPrefix? ['\t']).bind Statement.read?
    return ⟨arguments, body⟩
  | _ => none

/-! ## What a writer has written -/

/-- What a computation names: its handle, its result, and variables for inputs and outputs. -/
def variableNames (a : Algorithm) : List String :=
  a.handle :: resultName a :: (a.inputs.map (·.ident) ++ a.outputs.map (·.ident))

structure HasDistinctVariables (a : Algorithm) : Prop where
  identifiers : ∀ v ∈ variableNames a, isIdentifier v = true
  distinct : (variableNames a).Nodup

variable {a : Algorithm} {s : Settings} {d : Descriptor} {x : Artifact}

theorem HasDistinctVariables.isPlain (hv : HasDistinctVariables a) (hd : d.HasIdentifiers)
    (ha : Algorithm.ofDescriptor s d = .ok a) : a.IsPlain := by
  have hslot : ∀ i ∈ a.inputs ++ a.outputs, isIdentifier i.ident = true := by
    intro i hi
    refine hv.identifiers _ (List.mem_cons_of_mem _ (List.mem_cons_of_mem _ ?_))
    rw [← List.map_append]
    exact List.mem_map_of_mem hi
  have hhandle := hv.identifiers _ List.mem_cons_self
  obtain ⟨-, rfl⟩ := Algorithm.ofDescriptor_eq_ok.1 ha
  constructor
  case name => exact hd.name
  case handle => exact isWord_of_isIdentifier hhandle
  case inputs =>
    intro i hi
    have hident := hslot i (List.mem_append_left _ hi)
    obtain ⟨p, hp, rfl⟩ := List.mem_map.1 hi
    exact ⟨isWord_of_isIdentifier (hd.inputs p hp), isWord_of_isIdentifier hident⟩
  case outputs =>
    intro o ho
    have hident := hslot o (List.mem_append_right _ ho)
    obtain ⟨p, hp, rfl⟩ := List.mem_map.1 ho
    exact ⟨isWord_of_isIdentifier (hd.outputs p hp), isWord_of_isIdentifier hident⟩
  case parameters =>
    intro p hp
    exact isWord_of_isIdentifier (hd.parameters p hp)

theorem isComputational_of_mem_computation {st : Statement}
    (h : st ∈ computation a (a.outputs.map outputLocal)) : st.IsComputational := by
  have htype : ∀ t, valueType (nativeType t) ≠ "return" := by
    intro t
    cases t with
    | other name => exact (by decide : valueType "" ≠ "return")
    | _ => decide
  rcases mem_computation.1 h with
    ⟨i, -, rfl⟩ | ⟨o, -, rfl⟩ | ⟨o, -, rfl⟩ | rfl | rfl | ⟨o, -, rfl⟩ | rfl
  case inr.inl => exact htype o.tag
  all_goals trivial

/-- Before the function that computes no line begins like it. -/
theorem block?_definitionLines (ha : isIdentifier a.name = true) {sig : Signature}
    {outputs : List Local} :
    block? ("val " ++ a.name ++ "::compute(") "\x7d" (definitionLines a s sig outputs) =
      some ("val " ++ a.name ++ "::compute(" ++ argumentList sig.inputs ++ ") \x7b",
        (computation a outputs).map fun st => "\t" ++ st.text) := by
  have hword := isWord_of_isIdentifier ha
  have hmethods : methods a s sig outputs = (methods a s sig outputs).take 3 ++
      (⟨resultType ++ " " ++ a.name ++ "::compute(" ++ argumentList sig.inputs ++ ")",
        computation a outputs⟩ : Method) :: (methods a s sig outputs).drop 4 := rfl
  have hhead : resultType ++ " " ++ a.name ++ "::compute(" ++ argumentList sig.inputs ++ ")" ++
      " \x7b" = "val " ++ a.name ++ "::compute(" ++ argumentList sig.inputs ++ ") \x7b" := by
    simp [← String.toList_inj, resultType]
  rw [← hhead]
  refine block?_method hmethods (c := 'v') (by simp; rfl) (by decide) ?_ (by simp [resultType])
  intro m hm hstart
  obtain ⟨rest, hrest⟩ := hstart
  simp only [methods, List.take, List.mem_cons, List.not_mem_nil, or_false] at hm
  rcases hm with rfl | rfl | rfl
  all_goals simp at hrest
  · exact word_ne_val hword (by decide) (by decide) hrest.symm
  · exact word_ne_val hword (by decide) (by decide) hrest.symm

theorem read?_head {start list : String} (h : ')' ∉ list.toList) :
    Piece.read? [.text start, .hole .list, .text ") \x7b"] (start ++ list ++ ") \x7b").toList =
      some [list] := by
  have hlist : ∀ c ∈ list.toList, Hole.accepts .list c = true := by
    intro c hc
    refine bne_iff_ne.2 ?_
    rintro rfl
    exact h hc
  have hfill : (start ++ list ++ ") \x7b").toList =
      Piece.fill [.text start, .hole .list, .text ") \x7b"] [list] := by
    simp [Piece.fill]
  rw [hfill]
  exact Piece.read?_fill _ _ rfl ⟨hlist, trivial⟩

/-- What is written of the argument shows its type and its name. -/
structure Argument.IsReadable (x : Argument) : Prop where
  default : x.default = none
  type : IsItem x.type
  name : IsWord x.name.toList

theorem items_arguments {as : List Argument} (h : ∀ x ∈ as, x.IsReadable) :
    (items (argumentList as)).mapM (fun item => typed? item.toList) =
      some (as.map fun x => (x.type, x.name)) := by
  have htext : as.map Argument.text = as.map fun x => x.type ++ " " ++ x.name := by
    refine List.map_congr_left fun x hx => ?_
    simp [Argument.text, (h x hx).default]
  have hitems : items (argumentList as) = as.map fun x => x.type ++ " " ++ x.name := by
    rw [argumentList, htext]
    refine items_intercalate (List.forall_mem_map.2 fun x hx => ?_)
    exact ((h x hx).type.append (by decide)).append ((h x hx).name.not_mem (by decide))
  rw [hitems, List.mapM_map]
  exact mapM_some fun x hx => typed?_append (h x hx).name

theorem items_inputs (h : ∀ i ∈ a.inputs, i.tag.native?.isSome = true ∧ IsWord i.ident.toList) :
    (items (argumentList (a.inputs.map inputArgument))).mapM (fun item => typed? item.toList) =
      some (a.inputs.map fun i => (nativeType i.tag, i.ident)) := by
  rw [items_arguments (List.forall_mem_map.2 fun i hi => ?_), List.map_map]
  · rfl
  · exact ⟨rfl, isItem_nativeType (h i hi).1, (h i hi).2⟩

theorem read?_definition (hd : d.HasIdentifiers) (ha : Algorithm.ofDescriptor s d = .ok a)
    (hv : HasDistinctVariables a) (hx : definition a s = .ok x) :
    Computation.read? d.name x.lines = some ⟨a.inputs.map fun i => (nativeType i.tag, i.ident),
      computation a (a.outputs.map outputLocal)⟩ := by
  have hplain := hv.isPlain hd ha
  have hname : a.name = d.name := congrArg Descriptor.name (Algorithm.descriptor_of_ok ha)
  have htags : ∀ i ∈ a.inputs, i.tag.native?.isSome = true :=
    isOk_inputs.1 (isOk_signature.1 (isOk_definition.1 (isOk_iff.2 ⟨x, hx⟩)).1).2
  have hparen : ')' ∉ (argumentList (signature a).inputs).toList := by
    refine not_mem_intercalate (by decide) (List.forall_mem_map.2 ?_)
    refine List.forall_mem_map.2 fun i hi => ?_
    have htype : ')' ∉ (nativeType i.tag).toList := by
      cases i.tag <;> simp [nativeType, Tag.native?]
    have hident : ')' ∉ i.ident.toList := (hplain.inputs i hi).2.not_mem (by decide)
    simp [Argument.text, inputArgument, htype, hident]
  have hbody : ((computation a (a.outputs.map outputLocal)).map fun st => "\t" ++ st.text).mapM
      (fun l => (l.toList.dropPrefix? ['\t']).bind Statement.read?) =
      some (computation a (a.outputs.map outputLocal)) := by
    have hread : ∀ st ∈ computation a (a.outputs.map outputLocal),
        (("\t" ++ st.text).toList.dropPrefix? ['\t']).bind Statement.read? = some (id st) := by
      intro st hst
      simpa [List.dropPrefix?] using
        Statement.read?_text (isPlain_of_mem_computation hplain hst)
          (isComputational_of_mem_computation hst)
    rw [List.mapM_map]
    exact (mapM_some hread).trans (by rw [List.map_id])
  rw [definition_lines hx, ← hname, Computation.read?]
  simp only [block?_definitionLines hplain.name]
  have hargs := items_inputs fun i hi => ⟨htags i hi, (hplain.inputs i hi).2⟩
  simp only [Option.bind_eq_bind, Option.bind_some, read?_head hparen, hbody]
  rw [signature, hargs]
  rfl

end Bindery.Native
