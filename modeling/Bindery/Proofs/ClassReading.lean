import Bindery.Proofs.Expressible
import Bindery.Proofs.Instance
import Bindery.Proofs.Lines
import Bindery.Proofs.Numerals
import Bindery.Proofs.Validity

/-!
# Reading wrapper classes

What a reader finds in the class of an algorithm with parameters: an object literal with
their defaults, a constructor and a method for configuration that merge what the caller
gives before they hand it on, and the merge itself.
-/

namespace Bindery.Script

open Text (exists_trim trimmed)
open Wrapper (defaultLiteral realLiteral needsCoercion)

/-! ## Defaults -/

/-- The value of a parameter's default as it is written. -/
def defaultValue (p : Parameter) : Literal :=
  match p.tag with
  | .string => .text p.default
  | .real => .expression (realLiteral p.default)
  | _ => .expression p.default

/-- Trimming leaves nothing but what was there, and the names of what is not finite are words. -/
theorem isExpressionChar_realLiteral {literal : String}
    (h : ∀ c ∈ literal.toList, isExpressionChar c = true) :
    ∀ c ∈ (realLiteral literal).toList, isExpressionChar c = true := by
  unfold realLiteral
  split
  · exact List.all_eq_true.1 (by decide)
  · exact List.all_eq_true.1 (by decide)
  · exact List.all_eq_true.1 (by decide)
  · intro c hc
    rw [trimmed, String.toList_ofList] at hc
    obtain ⟨before, after, hliteral, -, -⟩ := exists_trim literal.toList
    exact h c (hliteral ▸ List.mem_append_left after (List.mem_append_right before hc))

/-- Only the literal of a text has other characters. -/
theorem isExpressionChar_defaultLiteral {p : Parameter} (hstring : p.tag ≠ .string)
    (h : p.tag.accepts p.default = true) :
    ∀ c ∈ (defaultLiteral p).toList, isExpressionChar c = true := by
  have hdefault := Tag.isExpressionChar_of_accepts hstring h
  unfold defaultLiteral
  cases htag : p.tag with
  | string => exact absurd htag hstring
  | real => exact isExpressionChar_realLiteral hdefault
  | _ => exact hdefault

/-- Only the default of a text begins with a quote. -/
theorem head?_defaultLiteral {p : Parameter} (hstring : p.tag ≠ .string)
    (h : p.tag.accepts p.default = true) : (defaultLiteral p).toList.head? ≠ some '\'' := by
  intro hhead
  have hquote := isExpressionChar_defaultLiteral hstring h _ (List.mem_of_head? hhead)
  exact absurd hquote (by decide)

theorem literal?_defaultLiteral {p : Parameter} (h : p.tag.accepts p.default = true) :
    literal? (defaultLiteral p).toList = some (defaultValue p) := by
  by_cases hstring : p.tag = .string
  · simp only [defaultLiteral, defaultValue, hstring, literal?_singleQuoted]
  · have hexpression := literal?_expression (head?_defaultLiteral hstring h)
    rw [hexpression]
    cases htag : p.tag with
    | string => exact absurd htag hstring
    | _ => simp [defaultLiteral, defaultValue, htag]

theorem keyValue?_default {p : Parameter} (hname : IsWord p.name.toList)
    (h : p.tag.accepts p.default = true) :
    keyValue? ("    " ++ p.name ++ ": " ++ defaultLiteral p ++ ",") =
      some (p.name, defaultValue p) :=
  keyValue?_eq hname (literal?_defaultLiteral h)

/-! ## Bodies -/

def parameterProperties (names : List String) : List Property := names.map (⟨"params", ·⟩)

/-- What the caller gives, or a converted copy of it, goes over the defaults. -/
def mergeBody (coerced : List String) : List Statement :=
  if coerced.isEmpty then [.spread "params" [.field "defaultParams", .name "params"]]
  else .copy "supplied" (.name "params") ::
    coerced.map (.convert "supplied" · "arrayToVector") ++
    [.spread "params" [.field "defaultParams", .name "supplied"]]

variable {rest names : List String}

theorem body?_update :
    body? ("    this.updateParams(params);" :: rest) =
      (body? rest).map (.call "updateParams" "params" :: ·) := by
  refine body?_line callForm ["updateParams", "params"] ?_ (by simp [lineForms])
    ⟨isWord_of_all (by decide), isWord_of_all (by decide), trivial⟩ rfl
  simp [callForm, Piece.fill]

theorem properties?_forwarded (hnames : ∀ name ∈ names, IsWord name.toList) :
    properties? (Wrapper.forwarded names) = some (parameterProperties names) := by
  have hwords := properties?_intercalate "params" (isWord_of_all (by decide)) hnames
  have hbegins : (fun key => "this." ++ "params" ++ "." ++ key) = ("this.params." ++ ·) := by
    funext key
    simp
  rw [hbegins] at hwords
  exact hwords

theorem not_mem_forwarded (hnames : ∀ name ∈ names, IsWord name.toList) :
    ∀ c ∈ (Wrapper.forwarded names).toList, Hole.accepts .list c = true := by
  intro c hc
  refine bne_iff_ne.2 ?_
  rintro rfl
  refine not_mem_intercalate (by decide) (List.forall_mem_map.2 fun name hname => ?_) hc
  have hword : ')' ∉ name.toList := (hnames name hname).not_mem (by decide)
  simp [hword]

theorem body?_create {space class' : String} (hspace : IsWord space.toList)
    (hclass : IsWord class'.toList) (hnames : ∀ name ∈ names, IsWord name.toList) :
    body? (("    " ++ ("this.algoInstance = new " ++ space ++ "." ++ class' ++ "(" ++
      Wrapper.forwarded names ++ ");")) :: rest) =
      (body? rest).map (.create "algoInstance" space class' (parameterProperties names) :: ·) := by
  refine body?_line createForm ["algoInstance", space, class', Wrapper.forwarded names] ?_
    (by simp [lineForms])
    ⟨isWord_of_all (by decide), hspace, hclass, not_mem_forwarded hnames, trivial⟩ ?_
  · simp [createForm, Piece.fill]
  · simp [createForm, properties?_forwarded hnames]

theorem body?_configure (hnames : ∀ name ∈ names, IsWord name.toList) :
    body? (("    " ++ ("this.algoInstance.configure(" ++ Wrapper.forwarded names ++ ");")) ::
      rest) =
      (body? rest).map (.invoke "algoInstance" "configure" (parameterProperties names) :: ·) := by
  refine body?_line invokeForm ["algoInstance", "configure", Wrapper.forwarded names] ?_
    (by simp [lineForms])
    ⟨isWord_of_all (by decide), isWord_of_all (by decide), not_mem_forwarded hnames, trivial⟩ ?_
  · simp [invokeForm, Piece.fill]
  · simp [invokeForm, properties?_forwarded hnames]

theorem body?_copy :
    body? ("    const supplied: any = \x7b ...params \x7d;" :: rest) =
      (body? rest).map (.copy "supplied" (.name "params") :: ·) := by
  refine body?_line copyForm ["supplied", "params"] ?_ (by simp [lineForms])
    ⟨isWord_of_all (by decide), List.all_eq_true.1 (by decide), trivial⟩ rfl
  simp [copyForm, Piece.fill]

theorem body?_merge (source : Wrapper.Source) :
    body? (("    " ++ ("this.params = \x7b ...this.defaultParams, ..." ++ source.name ++ " \x7d;"))
      :: rest) =
      (body? rest).map
        (.spread "params" [.field "defaultParams", .name source.name] :: ·) := by
  refine body?_line spreadForm ["params", "this.defaultParams", source.name] ?_
    (by simp [lineForms]) ⟨isWord_of_all (by decide), List.all_eq_true.1 (by decide), ?_, trivial⟩
    ?_
  · simp [spreadForm, Piece.fill]
  · cases source <;> exact List.all_eq_true.1 (by decide)
  · cases source <;> rfl

theorem body?_coerced (hnames : ∀ name ∈ names, IsWord name.toList) :
    body? (((names.map Wrapper.Statement.coerce).flatMap Wrapper.Statement.lines).map
      ("    " ++ ·) ++ rest) =
      (body? rest).map (names.map (.convert "supplied" · "arrayToVector") ++ ·) := by
  induction names with
  | nil => simp
  | cons name names ih =>
      rw [List.forall_mem_cons] at hnames
      have hclose : "    " ++ "\x7d" = "    \x7d" := rfl
      simp only [List.map_cons, List.flatMap_cons, Wrapper.Statement.lines, List.cons_append,
        List.nil_append, hclose]
      rw [body?_convert "supplied" name "arrayToVector" ?_ ?_
        (isWord_of_all (by decide)) hnames.1 (isWord_of_all (by decide)), ih hnames.2,
        Option.map_map]
      · rfl
      · simp [← String.toList_inj]
      · simp [← String.toList_inj]

theorem body?_creation {space class' : String} (hspace : IsWord space.toList)
    (hclass : IsWord class'.toList) (hnames : ∀ name ∈ names, IsWord name.toList) :
    body? (([.update, .create space class' names].flatMap Wrapper.Statement.lines).map
      ("    " ++ ·)) = some [.call "updateParams" "params",
        .create "algoInstance" space class' (parameterProperties names)] := by
  change body? ("    this.updateParams(params);" :: ("    " ++ ("this.algoInstance = new " ++
    space ++ "." ++ class' ++ "(" ++ Wrapper.forwarded names ++ ");")) :: []) = _
  rw [body?_update, body?_create hspace hclass hnames]
  rfl

theorem body?_configuration (hnames : ∀ name ∈ names, IsWord name.toList) :
    body? (([.update, .configure names].flatMap Wrapper.Statement.lines).map ("    " ++ ·)) =
      some [.call "updateParams" "params",
        .invoke "algoInstance" "configure" (parameterProperties names)] := by
  change body? ("    this.updateParams(params);" :: ("    " ++ ("this.algoInstance.configure(" ++
    Wrapper.forwarded names ++ ");")) :: []) = _
  rw [body?_update, body?_configure hnames]
  rfl

theorem body?_merging (hnames : ∀ name ∈ names, IsWord name.toList) :
    body? (((Wrapper.merging names).flatMap Wrapper.Statement.lines).map ("    " ++ ·)) =
      some (mergeBody names) := by
  unfold Wrapper.merging mergeBody
  split
  · exact body?_merge .params
  · have hlines : ((Wrapper.Statement.copy :: names.map Wrapper.Statement.coerce ++
        [Wrapper.Statement.merge .supplied]).flatMap Wrapper.Statement.lines).map ("    " ++ ·) =
        "    const supplied: any = \x7b ...params \x7d;" ::
          (((names.map Wrapper.Statement.coerce).flatMap Wrapper.Statement.lines).map
            ("    " ++ ·) ++ ["    " ++ ("this.params = \x7b ...this.defaultParams, ..." ++
              Wrapper.Source.supplied.name ++ " \x7d;")]) := by
      simp [Wrapper.Statement.lines]
    rw [hlines, body?_copy, body?_coerced hnames, body?_merge .supplied]
    rfl

/-! ## Methods -/

variable {name tail : String} {m : Wrapper.Method} {c : Char} {cs : List Char}

/-- What stands two blanks in begins like an identifier where `start` does. -/
theorem startsIdentifier_of_prefix (d : Char) (ds : List Char) {start l : String}
    (hstart : start.toList = ' ' :: ' ' :: c :: cs) (hc : startsIdentifier c = true)
    (hl : l.toList = ' ' :: ' ' :: d :: ds) (hbegins : start.toList <+: l.toList) :
    startsIdentifier d = true := by
  simp [hstart, hl] at hbegins
  rw [← hbegins.1]
  exact hc

theorem not_prefix_comment {start : String} (hstart : start.toList = ' ' :: ' ' :: c :: cs)
    (hc : startsIdentifier c = true) {comment : List String} {l : String}
    (hl : l ∈ ["  /**"] ++ comment.map ("   * " ++ ·) ++ ["  */"]) :
    ¬ start.toList <+: l.toList := by
  intro hbegins
  have hthird := fun d ds hlist => startsIdentifier_of_prefix d ds hstart hc hlist hbegins
  simp only [List.mem_append, List.mem_map, List.mem_singleton] at hl
  rcases hl with (rfl | ⟨text, -, rfl⟩) | rfl
  · exact absurd (hthird '/' _ rfl) (by decide)
  · exact absurd (hthird ' ' ('*' :: ' ' :: text.toList) (by simp)) (by decide)
  · exact absurd (hthird '*' _ rfl) (by decide)

/-- No line of a method but its first one begins like a member. -/
theorem eq_head_of_prefix {start : String} (hstart : start.toList = ' ' :: ' ' :: c :: cs)
    (hc : startsIdentifier c = true) {l : String} (hl : l ∈ m.lines)
    (hbegins : start.toList <+: l.toList) : l = "  " ++ m.head ++ " \x7b" := by
  have hthird := fun d ds hlist => startsIdentifier_of_prefix d ds hstart hc hlist hbegins
  rw [Wrapper.Method.lines, List.append_assoc, List.append_assoc, List.mem_append] at hl
  rcases hl with hcomment | hl
  · split at hcomment
    · cases hcomment
    · exact absurd hbegins (not_prefix_comment hstart hc hcomment)
  · simp only [List.mem_append, List.mem_map, List.mem_singleton] at hl
    rcases hl with hl | ⟨line, -, rfl⟩ | rfl
    · exact hl
    · exact absurd (hthird ' ' (' ' :: line.toList) (by simp)) (by decide)
    · exact absurd (hthird '\x7d' _ rfl) (by decide)

/-- A member's name begins like an identifier. -/
def IsMember (name : String) : Prop := name.toList.head?.any startsIdentifier = true

instance (name : String) : Decidable (IsMember name) := inferInstanceAs (Decidable (_ = true))

theorem IsMember.exists_cons (h : IsMember name) : ∃ c cs,
    ("  " ++ name ++ "(").toList = ' ' :: ' ' :: c :: cs ∧ startsIdentifier c = true := by
  unfold IsMember at h
  cases hname : name.toList with
  | nil => simp [hname] at h
  | cons c cs => exact ⟨c, cs ++ ['('], by simp [hname], by simpa [hname] using h⟩

theorem method?_eq {before after : List String} {body : List Statement}
    (hname : IsMember name)
    (hbefore : ∀ l ∈ before, ¬ ("  " ++ name ++ "(").toList <+: l.toList)
    (hhead : m.head = name ++ "(params: " ++ tail)
    (hbody : body? ((m.body.flatMap Wrapper.Statement.lines).map ("    " ++ ·)) = some body) :
    method? name (before ++ (m.lines ++ after)) = some ⟨"params", body⟩ := by
  obtain ⟨c, cs, hstart, hc⟩ := hname.exists_cons
  let comment := if m.comment.isEmpty then []
    else ["  /**"] ++ m.comment.map ("   * " ++ ·) ++ ["  */"]
  let bodyLines := (m.body.flatMap Wrapper.Statement.lines).map ("    " ++ ·)
  have hlines : before ++ (m.lines ++ after) = (before ++ comment) ++
      ("  " ++ m.head ++ " \x7b") :: (bodyLines ++ "  \x7d" :: after) := by
    simp [Wrapper.Method.lines, comment, bodyLines]
  have hskip : ∀ l ∈ before ++ comment, ¬ ("  " ++ name ++ "(").toList <+: l.toList := by
    intro l hl
    rcases List.mem_append.1 hl with hl | hl
    · exact hbefore l hl
    · simp only [comment] at hl
      split at hl
      · cases hl
      · exact not_prefix_comment hstart hc hl
  have hopen : "  \x7d" ∉ bodyLines := by
    intro hmem
    obtain ⟨line, -, hline⟩ := List.mem_map.1 hmem
    have hchars := congrArg (·.toList.take 3) hline
    simp at hchars
  have hblock : block? ("  " ++ name ++ "(") "  \x7d" (before ++ (m.lines ++ after)) =
      some ("  " ++ m.head ++ " \x7b", bodyLines) := by
    rw [hlines]
    exact block?_eq hskip (by simp [hhead]) hopen
  have hfill : ("  " ++ m.head ++ " \x7b").toList =
      Piece.fill [.text ("  " ++ name ++ "("), .hole .word, .text ": ", .hole .all]
        ["params", tail ++ " \x7b"] := by
    simp [hhead, Piece.fill]
  have hread := Piece.read?_fill [.text ("  " ++ name ++ "("), .hole .word, .text ": ", .hole .all]
    ["params", tail ++ " \x7b"] rfl ⟨isWord_of_all (by decide), fun _ _ => rfl, trivial⟩
  simp only [method?, hblock, hfill, hread, bodyLines, hbody, Option.bind_eq_bind,
    Option.bind_some, Option.map_some]

/-! ## Classes -/

def classOf (a : Algorithm) (s : Settings) : Class where
  defaults := a.parameters.map fun p => (p.name, defaultValue p)
  initial := .spread "params" [.field "defaultParams"]
  creation := ⟨"params", [.call "updateParams" "params",
    .create "algoInstance" s.backend a.name (parameterProperties (a.parameters.map (·.name)))]⟩
  configuration := ⟨"params", [.call "updateParams" "params",
    .invoke "algoInstance" "configure" (parameterProperties (a.parameters.map (·.name)))]⟩
  update := ⟨"params", mergeBody (Wrapper.coercedNames a)⟩

variable {a : Algorithm} {s : Settings} {d : Descriptor} {x : Artifact}

def openingLines (a : Algorithm) (s : Settings) : List String :=
  ["/**", "* " ++ a.descriptor.summary ++ " Check " ++ s.referenceUrl a.name ++
    " for more details.", "* @class", "*/", "class " ++ a.name ++ " \x7b"]

def entryLines (a : Algorithm) : List String :=
  a.parameters.map fun p => "    " ++ p.name ++ ": " ++ defaultLiteral p ++ ","

theorem classLines_eq (hp : a.hasParameters = true) (inputs : List Wrapper.Input) :
    Wrapper.classLines a s inputs = openingLines a s ++ ("  private algoInstance: any;" ::
      ("  private readonly defaultParams: " ++ s.qualifiedParameterType a.name ++ " = \x7b") ::
        (entryLines a ++ "  \x7d;" ::
          ("  private params: " ++ s.qualifiedParameterType a.name ++
            " = \x7b ...this.defaultParams \x7d;") ::
          ((Wrapper.methods a s inputs).flatMap Wrapper.Method.lines ++ ["\x7d"]))) := by
  simp [Wrapper.classLines, Wrapper.fieldLines, hp, openingLines, entryLines]

theorem not_prefix_opening {start : String} {cs : List Char}
    (hstart : start.toList = ' ' :: cs) : ∀ l ∈ openingLines a s, ¬ start.toList <+: l.toList := by
  intro l hl hbegins
  rw [hstart] at hbegins
  simp only [openingLines, List.mem_cons, List.not_mem_nil, or_false] at hl
  rcases hl with rfl | rfl | rfl | rfl | rfl <;> simp at hbegins

theorem block?_defaults (hp : a.hasParameters = true) (inputs : List Wrapper.Input) :
    block? "  private readonly defaultParams: " "  \x7d;" (Wrapper.classLines a s inputs) =
      some ("  private readonly defaultParams: " ++ s.qualifiedParameterType a.name ++ " = \x7b",
        entryLines a) := by
  have hlines : Wrapper.classLines a s inputs =
      (openingLines a s ++ ["  private algoInstance: any;"]) ++
        ("  private readonly defaultParams: " ++ s.qualifiedParameterType a.name ++ " = \x7b") ::
        (entryLines a ++ "  \x7d;" ::
          ("  private params: " ++ s.qualifiedParameterType a.name ++
            " = \x7b ...this.defaultParams \x7d;") ::
          ((Wrapper.methods a s inputs).flatMap Wrapper.Method.lines ++ ["\x7d"])) := by
    rw [classLines_eq hp, List.append_assoc, List.singleton_append]
  have hbefore : ∀ l ∈ openingLines a s ++ ["  private algoInstance: any;"],
      ¬ "  private readonly defaultParams: ".toList <+: l.toList := by
    intro l hl
    rcases List.mem_append.1 hl with hl | hl
    · exact not_prefix_opening rfl l hl
    · rw [List.mem_singleton.1 hl]
      decide
  have hbody : "  \x7d;" ∉ entryLines a := by
    intro hmem
    obtain ⟨p, -, hline⟩ := List.mem_map.1 hmem
    have hchars := congrArg (·.toList.take 3) hline
    simp at hchars
  rw [hlines]
  exact block?_eq hbefore (by simp) hbody

/-- The lines of a class before the field with the parameters. -/
def fieldsBefore (a : Algorithm) (s : Settings) : List String :=
  openingLines a s ++ ("  private algoInstance: any;" ::
    ("  private readonly defaultParams: " ++ s.qualifiedParameterType a.name ++ " = \x7b") ::
      (entryLines a ++ ["  \x7d;"]))

/-- Before that field only the other two fields begin like members. -/
theorem not_prefix_fieldsBefore {start : String} (hstart : start.toList = ' ' :: ' ' :: c :: cs)
    (hc : startsIdentifier c = true)
    (hinstance : ¬ start.toList <+: "  private algoInstance: any;".toList)
    (hdefaults : ∀ t, ¬ start.toList <+: ("  private readonly defaultParams: " ++ t).toList) :
    ∀ l ∈ fieldsBefore a s, ¬ start.toList <+: l.toList := by
  intro l hl hbegins
  have hthird := fun d ds hlist => startsIdentifier_of_prefix d ds hstart hc hlist hbegins
  simp only [fieldsBefore, List.mem_append, List.mem_cons, List.not_mem_nil, or_false] at hl
  rcases hl with hl | rfl | rfl | hl | rfl
  · exact not_prefix_opening hstart l hl hbegins
  · exact hinstance hbegins
  · rw [String.append_assoc] at hbegins
    exact hdefaults _ hbegins
  · obtain ⟨p, -, rfl⟩ := List.mem_map.1 hl
    exact absurd (hthird ' ' _ (by simp; rfl)) (by decide)
  · exact absurd (hthird '\x7d' _ rfl) (by decide)

theorem classLines_eq_fields (hp : a.hasParameters = true) (inputs : List Wrapper.Input) :
    Wrapper.classLines a s inputs = fieldsBefore a s ++
      ("  private params: " ++ s.qualifiedParameterType a.name ++
        " = \x7b ...this.defaultParams \x7d;") ::
      ((Wrapper.methods a s inputs).flatMap Wrapper.Method.lines ++ ["\x7d"]) := by
  simp [classLines_eq hp, fieldsBefore]

theorem initial?_classLines (hp : a.hasParameters = true)
    (hspace : IsWord s.typeNamespace.toList) (hname : IsWord a.name.toList)
    (inputs : List Wrapper.Input) :
    initial? (Wrapper.classLines a s inputs) =
      some (.spread "params" [.field "defaultParams"]) := by
  let line := "  private params: " ++ s.qualifiedParameterType a.name ++
    " = \x7b ...this.defaultParams \x7d;"
  have hfind : (Wrapper.classLines a s inputs).find?
      (fun l => "  private params: ".toList.isPrefixOf l.toList) = some line := by
    have hbefore : (fieldsBefore a s).find?
        (fun l => "  private params: ".toList.isPrefixOf l.toList) = none := by
      refine List.find?_eq_none.2 fun l hl => ?_
      rw [List.isPrefixOf_iff_prefix]
      exact not_prefix_fieldsBefore rfl (by decide) (by decide) (fun t => by simp) l hl
    rw [classLines_eq_fields hp, List.find?_append, hbefore, Option.none_or]
    exact List.find?_cons_of_pos (by simp)
  have hfill : line.toList = Piece.fill [.text "  private params: ", .hole .type,
      .text "= \x7b ...", .hole .path, .text " \x7d;"]
      [s.qualifiedParameterType a.name ++ " ", "this.defaultParams"] := by
    simp [line, Piece.fill]
  have htype : ∀ c ∈ (s.qualifiedParameterType a.name ++ " ").toList,
      Hole.accepts .type c = true := by
    intro c hc
    refine bne_iff_ne.2 ?_
    rintro rfl
    have hspace' : '=' ∉ s.typeNamespace.toList := hspace.not_mem (by decide)
    have hname' : '=' ∉ a.name.toList := hname.not_mem (by decide)
    simp [Settings.qualifiedParameterType, Settings.parameterType, hspace', hname'] at hc
  have hread := Piece.read?_fill [.text "  private params: ", .hole .type,
      .text "= \x7b ...", .hole .path, .text " \x7d;"]
    [s.qualifiedParameterType a.name ++ " ", "this.defaultParams"] (by decide)
    ⟨htype, List.all_eq_true.1 (by decide), trivial⟩
  simp only [initial?, hfind, hfill, hread, Option.bind_eq_bind, Option.bind_some]
  rfl

theorem mapM_keyValue?
    (h : ∀ p ∈ a.parameters, IsWord p.name.toList ∧ p.tag.accepts p.default = true) :
    (entryLines a).mapM keyValue? = some (a.parameters.map fun p => (p.name, defaultValue p)) := by
  rw [entryLines, List.mapM_map]
  exact mapM_some fun p hp => keyValue?_default (h p hp).1 (h p hp).2

theorem method?_classLines (done : List Wrapper.Method) {others : List Wrapper.Method}
    {inputs : List Wrapper.Input} {body : List Statement} (hp : a.hasParameters = true)
    (hmethods : Wrapper.methods a s inputs = done ++ m :: others)
    (hname : IsMember name)
    (hinstance : ¬ ("  " ++ name ++ "(").toList <+: "  private algoInstance: any;".toList)
    (hdefaults : ∀ t, ¬ ("  " ++ name ++ "(").toList <+:
      ("  private readonly defaultParams: " ++ t).toList)
    (hparams : ∀ t, ¬ ("  " ++ name ++ "(").toList <+: ("  private params: " ++ t).toList)
    (hdone : ∀ m' ∈ done, ¬ ("  " ++ name ++ "(").toList <+: ("  " ++ m'.head ++ " \x7b").toList)
    (hhead : m.head = name ++ "(params: " ++ tail)
    (hbody : body? ((m.body.flatMap Wrapper.Statement.lines).map ("    " ++ ·)) = some body) :
    method? name (Wrapper.classLines a s inputs) = some ⟨"params", body⟩ := by
  have hlines : Wrapper.classLines a s inputs =
      (fieldsBefore a s ++ ("  private params: " ++ s.qualifiedParameterType a.name ++
        " = \x7b ...this.defaultParams \x7d;") :: done.flatMap Wrapper.Method.lines) ++
      (m.lines ++ (others.flatMap Wrapper.Method.lines ++ ["\x7d"])) := by
    simp [classLines_eq_fields hp, hmethods]
  obtain ⟨c, cs, hstart, hc⟩ := hname.exists_cons
  rw [hlines]
  refine method?_eq hname ?_ hhead hbody
  intro l hl hbegins
  rcases List.mem_append.1 hl with hl | hl
  · exact not_prefix_fieldsBefore hstart hc hinstance hdefaults l hl hbegins
  · rcases List.mem_cons.1 hl with rfl | hl
    · have hline : "  private params: " ++ s.qualifiedParameterType a.name ++
          " = \x7b ...this.defaultParams \x7d;" = "  private params: " ++
          (s.qualifiedParameterType a.name ++ " = \x7b ...this.defaultParams \x7d;") :=
        String.append_assoc ..
      rw [hline] at hbegins
      exact hparams _ hbegins
    · obtain ⟨m', hm', hl⟩ := List.mem_flatMap.1 hl
      have heq := eq_head_of_prefix hstart hc hl hbegins
      rw [heq] at hbegins
      exact hdone m' hm' hbegins

theorem methods_eq (hp : a.hasParameters = true) (inputs : List Wrapper.Input) :
    ∃ m₁ m₂ m₃ m₄ m₅, Wrapper.methods a s inputs = [m₁, m₂, m₃, m₄, m₅] ∧
      (∃ tail, m₁.head = "constructor(params: " ++ tail) ∧
      (∃ tail, m₂.head = "configure(params: " ++ tail) ∧
      (∃ tail, m₃.head = "compute(" ++ tail) ∧ m₄.head = "delete()" ∧
      (∃ tail, m₅.head = "private updateParams(params: " ++ tail) ∧
      m₁.body = [.update, .create s.backend a.name (Wrapper.parameterNames a)] ∧
      m₂.body = [.update, .configure (Wrapper.parameterNames a)] ∧
      m₅.body = Wrapper.merging (Wrapper.coercedNames a) := by
  let type := s.qualifiedParameterType a.name
  simp only [Wrapper.methods, Wrapper.updating, Wrapper.parameterArgument, hp, if_true,
    List.cons_append, List.nil_append]
  refine ⟨_, _, _, _, _, rfl, ⟨"Partial<" ++ type ++ "> = \x7b\x7d)", ?_⟩,
    ⟨"Partial<" ++ type ++ "> = \x7b\x7d)", ?_⟩, ⟨_, String.append_assoc ..⟩, rfl,
    ⟨"Partial<" ++ type ++ ">)", ?_⟩, rfl, rfl, rfl⟩
  all_goals simp [← String.toList_inj, type]

theorem read?_wrapperClass (hd : d.IsValid) (hp : d.parameters ≠ [])
    (hbackend : isIdentifier s.backend = true) (hspace : isIdentifier s.typeNamespace = true)
    (ha : Algorithm.ofDescriptor s d = .ok a) (hx : Wrapper.wrapperClass a s = .ok x) :
    Class.read? x.lines = some (classOf a s) := by
  have hdescriptor : a.descriptor = d := Algorithm.descriptor_of_ok ha
  have hhas : a.hasParameters = true := by
    simpa [Algorithm.hasParameters, Descriptor.hasParameters, hdescriptor] using hp
  have hname : IsWord a.name.toList := by
    rw [Algorithm.name, hdescriptor]
    exact isWord_of_isIdentifier hd.hasIdentifiers.name
  have hwords : ∀ name ∈ a.parameters.map (·.name), IsWord name.toList := by
    rw [Algorithm.parameters, hdescriptor]
    refine List.forall_mem_map.2 fun p hp => ?_
    exact isWord_of_isIdentifier (hd.hasIdentifiers.parameters p hp)
  have hdefaults : (entryLines a).mapM keyValue? =
      some (a.parameters.map fun p => (p.name, defaultValue p)) := by
    refine mapM_keyValue? fun p hp => ⟨hwords _ (List.mem_map_of_mem hp), ?_⟩
    rw [Algorithm.parameters, hdescriptor] at hp
    exact hd.accepts hp
  rw [Wrapper.wrapperClass_lines hx]
  -- the inputs only matter for the method that computes, which is passed over
  generalize a.inputs.map Wrapper.inputArgument = inputs
  obtain ⟨m₁, m₂, m₃, m₄, m₅, hmethods, ⟨t₁, h₁⟩, ⟨t₂, h₂⟩, ⟨t₃, h₃⟩, h₄, ⟨t₅, h₅⟩,
    hb₁, hb₂, hb₅⟩ := methods_eq (s := s) hhas inputs
  have hcreation : method? "constructor" (Wrapper.classLines a s inputs) =
      some (classOf a s).creation := by
    refine method?_classLines [] hhas hmethods (by decide) (by decide)
      (fun t => by simp) (fun t => by simp) (by simp) h₁ ?_
    rw [hb₁]
    exact body?_creation (isWord_of_isIdentifier hbackend) hname hwords
  have hconfiguration : method? "configure" (Wrapper.classLines a s inputs) =
      some (classOf a s).configuration := by
    refine method?_classLines [m₁] hhas hmethods (by decide) (by decide)
      (fun t => by simp) (fun t => by simp) (by simp [h₁]) h₂ ?_
    rw [hb₂]
    exact body?_configuration hwords
  have hupdate : method? "private updateParams" (Wrapper.classLines a s inputs) =
      some (classOf a s).update := by
    refine method?_classLines [m₁, m₂, m₃, m₄] hhas hmethods (by decide) (by decide)
      (fun t => by simp) (fun t => by simp) (by simp [h₁, h₂, h₃, h₄]) h₅ ?_
    rw [hb₅]
    refine body?_merging fun name hcoerced => ?_
    obtain ⟨p, hp, rfl⟩ := List.mem_map.1 hcoerced
    exact hwords _ (List.mem_map_of_mem (List.mem_filter.1 hp).1)
  have hinitial := initial?_classLines (s := s) hhas (isWord_of_isIdentifier hspace) hname inputs
  simp only [Class.read?, block?_defaults hhas, hdefaults, hinitial, hcreation, hconfiguration,
    hupdate, Option.bind_eq_bind, Option.bind_some]
  rfl

end Bindery.Script
