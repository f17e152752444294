import Bindery.Proofs.Forms
import Bindery.Proofs.Reading
import Bindery.Wrapper.Literal

/-!
# The language of wrapper classes

What the methods of a wrapper class are written in: objects are copied and spread over
each other, a property is converted where it counts as true, and properties are handed
on as arguments. Objects are finite maps that are referred to; spreading makes a new
object and leaves those it is made of as they are.
-/

namespace Bindery.Script

/-! ## Statements -/

inductive Place where
  | name (n : String)
  /-- A field of the class's instance. -/
  | field (n : String)
deriving DecidableEq

structure Property where
  owner : String
  key : String
deriving DecidableEq

inductive Statement where
  /-- A method of the class is called. -/
  | call (method : String) (argument : String)
  /-- A field becomes a new instance of a class. -/
  | create (field space class' : String) (arguments : List Property)
  /-- A method of what is in a field is called. -/
  | invoke (field method : String) (arguments : List Property)
  /-- A name is given to a copy of an object. -/
  | copy (name : String) (source : Place)
  /-- A property that counts as true becomes what a function makes of it. -/
  | convert (name key function : String)
  /-- A field becomes a new object with the properties of others, the later ones on top. -/
  | spread (field : String) (sources : List Place)
deriving DecidableEq

/-! ## Reading statements -/

def place (path : String) : Place :=
  match path.toList.dropPrefix? "this.".toList with
  | some name => .field (String.ofList name)
  | none => .name path

def property? (text : String) : Option Property :=
  match Piece.read? [.text "this.", .hole .word, .text ".", .hole .word] text.toList with
  | some [owner, key] => some ⟨owner, key⟩
  | _ => none

def properties? (list : String) : Option (List Property) := (items list).mapM property?

def callForm : Form Statement where
  pieces := [.text "    this.", .hole .word, .text "(", .hole .word, .text ");"]
  make
    | [method, argument] => some (.call method argument)
    | _ => none

def createForm : Form Statement where
  pieces := [.text "    this.", .hole .word, .text " = new ", .hole .word, .text ".", .hole .word,
    .text "(", .hole .list, .text ");"]
  make
    | [field, space, class', list] => (properties? list).map (.create field space class')
    | _ => none

def invokeForm : Form Statement where
  pieces := [.text "    this.", .hole .word, .text ".", .hole .word, .text "(", .hole .list,
    .text ");"]
  make
    | [field, method, list] => (properties? list).map (.invoke field method)
    | _ => none

def copyForm : Form Statement where
  pieces := [.text "    const ", .hole .word, .text ": any = \x7b ...", .hole .path,
    .text " \x7d;"]
  make
    | [name, path] => some (.copy name (place path))
    | _ => none

def spreadForm : Form Statement where
  pieces := [.text "    this.", .hole .word, .text " = \x7b ...", .hole .path, .text ", ...",
    .hole .path, .text " \x7d;"]
  make
    | [field, path, top] => some (.spread field [place path, place top])
    | _ => none

def lineForms : List (Form Statement) := [callForm, createForm, invokeForm, copyForm, spreadForm]

def conditionForm : Form Property where
  pieces := [.text "    if (", .hole .word, .text ".", .hole .word, .text ") \x7b"]
  make
    | [name, key] => some ⟨name, key⟩
    | _ => none

def conversionForm : Form (Property × String × Property) where
  pieces := [.text "      ", .hole .word, .text ".", .hole .word, .text " = ", .hole .word,
    .text "(", .hole .word, .text ".", .hole .word, .text ");"]
  make
    | [target, key, function, source, key'] => some (⟨target, key⟩, function, ⟨source, key'⟩)
    | _ => none

/-- Reads the three lines of a conversion under a condition. -/
def convert? (p : Property) (inner close : String) : Option Statement :=
  match conversionForm.read? inner.toList with
  | some (target, function, source) =>
    if target = p ∧ source = p ∧ close = "    \x7d" then some (.convert p.owner p.key function)
    else none
  | none => none

def body? : List String → Option (List Statement)
  | [] => some []
  | line :: rest =>
    match conditionForm.read? line.toList with
    | some p =>
      match rest with
      | inner :: close :: rest =>
        (convert? p inner close).bind fun st => (body? rest).map (st :: ·)
      | _ => none
    | none => (Form.readBy? lineForms line.toList).bind fun st => (body? rest).map (st :: ·)

/-! ### Lines that are read as they were written -/

theorem areApart_lineForms : Form.areApart lineForms = true := by decide

theorem body?_line (f : Form Statement) (ws : List String) {st : Statement} {line : String}
    {rest : List String} (hline : line.toList = Piece.fill f.pieces ws) (hf : f ∈ lineForms)
    (hws : Piece.Fits f.pieces ws) (hst : f.make ws = some st) :
    body? (line :: rest) = (body? rest).map (st :: ·) := by
  have hapart : ∀ g ∈ lineForms, Piece.areApart g.pieces conditionForm.pieces = true := by decide
  have hcondition : conditionForm.read? line.toList = none := by
    rw [Form.read?, hline, Piece.read?_of_areApart (Form.isDelimited_of_mem areApart_lineForms hf)
      hws (hapart f hf), Option.bind_none]
  have hread := Form.readBy?_fill areApart_lineForms hf hws hst
  rw [← hline] at hread
  simp only [body?, hcondition, hread, Option.bind_some]

theorem body?_convert (name key function : String) {condition conversion : String}
    {rest : List String}
    (hcondition : condition = "    if (" ++ name ++ "." ++ key ++ ") \x7b")
    (hconversion : conversion = "      " ++ name ++ "." ++ key ++ " = " ++ function ++ "(" ++
      name ++ "." ++ key ++ ");")
    (hname : IsWord name.toList) (hkey : IsWord key.toList) (hfunction : IsWord function.toList) :
    body? (condition :: conversion :: "    \x7d" :: rest) =
      (body? rest).map (.convert name key function :: ·) := by
  have hfirst : conditionForm.read? condition.toList = some ⟨name, key⟩ := by
    have hfill : condition.toList = Piece.fill conditionForm.pieces [name, key] := by
      simp [hcondition, conditionForm, Piece.fill]
    rw [hfill]
    exact Form.read?_fill (by decide) ⟨hname, hkey, trivial⟩ rfl
  have hsecond : conversionForm.read? conversion.toList =
      some (⟨name, key⟩, function, ⟨name, key⟩) := by
    have hfill : conversion.toList =
        Piece.fill conversionForm.pieces [name, key, function, name, key] := by
      simp [hconversion, conversionForm, Piece.fill]
    rw [hfill]
    exact Form.read?_fill (by decide) ⟨hname, hkey, hfunction, hname, hkey, trivial⟩ rfl
  simp [body?, hfirst, convert?, hsecond]

theorem properties?_intercalate (owner : String) {keys : List String} (ho : IsWord owner.toList)
    (hkeys : ∀ key ∈ keys, IsWord key.toList) :
    properties? (", ".intercalate (keys.map fun key => "this." ++ owner ++ "." ++ key)) =
      some (keys.map (⟨owner, ·⟩)) := by
  have hitem : ∀ key ∈ keys, IsItem ("this." ++ owner ++ "." ++ key) := by
    intro key hkey
    constructor
    · simp [← String.toList_inj]
    · have hcomma : ',' ∉ owner.toList := ho.not_mem (by decide)
      have hcomma' : ',' ∉ key.toList := (hkeys key hkey).not_mem (by decide)
      simp [hcomma, hcomma']
  have hread : ∀ key ∈ keys, property? ("this." ++ owner ++ "." ++ key) = some ⟨owner, key⟩ := by
    intro key hkey
    have hfill : ("this." ++ owner ++ "." ++ key).toList =
        Piece.fill [.text "this.", .hole .word, .text ".", .hole .word] [owner, key] := by
      simp [Piece.fill]
    have hread := Piece.read?_fill [.text "this.", .hole .word, .text ".", .hole .word]
      [owner, key] (by decide) ⟨ho, hkeys key hkey, trivial⟩
    rw [property?, hfill, hread]
  rw [properties?, items_intercalate (List.forall_mem_map.2 hitem), List.mapM_map]
  exact mapM_some hread

/-! ## Literals -/

/-- The value of a property as it is written. -/
inductive Literal where
  | text (s : String)
  /-- Any other expression, by its spelling. -/
  | expression (spelling : String)
deriving DecidableEq

/-- The characters before the closing quote. A backslash takes the character after it as it is. -/
def unquoted? : List Char → Option (List Char)
  | [] => none
  | c :: rest =>
    if c = '\'' then if rest.isEmpty then some [] else none
    else if c = '\\' then
      match rest with
      | [] => none
      | d :: rest => (unquoted? rest).map (d :: ·)
    else (unquoted? rest).map (c :: ·)

def literal? : List Char → Option Literal
  | '\'' :: rest => (unquoted? rest).map fun cs => .text (String.ofList cs)
  | cs => some (.expression (String.ofList cs))

/-- Reads a line of an object literal: a key, and a value with a comma behind it. -/
def keyValue? (line : String) : Option (String × Literal) :=
  match Piece.read? [.text "    ", .hole .word, .text ": ", .hole .all] line.toList with
  | some [key, value] =>
    if value.toList.getLast? = some ',' then
      (literal? value.toList.dropLast).map (key, ·)
    else none
  | _ => none

theorem keyValue?_eq {key value : String} {l : Literal} (hkey : IsWord key.toList)
    (hvalue : literal? value.toList = some l) :
    keyValue? ("    " ++ key ++ ": " ++ value ++ ",") = some (key, l) := by
  have hfill : ("    " ++ key ++ ": " ++ value ++ ",").toList =
      Piece.fill [.text "    ", .hole .word, .text ": ", .hole .all] [key, value ++ ","] := by
    simp [Piece.fill]
  have hread := Piece.read?_fill [.text "    ", .hole .word, .text ": ", .hole .all]
    [key, value ++ ","] (by decide) ⟨hkey, fun _ _ => rfl, trivial⟩
  rw [keyValue?, hfill, hread]
  simp [hvalue]

theorem unquoted?_cons {c : Char} {rest : List Char} (hquote : c ≠ '\'') (hback : c ≠ '\\') :
    unquoted? (c :: rest) = (unquoted? rest).map (c :: ·) := by
  cases rest with
  | nil => simp [unquoted?, hquote, hback]
  | cons d rest => simp [unquoted?, hquote, hback]

theorem unquoted?_escapedText (cs : List Char) :
    unquoted? (Wrapper.escapedText cs ++ ['\'']) = some cs := by
  induction cs with
  | nil => rfl
  | cons c rest ih =>
      rw [Wrapper.escapedText]
      split
      · simp [unquoted?, ih]
      · rename_i hc
        rw [not_or] at hc
        rw [List.cons_append, unquoted?_cons hc.2 hc.1, ih, Option.map_some]

theorem literal?_singleQuoted (s : String) :
    literal? (Wrapper.singleQuoted s).toList = some (.text s) := by
  have hquoted : (Wrapper.singleQuoted s).toList =
      '\'' :: (Wrapper.escapedText s.toList ++ ['\'']) := by
    simp [Wrapper.singleQuoted, Wrapper.escaped]
  rw [hquoted, literal?, unquoted?_escapedText, Option.map_some, String.ofList_toList]

theorem literal?_expression {cs : List Char} (h : cs.head? ≠ some '\'') :
    literal? cs = some (.expression (String.ofList cs)) := by
  unfold literal?
  split
  · simp at h
  · rfl

end Bindery.Script
