import Bindery.Catalog.Tag
import Bindery.Json.Record
import Bindery.Json.Writer
import Bindery.Text.Paragraph

/-!
# Algorithm descriptors

What a catalog says about one algorithm: ordered inputs, outputs and parameters,
with free text beside them. The order is that of all generated code.
-/

namespace Bindery

open Json (Draft Error Record Value)

/-- An input or an output of an algorithm. -/
structure Pin where
  name : String
  tag : Tag
  description : String := ""
deriving Repr, DecidableEq

/-- A parameter of an algorithm, with its default as a literal text. -/
structure Parameter where
  name : String
  tag : Tag
  default : String
  description : String := ""
deriving Repr, DecidableEq

/-- What a catalog says about one algorithm. -/
structure Descriptor where
  name : String
  description : String := ""
  inputs : List Pin := []
  outputs : List Pin := []
  parameters : List Parameter := []
deriving Repr, DecidableEq

namespace Descriptor

def hasParameters (d : Descriptor) : Bool := !d.parameters.isEmpty

/-- The algorithm has no input, output or parameter. -/
def isEmpty (d : Descriptor) : Bool :=
  d.inputs.isEmpty && d.outputs.isEmpty && d.parameters.isEmpty

def summary (d : Descriptor) : String := Text.firstParagraph d.description

/-- The same algorithm with another description. -/
def describe (text : String) (d : Descriptor) : Descriptor := { d with description := text }

def addInput (p : Pin) (d : Descriptor) : Descriptor := { d with inputs := d.inputs ++ [p] }

def addOutput (p : Pin) (d : Descriptor) : Descriptor := { d with outputs := d.outputs ++ [p] }

def addParameter (p : Parameter) (d : Descriptor) : Descriptor :=
  { d with parameters := d.parameters ++ [p] }

end Descriptor

mutual

/-- The literal text that a JSON value spells: a string is its own, numbers and truth values are
written as in JSON, and lists are bracketed. Nothing and objects spell none. -/
def literal? : Value → Option String
  | .string s => some s
  | .number n => some n.text
  | .bool b => some (toString b)
  | .array items => (literals? items).map fun parts => "[" ++ ", ".intercalate parts ++ "]"
  | .null => none
  | .object _ => none

/-- The literal texts of all elements of a list. -/
def literals? : List Value → Option (List String)
  | [] => some []
  | v :: rest => do
    let part ← literal? v
    let parts ← literals? rest
    return part :: parts

end

/-- Reads a default: a value of any kind that spells a literal, inside which at most `room`
containers may lie in one another. -/
def Json.Draft.literal (room : Nat) (d : Draft) : Except Error String :=
  match d.keep room with
  | .error b => .error (.broken b)
  | .ok v =>
    match literal? v with
    | some text => .ok text
    | none => .error (.data (.unsupportedLiteral v))

def Json.Draft.tag (d : Draft) : Except Error Tag := d.text.map Tag.ofName

namespace Pin

/-- How a pin is written; `title` is what messages call it. -/
def record (title : String) : Record Pin where
  title := title
  blank := { name := "", tag := .real }
  members := [
    .of "name" true Draft.text fun x p => { p with name := x },
    .of "type" true Draft.tag fun x p => { p with tag := x },
    .of "description" false Draft.text fun x p => { p with description := x }]
  closed := false

def json (p : Pin) : Value :=
  .object [("name", .string p.name), ("type", .string p.tag.name),
    ("description", .string p.description)]

end Pin

namespace Parameter

def record (room : Nat) : Record Parameter where
  title := "ParamSpec"
  blank := { name := "", tag := .real, default := "" }
  members := [
    .of "name" true Draft.text fun x p => { p with name := x },
    .of "type" true Draft.tag fun x p => { p with tag := x },
    .of "default" true (Draft.literal room) fun x p => { p with default := x },
    .of "description" false Draft.text fun x p => { p with description := x }]
  closed := false

def json (p : Parameter) : Value :=
  .object [("name", .string p.name), ("type", .string p.tag.name),
    ("default", .string p.default), ("description", .string p.description)]

end Parameter

namespace Descriptor

/-- How many containers may lie in one another in a text whose values are kept. -/
def nestingLimit : Nat := 127

/-- How a descriptor is written that lies inside `outside` containers. A default lies three
containers deeper. -/
def record (outside : Nat) : Record Descriptor where
  title := "AlgorithmDescriptor"
  blank := { name := "" }
  members := [
    .of "name" true Draft.text fun x d => { d with name := x },
    .of "description" false Draft.text fun x d => { d with description := x },
    .of "inputs" false (Draft.list (Pin.record "InputSpec").decode)
      fun x d => { d with inputs := x },
    .of "outputs" false (Draft.list (Pin.record "OutputSpec").decode)
      fun x d => { d with outputs := x },
    .of "parameters" false
      (Draft.list (Parameter.record (nestingLimit - (outside + 3))).decode)
      fun x d => { d with parameters := x }]
  closed := false

def json (d : Descriptor) : Value :=
  .object [("name", .string d.name), ("description", .string d.description),
    ("inputs", .array (d.inputs.map Pin.json)), ("outputs", .array (d.outputs.map Pin.json)),
    ("parameters", .array (d.parameters.map Parameter.json))]

def ofJson (text : String) : Except Error Descriptor :=
  Json.decodeText (record 0).decode text

/-- The text of a descriptor, with one member a line. -/
def pretty (d : Descriptor) : String := d.json.pretty

end Descriptor

end Bindery
