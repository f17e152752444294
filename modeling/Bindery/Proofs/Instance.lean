import Bindery.Proofs.Script
import Mathlib.Logic.Function.Basic

/-!
# Instances of wrapper classes

A class is read from its lines, and an instance of it lives among objects that are
only ever added to or changed in place. What the backend is called with is kept in
order. Values, and what functions and literals give, are up to a runtime.
-/

namespace Bindery.Script

/-! ## Classes -/

structure Method where
  argument : String
  body : List Statement

/-- A class, as far as it concerns parameters. -/
structure Class where
  defaults : List (String × Literal)
  /-- What the field with the parameters begins as. -/
  initial : Statement
  creation : Method
  configuration : Method
  /-- The method that only the class itself calls. -/
  update : Method

def method? (name : String) (lines : List String) : Option Method := do
  let start := "  " ++ name ++ "("
  let (head, body) ← block? start "  \x7d" lines
  match Piece.read? [.text start, .hole .word, .text ": ", .hole .all] head.toList with
  | some [argument, _] => (body? body).map fun body => ⟨argument, body⟩
  | _ => none

def initial? (lines : List String) : Option Statement := do
  let line ← lines.find? fun l => "  private params: ".toList.isPrefixOf l.toList
  match Piece.read? [.text "  private params: ", .hole .type, .text "= \x7b ...", .hole .path,
      .text " \x7d;"] line.toList with
  | some [_, path] => some (.spread "params" [place path])
  | _ => none

def Class.read? (lines : List String) : Option Class := do
  let (_, entries) ← block? "  private readonly defaultParams: " "  \x7d;" lines
  let defaults ← entries.mapM keyValue?
  let initial ← initial? lines
  let creation ← method? "constructor" lines
  let configuration ← method? "configure" lines
  let update ← method? "private updateParams" lines
  return { defaults, initial, creation, configuration, update }

/-! ## Running -/

/-- A finite map from keys to values. -/
abbrev Object (V : Type) := String → Option V

/-- What the language leaves to its surroundings. -/
structure Runtime (V : Type) where
  text : String → V
  expression : String → V
  isTrue : V → Bool
  function : String → V → V

def Runtime.value {V : Type} (rt : Runtime V) : Literal → V
  | .text s => rt.text s
  | .expression spelling => rt.expression spelling

/-- A call of the backend. A property that is not there is handed on as none. -/
structure Call (V : Type) where
  callee : String
  arguments : List (Option V)

/-- An instance under way. Names and fields refer to objects by their place. -/
structure Store (V : Type) where
  objects : List (Object V)
  names : String → Option Nat
  fields : String → Option Nat
  calls : List (Call V) := []

variable {V : Type}

namespace Object

def empty : Object V := fun _ => none

def spread (o top : Object V) : Object V := fun key => (top key).or (o key)

/-- The object of a literal. Of values for one key the last one counts. -/
def ofLiteral (rt : Runtime V) (entries : List (String × Literal)) : Object V := fun key =>
  (entries.reverse.find? (·.1 = key)).map fun entry => rt.value entry.2

/-- The object with a property converted, if the property counts as true. -/
def converted (rt : Runtime V) (function key : String) (o : Object V) : Object V :=
  match o key with
  | some x => if rt.isTrue x then Function.update o key (some (rt.function function x)) else o
  | none => o

end Object

namespace Store

def address? (s : Store V) : Place → Option Nat
  | .name n => s.names n
  | .field n => s.fields n

def object? (s : Store V) (p : Place) : Option (Object V) :=
  (s.address? p).bind (s.objects[·]?)

def arguments? (s : Store V) (ps : List Property) : Option (List (Option V)) :=
  ps.mapM fun p => (s.object? (.field p.owner)).map (· p.key)

/-- One statement. What cannot be done has no outcome. -/
def step (rt : Runtime V) (call : String → Nat → Store V → Option (Store V)) (s : Store V) :
    Statement → Option (Store V)
  | .call method argument => (s.names argument).bind fun a => call method a s
  | .create _ space class' ps => (s.arguments? ps).map fun xs =>
    { s with calls := s.calls ++ [⟨"new " ++ space ++ "." ++ class', xs⟩] }
  | .invoke field method ps => (s.arguments? ps).map fun xs =>
    { s with calls := s.calls ++ [⟨field ++ "." ++ method, xs⟩] }
  | .copy name source => (s.object? source).map fun o =>
    { s with
      objects := s.objects ++ [o]
      names := Function.update s.names name (some s.objects.length) }
  | .convert name key function => do
    let a ← s.names name
    let o ← s.objects[a]?
    return { s with objects := s.objects.set a (o.converted rt function key) }
  | .spread field sources => (sources.mapM s.object?).map fun os =>
    { s with
      objects := s.objects ++ [os.foldl Object.spread .empty]
      fields := Function.update s.fields field (some s.objects.length) }

def run (rt : Runtime V) (call : String → Nat → Store V → Option (Store V)) (s : Store V)
    (body : List Statement) : Option (Store V) :=
  body.foldlM (step rt call) s

end Store

/-- A method runs with one name, and the names of its caller come back. -/
def Method.run (rt : Runtime V) (call : String → Nat → Store V → Option (Store V)) (m : Method)
    (a : Nat) (s : Store V) : Option (Store V) :=
  (Store.run rt call { s with names := Function.update (fun _ => none) m.argument (some a) }
    m.body).map fun t => { t with names := s.names }

namespace Class

/-- The method of the class itself, which calls no other. -/
def call (c : Class) (rt : Runtime V) (method : String) (a : Nat) (s : Store V) :
    Option (Store V) :=
  if method = "updateParams" then c.update.run rt (fun _ _ _ => none) a s else none

/-- A new instance, beside the objects of its callers: the fields get their objects, and then the
constructor runs on one of the callers' objects. -/
def create (c : Class) (rt : Runtime V) (given : List (Object V)) (a : Nat) :
    Option (Store V) := do
  let s : Store V := {
    objects := given ++ [.ofLiteral rt c.defaults]
    names := fun _ => none
    fields := Function.update (fun _ => none) "defaultParams" (some given.length) }
  let s ← s.step rt (fun _ _ _ => none) c.initial
  c.creation.run rt (c.call rt) a s

def configureAll (c : Class) (rt : Runtime V) {n : Nat} (s : Store V) (rest : List (Fin n)) :
    Option (Store V) :=
  rest.foldlM (fun s a => c.configuration.run rt (c.call rt) a.val s) s

def session (c : Class) (rt : Runtime V) (given : List (Object V)) (first : Fin given.length)
    (rest : List (Fin given.length)) : Option (Store V) :=
  (c.create rt given first).bind fun s => c.configureAll rt s rest

end Class

end Bindery.Script
