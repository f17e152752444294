import Bindery.Artifact
import Bindery.Native.Signature

/-!
# Native class definitions

Each class owns one handle that a factory makes. A computation binds inputs and
outputs to the named slots of the handle, runs it, and gives back an object that
holds every output under its name. Methods are lists of statements; what a
statement says is written in one place.
-/

namespace Bindery.Native

/-- A statement of a method. -/
inductive Statement where
  /-- The factory makes the handle, with the named parameters. -/
  | create (handle algorithm : String) (parameters : List String)
  /-- The handle is deleted, if there is one. -/
  | destroy (handle : String)
  /-- The handle takes new values of the named parameters. -/
  | configure (handle : String) (parameters : List String)
  | bindInput (handle name ident : String)
  | declare (type ident : String)
  | bindOutput (handle name ident : String)
  | compute (handle : String)
  /-- The result begins as an object without members. -/
  | beginResult (result : String)
  | setResult (result name ident : String)
  | giveResult (result : String)
  | reset (handle : String)
deriving Repr, DecidableEq

def factoryCall (algorithm : String) (parameters : List String) : String :=
  "AlgorithmFactory::create(\"" ++ algorithm ++ "\"" ++
    (if parameters.isEmpty then "" else ", " ++ namedArguments parameters) ++ ")"

def Statement.text : Statement → String
  | .create handle algorithm parameters =>
    handle ++ " = " ++ factoryCall algorithm parameters ++ ";"
  | .destroy handle => "if (" ++ handle ++ ") delete " ++ handle ++ ";"
  | .configure handle parameters => handle ++ "->configure(" ++ namedArguments parameters ++ ");"
  | .bindInput handle name ident => handle ++ "->input(\"" ++ name ++ "\").set(" ++ ident ++ ");"
  | .declare type ident => type ++ " " ++ ident ++ ";"
  | .bindOutput handle name ident =>
    handle ++ "->output(\"" ++ name ++ "\").set(" ++ ident ++ ");"
  | .compute handle => handle ++ "->compute();"
  | .beginResult result => resultType ++ " " ++ result ++ "(val::object());"
  | .setResult result name ident => result ++ ".set(\"" ++ name ++ "\", " ++ ident ++ ");"
  | .giveResult result => "return " ++ result ++ ";"
  | .reset handle => handle ++ "->reset();"

/-- A method: what stands before its body, and the body. -/
structure Method where
  head : String
  body : List Statement
deriving Repr, DecidableEq

def Method.lines (m : Method) : List String :=
  (m.head ++ " \x7b") :: m.body.map (fun s => "\t" ++ s.text) ++ ["\x7d"]

/-- An output of an algorithm as a local variable. -/
structure Local where
  name : String
  type : String
  ident : String
deriving Repr, DecidableEq

/-- The outputs of an algorithm as local variables. -/
def locals (a : Algorithm) : Except GenerationError (List Local) :=
  a.outputs.mapM fun o =>
    (require a o.name .native o.tag o.tag.native?).map fun native =>
      ⟨o.name, valueType native, o.ident⟩

/-- The variable that holds the result of a computation. -/
def resultName (a : Algorithm) : String := "output" ++ a.name

def parameterNames (a : Algorithm) : List String := a.parameters.map (·.name)

def creation (a : Algorithm) : Statement := .create a.handle a.name (parameterNames a)

/-- The body of `configure`: the handle takes the new values, or is made anew where that fails. -/
def reconfiguration (a : Algorithm) (s : Settings) : List Statement :=
  if a.hasParameters && s.recreates a.name then [.destroy a.handle, creation a]
  else [.configure a.handle (parameterNames a)]

/-- The body of `compute`. -/
def computation (a : Algorithm) (outputs : List Local) : List Statement :=
  a.inputs.map (fun i => .bindInput a.handle i.name i.ident) ++
  outputs.map (fun o => .declare o.type o.ident) ++
  outputs.map (fun o => .bindOutput a.handle o.name o.ident) ++
  [.compute a.handle, .beginResult (resultName a)] ++
  outputs.map (fun o => .setResult (resultName a) o.name o.ident) ++
  [.giveResult (resultName a)]

/-- The methods of an algorithm's class in order. -/
def methods (a : Algorithm) (s : Settings) (sig : Signature) (outputs : List Local) :
    List Method :=
  let arguments := argumentList (sig.parameters.map Argument.plain)
  [⟨a.name ++ "::" ++ a.name ++ "(" ++ arguments ++ ")", [creation a]⟩,
    ⟨a.name ++ "::~" ++ a.name ++ "()", [.destroy a.handle]⟩,
    ⟨"void " ++ a.name ++ "::configure(" ++ arguments ++ ")", reconfiguration a s⟩,
    ⟨resultType ++ " " ++ a.name ++ "::compute(" ++ argumentList sig.inputs ++ ")",
      computation a outputs⟩,
    ⟨"void " ++ a.name ++ "::reset()", [.reset a.handle]⟩]

/-- The lines that define the class of an algorithm, between two marks. -/
def definitionLines (a : Algorithm) (s : Settings) (sig : Signature) (outputs : List Local) :
    List String :=
  ["// START " ++ a.name ++ " definitions", "// check " ++ s.referenceUrl a.name] ++
  (methods a s sig outputs).flatMap Method.lines ++
  ["// END " ++ a.name ++ " definitions"]

/-- Defines the class of an algorithm, which has to have an output. -/
def definition (a : Algorithm) (s : Settings) : Except GenerationError Artifact := do
  let sig ← Signature.of a
  let outputs ← locals a
  if outputs.isEmpty then .error (.missingOutput a.name)
  else .ok ⟨a.name, .definition, definitionLines a s sig outputs⟩

end Bindery.Native
