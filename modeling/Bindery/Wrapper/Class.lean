import Bindery.Artifact
import Bindery.Native.Signature
import Bindery.Wrapper.Literal

/-!
# Wrapper classes

Each class holds one instance of the backend's class and a merged copy of its
parameters: defaults first, the caller's on top. Vectors that the caller gives are
converted before the merge, and the caller's object is left as it is.
-/

namespace Bindery.Wrapper

open Native (require)

/-- An input of a computation: its argument type, and its type in comments. -/
structure Input where
  name : String
  argument : String
  documented : String
  description : String
deriving Repr, DecidableEq

/-- The inputs of an algorithm. Containers may be given as anything. -/
def inputs (a : Algorithm) : Except GenerationError (List Input) :=
  a.inputs.mapM fun i =>
    match container? i.tag with
    | some documented => .ok ⟨i.name, "any", documented, i.description⟩
    | none =>
      (require a i.name .wrapper i.tag i.tag.wrapper?).map fun mapped =>
        ⟨i.name, mapped, mapped, i.description⟩

/-- What the parameters of the caller are called before and after conversion. -/
inductive Source where
  | params
  | supplied
deriving Repr, DecidableEq

def Source.name : Source → String
  | .params => "params"
  | .supplied => "supplied"

/-- A statement of a method. -/
inductive Statement where
  /-- The caller's parameters are merged. -/
  | update
  | create (backend algorithm : String) (parameters : List String)
  | configure (parameters : List String)
  | compute (inputs : List String)
  | delete
  /-- A copy of the caller's parameters, to be converted. -/
  | copy
  /-- A parameter that the copy has is converted. -/
  | coerce (name : String)
  /-- The parameters become the defaults with a source's on top. -/
  | merge (source : Source)
deriving Repr, DecidableEq

def forwarded (parameters : List String) : String :=
  ", ".intercalate (parameters.map ("this.params." ++ ·))

def Statement.lines : Statement → List String
  | .update => ["this.updateParams(params);"]
  | .create backend algorithm parameters =>
    ["this.algoInstance = new " ++ backend ++ "." ++ algorithm ++ "(" ++ forwarded parameters ++
      ");"]
  | .configure parameters => ["this.algoInstance.configure(" ++ forwarded parameters ++ ");"]
  | .compute inputs => ["return this.algoInstance.compute(" ++ ", ".intercalate inputs ++ ");"]
  | .delete => ["this.algoInstance.delete();"]
  | .copy => ["const supplied: any = \x7b ...params \x7d;"]
  | .coerce name =>
    ["if (supplied." ++ name ++ ") \x7b",
      "  supplied." ++ name ++ " = arrayToVector(supplied." ++ name ++ ");",
      "\x7d"]
  | .merge source =>
    ["this.params = \x7b ...this.defaultParams, ..." ++ source.name ++ " \x7d;"]

/-- A method: the lines of its comment if it has one, what stands before its body, and the body. -/
structure Method where
  comment : List String
  head : String
  body : List Statement
deriving Repr, DecidableEq

def Method.lines (m : Method) : List String :=
  (if m.comment.isEmpty then []
    else ["  /**"] ++ m.comment.map ("   * " ++ ·) ++ ["  */"]) ++
  ["  " ++ m.head ++ " \x7b"] ++
  (m.body.flatMap Statement.lines).map ("    " ++ ·) ++
  ["  \x7d"]

def argumentComment (type name : String) : String := "@param \x7b" ++ type ++ "\x7d " ++ name

/-- The comment line of a result: every output's name with its description. -/
def resultComment (outputs : List Slot) : String :=
  "@returns \x7bobject\x7d \x7b" ++
    ", ".intercalate (outputs.map fun o => o.name ++ ": " ++ singleQuoted o.description) ++ "\x7d"

/-- The comment line that names the class of a method. -/
def memberComment (a : Algorithm) : String := "@memberof " ++ a.name

def parameterNames (a : Algorithm) : List String := a.parameters.map (·.name)

/-- The argument of methods that take parameters. -/
def parameterArgument (a : Algorithm) (type : String) : String :=
  if a.hasParameters then "params: Partial<" ++ type ++ "> = \x7b\x7d" else ""

def parameterComment (a : Algorithm) (type : String) : List String :=
  if a.hasParameters then [argumentComment type "[params]"] else []

/-- The statement that merges the caller's parameters, where there are any. -/
def updating (a : Algorithm) : List Statement := if a.hasParameters then [.update] else []

/-- The body of the merge. Without parameters to convert it needs no copy. -/
def merging (coerced : List String) : List Statement :=
  if coerced.isEmpty then [.merge .params]
  else .copy :: coerced.map .coerce ++ [.merge .supplied]

def coercedNames (a : Algorithm) : List String :=
  (a.parameters.filter fun p => needsCoercion p.tag).map (·.name)

/-- The methods of an algorithm's class in order. -/
def methods (a : Algorithm) (s : Settings) (inputs : List Input) : List Method :=
  let type := s.qualifiedParameterType a.name
  [⟨["Creates an instance of the algorithm and initializes it by configuring with default or " ++
        "given params", "@constructor"] ++ parameterComment a type,
      "constructor(" ++ parameterArgument a type ++ ")",
      updating a ++ [.create s.backend a.name (parameterNames a)]⟩,
    ⟨["Configure algorithm with default or given params", "@method"] ++ parameterComment a type ++
        [memberComment a],
      "configure(" ++ parameterArgument a type ++ ")",
      updating a ++ [.configure (parameterNames a)]⟩,
    ⟨["Execute algorithm with given inputs", "@method"] ++
        inputs.map (fun i => argumentComment i.documented i.name ++ " " ++ i.description) ++
        [resultComment a.outputs, memberComment a],
      "compute(" ++ ", ".intercalate (inputs.map fun i => i.name ++ ": " ++ i.argument) ++ ")",
      [.compute (inputs.map (·.name))]⟩,
    ⟨["Delete algorithm instance", "@method", memberComment a], "delete()", [.delete]⟩] ++
  if a.hasParameters then
    [⟨[], "private updateParams(params: Partial<" ++ type ++ ">)", merging (coercedNames a)⟩]
  else []

/-- The fields of an algorithm's class: the instance, and defaults with their merged copy where
there are parameters. -/
def fieldLines (a : Algorithm) (type : String) : List String :=
  "  private algoInstance: any;" ::
  if a.hasParameters then
    ["  private readonly defaultParams: " ++ type ++ " = \x7b"] ++
    a.parameters.map (fun p => "    " ++ p.name ++ ": " ++ defaultLiteral p ++ ",") ++
    ["  \x7d;", "  private params: " ++ type ++ " = \x7b ...this.defaultParams \x7d;"]
  else []

def classLines (a : Algorithm) (s : Settings) (inputs : List Input) : List String :=
  ["/**",
    "* " ++ a.descriptor.summary ++ " Check " ++ s.referenceUrl a.name ++ " for more details.",
    "* @class", "*/", "class " ++ a.name ++ " \x7b"] ++
  fieldLines a (s.qualifiedParameterType a.name) ++
  (methods a s inputs).flatMap Method.lines ++
  ["\x7d"]

def wrapperClass (a : Algorithm) (s : Settings) : Except GenerationError Artifact :=
  (inputs a).map fun is => ⟨a.name, .wrapper, classLines a s is⟩

end Bindery.Wrapper
