import Bindery.Console.Check
import Bindery.Console.Generation
import Bindery.Console.Survey

/-!
# Requests

What can be asked of the program, each answered by a report.
-/

namespace Bindery.Console

/-- A command with its arguments. -/
inductive Request where
  | generate (catalog config directory : String) (targets : List String)
  | types (catalog config : String) (json : Bool)
  | findParameters (catalog config type : String) (json : Bool)
  | validate (catalog : String) (config : Option String)
deriving Repr, DecidableEq

def Request.perform [YamlReader] (t : FileTree) : Request → Report
  | .generate catalog config directory targets =>
    Console.generate t catalog config directory targets
  | .types catalog config json => surveyTypes t catalog config json
  | .findParameters catalog config type json => surveyParameters t catalog config type json
  | .validate catalog config => check t catalog config

end Bindery.Console
