import Bindery.Catalog.Issue
import Bindery.FileTree

/-!
# Why a catalog fails

Failures of loading a catalog and of looking an algorithm up in it.
-/

namespace Bindery

/-- A failure with a stable code and a message. -/
class Coded (ε : Type) where
  code : ε → String
  message : ε → String

/-- Why a catalog cannot be loaded or does not answer. -/
inductive CatalogError where
  | unknown (name : String)
  | duplicate (name : String)
  | invalid (algorithm : String) (issue : Issue)
  | json (cause : Json.Error)
  | file (cause : FileError)

namespace CatalogError

def code : CatalogError → String
  | unknown _ => "CATALOG_001"
  | duplicate _ => "CATALOG_002"
  | invalid .. => "CATALOG_003"
  | json _ => "CATALOG_004"
  | file _ => "CATALOG_005"

def message : CatalogError → String
  | unknown name => "unknown algorithm '" ++ name ++ "'"
  | duplicate name => "duplicate algorithm '" ++ name ++ "' in catalog"
  | invalid algorithm issue =>
    "invalid descriptor for '" ++ algorithm ++ "': " ++ issue.display
  | json cause => "JSON parse error: " ++ cause.message
  | file cause => "I/O error: " ++ cause.message

instance : Coded CatalogError := ⟨code, message⟩

end CatalogError

end Bindery
