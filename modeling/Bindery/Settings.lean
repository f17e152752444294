import Bindery.Json.Record
import Bindery.Text.LowerCase

/-!
# Settings

What can be chosen about the generated code: how inputs, outputs and the handle
are called, which algorithms are recreated instead of reconfigured, and the names
that the wrapper refers to.
-/

namespace Bindery

open Json (Draft Error Record)

/-- A name put into a list of names that is in order and without repetitions. -/
def insertName (name : String) : List String → List String
  | [] => [name]
  | n :: rest =>
    if name = n then n :: rest
    else if name < n then name :: n :: rest
    else n :: insertName name rest

/-- The set of some names, as the list of them in order. -/
def nameSet (names : List String) : List String := names.foldr insertName []

theorem mem_insertName {a name : String} {l : List String} :
    a ∈ insertName name l ↔ a = name ∨ a ∈ l := by
  induction l with
  | nil => simp [insertName]
  | cons n rest ih =>
    rw [insertName]
    split
    · subst_vars; simp
    · split
      · simp
      · simp only [List.mem_cons, ih]
        exact ⟨fun h => h.elim (.inr ∘ .inl) (·.imp id .inr),
          fun h => h.elim (.inr ∘ .inl) (·.elim .inl (.inr ∘ .inr))⟩

@[simp] theorem mem_nameSet {a : String} {names : List String} : a ∈ nameSet names ↔ a ∈ names := by
  induction names with
  | nil => simp [nameSet]
  | cons n rest ih =>
    rw [nameSet, List.foldr_cons, ← nameSet, mem_insertName, ih, List.mem_cons]

/-- What can be chosen about the generated code. -/
structure Settings where
  /-- Stands before the name of an input in native code. -/
  inputPrefix : String := "input_"
  /-- Stands before the name of an output in native code. -/
  outputPrefix : String := "output_"
  /-- Stands before the lower-case algorithm name in the name of the handle. -/
  handlePrefix : String := "_"
  /-- The algorithms whose handles are recreated instead of reconfigured. -/
  recreated : List String :=
    nameSet ["PitchMelodia", "PredominantPitchMelodia", "MultiPitchMelodia"]
  /-- Reference pages are found below this address. -/
  referenceBase : String := "https://essentia.upf.edu/reference/"
  /-- The variable of the wrapper that holds the backend. -/
  backend : String := "wasmBackend"
  /-- The namespace that the wrapper takes parameter types from. -/
  typeNamespace : String := "paramTypes"
deriving Repr, DecidableEq

/-- Why settings are refused. -/
inductive SettingsFault where
  | emptyPrefix
  | equalPrefixes (shared : String)
  | emptyName
deriving Repr, DecidableEq

def SettingsFault.message : SettingsFault → String
  | .emptyPrefix => "input and output prefixes must be non-empty"
  | .equalPrefixes shared => "input and output prefixes must differ (both '" ++ shared ++ "')"
  | .emptyName => "backend_var and param_types_namespace must be non-empty"

namespace Settings

def fault? (s : Settings) : Option SettingsFault :=
  if s.inputPrefix = "" ∨ s.outputPrefix = "" then some .emptyPrefix
  else if s.inputPrefix = s.outputPrefix then some (.equalPrefixes s.inputPrefix)
  else if s.backend = "" ∨ s.typeNamespace = "" then some .emptyName
  else none

def IsValid (s : Settings) : Prop := s.fault? = none

instance (s : Settings) : Decidable s.IsValid := inferInstanceAs (Decidable (_ = _))

/-- The settings with another set of algorithms to recreate. -/
def recreating (names : List String) (s : Settings) : Settings :=
  { s with recreated := nameSet names }

/-- The handle of the algorithm is recreated instead of reconfigured. -/
def recreates (s : Settings) (algorithm : String) : Bool := s.recreated.contains algorithm

def referenceUrl (s : Settings) (algorithm : String) : String :=
  s.referenceBase ++ "std_" ++ algorithm ++ ".html"

def handle (s : Settings) (algorithm : String) : String :=
  s.handlePrefix ++ Text.lowerCase algorithm

def parameterType (algorithm : String) : String := "Params" ++ algorithm

/-- An algorithm's parameter type as the wrapper refers to it. -/
def qualifiedParameterType (s : Settings) (algorithm : String) : String :=
  s.typeNamespace ++ "." ++ parameterType algorithm

/-- The members that settings are read from, whatever they are written in. -/
def members {δ ε : Type} (text : δ → Except ε String) (texts : δ → Except ε (List String)) :
    List (Member δ ε Settings) := [
  .of "input_prefix" false text fun x s => { s with inputPrefix := x },
  .of "output_prefix" false text fun x s => { s with outputPrefix := x },
  .of "handle_prefix" false text fun x s => { s with handlePrefix := x },
  .of "reconfigure_by_recreate" false texts recreating,
  .of "reference_base_url" false text fun x s => { s with referenceBase := x },
  .of "backend_var" false text fun x s => { s with backend := x },
  .of "param_types_namespace" false text fun x s => { s with typeNamespace := x }]

def record : Record Settings where
  title := "CodegenConfig"
  blank := {}
  members := members Draft.text Draft.texts
  closed := true

def ofJson (text : String) : Except Error Settings := Json.decodeText record.decode text

end Settings

end Bindery
