import Bindery.GenerationError
import Bindery.Target

/-!
# Events

A generation tells its story as it goes. `Logged` pairs the events of a
computation with its outcome; a failure ends the story.
-/

namespace Bindery

/-- Something that happens in a generation. -/
inductive Event where
  /-- A name is excluded that was never included. -/
  | unusedExclusion (name : String)
  /-- A pass over algorithms begins. -/
  | generating (target : Target) (algorithms : Nat)
  /-- The code of an algorithm is about to be written. -/
  | emitting (target : Target) (algorithm : String)
  /-- A pass has ended with artifacts that are not empty. -/
  | finished (target : Target) (generated : Nat)
deriving Repr, DecidableEq

/-- How much an event matters. -/
inductive Level where
  | warn
  | info
  | debug
deriving Repr, DecidableEq

def Level.name : Level → String
  | .warn => "WARN"
  | .info => "INFO"
  | .debug => "DEBUG"

namespace Event

def level : Event → Level
  | unusedExclusion _ => .warn
  | generating .. => .info
  | emitting .. => .debug
  | finished .. => .info

def message : Event → String
  | unusedExclusion _ => "excluded algorithm is not in the inclusion list"
  | generating .. => "generating"
  | emitting .. => "emitting"
  | finished .. => "finished"

def details : Event → List (String × String)
  | unusedExclusion name => [("algorithm", name)]
  | generating target algorithms =>
    [("pass", target.name), ("algorithms", toString algorithms)]
  | emitting target algorithm => [("pass", target.name), ("algorithm", algorithm)]
  | finished target generated => [("pass", target.name), ("generated", toString generated)]

def text (e : Event) : String :=
  " ".intercalate (e.level.name :: e.message :: e.details.map fun d => d.1 ++ "=" ++ d.2)

end Event

/-- An outcome with the events on the way to it. -/
structure Logged (α : Type) where
  events : List Event
  outcome : Except GenerationError α

namespace Logged

variable {α β : Type}

def ofExcept (x : Except GenerationError α) : Logged α := ⟨[], x⟩

def log (events : List Event) : Logged Unit := ⟨events, .ok ()⟩

/-- One computation after another, unless the first fails. -/
def andThen (x : Logged α) (f : α → Logged β) : Logged β :=
  match x.outcome with
  | .ok a => ⟨x.events ++ (f a).events, (f a).outcome⟩
  | .error e => ⟨x.events, .error e⟩

instance : Monad Logged where
  pure a := ofExcept (.ok a)
  bind := andThen

end Logged

end Bindery
