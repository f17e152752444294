/-!
# Lines of output

A line is a list of spans, each in a style. Only `Line.render` knows how a style
looks: plain, or as an escape sequence that a terminal shows as colour.
-/

namespace Bindery.Console

/-- What a span is, and so how it looks. -/
inductive Style where
  | plain
  /-- The name of what follows. -/
  | heading
  /-- Of less weight than what stands around it. -/
  | faint
  | strong
  | good
  | bad
  | warning
  /-- The verdict that all is well. -/
  | success
  /-- The verdict that something is not. -/
  | failure
deriving Repr, DecidableEq

def Style.code? : Style → Option String
  | .plain => none
  | .heading => some "1;36"
  | .faint => some "2"
  | .strong => some "1"
  | .good => some "32"
  | .bad => some "31"
  | .warning => some "33"
  | .success => some "1;32"
  | .failure => some "1;31"

/-- A text in one style. -/
structure Span where
  style : Style
  text : String
deriving Repr, DecidableEq

instance : Coe String Span := ⟨fun text => ⟨.plain, text⟩⟩

abbrev Line := List Span

def escape (code : String) : List Char := '\x1b' :: '[' :: (code.toList ++ ['m'])

/-- Starts a style again wherever the text ends all styles. -/
def resume (start : List Char) : List Char → List Char
  | '\x1b' :: '[' :: '0' :: 'm' :: rest =>
    '\x1b' :: '[' :: '0' :: 'm' :: (start ++ resume start rest)
  | c :: rest => c :: resume start rest
  | [] => []

/-- A span as it is written, in colour or without. -/
def Span.render (color : Bool) (s : Span) : List Char :=
  match color, s.style.code? with
  | true, some code => escape code ++ resume (escape code) s.text.toList ++ escape "0"
  | _, _ => s.text.toList

def Line.render (color : Bool) (l : Line) : List Char :=
  l.flatMap (Span.render color) ++ ['\n']

def render (color : Bool) (ls : List Line) : String :=
  String.ofList (ls.flatMap (Line.render color))

end Bindery.Console
