/-!
# Numerals

The written forms of numbers that a default value may take: a real numeral is a
decimal number with an optional sign, point and exponent, or a name of an
infinity or of the undefined value in any letter case; an integer numeral is a
run of digits with an optional sign whose value fits 64 bits.
-/

namespace Bindery.Decimal

def isDigit (c : Char) : Bool := '0' ≤ c && c ≤ '9'

def digitValue (c : Char) : Nat := c.toNat - '0'.toNat

def valueOf (digits : List Char) : Nat :=
  digits.foldl (fun n c => 10 * n + digitValue c) 0

/-- A leading sign, if there is one, is taken off. -/
def unsigned : List Char → List Char
  | '+' :: rest => rest
  | '-' :: rest => rest
  | cs => cs

/-- One digit at least, and nothing but digits. -/
def isDigits (cs : List Char) : Bool := !cs.isEmpty && cs.all isDigit

/-- What may follow the mantissa: nothing, or a marked exponent. -/
def isExponentPart : List Char → Bool
  | [] => true
  | c :: rest => (c == 'e' || c == 'E') && isDigits (unsigned rest)

/-- Digits with an optional point among or beside them, then an optional exponent. -/
def isDecimal (cs : List Char) : Bool :=
  let whole := cs.takeWhile isDigit
  match cs.dropWhile isDigit with
  | '.' :: rest =>
    let part := rest.takeWhile isDigit
    (!whole.isEmpty || !part.isEmpty) && isExponentPart (rest.dropWhile isDigit)
  | rest => !whole.isEmpty && isExponentPart rest

def nonFiniteNames : List (List Char) :=
  [['i', 'n', 'f'], ['i', 'n', 'f', 'i', 'n', 'i', 't', 'y'], ['n', 'a', 'n']]

/-- A real numeral: a finite decimal, an infinity, or the undefined value. -/
def isReal (cs : List Char) : Bool :=
  let body := unsigned cs
  isDecimal body || nonFiniteNames.contains (body.map Char.toLower)

/-- Integers of a signed 64-bit word stay below this and not below its negative. -/
def wordLimit : Nat := Nat.pow 2 63

/-- The integer that a numeral denotes, if it is one and fits a signed 64-bit word. -/
def integer? (cs : List Char) : Option Int :=
  let body := unsigned cs
  if isDigits body then
    let n : Int := valueOf body
    let n := if cs.head? = some '-' then -n else n
    if -(wordLimit : Int) ≤ n ∧ n < wordLimit then some n else none
  else none

end Bindery.Decimal
