import Bindery.Proofs.Defaults
import Bindery.Proofs.Script
import Bindery.Text.Hex

/-!
# Text defaults in native code

A native string literal ends at the first quote that has no backslash before it, holds
no line break, and takes a backslash for the beginning of an escape sequence. A default
stands in it as it is. So it is read back as itself exactly when it has no backslash
and no line break, while the literal of the wrapper is read back in any case.
-/

namespace Bindery.Native

open Text (hexValue?)

/-! ## Native string literals -/

/-- The bytes of a text in a native string. -/
def utf8 (cs : List Char) : List UInt8 := cs.flatMap String.utf8EncodeChar

def isLineBreak (c : Char) : Bool := c = '\n' || c = '\r'

/-- What one character after a backslash stands for. -/
def simpleEscape? : Char → Option UInt8
  | '\'' => some 0x27
  | '"' => some 0x22
  | '?' => some 0x3f
  | '\\' => some 0x5c
  | 'a' => some 0x07
  | 'b' => some 0x08
  | 'f' => some 0x0c
  | 'n' => some 0x0a
  | 'r' => some 0x0d
  | 't' => some 0x09
  | 'v' => some 0x0b
  | _ => none

def octalValue? (c : Char) : Option Nat :=
  if '0' ≤ c ∧ c ≤ '7' then some (c.toNat - '0'.toNat) else none

/-- The values of the digits that a text begins with. -/
def leadingDigits (value? : Char → Option Nat) : List Char → List Nat
  | [] => []
  | c :: rest =>
    match value? c with
    | some v => v :: leadingDigits value? rest
    | none => []

def numberOf (base : Nat) (digits : List Nat) : Nat := digits.foldl (fun n d => base * n + d) 0

/-- A byte given by its digits, of which there is at least one. -/
def byteEscape? (base : Nat) (digits : List Nat) : Option (List UInt8) :=
  if digits = [] ∨ 256 ≤ numberOf base digits then none
  else some [UInt8.ofNat (numberOf base digits)]

/-- A character given by the digits of its code point, of which there are `length`. -/
def universalName? (length : Nat) (digits : List Nat) : Option (List UInt8) :=
  if digits.length = length ∧ (numberOf 16 digits).isValidChar then
    some (String.utf8EncodeChar (Char.ofNat (numberOf 16 digits)))
  else none

/-- The escape sequence after a backslash: its bytes, and how many characters it has. -/
def escape? : List Char → Option (List UInt8 × Nat)
  | [] => none
  | 'x' :: rest =>
    let digits := leadingDigits hexValue? rest
    (byteEscape? 16 digits).map (·, digits.length + 1)
  | 'u' :: rest => (universalName? 4 (leadingDigits hexValue? (rest.take 4))).map (·, 5)
  | 'U' :: rest => (universalName? 8 (leadingDigits hexValue? (rest.take 8))).map (·, 9)
  | c :: rest =>
    match simpleEscape? c with
    | some b => some ([b], 1)
    | none =>
      let digits := leadingDigits octalValue? ((c :: rest).take 3)
      (byteEscape? 8 digits).map (·, digits.length)

/-- Reads a string literal after its first quote: the bytes that it denotes, and what stands after
it. The characters to skip are those of an escape sequence that is read already. -/
def body? : Nat → List Char → Option (List UInt8 × List Char)
  | _, [] => none
  | skip + 1, _ :: rest => body? skip rest
  | 0, c :: rest =>
    if c = '"' then some ([], rest)
    else if c = '\\' then
      match escape? rest with
      | some (bytes, length) => (body? length rest).map fun x => (bytes ++ x.1, x.2)
      | none => none
    else if isLineBreak c then none
    else (body? 0 rest).map fun x => (String.utf8EncodeChar c ++ x.1, x.2)

/-- Reads an ordinary string literal: the bytes that it denotes, and what stands after it. -/
def stringLiteral? : List Char → Option (List UInt8 × List Char)
  | '"' :: rest => body? 0 rest
  | _ => none

/-- The expression is a string literal of the text, whatever stands after it. -/
def Denotes (expression text : String) : Prop :=
  ∀ rest, stringLiteral? (expression.toList ++ rest) = some (utf8 text.toList, rest)

example : stringLiteral? "\"a\\x41\\101\\u00e9\\n\";".toList =
    some ([0x61, 0x41, 0x41, 0xc3, 0xa9, 0x0a], [';']) := by decide

/-! ## Lengths -/

theorem utf8_cons (c : Char) (cs : List Char) :
    utf8 (c :: cs) = String.utf8EncodeChar c ++ utf8 cs := rfl

theorem utf8_append (cs ds : List Char) : utf8 (cs ++ ds) = utf8 cs ++ utf8 ds :=
  List.flatMap_append

/-- Every character has a byte at least. -/
theorem length_utf8_cons (c : Char) (cs : List Char) :
    (utf8 (c :: cs)).length = (String.utf8EncodeChar c).length + (utf8 cs).length ∧
      0 < (String.utf8EncodeChar c).length := by
  refine ⟨by rw [utf8_cons, List.length_append], ?_⟩
  rw [String.length_utf8EncodeChar]
  exact c.utf8Size_pos

theorem length_of_byteEscape? {base : Nat} {digits : List Nat} {bytes : List UInt8}
    (h : byteEscape? base digits = some bytes) : bytes.length ≤ digits.length := by
  unfold byteEscape? at h
  split at h
  · cases h
  · rename_i hdigits
    cases h
    rw [not_or] at hdigits
    exact List.length_pos_iff.2 hdigits.1

theorem length_of_universalName? {length : Nat} {digits : List Nat} {bytes : List UInt8}
    (h : universalName? length digits = some bytes) : bytes.length ≤ 4 := by
  unfold universalName? at h
  split at h
  · cases h
    rw [String.length_utf8EncodeChar]
    exact Char.utf8Size_le_four _
  · cases h

/-- Bytes that stand beside a number at least as large as their length. -/
theorem length_of_map_pair {found : Option (List UInt8)} {n used : Nat} {bytes : List UInt8}
    (h : found.map (·, n) = some (bytes, used)) (hfound : ∀ bs, found = some bs → bs.length ≤ n) :
    bytes.length ≤ used := by
  obtain ⟨bs, hbs, hpair⟩ := Option.map_eq_some_iff.1 h
  cases hpair
  exact hfound bytes hbs

/-- An escape sequence has at least as many characters as it has bytes, its backslash aside. -/
theorem length_of_escape? {cs : List Char} {bytes : List UInt8} {used : Nat}
    (h : escape? cs = some (bytes, used)) : bytes.length ≤ used := by
  unfold escape? at h
  split at h
  · cases h
  · exact length_of_map_pair h fun _ hbs => Nat.le_succ_of_le (length_of_byteEscape? hbs)
  · exact length_of_map_pair h fun _ hbs => Nat.le_succ_of_le (length_of_universalName? hbs)
  · exact length_of_map_pair h fun _ hbs =>
      Nat.le_trans (length_of_universalName? hbs) (by decide)
  · split at h
    · cases h
      exact Nat.le_refl 1
    · exact length_of_map_pair h fun _ hbs => length_of_byteEscape? hbs

/-! ## Reading -/

/-- What is read has more bytes than it denotes: one for the quote, and one more for a backslash. -/
theorem body?_used {skip : Nat} {cs rest : List Char} {bytes : List UInt8}
    (h : body? skip cs = some (bytes, rest)) :
    ∃ used, cs = used ++ rest ∧ bytes.length + skip + 1 ≤ (utf8 used).length ∧
      (skip = 0 → '\\' ∈ used → bytes.length + 2 ≤ (utf8 used).length) := by
  induction cs generalizing skip bytes with
  | nil => simp [body?] at h
  | cons c cs ih =>
      have hcons := length_utf8_cons c
      cases skip with
      | succ skip =>
          obtain ⟨used, rfl, hlength, -⟩ := ih h
          refine ⟨c :: used, rfl, ?_, by simp⟩
          have := hcons used
          omega
      | zero =>
          rw [body?] at h
          split at h
          · -- the quote that ends the literal
            rename_i hquote
            cases h
            subst hquote
            exact ⟨['"'], rfl, by decide, by decide⟩
          · split at h
            · -- a backslash, which denotes nothing beyond the bytes of its sequence
              split at h
              · rename_i found length hescape
                obtain ⟨x, hrest, hpair⟩ := Option.map_eq_some_iff.1 h
                cases hpair
                obtain ⟨used, rfl, hlength, -⟩ := ih hrest
                have hfound := length_of_escape? hescape
                have := hcons used
                refine ⟨c :: used, rfl, ?_, fun _ _ => ?_⟩
                · rw [List.length_append]
                  omega
                · rw [List.length_append]
                  omega
              · cases h
            · -- a character that denotes its own bytes
              rename_i hbackslash
              split at h
              · cases h
              · obtain ⟨x, hrest, hpair⟩ := Option.map_eq_some_iff.1 h
                cases hpair
                obtain ⟨used, rfl, hlength, hmore⟩ := ih hrest
                have := hcons used
                refine ⟨c :: used, rfl, ?_, fun _ hmem => ?_⟩
                · rw [List.length_append]
                  omega
                · have hused := (List.mem_cons.1 hmem).resolve_left (Ne.symm hbackslash)
                  have hlonger := hmore rfl hused
                  rw [List.length_append]
                  omega

/-- Without quotes and backslashes, what is read is what stands there, unless it has a line
break. -/
theorem body?_plain {cs : List Char} (hquote : '"' ∉ cs) (hbackslash : '\\' ∉ cs)
    (rest : List Char) :
    body? 0 (cs ++ '"' :: rest) =
      if cs.any isLineBreak then none else some (utf8 cs, rest) := by
  induction cs with
  | nil => rfl
  | cons c cs ih =>
      rw [List.mem_cons, not_or] at hquote hbackslash
      rw [List.cons_append, body?, if_neg (Ne.symm hquote.1), if_neg (Ne.symm hbackslash.1),
        ih hquote.2 hbackslash.2, List.any_cons]
      cases hc : isLineBreak c with
      | true => rfl
      | false => cases hany : cs.any isLineBreak <;> rfl

/-- What has no quote in it denotes itself when it has no backslash and no line break either. -/
theorem denotes_quoted_iff {text : String} (hquote : '"' ∉ text.toList) :
    Denotes ("\"" ++ text ++ "\"") text ↔
      '\\' ∉ text.toList ∧ text.toList.any isLineBreak = false := by
  have hread (rest : List Char) :
      stringLiteral? (("\"" ++ text ++ "\"").toList ++ rest) =
        body? 0 (text.toList ++ '"' :: rest) := by
    simp [stringLiteral?]
  constructor
  · intro h
    have hbody := (hread []).symm.trans (h [])
    have hbackslash : '\\' ∉ text.toList := by
      intro hmem
      obtain ⟨used, hused, -, hlonger⟩ := body?_used hbody
      rw [List.append_nil] at hused
      subst hused
      have hlength := hlonger rfl (List.mem_append_left _ hmem)
      rw [utf8_append, List.length_append] at hlength
      have hmark : (utf8 ['"']).length = 1 := by decide
      omega
    rw [body?_plain hquote hbackslash] at hbody
    refine ⟨hbackslash, ?_⟩
    cases hany : text.toList.any isLineBreak with
    | true => simp [hany] at hbody
    | false => rfl
  · intro h rest
    rw [hread, body?_plain hquote h.1, h.2]
    rfl

/-! ## Defaults -/

theorem parameterArgument_text {p : Parameter} (htag : p.tag = .string) :
    (parameterArgument p).text =
      "const std::string& " ++ p.name ++ "=" ++ ("\"" ++ p.default ++ "\"") := by
  have hargument : parameterArgument p =
      ⟨"const std::string&", p.name, some ("\"" ++ p.default ++ "\"")⟩ := by
    rw [parameterArgument, htag]
    rfl
  rw [hargument]
  simp [Argument.text, ← String.toList_inj]

/-- A default that validation accepts stands in the declaration as it is, between quotes: in the
constructor and in `configure`. Native code reads it back as it is when it has no backslash and no
line break, and only then. The wrapper has it in a literal that is always read back as it is. -/
theorem stringDefault_survives_iff {a : Algorithm} {s : Settings} {x : Artifact} {p : Parameter}
    (h : emit .declaration a s = .ok x) (hp : p ∈ a.parameters) (htag : p.tag = .string)
    (haccepts : p.tag.accepts p.default = true) :
    ∃ expression,
      (parameterArgument p).text = "const std::string& " ++ p.name ++ "=" ++ expression ∧
      "\t\t" ++ a.name ++ "(" ++ argumentList (a.parameters.map parameterArgument) ++ ");" ∈
        x.lines ∧
      "\t\tvoid configure(" ++ argumentList (a.parameters.map parameterArgument) ++ ");" ∈
        x.lines ∧
      (∀ y, emit .wrapper a s = .ok y →
        "    " ++ p.name ++ ": " ++ Wrapper.defaultLiteral p ++ "," ∈ y.lines) ∧
      Script.literal? (Wrapper.defaultLiteral p).toList = some (.text p.default) ∧
      (Denotes expression p.default ↔
        '\\' ∉ p.default.toList ∧ p.default.toList.any isLineBreak = false) := by
  have hquote : '"' ∉ p.default.toList := by
    simpa [htag, Tag.accepts] using haccepts
  refine ⟨"\"" ++ p.default ++ "\"", parameterArgument_text htag, ?_, ?_, fun y hy => ?_, ?_,
    denotes_quoted_iff hquote⟩
  · rw [declaration_lines h]
    simp [declarationLines, signature]
  · rw [declaration_lines h]
    simp [declarationLines, signature]
  · rw [Wrapper.wrapperClass_lines hy]
    exact default_mem_classLines hp s _
  · rw [Wrapper.defaultLiteral, htag]
    exact Script.literal?_singleQuoted p.default

/-- A name is read back as it is. -/
theorem stringDefault_survives_hann :
    let p : Parameter := ⟨"type", .string, "hann", ""⟩
    let a : Algorithm := {
      descriptor := { name := "Windowing", parameters := [p] }
      handle := "_windowing"
      inputs := [⟨⟨"frame", .vectorReal, ""⟩, "input_frame"⟩]
      outputs := [⟨⟨"frame", .vectorReal, ""⟩, "output_frame"⟩] }
    p.tag.accepts p.default = true ∧ ∃ x expression, emit .declaration a {} = .ok x ∧
      (parameterArgument p).text = "const std::string& " ++ p.name ++ "=" ++ expression ∧
      Denotes expression "hann" := by
  intro p a
  obtain ⟨x, hx⟩ := isOk_iff.1 (show (emit .declaration a {}).isOk = true by rfl)
  have haccepts : p.tag.accepts p.default = true := by decide
  obtain ⟨expression, htext, -, -, -, -, hdenotes⟩ :=
    stringDefault_survives_iff hx (List.mem_singleton.2 rfl) rfl haccepts
  exact ⟨haccepts, x, expression, hx, htext, hdenotes.2 (by decide)⟩

/-- A path of a valid descriptor loses its backslash: native code reads a tab. -/
theorem stringDefault_lost :
    let d : Descriptor := {
      name := "Sampler"
      outputs := [⟨"signal", .vectorReal, ""⟩]
      parameters := [⟨"folder", .string, "C:\\temp", ""⟩] }
    d.IsValid ∧ ∃ a x, Algorithm.ofDescriptor {} d = .ok a ∧ emit .declaration a {} = .ok x ∧
      "\t\tSampler(const std::string& folder=\"C:\\temp\");" ∈ x.lines ∧
      stringLiteral? "\"C:\\temp\"".toList = some (utf8 "C:\temp".toList, []) ∧
      ¬ Denotes "\"C:\\temp\"" "C:\\temp" ∧
      Script.literal? (Wrapper.defaultLiteral ⟨"folder", .string, "C:\\temp", ""⟩).toList =
        some (.text "C:\\temp") := by
  intro d
  have hread : stringLiteral? "\"C:\\temp\"".toList = some (utf8 "C:\temp".toList, []) := by decide
  refine ⟨by decide, _, _, rfl, rfl, by decide, hread, fun h => ?_,
    Script.literal?_singleQuoted _⟩
  have hbytes := h []
  rw [List.append_nil, hread] at hbytes
  exact absurd hbytes (by decide)

end Bindery.Native
