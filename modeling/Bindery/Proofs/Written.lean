import Bindery.Json.Reader
import Bindery.Json.Writer

/-!
# Reading what was written

The pretty layout of a value is read back as the draft of that value. Strings come
first: every character is read back from its escape. Values, lists of items and lists
of members then go together, by induction on the fuel of the reader.
-/

namespace Bindery.Json

open Bindery.Text (hexValue?)

/-! ## Strings -/

theorem hexValue?_digitChar : ∀ n < 16, hexValue? (Nat.digitChar n) = some n := by decide

/-- A control is written by its code, which is below 32. -/
theorem codeUnit?_control {n : Nat} (h : n < 0x20) :
    codeUnit? '0' '0' (Nat.digitChar (n / 16)) (Nat.digitChar (n % 16)) = some n := by
  have hzero : hexValue? '0' = some 0 := by decide
  have hhigh := hexValue?_digitChar (n / 16) (by omega)
  have hlow := hexValue?_digitChar (n % 16) (by omega)
  simp only [codeUnit?, hzero, hhigh, hlow, Option.bind_eq_bind, Option.bind_some, Option.pure_def]
  congr 1
  omega

theorem pushUnit_control (read : List Char) {c : Char} (h : c.toNat < 0x20) :
    (Progress.text read).pushUnit c.toNat = .text (c :: read) := by
  have hleading : isLeading c.toNat = false := by
    simp [isLeading]
    omega
  have htrailing : isTrailing c.toNat = false := by
    simp [isTrailing]
    omega
  simp [Progress.pushUnit, hleading, htrailing, Char.ofNat_toNat]

theorem readString_escapedChar (read : List Char) (c : Char) (rest : List Char) :
    readString (.text read) (escapedChar c ++ rest) = readString (.text (c :: read)) rest := by
  unfold escapedChar
  split
  case h_8 c hquote hback _ _ _ _ _ =>
    split
    · rename_i hcontrol
      simp only [List.cons_append, List.nil_append, readString, codeUnit?_control hcontrol,
        pushUnit_control read hcontrol]
    · rename_i hplain
      rw [List.singleton_append, readString]
      · simp [hplain, Progress.push]
      all_goals grind
  all_goals simp [readString, shortEscape?, Progress.push]

theorem readString_escaped (read cs rest : List Char) :
    readString (.text read) (cs.flatMap escapedChar ++ '"' :: rest) =
      (.ok (String.ofList (read.reverse ++ cs)), rest) := by
  induction cs generalizing read with
  | nil => simp [readString, Progress.close]
  | cons c cs ih =>
      rw [List.flatMap_cons, List.append_assoc, readString_escapedChar, ih]
      simp

/-- A written string is read back from after its opening quote. -/
theorem readString_stringText (s : String) (rest : List Char) :
    ∃ tail, stringText s ++ rest = '"' :: tail ∧ readString (.text []) tail = (.ok s, rest) := by
  refine ⟨s.toList.flatMap escapedChar ++ '"' :: rest, by simp [stringText], ?_⟩
  rw [readString_escaped]
  simp

/-! ## Layout -/

theorem skipSpace_newLine (level : Nat) (cs : List Char) :
    skipSpace (Value.newLine level ++ cs) = skipSpace cs := by
  rw [skipSpace, Value.newLine, List.cons_append, List.dropWhile_cons_of_pos (by decide)]
  induction 2 * level with
  | zero => rfl
  | succ n ih =>
      rw [List.replicate_succ, List.cons_append, List.dropWhile_cons_of_pos (by decide), ih]

theorem skipSpace_of_visible {c : Char} (h : isSpace c = false) (cs : List Char) :
    skipSpace (c :: cs) = c :: cs :=
  List.dropWhile_cons_of_neg (by simp [h])

/-- Blanks before a value do not matter. -/
theorem readValue_skipSpace (fuel : Nat) {cs ds : List Char} (h : skipSpace cs = skipSpace ds) :
    readValue fuel cs = readValue fuel ds := by
  cases fuel with
  | zero => simp only [readValue]
  | succ fuel => simp only [readValue, h]

theorem commaSeparated_cons_cons (p q : List Char) (ps : List (List Char)) :
    commaSeparated (p :: q :: ps) = p ++ ',' :: commaSeparated (q :: ps) := by
  rw [commaSeparated, commaSeparated, List.intercalate_cons_cons]
  simp

namespace Value

mutual

/-- No number occurs in the value, so that strings are all there is to read. -/
def IsNumberless : Value → Prop
  | .number _ => False
  | .array items => AreNumberless items
  | .object members => HaveNumberless members
  | _ => True

def AreNumberless : List Value → Prop
  | [] => True
  | v :: rest => v.IsNumberless ∧ AreNumberless rest

/-- No number occurs in the values of members. -/
def HaveNumberless : List (String × Value) → Prop
  | [] => True
  | (_, v) :: rest => v.IsNumberless ∧ HaveNumberless rest

end

/-- A value begins with a character that is seen and ends no list. -/
theorem exists_cons_prettyText {v : Value} (hv : v.IsNumberless) (level : Nat) :
    ∃ c cs, v.prettyText level = c :: cs ∧ isSpace c = false ∧ c ≠ ']' := by
  have hbracketed : ∀ first last pieces, ∃ cs,
      bracketed first last level pieces = first :: cs := by
    intro first last pieces
    cases pieces with
    | nil => exact ⟨_, rfl⟩
    | cons p ps => exact ⟨_, rfl⟩
  cases v with
  | null => exact ⟨_, _, rfl, by decide, by decide⟩
  | bool b => cases b <;> exact ⟨_, _, rfl, by decide, by decide⟩
  | number n => exact absurd hv (by simp [IsNumberless])
  | string s => exact ⟨_, _, rfl, by decide, by decide⟩
  | array items =>
      obtain ⟨cs, hcs⟩ := hbracketed '[' ']' (prettyItems (level + 1) items)
      exact ⟨_, cs, hcs, by decide, by decide⟩
  | object members =>
      obtain ⟨cs, hcs⟩ := hbracketed '\x7b' '\x7d' (prettyMembers (level + 1) members)
      exact ⟨_, cs, hcs, by decide, by decide⟩

end Value

/-! ## Arrays and objects, piece by piece -/

variable {fuel : Nat} {cs rest : List Char} {v : Draft}

theorem readValue_array (h : ∀ tail, skipSpace cs ≠ ']' :: tail) {items : Items}
    (hitems : readItems fuel cs = (items, rest)) :
    readValue (fuel + 1) ('[' :: cs) = (.array items, rest) := by
  rw [readValue, skipSpace_of_visible (by decide)]
  simp only [↓reduceIte, hitems]

theorem readValue_object (h : ∀ tail, skipSpace cs ≠ '\x7d' :: tail) {members : Members}
    (hmembers : readMembers fuel cs = (members, rest)) :
    readValue (fuel + 1) ('\x7b' :: cs) = (.object members, rest) := by
  rw [readValue, skipSpace_of_visible (by decide)]
  simp only [Char.reduceEq, ↓reduceIte, hmembers]

theorem readItems_last {tail : List Char} (hv : readValue fuel cs = (v, rest))
    (hclose : skipSpace rest = ']' :: tail) :
    readItems (fuel + 1) cs = (.item v .close, tail) := by
  simp [readItems, hv, hclose]

theorem readItems_more {tail : List Char} {items : Items}
    (hv : readValue fuel cs = (v, ',' :: rest)) (hitems : readItems fuel rest = (items, tail)) :
    readItems (fuel + 1) cs = (.item v items, tail) := by
  simp [readItems, hv, hitems, skipSpace_of_visible (show isSpace ',' = false by decide)]

theorem readMembers_last {name : String} {after tail : List Char}
    (hname : skipSpace cs = stringText name ++ ':' :: rest)
    (hv : readValue fuel rest = (v, after)) (hclose : skipSpace after = '\x7d' :: tail) :
    readMembers (fuel + 1) cs = (.member (.ok name) v .close, tail) := by
  obtain ⟨key, hkey, hread⟩ := readString_stringText name (':' :: rest)
  rw [hkey] at hname
  simp [readMembers, hname, hread, skipSpace_of_visible (show isSpace ':' = false by decide), hv,
    hclose]

theorem readMembers_more {name : String} {after tail : List Char} {members : Members}
    (hname : skipSpace cs = stringText name ++ ':' :: rest)
    (hv : readValue fuel rest = (v, ',' :: after))
    (hmembers : readMembers fuel after = (members, tail)) :
    readMembers (fuel + 1) cs = (.member (.ok name) v members, tail) := by
  obtain ⟨key, hkey, hread⟩ := readString_stringText name (':' :: rest)
  rw [hkey] at hname
  simp [readMembers, hname, hread, skipSpace_of_visible (show isSpace ':' = false by decide),
    skipSpace_of_visible (show isSpace ',' = false by decide), hv, hmembers]

/-! ## Whole values -/

open Value

theorem length_newLine (level : Nat) : 0 < (newLine level).length := by
  simp [newLine]

theorem exists_commaSeparated_cons (p : List Char) (ps : List (List Char)) :
    ∃ tail, commaSeparated (p :: ps) = p ++ tail := by
  cases ps with
  | nil => exact ⟨[], by simp [commaSeparated]⟩
  | cons q qs => exact ⟨_, commaSeparated_cons_cons p q qs⟩

/-- With this much fuel every written value that fits is read back, whatever follows it. -/
def ReadsValues (fuel : Nat) : Prop :=
  ∀ (v : Value) (level : Nat) (rest : List Char), v.IsNumberless →
    (v.prettyText level).length ≤ fuel →
    readValue fuel (v.prettyText level ++ rest) = (v.draft, rest)

def ReadsItems (fuel : Nat) : Prop :=
  ∀ (v : Value) (vs : List Value) (level outer : Nat) (rest : List Char),
    AreNumberless (v :: vs) → (commaSeparated (prettyItems level (v :: vs))).length < fuel →
    readItems fuel
        (commaSeparated (prettyItems level (v :: vs)) ++ (newLine outer ++ ']' :: rest)) =
      (draftItems (v :: vs), rest)

def ReadsMembers (fuel : Nat) : Prop :=
  ∀ (m : String × Value) (ms : List (String × Value)) (level outer : Nat) (rest : List Char),
    HaveNumberless (m :: ms) → (commaSeparated (prettyMembers level (m :: ms))).length < fuel →
    readMembers fuel
        (commaSeparated (prettyMembers level (m :: ms)) ++ (newLine outer ++ '\x7d' :: rest)) =
      (draftMembers (m :: ms), rest)

theorem readsItems_succ (hvalues : ReadsValues fuel) (hitems : ReadsItems fuel) :
    ReadsItems (fuel + 1) := by
  intro v vs level outer rest hvs hfuel
  have hnew := length_newLine level
  cases vs with
  | nil =>
      have htext : commaSeparated (prettyItems level [v]) =
          newLine level ++ v.prettyText level := by
        simp [prettyItems, commaSeparated]
      rw [htext, List.length_append] at hfuel
      have hv := hvalues v level (newLine outer ++ ']' :: rest) hvs.1 (by omega)
      have hclose : skipSpace (newLine outer ++ ']' :: rest) = ']' :: rest := by
        rw [skipSpace_newLine, skipSpace_of_visible (by decide)]
      rw [htext, List.append_assoc]
      exact readItems_last ((readValue_skipSpace fuel (skipSpace_newLine _ _)).trans hv) hclose
  | cons w ws =>
      have htext : commaSeparated (prettyItems level (v :: w :: ws)) =
          newLine level ++ v.prettyText level ++
            ',' :: commaSeparated (prettyItems level (w :: ws)) := by
        rw [prettyItems, prettyItems, commaSeparated_cons_cons]
      rw [htext, List.length_append, List.length_append, List.length_cons] at hfuel
      have hws := hitems w ws level outer rest hvs.2 (by omega)
      rw [htext, List.append_assoc, List.append_assoc, List.cons_append]
      refine readItems_more ?_ hws
      rw [← hvalues v level _ hvs.1 (by omega)]
      exact readValue_skipSpace fuel (skipSpace_newLine _ _)

theorem readsMembers_succ (hvalues : ReadsValues fuel) (hmembers : ReadsMembers fuel) :
    ReadsMembers (fuel + 1) := by
  intro m ms level outer rest hms hfuel
  obtain ⟨name, v⟩ := m
  have hnew := length_newLine level
  have hquote : ∀ tail, skipSpace (newLine level ++ (stringText name ++ tail)) =
      stringText name ++ tail := by
    intro tail
    rw [skipSpace_newLine]
    exact skipSpace_of_visible (by decide) _
  have hblank : ∀ tail, readValue fuel (' ' :: tail) = readValue fuel tail := fun tail =>
    readValue_skipSpace fuel (List.dropWhile_cons_of_pos (by decide))
  cases ms with
  | nil =>
      have htext : commaSeparated (prettyMembers level [(name, v)]) =
          newLine level ++ stringText name ++ [':', ' '] ++ v.prettyText level := by
        simp [prettyMembers, commaSeparated]
      rw [htext] at hfuel
      simp only [List.length_append, List.length_cons, List.length_nil] at hfuel
      have hv := hvalues v level (newLine outer ++ '\x7d' :: rest) hms.1 (by omega)
      rw [htext]
      simp only [List.append_assoc, List.cons_append, List.nil_append]
      refine readMembers_last (hquote _) ((hblank _).trans hv) ?_
      rw [skipSpace_newLine, skipSpace_of_visible (by decide)]
  | cons n ns =>
      have htext : commaSeparated (prettyMembers level ((name, v) :: n :: ns)) =
          newLine level ++ stringText name ++ [':', ' '] ++ v.prettyText level ++
            ',' :: commaSeparated (prettyMembers level (n :: ns)) := by
        rw [prettyMembers, prettyMembers, commaSeparated_cons_cons]
      rw [htext] at hfuel
      simp only [List.length_append, List.length_cons, List.length_nil] at hfuel
      have hns := hmembers n ns level outer rest hms.2 (by omega)
      have hv := hvalues v level (',' :: (commaSeparated (prettyMembers level (n :: ns)) ++
        (newLine outer ++ '\x7d' :: rest))) hms.1 (by omega)
      rw [htext]
      simp only [List.append_assoc, List.cons_append, List.nil_append]
      exact readMembers_more (hquote _) ((hblank _).trans hv) hns

theorem readsValues_succ (hitems : ReadsItems fuel) (hmembers : ReadsMembers fuel) :
    ReadsValues (fuel + 1) := by
  intro v level rest hv hfuel
  have hnew := length_newLine level
  cases v with
  | null => simp [prettyText, readValue, skipSpace, isSpace, readWord, Value.draft]
  | bool b => cases b <;> simp [prettyText, readValue, skipSpace, isSpace, readWord, Value.draft]
  | number n => exact absurd hv (by simp [IsNumberless])
  | string s =>
      obtain ⟨tail, htail, hread⟩ := readString_stringText s rest
      rw [prettyText, htail, readValue, skipSpace_of_visible (by decide)]
      simp [hread, Value.draft]
  | array items =>
      cases items with
      | nil =>
          simp [prettyText, prettyItems, bracketed, readValue, skipSpace, isSpace, Value.draft,
            draftItems]
      | cons w ws =>
          have htext : (array (w :: ws)).prettyText level =
              '[' :: (commaSeparated (prettyItems (level + 1) (w :: ws)) ++ newLine level ++
                [']']) := rfl
          rw [htext] at hfuel
          simp only [List.length_cons, List.length_append, List.length_nil] at hfuel
          rw [htext, List.cons_append, List.append_assoc, List.append_assoc, List.singleton_append]
          refine readValue_array (fun tail heq => ?_) (hitems w ws _ _ rest hv (by omega))
          -- The list is not taken for an empty one, because its first item is seen first.
          obtain ⟨c, cs, hcs, hspace, hne⟩ := exists_cons_prettyText hv.1 (level + 1)
          obtain ⟨ds, hds⟩ := exists_commaSeparated_cons
            (newLine (level + 1) ++ w.prettyText (level + 1)) (prettyItems (level + 1) ws)
          rw [prettyItems, hds, hcs, List.append_assoc, List.append_assoc, skipSpace_newLine,
            List.cons_append, skipSpace_of_visible hspace] at heq
          exact hne (List.cons.inj heq).1
  | object members =>
      cases members with
      | nil =>
          simp [prettyText, prettyMembers, bracketed, readValue, skipSpace, isSpace, Value.draft,
            draftMembers]
      | cons m ms =>
          have htext : (object (m :: ms)).prettyText level =
              '\x7b' :: (commaSeparated (prettyMembers (level + 1) (m :: ms)) ++ newLine level ++
                ['\x7d']) := rfl
          rw [htext] at hfuel
          simp only [List.length_cons, List.length_append, List.length_nil] at hfuel
          rw [htext, List.cons_append, List.append_assoc, List.append_assoc, List.singleton_append]
          refine readValue_object (fun tail heq => ?_) (hmembers m ms _ _ rest hv (by omega))
          obtain ⟨ds, hds⟩ := exists_commaSeparated_cons
            (newLine (level + 1) ++ stringText m.1 ++ [':', ' '] ++ m.2.prettyText (level + 1))
            (prettyMembers (level + 1) ms)
          rw [prettyMembers, hds] at heq
          simp only [List.append_assoc, skipSpace_newLine] at heq
          rw [stringText, List.cons_append, List.cons_append,
            skipSpace_of_visible (by decide)] at heq
          exact absurd (List.cons.inj heq).1 (by decide)

/-- The parts of a value are read with one less than the value, so the induction is on the fuel. -/
theorem reads (fuel : Nat) : ReadsValues fuel ∧ ReadsItems fuel ∧ ReadsMembers fuel := by
  induction fuel with
  | zero =>
      refine ⟨fun v level rest hv hfuel => ?_, fun v vs level outer rest hvs hfuel => ?_,
        fun m ms level outer rest hms hfuel => ?_⟩
      · obtain ⟨c, cs, hcs, -, -⟩ := exists_cons_prettyText hv level
        simp [hcs] at hfuel
      · omega
      · omega
  | succ fuel ih =>
      obtain ⟨hvalues, hitems, hmembers⟩ := ih
      exact ⟨readsValues_succ hitems hmembers, readsItems_succ hvalues hitems,
        readsMembers_succ hvalues hmembers⟩

/-- A value is read back from its text, and nothing follows it there. -/
theorem ofText_pretty {v : Value} (hv : v.IsNumberless) :
    Document.ofText v.pretty = ⟨v.draft, false⟩ := by
  have hread := (reads (2 * (v.prettyText 0).length + 2)).1 v 0 [] hv (by omega)
  rw [List.append_nil] at hread
  simp [Document.ofText, pretty, hread, skipSpace]

end Bindery.Json
