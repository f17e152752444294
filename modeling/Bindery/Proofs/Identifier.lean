import Bindery.Algorithm
import Bindery.Catalog.Identifier

/-!
# Words in generated code

Names, prefixed names and handles are made of the characters that identifiers go on
with. No punctuation of the generated languages is among these, so that a word ends
where the punctuation after it begins.
-/

namespace Bindery

/-- Every character is one that identifiers go on with. -/
def IsWord (cs : List Char) : Prop := ∀ c ∈ cs, continuesIdentifier c = true

theorem isWord_nil : IsWord [] := by simp [IsWord]

theorem isWord_append {cs ds : List Char} : IsWord (cs ++ ds) ↔ IsWord cs ∧ IsWord ds := by
  simp only [IsWord, List.mem_append]
  constructor
  · intro h
    exact ⟨fun c hc => h c (.inl hc), fun c hc => h c (.inr hc)⟩
  · intro h c hc
    obtain ⟨hcs, hds⟩ := h
    rcases hc with hc | hc
    · exact hcs c hc
    · exact hds c hc

theorem isWord_of_all {w : String} (h : w.toList.all continuesIdentifier = true) :
    IsWord w.toList :=
  List.all_eq_true.1 h

theorem IsWord.not_mem {cs : List Char} (h : IsWord cs) {c : Char}
    (hc : continuesIdentifier c = false) : c ∉ cs := by
  intro hmem
  rw [h c hmem] at hc
  cases hc

theorem isWord_of_isIdentifier {name : String} (h : isIdentifier name = true) :
    IsWord name.toList :=
  continuesIdentifier_of_mem h

/-- An identifier begins with a character of its own. -/
theorem exists_cons_of_isIdentifier {name : String} (h : isIdentifier name = true) :
    ∃ c rest, name.toList = c :: rest ∧ startsIdentifier c = true := by
  unfold isIdentifier at h
  cases hname : name.toList with
  | nil => simp [hname, isIdentifierText] at h
  | cons c rest =>
      simp only [hname, isIdentifierText, Bool.and_eq_true] at h
      exact ⟨c, rest, rfl, h.1⟩

/-- Words end where other characters begin. -/
theorem IsWord.append_inj {u u' r r' : List Char} {c c' : Char} (hu : IsWord u) (hu' : IsWord u')
    (hc : continuesIdentifier c = false) (hc' : continuesIdentifier c' = false)
    (h : u ++ c :: r = u' ++ c' :: r') : u = u' ∧ c = c' ∧ r = r' := by
  induction u generalizing u' with
  | nil =>
      cases u' with
      | nil => simpa using h
      | cons d ds =>
          obtain ⟨rfl, -⟩ := List.cons.inj h
          exact absurd (List.mem_cons_self) (hu'.not_mem hc)
  | cons d ds ih =>
      cases u' with
      | nil =>
          obtain ⟨rfl, -⟩ := List.cons.inj h
          exact absurd (List.mem_cons_self) (hu.not_mem hc')
      | cons d' ds' =>
          obtain ⟨rfl, htail⟩ := List.cons.inj h
          have hrest := ih (fun x hx => hu x (List.mem_cons_of_mem _ hx))
            (fun x hx => hu' x (List.mem_cons_of_mem _ hx)) htail
          exact ⟨by rw [hrest.1], hrest.2⟩

/-- Two words before different marks are not the same text. -/
theorem IsWord.append_ne {u : List Char} (hu : IsWord u) (w : List Char)
    (hw : w.all continuesIdentifier = true) {c c' : Char} (hc : continuesIdentifier c = false)
    (hc' : continuesIdentifier c' = false) (hne : c ≠ c') {r r' : List Char} :
    u ++ c :: r ≠ w ++ c' :: r' := by
  intro h
  exact hne (hu.append_inj (List.all_eq_true.1 hw) hc hc' h).2.1

/-! ## Lower case -/

theorem toNat_lt_of_continuesIdentifier {c : Char} (h : continuesIdentifier c = true) :
    c.toNat < 128 := by
  simp only [continuesIdentifier, startsIdentifier, Bool.or_eq_true, Bool.and_eq_true,
    decide_eq_true_eq, beq_iff_eq] at h
  rcases h with ((⟨-, h⟩ | ⟨-, h⟩) | rfl) | ⟨-, h⟩
  · exact Nat.lt_of_le_of_lt (show c.toNat ≤ 90 from h) (by decide)
  · exact Nat.lt_of_le_of_lt (show c.toNat ≤ 122 from h) (by decide)
  · decide
  · exact Nat.lt_of_le_of_lt (show c.toNat ≤ 57 from h) (by decide)

theorem isWord_lowerChar_ofNat :
    ∀ n < 128, continuesIdentifier (Char.ofNat n) = true →
      (Text.lowerChar (Char.ofNat n)).all continuesIdentifier = true := by
  decide +kernel

theorem isWord_lowerChar {c : Char} (h : continuesIdentifier c = true) :
    IsWord (Text.lowerChar c) := by
  have hc := isWord_lowerChar_ofNat c.toNat (toNat_lt_of_continuesIdentifier h)
  rw [Char.ofNat_toNat] at hc
  exact List.all_eq_true.1 (hc h)

theorem isWord_lowerAfter {before cs : List Char} (h : IsWord cs) :
    IsWord (Text.lowerAfter before cs) := by
  induction cs generalizing before with
  | nil => exact isWord_nil
  | cons c rest ih =>
      have hc := h c List.mem_cons_self
      have hsigma : c ≠ '\u03a3' := by
        intro heq
        subst heq
        exact absurd hc (by decide)
      rw [Text.lowerAfter, if_neg hsigma, isWord_append]
      exact ⟨isWord_lowerChar hc, ih fun d hd => h d (List.mem_cons_of_mem _ hd)⟩

theorem isWord_lowerCase {name : String} (h : IsWord name.toList) :
    IsWord (Text.lowerCase name).toList := by
  rw [Text.lowerCase, String.toList_ofList]
  exact isWord_lowerAfter h

/-! ## Descriptors and settings whose names are identifiers -/

/-- The names of an algorithm, of what it takes and of what it gives are identifiers. -/
structure Descriptor.HasIdentifiers (d : Descriptor) : Prop where
  name : isIdentifier d.name = true
  inputs : ∀ i ∈ d.inputs, isIdentifier i.name = true
  outputs : ∀ o ∈ d.outputs, isIdentifier o.name = true
  parameters : ∀ p ∈ d.parameters, isIdentifier p.name = true

/-- What stands before names in native code are identifiers. -/
structure Settings.HasIdentifierPrefixes (s : Settings) : Prop where
  input : isIdentifier s.inputPrefix = true
  output : isIdentifier s.outputPrefix = true
  handle : isIdentifier s.handlePrefix = true

theorem isWord_handle {s : Settings} {name : String} (hs : isIdentifier s.handlePrefix = true)
    (hname : isIdentifier name = true) : IsWord (s.handle name).toList := by
  rw [Settings.handle, String.toList_append, isWord_append]
  exact ⟨isWord_of_isIdentifier hs, isWord_lowerCase (isWord_of_isIdentifier hname)⟩

theorem Settings.HasIdentifierPrefixes.isWord_handle {s : Settings} {d : Descriptor}
    (hs : s.HasIdentifierPrefixes) (hd : d.HasIdentifiers) : IsWord (s.handle d.name).toList :=
  Bindery.isWord_handle hs.handle hd.name

theorem isWord_slot {before : String} {p : Pin} (hbefore : isIdentifier before = true)
    (hp : isIdentifier p.name = true) : IsWord (Algorithm.slot before p).ident.toList := by
  rw [Algorithm.slot, String.toList_append, isWord_append]
  exact ⟨isWord_of_isIdentifier hbefore, isWord_of_isIdentifier hp⟩

end Bindery
