import Bindery.Proofs.Defaults
import Bindery.Proofs.Numerals

/-!
# Items of vector defaults

A vector default is written with brackets in the wrapper and with braces in native code, or
without either where it has no items. Brackets are changed into braces wherever they stand,
so that it matters that an accepted default has no others than the outer ones.
-/

namespace Bindery

open Decimal (isReal)
open Text (isBlank trim trimmed)

/-! ## Listings -/

/-- A list of these items in writing: an opening and a closing mark, each of them once, nothing but
blanks outside, and between them the items with commas, blanks around an item aside. -/
structure IsListing (opening closing : Char) (text : List Char) (items : List (List Char)) :
    Prop where
  opened : text.count opening = 1
  closed : text.count closing = 1
  between : ∃ before inner after, text = before ++ opening :: (inner ++ closing :: after) ∧
    (∀ c ∈ before, isBlank c = true) ∧ (∀ c ∈ after, isBlank c = true) ∧
    vectorItems inner = items

section

variable {before inner after : List Char} {opening closing c : Char}

theorem not_mem_blanks (hc : isForeign c = true) {cs : List Char}
    (hcs : ∀ d ∈ cs, isBlank d = true) : c ∉ cs := by
  intro hmem
  have hblank := hcs c hmem
  rw [isBlank_of_isForeign hc] at hblank
  cases hblank

/-- A mark of its own stands once in front of numerals, and once behind them. -/
theorem count_around (hc : isForeign c = true) (hbefore : ∀ d ∈ before, isBlank d = true)
    (hafter : ∀ d ∈ after, isBlank d = true) (hinner : ∀ w ∈ vectorItems inner, isReal w = true) :
    (before ++ opening :: (inner ++ closing :: after)).count c =
      [opening, closing].count c := by
  have hzero : ∀ cs : List Char, c ∉ cs → cs.count c = 0 := fun _ => List.count_eq_zero.2
  simp only [List.count_append, List.count_cons, hzero _ (not_mem_blanks hc hbefore),
    hzero _ (not_mem_blanks hc hafter), hzero _ (not_mem_of_isForeign hc hinner)]
  simp

/-- Numerals between two marks are a listing, whichever the marks are. -/
theorem isListing_of_isReal (hopening : isForeign opening = true)
    (hclosing : isForeign closing = true) (hne : opening ≠ closing)
    (hbefore : ∀ c ∈ before, isBlank c = true) (hafter : ∀ c ∈ after, isBlank c = true)
    (hinner : ∀ w ∈ vectorItems inner, isReal w = true) :
    IsListing opening closing (before ++ opening :: (inner ++ closing :: after))
      (vectorItems inner) where
  opened := by simp [count_around hopening hbefore hafter hinner, hne.symm]
  closed := by simp [count_around hclosing hbefore hafter hinner, hne]
  between := ⟨before, inner, after, rfl, hbefore, hafter, rfl⟩

/-! ## Braces in place of brackets -/

def brace (c : Char) : Char := if c = '[' then '\x7b' else if c = ']' then '\x7d' else c

theorem toList_braced (literal : String) :
    (Native.braced literal).toList = literal.toList.map brace := String.toList_ofList

theorem map_brace_eq_self {cs : List Char} (hopen : '[' ∉ cs) (hclose : ']' ∉ cs) :
    cs.map brace = cs := by
  refine (List.map_congr_left fun c hc => ?_).trans (List.map_id cs)
  have hne : c ≠ '[' := fun h => hopen (h ▸ hc)
  have hne' : c ≠ ']' := fun h => hclose (h ▸ hc)
  rw [brace, if_neg hne, if_neg hne', id]

theorem not_mem_map_brace (cs : List Char) : '[' ∉ cs.map brace ∧ ']' ∉ cs.map brace := by
  have hbrace : ∀ c, brace c ≠ '[' ∧ brace c ≠ ']' := by
    intro c
    unfold brace
    split
    · decide
    · split
      · decide
      · constructor <;> assumption
  constructor <;>
  · intro hmem
    obtain ⟨c, -, hc⟩ := List.mem_map.1 hmem
    simp_all

/-- Of an accepted literal the outer brackets are changed and nothing else. -/
theorem toList_braced_of_isReal {literal : String}
    (hliteral : literal.toList = before ++ '[' :: (inner ++ ']' :: after))
    (hbefore : ∀ c ∈ before, isBlank c = true) (hafter : ∀ c ∈ after, isBlank c = true)
    (hinner : ∀ w ∈ vectorItems inner, isReal w = true) :
    (Native.braced literal).toList = before ++ '\x7b' :: (inner ++ '\x7d' :: after) := by
  have hopen : isForeign '[' = true := by decide
  have hclose : isForeign ']' = true := by decide
  rw [toList_braced, hliteral, List.map_append, List.map_cons, List.map_append, List.map_cons,
    map_brace_eq_self (not_mem_blanks hopen hbefore) (not_mem_blanks hclose hbefore),
    map_brace_eq_self (not_mem_blanks hopen hafter) (not_mem_blanks hclose hafter),
    map_brace_eq_self (not_mem_of_isForeign hopen hinner)
      (not_mem_of_isForeign hclose hinner)]
  rfl

end

/-! ## Defaults -/

/-- Between the brackets of nothing but brackets there are no items. -/
theorem vectorItems_of_trimmed_eq {literal : String} {inner : List Char}
    (hliteral : trimmed literal = "[]")
    (hinner : betweenBrackets? (trim literal.toList) = some inner) : vectorItems inner = [] := by
  have htrim : trim literal.toList = ['[', ']'] := by
    simpa [trimmed] using congrArg String.toList hliteral
  rw [htrim] at hinner
  cases hinner
  rfl

/-- The items between the brackets of an accepted vector default are the items of the native
expression, between braces or with nothing for no items, and the items of the literal in the
wrapper. No bracket is left in native code. -/
theorem vectorDefault_items {p : Parameter} (htag : p.tag = .vectorReal)
    (h : p.tag.accepts p.default = true) :
    ∃ inner rest literal, betweenBrackets? (trim p.default.toList) = some inner ∧
      DefaultStands p "const std::vector<float>&" ("std::vector<float>" ++ rest)
        literal ∧
      (rest = "()" ∧ vectorItems inner = [] ∨
        IsListing '\x7b' '\x7d' rest.toList (vectorItems inner) ∧
          '[' ∉ rest.toList ∧ ']' ∉ rest.toList) ∧
      IsListing '[' ']' literal.toList (vectorItems inner) := by
  have hstands := DefaultStands.of_vectorReal htag
  rw [htag] at h
  obtain ⟨before, inner, after, hliteral, hbefore, hafter, hbrackets, hinner⟩ :=
    Tag.accepts_vectorReal h
  have hlisting : IsListing '[' ']' p.default.toList (vectorItems inner) := by
    rw [hliteral]
    exact isListing_of_isReal (by decide) (by decide) (by decide) hbefore hafter hinner
  by_cases hempty : trimmed p.default = "[]"
  · rw [if_pos hempty] at hstands
    exact ⟨inner, "()", p.default, hbrackets, hstands,
      .inl ⟨rfl, vectorItems_of_trimmed_eq hempty hbrackets⟩, hlisting⟩
  · rw [if_neg hempty] at hstands
    have hbraces : IsListing '\x7b' '\x7d' (Native.braced p.default).toList
        (vectorItems inner) := by
      rw [toList_braced_of_isReal hliteral hbefore hafter hinner]
      exact isListing_of_isReal (by decide) (by decide) (by decide) hbefore hafter hinner
    have hno := not_mem_map_brace p.default.toList
    rw [← toList_braced] at hno
    exact ⟨inner, Native.braced p.default, p.default, hbrackets, hstands, .inr ⟨hbraces, hno⟩,
      hlisting⟩

/-- Blanks around the list and in it are no part of its items. -/
theorem vectorDefault_items_padded :
    let p : Parameter := ⟨"gains", .vectorReal, " [1,-2.5 , inf]\t", ""⟩
    let items := ["1".toList, "-2.5".toList, "inf".toList]
    p.tag.accepts p.default = true ∧ ∃ rest literal,
      DefaultStands p "const std::vector<float>&" ("std::vector<float>" ++ rest) literal ∧
      IsListing '\x7b' '\x7d' rest.toList items ∧ IsListing '[' ']' literal.toList items := by
  intro p items
  have haccepts : p.tag.accepts p.default = true := by decide
  obtain ⟨inner, rest, literal, hinner, hstands, hrest, hliteral⟩ :=
    vectorDefault_items (p := p) rfl haccepts
  have hitems : (betweenBrackets? (trim p.default.toList)).map vectorItems = some items := by
    decide
  rw [hinner, Option.map_some, Option.some_inj] at hitems
  rw [hitems] at hrest hliteral
  refine ⟨haccepts, rest, literal, hstands, ?_, hliteral⟩
  rcases hrest with ⟨-, hnil⟩ | ⟨hlisting, -⟩
  · exact absurd hnil (by decide)
  · exact hlisting

end Bindery
