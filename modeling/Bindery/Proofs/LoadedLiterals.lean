import Bindery.Proofs.NumberTexts
import Bindery.Proofs.Schema

/-!
# Defaults spelled as JSON values

A catalog may spell a default as a number, a truth value or an array instead of a text. What
is printed for these is what the check of defaults takes for the types they stand for. The
printer puts arrays in brackets and the check takes brackets off, so that an array in an
array leaves brackets between the outer ones, which no numeral has.
-/

namespace Bindery

open Json (Value Number Spelling)
open Decimal (isReal wordLimit)
open Text (isBlank trim)

/-! ## Values in arrays -/

/-- The value is the other one, or an item at some depth of its arrays. -/
inductive Json.Value.Within : Value → Value → Prop
  | here (v : Value) : v.Within v
  | item {v w : Value} {items : List Value} (hw : w ∈ items) (h : v.Within w) :
      v.Within (.array items)

/-- Neither null nor an object. -/
def Json.Value.IsSpelled (v : Value) : Prop := v ≠ .null ∧ ∀ members, v ≠ .object members

theorem Json.Value.IsLiteral.isSpelled_of_within {v w : Value} (hv : v.IsLiteral)
    (h : w.Within v) : w.IsSpelled := by
  induction h with
  | here => cases hv <;> exact ⟨nofun, nofun⟩
  | item hw _ ih =>
      cases hv with
      | array hitems => exact ih (hitems _ hw)

theorem Json.Value.isLiteral_of_within (v : Value) (h : ∀ w : Value, w.Within v → w.IsSpelled) :
    v.IsLiteral := by
  cases v with
  | null => exact absurd rfl (h _ (.here _)).1
  | bool b => exact .bool b
  | number n => exact .number n
  | string s => exact .string s
  | array items => exact .array fun w hw => w.isLiteral_of_within fun u hu => h u (.item hw hu)
  | object members => exact absurd rfl ((h _ (.here _)).2 members)

theorem isSome_literal?_iff_within (v : Value) :
    (literal? v).isSome = true ↔ ∀ w : Value, w.Within v → w.IsSpelled := by
  rw [Json.Schema.isSome_literal?]
  exact ⟨fun hv w => hv.isSpelled_of_within, v.isLiteral_of_within⟩

/-! ## Items of printed arrays -/

/-- The items and the texts that are printed for them. -/
theorem exists_of_literals? {items : List Value} {parts : List String}
    (h : literals? items = some parts) :
    (∀ v ∈ items, ∃ part ∈ parts, literal? v = some part) ∧
      ∀ part ∈ parts, ∃ v ∈ items, literal? v = some part := by
  induction items generalizing parts with
  | nil =>
      cases h
      exact ⟨nofun, nofun⟩
  | cons v rest ih =>
      simp only [literals?, Option.bind_eq_bind, Option.bind_eq_some_iff, Option.pure_def,
        Option.some_inj] at h
      obtain ⟨part, hpart, others, hothers, rfl⟩ := h
      obtain ⟨hitems, hparts⟩ := ih hothers
      rw [List.forall_mem_cons, List.forall_mem_cons]
      refine ⟨⟨⟨part, List.mem_cons_self, hpart⟩, fun w hw => ?_⟩,
        ⟨v, List.mem_cons_self, hpart⟩, fun other hother => ?_⟩
      · obtain ⟨other, hother, hliteral⟩ := hitems w hw
        exact ⟨other, List.mem_cons_of_mem _ hother, hliteral⟩
      · obtain ⟨w, hw, hliteral⟩ := hparts other hother
        exact ⟨w, List.mem_cons_of_mem _ hw, hliteral⟩

theorem literal?_array_eq_some {items : List Value} {text : String}
    (h : literal? (.array items) = some text) :
    ∃ parts, literals? items = some parts ∧
      text.toList = '[' :: ([',', ' '].intercalate (parts.map String.toList) ++ [']']) := by
  rw [literal?, Option.map_eq_some_iff] at h
  obtain ⟨parts, hparts, rfl⟩ := h
  refine ⟨parts, hparts, ?_⟩
  simp [String.toList_intercalate]

theorem mem_intercalate {separator piece : List Char} {pieces : List (List Char)} {c : Char}
    (hpiece : piece ∈ pieces) (hc : c ∈ piece) : c ∈ separator.intercalate pieces := by
  induction pieces with
  | nil => cases hpiece
  | cons p rest ih =>
      cases rest with
      | nil =>
          rw [List.intercalate_singleton]
          exact List.mem_singleton.1 hpiece ▸ hc
      | cons q rest =>
          rw [List.intercalate_cons_cons, List.mem_append, List.mem_append]
          rcases List.mem_cons.1 hpiece with rfl | hpiece
          · exact .inl (.inl hc)
          · exact .inr (ih hpiece)

/-- The blank behind a comma belongs to the next item. -/
theorem intercalate_comma_blank (w : List Char) (rest : List (List Char)) :
    [',', ' '].intercalate (w :: rest) = [','].intercalate (w :: rest.map (' ' :: ·)) := by
  induction rest generalizing w with
  | nil => rfl
  | cons v rest ih =>
      have hblank : [','].intercalate ((' ' :: v) :: rest.map (' ' :: ·)) =
          ' ' :: [','].intercalate (v :: rest.map (' ' :: ·)) := by
        cases rest <;> simp
      rw [List.intercalate_cons_cons, List.map_cons, List.intercalate_cons_cons, ih, hblank]
      simp

theorem vectorItems_intercalate {texts : List (List Char)} (h : ∀ w ∈ texts, isReal w = true) :
    vectorItems ([',', ' '].intercalate texts) = texts := by
  have hcomma : ∀ w ∈ texts, ',' ∉ w := by
    intro w hw hmem
    exact absurd (Decimal.isNumeralChar_of_isReal (h w hw) _ hmem) (by decide)
  cases texts with
  | nil => decide
  | cons w rest =>
      -- the first numeral is not empty and not blank
      have hempty : (trim ([',', ' '].intercalate (w :: rest))).isEmpty = false := by
        rw [List.isEmpty_eq_false_iff, Ne, Text.trim_eq_nil_iff]
        intro hblank
        have hw := h w List.mem_cons_self
        obtain ⟨c, hc⟩ := List.exists_mem_of_ne_nil w (Decimal.ne_nil_of_isReal hw)
        have hnumeral := Decimal.isNumeralChar_of_isReal hw c hc
        have hc' := hblank c (mem_intercalate List.mem_cons_self hc)
        rw [Decimal.isBlank_of_isNumeralChar hnumeral] at hc'
        cases hc'
      have hpieces : ∀ piece ∈ w :: rest.map (' ' :: ·), ',' ∉ piece := by
        rw [List.forall_mem_cons, List.forall_mem_map] at *
        exact ⟨hcomma.1, fun v hv => by simpa using hcomma.2 v hv⟩
      have htrim : (rest.map (' ' :: ·)).map trim = rest := by
        rw [List.map_map]
        refine (List.map_congr_left fun v hv => ?_).trans (List.map_id rest)
        have hv' := Decimal.trim_of_isReal (h v (List.mem_cons_of_mem _ hv))
        exact (Text.trim_cons_of_isBlank (by decide)).trans hv'
      rw [vectorItems, hempty, intercalate_comma_blank,
        List.splitOn_intercalate _ hpieces (by simp), List.map_cons, htrim,
        Decimal.trim_of_isReal (h w List.mem_cons_self)]
      rfl

theorem accepts_bracketed {text : String} {inner : List Char}
    (htext : text.toList = '[' :: (inner ++ [']'])) :
    Tag.vectorReal.accepts text = true ↔ ∀ w ∈ vectorItems inner, isReal w = true := by
  have htrim : trim text.toList = text.toList := by
    refine Text.trim_eq_self ?_ ?_
    · rw [htext]
      rintro _ ⟨⟩
      decide
    · rw [htext, ← List.cons_append, List.getLast?_concat]
      rintro _ ⟨⟩
      decide
  have hbetween : betweenBrackets? text.toList = some inner := betweenBrackets?_eq_some.2 htext
  simp only [Tag.accepts, htrim, hbetween, List.all_eq_true]

/-- What is neither a number nor a text is printed with a character that no list of numerals has. -/
theorem exists_isForeign {v : Value} {text : String} (h : literal? v = some text)
    (hstring : ∀ s, v ≠ .string s) (hnumber : ∀ n, v ≠ .number n) :
    ∃ c ∈ text.toList, isForeign c = true := by
  cases v with
  | null => cases h
  | bool b =>
      cases b
      · cases h
        exact ⟨'s', by decide, by decide⟩
      · cases h
        exact ⟨'r', by decide, by decide⟩
  | number n => exact absurd rfl (hnumber n)
  | string s => exact absurd rfl (hstring s)
  | array items =>
      obtain ⟨parts, -, htext⟩ := literal?_array_eq_some h
      exact ⟨'[', by simp [htext], by decide⟩
  | object members => cases h

theorem accepts_array_iff {items : List Value} {text : String}
    (h : literal? (.array items) = some text) (hstring : ∀ s, Value.string s ∉ items) :
    Tag.vectorReal.accepts text = true ↔ ∀ v ∈ items, ∃ n, v = .number n := by
  obtain ⟨parts, hparts, htext⟩ := literal?_array_eq_some h
  obtain ⟨hprinted, hitems⟩ := exists_of_literals? hparts
  rw [accepts_bracketed htext]
  constructor
  · -- an item that is no number leaves a character between the brackets that no numeral has
    intro hreal v hv
    by_contra hnumber
    obtain ⟨part, hpart, hliteral⟩ := hprinted v hv
    obtain ⟨c, hc, hforeign⟩ := exists_isForeign hliteral
      (fun s hs => hstring s (hs ▸ hv)) fun n hn => hnumber ⟨n, hn⟩
    exact not_mem_of_isForeign hforeign hreal
      (mem_intercalate (List.mem_map_of_mem hpart) hc)
  · intro hnumbers
    have hreal : ∀ w ∈ parts.map String.toList, isReal w = true := by
      rw [List.forall_mem_map]
      intro part hpart
      obtain ⟨v, hv, hliteral⟩ := hitems part hpart
      obtain ⟨n, rfl⟩ := hnumbers v hv
      cases hliteral
      exact n.isReal_text
    rw [vectorItems_intercalate hreal]
    exact hreal

/-! ## Loaded literals -/

/-- Exactly the values with no null and no object in them spell a literal. Every number spells a
plain numeral, which is a real default, and an integer default where 64 bits hold it as an integer
with its sign. Truth values spell those of defaults. An array of no texts spells a vector default
when it holds numbers and nothing else. -/
theorem loadedLiteral_accepted :
    (∀ v : Value, (literal? v).isSome = true ↔ ∀ w : Value, w.Within v → w.IsSpelled) ∧
    (∀ n : Number, ∃ (s : Spelling) (text : String), s.IsPlain ∧ text.toList = s.text ∧
      literal? (.number n) = some text ∧ Tag.real.accepts text = true ∧
      (Tag.integer.accepts text = true ↔
        ∃ k, n = .integer k ∧ -(wordLimit : Int) ≤ k ∧ k < wordLimit)) ∧
    (∀ b : Bool, ∃ text, literal? (.bool b) = some text ∧ Tag.bool.accepts text = true) ∧
    ∀ (items : List Value) (text : String), literal? (.array items) = some text →
      (∀ s, Value.string s ∉ items) →
      (Tag.vectorReal.accepts text = true ↔ ∀ v ∈ items, ∃ n, v = .number n) := by
  refine ⟨isSome_literal?_iff_within, fun n => ?_, fun b => ?_, fun items text h hstring =>
    accepts_array_iff h hstring⟩
  · obtain ⟨s, hs, htext, -⟩ := n.exists_spelling
    have hreal : Tag.real.accepts n.text = true := by rw [Tag.accepts, n.trim_text, n.isReal_text]
    exact ⟨s, n.text, hs, htext, rfl, hreal, n.accepts_integer_text⟩
  · cases b
    · exact ⟨"false", rfl, rfl⟩
    · exact ⟨"true", rfl, rfl⟩

/-- Two numbers are a vector default, and no longer when one of them is in an array of its own. -/
theorem loadedLiteral_accepted_points :
    let x : Value := .number (.integer 0)
    let y : Value := .number (.real true ⟨1, -1⟩)
    literal? (.array [x, y]) = some "[0, -0.5]" ∧ Tag.vectorReal.accepts "[0, -0.5]" = true ∧
      literal? (.array [x, .array [y]]) = some "[0, [-0.5]]" ∧
      Tag.vectorReal.accepts "[0, [-0.5]]" = false := by
  intro x y
  have hflat : literal? (.array [x, y]) = some "[0, -0.5]" := by decide
  have hnested : literal? (.array [x, .array [y]]) = some "[0, [-0.5]]" := by decide
  obtain ⟨-, -, -, harray⟩ := loadedLiteral_accepted
  refine ⟨hflat, (harray _ _ hflat (by simp [x, y])).2 (by simp [x, y]), hnested, ?_⟩
  rw [← Bool.not_eq_true, harray _ _ hnested (by simp [x, y])]
  simp [x]

end Bindery
