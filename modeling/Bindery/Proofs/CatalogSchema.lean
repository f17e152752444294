import Bindery.Proofs.RoundTrip
import Bindery.Proofs.Schema

/-!
# The schema of catalogs

Which JSON values are catalogs, and which of them are the same catalog in different
spellings. The schemas are written down beside the decoders, with the default of each
member as a value and the members in the order of the arrays.
-/

namespace Bindery

open Json (Draft Error Record Schema Value)

/-! ## Schemas -/

def Pin.fields : List Schema.Field := [
  .required "name" .text,
  .required "type" .text,
  .optional "description" (.string "") .text]

def Parameter.fields : List Schema.Field := [
  .required "name" .text,
  .required "type" .text,
  .required "default" .literal,
  .optional "description" (.string "") .text]

def Descriptor.fields : List Schema.Field := [
  .required "name" .text,
  .optional "description" (.string "") .text,
  .optional "inputs" (.array []) (.list (.record Pin.fields)),
  .optional "outputs" (.array []) (.list (.record Pin.fields)),
  .optional "parameters" (.array []) (.list (.record Parameter.fields))]

/-- A catalog is an object, or an array of one item, with a list of descriptors. -/
def Catalog.schema : Schema :=
  .record [.required "algorithms" (.list (.record Descriptor.fields))]

/-! ## Decoders -/

section Decoders

open Json.Schema

theorem Pin.implements (title : String) (room : Nat) :
    Implements (Pin.record title) Pin.fields room where
  opened := rfl
  nodup := by
    have hnodup : ["name", "type", "description"].Nodup := by decide
    exact hnodup
  commute := by
    simp only [Pin.record, List.pairwise_cons, List.forall_mem_cons, List.not_mem_nil,
      false_implies, implies_true, List.Pairwise.nil, and_true]
    and_intros <;> exact Member.commute_of fun _ _ _ => rfl
  members :=
    .cons (describes_required (describes_text room)) <|
    .cons (describes_required (describes_tag room)) <|
    .cons (describes_optional (describes_text room) rfl rfl) .nil

theorem Parameter.implements (room : Nat) :
    Implements (Parameter.record room) Parameter.fields room where
  opened := rfl
  nodup := by
    have hnodup : ["name", "type", "default", "description"].Nodup := by decide
    exact hnodup
  commute := by
    simp only [Parameter.record, List.pairwise_cons, List.forall_mem_cons, List.not_mem_nil,
      false_implies, implies_true, List.Pairwise.nil, and_true]
    and_intros <;> exact Member.commute_of fun _ _ _ => rfl
  members :=
    .cons (describes_required (describes_text room)) <|
    .cons (describes_required (describes_tag room)) <|
    .cons (describes_required (describes_literal room)) <|
    .cons (describes_optional (describes_text room) rfl rfl) .nil

/-- A descriptor holds its parameters two containers deeper. -/
theorem Descriptor.implements (outside : Nat) :
    Implements (Descriptor.record outside) Descriptor.fields
      (Descriptor.nestingLimit - (outside + 3) + 2) where
  opened := rfl
  nodup := by
    have hnodup : ["name", "description", "inputs", "outputs", "parameters"].Nodup := by decide
    exact hnodup
  commute := by
    simp only [Descriptor.record, List.pairwise_cons, List.forall_mem_cons, List.not_mem_nil,
      false_implies, implies_true, List.Pairwise.nil, and_true]
    and_intros <;> exact Member.commute_of fun _ _ _ => rfl
  members :=
    .cons (describes_required (describes_text _)) <|
    .cons (describes_optional (describes_text _) rfl rfl) <|
    .cons (describes_optional (Pin.implements "InputSpec" _).describes.list rfl rfl) <|
    .cons (describes_optional (Pin.implements "OutputSpec" _).describes.list rfl rfl) <|
    .cons (describes_optional (Parameter.implements _).describes.list rfl rfl) .nil

theorem Catalog.implements :
    Implements Catalog.record [.required "algorithms" (.list (.record Descriptor.fields))]
      (Descriptor.nestingLimit - 1) where
  opened := rfl
  nodup := List.nodup_singleton _
  commute := List.pairwise_singleton _ _
  members := .cons (describes_required (Descriptor.implements 2).describes.list) .nil

theorem Catalog.describes :
    Catalog.schema.Describes Descriptor.nestingLimit Catalog.record.decode :=
  Catalog.implements.describes

end Decoders

/-! ## Texts -/

/-- The text spells the value, and nothing else. -/
def Json.Holds (text : String) (v : Value) : Prop := Document.ofText text = ⟨v.draft, false⟩

theorem Json.decodeText_of_holds {α : Type} (decode : Draft → Except Error α) {text : String}
    {v : Value} (h : Holds text v) : decodeText decode text = decode v.draft := by
  rw [decodeText, h]
  cases decode v.draft <;> rfl

/-- A text whose value can be kept holds a value that is not too deep. -/
theorem Json.exists_holds {text : String} {room : Nat}
    (hkeep : ((Document.ofText text).root.keep room).isOk = true)
    (htrailing : (Document.ofText text).trailing = false) :
    ∃ v : Value, v.depth ≤ room ∧ Holds text v := by
  obtain ⟨w, hw⟩ := isOk_iff.1 hkeep
  obtain ⟨v, hdepth, hdraft⟩ := Schema.exists_value_of_keep room _ hw
  refine ⟨v, hdepth, ?_⟩
  rw [Holds, hdraft, ← htrailing]

/-- What is decoded as a catalog is what conforms to the schema, and all spellings of a value
are decoded to the same descriptors: a catalog comes back from every spelling of what it is
written as. The values are those of the texts that can be kept. -/
theorem catalog_schema :
    (∀ v : Value, v.depth ≤ Descriptor.nestingLimit →
      ((Catalog.record.decode v.draft).isOk = true ↔ Catalog.schema.Conforms v)) ∧
    (∀ v w : Value, Catalog.schema.Respelled v w → ∀ ds,
      Catalog.record.decode v.draft = .ok ds ↔ Catalog.record.decode w.draft = .ok ds) ∧
    (∀ c : Catalog, (∀ d ∈ c.descriptors, d.IsCanonical) → ∀ v,
      Catalog.schema.Respelled c.json v → Catalog.record.decode v.draft = .ok c.descriptors) ∧
    (∀ text v, Json.Holds text v →
      Json.decodeText Catalog.record.decode text = Catalog.record.decode v.draft) ∧
    ∀ text, ((Json.Document.ofText text).root.keep Descriptor.nestingLimit).isOk = true →
      (Json.Document.ofText text).trailing = false →
      ∃ v : Value, v.depth ≤ Descriptor.nestingLimit ∧ Json.Holds text v := by
  refine ⟨Catalog.describes.accepts, Catalog.describes.respelled, ?_,
    fun _ _ => Json.decodeText_of_holds _, fun _ => Json.exists_holds⟩
  intro c hc v hv
  exact (Catalog.describes.respelled _ _ hv _).1 (Catalog.decode_json hc)

/-- A catalog and its parameter as arrays, and the descriptor between them as an object out of
order, with a member that is unknown and without those that are empty. -/
theorem catalog_schema_gain :
    let c : Catalog :=
      ⟨[{ name := "Gain", parameters := [⟨"level", .real, "0.5", ""⟩] }], [("Gain", 0)]⟩
    let v : Value := .array [.array [.object [("note", .null),
      ("parameters", .array [.array [.string "level", .string "real", .string "0.5"]]),
      ("name", .string "Gain")]]]
    Catalog.schema.Conforms v ∧ Catalog.record.decode c.json.draft = .ok c.descriptors ∧
      Json.decodeText Catalog.record.decode v.pretty = .ok c.descriptors ∧
      ∃ w : Value, w.depth ≤ Descriptor.nestingLimit ∧ Json.Holds v.pretty w := by
  intro c v
  have hparameter : (Schema.record Parameter.fields).Respelled
      (Parameter.json ⟨"level", .real, "0.5", ""⟩)
      (.array [.string "level", .string "real", .string "0.5"]) := by
    have hdescription : .optional "description" (.string "") .text ∈ Parameter.fields := by
      simp [Parameter.fields]
    refine .trans (.permuted (List.perm_append_singleton _ [_, _, _])) ?_
    exact .trans (.symm (.default hdescription rfl (by decide))) (.symm (.positional (by decide)))
  have hgain : (Schema.record Descriptor.fields).Respelled
      (Descriptor.json { name := "Gain", parameters := [⟨"level", .real, "0.5", ""⟩] })
      (.object [("note", .null),
        ("parameters", .array [.array [.string "level", .string "real", .string "0.5"]]),
        ("name", .string "Gain")]) := by
    refine .trans (.permuted (List.perm_append_singleton _ [_, _, _, _]).symm) ?_
    have hfields : ∀ i, (h : i < 5) → Descriptor.fields[i] ∈ Descriptor.fields :=
      fun i h => List.getElem_mem h
    refine .trans (.symm (.default (hfields 1 (by decide)) rfl (by decide))) ?_
    refine .trans (.symm (.default (hfields 2 (by decide)) rfl (by decide))) ?_
    refine .trans (.symm (.default (hfields 3 (by decide)) rfl (by decide))) ?_
    refine .trans (.member _ (hfields 4 (by decide)) (.item [] [] hparameter)) ?_
    exact .unknown _ _ (by decide)
  have hv : Catalog.schema.Respelled c.json v :=
    .trans (.member [] List.mem_cons_self (.item [] [] hgain)) (.symm (.positional (by decide)))
  have hc : ∀ d ∈ c.descriptors, d.IsCanonical := by
    rw [List.forall_mem_singleton]
    constructor <;> decide
  have hdepth : v.depth ≤ Descriptor.nestingLimit := by decide
  have hholds : Json.Holds v.pretty v :=
    Json.ofText_pretty (by simp [v, Value.IsNumberless, Value.AreNumberless, Value.HaveNumberless])
  have hdecode := catalog_schema.2.2.1 c hc v hv
  obtain ⟨w, hw, -⟩ := Json.Schema.keep_draft Descriptor.nestingLimit v hdepth
  have hkeep : ((Json.Document.ofText v.pretty).root.keep Descriptor.nestingLimit).isOk = true := by
    rw [hholds, hw]
    rfl
  exact ⟨(catalog_schema.1 v hdepth).1 (isOk_iff.2 ⟨_, hdecode⟩),
    (catalog_schema.2.1 _ _ hv _).2 hdecode,
    (catalog_schema.2.2.2.1 _ v hholds).trans hdecode,
    catalog_schema.2.2.2.2 _ hkeep (by rw [hholds])⟩

end Bindery
