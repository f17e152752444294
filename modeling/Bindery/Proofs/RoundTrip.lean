import Bindery.Proofs.Catalog
import Bindery.Proofs.Decoding

/-!
# Catalogs as texts

A descriptor whose tags are canonical is read back from its own text, and so is every
catalog that such descriptors or other texts have led to.
-/

namespace Bindery

open Json (Draft Error Record Value)

/-! ## Descriptors -/

theorem Json.Draft.isCanonical_of_tag {d : Draft} {t : Tag} (h : d.tag = .ok t) :
    t.IsCanonical := by
  obtain ⟨name, -, rfl⟩ := map_eq_ok.1 h
  exact Tag.isCanonical_ofName name

instance (t : Tag) : Decidable t.IsCanonical := inferInstanceAs (Decidable (_ = _))

/-- All tags of a descriptor have been made from spellings. -/
structure Descriptor.IsCanonical (d : Descriptor) : Prop where
  inputs : ∀ p ∈ d.inputs, p.tag.IsCanonical
  outputs : ∀ p ∈ d.outputs, p.tag.IsCanonical
  parameters : ∀ p ∈ d.parameters, p.tag.IsCanonical

theorem Json.Draft.tag_name {t : Tag} (ht : t.IsCanonical) :
    (Value.string t.name).draft.tag = .ok t :=
  congrArg Except.ok ht

theorem Json.Draft.text_string (s : String) : (Value.string s).draft.text = .ok s := rfl

theorem Json.Draft.literal_string (room : Nat) (s : String) :
    (Value.string s).draft.literal room = .ok s := rfl

theorem putAll_of {α β : Type} {decode : Draft → Except Error β} {set : β → α → α} {name : String}
    {required : Bool} {ms : List (Member Draft Error α)} {v : Value} {vs : List Value} {a : α}
    {b : β} (h : decode v.draft = .ok b) :
    Record.putAll (.of name required decode set :: ms) (v :: vs) a =
      Record.putAll ms vs (set b a) := by
  simp [Record.putAll, Member.of, h, Except.map]

theorem Pin.decode_json (title : String) {p : Pin} (hp : p.tag.IsCanonical) :
    (Pin.record title).decode p.json.draft = .ok p := by
  have hnodup : ["name", "type", "description"].Nodup := by decide
  calc (record title).decode p.json.draft
      = Record.putAll (record title).members
          [.string p.name, .string p.tag.name, .string p.description] (record title).blank :=
        (record title).decode_written hnodup [_, _, _] rfl
    _ = .ok p := by
        simp only [record]
        rw [putAll_of (Json.Draft.text_string _), putAll_of (Json.Draft.tag_name hp),
          putAll_of (Json.Draft.text_string _)]
        rfl

theorem Parameter.decode_json (room : Nat) {p : Parameter} (hp : p.tag.IsCanonical) :
    (Parameter.record room).decode p.json.draft = .ok p := by
  have hnodup : ["name", "type", "default", "description"].Nodup := by decide
  calc (record room).decode p.json.draft
      = Record.putAll (record room).members
          [.string p.name, .string p.tag.name, .string p.default, .string p.description]
          (record room).blank :=
        (record room).decode_written hnodup [_, _, _, _] rfl
    _ = .ok p := by
        simp only [record]
        rw [putAll_of (Json.Draft.text_string _), putAll_of (Json.Draft.tag_name hp),
          putAll_of (Json.Draft.literal_string _ _), putAll_of (Json.Draft.text_string _)]
        rfl

theorem Descriptor.decode_json (outside : Nat) {d : Descriptor} (hd : d.IsCanonical) :
    (Descriptor.record outside).decode d.json.draft = .ok d := by
  have hnodup : ["name", "description", "inputs", "outputs", "parameters"].Nodup := by decide
  calc (record outside).decode d.json.draft
      = Record.putAll (record outside).members
          [.string d.name, .string d.description, .array (d.inputs.map Pin.json),
            .array (d.outputs.map Pin.json), .array (d.parameters.map Parameter.json)]
          (record outside).blank :=
        (record outside).decode_written hnodup [_, _, _, _, _] rfl
    _ = .ok d := by
        simp only [record]
        rw [putAll_of (Json.Draft.text_string _), putAll_of (Json.Draft.text_string _),
          putAll_of (Json.Draft.list_written fun p hp => Pin.decode_json _ (hd.inputs p hp)),
          putAll_of (Json.Draft.list_written fun p hp => Pin.decode_json _ (hd.outputs p hp)),
          putAll_of (Json.Draft.list_written fun p hp =>
            Parameter.decode_json _ (hd.parameters p hp))]
        rfl

/-! ## What is read has canonical tags -/

theorem Pin.isCanonical_of_decode {title : String} {d : Draft} {p : Pin}
    (h : (Pin.record title).decode d = .ok p) : p.tag.IsCanonical := by
  refine Record.decode_induction (P := fun p => p.tag.IsCanonical) rfl ?_ h
  simp only [record, List.forall_mem_cons, List.not_mem_nil, false_implies, implies_true, and_true]
  exact ⟨Member.keeps_of fun _ _ _ _ ha => ha,
    Member.keeps_of fun _ _ _ hx _ => Json.Draft.isCanonical_of_tag hx,
    Member.keeps_of fun _ _ _ _ ha => ha⟩

theorem Parameter.isCanonical_of_decode {room : Nat} {d : Draft} {p : Parameter}
    (h : (Parameter.record room).decode d = .ok p) : p.tag.IsCanonical := by
  refine Record.decode_induction (P := fun p => p.tag.IsCanonical) rfl ?_ h
  simp only [record, List.forall_mem_cons, List.not_mem_nil, false_implies, implies_true, and_true]
  exact ⟨Member.keeps_of fun _ _ _ _ ha => ha,
    Member.keeps_of fun _ _ _ hx _ => Json.Draft.isCanonical_of_tag hx,
    Member.keeps_of fun _ _ _ _ ha => ha, Member.keeps_of fun _ _ _ _ ha => ha⟩

theorem Descriptor.isCanonical_of_decode {outside : Nat} {v : Draft} {d : Descriptor}
    (h : (Descriptor.record outside).decode v = .ok d) : d.IsCanonical := by
  have hblank : (record outside).blank.IsCanonical := by constructor <;> simp [record]
  refine Record.decode_induction hblank ?_ h
  simp only [record, List.forall_mem_cons, List.not_mem_nil, false_implies, implies_true, and_true]
  refine ⟨Member.keeps_of fun _ _ _ _ ha => ⟨ha.inputs, ha.outputs, ha.parameters⟩,
    Member.keeps_of fun _ _ _ _ ha => ⟨ha.inputs, ha.outputs, ha.parameters⟩,
    Member.keeps_of fun _ _ _ hx ha => ⟨?_, ha.outputs, ha.parameters⟩,
    Member.keeps_of fun _ _ _ hx ha => ⟨ha.inputs, ?_, ha.parameters⟩,
    Member.keeps_of fun _ _ _ hx ha => ⟨ha.inputs, ha.outputs, ?_⟩⟩
  · exact Json.Draft.forall_mem_list (fun _ _ => Pin.isCanonical_of_decode) hx
  · exact Json.Draft.forall_mem_list (fun _ _ => Pin.isCanonical_of_decode) hx
  · exact Json.Draft.forall_mem_list (fun _ _ => Parameter.isCanonical_of_decode) hx

/-! ## Catalogs -/

namespace Catalog

theorem decode_json {c : Catalog} (hc : ∀ d ∈ c.descriptors, d.IsCanonical) :
    record.decode c.json.draft = .ok c.descriptors := by
  have hnodup : ["algorithms"].Nodup := by decide
  calc record.decode c.json.draft
      = Record.putAll record.members [.array (c.descriptors.map Descriptor.json)] record.blank :=
        record.decode_written hnodup [_] rfl
    _ = .ok c.descriptors := by
        simp only [record]
        rw [putAll_of (Json.Draft.list_written fun d hd => Descriptor.decode_json 2 (hc d hd))]
        rfl

theorem isCanonical_of_decode {v : Draft} {ds : List Descriptor} (h : record.decode v = .ok ds) :
    ∀ d ∈ ds, d.IsCanonical := by
  refine Record.decode_induction (P := fun ds => ∀ d ∈ ds, d.IsCanonical) (by simp [record]) ?_ h
  rw [record, List.forall_mem_singleton]
  exact Member.keeps_of fun _ _ _ hx _ =>
    Json.Draft.forall_mem_list (fun _ _ => Descriptor.isCanonical_of_decode) hx

/-- Catalogs that come from texts and from inserts of descriptors with canonical tags. -/
inductive Stored : Catalog → Prop
  | empty : Stored .empty
  | insert {c c' : Catalog} {d : Descriptor} (stored : Stored c) (canonical : d.IsCanonical)
      (inserted : c.insert d = .ok c') : Stored c'
  | read {text : String} {c : Catalog} (h : ofJson text = .ok c) : Stored c

theorem Stored.built {c : Catalog} (h : c.Stored) : c.Built := by
  induction h with
  | empty => exact .empty
  | insert _ _ hd ih => exact ih.insert hd
  | read h => exact .of_ofJson h

theorem Stored.isCanonical {c : Catalog} (h : c.Stored) : ∀ d ∈ c.descriptors, d.IsCanonical := by
  induction h with
  | empty => simp [Catalog.empty]
  | insert _ hcanonical hd ih =>
      obtain ⟨-, rfl⟩ := insert_eq_ok.1 hd
      intro d hmem
      rcases List.mem_append.1 hmem with hmem | hmem
      · exact ih d hmem
      · rw [List.mem_singleton.1 hmem]
        exact hcanonical
  | read h =>
      obtain ⟨ds, hread, hds⟩ := ofJson_eq_ok.1 h
      have hsame : _ = [] ++ ds := (Built.of_insertAll .empty hds).2
      rw [hsame, List.nil_append]
      exact isCanonical_of_decode (Json.decodeText_eq_ok.1 hread).1

end Catalog

/-! ## Texts -/

theorem Pin.isNumberless_json (p : Pin) : p.json.IsNumberless := by
  simp [json, Value.IsNumberless, Value.HaveNumberless]

theorem Parameter.isNumberless_json (p : Parameter) : p.json.IsNumberless := by
  simp [json, Value.IsNumberless, Value.HaveNumberless]

theorem Descriptor.isNumberless_json (d : Descriptor) : d.json.IsNumberless := by
  simp [json, Value.IsNumberless, Value.HaveNumberless,
    Value.areNumberless_map Pin.isNumberless_json,
    Value.areNumberless_map Parameter.isNumberless_json]

theorem Catalog.isNumberless_json (c : Catalog) : c.json.IsNumberless := by
  simp [json, Value.IsNumberless, Value.HaveNumberless,
    Value.areNumberless_map Descriptor.isNumberless_json]

theorem Descriptor.ofJson_pretty {d : Descriptor} (hd : d.IsCanonical) :
    ofJson d.pretty = .ok d := by
  rw [ofJson, pretty, Json.decodeText_pretty _ d.isNumberless_json]
  exact decode_json 0 hd

theorem Catalog.Stored.ofJson_pretty {c : Catalog} (hc : c.Stored) : ofJson c.pretty = .ok c := by
  refine ofJson_eq_ok.2 ⟨c.descriptors, ?_, hc.built.ofDescriptors_descriptors⟩
  rw [pretty, Json.decodeText_pretty _ c.isNumberless_json]
  exact decode_json hc.isCanonical

/-- Nothing is lost in writing. A descriptor comes back as it was, and a catalog as the same one,
with the same descriptors in the same order under the same index: whoever looks a name up in it,
prints it again or generates from it gets the same answer. -/
theorem catalog_round_trip :
    (∀ d : Descriptor, d.IsCanonical → Descriptor.ofJson d.pretty = .ok d) ∧
      ∀ c : Catalog, c.Stored → Catalog.ofJson c.pretty = .ok c :=
  ⟨fun _ hd => Descriptor.ofJson_pretty hd, fun _ hc => hc.ofJson_pretty⟩

/-- Controls, quotes, backslashes and characters of every width in all texts, a tag outside the
vocabulary, and lists of all lengths up to two. -/
theorem catalog_round_trip_tuning :
    let d : Descriptor := {
      name := "T\u00fcning \"\\\x01\""
      description := "first\n\tsecond \x7f \u2028 \ud7ff 😀"
      inputs := [⟨"signal", .vectorReal, ""⟩, ⟨"\x1f", .ofName "tensor_real", "/\r\x08\x0c"⟩]
      parameters := [⟨"pitch", .real, "440.0", "\x7b\"a\": [1]\x7d"⟩] }
    ∃ c, Catalog.empty.insert d = .ok c ∧ c.size = 1 ∧ Descriptor.ofJson d.pretty = .ok d ∧
      Catalog.ofJson c.pretty = .ok c := by
  intro d
  have hd : d.IsCanonical := by
    constructor <;> decide
  obtain ⟨c, hc⟩ : ∃ c, Catalog.empty.insert d = .ok c := ⟨_, rfl⟩
  have hsize : c.size = 1 := by
    obtain ⟨-, rfl⟩ := Catalog.insert_eq_ok.1 hc
    rfl
  exact ⟨c, hc, hsize, catalog_round_trip.1 d hd, catalog_round_trip.2 c (.insert .empty hd hc)⟩

end Bindery
