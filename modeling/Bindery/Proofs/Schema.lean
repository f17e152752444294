import Bindery.Catalog.Descriptor
import Bindery.Proofs.Records

/-!
# Schemas of JSON values

A schema says which values a decoder takes, and which values it cannot tell apart: it may
not matter in which order members stand, whether a default is written out, what members of
other names say, or whether a record is an object or an array. The two relations are about
values alone. That a decoder is as a schema says is shown for texts, literals, lists and
records in turn.
-/

namespace Bindery.Json

/-! ## Schemas -/

mutual

inductive Schema where
  | text
  /-- A value that spells a literal. -/
  | literal
  | list (element : Schema)
  | record (fields : List Schema.Field)

/-- A member of a record. What is optional has a default. -/
inductive Schema.Field where
  | required (name : String) (schema : Schema)
  | optional (name : String) (default : Value) (schema : Schema)

end

namespace Schema

def Field.name : Field → String
  | .required name _ => name
  | .optional name _ _ => name

def Field.schema : Field → Schema
  | .required _ schema => schema
  | .optional _ _ schema => schema

def Field.default? : Field → Option Value
  | .required _ _ => none
  | .optional _ default _ => some default

end Schema

/-- No null and no object, inside any lists. -/
inductive Value.IsLiteral : Value → Prop
  | bool (b : Bool) : IsLiteral (.bool b)
  | number (n : Number) : IsLiteral (.number n)
  | string (s : String) : IsLiteral (.string s)
  | array {items : List Value} (h : ∀ v ∈ items, v.IsLiteral) : IsLiteral (.array items)

namespace Schema

inductive Conforms : Schema → Value → Prop
  | text (s : String) : Conforms .text (.string s)
  | literal {v : Value} (h : v.IsLiteral) : Conforms .literal v
  | list {element : Schema} {items : List Value} (h : ∀ v ∈ items, element.Conforms v) :
      Conforms (.list element) (.array items)
  /-- The known members of an object. Whatever else is in it is arbitrary. -/
  | object {fields : List Field} {members : List (String × Value)}
      (once : ∀ f ∈ fields, (members.map (·.1)).count f.name ≤ 1)
      (present : ∀ f ∈ fields, f.default? = none → f.name ∈ members.map (·.1))
      (known : ∀ f ∈ fields, ∀ v, (f.name, v) ∈ members → f.schema.Conforms v) :
      Conforms (.record fields) (.object members)
  /-- The fields in their order, of which the last ones may be missing. -/
  | positional {fields : List Field} {items : List Value}
      (short : items.length ≤ fields.length)
      (covered : ∀ f ∈ fields.drop items.length, f.default? ≠ none)
      (known : ∀ p ∈ fields.zip items, p.1.schema.Conforms p.2) :
      Conforms (.record fields) (.array items)

/-- Two spellings of one value: the steps that lead from one to the other, at any depth. -/
inductive Respelled : Schema → Value → Value → Prop
  | refl (schema : Schema) (v : Value) : Respelled schema v v
  | symm {schema : Schema} {v w : Value} (h : schema.Respelled v w) : Respelled schema w v
  | trans {schema : Schema} {u v w : Value} (h : schema.Respelled u v)
      (h' : schema.Respelled v w) : Respelled schema u w
  | item {element : Schema} {v w : Value} (before after : List Value)
      (h : element.Respelled v w) :
      Respelled (.list element) (.array (before ++ v :: after)) (.array (before ++ w :: after))
  | member {fields : List Field} {f : Field} {v w : Value} (members : List (String × Value))
      (hf : f ∈ fields) (h : f.schema.Respelled v w) :
      Respelled (.record fields) (.object ((f.name, v) :: members))
        (.object ((f.name, w) :: members))
  | permuted {fields : List Field} {members members' : List (String × Value)}
      (h : members.Perm members') : Respelled (.record fields) (.object members) (.object members')
  | unknown {fields : List Field} {name : String} (v : Value) (members : List (String × Value))
      (h : ∀ f ∈ fields, f.name ≠ name) :
      Respelled (.record fields) (.object members) (.object ((name, v) :: members))
  | default {fields : List Field} {f : Field} {v : Value} {members : List (String × Value)}
      (hf : f ∈ fields) (hdefault : f.default? = some v) (hnew : f.name ∉ members.map (·.1)) :
      Respelled (.record fields) (.object members) (.object ((f.name, v) :: members))
  | positional {fields : List Field} {items : List Value} (h : items.length ≤ fields.length) :
      Respelled (.record fields) (.array items) (.object ((fields.map Field.name).zip items))

/-- A decoder accepts what conforms, as long as no more than `room` containers lie in one another,
and does not tell spellings apart. -/
structure Describes (schema : Schema) (room : Nat) {α : Type} (decode : Draft → Except Error α) :
    Prop where
  accepts : ∀ v : Value, v.depth ≤ room → ((decode v.draft).isOk = true ↔ schema.Conforms v)
  respelled : ∀ v w, schema.Respelled v w → ∀ a, decode v.draft = .ok a ↔ decode w.draft = .ok a

/-- What a field says about a member of records. -/
structure Field.Describes (f : Field) (room : Nat) {α : Type} (blank : α)
    (m : Member Draft Error α) : Prop where
  name : m.name = f.name
  required : m.required = true ↔ f.default? = none
  default : ∀ v, f.default? = some v → m.put v.draft blank = .ok blank
  accepts : ∀ v : Value, v.depth ≤ room →
    ∀ a, (m.put v.draft a).isOk = true ↔ f.schema.Conforms v
  respelled : ∀ v w, f.schema.Respelled v w →
    ∀ a b, m.put v.draft a = .ok b ↔ m.put w.draft a = .ok b

/-! ## Texts and literals -/

variable {α β : Type} {room : Nat}

/-- Only records and lists have more than one spelling. -/
theorem Respelled.eq_of_atomic {schema : Schema} {v w : Value} (h : schema.Respelled v w)
    (hlist : ∀ element, schema ≠ .list element) (hrecord : ∀ fields, schema ≠ .record fields) :
    v = w := by
  induction h with
  | refl => rfl
  | symm _ ih => exact (ih hlist hrecord).symm
  | trans _ _ ih ih' => exact (ih hlist hrecord).trans (ih' hlist hrecord)
  | item => exact absurd rfl (hlist _)
  | _ => exact absurd rfl (hrecord _)

theorem conforms_text {v : Value} : text.Conforms v ↔ ∃ s, v = .string s := by
  constructor
  · intro h
    cases h with
    | text s => exact ⟨s, rfl⟩
  · rintro ⟨s, rfl⟩
    exact .text s

theorem describes_text (room : Nat) : text.Describes room Draft.text where
  accepts v _ := by
    rw [conforms_text]
    cases v <;> simp [Value.draft, Draft.text, isOk_iff]
  respelled v w h a := by
    have heq : v = w := by
      apply h.eq_of_atomic
      · intro element hs
        cases hs
      · intro fields hs
        cases hs
    rw [heq]

/-- What is made of a decoded value changes nothing about which values are decoded. -/
theorem Describes.map {schema : Schema} {decode : Draft → Except Error α} (f : α → β)
    (h : schema.Describes room decode) :
    schema.Describes room fun d => (decode d).map f where
  accepts v hv := by rw [isOk_map, h.accepts v hv]
  respelled v w hvw b := by
    simp only [map_eq_ok, h.respelled v w hvw]

theorem describes_tag (room : Nat) : text.Describes room Draft.tag :=
  (describes_text room).map Tag.ofName

mutual

theorem isSome_literal? (v : Value) : (literal? v).isSome = true ↔ v.IsLiteral := by
  cases v with
  | null => exact ⟨nofun, nofun⟩
  | bool b => exact ⟨fun _ => .bool b, fun _ => rfl⟩
  | number n => exact ⟨fun _ => .number n, fun _ => rfl⟩
  | string s => exact ⟨fun _ => .string s, fun _ => rfl⟩
  | array items =>
      rw [literal?, Option.isSome_map, isSome_literals? items]
      constructor
      · exact .array
      · intro h
        cases h with
        | array h => exact h
  | object members => exact ⟨nofun, nofun⟩

theorem isSome_literals? (vs : List Value) :
    (literals? vs).isSome = true ↔ ∀ v ∈ vs, v.IsLiteral := by
  cases vs with
  | nil => simp [literals?]
  | cons v rest =>
      rw [List.forall_mem_cons, ← isSome_literal? v, ← isSome_literals? rest, literals?]
      cases literal? v <;> cases literals? rest <;> simp

end

mutual

/-- Keeping a value that is not too deep does not change what it spells. Objects may be put in
order, but these spell nothing. -/
theorem keep_draft (room : Nat) (v : Value) (h : v.depth ≤ room) :
    ∃ w, v.draft.keep room = .ok w ∧ literal? w = literal? v := by
  cases v with
  | null => exact ⟨_, rfl, rfl⟩
  | bool b => exact ⟨_, rfl, rfl⟩
  | number n => exact ⟨_, rfl, rfl⟩
  | string s => exact ⟨_, rfl, rfl⟩
  | array items =>
      cases room with
      | zero => simp [Value.depth] at h
      | succ room =>
          rw [Value.depth, Nat.add_le_add_iff_right] at h
          obtain ⟨ws, hws, hsame⟩ := keep_draftItems room items h
          refine ⟨.array ws, ?_, by rw [literal?, literal?, hsame]⟩
          rw [Value.draft, Draft.keep, hws]
          rfl
  | object members =>
      cases room with
      | zero => simp [Value.depth] at h
      | succ room =>
          rw [Value.depth, Nat.add_le_add_iff_right] at h
          obtain ⟨ms, hms⟩ := keep_draftMembers room members h []
          refine ⟨.object ms, ?_, rfl⟩
          rw [Value.draft, Draft.keep, hms]
          rfl

theorem keep_draftItems (room : Nat) (vs : List Value) (h : Value.depthOfItems vs ≤ room) :
    ∃ ws, (Value.draftItems vs).keep room = .ok ws ∧ literals? ws = literals? vs := by
  cases vs with
  | nil => exact ⟨[], rfl, rfl⟩
  | cons v rest =>
      rw [Value.depthOfItems, Nat.max_le] at h
      obtain ⟨w, hw, hv⟩ := keep_draft room v h.1
      obtain ⟨ws, hws, hrest⟩ := keep_draftItems room rest h.2
      refine ⟨w :: ws, ?_, by rw [literals?, literals?, hv, hrest]⟩
      rw [Value.draftItems, Items.keep, hw, ok_bind, hws]
      rfl

theorem keep_draftMembers (room : Nat) (ms : List (String × Value))
    (h : Value.depthOfMembers ms ≤ room) (read : List (String × Value)) :
    ∃ ws, (Value.draftMembers ms).keep room read = .ok ws := by
  match ms, h with
  | [], _ => exact ⟨read, rfl⟩
  | (name, v) :: rest, h =>
      rw [Value.depthOfMembers, Nat.max_le] at h
      obtain ⟨w, hw, -⟩ := keep_draft room v h.1
      obtain ⟨ws, hws⟩ := keep_draftMembers room rest h.2 (Value.insertMember name w read)
      exact ⟨ws, by rw [Value.draftMembers, Members.keep, hw, ok_bind, hws]⟩

end

mutual

/-- Only the draft of a value can be kept. -/
theorem exists_value_of_keep (room : Nat) (d : Draft) {w : Value} (h : d.keep room = .ok w) :
    ∃ v : Value, v.depth ≤ room ∧ v.draft = d := by
  cases d with
  | null => exact ⟨.null, Nat.zero_le _, rfl⟩
  | bool b => exact ⟨.bool b, Nat.zero_le _, rfl⟩
  | number n => exact ⟨.number n, Nat.zero_le _, rfl⟩
  | string s => exact ⟨.string s, Nat.zero_le _, rfl⟩
  | flawed flaw => cases h
  | array items =>
      cases room with
      | zero => cases h
      | succ room =>
          obtain ⟨ws, hws, -⟩ := map_eq_ok.1 h
          obtain ⟨vs, hdepth, rfl⟩ := exists_items_of_keep room items hws
          exact ⟨.array vs, Nat.succ_le_succ hdepth, rfl⟩
  | object members =>
      cases room with
      | zero => cases h
      | succ room =>
          obtain ⟨ws, hws, -⟩ := map_eq_ok.1 h
          obtain ⟨ms, hdepth, rfl⟩ := exists_members_of_keep room members hws
          exact ⟨.object ms, Nat.succ_le_succ hdepth, rfl⟩

theorem exists_items_of_keep (room : Nat) (items : Items) {ws : List Value}
    (h : items.keep room = .ok ws) :
    ∃ vs, Value.depthOfItems vs ≤ room ∧ Value.draftItems vs = items := by
  cases items with
  | close => exact ⟨[], Nat.zero_le _, rfl⟩
  | broken b => cases h
  | item d rest =>
      obtain ⟨w, hw, hrest⟩ := bind_eq_ok.1 h
      obtain ⟨ws, hws, -⟩ := bind_eq_ok.1 hrest
      obtain ⟨v, hv, rfl⟩ := exists_value_of_keep room d hw
      obtain ⟨vs, hvs, rfl⟩ := exists_items_of_keep room rest hws
      exact ⟨v :: vs, Nat.max_le.2 ⟨hv, hvs⟩, rfl⟩

theorem exists_members_of_keep (room : Nat) (members : Members) {read ws : List (String × Value)}
    (h : members.keep room read = .ok ws) :
    ∃ ms, Value.depthOfMembers ms ≤ room ∧ Value.draftMembers ms = members := by
  match members, h with
  | .close, _ => exact ⟨[], Nat.zero_le _, rfl⟩
  | .member (.ok name) d rest, h =>
      obtain ⟨w, hw, hrest⟩ := bind_eq_ok.1 h
      obtain ⟨v, hv, rfl⟩ := exists_value_of_keep room d hw
      obtain ⟨ms, hms, rfl⟩ := exists_members_of_keep room rest hrest
      exact ⟨(name, v) :: ms, Nat.max_le.2 ⟨hv, hms⟩, rfl⟩

end

theorem describes_literal (room : Nat) : literal.Describes room (Draft.literal room) where
  accepts v hv := by
    obtain ⟨w, hw, hsame⟩ := keep_draft room v hv
    have hconforms : literal.Conforms v ↔ v.IsLiteral := by
      constructor
      · intro h
        cases h with
        | literal h => exact h
      · exact .literal
    rw [hconforms, ← isSome_literal?, ← hsame, Draft.literal, hw]
    cases hliteral : literal? w <;> simp [hliteral, isOk_iff]
  respelled v w h a := by
    have heq : v = w := by
      apply h.eq_of_atomic
      · intro element hs
        cases hs
      · intro fields hs
        cases hs
    rw [heq]

/-! ## Lists -/

theorem list_draftItems (element : Draft → Except Error α) (vs : List Value) :
    (Value.draftItems vs).list element = vs.mapM fun v => element v.draft := by
  induction vs with
  | nil => rfl
  | cons v rest ih =>
      rw [Value.draftItems, Items.list, ih, List.mapM_cons]

theorem depthOfItems_le {vs : List Value} (h : Value.depthOfItems vs ≤ room) :
    ∀ v ∈ vs, v.depth ≤ room := by
  induction vs with
  | nil => simp
  | cons v rest ih =>
      rw [Value.depthOfItems, Nat.max_le] at h
      exact List.forall_mem_cons.2 ⟨h.1, ih h.2⟩

theorem depthOfMembers_le {ms : List (String × Value)} (h : Value.depthOfMembers ms ≤ room) :
    ∀ entry ∈ ms, entry.2.depth ≤ room := by
  induction ms with
  | nil => simp
  | cons entry rest ih =>
      obtain ⟨name, v⟩ := entry
      rw [Value.depthOfMembers, Nat.max_le] at h
      exact List.forall_mem_cons.2 ⟨h.1, ih h.2⟩

theorem Describes.list {schema : Schema} {element : Draft → Except Error α}
    (h : schema.Describes room element) :
    (Schema.list schema).Describes (room + 1) (Draft.list element) where
  accepts v hv := by
    cases v with
    | array items =>
        rw [Value.depth, Nat.add_le_add_iff_right] at hv
        rw [Value.draft, Draft.list, list_draftItems, isOk_mapM]
        constructor
        · intro hok
          exact .list fun v hmem => (h.accepts v (depthOfItems_le hv v hmem)).1 (hok v hmem)
        · intro hconforms v hmem
          cases hconforms with
          | list hitems => exact (h.accepts v (depthOfItems_le hv v hmem)).2 (hitems v hmem)
    | _ =>
        refine ⟨by simp [Value.draft, Draft.list, isOk_iff], fun hconforms => ?_⟩
        cases hconforms
  respelled v w hvw := by
    generalize hs : Schema.list schema = s at hvw
    induction hvw with
    | refl => exact fun _ => Iff.rfl
    | symm _ ih => exact fun a => (ih hs a).symm
    | trans _ _ ih ih' => exact fun a => (ih hs a).trans (ih' hs a)
    | item before after hitem =>
        cases hs
        intro as
        simp only [Value.draft, Draft.list, list_draftItems, List.mapM_append, List.mapM_cons]
        refine Record.bind_congr_ok fun bs => Record.bind_congr_ok_left fun cs => ?_
        exact Record.bind_congr_ok_left fun c => h.respelled _ _ hitem c
    | _ => cases hs

/-! ## Records -/

/-- The members of a record are as the fields say, one by one, and may be put in any order. -/
structure Implements (r : Record α) (fields : List Field) (room : Nat) : Prop where
  opened : r.closed = false
  nodup : (r.members.map (·.name)).Nodup
  commute : r.members.Pairwise Member.Commute
  members : List.Forall₂ (fun f m => f.Describes room r.blank m) fields r.members

section Records

variable {r : Record α} {fields : List Field}

/-- The last members may be missing where the last fields have defaults. -/
theorem covered_iff {blank : α} {fs : List Field} {ms : List (Member Draft Error α)}
    (h : List.Forall₂ (fun f m => f.Describes room blank m) fs ms) :
    (∀ m ∈ ms, m.required = false) ↔ ∀ f ∈ fs, f.default? ≠ none := by
  induction h with
  | nil => simp
  | cons hm _ ih =>
      rw [List.forall_mem_cons, List.forall_mem_cons, ih, ne_eq, ← hm.required, Bool.not_eq_true]

namespace Implements

variable (h : Implements r fields room)
include h

theorem names : fields.map Field.name = r.members.map (·.name) := by
  have hmembers := h.members
  generalize r.members = ms at hmembers
  clear h
  induction hmembers with
  | nil => rfl
  | cons hm _ ih => rw [List.map_cons, List.map_cons, ih, hm.name]

/-- A field has its member, and a member its field. -/
theorem exists_member {f : Field} (hf : f ∈ fields) :
    ∃ m, memberNamed? r.members f.name = some m ∧ f.Describes room r.blank m := by
  obtain ⟨i, hi, rfl⟩ := List.mem_iff_getElem.1 hf
  have hlen := h.members.length_eq
  have hdescribes : fields[i].Describes room r.blank r.members[i] :=
    (List.forall₂_iff_get.1 h.members).2 i hi (hlen ▸ hi)
  refine ⟨r.members[i], ?_, hdescribes⟩
  rw [← hdescribes.name]
  exact memberNamed?_eq_some h.nodup (List.getElem_mem _)

theorem exists_field {name : String} {m : Member Draft Error α}
    (hm : memberNamed? r.members name = some m) :
    ∃ f ∈ fields, f.name = name ∧ f.Describes room r.blank m := by
  have hname : name ∈ fields.map Field.name := by
    rw [h.names, ← memberNamed?_name hm]
    exact List.mem_map_of_mem (List.mem_of_find?_eq_some hm)
  obtain ⟨f, hf, rfl⟩ := List.mem_map.1 hname
  obtain ⟨m', hm', hdescribes⟩ := h.exists_member hf
  rw [hm', Option.some.injEq] at hm
  exact ⟨f, hf, rfl, hm ▸ hdescribes⟩

theorem eq_of_name {f f' : Field} (hf : f ∈ fields) (hf' : f' ∈ fields)
    (hname : f.name = f'.name) : f = f' := by
  have hnodup : (fields.map Field.name).Nodup := h.names ▸ h.nodup
  exact List.inj_on_of_nodup_map hnodup hf hf' hname

theorem isKnown_iff {name : String} : r.isKnown name = true ↔ ∃ f ∈ fields, f.name = name := by
  rw [Record.isKnown, Option.isSome_iff_exists]
  constructor
  · rintro ⟨m, hm⟩
    obtain ⟨f, hf, hname, -⟩ := h.exists_field hm
    exact ⟨f, hf, hname⟩
  · rintro ⟨f, hf, rfl⟩
    obtain ⟨m, hm, -⟩ := h.exists_member hf
    exact ⟨m, hm⟩

theorem memberNamed?_eq_none {name : String} (hname : ∀ f ∈ fields, f.name ≠ name) :
    memberNamed? r.members name = none := by
  cases hm : memberNamed? r.members name with
  | none => rfl
  | some m =>
      obtain ⟨f, hf, heq, -⟩ := h.exists_field hm
      exact absurd heq (hname f hf)

theorem nodup_iff {ms : List (String × Value)} :
    (r.knownNames ms).Nodup ↔ ∀ f ∈ fields, (ms.map (·.1)).count f.name ≤ 1 := by
  rw [List.nodup_iff_count_le_one, Record.knownNames]
  constructor
  · intro hcount f hf
    have hone := hcount f.name
    rwa [List.count_filter (h.isKnown_iff.2 ⟨f, hf, rfl⟩)] at hone
  · intro hcount name
    by_cases hknown : r.isKnown name = true
    · obtain ⟨f, hf, rfl⟩ := h.isKnown_iff.1 hknown
      rw [List.count_filter hknown]
      exact hcount f hf
    · rw [List.count_eq_zero_of_not_mem fun hmem => hknown (List.mem_filter.1 hmem).2]
      omega

theorem required_iff {ms : List (String × Value)} :
    (∀ m ∈ r.members, m.required = true → m.name ∈ r.knownNames ms) ↔
      ∀ f ∈ fields, f.default? = none → f.name ∈ ms.map (·.1) := by
  constructor
  · intro hrequired f hf hnone
    obtain ⟨m, hm, hdescribes⟩ := h.exists_member hf
    have hmem := hrequired m (List.mem_of_find?_eq_some hm) (hdescribes.required.2 hnone)
    rw [hdescribes.name] at hmem
    exact (List.mem_filter.1 hmem).1
  · intro hpresent m hm hreq
    obtain ⟨f, hf, hname, hdescribes⟩ := h.exists_field (memberNamed?_eq_some h.nodup hm)
    have hmem := hpresent f hf (hdescribes.required.1 hreq)
    rw [hname] at hmem
    exact List.mem_filter.2 ⟨hmem, h.isKnown_iff.2 ⟨f, hf, hname⟩⟩

/-- The values of known members can be put where they conform. -/
theorem isOk_putKnown {ms : List (String × Value)} (hdepth : ∀ entry ∈ ms, entry.2.depth ≤ room) :
    (r.putKnown ms r.blank).isOk = true ↔
      ∀ entry ∈ ms, ∀ f ∈ fields, f.name = entry.1 → f.schema.Conforms entry.2 := by
  have hput : ∀ entry ∈ ms, ∀ m, memberNamed? r.members entry.1 = some m → ∀ a,
      (m.put entry.2.draft a).isOk = true ↔
        ∀ f ∈ fields, f.name = m.name → f.schema.Conforms entry.2 := by
    intro entry hentry m hm a
    obtain ⟨f, hf, hname, hdescribes⟩ := h.exists_field hm
    rw [hdescribes.accepts entry.2 (hdepth entry hentry) a]
    constructor
    · intro hconforms f' hf' hname'
      rw [h.eq_of_name hf' hf (hname'.trans hdescribes.name)]
      exact hconforms
    · intro hconforms
      exact hconforms f hf hdescribes.name.symm
  rw [Record.isOk_putKnown
    (P := fun m v => ∀ f ∈ fields, f.name = m.name → f.schema.Conforms v) hput]
  refine forall₂_congr fun entry _ => ?_
  constructor
  · intro hconforms f hf hname
    obtain ⟨m, hm, hdescribes⟩ := h.exists_member hf
    exact hconforms m (hname ▸ hm) f hf hdescribes.name.symm
  · intro hconforms m hm f hf hname
    exact hconforms f hf (hname.trans (memberNamed?_name hm))

theorem isOk_decode_object {ms : List (String × Value)}
    (hdepth : (Value.object ms).depth ≤ room + 1) :
    (r.decode (Value.object ms).draft).isOk = true ↔
      (Schema.record fields).Conforms (.object ms) := by
  rw [Value.depth, Nat.add_le_add_iff_right] at hdepth
  have hput := h.isOk_putKnown (depthOfMembers_le hdepth)
  simp only [isOk_iff, Record.decode_object_eq_ok h.opened, exists_and_left, h.nodup_iff,
    h.required_iff] at hput ⊢
  rw [hput]
  constructor
  · rintro ⟨honce, hpresent, hknown⟩
    exact .object honce hpresent fun f hf v hv => hknown (f.name, v) hv f hf rfl
  · intro hconforms
    cases hconforms with
    | object honce hpresent hknown =>
        refine ⟨honce, hpresent, ?_⟩
        rintro ⟨name, v⟩ hv f hf rfl
        exact hknown f hf v hv

theorem isOk_decode_array {vs : List Value} (hdepth : (Value.array vs).depth ≤ room + 1) :
    (r.decode (Value.array vs).draft).isOk = true ↔
      (Schema.record fields).Conforms (.array vs) := by
  rw [Value.depth, Nat.add_le_add_iff_right] at hdepth
  have hentries : ∀ entry ∈ (fields.map Field.name).zip vs, entry.2.depth ≤ room :=
    fun entry hentry => depthOfItems_le hdepth _ (List.of_mem_zip hentry).2
  have hput := h.isOk_putKnown hentries
  have hknown : (∀ entry ∈ (fields.map Field.name).zip vs,
      ∀ f ∈ fields, f.name = entry.1 → f.schema.Conforms entry.2) ↔
        ∀ p ∈ fields.zip vs, p.1.schema.Conforms p.2 := by
    rw [List.zip_map_left, List.forall_mem_map]
    refine forall₂_congr fun p hp => ?_
    have hfield := (List.of_mem_zip hp).1
    constructor
    · intro hconforms
      exact hconforms p.1 hfield rfl
    · intro hconforms f hf hname
      rw [h.eq_of_name hf hfield hname]
      exact hconforms
  simp only [isOk_iff, Record.decode_array_eq_ok h.nodup, exists_and_left,
    covered_iff (List.forall₂_drop vs.length h.members), ← h.names, ← h.members.length_eq]
    at hput ⊢
  rw [hput, hknown]
  constructor
  · rintro ⟨hshort, hcovered, hconforms⟩
    exact .positional hshort hcovered hconforms
  · intro hconforms
    cases hconforms with
    | positional hshort hcovered hconforms => exact ⟨hshort, hcovered, hconforms⟩

/-! ### Spellings of records -/

theorem decode_permuted {ms ms' : List (String × Value)} (hperm : ms.Perm ms') (a : α) :
    r.decode (Value.object ms).draft = .ok a ↔ r.decode (Value.object ms').draft = .ok a := by
  rw [Record.decode_object_eq_ok h.opened, Record.decode_object_eq_ok h.opened,
    (Record.perm_knownNames hperm).nodup_iff]
  simp only [(Record.perm_knownNames hperm).mem_iff]
  refine and_congr_right fun hnodup => and_congr_right fun _ => ?_
  exact Record.putKnown_perm h.commute hperm ((Record.perm_knownNames hperm).nodup_iff.2 hnodup)

theorem decode_unknown {name : String} (hname : ∀ f ∈ fields, f.name ≠ name) (v : Value)
    (ms : List (String × Value)) (a : α) :
    r.decode (Value.object ms).draft = .ok a ↔
      r.decode (Value.object ((name, v) :: ms)).draft = .ok a := by
  have hnone := h.memberNamed?_eq_none hname
  rw [Record.decode_object_eq_ok h.opened, Record.decode_object_eq_ok h.opened,
    Record.knownNames_cons_none hnone, Record.putKnown, hnone]

/-- A default puts nothing, and only what has no default has to be there. -/
theorem decode_default {f : Field} {v : Value} {ms : List (String × Value)} (hf : f ∈ fields)
    (hdefault : f.default? = some v) (hnew : f.name ∉ ms.map (·.1)) (a : α) :
    r.decode (Value.object ms).draft = .ok a ↔
      r.decode (Value.object ((f.name, v) :: ms)).draft = .ok a := by
  obtain ⟨m, hm, hdescribes⟩ := h.exists_member hf
  have hfresh : f.name ∉ r.knownNames ms := fun hmem => hnew (List.mem_filter.1 hmem).1
  rw [Record.decode_object_eq_ok h.opened, Record.decode_object_eq_ok h.opened,
    h.required_iff, h.required_iff, Record.knownNames_cons_some hm, Record.putKnown, hm]
  simp only [hdescribes.default v hdefault, ok_bind, List.nodup_cons, hfresh,
    not_false_eq_true, true_and, List.map_cons, List.mem_cons]
  refine and_congr_right fun _ => and_congr_left fun _ => forall₂_congr fun f' hf' => ?_
  refine imp_congr_right fun hnone => (or_iff_right fun hname => ?_).symm
  rw [h.eq_of_name hf' hf hname, hdefault] at hnone
  cases hnone

theorem decode_positional {vs : List Value} (hlen : vs.length ≤ fields.length) (a : α) :
    r.decode (Value.array vs).draft = .ok a ↔
      r.decode (Value.object ((fields.map Field.name).zip vs)).draft = .ok a := by
  rw [h.names]
  exact Record.decode_array_iff_object h.opened h.nodup (h.members.length_eq ▸ hlen)

theorem decode_member {f : Field} {v w : Value} (hf : f ∈ fields)
    (hvalue : f.schema.Respelled v w) (ms : List (String × Value)) (a : α) :
    r.decode (Value.object ((f.name, v) :: ms)).draft = .ok a ↔
      r.decode (Value.object ((f.name, w) :: ms)).draft = .ok a := by
  obtain ⟨m, hm, hdescribes⟩ := h.exists_member hf
  rw [Record.decode_object_eq_ok h.opened, Record.decode_object_eq_ok h.opened,
    Record.knownNames_cons_some hm, Record.knownNames_cons_some hm, Record.putKnown,
    Record.putKnown, hm]
  refine and_congr_right fun _ => and_congr_right fun _ => ?_
  exact Record.bind_congr_ok_left (hdescribes.respelled v w hvalue r.blank)

end Implements

/-- A record that implements fields is decoded as their schema says. -/
theorem Implements.describes (h : Implements r fields room) :
    (Schema.record fields).Describes (room + 1) r.decode where
  accepts v hv := by
    cases v with
    | object ms => exact h.isOk_decode_object hv
    | array vs => exact h.isOk_decode_array hv
    | _ =>
        refine ⟨by simp [Value.draft, Record.decode, isOk_iff], fun hconforms => ?_⟩
        cases hconforms
  respelled v w hvw := by
    generalize hs : Schema.record fields = s at hvw
    induction hvw with
    | refl => exact fun _ => Iff.rfl
    | symm _ ih => exact fun a => (ih hs a).symm
    | trans _ _ ih ih' => exact fun a => (ih hs a).trans (ih' hs a)
    | permuted hperm => exact h.decode_permuted hperm
    | unknown v ms hname =>
        cases hs
        exact h.decode_unknown hname v ms
    | default hf hdefault hnew =>
        cases hs
        exact h.decode_default hf hdefault hnew
    | positional hlen =>
        cases hs
        exact h.decode_positional hlen
    | member ms hf hvalue =>
        cases hs
        exact h.decode_member hf hvalue ms
    | _ => cases hs

end Records

/-! ## Members -/

section Members

variable {schema : Schema} {decode : Draft → Except Error β} {set : β → α → α} {name : String}
  {blank : α} (h : schema.Describes room decode)
include h

theorem accepts_of {required : Bool} {v : Value} (hv : v.depth ≤ room) (a : α) :
    ((Member.of name required decode set).put v.draft a).isOk = true ↔ schema.Conforms v := by
  rw [Member.of, isOk_map, h.accepts v hv]

theorem respelled_of {required : Bool} {v w : Value} (hvw : schema.Respelled v w) (a b : α) :
    (Member.of name required decode set).put v.draft a = .ok b ↔
      (Member.of name required decode set).put w.draft a = .ok b := by
  simp only [Member.of, map_eq_ok, h.respelled v w hvw]

theorem describes_required :
    (Field.required name schema).Describes room blank (Member.of name true decode set) where
  name := rfl
  required := by simp [Member.of, Field.default?]
  default v hv := by cases hv
  accepts _ hv a := accepts_of h hv a
  respelled _ _ hvw a b := respelled_of h hvw a b

/-- A default is decoded to what is in the blank record. -/
theorem describes_optional {default : Value} {x : β} (hdefault : decode default.draft = .ok x)
    (hblank : set x blank = blank) :
    (Field.optional name default schema).Describes room blank
      (Member.of name false decode set) where
  name := rfl
  required := by simp [Member.of, Field.default?]
  default v hv := by
    cases hv
    simp [Member.of, hdefault, hblank, Except.map]
  accepts _ hv a := accepts_of h hv a
  respelled _ _ hvw a b := respelled_of h hvw a b

end Members

end Schema

end Bindery.Json
