import Bindery.Proofs.Schema

/-!
# Records that are given in part

A closed record skips nothing. It takes known members, each of them once and with a value of
its kind, as an object in any order or as an array in the order of the declaration. What one
member alone writes is then what that member says, or what the blank record has. Since nothing
is skipped, whatever is read has been a value without any flaw.
-/

namespace Bindery

open Json (Draft Error Value)

/-! ## Members that write one part -/

/-- A member of this name says what a part of the record is, any other leaves it. -/
structure Member.Writes {α β : Type} (m : Member Draft Error α) (name : String) (get : α → β)
    (Means : Value → β → Prop) : Prop where
  own : m.name = name → ∀ (v : Value) a b, m.put v.draft a = .ok b → Means v (get b)
  apart : m.name ≠ name → ∀ x, m.Keeps (get · = x)

section Members

variable {α β γ : Type} {name other : String} {required : Bool} {get : α → β}
  {Means : Value → β → Prop}

theorem Member.Writes.of_own {decode : Draft → Except Error γ} {set : γ → α → α}
    (h : ∀ (v : Value) x a, decode v.draft = .ok x → Means v (get (set x a))) :
    (Member.of name required decode set).Writes name get Means where
  own _ v a b hb := by
    obtain ⟨x, hx, rfl⟩ := map_eq_ok.1 hb
    exact h v x a hx
  apart hne := absurd rfl hne

theorem Member.Writes.of_apart {decode : Draft → Except Error γ} {set : γ → α → α}
    (hne : other ≠ name) (h : ∀ x a, get (set x a) = get a) :
    (Member.of other required decode set).Writes name get Means where
  own heq := absurd heq hne
  apart _ _ := Member.keeps_of fun _ y a _ ha => (h y a).trans ha

end Members

namespace Json

/-! ## Members of given kinds -/

/-- A member that may be given: its name, and the values that it takes. -/
structure Kind where
  name : String
  Takes : Value → Prop

section Kinds

variable {kinds : List Kind} {ms : List (String × Value)}

/-- All members are known, none stands twice, and each has a value that it takes. -/
structure IsPartial (kinds : List Kind) (ms : List (String × Value)) : Prop where
  once : (ms.map (·.1)).Nodup
  taken : ∀ entry ∈ ms, ∃ kind ∈ kinds, kind.name = entry.1 ∧ kind.Takes entry.2

/-- Some member is unknown, or is known and stands twice or has a value that it does not take. -/
inductive IsFaulty (kinds : List Kind) (ms : List (String × Value)) : Prop
  | unknown {name : String} {v : Value} (h : (name, v) ∈ ms)
      (hname : ∀ kind ∈ kinds, kind.name ≠ name)
  | repeated {kind : Kind} (h : kind ∈ kinds) (htwice : 1 < (ms.map (·.1)).count kind.name)
  | wrong {kind : Kind} {v : Value} (h : kind ∈ kinds) (hgiven : (kind.name, v) ∈ ms)
      (hwrong : ¬ kind.Takes v)

theorem isFaulty_iff (hnodup : (kinds.map Kind.name).Nodup) :
    IsFaulty kinds ms ↔ ¬ IsPartial kinds ms := by
  constructor
  · intro h hpartial
    cases h with
    | unknown hgiven hname =>
        obtain ⟨kind, hkind, heq, -⟩ := hpartial.taken _ hgiven
        exact hname kind hkind heq
    | repeated _ htwice =>
        have honce := List.nodup_iff_count_le_one.1 hpartial.once
        exact absurd (honce _) (Nat.not_le.2 htwice)
    | wrong hkind hgiven hwrong =>
        obtain ⟨kind, hkind', heq, htakes⟩ := hpartial.taken _ hgiven
        obtain rfl := List.inj_on_of_nodup_map hnodup hkind' hkind heq
        exact hwrong htakes
  · intro hpartial
    by_contra hfaultless
    have htaken : ∀ entry ∈ ms, ∃ kind ∈ kinds, kind.name = entry.1 ∧ kind.Takes entry.2 := by
      rintro ⟨name, v⟩ hentry
      by_contra hnone
      push Not at hnone
      refine hfaultless (.unknown hentry fun kind hkind hname => ?_)
      subst hname
      exact hfaultless (.wrong hkind hentry (hnone kind hkind rfl))
    -- a name that stands twice belongs to a kind, since what stands there is taken
    refine hpartial ⟨List.nodup_iff_count_le_one.2 fun name => ?_, htaken⟩
    by_contra htwice
    rw [Nat.not_le] at htwice
    have hgiven : name ∈ ms.map (·.1) := List.count_pos_iff.1 (Nat.zero_lt_of_lt htwice)
    obtain ⟨entry, hentry, rfl⟩ := List.mem_map.1 hgiven
    obtain ⟨kind, hkind, hname, -⟩ := htaken entry hentry
    exact hfaultless (.repeated hkind (hname ▸ htwice))

theorem IsPartial.perm {ms' : List (String × Value)} (h : IsPartial kinds ms)
    (hperm : ms.Perm ms') : IsPartial kinds ms' where
  once := (hperm.map _).nodup_iff.1 h.once
  taken entry hentry := h.taken entry (hperm.mem_iff.2 hentry)

/-- A member may take another value that is as good. -/
theorem isPartial_cons {name : String} {v w : Value}
    (h : ∀ kind ∈ kinds, kind.name = name → (kind.Takes v ↔ kind.Takes w)) :
    IsPartial kinds ((name, v) :: ms) ↔ IsPartial kinds ((name, w) :: ms) := by
  have htaken : (∃ kind ∈ kinds, kind.name = name ∧ kind.Takes v) ↔
      ∃ kind ∈ kinds, kind.name = name ∧ kind.Takes w :=
    exists_congr fun kind => and_congr_right fun hkind => and_congr_right fun hname =>
      h kind hkind hname
  constructor
  · rintro ⟨honce, htakes⟩
    rw [List.forall_mem_cons, htaken] at htakes
    exact ⟨honce, List.forall_mem_cons.2 htakes⟩
  · rintro ⟨honce, htakes⟩
    rw [List.forall_mem_cons, ← htaken] at htakes
    exact ⟨honce, List.forall_mem_cons.2 htakes⟩

/-- The members that a value gives: those of an object, or the items of an array under the first of
the names. -/
inductive Value.Gives (names : List String) : Value → List (String × Value) → Prop
  | object (ms : List (String × Value)) : Gives names (.object ms) ms
  | array {vs : List Value} (h : vs.length ≤ names.length) : Gives names (.array vs) (names.zip vs)

theorem Value.gives_object {names : List String} {ms' : List (String × Value)} :
    (Value.object ms).Gives names ms' ↔ ms' = ms := by
  constructor
  · intro h
    cases h
    rfl
  · rintro rfl
    exact .object ms'

theorem Value.Gives.unique {names : List String} {v : Value} {ms' : List (String × Value)}
    (h : v.Gives names ms) (h' : v.Gives names ms') : ms = ms' := by
  cases h <;> cases h' <;> rfl

/-- The value gives members of these kinds. -/
def Spells (kinds : List Kind) (v : Value) : Prop :=
  ∃ ms, v.Gives (kinds.map (·.name)) ms ∧ IsPartial kinds ms

theorem spells_object : Spells kinds (.object ms) ↔ IsPartial kinds ms := by
  simp only [Spells, Value.gives_object, exists_eq_left]

/-! ## Nulls -/

/-- A null stands somewhere in the value. -/
inductive Value.HasNull : Value → Prop
  | null : HasNull .null
  | item {vs : List Value} {v : Value} (h : v ∈ vs) (hnull : v.HasNull) : HasNull (.array vs)
  | member {ms : List (String × Value)} {name : String} {v : Value} (h : (name, v) ∈ ms)
      (hnull : v.HasNull) : HasNull (.object ms)

theorem Spells.not_hasNull {v : Value} (h : Spells kinds v)
    (hkinds : ∀ kind ∈ kinds, ∀ w, kind.Takes w → ¬ w.HasNull) : ¬ v.HasNull := by
  obtain ⟨ms, hgives, hpartial⟩ := h
  have hvalues : ∀ entry ∈ ms, ¬ entry.2.HasNull := by
    intro entry hentry
    obtain ⟨kind, hkind, -, htakes⟩ := hpartial.taken entry hentry
    exact hkinds kind hkind _ htakes
  intro hnull
  cases hgives with
  | object =>
      cases hnull with
      | member hmem hnull => exact hvalues _ hmem hnull
  | @array vs hlen =>
      cases hnull with
      | item hmem hnull =>
          obtain ⟨i, hi, rfl⟩ := List.mem_iff_getElem.1 hmem
          have hzip : i < ((kinds.map (·.name)).zip vs).length := by
            rw [List.length_zip]
            omega
          exact hvalues _ (List.getElem_mem hzip) (by rwa [List.getElem_zip])

end Kinds

/-! ## Given members -/

section Given

variable {β : Type} {ms ms' : List (String × Value)} {name : String} {Means : Value → β → Prop}
  {default x y : β}

/-- What the member of a name means, or the default where there is no such member. -/
def Given (ms : List (String × Value)) (name : String) (Means : Value → β → Prop) (default x : β) :
    Prop :=
  (∃ v, (name, v) ∈ ms ∧ Means v x) ∨ name ∉ ms.map (·.1) ∧ x = default

theorem Given.unique (hx : Given ms name Means default x) (hy : Given ms name Means default y)
    (hnodup : (ms.map (·.1)).Nodup)
    (hmeans : ∀ v, (name, v) ∈ ms → Means v x → Means v y → x = y) : x = y := by
  rcases hx with ⟨v, hv, hx⟩ | ⟨hnone, rfl⟩
  · rcases hy with ⟨w, hw, hy⟩ | ⟨hnone, -⟩
    · have hvw : v = w := congrArg Prod.snd (List.inj_on_of_nodup_map hnodup hv hw rfl)
      exact hmeans v hv hx (hvw ▸ hy)
    · exact absurd (List.mem_map_of_mem hv) hnone
  · rcases hy with ⟨w, hw, -⟩ | ⟨-, rfl⟩
    · exact absurd (List.mem_map_of_mem hw) hnone
    · rfl

theorem given_perm (h : ms.Perm ms') :
    Given ms name Means default x ↔ Given ms' name Means default x := by
  unfold Given
  simp only [h.mem_iff, (h.map (·.1)).mem_iff]

/-- A member may take another value of the same meaning. -/
theorem given_cons {first : String} {v w : Value} {rest : List (String × Value)}
    (h : first = name → (Means v x ↔ Means w x)) :
    Given ((first, v) :: rest) name Means default x ↔
      Given ((first, w) :: rest) name Means default x := by
  have hmember : ∀ u, (∃ z, (name, z) ∈ (first, u) :: rest ∧ Means z x) ↔
      (first = name ∧ Means u x) ∨ ∃ z, (name, z) ∈ rest ∧ Means z x := by
    intro u
    simp only [List.mem_cons, Prod.mk.injEq, or_and_right, exists_or, eq_comm (a := name)]
    refine or_congr_left ⟨?_, ?_⟩
    · rintro ⟨z, ⟨hname, rfl⟩, hz⟩
      exact ⟨hname, hz⟩
    · rintro ⟨hname, hu⟩
      exact ⟨u, ⟨hname, rfl⟩, hu⟩
  unfold Given
  rw [hmember, hmember, and_congr_right h]
  rfl

end Given

/-! ## Closed records -/

namespace Record

variable {α β : Type} {r : Record α}

/-- A closed record takes what an open one takes, unless a member is unknown. -/
theorem fromMembers_closed (hclosed : r.closed = true) {ms : List (String × Value)}
    {seen : List String} {a b : α} :
    r.fromMembers seen a (Value.draftMembers ms) = .ok b ↔
      (∀ entry ∈ ms, r.isKnown entry.1 = true) ∧
        { r with closed := false }.fromMembers seen a (Value.draftMembers ms) = .ok b := by
  induction ms generalizing seen a with
  | nil => simp [Value.draftMembers, fromMembers]
  | cons entry rest ih =>
      obtain ⟨name, v⟩ := entry
      rw [List.forall_mem_cons, Value.draftMembers, fromMembers, fromMembers, isKnown]
      cases memberNamed? r.members name with
      | none => simp [hclosed]
      | some m =>
          cases seen.contains name with
          | true => simp
          | false =>
              dsimp only
              cases m.put v.draft a with
              | error e => simp
              | ok c => simpa using ih

theorem putKnown_opened (ms : List (String × Value)) (a : α) :
    { r with closed := false }.putKnown ms a = r.putKnown ms a := by
  induction ms generalizing a with
  | nil => rfl
  | cons entry rest ih =>
      rw [putKnown, putKnown]
      cases memberNamed? r.members entry.1 with
      | none => exact ih a
      | some m => exact congrArg (m.put entry.2.draft a >>= ·) (funext ih)

theorem knownNames_of_isKnown {ms : List (String × Value)}
    (h : ∀ entry ∈ ms, r.isKnown entry.1 = true) : r.knownNames ms = ms.map (·.1) :=
  List.filter_eq_self.2 (List.forall_mem_map.2 h)

/-- The members of a closed record are optional and take what the kinds say, one by one. -/
structure Reads (r : Record α) (kinds : List Kind) : Prop where
  closed : r.closed = true
  nodup : (r.members.map (·.name)).Nodup
  members : List.Forall₂ (fun kind m => m.name = kind.name ∧ m.required = false ∧
    ∀ (v : Value) a, (m.put v.draft a).isOk = true ↔ kind.Takes v) kinds r.members

namespace Reads

variable {kinds : List Kind} (h : r.Reads kinds)
include h

theorem names : kinds.map (·.name) = r.members.map (·.name) := by
  have hmembers := h.members
  generalize r.members = ms at hmembers
  clear h
  induction hmembers with
  | nil => rfl
  | cons hm _ ih => rw [List.map_cons, List.map_cons, ih, hm.1]

theorem nodup_kinds : (kinds.map Kind.name).Nodup := by
  rw [h.names]
  exact h.nodup

theorem optional : ∀ m ∈ r.members, m.required = false := by
  intro m hm
  obtain ⟨i, hi, rfl⟩ := List.mem_iff_getElem.1 hm
  exact ((List.forall₂_iff_get.1 h.members).2 i (h.members.length_eq ▸ hi) hi).2.1

/-- A known name has a member and a kind that take the same values. -/
theorem exists_member_iff {name : String} {v : Value} :
    (∃ m, memberNamed? r.members name = some m ∧ ∀ a, (m.put v.draft a).isOk = true) ↔
      ∃ kind ∈ kinds, kind.name = name ∧ kind.Takes v := by
  have hpaired := List.forall₂_iff_get.1 h.members
  constructor
  · rintro ⟨m, hm, hok⟩
    obtain ⟨i, hi, rfl⟩ := List.mem_iff_getElem.1 (List.mem_of_find?_eq_some hm)
    have hkind := hpaired.2 i (hpaired.1 ▸ hi) hi
    exact ⟨_, List.getElem_mem _, hkind.1.symm.trans (memberNamed?_name hm),
      (hkind.2.2 v r.blank).1 (hok r.blank)⟩
  · rintro ⟨kind, hmem, rfl, htakes⟩
    obtain ⟨i, hi, rfl⟩ := List.mem_iff_getElem.1 hmem
    have hkind := hpaired.2 i hi (hpaired.1 ▸ hi)
    exact ⟨_, hkind.1 ▸ memberNamed?_eq_some h.nodup (List.getElem_mem _),
      fun a => (hkind.2.2 v a).2 htakes⟩

/-- Whether a member takes a value does not depend on the record. -/
theorem isOk_put_iff {m : Member Draft Error α} (hm : m ∈ r.members) (v : Value) (a : α) :
    (m.put v.draft a).isOk = true ↔ ∀ b, (m.put v.draft b).isOk = true := by
  obtain ⟨i, hi, rfl⟩ := List.mem_iff_getElem.1 hm
  have hkind := (List.forall₂_iff_get.1 h.members).2 i (h.members.length_eq ▸ hi) hi
  exact ⟨fun hok b => (hkind.2.2 v b).2 ((hkind.2.2 v a).1 hok), fun hok => hok a⟩

theorem isPartial_iff {ms : List (String × Value)} (a : α) :
    IsPartial kinds ms ↔ (ms.map (·.1)).Nodup ∧ (∀ entry ∈ ms, r.isKnown entry.1 = true) ∧
      (r.putKnown ms a).isOk = true := by
  rw [isOk_putKnown (P := fun m v => ∀ b, (m.put v.draft b).isOk = true) fun entry _ m hm b =>
    h.isOk_put_iff (List.mem_of_find?_eq_some hm) entry.2 b]
  constructor
  · intro hpartial
    refine ⟨hpartial.once, fun entry hentry => ?_, fun entry hentry m hm => ?_⟩
    · obtain ⟨m, hm, -⟩ := h.exists_member_iff.2 (hpartial.taken entry hentry)
      exact Option.isSome_iff_exists.2 ⟨m, hm⟩
    · obtain ⟨m', hm', hok⟩ := h.exists_member_iff.2 (hpartial.taken entry hentry)
      rw [hm, Option.some.injEq] at hm'
      exact hm' ▸ hok
  · rintro ⟨honce, hknown, htaken⟩
    refine ⟨honce, fun entry hentry => h.exists_member_iff.1 ?_⟩
    obtain ⟨m, hm⟩ := Option.isSome_iff_exists.1 (hknown entry hentry)
    exact ⟨m, hm, htaken entry hentry m hm⟩

theorem decode_object_eq_ok {ms : List (String × Value)} {a : α} :
    r.decode (Value.object ms).draft = .ok a ↔
      IsPartial kinds ms ∧ r.putKnown ms r.blank = .ok a := by
  have hopen : { r with closed := false }.decode (Value.object ms).draft = .ok a ↔
      (r.knownNames ms).Nodup ∧
        (∀ m ∈ r.members, m.required = true → m.name ∈ r.knownNames ms) ∧
          r.putKnown ms r.blank = .ok a := by
    rw [← putKnown_opened]
    exact Record.decode_object_eq_ok rfl
  have hrequired : ∀ m ∈ r.members, m.required = true → m.name ∈ r.knownNames ms := by
    intro m hm hreq
    rw [h.optional m hm] at hreq
    cases hreq
  rw [Value.draft, decode] at hopen ⊢
  rw [fromMembers_closed h.closed, hopen, h.isPartial_iff r.blank]
  constructor
  · rintro ⟨hknown, honce, -, hput⟩
    rw [knownNames_of_isKnown hknown] at honce
    exact ⟨⟨honce, hknown, isOk_iff.2 ⟨a, hput⟩⟩, hput⟩
  · rintro ⟨⟨honce, hknown, -⟩, hput⟩
    exact ⟨hknown, by rwa [knownNames_of_isKnown hknown], hrequired, hput⟩

theorem decode_array_eq_ok {vs : List Value} {a : α} :
    r.decode (Value.array vs).draft = .ok a ↔ vs.length ≤ kinds.length ∧
      IsPartial kinds ((kinds.map (·.name)).zip vs) ∧
        r.putKnown ((kinds.map (·.name)).zip vs) r.blank = .ok a := by
  rw [Record.decode_array_eq_ok h.nodup, h.names, h.members.length_eq, h.isPartial_iff r.blank]
  constructor
  · rintro ⟨hlen, -, hput⟩
    have hknown : ∀ entry ∈ (r.members.map (·.name)).zip vs, r.isKnown entry.1 = true :=
      fun entry hentry => isKnown_of_mem h.nodup (List.of_mem_zip hentry).1
    refine ⟨hlen, ⟨?_, hknown, isOk_iff.2 ⟨a, hput⟩⟩, hput⟩
    rw [← knownNames_of_isKnown hknown, knownNames_zip h.nodup hlen]
    exact h.nodup.sublist (List.take_sublist _ _)
  · rintro ⟨hlen, -, hput⟩
    exact ⟨hlen, fun m hm => h.optional m (List.mem_of_mem_drop hm), hput⟩

/-- What is decoded is what a value gives. -/
theorem decode_eq_ok {v : Value} {a : α} :
    r.decode v.draft = .ok a ↔ ∃ ms, v.Gives (kinds.map (·.name)) ms ∧ IsPartial kinds ms ∧
      r.putKnown ms r.blank = .ok a := by
  cases v with
  | object ms =>
      rw [h.decode_object_eq_ok]
      constructor
      · rintro ⟨hpartial, hput⟩
        exact ⟨ms, .object ms, hpartial, hput⟩
      · rintro ⟨_, hgives, hdecoded⟩
        cases hgives
        exact hdecoded
  | array vs =>
      rw [h.decode_array_eq_ok]
      constructor
      · rintro ⟨hlen, hdecoded⟩
        exact ⟨_, .array (by simpa using hlen), hdecoded⟩
      · rintro ⟨_, hgives, hdecoded⟩
        cases hgives with
        | array hlen => exact ⟨by simpa using hlen, hdecoded⟩
  | _ =>
      refine ⟨by simp [Value.draft, decode], ?_⟩
      rintro ⟨_, hgives, -⟩
      cases hgives

theorem isOk_decode {v : Value} : (r.decode v.draft).isOk = true ↔ Spells kinds v := by
  simp only [isOk_iff, h.decode_eq_ok]
  constructor
  · rintro ⟨a, ms, hgives, hpartial, -⟩
    exact ⟨ms, hgives, hpartial⟩
  · rintro ⟨ms, hgives, hpartial⟩
    obtain ⟨a, hput⟩ := isOk_iff.1 ((h.isPartial_iff r.blank).1 hpartial).2.2
    exact ⟨a, ms, hgives, hpartial, hput⟩

end Reads

/-! ## Parts of records -/

/-- What is put into the blank record is the one record of which something is true. -/
theorem Reads.putKnown_iff {kinds : List Kind} (h : r.Reads kinds) {Says : α → Prop}
    {ms : List (String × Value)} (hpartial : IsPartial kinds ms)
    (hput : ∀ a, r.putKnown ms r.blank = .ok a → Says a)
    (hunique : ∀ a b, Says a → Says b → a = b) {a : α} :
    r.putKnown ms r.blank = .ok a ↔ Says a := by
  obtain ⟨b, hb⟩ := isOk_iff.1 ((h.isPartial_iff r.blank).1 hpartial).2.2
  constructor
  · exact hput a
  · intro ha
    rw [hunique a b ha (hput b hb), hb]

/-- A part of a record is what its members say, and stays as it was where there is none. -/
theorem given_of_putKnown {name : String} {get : α → β} {Means : Value → β → Prop}
    (h : ∀ m ∈ r.members, m.Writes name get Means) {ms : List (String × Value)}
    (hnodup : (ms.map (·.1)).Nodup) (hknown : ∀ entry ∈ ms, r.isKnown entry.1 = true) {a b : α}
    (hput : r.putKnown ms a = .ok b) : Given ms name Means (get a) (get b) := by
  induction ms generalizing a with
  | nil =>
      cases hput
      exact .inr ⟨List.not_mem_nil, rfl⟩
  | cons entry rest ih =>
      obtain ⟨n, v⟩ := entry
      rw [List.map_cons, List.nodup_cons] at hnodup
      rw [List.forall_mem_cons] at hknown
      obtain ⟨m, hm⟩ := Option.isSome_iff_exists.1 hknown.1
      have hwrites := h m (List.mem_of_find?_eq_some hm)
      obtain rfl := memberNamed?_name hm
      rw [putKnown, hm] at hput
      obtain ⟨c, hc, hrest⟩ := bind_eq_ok.1 hput
      have hrest := ih hnodup.2 hknown.2 hrest
      by_cases hn : m.name = name
      · subst hn
        -- the rest has no such member, so that the part stays
        rcases hrest with ⟨w, hw, -⟩ | ⟨-, heq⟩
        · exact absurd (List.mem_map_of_mem hw) hnodup.1
        · exact .inl ⟨v, List.mem_cons_self, heq ▸ hwrites.own rfl v a c hc⟩
      · rw [hwrites.apart hn _ v.draft a c rfl hc] at hrest
        refine Or.imp ?_ ?_ hrest
        · rintro ⟨w, hw, hx⟩
          exact ⟨w, List.mem_cons_of_mem _ hw, hx⟩
        · rintro ⟨hnone, heq⟩
          refine ⟨?_, heq⟩
          rw [List.map_cons, List.mem_cons, not_or]
          exact ⟨Ne.symm hn, hnone⟩

theorem Reads.given {kinds : List Kind} (h : r.Reads kinds) {name : String} {get : α → β}
    {Means : Value → β → Prop} (hwrites : ∀ m ∈ r.members, m.Writes name get Means)
    {ms : List (String × Value)} (hpartial : IsPartial kinds ms) {a : α}
    (hput : r.putKnown ms r.blank = .ok a) : Given ms name Means (get r.blank) (get a) :=
  given_of_putKnown hwrites hpartial.once ((h.isPartial_iff r.blank).1 hpartial).2.1 hput

end Record

/-! ## Nothing but values -/

/-- Nothing is decoded but drafts of values. -/
def OnlyValues {α : Type} (decode : Draft → Except Error α) : Prop :=
  ∀ d a, decode d = .ok a → ∃ v : Value, v.draft = d

theorem onlyValues_text : OnlyValues Draft.text := by
  intro d s h
  cases d with
  | string s => exact ⟨.string s, rfl⟩
  | _ => cases h

theorem OnlyValues.map {α β : Type} {decode : Draft → Except Error α} (h : OnlyValues decode)
    (f : α → β) : OnlyValues fun d => (decode d).map f := by
  intro d b hb
  obtain ⟨a, ha, -⟩ := map_eq_ok.1 hb
  exact h d a ha

theorem OnlyValues.items {α : Type} {element : Draft → Except Error α} (h : OnlyValues element)
    {items : Items} {as : List α} (hitems : items.list element = .ok as) :
    ∃ vs, Value.draftItems vs = items := by
  fun_induction Items.list element items generalizing as with
  | case1 => exact ⟨[], rfl⟩
  | case2 => cases hitems
  | case3 d rest ih =>
      obtain ⟨a, ha, hrest⟩ := bind_eq_ok.1 hitems
      obtain ⟨as, has, -⟩ := bind_eq_ok.1 hrest
      obtain ⟨v, rfl⟩ := h d a ha
      obtain ⟨vs, rfl⟩ := ih has
      exact ⟨v :: vs, rfl⟩

theorem OnlyValues.list {α : Type} {element : Draft → Except Error α} (h : OnlyValues element) :
    OnlyValues (Draft.list element) := by
  intro d as has
  cases d with
  | array items =>
      obtain ⟨vs, rfl⟩ := h.items has
      exact ⟨.array vs, rfl⟩
  | _ => cases has

namespace Record

variable {α : Type} {r : Record α} (hmembers : ∀ m ∈ r.members, ∀ a, OnlyValues (m.put · a))
include hmembers

theorem exists_members_of_fromMembers (hclosed : r.closed = true) {members : Members}
    {seen : List String} {a b : α} (h : r.fromMembers seen a members = .ok b) :
    ∃ ms, Value.draftMembers ms = members := by
  fun_induction fromMembers r seen a members with
  | case2 => exact ⟨[], rfl⟩
  | case9 _ _ _ _ _ _ hopen => exact absurd hclosed hopen
  | case12 seen a name d rest m hknown _ c hc ih =>
      obtain ⟨v, rfl⟩ := hmembers m (List.mem_of_find?_eq_some hknown) a d c hc
      obtain ⟨ms, rfl⟩ := ih h
      exact ⟨(name, v) :: ms, rfl⟩
  | _ => cases h

theorem exists_items_of_fromItems {items : Items} {count : Nat}
    {ms : List (Member Draft Error α)} (hmem : ∀ m ∈ ms, m ∈ r.members) {a b : α}
    (h : r.fromItems a count ms items = .ok b) : ∃ vs, Value.draftItems vs = items := by
  fun_induction fromItems r a count ms items with
  | case1 => exact ⟨[], rfl⟩
  | case5 => exact ⟨[], rfl⟩
  | case8 a _ m ms d rest c hc ih =>
      rw [List.forall_mem_cons] at hmem
      obtain ⟨v, rfl⟩ := hmembers m hmem.1 a d c hc
      obtain ⟨vs, rfl⟩ := ih hmem.2 h
      exact ⟨v :: vs, rfl⟩
  | _ => cases h

/-- A closed record reads only values where its members do, since it skips nothing. -/
theorem onlyValues_decode (hclosed : r.closed = true) : OnlyValues r.decode := by
  intro d a h
  cases d with
  | object members =>
      obtain ⟨ms, rfl⟩ := exists_members_of_fromMembers hmembers hclosed h
      exact ⟨.object ms, rfl⟩
  | array items =>
      obtain ⟨vs, rfl⟩ := exists_items_of_fromItems hmembers (fun _ hm => hm) h
      exact ⟨.array vs, rfl⟩
  | _ => cases h

end Record

end Json

end Bindery
