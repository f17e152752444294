import Bindery.Proofs.Decoding
import Mathlib.Data.List.Nodup
import Mathlib.Data.List.Pairwise

/-!
# What an object is decoded to

An object is decoded to what its known members put into the blank record. Each of them may
stand there once and the required ones have to; the unknown ones put nothing. Where members
write different parts of a record, the order in which they stand does not matter, and an
array is the object with the declared names in their order.
-/

namespace Bindery

open Json (Draft Error Record Value)

/-- The two members may be put into a record in either order. -/
def Member.Commute {α : Type} (m n : Member Draft Error α) : Prop :=
  ∀ v w a b, (m.put v a >>= n.put w) = .ok b ↔ (n.put w a >>= m.put v) = .ok b

instance {α : Type} : Std.Symm (@Member.Commute α) where
  symm _ _ h v w a b := (h w v a b).symm

/-- Members that write apart from each other commute. -/
theorem Member.commute_of {α β γ : Type} {x y : String} {p q : Bool}
    {decode : Draft → Except Error β} {decode' : Draft → Except Error γ} {set : β → α → α}
    {set' : γ → α → α} (h : ∀ b c a, set' c (set b a) = set b (set' c a)) :
    (Member.of x p decode set).Commute (Member.of y q decode' set') := by
  intro v w a b
  simp only [Member.of]
  cases decode v <;> cases decode' w <;> simp [Except.map, h]

/-! ## Values are skipped -/

namespace Json

mutual

theorem skip_draft (v : Value) : v.draft.skip = .ok () := by
  cases v with
  | array items => exact skip_draftItems items
  | object members => exact skip_draftMembers members
  | _ => rfl

theorem skip_draftItems (vs : List Value) : (Value.draftItems vs).skip = .ok () := by
  cases vs with
  | nil => rfl
  | cons v rest => rw [Value.draftItems, Items.skip, skip_draft v, ok_bind, skip_draftItems rest]

theorem skip_draftMembers (ms : List (String × Value)) :
    (Value.draftMembers ms).skip = .ok () := by
  match ms with
  | [] => rfl
  | (name, v) :: rest =>
      rw [Value.draftMembers, Members.skip, skip_draft v, ok_bind, skip_draftMembers rest]

end

namespace Record

variable {α : Type} (r : Record α)

/-! ## Objects -/

def isKnown (name : String) : Bool := (memberNamed? r.members name).isSome

/-- The known ones among the names of an object's members. -/
def knownNames (ms : List (String × Value)) : List String := (ms.map (·.1)).filter r.isKnown

/-- Puts the known members of an object into a record, one after the other. -/
def putKnown : List (String × Value) → α → Except Error α
  | [], a => .ok a
  | (name, v) :: rest, a =>
    match memberNamed? r.members name with
    | none => putKnown rest a
    | some m => m.put v.draft a >>= putKnown rest

variable {r}

theorem firstMissing?_eq_none {seen : List String} :
    firstMissing? r.members seen = none ↔
      ∀ m ∈ r.members, m.required = true → m.name ∈ seen := by
  rw [firstMissing?, List.find?_eq_none]
  refine forall₂_congr fun m _ => ?_
  cases m.required <;> simp

theorem knownNames_cons_none {name : String} {v : Value} {ms : List (String × Value)}
    (h : memberNamed? r.members name = none) : r.knownNames ((name, v) :: ms) = r.knownNames ms := by
  simp [knownNames, isKnown, h]

theorem knownNames_cons_some {name : String} {v : Value} {ms : List (String × Value)}
    {m : Member Draft Error α} (h : memberNamed? r.members name = some m) :
    r.knownNames ((name, v) :: ms) = name :: r.knownNames ms := by
  simp [knownNames, isKnown, h]

theorem fromMembers_eq_ok (hopen : r.closed = false) {ms : List (String × Value)}
    {seen : List String} {a b : α} :
    r.fromMembers seen a (Value.draftMembers ms) = .ok b ↔
      (r.knownNames ms).Nodup ∧ (∀ name ∈ r.knownNames ms, name ∉ seen) ∧
        (∀ m ∈ r.members, m.required = true → m.name ∈ r.knownNames ms ∨ m.name ∈ seen) ∧
        r.putKnown ms a = .ok b := by
  induction ms generalizing seen a with
  | nil =>
      have hmissing : firstMissing? r.members seen = none ↔
          ∀ m ∈ r.members, m.required = true → m.name ∈ seen := firstMissing?_eq_none
      simp only [Value.draftMembers, fromMembers, putKnown, knownNames, List.map_nil,
        List.filter_nil, List.nodup_nil, List.not_mem_nil, false_or, true_and, false_implies,
        implies_true]
      rw [← hmissing]
      cases firstMissing? r.members seen <;> simp
  | cons entry rest ih =>
      obtain ⟨name, v⟩ := entry
      rw [Value.draftMembers, fromMembers, putKnown]
      cases hknown : memberNamed? r.members name with
      | none =>
          simp only [hopen, Bool.false_eq_true, ↓reduceIte, skip_draft, knownNames_cons_none hknown]
          exact ih
      | some m =>
          simp only [knownNames_cons_some hknown, List.nodup_cons, List.forall_mem_cons]
          by_cases hseen : name ∈ seen
          · simp [hseen]
          · have hcontains : seen.contains name = false := by simpa using hseen
            simp only [hcontains, Bool.false_eq_true, ↓reduceIte]
            cases hput : m.put v.draft a with
            | error e => simp
            | ok c =>
                simp only [ih, ok_bind, List.mem_cons, not_or]
                constructor
                · rintro ⟨hnodup, hfresh, hrequired, hrest⟩
                  exact ⟨⟨fun h => (hfresh name h).1 rfl, hnodup⟩,
                    ⟨hseen, fun n hn => (hfresh n hn).2⟩,
                    fun n hn hreq => or_assoc.2 (or_left_comm.1 (hrequired n hn hreq)), hrest⟩
                · rintro ⟨⟨hnew, hnodup⟩, ⟨-, hfresh⟩, hrequired, hrest⟩
                  refine ⟨hnodup, fun n hn => ⟨?_, hfresh n hn⟩,
                    fun n hn hreq => or_left_comm.1 (or_assoc.1 (hrequired n hn hreq)), hrest⟩
                  rintro rfl
                  exact hnew hn

/-- An object is decoded where every known member stands once and every required one stands. -/
theorem decode_object_eq_ok (hopen : r.closed = false) {ms : List (String × Value)} {a : α} :
    r.decode (Value.object ms).draft = .ok a ↔
      (r.knownNames ms).Nodup ∧
        (∀ m ∈ r.members, m.required = true → m.name ∈ r.knownNames ms) ∧
        r.putKnown ms r.blank = .ok a := by
  rw [Value.draft, decode, fromMembers_eq_ok hopen]
  simp

/-! ## The order of members -/

theorem perm_knownNames {ms ms' : List (String × Value)} (h : ms.Perm ms') :
    (r.knownNames ms).Perm (r.knownNames ms') :=
  (h.map _).filter _

theorem bind_congr_ok {ε β γ : Type} {x : Except ε β} {f g : β → Except ε γ} {c : γ}
    (h : ∀ b, f b = .ok c ↔ g b = .ok c) : (x >>= f) = .ok c ↔ (x >>= g) = .ok c := by
  cases x with
  | error e => simp
  | ok b => exact h b

theorem bind_congr_ok_left {ε β γ : Type} {x y : Except ε β} {f : β → Except ε γ} {c : γ}
    (h : ∀ b, x = .ok b ↔ y = .ok b) : (x >>= f) = .ok c ↔ (y >>= f) = .ok c := by
  simp only [bind_eq_ok, h]

theorem putKnown_perm (hcommute : r.members.Pairwise Member.Commute)
    {ms ms' : List (String × Value)} (h : ms.Perm ms') (hnodup : (r.knownNames ms).Nodup)
    {a b : α} : r.putKnown ms a = .ok b ↔ r.putKnown ms' a = .ok b := by
  induction h generalizing a with
  | nil => rfl
  | @cons entry ms ms' _ ih =>
      obtain ⟨name, v⟩ := entry
      rw [putKnown, putKnown]
      cases hknown : memberNamed? r.members name with
      | none =>
          rw [knownNames_cons_none hknown] at hnodup
          exact ih hnodup
      | some m =>
          rw [knownNames_cons_some hknown, List.nodup_cons] at hnodup
          exact bind_congr_ok fun c => ih hnodup.2
  | swap first second rest =>
      obtain ⟨x, v⟩ := first
      obtain ⟨y, w⟩ := second
      simp only [putKnown]
      cases hx : memberNamed? r.members x with
      | none => cases memberNamed? r.members y <;> rfl
      | some m =>
          cases hy : memberNamed? r.members y with
          | none => rfl
          | some n =>
              have hxy : x ≠ y := by
                rw [knownNames_cons_some hy, knownNames_cons_some hx, List.nodup_cons] at hnodup
                rintro rfl
                exact hnodup.1 List.mem_cons_self
              have hmn : m ≠ n := by
                rintro rfl
                exact hxy ((memberNamed?_name hx).symm.trans (memberNamed?_name hy))
              have hswap := hcommute.forall (List.mem_of_find?_eq_some hx)
                (List.mem_of_find?_eq_some hy) hmn v.draft w.draft a
              simp only [← bind_assoc]
              exact (bind_congr_ok_left hswap).symm
  | trans hms _ ih ih' => exact (ih hnodup).trans (ih' ((perm_knownNames hms).nodup_iff.1 hnodup))

/-! ## Success -/

/-- All known members can be put where each of them can, whatever is in the record. -/
theorem isOk_putKnown {P : Member Draft Error α → Value → Prop} {ms : List (String × Value)}
    (h : ∀ entry ∈ ms, ∀ m, memberNamed? r.members entry.1 = some m →
      ∀ a, (m.put entry.2.draft a).isOk = true ↔ P m entry.2) (a : α) :
    (r.putKnown ms a).isOk = true ↔
      ∀ entry ∈ ms, ∀ m, memberNamed? r.members entry.1 = some m → P m entry.2 := by
  induction ms generalizing a with
  | nil => simp [putKnown, isOk_iff]
  | cons entry rest ih =>
      obtain ⟨name, v⟩ := entry
      rw [List.forall_mem_cons] at h
      rw [List.forall_mem_cons, putKnown]
      cases hknown : memberNamed? r.members name with
      | none => simpa using ih h.2 a
      | some m =>
          have hput := h.1 m hknown a
          simp only [Option.some.injEq, forall_eq']
          rw [← hput, isOk_bind]
          constructor
          · rintro ⟨b, hb, hrest⟩
            exact ⟨isOk_iff.2 ⟨b, hb⟩, (ih h.2 b).1 hrest⟩
          · rintro ⟨hok, hrest⟩
            obtain ⟨b, hb⟩ := isOk_iff.1 hok
            exact ⟨b, hb, (ih h.2 b).2 hrest⟩

/-! ## Arrays -/

theorem fromItems_eq_ok {ms : List (Member Draft Error α)} {vs : List Value} {count : Nat}
    {a b : α} :
    r.fromItems a count ms (Value.draftItems vs) = .ok b ↔
      vs.length ≤ ms.length ∧ (∀ m ∈ ms.drop vs.length, m.required = false) ∧
        putAll ms vs a = .ok b := by
  induction vs generalizing ms count a with
  | nil =>
      cases ms with
      | nil => simp [Value.draftItems, fromItems, putAll]
      | cons m ms =>
          have hrequired : (m :: ms).findIdx? (·.required) = none ↔
              ∀ n ∈ m :: ms, n.required = false := List.findIdx?_eq_none_iff
          rw [Value.draftItems, fromItems, List.length_nil, List.drop_zero, ← hrequired, putAll]
          · cases (m :: ms).findIdx? (·.required) <;> simp
          all_goals simp
  | cons v vs ih =>
      cases ms with
      | nil => simp [Value.draftItems, fromItems]
      | cons m ms =>
          rw [Value.draftItems, fromItems, putAll, List.length_cons, List.length_cons,
            List.drop_succ_cons, Nat.add_le_add_iff_right]
          cases m.put v.draft a with
          | error e => simp
          | ok c => exact ih

theorem putAll_eq_putKnown (hnodup : (r.members.map (·.name)).Nodup)
    {ms : List (Member Draft Error α)} (hmem : ∀ m ∈ ms, m ∈ r.members) (vs : List Value) (a : α) :
    putAll ms vs a = r.putKnown ((ms.map (·.name)).zip vs) a := by
  induction ms generalizing vs a with
  | nil => simp [putAll, putKnown]
  | cons m ms ih =>
      cases vs with
      | nil => simp [putAll, putKnown]
      | cons v vs =>
          rw [List.forall_mem_cons] at hmem
          rw [List.map_cons, List.zip_cons_cons, putAll, putKnown,
            memberNamed?_eq_some hnodup hmem.1]
          exact congrArg (m.put v.draft a >>= ·) (funext fun b => ih hmem.2 vs b)

theorem decode_array_eq_ok (hnodup : (r.members.map (·.name)).Nodup) {vs : List Value} {a : α} :
    r.decode (Value.array vs).draft = .ok a ↔
      vs.length ≤ r.members.length ∧ (∀ m ∈ r.members.drop vs.length, m.required = false) ∧
        r.putKnown ((r.members.map (·.name)).zip vs) r.blank = .ok a := by
  rw [Value.draft, decode, fromItems_eq_ok, putAll_eq_putKnown hnodup fun _ hm => hm]

theorem isKnown_of_mem (hnodup : (r.members.map (·.name)).Nodup) {name : String}
    (h : name ∈ r.members.map (·.name)) : r.isKnown name = true := by
  obtain ⟨m, hm, rfl⟩ := List.mem_map.1 h
  rw [isKnown, memberNamed?_eq_some hnodup hm, Option.isSome_some]

theorem knownNames_zip (hnodup : (r.members.map (·.name)).Nodup) {vs : List Value}
    (hlen : vs.length ≤ r.members.length) :
    r.knownNames ((r.members.map (·.name)).zip vs) = (r.members.map (·.name)).take vs.length := by
  have hfirst : ∀ names : List String, vs.length ≤ names.length →
      (names.zip vs).map (·.1) = names.take vs.length := by
    intro names h
    have hmin : min names.length vs.length = vs.length := by omega
    rw [List.zip_eq_zip_take_min, hmin, List.take_length]
    exact List.map_fst_zip (by simp [h])
  rw [knownNames, hfirst _ (by simpa using hlen), List.filter_eq_self]
  intro name hname
  exact isKnown_of_mem hnodup (List.mem_of_mem_take hname)

/-- An array that is not too long is the object with the declared names in their order. -/
theorem decode_array_iff_object (hopen : r.closed = false)
    (hnodup : (r.members.map (·.name)).Nodup) {vs : List Value}
    (hlen : vs.length ≤ r.members.length) {a : α} :
    r.decode (Value.array vs).draft = .ok a ↔
      r.decode (Value.object ((r.members.map (·.name)).zip vs)).draft = .ok a := by
  rw [decode_array_eq_ok hnodup, decode_object_eq_ok hopen, knownNames_zip hnodup hlen]
  have hdistinct : ((r.members.map (·.name)).take vs.length).Nodup :=
    hnodup.sublist (List.take_sublist _ _)
  have hrequired : (∀ m ∈ r.members.drop vs.length, m.required = false) ↔
      ∀ m ∈ r.members, m.required = true →
        m.name ∈ (r.members.map (·.name)).take vs.length := by
    constructor
    · intro h m hm hreq
      rw [← List.take_append_drop vs.length r.members, List.mem_append] at hm
      rcases hm with hm | hm
      · rw [← List.map_take]
        exact List.mem_map_of_mem hm
      · rw [h m hm] at hreq
        cases hreq
    · intro h m hm
      refine Bool.eq_false_iff.2 fun hreq => ?_
      have hafter : m.name ∈ (r.members.map (·.name)).drop vs.length := by
        rw [← List.map_drop]
        exact List.mem_map_of_mem hm
      exact List.disjoint_take_drop hnodup (Nat.le_refl _)
        (h m (List.mem_of_mem_drop hm) hreq) hafter
  simp only [hlen, hdistinct, hrequired, true_and]

end Record

end Json

end Bindery
