import Bindery.Json.Record
import Bindery.Proofs.Outcome
import Bindery.Proofs.Written

/-!
# Decoding records

An object that gives a record every member, in the order of declaration, is decoded
member by member. Conversely, what the blank record has and every member keeps is true
of all records that are decoded, whatever they were written as.
-/

namespace Bindery

open Json (Draft Error Record Value)

/-! ## Records -/

theorem memberNamed?_eq_some {δ ε α : Type} {members : List (Member δ ε α)}
    (hnodup : (members.map (·.name)).Nodup) {m : Member δ ε α} (hm : m ∈ members) :
    memberNamed? members m.name = some m := by
  induction members with
  | nil => cases hm
  | cons n rest ih =>
      rw [List.map_cons, List.nodup_cons] at hnodup
      rw [memberNamed?, List.find?_cons]
      rcases List.mem_cons.1 hm with rfl | hm
      · simp
      · have hne : (n.name == m.name) = false := by
          rw [beq_eq_false_iff_ne]
          intro heq
          exact hnodup.1 (heq ▸ List.mem_map_of_mem hm)
        rw [hne]
        exact ih hnodup.2 hm

namespace Json.Record

variable {α : Type} (r : Record α)

/-- Members take their values one after the other. -/
def putAll : List (Member Draft Error α) → List Value → α → Except Error α
  | m :: ms, v :: vs, a => m.put v.draft a >>= putAll ms vs
  | _, _, a => .ok a

/-- The object that gives every member of the record a value, in the order of declaration. -/
def written (vs : List Value) : Value := .object ((r.members.map (·.name)).zip vs)

theorem fromMembers_written (hnodup : (r.members.map (·.name)).Nodup)
    {ms : List (Member Draft Error α)} {vs : List Value} {seen : List String} (a : α)
    (hlen : vs.length = ms.length)
    (hsplit : r.members.map (·.name) = seen.reverse ++ ms.map (·.name))
    (hmem : ∀ m ∈ ms, m ∈ r.members) :
    r.fromMembers seen a (Value.draftMembers ((ms.map (·.name)).zip vs)) = putAll ms vs a := by
  induction ms generalizing vs seen a with
  | nil =>
      have hmissing : firstMissing? r.members seen = none := by
        rw [firstMissing?, List.find?_eq_none]
        intro m hm
        have hname : m.name ∈ r.members.map (·.name) := List.mem_map_of_mem hm
        simp_all
      simp [Value.draftMembers, fromMembers, putAll, hmissing]
  | cons m ms ih =>
      cases vs with
      | nil => simp at hlen
      | cons v vs =>
          have hfresh : seen.contains m.name = false := by
            rw [hsplit, List.map_cons, List.nodup_append] at hnodup
            rw [List.contains_eq_mem, decide_eq_false_iff_not]
            intro hseen
            exact hnodup.2.2 _ (List.mem_reverse.2 hseen) _ List.mem_cons_self rfl
          have hfound := memberNamed?_eq_some hnodup (hmem m List.mem_cons_self)
          rw [List.map_cons, List.zip_cons_cons, Value.draftMembers, fromMembers, hfound, putAll]
          simp only [hfresh, Bool.false_eq_true, ↓reduceIte]
          cases m.put v.draft a with
          | error e => rfl
          | ok b =>
              refine ih b (by simpa using hlen) ?_ fun n hn => hmem n (List.mem_cons_of_mem _ hn)
              simp [hsplit]

/-- An object with every member is decoded member by member. -/
theorem decode_written (hnodup : (r.members.map (·.name)).Nodup) (vs : List Value)
    (hlen : vs.length = r.members.length) :
    r.decode (r.written vs).draft = putAll r.members vs r.blank :=
  r.fromMembers_written hnodup r.blank hlen rfl fun _ hm => hm

end Json.Record

/-- Whatever the member reads, it takes no record out of `P`. -/
def Member.Keeps {δ ε α : Type} (P : α → Prop) (m : Member δ ε α) : Prop :=
  ∀ v a b, P a → m.put v a = .ok b → P b

theorem Member.keeps_of {δ ε α β : Type} {P : α → Prop} {name : String} {required : Bool}
    {decode : δ → Except ε β} {set : β → α → α}
    (h : ∀ v x a, decode v = .ok x → P a → P (set x a)) :
    (Member.of name required decode set).Keeps P := by
  intro v a b ha hb
  obtain ⟨x, hx, rfl⟩ := map_eq_ok.1 hb
  exact h v x a hx ha

namespace Json.Record

variable {α : Type} {r : Record α} {P : α → Prop}

theorem fromMembers_induction (hkeeps : ∀ m ∈ r.members, m.Keeps P) {ms : Json.Members}
    {seen : List String} {a b : α} (ha : P a) (h : r.fromMembers seen a ms = .ok b) : P b := by
  fun_induction fromMembers r seen a ms with
  | case2 =>
      cases h
      exact ha
  | case9 _ _ _ _ _ _ _ _ ih => exact ih ha h
  | case12 _ _ _ v _ m hfound _ b hb ih =>
      exact ih (hkeeps m (List.mem_of_find?_eq_some hfound) v _ b ha hb) h
  | _ => cases h

theorem fromItems_induction (hkeeps : ∀ m ∈ r.members, m.Keeps P) {items : Json.Items}
    {count : Nat} {ms : List (Member Draft Error α)} (hmem : ∀ m ∈ ms, m ∈ r.members) {a b : α}
    (ha : P a) (h : r.fromItems a count ms items = .ok b) : P b := by
  fun_induction fromItems r a count ms items with
  | case1 =>
      cases h
      exact ha
  | case5 =>
      cases h
      exact ha
  | case8 a _ m ms v _ b hb ih =>
      exact ih (fun n hn => hmem n (List.mem_cons_of_mem _ hn))
        (hkeeps m (hmem m List.mem_cons_self) v a b ha hb) h
  | _ => cases h

/-- What the blank record has and every member keeps, every decoded record has. -/
theorem decode_induction (hblank : P r.blank) (hkeeps : ∀ m ∈ r.members, m.Keeps P) {d : Draft}
    {a : α} (h : r.decode d = .ok a) : P a := by
  cases d with
  | object ms => exact fromMembers_induction hkeeps hblank h
  | array items => exact fromItems_induction hkeeps (fun _ hm => hm) hblank h
  | _ => cases h

end Json.Record

/-! ## Lists -/

theorem Json.Items.list_written {α : Type} {element : Draft → Except Error α} {json : α → Value}
    {as : List α} (h : ∀ a ∈ as, element (json a).draft = .ok a) :
    (Value.draftItems (as.map json)).list element = .ok as := by
  induction as with
  | nil => rfl
  | cons a as ih =>
      rw [List.forall_mem_cons] at h
      rw [List.map_cons, Value.draftItems, Json.Items.list, h.1, ok_bind, ih h.2]
      rfl

theorem Json.Draft.list_written {α : Type} {element : Draft → Except Error α} {json : α → Value}
    {as : List α} (h : ∀ a ∈ as, element (json a).draft = .ok a) :
    (Value.array (as.map json)).draft.list element = .ok as :=
  Json.Items.list_written h

theorem Json.Items.forall_mem_list {α : Type} {element : Draft → Except Error α} {P : α → Prop}
    (hP : ∀ d a, element d = .ok a → P a) {items : Json.Items} {as : List α}
    (h : items.list element = .ok as) : ∀ a ∈ as, P a := by
  fun_induction Json.Items.list element items generalizing as with
  | case1 =>
      cases h
      simp
  | case2 => cases h
  | case3 v rest ih =>
      obtain ⟨a, ha, h⟩ := bind_eq_ok.1 h
      obtain ⟨as, has, h⟩ := bind_eq_ok.1 h
      cases h
      exact List.forall_mem_cons.2 ⟨hP v a ha, ih has⟩

theorem Json.Draft.forall_mem_list {α : Type} {element : Draft → Except Error α} {P : α → Prop}
    (hP : ∀ d a, element d = .ok a → P a) {d : Draft} {as : List α}
    (h : d.list element = .ok as) : ∀ a ∈ as, P a := by
  cases d with
  | array items => exact Json.Items.forall_mem_list hP h
  | _ => cases h

/-! ## Whole texts -/

theorem Json.decodeText_eq_ok {α : Type} {decode : Draft → Except Error α} {s : String} {a : α} :
    decodeText decode s = .ok a ↔
      decode (Document.ofText s).root = .ok a ∧ (Document.ofText s).trailing = false := by
  cases hroot : decode (Document.ofText s).root with
  | error e => simp [decodeText, hroot]
  | ok b => cases htrailing : (Document.ofText s).trailing <;> simp [decodeText, hroot, htrailing]

theorem Json.decodeText_pretty {α : Type} (decode : Draft → Except Error α) {v : Value}
    (hv : v.IsNumberless) : decodeText decode v.pretty = decode v.draft := by
  rw [decodeText, ofText_pretty hv]
  cases decode v.draft <;> rfl

theorem Json.Value.areNumberless_map {α : Type} {json : α → Value}
    (h : ∀ a, (json a).IsNumberless) (as : List α) : AreNumberless (as.map json) := by
  induction as with
  | nil => simp [AreNumberless]
  | cons a as ih => exact ⟨h a, ih⟩

end Bindery
