import Bindery.Catalog.Basic
import Bindery.Proofs.Outcome
import Mathlib.Data.List.Nodup

/-!
# The index of a catalog

Inserts keep the index in step with the list of descriptors. Looking a name up
therefore gives the descriptor of that name and of no other.
-/

namespace Bindery.Catalog

/-- Catalogs that inserts lead to. An insert that is refused leaves the catalog as it is. -/
inductive Built : Catalog → Prop
  | empty : Built .empty
  | insert {c c' : Catalog} {d : Descriptor} (built : Built c) (inserted : c.insert d = .ok c') :
      Built c'

/-- The index knows the place of every name in the list, and no other place. -/
structure Indexed (c : Catalog) : Prop where
  position : ∀ name i, c.position? name = some i ↔ c.names[i]? = some name

section Inserts

variable {c c' : Catalog} {d : Descriptor} {e : CatalogError}

theorem put_eq_ok :
    c.put d = (c', .ok ()) ↔
      c.position? d.name = none ∧ c' = ⟨c.descriptors ++ [d], (d.name, c.size) :: c.index⟩ := by
  unfold put contains
  cases c.position? d.name with
  | none => simp [eq_comm]
  | some i => simp

/-- Where a descriptor is refused, its name is in the index, and the catalog is the one that there
was before. -/
theorem put_eq_error :
    c.put d = (c', .error e) ↔
      c.contains d.name = true ∧ e = .duplicate d.name ∧ c' = c := by
  unfold put
  cases c.contains d.name with
  | true => simp [eq_comm, and_comm]
  | false => simp

theorem insert_eq_ok_iff_put : c.insert d = .ok c' ↔ c.put d = (c', .ok ()) := by
  unfold insert
  rcases c.put d with ⟨next, _ | _⟩ <;> simp

theorem insert_eq_error_iff_put :
    c.insert d = .error e ↔ ∃ c', c.put d = (c', .error e) := by
  unfold insert
  rcases c.put d with ⟨next, _ | _⟩ <;> simp

theorem insert_eq_ok :
    c.insert d = .ok c' ↔
      c.position? d.name = none ∧ c' = ⟨c.descriptors ++ [d], (d.name, c.size) :: c.index⟩ := by
  rw [insert_eq_ok_iff_put, put_eq_ok]

end Inserts

theorem Indexed.insert {c c' : Catalog} {d : Descriptor} (h : c.Indexed)
    (hi : c.insert d = .ok c') : c'.Indexed := by
  obtain ⟨hnew, rfl⟩ := insert_eq_ok.1 hi
  constructor
  intro name i
  have hfresh : ∀ j : Nat, c.names[j]? ≠ some d.name := by
    intro j hj
    rw [← h.position, hnew] at hj
    cases hj
  have hlen : c.names.length = c.size := by simp [names, size]
  have hnames : names ⟨c.descriptors ++ [d], (d.name, c.size) :: c.index⟩ =
      c.names ++ [d.name] := by simp [names]
  rw [hnames, List.getElem?_append]
  by_cases hname : name = d.name
  · subst hname
    have hpos : position? ⟨c.descriptors ++ [d], (d.name, c.size) :: c.index⟩ d.name =
        some c.size := by simp [position?]
    rw [hpos, hlen]
    split
    · rename_i hlt
      simp only [hfresh i, iff_false, Option.some.injEq]
      omega
    · rename_i hge
      rw [List.getElem?_singleton, Option.some.injEq]
      split
      · simp only [iff_true]
        omega
      · simp only [reduceCtorEq, iff_false]
        omega
  · have hpos : position? ⟨c.descriptors ++ [d], (d.name, c.size) :: c.index⟩ name =
        c.position? name := by
      have hb : (name == d.name) = false := by simpa using hname
      simp [position?, List.lookup_cons, hb]
    rw [hpos, h.position]
    split
    · exact Iff.rfl
    · rename_i hge
      rw [List.getElem?_eq_none (by omega), List.getElem?_singleton]
      split
      · simpa [eq_comm] using hname
      · simp

theorem Built.indexed {c : Catalog} (h : c.Built) : c.Indexed := by
  induction h with
  | empty =>
      constructor
      intro name i
      simp [Catalog.empty, position?, names]
  | insert _ hi ih => exact ih.insert hi

theorem Indexed.nodup_names {c : Catalog} (h : c.Indexed) : c.names.Nodup := by
  rw [List.nodup_iff_getElem?_ne_getElem?]
  intro i j hij hj heq
  have hname : c.names[j]? = some c.names[j] := List.getElem?_eq_getElem hj
  have hi := (h.position c.names[j] i).2 (heq.trans hname)
  rw [(h.position c.names[j] j).2 hname, Option.some.injEq] at hi
  omega

/-- A descriptor that is found has the name that was asked for. -/
theorem Indexed.name_eq {c : Catalog} (h : c.Indexed) {name : String} {d : Descriptor}
    (hd : c.descriptor name = .ok d) : d.name = name := by
  unfold descriptor at hd
  cases hg : c.get? name with
  | none => simp [hg] at hd
  | some d' =>
      simp only [hg, Except.ok.injEq] at hd
      subst hd
      obtain ⟨i, hi, hget⟩ := Option.bind_eq_some_iff.1 hg
      have hname := (h.position name i).1 hi
      rw [names, List.getElem?_map, hget] at hname
      simpa using hname

/-! ## Many inserts -/

theorem insertAll_append (c : Catalog) (ds es : List Descriptor) :
    c.insertAll (ds ++ es) = c.insertAll ds >>= fun c => c.insertAll es := by
  induction ds generalizing c with
  | nil => rfl
  | cons d ds ih =>
      rw [List.cons_append, insertAll, insertAll]
      cases c.insert d with
      | error e => rfl
      | ok c => exact ih c

theorem Built.of_insertAll {c c' : Catalog} {ds : List Descriptor} (hc : c.Built)
    (h : c.insertAll ds = .ok c') : c'.Built ∧ c'.descriptors = c.descriptors ++ ds := by
  induction ds generalizing c with
  | nil =>
      cases h
      exact ⟨hc, by simp⟩
  | cons d ds ih =>
      rw [insertAll] at h
      cases hd : c.insert d with
      | error e => simp [hd] at h
      | ok b =>
          rw [hd] at h
          obtain ⟨hbuilt, hds⟩ := ih (hc.insert hd) h
          obtain ⟨-, rfl⟩ := insert_eq_ok.1 hd
          exact ⟨hbuilt, by simpa using hds⟩

/-- A catalog is determined by its descriptors, because only inserts make one. -/
theorem Built.ofDescriptors_descriptors {c : Catalog} (h : c.Built) :
    ofDescriptors c.descriptors = .ok c := by
  induction h with
  | empty => rfl
  | @insert c c' d _ hd ih =>
      obtain ⟨-, rfl⟩ := insert_eq_ok.1 hd
      have hlast : c.insertAll [d] = .ok ⟨c.descriptors ++ [d], (d.name, c.size) :: c.index⟩ := by
        rw [insertAll, hd]
        rfl
      rw [ofDescriptors] at ih ⊢
      rw [insertAll_append, ih, ok_bind, hlast]

theorem ofJson_eq_ok {text : String} {c : Catalog} :
    ofJson text = .ok c ↔
      ∃ ds, Json.decodeText record.decode text = .ok ds ∧ ofDescriptors ds = .ok c := by
  unfold ofJson
  cases Json.decodeText record.decode text with
  | ok ds => simp
  | error e => simp

theorem Built.of_ofJson {text : String} {c : Catalog} (h : ofJson text = .ok c) : c.Built := by
  obtain ⟨ds, -, hds⟩ := ofJson_eq_ok.1 h
  exact (of_insertAll .empty hds).1

end Bindery.Catalog
