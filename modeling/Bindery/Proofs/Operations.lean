import Bindery.Proofs.Catalog
import Mathlib.Data.List.TFAE
import Mathlib.Tactic.TFAE

/-!
# Operations on catalogs

A catalog grows by inserts and is replaced by loads, and either may fail. Whatever has
been tried, the index knows exactly the names of the list, so that all ways to look a
name up agree, and the list is the one that the same operations leave where there is no
index at all.
-/

namespace Bindery.Catalog

/-- Something that is tried on a catalog. -/
inductive Operation where
  | insert (d : Descriptor)
  /-- The catalog of a text takes the place of the one that is there. -/
  | load (text : String)

def attempt (c : Catalog) : Operation → Except CatalogError Catalog
  | .insert d => c.insert d
  | .load text => ofJson text

/-- The catalog after an operation. A load makes a catalog of its own, which is taken if there is
one. -/
def perform (c : Catalog) : Operation → Catalog
  | .insert d => (c.put d).1
  | .load text =>
    match ofJson text with
    | .ok next => next
    | .error _ => c

/-- The catalog after some operations on an empty one. -/
def history (ops : List Operation) : Catalog := ops.foldl perform .empty

/-- What an operation does to a plain list of descriptors. -/
def Operation.list (ds : List Descriptor) : Operation → List Descriptor
  | .insert d => if d.name ∈ ds.map (·.name) then ds else ds ++ [d]
  | .load text =>
    match Json.decodeText record.decode text with
    | .ok read => if (read.map (·.name)).Nodup then read else ds
    | .error _ => ds

/-! ## Lookups -/

section Lookups

variable {c : Catalog}

theorem Indexed.contains_iff (h : c.Indexed) {name : String} :
    c.contains name = true ↔ name ∈ c.names := by
  simp only [contains, Option.isSome_iff_exists, h.position, List.mem_iff_getElem?]

theorem Indexed.get?_eq_some (h : c.Indexed) {name : String} {d : Descriptor} :
    c.get? name = some d ↔ d ∈ c.descriptors ∧ d.name = name := by
  have hname : ∀ i : Nat, c.descriptors[i]? = some d → c.names[i]? = some d.name := by
    intro i hi
    rw [names, List.getElem?_map, hi, Option.map_some]
  constructor
  · intro hget
    obtain ⟨i, hi, hd⟩ := Option.bind_eq_some_iff.1 hget
    have hplace := (h.position name i).1 hi
    rw [hname i hd, Option.some.injEq] at hplace
    exact ⟨List.mem_of_getElem? hd, hplace⟩
  · rintro ⟨hd, rfl⟩
    obtain ⟨i, hi⟩ := List.mem_iff_getElem?.1 hd
    exact Option.bind_eq_some_iff.2 ⟨i, (h.position d.name i).2 (hname i hi), hi⟩

theorem Indexed.isSome_get? (h : c.Indexed) {name : String} :
    (c.get? name).isSome = true ↔ name ∈ c.names := by
  simp only [Option.isSome_iff_exists, h.get?_eq_some, names, List.mem_map]

theorem isOk_descriptor (c : Catalog) (name : String) :
    (c.descriptor name).isOk = (c.get? name).isSome := by
  unfold descriptor
  cases c.get? name <;> rfl

/-- The index has the names with their places as its entries. -/
theorem Built.perm_index (h : c.Built) : c.index.Perm c.names.zipIdx := by
  induction h with
  | empty => exact .nil
  | @insert c c' d _ hd ih =>
      obtain ⟨-, rfl⟩ := insert_eq_ok.1 hd
      have hentries : names ⟨c.descriptors ++ [d], (d.name, c.size) :: c.index⟩ =
          c.names ++ [d.name] := by simp [names]
      have hsize : c.names.length = c.size := by simp [names, size]
      rw [hentries, List.zipIdx_append, hsize, Nat.zero_add]
      exact (ih.cons _).trans (List.perm_append_singleton _ _).symm

end Lookups

/-! ## Inserts -/

section Inserts

variable {c c' : Catalog} {d : Descriptor} {e : CatalogError}

theorem names_insert (hi : c.insert d = .ok c') : c'.names = c.names ++ [d.name] := by
  obtain ⟨-, rfl⟩ := insert_eq_ok.1 hi
  simp [names]

theorem Indexed.insert_eq_error (h : c.Indexed) :
    c.insert d = .error e ↔ d.name ∈ c.names ∧ e = .duplicate d.name := by
  simp [← h.contains_iff, insert_eq_error_iff_put, put_eq_error]

/-- A new descriptor stands under its own name, and under no other. -/
theorem Indexed.get?_insert (h : c.Indexed) (hi : c.insert d = .ok c') (name : String) :
    c'.get? name = if name = d.name then some d else c.get? name := by
  have hlist : c'.descriptors = c.descriptors ++ [d] := by
    obtain ⟨-, rfl⟩ := insert_eq_ok.1 hi
    rfl
  have hnew : d.name ∉ c.names := by
    intro hmem
    rw [(h.insert_eq_error (e := .duplicate d.name)).2 ⟨hmem, rfl⟩] at hi
    cases hi
  have hold : ∀ x ∈ c.descriptors, x.name ≠ d.name := by
    intro x hx heq
    exact hnew (heq ▸ List.mem_map_of_mem hx)
  ext x
  rw [(h.insert hi).get?_eq_some, hlist]
  split <;> simp [h.get?_eq_some] <;> grind

theorem Indexed.contains_insert (h : c.Indexed) (hi : c.insert d = .ok c') {name : String}
    (hne : name ≠ d.name) : c'.contains name = c.contains name := by
  rw [Bool.eq_iff_iff, h.contains_iff, (h.insert hi).contains_iff, names_insert hi]
  simp [hne]

end Inserts

/-! ## Loads -/

/-- The name is the first in the list that has occurred before. -/
def IsFirstRepeated (name : String) (names : List String) : Prop :=
  ∃ before after, names = before ++ name :: after ∧ before.Nodup ∧ name ∈ before

theorem Indexed.insertAll_eq_error {c : Catalog} (h : c.Indexed) {ds : List Descriptor}
    {e : CatalogError} :
    c.insertAll ds = .error e ↔
      ∃ name before after, ds.map (·.name) = before ++ name :: after ∧
        (c.names ++ before).Nodup ∧ name ∈ c.names ++ before ∧ e = .duplicate name := by
  induction ds generalizing c with
  | nil => simp [insertAll]
  | cons d ds ih =>
      rw [insertAll, List.map_cons]
      cases hd : c.insert d with
      | error e' =>
          obtain ⟨hmem, rfl⟩ := h.insert_eq_error.1 hd
          constructor
          · intro heq
            cases heq
            exact ⟨d.name, [], ds.map (·.name), rfl, by simpa using h.nodup_names,
              by simpa using hmem, rfl⟩
          · rintro ⟨name, before, after, hsplit, hnodup, -, rfl⟩
            cases before with
            | nil =>
                rw [(List.cons.inj hsplit).1]
            | cons first before =>
                obtain ⟨rfl, -⟩ := List.cons.inj hsplit
                exact absurd rfl ((List.nodup_append.1 hnodup).2.2 _ hmem _ List.mem_cons_self)
      | ok c' =>
          have hnew : d.name ∉ c.names := by
            intro hmem
            rw [(h.insert_eq_error (e := .duplicate d.name)).2 ⟨hmem, rfl⟩] at hd
            cases hd
          dsimp only
          rw [ih (h.insert hd), names_insert hd]
          simp only [List.append_assoc, List.singleton_append]
          constructor
          · rintro ⟨name, before, after, hsplit, hrest⟩
            exact ⟨name, d.name :: before, after, by rw [hsplit, List.cons_append], hrest⟩
          · rintro ⟨name, before, after, hsplit, hnodup, hmem, rfl⟩
            cases before with
            | nil =>
                obtain ⟨rfl, -⟩ := List.cons.inj hsplit
                exact absurd (by simpa using hmem) hnew
            | cons first before =>
                obtain ⟨rfl, hrest⟩ := List.cons.inj hsplit
                exact ⟨name, before, after, hrest, hnodup, hmem, rfl⟩

theorem indexed_empty : Indexed .empty := Built.empty.indexed

theorem ofDescriptors_eq_error {ds : List Descriptor} {e : CatalogError} :
    ofDescriptors ds = .error e ↔
      ∃ name, IsFirstRepeated name (ds.map (·.name)) ∧ e = .duplicate name := by
  have hempty : names .empty = [] := rfl
  rw [ofDescriptors, indexed_empty.insertAll_eq_error, hempty]
  constructor
  · rintro ⟨name, before, after, hsplit, hnodup, hmem, rfl⟩
    exact ⟨name, ⟨before, after, hsplit, hnodup, hmem⟩, rfl⟩
  · rintro ⟨name, ⟨before, after, hsplit, hnodup, hmem⟩, rfl⟩
    exact ⟨name, before, after, hsplit, hnodup, hmem, rfl⟩

theorem IsFirstRepeated.not_nodup {name : String} {names : List String}
    (h : IsFirstRepeated name names) : ¬ names.Nodup := by
  obtain ⟨before, after, rfl, -, hmem⟩ := h
  intro hnodup
  exact (List.nodup_append.1 hnodup).2.2 _ hmem _ List.mem_cons_self rfl

theorem of_ofDescriptors {ds : List Descriptor} {c : Catalog} (h : ofDescriptors ds = .ok c) :
    c.Built ∧ c.descriptors = ds ∧ (ds.map (·.name)).Nodup := by
  obtain ⟨hbuilt, hds⟩ := Built.of_insertAll .empty h
  have hlist : c.descriptors = ds := hds
  refine ⟨hbuilt, hlist, ?_⟩
  rw [← hlist]
  exact hbuilt.indexed.nodup_names

theorem ofJson_eq_duplicate {text name : String} :
    ofJson text = .error (.duplicate name) ↔
      ∃ ds, Json.decodeText record.decode text = .ok ds ∧
        IsFirstRepeated name (ds.map (·.name)) := by
  unfold ofJson
  cases Json.decodeText record.decode text with
  | ok ds => simp [ofDescriptors_eq_error]
  | error e => simp

/-- A text that can be read fails as a catalog exactly when some name repeats. -/
theorem exists_duplicate_iff {text : String} :
    (∃ name, ofJson text = .error (.duplicate name)) ↔
      ∃ ds, Json.decodeText record.decode text = .ok ds ∧ ¬ (ds.map (·.name)).Nodup := by
  simp only [ofJson_eq_duplicate]
  constructor
  · rintro ⟨name, ds, hread, hname⟩
    exact ⟨ds, hread, hname.not_nodup⟩
  · rintro ⟨ds, hread, hrepeats⟩
    cases h : ofDescriptors ds with
    | ok c => exact absurd (of_ofDescriptors h).2.2 hrepeats
    | error e =>
        obtain ⟨name, hname, -⟩ := ofDescriptors_eq_error.1 h
        exact ⟨name, ds, hread, hname⟩

/-! ## Sequences of operations -/

theorem Built.attempt {c c' : Catalog} (h : c.Built) {op : Operation}
    (hop : c.attempt op = .ok c') : c'.Built := by
  cases op with
  | insert d => exact h.insert hop
  | load text => exact .of_ofJson hop

theorem perform_of_ok {c c' : Catalog} {op : Operation} (h : c.attempt op = .ok c') :
    c.perform op = c' := by
  cases op with
  | insert d => rw [perform, insert_eq_ok_iff_put.1 h]
  | load text =>
      have hload : ofJson text = .ok c' := h
      rw [perform, hload]

theorem perform_of_error {c : Catalog} {op : Operation} {e : CatalogError}
    (h : c.attempt op = .error e) : c.perform op = c := by
  cases op with
  | insert d =>
      obtain ⟨c', hput⟩ := insert_eq_error_iff_put.1 h
      obtain ⟨-, -, hkept⟩ := put_eq_error.1 hput
      rw [perform, hput, hkept]
  | load text =>
      have hload : ofJson text = .error e := h
      rw [perform, hload]

theorem Built.perform {c : Catalog} (h : c.Built) (op : Operation) : (c.perform op).Built := by
  cases hop : c.attempt op with
  | ok c' =>
      rw [perform_of_ok hop]
      exact h.attempt hop
  | error e =>
      rw [perform_of_error hop]
      exact h

/-- An operation leaves the descriptors that it leaves in a plain list. -/
theorem Built.descriptors_perform {c : Catalog} (h : c.Built) (op : Operation) :
    (c.perform op).descriptors = op.list c.descriptors := by
  cases op with
  | insert d =>
      rw [Operation.list, ← names]
      cases hd : c.insert d with
      | ok c' =>
          obtain ⟨hnew, rfl⟩ := insert_eq_ok.1 hd
          have hmem : d.name ∉ c.names := by
            rw [← h.indexed.contains_iff, contains, hnew]
            simp
          have hdone : c.attempt (.insert d) = .ok ⟨c.descriptors ++ [d],
              (d.name, c.size) :: c.index⟩ := hd
          rw [perform_of_ok hdone, if_neg hmem]
      | error e =>
          have hfail : c.attempt (.insert d) = .error e := hd
          rw [perform_of_error hfail, if_pos (h.indexed.insert_eq_error.1 hd).1]
  | load text =>
      rw [Operation.list]
      cases hread : Json.decodeText record.decode text with
      | error e =>
          have hfail : c.attempt (.load text) = .error (.json e) := by
            rw [Catalog.attempt, ofJson, hread]
          rw [perform_of_error hfail]
      | ok ds =>
          have hload : c.attempt (.load text) = ofDescriptors ds := by
            rw [Catalog.attempt, ofJson, hread]
          dsimp only
          cases hds : ofDescriptors ds with
          | ok c' =>
              obtain ⟨-, hlist, hnodup⟩ := of_ofDescriptors hds
              rw [perform_of_ok (hload.trans hds), if_pos hnodup, ← hlist]
          | error e =>
              obtain ⟨name, hname, -⟩ := ofDescriptors_eq_error.1 hds
              rw [perform_of_error (hload.trans hds), if_neg hname.not_nodup]

theorem built_history (ops : List Operation) : (history ops).Built := by
  have hrun : ∀ c : Catalog, c.Built → (ops.foldl Catalog.perform c).Built := by
    induction ops with
    | nil => exact fun _ h => h
    | cons op rest ih => exact fun _ h => ih _ (h.perform op)
  exact hrun .empty .empty

/-- The index makes no difference to what is stored. -/
theorem descriptors_history (ops : List Operation) :
    (history ops).descriptors = ops.foldl Operation.list [] := by
  have hrun : ∀ c : Catalog, c.Built →
      (ops.foldl Catalog.perform c).descriptors = ops.foldl Operation.list c.descriptors := by
    induction ops with
    | nil => exact fun _ _ => rfl
    | cons op rest ih =>
        intro c hc
        rw [List.foldl_cons, ih _ (hc.perform op), hc.descriptors_perform, List.foldl_cons]
  exact hrun .empty .empty

/-! ## What a catalog keeps -/

/-- Index and list agree, and so do all ways to look a name up. -/
structure Coherent (c : Catalog) : Prop where
  /-- Nothing but the names is in the index, each of them once and with its place. -/
  entries : c.index.Perm c.names.zipIdx
  places : ∀ name i, c.position? name = some i ↔ c.names[i]? = some name
  distinct : c.names.Nodup
  found : ∀ name d, c.get? name = some d ↔ d ∈ c.descriptors ∧ d.name = name
  lookups : ∀ name, [c.contains name = true, (c.get? name).isSome = true,
    (c.descriptor name).isOk = true, name ∈ c.names].TFAE

/-- What inserts and loads come to. -/
structure Responds (c : Catalog) : Prop where
  refused : ∀ d e, c.insert d = .error e ↔ d.name ∈ c.names ∧ e = .duplicate d.name
  /-- Whatever fails leaves the catalog as it is. -/
  kept : ∀ op e, c.attempt op = .error e → c.perform op = c
  taken : ∀ op c', c.attempt op = .ok c' → c.perform op = c'
  appended : ∀ d c', c.insert d = .ok c' →
    c'.descriptors = c.descriptors ++ [d] ∧ c'.get? d.name = some d ∧
      ∀ name, name ≠ d.name → c'.get? name = c.get? name ∧
        c'.contains name = c.contains name ∧ c'.descriptor name = c.descriptor name
  repeated : ∀ text, (∃ name, c.attempt (.load text) = .error (.duplicate name)) ↔
    ∃ ds, Json.decodeText record.decode text = .ok ds ∧ ¬ (ds.map (·.name)).Nodup
  /-- The name that is reported is the first that has occurred before. -/
  named : ∀ text name, c.attempt (.load text) = .error (.duplicate name) ↔
    ∃ ds, Json.decodeText record.decode text = .ok ds ∧ IsFirstRepeated name (ds.map (·.name))

theorem Built.coherent {c : Catalog} (h : c.Built) : c.Coherent := by
  have hindexed := h.indexed
  constructor
  case entries => exact h.perm_index
  case places => exact hindexed.position
  case distinct => exact hindexed.nodup_names
  case found => exact fun _ _ => hindexed.get?_eq_some
  case lookups =>
    intro name
    tfae_have 1 ↔ 4 := hindexed.contains_iff
    tfae_have 2 ↔ 4 := hindexed.isSome_get?
    tfae_have 3 ↔ 2 := by rw [isOk_descriptor]
    tfae_finish

theorem Built.responds {c : Catalog} (h : c.Built) : c.Responds := by
  have hindexed := h.indexed
  constructor
  case refused => exact fun _ _ => hindexed.insert_eq_error
  case kept => exact fun _ _ => perform_of_error
  case taken => exact fun _ _ => perform_of_ok
  case appended =>
    intro d c' hd
    have hget := hindexed.get?_insert hd
    refine ⟨?_, by rw [hget, if_pos rfl], fun name hne => ?_⟩
    · obtain ⟨-, rfl⟩ := insert_eq_ok.1 hd
      rfl
    · have hsame : c'.get? name = c.get? name := by rw [hget, if_neg hne]
      exact ⟨hsame, hindexed.contains_insert hd hne, by rw [descriptor, descriptor, hsame]⟩
  case repeated => exact fun _ => exists_duplicate_iff
  case named => exact fun _ _ => ofJson_eq_duplicate

/-- Whatever has been tried on a catalog, and however much of it has failed, every descriptor is
found under its own name, the order is that of a list without an index, and what is tried next
succeeds or fails as the names say. -/
theorem operations_coherent (ops : List Operation) :
    (history ops).descriptors = ops.foldl Operation.list [] ∧
      (history ops).Coherent ∧ (history ops).Responds :=
  ⟨descriptors_history ops, (built_history ops).coherent, (built_history ops).responds⟩

/-- A repeated insert, a text that breaks off and a text with a repeated name change nothing. -/
example : (history [
    .insert { name := "Energy" }, .insert { name := "MFCC" }, .insert { name := "Energy" },
    .load "\x7b\"algorithms\": [", .load "\x7b\"algorithms\": [[\"A\"], [\"B\"], [\"A\"]]\x7d"]).names =
      ["Energy", "MFCC"] := by
  decide +kernel

end Bindery.Catalog
