import Bindery.FileTree
import Bindery.Proofs.Outcome

/-!
# Walks, directories and files

A walk asks for directories and for nothing else, so it leads to the same place in
every tree that has the directories it goes through. Making the directories of a
written path adds those on the way along it, and writing a file changes what its
place holds. Neither has any other effect.
-/

namespace Bindery.FileTree

variable {t t' : FileTree} {p q place start : Path} {name : String} {names : List String}

/-! ## Directories -/

theorem isDirectory_iff :
    t.isDirectory p = true ↔
      p <+: t.here ∨ (∃ d ∈ t.directories, p <+: d) ∨
        ∃ file ∈ t.files, p <+: file.1 ∧ p ≠ file.1 := by
  simp [isDirectory, or_assoc]

theorem isDirectory_origin (t : FileTree) (path : String) :
    t.isDirectory (t.origin path) = true := by
  rw [isDirectory_iff, origin]
  left
  split
  · exact List.nil_prefix
  · exact List.prefix_rfl

theorem origin_congr (h : t'.here = t.here) (path : String) : t'.origin path = t.origin path := by
  rw [origin, origin, h]

/-- What leads to a directory is a directory. -/
theorem isDirectory_of_initial (h : p <+: q) (hq : t.isDirectory q = true) :
    t.isDirectory p = true := by
  rw [isDirectory_iff] at hq ⊢
  rcases hq with hq | ⟨d, hd, hq⟩ | ⟨file, hfile, hq, hne⟩
  · exact .inl (h.trans hq)
  · exact .inr (.inl ⟨d, hd, h.trans hq⟩)
  · refine .inr (.inr ⟨file, hfile, h.trans hq, ?_⟩)
    rintro rfl
    exact hne (hq.eq_of_length_le h.length_le)

theorem isDirectory_make (h : t.isDirectory place = true) :
    ({ t with directories := (place ++ [name]) :: t.directories } : FileTree).isDirectory q =
        true ↔ t.isDirectory q = true ∨ q = place ++ [name] := by
  have hold : t.isDirectory q = true →
      ({ t with directories := (place ++ [name]) :: t.directories } : FileTree).isDirectory q =
        true := by
    simp only [isDirectory_iff, List.mem_cons, exists_eq_or_imp]
    exact Or.imp_right (Or.imp_left .inr)
  constructor
  · intro hq
    rw [isDirectory_iff] at hq
    simp only [List.mem_cons, exists_eq_or_imp, List.prefix_concat_iff] at hq
    rcases hq with hq | ((rfl | hq) | hq) | hq
    · exact .inl (isDirectory_iff.2 (.inl hq))
    · exact .inr rfl
    · exact .inl (isDirectory_of_initial hq h)
    · exact .inl (isDirectory_iff.2 (.inr (.inl hq)))
    · exact .inl (isDirectory_iff.2 (.inr (.inr hq)))
  · rintro (hq | rfl)
    · exact hold hq
    · exact isDirectory_iff.2 (.inr (.inl ⟨_, List.mem_cons_self, List.prefix_rfl⟩))

/-- A file in a directory is on the way to nothing, whether it was there before or not. -/
theorem isDirectory_setContent (h : t.isDirectory place = true) (c : Content) :
    (t.setContent (place ++ [name]) c).isDirectory q = t.isDirectory q := by
  rw [Bool.eq_iff_iff]
  constructor
  · intro hq
    rw [isDirectory_iff] at hq
    simp only [setContent, List.mem_cons, exists_eq_or_imp, List.mem_filter] at hq
    rcases hq with hq | hq | ⟨hq, hne⟩ | ⟨file, ⟨hfile, -⟩, hq⟩
    · exact isDirectory_iff.2 (.inl hq)
    · exact isDirectory_iff.2 (.inr (.inl hq))
    · exact isDirectory_of_initial ((List.prefix_concat_iff.1 hq).resolve_left hne) h
    · exact isDirectory_iff.2 (.inr (.inr ⟨file, hfile, hq⟩))
  · intro hq
    rw [isDirectory_iff] at hq ⊢
    refine hq.imp_right (Or.imp_right ?_)
    rintro ⟨file, hfile, hq, hne⟩
    -- the entry that is replaced has the place of the new one
    by_cases heq : file.1 = place ++ [name]
    · exact ⟨_, List.mem_cons_self, heq ▸ hq, heq ▸ hne⟩
    · exact ⟨file, List.mem_cons_of_mem _ (List.mem_filter.2 ⟨hfile, by simpa using heq⟩), hq, hne⟩

/-! ## Walks -/

theorem isDirectory_of_step (h : t.step place name = .ok p) : t.isDirectory place = true := by
  unfold step at h
  split at h
  · assumption
  · split at h <;> cases h

/-- A step stays, goes upwards, or goes to its name. -/
theorem step_cases (h : t.step place name = .ok p) : p <+: place ∨ p = place ++ [name] := by
  unfold step at h
  rw [if_pos (isDirectory_of_step h)] at h
  split at h
  · cases h
    exact .inl List.prefix_rfl
  · split at h
    · cases h
      exact .inl (List.dropLast_prefix _)
    · split at h
      · cases h
      · cases h
        exact .inr rfl

theorem step_congr (h : t.isDirectory place = true) (h' : t'.isDirectory place = true) :
    t.step place name = t'.step place name := by
  rw [step, step, if_pos h, if_pos h']

/-- Empty names and the name of the same place lead nowhere else. -/
theorem step_stay (h : t.isDirectory place = true) (hname : name = "" ∨ name = ".") :
    t.step place name = .ok place := by
  rw [step, if_pos h, if_pos hname]

theorem walk_cons (t : FileTree) (start : Path) (name : String) (names : List String) :
    t.walk start (name :: names) = t.step start name >>= fun p => t.walk p names := rfl

theorem walk_singleton (t : FileTree) (start : Path) (name : String) :
    t.walk start [name] = t.step start name := by
  rw [walk_cons]
  cases t.step start name <;> rfl

theorem walk_append (t : FileTree) (start : Path) (names names' : List String) :
    t.walk start (names ++ names') = t.walk start names >>= fun p => t.walk p names' := by
  induction names generalizing start with
  | nil => rfl
  | cons name rest ih =>
      rw [List.cons_append, walk_cons, walk_cons]
      cases t.step start name with
      | error e => rfl
      | ok p => exact ih p

theorem walk_concat (t : FileTree) (start : Path) (names : List String) (name : String) :
    t.walk start (names ++ [name]) = t.walk start names >>= fun p => t.step p name := by
  rw [walk_append]
  cases t.walk start names with
  | error e => rfl
  | ok p => exact walk_singleton t p name

/-- More directories lead no walk elsewhere. -/
theorem walk_mono (h : ∀ q, t.isDirectory q = true → t'.isDirectory q = true)
    (hw : t.walk start names = .ok p) : t'.walk start names = .ok p := by
  induction names generalizing start with
  | nil => exact hw
  | cons name rest ih =>
      rw [walk_cons] at hw ⊢
      obtain ⟨place, hstep, hw⟩ := bind_eq_ok.1 hw
      have hstart := isDirectory_of_step hstep
      rw [step_congr (h start hstart) hstart, hstep]
      exact ih hw

theorem isDirectory_start (hw : t.walk start names = .ok p) (hp : t.isDirectory p = true) :
    t.isDirectory start = true := by
  cases names with
  | nil =>
      cases hw
      exact hp
  | cons name rest =>
      obtain ⟨place, hstep, -⟩ := bind_eq_ok.1 hw
      exact isDirectory_of_step hstep

/-- What a walk ends at, if no directory, lies under its last name in a directory. -/
theorem exists_parent (hw : t.walk start (names ++ [name]) = .ok p)
    (hp : t.isDirectory p = false) :
    ∃ place, t.walk start names = .ok place ∧ t.isDirectory place = true ∧
      p = place ++ [name] := by
  rw [walk_concat] at hw
  obtain ⟨place, hplace, hstep⟩ := bind_eq_ok.1 hw
  have hdir := isDirectory_of_step hstep
  refine ⟨place, hplace, hdir, (step_cases hstep).resolve_left fun hprefix => ?_⟩
  rw [isDirectory_of_initial hprefix hdir] at hp
  cases hp

/-- A walk to a directory can be written with names in between that lead nowhere else. -/
theorem walk_of_filter {keep : String → Bool}
    (hkeep : ∀ name, keep name = false → name = "" ∨ name = ".")
    (hw : t.walk start (names.filter keep) = .ok p) (hp : t.isDirectory p = true) :
    t.walk start names = .ok p := by
  induction names generalizing start with
  | nil => exact hw
  | cons name rest ih =>
      by_cases hname : keep name = true
      · rw [List.filter_cons_of_pos hname, walk_cons] at hw
        obtain ⟨place, hstep, hw⟩ := bind_eq_ok.1 hw
        rw [walk_cons, hstep, ok_bind, ih hw]
      · rw [List.filter_cons_of_neg hname] at hw
        have hstay := step_stay (isDirectory_start hw hp) (hkeep name (by simpa using hname))
        rw [walk_cons, hstay, ok_bind, ih hw]

theorem leadsToDirectory_iff :
    t.leadsToDirectory start names = true ↔
      ∃ p, t.walk start names = .ok p ∧ t.isDirectory p = true := by
  unfold leadsToDirectory
  cases t.walk start names <;> simp

/-! ## Making directories -/

/-- A tree has become another by new directories on the way along names. -/
structure Grown (t t' : FileTree) (start : Path) (names : List String) : Prop where
  files : t'.files = t.files
  here : t'.here = t.here
  kept : ∀ q, t.isDirectory q = true → t'.isDirectory q = true
  made : ∀ q, t'.isDirectory q = true →
    t.isDirectory q = true ∨ ∃ way, way <+: names ∧ t'.walk start way = .ok q

theorem Grown.refl (t : FileTree) (start : Path) (names : List String) :
    Grown t t start names :=
  ⟨rfl, rfl, fun _ h => h, fun _ h => .inl h⟩

theorem Grown.content? (h : Grown t t' start names) (q : Path) : t'.content? q = t.content? q := by
  rw [FileTree.content?, FileTree.content?, h.files]

/-- A longer way includes a shorter one. -/
theorem Grown.trans {t'' : FileTree} {names' : List String} (h : Grown t t' start names)
    (h' : Grown t' t'' start names') (hnames : names <+: names') : Grown t t'' start names' where
  files := h'.files.trans h.files
  here := h'.here.trans h.here
  kept q hq := h'.kept q (h.kept q hq)
  made q hq := by
    rcases h'.made q hq with hq | hway
    · rcases h.made q hq with hq | ⟨way, hprefix, hw⟩
      · exact .inl hq
      · exact .inr ⟨way, hprefix.trans hnames, walk_mono h'.kept hw⟩
    · exact .inr hway

theorem Grown.of_filter {keep : String → Bool}
    (hkeep : ∀ name, keep name = false → name = "" ∨ name = ".")
    (h : Grown t t' start (names.filter keep)) : Grown t t' start names where
  files := h.files
  here := h.here
  kept := h.kept
  made q hq := by
    refine (h.made q hq).imp_right ?_
    rintro ⟨way, hprefix, hw⟩
    obtain ⟨full, hfull, rfl⟩ := List.prefix_filter_iff.1 hprefix
    exact ⟨full, hfull, walk_of_filter hkeep hw hq⟩

theorem makeDirectory_eq_ok :
    t.makeDirectory start names = .ok t' ↔
      ∃ p, t.walk start names = .ok p ∧ t.isDirectory p = false ∧ t.content? p = none ∧
        t' = { t with directories := p :: t.directories } := by
  unfold makeDirectory
  rw [bind_eq_ok]
  refine exists_congr fun p => and_congr_right fun _ => ?_
  cases t.isDirectory p with
  | true => simp [throw, throwThe, MonadExceptOf.throw]
  | false =>
      cases t.content? p with
      | some c => simp [throw, throwThe, MonadExceptOf.throw]
      | none => simp [eq_comm]

theorem grown_makeDirectory (h : t.makeDirectory start (names ++ [name]) = .ok t') :
    Grown t t' start (names ++ [name]) ∧ t'.leadsToDirectory start (names ++ [name]) = true := by
  obtain ⟨p, hw, hp, -, rfl⟩ := makeDirectory_eq_ok.1 h
  obtain ⟨place, -, hplace, rfl⟩ := exists_parent hw hp
  have hkept : ∀ q, t.isDirectory q = true →
      ({ t with directories := (place ++ [name]) :: t.directories } : FileTree).isDirectory q =
        true := fun q hq => (isDirectory_make hplace).2 (.inl hq)
  have hw' := walk_mono hkept hw
  refine ⟨⟨rfl, rfl, hkept, fun q hq => ?_⟩, ?_⟩
  · refine ((isDirectory_make hplace).1 hq).imp_right ?_
    rintro rfl
    exact ⟨_, List.prefix_rfl, hw'⟩
  · exact leadsToDirectory_iff.2 ⟨_, hw', (isDirectory_make hplace).2 (.inr rfl)⟩

/-- The directories that are missing are made from the outermost on: when a name's parents have been
made, the name itself is made or is a directory already. -/
theorem grown_makeDirectoriesTo (hstart : t.isDirectory start = true) {reversed : List String}
    (h : t.makeDirectoriesTo start reversed = .ok t') :
    Grown t t' start reversed.reverse ∧ t'.leadsToDirectory start reversed.reverse = true := by
  induction reversed generalizing t' with
  | nil =>
      cases h
      exact ⟨.refl .., leadsToDirectory_iff.2 ⟨start, rfl, hstart⟩⟩
  | cons name parents ih =>
      have hprefix : parents.reverse <+: (name :: parents).reverse := by
        rw [List.reverse_cons]
        exact List.prefix_append _ _
      rw [makeDirectoriesTo] at h
      split at h
      · rename_i made hmade
        cases h
        rw [List.reverse_cons] at hmade ⊢
        exact grown_makeDirectory hmade
      · split at h
        · cases h
        · rename_i above habove
          have hgrown := (ih habove).1
          split at h
          · rename_i made hmade
            cases h
            rw [List.reverse_cons] at hmade hprefix ⊢
            obtain ⟨hlast, hleads⟩ := grown_makeDirectory hmade
            exact ⟨hgrown.trans hlast hprefix, hleads⟩
          · split at h
            · rename_i hleads
              cases h
              exact ⟨hgrown.trans (.refl ..) hprefix, hleads⟩
            · cases h
      · split at h
        · rename_i hleads
          cases h
          exact ⟨.refl .., hleads⟩
        · cases h

/-- The directory of a written path is there when it has been made, and what is new lies on the way
to it. -/
theorem grown_makeDirectories {path : String} (h : t.makeDirectories path = .ok t') :
    Grown t t' (t.origin path) (segments path) ∧
      t'.leadsToDirectory (t.origin path) (segments path) = true := by
  unfold makeDirectories at h
  split at h
  · cases h
  · split at h
    · rename_i hlast
      obtain ⟨p, hw, rfl⟩ := map_eq_ok.1 h
      -- a walk takes its last step from a directory, and this step stays
      obtain ⟨init, hinit⟩ := List.getLast?_eq_some_iff.1 hlast
      rw [hinit, walk_concat] at hw
      obtain ⟨place, hplace, hstep⟩ := bind_eq_ok.1 hw
      have hdir := isDirectory_of_step hstep
      have hnames : t.walk (t.origin path) (names path) = .ok place := by
        rw [hinit, walk_concat, hplace, ok_bind, step_stay hdir (.inr rfl)]
      exact ⟨.refl .., leadsToDirectory_iff.2
        ⟨place, walk_of_filter (fun name hname => .inl (by simpa using hname)) hnames hdir, hdir⟩⟩
    · obtain ⟨hgrown, hleads⟩ := grown_makeDirectoriesTo (isDirectory_origin t path) h
      rw [List.reverse_reverse, names, List.filter_filter] at hgrown hleads
      have hkeep : ∀ name : String, (name != "." && name != "") = false →
          name = "" ∨ name = "." := by
        intro name hname
        rw [Bool.and_eq_false_iff] at hname
        simpa using hname.symm
      obtain ⟨p, hw, hp⟩ := leadsToDirectory_iff.1 hleads
      exact ⟨hgrown.of_filter hkeep, leadsToDirectory_iff.2 ⟨p, walk_of_filter hkeep hw hp, hp⟩⟩

/-! ## Writing files -/

theorem locate_eq_ok {path : String} :
    t.locate path = .ok p ↔
      refusal? path = none ∧ path ≠ "" ∧ t.walk (t.origin path) (segments path) = .ok p := by
  unfold locate
  cases refusal? path with
  | some e => simp
  | none =>
      by_cases hpath : path = ""
      · simp [hpath]
      · simp [hpath]

/-- Paths lead to the same places as long as no directory is gone. -/
theorem locate_mono {path : String} (hhere : t'.here = t.here)
    (h : ∀ q, t.isDirectory q = true → t'.isDirectory q = true) (hp : t.locate path = .ok p) :
    t'.locate path = .ok p := by
  obtain ⟨hrefusal, hpath, hw⟩ := locate_eq_ok.1 hp
  exact locate_eq_ok.2 ⟨hrefusal, hpath, origin_congr hhere path ▸ walk_mono h hw⟩

theorem writeText_eq_ok {path s : String} :
    t.writeText path s = .ok t' ↔
      ∃ p, t.locate path = .ok p ∧ t.isDirectory p = false ∧ t' = t.setContent p (.text s) := by
  unfold writeText
  rw [bind_eq_ok]
  refine exists_congr fun p => and_congr_right fun _ => ?_
  cases t.isDirectory p with
  | true => simp [throw, throwThe, MonadExceptOf.throw]
  | false => simp [eq_comm]

/-- A name that can be a file's. -/
def IsFileName (name : String) : Prop :=
  '/' ∉ name.toList ∧ name ≠ "" ∧ name ≠ "." ∧ name ≠ ".." ∧ name.utf8ByteSize ≤ longestName

instance (name : String) : Decidable (IsFileName name) :=
  inferInstanceAs (Decidable (_ ∧ _))

theorem IsFileName.step (hname : IsFileName name) (h : t.isDirectory place = true) :
    t.step place name = .ok (place ++ [name]) := by
  obtain ⟨-, hempty, hsame, habove, hlength⟩ := hname
  rw [FileTree.step, if_pos h, if_neg (by simp [hempty, hsame]), if_neg habove,
    if_neg (Nat.not_lt.2 hlength)]

theorem segments_of_not_mem (h : '/' ∉ name.toList) : segments name = [name] := by
  rw [segments, List.splitOn_eq_singleton h]
  simp

theorem segments_append_slash (s : String) (h : '/' ∉ name.toList) :
    segments (s ++ "/" ++ name) = segments s ++ [name] := by
  have hlist : (s ++ "/" ++ name).toList = s.toList ++ '/' :: name.toList := by simp
  rw [segments, hlist, List.splitOn_append_cons_self, List.splitOn_eq_singleton h]
  simp [segments]

theorem origin_append {s : String} (h : s ≠ "") (u : String) :
    t.origin (s ++ u) = t.origin s := by
  have hhead : (s ++ u).toList.head? = s.toList.head? := by
    cases hs : s.toList with
    | nil => exact absurd (String.toList_eq_nil_iff.1 hs) h
    | cons c rest => simp [hs]
  rw [origin, origin, hhead]

theorem IsFileName.origin (hname : IsFileName name) : t.origin name = t.here := by
  rw [FileTree.origin, if_neg]
  intro hhead
  exact hname.1 (List.mem_of_head? hhead)

/-- A name in a directory is one step from where the directory's path leads. -/
theorem walk_join (t : FileTree) (directory : String) (hname : IsFileName name) :
    t.walk (t.origin (join directory name)) (segments (join directory name)) =
      t.walk (t.origin directory) (segments directory) >>= fun p => t.step p name := by
  unfold join
  by_cases hempty : directory = ""
  · subst hempty
    have horigin : t.origin "" = t.here := rfl
    have hhere : t.isDirectory t.here = true := isDirectory_origin t ""
    rw [if_pos (.inl rfl), String.empty_append, hname.origin, segments_of_not_mem hname.1,
      horigin, segments_of_not_mem (by simp), walk_singleton, walk_singleton,
      step_stay hhere (.inl rfl), ok_bind]
  · by_cases hslash : directory.toList.getLast? = some '/'
    · obtain ⟨init, hinit⟩ := List.getLast?_eq_some_iff.1 hslash
      have hdirectory : directory = String.ofList init ++ "/" := by
        rw [← String.toList_inj, hinit]
        simp
      have hsegments : segments directory = segments (String.ofList init) ++ [""] := by
        rw [← segments_append_slash _ (by simp), String.append_empty, hdirectory]
      rw [if_pos (.inr hslash), origin_append hempty, hsegments, walk_concat]
      rw [hdirectory, segments_append_slash _ hname.1, walk_concat]
      cases t.walk _ (segments (String.ofList init)) with
      | error e => rfl
      | ok p =>
          -- the empty name after the last slash asks for a directory, and so does the name
          rw [ok_bind, ok_bind]
          by_cases hp : t.isDirectory p = true
          · rw [step_stay hp (.inl rfl), ok_bind]
          · rw [step, step, if_neg hp, if_neg hp]
            split <;> rfl
    · rw [if_neg (not_or.2 ⟨hempty, hslash⟩), segments_append_slash _ hname.1, walk_concat,
        String.append_assoc, origin_append hempty]

/-- Where the directory of a file is known, so is the place of the file. -/
theorem locate_join {directory : String} (hname : IsFileName name)
    (hw : t.walk (t.origin directory) (segments directory) = .ok place)
    (hplace : t.isDirectory place = true) :
    t.locate (join directory name) = .ok p ↔
      refusal? (join directory name) = none ∧ p = place ++ [name] := by
  have hjoin : join directory name ≠ "" := by
    unfold join
    split <;> simp [hname.2.1]
  rw [locate_eq_ok, walk_join t directory hname, hw, ok_bind, hname.step hplace]
  simp [hjoin, eq_comm]

end Bindery.FileTree
