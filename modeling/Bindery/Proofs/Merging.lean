import Bindery.Proofs.ClassReading
import Mathlib.Data.List.Nodup

/-!
# What wrapper classes hand on

The values that a wrapper class holds and hands to the backend: what the caller gives,
as a vector where one is asked for, and the declared defaults for the rest. They are
followed through the merge, through a method that hands them on, and through a whole
session of an instance; the callers' objects stay as they are.
-/

namespace Bindery.Script

variable {V : Type} {rt : Runtime V} {call : String → Nat → Store V → Option (Store V)}
  {s t : Store V} {o : Object V}

/-! ## The merge -/

/-- The object with every property of these keys converted that counts as true. -/
def convertedAll (rt : Runtime V) (keys : List String) (o : Object V) : Object V := fun key =>
  if key ∈ keys then
    (o key).map fun x => if rt.isTrue x then rt.function "arrayToVector" x else x
  else o key

theorem convertedAll_nil : convertedAll rt [] o = o := by
  funext key
  simp [convertedAll]

theorem converted_convertedAll {done : List String} {key : String} (hkey : key ∉ done) :
    (convertedAll rt done o).converted rt "arrayToVector" key =
      convertedAll rt (done ++ [key]) o := by
  have hold : convertedAll rt done o key = o key := if_neg hkey
  funext k
  unfold Object.converted
  rw [hold]
  by_cases hk : k = key
  · subst hk
    cases ho : o k with
    | none => simp [convertedAll, ho]
    | some x => by_cases hx : rt.isTrue x = true <;> simp [convertedAll, hkey, ho, hx]
  · cases ho : o key with
    | none => simp [convertedAll, hk]
    | some x => by_cases hx : rt.isTrue x = true <;> simp [convertedAll, hx, hk, Function.update]

theorem run_cons {st : Statement} {body : List Statement} :
    s.run rt call (st :: body) = (s.step rt call st).bind (·.run rt call body) := by
  simp [Store.run, List.foldlM_cons]

theorem run_append {before after : List Statement} :
    s.run rt call (before ++ after) = (s.run rt call before).bind (·.run rt call after) := by
  simp [Store.run, List.foldlM_append]

variable {prior : List (Object V)} {keys done rest : List String}

theorem run_convert (hkeys : (done ++ rest).Nodup)
    (hname : s.names "supplied" = some prior.length)
    (hobjects : s.objects = prior ++ [convertedAll rt done o]) :
    s.run rt call (rest.map (.convert "supplied" · "arrayToVector")) =
      some { s with objects := prior ++ [convertedAll rt (done ++ rest) o] } := by
  -- keys move from `rest` to `done`, so that each is still as the object had it when its turn comes
  induction rest generalizing done s with
  | nil =>
      rw [List.append_nil, ← hobjects]
      rfl
  | cons key rest ih =>
      have hkey : key ∉ done := by
        intro hmem
        exact (List.nodup_append.1 hkeys).2.2 _ hmem _ List.mem_cons_self rfl
      have hstep : s.step rt call (.convert "supplied" key "arrayToVector") =
          some { s with objects := prior ++ [convertedAll rt (done ++ [key]) o] } := by
        simp [Store.step, hname, hobjects, converted_convertedAll hkey]
      have hrest : Store.run rt call
          { s with objects := prior ++ [convertedAll rt (done ++ [key]) o] }
          (rest.map (.convert "supplied" · "arrayToVector")) = _ :=
        ih (by rwa [← List.append_cons]) hname rfl
      rw [List.map_cons, run_cons, hstep, Option.bind_some, hrest, ← List.append_cons]

variable {D P : Object V} {name : String}

theorem run_supplied (hkeys : keys.Nodup) (hP : s.object? (.name "params") = some P) :
    s.run rt call (.copy "supplied" (.name "params") ::
      keys.map (.convert "supplied" · "arrayToVector")) = some {
      s with
      objects := s.objects ++ [convertedAll rt keys P]
      names := Function.update s.names "supplied" (some s.objects.length) } := by
  let copied : Store V := {
    s with
    objects := s.objects ++ [P]
    names := Function.update s.names "supplied" (some s.objects.length) }
  have hcopy : s.step rt call (.copy "supplied" (.name "params")) = some copied := by
    simp [Store.step, hP, copied]
  have hkeys : ([] ++ keys).Nodup := hkeys
  have hobjects : copied.objects = s.objects ++ [convertedAll rt [] P] := by
    rw [convertedAll_nil]
  rw [run_cons, hcopy, Option.bind_some, run_convert hkeys (by simp [copied]) hobjects]
  rfl

theorem Object.empty_spread : Object.empty.spread o = o := by
  funext key
  simp [Object.spread, Object.empty]

theorem object?_of_prefix (hobjects : s.objects <+: t.objects)
    (hfield : t.fields name = s.fields name) (h : s.object? (.field name) = some D) :
    t.object? (.field name) = some D := by
  obtain ⟨b, hb, hD⟩ := Option.bind_eq_some_iff.1 h
  have hb : s.fields name = some b := hb
  obtain ⟨added, hadded⟩ := hobjects
  have hlt := (List.getElem?_eq_some_iff.1 hD).1
  simp only [Store.object?, Store.address?, hfield, hb, Option.bind_some]
  rw [← hadded, List.getElem?_append_left hlt, hD]

theorem run_spread (hD : s.object? (.field "defaultParams") = some D)
    (hP : s.object? (.name name) = some P) :
    s.run rt call [.spread "params" [.field "defaultParams", .name name]] = some {
      s with
      objects := s.objects ++ [D.spread P]
      fields := Function.update s.fields "params" (some s.objects.length) } := by
  simp [Store.run, Store.step, hD, hP, Object.empty_spread]

/-- The defaults, and what the caller gives over them. -/
def merged (rt : Runtime V) (keys : List String) (D P : Object V) : Object V :=
  D.spread (convertedAll rt keys P)

/-- What a merge over the defaults leaves behind. -/
structure IsMerged (rt : Runtime V) (keys : List String) (D P : Object V) (s t : Store V) :
    Prop where
  objects : s.objects <+: t.objects
  defaults : t.fields "defaultParams" = s.fields "defaultParams"
  calls : t.calls = s.calls
  params : t.object? (.field "params") = some (merged rt keys D P)

variable {given : List (Object V)} {i : Nat}

/-- The merge goes the same way whether or not there is anything to convert. -/
theorem run_update (hkeys : keys.Nodup) (hi : s.objects[i]? = some P)
    (hD : s.object? (.field "defaultParams") = some D) :
    ∃ t, (⟨"params", mergeBody keys⟩ : Method).run rt call i s = some t ∧
      IsMerged rt keys D P s t := by
  let entered : Store V :=
    { s with names := Function.update (fun _ => none) "params" (some i) }
  have hP : entered.object? (.name "params") = some P := by
    simp [entered, Store.object?, Store.address?, hi]
  have hdefaults : entered.object? (.field "defaultParams") = some D := hD
  unfold Method.run mergeBody
  -- with nothing to convert the caller's object is spread as it is, and no copy is made
  by_cases hempty : keys = []
  · subst hempty
    rw [List.isEmpty_nil, if_pos rfl, run_spread hdefaults hP]
    refine ⟨_, rfl, List.prefix_append .., by simp [entered], rfl, ?_⟩
    simp [Store.object?, Store.address?, merged, convertedAll_nil, entered]
  · let converted : Store V := {
      entered with
      objects := s.objects ++ [convertedAll rt keys P]
      names := Function.update entered.names "supplied" (some s.objects.length) }
    have hsupplied : converted.object? (.name "supplied") = some (convertedAll rt keys P) := by
      simp [converted, Store.object?, Store.address?]
    have hdefaults : converted.object? (.field "defaultParams") = some D :=
      object?_of_prefix (List.prefix_append ..) rfl hD
    have hrun : entered.run rt call (.copy "supplied" (.name "params") ::
        keys.map (.convert "supplied" · "arrayToVector")) = some converted :=
      run_supplied hkeys hP
    rw [if_neg (by simpa using hempty), run_append, hrun, Option.bind_some,
      run_spread hdefaults hsupplied]
    refine ⟨_, rfl, ?_, ?_, rfl, ?_⟩
    · simp [converted]
    · simp [converted, entered]
    · simp [Store.object?, Store.address?, merged, converted]

/-! ## Handing on -/

/-- An instance between its methods: the callers' objects are as they were given, and the
defaults are in their field. -/
structure Ready (given : List (Object V)) (D : Object V) (s : Store V) : Prop where
  given : given <+: s.objects
  defaults : s.object? (.field "defaultParams") = some D

theorem Ready.update {P : Object V} (hs : Ready given D s) (ht : IsMerged rt keys D P s t) :
    Ready given D t where
  given := hs.given.trans ht.objects
  defaults := object?_of_prefix ht.objects ht.defaults hs.defaults

structure Holds (given : List (Object V)) (D held : Object V) (calls : List (Call V))
    (s : Store V) : Prop where
  ready : Ready given D s
  calls : s.calls = calls
  params : s.object? (.field "params") = some held

variable {callee : String} {names : List String} {st : Statement}

theorem arguments?_parameterProperties (h : s.object? (.field "params") = some o) :
    s.arguments? (parameterProperties names) = some (names.map o) := by
  rw [Store.arguments?, parameterProperties, List.mapM_map]
  refine mapM_some fun key _ => ?_
  simp [h]

theorem run_handing (hkeys : keys.Nodup) (hs : Ready given D s) (hi : given[i]? = some P)
    (hcall : ∀ i s, call "updateParams" i s =
      (⟨"params", mergeBody keys⟩ : Method).run rt (fun _ _ _ => none) i s)
    (hst : ∀ s, Store.step rt call s st = (s.arguments? (parameterProperties names)).map fun xs =>
      { s with calls := s.calls ++ [⟨callee, xs⟩] }) :
    ∃ t, (⟨"params", [.call "updateParams" "params", st]⟩ : Method).run rt call i s = some t ∧
      Holds given D (merged rt keys D P) (s.calls ++ [⟨callee, names.map (merged rt keys D P)⟩])
        t := by
  let entered : Store V :=
    { s with names := Function.update (fun _ => none) "params" (some i) }
  have hentered : Ready given D entered := ⟨hs.given, hs.defaults⟩
  have hP : entered.objects[i]? = some P := by
    obtain ⟨others, hothers⟩ := hentered.given
    rw [← hothers, List.getElem?_append_left (List.getElem?_eq_some_iff.1 hi).1, hi]
  -- the update has names of its own: only its objects and fields come back
  have hmerge : ∃ u, call "updateParams" i entered = some u ∧ IsMerged rt keys D P entered u := by
    rw [hcall]
    exact run_update hkeys hP hentered.defaults
  obtain ⟨u, hcalled, hu⟩ := hmerge
  have hupdate : entered.step rt call (.call "updateParams" "params") = some u := by
    rw [← hcalled]
    simp [Store.step, entered]
  have hhand := hst u
  rw [arguments?_parameterProperties hu.params, Option.map_some] at hhand
  have hrun : (⟨"params", [.call "updateParams" "params", st]⟩ : Method).run rt call i s = some {
      u with
      names := s.names
      calls := u.calls ++ [⟨callee, names.map (merged rt keys D P)⟩] } := by
    rw [Method.run, run_cons, hupdate, Option.bind_some, run_cons, hhand]
    rfl
  have hready := hentered.update hu
  refine ⟨_, hrun, ⟨hready.given, hready.defaults⟩, ?_, hu.params⟩
  simp [hu.calls, entered]

/-! ## Sessions -/

variable {a : Algorithm}

def defaultsOf (rt : Runtime V) (a : Algorithm) : Object V :=
  .ofLiteral rt (a.parameters.map fun p => (p.name, defaultValue p))

/-- The parameters that an instance holds after it was given an object. -/
def heldAfter (rt : Runtime V) (a : Algorithm) (P : Object V) : Object V :=
  merged rt (Wrapper.coercedNames a) (defaultsOf rt a) P

def handing (rt : Runtime V) (a : Algorithm) (callee : String) (P : Object V) : Call V :=
  ⟨callee, (a.parameters.map (·.name)).map (heldAfter rt a P)⟩

theorem run_creation (settings : Settings) (hkeys : (Wrapper.coercedNames a).Nodup)
    (hs : Ready given (defaultsOf rt a) s) (hi : given[i]? = some P) :
    ∃ t, (classOf a settings).creation.run rt ((classOf a settings).call rt) i s = some t ∧
      Holds given (defaultsOf rt a) (heldAfter rt a P)
        (s.calls ++ [handing rt a ("new " ++ settings.backend ++ "." ++ a.name) P]) t :=
  run_handing hkeys hs hi (fun _ _ => rfl) (fun _ => rfl)

theorem run_configuration (settings : Settings) (hkeys : (Wrapper.coercedNames a).Nodup)
    (hs : Ready given (defaultsOf rt a) s) (hi : given[i]? = some P) :
    ∃ t, (classOf a settings).configuration.run rt ((classOf a settings).call rt) i s = some t ∧
      Holds given (defaultsOf rt a) (heldAfter rt a P)
        (s.calls ++ [handing rt a "algoInstance.configure" P]) t :=
  run_handing hkeys hs hi (fun _ _ => rfl) (fun _ => rfl)

theorem create_classOf (settings : Settings) (hkeys : (Wrapper.coercedNames a).Nodup)
    (hi : given[i]? = some P) :
    ∃ t, (classOf a settings).create rt given i = some t ∧
      Holds given (defaultsOf rt a) (heldAfter rt a P)
        [handing rt a ("new " ++ settings.backend ++ "." ++ a.name) P] t := by
  let fresh : Store V := {
    objects := given ++ [defaultsOf rt a]
    names := fun _ => none
    fields := Function.update (fun _ => none) "defaultParams" (some given.length) }
  have hdefaults : fresh.object? (.field "defaultParams") = some (defaultsOf rt a) := by
    simp [fresh, Store.object?, Store.address?]
  let begun : Store V := {
    fresh with
    objects := fresh.objects ++ [defaultsOf rt a]
    fields := Function.update fresh.fields "params" (some fresh.objects.length) }
  have hbegin : fresh.step rt (fun _ _ _ => none) (classOf a settings).initial = some begun := by
    simp [classOf, Store.step, hdefaults, Object.empty_spread, begun]
  have hbegun : Ready given (defaultsOf rt a) begun :=
    ⟨by simp [begun, fresh],
      object?_of_prefix (List.prefix_append ..) (by simp [begun]) hdefaults⟩
  obtain ⟨t, hrun, ht⟩ := run_creation settings hkeys hbegun hi
  refine ⟨t, ?_, ht⟩
  change (fresh.step rt _ (classOf a settings).initial).bind _ = some t
  rw [hbegin, Option.bind_some, hrun]

theorem configureAll_classOf (settings : Settings) (hkeys : (Wrapper.coercedNames a).Nodup)
    {last : Fin given.length} {calls : List (Call V)} (rest : List (Fin given.length))
    (hs : Holds given (defaultsOf rt a) (heldAfter rt a (given.get last)) calls s) :
    ∃ t, (classOf a settings).configureAll rt s rest = some t ∧
      Holds given (defaultsOf rt a) (heldAfter rt a (given.get (rest.getLastD last)))
        (calls ++ rest.map fun i => handing rt a "algoInstance.configure" (given.get i)) t := by
  induction rest generalizing last calls s with
  | nil => exact ⟨s, rfl, by rwa [List.map_nil, List.append_nil]⟩
  | cons i rest ih =>
      have hi : given[i.val]? = some (given.get i) := List.getElem?_eq_getElem i.isLt
      obtain ⟨u, hrun, hu⟩ := run_configuration settings hkeys hs.ready hi
      rw [hs.calls] at hu
      obtain ⟨t, hrest, ht⟩ := ih hu
      refine ⟨t, ?_, ?_⟩
      · rw [Class.configureAll, List.foldlM_cons, hrun]
        exact hrest
      · rw [List.append_assoc] at ht
        rw [List.getLastD_cons]
        exact ht

theorem session_classOf (settings : Settings) (hkeys : (Wrapper.coercedNames a).Nodup)
    (first : Fin given.length) (rest : List (Fin given.length)) :
    ∃ t, (classOf a settings).session rt given first rest = some t ∧
      Holds given (defaultsOf rt a) (heldAfter rt a (given.get (rest.getLastD first)))
        (handing rt a ("new " ++ settings.backend ++ "." ++ a.name) (given.get first) ::
          rest.map fun i => handing rt a "algoInstance.configure" (given.get i)) t := by
  have hfirst : given[first.val]? = some (given.get first) := List.getElem?_eq_getElem first.isLt
  obtain ⟨s, hcreate, hs⟩ := create_classOf settings hkeys hfirst
  obtain ⟨t, hrest, ht⟩ := configureAll_classOf settings hkeys rest hs
  exact ⟨t, by rw [Class.session, hcreate]; exact hrest, ht⟩

/-! ## Values -/

/-- The value that a parameter's default stands for. -/
def Runtime.declared (rt : Runtime V) (p : Parameter) : V :=
  match p.tag, Text.trimmed p.default with
  | .string, _ => rt.text p.default
  | .real, "inf" => rt.expression "Infinity"
  | .real, "-inf" => rt.expression "-Infinity"
  | .real, "nan" => rt.expression "NaN"
  | .real, finite => rt.expression finite
  | _, _ => rt.expression p.default

/-- The value of a parameter: what the object has for it, as a vector if it is true and one is
asked for, or else what is declared. -/
def Runtime.held (rt : Runtime V) (P : Object V) (p : Parameter) : V :=
  match P p.name with
  | some x =>
    if p.tag = .vectorReal ∧ rt.isTrue x = true then rt.function "arrayToVector" x else x
  | none => rt.declared p

theorem value_defaultValue (p : Parameter) : rt.value (defaultValue p) = rt.declared p := by
  unfold defaultValue Runtime.declared
  cases htag : p.tag with
  | real =>
      simp only [Wrapper.realLiteral]
      split <;> simp_all [Runtime.value]
  | _ => rfl

theorem ofLiteral_of_mem {entries : List (String × Literal)} {e : String × Literal}
    (hkeys : (entries.map (·.1)).Nodup) (he : e ∈ entries) :
    Object.ofLiteral rt entries e.1 = some (rt.value e.2) := by
  have hsome : (entries.reverse.find? (·.1 = e.1)).isSome = true :=
    List.find?_isSome.2 ⟨e, List.mem_reverse.2 he, by simp⟩
  obtain ⟨e', he'⟩ := Option.isSome_iff_exists.1 hsome
  have hmem : e' ∈ entries := List.mem_reverse.1 (List.mem_of_find?_eq_some he')
  have hkey : e'.1 = e.1 := by simpa using List.find?_some he'
  have hsame : e' = e := List.inj_on_of_nodup_map hkeys hmem he hkey
  rw [Object.ofLiteral, he', hsame, Option.map_some]

theorem mem_coercedNames {p : Parameter} (hnames : (a.parameters.map (·.name)).Nodup)
    (htypes : ∀ p ∈ a.parameters, p.tag.isParameterType = true) (hp : p ∈ a.parameters) :
    p.name ∈ Wrapper.coercedNames a ↔ p.tag = .vectorReal := by
  have htag : Wrapper.needsCoercion p.tag = true ↔ p.tag = .vectorReal := by
    have htype := htypes p hp
    cases htag : p.tag <;> simp_all [Tag.isParameterType, Wrapper.needsCoercion]
  rw [← htag, Wrapper.coercedNames, List.mem_map]
  constructor
  · rintro ⟨q, hq, hname⟩
    obtain ⟨hmem, hneeds⟩ := List.mem_filter.1 hq
    rwa [List.inj_on_of_nodup_map hnames hmem hp hname] at hneeds
  · intro hneeds
    exact ⟨p, List.mem_filter.2 ⟨hp, hneeds⟩, rfl⟩

theorem heldAfter_parameter {p : Parameter} (hnames : (a.parameters.map (·.name)).Nodup)
    (htypes : ∀ p ∈ a.parameters, p.tag.isParameterType = true) (hp : p ∈ a.parameters) :
    heldAfter rt a P p.name = some (rt.held P p) := by
  have hkeys : ((a.parameters.map fun p => (p.name, defaultValue p)).map (·.1)).Nodup := by
    simpa [Function.comp_def] using hnames
  have hdefault : defaultsOf rt a p.name = some (rt.declared p) := by
    rw [← value_defaultValue]
    exact ofLiteral_of_mem hkeys (List.mem_map_of_mem hp)
  have hconverted := mem_coercedNames hnames htypes hp
  unfold heldAfter merged Object.spread Runtime.held
  rw [hdefault, convertedAll]
  by_cases htag : p.tag = .vectorReal
  · rw [if_pos (hconverted.2 htag)]
    cases hP : P p.name with
    | none => rfl
    | some x => simp [htag]
  · rw [if_neg (mt hconverted.1 htag)]
    cases hP : P p.name with
    | none => rfl
    | some x => simp [htag]

/-- What a method hands on after it was given an object: the values of the parameters in order. -/
def Runtime.handed (rt : Runtime V) (d : Descriptor) (callee : String) (P : Object V) : Call V :=
  ⟨callee, d.parameters.map fun p => some (rt.held P p)⟩

/-- How a session of an instance ends. -/
structure Session (rt : Runtime V) (d : Descriptor) (space : String) (given : List (Object V))
    (first : Fin given.length) (rest : List (Fin given.length)) (t : Store V) : Prop where
  /-- The objects of the callers come first, and none of them is modified. -/
  unchanged : given <+: t.objects
  calls : t.calls = rt.handed d ("new " ++ space ++ "." ++ d.name) (given.get first) ::
    rest.map fun i => rt.handed d "algoInstance.configure" (given.get i)
  /-- The instance holds the values for the last object. -/
  params : ∃ held, t.object? (.field "params") = some held ∧
    ∀ p ∈ d.parameters, held p.name = some (rt.held (given.get (rest.getLastD first)) p)

/-- An instance of the class holds and hands on the values of a descriptor's parameters, whatever
objects it is given. -/
def Class.Merges (c : Class) (space : String) (d : Descriptor) : Prop :=
  ∀ {V : Type} (rt : Runtime V) (given : List (Object V)) (first : Fin given.length)
    (rest : List (Fin given.length)),
    ∃ t, c.session rt given first rest = some t ∧ Session rt d space given first rest t

/-- The class that is written for a valid descriptor with parameters gives every parameter its
value, and the callers' objects are left alone. -/
theorem wrapper_merges {d : Descriptor} {s : Settings} {x : Artifact} (hd : d.IsValid)
    (hp : d.parameters ≠ []) (hbackend : isIdentifier s.backend = true)
    (hspace : isIdentifier s.typeNamespace = true) (ha : Algorithm.ofDescriptor s d = .ok a)
    (hx : emit .wrapper a s = .ok x) :
    ∃ c, Class.read? x.lines = some c ∧ c.Merges s.backend d := by
  refine ⟨classOf a s, read?_wrapperClass hd hp hbackend hspace ha hx, ?_⟩
  have hdescriptor : a.descriptor = d := Algorithm.descriptor_of_ok ha
  have hparameters : a.parameters = d.parameters := congrArg Descriptor.parameters hdescriptor
  have hnames : (a.parameters.map (·.name)).Nodup := hparameters ▸ hd.hasDistinctNames.parameters
  have htypes : ∀ p ∈ a.parameters, p.tag.isParameterType = true :=
    hparameters ▸ fun p hp => hd.isParameterType hp
  have hkeys : (Wrapper.coercedNames a).Nodup := hnames.sublist (List.filter_sublist.map _)
  intro V rt given first rest
  have hheld : ∀ P, ∀ p ∈ d.parameters, heldAfter rt a P p.name = some (rt.held P p) := by
    rw [← hparameters]
    exact fun P p hp => heldAfter_parameter hnames htypes hp
  have hhanded : ∀ callee P, handing rt a callee P = rt.handed d callee P := by
    intro callee P
    simp only [handing, Runtime.handed, List.map_map, hparameters]
    exact congrArg _ (List.map_congr_left (hheld P))
  obtain ⟨t, hsession, ht⟩ := session_classOf s hkeys first rest
  refine ⟨t, hsession, ht.ready.given, ?_, _, ht.params, hheld _⟩
  simp only [ht.calls, hhanded, Algorithm.name, hdescriptor]

/-- Objects with a vector, with something that is not true, and with nothing. -/
theorem wrapper_merges_windowing :
    let d : Descriptor := {
      name := "Windowing"
      outputs := [⟨"frame", .vectorReal, ""⟩]
      parameters := [⟨"window", .vectorReal, "[1, 2]", ""⟩, ⟨"type", .string, "hann", ""⟩,
        ⟨"limit", .real, "inf", ""⟩] }
    let rt : Runtime String := ⟨id, id, fun x => x != "", fun f x => f ++ "(" ++ x ++ ")"⟩
    let given : List (Object String) :=
      [Function.update (fun _ => none) "window" (some "w"),
        Function.update (Function.update (fun _ => none) "window" (some "")) "type" (some "")]
    ∃ a x c t, d.IsValid ∧ d.parameters ≠ [] ∧ Algorithm.ofDescriptor {} d = .ok a ∧
      emit .wrapper a {} = .ok x ∧ Class.read? x.lines = some c ∧
      c.session rt given 0 [1] = some t ∧
      t.calls = [
        ⟨"new " ++ Settings.backend {} ++ ".Windowing",
          [some "arrayToVector(w)", some "hann", some "Infinity"]⟩,
        ⟨"algoInstance.configure", [some "", some "", some "Infinity"]⟩] := by
  intro d rt given
  have hd : d.IsValid := by decide
  have hp : d.parameters ≠ [] := by decide
  obtain ⟨c, hc, hmerges⟩ := wrapper_merges (s := {}) hd hp (by decide) (by decide) rfl rfl
  obtain ⟨t, ht, hsession⟩ := hmerges rt given 0 [1]
  exact ⟨_, _, c, t, hd, hp, rfl, rfl, hc, ht, hsession.calls⟩

end Bindery.Script
