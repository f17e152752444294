import Bindery.Proofs.Computation
import Mathlib.Data.List.Nodup

/-!
# Running computations

The function that computes is a straight line of statements. A frame holds what they
have done so far, and a statement that is out of place (a variable that is declared
twice or not at all, a slot that is bound again or too late) stops the run. Each list
of inputs or outputs is gone through in passes, one statement for an element.
-/

namespace Bindery.Native

/-! ## Variables -/

/-- The variables of a computation do not meet. -/
structure Apart (a : Algorithm) (outputs : List Local) : Prop where
  idents : (outputs.map (·.ident)).Nodup
  locals : ∀ o ∈ outputs, o.ident ∉ a.handle :: a.inputs.map (·.ident)
  result : resultName a ∉ a.handle :: (a.inputs.map (·.ident) ++ outputs.map (·.ident))

theorem Apart.of_nodup {a : Algorithm} {outputs : List Local}
    (h : (a.handle :: resultName a ::
      (a.inputs.map (·.ident) ++ outputs.map (·.ident))).Nodup) : Apart a outputs := by
  simp only [List.nodup_cons, List.nodup_append, List.mem_cons, List.mem_append, not_or] at h
  obtain ⟨⟨hhandle, -, hlocal⟩, ⟨hargs, hresult⟩, -, hidents, hapart⟩ := h
  constructor
  case idents => exact hidents
  case locals =>
    intro o ho hmem
    have ho := List.mem_map_of_mem (f := (·.ident)) ho
    rcases List.mem_cons.1 hmem with heq | hmem
    · exact hlocal (heq ▸ ho)
    · exact hapart _ hmem _ ho rfl
  case result =>
    rw [List.mem_cons, List.mem_append, not_or, not_or]
    exact ⟨fun h => hhandle h.symm, hargs, hresult⟩

/-! ## Frames -/

/-- A computation under way. -/
structure Frame (V : Type) where
  handle : String
  arguments : List String
  /-- The values of variables that have one. -/
  values : String → Option V
  /-- The local variables with their types. -/
  locals : List (String × String) := []
  /-- The input slots with the variables bound to them. -/
  inputs : List (String × String) := []
  /-- The output slots with the variables bound to them. -/
  outputs : List (String × String) := []
  /-- What the input slots had when the handle computed. -/
  given : Option (List (String × V)) := none
  /-- The variable of the result, and its members. -/
  result : Option (String × List (String × V)) := none
  returned : Option (List (String × V)) := none

variable {V : Type}

namespace Frame

def start (handle : String) (arguments : List String) (values : String → V) : Frame V where
  handle := handle
  arguments := arguments
  values := fun v => if v ∈ arguments then some (values v) else none

def scope (f : Frame V) : List String :=
  f.handle :: (f.arguments ++ f.locals.map (·.1) ++ (f.result.map (·.1)).toList)

/-- The values after the handle has computed: a variable of an output slot has the slot's answer. -/
def answered (f : Frame V) (answer : String → V) (v : String) : Option V :=
  match f.outputs.find? (·.2 = v) with
  | some slot => some (answer slot.1)
  | none => f.values v

/-- One statement. The algorithm answers what the input slots have with a value for each output
slot. A statement that is out of place has no outcome. -/
def step (answer : List (String × V) → String → V) (f : Frame V) : Statement → Option (Frame V)
  | .bindInput handle slot v =>
    if f.handle = handle ∧ f.given.isNone ∧ slot ∉ f.inputs.map (·.1) ∧ v ∈ f.arguments then
      some { f with inputs := f.inputs ++ [(slot, v)] }
    else none
  | .declare type v =>
    if v ∉ f.scope then some { f with locals := f.locals ++ [(v, type)] } else none
  | .bindOutput handle slot v =>
    if f.handle = handle ∧ f.given.isNone ∧ slot ∉ f.outputs.map (·.1) ∧
        v ∈ f.locals.map (·.1) ∧ v ∉ f.outputs.map (·.2) then
      some { f with outputs := f.outputs ++ [(slot, v)] }
    else none
  | .compute handle =>
    if f.handle = handle ∧ f.given.isNone then
      (f.inputs.mapM fun slot => (f.values slot.2).map (slot.1, ·)).map fun given =>
        { f with given := some given, values := f.answered (answer given) }
    else none
  | .beginResult v =>
    if f.result.isNone ∧ v ∉ f.scope then some { f with result := some (v, []) } else none
  | .setResult v key x =>
    match f.result with
    | some (result, members) =>
      if result = v ∧ key ∉ members.map (·.1) then
        (f.values x).map fun value => { f with result := some (result, members ++ [(key, value)]) }
      else none
    | none => none
  | .giveResult v =>
    match f.result with
    | some (result, members) =>
      if result = v then some { f with returned := some members } else none
    | none => none
  | _ => none

/-- Statements in turn. Nothing follows a return. -/
def run (answer : List (String × V) → String → V) : Frame V → List Statement → Option (Frame V)
  | f, [] => some f
  | f, st :: rest =>
    if f.returned.isSome then none else (f.step answer st).bind fun g => g.run answer rest

/-! ### Runs -/

variable {answer : List (String × V) → String → V} {f : Frame V}

theorem run_append_of {xs ys : List Statement} {g : Frame V} (h : f.run answer xs = some g) :
    f.run answer (xs ++ ys) = g.run answer ys := by
  induction xs generalizing f with
  | nil =>
      cases h
      rfl
  | cons st rest ih =>
      rw [run] at h
      rw [List.cons_append, run]
      split
      · simp_all
      · rw [if_neg ‹_›] at h
        obtain ⟨f', hstep, hrest⟩ := Option.bind_eq_some_iff.1 h
        rw [hstep, Option.bind_some, ih hrest]

theorem run_cons {st : Statement} {rest : List Statement} {g : Frame V}
    (hopen : f.returned = none) (hstep : f.step answer st = some g) :
    f.run answer (st :: rest) = g.run answer rest := by
  rw [run, hopen, hstep]
  rfl

/-- A pass makes one statement of each element. If every statement leads from the frame of the
elements before it to the frame of these and its own, the pass leads to the frame of all. -/
theorem run_pass {α : Type} {g : α → Statement} {all : List α} (frame : List α → Frame V)
    (hstart : frame [] = f) (hopen : ∀ l, (frame l).returned = none)
    (hstep : ∀ done x rest, all = done ++ x :: rest →
      (frame done).step answer (g x) = some (frame (done ++ [x]))) :
    f.run answer (all.map g) = some (frame all) := by
  -- induction on what remains; the frame depends on what is done, which the goal does not name
  have hrest : ∀ rest done, all = done ++ rest →
      (frame done).run answer (rest.map g) = some (frame all) := by
    intro rest
    induction rest with
    | nil =>
        intro done hall
        rw [hall, List.append_nil]
        rfl
    | cons x rest ih =>
        intro done hall
        rw [List.map_cons, run_cons (hopen done) (hstep done x rest hall)]
        exact ih (done ++ [x]) (by simp [hall])
  rw [← hstart]
  exact hrest all [] rfl

theorem not_mem_before {α : Type} {key : α → String} {all done rest : List α} {x : α}
    (hall : all = done ++ x :: rest) (h : (all.map key).Nodup) : key x ∉ done.map key := by
  rw [hall, List.map_append, List.map_cons] at h
  intro hx
  exact (List.nodup_append.1 h).2.2 _ hx _ List.mem_cons_self rfl

/-! ### The passes of a computation -/

def bindInputs (f : Frame V) (slots : List Slot) : Frame V :=
  { f with inputs := f.inputs ++ slots.map fun i => (i.name, i.ident) }

def declare (f : Frame V) (outputs : List Local) : Frame V :=
  { f with locals := f.locals ++ outputs.map fun o => (o.ident, o.type) }

def bindOutputs (f : Frame V) (outputs : List Local) : Frame V :=
  { f with outputs := f.outputs ++ outputs.map fun o => (o.name, o.ident) }

def setResult (f : Frame V) (result : String) (value : Local → V) (outputs : List Local) :
    Frame V :=
  { f with result := some (result, outputs.map fun o => (o.name, value o)) }

theorem run_bindInputs {slots : List Slot} (hopen : f.returned = none) (hgiven : f.given = none)
    (hinputs : f.inputs = []) (hnames : (slots.map (·.name)).Nodup)
    (hargs : ∀ i ∈ slots, i.ident ∈ f.arguments) :
    f.run answer (slots.map fun i => .bindInput f.handle i.name i.ident) =
      some (f.bindInputs slots) := by
  refine run_pass f.bindInputs (by simp [bindInputs]) (fun _ => hopen) fun done x rest hall => ?_
  have hx : x.ident ∈ f.arguments := hargs x (by simp [hall])
  have hname := not_mem_before hall hnames
  simp_all [step, bindInputs]

theorem run_declare {outputs : List Local} (hopen : f.returned = none) (hresult : f.result = none)
    (hlocals : f.locals = []) (hidents : (outputs.map (·.ident)).Nodup)
    (hfresh : ∀ o ∈ outputs, o.ident ∉ f.handle :: f.arguments) :
    f.run answer (outputs.map fun o => .declare o.type o.ident) = some (f.declare outputs) := by
  refine run_pass f.declare (by simp [declare]) (fun _ => hopen) fun done x rest hall => ?_
  have hx : x.ident ∉ f.handle :: f.arguments := hfresh x (by simp [hall])
  have hident := not_mem_before hall hidents
  simp_all [step, declare, scope]

theorem run_bindOutputs {outputs : List Local} (hopen : f.returned = none)
    (hgiven : f.given = none) (houtputs : f.outputs = []) (hnames : (outputs.map (·.name)).Nodup)
    (hidents : (outputs.map (·.ident)).Nodup)
    (hdeclared : ∀ o ∈ outputs, o.ident ∈ f.locals.map (·.1)) :
    f.run answer (outputs.map fun o => .bindOutput f.handle o.name o.ident) =
      some (f.bindOutputs outputs) := by
  refine run_pass f.bindOutputs (by simp [bindOutputs]) (fun _ => hopen) fun done x rest hall => ?_
  have hx : x.ident ∈ f.locals.map (·.1) := hdeclared x (by simp [hall])
  have hname := not_mem_before hall hnames
  have hident := not_mem_before hall hidents
  simp_all [step, bindOutputs]

theorem run_setResult {outputs : List Local} {result : String} {value : Local → V}
    (hopen : f.returned = none) (hresult : f.result = some (result, []))
    (hnames : (outputs.map (·.name)).Nodup)
    (hvalues : ∀ o ∈ outputs, f.values o.ident = some (value o)) :
    f.run answer (outputs.map fun o => .setResult result o.name o.ident) =
      some (f.setResult result value outputs) := by
  refine run_pass (f.setResult result value) (by simp [setResult, ← hresult]) (fun _ => hopen)
    fun done x rest hall => ?_
  have hx : f.values x.ident = some (value x) := hvalues x (by simp [hall])
  have hname := not_mem_before hall hnames
  simp_all [step, setResult]

theorem answered_eq {outputs : List Local} {o : Local} {reply : String → V}
    (houtputs : f.outputs = outputs.map fun o => (o.name, o.ident))
    (hidents : (outputs.map (·.ident)).Nodup) (ho : o ∈ outputs) :
    f.answered reply o.ident = some (reply o.name) := by
  have hfind : outputs.find? (fun p => p.ident = o.ident) = some o := by
    cases h : outputs.find? fun p => p.ident = o.ident with
    | none => simpa using List.find?_eq_none.1 h o ho
    | some p =>
        have hp : p.ident = o.ident := by simpa using List.find?_some h
        rw [List.inj_on_of_nodup_map hidents (List.mem_of_find?_eq_some h) ho hp]
  have hslot : f.outputs.find? (·.2 = o.ident) = some (o.name, o.ident) := by
    rw [houtputs, List.find?_map]
    exact congrArg (Option.map _) hfind
  rw [answered, hslot]

/-- What a computation comes to, whose inputs and outputs are given by their names and variables: the
handle computes once, on what the arguments have, and the result holds its answers. -/
structure Ends (answer : List (String × V) → String → V) (is os : List (String × String))
    (values : String → V) (f : Frame V) : Prop where
  inputs : f.inputs = is
  outputs : f.outputs = os
  locals : f.locals.map (·.1) = os.map (·.2)
  given : f.given = some (is.map fun i => (i.1, values i.2))
  returned : f.returned = some (os.map fun o =>
    (o.1, answer (is.map fun i => (i.1, values i.2)) o.1))

theorem run_computation {a : Algorithm} {outputs : List Local}
    (answer : List (String × V) → String → V) (values : String → V)
    (hinputs : (a.inputs.map (·.name)).Nodup) (houtputs : (outputs.map (·.name)).Nodup)
    (hapart : Apart a outputs) :
    ∃ f, (start a.handle (a.inputs.map (·.ident)) values).run answer (computation a outputs) =
      some f ∧ Ends answer (a.inputs.map fun i => (i.name, i.ident))
        (outputs.map fun o => (o.name, o.ident)) values f := by
  -- one frame after each pass and after each single statement of the body
  let given := a.inputs.map fun i => (i.name, values i.ident)
  let f0 : Frame V := start a.handle (a.inputs.map (·.ident)) values
  let f1 := f0.bindInputs a.inputs
  let f2 := f1.declare outputs
  let f3 := f2.bindOutputs outputs
  let f4 : Frame V := { f3 with given := some given, values := f3.answered (answer given) }
  let f5 : Frame V := { f4 with result := some (resultName a, []) }
  let f6 := f5.setResult (resultName a) (fun o => answer given o.name) outputs
  let members := outputs.map fun o => (o.name, answer given o.name)
  let f7 : Frame V := { f6 with returned := some members }
  have h1 : f0.run answer (a.inputs.map fun i => .bindInput a.handle i.name i.ident) = some f1 :=
    run_bindInputs rfl rfl rfl hinputs fun i hi => List.mem_map_of_mem hi
  have h2 : f1.run answer (outputs.map fun o => .declare o.type o.ident) = some f2 :=
    run_declare rfl rfl rfl hapart.idents hapart.locals
  have h3 : f2.run answer (outputs.map fun o => .bindOutput a.handle o.name o.ident) = some f3 := by
    refine run_bindOutputs rfl rfl rfl houtputs hapart.idents fun o ho => ?_
    simp only [f2, f1, f0, declare, bindInputs, start, List.nil_append, List.map_map]
    exact List.mem_map_of_mem ho
  have h4 : f3.step answer (.compute a.handle) = some f4 := by
    have hgiven : f3.inputs.mapM (fun slot => (f3.values slot.2).map (slot.1, ·)) = some given := by
      change (a.inputs.map fun i => (i.name, i.ident)).mapM _ = _
      rw [List.mapM_map]
      refine mapM_some fun i hi => ?_
      have hi : i.ident ∈ a.inputs.map (·.ident) := List.mem_map_of_mem hi
      have hvalue : f3.values i.ident = some (values i.ident) := if_pos hi
      exact congrArg (Option.map (i.name, ·)) hvalue
    simp only [step]
    rw [if_pos ⟨rfl, rfl⟩, hgiven]
    rfl
  have h5 : f4.step answer (.beginResult (resultName a)) = some f5 := by
    refine if_pos ⟨rfl, ?_⟩
    have hscope : f4.scope = a.handle :: (a.inputs.map (·.ident) ++ outputs.map (·.ident)) := by
      simp [scope, f4, f3, f2, f1, f0, bindOutputs, declare, bindInputs, start, Function.comp_def]
    rw [hscope]
    exact hapart.result
  have h6 : f5.run answer (outputs.map fun o => .setResult (resultName a) o.name o.ident) =
      some f6 := by
    refine run_setResult rfl rfl houtputs fun o ho => ?_
    exact answered_eq (by simp [f3, f2, f1, f0, bindOutputs, declare, bindInputs, start])
      hapart.idents ho
  have h7 : f6.step answer (.giveResult (resultName a)) = some f7 := if_pos rfl
  have hgiven : (a.inputs.map fun i => (i.name, i.ident)).map (fun i => (i.1, values i.2)) =
      given := List.map_map ..
  have hlocals : f7.locals.map (·.1) =
      (outputs.map fun o => (o.name, o.ident)).map (·.2) := by
    simp [f7, f6, f5, f4, f3, f2, f1, f0, setResult, bindOutputs, declare, bindInputs, start]
  have hreturned : members =
      (outputs.map fun o => (o.name, o.ident)).map (fun o => (o.1, answer given o.1)) := by
    rw [List.map_map]
    rfl
  have hends : Ends answer (a.inputs.map fun i => (i.name, i.ident))
      (outputs.map fun o => (o.name, o.ident)) values f7 :=
    ⟨rfl, rfl, hlocals, congrArg some hgiven.symm, by rw [hgiven, ← hreturned]⟩
  refine ⟨f7, ?_, hends⟩
  simp only [computation, List.append_assoc, List.cons_append, List.nil_append]
  refine (run_append_of h1).trans ?_
  refine (run_append_of h2).trans ?_
  refine (run_append_of h3).trans ?_
  refine (run_cons rfl h4).trans ?_
  refine (run_cons rfl h5).trans ?_
  refine (run_append_of h6).trans ?_
  exact run_cons rfl h7

end Frame

end Bindery.Native
