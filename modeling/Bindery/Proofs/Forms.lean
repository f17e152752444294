import Bindery.Proofs.Identifier
import Mathlib.Data.List.Basic
import Mathlib.Data.List.TakeWhile

/-!
# Forms of lines

Generated code is read line by line. A line has a form: texts that stand there as they
are, and holes that take all the characters of some kind. What was put into the holes
is read back because no hole goes on where the text behind it begins, and a list of
forms reads every line by the right one because no two of them can be taken for each
other.
-/

namespace Bindery

/-- What a hole takes. -/
inductive Hole where
  | word
  /-- Words with dots between them. -/
  | path
  /-- Everything up to a closing parenthesis. -/
  | list
  /-- Everything up to an equals sign. -/
  | type
  | all
deriving DecidableEq

def Hole.accepts : Hole → Char → Bool
  | word, c => continuesIdentifier c
  | path, c => continuesIdentifier c || c == '.'
  | list, c => c != ')'
  | type, c => c != '='
  | all, _ => true

inductive Piece where
  | text (t : String)
  | hole (h : Hole)
deriving DecidableEq

namespace Piece

/-- What stands in the holes of a line of this form. A hole takes as much as it can. -/
def read? : List Piece → List Char → Option (List String)
  | [], cs => if cs.isEmpty then some [] else none
  | .text t :: rest, cs => (cs.dropPrefix? t.toList).bind (read? rest)
  | .hole h :: rest, cs =>
    (read? rest (cs.dropWhile h.accepts)).map (String.ofList (cs.takeWhile h.accepts) :: ·)

/-- The line of this form with these texts in its holes. -/
def fill : List Piece → List String → List Char
  | .text t :: rest, ws => t.toList ++ fill rest ws
  | .hole _ :: rest, w :: ws => w.toList ++ fill rest ws
  | _, _ => []

def Fits : List Piece → List String → Prop
  | [], [] => True
  | .text _ :: rest, ws => Fits rest ws
  | .hole h :: rest, w :: ws => (∀ c ∈ w.toList, h.accepts c = true) ∧ Fits rest ws
  | _, _ => False

/-- The text begins with a character that the hole does not take. -/
def endsHole (h : Hole) (t : String) : Bool :=
  match t.toList with
  | c :: _ => !h.accepts c
  | [] => false

/-- Every hole has its end: a text that it does not go on with, or the end of the line. -/
def isDelimited : List Piece → Bool
  | [] => true
  | .text _ :: rest => isDelimited rest
  | [.hole _] => true
  | .hole h :: .text t :: rest => endsHole h t && isDelimited rest
  | .hole _ :: .hole _ :: _ => false

/-! ### Reading what was filled in -/

variable {h : Hole} {ps qs : List Piece} {ws : List String} {w cs : List Char} {c : Char}

theorem read?_text (t : String) : read? (.text t :: ps) (t.toList ++ cs) = read? ps cs := by
  rw [read?, List.dropPrefix?_append_of_beq cs (beq_self_eq_true t.toList), Option.bind_some]

theorem read?_hole (hw : ∀ d ∈ w, h.accepts d = true) (hc : h.accepts c = false) :
    read? (.hole h :: ps) (w ++ c :: cs) = (read? ps (c :: cs)).map (String.ofList w :: ·) := by
  have hnot : ¬ h.accepts c = true := by simp [hc]
  rw [read?, List.takeWhile_append_of_pos hw, List.dropWhile_append_of_pos hw,
    List.takeWhile_cons_of_neg hnot, List.dropWhile_cons_of_neg hnot, List.append_nil]

theorem read?_last (hw : ∀ d ∈ w, h.accepts d = true) :
    read? [.hole h] w = some [String.ofList w] := by
  have htake : (w ++ []).takeWhile h.accepts = w ++ [].takeWhile h.accepts :=
    List.takeWhile_append_of_pos hw
  have hdrop : (w ++ []).dropWhile h.accepts = [].dropWhile h.accepts :=
    List.dropWhile_append_of_pos hw
  simp only [List.append_nil, List.takeWhile_nil, List.dropWhile_nil] at htake hdrop
  simp [read?, htake, hdrop]

theorem exists_of_endsHole {t : String} (ht : endsHole h t = true) :
    ∃ c rest, t.toList = c :: rest ∧ h.accepts c = false := by
  unfold endsHole at ht
  cases hlist : t.toList with
  | nil => simp [hlist] at ht
  | cons c rest => exact ⟨c, rest, rfl, by simpa [hlist] using ht⟩

theorem read?_fill (ps : List Piece) (ws : List String) (hps : isDelimited ps = true)
    (hws : Fits ps ws) : read? ps (fill ps ws) = some ws := by
  fun_induction isDelimited ps generalizing ws with
  | case1 =>
      cases ws with
      | nil => rfl
      | cons w ws => cases hws
  | case2 t rest ih => rw [fill, read?_text, ih _ hps hws]
  | case3 h =>
      match ws, hws with
      | [w], hw => simpa [fill] using read?_last hw.1
  | case4 h t rest ih =>
      match ws, hws with
      | w :: ws, hws =>
          rw [Bool.and_eq_true] at hps
          obtain ⟨c, tail, ht, hc⟩ := exists_of_endsHole hps.1
          rw [fill, fill, ht, List.cons_append, read?_hole hws.1 hc, ← List.cons_append, ← ht,
            read?_text, ih _ hps.2 hws.2]
          simp
  | case5 => cases hps

/-! ### Forms apart -/

def beginApart : List Char → List Char → Bool
  | c :: _, d :: _ => c != d
  | _, _ => false

/-- Two texts differ at a place that both of them have. -/
def differ : List Char → List Char → Bool
  | c :: cs, d :: ds => c != d || differ cs ds
  | _, _ => false

def areApart : List Piece → List Piece → Bool
  | .text t :: ps, .text u :: qs => differ t.toList u.toList || (t == u && areApart ps qs)
  | .hole h :: ps, .hole k :: qs => h == k && areApart ps qs
  | .text t :: _, .hole k :: .text u :: _ =>
    beginApart (t.toList.dropWhile k.accepts) u.toList
  | .hole h :: .text t :: _, .text u :: _ =>
    endsHole h t && beginApart (u.toList.dropWhile h.accepts) t.toList
  | _, _ => false

theorem dropPrefix?_of_differ {t u : List Char} (h : differ t u = true) :
    (t ++ cs).dropPrefix? u = none := by
  induction t generalizing u with
  | nil => cases h
  | cons c t ih =>
      cases u with
      | nil => cases h
      | cons d u =>
          rw [List.cons_append, List.dropPrefix?]
          by_cases hcd : c = d
          · rw [differ, hcd, bne_self_eq_false, Bool.false_or] at h
            rw [if_pos (beq_iff_eq.2 hcd), ih h]
          · rw [if_neg (by simpa using hcd)]

theorem not_prefix_of_differ {start before : String} (rest : String)
    (h : differ before.toList start.toList = true) : ¬ start.toList <+: (before ++ rest).toList := by
  rintro ⟨tail, htail⟩
  have hnone : (before.toList ++ rest.toList).dropPrefix? start.toList = none :=
    dropPrefix?_of_differ h
  rw [← String.toList_append, ← htail, List.dropPrefix?_append_of_beq tail (beq_self_eq_true _)]
    at hnone
  cases hnone

theorem read?_text_of_ne {t : String} (h : differ cs t.toList = true) {rest : List Char} :
    read? (.text t :: qs) (cs ++ rest) = none := by
  rw [read?, dropPrefix?_of_differ h, Option.bind_none]

theorem differ_of_beginApart {t u : List Char} (h : beginApart t u = true) :
    differ t u = true := by
  cases t with
  | nil => cases h
  | cons c t =>
      cases u with
      | nil => cases h
      | cons d u => exact Bool.or_eq_true_iff.2 (.inl h)

theorem read?_of_beginApart {t u : String}
    (h' : beginApart (t.toList.dropWhile h.accepts) u.toList = true) {rest : List Char} :
    read? (.hole h :: .text u :: qs) (t.toList ++ rest) = none := by
  have hsplit := (List.takeWhile_append_dropWhile (p := h.accepts) (l := t.toList)).symm
  have htake : ∀ d ∈ t.toList.takeWhile h.accepts, h.accepts d = true := fun d hd =>
    List.mem_takeWhile_imp hd
  cases hdrop : t.toList.dropWhile h.accepts with
  | nil => simp [hdrop, beginApart] at h'
  | cons c tail =>
      have hc : h.accepts c = false := by
        have hhead := List.head_dropWhile_not h.accepts (l := t.toList) (by simp [hdrop])
        simpa [hdrop] using hhead
      rw [hdrop] at hsplit h'
      rw [hsplit, List.append_assoc, List.cons_append, read?_hole htake hc, ← List.cons_append,
        read?_text_of_ne (differ_of_beginApart h'), Option.map_none]

theorem differ_of_hole {u tail : List Char} (hw : ∀ d ∈ w, h.accepts d = true)
    (hc : h.accepts c = false) (hu : beginApart (u.dropWhile h.accepts) (c :: tail) = true) :
    differ (w ++ [c]) u = true := by
  induction w generalizing u with
  | nil =>
      cases u with
      | nil => cases hu
      | cons d u =>
          by_cases hd : h.accepts d = true
          · have hne : c ≠ d := by
              rintro rfl
              rw [hc] at hd
              cases hd
            simp [differ, hne]
          · rw [List.dropWhile_cons_of_neg hd] at hu
            have hne : d ≠ c := by simpa [beginApart] using hu
            simp [differ, hne.symm]
  | cons x w ih =>
      rw [List.forall_mem_cons] at hw
      cases u with
      | nil => cases hu
      | cons d u =>
          rw [List.cons_append, differ, Bool.or_eq_true]
          by_cases hx : x = d
          · rw [← hx, List.dropWhile_cons_of_pos hw.1] at hu
            exact .inr (ih hw.2 hu)
          · exact .inl (by simpa using hx)

/-- A line of a form is not one of a form apart from it. -/
theorem read?_of_areApart (hps : isDelimited ps = true) (hws : Fits ps ws)
    (hapart : areApart ps qs = true) : read? qs (fill ps ws) = none := by
  fun_induction areApart ps qs generalizing ws with
  | case1 t ps u qs ih =>
      rw [Bool.or_eq_true, Bool.and_eq_true, beq_iff_eq] at hapart
      rw [fill]
      rcases hapart with hdiffer | ⟨rfl, hrest⟩
      · exact read?_text_of_ne hdiffer
      · rw [read?_text, ih hps hws hrest]
  | case2 h ps k qs ih =>
      rw [Bool.and_eq_true, beq_iff_eq] at hapart
      obtain ⟨rfl, hrest⟩ := hapart
      -- both lines may have the same word here, so what tells them apart comes behind it
      match ps, ws, hps, hws with
      | .text t :: ps, w :: ws, hps, hws =>
          rw [isDelimited, Bool.and_eq_true] at hps
          obtain ⟨c, tail, ht, hc⟩ := exists_of_endsHole hps.1
          have hnone : read? qs (fill (.text t :: ps) ws) = none := ih hps.2 hws.2 hrest
          rw [fill, ht, List.cons_append] at hnone
          rw [fill, fill, ht, List.cons_append, read?_hole hws.1 hc, hnone, Option.map_none]
  | case3 t ps k u qs => exact read?_of_beginApart hapart
  | case4 h t ps u qs =>
      match ws, hws with
      | w :: ws, hws =>
          rw [Bool.and_eq_true] at hapart
          obtain ⟨c, tail, ht, hc⟩ := exists_of_endsHole hapart.1
          rw [ht] at hapart
          rw [fill, fill, ht, List.cons_append, List.append_cons]
          exact read?_text_of_ne (differ_of_hole hws.1 hc hapart.2)
  | case5 => cases hapart

end Piece

/-! ## Lists of forms -/

theorem mapM_some {α β : Type} {f : α → Option β} {g : α → β} {l : List α}
    (h : ∀ a ∈ l, f a = some (g a)) : l.mapM f = some (l.map g) := by
  induction l with
  | nil => rfl
  | cons a rest ih =>
      rw [List.forall_mem_cons] at h
      simp [List.mapM_cons, h.1, ih h.2]

/-- A form, and what the texts in its holes make. -/
structure Form (α : Type) where
  pieces : List Piece
  make : List String → Option α

namespace Form

variable {α : Type}

def read? (f : Form α) (line : List Char) : Option α := (Piece.read? f.pieces line).bind f.make

theorem read?_fill {f : Form α} {ws : List String} {x : α}
    (hdelimited : Piece.isDelimited f.pieces = true) (hws : Piece.Fits f.pieces ws)
    (hx : f.make ws = some x) : f.read? (Piece.fill f.pieces ws) = some x := by
  rw [read?, Piece.read?_fill _ _ hdelimited hws, Option.bind_some, hx]

def readBy? (fs : List (Form α)) (line : List Char) : Option α := fs.findSome? (·.read? line)

/-- No line has two of the forms. -/
def areApart : List (Form α) → Bool
  | [] => true
  | f :: fs =>
    Piece.isDelimited f.pieces && fs.all (fun g => Piece.areApart g.pieces f.pieces) && areApart fs

theorem isDelimited_of_mem {fs : List (Form α)} {f : Form α} (hapart : areApart fs = true)
    (hf : f ∈ fs) : Piece.isDelimited f.pieces = true := by
  induction fs with
  | nil => cases hf
  | cons g fs ih =>
      simp only [areApart, Bool.and_eq_true] at hapart
      rcases List.mem_cons.1 hf with rfl | hf
      · exact hapart.1.1
      · exact ih hapart.2 hf

/-- A line is read by its own form. -/
theorem readBy?_fill {fs : List (Form α)} {f : Form α} {ws : List String} {x : α}
    (hapart : areApart fs = true) (hf : f ∈ fs) (hws : Piece.Fits f.pieces ws)
    (hx : f.make ws = some x) : readBy? fs (Piece.fill f.pieces ws) = some x := by
  unfold readBy?
  induction fs with
  | nil => cases hf
  | cons g fs ih =>
      have hdelimited := isDelimited_of_mem hapart hf
      simp only [areApart, Bool.and_eq_true, List.all_eq_true] at hapart
      rw [List.findSome?_cons]
      rcases List.mem_cons.1 hf with rfl | hf
      · rw [read?_fill hdelimited hws hx]
      · rw [read?, Piece.read?_of_areApart hdelimited hws (hapart.1.2 f hf), Option.bind_none]
        exact ih hapart.2 hf

end Form

/-! ## Blocks -/

/-- The first line that begins with `start`, and the lines after it before the first `close`. -/
def block? (start close : String) (lines : List String) : Option (String × List String) :=
  match lines.dropWhile fun l => !start.toList.isPrefixOf l.toList with
  | [] => none
  | head :: rest => some (head, rest.takeWhile (· != close))

/-- The lines around a block: those up to its first line, and those from `close` on. -/
def aroundBlock (start close : String) (lines : List String) : List String :=
  (lines.takeWhile fun l => !start.toList.isPrefixOf l.toList) ++
    match lines.dropWhile fun l => !start.toList.isPrefixOf l.toList with
    | [] => []
    | head :: rest => head :: rest.dropWhile (· != close)

theorem isPrefixOf_eq_false {start : String} {lines : List String}
    (h : ∀ l ∈ lines, ¬ start.toList <+: l.toList) :
    ∀ l ∈ lines, (!start.toList.isPrefixOf l.toList) = true := by
  intro l hl
  rw [Bool.not_eq_true', ← Bool.not_eq_true, List.isPrefixOf_iff_prefix]
  exact h l hl

theorem bne_of_not_mem {close : String} {lines : List String} (h : close ∉ lines) :
    ∀ l ∈ lines, (l != close) = true := by
  intro l hl
  rw [bne_iff_ne]
  rintro rfl
  exact h hl

section Blocks

variable {start close head : String} {before body after : List String}
  (hbefore : ∀ l ∈ before, ¬ start.toList <+: l.toList) (hhead : start.toList <+: head.toList)
  (hbody : close ∉ body)
include hbefore hhead

theorem dropWhile_block (rest : List String) :
    (before ++ head :: rest).dropWhile (fun l => !start.toList.isPrefixOf l.toList) =
      head :: rest := by
  rw [List.dropWhile_append_of_pos (isPrefixOf_eq_false hbefore),
    List.dropWhile_cons_of_neg (by simpa using hhead)]

include hbody

theorem block?_eq :
    block? start close (before ++ head :: (body ++ close :: after)) = some (head, body) := by
  have htake : (body ++ close :: after).takeWhile (· != close) = body := by
    rw [List.takeWhile_append_of_pos (bne_of_not_mem hbody),
      List.takeWhile_cons_of_neg (by simp), List.append_nil]
  simp only [block?, dropWhile_block hbefore hhead, htake]

theorem aroundBlock_eq :
    aroundBlock start close (before ++ head :: (body ++ close :: after)) =
      before ++ head :: close :: after := by
  have htake : (before ++ head :: (body ++ close :: after)).takeWhile
      (fun l => !start.toList.isPrefixOf l.toList) = before := by
    rw [List.takeWhile_append_of_pos (isPrefixOf_eq_false hbefore),
      List.takeWhile_cons_of_neg (by simpa using hhead), List.append_nil]
  have hrest : (body ++ close :: after).dropWhile (· != close) = close :: after := by
    rw [List.dropWhile_append_of_pos (bne_of_not_mem hbody), List.dropWhile_cons_of_neg (by simp)]
  simp only [aroundBlock, dropWhile_block hbefore hhead, htake, hrest]

end Blocks

theorem block?_eq_none {start close : String} {lines : List String}
    (h : ∀ l ∈ lines, ¬ start.toList <+: l.toList) : block? start close lines = none := by
  rw [block?, List.dropWhile_eq_nil_iff.2 (isPrefixOf_eq_false h)]

/-- What a text has between two others at its ends. -/
def between? (before after text : String) : Option String :=
  (text.toList.dropPrefix? before.toList).bind fun cs =>
    (cs.dropSuffix? after.toList).map String.ofList

theorem between?_append (before middle after : String) :
    between? before after (before ++ middle ++ after) = some middle := by
  have hsuffix : (middle.toList ++ after.toList).dropSuffix? after.toList = some middle.toList :=
    List.dropSuffix?_eq_some_iff.2 ⟨after.toList, rfl, by simp⟩
  rw [between?, String.toList_append, String.toList_append, List.append_assoc,
    List.dropPrefix?_append_of_beq _ (beq_self_eq_true before.toList), Option.bind_some, hsuffix,
    Option.map_some, String.ofList_toList]

end Bindery
