import Bindery.Distinct
import Mathlib.Data.List.Sort

/-!
# The order of first occurrences

A list without its repetitions follows the order in which its elements occur first. That
order and the elements leave one list only. What is put behind a list adds to the end of
it, and a filter may come before or after.
-/

namespace Bindery

variable {α : Type} [DecidableEq α] {source l m : List α}

/-- The list has its elements in the order in which they occur first in the source. -/
def FollowsFirst (source l : List α) : Prop :=
  l.Pairwise fun a b => source.idxOf a < source.idxOf b

/-- Lists of the same elements in the order of one source are the same. -/
theorem FollowsFirst.eq_of_mem_iff (hl : FollowsFirst source l) (hm : FollowsFirst source m)
    (h : ∀ a, a ∈ l ↔ a ∈ m) : l = m := by
  have : Std.Irrefl fun a b : α => source.idxOf a < source.idxOf b :=
    ⟨fun _ => Nat.lt_irrefl _⟩
  have : Std.Antisymm fun a b : α => source.idxOf a < source.idxOf b :=
    ⟨fun _ _ hab hba => absurd hba (Nat.lt_asymm hab)⟩
  exact List.Pairwise.eq_of_mem_iff hl hm h

theorem followsFirst_distinct (l : List α) : FollowsFirst l (distinct l) := by
  induction l with
  | nil => exact .nil
  | cons a rest ih =>
      rw [distinct, FollowsFirst, List.pairwise_cons]
      constructor
      · intro b hb
        have hne : a ≠ b := fun heq => by simp [heq] at hb
        rw [List.idxOf_cons_self, List.idxOf_cons_ne rest hne]
        exact Nat.succ_pos _
      · -- what is left has no `a`, so that every place moves by one
        refine List.Pairwise.imp_of_mem ?_ (ih.filter _)
        intro b c hb hc hlt
        have hab : a ≠ b := fun heq => by simp [heq] at hb
        have hac : a ≠ c := fun heq => by simp [heq] at hc
        rw [List.idxOf_cons_ne rest hab, List.idxOf_cons_ne rest hac]
        exact Nat.succ_lt_succ hlt

theorem distinct_eq_nil : distinct l = [] ↔ l = [] := by
  cases l <;> simp [distinct]

theorem distinct_of_nodup (h : l.Nodup) : distinct l = l := by
  induction l with
  | nil => rfl
  | cons a rest ih =>
      rw [List.nodup_cons] at h
      rw [distinct, ih h.2, List.filter_eq_self.2]
      intro b hb
      simp only [ne_eq, decide_eq_true_eq]
      intro heq
      exact h.1 (heq ▸ hb)

theorem distinct_filter (p : α → Bool) (l : List α) :
    distinct (l.filter p) = (distinct l).filter p := by
  induction l with
  | nil => rfl
  | cons a rest ih =>
      cases hp : p a with
      | true =>
          rw [List.filter_cons_of_pos hp, distinct, distinct, List.filter_cons_of_pos hp, ih,
            List.filter_comm]
      | false =>
          have hgone : ((distinct rest).filter p).filter (· ≠ a) = (distinct rest).filter p := by
            rw [List.filter_eq_self]
            intro b hb
            have hb := (List.mem_filter.1 hb).2
            simp only [ne_eq, decide_eq_true_eq]
            rintro rfl
            rw [hp] at hb
            cases hb
          have hnot : ¬ p a = true := by simp [hp]
          rw [List.filter_cons_of_neg hnot, distinct, List.filter_cons_of_neg hnot, ih,
            List.filter_comm, hgone]

theorem distinct_append (l m : List α) :
    distinct (l ++ m) = distinct l ++ (distinct m).filter (· ∉ l) := by
  induction l with
  | nil => simp [distinct]
  | cons a rest ih =>
      rw [List.cons_append, distinct, ih, distinct, List.filter_append, List.filter_filter,
        List.cons_append]
      congr 3
      funext b
      simp [not_or]

theorem distinct_prefix_append (l m : List α) : distinct l <+: distinct (l ++ m) := by
  rw [distinct_append]
  exact List.prefix_append _ _

theorem filter_distinct_cons_of_mem {a : α} (ha : a ∈ l) (m : List α) :
    (distinct (a :: m)).filter (· ∉ l) = (distinct m).filter (· ∉ l) := by
  rw [distinct, List.filter_cons_of_neg (by simpa using ha), List.filter_filter]
  congr 1
  funext b
  by_cases hb : b = a
  · simp [hb, ha]
  · simp [hb]

theorem filter_distinct_cons_of_not_mem {a : α} (ha : a ∉ l) (m : List α) :
    (distinct (a :: m)).filter (· ∉ l) = a :: (distinct m).filter (· ∉ l ++ [a]) := by
  rw [distinct, List.filter_cons_of_pos (by simpa using ha), List.filter_filter]
  congr 2
  funext b
  simp [not_or]

/-- What has occurred before adds nothing. -/
theorem distinct_repeat {a : α} (ha : a ∈ l) (m : List α) :
    distinct (l ++ a :: m) = distinct (l ++ m) := by
  rw [distinct_append, distinct_append, filter_distinct_cons_of_mem ha]

end Bindery
