import Mathlib.Data.Prod.Lex
import RuffleAvm1.Sort.Strategy
import RuffleAvm1.Core.Value

/-! What any comparison sort does when its comparator is a total preorder on the items: the order
it ends in is sorted, and it is told of a tie exactly when two items are tied. -/

namespace Avm1

structure TotalPreorder (c : Value → Value → Ordering) (values : List Value) : Prop where
  refl : ∀ x ∈ values, c x x = .eq
  antisymm : ∀ x ∈ values, ∀ y ∈ values, c x y = .lt ↔ c y x = .gt
  trans : ∀ x ∈ values, ∀ y ∈ values, ∀ z ∈ values, c x y ≠ .gt → c y z ≠ .gt → c x z ≠ .gt

namespace TotalPreorder

variable {c : Value → Value → Ordering} {values : List Value} (preorder : TotalPreorder c values)
  {x y z : Value} (hx : x ∈ values) (hy : y ∈ values) (hz : z ∈ values)
include preorder hx hy

theorem eq_symm (tied : c x y = .eq) : c y x = .eq := by
  cases answer : c y x
  · exact absurd ((preorder.antisymm y hy x hx).mp answer) (by rw [tied]; decide)
  · rfl
  · exact absurd ((preorder.antisymm x hx y hy).mpr answer) (by rw [tied]; decide)

include hz

theorem lt_of_lt_of_le (below : c x y = .lt) (atMost : c y z ≠ .gt) : c x z = .lt := by
  cases answer : c x z
  · rfl
  · have back := preorder.eq_symm hx hz answer
    exact absurd ((preorder.antisymm x hx y hy).mp below)
      (preorder.trans y hy z hz x hx atMost (by rw [back]; decide))
  · exact absurd answer (preorder.trans x hx y hy z hz (by rw [below]; decide) atMost)

end TotalPreorder

theorem swap_eq_iff {o o' : Ordering} : o.swap = o' ↔ o = o'.swap := by
  cases o <;> cases o' <;> decide

namespace TotalPreorder

variable {c c' : Value → Value → Ordering} {values : List Value}

theorem ofKey {β : Type} [LinearOrder β] (key : Value → β) :
    TotalPreorder (fun a b => compare (key a) (key b)) values where
  refl _ _ := compare_eq_iff_eq.mpr rfl
  antisymm _ _ _ _ := compare_lt_iff_lt.trans compare_gt_iff_gt.symm
  trans _ _ _ _ _ _ first second :=
    compare_le_iff_le.mpr ((compare_le_iff_le.mp first).trans (compare_le_iff_le.mp second))

theorem congr (agree : ∀ a ∈ values, ∀ b ∈ values, c a b = c' a b) (preorder : TotalPreorder c values) :
    TotalPreorder c' values where
  refl x hx := agree x hx x hx ▸ preorder.refl x hx
  antisymm x hx y hy := agree x hx y hy ▸ agree y hy x hx ▸ preorder.antisymm x hx y hy
  trans x hx y hy z hz := agree x hx y hy ▸ agree y hy z hz ▸ agree x hx z hz ▸ preorder.trans x hx y hy z hz

theorem comap (proj : Value → Value) (preorder : TotalPreorder c (values.map proj)) :
    TotalPreorder (fun a b => c (proj a) (proj b)) values where
  refl _ hx := preorder.refl _ (List.mem_map_of_mem proj hx)
  antisymm _ hx _ hy := preorder.antisymm _ (List.mem_map_of_mem proj hx) _ (List.mem_map_of_mem proj hy)
  trans _ hx _ hy _ hz := preorder.trans _ (List.mem_map_of_mem proj hx) _ (List.mem_map_of_mem proj hy)
    _ (List.mem_map_of_mem proj hz)

theorem not_gt_swap (preorder : TotalPreorder c values) {x y : Value} (hx : x ∈ values) (hy : y ∈ values) :
    (c x y).swap ≠ .gt ↔ c y x ≠ .gt := by
  rw [Ne, swap_eq_iff]
  exact (preorder.antisymm x hx y hy).not

theorem swap (preorder : TotalPreorder c values) : TotalPreorder (fun a b => (c a b).swap) values where
  refl x hx := by rw [preorder.refl x hx]; rfl
  antisymm x hx y hy := by
    rw [swap_eq_iff, swap_eq_iff]
    exact (preorder.antisymm y hy x hx).symm
  trans x hx y hy z hz first second := (preorder.not_gt_swap hx hz).mpr
    (preorder.trans z hz y hy x hx ((preorder.not_gt_swap hy hz).mp second)
      ((preorder.not_gt_swap hx hy).mp first))

end TotalPreorder

theorem countP_lt_countP {α : Type} {p q : α → Bool} {l : List α} (mono : ∀ x ∈ l, p x → q x)
    (extra : ∃ x ∈ l, q x ∧ ¬ p x) : l.countP p < l.countP q := by
  induction l with
  | nil => simp at extra
  | cons a rest ih =>
    simp only [List.countP_cons]
    have below := List.countP_mono_left fun y member => mono y (List.mem_cons_of_mem _ member)
    obtain ⟨x, member, yes, no⟩ := extra
    rcases List.mem_cons.mp member with rfl | later
    · rw [if_neg no, if_pos yes]; omega
    · have smaller := ih (fun y member => mono y (List.mem_cons_of_mem _ member)) ⟨x, later, yes, no⟩
      by_cases first : p a = true
      · rw [if_pos first, if_pos (mono a (List.mem_cons_self _ _) first)]; omega
      · rw [if_neg first]; split <;> omega

def rank (c : Value → Value → Ordering) (values : List Value) (x : Value) : Nat :=
  values.countP fun z => c z x = .lt

theorem TotalPreorder.rank_lt {c : Value → Value → Ordering} {values : List Value}
    (preorder : TotalPreorder c values) {x y : Value} (hx : x ∈ values) (hy : y ∈ values)
    (below : c x y = .lt) : rank c values x < rank c values y :=
  countP_lt_countP (fun z hz lower => by
      simpa using preorder.lt_of_lt_of_le hz hx hy (by simpa using lower) (by rw [below]; decide))
    ⟨x, hx, by simpa using below, by simp [preorder.refl x hx]⟩

theorem TotalPreorder.compare_rank {c : Value → Value → Ordering} {values : List Value}
    (preorder : TotalPreorder c values) {x y : Value} (hx : x ∈ values) (hy : y ∈ values) :
    compare (rank c values x : Int) (rank c values y) = c x y := by
  cases answer : c x y
  · exact compare_lt_iff_lt.mpr (by exact_mod_cast preorder.rank_lt hx hy answer)
  · refine compare_eq_iff_eq.mpr (congrArg _ (List.countP_congr fun z hz => ?_))
    have back := preorder.eq_symm hx hy answer
    constructor <;> intro lower <;> simp only [decide_eq_true_eq] at lower ⊢
    · exact preorder.lt_of_lt_of_le hz hx hy lower (by rw [answer]; decide)
    · exact preorder.lt_of_lt_of_le hz hy hx lower (by rw [back]; decide)
  · exact compare_gt_iff_gt.mpr
      (by exact_mod_cast preorder.rank_lt hy hx ((preorder.antisymm y hy x hx).mpr answer))

def Tied (c : Value → Value → Ordering) (values : List Value) : Prop :=
  ∃ i j, i ≠ j ∧ i < values.length ∧ j < values.length ∧
    c (values.getD i .undefined) (values.getD j .undefined) = .eq

theorem TotalPreorder.andThen {c c' : Value → Value → Ordering} {values : List Value}
    (preorder : TotalPreorder c values) (rest : TotalPreorder c' values) :
    TotalPreorder (fun a b => (c a b).then (c' a b)) values :=
  (TotalPreorder.ofKey fun v => toLex ((rank c values v : Int), (rank c' values v : Int))).congr fun a ha b hb => by
    simp only [Prod.Lex.compare_def, compareLex, compareOn, ofLex_toLex, preorder.compare_rank ha hb,
      rest.compare_rank ha hb]

def answerAt (c : Value → Value → Ordering) (values : List Value) (i j : Nat) : Ordering :=
  c (values.getD i .undefined) (values.getD j .undefined)

theorem getD_mem {values : List Value} {i : Nat} (inside : i < values.length) :
    values.getD i .undefined ∈ values := by
  rw [List.getD_eq_getElem?_getD, List.getElem?_eq_getElem inside]
  exact List.getElem_mem inside

theorem rel_or_rel_of_pairwise {α : Type} {R : α → α → Prop} {l : List α} (pairwise : l.Pairwise R)
    {a b : α} (ha : a ∈ l) (hb : b ∈ l) (distinct : a ≠ b) : R a b ∨ R b a := by
  induction pairwise with
  | nil => cases ha
  | @cons x rest first _ ih =>
    rcases List.mem_cons.mp ha with rfl | laterA <;> rcases List.mem_cons.mp hb with rfl | laterB
    · exact absurd rfl distinct
    · exact .inl (first b laterB)
    · exact .inr (first a laterA)
    · exact ih laterA laterB

theorem SortStrategy.asks_on_two (strategy : SortStrategy) : ∃ i j next, strategy.tree 2 = .compare i j next := by
  cases tree : strategy.tree 2 with
  | compare i j next => exact ⟨i, j, next, rfl⟩
  | done order =>
    have perm := (strategy.valid 2).result fun _ _ => .eq
    have up := strategy.sorts 2 fun k => k
    have down := strategy.sorts 2 fun k => -k
    simp only [tree, Decision.result] at perm up down
    rcases rel_or_rel_of_pairwise (up.and down) (perm.mem_iff.mpr (by decide)) (perm.mem_iff.mpr (by decide))
      (show 0 ≠ 1 by decide) with ⟨_, _⟩ | ⟨_, _⟩ <;> omega

theorem SortStrategy.result_two (strategy : SortStrategy) {answer : Nat → Nat → Ordering}
    (below : answer 0 1 = .lt) (above : answer 1 0 = .gt) : (strategy.tree 2).result answer = [0, 1] := by
  have same : (strategy.tree 2).result (fun i j => compare (i : Int) j) = (strategy.tree 2).result answer := by
    refine (Decision.result_congr _ fun question asked => ?_).1
    obtain ⟨⟨distinct, left, right⟩, answered⟩ := (strategy.valid 2).asked answer _ question asked
    rw [answered]
    rcases (by omega : question.1 = 0 ∧ question.2.1 = 1 ∨ question.1 = 1 ∧ question.2.1 = 0)
      with ⟨first, second⟩ | ⟨first, second⟩ <;> rw [first, second]
    · rw [below]; decide
    · rw [above]; decide
  have perm := (strategy.valid 2).result answer
  have sorted := same ▸ strategy.sorts 2 fun k => k
  have nodup := perm.nodup_iff.mpr (List.nodup_range 2)
  have length : ((strategy.tree 2).result answer).length = 2 := by simpa using perm.length_eq
  generalize (strategy.tree 2).result answer = order at perm sorted nodup length
  obtain ⟨a, b, rfl⟩ := List.length_eq_two.mp length
  have ha := perm.subset (List.mem_cons_self a _)
  have hb := perm.subset (List.mem_cons_of_mem a (List.mem_cons_self b _))
  simp only [List.mem_range, List.nodup_cons, List.mem_singleton, List.pairwise_cons, List.mem_cons]
    at ha hb nodup sorted
  have : a ≤ b := by exact_mod_cast sorted.1 b (.inl rfl)
  rw [show a = 0 by omega, show b = 1 by omega]

theorem compare_bumped {r s e f : Int} (he : 0 ≤ e ∧ e ≤ 1) (hf : 0 ≤ f ∧ f ≤ 1) (apart : r ≠ s) :
    compare (2 * r + e) (2 * s + f) = compare r s := by
  rcases lt_or_gt_of_ne apart with below | above
  · rw [compare_lt_iff_lt.mpr below, compare_lt_iff_lt.mpr (by omega)]
  · rw [compare_gt_iff_gt.mpr above, compare_gt_iff_gt.mpr (by omega)]

def bumpedRank (c : Value → Value → Ordering) (values : List Value) (k m : Nat) : Int :=
  2 * rank c values (values.getD m .undefined) + if m = k then 1 else 0

namespace SortStrategy

variable (strategy : SortStrategy) {c : Value → Value → Ordering} {values : List Value}
  (preorder : TotalPreorder c values)

theorem result_eq_ranked (key : Nat → Int)
    (agree : ∀ i j, i ≠ j → i < values.length → j < values.length →
      answerAt c values i j ≠ .eq → compare (key i) (key j) = answerAt c values i j)
    (noTie : ∀ question ∈ (strategy.tree values.length).asked (answerAt c values), question.2.2 ≠ .eq) :
    (strategy.tree values.length).result (fun i j => compare (key i) (key j)) =
      (strategy.tree values.length).result (answerAt c values) := by
  refine (Decision.result_congr _ fun question asked => ?_).1
  obtain ⟨⟨distinct, left, right⟩, answered⟩ :=
    (strategy.valid values.length).asked (answerAt c values) _ question asked
  rw [answered]
  exact agree _ _ distinct left right (answered ▸ noTie question asked)

include preorder

theorem compare_rank_at {i j : Nat} (left : i < values.length) (right : j < values.length) :
    compare (rank c values (values.getD i .undefined) : Int) (rank c values (values.getD j .undefined)) =
      answerAt c values i j :=
  preorder.compare_rank (getD_mem left) (getD_mem right)

theorem result_sorted :
    ((strategy.tree values.length).result (answerAt c values)).Perm (List.range values.length) ∧
      ((strategy.tree values.length).result (answerAt c values)).Pairwise
        fun i j => answerAt c values i j ≠ .gt := by
  let key k : Int := rank c values (values.getD k .undefined)
  have perm := (strategy.valid values.length).result (answerAt c values)
  have same : (strategy.tree values.length).result (fun i j => compare (key i) (key j)) =
      (strategy.tree values.length).result (answerAt c values) := by
    refine (Decision.result_congr _ fun question asked => ?_).1
    obtain ⟨⟨_, left, right⟩, answered⟩ :=
      (strategy.valid values.length).asked (answerAt c values) _ question asked
    rw [answered]
    exact compare_rank_at preorder left right
  refine ⟨perm, (same ▸ strategy.sorts values.length key).imp_of_mem fun hi hj ordered => ?_⟩
  rw [← compare_rank_at preorder (List.mem_range.mp (perm.subset (same ▸ hi)))
    (List.mem_range.mp (perm.subset (same ▸ hj)))]
  exact compare_gt_iff_gt.not.mpr (not_lt.mpr ordered)

/-- Under a total preorder a question is answered `.eq` exactly when two positions hold tied items. -/
theorem asks_tie_iff :
    (∃ question ∈ (strategy.tree values.length).asked (answerAt c values), question.2.2 = .eq) ↔
      Tied c values := by
  constructor
  · rintro ⟨question, asked, tied⟩
    obtain ⟨⟨distinct, left, right⟩, answered⟩ :=
      (strategy.valid values.length).asked (answerAt c values) _ question asked
    exact ⟨_, _, distinct, left, right, answered.symm.trans tied⟩
  · rintro ⟨i, j, distinct, left, right, tied⟩
    by_contra noTie
    push_neg at noTie
    have agree (k : Nat) : ∀ a b, a ≠ b → a < values.length → b < values.length →
        answerAt c values a b ≠ .eq →
          compare (bumpedRank c values k a) (bumpedRank c values k b) = answerAt c values a b :=
      fun a b _ ha hb apart => by
        rw [← compare_rank_at preorder ha hb] at apart ⊢
        unfold bumpedRank
        exact compare_bumped (by split <;> omega) (by split <;> omega)
          fun same => apart (compare_eq_iff_eq.mpr same)
    have perm := (strategy.valid values.length).result (answerAt c values)
    have sortedI := strategy.result_eq_ranked _ (agree i) noTie ▸ strategy.sorts _ (bumpedRank c values i)
    have sortedJ := strategy.result_eq_ranked _ (agree j) noTie ▸ strategy.sorts _ (bumpedRank c values j)
    have level : (rank c values (values.getD i .undefined) : Int) = rank c values (values.getD j .undefined) :=
      compare_eq_iff_eq.mp ((compare_rank_at preorder left right).trans tied)
    rcases rel_or_rel_of_pairwise (sortedI.and sortedJ) (perm.mem_iff.mpr (List.mem_range.mpr left))
      (perm.mem_iff.mpr (List.mem_range.mpr right)) distinct with ⟨before, _⟩ | ⟨_, before⟩
    · simp only [bumpedRank, if_neg distinct.symm, ite_true] at before; omega
    · simp only [bumpedRank, if_neg distinct, ite_true] at before; omega

end SortStrategy

end Avm1
