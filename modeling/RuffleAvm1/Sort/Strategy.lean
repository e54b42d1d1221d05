import Mathlib.Data.List.Sort
import Mathlib.Data.List.Perm.Basic

/-! `sort_unstable_by` as the model sees it. The std sort is not part of the repository, so it is
taken as any comparison sort: a decision tree over the positions of its input, which asks how the
items at two positions compare and ends in the order of the positions it writes back. -/

namespace Avm1

inductive Decision where
  | done (order : List Nat)
  | compare (i j : Nat) (next : Ordering → Decision)

namespace Decision

def bind : Decision → (List Nat → Decision) → Decision
  | done order, k => k order
  | compare i j next, k => compare i j fun answer => (next answer).bind k

/-- The run against a comparator that may panic (`none`): the leaf reached and the questions asked. -/
def run : Decision → (Nat → Nat → Option Ordering) → Option (List Nat × List (Nat × Nat × Ordering))
  | done order, _ => some (order, [])
  | compare i j next, answer =>
    (answer i j).bind fun a => (run (next a) answer).map fun (order, asked) => (order, (i, j, a) :: asked)

def result : Decision → (Nat → Nat → Ordering) → List Nat
  | done order, _ => order
  | compare i j next, answer => result (next (answer i j)) answer

def asked : Decision → (Nat → Nat → Ordering) → List (Nat × Nat × Ordering)
  | done _, _ => []
  | compare i j next, answer => (i, j, answer i j) :: asked (next (answer i j)) answer

def All (ask : Nat → Nat → Prop) (leaf : List Nat → Prop) : Decision → Prop
  | done order => leaf order
  | compare i j next => ask i j ∧ ∀ answer, (next answer).All ask leaf

@[simp] theorem result_bind (tree : Decision) (k : List Nat → Decision) (answer : Nat → Nat → Ordering) :
    (tree.bind k).result answer = (k (tree.result answer)).result answer := by
  induction tree with
  | done => rfl
  | compare i j next ih => exact ih _

theorem All.bind {ask : Nat → Nat → Prop} {leaf leaf' : List Nat → Prop} {k : List Nat → Decision}
    (continues : ∀ order, leaf order → (k order).All ask leaf') :
    ∀ tree : Decision, tree.All ask leaf → (tree.bind k).All ask leaf'
  | done order, ends => continues order ends
  | compare _ _ next, ⟨asks, later⟩ => ⟨asks, fun answer => All.bind continues (next answer) (later answer)⟩

theorem All.imp {ask ask' : Nat → Nat → Prop} {leaf leaf' : List Nat → Prop}
    (asks : ∀ i j, ask i j → ask' i j) (ends : ∀ order, leaf order → leaf' order) :
    ∀ tree : Decision, tree.All ask leaf → tree.All ask' leaf'
  | done order, ended => ends order ended
  | compare i j next, ⟨first, later⟩ => ⟨asks i j first, fun answer => All.imp asks ends (next answer) (later answer)⟩

theorem All.result {ask : Nat → Nat → Prop} {leaf : List Nat → Prop} (answer : Nat → Nat → Ordering) :
    ∀ tree : Decision, tree.All ask leaf → leaf (tree.result answer)
  | done _, ended => ended
  | compare i j next, ⟨_, later⟩ => All.result answer (next (answer i j)) (later _)

theorem All.asked {ask : Nat → Nat → Prop} {leaf : List Nat → Prop} (answer : Nat → Nat → Ordering) :
    ∀ tree : Decision, tree.All ask leaf → ∀ question ∈ tree.asked answer,
      ask question.1 question.2.1 ∧ question.2.2 = answer question.1 question.2.1
  | done _, _ => by simp [Decision.asked]
  | compare i j next, ⟨first, later⟩ => by
    simp only [Decision.asked, List.mem_cons, forall_eq_or_imp]
    exact ⟨⟨first, trivial⟩, All.asked answer (next (answer i j)) (later _)⟩

theorem run_of_agree {ask : Nat → Nat → Prop} {leaf : List Nat → Prop} {answer : Nat → Nat → Option Ordering}
    {answer' : Nat → Nat → Ordering} (agree : ∀ i j, ask i j → answer i j = some (answer' i j)) :
    ∀ tree : Decision, tree.All ask leaf → tree.run answer = some (tree.result answer', tree.asked answer')
  | done _, _ => rfl
  | compare i j next, ⟨first, later⟩ => by
    simp only [run, agree i j first, Option.some_bind, run_of_agree agree (next _) (later _), Option.map_some',
      result, asked]

theorem result_congr {answer answer' : Nat → Nat → Ordering} :
    ∀ tree : Decision, (∀ question ∈ tree.asked answer, answer' question.1 question.2.1 = question.2.2) →
      tree.result answer' = tree.result answer ∧ tree.asked answer' = tree.asked answer
  | done _, _ => ⟨rfl, rfl⟩
  | compare i j next, agree => by
    simp only [Decision.asked, List.mem_cons, forall_eq_or_imp] at agree
    simp only [Decision.result, Decision.asked, agree.1]
    obtain ⟨same, sameAsked⟩ := result_congr (next (answer i j)) agree.2
    exact ⟨same, by rw [sameAsked]⟩

end Decision

/-- A comparison sort: a decision tree per length that sorts whenever the answers come from integer keys. -/
structure SortStrategy where
  tree : Nat → Decision
  valid : ∀ n, (tree n).All (fun i j => i ≠ j ∧ i < n ∧ j < n) (fun order => order.Perm (List.range n))
  sorts : ∀ n (key : Nat → Int),
    ((tree n).result fun i j => compare (key i) (key j)).Pairwise fun i j => key i ≤ key j

/-! Insertion sort that puts each item before the first one not below it: it shows the assumptions
can be met. -/

def insertTree (x : Nat) : List Nat → Decision
  | [] => .done [x]
  | y :: rest => .compare x y fun
    | .gt => (insertTree x rest).bind fun placed => .done (y :: placed)
    | _ => .done (x :: y :: rest)

def insertionTree : List Nat → List Nat → Decision
  | sorted, [] => .done sorted
  | sorted, x :: todo => (insertTree x sorted).bind fun sorted => insertionTree sorted todo

theorem insertTree_all (x : Nat) :
    ∀ sorted : List Nat, (insertTree x sorted).All (fun i j => i = x ∧ j ∈ sorted)
      (fun order => order.Perm (x :: sorted))
  | [] => List.Perm.refl _
  | y :: rest => by
    refine ⟨⟨rfl, List.mem_cons_self _ _⟩, fun answer => ?_⟩
    rcases answer with _ | _ | _
    · exact List.Perm.refl _
    · exact List.Perm.refl _
    · exact Decision.All.bind (fun placed perm => (perm.cons y).trans (List.Perm.swap x y rest)) _
        ((insertTree_all x rest).imp (fun _ _ ⟨same, member⟩ => ⟨same, List.mem_cons_of_mem _ member⟩)
          fun _ perm => perm)

theorem insertionTree_all : ∀ (todo sorted : List Nat), (sorted ++ todo).Nodup →
    (insertionTree sorted todo).All (fun i j => i ≠ j ∧ i ∈ sorted ++ todo ∧ j ∈ sorted ++ todo)
      (fun order => order.Perm (sorted ++ todo))
  | [], sorted, _ => by simp [insertionTree, Decision.All]
  | x :: todo, sorted, nodup => by
    have fresh : x ∉ sorted := fun member =>
      (List.nodup_cons.mp (List.nodup_middle.mp nodup)).1 (List.mem_append_left _ member)
    refine Decision.All.bind (fun placed perm => ?_) _
      ((insertTree_all x sorted).imp (fun i j ⟨same, member⟩ => ?_) fun _ perm => perm)
    · have arranged : (placed ++ todo).Perm (sorted ++ x :: todo) :=
        (perm.append_right todo).trans List.perm_middle.symm
      exact (insertionTree_all todo placed (arranged.nodup_iff.mpr nodup)).imp
        (fun i j ⟨distinct, left, right⟩ => ⟨distinct, arranged.subset left, arranged.subset right⟩)
        fun _ order => order.trans arranged
    · subst same
      exact ⟨fun same => fresh (same ▸ member), List.mem_append_right _ (List.mem_cons_self _ _),
        List.mem_append_left _ member⟩

section Sorting

variable (key : Nat → Int)

theorem result_insertTree (x : Nat) : ∀ sorted : List Nat,
    (insertTree x sorted).result (fun i j => compare (key i) (key j)) =
      sorted.orderedInsert (fun i j => key i ≤ key j) x
  | [] => rfl
  | y :: rest => by
    by_cases before : key x ≤ key y
    · have answer : compare (key x) (key y) ≠ .gt := by simpa [compare_gt_iff_gt] using before
      simp only [insertTree, Decision.result, List.orderedInsert, before, ite_true, answer]
    · have answer : compare (key x) (key y) = .gt := compare_gt_iff_gt.mpr (lt_of_not_le before)
      simp [insertTree, Decision.result, answer, before, result_insertTree x rest]

theorem result_insertionTree : ∀ todo sorted : List Nat,
    (insertionTree sorted todo).result (fun i j => compare (key i) (key j)) =
      todo.foldl (fun sorted x => sorted.orderedInsert (fun i j => key i ≤ key j) x) sorted
  | [], _ => rfl
  | x :: todo, sorted => by
    simp [insertionTree, result_insertTree, result_insertionTree todo]

theorem sorted_foldl_orderedInsert : ∀ (todo sorted : List Nat), sorted.Sorted (fun i j => key i ≤ key j) →
    (todo.foldl (fun sorted x => sorted.orderedInsert (fun i j => key i ≤ key j) x) sorted).Sorted
      (fun i j => key i ≤ key j)
  | [], _, ordered => ordered
  | x :: todo, sorted, ordered => by
    haveI : IsTotal Nat (fun i j => key i ≤ key j) := ⟨fun i j => le_total (key i) (key j)⟩
    haveI : IsTrans Nat (fun i j => key i ≤ key j) := ⟨fun _ _ _ => le_trans⟩
    exact sorted_foldl_orderedInsert todo _ (ordered.orderedInsert x sorted)

end Sorting

def insertionStrategy : SortStrategy where
  tree n := insertionTree [] (List.range n)
  valid n := (insertionTree_all (List.range n) [] (List.nodup_range n)).imp
    (fun _ _ ⟨distinct, left, right⟩ => ⟨distinct, List.mem_range.mp left, List.mem_range.mp right⟩)
    fun _ order => order
  sorts n key := by
    rw [result_insertionTree]
    exact sorted_foldl_orderedInsert key _ _ List.sorted_nil

end Avm1
