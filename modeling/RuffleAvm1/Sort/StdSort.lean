import Mathlib.Data.List.Chain
import RuffleAvm1.Sort.Strategy

/-! The first pass of std's `sort_unstable_by` (`core::slice::sort::quicksort`) as a `SortStrategy`.
Up to 20 items it is `insertion_sort`. A longer slice goes through `choose_pivot`, which reverses
the slice when its twelve index swaps call it descending, and then, when the slice looks sorted,
through the first scan of `partial_insertion_sort`, which ends the sort if no item is less than the
one before it. Where the quicksort would go on to partition, the model finishes with
`insertion_sort`, so it is std's sort on every input the first pass sorts. -/

namespace Avm1

namespace StdSort

/-- `shift_tail`: `tmp` moves left past every item it is less than. -/
def shiftTail (tmp : Nat) (moved : List Nat) : List Nat → Decision
  | [] => .done (tmp :: moved)
  | y :: rest => .compare tmp y fun
    | .lt => shiftTail tmp (y :: moved) rest
    | _ => .done (rest.reverse ++ y :: tmp :: moved)

def insertionSort (sorted : List Nat) : List Nat → Decision
  | [] => .done sorted
  | x :: todo => (shiftTail x [] sorted.reverse).bind fun sorted => insertionSort sorted todo

def sort2 (v : List Nat) (a b swaps : Nat) (k : Nat → Nat → Nat → Decision) : Decision :=
  .compare (v.getD b 0) (v.getD a 0) fun
    | .lt => k b a (swaps + 1)
    | _ => k a b swaps

def sort3 (v : List Nat) (a b c swaps : Nat) (k : Nat → Nat → Nat → Nat → Decision) : Decision :=
  sort2 v a b swaps fun a b swaps =>
    sort2 v b c swaps fun b c swaps =>
      sort2 v a b swaps fun a b swaps => k a b c swaps

def sortAdjacent (v : List Nat) (a swaps : Nat) (k : Nat → Nat → Decision) : Decision :=
  sort3 v (a - 1) a (a + 1) swaps fun _ a _ swaps => k a swaps

/-- `choose_pivot` without the pivot: the slice, reversed after twelve swaps, and whether it looks sorted. -/
def choosePivot (v : List Nat) (k : List Nat → Bool → Decision) : Decision :=
  let len := v.length
  let finish swaps := if swaps < 12 then k v (swaps == 0) else k v.reverse true
  if len < 8 then finish 0
  else if len < 50 then sort3 v (len / 4) (len / 4 * 2) (len / 4 * 3) 0 fun _ _ _ => finish
  else
    sortAdjacent v (len / 4) 0 fun a swaps =>
      sortAdjacent v (len / 4 * 2) swaps fun b swaps =>
        sortAdjacent v (len / 4 * 3) swaps fun c swaps =>
          sort3 v a b c swaps fun _ _ _ => finish

def scanSorted (k : Bool → Decision) : List Nat → Decision
  | x :: y :: rest => .compare y x fun
    | .lt => k false
    | _ => scanSorted k (y :: rest)
  | _ => k true

def tree (n : Nat) : Decision :=
  if n ≤ 20 then insertionSort [] (List.range n)
  else choosePivot (List.range n) fun v likelySorted =>
    if likelySorted then scanSorted (fun sorted => if sorted then .done v else insertionSort [] v) v
    else insertionSort [] v

/-! Every question is about two distinct positions, and every leaf is a permutation. -/

def Asks (n i j : Nat) : Prop := i ≠ j ∧ i < n ∧ j < n

theorem shiftTail_all (tmp : Nat) : ∀ rest moved : List Nat,
    (shiftTail tmp moved rest).All (fun i j => i = tmp ∧ j ∈ rest)
      (fun order => order.Perm (rest.reverse ++ tmp :: moved))
  | [], _ => List.Perm.refl _
  | y :: rest, moved => by
    refine ⟨⟨rfl, List.mem_cons_self _ _⟩, fun answer => ?_⟩
    rcases answer with _ | _ | _
    · refine (shiftTail_all tmp rest (y :: moved)).imp
        (fun _ _ ⟨same, member⟩ => ⟨same, List.mem_cons_of_mem _ member⟩) fun _ perm => ?_
      simpa using perm.trans ((List.Perm.swap y tmp moved).append_left rest.reverse)
    all_goals exact List.Perm.of_eq (by simp)

theorem insertionSort_all : ∀ (todo sorted : List Nat), (sorted ++ todo).Nodup →
    (insertionSort sorted todo).All (fun i j => i ≠ j ∧ i ∈ sorted ++ todo ∧ j ∈ sorted ++ todo)
      (fun order => order.Perm (sorted ++ todo))
  | [], sorted, _ => by simp [insertionSort, Decision.All]
  | x :: todo, sorted, nodup => by
    have fresh : x ∉ sorted := fun member =>
      (List.nodup_cons.mp (List.nodup_middle.mp nodup)).1 (List.mem_append_left _ member)
    refine Decision.All.bind (fun placed perm => ?_) _
      ((shiftTail_all x sorted.reverse []).imp (fun i j ⟨same, member⟩ => ?_) fun _ perm => perm)
    · have arranged : (placed ++ todo).Perm (sorted ++ x :: todo) := by
        simpa using perm.append_right todo
      exact (insertionSort_all todo placed (arranged.nodup_iff.mpr nodup)).imp
        (fun i j ⟨distinct, left, right⟩ => ⟨distinct, arranged.subset left, arranged.subset right⟩)
        fun _ order => order.trans arranged
    · rw [List.mem_reverse] at member
      subst same
      exact ⟨fun same => fresh (same ▸ member), List.mem_append_right _ (List.mem_cons_self _ _),
        List.mem_append_left _ member⟩

section Pivot

variable {n : Nat} {leaf : List Nat → Prop}

theorem getD_range {i : Nat} (inside : i < n) : (List.range n).getD i 0 = i := by
  simp [inside]

theorem sort2_all {a b swaps : Nat} {k : Nat → Nat → Nat → Decision} (distinct : a ≠ b) (ha : a < n)
    (hb : b < n) (next : ∀ swaps, (k a b swaps).All (Asks n) leaf ∧ (k b a swaps).All (Asks n) leaf) :
    (sort2 (List.range n) a b swaps k).All (Asks n) leaf := by
  refine ⟨by rw [getD_range ha, getD_range hb]; exact ⟨distinct.symm, hb, ha⟩, fun answer => ?_⟩
  rcases answer with _ | _ | _
  exacts [(next _).2, (next _).1, (next _).1]

theorem sort3_all {a b c swaps : Nat} {k : Nat → Nat → Nat → Nat → Decision} (hab : a ≠ b) (hbc : b ≠ c)
    (hac : a ≠ c) (ha : a < n) (hb : b < n) (hc : c < n)
    (next : ∀ a' b' c' swaps, a' ≠ b' → b' ≠ c' → a' ≠ c' → (a' = a ∨ a' = b ∨ a' = c) →
      (b' = a ∨ b' = b ∨ b' = c) → (c' = a ∨ c' = b ∨ c' = c) → (k a' b' c' swaps).All (Asks n) leaf) :
    (sort3 (List.range n) a b c swaps k).All (Asks n) leaf := by
  unfold sort3
  refine sort2_all hab ha hb fun _ => ⟨?_, ?_⟩ <;>
    refine sort2_all (by omega) (by omega) hc fun _ => ⟨?_, ?_⟩ <;>
    refine sort2_all (by omega) (by omega) (by omega) fun _ => ⟨?_, ?_⟩ <;>
    exact next _ _ _ _ (by omega) (by omega) (by omega) (by omega) (by omega) (by omega)

theorem sortAdjacent_all {a swaps : Nat} {k : Nat → Nat → Decision} (low : 1 ≤ a) (high : a + 1 < n)
    (next : ∀ a' swaps, a - 1 ≤ a' → a' ≤ a + 1 → (k a' swaps).All (Asks n) leaf) :
    (sortAdjacent (List.range n) a swaps k).All (Asks n) leaf :=
  sort3_all (by omega) (by omega) (by omega) (by omega) (by omega) high
    fun _ a' _ swaps _ _ _ _ among _ => next a' swaps (by omega) (by omega)

theorem choosePivot_all {k : List Nat → Bool → Decision}
    (next : ∀ likelySorted, (k (List.range n) likelySorted).All (Asks n) leaf ∧
      (k (List.range n).reverse likelySorted).All (Asks n) leaf) :
    (choosePivot (List.range n) k).All (Asks n) leaf := by
  have finish : ∀ swaps : Nat, (if swaps < 12 then k (List.range n) (swaps == 0)
      else k (List.range n).reverse true).All (Asks n) leaf := fun swaps => by
    split
    exacts [(next _).1, (next _).2]
  unfold choosePivot
  simp only [List.length_range]
  by_cases short : n < 8
  · rw [if_pos short]; exact finish 0
  rw [if_neg short]
  by_cases medium : n < 50
  · rw [if_pos medium]
    exact sort3_all (by omega) (by omega) (by omega) (by omega) (by omega) (by omega)
      fun _ _ _ swaps _ _ _ _ _ _ => finish swaps
  · rw [if_neg medium]
    refine sortAdjacent_all (by omega) (by omega) fun a swaps a1 a2 => ?_
    refine sortAdjacent_all (by omega) (by omega) fun b swaps b1 b2 => ?_
    refine sortAdjacent_all (by omega) (by omega) fun c swaps c1 c2 => ?_
    exact sort3_all (by omega) (by omega) (by omega) (by omega) (by omega) (by omega)
      fun _ _ _ swaps _ _ _ _ _ _ => finish swaps

end Pivot

theorem scanSorted_all {ask : Nat → Nat → Prop} {leaf : List Nat → Prop} {k : Bool → Decision}
    (next : ∀ sorted, (k sorted).All ask leaf) :
    ∀ v : List Nat, v.Nodup → (∀ i j, i ≠ j → i ∈ v → j ∈ v → ask i j) → (scanSorted k v).All ask leaf
  | x :: y :: rest, nodup, asks => by
    have distinct : y ≠ x := fun same => (List.nodup_cons.mp nodup).1 (same ▸ List.mem_cons_self _ _)
    refine ⟨asks y x distinct (by simp) (by simp), fun answer => ?_⟩
    have later := scanSorted_all next (y :: rest) nodup.of_cons
      fun i j ne left right => asks i j ne (List.mem_cons_of_mem _ left) (List.mem_cons_of_mem _ right)
    rcases answer with _ | _ | _
    exacts [next false, later, later]
  | [], _, _ | [_], _, _ => next true

theorem tree_all (n : Nat) : (tree n).All (Asks n) (fun order => order.Perm (List.range n)) := by
  have sorting : ∀ v : List Nat, v.Perm (List.range n) →
      (insertionSort [] v).All (Asks n) (fun order => order.Perm (List.range n)) := fun v perm =>
    (insertionSort_all v [] (perm.nodup_iff.mpr (List.nodup_range n))).imp
      (fun i j ⟨distinct, left, right⟩ => ⟨distinct, by simpa using perm.subset left, by simpa using perm.subset right⟩)
      fun _ order => order.trans perm
  have branch : ∀ v : List Nat, v.Perm (List.range n) → ∀ likelySorted : Bool,
      (if likelySorted then scanSorted (fun sorted => if sorted then .done v else insertionSort [] v) v
        else insertionSort [] v).All (Asks n) (fun order => order.Perm (List.range n)) := fun v perm likelySorted => by
    split
    · refine scanSorted_all (fun sorted => ?_) v (perm.nodup_iff.mpr (List.nodup_range n))
        fun i j distinct left right => ⟨distinct, by simpa using perm.subset left, by simpa using perm.subset right⟩
      split
      exacts [perm, sorting v perm]
    · exact sorting v perm
  unfold tree
  split
  · exact sorting _ (List.Perm.refl _)
  · exact choosePivot_all fun likelySorted =>
      ⟨branch _ (List.Perm.refl _) likelySorted, branch _ (List.reverse_perm _) likelySorted⟩

/-! With the answers of integer keys, every leaf the run reaches is in order. -/

section Sorting

variable (key : Nat → Int)

theorem shiftTail_sorted (tmp : Nat) : ∀ rest moved : List Nat,
    (rest.reverse ++ moved).Pairwise (fun i j => key i ≤ key j) → (∀ m ∈ moved, key tmp < key m) →
      ((shiftTail tmp moved rest).result fun i j => compare (key i) (key j)).Pairwise fun i j => key i ≤ key j
  | [], moved, sorted, above => by
    simp only [shiftTail, Decision.result]
    exact List.pairwise_cons.mpr ⟨fun m member => (above m member).le, by simpa using sorted⟩
  | y :: rest, moved, sorted, above => by
    by_cases less : key tmp < key y
    · simp only [shiftTail, Decision.result, compare_lt_iff_lt.mpr less]
      exact shiftTail_sorted tmp rest (y :: moved) (by simpa using sorted) (List.forall_mem_cons.mpr ⟨less, above⟩)
    · have answer : compare (key tmp) (key y) ≠ .lt := fun lt => less (compare_lt_iff_lt.mp lt)
      have after : key y ≤ key tmp := not_lt.mp less
      simp only [List.reverse_cons, List.append_assoc, List.singleton_append, List.pairwise_append,
        List.pairwise_cons, List.mem_cons, forall_eq_or_imp] at sorted
      obtain ⟨front, ⟨first, rest'⟩, below⟩ := sorted
      simp only [shiftTail, Decision.result, answer, List.pairwise_append, List.pairwise_cons, List.mem_cons,
        forall_eq_or_imp]
      exact ⟨front, ⟨⟨after, first⟩, fun m member => (above m member).le, rest'⟩,
        fun i member => ⟨(below i member).1, ((below i member).1).trans after, (below i member).2⟩⟩

theorem insertionSort_sorted : ∀ todo sorted : List Nat, sorted.Pairwise (fun i j => key i ≤ key j) →
    ((insertionSort sorted todo).result fun i j => compare (key i) (key j)).Pairwise fun i j => key i ≤ key j
  | [], _, sorted => sorted
  | x :: todo, sorted, ordered => by
    rw [insertionSort, Decision.result_bind]
    exact insertionSort_sorted todo _ (shiftTail_sorted key x sorted.reverse [] (by simpa using ordered) (by simp))

theorem scanSorted_result (k : Bool → Decision) : ∀ v : List Nat, ∃ inOrder : Bool,
    (inOrder = true → v.Chain' fun i j => key i ≤ key j) ∧
      (scanSorted k v).result (fun i j => compare (key i) (key j)) = (k inOrder).result fun i j => compare (key i) (key j)
  | x :: y :: rest => by
    by_cases less : key y < key x
    · exact ⟨false, nofun, by simp [scanSorted, Decision.result, compare_lt_iff_lt.mpr less]⟩
    · obtain ⟨inOrder, chain, result⟩ := scanSorted_result k (y :: rest)
      have answer : compare (key y) (key x) ≠ .lt := fun lt => less (compare_lt_iff_lt.mp lt)
      refine ⟨inOrder, fun ok => List.chain'_cons.mpr ⟨not_lt.mp less, chain ok⟩, ?_⟩
      simp only [scanSorted, Decision.result, answer]
      exact result
  | [] => ⟨true, fun _ => List.chain'_nil, rfl⟩
  | [_] => ⟨true, fun _ => List.chain'_singleton _, rfl⟩

end Sorting

section Results

variable (answer : Nat → Nat → Ordering) {P : List Nat → Prop} {v : List Nat}

theorem sort2_result {a b swaps : Nat} {k : Nat → Nat → Nat → Decision}
    (next : ∀ a b swaps, P ((k a b swaps).result answer)) : P ((sort2 v a b swaps k).result answer) := by
  simp only [sort2, Decision.result]
  split <;> exact next _ _ _

theorem sort3_result {a b c swaps : Nat} {k : Nat → Nat → Nat → Nat → Decision}
    (next : ∀ a b c swaps, P ((k a b c swaps).result answer)) : P ((sort3 v a b c swaps k).result answer) :=
  sort2_result answer fun _ _ _ => sort2_result answer fun _ _ _ => sort2_result answer fun _ _ _ => next _ _ _ _

theorem sortAdjacent_result {a swaps : Nat} {k : Nat → Nat → Decision}
    (next : ∀ a swaps, P ((k a swaps).result answer)) : P ((sortAdjacent v a swaps k).result answer) :=
  sort3_result answer fun _ _ _ _ => next _ _

theorem choosePivot_result {k : List Nat → Bool → Decision}
    (next : ∀ v' likelySorted, P ((k v' likelySorted).result answer)) : P ((choosePivot v k).result answer) := by
  have finish : ∀ swaps : Nat,
      P ((if swaps < 12 then k v (swaps == 0) else k v.reverse true).result answer) := fun swaps => by
    split <;> exact next _ _
  unfold choosePivot
  dsimp only
  by_cases short : v.length < 8
  · rw [if_pos short]; exact finish 0
  rw [if_neg short]
  by_cases medium : v.length < 50
  · rw [if_pos medium]; exact sort3_result answer fun _ _ _ => finish
  · rw [if_neg medium]
    exact sortAdjacent_result answer fun _ _ => sortAdjacent_result answer fun _ _ =>
      sortAdjacent_result answer fun _ _ => sort3_result answer fun _ _ _ => finish

end Results

theorem tree_sorted (n : Nat) (key : Nat → Int) :
    ((tree n).result fun i j => compare (key i) (key j)).Pairwise fun i j => key i ≤ key j := by
  haveI : IsTrans Nat (fun i j => key i ≤ key j) := ⟨fun _ _ _ => le_trans⟩
  unfold tree
  split
  · exact insertionSort_sorted key _ [] List.Pairwise.nil
  · refine choosePivot_result _ fun v likelySorted => ?_
    split
    · obtain ⟨inOrder, chain, result⟩ := scanSorted_result key (fun sorted => if sorted then .done v else insertionSort [] v) v
      rw [result]
      split
      · exact List.chain'_iff_pairwise.mp (chain ‹_›)
      · exact insertionSort_sorted key _ [] List.Pairwise.nil
    · exact insertionSort_sorted key _ [] List.Pairwise.nil

end StdSort

/-- std's `sort_unstable_by`, as far as its first pass. -/
def stdStrategy : SortStrategy where
  tree := StdSort.tree
  valid n := StdSort.tree_all n
  sorts := StdSort.tree_sorted

end Avm1
