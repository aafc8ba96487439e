import Mathlib.Algebra.Order.Group.Multiset
import Reroll.Ranking.Merge

/-!
# Ranking keeps the elements

Whatever the comparison, ranking a list rearranges it: nothing is lost and nothing comes up twice
(`sort_perm`). Runs are cut off in front, merges take from the fronts of two runs, and where they
cut does not matter. Elements are collected in multisets, where order plays no part.
-/

namespace Reroll.Ranking

variable {α : Type} (before : α → α → Bool)

/-! ### Runs -/

theorem bisect_le (p : Nat → Bool) (lo hi : Nat) (h : lo ≤ hi) : bisect p lo hi ≤ hi := by
  induction lo, hi using bisect.induct p with
  | case1 lo hi hlt hp ih =>
    rw [bisect, if_pos hlt, if_pos hp]
    exact ih (by omega)
  | case2 lo hi hlt hp ih =>
    rw [bisect, if_pos hlt, if_neg hp]
    have := ih (by omega)
    omega
  | case3 lo hi hlt =>
    rw [bisect, if_neg hlt]
    exact h

theorem insert_perm (run : Array α) (x : α) :
    (insert before run x).toList.Perm (x :: run.toList) := by
  have hle := bisect_le (testAt run fun y => !before x y) 0 run.size (Nat.zero_le _)
  unfold insert
  rw [Array.insertIdxIfInBounds, dif_pos hle]
  simpa using List.perm_insertIdx x run.toList (by simpa using hle)

theorem foldl_insert_perm (added : List α) (run : Array α) :
    (added.foldl (insert before) run).toList.Perm (run.toList ++ added) := by
  induction added generalizing run with
  | nil => simp
  | cons x rest ih =>
    refine (ih _).trans ?_
    have h := (insert_perm before run x).append_right rest
    exact h.trans List.perm_middle.symm

theorem nextRun_perm (atLeast : Nat) (l : List α) :
    ((nextRun before atLeast l).1.toList ++ (nextRun before atLeast l).2).Perm l := by
  unfold nextRun
  generalize leadingRun before l = x
  obtain ⟨size, falls⟩ := x
  dsimp only
  set added := (l.drop size).take (atLeast - size) with hadded
  have hrun : (if falls then (l.take size).reverse else l.take size).Perm (l.take size) := by
    cases falls with
    | true => exact List.reverse_perm _
    | false => exact .refl _
  have hdrop : l.drop (size + added.length) = (l.drop size).drop (atLeast - size) := by
    rw [← List.drop_drop, hadded, List.length_take]
    by_cases h : atLeast - size ≤ (l.drop size).length
    · rw [Nat.min_eq_left h]
    · rw [Nat.min_eq_right (by omega), List.drop_length, List.drop_eq_nil_of_le (by omega)]
  have hsplit : l.take size ++ added ++ l.drop (size + added.length) = l := by
    rw [hdrop, List.append_assoc, hadded, List.take_append_drop, List.take_append_drop]
  refine List.Perm.trans ?_ (.of_eq hsplit)
  refine List.Perm.append_right _ ?_
  exact (foldl_insert_perm before added _).trans (by simpa using hrun.append_right added)

theorem runLength_ge (falling : Bool) (last : α) (count : Nat) (l : List α) :
    count ≤ runLength before falling last count l := by
  induction l generalizing last count with
  | nil => exact Nat.le_refl _
  | cons x rest ih =>
    unfold runLength
    split
    · have := ih x (count + 1)
      omega
    · exact Nat.le_refl _

/-- A run is cut off in front, so what is behind it is shorter. -/
theorem nextRun_shorter (atLeast : Nat) (x : α) (rest : List α) :
    (nextRun before atLeast (x :: rest)).2.length < (x :: rest).length := by
  have hpos : 1 ≤ (leadingRun before (x :: rest)).1 := by
    cases rest with
    | nil => exact Nat.le_refl _
    | cons y rest =>
      have := runLength_ge before (before y x) y 2 rest
      exact Nat.le_trans (by omega) this
  unfold nextRun
  generalize leadingRun before (x :: rest) = r at hpos ⊢
  obtain ⟨size, falls⟩ := r
  dsimp only at hpos ⊢
  simp only [List.length_drop, List.length_cons]
  omega

/-! ### Merges -/

namespace Merging

/-- All elements of a merge. -/
def elements (m : Merging α) : Multiset α := m.favoured + m.other + m.taken

theorem result_elements (m : Merging α) : (m.result : Multiset α) = m.elements := by
  simp only [result, elements, ← Multiset.coe_add, Multiset.coe_reverse]
  rw [add_comm (m.taken : Multiset α), add_right_comm, add_comm (m.other : Multiset α)]

theorem take_add_drop (k : Nat) (l : List α) :
    ((l.take k : List α) : Multiset α) + (l.drop k : List α) = l := by
  rw [Multiset.coe_add, List.take_append_drop]

theorem takeFavoured_elements (m : Merging α) (k : Nat) :
    (m.takeFavoured k).elements = m.elements := by
  simp only [elements, takeFavoured, ← Multiset.coe_add, Multiset.coe_reverse]
  conv_rhs => rw [← take_add_drop k m.favoured]
  ac_rfl

theorem takeOther_elements (m : Merging α) (k : Nat) : (m.takeOther k).elements = m.elements := by
  simp only [elements, takeOther, ← Multiset.coe_add, Multiset.coe_reverse]
  conv_rhs => rw [← take_add_drop k m.other]
  ac_rfl

theorem leapFavoured_elements (fromEnd : Bool) (overtakes : α → α → Bool) (m : Merging α) :
    (leapFavoured fromEnd overtakes m).1.elements = m.elements := by
  unfold leapFavoured
  split
  · rfl
  · dsimp only
    split
    · exact takeFavoured_elements _ _
    · rw [takeOther_elements, takeFavoured_elements]

theorem leapOther_elements (fromEnd : Bool) (overtakes : α → α → Bool) (m : Merging α) :
    (leapOther fromEnd overtakes m).1.elements = m.elements := by
  unfold leapOther
  split
  · rfl
  · dsimp only
    split
    · exact takeOther_elements _ _
    · rw [takeFavoured_elements, takeOther_elements]

theorem leapBoth_elements (fromEnd : Bool) (overtakes : α → α → Bool) (m : Merging α) :
    (leapBoth fromEnd overtakes m).1.elements = m.elements := by
  cases fromEnd with
  | true =>
    unfold leapBoth
    simp only [ite_true]
    split
    · exact leapOther_elements _ _ _
    · rw [leapFavoured_elements, leapOther_elements]
  | false =>
    unfold leapBoth
    simp only [Bool.false_eq_true, ite_false]
    split
    · exact leapFavoured_elements _ _ _
    · rw [leapOther_elements, leapFavoured_elements]

theorem run_elements (fromEnd : Bool) (overtakes : α → α → Bool) (fuel : Nat) (phase : Phase)
    (m : Merging α) : ((run fromEnd overtakes fuel phase m).1 : Multiset α) = m.elements := by
  induction fuel generalizing phase m with
  | zero => exact result_elements m
  | succ fuel ih =>
    unfold run
    split
    · exact result_elements m
    · split
      · split
        · rw [ih, takeOther_elements]
        · rw [ih, takeFavoured_elements]
      · have h := leapBoth_elements fromEnd overtakes m
        generalize leapBoth fromEnd overtakes m = x at h ⊢
        obtain ⟨next, long⟩ := x
        dsimp only at h ⊢
        split
        · exact (result_elements next).trans h
        · split
          · exact (ih _ _).trans h
          · exact (ih _ _).trans h

end Merging

theorem mergeForward_elements (patience : Nat) (left right : List α) :
    ((mergeForward before patience left right).1 : Multiset α) = left + right := by
  unfold mergeForward
  rw [Merging.run_elements, Merging.takeOther_elements]
  simp [Merging.elements]

theorem mergeFromEnd_elements (patience : Nat) (left right : List α) :
    ((mergeFromEnd before patience left right).1 : Multiset α) = left + right := by
  unfold mergeFromEnd
  have h := Merging.run_elements true (fun b a => before a b) (left.length + right.length)
    (.turns 0 0) ((⟨right.reverse, left.reverse, [], patience⟩ : Merging α).takeOther 1)
  generalize Merging.run true _ _ _ _ = x at h ⊢
  obtain ⟨merged, after⟩ := x
  rw [Merging.takeOther_elements] at h
  dsimp only at h ⊢
  rw [Multiset.coe_reverse, h]
  simp only [Merging.elements, Multiset.coe_reverse, Multiset.coe_nil, add_zero]
  rw [add_comm]

/-- The elements of a run that is kept as an array. -/
def ofArray (xs : Array α) : Multiset α := xs.toList

theorem ofArray_append (xs ys : Array α) : ofArray (xs ++ ys) = ofArray xs + ofArray ys := by
  simp [ofArray]

theorem toList_take (k : Nat) (xs : Array α) : (xs.take k).toList = xs.toList.take k := by
  simp [Array.take]

theorem toList_drop (k : Nat) (xs : Array α) : (xs.drop k).toList = xs.toList.drop k := by
  simp [Array.drop]

theorem mergeNeighbours_elements (patience : Nat) (left right : Array α) :
    ofArray (mergeNeighbours before patience left right).1 = ofArray left + ofArray right := by
  unfold mergeNeighbours
  split
  · next head last hhead hlast =>
    dsimp only
    generalize boundary (testAt left fun x => !before head x) left.size 0 = kept
    generalize boundary (testAt right fun x => before x last) right.size (right.size - 1) = moved
    split
    · exact ofArray_append left right
    · split
      · exact ofArray_append left right
      · -- which of the two merges runs does not matter for what it gives
        have hmerged : ((if (left.toList.drop kept).length ≤ (right.toList.take moved).length then
            mergeForward before patience (left.toList.drop kept) (right.toList.take moved)
          else mergeFromEnd before patience (left.toList.drop kept) (right.toList.take moved)).1 :
            Multiset α) =
              (left.toList.drop kept : List α) + (right.toList.take moved : List α) := by
          split
          · exact mergeForward_elements before _ _ _
          · exact mergeFromEnd_elements before _ _ _
        generalize (if (left.toList.drop kept).length ≤ (right.toList.take moved).length then
          mergeForward before patience (left.toList.drop kept) (right.toList.take moved)
          else mergeFromEnd before patience (left.toList.drop kept) (right.toList.take moved)) = x
          at hmerged ⊢
        obtain ⟨merged, after⟩ := x
        dsimp only at hmerged ⊢
        rw [ofArray_append, ofArray_append]
        simp only [ofArray, toList_take, toList_drop, hmerged]
        rw [← Merging.take_add_drop kept left.toList, ← Merging.take_add_drop moved right.toList]
        ac_rfl
  · exact ofArray_append left right

/-! ### Piles -/

/-- The elements of the runs that wait. -/
def ofRuns (runs : List (Pending α)) : Multiset α := (runs.map fun r => ofArray r.items).sum

theorem ofRuns_cons (r : Pending α) (runs : List (Pending α)) :
    ofRuns (r :: runs) = ofArray r.items + ofRuns runs := by
  simp [ofRuns]

theorem settle_elements (depth : Nat) (last : Array α) (patience : Nat)
    (runs : List (Pending α)) :
    ofRuns (settle before depth last patience runs).runs = ofArray last + ofRuns runs := by
  induction runs generalizing last patience with
  | nil => exact ofRuns_cons _ _
  | cons r rest ih =>
    unfold settle
    split
    · have h := mergeNeighbours_elements before patience r.items last
      generalize mergeNeighbours before patience r.items last = x at h ⊢
      obtain ⟨merged, after⟩ := x
      dsimp only at h ⊢
      rw [ih, h, ofRuns_cons]
      ac_rfl
    · exact ofRuns_cons _ _

theorem push_elements (size start : Nat) (run : Array α) (pile : Pile α) :
    ofRuns (pile.push before size start run).runs = ofArray run + ofRuns pile.runs := by
  unfold Pile.push
  split
  · next h =>
    rw [h]
    exact ofRuns_cons _ _
  · next top rest h =>
    dsimp only
    rw [ofRuns_cons, settle_elements, h, ofRuns_cons]

theorem collapse_elements (patience : Nat) (runs : List (Pending α)) :
    ofArray (collapse before patience runs) = ofRuns runs := by
  induction patience, runs using collapse.induct before with
  | case1 patience => rw [collapse]; rfl
  | case2 patience r => rw [collapse]; simp [ofRuns]
  | case3 patience r s =>
    rw [collapse, mergeNeighbours_elements, ofRuns_cons, ofRuns_cons, add_comm]
    simp [ofRuns]
  | case4 patience r s t rest hlt merged after hmerge ih =>
    rw [collapse, if_pos hlt, hmerge]
    have h := mergeNeighbours_elements before patience t.items s.items
    rw [hmerge] at h
    dsimp only at h ⊢
    rw [ih, ofRuns_cons, ofRuns_cons, h, ofRuns_cons, ofRuns_cons, ofRuns_cons]
    ac_rfl
  | case5 patience r s t rest hlt merged after hmerge ih =>
    rw [collapse, if_neg hlt, hmerge]
    have h := mergeNeighbours_elements before patience s.items r.items
    rw [hmerge] at h
    dsimp only at h ⊢
    rw [ih, ofRuns_cons, h, ofRuns_cons, ofRuns_cons]
    ac_rfl

theorem pileRuns_elements (atLeast size fuel start : Nat) (pile : Pile α) (l : List α)
    (enough : l.length ≤ fuel) :
    ofRuns (pileRuns before atLeast size fuel start pile l).runs =
      ofRuns pile.runs + (l : Multiset α) := by
  induction fuel generalizing start pile l with
  | zero =>
    obtain rfl := List.length_eq_zero_iff.mp (Nat.le_zero.mp enough)
    simp [pileRuns]
  | succ fuel ih =>
    cases l with
    | nil => simp [pileRuns]
    | cons x rest =>
      have hperm := nextRun_perm before atLeast (x :: rest)
      have hshorter := nextRun_shorter before atLeast x rest
      unfold pileRuns
      generalize nextRun before atLeast (x :: rest) = y at hperm hshorter ⊢
      obtain ⟨run, behind⟩ := y
      dsimp only at hperm hshorter ⊢
      rw [ih _ _ _ (by omega), push_elements, ← Multiset.coe_eq_coe.mpr hperm, ← Multiset.coe_add]
      simp only [ofArray]
      ac_rfl

/-- Ranking rearranges a list. -/
theorem sort_perm (l : List α) : (sort before l).Perm l := by
  have h := pileRuns_elements before (shortestRun l.length 0) l.length l.length 0 {} l
    (Nat.le_refl _)
  have hsort : ofArray (sort before l).toArray = (l : Multiset α) := by
    unfold sort
    rw [Array.toArray_toList, collapse_elements, h]
    simp [ofRuns]
  exact Multiset.coe_eq_coe.mp (by simpa [ofArray] using hsort)

end Reroll.Ranking
