import Mathlib.Data.Bool.Basic
import Mathlib.Data.List.DropRight
import Mathlib.Data.List.Infix
import Reroll.Text.Search
import Reroll.Text.Space

/-!
# Squeezing and stripping

Squeezed text has no two blanks in a row and stripped text none at its ends. A text that is like
that already stays as it is.
-/

namespace Reroll.Text

variable {p : Char → Bool} {c by' : Char} {cs : List Char} {inRun : Bool}

/-! ### Squeezing -/

/-- Two characters in a row are at the start or later on. -/
theorem doubled_cons {d : Char} :
    [c, c] <:+: d :: cs ↔ (d = c ∧ cs.head? = some c) ∨ [c, c] <:+: cs := by
  rw [List.infix_cons_iff, List.cons_prefix_cons, eq_comm]
  refine or_congr_left (and_congr_right fun _ => ?_)
  cases cs with
  | nil => simp
  | cons d cs => simp [eq_comm]

theorem mem_squeeze (h : c ∈ squeeze p by' inRun cs) : c = by' ∨ c ∈ cs := by
  induction cs generalizing inRun with
  | nil => cases h
  | cons d cs ih =>
    have later : c ∈ squeeze p by' true cs → c = by' ∨ c ∈ d :: cs := fun h =>
      (ih h).imp_right (List.mem_cons_of_mem _)
    unfold squeeze at h
    split at h
    · split at h
      · exact later h
      · exact (List.mem_cons.mp h).elim .inl later
    · rcases List.mem_cons.mp h with rfl | h
      · exact .inr (List.mem_cons_self ..)
      · exact (ih h).imp_right (List.mem_cons_of_mem _)

/-- Of the runs only what they are squeezed to is left. -/
theorem mem_squeeze_run (h : c ∈ squeeze p by' inRun cs) (hc : p c = true) : c = by' := by
  induction cs generalizing inRun with
  | nil => cases h
  | cons d cs ih =>
    unfold squeeze at h
    split at h
    · split at h
      · exact ih h
      · exact (List.mem_cons.mp h).elim id ih
    · next hd =>
      rcases List.mem_cons.mp h with rfl | h
      · exact absurd hc hd
      · exact ih h

/-- A run is over when it has been squeezed. -/
theorem squeeze_head? (h : (squeeze p by' true cs).head? = some c) : p c = false := by
  induction cs with
  | nil => cases h
  | cons d cs ih =>
    unfold squeeze at h
    split at h
    · exact ih h
    · next hd =>
      cases h
      exact Bool.eq_false_of_not_eq_true hd

theorem squeeze_single (within : p by' = true) : ¬[by', by'] <:+: squeeze p by' inRun cs := by
  induction cs generalizing inRun with
  | nil => simp [squeeze]
  | cons d cs ih =>
    unfold squeeze
    split
    · split
      · exact ih
      · rw [doubled_cons, not_or]
        refine ⟨fun h => ?_, ih⟩
        rw [squeeze_head? h.2] at within
        cases within
    · next hd =>
      rw [doubled_cons, not_or]
      refine ⟨fun h => ?_, ih⟩
      rw [h.1] at hd
      exact hd within

theorem squeeze_eq_self_of_forall (none : ∀ c ∈ cs, p c = false) : squeeze p by' inRun cs = cs := by
  induction cs generalizing inRun with
  | nil => rfl
  | cons d cs ih =>
    have hd : ¬p d = true := Bool.eq_false_iff.mp (none d (List.mem_cons_self ..))
    rw [squeeze, if_neg hd, ih fun c hc => none c (List.mem_cons_of_mem _ hc)]

theorem squeeze_eq_self (only : ∀ c ∈ cs, p c = true → c = by') (single : ¬[by', by'] <:+: cs)
    (start : inRun = true → cs.head? ≠ some by') : squeeze p by' inRun cs = cs := by
  induction cs generalizing inRun with
  | nil => rfl
  | cons d cs ih =>
    rw [doubled_cons, not_or] at single
    have ih := fun inRun => @ih inRun (fun c hc => only c (List.mem_cons_of_mem _ hc)) single.2
    unfold squeeze
    split
    · next hd =>
      obtain rfl := only d (List.mem_cons_self ..) hd
      have hrun : inRun = false := Bool.eq_false_of_not_eq_true fun h => start h rfl
      rw [hrun, if_neg Bool.false_ne_true, ih true fun _ h => single.1 ⟨rfl, h⟩]
    · rw [ih false nofun]

/-! ### Stripping -/

theorem strip_infix (cs : List Char) : strip cs <:+: cs :=
  (List.rdropWhile_prefix isSpace _).isInfix.trans (List.dropWhile_suffix _).isInfix

theorem strip_head? (h : (strip cs).head? = some c) : isSpace c = false := by
  have hprefix : strip cs <+: cs.dropWhile isSpace := List.rdropWhile_prefix isSpace _
  have hhead : (cs.dropWhile isSpace).head? = some c := by
    obtain ⟨rest, hrest⟩ := hprefix
    rw [← hrest, List.head?_append, h]
    rfl
  have hnot := List.head?_dropWhile_not isSpace cs
  rw [hhead] at hnot
  exact hnot

theorem strip_getLast? (h : (strip cs).getLast? = some c) : isSpace c = false := by
  unfold strip trimEnd at h
  rw [List.getLast?_reverse] at h
  have hnot := List.head?_dropWhile_not isSpace (cs.dropWhile isSpace).reverse
  rw [h] at hnot
  exact hnot

theorem strip_eq_self (first : ∀ c, cs.head? = some c → isSpace c = false)
    (last : ∀ c, cs.getLast? = some c → isSpace c = false) : strip cs = cs := by
  have hstart : cs.dropWhile isSpace = cs := by
    cases cs with
    | nil => rfl
    | cons c cs => rw [List.dropWhile_cons_of_neg (Bool.eq_false_iff.mp (first c rfl))]
  rw [strip, hstart]
  refine List.rdropWhile_eq_self_iff.mpr fun hne => Bool.eq_false_iff.mp (last _ ?_)
  exact List.getLast?_eq_some_getLast hne

theorem stripped_stripped (s : String) : stripped (stripped s) = stripped s := by
  rw [stripped, stripped, String.toList_ofList,
    strip_eq_self (fun _ => strip_head?) fun _ => strip_getLast?]

end Reroll.Text
