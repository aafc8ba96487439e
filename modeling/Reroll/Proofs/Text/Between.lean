import Reroll.Proofs.Modifier.Instance
import Reroll.Proofs.Text.Words

/-!
# Words between those filled in

A word that is found in a filled text lies between the words that were filled in, when these start
and end with a character that it lacks, and it stood there before (`fill_between`). In the same way
for a word that has no letter of those filled in (`infix_fillBy`).
-/

namespace Reroll.Text

variable {mark z : Char} {cs v word mid : List Char} {words : ℕ → List Char}

theorem fillBy_append (as bs : List Char) : fillBy mark words (as ++ bs) =
    fillBy mark words as ++ fillBy mark (fun i => words (i + as.count mark)) bs := by
  induction as generalizing words with
  | nil => rfl
  | cons a as ih =>
    by_cases ha : a = mark
    · rw [ha, List.cons_append, fillBy_mark, fillBy_mark, ih, List.count_cons_self,
        List.append_assoc]
      congr 2
    · rw [List.cons_append, fillBy_other ha, fillBy_other ha, ih, List.count_cons_of_ne ha,
        List.cons_append]

/-- Where the word is that is filled in, there was a mark. -/
theorem fill_replace (nonempty : word ≠ []) (h : mark ∉ cs) :
    fill mark word (replace word [mark] cs) = cs := by
  unfold replace
  induction hlength : cs.length using Nat.strongRecOn generalizing cs with
  | _ length ih =>
    cases cs with
    | nil => rfl
    | cons c cs =>
      rw [List.mem_cons, not_or] at h
      by_cases hword : word.isPrefixOf (c :: cs) = true
      · obtain ⟨rest, hrest⟩ := List.isPrefixOf_iff_prefix.mp hword
        obtain ⟨d, tail, rfl⟩ := List.exists_cons_of_ne_nil nonempty
        rw [List.cons_append] at hrest
        obtain ⟨rfl, rfl⟩ := List.cons.inj hrest
        have hshorter : rest.length < length := by
          rw [← hlength, List.length_cons, List.length_append]
          omega
        have hnot : mark ∉ rest := fun hm => h.2 (List.mem_append_right _ hm)
        rw [replaceFrom, if_pos hword, List.length_cons, Nat.add_sub_cancel,
          Canonical.replaceFrom_skip, List.singleton_append, fill_mark,
          ih rest.length hshorter hnot rfl]
        rfl
      · rw [replaceFrom, if_neg hword, fill_other (Ne.symm h.1),
          ih cs.length (by rw [← hlength]; exact Nat.lt_succ_self _) h.2 rfl]

/-- A word that is found in a filled text stood in the text, if it is not part of what is filled in
and lacks the character that this starts and ends with. -/
theorem fill_between {before after : List Char} (hz : z ∉ v) (apart : ¬v <:+: mid)
    (h : fill mark (z :: (mid ++ [z])) cs = before ++ (v ++ after)) :
    ∃ as bs, cs = as ++ (v ++ bs) ∧ fill mark (z :: (mid ++ [z])) as = before ∧
      fill mark (z :: (mid ++ [z])) bs = after := by
  induction cs using mark_induction mark generalizing before with
  | plain cs hmark =>
    rw [fill_eq_self hmark] at h
    rw [h] at hmark
    refine ⟨before, after, h, fill_eq_self fun hm => hmark ?_, fill_eq_self fun hm => hmark ?_⟩
    · exact List.mem_append_left _ hm
    · exact List.mem_append_right _ (List.mem_append_right _ hm)
  | parts as bs has ih =>
    rw [fill_append, fill_eq_self has, fill_mark, List.cons_append, List.append_assoc,
      List.singleton_append] at h
    rcases split_around hz h with ⟨more, rfl, rfl⟩ | ⟨more, rfl, hmore⟩
    · refine ⟨before, more ++ mark :: bs, by simp, ?_, ?_⟩
      · exact fill_eq_self fun hm => has (List.mem_append_left _ hm)
      · have hnot : mark ∉ more := fun hm =>
          has (List.mem_append_right _ (List.mem_append_right _ hm))
        rw [fill_append, fill_eq_self hnot, fill_mark]
        simp
    · rcases split_around hz hmore with ⟨rest, rfl, -⟩ | ⟨rest, rfl, hrest⟩
      · exact absurd ⟨more, rest, List.append_assoc ..⟩ apart
      · obtain ⟨as', bs', rfl, hbefore, hafter⟩ := ih hrest
        refine ⟨as ++ mark :: as', bs', by simp, ?_, hafter⟩
        rw [fill_append, fill_eq_self has, fill_mark, hbefore]
        simp

theorem infix_fill_between (hz : z ∉ v) (apart : ¬v <:+: mid) (hmark : mark ∉ v) :
    v <:+: fill mark (z :: (mid ++ [z])) cs ↔ v <:+: cs := by
  constructor
  · rintro ⟨before, after, h⟩
    rw [List.append_assoc] at h
    obtain ⟨as, bs, rfl, -⟩ := fill_between hz apart h.symm
    exact ⟨as, bs, List.append_assoc ..⟩
  · rintro ⟨before, after, rfl⟩
    rw [fill_append, fill_append, fill_eq_self hmark]
    exact ⟨_, _, rfl⟩

/-- A word without marks is still there when the marks are filled. -/
theorem infix_fillBy_of_infix (hmark : mark ∉ v) (h : v <:+: cs) : v <:+: fillBy mark words cs := by
  obtain ⟨before, after, rfl⟩ := h
  rw [List.append_assoc, fillBy_append, fillBy_before hmark]
  exact ⟨_, _, List.append_assoc ..⟩

/-- A word of other letters is found in a filled text where it was before. -/
theorem infix_fillBy (nonempty : v ≠ []) (some : ∀ i, words i ≠ [])
    (apart : ∀ i, ∀ c ∈ words i, c ∉ v) (hmark : mark ∉ v) :
    v <:+: fillBy mark words cs ↔ v <:+: cs := by
  constructor
  · intro h
    obtain ⟨first, v, rfl⟩ := List.exists_cons_of_ne_nil nonempty
    induction cs generalizing words with
    | nil => exact h
    | cons c cs ih =>
      have hlater : ∀ words' : ℕ → List Char, (∀ i, words' i ≠ []) →
          (∀ i, ∀ c ∈ words' i, c ∉ first :: v) → first :: v <:+: fillBy mark words' cs →
          first :: v <:+: c :: cs := fun words' some' apart' h' =>
        (ih some' apart' h').trans (List.suffix_cons c cs).isInfix
      by_cases hc : c = mark
      · have hfirst : first ∉ words 0 := fun hm => apart 0 first hm (List.mem_cons_self ..)
        rw [hc, fillBy_mark, infix_append_iff hfirst] at h
        exact hlater _ (fun i => some (i + 1)) (fun i => apart (i + 1)) h
      · rw [fillBy_other hc, List.infix_cons_iff, ← fillBy_other hc] at h
        rcases h with ⟨rest, hprefix⟩ | h
        · have hsplit : ∀ i, ∀ d ∈ (words i).head?, d ∉ first :: v := fun i d hd =>
            apart i d (List.mem_of_head? hd)
          obtain ⟨more, hmore, -⟩ := fillBy_split some (first :: v) hsplit hprefix.symm
          exact hmore ▸ (List.prefix_append ..).isInfix
        · exact hlater words some apart h
  · exact infix_fillBy_of_infix hmark

end Reroll.Text
