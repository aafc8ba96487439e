import Reroll.Proofs.Modifier.Match

/-!
# Plain targets

A line matches a plain target when it contains the target, or the longer words of it and its digits.
Words and digits are looked for wherever they stand, so a group of digits may be found within a
longer number. Only the groups inside of a target that is contained in the line are certain to be
numbers of their own (`accepted_digits`).
-/

namespace Reroll

namespace Text

variable {p : Char → Bool} {c : Char} {cs run : List Char}

theorem occursIn_iff {word : List Char} : occursIn word cs = true ↔ word <:+: cs := by
  induction cs with
  | nil => rw [occursIn, List.isEmpty_iff, List.infix_nil]
  | cons c cs ih =>
    rw [occursIn, Bool.or_eq_true, ih, List.isPrefixOf_iff_prefix, List.infix_cons_iff]

/-- A run of such characters that cannot be made longer. -/
def IsRun (p : Char → Bool) (cs run : List Char) : Prop :=
  ∃ before after, cs = before ++ (run ++ after) ∧ (∀ c ∈ run, p c = true) ∧
    (∀ c ∈ before.getLast?, p c = false) ∧ ∀ c ∈ after.head?, p c = false

theorem IsRun.head (hrun : ∀ c ∈ run, p c = true) (hend : ∀ c ∈ cs.head?, p c = false) :
    IsRun p (run ++ cs) run :=
  ⟨[], cs, rfl, hrun, nofun, hend⟩

theorem IsRun.behind (before : List Char) (hc : p c = false) (h : IsRun p cs run) :
    IsRun p (before ++ c :: cs) run := by
  obtain ⟨between, after, rfl, hrun, hbetween, hafter⟩ := h
  refine ⟨before ++ c :: between, after, by simp, hrun, fun d hd => ?_, hafter⟩
  cases between with
  | nil =>
    obtain rfl : c = d := by simpa using hd
    exact hc
  | cons b between => exact hbetween d (by simpa using hd)

/-- The runs of a text are longest ones. -/
theorem isRun_of_mem (h : run ∈ runsOf p cs) : IsRun p cs run := by
  have hstarted : ∀ started : List Char, (∀ c ∈ started, p c = true) →
      run ∈ runsFrom p started cs → IsRun p (started.reverse ++ cs) run := by
    clear h
    induction cs with
    | nil =>
      intro started hall h
      unfold runsFrom at h
      split at h
      · cases h
      · obtain rfl := List.mem_singleton.mp h
        exact .head (by simpa using hall) (by simp)
    | cons c cs ih =>
      intro started hall h
      unfold runsFrom at h
      split at h
      · next hc =>
        have hmore := ih (c :: started) (List.forall_mem_cons.mpr ⟨hc, hall⟩) h
        rwa [List.reverse_cons, List.append_assoc] at hmore
      · next hc =>
        have hc : p c = false := Bool.eq_false_iff.mpr hc
        have hbehind : run ∈ runsFrom p [] cs → IsRun p (started.reverse ++ c :: cs) run :=
          fun h => (ih [] (List.forall_mem_nil _) h).behind _ hc
        split at h
        · exact hbehind h
        · rcases List.mem_cons.mp h with rfl | h
          · refine .head (by simpa using hall) ?_
            rintro d ⟨⟩
            exact hc
          · exact hbehind h
  exact hstarted [] (List.forall_mem_nil _) h

/-- A run inside of a word is a run of every text that contains the word. -/
theorem IsRun.inside {word : List Char} (h : IsRun p word run) (hne : run ≠ [])
    (hwithin : word <:+: cs) : run ∈ runsOf p cs ∨ run <+: word ∨ run <:+ word := by
  obtain ⟨before, after, rfl, hrun, hbefore, hafter⟩ := h
  obtain ⟨pre, post, rfl⟩ := hwithin
  rcases List.eq_nil_or_concat before with rfl | ⟨init, last, rfl⟩
  · exact .inr (.inl (List.prefix_append ..))
  · cases after with
    | nil =>
      rw [List.append_nil]
      exact .inr (.inr (List.suffix_append ..))
    | cons c after =>
      left
      have htext : pre ++ (init.concat last ++ (run ++ c :: after)) ++ post =
          (pre ++ init.concat last) ++ (run ++ (c :: after ++ post)) := by simp
      rw [htext]
      refine mem_runsOf hrun hne (fun d hd => hbefore d ?_) fun d hd => hafter d hd
      simpa using hd

end Text

namespace Spec

variable {s : Spec} {e : Exclusion}

/-- A line is accepted that contains the target, or its longer words and its digits. -/
theorem matchesPlain_true {text target : List Char}
    (htarget : Canonical.canonicalChars s.pattern.toList = target)
    (h : s.matchesPlain e text = .ok true) :
    target <:+: text ∨ (∀ word ∈ keywords Text.isWord target, word <:+: text) ∧
      ∀ group ∈ Text.runsOf Text.isDigit target, group <:+: text := by
  unfold matchesPlain at h
  rw [htarget] at h
  dsimp only at h
  split at h
  · cases h
  · split at h
    · next hwithin => exact .inl (Text.occursIn_iff.mp hwithin)
    · split at h
      · cases h
      · cases h
      · obtain ⟨hwords, hgroups⟩ := Bool.and_eq_true_iff.mp (Except.ok.inj h)
        exact .inr ⟨fun w hw => Text.occursIn_iff.mp (List.all_eq_true.mp hwords w hw),
          fun w hw => Text.occursIn_iff.mp (List.all_eq_true.mp hgroups w hw)⟩

/-- Each group of digits of an accepted plain target is a group of digits of the line or a part of
one. Where the line contains the target, it takes a group at one of the ends of the target to be
less than a whole one. -/
theorem accepted_digits {text : String} (plain : s.ranged = false)
    (h : s.accepts e text = .ok true) :
    ∀ group ∈ Text.runsOf Text.isDigit (Canonical.canonicalChars s.pattern.toList),
      group ∈ Text.runsOf Text.isDigit text.toList ∨
        (∃ number ∈ Text.runsOf Text.isDigit text.toList, group <:+: number ∧ group ≠ number) ∧
          (Canonical.canonicalChars s.pattern.toList <:+: text.toList →
            group <+: Canonical.canonicalChars s.pattern.toList ∨
              group <:+ Canonical.canonicalChars s.pattern.toList) := by
  intro group hgroup
  generalize htarget : Canonical.canonicalChars s.pattern.toList = target at hgroup ⊢
  have hrun := Text.isRun_of_mem hgroup
  have hne := Text.ne_nil_of_mem_runsOf hgroup
  have hplain : s.matchesPlain e text.toList = .ok true := by
    rw [accepts, plain] at h
    cases hmatch : s.matchesPlain e text.toList with
    | error err =>
      rw [hmatch] at h
      cases h
    | ok b =>
      rw [hmatch] at h
      exact congrArg _ (Except.ok.inj h)
  have hdigits : ∀ c ∈ group, Text.isDigit c = true := by
    obtain ⟨-, -, -, hdigits, -⟩ := hrun
    exact hdigits
  have hwithin : group <:+: text.toList := by
    rcases matchesPlain_true htarget hplain with hcontains | ⟨-, hgroups⟩
    · obtain ⟨before, after, rfl, -⟩ := hrun
      exact ((List.prefix_append ..).isInfix.trans (List.suffix_append ..).isInfix).trans hcontains
    · exact hgroups group hgroup
  obtain ⟨number, hnumber, hpart⟩ := Text.infix_run hwithin hdigits hne
  by_cases hwhole : group ∈ Text.runsOf Text.isDigit text.toList
  · exact .inl hwhole
  · refine .inr ⟨⟨number, hnumber, hpart, ?_⟩, fun hcontains => ?_⟩
    · rintro rfl
      exact hwhole hnumber
    · exact (hrun.inside hne hcontains).resolve_left hwhole

/-- The six of sixteen is a part of it, and the target starts with it. -/
theorem life_accepted_digits :
    let s : Spec := .plain "6 to maximum life"
    let text := Canonical.canonical "+16 to maximum life"
    (s.ranged = false ∧ s.accepts {} text = .ok true) ∧
    ∀ group ∈ Text.runsOf Text.isDigit (Canonical.canonicalChars s.pattern.toList),
      group ∈ Text.runsOf Text.isDigit text.toList ∨
        (∃ number ∈ Text.runsOf Text.isDigit text.toList, group <:+: number ∧ group ≠ number) ∧
          (Canonical.canonicalChars s.pattern.toList <:+: text.toList →
            group <+: Canonical.canonicalChars s.pattern.toList ∨
              group <:+ Canonical.canonicalChars s.pattern.toList) := by
  intro s text
  have haccepts : s.accepts {} text = .ok true := by decide +kernel
  exact ⟨⟨rfl, haccepts⟩, accepted_digits rfl haccepts⟩

/-- Sixteen passes for six, be it that the words and digits are found or the target itself. -/
theorem other_number_accepted :
    ((Spec.plain "+6 to Level of all Spell Skills").accepts {}
        (Canonical.canonical "+16 to Level of all Spell Skills") = .ok true ∧
      ['6'] ∈ Text.runsOf Text.isDigit
        (Canonical.canonicalChars "+6 to Level of all Spell Skills".toList) ∧
      Text.runsOf Text.isDigit (Canonical.canonical "+16 to Level of all Spell Skills").toList =
        [['1', '6']]) ∧
    (Spec.plain "6 to maximum life").accepts {}
        (Canonical.canonical "+16 to maximum life") = .ok true ∧
      ['6'] ∈ Text.runsOf Text.isDigit (Canonical.canonicalChars "6 to maximum life".toList) ∧
      Text.runsOf Text.isDigit (Canonical.canonical "+16 to maximum life").toList =
        [['1', '6']] := by
  decide +kernel

end Spec

end Reroll
