import Mathlib.Data.List.TakeWhile
import Reroll.Modifier.Match

/-!
# Comparing lines with targets

A comparison reads numbers off a line. Each of them lies within a run of digits of the line, so the
comparison comes to a result when no run is longer than the numbers that can be read
(`accepts_ok`), and the search for a match finds the first pair that matches, if there is one
(`firstFrom_first`).
-/

namespace Reroll

/-! ### Runs of characters -/

namespace Text

variable {p : Char → Bool}

/-- A run up to another character is what there is of it at the start. -/
theorem takeWhile_run {ds after : List Char} (h : ∀ c ∈ ds, p c = true)
    (hend : ∀ c ∈ after.head?, p c = false) : (ds ++ after).takeWhile p = ds := by
  have hrest : after.takeWhile p = [] := by
    cases after with
    | nil => rfl
    | cons c after => exact List.takeWhile_cons_of_neg (Bool.eq_false_iff.mp (hend c rfl))
  rw [List.takeWhile_append_of_pos h, hrest, List.append_nil]

/-- A run that was started is among the runs, in full. -/
theorem started_runsFrom (started cs : List Char) (h : started ≠ []) :
    ∃ run ∈ runsFrom p started cs, started.reverse <+: run := by
  have hempty : started.isEmpty = false := by simpa using h
  induction cs generalizing started with
  | nil => exact ⟨started.reverse, by simp [runsFrom, hempty], List.prefix_refl _⟩
  | cons c cs ih =>
    unfold runsFrom
    split
    · obtain ⟨run, hrun, hprefix⟩ := ih (c :: started) (by simp) rfl
      rw [List.reverse_cons] at hprefix
      exact ⟨run, hrun, (List.prefix_append ..).trans hprefix⟩
    · rw [hempty]
      exact ⟨started.reverse, by simp, List.prefix_refl _⟩

/-- Characters of a run go into it one by one. -/
theorem runsFrom_append (started ds after : List Char) (h : ∀ c ∈ ds, p c = true) :
    runsFrom p started (ds ++ after) = runsFrom p (ds.reverse ++ started) after := by
  induction ds generalizing started with
  | nil => rfl
  | cons d ds ih =>
    have hd : p d = true := h d (List.mem_cons_self ..)
    rw [List.cons_append, runsFrom, if_pos hd, ih _ fun c hc => h c (List.mem_cons_of_mem _ hc)]
    simp

/-- What lies behind the text before it only adds runs. -/
theorem runsFrom_behind (before ds after started : List Char) (h : ∀ c ∈ ds, p c = true)
    (hne : ds ≠ []) :
    ∃ run ∈ runsFrom p started (before ++ ds ++ after), ds <:+: run := by
  induction before generalizing started with
  | nil =>
    rw [List.nil_append, runsFrom_append started ds after h]
    obtain ⟨run, hrun, hprefix⟩ :=
      started_runsFrom (p := p) (ds.reverse ++ started) after (by simp [hne])
    rw [List.reverse_append, List.reverse_reverse] at hprefix
    exact ⟨run, hrun, (List.suffix_append ..).isInfix.trans hprefix.isInfix⟩
  | cons c before ih =>
    rw [List.cons_append, List.cons_append, runsFrom]
    split
    · exact ih _
    · split
      · exact ih _
      · obtain ⟨run, hrun, hwithin⟩ := ih []
        exact ⟨run, List.mem_cons_of_mem _ hrun, hwithin⟩

/-- Characters of a kind that stand in a row are part of a run of that kind. -/
theorem infix_run {ds cs : List Char} (h : ds <:+: cs) (hp : ∀ c ∈ ds, p c = true)
    (hne : ds ≠ []) : ∃ run ∈ runsOf p cs, ds <:+: run := by
  obtain ⟨before, after, rfl⟩ := h
  exact runsFrom_behind before ds after [] hp hne

/-- The run that has started ends where another character follows. -/
theorem runsFrom_end (started cs : List Char) (hne : started ≠ [])
    (hend : ∀ c ∈ cs.head?, p c = false) :
    runsFrom p started cs = started.reverse :: runsOf p cs := by
  have hempty : started.isEmpty = false := by simpa using hne
  cases cs with
  | nil => simp [runsFrom, runsOf, hempty]
  | cons c cs =>
    have hc : ¬p c = true := Bool.eq_false_iff.mp (hend c rfl)
    rw [runsOf, runsFrom, runsFrom, if_neg hc, if_neg hc, hempty]
    rfl

/-- A run up to another character comes first. -/
theorem runsOf_run {ds after : List Char} (h : ∀ c ∈ ds, p c = true) (hne : ds ≠ [])
    (hend : ∀ c ∈ after.head?, p c = false) : runsOf p (ds ++ after) = ds :: runsOf p after := by
  have hstarted : ds.reverse ++ [] ≠ [] := by simpa using hne
  rw [runsOf, runsFrom_append [] ds after h, runsFrom_end _ after hstarted hend]
  simp

theorem ne_nil_of_mem_runsOf {cs run : List Char} (h : run ∈ runsOf p cs) : run ≠ [] := by
  have hrun : ∀ started : List Char, run ∈ runsFrom p started cs → run ≠ [] := by
    clear h
    induction cs with
    | nil =>
      intro started h
      unfold runsFrom at h
      split at h
      · cases h
      · next hne =>
        obtain rfl := List.mem_singleton.mp h
        simpa using hne
    | cons c cs ih =>
      intro started h
      unfold runsFrom at h
      split at h
      · exact ih _ h
      · split at h
        · exact ih _ h
        · next hne =>
          rcases List.mem_cons.mp h with rfl | h
          · simpa using hne
          · exact ih _ h
  exact hrun [] h

theorem runsOf_other {c : Char} {cs : List Char} (h : p c = false) :
    runsOf p (c :: cs) = runsOf p cs := by
  rw [runsOf, runsFrom, if_neg (Bool.eq_false_iff.mp h)]
  rfl

/-- Runs do not reach over the end of a text that ends with another character. -/
theorem runsFrom_before (before cs started : List Char)
    (hlast : ∀ c ∈ before.getLast?, p c = false) (hstarted : before = [] → started = []) :
    ∃ runs, runsFrom p started (before ++ cs) = runs ++ runsOf p cs := by
  induction before generalizing started with
  | nil =>
    rw [hstarted rfl]
    exact ⟨[], rfl⟩
  | cons c before ih =>
    have hrest : ∀ d ∈ before.getLast?, p d = false := fun d hd =>
      hlast d (by rw [List.getLast?_cons, hd]; rfl)
    rw [List.cons_append, runsFrom]
    split
    · next hc =>
      apply ih _ hrest
      intro hnil
      rw [hnil, List.getLast?_singleton] at hlast
      rw [hlast c rfl] at hc
      cases hc
    · obtain ⟨runs, hruns⟩ := ih [] hrest fun _ => rfl
      rw [hruns]
      split
      · exact ⟨runs, rfl⟩
      · exact ⟨started.reverse :: runs, rfl⟩

/-- Characters of a kind in a row between others are a run. -/
theorem mem_runsOf {before ds after : List Char} (h : ∀ c ∈ ds, p c = true) (hne : ds ≠ [])
    (hbefore : ∀ c ∈ before.getLast?, p c = false) (hafter : ∀ c ∈ after.head?, p c = false) :
    ds ∈ runsOf p (before ++ (ds ++ after)) := by
  obtain ⟨runs, hruns⟩ := runsFrom_before before (ds ++ after) [] hbefore fun _ => rfl
  rw [runsOf, hruns, runsOf_run h hne hafter]
  simp

end Text

/-! ### Numbers of an instance -/

namespace Template

variable {accept : List Char → Option (List Nat)} {part cs digits : List Char}
variable {parts more : List (List Char)} {sizes : List Nat} {size : Nat}

theorem longest?_none (h : longest? accept cs size = none) :
    ∀ j, 0 < j → j ≤ size → accept (cs.drop j) = none := by
  induction size with
  | zero => omega
  | succ size ih =>
    unfold longest? at h
    split at h
    · cases h
    · next htop =>
      intro j hpositive hle
      by_cases hj : j = size + 1
      · rw [hj]
        exact htop
      · exact ih h j hpositive (by omega)

/-- The longest size is taken for which the remainder is accepted. -/
theorem longest?_some (h : longest? accept cs size = some sizes) :
    ∃ k others, sizes = k :: others ∧ 0 < k ∧ k ≤ size ∧ accept (cs.drop k) = some others ∧
      ∀ j, k < j → j ≤ size → accept (cs.drop j) = none := by
  induction size with
  | zero => cases h
  | succ size ih =>
    unfold longest? at h
    split at h
    · next others htop =>
      cases h
      exact ⟨size + 1, others, rfl, Nat.succ_pos size, Nat.le_refl _, htop, by omega⟩
    · next htop =>
      obtain ⟨k, others, hsizes, hpositive, hle, haccept, hlonger⟩ := ih h
      refine ⟨k, others, hsizes, hpositive, Nat.le_succ_of_le hle, haccept, fun j hk hj => ?_⟩
      by_cases heq : j = size + 1
      · rw [heq]
        exact htop
      · exact hlonger j hk (by omega)

/-- An instance starts with the first part, then comes a number, as long as the others allow, and
then an instance of the others. -/
theorem sizesAt?_some (hmore : more ≠ []) (h : sizesAt? (part :: more) cs = some sizes) :
    ∃ number rest others, cs = part ++ (number ++ rest) ∧ number ≠ [] ∧
      (∀ c ∈ number, Text.isDigit c = true) ∧ sizes = number.length :: others ∧
      sizesAt? more rest = some others ∧
      ∀ j, number.length < j → j ≤ ((number ++ rest).takeWhile Text.isDigit).length →
        sizesAt? more ((number ++ rest).drop j) = none := by
  obtain ⟨second, others, rfl⟩ := List.exists_cons_of_ne_nil hmore
  simp only [sizesAt?] at h
  split at h
  · next hpart =>
    obtain ⟨behind, rfl⟩ := List.isPrefixOf_iff_prefix.mp hpart
    rw [List.drop_left] at h
    obtain ⟨k, others, hsizes, hpositive, hle, haccept, hlonger⟩ := longest?_some h
    have hlength : k ≤ behind.length :=
      Nat.le_trans hle (List.takeWhile_prefix Text.isDigit).length_le
    have hbegins : behind.take k <+: behind.takeWhile Text.isDigit := by
      refine List.prefix_of_prefix_length_le (List.take_prefix ..) (List.takeWhile_prefix _) ?_
      rw [List.length_take]
      omega
    refine ⟨behind.take k, behind.drop k, others, ?_, ?_, ?_, ?_, haccept, ?_⟩
    · rw [List.take_append_drop]
    · intro hnil
      rw [← List.length_eq_zero_iff, List.length_take] at hnil
      omega
    · exact fun c hc => List.mem_takeWhile_imp (hbegins.subset hc)
    · rw [hsizes, List.length_take, Nat.min_eq_left hlength]
    · rw [List.take_append_drop, List.length_take, Nat.min_eq_left hlength]
      exact hlonger
  · cases h

/-- The first number of an instance at the start of a text is a row of digits in it. -/
theorem cut_head (h : sizesAt? parts cs = some sizes)
    (hd : (cut parts sizes cs).1.head? = some digits) :
    digits <:+: cs ∧ digits ≠ [] ∧ ∀ c ∈ digits, Text.isDigit c = true := by
  match parts with
  | [] => cases h
  | [last] =>
    simp only [sizesAt?] at h
    split at h
    · cases h
      simp [cut] at hd
    · cases h
  | part :: next :: more =>
    obtain ⟨number, rest, others, rfl, hne, hdigit, rfl, -, -⟩ :=
      sizesAt?_some (List.cons_ne_nil next more) h
    obtain rfl : number = digits := by simpa [cut] using hd
    have hwithin : number <:+: part ++ (number ++ rest) :=
      (List.prefix_append ..).isInfix.trans (List.suffix_append ..).isInfix
    exact ⟨hwithin, hne, hdigit⟩

/-- The instance that is found lies behind a text in which none starts. -/
theorem searchFrom_found {t : Template} {start : Nat} {hit : Hit}
    (h : t.searchFrom start cs = some hit) :
    ∃ before behind sizes, cs = before ++ behind ∧ sizesAt? t.parts behind = some sizes ∧
      hit.start = start + before.length ∧ hit.numbers = (cut t.parts sizes behind).1 ∧
      hit.stop = hit.start + (cut t.parts sizes behind).2 ∧
      ∀ pre post, before = pre ++ post → post ≠ [] → sizesAt? t.parts (post ++ behind) = none := by
  induction cs generalizing start with
  | nil =>
    unfold searchFrom at h
    split at h
    · next sizes hsizes =>
      cases h
      refine ⟨[], [], sizes, rfl, hsizes, rfl, rfl, rfl, fun pre post hsplit hne => ?_⟩
      exact absurd (List.append_eq_nil_iff.mp hsplit.symm).2 hne
    · cases h
  | cons c cs ih =>
    unfold searchFrom at h
    split at h
    · next sizes hsizes =>
      cases h
      refine ⟨[], c :: cs, sizes, rfl, hsizes, rfl, rfl, rfl, fun pre post hsplit hne => ?_⟩
      exact absurd (List.append_eq_nil_iff.mp hsplit.symm).2 hne
    · next hnone =>
      obtain ⟨before, behind, sizes, rfl, hsizes, hstart, hnumbers, hstop, hbefore⟩ := ih h
      refine ⟨c :: before, behind, sizes, rfl, hsizes, ?_, hnumbers, hstop,
        fun pre post hsplit hne => ?_⟩
      · rw [hstart, List.length_cons]
        omega
      · cases pre with
        | nil =>
          obtain rfl : c :: before = post := hsplit
          exact hnone
        | cons d pre =>
          obtain ⟨rfl, hrest⟩ := List.cons.inj hsplit
          exact hbefore pre post hrest hne

theorem searchFrom_some {t : Template} {start : Nat} {hit : Hit}
    (h : t.searchFrom start cs = some hit) :
    ∃ before behind sizes, cs = before ++ behind ∧ sizesAt? t.parts behind = some sizes ∧
      hit.numbers = (cut t.parts sizes behind).1 ∧
      ∀ pre post, before = pre ++ post → post ≠ [] → sizesAt? t.parts (post ++ behind) = none := by
  obtain ⟨before, behind, sizes, hsplit, hsizes, -, hnumbers, -, hbefore⟩ := searchFrom_found h
  exact ⟨before, behind, sizes, hsplit, hsizes, hnumbers, hbefore⟩

theorem searchFrom_head {t : Template} {start : Nat} {hit : Hit}
    (h : t.searchFrom start cs = some hit) (hd : hit.numbers.head? = some digits) :
    digits <:+: cs ∧ digits ≠ [] ∧ ∀ c ∈ digits, Text.isDigit c = true := by
  obtain ⟨before, behind, sizes, rfl, hsizes, hnumbers, -⟩ := searchFrom_some h
  rw [hnumbers] at hd
  obtain ⟨hwithin, hdigits⟩ := cut_head hsizes hd
  exact ⟨hwithin.trans (List.suffix_append ..).isInfix, hdigits⟩

end Template

/-! ### Comparisons come to a result -/

theorem Exclusion.rejects_ok {e : Exclusion} {word : String} (context : e.context = .text word)
    (target text : List Char) : ∃ found, e.rejects target text = .ok found := by
  unfold rejects
  split
  · rw [inContext, context]
    dsimp only
    split
    · next h => cases h
    · exact ⟨_, rfl⟩
    · exact ⟨_, rfl⟩
  · exact ⟨_, rfl⟩

namespace Spec

variable {s : Spec} {e : Exclusion} {word : String}

/-- No run of digits of the text is longer than the numbers that can be read. -/
def Countable (text : List Char) : Prop :=
  ∀ run ∈ Text.runsOf Text.isDigit text, run.length ≤ Decimal.digitLimit

theorem numberOf_ok {digits : List Char} (h : digits.length ≤ Decimal.digitLimit) :
    numberOf digits = .ok (Text.digitsValue digits) := by
  rw [numberOf, if_neg (by omega)]

theorem anyAdmitted_ok (runs : List (List Char))
    (h : ∀ run ∈ runs, run.length ≤ Decimal.digitLimit) :
    ∃ b, s.anyAdmitted runs = .ok b := by
  induction runs with
  | nil => exact ⟨false, rfl⟩
  | cons run rest ih =>
    rw [anyAdmitted, numberOf_ok (h run (List.mem_cons_self ..))]
    dsimp only
    split
    · exact ⟨true, rfl⟩
    · exact ih fun r hr => h r (List.mem_cons_of_mem _ hr)

theorem matchesPlain_ok (context : e.context = .text word) (text : List Char) :
    ∃ b, s.matchesPlain e text = .ok b := by
  unfold matchesPlain
  dsimp only
  split
  · exact ⟨false, rfl⟩
  · split
    · exact ⟨true, rfl⟩
    · obtain ⟨found, hfound⟩ := Exclusion.rejects_ok context
        (Canonical.canonicalChars s.pattern.toList) text
      rw [hfound]
      cases found with
      | none => exact ⟨_, rfl⟩
      | some w => exact ⟨false, rfl⟩

theorem matchesRanged_ok (context : e.context = .text word) {text : List Char}
    (countable : Countable text) : ∃ b, s.matchesRanged e text = .ok b := by
  unfold matchesRanged
  dsimp only
  generalize Canonical.canonicalTemplateChars Canonical.placeholder.toList s.pattern.toList = target
  split
  · exact ⟨false, rfl⟩
  · split
    · next digits hdigits =>
      obtain ⟨hit, hhit, hhead⟩ := Option.bind_eq_some_iff.mp hdigits
      obtain ⟨t, -, hsearch⟩ := Option.bind_eq_some_iff.mp hhit
      obtain ⟨hwithin, hne, hdigit⟩ := Template.searchFrom_head hsearch hhead
      obtain ⟨run, hrun, hpart⟩ := Text.infix_run hwithin hdigit hne
      have hlength : digits.length ≤ Decimal.digitLimit :=
        Nat.le_trans hpart.length_le (countable run hrun)
      rw [numberOf_ok hlength]
      exact ⟨_, rfl⟩
    · obtain ⟨found, hfound⟩ := Exclusion.rejects_ok context target text
      rw [hfound]
      cases found with
      | some w => exact ⟨false, rfl⟩
      | none =>
        dsimp only
        split
        · exact ⟨false, rfl⟩
        · obtain ⟨b, hb⟩ := anyAdmitted_ok (s := s) _ countable
          rw [hb]
          exact ⟨b, rfl⟩

theorem accepts_ok (context : e.context = .text word) {text : String}
    (countable : Countable text.toList) : ∃ b, s.accepts e text = .ok b := by
  unfold accepts
  split
  · exact matchesRanged_ok context countable
  · obtain ⟨b, hb⟩ := matchesPlain_ok (s := s) context text.toList
    rw [hb]
    exact ⟨b, rfl⟩

end Spec

/-! ### The search for a match -/

namespace Match

variable {e : Exclusion}

/-- The match is the first pair that matches, in the order of the targets and then of the lines.
The targets are numbered from `specAt` on. -/
structure IsFirst (e : Exclusion) (lines : List Line) (specAt : Nat) (specs : List Spec)
    (m : Match) : Prop where
  accepted : m.spec.accepts e m.line.canonical = .ok true
  specs_before : ∃ before after, specs = before ++ m.spec :: after ∧
    m.specAt = specAt + before.length ∧
    ∀ s ∈ before, ∀ l ∈ lines, s.accepts e l.canonical = .ok false
  lines_before : ∃ before after, lines = before ++ m.line :: after ∧ m.lineAt = before.length ∧
    ∀ l ∈ before, m.spec.accepts e l.canonical = .ok false

theorem IsFirst.spec_mem {lines : List Line} {specAt : Nat} {specs : List Spec} {m : Match}
    (h : IsFirst e lines specAt specs m) : m.spec ∈ specs := by
  obtain ⟨before, after, rfl, -⟩ := h.specs_before
  simp

theorem IsFirst.line_mem {lines : List Line} {specAt : Nat} {specs : List Spec} {m : Match}
    (h : IsFirst e lines specAt specs m) : m.line ∈ lines := by
  obtain ⟨before, after, rfl, -⟩ := h.lines_before
  simp

theorem firstLine_ok (specAt lineAt : Nat) {s : Spec} {lines : List Line}
    (h : ∀ l ∈ lines, ∃ b, s.accepts e l.canonical = .ok b) :
    (firstLine s e specAt lineAt lines = .ok none ∧
      ∀ l ∈ lines, s.accepts e l.canonical = .ok false) ∨
    ∃ line before after, lines = before ++ line :: after ∧
      firstLine s e specAt lineAt lines =
        .ok (some ⟨s, line, specAt, lineAt + before.length⟩) ∧
      s.accepts e line.canonical = .ok true ∧
      ∀ l ∈ before, s.accepts e l.canonical = .ok false := by
  induction lines generalizing lineAt with
  | nil => exact .inl ⟨rfl, by simp⟩
  | cons l rest ih =>
    obtain ⟨b, hb⟩ := h l (List.mem_cons_self ..)
    unfold firstLine
    rw [hb]
    cases b with
    | true => exact .inr ⟨l, [], rest, rfl, rfl, hb, by simp⟩
    | false =>
      rcases ih (lineAt + 1) fun k hk => h k (List.mem_cons_of_mem _ hk) with
        ⟨hnone, hall⟩ | ⟨line, before, after, rfl, hline, haccepted, hbefore⟩
      · exact .inl ⟨hnone, List.forall_mem_cons.mpr ⟨hb, hall⟩⟩
      · refine .inr ⟨line, l :: before, after, rfl, ?_, haccepted,
          List.forall_mem_cons.mpr ⟨hb, hbefore⟩⟩
        dsimp only
        rw [hline, List.length_cons, Nat.add_assoc, Nat.add_comm 1]

/-- When every comparison comes to a result, the search finds the first pair that matches or there
is none. -/
theorem firstFrom_first (specAt : Nat) {lines : List Line} {specs : List Spec}
    (h : ∀ s ∈ specs, ∀ l ∈ lines, ∃ b, s.accepts e l.canonical = .ok b) :
    (firstFrom e lines specAt specs = .ok none ∧
      ∀ s ∈ specs, ∀ l ∈ lines, s.accepts e l.canonical = .ok false) ∨
    ∃ m, firstFrom e lines specAt specs = .ok (some m) ∧ IsFirst e lines specAt specs m := by
  induction specs generalizing specAt with
  | nil => exact .inl ⟨rfl, by simp⟩
  | cons s rest ih =>
    unfold firstFrom
    rcases firstLine_ok specAt 0 (h s (List.mem_cons_self ..)) with
      ⟨hnone, hall⟩ | ⟨line, before, after, hlines, hline, haccepted, hbefore⟩
    · rw [hnone]
      dsimp only
      rcases ih (specAt + 1) fun k hk => h k (List.mem_cons_of_mem _ hk) with
        ⟨hrest, hfalse⟩ | ⟨m, hm, hfirst⟩
      · exact .inl ⟨hrest, List.forall_mem_cons.mpr ⟨hall, hfalse⟩⟩
      · obtain ⟨before, after, hrest, hat, hbefore⟩ := hfirst.specs_before
        refine .inr ⟨m, hm, hfirst.accepted, ⟨s :: before, after, ?_, ?_, ?_⟩, hfirst.lines_before⟩
        · rw [hrest, List.cons_append]
        · rw [hat, List.length_cons]
          omega
        · exact List.forall_mem_cons.mpr ⟨hall, hbefore⟩
    · rw [hline]
      exact .inr ⟨_, rfl, haccepted, ⟨[], rest, rfl, rfl, by simp⟩,
        ⟨before, after, hlines, Nat.zero_add _, hbefore⟩⟩

end Match

end Reroll
