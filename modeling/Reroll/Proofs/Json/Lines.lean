import Reroll.Json.Reader
import Reroll.Json.Writer
import Reroll.Proofs.Text.Fill

/-!
# Lists of texts, written and read

A list of texts of plain ASCII that is written one to a line is read as the same list
(`read_writtenLines`).
-/

namespace Reroll.Json

/-- A character of ASCII that stands for itself within a string. -/
def IsPlain (c : Char) : Prop := 0x20 ≤ c.toNat ∧ c.toNat < 0x7F ∧ c ≠ '"' ∧ c ≠ '\\'

instance (c : Char) : Decidable (IsPlain c) := inferInstanceAs (Decidable (_ ∧ _))

variable {c : Char} {cs rest opened done : List Char} {items : List String} {room fuel : Nat}

/-! ### The text of a list -/

/-- The items of a list from one on, and the end of the list. -/
def itemChars : List String → List Char
  | [] => []
  | [s] => '"' :: (s.toList ++ '"' :: '\n' :: [']'])
  | s :: items => '"' :: (s.toList ++ '"' :: ',' :: '\n' :: ' ' :: ' ' :: itemChars items)

theorem escapedChar_plain (h : IsPlain c) : escapedChar c = [c] := by
  obtain ⟨hlow, hhigh, hquote, hslash⟩ := h
  have hne : ∀ d : Char, d.toNat < 0x20 → c ≠ d := by
    rintro d hd rfl
    omega
  unfold escapedChar
  rw [if_neg (by simp [hquote, hslash]), if_neg (hne _ (by decide)), if_neg (hne _ (by decide)),
    if_neg (hne _ (by decide)), if_neg (hne _ (by decide)), if_neg (hne _ (by decide)),
    if_pos (by simp; omega)]

theorem writtenText_plain {s : String} (plain : ∀ c ∈ s.toList, IsPlain c) :
    (writtenText s).toList = '"' :: (s.toList ++ ['"']) := by
  have hescaped : s.toList.flatMap escapedChar = s.toList := by
    have hkept := List.flatMap_congr fun c hc => escapedChar_plain (plain c hc)
    rw [hkept, List.flatMap_singleton']
  rw [writtenText, String.toList_ofList, hescaped]
  rfl

theorem writtenLines_plain {s : String} (plain : ∀ u ∈ s :: items, ∀ c ∈ u.toList, IsPlain c) :
    (writtenLines (s :: items)).toList = '[' :: '\n' :: ' ' :: ' ' :: itemChars (s :: items) := by
  have hbody : ∀ s items, (∀ u ∈ s :: items, ∀ c ∈ u.toList, IsPlain c) →
      (String.intercalate ",\n  " ((s :: items).map writtenText)).toList ++ ['\n', ']'] =
        itemChars (s :: items) := by
    intro s items plain
    induction items generalizing s with
    | nil =>
      have hs := writtenText_plain (plain s (List.mem_cons_self ..))
      rw [List.map_singleton, String.intercalate_singleton, hs, itemChars]
      simp
    | cons t items ih =>
      have hs := writtenText_plain (plain s (List.mem_cons_self ..))
      rw [List.map_cons, List.map_cons, String.intercalate_cons_cons, ← List.map_cons,
        String.toList_append, String.toList_append, List.append_assoc,
        ih t fun u hu => plain u (List.mem_cons_of_mem _ hu), hs]
      simp [itemChars]
  rw [← hbody s items plain, writtenLines, String.toList_append, String.toList_append]
  · simp
  · nofun

theorem mem_itemChars (plain : ∀ s ∈ items, ∀ c ∈ s.toList, IsPlain c)
    (h : c ∈ itemChars items) : IsPlain c ∨ c = '"' ∨ c = '\n' := by
  induction items with
  | nil => cases h
  | cons s items ih =>
    obtain ⟨hs, hrest⟩ := List.forall_mem_cons.mp plain
    have hkept : c ∈ s.toList → IsPlain c ∨ c = '"' ∨ c = '\n' := fun hc => .inl (hs c hc)
    cases items with
    | nil =>
      simp only [itemChars, List.mem_cons, List.mem_append, List.not_mem_nil, or_false] at h
      rcases h with rfl | h | rfl | rfl | rfl
      · exact .inr (.inl rfl)
      · exact hkept h
      · exact .inr (.inl rfl)
      · exact .inr (.inr rfl)
      · exact .inl (by decide)
    | cons t items =>
      simp only [itemChars, List.mem_cons, List.mem_append] at h
      rcases h with rfl | h | rfl | rfl | rfl | rfl | rfl | h
      · exact .inr (.inl rfl)
      · exact hkept h
      · exact .inr (.inl rfl)
      · exact .inl (by decide)
      · exact .inr (.inr rfl)
      · exact .inl (by decide)
      · exact .inl (by decide)
      · exact ih hrest h

/-- No line of the text ends in another way than by a line feed. -/
theorem unifyNewlines_writtenLines (plain : ∀ s ∈ items, ∀ c ∈ s.toList, IsPlain c) :
    Text.unifyNewlines (writtenLines items).toList = (writtenLines items).toList := by
  have hkept : ∀ cs, '\r' ∉ cs → Text.unifyNewlines cs = cs := by
    intro cs h
    induction cs with
    | nil => rfl
    | cons c cs ih =>
      rw [List.mem_cons, not_or] at h
      rw [Text.unifyNewlines]
      · rw [if_neg (Ne.symm h.1), ih h.2]
      · exact fun _ hc => absurd hc.symm h.1
  refine hkept _ fun hreturn => ?_
  cases items with
  | nil =>
    revert hreturn
    decide
  | cons s items =>
    rw [writtenLines_plain plain] at hreturn
    simp only [List.mem_cons] at hreturn
    rcases hreturn with h | h | h | h | h
    · cases h
    · cases h
    · cases h
    · cases h
    · rcases mem_itemChars plain h with h | h | h
      · revert h
        decide
      · cases h
      · cases h

/-! ### The list of a text -/

theorem stringFrom_plain (plain : ∀ c ∈ cs, IsPlain c) :
    stringFrom opened 0 done (cs ++ '"' :: rest) =
      .ok (String.ofList (done.reverse ++ cs), rest) := by
  induction cs generalizing done with
  | nil =>
    rw [List.nil_append, stringFrom.eq_def]
    dsimp only
    rw [if_pos rfl, List.append_nil]
  | cons c cs ih =>
    obtain ⟨⟨hlow, -, hquote, hslash⟩, hrest⟩ := List.forall_mem_cons.mp plain
    have hprinted : ¬c.toNat < 0x20 := by omega
    rw [List.cons_append, stringFrom.eq_def]
    dsimp only
    rw [if_neg hquote, if_neg hslash, if_neg hprinted, ih hrest, List.reverse_cons,
      List.append_assoc]
    rfl

theorem readValue_text {s : String} (plain : ∀ c ∈ s.toList, IsPlain c) :
    readValue room (fuel + 1) ('"' :: (s.toList ++ '"' :: rest)) = .ok (.text s, rest) := by
  rw [readValue, stringFrom_plain plain]
  simp [bind, Except.bind, pure, Except.pure]

theorem readItems_itemChars {s : String} {items : List String} {done : List Value}
    (plain : ∀ u ∈ s :: items, ∀ c ∈ u.toList, IsPlain c) (hfuel : items.length + 2 ≤ fuel) :
    readItems room fuel done (itemChars (s :: items)) =
      .ok (done.reverse ++ (s :: items).map .text, []) := by
  have hs := plain s (List.mem_cons_self ..)
  induction items generalizing s done fuel with
  | nil =>
    obtain ⟨fuel, rfl⟩ : ∃ k, fuel = k + 2 := ⟨fuel - 2, by simp at hfuel; omega⟩
    rw [itemChars, readItems, readValue_text hs]
    simp [bind, Except.bind, pure, Except.pure, skipBlanks, isBlank]
  | cons t items ih =>
    obtain ⟨fuel, rfl⟩ : ∃ k, fuel = k + 2 := ⟨fuel - 2, by simp at hfuel; omega⟩
    have hrest : ∀ u ∈ t :: items, ∀ c ∈ u.toList, IsPlain c := fun u hu =>
      plain u (List.mem_cons_of_mem _ hu)
    have hnext : readItems room (fuel + 1) (.text s :: done) (itemChars (t :: items)) =
        .ok ((Value.text s :: done).reverse ++ (t :: items).map .text, []) :=
      ih hrest (by simp at hfuel; omega) (hrest t (List.mem_cons_self ..))
    have hskipped : skipBlanks ('\n' :: ' ' :: ' ' :: itemChars (t :: items)) =
        itemChars (t :: items) := by
      cases items <;> rfl
    have hcomma : ∀ cs, skipBlanks (',' :: cs) = ',' :: cs := fun cs => rfl
    rw [itemChars, readItems, readValue_text hs]
    · simp only [bind, Except.bind]
      rw [hcomma]
      simp only [hskipped, hnext]
      simp
    · nofun

theorem length_le_itemChars (items : List String) : items.length ≤ (itemChars items).length := by
  induction items with
  | nil => exact Nat.le_refl _
  | cons s items ih =>
    cases items with
    | nil => simp [itemChars]
    | cons t items =>
      simp only [itemChars, List.length_cons, List.length_append] at ih ⊢
      omega

theorem readValue_lines {s : String} (plain : ∀ u ∈ s :: items, ∀ c ∈ u.toList, IsPlain c)
    (hfuel : items.length + 2 ≤ fuel) :
    readValue (room + 1) (fuel + 1) ('[' :: '\n' :: ' ' :: ' ' :: itemChars (s :: items)) =
      .ok (.list ((s :: items).map .text), []) := by
  have hitems : readItems room fuel [] (itemChars (s :: items)) =
      .ok ((s :: items).map .text, []) :=
    readItems_itemChars plain hfuel
  have hskipped : skipBlanks ('\n' :: ' ' :: ' ' :: itemChars (s :: items)) =
      itemChars (s :: items) := by
    cases items <;> rfl
  have hopen : ((itemChars (s :: items)).head? == some ']') = false := by
    cases items <;> rfl
  have henter : enter "array" (room + 1) = .ok room := rfl
  rw [readValue]
  simp only [bind, Except.bind, pure, Except.pure, henter, hskipped, hopen, hitems,
    Bool.false_eq_true, ite_false]

/-- A list is read as it was written. -/
theorem read_writtenLines (plain : ∀ s ∈ items, ∀ c ∈ s.toList, IsPlain c) :
    read (writtenLines items) = .ok (.list (items.map .text)) := by
  have hwhole : readWholeText depthLimit (writtenLines items).toList =
      .ok (.list (items.map .text)) := by
    cases items with
    | nil => rfl
    | cons s items =>
      obtain ⟨fuel, hfuel, hlength⟩ : ∃ fuel,
          2 * ('[' :: '\n' :: ' ' :: ' ' :: itemChars (s :: items)).length + 2 = fuel + 1 ∧
            items.length + 2 ≤ fuel := by
        refine ⟨_, rfl, ?_⟩
        have hitems := length_le_itemChars (s :: items)
        simp only [List.length_cons] at hitems ⊢
        omega
      have hstart : skipBlanks ('[' :: '\n' :: ' ' :: ' ' :: itemChars (s :: items)) =
          '[' :: '\n' :: ' ' :: ' ' :: itemChars (s :: items) := rfl
      have hmark : (('[' :: '\n' :: ' ' :: ' ' :: itemChars (s :: items)).head? ==
          some '\uFEFF') = false := rfl
      have hroom : depthLimit = 979 + 1 := rfl
      rw [writtenLines_plain plain, readWholeText, hmark, if_neg Bool.false_ne_true, hstart, hfuel,
        hroom, readValue_lines plain hlength]
      rfl
  rw [read, hwhole]
  rfl

/-! ### The lines of the text -/

/-- The lines of the items of a list, and the last one. -/
def itemLines : List String → List (List Char)
  | [] => []
  | [s] => [' ' :: ' ' :: ('"' :: (s.toList ++ ['"'])), [']']]
  | s :: items => (' ' :: ' ' :: ('"' :: (s.toList ++ ['"', ',']))) :: itemLines items

theorem linesFrom_append {line started : List Char} (inner : ∀ c ∈ line, Text.endsLine c = false) :
    Text.linesFrom started (line ++ '\n' :: rest) =
      (started.reverse ++ line) :: Text.linesFrom [] rest := by
  induction line generalizing started with
  | nil =>
    rw [List.nil_append, List.append_nil, Text.linesFrom]
    · rfl
    · rintro _ ⟨⟩
  | cons c line ih =>
    obtain ⟨hc, hrest⟩ := List.forall_mem_cons.mp inner
    have hreturn : c ≠ '\r' := by
      rintro rfl
      cases hc
    rw [List.cons_append, Text.linesFrom]
    · rw [if_neg (Bool.eq_false_iff.mp hc), ih hrest, List.reverse_cons, List.append_assoc]
      rfl
    · exact fun _ h => absurd h hreturn

theorem endsLine_plain (h : IsPlain c) : Text.endsLine c = false := by
  obtain ⟨hlow, hhigh, -, -⟩ := h
  unfold Text.endsLine
  simp
  omega

theorem endsLine_item {s : String} {after : List Char} (plain : ∀ c ∈ s.toList, IsPlain c)
    (hafter : ∀ c ∈ after, Text.endsLine c = false) :
    ∀ c ∈ ' ' :: ' ' :: '"' :: (s.toList ++ after), Text.endsLine c = false := by
  simp only [List.forall_mem_cons, List.forall_mem_append]
  exact ⟨by decide, by decide, by decide, fun c hc => endsLine_plain (plain c hc), hafter⟩

theorem linesFrom_itemChars {s : String}
    (plain : ∀ u ∈ s :: items, ∀ c ∈ u.toList, IsPlain c) :
    Text.linesFrom [] (' ' :: ' ' :: itemChars (s :: items)) = itemLines (s :: items) := by
  have hs := plain s (List.mem_cons_self ..)
  induction items generalizing s with
  | nil =>
    have hsplit : ' ' :: ' ' :: itemChars [s] =
        (' ' :: ' ' :: '"' :: (s.toList ++ ['"'])) ++ '\n' :: [']'] := by
      simp [itemChars]
    rw [hsplit, linesFrom_append (endsLine_item hs (Text.forall_of_all (by decide)))]
    rfl
  | cons t items ih =>
    have hsplit : ' ' :: ' ' :: itemChars (s :: t :: items) =
        (' ' :: ' ' :: '"' :: (s.toList ++ ['"', ','])) ++
          '\n' :: (' ' :: ' ' :: itemChars (t :: items)) := by
      simp [itemChars]
    have hrest : ∀ u ∈ t :: items, ∀ c ∈ u.toList, IsPlain c := fun u hu =>
      plain u (List.mem_cons_of_mem _ hu)
    rw [hsplit, linesFrom_append (endsLine_item hs (Text.forall_of_all (by decide))),
      ih hrest (hrest t (List.mem_cons_self ..))]
    rfl

theorem lines_writtenLines {s : String} (plain : ∀ u ∈ s :: items, ∀ c ∈ u.toList, IsPlain c) :
    Text.lines (writtenLines (s :: items)).toList = ['['] :: itemLines (s :: items) := by
  have hfirst : Text.linesFrom [] (['['] ++ '\n' :: (' ' :: ' ' :: itemChars (s :: items))) =
      ['['] :: Text.linesFrom [] (' ' :: ' ' :: itemChars (s :: items)) :=
    linesFrom_append (Text.forall_of_all (by decide))
  rw [writtenLines_plain plain, Text.lines, ← linesFrom_itemChars plain]
  exact hfirst

end Reroll.Json
