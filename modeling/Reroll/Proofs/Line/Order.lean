import Mathlib.Algebra.Order.Ring.Rat
import Mathlib.Data.List.Sort
import Mathlib.Data.Prod.Lex
import Mathlib.Data.String.Basic
import Reroll.Proofs.Line.Gather

/-!
# The order of lines

Lines with finite confidences are in a strict order: by confidence, by length, then by a text. In a
tie of canonical texts this is the text itself, and in the ranking the canonical one. So what is
gathered does not depend on the order of the readings, nor on how they are spread over the images,
nor on how often one of them comes up (`gather_ranks`).
-/

namespace Reroll

/-- What a line says, with its confidence as an exact number. -/
structure Content where
  text : String
  canonical : String
  confidence : ℚ

namespace Content

/-- A place in an order: more confident first, then longer, then by a text. Lines of one canonical
text are told apart by their `choice`, and the lines kept are ranked by their `key`. -/
def place (c : Content) (last : String) : ℚ ×ₗ ℤ ×ₗ String :=
  toLex (-c.confidence, toLex (-(c.text.length : ℤ), last))

def choice (c : Content) : ℚ ×ₗ ℤ ×ₗ String := c.place c.text

def key (c : Content) : ℚ ×ₗ ℤ ×ₗ String := c.place c.canonical

variable {c d : Content}

theorem place_lt {u v : String} :
    c.place u < d.place v ↔ d.confidence < c.confidence ∨ c.confidence = d.confidence ∧
      (d.text.length < c.text.length ∨ c.text.length = d.text.length ∧ u < v) := by
  simp [place, Prod.Lex.toLex_lt_toLex]

theorem canonical_of_key (h : c.key = d.key) : c.canonical = d.canonical :=
  congrArg (fun place => (ofLex (ofLex place).2).2) h

theorem eq_of_choice (hcanonical : c.canonical = d.canonical) (h : c.choice = d.choice) :
    c = d := by
  have hconfidence : -c.confidence = -d.confidence := congrArg (fun place => (ofLex place).1) h
  have htext : c.text = d.text := congrArg (fun place => (ofLex (ofLex place).2).2) h
  obtain ⟨text, canonical, confidence⟩ := c
  cases hcanonical
  cases htext
  cases neg_injective hconfidence
  rfl

end Content

namespace Line

/-- The confidence as an exact number; zero where it is not finite. -/
def value (l : Line) : ℚ :=
  match l.rank? with
  | some (.value q) => q
  | _ => 0

def content (l : Line) : Content := ⟨l.text, l.canonical, l.value⟩

def IsFinite (l : Line) : Prop := l.rank? = some (.value l.value)

/-- A reading has a text, or nothing in its place, and a finite confidence. -/
def IsMeasured (r : Reading) : Prop :=
  (∃ text, r.text.textFor "strip" = .ok text) ∧
    ∃ confidence q, r.confidence.toReal = .ok confidence ∧ confidence.magnitude? = some (.value q)

variable {t : Thresholds} {known : Option Catalog} {r : Reading} {a b l : Line}
variable {P : Line → Prop} {lines lines' : List Line}

theorem IsMeasured.readable (h : IsMeasured r) : IsReadable r := by
  obtain ⟨htext, confidence, -, hconfidence, -⟩ := h
  exact ⟨htext, confidence, hconfidence⟩

theorem IsMeasured.finite (h : IsMeasured r) (hl : ofReading? t known r = .ok (some l)) :
    l.IsFinite := by
  obtain ⟨-, confidence, q, hconfidence, hfinite⟩ := h
  obtain ⟨-, -, -, -, hsame⟩ := ofReading?_some hl
  rw [hconfidence] at hsame
  cases hsame
  have hrank : l.rank? = some (.value q) := hfinite
  rw [IsFinite, value, hrank]

/-- The comparison by confidence, by length, then by texts is the order of places. -/
theorem compare_eq (ha : a.IsFinite) (hb : b.IsFinite) (u v : String) :
    (if !rankSame a.rank? b.rank? then rankAbove a.rank? b.rank?
      else if a.text.length ≠ b.text.length then decide (b.text.length < a.text.length)
      else decide (u < v)) = decide (a.content.place u < b.content.place v) := by
  rw [ha, hb, Bool.eq_iff_iff, decide_eq_true_iff, Content.place_lt]
  simp only [rankSame, rankAbove, Magnitude.lt, content]
  rcases lt_trichotomy a.value b.value with hlt | heq | hgt
  · simp [hlt, hlt.not_gt, hlt.ne]
  · rcases lt_trichotomy a.text.length b.text.length with hshort | hsame | hlong
    · simp [heq, hshort.not_gt, hshort.ne]
    · simp [heq, hsame]
    · simp [heq, hlong, hlong.ne']
  · simp [hgt, hgt.not_gt]

theorem before_eq (ha : a.IsFinite) (hb : b.IsFinite) :
    before a b = decide (a.content.key < b.content.key) :=
  compare_eq ha hb a.canonical b.canonical

theorem replaces_eq (ha : a.IsFinite) (hb : b.IsFinite) :
    replaces a b = decide (a.content.choice < b.content.choice) :=
  compare_eq ha hb a.text b.text

/-! ### The best lines, ranked -/

def AsGood (a b : Line) : Prop := a.content.choice ≤ b.content.choice

instance : IsPreorder Line AsGood where
  refl _ := le_refl _
  trans _ _ _ := le_trans

theorem settles_of_finite (ha : a.IsFinite) (hb : b.IsFinite) : Settles AsGood a b := by
  unfold Settles
  rw [replaces_eq ha hb]
  exact ⟨fun h => (of_decide_eq_true h).le, fun h => not_lt.mp (of_decide_eq_false h)⟩

theorem rank_ordered (finite : ∀ l ∈ lines, l.IsFinite) (distinct : (lines.map canonical).Nodup) :
    (rank lines).Pairwise fun a b => a.content.key < b.content.key := by
  have hplaced : (lines.all fun l => l.rank?.isSome) = true := by
    refine List.all_eq_true.mpr fun l hl => ?_
    rw [finite l hl]
    rfl
  -- only among finite lines is the comparison made an order, so sort by one that always is
  have hsort : rank lines =
      lines.mergeSort fun a b => decide (a.content.key ≤ b.content.key) := by
    have hsame := List.map_mergeSort (r := fun a b => !before b a)
      (s := fun a b => decide (a.content.key ≤ b.content.key)) (f := id) (l := lines) ?_
    · rw [rank, if_pos hplaced]
      simpa using hsame
    · intro a ha b hb
      dsimp only [id]
      rw [before_eq (finite b hb) (finite a ha), ← decide_not]
      exact decide_eq_decide.mpr not_lt
  have hordered : (rank lines).Pairwise fun a b => a.content.key ≤ b.content.key := by
    rw [hsort]
    refine (List.pairwise_mergeSort (fun a b c hab hbc => ?_) (fun a b => ?_) lines).imp
      of_decide_eq_true
    · exact decide_eq_true ((of_decide_eq_true hab).trans (of_decide_eq_true hbc))
    · rw [Bool.or_eq_true, decide_eq_true_iff, decide_eq_true_iff]
      exact le_total _ _
  have hdistinct : (rank lines).Pairwise fun a b => a.canonical ≠ b.canonical :=
    List.pairwise_map.mp (((rank_perm lines).map canonical).nodup_iff.mpr distinct)
  refine hordered.imp₂ (fun a b hle hne => ?_) hdistinct
  exact lt_of_le_of_ne hle fun hkey => hne (Content.canonical_of_key hkey)

theorem eq_of_ordered (h : lines.Pairwise fun a b => a.content.key < b.content.key)
    (h' : lines'.Pairwise fun a b => a.content.key < b.content.key)
    (same : ∀ l, l ∈ lines ↔ l ∈ lines') : lines = lines' := by
  have : Std.Irrefl fun a b : Line => a.content.key < b.content.key := ⟨fun a => lt_irrefl _⟩
  have : Std.Antisymm fun a b : Line => a.content.key < b.content.key :=
    ⟨fun a b hab hba => absurd (hab.trans hba) (lt_irrefl _)⟩
  exact h.eq_of_mem_iff h' same

/-- The best of the lines drawn, in the order of their places. -/
structure Ranked (P : Line → Prop) (lines : List Line) : Prop where
  kept : Kept AsGood P lines
  ordered : lines.Pairwise fun a b => a.content.key < b.content.key

theorem Ranked.mem_content (h : Ranked P lines) (h' : Ranked P lines') (hl : l ∈ lines) :
    l.content ∈ lines'.map content := by
  obtain ⟨l', hl', hcanonical', hgood'⟩ := h'.kept.best l (h.kept.drawn l hl)
  obtain ⟨k, hk, hcanonical, hgood⟩ := h.kept.best l' (h'.kept.drawn l' hl')
  have hsame : k = l :=
    List.inj_on_of_nodup_map h.kept.distinct hk hl (hcanonical.trans hcanonical')
  subst hsame
  refine List.mem_map.mpr ⟨l', hl', ?_⟩
  exact Content.eq_of_choice hcanonical' (le_antisymm hgood' hgood)

/-- There is only one way to rank the best of the lines drawn, but for equal confidences. -/
theorem Ranked.content_eq (h : Ranked P lines) (h' : Ranked P lines') :
    lines.map content = lines'.map content := by
  have : Std.Irrefl fun c d : Content => c.key < d.key := ⟨fun c => lt_irrefl c.key⟩
  have : Std.Antisymm fun c d : Content => c.key < d.key :=
    ⟨fun c d hcd hdc => absurd (hcd.trans hdc) (lt_irrefl c.key)⟩
  refine List.Pairwise.eq_of_mem_iff (r := fun c d : Content => c.key < d.key)
    (List.pairwise_map.mpr h.ordered) (List.pairwise_map.mpr h'.ordered) fun c => ?_
  constructor
  · intro hc
    obtain ⟨l, hl, rfl⟩ := List.mem_map.mp hc
    exact h.mem_content h' hl
  · intro hc
    obtain ⟨l, hl, rfl⟩ := List.mem_map.mp hc
    exact h'.mem_content h hl

theorem gather_ranked (known : Option Catalog) (numeric : t.Numeric) (sets : List (List Reading))
    (measured : ∀ r ∈ sets.flatten, IsMeasured r) :
    ∃ lines, gather sets known t = .ok lines ∧ Ranked (IsFrom t known sets.flatten) lines := by
  have hfinite : ∀ l, IsFrom t known sets.flatten l → l.IsFinite := by
    rintro l ⟨r, hr, hl⟩
    exact (measured r hr).finite hl
  obtain ⟨kept, hgather, hkept⟩ := gather_kept known numeric sets
    (fun r hr => (measured r hr).readable) fun candidate l hcandidate hl =>
      settles_of_finite (hfinite candidate hcandidate) (hfinite l hl)
  refine ⟨rank kept, hgather, hkept.perm (rank_perm kept), ?_⟩
  exact rank_ordered (fun l hl => hfinite l (hkept.drawn l hl)) hkept.distinct

/-- From readings with finite confidences one line is gathered for each canonical text among the
lines that pass the filters, and no other line: the most confident one, then the longest, then the
first in the order of texts. The lines are in strict order by confidence, by length, then by
canonical text. Readings that come in another order, in other sets or more often give the same. -/
theorem gather_ranks (known : Option Catalog) (t : Thresholds) (sets : List (List Reading))
    (numeric : t.Numeric) (measured : ∀ r ∈ sets.flatten, IsMeasured r) :
    ∃ lines, gather sets known t = .ok lines ∧
      (∀ l ∈ lines, IsFrom t known sets.flatten l) ∧
      (lines.map canonical).Nodup ∧
      (∀ k, IsFrom t known sets.flatten k →
        ∃ l ∈ lines, l.canonical = k.canonical ∧ l.content.choice ≤ k.content.choice) ∧
      lines.Pairwise (fun a b => a.content.key < b.content.key) ∧
      ∀ sets' : List (List Reading), (∀ r, r ∈ sets'.flatten ↔ r ∈ sets.flatten) →
        ∃ lines', gather sets' known t = .ok lines' ∧
          lines'.map content = lines.map content := by
  obtain ⟨lines, hlines, hranked⟩ := gather_ranked known numeric sets measured
  refine ⟨lines, hlines, hranked.kept.drawn, hranked.kept.distinct, hranked.kept.best,
    hranked.ordered, fun sets' hsets' => ?_⟩
  obtain ⟨lines', hlines', hranked'⟩ := gather_ranked known numeric sets' fun r hr =>
    measured r ((hsets' r).mp hr)
  have hfrom : ∀ l, IsFrom t known sets'.flatten l ↔ IsFrom t known sets.flatten l := by
    intro l
    exact exists_congr fun r => and_congr_left' (hsets' r)
  have hsame : Ranked (IsFrom t known sets.flatten) lines' :=
    ⟨hranked'.kept.congr hfrom, hranked'.ordered⟩
  exact ⟨lines', hlines', hsame.content_eq hranked⟩

/-- The same line of a tooltip, read well and read badly. -/
def clear : Reading where
  text := .text "+6 to Level of all Spell Skills"
  confidence := .num (.float 80.0)

def blurred : Reading where
  text := .text "+6 to level of all spell skills"
  confidence := .num (.float 40.0)

theorem clear_measured : IsMeasured clear := by
  have hconfidence : Decimal.Binary.ofFloat 80.0 = .finite false 5629499534213120 (-46) := by
    decide +kernel
  exact ⟨⟨_, textFor_text ..⟩, .float 80.0, _, rfl, by rw [Number.magnitude?, hconfidence]; rfl⟩

theorem blurred_measured : IsMeasured blurred := by
  have hconfidence : Decimal.Binary.ofFloat 40.0 = .finite false 5629499534213120 (-47) := by
    decide +kernel
  exact ⟨⟨_, textFor_text ..⟩, .float 40.0, _, rfl, by rw [Number.magnitude?, hconfidence]; rfl⟩

theorem gather_ranks_clear_first :
    ∃ lines, gather [[clear, blurred]] none {} = .ok lines ∧
      ∃ lines', gather [[blurred, clear], [blurred]] none {} = .ok lines' ∧
        lines'.map content = lines.map content := by
  have hmeasured : ∀ r ∈ [[clear, blurred]].flatten, IsMeasured r := by
    intro r hr
    rcases List.mem_pair.mp hr with rfl | rfl
    · exact clear_measured
    · exact blurred_measured
  obtain ⟨lines, hlines, -, -, -, -, hsame⟩ :=
    gather_ranks none {} [[clear, blurred]] ⟨rfl, rfl⟩ hmeasured
  refine ⟨lines, hlines, hsame _ fun r => ?_⟩
  simp [or_comm]

example : (gather [[blurred, clear], [blurred]] none {}).toOption.map (List.map text) =
    some ["+6 to Level of all Spell Skills"] := by
  decide +kernel

end Line

end Reroll
