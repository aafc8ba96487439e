import Reroll.Proofs.Line.Gather
import Reroll.Proofs.Modifier.Match
import Reroll.Proofs.Run.Rule
import Reroll.Proofs.Run.Trial

/-!
# What a check sees

A run visits nodes, and a visit of a check has looks: the grab, the preparation and one recognition
for each image. When all of them work the visit has readings, and it is a sighting when one of the
lines that come from them satisfies a target and the check leads to the end with it. The outcome of
a check tells whether a target was satisfied, whatever the devices do (`check_meets`).
-/

namespace Reroll

variable {τ ι δ σ α : Type}

open Scene Act

/-- A visit of a node, with its looks in order. -/
structure Visit (τ ι : Type) where
  node : Node
  looks : List (Deed τ ι) := []

namespace Visit

/-- A look belongs to the latest visit. -/
def addLook (d : Deed τ ι) : List (Visit τ ι) → List (Visit τ ι)
  | [] => []
  | v :: rest => { v with looks := v.looks ++ [d] } :: rest

/-- The visits that a journal tells about, the latest first. -/
def ofJournal : List (Note τ ι) → List (Visit τ ι)
  | [] => []
  | e :: earlier =>
    match e.deed with
    | .dispatched n => { node := n } :: ofJournal earlier
    | d => if d.isLook then addLook d (ofJournal earlier) else ofJournal earlier

/-- The readings of images, if every one of them was recognized. -/
def recognizedAll : List ι → List (Deed τ ι) → Option (List (List Reading))
  | [], [] => some []
  | _ :: images, .recognized _ (.ok readings) :: rest =>
    (recognizedAll images rest).map (readings :: ·)
  | _, _ => none

/-- The readings of a visit, if capture and recognition worked. -/
def readings? (v : Visit τ ι) : Option (List (List Reading)) :=
  match v.looks with
  | .grabbed _ (.ok _) :: .prepared _ (.ok images) :: rest => recognizedAll images rest
  | _ => none

/-- The targets of a check: its own, or the general ones if it has none. -/
def sought (targets : List Spec) (n : Node) : List Spec :=
  match n.data with
  | .check _ own => if own.isEmpty then targets else own
  | _ => []

/-- A line that comes from the readings of a visit satisfies a target of its check. -/
structure Satisfies (r : Rig τ ι δ σ) (e : Exclusion) (v : Visit τ ι) (spec : Spec)
    (line : Line) : Prop where
  target : spec ∈ sought r.targets v.node
  source : ∃ sets, v.readings? = some sets ∧
    Line.IsFrom r.settings.thresholds r.known sets.flatten line
  accepted : spec.accepts e line.canonical = .ok true

/-- The line has the stripped text of a reading of the visit, and its canonical text. -/
def Shows (v : Visit τ ι) (line : Line) : Prop :=
  ∃ sets reading text, v.readings? = some sets ∧ reading ∈ sets.flatten ∧
    reading.text = .text text ∧ line.text = String.ofList (Text.strip text.toList) ∧
    line.canonical = String.ofList (Canonical.canonicalChars (Text.strip text.toList))

/-- A visit of a check that leads to the end with what it saw. -/
structure Sighted (r : Rig τ ι δ σ) (g : Graph) (e : Exclusion) (v : Visit τ ι) : Prop where
  kind : v.node.kind = .check
  final : (g.nextEdge? v.node.id (some Graph.onFound)).map Edge.target = some Graph.endId
  seen : ∃ spec line, Satisfies r e v spec line

/-- A reading has a text and a confidence that is a number. Numbers are read from the canonical
text, where digits with only brackets between them are one run; no run is too long to be read. -/
def Legible (x : Reading) : Prop :=
  ∃ text confidence, x.text = .text text ∧ x.confidence.toReal = .ok confidence ∧
    Spec.Countable (Canonical.canonicalChars (Text.strip text.toList))

/-- No visit is a sighting. -/
def Clear (r : Rig τ ι δ σ) (g : Graph) (e : Exclusion) (visits : List (Visit τ ι)) : Prop :=
  ∀ v ∈ visits, ¬Sighted r g e v

/-- The latest visit is one of the node, with such looks; none before it is a sighting. -/
def Looking (r : Rig τ ι δ σ) (g : Graph) (e : Exclusion) (n : Node) (looks : List (Deed τ ι))
    (visits : List (Visit τ ι)) : Prop :=
  ∃ rest, visits = ⟨n, looks⟩ :: rest ∧ Clear r g e rest

/-- The latest visit is a sighting, of the line and the target that were hit, and the only one. -/
def Hit (r : Rig τ ι δ σ) (g : Graph) (e : Exclusion) (hit : Match) (visits : List (Visit τ ι)) :
    Prop :=
  ∃ v rest, visits = v :: rest ∧ Clear r g e rest ∧ Sighted r g e v ∧
    Satisfies r e v hit.spec hit.line ∧ Shows v hit.line

/-- The visits of a scene are such. -/
def Seen (P : List (Visit τ ι) → Prop) (s : Scene τ ι δ σ) : Prop := P (ofJournal s.journal)

variable {r : Rig τ ι δ σ} {g : Graph} {e : Exclusion} {n : Node} {s t : Scene τ ι δ σ}
variable {P Q : List (Visit τ ι) → Prop}

/-! ### What deeds do to visits -/

/-- Deeds that neither begin a visit nor are looks. -/
def isAside : Deed τ ι → Bool
  | .dispatched _ => false
  | d => !d.isLook

theorem ofJournal_append {new journal : List (Note τ ι)}
    (h : ∀ e ∈ new, isAside e.deed = true) : ofJournal (new ++ journal) = ofJournal journal := by
  induction new with
  | nil => rfl
  | cons e new ih =>
    have hd := h e (List.mem_cons_self ..)
    have ih := ih fun d hd => h d (List.mem_cons_of_mem _ hd)
    obtain ⟨d, state⟩ := e
    cases d <;> first | exact ih | cases hd

theorem Seen.of_grows (h : Grows (fun e => isAside e.deed = true) s t) (hs : Seen P s) :
    Seen P t := by
  obtain ⟨new, hj, hnew⟩ := h.journal
  rw [Seen, hj, ofJournal_append hnew]
  exact hs

theorem Seen.of_steady (h : Steady (·.isIdle = true) s t) (hs : Seen P s) : Seen P t := by
  refine hs.of_grows (h.grows.mono ?_)
  rintro ⟨d, state⟩ ⟨hd, -⟩
  cases d <;> first | rfl | cases hd

theorem Seen.of_release (h : Grows (fun e => (e.deed.isIdle || e.deed.isTouch) = true) s t)
    (hs : Seen P s) : Seen P t := by
  refine hs.of_grows (h.mono ?_)
  rintro ⟨d, state⟩ hd
  cases d <;> first | rfl | cases hd

theorem Seen.of_still (h : Steady (fun _ => False) s t) (hs : Seen P s) : Seen P t :=
  hs.of_grows (h.grows.mono fun _ he => he.1.elim)

theorem Seen.mono (hs : Seen P s) (h : ∀ visits, P visits → Q visits) : Seen Q s := h _ hs

/-- A look is one more of the latest visit. -/
theorem Looking.noted {looks : List (Deed τ ι)} {d : Deed τ ι} (hd : d.isLook = true)
    (h : Noted d s t) (hs : Seen (Looking r g e n looks) s) :
    Seen (Looking r g e n (looks ++ [d])) t := by
  obtain ⟨rest, hvisits, hclear⟩ := hs
  refine ⟨rest, ?_, hclear⟩
  rw [h.journal]
  cases d <;> first | simp [ofJournal, Deed.isLook, hvisits, addLook]; done | cases hd

/-- When the latest visit is no sighting either, none is. -/
theorem Looking.clear {looks : List (Deed τ ι)} {visits : List (Visit τ ι)}
    (h : Looking r g e n looks visits) (hn : ¬Sighted r g e ⟨n, looks⟩) : Clear r g e visits := by
  obtain ⟨rest, rfl, hclear⟩ := h
  intro v hv
  rcases List.mem_cons.mp hv with rfl | hv
  · exact hn
  · exact hclear v hv

/-- Without readings nothing satisfies a target. -/
theorem not_satisfies_of_readings {v : Visit τ ι} {spec : Spec} {line : Line}
    (h : v.readings? = none) : ¬Satisfies r e v spec line := by
  rintro ⟨-, ⟨sets, hsets, -⟩, -⟩
  rw [h] at hsets
  cases hsets

/-! ### Looks of a check -/

/-- The latest visit is one of the node, and some look of it failed. -/
def Blind (r : Rig τ ι δ σ) (g : Graph) (e : Exclusion) (n : Node) (visits : List (Visit τ ι)) :
    Prop :=
  ∃ looks, Looking r g e n looks visits ∧ (⟨n, looks⟩ : Visit τ ι).readings? = none

theorem Blind.clear {visits : List (Visit τ ι)} (h : Blind r g e n visits) :
    Clear r g e visits := by
  obtain ⟨looks, hlooking, hreadings⟩ := h
  refine hlooking.clear ?_
  rintro ⟨-, -, spec, line, hsatisfies⟩
  exact not_satisfies_of_readings hreadings hsatisfies

theorem capture_meets (region : Region) : Meets (Seen (Looking r g e n []))
    (Step.capture r region)
    (fun images => Seen fun visits => ∃ image,
      Looking r g e n [.grabbed region (.ok image), .prepared image (.ok images)] visits)
    (fun _ => Seen (Blind r g e n)) := by
  refine .bind (M := fun image => Seen (Looking r g e n [.grabbed region (.ok image)]))
    (.operate ?_ ?_) fun image => .operate ?_ ?_
  · exact fun image s t _ ht hs => Looking.noted rfl ht hs
  · exact fun f s t ht hs => ⟨_, Looking.noted rfl ht hs, rfl⟩
  · exact fun images s t _ ht hs => ⟨image, Looking.noted rfl ht hs⟩
  · exact fun f s t ht hs => ⟨_, Looking.noted rfl ht hs, rfl⟩

/-- The images of a visit are recognized in order until one of them is not. -/
theorem recognizeAll_meets (images : List ι) (before : List (Deed τ ι)) :
    Meets (Seen (Looking r g e n before)) (Step.recognizeAll r images)
      (fun sets => Seen fun visits => ∃ looks,
        Looking r g e n (before ++ looks) visits ∧ recognizedAll images looks = some sets)
      (fun _ => Seen fun visits => ∃ looks,
        Looking r g e n (before ++ looks) visits ∧ recognizedAll images looks = none) := by
  induction images generalizing before with
  | nil => exact .pure fun s hs => ⟨[], (List.append_nil before).symm ▸ hs, rfl⟩
  | cons image rest ih =>
    refine .bind (M := fun readings =>
      Seen (Looking r g e n (before ++ [.recognized image (.ok readings)]))) (.operate ?_ ?_) ?_
    · exact fun readings s t _ ht hs => Looking.noted rfl ht hs
    · exact fun f s t ht hs => ⟨_, Looking.noted rfl ht hs, rfl⟩
    · intro readings
      refine .bind ((ih (before ++ [.recognized image (.ok readings)])).mono (fun _ hs => hs)
        (fun _ _ hs => hs) ?_) fun sets => .pure ?_
      · rintro f s ⟨looks, hlooking, hnone⟩
        exact ⟨.recognized image (.ok readings) :: looks, by simpa using hlooking,
          by simp [recognizedAll, hnone]⟩
      · rintro s ⟨looks, hlooking, hsome⟩
        exact ⟨.recognized image (.ok readings) :: looks, by simpa using hlooking,
          by simp [recognizedAll, hsome]⟩

/-- The readings that the device gives are legible. -/
def GivesLegible (r : Rig τ ι δ σ) : Prop :=
  ∀ image devices readings, (r.devices.recognize image devices).1.result = .ok readings →
    ∀ x ∈ readings, Legible x

theorem recognizeAll_legible (legible : GivesLegible r) (images : List ι) :
    Meets (fun _ => True) (Step.recognizeAll r images)
      (fun sets _ => ∀ x ∈ sets.flatten, Legible x) (fun _ _ => True) := by
  induction images with
  | nil => exact .pure fun _ _ x hx => by cases hx
  | cons image rest ih =>
    refine .bind (M := fun readings _ => (∀ x ∈ readings, Legible x) ∧ True) (.operate ?_ ?_) ?_
    · exact fun readings s _ hresult _ _ => ⟨legible image s.devices readings hresult, trivial⟩
    · exact fun _ _ _ _ _ => trivial
    · refine fun readings => .of_fact fun hreadings => .bind ih fun sets => .pure ?_
      intro _ hsets x hx
      rw [List.flatten_cons, List.mem_append] at hx
      rcases hx with hx | hx
      · exact hreadings x hx
      · exact hsets x hx

theorem checkTarget_ok {targets specs : List Spec} {region : Region}
    (h : Step.checkTarget targets n = .ok (region, specs)) : specs = sought targets n := by
  unfold Step.checkTarget at h
  unfold sought
  split at h
  · next own hdata =>
    rw [hdata]
    dsimp only at h ⊢
    generalize (if own.isEmpty then targets else own) = l at h ⊢
    split at h
    · cases h
    · split at h
      · cases h
      · cases h
        rfl
  · cases h

/-- What the search in a visit comes to: a line that satisfies a target, or there is none. -/
def Verdict (r : Rig τ ι δ σ) (e : Exclusion) (v : Visit τ ι) : Option Match → Prop
  | none => ∀ spec line, ¬Satisfies r e v spec line
  | some hit => Satisfies r e v hit.spec hit.line ∧ Shows v hit.line

/-- The outcome of a check is what the search in the latest visit comes to. -/
def Judged (r : Rig τ ι δ σ) (g : Graph) (e : Exclusion) (n : Node) (o : StepOutcome)
    (visits : List (Visit τ ι)) : Prop :=
  ∃ looks, Looking r g e n looks visits ∧ Verdict r e ⟨n, looks⟩ o.hit

variable {word : String}

/-- Legible readings are gathered and searched without a fault. As the lines have all canonical
texts of the readings, what the search comes to holds of the visit. -/
theorem search_ok (context : e.context = .text word) (numeric : r.settings.thresholds.Numeric)
    {v : Visit τ ι} {sets : List (List Reading)} (hreadings : v.readings? = some sets)
    (legible : ∀ x ∈ sets.flatten, Legible x) :
    ∃ lines hit?, Line.gather sets r.known r.settings.thresholds = .ok lines ∧
      Match.find lines (sought r.targets v.node) e = .ok hit? ∧ Verdict r e v hit? := by
  have hplain : ∀ x ∈ sets.flatten, Line.IsPlain x := by
    intro x hx
    obtain ⟨text, confidence, htext, hconfidence, -⟩ := legible x hx
    exact ⟨text, confidence, htext, hconfidence⟩
  obtain ⟨lines, hlines, hfrom, hkept⟩ :=
    Line.gather_ok r.known numeric sets fun x hx => (hplain x hx).readable
  have haccepts : ∀ s ∈ sought r.targets v.node, ∀ l ∈ lines,
      ∃ b, s.accepts e l.canonical = .ok b := by
    intro s _ l hl
    obtain ⟨x, hx, hl⟩ := hfrom l hl
    obtain ⟨text, confidence, htext, -, hcountable⟩ := legible x hx
    refine Spec.accepts_ok context ?_
    rw [(Line.ofReading?_text htext hl).2, String.toList_ofList]
    exact hcountable
  rcases Match.firstFrom_first 0 haccepts with ⟨hnone, hall⟩ | ⟨m, hm, hfirst⟩
  · refine ⟨lines, none, hlines, hnone, ?_⟩
    rintro spec line ⟨htarget, ⟨sets', hsets', hsource⟩, haccepted⟩
    rw [hreadings] at hsets'
    cases hsets'
    obtain ⟨k, hk, hcanonical⟩ := hkept line hsource
    have hfalse := hall spec htarget k hk
    rw [hcanonical, haccepted] at hfalse
    cases hfalse
  · have hline := hfrom _ hfirst.line_mem
    refine ⟨lines, some m, hlines, hm,
      ⟨hfirst.spec_mem, ⟨sets, hreadings, hline⟩, hfirst.accepted⟩, ?_⟩
    obtain ⟨reading, hreading, hbecomes⟩ := hline
    obtain ⟨text, -, htext, -⟩ := legible reading hreading
    exact ⟨sets, reading, text, hreadings, hreading, htext, Line.ofReading?_text htext hbecomes⟩

theorem examine_meets (exclusion : r.exclusion = .ok e) (context : e.context = .text word)
    (numeric : r.settings.thresholds.Numeric) {looks : List (Deed τ ι)}
    {sets : List (List Reading)} (hreadings : (⟨n, looks⟩ : Visit τ ι).readings? = some sets)
    (legible : ∀ x ∈ sets.flatten, Legible x) {E : Fault → Scene τ ι δ σ → Prop} :
    Meets (Seen (Looking r g e n looks)) (Step.examine r (sought r.targets n) sets)
      (fun o => Seen (Judged r g e n o)) E := by
  obtain ⟨lines, hit?, hlines, hhit, hverdict⟩ := search_ok context numeric hreadings legible
  refine .bind (M := fun found s => found = lines ∧ Seen (Looking r g e n looks) s)
    (.lift_ok hlines fun s hs => ⟨rfl, hs⟩) fun found => .of_fact fun hfound => ?_
  subst hfound
  refine .bind (M := fun _ => Seen (Looking r g e n looks)) (.tell fun _ _ => Seen.of_steady)
    fun _ => ?_
  refine .bind (M := fun x s => x = e ∧ Seen (Looking r g e n looks) s)
    (.lift_ok exclusion fun s hs => ⟨rfl, hs⟩) fun x => .of_fact fun hx => ?_
  subst hx
  exact .bind (M := fun hit? => Seen (Judged r g x n { hit := hit?, lines := found }))
    (.lift_ok hhit fun s hs => ⟨looks, hs, hverdict⟩) fun _ => .pure fun _ hs => hs

/-- A failed look is judged as seeing nothing. -/
theorem Blind.judged {visits : List (Visit τ ι)} (h : Blind r g e n visits) :
    Judged r g e n {} visits := by
  obtain ⟨looks, hlooking, hreadings⟩ := h
  exact ⟨looks, hlooking, fun _ _ => not_satisfies_of_readings hreadings⟩

/-- What is known after trying an act that looks: it worked, or a look failed. -/
def Tried (r : Rig τ ι δ σ) (g : Graph) (e : Exclusion) (n : Node)
    (M : α → List (Visit τ ι) → Prop) : Option α → List (Visit τ ι) → Prop
  | none, visits => Blind r g e n visits
  | some v, visits => M v visits

theorem trying_meets {c : Capability} {a : Act τ ι δ σ α} {P : Scene τ ι δ σ → Prop}
    {M : α → List (Visit τ ι) → Prop}
    (ha : Meets P a (fun v => Seen (M v)) (fun _ => Seen (Blind r g e n))) :
    Meets P (Step.trying r c n a) (fun v? => Seen (Tried r g e n M v?))
      (fun _ => Seen (Clear r g e)) := by
  refine Step.trying_meets ha ?_ ?_ ?_
  · exact fun v s t hst hs => Seen.of_steady hst hs
  · exact fun text s hs => hs.mono fun _ => Blind.clear
  · intro f s t hst hs
    have ht : Seen (Blind r g e n) t := hs.of_steady hst
    exact ⟨ht, fun _ => ht.mono fun _ => Blind.clear⟩

/-- The visit has such readings, and they are legible. -/
def Read (r : Rig τ ι δ σ) (g : Graph) (e : Exclusion) (n : Node) (sets : List (List Reading))
    (visits : List (Visit τ ι)) : Prop :=
  (∀ x ∈ sets.flatten, Legible x) ∧ ∃ looks,
    (⟨n, looks⟩ : Visit τ ι).readings? = some sets ∧ Looking r g e n looks visits

theorem recognize_meets (legible : GivesLegible r) (region : Region) (image : ι) (images : List ι) :
    Meets (Seen (Looking r g e n [.grabbed region (.ok image), .prepared image (.ok images)]))
      (Step.recognizeAll r images) (fun sets => Seen (Read r g e n sets))
      (fun _ => Seen (Blind r g e n)) := by
  refine ((recognizeAll_meets images _).and (recognizeAll_legible legible images)).mono
    (fun _ hs => ⟨hs, trivial⟩) ?_ ?_
  · rintro sets s ⟨⟨looks, hlooking, hsets⟩, hlegible⟩
    exact ⟨hlegible, .grabbed region (.ok image) :: .prepared image (.ok images) :: looks,
      hsets, hlooking⟩
  · rintro f s ⟨⟨looks, hlooking, hnone⟩, -⟩
    exact ⟨.grabbed region (.ok image) :: .prepared image (.ok images) :: looks,
      hlooking, hnone⟩

/-- Whatever the devices do, a check comes to what the visit shows. One that ends with a fault has
seen nothing. -/
theorem check_meets (exclusion : r.exclusion = .ok e) (context : e.context = .text word)
    (numeric : r.settings.thresholds.Numeric) (legible : GivesLegible r) :
    Meets (Seen (Looking r g e n [])) (Step.check r n) (fun o => Seen (Judged r g e n o))
      (fun _ => Seen (Clear r g e)) := by
  refine .bind (M := fun x s => x.2 = sought r.targets n ∧ Seen (Looking r g e n []) s)
    (.lift ?_ ?_) fun x => .of_fact fun htargets => ?_
  · exact fun x s hx hs => ⟨checkTarget_ok hx, hs⟩
  · exact fun f s _ hs => hs.mono fun _ h => Blind.clear ⟨[], h, rfl⟩
  obtain ⟨region, specs⟩ := x
  dsimp only at htargets ⊢
  subst htargets
  refine .bind (trying_meets (capture_meets region)) fun images? => ?_
  cases images? with
  | none => exact .pure fun s hs => hs.mono fun _ => Blind.judged
  | some images =>
    refine .of_exists fun image => ?_
    refine .bind (trying_meets (recognize_meets legible region image images)) fun sets? => ?_
    cases sets? with
    | none => exact .pure fun s hs => hs.mono fun _ => Blind.judged
    | some sets =>
      refine .of_fact fun hlegible => .of_exists fun looks => .of_fact fun hreadings => ?_
      exact examine_meets exclusion context numeric hreadings hlegible

end Visit

end Reroll
