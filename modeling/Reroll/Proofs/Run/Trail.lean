import Reroll.Proofs.Run.Ending

/-!
# The trail of a traversal

A traversal goes from one node to the next, and its trail is where it stands after so many visits.
The trail knows no fuel. Along it the ids visited are the ids dispatched, without repetition, so
there are no more visits than nodes and one; where a traversal breaks off is a node that it
dispatched (`run_visits_once`). In a valid graph the trail never comes to an id without a node.
-/

namespace Reroll

variable {τ ι δ σ α : Type}

open Scene Act

namespace Traversal

/-! ### How a traversal ends -/

/-- A target was found for good. -/
def isFound : Traversal → Bool
  | .found _ => true
  | _ => false

/-- A stop was asked for. -/
def isStopped : Traversal → Bool
  | .stopped => true
  | _ => false

/-- The node before which the traversal broke off. -/
def resume? : Traversal → Option String
  | .resumed id => some id
  | _ => none

/-- At most one of the three is told of a traversal. -/
theorem marks_le_one (x : Traversal) :
    x.isFound.toNat + x.isStopped.toNat + x.resume?.isSome.toNat ≤ 1 := by
  cases x <;> exact Nat.le_of_ble_eq_true rfl

/-- Where a traversal may begin: at the start, or where an earlier one of the same graph, in
whatever scene, broke off. -/
inductive Entry (τ ι δ σ : Type) (g : Graph) : Option String → Prop
  | anew : Entry τ ι δ σ g none
  | start : Entry τ ι δ σ g (some Graph.startId)
  | resumed {r : Rig τ ι δ σ} {start : Option String} {s t : Scene τ ι δ σ} {id : String}
      (earlier : run r g start s = (.ok (.resumed id), t)) : Entry τ ι δ σ g (some id)

/-! ### The trail -/

/-- One visit of a traversal; at its end it stays. -/
def step (r : Rig τ ι δ σ) (g : Graph) : Station × Scene τ ι δ σ → Station × Scene τ ι δ σ
  | (.node visited id, s) =>
    match Station.visit r g visited id s with
    | (.ok next, t) => (next, t)
    | (.error f, t) => (.leaving (.error f), t)
  | c => c

/-- The id at which a traversal begins. -/
def firstId (start : Option String) : String :=
  (start.filter fun s => !s.isEmpty).getD Graph.startId

/-- Where a traversal is after so many visits. -/
def trail (r : Rig τ ι δ σ) (g : Graph) (start : Option String) (s : Scene τ ι δ σ) (k : ℕ) :
    Station × Scene τ ι δ σ :=
  (step r g)^[k] (.node [] (firstId start), s)

/-- The nodes that were dispatched, the latest first. -/
def dispatched (journal : List (Note τ ι)) : List Node :=
  journal.filterMap fun e =>
    match e.deed with
    | .dispatched n => some n
    | _ => none

variable {r : Rig τ ι δ σ} {g : Graph} {start : Option String} {s t : Scene τ ι δ σ}
variable {visited : List String} {id : String} {n : Node} {j new : List (Note τ ι)}

theorem step_ok {next : Station} (h : Station.visit r g visited id s = (.ok next, t)) :
    step r g (.node visited id, s) = (next, t) := by
  simp only [step, h]

theorem step_error {f : Fault} (h : Station.visit r g visited id s = (.error f, t)) :
    step r g (.node visited id, s) = (.leaving (.error f), t) := by
  simp only [step, h]

theorem trail_succ (k : ℕ) : trail r g start s (k + 1) = step r g (trail r g start s k) :=
  Function.iterate_succ_apply' _ _ _

/-- Since the journal `j` nodes of the graph with the visited ids were dispatched, and no other. -/
structure Visiting (g : Graph) (j : List (Note τ ι)) (visited : List String)
    (t : Scene τ ι δ σ) : Prop where
  journal : ∃ new, t.journal = new ++ j ∧ (dispatched new).map Node.id = visited ∧
    ∀ n ∈ dispatched new, n ∈ g.nodes
  distinct : visited.Nodup

/-- The trail has come to a node that is not visited yet, or to its end. An attempt that is to be
resumed is so at a visited node. -/
def Keeping (g : Graph) (j : List (Note τ ι)) : Station × Scene τ ι δ σ → Prop
  | (.node visited id, t) => Visiting g j visited t ∧ id ∉ visited
  | (.leaving x, t) => ∃ visited, Visiting g j visited t ∧
      ∀ id, x = .ok (.resumed id) → id ∈ visited
  | _ => False

theorem dispatched_append (new : List (Note τ ι)) :
    dispatched (new ++ j) = dispatched new ++ dispatched j :=
  List.filterMap_append

theorem dispatched_eq_nil (h : ∀ e ∈ new, ∀ n, e.deed ≠ .dispatched n) : dispatched new = [] := by
  refine List.filterMap_eq_nil_iff.mpr fun e he => ?_
  have hd := h e he
  split
  · next n hn => exact absurd hn (hd n)
  · rfl

/-- Other deeds add nothing to the visits. -/
theorem Visiting.of_grows {p : Note τ ι → Prop} (h : Grows p s t)
    (other : ∀ e, p e → ∀ n, e.deed ≠ .dispatched n) (hs : Visiting g j visited s) :
    Visiting g j visited t := by
  obtain ⟨more, hmore, hp⟩ := h.journal
  obtain ⟨new, hnew, hids, hnodes⟩ := hs.journal
  have hnone : dispatched more = [] := dispatched_eq_nil fun e he => other e (hp e he)
  have hsame : dispatched (more ++ new) = dispatched new := by
    rw [dispatched_append, hnone, List.nil_append]
  refine ⟨⟨more ++ new, ?_, ?_, ?_⟩, hs.distinct⟩
  · rw [hmore, hnew, List.append_assoc]
  · rw [hsame, hids]
  · rw [hsame]
    exact hnodes

theorem Visiting.of_idle (h : Steady (·.isIdle = true) s t) (hs : Visiting g j visited s) :
    Visiting g j visited t := by
  refine hs.of_grows h.grows ?_
  rintro ⟨d, state⟩ ⟨hd, -⟩ n rfl
  cases hd

theorem Visiting.of_step (h : Grows (fun e => e.deed.isOfStep = true) s t)
    (hs : Visiting g j visited s) : Visiting g j visited t := by
  refine hs.of_grows h ?_
  rintro ⟨d, state⟩ hd n rfl
  cases hd

/-- The visited ids are distinct ids of nodes, so there are no more of them than nodes. -/
theorem Visiting.length_le (h : Visiting g j visited t) : visited.length ≤ g.nodes.length := by
  obtain ⟨new, -, hids, hnodes⟩ := h.journal
  have hsubset : ∀ v ∈ visited, v ∈ g.nodes.map Node.id := by
    intro v hv
    rw [← hids] at hv
    obtain ⟨n, hn, rfl⟩ := List.mem_map.mp hv
    exact List.mem_map_of_mem (hnodes n hn)
  have hle := (h.distinct.subperm hsubset).length_le
  rwa [List.length_map] at hle

/-! ### One visit -/

/-- Whatever comes of a step, its node is the one that was dispatched. -/
theorem advance_visits (hn : n ∈ g.nodes) (fresh : n.id ∉ visited) :
    Meets (Visiting g j visited) (advance r g n) (fun _ => Visiting g j (n.id :: visited))
      (fun _ => Visiting g j (n.id :: visited)) := by
  have hexecute : Meets (Visiting g j (n.id :: visited)) (Step.execute r n)
      (fun _ => Visiting g j (n.id :: visited)) (fun _ => Visiting g j (n.id :: visited)) :=
    .of_within (Step.execute_ofStep r n) fun _ _ => Visiting.of_step
  have hcheck : ∀ o, Meets (Visiting g j (n.id :: visited)) (afterCheck r g n o)
      (fun _ => Visiting g j (n.id :: visited)) (fun _ => Visiting g j (n.id :: visited)) :=
    fun o => .of_within (afterCheck_steady (fun _ => id) r g n o) fun _ _ => Visiting.of_idle
  refine .bind (M := fun _ => Visiting g j (n.id :: visited)) ?_ fun _ => ?_
  · intro s hs
    obtain ⟨new, hnew, hids, hnodes⟩ := hs.journal
    refine ⟨⟨⟨.dispatched n, s.state⟩ :: new, ?_, ?_, ?_⟩, ?_⟩
    · exact congrArg (_ :: ·) hnew
    · exact congrArg (n.id :: ·) hids
    · exact List.forall_mem_cons.mpr ⟨hn, hnodes⟩
    · exact List.nodup_cons.mpr ⟨fresh, hs.distinct⟩
  · split
    · exact .pure fun _ hs => hs
    · refine .bind hexecute fun o => .bind (M := fun _ => Visiting g j (n.id :: visited)) ?_
        fun _ => hcheck o
      refine .of_within (note_steady (p := fun d => d = .checked o.hit.isSome) rfl) ?_
      refine fun s t hst hs => hs.of_grows hst.grows fun e he n hn => ?_
      rw [he.1] at hn
      cases hn
    · exact .bind (.bind hexecute fun _ => .pure fun _ hs => hs) fun _ => .pure fun _ hs => hs

/-- A visit keeps what is said of the trail. -/
theorem visit_keeps (fresh : id ∉ visited) :
    Meets (Visiting g j visited) (Station.visit r g visited id)
      (fun next t => Keeping g j (next, t))
      (fun f t => Keeping g j (.leaving (.error f), t)) := by
  have hleft : ∀ (x : Except Fault Traversal) (t : Scene τ ι δ σ), (∀ id, x ≠ .ok (.resumed id)) →
      Visiting g j visited t → Keeping g j (.leaving x, t) := fun x t hx ht =>
    ⟨visited, ht, fun id h => absurd h (hx id)⟩
  have hpoll : Meets (Visiting g j visited) (stopAsked : Act τ ι δ σ Bool)
      (fun _ => Visiting g j visited) (fun _ => Visiting g j visited) :=
    .of_within (stopAsked_steady (p := fun _ => False)) fun s t hst hs =>
      hs.of_grows hst.grows fun _ he => he.1.elim
  refine .bind (hpoll.fault fun f t => hleft _ t nofun) fun asked => ?_
  refine .ite (fun _ => .pure fun t => hleft _ t nofun) fun _ => ?_
  cases hn : g.node? id with
  | none =>
    refine .bind (M := fun _ => Visiting g j visited) (.tell fun _ _ => Visiting.of_idle)
      fun _ => ?_
    exact .pure fun t => hleft _ t nofun
  | some n =>
    obtain ⟨hmem, rfl⟩ := Graph.mem_of_node? hn
    refine .ite (fun _ => .pure fun t => hleft _ t nofun) fun _ => ?_
    refine .bind ((advance_visits hmem fresh).fault fun f t ht => ⟨_, ht, nofun⟩) fun turn => ?_
    refine .pure fun t ht => ?_
    match turn with
    | .found hit => exact ⟨_, ht, nofun⟩
    | .next none => exact ⟨_, ht, nofun⟩
    | .next (some next) =>
      dsimp only [Station.turned]
      split
      · next hvisited =>
        refine ⟨_, ht, ?_⟩
        rintro id ⟨⟩
        simpa using hvisited
      · next hnew => exact ⟨ht, by simpa using hnew⟩

theorem step_keeps (c : Station × Scene τ ι δ σ) (h : Keeping g j c) :
    Keeping g j (step r g c) := by
  obtain ⟨station, t⟩ := c
  cases station with
  | node visited id =>
    have hkept := visit_keeps (r := r) h.2 t h.1
    rcases hvisit : Station.visit r g visited id t with ⟨f | next, u⟩
    · rw [hvisit] at hkept
      rw [step_error hvisit]
      exact hkept
    · rw [hvisit] at hkept
      rw [step_ok hvisit]
      exact hkept
  | outset => exact h
  | round resume => exact h
  | leaving x => exact h
  | finished x => exact h

theorem trail_keeps (start : Option String) (s : Scene τ ι δ σ) (k : ℕ) :
    Keeping g s.journal (trail r g start s k) := by
  induction k with
  | zero =>
    have hnone : Visiting g s.journal [] s := ⟨⟨[], rfl, rfl, nofun⟩, .nil⟩
    exact ⟨hnone, List.not_mem_nil⟩
  | succ k ih =>
    rw [trail_succ]
    exact step_keeps _ ih

/-! ### The end of the trail -/

/-- Before its end a traversal has visited as many nodes as there were visits. -/
theorem trail_length {k : ℕ} (h : trail r g start s k = (.node visited id, t)) :
    visited.length = k := by
  induction k generalizing visited id t with
  | zero =>
    obtain ⟨rfl, rfl⟩ : [] = visited ∧ firstId start = id := by
      cases h
      exact ⟨rfl, rfl⟩
    rfl
  | succ k ih =>
    have hkept := trail_keeps (r := r) (g := g) start s k
    rw [trail_succ] at h
    generalize htrail : trail r g start s k = c at h hkept
    obtain ⟨station, u⟩ := c
    cases station with
    | node before here =>
      have hvisits := Run.visit_visits r g before here u trivial
      rcases hvisit : Station.visit r g before here u with ⟨f | next, v⟩
      · rw [step_error hvisit] at h
        cases h
      · rw [step_ok hvisit] at h
        obtain rfl : next = .node visited id := (Prod.mk.inj h).1
        rw [hvisit] at hvisits
        cases hvisits with
        | on _ _ _ => rw [List.length_cons, ih htrail]
    | leaving x => cases h
    | outset => exact hkept.elim
    | round resume => exact hkept.elim
    | finished x => exact hkept.elim

/-- A traversal is at its end after as many visits as there are nodes and one. -/
theorem trail_ends (r : Rig τ ι δ σ) (g : Graph) (start : Option String) (s : Scene τ ι δ σ) :
    ∃ x t, trail r g start s (g.nodes.length + 1) = (.leaving x, t) := by
  have hkept := trail_keeps (r := r) (g := g) start s (g.nodes.length + 1)
  generalize htrail : trail r g start s (g.nodes.length + 1) = c at hkept
  obtain ⟨station, t⟩ := c
  cases station with
  | leaving x => exact ⟨x, t, rfl⟩
  | node visited id =>
    have hle := hkept.1.length_le
    rw [trail_length htrail] at hle
    omega
  | outset => exact hkept.elim
  | round resume => exact hkept.elim
  | finished x => exact hkept.elim

theorem iterate_leaving (x : Except Fault Traversal) (t : Scene τ ι δ σ) (k : ℕ) :
    (step r g)^[k] (.leaving x, t) = (.leaving x, t) :=
  Function.iterate_fixed rfl k

/-- A walk that has fuel for the visits to the end gives what the end of the trail says. -/
theorem walk_of_iterate {x : Except Fault Traversal} (k fuel : ℕ) (visited : List String)
    (id : String) (s : Scene τ ι δ σ) (enough : k ≤ fuel)
    (h : (step r g)^[k] (.node visited id, s) = (.leaving x, t)) :
    walk r g visited id fuel s = (x, t) := by
  induction k generalizing fuel visited id s with
  | zero => cases h
  | succ k ih =>
    obtain ⟨fuel, rfl⟩ : ∃ more, fuel = more + 1 := ⟨fuel - 1, by omega⟩
    have hvisits := Run.visit_visits r g visited id s trivial
    rw [Function.iterate_succ_apply] at h
    rw [Run.walk_succ, bind_apply]
    rcases hvisit : Station.visit r g visited id s with ⟨f | next, u⟩
    · rw [step_error hvisit, iterate_leaving] at h
      obtain ⟨hx, rfl⟩ := Prod.mk.inj h
      rw [← Station.leaving.inj hx]
    · rw [step_ok hvisit] at h
      rw [hvisit] at hvisits
      cases hvisits with
      | left y =>
        rw [iterate_leaving] at h
        obtain ⟨hx, rfl⟩ := Prod.mk.inj h
        rw [← Station.leaving.inj hx]
        rfl
      | on _ _ _ => exact ih fuel _ _ u (Nat.le_of_succ_le_succ enough) h

/-! ### Nodes that are there -/

/-- The way on from a node is that of one of its edges. -/
theorem advance_leads (r : Rig τ ι δ σ) (g : Graph) (n : Node) :
    Meets (fun _ => True) (advance r g n)
      (fun turn _ => ∀ id, turn = .next (some id) →
        ∃ branch, (g.nextEdge? n.id branch).map Edge.target = some id)
      (fun _ _ => True) := by
  have hedge : ∀ branch id, Turn.next ((g.nextEdge? n.id branch).map Edge.target) =
      .next (some id) → ∃ branch, (g.nextEdge? n.id branch).map Edge.target = some id :=
    fun branch id h => ⟨branch, Turn.next.inj h⟩
  refine .bind (.any _) fun _ => ?_
  split
  · exact .pure fun _ _ => hedge _
  · refine .bind (.any _) fun o => .bind (.any _) fun _ => ?_
    unfold afterCheck
    split
    · exact .pure fun _ _ => hedge _
    · split
      · next e he =>
        refine .ite (fun _ => .pure fun _ _ => nofun) fun _ => .pure fun _ _ id h => ?_
        exact ⟨_, (congrArg (Option.map Edge.target) he).trans (Turn.next.inj h)⟩
      · exact .bind (.any _) fun _ => .pure fun _ _ => nofun
  · exact .bind (.any _) fun _ => .pure fun _ _ => hedge _

/-- Where the trail stands before a node, the graph has one. -/
def Grounded (g : Graph) (c : Station × Scene τ ι δ σ) : Prop :=
  ∀ visited id t, c = (.node visited id, t) → (g.node? id).isSome = true

/-- In a valid graph a visit leads to nodes that are there. -/
theorem step_grounded (valid : g.problems = []) (c : Station × Scene τ ι δ σ)
    (h : Grounded g c) : Grounded g (step r g c) := by
  obtain ⟨station, s⟩ := c
  cases station with
  | node visited id =>
    have hvisit : Meets (fun _ => True) (Station.visit r g visited id)
        (fun next t => Grounded g (next, t)) (fun _ _ => True) := by
      refine .bind (.any _) fun asked => .ite (fun _ => .pure fun _ _ => nofun) fun _ => ?_
      cases g.node? id with
      | none => exact .bind (.any _) fun _ => .pure fun _ _ => nofun
      | some n =>
        refine .ite (fun _ => .pure fun _ _ => nofun) fun _ => ?_
        refine .bind (advance_leads r g n) fun turn => .pure fun t hleads => ?_
        match turn with
        | .found hit => nofun
        | .next none => nofun
        | .next (some next) =>
          obtain ⟨branch, hedge⟩ := hleads next rfl
          dsimp only [Station.turned]
          split
          · nofun
          · rintro _ _ _ ⟨⟩
            exact Graph.target_of_nextEdge? valid hedge
    have hground := hvisit s trivial
    rcases hstep : Station.visit r g visited id s with ⟨f | next, t⟩
    · rw [step_error hstep]
      nofun
    · rw [hstep] at hground
      rw [step_ok hstep]
      exact hground
  | outset => exact h
  | round resume => exact h
  | leaving x => exact h
  | finished x => exact h

/-- What a traversal is said to do: its trail ends after at most one visit more than there are
nodes, with what the traversal gives; in all it dispatched each id at most once, and only nodes of
the graph; it ends in one way, and is to be resumed at a node that it dispatched. -/
structure VisitsOnce (r : Rig τ ι δ σ) (g : Graph) (start : Option String) (s : Scene τ ι δ σ) :
    Prop where
  ends : ∃ k ≤ g.nodes.length + 1,
    trail r g start s k = (.leaving (run r g start s).1, (run r g start s).2)
  visits : ∃ new, (run r g start s).2.journal = new ++ s.journal ∧
    ((dispatched new).map Node.id).Nodup ∧ (∀ n ∈ dispatched new, n ∈ g.nodes) ∧
    (dispatched new).length ≤ g.nodes.length ∧
    ∀ x, (run r g start s).1 = .ok x → ∀ id ∈ x.resume?, id ∈ (dispatched new).map Node.id
  single : ∀ x, (run r g start s).1 = .ok x →
    x.isFound.toNat + x.isStopped.toNat + x.resume?.isSome.toNat ≤ 1

theorem visits_once (r : Rig τ ι δ σ) (g : Graph) (start : Option String) (s : Scene τ ι δ σ) :
    VisitsOnce r g start s := by
  obtain ⟨x, t, hend⟩ := trail_ends r g start s
  have hrun : run r g start s = (x, t) :=
    walk_of_iterate _ (g.nodes.length + 1) [] _ s (Nat.le_refl _) hend
  have hkept := trail_keeps (r := r) (g := g) start s (g.nodes.length + 1)
  rw [hend] at hkept
  obtain ⟨visited, hvisiting, hresumed⟩ := hkept
  obtain ⟨new, hnew, hids, hnodes⟩ := hvisiting.journal
  have hcount : (dispatched new).length = visited.length := by rw [← hids, List.length_map]
  refine ⟨⟨g.nodes.length + 1, Nat.le_refl _, ?_⟩, ⟨new, ?_, ?_, hnodes, ?_, ?_⟩, ?_⟩
  · rw [hrun, hend]
  · rw [hrun, hnew]
  · rw [hids]
    exact hvisiting.distinct
  · rw [hcount]
    exact hvisiting.length_le
  · rw [hrun, hids]
    rintro y rfl id hid
    cases y with
    | resumed next =>
      obtain rfl : next = id := Option.some.inj hid
      exact hresumed next rfl
    | found hit => cases hid
    | stopped => cases hid
    | ended => cases hid
  · exact fun y _ => y.marks_le_one

theorem Entry.grounded (valid : g.problems = []) (entry : Entry τ ι δ σ g start) :
    (g.node? (firstId start)).isSome = true := by
  have hstart : (g.node? Graph.startId).isSome = true := by
    obtain ⟨n, hn, -⟩ := Graph.start_of_valid valid
    rw [hn]
    rfl
  cases entry with
  | anew => exact hstart
  | start => exact hstart
  | @resumed r start s t id earlier =>
    obtain ⟨new, -, -, hnodes, -, hresumed⟩ := (visits_once r g start s).visits
    obtain ⟨n, hn, rfl⟩ := List.mem_map.mp (hresumed (.resumed id) (by rw [earlier]) id rfl)
    unfold firstId
    by_cases hid : n.id = ""
    · rw [hid]
      exact hstart
    · have hkept : (some n.id).filter (fun s => !s.isEmpty) = some n.id := by
        rw [Option.filter_some, if_pos (by simpa using hid)]
      rw [hkept]
      exact Graph.node?_isSome_iff.mpr ⟨n, hnodes n hn, rfl⟩

/-- A traversal dispatches each node at most once, whatever its steps come to, and ends. In a valid
graph it never stands before an id without a node. -/
theorem run_visits_once (r : Rig τ ι δ σ) (g : Graph) (start : Option String)
    (s : Scene τ ι δ σ) :
    VisitsOnce r g start s ∧
      (g.problems = [] → Entry τ ι δ σ g start → ∀ k, Grounded g (trail r g start s k)) := by
  refine ⟨visits_once r g start s, fun valid entry k => ?_⟩
  induction k with
  | zero =>
    rintro _ _ _ ⟨⟩
    exact entry.grounded valid
  | succ k ih =>
    rw [trail_succ]
    exact step_grounded valid _ ih

/-- A look in the dark is to be repeated, and the traversal that repeats it stands at nodes only. -/
theorem run_visits_once_resumed :
    Trial.waiting.graph.problems = [] ∧
      ∃ t, run Run.blindRig Trial.waiting.graph none Run.blindScene = (.ok (.resumed "look"), t) ∧
        VisitsOnce Run.blindRig Trial.waiting.graph (some "look") t ∧
        ∀ k, Grounded Trial.waiting.graph
          (trail Run.blindRig Trial.waiting.graph (some "look") t k) := by
  have hvalid : Trial.waiting.graph.problems = [] := by decide +kernel
  have hlook : (run Run.blindRig Trial.waiting.graph none Run.blindScene).1.toOption.bind
      resume? = some "look" := by
    decide +kernel
  rcases hrun : run Run.blindRig Trial.waiting.graph none Run.blindScene with ⟨f | x, t⟩
  · rw [hrun] at hlook
    cases hlook
  · rw [hrun] at hlook
    cases x with
    | resumed id =>
      obtain rfl : id = "look" := Option.some.inj hlook
      obtain ⟨honce, hgrounded⟩ := run_visits_once Run.blindRig Trial.waiting.graph (some "look") t
      exact ⟨hvalid, t, rfl, honce, hgrounded hvalid (.resumed hrun)⟩
    | found hit => cases hlook
    | stopped => cases hlook
    | ended => cases hlook

end Traversal

end Reroll
