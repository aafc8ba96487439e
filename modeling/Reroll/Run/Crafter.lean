import Reroll.Catalog.Source
import Reroll.Run.Loop

/-!
# Crafters

A crafter runs plans, one at a time, and keeps its scene from one run to the next. A plan that
lists no known modifiers gets the current ones first, if the crafter is told to fetch them.
-/

namespace Reroll

/-- Why a run does not begin. -/
inductive Refusal where
  | busy
  | catalog (e : Catalog.LoadError)
  | run (e : RunError)

/-- The wording of a refusal. -/
def Refusal.message : Refusal → String
  | .busy => "crafting is already running"
  | .catalog e => e.message
  | .run e => e.message

/-- What a crafter works with. -/
structure Crafter (τ ι δ σ : Type) where
  rig : Rig τ ι δ σ
  fetches : Bool := false
  replies : Nat → Http.Reply

/-- What a crafter keeps: its scene and how many requests it has made. -/
structure Session (τ ι δ σ : Type) where
  scene : Scene τ ι δ σ
  requests : Nat := 0

namespace Crafter

variable {τ ι δ σ : Type}

/-- The plan with the known modifiers it is to be run with. -/
def equip (c : Crafter τ ι δ σ) (p : Plan) (s : Session τ ι δ σ) :
    Except Catalog.LoadError Plan × Session τ ι δ σ :=
  if p.known.isNone && c.fetches then
    let l := Catalog.load c.rig.settings c.replies s.requests s.scene.files
    let s : Session τ ι δ σ :=
      { scene := { s.scene with files := l.files }, requests := s.requests + l.requests.length }
    (l.catalog.map fun known => { p with known := some known }, s)
  else (.ok p, s)

/-- Runs a plan, unless a run is in progress. -/
def run (c : Crafter τ ι δ σ) (p : Plan) (s : Session τ ι δ σ) :
    Except Refusal RunResult × Session τ ι δ σ :=
  if s.scene.state.running then (.error .busy, s)
  else
    match c.equip p s with
    | (.error e, s) => (.error (.catalog e), s)
    | (.ok p, s) =>
      let (r, scene) := Run.run c.rig p s.scene
      (r.mapError .run, { s with scene })

/-- Asks for a stop of the run in progress. -/
def requestStop (s : Session τ ι δ σ) : Session τ ι δ σ :=
  { s with scene := { s.scene with state := s.scene.state.requestStop } }

end Crafter

end Reroll
