/-
# Running processes

A handler answers the questions of a process from a world that it changes, or leaves a question
without an answer for the time being. A process runs until it is done or left without an answer.
Processes of a pool take turns, one question at a time, or run one after the other.
-/

import Clearance.Process.Basic

namespace Clearance

/-- What answers questions out of a world. -/
abbrev Handler (ω : Type) := (q : Question) → ω → Option q.Answer × ω

namespace Process

variable {α ω : Type}

/-- Let a process have its question answered. -/
def step (h : Handler ω) : Process α → ω → Process α × ω
  | done a, w => (done a, w)
  | wait q next, w =>
    match h q w with
    | (some a, w) => (next a, w)
    | (none, w) => (wait q next, w)

/-- Let a process run until it is done or left without an answer. -/
def run (h : Handler ω) : Process α → ω → Process α × ω
  | done a, w => (done a, w)
  | wait q next, w =>
    match h q w with
    | (some a, w) => (next a).run h w
    | (none, w) => (wait q next, w)

/-- Let the processes of a pool have one question answered each time it is their turn. -/
def follow (h : Handler ω) : List Nat → List (Process α) → ω → List (Process α) × ω
  | [], pool, w => (pool, w)
  | turn :: turns, pool, w =>
    match pool[turn]? with
    | none => follow h turns pool w
    | some p =>
      let (p, w) := p.step h w
      follow h turns (pool.set turn p) w

/-- Let the processes of a pool run, one after the other. -/
def settle (h : Handler ω) : List (Process α) → ω → List (Process α) × ω
  | [], w => ([], w)
  | p :: pool, w =>
    let (p, w) := p.run h w
    let (pool, w) := settle h pool w
    (p :: pool, w)

end Process

end Clearance
