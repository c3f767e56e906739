import TextGrammar.Regex.Basic
/-!
# Leftmost-first search

A thread is one way a match can go on: where it started and the expressions still to be matched.
Threads are kept in order of preference and advance together, one character at a time. At each
position every thread is first brought to the characters it waits for; of two threads with the
same expressions left only the preferred one is kept, which also ends loops that read nothing.
-/
namespace TextGrammar

structure Thread where
  start : Nat
  todo : List Regex
deriving DecidableEq, Repr

structure Span where
  start : Nat
  stop : Nat
deriving DecidableEq, Repr

namespace Regex

def prefer (greedy : Bool) (more done : List Regex) : List (List Regex) :=
  if greedy then [more, done] else [done, more]

/-- The ways to go on without reading a character, the preferred one first. An expression that
reads one has none to offer. A loop whose body always reads something starts just as it goes on;
the start of any other loop is a state of its own. -/
def ways (before after : Option Char) (todo : List Regex) : Regex → Option (List (List Regex))
  | .chars _ => none
  | .empty => some [todo]
  | .look kind => some (if kind.holds before after then [todo] else [])
  | .capture _ body => some [body :: todo]
  | .seq first second => some [first :: second :: todo]
  | .alt first second => some [first :: todo, second :: todo]
  | .iterate 0 none greedy body =>
    if body.isSolid then some [.again greedy body :: todo]
    else some (prefer greedy (body :: .again greedy body :: todo) todo)
  | .iterate 1 none greedy body => some [body :: .again greedy body :: todo]
  | .iterate (min + 1) none greedy body => some [body :: .iterate min none greedy body :: todo]
  | .iterate 0 (some 0) _ _ => some [todo]
  | .iterate 0 (some (max + 1)) greedy body =>
    some (prefer greedy (body :: .iterate 0 (some max) greedy body :: todo) todo)
  | .iterate (min + 1) (some max) greedy body =>
    some [body :: .iterate min (some (max - 1)) greedy body :: todo]
  | .again greedy body => some (prefer greedy (body :: .again greedy body :: todo) todo)

/-- Brings threads to the characters they wait for. A thread with nothing left to match ends the
list: no thread after it can be preferred to the match it stands for. -/
def settle (before after : Option Char) :
    (fuel : Nat) → (pending : List Thread) → (seen : List (List Regex)) → List Thread
  | 0, _, _ => []
  | _ + 1, [], _ => []
  | fuel + 1, thread :: pending, seen =>
    if seen.contains thread.todo then settle before after fuel pending seen
    else
      match thread.todo with
      | [] => [thread]
      | r :: todo =>
        match r.ways before after todo with
        | none => thread :: settle before after fuel pending (thread.todo :: seen)
        | some ways =>
          settle before after fuel (ways.map (Thread.mk thread.start) ++ pending)
            (thread.todo :: seen)

def advance (c : Char) (thread : Thread) : Option Thread :=
  match thread.todo with
  | .chars set :: todo => if set.has c then some ⟨thread.start, todo⟩ else none
  | _ => none

def matched? (position : Nat) (threads : List Thread) : Option Span :=
  threads.findSome? fun thread =>
    if thread.todo.isEmpty then some ⟨thread.start, position⟩ else none

/-- Searches on from `position`. New threads start at every position until a match is known, or
only at the start of the text when `r` is anchored there. -/
def scan (r : Regex) (position : Nat) (before : Option Char) (threads : List Thread)
    (best : Option Span) (rest : List Char) : Option Span :=
  let fresh := if best.isNone && (position = 0 || !r.isAnchored) then [⟨position, [r]⟩] else []
  let settled := settle before rest.head? (8 * r.weight + 16) (threads ++ fresh) []
  let best := (matched? position settled).or best
  match rest with
  | [] => best
  | c :: rest =>
    let threads := settled.filterMap (advance c)
    if threads.isEmpty && (best.isSome || r.isAnchored) then best
    else scan r (position + 1) (some c) threads best rest

/-- The leftmost match, and of those that start there the preferred one. -/
def find (r : Regex) (text : List Char) : Option Span := scan r 0 none [] none text

end Regex

end TextGrammar
