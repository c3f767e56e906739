import TextGrammar.Regex.CharSet
/-!
# Regular expressions

The trees that the search runs on, and the constructors that keep them in the shape on which the
order of preference between matches is defined.
-/
namespace TextGrammar

inductive WordEdge where
  | boundary | interior | start | stop | startHalf | stopHalf
deriving DecidableEq, Repr

inductive Look where
  | textStart
  | textEnd
  | lineStart
  | lineEnd
  /-- The start of a line where `\r`, `\n` and `\r\n` all end lines. -/
  | lineStartCrlf
  | lineEndCrlf
  | word (edge : WordEdge) (unicode : Bool)
deriving DecidableEq, Repr

def WordEdge.holds (edge : WordEdge) (before after : Bool) : Bool :=
  match edge with
  | .boundary => before != after
  | .interior => before == after
  | .start => !before && after
  | .stop => before && !after
  | .startHalf => !before
  | .stopHalf => !after

/-- `none` stands for the start and the end of the text. -/
def Look.holds (look : Look) (before after : Option Char) : Bool :=
  match look with
  | .textStart => before.isNone
  | .textEnd => after.isNone
  | .lineStart => before.isNone || before == some '\n'
  | .lineEnd => after.isNone || after == some '\n'
  | .lineStartCrlf =>
    before.isNone || before == some '\n' || (before == some '\r' && after != some '\n')
  | .lineEndCrlf =>
    after.isNone || after == some '\r' || (after == some '\n' && before != some '\r')
  | .word edge unicode =>
    let isWord (c : Option Char) : Bool :=
      c.any fun c => if unicode then Unicode.isWord c.toNat else Unicode.isAsciiWord c.toNat
    edge.holds (isWord before) (isWord after)

inductive Regex where
  /-- Matches the empty text. -/
  | empty
  | look (kind : Look)
  /-- One character of a set. -/
  | chars (set : CharSet)
  | capture (index : Nat) (body : Regex)
  | seq (first second : Regex)
  /-- The first alternative is preferred. -/
  | alt (first second : Regex)
  /-- At least `min` and at most `max` copies; without `max` there is no bound. -/
  | iterate (min : Nat) (max : Option Nat) (greedy : Bool) (body : Regex)
  /-- Any number of further copies after one has been matched. -/
  | again (greedy : Bool) (body : Regex)
deriving DecidableEq, Repr

namespace Regex

def char (c : Char) : Regex := .chars (.single c)

def isHollow : Regex → Bool
  | .empty | .look _ => true
  | .chars _ => false
  | .capture _ body => body.isHollow
  | .seq first second | .alt first second => first.isHollow && second.isHollow
  | .iterate _ max _ body => max.isSome && body.isHollow
  | .again _ _ => false

def isSolid : Regex → Bool
  | .empty | .look _ | .again _ _ => false
  | .chars _ => true
  | .capture _ body => body.isSolid
  | .seq first second => first.isSolid || second.isSolid
  | .alt first second => first.isSolid && second.isSolid
  | .iterate min _ _ body => 0 < min && body.isSolid

/-- The members of a sequence, nested sequences opened and empty members left out. -/
def parts : Regex → List Regex
  | .empty => []
  | .seq first second => first.parts ++ second.parts
  | r => [r]

def ofParts : List Regex → Regex
  | [] => .empty
  | [r] => r
  | r :: rs => .seq r (ofParts rs)

def branches : Regex → List Regex
  | .alt first second => first.branches ++ second.branches
  | r => [r]

def ofBranches : List Regex → Regex
  | [] => .chars .empty
  | [r] => r
  | r :: rs => .alt r (ofBranches rs)

def sequence (rs : List Regex) : Regex := ofParts (rs.flatMap parts)

/-- The expressions are built in the same way. Sets count by their members. -/
def isSame : Regex → Regex → Bool
  | .empty, .empty => true
  | .look kind, .look kind' => kind = kind'
  | .chars set, .chars set' => set.isSame set'
  | .capture index body, .capture index' body' => index = index' && body.isSame body'
  | .seq first second, .seq first' second' => first.isSame first' && second.isSame second'
  | .alt first second, .alt first' second' => first.isSame first' && second.isSame second'
  | .iterate min max greedy body, .iterate min' max' greedy' body' =>
    min = min' && max = max' && greedy = greedy' && body.isSame body'
  | .again greedy body, .again greedy' body' => greedy = greedy' && body.isSame body'
  | _, _ => false

def commonParts : List Regex → List Regex → List Regex
  | r :: rs, s :: ss => if r.isSame s then r :: commonParts rs ss else []
  | _, _ => []

def commonLead : List (List Regex) → List Regex
  | [] => []
  | list :: lists => lists.foldl commonParts list

def set? : Regex → Option CharSet
  | .chars set => some set
  | _ => none

/-- One set for a choice between characters, or between classes. -/
def united? (rs : List Regex) : Option CharSet := do
  let sets ← rs.mapM set?
  guard (sets.all CharSet.isLiteral || sets.all fun set => !set.isLiteral)
  return .ofList sets

def choiceWith : (fuel : Nat) → List Regex → Regex
  | 0, rs => ofBranches (rs.flatMap branches)
  | fuel + 1, rs =>
    let rs := rs.flatMap branches
    if rs.length < 2 then ofBranches rs
    else
      match united? rs with
      | some set => .chars set
      | none =>
        let lists := rs.map parts
        let lead := commonLead lists
        if lists.any (fun parts => parts.length < 2) ∨ lead = [] then ofBranches rs
        else
          let rests := lists.map fun parts => ofParts (parts.drop lead.length)
          sequence (lead ++ [choiceWith fuel rests])

/-- The first branch that matches is preferred. Sequences that all start alike are tried as one
sequence that ends in a choice, so what they share is matched in its preferred way first. -/
def choice (rs : List Regex) : Regex :=
  choiceWith (rs.flatMap parts).length rs

/-- A body that matches only the empty text is tried once at most. -/
def repetition (min : Nat) (max : Option Nat) (greedy : Bool) (body : Regex) : Regex :=
  let (min, max) :=
    if body.isHollow then (Nat.min min 1, some ((max.getD 1).min 1)) else (min, max)
  if max = some 0 then .empty
  else if min = 1 ∧ max = some 1 then body
  else .iterate min max greedy body

def isAnchored : Regex → Bool
  | .look kind => kind = .textStart
  | .capture _ body => body.isAnchored
  | .seq first _ => first.isAnchored
  | .alt first second => first.isAnchored && second.isAnchored
  | _ => false

/-- A bound on the number of different things left to match that a search can meet. -/
def weight : Regex → Nat
  | .empty | .look _ | .chars _ => 1
  | .capture _ body => body.weight + 1
  | .seq first second | .alt first second => first.weight + second.weight + 1
  | .iterate min max _ body => (max.getD min + 1) * (body.weight + 1) + 2
  | .again _ body => body.weight + 2

end Regex

end TextGrammar
