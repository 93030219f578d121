import StubGraft.Pattern.Basic

/-!
# Matching

An expression is matched from a place in a text on, by trying its ways in order: the
first alternative before the second, more repetitions before fewer, and so on.  What
follows an expression is given as a function on places, so that a way which fails later
is given up for the next one.

A repetition without bound ends: once it has the least number of rounds, a round starts
only at a place where the round before it did not start.

Main notions:

* `Cursor`: a place in a text and the texts captured so far;
* `Node.run`: the first way to match an expression and what follows it;
* `Node.accepts`: whether a text starts with a match.
-/

namespace StubGraft.Pattern

/-- A place in a text and the texts captured so far. -/
structure Cursor where
  /-- The characters before the place, the nearest first. -/
  before : List Char
  /-- The characters after the place. -/
  after : List Char
  /-- The captured texts, the latest first. -/
  captures : List (Nat × Text)

namespace Cursor

/-- The start of a text. -/
def start (t : Text) : Cursor := ⟨[], t, []⟩

/-- The place one character on. -/
def next (c : Cursor) : Cursor :=
  match c.after with
  | [] => c
  | x :: r => { c with before := x :: c.before, after := r }

/-- The place `n` characters back, if there are so many. -/
def back? (c : Cursor) : Nat → Option Cursor
  | 0 => some c
  | n + 1 =>
    match c.back? n with
    | none => none
    | some d =>
      match d.before with
      | [] => none
      | x :: r => some { d with before := r, after := x :: d.after }

/-- The text captured under a number. -/
def capture? (c : Cursor) (index : Nat) : Option Text :=
  (c.captures.find? fun entry => entry.1 = index).map Prod.snd

/-- Captures the text from an earlier place up to this one. -/
def captureFrom (c origin : Cursor) : Option Nat → Cursor
  | none => c
  | some index =>
    let t := origin.after.take (origin.after.length - c.after.length)
    { c with captures := (index, t) :: c.captures }

/-- Whether the characters on the two sides of a place are of different kinds: word characters on
one side only. -/
def atBoundary (c : Cursor) (ascii : Bool) : Bool :=
  let isWord (x : Option Char) : Bool :=
    match x with
    | some x => CharClass.word.covers ascii x
    | none => false
  isWord c.before.head? != isWord c.after.head?

/-- Whether the whole text is empty. -/
def isBare (c : Cursor) : Bool := c.before.isEmpty && c.after.isEmpty

/-- Whether a condition holds at a place. -/
def satisfies (c : Cursor) : Assertion → Bool
  | .start => c.before.isEmpty
  | .lineStart => c.before.isEmpty || c.before.head? == some '\n'
  | .finish => c.after.isEmpty
  | .lastLineEnd => c.after.isEmpty || c.after == ['\n']
  | .lineEnd => c.after.isEmpty || c.after.head? == some '\n'
  | .boundary ascii => !c.isBare && c.atBoundary ascii
  | .noBoundary ascii => !c.isBare && !c.atBoundary ascii

/-- The place after a text, if that text follows, up to case. -/
def follow? (c : Cursor) (rule : CaseRule) : Text → Option Cursor
  | [] => some c
  | x :: r =>
    match c.after with
    | [] => none
    | y :: _ => if rule.lower x.toNat = rule.lower y.toNat then c.next.follow? rule r else none

end Cursor

/-- What has to match after an expression. -/
abbrev Rest := Cursor → Option Cursor

/-- A way to match from a place on, given what follows. -/
abbrev Step := Cursor → Rest → Option Cursor

/-- One round less, if there is a bound. -/
def lessOne (room : Option Nat) : Option Nat := room.map (· - 1)

/-- Repeats a step: `least` rounds have to follow, `room` more may, and `last` is how many
characters were left where the latest voluntary round started. -/
def repeatGreedy (step : Step) (fuel least : Nat) (room last : Option Nat) (c : Cursor)
    (rest : Rest) : Option Cursor :=
  match fuel with
  | 0 => none
  | fuel + 1 =>
    match least with
    | n + 1 => step c fun d => repeatGreedy step fuel n room last d rest
    | 0 =>
      if room = some 0 ∨ last = some c.after.length then rest c
      else
        match step c fun d =>
          repeatGreedy step fuel 0 (lessOne room) (some c.after.length) d rest with
        | some result => some result
        | none => rest c

/-- Repeats a step like `repeatGreedy`, and tries what follows before each voluntary round. -/
def repeatLazy (step : Step) (fuel least : Nat) (room last : Option Nat) (c : Cursor)
    (rest : Rest) : Option Cursor :=
  match fuel with
  | 0 => none
  | fuel + 1 =>
    match least with
    | n + 1 => step c fun d => repeatLazy step fuel n room last d rest
    | 0 =>
      match rest c with
      | some result => some result
      | none =>
        if room = some 0 ∨ last = some c.after.length then none
        else step c fun d => repeatLazy step fuel 0 (lessOne room) (some c.after.length) d rest

/-- The place after as many rounds as possible, each in its first way. -/
def repeatPossessive (step : Step) (fuel least : Nat) (room last : Option Nat) (c : Cursor) :
    Option Cursor :=
  match fuel with
  | 0 => none
  | fuel + 1 =>
    match least with
    | n + 1 =>
      match step c some with
      | some d => repeatPossessive step fuel n room last d
      | none => none
    | 0 =>
      if room = some 0 ∨ last = some c.after.length then some c
      else
        match step c some with
        | some d => repeatPossessive step fuel 0 (lessOne room) (some c.after.length) d
        | none => some c

/-- The first way to match an expression, and what follows it, from a place on. -/
def Node.run : Node → Step
  | .empty, c, rest => rest c
  | .one set, c, rest =>
    match c.after with
    | [] => none
    | x :: _ => if set.covers x then rest c.next else none
  | .place assertion, c, rest => if c.satisfies assertion then rest c else none
  | .seq first second, c, rest => first.run c fun d => second.run d rest
  | .alt first second, c, rest =>
    match first.run c rest with
    | some result => some result
    | none => second.run c rest
  | .repeated least most mode body, c, rest =>
    let fuel := least + c.after.length + 2
    let room := most.map (· - least)
    match mode with
    | .greedy => repeatGreedy body.run fuel least room none c rest
    | .lazy => repeatLazy body.run fuel least room none c rest
    | .possessive =>
      match repeatPossessive body.run fuel least room none c with
      | some d => rest d
      | none => none
  | .group index body, c, rest => body.run c fun d => rest (d.captureFrom c index)
  | .atomic body, c, rest =>
    match body.run c some with
    | some d => rest d
    | none => none
  | .look back negated body, c, rest =>
    match c.back? back with
    | none => if negated then rest c else none
    | some origin =>
      match body.run origin some with
      | none => if negated then rest c else none
      | some d => if negated then none else rest { c with captures := d.captures }
  | .reference index rule, c, rest =>
    match c.capture? index with
    | none => none
    | some t =>
      match c.follow? rule t with
      | none => none
      | some d => rest d
  | .conditional index present absent, c, rest =>
    if (c.capture? index).isSome then present.run c rest else absent.run c rest

/-- Whether a text starts with a match. -/
def Node.accepts (node : Node) (t : Text) : Bool := (node.run (Cursor.start t) some).isSome

end StubGraft.Pattern
