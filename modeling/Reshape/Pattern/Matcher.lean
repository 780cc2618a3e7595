import Reshape.Pattern.Basic

/-!
# Matching

A match begins as far left as it can, and of the matches that begin there the first one in the order
of preference counts: an earlier alternative before a later one, and another round of a greedy
repetition before none.

* `Pattern.run`: the first match from a place on, in continuation style.
* `Pattern.find?`: the leftmost match from a place on.
* `Pattern.allMatches`: all matches of a text from left to right, none overlapping another.
-/

namespace Reshape

/-- A place in a text: the characters before it in reverse, those after it, and its position. -/
structure Cursor where
  before : List Char
  after : List Char
  index : Nat

namespace Cursor

def start (text : List Char) : Cursor :=
  ⟨[], text, 0⟩

def next? (c : Cursor) : Option Cursor :=
  match c.after with
  | ch :: rest => some ⟨ch :: c.before, rest, c.index + 1⟩
  | [] => none

end Cursor

def isWordBefore (word : CharSet) (c : Cursor) : Bool :=
  match c.before with
  | ch :: _ => word.holds .exact ch.toNat
  | [] => false

def isWordAfter (word : CharSet) (c : Cursor) : Bool :=
  match c.after with
  | ch :: _ => word.holds .exact ch.toNat
  | [] => false

def Place.holdsAt (p : Place) (c : Cursor) : Bool :=
  match p with
  | textStart => c.before.isEmpty
  | textEnd => c.after.isEmpty
  | lineStart crlf =>
    match c.before with
    | [] => true
    | ch :: _ => ch == '\n' || (crlf && ch == '\r' && c.after.head? != some '\n')
  | lineEnd crlf =>
    match c.after with
    | [] => true
    | ch :: _ =>
      if crlf then ch == '\r' || (ch == '\n' && c.before.head? != some '\r') else ch == '\n'
  | boundary word => isWordBefore word c != isWordAfter word c
  | noBoundary word => isWordBefore word c == isWordAfter word c
  | wordStart word => !isWordBefore word c && isWordAfter word c
  | wordEnd word => isWordBefore word c && !isWordAfter word c
  | wordStartHalf word => !isWordBefore word c
  | wordEndHalf word => !isWordAfter word c

/-- The groups that took part, with their first and last places; the latest come first. -/
abbrev Groups := List (Nat × Nat × Nat)

/-- Where a match ends and what its groups hold. -/
abbrev Ending := Cursor × Groups

/-- Matches from a place on and hands every way to do so to the continuation until one succeeds. -/
abbrev Matcher := (Cursor → Groups → Option Ending) → Cursor → Groups → Option Ending

namespace Matcher

def times (body : Matcher) : Nat → Matcher
  | 0 => fun k => k
  | n + 1 => fun k => body (times body n k)

/-- The first way that succeeds, in the order that greed prefers. -/
def choose (greedy : Bool) (more stop : Unit → Option Ending) : Option Ending :=
  if greedy then (more ()).orElse stop else (stop ()).orElse more

/-- At most `n` more rounds. -/
def atMost (body : Matcher) (greedy : Bool) : Nat → Matcher
  | 0 => fun k => k
  | n + 1 => fun k c g =>
    choose greedy (fun _ => body (atMost body greedy n k) c g) (fun _ => k c g)

/-- Any number of further rounds, each of which takes a character; `fuel` bounds the characters that
are left. -/
def more (body : Matcher) (greedy : Bool) : Nat → Matcher
  | 0 => fun k => k
  | fuel + 1 => fun k c g =>
    choose greedy
      (fun _ => body (fun d h => if d.index = c.index then none else more body greedy fuel k d h) c g)
      (fun _ => k c g)

/-- One round or more. A first round that takes nothing is the only one. -/
def oneOrMore (body : Matcher) (greedy : Bool) : Matcher := fun k c g =>
  body (fun d h =>
    if d.index = c.index then k d h else more body greedy d.after.length k d h) c g

def zeroOrMore (body : Matcher) (greedy : Bool) : Matcher := fun k c g =>
  choose greedy (fun _ => oneOrMore body greedy k c g) (fun _ => k c g)

def atLeast (body : Matcher) (greedy : Bool) : Nat → Matcher
  | 0 => zeroOrMore body greedy
  | n + 1 => fun k => times body n (oneOrMore body greedy k)

def rounds (body : Matcher) (low : Nat) (high : Option Nat) (greedy : Bool) : Matcher :=
  match high with
  | none => atLeast body greedy low
  | some high => fun k => times body low (atMost body greedy (high - low) k)

end Matcher

def Pattern.run : Pattern → Matcher
  | empty => fun k => k
  | set f s => fun k c g =>
    match c.after with
    | ch :: rest =>
      if s.holds f ch.toNat then k ⟨ch :: c.before, rest, c.index + 1⟩ g else none
    | [] => none
  | place p => fun k c g => if p.holdsAt c then k c g else none
  | group number p => fun k c g => p.run (fun d h => k d ((number, c.index, d.index) :: h)) c g
  | seq a b => fun k => a.run (b.run k)
  | alt a b => fun k c g => (a.run k c g).orElse fun _ => b.run k c g
  | repeated low high greedy p => Matcher.rounds p.run low high greedy

/-- A match: the place where it begins, and the places of its groups, of which the whole match is
number 0. -/
structure Match where
  first : Cursor
  last : Cursor
  groups : Groups

namespace Pattern

/-- The first match that begins at a place. -/
def matchAt? (p : Pattern) (c : Cursor) : Option Match :=
  (p.run (fun d g => some (d, g)) c []).map fun (d, g) => ⟨c, d, (0, c.index, d.index) :: g⟩

/-- The leftmost match that begins at a place or after it. -/
def findFrom? (p : Pattern) (before : List Char) (index : Nat) : List Char → Option Match
  | [] => p.matchAt? ⟨before, [], index⟩
  | ch :: rest =>
    (p.matchAt? ⟨before, ch :: rest, index⟩).orElse fun _ =>
      p.findFrom? (ch :: before) (index + 1) rest

def find? (p : Pattern) (c : Cursor) : Option Match :=
  p.findFrom? c.before c.index c.after

/-- The next match after an earlier one that ended at `last`. An empty match right at that end does
not count, and the search goes on one character later. -/
def findNext? (p : Pattern) (last : Option Nat) (c : Cursor) : Option Match :=
  match p.find? c with
  | some m =>
    if m.first.index = m.last.index ∧ last = some m.last.index then c.next?.bind p.find?
    else some m
  | none => none

/-- The matches from a place on. Each ends further right than the one before, which bounds their
number. -/
def matchesFrom (p : Pattern) : Nat → Option Nat → Cursor → List Match
  | 0, _, _ => []
  | fuel + 1, last, c =>
    match p.findNext? last c with
    | some m => m :: matchesFrom p fuel (some m.last.index) m.last
    | none => []

def allMatches (p : Pattern) (text : List Char) : List Match :=
  p.matchesFrom (text.length + 1) none (.start text)

end Pattern

end Reshape
