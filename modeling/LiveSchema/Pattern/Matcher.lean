import LiveSchema.Pattern.Expression

/-! Matching by backtracking. Every tree is run with a continuation that decides
whether the rest of the pattern fits; the first way that does is taken. -/

namespace LiveSchema.Pattern

/-- A place in the text and the spans of the groups matched so far, latest first. -/
structure Cursor where
  position : Nat
  spans : List (Nat × Nat × Nat)

namespace Cursor

def span? (cursor : Cursor) (group : Nat) : Option (Nat × Nat) := cursor.spans.lookup group

def close (cursor : Cursor) (group start : Nat) : Cursor :=
  { cursor with spans := (group, start, cursor.position) :: cursor.spans }

def advance (cursor : Cursor) (count : Nat) : Cursor :=
  { cursor with position := cursor.position + count }

end Cursor

/-- What the rest of a pattern makes of a place, if it fits there. -/
abbrev Continuation := Cursor → Option Cursor

/-- A matcher tries its ways in order until the continuation accepts one. -/
abbrev Matcher := Continuation → Continuation

def isWordAt (text : Array Char) (basic : Bool) (position : Nat) : Bool :=
  match text[position]? with
  | some char => CharClass.word.contains basic char.toNat
  | none => false

/-- A boundary lies where exactly one neighbour belongs to a word. -/
def atBoundary (text : Array Char) (basic : Bool) (position : Nat) : Bool :=
  (position != 0 && isWordAt text basic (position - 1)) != isWordAt text basic position

/-- Whether an anchor holds at a place. An empty text has neither boundaries nor
places that are none. -/
def Anchor.holds (text : Array Char) (position : Nat) : Anchor → Bool
  | .textStart => position == 0
  | .lineStart => position == 0 || text[position - 1]? == some '\n'
  | .textEnd => position == text.size
  | .finalEnd =>
    position == text.size || (position + 1 == text.size && text[position]? == some '\n')
  | .lineEnd => position == text.size || text[position]? == some '\n'
  | .boundary basic => !text.isEmpty && atBoundary text basic position
  | .noBoundary basic => !text.isEmpty && !atBoundary text basic position

/-- Whether the same letters as in a span follow at a place. -/
def sameLetters (text : Array Char) (folding : Folding) (start position : Nat) (count : Nat) :
    Bool :=
  position + count ≤ text.size && (List.range count).all fun offset =>
    match text[start + offset]?, text[position + offset]? with
    | some left, some right => folding.fold left.toNat == folding.fold right.toNat
    | _, _ => false

/-- Repeats as often as possible and gives back one by one. An empty repetition
is tried once and not followed by another. -/
def greedyLoop (body : Matcher) (least : Nat) (most : Option Nat) (next : Continuation) :
    (fuel count : Nat) → (last : Option Nat) → Continuation
  | 0, _, _, _ => none
  | fuel + 1, count, last, cursor =>
    if count < least then body (greedyLoop body least most next fuel (count + 1) last) cursor
    else if most.all (count < ·) && last != some cursor.position then
      match body (greedyLoop body least most next fuel (count + 1) (some cursor.position)) cursor with
      | some found => some found
      | none => next cursor
    else next cursor

def lazyLoop (body : Matcher) (least : Nat) (most : Option Nat) (next : Continuation) :
    (fuel count : Nat) → (last : Option Nat) → Continuation
  | 0, _, _, _ => none
  | fuel + 1, count, last, cursor =>
    if count < least then body (lazyLoop body least most next fuel (count + 1) last) cursor
    else
      match next cursor with
      | some found => some found
      | none =>
        if most.all (count < ·) && last != some cursor.position then
          body (lazyLoop body least most next fuel (count + 1) (some cursor.position)) cursor
        else none

/-- Repeats as often as possible and gives nothing back. -/
def possessiveLoop (body : Matcher) (least : Nat) (most : Option Nat) :
    (fuel count : Nat) → (last : Option Nat) → Continuation
  | 0, _, _, _ => none
  | fuel + 1, count, last, cursor =>
    if count < least then
      match body some cursor with
      | some found => possessiveLoop body least most fuel (count + 1) last found
      | none => none
    else if most.all (count < ·) && last != some cursor.position then
      match body some cursor with
      | some found => possessiveLoop body least most fuel (count + 1) (some cursor.position) found
      | none => some cursor
    else some cursor

/-- Beyond the required repetitions each one advances, but for a last one that is empty. -/
def loopFuel (text : Array Char) (least position : Nat) : Nat := least + (text.size - position) + 3

namespace Expr

mutual

def run (text : Array Char) : Expr → Matcher
  | .letter negated items folding basic, next, cursor =>
    match text[cursor.position]? with
    | none => none
    | some char =>
      let variants := folding.variants char.toNat
      if (items.any fun item => item.matches basic variants char.toNat) != negated then
        next (cursor.advance 1)
      else none
  | .any lineBreaks, next, cursor =>
    match text[cursor.position]? with
    | none => none
    | some char => if lineBreaks || char != '\n' then next (cursor.advance 1) else none
  | .anchor place, next, cursor => if place.holds text cursor.position then next cursor else none
  | .sequence parts, next, cursor => runAll text parts next cursor
  | .choice branches, next, cursor => runAny text branches next cursor
  | .group index body, next, cursor =>
    body.run text (fun inner => next (inner.close index cursor.position)) cursor
  | .loop eagerness least most body, next, cursor =>
    let fuel := loopFuel text least cursor.position
    match eagerness with
    | .greedy => greedyLoop (body.run text) least most next fuel 0 none cursor
    | .lazy => lazyLoop (body.run text) least most next fuel 0 none cursor
    | .possessive =>
      match possessiveLoop (body.run text) least most fuel 0 none cursor with
      | some found => next found
      | none => none
  | .look behind negated body, next, cursor =>
    let back := if behind then body.width.least else 0
    let found :=
      if back ≤ cursor.position then
        body.run text some { cursor with position := cursor.position - back }
      else none
    match found, negated with
    | some found, false => next { found with position := cursor.position }
    | none, true => next cursor
    | _, _ => none
  | .atomic body, next, cursor =>
    match body.run text some cursor with
    | some found => next found
    | none => none
  | .back index _ folding, next, cursor =>
    match cursor.span? index with
    | none => none
    | some (start, stop) =>
      if sameLetters text folding start cursor.position (stop - start) then
        next (cursor.advance (stop - start))
      else none
  | .condition index yes (some no), next, cursor =>
    if (cursor.span? index).isSome then yes.run text next cursor else no.run text next cursor
  | .condition index yes none, next, cursor =>
    if (cursor.span? index).isSome then yes.run text next cursor else next cursor

def runAll (text : Array Char) : List Expr → Matcher
  | [], next, cursor => next cursor
  | part :: rest, next, cursor => part.run text (runAll text rest next) cursor

def runAny (text : Array Char) : List Expr → Matcher
  | [], _, _ => none
  | branch :: rest, next, cursor =>
    match branch.run text next cursor with
    | some found => some found
    | none => runAny text rest next cursor

end

def foundIn (expr : Expr) (text : String) : Bool :=
  let chars := text.toList.toArray
  (List.range (chars.size + 1)).any fun start => (expr.run chars some ⟨start, []⟩).isSome

end Expr
end LiveSchema.Pattern
