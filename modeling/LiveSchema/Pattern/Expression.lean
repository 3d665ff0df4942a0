import LiveSchema.Text.Blank
import LiveSchema.Text.Case
import LiveSchema.Text.Word

/-! Regular expressions as trees. Flags are already resolved: each leaf says how
it treats letter case, line ends and characters beyond the first 128. -/

namespace LiveSchema.Pattern

inductive Folding where
  | exact
  | basic
  | full
deriving DecidableEq, Repr

/-- A class of characters, over all characters or the first 128 only. -/
inductive CharClass where
  | digit
  | blank
  | word
deriving DecidableEq, Repr

inductive SetItem where
  | code (value : Nat)
  | range (first last : Nat)
  | classOf (kind : CharClass) (negated : Bool)
deriving DecidableEq, Repr

inductive Anchor where
  | textStart
  | lineStart
  | textEnd
  /-- The end of the text, or before a line break that ends it. -/
  | finalEnd
  | lineEnd
  | boundary (basic : Bool)
  | noBoundary (basic : Bool)
deriving DecidableEq, Repr

inductive Eagerness where
  | greedy
  | lazy
  | possessive
deriving DecidableEq, Repr

/-- The numbers of characters a tree can match; without `most` there is no limit. -/
structure Width where
  least : Nat
  most : Option Nat
deriving DecidableEq, Repr, Inhabited

namespace Width

def zero : Width := ⟨0, some 0⟩

def one : Width := ⟨1, some 1⟩

def isFixed (width : Width) : Bool := width.most == some width.least

/-- The widest look behind. -/
def backLimit : Nat := 4294967295

def reachesBack (width : Width) : Bool := width.isFixed && width.least ≤ backLimit

def append (left right : Width) : Width :=
  ⟨left.least + right.least, do return (← left.most) + (← right.most)⟩

def either (left right : Width) : Width :=
  ⟨min left.least right.least, do return max (← left.most) (← right.most)⟩

/-- The width of `least` to `most` repetitions. Any number of empty matches is
empty, and so is no match at all. -/
def times (width : Width) (least : Nat) (most : Option Nat) : Width :=
  let empty := width.most = some 0 ∨ most = some 0
  ⟨width.least * least, if empty then some 0 else do return (← width.most) * (← most)⟩

end Width

inductive Expr where
  /-- One character in a set or outside it. -/
  | letter (negated : Bool) (items : List SetItem) (folding : Folding) (basic : Bool)
  /-- Any character, or any but a line break. -/
  | any (lineBreaks : Bool)
  | anchor (place : Anchor)
  | sequence (parts : List Expr)
  | choice (branches : List Expr)
  | group (index : Nat) (body : Expr)
  | loop (eagerness : Eagerness) (least : Nat) (most : Option Nat) (body : Expr)
  | look (behind negated : Bool) (body : Expr)
  | atomic (body : Expr)
  | back (index : Nat) (width : Width) (folding : Folding)
  | condition (index : Nat) (yes : Expr) (no : Option Expr)
deriving Inhabited

namespace Expr

mutual

def width : Expr → Width
  | .letter .. | .any _ => .one
  | .anchor _ | .look .. => .zero
  | .sequence parts => widthAll parts
  | .choice branches => widthAny branches
  | .group _ body | .atomic body => body.width
  | .loop _ least most body => body.width.times least most
  | .back _ width _ => width
  | .condition _ yes (some no) => yes.width.either no.width
  | .condition _ yes none => yes.width.either .zero

def widthAll : List Expr → Width
  | [] => .zero
  | part :: rest => part.width.append (widthAll rest)

def widthAny : List Expr → Width
  | [] => .zero
  | [branch] => branch.width
  | branch :: rest => branch.width.either (widthAny rest)

end

mutual

/-- Whether every look behind has a fixed width, which tells where it begins, and not too
large a one. -/
def looksFixed : Expr → Bool
  | .letter .. | .any _ | .anchor _ | .back .. => true
  | .sequence parts => looksFixedAll parts
  | .choice branches => looksFixedAll branches
  | .group _ body | .atomic body | .loop _ _ _ body => body.looksFixed
  | .look behind _ body => (!behind || body.width.reachesBack) && body.looksFixed
  | .condition _ yes (some no) => yes.looksFixed && no.looksFixed
  | .condition _ yes none => yes.looksFixed

def looksFixedAll : List Expr → Bool
  | [] => true
  | part :: rest => part.looksFixed && looksFixedAll rest

end

mutual

def hasLoop : Expr → Bool
  | .letter .. | .any _ | .anchor _ | .back .. => false
  | .sequence parts => hasLoopAny parts
  | .choice branches => hasLoopAny branches
  | .group _ body | .atomic body | .look _ _ body => body.hasLoop
  | .loop .. => true
  | .condition _ yes (some no) => yes.hasLoop || no.hasLoop
  | .condition _ yes none => yes.hasLoop

def hasLoopAny : List Expr → Bool
  | [] => false
  | part :: rest => part.hasLoop || hasLoopAny rest

end

end Expr

def CharClass.contains (kind : CharClass) (basic : Bool) (code : Nat) : Bool :=
  let basicCode := !basic || code < 128
  match kind with
  | .digit => basicCode && digitRanges.contains code
  | .word => basicCode && wordRanges.contains code
  | .blank =>
    if basic then (9 ≤ code && code ≤ 13) || code == 32 else blankRanges.contains code

/-- Capital and small letter of the first 128 characters, and any other alone. -/
def basicVariants (code : Nat) : List Nat :=
  if 65 ≤ code ∧ code ≤ 90 then [code, code + 32]
  else if 97 ≤ code ∧ code ≤ 122 then [code, code - 32]
  else [code]

def Folding.variants (folding : Folding) (code : Nat) : List Nat :=
  match folding with
  | .exact => [code]
  | .basic => basicVariants code
  | .full => caseVariants code

def Folding.fold (folding : Folding) (code : Nat) : Nat :=
  match folding with
  | .exact => code
  | .basic => if 65 ≤ code ∧ code ≤ 90 then code + 32 else code
  | .full => lowerCode code

def SetItem.matches (item : SetItem) (basic : Bool) (variants : List Nat) (code : Nat) : Bool :=
  match item with
  | .code value => variants.contains value
  | .range first last => variants.any fun variant => first ≤ variant && variant ≤ last
  | .classOf kind negated => kind.contains basic code != negated

end LiveSchema.Pattern
