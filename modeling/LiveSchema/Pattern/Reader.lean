import LiveSchema.Pattern.Expression
import LiveSchema.Text.Identifier

/-! Reading regular expressions. A source is cut into tokens, an escape being one
token, and read by descent; the fuel bounds the descent by the number of tokens. -/

namespace LiveSchema.Pattern

inductive Refusal where
  | malformed
  | tooLarge
  /-- Flags at the start of the expression exclude each other. -/
  | conflictingFlags
deriving DecidableEq, Repr

inductive Token where
  | plain (char : Char)
  | escape (char : Char)
deriving DecidableEq, Repr

def Token.chars : Token → List Char
  | .plain char => [char]
  | .escape char => ['\\', char]

/-- Cuts a source into tokens. A backslash needs a character after it. -/
def tokens? : List Char → Option (List Token)
  | [] => some []
  | '\\' :: [] => none
  | '\\' :: char :: rest => (tokens? rest).map (.escape char :: ·)
  | char :: rest => (tokens? rest).map (.plain char :: ·)

structure Flags where
  ignoreCase : Bool := false
  multiline : Bool := false
  dotAll : Bool := false
  verbose : Bool := false
  basic : Bool := false
  allChars : Bool := false
  template : Bool := false
deriving DecidableEq, Repr, Inhabited

namespace Flags

def union (left right : Flags) : Flags :=
  { ignoreCase := left.ignoreCase || right.ignoreCase
    multiline := left.multiline || right.multiline
    dotAll := left.dotAll || right.dotAll
    verbose := left.verbose || right.verbose
    basic := left.basic || right.basic
    allChars := left.allChars || right.allChars
    template := left.template || right.template }

/-- The flags inside a group that turns some on and some off. -/
def adjust (flags on off : Flags) : Flags :=
  { ignoreCase := (flags.ignoreCase || on.ignoreCase) && !off.ignoreCase
    multiline := (flags.multiline || on.multiline) && !off.multiline
    dotAll := (flags.dotAll || on.dotAll) && !off.dotAll
    verbose := (flags.verbose || on.verbose) && !off.verbose
    basic := if on.allChars then false else flags.basic || on.basic
    allChars := if on.basic then false else flags.allChars || on.allChars
    template := flags.template }

def overlap (left right : Flags) : Bool :=
  left.ignoreCase && right.ignoreCase || left.multiline && right.multiline ||
    left.dotAll && right.dotAll || left.verbose && right.verbose

def ofChar? : Char → Option Flags
  | 'i' => some { ignoreCase := true }
  | 'm' => some { multiline := true }
  | 's' => some { dotAll := true }
  | 'x' => some { verbose := true }
  | 'a' => some { basic := true }
  | 'u' => some { allChars := true }
  | 't' => some { template := true }
  | _ => none

def folding (flags : Flags) : Folding :=
  if flags.ignoreCase then (if flags.basic then .basic else .full) else .exact

end Flags

structure Progress where
  rest : List Token
  /-- The widths of the groups opened so far; an open group has none yet. -/
  groups : List (Option Width)
  names : List (String × Nat)
  /-- Inside a look behind, how many groups were open when it began. -/
  behind : Option Nat
  conditions : List Nat
  flags : Flags
deriving Inhabited

abbrev Reader := StateT Progress (Except Refusal)

namespace Reader

def refuse : Reader α := throw .malformed

def peek : Reader (Option Token) := return (← get).rest.head?

def next : Reader (Option Token) := do
  let progress ← get
  set { progress with rest := progress.rest.tail }
  return progress.rest.head?

def need : Reader Token := do
  match ← next with
  | some token => return token
  | none => refuse

def take (char : Char) : Reader Bool := do
  if (← peek) = some (.plain char) then
    discard next
    return true
  else
    return false

def expect (char : Char) : Reader Unit := do
  unless ← take char do refuse

end Reader

open Reader

def isDecimal (char : Char) : Bool := '0' ≤ char && char ≤ '9'

def isOctal (char : Char) : Bool := '0' ≤ char && char ≤ '7'

def isHex (char : Char) : Bool :=
  isDecimal char || 'a' ≤ char && char ≤ 'f' || 'A' ≤ char && char ≤ 'F'

def isBasicLetter (char : Char) : Bool :=
  'a' ≤ char && char ≤ 'z' || 'A' ≤ char && char ≤ 'Z'

def digitValue (char : Char) : Nat :=
  if isDecimal char then char.toNat - 48
  else if 'a' ≤ char then char.toNat - 87
  else char.toNat - 55

def numberIn (base : Nat) (digits : List Char) : Nat :=
  digits.foldl (fun value digit => value * base + digitValue digit) 0

/-- The longest run of at most `limit` plain characters of a kind. -/
def spanTokens (kind : Char → Bool) : (limit : Nat) → List Token → List Char × List Token
  | limit + 1, .plain char :: rest =>
    if kind char then
      let (chars, rest) := spanTokens kind limit rest
      (char :: chars, rest)
    else ([], .plain char :: rest)
  | _, rest => ([], rest)

def takeRun (kind : Char → Bool) (limit : Nat) : Reader (List Char) := do
  let progress ← get
  let (chars, rest) := spanTokens kind limit progress.rest
  set { progress with rest }
  return chars

def readHex (count : Nat) : Reader Nat := do
  let digits ← takeRun isHex count
  if digits.length = count then return numberIn 16 digits else refuse

def splitAtChar (stop : Char) : List Token → Option (List Char × List Token)
  | [] => none
  | token :: rest =>
    if token = .plain stop then some ([], rest)
    else (splitAtChar stop rest).map fun (chars, rest) => (token.chars ++ chars, rest)

/-- A name that is not empty, up to the character that ends it. -/
def readUntil (stop : Char) : Reader (List Char) := do
  let progress ← get
  match splitAtChar stop progress.rest with
  | some (name, rest) =>
    if name.isEmpty then refuse
    set { progress with rest }
    return name
  | none => refuse

def readName (stop : Char) : Reader String := do
  let name ← readUntil stop
  if isIdentifier name then return String.ofList name else refuse

def controlCode? : Char → Option Nat
  | 'a' => some 7
  | 'b' => some 8
  | 'f' => some 12
  | 'n' => some 10
  | 'r' => some 13
  | 't' => some 9
  | 'v' => some 11
  | '\\' => some 92
  | _ => none

def classItem? : Char → Option SetItem
  | 'd' => some (.classOf .digit false)
  | 'D' => some (.classOf .digit true)
  | 's' => some (.classOf .blank false)
  | 'S' => some (.classOf .blank true)
  | 'w' => some (.classOf .word false)
  | 'W' => some (.classOf .word true)
  | _ => none

/-- The code of an escape that is spelt the same everywhere: a character by its
number, or a character that needs no escape. A character by its name is refused with the
other letters: the table of names is left out. -/
def readCode (char : Char) : Reader Nat := do
  match char with
  | 'x' => readHex 2
  | 'u' => readHex 4
  | 'U' =>
    let code ← readHex 8
    if code < 0x110000 then return code else refuse
  | char => if isBasicLetter char || isDecimal char then refuse else return char.toNat

def readSetEscape (char : Char) : Reader SetItem := do
  if let some code := controlCode? char then return .code code
  if let some item := classItem? char then return item
  if isOctal char then
    let code := numberIn 8 (char :: (← takeRun isOctal 2))
    if code ≤ 0o377 then return .code code else refuse
  else
    return .code (← readCode char)

/-- A group can be referred to once it is closed, and from a look behind only if
it was closed before. -/
def checkGroup (index : Nat) : Reader Unit := do
  let progress ← get
  match progress.groups[index - 1]? with
  | some (some _) =>
    if progress.behind.any (· ≤ index) then refuse
  | _ => refuse

def readBack (index : Nat) (flags : Flags) : Reader Expr := do
  if index = 0 then refuse
  checkGroup index
  let width := ((← get).groups[index - 1]?.getD none).getD .zero
  return .back index width flags.folding

def codeExpr (code : Nat) (flags : Flags) : Expr :=
  .letter false [.code code] flags.folding flags.basic

def anchorEscape? (char : Char) (flags : Flags) : Option Anchor :=
  match char with
  | 'A' => some .textStart
  | 'Z' => some .textEnd
  | 'b' => some (.boundary flags.basic)
  | 'B' => some (.noBoundary flags.basic)
  | _ => none

/-- Three octal digits are a character, fewer a reference to a group. -/
def readDigits (char : Char) (flags : Flags) : Reader Expr := do
  if char = '0' then
    return codeExpr (numberIn 8 (← takeRun isOctal 2)) flags
  let second ← takeRun isDecimal 1
  match second with
  | [digit] =>
    if isOctal char && isOctal digit then
      match ← takeRun isOctal 1 with
      | [last] =>
        let code := numberIn 8 [char, digit, last]
        if code ≤ 0o377 then return codeExpr code flags else refuse
      | _ => readBack (numberIn 10 [char, digit]) flags
    else readBack (numberIn 10 [char, digit]) flags
  | _ => readBack (digitValue char) flags

def readEscape (char : Char) (flags : Flags) : Reader Expr := do
  if let some item := classItem? char then
    return .letter false [item] flags.folding flags.basic
  if let some place := anchorEscape? char flags then return .anchor place
  if let some code := controlCode? char then return codeExpr code flags
  if isDecimal char then readDigits char flags
  else return codeExpr (← readCode char) flags

def readSetItem (token : Token) : Reader SetItem := do
  match token with
  | .plain char => return .code char.toNat
  | .escape char => readSetEscape char

def rangeItem? : SetItem → SetItem → Option SetItem
  | .code first, .code last => if first ≤ last then some (.range first last) else none
  | _, _ => none

/-- The items of a set up to its closing bracket, which is an item if it comes first. -/
def readSetItems : (fuel : Nat) → (isFirst : Bool) → Reader (List SetItem)
  | 0, _ => refuse
  | fuel + 1, isFirst => do
    let token ← need
    if token = .plain ']' ∧ !isFirst then return []
    let item ← readSetItem token
    if ← take '-' then
      let last ← need
      if last = .plain ']' then return [item, .code '-'.toNat]
      match rangeItem? item (← readSetItem last) with
      | some range => return range :: (← readSetItems fuel false)
      | none => refuse
    else
      return item :: (← readSetItems fuel false)

def readSet (fuel : Nat) (flags : Flags) : Reader Expr := do
  let negated ← take '^'
  let items ← readSetItems fuel true
  return .letter negated items flags.folding flags.basic

def countLimit : Nat := 4294967295

def readCount (digits : List Char) : Reader (Option Nat) := do
  if digits.isEmpty then return none
  let count := numberIn 10 digits
  if count < countLimit then return some count else throw .tooLarge

/-- The counts between braces, or nothing if the brace is meant literally. -/
def readCounts : Reader (Option (Nat × Option Nat)) := do
  let start ← get
  let length := start.rest.length
  let low ← takeRun isDecimal length
  let comma ← take ','
  let high ← if comma then takeRun isDecimal length else pure low
  if (low.isEmpty && !comma) || !(← take '}') then
    set start
    return none
  let least := (← readCount low).getD 0
  let most ← readCount high
  if most.any (· < least) then refuse
  return some (least, most)

/-- Something read in a sequence. Anchors cannot be repeated, and neither can
what already is, unless it stands in a group. -/
inductive Piece where
  | plain (expr : Expr)
  | anchor (place : Anchor)
  | loop (expr : Expr)

def Piece.expr : Piece → Expr
  | .plain expr | .loop expr => expr
  | .anchor place => .anchor place

/-- The mark after a repetition says how it takes what it can. -/
def readEagerness : Reader Eagerness := do
  if ← take '?' then return .lazy
  if ← take '+' then return .possessive
  return .greedy

def readLoop (pieces : List Piece) (least : Nat) (most : Option Nat) : Reader (List Piece) := do
  match pieces with
  | .plain body :: rest =>
    let eagerness ← readEagerness
    return .loop (.loop eagerness least most body) :: rest
  | _ => refuse

def readFlag (char : Char) (on : Flags) : Reader Flags := do
  match Flags.ofChar? char with
  | some flag =>
    let on := on.union flag
    if on.basic && on.allChars then refuse
    return on
  | none => refuse

inductive FlagGroup where
  | everywhere (on : Flags)
  | inside (on off : Flags)

def readFlagsOff : (fuel : Nat) → Flags → Reader Flags
  | 0, _ => refuse
  | fuel + 1, off => do
    match ← need with
    | .plain ':' => return off
    | .plain char =>
      let off ← readFlag char off
      if off.basic || off.allChars then refuse
      readFlagsOff fuel off
    | .escape _ => refuse

def readInsideFlags (fuel : Nat) (on : Flags) (offFollows : Bool) : Reader FlagGroup := do
  if on.template then refuse
  if !offFollows then return .inside on {}
  if ← take ':' then refuse
  let off ← readFlagsOff fuel {}
  if off.template || on.overlap off then refuse
  return .inside on off

def readFlagsOn : (fuel : Nat) → Flags → Reader FlagGroup
  | 0, _ => refuse
  | fuel + 1, on => do
    match ← need with
    | .plain ')' => return .everywhere on
    | .plain ':' => readInsideFlags fuel on false
    | .plain '-' => readInsideFlags fuel on true
    | .plain char => readFlagsOn fuel (← readFlag char on)
    | .escape _ => refuse

/-- The decimal digit of a character of any script. -/
def anyDigit? (char : Char) : Option Nat :=
  (digitRanges.bounds.find? fun range => range.1 ≤ char.toNat && char.toNat ≤ range.2).map
    fun range => (char.toNat - range.1) % 10

/-- A whole number as it may stand in a condition: blanks around it, a plus sign
and single underscores between the digits are allowed. -/
def conditionNumber? (name : List Char) : Option Nat :=
  let trimmed := (trimBlank (String.ofList name)).toList
  let unsigned := match trimmed with
    | '+' :: rest => rest
    | chars => chars
  match unsigned with
  | [] => none
  | first :: rest => do go (← anyDigit? first) rest
where
  go (value : Nat) : List Char → Option Nat
    | [] => some value
    | '_' :: digit :: rest => do go (value * 10 + (← anyDigit? digit)) rest
    | digit :: rest => do go (value * 10 + (← anyDigit? digit)) rest

/-- The group a condition asks for. A number may belong to a later group. -/
def readCondition : Reader Nat := do
  let name ← readUntil ')'
  let index ←
    if isIdentifier name then
      match (← get).names.lookup (String.ofList name) with
      | some index => pure index
      | none => refuse
    else
      match conditionNumber? name with
      | some 0 | none => refuse
      | some index =>
        modify fun progress => { progress with conditions := index :: progress.conditions }
        pure index
  if (← get).behind.isSome then checkGroup index
  return index

def openGroup (name : Option String) : Reader Nat := do
  let progress ← get
  let index := progress.groups.length + 1
  match name with
  | none => set { progress with groups := progress.groups ++ [none] }
  | some name =>
    if (progress.names.lookup name).isSome then refuse
    set { progress with groups := progress.groups ++ [none], names := (name, index) :: progress.names }
  return index

def closeGroup (index : Nat) (body : Expr) : Reader Unit :=
  modify fun progress => { progress with groups := progress.groups.set (index - 1) (some body.width) }

def skipComment : Reader Unit := do
  let progress ← get
  match splitAtChar ')' progress.rest with
  | some (_, rest) => set { progress with rest }
  | none => refuse

def skipLine : (fuel : Nat) → Reader Unit
  | 0 => return ()
  | fuel + 1 => do
    match ← next with
    | none | some (.plain '\n') => return ()
    | _ => skipLine fuel

def isLayout (char : Char) : Bool := char = ' ' || ('\t' ≤ char && char ≤ '\r')

def sequenceOf (pieces : List Piece) : Expr :=
  match pieces with
  | [piece] => piece.expr
  | pieces => .sequence (pieces.reverse.map Piece.expr)

inductive Opening where
  | group (name : Option String)
  | bare
  | atomic
  | look (behind negated : Bool)
  | flags (group : FlagGroup)
  | backReference (name : String)
  | comment
  | condition

def readOpening (fuel : Nat) : Reader Opening := do
  if !(← take '?') then return .group none
  match ← need with
  | .plain 'P' =>
    match ← need with
    | .plain '<' => return .group (some (← readName '>'))
    | .plain '=' => return .backReference (← readName ')')
    | _ => refuse
  | .plain ':' => return .bare
  | .plain '#' => return .comment
  | .plain '=' => return .look false false
  | .plain '!' => return .look false true
  | .plain '<' =>
    match ← need with
    | .plain '=' => return .look true false
    | .plain '!' => return .look true true
    | _ => refuse
  | .plain '(' => return .condition
  | .plain '>' => return .atomic
  | .plain '-' => return .flags (← readInsideFlags fuel {} true)
  | .plain char => return .flags (← readFlagsOn fuel (← readFlag char {}))
  | .escape _ => refuse

mutual

/-- Alternatives up to a closing bracket or the end. At the top, flags for the
whole expression stay in force in the alternatives that follow. -/
def readChoice : (fuel : Nat) → (isTop isFirst : Bool) → Flags → Reader (List Expr)
  | 0, _, _, _ => refuse
  | fuel + 1, isTop, isFirst, flags => do
    let branch ← readSequence fuel (isTop && isFirst) flags []
    if ← take '|' then
      let progress ← get
      let flags := if isTop then progress.flags else flags
      return branch :: (← readChoice fuel isTop false flags)
    else
      return [branch]

/-- Pieces up to a bar, a closing bracket or the end. -/
def readSequence : (fuel : Nat) → (isStart : Bool) → Flags → List Piece → Reader Expr
  | 0, _, _, _ => refuse
  | fuel + 1, isStart, flags, pieces => do
    match ← peek with
    | none | some (.plain '|') | some (.plain ')') => return sequenceOf pieces
    | some token =>
      discard next
      match token with
      | .escape char =>
        match ← readEscape char flags with
        | .anchor place => readSequence fuel isStart flags (.anchor place :: pieces)
        | expr => readSequence fuel isStart flags (.plain expr :: pieces)
      | .plain char =>
        if flags.verbose && isLayout char then readSequence fuel isStart flags pieces
        else if flags.verbose && char = '#' then
          skipLine fuel
          readSequence fuel isStart flags pieces
        else
          match char with
          | '[' =>
            let expr ← readSet fuel flags
            readSequence fuel isStart flags (.plain expr :: pieces)
          | '*' => readSequence fuel isStart flags (← readLoop pieces 0 none)
          | '+' => readSequence fuel isStart flags (← readLoop pieces 1 none)
          | '?' => readSequence fuel isStart flags (← readLoop pieces 0 (some 1))
          | '\x7b' =>
            match ← readCounts with
            | some (least, most) =>
              readSequence fuel isStart flags (← readLoop pieces least most)
            | none =>
              readSequence fuel isStart flags (.plain (codeExpr char.toNat flags) :: pieces)
          | '.' => readSequence fuel isStart flags (.plain (.any flags.dotAll) :: pieces)
          | '^' =>
            let place := if flags.multiline then Anchor.lineStart else .textStart
            readSequence fuel isStart flags (.anchor place :: pieces)
          | '$' =>
            let place := if flags.multiline then Anchor.lineEnd else .finalEnd
            readSequence fuel isStart flags (.anchor place :: pieces)
          | '(' =>
            match ← readOpening fuel with
            | .comment =>
              skipComment
              readSequence fuel isStart flags pieces
            | .flags (.everywhere on) =>
              if !isStart || !pieces.isEmpty then refuse
              modify fun progress => { progress with flags := progress.flags.union on }
              readSequence fuel isStart (← get).flags pieces
            | opening =>
              let expr ← readGroup fuel flags opening
              readSequence fuel isStart flags (.plain expr :: pieces)
          | char => readSequence fuel isStart flags (.plain (codeExpr char.toNat flags) :: pieces)

/-- A group after its opening, up to its closing bracket. -/
def readGroup : (fuel : Nat) → Flags → Opening → Reader Expr
  | 0, _, _ => refuse
  | fuel + 1, flags, opening => do
    match opening with
    | .group name =>
      let index ← openGroup name
      let body := Expr.choice (← readChoice fuel false true flags)
      expect ')'
      closeGroup index body
      return .group index body
    | .bare =>
      let body := Expr.choice (← readChoice fuel false true flags)
      expect ')'
      return body
    | .atomic =>
      let body := Expr.choice (← readChoice fuel false true flags)
      expect ')'
      return .atomic body
    | .flags (.inside on off) =>
      let body := Expr.choice (← readChoice fuel false true (flags.adjust on off))
      expect ')'
      return body
    | .look behind negated =>
      let outer := (← get).behind
      if behind && outer.isNone then
        modify fun progress => { progress with behind := some (progress.groups.length + 1) }
      let body := Expr.choice (← readChoice fuel false true flags)
      if behind then modify fun progress => { progress with behind := outer }
      expect ')'
      return .look behind negated body
    | .backReference name =>
      match (← get).names.lookup name with
      | some index => readBack index flags
      | none => refuse
    | .condition =>
      let index ← readCondition
      let yes ← readSequence fuel false flags []
      let no ← if ← take '|' then pure (some (← readSequence fuel false flags [])) else pure none
      expect ')'
      return .condition index yes no
    | .comment | .flags (.everywhere _) => refuse

end

def readAll (fuel : Nat) : Reader Expr := do
  let expr := Expr.choice (← readChoice fuel true true {})
  let progress ← get
  if progress.flags.basic && progress.flags.allChars then throw .conflictingFlags
  if !progress.rest.isEmpty then refuse
  if progress.conditions.any (progress.groups.length < ·) then refuse
  if !expr.looksFixed || progress.flags.template && expr.hasLoop then refuse
  return expr

/-- The tree of a source. Every step of the descent takes a token or closes a
level that one opened. -/
def read (source : String) : Except Refusal Expr :=
  match tokens? source.toList with
  | none => .error .malformed
  | some rest =>
    let start : Progress := ⟨rest, [], [], none, [], {}⟩
    (readAll (3 * rest.length + 8)).run' start

end LiveSchema.Pattern
