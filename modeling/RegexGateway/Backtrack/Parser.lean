import RegexGateway.Backtrack.Error
import RegexGateway.Backtrack.Expr
import RegexGateway.Regex.Parser
import RegexGateway.Text.Bytes

namespace RegexGateway

namespace Backtrack

structure Modes where
  caseInsensitive : Bool
  multiLine : Bool
  dotMatchesNewLine : Bool
  swapGreed : Bool
  ignoreSpace : Bool
  deriving DecidableEq, Repr

/-- Where a reader stands: the byte offset, the text from there on, the size of the whole pattern,
the flags, and what has been met so far: the number of groups, the names of groups, the last one
first, and whether a group was referred to by its number. -/
structure Reader where
  pos : Nat
  rest : List Char
  size : Nat
  modes : Modes
  groups : Nat
  names : List (String × Nat)
  numbered : Bool

abbrev Read := StateT Reader (Except PatternFault)

def failAt {α : Type} (pos : Nat) (error : ParseError) : Read α := throw (.parse pos error)

namespace Reader

def ofPattern (pattern : List Char) : Reader :=
  ⟨0, pattern, Text.byteLength pattern, ⟨false, false, false, false, false⟩, 0, [], false⟩

def skip (r : Reader) (count : Nat) : Reader :=
  { r with
    pos := r.pos + Text.byteLength (r.rest.take count)
    rest := r.rest.drop count }

def startsWith (r : Reader) (text : String) : Bool := text.toList.isPrefixOf r.rest

end Reader

inductive Skipping where
  | pattern
  | line
  | comment
  | quoted

/-- Past comments, and past blanks where they do not count. A comment that does not end fails where
it should have. -/
def skipBlank (ignoreSpace : Bool) : Skipping → Nat → List Char → Except Nat (Nat × List Char)
  | .pattern, pos, [] | .line, pos, [] => .ok (pos, [])
  | .comment, pos, [] => .error pos
  | .quoted, pos, [] => .error (pos + 1)
  | .pattern, pos, c :: rest =>
    if c = '(' ∧ ['?', '#'].isPrefixOf rest then skipBlank ignoreSpace .comment (pos + 1) rest
    else if !ignoreSpace then .ok (pos, c :: rest)
    else if c = '#' then skipBlank ignoreSpace .line (pos + 1) rest
    else if c = ' ' ∨ c = '\r' ∨ c = '\n' ∨ c = '\t' then
      skipBlank ignoreSpace .pattern (pos + 1) rest
    else .ok (pos, c :: rest)
  | .line, pos, c :: rest =>
    skipBlank ignoreSpace (if c = '\n' then .pattern else .line) (pos + c.utf8Size) rest
  | .comment, pos, c :: rest =>
    skipBlank ignoreSpace
      (if c = ')' then .pattern else if c = '\\' then .quoted else .comment)
      (pos + c.utf8Size) rest
  | .quoted, pos, c :: rest => skipBlank ignoreSpace .comment (pos + c.utf8Size) rest

def settle : Read Unit := do
  let r ← get
  match skipBlank r.modes.ignoreSpace .pattern r.pos r.rest with
  | .ok (pos, rest) => set { r with pos, rest }
  | .error pos => failAt pos .unclosedParenthesis

def decimal? (text : List Char) : Option (Nat × List Char) :=
  let digits := text.takeWhile Char.isDigit
  let n := digits.foldl (fun (n : Nat) c => 10 * n + (c.toNat - 48)) 0
  if digits.isEmpty ∨ UInt64.size ≤ n then none else some (n, text.drop digits.length)

def isNameChar (c : Char) : Bool := c = '_' || CharSet.alphanumeric.contains c

/-- Reads a group name between brackets. A relative one, which counts groups, may have a minus in
front. -/
def groupName? (opening closing : List Char) (allowRelative : Bool) (text : List Char) :
    Option (List Char) := do
  if !opening.isPrefixOf text ∨
      Text.byteLength text ≤ Text.byteLength opening + Text.byteLength closing then none
  let inner := text.drop opening.length
  let sign := if allowRelative && inner.head? = some '-' then ['-'] else []
  let name := sign ++ (inner.drop sign.length).takeWhile isNameChar
  if name.isEmpty ∨ !closing.isPrefixOf (inner.drop name.length) then none
  return name

def readNumberedReference : Read Expr := do
  let r ← get
  match decimal? r.rest with
  | some (group, _) =>
    if group < r.size / 2 then
      let digits := r.rest.takeWhile Char.isDigit
      set { r.skip digits.length with numbered := true }
      return .reference group
    else failAt r.pos .backReference
  | none => failAt r.pos .backReference

def signedNumber? (text : List Char) : Option Int :=
  let (negative, digits) := match text with
    | '-' :: rest => (true, rest)
    | _ => (false, text)
  match decimal? digits with
  | some (n, []) =>
    if negative then (if n ≤ 0x8000000000000000 then some (-(n : Int)) else none)
    else if n < 0x8000000000000000 then some n else none
  | _ => none

def Reader.group? (r : Reader) (name : List Char) : Option Nat := do
  match r.names.lookup (String.ofList name) with
  | some group => return group
  | none =>
    let n ← signedNumber? name
    let group : Int := if n < 0 then r.groups + n + 1 else n
    if group < 0 then none else some group.toNat

def readNamedReference (opening closing : String) (allowRelative : Bool) : Read Expr := do
  let r ← get
  match groupName? opening.toList closing.toList allowRelative r.rest with
  | none => failAt r.pos .groupName
  | some name =>
    match r.group? name with
    | none => failAt r.pos (.groupNameReference (String.ofList name))
    | some group =>
      set (r.skip (opening.length + name.length + closing.length))
      return .reference group

def readHex (count : Nat) : Read Expr := do
  let r ← get
  let plain := r.rest.take count
  let digits : List Char ←
    if plain.length = count ∧ plain.all Regex.isHexDigit then
      set (r.skip count)
      pure plain
    else
      let inner := (r.rest.drop 1).takeWhile Regex.isHexDigit
      if r.rest.head? = some '\x7b' ∧ !inner.isEmpty ∧ inner.length ≤ 8 ∧
          r.rest[inner.length + 1]? = some '\x7d' then
        set (r.skip (inner.length + 2))
        pure inner
      else failAt r.pos .hexEscape
  match Regex.charOfCode? (Regex.hexNumber digits) with
  | some c => return .literal c r.modes.caseInsensitive
  | none => failAt r.pos .codePoint

def readProperty (start : Nat) (escape : List Char) : Read Expr := do
  let r ← get
  let name ←
    if r.rest.head? = some '\x7b' then
      let inner := (r.rest.drop 1).takeWhile (· ≠ '\x7d')
      if inner.length + 1 = r.rest.length then failAt start .unclosedProperty
      pure (r.rest.take (inner.length + 2))
    else pure (r.rest.take 1)
  set (r.skip name.length)
  return .charClass (escape ++ name) r.modes.caseInsensitive

def controlEscapes : List (Char × Char) :=
  [('a', '\x07'), ('b', '\x08'), ('f', '\x0c'), ('n', '\n'), ('r', '\r'), ('t', '\t'),
    ('v', '\x0b'), ('e', '\x1b')]

def classLetters : List Char := ['k', 'A', 'z', 'B', 'K', 'G']

def readCommonEscape (start : Nat) (c : Char) : Read Expr := do
  let r ← get
  let ignoreCase := r.modes.caseInsensitive
  if "dDsSwW".toList.contains c then return .charClass ['\\', c] ignoreCase
  if c = 'h' then return .charClass "[0-9A-Fa-f]".toList false
  if c = 'H' then return .charClass "[^0-9A-Fa-f]".toList false
  if c = 'x' then return ← readHex 2
  if c = 'u' then return ← readHex 4
  if c = 'U' then return ← readHex 8
  if (c = 'p' ∨ c = 'P') ∧ !r.rest.isEmpty then return ← readProperty start ['\\', c]
  match controlEscapes.lookup c with
  | some control => return .literal control false
  | none =>
    if c.isAlpha ∧ c ∉ classLetters then
      failAt start (.escape (String.ofList ['\\', c]))
    return .literal c false

def assertionEscapes : List (Char × Assertion) :=
  [('A', .textStart), ('z', .textEnd), ('b', .wordBoundary), ('B', .notWordBoundary),
    ('<', .wordStart), ('>', .wordEnd)]

def readEscape (inClass : Bool) : Read Expr := do
  let r ← get
  let start := r.pos
  match r.rest[1]? with
  | none => failAt start .trailingBackslash
  | some c =>
    if c.isDigit then
      set (r.skip 1)
      return ← readNumberedReference
    set (r.skip 2)
    if inClass then return ← readCommonEscape start c
    match assertionEscapes.lookup c with
    | some kind =>
      if (c = 'b' ∨ c = 'B') ∧ r.rest[2]? = some '\x7b' then
        failAt start (.escape (String.ofList ['\\', c]))
      return .assertion kind
    | none =>
      if c = 'k' then
        if r.rest[2]? = some '\'' then readNamedReference "'" "'" true
        else readNamedReference "<" ">" true
      else if c = 'K' then return .keepOut
      else if c = 'G' then return .searchStart
      else readCommonEscape start c

def readClassBody : Nat → Nat → List Char → Read (List Char)
  | 0, _, _ => do failAt (← get).pos .charClass
  | fuel + 1, depth, spelling => do
    let r ← get
    match r.rest with
    | [] => failAt r.pos .charClass
    | '\\' :: _ =>
      match ← readEscape true with
      | .literal c _ =>
        let quoted := if c ∈ Regex.metaCharacters then [c, '\\'] else [c]
        readClassBody fuel depth (quoted ++ spelling)
      | .charClass inner _ => readClassBody fuel depth (inner.reverse ++ spelling)
      | _ => failAt r.pos .charClass
    | c :: _ => do
      set (r.skip 1)
      match c, depth with
      | '[', _ => readClassBody fuel (depth + 1) (c :: spelling)
      | ']', 0 => return c :: spelling
      | ']', d + 1 => readClassBody fuel d (c :: spelling)
      | _, _ => readClassBody fuel depth (c :: spelling)

def readClass : Read Expr := do
  let r ← get
  let caret := r.rest[1]? = some '^'
  let opening := if caret then 2 else 1
  let count := if r.rest[opening]? = some ']' then opening + 1 else opening
  set (r.skip count)
  let spelling ← readClassBody (r.rest.length + 1) 0 (r.rest.take count).reverse
  return .charClass spelling.reverse r.modes.caseInsensitive

/-- Reads the counts of a repetition in braces. Braces that hold no counts are left unread. -/
def readCounts : Read (Option (Nat × Option Nat)) := do
  let before ← get
  set (before.skip 1)
  settle
  let r ← get
  let least? ← match r.rest with
    | ',' :: _ => pure (some 0)
    | _ => match decimal? r.rest with
      | some (n, rest) =>
        set (r.skip (r.rest.length - rest.length))
        pure (some n)
      | none => pure none
  let some least := least? | set before; return none
  settle
  let r ← get
  let most? ← match r.rest with
    | '\x7d' :: _ => pure (some (some least))
    | ',' :: _ => do
      set (r.skip 1)
      settle
      let r ← get
      match decimal? r.rest with
      | some (n, rest) =>
        set (r.skip (r.rest.length - rest.length))
        pure (some (if n = UInt64.size - 1 then none else some n))
      | none => pure (some none)
    | _ => pure none
  let some most := most? | set before; return none
  settle
  let r ← get
  match r.rest with
  | '\x7d' :: _ =>
    set (r.skip 1)
    return some (least, most)
  | _ => set before; return none

def readRepetition (e : Expr) : Read Expr := do
  settle
  let r ← get
  let counts? : Option (Nat × Option Nat) ← match r.rest with
    | '?' :: _ => set (r.skip 1); pure (some (0, some 1))
    | '*' :: _ => set (r.skip 1); pure (some (0, none))
    | '+' :: _ => set (r.skip 1); pure (some (1, none))
    | '\x7b' :: _ => readCounts
    | _ => pure none
  let some (least, most) := counts? | return e
  if !e.isRepeatable then failAt ((← get).pos - 1) .repeatTarget
  settle
  let r ← get
  let isLazy := r.rest.head? = some '?'
  if isLazy then set (r.skip 1)
  let repeated := Expr.repetition least most (isLazy == r.modes.swapGreed) e
  let r ← get
  if r.rest.head? = some '+' then
    set (r.skip 1)
    return .atomic repeated
  return repeated

def readClosing : Read Unit := do
  settle
  let r ← get
  match r.rest with
  | [] => failAt r.pos .unclosedParenthesis
  | ')' :: _ => set (r.skip 1)
  | _ => failAt r.pos .closingParenthesis

/-- What comes after the opening of a group: a body of some kind, a reference that is the whole
group, a conditional, or flags. -/
inductive Opening where
  | capture
  | atomic
  | lookAround (kind : LookAround)
  | reference
  | conditional
  | flags

def readGroupName (skipped : Nat) : Read Unit := do
  let r ← get
  let group := r.groups + 1
  match groupName? ['<'] ['>'] false (r.rest.drop skipped) with
  | none => failAt r.pos .groupName
  | some name =>
    set { r.skip (skipped + name.length + 2) with
      groups := group, names := (String.ofList name, group) :: r.names }

def readOpening : Read Opening := do
  let r ← get
  let skipTo (count : Nat) (opening : Opening) : Read Opening := do
    set (r.skip count)
    return opening
  if r.startsWith "?=" then skipTo 2 (.lookAround ⟨false, false⟩)
  else if r.startsWith "?!" then skipTo 2 (.lookAround ⟨false, true⟩)
  else if r.startsWith "?<=" then skipTo 3 (.lookAround ⟨true, false⟩)
  else if r.startsWith "?<!" then skipTo 3 (.lookAround ⟨true, true⟩)
  else if r.startsWith "?<" then readGroupName 1; return .capture
  else if r.startsWith "?P<" then readGroupName 2; return .capture
  else if r.startsWith "?P=" then skipTo 3 .reference
  else if r.startsWith "?>" then skipTo 2 .atomic
  else if r.startsWith "?(" then skipTo 2 .conditional
  else if r.startsWith "?" then skipTo 1 .flags
  else
    set { r with groups := r.groups + 1 }
    return .capture

def Modes.set? (m : Modes) (letter : Char) (on : Bool) : Option Modes :=
  match letter with
  | 'i' => some { m with caseInsensitive := on }
  | 'm' => some { m with multiLine := on }
  | 's' => some { m with dotMatchesNewLine := on }
  | 'U' => some { m with swapGreed := on }
  | 'x' => some { m with ignoreSpace := on }
  | _ => none

def readFlags (opening : Reader) : Nat → Bool → Read Bool
  | 0, _ => failAt opening.pos .unclosedParenthesis
  | fuel + 1, negated => do
    settle
    let r ← get
    let unknown {α : Type} : Read α :=
      let seen := opening.rest.take (opening.rest.length - r.rest.length + 1)
      failAt opening.pos (.unknownFlag (String.ofList ('(' :: '?' :: seen)))
    match r.rest with
    | [] => failAt r.pos .unclosedParenthesis
    | ')' :: _ =>
      if r.pos = opening.pos ∨ (negated ∧ r.pos = opening.pos + 1) then unknown
      set (r.skip 1)
      return false
    | ':' :: _ =>
      if negated ∧ r.pos = opening.pos + 1 then unknown
      set (r.skip 1)
      return true
    | '-' :: _ =>
      if negated then unknown
      set (r.skip 1)
      readFlags opening fuel true
    | 'u' :: _ =>
      if negated then failAt r.pos .unicodeRequired
      set (r.skip 1)
      readFlags opening fuel negated
    | c :: _ =>
      match r.modes.set? c (!negated) with
      | none => unknown
      | some modes =>
        set { r.skip 1 with modes }
        readFlags opening fuel negated

def nestLimit : Nat := 64

structure Body where
  branches : List Expr
  parts : List Expr

namespace Body

def empty : Body := ⟨[], []⟩

def push (b : Body) (e : Expr) : Body := if e.isEmpty then b else { b with parts := e :: b.parts }

def branch (b : Body) : Body := ⟨Expr.ofParts b.parts.reverse :: b.branches, []⟩

/-- The whole body. Only one without alternatives is checked for references by number beside
groups with names. -/
def close (b : Body) : Read Expr := do
  let last := Expr.ofParts b.parts.reverse
  if !b.branches.isEmpty then return .alternation (last :: b.branches).reverse
  let r ← get
  if r.numbered ∧ !r.names.isEmpty then throw (.plan .numberedReference)
  return last

end Body

/-- The test that a conditional makes. A reference asks whether its group has matched. -/
def condition : Expr → Expr
  | .reference group => .groupMatched group
  | e => e

def conditional (test body : Expr) : Expr :=
  let (ifTrue, ifFalse) := match body with
    | .alternation [a, b] => (a, b)
    | .alternation (a :: rest) => (a, .alternation rest)
    | e => (e, .empty)
  if ifTrue.isEmpty ∧ ifFalse.isEmpty then condition test
  else .conditional (condition test) ifTrue ifFalse

mutual

/-- Reads alternatives up to a closing parenthesis or the end. Each step takes a character, and
three steps lead into a group, so thrice as much fuel as there are characters is enough. -/
def readBody (fuel depth : Nat) (body : Body) : Read Expr :=
  match fuel with
  | 0 => body.close
  | fuel + 1 => do
    settle
    let r ← get
    match r.rest with
    | [] | ')' :: _ => body.close
    | '|' :: _ => do
      set (r.skip 1)
      readBody fuel depth body.branch
    | '?' :: _ | '*' :: _ | '+' :: _ => failAt r.pos .repeatTarget
    | c :: _ => do
      let e ← readAtom fuel depth c
      readBody fuel depth (body.push (← readRepetition e))

def readAtom (fuel depth : Nat) (c : Char) : Read Expr :=
  match fuel with
  | 0 => do failAt (← get).pos .unfinished
  | fuel + 1 => do
    let r ← get
    match c with
    | '.' => set (r.skip 1); return .any r.modes.dotMatchesNewLine
    | '^' =>
      set (r.skip 1)
      return .assertion (if r.modes.multiLine then .lineStart else .textStart)
    | '$' =>
      set (r.skip 1)
      return .assertion (if r.modes.multiLine then .lineEnd else .textEnd)
    | '(' => readGroup fuel (depth + 1)
    | '\\' => readEscape false
    | '[' => readClass
    | _ => set (r.skip 1); return .literal c r.modes.caseInsensitive

def readGroup (fuel depth : Nat) : Read Expr :=
  match fuel with
  | 0 => do failAt (← get).pos .unfinished
  | fuel + 1 => do
    let start ← get
    if nestLimit ≤ depth then failAt start.pos .nesting
    set (start.skip 1)
    settle
    match ← readOpening with
    | .reference => readNamedReference "" ")" false
    | .conditional => do
      let r ← get
      let test ← match r.rest with
        | [] => failAt r.pos .unclosedParenthesis
        | '\'' :: _ => readNamedReference "'" "'" true
        | '<' :: _ => readNamedReference "<" ">" true
        | c :: _ => if c.isDigit then readNumberedReference else readBody fuel depth .empty
      readClosing
      let before := (← get).pos
      let body ← readBody fuel depth .empty
      let after := (← get).pos
      if after = before then
        match test with
        | .reference group => do
          readClosing
          return .groupMatched group
        | _ => failAt after .emptyConditional
      else do
        readClosing
        return conditional test body
    | .flags => do
      let opening ← get
      if ← readFlags opening (opening.rest.length + 1) false then
        let sub ← readBody fuel depth .empty
        readClosing
        modify fun r => { r with modes := opening.modes }
        return sub
      else return .empty
    | .capture => do
      let sub ← readBody fuel depth .empty
      readClosing
      return .group sub
    | .atomic => do
      let sub ← readBody fuel depth .empty
      readClosing
      return .atomic sub
    | .lookAround kind => do
      let sub ← readBody fuel depth .empty
      readClosing
      return .lookAround kind sub

end

/-- A pattern that has been read. Of two groups with the same name the later one comes first. -/
structure Tree where
  expr : Expr
  names : List (String × Nat)
  deriving Repr

def Tree.parse (pattern : List Char) : Except PatternFault Tree := do
  let (expr, r) ← (readBody (3 * pattern.length + 3) 0 .empty).run (.ofPattern pattern)
  if !r.rest.isEmpty then throw (.parse r.pos .unfinished)
  return ⟨expr, r.names⟩

end Backtrack

end RegexGateway
