import RegexGateway.Regex.Scanner
import RegexGateway.Unicode.Legible

namespace RegexGateway

namespace Regex

inductive Primitive where
  | literal (lit : Literal)
  | assertion (span : Span) (kind : Assertion)
  | dot (span : Span)
  | perl (span : Span) (kind : PerlClass) (negated : Bool)
  | property (cls : PropertyClass)

namespace Primitive

def span : Primitive → Span
  | literal l => l.span
  | assertion s _ => s
  | dot s => s
  | perl s _ _ => s
  | property c => c.span

def toAst : Primitive → Ast
  | literal l => .literal l
  | assertion s k => .assertion s k
  | dot s => .dot s
  | perl s k n => .perl s k n
  | property c => .property c

def toClassSet : Primitive → Read ClassSet
  | literal l => pure (.literal l)
  | perl s k n => pure (.perl s k n)
  | property c => pure (.property c)
  | p => fail p.span .classEscapeInvalid

def toBoundary : Primitive → Read Literal
  | literal l => pure l
  | p => fail p.span .classRangeLiteral

end Primitive

def metaCharacters : List Char := "\\.+*?()|[]\x7b\x7d^$#&-~".toList

/-- Characters that a backslash before them leaves as they are. -/
def isEscapable (c : Char) : Bool :=
  c.toNat < 128 && !c.isAlphanum && c ≠ '<' && c ≠ '>'

def isHexDigit (c : Char) : Bool :=
  c.isDigit || ('a' ≤ c && c ≤ 'f') || ('A' ≤ c && c ≤ 'F')

def hexNumber (digits : List Char) : Nat := CharSet.hexValue (digits.map Char.toLower)

def charOfCode? (n : Nat) : Option Char :=
  if n.isValidChar then some (Char.ofNat n) else none

def collect (test : Char → Bool) : Nat → Reader → List Char × Reader
  | 0, r => ([], r)
  | fuel + 1, r =>
    match r.rest with
    | c :: _ =>
      if test c then
        let (cs, r') := collect test fuel r.advance
        (c :: cs, r')
      else ([], r)
    | [] => ([], r)

/-- Reads hexadecimal digits up to a closing brace, of an opening one at `brace`. -/
def readHexBrace (brace : Nat) : Read Literal := do
  let r ← get
  let (digits, r') := collect isHexDigit r.rest.length r.advance
  match r'.rest with
  | [] => fail (r'.since brace) .escapeUnexpectedEnd
  | c :: _ =>
    if c ≠ '\x7d' then fail r'.charSpan .escapeHexInvalidDigit
    let done := r'.advance
    set done
    if digits.isEmpty then fail (done.since brace) .escapeHexEmpty
    match charOfCode? (hexNumber digits) with
    | none => fail ⟨r.pos + 1, r'.pos⟩ .escapeHexInvalid
    | some char => pure ⟨done.since (r.pos + 1), char, false⟩

def readHexDigits : Nat → Read (List Char)
  | 0 => pure []
  | count + 1 => do
    let r ← get
    match r.rest with
    | [] => fail r.here .escapeUnexpectedEnd
    | c :: _ =>
      if isHexDigit c then
        set r.advance
        return c :: (← readHexDigits count)
      else fail r.charSpan .escapeHexInvalidDigit

def readHex (letter : Char) : Read Literal := do
  modify Reader.advance
  let r ← get
  match r.rest with
  | [] => fail r.here .escapeUnexpectedEnd
  | '\x7b' :: _ => readHexBrace r.pos
  | _ =>
    let count := if letter = 'x' then 2 else if letter = 'u' then 4 else 8
    let digits ← readHexDigits count
    let span := (← get).since r.pos
    match charOfCode? (hexNumber digits) with
    | none => fail span .escapeHexInvalid
    | some char => pure ⟨span, char, letter = 'x'⟩

def splitAtFirst? (separator : List Char) : List Char → Option (List Char × List Char)
  | [] => none
  | c :: cs =>
    if separator.isPrefixOf (c :: cs) then some ([], (c :: cs).drop separator.length)
    else (splitAtFirst? separator cs).map fun (a, b) => (c :: a, b)

def propertyQuery (text : List Char) : PropertyQuery × Bool :=
  let valued (sep : List Char) := (splitAtFirst? sep text).map fun (a, b) =>
    PropertyQuery.valued (String.ofList a) (String.ofList b)
  match valued ['!', '='] with
  | some q => (q, true)
  | none => match valued [':'] <|> valued ['='] with
    | some q => (q, false)
    | none => (.named (String.ofList text), false)

/-- Reads a class by property, whose letter stands next. Blanks that do not count belong to a name
of one letter before them. -/
def readProperty (start : Nat) (negated : Bool) : Read Primitive := do
  modify Reader.advance
  let r ← get
  match r.rest with
  | [] => fail r.here .escapeUnexpectedEnd
  | '\x7b' :: _ =>
    let (name, r') := collect (· ≠ '\x7d') r.rest.length r.advance
    if r'.rest.isEmpty then fail r'.here .escapeUnexpectedEnd
    set r'.next
    let (query, other) := propertyQuery name
    pure (.property ⟨r'.next.since start, negated != other, query⟩)
  | c :: _ =>
    if c = '\\' then fail r.charSpan .unicodeClassInvalid
    set r.advance
    pure (.property ⟨r.advance.since start, negated, .named (String.ofList [c])⟩)

/-- Reads the name in braces of a special word boundary. A brace that no name follows is left for
a counted repetition. -/
def readBoundaryName (start : Nat) : Read (Option Assertion) := do
  let r ← get
  let inside := r.advance
  let isNameChar (c : Char) : Bool := c.isAlpha || c = '-'
  match inside.rest with
  | [] => fail (inside.since start) .wordBoundaryUnexpectedEnd
  | c :: _ =>
    if !isNameChar c then return none
    let (name, r') := collect isNameChar inside.rest.length inside
    if r'.rest.head? ≠ some '\x7d' then fail (r'.since r.pos) .wordBoundaryUnclosed
    set r'.next
    match String.ofList name with
    | "start" => pure (some .wordStart)
    | "end" => pure (some .wordEnd)
    | "start-half" => pure (some .wordStartHalf)
    | "end-half" => pure (some .wordEndHalf)
    | _ => fail (r'.since inside.pos) .wordBoundaryUnrecognized

def controlEscapes : List (Char × Char) :=
  [('a', '\x07'), ('f', '\x0c'), ('t', '\t'), ('n', '\n'), ('r', '\r'), ('v', '\x0b')]

def perlEscapes : List (Char × PerlClass × Bool) :=
  [('d', .digit, false), ('D', .digit, true), ('s', .space, false), ('S', .space, true),
    ('w', .word, false), ('W', .word, true)]

def assertionEscapes : List (Char × Assertion) :=
  [('A', .textStart), ('z', .textEnd), ('b', .wordBoundary), ('B', .notWordBoundary),
    ('<', .wordStart), ('>', .wordEnd)]

def readEscape : Read Primitive := do
  let start := (← get).pos
  modify Reader.next
  let r ← get
  match r.rest with
  | [] => fail (r.since start) .escapeUnexpectedEnd
  | c :: _ =>
    if c.isDigit then fail (r.next.since start) .unsupportedBackreference
    if c = 'x' ∨ c = 'u' ∨ c = 'U' then
      let lit ← readHex c
      return .literal { lit with span := ⟨start, lit.span.stop⟩ }
    if c = 'p' ∨ c = 'P' then return ← readProperty start (c = 'P')
    set r.next
    let span := r.next.since start
    if let some (kind, negated) := perlEscapes.lookup c then return .perl span kind negated
    if metaCharacters.contains c ∨ isEscapable c then return .literal ⟨span, c, false⟩
    if let some char := controlEscapes.lookup c then return .literal ⟨span, char, false⟩
    match assertionEscapes.lookup c with
    | none => fail span .escapeUnrecognized
    | some kind =>
      if c = 'b' ∧ r.next.rest.head? = some '\x7b' then
        if let some special ← readBoundaryName start then
          return .assertion ((← get).since start) special
      return .assertion span kind

def readPrimitive (c : Char) : Read Primitive := do
  let r ← get
  if c = '\\' then readEscape
  else
    set r.next
    match c with
    | '.' => pure (.dot r.charSpan)
    | '^' => pure (.assertion r.charSpan .lineStart)
    | '$' => pure (.assertion r.charSpan .lineEnd)
    | _ => pure (.literal ⟨r.charSpan, c, false⟩)

def readAsciiClass : Read (Option ClassSet) := do
  let r ← get
  let some opened := r.accept? "[:" | return none
  let (body, negated) := match opened.rest with
    | '^' :: _ => (opened.next, true)
    | _ => (opened, false)
  let name := body.rest.takeWhile (· ≠ ':')
  let after := { body with pos := body.pos + name.length, rest := body.rest.drop name.length }
  let some closed := after.accept? ":]" | return none
  let some kind := AsciiClass.ofName? (String.ofList name) | return none
  set closed
  return some (.ascii (closed.since r.pos) kind negated)

def readClassItem (c : Char) : Read Primitive := do
  let r ← get
  if c = '\\' then readEscape
  else
    set r.next
    pure (.literal ⟨r.charSpan, c, false⟩)

def readClassRange (opening : Span) (c : Char) : Read ClassSet := do
  let first ← readClassItem c
  modify Reader.settle
  let r ← get
  match r.rest with
  | [] => fail opening .classUnclosed
  | '-' :: _ =>
    let after := r.peekPastBlank
    if after = some ']' ∨ after = some '-' then first.toClassSet
    else
      set r.advance
      match r.advance.rest with
      | [] => fail opening .classUnclosed
      | d :: _ =>
        let last ← readClassItem d
        let span : Span := ⟨first.span.start, last.span.stop⟩
        let a ← first.toBoundary
        let b ← last.toBoundary
        if b.char < a.char then fail span .classRangeInvalid
        pure (.range span a b)
  | _ => first.toClassSet

/-- A class body under way: the operator and left side before it, and its members so far, last
first. -/
structure ClassBody where
  left : Option (SetOp × ClassSet)
  start : Nat
  items : List ClassSet

namespace ClassBody

def union (b : ClassBody) : ClassSet :=
  match b.items with
  | [] => .empty ⟨b.start, b.start⟩
  | [i] => i
  | last :: _ => .union ⟨(b.items.getLastD last).span.start, last.span.stop⟩ b.items.reverse

def close (b : ClassBody) : ClassSet :=
  match b.left with
  | none => b.union
  | some (op, l) => .binary ⟨l.span.start, b.union.span.stop⟩ op l b.union

def push (b : ClassBody) (item : ClassSet) : ClassBody := { b with items := item :: b.items }

end ClassBody

def readHyphens (start : Nat) : Nat → List ClassSet → Read (List ClassSet)
  | 0, items => pure items
  | fuel + 1, items => do
    let r ← get
    match r.rest with
    | '-' :: _ =>
      if r.advance.rest.isEmpty then fail ⟨start, start⟩ .classUnclosed
      set r.advance
      readHyphens start fuel (.literal ⟨r.charSpan, '-', false⟩ :: items)
    | _ => pure items

def readClassOpening : Read (Span × Bool × ClassBody) := do
  let start := (← get).pos
  modify Reader.advance
  let mut negated := false
  if (← get).rest.isEmpty then fail ((← get).since start) .classUnclosed
  if (← get).rest.head? = some '^' then
    negated := true
    modify Reader.advance
    if (← get).rest.isEmpty then fail ((← get).since start) .classUnclosed
  let inner := (← get).pos
  let mut items ← readHyphens start (← get).rest.length []
  let r ← get
  if items.isEmpty ∧ r.rest.head? = some ']' then
    set r.advance
    if r.advance.rest.isEmpty then fail (r.advance.since start) .classUnclosed
    items := [.literal ⟨r.charSpan, ']', false⟩]
  return ((← get).since start, negated, ⟨none, inner, items⟩)

def setOperator? : List Char → Option SetOp
  | '&' :: '&' :: _ => some .intersection
  | '-' :: '-' :: _ => some .difference
  | '~' :: '~' :: _ => some .symmetricDifference
  | _ => none

mutual

/-- Reads a bracketed class, whose opening bracket stands next. Each step takes a character, so as
much fuel as there are characters is enough. -/
def readClass (fuel : Nat) : Read ClassSet := do
  let start := (← get).pos
  let (opening, negated, body) ← readClassOpening
  let set ← readClassBody fuel opening body
  return .bracketed ((← get).since start) negated set

def readClassBody (fuel : Nat) (opening : Span) (body : ClassBody) : Read ClassSet :=
  match fuel with
  | 0 => fail opening .classUnclosed
  | fuel + 1 => do
    modify Reader.settle
    let r ← get
    match r.rest with
    | [] => fail opening .classUnclosed
    | '[' :: _ =>
      match ← readAsciiClass with
      | some cls => readClassBody fuel opening (body.push cls)
      | none => do
        let inner ← readClass fuel
        readClassBody fuel opening (body.push inner)
    | ']' :: _ => do
      set r.next
      return body.close
    | c :: _ =>
      match setOperator? r.rest with
      | some op => do
        set r.next.next
        readClassBody fuel opening ⟨some (op, body.close), r.pos + 2, []⟩
      | none => do
        let item ← readClassRange opening c
        readClassBody fuel opening (body.push item)

end

/-- A decimal number with blanks around it, and the reader past it. What is wrong with the number
comes back as a value, since it may not matter. -/
def Reader.decimal (r : Reader) : Except LocatedError Nat × Reader :=
  let isBlank := CharSet.space.contains
  let blanks := r.rest.takeWhile isBlank
  let begun := { r with pos := r.pos + blanks.length, rest := r.rest.drop blanks.length }
  let (digits, after) := collect Char.isDigit begun.rest.length begun
  let span := after.since begun.pos
  let n := digits.foldl (fun (n : Nat) c => 10 * n + (c.toNat - 48)) 0
  let number : Except LocatedError Nat :=
    if digits.isEmpty then .error ⟨span, .repetitionCountDecimalEmpty⟩
    else if n < UInt32.size then .ok n else .error ⟨span, .decimalInvalid⟩
  (number, (collect isBlank after.rest.length after).2)

def repeated (parts : List Ast) : Read (Ast × List Ast) := do
  let r ← get
  match parts with
  | [] | .empty _ :: _ | .flags _ _ :: _ => fail r.here .repetitionMissing
  | a :: before => pure (a, before)

def readRepetition (counts : Counts) (parts : List Ast) : Read (List Ast) := do
  let (a, before) ← repeated parts
  modify Reader.next
  let r ← get
  let lazy_ := r.rest.head? = some '?'
  if lazy_ then set r.next
  return .repetition ⟨a.span.start, (← get).pos⟩ counts (!lazy_) a :: before

/-- Reads a count in braces. What is wrong with the least count is told only where it is used. -/
def readCounts (start : Nat) : Read Counts := do
  modify Reader.advance
  let begun ← get
  if begun.rest.isEmpty then fail (begun.since start) .repetitionCountUnclosed
  let (least, after) := begun.decimal
  set after
  match after.rest with
  | [] => fail (after.since start) .repetitionCountUnclosed
  | ',' :: _ =>
    let r := after.advance
    set r
    match r.rest with
    | [] => fail (r.since start) .repetitionCountUnclosed
    | '\x7d' :: _ => return ⟨← least, none⟩
    | _ =>
      let a ← least
      let (most, done) := r.decimal
      set done
      return ⟨a, some (← most)⟩
  | _ =>
    let a ← least
    return ⟨a, some a⟩

def readCounted (parts : List Ast) : Read (List Ast) := do
  let (a, before) ← repeated parts
  let start := (← get).pos
  let counts ← readCounts start
  if (← get).rest.head? ≠ some '\x7d' then
    fail ((← get).since start) .repetitionCountUnclosed
  modify Reader.advance
  let r ← get
  let lazy_ := r.rest.head? = some '?'
  if lazy_ then set r.next
  let done ← get
  if counts.most.any (· < counts.least) then fail (done.since start) .repetitionCountInvalid
  return .repetition ⟨a.span.start, done.pos⟩ counts (!lazy_) a :: before

def isNameChar (first : Bool) (c : Char) : Bool :=
  if first then c = '_' || CharSet.alphabetic.contains c
  else c = '_' || c = '.' || c = '[' || c = ']' || CharSet.alphanumeric.contains c

def readGroupName : Read String := do
  let r ← get
  let name := r.rest.takeWhile (· ≠ '>')
  let stop := r.pos + name.length
  match name.zipIdx.find? fun (c, i) => !isNameChar (i = 0) c with
  | some (_, i) => fail ⟨r.pos + i, r.pos + i + 1⟩ .groupNameInvalid
  | none => pure ()
  if name.length = r.rest.length then fail ⟨stop, stop⟩ .groupNameUnexpectedEnd
  let text := String.ofList name
  if name.isEmpty then fail r.here .groupNameEmpty
  let span : Span := ⟨r.pos, stop⟩
  if let some earlier := r.names.lookup text then fail span (.groupNameDuplicate earlier)
  set { r with pos := stop + 1, rest := r.rest.drop (name.length + 1),
               names := (text, span) :: r.names }
  return text

def readFlags : Nat → List FlagItem → Read (List FlagItem)
  | 0, items => pure items.reverse
  | fuel + 1, items => do
    let r ← get
    match r.rest with
    | [] => fail r.here .flagUnexpectedEnd
    | c :: _ =>
      if c = ':' ∨ c = ')' then
        match items with
        | ⟨span, none⟩ :: _ => fail span .flagDanglingNegation
        | _ => return items.reverse
      let flag ← if c = '-' then pure none else
        match Flag.ofLetter? c with
        | some f => pure (some f)
        | none => fail r.charSpan .flagUnrecognized
      if let some earlier := items.find? (·.flag = flag) then
        fail r.charSpan (if c = '-' then .flagRepeatedNegation earlier.span
          else .flagDuplicate earlier.span)
      set r.next
      readFlags fuel (⟨r.charSpan, flag⟩ :: items)

def lookAroundOpenings : List String := ["?=", "?!", "?<=", "?<!"]

def readGroupOpening : Read (Except (List FlagItem) GroupKind) := do
  let start := (← get).pos
  let opening := (← get).charSpan
  modify fun r => r.next.settle
  let r ← get
  if let some after := lookAroundOpenings.findSome? r.accept? then
    fail (after.since start) .unsupportedLookAround
  let nextIndex : Read Nat := do
    modify fun r => { r with captures := r.captures + 1 }
    return (← get).captures
  match r.accept? "?P<" <|> r.accept? "?<" with
  | some named =>
    set named
    let index ← nextIndex
    let name ← readGroupName
    return .ok (.capture index (some name))
  | none =>
    match r.accept? "?" with
    | none => return .ok (.capture (← nextIndex) none)
    | some flagged =>
      if flagged.rest.isEmpty then fail opening .groupUnclosed
      set flagged
      let items ← readFlags (flagged.rest.length + 1) []
      let done ← get
      set done.next
      if done.rest.head? = some ')' then
        if items.isEmpty then fail r.here .repetitionMissing
        return .error items
      else return .ok (.nonCapturing items)

/-- A group body under way: where it and its last branch start, the branches before, and the parts
of the last branch, last first. -/
structure GroupBody where
  start : Nat
  branches : List Ast
  branchStart : Nat
  parts : List Ast

namespace GroupBody

def startingAt (pos : Nat) : GroupBody := ⟨pos, [], pos, []⟩

def branch (b : GroupBody) (stop : Nat) : GroupBody :=
  ⟨b.start, Ast.ofParts ⟨b.branchStart, stop⟩ b.parts.reverse :: b.branches, stop + 1, []⟩

def close (b : GroupBody) (stop : Nat) : Ast :=
  let last := Ast.ofParts ⟨b.branchStart, stop⟩ b.parts.reverse
  match b.branches with
  | [] => last
  | bs => .alternation ⟨b.start, stop⟩ (last :: bs).reverse

def withParts (b : GroupBody) (parts : List Ast) : GroupBody := { b with parts }

end GroupBody

/-- Reads the body of a group, or of the whole pattern when `opening` is none. A group's closing
parenthesis is left unread. Each step takes a character, so as much fuel as there are characters
is enough. -/
def readBody (fuel : Nat) (opening : Option Span) (body : GroupBody) : Read Ast :=
  match fuel with
  | 0 => return body.close (← get).pos
  | fuel + 1 => do
    modify Reader.settle
    let r ← get
    match r.rest with
    | [] =>
      match opening with
      | some span => fail span .groupUnclosed
      | none => return body.close r.pos
    | ')' :: _ =>
      match opening with
      | some _ => return body.close r.pos
      | none => fail r.charSpan .groupUnopened
    | '|' :: _ => do
      set r.next
      readBody fuel opening (body.branch r.pos)
    | '(' :: _ => do
      match ← readGroupOpening with
      | .error items => do
        let after ← get
        if let some v := flagState items .ignoreWhitespace then
          set { after with ignoreSpace := v }
        readBody fuel opening
          (body.withParts (.flags (after.since r.pos) items :: body.parts))
      | .ok kind => do
        let inner := match kind with
          | .nonCapturing items => (flagState items .ignoreWhitespace).getD r.ignoreSpace
          | .capture .. => r.ignoreSpace
        modify fun s => { s with ignoreSpace := inner }
        let sub ← readBody fuel (some r.charSpan) (.startingAt (← get).pos)
        modify fun s => { s.next with ignoreSpace := r.ignoreSpace }
        readBody fuel opening
          (body.withParts (.group ((← get).since r.pos) kind sub :: body.parts))
    | '[' :: _ => do
      let cls ← readClass r.rest.length
      match cls with
      | .bracketed span negated set =>
        readBody fuel opening (body.withParts (.bracketed span negated set :: body.parts))
      | _ => readBody fuel opening body
    | '?' :: _ => do
      readBody fuel opening (body.withParts (← readRepetition ⟨0, some 1⟩ body.parts))
    | '*' :: _ => do
      readBody fuel opening (body.withParts (← readRepetition ⟨0, none⟩ body.parts))
    | '+' :: _ => do
      readBody fuel opening (body.withParts (← readRepetition ⟨1, none⟩ body.parts))
    | '\x7b' :: _ => do
      readBody fuel opening (body.withParts (← readCounted body.parts))
    | c :: _ => do
      let p ← readPrimitive c
      readBody fuel opening (body.withParts (p.toAst :: body.parts))

def nestLimit : Nat := 250

mutual

def ClassSet.tooDeep? (depth : Nat) : ClassSet → Option Span
  | .bracketed span _ set =>
    if nestLimit ≤ depth then some span else ClassSet.tooDeep? (depth + 1) set
  | .union span items =>
    if nestLimit ≤ depth then some span else ClassSet.listTooDeep? (depth + 1) items
  | .binary span _ l r =>
    if nestLimit ≤ depth then some span
    else ClassSet.tooDeep? (depth + 1) l <|> ClassSet.tooDeep? (depth + 1) r
  | _ => none

def ClassSet.listTooDeep? (depth : Nat) : List ClassSet → Option Span
  | [] => none
  | s :: rest => ClassSet.tooDeep? depth s <|> ClassSet.listTooDeep? depth rest

end

mutual

def Ast.tooDeep? (depth : Nat) : Ast → Option Span
  | .bracketed span _ set =>
    if nestLimit ≤ depth then some span else ClassSet.tooDeep? (depth + 1) set
  | .repetition span _ _ sub | .group span _ sub =>
    if nestLimit ≤ depth then some span else Ast.tooDeep? (depth + 1) sub
  | .alternation span list | .concat span list =>
    if nestLimit ≤ depth then some span else Ast.listTooDeep? (depth + 1) list
  | _ => none

def Ast.listTooDeep? (depth : Nat) : List Ast → Option Span
  | [] => none
  | a :: rest => Ast.tooDeep? depth a <|> Ast.listTooDeep? depth rest

end

def Ast.parse (pattern : List Char) (ignoreSpace : Bool) : Except LocatedError Ast := do
  let (ast, _) ← (readBody (pattern.length + 1) none (.startingAt 0)).run
    (.ofPattern pattern ignoreSpace)
  match ast.tooDeep? 0 with
  | some span => throw ⟨span, .nestLimitExceeded nestLimit⟩
  | none => pure ast

end Regex

end RegexGateway
