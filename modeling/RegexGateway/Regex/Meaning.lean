import RegexGateway.Regex.Expr
import RegexGateway.Regex.Syntax

namespace RegexGateway

namespace Regex

structure Modes where
  caseInsensitive : Bool
  multiLine : Bool
  dotMatchesNewLine : Bool
  swapGreed : Bool
  unicode : Bool
  crlf : Bool
  deriving DecidableEq, Repr, Inhabited

def Modes.default : Modes := ⟨false, false, false, false, true, false⟩

def Modes.apply (m : Modes) (items : List FlagItem) : Modes where
  caseInsensitive := (flagState items .caseInsensitive).getD m.caseInsensitive
  multiLine := (flagState items .multiLine).getD m.multiLine
  dotMatchesNewLine := (flagState items .dotMatchesNewLine).getD m.dotMatchesNewLine
  swapGreed := (flagState items .swapGreed).getD m.swapGreed
  unicode := (flagState items .unicode).getD m.unicode
  crlf := (flagState items .crlf).getD m.crlf

abbrev Reading := Except LocatedError

namespace Modes

def fold (m : Modes) (s : CharSet) : CharSet :=
  if !m.caseInsensitive then s
  else if m.unicode then s.foldCase else s.foldAsciiCase

/-- Without Unicode a set holds bytes, and those from 128 on are no characters. -/
def guard (m : Modes) (span : Span) (s : CharSet) : Reading CharSet :=
  if m.unicode || s.isAscii then .ok s else .error ⟨span, .invalidUtf8⟩

def foldNegate (m : Modes) (span : Span) (negated : Bool) (s : CharSet) : Reading CharSet :=
  m.guard span (if negated then (m.fold s).complement else m.fold s)

def char (m : Modes) (lit : Literal) : Reading Char :=
  if !m.unicode && lit.byteForm && 0x7F < lit.char.toNat then .error ⟨lit.span, .invalidUtf8⟩
  else .ok lit.char

def member (m : Modes) (lit : Literal) : Reading Char := do
  let c ← m.char lit
  if !m.unicode && 0x7F < c.toNat then .error ⟨lit.span, .unicodeNotAllowed⟩ else .ok c

def perl (m : Modes) (span : Span) (kind : PerlClass) (negated : Bool) : Reading CharSet :=
  let members := match kind, m.unicode with
    | .digit, true => CharSet.digit
    | .space, true => CharSet.space
    | .word, true => CharSet.word
    | .digit, false => AsciiClass.digit.members
    | .space, false => AsciiClass.space.members
    | .word, false => AsciiClass.word.members
  m.guard span (if negated then members.complement else members)

def property (m : Modes) (cls : PropertyClass) : Reading CharSet :=
  if !m.unicode then .error ⟨cls.span, .unicodeNotAllowed⟩
  else match CharSet.ofQuery cls.query with
    | .ok s => m.foldNegate cls.span cls.negated s
    | .error .unknownName => .error ⟨cls.span, .unicodePropertyNotFound⟩
    | .error .unknownValue => .error ⟨cls.span, .unicodePropertyValueNotFound⟩

def dot (m : Modes) (span : Span) : Reading CharSet :=
  if !m.unicode then .error ⟨span, .invalidUtf8⟩
  else if m.dotMatchesNewLine then .ok CharSet.all
  else if m.crlf then .ok (CharSet.ofRanges [⟨10, 10⟩, ⟨13, 13⟩]).complement
  else .ok (CharSet.singleton '\n').complement

def look (m : Modes) : Assertion → Look
  | .lineStart => if m.multiLine then if m.crlf then .crlfStart else .lineStart else .textStart
  | .lineEnd => if m.multiLine then if m.crlf then .crlfEnd else .lineEnd else .textEnd
  | .textStart => .textStart
  | .textEnd => .textEnd
  | .wordBoundary => .word .either m.unicode
  | .notWordBoundary => .word .neither m.unicode
  | .wordStart => .word .start m.unicode
  | .wordEnd => .word .stop m.unicode
  | .wordStartHalf => .word .startHalf m.unicode
  | .wordEndHalf => .word .stopHalf m.unicode

def literal (m : Modes) (lit : Literal) : Reading CharSet := do
  let c ← m.char lit
  return m.fold (CharSet.singleton c)

end Modes

def SetOp.apply (op : SetOp) (s t : CharSet) : CharSet :=
  match op with
  | .intersection => s.inter t
  | .difference => s.diff t
  | .symmetricDifference => s.symmDiff t

mutual

/-- The members of a class body. The sides of an operator are closed under case before it joins
them. -/
def ClassSet.members (m : Modes) : ClassSet → Reading CharSet
  | .empty _ => .ok CharSet.empty
  | .literal lit => do return CharSet.singleton (← m.member lit)
  | .range _ first last => do
    let a ← m.member first
    let b ← m.member last
    return CharSet.range a b
  | .ascii span kind negated => m.foldNegate span negated kind.members
  | .property cls => m.property cls
  | .perl span kind negated => m.perl span kind negated
  | .bracketed span negated set => do m.foldNegate span negated (← ClassSet.members m set)
  | .union _ items => do return CharSet.ofRanges (← ClassSet.unionRanges m items)
  | .binary _ op left right => do
    let l ← ClassSet.members m left
    let r ← ClassSet.members m right
    return op.apply (m.fold l) (m.fold r)

def ClassSet.unionRanges (m : Modes) : List ClassSet → Reading (List CodeRange)
  | [] => .ok []
  | s :: rest => do
    let here ← ClassSet.members m s
    let others ← ClassSet.unionRanges m rest
    return here.ranges.toList ++ others

end

mutual

/-- The meaning of a tree under some flags, and the flags after it. A flag group holds to the end
of its group, over the branches that follow too. -/
def Expr.ofAstUnder (m : Modes) : Ast → Reading (Expr × Modes)
  | .empty _ => .ok (.empty, m)
  | .flags _ items => .ok (.empty, m.apply items)
  | .literal lit => do return (.set (← m.literal lit), m)
  | .dot span => do return (.set (← m.dot span), m)
  | .assertion _ kind => .ok (.look (m.look kind), m)
  | .property cls => do return (.set (← m.property cls), m)
  | .perl span kind negated => do return (.set (← m.perl span kind negated), m)
  | .bracketed span negated body => do
    let members ← body.members m
    return (.set (← m.foldNegate span negated members), m)
  | .repetition _ counts greedy sub => do
    let (e, after) ← Expr.ofAstUnder m sub
    return (.repeated counts.least counts.most (greedy != after.swapGreed) e, after)
  | .group _ (.capture index name) sub => do
    let (e, _) ← Expr.ofAstUnder m sub
    return (.capture index name e, m)
  | .group _ (.nonCapturing items) sub => do
    let (e, _) ← Expr.ofAstUnder (m.apply items) sub
    return (e, m)
  | .alternation _ branches => do
    let (es, after) ← Expr.ofAsts m branches
    return (.alternation es, after)
  | .concat _ parts => do
    let (es, after) ← Expr.ofAsts m parts
    return (.concat es, after)

def Expr.ofAsts (m : Modes) : List Ast → Reading (List Expr × Modes)
  | [] => .ok ([], m)
  | a :: rest => do
    let (e, after) ← Expr.ofAstUnder m a
    let (es, last) ← Expr.ofAsts after rest
    return (e :: es, last)

end

def Expr.ofAst (m : Modes) (ast : Ast) : Reading Expr := do
  return (← Expr.ofAstUnder m ast).1

end Regex

end RegexGateway
