import RegexGateway.Outcome.Groups
import RegexGateway.Pattern.Compiled

namespace RegexGateway

structure RunFault where
  regexId : Int
  cause : SearchFault
  deriving DecidableEq, Repr

def RunFault.message (f : RunFault) : String :=
  "execution of pattern " ++ toString f.regexId ++ " failed: " ++ f.cause.message

namespace Matcher

/-- Where the search goes on after a match. It passes over a character after an empty match, so that
no match comes twice. -/
def resume (text : List Char) (m : Match) : Nat :=
  if m.span.start < m.span.stop then m.span.stop
  else m.span.stop + ((Text.dropBytes text m.span.stop).head?.elim 1 Char.utf8Size)

/-- The matches that a loop finds from a byte on, each searched for behind the one before, and the
fault that keeps it from its end. An anchored loop ends at the first match that starts later than
its search. One that uses up its turns goes on for ever. -/
def walkFrom (matcher : Matcher) (anchored firstOnly : Bool) (text : List Char) :
    Nat → Nat → List Match × Option SearchFault
  | turns, start =>
    if Text.byteLength text < start then ([], none)
    else match turns with
      | 0 => ([], some (.lost .endless))
      | turns + 1 =>
        match matcher.find text start with
        | .error fault => ([], some fault)
        | .ok none => ([], none)
        | .ok (some m) =>
          if anchored ∧ m.span.start ≠ start then ([], none)
          else if firstOnly then ([m], none)
          else
            let (found, fault) :=
              matcher.walkFrom anchored firstOnly text turns (resume text m)
            (m :: found, fault)

/-- The loop over a text. It depends on nothing but the place where it stands, so with more turns
than there are places it comes twice to one of them. One more turn shows what follows there. -/
def walk (matcher : Matcher) (anchored firstOnly : Bool) (text : List Char) :
    List Match × Option SearchFault :=
  matcher.walkFrom anchored firstOnly text (Text.byteLength text + 2) 0

def ended {α : Type} (made : α) : Option SearchFault → Except SearchFault α
  | none => .ok made
  | some fault => .error fault

def scan (matcher : Matcher) (anchored firstOnly : Bool) (text : List Char) :
    Except SearchFault (List Match) :=
  let (found, fault) := matcher.walk anchored firstOnly text
  ended found fault

end Matcher

structure CharCursor where
  byte : Nat
  chars : Nat
  deriving DecidableEq, Repr

namespace CharCursor

def start : CharCursor := ⟨0, 0⟩

/-- Moves the cursor. It counts on from where it stands, or from the start if that lies behind. -/
def seek (cursor : CharCursor) (text : List Char) (byte : Nat) : CharCursor :=
  let origin := if byte < cursor.byte then start else cursor
  ⟨byte, origin.chars + (Text.slice text ⟨origin.byte, byte⟩).length⟩

end CharCursor

namespace Match

def parts (m : Match) (names : List (Option String)) (text : List Char) : Groups :=
  let captured := m.groups.map fun g => g.map (Text.slice text)
  (captured.zipIdx 1).map (fun (t, n) => (toString n, t)) ++
    (names.zip captured).filterMap fun (name, t) => name.map fun s => (s, t)

/-- What is reported of matches, their positions counted in characters. -/
def occurrences (names : List (Option String)) (text : List Char) :
    CharCursor → List Match → List Occurrence
  | _, [] => []
  | cursor, m :: rest =>
    let cursor := cursor.seek text m.span.start
    ⟨Text.slice text m.span, m.parts names text, cursor.chars⟩ ::
      occurrences names text cursor rest

def splice (template : Template) (names : List (Option String)) (text : List Char) :
    Nat → List Match → List Char
  | copied, [] => Text.dropBytes text copied
  | copied, m :: rest =>
    Text.slice text ⟨copied, m.span.start⟩ ++
      template.expand ⟨text, m.span, m.groups, names⟩ ++
      splice template names text m.span.stop rest

/-- Whether what lies between matches can be cut out of a text, from a byte on: no match starts
before the one in front of it stops. -/
def leavesGaps (text : List Char) : Nat → List Match → Bool
  | copied, [] => Text.isBoundary text copied
  | copied, m :: rest =>
    decide (Span.Cuts ⟨copied, m.span.start⟩ text) && leavesGaps text m.span.stop rest

end Match

namespace CompiledPattern

def scan (p : CompiledPattern) (mode : ScanMode) (text : List Char) :
    Except RunFault (List Match) :=
  (p.matcher.scan p.anchored (mode = .first) text).mapError fun e => ⟨p.id, e⟩

/-- The end of a run that cuts a text as its matches say, if it can be cut like that. The run
crashes where it cannot, before any fault behind that. -/
def conclude {α : Type} (p : CompiledPattern) (fits : Bool) (made : α)
    (fault : Option SearchFault) : Except RunFault α :=
  if fits then (Matcher.ended made fault).mapError fun e => ⟨p.id, e⟩
  else .error ⟨p.id, .lost .crash⟩

def execute (p : CompiledPattern) (text : List Char) : Except RunFault (List Occurrence) :=
  let (found, fault) := p.matcher.walk p.anchored (p.scanMode = .first) text
  p.conclude (found.all fun m => m.span.Cuts text)
    (Match.occurrences p.matcher.groupNames text .start found) fault

/-- A text with every match replaced, whatever the scan mode. -/
def replaceAll (p : CompiledPattern) (text : List Char) : Except RunFault (List Char) :=
  let (found, fault) := p.matcher.walk p.anchored false text
  p.conclude (Match.leavesGaps text 0 found)
    (Match.splice p.template p.matcher.groupNames text 0 found) fault

end CompiledPattern

end RegexGateway
