import RegexGateway.Dialect.Diagnostic
import RegexGateway.Dialect.Flags

namespace RegexGateway

structure Match where
  span : Span
  groups : List (Option Span)
  deriving DecidableEq, Repr

def Span.map (f : Nat → Nat) (s : Span) : Span := ⟨f s.start, f s.stop⟩

def Match.map (f : Nat → Nat) (m : Match) : Match :=
  ⟨m.span.map f, m.groups.map fun g => g.map (Span.map f)⟩

/-- How a run is lost: it goes on for ever, or it crashes. Nothing comes back of it either way. -/
inductive Loss where
  | endless
  | crash
  deriving DecidableEq, Repr

def Loss.message : Loss → String
  | endless => "no end"
  | crash => "crash"

/-- Why there is no result of a search: it was given up, or it is lost. -/
inductive SearchFault where
  | failed (message : String)
  | lost (loss : Loss)
  deriving DecidableEq, Repr

namespace SearchFault

def message : SearchFault → String
  | failed message => message
  | lost loss => loss.message

def loss? : SearchFault → Option Loss
  | failed _ => none
  | lost loss => some loss

end SearchFault

/-- A compiled pattern. `find text start` is the next match that a search from the byte `start` on
finds; its spans are in bytes. -/
structure Matcher where
  groupNames : List (Option String)
  find : List Char → Nat → Except SearchFault (Option Match)

inductive DialectKind where
  | standard
  | fancy
  | pcre2
  deriving DecidableEq, Repr

namespace DialectKind

def name : DialectKind → String
  | standard => "standard"
  | fancy => "fancy"
  | pcre2 => "pcre2"

end DialectKind

structure Dialect where
  kind : DialectKind
  compile : List Char → FlagSet → Except Diagnostic Matcher

end RegexGateway
