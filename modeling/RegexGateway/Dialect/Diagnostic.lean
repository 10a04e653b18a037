import RegexGateway.Text.Bytes

namespace RegexGateway

/-- What a dialect says about a pattern that it refuses. The offset counts characters. -/
structure Diagnostic where
  rawMessage : String
  offset : Option Nat
  badCharacter : Option Char
  messages : List String
  deriving DecidableEq, Repr

structure PatternError extends Diagnostic where
  regexId : Int
  deriving DecidableEq, Repr

namespace Diagnostic

def new (rawMessage : String) : Diagnostic := ⟨rawMessage, none, none, []⟩

/-- Places a diagnostic at a byte of the pattern, or at its end if the byte lies past it. Inside of
a character there is no character to blame. -/
def atByte (d : Diagnostic) (pattern : List Char) (byte : Nat) : Diagnostic :=
  { d with
    offset := some (Text.charIndex pattern byte)
    badCharacter :=
      if Text.isBoundary pattern byte then (Text.dropBytes pattern byte).head? else none }

def withMessage (d : Diagnostic) (message : String) : Diagnostic :=
  { d with messages := d.messages ++ [message] }

def unsupported (modifier : Char) (what dialect : String) : Diagnostic :=
  (new ("the `" ++ modifier.toString ++ "` modifier (" ++ what ++ ") is not supported by " ++
    dialect)).withMessage ("remove the `" ++ modifier.toString ++ "` modifier")

def toPatternError (d : Diagnostic) (regexId : Int) : PatternError := { d with regexId }

end Diagnostic

namespace PatternError

def new (regexId : Int) (rawMessage : String) : PatternError :=
  (Diagnostic.new rawMessage).toPatternError regexId

def display (e : PatternError) : String :=
  "pattern " ++ toString e.regexId ++ " is invalid" ++
    (match e.offset with
      | some n => " at offset " ++ toString n
      | none => "") ++ ": " ++ e.rawMessage

end PatternError

end RegexGateway
