import RegexGateway.Json.Record

namespace RegexGateway

/-- Captured texts under their keys: first the numbers of the groups, then their names. A group that
took no part in the match is there without a text. -/
abbrev Groups := List (String × Option (List Char))

namespace Groups

def get? (groups : Groups) (key : String) : Option (Option (List Char)) :=
  List.lookup key groups

def mapTexts (f : List Char → List Char) (groups : Groups) : Groups :=
  groups.map fun (key, text) => (key, text.map f)

def codec : Json.Codec Groups :=
  .fields Json.Codec.text.nullable "a map of group keys to captured text or null"

end Groups

/-- A match in a text. The position counts characters. -/
structure Occurrence where
  whole : List Char
  parts : Groups
  position : Nat
  deriving DecidableEq, Repr

namespace Occurrence

open Json in
def codec : Codec Occurrence :=
  (Shape.codec (.cons (.required "whole" .text)
    (.cons (.required "parts" Groups.codec)
    (.cons (.required "position" .nat) .nil))) "MatchOccurrence").along
    (fun m => (m.whole, m.parts, m.position, ()))
    (fun (whole, parts, position, _) => ⟨whole, parts, position⟩)

end Occurrence

end RegexGateway
