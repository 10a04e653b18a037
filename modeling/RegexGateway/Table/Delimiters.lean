import RegexGateway.Json.Record

namespace RegexGateway

structure DelimiterPair where
  opening : Char
  closing : Char
  deriving DecidableEq, Repr

namespace DelimiterPair

def symmetric (c : Char) : DelimiterPair := ⟨c, c⟩

/-- A pair as text: one character if it is symmetric, or two. -/
def ofText? : List Char → Option DelimiterPair
  | [c] => some (symmetric c)
  | [c, d] => some ⟨c, d⟩
  | _ => none

def wrap (pair : DelimiterPair) (pattern modifiers : List Char) : List Char :=
  pair.opening :: pattern ++ pair.closing :: modifiers

def codec : Json.Codec DelimiterPair :=
  (Json.Shape.codec (.cons (.required "open" .char) (.cons (.required "close" .char) .nil))
    "DelimiterPair").along
    (fun p => (p.opening, p.closing, ())) (fun (opening, closing, _) => ⟨opening, closing⟩)

end DelimiterPair

end RegexGateway
