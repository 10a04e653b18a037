import RegexGateway.Table.Delimiters

namespace RegexGateway

/-- A pattern, and what its matches are replaced with. -/
structure PatternRecord where
  id : Int
  regex : List Char
  modifiers : List Char
  /-- The engine's own delimiters are used where there are none. -/
  delimiters : Option DelimiterPair
  replacement : List Char
  /-- Whether escapes of white space in the replacement stand for white space. -/
  unescape : Bool
  deriving DecidableEq, Repr

namespace PatternRecord

/-- A pattern that is to be checked only. -/
def toTest (id : Int) (regex modifiers : List Char) (delimiters : DelimiterPair) : PatternRecord :=
  ⟨id, regex, modifiers, some delimiters, [], false⟩

open Json in
def codec : Codec PatternRecord :=
  (Shape.codec (.cons (.required "id" .int)
    (.cons (.required "regex" .text)
    (.cons (.default "modifiers" .text [])
    (.cons (.default "delimiters" DelimiterPair.codec.nullable none)
    (.cons (.default "replace" .text [])
    (.cons (.default "transformEscapedWhiteSpace" .bool false) .nil)))))) "PatternRecord").along
    (fun r => (r.id, r.regex, r.modifiers, r.delimiters, r.replacement, r.unescape, ()))
    (fun (id, regex, modifiers, delimiters, replacement, unescape, _) =>
      ⟨id, regex, modifiers, delimiters, replacement, unescape⟩)

end PatternRecord

end RegexGateway
