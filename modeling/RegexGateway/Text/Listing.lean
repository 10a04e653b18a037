namespace RegexGateway

namespace Text

def listingTail : List String → String
  | [] => ""
  | [s] => " & \"" ++ s ++ "\""
  | s :: rest => ", \"" ++ s ++ "\"" ++ listingTail rest

/-- Quoted items in one line: `"a", "b" & "c"`. -/
def listing : List String → String
  | [] => ""
  | s :: rest => "\"" ++ s ++ "\"" ++ listingTail rest

def charListing (chars : List Char) : String := listing (chars.map Char.toString)

end Text

end RegexGateway
