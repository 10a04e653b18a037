namespace RegexGateway

namespace Text

def visibleChar (c : Char) : List Char :=
  match c with
  | ' ' => "[space]".toList
  | '\t' => "[tab]".toList
  | '\r' => "[cr]".toList
  | '\n' => "[lf]".toList
  | '\x0c' => "[ff]".toList
  | '\x0b' => "[vt]".toList
  | c => [c]

def visible (text : List Char) : List Char := text.flatMap visibleChar

def truncate (length : Nat) (text : List Char) : List Char := text.take length

theorem length_truncate_le (length : Nat) (text : List Char) :
    (truncate length text).length ≤ length :=
  List.length_take_le length text

@[simp] theorem visible_append (a b : List Char) : visible (a ++ b) = visible a ++ visible b :=
  List.flatMap_append

end Text

end RegexGateway
