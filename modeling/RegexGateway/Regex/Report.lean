import RegexGateway.Regex.Syntax

namespace RegexGateway

namespace Regex

/-- The lines of a text. A carriage return before a line feed belongs to neither line, and no line
follows a final line feed. -/
def lines (chars : List Char) : List (List Char) :=
  let pieces := chars.splitOn '\n'
  let ended := match pieces.reverse with
    | [] :: rest => rest.reverse
    | _ => pieces
  let complete := pieces.length - 1
  ended.mapIdx fun i line =>
    if i < complete ∧ line.getLast? = some '\r' then line.dropLast else line

structure Place where
  line : Nat
  column : Nat
  deriving DecidableEq, Repr

def Place.of (chars : List Char) (offset : Nat) : Place :=
  let before := chars.take offset
  ⟨before.count '\n' + 1, (before.reverse.takeWhile (· ≠ '\n')).length + 1⟩

def carets (padding : Nat) (chars : List Char) (spans : List Span) : String :=
  let marks := spans.foldl (fun (acc : List Char) s =>
    let start := (Place.of chars s.start).column - 1
    let width := max 1 (s.stop - s.start)
    acc ++ List.replicate (start - acc.length) ' ' ++ List.replicate width '^') []
  String.ofList (List.replicate padding ' ' ++ marks)

def LocatedError.report (chars : List Char) (e : LocatedError) : String :=
  let all := lines chars
  let several := chars.contains '\n'
  let lineCount := all.length + (if chars.getLast? = some '\n' then 1 else 0)
  let width := if lineCount ≤ 1 then 0 else (toString lineCount).length
  let padding := if width = 0 then 4 else width + 2
  let spans := (e.span :: e.error.earlier?.toList).mergeSort fun a b => a.start ≤ b.start
  let line (offset : Nat) := (Place.of chars offset).line
  let (short, long) := spans.partition fun s => line s.start = line s.stop
  let shown := all.mapIdx fun i text =>
    let number := toString (i + 1)
    let head := if width = 0 then "    "
      else String.ofList (List.replicate (width - number.length) ' ') ++ number ++ ": "
    let here := short.filter fun s => line s.start = i + 1
    head ++ String.ofList text ++ "\n" ++
      (if here.isEmpty then "" else carets padding chars here ++ "\n")
  let body := String.join shown
  if several then
    let divider := String.ofList (List.replicate 79 '~') ++ "\n"
    let notes := long.map fun s =>
      let a := Place.of chars s.start
      let b := Place.of chars s.stop
      "on line " ++ toString a.line ++ " (column " ++ toString a.column ++ ") through line " ++
        toString b.line ++ " (column " ++ toString (b.column - 1) ++ ")"
    "regex parse error:\n" ++ divider ++ body ++ divider ++
      (if notes.isEmpty then "" else "\n".intercalate notes ++ "\n") ++
      "error: " ++ e.error.message
  else "regex parse error:\n" ++ body ++ "error: " ++ e.error.message

end Regex

end RegexGateway
