import RegexGateway.Backtrack.Machine
import RegexGateway.Backtrack.Parser

namespace RegexGateway

namespace Backtrack

/-- A compiled pattern: a program of the standard dialect, or a plan for a search that goes back. -/
inductive Compiled where
  | easy (program : Regex.Program)
  | hard (machine : Machine)

def Tree.compile (t : Tree) : Except PlanError Compiled := do
  if !t.expr.refersBack 1 then throw .backReference
  if t.expr.isHard then
    return .hard ⟨← Plan.ofExpr true 1 t.expr, t.expr.groups⟩
  match Regex.compile (t.expr.pattern 0) false Regex.Modes.default with
  | .ok program => return .easy program
  | .error (.refused _) => throw .pieceRefused
  | .error .tooLarge => throw .pieceTooLarge

namespace Compiled

def groups : Compiled → Nat
  | easy program => program.groupNames.length
  | hard machine => machine.groups

def matcher (c : Compiled) (groupNames : List (Option String)) : Matcher where
  groupNames
  find := match c with
    | easy program => program.matcher.find
    | hard machine => fun text start =>
      (machine.search text start).mapError fun e => .failed e.message

end Compiled

/-- The names of `count` groups. Of two groups with one name only the later one bears it. -/
def Tree.groupNames (t : Tree) (count : Nat) : List (Option String) :=
  (List.range count).map fun i =>
    (t.names.find? fun n => n.2 = i + 1 ∧ t.names.lookup n.1 = some n.2).map Prod.fst

def compile (pattern : List Char) : Except PatternFault Matcher := do
  let tree ← Tree.parse pattern
  let compiled ← tree.compile.mapError .plan
  return compiled.matcher (tree.groupNames compiled.groups)

end Backtrack

/-- The fancy dialect. Flags are written in front of the pattern. -/
def Dialect.fancy : Dialect where
  kind := .fancy
  compile pattern flags :=
    if flags.dupNames then .error (.unsupported 'J' "duplicate group names" "fancy-regex")
    else
      let inline := flags.inline
      match Backtrack.compile (inline ++ pattern) with
      | .ok matcher => .ok matcher
      | .error fault =>
        let diagnostic := Diagnostic.new fault.message
        match fault with
        | .parse pos error =>
          .error ((diagnostic.atByte pattern (pos - inline.length)).withMessage error.message)
        | .plan _ => .error diagnostic

end RegexGateway
