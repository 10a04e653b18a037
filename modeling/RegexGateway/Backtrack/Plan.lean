import RegexGateway.Backtrack.Analysis
import RegexGateway.Backtrack.Error
import RegexGateway.Dialect.Standard

namespace RegexGateway

namespace Backtrack

inductive Plan where
  | literal (text : List Char)
  | any (newline : Bool)
  | look (kind : Regex.Look)
  | delegate (program : Regex.Program) (firstGroup groups : Nat)
  | sequence (parts : List Plan)
  | alternatives (branches : List Plan)
  | group (index : Nat) (sub : Plan)
  | optional (greedy : Bool) (sub : Plan)
  | star (greedy : Bool) (sub : Plan)
  | counted (least : Nat) (most : Option Nat) (greedy : Bool) (sub : Plan)
  | guarded (least : Nat) (greedy : Bool) (sub : Plan)
  | lookAround (negative : Bool) (back : Nat) (sub : Plan)
  | atomic (sub : Plan)
  | conditional (test ifTrue ifFalse : Plan)
  | reference (group : Nat)
  | groupMatched (group : Nat)
  | keepOut
  | searchStart
  deriving Inhabited

abbrev Planning := Except PlanError

namespace Plan

def ofEasy (first : Nat) (parts : List Expr) : Planning (List Plan) :=
  if parts.isEmpty then pure []
  else match (Expr.concat parts).literal? with
    | some text => pure [literal text]
    | none =>
      match Regex.compile (Expr.patterns 1 parts).flatten false Regex.Modes.default with
      | .ok program => pure [delegate program first (Expr.groupsAll parts)]
      | .error (.refused _) => throw .pieceRefused
      | .error .tooLarge => throw .pieceTooLarge

/-- The plan of a repetition. A loop without end whose rounds may be empty is guarded against
empty rounds. -/
def repeated (least : Nat) (most : Option Nat) (greedy mayBeEmpty : Bool) (sub : Plan) : Plan :=
  match most with
  | some n => if least = 0 ∧ n = 1 then optional greedy sub else counted least most greedy sub
  | none =>
    if mayBeEmpty then guarded least greedy sub
    else match least with
      | 0 => star greedy sub
      | 1 => sequence [sub, star greedy sub]
      | _ => counted least most greedy sub

/-- How far a look-around goes back before it looks. -/
def lookBack (kind : LookAround) (e : Expr) : Planning Nat := do
  if !kind.behind then return 0
  if !e.constSize then throw .lookBehindSize
  return e.minSize

/-- How many parts of a sequence at its start need no backtracking, and how many at its end. Those
at the start must take a constant size, and where the sequence itself runs by backtracking those at
the end too. -/
def easyEnds (hard : Bool) (parts : List Expr) : Nat × Nat :=
  let isEasy (sized : Bool) (e : Expr) : Bool := (e.constSize || !sized) && !e.isHard
  let lead := (parts.takeWhile (isEasy true)).length
  (lead, ((parts.drop lead).reverse.takeWhile (isEasy hard)).length)

mutual

/-- The plan of an expression whose first group is number `first`. An expression that needs no
backtracking becomes one program, unless it runs by backtracking all the same. -/
def ofExpr (hard : Bool) (first : Nat) (e : Expr) : Planning Plan :=
  if !hard && !e.isHard then return .sequence (← ofEasy first [e])
  else match e with
    | .empty => return .sequence []
    | .literal c ignoreCase =>
      if ignoreCase then return .sequence (← ofEasy first [e]) else return .literal [c]
    | .any newline => return .any newline
    | .assertion kind => return .look kind.look
    | .charClass _ _ => return .sequence (← ofEasy first [e])
    | .concat parts => do
      let (lead, trail) := easyEnds hard parts
      let stop := parts.length - trail
      let start ← ofEasy first (parts.take lead)
      let middle ← ofMiddle first lead (stop - lead) parts
      let last ← ofEasy (first + Expr.groupsAll (parts.take stop)) (parts.drop stop)
      return .sequence (start ++ middle ++ last)
    | .alternation branches => return .alternatives (← ofAll hard first branches)
    | .group sub => return .group first (← ofExpr hard (first + 1) sub)
    | .repetition least most greedy sub => do
      let inner := hard || (e.isHard && !(least = 0 && most = some 1))
      let plan ← ofExpr inner first sub
      return repeated least most greedy (sub.minSize = 0) plan
    | .lookAround kind (.alternation branches) =>
      if kind.behind && !(Expr.alternation branches).constSize then do
        let looks ← ofLooks kind first branches
        return if kind.negative then .sequence looks else .alternatives looks
      else do
        let back ← lookBack kind (.alternation branches)
        let plan ← ofExpr false first (.alternation branches)
        return .lookAround kind.negative back plan
    | .lookAround kind sub => do
      let back ← lookBack kind sub
      return .lookAround kind.negative back (← ofExpr false first sub)
    | .reference g => return .reference g
    | .groupMatched g => return .groupMatched g
    | .atomic sub => return .atomic (← ofExpr false first sub)
    | .keepOut => return .keepOut
    | .searchStart => return .searchStart
    | .conditional test ifTrue ifFalse => do
      let t ← ofExpr hard first test
      let y ← ofExpr hard (first + test.groups) ifTrue
      let n ← ofExpr hard (first + test.groups + ifTrue.groups) ifFalse
      return .conditional t y n

def ofMiddle (first skip count : Nat) : List Expr → Planning (List Plan)
  | [] => pure []
  | e :: rest =>
    match skip, count with
    | _, 0 => pure []
    | 0, count + 1 => do
      let plan ← ofExpr true first e
      return plan :: (← ofMiddle (first + e.groups) 0 count rest)
    | skip + 1, count => ofMiddle (first + e.groups) skip count rest

def ofAll (hard : Bool) (first : Nat) : List Expr → Planning (List Plan)
  | [] => pure []
  | e :: rest => do
    let plan ← ofExpr hard first e
    return plan :: (← ofAll hard (first + e.groups) rest)

def ofLooks (kind : LookAround) (first : Nat) :
    List Expr → Planning (List Plan)
  | [] => pure []
  | e :: rest => do
    let back ← lookBack kind e
    let plan ← ofExpr false first e
    return .lookAround kind.negative back plan ::
      (← ofLooks kind (first + e.groups) rest)

end

end Plan

end Backtrack

end RegexGateway
