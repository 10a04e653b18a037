import RegexGateway.Regex.Expr

namespace RegexGateway

namespace Regex

/-- A node of a program. Of the branches of a choice, earlier ones are preferred. -/
inductive Node where
  | empty
  | set (members : CharSet)
  | look (kind : Look)
  | capture (index : Nat) (sub : Node)
  | concat (parts : List Node)
  | choice (id : Nat) (branches : List Node)
  | plus (id : Nat) (greedy : Bool) (sub : Node)
  deriving Repr, Inhabited

def freshId : StateM Nat Nat := modifyGet fun n => (n, n + 1)

namespace Node

def optional (greedy : Bool) (sub : Node) : StateM Nat Node := do
  return .choice (← freshId) (if greedy then [sub, .empty] else [.empty, sub])

def copies (make : StateM Nat Node) : Nat → StateM Nat (List Node)
  | 0 => pure []
  | n + 1 => do
    let first ← make
    return first :: (← copies make n)

def upTo (greedy : Bool) (make : StateM Nat Node) : Nat → StateM Nat Node
  | 0 => pure .empty
  | n + 1 => do
    let first ← make
    let rest ← upTo greedy make n
    optional greedy (.concat [first, rest])

def repeated (greedy : Bool) (make : StateM Nat Node) (least : Nat) :
    Option Nat → StateM Nat Node
  | some most => do
    let required ← copies make least
    return .concat (required ++ [← upTo greedy make (most - least)])
  | none => do
    let required ← copies make (least - 1)
    let loop := .plus (← freshId) greedy (← make)
    return .concat (required ++ [← if least = 0 then optional greedy loop else pure loop])

mutual

def ofExpr : Expr → StateM Nat Node
  | .empty => pure .empty
  | .set members => pure (.set members)
  | .look kind => pure (.look kind)
  | .repetition least most greedy sub => repeated greedy (ofExpr sub) least most
  | .capture index _ sub => do return .capture index (← ofExpr sub)
  | .concat parts => do return .concat (← ofExprs parts)
  | .alternation branches => do return .choice (← freshId) (← ofExprs branches)

def ofExprs : List Expr → StateM Nat (List Node)
  | [] => pure []
  | e :: rest => do
    let first ← ofExpr e
    return first :: (← ofExprs rest)

end

mutual

def size : Node → Nat
  | empty | set _ | look _ => 1
  | capture _ sub => sub.size + 1
  | concat parts => sizeAll parts + 1
  | choice _ branches => sizeAll branches + 1
  | plus _ _ sub => sub.size + 1

def sizeAll : List Node → Nat
  | [] => 0
  | n :: rest => n.size + sizeAll rest

end

end Node

/-- The number of bytes that a program may take. -/
def sizeLimit : Nat := 10485760

mutual

/-- An estimate of the bytes that the program of an expression takes. -/
def Expr.weight : Expr → Nat
  | .empty | .look _ => 24
  | .set members => 24 + 18 * (members.ranges.size - 1)
  | .repetition least most _ sub => (most.getD least + 1) * (sub.weight + 24)
  | .capture _ _ sub => sub.weight + 48
  | .concat parts => Expr.weightAll parts
  | .alternation branches => Expr.weightAll branches + 24

def Expr.weightAll : List Expr → Nat
  | [] => 0
  | e :: rest => e.weight + Expr.weightAll rest

end

structure Program where
  node : Node
  choices : Nat
  groupNames : List (Option String)
  deriving Repr, Inhabited

def Program.ofExpr? (e : Expr) : Option Program :=
  if e.weight ≤ sizeLimit then
    let (node, choices) := (Node.ofExpr e).run 0
    some ⟨node, choices, e.groupNames⟩
  else none

end Regex

end RegexGateway
