import RegexGateway.Unicode.CharSet

namespace RegexGateway

namespace Regex

inductive WordEdge where
  | either
  | neither
  | start
  | stop
  | startHalf
  | stopHalf
  deriving DecidableEq, Repr

inductive Look where
  | textStart
  | textEnd
  | lineStart
  | lineEnd
  | crlfStart
  | crlfEnd
  | word (edge : WordEdge) (unicode : Bool)
  deriving DecidableEq, Repr

inductive Expr where
  | empty
  | set (members : CharSet)
  | look (kind : Look)
  | repetition (least : Nat) (most : Option Nat) (greedy : Bool) (sub : Expr)
  | capture (index : Nat) (name : Option String) (sub : Expr)
  | concat (parts : List Expr)
  | alternation (branches : List Expr)
  deriving Repr, Inhabited

namespace Expr

mutual

def zeroWidth : Expr → Bool
  | empty | look _ => true
  | set _ => false
  | repetition _ most _ sub => most = some 0 || (most.isSome && sub.zeroWidth)
  | capture _ _ sub => sub.zeroWidth
  | concat parts => zeroWidthAll parts
  | alternation branches => zeroWidthAll branches

def zeroWidthAll : List Expr → Bool
  | [] => true
  | e :: rest => e.zeroWidth && zeroWidthAll rest

end

/-- A repetition in its simplest form. What only matches the empty text need not run twice, and
what may not run at all is empty. -/
def repeated (least : Nat) (most : Option Nat) (greedy : Bool) (sub : Expr) : Expr :=
  let (least, most) :=
    if sub.zeroWidth then (min least 1, some (min (most.getD 1) 1)) else (least, most)
  if least = 0 ∧ most = some 0 then empty
  else if least = 1 ∧ most = some 1 then sub
  else repetition least most greedy sub

mutual

def captures : Expr → List (Nat × Option String)
  | empty | look _ | set _ => []
  | repetition _ _ _ sub => sub.captures
  | capture index name sub => (index, name) :: sub.captures
  | concat parts => capturesAll parts
  | alternation branches => capturesAll branches

def capturesAll : List Expr → List (Nat × Option String)
  | [] => []
  | e :: rest => e.captures ++ capturesAll rest

end

def groupNames (e : Expr) : List (Option String) :=
  let last := e.captures.foldl (fun n c => max n c.1) 0
  (List.range last).map fun i => (e.captures.lookup (i + 1)).join

end Expr

end Regex

end RegexGateway
