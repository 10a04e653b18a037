import RegexGateway.Backtrack.Expr

namespace RegexGateway

namespace Backtrack

namespace Expr

mutual

def groups : Expr → Nat
  | group sub => sub.groups + 1
  | concat parts => groupsAll parts
  | alternation branches => groupsAll branches
  | lookAround _ sub | repetition _ _ _ sub | atomic sub => sub.groups
  | conditional test ifTrue ifFalse => test.groups + ifTrue.groups + ifFalse.groups
  | _ => 0

def groupsAll : List Expr → Nat
  | [] => 0
  | e :: rest => e.groups + groupsAll rest

end

mutual

/-- The least number of characters that a match takes. -/
def minSize : Expr → Nat
  | any _ | literal .. | charClass .. => 1
  | concat parts => minSizeSum parts
  | alternation branches => minSizeMin branches
  | group sub | atomic sub => sub.minSize
  | repetition least _ _ sub => sub.minSize * least
  | conditional test ifTrue ifFalse => test.minSize + min ifTrue.minSize ifFalse.minSize
  | _ => 0

def minSizeSum : List Expr → Nat
  | [] => 0
  | e :: rest => e.minSize + minSizeSum rest

def minSizeMin : List Expr → Nat
  | [] => 0
  | [e] => e.minSize
  | e :: rest => min e.minSize (minSizeMin rest)

end

mutual

def constSize : Expr → Bool
  | reference _ => false
  | concat parts => constSizeAll parts
  | alternation branches =>
    constSizeAll branches &&
      (sizes branches).all fun n => some n = (sizes branches).head?
  | group sub | atomic sub => sub.constSize
  | repetition least most _ sub => sub.constSize && some least = most
  | conditional test ifTrue ifFalse =>
    test.constSize && ifTrue.constSize && ifFalse.constSize &&
      test.minSize + ifTrue.minSize = ifFalse.minSize
  | _ => true

def constSizeAll : List Expr → Bool
  | [] => true
  | e :: rest => e.constSize && constSizeAll rest

def sizes : List Expr → List Nat
  | [] => []
  | e :: rest => e.minSize :: sizes rest

end

mutual

/-- Whether an expression needs backtracking. A group that is referred back to does not need it for
that reason, so it may keep to its preferred match. -/
def isHard : Expr → Bool
  | assertion kind => kind.isHard
  | concat parts | alternation parts => anyHard parts
  | group sub | repetition _ _ _ sub => sub.isHard
  | lookAround .. | reference _ | atomic _ | keepOut | searchStart | groupMatched _
  | conditional .. => true
  | _ => false

def anyHard : List Expr → Bool
  | [] => false
  | e :: rest => e.isHard || anyHard rest

end

mutual

/-- Whether every reference is to a group that opens before it. The whole match opens before all. -/
def refersBack (first : Nat) : Expr → Bool
  | reference g | groupMatched g => g < first
  | concat parts | alternation parts => allReferBack first parts
  | group sub => sub.refersBack (first + 1)
  | lookAround _ sub | repetition _ _ _ sub | atomic sub => sub.refersBack first
  | conditional test ifTrue ifFalse =>
    test.refersBack first && ifTrue.refersBack (first + test.groups) &&
      ifFalse.refersBack (first + test.groups + ifTrue.groups)
  | _ => true

def allReferBack (first : Nat) : List Expr → Bool
  | [] => true
  | e :: rest => e.refersBack first && allReferBack (first + e.groups) rest

end

def literal? : Expr → Option (List Char)
  | literal c false => some [c]
  | concat parts => literals? parts
  | _ => none
where
  literals? : List Expr → Option (List Char)
    | [] => some []
    | e :: rest => do return (← e.literal?) ++ (← literals? rest)

end Expr

end Backtrack

end RegexGateway
