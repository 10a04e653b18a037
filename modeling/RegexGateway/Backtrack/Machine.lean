import RegexGateway.Backtrack.Plan
import RegexGateway.Text.Bytes

namespace RegexGateway

namespace Backtrack

/-- What a thread has left to do. Apart from running a plan and going back, these end what a plan
began. A guarded loop remembers where its last round began that was not required. -/
inductive Task where
  | run (plan : Plan)
  | goBack (count : Nat)
  | close (group : Nat)
  | again (count least : Nat) (most : Option Nat) (greedy : Bool) (sub : Plan)
  | guardedAgain (count : Nat) (last : Option Nat) (least : Nat) (greedy : Bool) (sub : Plan)
  | returnTo (pos : Nat)
  | refute (height : Nat)
  | seal

/-- A thread. The slots hold the start and the stop of each group, which are set one by one. A mark
is the height of the stack where an atomic group began. -/
structure Thread where
  tasks : List Task
  pos : Nat
  slots : Array (Option Nat)
  marks : List Nat

/-- What a step leads to: failure, a thread, a choice between two, a thread that gives up the ways
kept above a height, or failure that gives them up. -/
inductive Move where
  | fail
  | go (thread : Thread)
  | fork (first second : Thread)
  | cut (height : Nat) (thread : Thread)
  | refute (height : Nat)

/-- What a search is run on: the text, the byte offset of each of its characters and of its end, for
each byte offset the number of characters that start before it, and where the search starts.
Positions are byte offsets, since a search may start inside of a character. Nothing but an empty
text matches there. -/
structure Subject where
  text : Array Char
  offsets : Array Nat
  counts : Array Nat
  start : Nat

def Subject.ofText (text : List Char) (start : Nat) : Subject :=
  ⟨text.toArray, (Text.byteOffsets 0 text).toArray, (Text.charCounts 0 text).toArray, start⟩

namespace Thread

def doing (t : Thread) (tasks : List Task) : Thread := { t with tasks }

def movedTo (t : Thread) (pos : Nat) (tasks : List Task) : Thread := { t with tasks, pos }

def setSlot (t : Thread) (slot : Nat) (value : Option Nat) : Thread :=
  { t with slots := t.slots.setIfInBounds slot value }

def slot? (t : Thread) (slot : Nat) : Option Nat := (t.slots[slot]?).join

def recording (t : Thread) (first groups : Nat) (m : Match) : Thread :=
  (List.range groups).foldl (fun t i =>
    let span := (m.groups[i]?).join
    (t.setSlot (2 * (first + i)) (span.map Span.start)).setSlot (2 * (first + i) + 1)
      (span.map Span.stop)) t

end Thread

def Move.ofRound (greedy : Bool) (more done : Thread) : Move :=
  if greedy then .fork more done else .fork done more

namespace Subject

def index? (s : Subject) (pos : Nat) : Option Nat := do
  let count ← s.counts[pos]?
  if s.offsets[count]? = some pos then some count else none

def char? (s : Subject) (pos : Nat) : Option Char := do s.text[← s.index? pos]?

def after? (s : Subject) : List Char → Nat → Option Nat
  | [], pos => some pos
  | c :: rest, pos => if s.char? pos = some c then s.after? rest (pos + c.utf8Size) else none

/-- The position after any character. Inside of a character it is two bytes further on. -/
def pastAny? (s : Subject) (newline : Bool) (pos : Nat) : Option Nat :=
  match s.char? pos with
  | some c => if newline || c ≠ '\n' then some (pos + c.utf8Size) else none
  | none => if pos + 1 < s.counts.size then some (pos + 2) else none

/-- The position so many characters back. From inside of a character the first step leads to its
start. -/
def back? (s : Subject) (count pos : Nat) : Option Nat :=
  if count = 0 then some pos
  else do
    let before ← s.counts[pos]?
    if count ≤ before then s.offsets[before - count]? else none

def between (s : Subject) (start stop : Nat) : List Char :=
  let index (pos : Nat) : Nat := s.counts.getD pos 0
  (s.text.extract (index start) (index stop)).toList

def matchAt? (s : Subject) (program : Regex.Program) (pos : Nat) : Option Match := do
  let m ← program.matchAt? s.text (← s.index? pos)
  return m.map fun i => s.offsets.getD i 0

def moveOrFail (t : Thread) (rest : List Task) : Option Nat → Move
  | some pos => .go (t.movedTo pos rest)
  | none => .fail

def goIf (holds : Bool) (t : Thread) : Move := if holds then .go t else .fail

def enter (s : Subject) (height : Nat) (t : Thread) (rest : List Task) : Plan → Move
  | .literal text => moveOrFail t rest (s.after? text t.pos)
  | .any newline => moveOrFail t rest (s.pastAny? newline t.pos)
  | .look kind => goIf ((s.index? t.pos).any (kind.holdsAt s.text)) (t.doing rest)
  | .delegate program first groups =>
    match s.matchAt? program t.pos with
    | some m => .go ((t.recording first groups m).movedTo m.span.stop rest)
    | none => .fail
  | .sequence parts => .go (t.doing (parts.map Task.run ++ rest))
  | .alternatives [] => .fail
  | .alternatives [branch] => .go (t.doing (.run branch :: rest))
  | .alternatives (branch :: others) =>
    .fork (t.doing (.run branch :: rest)) (t.doing (.run (.alternatives others) :: rest))
  | .group index sub =>
    .go ((t.setSlot (2 * index) t.pos).doing (.run sub :: .close index :: rest))
  | .optional greedy sub => .ofRound greedy (t.doing (.run sub :: rest)) (t.doing rest)
  | .star greedy sub =>
    .ofRound greedy (t.doing (.run sub :: .run (.star greedy sub) :: rest)) (t.doing rest)
  | .counted least most greedy sub => .go (t.doing (.again 0 least most greedy sub :: rest))
  | .guarded least greedy sub => .go (t.doing (.guardedAgain 0 none least greedy sub :: rest))
  | .lookAround false back sub =>
    .go (t.doing (.goBack back :: .run sub :: .returnTo t.pos :: rest))
  | .lookAround true back sub =>
    .fork (t.doing [.goBack back, .run sub, .refute height]) (t.doing rest)
  | .atomic sub =>
    .go { t with tasks := .run sub :: .seal :: rest, marks := height :: t.marks }
  | .conditional test ifTrue ifFalse =>
    let marked := { t with marks := height :: t.marks }
    .fork (marked.doing (.run test :: .seal :: .run ifTrue :: rest))
      (marked.doing (.run ifFalse :: rest))
  | .reference group => moveOrFail t rest do
    let start ← t.slot? (2 * group)
    let stop ← t.slot? (2 * group + 1)
    s.after? (s.between start stop) t.pos
  | .groupMatched group => goIf (t.slot? (2 * group)).isSome (t.doing rest)
  | .keepOut => .go ((t.setSlot 0 t.pos).doing rest)
  | .searchStart => goIf (t.pos ≤ s.start) (t.doing rest)

def step (s : Subject) (height : Nat) (t : Thread) (rest : List Task) : Task → Move
  | .run plan => s.enter height t rest plan
  | .goBack count => moveOrFail t rest (s.back? count t.pos)
  | .close group => .go ((t.setSlot (2 * group + 1) t.pos).doing rest)
  | .again count least most greedy sub =>
    if most = some count then .go (t.doing rest)
    else
      let more := t.doing (.run sub :: .again (count + 1) least most greedy sub :: rest)
      if least ≤ count then .ofRound greedy more (t.doing rest) else .go more
  | .guardedAgain count last least greedy sub =>
    if last = some t.pos then .fail
    else
      let round (last : Option Nat) : Thread :=
        t.doing (.run sub :: .guardedAgain (count + 1) last least greedy sub :: rest)
      if least ≤ count then .ofRound greedy (round (some t.pos)) (t.doing rest)
      else .go (round none)
  | .returnTo pos => .go (t.movedTo pos rest)
  | .refute height => .refute height
  | .seal =>
    match t.marks with
    | [] => .go (t.doing rest)
    | height :: marks => .cut height { t with tasks := rest, marks }

end Subject

def backtrackLimit : Nat := 1000000

/-- How many ways a search may keep. -/
def stackLimit : Nat := 1000000

/-- More steps than a search takes in practice. -/
def stepLimit : Nat := 0x4000000000000000

inductive RunError where
  | backtrackLimit
  | stackLimit
  deriving DecidableEq, Repr

def RunError.message : RunError → String
  | backtrackLimit =>
    "Error executing regex: Max limit for backtracking count exceeded"
  | stackLimit => "Error executing regex: Max stack size exceeded for backtracking"

namespace Subject

def run (s : Subject) : Nat → Nat → List Thread → Nat → Thread → Except RunError (Option Thread)
  | 0, _, _, _, _ => .error .backtrackLimit
  | fuel + 1, backtracks, kept, height, t =>
    let resume (kept : List Thread) (height : Nat) : Except RunError (Option Thread) :=
      match kept with
      | [] => .ok none
      | last :: kept =>
        if backtracks < backtrackLimit then s.run fuel (backtracks + 1) kept (height - 1) last
        else .error .backtrackLimit
    match t.tasks with
    | [] => .ok (some t)
    | task :: rest =>
      match s.step height t rest task with
      | .fail => resume kept height
      | .go next => s.run fuel backtracks kept height next
      | .fork first second =>
        if height < stackLimit then s.run fuel backtracks (second :: kept) (height + 1) first
        else .error .stackLimit
      | .cut h next => s.run fuel backtracks (kept.drop (height - h)) (min height h) next
      | .refute h => resume (kept.drop (height - h)) (min height h)

end Subject

structure Machine where
  plan : Plan
  groups : Nat

namespace Machine

/-- The plan for a search from anywhere: skip as little as possible, then match the whole. -/
def searching (m : Machine) : Plan := .sequence [.star false (.any true), .group 0 m.plan]

/-- The match that a thread has found. A start that was moved past the stop is moved back. -/
def found (m : Machine) (t : Thread) : Option Match := do
  let start ← t.slot? 0
  let stop ← t.slot? 1
  let group (i : Nat) : Option Span := do
    return ⟨← t.slot? (2 * (i + 1)), ← t.slot? (2 * (i + 1) + 1)⟩
  return ⟨⟨min start stop, stop⟩, (List.range m.groups).map group⟩

/-- The next match from a byte offset on. Its spans are in bytes. -/
def search (m : Machine) (text : List Char) (start : Nat) :
    Except RunError (Option Match) := do
  let first : Thread :=
    ⟨[.run m.searching], start, .replicate (2 * (m.groups + 1)) none, []⟩
  let last ← (Subject.ofText text start).run stepLimit 0 [] 0 first
  return last.bind m.found

end Machine

end Backtrack

end RegexGateway
