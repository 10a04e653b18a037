import Std.Data.HashSet
import RegexGateway.Regex.Program
import RegexGateway.Dialect.Basic
import RegexGateway.Unicode.Property

namespace RegexGateway

namespace Regex

namespace Look

def edgeHolds (edge : WordEdge) (before after : Bool) : Bool :=
  match edge with
  | .either => before != after
  | .neither => before == after
  | .start => !before && after
  | .stop => before && !after
  | .startHalf => !before
  | .stopHalf => !after

def isWord (unicode : Bool) (c : Char) : Bool :=
  if c.toNat < 128 then c.isAlphanum || c = '_' else unicode && CharSet.word.contains c

def holds (look : Look) (before after : Option Char) : Bool :=
  match look with
  | textStart => before.isNone
  | textEnd => after.isNone
  | lineStart => before.isNone || before = some '\n'
  | lineEnd => after.isNone || after = some '\n'
  | crlfStart =>
    before.isNone || before = some '\n' || (before = some '\r' && after ≠ some '\n')
  | crlfEnd =>
    after.isNone || after = some '\r' || (after = some '\n' && before ≠ some '\r')
  | word edge unicode =>
    edgeHolds edge (before.any (isWord unicode)) (after.any (isWord unicode))

def holdsAt (look : Look) (text : Array Char) (pos : Nat) : Bool :=
  look.holds (if pos = 0 then none else text[pos - 1]?) text[pos]?

end Look

inductive Task where
  | run (node : Node)
  | close (index start : Nat)
  | again (id : Nat) (greedy : Bool) (sub : Node)

/-- A way to match under way. Of the spans of one group the last one comes first. -/
structure Thread where
  tasks : List Task
  pos : Nat
  groups : List (Nat × Span)

/-- The choices tried so far, each at a position. One that failed at a position fails there again,
whatever led to it. -/
abbrev Visited := Std.HashSet Nat

/-- What becomes of a thread: threads in the order of preference in its place, or a choice that
must not have been tried here. -/
inductive Move where
  | go (threads : List Thread)
  | choose (id : Nat) (threads : List Thread)

namespace Thread

def withTasks (t : Thread) (tasks : List Task) : Thread := { t with tasks }

def step (text : Array Char) (t : Thread) (task : Task) (rest : List Task) : Move :=
  match task with
  | .close index start => .go [⟨rest, t.pos, (index, ⟨start, t.pos⟩) :: t.groups⟩]
  | .again id greedy sub =>
    let more := t.withTasks (.run sub :: task :: rest)
    let done := t.withTasks rest
    .choose id (if greedy then [more, done] else [done, more])
  | .run node =>
    match node with
    | .empty => .go [t.withTasks rest]
    | .set members =>
      match text[t.pos]? with
      | none => .go []
      | some c =>
        .go (if members.contains c then [{ t with tasks := rest, pos := t.pos + 1 }] else [])
    | .look kind => .go (if kind.holdsAt text t.pos then [t.withTasks rest] else [])
    | .capture index sub => .go [t.withTasks (.run sub :: .close index t.pos :: rest)]
    | .concat parts => .go [t.withTasks (parts.map Task.run ++ rest)]
    | .choice id branches => .choose id (branches.map fun b => t.withTasks (.run b :: rest))
    | .plus id greedy sub => .go [t.withTasks (.run sub :: .again id greedy sub :: rest)]

end Thread

/-- Runs threads, the first one first, until one has nothing left to do. -/
def explore (choices : Nat) (text : Array Char) :
    Nat → Visited → List Thread → Option Thread × Visited
  | 0, visited, _ => (none, visited)
  | _, visited, [] => (none, visited)
  | fuel + 1, visited, t :: others =>
    match t.tasks with
    | [] => (some t, visited)
    | task :: rest =>
      match t.step text task rest with
      | .go threads => explore choices text fuel visited (threads ++ others)
      | .choose id threads =>
        let key := t.pos * choices + id
        if visited.contains key then explore choices text fuel visited others
        else explore choices text fuel (visited.insert key) (threads ++ others)

namespace Program

/-- More steps than a search can take. A thread takes no more than two steps a node before it
chooses, and at each position each branch is chosen once. -/
def fuel (p : Program) (text : Array Char) : Nat :=
  4 * (p.node.size + 1) * (p.node.size + 1) * (text.size + 2)

def matchFrom (p : Program) (text : Array Char) (visited : Visited) (pos : Nat) :
    Option Match × Visited :=
  let (found, visited) := explore p.choices text (p.fuel text) visited [⟨[.run p.node], pos, []⟩]
  (found.map fun t =>
    ⟨⟨pos, t.pos⟩, (List.range p.groupNames.length).map fun i => t.groups.lookup (i + 1)⟩, visited)

def matchAt? (p : Program) (text : Array Char) (pos : Nat) : Option Match :=
  (p.matchFrom text ∅ pos).1

def searchFrom (p : Program) (text : Array Char) : Nat → Visited → Nat → Option Match
  | 0, _, _ => none
  | count + 1, visited, pos =>
    match p.matchFrom text visited pos with
    | (some m, _) => some m
    | (none, visited) => searchFrom p text count visited (pos + 1)

def search? (p : Program) (text : Array Char) (start : Nat) : Option Match :=
  p.searchFrom text (text.size + 1 - start) ∅ start

end Program

end Regex

end RegexGateway
