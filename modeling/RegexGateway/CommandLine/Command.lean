import RegexGateway.CommandLine.Item
import RegexGateway.Envelope.Request

namespace RegexGateway

namespace CommandLine

def values (s : Switch) (items : List Item) : List String :=
  items.filterMap fun
    | .switch t value => if t = s then some value else none
    | .word _ => none

def words (items : List Item) : List String :=
  items.filterMap fun
    | .switch .. => none
    | .word text => some text

def value? (s : Switch) (items : List Item) : Except UsageError (Option String) :=
  match values s items with
  | [] => .ok none
  | [value] => .ok (some value)
  | _ => .error (.repeated s)

def given (s : Switch) (items : List Item) : Except UsageError Bool := do
  return (← value? s items).isSome

def number? (text : String) : Option Nat :=
  let digits := if text.toList.head? = some '+' then text.toList.drop 1 else text.toList
  let n := digits.foldl (fun n c => 10 * n + (c.toNat - 48)) 0
  if !digits.isEmpty && digits.all Char.isDigit && n < UInt64.size then some n else none

def numberOr (standard : Nat) (s : Switch) (items : List Item) : Except UsageError Nat := do
  match ← value? s items with
  | none => return standard
  | some text => (number? text).elim (throw (.badValue s text)) pure

/-- Patterns that are numbered from 1, each with the replacement in the same place. -/
def records (regexes replacements : List String) (modifiers : String) : List PatternRecord :=
  regexes.zipIdx.map fun (regex, i) =>
    ⟨i + 1, regex.toList, modifiers.toList, none, (replacements[i]?.getD "").toList, false⟩

inductive Command where
  | engines
  | test (pattern : String) (modifiers delimiters : Option String)
  | findMatches (patterns : List PatternRecord) (samples : List String)
      (chain showBlanks json : Bool)
  | replace (patterns : List PatternRecord) (samples : List String)
  | request (file : Option String) (quotas : Envelope.Quotas) (pretty : Bool)
  | serve
  deriving DecidableEq, Repr

structure Invocation where
  engine : String
  enginesFile : Option String
  command : Command
  deriving DecidableEq, Repr

def defaultEngine : String := "rust-regex"

def defaultModifiers : String := "g"

def commandSwitches? : String → Option (List Switch)
  | "engines" | "serve" => some []
  | "test" => some [.modifiers, .delimiters]
  | "match" => some [.regex, .replacement, .modifiers, .noChain, .showBlanks, .json]
  | "replace" => some [.regex, .replacement, .modifiers]
  | "request" => some [.maxPatterns, .maxSamples, .maxSampleLength, .maxTotalLength, .pretty]
  | _ => none

def patterns (items : List Item) : Except UsageError (List PatternRecord) := do
  let regexes := values .regex items
  if regexes.isEmpty then throw (.missing "--regex")
  let modifiers := (← value? .modifiers items).getD defaultModifiers
  return records regexes (values .replacement items) modifiers

def oneWord (items : List Item) : Except UsageError (Option String) :=
  match words items with
  | [] => .ok none
  | [word] => .ok (some word)
  | _ :: word :: _ => .error (.unknown word)

def noWord (items : List Item) : Except UsageError Unit :=
  match words items with
  | [] => .ok ()
  | word :: _ => .error (.unknown word)

def commandOf (name : String) (items : List Item) : Except UsageError Command := do
  match name with
  | "engines" => do
    noWord items
    return .engines
  | "serve" => do
    noWord items
    return .serve
  | "test" => do
    let some pattern ← oneWord items | throw (.missing "PATTERN")
    return .test pattern (← value? .modifiers items) (← value? .delimiters items)
  | "match" =>
    return .findMatches (← patterns items) (words items) (!(← given .noChain items))
      (← given .showBlanks items) (← given .json items)
  | "replace" => return .replace (← patterns items) (words items)
  | "request" =>
    let quotas := Envelope.Quotas.standard
    return .request (← oneWord items)
      { patterns := ← numberOr quotas.patterns .maxPatterns items
        samples := ← numberOr quotas.samples .maxSamples items
        sampleLength := ← numberOr quotas.sampleLength .maxSampleLength items
        totalLength := ← numberOr quotas.totalLength .maxTotalLength items }
      (← given .pretty items)
  | name => throw (.unknown name)

/-- The value of a switch that may stand before the command as well. The one behind counts. -/
def valueEverywhere? (s : Switch) (before after : List Item) :
    Except UsageError (Option String) := do
  return (← value? s after) <|> (← value? s before)

def parse (arguments : List String) : Except UsageError Invocation := do
  let (before, after) ← splitCommand Switch.everywhere arguments
  let before ← readItems Switch.everywhere before
  match after with
  | [] => throw (.missing "COMMAND")
  | name :: rest =>
    let some switches := commandSwitches? name | throw (.unknown name)
    let items ← readItems (switches ++ Switch.everywhere) rest
    match ← valueEverywhere? .logFormat before items with
    | none | some "compact" | some "json" => pure ()
    | some other => throw (.badValue .logFormat other)
    return {
      engine := (← valueEverywhere? .engine before items).getD defaultEngine
      enginesFile := ← valueEverywhere? .enginesFile before items
      command := ← commandOf name items }

end CommandLine

end RegexGateway
