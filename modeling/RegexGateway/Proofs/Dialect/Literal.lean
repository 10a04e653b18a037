import RegexGateway.Proofs.Pattern.Scan
import RegexGateway.Table.Registry

namespace RegexGateway

namespace Literal

def seek (word : List Char) (offset : Nat) : List Char → Option Nat
  | [] => if word.isEmpty then some offset else none
  | c :: rest =>
    if word.isPrefixOf (c :: rest) then some offset else seek word (offset + c.utf8Size) rest

def matcher (word : List Char) : Matcher where
  groupNames := []
  find text start := .ok <| (seek word start (Text.dropBytes text start)).map fun n =>
    ⟨⟨n, n + Text.byteLength word⟩, []⟩

theorem seek_eq_some {word rest : List Char} {offset n : Nat}
    (h : seek word offset rest = some n) :
    ∃ skipped behind, rest = skipped ++ word ++ behind ∧ n = offset + Text.byteLength skipped := by
  induction rest generalizing offset with
  | nil =>
    simp only [seek] at h
    split at h
    · rename_i hword
      obtain rfl : word = [] := by simpa using hword
      exact ⟨[], [], rfl, by simpa using h.symm⟩
    · contradiction
  | cons c rest ih =>
    simp only [seek] at h
    split at h
    · rename_i hprefix
      obtain ⟨behind, hbehind⟩ := List.isPrefixOf_iff_prefix.1 hprefix
      exact ⟨[], behind, by simp [hbehind], by simpa using h.symm⟩
    · obtain ⟨skipped, behind, rfl, rfl⟩ := ih h
      exact ⟨c :: skipped, behind, by simp, by simp [Nat.add_assoc]⟩

theorem matcher_lawful (word : List Char) : (matcher word).Lawful := by
  intro text start m hstart hfind
  obtain ⟨before, rest, rfl, rfl⟩ := Text.isBoundary_iff.1 hstart
  simp only [matcher, Text.dropBytes_append, Except.ok.injEq, Option.map_eq_some_iff] at hfind
  obtain ⟨n, hseek, rfl⟩ := hfind
  obtain ⟨skipped, behind, rfl, rfl⟩ := seek_eq_some hseek
  constructor
  case start_le => simp
  case start_le_stop => simp
  case start_boundary =>
    exact Text.isBoundary_iff.2 ⟨before ++ skipped, word ++ behind, by simp, by simp⟩
  case stop_boundary =>
    exact Text.isBoundary_iff.2
      ⟨before ++ skipped ++ word, behind, by simp, by simp [Nat.add_assoc]⟩

end Literal

/-- The dialect of words. -/
def Dialect.literal : Dialect where
  kind := .standard
  compile word _ := .ok (Literal.matcher word)

def EngineSpec.words : EngineSpec where
  id := "words"
  name := "Words"
  docsUrl := ""
  apiUrl := ""
  allowedDelimiters := ['/', '(']
  allowedPairs := [⟨'<', ')'⟩]
  allowedModifiers := ['g']
  label := .modifiers
  globalModifier := some 'g'
  defaultDelimiters := ⟨'/', '/'⟩
  defaultModifiers := ['g']
  delimiterRequired := true
  access := .remote
  dialect := .standard
  config := .ofLimits ⟨20, 20, 20, false⟩

def Capabilities.words : Capabilities where
  id := "words"
  name := "Words"
  docsUrl := ""
  apiUrl := ""
  allowedDelimiters := ['/', '(']
  allowedPairs := [⟨'<', ')'⟩]
  allowedModifiers := ['g']
  label := .modifiers
  globalModifier := some 'g'
  defaults := ⟨⟨'/', '/'⟩, ['g']⟩
  delimiterRequired := true
  access := .remote
  dialect := .standard
  config := .ofLimits ⟨20, 20, 20, false⟩

theorem Capabilities.ofSpec_words : ofSpec .words = .ok words := by rfl

end RegexGateway
