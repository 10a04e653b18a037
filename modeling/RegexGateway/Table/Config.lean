import RegexGateway.Json.Record
import RegexGateway.Text.Visible

namespace RegexGateway

/-- The settings that a caller may change. Lengths are counted in characters. -/
structure MatchSettings where
  /-- Whether a pattern sees the text that the patterns before it leave. -/
  chain : Bool
  partLength : Nat
  wholeLength : Nat
  sampleLength : Nat
  showBlanks : Bool
  truncate : Bool
  deriving DecidableEq, Repr

/-- The greatest lengths, and whether a caller may do without them. -/
structure MatchLimits where
  partLength : Nat
  wholeLength : Nat
  sampleLength : Nat
  truncateOptional : Bool
  deriving DecidableEq, Repr

structure MatchConfig where
  settings : MatchSettings
  limits : MatchLimits
  deriving DecidableEq, Repr

inductive SettingUpdate where
  | chain (value : Bool)
  | partLength (value : Nat)
  | wholeLength (value : Nat)
  | sampleLength (value : Nat)
  | showBlanks (value : Bool)
  | truncate (value : Bool)
  deriving DecidableEq, Repr

/-- The length nearest to `value` that is at least 1 and at most `limit`. -/
def clampLength (value limit : Nat) : Nat := min (max value 1) limit

namespace MatchSettings

def updates (s : MatchSettings) : List SettingUpdate :=
  [.chain s.chain, .partLength s.partLength, .wholeLength s.wholeLength,
    .sampleLength s.sampleLength, .showBlanks s.showBlanks, .truncate s.truncate]

end MatchSettings

namespace MatchConfig

def defaultLength : Nat := 300

/-- A config in which every limit is at least 1 and every length lies within its limit. -/
def normalize (c : MatchConfig) : MatchConfig :=
  let limits := { c.limits with
    partLength := max c.limits.partLength 1
    wholeLength := max c.limits.wholeLength 1
    sampleLength := max c.limits.sampleLength 1 }
  { settings := { c.settings with
      partLength := clampLength c.settings.partLength limits.partLength
      wholeLength := clampLength c.settings.wholeLength limits.wholeLength
      sampleLength := clampLength c.settings.sampleLength limits.sampleLength }
    limits }

def ofLimits (limits : MatchLimits) : MatchConfig :=
  normalize ⟨⟨true, defaultLength, defaultLength, defaultLength, false, true⟩, limits⟩

/-- Changes one setting. A length is held to its limit, and truncation is changed only where it is
optional. -/
def set (c : MatchConfig) : SettingUpdate → MatchConfig
  | .chain b => { c with settings.chain := b }
  | .partLength n => { c with settings.partLength := clampLength n c.limits.partLength }
  | .wholeLength n => { c with settings.wholeLength := clampLength n c.limits.wholeLength }
  | .sampleLength n => { c with settings.sampleLength := clampLength n c.limits.sampleLength }
  | .showBlanks b => { c with settings.showBlanks := b }
  | .truncate b => if c.limits.truncateOptional then { c with settings.truncate := b } else c

def apply (c : MatchConfig) (s : MatchSettings) : MatchConfig := s.updates.foldl set c

def clip (c : MatchConfig) (length : Nat) (text : List Char) : List Char :=
  if c.settings.truncate then Text.truncate length text else text

/-- A text as a match shows it. The names of blanks count towards the length. -/
def present (c : MatchConfig) (length : Nat) (text : List Char) : List Char :=
  c.clip length (if c.settings.showBlanks then Text.visible text else text)

def presentWhole (c : MatchConfig) : List Char → List Char := c.present c.settings.wholeLength

def presentPart (c : MatchConfig) : List Char → List Char := c.present c.settings.partLength

/-- A sample as it is shown along with its matches. Its blanks stay as they are. -/
def presentSample (c : MatchConfig) : List Char → List Char := c.clip c.settings.sampleLength

end MatchConfig

open Json in
def MatchSettings.codec : Codec MatchSettings :=
  (Shape.codec (.cons (.required "chainRegexes" .bool)
    (.cons (.required "maxSubMatchLen" .nat)
    (.cons (.required "maxWholeMatchLen" .nat)
    (.cons (.default "maxReturnSampleLen" .nat MatchConfig.defaultLength)
    (.cons (.required "showWhiteSpaceChars" .bool)
    (.cons (.required "truncateLongStr" .bool) .nil)))))) "MatchSettings").along
    (fun s => (s.chain, s.partLength, s.wholeLength, s.sampleLength, s.showBlanks, s.truncate, ()))
    (fun (chain, part, whole, sample, blanks, truncate, _) =>
      ⟨chain, part, whole, sample, blanks, truncate⟩)

namespace MatchConfig

def defaultSampleLimit : Nat := 100000

open Json in
def codec : Codec MatchConfig :=
  (Shape.codec (.cons (.required "chainRegexes" .bool)
    (.cons (.required "maxSubMatchLen" .nat)
    (.cons (.required "maxWholeMatchLen" .nat)
    (.cons (.default "maxReturnSampleLen" .nat defaultLength)
    (.cons (.required "showWhiteSpaceChars" .bool)
    (.cons (.required "truncateLongStr" .bool)
    (.cons (.required "maxSubMatchLenLimit" .nat)
    (.cons (.required "maxWholeMatchLenLimit" .nat)
    (.cons (.default "maxReturnSampleLenLimit" .nat defaultSampleLimit)
    (.cons (.required "optionalTruncateLongStr" .bool) .nil)))))))))) "MatchConfig").along
    (fun ⟨s, l⟩ => (s.chain, s.partLength, s.wholeLength, s.sampleLength, s.showBlanks, s.truncate,
      l.partLength, l.wholeLength, l.sampleLength, l.truncateOptional, ()))
    (fun (chain, part, whole, sample, blanks, truncate, partLimit, wholeLimit, sampleLimit,
      truncateOptional, _) =>
      ⟨⟨chain, part, whole, sample, blanks, truncate⟩,
        ⟨partLimit, wholeLimit, sampleLimit, truncateOptional⟩⟩)

end MatchConfig

end RegexGateway
