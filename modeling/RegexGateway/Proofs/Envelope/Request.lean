import RegexGateway.Envelope.Request
import RegexGateway.Proofs.Json.Object
import RegexGateway.Proofs.Wire.Request

namespace RegexGateway

theorem toList_eq_iff {s : String} {text : List Char} :
    s.toList = text ↔ s = String.ofList text := by
  rw [eq_comm, ← String.ofList_eq, eq_comm]

theorem Json.Node.refuse_ne_ok {α : Type} {n : Node} {expected : String} {a : α} :
    (n.refuse expected : Decoded α) ≠ .ok a := by
  simp [Node.refuse, bind_eq_ok]

theorem Json.Codec.decode_char {source : Source} {j : Json} {c : Char} :
    Codec.char.decode source j.node = .ok c ↔ j = .str (String.ofList [c]) := by
  cases j with
  | str s =>
    simp only [Codec.char, node, ofText_ok, bind_eq_ok, Except.ok.injEq, exists_eq_left',
      Json.str.injEq, ← toList_eq_iff]
    split
    · rename_i heq
      simp [heq]
    · rename_i hne
      simpa using hne c
  | null | bool | int | float | arr | obj =>
    simp [Codec.char, node, Node.refuse_ne_ok]

theorem Registry.require_eq_ok {registry : Registry} {id : String} {caps : Capabilities} :
    registry.require id = .ok caps ↔ registry.get? id = some caps := by
  unfold Registry.require
  split <;> simp_all

namespace Envelope

/-- A text in which an object stands, with white space around it at most. -/
def Holds (text : List Char) (data : Fields) : Prop :=
  (Json.Document.ofText (String.ofList (Text.trim text))).toJson.map Json.sorted = .ok (.obj data)

/-- How delimiters may be written. -/
inductive WritesDelimiters : Json → Option DelimiterPair → Prop where
  | null : WritesDelimiters .null none
  | empty : WritesDelimiters (.str "") none
  | one (c : Char) : WritesDelimiters (.str (String.ofList [c])) (some ⟨c, c⟩)
  | two (c d : Char) : WritesDelimiters (.str (String.ofList [c, d])) (some ⟨c, d⟩)
  | object (fields : Fields) (c d : Char)
      (hopen : Json.field? "open" fields = some (.str (String.ofList [c])))
      (hclose : Json.field? "close" fields = some (.str (String.ofList [d]))) :
      WritesDelimiters (.obj fields) (some ⟨c, d⟩)

/-- The fields of a pattern. A test leaves out the last two. -/
structure WritesPattern (mode : Mode) (fields : Fields) (r : PatternRecord) : Prop where
  id : Json.field? "id" fields = some (.int r.id)
  signedWord : IsSignedWord r.id
  regex : Json.field? "pattern" fields = some (.str (String.ofList r.regex))
  modifiers : Json.field? "modifiers" fields = some (.str (String.ofList r.modifiers))
  delimiters : ∃ j, Json.field? "delimiters" fields = some j ∧ WritesDelimiters j r.delimiters
  replacement : if mode = .test then r.replacement = [] else
    Json.field? "replace" fields = some (.str (String.ofList r.replacement))
  unescape : if mode = .test then r.unescape = false else
    Json.field? "transformWhiteSpace" fields = some (.bool r.unescape)

/-- A length among the settings of an envelope. -/
def WritesLength (settings : Fields) (name : String) (limit length : Nat) : Prop :=
  Json.field? name settings = some (.int length) ∧ 10 ≤ length ∧ length ≤ limit

/-- The settings of an envelope. What is not true or false is no flag. -/
structure WritesConfig (settings : Fields) (limits : MatchLimits) (c : RequestedConfig) : Prop where
  wholeLength : WritesLength settings "maxWholeMatchLen" limits.wholeLength c.wholeLength
  partLength : WritesLength settings "maxSubMatchLen" limits.partLength c.partLength
  sampleLength : WritesLength settings "maxReturnSampleLen" limits.sampleLength c.sampleLength
  showBlanks : ∀ b, c.showBlanks = some b ↔
    Json.field? "showWhiteSpaceChars" settings = some (.bool b)
  truncate : ∀ b, c.truncate = some b ↔ Json.field? "truncateLongStr" settings = some (.bool b)

/-- Samples that a desk takes. -/
structure Quotas.Admits (quotas : Quotas) (samples : List (List Char)) : Prop where
  one_le : 1 ≤ samples.length
  count : samples.length ≤ quotas.samples
  length : ∀ s ∈ samples, s.length ≤ quotas.sampleLength
  total : samples.flatten.length ≤ quotas.totalLength

namespace Desk

/-- The engine that an envelope is for: the one that it names, or else the default one. -/
inductive Names (desk : Desk) (data : Fields) : String → Prop where
  | absent (h : Json.field? "engine" data = none) : Names desk data desk.defaultEngine
  | null (h : Json.field? "engine" data = some .null) : Names desk data desk.defaultEngine
  | named (id : String) (h : Json.field? "engine" data = some (.str id)) : Names desk data id

/-- What an envelope holds for a request to be made of it. -/
structure Describes (desk : Desk) (data : Fields) (r : Request) : Prop where
  mode : Json.field? "type" data = some (.str r.mode.name)
  engine : ∃ id, desk.Names data id ∧ desk.registry.get? id = some r.capabilities
  patterns : ∃ items, Json.field? "regexes" data = some (.arr items) ∧
    1 ≤ items.length ∧ items.length ≤ desk.quotas.patterns ∧
    List.Forall₂ (fun j p => ∃ fields, j = .obj fields ∧ WritesPattern r.mode fields p)
      items r.patterns
  samples : if r.mode = .test then r.samples = [] else
    Json.field? "samplestrings" data =
      some (.arr (r.samples.map fun s => .str (String.ofList s))) ∧ desk.quotas.Admits r.samples
  chain : if r.mode = .test then r.chain = false else
    Json.field? "chainRegexes" data = some (.bool r.chain)
  config : if r.mode ≠ .findMatches then r.config = none else
    ∃ settings c, Json.field? "matchConfig" data = some (.obj settings) ∧
      WritesConfig settings r.capabilities.config.limits c ∧ r.config = some c

end Desk

section

variable {data fields : Fields} {mode : Mode}

theorem parseObject_eq_ok {text : List Char} : parseObject text = .ok data ↔ Holds text data := by
  unfold parseObject Holds
  cases hempty : Text.trim text with
  | nil =>
    have hnone : (Json.Document.ofText (String.ofList [])).toJson = .error .endOfValue := by rfl
    simp [hnone, map_eq, bind, Except.bind]
  | cons c rest =>
    simp only [List.isEmpty_cons, Bool.false_eq_true, if_false, map_eq, map_eq_ok, bind_eq_ok,
      mapError_eq_ok]
    refine exists_congr fun j => and_congr_right fun _ => ?_
    split
    · rename_i heq
      simp [heq, pure, Except.pure, eq_comm]
    · rename_i hne
      simpa using fun h => hne data h.symm

theorem demand_eq_ok {field : Field} {j : Json} :
    demand data field = .ok j ↔ Json.field? field.name data = some j := by
  simp [demand, elim_eq_ok]

theorem Mode.ofName?_eq_some {name : String} :
    Mode.ofName? name = some mode ↔ name = mode.name := by
  constructor
  · intro h
    have hname := List.find?_some h
    exact (of_decide_eq_true hname).symm
  · rintro rfl
    cases mode <;> rfl

theorem parseMode_eq_ok :
    parseMode data = .ok mode ↔ Json.field? "type" data = some (.str mode.name) := by
  simp only [parseMode, bind_eq_ok, demand_eq_ok, Field.name]
  constructor
  · rintro ⟨j, hj, hmode⟩
    split at hmode
    · rw [elim_eq_ok] at hmode
      simp_all [Mode.ofName?_eq_some]
    · contradiction
  · intro h
    exact ⟨_, h, by simp [elim_eq_ok, Mode.ofName?_eq_some]⟩

theorem Desk.engine_eq_ok {desk : Desk} {caps : Capabilities} :
    desk.engine data = .ok caps ↔
      ∃ id, desk.Names data id ∧ desk.registry.get? id = some caps := by
  unfold Desk.engine
  constructor
  · intro h
    split at h
    · rename_i habsent
      exact ⟨_, .absent habsent, Registry.require_eq_ok.1 (mapError_eq_ok.1 h)⟩
    · rename_i hnull
      exact ⟨_, .null hnull, Registry.require_eq_ok.1 (mapError_eq_ok.1 h)⟩
    · rename_i id hid
      exact ⟨id, .named id hid, Registry.require_eq_ok.1 (mapError_eq_ok.1 h)⟩
    · contradiction
  · rintro ⟨id, hid, hcaps⟩
    have hrequire : (desk.registry.require id).mapError Rejection.noEngine = .ok caps :=
      mapError_eq_ok.2 (Registry.require_eq_ok.2 hcaps)
    cases hid with
    | absent h | null h | named _ h => simpa [Field.name, h] using hrequire

theorem stringField_eq_ok {name : String} {text : List Char} :
    stringField fields name = .ok text ↔
      Json.field? name fields = some (.str (String.ofList text)) := by
  unfold stringField
  split
  · simp_all [toList_eq_iff]
  · rename_i hne
    simpa using hne _

theorem booleanField_eq_ok {name : String} {b : Bool} :
    booleanField fields name = .ok b ↔ Json.field? name fields = some (.bool b) := by
  unfold booleanField
  split
  · simp_all
  · rename_i hne
    simpa using hne _

theorem idField_eq_ok {n : Int} :
    idField fields = .ok n ↔ Json.field? "id" fields = some (.int n) ∧ IsSignedWord n := by
  unfold idField
  split
  · rename_i m hm
    simp only [hm, Option.some.injEq, Json.int.injEq]
    split
    · rename_i hword
      rw [Except.ok.injEq]
      constructor
      · rintro rfl
        exact ⟨rfl, hword⟩
      · exact And.left
    · rename_i hword
      simp only [reduceCtorEq, false_iff, not_and]
      rintro rfl
      exact hword
  · rename_i hne
    simp only [reduceCtorEq, false_iff, not_and]
    exact fun h => absurd h (hne _)

theorem ofText?_eq_some {text : List Char} {pair : DelimiterPair} :
    DelimiterPair.ofText? text = some pair ↔
      text = [pair.opening] ∧ pair.closing = pair.opening ∨
        text = [pair.opening, pair.closing] := by
  obtain ⟨c, d⟩ := pair
  unfold DelimiterPair.ofText?
  split
  · rename_i x
    simp only [DelimiterPair.symmetric, Option.some.injEq, DelimiterPair.mk.injEq, List.cons.injEq]
    grind
  · simp
  · rename_i hone htwo
    simpa using ⟨fun h => absurd h (hone c), htwo c d⟩

theorem ofJson_delimiters_eq_ok {pair : DelimiterPair} (hkeys : (fields.map Prod.fst).Nodup) :
    DelimiterPair.codec.ofJson (.obj fields) = .ok pair ↔
      Json.field? "open" fields = some (.str (String.ofList [pair.opening])) ∧
        Json.field? "close" fields = some (.str (String.ofList [pair.closing])) := by
  have hreads {row : Json.Row [Char, Char]} :
      ((Json.Shape.cons (.required "open" .char) (.cons (.required "close" .char) .nil)).codec
        "DelimiterPair").decode .buffered (Json.obj fields).node = .ok row ↔
      Json.field? "open" fields = some (.str (String.ofList [row.1])) ∧
        Json.field? "close" fields = some (.str (String.ofList [row.2.1])) := by
    rw [Json.Shape.decode_object hkeys (by decide)]
    simp [Json.Shape.Reads, Json.Field.reads_required, Json.Codec.decode_char]
  simp only [DelimiterPair.codec, Json.Codec.ofJson, Json.Codec.along, map_eq, map_eq_ok, hreads]
  constructor
  · rintro ⟨⟨c, d, _⟩, hfields, rfl⟩
    exact hfields
  · intro hfields
    exact ⟨(pair.opening, pair.closing, ()), hfields, rfl⟩

theorem delimitersField_eq_ok {j : Json} {delimiters : Option DelimiterPair}
    (hj : Json.field? "delimiters" fields = some j) (hsorted : j.IsSorted) :
    delimitersField fields = .ok delimiters ↔ WritesDelimiters j delimiters := by
  unfold delimitersField
  rw [hj]
  constructor
  · intro h
    cases j with
    | null =>
      obtain rfl := Except.ok.inj h
      exact .null
    | str s =>
      obtain ⟨text, rfl⟩ : ∃ text, s = String.ofList text := ⟨s.toList, String.ofList_toList.symm⟩
      simp only at h
      split at h
      · rename_i hempty
        obtain rfl := Except.ok.inj h
        obtain rfl : text = [] := by simpa using hempty
        exact .empty
      · obtain ⟨pair, hpair, heq⟩ := elim_eq_ok.1 h
        obtain rfl := Except.ok.inj heq
        rw [String.toList_ofList, ofText?_eq_some] at hpair
        obtain ⟨rfl, hclosing⟩ | rfl := hpair
        · obtain ⟨c, d⟩ := pair
          obtain rfl : d = c := hclosing
          exact .one d
        · exact .two _ _
    | obj inner =>
      simp only [map_eq, map_eq_ok, mapError_eq_ok] at h
      obtain ⟨pair, hpair, rfl⟩ := h
      obtain ⟨hopen, hclose⟩ := (ofJson_delimiters_eq_ok hsorted.fields.1).1 hpair
      exact .object inner _ _ hopen hclose
    | bool | int | float | arr => contradiction
  · intro h
    cases h with
    | null | empty => rfl
    | one c | two c d => simp [DelimiterPair.ofText?, DelimiterPair.symmetric]
    | object inner c d hopen hclose =>
      have hpair : DelimiterPair.codec.ofJson (.obj inner) = .ok ⟨c, d⟩ :=
        (ofJson_delimiters_eq_ok hsorted.fields.1).2 ⟨hopen, hclose⟩
      simp [hpair, map_eq]

theorem patternOf_eq_ok {r : PatternRecord} {j : Json}
    (hj : Json.field? "delimiters" fields = some j) (hsorted : j.IsSorted) :
    patternOf mode fields = .ok r ↔ WritesPattern mode fields r := by
  simp only [patternOf, bind_eq_ok, idField_eq_ok, stringField_eq_ok,
    delimitersField_eq_ok hj hsorted]
  constructor
  · rintro ⟨id, ⟨hid, hword⟩, regex, hregex, modifiers, hmodifiers, delimiters, hdelimiters, h⟩
    split at h
    · rename_i htest
      obtain rfl := Except.ok.inj h
      exact ⟨hid, hword, hregex, hmodifiers, ⟨j, hj, hdelimiters⟩, by simp [htest], by simp [htest]⟩
    · rename_i htest
      simp only [bind_eq_ok, stringField_eq_ok, booleanField_eq_ok] at h
      obtain ⟨replacement, hreplacement, unescape, hunescape, h⟩ := h
      obtain rfl := Except.ok.inj h
      exact ⟨hid, hword, hregex, hmodifiers, ⟨j, hj, hdelimiters⟩,
        by simpa [htest] using hreplacement, by simpa [htest] using hunescape⟩
  · rintro ⟨hid, hword, hregex, hmodifiers, ⟨j', hj', hdelimiters⟩, hreplacement, hunescape⟩
    obtain rfl : j = j' := Option.some.inj (hj.symm.trans hj')
    refine ⟨_, ⟨hid, hword⟩, _, hregex, _, hmodifiers, _, hdelimiters, ?_⟩
    split
    · rename_i htest
      simp only [htest, if_true] at hreplacement hunescape
      obtain ⟨id, regex, modifiers, delimiters, replacement, unescape⟩ := r
      simp_all [pure, Except.pure]
    · rename_i htest
      simp only [htest, if_false] at hreplacement hunescape
      simp only [bind_eq_ok, stringField_eq_ok, booleanField_eq_ok]
      exact ⟨_, hreplacement, _, hunescape, rfl⟩

theorem missed_eq_none :
    ((requiredFields mode).zipIdx.find? fun f => (Json.field? f.1 fields).isNone) = none ↔
      ∀ name ∈ requiredFields mode, Json.field? name fields ≠ none := by
  rw [List.find?_eq_none]
  conv_rhs => rw [← List.zipIdx_map_fst 0 (requiredFields mode), List.forall_mem_map]
  simp

theorem WritesPattern.required {r : PatternRecord} (h : WritesPattern mode fields r) :
    ∀ name ∈ requiredFields mode, Json.field? name fields ≠ none := by
  obtain ⟨hid, -, hregex, hmodifiers, ⟨j, hj, -⟩, hreplacement, hunescape⟩ := h
  cases mode <;> simp_all [requiredFields]

theorem parsePattern_eq_ok {j : Json} {r : PatternRecord} (hsorted : j.IsSorted) :
    parsePattern mode j = .ok r ↔ ∃ fields, j = .obj fields ∧ WritesPattern mode fields r := by
  cases j with
  | obj fields =>
    simp only [Json.obj.injEq, exists_eq_left', parsePattern]
    constructor
    · intro h
      split at h
      · contradiction
      · rename_i hpresent
        have hdelimiters := missed_eq_none.1 hpresent "delimiters" (by cases mode <;> decide)
        obtain ⟨j, hj⟩ := Option.ne_none_iff_exists'.1 hdelimiters
        exact (patternOf_eq_ok hj (hsorted.field hj)).1 (mapError_eq_ok.1 h)
    · intro h
      obtain ⟨j, hj, -⟩ := h.delimiters
      rw [missed_eq_none.2 h.required]
      exact mapError_eq_ok.2 ((patternOf_eq_ok hj (hsorted.field hj)).2 h)
  | null | bool | int | float | str | arr => simp [parsePattern]

theorem Desk.patterns_eq_ok {desk : Desk} {records : List PatternRecord}
    (hsorted : (Json.obj data).IsSorted) :
    desk.patterns mode data = .ok records ↔
      ∃ items, Json.field? "regexes" data = some (.arr items) ∧
        1 ≤ items.length ∧ items.length ≤ desk.quotas.patterns ∧
        List.Forall₂ (fun j p => ∃ fields, j = .obj fields ∧ WritesPattern mode fields p)
          items records := by
  simp only [Desk.patterns, bind_eq_ok, demand_eq_ok, Field.name]
  constructor
  · rintro ⟨j, hj, h⟩
    split at h
    · rename_i items
      have hitems := (hsorted.field hj).items
      rw [guard_eq_ok, guard_eq_ok, mapM_eq_ok fun j hj r => parsePattern_eq_ok (hitems j hj)] at h
      obtain ⟨hne, hcount, hrecords⟩ := h
      rw [List.isEmpty_iff_length_eq_zero] at hne
      exact ⟨items, hj, by omega, by omega, hrecords⟩
    · contradiction
  · rintro ⟨items, hfield, hone, hcount, hrecords⟩
    have hitems := (hsorted.field hfield).items
    refine ⟨_, hfield, ?_⟩
    simp only
    rw [guard_eq_ok, guard_eq_ok, mapM_eq_ok fun j hj r => parsePattern_eq_ok (hitems j hj),
      List.isEmpty_iff_length_eq_zero]
    exact ⟨by omega, by omega, hrecords⟩

theorem takeSamples_eq_ok {quotas : Quotas} {index total : Nat} {items : List Json}
    {samples : List (List Char)} (htotal : total ≤ quotas.totalLength) :
    takeSamples quotas index total items = .ok samples ↔
      items = samples.map (fun s => .str (String.ofList s)) ∧
        (∀ s ∈ samples, s.length ≤ quotas.sampleLength) ∧
        total + samples.flatten.length ≤ quotas.totalLength := by
  induction items generalizing index total samples with
  | nil => cases samples <;> simp [takeSamples, htotal]
  | cons j rest ih =>
    cases j with
    | str s =>
      simp only [takeSamples, guard_eq_ok, not_lt, bind_eq_ok]
      cases samples with
      | nil => simp [pure, Except.pure]
      | cons sample samples =>
        simp only [pure, Except.pure, Except.ok.injEq, List.cons.injEq, List.map_cons,
          List.flatten_cons, List.length_append, List.forall_mem_cons, Json.str.injEq]
        constructor
        · rintro ⟨hlength, htotal', _, hrest, rfl, rfl⟩
          obtain ⟨hitems, hlengths, hsum⟩ := (ih htotal').1 hrest
          exact ⟨⟨String.ofList_toList.symm, hitems⟩, ⟨hlength, hlengths⟩, by omega⟩
        · rintro ⟨⟨rfl, hitems⟩, ⟨hlength, hlengths⟩, hsum⟩
          rw [String.toList_ofList]
          exact ⟨hlength, by omega, _, (ih (by omega)).2 ⟨hitems, hlengths, by omega⟩, rfl, rfl⟩
    | null | bool | int | float | arr | obj => cases samples <;> simp [takeSamples]

theorem Desk.samples_eq_ok {desk : Desk} {samples : List (List Char)} :
    desk.samples data = .ok samples ↔
      Json.field? "samplestrings" data =
        some (.arr (samples.map fun s => .str (String.ofList s))) ∧ desk.quotas.Admits samples := by
  have htake {items : List Json} : takeSamples desk.quotas 0 0 items = .ok samples ↔ _ :=
    takeSamples_eq_ok (Nat.zero_le _)
  simp only [Desk.samples, bind_eq_ok, demand_eq_ok, Field.name]
  constructor
  · rintro ⟨j, hj, h⟩
    split at h
    · rw [guard_eq_ok, guard_eq_ok, htake, List.isEmpty_iff_length_eq_zero] at h
      obtain ⟨hne, hcount, rfl, hlength, htotal⟩ := h
      rw [List.length_map] at hne hcount
      exact ⟨hj, by omega, by omega, hlength, by omega⟩
    · contradiction
  · rintro ⟨hfield, hone, hcount, hlength, htotal⟩
    refine ⟨_, hfield, ?_⟩
    simp only
    rw [guard_eq_ok, guard_eq_ok, htake, List.isEmpty_iff_length_eq_zero, List.length_map]
    exact ⟨by omega, by omega, rfl, hlength, by omega⟩

theorem parseChain_eq_ok {b : Bool} :
    parseChain data = .ok b ↔ Json.field? "chainRegexes" data = some (.bool b) := by
  simp only [parseChain, bind_eq_ok, demand_eq_ok, Field.name]
  constructor
  · rintro ⟨j, hj, h⟩
    split at h
    · obtain rfl := Except.ok.inj h
      exact hj
    · contradiction
  · intro h
    exact ⟨_, h, rfl⟩

theorem parseLength_eq_ok {settings : Fields} {limits : MatchLimits} {setting : LengthSetting}
    {length : Nat} :
    parseLength settings limits setting = .ok length ↔
      WritesLength settings setting.name (setting.limit limits) length := by
  simp only [parseLength, WritesLength]
  split
  · simp_all
  · rename_i n hn
    simp only [hn, Option.some.injEq, Json.int.injEq]
    split
    · rename_i hneg
      simp only [reduceCtorEq, false_iff, not_and]
      omega
    · split
      · rename_i hrange
        simp only [LengthSetting.least] at hrange
        simp only [Except.ok.injEq]
        omega
      · rename_i hrange
        simp only [LengthSetting.least] at hrange
        simp only [reduceCtorEq, false_iff, not_and]
        omega
  · rename_i other hother hfield
    simp only [hfield, Option.some.injEq, reduceCtorEq, false_iff, not_and]
    exact fun h => absurd h (hother _)

theorem flag?_eq_some {settings : Fields} {name : String} {b : Bool} :
    flag? settings name = some b ↔ Json.field? name settings = some (.bool b) := by
  unfold flag?
  split
  · simp_all
  · rename_i hne
    simpa using hne _

theorem parseConfig_eq_ok {limits : MatchLimits} {c : RequestedConfig} :
    parseConfig data limits = .ok c ↔
      ∃ settings, Json.field? "matchConfig" data = some (.obj settings) ∧
        WritesConfig settings limits c := by
  simp only [parseConfig, bind_eq_ok, demand_eq_ok, Field.name]
  constructor
  · rintro ⟨j, hj, h⟩
    split at h
    · rename_i settings
      simp only [bind_eq_ok, parseLength_eq_ok] at h
      obtain ⟨whole, hwhole, part, hpart, sample, hsample, h⟩ := h
      obtain rfl := Except.ok.inj h
      exact ⟨settings, hj, hwhole, hpart, hsample, fun _ => flag?_eq_some, fun _ => flag?_eq_some⟩
    · contradiction
  · rintro ⟨settings, hfield, hwhole, hpart, hsample, hshow, htruncate⟩
    have hflags : c.showBlanks = flag? settings "showWhiteSpaceChars" ∧
        c.truncate = flag? settings "truncateLongStr" := by
      constructor <;> apply Option.ext <;> intro b
      · rw [hshow, flag?_eq_some]
      · rw [htruncate, flag?_eq_some]
    obtain ⟨hshow, htruncate⟩ := hflags
    refine ⟨_, hfield, ?_⟩
    simp only [bind_eq_ok, parseLength_eq_ok]
    refine ⟨_, hwhole, _, hpart, _, hsample, ?_⟩
    rw [← hshow, ← htruncate]
    rfl

/-- Exactly those texts are accepted that hold the description of a request. -/
theorem Desk.parse_iff_describes {desk : Desk} {text : List Char} {r : Request} :
    desk.parse text = .ok r ↔ ∃ data, Holds text data ∧ desk.Describes data r := by
  simp only [Desk.parse, bind_eq_ok, parseObject_eq_ok, parseMode_eq_ok, Desk.engine_eq_ok]
  refine exists_congr fun data => and_congr_right fun hdata => ?_
  have hsorted : (Json.obj data).IsSorted := by
    obtain ⟨raw, -, hraw⟩ := map_eq_ok.1 hdata
    exact ⟨raw, hraw.symm⟩
  simp only [Desk.patterns_eq_ok hsorted]
  constructor
  · rintro ⟨mode, hmode, caps, hengine, patterns, hpatterns, h⟩
    -- A test ends here, a replacement after the chain, and only a match has settings.
    split at h
    case isTrue htest =>
      obtain rfl := Except.ok.inj h
      subst htest
      exact ⟨hmode, hengine, hpatterns, by simp, by simp, by simp⟩
    case isFalse htest =>
      simp only [bind_eq_ok, Desk.samples_eq_ok, parseChain_eq_ok] at h
      obtain ⟨samples, hsamples, chain, hchain, h⟩ := h
      split at h
      case isTrue hreplace =>
        obtain rfl := Except.ok.inj h
        subst hreplace
        exact ⟨hmode, hengine, hpatterns, by simpa using hsamples, by simpa using hchain, by simp⟩
      case isFalse hreplace =>
        simp only [bind_eq_ok, parseConfig_eq_ok] at h
        obtain ⟨config, ⟨settings, hsettings, hconfig⟩, h⟩ := h
        obtain rfl := Except.ok.inj h
        have hmatch : mode = .findMatches := by cases mode <;> trivial
        subst hmatch
        exact ⟨hmode, hengine, hpatterns, by simpa using hsamples, by simpa using hchain,
          by simpa using ⟨settings, hsettings, hconfig⟩⟩
  · rintro ⟨hmode, hengine, hpatterns, hsamples, hchain, hconfig⟩
    obtain ⟨mode, caps, patterns, samples, chain, config⟩ := r
    refine ⟨mode, hmode, caps, hengine, patterns, hpatterns, ?_⟩
    cases mode with
    | test =>
      simp only [if_true] at hsamples hchain
      simp_all [pure, Except.pure]
    | replace =>
      simp only [reduceCtorEq, if_false, bind_eq_ok, Desk.samples_eq_ok,
        parseChain_eq_ok] at hsamples hchain ⊢
      simp only [ne_eq, reduceCtorEq, not_false_eq_true, if_true] at hconfig
      exact ⟨_, hsamples, _, hchain, by simp [hconfig, pure, Except.pure]⟩
    | findMatches =>
      simp only [reduceCtorEq, if_false, bind_eq_ok, Desk.samples_eq_ok,
        parseChain_eq_ok, parseConfig_eq_ok] at hsamples hchain ⊢
      simp only [ne_eq, not_true_eq_false, if_false] at hconfig
      obtain ⟨settings, c, hsettings, hwrites, rfl⟩ := hconfig
      exact ⟨_, hsamples, _, hchain, c, ⟨settings, hsettings, hwrites⟩, rfl⟩

end

end Envelope

end RegexGateway
