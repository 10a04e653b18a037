import RegexGateway.Proofs.Json.Scalar
import RegexGateway.Proofs.Pattern.Unescape

namespace RegexGateway

namespace Template

/-- A way to write a reference to group `n`. A dollar sign alone takes two digits at most. -/
inductive Spells (n : Nat) : List Char → Prop where
  | escape : Spells n ('\\' :: Nat.toDigits 10 n)
  | braces : Spells n (['$', '\x7b'] ++ Nat.toDigits 10 n ++ ['\x7d'])
  | angles : Spells n (['$', '<'] ++ Nat.toDigits 10 n ++ ['>'])
  | escapedBraces : Spells n (['\\', 'g', '\x7b'] ++ Nat.toDigits 10 n ++ ['\x7d'])
  | dollar (hshort : n ≤ 99) : Spells n ('$' :: Nat.toDigits 10 n)

/-- What a reference to group `n` puts into a text. -/
inductive Inserts (context : Context) : Nat → List Char → Prop where
  | whole : Inserts context 0 (Text.slice context.text context.span)
  | group {n : Nat} {span : Span} (hspan : context.groups[n]? = some (some span)) :
      Inserts context (n + 1) (Text.slice context.text span)
  | idle {n : Nat} (hspan : context.groups[n]? = some none) : Inserts context (n + 1) []
  | missing {n : Nat} (hcount : context.groups.length ≤ n) : Inserts context (n + 1) []

variable {n : Nat} {text written : List Char}

theorem digitsPart_toDigits (hn : n ≤ maxNumber) :
    digitsPart (Nat.toDigits 10 n) = numberPart n := by
  rw [digitsPart, digitsValue_eq, Nat.ofDigitChars_ten_toDigits, Nat.min_eq_left hn]

theorem exists_toDigits_eq_cons (n : Nat) :
    ∃ d digits, Nat.toDigits 10 n = d :: digits ∧ d.isDigit := by
  obtain ⟨d, digits, h⟩ := List.exists_cons_of_ne_nil (Nat.toDigits_ne_nil (b := 10) (n := n))
  exact ⟨d, digits, h, isDigit_toDigits d (h ▸ List.mem_cons_self)⟩

theorem readEscape_toDigits (hn : n ≤ maxNumber) (htext : ∀ c ∈ text.head?, c.isDigit = false) :
    readEscape (Nat.toDigits 10 n ++ text) = .ok (.reference (numberPart n), text) := by
  have htake : (Nat.toDigits 10 n ++ text).takeWhile Char.isDigit = Nat.toDigits 10 n :=
    Json.takeWhile_isDigit_append isDigit_toDigits htext
  have hpart := digitsPart_toDigits hn
  obtain ⟨d, digits, h, hd⟩ := exists_toDigits_eq_cons n
  rw [h] at htake hpart ⊢
  have hother : ∀ more, d :: (digits ++ text) ≠ 'g' :: '\x7b' :: more := by
    intro more heq
    rw [(List.cons.inj heq).1] at hd
    contradiction
  rw [List.cons_append] at htake ⊢
  rw [readEscape_other hother]
  simp [htake, hpart]

theorem readDollar_toDigits (hn : n ≤ maxNumber) (hshort : n ≤ 99)
    (htext : ∀ c ∈ text.head?, c.isDigit = false) :
    readDollar (Nat.toDigits 10 n ++ text) = .ok (.reference (numberPart n), text) := by
  have htake : (Nat.toDigits 10 n ++ text).takeWhile Char.isDigit = Nat.toDigits 10 n :=
    Json.takeWhile_isDigit_append isDigit_toDigits htext
  have hpart := digitsPart_toDigits hn
  have hlength : (Nat.toDigits 10 n).length ≤ 2 :=
    (Nat.length_toDigits_le_iff (by decide) (by decide)).2 (by omega)
  obtain ⟨d, digits, h, hd⟩ := exists_toDigits_eq_cons n
  rw [h] at htake hpart hlength ⊢
  have hother : d ∉ dollarHeads := by
    have hheads : ∀ c ∈ dollarHeads, c.isDigit = false := by simp [dollarHeads]
    intro hmem
    rw [hheads d hmem] at hd
    contradiction
  rw [List.cons_append] at htake ⊢
  -- Only two characters are looked at, and a number up to 99 has no more digits.
  rw [readDollar_other hother, ← List.take_takeWhile, htake, List.take_of_length_le hlength]
  simp [hpart]

theorem Spells.pieces_append (h : Spells n written) (hn : n ≤ maxNumber)
    (htext : ∀ c ∈ text.head?, c.isDigit = false) :
    pieces (written ++ text) = (.reference (numberPart n) :: ·) <$> pieces text := by
  cases h with
  | escape => exact pieces_of_readPiece (readEscape_toDigits hn htext)
  | dollar hshort => exact pieces_of_readPiece (readDollar_toDigits hn hshort htext)
  | braces =>
    have hpiece : readPiece '$' ('\x7b' :: (Nat.toDigits 10 n ++ '\x7d' :: text)) =
        .ok (.reference (numberPart n), text) := readName_toDigits '\x7b' (by decide) hn text
    simpa using pieces_of_readPiece hpiece
  | angles =>
    have hpiece : readPiece '$' ('<' :: (Nat.toDigits 10 n ++ '>' :: text)) =
        .ok (.reference (numberPart n), text) := readName_toDigits '<' (by decide) hn text
    simpa using pieces_of_readPiece hpiece
  | escapedBraces =>
    have hpiece : readPiece '\\' ('g' :: '\x7b' :: (Nat.toDigits 10 n ++ '\x7d' :: text)) =
        .ok (.reference (numberPart n), text) := readName_toDigits '\x7b' (by decide) hn text
    simpa using pieces_of_readPiece hpiece

theorem parse_of_pieces {part : Part}
    (h : pieces written = (.reference part :: ·) <$> pieces text) :
    parse written = (part :: ·) <$> parse text := by
  rw [parse_eq, parse_eq, h]
  cases pieces text <;> rfl

theorem numberPart_inserts (context : Context) (n : Nat) :
    Inserts context n ((numberPart n).expand context) := by
  cases n with
  | zero => exact .whole
  | succ n =>
    have hexpand : (numberPart (n + 1)).expand context = context.group n := rfl
    rw [hexpand, Context.group]
    cases hspan : context.groups[n]? with
    | none => exact .missing (List.getElem?_eq_none_iff.1 hspan)
    | some group =>
      cases group with
      | none => exact .idle hspan
      | some span => exact .group hspan

/-- All spellings of a number refer to one group, and to the whole match if the number is 0. They
are read alike in front of any text that does not go on with a digit: as one part, with the parts of
that text behind it, or else with the error of that text. The part puts the text of the match or of
the group in, and nothing for a group that is not there or took no part. -/
theorem parse_spelled (hn : n ≤ maxNumber) (htext : ∀ c ∈ text.head?, c.isDigit = false) :
    (∀ written, Spells n written →
      parse (written ++ text) = ((if n = 0 then .whole else .number n) :: ·) <$> parse text) ∧
    parse (['$', '&'] ++ text) = (.whole :: ·) <$> parse text ∧
    ∀ written t, Spells n written → parse (written ++ text) = .ok t →
      ∃ rest, parse text = .ok rest ∧
        ∀ context, ∃ inserted, Inserts context n inserted ∧
          t.expand context = inserted ++ Template.expand rest context := by
  have hparse : ∀ written, Spells n written →
      parse (written ++ text) = (numberPart n :: ·) <$> parse text :=
    fun written h => parse_of_pieces (h.pieces_append hn htext)
  refine ⟨hparse, parse_of_pieces (pieces_of_readPiece rfl), ?_⟩
  intro written t hwritten ht
  rw [hparse written hwritten] at ht
  obtain ⟨rest, hrest, rfl⟩ := map_eq_ok.1 ht
  refine ⟨rest, hrest, fun context => ⟨_, numberPart_inserts context n, ?_⟩⟩
  simp [expand]

theorem parse_spelled_greatest :
    4294967295 ≤ maxNumber ∧ (∀ c ∈ ['é'].head?, c.isDigit = false) ∧
    parse "\\4294967295é".toList = .ok [.number 4294967295, .literal ['é']] ∧
    parse "$<4294967295>é".toList = .ok [.number 4294967295, .literal ['é']] := by
  have hn : 4294967295 ≤ maxNumber := by decide
  have htext : ∀ c ∈ ['é'].head?, c.isDigit = false := by simp
  obtain ⟨hparse, -, -⟩ := parse_spelled hn htext
  exact ⟨hn, htext, hparse _ .escape, hparse _ .angles⟩

end Template

end RegexGateway
