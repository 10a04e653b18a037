import Mathlib.Data.List.Chain
import RegexGateway.Proofs.Pattern.Pieces

namespace RegexGateway

namespace Template

/-- A decimal numeral of 32 bits, with a plus sign or without. -/
def IsNumeral (name : List Char) (n : Nat) : Prop :=
  ∃ digits, (name = digits ∨ name = '+' :: digits) ∧ digits ≠ [] ∧ (∀ c ∈ digits, c.isDigit) ∧
    Nat.ofDigitChars 10 digits 0 = n ∧ n ≤ maxNumber

/-- A part that reading may yield. A name is no numeral, and some kind of bracket can hold it. -/
def Part.Proper : Part → Prop
  | literal text => text ≠ []
  | number n => 1 ≤ n ∧ n ≤ maxNumber
  | name text => text ≠ [] ∧ (∀ n, ¬ IsNumeral text n) ∧ ('\x7d' ∉ text ∨ '>' ∉ text)
  | whole | before | after => True

def Part.isLiteral : Part → Bool
  | literal _ => true
  | _ => false

/-- Two parts of which one at least is no literal. -/
def Part.Apart (part next : Part) : Prop := ¬ (part.isLiteral ∧ next.isLiteral)

/-- Proper parts without a literal next to another one. -/
structure Canonical (t : Template) : Prop where
  proper : ∀ part ∈ t, part.Proper
  apart : t.IsChain Part.Apart

def double (text : List Char) : List Char :=
  text.flatMap fun c => if c = '$' ∨ c = '\\' then [c, c] else [c]

/-- A part as it is written. Curly brackets hold a name that they do not end in. -/
def Part.written : Part → List Char
  | literal text => double text
  | number n => ['\\', 'g', '\x7b'] ++ Nat.toDigits 10 n ++ ['\x7d']
  | name text =>
    if '\x7d' ∈ text then ['$', '<'] ++ text ++ ['>'] else ['$', '\x7b'] ++ text ++ ['\x7d']
  | whole => ['$', '&']
  | before => ['$', '\x60']
  | after => ['$', '\'']

def written (t : Template) : List Char := t.flatMap Part.written

example : written [.literal "1$".toList, .number 2, .name "a\x7d".toList, .whole] =
    "1$$\\g\x7b2\x7d$<a\x7d>$&".toList := by decide

variable {text name rest : List Char} {piece : Piece} {t : Template} {n : Nat}

theorem digitsValue_eq (digits : List Char) : digitsValue digits = Nat.ofDigitChars 10 digits 0 :=
  rfl

theorem nameNumber?_eq_some : nameNumber? name = some n ↔ IsNumeral name n := by
  have hplus : '+'.isDigit = false := by decide
  simp only [nameNumber?, digitsValue_eq, Bool.and_eq_true, Bool.not_eq_true',
    List.isEmpty_eq_false_iff, List.all_eq_true, Option.ite_none_right_eq_some, Option.some.injEq]
  constructor
  · rintro ⟨⟨⟨hne, hdigits⟩, hle⟩, rfl⟩
    refine ⟨_, ?_, hne, hdigits, rfl, of_decide_eq_true hle⟩
    split
    · rename_i hhead
      obtain ⟨digits, rfl⟩ := List.head?_eq_some_iff.1 hhead
      exact .inr rfl
    · exact .inl rfl
  · rintro ⟨digits, hname, hne, hdigits, rfl, hle⟩
    have hread : (if name.head? = some '+' then name.drop 1 else name) = digits := by
      rcases hname with rfl | rfl
      · rw [if_neg]
        intro hhead
        have hdigit := hdigits '+' (List.mem_of_mem_head? hhead)
        rw [hplus] at hdigit
        contradiction
      · rfl
    rw [hread]
    exact ⟨⟨⟨hne, hdigits⟩, decide_eq_true hle⟩, rfl⟩

theorem nameNumber?_eq_none (h : ∀ n, ¬ IsNumeral name n) : nameNumber? name = none := by
  apply Option.eq_none_iff_forall_ne_some.2
  intro n hn
  exact h n (nameNumber?_eq_some.1 hn)

theorem isDigit_toDigits : ∀ c ∈ Nat.toDigits 10 n, c.isDigit := fun _ hc =>
  Nat.isDigit_of_mem_toDigits (by decide) (by decide) hc

theorem nameNumber?_toDigits (hn : n ≤ maxNumber) : nameNumber? (Nat.toDigits 10 n) = some n :=
  nameNumber?_eq_some.2 ⟨_, .inl rfl, Nat.toDigits_ne_nil, isDigit_toDigits,
    Nat.ofDigitChars_ten_toDigits, hn⟩

theorem namePart_toDigits (hn : n ≤ maxNumber) : namePart (Nat.toDigits 10 n) = numberPart n := by
  rw [namePart, nameNumber?_toDigits hn]

def Piece.Proper : Piece → Prop
  | char _ => True
  | reference part => part.Proper ∧ part.isLiteral = false

theorem numberPart_proper (hn : n ≤ maxNumber) : (Piece.reference (numberPart n)).Proper := by
  unfold numberPart
  split
  · exact ⟨trivial, rfl⟩
  · exact ⟨⟨by omega, hn⟩, rfl⟩

theorem digitsPart_proper (digits : List Char) : (Piece.reference (digitsPart digits)).Proper :=
  numberPart_proper (Nat.min_le_right _ _)

theorem namePart_proper (hne : name ≠ []) (hclosing : '\x7d' ∉ name ∨ '>' ∉ name) :
    (Piece.reference (namePart name)).Proper := by
  unfold namePart
  cases hnumber : nameNumber? name with
  | none =>
    refine ⟨⟨hne, fun n hn => ?_, hclosing⟩, rfl⟩
    simp [nameNumber?_eq_some.2 hn] at hnumber
  | some n =>
    obtain ⟨-, -, -, -, -, hle⟩ := nameNumber?_eq_some.1 hnumber
    exact numberPart_proper hle

theorem readName_proper {opening closing : Char} (hclosing : closing = '\x7d' ∨ closing = '>')
    (h : readName opening closing text = .ok (piece, rest)) : piece.Proper := by
  obtain ⟨name, -, hne, hname, rfl⟩ := readName_eq_ok h
  apply namePart_proper hne
  rcases hclosing with rfl | rfl
  · exact .inl hname
  · exact .inr hname

theorem readDollar_proper (h : readDollar text = .ok (piece, rest)) : piece.Proper := by
  unfold readDollar at h
  split at h
  case h_5 => exact readName_proper (.inl rfl) h
  case h_6 => exact readName_proper (.inr rfl) h
  case h_7 =>
    simp only at h
    split at h <;> obtain ⟨rfl, -⟩ := Prod.mk.inj (Except.ok.inj h)
    · trivial
    · exact digitsPart_proper _
  case h_1 =>
    obtain ⟨rfl, -⟩ := Prod.mk.inj (Except.ok.inj h)
    trivial
  all_goals
    obtain ⟨rfl, -⟩ := Prod.mk.inj (Except.ok.inj h)
    exact ⟨trivial, rfl⟩

theorem readEscape_proper (h : readEscape text = .ok (piece, rest)) : piece.Proper := by
  unfold readEscape at h
  split at h
  case h_1 =>
    obtain ⟨rfl, -⟩ := Prod.mk.inj (Except.ok.inj h)
    trivial
  case h_2 => exact readName_proper (.inl rfl) h
  case h_3 =>
    simp only at h
    split at h <;> obtain ⟨rfl, -⟩ := Prod.mk.inj (Except.ok.inj h)
    · trivial
    · exact digitsPart_proper _

theorem readPiece_proper {c : Char} (h : readPiece c text = .ok (piece, rest)) : piece.Proper := by
  unfold readPiece at h
  split at h
  · exact readDollar_proper h
  · split at h
    · exact readEscape_proper h
    · obtain ⟨rfl, -⟩ := Prod.mk.inj (Except.ok.inj h)
      trivial

theorem readPieces_proper {fuel : Nat} {found : List Piece}
    (h : readPieces fuel text = .ok found) : ∀ piece ∈ found, piece.Proper := by
  induction fuel generalizing text found with
  | zero =>
    obtain rfl := Except.ok.inj h
    simp
  | succ fuel ih =>
    cases text with
    | nil =>
      obtain rfl := Except.ok.inj h
      simp
    | cons c text =>
      rw [readPieces_succ] at h
      obtain ⟨⟨piece, rest⟩, hpiece, h⟩ := bind_eq_ok.1 h
      obtain ⟨more, hmore, h⟩ := bind_eq_ok.1 h
      obtain rfl := Except.ok.inj h
      exact List.forall_mem_cons.2 ⟨readPiece_proper hpiece, ih hmore⟩

theorem Canonical.consPiece (ht : t.Canonical) (hpiece : piece.Proper) :
    (consPiece piece t).Canonical := by
  obtain ⟨hproper, hapart⟩ := ht
  cases piece with
  | reference part =>
    obtain ⟨hpart, hliteral⟩ := hpiece
    refine ⟨List.forall_mem_cons.2 ⟨hpart, hproper⟩, List.isChain_cons.2 ⟨?_, hapart⟩⟩
    intro next _
    simp [Part.Apart, hliteral]
  | char c =>
    cases t with
    | nil => exact ⟨by simp [Template.consPiece, Part.Proper], .singleton _⟩
    | cons part parts =>
      obtain ⟨hpart, hparts⟩ := List.forall_mem_cons.1 hproper
      cases part with
      | literal text =>
        obtain ⟨hnext, hrest⟩ := List.isChain_cons.1 hapart
        refine ⟨List.forall_mem_cons.2 ⟨List.cons_ne_nil c text, hparts⟩, ?_⟩
        exact List.isChain_cons.2 ⟨hnext, hrest⟩
      | number | name | whole | before | after =>
        refine ⟨List.forall_mem_cons.2 ⟨List.cons_ne_nil c [], hproper⟩, ?_⟩
        exact List.isChain_cons.2 ⟨by simp [Part.Apart, Part.isLiteral], hapart⟩

theorem canonical_of_parse (h : parse text = .ok t) : t.Canonical := by
  obtain ⟨found, hfound, rfl⟩ := map_eq_ok.1 ((parse_eq text).symm.trans h)
  have hproper := readPieces_proper hfound
  clear hfound h
  induction found with
  | nil => exact ⟨by simp, .nil⟩
  | cons piece found ih =>
    obtain ⟨hpiece, hrest⟩ := List.forall_mem_cons.1 hproper
    exact (ih hrest).consPiece hpiece

def Part.pieces : Part → List Piece
  | literal text => text.map .char
  | part => [.reference part]

theorem readName_closed (opening : Char) {closing : Char} (hclosing : closing ∉ name)
    (hne : name ≠ []) (rest : List Char) : readName opening closing (name ++ closing :: rest) =
      .ok (.reference (namePart name), rest) := by
  rw [readName_append opening hclosing, if_neg (by simpa using hne)]

theorem readName_toDigits (opening : Char) {closing : Char} (hclosing : closing.isDigit = false)
    (hn : n ≤ maxNumber) (rest : List Char) :
    readName opening closing (Nat.toDigits 10 n ++ closing :: rest) =
      .ok (.reference (numberPart n), rest) := by
  have hfree : closing ∉ Nat.toDigits 10 n := by
    intro hmem
    rw [isDigit_toDigits closing hmem] at hclosing
    contradiction
  rw [readName_closed opening hfree Nat.toDigits_ne_nil, namePart_toDigits hn]

theorem pieces_double (text rest : List Char) :
    pieces (double text ++ rest) = (text.map Piece.char ++ ·) <$> pieces rest := by
  induction text with
  | nil => simp [double]
  | cons c text ih =>
    have hcons : double (c :: text) ++ rest =
        (if c = '$' ∨ c = '\\' then [c, c] else [c]) ++ (double text ++ rest) := by
      simp [double]
    rw [hcons]
    split
    · rename_i hspecial
      have hpiece : readPiece c (c :: (double text ++ rest)) =
          .ok (.char c, double text ++ rest) := by
        rcases hspecial with rfl | rfl
        · rfl
        · rfl
      rw [List.cons_append, List.cons_append, List.nil_append, pieces_of_readPiece hpiece, ih]
      simp
    · rename_i hplain
      obtain ⟨hdollar, hslash⟩ := not_or.1 hplain
      have hpiece : readPiece c (double text ++ rest) = .ok (.char c, double text ++ rest) := by
        rw [readPiece, if_neg hdollar, if_neg hslash]
      rw [List.cons_append, List.nil_append, pieces_of_readPiece hpiece, ih]
      simp

theorem pieces_written {part : Part} (hpart : part.Proper) (rest : List Char) :
    pieces (part.written ++ rest) = (part.pieces ++ ·) <$> pieces rest := by
  cases part with
  | literal text => exact pieces_double text rest
  | whole | before | after => exact pieces_of_readPiece rfl
  | number n =>
    obtain ⟨hpos, hle⟩ := hpart
    have hnumber : numberPart n = .number n := if_neg (by omega)
    have hread : readName '\x7b' '\x7d' (Nat.toDigits 10 n ++ '\x7d' :: rest) =
        .ok (.reference (numberPart n), rest) := readName_toDigits '\x7b' (by decide) hle rest
    rw [hnumber] at hread
    have hpiece : readPiece '\\' ('g' :: '\x7b' :: (Nat.toDigits 10 n ++ '\x7d' :: rest)) =
        .ok (.reference (.number n), rest) := hread
    simpa [Part.written, Part.pieces] using pieces_of_readPiece hpiece
  | name text =>
    obtain ⟨hne, hnumeral, hclosing⟩ := hpart
    have hname : namePart text = .name text := by
      rw [namePart, nameNumber?_eq_none hnumeral]
    by_cases hbrace : '\x7d' ∈ text
    · have hangle : '>' ∉ text := hclosing.resolve_left (not_not.2 hbrace)
      have hread := readName_closed '<' hangle hne rest
      rw [hname] at hread
      have hpiece : readPiece '$' ('<' :: (text ++ '>' :: rest)) =
          .ok (.reference (.name text), rest) := hread
      simpa [Part.written, Part.pieces, hbrace] using pieces_of_readPiece hpiece
    · have hread := readName_closed '\x7b' hbrace hne rest
      rw [hname] at hread
      have hpiece : readPiece '$' ('\x7b' :: (text ++ '\x7d' :: rest)) =
          .ok (.reference (.name text), rest) := hread
      simpa [Part.written, Part.pieces, hbrace] using pieces_of_readPiece hpiece

theorem foldr_consPiece_chars (hne : text ≠ []) (hhead : ∀ part ∈ t.head?, part.isLiteral = false) :
    (text.map Piece.char).foldr consPiece t = .literal text :: t := by
  induction text with
  | nil => contradiction
  | cons c text ih =>
    cases text with
    | nil =>
      cases t with
      | nil => rfl
      | cons part parts =>
        have hpart := hhead part rfl
        cases part with
        | literal => contradiction
        | number | name | whole | before | after => rfl
    | cons d text => rw [List.map_cons, List.foldr_cons, ih (List.cons_ne_nil d text), consPiece]

theorem foldr_consPiece_pieces (ht : t.Canonical) :
    (t.flatMap Part.pieces).foldr consPiece [] = t := by
  induction t with
  | nil => rfl
  | cons part parts ih =>
    obtain ⟨hpart, hparts⟩ := List.forall_mem_cons.1 ht.proper
    obtain ⟨hnext, hapart⟩ := List.isChain_cons.1 ht.apart
    rw [List.flatMap_cons, List.foldr_append, ih ⟨hparts, hapart⟩]
    cases part with
    | literal text =>
      apply foldr_consPiece_chars hpart
      intro next hmem
      simpa [Part.Apart, Part.isLiteral] using hnext next hmem
    | number | name | whole | before | after => rfl

theorem parse_written (ht : t.Canonical) : parse t.written = .ok t := by
  have hpieces : pieces t.written = .ok (t.flatMap Part.pieces) := by
    have hproper := ht.proper
    clear ht
    induction t with
    | nil => rfl
    | cons part parts ih =>
      obtain ⟨hpart, hparts⟩ := List.forall_mem_cons.1 hproper
      rw [written, List.flatMap_cons, pieces_written hpart, ← written, ih hparts]
      rfl
  rw [parse_eq, hpieces]
  exact congrArg Except.ok (foldr_consPiece_pieces ht)

/-- Reading yields the canonical templates and no others, and each of them is read from the text
that it is written as. So every text can be inserted as it is, with its dollar signs and backslashes
doubled. -/
theorem canonical_iff_parse :
    (∀ t : Template, t.Canonical ↔ ∃ text, parse text = .ok t) ∧
    (∀ t : Template, t.Canonical ↔ parse t.written = .ok t) ∧
    ∀ text, ∃ t, parse (double text) = .ok t ∧ ∀ context, t.expand context = text := by
  refine ⟨fun t => ?_, fun t => ?_, fun text => ?_⟩
  · exact ⟨fun ht => ⟨_, parse_written ht⟩, fun ⟨_, h⟩ => canonical_of_parse h⟩
  · exact ⟨parse_written, canonical_of_parse⟩
  · by_cases hne : text = []
    · obtain rfl := hne
      exact ⟨[], rfl, fun _ => rfl⟩
    · have hcanonical : Canonical [.literal text] := ⟨by simpa [Part.Proper] using hne, .singleton _⟩
      have hparse := parse_written hcanonical
      simp only [written, Part.written, List.flatMap_cons, List.flatMap_nil, List.append_nil]
        at hparse
      exact ⟨_, hparse, fun _ => by simp [expand, Part.expand]⟩

end Template

end RegexGateway
