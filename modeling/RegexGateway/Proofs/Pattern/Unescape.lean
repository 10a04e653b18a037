import Mathlib.Algebra.Group.Nat.Even
import RegexGateway.Proofs.Pattern.Canonical

namespace RegexGateway

namespace Template

/-- A part with its text left out. -/
def Part.shape : Part → Part
  | literal _ => literal []
  | name _ => name []
  | part => part

def Piece.shape : Piece → Piece
  | char _ => char '\\'
  | reference part => reference part.shape

/-- Each backslash is in a run of an even number of them. -/
def EvenRuns (text : List Char) : Prop :=
  ∀ front n behind, text = front ++ List.replicate n '\\' ++ behind →
    front.getLast? ≠ some '\\' → behind.head? ≠ some '\\' → Even n

/-- What an escape starts with when those of white space are undone: a backslash or a blank. -/
def escapeHeads : List Char := ['\\', '\n', '\r', '\t', '\x0c', '\x0b']

/-- What means something behind a dollar sign, digits apart. -/
def dollarHeads : List Char := ['\x7b', '<', '$', '&', '\x60', '\'']

inductive Agree {α : Type} (R : α → α → Prop) :
    Except TemplateError α → Except TemplateError α → Prop where
  | error {e e' : TemplateError} : Agree R (.error e) (.error e')
  | ok {a a' : α} (h : R a a') : Agree R (.ok a) (.ok a')

/-- The readings of a piece before and after escapes are undone, in what remains too. -/
def Step (read read' : Piece × List Char) : Prop :=
  read'.1.shape = read.1.shape ∧ read'.2 = unescape read.2

variable {closing c d : Char} {name text rest front : List Char}

theorem blankEscape?_mem (h : blankEscape? c = some d) :
    (c, d) ∈ [('n', '\n'), ('r', '\r'), ('t', '\t'), ('f', '\x0c'), ('v', '\x0b')] := by
  obtain ⟨before, after, hlookup, -⟩ := List.lookup_eq_some_iff.1 h
  rw [hlookup]
  exact List.mem_append_right _ List.mem_cons_self

theorem blankEscape?_mem_escapeHeads (h : blankEscape? c = some d) : d ∈ escapeHeads :=
  List.mem_cons_of_mem _ (List.mem_map_of_mem (f := Prod.snd) (blankEscape?_mem h))

theorem unescape_cons (hc : c ≠ '\\') (rest : List Char) :
    unescape (c :: rest) = c :: unescape rest := by
  rw [unescape]
  rintro d more rfl -
  exact hc rfl

theorem unescape_escape (hc : blankEscape? c = none) (rest : List Char) :
    unescape ('\\' :: c :: rest) = '\\' :: c :: unescape rest := by
  rw [unescape, hc]

theorem unescape_blank (hc : blankEscape? c = some d) (rest : List Char) :
    unescape ('\\' :: c :: rest) = d :: unescape rest := by
  rw [unescape, hc]

theorem unescape_append (hfront : '\\' ∉ front) (rest : List Char) :
    unescape (front ++ rest) = front ++ unescape rest := by
  induction front with
  | nil => rfl
  | cons c front ih =>
    obtain ⟨hc, hfront⟩ := not_or.1 (List.mem_cons.not.1 hfront)
    rw [List.cons_append, unescape_cons (Ne.symm hc), ih hfront, List.cons_append]

theorem unescape_eq_self (h : '\\' ∉ text) : unescape text = text := by
  simpa [unescape] using unescape_append h []

theorem unescape_head (c : Char) (rest : List Char) :
    ∃ d more, unescape (c :: rest) = d :: more ∧ (d = c ∨ d ∈ escapeHeads) := by
  by_cases hc : c = '\\'
  · obtain rfl := hc
    cases rest with
    | nil => exact ⟨'\\', [], rfl, .inl rfl⟩
    | cons c rest =>
      cases hblank : blankEscape? c with
      | none => exact ⟨'\\', _, unescape_escape hblank rest, .inl rfl⟩
      | some d =>
        exact ⟨d, _, unescape_blank hblank rest, .inr (blankEscape?_mem_escapeHeads hblank)⟩
  · exact ⟨c, _, unescape_cons hc rest, .inl rfl⟩

theorem unescape_head_backslash (rest : List Char) :
    ∃ d more, unescape ('\\' :: rest) = d :: more ∧ d ∈ escapeHeads := by
  obtain ⟨d, more, h, rfl | hd⟩ := unescape_head '\\' rest
  · exact ⟨_, more, h, List.mem_cons_self⟩
  · exact ⟨d, more, h, hd⟩

theorem unescape_isEmpty (text : List Char) : (unescape text).isEmpty = text.isEmpty := by
  cases text with
  | nil => rfl
  | cons c rest =>
    obtain ⟨d, more, h, -⟩ := unescape_head c rest
    rw [h]
    rfl

theorem mem_unescape (h : c ∈ unescape text) : c ∈ text ∨ c ∈ escapeHeads := by
  fun_induction unescape text with
  | case1 letter rest blank hblank ih =>
    rcases List.mem_cons.1 h with rfl | h
    · exact .inr (blankEscape?_mem_escapeHeads hblank)
    · exact (ih h).imp_left fun hmem => List.mem_cons_of_mem _ (List.mem_cons_of_mem _ hmem)
  | case2 letter rest hblank ih =>
    rcases List.mem_cons.1 h with rfl | h
    · exact .inl List.mem_cons_self
    · rcases List.mem_cons.1 h with rfl | h
      · exact .inl (List.mem_cons_of_mem _ List.mem_cons_self)
      · exact (ih h).imp_left fun hmem => List.mem_cons_of_mem _ (List.mem_cons_of_mem _ hmem)
  | case3 first rest hfirst ih =>
    rcases List.mem_cons.1 h with rfl | h
    · exact .inl List.mem_cons_self
    · exact (ih h).imp_left (List.mem_cons_of_mem _)
  | case4 => exact .inl h

/-- A character that is part of no escape of white space ends what is before it, even if a backslash
is in front of it. -/
theorem unescape_append_closing (hclosing : closing ∉ escapeHeads)
    (hblank : blankEscape? closing = none) (name rest : List Char) :
    unescape (name ++ closing :: rest) = unescape name ++ closing :: unescape rest := by
  have hslash : closing ≠ '\\' := fun h => hclosing (h ▸ List.mem_cons_self)
  fun_induction unescape name with
  | case1 letter name blank hletter ih =>
    rw [List.cons_append, List.cons_append, unescape_blank hletter, ih, List.cons_append]
  | case2 letter name hletter ih =>
    rw [List.cons_append, List.cons_append, unescape_escape hletter, ih, List.cons_append,
      List.cons_append]
  | case3 first name hfirst ih =>
    by_cases hc : first = '\\'
    · obtain rfl := hc
      cases name with
      | nil => exact unescape_escape hblank rest
      | cons letter name => exact (hfirst letter name rfl rfl).elim
    · rw [List.cons_append, unescape_cons hc, ih, List.cons_append]
  | case4 => exact unescape_cons hslash rest

theorem evenRuns_nil : EvenRuns [] := by
  intro front n behind h _ _
  have hlength := congrArg List.length h
  simp only [List.length_nil, List.length_append, List.length_replicate] at hlength
  obtain rfl : n = 0 := by omega
  exact Even.zero

theorem evenRuns_cons (hc : c ≠ '\\') : EvenRuns (c :: text) ↔ EvenRuns text := by
  constructor
  · rintro h front n behind rfl hfront hbehind
    refine h (c :: front) n behind rfl ?_ hbehind
    cases front with
    | nil => simpa using hc
    | cons d front => simpa using hfront
  · intro h front n behind htext hfront hbehind
    cases front with
    | nil =>
      cases n with
      | zero => exact Even.zero
      | succ n => exact (hc (List.cons.inj htext).1).elim
    | cons d front =>
      refine h front n behind (List.cons.inj htext).2 ?_ hbehind
      cases front with
      | nil => simp
      | cons d' front => simpa using hfront

theorem evenRuns_pair : EvenRuns ('\\' :: '\\' :: text) ↔ EvenRuns text := by
  constructor
  · rintro h front n behind rfl hfront hbehind
    cases front with
    | nil =>
      have heven := h [] (n + 2) behind (by simp [List.replicate_succ]) (by simp) hbehind
      exact (Nat.even_add.1 heven).2 (by decide)
    | cons d front =>
      exact h ('\\' :: '\\' :: d :: front) n behind rfl (by simpa using hfront) hbehind
  · intro h front n behind htext hfront hbehind
    match front, n with
    | [], 0 => exact Even.zero
    | [], 1 =>
      obtain rfl : '\\' :: text = behind := (List.cons.inj htext).2
      exact (hbehind rfl).elim
    | [], n + 2 =>
      have htext : text = List.replicate n '\\' ++ behind := by
        simpa [List.replicate_succ] using htext
      exact (h [] n behind htext (by simp) hbehind).add (by decide)
    | [d], n =>
      obtain rfl : '\\' = d := (List.cons.inj htext).1
      exact (hfront rfl).elim
    | [d, d'], n =>
      obtain rfl : '\\' = d' := (List.cons.inj (List.cons.inj htext).2).1
      exact (hfront rfl).elim
    | _ :: _ :: d :: front, n =>
      exact h (d :: front) n behind (List.cons.inj (List.cons.inj htext).2).2
        (by simpa using hfront) hbehind

theorem EvenRuns.head (h : EvenRuns ('\\' :: text)) : text.head? = some '\\' := by
  by_contra hhead
  exact Nat.not_even_one (h [] 1 text rfl (by simp) hhead)

theorem EvenRuns.unescape_eq (h : EvenRuns text) : unescape text = text := by
  fun_induction unescape text with
  | case1 letter rest blank hblank ih =>
    obtain rfl : letter = '\\' := by simpa using h.head
    contradiction
  | case2 letter rest hblank ih =>
    obtain rfl : letter = '\\' := by simpa using h.head
    rw [ih (evenRuns_pair.1 h)]
  | case3 first rest hfirst ih =>
    by_cases hc : first = '\\'
    · obtain rfl := hc
      obtain ⟨more, rfl⟩ := List.head?_eq_some_iff.1 h.head
      exact (hfirst '\\' more rfl rfl).elim
    · rw [ih ((evenRuns_cons hc).1 h)]
  | case4 => rfl

theorem escapeHeads_plain (h : c ∈ escapeHeads) :
    c.isDigit = false ∧ c ≠ '+' ∧ c ∉ dollarHeads := by
  simp only [escapeHeads, List.mem_cons, List.not_mem_nil, or_false] at h
  rcases h with rfl | rfl | rfl | rfl | rfl | rfl <;> decide

theorem nameNumber?_eq_none_of_mem (hc : c ∈ name) (hhead : c ∈ escapeHeads) :
    nameNumber? name = none := by
  obtain ⟨hdigit, hplus, -⟩ := escapeHeads_plain hhead
  apply nameNumber?_eq_none
  rintro n ⟨digits, hname, -, hdigits, -⟩
  have hmem : c ∈ digits := by
    rcases hname with rfl | rfl
    · exact hc
    · exact (List.mem_cons.1 hc).resolve_left hplus
  simp [hdigits c hmem] at hdigit

theorem namePart_unescape (name : List Char) :
    (namePart (unescape name)).shape = (namePart name).shape := by
  by_cases hslash : '\\' ∈ name
  · have hname := nameNumber?_eq_none_of_mem hslash List.mem_cons_self
    obtain ⟨front, rest, rfl, hfront⟩ := List.eq_append_cons_of_mem hslash
    obtain ⟨d, more, hmore, hd⟩ := unescape_head_backslash rest
    have hmem : d ∈ unescape (front ++ '\\' :: rest) := by
      rw [unescape_append hfront, hmore]
      exact List.mem_append_right _ List.mem_cons_self
    rw [namePart, namePart, hname, nameNumber?_eq_none_of_mem hmem hd]
    rfl
  · rw [unescape_eq_self hslash]

theorem readName_unescape (opening : Char) (hclosing : closing ∉ escapeHeads)
    (hblank : blankEscape? closing = none) (text : List Char) :
    Agree Step (readName opening closing text) (readName opening closing (unescape text)) := by
  have hkeeps : ∀ name, closing ∉ name → closing ∉ unescape name := fun name hname hmem =>
    (mem_unescape hmem).elim hname hclosing
  by_cases hmem : closing ∈ text
  · obtain ⟨name, rest, rfl, hname⟩ := List.eq_append_cons_of_mem hmem
    rw [unescape_append_closing hclosing hblank, readName_append opening hname,
      readName_append opening (hkeeps name hname), unescape_isEmpty]
    split
    · exact .error
    · exact .ok ⟨congrArg Piece.reference (namePart_unescape name), rfl⟩
  · rw [readName_unclosed opening hmem, readName_unclosed opening (hkeeps text hmem)]
    exact .error

theorem takeWhile_unescape (text : List Char) :
    (unescape text).takeWhile Char.isDigit = text.takeWhile Char.isDigit := by
  induction text with
  | nil => rfl
  | cons c rest ih =>
    by_cases hc : c = '\\'
    · obtain rfl := hc
      obtain ⟨d, more, h, hd⟩ := unescape_head_backslash rest
      rw [h, List.takeWhile_cons_of_neg (by simp [(escapeHeads_plain hd).1]),
        List.takeWhile_cons_of_neg (by decide)]
    · rw [unescape_cons hc, List.takeWhile_cons, List.takeWhile_cons, ih]

theorem drop_unescape {n : Nat} (hn : n ≤ (text.takeWhile Char.isDigit).length) :
    (unescape text).drop n = unescape (text.drop n) := by
  have hdigits : text.takeWhile Char.isDigit <+: text := List.takeWhile_prefix _
  have htake : text.take n <+: text := List.take_prefix n text
  have hlength : (text.take n).length = n := List.length_take_of_le (hn.trans hdigits.length_le)
  have hslash : '\\' ∉ text.take n := by
    intro hmem
    have hwithin := List.prefix_of_prefix_length_le htake hdigits (hlength.le.trans hn)
    have hdigit := List.mem_takeWhile_imp (hwithin.subset hmem)
    contradiction
  calc (unescape text).drop n
      = (text.take n ++ unescape (text.drop n)).drop n := by
        rw [← unescape_append hslash, List.take_append_drop]
    _ = unescape (text.drop n) := List.drop_left' hlength

theorem readDollar_other (hc : c ∉ dollarHeads) (rest : List Char) :
    readDollar (c :: rest) =
      let digits := ((c :: rest).take 2).takeWhile Char.isDigit
      if digits.isEmpty then .ok (.char '$', c :: rest)
      else .ok (.reference (digitsPart digits), (c :: rest).drop digits.length) := by
  unfold readDollar
  split <;> simp_all [dollarHeads]

theorem readDollar_unescape (text : List Char) :
    Agree Step (readDollar text) (readDollar (unescape text)) := by
  cases text with
  | nil => exact .ok ⟨rfl, rfl⟩
  | cons c rest =>
    by_cases hc : c ∈ dollarHeads
    · have hslash : c ≠ '\\' := by
        rintro rfl
        contradiction
      rw [unescape_cons hslash]
      simp only [dollarHeads, List.mem_cons, List.not_mem_nil, or_false] at hc
      rcases hc with rfl | rfl | hc
      · exact readName_unescape '\x7b' (by decide) (by decide) rest
      · exact readName_unescape '<' (by decide) (by decide) rest
      · rcases hc with rfl | rfl | rfl | rfl <;> exact .ok ⟨rfl, rfl⟩
    · -- Behind a dollar sign a blank means no more than the backslash of its escape.
      obtain ⟨d, more, h, hd⟩ := unescape_head c rest
      have hd : d ∉ dollarHeads := by
        rcases hd with rfl | hd
        · exact hc
        · exact (escapeHeads_plain hd).2.2
      rw [h, readDollar_other hc, readDollar_other hd, ← h]
      simp only [← List.take_takeWhile, takeWhile_unescape]
      split
      · exact .ok ⟨rfl, rfl⟩
      · exact .ok ⟨rfl, drop_unescape (List.length_take_le' _ _)⟩

theorem readEscape_other (h : ∀ more, c :: rest ≠ 'g' :: '\x7b' :: more) :
    readEscape (c :: rest) =
      let digits := (c :: rest).takeWhile Char.isDigit
      if digits.isEmpty then .ok (.char c, rest)
      else .ok (.reference (digitsPart digits), (c :: rest).drop digits.length) := by
  unfold readEscape
  split <;> simp_all

theorem readEscape_unescape (c : Char) (rest : List Char) :
    Agree Step (readEscape (c :: rest)) (readEscape (c :: unescape rest)) := by
  by_cases h : ∃ more, c :: rest = 'g' :: '\x7b' :: more
  · obtain ⟨more, h⟩ := h
    obtain ⟨rfl, rfl⟩ := List.cons.inj h
    rw [unescape_cons (by decide)]
    exact readName_unescape '\x7b' (by decide) (by decide) more
  · have hother : ∀ more, c :: rest ≠ 'g' :: '\x7b' :: more := fun more hmore => h ⟨more, hmore⟩
    have hother' : ∀ more, c :: unescape rest ≠ 'g' :: '\x7b' :: more := by
      intro more hmore
      obtain ⟨rfl, hrest⟩ := List.cons.inj hmore
      cases rest with
      | nil => contradiction
      | cons d rest =>
        obtain ⟨d', more', hhead, hd⟩ := unescape_head d rest
        obtain ⟨rfl, -⟩ := List.cons.inj (hhead.symm.trans hrest)
        rcases hd with rfl | hd
        · exact hother rest rfl
        · contradiction
    rw [readEscape_other hother, readEscape_other hother']
    by_cases hdigit : c.isDigit
    · simp only [List.takeWhile_cons_of_pos hdigit, takeWhile_unescape]
      exact .ok ⟨rfl, drop_unescape (Nat.le_refl _)⟩
    · simp only [List.takeWhile_cons_of_neg hdigit]
      exact .ok ⟨rfl, rfl⟩

/-- What undoing escapes takes at once is read at once. A letter that becomes a blank is a character
both times. -/
theorem readPiece_unescape (c : Char) (rest : List Char) :
    ∃ d more, unescape (c :: rest) = d :: more ∧
      Agree Step (readPiece c rest) (readPiece d more) := by
  by_cases hc : c = '\\'
  · obtain rfl := hc
    cases rest with
    | nil => exact ⟨'\\', [], rfl, .ok ⟨rfl, rfl⟩⟩
    | cons c rest =>
      cases hblank : blankEscape? c with
      | none => exact ⟨'\\', _, unescape_escape hblank rest, readEscape_unescape c rest⟩
      | some d =>
        refine ⟨d, _, unescape_blank hblank rest, ?_⟩
        have hmem := blankEscape?_mem hblank
        simp only [List.mem_cons, Prod.mk.injEq, List.not_mem_nil, or_false] at hmem
        rcases hmem with ⟨rfl, rfl⟩ | ⟨rfl, rfl⟩ | ⟨rfl, rfl⟩ | ⟨rfl, rfl⟩ | ⟨rfl, rfl⟩ <;>
          exact .ok ⟨rfl, rfl⟩
  · refine ⟨c, _, unescape_cons hc rest, ?_⟩
    unfold readPiece
    split
    · exact readDollar_unescape rest
    · exact .ok ⟨rfl, rfl⟩

theorem Agree.map {α β : Type} {R : α → α → Prop} {S : β → β → Prop} {f f' : α → β}
    {x x' : Except TemplateError α} (h : Agree R x x') (hf : ∀ a a', R a a' → S (f a) (f' a')) :
    Agree S (f <$> x) (f' <$> x') := by
  cases h with
  | error => exact .error
  | ok h => exact .ok (hf _ _ h)

theorem pieces_unescape (text : List Char) :
    Agree (fun found found' => found'.map Piece.shape = found.map Piece.shape)
      (pieces text) (pieces (unescape text)) := by
  -- A piece may take any number of characters, so the induction is on the length of what is left.
  induction hlength : text.length using Nat.strong_induction_on generalizing text with
  | _ n ih =>
    cases text with
    | nil => exact .ok rfl
    | cons c rest =>
      obtain ⟨d, more, hmore, hpiece⟩ := readPiece_unescape c rest
      rw [hmore]
      generalize hread : readPiece c rest = read at hpiece
      generalize hread' : readPiece d more = read' at hpiece
      cases hpiece with
      | error =>
        rw [pieces_cons, pieces_cons, hread, hread']
        exact .error
      | @ok read read' hstep =>
        obtain ⟨hshape, hrest⟩ := hstep
        have hshorter : read.2.length < n := by
          have := readPiece_length hread
          simp only [List.length_cons] at hlength
          omega
        rw [pieces_of_readPiece hread, pieces_of_readPiece hread', hrest]
        refine (ih _ hshorter read.2 rfl).map fun found found' hfound => ?_
        rw [List.map_cons, List.map_cons, hshape, hfound]

theorem map_shape_map_shape (t : Template) :
    (t.map Part.shape).map Part.shape = t.map Part.shape := by
  rw [List.map_map]
  apply List.map_congr_left
  intro part _
  cases part <;> rfl

theorem map_shape_consPiece (piece : Piece) (t : Template) :
    (consPiece piece t).map Part.shape =
      (consPiece piece.shape (t.map Part.shape)).map Part.shape := by
  cases piece with
  | reference part => exact (map_shape_map_shape (part :: t)).symm
  | char c =>
    cases t with
    | nil => rfl
    | cons part parts =>
      have hparts := (map_shape_map_shape parts).symm
      cases part with
      | literal text => exact congrArg (.literal [] :: ·) hparts
      | number | name | whole | before | after =>
        exact congrArg (fun parts => .literal [] :: _ :: parts) hparts

theorem foldr_consPiece_shape {found found' : List Piece}
    (h : found'.map Piece.shape = found.map Piece.shape) :
    (found'.foldr consPiece []).map Part.shape = (found.foldr consPiece []).map Part.shape := by
  induction found generalizing found' with
  | nil =>
    obtain rfl := List.map_eq_nil_iff.1 h
    rfl
  | cons piece found ih =>
    obtain ⟨piece', found', rfl, hpiece, hfound⟩ := List.map_eq_cons_iff.1 h
    rw [List.foldr_cons, List.foldr_cons, map_shape_consPiece, hpiece, ih hfound,
      ← map_shape_consPiece]

theorem parse_unescape (text : List Char) :
    Agree (fun t t' => t'.map Part.shape = t.map Part.shape) (parse text)
      (parse (unescape text)) := by
  rw [parse_eq, parse_eq]
  exact (pieces_unescape text).map fun _ _ => foldr_consPiece_shape

theorem Agree.exists_ok_iff {α : Type} {R : α → α → Prop} {x x' : Except TemplateError α}
    (h : Agree R x x') : (∃ a, x = .ok a) ↔ ∃ a, x' = .ok a := by
  cases h with
  | error => simp
  | ok => simp

theorem Agree.of_ok {α : Type} {R : α → α → Prop} {a a' : α}
    (h : Agree R (.ok a) (.ok a')) : R a a' := by
  cases h with
  | ok h => exact h

/-- A template can be read with its escapes of white space undone exactly if it can be read as it
is. Both readings have as many parts, of the same kinds and with the same numbers. Backslashes in
even runs are no escapes of white space. -/
theorem unescape_in_step (text : List Char) :
    ((∃ t, parse text = .ok t) ↔ ∃ t, parse (unescape text) = .ok t) ∧
    (∀ t t', parse text = .ok t → parse (unescape text) = .ok t' →
      t'.map Part.shape = t.map Part.shape) ∧
    (EvenRuns text → unescape text = text) := by
  refine ⟨(parse_unescape text).exists_ok_iff, fun t t' ht ht' => ?_, EvenRuns.unescape_eq⟩
  have h := parse_unescape text
  rw [ht, ht'] at h
  exact h.of_ok

theorem unescape_in_step_blanks :
    parse "$\x7ba\\n\x7d\\t\\1".toList =
      .ok [.name ['a', '\\', 'n'], .literal ['t'], .number 1] ∧
    parse (unescape "$\x7ba\\n\x7d\\t\\1".toList) =
      .ok [.name ['a', '\n'], .literal ['\t'], .number 1] ∧
    [.name ['a', '\n'], .literal ['\t'], .number 1].map Part.shape =
      [.name ['a', '\\', 'n'], .literal ['t'], .number 1].map Part.shape ∧
    EvenRuns ['$', '1', '\\', '\\', 'n'] ∧
    unescape ['$', '1', '\\', '\\', 'n'] = ['$', '1', '\\', '\\', 'n'] := by
  have hraw : parse "$\x7ba\\n\x7d\\t\\1".toList =
      .ok [.name ['a', '\\', 'n'], .literal ['t'], .number 1] := by rfl
  have hblanks : parse (unescape "$\x7ba\\n\x7d\\t\\1".toList) =
      .ok [.name ['a', '\n'], .literal ['\t'], .number 1] := by rfl
  have heven : EvenRuns ['$', '1', '\\', '\\', 'n'] :=
    (evenRuns_cons (by decide)).2 ((evenRuns_cons (by decide)).2
      (evenRuns_pair.2 ((evenRuns_cons (by decide)).2 evenRuns_nil)))
  exact ⟨hraw, hblanks, (unescape_in_step _).2.1 _ _ hraw hblanks, heven,
    (unescape_in_step _).2.2 heven⟩

end Template

end RegexGateway
