import Mathlib.Data.List.TakeWhile
import RegexGateway.Pattern.Template
import RegexGateway.Proofs.Except

namespace RegexGateway

namespace Template

variable {opening closing c : Char} {name text rest : List Char} {piece : Piece}

theorem readName_append (opening : Char) (hname : closing ∉ name) (rest : List Char) :
    readName opening closing (name ++ closing :: rest) =
      if name.isEmpty then .error ⟨[opening, closing]⟩
      else .ok (.reference (namePart name), rest) := by
  have hmatch : ∀ c ∈ name, decide (c ≠ closing) := by
    intro c hc
    simpa using fun h : c = closing => hname (h ▸ hc)
  have htake : (name ++ closing :: rest).takeWhile (· ≠ closing) = name := by
    rw [List.takeWhile_append_of_pos hmatch, List.takeWhile_cons_of_neg (by simp), List.append_nil]
  simp only [readName, htake, List.drop_left]

theorem readName_unclosed (opening : Char) (htext : closing ∉ text) :
    readName opening closing text = .error ⟨opening :: text⟩ := by
  have htake : text.takeWhile (· ≠ closing) = text := by
    apply List.takeWhile_eq_self_iff.2
    intro c hc
    simpa using fun h : c = closing => htext (h ▸ hc)
  simp only [readName, htake, List.drop_length]

theorem readName_eq_ok (h : readName opening closing text = .ok (piece, rest)) :
    ∃ name, text = name ++ closing :: rest ∧ name ≠ [] ∧ closing ∉ name ∧
      piece = .reference (namePart name) := by
  by_cases hclosing : closing ∈ text
  · obtain ⟨name, behind, rfl, hname⟩ := List.eq_append_cons_of_mem hclosing
    rw [readName_append opening hname] at h
    split at h
    · contradiction
    · rename_i hne
      obtain ⟨rfl, rfl⟩ := Prod.mk.inj (Except.ok.inj h)
      exact ⟨name, rfl, by simpa using hne, hname, rfl⟩
  · rw [readName_unclosed opening hclosing] at h
    contradiction

def readPiece (c : Char) (rest : List Char) : Except TemplateError (Piece × List Char) :=
  if c = '$' then readDollar rest
  else if c = '\\' then readEscape rest
  else .ok (.char c, rest)

theorem readDollar_length (h : readDollar text = .ok (piece, rest)) :
    rest.length ≤ text.length := by
  unfold readDollar at h
  split at h
  case h_5 | h_6 =>
    obtain ⟨name, rfl, -⟩ := readName_eq_ok h
    simp only [List.length_cons, List.length_append]
    omega
  case h_7 =>
    simp only at h
    split at h <;> obtain ⟨rfl, rfl⟩ := Prod.mk.inj (Except.ok.inj h) <;> simp
  all_goals
    obtain ⟨rfl, rfl⟩ := Prod.mk.inj (Except.ok.inj h)
    simp

theorem readEscape_length (h : readEscape text = .ok (piece, rest)) :
    rest.length ≤ text.length := by
  unfold readEscape at h
  split at h
  case h_1 =>
    obtain ⟨rfl, rfl⟩ := Prod.mk.inj (Except.ok.inj h)
    simp
  case h_2 =>
    obtain ⟨name, rfl, -⟩ := readName_eq_ok h
    simp only [List.length_cons, List.length_append]
    omega
  case h_3 =>
    simp only at h
    split at h <;> obtain ⟨rfl, rfl⟩ := Prod.mk.inj (Except.ok.inj h) <;> simp

theorem readPiece_length (h : readPiece c text = .ok (piece, rest)) :
    rest.length ≤ text.length := by
  unfold readPiece at h
  split at h
  · exact readDollar_length h
  · split at h
    · exact readEscape_length h
    · obtain ⟨-, rfl⟩ := Prod.mk.inj (Except.ok.inj h)
      exact Nat.le_refl _

theorem readPieces_succ (fuel : Nat) (c : Char) (rest : List Char) :
    readPieces (fuel + 1) (c :: rest) = do
      let (piece, behind) ← readPiece c rest
      return piece :: (← readPieces fuel behind) := by
  rw [readPieces, readPiece]
  split
  · rfl
  · split <;> rfl

def pieces (text : List Char) : Except TemplateError (List Piece) := readPieces text.length text

theorem readPieces_eq {fuel fuel' : Nat} (h : text.length ≤ fuel) (h' : text.length ≤ fuel') :
    readPieces fuel text = readPieces fuel' text := by
  induction fuel generalizing fuel' text with
  | zero =>
    obtain rfl := List.eq_nil_of_length_eq_zero (Nat.le_zero.1 h)
    cases fuel' <;> rfl
  | succ fuel ih =>
    cases text with
    | nil => cases fuel' <;> rfl
    | cons c text =>
      obtain ⟨fuel', rfl⟩ := Nat.exists_eq_add_one.2 (Nat.lt_of_lt_of_le (Nat.succ_pos _) h')
      rw [readPieces_succ, readPieces_succ]
      cases hpiece : readPiece c text with
      | error e => rfl
      | ok read =>
        have hlength : read.2.length ≤ text.length := readPiece_length hpiece
        simp only [List.length_cons] at h h'
        have hrest : readPieces fuel read.2 = readPieces fuel' read.2 := ih (by omega) (by omega)
        simp only [bind, Except.bind, hrest]

theorem pieces_cons (c : Char) (text : List Char) :
    pieces (c :: text) = do
      let (piece, rest) ← readPiece c text
      return piece :: (← pieces rest) := by
  rw [pieces, List.length_cons, readPieces_succ]
  cases hpiece : readPiece c text with
  | error e => rfl
  | ok read =>
    have hlength : read.2.length ≤ text.length := readPiece_length hpiece
    have hrest : readPieces text.length read.2 = pieces read.2 :=
      readPieces_eq hlength (Nat.le_refl _)
    simp only [bind, Except.bind, hrest]

theorem pieces_of_readPiece (h : readPiece c text = .ok (piece, rest)) :
    pieces (c :: text) = (piece :: ·) <$> pieces rest := by
  rw [pieces_cons, h]
  rfl

theorem parse_eq (text : List Char) : parse text = (·.foldr consPiece []) <$> pieces text := rfl

end Template

end RegexGateway
