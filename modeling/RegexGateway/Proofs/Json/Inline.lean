import RegexGateway.Proofs.Json.Reading
import RegexGateway.Proofs.Text.Lines

namespace RegexGateway

open Text

theorem oneLine_digits {text : List Char} (h : ∀ c ∈ text, c.isDigit) : OneLine text := by
  intro c hc
  have hdigit := h c hc
  simp only [Char.isDigit, Bool.and_eq_true, decide_eq_true_eq, ge_iff_le,
    UInt32.le_iff_toNat_le] at hdigit
  exact Nat.le_trans (by decide) hdigit.1

theorem oneLine_toDigits (n : Nat) : OneLine (Nat.toDigits 10 n) :=
  oneLine_digits fun _ hc => Nat.isDigit_of_mem_toDigits (by decide) (by decide) hc

theorem oneLine_int (n : Int) : OneLine (toString n).toList := by
  have hdigits := oneLine_digits (Json.Numeral.plain_ofInt n).whole_digits
  rw [← Json.Numeral.chars_ofInt, Json.Numeral.chars, oneLine_append, oneLine_append]
  refine ⟨⟨?_, hdigits⟩, by simp [Json.Numeral.ofInt]⟩
  split <;> simp

namespace Decimal

theorem oneLine_digitText (digits : List Nat) : OneLine (digitText digits).toList := by
  simp only [digitText, String.toList_join, List.flatMap_map, Nat.toString_eq_repr,
    Nat.toList_repr]
  exact .flatMap fun n _ => oneLine_toDigits n

theorem Digits.oneLine_text (f : Format) (d : Digits) : OneLine (d.text f).toList := by
  simp only [text]
  repeat' split
  all_goals simp [oneLine_digitText, oneLine_toDigits]

theorem Format.oneLine_text (f : Format) (x : Float) : OneLine (f.text x).toList := by
  have hdigits := (Digits.ofFloat x).oneLine_text f
  simp only [text]
  split
  · split <;> split <;> simp
  · split <;> simp [hdigits]

end Decimal

namespace Json

theorem oneLine_escapeChar (c : Char) : OneLine (escapeChar c) := by
  have hhex : ∀ n < 16, 32 ≤ (hexDigit n).toNat := by decide
  unfold escapeChar
  split
  case h_8 =>
    split
    · have hhigh := hhex (c.toNat / 16) (by omega)
      have hlow := hhex (c.toNat % 16) (by omega)
      simp [hhigh, hlow]
    · simpa using ‹¬ c.toNat < 32›
  all_goals simp

theorem oneLine_quote (s : String) : OneLine (quote s) := by
  have hescape : OneLine (escape s.toList) := .flatMap fun c _ => oneLine_escapeChar c
  simp [quote, hescape]

theorem oneLine_joined (separator : Char) {texts : List (List Char)}
    (hseparator : 32 ≤ separator.toNat) (h : ∀ text ∈ texts, OneLine text) :
    OneLine (joined [separator] texts) := by
  cases texts with
  | nil => exact Text.oneLine_nil
  | cons text texts =>
    obtain ⟨htext, htexts⟩ := List.forall_mem_cons.1 h
    rw [joined_cons, oneLine_append]
    exact ⟨htext, .flatMap fun text htext => oneLine_cons.2 ⟨hseparator, htexts text htext⟩⟩

theorem oneLine_scalarText (j : Json) : OneLine j.scalarText := by
  cases j with
  | null | arr | obj => simp [scalarText]
  | bool b => cases b <;> simp [scalarText]
  | int n => exact oneLine_int n
  | float x =>
    have hfloat := Decimal.Format.oneLine_text floatFormat x
    simp only [scalarText]
    split
    · exact hfloat
    · simp
  | str s => exact oneLine_quote s

mutual

theorem oneLine_compactChars (j : Json) : OneLine j.compactChars := by
  match j with
  | arr items =>
    have hitems := oneLine_joined ',' (by decide) (oneLine_compactItems items)
    simp [compactChars, hitems]
  | obj fields =>
    have hfields := oneLine_joined ',' (by decide) (oneLine_compactFields fields)
    simp [compactChars, hfields]
  | null | bool b | int n | float x | str s =>
    rw [compactChars]
    · exact oneLine_scalarText _
    · nofun
    · nofun

theorem oneLine_compactItems (items : List Json) : ∀ text ∈ compactItems items, OneLine text := by
  match items with
  | [] => nofun
  | j :: rest =>
    exact List.forall_mem_cons.2 ⟨oneLine_compactChars j, oneLine_compactItems rest⟩

theorem oneLine_compactFields (fields : List (String × Json)) :
    ∀ text ∈ compactFields fields, OneLine text := by
  match fields with
  | [] => nofun
  | (k, j) :: rest =>
    have hfield : OneLine (quote k ++ ':' :: j.compactChars) := by
      simp [oneLine_quote, oneLine_compactChars j]
    exact List.forall_mem_cons.2 ⟨hfield, oneLine_compactFields rest⟩

end

end Json

end RegexGateway
