import Mathlib.Data.List.TakeWhile
import RegexGateway.Text.Lines

namespace RegexGateway

namespace Text

/-- A text without control characters of ASCII, so without the end of a line. -/
def OneLine (text : List Char) : Prop := ∀ c ∈ text, 32 ≤ c.toNat

@[simp] theorem oneLine_nil : OneLine [] := nofun

@[simp] theorem oneLine_cons {c : Char} {text : List Char} :
    OneLine (c :: text) ↔ 32 ≤ c.toNat ∧ OneLine text :=
  List.forall_mem_cons

@[simp] theorem oneLine_append {a b : List Char} : OneLine (a ++ b) ↔ OneLine a ∧ OneLine b :=
  List.forall_mem_append

theorem OneLine.flatMap {α : Type} {f : α → List Char} {as : List α}
    (h : ∀ a ∈ as, OneLine (f a)) : OneLine (as.flatMap f) := by
  intro c hc
  obtain ⟨a, ha, hc⟩ := List.mem_flatMap.1 hc
  exact h a ha c hc

theorem lines_ne_nil {text : List Char} (h : text ≠ []) : lines text ≠ [] := by
  fun_cases lines text <;> simp_all

theorem lines_cons {c : Char} {text line : List Char} {more : List (List Char)} (hc : c ≠ '\n')
    (hreturn : c = '\r' → text.head? ≠ some '\n') (h : lines text = line :: more) :
    lines (c :: text) = (c :: line) :: more := by
  rw [lines, h]
  · exact hc
  · rintro rest rfl rfl
    exact hreturn rfl rfl

theorem lines_append_newline {line : List Char} (h : OneLine line) (rest : List Char) :
    lines (line ++ '\n' :: rest) = line :: lines rest := by
  induction line with
  | nil => rfl
  | cons c line ih =>
    obtain ⟨hc, hline⟩ := oneLine_cons.1 h
    have hnewline : c ≠ '\n' := by
      rintro rfl
      exact absurd hc (by decide)
    have hreturn : c ≠ '\r' := by
      rintro rfl
      exact absurd hc (by decide)
    exact lines_cons hnewline (absurd · hreturn) (ih hline)

theorem lines_flatMap {texts : List (List Char)} (h : ∀ text ∈ texts, OneLine text) :
    lines (texts.flatMap (· ++ ['\n'])) = texts := by
  induction texts with
  | nil => rfl
  | cons text texts ih =>
    obtain ⟨htext, htexts⟩ := List.forall_mem_cons.1 h
    rw [List.flatMap_cons, List.append_assoc, List.singleton_append, lines_append_newline htext,
      ih htexts]

/-- What stands behind the end of a line does not change the lines before it. -/
theorem lines_append (before after : List Char) :
    lines (before ++ '\n' :: after) = lines (before ++ ['\n']) ++ lines after := by
  induction before using lines.induct with
  | case1 => rfl
  | case2 rest ih => simp [lines, ih]
  | case3 rest ih => simp [lines, ih]
  | case4 c rest hc hreturn _ ih | case5 c rest hc hreturn _ _ _ ih =>
    -- A carriage return at the end of `before` is a part of the end of its line.
    by_cases hend : c = '\r' ∧ rest = []
    · obtain ⟨rfl, rfl⟩ := hend
      rfl
    · have hhead : ∀ behind, c = '\r' → (rest ++ '\n' :: behind).head? ≠ some '\n' := by
        intro behind hcr
        cases rest with
        | nil => exact absurd ⟨hcr, rfl⟩ hend
        | cons d rest =>
          have hd : d ≠ '\n' := by
            rintro rfl
            exact hreturn rest hcr rfl
          simpa using hd
      have hne : rest ++ ['\n'] ≠ [] := by simp
      obtain ⟨line, more, hlines⟩ := List.exists_cons_of_ne_nil (lines_ne_nil hne)
      rw [hlines] at ih
      rw [List.cons_append, List.cons_append, lines_cons hc (hhead after) ih,
        lines_cons hc (hhead []) hlines]
      rfl

theorem trim_eq_nil {line : List Char} : trim line = [] ↔ ∀ c ∈ line, isBlank c := by
  simp only [trim, List.reverse_eq_nil_iff, List.dropWhile_eq_nil_iff, List.mem_reverse]
  constructor
  · intro h c hc
    rw [← List.takeWhile_append_dropWhile (p := isBlank) (l := line)] at hc
    rcases List.mem_append.1 hc with hc | hc
    · exact List.mem_takeWhile_imp hc
    · exact h c hc
  · intro h c hc
    exact h c (List.dropWhile_subset _ hc)

/-- The lines of a text that have something other than white space in them. -/
def filledLines (text : List Char) : List (List Char) :=
  (lines text).filter fun line => line.any fun c => !isBlank c

theorem filledLines_eq (text : List Char) :
    filledLines text = (lines text).filter fun line => !(trim line).isEmpty := by
  have hfilled : ∀ line, (line.any fun c => !isBlank c) = !(trim line).isEmpty := by
    intro line
    rw [Bool.eq_iff_iff]
    simp [trim_eq_nil]
  simp only [filledLines, hfilled]

end Text

end RegexGateway
