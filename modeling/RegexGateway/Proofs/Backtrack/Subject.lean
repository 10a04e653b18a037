import RegexGateway.Backtrack.Machine
import RegexGateway.Proofs.Regex.Search
import RegexGateway.Proofs.Text.Bytes

namespace RegexGateway

/-- A match that a text can be cut at, with so many groups. -/
structure Match.Cuts (m : Match) (text : List Char) (count : Nat) : Prop where
  span : m.span.Cuts text
  groups : ∀ g, some g ∈ m.groups → g.Cuts text
  groups_length : m.groups.length = count

theorem Span.Within.cuts {s : Span} {text : List Char} (h : s.Within text.length) {f : Nat → Nat}
    (hf : ∀ i ≤ text.length, f i = Text.byteOffset text i) : (s.map f).Cuts text := by
  have hstart := hf s.start (Nat.le_trans h.start_le_stop h.stop_le)
  have hstop := hf s.stop h.stop_le
  simp only [Span.map, hstart, hstop]
  exact ⟨Text.byteOffset_mono text h.start_le_stop, Text.isBoundary_byteOffset text _,
    Text.isBoundary_byteOffset text _⟩

theorem Match.Within.cuts {m : Match} {text : List Char} {count : Nat}
    (h : m.Within text.length count) {f : Nat → Nat}
    (hf : ∀ i ≤ text.length, f i = Text.byteOffset text i) : (m.map f).Cuts text count where
  span := h.span.cuts hf
  groups g hg := by
    obtain ⟨group, hgroup, hmap⟩ := List.mem_map.1 hg
    obtain ⟨span, rfl, rfl⟩ := Option.map_eq_some_iff.1 hmap
    exact (h.groups span hgroup).cuts hf
  groups_length := by simp [Match.map, h.groups_length]

namespace Backtrack

namespace Subject

variable {text : List Char} {start pos pos' : Nat}

theorem offsets_getElem? {i n : Nat} (h : (ofText text start).offsets[i]? = some n) :
    i ≤ text.length ∧ n = Text.byteOffset text i := by
  have hget : (Text.byteOffsets 0 text)[i]? = some n := by simpa [ofText] using h
  have hlt : i < (Text.byteOffsets 0 text).length := (List.getElem?_eq_some_iff.1 hget).1
  rw [Text.length_byteOffsets] at hlt
  have hle : i ≤ text.length := Nat.lt_succ_iff.1 hlt
  rw [Text.getElem?_byteOffsets 0 text i hle, Nat.zero_add] at hget
  exact ⟨hle, (Option.some.inj hget).symm⟩

theorem index?_eq_some {i : Nat} (h : (ofText text start).index? pos = some i) :
    i ≤ text.length ∧ pos = Text.byteOffset text i := by
  simp only [index?, Option.bind_eq_bind, Option.bind_eq_some_iff] at h
  obtain ⟨count, -, hcount⟩ := h
  split at hcount
  · rename_i hoffset
    obtain rfl := Option.some.inj hcount
    exact offsets_getElem? hoffset
  · contradiction

theorem index?_of_isBoundary (start : Nat) (h : Text.isBoundary text pos) :
    (ofText text start).index? pos = some (Text.charIndex text pos) := by
  have hcount : (ofText text start).counts[pos]? = some (Text.charIndex text pos) := by
    simpa [ofText] using Text.getElem?_charCounts 0 text pos (Text.isBoundary_le h)
  have hoffset : (ofText text start).offsets[Text.charIndex text pos]? = some pos := by
    have hget := Text.getElem?_byteOffsets 0 text _ (Text.charIndex_le_length text pos)
    rw [Text.byteOffset_charIndex h, Nat.zero_add] at hget
    simpa [ofText] using hget
  simp [index?, hcount, hoffset]

theorem counts_size : (ofText text start).counts.size = Text.byteLength text + 1 := by
  simp [ofText, Text.length_charCounts]

theorem exists_char? (start : Nat) (hpos : Text.isBoundary text pos)
    (hlt : pos < Text.byteLength text) :
    ∃ c, (ofText text start).char? pos = some c := by
  have hindex := index?_of_isBoundary start hpos
  obtain ⟨before, after, rfl, rfl⟩ := Text.isBoundary_iff.1 hpos
  cases after with
  | nil => simp at hlt
  | cons c after =>
    rw [Text.charIndex_append] at hindex
    have htext : (ofText (before ++ c :: after) start).text[before.length]? = some c := by
      simp [ofText]
    refine ⟨c, ?_⟩
    rw [char?, hindex]
    exact htext

theorem char?_eq_some {c : Char} (h : (ofText text start).char? pos = some c) :
    Text.isBoundary text (pos + c.utf8Size) := by
  simp only [char?, Option.bind_eq_bind, Option.bind_eq_some_iff] at h
  obtain ⟨i, hi, hc⟩ := h
  obtain ⟨-, rfl⟩ := index?_eq_some hi
  have hc' : text[i]? = some c := by simpa [ofText] using hc
  rw [← Text.byteOffset_succ hc']
  exact Text.isBoundary_byteOffset text _

theorem after?_eq_some {word : List Char} (hpos : Text.isBoundary text pos)
    (h : (ofText text start).after? word pos = some pos') :
    Text.isBoundary text pos' ∧ pos ≤ pos' := by
  induction word generalizing pos with
  | nil =>
    obtain rfl := Option.some.inj h
    exact ⟨hpos, Nat.le_refl pos⟩
  | cons c rest ih =>
    rw [after?] at h
    split at h
    · rename_i hc
      obtain ⟨hbound, hle⟩ := ih (char?_eq_some hc) h
      exact ⟨hbound, by omega⟩
    · contradiction

theorem pastAny?_eq_some {newline : Bool} (hpos : Text.isBoundary text pos)
    (h : (ofText text start).pastAny? newline pos = some pos') :
    Text.isBoundary text pos' ∧ pos ≤ pos' := by
  unfold pastAny? at h
  split at h
  · rename_i c hc
    split at h
    · obtain rfl := Option.some.inj h
      exact ⟨char?_eq_some hc, Nat.le_add_right _ _⟩
    · contradiction
  · rename_i hc
    split at h
    · -- Between characters none starts at the end of the text alone, where nothing is passed over.
      rename_i hlt
      rw [counts_size] at hlt
      obtain ⟨c, hsome⟩ := exists_char? start hpos (by omega)
      simp [hsome] at hc
    · contradiction

theorem back?_eq_some {count : Nat} (hpos : Text.isBoundary text pos)
    (h : (ofText text start).back? count pos = some pos') :
    Text.isBoundary text pos' ∧ (count = 0 → pos' = pos) := by
  unfold back? at h
  split at h
  · obtain rfl := Option.some.inj h
    exact ⟨hpos, fun _ => rfl⟩
  · rename_i hcount
    simp only [Option.bind_eq_bind, Option.bind_eq_some_iff] at h
    obtain ⟨before, -, hback⟩ := h
    split at hback
    · obtain ⟨-, rfl⟩ := offsets_getElem? hback
      exact ⟨Text.isBoundary_byteOffset text _, fun h0 => absurd h0 hcount⟩
    · contradiction

theorem matchAt?_eq_some {program : Regex.Program} {m : Match}
    (h : (ofText text start).matchAt? program pos = some m) :
    m.Cuts text program.groupNames.length ∧ pos = m.span.start := by
  simp only [matchAt?, Option.bind_eq_bind, Option.bind_eq_some_iff, Option.pure_def] at h
  obtain ⟨i, hi, found, hfound, hm⟩ := h
  obtain rfl := Option.some.inj hm
  obtain ⟨hle, rfl⟩ := index?_eq_some hi
  have hsize : (ofText text start).text.size = text.length := by simp [ofText]
  obtain ⟨hstart, hwithin⟩ := Regex.Program.matchAt?_within (hsize ▸ hle) hfound
  have hoffset : ∀ j ≤ text.length,
      (ofText text start).offsets.getD j 0 = Text.byteOffset text j := by
    intro j hj
    have hget : (ofText text start).offsets[j]? = some (0 + Text.byteOffset text j) := by
      simpa [ofText] using Text.getElem?_byteOffsets 0 text j hj
    rw [Array.getD_eq_getD_getElem?, hget, Option.getD_some, Nat.zero_add]
  rw [hsize] at hwithin
  refine ⟨hwithin.cuts hoffset, ?_⟩
  simp only [Match.map, Span.map, hstart, hoffset i hle]

end Subject

end Backtrack

end RegexGateway
