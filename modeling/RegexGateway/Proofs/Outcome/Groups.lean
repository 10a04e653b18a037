import Mathlib.Data.List.Nodup
import Mathlib.Data.List.ReduceOption
import RegexGateway.Pattern.Scan
import RegexGateway.Proofs.Json.Object

namespace RegexGateway

namespace Groups

open Json

def numbers (count : Nat) : List String := (List.range count).map fun i => toString (i + 1)

/-- Names of groups of which none is the number of a group. -/
def Clear (names : List (Option String)) : Prop := ∀ key ∈ numbers names.length, some key ∉ names

instance (names : List (Option String)) : Decidable (Clear names) :=
  inferInstanceAs (Decidable (∀ key ∈ numbers names.length, some key ∉ names))

/-- Groups that show texts under numbers and names. Of a key that is a number and a name, the number
counts in the list and the name in an object. -/
structure Shows (groups : Groups) (names : List (Option String))
    (texts : List (Option (List Char))) : Prop where
  keys : groups.map Prod.fst = numbers names.length ++ names.reduceOption
  nodup_iff : (groups.map Prod.fst).Nodup ↔ Clear names
  numbered : ∀ i < names.length, groups.get? (toString (i + 1)) = texts[i]?
  named : ∀ (i : Nat) (name : String), names[i]? = some (some name) → name ∉ numbers names.length →
    groups.get? name = texts[i]?
  read_back : ∃ read, codec.ofJson (codec.encode groups).sorted = .ok read ∧
    codec.ofString (codec.encode groups).sorted.compact = .ok read ∧
    (∀ key, read.get? key = groups.reverse.lookup key) ∧
    (Clear names → ∀ key, read.get? key = groups.get? key)

theorem toString_inj {m n : Nat} (h : toString m = toString n) : m = n := by
  have hdigits : Nat.toDigits 10 m = Nat.toDigits 10 n := by
    rw [← Nat.toList_repr, ← Nat.toList_repr]
    exact congrArg String.toList h
  have hvalue (n : Nat) : Nat.ofDigitChars 10 (Nat.toDigits 10 n) 0 = n :=
    Nat.ofDigitChars_toDigits (by decide) (by decide)
  rw [← hvalue m, hdigits, hvalue]

theorem nodup_numbers (count : Nat) : (numbers count).Nodup := by
  have hinj : Function.Injective fun i => toString (i + 1) := fun i j hij =>
    Nat.succ.inj (toString_inj hij)
  exact List.nodup_range.map hinj

variable {names : List (Option String)} {texts : List (Option (List Char))}

def ofNumbers (first : Nat) (texts : List (Option (List Char))) : Groups :=
  (texts.zipIdx first).map fun (t, n) => (toString n, t)

def ofNames (names : List (Option String)) (texts : List (Option (List Char))) : Groups :=
  (names.zip texts).filterMap fun (name, t) => name.map fun s => (s, t)

theorem get?_ofNumbers (first i : Nat) (texts : List (Option (List Char))) :
    (ofNumbers first texts).get? (toString (first + i)) = texts[i]? := by
  induction texts generalizing first i with
  | nil => rfl
  | cons t rest ih =>
    simp only [get?, ofNumbers, List.zipIdx_cons, List.map_cons, lookup_cons] at ih ⊢
    cases i with
    | zero => simp
    | succ i =>
      have hother : toString (first + (i + 1)) ≠ toString first := by
        intro heq
        have := toString_inj heq
        omega
      rw [if_neg hother, List.getElem?_cons_succ, ← ih (first + 1) i, Nat.add_assoc, Nat.add_comm 1]

theorem keys_ofNumbers (texts : List (Option (List Char))) :
    (ofNumbers 1 texts).map Prod.fst = numbers texts.length := by
  apply List.ext_getElem
  · simp [ofNumbers, numbers]
  · intro i _ _
    simp [ofNumbers, numbers, Nat.add_comm]

theorem ofNames_cons (name : Option String) (t : Option (List Char)) :
    ofNames (name :: names) (t :: texts) =
      name.elim (ofNames names texts) fun s => (s, t) :: ofNames names texts := by
  cases name <;> rfl

theorem keys_ofNames (h : texts.length = names.length) :
    (ofNames names texts).map Prod.fst = names.reduceOption := by
  induction names generalizing texts with
  | nil => rfl
  | cons name rest ih =>
    obtain ⟨t, texts, rfl⟩ := List.exists_of_length_succ texts h
    have hrest := @ih texts (Nat.succ.inj h)
    cases name with
    | none => simpa [ofNames_cons] using hrest
    | some s => simpa [ofNames_cons] using hrest

theorem get?_ofNames (h : names.reduceOption.Nodup) (hlength : texts.length = names.length)
    {i : Nat} {name : String} (hname : names[i]? = some (some name)) :
    (ofNames names texts).get? name = texts[i]? := by
  induction names generalizing i texts with
  | nil => contradiction
  | cons first rest ih =>
    obtain ⟨t, texts, rfl⟩ := List.exists_of_length_succ texts hlength
    have hlength' : texts.length = rest.length := Nat.succ.inj hlength
    rw [ofNames_cons]
    cases first with
    | none =>
      cases i with
      | zero => simp at hname
      | succ i => exact ih h hlength' hname
    | some s =>
      obtain ⟨hs, hrest⟩ := List.nodup_cons.1 h
      simp only [get?, Option.elim, lookup_cons]
      cases i with
      | zero =>
        obtain rfl : s = name := by simpa using hname
        simp
      | succ i =>
        have hmem : name ∈ rest.reduceOption :=
          List.reduceOption_mem_iff.2 (List.mem_of_getElem? hname)
        have hother : name ≠ s := fun heq => hs (heq ▸ hmem)
        rw [if_neg hother]
        exact ih hrest hlength' hname

abbrev textCodec : Codec (Option (List Char)) := Codec.text.nullable

theorem encode_injective : Function.Injective textCodec.encode := by
  intro t t' h
  cases t <;> cases t' <;>
    simp_all [textCodec, Codec.nullable, Codec.text, Codec.along, Codec.string, String.ofList_inj]

theorem sorted_encode (groups : Groups) :
    (codec.encode groups).sorted =
      .obj (sortFields (groups.map fun f => (f.1, textCodec.encode f.2))) := by
  have htext (t : Option (List Char)) : (textCodec.encode t).sorted = textCodec.encode t := by
    cases t <;> simp [textCodec, Codec.nullable, Codec.text, Codec.along, Codec.string, sorted]
  simp only [codec, Codec.fields, sorted, sortedFields_eq_map, List.map_map, Function.comp_def,
    htext]

/-- Groups that are read back from an object have each key with the last of its texts. -/
theorem carries_sorted (groups : Groups) :
    ∃ read, codec.Carries Json.sorted 1 groups read ∧
      ∀ key, read.get? key = groups.reverse.lookup key := by
  obtain ⟨read, -, hread⟩ := Codec.exists_eq_map_of_subset
    (sortFields_subset (groups.map fun f => (f.1, textCodec.encode f.2)))
  have htexts : ∀ f ∈ read, textCodec.Carries (fun j => j) 0 f.2 f.2 := fun f _ =>
    Codec.carries_nullable .id (fun text _ => Codec.carries_text .id text) fun _ _ h => nomatch h
  refine ⟨read, ⟨?_, fun source => ?_⟩, fun key => ?_⟩
  · rw [sorted_encode, hread, Readable, readableFields_iff]
    refine ⟨Nat.zero_lt_one, ?_⟩
    intro f hf
    obtain ⟨g, hg, rfl⟩ := List.mem_map.1 hf
    exact (htexts g hg).readable
  · rw [sorted_encode, hread]
    simpa [codec, Codec.fields, node] using Codec.decodeFields_nodeFields source htexts
  · have hlookup := lookup_sortFields key (groups.map fun f => (f.1, textCodec.encode f.2))
    rw [hread, lookup_map, field?, ← List.map_reverse, lookup_map] at hlookup
    exact Option.map_injective encode_injective hlookup

theorem shows_texts (h : names.reduceOption.Nodup) (hlength : texts.length = names.length) :
    Shows (ofNumbers 1 texts ++ ofNames names texts) names texts := by
  have hkeys : (ofNumbers 1 texts ++ ofNames names texts).map Prod.fst =
      numbers names.length ++ names.reduceOption := by
    rw [List.map_append, keys_ofNumbers, keys_ofNames hlength, hlength]
  have hnodup : ((ofNumbers 1 texts ++ ofNames names texts).map Prod.fst).Nodup ↔ Clear names := by
    rw [hkeys, List.nodup_append]
    constructor
    · rintro ⟨-, -, hne⟩ key hkey hname
      exact hne key hkey key (List.reduceOption_mem_iff.2 hname) rfl
    · intro hclear
      refine ⟨nodup_numbers _, h, ?_⟩
      rintro key hkey _ hname rfl
      exact hclear key hkey (List.reduceOption_mem_iff.1 hname)
  refine ⟨hkeys, hnodup, ?_, ?_, ?_⟩
  · intro i hi
    have hnumber : (ofNumbers 1 texts).lookup (toString (i + 1)) = texts[i]? := by
      rw [Nat.add_comm i 1]
      exact get?_ofNumbers 1 i texts
    rw [get?, List.lookup_append, hnumber, List.getElem?_eq_getElem (hlength.symm ▸ hi),
      Option.some_or]
  · intro i name hname hother
    have hnumber : (ofNumbers 1 texts).lookup name = none := by
      rw [lookup_eq_none, keys_ofNumbers, hlength]
      exact hother
    rw [get?, List.lookup_append, hnumber, Option.none_or]
    exact get?_ofNames h hlength hname
  · obtain ⟨read, hread, hlookup⟩ := carries_sorted (ofNumbers 1 texts ++ ofNames names texts)
    refine ⟨read, hread.decode _, hread.ofString (by decide), hlookup, ?_⟩
    intro hclear key
    rw [hlookup, lookup_reverse (hnodup.2 hclear)]
    rfl

end Groups

end RegexGateway
