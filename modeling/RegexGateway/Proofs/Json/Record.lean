import RegexGateway.Json.Record
import RegexGateway.Proofs.Json.Carry

namespace RegexGateway

namespace Json

variable {φ : Json → Json} {levels : Nat}

namespace Field

variable {α : Type}

/-- A field whose value is read as another one: from what is written, or from its absence where it
is omitted. -/
def Carries (f : Field α) (φ : Json → Json) (levels : Nat) (a b : α) : Prop :=
  if f.omitted a then f.complete none = .ok b else f.codec.Carries φ levels a b

theorem carries_optional {c : Codec α} {a : Option α} (name : String)
    (h : ∀ x ∈ a, c.Carries φ levels x x) (hnull : ∀ source b, c.decode source .null ≠ .ok b) :
    (optional name c).Carries φ levels a a := by
  cases a with
  | none => exact rfl
  | some x => exact (h x rfl).some hnull

/-- What a draft holds for a field while some fields of the object are yet to come: its value, or
nothing if its value is among them or it is left out. -/
inductive Awaits (f : Field α) (φ : Json → Json) (levels : Nat) (coming : List (String × Json))
    (b : α) : Option α → Prop where
  | met (h : f.name ∉ coming.map Prod.fst) : Awaits f φ levels coming b (some b)
  | coming (a : α) (h : f.codec.Carries φ levels a b)
      (hmem : (f.name, φ (f.codec.encode a)) ∈ coming) : Awaits f φ levels coming b none
  | omitted (h : f.complete none = .ok b) (hmem : f.name ∉ coming.map Prod.fst) :
      Awaits f φ levels coming b none

theorem Awaits.of_cons {f : Field α} {key : String} {j : Json} {coming : List (String × Json)}
    {b : α} {met : Option α} (h : f.Awaits φ levels ((key, j) :: coming) b met)
    (hkey : key ≠ f.name) : f.Awaits φ levels coming b met := by
  cases h with
  | met h => exact .met fun hmem => h (List.mem_cons_of_mem _ hmem)
  | coming a h hmem =>
    rcases List.mem_cons.1 hmem with heq | hmem
    · exact absurd (congrArg Prod.fst heq).symm hkey
    · exact .coming a h hmem
  | omitted h hmem => exact .omitted h fun hmem' => hmem (List.mem_cons_of_mem _ hmem')

theorem Awaits.complete_eq {f : Field α} {b : α} {met : Option α}
    (h : f.Awaits φ levels [] b met) : f.complete met = .ok b := by
  cases h with
  | met => rfl
  | coming a h hmem => exact absurd hmem List.not_mem_nil
  | omitted h => exact h

end Field

namespace Shape

variable {ts : List Type}

def names {ts : List Type} : Shape ts → List String
  | nil => []
  | cons f fields => f.name :: fields.names

/-- A row that is read as another one, field by field. -/
def Carries {ts : List Type} (φ : Json → Json) (levels : Nat) :
    Shape ts → Row ts → Row ts → Prop
  | nil, _, _ => True
  | cons f fields, (a, row), (b, row') =>
    f.Carries φ levels a b ∧ fields.Carries φ levels row row'

/-- What a draft holds while some fields of the object are yet to come. -/
def Awaits {ts : List Type} (φ : Json → Json) (levels : Nat) (coming : List (String × Json)) :
    Shape ts → Draft ts → Row ts → Prop
  | nil, _, _ => True
  | cons f fields, (met, draft), (b, row) =>
    f.Awaits φ levels coming b met ∧ fields.Awaits φ levels coming draft row

theorem Awaits.of_cons {s : Shape ts} {key : String} {j : Json} {coming : List (String × Json)}
    {draft : Draft ts} {row : Row ts} (h : s.Awaits φ levels ((key, j) :: coming) draft row)
    (hkey : key ∉ s.names) : s.Awaits φ levels coming draft row := by
  induction s with
  | nil => trivial
  | cons f fields ih =>
    simp only [names, List.mem_cons, not_or] at hkey
    exact ⟨h.1.of_cons hkey.1, ih h.2 hkey.2⟩

theorem Awaits.put {s : Shape ts} {key : String} {j : Json} {coming : List (String × Json)}
    {draft : Draft ts} {row : Row ts} (source : Source)
    (h : s.Awaits φ levels ((key, j) :: coming) draft row)
    (hkey : key ∉ coming.map Prod.fst) (hs : s.names.Nodup) :
    ∃ draft', s.put source key j.node draft = .ok draft' ∧ s.Awaits φ levels coming draft' row := by
  induction s with
  | nil =>
    refine ⟨(), ?_, trivial⟩
    cases source <;> simp [Shape.put, skip_node]
  | cons f fields ih =>
    obtain ⟨met, draft⟩ := draft
    obtain ⟨b, row⟩ := row
    obtain ⟨hname, hnames⟩ := List.nodup_cons.1 hs
    by_cases heq : key = f.name
    · subst heq
      obtain ⟨hf, hfields⟩ := h
      have hrest := hfields.of_cons hname
      cases hf with
      | met hmem => exact absurd List.mem_cons_self hmem
      | omitted _ hmem => exact absurd List.mem_cons_self hmem
      | coming a ha hmem =>
        rcases List.mem_cons.1 hmem with heq | hmem
        · obtain rfl : φ (f.codec.encode a) = j := congrArg Prod.snd heq
          have hput : (Shape.cons f fields).put source f.name (φ (f.codec.encode a)).node
              (none, draft) = .ok (some b, draft) := by
            simp [Shape.put, ha.decode, bind, Except.bind, pure, Except.pure]
          exact ⟨(some b, draft), hput, .met hkey, hrest⟩
        · exact absurd (List.mem_map_of_mem hmem) hkey
    · obtain ⟨draft', hput, hdraft'⟩ := ih h.2 hnames
      have hput' : (Shape.cons f fields).put source key j.node (met, draft) =
          .ok (met, draft') := by
        simp [Shape.put, heq, hput, bind, Except.bind, pure, Except.pure]
      exact ⟨(met, draft'), hput', h.1.of_cons heq, hdraft'⟩

theorem Awaits.putAll {s : Shape ts} {coming : List (String × Json)} {draft : Draft ts}
    {row : Row ts} (source : Source) (h : s.Awaits φ levels coming draft row)
    (hkeys : (coming.map Prod.fst).Nodup) (hs : s.names.Nodup) :
    ∃ draft', s.putAll source (nodeFields coming) draft = .ok draft' ∧
      s.Awaits φ levels [] draft' row := by
  induction coming generalizing draft with
  | nil => exact ⟨draft, rfl, h⟩
  | cons f rest ih =>
    obtain ⟨key, j⟩ := f
    obtain ⟨hkey, hrest⟩ := List.nodup_cons.1 hkeys
    obtain ⟨next, hput, hnext⟩ := h.put source hkey hs
    obtain ⟨last, hlast, hrow⟩ := ih hnext hrest
    have hall : s.putAll source (nodeFields ((key, j) :: rest)) draft = .ok last := by
      simp [nodeFields, Shape.putAll, hput, hlast, bind, Except.bind]
    exact ⟨last, hall, hrow⟩

theorem Awaits.complete_eq {s : Shape ts} {draft : Draft ts} {row : Row ts}
    (h : s.Awaits φ levels [] draft row) : s.complete draft = .ok row := by
  induction s with
  | nil => rfl
  | cons f fields ih =>
    simp [complete, h.1.complete_eq, ih h.2, bind, Except.bind, pure, Except.pure]

theorem encode_names_sublist (s : Shape ts) (row : Row ts) :
    ((s.encode row).map Prod.fst).Sublist s.names := by
  induction s with
  | nil => exact .refl _
  | cons f fields ih =>
    obtain ⟨a, row⟩ := row
    simp only [encode, names]
    split
    · exact (ih row).cons _
    · exact (ih row).cons_cons _

/-- Before anything is read, every field is among those to come or left out. -/
theorem Carries.awaits {s : Shape ts} {row row' : Row ts} {coming : List (String × Json)}
    (h : s.Carries φ levels row row') (hs : s.names.Nodup)
    (hcoming : ∀ key ∈ s.names, ∀ j,
      (key, j) ∈ coming ↔ (key, j) ∈ (s.encode row).map fun f => (f.1, φ f.2)) :
    s.Awaits φ levels coming s.draft row' := by
  induction s with
  | nil => trivial
  | cons f fields ih =>
    obtain ⟨a, row⟩ := row
    obtain ⟨b, row'⟩ := row'
    obtain ⟨hname, hnames⟩ := List.nodup_cons.1 hs
    have hhead := hcoming f.name List.mem_cons_self
    have hrest : ∀ j, (f.name, j) ∉ (fields.encode row).map fun f => (f.1, φ f.2) := by
      intro j hmem
      have hkey := List.mem_map_of_mem (f := Prod.fst) hmem
      simp only [List.map_map, Function.comp_def] at hkey
      exact hname ((encode_names_sublist fields row).subset hkey)
    obtain ⟨hf, hfields⟩ := h
    have hawaits : f.Awaits φ levels coming b none := by
      unfold Field.Carries at hf
      simp only [encode] at hhead
      split at hf
      · rename_i homitted
        rw [if_pos homitted] at hhead
        apply Field.Awaits.omitted hf
        intro hmem
        obtain ⟨⟨key, j⟩, hmem, rfl⟩ := List.mem_map.1 hmem
        exact hrest j ((hhead j).1 hmem)
      · rename_i homitted
        rw [if_neg homitted] at hhead
        exact .coming a hf ((hhead _).2 List.mem_cons_self)
    have hcoming' : ∀ key ∈ fields.names, ∀ j,
        (key, j) ∈ coming ↔ (key, j) ∈ (fields.encode row).map fun f => (f.1, φ f.2) := by
      intro key hkey j
      rw [hcoming key (List.mem_cons_of_mem _ hkey) j, encode]
      split
      · exact Iff.rfl
      · have hne : key ≠ f.name := by
          rintro rfl
          exact hname hkey
        simp [hne]
    exact ⟨hawaits, ih hfields hnames hcoming'⟩

theorem Carries.readable {s : Shape ts} {row row' : Row ts} (h : s.Carries φ levels row row') :
    ∀ f ∈ s.encode row, (φ f.2).Readable levels := by
  induction s with
  | nil => simp [encode]
  | cons f fields ih =>
    obtain ⟨hf, hfields⟩ := h
    unfold Field.Carries at hf
    simp only [encode]
    split at hf
    · rename_i homitted
      rw [if_pos homitted]
      exact ih hfields
    · rename_i homitted
      rw [if_neg homitted, List.forall_mem_cons]
      exact ⟨hf.readable, ih hfields⟩

/-- A record is read back if each of its fields is. -/
theorem Carries.codec (hφ : Arrangement φ) {s : Shape ts} {row row' : Row ts} (name : String)
    (hs : s.names.Nodup) (h : s.Carries φ levels row row') :
    (s.codec name).Carries φ (levels + 1) row row' := by
  have hencoded := hs.sublist (encode_names_sublist s row)
  obtain ⟨coming, hencode, -, hperm⟩ := hφ.obj (s.encode row)
  replace hperm := hperm hencoded
  have hkeys : (coming.map Prod.fst).Nodup := by
    rw [(hperm.map Prod.fst).nodup_iff, List.map_map]
    exact hencoded
  have hencode' : φ ((s.codec name).encode row) = .obj coming := hencode
  constructor
  case readable =>
    have hfields : ∀ f ∈ coming, f.2.Readable levels := by
      intro f hf
      obtain ⟨g, hg, rfl⟩ := List.mem_map.1 (hperm.subset hf)
      exact h.readable g hg
    rw [hencode', Readable, readableFields_iff]
    exact ⟨Nat.succ_pos levels, hfields⟩
  case decode =>
    intro source
    have hawaits : s.Awaits φ levels coming s.draft row' := h.awaits hs fun _ _ _ => hperm.mem_iff
    obtain ⟨draft, hdraft, hrow⟩ := hawaits.putAll source hkeys hs
    rw [hencode']
    simp [Shape.codec, node, hdraft, hrow.complete_eq, bind, Except.bind]

section

variable {α : Type} {s : Shape ts} {name : String} {view : α → Row ts}

theorem carries_row (hφ : Arrangement φ) {make : Row ts → α} {a b : α} (row : Row ts)
    (hs : s.names.Nodup) (h : s.Carries φ levels (view a) row) (hmake : make row = b) :
    ((s.codec name).along view make).Carries φ (levels + 1) a b :=
  hmake ▸ (h.codec hφ name hs).along

theorem carries_self (hφ : Arrangement φ) {make : Row ts → α} {a : α} (hs : s.names.Nodup)
    (h : s.Carries φ levels (view a) (view a)) (hmake : make (view a) = a) :
    ((s.codec name).along view make).Carries φ (levels + 1) a a :=
  carries_row hφ (view a) hs h hmake

theorem carries_checked (hφ : Arrangement φ) {make : Row ts → Decoded α} {a : α}
    (hs : s.names.Nodup) (h : s.Carries φ levels (view a) (view a))
    (hmake : make (view a) = .ok a) :
    ((s.codec name).refine view make).Carries φ (levels + 1) a a :=
  (h.codec hφ name hs).refine hmake

end

end Shape

end Json

end RegexGateway
