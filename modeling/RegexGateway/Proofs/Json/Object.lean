import Mathlib.Data.String.Basic
import RegexGateway.Proofs.Json.Record
import RegexGateway.Proofs.Except
import RegexGateway.Proofs.Json.Carry

namespace RegexGateway

namespace Json

/-- Fields in the strict order of their keys. -/
def InOrder (fields : List (String × Json)) : Prop := fields.Pairwise fun f g => f.1 < g.1

theorem InOrder.nodup {fields : List (String × Json)} (h : InOrder fields) :
    (fields.map Prod.fst).Nodup :=
  List.pairwise_map.2 (h.imp fun hlt => ne_of_lt hlt)

theorem putField_inOrder {fields : List (String × Json)} (h : InOrder fields) (key : String)
    (value : Json) : InOrder (putField key value fields) := by
  induction fields with
  | nil => exact List.pairwise_singleton _ _
  | cons f rest ih =>
    obtain ⟨k, v⟩ := f
    obtain ⟨hfirst, hrest⟩ := List.pairwise_cons.1 h
    simp only [putField]
    split
    · rename_i hlt
      refine .cons (List.forall_mem_cons.2 ⟨hlt, fun g hg => ?_⟩) h
      exact lt_trans hlt (hfirst g hg)
    · rename_i hge
      split
      · rename_i heq
        exact .cons (fun g hg => heq ▸ hfirst g hg) hrest
      · rename_i hne
        have hlt : k < key := lt_of_le_of_ne (not_lt.1 hge) (Ne.symm hne)
        refine .cons (fun g hg => ?_) (ih hrest)
        rcases List.mem_cons.1 (putField_subset key value rest hg) with rfl | hg
        · exact hlt
        · exact hfirst g hg

theorem sortFields_inOrder (fields : List (String × Json)) : InOrder (sortFields fields) := by
  have hfold : ∀ sorted, InOrder sorted →
      InOrder (fields.foldl (fun sorted f => putField f.1 f.2 sorted) sorted) := by
    induction fields with
    | nil => exact fun _ h => h
    | cons f rest ih => exact fun sorted h => ih _ (putField_inOrder h f.1 f.2)
  exact hfold [] .nil

theorem lookup_cons {β : Type} (name : String) (f : String × β) (fields : List (String × β)) :
    (f :: fields).lookup name = if name = f.1 then some f.2 else fields.lookup name := by
  rw [List.lookup_cons]
  by_cases hname : name = f.1
  · simp [hname]
  · simp [hname, beq_false_of_ne hname]

theorem lookup_putField (key : String) (value : Json) (fields : List (String × Json))
    (name : String) :
    (putField key value fields).lookup name =
      if name = key then some value else fields.lookup name := by
  induction fields with
  | nil => rw [putField, lookup_cons]
  | cons f rest ih =>
    obtain ⟨k, v⟩ := f
    simp only [putField]
    split
    · rw [lookup_cons]
    · split
      · rename_i heq
        subst heq
        by_cases hname : name = key <;> simp [lookup_cons, hname]
      · rename_i hne
        rw [lookup_cons, lookup_cons, ih]
        by_cases hname : name = k
        · have hother : name ≠ key := fun heq => hne (heq.symm.trans hname)
          rw [if_pos hname, if_pos hname, if_neg hother]
        · rw [if_neg hname, if_neg hname]

theorem lookup_sortFields (name : String) (fields : List (String × Json)) :
    (sortFields fields).lookup name = field? name fields := by
  have hfold : ∀ sorted,
      (fields.foldl (fun sorted f => putField f.1 f.2 sorted) sorted).lookup name =
        (fields.reverse.lookup name).or (sorted.lookup name) := by
    induction fields with
    | nil => exact fun sorted => rfl
    | cons f rest ih =>
      intro sorted
      rw [List.foldl_cons, ih, lookup_putField, List.reverse_cons, List.lookup_append,
        Option.or_assoc, lookup_cons]
      congr 1
      by_cases hname : name = f.1 <;> simp [hname]
  exact (hfold []).trans (Option.or_none ..)

theorem lookup_eq_none {β : Type} {name : String} {fields : List (String × β)} :
    fields.lookup name = none ↔ name ∉ fields.map Prod.fst := by
  induction fields with
  | nil => simp
  | cons f rest ih => by_cases hname : name = f.1 <;> simp [lookup_cons, hname, ih]

theorem lookup_reverse {β : Type} {fields : List (String × β)} (h : (fields.map Prod.fst).Nodup)
    (name : String) : fields.reverse.lookup name = fields.lookup name := by
  induction fields with
  | nil => rfl
  | cons f rest ih =>
    obtain ⟨hfirst, hrest⟩ := List.nodup_cons.1 h
    rw [List.reverse_cons, List.lookup_append, ih hrest, lookup_cons, lookup_cons]
    by_cases hname : name = f.1
    · rw [if_pos hname, if_pos hname, lookup_eq_none.2 (hname ▸ hfirst), Option.none_or]
    · rw [if_neg hname, if_neg hname, List.lookup_nil, Option.or_none]

theorem lookup_map {β γ : Type} (g : β → γ) (fields : List (String × β)) (name : String) :
    (fields.map fun f => (f.1, g f.2)).lookup name = (fields.lookup name).map g := by
  induction fields with
  | nil => rfl
  | cons f rest ih => by_cases hname : name = f.1 <;> simp [lookup_cons, hname, ih]

namespace Field

variable {α : Type}

/-- What a record that is read from an object has in a field. -/
def Reads (f : Field α) (source : Source) (fields : List (String × Json)) (a : α) : Prop :=
  match field? f.name fields with
  | some j => f.codec.decode source j.node = .ok a
  | none => f.complete none = .ok a

theorem reads_required {name : String} {c : Codec α} {source : Source}
    {fields : List (String × Json)} {a : α} :
    (required name c).Reads source fields a ↔
      ∃ j, field? name fields = some j ∧ c.decode source j.node = .ok a := by
  cases hfield : field? name fields <;> simp [Reads, required, complete, hfield]

/-- What a draft comes to have in a field once the rest of an object is read. -/
def Settles (f : Field α) (source : Source) (coming : List (String × Json)) (a : α) :
    Option α → Prop
  | some b => b = a ∧ coming.lookup f.name = none
  | none =>
    match coming.lookup f.name with
    | some j => f.codec.decode source j.node = .ok a
    | none => f.complete none = .ok a

theorem settles_nil {f : Field α} {source : Source} {a : α} {met : Option α} :
    f.Settles source [] a met ↔ f.complete met = .ok a := by
  cases met <;> simp [Settles, complete]

theorem settles_cons_of_ne {f : Field α} {source : Source} {key : String} {j : Json}
    {coming : List (String × Json)} {a : α} {met : Option α} (h : f.name ≠ key) :
    f.Settles source ((key, j) :: coming) a met ↔ f.Settles source coming a met := by
  cases met <;> simp [Settles, lookup_cons, h]

end Field

namespace Shape

variable {ts : List Type}

def Reads {ts : List Type} (source : Source) (object : List (String × Json)) :
    Shape ts → Row ts → Prop
  | nil, _ => True
  | cons f fields, (a, row) => f.Reads source object a ∧ fields.Reads source object row

def Settles {ts : List Type} (source : Source) (coming : List (String × Json)) :
    Shape ts → Draft ts → Row ts → Prop
  | nil, _, _ => True
  | cons f fields, (met, draft), (a, row) =>
    f.Settles source coming a met ∧ fields.Settles source coming draft row

variable {source : Source}

theorem settles_nil {s : Shape ts} {draft : Draft ts} {row : Row ts} :
    s.Settles source [] draft row ↔ s.complete draft = .ok row := by
  induction s with
  | nil => exact ⟨fun _ => rfl, fun _ => trivial⟩
  | cons f fields ih =>
    obtain ⟨met, draft⟩ := draft
    obtain ⟨a, row⟩ := row
    simp only [Settles, Field.settles_nil, ih, complete, bind_eq_ok, bind_pure_comp, map_eq_ok]
    constructor
    · rintro ⟨ha, hrow⟩
      exact ⟨a, ha, row, hrow, rfl⟩
    · rintro ⟨a', ha, row', hrow, heq⟩
      obtain ⟨rfl, rfl⟩ := Prod.mk.inj heq
      exact ⟨ha, hrow⟩

theorem settles_cons_of_notMem {s : Shape ts} {key : String} {j : Json}
    {coming : List (String × Json)} {draft : Draft ts} {row : Row ts} (h : key ∉ s.names) :
    s.Settles source ((key, j) :: coming) draft row ↔ s.Settles source coming draft row := by
  induction s with
  | nil => exact Iff.rfl
  | cons f fields ih =>
    simp only [names, List.mem_cons, not_or] at h
    obtain ⟨hf, hfields⟩ := h
    exact and_congr (Field.settles_cons_of_ne (Ne.symm hf)) (ih hfields)

theorem settles_cons {s : Shape ts} {key : String} {j : Json} {coming : List (String × Json)}
    {draft : Draft ts} {row : Row ts} (hkey : key ∉ coming.map Prod.fst) (hs : s.names.Nodup) :
    s.Settles source ((key, j) :: coming) draft row ↔
      ∃ next, s.put source key j.node draft = .ok next ∧ s.Settles source coming next row := by
  induction s with
  | nil =>
    refine ⟨fun _ => ⟨(), ?_, trivial⟩, fun _ => trivial⟩
    cases source <;> simp [Shape.put, skip_node]
  | cons f fields ih =>
    obtain ⟨met, draft⟩ := draft
    obtain ⟨a, row⟩ := row
    obtain ⟨hname, hnames⟩ := List.nodup_cons.1 hs
    by_cases heq : key = f.name
    · -- No other field has this name, and no later one of the object has this key.
      subst heq
      have hrest : fields.Settles source ((f.name, j) :: coming) draft row ↔
          fields.Settles source coming draft row := settles_cons_of_notMem hname
      have hgone : coming.lookup f.name = none := lookup_eq_none.2 hkey
      cases met with
      | some b => simp [Settles, Field.Settles, Shape.put]
      | none =>
        simp only [Settles, Field.Settles, lookup_cons, if_true, hrest, Shape.put,
          Option.isSome_none, Bool.false_eq_true, if_false, bind_pure_comp, map_eq_ok]
        constructor
        · rintro ⟨ha, hrow⟩
          exact ⟨_, ⟨a, ha, rfl⟩, ⟨rfl, hgone⟩, hrow⟩
        · rintro ⟨next, ⟨b, hb, rfl⟩, ⟨rfl, -⟩, hrow⟩
          exact ⟨hb, hrow⟩
    · have hf : f.Settles source ((key, j) :: coming) a met ↔ f.Settles source coming a met :=
        Field.settles_cons_of_ne (Ne.symm heq)
      simp only [Settles, hf, ih hnames, Shape.put, heq, if_false, bind_pure_comp, map_eq_ok]
      constructor
      · rintro ⟨hmet, next, hput, hrow⟩
        exact ⟨_, ⟨next, hput, rfl⟩, hmet, hrow⟩
      · rintro ⟨next, ⟨rest, hput, rfl⟩, hmet, hrow⟩
        exact ⟨hmet, rest, hput, hrow⟩

theorem settles_iff {s : Shape ts} {coming : List (String × Json)} {draft : Draft ts}
    {row : Row ts} (hkeys : (coming.map Prod.fst).Nodup) (hs : s.names.Nodup) :
    s.Settles source coming draft row ↔
      ∃ last, s.putAll source (nodeFields coming) draft = .ok last ∧ s.complete last = .ok row := by
  induction coming generalizing draft with
  | nil => simp [settles_nil, nodeFields, Shape.putAll]
  | cons f rest ih =>
    obtain ⟨key, j⟩ := f
    obtain ⟨hkey, hrest⟩ := List.nodup_cons.1 hkeys
    simp only [settles_cons hkey hs, ih hrest, nodeFields, Shape.putAll, ofText_ok, bind_eq_ok,
      Except.ok.injEq, exists_eq_left']
    constructor
    · rintro ⟨next, hput, last, hlast, hrow⟩
      exact ⟨last, ⟨next, hput, hlast⟩, hrow⟩
    · rintro ⟨last, ⟨next, hput, hlast⟩, hrow⟩
      exact ⟨next, hput, last, hlast, hrow⟩

theorem settles_draft {s : Shape ts} {fields : List (String × Json)} {row : Row ts}
    (hkeys : (fields.map Prod.fst).Nodup) :
    s.Settles source fields s.draft row ↔ s.Reads source fields row := by
  induction s with
  | nil => exact Iff.rfl
  | cons f rest ih =>
    have hfield : field? f.name fields = fields.lookup f.name := lookup_reverse hkeys f.name
    simp only [Settles, Reads, draft, Field.Settles, Field.Reads, hfield, ih]

/-- A record is read from an object whose keys are different if each of its fields is. -/
theorem decode_object {s : Shape ts} {name : String} {fields : List (String × Json)} {row : Row ts}
    (hkeys : (fields.map Prod.fst).Nodup) (hs : s.names.Nodup) :
    (s.codec name).decode source (Json.obj fields).node = .ok row ↔
      s.Reads source fields row := by
  rw [← settles_draft hkeys, settles_iff hkeys hs]
  simp [Shape.codec, node, bind_eq_ok]

end Shape

/-- A value that has been sorted. -/
def IsSorted (j : Json) : Prop := ∃ raw : Json, raw.sorted = j

theorem IsSorted.items {items : List Json} (h : (Json.arr items).IsSorted) :
    ∀ j ∈ items, j.IsSorted := by
  obtain ⟨raw, hraw⟩ := h
  cases raw with
  | arr rawItems =>
    rw [sorted, sortedItems_eq_map] at hraw
    obtain rfl := Json.arr.inj hraw
    intro j hj
    obtain ⟨rawItem, -, rfl⟩ := List.mem_map.1 hj
    exact ⟨rawItem, rfl⟩
  | null | bool | int | float | str | obj => simp [sorted] at hraw

theorem IsSorted.fields {fields : List (String × Json)} (h : (Json.obj fields).IsSorted) :
    (fields.map Prod.fst).Nodup ∧ ∀ f ∈ fields, f.2.IsSorted := by
  obtain ⟨raw, hraw⟩ := h
  cases raw with
  | obj rawFields =>
    rw [sorted, sortedFields_eq_map] at hraw
    obtain rfl := Json.obj.inj hraw
    refine ⟨(sortFields_inOrder _).nodup, ?_⟩
    intro f hf
    obtain ⟨rawField, -, rfl⟩ := List.mem_map.1 (sortFields_subset _ hf)
    exact ⟨rawField.2, rfl⟩
  | null | bool | int | float | str | arr => simp [sorted] at hraw

theorem IsSorted.field {fields : List (String × Json)} (h : (Json.obj fields).IsSorted)
    {name : String} {j : Json} (hj : field? name fields = some j) : j.IsSorted := by
  obtain ⟨before, after, heq, -⟩ := List.lookup_eq_some_iff.1 hj
  have hmem : (name, j) ∈ fields.reverse := by simp [heq]
  exact h.fields.2 (name, j) (List.mem_reverse.1 hmem)

end Json

end RegexGateway
