import Mathlib.Data.List.Perm.Basic
import RegexGateway.Proofs.Json.Reading

namespace RegexGateway

namespace Json

@[simp] theorem ofText_ok {α : Type} {a : α} : ofText (.ok a) = .ok a := rfl

mutual

theorem skip_node (j : Json) : j.node.skip = .ok () := by
  cases j with
  | null | bool | int | float | str => rfl
  | arr items => exact skip_nodeItems items
  | obj fields => exact skip_nodeFields fields

theorem skip_nodeItems (items : List Json) : (nodeItems items).skip = .ok () := by
  cases items with
  | nil => rfl
  | cons j rest =>
    simp only [nodeItems, Items.skip, skip_node j, skip_nodeItems rest, bind, Except.bind]

theorem skip_nodeFields (fields : List (String × Json)) : (nodeFields fields).skip = .ok () := by
  match fields with
  | [] => rfl
  | (k, j) :: rest =>
    simp only [nodeFields, Fields.skip, skip_node j, skip_nodeFields rest, bind, Except.bind]

end

/-- A way to write values that may change the order of an object's fields, and leave out some whose
keys come again, and nothing else. -/
structure Arrangement (φ : Json → Json) : Prop where
  null : φ .null = .null
  bool : ∀ b, φ (.bool b) = .bool b
  int : ∀ n, φ (.int n) = .int n
  float : ∀ x, φ (.float x) = .float x
  str : ∀ s, φ (.str s) = .str s
  arr : ∀ items, φ (.arr items) = .arr (items.map φ)
  obj : ∀ fields : List (String × Json), ∃ fields', φ (.obj fields) = .obj fields' ∧
    fields' ⊆ fields.map (fun f => (f.1, φ f.2)) ∧
    ((fields.map Prod.fst).Nodup → fields'.Perm (fields.map fun f => (f.1, φ f.2)))

theorem Arrangement.id : Arrangement fun j => j where
  null := rfl
  bool _ := rfl
  int _ := rfl
  float _ := rfl
  str _ := rfl
  arr items := by simp
  obj fields := ⟨fields, rfl, by simp, by simp⟩

theorem putField_subset (key : String) (value : Json) (fields : List (String × Json)) :
    putField key value fields ⊆ (key, value) :: fields := by
  induction fields with
  | nil => simp [putField]
  | cons f rest ih =>
    obtain ⟨k, v⟩ := f
    simp only [putField]
    split
    · exact List.Subset.refl _
    · split
      · exact List.cons_subset_cons _ (List.subset_cons_self _ _)
      · intro g hg
        rcases List.mem_cons.1 hg with rfl | hg
        · simp
        · rcases List.mem_cons.1 (ih hg) with rfl | hg
          · simp
          · simp [hg]

theorem foldl_putField_subset (fields sorted : List (String × Json)) :
    fields.foldl (fun sorted f => putField f.1 f.2 sorted) sorted ⊆ fields ++ sorted := by
  induction fields generalizing sorted with
  | nil => exact List.Subset.refl _
  | cons f rest ih =>
    intro g hg
    rcases List.mem_append.1 (ih _ hg) with hg | hg
    · simp [hg]
    · rcases List.mem_cons.1 (putField_subset _ _ _ hg) with rfl | hg
      · simp
      · simp [hg]

theorem putField_perm {key : String} {value : Json} {fields : List (String × Json)}
    (h : key ∉ fields.map Prod.fst) :
    (putField key value fields).Perm ((key, value) :: fields) := by
  induction fields with
  | nil => exact .refl _
  | cons f rest ih =>
    obtain ⟨k, v⟩ := f
    simp only [List.map_cons, List.mem_cons, not_or] at h
    obtain ⟨hkey, hrest⟩ := h
    simp only [putField, hkey, if_false]
    split
    · exact .refl _
    · exact ((ih hrest).cons _).trans (.swap _ _ _)

theorem foldl_putField_perm (fields sorted : List (String × Json))
    (h : ((fields ++ sorted).map Prod.fst).Nodup) :
    (fields.foldl (fun sorted f => putField f.1 f.2 sorted) sorted).Perm (fields ++ sorted) := by
  induction fields generalizing sorted with
  | nil => exact .refl _
  | cons f rest ih =>
    have hf : f.1 ∉ (rest ++ sorted).map Prod.fst := (List.nodup_cons.1 h).1
    have hput : (putField f.1 f.2 sorted).Perm (f :: sorted) := by
      apply putField_perm
      intro hmem
      rw [List.map_append] at hf
      exact hf (List.mem_append_right _ hmem)
    have hmiddle : (rest ++ putField f.1 f.2 sorted).Perm (f :: (rest ++ sorted)) :=
      (hput.append_left rest).trans List.perm_middle
    exact (ih _ ((hmiddle.map Prod.fst).nodup_iff.2 h)).trans hmiddle

theorem sortFields_perm {fields : List (String × Json)} (h : (fields.map Prod.fst).Nodup) :
    (sortFields fields).Perm fields := by
  have hperm := foldl_putField_perm fields [] (by rwa [List.append_nil])
  rwa [List.append_nil] at hperm

theorem sortFields_subset (fields : List (String × Json)) : sortFields fields ⊆ fields := by
  have hsubset := foldl_putField_subset fields []
  rwa [List.append_nil] at hsubset

theorem sortedItems_eq_map (items : List Json) : sortedItems items = items.map sorted := by
  induction items with
  | nil => rfl
  | cons j rest ih => rw [sortedItems, ih, List.map_cons]

theorem sortedFields_eq_map (fields : List (String × Json)) :
    sortedFields fields = fields.map fun f => (f.1, f.2.sorted) := by
  induction fields with
  | nil => rfl
  | cons f rest ih => rw [sortedFields, ih, List.map_cons]

theorem Arrangement.sorted : Arrangement Json.sorted where
  null := by simp [Json.sorted]
  bool _ := by simp [Json.sorted]
  int _ := by simp [Json.sorted]
  float _ := by simp [Json.sorted]
  str _ := by simp [Json.sorted]
  arr items := by rw [Json.sorted, sortedItems_eq_map]
  obj fields := by
    refine ⟨sortFields (sortedFields fields), by rw [Json.sorted], ?_⟩
    rw [sortedFields_eq_map]
    exact ⟨sortFields_subset _, fun h => sortFields_perm (by simpa [Function.comp_def] using h)⟩

namespace Codec

variable {α β : Type} {φ : Json → Json} {levels : Nat}

/-- A value that is written in an arrangement, with so many levels of lists and objects at most, is
read as another one. -/
structure Carries (c : Codec α) (φ : Json → Json) (levels : Nat) (a b : α) : Prop where
  readable : (φ (c.encode a)).Readable levels
  decode : ∀ source, c.decode source (φ (c.encode a)).node = .ok b

theorem Carries.ofString {c : Codec α} {a b : α} (h : c.Carries φ levels a b)
    (hlevels : levels < depthLimit) : c.ofString (φ (c.encode a)).compact = .ok b := by
  simp [Codec.ofString, Document.ofText_compact h.readable hlevels, h.decode, bind, Except.bind]

theorem carries_bool (hφ : Arrangement φ) (b : Bool) : bool.Carries φ levels b b where
  readable := by simp [bool, hφ.bool, Readable]
  decode _ := by simp [bool, hφ.bool, node]

theorem carries_string (hφ : Arrangement φ) (s : String) : string.Carries φ levels s s where
  readable := by simp [string, hφ.str, Readable]
  decode _ := by simp [string, hφ.str, node, ofText_ok]

theorem carries_char (hφ : Arrangement φ) (c : Char) : char.Carries φ levels c c where
  readable := by simp [char, hφ.str, Readable]
  decode _ := by simp [char, hφ.str, node, ofText_ok, bind, Except.bind]

theorem carries_named (hφ : Arrangement φ) {values : List α} {name : α → String} {a : α}
    (h : values.find? (fun b => name b = name a) = some a) :
    (named values name).Carries φ levels a a where
  readable := by simp [named, hφ.str, Readable]
  decode _ := by
    have hknown : name a ∈ values.map name := List.mem_map_of_mem (List.mem_of_find?_eq_some h)
    simp only [named, hφ.str, node, decodeName, ofText_ok, decodeName.check, if_pos hknown, h, bind,
      Except.bind]

theorem carries_int (hφ : Arrangement φ) {n : Int} (hlow : -0x8000000000000000 ≤ n)
    (hhigh : n < 0x8000000000000000) : int.Carries φ levels n n := by
  have hrange : -0x8000000000000000 ≤ n ∧ n ≤ 0x7fffffffffffffff := by omega
  have hread : -0x8000000000000000 ≤ n ∧ n < 0x10000000000000000 := by omega
  constructor
  case readable => simpa only [int, hφ.int, Readable] using hread
  case decode =>
    intro _
    simp only [int, hφ.int, node, decodeInt, ofText_ok, bind, Except.bind,
      if_pos hrange]

theorem carries_nat (hφ : Arrangement φ) {n : Nat} (h : n < UInt64.size) :
    nat.Carries φ levels n n := by
  simp only [UInt64.size] at h
  have hrange : (0 : Int) ≤ n ∧ (n : Int) ≤ 0xffffffffffffffff := by omega
  have hread : -0x8000000000000000 ≤ (n : Int) ∧ (n : Int) < 0x10000000000000000 := by omega
  constructor
  case readable => simpa only [nat, hφ.int, Readable] using hread
  case decode =>
    intro _
    simp only [nat, hφ.int, node, decodeInt, ofText_ok, bind, Except.bind,
      Except.map, if_pos hrange, Int.toNat_natCast]

theorem carries_float (hφ : Arrangement φ) {x : Float} (h : (Json.float x).Readable levels) :
    float.Carries φ levels x x where
  readable := by simpa only [float, hφ.float] using h
  decode _ := by simp only [float, hφ.float, node, ofText_ok, bind, Except.bind]

theorem Carries.along {c : Codec α} {view : β → α} {make : α → β} {a : β} {b : α}
    (h : c.Carries φ levels (view a) b) : (c.along view make).Carries φ levels a (make b) where
  readable := h.readable
  decode _ := by simp [Codec.along, h.decode, Except.map]

theorem Carries.refine {c : Codec α} {view : β → α} {make : α → Decoded β} {a b : β} {x : α}
    (h : c.Carries φ levels (view a) x) (hmake : make x = .ok b) :
    (c.refine view make).Carries φ levels a b where
  readable := h.readable
  decode _ := by simp [Codec.refine, h.decode, hmake, bind, Except.bind]

theorem carries_text (hφ : Arrangement φ) (text : List Char) :
    Codec.text.Carries φ levels text text := by
  have h : Codec.text.Carries φ levels text (String.ofList text).toList :=
    (carries_string hφ (String.ofList text)).along
  rwa [String.toList_ofList] at h

theorem carries_none (hφ : Arrangement φ) (c : Codec α) :
    c.nullable.Carries φ levels none none where
  readable := by simp [nullable, hφ.null, Readable]
  decode _ := by simp [nullable, hφ.null, node]

theorem Carries.some {c : Codec α} {a b : α} (h : c.Carries φ levels a b)
    (hnull : ∀ source b, c.decode source .null ≠ .ok b) :
    c.nullable.Carries φ levels (some a) (some b) := by
  constructor
  case readable => exact h.readable
  case decode =>
    intro source
    have hnode : (φ (c.encode a)).node ≠ .null := by
      intro heq
      exact hnull source b (heq ▸ h.decode source)
    simp only [nullable, h.decode, Except.map]

theorem carries_nullable (hφ : Arrangement φ) {c : Codec α} {a : Option α}
    (h : ∀ x ∈ a, c.Carries φ levels x x) (hnull : ∀ source b, c.decode source .null ≠ .ok b) :
    c.nullable.Carries φ levels a a := by
  cases a with
  | none => exact carries_none hφ c
  | some x => exact (h x rfl).some hnull

theorem decodeItems_nodeItems {c : Codec α} {as bs : List α} (source : Source)
    (h : List.Forall₂ (c.Carries φ levels) as bs) :
    decodeItems (c.decode source) (nodeItems (as.map fun a => φ (c.encode a))) = .ok bs := by
  induction h with
  | nil => rfl
  | cons hab hrest ih =>
    simp only [List.map_cons, nodeItems, decodeItems, hab.decode, ih, bind, Except.bind, pure,
      Except.pure]

theorem Carries.list (hφ : Arrangement φ) {c : Codec α} {as bs : List α}
    (h : List.Forall₂ (c.Carries φ levels) as bs) : c.list.Carries φ (levels + 1) as bs := by
  have hencode : φ (c.list.encode as) = .arr (as.map fun a => φ (c.encode a)) := by
    simp only [Codec.list, hφ.arr, List.map_map, Function.comp_def]
  constructor
  case readable =>
    have hitems : ∀ a ∈ as, (φ (c.encode a)).Readable levels :=
      ((List.forall₂_and_left _ _).1 (h.imp fun _ _ hab => ⟨hab.readable, hab⟩)).1
    rw [hencode, Readable, readableItems_iff]
    exact ⟨Nat.succ_pos levels, by simpa using hitems⟩
  case decode =>
    intro source
    rw [hencode]
    simpa [Codec.list, node] using decodeItems_nodeItems source h

theorem carries_list (hφ : Arrangement φ) {c : Codec α} {as : List α}
    (h : ∀ a ∈ as, c.Carries φ levels a a) : c.list.Carries φ (levels + 1) as as :=
  .list hφ (List.forall₂_same.2 h)

theorem carries_each (hφ : Arrangement φ) {c : Codec α} {R : α → α → Prop} {as : List α}
    (h : ∀ a ∈ as, ∃ b, R a b ∧ c.Carries φ levels a b) :
    ∃ bs, List.Forall₂ R as bs ∧ c.list.Carries φ (levels + 1) as bs := by
  suffices hbs : ∃ bs, List.Forall₂ R as bs ∧ List.Forall₂ (c.Carries φ levels) as bs by
    obtain ⟨bs, hR, hc⟩ := hbs
    exact ⟨bs, hR, .list hφ hc⟩
  induction as with
  | nil => exact ⟨[], .nil, .nil⟩
  | cons a rest ih =>
    obtain ⟨b, hb, hcarries⟩ := h a List.mem_cons_self
    obtain ⟨bs, hR, hc⟩ := ih fun x hx => h x (List.mem_cons_of_mem _ hx)
    exact ⟨b :: bs, .cons hb hR, .cons hcarries hc⟩

theorem forall_mem_of_forall₂ {R : α → β → Prop} {P : α → Prop} {Q : β → Prop} {as : List α}
    {bs : List β} (h : List.Forall₂ R as bs) (hR : ∀ a b, R a b → P a → Q b)
    (has : ∀ a ∈ as, P a) : ∀ b ∈ bs, Q b := by
  induction h with
  | nil => exact fun b hb => absurd hb List.not_mem_nil
  | cons hab hrest ih =>
    obtain ⟨ha, hrest'⟩ := List.forall_mem_cons.1 has
    exact List.forall_mem_cons.2 ⟨hR _ _ hab ha, ih hrest'⟩

theorem decodeFields_nodeFields {c : Codec α} {as : List (String × α)} (source : Source)
    (h : ∀ f ∈ as, c.Carries φ levels f.2 f.2) :
    decodeFields (c.decode source) (nodeFields (as.map fun f => (f.1, φ (c.encode f.2)))) =
      .ok as := by
  induction as with
  | nil => rfl
  | cons f rest ih =>
    have hrest := ih fun g hg => h g (List.mem_cons_of_mem _ hg)
    simp only [List.map_cons, nodeFields, decodeFields, ofText_ok,
      (h f List.mem_cons_self).decode, hrest, bind, Except.bind, pure, Except.pure]

theorem exists_eq_map_of_subset {F : α → β} {as : List α} {l : List β} (h : l ⊆ as.map F) :
    ∃ bs : List α, bs ⊆ as ∧ l = bs.map F := by
  induction l with
  | nil => exact ⟨[], by simp, rfl⟩
  | cons x rest ih =>
    obtain ⟨hx, hrest⟩ := List.cons_subset.1 h
    obtain ⟨a, ha, rfl⟩ := List.mem_map.1 hx
    obtain ⟨bs, hbs, rfl⟩ := ih hrest
    exact ⟨a :: bs, List.cons_subset.2 ⟨ha, hbs⟩, rfl⟩

theorem exists_eq_map_of_perm {F : α → β} {as : List α} {l : List β} (h : l.Perm (as.map F)) :
    ∃ bs : List α, bs.Perm as ∧ l = bs.map F := by
  obtain ⟨bs, rfl, hbs⟩ : Relation.Comp (· = List.map F ·) (·.Perm ·) l as := by
    rwa [List.eq_map_comp_perm]
  exact ⟨bs, hbs, rfl⟩

theorem Carries.fields {c : Codec α} {expected : String} {as bs : List (String × α)}
    (hencode : φ ((Codec.fields c expected).encode as) =
      .obj (bs.map fun f => (f.1, φ (c.encode f.2))))
    (h : ∀ f ∈ bs, c.Carries φ levels f.2 f.2) :
    (Codec.fields c expected).Carries φ (levels + 1) as bs := by
  constructor
  case readable =>
    have hread : ∀ f ∈ bs.map fun f => (f.1, φ (c.encode f.2)), f.2.Readable levels := by
      intro f hf
      obtain ⟨g, hg, rfl⟩ := List.mem_map.1 hf
      exact (h g hg).readable
    rw [hencode, Readable, readableFields_iff]
    exact ⟨Nat.succ_pos levels, hread⟩
  case decode =>
    intro source
    rw [hencode]
    simpa [Codec.fields, node] using decodeFields_nodeFields source h

theorem carries_fields_plain {c : Codec α} (expected : String) {as : List (String × α)}
    (h : ∀ f ∈ as, c.Carries (fun j => j) levels f.2 f.2) :
    (fields c expected).Carries (fun j => j) (levels + 1) as as :=
  .fields rfl h

/-- The fields of an object with any keys come back in some order. Of fields with the same key only
one may come back. -/
theorem carries_fields (hφ : Arrangement φ) {c : Codec α} (expected : String)
    {as : List (String × α)} (h : ∀ f ∈ as, c.Carries φ levels f.2 f.2) :
    ∃ bs, bs ⊆ as ∧ ((as.map Prod.fst).Nodup → bs.Perm as) ∧
      (fields c expected).Carries φ (levels + 1) as bs := by
  obtain ⟨fields', hencode, hsubset, hperm⟩ := hφ.obj (as.map fun f => (f.1, c.encode f.2))
  simp only [List.map_map, Function.comp_def] at hsubset hperm
  obtain ⟨bs, hbs, hsame, rfl⟩ : ∃ bs : List (String × α), bs ⊆ as ∧
      ((as.map Prod.fst).Nodup → bs.Perm as) ∧
      fields' = bs.map fun f => (f.1, φ (c.encode f.2)) := by
    by_cases hkeys : (as.map Prod.fst).Nodup
    · obtain ⟨bs, hbs, rfl⟩ := exists_eq_map_of_perm (hperm hkeys)
      exact ⟨bs, hbs.subset, fun _ => hbs, rfl⟩
    · obtain ⟨bs, hbs, rfl⟩ := exists_eq_map_of_subset hsubset
      exact ⟨bs, hbs, fun h => absurd h hkeys, rfl⟩
  exact ⟨bs, hbs, hsame, .fields hencode fun f hf => h f (hbs hf)⟩

end Codec

end Json

end RegexGateway
