import ReleaseAudit.Toml.Reader
import ReleaseAudit.Traced
import Mathlib.Data.List.Nodup

/-! Every table of a document that has been read has each of its keys once, however it was written:
under headers, with dots or between braces. -/
namespace ReleaseAudit
namespace Toml

/-- No table in a value has a key twice. -/
inductive Value.Distinct : Value → Prop
  | string (s : String) : Distinct (.string s)
  | integer (i : Int) : Distinct (.integer i)
  | float (x : Float) : Distinct (.float x)
  | boolean (b : Bool) : Distinct (.boolean b)
  | moment : Distinct .moment
  | array {ofTables : Bool} {items : List Value} (h : ∀ v ∈ items, Distinct v) :
    Distinct (.array ofTables items)
  | table {origin : Origin} {fields : List (String × Value)} (hkeys : (fields.map (·.1)).Nodup)
    (h : ∀ f ∈ fields, Distinct f.2) : Distinct (.table origin fields)

/-- The fields of a table in which no key stands twice, at no depth. -/
structure Fields.Distinct (fields : Fields) : Prop where
  keys : (fields.map (·.1)).Nodup
  values : ∀ f ∈ fields, f.2.Distinct

/-- A change after which no key stands twice if none did before. -/
def KeepsDistinct (change : Fields → Except Flaw Fields) : Prop :=
  ∀ fields fields', fields.Distinct → change fields = .ok fields' → fields'.Distinct

section Fields

variable {fields inner : Fields} {key outer : String} {v : Value} {origin : Origin}

theorem distinct_table_iff : (Value.table origin fields).Distinct ↔ fields.Distinct :=
  ⟨fun | .table hkeys h => ⟨hkeys, h⟩, fun h => .table h.keys h.values⟩

theorem distinct_array_iff {ofTables : Bool} {items : List Value} :
    (Value.array ofTables items).Distinct ↔ ∀ v ∈ items, v.Distinct :=
  ⟨fun | .array h => h, .array⟩

theorem mem_of_lookup (h : fields.lookup key = some v) : (key, v) ∈ fields := by
  obtain ⟨before, after, rfl, -⟩ := List.lookup_eq_some_iff.mp h
  simp

theorem notMem_keys_of_lookup (h : fields.lookup key = none) : key ∉ fields.map (·.1) := by
  intro hmem
  obtain ⟨f, hf, rfl⟩ := List.mem_map.mp hmem
  simpa using List.lookup_eq_none_iff.mp h f hf

theorem Fields.distinct_nil : Fields.Distinct [] := ⟨.nil, fun _ h => nomatch h⟩

namespace Fields.Distinct

variable (h : fields.Distinct)
include h

theorem of_lookup (hlookup : fields.lookup key = some v) : v.Distinct :=
  h.values _ (mem_of_lookup hlookup)

theorem add (hkey : key ∉ fields.map (·.1)) (hv : v.Distinct) :
    Fields.Distinct (fields ++ [(key, v)]) := by
  constructor
  · rw [List.map_append, List.map_singleton, List.nodup_append_comm, List.singleton_append]
    exact List.nodup_cons.mpr ⟨hkey, h.keys⟩
  · intro f hf
    rcases List.mem_append.mp hf with hf | hf
    · exact h.values f hf
    · obtain rfl := List.mem_singleton.mp hf
      exact hv

theorem replace (hv : v.Distinct) : (fields.replace key v).Distinct := by
  have hkeys : (fields.replace key v).map (·.1) = fields.map (·.1) := by
    rw [Fields.replace, List.map_map]
    refine List.map_congr_left fun f _ => ?_
    by_cases hf : f.1 = key <;> simp [hf]
  constructor
  · rw [hkeys]
    exact h.keys
  · intro f hf
    obtain ⟨g, hg, rfl⟩ := List.mem_map.mp hf
    by_cases hgkey : g.1 = key
    · rw [if_pos hgkey]
      exact hv
    · rw [if_neg hgkey]
      exact h.values g hg

theorem without : (fields.without key).Distinct :=
  ⟨h.keys.sublist (List.filter_sublist.map _), fun f hf => h.values f (List.mem_filter.mp hf).1⟩

omit h in
theorem notMem_without : key ∉ (fields.without key).map (·.1) := by
  intro hmem
  obtain ⟨f, hf, rfl⟩ := List.mem_map.mp hmem
  simpa using (List.mem_filter.mp hf).2

theorem replaceLast {items : List Value} {last : Value}
    (hitems : fields.lookup outer = some (.array true items)) (hlast : last.Distinct) :
    (fields.replace outer (.array true (items.dropLast ++ [last]))).Distinct := by
  have hold := distinct_array_iff.mp (h.of_lookup hitems)
  refine h.replace (.array fun v hv => ?_)
  rcases List.mem_append.mp hv with hv | hv
  · exact hold v (List.dropLast_subset items hv)
  · obtain rfl := List.mem_singleton.mp hv
    exact hlast

theorem ofInner (hinner : fields.lookup outer = some (.table origin inner)) : inner.Distinct :=
  distinct_table_iff.mp (h.of_lookup hinner)

theorem ofLast {items : List Value} (hitems : fields.lookup outer = some (.array true items))
    (hlast : items.getLast? = some (.table origin inner)) : inner.Distinct :=
  distinct_table_iff.mp
    (distinct_array_iff.mp (h.of_lookup hitems) _ (List.mem_of_getLast? hlast))

end Fields.Distinct

/-! The ways in which tables are filled. -/

theorem KeepsDistinct.placed {change : Fields → Except Flaw Fields} (hchange : KeepsDistinct change)
    {place : Fields → Fields} (hinner : inner.Distinct)
    (hplace : ∀ made : Fields, made.Distinct → (place made).Distinct) {fields' : Fields}
    (h : (do return place (← change inner)) = .ok fields') : fields'.Distinct := by
  obtain ⟨made, hmade, h⟩ := bind_eq_ok.mp h
  obtain rfl := Except.ok.inj h
  exact hplace made (hchange _ _ hinner hmade)

theorem keepsDistinct_assign (hv : v.Distinct) (path : List String) :
    KeepsDistinct (Fields.assign key v path) := by
  induction path with
  | nil =>
    intro fields fields' h hassign
    rw [Fields.assign] at hassign
    split at hassign
    · cases hassign
    · next hkey =>
      obtain rfl := Except.ok.inj hassign
      have hlookup := Option.not_isSome_iff_eq_none.mp hkey
      exact h.add (notMem_keys_of_lookup hlookup) hv
  | cons outer path ih =>
    intro fields fields' h hassign
    rw [Fields.assign.eq_def] at hassign
    dsimp only at hassign
    -- The way goes on in a new table, in one that is there, or in the last of an array of tables.
    split at hassign
    · next hlookup =>
      refine ih.placed Fields.distinct_nil (fun made hmade => ?_) hassign
      exact h.add (notMem_keys_of_lookup hlookup) (distinct_table_iff.mpr hmade)
    · next hlookup =>
      refine ih.placed (h.ofInner hlookup) (fun made hmade => ?_) hassign
      exact h.replace (distinct_table_iff.mpr hmade)
    · next hlookup =>
      split at hassign
      · cases hassign
      · refine ih.placed (h.ofInner hlookup) (fun made hmade => ?_) hassign
        exact h.replace (distinct_table_iff.mpr hmade)
    · next hlookup =>
      split at hassign
      · next hlast =>
        refine ih.placed (h.ofLast hlookup hlast) (fun made hmade => ?_) hassign
        exact h.replaceLast hlookup (distinct_table_iff.mpr hmade)
      · cases hassign
    · cases hassign

theorem KeepsDistinct.within {change : Fields → Except Flaw Fields} (hchange : KeepsDistinct change)
    (path : List String) : KeepsDistinct (Fields.within change path) := by
  induction path with
  | nil => exact hchange
  | cons outer path ih =>
    intro fields fields' h hwithin
    rw [Fields.within.eq_def] at hwithin
    dsimp only at hwithin
    split at hwithin
    · next hlookup =>
      refine ih.placed Fields.distinct_nil (fun made hmade => ?_) hwithin
      exact h.add (notMem_keys_of_lookup hlookup) (distinct_table_iff.mpr hmade)
    · cases hwithin
    · next hlookup =>
      refine ih.placed (h.ofInner hlookup) (fun made hmade => ?_) hwithin
      exact h.replace (distinct_table_iff.mpr hmade)
    · next hlookup =>
      split at hwithin
      · next hlast =>
        refine ih.placed (h.ofLast hlookup hlast) (fun made hmade => ?_) hwithin
        exact h.replaceLast hlookup (distinct_table_iff.mpr hmade)
      · cases hwithin
    · cases hwithin

theorem KeepsDistinct.openTable {fill : Fields → Except Flaw Fields} (hfill : KeepsDistinct fill)
    (key : String) : KeepsDistinct (Fields.openTable fill key) := by
  intro fields fields' h hopen
  unfold Fields.openTable at hopen
  split at hopen
  · next hlookup =>
    refine hfill.placed Fields.distinct_nil (fun made hmade => ?_) hopen
    exact h.add (notMem_keys_of_lookup hlookup) (distinct_table_iff.mpr hmade)
  · next hlookup =>
    refine hfill.placed (h.ofInner hlookup) (fun made hmade => ?_) hopen
    exact h.without.add Fields.Distinct.notMem_without (distinct_table_iff.mpr hmade)
  · cases hopen

theorem KeepsDistinct.appendTable {fill : Fields → Except Flaw Fields} (hfill : KeepsDistinct fill)
    (key : String) : KeepsDistinct (Fields.appendTable fill key) := by
  intro fields fields' h happend
  obtain ⟨made, hmade, happend⟩ := bind_eq_ok.mp happend
  have hnew : (Value.table .header made).Distinct :=
    distinct_table_iff.mpr (hfill _ _ Fields.distinct_nil hmade)
  dsimp only at happend
  split at happend
  · next hlookup =>
    obtain rfl := Except.ok.inj happend
    refine h.add (notMem_keys_of_lookup hlookup) (.array fun v hv => ?_)
    obtain rfl := List.mem_singleton.mp hv
    exact hnew
  · next items hlookup =>
    obtain rfl := Except.ok.inj happend
    refine h.replace (.array fun v hv => ?_)
    rcases List.mem_append.mp hv with hv | hv
    · exact distinct_array_iff.mp (h.of_lookup hlookup) v hv
    · obtain rfl := List.mem_singleton.mp hv
      exact hnew
  · cases happend

end Fields

/-! What is read of a text: numbers, words, dates and times have no keys. -/

section Scalars

variable {cs : List Char} {v : Value}

theorem distinct_of_boundedInteger? {i : Int} (h : boundedInteger? i = some v) : v.Distinct := by
  unfold boundedInteger? at h
  split at h
  · obtain rfl := Option.some.inj h
    exact .integer i
  · cases h

theorem distinct_of_markedInteger? (h : markedInteger? cs = some v) : v.Distinct := by
  have hbase : ∀ base ds, (do boundedInteger? (← digitsOfBase? base ds) : Option Value) = some v →
      v.Distinct := by
    intro base ds h
    obtain ⟨n, -, h⟩ := Option.bind_eq_some_iff.mp h
    exact distinct_of_boundedInteger? h
  unfold markedInteger? at h
  split at h
  · exact hbase _ _ h
  · exact hbase _ _ h
  · exact hbase _ _ h
  · cases h

theorem distinct_of_decimalInteger? (h : decimalInteger? cs = some v) : v.Distinct := by
  obtain ⟨n, -, h⟩ := Option.bind_eq_some_iff.mp h
  exact distinct_of_boundedInteger? h

theorem distinct_of_float? (h : float? cs = some v) : v.Distinct := by
  unfold float? at h
  dsimp only at h
  split at h
  · obtain rfl := Option.some.inj h
    exact .float _
  · split at h
    · cases h
    · obtain ⟨whole, -, h⟩ := Option.bind_eq_some_iff.mp h
      obtain ⟨fraction, -, h⟩ := Option.bind_eq_some_iff.mp h
      obtain ⟨e, -, h⟩ := Option.bind_eq_some_iff.mp h
      split at h
      · obtain rfl := Option.some.inj h
        exact .float _
      · cases h

theorem eq_moment_of_moment? (h : moment? cs = some v) : v = .moment := by
  unfold moment? at h
  split at h
  · exact (Option.some.inj h).symm
  · split at h
    · obtain ⟨rest, -, h⟩ := Option.bind_eq_some_iff.mp h
      split at h
      · exact (Option.some.inj h).symm
      · cases h
    · cases h
  · obtain ⟨rest, -, h⟩ := Option.bind_eq_some_iff.mp h
    split at h
    · exact (Option.some.inj h).symm
    · cases h

theorem distinct_of_scalar? (h : scalar? cs = some v) : v.Distinct := by
  unfold scalar? at h
  split at h
  · obtain rfl := Option.some.inj h
    exact .boolean true
  · split at h
    · obtain rfl := Option.some.inj h
      exact .boolean false
    · simp only [Option.orElse_eq_orElse, Option.orElse_eq_or, Option.or_eq_some_iff] at h
      rcases h with h | ⟨-, h | ⟨-, h | ⟨-, h⟩⟩⟩
      · exact distinct_of_markedInteger? h
      · exact distinct_of_decimalInteger? h
      · exact distinct_of_float? h
      · obtain rfl := eq_moment_of_moment? h
        exact .moment

end Scalars

structure ReadsDistinct (fuel : Nat) : Prop where
  value : ∀ levels cs v rest, readValue fuel levels cs = .ok (v, rest) → v.Distinct
  items : ∀ levels cs vs rest, readItems fuel levels cs = .ok (vs, rest) → ∀ v ∈ vs, v.Distinct
  fields : ∀ levels fields cs fields' rest, fields.Distinct →
    readFields fuel levels fields cs = .ok (fields', rest) → fields'.Distinct

theorem readsDistinct (fuel : Nat) : ReadsDistinct fuel := by
  -- With each bracket and each brace some fuel is used, so the induction is on the fuel.
  induction fuel with
  | zero =>
    refine ⟨fun _ _ _ _ h => ?_, fun _ _ _ _ h => ?_, fun _ _ _ _ _ _ h => ?_⟩
    · rw [readValue] at h
      cases h
    · rw [readItems] at h
      cases h
    · rw [readFields] at h
      cases h
  | succ fuel ih =>
    constructor
    case value =>
      intro levels cs v rest h
      rw [readValue.eq_def] at h
      dsimp only at h
      split at h
      · split at h
        · cases h
        · obtain ⟨r, hr, h⟩ := map_eq_ok.mp h
          obtain ⟨rfl, rfl⟩ := Prod.mk.inj h
          exact .array (ih.items _ _ _ _ hr)
      · split at h
        · cases h
        · obtain ⟨r, hr, h⟩ := map_eq_ok.mp h
          obtain ⟨rfl, rfl⟩ := Prod.mk.inj h
          exact distinct_table_iff.mpr (ih.fields _ _ _ _ _ Fields.distinct_nil hr)
      · split at h
        · obtain ⟨r, -, h⟩ := map_eq_ok.mp h
          obtain ⟨rfl, rfl⟩ := Prod.mk.inj h
          exact .string r.1
        · split at h
          · next hscalar =>
            obtain ⟨rfl, rfl⟩ := Prod.mk.inj (Except.ok.inj h)
            exact distinct_of_scalar? hscalar
          · cases h
      · cases h
    case items =>
      intro levels cs vs rest h
      rw [readItems.eq_def] at h
      dsimp only at h
      split at h
      · obtain ⟨rfl, rfl⟩ := Prod.mk.inj (Except.ok.inj h)
        exact fun _ hv => nomatch hv
      · obtain ⟨⟨first, after⟩, hfirst, h⟩ := bind_eq_ok.mp h
        have hdistinct := ih.value _ _ _ _ hfirst
        dsimp only at h
        split at h
        · obtain ⟨r, hr, h⟩ := map_eq_ok.mp h
          obtain ⟨rfl, rfl⟩ := Prod.mk.inj h
          exact List.forall_mem_cons.mpr ⟨hdistinct, ih.items _ _ _ _ hr⟩
        · obtain ⟨rfl, rfl⟩ := Prod.mk.inj (Except.ok.inj h)
          exact List.forall_mem_singleton.mpr hdistinct
        · cases h
    case fields =>
      intro levels fields cs fields' rest hfields h
      rw [readFields.eq_def] at h
      dsimp only at h
      split at h
      · obtain ⟨rfl, rfl⟩ := Prod.mk.inj (Except.ok.inj h)
        exact hfields
      · obtain ⟨⟨⟨path, key⟩, after⟩, -, h⟩ := bind_eq_ok.mp h
        dsimp only at h
        split at h
        · obtain ⟨⟨v, after⟩, hv, h⟩ := bind_eq_ok.mp h
          obtain ⟨more, hmore, h⟩ := bind_eq_ok.mp h
          have hdistinct := keepsDistinct_assign (ih.value _ _ _ _ hv) path _ _ hfields hmore
          dsimp only at h
          split at h
          · exact ih.fields _ _ _ _ _ hdistinct h
          · obtain ⟨rfl, rfl⟩ := Prod.mk.inj (Except.ok.inj h)
            exact hdistinct
          · cases h
        · cases h

def Statement.Distinct : Statement → Prop
  | .assign _ _ v => v.Distinct
  | _ => True

theorem distinct_of_readHeader {isArray : Bool} {cs rest : List Char} {s : Statement}
    (h : readHeader isArray cs = .ok (s, rest)) : s.Distinct := by
  obtain ⟨⟨⟨path, key⟩, after⟩, -, h⟩ := bind_eq_ok.mp h
  dsimp only at h
  split at h
  · obtain ⟨rfl, rfl⟩ := Prod.mk.inj (Except.ok.inj h)
    trivial
  · obtain ⟨rfl, rfl⟩ := Prod.mk.inj (Except.ok.inj h)
    trivial
  · cases h

theorem distinct_of_readAssignment {cs rest : List Char} {s : Statement}
    (h : readAssignment cs = .ok (s, rest)) : s.Distinct := by
  obtain ⟨⟨⟨path, key⟩, after⟩, -, h⟩ := bind_eq_ok.mp h
  dsimp only at h
  split at h
  · obtain ⟨⟨v, after⟩, hv, h⟩ := bind_eq_ok.mp h
    obtain ⟨rfl, rfl⟩ := Prod.mk.inj (Except.ok.inj h)
    exact (readsDistinct _).value _ _ _ _ hv
  · cases h

theorem distinct_of_readStatement {cs rest : List Char} {s : Statement}
    (h : readStatement cs = .ok (s, rest)) : s.Distinct := by
  unfold readStatement at h
  split at h
  · exact distinct_of_readHeader h
  · exact distinct_of_readHeader h
  · exact distinct_of_readAssignment h

theorem distinct_of_readStatements {fuel : Nat} {cs : List Char} {statements : List Statement}
    (h : readStatements fuel cs = .ok statements) : ∀ s ∈ statements, s.Distinct := by
  induction fuel generalizing cs statements with
  | zero => cases h
  | succ fuel ih =>
    unfold readStatements at h
    split at h
    · obtain rfl := Except.ok.inj h
      exact fun _ hs => nomatch hs
    · obtain ⟨⟨s, rest⟩, hs, h⟩ := bind_eq_ok.mp h
      obtain ⟨after, -, h⟩ := bind_eq_ok.mp h
      obtain ⟨more, hmore, h⟩ := bind_eq_ok.mp h
      obtain rfl := Except.ok.inj h
      exact List.forall_mem_cons.mpr ⟨distinct_of_readStatement hs, ih hmore⟩

theorem keepsDistinct_fill {assignments : List ((List String × String) × Value)}
    (h : ∀ a ∈ assignments, a.2.Distinct) : KeepsDistinct (fill assignments) := by
  induction assignments with
  | nil =>
    intro fields fields' hfields hfill
    obtain rfl := Except.ok.inj hfill
    exact hfields
  | cons a assignments ih =>
    intro fields fields' hfields hfill
    obtain ⟨hfirst, hrest⟩ := List.forall_mem_cons.mp h
    obtain ⟨made, hmade, hfill⟩ := bind_eq_ok.mp hfill
    exact ih hrest _ _ (keepsDistinct_assign hfirst _ _ _ hfields hmade) hfill

theorem distinct_splitSection {statements : List Statement} (h : ∀ s ∈ statements, s.Distinct) :
    (∀ a ∈ (splitSection statements).1, a.2.Distinct) ∧
      ∀ s ∈ (splitSection statements).2, s.Distinct := by
  induction statements with
  | nil => exact ⟨(fun _ ha => nomatch ha), h⟩
  | cons s statements ih =>
    obtain ⟨hfirst, hrest⟩ := List.forall_mem_cons.mp h
    obtain ⟨hbody, hafter⟩ := ih hrest
    cases s with
    | assign path key v =>
      have hall : ∀ a ∈ ((path, key), v) :: (splitSection statements).1, a.2.Distinct :=
        List.forall_mem_cons.mpr ⟨hfirst, hbody⟩
      exact ⟨hall, hafter⟩
    | table path key => exact ⟨(fun _ ha => nomatch ha), h⟩
    | arrayTable path key => exact ⟨(fun _ ha => nomatch ha), h⟩

theorem distinct_of_addSections {fuel : Nat} {statements : List Statement} {fields fields' : Fields}
    (hstatements : ∀ s ∈ statements, s.Distinct) (hfields : fields.Distinct)
    (h : addSections fuel statements fields = .ok fields') : fields'.Distinct := by
  induction fuel generalizing statements fields with
  | zero =>
    cases statements <;> obtain rfl := Except.ok.inj h <;> exact hfields
  | succ fuel ih =>
    cases statements with
    | nil =>
      obtain rfl := Except.ok.inj h
      exact hfields
    | cons s rest =>
      obtain ⟨hs, hrest⟩ := List.forall_mem_cons.mp hstatements
      obtain ⟨hbody, hafter⟩ := distinct_splitSection hrest
      have hfill := keepsDistinct_fill hbody
      cases s with
      | table path key =>
        obtain ⟨made, hmade, h⟩ := bind_eq_ok.mp h
        exact ih hafter ((hfill.openTable key).within path _ _ hfields hmade) h
      | arrayTable path key =>
        obtain ⟨made, hmade, h⟩ := bind_eq_ok.mp h
        exact ih hafter ((hfill.appendTable key).within path _ _ hfields hmade) h
      | assign path key v =>
        obtain ⟨made, hmade, h⟩ := bind_eq_ok.mp h
        have hall : ∀ a ∈ ((path, key), v) :: (splitSection rest).1, a.2.Distinct :=
          List.forall_mem_cons.mpr ⟨hs, hbody⟩
        exact ih hafter (keepsDistinct_fill hall _ _ hfields hmade) h

/-- A document that has been read has each key of each table once. -/
theorem distinct_of_parse {text : String} {fields : Fields} (h : parse text = .ok fields) :
    fields.Distinct := by
  obtain ⟨statements, hstatements, h⟩ := bind_eq_ok.mp h
  exact distinct_of_addSections (distinct_of_readStatements hstatements) Fields.distinct_nil h

end Toml
end ReleaseAudit
