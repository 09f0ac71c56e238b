import ReleaseAudit.Schema.Same
import ReleaseAudit.Toml.Reader

/-! What a document holds, whatever the order of its fields is and however its tables are written. -/
namespace ReleaseAudit
namespace Toml

/-- What a document holds at the end of a way through its tables, however these are written. -/
inductive Holds : Fields → List String → Value → Prop
  | here {fields : Fields} {key : String} {v : Value} (h : (key, v) ∈ fields) : Holds fields [key] v
  | inside {fields inner : Fields} {key : String} {origin : Origin} {path : List String} {v : Value}
    (h : (key, .table origin inner) ∈ fields) (hinner : Holds inner path v) :
    Holds fields (key :: path) v

def IsTable (v : Value) : Prop := ∃ origin fields, v = .table origin fields

def Given (fields : Fields) (path : List String) : Prop := ∃ v, Holds fields path v

/-- Documents that hold the same at the end of the same ways. -/
structure Alike (fields fields' : Fields) : Prop where
  holds : ∀ path v, ¬ IsTable v → (Holds fields path v ↔ Holds fields' path v)
  tables : ∀ path, (∃ v, IsTable v ∧ Holds fields path v) ↔ ∃ v, IsTable v ∧ Holds fields' path v

section Places

variable {fields inner : Fields} {name key : String} {origin : Origin} {path : List String}
  {v : Value}

theorem holds_one : Holds fields [name] v ↔ (name, v) ∈ fields := by
  constructor
  · rintro (h | ⟨-, ⟨⟩⟩)
    exact h
  · exact .here

theorem holds_two : Holds fields [name, key] v ↔
    ∃ origin inner, (name, .table origin inner) ∈ fields ∧ (key, v) ∈ inner := by
  constructor
  · rintro (- | ⟨h, hinner⟩)
    exact ⟨_, _, h, holds_one.mp hinner⟩
  · rintro ⟨origin, inner, h, hinner⟩
    exact .inside h (.here hinner)

theorem holds_table_cons :
    Holds ((key, .table origin inner) :: fields) path v ↔ (path = [key] ∧ v = .table origin inner) ∨
      (∃ rest, path = key :: rest ∧ Holds inner rest v) ∨ Holds fields path v := by
  constructor
  · rintro (h | ⟨h, hinner⟩)
    · rcases List.mem_cons.mp h with h | h
      · cases h
        exact .inl ⟨rfl, rfl⟩
      · exact .inr (.inr (.here h))
    · rcases List.mem_cons.mp h with h | h
      · cases h
        exact .inr (.inl ⟨_, rfl, hinner⟩)
      · exact .inr (.inr (.inside h hinner))
  · rintro (⟨rfl, rfl⟩ | ⟨rest, rfl, hinner⟩ | h | ⟨h, hinner⟩)
    · exact .here List.mem_cons_self
    · exact .inside List.mem_cons_self hinner
    · exact .here (List.mem_cons_of_mem _ h)
    · exact .inside (List.mem_cons_of_mem _ h) hinner

end Places

namespace Alike

variable {fields fields' inner inner' : Fields} {path : List String}

theorem symm (h : Alike fields fields') : Alike fields' fields :=
  ⟨fun path v hv => (h.holds path v hv).symm, fun path => (h.tables path).symm⟩

theorem trans {fields'' : Fields} (h : Alike fields fields') (h' : Alike fields' fields'') :
    Alike fields fields'' :=
  ⟨fun path v hv => (h.holds path v hv).trans (h'.holds path v hv),
    fun path => (h.tables path).trans (h'.tables path)⟩

theorem of_perm (h : fields.Perm fields') : Alike fields fields' := by
  have hsub : ∀ {fs gs : Fields}, fs ⊆ gs → ∀ {path v}, Holds fs path v → Holds gs path v := by
    rintro fs gs hsub path v (hv | ⟨hv, hinner⟩)
    · exact .here (hsub hv)
    · exact .inside (hsub hv) hinner
  have hiff : ∀ path v, Holds fields path v ↔ Holds fields' path v :=
    fun path v => ⟨hsub h.subset, hsub h.symm.subset⟩
  exact ⟨fun path v _ => hiff path v, fun path => by simp only [hiff]⟩

theorem exists_table_cons {key : String} {origin origin' : Origin} (hinner : Alike inner inner')
    (h : Alike fields fields') {v : Value} (hv : IsTable v)
    (hheld : Holds ((key, .table origin inner) :: fields) path v) :
    ∃ w, IsTable w ∧ Holds ((key, .table origin' inner') :: fields') path w := by
  rcases holds_table_cons.mp hheld with ⟨rfl, -⟩ | ⟨rest, rfl, hrest⟩ | hfields
  · exact ⟨_, ⟨origin', inner', rfl⟩, .here List.mem_cons_self⟩
  · obtain ⟨w, hw, hrest⟩ := (hinner.tables rest).mp ⟨v, hv, hrest⟩
    exact ⟨w, hw, holds_table_cons.mpr (.inr (.inl ⟨rest, rfl, hrest⟩))⟩
  · obtain ⟨w, hw, hfields⟩ := (h.tables path).mp ⟨v, hv, hfields⟩
    exact ⟨w, hw, holds_table_cons.mpr (.inr (.inr hfields))⟩

theorem table_cons {key : String} {origin origin' : Origin} (hinner : Alike inner inner')
    (h : Alike fields fields') :
    Alike ((key, .table origin inner) :: fields) ((key, .table origin' inner') :: fields') := by
  constructor
  case holds =>
    intro path v hv
    have hno : ∀ origin inner, ¬ (path = [key] ∧ v = .table origin inner) :=
      fun origin inner hself => hv ⟨origin, inner, hself.2⟩
    rw [holds_table_cons, holds_table_cons, or_iff_right (hno _ _), or_iff_right (hno _ _)]
    simp only [hinner.holds _ v hv, h.holds path v hv]
  case tables =>
    intro path
    constructor
    · rintro ⟨v, hv, hheld⟩
      exact exists_table_cons hinner h hv hheld
    · rintro ⟨v, hv, hheld⟩
      exact exists_table_cons hinner.symm h.symm hv hheld

/-- What the one holds, the other holds, or both hold a table there. -/
theorem transfer (h : Alike fields fields') {v : Value} (hv : Holds fields path v) :
    Holds fields' path v ∨ IsTable v ∧ ∃ w, IsTable w ∧ Holds fields' path w := by
  by_cases htable : IsTable v
  · exact .inr ⟨htable, (h.tables path).mp ⟨v, htable, hv⟩⟩
  · exact .inl ((h.holds path v htable).mp hv)

theorem transferString (h : Alike fields fields') {s : String}
    (hs : Holds fields path (.string s)) : Holds fields' path (.string s) :=
  (h.holds path _ (by rintro ⟨_, _, ⟨⟩⟩)).mp hs

theorem given (h : Alike fields fields') (hgiven : Given fields path) : Given fields' path := by
  obtain ⟨v, hv⟩ := hgiven
  rcases h.transfer hv with hv | ⟨-, w, -, hw⟩
  · exact ⟨v, hv⟩
  · exact ⟨w, hw⟩

end Alike

/-! Documents that are written out. -/

mutual

/-- A proof that two values are the same. It is looked for in texts and in tables of them only. -/
def Value.same? : (v w : Value) → Option (Shown (v = w))
  | .string s, .string t => if h : s = t then some ⟨congrArg _ h⟩ else none
  | .table origin fs, .table origin' gs => do
    let h ← Value.sameFields? fs gs
    if e : origin = origin' then return ⟨by rw [e, h.proof]⟩ else none
  | _, _ => none

def Value.sameFields? : (fs gs : List (String × Value)) → Option (Shown (fs = gs))
  | [], [] => some ⟨rfl⟩
  | (key, v) :: fs, (key', w) :: gs => do
    let h ← Value.same? v w
    let k ← Value.sameFields? fs gs
    if e : key = key' then return ⟨by rw [e, h.proof, k.proof]⟩ else none
  | _, _ => none

end

def isParsedAs (text : String) (fields : Fields) : Bool :=
  match parse text with
  | .ok found => (Value.sameFields? found fields).isSome
  | .error _ => false

theorem parse_of_isParsedAs {text : String} {fields : Fields} (h : isParsedAs text fields = true) :
    parse text = .ok fields := by
  unfold isParsedAs at h
  split at h
  · next found hfound =>
    have hsame : found = fields := ((Value.sameFields? _ _).get h).proof
    rw [hfound, hsame]
  · cases h

end Toml
end ReleaseAudit
