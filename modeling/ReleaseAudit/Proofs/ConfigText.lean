import ReleaseAudit.Proofs.DistinctKeys
import ReleaseAudit.Proofs.Documents
import ReleaseAudit.Proofs.Layers

/-! What the text of a configuration file may say, and what is made of it. Nothing in it is passed
over: a key that is not known, a value of another kind and a value that is no good are refused, and
each setting is that of the document, wherever and however it is written, or the standard one. -/
namespace ReleaseAudit
namespace ConfigText

open Toml Config

/-- Documents whose sections are tables, and whose mode is none. -/
structure Sectioned (fields : Fields) : Prop where
  tables : ∀ name ∈ ["index", "repository", "report"], ∀ v, Holds fields [name] v → IsTable v
  mode : ∀ v, Holds fields ["report", "mode"] v → ¬ IsTable v

/-- A text is that at the end of a way, if there is one, and otherwise the standard one. -/
def Told (fields : Fields) (path : List String) (standard text : String) : Prop :=
  (∀ t, Holds fields path (.string t) → text = t) ∧ (¬ Given fields path → text = standard)

/-- Documents in which there is nothing but settings, all of them good. -/
structure Admitted (fields : Fields) : Prop where
  sections : ∀ name, Given fields [name] → name ∈ ["index", "repository", "report"]
  index : ∀ key, Given fields ["index", key] → key ∈ ["path", "schema"]
  repository : ∀ key, Given fields ["repository", key] → key ∈ ["path", "remote", "main_branch"]
  report : ∀ key, Given fields ["report", key] → key ∈ ["mode"]
  strings : ∀ name key v, Holds fields [name, key] v → ∃ s, v = .string s
  mode : ∀ s, Holds fields ["report", "mode"] (.string s) → s = "fail-fast" ∨ s = "batch"
  mainBranch : ∀ name, Told fields ["repository", "main_branch"] "master" name →
    ∀ field, validateBranchName field name = .ok ()
  remote : ∀ r, Holds fields ["repository", "remote"] (.string r) → Text.trim r ≠ ""

/-- The settings that a document makes. -/
structure Settles (fields : Fields) (c : Config) : Prop where
  manifest : Told fields ["index", "path"] "release-index.yaml" c.manifest.text
  schema : Told fields ["index", "schema"] "release-index-schema.json" c.schema.text
  repository : ∀ p, c.repository = some p ↔ Holds fields ["repository", "path"] (.string p.text)
  remote : ∀ r, c.remote = some r ↔ Holds fields ["repository", "remote"] (.string r)
  mainBranch : Told fields ["repository", "main_branch"] "master" c.mainBranch
  mode : Told fields ["report", "mode"] "fail-fast" c.mode.name

section Places

variable {fields : Fields} {name key : String} {v : Value}

def inside : Value → Fields
  | .table _ fields => fields
  | _ => []

def settings (fields : Fields) : List ((String × String) × Value) :=
  fields.flatMap fun f => (inside f.2).map fun g => ((f.1, g.1), g.2)

theorem mem_settings : ((name, key), v) ∈ settings fields ↔ Holds fields [name, key] v := by
  rw [holds_two, settings, List.mem_flatMap]
  constructor
  · rintro ⟨⟨name', outer⟩, hf, hv⟩
    obtain ⟨⟨key', v'⟩, hg, heq⟩ := List.mem_map.mp hv
    cases heq
    cases outer with
    | table origin inner => exact ⟨origin, inner, hf, hg⟩
    | _ => cases hg
  · rintro ⟨origin, inner, hf, hg⟩
    exact ⟨_, hf, List.mem_map.mpr ⟨_, hg, rfl⟩⟩

theorem nodup_settings (h : fields.Distinct) : ((settings fields).map (·.1)).Nodup := by
  have hflat : (settings fields).map (·.1) =
      fields.flatMap fun f => ((inside f.2).map (·.1)).map fun key => (f.1, key) := by
    simp only [settings, List.map_flatMap, List.map_map]
    rfl
  rw [hflat, List.nodup_flatMap]
  constructor
  · intro f hf
    have hinside : ((inside f.2).map (·.1)).Nodup := by
      cases hv : f.2 with
      | table origin inner => exact (distinct_table_iff.mp (hv ▸ h.values f hf)).keys
      | _ => exact .nil
    exact hinside.map fun _ _ heq => (Prod.mk.inj heq).2
  · refine (List.pairwise_map.mp h.keys).imp fun hne p hp hp' => ?_
    -- the first of the two names in a pair is that of its section
    obtain ⟨_, -, rfl⟩ := List.mem_map.mp hp
    obtain ⟨_, -, heq⟩ := List.mem_map.mp hp'
    exact hne (Prod.mk.inj heq).1.symm

end Places

/-! What is made of the fields of a document. -/

def textOf : Value → String
  | .string s => s
  | _ => ""

/-- The configuration with one field more taken into it. -/
def put (p : String × String) (v : Value) (c : Config) : Config :=
  match p with
  | ("index", "path") => { c with manifest := ⟨textOf v⟩ }
  | ("index", "schema") => { c with schema := ⟨textOf v⟩ }
  | ("repository", "path") => { c with repository := some ⟨textOf v⟩ }
  | ("repository", "remote") => { c with remote := some (textOf v) }
  | ("repository", "main_branch") => { c with mainBranch := textOf v }
  | ("report", "mode") => { c with mode := if textOf v = "batch" then .batch else .failFast }
  | _ => c

def sectionNames : List String := ["index", "repository", "report"]

def fieldNames : String → List String
  | "index" => ["path", "schema"]
  | "repository" => ["path", "remote", "main_branch"]
  | "report" => ["mode"]
  | _ => []

/-- Fields that a section can take. -/
def Fits (p : String × String) (v : Value) : Prop :=
  p.2 ∈ fieldNames p.1 ∧ (∃ s, v = .string s) ∧
    (p.1 = "report" → textOf v = "fail-fast" ∨ textOf v = "batch")

section Reading

/-- Steps that may be refused come to the same as steps that may not, if none of them is. -/
theorem foldlM_eq_ok {α φ : Type} {step : Config → α → Except φ Config} {fits : α → Prop}
    {take : Config → α → Config} {as : List α} {c c' : Config}
    (h : ∀ a ∈ as, ∀ c c', step c a = .ok c' ↔ fits a ∧ c' = take c a) :
    as.foldlM step c = .ok c' ↔ (∀ a ∈ as, fits a) ∧ c' = as.foldl take c := by
  induction as generalizing c with
  | nil => simp [pure, Except.pure, eq_comm]
  | cons a as ih =>
    obtain ⟨hfirst, hrest⟩ := List.forall_mem_cons.mp h
    rw [List.foldlM_cons, bind_eq_ok, List.forall_mem_cons, List.foldl_cons]
    constructor
    · rintro ⟨d, hd, hfold⟩
      obtain ⟨hfits, rfl⟩ := (hfirst c d).mp hd
      obtain ⟨hall, hc⟩ := (ih hrest).mp hfold
      exact ⟨⟨hfits, hall⟩, hc⟩
    · rintro ⟨⟨hfits, hall⟩, hc⟩
      exact ⟨take c a, (hfirst c _).mpr ⟨hfits, rfl⟩, (ih hrest).mpr ⟨hall, hc⟩⟩

variable {name key : String} {v : Value} {c c' : Config}

theorem readText_eq_ok {expected s : String} : readText expected v = .ok s ↔ v = .string s := by
  cases v <;> simp [readText]

theorem readPath_eq_ok {p : Path} : readPath v = .ok p ↔ ∃ s, v = .string s ∧ ⟨s⟩ = p := by
  simp only [readPath, map_eq_ok, readText_eq_ok]

theorem readString_eq_ok {text : String} :
    Config.readString v = .ok text ↔ ∃ s, v = .string s ∧ s = text := by
  simp only [Config.readString, readText_eq_ok, exists_eq_right]

theorem modeOfName_eq_ok {text : String} {mode : Mode} : modeOfName text = .ok mode ↔
    (text = "fail-fast" ∨ text = "batch") ∧
      mode = if text = "batch" then .batch else .failFast := by
  have hfirst : Mode.failFast.name = "fail-fast" := rfl
  have hsecond : Mode.batch.name = "batch" := rfl
  rw [modeOfName, hfirst, hsecond]
  by_cases hfail : text = "fail-fast"
  · simp [hfail, eq_comm]
  · by_cases hbatch : text = "batch"
    · simp [hbatch, eq_comm]
    · simp [hfail, hbatch]

theorem set_eq_ok {α : Type} {read : Value → Except Config.Flaw α} {make : String → α}
    (hread : ∀ a, read v = .ok a ↔ ∃ s, v = .string s ∧ make s = a) {change : α → Config}
    (hname : name ≠ "report") (hkey : key ∈ fieldNames name)
    (hput : put (name, key) v c = change (make (textOf v))) :
    (do return change (← read v)) = .ok c' ↔ Fits (name, key) v ∧ c' = put (name, key) v c := by
  rw [hput, bind_eq_ok]
  constructor
  · rintro ⟨a, ha, h⟩
    obtain ⟨s, rfl, rfl⟩ := (hread a).mp ha
    exact ⟨⟨hkey, ⟨s, rfl⟩, fun h => absurd h hname⟩, (Except.ok.inj h).symm⟩
  · rintro ⟨⟨-, ⟨s, rfl⟩, -⟩, rfl⟩
    exact ⟨make s, (hread _).mpr ⟨s, rfl, rfl⟩, rfl⟩

theorem assign_eq_ok {s : Section} (hnames : s.names = fieldNames name)
    (hset : key ∈ fieldNames name → (s.set key v c = .ok c' ↔
      Fits (name, key) v ∧ c' = put (name, key) v c)) :
    s.assign c key v = .ok c' ↔ Fits (name, key) v ∧ c' = put (name, key) v c := by
  unfold Section.assign
  rw [hnames]
  by_cases hkey : key ∈ fieldNames name
  · rw [if_pos (List.contains_iff_mem.mpr hkey)]
    exact hset hkey
  · rw [if_neg (mt List.contains_iff_mem.mp hkey)]
    exact iff_of_false nofun fun h => hkey h.1.1

theorem index_assign_eq_ok : Section.index.assign c key v = .ok c' ↔
    Fits ("index", key) v ∧ c' = put ("index", key) v c := by
  refine assign_eq_ok rfl fun hkey => ?_
  rcases (by simpa [fieldNames] using hkey : key = "path" ∨ key = "schema") with rfl | rfl
  · exact set_eq_ok (fun _ => readPath_eq_ok) (by decide) hkey rfl
  · exact set_eq_ok (fun _ => readPath_eq_ok) (by decide) hkey rfl

theorem repository_assign_eq_ok : Section.repository.assign c key v = .ok c' ↔
    Fits ("repository", key) v ∧ c' = put ("repository", key) v c := by
  refine assign_eq_ok rfl fun hkey => ?_
  rcases (by simpa [fieldNames] using hkey : key = "path" ∨ key = "remote" ∨ key = "main_branch")
    with rfl | rfl | rfl
  · exact set_eq_ok (fun _ => readPath_eq_ok) (by decide) hkey rfl
  · exact set_eq_ok (fun _ => readString_eq_ok) (by decide) hkey rfl
  · exact set_eq_ok (fun _ => readString_eq_ok) (by decide) hkey rfl

theorem report_assign_eq_ok (h : key = "mode" → ¬ IsTable v) :
    Section.report.assign c key v = .ok c' ↔
      Fits ("report", key) v ∧ c' = put ("report", key) v c := by
  refine assign_eq_ok rfl fun hkey => ?_
  obtain rfl : key = "mode" := by simpa [fieldNames] using hkey
  change (readMode v >>= fun mode => pure { c with mode := mode }) = .ok c' ↔ _
  rw [bind_eq_ok]
  cases v with
  | string s =>
    simp only [readMode, modeOfName_eq_ok]
    constructor
    · rintro ⟨_, ⟨hs, rfl⟩, hc⟩
      exact ⟨⟨hkey, ⟨s, rfl⟩, fun _ => hs⟩, (Except.ok.inj hc).symm⟩
    · rintro ⟨⟨-, -, hs⟩, rfl⟩
      exact ⟨_, ⟨hs rfl, rfl⟩, rfl⟩
  | table origin fields => exact absurd ⟨origin, fields, rfl⟩ (h rfl)
  | _ =>
    refine iff_of_false ?_ ?_
    · rintro ⟨_, hmode, -⟩
      cases hmode
    · rintro ⟨⟨-, ⟨_, h⟩, -⟩, -⟩
      cases h

theorem read_table_eq_ok {s : Section} {fields : Fields} (origin : Origin)
    (h : ∀ g ∈ fields, ∀ c c', s.assign c g.1 g.2 = .ok c' ↔
      Fits (name, g.1) g.2 ∧ c' = put (name, g.1) g.2 c) :
    s.read (.table origin fields) c = .ok c' ↔ (∀ g ∈ fields, Fits (name, g.1) g.2) ∧
      c' = fields.foldl (fun c g => put (name, g.1) g.2 c) c :=
  foldlM_eq_ok h

theorem root_assign_eq_ok (htable : name ∈ sectionNames → IsTable v)
    (hmode : name = "report" → ∀ w, ("mode", w) ∈ inside v → ¬ IsTable w) :
    Section.root.assign c name v = .ok c' ↔
      (name ∈ sectionNames ∧ ∀ g ∈ inside v, Fits (name, g.1) g.2) ∧
        c' = (inside v).foldl (fun c g => put (name, g.1) g.2 c) c := by
  have hnames : Section.root.names = sectionNames := rfl
  rw [Section.assign, hnames]
  by_cases hname : name ∈ sectionNames
  · rw [if_pos (List.contains_iff_mem.mpr hname), and_iff_right hname]
    obtain ⟨origin, fields, rfl⟩ := htable hname
    rcases (by simpa [sectionNames] using hname : name = "index" ∨ name = "repository" ∨
      name = "report") with rfl | rfl | rfl
    · exact read_table_eq_ok origin fun _ _ _ _ => index_assign_eq_ok
    · exact read_table_eq_ok origin fun _ _ _ _ => repository_assign_eq_ok
    · refine read_table_eq_ok origin fun g hg _ _ => report_assign_eq_ok fun hkey => ?_
      exact hmode rfl g.2 (hkey ▸ hg)
  · rw [if_neg (mt List.contains_iff_mem.mp hname)]
    exact iff_of_false nofun fun h => hname h.1.1

/-- The configuration with all fields of a document taken into it, one after the other. -/
def taken (fields : Fields) (c : Config) : Config :=
  (settings fields).foldl (fun c f => put f.1 f.2 c) c

theorem root_read_eq_ok {fields : Fields} {origin : Origin} (hsections : Sectioned fields) :
    Section.root.read (.table origin fields) c = .ok c' ↔
      ((∀ f ∈ fields, f.1 ∈ sectionNames) ∧ ∀ f ∈ settings fields, Fits f.1 f.2) ∧
        c' = taken fields c := by
  have hstep : ∀ f ∈ fields, ∀ c c', Section.root.assign c f.1 f.2 = .ok c' ↔
      (f.1 ∈ sectionNames ∧ ∀ g ∈ inside f.2, Fits (f.1, g.1) g.2) ∧
        c' = (inside f.2).foldl (fun c g => put (f.1, g.1) g.2 c) c := by
    intro ⟨name, v⟩ hf c c'
    refine root_assign_eq_ok (fun hname => hsections.tables name hname v (holds_one.mpr hf)) ?_
    rintro rfl w hw
    refine hsections.mode w (mem_settings.mp (List.mem_flatMap.mpr ⟨_, hf, ?_⟩))
    exact List.mem_map.mpr ⟨_, hw, rfl⟩
  have hall : (∀ f ∈ fields, f.1 ∈ sectionNames ∧ ∀ g ∈ inside f.2, Fits (f.1, g.1) g.2) ↔
      (∀ f ∈ fields, f.1 ∈ sectionNames) ∧ ∀ f ∈ settings fields, Fits f.1 f.2 := by
    simp only [settings, List.forall_mem_flatMap, List.forall_mem_map, forall_and]
  have htaken : taken fields c = fields.foldl
      (fun c f => (inside f.2).foldl (fun c g => put (f.1, g.1) g.2 c) c) c := by
    simp only [taken, settings, List.foldl_flatMap, List.foldl_map]
  rw [← hall, htaken]
  exact foldlM_eq_ok hstep

end Reading

/-! Each setting of the configuration on its own. -/

section Views

/-- What a field with one name leaves as it is. -/
structure Untouched (q : String × String) (c c' : Config) : Prop where
  manifest : q ≠ ("index", "path") → c'.manifest = c.manifest
  schema : q ≠ ("index", "schema") → c'.schema = c.schema
  repository : q ≠ ("repository", "path") → c'.repository = c.repository
  remote : q ≠ ("repository", "remote") → c'.remote = c.remote
  mainBranch : q ≠ ("repository", "main_branch") → c'.mainBranch = c.mainBranch
  mode : q ≠ ("report", "mode") → c'.mode = c.mode

theorem untouched_put (q : String × String) (v : Value) (c : Config) :
    Untouched q c (put q v c) := by
  unfold put
  split <;> constructor <;> intro hq <;> first | rfl | exact absurd rfl hq

/-- A part of a configuration that the fields of one name make, and no others. -/
structure View {α : Type} (view : Config → α) (p : String × String) (make : String → α) : Prop where
  put_self : ∀ v c, Fits p v → view (put p v c) = make (textOf v)
  put_other : ∀ q v c, q ≠ p → view (put q v c) = view c

theorem manifestView : View (·.manifest.text) ("index", "path") id :=
  ⟨fun _ _ _ => rfl, fun q v c hq => congrArg Path.text ((untouched_put q v c).manifest hq)⟩

theorem schemaView : View (·.schema.text) ("index", "schema") id :=
  ⟨fun _ _ _ => rfl, fun q v c hq => congrArg Path.text ((untouched_put q v c).schema hq)⟩

theorem repositoryView : View Config.repository ("repository", "path") fun s => some ⟨s⟩ :=
  ⟨fun _ _ _ => rfl, fun q v c hq => (untouched_put q v c).repository hq⟩

theorem remoteView : View Config.remote ("repository", "remote") some :=
  ⟨fun _ _ _ => rfl, fun q v c hq => (untouched_put q v c).remote hq⟩

theorem mainBranchView : View Config.mainBranch ("repository", "main_branch") id :=
  ⟨fun _ _ _ => rfl, fun q v c hq => (untouched_put q v c).mainBranch hq⟩

theorem modeView : View (·.mode.name) ("report", "mode") id := by
  refine ⟨fun v c hfits => ?_, fun q v c hq => congrArg Mode.name ((untouched_put q v c).mode hq)⟩
  rcases hfits.2.2 rfl with h | h
  · simp [put, h, Mode.name]
  · simp [put, h, Mode.name]

variable {α : Type} {view : Config → α} {p : String × String} {make : String → α}
  {fs : List ((String × String) × Value)} {c : Config} {v : Value}

theorem View.foldl_of_notMem (hview : View view p make) (h : ∀ v, (p, v) ∉ fs) :
    view (fs.foldl (fun c f => put f.1 f.2 c) c) = view c := by
  induction fs generalizing c with
  | nil => rfl
  | cons f fs ih =>
    rw [List.foldl_cons, ih fun v hv => h v (List.mem_cons_of_mem _ hv)]
    exact hview.put_other f.1 f.2 c fun hf => h f.2 (hf ▸ List.mem_cons_self)

theorem View.foldl_of_mem (hview : View view p make) (hkeys : (fs.map (·.1)).Nodup)
    (hmem : (p, v) ∈ fs) (hfits : Fits p v) :
    view (fs.foldl (fun c f => put f.1 f.2 c) c) = make (textOf v) := by
  obtain ⟨before, after, rfl⟩ := List.append_of_mem hmem
  have hafter : ∀ w, (p, w) ∉ after := by
    intro w hw
    rw [List.map_append, List.map_cons] at hkeys
    exact (List.nodup_cons.mp (List.nodup_append.mp hkeys).2.1).1 (List.mem_map.mpr ⟨_, hw, rfl⟩)
  rw [List.foldl_append, List.foldl_cons, hview.foldl_of_notMem hafter]
  exact hview.put_self v _ hfits

variable {fields : Fields} {name key : String} (hdistinct : fields.Distinct)
  (hfits : ∀ f ∈ settings fields, Fits f.1 f.2)

omit hdistinct hfits in
theorem View.taken_of_not_given (hview : View view (name, key) make)
    (h : ¬ Given fields [name, key]) : view (taken fields c) = view c :=
  hview.foldl_of_notMem fun v hv => h ⟨v, mem_settings.mp hv⟩

include hdistinct hfits

theorem View.taken_of_holds (hview : View view (name, key) make)
    (h : Holds fields [name, key] v) : view (taken fields c) = make (textOf v) :=
  hview.foldl_of_mem (nodup_settings hdistinct) (mem_settings.mpr h)
    (hfits _ (mem_settings.mpr h))

theorem View.told {view : Config → String} (hview : View view (name, key) id) :
    Told fields [name, key] (view c) (view (taken fields c)) :=
  ⟨fun _ h => hview.taken_of_holds hdistinct hfits h, hview.taken_of_not_given⟩

theorem View.some_iff {view : Config → Option α}
    (hview : View view (name, key) fun s => some (make s)) (hmake : make.Injective)
    (hnone : view c = none) {s : String} :
    view (taken fields c) = some (make s) ↔ Holds fields [name, key] (.string s) := by
  constructor
  · intro h
    by_cases hgiven : Given fields [name, key]
    · obtain ⟨v, hv⟩ := hgiven
      obtain ⟨-, ⟨t, rfl⟩, -⟩ := hfits _ (mem_settings.mpr hv)
      rw [hview.taken_of_holds hdistinct hfits hv] at h
      exact hmake (Option.some.inj h) ▸ hv
    · rw [hview.taken_of_not_given hgiven, hnone] at h
      cases h
  · exact hview.taken_of_holds hdistinct hfits

theorem settles_taken : Settles fields (taken fields .standard) where
  manifest := manifestView.told hdistinct hfits
  schema := schemaView.told hdistinct hfits
  repository _ := repositoryView.some_iff hdistinct hfits (fun _ _ h => Path.mk.inj h) rfl
  remote _ := remoteView.some_iff hdistinct hfits (fun _ _ h => h) rfl
  mainBranch := mainBranchView.told hdistinct hfits
  mode := modeView.told hdistinct hfits

end Views

section Documents

variable {fields : Fields} {c c' : Config}

theorem Told.eq {path : List String} {standard text text' : String}
    (hstrings : ∀ v, Holds fields path v → ∃ s, v = .string s)
    (h : Told fields path standard text) (h' : Told fields path standard text') : text = text' := by
  by_cases hgiven : Given fields path
  · obtain ⟨v, hv⟩ := hgiven
    obtain ⟨s, rfl⟩ := hstrings v hv
    rw [h.1 s hv, h'.1 s hv]
  · rw [h.2 hgiven, h'.2 hgiven]

theorem mode_name_injective : Mode.name.Injective := by
  intro mode mode' h
  cases mode <;> cases mode' <;> first | rfl | exact absurd h (by decide)

theorem Settles.eq (hstrings : ∀ name key v, Holds fields [name, key] v → ∃ s, v = .string s)
    (h : Settles fields c) (h' : Settles fields c') : c = c' := by
  have hmanifest := h.manifest.eq (hstrings _ _) h'.manifest
  have hschema := h.schema.eq (hstrings _ _) h'.schema
  have hrepository : c.repository = c'.repository :=
    Option.ext fun p => (h.repository p).trans (h'.repository p).symm
  have hremote : c.remote = c'.remote := Option.ext fun r => (h.remote r).trans (h'.remote r).symm
  have hmainBranch := h.mainBranch.eq (hstrings _ _) h'.mainBranch
  have hmode := mode_name_injective (h.mode.eq (hstrings _ _) h'.mode)
  obtain ⟨⟨manifest⟩, ⟨schema⟩, repository, remote, mainBranch, mode⟩ := c
  obtain ⟨⟨manifest'⟩, ⟨schema'⟩, repository', remote', mainBranch', mode'⟩ := c'
  cases hmanifest
  cases hschema
  cases hrepository
  cases hremote
  cases hmainBranch
  cases hmode
  rfl

theorem ofText_eq_ok {text : String} :
    Config.ofText text = .ok c ↔ Config.read text = .ok c ∧ c.validate = .ok () := by
  rw [Config.ofText, bind_eq_ok]
  simp only [mapError_eq_ok, bind_eq_ok, pure, Except.pure, Except.ok.injEq]
  constructor
  · rintro ⟨_, hread, ⟨⟩, hvalid, rfl⟩
    exact ⟨hread, hvalid⟩
  · rintro ⟨hread, hvalid⟩
    exact ⟨c, hread, (), hvalid, rfl⟩

theorem validate_iff (hstrings : ∀ name key v, Holds fields [name, key] v → ∃ s, v = .string s)
    (h : Settles fields c) : c.validate = .ok () ↔
      (∀ name, Told fields ["repository", "main_branch"] "master" name →
        ∀ field, validateBranchName field name = .ok ()) ∧
      ∀ r, Holds fields ["repository", "remote"] (.string r) → Text.trim r ≠ "" := by
  rw [Layers.validate_eq_ok]
  constructor
  · rintro ⟨hname, hremote⟩
    refine ⟨fun name htold field => ?_, fun r hr => hremote r ((h.remote r).mpr hr)⟩
    obtain rfl := htold.eq (hstrings _ _) h.mainBranch
    exact validateBranchName_eq_ok.mpr hname
  · rintro ⟨hname, hremote⟩
    exact ⟨validateBranchName_eq_ok.mp (hname _ h.mainBranch ""),
      fun r hr => hremote r ((h.remote r).mp hr)⟩

theorem Admitted.fits (h : Admitted fields) : ∀ f ∈ settings fields, Fits f.1 f.2 := by
  rintro ⟨⟨name, key⟩, v⟩ hf
  have hheld := mem_settings.mp hf
  obtain ⟨origin, inner, hname, -⟩ := holds_two.mp hheld
  obtain ⟨s, rfl⟩ := h.strings _ _ _ hheld
  rcases (by simpa using h.sections _ ⟨_, holds_one.mpr hname⟩ : name = "index" ∨
    name = "repository" ∨ name = "report") with rfl | rfl | rfl
  · exact ⟨h.index _ ⟨_, hheld⟩, ⟨s, rfl⟩, fun hname => absurd hname (by simp)⟩
  · exact ⟨h.repository _ ⟨_, hheld⟩, ⟨s, rfl⟩, fun hname => absurd hname (by simp)⟩
  · have hkey := h.report _ ⟨_, hheld⟩
    obtain rfl := List.mem_singleton.mp hkey
    exact ⟨hkey, ⟨s, rfl⟩, fun _ => h.mode s hheld⟩

theorem admitted_iff (hdistinct : fields.Distinct) : Admitted fields ↔
    ((∀ f ∈ fields, f.1 ∈ sectionNames) ∧ ∀ f ∈ settings fields, Fits f.1 f.2) ∧
      (taken fields .standard).validate = .ok () := by
  constructor
  · intro h
    have hsettles := settles_taken hdistinct h.fits
    exact ⟨⟨fun f hf => h.sections f.1 ⟨f.2, holds_one.mpr hf⟩, h.fits⟩,
      (validate_iff h.strings hsettles).mpr ⟨h.mainBranch, h.remote⟩⟩
  · rintro ⟨⟨hsections, hfits⟩, hvalid⟩
    have hheld : ∀ name key v, Holds fields [name, key] v → Fits (name, key) v :=
      fun name key v hv => hfits ((name, key), v) (mem_settings.mpr hv)
    have hstrings := fun name key v hv => (hheld name key v hv).2.1
    obtain ⟨hbranch, hremote⟩ := (validate_iff hstrings (settles_taken hdistinct hfits)).mp hvalid
    exact {
      sections := fun name ⟨v, hv⟩ => hsections (name, v) (holds_one.mp hv)
      index := fun key ⟨v, hv⟩ => (hheld _ key v hv).1
      repository := fun key ⟨v, hv⟩ => (hheld _ key v hv).1
      report := fun key ⟨v, hv⟩ => (hheld _ key v hv).1
      strings := hstrings
      mode := fun s hs => (hheld _ _ _ hs).2.2 rfl
      mainBranch := hbranch
      remote := hremote }

/-- The configuration of a text is known from what is in its document. -/
theorem ofText_eq_ok_iff {text : String} (hparse : Toml.parse text = .ok fields)
    (hsections : Sectioned fields) :
    Config.ofText text = .ok c ↔ Admitted fields ∧ Settles fields c := by
  have hdistinct := distinct_of_parse hparse
  rw [ofText_eq_ok, Config.read, hparse, admitted_iff hdistinct]
  dsimp only
  rw [root_read_eq_ok hsections]
  constructor
  · rintro ⟨⟨hgood, rfl⟩, hvalid⟩
    exact ⟨⟨hgood, hvalid⟩, settles_taken hdistinct hgood.2⟩
  · rintro ⟨⟨hgood, hvalid⟩, hsettles⟩
    have hstrings := ((admitted_iff hdistinct).mpr ⟨hgood, hvalid⟩).strings
    obtain rfl := hsettles.eq hstrings (settles_taken hdistinct hgood.2)
    exact ⟨⟨hgood, rfl⟩, hvalid⟩

end Documents

section Notations

variable {fields fields' : Fields} {path : List String}

theorem Told.alike {standard text : String} (h : Told fields path standard text)
    (halike : Alike fields fields') : Told fields' path standard text :=
  ⟨fun t ht => h.1 t (halike.symm.transferString ht),
    fun hnone => h.2 fun hgiven => hnone (halike.given hgiven)⟩

theorem Sectioned.alike (h : Sectioned fields) (halike : Alike fields fields') :
    Sectioned fields' := by
  constructor
  case tables =>
    intro name hname v hv
    rcases halike.symm.transfer hv with hv | ⟨htable, -⟩
    · exact h.tables name hname v hv
    · exact htable
  case mode =>
    intro v hv htable
    obtain ⟨w, hwtable, hw⟩ := (halike.tables _).mpr ⟨v, htable, hv⟩
    exact h.mode w hw hwtable

theorem Admitted.alike (h : Admitted fields) (halike : Alike fields fields') :
    Admitted fields' := by
  constructor
  case sections => exact fun name hname => h.sections name (halike.symm.given hname)
  case index => exact fun key hkey => h.index key (halike.symm.given hkey)
  case repository => exact fun key hkey => h.repository key (halike.symm.given hkey)
  case report => exact fun key hkey => h.report key (halike.symm.given hkey)
  case strings =>
    intro name key v hv
    rcases halike.symm.transfer hv with hv | ⟨-, w, ⟨origin, inner, rfl⟩, hw⟩
    · exact h.strings name key v hv
    · obtain ⟨_, ⟨⟩⟩ := h.strings name key _ hw
  case mode => exact fun s hs => h.mode s (halike.symm.transferString hs)
  case mainBranch => exact fun name hname => h.mainBranch name (hname.alike halike.symm)
  case remote => exact fun r hr => h.remote r (halike.symm.transferString hr)

theorem Settles.alike {c : Config} (h : Settles fields c) (halike : Alike fields fields') :
    Settles fields' c where
  manifest := h.manifest.alike halike
  schema := h.schema.alike halike
  repository p := (h.repository p).trans ⟨halike.transferString, halike.symm.transferString⟩
  remote r := (h.remote r).trans ⟨halike.transferString, halike.symm.transferString⟩
  mainBranch := h.mainBranch.alike halike
  mode := h.mode.alike halike

end Notations

/-- A text makes a configuration exactly if it is a document with nothing but good settings in it.
It is the configuration with these settings, and the standard ones where there are none. Other texts
make the same of a document that holds the same. -/
theorem ofText_exact (text : String)
    (hscope : ∀ fields, Toml.parse text = .ok fields → Sectioned fields) :
    ((∃ c, Config.ofText text = .ok c) ↔
      ∃ fields, Toml.parse text = .ok fields ∧ Admitted fields) ∧
    (∀ c, Config.ofText text = .ok c ↔
      ∃ fields, Toml.parse text = .ok fields ∧ Admitted fields ∧ Settles fields c) ∧
    ∀ text' fields fields', Toml.parse text = .ok fields → Toml.parse text' = .ok fields' →
      Alike fields fields' → ∀ c, Config.ofText text' = .ok c ↔ Config.ofText text = .ok c := by
  -- A text that is no document makes no configuration, so there is always one to speak of.
  have hunread : ∀ c, Config.ofText text = .ok c → ∃ fields, Toml.parse text = .ok fields := by
    intro c h
    have hread := (ofText_eq_ok.mp h).1
    rw [Config.read] at hread
    split at hread
    · cases hread
    · next fields hparse => exact ⟨fields, hparse⟩
  have hexact : ∀ c, Config.ofText text = .ok c ↔
      ∃ fields, Toml.parse text = .ok fields ∧ Admitted fields ∧ Settles fields c := by
    intro c
    constructor
    · intro h
      obtain ⟨fields, hparse⟩ := hunread c h
      exact ⟨fields, hparse, (ofText_eq_ok_iff hparse (hscope fields hparse)).mp h⟩
    · rintro ⟨fields, hparse, h⟩
      exact (ofText_eq_ok_iff hparse (hscope fields hparse)).mpr h
  refine ⟨⟨?_, ?_⟩, hexact, ?_⟩
  · rintro ⟨c, h⟩
    obtain ⟨fields, hparse, hadmitted, -⟩ := (hexact c).mp h
    exact ⟨fields, hparse, hadmitted⟩
  · rintro ⟨fields, hparse, hadmitted⟩
    have hsettles := settles_taken (distinct_of_parse hparse) hadmitted.fits
    exact ⟨_, (hexact _).mpr ⟨fields, hparse, hadmitted, hsettles⟩⟩
  · intro text' fields fields' hparse hparse' halike c
    have hsections := hscope fields hparse
    rw [ofText_eq_ok_iff hparse hsections, ofText_eq_ok_iff hparse' (hsections.alike halike)]
    exact ⟨fun h => ⟨h.1.alike halike.symm, h.2.alike halike.symm⟩,
      fun h => ⟨h.1.alike halike, h.2.alike halike⟩⟩

section Samples

def headerText : String :=
  "[index]\nschema = \"s.json\"\n\n[repository]\nremote = \"/srv/upstream\"\n" ++
    "main_branch = \"trunk\"\n\n[report]\nmode = \"batch\"\n"

def headerFields : Fields :=
  [("index", .table .header [("schema", .string "s.json")]),
    ("repository", .table .header
      [("remote", .string "/srv/upstream"), ("main_branch", .string "trunk")]),
    ("report", .table .header [("mode", .string "batch")])]

/-- The same between braces and with dots, the other way round. -/
def dottedText : String :=
  "report = \x7b mode = \"batch\" \x7d\nrepository.main_branch = \"trunk\"\n" ++
    "repository.remote = \"/srv/upstream\"\nindex.schema = \"s.json\"\n"

def dottedFields : Fields :=
  [("report", .table .inline [("mode", .string "batch")]),
    ("repository", .table .dotted
      [("main_branch", .string "trunk"), ("remote", .string "/srv/upstream")]),
    ("index", .table .dotted [("schema", .string "s.json")])]

def sampleConfig : Config :=
  ⟨⟨"release-index.yaml"⟩, ⟨"s.json"⟩, none, some "/srv/upstream", "trunk", .batch⟩

theorem sectioned_headerFields : Sectioned headerFields := by
  constructor
  case tables =>
    intro name _ v hv
    have hmem := holds_one.mp hv
    simp only [headerFields, List.mem_cons, List.not_mem_nil, or_false, Prod.mk.injEq] at hmem
    rcases hmem with ⟨-, rfl⟩ | ⟨-, rfl⟩ | ⟨-, rfl⟩ <;> exact ⟨_, _, rfl⟩
  case mode =>
    intro v hv
    have hmem := mem_settings.mpr hv
    have hv : v = .string "batch" := by simpa [headerFields, settings, inside] using hmem
    rintro ⟨_, _, rfl⟩
    cases hv

theorem alike_dottedFields : Alike headerFields dottedFields := by
  have hnil : Alike [] [] := .of_perm .nil
  have hrepository := Alike.of_perm (List.Perm.swap ("main_branch", .string "trunk")
    ("remote", .string "/srv/upstream") [])
  exact (Alike.of_perm (List.reverse_perm headerFields).symm).trans
    (.table_cons (.of_perm .rfl) (.table_cons hrepository (.table_cons (.of_perm .rfl) hnil)))

theorem ofText_exact_sample :
    (∀ fields, Toml.parse headerText = .ok fields → Sectioned fields) ∧
    Config.ofText headerText = .ok sampleConfig ∧
    Config.ofText dottedText = .ok sampleConfig := by
  have hparse : Toml.parse headerText = .ok headerFields := parse_of_isParsedAs (by decide +kernel)
  have hparse' : Toml.parse dottedText = .ok dottedFields := parse_of_isParsedAs (by decide +kernel)
  have hscope : ∀ fields, Toml.parse headerText = .ok fields → Sectioned fields := by
    intro fields h
    obtain rfl := Except.ok.inj (hparse.symm.trans h)
    exact sectioned_headerFields
  have hconfig : Config.ofText headerText = .ok sampleConfig := by decide +kernel
  have hsame := (ofText_exact headerText hscope).2.2 dottedText _ _ hparse hparse'
    alike_dottedFields
  exact ⟨hscope, hconfig, (hsame sampleConfig).mpr hconfig⟩

end Samples

end ConfigText
end ReleaseAudit
