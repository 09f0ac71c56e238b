import ReleaseAudit.Settings

/-! Which layer a setting of a run comes from: of the command line, the environment and the
configuration the highest one that gives it. What stands below that one makes no difference. -/
namespace ReleaseAudit
namespace Precedence

/-- The highest of the layers that give a value gives this one. -/
def Highest {α : Type} (layers : List (Option α)) (a : α) : Prop :=
  ∃ higher lower, layers = higher ++ some a :: lower ∧ ∀ x ∈ higher, x = none

section Layers

variable {α : Type} {layers lower : List (Option α)} {x y z : Option α} {a d : α}

theorem highest_cons : Highest (x :: lower) a ↔ x = some a ∨ x = none ∧ Highest lower a := by
  constructor
  · rintro ⟨higher, rest, hcut, hnone⟩
    cases higher with
    | nil => exact .inl (List.cons.inj hcut).1
    | cons y higher =>
      obtain ⟨rfl, rfl⟩ := List.cons.inj hcut
      exact .inr ⟨hnone x (by simp), higher, rest, rfl, fun y hy => hnone y (by simp [hy])⟩
  · rintro (rfl | ⟨rfl, higher, rest, rfl, hnone⟩)
    · exact ⟨[], lower, rfl, fun _ h => nomatch h⟩
    · exact ⟨none :: higher, rest, rfl, List.forall_mem_cons.mpr ⟨rfl, hnone⟩⟩

theorem highest_iff_foldr : Highest layers a ↔ layers.foldr Option.or none = some a := by
  induction layers with
  | nil => simp [Highest]
  | cons x lower ih => rw [highest_cons, List.foldr_cons, Option.or_eq_some_iff, ih]

theorem highest_two : Highest [x, y] a ↔ (x <|> y) = some a := by simp [highest_iff_foldr]

theorem highest_three : Highest [x, y, z] a ↔ (x <|> y <|> z) = some a := by
  simp [highest_iff_foldr]

theorem highest_default : Highest [x, some d] a ↔ a = x.getD d := by
  cases x <;> simp [highest_two, eq_comm]

end Layers

/-- The repository that the environment names. Nothing else of the environment is looked at. -/
def named? (environment : Environment) : Option Path :=
  match environment.lookup "RELEASE_INDEX_REPO_PATH" with
  | some text => if text = "" then none else some ⟨text⟩
  | none => none

def separator (folder : Path) : String :=
  if folder.chars = [] ∨ folder.chars.getLast? = some '/' then "" else "/"

/-- How a path is seen from a folder: an absolute one as it is, another one behind the folder. -/
inductive SeenFrom (folder p : Path) : Path → Prop
  | absolute (h : p.chars.head? = some '/') : SeenFrom folder p p
  | relative (h : p.chars.head? ≠ some '/') :
    SeenFrom folder p ⟨folder.text ++ separator folder ++ p.text⟩

/-- A path given by the highest of some layers, as it is seen from a folder. -/
def GivenPath (folder : Path) (layers : List (Option Path)) (q : Path) : Prop :=
  ∃ p, Highest layers p ∧ SeenFrom folder p q

/-- The main branch on the command line, if there is one there, is a name for a branch. -/
def ValidFlag (o : Overrides) : Prop :=
  ∀ name, o.mainBranch = some name → branchNameFlaw? name = none

def repositoryLayers (c : Config) (o : Overrides) (environment : Environment) :
    List (Option Path) := [o.repository, named? environment, c.repository]

/-- Settings that each come from the highest layer that gives them. -/
structure Resolved (root : Path) (c : Config) (o : Overrides) (environment : Environment)
    (s : Settings) : Prop where
  manifest : GivenPath root [o.manifest, some c.manifest] s.manifest
  schema : GivenPath root [o.schema, some c.schema] s.schema
  repository : GivenPath root (repositoryLayers c o environment) s.repository
  remote : ∀ r, s.remote = some r ↔ Highest [o.remote, c.remote] r
  mainBranch : Highest [o.mainBranch, some c.mainBranch] s.mainBranch
  validFlag : ValidFlag o
  mode : s.mode = .batch ↔ o.batch = true ∨ c.mode = .batch

/-- Why there are no settings: no layer names a repository, whatever else there is to say, or the
main branch on the command line is no name for a branch. -/
inductive Refused (c : Config) (o : Overrides) (environment : Environment) : Fault → Prop
  | missingRepository (h : ∀ x ∈ repositoryLayers c o environment, x = none) :
    Refused c o environment (.missingSetting "repository path" ("Pass --repo-path, set " ++
      "RELEASE_INDEX_REPO_PATH or add [repository] path to release-index-check.toml"))
  | invalidFlag {p : Path} {name reason : String} (h : Highest (repositoryLayers c o environment) p)
    (hflag : o.mainBranch = some name) (hreason : branchNameFlaw? name = some reason) :
    Refused c o environment (.invalidSetting "--main-branch" name reason)

/-- Environments and configurations that differ at most in values that a higher layer hides, and in
variables that do not name the repository. -/
structure Overshadowed (o : Overrides) (environment environment' : Environment) (c c' : Config) :
    Prop where
  manifest : o.manifest = none → c.manifest = c'.manifest
  schema : o.schema = none → c.schema = c'.schema
  named : o.repository = none → environment.lookup "RELEASE_INDEX_REPO_PATH" =
    environment'.lookup "RELEASE_INDEX_REPO_PATH"
  repository : o.repository = none → named? environment = none → c.repository = c'.repository
  remote : o.remote = none → c.remote = c'.remote
  mainBranch : o.mainBranch = none → c.mainBranch = c'.mainBranch
  mode : o.batch = false → c.mode = c'.mode

section Choices

variable {root : Path} {c c' : Config} {o : Overrides} {environment environment' : Environment}
  {s : Settings} {fault : Fault}

theorem environmentRepository_eq (environment : Environment) :
    Settings.environmentRepository environment = named? environment := by
  unfold Settings.environmentRepository Settings.repositoryVariable named?
  cases environment.lookup "RELEASE_INDEX_REPO_PATH" with
  | none => rfl
  | some text => by_cases h : text = "" <;> simp [h, Option.filter]

theorem join_of_relative {folder p : Path} (h : p.isAbsolute ≠ true) :
    folder.join p = ⟨folder.text ++ separator folder ++ p.text⟩ := by
  rw [Path.join, if_neg h, separator]
  by_cases hend : folder.chars = [] ∨ folder.chars.getLast? = some '/'
  · rw [if_pos (by simpa using hend), if_pos hend, String.append_empty]
  · rw [if_neg (by simpa using hend), if_neg hend]

theorem seenFrom_iff {folder p q : Path} : SeenFrom folder p q ↔ q = folder.join p := by
  have habsolute : p.isAbsolute = true ↔ p.chars.head? = some '/' := decide_eq_true_iff
  constructor
  · rintro (h | h)
    · exact (Path.join_of_isAbsolute (habsolute.mpr h)).symm
    · exact (join_of_relative (mt habsolute.mp h)).symm
  · rintro rfl
    by_cases h : p.isAbsolute = true
    · rw [Path.join_of_isAbsolute h]
      exact .absolute (habsolute.mp h)
    · rw [join_of_relative h]
      exact .relative (mt habsolute.mpr h)

theorem givenPath_iff {layers : List (Option Path)} {q : Path} :
    GivenPath root layers q ↔ ∃ p, Highest layers p ∧ q = root.join p := by
  simp only [GivenPath, seenFrom_iff]

theorem givenPath_default {x : Option Path} {d q : Path} :
    GivenPath root [x, some d] q ↔ q = root.join (x.getD d) := by
  simp only [givenPath_iff, highest_default, exists_eq_left]

theorem chooseRepository_eq_ok {p : Path} : Settings.chooseRepository c o environment = .ok p ↔
    Highest (repositoryLayers c o environment) p := by
  rw [Settings.chooseRepository, environmentRepository_eq, repositoryLayers, highest_three]
  cases (o.repository <|> named? environment <|> c.repository) <;> simp

theorem chooseRepository_eq_error :
    Settings.chooseRepository c o environment = .error fault ↔
      (∀ x ∈ repositoryLayers c o environment, x = none) ∧ fault = Settings.missingRepository := by
  have hnone : (∀ x ∈ repositoryLayers c o environment, x = none) ↔
      (o.repository <|> named? environment <|> c.repository) = none := by
    simp [repositoryLayers]
  rw [Settings.chooseRepository, environmentRepository_eq, hnone]
  cases (o.repository <|> named? environment <|> c.repository) <;> simp [eq_comm]

theorem chooseMainBranch_eq_ok {name : String} : Settings.chooseMainBranch c o = .ok name ↔
    Highest [o.mainBranch, some c.mainBranch] name ∧ ValidFlag o := by
  rw [highest_default]
  unfold Settings.chooseMainBranch ValidFlag
  cases o.mainBranch with
  | none => simp [eq_comm]
  | some flag =>
    simp only [bind_eq_ok, Option.getD_some, Option.some.injEq, forall_eq']
    constructor
    · rintro ⟨_, hvalid, hname⟩
      exact ⟨(Except.ok.inj hname).symm, validateBranchName_eq_ok.mp hvalid⟩
    · rintro ⟨rfl, hvalid⟩
      exact ⟨(), validateBranchName_eq_ok.mpr hvalid, rfl⟩

theorem chooseMainBranch_eq_error : Settings.chooseMainBranch c o = .error fault ↔
    ∃ name reason, o.mainBranch = some name ∧ branchNameFlaw? name = some reason ∧
      fault = .invalidSetting "--main-branch" name reason := by
  unfold Settings.chooseMainBranch
  cases o.mainBranch with
  | none => simp
  | some flag =>
    simp only [bind_eq_error, validateBranchName_eq_error, Option.some.injEq, exists_and_left,
      exists_eq_left']
    exact or_iff_left fun ⟨_, _, h⟩ => nomatch h

theorem mode_eq_iff {mode : Mode} : mode = (if o.batch then .batch else c.mode) ↔
    (mode = .batch ↔ o.batch = true ∨ c.mode = .batch) := by
  cases mode <;> cases o.batch <;> cases c.mode <;> simp

theorem resolve_eq_ok_iff :
    Settings.resolve root c o environment = .ok s ↔ Resolved root c o environment s := by
  rw [Settings.resolve_eq_ok]
  constructor
  · rintro ⟨repository, mainBranch, hrepository, hmain, rfl⟩
    obtain ⟨hmain, hflag⟩ := chooseMainBranch_eq_ok.mp hmain
    exact ⟨givenPath_default.mpr rfl, givenPath_default.mpr rfl,
      givenPath_iff.mpr ⟨repository, chooseRepository_eq_ok.mp hrepository, rfl⟩,
      fun r => highest_two.symm, hmain, hflag, mode_eq_iff.mp rfl⟩
  · rintro ⟨hmanifest, hschema, hrepository, hremote, hmain, hflag, hmode⟩
    obtain ⟨repository, hrepository, hseen⟩ := givenPath_iff.mp hrepository
    refine ⟨repository, s.mainBranch, chooseRepository_eq_ok.mpr hrepository,
      chooseMainBranch_eq_ok.mpr ⟨hmain, hflag⟩, ?_⟩
    have hremote : s.remote = (o.remote <|> c.remote) :=
      Option.ext fun r => (hremote r).trans highest_two
    cases s
    simp only [Settings.mk.injEq]
    exact ⟨givenPath_default.mp hmanifest, givenPath_default.mp hschema, hseen, hremote, trivial,
      mode_eq_iff.mpr hmode⟩

theorem resolve_eq_error_iff :
    Settings.resolve root c o environment = .error fault ↔ Refused c o environment fault := by
  simp only [Settings.resolve, bind_eq_error, chooseRepository_eq_error, chooseRepository_eq_ok,
    chooseMainBranch_eq_error]
  constructor
  · rintro (⟨hnone, rfl⟩ | ⟨p, hp, ⟨name, reason, hflag, hreason, rfl⟩ | ⟨_, -, h⟩⟩)
    · exact .missingRepository hnone
    · exact .invalidFlag hp hflag hreason
    · cases h
  · rintro (h | ⟨hp, hflag, hreason⟩)
    · exact .inl ⟨h, rfl⟩
    · exact .inr ⟨_, hp, .inl ⟨_, _, hflag, hreason, rfl⟩⟩

theorem exists_resolve_iff : (∃ s, Settings.resolve root c o environment = .ok s) ↔
    (∃ p, Highest (repositoryLayers c o environment) p) ∧ ValidFlag o := by
  constructor
  · rintro ⟨s, h⟩
    have h := resolve_eq_ok_iff.mp h
    obtain ⟨p, hp, -⟩ := h.repository
    exact ⟨⟨p, hp⟩, h.validFlag⟩
  · rintro ⟨⟨p, hp⟩, hflag⟩
    have hmain : ∃ name, Highest [o.mainBranch, some c.mainBranch] name :=
      ⟨_, highest_default.mpr rfl⟩
    obtain ⟨name, hname⟩ := hmain
    exact ⟨_, Settings.resolve_eq_ok.mpr ⟨p, name, chooseRepository_eq_ok.mpr hp,
      chooseMainBranch_eq_ok.mpr ⟨hname, hflag⟩, rfl⟩⟩

/-! What a higher layer hides. -/

theorem orElse_congr {α : Type} {x y z : Option α} (h : x = none → y = z) :
    (x <|> y) = (x <|> z) := by
  cases x with
  | none => simpa using h rfl
  | some a => rfl

theorem getD_congr {α : Type} {x : Option α} {a b : α} (h : x = none → a = b) :
    x.getD a = x.getD b := by
  cases x with
  | none => exact h rfl
  | some _ => rfl

variable (h : Overshadowed o environment environment' c c')
include h

theorem Overshadowed.chooseRepository : Settings.chooseRepository c o environment =
    Settings.chooseRepository c' o environment' := by
  have hnamed : o.repository = none → named? environment = named? environment' := by
    intro hnone
    rw [named?, named?, h.named hnone]
  have hlayers : (o.repository <|> named? environment <|> c.repository) =
      (o.repository <|> named? environment' <|> c'.repository) :=
    orElse_congr fun hnone => by
      rw [← hnamed hnone]
      exact orElse_congr (h.repository hnone)
  rw [Settings.chooseRepository, Settings.chooseRepository, environmentRepository_eq,
    environmentRepository_eq, hlayers]

theorem Overshadowed.chooseMainBranch :
    Settings.chooseMainBranch c o = Settings.chooseMainBranch c' o := by
  unfold Settings.chooseMainBranch
  cases hflag : o.mainBranch with
  | none => rw [h.mainBranch hflag]
  | some name => rfl

theorem Overshadowed.resolve : Settings.resolve root c o environment =
    Settings.resolve root c' o environment' := by
  have hmode : (if o.batch then Mode.batch else c.mode) = if o.batch then .batch else c'.mode := by
    cases hbatch : o.batch with
    | false => exact h.mode hbatch
    | true => rfl
  unfold Settings.resolve
  rw [h.chooseRepository, h.chooseMainBranch, getD_congr h.manifest, getD_congr h.schema,
    orElse_congr h.remote, hmode]

end Choices

/-- A run has settings exactly if some layer names a repository and the main branch on the command
line, if it is there, is a name for a branch. Each setting then comes from the highest layer that
gives it, and values that a higher one hides make no difference, nor do other variables. -/
theorem resolve_layered (root : Path) (c : Config) (o : Overrides) (environment : Environment) :
    ((∃ s, Settings.resolve root c o environment = .ok s) ↔
      (∃ p, Highest (repositoryLayers c o environment) p) ∧ ValidFlag o) ∧
    (∀ s, Settings.resolve root c o environment = .ok s ↔ Resolved root c o environment s) ∧
    (∀ fault, Settings.resolve root c o environment = .error fault ↔
      Refused c o environment fault) ∧
    ∀ environment' c', Overshadowed o environment environment' c c' →
      Settings.resolve root c o environment = Settings.resolve root c' o environment' :=
  ⟨exists_resolve_iff, fun _ => resolve_eq_ok_iff, fun _ => resolve_eq_error_iff,
    fun _ _ h => h.resolve⟩

section Samples

def sampleConfig : Config :=
  { Config.standard with repository := some ⟨"cache"⟩, remote := some "/srv/upstream" }

def sampleOverrides : Overrides := { Overrides.none with repository := some ⟨"/srv/cache"⟩ }

def sampleEnvironment : Environment :=
  [("RELEASE_INDEX_REPO_PATH", "/elsewhere"), ("HOME", "/root")]

theorem resolve_layered_sample :
    let hidden := { sampleConfig with repository := none }
    Overshadowed sampleOverrides sampleEnvironment [] sampleConfig hidden ∧
      Settings.resolve ⟨"/work"⟩ sampleConfig sampleOverrides sampleEnvironment =
        Settings.resolve ⟨"/work"⟩ hidden sampleOverrides [] := by
  intro hidden
  have hshadowed : Overshadowed sampleOverrides sampleEnvironment [] sampleConfig hidden :=
    ⟨fun _ => rfl, fun _ => rfl, nofun, nofun, fun _ => rfl, fun _ => rfl, fun _ => rfl⟩
  have hlayered := resolve_layered ⟨"/work"⟩ sampleConfig sampleOverrides sampleEnvironment
  exact ⟨hshadowed, hlayered.2.2.2 [] hidden hshadowed⟩

end Samples

end Precedence
end ReleaseAudit
