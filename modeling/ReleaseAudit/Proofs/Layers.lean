import ReleaseAudit.Settings
import Mathlib.Data.List.TakeWhile

/-! The settings of a run against the rules of the configuration file. The main branch keeps them
whichever layer it comes from; a remote on the command line is never checked. -/
namespace ReleaseAudit
namespace Layers

open Text

/-- A configuration that a run can have: that of a file, or the one without a file. -/
def Accepted (c : Config) : Prop := c = .standard ∨ ∃ text, Config.ofText text = .ok c

def resolved (c : Config) (s : Settings) : Config :=
  { c with mainBranch := s.mainBranch, remote := s.remote }

/-- A remote, where there is one, of which trimming leaves something. -/
def Filled (remote : Option String) : Prop := ∀ r, remote = some r → trim r ≠ ""

theorem trimEnd_eq_nil_iff {cs : List Char} : trimEnd cs = [] ↔ ∀ c ∈ cs, isBlank c = true := by
  rw [trimEnd, List.reverse_eq_nil_iff, List.dropWhile_eq_nil_iff]
  simp only [List.mem_reverse]

/-- Trimming leaves nothing of a text exactly if there is nothing but blanks in it. -/
theorem trim_eq_empty_iff {text : String} : trim text = "" ↔ isAllBlank text = true := by
  rw [trim, trimStart, String.ofList_eq_empty_iff, isAllBlank, List.all_eq_true,
    ← List.dropWhile_eq_nil_iff]
  constructor
  · intro h
    by_contra hne
    -- the first character behind the blanks is at the same time none and one of them
    have hblank := trimEnd_eq_nil_iff.mp h _ (List.head_mem hne)
    rw [List.head_dropWhile_not isBlank hne] at hblank
    cases hblank
  · intro h
    rw [h, trimEnd_nil]

theorem validateRemote_eq_ok {remote : Option String} :
    Config.validateRemote remote = .ok () ↔ Filled remote := by
  cases remote with
  | none => simp [Config.validateRemote, Filled]
  | some r => simp [Config.validateRemote, Filled, trim_eq_empty_iff]

theorem validate_eq_ok {c : Config} :
    c.validate = .ok () ↔ branchNameFlaw? c.mainBranch = none ∧ Filled c.remote := by
  rw [Config.validate, bind_eq_ok, ← validateBranchName_eq_ok, ← validateRemote_eq_ok]
  exact ⟨fun ⟨_, hbranch, hremote⟩ => ⟨hbranch, hremote⟩,
    fun ⟨hbranch, hremote⟩ => ⟨(), hbranch, hremote⟩⟩

variable {root : Path} {c : Config} {o : Overrides} {environment : Environment} {s : Settings}

theorem filled_orElse_iff {first second : Option String} (h : Filled second) :
    Filled (first <|> second) ↔ Filled first := by
  cases first with
  | none => exact iff_of_true h (fun r hr => nomatch hr)
  | some r => rfl

theorem validate_standard : Config.standard.validate = .ok () := by decide

theorem Accepted.validate (h : Accepted c) : c.validate = .ok () := by
  obtain rfl | ⟨text, htext⟩ := h
  · exact validate_standard
  · exact Config.validate_of_ofText htext

theorem accepted_of_load {fs : FileSystem} {folder : Path} (h : Config.load fs folder = .ok c) :
    Accepted c := by
  unfold Config.load Config.ofFile at h
  split at h
  · obtain ⟨text, -, h⟩ := bind_eq_ok.mp h
    cases htext : Config.ofText text with
    | error e =>
      rw [htext] at h
      cases h
    | ok c' =>
      rw [htext] at h
      obtain rfl := Except.ok.inj h
      exact .inr ⟨text, htext⟩
  · exact .inl (Except.ok.inj h).symm

theorem branchNameFlaw?_of_resolve (hc : branchNameFlaw? c.mainBranch = none)
    (h : Settings.resolve root c o environment = .ok s) : branchNameFlaw? s.mainBranch = none := by
  obtain ⟨_, name, -, hname, rfl⟩ := Settings.resolve_eq_ok.mp h
  unfold Settings.chooseMainBranch at hname
  split at hname
  · obtain ⟨_, hvalid, hname⟩ := bind_eq_ok.mp hname
    obtain rfl := Except.ok.inj hname
    exact validateBranchName_eq_ok.mp hvalid
  · obtain rfl := Except.ok.inj hname
    exact hc

theorem remote_of_resolve (h : Settings.resolve root c o environment = .ok s) :
    s.remote = (o.remote <|> c.remote) := by
  obtain ⟨_, _, -, -, rfl⟩ := Settings.resolve_eq_ok.mp h
  rfl

theorem filled_of_resolve (hc : Accepted c)
    (h : Settings.resolve root c o environment = .ok s) : Filled s.remote ↔ Filled o.remote := by
  rw [remote_of_resolve h]
  exact filled_orElse_iff (validate_eq_ok.mp hc.validate).2

/-- The main branch of a run is a name for a branch, whichever layer it comes from. The remote is
what the rules of the configuration ask for exactly if the command line does not give a blank one. -/
theorem resolved_valid_iff (hc : Accepted c) (h : Settings.resolve root c o environment = .ok s) :
    (∀ field, validateBranchName field s.mainBranch = .ok ()) ∧
    (Filled s.remote ↔ Filled o.remote) ∧
    ((resolved c s).validate = .ok () ↔ Filled o.remote) := by
  have hname := branchNameFlaw?_of_resolve (validate_eq_ok.mp hc.validate).1 h
  have hfilled := filled_of_resolve hc h
  refine ⟨fun _ => validateBranchName_eq_ok.mpr hname, hfilled, ?_⟩
  rw [validate_eq_ok, ← hfilled]
  exact and_iff_right hname

/-- So it is with the settings that a run in a folder has, whatever the folder holds. -/
theorem valid_of_load {m : Machine} (h : Settings.load m root o = .ok s) :
    branchNameFlaw? s.mainBranch = none ∧ (Filled s.remote ↔ Filled o.remote) := by
  obtain ⟨c, hload, hresolve⟩ := bind_eq_ok.mp h
  have hc := accepted_of_load hload
  exact ⟨branchNameFlaw?_of_resolve (validate_eq_ok.mp hc.validate).1 hresolve,
    filled_of_resolve hc hresolve⟩

section Samples

def sampleText : String := "[repository]\npath = \"cache\"\nremote = \"/srv/upstream\"\n"

def sampleConfig : Config :=
  { Config.standard with repository := some ⟨"cache"⟩, remote := some "/srv/upstream" }

def sampleSettings (remote : Option String) (mainBranch : String) : Settings :=
  ⟨⟨"/work/release-index.yaml"⟩, ⟨"/work/release-index-schema.json"⟩, ⟨"/work/cache"⟩,
    remote, mainBranch, .failFast⟩

theorem accepted_sample : Accepted sampleConfig := .inr ⟨sampleText, by decide +kernel⟩

theorem resolved_valid_iff_sample :
    let o := { Overrides.none with mainBranch := some "edge" }
    let s := sampleSettings (some "/srv/upstream") "edge"
    Accepted sampleConfig ∧ Settings.resolve ⟨"/work"⟩ sampleConfig o [] = .ok s ∧
    (resolved sampleConfig s).validate = .ok () := by
  intro o s
  have hresolve : Settings.resolve ⟨"/work"⟩ sampleConfig o [] = .ok s :=
    Settings.resolve_eq_ok.mpr ⟨⟨"cache"⟩, "edge", rfl, rfl, by decide⟩
  have hvalid := (resolved_valid_iff accepted_sample hresolve).2.2
  exact ⟨accepted_sample, hresolve, hvalid.mpr fun r hr => nomatch hr⟩

/-- The command line may give a remote that the configuration may not. -/
theorem blank_remote_passes :
    let o := { Overrides.none with repository := some ⟨"cache"⟩, remote := some " " }
    let s := sampleSettings (some " ") "master"
    Accepted .standard ∧ Settings.resolve ⟨"/work"⟩ .standard o [] = .ok s ∧
    trim " " = "" ∧
    (resolved .standard s).validate =
      .error (.invalidSetting "repository.remote" " " "remote URL must not be empty") := by
  intro o s
  refine ⟨.inl rfl, ?_, by decide, by decide⟩
  exact Settings.resolve_eq_ok.mpr ⟨⟨"cache"⟩, "master", rfl, rfl, by decide⟩

end Samples

end Layers
end ReleaseAudit
