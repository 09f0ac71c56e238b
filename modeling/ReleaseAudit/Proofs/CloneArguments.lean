import ReleaseAudit.Proofs.Conduct
import ReleaseAudit.Proofs.Steering
import ReleaseAudit.Settings

/-! The settings that become arguments of the command that makes the clone, and which of them git may
read as an option: the remote alone. -/
namespace ReleaseAudit
namespace CloneArguments

open Git Steering

/-- A text that git would read as an option. -/
def IsOption (text : String) : Prop := text.toList.head? = some '-'

instance : DecidablePred IsOption := fun text =>
  inferInstanceAs (Decidable (text.toList.head? = some '-'))

/-- The commands for a clone at a path. -/
inductive Concerns (m : Machine) (path : Path) (remote : Option String) (mainBranch : String) :
    Command → Prop
  | query : Concerns m path remote mainBranch (openCommand m.environment path)
  | clone {r : String} (h : remote = some r) :
    Concerns m path remote mainBranch (isolated m.environment (cloneArgs mainBranch r path))

theorem keeps_openOrClone (git : Oracle) (m : Machine) (path : Path) (remote : Option String)
    (mainBranch : String) : Keeps (fun _ => Concerns m path remote mainBranch)
      (git.shell.openOrClone m path remote mainBranch) := by
  intro past
  have hself : (keeping fun _ => Concerns m path remote mainBranch).couples _
      (git.shell.openOrClone m path remote mainBranch)
      (git.shell.openOrClone m path remote mainBranch) :=
    Coupling.couples_openOrClone (fun failure => keeping_shell failure .query)
      (fun _ => keeping_effects _) (fun _ => keeping_effects _)
      fun failure _ hr => keeping_shell failure (.clone hr)
  exact (hself past).1

theorem not_isOption_of_validate {field name : String}
    (h : validateBranchName field name = .ok ()) : ¬ IsOption name := by
  intro hoption
  unfold validateBranchName at h
  split at h
  · cases h
  · next hnone =>
    unfold branchNameFlaw? at hnone
    split at hnone
    · cases hnone
    · rw [if_pos (id hoption : name.toList.head? = some '-')] at hnone
      cases hnone

theorem mainBranch_of_ofText {text : String} {c : Config} (h : Config.ofText text = .ok c) :
    ¬ IsOption c.mainBranch := by
  unfold Config.ofText at h
  obtain ⟨c', -, h⟩ := bind_eq_ok.mp h
  obtain ⟨_, hvalid, h⟩ := bind_eq_ok.mp h
  obtain ⟨_, hbranch, -⟩ := bind_eq_ok.mp hvalid
  cases h
  exact not_isOption_of_validate hbranch

section Resolved

variable {root : Path} {c : Config} {o : Overrides} {environment : Environment} {s : Settings}
  (hresolve : Settings.resolve root c o environment = .ok s)
include hresolve

theorem mainBranch_of_resolve (hc : ¬ IsOption c.mainBranch) : ¬ IsOption s.mainBranch := by
  obtain ⟨_, name, -, hname, rfl⟩ := Settings.resolve_eq_ok.mp hresolve
  unfold Settings.chooseMainBranch at hname
  split at hname
  · obtain ⟨_, hvalid, hname⟩ := bind_eq_ok.mp hname
    cases hname
    exact not_isOption_of_validate hvalid
  · cases hname
    exact hc

theorem repository_of_resolve (hroot : root.isAbsolute = true) : ¬ IsOption s.repository.text := by
  have habsolute : s.repository.isAbsolute = true := by
    obtain ⟨repository, _, -, -, rfl⟩ := Settings.resolve_eq_ok.mp hresolve
    exact Path.isAbsolute_join hroot repository
  intro hoption
  have hslash : s.repository.chars.head? = some '/' := by simpa [Path.isAbsolute] using habsolute
  rw [IsOption, ← Path.chars, hslash] at hoption
  cases hoption

end Resolved

/-- The arguments of the command that clones `remote`. -/
structure Clones (s : Settings) (remote : String) (args : List String) : Prop where
  args_eq : args = ["-c", "protocol.version=2", "-c", "advice.detachedHead=false",
    "-c", "core.quotePath=false", "clone", "--origin", "origin", "--branch", s.mainBranch,
    "--no-checkout", remote, s.repository.text]
  mainBranch : ¬ IsOption s.mainBranch
  repository : ¬ IsOption s.repository.text
  options : ∀ a ∈ args, IsOption a →
    a ∈ ["-c", "--origin", "--branch", "--no-checkout"] ∨ a = remote

/-- The words of that command, apart from the settings. -/
def fixedWords : List String :=
  safeSettings ++ ["clone", "--origin", "origin", "--branch", "--no-checkout"]

theorem mem_options_of_mem_fixedWords : ∀ a ∈ fixedWords, IsOption a →
    a ∈ ["-c", "--origin", "--branch", "--no-checkout"] := by decide

theorem mem_cloneArgs {environment : Environment} {mainBranch remote a : String} {path : Path}
    (h : a ∈ (isolated environment (cloneArgs mainBranch remote path)).args) :
    a ∈ fixedWords ∨ a = mainBranch ∨ a = remote ∨ a = path.text := by
  simp only [isolated, cloneArgs, remoteName, fixedWords, List.mem_append, List.mem_cons,
    List.not_mem_nil, or_false] at h ⊢
  tauto

theorem clones_cloneArgs {s : Settings} (hbranch : ¬ IsOption s.mainBranch)
    (hpath : ¬ IsOption s.repository.text) (environment : Environment) (remote : String) :
    Clones s remote
      (isolated environment (cloneArgs s.mainBranch remote s.repository)).args where
  args_eq := rfl
  mainBranch := hbranch
  repository := hpath
  options a ha hoption := by
    rcases mem_cloneArgs ha with hword | rfl | rfl | rfl
    · exact .inl (mem_options_of_mem_fixedWords a hword hoption)
    · exact absurd hoption hbranch
    · exact .inr rfl
    · exact absurd hoption hpath

/-- Of the settings of a run only the remote may be read as an option by the command that makes the
clone. -/
theorem issued_clones {text : String} {c : Config} {root : Path} {o : Overrides}
    {environment : Environment} {s : Settings} (hconfig : Config.ofText text = .ok c)
    (hroot : root.isAbsolute = true) (hresolve : Settings.resolve root c o environment = .ok s)
    (git : Oracle) (m : Machine) (past : Past) :
    ∀ command ∈ issued (git.shell.openOrClone m s.repository s.remote s.mainBranch past).log,
      command = openCommand m.environment s.repository ∨
        ∃ remote, s.remote = some remote ∧ Clones s remote command.args := by
  intro command hcommand
  cases allowed_of_heeds (keeps_openOrClone git m _ _ _ past) command hcommand with
  | query => exact .inl rfl
  | clone hremote =>
    have hbranch := mainBranch_of_resolve hresolve (mainBranch_of_ofText hconfig)
    have hpath := repository_of_resolve hresolve hroot
    exact .inr ⟨_, hremote, clones_cloneArgs hbranch hpath _ _⟩

section Samples

def sampleText : String := "[repository]\npath = \"cache\"\nremote = \"--upload-pack=x\"\n"

def sampleConfig : Config :=
  { Config.standard with repository := some ⟨"cache"⟩, remote := some "--upload-pack=x" }

def sampleSettings : Settings :=
  ⟨⟨"/work/release-index.yaml"⟩, ⟨"/work/release-index-schema.json"⟩, ⟨"/work/cache"⟩,
    some "--upload-pack=x", "master", .failFast⟩

def sampleMachine : Machine :=
  ⟨FileSystem.empty.withFolder ["work"], [], fun _ => .ok ⟨0, "", ""⟩, false⟩

def sampleClone : Command :=
  ⟨["-c", "protocol.version=2", "-c", "advice.detachedHead=false", "-c", "core.quotePath=false",
    "clone", "--origin", "origin", "--branch", "master", "--no-checkout", "--upload-pack=x",
    "/work/cache"], [("GIT_TERMINAL_PROMPT", "0")]⟩

theorem ofText_sample : Config.ofText sampleText = .ok sampleConfig := by
  have hconfig : (Config.ofText sampleText).toOption = some sampleConfig := by decide +kernel
  cases h : Config.ofText sampleText with
  | error e =>
    rw [h] at hconfig
    cases hconfig
  | ok c =>
    rw [h] at hconfig
    rw [Option.some.inj hconfig]

theorem resolve_sample :
    Settings.resolve ⟨"/work"⟩ sampleConfig .none [] = .ok sampleSettings :=
  Settings.resolve_eq_ok.mpr ⟨⟨"cache"⟩, "master", rfl, rfl, by decide⟩

theorem sampleClone_mem :
    sampleClone ∈ issued ((steady sampleMachine.git).shell.openOrClone sampleMachine
      sampleSettings.repository sampleSettings.remote sampleSettings.mainBranch []).log := by
  decide +kernel

theorem issued_clones_sample : Clones sampleSettings "--upload-pack=x" sampleClone.args := by
  have hissued := issued_clones ofText_sample (by decide) resolve_sample (steady sampleMachine.git)
    sampleMachine [] sampleClone sampleClone_mem
  obtain ⟨remote, hremote, hclones⟩ := hissued.resolve_left (by decide)
  cases hremote
  exact hclones

/-- A remote that the configuration gives is read as an option. -/
theorem remote_isOption :
    Config.ofText sampleText = .ok sampleConfig ∧
    Settings.resolve ⟨"/work"⟩ sampleConfig .none [] = .ok sampleSettings ∧
    .ran sampleClone ∈ (openOrClone sampleMachine sampleSettings.repository sampleSettings.remote
      sampleSettings.mainBranch).log ∧
    sampleSettings.remote = some "--upload-pack=x" ∧
    "--upload-pack=x" ∈ sampleClone.args ∧ IsOption "--upload-pack=x" := by
  refine ⟨ofText_sample, resolve_sample, ?_, rfl, by decide, by decide⟩
  decide +kernel

end Samples

end CloneArguments
end ReleaseAudit
