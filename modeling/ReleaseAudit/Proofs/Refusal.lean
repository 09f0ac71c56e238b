import ReleaseAudit.Proofs.Layers

/-! Why the configuration of a folder is refused, and whether the fault says in which file it stands.
A file that cannot be read or understood is named. A setting that is no good comes with a fault that
is the same whatever file it is in. -/
namespace ReleaseAudit
namespace Refusal

variable {fs : FileSystem} {folder path : Path} {fault : Fault} {c : Config}

/-- What can be wrong with the file at a path, and the fault that comes of it. -/
inductive Refused (fs : FileSystem) (path : Path) : Fault → Prop
  | unreadable {cause : SystemError} (h : fs.readText path = .error cause) :
    Refused fs path (.message ("I/O error: " ++ cause.message)
      ["Failed to read config from " ++ path.text] none)
  | misread {text : String} {flaw : Config.Flaw} (htext : fs.readText path = .ok text)
    (h : Config.read text = .error flaw) :
    Refused fs path (.message ("TOML deserialization error: " ++ flaw.message)
      ["Invalid configuration in " ++ path.text] none)
  | mainBranch {text : String} {c : Config} {reason : String} (htext : fs.readText path = .ok text)
    (hread : Config.read text = .ok c) (h : branchNameFlaw? c.mainBranch = some reason) :
    Refused fs path (.invalidSetting "repository.main_branch" c.mainBranch reason)
  | remote {text : String} {c : Config} {r : String} (htext : fs.readText path = .ok text)
    (hread : Config.read text = .ok c) (hbranch : branchNameFlaw? c.mainBranch = none)
    (hremote : c.remote = some r) (h : Text.trim r = "") :
    Refused fs path (.invalidSetting "repository.remote" r "remote URL must not be empty")

def Names (fault : Fault) (path : Path) : Prop := Text.contains fault.text path.text = true

instance (fault : Fault) (path : Path) : Decidable (Names fault path) :=
  inferInstanceAs (Decidable (Text.contains fault.text path.text = true))

/-- A line that ends with the path is enough. -/
theorem names_line (base lead : String) (help : Option String) :
    Names (.message base [lead ++ path.text] help) path := by
  have htext : (Fault.message base [lead ++ path.text] help).text =
      base ++ "\n" ++ lead ++ path.text := by
    change base ++ String.join ["\n" ++ (lead ++ path.text)] = _
    simp only [String.join_cons, String.join_nil, String.append_empty, String.append_assoc]
  rw [Names, htext]
  generalize base ++ "\n" ++ lead = before
  refine Text.occursIn_iff.mpr ⟨before.toList, [], ?_⟩
  rw [String.toList_append, List.append_nil]

theorem validateRemote_eq_error {remote : Option String} :
    Config.validateRemote remote = .error fault ↔ ∃ r, remote = some r ∧ Text.trim r = "" ∧
      fault = .invalidSetting "repository.remote" r "remote URL must not be empty" := by
  cases remote with
  | none => simp [Config.validateRemote]
  | some r =>
    simp only [Config.validateRemote, ← Layers.trim_eq_empty_iff]
    by_cases h : Text.trim r = ""
    · rw [if_pos h]
      constructor
      · rintro ⟨⟩
        exact ⟨r, rfl, h, rfl⟩
      · rintro ⟨_, ⟨⟩, -, rfl⟩
        rfl
    · rw [if_neg h]
      constructor
      · rintro ⟨⟩
      · rintro ⟨_, ⟨⟩, hblank, -⟩
        exact absurd hblank h

theorem validate_eq_error : c.validate = .error fault ↔
    (∃ reason, branchNameFlaw? c.mainBranch = some reason ∧
      fault = .invalidSetting "repository.main_branch" c.mainBranch reason) ∨
    branchNameFlaw? c.mainBranch = none ∧ ∃ r, c.remote = some r ∧ Text.trim r = "" ∧
      fault = .invalidSetting "repository.remote" r "remote URL must not be empty" := by
  have hbranch : ∀ u, validateBranchName "repository.main_branch" c.mainBranch = .ok u ↔
      branchNameFlaw? c.mainBranch = none := fun _ => validateBranchName_eq_ok
  rw [Config.validate, bind_eq_error, validateBranchName_eq_error]
  simp only [hbranch, validateRemote_eq_error, exists_const]

/-- There is no room for a line in the fault of a setting that is refused. -/
theorem context_of_validate (h : c.validate = .error fault) (line : String) :
    fault.context line = fault := by
  rcases validate_eq_error.mp h with ⟨_, -, rfl⟩ | ⟨-, _, -, -, rfl⟩ <;> rfl

theorem Refused.of_validate {text : String} (htext : fs.readText path = .ok text)
    (hread : Config.read text = .ok c) (h : c.validate = .error fault) : Refused fs path fault := by
  rcases validate_eq_error.mp h with ⟨_, hbranch, rfl⟩ | ⟨hbranch, _, hremote, hblank, rfl⟩
  · exact .mainBranch htext hread hbranch
  · exact .remote htext hread hbranch hremote hblank

theorem ofText_eq_error {text : String} : Config.ofText text = .error fault ↔
    (∃ flaw, Config.read text = .error flaw ∧
      .ofText ("TOML deserialization error: " ++ flaw.message) = fault) ∨
    ∃ c, Config.read text = .ok c ∧ c.validate = .error fault := by
  rw [Config.ofText, bind_eq_error, mapError_eq_error]
  simp only [mapError_eq_ok, bind_eq_error, pure, Except.pure, reduceCtorEq, and_false,
    exists_false, or_false]

theorem ofFile_eq_error : Config.ofFile fs path = .error fault ↔ Refused fs path fault := by
  rw [Config.ofFile, bind_eq_error]
  simp only [mapError_eq_error, mapError_eq_ok, ofText_eq_error]
  constructor
  · rintro (⟨_, ⟨_, hcause, rfl⟩, rfl⟩ | ⟨text, htext, _, ⟨flaw, hflaw, rfl⟩ | ⟨c, hread, h⟩, rfl⟩)
    · exact .unreadable hcause
    · exact .misread htext hflaw
    · rw [context_of_validate h]
      exact .of_validate htext hread h
  · rintro (hcause | ⟨htext, hflaw⟩ | ⟨htext, hread, hbranch⟩ |
      ⟨htext, hread, hbranch, hremote, hblank⟩)
    · exact .inl ⟨_, ⟨_, hcause, rfl⟩, rfl⟩
    · exact .inr ⟨_, htext, _, .inl ⟨_, hflaw, rfl⟩, rfl⟩
    · exact .inr ⟨_, htext, _, .inr ⟨_, hread, validate_eq_error.mpr (.inl ⟨_, hbranch, rfl⟩)⟩, rfl⟩
    · exact .inr ⟨_, htext, _, .inr ⟨_, hread,
        validate_eq_error.mpr (.inr ⟨hbranch, _, hremote, hblank, rfl⟩)⟩, rfl⟩

theorem load_eq_error : Config.load fs folder = .error fault ↔
    ∃ path, Config.find? fs folder = some path ∧ Refused fs path fault := by
  unfold Config.load
  cases Config.find? fs folder with
  | none => simp
  | some path => simp [ofFile_eq_error]

/-- A setting that is no good has the same fault in every file with the same text. -/
theorem load_of_rejected {text : String} (hfind : Config.find? fs folder = some path)
    (htext : fs.readText path = .ok text) (hread : Config.read text = .ok c)
    (h : c.validate = .error fault) : Config.load fs folder = .error fault :=
  load_eq_error.mpr ⟨path, hfind, .of_validate htext hread h⟩

theorem Refused.names_or (h : Refused fs path fault) : Names fault path ∨
    ∃ text c, fs.readText path = .ok text ∧ Config.read text = .ok c ∧ c.validate = .error fault := by
  cases h with
  | unreadable hcause => exact .inl (names_line _ _ _)
  | misread htext hflaw => exact .inl (names_line _ _ _)
  | mainBranch htext hread hbranch =>
    exact .inr ⟨_, _, htext, hread, validate_eq_error.mpr (.inl ⟨_, hbranch, rfl⟩)⟩
  | remote htext hread hbranch hremote hblank =>
    exact .inr ⟨_, _, htext, hread, validate_eq_error.mpr (.inr ⟨hbranch, _, hremote, hblank, rfl⟩)⟩

/-- A configuration is refused for the file that was found, and the fault names that file unless it
could be read and understood. Otherwise it is a setting that is no good, and its fault is the same in
whatever folder and file the text is found. -/
theorem load_refused (h : Config.load fs folder = .error fault) :
    ∃ path, Config.find? fs folder = some path ∧ Refused fs path fault ∧
      (Names fault path ∨ ∃ text c, fs.readText path = .ok text ∧ Config.read text = .ok c ∧
        c.validate = .error fault ∧ ∀ fs' folder' path', Config.find? fs' folder' = some path' →
          fs'.readText path' = .ok text → Config.load fs' folder' = .error fault) := by
  obtain ⟨path, hfind, hrefused⟩ := load_eq_error.mp h
  refine ⟨path, hfind, hrefused, ?_⟩
  rcases hrefused.names_or with hnames | ⟨text, c, htext, hread, hinvalid⟩
  · exact .inl hnames
  · exact .inr ⟨text, c, htext, hread, hinvalid,
      fun _ _ _ hfind' htext' => load_of_rejected hfind' htext' hread hinvalid⟩

section Samples

def samplePath : Path := ⟨"/w/release-index-check.toml"⟩

def holding (text : String) : FileSystem :=
  FileSystem.empty.withFile ["w", Config.fileName] text.toUTF8.toList

def unknownText : String := "[report]\nmood = \"batch\"\n"

def unknownFault : Fault :=
  .message ("TOML deserialization error: " ++ (Config.Flaw.unknownField "mood" ["mode"]).message)
    ["Invalid configuration in /w/release-index-check.toml"] none

theorem load_refused_sample : Config.load (holding unknownText) ⟨"/w"⟩ = .error unknownFault ∧
    Names unknownFault samplePath := by
  have hload : Config.load (holding unknownText) ⟨"/w"⟩ = .error unknownFault := by decide +kernel
  have hfound : Config.find? (holding unknownText) ⟨"/w"⟩ = some samplePath := by decide +kernel
  have hheld : (holding unknownText).readText samplePath = .ok unknownText := by decide +kernel
  have hflaw : Config.read unknownText = .error (.unknownField "mood" ["mode"]) := by decide +kernel
  obtain ⟨path, hfind, -, hnames | ⟨text, c, htext, hread, -⟩⟩ := load_refused hload
  · obtain rfl := Option.some.inj (hfound.symm.trans hfind)
    exact ⟨hload, hnames⟩
  · obtain rfl := Option.some.inj (hfound.symm.trans hfind)
    obtain rfl := Except.ok.inj (hheld.symm.trans htext)
    cases hflaw.symm.trans hread

/-- A main branch without a name, and not a word about the file in which it is. -/
theorem empty_main_branch_unnamed :
    let fs := holding "[repository]\nmain_branch = \"\"\n"
    let fault := .invalidSetting "repository.main_branch" "" "branch name must not be empty"
    Config.find? fs ⟨"/w"⟩ = some samplePath ∧ Config.load fs ⟨"/w"⟩ = .error fault ∧
      ¬ Names fault samplePath := by
  decide +kernel

end Samples

end Refusal
end ReleaseAudit
