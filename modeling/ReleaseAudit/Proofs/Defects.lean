import ReleaseAudit.Proofs.RcName
import Mathlib.Data.List.Nodup

/-! The grammar of release indexes, and the defects of a document: the demands of the grammar that
are not met, and the places where they are not. The shipped schema admits the documents of the
grammar, and of any other document it reports each defect once. -/
namespace ReleaseAudit

inductive Json.Step where
  | field (name : String)
  | item (index : Nat)
  deriving DecidableEq, Repr

namespace Json

def items : Json → List Json
  | .arr items => items
  | _ => []

def step? (v : Json) : Step → Option Json
  | .field name => v.field? name
  | .item index => v.items[index]?

/-- The value at the end of a path. -/
def at? (v : Json) : List Step → Option Json
  | [] => some v
  | s :: path => (v.step? s).bind fun w => w.at? path

@[simp] theorem at?_nil (v : Json) : v.at? [] = some v := rfl

@[simp] theorem at?_cons (v : Json) (s : Step) (path : List Step) :
    v.at? (s :: path) = (v.step? s).bind fun w => w.at? path := rfl

end Json

namespace Grammar

open Schema (Breach)

/-! Documents of the grammar. Fields that it does not mention are free. -/

structure IsVersionEntry (v : Json) : Prop where
  name : ∃ s, v.field? "name" = some (.str s) ∧ s ≠ ""
  reference : ∃ s, v.field? "version" = some (.str s) ∧ s ≠ ""
  notesReady : ∀ w, v.field? "release_notes_ready" = some w → ∃ b, w = .bool b
  securityFix : ∀ w, v.field? "security_fix" = some w → ∃ b, w = .bool b

structure IsReleaseEntry (v : Json) : Prop where
  rcName : ∃ s, v.field? "rc_name" = some (.str s) ∧ IsCanonicalName s
  versions : ∃ items, v.field? "versions" = some (.arr items) ∧ items ≠ [] ∧
    ∀ w ∈ items, IsVersionEntry w

def IsIndexDocument (v : Json) : Prop :=
  ∃ items, v.field? "releases" = some (.arr items) ∧ ∀ w ∈ items, IsReleaseEntry w

/-! The demands of the grammar, place by place. -/

/-- What may be asked of a value. -/
inductive Demand where
  | object | array | text | flag
  | property (name : String)
  | canonical | someText | someItem
  deriving DecidableEq, Repr

namespace Demand

/-- The value does not meet the demand. Whatever is asked beyond the type of a value is asked of
values of this type only. -/
def isBrokenBy (v : Json) (demand : Demand) : Bool :=
  match demand, v with
  | .object, .obj _ | .array, .arr _ | .text, .str _ | .flag, .bool _ => false
  | .object, _ | .array, _ | .text, _ | .flag, _ => true
  | .property name, .obj fields => (Json.lookup name fields).isNone
  | .canonical, .str s => !decide (IsCanonicalName s)
  | .someText, .str s => s = ""
  | .someItem, .arr items => items.isEmpty
  | .property _, _ | .canonical, _ | .someText, _ | .someItem, _ => false

def breach (v : Json) : Demand → Breach
  | .object => .wrongType v [.object]
  | .array => .wrongType v [.array]
  | .text => .wrongType v [.string]
  | .flag => .wrongType v [.boolean]
  | .property name => .missingProperty name
  | .canonical => .noMatch v Schema.rcNamePattern
  | .someText => .wrongSize v .characters false 1
  | .someItem => .wrongSize v .items false 1

end Demand

/-- The demands on the values at the ends of paths. -/
abbrev Rules := List Json.Step → Demand → Prop

/-- Demands on a value and none on its inside. -/
def OwnRules (demands : List Demand) : Rules := fun path demand => path = [] ∧ demand ∈ demands

/-- Demands on an array and on each of its items. -/
inductive ListRules (demands : List Demand) (each : Rules) : List Json.Step → Demand → Prop
  | own {demand : Demand} (h : demand ∈ demands) : ListRules demands each [] demand
  | item {index : Nat} {path : List Json.Step} {demand : Demand} (h : each path demand) :
    ListRules demands each (.item index :: path) demand

/-- An object with properties of the given names. Some properties have rules of their own, whether
or not they are among these. -/
inductive RecordRules (parts : List (String × Rules)) (names : List String) :
    List Json.Step → Demand → Prop
  | object : RecordRules parts names [] .object
  | property {name : String} (h : name ∈ names) : RecordRules parts names [] (.property name)
  | part {name : String} {rules : Rules} {path : List Json.Step} {demand : Demand}
    (hpart : (name, rules) ∈ parts) (h : rules path demand) :
    RecordRules parts names (.field name :: path) demand

def FlagRules : Rules := OwnRules [.flag]

def TextRules : Rules := OwnRules [.text, .someText]

def RcNameRules : Rules := OwnRules [.text, .canonical]

def VersionRules : Rules :=
  RecordRules [("name", TextRules), ("release_notes_ready", FlagRules), ("security_fix", FlagRules),
    ("version", TextRules)] ["name", "version"]

def VersionsRules : Rules := ListRules [.array, .someItem] VersionRules

def ReleaseRules : Rules :=
  RecordRules [("rc_name", RcNameRules), ("versions", VersionsRules)] ["rc_name", "versions"]

def ReleasesRules : Rules := ListRules [.array] ReleaseRules

def IndexRules : Rules := RecordRules [("releases", ReleasesRules)] ["releases"]

/-- A demand and the path to a value that does not meet it. -/
structure Defect where
  path : List Json.Step
  demand : Demand
  deriving DecidableEq, Repr

namespace Defect

def under (s : Json.Step) (d : Defect) : Defect := ⟨s :: d.path, d.demand⟩

theorem under_injective (s : Json.Step) : Function.Injective (under s) := by
  rintro ⟨path, demand⟩ ⟨path', demand'⟩ h
  simp only [under, Defect.mk.injEq, List.cons.injEq, true_and] at h
  rw [h.1, h.2]

def breach (v : Json) (d : Defect) : Breach := d.demand.breach ((v.at? d.path).getD .null)

theorem breach_under {v w : Json} {s : Json.Step} (h : v.step? s = some w) (d : Defect) :
    (d.under s).breach v = d.breach w := by
  simp [breach, under, h]

end Defect

/-- The rules ask for something that the document does not have. -/
def IsDefect (rules : Rules) (v : Json) (d : Defect) : Prop :=
  rules d.path d.demand ∧ ∃ w, v.at? d.path = some w ∧ d.demand.isBrokenBy w = true

/-- What the judge says of a value are its defects, each once. -/
def Reports (judge : Json → List Breach) (rules : Rules) : Prop :=
  ∀ v, ∃ found : List Defect, found.Nodup ∧ (∀ d, d ∈ found ↔ IsDefect rules v d) ∧
    judge v = found.map (Defect.breach v)

/-- A value inside of another one, and who judges it by which rules. -/
structure Child where
  step : Json.Step
  value : Json
  judge : Json → List Breach
  rules : Rules

variable {v : Json}

/-- The defects inside of a value are those of its children, each under its own step. -/
theorem exists_found_inside {children : List Child}
    (hdistinct : (children.map (·.step)).Nodup)
    (hvalue : ∀ c ∈ children, v.step? c.step = some c.value)
    (hreports : ∀ c ∈ children, Reports c.judge c.rules) :
    ∃ found : List Defect, found.Nodup ∧
      (∀ d, d ∈ found ↔ ∃ c ∈ children, ∃ e, IsDefect c.rules c.value e ∧ e.under c.step = d) ∧
      (children.flatMap fun c => c.judge c.value) = found.map (Defect.breach v) := by
  induction children with
  | nil => exact ⟨[], .nil, by simp, rfl⟩
  | cons c cs ih =>
    obtain ⟨hc, hcs⟩ := List.nodup_cons.mp hdistinct
    obtain ⟨hvalueC, hvalueCs⟩ := List.forall_mem_cons.mp hvalue
    obtain ⟨hreportsC, hreportsCs⟩ := List.forall_mem_cons.mp hreports
    obtain ⟨rest, hrest, hmemRest, hjudgeRest⟩ := ih hcs hvalueCs hreportsCs
    obtain ⟨first, hfirst, hmemFirst, hjudgeFirst⟩ := hreportsC c.value
    refine ⟨first.map (·.under c.step) ++ rest, ?_, fun d => ?_, ?_⟩
    · -- The paths of defects in different children differ in their first step.
      refine List.nodup_append.mpr
        ⟨hfirst.map (Defect.under_injective c.step), hrest, fun d hd d' hdRest heq => ?_⟩
      obtain ⟨e, -, rfl⟩ := List.mem_map.mp hd
      obtain ⟨c', hc', e', -, rfl⟩ := (hmemRest _).mp hdRest
      have hstep : c.step = c'.step := by
        injection congrArg Defect.path heq
      exact hc (List.mem_map.mpr ⟨c', hc', hstep.symm⟩)
    · simp only [List.mem_append, List.mem_map, hmemFirst, hmemRest, List.mem_cons,
        exists_eq_or_imp]
    · have hunder : (first.map (·.under c.step)).map (Defect.breach v) =
          first.map (Defect.breach c.value) := by
        rw [List.map_map]
        exact List.map_congr_left fun e _ => Defect.breach_under hvalueC e
      rw [List.flatMap_cons, List.map_append, hunder, hjudgeFirst, hjudgeRest]

/-- The defects of a value are those inside of it, and the demands that it does not meet itself. -/
theorem exists_found (children : List Child) {rules : Rules} {demands : List Demand}
    (hdistinct : (children.map (·.step)).Nodup)
    (hvalue : ∀ c ∈ children, v.step? c.step = some c.value)
    (hreports : ∀ c ∈ children, Reports c.judge c.rules)
    (hinside : ∀ s w, v.step? s = some w → ∀ path demand,
      rules (s :: path) demand ↔ ∃ c ∈ children, c.step = s ∧ c.rules path demand)
    (hdemands : demands.Nodup) (hown : ∀ demand, rules [] demand ↔ demand ∈ demands) :
    ∃ found : List Defect, found.Nodup ∧ (∀ d, d ∈ found ↔ IsDefect rules v d) ∧
      (children.flatMap fun c => c.judge c.value) ++
          (demands.filter (·.isBrokenBy v)).map (·.breach v) =
        found.map (Defect.breach v) := by
  obtain ⟨inside, hnodup, hmem, hjudge⟩ := exists_found_inside hdistinct hvalue hreports
  refine ⟨inside ++ (demands.filter (·.isBrokenBy v)).map (⟨[], ·⟩), ?_, fun d => ?_, ?_⟩
  · have hplaces : Function.Injective (Defect.mk []) := fun a b h => by
      cases h
      rfl
    refine List.nodup_append.mpr
      ⟨hnodup, (hdemands.filter _).map hplaces, fun d hd d' hown heq => ?_⟩
    obtain ⟨c, -, e, -, rfl⟩ := (hmem _).mp hd
    obtain ⟨demand, -, rfl⟩ := List.mem_map.mp hown
    cases heq
  · obtain ⟨path, demand⟩ := d
    rw [List.mem_append, hmem]
    cases path with
    | nil => simp [Defect.under, IsDefect, hown]
    | cons s path =>
      -- The first step of the path tells which child the defect is in.
      constructor
      · rintro (⟨c, hc, e, ⟨hrules, w, hw, hdemand⟩, heq⟩ | h)
        · cases heq
          have hstep := hvalue c hc
          exact ⟨(hinside _ _ hstep _ _).mpr ⟨c, hc, rfl, hrules⟩, w, by simpa [hstep] using hw,
            hdemand⟩
        · simp at h
      · rintro ⟨hrules, w, hw, hdemand⟩
        obtain ⟨u, hu, hw⟩ := Option.bind_eq_some_iff.mp hw
        obtain ⟨c, hc, rfl, hchild⟩ := (hinside s u hu path demand).mp hrules
        rw [hvalue c hc] at hu
        cases hu
        exact .inl ⟨c, hc, ⟨path, demand⟩, ⟨hchild, w, hw, hdemand⟩, rfl⟩
  · rw [hjudge, List.map_append, List.map_map]
    rfl

variable {judge : Json → List Breach} {demands : List Demand}

theorem reports_own (hdemands : demands.Nodup)
    (hjudge : ∀ v, judge v = (demands.filter (·.isBrokenBy v)).map (·.breach v)) :
    Reports judge (OwnRules demands) := by
  intro v
  rw [hjudge]
  exact exists_found [] .nil nofun nofun
    (fun s w _ path demand => by simp [OwnRules]) hdemands (fun demand => by simp [OwnRules])

theorem reports_list {each : Json → List Breach} {rules : Rules} (h : Reports each rules)
    (hdemands : demands.Nodup)
    (hjudge : ∀ v, judge v =
      v.items.flatMap each ++ (demands.filter (·.isBrokenBy v)).map (·.breach v)) :
    Reports judge (ListRules demands rules) := by
  intro v
  have hchildren : v.items.flatMap each =
      (v.items.zipIdx.map fun p => (⟨.item p.2, p.1, each, rules⟩ : Child)).flatMap
        fun c => c.judge c.value := by
    conv_lhs => rw [← List.zipIdx_map_fst 0 v.items]
    rw [List.flatMap_map, List.flatMap_map]
  rw [hjudge, hchildren]
  refine exists_found _ ?distinct ?value ?reports ?inside hdemands ?own
  case distinct =>
    have hsteps : ((v.items.zipIdx.map fun p => (⟨.item p.2, p.1, each, rules⟩ : Child)).map
        (·.step)) = (List.range' 0 v.items.length).map Json.Step.item := by
      rw [← List.zipIdx_map_snd 0 v.items, List.map_map, List.map_map]
      rfl
    rw [hsteps]
    exact (List.nodup_range' 1).map fun a b hab => Json.Step.item.inj hab
  case value =>
    intro c hc
    obtain ⟨p, hp, rfl⟩ := List.mem_map.mp hc
    exact List.mem_zipIdx_iff_getElem?.mp hp
  case reports =>
    intro c hc
    obtain ⟨p, -, rfl⟩ := List.mem_map.mp hc
    exact h
  case inside =>
    intro s w hs path demand
    constructor
    · rintro (_ | @⟨index, _, _, hitem⟩)
      exact ⟨_, List.mem_map.mpr ⟨(w, index), List.mem_zipIdx_iff_getElem?.mpr hs, rfl⟩, rfl, hitem⟩
    · rintro ⟨c, hc, rfl, hrules⟩
      obtain ⟨p, -, rfl⟩ := List.mem_map.mp hc
      exact .item hrules
  case own =>
    intro demand
    constructor
    · rintro ⟨hdemand⟩
      exact hdemand
    · exact .own

structure Part where
  name : String
  judge : Json → List Breach
  rules : Rules

def recordDemands (names : List String) : List Demand := .object :: names.map .property

theorem nodup_recordDemands {names : List String} (h : names.Nodup) :
    (recordDemands names).Nodup := by
  refine List.nodup_cons.mpr ⟨by simp, h.map fun a b hab => Demand.property.inj hab⟩

theorem recordBreaches_eq (judges : List (String × (Json → List Breach))) (names : List String)
    (v : Json) :
    Schema.Shipped.recordBreaches judges names v =
      (judges.flatMap fun p => ((v.field? p.1).map p.2).getD []) ++
        ((recordDemands names).filter (·.isBrokenBy v)).map (·.breach v) := by
  cases v with
  | obj fields =>
    have hmissing : ((recordDemands names).filter (·.isBrokenBy (.obj fields))).map
        (·.breach (.obj fields)) =
          (names.filter fun n => (Json.lookup n fields).isNone).map .missingProperty := by
      rw [recordDemands, List.filter_cons_of_neg (by simp [Demand.isBrokenBy]), List.filter_map,
        List.map_map]
      rfl
    rw [hmissing]
    rfl
  | _ =>
    simp [Schema.Shipped.recordBreaches, Json.field?, recordDemands, Demand.isBrokenBy,
      Demand.breach, List.filter_map, Function.comp_def]

def Part.child? (v : Json) (p : Part) : Option Child :=
  (v.field? p.name).map fun w => ⟨.field p.name, w, p.judge, p.rules⟩

theorem Part.child?_eq_some {p : Part} {c : Child} :
    p.child? v = some c ↔
      ∃ w, v.field? p.name = some w ∧ ⟨.field p.name, w, p.judge, p.rules⟩ = c :=
  Option.map_eq_some_iff

theorem reports_record (parts : List Part) {names : List String}
    (h : ∀ p ∈ parts, Reports p.judge p.rules) (hparts : (parts.map (·.name)).Nodup)
    (hnames : names.Nodup) :
    Reports (Schema.Shipped.recordBreaches (parts.map fun p => (p.name, p.judge)) names)
      (RecordRules (parts.map fun p => (p.name, p.rules)) names) := by
  intro v
  have hchildren : ((parts.map fun p => (p.name, p.judge)).flatMap fun p =>
      ((v.field? p.1).map p.2).getD []) =
        (parts.filterMap (·.child? v)).flatMap fun c => c.judge c.value := by
    rw [List.filterMap_eq_flatMap_toList, List.flatMap_assoc, List.flatMap_map]
    congr 1
    funext p
    cases hp : v.field? p.name <;> simp [Part.child?, hp]
  rw [recordBreaches_eq, hchildren]
  refine exists_found _ ?distinct ?value ?reports ?inside (nodup_recordDemands hnames) ?own
  case distinct =>
    refine List.pairwise_map.mpr ((List.pairwise_map.mp hparts).filterMap _ ?_)
    intro p q hne c hc d hd
    obtain ⟨_, -, rfl⟩ := Part.child?_eq_some.mp hc
    obtain ⟨_, -, rfl⟩ := Part.child?_eq_some.mp hd
    exact fun heq => hne (Json.Step.field.inj heq)
  case value =>
    intro c hc
    obtain ⟨p, -, hp⟩ := List.mem_filterMap.mp hc
    obtain ⟨w, hw, rfl⟩ := Part.child?_eq_some.mp hp
    exact hw
  case reports =>
    intro c hc
    obtain ⟨p, hpart, hp⟩ := List.mem_filterMap.mp hc
    obtain ⟨w, -, rfl⟩ := Part.child?_eq_some.mp hp
    exact h p hpart
  case inside =>
    intro s w hs path demand
    constructor
    · -- The first two rules ask something of the object itself, not of what is inside of it.
      rintro (_ | _ | ⟨hpart, hrules⟩)
      obtain ⟨p, hp, heq⟩ := List.mem_map.mp hpart
      cases heq
      exact ⟨_, List.mem_filterMap.mpr ⟨p, hp, Part.child?_eq_some.mpr ⟨w, hs, rfl⟩⟩, rfl, hrules⟩
    · rintro ⟨c, hc, rfl, hrules⟩
      obtain ⟨p, hpart, hp⟩ := List.mem_filterMap.mp hc
      obtain ⟨w, -, rfl⟩ := Part.child?_eq_some.mp hp
      exact .part (List.mem_map.mpr ⟨p, hpart, rfl⟩) hrules
  case own =>
    intro demand
    rw [recordDemands, List.mem_cons, List.mem_map]
    constructor
    · rintro (_ | hname)
      · exact .inl rfl
      · exact .inr ⟨_, hname, rfl⟩
    · rintro (rfl | ⟨name, hname, rfl⟩)
      · exact .object
      · exact .property hname

/-! The shipped schema, from the inside to the outside. -/

open Schema.Shipped

theorem reports_flag : Reports flagBreaches FlagRules := by
  refine reports_own (by simp) fun v => ?_
  cases v <;> simp [flagBreaches, Demand.isBrokenBy, Demand.breach]

theorem reports_text : Reports textBreaches TextRules := by
  refine reports_own (by simp) fun v => ?_
  cases v with
  | str s => by_cases hs : s = "" <;> simp [textBreaches, Demand.isBrokenBy, Demand.breach, hs]
  | _ => simp [textBreaches, Demand.isBrokenBy, Demand.breach]

theorem reports_rcName : Reports rcNameBreaches RcNameRules := by
  refine reports_own (by simp) fun v => ?_
  cases v with
  | str s =>
    by_cases hs : IsCanonicalName s <;>
      simp [rcNameBreaches, Demand.isBrokenBy, Demand.breach, isFound_rcName, hs]
  | _ => simp [rcNameBreaches, Demand.isBrokenBy, Demand.breach]

theorem reports_version : Reports versionBreaches VersionRules :=
  reports_record
    [⟨"name", textBreaches, TextRules⟩, ⟨"release_notes_ready", flagBreaches, FlagRules⟩,
      ⟨"security_fix", flagBreaches, FlagRules⟩, ⟨"version", textBreaches, TextRules⟩]
    (by simp [reports_text, reports_flag]) (by decide) (by decide)

theorem reports_versions : Reports versionsBreaches VersionsRules := by
  refine reports_list reports_version (by simp) fun v => ?_
  cases v with
  | arr items =>
    by_cases hitems : items = [] <;>
      simp [versionsBreaches, Json.items, Demand.isBrokenBy, Demand.breach, hitems]
  | _ => simp [versionsBreaches, Json.items, Demand.isBrokenBy, Demand.breach]

theorem reports_release : Reports releaseBreaches ReleaseRules :=
  reports_record
    [⟨"rc_name", rcNameBreaches, RcNameRules⟩, ⟨"versions", versionsBreaches, VersionsRules⟩]
    (by simp [reports_rcName, reports_versions]) (by decide) (by decide)

theorem reports_releases : Reports releasesBreaches ReleasesRules := by
  refine reports_list reports_release (by simp) fun v => ?_
  cases v <;> simp [releasesBreaches, Json.items, Demand.isBrokenBy, Demand.breach]

theorem reports_index : Reports indexBreaches IndexRules :=
  reports_record [⟨"releases", releasesBreaches, ReleasesRules⟩]
    (by simp [reports_releases]) (by decide) (by decide)

/-! Documents without defects. -/

theorem recordBreaches_eq_nil_iff {judges : List (String × (Json → List Breach))}
    {names : List String} : recordBreaches judges names v = [] ↔
      (∃ fields, v = .obj fields) ∧
        (∀ p ∈ judges, ∀ w, v.field? p.1 = some w → p.2 w = []) ∧
        ∀ n ∈ names, ∃ w, v.field? n = some w := by
  cases v with
  | obj fields =>
    have hjudge : ∀ p : String × (Json → List Breach),
        ((Json.lookup p.1 fields).map p.2).getD [] = [] ↔
          ∀ w, Json.lookup p.1 fields = some w → p.2 w = [] := fun p => by
      cases Json.lookup p.1 fields <;> simp
    simp only [recordBreaches, List.append_eq_nil_iff, List.flatMap_eq_nil_iff, hjudge,
      List.map_eq_nil_iff, List.filter_eq_nil_iff, Json.field?]
    simp [Option.ne_none_iff_exists']
  | _ => simp [recordBreaches]

theorem flagBreaches_eq_nil_iff : flagBreaches v = [] ↔ ∃ b, v = .bool b := by
  cases v <;> simp [flagBreaches]

theorem textBreaches_eq_nil_iff : textBreaches v = [] ↔ ∃ s, v = .str s ∧ s ≠ "" := by
  cases v <;> simp [textBreaches]

theorem rcNameBreaches_eq_nil_iff :
    rcNameBreaches v = [] ↔ ∃ s, v = .str s ∧ IsCanonicalName s := by
  cases v <;> simp [rcNameBreaches, isFound_rcName]

theorem exists_fields_of_field? {name : String} {w : Json} (h : v.field? name = some w) :
    ∃ fields, v = .obj fields := by
  cases v with
  | obj fields => exact ⟨fields, rfl⟩
  | _ => cases h

theorem forall_of_field? {name : String} {w : Json} {p : Json → Prop}
    (h : v.field? name = some w) (hp : p w) : ∀ x, v.field? name = some x → p x := by
  intro x hx
  cases h.symm.trans hx
  exact hp

theorem versionBreaches_eq_nil_iff : versionBreaches v = [] ↔ IsVersionEntry v := by
  simp only [versionBreaches, recordBreaches_eq_nil_iff, List.forall_mem_cons,
    textBreaches_eq_nil_iff, flagBreaches_eq_nil_iff]
  constructor
  · rintro ⟨-, ⟨hname, hnotes, hfix, hreference, -⟩, ⟨w, hw⟩, ⟨x, hx⟩, -⟩
    obtain ⟨s, rfl, hs⟩ := hname w hw
    obtain ⟨t, rfl, ht⟩ := hreference x hx
    exact ⟨⟨s, hw, hs⟩, ⟨t, hx, ht⟩, hnotes, hfix⟩
  · rintro ⟨⟨s, hw, hs⟩, ⟨t, hx, ht⟩, hnotes, hfix⟩
    exact ⟨exists_fields_of_field? hw, ⟨forall_of_field? hw ⟨s, rfl, hs⟩, hnotes, hfix,
      forall_of_field? hx ⟨t, rfl, ht⟩, List.forall_mem_nil _⟩, ⟨_, hw⟩, ⟨_, hx⟩, List.forall_mem_nil _⟩

theorem versionsBreaches_eq_nil_iff : versionsBreaches v = [] ↔
    ∃ items, v = .arr items ∧ items ≠ [] ∧ ∀ w ∈ items, IsVersionEntry w := by
  cases v <;> simp [versionsBreaches, versionBreaches_eq_nil_iff, and_comm]

theorem releaseBreaches_eq_nil_iff : releaseBreaches v = [] ↔ IsReleaseEntry v := by
  simp only [releaseBreaches, recordBreaches_eq_nil_iff, List.forall_mem_cons,
    rcNameBreaches_eq_nil_iff, versionsBreaches_eq_nil_iff]
  constructor
  · rintro ⟨-, ⟨hname, hversions, -⟩, ⟨w, hw⟩, ⟨x, hx⟩, -⟩
    obtain ⟨s, rfl, hs⟩ := hname w hw
    obtain ⟨items, rfl, hitems⟩ := hversions x hx
    exact ⟨⟨s, hw, hs⟩, ⟨items, hx, hitems⟩⟩
  · rintro ⟨⟨s, hw, hs⟩, ⟨items, hx, hitems⟩⟩
    exact ⟨exists_fields_of_field? hw, ⟨forall_of_field? hw ⟨s, rfl, hs⟩,
      forall_of_field? hx ⟨items, rfl, hitems⟩, List.forall_mem_nil _⟩, ⟨_, hw⟩, ⟨_, hx⟩, List.forall_mem_nil _⟩

theorem releasesBreaches_eq_nil_iff : releasesBreaches v = [] ↔
    ∃ items, v = .arr items ∧ ∀ w ∈ items, IsReleaseEntry w := by
  cases v <;> simp [releasesBreaches, releaseBreaches_eq_nil_iff]

theorem indexBreaches_eq_nil_iff : indexBreaches v = [] ↔ IsIndexDocument v := by
  simp only [indexBreaches, recordBreaches_eq_nil_iff, List.forall_mem_cons,
    releasesBreaches_eq_nil_iff]
  constructor
  · rintro ⟨-, ⟨hreleases, -⟩, ⟨w, hw⟩, -⟩
    obtain ⟨items, rfl, hitems⟩ := hreleases w hw
    exact ⟨items, hw, hitems⟩
  · rintro ⟨items, hw, hitems⟩
    exact ⟨exists_fields_of_field? hw, ⟨forall_of_field? hw ⟨items, rfl, hitems⟩, List.forall_mem_nil _⟩, ⟨_, hw⟩,
      List.forall_mem_nil _⟩

/-- The shipped schema admits the documents of the grammar. Of any other document it reports every
demand that is not met at every place where it is not, and each of these defects once. -/
theorem validate_exact (document : Json) :
    (Audit.validate document Schema.shippedDocument = .ok () ↔ IsIndexDocument document) ∧
    ∃ found : List Defect, found.Nodup ∧ (∀ d, d ∈ found ↔ IsDefect IndexRules document d) ∧
      Audit.validate document Schema.shippedDocument =
        if found = [] then .ok ()
        else .error (.schemaViolation (found.map fun d => (d.breach document).message)) := by
  obtain ⟨found, hnodup, hmem, hbreaches⟩ := reports_index document
  refine ⟨Audit.validate_shippedDocument_eq_ok.trans indexBreaches_eq_nil_iff, found, hnodup, hmem,
    ?_⟩
  rw [Audit.validate_shippedDocument, hbreaches]
  cases found with
  | nil => rfl
  | cons d ds => simp

end Grammar
end ReleaseAudit
