import ReleaseAudit.Proofs.RcName

/-! The shipped schema and the reader of release indexes agree. What the schema accepts has the shape
that the reader asks for, and all that can still be wrong is a name of the right form that is not a
minute of the calendar. -/
namespace ReleaseAudit

/-! Lists read item by item. -/

section

variable {φ α β : Type} {f : α → Except φ β}

theorem mapM_eq_ok {xs : List α} {ys : List β} :
    xs.mapM f = .ok ys ↔ List.Forall₂ (fun x y => f x = .ok y) xs ys := by
  induction xs generalizing ys with
  | nil => cases ys <;> simp [pure, Except.pure]
  | cons x xs ih =>
    simp only [List.mapM_cons, bind_eq_ok, ih, List.forall₂_cons_left_iff]
    constructor
    · rintro ⟨y, hy, ys', hys, h⟩
      cases h
      exact ⟨y, ys', hy, hys, rfl⟩
    · rintro ⟨y, ys', hy, hys, rfl⟩
      exact ⟨y, hy, ys', hys, rfl⟩

/-- The flaw of a list is that of the first item with one. -/
theorem exists_of_mapM_eq_error {xs : List α} {e : φ} (h : xs.mapM f = .error e) :
    ∃ before x after, xs = before ++ x :: after ∧ (∀ y ∈ before, ∃ b, f y = .ok b) ∧
      f x = .error e := by
  induction xs with
  | nil => cases h
  | cons x xs ih =>
    rw [List.mapM_cons] at h
    cases hx : f x with
    | error e' =>
      rw [hx] at h
      cases h
      exact ⟨[], x, xs, rfl, nofun, hx⟩
    | ok b =>
      rw [hx, ok_bind] at h
      cases hxs : xs.mapM f with
      | ok bs =>
        rw [hxs] at h
        cases h
      | error e' =>
        rw [hxs] at h
        cases h
        obtain ⟨before, y, after, rfl, hbefore, hy⟩ := ih hxs
        exact ⟨x :: before, y, after, rfl, List.forall_mem_cons.mpr ⟨⟨b, hx⟩, hbefore⟩, hy⟩

theorem exists_forall₂ {R : α → β → Prop} {p : β → Prop} {xs : List α}
    (h : ∀ x ∈ xs, ∃ y, R x y ∧ p y) : ∃ ys, List.Forall₂ R xs ys ∧ ∀ y ∈ ys, p y := by
  induction xs with
  | nil => exact ⟨[], .nil, nofun⟩
  | cons x xs ih =>
    obtain ⟨y, hy, hp⟩ := h x (by simp)
    obtain ⟨ys, hys, hps⟩ := ih fun x hx => h x (by simp [hx])
    exact ⟨y :: ys, .cons hy hys, List.forall_mem_cons.mpr ⟨hp, hps⟩⟩

end

namespace Shape

/-! What a document lists, whatever else is in it. -/

structure DescribesVersion (v : Json) (version : Version) : Prop where
  name : v.field? "name" = some (.str version.name)
  reference : v.field? "version" = some (.str version.reference)

/-- The name of a release candidate, and its versions in order. -/
structure DescribesRelease (v : Json) (r : String × List Version) : Prop where
  rcName : v.field? "rc_name" = some (.str r.1)
  versions : ∃ items, v.field? "versions" = some (.arr items) ∧
    List.Forall₂ DescribesVersion items r.2

/-- The releases of a document in order. -/
def Describes (document : Json) (raw : List (String × List Version)) : Prop :=
  ∃ items, document.field? "releases" = some (.arr items) ∧
    List.Forall₂ DescribesRelease items raw

theorem exists_lookup_of_field? {v w : Json} {name : String} (h : v.field? name = some w) :
    ∃ fields, v = .obj fields ∧ Json.lookup name fields = some w := by
  cases v with
  | obj fields => exact ⟨fields, rfl, h⟩
  | _ => cases h

theorem record₁_of_field? {α : Type} {record name : String} {read : Json → Except Flaw α}
    {v w : Json} {a : α} (h : v.field? name = some w) (ha : read w = .ok a) :
    record₁ record name read v = .ok a := by
  obtain ⟨fields, rfl, hlookup⟩ := exists_lookup_of_field? h
  simp only [record₁, optional, hlookup, ha]
  rfl

theorem record₂_of_field? {α β : Type} {record first second : String}
    {readFirst : Json → Except Flaw α} {readSecond : Json → Except Flaw β} {v w x : Json} {a : α}
    {b : β} (hfirst : v.field? first = some w) (hsecond : v.field? second = some x)
    (ha : readFirst w = .ok a) (hb : readSecond x = .ok b) :
    record₂ record first second readFirst readSecond v = .ok (a, b) := by
  obtain ⟨fields, rfl, hlookup⟩ := exists_lookup_of_field? hfirst
  have hlookup' : Json.lookup second fields = some x := hsecond
  simp only [record₂, optional, hlookup, hlookup', ha, hb]
  rfl

theorem text_str (s : String) : text (.str s) = .ok s := rfl

theorem version_of_describes {v : Json} {u : Version} (h : DescribesVersion v u) :
    version v = .ok u := by
  rw [version, record₂_of_field? h.name h.reference (text_str _) (text_str _)]
  rfl

theorem release_of_describes {v : Json} {r : String × List Version} (h : DescribesRelease v r) :
    release v = .ok r := by
  obtain ⟨items, hitems, hversions⟩ := h.versions
  have hread : sequence version (.arr items) = .ok r.2 :=
    mapM_eq_ok.mpr (hversions.imp fun _ _ => version_of_describes)
  exact record₂_of_field? h.rcName hitems (text_str _) hread

theorem index_of_describes {document : Json} {raw : List (String × List Version)}
    (h : Describes document raw) : index document = .ok raw := by
  obtain ⟨items, hitems, hreleases⟩ := h
  have hread : sequence release (.arr items) = .ok raw :=
    mapM_eq_ok.mpr (hreleases.imp fun _ _ => release_of_describes)
  exact record₁_of_field? hitems hread

end Shape

/-! What the schema promises. -/

/-- A name in full, at least one version, and no empty texts in the versions. -/
structure WellNamed (r : String × List Version) : Prop where
  rcName : IsCanonicalName r.1
  versions : r.2 ≠ []
  texts : ∀ v ∈ r.2, v.name ≠ "" ∧ v.reference ≠ ""

namespace Schema
namespace Shipped

/-- An object without breaches has what it has to have, and that without breaches. -/
theorem exists_field_of_recordBreaches {judges : List (String × (Json → List Breach))}
    {names : List String} {v : Json} (h : recordBreaches judges names v = []) (name : String)
    (judge : Json → List Breach) (hjudge : (name, judge) ∈ judges) (hname : name ∈ names) :
    ∃ w, v.field? name = some w ∧ judge w = [] := by
  cases v with
  | obj fields =>
    obtain ⟨hjudges, hnames⟩ := List.append_eq_nil_iff.mp h
    have hsome : ∃ w, Json.lookup name fields = some w := by
      simpa [Option.ne_none_iff_exists'] using
        List.filter_eq_nil_iff.mp (List.map_eq_nil_iff.mp hnames) name hname
    obtain ⟨w, hw⟩ := hsome
    have hjudged := List.flatMap_eq_nil_iff.mp hjudges _ hjudge
    exact ⟨w, hw, by simpa [hw] using hjudged⟩
  | _ => cases h

theorem exists_of_textBreaches {v : Json} (h : textBreaches v = []) :
    ∃ s, v = .str s ∧ s ≠ "" := by
  cases v with
  | str s => exact ⟨s, rfl, fun hs => by simp [textBreaches, hs] at h⟩
  | _ => cases h

theorem exists_of_rcNameBreaches {v : Json} (h : rcNameBreaches v = []) :
    ∃ s, v = .str s ∧ IsCanonicalName s := by
  cases v with
  | str s => exact ⟨s, rfl, (isFound_rcName s).mp (by simpa [rcNameBreaches] using h)⟩
  | _ => cases h

theorem exists_of_versionBreaches {v : Json} (h : versionBreaches v = []) :
    ∃ u, Shape.DescribesVersion v u ∧ u.name ≠ "" ∧ u.reference ≠ "" := by
  obtain ⟨_, hname, h₁⟩ := exists_field_of_recordBreaches h "name" textBreaches (by simp) (by simp)
  obtain ⟨_, hreference, h₂⟩ :=
    exists_field_of_recordBreaches h "version" textBreaches (by simp) (by simp)
  obtain ⟨s, rfl, hs⟩ := exists_of_textBreaches h₁
  obtain ⟨t, rfl, ht⟩ := exists_of_textBreaches h₂
  exact ⟨⟨s, t⟩, ⟨hname, hreference⟩, hs, ht⟩

theorem exists_of_versionsBreaches {v : Json} (h : versionsBreaches v = []) :
    ∃ items us, v = .arr items ∧ List.Forall₂ Shape.DescribesVersion items us ∧ us ≠ [] ∧
      ∀ u ∈ us, u.name ≠ "" ∧ u.reference ≠ "" := by
  cases v with
  | arr items =>
    obtain ⟨hitems, hne⟩ := List.append_eq_nil_iff.mp h
    obtain ⟨us, hus, htexts⟩ := exists_forall₂ fun v hv =>
      exists_of_versionBreaches (List.flatMap_eq_nil_iff.mp hitems v hv)
    refine ⟨items, us, rfl, hus, ?_, htexts⟩
    rintro rfl
    cases hus
    simp at hne
  | _ => cases h

theorem exists_of_releaseBreaches {v : Json} (h : releaseBreaches v = []) :
    ∃ r, Shape.DescribesRelease v r ∧ WellNamed r := by
  obtain ⟨_, hname, h₁⟩ :=
    exists_field_of_recordBreaches h "rc_name" rcNameBreaches (by simp) (by simp)
  obtain ⟨_, hversions, h₂⟩ :=
    exists_field_of_recordBreaches h "versions" versionsBreaches (by simp) (by simp)
  obtain ⟨s, rfl, hs⟩ := exists_of_rcNameBreaches h₁
  obtain ⟨items, us, rfl, hus, hne, htexts⟩ := exists_of_versionsBreaches h₂
  exact ⟨(s, us), ⟨hname, items, hversions, hus⟩, ⟨hs, hne, htexts⟩⟩

theorem exists_of_indexBreaches {document : Json} (h : indexBreaches document = []) :
    ∃ raw, Shape.Describes document raw ∧ ∀ r ∈ raw, WellNamed r := by
  obtain ⟨v, hreleases, h₁⟩ :=
    exists_field_of_recordBreaches h "releases" releasesBreaches (by simp) (by simp)
  cases v with
  | arr items =>
    obtain ⟨raw, hraw, hnamed⟩ := exists_forall₂ fun v hv =>
      exists_of_releaseBreaches (List.flatMap_eq_nil_iff.mp h₁ v hv)
    exact ⟨raw, ⟨items, hreleases, hraw⟩, hnamed⟩
  | _ => cases h₁

end Shipped
end Schema

/-! Which of these releases can be dated. -/

namespace ReleaseIndex

theorem date_of_namesMinute {rcName : String} (h : NamesMinute rcName) (versions : List Version) :
    ∃ t, date rcName versions = .ok ⟨rcName, t, versions⟩ := by
  obtain ⟨t, -, ht⟩ := h.ofRcName
  refine ⟨t, ?_⟩
  rw [date, Release.ofName, ht]
  rfl

theorem date_of_not_namesMinute {rcName : String} (hcanonical : IsCanonicalName rcName)
    (h : ¬ NamesMinute rcName) (versions : List Version) :
    date rcName versions = .error (.undatedRelease rcName .outOfRange) := by
  rw [date, Release.ofName, hcanonical.ofRcName_of_not h]
  rfl

end ReleaseIndex

section

variable {document : Json} {raw : List (String × List Version)}

/-- The releases of a document are dated one after the other. -/
theorem Audit.readIndex_of_describes (h : Shape.Describes document raw) :
    Audit.readIndex document =
      ((raw.mapM fun r => ReleaseIndex.date r.1 r.2).map (⟨·⟩)).mapError fun flaw =>
        .malformedIndex flaw.message := by
  rw [Audit.readIndex, ReleaseIndex.ofDocument, Shape.index_of_describes h]

theorem Audit.readIndex_eq_ok (h : Shape.Describes document raw) {index : ReleaseIndex} :
    Audit.readIndex document = .ok index ↔
      (raw.mapM fun r => ReleaseIndex.date r.1 r.2) = .ok index.releases := by
  rw [Audit.readIndex_of_describes h]
  cases raw.mapM fun r => ReleaseIndex.date r.1 r.2 with
  | error flaw => exact ⟨nofun, nofun⟩
  | ok ds =>
    constructor
    · rintro ⟨⟩
      rfl
    · rintro ⟨⟩
      rfl

theorem Audit.readIndex_eq_error (h : Shape.Describes document raw) {fault : Fault} :
    Audit.readIndex document = .error fault ↔
      ∃ flaw, (raw.mapM fun r => ReleaseIndex.date r.1 r.2) = .error flaw ∧
        fault = .malformedIndex flaw.message := by
  rw [Audit.readIndex_of_describes h]
  cases raw.mapM fun r => ReleaseIndex.date r.1 r.2 with
  | ok ds => exact ⟨nofun, nofun⟩
  | error flaw =>
    constructor
    · rintro ⟨⟩
      exact ⟨flaw, rfl, rfl⟩
    · rintro ⟨_, ⟨⟩, rfl⟩
      rfl

theorem ReleaseIndex.of_date_eq_ok {r : String × List Version} (hr : WellNamed r) {d : Release}
    (h : ReleaseIndex.date r.1 r.2 = .ok d) : NamesMinute r.1 ∧ (d.rcName, d.versions) = r := by
  by_cases hminute : NamesMinute r.1
  · obtain ⟨t, ht⟩ := ReleaseIndex.date_of_namesMinute hminute r.2
    rw [ht] at h
    cases h
    exact ⟨hminute, rfl⟩
  · rw [ReleaseIndex.date_of_not_namesMinute hr.rcName hminute] at h
    cases h

theorem Audit.of_readIndex_eq_ok (h : Shape.Describes document raw) (hraw : ∀ r ∈ raw, WellNamed r)
    {index : ReleaseIndex} (hindex : Audit.readIndex document = .ok index) :
    (∀ r ∈ raw, NamesMinute r.1) ∧
      index.releases.map (fun d => (d.rcName, d.versions)) = raw := by
  have hdated := mapM_eq_ok.mp ((Audit.readIndex_eq_ok h).mp hindex)
  generalize index.releases = ds at hdated
  clear h hindex
  induction hdated with
  | nil => exact ⟨nofun, rfl⟩
  | @cons r d raw ds hd _ ih =>
    obtain ⟨hr, htail⟩ := List.forall_mem_cons.mp hraw
    obtain ⟨hminute, hsame⟩ := ReleaseIndex.of_date_eq_ok hr hd
    obtain ⟨hminutes, hmap⟩ := ih htail
    exact ⟨List.forall_mem_cons.mpr ⟨hminute, hminutes⟩, by rw [List.map_cons, hsame, hmap]⟩

theorem Audit.of_readIndex_eq_error (h : Shape.Describes document raw)
    (hraw : ∀ r ∈ raw, WellNamed r) {fault : Fault}
    (hfault : Audit.readIndex document = .error fault) :
    ∃ before r after, raw = before ++ r :: after ∧ (∀ q ∈ before, NamesMinute q.1) ∧
      ¬ NamesMinute r.1 ∧
      fault = .malformedIndex ("RC name '" ++ r.1 ++
        "' does not carry a %Y-%m-%d_%H-%M timestamp: input is out of range") := by
  obtain ⟨flaw, hdates, rfl⟩ := (Audit.readIndex_eq_error h).mp hfault
  obtain ⟨before, r, after, rfl, hbefore, hr⟩ := exists_of_mapM_eq_error hdates
  have hnot : ¬ NamesMinute r.1 := by
    intro hminute
    obtain ⟨t, ht⟩ := ReleaseIndex.date_of_namesMinute hminute r.2
    rw [ht] at hr
    cases hr
  refine ⟨before, r, after, rfl, fun q hq => ?_, hnot, ?_⟩
  · obtain ⟨d, hd⟩ := hbefore q hq
    exact (ReleaseIndex.of_date_eq_ok (hraw q (by simp [hq])) hd).1
  · rw [ReleaseIndex.date_of_not_namesMinute (hraw r (by simp)).rcName hnot] at hr
    cases hr
    simp only [ReleaseIndex.Flaw.message, String.append_assoc]
    rfl

end

/-- What the reader of indexes makes of a document that lists these releases. -/
structure LoadsAs (document : Json) (raw : List (String × List Version)) : Prop where
  describes : Shape.Describes document raw
  wellNamed : ∀ r ∈ raw, WellNamed r
  ok_iff : (∃ index, Audit.readIndex document = .ok index) ↔ ∀ r ∈ raw, NamesMinute r.1
  /-- The index has these releases and versions, in order and verbatim. -/
  verbatim : ∀ index, Audit.readIndex document = .ok index →
    index.releases.map (fun r => (r.rcName, r.versions)) = raw
  /-- A fault is about the first release that is not named after a minute of the calendar. -/
  fault : ∀ fault, Audit.readIndex document = .error fault →
    ∃ before r after, raw = before ++ r :: after ∧ (∀ q ∈ before, NamesMinute q.1) ∧
      ¬ NamesMinute r.1 ∧
      fault = .malformedIndex ("RC name '" ++ r.1 ++
        "' does not carry a %Y-%m-%d_%H-%M timestamp: input is out of range")

/-- A document that the shipped schema accepts never fails on its shape: all that can still be wrong
with it is a name of the right form that is not a minute of the calendar. -/
theorem loadsAs_of_validate {document : Json}
    (h : Audit.validate document Schema.shippedDocument = .ok ()) :
    ∃ raw, LoadsAs document raw := by
  obtain ⟨raw, hdescribes, hnamed⟩ :=
    Schema.Shipped.exists_of_indexBreaches (Audit.validate_shippedDocument_eq_ok.mp h)
  refine ⟨raw, hdescribes, hnamed, ⟨?_, ?_⟩, fun index hindex => ?_, fun fault hfault => ?_⟩
  · rintro ⟨index, hindex⟩
    exact (Audit.of_readIndex_eq_ok hdescribes hnamed hindex).1
  · intro hminutes
    cases hread : Audit.readIndex document with
    | ok index => exact ⟨index, rfl⟩
    | error fault =>
      obtain ⟨before, r, after, rfl, -, hnot, -⟩ :=
        Audit.of_readIndex_eq_error hdescribes hnamed hread
      exact absurd (hminutes r (by simp)) hnot
  · exact (Audit.of_readIndex_eq_ok hdescribes hnamed hindex).2
  · exact Audit.of_readIndex_eq_error hdescribes hnamed hfault

def leapDays : Json :=
  .obj [
    ("owner", .null),
    ("releases", .arr [
      .obj [
        ("rc_name", .str "rc--2024-02-29_10-30"),
        ("versions", .arr [.obj [("name", .str "base"), ("version", .str "v2")]])],
      .obj [
        ("notes", .int 7),
        ("rc_name", .str "rc--2023-02-29_10-30"),
        ("versions", .arr [
          .obj [("name", .str "base"), ("version", .str "v1")],
          .obj [("name", .str "fix"), ("security_fix", .bool true), ("version", .str "v1.1")]])]])]

theorem loadsAs_leapDays :
    Audit.validate leapDays Schema.shippedDocument = .ok () ∧ (∃ raw, LoadsAs leapDays raw) ∧
      Audit.readIndex leapDays = .error (.malformedIndex
        ("RC name 'rc--2023-02-29_10-30' does not carry a %Y-%m-%d_%H-%M timestamp: " ++
          "input is out of range")) := by
  have h : Audit.validate leapDays Schema.shippedDocument = .ok () :=
    Audit.validate_shippedDocument_eq_ok.mpr (List.isEmpty_iff.mp (by decide +kernel))
  exact ⟨h, loadsAs_of_validate h, by decide +kernel⟩

end ReleaseAudit
