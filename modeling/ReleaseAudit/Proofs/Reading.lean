import ReleaseAudit.Proofs.Calendar
import ReleaseAudit.Proofs.Loading

/-! What the reader of indexes makes of a document. The whole document is given its shape first:
fields that no record asks for make no difference, and only a document that encodes releases comes
to the names of its release candidates. -/
namespace ReleaseAudit

namespace Shape

/-! The documents that encode releases. -/

/-- A record with this field: an object, whatever else it has, or an array. -/
def HasField (name : String) (v w : Json) : Prop := v.field? name = some w ∨ v = .arr [w]

/-- A record with these two fields: an object, whatever else it has, or an array. -/
def HasFields (first second : String) (v w x : Json) : Prop :=
  (v.field? first = some w ∧ v.field? second = some x) ∨ v = .arr [w, x]

def EncodesVersion (v : Json) (version : Version) : Prop :=
  HasFields "name" "version" v (.str version.name) (.str version.reference)

/-- The name of a release candidate, and its versions in order. -/
def EncodesRelease (v : Json) (r : String × List Version) : Prop :=
  ∃ items, HasFields "rc_name" "versions" v (.str r.1) (.arr items) ∧
    List.Forall₂ EncodesVersion items r.2

/-- The releases of a document in order. -/
def Encodes (document : Json) (raw : List (String × List Version)) : Prop :=
  ∃ items, HasField "releases" document (.arr items) ∧ List.Forall₂ EncodesRelease items raw

section Records

variable {α β : Type} {record name first second : String} {read : Json → Except Flaw α}
  {readFirst : Json → Except Flaw α} {readSecond : Json → Except Flaw β} {v : Json} {a : α} {b : β}

theorem required_eq_ok {x : Option α} : required name x = .ok a ↔ x = some a := by
  cases x <;> simp [required]

theorem lookup_of_optional {fields : List (String × Json)}
    (h : optional read name fields = .ok (some a)) :
    ∃ w, Json.lookup name fields = some w ∧ read w = .ok a := by
  unfold optional at h
  cases hlookup : Json.lookup name fields with
  | none =>
    rw [hlookup] at h
    cases h
  | some w =>
    rw [hlookup] at h
    obtain ⟨_, hread, hsome⟩ := map_eq_ok.mp h
    cases hsome
    exact ⟨w, rfl, hread⟩

theorem record₁_eq_ok :
    record₁ record name read v = .ok a ↔ ∃ w, HasField name v w ∧ read w = .ok a := by
  constructor
  · intro h
    cases v with
    | obj fields =>
      obtain ⟨x, hx, h⟩ := bind_eq_ok.mp h
      obtain rfl := required_eq_ok.mp h
      obtain ⟨w, hw, hread⟩ := lookup_of_optional hx
      exact ⟨w, .inl hw, hread⟩
    | arr items =>
      rcases items with - | ⟨w, - | ⟨x, rest⟩⟩
      · cases h
      · exact ⟨w, .inr rfl, h⟩
      · obtain ⟨_, -, h⟩ := bind_eq_ok.mp h
        cases h
    | _ => cases h
  · rintro ⟨w, hw | rfl, hread⟩
    · exact record₁_of_field? hw hread
    · exact hread

theorem record₂_eq_ok : record₂ record first second readFirst readSecond v = .ok (a, b) ↔
    ∃ w x, HasFields first second v w x ∧ readFirst w = .ok a ∧ readSecond x = .ok b := by
  constructor
  · intro h
    cases v with
    | obj fields =>
      obtain ⟨y, hy, h⟩ := bind_eq_ok.mp h
      obtain ⟨z, hz, h⟩ := bind_eq_ok.mp h
      obtain ⟨_, ha, h⟩ := bind_eq_ok.mp h
      obtain ⟨_, hb, h⟩ := bind_eq_ok.mp h
      cases h
      obtain rfl := required_eq_ok.mp ha
      obtain rfl := required_eq_ok.mp hb
      obtain ⟨w, hw, hreadFirst⟩ := lookup_of_optional hy
      obtain ⟨x, hx, hreadSecond⟩ := lookup_of_optional hz
      exact ⟨w, x, .inl ⟨hw, hx⟩, hreadFirst, hreadSecond⟩
    | arr items =>
      rcases items with - | ⟨w, - | ⟨x, - | ⟨y, rest⟩⟩⟩
      · cases h
      · obtain ⟨_, -, h⟩ := bind_eq_ok.mp h
        cases h
      · obtain ⟨_, ha, h⟩ := bind_eq_ok.mp h
        obtain ⟨_, hb, h⟩ := bind_eq_ok.mp h
        cases h
        exact ⟨w, x, .inr rfl, ha, hb⟩
      · obtain ⟨_, -, h⟩ := bind_eq_ok.mp h
        obtain ⟨_, -, h⟩ := bind_eq_ok.mp h
        cases h
    | _ => cases h
  · rintro ⟨w, x, ⟨hw, hx⟩ | rfl, ha, hb⟩
    · exact record₂_of_field? hw hx ha hb
    · simp only [record₂, ha, hb]
      rfl

theorem text_eq_ok {s : String} : text v = .ok s ↔ v = .str s := by
  cases v <;> simp [text]

theorem sequence_eq_ok {as : List α} : sequence read v = .ok as ↔
    ∃ items, v = .arr items ∧ List.Forall₂ (fun w a => read w = .ok a) items as := by
  constructor
  · intro h
    cases v with
    | arr items => exact ⟨items, rfl, mapM_eq_ok.mp h⟩
    | _ => cases h
  · rintro ⟨items, rfl, h⟩
    exact mapM_eq_ok.mpr h

end Records

theorem version_eq_ok {v : Json} {u : Version} : version v = .ok u ↔ EncodesVersion v u := by
  obtain ⟨name, reference⟩ := u
  simp only [version, map_eq_ok, Prod.exists, record₂_eq_ok, text_eq_ok, Version.mk.injEq,
    EncodesVersion]
  constructor
  · rintro ⟨_, _, ⟨_, _, h, rfl, rfl⟩, rfl, rfl⟩
    exact h
  · exact fun h => ⟨_, _, ⟨_, _, h, rfl, rfl⟩, rfl, rfl⟩

theorem release_eq_ok {v : Json} {r : String × List Version} :
    release v = .ok r ↔ EncodesRelease v r := by
  obtain ⟨rcName, versions⟩ := r
  simp only [release, record₂_eq_ok, text_eq_ok, sequence_eq_ok, version_eq_ok, EncodesRelease]
  constructor
  · rintro ⟨_, _, h, rfl, items, rfl, hitems⟩
    exact ⟨items, h, hitems⟩
  · rintro ⟨items, h, hitems⟩
    exact ⟨_, _, h, rfl, items, rfl, hitems⟩

/-- A document has the shape of an index exactly if it encodes releases, and it is read as these. -/
theorem index_eq_ok {document : Json} {raw : List (String × List Version)} :
    index document = .ok raw ↔ Encodes document raw := by
  simp only [index, record₁_eq_ok, sequence_eq_ok, release_eq_ok, Encodes]
  constructor
  · rintro ⟨_, h, items, rfl, hitems⟩
    exact ⟨items, h, hitems⟩
  · rintro ⟨items, h, hitems⟩
    exact ⟨_, h, items, rfl, hitems⟩

/-! Documents without the fields that no record asks for. -/

def inPlaces : List (Json → Json) → List Json → List Json
  | change :: changes, v :: vs => change v :: inPlaces changes vs
  | _, vs => vs

def keepFields (uses : List (String × (Json → Json))) (fields : List (String × Json)) :
    List (String × Json) :=
  fields.filterMap fun f => (uses.lookup f.1).map fun change => (f.1, change f.2)

def keep (uses : List (String × (Json → Json))) : Json → Json
  | .obj fields => .obj (keepFields uses fields)
  | .arr items => .arr (inPlaces (uses.map (·.2)) items)
  | v => v

def eachItem (change : Json → Json) : Json → Json
  | .arr items => .arr (items.map change)
  | v => v

def bareVersion : Json → Json := keep [("name", id), ("version", id)]

def bareRelease : Json → Json := keep [("rc_name", id), ("versions", eachItem bareVersion)]

/-- A document with `releases` as its only field, releases with `rc_name` and `versions`, and
versions with `name` and `version`. -/
def bare : Json → Json := keep [("releases", eachItem bareRelease)]

section Pruning

variable {α β : Type} {record name first second : String} {read : Json → Except Flaw α}
  {readFirst : Json → Except Flaw α} {readSecond : Json → Except Flaw β}
  {change changeFirst changeSecond : Json → Json}

theorem lookup_keepFields {uses : List (String × (Json → Json))}
    (huse : uses.lookup name = some change) (fields : List (String × Json)) :
    Json.lookup name (keepFields uses fields) = (Json.lookup name fields).map change := by
  unfold keepFields
  induction fields with
  | nil => rfl
  | cons f fields ih =>
    rw [List.filterMap_cons, Json.lookup_cons]
    by_cases hname : f.1 = name
    · simp [hname, huse, Json.lookup_cons]
    · cases uses.lookup f.1 <;> simp [hname, ih, Json.lookup_cons]

theorem optional_keepFields {uses : List (String × (Json → Json))}
    (huse : uses.lookup name = some change) (hread : ∀ w, read (change w) = read w)
    (fields : List (String × Json)) :
    optional read name (keepFields uses fields) = optional read name fields := by
  unfold optional
  rw [lookup_keepFields huse]
  cases Json.lookup name fields <;> simp [hread]

theorem record₁_keep (hread : ∀ w, read (change w) = read w) (v : Json) :
    record₁ record name read (keep [(name, change)] v) = record₁ record name read v := by
  cases v with
  | obj fields => simp only [keep, record₁, optional_keepFields List.lookup_cons_self hread]
  | arr items =>
    rcases items with - | ⟨w, - | ⟨x, rest⟩⟩
    · rfl
    · exact hread w
    · simp [keep, inPlaces, record₁, hread]
  | _ => rfl

theorem record₂_keep (hne : first ≠ second) (hfirst : ∀ w, readFirst (changeFirst w) = readFirst w)
    (hsecond : ∀ x, readSecond (changeSecond x) = readSecond x) (v : Json) :
    record₂ record first second readFirst readSecond
      (keep [(first, changeFirst), (second, changeSecond)] v) =
        record₂ record first second readFirst readSecond v := by
  cases v with
  | obj fields =>
    -- The second field is looked up past the first, which has another name.
    have huse : [(first, changeFirst), (second, changeSecond)].lookup second =
        some changeSecond := by
      simp [List.lookup_cons, beq_false_of_ne hne.symm]
    simp only [keep, record₂, optional_keepFields List.lookup_cons_self hfirst,
      optional_keepFields huse hsecond]
  | arr items =>
    rcases items with - | ⟨w, - | ⟨x, - | ⟨y, rest⟩⟩⟩
    · rfl
    · simp [keep, inPlaces, record₂, hfirst]
    · simp [keep, inPlaces, record₂, hfirst, hsecond]
    · simp [keep, inPlaces, record₂, hfirst, hsecond]
  | _ => rfl

theorem sequence_eachItem (hread : ∀ w, read (change w) = read w) (v : Json) :
    sequence read (eachItem change v) = sequence read v := by
  cases v with
  | arr items =>
    simp only [eachItem, sequence]
    induction items with
    | nil => rfl
    | cons w items ih => rw [List.map_cons, List.mapM_cons, List.mapM_cons, hread, ih]
  | _ => rfl

end Pruning

theorem version_bareVersion (v : Json) : version (bareVersion v) = version v :=
  congrArg (Except.map _) (record₂_keep (by decide) (fun _ => rfl) (fun _ => rfl) v)

theorem release_bareRelease (v : Json) : release (bareRelease v) = release v :=
  record₂_keep (by decide) (fun _ => rfl) (sequence_eachItem version_bareVersion) v

/-- The shape of a document, flaws included, does not depend on fields that no record asks for. -/
theorem index_bare (document : Json) : index (bare document) = index document :=
  record₁_keep (sequence_eachItem release_bareRelease) document

theorem head?_message (flaw : Flaw) :
    flaw.message.toList.head? = some 'i' ∨ flaw.message.toList.head? = some 'm' := by
  unfold Flaw.message
  cases flaw with
  | wrongType | tooShort | tooLong =>
    left
    simp only [String.append_assoc]
    rw [Text.head?_append (by decide)]
    decide
  | missingField =>
    right
    simp only [String.append_assoc]
    rw [Text.head?_append (by decide)]
    decide

theorem head?_undated (name reason : String) : ("RC name '" ++ name ++
    "' does not carry a %Y-%m-%d_%H-%M timestamp: " ++ reason).toList.head? = some 'R' := by
  rw [String.append_assoc, String.append_assoc, Text.head?_append (by decide)]
  decide

theorem message_ne_undated (flaw : Flaw) (name reason : String) :
    Fault.malformedIndex flaw.message ≠ Calendar.undated name reason := by
  intro h
  have hhead := head?_undated name reason
  rw [← Fault.malformedIndex.inj h] at hhead
  rcases head?_message flaw with hmessage | hmessage
  · exact absurd (hmessage.symm.trans hhead) (by decide)
  · exact absurd (hmessage.symm.trans hhead) (by decide)

end Shape

/-! The names, once the shape is settled. -/

namespace Audit

theorem mapError_mapM {φ ψ α β : Type} (f : α → Except φ β) (g : φ → ψ) (xs : List α) :
    (xs.mapM f).mapError g = xs.mapM fun x => (f x).mapError g := by
  induction xs with
  | nil => rfl
  | cons x xs ih =>
    rw [List.mapM_cons, List.mapM_cons, ← ih]
    cases f x with
    | error e => rfl
    | ok y => cases xs.mapM f <;> rfl

theorem forall₂_map_iff {α β : Type} {f : β → α} {p : β → Prop} {xs : List α} {ys : List β} :
    List.Forall₂ (fun x y => f y = x ∧ p y) xs ys ↔ ys.map f = xs ∧ ∀ y ∈ ys, p y := by
  induction ys generalizing xs with
  | nil => simp [eq_comm]
  | cons y ys ih =>
    simp only [List.forall₂_cons_right_iff, ih, List.map_cons, List.forall_mem_cons]
    constructor
    · rintro ⟨_, _, ⟨rfl, hy⟩, ⟨rfl, hys⟩, rfl⟩
      exact ⟨rfl, hy, hys⟩
    · rintro ⟨rfl, hy, hys⟩
      exact ⟨_, _, ⟨rfl, hy⟩, ⟨rfl, hys⟩, rfl⟩

section

variable {document : Json} {raw : List (String × List Version)} {index : ReleaseIndex}
  {fault : Fault}

theorem readIndex_of_encodes (h : Shape.Encodes document raw) : readIndex document =
    (raw.mapM fun r => readRelease r.1 r.2).map (⟨·⟩) := by
  unfold readIndex ReleaseIndex.ofDocument readRelease
  rw [Shape.index_eq_ok.mpr h, ← mapError_mapM]
  dsimp only
  cases raw.mapM fun r => ReleaseIndex.date r.1 r.2 <;> rfl

theorem readRelease_eq_ok {r : String × List Version} {d : Release} :
    readRelease r.1 r.2 = .ok d ↔
      (d.rcName, d.versions) = r ∧ readTimestamp d.rcName = .ok d.timestamp := by
  obtain ⟨rcName, versions⟩ := r
  obtain ⟨rcName', t, versions'⟩ := d
  simp only [readRelease_eq, map_eq_ok, Prod.mk.injEq, Release.mk.injEq]
  constructor
  · rintro ⟨_, ht, rfl, rfl, rfl⟩
    exact ⟨⟨rfl, rfl⟩, ht⟩
  · rintro ⟨⟨rfl, rfl⟩, ht⟩
    exact ⟨t, ht, rfl, rfl, rfl⟩

theorem exists_readRelease_iff {r : String × List Version} :
    (∃ d, readRelease r.1 r.2 = .ok d) ↔ ∃ t, readTimestamp r.1 = .ok t := by
  simp only [readRelease_eq, map_eq_ok]
  exact ⟨fun ⟨_, t, ht, _⟩ => ⟨t, ht⟩, fun ⟨t, ht⟩ => ⟨_, t, ht, rfl⟩⟩

theorem readIndex_eq_ok_of_encodes (h : Shape.Encodes document raw) :
    readIndex document = .ok index ↔
      index.releases.map (fun d => (d.rcName, d.versions)) = raw ∧
        ∀ d ∈ index.releases, readTimestamp d.rcName = .ok d.timestamp := by
  obtain ⟨ds⟩ := index
  simp only [readIndex_of_encodes h, map_eq_ok, ReleaseIndex.mk.injEq, exists_eq_right, mapM_eq_ok,
    readRelease_eq_ok]
  exact forall₂_map_iff

theorem of_readIndex_eq_error_of_encodes (h : Shape.Encodes document raw)
    (hfault : readIndex document = .error fault) :
    ∃ before r after, raw = before ++ r :: after ∧
      (∀ q ∈ before, ∃ t, readTimestamp q.1 = .ok t) ∧ readTimestamp r.1 = .error fault := by
  rw [readIndex_of_encodes h, map_eq_error] at hfault
  obtain ⟨before, r, after, rfl, hbefore, hr⟩ := exists_of_mapM_eq_error hfault
  rw [readRelease_eq, map_eq_error] at hr
  exact ⟨before, r, after, rfl, fun q hq => exists_readRelease_iff.mp (hbefore q hq), hr⟩

end

/-- What comes of a document that encodes these releases. -/
structure Reads (document : Json) (raw : List (String × List Version)) : Prop where
  ok_iff : (∃ index, readIndex document = .ok index) ↔ ∀ r ∈ raw, ∃ t, readTimestamp r.1 = .ok t
  /-- The index has these releases and versions, in order and verbatim, and each release the
  timestamp in its name. -/
  verbatim : ∀ index, readIndex document = .ok index →
    index.releases.map (fun d => (d.rcName, d.versions)) = raw ∧
      ∀ d ∈ index.releases, readTimestamp d.rcName = .ok d.timestamp
  /-- A fault is that of the first name without a timestamp. -/
  fault : ∀ fault, readIndex document = .error fault →
    ∃ before r after, raw = before ++ r :: after ∧
      (∀ q ∈ before, ∃ t, readTimestamp q.1 = .ok t) ∧ readTimestamp r.1 = .error fault

theorem reads_of_encodes {document : Json} {raw : List (String × List Version)}
    (h : Shape.Encodes document raw) : Reads document raw := by
  refine ⟨⟨?_, ?_⟩, fun index => (readIndex_eq_ok_of_encodes h).mp,
    fun fault => of_readIndex_eq_error_of_encodes h⟩
  · rintro ⟨index, hindex⟩ r hr
    obtain ⟨rfl, hdated⟩ := (readIndex_eq_ok_of_encodes h).mp hindex
    obtain ⟨d, hd, rfl⟩ := List.mem_map.mp hr
    exact ⟨d.timestamp, hdated d hd⟩
  · intro hdated
    cases hread : readIndex document with
    | ok index => exact ⟨index, rfl⟩
    | error fault =>
      obtain ⟨before, r, after, rfl, -, hr⟩ := of_readIndex_eq_error_of_encodes h hread
      obtain ⟨t, ht⟩ := hdated r (by simp)
      rw [hr] at ht
      cases ht

/-- A document that encodes no releases fails on its shape, whatever names are in it. -/
theorem exists_flaw_of_not_encodes {document : Json} (h : ¬ ∃ raw, Shape.Encodes document raw) :
    ∃ flaw : Shape.Flaw, readIndex document = .error (.malformedIndex flaw.message) := by
  cases hindex : Shape.index document with
  | ok raw => exact absurd ⟨raw, Shape.index_eq_ok.mp hindex⟩ h
  | error flaw =>
    refine ⟨flaw, ?_⟩
    rw [readIndex, ReleaseIndex.ofDocument, hindex]
    rfl

theorem readTimestamp_ne_shape (name : String) (flaw : Shape.Flaw) :
    readTimestamp name ≠ .error (.malformedIndex flaw.message) := by
  intro h
  cases hname : Timestamp.ofRcName name with
  | ok t =>
    rw [Calendar.readTimestamp_of_ok hname] at h
    cases h
  | error flaw' =>
    rw [Calendar.readTimestamp_of_error hname] at h
    exact Shape.message_ne_undated flaw name flaw'.message (Except.error.inj h).symm

theorem readIndex_congr {document document' : Json}
    (h : Shape.bare document = Shape.bare document') :
    readIndex document = readIndex document' := by
  have hindex : Shape.index document = Shape.index document' := by
    rw [← Shape.index_bare document, h, Shape.index_bare]
  unfold readIndex ReleaseIndex.ofDocument
  rw [hindex]

/-- A document that encodes releases is read as exactly these, unless a name among them has no
timestamp. Documents that differ only in fields that no record asks for are read alike. A document
that encodes no releases fails on its shape, and never on a name. -/
theorem readIndex_exact (document : Json) :
    (∀ raw, Shape.Encodes document raw → Reads document raw) ∧
    (∀ document', Shape.bare document = Shape.bare document' →
      readIndex document = readIndex document') ∧
    ((¬ ∃ raw, Shape.Encodes document raw) →
      ∃ flaw : Shape.Flaw, readIndex document = .error (.malformedIndex flaw.message) ∧
        ∀ name, readTimestamp name ≠ .error (.malformedIndex flaw.message)) := by
  refine ⟨fun raw => reads_of_encodes, fun document' => readIndex_congr, fun h => ?_⟩
  obtain ⟨flaw, hread⟩ := exists_flaw_of_not_encodes h
  exact ⟨flaw, hread, fun name => readTimestamp_ne_shape name flaw⟩

section Samples

def noisyDocument : Json := .obj [("notes", .null), ("releases", .arr [
  .obj [("rc_name", .str "rc--2024-02-29_00-00"), ("reviewed", .bool true), ("versions", .arr [
    .obj [("comment", .arr []), ("name", .str "base"), ("version", .str "v1")]])],
  .obj [("rc_name", .str "rc--soon"), ("versions", .arr [])]])]

def plainDocument : Json := .obj [("releases", .arr [
  .obj [("rc_name", .str "rc--2024-02-29_00-00"), ("versions", .arr [
    .obj [("name", .str "base"), ("version", .str "v1")]])],
  .obj [("rc_name", .str "rc--soon"), ("versions", .arr [])]])]

def brokenDocument : Json := .obj [("releases", .arr [
  .obj [("rc_name", .str "rc--soon"), ("versions", .arr [])],
  .obj [("rc_name", .str "rc--2024-02-29_00-00"), ("versions", .arr [
    .obj [("name", .str "base")]])]])]

theorem readIndex_exact_sample :
    (Shape.Encodes noisyDocument [("rc--2024-02-29_00-00", [⟨"base", "v1"⟩]), ("rc--soon", [])] ∧
      Reads noisyDocument [("rc--2024-02-29_00-00", [⟨"base", "v1"⟩]), ("rc--soon", [])]) ∧
    (Shape.bare noisyDocument = Shape.bare plainDocument ∧
      readIndex noisyDocument = readIndex plainDocument) ∧
    (¬ ∃ raw, Shape.Encodes brokenDocument raw) ∧
      ∃ flaw : Shape.Flaw, readIndex brokenDocument = .error (.malformedIndex flaw.message) ∧
        ∀ name, readTimestamp name ≠ .error (.malformedIndex flaw.message) := by
  have hnoisy : Shape.Encodes noisyDocument
      [("rc--2024-02-29_00-00", [⟨"base", "v1"⟩]), ("rc--soon", [])] := by
    rw [← Shape.index_eq_ok]
    rfl
  have hplain : Shape.bare noisyDocument = Shape.bare plainDocument := rfl
  have hbroken : ¬ ∃ raw, Shape.Encodes brokenDocument raw := by
    rintro ⟨raw, hraw⟩
    rw [← Shape.index_eq_ok] at hraw
    cases hraw
  exact ⟨⟨hnoisy, (readIndex_exact _).1 _ hnoisy⟩, ⟨hplain, (readIndex_exact _).2.1 _ hplain⟩,
    hbroken, (readIndex_exact _).2.2 hbroken⟩

end Samples

end Audit
end ReleaseAudit
