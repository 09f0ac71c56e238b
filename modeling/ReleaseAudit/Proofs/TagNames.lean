import ReleaseAudit.Proofs.RcName
import ReleaseAudit.Proofs.Verdict

/-! The names of expected tags. A dash joins a timestamp and the name of a version, and both may
hold dashes themselves. Still the two parts can be told apart, as no timestamp is another one
followed by a dash and more. -/
namespace ReleaseAudit
namespace Timestamp

variable {cs rest : List Char} {c : Char}

/-! What a reader makes of a text it makes of a longer one as well, if the text goes on with a
character at which the reader would stop. -/

theorem takeWhile_append_take {p : Char → Bool} (hc : p c = false) (cs more : List Char) (k : Nat) :
    (cs ++ (c :: more).take k).takeWhile p = cs.takeWhile p := by
  induction cs with
  | nil => cases k <;> simp [hc]
  | cons d cs ih => simp [List.takeWhile_cons, ih]

/-- The digits that are read as a number. -/
def numberAhead (width : Option Nat) (cs : List Char) : List Char :=
  (match width with
    | some w => cs.take w
    | none => cs).takeWhile Decimal.isDigit

theorem isPrefix_numberAhead (width : Option Nat) (cs : List Char) :
    numberAhead width cs <+: cs := by
  cases width with
  | none => exact List.takeWhile_prefix _
  | some w => exact (List.takeWhile_prefix _).trans (List.take_prefix w cs)

theorem numberAhead_append (hc : Decimal.isDigit c = false) (width : Option Nat)
    (cs more : List Char) : numberAhead width (cs ++ c :: more) = numberAhead width cs := by
  cases width with
  | none =>
    have h := takeWhile_append_take hc cs more (c :: more).length
    rwa [List.take_length] at h
  | some w =>
    simp only [numberAhead, List.take_append]
    exact takeWhile_append_take hc _ _ _

theorem readNumber_eq_ok {width : Option Nat} {n : Nat} :
    readNumber width cs = .ok (n, rest) ↔
      numberAhead width cs ≠ [] ∧ Decimal.ofDigits (numberAhead width cs) = n ∧
        cs.drop (numberAhead width cs).length = rest := by
  unfold readNumber numberAhead
  dsimp only
  generalize List.takeWhile Decimal.isDigit _ = ds
  cases ds with
  | nil => simp
  | cons d ds => simp

theorem readNumber_append (hc : Decimal.isDigit c = false) {width : Option Nat} {n : Nat}
    (h : readNumber width cs = .ok (n, rest)) (more : List Char) :
    readNumber width (cs ++ c :: more) = .ok (n, rest ++ c :: more) := by
  obtain ⟨hne, hn, hrest⟩ := readNumber_eq_ok.mp h
  refine readNumber_eq_ok.mpr ?_
  rw [numberAhead_append hc,
    List.drop_append_of_le_length (isPrefix_numberAhead width cs).length_le]
  exact ⟨hne, hn, by rw [hrest]⟩

theorem trimStart_append (h : Text.trimStart cs ≠ []) (more : List Char) :
    Text.trimStart (cs ++ more) = Text.trimStart cs ++ more := by
  rw [Text.trimStart, List.dropWhile_append, if_neg (by simpa [Text.trimStart] using h)]
  rfl

theorem readNumber_nil_ne_ok {width : Option Nat} {a : Nat × List Char} :
    readNumber width [] ≠ .ok a := by
  cases width <;> simp [readNumber]

theorem readChecked_append {α : Type} (hc : Decimal.isDigit c = false) {width : Option Nat}
    (p : Nat → Prop) [DecidablePred p] (f : Nat → α) {flaw : Flaw} {a : α}
    (h : (readNumber width cs >>= fun read =>
      if p read.1 then pure (f read.1, read.2) else .error flaw) = .ok (a, rest))
    (more : List Char) :
    (readNumber width (cs ++ c :: more) >>= fun read =>
      if p read.1 then pure (f read.1, read.2) else .error flaw) = .ok (a, rest ++ c :: more) := by
  obtain ⟨⟨n, after⟩, hn, h⟩ := bind_eq_ok.mp h
  rw [readNumber_append hc hn, ok_bind]
  dsimp only at h ⊢
  split at h
  · next hp =>
    cases h
    rw [if_pos hp]
    rfl
  · cases h

theorem readField_append (hc : Decimal.isDigit c = false) {low high n : Nat}
    (h : readField low high cs = .ok (n, rest)) (more : List Char) :
    readField low high (cs ++ c :: more) = .ok (n, rest ++ c :: more) := by
  have hne : Text.trimStart cs ≠ [] := by
    intro hnil
    obtain ⟨_, hn, _⟩ := bind_eq_ok.mp h
    exact readNumber_nil_ne_ok (hnil ▸ hn)
  unfold readField at h ⊢
  rw [trimStart_append hne]
  exact readChecked_append hc (fun n => low ≤ n ∧ n ≤ high) id h more

theorem readLiteral_append {d : Char} (h : readLiteral d cs = .ok rest) (more : List Char) :
    readLiteral d (cs ++ more) = .ok (rest ++ more) := by
  cases cs with
  | nil => cases h
  | cons e cs =>
    rw [readLiteral] at h
    rw [List.cons_append, readLiteral]
    split at h
    · next he =>
      cases h
      rw [if_pos he]
    · cases h

theorem readYear_of_unsigned {d : Char} {ds : List Char} (h : Text.trimStart cs = d :: ds)
    (hminus : d ≠ '-') (hplus : d ≠ '+') :
    readYear cs = readNumber (some 4) (d :: ds) >>= fun read => pure ((read.1 : Int), read.2) := by
  unfold readYear
  rw [h]
  split
  · next heq =>
    cases heq
    exact absurd rfl hminus
  · next heq =>
    cases heq
    exact absurd rfl hplus
  · rfl

theorem readYear_append (hc : Decimal.isDigit c = false) {year : Int}
    (h : readYear cs = .ok (year, rest)) (more : List Char) :
    readYear (cs ++ c :: more) = .ok (year, rest ++ c :: more) := by
  have hne : Text.trimStart cs ≠ [] := by
    intro hnil
    rw [readYear, hnil] at h
    cases h
  have htrim := trimStart_append hne (c :: more)
  obtain ⟨d, ds, hds⟩ := List.exists_cons_of_ne_nil hne
  rw [hds] at htrim
  -- It depends on the sign how many digits the year may have.
  by_cases hminus : d = '-'
  · subst hminus
    unfold readYear at h ⊢
    rw [hds] at h
    rw [htrim]
    exact readChecked_append hc (· ≤ Decimal.twoTo 31) (fun n => -(n : Int)) h more
  · by_cases hplus : d = '+'
    · subst hplus
      unfold readYear at h ⊢
      rw [hds] at h
      rw [htrim]
      exact readChecked_append hc (· < Decimal.twoTo 31) (fun n => (n : Int)) h more
    · rw [readYear_of_unsigned hds hminus hplus] at h
      obtain ⟨⟨n, after⟩, hn, h⟩ := bind_eq_ok.mp h
      cases h
      have hmore := readNumber_append hc hn more
      rw [List.cons_append] at hmore htrim
      rw [readYear_of_unsigned htrim hminus hplus, hmore]
      rfl

theorem readMinute_append (hc : Decimal.isDigit c = false) {m : Minute}
    (h : readMinute cs = .ok (m, rest)) (more : List Char) :
    readMinute (cs ++ c :: more) = .ok (m, rest ++ c :: more) := by
  obtain ⟨⟨_, cs₁⟩, h₁, h⟩ := bind_eq_ok.mp h
  obtain ⟨cs₂, h₂, h⟩ := bind_eq_ok.mp h
  obtain ⟨⟨_, cs₃⟩, h₃, h⟩ := bind_eq_ok.mp h
  obtain ⟨cs₄, h₄, h⟩ := bind_eq_ok.mp h
  obtain ⟨⟨_, cs₅⟩, h₅, h⟩ := bind_eq_ok.mp h
  obtain ⟨cs₆, h₆, h⟩ := bind_eq_ok.mp h
  obtain ⟨⟨_, cs₇⟩, h₇, h⟩ := bind_eq_ok.mp h
  obtain ⟨cs₈, h₈, h⟩ := bind_eq_ok.mp h
  obtain ⟨⟨_, cs₉⟩, h₉, h⟩ := bind_eq_ok.mp h
  cases h
  simp only [readMinute, readYear_append hc h₁, readLiteral_append h₂, readField_append hc h₃,
    readLiteral_append h₄, readField_append hc h₅, readLiteral_append h₆, readField_append hc h₇,
    readLiteral_append h₈, readField_append hc h₉, ok_bind]
  rfl

theorem parse_append (hc : Decimal.isDigit c = false) {t : Timestamp} (h : parse cs = .ok t)
    (more : List Char) : parse (cs ++ c :: more) = .error .trailingText := by
  obtain ⟨⟨m, rest⟩, hm, -⟩ := bind_eq_ok.mp h
  rw [parse, readMinute_append hc hm, ok_bind]
  simp

/-- Timestamps with a dash and more behind them agree as a whole only if they agree part by part. -/
theorem eq_of_append_dash {t u : Timestamp} {ds more others : List Char} (ht : parse cs = .ok t)
    (hu : parse ds = .ok u) (h : cs ++ '-' :: more = ds ++ '-' :: others) :
    cs = ds ∧ more = others := by
  -- Of two texts that begin alike the longer one goes on with a dash behind the shorter one.
  have hdash : Decimal.isDigit '-' = false := by decide
  rcases List.append_eq_append_iff.mp h with ⟨gap, hds, hgap⟩ | ⟨gap, hcs, hgap⟩
  · cases gap with
    | nil => simpa [hds] using hgap
    | cons c gap =>
      cases hgap
      rw [hds, parse_append hdash ht] at hu
      cases hu
  · cases gap with
    | nil => simpa [hcs, eq_comm] using hgap
    | cons c gap =>
      cases hgap
      rw [hcs, parse_append hdash hu] at ht
      cases ht

end Timestamp

namespace TagNames

variable {ε : Type}

theorem toList_tagName (r : Release) (v : Version) :
    (r.tagName v).toList =
      "release-".toList ++ (stripRcPrefix r.rcName ++ '-' :: v.name.toList) := by
  simp [Release.tagName]

/-- Expected tags are the same only for the same timestamp text and the same version name. -/
theorem tagName_eq_iff {r s : Release} (hr : r.Dated) (hs : s.Dated) (v w : Version) :
    r.tagName v = s.tagName w ↔
      stripRcPrefix r.rcName = stripRcPrefix s.rcName ∧ v.name = w.name := by
  rw [← String.toList_inj, toList_tagName, toList_tagName, List.append_cancel_left_eq,
    ← String.toList_inj]
  constructor
  · exact Timestamp.eq_of_append_dash hr hs
  · rintro ⟨hstrip, hname⟩
    rw [hstrip, hname]

/-- Names that all have the conventional beginning differ in what follows it. -/
theorem rcName_eq_of_strip {name other : String} (hname : rcPrefix <+: name.toList)
    (hother : rcPrefix <+: other.toList) (h : stripRcPrefix name = stripRcPrefix other) :
    name = other := by
  obtain ⟨ds, hds⟩ := hname
  obtain ⟨es, hes⟩ := hother
  rw [stripRcPrefix_of_eq hds.symm, stripRcPrefix_of_eq hes.symm] at h
  rw [← String.toList_inj, ← hds, ← hes, h]

theorem nodup_names_of_passed {index : ReleaseIndex} {mode : Mode}
    {repository : Option (Repository ε)} {result : CheckResult}
    (hrun : (Rule.uniqueVersionNames.run ⟨index, mode, repository⟩).result = .ok result)
    (hpassed : result.passed = true) :
    ∀ r ∈ index.releases, (r.versions.map (·.name)).Nodup := by
  obtain ⟨r, hr, hiff⟩ := Truncation.exists_result_of_batch (by simp [standardChecks])
    (BatchReport.result_uniqueVersionNames index repository) mode
  rw [hrun] at hr
  cases hr
  exact Verdict.duplicates_eq_nil_iff.mp (CheckResult.passed_iff.mp (hiff.mp hpassed))

theorem nodup_tagNames {index : ReleaseIndex} (hdated : ∀ r ∈ index.releases, r.Dated)
    (hdistinct : (index.releases.map (·.rcName)).Nodup)
    (hbegin : ∀ r ∈ index.releases, rcPrefix <+: r.rcName.toList)
    (hnames : ∀ r ∈ index.releases, (r.versions.map (·.name)).Nodup) :
    (index.versions.map fun p => p.1.tagName p.2).Nodup := by
  have htags : (index.versions.map fun p => p.1.tagName p.2) =
      index.releases.flatMap fun r => r.versions.map r.tagName := by
    simp [ReleaseIndex.versions, List.map_flatMap, Function.comp_def]
  rw [htags, List.nodup_flatMap]
  constructor
  · intro r hr
    refine (List.pairwise_map.mp (hnames r hr)).map _ fun v w hname htag => ?_
    exact hname ((tagName_eq_iff (hdated r hr) (hdated r hr) v w).mp htag).2
  · refine (List.pairwise_map.mp hdistinct).imp_of_mem fun {r s} hr hs hne => ?_
    refine List.disjoint_left.mpr fun tag hrtag hstag => ?_
    obtain ⟨v, -, rfl⟩ := List.mem_map.mp hrtag
    obtain ⟨w, -, hw⟩ := List.mem_map.mp hstag
    have hstrip := ((tagName_eq_iff (hdated s hs) (hdated r hr) w v).mp hw).1
    exact hne (rcName_eq_of_strip (hbegin r hr) (hbegin s hs) hstrip.symm)

/-- The parts of an expected tag can be told apart, whatever the names of versions are. So in an
index with distinct names of release candidates no tag is looked at for two versions. -/
theorem tagNames_tell_apart :
    (∀ {r s : Release}, r.Dated → s.Dated → ∀ v w : Version,
      (r.tagName v = s.tagName w ↔
        stripRcPrefix r.rcName = stripRcPrefix s.rcName ∧ v.name = w.name)) ∧
    ∀ {index : ReleaseIndex} {mode : Mode} {repository : Option (Repository ε)}
      {result : CheckResult},
      (∀ r ∈ index.releases, r.Dated) → (index.releases.map (·.rcName)).Nodup →
      (∀ r ∈ index.releases, rcPrefix <+: r.rcName.toList) →
      (Rule.uniqueVersionNames.run ⟨index, mode, repository⟩).result = .ok result →
      result.passed = true → (index.versions.map fun p => p.1.tagName p.2).Nodup :=
  ⟨tagName_eq_iff, fun hdated hdistinct hbegin hrun hpassed =>
    nodup_tagNames hdated hdistinct hbegin (nodup_names_of_passed hrun hpassed)⟩

def lookalikes : ReleaseIndex :=
  ⟨[⟨"rc--2023-7-9_8-50", ⟨⟨2023, 7, 9, 8, 50⟩, by decide⟩, [⟨"base", "a"⟩, ⟨"0-base", "b"⟩]⟩,
    ⟨"rc--2023-7-9_8-5", ⟨⟨2023, 7, 9, 8, 5⟩, by decide⟩, [⟨"0-base", "c"⟩, ⟨"base", "d"⟩]⟩]⟩

theorem tagNames_tell_apart_lookalikes :
    (∀ r ∈ lookalikes.releases, r.Dated) ∧
    (lookalikes.releases.map (·.rcName)).Nodup ∧
    (∀ r ∈ lookalikes.releases, rcPrefix <+: r.rcName.toList) ∧
    (lookalikes.versions.map fun p => p.1.tagName p.2) =
      ["release-2023-7-9_8-50-base", "release-2023-7-9_8-50-0-base", "release-2023-7-9_8-5-0-base",
        "release-2023-7-9_8-5-base"] ∧
    (∀ r ∈ lookalikes.releases, ∀ s ∈ lookalikes.releases, ∀ v w : Version,
      (r.tagName v = s.tagName w ↔
        stripRcPrefix r.rcName = stripRcPrefix s.rcName ∧ v.name = w.name)) ∧
    (lookalikes.versions.map fun p => p.1.tagName p.2).Nodup := by
  have hdated : ∀ r ∈ lookalikes.releases, r.Dated := by
    unfold Release.Dated
    decide +kernel
  have hbegin : ∀ r ∈ lookalikes.releases, rcPrefix <+: r.rcName.toList := by decide +kernel
  have hdistinct : (lookalikes.releases.map (·.rcName)).Nodup := by decide +kernel
  have hrun : (Rule.uniqueVersionNames.run
      (⟨lookalikes, .failFast, none⟩ : CheckContext Unit)).result =
        .ok ⟨"unique-version-names",
          "All version names are unique within the respective releases", [], []⟩ := by
    decide +kernel
  exact ⟨hdated, hdistinct, hbegin, by decide +kernel,
    fun r hr s hs v w => (tagNames_tell_apart (ε := Unit)).1 (hdated r hr) (hdated s hs) v w,
    tagNames_tell_apart.2 hdated hdistinct hbegin hrun rfl⟩

end TagNames
end ReleaseAudit
