import ReleaseAudit.Proofs.RcName

/-! Timestamps and their texts. Names may write the same minute in many ways; the text of a
timestamp is one of them, and of the names of the form in full it is the only one. -/
namespace ReleaseAudit
namespace Timestamp

theorem toList_toString (t : Timestamp) : (toString t).toList = t.text :=
  String.toList_ofList

theorem exists_yearText_eq_cons (year : Int) :
    ∃ c cs, yearText year = c :: cs ∧ c ≠ 'r' := by
  unfold yearText
  split
  · obtain ⟨c, cs, hcs⟩ := List.exists_cons_of_ne_nil (Decimal.padded_ne_nil 4 year.toNat)
    have hc : Decimal.isDigit c = true :=
      Decimal.isDigit_of_mem_padded 4 year.toNat c (by simp [hcs])
    refine ⟨c, cs, hcs, ?_⟩
    rintro rfl
    exact absurd hc (by decide)
  · refine ⟨_, _, rfl, ?_⟩
    split <;> decide

/-- The text of a timestamp does not look like a name of a release candidate, so nothing is removed
from it. -/
theorem stripRcPrefix_toString (t : Timestamp) : stripRcPrefix (toString t) = t.text := by
  obtain ⟨c, cs, hyear, hc⟩ := exists_yearText_eq_cons t.year
  have hnot : rcPrefix.isPrefixOf t.text = false := by
    simp [Minute.text, hyear, rcPrefix, List.isPrefixOf, Ne.symm hc]
  rw [stripRcPrefix, toList_toString, if_neg (by simp [hnot])]

theorem ofRcName_toString (t : Timestamp) : ofRcName (toString t) = .ok t := by
  rw [ofRcName, stripRcPrefix_toString, parse_text]

theorem ofRcName_rcPrefix_append (t : Timestamp) : ofRcName ("rc--" ++ toString t) = .ok t := by
  rw [ofRcName, stripRcPrefix_rcPrefix_append, toList_toString, parse_text]

theorem toString_injective : Function.Injective (toString : Timestamp → String) := by
  intro t u h
  have htu : ofRcName (toString t) = ofRcName (toString u) := congrArg ofRcName h
  rw [ofRcName_toString, ofRcName_toString] at htu
  exact Except.ok.inj htu

/-- The text of the timestamp in a name. -/
def display (name : String) : Except Flaw String := (ofRcName name).map toString

theorem display_of_ok {name : String} {t : Timestamp} (h : ofRcName name = .ok t) :
    display name = .ok (toString t) := by
  rw [display, h]
  rfl

theorem display_eq_ok {name text : String} :
    display name = .ok text ↔ ∃ t, ofRcName name = .ok t ∧ toString t = text := map_eq_ok

/-- A name of the form in full is the text of its timestamp behind the conventional beginning. -/
theorem stripRcPrefix_of_canonical {name : String} (hname : IsCanonicalName name) {t : Timestamp}
    (ht : ofRcName name = .ok t) : stripRcPrefix name = t.text := by
  obtain ⟨m, htext, hm⟩ := hname.ofRcName
  rw [toMinute_of_ofMinute (hm ▸ ht)]
  exact stripRcPrefix_of_eq htext

/-- A timestamp is read back from its text, with the conventional beginning and without it. So
different timestamps have different texts, to display what is displayed already changes nothing, and
a name that the shipped schema admits displays itself. -/
theorem display_roundTrip :
    (∀ t : Timestamp, ofRcName (toString t) = .ok t ∧ ofRcName ("rc--" ++ toString t) = .ok t) ∧
    Function.Injective (toString : Timestamp → String) ∧
    (∀ name text, display name = .ok text → display text = .ok text) ∧
    ∀ name t, Schema.Shipped.rcName.isFound name = true → ofRcName name = .ok t →
      toString t = String.ofList (stripRcPrefix name) := by
  refine ⟨fun t => ⟨ofRcName_toString t, ofRcName_rcPrefix_append t⟩, toString_injective,
    fun name text h => ?_, fun name t hname ht => ?_⟩
  · obtain ⟨t, -, rfl⟩ := display_eq_ok.mp h
    exact display_of_ok (ofRcName_toString t)
  · rw [stripRcPrefix_of_canonical ((Schema.Shipped.isFound_rcName name).mp hname) ht]
    rfl

def longAgo : Timestamp := ⟨⟨-44, 3, 15, 9, 5⟩, by decide⟩

def leapMinute : Timestamp := ⟨⟨0, 2, 29, 23, 59⟩, by decide⟩

theorem display_roundTrip_sample :
    (ofRcName "rc---44-3-15_9-5" = .ok longAgo ∧ toString longAgo = "-0044-03-15_09-05" ∧
      ofRcName (toString longAgo) = .ok longAgo ∧
      ofRcName ("rc--" ++ toString longAgo) = .ok longAgo) ∧
    (display "rc-- +012345-1-2_3-4" = .ok "+12345-01-02_03-04" ∧
      display "+12345-01-02_03-04" = .ok "+12345-01-02_03-04") ∧
    Schema.Shipped.rcName.isFound "rc--0000-02-29_23-59" = true ∧
    ofRcName "rc--0000-02-29_23-59" = .ok leapMinute ∧
    toString leapMinute = String.ofList (stripRcPrefix "rc--0000-02-29_23-59") := by
  have hlong : display "rc-- +012345-1-2_3-4" = .ok "+12345-01-02_03-04" := by decide +kernel
  have hfound : Schema.Shipped.rcName.isFound "rc--0000-02-29_23-59" = true := by decide +kernel
  have hleap : ofRcName "rc--0000-02-29_23-59" = .ok leapMinute := by decide +kernel
  exact ⟨⟨by decide +kernel, by decide +kernel, display_roundTrip.1 longAgo⟩,
    ⟨hlong, display_roundTrip.2.2.1 _ _ hlong⟩, hfound, hleap,
    display_roundTrip.2.2.2 _ _ hfound hleap⟩

end Timestamp
end ReleaseAudit
