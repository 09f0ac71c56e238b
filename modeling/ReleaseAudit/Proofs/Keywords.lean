import ReleaseAudit.Schema.Judge

/-! What single rules say about a value. Most of them concern values of one type and say nothing
about any other value. -/
namespace ReleaseAudit
namespace Schema
namespace Judge

variable (j : Judge) (judged : Unit → List Part)

theorem breaches_type (wholeDoubles : Bool) (names : List TypeName) (v : Json) :
    j.breaches judged (.type wholeDoubles names) v =
      if names.any (hasType wholeDoubles v) then [] else [.wrongType v names] := by
  cases v <;> rfl

theorem breaches_size (m : Measure) (isUpper : Bool) (limit : Nat) (v : Json) :
    j.breaches judged (.size m isUpper limit) v =
      match m.of? v with
      | some n =>
        if (if isUpper then n ≤ limit else limit ≤ n) then [] else [.wrongSize v m isUpper limit]
      | none => [] := by
  cases v <;> rfl

theorem breaches_reference (r : Reference) (v : Json) :
    j.breaches judged (.reference r) v =
      ((j.library.follow j.trail r).map fun goal => j.verdict goal.1 goal.2 v).getD [] := by
  cases v <;> rfl

theorem breaches_pattern (text : String) (p : Pattern) (v : Json) :
    j.breaches judged (.pattern text p) v =
      match v with
      | .str s =>
        match p.find s with
        | .fits => []
        | .misses => [.noMatch (.str s) text]
        | .gaveUp => [.searchGaveUp]
      | _ => [] := by
  cases v with
  | str s => exact List.append_nil _
  | _ => rfl

theorem breaches_properties (known : List (String × Schema)) (v : Json) :
    j.breaches judged (.properties known) v =
      match v with
      | .obj fields =>
        known.flatMap fun p => ((Json.lookup p.1 fields).map (j.verdict j.trail p.2)).getD []
      | _ => [] := by
  cases v with
  | obj fields => exact List.append_nil _
  | _ => rfl

theorem breaches_required (names : List String) (v : Json) :
    j.breaches judged (.required names) v =
      match v with
      | .obj fields => (names.filter fun n => (Json.lookup n fields).isNone).map .missingProperty
      | _ => [] := by
  cases v with
  | obj fields => exact List.append_nil _
  | _ => rfl

theorem breaches_items (skipped : Nat) (each : Schema) (v : Json) :
    j.breaches judged (.items skipped each) v =
      match v with
      | .arr vs => (vs.drop skipped).flatMap (j.verdict j.trail each)
      | _ => [] := by
  cases v with
  | arr vs => exact List.append_nil _
  | _ => rfl

end Judge

/-- A schema with rules has the breaches of one rule after the other. -/
theorem breaches_rules (library : Library) (fuel : Nat) (trail : Trail) (source : Json)
    (keywords : List Keyword) (v : Json) :
    ∃ judged, breaches library (fuel + 1) trail (.rules source keywords) v =
      keywords.flatMap fun k =>
        (⟨library, trail, breaches library fuel, Schema.judged library fuel⟩ : Judge).breaches
          judged k v :=
  ⟨_, by rw [breaches]⟩

/-- A reference to a schema that nothing takes the place of leads there on every trail. -/
theorem Library.follow_of_noRivals {l : Library} {r : Reference} {s : Schema}
    (h : l.target? r = some ⟨s, []⟩) (trail : Trail) :
    ∃ next, l.follow trail r = some (next, s) := by
  refine ⟨extend trail r r.target, ?_⟩
  have hrecursive : recursiveRival? [] trail = none := by
    cases trail <;> rfl
  have hdynamic : ∀ t : Trail, dynamicRival? [] t = none := fun t => by
    simp [dynamicRival?]
  simp [follow, h, hrecursive, hdynamic]

end Schema
end ReleaseAudit
