import ReleaseAudit.Proofs.Defects

/-! What the breaches of a document are about, whatever the schema: values that stand somewhere in
it, of which the breaches keep nothing but the values. -/
namespace ReleaseAudit

/-- A value that stands in another one at the end of a path. Of several properties with one name
each counts, and the name of a property stands where its object does. -/
inductive Json.Stands : Json → List Json.Step → Json → Prop
  | here (v : Json) : Stands v [] v
  | name {fields : List (String × Json)} {f : String × Json} (h : f ∈ fields) :
    Stands (.obj fields) [] (.str f.1)
  | field {fields : List (String × Json)} {f : String × Json} {path : List Json.Step} {w : Json}
    (h : f ∈ fields) (hw : Stands f.2 path w) : Stands (.obj fields) (.field f.1 :: path) w
  | item {vs : List Json} {index : Nat} {v : Json} {path : List Json.Step} {w : Json}
    (h : vs[index]? = some v) (hw : Stands v path w) : Stands (.arr vs) (.item index :: path) w

theorem Json.mem_of_lookup {name : String} {fields : List (String × Json)} {v : Json}
    (h : Json.lookup name fields = some v) : (name, v) ∈ fields := by
  obtain ⟨f, hf, rfl⟩ := Option.map_eq_some_iff.mp h
  have hname : f.1 = name := by simpa using List.find?_some hf
  exact hname ▸ List.mem_of_find?_eq_some hf

namespace Schema

/-- The breach is one of the value, or it names parts that the value has or lacks. Of a value in the
place of an expected one, or one that is too hard to search, nothing is kept. -/
def Breach.IsAbout (w : Json) : Breach → Prop
  | .refused v | .wrongType v _ | .notInEnum v _ | .outOfBound v _ _ | .wrongSize v _ _ _
  | .notMultiple v _ | .noMatch v _ | .notOfFormat v _ | .badContent v _ | .noneContained v
  | .repeatedItems v | .noneOf v _ | .severalOf v | .forbidden v _ => v = w
  | .notConst expected => isExpected w expected = false
  | .searchGaveUp => ∃ s, w = .str s
  | .missingProperty name => ∃ fields, w = .obj fields ∧ Json.lookup name fields = none
  | .unexpectedProperties names | .unevaluatedProperties names =>
    ∃ fields, w = .obj fields ∧ names.Sublist (fields.map Prod.fst)
  | .furtherItems items | .unevaluatedItems items => ∃ vs, w = .arr vs ∧ items.Sublist vs

/-- Each of the breaches is about a value that stands in `v`. -/
def Concerns (v : Json) (found : List Breach) : Prop :=
  ∀ b ∈ found, ∃ path w, v.Stands path w ∧ b.IsAbout w

namespace Concerns

variable {v : Json} {found rest : List Breach}

theorem nil (v : Json) : Concerns v [] := nofun

theorem one {b : Breach} (h : b.IsAbout v) : Concerns v [b] := by
  intro b' hb'
  rw [List.mem_singleton.mp hb']
  exact ⟨[], v, .here v, h⟩

/-- A breach that is there unless a condition holds. -/
theorem oneUnless {p : Prop} [Decidable p] {b : Breach} (h : b.IsAbout v) :
    Concerns v (if p then [] else [b]) := by
  split
  · exact nil v
  · exact one h

theorem oneIf {p : Prop} [Decidable p] {b : Breach} (h : b.IsAbout v) :
    Concerns v (if p then [b] else []) := by
  split
  · exact one h
  · exact nil v

theorem append (h : Concerns v found) (h' : Concerns v rest) : Concerns v (found ++ rest) :=
  List.forall_mem_append.mpr ⟨h, h'⟩

theorem flatMap {α : Type} {as : List α} {f : α → List Breach} (h : ∀ a ∈ as, Concerns v (f a)) :
    Concerns v (as.flatMap f) := by
  intro b hb
  obtain ⟨a, ha, hb⟩ := List.mem_flatMap.mp hb
  exact h a ha b hb

theorem map {α : Type} {as : List α} {f : α → Breach} (h : ∀ a ∈ as, Concerns v [f a]) :
    Concerns v (as.map f) := by
  intro b hb
  obtain ⟨a, ha, rfl⟩ := List.mem_map.mp hb
  exact h a ha _ (List.mem_singleton_self _)

theorem getD {found : Option (List Breach)} (h : ∀ bs, found = some bs → Concerns v bs) :
    Concerns v (found.getD []) := by
  cases found with
  | none => exact nil v
  | some bs => exact h bs rfl

theorem of_field {fields : List (String × Json)} {f : String × Json} (hf : f ∈ fields)
    (h : Concerns f.2 found) : Concerns (.obj fields) found := by
  intro b hb
  obtain ⟨path, w, hw, hb⟩ := h b hb
  exact ⟨.field f.1 :: path, w, .field hf hw, hb⟩

theorem of_item {vs : List Json} (hv : v ∈ vs) (h : Concerns v found) :
    Concerns (.arr vs) found := by
  intro b hb
  obtain ⟨path, w, hw, hb⟩ := h b hb
  obtain ⟨index, hindex⟩ := List.mem_iff_getElem?.mp hv
  exact ⟨.item index :: path, w, .item hindex hw, hb⟩

theorem of_name {fields : List (String × Json)} {f : String × Json} (hf : f ∈ fields)
    (h : Concerns (.str f.1) found) : Concerns (.obj fields) found := by
  intro b hb
  obtain ⟨path, w, hw, hb⟩ := h b hb
  cases hw
  exact ⟨[], .str f.1, .name hf, hb⟩

end Concerns

namespace Judge

variable {j : Judge} (hj : ∀ trail s v, Concerns v (j.verdict trail s v))

theorem concerns_textBreaches (k : Keyword) (s : String) :
    Concerns (.str s) (textBreaches k s) := by
  unfold textBreaches
  split
  · split
    · exact .nil _
    · exact .one rfl
    · exact .one ⟨s, rfl⟩
  · exact .oneUnless rfl
  · next c =>
    cases c.flaw? s with
    | none => exact .nil _
    | some flaw => exact .one rfl
  · exact .nil _

theorem concerns_numberBreaches (k : Keyword) (v : Json) : Concerns v (numberBreaches k v) := by
  unfold numberBreaches
  split
  · exact .oneUnless rfl
  · exact .oneUnless rfl
  · exact .nil _

theorem concerns_unevaluatedProperties (judged : List Part) (fields : List (String × Json)) :
    Concerns (.obj fields) (unevaluatedProperties judged fields) := by
  unfold unevaluatedProperties
  exact .oneUnless ⟨fields, rfl, List.filter_sublist.map _⟩

theorem concerns_unevaluatedItems (judged : List Part) (vs : List Json) :
    Concerns (.arr vs) (unevaluatedItems judged vs) := by
  unfold unevaluatedItems
  refine .oneUnless ⟨vs, rfl, ?_⟩
  have hsublist : ∀ p : Json × Nat → Bool, ((vs.zipIdx.filter p).map Prod.fst).Sublist vs := by
    intro p
    conv_rhs => rw [← List.zipIdx_map_fst 0 vs]
    exact List.filter_sublist.map _
  exact hsublist _

include hj

theorem concerns_property (known : List (String × Schema)) (patterns : List (Pattern × Schema))
    (f : String × Json) : Concerns f.2 (j.property known patterns f).1 := by
  have hpatterns : Concerns f.2
      ((patterns.filter fun p => p.1.fits f.1).flatMap fun p => j.check p.2 f.2) :=
    .flatMap fun p _ => hj _ _ _
  unfold property
  dsimp only
  split
  · exact .append (hj _ _ _) hpatterns
  · exact hpatterns

theorem concerns_closed (known : Option (List (String × Schema)))
    (patterns : Option (List (Pattern × Schema))) (others : Option Schema)
    (fields : List (String × Json)) :
    Concerns (.obj fields) (j.closed known patterns others fields) := by
  unfold closed
  dsimp only
  generalize hjudged :
    (fields.map fun f => (f, j.property (known.getD []) (patterns.getD []) f)) = judged
  have hfields : judged.map (·.1) = fields := by
    rw [← hjudged, List.map_map]
    exact List.map_id fields
  have hown : ∀ r ∈ judged, r.1 ∈ fields ∧ Concerns r.1.2 r.2.1 := by
    intro r hr
    rw [← hjudged] at hr
    obtain ⟨f, hf, rfl⟩ := List.mem_map.mp hr
    exact ⟨hf, concerns_property hj _ _ f⟩
  split
  · refine .flatMap fun r hr => .of_field (hown r hr).1 ?_
    split
    · exact (hown r hr).2
    · exact (hown r hr).2.append (hj _ _ _)
  · split
    · exact .map fun f hf => .of_field (List.mem_of_mem_take hf) (.one rfl)
    · -- A breach about all that is too much names only properties that the object has.
      refine .append (.flatMap fun r hr => .of_field (hown r hr).1 (hown r hr).2) ?_
      refine .oneUnless ⟨fields, rfl, ?_⟩
      rw [← hfields, List.map_map]
      exact List.filter_sublist.map _

theorem concerns_names (each : Schema) (fields : List (String × Json)) :
    Concerns (.obj fields) (j.names each fields) := by
  unfold names
  split
  · exact .oneUnless rfl
  · exact .flatMap fun f hf => .of_name hf (hj _ _ _)

theorem concerns_objectBreaches (judged : Unit → List Part) (k : Keyword)
    (fields : List (String × Json)) :
    Concerns (.obj fields) (j.objectBreaches judged k fields) := by
  unfold objectBreaches
  split
  · exact concerns_closed hj _ _ _ fields
  · refine .flatMap fun p _ => .getD fun bs hbs => ?_
    obtain ⟨v, hv, rfl⟩ := Option.map_eq_some_iff.mp hbs
    exact .of_field (Json.mem_of_lookup hv) (hj _ _ _)
  · refine .flatMap fun p _ => .flatMap fun f hf => ?_
    exact .of_field (List.mem_of_mem_filter hf) (hj _ _ _)
  · exact concerns_names hj _ fields
  · exact .flatMap fun s _ => hj _ _ _
  · refine .map fun name hname => .one ⟨fields, rfl, ?_⟩
    simpa using (List.mem_filter.mp hname).2
  · exact .nil _
  · exact concerns_unevaluatedProperties _ fields
  · exact .nil _

theorem concerns_arrayBreaches (judged : Unit → List Part) (k : Keyword) (vs : List Json) :
    Concerns (.arr vs) (j.arrayBreaches judged k vs) := by
  have heach : ∀ skipped each, Concerns (.arr vs) ((vs.drop skipped).flatMap (j.check each)) :=
    fun skipped each => .flatMap fun v hv => .of_item (List.mem_of_mem_drop hv) (hj _ _ _)
  unfold arrayBreaches
  split
  · exact heach _ _
  · exact .flatMap fun p hp => .of_item (List.of_mem_zip hp).2 (hj _ _ _)
  · exact heach _ _
  · exact .oneUnless ⟨vs, rfl, List.drop_sublist _ vs⟩
  · exact .oneUnless rfl
  · exact .nil _
  · exact concerns_unevaluatedItems _ vs
  · exact .oneIf rfl
  · exact .nil _

theorem concerns_combinedBreaches (k : Keyword) (v : Json) :
    Concerns v (j.combinedBreaches k v) := by
  unfold combinedBreaches
  split
  · refine .getD fun bs hbs => ?_
    obtain ⟨goal, -, rfl⟩ := Option.map_eq_some_iff.mp hbs
    exact hj _ _ _
  · exact .flatMap fun s _ => hj _ _ _
  · exact .oneIf rfl
  · unfold exactlyOne
    split
    · exact .one rfl
    · exact .nil _
    · exact .one rfl
  · exact .oneIf rfl
  · refine .getD fun bs hbs => ?_
    obtain ⟨s, -, rfl⟩ := Option.map_eq_some_iff.mp hbs
    exact hj _ _ _
  · exact .nil _

theorem concerns_commonBreaches (k : Keyword) (v : Json) : Concerns v (j.commonBreaches k v) := by
  unfold commonBreaches
  split
  · exact .oneUnless rfl
  · split
    · exact .nil v
    · next hother => exact .one (eq_false_of_ne_true hother)
  · exact .oneUnless rfl
  · split
    · exact .oneUnless rfl
    · exact .nil v
  · exact concerns_combinedBreaches hj _ v

theorem concerns_breaches (judged : Unit → List Part) (k : Keyword) (v : Json) :
    Concerns v (j.breaches judged k v) := by
  have hcommon := concerns_commonBreaches hj k
  cases v with
  | obj fields => exact .append (concerns_objectBreaches hj judged k fields) (hcommon _)
  | arr vs => exact .append (concerns_arrayBreaches hj judged k vs) (hcommon _)
  | str s => exact .append (concerns_textBreaches k s) (hcommon _)
  | int i => exact .append (concerns_numberBreaches k _) (hcommon _)
  | float x => exact .append (concerns_numberBreaches k _) (hcommon _)
  | null => exact hcommon _
  | bool b => exact hcommon _

end Judge

theorem concerns_breaches (library : Library) (fuel : Nat) (trail : Trail) (s : Schema) (v : Json) :
    Concerns v (breaches library fuel trail s v) := by
  -- The fuel bounds how deep schemas are followed, into values as well as along references.
  induction fuel generalizing trail s v with
  | zero =>
    rw [breaches]
    exact .nil v
  | succ fuel ih =>
    cases s with
    | constant b =>
      cases b with
      | false =>
        rw [breaches]
        exact .one rfl
      | true =>
        rw [breaches]
        exact .nil v
    | rules source keywords =>
      obtain ⟨judged, hrules⟩ := breaches_rules library fuel trail source keywords v
      rw [hrules]
      exact .flatMap fun k _ => Judge.concerns_breaches (fun trail s v => ih trail s v) judged k v

/-- Whatever the schema, each message of a rejection is that of a breach which is about a value of
the document. -/
theorem exists_found_of_validate {document schema : Json} {messages : List String}
    (h : Audit.validate document schema = .error (.schemaViolation messages)) :
    ∃ found : List Breach, found ≠ [] ∧ messages = found.map Breach.message ∧
      Concerns document found := by
  unfold Audit.validate at h
  split at h
  · cases h
  · next validator _ =>
    split at h
    · cases h
    · next hfound =>
      cases h
      exact ⟨validator.breaches document, hfound, rfl, concerns_breaches _ _ _ _ _⟩

end Schema
end ReleaseAudit
