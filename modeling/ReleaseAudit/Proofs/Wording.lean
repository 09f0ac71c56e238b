import ReleaseAudit.Proofs.Subjects

/-! How the defects of a document are worded. A message says which value is not right, or which name
is missing, and what is wrong; where that is it does not say. -/
namespace ReleaseAudit
namespace Grammar

open Schema (Breach Concerns)
open Schema.Shipped (indexBreaches)

namespace Demand

/-- What a message is about: a value, or a name that is missing. -/
def subject (v : Json) : Demand → String
  | .property name => Json.quote name
  | _ => v.compact

/-- What a message says of its subject. -/
def complaint : Demand → String
  | .object => " is not of type \"object\""
  | .array => " is not of type \"array\""
  | .text => " is not of type \"string\""
  | .flag => " is not of type \"boolean\""
  | .property _ => " is a required property"
  | .canonical => " does not match \"" ++ Schema.rcNamePattern ++ "\""
  | .someText => " is shorter than 1 character"
  | .someItem => " has less than 1 item"

theorem message_breach (v : Json) (demand : Demand) :
    (demand.breach v).message = demand.subject v ++ demand.complaint := by
  cases demand with
  | object | array | text | flag =>
    change v.compact ++ _ ++ _ ++ _ = _
    rw [String.append_assoc, String.append_assoc]
    congr 1
  | property name => rfl
  | canonical =>
    change v.compact ++ " does not match \"" ++ Schema.rcNamePattern ++ "\"" = _
    rw [String.append_assoc, String.append_assoc]
    rfl
  | someText =>
    have hphrase : " " ++ Schema.Measure.characters.phrase false 1 = someText.complaint := by
      decide +kernel
    change v.compact ++ " " ++ Schema.Measure.characters.phrase false 1 = _
    rw [String.append_assoc, hphrase]
    rfl
  | someItem =>
    have hphrase : " " ++ Schema.Measure.items.phrase false 1 = someItem.complaint := by
      decide +kernel
    change v.compact ++ " " ++ Schema.Measure.items.phrase false 1 = _
    rw [String.append_assoc, hphrase]
    rfl

def representatives : List Demand :=
  [.object, .array, .text, .flag, .property "", .canonical, .someText, .someItem]

theorem exists_representative (demand : Demand) :
    ∃ e ∈ representatives, demand.complaint = e.complaint := by
  cases demand with
  | property name => exact ⟨.property "", by decide, rfl⟩
  | _ => exact ⟨_, by decide, rfl⟩

/-- No complaint is the end of another one. -/
theorem complaint_eq_of_suffix {d e : Demand}
    (h : d.complaint.toList <:+ e.complaint.toList) : d.complaint = e.complaint := by
  have hall : ∀ a ∈ representatives, ∀ b ∈ representatives,
      a.complaint.toList <:+ b.complaint.toList → a.complaint = b.complaint := by decide +kernel
  obtain ⟨a, ha, hd⟩ := exists_representative d
  obtain ⟨b, hb, he⟩ := exists_representative e
  rw [hd, he] at h ⊢
  exact hall a ha b hb h

/-- A message can be told apart into its subject and its complaint. -/
theorem append_complaint_inj {a b : String} {d e : Demand}
    (h : a ++ d.complaint = b ++ e.complaint) : a = b ∧ d.complaint = e.complaint := by
  have hlist := congrArg String.toList h
  rw [String.toList_append, String.toList_append] at hlist
  have hends : d.complaint.toList <:+ e.complaint.toList ∨
      e.complaint.toList <:+ d.complaint.toList :=
    List.suffix_or_suffix_of_suffix ⟨_, hlist⟩ ⟨_, rfl⟩
  have hcomplaint : d.complaint = e.complaint := by
    rcases hends with hend | hend
    · exact complaint_eq_of_suffix hend
    · exact (complaint_eq_of_suffix hend).symm
  rw [hcomplaint] at hlist
  exact ⟨String.toList_inj.mp (List.append_cancel_right hlist), hcomplaint⟩

end Demand

/-- What is said of a defect: its subject and its complaint. -/
def Defect.said (v : Json) (d : Defect) : String × String :=
  (d.demand.subject ((v.at? d.path).getD .null), d.demand.complaint)

theorem Defect.message_breach (v : Json) (d : Defect) :
    (d.breach v).message = (d.said v).1 ++ (d.said v).2 := d.demand.message_breach _

theorem Defect.said_eq {v v' : Json} {d d' : Defect} (hdemand : d.demand = d'.demand)
    (hvalue : v.at? d.path = v'.at? d'.path) : d.said v = d'.said v' := by
  unfold said
  rw [hdemand, hvalue]

variable {document document' : Json} {found found' : List Defect}

/-- Messages are alike exactly if they say the same of the same subjects. -/
theorem map_message_eq_iff :
    (found.map fun d => (d.breach document).message) =
        (found'.map fun d => (d.breach document').message) ↔
      found.map (Defect.said document) = found'.map (Defect.said document') := by
  induction found generalizing found' with
  | nil => cases found' <;> simp
  | cons d found ih =>
    cases found' with
    | nil => simp
    | cons d' found' =>
      have hhead : (d.breach document).message = (d'.breach document').message ↔
          d.said document = d'.said document' := by
        rw [Defect.message_breach, Defect.message_breach]
        constructor
        · intro h
          obtain ⟨hsubject, hcomplaint⟩ := Demand.append_complaint_inj h
          exact Prod.ext hsubject hcomplaint
        · intro h
          rw [h]
      rw [List.map_cons, List.map_cons, List.map_cons, List.map_cons, List.cons.injEq,
        List.cons.injEq, hhead, ih]

/-- The defects of a document, each once, in the order of the messages. -/
structure Inventory (document : Json) (found : List Defect) : Prop where
  nodup : found.Nodup
  mem_iff : ∀ d, d ∈ found ↔ IsDefect IndexRules document d
  breaches_eq : indexBreaches document = found.map (Defect.breach document)

theorem exists_inventory (document : Json) : ∃ found, Inventory document found := by
  obtain ⟨found, hnodup, hmem, hbreaches⟩ := reports_index document
  exact ⟨found, hnodup, hmem, hbreaches⟩

theorem Inventory.validate_eq (h : Inventory document found) :
    Audit.validate document Schema.shippedDocument =
      if found = [] then .ok ()
      else .error (.schemaViolation (found.map fun d => (d.breach document).message)) := by
  rw [Audit.validate_shippedDocument, h.breaches_eq]
  cases found with
  | nil => rfl
  | cons d ds => simp

theorem Inventory.validate_eq_iff (h : Inventory document found) (h' : Inventory document' found') :
    Audit.validate document Schema.shippedDocument =
        Audit.validate document' Schema.shippedDocument ↔
      found.map (Defect.said document) = found'.map (Defect.said document') := by
  rw [h.validate_eq, h'.validate_eq, ← map_message_eq_iff]
  cases found <;> cases found' <;> simp

def OnlyDefect (document : Json) (d : Defect) : Prop :=
  ∀ e, IsDefect IndexRules document e ↔ e = d

theorem Inventory.eq_singleton (h : Inventory document found) {d : Defect}
    (hd : OnlyDefect document d) : found = [d] := by
  have hmem : ∀ e, e ∈ found ↔ e ∈ [d] := by
    intro e
    rw [h.mem_iff, hd, List.mem_singleton]
  exact List.perm_singleton.mp
    ((List.perm_ext_iff_of_nodup h.nodup (List.nodup_singleton d)).mpr hmem)

theorem OnlyDefect.validate_eq {d : Defect} (hd : OnlyDefect document d) :
    Audit.validate document Schema.shippedDocument =
      .error (.schemaViolation [(d.said document).1 ++ (d.said document).2]) := by
  obtain ⟨found, hfound⟩ := exists_inventory document
  rw [hfound.validate_eq, hfound.eq_singleton hd, if_neg (List.cons_ne_nil d []),
    List.map_singleton, Defect.message_breach]

/-- The messages about a document tell which of its values are not right and what is wrong with
them, and no more. By the shipped schema two documents have the same messages exactly if the same is
said of their defects one after the other; and if there is one defect in each, of the same value in
the same way, they have the same message wherever these values stand. -/
theorem messages_unplaced (schema document document' : Json) :
    (∀ messages, Audit.validate document schema = .error (.schemaViolation messages) →
      ∃ found : List Breach, found ≠ [] ∧ messages = found.map Breach.message ∧
        Concerns document found) ∧
    (∃ found found', Inventory document found ∧ Inventory document' found' ∧
      (Audit.validate document Schema.shippedDocument =
          Audit.validate document' Schema.shippedDocument ↔
        found.map (Defect.said document) = found'.map (Defect.said document'))) ∧
    ∀ d d', OnlyDefect document d → OnlyDefect document' d' → d.demand = d'.demand →
      document.at? d.path = document'.at? d'.path → ∃ message,
        Audit.validate document Schema.shippedDocument = .error (.schemaViolation [message]) ∧
        Audit.validate document' Schema.shippedDocument = .error (.schemaViolation [message]) := by
  obtain ⟨found, hfound⟩ := exists_inventory document
  obtain ⟨found', hfound'⟩ := exists_inventory document'
  refine ⟨fun messages h => Schema.exists_found_of_validate h, ?said, ?only⟩
  case said => exact ⟨found, found', hfound, hfound', hfound.validate_eq_iff hfound'⟩
  case only =>
    intro d d' hd hd' hdemand hvalue
    refine ⟨_, hd.validate_eq, ?_⟩
    rw [Defect.said_eq hdemand hvalue]
    exact hd'.validate_eq

section Samples

def sampleRelease (rcName : Json) : Json :=
  .obj [("rc_name", rcName),
    ("versions", .arr [.obj [("name", .str "base"), ("version", .str "4f2e1c")]])]

def sampleDocument (first second : Json) : Json :=
  .obj [("releases", .arr [sampleRelease first, sampleRelease second])]

def sampleName : Json := .str "rc--2024-05-04_09-30"

def sampleDefect (index : Nat) : Defect :=
  ⟨[.field "releases", .item index, .field "rc_name"], .text⟩

theorem onlyDefect_of_length (hlength : (indexBreaches document).length = 1) {d : Defect}
    (hd : IsDefect IndexRules document d) : OnlyDefect document d := by
  obtain ⟨found, hfound⟩ := exists_inventory document
  rw [hfound.breaches_eq, List.length_map] at hlength
  obtain ⟨e, he⟩ := List.length_eq_one_iff.mp hlength
  have hmem : ∀ c, IsDefect IndexRules document c ↔ c = e := by
    intro c
    rw [← hfound.mem_iff, he, List.mem_singleton]
  rw [(hmem d).mp hd]
  exact hmem

theorem rules_sampleDefect (index : Nat) :
    IndexRules (sampleDefect index).path (sampleDefect index).demand := by
  refine .part (List.mem_singleton_self _) (.item ?_)
  exact .part List.mem_cons_self ⟨rfl, List.mem_cons_self⟩

theorem onlyDefect_first : OnlyDefect (sampleDocument (.int 7) sampleName) (sampleDefect 0) := by
  refine onlyDefect_of_length (by decide +kernel) ⟨rules_sampleDefect 0, .int 7, rfl, rfl⟩

theorem onlyDefect_second : OnlyDefect (sampleDocument sampleName (.int 7)) (sampleDefect 1) := by
  refine onlyDefect_of_length (by decide +kernel) ⟨rules_sampleDefect 1, .int 7, rfl, rfl⟩

theorem messages_unplaced_sample :
    OnlyDefect (sampleDocument (.int 7) sampleName) (sampleDefect 0) ∧
    OnlyDefect (sampleDocument sampleName (.int 7)) (sampleDefect 1) ∧
    (∃ found : List Breach, found.length = 1 ∧
      Concerns (sampleDocument (.int 7) sampleName) found) ∧
    ∃ message,
      Audit.validate (sampleDocument (.int 7) sampleName) Schema.shippedDocument =
        .error (.schemaViolation [message]) ∧
      Audit.validate (sampleDocument sampleName (.int 7)) Schema.shippedDocument =
        .error (.schemaViolation [message]) := by
  obtain ⟨hconcerns, -, hsame⟩ := messages_unplaced Schema.shippedDocument
    (sampleDocument (.int 7) sampleName) (sampleDocument sampleName (.int 7))
  refine ⟨onlyDefect_first, onlyDefect_second, ?_, ?_⟩
  · obtain ⟨found, -, hmessages, habout⟩ := hconcerns _ onlyDefect_first.validate_eq
    refine ⟨found, ?_, habout⟩
    simpa using (congrArg List.length hmessages).symm
  · exact hsame (sampleDefect 0) (sampleDefect 1) onlyDefect_first onlyDefect_second rfl rfl

/-- Whatever reads the places of defects off their messages finds that of a single defect. -/
theorem OnlyDefect.of_reading {d : Defect} (hd : OnlyDefect document d)
    {place : String → List Json.Step} (hplace : ∀ document found, Inventory document found →
      ∀ d ∈ found, place (d.breach document).message = d.path) :
    place (d.breach document).message = d.path := by
  obtain ⟨found, hfound⟩ := exists_inventory document
  exact hplace _ _ hfound d ((hfound.mem_iff d).mpr ((hd d).mpr rfl))

/-- The number in the place of a name is found, but not whether it is the name of the first release
or of the second. So there is no way to read the places of defects off their messages. -/
theorem equal_messages_elsewhere :
    OnlyDefect (sampleDocument (.int 7) sampleName) (sampleDefect 0) ∧
    OnlyDefect (sampleDocument sampleName (.int 7)) (sampleDefect 1) ∧
    (sampleDefect 0).path ≠ (sampleDefect 1).path ∧
    Audit.validate (sampleDocument (.int 7) sampleName) Schema.shippedDocument =
      .error (.schemaViolation ["7 is not of type \"string\""]) ∧
    Audit.validate (sampleDocument sampleName (.int 7)) Schema.shippedDocument =
      .error (.schemaViolation ["7 is not of type \"string\""]) ∧
    ∀ place : String → List Json.Step, ¬ ∀ document found, Inventory document found →
      ∀ d ∈ found, place (d.breach document).message = d.path := by
  have hmessage :
      (Json.int 7).compact ++ Demand.text.complaint = "7 is not of type \"string\"" := by
    decide +kernel
  have hpaths : (sampleDefect 0).path ≠ (sampleDefect 1).path := by decide
  refine ⟨onlyDefect_first, onlyDefect_second, hpaths, ?_, ?_, ?_⟩
  · rw [← hmessage]
    exact onlyDefect_first.validate_eq
  · rw [← hmessage]
    exact onlyDefect_second.validate_eq
  · intro place hplace
    have hfirst := onlyDefect_first.of_reading hplace
    have hsecond := onlyDefect_second.of_reading hplace
    exact hpaths (hfirst.symm.trans hsecond)

end Samples

end Grammar
end ReleaseAudit
