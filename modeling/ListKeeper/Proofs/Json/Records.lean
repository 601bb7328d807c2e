import ListKeeper.Proofs.Json.Reading

namespace ListKeeper.Json

variable {α ρ : Type}

/-- A field that nobody knows. -/
def Stray (shape : Shape ρ α) (field : String × List Char) : Prop :=
  (shape.fields.find? fun known => known.name == field.1) = none ∧ IsValue field.2

theorem strays_of_not_mem {shape : Shape ρ α} {extra : List (String × List Char)}
    (unknown : ∀ field ∈ extra, field.1 ∉ shape.fields.map Field.name ∧ IsValue field.2) :
    ∀ field ∈ extra, Stray shape field := by
  intro field member
  obtain ⟨unknown, value⟩ := unknown field member
  refine ⟨List.find?_eq_none.mpr fun known member same => unknown ?_, value⟩
  exact List.mem_map.mpr ⟨known, member, beq_iff_eq.mp same⟩

/-- What becomes of a draft by the fields of a record, which are given by their names and texts:
`draft names` has the fields of these names. -/
structure Drafts (shape : Shape ρ α) (parts : List (String × List Char))
    (draft : List String → ρ) : Prop where
  blank : shape.blank = draft []
  distinct : (parts.map Prod.fst).Nodup
  sets : ∀ part ∈ parts, ∃ field change,
    (shape.fields.find? fun known => known.name == part.1) = some field ∧
      Gives field.read part.2 (.ok change) ∧
        ∀ seen, part.1 ∉ seen →
          field.isSet (draft seen) = false ∧ change (draft seen) = draft (part.1 :: seen)

section

variable {shape : Shape ρ α} {parts fields extra : List (String × List Char)}
  {draft : List String → ρ}

theorem Drafts.sublist (drafts : Drafts shape parts draft) {fewer : List (String × List Char)}
    (less : fewer.Sublist parts) : Drafts shape fewer draft where
  blank := drafts.blank
  distinct := drafts.distinct.sublist (less.map _)
  sets part member := drafts.sets part (less.subset member)

/-- Fields in any order set their names, one after the other. -/
theorem Drafts.fills (drafts : Drafts shape parts draft)
    (each : ∀ field ∈ fields, field ∈ parts ∨ Stray shape field)
    (apart : fields.Pairwise fun one other => one ∈ parts → other ∈ parts → one.1 ≠ other.1)
    {seen : List String} (fresh : ∀ field ∈ fields, field ∈ parts → field.1 ∉ seen) :
    ∃ final, (∀ name, name ∈ final ↔
        name ∈ seen ∨ ∃ field ∈ fields, field ∈ parts ∧ field.1 = name) ∧
      ∀ rest outcome, Fills shape.fields (draft final) rest outcome →
        Fills shape.fields (draft seen) (fields ++ rest) outcome := by
  induction fields generalizing seen with
  | nil => exact ⟨seen, fun name => by simp, fun _ _ later => later⟩
  | cons field fields ih =>
    rw [List.pairwise_cons] at apart
    have others : ∀ field ∈ fields, field ∈ parts ∨ Stray shape field :=
      fun field member => each field (List.mem_cons_of_mem _ member)
    by_cases known : field ∈ parts
    · obtain ⟨found, change, named, gives, sets⟩ := drafts.sets field known
      obtain ⟨unset, changed⟩ := sets seen (fresh field (List.mem_cons_self ..) known)
      have news : ∀ other ∈ fields, other ∈ parts → other.1 ∉ field.1 :: seen := by
        intro other member part
        rw [List.mem_cons, not_or]
        exact ⟨(apart.1 other member known part).symm,
          fresh other (List.mem_cons_of_mem _ member) part⟩
      obtain ⟨final, names, later⟩ := ih others apart.2 news
      refine ⟨final, fun name => ?_, fun rest outcome fills =>
        .field named unset gives (changed ▸ later rest outcome fills)⟩
      rw [names]
      simp only [List.mem_cons, exists_eq_or_imp, known, true_and]
      tauto
    · obtain ⟨unknown, value⟩ := (each field (List.mem_cons_self ..)).resolve_left known
      obtain ⟨final, names, later⟩ := ih others apart.2
        fun other member => fresh other (List.mem_cons_of_mem _ member)
      refine ⟨final, fun name => ?_, fun rest outcome fills =>
        .unknown unknown value (later rest outcome fills)⟩
      rw [names]
      simp only [List.mem_cons, exists_eq_or_imp, known, false_and, false_or]

theorem Drafts.not_stray (drafts : Drafts shape parts draft) {field : String × List Char}
    (member : field ∈ parts) : ¬Stray shape field := by
  obtain ⟨_, _, named, _, _⟩ := drafts.sets field member
  rintro ⟨unknown, _⟩
  cases unknown.symm.trans named

/-- No two fields of a record have the same name. -/
theorem Drafts.pairwise (drafts : Drafts shape parts draft)
    (strays : ∀ field ∈ extra, Stray shape field) :
    (parts ++ extra).Pairwise fun one other => one ∈ parts → other ∈ parts → one.1 ≠ other.1 := by
  have apart : parts.Pairwise fun one other => one.1 ≠ other.1 :=
    List.pairwise_map.mp drafts.distinct
  refine List.pairwise_append.mpr ⟨apart.imp fun ne _ _ => ne, ?_, ?_⟩
  · exact List.pairwise_of_forall_mem_list fun field member _ _ part =>
      absurd (strays field member) (drafts.not_stray part)
  · exact fun _ _ other member _ part => absurd (strays other member) (drafts.not_stray part)

theorem Drafts.fills_of_perm (drafts : Drafts shape parts draft)
    (perm : fields.Perm (parts ++ extra)) (strays : ∀ field ∈ extra, Stray shape field)
    {front back : List (String × List Char)} (split : fields = front ++ back) :
    ∃ final, (∀ name, name ∈ final ↔ ∃ field ∈ front, field ∈ parts ∧ field.1 = name) ∧
      ∀ rest outcome, Fills shape.fields (draft final) rest outcome →
        Fills shape.fields shape.blank (front ++ rest) outcome := by
  have apart := (perm.pairwise_iff fun ne part other => (ne other part).symm).mpr
    (drafts.pairwise strays)
  rw [split, List.pairwise_append] at apart
  have each : ∀ field ∈ front, field ∈ parts ∨ Stray shape field := by
    intro field member
    have among := perm.subset (split ▸ List.mem_append_left back member)
    exact (List.mem_append.mp among).imp_right (strays field)
  have fresh : ∀ field ∈ front, field ∈ parts → field.1 ∉ ([] : List String) :=
    fun _ _ _ => List.not_mem_nil
  obtain ⟨final, names, later⟩ := drafts.fills each apart.1 fresh
  refine ⟨final, fun name => ?_, drafts.blank ▸ later⟩
  rw [names]
  simp

/-- The fields of a record and others, in any order, make a record of the fields of their names. -/
theorem Drafts.gives (drafts : Drafts shape parts draft) (perm : fields.Perm (parts ++ extra))
    (strays : ∀ field ∈ extra, Stray shape field) :
    ∃ final, (∀ name, name ∈ final ↔ name ∈ parts.map Prod.fst) ∧
      Gives (wantedRecord shape) (objectText fields) (shape.finished (draft final)) := by
  obtain ⟨final, names, later⟩ :=
    drafts.fills_of_perm perm strays (List.append_nil fields).symm
  have fills := later [] _ (.none _)
  rw [List.append_nil] at fills
  refine ⟨final, fun name => ?_, gives_record fills⟩
  rw [names, List.mem_map]
  refine exists_congr fun field => ?_
  have among (part : field ∈ parts) : field ∈ fields :=
    perm.mem_iff.mpr (List.mem_append_left extra part)
  tauto

/-- A field that cannot be read is a fault of the record, wherever it stands among the others. -/
theorem Drafts.gives_fault (drafts : Drafts shape parts draft) {bad : String × List Char}
    {known : Field ρ} {fault : ReadFault}
    (named : (shape.fields.find? fun field => field.name == bad.1) = some known)
    (unset : ∀ seen, bad.1 ∉ seen → known.isSet (draft seen) = false)
    (faulty : Gives known.read bad.2 (.error fault)) (fresh : bad.1 ∉ parts.map Prod.fst)
    (perm : fields.Perm (bad :: (parts ++ extra))) (strays : ∀ field ∈ extra, Stray shape field) :
    Gives (wantedRecord shape) (objectText fields) (.error fault) := by
  obtain ⟨front, back, rfl⟩ := List.append_of_mem (perm.mem_iff.mpr (List.mem_cons_self ..))
  have others : (front ++ back).Perm (parts ++ extra) := (List.perm_middle.symm.trans perm).cons_inv
  obtain ⟨final, names, later⟩ := drafts.fills_of_perm others strays rfl
  have absent : bad.1 ∉ final := by
    rw [names]
    rintro ⟨field, _, part, same⟩
    exact fresh (same ▸ List.mem_map_of_mem part)
  exact gives_record (later _ _ (.fault named (unset final absent) faulty))

end

end ListKeeper.Json
