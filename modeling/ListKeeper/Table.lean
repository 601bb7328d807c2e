namespace ListKeeper

/-- A finite map from keys to values, kept as its entries in ascending order of their keys. -/
structure Table (κ ν : Type) [Ord κ] where
  entries : List (κ × ν)
  ascending : entries.Pairwise fun a b => compare a.1 b.1 = .lt

namespace Table

variable {κ ν : Type} [Ord κ]

def empty : Table κ ν :=
  ⟨[], .nil⟩

instance : Inhabited (Table κ ν) := ⟨empty⟩

def get? (table : Table κ ν) (key : κ) : Option ν :=
  (table.entries.find? fun entry => compare entry.1 key == .eq).map Prod.snd

def keys (table : Table κ ν) : List κ :=
  table.entries.map Prod.fst

def values (table : Table κ ν) : List ν :=
  table.entries.map Prod.snd

def size (table : Table κ ν) : Nat :=
  table.entries.length

/-- The entries with `value` at `key`, in place of what was there. -/
def put (key : κ) (value : ν) : List (κ × ν) → List (κ × ν)
  | [] => [(key, value)]
  | entry :: rest =>
    match compare key entry.1 with
    | .lt => (key, value) :: entry :: rest
    | .eq => (key, value) :: rest
    | .gt => entry :: put key value rest

theorem eq_or_mem_of_mem_put {key : κ} {value : ν} {entry : κ × ν} {entries : List (κ × ν)}
    (member : entry ∈ put key value entries) : entry = (key, value) ∨ entry ∈ entries := by
  induction entries with
  | nil => simpa [put] using member
  | cons head rest ih =>
    simp only [put] at member
    split at member <;> grind

theorem ascending_put [Std.TransOrd κ] [Std.LawfulEqOrd κ] (key : κ) (value : ν)
    {entries : List (κ × ν)} (ascending : entries.Pairwise fun a b => compare a.1 b.1 = .lt) :
    (put key value entries).Pairwise fun a b => compare a.1 b.1 = .lt := by
  induction entries with
  | nil => simp [put]
  | cons head rest ih =>
    obtain ⟨below, ordered⟩ := List.pairwise_cons.1 ascending
    simp only [put]
    split
    next before =>
      refine List.pairwise_cons.2 ⟨fun entry member => ?_, ascending⟩
      rcases List.mem_cons.1 member with rfl | later
      · exact before
      · exact Std.TransCmp.lt_trans before (below entry later)
    next same =>
      have equal : key = head.1 := Std.LawfulEqCmp.eq_of_compare same
      exact List.pairwise_cons.2 ⟨fun entry member => equal ▸ below entry member, ordered⟩
    next after =>
      refine List.pairwise_cons.2 ⟨fun entry member => ?_, ih ordered⟩
      rcases eq_or_mem_of_mem_put member with rfl | later
      · exact Std.OrientedCmp.lt_of_gt after
      · exact below entry later

/-- Stores `value` at `key`, replacing what was there. -/
def insert [Std.TransOrd κ] [Std.LawfulEqOrd κ] (table : Table κ ν) (key : κ) (value : ν) :
    Table κ ν :=
  ⟨put key value table.entries, ascending_put key value table.ascending⟩

def erase (table : Table κ ν) (key : κ) : Table κ ν :=
  ⟨table.entries.filter fun entry => compare entry.1 key != .eq, table.ascending.filter _⟩

/-- Changes every value, knowing its key. -/
def mapEntries (table : Table κ ν) (change : κ → ν → ν) : Table κ ν :=
  ⟨table.entries.map fun entry => (entry.1, change entry.1 entry.2),
    List.pairwise_map.2 table.ascending⟩

/-- Changes the value at `key`, if there is one. -/
def modify (table : Table κ ν) (key : κ) (change : ν → ν) : Table κ ν :=
  table.mapEntries fun k value => if compare k key == .eq then change value else value

section

variable [Std.LawfulEqOrd κ] [DecidableEq κ]

theorem compare_beq_eq (a b : κ) :
    (compare a b == .eq) = decide (a = b) := by
  by_cases same : a = b
  · subst same
    simp
  · have different : compare a b ≠ .eq := fun equal => same (Std.LawfulEqCmp.eq_of_compare equal)
    simp [same, different]

theorem find?_put (key : κ) (value : ν) (entries : List (κ × ν)) (k : κ) :
    (put key value entries).find? (fun entry => decide (entry.1 = k)) =
      if k = key then some (key, value) else entries.find? fun entry => decide (entry.1 = k) := by
  induction entries with
  | nil => by_cases here : k = key <;> simp [put, here, Ne.symm]
  | cons head rest ih =>
    simp only [put]
    split
    next =>
      by_cases here : k = key
      · simp [here]
      · simp [Ne.symm here, here]
    next equal =>
      have same : key = head.1 := Std.LawfulEqCmp.eq_of_compare equal
      by_cases here : k = key
      · simp [here]
      · simp [← same, Ne.symm here, here]
    next after =>
      have different : head.1 ≠ key := by
        rintro rfl
        simp at after
      rw [List.find?_cons, List.find?_cons, ih]
      by_cases here : k = key
      · simp [here, different]
      · simp [here]

theorem get?_mapEntries (table : Table κ ν) (change : κ → ν → ν) (k : κ) :
    (table.mapEntries change).get? k = (table.get? k).map (change k) := by
  simp only [get?, mapEntries, compare_beq_eq]
  induction table.entries with
  | nil => rfl
  | cons head rest ih =>
    rw [List.map_cons, List.find?_cons, List.find?_cons]
    by_cases here : head.1 = k
    · subst here
      simp
    · simpa [here] using ih

theorem get?_modify (table : Table κ ν) (key : κ) (change : ν → ν) (k : κ) :
    (table.modify key change).get? k =
      if k = key then (table.get? k).map change else table.get? k := by
  rw [modify, get?_mapEntries]
  by_cases here : k = key <;> simp [here, compare_beq_eq]

theorem get?_erase (table : Table κ ν) (key k : κ) :
    (table.erase key).get? k = if k = key then none else table.get? k := by
  simp only [get?, erase, compare_beq_eq, bne]
  induction table.entries with
  | nil => simp
  | cons head rest ih =>
    by_cases gone : head.1 = key
    · simp only [List.filter_cons, gone, decide_true, Bool.not_true, Bool.false_eq_true, if_false,
        ih, List.find?_cons]
      by_cases here : k = key
      · simp [here]
      · simp [here, Ne.symm here]
    · simp only [List.filter_cons, gone, decide_false, Bool.not_false, if_true, List.find?_cons]
      by_cases here : head.1 = k
      · simp [here, here ▸ gone]
      · simpa [here] using ih

end

theorem get?_insert [Std.TransOrd κ] [Std.LawfulEqOrd κ] [DecidableEq κ] (table : Table κ ν)
    (key : κ) (value : ν) (k : κ) :
    (table.insert key value).get? k = if k = key then some value else table.get? k := by
  simp only [get?, insert, compare_beq_eq, find?_put]
  split <;> rfl

theorem ne_of_above [Std.ReflOrd κ] {head entry : κ × ν} {rest : List (κ × ν)}
    (above : ∀ entry ∈ rest, compare head.1 entry.1 = .lt) (member : entry ∈ rest) :
    entry.1 ≠ head.1 := by
  intro same
  have order := above entry member
  rw [same, Std.ReflOrd.compare_self] at order
  cases order

theorem get?_eq_some [Std.LawfulEqOrd κ] [DecidableEq κ] {table : Table κ ν} {key : κ} {value : ν} :
    table.get? key = some value ↔ (key, value) ∈ table.entries := by
  obtain ⟨entries, ascending⟩ := table
  simp only [get?, compare_beq_eq]
  induction entries with
  | nil => simp
  | cons head rest ih =>
    obtain ⟨above, ordered⟩ := List.pairwise_cons.mp ascending
    rw [List.find?_cons, List.mem_cons]
    by_cases here : head.1 = key
    · have later : (key, value) ∉ rest := fun member => ne_of_above above member here.symm
      simp [here, later, Prod.ext_iff, eq_comm]
    · simp [here, ih ordered, Prod.ext_iff, Ne.symm here]

@[simp] theorem size_mapEntries (table : Table κ ν) (change : κ → ν → ν) :
    (table.mapEntries change).size = table.size :=
  List.length_map ..

@[simp] theorem size_modify (table : Table κ ν) (key : κ) (change : ν → ν) :
    (table.modify key change).size = table.size :=
  table.size_mapEntries _

theorem length_put [Std.LawfulEqOrd κ] {key : κ} (value : ν) {entries : List (κ × ν)}
    (absent : ∀ entry ∈ entries, entry.1 ≠ key) :
    (put key value entries).length = entries.length + 1 := by
  induction entries with
  | nil => rfl
  | cons head rest ih =>
    simp only [put]
    split
    next => rfl
    next same =>
      have equal : key = head.1 := Std.LawfulEqCmp.eq_of_compare same
      exact absurd equal.symm (absent head (List.mem_cons_self ..))
    next =>
      have later := ih fun entry member => absent entry (List.mem_cons_of_mem _ member)
      rw [List.length_cons, later, List.length_cons]

theorem size_insert [Std.TransOrd κ] [Std.LawfulEqOrd κ] [DecidableEq κ] {table : Table κ ν}
    {key : κ} (absent : table.get? key = none) (value : ν) :
    (table.insert key value).size = table.size + 1 := by
  refine length_put value fun entry member same => ?_
  rw [get?, Option.map_eq_none_iff, List.find?_eq_none] at absent
  exact absent entry member (by simp [same])

theorem size_erase [Std.LawfulEqOrd κ] [DecidableEq κ] {table : Table κ ν} {key : κ}
    (present : (table.get? key).isSome) : (table.erase key).size + 1 = table.size := by
  obtain ⟨entries, ascending⟩ := table
  simp only [size, erase, get?, Option.isSome_map, compare_beq_eq, bne] at present ⊢
  induction entries with
  | nil => cases present
  | cons head rest ih =>
    obtain ⟨above, ordered⟩ := List.pairwise_cons.mp ascending
    by_cases here : head.1 = key
    · have others : rest.filter (fun entry => !decide (entry.1 = key)) = rest := by
        refine List.filter_eq_self.mpr fun entry member => ?_
        simp [here ▸ ne_of_above above member]
      simp [here, others]
    · have later := ih ordered (by simpa [here] using present)
      simpa [here] using later

end Table

end ListKeeper
