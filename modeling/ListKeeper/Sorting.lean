namespace ListKeeper

/-- Puts `x` in front of the first entry that does not precede it. -/
def insertBy {α : Type} (precedes : α → α → Bool) (x : α) : List α → List α
  | [] => [x]
  | y :: rest => if precedes y x then y :: insertBy precedes x rest else x :: y :: rest

/-- Sorts by inserting the entries one by one, the last one first. -/
def sortBy {α : Type} (precedes : α → α → Bool) : List α → List α
  | [] => []
  | x :: rest => insertBy precedes x (sortBy precedes rest)

variable {α : Type} {precedes : α → α → Bool}

theorem insertBy_perm (x : α) (xs : List α) : (insertBy precedes x xs).Perm (x :: xs) := by
  induction xs with
  | nil => exact .refl _
  | cons y rest ih =>
    simp only [insertBy]
    split
    · exact (ih.cons y).trans (.swap x y rest)
    · exact .refl _

theorem sortBy_perm (xs : List α) : (sortBy precedes xs).Perm xs := by
  induction xs with
  | nil => exact .refl _
  | cons x rest ih => exact (insertBy_perm x _).trans (ih.cons x)

/-- What it takes to sort by an order: of two entries one at most precedes the other, and not to
precede is transitive. -/
structure IsWeakOrder (precedes : α → α → Bool) : Prop where
  asymm : ∀ {a b}, precedes a b = true → precedes b a = false
  trans : ∀ {a b c}, precedes b a = false → precedes c b = false → precedes c a = false

theorem pairwise_insertBy (order : IsWeakOrder precedes) (x : α) {xs : List α}
    (sorted : xs.Pairwise fun a b => precedes b a = false) :
    (insertBy precedes x xs).Pairwise fun a b => precedes b a = false := by
  induction xs with
  | nil => simp [insertBy]
  | cons y rest ih =>
    obtain ⟨above, ordered⟩ := List.pairwise_cons.1 sorted
    simp only [insertBy]
    split
    next before =>
      refine List.pairwise_cons.2 ⟨fun z member => ?_, ih ordered⟩
      rcases List.mem_cons.1 ((insertBy_perm x rest).mem_iff.1 member) with rfl | later
      · exact order.asymm before
      · exact above z later
    next after =>
      have first : precedes y x = false := by simpa using after
      refine List.pairwise_cons.2 ⟨fun z member => ?_, sorted⟩
      rcases List.mem_cons.1 member with rfl | later
      · exact first
      · exact order.trans first (above z later)

theorem pairwise_sortBy (order : IsWeakOrder precedes) (xs : List α) :
    (sortBy precedes xs).Pairwise fun a b => precedes b a = false := by
  induction xs with
  | nil => exact .nil
  | cons x rest ih => exact pairwise_insertBy order x ih

/-- An entry that is put in passes none of those that it is level with. -/
theorem filter_insertBy {level : α → Bool} (x : α) (xs : List α)
    (same : level x = true → ∀ y, level y = true → precedes y x = false) :
    (insertBy precedes x xs).filter level = (x :: xs).filter level := by
  induction xs with
  | nil => rfl
  | cons y rest ih =>
    simp only [insertBy]
    split
    next before =>
      have apart (here : level x = true) : level y = false :=
        Bool.eq_false_iff.mpr fun there => Bool.false_ne_true ((same here y there).symm.trans before)
      rw [List.filter_cons, ih]
      by_cases here : level x = true
      · simp [here, apart here]
      · simp [List.filter_cons, here]
    next => rfl

theorem filter_sortBy {level : α → Bool}
    (same : ∀ x y, level x = true → level y = true → precedes y x = false) (xs : List α) :
    (sortBy precedes xs).filter level = xs.filter level := by
  induction xs with
  | nil => rfl
  | cons x rest ih =>
    rw [sortBy, filter_insertBy x _ fun here y there => same x y here there, List.filter_cons, ih,
      List.filter_cons]

end ListKeeper
