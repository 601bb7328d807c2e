import ListKeeper.Proofs.Pipeline.Handling
import ListKeeper.Proofs.Request.Announced

namespace ListKeeper

theorem toDigits_injective {n m : Nat} (same : Nat.toDigits 10 n = Nat.toDigits 10 m) : n = m := by
  rw [← Nat.ofDigitChars_toDigits (b := 10) (n := n) (by decide) (by decide), same,
    Nat.ofDigitChars_toDigits (by decide) (by decide)]

theorem Decimal.ofInt_injective {n m : Int} (same : Decimal.ofInt n = Decimal.ofInt m) : n = m := by
  have sign {n m : Nat} (same : Nat.toDigits 10 n = '-' :: Nat.toDigits 10 m) : False := by
    have digit := Nat.isDigit_of_mem_toDigits (b := 10) (n := n) (c := '-') (by decide) (by decide)
      (same ▸ List.mem_cons_self ..)
    revert digit
    decide
  cases n with
  | ofNat n =>
    cases m with
    | ofNat m => rw [toDigits_injective (String.ofList_injective same)]
    | negSucc m => exact (sign (String.ofList_injective same)).elim
  | negSucc n =>
    cases m with
    | ofNat m => exact (sign (String.ofList_injective same).symm).elim
    | negSucc m =>
      have digits := (List.cons.inj (String.ofList_injective same)).2
      rw [Nat.succ.inj (toDigits_injective digits)]

theorem Document.keyOf_injective {k k' : ListId} (same : Document.keyOf k = Document.keyOf k') :
    k = k' := by
  cases k; cases k'
  exact congrArg ListId.mk (Int32.toInt_inj.mp (Decimal.ofInt_injective same))

namespace Index

theorem document?_save_singleton (index : Index) (document : Document) (key : String) :
    (index.save [document]).document? key =
      if key = document.objectId then some document else index.document? key :=
  Table.get?_insert ..

theorem document?_delete (index : Index) (objectId key : String) :
    (index.delete objectId).document? key =
      if key = objectId then none else index.document? key :=
  Table.get?_erase ..

/-- After documents have been saved, each document is the one that was saved, or was there. -/
theorem document?_save (index : Index) (documents : List Document) (key : String) :
    (∃ document ∈ documents, document.objectId = key ∧
      (index.save documents).document? key = some document) ∨
      (∀ document ∈ documents, document.objectId ≠ key) ∧
        (index.save documents).document? key = index.document? key := by
  induction documents generalizing index with
  | nil => exact Or.inr ⟨fun _ member => absurd member List.not_mem_nil, rfl⟩
  | cons first rest ih =>
    have split : index.save (first :: rest) = (index.save [first]).save rest := rfl
    have saved := document?_save_singleton index first key
    rw [split]
    rcases ih (index.save [first]) with ⟨document, member, named, found⟩ | ⟨absent, kept⟩
    · exact Or.inl ⟨document, List.mem_cons_of_mem _ member, named, found⟩
    rw [kept, saved]
    by_cases here : key = first.objectId
    · exact Or.inl ⟨first, List.mem_cons_self, here.symm, if_pos here⟩
    · refine Or.inr ⟨fun document member => ?_, if_neg here⟩
      rcases List.mem_cons.mp member with rfl | member
      · exact Ne.symm here
      · exact absent document member

theorem document?_save_of_mem (index : Index) {documents : List Document} {document : Document}
    (member : document ∈ documents)
    (alone : ∀ other ∈ documents, other.objectId = document.objectId → other = document) :
    (index.save documents).document? document.objectId = some document := by
  rcases index.document?_save documents document.objectId with
    ⟨other, member', named, found⟩ | ⟨absent, _⟩
  · rw [found, alone other member' named]
  · exact absurd rfl (absent document member)

theorem document?_save_of_absent (index : Index) {documents : List Document} {key : String}
    (absent : ∀ document ∈ documents, document.objectId ≠ key) :
    (index.save documents).document? key = index.document? key := by
  rcases index.document?_save documents key with ⟨document, member, named, _⟩ | ⟨_, kept⟩
  · exact absurd named (absent document member)
  · exact kept

end Index

theorem Handler.mem_documentsOf {store : Store} {ids : List ListId} {document : Document} :
    document ∈ documentsOf store ids ↔
      ∃ k ∈ ids, ∃ list, store.lists.get? k = some list ∧ document = Document.ofList list := by
  simp [documentsOf, eq_comm]

/-- A document of one of the lists, if that is stored. -/
theorem Handler.objectId_of_mem {store : Store} (keyed : store.Keyed) {ids : List ListId}
    {document : Document} (member : document ∈ documentsOf store ids) :
    ∃ k ∈ ids, ∃ list, store.lists.get? k = some list ∧ document = Document.ofList list ∧
      document.objectId = Document.keyOf k := by
  obtain ⟨k, listed, list, there, rfl⟩ := mem_documentsOf.mp member
  exact ⟨k, listed, list, there, rfl, congrArg Document.keyOf (keyed k list there)⟩

namespace Index

variable {store : Store} {ids : List ListId} {k : ListId}

theorem document?_of_mem (keyed : store.Keyed) (index : Index) {list : ItemList} (listed : k ∈ ids)
    (there : store.lists.get? k = some list) :
    (index.save (Handler.documentsOf store ids)).document? (Document.keyOf k) =
      some (Document.ofList list) := by
  have named : (Document.ofList list).objectId = Document.keyOf k :=
    congrArg Document.keyOf (keyed k list there)
  rw [← named]
  refine index.document?_save_of_mem (Handler.mem_documentsOf.mpr ⟨k, listed, list, there, rfl⟩)
    fun other member same => ?_
  obtain ⟨k', _, list', there', rfl, named'⟩ := Handler.objectId_of_mem keyed member
  obtain rfl := Document.keyOf_injective (named.symm.trans (same.symm.trans named'))
  rw [Option.some.inj (there.symm.trans there')]

theorem document?_of_not_mem (keyed : store.Keyed) (index : Index) (absent : k ∉ ids) :
    (index.save (Handler.documentsOf store ids)).document? (Document.keyOf k) =
      index.document? (Document.keyOf k) := by
  refine index.document?_save_of_absent fun document member named => ?_
  obtain ⟨k', listed, _, _, _, named'⟩ := Handler.objectId_of_mem keyed member
  obtain rfl := Document.keyOf_injective (named.symm.trans named')
  exact absent listed

end Index

/-- The workers that get the events on a topic. -/
def Pipeline.audience : Topic → List ChannelId
  | .listCreated => [1]
  | .listUpdated => [0, 1]
  | .listDeleted => [2]
  | .indexAllListsRequested => [3]

/-- The index follows the store, given the lists whose documents are still to be stored and those
whose documents are still to be removed: every other document is current. -/
structure Mirrors (store : Store) (index : Index) (saves removes : ListId → Prop) : Prop where
  indexed : ∀ k list, store.lists.get? k = some list →
    index.document? (Document.keyOf k) = some (Document.ofList list) ∨ saves k
  gone : ∀ key document, index.document? key = some document →
    ∃ k, key = Document.keyOf k ∧ ((store.lists.get? k).isSome ∨ removes k)
  /-- No document is removed of a list that is stored or can still be created. -/
  deleted : ∀ k, removes k → store.lists.get? k = none ∧ UsedUp k.number store.nextList

/-- A document that can be stored: it is current, or will be stored again or removed. -/
def Document.Fresh (document : Document) (store : Store) (saves removes : ListId → Prop) : Prop :=
  ∃ k, document.objectId = keyOf k ∧ ((store.lists.get? k).isSome ∨ removes k) ∧
    ∀ list, store.lists.get? k = some list → document = ofList list ∨ saves k

/-- What events tell of is still to be acted on. -/
structure Pipeline.Told (events : List Envelope) (saves removes saves' removes' : ListId → Prop) :
    Prop where
  stillSaves : ∀ k, saves k → saves' k
  stillRemoves : ∀ k, removes k → removes' k
  toSave : ∀ topic k, ⟨topic, .list k⟩ ∈ events → 1 ∈ audience topic → saves' k
  toRemove : ∀ k, ⟨.listDeleted, .list k⟩ ∈ events → removes' k
  onlyRemoved : ∀ k, removes' k → removes k ∨ ⟨.listDeleted, .list k⟩ ∈ events

section

variable {store after : Store} {index : Index} {saves removes saves' removes' : ListId → Prop}
  {events : List Envelope}

theorem Pipeline.Told.orSaves (told : Told events saves removes saves' removes')
    (others : ListId → Prop) :
    Told events (fun k => saves k ∨ others k) removes (fun k => saves' k ∨ others k) removes' where
  stillSaves k := Or.imp_left (told.stillSaves k)
  stillRemoves := told.stillRemoves
  toSave topic k member hears := Or.inl (told.toSave topic k member hears)
  toRemove := told.toRemove
  onlyRemoved := told.onlyRemoved

theorem Pipeline.Told.orRemoves (told : Told events saves removes saves' removes')
    (others : ListId → Prop) :
    Told events saves (fun k => removes k ∨ others k) saves' (fun k => removes' k ∨ others k) where
  stillSaves := told.stillSaves
  stillRemoves k := Or.imp_left (told.stillRemoves k)
  toSave := told.toSave
  toRemove k member := Or.inl (told.toRemove k member)
  onlyRemoved k leaves := by
    rcases leaves with leaves | other
    · exact (told.onlyRemoved k leaves).imp_left Or.inl
    · exact Or.inl (Or.inr other)

theorem Document.Fresh.change {document : Document} (fresh : document.Fresh store saves removes)
    (announced : store.Announced after events)
    (told : Pipeline.Told events saves removes saves' removes') :
    document.Fresh after saves' removes' := by
  obtain ⟨k, named, there, current⟩ := fresh
  refine ⟨k, named, ?_, fun list stored => ?_⟩
  · rcases there with stored | leaves
    · exact (announced.gone k stored).imp_right (told.toRemove k)
    · exact Or.inr (told.stillRemoves k leaves)
  · rcases announced.stored k list stored with before | updated | ⟨created, _⟩
    · exact (current list before).imp_right (told.stillSaves k)
    · exact Or.inr (told.toSave _ k updated (by decide))
    · exact Or.inr (told.toSave _ k created (by decide))

/-- A list whose document is to be removed is gone for good. -/
theorem Store.Announced.spared (announced : store.Announced after events)
    (numbered : store.Numbered) (unwrapped : store.Unwrapped after) {k : ListId} {leaving : Prop}
    (spared : leaving → store.lists.get? k = none ∧ UsedUp k.number store.nextList)
    (leaves : leaving ∨ ⟨.listDeleted, .list k⟩ ∈ events) :
    after.lists.get? k = none ∧ UsedUp k.number after.nextList := by
  rcases leaves with before | deleted
  · obtain ⟨absent, used⟩ := spared before
    refine ⟨?_, used.mono unwrapped.1⟩
    by_contra present
    rcases announced.fresh k (Option.isSome_iff_ne_none.mpr present) with stored | unused
    · rw [absent] at stored
      cases stored
    · exact unused used
  · obtain ⟨stored, absent⟩ := announced.deleted k deleted
    obtain ⟨list, there⟩ := Option.isSome_iff_exists.mp stored
    exact ⟨absent, (numbered.listNumbers k list there).mono unwrapped.1⟩

theorem Mirrors.change (mirrors : Mirrors store index saves removes)
    (numbered : store.Numbered) (unwrapped : store.Unwrapped after)
    (announced : store.Announced after events)
    (told : Pipeline.Told events saves removes saves' removes') :
    Mirrors after index saves' removes' := by
  refine ⟨fun k list stored => ?_, fun key document found => ?_, fun k leaves =>
    announced.spared numbered unwrapped (mirrors.deleted k) (told.onlyRemoved k leaves)⟩
  · rcases announced.stored k list stored with before | updated | ⟨created, _⟩
    · exact (mirrors.indexed k list before).imp_right (told.stillSaves k)
    · exact Or.inr (told.toSave _ k updated (by decide))
    · exact Or.inr (told.toSave _ k created (by decide))
  · obtain ⟨k, rfl, stored | leaves⟩ := mirrors.gone key document found
    · exact ⟨k, rfl, (announced.gone k stored).imp_right (told.toRemove k)⟩
    · exact ⟨k, rfl, Or.inr (told.stillRemoves k leaves)⟩

/-- What is still to be done may be forgotten for lists that are not stored. -/
theorem Mirrors.mono (mirrors : Mirrors store index saves removes)
    (saved : ∀ k, saves k → saves' k ∨ store.lists.get? k = none)
    (removed : ∀ k, removes k ↔ removes' k) : Mirrors store index saves' removes' := by
  refine ⟨fun k list stored => ?_, fun key document found => ?_, fun k leaves => ?_⟩
  · refine (mirrors.indexed k list stored).imp_right fun due => (saved k due).resolve_right ?_
    rw [stored]
    nofun
  · obtain ⟨k, same, there⟩ := mirrors.gone key document found
    exact ⟨k, same, there.imp_right (removed k).mp⟩
  · exact mirrors.deleted k ((removed k).mpr leaves)

theorem Document.Fresh.mono {document : Document} (fresh : document.Fresh store saves removes)
    (saved : ∀ k, document.objectId = keyOf k → saves k → saves' k ∨ store.lists.get? k = none)
    (removed : ∀ k, document.objectId = keyOf k → removes k → removes' k) :
    document.Fresh store saves' removes' := by
  obtain ⟨k, named, there, current⟩ := fresh
  refine ⟨k, named, there.imp_right (removed k named), fun list stored => ?_⟩
  refine (current list stored).imp_right fun due => (saved k named due).resolve_right ?_
  rw [stored]
  nofun

theorem Document.fresh_ofList (keyed : store.Keyed) {k : ListId} {list : ItemList}
    (stored : store.lists.get? k = some list) : (ofList list).Fresh store saves removes := by
  refine ⟨k, congrArg keyOf (keyed k list stored), ?_, fun other there => ?_⟩
  · exact Or.inl (Option.isSome_iff_exists.mpr ⟨list, stored⟩)
  · exact Or.inl (congrArg ofList (Option.some.inj (stored.symm.trans there)))

/-- Documents are stored, and some lists are done with. -/
theorem Mirrors.save (mirrors : Mirrors store index saves removes) {documents : List Document}
    (fresh : ∀ document ∈ documents, document.Fresh store saves' removes)
    (covered : ∀ k, saves k →
      (∃ document ∈ documents, document.objectId = Document.keyOf k) ∨ saves' k ∨
        store.lists.get? k = none) :
    Mirrors store (index.save documents) saves' removes := by
  refine ⟨fun k list stored => ?_, fun key document found => ?_, mirrors.deleted⟩
  · rcases index.document?_save documents (Document.keyOf k) with
      ⟨document, member, named, found⟩ | ⟨absent, kept⟩
    · obtain ⟨k', named', _, current⟩ := fresh document member
      obtain rfl := Document.keyOf_injective (named.symm.trans named')
      rw [found]
      exact (current list stored).imp_left (congrArg some)
    · rw [kept]
      refine (mirrors.indexed k list stored).imp_right fun due => ?_
      rcases covered k due with ⟨document, member, named⟩ | later | gone
      · exact absurd named (absent document member)
      · exact later
      · rw [gone] at stored
        cases stored
  · rcases index.document?_save documents key with ⟨saved, member, rfl, _⟩ | ⟨_, kept⟩
    · obtain ⟨k, named, there, _⟩ := fresh saved member
      exact ⟨k, named, there⟩
    · rw [kept] at found
      exact mirrors.gone key document found

/-- The document of a list is removed that is gone for good. -/
theorem Mirrors.remove (mirrors : Mirrors store index saves removes) {list : ListId}
    (leaves : removes list) (kept : ∀ k, removes k → removes' k ∨ k = list)
    (fewer : ∀ k, removes' k → removes k) :
    Mirrors store (index.delete (Document.keyOf list)) saves removes' := by
  have absent := (mirrors.deleted list leaves).1
  refine ⟨fun k found stored => ?_, fun key document found => ?_,
    fun k leaves => mirrors.deleted k (fewer k leaves)⟩
  · have different : Document.keyOf k ≠ Document.keyOf list := by
      intro same
      rw [Document.keyOf_injective same, absent] at stored
      cases stored
    rw [Index.document?_delete, if_neg different]
    exact mirrors.indexed k found stored
  · rw [Index.document?_delete] at found
    split at found
    · cases found
    next different =>
      obtain ⟨k, rfl, stored | leaves⟩ := mirrors.gone key document found
      · exact ⟨k, rfl, Or.inl stored⟩
      · refine ⟨k, rfl, Or.inr ((kept k leaves).resolve_right fun same => different ?_)⟩
        rw [same]

section

variable {now : Timestamp} {list : ListId} {count : Int32}

/-- A list as it was before its items were counted has the same document. -/
theorem Store.get?_of_setItemCount {k : ListId} {found : ItemList}
    (stored : (store.perform now (.setItemCount list count)).2.lists.get? k = some found) :
    ∃ before, store.lists.get? k = some before ∧ before.items = found.items ∧
      Document.ofList before = Document.ofList found := by
  rw [get?_setItemCount] at stored
  split at stored
  · obtain ⟨before, there, rfl⟩ := Option.map_eq_some_iff.mp stored
    exact ⟨before, there, rfl, rfl⟩
  · exact ⟨found, stored, rfl, rfl⟩

theorem Store.isSome_setItemCount (k : ListId) :
    ((store.perform now (.setItemCount list count)).2.lists.get? k).isSome =
      (store.lists.get? k).isSome := by
  rw [get?_setItemCount]
  split <;> simp

theorem Store.Sound.recount (sound : store.Sound) :
    (store.perform now (.setItemCount list count)).2.Sound :=
  sound.perform _ _ (unwrapped_perform (by simp) (by simp) (by simp))

theorem Mirrors.recount (mirrors : Mirrors store index saves removes) :
    Mirrors (store.perform now (.setItemCount list count)).2 index saves removes := by
  refine ⟨fun k found stored => ?_, fun key document found => ?_, fun k leaves => ?_⟩
  · obtain ⟨before, there, _, same⟩ := Store.get?_of_setItemCount stored
    rw [← same]
    exact mirrors.indexed k before there
  · obtain ⟨k, named, there⟩ := mirrors.gone key document found
    exact ⟨k, named, there.imp_left (Store.isSome_setItemCount k).trans⟩
  · obtain ⟨absent, used⟩ := mirrors.deleted k leaves
    rw [← Option.not_isSome_iff_eq_none, Store.isSome_setItemCount, absent,
      Store.nextList_perform (by simp)]
    exact ⟨nofun, used⟩

theorem Document.Fresh.recount {document : Document} (fresh : document.Fresh store saves removes) :
    document.Fresh (store.perform now (.setItemCount list count)).2 saves removes := by
  obtain ⟨k, named, there, current⟩ := fresh
  refine ⟨k, named, there.imp_left (Store.isSome_setItemCount k).trans, fun found stored => ?_⟩
  obtain ⟨before, there, _, same⟩ := Store.get?_of_setItemCount stored
  rw [← same]
  exact current before there

end

/-- When nothing is left to be done, the index has the documents of the stored lists. -/
theorem Mirrors.current (mirrors : Mirrors store index saves removes) (saved : ∀ k, ¬saves k)
    (removed : ∀ k, ¬removes k) (key : String) (document : Document) :
    index.document? key = some document ↔
      ∃ k list, store.lists.get? k = some list ∧ key = Document.keyOf k ∧
        document = Document.ofList list := by
  have current {k list} (there : store.lists.get? k = some list) :=
    (mirrors.indexed k list there).resolve_right (saved k)
  constructor
  · intro found
    obtain ⟨k, rfl, stored⟩ := mirrors.gone key document found
    obtain ⟨list, there⟩ := Option.isSome_iff_exists.mp (stored.resolve_right (removed k))
    rw [current there] at found
    exact ⟨k, list, there, rfl, (Option.some.inj found).symm⟩
  · rintro ⟨k, list, there, rfl, rfl⟩
    exact current there

end

end ListKeeper
