import ListKeeper.Proofs.Rebuild.Phase

namespace ListKeeper

theorem Handler.pairwise_idsAfter (store : Store) (after : Option ListId) (limit : Nat) :
    (store.idsAfter after limit).Pairwise fun a b => a.number < b.number :=
  ((Handler.pairwise_keys store).filter _).sublist (List.take_sublist ..)

/-- The documents that a call pushes. -/
def Call.documents? : Call → Option (List Document)
  | .saveDocuments documents => some documents
  | _ => none

namespace Rebuild

/-- The documents pushed so far, push by push. -/
def batches (rebuild : Rebuild) : List (List Document) :=
  rebuild.calls.filterMap Call.documents?

def pushed (rebuild : Rebuild) : List Document :=
  rebuild.batches.flatten

namespace Phase

def indexed : Phase → Nat
  | listing _ indexed => indexed
  | loading _ _ indexed _ _ => indexed
  | ended total => total

/-- The documents of a page that are still to be pushed. -/
def made : Phase → List Document
  | loading _ _ _ made _ => made
  | _ => []

/-- The lists of a page that are still to be loaded. -/
def left : Phase → List ListId
  | loading _ _ _ _ left => left
  | _ => []

/-- The numbers that are still to be listed. -/
def Unlisted : Phase → ListId → Prop
  | listing after _, k => Projection.isBeyond after k
  | loading last full _ _ _, k => full ∧ Projection.isBeyond (some last) k
  | ended _, _ => False

end Phase

/-- Lists that were stored at one moment, and numbers that are in use at every moment. -/
structure Witnessed (were : ListId → ItemList → Prop) (always : ListId → Prop) (store : Store) :
    Prop where
  keyed : store.Keyed
  were : ∀ k list, store.lists.get? k = some list → were k list
  stays : ∀ k, always k → (store.lists.get? k).isSome

/-- What a rebuild has done when it has loaded these lists. -/
structure Walk (pageSize : Nat) (were : ListId → ItemList → Prop) (always : ListId → Prop)
    (batches : List (List Document)) (phase : Phase) (seen : List ListId) : Prop where
  keys : (batches.flatten ++ phase.made).map Document.objectId = seen.map Document.keyOf
  ascending : (seen ++ phase.left).Pairwise fun a b => a.number < b.number
  behind : ∀ id ∈ seen ++ phase.left, ∀ k, phase.Unlisted k → id.number < k.number
  covers : ∀ k, always k → k ∈ seen ++ phase.left ∨ phase.Unlisted k
  origin : ∀ document ∈ batches.flatten ++ phase.made, ∃ k list,
    were k list ∧ list.id = k ∧ document = Document.ofList list
  sizes : ∀ documents ∈ batches, documents.length ≤ pageSize
  fits : phase.made.length + phase.left.length ≤ pageSize
  counted : phase.indexed = batches.flatten.length

variable {pageSize : Nat} {were : ListId → ItemList → Prop} {always : ListId → Prop}
  {batches : List (List Document)} {phase : Phase} {seen : List ListId} {store : Store}

/-- The last number of an ascending listing is its largest. -/
theorem number_lt_of_last {ids : List ListId} {last k id : ListId}
    (ascending : ids.Pairwise fun a b => a.number < b.number) (final : ids.getLast? = some last)
    (beyond : Projection.isBeyond (some last) k) (member : id ∈ ids) : id.number < k.number := by
  have above : last.number < k.number := by simpa [Projection.isBeyond] using beyond
  obtain ⟨before, rfl⟩ := List.getLast?_eq_some_iff.mp final
  rcases List.mem_append.mp member with earlier | same
  · exact Int32.lt_trans
      ((List.pairwise_append.mp ascending).2.2 id earlier last (List.mem_singleton_self _)) above
  · rwa [List.mem_singleton.mp same]

theorem Walk.listed {after : Option ListId} {indexed : Nat}
    (walk : Walk pageSize were always batches (.listing after indexed) seen)
    (positive : 0 < pageSize) (witnessed : Witnessed were always store) :
    Walk pageSize were always batches ((Phase.listing after indexed).next pageSize store) seen := by
  have short := @Handler.mem_idsAfter_of_short store after pageSize
  have covers := @Handler.mem_idsAfter_or_isBeyond store after pageSize
  have unlisted := @Handler.isBeyond_of_mem_idsAfter store after pageSize
  have size : (store.idsAfter after pageSize).length ≤ pageSize := Phase.length_idsAfter_le
  have ascending := Handler.pairwise_idsAfter store after pageSize
  have earlier (id) (member : id ∈ seen) := walk.behind id (List.mem_append_left _ member)
  simp only [Phase.next]
  generalize store.idsAfter after pageSize = ids at *
  cases final : ids.getLast? with
  | none =>
    obtain rfl := List.getLast?_eq_none_iff.mp final
    refine { walk with behind := fun _ _ _ none => none.elim, covers := fun k stays => ?_ }
    rcases walk.covers k stays with known | beyond
    · exact Or.inl known
    · exact absurd (short positive (witnessed.stays k stays) beyond) List.not_mem_nil
  | some last =>
    have member := List.mem_of_getLast? final
    refine { walk with ascending := ?ascending, behind := ?behind, covers := ?covers, fits := ?fits }
    case ascending =>
      refine List.pairwise_append.mpr ⟨?_, ascending, fun a known b listed => ?_⟩
      · exact (List.pairwise_append.mp walk.ascending).1
      · exact earlier a known b (unlisted listed)
    case behind =>
      rintro id known k ⟨_, beyond⟩
      rcases List.mem_append.mp known with before | listed
      · have above : last.number < k.number := by simpa [Projection.isBeyond] using beyond
        exact Int32.lt_trans (earlier id before last (unlisted member)) above
      · exact number_lt_of_last ascending final beyond listed
    case covers =>
      intro k stays
      rcases walk.covers k stays with known | beyond
      · exact Or.inl (List.mem_append_left _ (by simpa [Phase.left] using known))
      · by_cases full : ids.length < pageSize
        · exact Or.inl (List.mem_append_right _ (short full (witnessed.stays k stays) beyond))
        · refine (covers final (witnessed.stays k stays) beyond).imp (List.mem_append_right _) ?_
          exact fun later => ⟨decide_eq_true (Nat.not_lt.mp full), later⟩
    case fits => simpa [Phase.made, Phase.left] using size

theorem Walk.loaded {last list : ListId} {full : Bool} {indexed : Nat} {made : List Document}
    {left : List ListId}
    (walk : Walk pageSize were always batches (.loading last full indexed made (list :: left)) seen)
    (witnessed : Witnessed were always store) :
    ∃ seen', Walk pageSize were always batches
      ((Phase.loading last full indexed made (list :: left)).next pageSize store) seen' := by
  have fits := walk.fits
  simp only [Phase.made, Phase.left, List.length_cons] at fits
  cases found : store.lists.get? list with
  | none =>
    have fewer : (seen ++ left).Sublist (seen ++ list :: left) :=
      (List.sublist_cons_self ..).append_left _
    refine ⟨seen, ?_⟩
    simp only [Phase.next, found, Option.map_none, Option.toList_none, List.append_nil]
    refine { walk with ascending := ?_, behind := ?_, covers := fun k stays => ?_, fits := ?_ }
    · exact walk.ascending.sublist fewer
    · exact fun id member => walk.behind id (fewer.mem member)
    · refine (walk.covers k stays).imp_left fun known => ?_
      have stored := witnessed.stays k stays
      have other : k ≠ list := by
        rintro rfl
        rw [found] at stored
        cases stored
      simpa [Phase.left, other] using known
    · simp only [Phase.made, Phase.left]
      omega
  | some there =>
    have same := witnessed.keyed list there found
    refine ⟨seen ++ [list], ?_⟩
    have grouped : seen ++ [list] ++ left = seen ++ list :: left := by simp
    simp only [Phase.next, found, Option.map_some, Option.toList_some]
    refine { walk with keys := ?keys, ascending := ?_, behind := ?_, covers := ?_, origin := ?origin,
                       fits := ?fits }
    case keys =>
      have keys := walk.keys
      simp only [Phase.made] at keys ⊢
      rw [← List.append_assoc, List.map_append, keys, List.map_append]
      simp [Document.ofList, same]
    case origin =>
      intro document member
      simp only [Phase.made] at member
      rw [← List.append_assoc] at member
      rcases List.mem_append.mp member with before | new
      · exact walk.origin document before
      · rw [List.mem_singleton.mp new]
        exact ⟨list, there, witnessed.were list there found, same, rfl⟩
    case fits =>
      simp only [Phase.made, Phase.left, List.length_append, List.length_singleton]
      omega
    · exact grouped ▸ walk.ascending
    · exact grouped ▸ walk.behind
    · exact grouped ▸ walk.covers

theorem Walk.saved {last : ListId} {full : Bool} {indexed : Nat} {made : List Document}
    (walk : Walk pageSize were always batches (.loading last full indexed made []) seen) :
    Walk pageSize were always (batches ++ [made])
      ((Phase.loading last full indexed made []).next pageSize store) seen := by
  have flattened : (batches ++ [made]).flatten = batches.flatten ++ made := by simp
  have sizes (documents) (member : documents ∈ batches ++ [made]) :
      documents.length ≤ pageSize := by
    rcases List.mem_append.mp member with before | new
    · exact walk.sizes documents before
    · rw [List.mem_singleton.mp new]
      simpa [Phase.made, Phase.left] using walk.fits
  have counted : indexed + made.length = (batches ++ [made]).flatten.length := by
    rw [flattened, List.length_append, ← walk.counted]
    rfl
  have keys : ((batches ++ [made]).flatten ++ []).map Document.objectId =
      seen.map Document.keyOf := by
    rw [List.append_nil, flattened]
    exact walk.keys
  have origin (document) (member : document ∈ (batches ++ [made]).flatten ++ []) :
      ∃ k list, were k list ∧ list.id = k ∧ document = Document.ofList list := by
    rw [List.append_nil, flattened] at member
    exact walk.origin document member
  simp only [Phase.next]
  cases full with
  | false =>
    refine ⟨keys, walk.ascending, fun _ _ _ none => none.elim, fun k stays => ?_, origin, sizes,
      Nat.zero_le _, counted⟩
    exact (walk.covers k stays).imp_right fun later => absurd later.1 Bool.false_ne_true
  | true =>
    refine ⟨keys, walk.ascending, fun id member k later => ?_, fun k stays => ?_, origin, sizes,
      Nat.zero_le _, counted⟩
    · exact walk.behind id member k ⟨rfl, later⟩
    · exact (walk.covers k stays).imp_right And.right

theorem Walk.next (walk : Walk pageSize were always batches phase seen) (positive : 0 < pageSize)
    (witnessed : Witnessed were always store) :
    ∃ seen', Walk pageSize were always
      (batches ++ ((phase.call? pageSize).bind Call.documents?).toList) (phase.next pageSize store)
      seen' := by
  have silent : batches ++ (none : Option (List Document)).toList = batches := List.append_nil _
  match phase with
  | .ended total => exact ⟨seen, silent.symm ▸ walk⟩
  | .listing after indexed => exact ⟨seen, silent.symm ▸ walk.listed positive witnessed⟩
  | .loading last full indexed made (list :: left) =>
    obtain ⟨seen', later⟩ := walk.loaded witnessed
    exact ⟨seen', silent.symm ▸ later⟩
  | .loading last full indexed made [] => exact ⟨seen, walk.saved⟩

variable {rebuild : Rebuild} {backend : Backend} {now : Timestamp} {steps : List Step} {batch : Nat}

/-- A rebuild on its walk. -/
def Walks (pageSize : Nat) (were : ListId → ItemList → Prop) (always : ListId → Prop)
    (rebuild : Rebuild) : Prop :=
  ∃ phase seen, rebuild.rest = phase.program pageSize ∧
    Walk pageSize were always rebuild.batches phase seen

theorem Walks.act (walks : Walks pageSize were always rebuild) (positive : 0 < pageSize)
    (witnessed : Witnessed were always rebuild.backend.store) (step : Step) :
    Walks pageSize were always (rebuild.act step) := by
  obtain ⟨phase, seen, here, walk⟩ := walks
  cases step with
  | other now call => exact ⟨phase, seen, here, walk⟩
  | own now =>
    obtain ⟨seen', later⟩ := walk.next positive witnessed
    have stepped : rebuild.act (.own now) = _ := act_own here
    have pushes : (rebuild.act (.own now)).batches =
        rebuild.batches ++ ((phase.call? pageSize).bind Call.documents?).toList := by
      rw [stepped, Rebuild.batches, List.filterMap_append]
      cases phase.call? pageSize with
      | none => rfl
      | some call => cases call <;> rfl
    refine ⟨phase.next pageSize rebuild.backend.store, seen', congrArg Rebuild.rest stepped, ?_⟩
    rwa [pushes]

theorem walks_start (always : ListId → Prop) (were : ListId → ItemList → Prop) :
    Walks (max batch 1) were always (start batch backend) :=
  ⟨.listing none 0, [], rfl, rfl, .nil, fun _ none => absurd none List.not_mem_nil,
    fun _ _ => Or.inr rfl, fun _ none => absurd none List.not_mem_nil,
    fun _ none => absurd none List.not_mem_nil, Nat.zero_le _, rfl⟩

theorem Walks.run (walks : Walks pageSize were always rebuild) (positive : 0 < pageSize)
    (steps : List Step)
    (witnessed : ∀ t < steps.length, Witnessed were always (rebuild.moment steps t).backend.store) :
    Walks pageSize were always (rebuild.run steps) :=
  foldl_keeps Rebuild.act (Walks pageSize were always)
    (fun before _ => Witnessed were always before.backend.store)
    (fun _ step walks witnessed => walks.act positive witnessed step) walks steps witnessed

theorem keyed_perform (keyed : backend.store.Keyed) (call : Call) :
    (backend.perform now call).2.store.Keyed := by
  cases call with
  | store call => exact keyed.act (.call now call)
  | _ => exact keyed

theorem keyed_act (keyed : rebuild.backend.store.Keyed) (step : Step) :
    (rebuild.act step).backend.store.Keyed := by
  cases step with
  | other now call => exact keyed_perform keyed call
  | own now =>
    obtain ⟨backend, rest, calls⟩ := rebuild
    cases rest with
    | call call next meanwhile => exact keyed_perform keyed call
    | done | stalled | panic => exact keyed

theorem keyed_run (keyed : rebuild.backend.store.Keyed) (steps : List Step) :
    (rebuild.run steps).backend.store.Keyed :=
  foldl_keeps Rebuild.act (fun rebuild => rebuild.backend.store.Keyed) (fun _ _ => True)
    (fun _ step keyed _ => keyed_act keyed step) keyed steps fun _ _ => trivial

theorem nodup_of_ascending {ids : List ListId}
    (ascending : ids.Pairwise fun a b => a.number < b.number) :
    (ids.map Document.keyOf).Nodup := by
  refine List.Nodup.map (fun _ _ same => Document.keyOf_injective same) (ascending.imp ?_)
  rintro id _ before rfl
  exact Int32.lt_irrefl before

/-- While others make calls of any kind between its own, a rebuild comes to its end; no list is
pushed twice, no push is larger than a page, and each document is that of its list at some moment.
At the end, the result is the number of documents pushed, and every list that was there all the
time has been pushed once. -/
theorem rebuilt_once (batch : Nat) (backend : Backend) (deeds : List Store.Deed)
    (filled : backend.store = Store.empty.fill deeds) :
    (∃ bound, ∀ steps, bound ≤ steps.countP Step.isOwn →
      ∃ total, ((start batch backend).run steps).rest = .done (.ok total)) ∧
    ∀ steps,
      (((start batch backend).run steps).pushed.map Document.objectId).Nodup ∧
      (∀ documents ∈ ((start batch backend).run steps).batches,
        documents.length ≤ max batch 1) ∧
      (∀ document ∈ ((start batch backend).run steps).pushed, ∃ t ≤ steps.length, ∃ k list,
        ((start batch backend).moment steps t).backend.store.lists.get? k = some list ∧
          list.id = k ∧ document = Document.ofList list) ∧
      ∀ total, ((start batch backend).run steps).rest = .done (.ok total) →
        total = ((start batch backend).run steps).pushed.length ∧
        ∀ k, (∀ t ≤ steps.length,
            (((start batch backend).moment steps t).backend.store.lists.get? k).isSome) →
          (((start batch backend).run steps).pushed.map Document.objectId).count
            (Document.keyOf k) = 1 := by
  refine ⟨⟨_, ended_of_enough batch backend⟩, fun steps => ?_⟩
  have keyed (t) : ((start batch backend).moment steps t).backend.store.Keyed :=
    keyed_run (filled ▸ Store.keyed_empty.fill deeds) (steps.take t)
  generalize begun : start batch backend = rebuild at keyed ⊢
  have begins : Walks (max batch 1)
      (fun k list => ∃ t ≤ steps.length,
        (rebuild.moment steps t).backend.store.lists.get? k = some list)
      (fun k => ∀ t ≤ steps.length,
        ((rebuild.moment steps t).backend.store.lists.get? k).isSome) rebuild :=
    begun ▸ walks_start _ _
  obtain ⟨phase, seen, here, walk⟩ := begins.run (by omega) steps fun t within =>
    ⟨keyed t, fun k list there => ⟨t, within.le, there⟩, fun k always => always t within.le⟩
  have distinct : (seen.map Document.keyOf).Nodup :=
    nodup_of_ascending (List.pairwise_append.mp walk.ascending).1
  have keys := walk.keys
  rw [List.map_append] at keys
  refine ⟨?once, walk.sizes, fun document member => ?origin, fun total done => ?whole⟩
  case once =>
    rw [← keys] at distinct
    exact (List.nodup_append.mp distinct).1
  case origin =>
    obtain ⟨k, list, ⟨t, within, there⟩, same, made⟩ :=
      walk.origin document (List.mem_append_left _ member)
    exact ⟨t, within, k, list, there, same, made⟩
  case whole =>
    obtain rfl := Phase.eq_ended_of_done (here.symm.trans done)
    refine ⟨walk.counted, fun k always => ?_⟩
    have pushed : (rebuild.run steps).pushed.map Document.objectId = seen.map Document.keyOf :=
      (List.append_nil _).symm.trans keys
    have known : k ∈ seen := by
      simpa [Phase.left, Phase.Unlisted] using walk.covers k always
    rw [pushed]
    exact List.count_eq_one_of_mem distinct (List.mem_map_of_mem known)

/-- Three lists, and a place for all that follows. -/
def shelf : Backend :=
  ⟨Store.empty.fill ([.createList ⟨1⟩ "groceries", .createList ⟨1⟩ "errands",
    .createList ⟨2⟩ "garden"].map (.call default)), .empty, .new 1, []⟩

/-- A rebuild with pages of two lists. After the first page has been listed its last list is
deleted and another one is created, and before the second page is loaded a list is renamed. -/
def crossed : List Step :=
  [.own default, .other default (.store (.deleteList ⟨2⟩ ⟨1⟩)), .own default, .own default,
    .other default (.store (.createList ⟨1⟩ "post")), .own default, .own default,
    .other default (.store (.renameList ⟨3⟩ "yard")), .own default, .own default, .own default,
    .own default]

theorem rebuilt_once_crossed :
    shelf.store = Store.empty.fill ([.createList ⟨1⟩ "groceries", .createList ⟨1⟩ "errands",
      .createList ⟨2⟩ "garden"].map (.call default)) ∧
    ((start 2 shelf).run crossed).rest = .done (.ok 3) ∧
    ((start 2 shelf).run crossed).pushed.length = 3 ∧
    (((start 2 shelf).run crossed).pushed.map Document.objectId).count (Document.keyOf ⟨1⟩) = 1 ∧
    (((start 2 shelf).run crossed).pushed.map Document.objectId).count (Document.keyOf ⟨3⟩) = 1 := by
  have begins : (start 2 shelf).rest = (Phase.listing none 0).program 2 := rfl
  have ended : (crossed.foldl (Phase.follow 2) (Phase.listing none 0, shelf)).1 = .ended 3 := rfl
  have done : ((start 2 shelf).run crossed).rest = .done (.ok 3) :=
    (run_follows begins crossed).1.trans (congrArg (Phase.program 2) ended)
  have follows (t) : ((start 2 shelf).moment crossed t).backend =
      ((crossed.take t).foldl (Phase.follow 2) (Phase.listing none 0, shelf)).2 :=
    (run_follows begins (crossed.take t)).2
  have stays : ∀ k ∈ [ListId.mk 1, ListId.mk 3], ∀ t ≤ crossed.length,
      (((start 2 shelf).moment crossed t).backend.store.lists.get? k).isSome := by
    simp only [follows]
    decide
  obtain ⟨-, whole⟩ := rebuilt_once 2 shelf _ rfl
  obtain ⟨-, -, -, ends⟩ := whole crossed
  obtain ⟨counted, once⟩ := ends 3 done
  exact ⟨rfl, done, counted.symm, once ⟨1⟩ (stays ⟨1⟩ (by simp)), once ⟨3⟩ (stays ⟨3⟩ (by simp))⟩

end Rebuild

end ListKeeper
