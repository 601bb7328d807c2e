import ListKeeper.Document
import ListKeeper.Proofs.Json.Records

namespace ListKeeper

open Json

/-- The text of an object that has these fields, in any order, and perhaps some that are not
known. -/
def IsObject (known : List String) (parts : List (String × List Char)) (text : List Char) : Prop :=
  ∃ fields extra, text = objectText fields ∧ fields.Perm (parts ++ extra) ∧
    ∀ field ∈ extra, field.1 ∉ known ∧ IsValue field.2

namespace ItemDocument

def fieldNames : List String :=
  ["title", "description"]

def parts (item : ItemDocument) : List (String × List Char) :=
  [("title", quote item.title), ("description", quote item.description)]

/-- The text says what the item is. -/
def Written (item : ItemDocument) (text : List Char) : Prop :=
  IsObject fieldNames item.parts text

/-- The text leaves out a field of the item. -/
def Lacks (item : ItemDocument) (text : List Char) : Prop :=
  ∃ name ∈ fieldNames, IsObject fieldNames (item.parts.filter (·.1 ≠ name)) text

/-- The draft of the item that has the fields of these names. -/
def drafted (item : ItemDocument) (names : List String) : Draft where
  title := if "title" ∈ names then some item.title else none
  description := if "description" ∈ names then some item.description else none

end ItemDocument

namespace Document

def fieldNames : List String :=
  ["objectID", "userId", "name", "items"]

/-- The fields of a document but for its items. -/
def plainParts (document : Document) : List (String × List Char) :=
  [("objectID", quote document.objectId),
    ("userId", (Decimal.ofInt32 document.owner.number).toList), ("name", quote document.name)]

/-- The fields of a document, whose items have these texts. -/
def parts (document : Document) (items : List (List Char)) : List (String × List Char) :=
  document.plainParts ++ [("items", arrayText items)]

/-- The text says what the document is. -/
def Written (document : Document) (text : List Char) : Prop :=
  ∃ items, List.Forall₂ ItemDocument.Written document.items items ∧
    IsObject fieldNames (document.parts items) text

/-- The texts of items, one of which leaves out a field. -/
inductive OneLacks : List ItemDocument → List (List Char) → Prop where
  | here {item : ItemDocument} {text : List Char} {items : List ItemDocument}
    {texts : List (List Char)} (lacks : item.Lacks text)
    (written : List.Forall₂ ItemDocument.Written items texts) :
    OneLacks (item :: items) (text :: texts)
  | later {item : ItemDocument} {text : List Char} {items : List ItemDocument}
    {texts : List (List Char)} (written : item.Written text) (later : OneLacks items texts) :
    OneLacks (item :: items) (text :: texts)

/-- The text leaves out a field of the document or of one of its items. -/
def Lacks (document : Document) (text : List Char) : Prop :=
  (∃ items, List.Forall₂ ItemDocument.Written document.items items ∧ ∃ name ∈ fieldNames,
    IsObject fieldNames ((document.parts items).filter (·.1 ≠ name)) text) ∨
  ∃ items, OneLacks document.items items ∧ IsObject fieldNames (document.parts items) text

/-- The draft of the document that has the fields of these names. -/
def drafted (document : Document) (names : List String) : Draft where
  objectId := if "objectID" ∈ names then some document.objectId else none
  owner := if "userId" ∈ names then some document.owner else none
  name := if "name" ∈ names then some document.name else none
  items := if "items" ∈ names then some document.items else none

end Document

namespace ItemDocument

variable {item : ItemDocument} {text : List Char}

theorem drafts (item : ItemDocument) : Drafts shape item.parts item.drafted where
  blank := rfl
  distinct := by simp [parts]
  sets part member := by
    simp only [parts, List.mem_cons, List.not_mem_nil, or_false] at member
    rcases member with rfl | rfl
    · refine ⟨_, _, rfl, (reads_text item.title).map _, fun seen fresh => ⟨?_, ?_⟩⟩
      · simp [drafted, fresh]
      · simp [drafted]
    · refine ⟨_, _, rfl, (reads_text item.description).map _, fun seen fresh => ⟨?_, ?_⟩⟩
      · simp [drafted, fresh]
      · simp [drafted]

theorem gives_written (written : item.Written text) :
    Gives (wantedRecord shape) text (.ok item) := by
  obtain ⟨fields, extra, rfl, perm, strays⟩ := written
  obtain ⟨final, names, gives⟩ := item.drafts.gives perm (strays_of_not_mem strays)
  have done : shape.finish (item.drafted final) = some item := by
    simp [shape, drafted, names, parts]
  rw [Shape.finished, done] at gives
  exact gives

theorem gives_lacks (lacks : item.Lacks text) :
    Gives (wantedRecord shape) text (.error .unfit) := by
  obtain ⟨name, known, fields, extra, rfl, perm, strays⟩ := lacks
  obtain ⟨final, names, gives⟩ :=
    (item.drafts.sublist List.filter_sublist).gives perm (strays_of_not_mem strays)
  have absent : name ∉ final := by
    rw [names]
    simp
  have unfinished : shape.finish (item.drafted final) = none := by
    simp only [fieldNames, List.mem_cons, List.not_mem_nil, or_false] at known
    rcases known with rfl | rfl
    all_goals simp [shape, drafted, absent]
  rw [Shape.finished, unfinished] at gives
  exact gives

end ItemDocument

namespace Document

variable {document : Document} {text : List Char} {texts : List (List Char)}

theorem gives_items {items : List ItemDocument}
    (written : List.Forall₂ ItemDocument.Written items texts) :
    Gives (wantedArray (wantedRecord ItemDocument.shape)) (arrayText texts) (.ok items) := by
  have each : List.Forall₂ (Gives (wantedRecord ItemDocument.shape)) texts (items.map Except.ok) := by
    rw [List.forall₂_map_right_iff]
    exact written.flip.imp fun _ _ => ItemDocument.gives_written
  have given := gives_array each
  rw [mapM_ok] at given
  exact given

theorem gives_items_lack {items : List ItemDocument} (lacks : OneLacks items texts) :
    Gives (wantedArray (wantedRecord ItemDocument.shape)) (arrayText texts) (.error .unfit) := by
  have each : ∃ front rest, List.Forall₂ (Gives (wantedRecord ItemDocument.shape)) texts
      (List.map Except.ok front ++ .error .unfit :: rest) := by
    induction lacks with
    | @here item text items texts lacks written =>
      refine ⟨[], items.map Except.ok, .cons (ItemDocument.gives_lacks lacks) ?_⟩
      rw [List.forall₂_map_right_iff]
      exact written.flip.imp fun _ _ => ItemDocument.gives_written
    | @later item _ _ _ written _ ih =>
      obtain ⟨front, rest, each⟩ := ih
      exact ⟨item :: front, rest, .cons (ItemDocument.gives_written written) each⟩
  obtain ⟨front, rest, each⟩ := each
  have given := gives_array each
  rw [mapM_error] at given
  exact given

theorem drafts_plainParts (document : Document) :
    Drafts shape document.plainParts document.drafted where
  blank := rfl
  distinct := by simp [plainParts]
  sets part member := by
    simp only [plainParts, List.mem_cons, List.not_mem_nil, or_false] at member
    rcases member with rfl | rfl | rfl
    · refine ⟨_, _, rfl, (reads_text document.objectId).map _, fun seen fresh => ⟨?_, ?_⟩⟩
      · simp [drafted, fresh]
      · simp [drafted]
    · refine ⟨_, _, rfl, (reads_ofInt32 document.owner.number).map _, fun seen fresh => ⟨?_, ?_⟩⟩
      · simp [drafted, fresh]
      · simp [drafted]
    · refine ⟨_, _, rfl, (reads_text document.name).map _, fun seen fresh => ⟨?_, ?_⟩⟩
      · simp [drafted, fresh]
      · simp [drafted]

theorem drafts_parts (document : Document)
    (written : List.Forall₂ ItemDocument.Written document.items texts) :
    Drafts shape (document.parts texts) document.drafted where
  blank := rfl
  distinct := by simp [parts, plainParts]
  sets part member := by
    rcases List.mem_append.mp member with plain | items
    · exact document.drafts_plainParts.sets part plain
    · obtain rfl := List.mem_singleton.mp items
      refine ⟨_, _, rfl, (gives_items written).map _, fun seen fresh => ⟨?_, ?_⟩⟩
      · simp [drafted, fresh]
      · simp [drafted]

theorem gives_written (written : document.Written text) :
    Gives (wantedRecord shape) text (.ok document) := by
  obtain ⟨items, texts, fields, extra, rfl, perm, strays⟩ := written
  obtain ⟨final, names, gives⟩ := (document.drafts_parts texts).gives perm (strays_of_not_mem strays)
  have done : shape.finish (document.drafted final) = some document := by
    simp [shape, drafted, names, parts, plainParts]
  rw [Shape.finished, done] at gives
  exact gives

theorem gives_lacks (lacks : document.Lacks text) :
    Gives (wantedRecord shape) text (.error .unfit) := by
  rcases lacks with ⟨items, texts, name, known, fields, extra, rfl, perm, strays⟩ |
    ⟨items, texts, fields, extra, rfl, perm, strays⟩
  · obtain ⟨final, names, gives⟩ :=
      ((document.drafts_parts texts).sublist List.filter_sublist).gives perm
        (strays_of_not_mem strays)
    have absent : name ∉ final := by
      rw [names]
      simp
    have unfinished : shape.finish (document.drafted final) = none := by
      simp only [fieldNames, List.mem_cons, List.not_mem_nil, or_false] at known
      rcases known with rfl | rfl | rfl | rfl
      all_goals simp [shape, drafted, absent]
    rw [Shape.finished, unfinished] at gives
    exact gives
  · have first : fields.Perm (("items", arrayText items) :: (document.plainParts ++ extra)) := by
      rw [parts, List.append_assoc] at perm
      exact perm.trans List.perm_middle
    refine document.drafts_plainParts.gives_fault rfl (fun seen fresh => ?_)
      ((gives_items_lack texts).map _) (by simp [plainParts]) first (strays_of_not_mem strays)
    simp [drafted, fresh]

theorem written_print (document : Document) : document.Written document.toJson.print := by
  have items : List.Forall₂ ItemDocument.Written document.items
      (document.items.map fun item => item.toJson.print) := by
    rw [List.forall₂_map_right_iff, List.forall₂_same]
    intro item _
    refine ⟨item.parts, [], ?_, by rw [List.append_nil], List.forall_mem_nil _⟩
    rw [ItemDocument.toJson, print_object]
    rfl
  refine ⟨_, items, document.parts _, [], ?_, by rw [List.append_nil], List.forall_mem_nil _⟩
  rw [toJson, print_object]
  simp [parts, plainParts, print_array, Json.print, ofInt32, Decimal.ofInt32, Function.comp_def]

theorem reads_toJson (document : Document) :
    Reads (wantedRecord shape) document.toJson document :=
  gives_written document.written_print

/-- A document is read from the text that is written of it, and from every other text that says the
same with the fields of its objects in another order or among fields that are not known. A text that
leaves out a field is unfit. -/
theorem reads_any_order (document : Document) :
    Document.read document.print = .ok document ∧
      (∀ text, document.Written text → Document.read (String.ofList text) = .ok document) ∧
      ∀ text, document.Lacks text → Document.read (String.ofList text) = .error .unfit :=
  ⟨readDocument_print document.reads_toJson, fun _ written => (gives_written written).readDocument,
    fun _ lacks => (gives_lacks lacks).readDocument⟩

def errands : Document :=
  ⟨"7", ⟨-3⟩, "errands \"now\"", [⟨"bread", "rye\n"⟩]⟩

/-- An array of two values that nobody knows. -/
def amounts : List Char :=
  ['[', '1', '.', '5', ',', ' ', 'n', 'u', 'l', 'l', ']']

theorem isValue_amounts : IsValue amounts := by
  have blank : AreBlank [] := by simp [AreBlank]
  have space : AreBlank [' '] := by simp [AreBlank, isBlank]
  have whole : AreDigits ['1'] := by simp [AreDigits]
  have half : AreDigits ['5'] := by simp [AreDigits]
  have number : IsNumber ['1', '.', '5'] :=
    @IsNumber.number [] ['1'] ['.', '5'] [] (Or.inl rfl) whole (by simp) (.point half) .none
  have later : IsText (.elements false) [',', ' ', 'n', 'u', 'l', 'l', ']'] :=
    @IsText.element false [',', ' '] _ [']'] (@Precedes.later [] [' '] blank space) .null
      (.noElements blank)
  exact .array (@IsText.element true [] _ _ (.first blank) (.number number) later)

/-- The bread in another order of fields, and with its amounts. -/
def breadText : List Char :=
  objectText [("description", quote "rye\n"), ("amounts", amounts), ("title", quote "bread")]

theorem reads_any_order_errands :
    let mixed := objectText [("items", arrayText [breadText]), ("name", quote "errands \"now\""),
      ("userId", ['-', '3']), ("objectID", quote "7")]
    let anonymous := objectText [("userId", ['-', '3']), ("amounts", amounts),
      ("items", arrayText [breadText]), ("objectID", quote "7")]
    errands.Written mixed ∧ Document.read (String.ofList mixed) = .ok errands ∧
      errands.Lacks anonymous ∧ Document.read (String.ofList anonymous) = .error .unfit := by
  intro mixed anonymous
  have bread : ItemDocument.Written ⟨"bread", "rye\n"⟩ breadText :=
    ⟨_, [("amounts", amounts)], rfl, by decide +kernel, by simp [isValue_amounts]; decide⟩
  have written : errands.Written mixed :=
    ⟨[breadText], .cons bread .nil, _, [], rfl, by decide +kernel, List.forall_mem_nil _⟩
  have lacks : errands.Lacks anonymous :=
    Or.inl ⟨[breadText], .cons bread .nil, "name", by decide, _, [("amounts", amounts)], rfl,
      by decide +kernel, by simp [isValue_amounts]; decide⟩
  obtain ⟨-, reads, fails⟩ := reads_any_order errands
  exact ⟨written, reads mixed written, lacks, fails anonymous lacks⟩

end Document

end ListKeeper
