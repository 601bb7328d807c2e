import ListKeeper.Proofs.Json.Grammar

namespace ListKeeper.Json

variable {α β ρ : Type} {reader : Reader α} {json : Json} {value : α} {text rest : List Char}
  {outcome : Except ReadFault α}

/-- What a reader makes of the text of a value: a result, so that what comes after is left, or a
fault. -/
structure Gives (reader : Reader α) (text : List Char) (outcome : Except ReadFault α) : Prop where
  begins : ∃ c tail, Text.encode text = c :: tail ∧ Begins c
  reads : ∀ rest, Follows rest →
    reader (Text.encode text ++ rest) = outcome.map fun value => (value, rest)

/-- This is what a reader makes of a value that has been written. -/
def Reads (reader : Reader α) (json : Json) (value : α) : Prop :=
  Gives reader json.print (.ok value)

theorem bind_of_error {reader : Reader α} {next : α → Reader β} {fault : ReadFault}
    (first : reader text = .error fault) : (reader >>= next) text = .error fault := by
  change (reader text >>= fun result => next result.1 result.2) = _
  rw [first]
  rfl

theorem Gives.map (gives : Gives reader text outcome) (f : α → β) :
    Gives (do let value ← reader; pure (f value)) text (outcome.map f) where
  begins := gives.begins
  reads rest follows := by
    have read := gives.reads rest follows
    cases outcome with
    | error fault => exact bind_of_error read
    | ok value => exact map_of_ok read f

theorem Reads.map (reads : Reads reader json value) (f : α → β) :
    Gives (do let value ← reader; pure (f value)) json.print (.ok (f value)) :=
  Gives.map reads f

theorem follows_of_mem {c : Char} {text : List Char} (ends : c ∈ [',', ']', '\x7d']) :
    Follows (c :: text) := by
  rintro _ ⟨⟩
  exact List.mem_append_left [' ', '\n', '\t', '\r'] ends

theorem begins_cons {c : Char} (ascii : c.toNat < 128) (begins : Begins c) (text : List Char) :
    ∃ first tail, Text.encode (c :: text) = first :: tail ∧ Begins first :=
  ⟨c, Text.encode text, Text.encode_ascii_cons ascii text, begins⟩

theorem reads_text (text : String) : Reads wantedString (.text text) text where
  begins := by
    rw [print, quote, List.cons_append]
    exact begins_cons (by decide) (by decide) _
  reads rest _ := by
    rw [print, quote, List.cons_append, Text.encode_ascii_cons (by decide), Text.encode_append,
      Text.encode_ascii_cons (by decide), Text.encode_nil, List.cons_append, List.append_assoc,
      wantedString, bind_of_ok (peekSome_cons (by decide))]
    exact stringBody_flatMap text rest

theorem encode_ofInt (n : Int) :
    Text.encode (Decimal.ofInt n).toList = (Decimal.ofInt n).toList := by
  have digits (k : Nat) (c : Char) (member : c ∈ Nat.toDigits 10 k) : c.toNat < 128 :=
    ascii_of_isDigit (Decimal.isDigit_of_mem member)
  refine Text.encode_of_ascii fun c member => ?_
  cases n with
  | ofNat k =>
    rw [Decimal.ofInt, String.toList_ofList] at member
    exact digits k c member
  | negSucc k =>
    rw [Decimal.ofInt, String.toList_ofList] at member
    rcases List.mem_cons.mp member with rfl | member
    · decide
    · exact digits (k + 1) c member

theorem reads_ofInt32 (n : Int32) : Reads wantedInt32 (.ofInt32 n) n where
  begins := by
    obtain ⟨c, tail, written, -, begins⟩ := ofInt_eq_cons n.toInt
    rw [ofInt32, print, encode_ofInt]
    exact ⟨c, tail, written, begins⟩
  reads rest follows := by
    rw [ofInt32, print, encode_ofInt]
    exact wantedInt32_ofInt n follows

/-- The members of an array or object with commas between them, and its end. -/
def membersText (close : Char) : (first : Bool) → List (List Char) → List Char
  | _, [] => [close]
  | first, member :: rest => (if first then [] else [',']) ++ (member ++ membersText close false rest)

def arrayText (elements : List (List Char)) : List Char :=
  '[' :: membersText ']' true elements

def fieldText (field : String × List Char) : List Char :=
  quote field.1 ++ ':' :: field.2

/-- The text of an object with fields of these names and texts. -/
def objectText (fields : List (String × List Char)) : List Char :=
  '\x7b' :: membersText '\x7d' true (fields.map fieldText)

theorem printElements_eq (elements : List Json) :
    printElements elements = membersText ']' false (elements.map print) := by
  induction elements with
  | nil => rw [printElements]; rfl
  | cons element rest ih => rw [printElements, ih]; rfl

theorem printFields_eq (fields : List (String × Json)) :
    printFields fields = membersText '\x7d' false (fields.map fun field =>
      fieldText (field.1, field.2.print)) := by
  induction fields with
  | nil => rw [printFields]; rfl
  | cons field rest ih =>
    rw [printFields, ih]
    simp [membersText, fieldText]

theorem print_array (elements : List Json) :
    (Json.array elements).print = arrayText (elements.map print) := by
  cases elements with
  | nil => rw [print]; rfl
  | cons element rest => rw [print, printElements_eq]; rfl

theorem print_object (fields : List (String × Json)) :
    (Json.object fields).print = objectText (fields.map fun field => (field.1, field.2.print)) := by
  cases fields with
  | nil => rw [print]; rfl
  | cons field rest =>
    rw [print, printFields_eq]
    simp [objectText, membersText, fieldText, List.map_map, Function.comp_def]

theorem length_lt_membersText (close : Char) (members : List (List Char)) :
    members.length < (membersText close false members).length := by
  induction members with
  | nil => exact Nat.succ_pos 0
  | cons member rest ih =>
    rw [membersText, if_neg Bool.false_ne_true]
    simp only [List.length_cons, List.length_append]
    omega

/-- There is fuel for all members. -/
theorem length_le_encode_membersText (close : Char) (first : Bool) (members : List (List Char))
    (rest : List Char) :
    members.length ≤ (Text.encode (membersText close first members) ++ rest).length := by
  have bytes := Text.length_le_encode (membersText close first members)
  rw [List.length_append]
  cases members with
  | nil => exact Nat.zero_le _
  | cons member more =>
    have length := length_lt_membersText close more
    rw [membersText] at bytes ⊢
    simp only [List.length_cons, List.length_append] at bytes ⊢
    omega

theorem precedes_first (first : Bool) : Precedes first (if first then [] else [',']) := by
  cases first with
  | true => exact .first (List.forall_mem_nil _)
  | false => exact .later (List.forall_mem_nil _) (List.forall_mem_nil _)

/-- A value comes next, after a comma if it is not the first. -/
theorem another_gives {close : Char} (gives : Gives reader text outcome) (first : Bool)
    (other : ∀ c, Begins c → c ≠ close) (separate : ',' ≠ close) (rest : List Char) :
    another close first ((if first then [] else [',']) ++ (Text.encode text ++ rest)) =
      .ok (true, Text.encode text ++ rest) := by
  obtain ⟨c, tail, written, begins⟩ := gives.begins
  rw [written, List.cons_append]
  exact another_member (precedes_first first) begins.1 (other c begins) separate _

theorem encode_membersText_cons (close : Char) (first : Bool) (member : List Char)
    (members : List (List Char)) (rest : List Char) :
    Text.encode (membersText close first (member :: members)) ++ rest =
      (if first then [] else [',']) ++
        (Text.encode member ++ (Text.encode (membersText close false members) ++ rest)) := by
  rw [membersText, Text.encode_append, Text.encode_append, (precedes_first first).encode_eq,
    List.append_assoc, List.append_assoc]

theorem follows_membersText {close : Char} (ascii : close.toNat < 128)
    (ends : close ∈ [',', ']', '\x7d']) (members : List (List Char)) (rest : List Char) :
    Follows (Text.encode (membersText close false members) ++ rest) := by
  cases members with
  | nil =>
    rw [membersText, Text.encode_ascii_cons ascii]
    exact follows_of_mem ends
  | cons member members =>
    rw [encode_membersText_cons]
    exact follows_of_mem (by decide)

theorem elements_membersText {fuel : Nat} {texts : List (List Char)}
    {outcomes : List (Except ReadFault α)} (each : List.Forall₂ (Gives reader) texts outcomes)
    (enough : texts.length < fuel) (first : Bool) (rest : List Char) :
    elements reader fuel first (Text.encode (membersText ']' first texts) ++ rest) =
      (outcomes.mapM id).map fun values => (values, rest) := by
  induction each generalizing fuel first with
  | nil =>
    obtain ⟨fuel, rfl⟩ : ∃ n, fuel = n + 1 := ⟨fuel - 1, by omega⟩
    have last : another ']' first (']' :: rest) = .ok (false, ']' :: rest) :=
      another_close (List.forall_mem_nil _) (by decide) first rest
    rw [membersText, Text.encode_ascii_cons (by decide), Text.encode_nil, List.singleton_append,
      elements, bind_of_ok last, if_neg Bool.false_ne_true]
    rfl
  | @cons text outcome texts outcomes gives _ ih =>
    rw [List.length_cons] at enough
    obtain ⟨fuel, rfl⟩ : ∃ n, fuel = n + 1 := ⟨fuel - 1, by omega⟩
    have later := @ih fuel (by omega) false
    have follows : Follows (Text.encode (membersText ']' false texts) ++ rest) :=
      follows_membersText (by decide) (by decide) texts rest
    have read := gives.reads _ follows
    rw [encode_membersText_cons, elements,
      bind_of_ok (another_gives gives first (fun _ begins => begins.2.1) (by decide) _), if_pos rfl,
      List.mapM_cons]
    cases outcome with
    | error fault => exact bind_of_error read
    | ok value =>
      rw [bind_of_ok read]
      cases all : outcomes.mapM id with
      | error fault =>
        rw [all] at later
        exact bind_of_error later
      | ok values =>
        rw [all] at later
        exact map_of_ok later (value :: ·)

theorem gives_array {texts : List (List Char)} {outcomes : List (Except ReadFault α)}
    (each : List.Forall₂ (Gives reader) texts outcomes) :
    Gives (wantedArray reader) (arrayText texts) (outcomes.mapM id) where
  begins := begins_cons (by decide) (by decide) _
  reads rest _ := by
    have length := length_le_encode_membersText ']' true texts rest
    rw [arrayText, Text.encode_ascii_cons (by decide), List.cons_append, wantedArray,
      bind_of_ok (peekSome_cons (by decide))]
    exact elements_membersText each (Nat.lt_succ_of_le length) true rest

theorem mapM_ok (values : List α) :
    (values.map Except.ok).mapM id = (.ok values : Except ReadFault (List α)) := by
  induction values with
  | nil => rfl
  | cons value values ih => rw [List.map_cons, List.mapM_cons, ih]; rfl

/-- The first element that cannot be read decides. -/
theorem mapM_error (values : List α) (fault : ReadFault) (more : List (Except ReadFault α)) :
    (values.map Except.ok ++ Except.error fault :: more).mapM id = .error fault := by
  rw [List.mapM_append, mapM_ok, List.mapM_cons]
  rfl

theorem reads_array_map {γ : Type} {toJson : γ → Json} {f : γ → α}
    (each : ∀ x, Reads reader (toJson x) (f x)) (xs : List γ) :
    Reads (wantedArray reader) (.array (xs.map toJson)) (xs.map f) := by
  have all : List.Forall₂ (Gives reader) (xs.map fun x => (toJson x).print)
      ((xs.map f).map Except.ok) := by
    rw [List.map_map, List.forall₂_map_left_iff, List.forall₂_map_right_iff, List.forall₂_same]
    exact fun x _ => each x
  have given := gives_array all
  rw [mapM_ok] at given
  rw [Reads, print_array, List.map_map]
  exact given

/-- What becomes of a draft of a record by the fields of an object, of which each known one stands
there once. -/
inductive Fills (known : List (Field ρ)) :
    ρ → List (String × List Char) → Except ReadFault ρ → Prop where
  | none (draft : ρ) : Fills known draft [] (.ok draft)
  | field {draft : ρ} {outcome : Except ReadFault ρ} {name : String} {text : List Char}
    {rest : List (String × List Char)} {field : Field ρ} {change : ρ → ρ}
    (named : (known.find? fun field => field.name == name) = some field)
    (unset : field.isSet draft = false) (gives : Gives field.read text (.ok change))
    (later : Fills known (change draft) rest outcome) :
    Fills known draft ((name, text) :: rest) outcome
  | fault {draft : ρ} {fault : ReadFault} {name : String} {text : List Char}
    {rest : List (String × List Char)} {field : Field ρ}
    (named : (known.find? fun field => field.name == name) = some field)
    (unset : field.isSet draft = false) (gives : Gives field.read text (.error fault)) :
    Fills known draft ((name, text) :: rest) (.error fault)
  | unknown {draft : ρ} {outcome : Except ReadFault ρ} {name : String} {text : List Char}
    {rest : List (String × List Char)}
    (named : (known.find? fun field => field.name == name) = none) (value : IsValue text)
    (later : Fills known draft rest outcome) : Fills known draft ((name, text) :: rest) outcome

theorem fieldName_quote (name : String) (rest : List Char) :
    fieldName (Text.encode (quote name) ++ rest) = .ok (name, rest) := by
  rw [quote, List.cons_append, Text.encode_ascii_cons (by decide), Text.encode_append,
    Text.encode_ascii_cons (by decide), Text.encode_nil, List.cons_append, List.append_assoc,
    fieldName, bind_of_ok (peekSome_cons (by decide)), if_pos rfl, bind_advance]
  exact stringBody_flatMap name rest

theorem colon_cons (rest : List Char) : colon (':' :: rest) = .ok ((), rest) :=
  colon_blanks (List.forall_mem_nil _) rest

/-- A field comes next. -/
theorem objectFields_cons (known : List (Field ρ)) (fuel : Nat) (first : Bool) (draft : ρ)
    (name : String) (text : List Char) (more : List (List Char)) (rest : List Char) :
    objectFields known (fuel + 1) first draft
        (Text.encode (membersText '\x7d' first (fieldText (name, text) :: more)) ++ rest) =
      (match known.find? fun field => field.name == name with
        | some field => do
          if field.isSet draft then throw .unfit
          colon
          let change ← field.read
          objectFields known fuel false (change draft)
        | none => do
          colon
          skip
          objectFields known fuel false draft : Reader ρ)
        (':' :: (Text.encode text ++ (Text.encode (membersText '\x7d' false more) ++ rest))) := by
  have front : Text.encode (fieldText (name, text)) =
      Text.encode (quote name) ++ ':' :: Text.encode text := by
    rw [fieldText, Text.encode_append, Text.encode_ascii_cons (by decide)]
  have member : another '\x7d' first ((if first then [] else [',']) ++ (Text.encode (quote name) ++
      (':' :: (Text.encode text ++ (Text.encode (membersText '\x7d' false more) ++ rest))))) =
        .ok (true, Text.encode (quote name) ++ (':' :: (Text.encode text ++
          (Text.encode (membersText '\x7d' false more) ++ rest)))) := by
    rw [quote, List.cons_append, Text.encode_ascii_cons (by decide)]
    exact another_member (precedes_first first) (by decide) (by decide) (by decide) _
  rw [encode_membersText_cons, front, List.append_assoc, List.cons_append, objectFields,
    bind_of_ok member, if_pos rfl]
  exact bind_of_ok (fieldName_quote name _)

theorem objectFields_membersText {known : List (Field ρ)} {draft : ρ}
    {fields : List (String × List Char)} {outcome : Except ReadFault ρ}
    (fills : Fills known draft fields outcome) {fuel : Nat} (enough : fields.length < fuel)
    (first : Bool) (rest : List Char) :
    objectFields known fuel first draft
        (Text.encode (membersText '\x7d' first (fields.map fieldText)) ++ rest) =
      outcome.map fun draft => (draft, rest) := by
  obtain ⟨fuel, rfl⟩ : ∃ n, fuel = n + 1 := ⟨fuel - 1, by omega⟩
  have follows (fields : List (String × List Char)) :
      Follows (Text.encode (membersText '\x7d' false (fields.map fieldText)) ++ rest) :=
    follows_membersText (by decide) (by decide) _ rest
  induction fills generalizing fuel first with
  | none draft =>
    have last : another '\x7d' first ('\x7d' :: rest) = .ok (false, '\x7d' :: rest) :=
      another_close (List.forall_mem_nil _) (by decide) first rest
    rw [List.map_nil, membersText, Text.encode_ascii_cons (by decide), Text.encode_nil,
      List.singleton_append, objectFields, bind_of_ok last, if_neg Bool.false_ne_true]
    rfl
  | field named unset gives later ih =>
    rw [List.length_cons] at enough
    obtain ⟨fuel, rfl⟩ : ∃ n, fuel = n + 1 := ⟨fuel - 1, by omega⟩
    rw [List.map_cons, objectFields_cons, named]
    simp only [unset]
    rw [if_neg Bool.false_ne_true, bind_of_ok (colon_cons _), bind_of_ok (gives.reads _ (follows _))]
    exact ih false fuel (by omega)
  | fault named unset gives =>
    rw [List.map_cons, objectFields_cons, named]
    simp only [unset]
    rw [if_neg Bool.false_ne_true, bind_of_ok (colon_cons _)]
    exact bind_of_error (gives.reads _ (follows _))
  | unknown named value later ih =>
    rw [List.length_cons] at enough
    obtain ⟨fuel, rfl⟩ : ∃ n, fuel = n + 1 := ⟨fuel - 1, by omega⟩
    rw [List.map_cons, objectFields_cons, named]
    simp only
    rw [bind_of_ok (colon_cons _), bind_of_ok (skip_append value.encode (follows _))]
    exact ih false fuel (by omega)

/-- What a record is read as from such a draft. -/
def Shape.finished (shape : Shape ρ α) (draft : ρ) : Except ReadFault α :=
  match shape.finish draft with
  | some record => .ok record
  | none => .error .unfit

theorem wantedRecord_open (shape : Shape ρ α) (rest : List Char) :
    wantedRecord shape ('\x7b' :: rest) = (do
      let draft ← objectFields shape.fields (rest.length + 1) true shape.blank
      match shape.finish draft with
      | some record => pure record
      | none => throw .unfit : Reader α) rest := by
  rw [wantedRecord, bind_of_ok (peekSome_cons (by decide))]
  rfl

theorem gives_record {shape : Shape ρ α} {fields : List (String × List Char)}
    {outcome : Except ReadFault ρ} (fills : Fills shape.fields shape.blank fields outcome) :
    Gives (wantedRecord shape) (objectText fields) (outcome.bind shape.finished) where
  begins := begins_cons (by decide) (by decide) _
  reads rest _ := by
    have length := length_le_encode_membersText '\x7d' true (fields.map fieldText) rest
    rw [List.length_map] at length
    have read := objectFields_membersText fills (Nat.lt_succ_of_le length) true rest
    rw [objectText, Text.encode_ascii_cons (by decide), List.cons_append, wantedRecord_open]
    cases outcome with
    | error fault => exact bind_of_error read
    | ok draft =>
      rw [bind_of_ok read, Except.bind, Shape.finished]
      cases shape.finish draft <;> rfl

theorem reads_record {shape : Shape ρ α} {fields : List (String × Json)} {final : ρ}
    (fills : Fills shape.fields shape.blank (fields.map fun field => (field.1, field.2.print))
      (.ok final)) (done : shape.finish final = some value) :
    Reads (wantedRecord shape) (.object fields) value := by
  have given := gives_record fills
  rw [Except.bind, Shape.finished, done] at given
  rw [Reads, print_object]
  exact given

theorem Gives.readDocument (gives : Gives reader text outcome) :
    readDocument reader (String.ofList text) = outcome := by
  have all := gives.reads [] (by rintro _ ⟨⟩)
  rw [List.append_nil] at all
  rw [Json.readDocument, readBytes, Text.map_ofByte_toUTF8]
  cases outcome with
  | error fault => rw [bind_of_error all]
  | ok value =>
    rw [bind_of_ok all]
    rfl

theorem readDocument_print (reads : Reads reader json value) :
    readDocument reader (String.ofList json.print) = .ok value :=
  Gives.readDocument reads

end ListKeeper.Json
