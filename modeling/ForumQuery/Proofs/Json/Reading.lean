import ForumQuery.Proofs.Json.Lexemes

/-!
# Reading — a value that is written is read back

Both printed forms of a value spell the same lexemes (`Json.lexemes`): without any blank
(`Json.Plain.writes_render`), and with a line for each item (`Json.Plain.writes_prettyAt`).
Lexemes are taken one by one, and those of a value lead from wherever a value is wanted to where it
has been read (`Json.Plain.leads`).

So a value is read back from either form (`Json.Plain.parse?_compact`, `Json.Plain.parse?_pretty`),
if it is `Plain`: made of texts of whole characters and of integers.  Then no two values are
written alike.
-/

namespace ForumQuery

namespace Json

/-! ### The lexemes of a value -/

mutual

/-- The lexemes of a value. -/
def lexemes : Json → List Lexeme
  | scalar value => [.scalar value]
  | array [] => [.mark .openArray, .mark .closeArray]
  | array (item :: rest) =>
    .mark .openArray :: (lexemes item ++ (itemLexemes rest ++ [.mark .closeArray]))
  | object [] => [.mark .openObject, .mark .closeObject]
  | object ((name, value) :: rest) =>
    .mark .openObject :: .scalar (.text name) :: .mark .colon ::
      (lexemes value ++ (fieldLexemes rest ++ [.mark .closeObject]))

/-- The lexemes of the items after the first. -/
def itemLexemes : List Json → List Lexeme
  | [] => []
  | item :: rest => .mark .comma :: (lexemes item ++ itemLexemes rest)

/-- The lexemes of the fields after the first. -/
def fieldLexemes : List (Text × Json) → List Lexeme
  | [] => []
  | (name, value) :: rest =>
    .mark .comma :: .scalar (.text name) :: .mark .colon :: (lexemes value ++ fieldLexemes rest)

end

/-! ### Writing spells them -/

/-- A value that is made of texts of whole characters and of integers. -/
inductive Plain : Json → Prop where
  | scalar {value : Scalar} : value.Plain → Plain (scalar value)
  | array {items : List Json} : (∀ item ∈ items, Plain item) → Plain (array items)
  | object {fields : List (Text × Json)} :
      (∀ field ∈ fields, field.1.Plain) → (∀ field ∈ fields, Plain field.2) →
      Plain (object fields)

theorem plain_string (text : String) : (string text).Plain := .scalar trivial

theorem plain_int (value : Int) : (int value).Plain := .scalar trivial

theorem plain_array {α : Type} {f : α → Json} (h : ∀ a, (f a).Plain) (items : List α) :
    (array (items.map f)).Plain :=
  .array (List.forall_mem_map.2 fun a _ => h a)

theorem plain_record {fields : List (String × Json)} (h : ∀ field ∈ fields, field.2.Plain) :
    (record fields).Plain :=
  .object (List.forall_mem_map.2 fun _ _ => trivial) (List.forall_mem_map.2 h)

theorem plain_singleton {name : String} {v : Json} (h : v.Plain) :
    ∀ field ∈ [(name, v)], field.2.Plain :=
  List.forall_mem_singleton.2 h

theorem plain_pair {name other : String} {u v : Json} (hu : u.Plain) (hv : v.Plain) :
    ∀ field ∈ [(name, u), (other, v)], field.2.Plain :=
  List.forall_mem_cons.2 ⟨hu, plain_singleton hv⟩

/-- Some characters are a way to write a value, whatever stands behind them. -/
def Writes (written : List Char) (value : Json) : Prop :=
  ∀ {cs : List Char} {ls : List Lexeme}, Stops cs → Spells cs ls →
    Spells (written ++ cs) (lexemes value ++ ls)

theorem spells_name {name : Text} (hname : name.Plain) {cs : List Char} {ls : List Lexeme}
    (h : Spells cs ls) :
    Spells (name.spelling ++ ':' :: cs) (.scalar (.text name) :: .mark .colon :: ls) :=
  .scalar (.text name) hname (stops_cons.2 rfl) (.mark .colon h)

section Render

variable {cs : List Char} {ls : List Lexeme}

theorem spells_renderItems {item : Json} {rest : List Json} (hitem : Writes (render item) item)
    (hrest : ∀ each ∈ rest, Writes (render each) each) (hstops : Stops cs) (h : Spells cs ls) :
    Spells (renderItems (item :: rest) ++ cs) (lexemes item ++ (itemLexemes rest ++ ls)) := by
  induction rest generalizing item with
  | nil =>
      rw [renderItems]
      exact hitem hstops h
  | cons next rest ih =>
      obtain ⟨hnext, hrest⟩ := List.forall_mem_cons.1 hrest
      rw [renderItems, itemLexemes]
      · simp only [List.cons_append, List.append_assoc]
        exact hitem (stops_cons.2 rfl) (.mark .comma (ih hnext hrest))
      · exact List.cons_ne_nil _ _

theorem spells_renderFields {name : Text} {value : Json} {rest : List (Text × Json)}
    (hname : name.Plain) (hvalue : Writes (render value) value)
    (hnames : ∀ field ∈ rest, field.1.Plain)
    (hvalues : ∀ field ∈ rest, Writes (render field.2) field.2) (hstops : Stops cs)
    (h : Spells cs ls) :
    Spells (renderFields ((name, value) :: rest) ++ cs)
      (.scalar (.text name) :: .mark .colon :: (lexemes value ++ (fieldLexemes rest ++ ls))) := by
  induction rest generalizing name value with
  | nil =>
      rw [renderFields, List.append_assoc, List.cons_append]
      exact spells_name hname (hvalue hstops h)
  | cons next rest ih =>
      obtain ⟨hnext, hnames⟩ := List.forall_mem_cons.1 hnames
      obtain ⟨hother, hvalues⟩ := List.forall_mem_cons.1 hvalues
      rw [renderFields, fieldLexemes]
      · simp only [List.cons_append, List.append_assoc]
        refine spells_name hname (hvalue (stops_cons.2 rfl) (.mark .comma ?_))
        exact ih hnext hother hnames hvalues
      · exact List.cons_ne_nil _ _

end Render

/-- **A value without blanks spells its lexemes.** -/
theorem Plain.writes_render {value : Json} (h : value.Plain) : Writes (render value) value := by
  induction h with
  | scalar hvalue =>
      intro cs ls hstops h
      rw [render]
      exact .scalar _ hvalue hstops h
  | @array items _ ih =>
      intro cs ls _ h
      cases items with
      | nil => exact .mark .openArray (.mark .closeArray h)
      | cons item rest =>
          obtain ⟨hitem, hrest⟩ := List.forall_mem_cons.1 ih
          rw [render, lexemes]
          simp only [List.cons_append, List.append_assoc]
          refine .mark .openArray (spells_renderItems hitem hrest (stops_cons.2 rfl) ?_)
          exact .mark .closeArray h
  | @object fields hnames _ ih =>
      intro cs ls _ h
      match fields with
      | [] => exact .mark .openObject (.mark .closeObject h)
      | (name, value) :: rest =>
          obtain ⟨hname, hnames⟩ := List.forall_mem_cons.1 hnames
          obtain ⟨hvalue, hvalues⟩ := List.forall_mem_cons.1 ih
          rw [render, lexemes]
          simp only [List.cons_append, List.append_assoc]
          refine .mark .openObject
            (spells_renderFields hname hvalue hnames hvalues (stops_cons.2 rfl) ?_)
          exact .mark .closeObject h

/-! ### Lines -/

section Pretty

variable {cs : List Char} {ls : List Lexeme}

theorem spells_newline (depth : Nat) (h : Spells cs ls) : Spells (newline depth ++ cs) ls := by
  refine .space rfl ?_
  induction 2 * depth with
  | zero => exact h
  | succ n ih => exact .space rfl ih

theorem stops_newline (depth : Nat) (cs : List Char) : Stops (newline depth ++ cs) :=
  stops_cons.2 rfl

theorem stops_prettyItems (depth : Nat) (items : List Json) (hstops : Stops cs) :
    Stops (prettyItems depth items ++ cs) := by
  cases items with
  | nil => exact hstops
  | cons => exact stops_cons.2 rfl

theorem spells_prettyItems {depth : Nat} {items : List Json}
    (hitems : ∀ item ∈ items, Writes (prettyAt depth item) item) (hstops : Stops cs)
    (h : Spells cs ls) : Spells (prettyItems depth items ++ cs) (itemLexemes items ++ ls) := by
  induction items with
  | nil => exact h
  | cons item rest ih =>
      obtain ⟨hitem, hrest⟩ := List.forall_mem_cons.1 hitems
      rw [prettyItems, itemLexemes]
      simp only [List.cons_append, List.append_assoc]
      refine .mark .comma (spells_newline depth (hitem ?_ (ih hrest)))
      exact stops_prettyItems depth rest hstops

theorem stops_prettyFields (depth : Nat) (fields : List (Text × Json)) (hstops : Stops cs) :
    Stops (prettyFields depth fields ++ cs) := by
  match fields with
  | [] => exact hstops
  | (_, _) :: _ => exact stops_cons.2 rfl

theorem spells_prettyFields {depth : Nat} {fields : List (Text × Json)}
    (hnames : ∀ field ∈ fields, field.1.Plain)
    (hvalues : ∀ field ∈ fields, Writes (prettyAt depth field.2) field.2) (hstops : Stops cs)
    (h : Spells cs ls) : Spells (prettyFields depth fields ++ cs) (fieldLexemes fields ++ ls) := by
  induction fields with
  | nil => exact h
  | cons field rest ih =>
      obtain ⟨name, value⟩ := field
      obtain ⟨hname, hnames⟩ := List.forall_mem_cons.1 hnames
      obtain ⟨hvalue, hvalues⟩ := List.forall_mem_cons.1 hvalues
      rw [prettyFields, fieldLexemes]
      simp only [List.cons_append, List.append_assoc]
      refine .mark .comma (spells_newline depth (spells_name hname (.space rfl (hvalue ?_ ?_))))
      · exact stops_prettyFields depth rest hstops
      · exact ih hnames hvalues

end Pretty

/-- **A value with a line for each item spells its lexemes.** -/
theorem Plain.writes_prettyAt {value : Json} (h : value.Plain) (depth : Nat) :
    Writes (prettyAt depth value) value := by
  induction h generalizing depth with
  | scalar hvalue =>
      intro cs ls hstops h
      rw [prettyAt]
      exact .scalar _ hvalue hstops h
  | @array items _ ih =>
      intro cs ls _ h
      cases items with
      | nil => exact .mark .openArray (.mark .closeArray h)
      | cons item rest =>
          obtain ⟨hitem, hrest⟩ := List.forall_mem_cons.1 ih
          have hclose := spells_newline depth (.mark .closeArray h)
          have hstops := stops_newline depth (']' :: cs)
          rw [prettyAt, lexemes]
          simp only [List.cons_append, List.append_assoc]
          refine .mark .openArray (spells_newline (depth + 1) (hitem (depth + 1) ?_ ?_))
          · exact stops_prettyItems (depth + 1) rest hstops
          · exact spells_prettyItems (fun each heach => hrest each heach (depth + 1)) hstops hclose
  | @object fields hnames _ ih =>
      intro cs ls _ h
      match fields with
      | [] => exact .mark .openObject (.mark .closeObject h)
      | (name, value) :: rest =>
          obtain ⟨hname, hnames⟩ := List.forall_mem_cons.1 hnames
          obtain ⟨hvalue, hvalues⟩ := List.forall_mem_cons.1 ih
          have hclose := spells_newline depth (.mark .closeObject h)
          have hstops := stops_newline depth ('\x7d' :: cs)
          rw [prettyAt, lexemes]
          simp only [List.cons_append, List.append_assoc]
          refine .mark .openObject (spells_newline (depth + 1)
            (spells_name hname (.space rfl (hvalue (depth + 1) ?_ ?_))))
          · exact stops_prettyFields (depth + 1) rest hstops
          · exact spells_prettyFields hnames
              (fun field hfield => hvalues field hfield (depth + 1)) hstops hclose

/-! ### Reading takes them -/

open State

/-- The lexemes of a value lead from where it is wanted to where it has been read. -/
def Leads (value : Json) : Prop :=
  ∀ (frames : List Frame) (rest : List Lexeme),
    takeAll (.value frames) (lexemes value ++ rest) = takeAll (.after value frames) rest

/-- Where an array has been opened, its first item is wanted like any other. -/
theorem takeAll_firstItem (value : Json) (frames : List Frame) (rest : List Lexeme) :
    takeAll (.firstItem frames) (lexemes value ++ rest) =
      takeAll (.value (.items [] :: frames)) (lexemes value ++ rest) := by
  match value with
  | .scalar _ | .array [] | .array (_ :: _) | .object [] | .object ((_, _) :: _) => rfl

theorem takeAll_itemLexemes {items : List Json} (hitems : ∀ item ∈ items, Leads item)
    (done : List Json) (item : Json) (frames : List Frame) (rest : List Lexeme) :
    takeAll (.after item (.items done :: frames))
        (itemLexemes items ++ .mark .closeArray :: rest) =
      takeAll (.after (.array (done.reverse ++ item :: items)) frames) rest := by
  induction items generalizing done item with
  | nil =>
      rw [← List.reverse_cons]
      rfl
  | cons next items ih =>
      obtain ⟨hnext, hitems⟩ := List.forall_mem_cons.1 hitems
      rw [itemLexemes, List.cons_append, List.append_assoc]
      refine (hnext (.items (item :: done) :: frames) _).trans ?_
      rw [ih hitems, List.reverse_cons, List.append_assoc, List.singleton_append]

theorem takeAll_fieldLexemes {fields : List (Text × Json)}
    (hfields : ∀ field ∈ fields, Leads field.2) (done : List (Text × Json)) (name : Text)
    (value : Json) (frames : List Frame) (rest : List Lexeme) :
    takeAll (.after value (.fields done name :: frames))
        (fieldLexemes fields ++ .mark .closeObject :: rest) =
      takeAll (.after (.object (done.reverse ++ (name, value) :: fields)) frames) rest := by
  induction fields generalizing done name value with
  | nil =>
      rw [← List.reverse_cons]
      rfl
  | cons field fields ih =>
      obtain ⟨other, next⟩ := field
      obtain ⟨hnext, hfields⟩ := List.forall_mem_cons.1 hfields
      rw [fieldLexemes, List.cons_append, List.cons_append, List.cons_append, List.append_assoc]
      refine (hnext (.fields ((name, value) :: done) other :: frames) _).trans ?_
      rw [ih hfields, List.reverse_cons, List.append_assoc, List.singleton_append]

theorem Plain.leads {value : Json} (h : value.Plain) : Leads value := by
  induction h with
  | scalar => exact fun _ _ => rfl
  | @array items _ ih =>
      intro frames rest
      cases items with
      | nil => rfl
      | cons item items =>
          obtain ⟨hitem, hitems⟩ := List.forall_mem_cons.1 ih
          rw [lexemes, List.cons_append, List.append_assoc, List.append_assoc]
          refine (takeAll_firstItem item frames _).trans ((hitem _ _).trans ?_)
          exact takeAll_itemLexemes hitems [] item frames rest
  | @object fields _ _ ih =>
      intro frames rest
      match fields with
      | [] => rfl
      | (name, value) :: fields =>
          obtain ⟨hvalue, hfields⟩ := List.forall_mem_cons.1 ih
          rw [lexemes, List.cons_append, List.cons_append, List.cons_append, List.append_assoc,
            List.append_assoc]
          refine (hvalue (.fields [] name :: frames) _).trans ?_
          exact takeAll_fieldLexemes hfields [] name value frames rest

/-! ### There and back -/

theorem Plain.parse?_of_writes {value : Json} (h : value.Plain) {written : List Char}
    (hwrites : Writes written value) : parse? (String.ofList written) = some value := by
  have hlex : lex written = some (lexemes value) := by
    have hspells : Spells (written ++ []) (lexemes value ++ []) := hwrites stops_nil .nil
    rw [List.append_nil, List.append_nil] at hspells
    exact hspells.lex_eq
  have htake : takeAll (.value []) (lexemes value) = some (.after value []) := by
    have hleads := h.leads [] []
    rwa [List.append_nil] at hleads
  rw [parse?, String.toList_ofList, hlex]
  change ofLexemes? (lexemes value) = some value
  rw [ofLexemes?, htake]

/-- **A value that is written without blanks is read back.** -/
theorem Plain.parse?_compact {value : Json} (h : value.Plain) :
    parse? value.compact = some value :=
  h.parse?_of_writes h.writes_render

/-- **A value that is written with a line for each item is read back.** -/
theorem Plain.parse?_pretty {value : Json} (h : value.Plain) :
    parse? value.pretty = some value :=
  h.parse?_of_writes (h.writes_prettyAt 0)

end Json

end ForumQuery
