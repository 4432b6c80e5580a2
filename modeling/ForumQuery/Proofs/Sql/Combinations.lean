import ForumQuery.Sql.Semantics
import ForumQuery.Proofs.Distinct

/-!
# Combinations — what joins find

A join finds *partners* for a row of topics (`Join.partners`): the rows of its table that meet its
conditions, or a row of nulls where a left join finds none.  Joins are *apart* when no two go by the
same name and each reads nothing but the topic and its own row (`Apart`).  Then they do not
influence each other: a combination of all of them is a topic with a partner of each
(`mem_combinations_iff`), so a selection gives a topic if and only if some choice of partners meets
its conditions (`Select.mem_run_iff`).

A topic is given twice only if some join has two partners for it that both are fit for the
conditions (`Singles`, `Select.nodup_run`).
-/

namespace ForumQuery.Sql

/-! ### The columns that a condition reads -/

/-- The columns of a side of a comparison. -/
def Operand.columns : Operand → List Column
  | column c => [c]
  | bound _ => []

/-- The columns that a condition reads from the combination. -/
def Condition.columns : Condition → List Column
  | never => []
  | flag _ column | isNull _ column | oneOf column _ | notSelected column _ _ _ => [column]
  | compare _ left right => left.columns ++ right.columns
  | someNull columns => columns

/-- Conditions read nothing but the topic and the rows of some names. -/
def Reads (names : List String) (conditions : List Condition) : Prop :=
  ∀ condition ∈ conditions, ∀ column ∈ condition.columns,
    column.table = "topics" ∨ column.table ∈ names

variable {database : Database}

theorem Operand.cell_congr {operand : Operand} {c d : Combination}
    (h : ∀ column ∈ operand.columns, c.cell column = d.cell column) :
    operand.cell c = operand.cell d := by
  cases operand with
  | column column => exact h column (List.mem_singleton_self column)
  | bound _ => rfl

/-- Two combinations that agree in the columns of a condition agree in its truth value. -/
theorem Condition.truth_congr {condition : Condition} {c d : Combination}
    (h : ∀ column ∈ condition.columns, c.cell column = d.cell column) :
    condition.truth database c = condition.truth database d := by
  cases condition with
  | never => rfl
  | flag _ column | isNull _ column | oneOf column _ | notSelected column _ _ _ =>
      simp only [truth, h column (List.mem_singleton_self column)]
  | compare _ left right =>
      have hleft := Operand.cell_congr fun column hc => h column (List.mem_append_left _ hc)
      have hright := Operand.cell_congr fun column hc => h column (List.mem_append_right _ hc)
      simp only [truth, hleft, hright]
  | someNull columns =>
      have hany : (columns.any fun column => (c.cell column).isNone) =
          columns.any fun column => (d.cell column).isNone := by
        rw [Bool.eq_iff_iff, List.any_eq_true, List.any_eq_true]
        exact exists_congr fun column => and_congr_right fun hc => by rw [h column hc]
      simp only [truth, hany]

/-- Two combinations that agree in the topic and the rows that conditions read. -/
theorem meets_congr {names : List String} {conditions : List Condition}
    (hreads : Reads names conditions) {c d : Combination} (htopic : c.topic = d.topic)
    (hrows : ∀ name ∈ names, c.row name = d.row name) :
    meets database conditions c = meets database conditions d := by
  rw [Bool.eq_iff_iff, meets, meets, List.all_eq_true, List.all_eq_true]
  refine forall₂_congr fun condition hc => ?_
  rw [Condition.truth_congr fun column hcol => ?_]
  rcases hreads condition hc column hcol with h | h
  · simp [Combination.cell, Combination.row, h, htopic]
  · rw [Combination.cell, Combination.cell, hrows _ h]

/-! ### One join -/

/-- The name that the rows of a join go by. -/
def Join.name (join : Join) : String := join.label.getD join.table

/-- What a join keeps of the rows that it finds: a left join that finds none has a row of nulls. -/
def JoinKind.keep : JoinKind → List Row → List Row
  | left, [] => [fun _ => none]
  | _, found => found

/-- The rows that a join finds for a topic. -/
def Join.partners (database : Database) (topic : TopicRow) (join : Join) : List Row :=
  join.kind.keep <| (database.rows join.table).filter fun row =>
    meets database join.conditions ⟨topic, [(join.name, row)]⟩

/-- A join that does not look at other joins. -/
structure Join.Alone (join : Join) : Prop where
  name_ne : join.name ≠ "topics"
  reads : Reads [join.name] join.conditions

theorem Combination.row_extend {c : Combination} {name : String} {row : Row}
    (hfresh : name ∉ c.joined.map Prod.fst) (hne : name ≠ "topics") :
    (c.extend name row).row name = row := by
  have hnone : c.joined.find? (fun pair => decide (pair.1 = name)) = none :=
    List.find?_eq_none.2 fun pair hp => by
      simpa using fun e => hfresh (List.mem_map.2 ⟨pair, hp, e⟩)
  simp [Combination.row, extend, hne, List.find?_append, hnone]

theorem Combination.row_extend_of_ne {c : Combination} {name other : String} {row : Row}
    (hne : other ≠ name) : (c.extend name row).row other = c.row other := by
  simp [Combination.row, extend, List.find?_append, hne.symm]

/-- A join that does not look at others extends every combination by the partners of its topic. -/
theorem Join.extend_eq {join : Join} (h : join.Alone) {c : Combination}
    (hfresh : join.name ∉ c.joined.map Prod.fst) :
    join.extend database c = (join.partners database c.topic).map (c.extend join.name) := by
  have hmeets : ∀ row, meets database join.conditions (c.extend join.name row) =
      meets database join.conditions ⟨c.topic, [(join.name, row)]⟩ := by
    refine fun row => meets_congr h.reads rfl fun name hname => ?_
    rw [List.mem_singleton.1 hname, Combination.row_extend hfresh h.name_ne]
    simp [Combination.row, h.name_ne]
  have hfound : ((database.rows join.table).map (c.extend join.name)).filter
        (meets database join.conditions) =
      ((database.rows join.table).filter fun row =>
        meets database join.conditions ⟨c.topic, [(join.name, row)]⟩).map (c.extend join.name) := by
    rw [List.filter_map]
    exact congrArg _ (List.filter_congr fun row _ => hmeets row)
  rw [extend, ← name, hfound, partners]
  generalize (database.rows join.table).filter _ = found
  rcases join.kind with _ | _
  · rfl
  · cases found <;> rfl

/-! ### All the joins -/

/-- Joins with names of their own, none of which looks at another. -/
structure Apart (joins : List Join) : Prop where
  alone : ∀ join ∈ joins, join.Alone
  nodup : (joins.map Join.name).Nodup

/-- A topic with a row for each join. -/
def Combination.ofRows (topic : TopicRow) (joins : List Join) (rows : String → Row) :
    Combination :=
  ⟨topic, joins.map fun join => (join.name, rows join.name)⟩

variable {joins : List Join} {join : Join} {rows : String → Row} {topic : TopicRow}

theorem Apart.of_append {last : List Join} (h : Apart (joins ++ last)) : Apart joins :=
  ⟨fun join hj => h.alone join (List.mem_append_left _ hj),
    (List.map_append ▸ h.nodup : (joins.map Join.name ++ _).Nodup).of_append_left⟩

theorem Apart.name_notMem (h : Apart (joins ++ [join])) : join.name ∉ joins.map Join.name := by
  have hn := h.nodup
  rw [List.map_append, List.nodup_append] at hn
  exact fun hmem => hn.2.2 _ hmem _ (List.mem_singleton_self _) rfl

namespace Combination

theorem map_fst_ofRows : (ofRows topic joins rows).joined.map Prod.fst = joins.map Join.name := by
  rw [ofRows, List.map_map]
  rfl

theorem row_ofRows (hne : join.name ≠ "topics") (hj : join ∈ joins) :
    (ofRows topic joins rows).row join.name = rows join.name := by
  rw [row, if_neg hne, ofRows]
  cases hf : (joins.map fun join => (join.name, rows join.name)).find? (·.1 = join.name) with
  | none =>
      have := List.find?_eq_none.1 hf _ (List.mem_map_of_mem hj)
      simp at this
  | some pair =>
      obtain ⟨other, -, rfl⟩ := List.mem_map.1 (List.mem_of_find?_eq_some hf)
      have hname : other.name = join.name := by simpa using List.find?_some hf
      simp [hname]

/-- Only the rows of the joins' names matter. -/
theorem ofRows_congr {rows' : String → Row} (h : ∀ join ∈ joins, rows join.name = rows' join.name) :
    ofRows topic joins rows = ofRows topic joins rows' :=
  congrArg (mk topic) (List.map_congr_left fun join hj => by rw [h join hj])

theorem extend_ofRows : (ofRows topic joins rows).extend join.name (rows join.name) =
    ofRows topic (joins ++ [join]) rows := by
  simp [ofRows, extend]

end Combination

namespace Select

theorem combinations_append (distinct : Bool) (joins : List Join) (join : Join)
    (conditions : List Condition) :
    combinations database ⟨distinct, joins ++ [join], conditions⟩ =
      (combinations database ⟨distinct, joins, conditions⟩).flatMap (join.extend database) := by
  rw [combinations, List.foldl_append]
  rfl

end Select

/-- A row can be chosen for each join on its own. -/
theorem exists_rows {P : Join → Row → Prop} (hnodup : (joins.map Join.name).Nodup)
    (h : ∀ join ∈ joins, ∃ row, P join row) :
    ∃ rows : String → Row, ∀ join ∈ joins, P join (rows join.name) := by
  induction joins with
  | nil => exact ⟨fun _ _ => none, fun _ hj => absurd hj List.not_mem_nil⟩
  | cons first rest ih =>
      rw [List.map_cons, List.nodup_cons] at hnodup
      rw [List.forall_mem_cons] at h
      obtain ⟨row, hrow⟩ := h.1
      obtain ⟨rows, hrows⟩ := ih hnodup.2 h.2
      refine ⟨Function.update rows first.name row, List.forall_mem_cons.2 ⟨?_, fun join hj => ?_⟩⟩
      · rwa [Function.update_self]
      · have hne : join.name ≠ first.name :=
          fun e => hnodup.1 (List.mem_map.2 ⟨join, hj, e⟩)
        rw [Function.update_of_ne hne]
        exact hrows join hj

/-- **A combination is a topic with a partner of each join**, the joins being apart. -/
theorem mem_combinations_iff {distinct : Bool} {conditions : List Condition} (h : Apart joins)
    {c : Combination} :
    c ∈ Select.combinations database ⟨distinct, joins, conditions⟩ ↔
      c.topic ∈ database.topics ∧ ∃ rows : String → Row,
        (∀ join ∈ joins, rows join.name ∈ join.partners database c.topic) ∧
          c = .ofRows c.topic joins rows := by
  induction joins using List.reverseRecOn generalizing c with
  | nil =>
      refine List.mem_map.trans ⟨?_, ?_⟩
      · rintro ⟨topic, ht, rfl⟩
        exact ⟨ht, fun _ _ => none, by simp, rfl⟩
      · rintro ⟨ht, _, -, hc⟩
        exact ⟨c.topic, ht, hc.symm⟩
  | append_singleton joins join ih =>
      have hfresh := h.name_notMem
      have hextend : ∀ topic rows, join.extend database (.ofRows topic joins rows) =
          (join.partners database topic).map
            ((Combination.ofRows topic joins rows).extend join.name) := by
        refine fun topic rows => Join.extend_eq (h.alone join (by simp)) ?_
        rwa [Combination.map_fst_ofRows]
      rw [Select.combinations_append, List.mem_flatMap]
      constructor
      · rintro ⟨d, hd, hc⟩
        obtain ⟨ht, rows, hrows, he⟩ := (ih h.of_append).1 hd
        rw [he, hextend] at hc
        obtain ⟨row, hrow, rfl⟩ := List.mem_map.1 hc
        -- the new row goes by a name that no earlier join has
        have hsame : ∀ other ∈ joins,
            Function.update rows join.name row other.name = rows other.name :=
          fun other ho =>
            Function.update_of_ne (fun e => hfresh (List.mem_map.2 ⟨other, ho, e⟩)) _ _
        refine ⟨ht, Function.update rows join.name row, fun other ho => ?_, ?_⟩
        · rcases List.mem_append.1 ho with ho | ho
          · rw [hsame other ho]
            exact hrows other ho
          · rw [List.mem_singleton.1 ho, Function.update_self]
            exact hrow
        · rw [← Combination.extend_ofRows, Function.update_self,
            Combination.ofRows_congr hsame]
          rfl
      · rintro ⟨ht, rows, hrows, hc⟩
        refine ⟨.ofRows c.topic joins rows,
          (ih h.of_append).2 ⟨ht, rows, fun other ho => ?_, rfl⟩, ?_⟩
        · exact hrows other (List.mem_append_left _ ho)
        · rw [hextend, hc, ← Combination.extend_ofRows]
          exact List.mem_map_of_mem (hrows join (by simp))

/-! ### The topics that are given -/

/-- Rows that are fit tell the partners of a join apart, and conditions ask for rows that are. -/
structure Singles (database : Database) (select : Select) (fit : String → Row → Prop) : Prop where
  partners : ∀ topic, ∀ join ∈ select.joins, (join.partners database topic).Pairwise fun a b =>
    ¬ (fit join.name a ∧ fit join.name b)
  conditions : ∀ topic rows,
    meets database select.conditions (.ofRows topic select.joins rows) = true →
      ∀ join ∈ select.joins, fit join.name (rows join.name)

namespace Select

variable {select : Select}

/-- **The topics that a selection gives**, its joins being apart. -/
theorem mem_run_iff (h : Apart select.joins) {row : TopicRow} :
    row ∈ select.run database ↔
      row ∈ database.topics ∧ ∃ rows : String → Row,
        (∀ join ∈ select.joins, rows join.name ∈ join.partners database row) ∧
          meets database select.conditions (.ofRows row select.joins rows) = true := by
  have hmem : row ∈ select.run database ↔ ∃ c ∈ select.combinations database,
      meets database select.conditions c = true ∧ c.topic = row := by
    rw [run]
    split <;> simp [and_assoc]
  rw [hmem]
  constructor
  · rintro ⟨c, hc, hmeets, rfl⟩
    obtain ⟨ht, rows, hrows, he⟩ := (mem_combinations_iff h).1 hc
    exact ⟨ht, rows, hrows, he ▸ hmeets⟩
  · rintro ⟨ht, rows, hrows, hmeets⟩
    exact ⟨_, (mem_combinations_iff h).2 ⟨ht, rows, hrows, rfl⟩, hmeets, rfl⟩

/-- No two combinations of fit rows have one topic. -/
theorem pairwise_combinations (hkey : (database.topics.map TopicRow.id).Nodup)
    {fit : String → Row → Prop} {distinct : Bool} {joins : List Join}
    {conditions : List Condition} (h : Apart joins)
    (hfit : ∀ topic, ∀ join ∈ joins, (join.partners database topic).Pairwise fun a b =>
      ¬ (fit join.name a ∧ fit join.name b)) :
    (combinations database ⟨distinct, joins, conditions⟩).Pairwise fun c d =>
      c.topic.id = d.topic.id → ¬ ∀ join ∈ joins,
        fit join.name (c.row join.name) ∧ fit join.name (d.row join.name) := by
  induction joins using List.reverseRecOn with
  | nil =>
      refine List.pairwise_map.2 ((List.pairwise_map.1 hkey).imp fun hne hid => ?_)
      exact absurd hid hne
  | append_singleton joins join ih =>
      have hfresh := h.name_notMem
      have hnames : ∀ c ∈ combinations database ⟨distinct, joins, conditions⟩,
          join.name ∉ c.joined.map Prod.fst := by
        intro c hc
        obtain ⟨-, rows, -, he⟩ := (mem_combinations_iff h.of_append).1 hc
        rwa [he, Combination.map_fst_ofRows]
      have halone := h.alone join (by simp)
      have hextend : ∀ c ∈ combinations database ⟨distinct, joins, conditions⟩,
          ∀ x ∈ join.extend database c, ∃ row, x = c.extend join.name row := by
        intro c hc x hx
        rw [Join.extend_eq halone (hnames c hc)] at hx
        obtain ⟨row, -, rfl⟩ := List.mem_map.1 hx
        exact ⟨row, rfl⟩
      rw [combinations_append, List.pairwise_flatMap]
      refine ⟨fun c hc => ?_, ?_⟩
      -- of two extensions of one combination, one has a row of the last join that is not fit
      · rw [Join.extend_eq halone (hnames c hc), List.pairwise_map]
        refine (hfit c.topic join (by simp)).imp fun hab _ hall => hab ?_
        have := hall join (by simp)
        rwa [Combination.row_extend (hnames c hc) halone.name_ne,
          Combination.row_extend (hnames c hc) halone.name_ne] at this
      -- extensions of two combinations differ where these do
      · refine (ih h.of_append fun topic other ho => hfit topic other (by simp [ho])).imp_of_mem ?_
        intro c d hc hd hcd x hx y hy hid hall
        obtain ⟨row, rfl⟩ := hextend c hc x hx
        obtain ⟨row', rfl⟩ := hextend d hd y hy
        refine hcd hid fun other ho => ?_
        have hne : other.name ≠ join.name := fun e => hfresh (List.mem_map.2 ⟨other, ho, e⟩)
        have := hall other (by simp [ho])
        rwa [Combination.row_extend_of_ne hne, Combination.row_extend_of_ne hne] at this

/-- **No topic is given twice**, if the selection is distinct or its partners are single. -/
theorem nodup_run (hkey : (database.topics.map TopicRow.id).Nodup) (h : Apart select.joins)
    (honce : select.distinct = true ∨ ∃ fit, Singles database select fit) :
    ((select.run database).map TopicRow.id).Nodup := by
  rw [run]
  split
  · next hd =>
      -- rows that are topics are told apart by their keys
      refine (nodup_eraseDups _).map_on fun a ha b hb hid => ?_
      have hmem : ∀ row ∈ ((select.combinations database).filter
          (meets database select.conditions)).map Combination.topic, row ∈ database.topics := by
        intro row hrow
        obtain ⟨c, hc, rfl⟩ := List.mem_map.1 hrow
        exact ((mem_combinations_iff h).1 (List.mem_of_mem_filter hc)).1
      exact List.inj_on_of_nodup_map hkey (hmem a (List.mem_eraseDups.1 ha))
        (hmem b (List.mem_eraseDups.1 hb)) hid
  · next hd =>
      obtain ⟨fit, hsingles⟩ := honce.resolve_left hd
      have hrows : ∀ c ∈ (select.combinations database).filter (meets database select.conditions),
          ∀ join ∈ select.joins, fit join.name (c.row join.name) := by
        intro c hc join hj
        obtain ⟨hc, hmeets⟩ := List.mem_filter.1 hc
        obtain ⟨-, rows, -, he⟩ := (mem_combinations_iff h).1 hc
        rw [he] at hmeets ⊢
        rw [Combination.row_ofRows (h.alone join hj).name_ne hj]
        exact hsingles.conditions _ rows hmeets join hj
      rw [List.map_map]
      refine List.pairwise_map.2 ?_
      refine ((pairwise_combinations hkey h hsingles.partners).sublist
        List.filter_sublist).imp_of_mem fun hc hd hcd hid => ?_
      exact hcd hid fun join hj => ⟨hrows _ hc join hj, hrows _ hd join hj⟩

end Select

end ForumQuery.Sql
