import PlaceholderExports.Proofs.Classification.Declarative

/-!
# What a classifier holds

The four containers of a classifier belong together in every state that a pass over statements can
reach (`Classifier.Represents`): what is declared is bound, and the table of exports is made of the
exports that were recorded so far, each of which has left its alias and its intent in the record of
its local name. And a pass only ever adds to the containers (`Classifier.Extends`): names come
behind the names that are there, records stay in their places, and nothing that a record holds is
taken back.

The first holds because every statement binds what it declares and exports nothing without an intent
(`Statement.isClosed_outline`). The second holds because recording an export extends a table
(`ExportTable.extends_record`). `run_represents` is both of them together.
-/

namespace PlaceholderExports

/-! ### Intents and records -/

namespace Intent

/-- What some intents amount to together. -/
def unionAll (intents : List Intent) : Intent := intents.foldl (· ∪ ·) {}

/-- What is exported with one intent is exported with another one too. -/
structure Within (a b : Intent) : Prop where
  asType : a.asType = true → b.asType = true
  asValue : a.asValue = true → b.asValue = true

/-- Every intent is within itself. -/
lemma Within.refl (a : Intent) : a.Within a := ⟨id, id⟩

/-- What is within a part of an intent is within the intent. -/
lemma Within.trans {a b c : Intent} (h : a.Within b) (k : b.Within c) : a.Within c :=
  ⟨k.asType ∘ h.asType, k.asValue ∘ h.asValue⟩

/-- An intent is within its union with another one. -/
lemma within_union_left (a b : Intent) : a.Within (a ∪ b) :=
  ⟨fun h => by simp [h], fun h => by simp [h]⟩

/-- What holds an intent that is not empty is not empty. -/
lemma Within.ne_empty {a b : Intent} (h : a.Within b) (ne : a ≠ {}) : b ≠ {} := by
  rintro rfl
  obtain ⟨asType, asValue⟩ := a
  cases asType with
  | true => cases h.asType rfl
  | false =>
    cases asValue with
    | true => cases h.asValue rfl
    | false => exact ne rfl

end Intent

namespace ExportRecord

/-- The intent of a record is what the intents of its exports amount to. -/
lemma intent_ofEvents (events : List ExportEvent) :
    (ofEvents events).intent = .unionAll (events.map (·.intent)) := by
  induction events using List.reverseRecOn with
  | nil => rfl
  | append_singleton events e ih =>
    unfold Intent.unionAll at ih ⊢
    rw [ofEvents_concat, List.map_append, List.foldl_append, ← ih]
    rfl

/-- Every export has left its intent in the record. -/
lemma within_ofEvents {events : List ExportEvent} {e : ExportEvent} (h : e ∈ events) :
    e.intent.Within (ofEvents events).intent where
  asType type := by
    rw [asType_ofEvents]
    exact List.any_eq_true.2 ⟨e, h, type⟩
  asValue value := by
    rw [asValue_ofEvents]
    exact List.any_eq_true.2 ⟨e, h, value⟩

/-- A record holds what another one holds, the aliases in front. -/
structure Extends (r r' : ExportRecord) : Prop where
  aliases : r.aliases.toList <+: r'.aliases.toList
  intent : r.intent.Within r'.intent

/-- Every record extends itself. -/
lemma Extends.refl (r : ExportRecord) : r.Extends r := ⟨List.prefix_refl _, .refl _⟩

/-- What extends an extension of a record extends the record. -/
lemma Extends.trans {r r' r'' : ExportRecord} (h : r.Extends r') (k : r'.Extends r'') :
    r.Extends r'' :=
  ⟨h.aliases.trans k.aliases, h.intent.trans k.intent⟩

/-- One more export extends a record. -/
lemma extends_extend (r : ExportRecord) (exported : String) (intent : Intent) :
    r.Extends (r.extend exported intent) :=
  ⟨r.aliases.prefix_addAll [exported], Intent.within_union_left _ _⟩

end ExportRecord

namespace ExportTable

/-- A table holds the records of another one in the same places, each of them extended, and maybe
more behind them. -/
inductive Extends : ExportTable → ExportTable → Prop where
  | nil (more) :
    Extends [] more
  | cons {name r r' table table'} :
    r.Extends r' →
    Extends table table' →
    Extends ((name, r) :: table) ((name, r') :: table')

/-- Every table extends itself. -/
lemma Extends.refl (table : ExportTable) : Extends table table := by
  induction table with
  | nil => exact .nil _
  | cons head table ih => exact .cons (.refl _) ih

/-- What extends an extension of a table extends the table. -/
lemma Extends.trans {t u v : ExportTable} (h : Extends t u) (k : Extends u v) : Extends t v := by
  induction h generalizing v with
  | nil => exact .nil _
  | cons here _ ih =>
    cases k with
    | cons there more => exact .cons (here.trans there) (ih more)

/-- Recording an export extends the table: the record of its local name, or the end. -/
lemma extends_record (name exported : String) (intent : Intent) (table : ExportTable) :
    Extends table (record name exported intent table) := by
  induction table with
  | nil => exact .nil _
  | cons head table ih =>
    obtain ⟨key, r⟩ := head
    rw [record_cons]
    by_cases same : key = name
    · rw [if_pos same]
      exact .cons (r.extends_extend exported intent) (.refl table)
    · rw [if_neg same]
      exact .cons (.refl r) ih

/-- Recording exports extends a table. -/
lemma extends_recordAll (table : ExportTable) (events : List ExportEvent) :
    Extends table (table.recordAll events) := by
  induction events generalizing table with
  | nil => exact .refl table
  | cons e events ih => exact (extends_record _ _ _ table).trans (ih _)

/-- Each record of a table of exports is made of the exports of its local name, of which there is at
least one. -/
lemma eq_of_mem_ofEvents {events : List ExportEvent} {name : String} {r : ExportRecord}
    (mem : (name, r) ∈ ofEvents events) :
    (∃ e, e ∈ events.filter (·.localName = name)) ∧
      r = .ofEvents (events.filter (·.localName = name)) := by
  obtain ⟨key, there, same⟩ := List.mem_map.1 mem
  obtain ⟨rfl, rfl⟩ := Prod.mk.inj same
  obtain ⟨e, member, rfl⟩ := List.mem_map.1 (List.mem_eraseDups.1 there)
  exact ⟨⟨e, List.mem_filter.2 ⟨member, by simp⟩⟩, rfl⟩

/-- The local names of a table come in the order in which they were first exported. -/
lemma localNames_ofEvents (events : List ExportEvent) :
    (ofEvents events).map (·.1) = (events.map (·.localName)).eraseDups := by
  unfold ofEvents tabulate
  rw [List.map_map]
  exact List.map_id _

end ExportTable

/-! ### Statements -/

/-- What is declared is bound too, and nothing is exported without an intent. -/
structure Outline.IsClosed (o : Outline) : Prop where
  types_bound : ∀ name ∈ o.types, name ∈ o.bound
  values_bound : ∀ name ∈ o.values, name ∈ o.bound
  intent_ne_empty : ∀ e ∈ o.events, e.intent ≠ {}

/-- Outlines that are closed are closed together. -/
lemma Outline.isClosed_gather {α : Type} {f : α → Outline} {xs : List α}
    (each : ∀ x ∈ xs, (f x).IsClosed) : (gather f xs).IsClosed where
  types_bound name mem := by
    obtain ⟨x, there, mem⟩ := List.mem_flatMap.1 mem
    exact List.mem_flatMap.2 ⟨x, there, (each x there).types_bound name mem⟩
  values_bound name mem := by
    obtain ⟨x, there, mem⟩ := List.mem_flatMap.1 mem
    exact List.mem_flatMap.2 ⟨x, there, (each x there).values_bound name mem⟩
  intent_ne_empty e mem := by
    obtain ⟨x, there, mem⟩ := List.mem_flatMap.1 mem
    exact (each x there).intent_ne_empty e mem

/-- What a declaration exports in place has the intent of the declaration. -/
lemma ExportEvent.intent_inPlace {exported : Bool} {intent : Intent} {name : String}
    {e : ExportEvent} (mem : e ∈ inPlace exported intent name) : e.intent = intent := by
  cases exported with
  | false => cases mem
  | true => rw [List.mem_singleton.1 mem]

/-- What a clause exports has an intent. -/
lemma ExportClause.intent_ne_empty {clause : ExportClause} {e : ExportEvent}
    (mem : e ∈ clause.events) : e.intent ≠ {} := by
  unfold events at mem
  cases reexport : clause.isReexport with
  | true => simp [reexport] at mem
  | false =>
    simp only [reexport, Bool.false_eq_true, if_false, List.mem_map] at mem
    obtain ⟨_, -, rfl⟩ := mem
    cases clause.typeOnly with
    | true => exact nofun
    | false => exact nofun

/-- What a declarator declares and exports is closed. -/
lemma Declarator.isClosed_outline (exported : Bool) (d : Declarator) :
    (d.outline exported).IsClosed := by
  cases d with
  | identifier name =>
    exact ⟨nofun, fun _ => id, fun e mem => ExportEvent.intent_inPlace mem ▸ by decide⟩
  | pattern names => exact ⟨nofun, nofun, nofun⟩

/-- A statement binds what it declares and exports nothing without an intent. -/
lemma Statement.isClosed_outline (s : Statement) : s.outline.IsClosed := by
  obtain ⟨kind, exported⟩ := s
  have inPlace : ∀ {intent : Intent} {name : String}, intent ≠ {} →
      ∀ e ∈ ExportEvent.inPlace exported intent name, e.intent ≠ {} :=
    fun ne e mem => ExportEvent.intent_inPlace mem ▸ ne
  cases kind with
  | typeAlias name => exact ⟨fun _ => id, nofun, inPlace (by decide)⟩
  | interfaceDecl name => exact ⟨fun _ => id, nofun, inPlace (by decide)⟩
  | variableDecl declarators =>
    exact Outline.isClosed_gather fun d _ => d.isClosed_outline exported
  | functionDecl name? =>
    cases name? with
    | none => exact ⟨nofun, nofun, nofun⟩
    | some name => exact ⟨nofun, fun _ => id, inPlace (by decide)⟩
  | classDecl name? =>
    cases name? with
    | none => exact ⟨nofun, nofun, nofun⟩
    | some name => exact ⟨fun _ => id, fun _ => id, inPlace (by decide)⟩
  | enumDecl name => exact ⟨fun _ => id, fun _ => id, inPlace (by decide)⟩
  | exportClause clause => exact ⟨nofun, nofun, fun e mem => clause.intent_ne_empty mem⟩
  | importNames names => exact ⟨nofun, nofun, nofun⟩
  | other => exact ⟨nofun, nofun, nofun⟩

namespace Classifier

/-! ### States -/

/-- A classifier is in good order, and its table holds what some exports, recorded in this order,
have left there. -/
structure Represents (c : Classifier) (events : List ExportEvent) : Prop where
  /-- Every declared type is bound at top level. -/
  types_bound : ∀ name ∈ c.types, name ∈ c.topLevelNames
  /-- Every declared value is bound at top level. -/
  values_bound : ∀ name ∈ c.values, name ∈ c.topLevelNames
  /-- There is one record for each local name, in the order of the first exports. -/
  localNames : c.exports.map (·.1) = (events.map (·.localName)).eraseDups
  /-- No record is without an alias. -/
  aliases_ne_nil : ∀ name r, (name, r) ∈ c.exports → r.aliases.toList ≠ []
  /-- No record has an alias twice. -/
  aliases_nodup : ∀ name r, (name, r) ∈ c.exports → r.aliases.toList.Nodup
  /-- The aliases are the exported names of the local name, in the order in which they first
  came. -/
  aliases : ∀ name r, (name, r) ∈ c.exports →
    r.aliases.toList = ((events.filter (·.localName = name)).map (·.exportedName)).eraseDups
  /-- No record is without an intent. -/
  intent_ne_empty : ∀ name r, (name, r) ∈ c.exports → r.intent ≠ {}
  /-- The intent is what the intents of all exports of the local name amount to. -/
  intent : ∀ name r, (name, r) ∈ c.exports →
    r.intent = .unionAll ((events.filter (·.localName = name)).map (·.intent))

/-- The classifier that has gathered an outline represents its exports. -/
lemma represents_ofOutline {o : Outline} (closed : o.IsClosed) :
    (ofOutline o).Represents o.events where
  types_bound name mem := NameSet.mem_ofList.2 (closed.types_bound name (NameSet.mem_ofList.1 mem))
  values_bound name mem :=
    NameSet.mem_ofList.2 (closed.values_bound name (NameSet.mem_ofList.1 mem))
  localNames := ExportTable.localNames_ofEvents o.events
  aliases_ne_nil name r mem := by
    obtain ⟨⟨e, there⟩, rfl⟩ := ExportTable.eq_of_mem_ofEvents mem
    refine List.ne_nil_of_mem (a := e.exportedName) ?_
    rw [← NameSet.mem_def, ExportRecord.aliases_ofEvents, NameSet.mem_ofList]
    exact List.mem_map_of_mem there
  aliases_nodup name r _ := r.aliases.nodup
  aliases name r mem := by
    obtain ⟨-, rfl⟩ := ExportTable.eq_of_mem_ofEvents mem
    rw [ExportRecord.aliases_ofEvents, NameSet.toList_ofList]
  intent_ne_empty name r mem := by
    obtain ⟨⟨e, there⟩, rfl⟩ := ExportTable.eq_of_mem_ofEvents mem
    have ne := closed.intent_ne_empty e (List.mem_filter.1 there).1
    exact (ExportRecord.within_ofEvents there).ne_empty ne
  intent name r mem := by
    obtain ⟨-, rfl⟩ := ExportTable.eq_of_mem_ofEvents mem
    exact ExportRecord.intent_ofEvents _

/-- A classifier holds what another one holds, in the same order and in front of all that is new. -/
structure Extends (c d : Classifier) : Prop where
  types : c.types.toList <+: d.types.toList
  values : c.values.toList <+: d.values.toList
  topLevelNames : c.topLevelNames.toList <+: d.topLevelNames.toList
  exports : c.exports.Extends d.exports

/-- Taking in an outline extends a classifier. -/
lemma extends_absorb (c : Classifier) (o : Outline) : c.Extends (c.absorb o) :=
  ⟨NameSet.prefix_addAll _ _, NameSet.prefix_addAll _ _, NameSet.prefix_addAll _ _,
    ExportTable.extends_recordAll _ _⟩

/-- A statement extends every classifier that takes it in. -/
lemma extends_visit (c : Classifier) (s : Statement) : c.Extends (c.visit s) := by
  rw [visit_eq]
  exact c.extends_absorb s.outline

/-- Every pass over statements ends in good order, with a table that holds what the exports of the
statements have left there. One more statement records its exports one after the other, and takes
nothing away: it only extends what the classifier holds. -/
theorem run_represents (S : List Statement) :
    (run S).Represents (Outline.ofStatements S).events ∧
      ∀ s, run (S ++ [s]) = (run S).visit s ∧
        ((run S).visit s).exports = (run S).exports.recordAll s.outline.events ∧
        (run S).Extends ((run S).visit s) := by
  refine ⟨?_, fun s => ⟨?_, ?_, extends_visit _ s⟩⟩
  · rw [run_eq_ofOutline]
    exact represents_ofOutline (Outline.isClosed_gather fun s _ => s.isClosed_outline)
  · unfold run
    rw [List.foldl_append]
    rfl
  · rw [visit_eq]
    rfl

end Classifier

end PlaceholderExports
