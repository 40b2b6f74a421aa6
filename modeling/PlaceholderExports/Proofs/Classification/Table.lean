import PlaceholderExports.Proofs.Classification.Outline

/-!
# The table of exports

Recording exports one after the other builds a table by local name. `ExportTable.recordAll_eq` says
which: the local names stand in the order of their first exports, and the record of each is made of
its own exports alone (`ExportRecord.ofEvents`), whatever was recorded in between.
-/

namespace PlaceholderExports

namespace Intent

/-- A union is exported as a type if one of its parts is. -/
@[simp] lemma asType_union (a b : Intent) : (a ∪ b).asType = (a.asType || b.asType) := rfl

/-- A union is exported as a value if one of its parts is. -/
@[simp] lemma asValue_union (a b : Intent) : (a ∪ b).asValue = (a.asValue || b.asValue) := rfl

end Intent

namespace ExportRecord

/-- The record of the exports of one local name. -/
def ofEvents (events : List ExportEvent) : ExportRecord :=
  events.foldl (fun r e => r.extend e.exportedName e.intent) {}

/-- One more export extends the record. -/
lemma ofEvents_concat (events : List ExportEvent) (e : ExportEvent) :
    ofEvents (events ++ [e]) = (ofEvents events).extend e.exportedName e.intent := by
  simp [ofEvents]

/-- The aliases are the exported names. -/
lemma aliases_ofEvents (events : List ExportEvent) :
    (ofEvents events).aliases = NameSet.ofList (events.map (·.exportedName)) := by
  induction events using List.reverseRecOn with
  | nil => rfl
  | append_singleton events e ih =>
    rw [ofEvents_concat, List.map_append, NameSet.ofList_append, ← ih]
    rfl

/-- The local name is exported as a type if one of its exports is. -/
lemma asType_ofEvents (events : List ExportEvent) :
    (ofEvents events).intent.asType = events.any (·.intent.asType) := by
  induction events using List.reverseRecOn with
  | nil => rfl
  | append_singleton events e ih =>
    rw [ofEvents_concat]
    simp [extend, ih]

/-- The local name is exported as a value if one of its exports is. -/
lemma asValue_ofEvents (events : List ExportEvent) :
    (ofEvents events).intent.asValue = events.any (·.intent.asValue) := by
  induction events using List.reverseRecOn with
  | nil => rfl
  | append_singleton events e ih =>
    rw [ofEvents_concat]
    simp [extend, ih]

/-- An export that is in the record already is absorbed. -/
lemma extend_ofEvents_of_mem {events : List ExportEvent} {e : ExportEvent} (h : e ∈ events) :
    (ofEvents events).extend e.exportedName e.intent = ofEvents events := by
  have aliases : (ofEvents events).aliases.add e.exportedName = (ofEvents events).aliases := by
    apply NameSet.add_eq_self
    rw [aliases_ofEvents, NameSet.mem_ofList]
    exact List.mem_map_of_mem h
  have intent : (ofEvents events).intent ∪ e.intent = (ofEvents events).intent := by
    have asType : e.intent.asType = true → (ofEvents events).intent.asType = true := by
      intro he
      rw [asType_ofEvents]
      exact List.any_eq_true.2 ⟨e, h, he⟩
    have asValue : e.intent.asValue = true → (ofEvents events).intent.asValue = true := by
      intro he
      rw [asValue_ofEvents]
      exact List.any_eq_true.2 ⟨e, h, he⟩
    show Intent.mk _ _ = _
    congr 1
    · exact Bool.or_eq_left_iff_imp.2 asType
    · exact Bool.or_eq_left_iff_imp.2 asValue
  unfold extend
  rw [aliases, intent]

end ExportRecord

namespace ExportTable

/-- Records by local name, for given local names. -/
def tabulate (names : List String) (record : String → ExportRecord) : ExportTable :=
  names.map fun name => (name, record name)

/-- Recording an export of a name in the table changes the record of that name alone. -/
lemma record_tabulate_of_mem {names : List String} {name exported : String} {intent : Intent}
    {f g : String → ExportRecord} (nodup : names.Nodup) (h : name ∈ names)
    (here : g name = (f name).extend exported intent) (others : ∀ k, k ≠ name → g k = f k) :
    record name exported intent (tabulate names f) = tabulate names g := by
  induction names with
  | nil => cases h
  | cons k names ih =>
    obtain ⟨fresh, nodup⟩ := List.nodup_cons.1 nodup
    by_cases hk : k = name
    · subst hk
      have rest : tabulate names f = tabulate names g := by
        apply List.map_congr_left
        intro k' hk'
        have ne : k' ≠ k := by
          rintro rfl
          exact fresh hk'
        rw [others k' ne]
      show record k exported intent ((k, f k) :: tabulate names f) = (k, g k) :: tabulate names g
      rw [record_cons, if_pos rfl]
      rw [here, rest]
    · have h : name ∈ names := by
        cases h with
        | head => exact absurd rfl hk
        | tail _ h => exact h
      show record name exported intent ((k, f k) :: tabulate names f) =
        (k, g k) :: tabulate names g
      rw [record_cons, if_neg hk]
      rw [ih nodup h, others k hk]

/-- Recording an export of a new name puts it at the end of the table. -/
lemma record_tabulate_of_notMem {names : List String} {name exported : String} {intent : Intent}
    {f g : String → ExportRecord} (h : name ∉ names)
    (here : g name = ({} : ExportRecord).extend exported intent)
    (others : ∀ k, k ≠ name → g k = f k) :
    record name exported intent (tabulate names f) = tabulate (names ++ [name]) g := by
  induction names with
  | nil =>
    show [(name, ({} : ExportRecord).extend exported intent)] = [(name, g name)]
    rw [here]
  | cons k names ih =>
    obtain ⟨ne, h⟩ := not_or.1 (List.mem_cons.not.1 h)
    show record name exported intent ((k, f k) :: tabulate names f) =
      (k, g k) :: tabulate (names ++ [name]) g
    rw [record_cons, if_neg (Ne.symm ne)]
    rw [ih h, others k (Ne.symm ne)]

/-- The table of some exports: the local names in the order of their first exports, each with the
record of its own exports. -/
def ofEvents (events : List ExportEvent) : ExportTable :=
  tabulate (events.map (·.localName)).eraseDups fun name =>
    .ofEvents (events.filter (·.localName = name))

/-- One more export extends the table. -/
lemma record_ofEvents (events : List ExportEvent) (e : ExportEvent) :
    record e.localName e.exportedName e.intent (ofEvents events) = ofEvents (events ++ [e]) := by
  have others : ∀ k, k ≠ e.localName →
      ExportRecord.ofEvents ((events ++ [e]).filter (·.localName = k)) =
        .ofEvents (events.filter (·.localName = k)) := by
    intro k hk
    simp [Ne.symm hk]
  have own : (events ++ [e]).filter (·.localName = e.localName) =
      events.filter (·.localName = e.localName) ++ [e] := by
    simp
  unfold ofEvents
  rw [List.map_append, List.eraseDups_append]
  by_cases h : e.localName ∈ events.map (·.localName)
  · have names : ([e].map (·.localName)).removeAll (events.map (·.localName)) = [] := by
      simpa [List.removeAll] using h
    rw [names, List.eraseDups_nil, List.append_nil]
    refine record_tabulate_of_mem (NameSet.nodup_eraseDups _) (List.mem_eraseDups.2 h) ?_ others
    rw [own, ExportRecord.ofEvents_concat]
  · have names : ([e].map (·.localName)).removeAll (events.map (·.localName)) = [e.localName] := by
      simpa [List.removeAll] using h
    have none : events.filter (·.localName = e.localName) = [] := by
      simpa using h
    rw [names]
    refine record_tabulate_of_notMem (List.mem_eraseDups.not.2 h) ?_ others
    rw [own, none]
    rfl

/-- Recording exports one after the other gives their table. -/
theorem recordAll_eq (events : List ExportEvent) : recordAll [] events = ofEvents events := by
  induction events using List.reverseRecOn with
  | nil => rfl
  | append_singleton events e ih =>
    rw [← record_ofEvents, ← ih]
    simp [recordAll]

/-- Exports that are in the table already are absorbed. -/
lemma recordAll_ofEvents_of_subset {events more : List ExportEvent}
    (h : ∀ e ∈ more, e ∈ events) : recordAll (ofEvents events) more = ofEvents events := by
  induction more with
  | nil => rfl
  | cons e more ih =>
    obtain ⟨here, rest⟩ := List.forall_mem_cons.1 h
    have mem : e.localName ∈ (events.map (·.localName)).eraseDups :=
      List.mem_eraseDups.2 (List.mem_map_of_mem here)
    have step : record e.localName e.exportedName e.intent (ofEvents events) = ofEvents events := by
      refine record_tabulate_of_mem (NameSet.nodup_eraseDups _) mem ?_ fun _ _ => rfl
      symm
      exact ExportRecord.extend_ofEvents_of_mem (List.mem_filter.2 ⟨here, by simp⟩)
    show recordAll (record e.localName e.exportedName e.intent (ofEvents events)) more = _
    rw [step]
    exact ih rest

end ExportTable

end PlaceholderExports
