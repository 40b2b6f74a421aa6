import PlaceholderExports.Proofs.Config.Validity
import PlaceholderExports.Proofs.Json.Values

/-!
# The members of a configuration

What the members of an object say about a configuration, without an order: every key is one of three
and comes once, and the value of a key is that of its member, or a default if it has none
(`Denotes`).

A configuration is read by adding one member after the other to a draft (`Draft.add?`). What has
been added so far is what the members say of each field (`Draft.foldlM_add?_iff`), so in the end the
draft makes the configuration that the members denote (`denotes_iff`).
-/

namespace PlaceholderExports

open PlaceholderExports.Json (Value mapM_cons_eq_bind)

/-! ### Values of the fields -/

namespace Json.Value

/-- A list of strings. -/
def texts (texts : List String) : Value := .list (texts.map fun text => .string (some text))

variable {v : Value}

/-- A value is a text if it is a string without lone surrogates. -/
lemma text?_eq_some_iff {text : String} : v.text? = some text ↔ v = .string (some text) := by
  cases v with
  | string text? => exact (Value.string.injEq _ _).symm ▸ Iff.rfl
  | _ => exact ⟨nofun, nofun⟩

/-- A value is a flag if it is a truth value. -/
lemma flag?_eq_some_iff {b : Bool} : v.flag? = some b ↔ v = .bool b := by
  cases v with
  | bool b' =>
    exact ⟨fun same => congrArg _ (Option.some.inj same), fun same => congrArg flag? same⟩
  | _ => exact ⟨nofun, nofun⟩

/-- Values are texts if each of them is one. -/
lemma mapM_text?_eq_some_iff {vs : List Value} {ts : List String} :
    vs.mapM text? = some ts ↔ vs = ts.map fun text => .string (some text) := by
  induction vs generalizing ts with
  | nil =>
    cases ts with
    | nil => exact ⟨fun _ => rfl, fun _ => rfl⟩
    | cons text more => exact ⟨nofun, nofun⟩
  | cons v vs ih =>
    rw [mapM_cons_eq_bind, Option.bind_eq_some_iff]
    constructor
    · rintro ⟨text, here, after⟩
      obtain ⟨more, there, rfl⟩ := Option.map_eq_some_iff.1 after
      rw [text?_eq_some_iff.1 here, ih.1 there, List.map_cons]
    · intro same
      cases ts with
      | nil => cases same
      | cons text more =>
        obtain ⟨here, there⟩ := List.cons.inj same
        exact ⟨text, text?_eq_some_iff.2 here, by rw [ih.2 there]; rfl⟩

/-- A value is a list of texts if all of its items are texts. -/
lemma items?_eq_some_iff {ts : List String} : v.items? text? = some ts ↔ v = texts ts := by
  cases v with
  | list items =>
    exact mapM_text?_eq_some_iff.trans ⟨congrArg list, fun same => Value.list.inj same⟩
  | _ => exact ⟨nofun, nofun⟩

end Json.Value

namespace Config

/-! ### What members denote -/

/-- The members of an object: keys, as far as they have a text, and values. -/
abbrev Members := List (Option String × Value)

/-- What stands under a key: the value of a member, or a default if no member has the key. -/
inductive Given {α : Type} (members : Members) (key : String) (write : α → Value) (default : α) :
    α → Prop where
  | present {a} :
    (some key, write a) ∈ members →
    Given members key write default a
  | absent :
    (∀ v, (some key, v) ∉ members) →
    Given members key write default default

/-- The configuration that the members of an object denote. -/
structure Denotes (members : Members) (c : Config) : Prop where
  known : ∀ key ∈ members.map Prod.fst,
    key ∈ [some "input", some "sourceMap", some "placeholderName"]
  nodup : (members.map Prod.fst).Nodup
  input : Given members "input" .texts ({} : Config).input c.input
  sourceMap : Given members "sourceMap" .bool ({} : Config).sourceMap c.sourceMap
  placeholderName : Given members "placeholderName" (fun name => .string (some name))
    ({} : Config).placeholderName c.placeholderName

section Order

variable {members members' : Members} {c : Config}

/-- The order of the members does not matter. -/
lemma Denotes.perm (denotes : Denotes members c) (perm : members.Perm members') :
    Denotes members' c := by
  have given {α : Type} {key : String} {write : α → Value} {default a : α}
      (h : Given members key write default a) : Given members' key write default a := by
    cases h with
    | present mem => exact .present (perm.mem_iff.1 mem)
    | absent none => exact .absent fun v mem => none v (perm.mem_iff.2 mem)
  have keys := perm.map Prod.fst
  exact ⟨fun key mem => denotes.known key (keys.mem_iff.2 mem), keys.nodup_iff.1 denotes.nodup,
    given denotes.input, given denotes.sourceMap, given denotes.placeholderName⟩

/-- Under keys that come once there is at most one value. -/
lemma given_iff {α : Type} {key : String} {write : α → Value} {default a : α}
    (nodup : (members.map Prod.fst).Nodup) :
    Given members key write default a ↔
      ∃ a? : Option α, a?.getD default = a ∧
        ∀ v, a?.map write = some v ↔ (some key, v) ∈ members := by
  constructor
  · intro given
    cases given with
    | present mem =>
      refine ⟨some a, rfl, fun v => ⟨?_, fun mem' => ?_⟩⟩
      · rintro ⟨⟩
        exact mem
      · have same := List.inj_on_of_nodup_map nodup mem mem' rfl
        exact congrArg some (Prod.ext_iff.1 same).2
    | absent none => exact ⟨Option.none, rfl, fun v => ⟨nofun, fun mem => absurd mem (none v)⟩⟩
  · rintro ⟨a?, rfl, slot⟩
    cases a? with
    | none => exact .absent fun v mem => Option.some_ne_none v ((slot v).2 mem).symm
    | some a => exact .present ((slot (write a)).1 rfl)

end Order

/-! ### Fields -/

/-- Fields differ in their names. -/
lemma Field.name_injective : Function.Injective Field.name := by
  intro f g same
  cases f <;> cases g <;> first | rfl | exact absurd same (by decide)

/-- The names of the fields are the three that settings may have. -/
lemma mem_names_iff {key : Option String} :
    key ∈ [some "input", some "sourceMap", some "placeholderName"] ↔
      ∃ field : Field, key = some field.name := by
  simp only [List.mem_cons, List.not_mem_nil, or_false]
  constructor
  · rintro (rfl | rfl | rfl)
    exacts [⟨.input, rfl⟩, ⟨.sourceMap, rfl⟩, ⟨.placeholderName, rfl⟩]
  · rintro ⟨field, rfl⟩
    cases field
    exacts [.inl rfl, .inr (.inl rfl), .inr (.inr rfl)]

/-- A field is found by its name. -/
lemma find?_fields_eq_some_iff {name : String} {field : Field} :
    (fields.find? fun f => f.name = name) = some field ↔ name = field.name := by
  constructor
  · intro found
    have same := List.find?_some (p := fun f : Field => decide (f.name = name)) found
    exact (of_decide_eq_true same).symm
  · rintro rfl
    cases field <;> rfl

/-! ### Drafts -/

namespace Draft

/-- The value of a field that has been read. -/
def value? (d : Draft) : Field → Option Value
  | .input => d.input?.map .texts
  | .sourceMap => d.sourceMap?.map .bool
  | .placeholderName => d.placeholderName?.map fun name => .string (some name)

/-- The draft with the value of a field, if the value fits. -/
def with? (d : Draft) (v : Value) : Field → Option Draft
  | .input => (v.items? Value.text?).map fun input => { d with input? := some input }
  | .sourceMap => v.flag?.map fun flag => { d with sourceMap? := some flag }
  | .placeholderName => v.text?.map fun name => { d with placeholderName? := some name }

/-- The draft with one more member: its key is a field that has not been read, and its value
fits. -/
def add? (d : Draft) (member : Option String × Value) : Option Draft :=
  member.1.bind fun name =>
    (fields.find? fun f => f.name = name).bind fun field =>
      if d.has field then none else d.with? member.2 field

variable {d e : Draft} {field : Field} {v : Value}

/-- A draft lacks a field if the field has no value. -/
lemma has_eq_false_iff : d.has field = false ↔ d.value? field = none := by
  have same : d.has field = (d.value? field).isSome := by
    cases field <;> exact (Option.isSome_map).symm
  rw [same, Option.isSome_eq_false_iff, Option.isNone_iff_eq_none]

/-- A draft is known by the values of its fields. -/
lemma eq_of_value?_eq (same : ∀ f, d.value? f = e.value? f) : d = e := by
  have texts : Function.Injective Value.texts := fun ts us same =>
    Option.some.inj ((Value.items?_eq_some_iff.2 rfl).symm.trans (Value.items?_eq_some_iff.2 same))
  have flag : Function.Injective Value.bool := fun _ _ => Value.bool.inj
  have name : Function.Injective fun name => Value.string (some name) := fun _ _ same =>
    Option.some.inj (Value.string.inj same)
  obtain ⟨input?, sourceMap?, placeholderName?⟩ := d
  obtain ⟨input?', sourceMap?', placeholderName?'⟩ := e
  have first : input? = input?' := Option.map_injective texts (same .input)
  have second : sourceMap? = sourceMap?' := Option.map_injective flag (same .sourceMap)
  have third : placeholderName? = placeholderName?' :=
    Option.map_injective name (same .placeholderName)
  rw [first, second, third]

/-- A value that fits is the value of its field, and the other fields keep theirs. -/
lemma value?_of_with? (read : d.with? v field = some e) (f : Field) :
    e.value? f = if f = field then some v else d.value? f := by
  cases field with
  | input =>
    obtain ⟨input, fits, rfl⟩ := Option.map_eq_some_iff.1 read
    rw [Value.items?_eq_some_iff.1 fits]
    cases f <;> rfl
  | sourceMap =>
    obtain ⟨flag, fits, rfl⟩ := Option.map_eq_some_iff.1 read
    rw [Value.flag?_eq_some_iff.1 fits]
    cases f <;> rfl
  | placeholderName =>
    obtain ⟨name, fits, rfl⟩ := Option.map_eq_some_iff.1 read
    rw [Value.text?_eq_some_iff.1 fits]
    cases f <;> rfl

/-- The value of a field fits it. -/
lemma exists_with? (value : e.value? field = some v) : ∃ e', d.with? v field = some e' := by
  cases field with
  | input =>
    obtain ⟨input, -, rfl⟩ := Option.map_eq_some_iff.1 value
    exact ⟨_, Option.map_eq_some_iff.2 ⟨input, Value.items?_eq_some_iff.2 rfl, rfl⟩⟩
  | sourceMap =>
    obtain ⟨flag, -, rfl⟩ := Option.map_eq_some_iff.1 value
    exact ⟨_, rfl⟩
  | placeholderName =>
    obtain ⟨name, -, rfl⟩ := Option.map_eq_some_iff.1 value
    exact ⟨_, rfl⟩

/-- A value that a field can take changes this field only. -/
lemma with?_eq_some_iff :
    d.with? v field = some e ↔ ∀ f, e.value? f = if f = field then some v else d.value? f := by
  refine ⟨value?_of_with?, fun values => ?_⟩
  have here : e.value? field = some v := by rw [values, if_pos rfl]
  obtain ⟨e', read⟩ := exists_with? (d := d) here
  have same : e' = e := eq_of_value?_eq fun f => (value?_of_with? read f).trans (values f).symm
  rw [read, same]

/-- A member is added if it is a new field with a value that the field can take. -/
lemma add?_eq_some_iff {key : Option String} :
    d.add? (key, v) = some e ↔
      ∃ field : Field, key = some field.name ∧ d.value? field = none ∧
        ∀ f, e.value? f = if f = field then some v else d.value? f := by
  simp only [add?, Option.bind_eq_some_iff, find?_fields_eq_some_iff, Option.ite_none_left_eq_some,
    Bool.not_eq_true, has_eq_false_iff, with?_eq_some_iff]
  constructor
  · rintro ⟨name, rfl, field, rfl, rest⟩
    exact ⟨field, rfl, rest⟩
  · rintro ⟨field, rfl, rest⟩
    exact ⟨field.name, rfl, field, rfl, rest⟩

/-- A field has the value that it had or that of the member. -/
lemma value?_of_add? {key : Option String} (added : d.add? (key, v) = some e) (f : Field)
    (w : Value) :
    e.value? f = some w ↔ d.value? f = some w ∨ (some f.name, w) = (key, v) := by
  obtain ⟨field, rfl, free, values⟩ := add?_eq_some_iff.1 added
  rw [values, Prod.mk.injEq, Option.some_inj, Field.name_injective.eq_iff]
  by_cases same : f = field
  · rw [if_pos same, same, free, Option.some_inj]
    exact ⟨fun eq => .inr ⟨rfl, eq.symm⟩, fun either => (either.resolve_left nofun).2.symm⟩
  · rw [if_neg same]
    exact ⟨.inl, fun either => either.resolve_right fun both => same both.1⟩

/-- What has been added to a draft: its keys are fields that were free and come once, and each field
has the value that it had or that of its member. -/
lemma foldlM_add?_iff {members : Members} :
    members.foldlM add? d = some e ↔
      (∀ key ∈ members.map Prod.fst,
        ∃ field : Field, key = some field.name ∧ d.value? field = none) ∧
      (members.map Prod.fst).Nodup ∧
      ∀ field v, e.value? field = some v ↔
        d.value? field = some v ∨ (some field.name, v) ∈ members := by
  induction members generalizing d with
  | nil =>
    constructor
    · rintro ⟨⟩
      exact ⟨nofun, List.nodup_nil, fun field v => by simp⟩
    · rintro ⟨-, -, values⟩
      refine congrArg some (eq_of_value?_eq fun field => Option.ext fun v => ?_)
      simp [values field v]
  | cons member members ih =>
    obtain ⟨key, v⟩ := member
    rw [List.foldlM_cons, Option.bind_eq_bind, Option.bind_eq_some_iff, List.map_cons,
      List.nodup_cons, List.forall_mem_cons]
    constructor
    · rintro ⟨next, added, after⟩
      obtain ⟨field, rfl, free, -⟩ := add?_eq_some_iff.1 added
      have step := value?_of_add? added
      obtain ⟨known, nodup, values⟩ := ih.1 after
      refine ⟨⟨⟨field, rfl, free⟩, fun key mem => ?_⟩, ⟨fun mem => ?_, nodup⟩, fun f w => ?_⟩
      · obtain ⟨f, rfl, free'⟩ := known key mem
        refine ⟨f, rfl, Option.eq_none_iff_forall_ne_some.2 fun w found => ?_⟩
        exact Option.eq_none_iff_forall_ne_some.1 free' w ((step f w).2 (.inl found))
      · -- the field of the key has a value by now, so its key cannot come again
        obtain ⟨f, same, free'⟩ := known _ mem
        exact Option.eq_none_iff_forall_ne_some.1 free' v
          ((step f v).2 (.inr (Prod.ext same.symm rfl)))
      · rw [values, step, List.mem_cons, or_assoc]
    · rintro ⟨⟨⟨field, rfl, free⟩, known⟩, ⟨once, nodup⟩, values⟩
      have here : e.value? field = some v := (values field v).2 (.inr List.mem_cons_self)
      obtain ⟨next, read⟩ := exists_with? (d := d) here
      have added := add?_eq_some_iff.2 ⟨field, rfl, free, value?_of_with? read⟩
      have step := value?_of_add? added
      refine ⟨next, added, ih.2 ⟨fun key mem => ?_, nodup, fun f w => ?_⟩⟩
      · obtain ⟨f, rfl, free'⟩ := known key mem
        refine ⟨f, rfl, Option.eq_none_iff_forall_ne_some.2 fun w found => ?_⟩
        obtain earlier | same := (step f w).1 found
        · exact Option.eq_none_iff_forall_ne_some.1 free' w earlier
        · exact once ((Prod.ext_iff.1 same).1 ▸ mem)
      · rw [values, step, List.mem_cons, or_assoc]

end Draft

/-- The members denote a configuration if they can be added to a draft one after the other. -/
lemma denotes_iff {members : Members} {c : Config} :
    Denotes members c ↔ ∃ d, members.foldlM Draft.add? {} = some d ∧ d.config = c := by
  constructor
  · rintro ⟨known, nodup, input, sourceMap, placeholderName⟩
    obtain ⟨input?, first, inputs⟩ := (given_iff nodup).1 input
    obtain ⟨sourceMap?, second, sourceMaps⟩ := (given_iff nodup).1 sourceMap
    obtain ⟨placeholderName?, third, names⟩ := (given_iff nodup).1 placeholderName
    refine ⟨⟨input?, sourceMap?, placeholderName?⟩, Draft.foldlM_add?_iff.2 ⟨?_, nodup, ?_⟩, ?_⟩
    · intro key mem
      obtain ⟨field, rfl⟩ := mem_names_iff.1 (known key mem)
      exact ⟨field, rfl, by cases field <;> rfl⟩
    · intro field v
      have free : (({} : Draft).value? field = some v) = False := by
        cases field <;> exact eq_false nofun
      rw [free, false_or]
      cases field with
      | input => exact inputs v
      | sourceMap => exact sourceMaps v
      | placeholderName => exact names v
    · cases c
      cases first
      cases second
      cases third
      rfl
  · rintro ⟨d, folded, rfl⟩
    obtain ⟨known, nodup, values⟩ := Draft.foldlM_add?_iff.1 folded
    have slot (field : Field) (v : Value) :
        d.value? field = some v ↔ (some field.name, v) ∈ members := by
      rw [values, or_iff_right]
      cases field <;> exact nofun
    refine ⟨fun key mem => ?_, nodup, ?_, ?_, ?_⟩
    · obtain ⟨field, rfl, -⟩ := known key mem
      exact mem_names_iff.2 ⟨field, rfl⟩
    · exact (given_iff nodup).2 ⟨d.input?, rfl, slot .input⟩
    · exact (given_iff nodup).2 ⟨d.sourceMap?, rfl, slot .sourceMap⟩
    · exact (given_iff nodup).2 ⟨d.placeholderName?, rfl, slot .placeholderName⟩

/-- Members denote one configuration at most. -/
lemma Denotes.unique {members : Members} {c c' : Config} (denotes : Denotes members c)
    (denotes' : Denotes members c') : c = c' := by
  obtain ⟨d, folded, rfl⟩ := denotes_iff.1 denotes
  obtain ⟨d', folded', rfl⟩ := denotes_iff.1 denotes'
  rw [Option.some.inj (folded.symm.trans folded')]

end Config

end PlaceholderExports
