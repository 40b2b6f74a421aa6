import PlaceholderExports.Loader
import PlaceholderExports.Proofs.Config.Fields
import PlaceholderExports.Proofs.Json.Writing

/-!
# Configurations and their texts

An object in a JSON text is read as the configuration that its members denote (`ofJson_cases`),
however it is written: what the reader does with each member is what is added to the draft
(`Draft.members_yields`). The text of a configuration is one way to write its members
(`isDocument_toJson`), so it is read back.
-/

namespace PlaceholderExports

namespace Config

open PlaceholderExports.Json

/-! ### Reading members -/

/-- The reader of a field name yields the field with that name. -/
lemma Field.ofName_yields (name : String) (rest : List Char) :
    Yields (Field.ofName name rest) (fields.find? fun f => f.name = name) rest := by
  unfold Field.ofName
  cases fields.find? fun f => f.name = name with
  | none => exact .error
  | some field => exact .ok

namespace Draft

variable {d : Draft} {c x : Char} {fuel text rest : List Char} {isFirst : Bool}

/-- The value of a field is read if it fits. -/
lemma reads_read (d : Draft) (field : Field) : Reads (d.read field) fun v => d.with? v field := by
  cases field with
  | input => exact (reads_list reads_string).map _
  | sourceMap => exact reads_boolean.map _
  | placeholderName => exact reads_string.map _

/-- A member behind the quote of its key, and the members after it. -/
def member (fuel : List Char) (d : Draft) : Scan Draft := do
  let field ← Field.ofName (← stringTail)
  if d.has field then fail (.duplicateField field.name)
  colon
  members fuel false (← d.read field)

/-- Without another member the members end. -/
lemma members_of_end (none : hasMember isFirst text = .ok (false, c :: rest)) :
    members (x :: fuel) isFirst d text = .ok (d, rest) := by
  unfold members
  rw [bind_of_ok none]
  rfl

/-- With another member the members are this one and those after it. -/
lemma members_of_member (more : hasMember isFirst text = .ok (true, c :: rest)) :
    members (x :: fuel) isFirst d text = member fuel d rest := by
  conv_lhs => unfold members
  rw [bind_of_ok more]
  rfl

/-- A member begins with a quote. What it and the members after it yield, once the quote has been
passed. -/
lemma member_yields {m : Option String × Value} {t : List Char} {f : Draft → Option Draft}
    (written : IsMember Value.Written m t)
    (after : ∀ e, Yields (members fuel false e text) (f e) rest) :
    ∃ u, t = '"' :: u ∧ Yields (member fuel d (u ++ text)) ((d.add? m).bind f) rest := by
  obtain @⟨key, v, k, b, b', t, literal, blanks, blanks', written⟩ := written
  obtain ⟨u, rfl, yields⟩ := stringTail_yields literal
  refine ⟨u ++ b ++ ':' :: b' ++ t, by simp, ?_⟩
  have split : u ++ b ++ ':' :: b' ++ t ++ text = u ++ (b ++ ':' :: (b' ++ t ++ text)) := by simp
  rw [split, add?, Option.bind_assoc]
  refine Yields.scan (yields _) fun name _ => ?_
  rw [Option.bind_assoc]
  refine Yields.scan (Field.ofName_yields name _) fun field _ => ?_
  cases taken : d.has field with
  | true => exact .error
  | false =>
    show Yields ((colon >>= fun _ => d.read field >>= members fuel false) _) _ _
    rw [bind_of_ok (colon_eq blanks _)]
    exact Yields.scan (reads_read d field v b' t text blanks' written) fun e _ => after e

/-- The members of an object yield what is added to the draft, one after the other. -/
lemma members_yields {ms : Members} {u : List Char}
    (written : Separated (IsMember Value.Written) ms u)
    (enough : ms.length < fuel.length) (d : Draft) (rest : List Char) :
    Yields (members fuel true d (u ++ '\x7d' :: rest)) (ms.foldlM add? d) rest := by
  have added : ms.foldr (fun m after d => (d.add? m).bind after) some d = ms.foldlM add? d := by
    clear written enough
    induction ms generalizing d with
    | nil => rfl
    | cons m ms ih =>
      rw [List.foldr_cons, List.foldlM_cons, Option.bind_eq_bind]
      exact Option.bind_congr fun e _ => ih e
  rw [← added]
  refine (yields_of_separated members ?ends ?goesOn written enough d).1
  case ends =>
    intro x fuel isFirst d b blanks
    rw [members_of_end (hasMember_end isFirst blanks rest)]
    exact .ok
  case goesOn =>
    intro x fuel d m b t text after blanks written more
    obtain ⟨u, rfl, yields⟩ := member_yields (d := d) written more
    rw [List.append_assoc, List.cons_append]
    refine ⟨?_, fun b' blanks' => ?_⟩
    · rw [members_of_member (hasMember_first blanks _)]
      exact yields
    · rw [members_of_member (hasMember_next blanks' blanks _)]
      exact yields

/-- An object yields what its members add to a draft without fields. -/
lemma scan_yields {ms : Members} {b t : List Char} (blanks : AreBlanks b)
    (written : (Value.object ms).Written t) (rest : List Char) :
    Yields (scan (b ++ t ++ rest)) (ms.foldlM add? {}) rest := by
  cases written with
  | @object _ u written =>
    have enough : ms.length < (' ' :: (u ++ '\x7d' :: rest)).length := by
      have nonempty : ∀ m t, IsMember Value.Written m t → t ≠ [] := by
        rintro m t ⟨⟨-⟩, -, -, -⟩
        exact List.cons_ne_nil _ _
      have := length_le_of_separated nonempty written
      simp only [List.length_cons, List.length_append]
      omega
    have split : b ++ ('\x7b' :: u ++ ['\x7d']) ++ rest = b ++ '\x7b' :: (u ++ '\x7d' :: rest) := by
      simp
    rw [split]
    unfold scan value
    rw [bind_of_ok (peek_eq blanks (by decide))]
    exact members_yields written enough {} rest

end Draft

section Document

variable {ms : Members} {text : String} {c : Config}

/-- A text is read as the configuration of its fields, if that has no fault. -/
lemma ofJson_eq (text : String) :
    ofJson text =
      match whole Draft.scan text with
      | .error fault => .error (.json fault)
      | .ok d =>
        match d.config.fault? with
        | none => .ok d.config
        | some fault => .error (.invalid fault) := by
  unfold ofJson check
  cases whole Draft.scan text with
  | error fault => rfl
  | ok d =>
    dsimp only
    cases d.config.fault? <;> rfl

/-- A document is read as the draft that its members make. -/
lemma scan_eq_ok_iff (document : IsDocument (.object ms) text) {d : Draft} :
    whole Draft.scan text = .ok d ↔ ms.foldlM Draft.add? {} = some d := by
  obtain ⟨b, t, b', blanks, written, blanks', same⟩ := document
  have yields := Draft.scan_yields blanks written b'
  rw [← same] at yields
  exact whole_eq_ok_iff yields blanks'

/-- A document is read as the configuration that its members denote, if that is valid. It fails with
the first fault of this configuration, or with a fault of the text if there is none. -/
lemma ofJson_cases (document : IsDocument (.object ms) text) :
    (∃ c, Denotes ms c ∧ c.IsValid ∧ ofJson text = .ok c) ∨
      (∃ c fault, Denotes ms c ∧ c.fault? = some fault ∧ ofJson text = .error (.invalid fault)) ∨
      (∃ fault, (∀ c, ¬ Denotes ms c) ∧ ofJson text = .error (.json fault)) := by
  rw [ofJson_eq]
  split
  · next fault outcome =>
    refine .inr (.inr ⟨fault, fun c denotes => ?_, rfl⟩)
    obtain ⟨d, folded, -⟩ := denotes_iff.1 denotes
    rw [(scan_eq_ok_iff document).2 folded] at outcome
    cases outcome
  · next d outcome =>
    have denotes := denotes_iff.2 ⟨d, (scan_eq_ok_iff document).1 outcome, rfl⟩
    split
    · next checked => exact .inl ⟨_, denotes, fault?_eq_none_iff.1 checked, rfl⟩
    · next fault checked => exact .inr (.inl ⟨_, fault, denotes, checked, rfl⟩)

/-- The settings of an object are those that it denotes, if they are valid. -/
lemma ofJson_eq_ok_iff (document : IsDocument (.object ms) text) :
    ofJson text = .ok c ↔ Denotes ms c ∧ c.IsValid := by
  obtain ⟨c', denotes, valid, read⟩ | ⟨c', fault, denotes, faulty, read⟩ | ⟨fault, none, read⟩ :=
    ofJson_cases document
  · rw [read]
    constructor
    · rintro ⟨⟩
      exact ⟨denotes, valid⟩
    · exact fun both => congrArg _ (denotes.unique both.1)
  · rw [read]
    refine ⟨nofun, fun ⟨denotes', valid⟩ => ?_⟩
    rw [denotes.unique denotes', fault?_eq_none_iff.2 valid] at faulty
    cases faulty
  · rw [read]
    exact ⟨nofun, fun both => absurd both.1 (none c)⟩

end Document

/-! ### Writing -/

/-- The members that write a configuration. -/
def members (c : Config) : Members :=
  [(some "input", .texts c.input), (some "sourceMap", .bool c.sourceMap),
    (some "placeholderName", .string (some c.placeholderName))]

/-- The members of settings denote the settings. -/
lemma denotes_members (c : Config) : Denotes c.members c := by
  refine ⟨?known, ?nodup, .present ?_, .present ?_, .present ?_⟩
  case known => exact fun key mem => mem
  case nodup =>
    show [some "input", some "sourceMap", some "placeholderName"].Nodup
    decide
  · exact List.mem_cons_self
  · exact List.mem_cons_of_mem _ List.mem_cons_self
  · exact List.mem_cons_of_mem _ (List.mem_cons_of_mem _ List.mem_cons_self)

/-- The text of a configuration is an object with its members. -/
lemma isDocument_toJson (c : Config) : IsDocument (.object c.members) c.toJson := by
  have input := isMember_quote "input" areBlanks_nil (.list (separated_quote c.input))
  have flag :
      (Value.bool c.sourceMap).Written (if c.sourceMap then "true" else "false").toList := by
    cases c.sourceMap with
    | false => exact .boolFalse
    | true => exact .boolTrue
  have sourceMap := isMember_quote "sourceMap" areBlanks_nil flag
  have name := isMember_quote "placeholderName" areBlanks_nil
    (.string (isLiteral_quote c.placeholderName))
  have members := Separated.more areBlanks_nil input areBlanks_nil
    (.more areBlanks_nil sourceMap areBlanks_nil (.one areBlanks_nil name areBlanks_nil))
  refine ⟨[], _, [], areBlanks_nil, .object members, areBlanks_nil, ?_⟩
  have keys : (Text.quote "input").toList = "\"input\"".toList ∧
      (Text.quote "sourceMap").toList = "\"sourceMap\"".toList ∧
      (Text.quote "placeholderName").toList = "\"placeholderName\"".toList := by
    decide
  rw [keys.1, keys.2.1, keys.2.2, toJson]
  simp

/-! ### What is accepted -/

/-- What is read from any text is valid. -/
lemma fault?_of_ofJson {text : String} {c : Config} (read : ofJson text = .ok c) :
    c.fault? = none := by
  rw [ofJson_eq] at read
  split at read
  · cases read
  · split at read
    · next checked =>
      cases read
      exact checked
    · cases read

/-- A loader fails only if its configuration cannot be read. -/
lemma loader_ofJson_eq_error {text : String} {verbose : Bool} {failure : Failure}
    (failed : Loader.ofJson (some text) verbose = .error failure) :
    ∃ cause, ofJson text = .error cause ∧ failure = .config cause := by
  change ((ofJson text).mapError Failure.config >>= fun config => Plugin.ofConfig config >>= _) = _
    at failed
  cases read : ofJson text with
  | error cause =>
    rw [read] at failed
    cases failed
    exact ⟨cause, rfl, rfl⟩
  | ok c =>
    have made : Plugin.ofConfig c = .ok ⟨c, .typeScript, fault?_of_ofJson read⟩ :=
      Plugin.ofConfig_of_valid (fault?_of_ofJson read)
    rw [read] at failed
    change (Plugin.ofConfig c >>= _) = _ at failed
    rw [made] at failed
    cases failed

/-- An object is read as a configuration if and only if its members denote it and it is valid. Then
neither the order nor the writing of the members matters, and every valid configuration is read from
its own text. Otherwise the failure is one of the configuration: the first fault of the
configuration that is denoted, or a fault of the text if there is none. -/
theorem ofJson_object {ms : Members} {text : String} (document : IsDocument (.object ms) text) :
    (∀ c, ofJson text = .ok c ↔ Denotes ms c ∧ c.IsValid) ∧
    (∀ ms' text', ms.Perm ms' → IsDocument (.object ms') text' →
      ∀ c, ofJson text' = .ok c ↔ ofJson text = .ok c) ∧
    (∀ cause, ofJson text = .error cause →
      (∃ fault, cause = .json fault ∧ ∀ c, ¬ Denotes ms c) ∨
        ∃ c fault, cause = .invalid fault ∧ Denotes ms c ∧ c.fault? = some fault) ∧
    (∀ text' verbose failure, Loader.ofJson (some text') verbose = .error failure →
      ∃ cause, ofJson text' = .error cause ∧ failure = .config cause ∧ failure.path? = none) ∧
    ∀ c : Config, c.IsValid →
      IsDocument (.object c.members) c.toJson ∧ ofJson c.toJson = .ok c := by
  refine ⟨fun c => ofJson_eq_ok_iff document, ?order, ?causes, ?failures, ?written⟩
  case order =>
    intro ms' text' perm document' c
    rw [ofJson_eq_ok_iff document, ofJson_eq_ok_iff document']
    exact and_congr_left' ⟨fun denotes => denotes.perm perm.symm, fun denotes => denotes.perm perm⟩
  case causes =>
    intro cause failed
    obtain ⟨c, denotes, valid, read⟩ | ⟨c, fault, denotes, faulty, read⟩ | ⟨fault, none, read⟩ :=
      ofJson_cases document
    all_goals
      rw [read] at failed
      cases failed
    · exact .inr ⟨c, fault, rfl, denotes, faulty⟩
    · exact .inl ⟨fault, rfl, none⟩
  case failures =>
    intro text' verbose failure failed
    obtain ⟨cause, refused, rfl⟩ := loader_ofJson_eq_error failed
    exact ⟨cause, refused, rfl, rfl⟩
  case written =>
    intro c valid
    have document := isDocument_toJson c
    exact ⟨document, (ofJson_eq_ok_iff document).2 ⟨denotes_members c, valid⟩⟩

/-- Blanks, the order of the keys and the escape of a dot make no difference. -/
theorem ofJson_object_reordered :
    let text := "\x7b\"sourceMap\": true,\n \"input\" : [\"\\u002emts\"]\x7d"
    IsDocument (.object [(some "sourceMap", .bool true), (some "input", .texts [".mts"])]) text ∧
      ofJson text = .ok { input := [".mts"], sourceMap := true } := by
  intro text
  have letter {c : Char} {parts : List Part} {t : List Char} (plain : c ≠ '"' ∧ c ≠ '\\')
      (shown : 0x20 ≤ c.toNat) (more : Part.AreWritten parts t) :
      Part.AreWritten (.char c :: parts) (c :: t) := .cons (.plain plain.1 plain.2 shown) more
  have dot : Part.Written (.unit 0x2e) ['\\', 'u', '0', '0', '2', 'e'] :=
    .number (i := 0) (j := 0) (k := 2) (l := 14) (.inl rfl) (.inl rfl) (.inl rfl) (.inl rfl)
  have extension : IsLiteral (some ".mts") "\"\\u002emts\"".toList :=
    .mk (.cons dot (letter (by decide) (by decide) (letter (by decide) (by decide)
      (letter (by decide) (by decide) .nil))))
  have blank : AreBlanks [' '] := by simp [AreBlanks]
  have newLine : AreBlanks ['\n', ' '] := by simp [AreBlanks]
  have sourceMap := IsMember.mk (b := []) (isLiteral_quote "sourceMap") nofun blank
    Value.Written.boolTrue
  have input := IsMember.mk (isLiteral_quote "input") blank blank
    (Value.Written.list (.one (b := []) (d := []) nofun (.string extension) nofun))
  have members := Separated.more (b := []) (d := []) nofun sourceMap nofun
    (.one (d := []) newLine input nofun)
  have document :
      IsDocument (.object [(some "sourceMap", .bool true), (some "input", .texts [".mts"])])
      text :=
    ⟨[], _, [], nofun, .object members, nofun, by decide⟩
  refine ⟨document, ((ofJson_object document).1 _).2 ⟨⟨?known, ?nodup, ?_, ?_, ?_⟩, ⟨?_, ?_, ?_⟩⟩⟩
  case known => decide
  case nodup => decide
  · exact .present (List.mem_cons_of_mem _ List.mem_cons_self)
  · exact .present List.mem_cons_self
  · exact .absent fun v => by simp
  · exact List.cons_ne_nil _ _
  · decide
  · decide

end Config

end PlaceholderExports
