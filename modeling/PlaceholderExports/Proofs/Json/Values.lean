import PlaceholderExports.Proofs.Json.Strings

/-!
# Reading values

The first character of a value tells its shape, and a reader of a shape begins with it.

* `Reads`: a reader does with every value what a function of values says, whatever comes after it.
* `yields_of_separated`: what a loop over the parts between two brackets gives, for lists and
  objects alike.
* `reads_string`, `reads_boolean`, `reads_list`: the readers of the three shapes.
-/

namespace PlaceholderExports.Json

/-! ### Beginnings -/

/-- The characters with which a value may begin. -/
def Value.startsWith : Value → Char → Bool
  | .null, c => c = 'n'
  | .bool true, c => c = 't'
  | .bool false, c => c = 'f'
  | .number, c => c = '-' || c.isDigit
  | .string _, c => c = '"'
  | .list _, c => c = '['
  | .object _, c => c = '\x7b'

/-- Every value begins as it may. -/
lemma Value.Written.exists_start {v : Value} {t : List Char} (written : v.Written t) :
    ∃ c u, t = c :: u ∧ v.startsWith c = true := by
  cases written with
  | null => exact ⟨_, _, rfl, rfl⟩
  | boolTrue => exact ⟨_, _, rfl, rfl⟩
  | boolFalse => exact ⟨_, _, rfl, rfl⟩
  | number written =>
    obtain @⟨sign, whole, _, _, sign, ⟨⟨ne, digits⟩, -⟩, -, -⟩ := written
    obtain ⟨c, u, rfl⟩ := List.exists_cons_of_ne_nil ne
    simp only [List.mem_cons, List.not_mem_nil, or_false] at sign
    obtain rfl | rfl := sign
    · refine ⟨c, _, rfl, ?_⟩
      rw [startsWith, digits c List.mem_cons_self, Bool.or_true]
    · exact ⟨_, _, rfl, rfl⟩
  | string literal =>
    cases literal
    exact ⟨_, _, rfl, rfl⟩
  | list => exact ⟨_, _, rfl, rfl⟩
  | object => exact ⟨_, _, rfl, rfl⟩

/-- A written value is not empty. -/
lemma Value.Written.ne_nil {v : Value} {t : List Char} (written : v.Written t) : t ≠ [] := by
  obtain ⟨c, u, rfl, -⟩ := written.exists_start
  exact List.cons_ne_nil c u

/-- No value begins with a blank, or with a bracket that closes. -/
lemma Value.startsWith_imp {v : Value} {c : Char} (starts : v.startsWith c = true) :
    isBlank c = false ∧ c ≠ ']' := by
  have never : ∀ d ∈ [' ', '\n', '\t', '\r', ']'], v.startsWith d = false := by
    intro d mem
    simp only [List.mem_cons, List.not_mem_nil, or_false] at mem
    cases v with
    | bool b => cases b <;> rcases mem with rfl | rfl | rfl | rfl | rfl <;> rfl
    | _ => rcases mem with rfl | rfl | rfl | rfl | rfl <;> rfl
  refine ⟨?_, ?_⟩
  · rw [Bool.eq_false_iff]
    intro blank
    simp only [isBlank, Bool.or_eq_true, beq_iff_eq, or_assoc] at blank
    have mem : c ∈ [' ', '\n', '\t', '\r', ']'] := by
      simpa [or_assoc] using Or.inl blank
    exact absurd starts (Bool.eq_false_iff.1 (never c mem))
  · rintro rfl
    exact absurd starts (Bool.eq_false_iff.1 (never _ (by decide)))

/-! ### Blanks -/

/-- There are four blanks. -/
lemma isBlank_iff {c : Char} : isBlank c = true ↔ c ∈ [' ', '\t', '\n', '\r'] := by
  simp only [isBlank, Bool.or_eq_true, beq_iff_eq, List.mem_cons, List.not_mem_nil, or_false]
  tauto

/-- The character behind some blanks. -/
lemma peek_eq {b u : List Char} {c : Char} (blanks : AreBlanks b) (shown : isBlank c = false) :
    peek (b ++ c :: u) = .ok (some c, c :: u) := by
  have found : (b ++ c :: u).dropWhile isBlank = c :: u := by
    rw [List.dropWhile_append_of_pos fun c mem => isBlank_iff.2 (blanks c mem)]
    exact List.dropWhile_cons_of_neg (by simp [shown])
  unfold peek
  rw [found]
  rfl

/-! ### Values of a shape -/

section Scan

variable {α β : Type} {p : Scan α} {f : α → Scan β} {a : α} {text rest : List Char} {fault : Fault}

/-- A reader goes on behind what was read. -/
lemma bind_of_ok (first : p text = .ok (a, rest)) : (p >>= f) text = f a rest := by
  show (p text >>= fun r => f r.1 r.2) = _
  rw [first]
  rfl

/-- A reader stops at a fault. -/
lemma bind_of_error (first : p text = .error fault) : (p >>= f) text = .error fault := by
  show (p text >>= fun r => f r.1 r.2) = _
  rw [first]
  rfl

/-- Two readers yield what the second one yields after the first. -/
lemma Yields.scan {a? : Option α} {g : α → Option β} {rest' : List Char}
    (first : Yields (p text) a? rest) (second : ∀ a, a? = some a → Yields (f a rest) (g a) rest') :
    Yields ((p >>= f) text) (a?.bind g) rest' :=
  Yields.bind (f := fun r => f r.1 r.2) first second

end Scan

/-- On every value as it is written, behind blanks, a reader yields what a function makes of the
value: a result and the text after the value, or a fault. -/
def Reads {α : Type} (p : Scan α) (f : Value → Option α) : Prop :=
  ∀ v b t rest, AreBlanks b → v.Written t → Yields (p (b ++ t ++ rest)) (f v) rest

/-- A reader of a shape meets what it is asked for if the first character of a value decides on
it. -/
lemma reads_value {α : Type} {expected : Shape} {read : Char → Option (Scan α)}
    {f : Value → Option α}
    (here : ∀ v c u rest p, v.Written (c :: u) → v.startsWith c = true → read c = some p →
      Yields (p (c :: u ++ rest)) (f v) rest)
    (other : ∀ v c, v.startsWith c = true → read c = none → f v = none) :
    Reads (value expected read) f := by
  intro v b t rest blanks written
  obtain ⟨c, u, rfl, starts⟩ := written.exists_start
  have peeked : peek (b ++ (c :: u) ++ rest) = .ok (some c, c :: u ++ rest) := by
    rw [List.append_assoc, List.cons_append]
    exact peek_eq blanks (Value.startsWith_imp starts).1
  unfold value
  rw [bind_of_ok peeked]
  dsimp only
  cases found : read c with
  | some p => exact here v c u rest p written starts found
  | none =>
    rw [other v c starts found]
    dsimp only
    -- what is found is read only to be shown
    cases shown : Json.found c (c :: u ++ rest) with
    | error fault =>
      rw [bind_of_error shown]
      exact .error
    | ok r =>
      rw [bind_of_ok shown]
      exact .error

/-- The text of a string. -/
def Value.text? : Value → Option String
  | .string text? => text?
  | _ => none

/-- The truth value of a boolean. -/
def Value.flag? : Value → Option Bool
  | .bool b => some b
  | _ => none

/-- The results of the items of a list. -/
def Value.items? {α : Type} (f : Value → Option α) : Value → Option (List α)
  | .list items => items.mapM f
  | _ => none

/-- What is done with what a reader gives. -/
lemma Reads.map {α β : Type} {p : Scan α} {f : Value → Option α} (reads : Reads p f) (g : α → β) :
    Reads (p >>= fun a => pure (g a)) fun v => (f v).map g := by
  intro v b t rest blanks written
  show Yields _ ((f v).map g) rest
  rw [Option.map_eq_bind]
  exact Yields.scan (reads v b t rest blanks written) fun a _ => .ok

/-- A reader of strings takes texts only. -/
lemma reads_string : Reads string Value.text? := by
  refine reads_value ?here ?other
  case here =>
    intro v c u rest p written starts found
    obtain ⟨rfl, same⟩ := Option.ite_none_right_eq_some.1 found
    cases same
    cases written with
    | string literal =>
      obtain ⟨t, whole, yields⟩ := stringTail_yields literal
      cases whole
      exact yields rest
    | number => cases starts
  case other =>
    intro v c starts none
    cases v with
    | string text? =>
      obtain rfl : c = '"' := of_decide_eq_true starts
      cases none
    | _ => rfl

/-- A reader of truth values takes these only. -/
lemma reads_boolean : Reads boolean Value.flag? := by
  refine reads_value ?here ?other
  case here =>
    intro v c u rest p written starts found
    by_cases yes : c = 't'
    · subst yes
      cases found
      cases written with
      | boolTrue => exact .ok
      | _ => cases starts
    · by_cases no : c = 'f'
      · subst no
        cases found
        cases written with
        | boolFalse => exact .ok
        | _ => cases starts
      · rw [if_neg yes, if_neg no] at found
        cases found
  case other =>
    intro v c starts none
    cases v with
    | bool b =>
      cases b with
      | true =>
        obtain rfl : c = 't' := of_decide_eq_true starts
        cases none
      | false =>
        obtain rfl : c = 'f' := of_decide_eq_true starts
        cases none
    | _ => rfl

/-! ### Parts between brackets -/

section Parts

variable {σ α β : Type} {writes : α → List Char → Prop} {xs : List α} {u : List Char}

/-- A loop reads the parts between brackets if it ends with the closing bracket, and goes past a
part that comes right after the opening bracket or behind a comma. -/
lemma yields_of_separated (loop : List Char → Bool → σ → Scan β) {close : Char}
    {rest rest' : List Char} {base : σ → Option β} {make : α → (σ → Option β) → σ → Option β}
    (ends : ∀ x fuel isFirst s b, AreBlanks b →
      Yields (loop (x :: fuel) isFirst s (b ++ close :: rest)) (base s) rest')
    (goesOn : ∀ x fuel s v b t text after, AreBlanks b → writes v t →
      (∀ s, Yields (loop fuel false s text) (after s) rest') →
      Yields (loop (x :: fuel) true s (b ++ t ++ text)) (make v after s) rest' ∧
        ∀ b', AreBlanks b' →
          Yields (loop (x :: fuel) false s (b' ++ ',' :: (b ++ t ++ text))) (make v after s) rest')
    (written : Separated writes xs u) {fuel : List Char} (enough : xs.length < fuel.length)
    (s : σ) :
    Yields (loop fuel true s (u ++ close :: rest)) (xs.foldr make base s) rest' ∧
      (xs ≠ [] → ∀ b, AreBlanks b →
        Yields (loop fuel false s (b ++ ',' :: (u ++ close :: rest))) (xs.foldr make base s)
          rest') := by
  induction written generalizing fuel s with
  | none blanks =>
    obtain _ | ⟨x, fuel⟩ := fuel
    · cases enough
    · exact ⟨ends x fuel true s _ blanks, fun ne => absurd rfl ne⟩
  | @one v b t b' blanks written blanks' =>
    obtain _ | ⟨x, _ | ⟨y, fuel⟩⟩ := fuel
    · cases enough
    · exact absurd enough (Nat.lt_irrefl _)
    · have both := goesOn x (y :: fuel) s v b t (b' ++ close :: rest) base blanks written
        fun s => ends y fuel false s b' blanks'
      rw [List.append_assoc (b ++ t)]
      exact ⟨both.1, fun _ => both.2⟩
  | @more v w vs b t b' u blanks written blanks' more ih =>
    obtain _ | ⟨x, fuel⟩ := fuel
    · cases enough
    · have both := goesOn x fuel s v b t (b' ++ ',' :: (u ++ close :: rest)) _ blanks written
        fun s => (ih (Nat.lt_of_succ_lt_succ enough) s).2 nofun b' blanks'
      have whole : b ++ t ++ b' ++ ',' :: u ++ close :: rest =
          b ++ t ++ (b' ++ ',' :: (u ++ close :: rest)) := by
        simp only [List.append_assoc, List.cons_append]
      rw [whole]
      exact ⟨both.1, fun _ => both.2⟩

/-- The parts are no more than the characters of their text. -/
lemma length_le_of_separated (nonempty : ∀ x t, writes x t → t ≠ [])
    (written : Separated writes xs u) : xs.length ≤ u.length := by
  induction written with
  | none => exact Nat.zero_le _
  | @one x b t b' _ written _ =>
    have := List.length_pos_of_ne_nil (nonempty x t written)
    simp only [List.length_append, List.length_cons, List.length_nil]
    omega
  | @more x y xs b t b' u _ written _ _ ih =>
    have := List.length_pos_of_ne_nil (nonempty x t written)
    simp only [List.length_append, List.length_cons] at ih ⊢
    omega

end Parts

/-! ### Lists -/

section Items

variable {b b' u : List Char} {c : Char}

/-- The closing bracket ends a list. -/
lemma hasItem_end (isFirst : Bool) (blanks : AreBlanks b) :
    hasItem isFirst (b ++ ']' :: u) = .ok (false, ']' :: u) := by
  unfold hasItem
  rw [bind_of_ok (peek_eq blanks (by decide))]
  rfl

/-- The first item comes right after the opening bracket. -/
lemma hasItem_first (blanks : AreBlanks b) (shown : isBlank c = false) (notEnd : c ≠ ']') :
    hasItem true (b ++ c :: u) = .ok (true, c :: u) := by
  unfold hasItem
  rw [bind_of_ok (peek_eq blanks shown)]
  simp only [if_true]
  generalize found : some c = front
  split
  · cases found
  · cases found
    exact absurd rfl notEnd
  · rfl
  · rfl

/-- Every other item comes after a comma. -/
lemma hasItem_next (blanks : AreBlanks b) (blanks' : AreBlanks b') (shown : isBlank c = false)
    (notEnd : c ≠ ']') : hasItem false (b ++ ',' :: (b' ++ c :: u)) = .ok (true, c :: u) := by
  unfold hasItem
  rw [bind_of_ok (peek_eq blanks (by decide))]
  have skipped : skip (',' :: (b' ++ c :: u)) = .ok ((), b' ++ c :: u) := rfl
  show (skip >>= _) (',' :: (b' ++ c :: u)) = _
  rw [bind_of_ok skipped, bind_of_ok (peek_eq blanks' shown)]
  generalize found : some c = front
  split
  · cases found
  · cases found
    exact absurd rfl notEnd
  · rfl

variable {α : Type} {item : Scan α} {x : Char} {fuel text text' : List Char}

/-- Without another item the items end. -/
lemma items_of_end {isFirst : Bool} (none : hasItem isFirst text = .ok (false, text')) :
    items item (x :: fuel) isFirst text = .ok ([], text') := by
  unfold items
  rw [bind_of_ok none]
  rfl

/-- With another item the items are this one and those after it. -/
lemma items_of_item {isFirst : Bool} (more : hasItem isFirst text = .ok (true, text')) :
    items item (x :: fuel) isFirst text =
      (item >>= fun a => items item fuel false >>= fun as => pure (a :: as)) text' := by
  conv_lhs => unfold items
  rw [bind_of_ok more]
  rfl

variable {f : Value → Option α} {v : Value} {vs : List Value} {t rest : List Char}
  {as? : Option (List α)}

/-- What an item and the items after it yield, once the item has been reached. -/
lemma item_yields (reads : Reads item f) (written : v.Written t)
    (after : Yields (items item fuel false text) as? rest) :
    Yields ((item >>= fun a => items item fuel false >>= fun as => pure (a :: as)) (t ++ text))
      ((f v).bind fun a => as?.map (a :: ·)) rest := by
  refine Yields.scan (reads v [] t text nofun written) fun a _ => ?_
  rw [Option.map_eq_bind]
  exact Yields.scan after fun as _ => .ok

/-- The results for a list are that of its head and then those of its tail. -/
lemma mapM_cons_eq_bind (f : Value → Option α) (v : Value) (vs : List Value) :
    (v :: vs).mapM f = (f v).bind fun a => (vs.mapM f).map (a :: ·) := by
  rw [List.mapM_cons]
  cases f v with
  | none => rfl
  | some a =>
    cases vs.mapM f with
    | none => rfl
    | some as => rfl

/-- The items of a list yield what its values make, one after the other. -/
lemma items_yields (reads : Reads item f) (written : Separated Value.Written vs u)
    (enough : vs.length < fuel.length) (rest : List Char) :
    Yields (items item fuel true (u ++ ']' :: rest)) (vs.mapM f) (']' :: rest) := by
  have results (s : Unit) :
      vs.foldr (fun v after s => (f v).bind fun a => (after s).map (a :: ·)) (fun _ => some []) s =
        vs.mapM f := by
    clear written enough
    induction vs with
    | nil => rfl
    | cons v vs ih => rw [List.foldr_cons, ih, mapM_cons_eq_bind]
  rw [← results ()]
  refine (yields_of_separated (fun fuel isFirst _ => items item fuel isFirst) ?ends ?goesOn written
    enough ()).1
  case ends =>
    intro x fuel isFirst _ b blanks
    rw [items_of_end (hasItem_end isFirst blanks)]
    exact .ok
  case goesOn =>
    intro x fuel _ v b t text after blanks written more
    have yields := item_yields reads written (more ())
    obtain ⟨c, u, rfl, starts⟩ := written.exists_start
    obtain ⟨shown, notEnd⟩ := Value.startsWith_imp starts
    rw [List.append_assoc, List.cons_append]
    refine ⟨?_, fun b' blanks' => ?_⟩
    · rw [items_of_item (hasItem_first blanks shown notEnd)]
      exact yields
    · rw [items_of_item (hasItem_next blanks' blanks shown notEnd)]
      exact yields

/-- A bracket ends a list. -/
lemma listEnd_eq (rest : List Char) : listEnd (']' :: rest) = .ok ((), rest) := by
  have found : peek (']' :: rest) = .ok (some ']', ']' :: rest) :=
    peek_eq (b := []) nofun (by decide)
  unfold listEnd
  rw [bind_of_ok found]
  rfl

/-- A list is read as its values are. -/
lemma reads_list (reads : Reads item f) : Reads (list item) (Value.items? f) := by
  refine reads_value ?here ?other
  case here =>
    intro v c u rest p written starts found
    obtain ⟨rfl, same⟩ := Option.ite_none_right_eq_some.1 found
    cases same
    cases written with
    | @list vs u written =>
      show Yields ((items item (' ' :: (u ++ [']'] ++ rest)) true >>= fun xs =>
        listEnd >>= fun _ => pure xs) (u ++ [']'] ++ rest)) (vs.mapM f) rest
      have enough : vs.length < (' ' :: (u ++ [']'] ++ rest)).length := by
        have := length_le_of_separated (fun v t written => written.ne_nil) written
        simp only [List.length_cons, List.length_append]
        omega
      have read := items_yields reads written enough rest
      rw [List.append_assoc, List.singleton_append] at read ⊢
      rw [← Option.bind_fun_some (vs.mapM f)]
      refine Yields.scan read fun as _ => ?_
      rw [bind_of_ok (listEnd_eq rest)]
      exact .ok
    | _ => cases starts
  case other =>
    intro v c starts none
    cases v with
    | list items =>
      obtain rfl : c = '[' := of_decide_eq_true starts
      cases none
    | _ => rfl

end Items

/-! ### Between the members of an object -/

section Members

variable {b b' : List Char}

/-- The closing brace ends an object. -/
lemma hasMember_end (isFirst : Bool) (blanks : AreBlanks b) (rest : List Char) :
    hasMember isFirst (b ++ '\x7d' :: rest) = .ok (false, '\x7d' :: rest) := by
  unfold hasMember
  rw [bind_of_ok (peek_eq blanks (by decide))]
  rfl

/-- The quote of the first key comes right after the opening brace. -/
lemma hasMember_first (blanks : AreBlanks b) (rest : List Char) :
    hasMember true (b ++ '"' :: rest) = .ok (true, '"' :: rest) := by
  unfold hasMember
  rw [bind_of_ok (peek_eq blanks (by decide))]
  rfl

/-- The quote of every other key comes after a comma. -/
lemma hasMember_next (blanks : AreBlanks b) (blanks' : AreBlanks b') (rest : List Char) :
    hasMember false (b ++ ',' :: (b' ++ '"' :: rest)) = .ok (true, '"' :: rest) := by
  unfold hasMember
  rw [bind_of_ok (peek_eq blanks (by decide))]
  have skipped : skip (',' :: (b' ++ '"' :: rest)) = .ok ((), b' ++ '"' :: rest) := rfl
  show (skip >>= _) (',' :: (b' ++ '"' :: rest)) = _
  rw [bind_of_ok skipped, bind_of_ok (peek_eq blanks' (by decide))]
  rfl

/-- A colon may stand behind blanks. -/
lemma colon_eq (blanks : AreBlanks b) (rest : List Char) :
    colon (b ++ ':' :: rest) = .ok ((), rest) := by
  unfold colon
  rw [bind_of_ok (peek_eq blanks (by decide))]
  rfl

end Members

/-! ### Whole texts -/

/-- A text of which blanks are left is read as a whole. -/
lemma whole_eq_ok_iff {α : Type} {p : Scan α} {text : String} {a? : Option α} {b : List Char}
    (yields : Yields (p text.toList) a? b) (blanks : AreBlanks b) {a : α} :
    whole p text = .ok a ↔ a? = some a := by
  have ends : (b.dropWhile isBlank).isEmpty = true := by
    rw [List.isEmpty_iff, List.dropWhile_eq_nil_iff]
    exact fun c mem => isBlank_iff.2 (blanks c mem)
  unfold whole
  cases outcome : p text.toList with
  | ok r =>
    rw [outcome] at yields
    cases yields
    show (if (b.dropWhile isBlank).isEmpty = true then pure _ else _) = _ ↔ _
    rw [if_pos ends, Option.some_inj]
    exact ⟨fun same => Except.ok.inj same, congrArg Except.ok⟩
  | error fault =>
    rw [outcome] at yields
    cases yields
    exact ⟨nofun, nofun⟩

end PlaceholderExports.Json
