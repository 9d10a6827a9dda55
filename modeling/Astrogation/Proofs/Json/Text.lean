import Astrogation.Proofs.Decimal.Single
import Astrogation.Proofs.Json.Tokens

/-!
# Values in texts

A value is read from the text it was printed as: what is read is `Json.plain` of it
(`read?_pretty`). The reader only looks at what is left behind the blanks, so the indentation
does not matter. The steps it may make are bounded by twice the length of the text. It is left to
assume that numbers are read as they were written (`ReadsBack`), which can be computed for each
of them.
-/

namespace Astrogation.Json

/-- A number which is read as it was written. -/
def ReadsBack (x : Float) : Prop := read? (pretty (float x)) = some (float x)

/-- Whether a value is this number. -/
def isNumber (x : Float) : Json → Bool
  | float y => y = x
  | _ => false

/-- Whether a number is read as it was written can be found out by reading it. -/
theorem readsBack_iff {x : Float} :
    ReadsBack x ↔ (read? (pretty (float x))).any (isNumber x) = true := by
  rw [ReadsBack, Option.any_eq_true]
  constructor
  · exact fun read => ⟨float x, read, decide_eq_true rfl⟩
  · rintro ⟨value, read, same⟩
    cases value with
    | float y => rw [read, of_decide_eq_true same]
    | _ => cases same

instance (x : Float) : Decidable (ReadsBack x) := decidable_of_iff _ readsBack_iff.symm

mutual

/-- The numbers with places that stand in a value. -/
def numbers : Json → List Float
  | float x => [x]
  | array items => itemNumbers items
  | object members => memberNumbers members
  | _ => []

/-- The numbers with places that stand in the items of a list. -/
def itemNumbers : List Json → List Float
  | [] => []
  | item :: items => item.numbers ++ itemNumbers items

/-- The numbers with places that stand in the members of an object. -/
def memberNumbers : List (String × Json) → List Float
  | [] => []
  | (_, value) :: members => value.numbers ++ memberNumbers members

end

theorem numbers_array (items : List Json) : (array items).numbers = items.flatMap numbers := by
  show itemNumbers items = _
  induction items with
  | nil => rfl
  | cons item items ih => rw [itemNumbers, ih, List.flatMap_cons]

theorem numbers_object (members : List (String × Json)) :
    (object members).numbers = members.flatMap fun m => m.2.numbers := by
  show memberNumbers members = _
  induction members with
  | nil => rfl
  | cons m members ih => rw [memberNumbers, ih, List.flatMap_cons]

/-- A value whose whole numbers have no more than 64 bits, and in which no more than `depth`
    arrays and objects stand inside each other. -/
inductive Printable : (depth : Nat) → Json → Prop
  | null {depth : Nat} : Printable depth null
  | bool {depth : Nat} (value : Bool) : Printable depth (bool value)
  | int {depth : Nat} {value : Int} (low : -2 ^ 63 ≤ value) (high : value < 2 ^ 64) :
    Printable depth (int value)
  | float {depth : Nat} (value : Float) : Printable depth (float value)
  | string {depth : Nat} (value : String) : Printable depth (string value)
  | array {depth : Nat} {items : List Json} (each : ∀ item ∈ items, Printable depth item) :
    Printable (depth + 1) (array items)
  | object {depth : Nat} {members : List (String × Json)}
    (each : ∀ m ∈ members, Printable depth m.2) : Printable (depth + 1) (object members)

/-! ## Blanks -/

section

variable {cs cs' rest : List Char} {steps depth : Nat}

/-- A new line and its indentation are blanks. -/
theorem skipSpace_newLine (indent : Nat) (cs : List Char) :
    skipSpace ((newLine indent).toList ++ cs) = skipSpace cs := by
  have blank : ∀ n, skipSpace (List.replicate n ' ' ++ cs) = skipSpace cs := by
    intro n
    induction n with
    | zero => rfl
    | succ n ih => exact ih
  rw [newLine, String.toList_ofList]
  exact blank (2 * indent)

/-- A value is read behind blanks as it is without them. -/
theorem readValue?_skipSpace (same : skipSpace cs = skipSpace cs') (steps depth : Nat) :
    readValue? steps depth cs = readValue? steps depth cs' := by
  cases steps with
  | zero => rfl
  | succ steps => rw [readValue?, readValue?, same]

theorem readMembers?_skipSpace (same : skipSpace cs = skipSpace cs') (steps depth : Nat) :
    readMembers? steps depth cs = readMembers? steps depth cs' := by
  cases steps with
  | zero => rfl
  | succ steps => rw [readMembers?, readMembers?, readKey?, readKey?, same]

theorem readItems?_skipSpace (same : skipSpace cs = skipSpace cs') (steps depth : Nat) :
    readItems? steps depth cs = readItems? steps depth cs' := by
  cases steps with
  | zero => rfl
  | succ steps =>
    rw [readItems?, readItems?, readValue?_skipSpace same]

/-- No item starts with a closing bracket. -/
theorem readItems?_bracket (h : skipSpace cs = ']' :: rest) (steps depth : Nat) :
    readItems? steps depth cs = none := by
  cases steps with
  | zero => rfl
  | succ steps =>
    have absent : readValue? steps depth cs = none := by
      cases steps with
      | zero => rfl
      | succ steps =>
        rw [readValue?, h]
        rfl
    rw [readItems?, absent]

/-- No member starts with a closing brace. -/
theorem readMembers?_brace (h : skipSpace cs = '}' :: rest) (steps depth : Nat) :
    readMembers? steps depth cs = none := by
  cases steps with
  | zero => rfl
  | succ steps =>
    rw [readMembers?, readKey?, h]
    rfl

/-- Keys which are all there make an object. -/
theorem objectOf_some (members : List (String × Json)) :
    objectOf (members.map fun m => (some m.1, m.2)) = object members := by
  have all : (members.map fun m => (some m.1, m.2)).mapM
      (fun m : Option String × Json => m.1.map (·, m.2)) = some members := by
    induction members with
    | nil => rfl
    | cons m members ih =>
      rw [List.map_cons, List.mapM_cons, ih]
      rfl
  rw [objectOf]
  split
  · next found =>
    obtain rfl := Option.some.inj (found.symm.trans all)
    rfl
  · next lost => cases lost.symm.trans all

/-- Behind an opening bracket there is the list without items, or the first item and the
    others. -/
theorem readValue?_bracket (steps depth : Nat) (cs : List Char) :
    readValue? (steps + 1) (depth + 1) ('[' :: cs) =
      match skipSpace cs with
      | ']' :: rest => some (array [], rest)
      | _ => (readItems? steps depth cs).map fun (items, rest) => (array items, rest) :=
  rfl

theorem readValue?_brace (steps depth : Nat) (cs : List Char) :
    readValue? (steps + 1) (depth + 1) ('{' :: cs) =
      match skipSpace cs with
      | '}' :: rest => some (object [], rest)
      | _ => (readMembers? steps depth cs).map fun (members, rest) => (objectOf members, rest) :=
  rfl

theorem readValue?_array {items : List Json}
    (h : readItems? steps depth cs = some (items, rest)) :
    readValue? (steps + 1) (depth + 1) ('[' :: cs) = some (array items, rest) := by
  rw [readValue?_bracket]
  split
  · next closed =>
    rw [readItems?_bracket closed] at h
    cases h
  · rw [h]
    rfl

theorem readValue?_object {members : List (String × Json)}
    (h : readMembers? steps depth cs = some (members.map fun m => (some m.1, m.2), rest)) :
    readValue? (steps + 1) (depth + 1) ('{' :: cs) = some (object members, rest) := by
  rw [readValue?_brace]
  split
  · next closed =>
    rw [readMembers?_brace closed] at h
    cases h
  · rw [h, Option.map_some]
    dsimp only
    rw [objectOf_some]

/-- If more is left of a text than blanks, what is added to it is not looked at. -/
theorem skipSpace_append (nonempty : skipSpace cs ≠ []) (rest : List Char) :
    skipSpace (cs ++ rest) = skipSpace cs ++ rest := by
  rw [skipSpace, List.dropWhile_append, if_neg]
  · rfl
  · exact fun empty => nonempty (List.isEmpty_iff.1 empty)

theorem skipSpace_append_of_blank (blank : skipSpace cs = []) (rest : List Char) :
    skipSpace (cs ++ rest) = skipSpace rest := by
  rw [skipSpace, List.dropWhile_append, if_pos]
  · rfl
  · exact List.isEmpty_iff.2 blank

theorem skipSpace_of_read {value : Json} (h : readNumber? cs = some (value, rest)) :
    skipSpace cs = cs := by
  cases cs with
  | nil => rfl
  | cons c cs =>
    refine List.dropWhile_cons_of_neg fun blank => ?_
    simp only [isSpace, Bool.or_eq_true, beq_iff_eq] at blank
    rcases blank with ((rfl | rfl) | rfl) | rfl <;> cases h

/-- A value which starts with none of the marks of other values is a number. -/
theorem readValue?_of_readNumber? {value : Json} (steps depth : Nat)
    (h : readNumber? (skipSpace cs) = some (value, rest)) :
    readValue? (steps + 1) depth cs = some (value, rest) := by
  rw [readValue?]
  split
  · next same => rw [same] at h; cases h
  · next same => rw [same] at h; cases h
  · next same => rw [same] at h; cases h
  · next same => rw [same] at h; cases h
  · next same => rw [same] at h; cases h
  · next same => rw [same] at h; cases h
  · exact h

/-- Of all values, only a number is read as one. -/
theorem readNumber?_of_readValue? {x : Float}
    (h : readValue? (steps + 1) depth cs = some (float x, rest)) :
    readNumber? (skipSpace cs) = some (float x, rest) := by
  -- What starts with the mark of another value is none, however deep it stands.
  have other : ∀ value, nested depth value = float x → value = float x := by
    cases depth with
    | zero => exact fun value same => nomatch same
    | succ depth => exact fun value same => same
  have noObject : ∀ members, objectOf members ≠ float x := by
    intro members same
    rw [objectOf] at same
    split at same
    · cases same
    · cases same
  rw [readValue?] at h
  split at h
  · cases h
  · cases h
  · cases h
  · obtain ⟨⟨contents, rest'⟩, -, same⟩ := Option.map_eq_some_iff.1 h
    cases contents <;> cases same
  · split at h
    · cases other _ (Prod.mk.inj (Option.some.inj h)).1
    · obtain ⟨⟨items, rest'⟩, -, same⟩ := Option.map_eq_some_iff.1 h
      cases other _ (Prod.mk.inj same).1
  · split at h
    · cases other _ (Prod.mk.inj (Option.some.inj h)).1
    · obtain ⟨⟨members, rest'⟩, -, same⟩ := Option.map_eq_some_iff.1 h
      exact absurd (other _ (Prod.mk.inj same).1) (noObject members)
  · exact h

theorem readKey?_quote (cs : List Char) :
    readKey? ('"' :: cs) =
      match readString? cs with
      | some (key, rest) =>
        match skipSpace rest with
        | ':' :: rest => some (key, rest)
        | _ => none
      | none => none :=
  rfl

/-- A key and its colon are read as they were written. -/
theorem readKey?_writeString (key : String) (rest : List Char) :
    readKey? ((writeString key).toList ++ ':' :: rest) = some (some key, rest) := by
  obtain ⟨body, text, read⟩ := readString?_writeString key (':' :: rest)
  rw [text, readKey?_quote, read]
  rfl

end

/-! ## Values -/

/-- A value which is read from its text, whatever follows. What is left are blanks and what
    follows. -/
def Prints (depth : Nat) (value : Json) : Prop :=
  ∀ indent steps rest, EndsNumber rest → 2 * (prettyAt indent value).toList.length ≤ steps →
    ∃ rest', readValue? steps depth ((prettyAt indent value).toList ++ rest) =
      some (value.plain, rest') ∧ skipSpace rest' = skipSpace rest

theorem endsNumber_nil : EndsNumber [] := fun _ none => nomatch none

theorem endsNumber_newLine (indent : Nat) (cs : List Char) :
    EndsNumber ((newLine indent).toList ++ cs) := by
  rw [newLine, String.toList_ofList]
  intro c hc
  obtain rfl := Option.some.inj hc
  decide

theorem endsNumber_comma (cs : List Char) : EndsNumber (',' :: cs) := by
  intro c hc
  obtain rfl := Option.some.inj hc
  decide

section

variable {depth : Nat} (indent outer : Nat) (rest : List Char)

/-- The items of a list are read up to the bracket that closes it, if each of them is read from
    its own text. Twice the length of the texts, and one more, is enough steps. -/
theorem readItems?_pretty (items : List Json) (item : Json) (steps : Nat)
    (prints : ∀ i ∈ item :: items, Prints depth i)
    (enough : 2 * (prettyAt indent item).toList.length +
      2 * (prettyItems indent items).toList.length + 1 ≤ steps) :
    readItems? steps depth ((prettyAt indent item).toList ++ ((prettyItems indent items).toList ++
        ((newLine outer).toList ++ ']' :: rest))) =
      some (plainItems (item :: items), rest) := by
  induction items generalizing item steps with
  | nil =>
    obtain ⟨steps, rfl⟩ := Nat.exists_eq_succ_of_ne_zero (by omega : steps ≠ 0)
    obtain ⟨rest', read, left⟩ := prints item List.mem_cons_self indent steps
      ((newLine outer).toList ++ ']' :: rest) (endsNumber_newLine outer _) (by omega)
    rw [skipSpace_newLine] at left
    rw [show (prettyItems indent []).toList = [] from rfl, List.nil_append, readItems?, read]
    dsimp only
    rw [left]
    rfl
  | cons next items ih =>
    obtain ⟨steps, rfl⟩ := Nat.exists_eq_succ_of_ne_zero (by omega : steps ≠ 0)
    have text : (prettyItems indent (next :: items)).toList = ',' :: ((newLine indent).toList ++
        ((prettyAt indent next).toList ++ (prettyItems indent items).toList)) := by
      rw [prettyItems]
      simp only [String.toList_append, List.append_assoc]
      rfl
    rw [text] at enough ⊢
    simp only [List.length_cons, List.length_append] at enough
    have later := ih next steps (fun i hi => prints i (List.mem_cons_of_mem item hi)) (by omega)
    obtain ⟨rest', read, left⟩ := prints item List.mem_cons_self indent steps
      (',' :: ((newLine indent).toList ++ ((prettyAt indent next).toList ++
        ((prettyItems indent items).toList ++ ((newLine outer).toList ++ ']' :: rest)))))
      (endsNumber_comma _) (by omega)
    simp only [List.cons_append, List.append_assoc]
    rw [readItems?, read]
    dsimp only
    rw [left]
    exact (congrArg (Option.map _)
      ((readItems?_skipSpace (skipSpace_newLine indent _) steps depth).trans later)).trans rfl

/-- The text of a member. -/
def memberText (indent : Nat) (m : String × Json) : String :=
  writeString m.1 ++ ": " ++ prettyAt indent m.2

theorem toList_memberText (indent : Nat) (key : String) (value : Json) :
    (memberText indent (key, value)).toList =
      (writeString key).toList ++ ':' :: ' ' :: (prettyAt indent value).toList := by
  rw [memberText]
  simp only [String.toList_append, List.append_assoc]
  rfl

/-- A member at the start of a text, whatever follows. -/
theorem readMember?_pretty (m : String × Json) (steps : Nat) (prints : Prints depth m.2)
    (ends : EndsNumber rest) (enough : 2 * (memberText indent m).toList.length ≤ steps) :
    readMembers? (steps + 1) depth ((memberText indent m).toList ++ rest) =
      (match skipSpace rest with
      | ',' :: rest =>
        (readMembers? steps depth rest).map fun (members, rest) =>
          ((some m.1, m.2.plain) :: members, rest)
      | '}' :: rest => some ([(some m.1, m.2.plain)], rest)
      | _ => none) := by
  obtain ⟨key, value⟩ := m
  rw [toList_memberText] at enough ⊢
  simp only [List.length_cons, List.length_append] at enough
  obtain ⟨rest', read, left⟩ := prints indent steps rest ends (by dsimp only; omega)
  have blank : ∀ cs, skipSpace (' ' :: cs) = skipSpace cs := fun _ => rfl
  rw [List.append_assoc, List.cons_append, List.cons_append, readMembers?, readKey?_writeString]
  dsimp only
  rw [readValue?_skipSpace (blank _), read]
  dsimp only
  generalize skipSpace rest = follows at left ⊢
  subst left
  rfl

/-- The members of an object are read up to the brace that closes it, like the items of a list. -/
theorem readMembers?_pretty (members : List (String × Json)) (m : String × Json) (steps : Nat)
    (prints : ∀ m' ∈ m :: members, Prints depth m'.2)
    (enough : 2 * (memberText indent m).toList.length +
      2 * (prettyMembers indent members).toList.length + 1 ≤ steps) :
    readMembers? steps depth ((memberText indent m).toList ++
        ((prettyMembers indent members).toList ++ ((newLine outer).toList ++ '}' :: rest))) =
      some ((plainMembers (m :: members)).map fun m => (some m.1, m.2), rest) := by
  induction members generalizing m steps with
  | nil =>
    obtain ⟨steps, rfl⟩ := Nat.exists_eq_succ_of_ne_zero (by omega : steps ≠ 0)
    have read := readMember?_pretty indent ((newLine outer).toList ++ '}' :: rest) m
      steps (prints m List.mem_cons_self) (endsNumber_newLine outer _) (by omega)
    rw [skipSpace_newLine] at read
    exact read
  | cons next members ih =>
    obtain ⟨steps, rfl⟩ := Nat.exists_eq_succ_of_ne_zero (by omega : steps ≠ 0)
    have text : (prettyMembers indent (next :: members)).toList = ',' :: ((newLine indent).toList ++
        ((memberText indent next).toList ++ (prettyMembers indent members).toList)) := by
      obtain ⟨key, value⟩ := next
      rw [prettyMembers, memberText]
      simp only [String.toList_append, List.append_assoc]
      rfl
    rw [text] at enough ⊢
    simp only [List.length_cons, List.length_append] at enough
    have later := ih next steps (fun i hi => prints i (List.mem_cons_of_mem m hi)) (by omega)
    have read := readMember?_pretty indent
      (',' :: ((newLine indent).toList ++ ((memberText indent next).toList ++
        ((prettyMembers indent members).toList ++ ((newLine outer).toList ++ '}' :: rest)))))
      m steps (prints m List.mem_cons_self) (endsNumber_comma _) (by omega)
    simp only [List.cons_append, List.append_assoc]
    rw [read]
    exact congrArg (Option.map fun (members, rest) => ((some m.1, m.2.plain) :: members, rest))
      ((readMembers?_skipSpace (skipSpace_newLine indent _) steps depth).trans later)

end

section

variable {depth : Nat}

/-- A value whose text does not depend on the indentation is read from it, if the reader takes it
    in one step. -/
theorem prints_scalar {value : Json} (text : String) (nonempty : text ≠ "")
    (prints : ∀ indent, prettyAt indent value = text)
    (reads : ∀ steps rest, EndsNumber rest →
      ∃ rest', readValue? (steps + 1) depth (text.toList ++ rest) = some (value.plain, rest') ∧
        skipSpace rest' = skipSpace rest) : Prints depth value := by
  intro indent steps rest ends enough
  rw [prints] at enough ⊢
  have some_char : text.toList.length ≠ 0 := by
    rw [String.length_toList]
    exact fun none => nonempty (String.length_eq_zero_iff.1 none)
  obtain ⟨steps, rfl⟩ := Nat.exists_eq_succ_of_ne_zero (by omega : steps ≠ 0)
  exact reads steps rest ends

/-- A number which is read alone is also read when it is followed by something else. -/
theorem ReadsBack.readValue? {x : Float} (reads : ReadsBack x) (steps depth : Nat)
    {rest : List Char} (ends : EndsNumber rest) :
    ∃ rest', readValue? (steps + 1) depth ((pretty (float x)).toList ++ rest) =
      some (float x, rest') ∧ skipSpace rest' = skipSpace rest := by
  rw [ReadsBack, read?] at reads
  -- Alone, only blanks are left behind the number.
  generalize (pretty (float x)).toList = cs at reads ⊢
  split at reads
  · next value left read =>
    split at reads
    · next blank =>
      obtain rfl := Option.some.inj reads
      have number := readNumber?_of_readValue? read
      have numeral := ((numeral_of_read number).append ends).read
      have nonempty : skipSpace cs ≠ [] := by
        intro none
        rw [none] at number
        cases number
      refine ⟨left ++ rest, readValue?_of_readNumber? steps depth ?_, ?_⟩
      · rw [skipSpace_append nonempty]
        exact numeral
      · exact skipSpace_append_of_blank (List.isEmpty_iff.1 blank) rest
    · cases reads
  · cases reads

theorem prints_int {value : Int} (low : -2 ^ 63 ≤ value) (high : value < 2 ^ 64) :
    Prints depth (int value) := by
  refine prints_scalar (toString value) ?_ (fun _ => rfl) fun steps rest ends => ?_
  · intro empty
    have read := readNumber?_int low high endsNumber_nil
    rw [empty] at read
    cases read
  · have read := readNumber?_int low high ends
    exact ⟨rest, readValue?_of_readNumber? _ _ ((skipSpace_of_read read).symm ▸ read), rfl⟩

theorem prints_float {x : Float} (reads : x.isFinite → ReadsBack x) : Prints depth (float x) := by
  by_cases finite : x.isFinite
  · refine prints_scalar (pretty (float x)) ?_ (fun _ => rfl) fun steps rest ends => ?_
    · intro empty
      have reads := reads finite
      rw [ReadsBack, empty] at reads
      cases reads
    · rw [plain_float finite]
      exact (reads finite).readValue? _ _ ends
  · -- A number without a notation is written like a missing value.
    have text : ∀ indent, prettyAt indent (float x) = "null" := by
      intro indent
      show (Decimal.numeral? x).getD "null" = "null"
      rw [Decimal.numeral?, Decimal.ofFloat?_of_not_isFinite finite]
      rfl
    refine prints_scalar "null" (by decide) text fun steps rest _ => ⟨rest, ?_, rfl⟩
    rw [plain_float_of_not finite]
    rfl

theorem prints_string (value : String) : Prints depth (string value) := by
  refine prints_scalar (writeString value) ?_ (fun _ => rfl) fun steps rest ends => ?_
  · intro empty
    obtain ⟨body, text, -⟩ := readString?_writeString value []
    rw [empty] at text
    cases text
  · obtain ⟨body, text, read⟩ := readString?_writeString value rest
    refine ⟨rest, ?_, rfl⟩
    rw [text]
    show (readString? body).map _ = _
    rw [read]
    rfl

/-- A list is read from its text if each of its items is, one level deeper. -/
theorem prints_array {items : List Json} (each : ∀ item ∈ items, Prints depth item) :
    Prints (depth + 1) (array items) := by
  cases items with
  | nil =>
    exact prints_scalar "[]" (by decide) (fun _ => rfl) fun _ rest _ => ⟨rest, rfl, rfl⟩
  | cons item items =>
    intro indent steps rest _ enough
    have text : (prettyAt indent (array (item :: items))).toList =
        '[' :: ((newLine (indent + 1)).toList ++ ((prettyAt (indent + 1) item).toList ++
          ((prettyItems (indent + 1) items).toList ++ ((newLine indent).toList ++ [']'])))) := by
      rw [prettyAt]
      simp only [String.toList_append, List.append_assoc]
      rfl
    rw [text] at enough ⊢
    simp only [List.length_cons, List.length_append] at enough
    obtain ⟨steps, rfl⟩ := Nat.exists_eq_succ_of_ne_zero (by omega : steps ≠ 0)
    have read := readItems?_pretty (indent + 1) indent rest items item steps each (by omega)
    rw [← readItems?_skipSpace (skipSpace_newLine (indent + 1) _)] at read
    refine ⟨rest, ?_, rfl⟩
    simp only [List.cons_append, List.append_assoc, List.nil_append]
    exact readValue?_array read

theorem prints_object {members : List (String × Json)} (each : ∀ m ∈ members, Prints depth m.2) :
    Prints (depth + 1) (object members) := by
  cases members with
  | nil =>
    exact prints_scalar "\x7b\x7d" (by decide) (fun _ => rfl)
      fun _ rest _ => ⟨rest, rfl, rfl⟩
  | cons m members =>
    intro indent steps rest _ enough
    have text : (prettyAt indent (object (m :: members))).toList =
        '{' :: ((newLine (indent + 1)).toList ++ ((memberText (indent + 1) m).toList ++
          ((prettyMembers (indent + 1) members).toList ++
            ((newLine indent).toList ++ ['}'])))) := by
      obtain ⟨key, value⟩ := m
      rw [prettyAt, memberText]
      simp only [String.toList_append, List.append_assoc]
      rfl
    rw [text] at enough ⊢
    simp only [List.length_cons, List.length_append] at enough
    obtain ⟨steps, rfl⟩ := Nat.exists_eq_succ_of_ne_zero (by omega : steps ≠ 0)
    have read := readMembers?_pretty (indent + 1) indent rest members m steps each (by omega)
    rw [← readMembers?_skipSpace (skipSpace_newLine (indent + 1) _)] at read
    refine ⟨rest, ?_, rfl⟩
    simp only [List.cons_append, List.append_assoc, List.nil_append]
    exact readValue?_object read

/-- A printable value is read from its text, if the numbers in it are read as they were
    written. -/
theorem Printable.prints {value : Json} (h : Printable depth value)
    (reads : ∀ x ∈ value.numbers, x.isFinite → ReadsBack x) : Prints depth value := by
  induction h with
  | null =>
    exact prints_scalar "null" (by decide) (fun _ => rfl)
      fun _ rest _ => ⟨rest, rfl, rfl⟩
  | bool value =>
    cases value with
    | true =>
      exact prints_scalar "true" (by decide) (fun _ => rfl)
        fun _ rest _ => ⟨rest, rfl, rfl⟩
    | false =>
      exact prints_scalar "false" (by decide) (fun _ => rfl)
        fun _ rest _ => ⟨rest, rfl, rfl⟩
  | int low high => exact prints_int low high
  | float value => exact prints_float (reads value (List.mem_singleton_self value))
  | string value => exact prints_string value
  | array _ ih =>
    rw [numbers_array] at reads
    exact prints_array fun item hitem => ih item hitem fun x hx =>
      reads x (List.mem_flatMap.2 ⟨item, hitem, hx⟩)
  | object _ ih =>
    rw [numbers_object] at reads
    exact prints_object fun m hm => ih m hm fun x hx => reads x (List.mem_flatMap.2 ⟨m, hm, hx⟩)

end

/-- A printable value is read from the text it was printed as, if its finite numbers are read as
    they were written. -/
theorem read?_pretty {value : Json} (h : Printable maxDepth value)
    (reads : ∀ x ∈ value.numbers, x.isFinite → ReadsBack x) :
    read? (pretty value) = some value.plain := by
  obtain ⟨rest, read, blank⟩ := h.prints reads 0 (2 * (pretty value).toList.length + 2) []
    endsNumber_nil (Nat.le_add_right _ 2)
  rw [List.append_nil, ← pretty] at read
  rw [read?, read]
  dsimp only
  rw [blank]
  rfl

end Astrogation.Json
