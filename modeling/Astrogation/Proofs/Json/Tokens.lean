import Astrogation.Json.Reader
import Astrogation.Json.Writer
import Astrogation.Proofs.Json.Plain

/-!
# Strings and numbers in texts

The reader takes from the start of a text the string that was written there
(`readString?_writeString`). A number it takes part by part (`Numeral`); so it still reads the
same number when a text is added with which no number goes on (`Numeral.append`), and a whole
number as it was written (`readNumber?_int`).
-/

namespace Astrogation.Json

/-! ## Strings -/

/-- A digit to base sixteen is read as it was written. -/
theorem hexDigit?_digitChar : ∀ n < 16, hexDigit? (Nat.digitChar n) = some n := by decide

/-- What the writer writes for a character is read as a piece which stands for it. -/
def Writes (c : Char) (p : Piece) : Prop :=
  (∀ rest, readPieces? (writeChar c ++ rest) =
    (readPieces? rest).map fun (pieces, rest) => (p :: pieces, rest)) ∧
  ∀ pieces, joinPieces? none (p :: pieces) = (joinPieces? none pieces).map (c :: ·)

/-- A control character is no half of a surrogate pair, so it stands for itself. -/
theorem joinPieces?_unit (c : Char) (h : c.toNat < 0x20) (pieces : List Piece) :
    joinPieces? none (.unit c.toNat :: pieces) = (joinPieces? none pieces).map (c :: ·) := by
  have high : isHighHalf c.toNat = false := by
    rw [isHighHalf, decide_eq_false_iff_not]
    omega
  have low : isLowHalf c.toNat = false := by
    rw [isLowHalf, decide_eq_false_iff_not]
    omega
  rw [joinPieces?, high, low, Char.ofNat_toNat]
  rfl

theorem readPieces?_controlDigits {n : Nat} (h : n < 0x20) (rest : List Char) :
    readPieces? ('\\' :: 'u' :: controlDigits n ++ rest) =
      (readPieces? rest).map fun (pieces, rest) => (.unit n :: pieces, rest) := by
  have first := hexDigit?_digitChar (n / 16) (by omega)
  have last := hexDigit?_digitChar (n % 16) (by omega)
  have unit : hexUnit? '0' '0' (Nat.digitChar (n / 16)) (Nat.digitChar (n % 16)) = some n := by
    rw [hexUnit?, first, last]
    have : ((0 * 16 + 0) * 16 + n / 16) * 16 + n % 16 = n := by omega
    exact congrArg some this
  simp only [controlDigits, List.cons_append, List.nil_append]
  rw [readPieces?, unit]

/-- Every character is written as something that is read as a piece which stands for it. -/
theorem exists_writes (c : Char) : ∃ p, Writes c p := by
  -- Some characters have a short notation, the other control characters stand by their number,
  -- and all others as they are.
  by_cases escaped : c ∈ ['"', '\\', '\n', '\r', '\t', '\x08', '\x0c']
  · simp only [List.mem_cons, List.not_mem_nil, or_false] at escaped
    rcases escaped with rfl | rfl | rfl | rfl | rfl | rfl | rfl <;>
      exact ⟨.char _, fun _ => rfl, fun _ => rfl⟩
  · simp only [List.mem_cons, List.not_mem_nil, or_false, not_or] at escaped
    obtain ⟨quote, slash, line, ret, tab, back, form⟩ := escaped
    by_cases control : c.toNat < 0x20
    · have write : writeChar c = '\\' :: 'u' :: controlDigits c.toNat := by
        simp [writeChar, *]
      exact ⟨.unit c.toNat, fun rest => write ▸ readPieces?_controlDigits control rest,
        joinPieces?_unit c control⟩
    · have write : writeChar c = [c] := by
        simp [writeChar, *]
      refine ⟨.char c, fun rest => ?_, fun _ => rfl⟩
      rw [write, List.singleton_append, readPieces?.eq_def]
      split <;> simp_all

/-- The characters of a string are read piece by piece, up to the quote that closes it. -/
theorem exists_pieces (cs rest : List Char) : ∃ pieces,
    readPieces? (cs.flatMap writeChar ++ '"' :: rest) = some (pieces, rest) ∧
      joinPieces? none pieces = some cs := by
  induction cs with
  | nil => exact ⟨[], rfl, rfl⟩
  | cons c cs ih =>
    obtain ⟨p, reads, joins⟩ := exists_writes c
    obtain ⟨pieces, read, joined⟩ := ih
    refine ⟨p :: pieces, ?_, ?_⟩
    · rw [List.flatMap_cons, List.append_assoc, reads, read, Option.map_some]
    · rw [joins, joined, Option.map_some]

/-- What is left of the text of a string after its opening quote. -/
theorem readString?_writeString (s : String) (rest : List Char) :
    ∃ body, (writeString s).toList ++ rest = '"' :: body ∧
      readString? body = some (some s, rest) := by
  obtain ⟨pieces, read, joined⟩ := exists_pieces s.toList rest
  refine ⟨s.toList.flatMap writeChar ++ '"' :: rest, ?_, ?_⟩
  · rw [writeString, String.toList_ofList, List.cons_append, List.cons_append, List.append_assoc,
      List.singleton_append]
  · rw [readString?, read, Option.map_some]
    dsimp only
    rw [joined, Option.map_some, String.ofList_toList]

/-! ## Numbers -/

/-- A text with which no number goes on. -/
def EndsNumber (rest : List Char) : Prop :=
  ∀ c, rest.head? = some c → c.isDigit = false ∧ c ≠ '.' ∧ c ≠ 'e' ∧ c ≠ 'E'

/-- Digits are taken up to the first character which is none. -/
theorem spanDigits_append {digits rest : List Char} (h : ∀ c ∈ digits, c.isDigit = true)
    (ends : ∀ c, rest.head? = some c → c.isDigit = false) :
    Decimal.spanDigits (digits ++ rest) = (digits, rest) := by
  have none : rest.takeWhile Char.isDigit = [] ∧ rest.dropWhile Char.isDigit = rest := by
    cases rest with
    | nil => exact ⟨rfl, rfl⟩
    | cons c rest =>
      have other := ends c rfl
      exact ⟨List.takeWhile_cons_of_neg (by simp [other]),
        List.dropWhile_cons_of_neg (by simp [other])⟩
  rw [Decimal.spanDigits, List.takeWhile_append_of_pos h, List.dropWhile_append_of_pos h, none.1,
    none.2, List.append_nil]

theorem EndsNumber.notDigit {rest : List Char} (h : EndsNumber rest) :
    ∀ c, rest.head? = some c → c.isDigit = false := fun c hc => (h c hc).1

theorem EndsNumber.readFraction? {rest : List Char} (h : EndsNumber rest) :
    readFraction? rest = some (none, rest) := by
  rw [Json.readFraction?.eq_def]
  split
  · exact absurd rfl (h '.' rfl).2.1
  · rfl

theorem EndsNumber.readExponent? {rest : List Char} (h : EndsNumber rest) :
    readExponent? rest = some (none, rest) := by
  cases rest with
  | nil => rfl
  | cons c rest =>
    obtain ⟨-, -, lower, upper⟩ := h c rfl
    rw [Json.readExponent?, if_neg (by simp [lower, upper])]

/-- The sign of a number. -/
def signChars (negative : Bool) : List Char := if negative then ['-'] else []

/-- The value of the parts of a number. -/
def numberOf (negative : Bool) (whole : List Char) (fraction : Option (List Char))
    (exponent : Option Int) : Json :=
  match fraction, exponent with
  | none, none => wholeNumber negative (Decimal.digitsValue whole)
  | fraction, exponent =>
    finiteNumber (Decimal.signed negative
      (Decimal.nearest (Decimal.digitsValue (whole ++ fraction.getD []))
        (exponent.getD 0 - (fraction.getD []).length)))

/-- A text which starts with a number, part by part. -/
inductive Numeral : (text : List Char) → (value : Json) → (rest : List Char) → Prop
  | parts {whole after after' rest : List Char} {fraction : Option (List Char)}
      {exponent : Option Int} (negative : Bool) (digits : ∀ c ∈ whole, c.isDigit = true)
      (nonempty : whole ≠ []) (leading : whole.length = 1 ∨ whole.head? ≠ some '0')
      (ends : ∀ c, after.head? = some c → c.isDigit = false)
      (hfraction : readFraction? after = some (fraction, after'))
      (hexponent : readExponent? after' = some (exponent, rest)) :
      Numeral (signChars negative ++ (whole ++ after)) (numberOf negative whole fraction exponent)
        rest

theorem valid_iff {whole : List Char} :
    (whole.isEmpty || whole.length != 1 && whole.head? == some '0') = false ↔
      whole ≠ [] ∧ (whole.length = 1 ∨ whole.head? ≠ some '0') := by
  cases whole with
  | nil => simp
  | cons c cs => simp [Decidable.or_iff_not_imp_left]

/-- A number which is put together from its parts is read as their value. -/
theorem Numeral.read {text rest : List Char} {value : Json} (h : Numeral text value rest) :
    readNumber? text = some (value, rest) := by
  obtain ⟨negative, digits, nonempty, leading, ends, hfraction, hexponent⟩ := h
  next whole after after' fraction exponent =>
  have span := spanDigits_append digits ends
  have valid := valid_iff.2 ⟨nonempty, leading⟩
  -- A digit is no sign.
  have unsigned : ∀ rest, whole ++ after = '-' :: rest → False := by
    intro rest same
    cases whole with
    | nil => exact nonempty rfl
    | cons c cs =>
      have digit := digits c List.mem_cons_self
      rw [(List.cons.inj same).1] at digit
      cases digit
  cases negative with
  | true =>
    rw [show signChars true ++ (whole ++ after) = '-' :: (whole ++ after) from rfl, readNumber?,
      span]
    simp only [valid, hfraction, hexponent, Option.bind_eq_bind, Option.bind_some]
    cases fraction <;> cases exponent <;> rfl
  | false =>
    rw [show signChars false ++ (whole ++ after) = whole ++ after from rfl,
      readNumber?.eq_2 _ unsigned, span]
    simp only [valid, hfraction, hexponent, Option.bind_eq_bind, Option.bind_some]
    cases fraction <;> cases exponent <;> rfl

theorem spanDigits_eq {cs digits rest : List Char} (h : Decimal.spanDigits cs = (digits, rest)) :
    cs = digits ++ rest ∧ (∀ c ∈ digits, c.isDigit = true) ∧
      ∀ c, rest.head? = some c → c.isDigit = false := by
  obtain ⟨rfl, rfl⟩ := Prod.mk.inj h
  refine ⟨List.takeWhile_append_dropWhile.symm, fun c => List.mem_takeWhile_imp, fun c hc => ?_⟩
  have first := List.head?_dropWhile_not Char.isDigit cs
  rw [hc] at first
  exact first

/-- Whatever is read as a number has the parts of one. -/
theorem numeral_of_read {text rest : List Char} {value : Json}
    (h : readNumber? text = some (value, rest)) : Numeral text value rest := by
  rw [readNumber?.eq_def] at h
  split at h
  next negative body sign =>
  have sign : text = signChars negative ++ body := by
    split at sign
    · obtain ⟨rfl, rfl⟩ := Prod.mk.inj sign
      rfl
    · obtain ⟨rfl, rfl⟩ := Prod.mk.inj sign
      rfl
  split at h
  next whole after span =>
  obtain ⟨rfl, digits, ends⟩ := spanDigits_eq span
  split at h
  · cases h
  · next valid =>
    obtain ⟨nonempty, leading⟩ := valid_iff.1 (Bool.eq_false_of_not_eq_true valid)
    obtain ⟨⟨fraction, after'⟩, hfraction, h⟩ := Option.bind_eq_some_iff.1 h
    obtain ⟨⟨exponent, rest'⟩, hexponent, h⟩ := Option.bind_eq_some_iff.1 h
    have same : (numberOf negative whole fraction exponent, rest') = (value, rest) := by
      cases fraction <;> cases exponent <;> exact Option.some.inj h
    obtain ⟨rfl, rfl⟩ := Prod.mk.inj same
    exact sign ▸ .parts negative digits nonempty leading ends hfraction hexponent

theorem digitsValue_toDigits (n : Nat) : Decimal.digitsValue (Nat.toDigits 10 n) = n :=
  Nat.ofDigitChars_ten_toDigits

/-- The digits of a positive number do not start with a zero. -/
theorem head?_toDigits (n : Nat) (positive : 0 < n) : (Nat.toDigits 10 n).head? ≠ some '0' := by
  have digit : ∀ d < 10, 0 < d → Nat.digitChar d ≠ '0' := by decide
  induction n using Nat.strongRecOn with
  | _ n ih =>
    by_cases small : n < 10
    · rw [Nat.toDigits_of_lt_base small, List.head?_cons]
      exact fun same => digit n small positive (Option.some.inj same)
    · rw [Nat.toDigits_of_base_le (by decide) (by omega),
        List.head?_append_of_ne_nil _ Nat.toDigits_ne_nil]
      exact ih (n / 10) (by omega) (by omega)

/-- A whole number is read as it was written. -/
theorem readNumber?_toDigits {rest : List Char} (negative : Bool) (n : Nat)
    (ends : EndsNumber rest) :
    readNumber? (signChars negative ++ (Nat.toDigits 10 n ++ rest)) =
      some (wholeNumber negative n, rest) := by
  have digits : ∀ c ∈ Nat.toDigits 10 n, c.isDigit = true := fun c hc =>
    Nat.isDigit_of_mem_toDigits (by decide) (by decide) hc
  have leading : (Nat.toDigits 10 n).length = 1 ∨ (Nat.toDigits 10 n).head? ≠ some '0' := by
    rcases Nat.eq_zero_or_pos n with rfl | positive
    · exact .inl rfl
    · exact .inr (head?_toDigits n positive)
  have numeral := Numeral.parts negative digits Nat.toDigits_ne_nil leading ends.notDigit
    ends.readFraction? ends.readExponent?
  rw [numeral.read, numberOf, digitsValue_toDigits]

/-- A whole number of no more than 64 bits is read as it was written, whatever its sign. -/
theorem readNumber?_int {value : Int} {rest : List Char} (low : -2 ^ 63 ≤ value)
    (high : value < 2 ^ 64) (ends : EndsNumber rest) :
    readNumber? ((toString value).toList ++ rest) = some (int value, rest) := by
  cases value with
  | ofNat n =>
    have text : (toString (Int.ofNat n)).toList = signChars false ++ Nat.toDigits 10 n :=
      Nat.toList_repr
    have bound : n < UInt64.size := by
      rw [UInt64.size]
      exact Int.ofNat_lt.1 high
    rw [text, List.append_assoc, readNumber?_toDigits false n ends, wholeNumber,
      if_neg Bool.false_ne_true, if_pos bound]
  | negSucc n =>
    have text : (toString (Int.negSucc n)).toList = signChars true ++ Nat.toDigits 10 (n + 1) := by
      show ("-" ++ (n + 1).repr).toList = _
      rw [String.toList_append, Nat.toList_repr]
      rfl
    have bound : n + 1 ≤ Nat.pow 2 63 := by
      show n + 1 ≤ 2 ^ 63
      omega
    rw [text, List.append_assoc, readNumber?_toDigits true (n + 1) ends, wholeNumber, if_pos rfl,
      if_neg (by simp), if_pos bound]
    rfl

section

variable {cs rest more : List Char}

theorem spanDigits_append_of_eq {digits : List Char} (h : Decimal.spanDigits cs = (digits, rest))
    (ends : EndsNumber more) : Decimal.spanDigits (cs ++ more) = (digits, rest ++ more) := by
  obtain ⟨rfl, isDigit, stops⟩ := spanDigits_eq h
  rw [List.append_assoc]
  refine spanDigits_append isDigit ?_
  cases rest with
  | nil => exact ends.notDigit
  | cons c rest => exact stops

theorem readFraction?_append {fraction : Option (List Char)}
    (h : readFraction? cs = some (fraction, rest)) (ends : EndsNumber more) :
    readFraction? (cs ++ more) = some (fraction, rest ++ more) := by
  rw [readFraction?.eq_def] at h
  split at h
  · next cs =>
    split at h
    next digits rest' span =>
    split at h
    · cases h
    · next nonempty =>
      obtain ⟨rfl, rfl⟩ := Prod.mk.inj (Option.some.inj h)
      rw [List.cons_append, readFraction?, spanDigits_append_of_eq span ends]
      exact if_neg nonempty
  · next other =>
    obtain ⟨rfl, rfl⟩ := Prod.mk.inj (Option.some.inj h)
    cases cs with
    | nil => exact ends.readFraction?
    | cons c cs =>
      rw [List.cons_append, readFraction?]
      exact fun _ same => other cs (by rw [(List.cons.inj same).1])

theorem splitSign_append {negative : Bool} (h : Decimal.splitSign cs = (negative, rest))
    (nonempty : rest ≠ []) : Decimal.splitSign (cs ++ more) = (negative, rest ++ more) := by
  rw [Decimal.splitSign.eq_def] at h
  split at h
  · obtain ⟨rfl, rfl⟩ := Prod.mk.inj h
    rfl
  · obtain ⟨rfl, rfl⟩ := Prod.mk.inj h
    rfl
  · next minus plus =>
    obtain ⟨rfl, rfl⟩ := Prod.mk.inj h
    cases cs with
    | nil => exact absurd rfl nonempty
    | cons c cs =>
      rw [List.cons_append, Decimal.splitSign]
      · exact fun _ same => minus cs (by rw [(List.cons.inj same).1])
      · exact fun _ same => plus cs (by rw [(List.cons.inj same).1])

theorem readExponent?_append {exponent : Option Int}
    (h : readExponent? cs = some (exponent, rest)) (ends : EndsNumber more) :
    readExponent? (cs ++ more) = some (exponent, rest ++ more) := by
  cases cs with
  | nil =>
    obtain ⟨rfl, rfl⟩ := Prod.mk.inj (Option.some.inj h)
    exact ends.readExponent?
  | cons e cs =>
    rw [readExponent?] at h
    rw [List.cons_append, readExponent?]
    split at h
    · next here =>
      rw [if_pos here]
      split at h
      next negative body sign =>
      split at h
      next digits rest' span =>
      split at h
      · cases h
      · next nonempty =>
        obtain ⟨rfl, rfl⟩ := Prod.mk.inj (Option.some.inj h)
        have some_digit : body ≠ [] := by
          rintro rfl
          obtain ⟨rfl, -⟩ := Prod.mk.inj span
          exact nonempty rfl
        rw [splitSign_append sign some_digit]
        dsimp only
        rw [spanDigits_append_of_eq span ends]
        exact if_neg nonempty
    · next absent =>
      obtain ⟨rfl, rfl⟩ := Prod.mk.inj (Option.some.inj h)
      rw [if_neg absent]
      rfl

/-- A number goes on no further than it did when something is added which does not go on with
    it. -/
theorem Numeral.append {value : Json} (h : Numeral cs value rest) (ends : EndsNumber more) :
    Numeral (cs ++ more) value (rest ++ more) := by
  obtain ⟨negative, digits, nonempty, leading, stops, hfraction, hexponent⟩ := h
  next whole after after' fraction exponent =>
  have stops : ∀ c, (after ++ more).head? = some c → c.isDigit = false := by
    cases after with
    | nil => exact ends.notDigit
    | cons c after => exact stops
  rw [List.append_assoc, List.append_assoc]
  exact .parts negative digits nonempty leading stops (readFraction?_append hfraction ends)
    (readExponent?_append hexponent ends)

end

end Astrogation.Json
