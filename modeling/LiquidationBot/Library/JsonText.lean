import LiquidationBot.Library.NumberText

/-!
# Values written as JSON text

A text is read as a value, or as none if it is no JSON. Strings are sequences of
UTF-16 units, as the language has them: an escape may name a lone surrogate, and a
pair of escapes is the character that it stands for. Numbers are doubles, and one
that is not finite has no value.

The reader recurses on a bound of its own. The bound of `parse` is large enough:
with any greater one it reads the same.
-/

namespace LiquidationBot

/-- The UTF-16 units of a string of the language. -/
abbrev JsString := List Nat

/-- The units of a character. -/
def utf16 (char : Char) : JsString :=
  if char.toNat < 0x10000 then [char.toNat]
  else [0xd800 + (char.toNat - 0x10000) / 0x400, 0xdc00 + (char.toNat - 0x10000) % 0x400]

def jsString (text : String) : JsString := text.toList.flatMap utf16

/-- A JSON value. A number that is not finite is none. -/
inductive Json where
  | null
  | bool (value : Bool)
  | number (value : Option ℚ)
  | string (text : JsString)
  | array (items : List Json)
  | object (members : List (JsString × Json))

namespace Json

/-- A property of a value that is not null. Of two members of one name the last one
counts, and no other value has a property. -/
def property (name : String) : Json → Option Json
  | .object members =>
      (members.reverse.find? (fun entry => entry.1 = jsString name)).map Prod.snd
  | _ => none

/-! ## Reading -/

def isSpace (char : Char) : Bool := char.toNat ∈ [9, 10, 13, 32]

def quote : Char := Char.ofNat 34

def backslash : Char := Char.ofNat 92

def skipSpace (text : List Char) : List Char := text.dropWhile isSpace

/-- The unit of a two-character escape, by its second character. -/
def escapeUnit (char : Char) : Option Nat :=
  if char = quote ∨ char = backslash ∨ char = '/' then some char.toNat
  else if char = 'b' then some 8
  else if char = 'f' then some 12
  else if char = 'n' then some 10
  else if char = 'r' then some 13
  else if char = 't' then some 9
  else none

/-- The rest of a string behind its opening quote. -/
def stringBody : List Char → Option (JsString × List Char)
  | [] => none
  | char :: rest =>
      if char = quote then some ([], rest)
      else if char = backslash then
        match rest with
        | 'u' :: first :: second :: third :: fourth :: rest => do
            let unit ← NumberText.numeral 16 [first, second, third, fourth]
            let (units, rest) ← stringBody rest
            some (unit :: units, rest)
        | escape :: rest => do
            let unit ← escapeUnit escape
            let (units, rest) ← stringBody rest
            some (unit :: units, rest)
        | [] => none
      else if char.toNat < 32 then none
      else do
        let (units, rest) ← stringBody rest
        some (utf16 char ++ units, rest)

def isWordChar (char : Char) : Bool :=
  char.isAlphanum || char = '-' || char = '+' || char = '.'

/-- An exponent of a number literal, or nothing. -/
def isExponent : List Char → Bool
  | [] => true
  | letter :: sign :: digits =>
      NumberText.isExponentLetter letter &&
        if sign = '-' || sign = '+' then digits ≠ [] && digits.all Char.isDigit
        else (sign :: digits).all Char.isDigit
  | _ => false

/-- What follows the whole part of a number literal. -/
def isFraction : List Char → Bool
  | '.' :: rest => rest.takeWhile Char.isDigit ≠ [] && isExponent (rest.dropWhile Char.isDigit)
  | rest => isExponent rest

/-- A number literal without its sign: no zero stands before another digit. -/
def isUnsigned (word : List Char) : Bool :=
  let whole := word.takeWhile Char.isDigit
  whole ≠ [] && (whole.length = 1 || whole.head? ≠ some '0') &&
    isFraction (word.dropWhile Char.isDigit)

def isNumberLiteral : List Char → Bool
  | '-' :: word => isUnsigned word
  | word => isUnsigned word

/-- A word up to the next delimiter: a literal or a number. -/
def literal (text : List Char) : Option (Json × List Char) :=
  let word := text.takeWhile isWordChar
  let rest := text.dropWhile isWordChar
  if word = "null".toList then some (.null, rest)
  else if word = "true".toList then some (.bool true, rest)
  else if word = "false".toList then some (.bool false, rest)
  else if isNumberLiteral word then some (.number (NumberText.number word), rest)
  else none

mutual

/-- A value at the start of the text, and the text behind it. -/
def value : Nat → List Char → Option (Json × List Char)
  | 0, _ => none
  | fuel + 1, text =>
      match skipSpace text with
      | [] => none
      | char :: rest =>
          if char = quote then
            (stringBody rest).map (fun read => (.string read.1, read.2))
          else if char = '[' then
            match skipSpace rest with
            | ']' :: rest => some (.array [], rest)
            | _ => (elements fuel rest).map (fun read => (.array read.1, read.2))
          else if char = '{' then
            match skipSpace rest with
            | '}' :: rest => some (.object [], rest)
            | _ => (members fuel rest).map (fun read => (.object read.1, read.2))
          else literal (char :: rest)

/-- The elements of an array up to its end, at least one. -/
def elements : Nat → List Char → Option (List Json × List Char)
  | 0, _ => none
  | fuel + 1, text =>
      match value fuel text with
      | none => none
      | some (item, rest) =>
          match skipSpace rest with
          | ',' :: rest => (elements fuel rest).map (fun read => (item :: read.1, read.2))
          | ']' :: rest => some ([item], rest)
          | _ => none

/-- The members of an object up to its end, at least one. -/
def members : Nat → List Char → Option (List (JsString × Json) × List Char)
  | 0, _ => none
  | fuel + 1, text =>
      match skipSpace text with
      | [] => none
      | char :: rest =>
          if char ≠ quote then none
          else
            match stringBody rest with
            | none => none
            | some (name, rest) =>
                match skipSpace rest with
                | ':' :: rest =>
                    match value fuel rest with
                    | none => none
                    | some (item, rest) =>
                        match skipSpace rest with
                        | ',' :: rest =>
                            (members fuel rest).map (fun read => ((name, item) :: read.1, read.2))
                        | '}' :: rest => some ([(name, item)], rest)
                        | _ => none
                | _ => none

end

/-- The value of a text whose reader has a bound. -/
def parseWithin (fuel : Nat) (text : List Char) : Option Json :=
  match value fuel text with
  | some (read, rest) => if skipSpace rest = [] then some read else none
  | none => none

/-- `JSON.parse`, or none where it throws. -/
def parse (text : String) : Option Json :=
  parseWithin (2 * text.toList.length + 1) text.toList

/-! ## Numbers in strings -/

/-- The characters of a string. What is no character on its own is neither a digit
nor white space. -/
def characters (text : JsString) : List Char := text.map Char.ofNat

/-- `BigInt(text)`, or none where it throws. White space around the literal does not
matter, and a decimal literal alone may have a sign. -/
def bigInt (text : JsString) : Option Int :=
  let started := (characters text).dropWhile NumberText.isSpace
  match (started.reverse.dropWhile NumberText.isSpace).reverse with
  | [] => some 0
  | '0' :: 'x' :: digits => (NumberText.numeral 16 digits).map Int.ofNat
  | '0' :: 'X' :: digits => (NumberText.numeral 16 digits).map Int.ofNat
  | '0' :: 'o' :: digits => (NumberText.numeral 8 digits).map Int.ofNat
  | '0' :: 'O' :: digits => (NumberText.numeral 8 digits).map Int.ofNat
  | '0' :: 'b' :: digits => (NumberText.numeral 2 digits).map Int.ofNat
  | '0' :: 'B' :: digits => (NumberText.numeral 2 digits).map Int.ofNat
  | '-' :: digits => (NumberText.numeral 10 digits).map (fun size => -(size : Int))
  | '+' :: digits => (NumberText.numeral 10 digits).map Int.ofNat
  | digits => (NumberText.numeral 10 digits).map Int.ofNat

/-- The digits at the start of a text, as a number: none if there are none. -/
def leadingDigits (text : List Char) : Option ℚ :=
  (NumberText.numeral 10 (text.takeWhile Char.isDigit)).map (fun size => (size : ℚ))

/-- `Number.parseInt(text, 10)`, where it is finite. -/
def parseInt (text : JsString) : Option ℚ :=
  (match (characters text).dropWhile NumberText.isSpace with
    | '-' :: digits => (leadingDigits digits).map (fun size => -size)
    | '+' :: digits => leadingDigits digits
    | digits => leadingDigits digits).bind NumberText.roundToDouble

theorem characters_jsString_of_isDigit {text : String}
    (digits : ∀ char ∈ text.toList, char.isDigit = true) :
    characters (jsString text) = text.toList := by
  rw [jsString, characters]
  generalize text.toList = chars at digits
  induction chars with
  | nil => rfl
  | cons char rest inductionHypothesis =>
    have first := digits char List.mem_cons_self
    have small : char.toNat < 0x10000 := by
      simp only [Char.isDigit, Bool.and_eq_true, decide_eq_true_eq] at first
      have above : char.toNat ≤ 57 := UInt32.le_iff_toNat_le.mp first.2
      omega
    rw [List.flatMap_cons, utf16, if_pos small, List.map_append, List.map_singleton,
      Char.ofNat_toNat, inductionHypothesis
        (fun later member => digits later (List.mem_cons_of_mem char member))]
    rfl

theorem isSpace_of_isDigit {char : Char} (digit : char.isDigit = true) :
    NumberText.isSpace char = false := by
  simp only [Char.isDigit, Bool.and_eq_true, decide_eq_true_eq] at digit
  have below : 48 ≤ char.toNat := UInt32.le_iff_toNat_le.mp digit.1
  have above : char.toNat ≤ 57 := UInt32.le_iff_toNat_le.mp digit.2
  simp only [NumberText.isSpace, Bool.or_eq_false_iff, Bool.and_eq_false_iff,
    decide_eq_false_iff_not, List.mem_cons, List.not_mem_nil, or_false]
  omega

/-- Digits alone are a big integer. -/
theorem bigInt_of_isDigit {text : String} (nonempty : text.toList ≠ [])
    (digits : ∀ char ∈ text.toList, char.isDigit = true) :
    bigInt (jsString text) = some (Nat.ofDigitChars 10 text.toList 0 : Int) := by
  have started : text.toList.dropWhile NumberText.isSpace = text.toList := by
    cases chars : text.toList with
    | nil => rfl
    | cons char rest =>
      have first := digits char (by rw [chars]; exact List.mem_cons_self)
      rw [List.dropWhile_cons_of_neg (by rw [isSpace_of_isDigit first]; exact Bool.false_ne_true)]
  have ended : text.toList.reverse.dropWhile NumberText.isSpace = text.toList.reverse := by
    cases chars : text.toList.reverse with
    | nil => rfl
    | cons char rest =>
      have last := digits char (by rw [← List.mem_reverse, chars]; exact List.mem_cons_self)
      rw [List.dropWhile_cons_of_neg (by rw [isSpace_of_isDigit last]; exact Bool.false_ne_true)]
  simp only [bigInt, characters_jsString_of_isDigit digits, started, ended, List.reverse_reverse]
  have read : (NumberText.numeral 10 text.toList).map Int.ofNat =
      some (Nat.ofDigitChars 10 text.toList 0 : Int) := by
    rw [NumberText.numeral, if_neg nonempty, NumberText.readDigits_of_isDigit digits]
    rfl
  generalize text.toList = chars at nonempty digits read
  split
  case h_1 => exact absurd rfl nonempty
  case h_10 => exact read
  all_goals simp at digits

/-! ## The bound of the reader -/

theorem length_skipSpace (text : List Char) : (skipSpace text).length ≤ text.length :=
  (List.dropWhile_sublist _).length_le

theorem length_of_skipSpace {text rest : List Char} {char : Char}
    (skipped : skipSpace text = char :: rest) : rest.length < text.length := by
  have shorter := length_skipSpace text
  rw [skipped, List.length_cons] at shorter
  omega

theorem length_stringBody {text rest : List Char} {units : JsString}
    (read : stringBody text = some (units, rest)) : rest.length ≤ text.length := by
  induction text using stringBody.induct generalizing units rest with
  | case1 => cases read
  | case2 following =>
    rw [stringBody.eq_def] at read
    simp only [if_true, Option.some.injEq, Prod.mk.injEq] at read
    simp [← read.2]
  | case3 first second third fourth following different inductionHypothesis =>
    simp only [stringBody, different, if_false, if_true, bind, Option.bind_eq_some_iff,
      Prod.exists, Option.some.injEq, Prod.mk.injEq] at read
    obtain ⟨_, _, _, _, later, _, rfl⟩ := read
    have shorter := inductionHypothesis later
    simp only [List.length_cons]
    omega
  | case4 escape following other different inductionHypothesis =>
    simp only [stringBody, different, if_false, if_true, bind, Option.bind_eq_some_iff,
      Prod.exists, Option.some.injEq, Prod.mk.injEq] at read
    obtain ⟨_, _, _, _, later, _, rfl⟩ := read
    have shorter := inductionHypothesis later
    simp only [List.length_cons]
    omega
  | case5 different => simp [stringBody, different] at read
  | case6 char following notQuote notEscape control =>
    rw [stringBody.eq_def] at read
    simp [notQuote, notEscape, control] at read
  | case7 char following notQuote notEscape printed inductionHypothesis =>
    rw [stringBody.eq_def] at read
    simp only [notQuote, notEscape, printed, if_false, bind, Option.bind_eq_some_iff,
      Prod.exists, Option.some.injEq, Prod.mk.injEq] at read
    obtain ⟨_, _, later, _, rfl⟩ := read
    have shorter := inductionHypothesis later
    simp only [List.length_cons]
    omega

theorem length_literal {text rest : List Char} {item : Json}
    (read : literal text = some (item, rest)) : rest.length ≤ text.length := by
  have dropped : text.dropWhile isWordChar = rest := by
    simp only [literal] at read
    split_ifs at read
    all_goals exact (Prod.mk.inj (Option.some.inj read)).2
  rw [← dropped]
  exact (List.dropWhile_sublist _).length_le

/-- Nothing is put back behind what was read. -/
def Consumes (fuel : Nat) : Prop :=
  (∀ text item rest, value fuel text = some (item, rest) → rest.length ≤ text.length) ∧
  (∀ text items rest, elements fuel text = some (items, rest) → rest.length ≤ text.length) ∧
    ∀ text entries rest, members fuel text = some (entries, rest) → rest.length ≤ text.length

section Step

variable {fuel : Nat} {text rest : List Char}

theorem length_value (shorter : Consumes fuel) {item : Json}
    (read : value (fuel + 1) text = some (item, rest)) : rest.length ≤ text.length := by
  rw [value] at read
  split at read
  · cases read
  next char following skipped =>
    have behind := length_of_skipSpace skipped
    split_ifs at read
    · obtain ⟨⟨units, after⟩, body, same⟩ := Option.map_eq_some_iff.mp read
      cases same
      exact (length_stringBody body).trans behind.le
    · split at read
      next after closed =>
        cases read
        exact ((length_of_skipSpace closed).trans behind).le
      next =>
        obtain ⟨⟨items, after⟩, body, same⟩ := Option.map_eq_some_iff.mp read
        cases same
        exact (shorter.2.1 _ _ _ body).trans behind.le
    · split at read
      next after closed =>
        cases read
        exact ((length_of_skipSpace closed).trans behind).le
      next =>
        obtain ⟨⟨entries, after⟩, body, same⟩ := Option.map_eq_some_iff.mp read
        cases same
        exact (shorter.2.2 _ _ _ body).trans behind.le
    · have word := length_literal read
      simp only [List.length_cons] at word
      omega

theorem length_elements (shorter : Consumes fuel) {items : List Json}
    (read : elements (fuel + 1) text = some (items, rest)) : rest.length ≤ text.length := by
  rw [elements] at read
  split at read
  · cases read
  next item after first =>
    have item_le := shorter.1 _ _ _ first
    split at read
    next following separated =>
      obtain ⟨⟨others, last⟩, body, same⟩ := Option.map_eq_some_iff.mp read
      cases same
      have others_le : last.length ≤ following.length := shorter.2.1 _ _ _ body
      have comma := length_of_skipSpace separated
      dsimp only
      omega
    next following closed =>
      cases read
      have bracket := length_of_skipSpace closed
      omega
    · cases read

theorem length_members (shorter : Consumes fuel) {entries : List (JsString × Json)}
    (read : members (fuel + 1) text = some (entries, rest)) : rest.length ≤ text.length := by
  rw [members] at read
  split at read
  · cases read
  next char following skipped =>
    have behind := length_of_skipSpace skipped
    split at read
    · cases read
    split at read
    · cases read
    next name named body =>
      have name_le := length_stringBody body
      split at read
      next valued colon =>
        have colon_lt := length_of_skipSpace colon
        split at read
        · cases read
        next item after first =>
          have item_le := shorter.1 _ _ _ first
          split at read
          next further separated =>
            obtain ⟨⟨others, last⟩, later, same⟩ := Option.map_eq_some_iff.mp read
            cases same
            have others_le : last.length ≤ further.length := shorter.2.2 _ _ _ later
            have comma := length_of_skipSpace separated
            dsimp only
            omega
          next further closed =>
            cases read
            have brace := length_of_skipSpace closed
            omega
          · cases read
      · cases read

end Step

theorem consumes (fuel : Nat) : Consumes fuel := by
  induction fuel with
  | zero => exact ⟨by simp [value], by simp [elements], by simp [members]⟩
  | succ fuel shorter =>
    exact ⟨fun _ _ _ => length_value shorter, fun _ _ _ => length_elements shorter,
      fun _ _ _ => length_members shorter⟩

/-- A bound that covers the text reads what a greater one reads. -/
def Settled (fuel : Nat) : Prop :=
  (∀ text, 2 * text.length + 1 ≤ fuel → value (fuel + 1) text = value fuel text) ∧
  (∀ text, 2 * text.length + 2 ≤ fuel → elements (fuel + 1) text = elements fuel text) ∧
    ∀ text, 2 * text.length + 2 ≤ fuel → members (fuel + 1) text = members fuel text

section Step

variable {fuel : Nat} {text : List Char}

theorem value_settled (settled : Settled fuel) (covered : 2 * text.length + 1 ≤ fuel + 1) :
    value (fuel + 1 + 1) text = value (fuel + 1) text := by
  simp only [value]
  cases skipped : skipSpace text with
  | nil => rfl
  | cons char rest =>
    have behind := length_of_skipSpace skipped
    have inArray := settled.2.1 rest (by omega)
    have inObject := settled.2.2 rest (by omega)
    simp only [inArray, inObject]

theorem elements_settled (settled : Settled fuel) (covered : 2 * text.length + 2 ≤ fuel + 1) :
    elements (fuel + 1 + 1) text = elements (fuel + 1) text := by
  rw [elements, elements, settled.1 text (by omega)]
  cases first : value fuel text with
  | none => rfl
  | some read =>
    obtain ⟨item, rest⟩ := read
    have item_le := (consumes fuel).1 _ _ _ first
    dsimp only
    split
    next following separated =>
      have comma := length_of_skipSpace separated
      rw [settled.2.1 following (by omega)]
    next => rfl
    next => rfl

theorem members_settled (settled : Settled fuel) (covered : 2 * text.length + 2 ≤ fuel + 1) :
    members (fuel + 1 + 1) text = members (fuel + 1) text := by
  rw [members, members]
  cases skipped : skipSpace text with
  | nil => rfl
  | cons char rest =>
    have behind := length_of_skipSpace skipped
    dsimp only
    split
    · rfl
    cases body : stringBody rest with
    | none => rfl
    | some read =>
      obtain ⟨name, named⟩ := read
      have name_le := length_stringBody body
      dsimp only
      split
      next valued colon =>
        have colon_lt := length_of_skipSpace colon
        rw [settled.1 valued (by omega)]
        cases first : value fuel valued with
        | none => rfl
        | some read =>
          obtain ⟨item, after⟩ := read
          have item_le := (consumes fuel).1 _ _ _ first
          dsimp only
          split
          next further separated =>
            have comma := length_of_skipSpace separated
            rw [settled.2.2 further (by omega)]
          next => rfl
          next => rfl
      next => rfl

end Step

theorem settled (fuel : Nat) : Settled fuel := by
  induction fuel with
  | zero => exact ⟨by simp, by simp, by simp⟩
  | succ fuel inductionHypothesis =>
    exact ⟨fun _ => value_settled inductionHypothesis, fun _ => elements_settled inductionHypothesis,
      fun _ => members_settled inductionHypothesis⟩

/-- The bound of the reader is no restriction. -/
theorem parseWithin_eq_parse (text : String) {fuel : Nat}
    (covered : 2 * text.toList.length + 1 ≤ fuel) : parseWithin fuel text.toList = parse text := by
  induction fuel, covered using Nat.le_induction with
  | base => rfl
  | succ fuel covered inductionHypothesis =>
    rw [← inductionHypothesis, parseWithin, parseWithin, (settled fuel).1 _ covered]

end Json

end LiquidationBot
