import LiquidationBot.Library.JsonText
import LiquidationBot.Library.PrefixCodes

/-!
# Objects written as JSON text

`JSON.stringify` of an object whose properties are strings, lists of strings or
undefined. A string stands in quotes, with an escape for the quote, the backslash
and the control characters; a property that is undefined is left out.

Every part is a prefix code. Two objects with the same distinct names therefore
have one text only if they have the same properties.
-/

namespace LiquidationBot

namespace Json

/-- The letter of a two-character escape, by the code of the character. -/
def escapeLetter : Nat → Option Char
  | 8 => some 'b'
  | 9 => some 't'
  | 10 => some 'n'
  | 12 => some 'f'
  | 13 => some 'r'
  | 34 => some quote
  | 92 => some backslash
  | _ => none

/-- The four digits of a control character. -/
def controlDigits (code : Nat) : List Char :=
  ['0', '0', Nat.digitChar (code / 16), Nat.digitChar (code % 16)]

/-- A character within a string. -/
def escape (char : Char) : List Char :=
  match escapeLetter char.toNat with
  | some letter => [backslash, letter]
  | none => if char.toNat < 32 then backslash :: 'u' :: controlDigits char.toNat else [char]

/-- A string in its quotes. -/
def quoted (text : String) : List Char := quote :: closedBy quote escape text.toList

/-- A list of strings. -/
def list (texts : List String) : List Char := '[' :: separatedBy ',' ']' quoted texts

/-- The value of a property: a list or a string. -/
abbrev Property := List String ⊕ String

def writeProperty : Property → List Char := Sum.elim list quoted

def writeMember (member : String × Property) : List Char :=
  quoted member.1 ++ ':' :: writeProperty member.2

/-- The properties that are not undefined. -/
def present (members : List (String × Option Property)) : List (String × Property) :=
  members.filterMap (fun member => member.2.map (member.1, ·))

/-- `JSON.stringify` of an object. -/
def stringify (members : List (String × Option Property)) : List Char :=
  '{' :: separatedBy ',' '}' writeMember (present members)

/-! ## Escapes -/

/-- The reader knows the letters of the writer. -/
theorem escapeUnit_of_escapeLetter {code : Nat} {letter : Char}
    (escaped : escapeLetter code = some letter) : escapeUnit letter = some code := by
  unfold escapeLetter at escaped
  split at escaped
  case h_8 => cases escaped
  all_goals
    cases escaped
    rfl

theorem numeral_controlDigits {code : Nat} (control : code < 32) :
    NumberText.numeral 16 (controlDigits code) = some code := by
  have each : ∀ code < 32, NumberText.numeral 16 (controlDigits code) = some code := by decide
  exact each code control

/-- What the letter behind a backslash tells: an escape of its own, or a control
character. -/
theorem letter_ne_u {code : Nat} {letter : Char} (escaped : escapeLetter code = some letter) :
    letter ≠ 'u' := by
  rintro rfl
  have known := escapeUnit_of_escapeLetter escaped
  cases known

/-- The three forms of an escape. -/
theorem escape_cases (char : Char) :
    (∃ letter, escapeLetter char.toNat = some letter ∧ escape char = [backslash, letter]) ∨
    (char.toNat < 32 ∧ escape char = backslash :: 'u' :: controlDigits char.toNat) ∨
    (char ≠ quote ∧ char ≠ backslash ∧ escape char = [char]) := by
  cases escaped : escapeLetter char.toNat with
  | some letter => exact .inl ⟨letter, rfl, by rw [escape, escaped]⟩
  | none =>
    by_cases control : char.toNat < 32
    · exact .inr (.inl ⟨control, by simp only [escape, escaped, control, if_true]⟩)
    · refine .inr (.inr ⟨?_, ?_, by simp only [escape, escaped, control, if_false]⟩)
      · rintro rfl
        cases escaped
      · rintro rfl
        cases escaped

theorem escape_startsApart : StartsApart quote escape := by
  intro char
  have different : backslash ≠ quote := by decide
  obtain ⟨letter, -, written⟩ | ⟨-, written⟩ | ⟨notQuote, -, written⟩ := escape_cases char
  · exact ⟨_, _, written, different⟩
  · exact ⟨_, _, written, different⟩
  · exact ⟨_, _, written, notQuote⟩

/-- By the forms of the two escapes: a letter is read back, four digits are read
back, and no two forms look alike. -/
theorem escape_prefixCode : PrefixCode escape := by
  intro char other rest after same
  obtain ⟨letter, escaped, written⟩ | ⟨control, written⟩ | ⟨-, plain, written⟩ := escape_cases char
  · obtain ⟨letter', escaped', written'⟩ | ⟨control', written'⟩ | ⟨-, plain', written'⟩ :=
      escape_cases other
    · simp only [written, written', List.cons_append, List.nil_append, List.cons.injEq,
        true_and] at same
      obtain ⟨rfl, tail⟩ := same
      have codes := (escapeUnit_of_escapeLetter escaped).symm.trans
        (escapeUnit_of_escapeLetter escaped')
      exact ⟨Char.toNat_inj.mp (Option.some.inj codes), tail⟩
    · simp only [written, written', List.cons_append, List.nil_append, List.cons.injEq,
        true_and] at same
      exact absurd same.1 (letter_ne_u escaped)
    · simp only [written, written', List.cons_append, List.cons.injEq] at same
      exact absurd same.1.symm plain'
  · obtain ⟨letter', escaped', written'⟩ | ⟨control', written'⟩ | ⟨-, plain', written'⟩ :=
      escape_cases other
    · simp only [written, written', List.cons_append, List.nil_append, List.cons.injEq,
        true_and] at same
      exact absurd same.1.symm (letter_ne_u escaped')
    · simp only [written, written', List.cons_append, List.cons.injEq, true_and] at same
      obtain ⟨digits, tail⟩ := List.append_inj same rfl
      have codes := numeral_controlDigits control
      rw [digits, numeral_controlDigits control'] at codes
      exact ⟨Char.toNat_inj.mp (Option.some.inj codes).symm, tail⟩
    · simp only [written, written', List.cons_append, List.cons.injEq] at same
      exact absurd same.1.symm plain'
  · obtain ⟨letter', escaped', written'⟩ | ⟨control', written'⟩ | ⟨-, plain', written'⟩ :=
      escape_cases other
    · simp only [written, written', List.cons_append, List.cons.injEq] at same
      exact absurd same.1 plain
    · simp only [written, written', List.cons_append, List.cons.injEq] at same
      exact absurd same.1 plain
    · simp only [written, written', List.cons_append, List.nil_append, List.cons.injEq] at same
      exact same

/-! ## Values and objects -/

theorem quoted_prefixCode : PrefixCode quoted := by
  intro text other rest after same
  obtain ⟨chars, tail⟩ := (escape_prefixCode.closedBy escape_startsApart).mark quote
    text.toList other.toList rest after same
  exact ⟨String.toList_inj.mp chars, tail⟩

/-- A string starts with its quote. -/
theorem quoted_startsApart {letter : Char} (different : quote ≠ letter) :
    StartsApart letter quoted :=
  fun _ => ⟨quote, _, rfl, different⟩

theorem list_prefixCode : PrefixCode list :=
  (quoted_prefixCode.separatedBy (quoted_startsApart (by decide)) (by decide)).mark '['

theorem writeProperty_prefixCode : PrefixCode writeProperty :=
  list_prefixCode.sum quoted_prefixCode (quoted_startsApart (by decide))

theorem writeMember_prefixCode : PrefixCode writeMember :=
  quoted_prefixCode.pair (writeProperty_prefixCode.mark ':')

/-- The text of an object determines the properties that are not undefined. -/
theorem present_eq_of_stringify_eq {members others : List (String × Option Property)}
    (same : stringify members = stringify others) : present members = present others := by
  have apart : StartsApart '}' writeMember := by
    intro member
    exact ⟨quote, _, rfl, by decide⟩
  have code : PrefixCode (separatedBy ',' '}' writeMember) :=
    writeMember_prefixCode.separatedBy apart (by decide)
  exact (code.mark '{').injective same

theorem name_of_mem_present {members : List (String × Option Property)}
    {member : String × Property} (found : member ∈ present members) :
    member.1 ∈ members.map Prod.fst := by
  obtain ⟨entry, listed, written⟩ := List.mem_filterMap.mp found
  obtain ⟨property, -, rfl⟩ := Option.map_eq_some_iff.mp written
  exact List.mem_map_of_mem listed

/-- Induction on the names: a property that only one object has would stand under a
later name of the other. -/
theorem eq_of_present_eq {members others : List (String × Option Property)}
    (names : members.map Prod.fst = others.map Prod.fst)
    (distinct : (members.map Prod.fst).Nodup)
    (same : present members = present others) : members = others := by
  induction members generalizing others with
  | nil =>
    rw [List.map_nil, eq_comm, List.map_eq_nil_iff] at names
    exact names.symm
  | cons member members inductionHypothesis =>
    cases others with
    | nil => cases names
    | cons other others =>
      obtain ⟨name, property⟩ := member
      obtain ⟨name', property'⟩ := other
      simp only [List.map_cons, List.cons.injEq] at names
      obtain ⟨rfl, names⟩ := names
      rw [List.map_cons, List.nodup_cons] at distinct
      have fresh : ∀ value, (name, value) ∉ present others := by
        intro value found
        exact distinct.1 (names ▸ name_of_mem_present found)
      have fresh' : ∀ value, (name, value) ∉ present members := by
        intro value found
        exact distinct.1 (name_of_mem_present found)
      cases property with
      | none =>
        cases property' with
        | none => rw [inductionHypothesis names distinct.2 same]
        | some value =>
          have found : (name, value) ∈ present members := by
            rw [show present members = _ from same]
            exact List.mem_cons_self
          exact absurd found (fresh' value)
      | some value =>
        cases property' with
        | none =>
          have found : (name, value) ∈ present others := by
            rw [show present others = _ from same.symm]
            exact List.mem_cons_self
          exact absurd found (fresh value)
        | some value' =>
          have entries : (name, value) :: present members = (name, value') :: present others := same
          simp only [List.cons.injEq, Prod.mk.injEq, true_and] at entries
          rw [entries.1, inductionHypothesis names distinct.2 entries.2]

/-- Objects with the same distinct names and one text are equal. -/
theorem eq_of_stringify_eq {members others : List (String × Option Property)}
    (names : members.map Prod.fst = others.map Prod.fst)
    (distinct : (members.map Prod.fst).Nodup)
    (same : stringify members = stringify others) : members = others :=
  eq_of_present_eq names distinct (present_eq_of_stringify_eq same)

end Json

end LiquidationBot
