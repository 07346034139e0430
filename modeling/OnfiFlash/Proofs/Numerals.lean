import Mathlib.Data.List.DropRight
import Mathlib.Tactic.IntervalCases
import OnfiFlash.Bridge.Spec
import OnfiFlash.CommandLine.Invocation
import OnfiFlash.Settings

/-! The grammar of numerals. There is one, for the command line, the settings file and the
parameters of bridges alike; they differ in the least number that is too large and in whether white
space around the numeral is ignored. -/
namespace OnfiFlash

/-- The character spells a digit of the base, a letter in either case. -/
def Radix.Spells (radix : Radix) (c : Char) (digit : Nat) : Prop :=
  digit < radix.base ∧ (c = digit.digitChar ∨ c = digit.digitChar.toUpper)

/-- The characters spell a number, the first digit counting most. -/
inductive Radix.Denotes (radix : Radix) : List Char → Nat → Prop where
  | nil : radix.Denotes [] 0
  | cons {c : Char} {digit n : Nat} {cs : List Char} (first : radix.Spells c digit)
      (rest : radix.Denotes cs n) : radix.Denotes (c :: cs) (digit * radix.base ^ cs.length + n)

/-- What a numeral of the base begins with. -/
def Radix.leads : Radix → List (List Char)
  | decimal => [[]]
  | hexadecimal => [['0', 'x'], ['0', 'X']]

/-- The characters are a numeral of this value. -/
inductive Numeral : List Char → Nat → Prop where
  | intro {radix : Radix} {lead plus digits : List Char} {n : Nat} (leads : lead ∈ radix.leads)
      (sign : plus = [] ∨ plus = ['+']) (some : digits ≠ []) (denotes : radix.Denotes digits n) :
      Numeral (lead ++ (plus ++ digits)) n

/-- `core` is left when the white space at both ends is taken away. -/
def Trimmed (cs core : List Char) : Prop :=
  ∃ before after, cs = before ++ core ++ after ∧ (∀ c ∈ before ++ after, isBlank c) ∧
    ∀ c, core.head? = some c ∨ core.getLast? = some c → isBlank c = false

section Digits

variable {radix : Radix} {c : Char} {digit : Nat}

theorem Radix.one_lt_base (radix : Radix) : 1 < radix.base := by cases radix <;> decide

theorem Radix.Spells.lt (spells : radix.Spells c digit) : digit < 16 := by
  have small := spells.1
  cases radix <;> simp only [base] at small <;> omega

/-- The three ranges of codes that digits have. -/
theorem code_of_digitValue? (read : digitValue? radix c = some digit) :
    digit < radix.base ∧ ((48 ≤ c.toNat ∧ c.toNat ≤ 57 ∧ digit = c.toNat - 48) ∨
      (97 ≤ c.toNat ∧ c.toNat ≤ 102 ∧ digit = c.toNat - 87) ∨
      (65 ≤ c.toNat ∧ c.toNat ≤ 70 ∧ digit = c.toNat - 55)) := by
  simp only [digitValue?, Option.filter_eq_some_iff, decide_eq_true_eq] at read
  obtain ⟨found, small⟩ := read
  refine ⟨small, ?_⟩
  split_ifs at found <;> cases found <;> omega

theorem digitValue?_eq_some_iff : digitValue? radix c = some digit ↔ radix.Spells c digit := by
  constructor
  · intro read
    have written : ∀ code, c.toNat = code → c = Char.ofNat code := fun _ same =>
      same ▸ (Char.ofNat_toNat c).symm
    obtain ⟨small, codes⟩ := code_of_digitValue? read
    refine ⟨small, ?_⟩
    generalize c.toNat = code at codes written
    rcases codes with ⟨low, high, rfl⟩ | ⟨low, high, rfl⟩ | ⟨low, high, rfl⟩
    · exact .inl (by interval_cases code <;> exact written _ rfl)
    · exact .inl (by interval_cases code <;> exact written _ rfl)
    · exact .inr (by interval_cases code <;> exact written _ rfl)
  · rintro ⟨small, spelled⟩
    cases radix <;> simp only [Radix.base] at small <;> interval_cases digit <;>
      rcases spelled with rfl | rfl <;> decide

theorem Radix.Spells.not_blank (spells : radix.Spells c digit) : isBlank c = false := by
  have small := spells.lt
  obtain ⟨-, spelled⟩ := spells
  interval_cases digit <;> rcases spelled with rfl | rfl <;> decide

/-- The first digit is read, and the rest denotes a number of its own. -/
theorem Radix.denotes_cons_iff {cs : List Char} {n : Nat}
    (read : digitValue? radix c = some digit) :
    radix.Denotes (c :: cs) n ↔
      ∃ rest, radix.Denotes cs rest ∧ n = digit * radix.base ^ cs.length + rest := by
  constructor
  · rintro ⟨⟩
    next found rest first denotes =>
      obtain rfl := Option.some.inj (read.symm.trans (digitValue?_eq_some_iff.mpr first))
      exact ⟨rest, denotes, rfl⟩
  · rintro ⟨rest, denotes, rfl⟩
    exact .cons (digitValue?_eq_some_iff.mp read) denotes

theorem Radix.not_denotes_cons {cs : List Char} {n : Nat} (unread : digitValue? radix c = none) :
    ¬ radix.Denotes (c :: cs) n := by
  rintro ⟨⟩
  next found rest first denotes =>
    exact Option.some_ne_none _ ((digitValue?_eq_some_iff.mpr first).symm.trans unread)

theorem Radix.Denotes.not_blank {cs : List Char} {n : Nat} (denotes : radix.Denotes cs n) :
    ∀ c ∈ cs, isBlank c = false := by
  induction denotes with
  | nil => exact nofun
  | cons first _ ih => exact List.forall_mem_cons.mpr ⟨first.not_blank, ih⟩

end Digits

section Reading

variable {radix : Radix} {limit n : Nat} {cs : List Char}

/-- By induction on the digits: a number that is too large stays so, whatever follows. -/
theorem readDigits_eq_ok_iff {value : Nat} (below : value < limit) :
    readDigits radix limit cs value = .ok n ↔
      ∃ rest, radix.Denotes cs rest ∧ n = value * radix.base ^ cs.length + rest ∧ n < limit := by
  induction cs generalizing value with
  | nil =>
    simp only [readDigits, Except.ok.injEq, List.length_nil, Nat.pow_zero, Nat.mul_one]
    constructor
    · rintro rfl
      exact ⟨0, .nil, rfl, below⟩
    · rintro ⟨_, ⟨⟩, rfl, -⟩
      rfl
  | cons c cs ih =>
    rw [readDigits]
    cases read : digitValue? radix c with
    | none => simp [Radix.not_denotes_cons read]
    | some digit =>
      have grown (rest : Nat) : value * radix.base ^ (cs.length + 1)
          + (digit * radix.base ^ cs.length + rest)
            = (value * radix.base + digit) * radix.base ^ cs.length + rest := by
        rw [Nat.pow_succ', ← Nat.mul_assoc, ← Nat.add_assoc, ← Nat.add_mul]
      have shifted : (∃ rest, radix.Denotes (c :: cs) rest ∧
            n = value * radix.base ^ (cs.length + 1) + rest ∧ n < limit) ↔
          ∃ rest, radix.Denotes cs rest ∧
            n = (value * radix.base + digit) * radix.base ^ cs.length + rest ∧ n < limit := by
        simp only [Radix.denotes_cons_iff read]
        constructor
        · rintro ⟨_, ⟨rest, denotes, rfl⟩, same, fits⟩
          exact ⟨rest, denotes, same.trans (grown rest), fits⟩
        · rintro ⟨rest, denotes, same, fits⟩
          exact ⟨_, ⟨rest, denotes, rfl⟩, same.trans (grown rest).symm, fits⟩
      rw [List.length_cons, shifted]
      dsimp only
      split
      · next fits => exact ih fits
      · next exceeds =>
        simp only [reduceCtorEq, false_iff]
        rintro ⟨rest, -, rfl, fits⟩
        have positive : 0 < radix.base ^ cs.length :=
          Nat.pow_pos (Nat.zero_lt_of_lt radix.one_lt_base)
        have kept := Nat.le_mul_of_pos_right (value * radix.base + digit) positive
        omega

/-- A plus sign is no digit, so that there is but one way to take a sign off. -/
theorem readUnsigned_eq_ok_iff (positive : 0 < limit) :
    readUnsigned radix limit cs = .ok n ↔ ∃ plus digits, cs = plus ++ digits ∧
      (plus = [] ∨ plus = ['+']) ∧ digits ≠ [] ∧ radix.Denotes digits n ∧ n < limit := by
  have read (digits : List Char) : readDigits radix limit digits 0 = .ok n ↔
      radix.Denotes digits n ∧ n < limit := by
    simp [readDigits_eq_ok_iff positive]
  have noDigit : digitValue? radix '+' = none := by cases radix <;> decide
  constructor
  · intro accepted
    unfold readUnsigned at accepted
    split at accepted
    · cases accepted
    · cases accepted
    · next digits some => exact ⟨['+'], digits, rfl, .inr rfl, some, (read digits).mp accepted⟩
    · next some _ _ => exact ⟨[], cs, rfl, .inl rfl, some, (read cs).mp accepted⟩
  · rintro ⟨plus, digits, rfl, rfl | rfl, some, denotes⟩
    · rw [List.nil_append, readUnsigned]
      · exact (read digits).mpr denotes
      · exact some
      · rintro rfl
        exact Radix.not_denotes_cons noDigit denotes.1
      · rintro rest rfl
        exact Radix.not_denotes_cons noDigit denotes.1
    · rw [List.singleton_append, readUnsigned]
      · exact (read digits).mpr denotes
      · exact some

theorem exists_lead (cs : List Char) :
    ∃ lead ∈ (numeralParts cs).1.leads, cs = lead ++ (numeralParts cs).2 := by
  unfold numeralParts
  split
  · exact ⟨['0', 'x'], .head _, rfl⟩
  · exact ⟨['0', 'X'], .tail _ (.head _), rfl⟩
  · exact ⟨[], .head _, rfl⟩

/-- No decimal numeral looks as if it had the lead of a hexadecimal one. -/
theorem not_decimal_lead {plus digits rest : List Char} {x : Char}
    (sign : plus = [] ∨ plus = ['+']) (noDigit : digitValue? .decimal x = none)
    (denotes : Radix.decimal.Denotes digits n) : plus ++ digits ≠ '0' :: x :: rest := by
  rintro same
  rcases sign with rfl | rfl
  · obtain rfl : digits = '0' :: x :: rest := same
    cases denotes with
    | cons _ later => exact Radix.not_denotes_cons noDigit later
  · exact absurd (List.cons.inj same).1 (by decide)

theorem numeralParts_eq {lead plus digits : List Char} (leads : lead ∈ radix.leads)
    (sign : plus = [] ∨ plus = ['+']) (denotes : radix.Denotes digits n) :
    numeralParts (lead ++ (plus ++ digits)) = (radix, plus ++ digits) := by
  cases radix with
  | hexadecimal => rcases List.mem_pair.mp leads with rfl | rfl <;> rfl
  | decimal =>
    obtain rfl := List.mem_singleton.mp leads
    rw [List.nil_append]
    unfold numeralParts
    split
    · next same => exact absurd same (not_decimal_lead sign (by decide) denotes)
    · next same => exact absurd same (not_decimal_lead sign (by decide) denotes)
    · rfl

/-- What is read is what the grammar says, below the limit. -/
theorem readNumeral_eq_ok_iff (positive : 0 < limit) :
    readNumeral limit cs = .ok n ↔ Numeral cs n ∧ n < limit := by
  have unwrapped (radix : Radix) (digits : List Char) :
      ((readUnsigned radix limit digits).mapError fun cause => NumeralError.mk radix cause)
          = .ok n ↔
        readUnsigned radix limit digits = .ok n := by
    cases readUnsigned radix limit digits <;> simp [Except.mapError]
  rw [readNumeral, unwrapped, readUnsigned_eq_ok_iff positive]
  constructor
  · rintro ⟨plus, digits, parts, sign, some, denotes, fits⟩
    obtain ⟨lead, leads, same⟩ := exists_lead cs
    rw [same, parts]
    exact ⟨.intro leads sign some denotes, fits⟩
  · rintro ⟨⟨leads, sign, some, denotes⟩, fits⟩
    rw [numeralParts_eq leads sign denotes]
    exact ⟨_, _, rfl, sign, some, denotes, fits⟩

end Reading

section Blanks

variable {cs core : List Char} {n : Nat}

theorem Numeral.not_blank (numeral : Numeral cs n) : ∀ c ∈ cs, isBlank c = false := by
  obtain ⟨leads, sign, -, denotes⟩ := numeral
  next radix lead plus digits =>
    have leadShown : ∀ c ∈ lead, isBlank c = false := by
      cases radix with
      | hexadecimal => rcases List.mem_pair.mp leads with rfl | rfl <;> simp [isBlank]
      | decimal =>
        obtain rfl := List.mem_singleton.mp leads
        simp
    have signShown : ∀ c ∈ plus, isBlank c = false := by
      rcases sign with rfl | rfl <;> simp [isBlank]
    simp only [List.mem_append]
    rintro c (inLead | inSign | inDigits)
    · exact leadShown c inLead
    · exact signShown c inSign
    · exact denotes.not_blank c inDigits

theorem dropWhile_blanks {before : List Char} (blank : ∀ c ∈ before, isBlank c)
    (shown : ∀ c, core.head? = some c → isBlank c = false) :
    (before ++ core).dropWhile isBlank = core := by
  rw [List.dropWhile_append_of_pos blank]
  cases core with
  | nil => rfl
  | cons c rest => rw [List.dropWhile_cons_of_neg (by simp [shown c rfl])]

theorem trimmed_trimBlanks (cs : List Char) : Trimmed cs (trimBlanks cs) := by
  have cut : cs.dropWhile isBlank
      = trimBlanks cs ++ (cs.dropWhile isBlank).rtakeWhile isBlank :=
    List.rdropWhile_append_rtakeWhile.symm
  refine ⟨cs.takeWhile isBlank, (cs.dropWhile isBlank).rtakeWhile isBlank, ?_, ?_, ?_⟩
  · rw [List.append_assoc, ← cut, List.takeWhile_append_dropWhile]
  · intro c among
    rcases List.mem_append.mp among with front | back
    · exact List.mem_takeWhile_imp front
    · exact List.mem_rtakeWhile_imp back
  · rintro c (first | last)
    · have begins : (cs.dropWhile isBlank).head? = some c := by
        rw [cut, List.head?_append, first]
        rfl
      simpa [begins] using List.head?_dropWhile_not isBlank cs
    · obtain ⟨some, rfl⟩ := List.mem_getLast?_eq_getLast last
      exact eq_false_of_ne_true (List.rdropWhile_last_not isBlank (cs.dropWhile isBlank) some)

/-- There is but one way to take all the white space away. -/
theorem trimmed_iff : Trimmed cs core ↔ trimBlanks cs = core := by
  refine ⟨?_, fun same => same ▸ trimmed_trimBlanks cs⟩
  rintro ⟨before, after, rfl, blank, shown⟩
  obtain ⟨blankBefore, blankAfter⟩ := List.forall_mem_append.mp blank
  unfold trimBlanks
  cases core with
  | nil =>
    have nothing : (before ++ [] ++ after).dropWhile isBlank = [] := by
      simpa using blank
    rw [nothing]
    rfl
  | cons first rest =>
    have front : (before ++ (first :: rest) ++ after).dropWhile isBlank
        = (first :: rest) ++ after := by
      rw [List.append_assoc]
      exact dropWhile_blanks blankBefore fun c same => shown c (.inl same)
    rw [front, List.reverse_append, dropWhile_blanks, List.reverse_reverse]
    · simpa using blankAfter
    · intro c same
      rw [List.head?_reverse] at same
      exact shown c (.inr same)

theorem Numeral.trimmed (numeral : Numeral cs n) : Trimmed cs cs := by
  refine ⟨[], [], by simp, nofun, ?_⟩
  rintro c (first | last)
  · exact numeral.not_blank c (List.mem_of_head? first)
  · exact numeral.not_blank c (List.mem_of_getLast? last)

theorem parseNumber_eq_ok_iff {text : String} : parseNumber text = .ok n ↔
    ∃ core, Trimmed text.toList core ∧ Numeral core n ∧ n < limit64 := by
  simp only [parseNumber, readNumeral_eq_ok_iff (show 0 < limit64 by decide), trimmed_iff,
    exists_eq_left']

theorem Settings.flexibleNumber_string_eq_ok_iff {limit : Nat} {text : String} :
    flexibleNumber limit (.string text) = .ok n ↔ parseNumber text = .ok n ∧ n < limit := by
  cases read : parseNumber text with
  | error e => simp [flexibleNumber, read, Except.mapError, bind, Except.bind]
  | ok number =>
    simp only [flexibleNumber, read, Except.mapError, bind, Except.bind]
    split <;> simp <;> omega

end Blanks

/-- All readers follow the one grammar. Those of the settings file and of bridge parameters read
below 2^64 and ignore white space around a numeral; the one of the command line reads below 2^32 and
does not. So what the command line takes the others take for the same number, and where there is no
white space and the number is below 2^32 it takes what they take. -/
theorem numeral_readers (text : String) (n : Nat) :
    (parseNumber text = .ok n ↔
      ∃ core, Trimmed text.toList core ∧ Numeral core n ∧ n < limit64) ∧
    (CommandLine.readNumber text = .ok n ↔ Numeral text.toList n ∧ n < limit32) ∧
    (CommandLine.readNumber text = .ok n ↔
      parseNumber text = .ok n ∧ Trimmed text.toList text.toList ∧ n < limit32) ∧
    (∀ limit, Settings.flexibleNumber limit (.string text) = .ok n ↔
      parseNumber text = .ok n ∧ n < limit) ∧
    (∀ limit key value, Bridge.Spec.readNumber limit key value text = .ok n ↔
      parseNumber text = .ok n ∧ n < limit) := by
  have taken : CommandLine.readNumber text = .ok n ↔ Numeral text.toList n ∧ n < limit32 := by
    rw [← readNumeral_eq_ok_iff (by decide), CommandLine.readNumber]
    cases readNumeral limit32 text.toList <;> simp [Except.mapError]
  refine ⟨parseNumber_eq_ok_iff, taken, ?_, fun _ => Settings.flexibleNumber_string_eq_ok_iff,
    fun limit key value => ?_⟩
  · rw [parseNumber_eq_ok_iff, taken]
    constructor
    · rintro ⟨numeral, fits⟩
      exact ⟨⟨_, numeral.trimmed, numeral, Nat.lt_trans fits (by decide)⟩, numeral.trimmed, fits⟩
    · rintro ⟨⟨core, trimmed, numeral, -⟩, untouched, fits⟩
      obtain rfl := (trimmed_iff.mp trimmed).symm.trans (trimmed_iff.mp untouched)
      exact ⟨numeral, fits⟩
  · cases read : parseNumber text with
    | error e => simp [Bridge.Spec.readNumber, read]
    | ok number =>
      simp only [Bridge.Spec.readNumber, read]
      split <;> simp <;> omega

/-- White space, a sign and leading zeros. -/
example : parseNumber "\u00a0 0X+00fF\n" = .ok 255 ∧
    (CommandLine.readNumber "+0000000000000042").toOption = some 42 := by decide

end OnfiFlash
