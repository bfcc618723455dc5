import VpnFleet.Proofs.Json.Grammar

/-!
# Every spelling is read

A text that spells a value by the grammar is read as this value, however it is
spelled. Readers take what they need and return the rest, so a part of a text is
followed through with anything behind it; only a number needs to know where it
ends, which is why `Bounds` says what may stand behind a value.

* `readChars_of_spells`, `readNumber_of_spelled` read strings and numbers.
* `Spells.read` reads all other parts, by induction on the grammar. The bound on
  the nesting is twice the length of the part at most.
* `ofText?_of_spelled` reads a whole text.
-/

namespace VpnFleet
namespace Json

section Blanks

/-- What may stand behind a value: nothing, a blank, or a mark. -/
def Bounds (rest : List Char) : Prop :=
  ∀ c, rest.head? = some c → isSpace c = true ∨ c = ',' ∨ c = ']' ∨ c = '\x7d'

theorem bounds_cons {c : Char} (h : isSpace c = true ∨ c = ',' ∨ c = ']' ∨ c = '\x7d')
    (rest : List Char) : Bounds (c :: rest) := by
  intro d hd
  obtain rfl : c = d := by simpa using hd
  exact h

theorem skip_cons {c : Char} (h : isSpace c = true) (cs : List Char) : skip (c :: cs) = skip cs :=
  List.dropWhile_cons_of_pos h

theorem skip_of_not_isSpace {c : Char} (h : isSpace c = false) (cs : List Char) :
    skip (c :: cs) = c :: cs :=
  List.dropWhile_cons_of_neg (by simp [h])

theorem skip_append {blanks : List Char} (h : Blanks blanks) (cs : List Char) :
    skip (blanks ++ cs) = skip cs := by
  induction blanks with
  | nil => rfl
  | cons c blanks ih =>
    rw [List.cons_append, skip_cons (h c List.mem_cons_self)]
    exact ih fun d hd => h d (List.mem_cons_of_mem _ hd)

theorem skip_skip (cs : List Char) : skip (skip cs) = skip cs := by
  induction cs with
  | nil => rfl
  | cons c cs ih =>
    cases h : isSpace c with
    | true => rw [skip_cons h, ih]
    | false => rw [skip_of_not_isSpace h, skip_of_not_isSpace h]

end Blanks

section Strings

variable {text : Option (List Char)} {cs rest : List Char}

/-- Where a string ends, nothing becomes the second half of a pair. -/
theorem SpellsChars.not_meetsTrailing
    (h : SpellsChars text cs) (alone : ¬ MeetsTrailing cs) :
    ¬ MeetsTrailing (cs ++ '"' :: rest) := by
  rintro ⟨a, b, c, d, unit, more, heq, hunit, htrailing⟩
  cases h with
  | nil => simp at heq
  | plain visible quote backslash inside => exact backslash (List.cons.inj heq).1
  | letter stands inside =>
    obtain rfl := (List.cons.inj (List.cons.inj heq).2).1
    simp [escaped?] at stands
  | _ =>
    simp only [List.cons_append, List.cons.injEq, true_and] at heq
    obtain ⟨rfl, rfl, rfl, rfl, -⟩ := heq
    exact alone ⟨_, _, _, _, unit, _, rfl, hunit, htrailing⟩

/-- Before anything but its second half, the first half of a pair leaves no text. -/
theorem readChars_firstHalf
    {a b c d : Char} {unit : Nat} {reading : Option (List Char) × List Char}
    (spelled : unit? a b c d = some unit) (leading : isLeading unit = true)
    (alone : ¬ MeetsTrailing cs) (hcs : readChars cs = some reading) :
    readChars ('\\' :: 'u' :: a :: b :: c :: d :: cs) = some (spoil reading) := by
  rw [readChars, spelled, Option.bind_eq_bind, Option.bind_some, if_pos leading]
  split
  · next a' b' c' d' cs' =>
    cases hunit : unit? a' b' c' d' with
    | none =>
      rw [readChars, hunit] at hcs
      cases hcs
    | some unit' =>
      have htrailing : isTrailing unit' = false := by
        cases h : isTrailing unit' with
        | false => rfl
        | true => exact absurd ⟨a', b', c', d', unit', cs', rfl, hunit, h⟩ alone
      rw [Option.bind_eq_bind, Option.bind_some, if_neg (by simp [htrailing]), hcs]
      rfl
  · rw [hcs]
    rfl

theorem readChars_of_spells (h : SpellsChars text cs) :
    readChars (cs ++ '"' :: rest) = some (text, rest) := by
  induction h with
  | nil => rfl
  | @plain c text cs visible quote backslash inside ih =>
    rw [List.cons_append, readChars.eq_5 c _ (fun h => quote h)
      (fun _ _ _ _ _ h => absurd h backslash) (fun _ _ h => absurd h backslash),
      if_neg (by omega), ih]
    rfl
  | @letter letter c text cs stands inside ih =>
    have hletter : letter ≠ 'u' := by
      rintro rfl
      simp [escaped?] at stands
    rw [List.cons_append, List.cons_append,
      readChars.eq_4 letter _ (fun _ _ _ _ _ h => absurd h hletter), stands, ih]
    rfl
  | unit spelled leading trailing inside ih =>
    simp only [List.cons_append]
    rw [readChars, spelled, Option.bind_eq_bind, Option.bind_some, if_neg (by simp [leading]),
      if_neg (by simp [trailing]), ih]
    rfl
  | pair spelled leading spelled' trailing inside ih =>
    simp only [List.cons_append]
    rw [readChars, spelled, Option.bind_eq_bind, Option.bind_some, if_pos leading]
    simp only [spelled', Option.bind_some, trailing, ih, if_true]
    rfl
  | firstHalf spelled leading alone inside ih =>
    simp only [List.cons_append]
    rw [readChars_firstHalf spelled leading (inside.not_meetsTrailing alone) ih]
    rfl
  | @secondHalf a b c d unit text cs spelled trailing inside ih =>
    have leading : isLeading unit = false := by
      simp only [isTrailing, isLeading, Bool.and_eq_true, Bool.and_eq_false_iff,
        decide_eq_true_eq, decide_eq_false_iff_not] at trailing ⊢
      omega
    simp only [List.cons_append]
    rw [readChars, spelled, Option.bind_eq_bind, Option.bind_some, if_neg (by simp [leading]),
      if_pos trailing, ih]
    rfl

theorem readString_of_spells
    {text : Option String} (h : SpellsString text cs) (rest : List Char) :
    ∃ inside, cs = '"' :: inside ∧ readString (inside ++ rest) = some (text, rest) := by
  obtain ⟨spelled⟩ := h
  refine ⟨_, rfl, ?_⟩
  unfold readString
  rw [List.append_assoc, List.singleton_append, readChars_of_spells spelled]
  rfl

end Strings

namespace Number

section Numbers

variable {ds : List Nat} {cs rest : List Char}

/-- The next character, if there is one, is of another kind. -/
def NotNext (kind : Char → Bool) (rest : List Char) : Prop :=
  ∀ c, rest.head? = some c → kind c = false

theorem notNext_cons {kind : Char → Bool} {c : Char} (h : kind c = false) (rest : List Char) :
    NotNext kind (c :: rest) := by
  intro d hd
  obtain rfl : c = d := by simpa using hd
  exact h

def isPoint (c : Char) : Bool :=
  c = '.'

def isExponentLetter (c : Char) : Bool :=
  c = 'e' || c = 'E'

/-- What may stand behind a value does not go on with a number. -/
theorem notNext_of_bounds
    (h : Bounds rest) {kind : Char → Bool}
    (hmarks : [' ', '\t', '\n', '\r', ',', ']', '\x7d'].any kind = false) :
    NotNext kind rest := by
  intro c hc
  refine eq_false_of_ne_true (List.any_eq_false.1 hmarks c ?_)
  simpa [isSpace, or_assoc] using h c hc

theorem digit?_digitChar : ∀ d < 10, digit? (Nat.digitChar d) = some d := by
  decide

theorem isDigit_digitChar : ∀ d < 10, (Nat.digitChar d).isDigit = true := by
  decide

theorem digits_of_areDigits (hds : ∀ d ∈ ds, d < 10) (hrest : NotNext Char.isDigit rest) :
    digits (digitChars ds ++ rest) = (ds, rest) := by
  induction ds with
  | nil =>
    cases rest with
    | nil => rfl
    | cons c rest =>
      have hc : digit? c = none := if_neg (by simp [hrest c rfl])
      show digits (c :: rest) = ([], c :: rest)
      rw [digits, hc]
  | cons d ds ih =>
    show digits (Nat.digitChar d :: (digitChars ds ++ rest)) = (d :: ds, rest)
    rw [digits, digit?_digitChar d (hds d List.mem_cons_self),
      ih fun e he => hds e (List.mem_cons_of_mem _ he)]

theorem someDigits_of_areDigits (h : AreDigits ds) (hrest : NotNext Char.isDigit rest) :
    someDigits (digitChars ds ++ rest) = some (ds, rest) := by
  unfold someDigits
  rw [digits_of_areDigits h.below hrest]
  cases ds with
  | nil => exact absurd rfl h.some
  | cons d ds => rfl

/-- Digits begin with a digit. -/
theorem AreDigits.exists_head (h : AreDigits ds) :
    ∃ c more, digitChars ds = c :: more ∧ c.isDigit = true := by
  cases ds with
  | nil => exact absurd rfl h.some
  | cons d ds => exact ⟨_, _, rfl, isDigit_digitChar d (h.below d List.mem_cons_self)⟩

section Parts

variable (hdigit : NotNext Char.isDigit rest)

include hdigit

theorem readFraction_of_spells (h : SpellsFraction ds cs) (hpoint : NotNext isPoint rest) :
    readFraction (cs ++ rest) = some (ds, rest) := by
  cases h with
  | absent =>
    refine readFraction.eq_2 rest fun more hmore => ?_
    simpa [isPoint] using hpoint '.' (by rw [hmore]; rfl)
  | given digits => exact someDigits_of_areDigits digits hdigit

theorem SpellsFraction.notNext_isDigit (h : SpellsFraction ds cs) :
    NotNext Char.isDigit (cs ++ rest) := by
  cases h with
  | absent => exact hdigit
  | given digits => exact notNext_cons (by decide) _

theorem readExponentDigits_of_spells
    {minus : Bool} {sign : List Char} (signed : SpellsSign minus sign) (digits : AreDigits ds) :
    readExponentDigits (sign ++ (digitChars ds ++ rest)) = some ((minus, ds), rest) := by
  have hread := someDigits_of_areDigits digits hdigit
  cases signed with
  | plus => exact congrArg (Option.map _) hread
  | minus => exact congrArg (Option.map _) hread
  | absent =>
    obtain ⟨c, more, hhead, hfirst⟩ := digits.exists_head
    have hplus : c ≠ '+' := by
      rintro rfl
      cases hfirst
    have hminus : c ≠ '-' := by
      rintro rfl
      cases hfirst
    rw [hhead] at hread ⊢
    refine (readExponentDigits.eq_3 _ ?_ ?_).trans (congrArg (Option.map _) hread)
    · exact fun _ h => hplus (List.cons.inj h).1
    · exact fun _ h => hminus (List.cons.inj h).1

variable {exponent : Option (Bool × List Nat)}

theorem readExponent_of_spells
    (h : SpellsExponent exponent cs) (hletter : NotNext isExponentLetter rest) :
    readExponent (cs ++ rest) = some (exponent, rest) := by
  cases h with
  | absent =>
    refine readExponent.eq_3 rest (fun more hmore => ?_) (fun more hmore => ?_)
    · simpa [isExponentLetter] using hletter 'e' (by rw [hmore]; rfl)
    · simpa [isExponentLetter] using hletter 'E' (by rw [hmore]; rfl)
  | given isLetter signed digits =>
    have hread := readExponentDigits_of_spells hdigit signed digits
    rw [List.cons_append, List.append_assoc]
    rcases isLetter with rfl | rfl
    · exact congrArg (Option.map _) hread
    · exact congrArg (Option.map _) hread

theorem SpellsExponent.notNext_isDigit (h : SpellsExponent exponent cs) :
    NotNext Char.isDigit (cs ++ rest) := by
  cases h with
  | absent => exact hdigit
  | given isLetter signed digits =>
    rcases isLetter with rfl | rfl <;> exact notNext_cons (by decide) _

end Parts

theorem SpellsExponent.notNext_isPoint
    {exponent : Option (Bool × List Nat)} (h : SpellsExponent exponent cs)
    (hpoint : NotNext isPoint rest) : NotNext isPoint (cs ++ rest) := by
  cases h with
  | absent => exact hpoint
  | given isLetter signed digits =>
    rcases isLetter with rfl | rfl <;> exact notNext_cons (by decide) _

theorem readNumber_of_spelled {n : Number} (h : n.Spelled cs) (hrest : Bounds rest) :
    readNumber (cs ++ rest) = some (n, rest) := by
  obtain ⟨digits, noZero, point, power⟩ := h
  next negative whole fraction exponent fractionChars exponentChars =>
  have hdigit : NotNext Char.isDigit rest := notNext_of_bounds hrest (by decide)
  have hpoint : NotNext isPoint rest := notNext_of_bounds hrest (by decide)
  have hletter : NotNext isExponentLetter rest := notNext_of_bounds hrest (by decide)
  have hdigit' := power.notNext_isDigit hdigit
  have hzero : (decide (whole.length > 1) && decide (whole.head? = some 0)) = false := by
    by_cases h : whole.head? = some 0
    · rw [noZero h]
      rfl
    · simp [h]
  have hunsigned : readUnsigned negative
        (digitChars whole ++ (fractionChars ++ (exponentChars ++ rest)))
      = some ({ negative, whole, fraction, exponent }, rest) := by
    unfold readUnsigned
    rw [someDigits_of_areDigits digits (point.notNext_isDigit hdigit')]
    simp only [Option.bind_eq_bind, Option.bind_some, hzero, Bool.false_eq_true, if_false,
      readFraction_of_spells hdigit' point (power.notNext_isPoint hpoint),
      readExponent_of_spells hdigit power hletter]
    rfl
  simp only [List.append_assoc]
  cases negative with
  | true => exact hunsigned
  | false =>
    obtain ⟨c, more, hhead, hfirst⟩ := digits.exists_head
    have hminus : c ≠ '-' := by
      rintro rfl
      cases hfirst
    rw [hhead] at hunsigned ⊢
    refine (readNumber.eq_2 _ ?_).trans hunsigned
    exact fun _ h => hminus (List.cons.inj h).1

/-- A number begins with its sign or with a digit. -/
theorem Spelled.exists_head {n : Number} (h : n.Spelled cs) :
    ∃ c more, cs = c :: more ∧ (c = '-' ∨ c.isDigit = true) := by
  obtain ⟨digits, -, -, -⟩ := h
  next negative _ _ _ _ _ =>
  cases negative with
  | true => exact ⟨'-', _, rfl, Or.inl rfl⟩
  | false =>
    obtain ⟨c, more, hhead, hfirst⟩ := digits.exists_head
    exact ⟨c, more ++ _, congrArg (· ++ _) hhead, Or.inr hfirst⟩

end Numbers
end Number

section Values

variable {fuel : Nat} {cs rest : List Char}

/-- Blanks in front of a value do not matter. -/
theorem readValue_congr {other : List Char} (h : skip cs = skip other) (fuel : Nat) :
    readValue fuel cs = readValue fuel other := by
  cases fuel with
  | zero => rfl
  | succ fuel => rw [readValue.eq_2, readValue.eq_2, h]

theorem readItems_congr {other : List Char} (h : skip cs = skip other) (fuel : Nat) :
    readItems fuel cs = readItems fuel other := by
  cases fuel with
  | zero => rfl
  | succ fuel => rw [readItems.eq_2, readItems.eq_2, readValue_congr h]

theorem readMembers_congr {other : List Char} (h : skip cs = skip other) (fuel : Nat) :
    readMembers fuel cs = readMembers fuel other := by
  cases fuel with
  | zero => rfl
  | succ fuel => rw [readMembers.eq_2, readMembers.eq_2, h]

/-- Nothing but a number begins with a sign or a digit. -/
theorem readValue_number
    {n : Number} (h : n.Spelled cs) (hrest : Bounds rest) :
    readValue (fuel + 1) (cs ++ rest) = some (number n, rest) := by
  have hread := Number.readNumber_of_spelled h hrest
  obtain ⟨c, more, rfl, hc⟩ := h.exists_head
  have hspace : isSpace c = false := by
    cases hblank : isSpace c with
    | false => rfl
    | true =>
      have hchar : c = ' ' ∨ c = '\t' ∨ c = '\n' ∨ c = '\r' := by
        simpa [isSpace, or_assoc] using hblank
      rcases hchar with rfl | rfl | rfl | rfl <;> exact absurd hc (by decide)
  rw [readValue.eq_2, List.cons_append, skip_of_not_isSpace hspace]
  rw [List.cons_append] at hread
  -- The reader comes to numbers last; all branches before begin with a letter or a mark.
  split
  case h_7 => exact congrArg (Option.map _) hread
  all_goals
    next heq =>
      obtain rfl : c = _ := (List.cons.inj heq).1
      exact absurd hc (by decide)

theorem readValue_string {text : Option String} (h : SpellsString text cs) :
    readValue (fuel + 1) (cs ++ rest) = some (string text, rest) := by
  obtain ⟨inside, hcs, hread⟩ := readString_of_spells h rest
  rw [hcs]
  exact congrArg (Option.map _) hread

theorem skip_blanks_mark
    {blanks : List Char} (h : Blanks blanks) {mark : Char} (hmark : isSpace mark = false)
    (rest : List Char) : skip (blanks ++ [mark] ++ rest) = mark :: rest := by
  rw [List.append_assoc, skip_append h]
  exact skip_of_not_isSpace hmark rest

/-- After an opening bracket the list is over, or it has items. -/
theorem readValue_bracket (fuel : Nat) (cs : List Char) :
    readValue (fuel + 1) ('[' :: cs)
      = match skip cs with
        | ']' :: rest => some (array [], rest)
        | cs => (readItems fuel cs).map fun (items, rest) => (array items, rest) :=
  rfl

/-- After an opening brace the object is over, or it has members. -/
theorem readValue_brace (fuel : Nat) (cs : List Char) :
    readValue (fuel + 1) ('\x7b' :: cs)
      = match skip cs with
        | '\x7d' :: rest => some (object [], rest)
        | cs => (readMembers fuel cs).map fun (members, rest) => (object members, rest) :=
  rfl

theorem readValue_emptyArray {blanks : List Char} (h : Blanks blanks) :
    readValue (fuel + 1) ('[' :: (blanks ++ [']']) ++ rest) = some (array [], rest) := by
  rw [List.cons_append, readValue_bracket, skip_blanks_mark h (by decide)]
  rfl

theorem readValue_emptyObject {blanks : List Char} (h : Blanks blanks) :
    readValue (fuel + 1) ('\x7b' :: (blanks ++ ['\x7d']) ++ rest) = some (object [], rest) := by
  rw [List.cons_append, readValue_brace, skip_blanks_mark h (by decide)]
  rfl

/-- A list does not begin with its end. -/
theorem readItems_end (fuel : Nat) (rest : List Char) : readItems fuel (']' :: rest) = none := by
  cases fuel with
  | zero => rfl
  | succ fuel => cases fuel <;> rfl

theorem readValue_array {items : List Json} (h : readItems fuel cs = some (items, rest)) :
    readValue (fuel + 1) ('[' :: cs) = some (array items, rest) := by
  have hread : readItems fuel (skip cs) = some (items, rest) :=
    (readItems_congr (skip_skip cs) fuel).trans h
  rw [readValue_bracket]
  split
  · next more hskip =>
    rw [hskip, readItems_end] at hread
    cases hread
  · exact congrArg (Option.map _) hread

/-- An object does not begin with its end. -/
theorem readMembers_end (fuel : Nat) (rest : List Char) :
    readMembers fuel ('\x7d' :: rest) = none := by
  cases fuel <;> rfl

theorem readValue_object
    {members : List (Option String × Json)} (h : readMembers fuel cs = some (members, rest)) :
    readValue (fuel + 1) ('\x7b' :: cs) = some (object members, rest) := by
  have hread : readMembers fuel (skip cs) = some (members, rest) :=
    (readMembers_congr (skip_skip cs) fuel).trans h
  rw [readValue_brace]
  split
  · next more hskip =>
    rw [hskip, readMembers_end] at hread
    cases hread
  · exact congrArg (Option.map _) hread

theorem readItems_last
    {item : Json} {more : List Char} (h : readValue fuel cs = some (item, more))
    (hmark : skip more = ']' :: rest) : readItems (fuel + 1) cs = some ([item], rest) := by
  rw [readItems.eq_2, h, Option.bind_eq_bind, Option.bind_some]
  simp only [hmark]
  rfl

theorem readItems_cons
    {item : Json} {items : List Json} {more later : List Char}
    (h : readValue fuel cs = some (item, more)) (hmark : skip more = ',' :: later)
    (hlater : readItems fuel later = some (items, rest)) :
    readItems (fuel + 1) cs = some (item :: items, rest) := by
  rw [readItems.eq_2, h, Option.bind_eq_bind, Option.bind_some]
  simp only [hmark, hlater]
  rfl

section Members

variable {key : Option String} {value : Json} {before keyChars between more : List Char}
  (isBefore : Blanks before) (named : SpellsString key keyChars) (isBetween : Blanks between)
  (h : readValue fuel cs = some (value, more))

include isBefore named isBetween h

/-- The first member is read, and the mark behind it decides how to go on. -/
theorem readMembers_eq_match :
    readMembers (fuel + 1) (before ++ (keyChars ++ (between ++ ':' :: cs)))
      = match skip more with
        | ',' :: later =>
          (readMembers fuel later).bind fun (members, rest) =>
            some ((key, value) :: members, rest)
        | '\x7d' :: rest => some ([(key, value)], rest)
        | _ => none := by
  obtain ⟨inside, rfl, hkey⟩ := readString_of_spells named (between ++ ':' :: cs)
  have hcolon : skip (between ++ ':' :: cs) = ':' :: cs := by
    rw [skip_append isBetween, skip_of_not_isSpace (by decide)]
  rw [readMembers.eq_2, skip_append isBefore, List.cons_append, skip_of_not_isSpace (by decide)]
  simp only [hkey, hcolon, h, Option.bind_eq_bind, Option.bind_some]
  rfl

theorem readMembers_last (hmark : skip more = '\x7d' :: rest) :
    readMembers (fuel + 1) (before ++ (keyChars ++ (between ++ ':' :: cs)))
      = some ([(key, value)], rest) := by
  rw [readMembers_eq_match isBefore named isBetween h, hmark]
  rfl

theorem readMembers_cons
    {members : List (Option String × Json)} {later : List Char} (hmark : skip more = ',' :: later)
    (hlater : readMembers fuel later = some (members, rest)) :
    readMembers (fuel + 1) (before ++ (keyChars ++ (between ++ ':' :: cs)))
      = some ((key, value) :: members, rest) := by
  rw [readMembers_eq_match isBefore named isBetween h, hmark]
  exact congrArg (Option.bind · _) hlater

end Members

/-- A part of a text is read, whatever stands behind it. Blanks behind a value are left. -/
def Phrase.Read (cs : List Char) : Phrase → Prop
  | .value v => ∀ fuel rest, 2 * cs.length ≤ fuel → Bounds rest →
    ∃ rest', readValue fuel (cs ++ rest) = some (v, rest') ∧ skip rest' = skip rest
  | .items vs => ∀ fuel rest, 2 * cs.length + 1 ≤ fuel →
    readItems fuel (cs ++ rest) = some (vs, rest)
  | .members ms => ∀ fuel rest, 2 * cs.length + 1 ≤ fuel →
    readMembers fuel (cs ++ rest) = some (ms, rest)

/-- What is read without blanks behind it is read. -/
theorem Phrase.read_value {v : Json} (hsome : cs ≠ [])
    (h : ∀ fuel rest, 2 * cs.length ≤ fuel + 1 → Bounds rest →
      readValue (fuel + 1) (cs ++ rest) = some (v, rest)) :
    (Phrase.value v).Read cs := by
  intro fuel rest hfuel hrest
  have hlength := List.length_pos_iff.2 hsome
  obtain ⟨fuel, rfl⟩ : ∃ k, fuel = k + 1 := ⟨fuel - 1, by omega⟩
  exact ⟨rest, h fuel rest hfuel hrest, rfl⟩

theorem Spells.read {phrase : Phrase} (h : Spells phrase cs) : phrase.Read cs := by
  induction h with
  | blankBefore isBlank inner ih =>
    intro fuel rest hfuel hrest
    rw [List.length_cons] at hfuel
    obtain ⟨rest', hread, hskip⟩ := ih fuel rest (by omega) hrest
    refine ⟨rest', ?_, hskip⟩
    rw [← hread]
    exact readValue_congr (skip_cons isBlank _) fuel
  | blankAfter isBlank inner ih =>
    intro fuel rest hfuel hrest
    rw [List.length_append] at hfuel
    rw [List.append_assoc, List.singleton_append]
    obtain ⟨rest', hread, hskip⟩ := ih fuel _ (by omega) (bounds_cons (Or.inl isBlank) rest)
    exact ⟨rest', hread, hskip.trans (skip_cons isBlank rest)⟩
  | null => exact Phrase.read_value (by simp) fun _ _ _ _ => rfl
  | true => exact Phrase.read_value (by simp) fun _ _ _ _ => rfl
  | false => exact Phrase.read_value (by simp) fun _ _ _ _ => rfl
  | number spelled =>
    refine Phrase.read_value ?_ fun fuel rest _ hrest => readValue_number spelled hrest
    obtain ⟨c, more, rfl, -⟩ := spelled.exists_head
    exact List.cons_ne_nil c more
  | string spelled =>
    refine Phrase.read_value ?_ fun fuel rest _ _ => readValue_string spelled
    obtain ⟨-⟩ := spelled
    exact List.cons_ne_nil _ _
  | emptyArray isBlank =>
    exact Phrase.read_value (List.cons_ne_nil _ _) fun _ _ _ _ => readValue_emptyArray isBlank
  | emptyObject isBlank =>
    exact Phrase.read_value (List.cons_ne_nil _ _) fun _ _ _ _ => readValue_emptyObject isBlank
  | array inner ih =>
    refine Phrase.read_value (List.cons_ne_nil _ _) fun fuel rest hfuel _ => ?_
    rw [List.length_cons] at hfuel
    exact readValue_array (ih fuel rest (by omega))
  | object inner ih =>
    refine Phrase.read_value (List.cons_ne_nil _ _) fun fuel rest hfuel _ => ?_
    rw [List.length_cons] at hfuel
    exact readValue_object (ih fuel rest (by omega))
  | lastItem first ih =>
    intro fuel rest hfuel
    obtain ⟨fuel, rfl⟩ : ∃ k, fuel = k + 1 := ⟨fuel - 1, by omega⟩
    rw [List.length_append, List.length_singleton] at hfuel
    rw [List.append_assoc, List.singleton_append]
    obtain ⟨more, hread, hskip⟩ := ih fuel (']' :: rest) (by omega) (bounds_cons (by simp) rest)
    exact readItems_last hread (hskip.trans (skip_of_not_isSpace (by decide) rest))
  | item first inner ihFirst ih =>
    intro fuel rest hfuel
    obtain ⟨fuel, rfl⟩ : ∃ k, fuel = k + 1 := ⟨fuel - 1, by omega⟩
    rw [List.length_append, List.length_cons] at hfuel
    rw [List.append_assoc, List.cons_append]
    obtain ⟨more, hread, hskip⟩ := ihFirst fuel (',' :: _) (by omega) (bounds_cons (by simp) _)
    exact readItems_cons hread (hskip.trans (skip_of_not_isSpace (by decide) _))
      (ih fuel rest (by omega))
  | lastMember isBefore named isBetween first ih =>
    intro fuel rest hfuel
    obtain ⟨fuel, rfl⟩ : ∃ k, fuel = k + 1 := ⟨fuel - 1, by omega⟩
    simp only [List.length_append, List.length_cons] at hfuel
    simp only [List.append_assoc, List.cons_append, List.nil_append]
    obtain ⟨more, hread, hskip⟩ := ih fuel ('\x7d' :: rest) (by omega) (bounds_cons (by simp) rest)
    exact readMembers_last isBefore named isBetween hread
      (hskip.trans (skip_of_not_isSpace (by decide) rest))
  | member isBefore named isBetween first inner ihFirst ih =>
    intro fuel rest hfuel
    obtain ⟨fuel, rfl⟩ : ∃ k, fuel = k + 1 := ⟨fuel - 1, by omega⟩
    simp only [List.length_append, List.length_cons] at hfuel
    simp only [List.append_assoc, List.cons_append]
    obtain ⟨more, hread, hskip⟩ := ihFirst fuel (',' :: _) (by omega) (bounds_cons (by simp) _)
    exact readMembers_cons isBefore named isBetween hread
      (hskip.trans (skip_of_not_isSpace (by decide) _)) (ih fuel rest (by omega))

end Values

/-- A text is read as the value that it spells. -/
theorem ofText?_of_spelled {value : Json} {text : String} (h : value.Spelled text) :
    ofText? text = some value := by
  obtain ⟨rest, hread, hskip⟩ := h.read (2 * text.toList.length + 2) [] (by omega) nofun
  rw [List.append_nil] at hread
  unfold ofText? ofChars?
  rw [hread, Option.bind_eq_bind, Option.bind_some]
  simp only [hskip]
  rfl

end Json
end VpnFleet
