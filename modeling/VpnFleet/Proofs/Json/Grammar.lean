import VpnFleet.Json.Reader

/-!
# The grammar of JSON texts

A text spells a value by the standard grammar, which says nothing about how it
is read. Blanks may stand on both sides of a value, of a key and of every mark,
strings may use any escape, and numbers have their sign, point and exponent.

* `SpellsChars` is the inside of a string. A character stands as it is, or is
  spelled by a letter, a unit or a pair of units behind a backslash. Half a pair
  is well formed, but leaves the string without a text.
* `Number.Spelled` is a number, digit by digit.
* `Spells` is a value, or what stands in a list or an object up to and with the
  closing mark. `Spelled` is the value of a whole text.
-/

namespace VpnFleet
namespace Json

/-- Blanks and nothing else. -/
def Blanks (cs : List Char) : Prop :=
  ∀ c ∈ cs, isSpace c = true

section Strings

/-- The second half of a surrogate pair comes next. -/
def MeetsTrailing (cs : List Char) : Prop :=
  ∃ a b c d unit rest,
    cs = '\\' :: 'u' :: a :: b :: c :: d :: rest
      ∧ unit? a b c d = some unit ∧ isTrailing unit = true

/-- The inside of a string, with its text if there is one. -/
inductive SpellsChars : Option (List Char) → List Char → Prop
  | nil : SpellsChars (some []) []
  | plain {c : Char} {text : Option (List Char)} {cs : List Char}
      (visible : 0x20 ≤ c.toNat) (quote : c ≠ '"') (backslash : c ≠ '\\')
      (rest : SpellsChars text cs) :
      SpellsChars (text.map (c :: ·)) (c :: cs)
  | letter {letter c : Char} {text : Option (List Char)} {cs : List Char}
      (stands : escaped? letter = some c) (rest : SpellsChars text cs) :
      SpellsChars (text.map (c :: ·)) ('\\' :: letter :: cs)
  | unit {a b c d : Char} {unit : Nat} {text : Option (List Char)} {cs : List Char}
      (spelled : unit? a b c d = some unit)
      (leading : isLeading unit = false) (trailing : isTrailing unit = false)
      (rest : SpellsChars text cs) :
      SpellsChars (text.map (Char.ofNat unit :: ·)) ('\\' :: 'u' :: a :: b :: c :: d :: cs)
  | pair {a b c d a' b' c' d' : Char} {first second : Nat} {text : Option (List Char)}
      {cs : List Char}
      (spelled : unit? a b c d = some first) (leading : isLeading first = true)
      (spelled' : unit? a' b' c' d' = some second) (trailing : isTrailing second = true)
      (rest : SpellsChars text cs) :
      SpellsChars (text.map (pairChar first second :: ·))
        ('\\' :: 'u' :: a :: b :: c :: d :: '\\' :: 'u' :: a' :: b' :: c' :: d' :: cs)
  | firstHalf {a b c d : Char} {unit : Nat} {text : Option (List Char)} {cs : List Char}
      (spelled : unit? a b c d = some unit) (leading : isLeading unit = true)
      (alone : ¬ MeetsTrailing cs) (rest : SpellsChars text cs) :
      SpellsChars none ('\\' :: 'u' :: a :: b :: c :: d :: cs)
  | secondHalf {a b c d : Char} {unit : Nat} {text : Option (List Char)} {cs : List Char}
      (spelled : unit? a b c d = some unit) (trailing : isTrailing unit = true)
      (rest : SpellsChars text cs) :
      SpellsChars none ('\\' :: 'u' :: a :: b :: c :: d :: cs)

/-- A string between its quotes. -/
inductive SpellsString : Option String → List Char → Prop
  | quoted {text : Option (List Char)} {cs : List Char} (inside : SpellsChars text cs) :
      SpellsString (text.map String.ofList) ('"' :: (cs ++ ['"']))

end Strings

namespace Number

/-- Digits as characters. -/
def digitChars (ds : List Nat) : List Char :=
  ds.map Nat.digitChar

/-- One digit or more. -/
structure AreDigits (ds : List Nat) : Prop where
  some : ds ≠ []
  below : ∀ d ∈ ds, d < 10

/-- The point and the digits behind it, if there are any. -/
inductive SpellsFraction : List Nat → List Char → Prop
  | absent : SpellsFraction [] []
  | given {ds : List Nat} (digits : AreDigits ds) : SpellsFraction ds ('.' :: digitChars ds)

/-- The sign of an exponent. -/
inductive SpellsSign : Bool → List Char → Prop
  | absent : SpellsSign false []
  | plus : SpellsSign false ['+']
  | minus : SpellsSign true ['-']

/-- The letter and the exponent behind it, if there is one. -/
inductive SpellsExponent : Option (Bool × List Nat) → List Char → Prop
  | absent : SpellsExponent none []
  | given {letter : Char} {minus : Bool} {sign : List Char} {ds : List Nat}
      (isLetter : letter = 'e' ∨ letter = 'E') (signed : SpellsSign minus sign)
      (digits : AreDigits ds) :
      SpellsExponent (some (minus, ds)) (letter :: (sign ++ digitChars ds))

/-- A number; no zero stands in front of other whole digits. -/
inductive Spelled : Number → List Char → Prop
  | mk {negative : Bool} {whole fraction : List Nat} {exponent : Option (Bool × List Nat)}
      {fractionChars exponentChars : List Char}
      (digits : AreDigits whole) (noZero : whole.head? = some 0 → whole = [0])
      (point : SpellsFraction fraction fractionChars)
      (power : SpellsExponent exponent exponentChars) :
      Spelled { negative, whole, fraction, exponent }
        ((if negative then ['-'] else []) ++ (digitChars whole ++ (fractionChars ++ exponentChars)))

end Number

/-- What a part of a text stands for. -/
inductive Phrase where
  | value (value : Json)
  /-- The items of a list, one or more, up to and with the closing bracket. -/
  | items (items : List Json)
  /-- The members of an object, one or more, up to and with the closing brace. -/
  | members (members : List (Option String × Json))

/-- A part of a text. Blanks around a value belong to it. -/
inductive Spells : Phrase → List Char → Prop
  | blankBefore {space : Char} {value : Json} {cs : List Char}
      (isBlank : isSpace space = true) (rest : Spells (.value value) cs) :
      Spells (.value value) (space :: cs)
  | blankAfter {space : Char} {value : Json} {cs : List Char}
      (isBlank : isSpace space = true) (rest : Spells (.value value) cs) :
      Spells (.value value) (cs ++ [space])
  | null : Spells (.value null) ['n', 'u', 'l', 'l']
  | true : Spells (.value (bool true)) ['t', 'r', 'u', 'e']
  | false : Spells (.value (bool false)) ['f', 'a', 'l', 's', 'e']
  | number {n : Number} {cs : List Char} (spelled : n.Spelled cs) : Spells (.value (number n)) cs
  | string {text : Option String} {cs : List Char} (spelled : SpellsString text cs) :
      Spells (.value (string text)) cs
  | emptyArray {blanks : List Char} (isBlank : Blanks blanks) :
      Spells (.value (array [])) ('[' :: (blanks ++ [']']))
  | array {items : List Json} {cs : List Char} (rest : Spells (.items items) cs) :
      Spells (.value (array items)) ('[' :: cs)
  | emptyObject {blanks : List Char} (isBlank : Blanks blanks) :
      Spells (.value (object [])) ('\x7b' :: (blanks ++ ['\x7d']))
  | object {members : List (Option String × Json)} {cs : List Char}
      (rest : Spells (.members members) cs) :
      Spells (.value (object members)) ('\x7b' :: cs)
  | lastItem {item : Json} {cs : List Char} (first : Spells (.value item) cs) :
      Spells (.items [item]) (cs ++ [']'])
  | item {item : Json} {items : List Json} {cs more : List Char}
      (first : Spells (.value item) cs) (rest : Spells (.items items) more) :
      Spells (.items (item :: items)) (cs ++ ',' :: more)
  | lastMember {key : Option String} {value : Json} {before keyChars between cs : List Char}
      (isBefore : Blanks before) (named : SpellsString key keyChars) (isBetween : Blanks between)
      (first : Spells (.value value) cs) :
      Spells (.members [(key, value)])
        (before ++ (keyChars ++ (between ++ ':' :: (cs ++ ['\x7d']))))
  | member {key : Option String} {value : Json} {members : List (Option String × Json)}
      {before keyChars between cs more : List Char}
      (isBefore : Blanks before) (named : SpellsString key keyChars) (isBetween : Blanks between)
      (first : Spells (.value value) cs) (rest : Spells (.members members) more) :
      Spells (.members ((key, value) :: members))
        (before ++ (keyChars ++ (between ++ ':' :: (cs ++ ',' :: more))))

/-- The value of a whole text. -/
def Spelled (value : Json) (text : String) : Prop :=
  Spells (.value value) text.toList

end Json
end VpnFleet
