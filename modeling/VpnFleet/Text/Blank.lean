/-!
# Blank text

The twenty-five characters with the Unicode property `White_Space`, and the
text that remains when they are taken off both ends. A text is *blank* when
nothing remains.

**Results.** Trimming removes blanks at both ends only, a blank text is one
that trims to nothing, and trimming twice is trimming once. An optional text
that may not be blank is missing exactly if it is blank wherever it is given.
-/

namespace VpnFleet
namespace Text

/-- The characters with the property `White_Space`. -/
def isBlankChar (c : Char) : Bool :=
  let n := c.toNat
  (0x09 ≤ n && n ≤ 0x0D) || n == 0x20 || n == 0x85 || n == 0xA0 || n == 0x1680
    || (0x2000 ≤ n && n ≤ 0x200A) || n == 0x2028 || n == 0x2029 || n == 0x202F
    || n == 0x205F || n == 0x3000

/-- Blanks are dropped in front and, after a reversal, behind. -/
def trimChars (cs : List Char) : List Char :=
  ((cs.dropWhile isBlankChar).reverse.dropWhile isBlankChar).reverse

/-- The text without the blanks at its two ends. -/
def trim (s : String) : String :=
  String.ofList (trimChars s.toList)

/-- A text of blanks alone; the empty text is one. -/
def isBlank (s : String) : Bool :=
  s.toList.all isBlankChar

/-- The text itself, unless it is blank. -/
def nonBlank (s : String) : Option String :=
  if isBlank s then none else some s

theorem nonBlank_eq_some_iff {s text : String} :
    nonBlank s = some text ↔ s = text ∧ isBlank text = false := by
  unfold nonBlank
  cases hblank : isBlank s with
  | false =>
    rw [if_neg Bool.false_ne_true, Option.some.injEq]
    constructor
    · rintro rfl
      exact ⟨rfl, hblank⟩
    · exact And.left
  | true =>
    rw [if_pos rfl]
    constructor
    · nofun
    · rintro ⟨rfl, hnamed⟩
      exact absurd (hblank.symm.trans hnamed) nofun

theorem nonBlank_eq_none_iff {s : String} : nonBlank s = none ↔ isBlank s = true := by
  simp [nonBlank]

/-- An optional text is there if it is given and not blank. -/
theorem bind_nonBlank_eq_some_iff {text? : Option String} {text : String} :
    text?.bind nonBlank = some text ↔ text? = some text ∧ isBlank text = false := by
  cases text? with
  | none => simp
  | some given => rw [Option.bind_some, nonBlank_eq_some_iff, Option.some.injEq]

theorem bind_nonBlank_eq_none_iff {text? : Option String} :
    text?.bind nonBlank = none ↔ ∀ text, text? = some text → isBlank text = true := by
  cases text? with
  | none => simp
  | some given => simp [nonBlank_eq_none_iff]

/-- A list of blanks has nothing left after `dropWhile`, and conversely. -/
theorem dropWhile_eq_nil_iff_all
    {α : Type} (p : α → Bool) (xs : List α) :
    xs.dropWhile p = [] ↔ xs.all p = true := by
  induction xs with
  | nil => simp
  | cons x xs ih =>
    cases hx : p x
    · simp [hx]
    · simp [hx, ih]

/-- A text trims to nothing exactly when it is blank. -/
theorem trimChars_eq_nil_iff (cs : List Char) :
    trimChars cs = [] ↔ cs.all isBlankChar = true := by
  unfold trimChars
  rw [List.reverse_eq_nil_iff, dropWhile_eq_nil_iff_all, List.all_reverse]
  constructor
  · intro h
    cases hd : cs.dropWhile isBlankChar with
    | nil => exact (dropWhile_eq_nil_iff_all _ _).1 hd
    | cons x xs =>
      have hx := List.head?_dropWhile_not isBlankChar cs
      simp only [hd, List.head?_cons] at hx
      simp [hd, hx] at h
  · intro h
    rw [(dropWhile_eq_nil_iff_all _ _).2 h]
    rfl

/-- A text is blank exactly when it trims to the empty text. -/
theorem isBlank_iff_trim_eq_empty (s : String) :
    isBlank s = true ↔ trim s = "" := by
  unfold isBlank trim
  rw [← trimChars_eq_nil_iff]
  constructor
  · intro h
    rw [h]
  · intro h
    have := congrArg String.toList h
    simpa using this

/-- A list whose first character stays keeps all of them. -/
theorem dropWhile_eq_self_of_head?
    {α : Type} {p : α → Bool} {xs : List α}
    (h : ∀ x, xs.head? = some x → p x = false) :
    xs.dropWhile p = xs := by
  cases xs with
  | nil => rfl
  | cons x xs => exact List.dropWhile_cons_of_neg (by simp [h x rfl])

theorem head?_dropWhile_eq_false
    {α : Type} {p : α → Bool} {xs : List α} {x : α}
    (h : (xs.dropWhile p).head? = some x) :
    p x = false := by
  have hhead := List.head?_dropWhile_not p xs
  rw [h] at hhead
  exact hhead

/-- What is left begins where it began after the blanks in front were dropped. -/
theorem head?_trimChars {cs : List Char} {c : Char} (h : (trimChars cs).head? = some c) :
    isBlankChar c = false := by
  obtain ⟨rest, hrest⟩ : trimChars cs <+: cs.dropWhile isBlankChar := by
    unfold trimChars
    rw [← List.reverse_suffix, List.reverse_reverse]
    exact List.dropWhile_suffix _
  have hhead : (cs.dropWhile isBlankChar).head? = some c := by
    rw [← hrest, List.head?_append, h]
    rfl
  exact head?_dropWhile_eq_false hhead

theorem getLast?_trimChars {cs : List Char} {c : Char} (h : (trimChars cs).getLast? = some c) :
    isBlankChar c = false := by
  unfold trimChars at h
  rw [List.getLast?_reverse] at h
  exact head?_dropWhile_eq_false h

theorem trimChars_trimChars (cs : List Char) :
    trimChars (trimChars cs) = trimChars cs := by
  have hfront : (trimChars cs).dropWhile isBlankChar = trimChars cs :=
    dropWhile_eq_self_of_head? fun _ => head?_trimChars
  have hback : (trimChars cs).reverse.dropWhile isBlankChar = (trimChars cs).reverse := by
    refine dropWhile_eq_self_of_head? fun c hc => ?_
    rw [List.head?_reverse] at hc
    exact getLast?_trimChars hc
  show (((trimChars cs).dropWhile isBlankChar).reverse.dropWhile isBlankChar).reverse = _
  rw [hfront, hback, List.reverse_reverse]

/-- What is left of a text without the blanks at its two ends. -/
structure TrimsTo (whole inner : String) : Prop where
  around : ∃ front back,
    whole = front ++ inner ++ back ∧ isBlank front = true ∧ isBlank back = true
  first : ∀ c, inner.toList.head? = some c → isBlankChar c = false
  last : ∀ c, inner.toList.getLast? = some c → isBlankChar c = false

theorem trimsTo_trim (s : String) : TrimsTo s (trim s) := by
  have hinner : (trim s).toList = trimChars s.toList := String.toList_ofList
  refine ⟨?_, ?_, ?_⟩
  · let middle := s.toList.dropWhile isBlankChar
    let front := s.toList.takeWhile isBlankChar
    let back := (middle.reverse.takeWhile isBlankChar).reverse
    have hmiddle : middle = trimChars s.toList ++ back := by
      show middle = (middle.reverse.dropWhile isBlankChar).reverse ++ back
      rw [← List.reverse_append, List.takeWhile_append_dropWhile, List.reverse_reverse]
    refine ⟨String.ofList front, String.ofList back, ?_, ?_, ?_⟩
    · rw [← String.toList_inj, String.toList_append, String.toList_append, String.toList_ofList,
        String.toList_ofList, hinner, List.append_assoc, ← hmiddle]
      exact List.takeWhile_append_dropWhile.symm
    · unfold isBlank
      rw [String.toList_ofList]
      exact List.all_takeWhile
    · unfold isBlank
      rw [String.toList_ofList, List.all_reverse]
      exact List.all_takeWhile
  · intro c hc
    rw [hinner] at hc
    exact head?_trimChars hc
  · intro c hc
    rw [hinner] at hc
    exact getLast?_trimChars hc

@[simp]
theorem trim_trim (s : String) : trim (trim s) = trim s := by
  unfold trim
  rw [String.toList_ofList, trimChars_trimChars]

@[simp]
theorem isBlank_trim (s : String) : isBlank (trim s) = isBlank s := by
  rw [Bool.eq_iff_iff, isBlank_iff_trim_eq_empty, isBlank_iff_trim_eq_empty, trim_trim]

end Text
end VpnFleet
