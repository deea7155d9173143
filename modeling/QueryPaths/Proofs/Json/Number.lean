import QueryPaths.Proofs.Json.Reading

/-! # Numbers are read as they are written

    A number has digits in front of the point, with no zero ahead of others, and perhaps digits
    behind the point and an exponent. Each part ends where the next one begins or where the value
    ends, so a number that is written so is found again from its characters, and nothing behind it
    is taken.

    * **`NumberText.WellFormed`**, **`NumberText.unsigned`**: the numbers of JSON, and how they are
      written.
    * **`lexDigits_append`**, **`lexExponent_append`**, **`lexFraction_append`**: the parts.
    * **`lexNumber_unsigned`**: the whole number.
    * **`Reads.number`**: it is read as the number that is meant.
-/

namespace QueryPaths.Json

variable {rest digits : List Char} {mark : Char}

/-! ## Written numbers -/

/-- **Some digits**, at least one. -/
def IsDigits (s : List Char) : Prop := s ≠ [] ∧ ∀ c ∈ s, c.isDigit = true

/-- **What a number consists of.** -/
structure NumberText.WellFormed (n : NumberText) : Prop where
  /-- Only a zero that stands alone comes first. -/
  whole : n.whole = ['0'] ∨ IsDigits n.whole ∧ n.whole.head? ≠ some '0'
  /-- There are digits behind the point. -/
  fraction : ∀ digits ∈ n.fraction, IsDigits digits
  /-- There are digits in the exponent, and perhaps a sign before them. -/
  exponent : ∀ e ∈ n.exponent, (∀ c ∈ e.1, c = '+' ∨ c = '-') ∧ IsDigits e.2

/-- The point and the digits behind it. -/
def fractionChars : Option (List Char) → List Char
  | none => []
  | some digits => '.' :: digits

/-- The mark of the exponent, its sign and its digits. -/
def exponentChars (mark : Char) : Option (Option Char × List Char) → List Char
  | none => []
  | some (sign, digits) => mark :: (sign.toList ++ digits)

/-- **A number without its sign**, with a small or a capital letter before the exponent. -/
def NumberText.unsigned (mark : Char) (n : NumberText) : List Char :=
  n.whole ++ (fractionChars n.fraction ++ exponentChars mark n.exponent)

/-! ## Digits -/

/-- **Does a run of digits end in front of this text?** -/
def EndsDigits (s : List Char) : Prop := ∀ c ∈ s.head?, c.isDigit = false

theorem digitRun_append (hdigits : ∀ c ∈ digits, c.isDigit = true) (hrest : EndsDigits rest) :
    digitRun (digits ++ rest) = (digits, rest) := by
  rw [digitRun, List.takeWhile_append_of_pos hdigits, List.dropWhile_append_of_pos hdigits]
  cases rest with
  | nil => rw [List.takeWhile_nil, List.dropWhile_nil, List.append_nil]
  | cons c rest =>
    have hc : ¬c.isDigit = true := by
      rw [hrest c rfl]
      exact Bool.false_ne_true
    rw [List.takeWhile_cons_of_neg hc, List.dropWhile_cons_of_neg hc, List.append_nil]

/-- **Digits are read to the last one.** -/
theorem lexDigits_append (hdigits : IsDigits digits) (hrest : EndsDigits rest) :
    lexDigits (digits ++ rest) = .ok (digits, rest) := by
  rw [lexDigits, digitRun_append hdigits.2 hrest, if_neg hdigits.1]

theorem lexSign_of_isDigits (hdigits : IsDigits digits) (s : List Char) :
    lexSign (digits ++ s) = (none, digits ++ s) := by
  obtain ⟨hne, hall⟩ := hdigits
  cases digits with
  | nil => exact absurd rfl hne
  | cons d digits =>
    have hd := hall d List.mem_cons_self
    rw [List.cons_append, lexSign]
    · intro s heq
      obtain ⟨rfl, -⟩ := List.cons.inj heq
      cases hd
    · intro s heq
      obtain ⟨rfl, -⟩ := List.cons.inj heq
      cases hd

/-! ## Parts of a number -/

/-- **Does a number end in front of this text?** -/
def EndsNumber (s : List Char) : Prop :=
  ∀ c ∈ s.head?, c.isDigit = false ∧ c ∉ ['.', 'e', 'E']

theorem EndsValue.endsNumber (h : EndsValue rest) : EndsNumber rest := by
  intro c hc
  have hvalue := h c hc
  simp only [isBlank, Bool.or_eq_true, beq_iff_eq, List.mem_cons, List.not_mem_nil, or_false]
    at hvalue
  rcases hvalue with (((rfl | rfl) | rfl) | rfl) | rfl | rfl | rfl <;> decide

/-- **The exponent is read**, and nothing else if there is none. -/
theorem lexExponent_append {n : NumberText} {exponent : Option (Option Char × List Char)}
    (hn : n.exponent = none) (hmark : mark = 'e' ∨ mark = 'E')
    (hexponent : ∀ e ∈ exponent, (∀ c ∈ e.1, c = '+' ∨ c = '-') ∧ IsDigits e.2)
    (hrest : EndsNumber rest) :
    lexExponent n (exponentChars mark exponent ++ rest) = .ok ({ n with exponent }, rest) := by
  have hdigit : EndsDigits rest := fun c hc => (hrest c hc).1
  cases exponent with
  | none =>
    -- without an exponent nothing is changed, and nothing behind the number looks like one
    have hsame : ({ n with exponent := none } : NumberText) = n := by rw [← hn]
    rw [exponentChars, List.nil_append, hsame]
    cases rest with
    | nil => rfl
    | cons c rest =>
      have hc := (hrest c rfl).2
      simp only [List.mem_cons, List.not_mem_nil, or_false, not_or] at hc
      rw [lexExponent, if_neg (not_or.2 hc.2)]
  | some e =>
    obtain ⟨sign, digits⟩ := e
    obtain ⟨hsign, hdigits⟩ := hexponent _ rfl
    have hlex : lexSign (sign.toList ++ digits ++ rest) = (sign, digits ++ rest) := by
      cases sign with
      | none => exact lexSign_of_isDigits hdigits rest
      | some c =>
        rcases hsign c rfl with rfl | rfl
        · rfl
        · rfl
    rw [exponentChars, List.cons_append, lexExponent, if_pos hmark, hlex,
      lexDigits_append hdigits hdigit]
    rfl

theorem endsDigits_exponentChars (hmark : mark = 'e' ∨ mark = 'E')
    (exponent : Option (Option Char × List Char)) (hrest : EndsNumber rest) :
    ∀ c ∈ (exponentChars mark exponent ++ rest).head?, c.isDigit = false ∧ c ≠ '.' := by
  cases exponent with
  | none =>
    intro c hc
    have hno := hrest c hc
    exact ⟨hno.1, fun heq => hno.2 (by simp [heq])⟩
  | some e =>
    intro c hc
    obtain rfl := Option.some.inj hc
    rcases hmark with rfl | rfl <;> decide

/-- **The fraction is read**, and the exponent behind it. -/
theorem lexFraction_append {n : NumberText} {fraction : Option (List Char)}
    {exponent : Option (Option Char × List Char)} (hn : n.fraction = none ∧ n.exponent = none)
    (hmark : mark = 'e' ∨ mark = 'E') (hfraction : ∀ digits ∈ fraction, IsDigits digits)
    (hexponent : ∀ e ∈ exponent, (∀ c ∈ e.1, c = '+' ∨ c = '-') ∧ IsDigits e.2)
    (hrest : EndsNumber rest) :
    lexFraction n (fractionChars fraction ++ exponentChars mark exponent ++ rest) =
      .ok ({ n with fraction, exponent }, rest) := by
  have hbehind := endsDigits_exponentChars hmark exponent hrest
  cases fraction with
  | none =>
    have hsame : ({ n with fraction := none, exponent } : NumberText) = { n with exponent } := by
      rw [← hn.1]
    rw [fractionChars, List.nil_append, hsame, lexFraction]
    · exact lexExponent_append hn.2 hmark hexponent hrest
    · intro s hs
      exact (hbehind '.' (by rw [hs]; rfl)).2 rfl
  | some digits =>
    rw [fractionChars, List.cons_append, List.cons_append, lexFraction, List.append_assoc,
      lexDigits_append (hfraction _ rfl) fun c hc => (hbehind c hc).1]
    exact lexExponent_append hn.2 hmark hexponent hrest

theorem endsDigits_fractionChars (hmark : mark = 'e' ∨ mark = 'E') (fraction : Option (List Char))
    (exponent : Option (Option Char × List Char)) (hrest : EndsNumber rest) :
    EndsDigits (fractionChars fraction ++ exponentChars mark exponent ++ rest) := by
  cases fraction with
  | none => exact fun c hc => (endsDigits_exponentChars hmark exponent hrest c hc).1
  | some digits =>
    intro c hc
    obtain rfl := Option.some.inj hc
    decide

/-! ## Whole numbers and others -/

/-- **A number is read as it is written**, behind its sign. -/
theorem lexNumber_unsigned {n : NumberText} (hn : n.WellFormed) (hmark : mark = 'e' ∨ mark = 'E')
    (hrest : EndsNumber rest) :
    lexNumber n.negative (n.unsigned mark ++ rest) = .ok (n, rest) := by
  obtain ⟨negative, whole, fraction, exponent⟩ := n
  obtain ⟨hwhole, hfraction, hexponent⟩ := hn
  have hends := endsDigits_fractionChars hmark fraction exponent hrest
  have hbehind : ∀ digits, lexFraction ⟨negative, digits, none, none⟩
      (fractionChars fraction ++ exponentChars mark exponent ++ rest) =
        .ok (⟨negative, digits, fraction, exponent⟩, rest) := fun _ =>
    lexFraction_append ⟨rfl, rfl⟩ hmark hfraction hexponent hrest
  rw [NumberText.unsigned, List.append_assoc]
  dsimp only at hwhole ⊢
  -- a zero stands alone before the point, and other digits do not begin with one
  rcases hwhole with rfl | ⟨hdigits, hzero⟩
  · have halone : ¬(fractionChars fraction ++ exponentChars mark exponent ++ rest).head?.any
        Char.isDigit = true := by
      rw [Option.any_eq_true]
      rintro ⟨c, hc, hdigit⟩
      rw [hends c hc] at hdigit
      cases hdigit
    rw [List.singleton_append, lexNumber, if_neg halone, hbehind]
  · have hlex := lexDigits_append hdigits hends
    rw [lexNumber, hlex]
    · exact hbehind whole
    · intro s heq
      apply hzero
      cases whole with
      | nil => exact absurd rfl hdigits.1
      | cons d whole =>
        obtain ⟨rfl, -⟩ := List.cons.inj heq
        rfl

/-! ## Numbers as values -/

theorem scanNegative_of_lexNumber {s : List Char} {n : NumberText}
    (h : lexNumber true s = .ok (n, rest)) :
    (scanNegative s).parts = (.number n.found, some rest) := by
  unfold scanNegative
  split
  · next heq => cases heq.symm.trans h
  · next heq =>
    cases heq.symm.trans h
    rfl

theorem scanNumber_of_lexNumber {c : Char} {s : List Char} {n : NumberText}
    (h : lexNumber false (c :: s) = .ok (n, rest)) :
    (scanNumber c s).parts = (.number n.found, some rest) := by
  unfold scanNumber
  split
  · next heq => cases heq.symm.trans h
  · next heq =>
    cases heq.symm.trans h
    rfl

theorem scanValue_minus (s : List Char) : scanValue '-' s = scanNegative s := by
  rw [scanValue, if_neg (by decide), if_neg (by decide), if_neg (by decide), if_neg (by decide),
    if_neg (by decide), if_neg (by decide), if_pos rfl]

theorem scanValue_digit {c : Char} (h : c.isDigit = true) (s : List Char) :
    scanValue c s = scanNumber c s := by
  have hne : ∀ d, d.isDigit = false → c ≠ d := by
    rintro d hd rfl
    rw [hd] at h
    cases h
  rw [scanValue, if_neg (hne '"' (by decide)), if_neg (hne '[' (by decide)),
    if_neg (hne '\x7b' (by decide)), if_neg (hne 'n' (by decide)), if_neg (hne 't' (by decide)),
    if_neg (hne 'f' (by decide)), if_neg (hne '-' (by decide)), if_pos h]

/-- A number begins with a digit, apart from its sign. -/
theorem NumberText.WellFormed.unsigned_eq_cons {n : NumberText} (hn : n.WellFormed) (mark : Char) :
    ∃ c s, n.unsigned mark = c :: s ∧ c.isDigit = true := by
  rcases hn.whole with hzero | ⟨⟨hne, hall⟩, -⟩
  · exact ⟨'0', _, by rw [unsigned, hzero, List.singleton_append], by decide⟩
  · obtain ⟨c, whole, hcons⟩ := List.exists_cons_of_ne_nil hne
    exact ⟨c, _, by rw [unsigned, hcons, List.cons_append],
      hall c (by rw [hcons]; exact List.mem_cons_self)⟩

/-- The characters of a number, with its sign. -/
def NumberText.charsWith (mark : Char) (n : NumberText) : List Char :=
  if n.negative then '-' :: n.unsigned mark else n.unsigned mark

/-- **A number is read as the number that is meant**, wherever a value ends behind it. -/
theorem Reads.number {n : NumberText} (hn : n.WellFormed) (hmark : mark = 'e' ∨ mark = 'E') :
    Reads (n.charsWith mark) (.number n.found) := by
  have hlex : ∀ rest, EndsValue rest →
      lexNumber n.negative (n.unsigned mark ++ rest) = .ok (n, rest) := fun rest hrest =>
    lexNumber_unsigned hn hmark hrest.endsNumber
  rw [NumberText.charsWith]
  -- a sign is taken off before the number is looked at
  by_cases hsign : n.negative = true
  · rw [if_pos hsign]
    refine ⟨'-', n.unsigned mark, rfl, fun rest hrest => ?_⟩
    rw [scanValue_minus]
    exact scanNegative_of_lexNumber (hsign ▸ hlex rest hrest)
  · rw [if_neg hsign]
    rw [Bool.not_eq_true] at hsign
    obtain ⟨c, s, hcons, hdigit⟩ := hn.unsigned_eq_cons mark
    refine ⟨c, s, hcons, fun rest hrest => ?_⟩
    rw [scanValue_digit hdigit]
    apply scanNumber_of_lexNumber
    rw [← List.cons_append, ← hcons, ← hsign]
    exact hlex rest hrest

end QueryPaths.Json
