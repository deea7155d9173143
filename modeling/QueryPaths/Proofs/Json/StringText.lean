import QueryPaths.Json.Reading
import QueryPaths.Proofs.Source.Literal

/-! # Strings are read back

    A string is written unit by unit, and a unit in one of three ways: a character as itself or
    behind a backslash, or a code unit in hexadecimal. Where a string stands in a document, its
    units are found up to the closing quote and nothing behind it. A text that is written out has a
    unit for each of its characters, so it is read back.

    * **`UnitText`**, **`StringText`**: the ways to write a string.
    * **`lexUnits_of_stringText`**: its units. **`meaning`**: what they make up.
    * **`scanText_of_stringText`**: a string in front of other text is read as what it means.
    * **`stringText_encode`**: a text that is written out, with the unit **`unitOf`** for each
      character.
    * **`scanText_encode`**: it is read back.
-/

namespace QueryPaths.Json

open Source (hexDigit?_digitChar)

/-! ## Ways to write a string -/

/-- **The ways to write a unit of a string.** -/
inductive UnitText : StringUnit → List Char → Prop where
  /-- Most characters stand for themselves. -/
  | plain {c : Char} (hquote : c ≠ '"') (hslash : c ≠ '\\') (hcontrol : ¬c.toNat < 0x20) :
      UnitText (.plain c) [c]
  /-- Some are meant by a character behind a backslash. -/
  | escaped {e meant : Char} (h : simpleEscape? e = some meant) :
      UnitText (.escaped meant) ['\\', e]
  /-- Code units are written with four hexadecimal digits. -/
  | code {x y z w : Char} {unit : Nat} (h : hexCode? x y z w = some unit) :
      UnitText (.code unit) ['\\', 'u', x, y, z, w]

/-- **The ways to write a string** behind its opening quote. -/
inductive StringText : List StringUnit → List Char → Prop where
  | quote : StringText [] ['"']
  | unit {u : StringUnit} {units : List StringUnit} {text more : List Char}
      (hunit : UnitText u text) (hmore : StringText units more) :
      StringText (u :: units) (text ++ more)

/-- **What the units of a string mean**, or why they stand for no text. -/
def meaning (units : List StringUnit) : Except Fault String :=
  (joinUnits (.closed []) units).map String.ofList

variable {c : Char} {text rest : List Char} {stop : StringEnd} {units : List StringUnit}

/-! ## Units -/

theorem lexUnits_quote (rest : List Char) : lexUnits ('"' :: rest) = ([], .closed rest) := by
  rw [lexUnits.eq_def]
  exact if_pos rfl

theorem lexUnits_escape {e meant : Char} (h : simpleEscape? e = some meant) (rest : List Char) :
    lexUnits ('\\' :: e :: rest) = (.escaped meant :: (lexUnits rest).1, (lexUnits rest).2) := by
  have hcode : e ≠ 'u' := by
    intro heq
    have hnone : simpleEscape? 'u' = none := rfl
    rw [heq, hnone] at h
    cases h
  rw [lexUnits.eq_5 _ _ _ (fun _ _ _ _ _ heq _ => hcode heq) hcode, if_neg (by decide), if_pos rfl,
    h]

theorem lexUnits_code {x y z w : Char} {unit : Nat} (h : hexCode? x y z w = some unit)
    (rest : List Char) :
    lexUnits ('\\' :: 'u' :: x :: y :: z :: w :: rest) =
      (.code unit :: (lexUnits rest).1, (lexUnits rest).2) := by
  rw [lexUnits.eq_3, if_neg (by decide), if_pos rfl, h]

theorem lexUnits_plain (hquote : c ≠ '"') (hslash : c ≠ '\\') (hcontrol : ¬c.toNat < 0x20)
    (rest : List Char) :
    lexUnits (c :: rest) = (.plain c :: (lexUnits rest).1, (lexUnits rest).2) := by
  rw [lexUnits.eq_def]
  dsimp only
  rw [if_neg hquote, if_neg hslash, if_neg hcontrol]

/-- **A unit is found from its characters.** -/
theorem lexUnits_of_unitText {u : StringUnit} (h : UnitText u text) (rest : List Char) :
    lexUnits (text ++ rest) = (u :: (lexUnits rest).1, (lexUnits rest).2) := by
  cases h with
  | plain hquote hslash hcontrol => exact lexUnits_plain hquote hslash hcontrol rest
  | escaped h => exact lexUnits_escape h rest
  | code h => exact lexUnits_code h rest

/-- **The units of a string are found from its characters**, up to the closing quote. -/
theorem lexUnits_of_stringText (h : StringText units text) (rest : List Char) :
    lexUnits (text ++ rest) = (units, .closed rest) := by
  induction h with
  | quote => exact lexUnits_quote rest
  | unit hunit hmore ih => rw [List.append_assoc, lexUnits_of_unitText hunit, ih]

/-- What stands behind a string makes no difference to its meaning. -/
theorem joinUnits_closed (rest : List Char) (units : List StringUnit) :
    joinUnits (.closed rest) units = joinUnits (.closed []) units := by
  -- the end is only looked at for its fault, and a closed string has none
  fun_induction joinUnits (.closed []) units <;>
    simp_all [joinUnits, StringEnd.fault?, StringEnd.halfPairFault]

/-- **A string is read as what its units mean**, behind its opening quote and whatever follows
    it. -/
theorem scanText_of_stringText (h : StringText units text) (rest : List Char) :
    ∃ shorter, scanText (text ++ rest) = .ok (meaning units, ⟨rest, shorter⟩) := by
  have hunits := lexUnits_of_stringText h rest
  have hstop : (lexUnits (text ++ rest)).2 = .closed rest := by rw [hunits]
  have hjoin : joinUnits (.closed rest) (lexUnits (text ++ rest)).1 =
      joinUnits (.closed []) units := by rw [hunits, joinUnits_closed]
  refine ⟨length_of_lexUnits hstop, ?_⟩
  unfold scanText
  split
  · next behind hclosed =>
    obtain rfl := StringEnd.closed.inj (hclosed.symm.trans hstop)
    rw [hjoin, meaning]
  · next hopen => exact absurd hstop (hopen rest)

/-! ## Texts that are written out -/

/-- **The unit that a character is written as.** -/
def unitOf (c : Char) : StringUnit :=
  if c ∈ ['"', '\\', '\x08', '\x0c', '\n', '\r', '\t'] then .escaped c
  else if c.toNat < 0x20 then .code c.toNat
  else .plain c

theorem hexCode?_control {n : Nat} (h : n < 0x20) :
    hexCode? '0' '0' (Nat.digitChar (n / 16)) (Nat.digitChar (n % 16)) = some n := by
  have hhigh := (hexDigit?_digitChar (show n / 16 < 16 by omega)).1
  have hlow := (hexDigit?_digitChar (show n % 16 < 16 by omega)).1
  have hzero : Text.hexDigit? '0' = some 0 := by decide
  have hvalue : n / 16 * 16 + n % 16 = n := by omega
  simp [hexCode?, hhigh, hlow, hzero, hvalue]

/-- **A character is written as its unit.** -/
theorem unitText_encodeChar (c : Char) : UnitText (unitOf c) (encodeChar c) := by
  unfold encodeChar
  -- the characters with an escape of their own, then the other control characters
  split
  · exact .escaped rfl
  · exact .escaped rfl
  · exact .escaped rfl
  · exact .escaped rfl
  · exact .escaped rfl
  · exact .escaped rfl
  · exact .escaped rfl
  · next hquote hslash hback hfeed hline hreturn htab =>
    have hmem : c ∉ ['"', '\\', '\x08', '\x0c', '\n', '\r', '\t'] := by
      simp only [List.mem_cons, List.not_mem_nil, or_false, not_or]
      exact ⟨hquote, hslash, hback, hfeed, hline, hreturn, htab⟩
    by_cases hcontrol : c.toNat < 0x20
    · rw [if_pos hcontrol, unitOf, if_neg hmem, if_pos hcontrol]
      exact .code (hexCode?_control hcontrol)
    · rw [if_neg hcontrol, unitOf, if_neg hmem, if_neg hcontrol]
      exact .plain hquote hslash hcontrol

/-- **A text is written as the units of its characters.** -/
theorem stringText_encode (s : List Char) :
    StringText (s.map unitOf) (s.flatMap encodeChar ++ ['"']) := by
  induction s with
  | nil => exact .quote
  | cons c s ih =>
    rw [List.flatMap_cons, List.append_assoc]
    exact .unit (unitText_encodeChar c) ih

/-- A code unit that is no surrogate makes up a character by itself. -/
theorem joinUnits_code {unit : Nat} (h : unit < 0xd800) (stop : StringEnd)
    (units : List StringUnit) :
    joinUnits stop (.code unit :: units) = (joinUnits stop units).map (Char.ofNat unit :: ·) := by
  have htrail : ¬isTrailing unit = true := by
    simp only [isTrailing, Bool.and_eq_true, decide_eq_true_eq]
    omega
  have hlead : ¬isLeading unit = true := by
    simp only [isLeading, Bool.and_eq_true, decide_eq_true_eq]
    omega
  -- what stands behind it makes no difference to a code unit that needs no second half
  by_cases hcode : ∃ second more, units = .code second :: more
  · obtain ⟨second, more, rfl⟩ := hcode
    rw [joinUnits.eq_4, if_neg htrail, if_neg hlead]
  · rw [joinUnits.eq_5 _ _ _ fun second more heq => hcode ⟨second, more, heq⟩, if_neg htrail,
      if_neg hlead]

/-- **The unit of a character makes up that character**, whatever units follow. -/
theorem joinUnits_unitOf (c : Char) (stop : StringEnd) (units : List StringUnit) :
    joinUnits stop (unitOf c :: units) = (joinUnits stop units).map (c :: ·) := by
  unfold unitOf
  split
  · rw [joinUnits]
  · split
    · next hcontrol =>
      rw [joinUnits_code (by omega), Char.ofNat_toNat]
    · rw [joinUnits]

/-- **The units of a text mean that text.** -/
theorem meaning_map_unitOf (s : String) : meaning (s.toList.map unitOf) = .ok s := by
  have hjoin : ∀ t : List Char, joinUnits (.closed []) (t.map unitOf) = .ok t := by
    intro t
    induction t with
    | nil => rfl
    | cons c t ih =>
      rw [List.map_cons, joinUnits_unitOf, ih]
      rfl
  rw [meaning, hjoin, Except.map, String.ofList_toList]

/-- **A text that is written out is read back** behind its opening quote, whatever follows it. -/
theorem scanText_encode (s : String) (rest : List Char) :
    ∃ shorter, scanText (s.toList.flatMap encodeChar ++ ['"'] ++ rest) =
      .ok (.ok s, ⟨rest, shorter⟩) := by
  have hread := scanText_of_stringText (stringText_encode s.toList) rest
  rw [meaning_map_unitOf] at hread
  exact hread

end QueryPaths.Json
