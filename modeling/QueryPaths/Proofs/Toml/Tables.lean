import QueryPaths.Proofs.Toml.Tokens
import QueryPaths.Toml.Document

/-! # Written tables are read back

    A document of settings is written line by line: the header of each table, and below it the keys
    of the table with strings and truth values. Each line is found again from its tokens, and the
    tables are put together from the lines, in the order in which they are written.

    * **`Scalar`**, **`SettingLine`**, **`SettingTable`**: what is written, and how.
    * **`SettingLine.lexTokens_chars`**, **`SettingLine.gather_tokens`**,
      **`SettingLine.ofPieces?_pieces`**: one line, from its characters to what it holds.
    * **`readDocument_documentText`**: a whole document.
-/

namespace QueryPaths.Toml

variable {c : Char} {rest : List Char}

/-! ## What is written -/

/-- A value of a setting. -/
inductive Scalar where
  | text (content : String)
  | flag (on : Bool)
  deriving DecidableEq, Repr

namespace Scalar

/-- The value that is meant. -/
def value : Scalar → Value
  | text content => .string content
  | flag on => .boolean on

/-- How it is written. -/
def chars : Scalar → List Char
  | text content => '"' :: (content.toList.flatMap escapeChar ++ ['"'])
  | flag true => ['t', 'r', 'u', 'e']
  | flag false => ['f', 'a', 'l', 's', 'e']

/-- The token that it is written as. -/
def token : Scalar → Token
  | text content => .text content false
  | flag true => .word ['t', 'r', 'u', 'e']
  | flag false => .word ['f', 'a', 'l', 's', 'e']

end Scalar

/-- **A key that needs no quotes**: letters, digits, underscores and hyphens of ASCII. -/
def IsBareKey (key : String) : Prop :=
  key ≠ "" ∧ ∀ c ∈ key.toList, (c.isAlphanum || c == '_' || c == '-') = true

/-- A line of a document of settings. -/
inductive SettingLine where
  /-- The header of a table. -/
  | header (name : String)
  /-- A key and its value. -/
  | entry (key : String) (value : Scalar)

namespace SettingLine

/-- The key on the line. -/
def key : SettingLine → String
  | header name => name
  | entry key _ => key

/-- The line as it is written. -/
def chars : SettingLine → List Char
  | header name => '[' :: (name.toList ++ [']'])
  | entry key value => key.toList ++ ' ' :: '=' :: ' ' :: value.chars

/-- The tokens of the line. -/
def tokens : SettingLine → List Token
  | header name => [.opening .square, .word name.toList, .closing .square]
  | entry key value => [.word key.toList, .blank [' '], .equals, .blank [' '], value.token]

/-- The pieces that the line is gathered into. -/
def pieces : SettingLine → List Piece
  | header name => [.group .square [.token (.word name.toList)]]
  | entry key value =>
    [.word key.toList, .blank [' '], .equals, .blank [' '], value.token].map .token

/-- What it holds. -/
def line : SettingLine → Line
  | header name => .header false [name]
  | entry key value => .entry [key] value.value

end SettingLine

/-- A table with its name and its entries. -/
abbrev SettingTable := String × List (String × Scalar)

namespace SettingTable

/-- The lines of a table. -/
def lines (t : SettingTable) : List SettingLine := .header t.1 :: t.2.map fun e => .entry e.1 e.2

/-- The entries of a table. -/
def entries (t : SettingTable) : Entries := t.2.map fun e => (e.1, e.2.value)

/-- **Can a table be written line by line?** Its keys need no quotes and are distinct. -/
structure Plain (t : SettingTable) : Prop where
  /-- Its name needs no quotes. -/
  name : IsBareKey t.1
  /-- Its keys need no quotes. -/
  keys : ∀ e ∈ t.2, IsBareKey e.1
  /-- No key stands in it twice. -/
  nodup : (t.2.map Prod.fst).Nodup

end SettingTable

/-- **The text of some tables**, one line after the other. -/
def documentText (tables : List SettingTable) : String :=
  String.ofList ((tables.flatMap SettingTable.lines).flatMap fun l => l.chars ++ ['\n'])

/-- The entries of a document of these tables. -/
def documentEntries (tables : List SettingTable) : Entries :=
  tables.map fun t => (t.1, .table .header t.entries)

/-! ## Tokens -/

theorem isWordChar_of_bare (h : (c.isAlphanum || c == '_' || c == '-') = true) :
    isWordChar c = true := by
  -- the characters with a meaning of their own are not among these
  have hne : ∀ d, (d.isAlphanum || d == '_' || d == '-') = false → c ≠ d := by
    rintro d hd rfl
    rw [hd] at h
    cases h
  have hblank : isBlank c = false := by
    simp [isBlank, hne ' ' (by decide), hne '\t' (by decide)]
  have hmark : mark? c = none := by
    unfold mark?
    split
    · exact absurd rfl (hne ',' (by decide))
    · exact absurd rfl (hne '.' (by decide))
    · exact absurd rfl (hne '=' (by decide))
    · exact absurd rfl (hne '[' (by decide))
    · exact absurd rfl (hne ']' (by decide))
    · exact absurd rfl (hne '\x7b' (by decide))
    · exact absurd rfl (hne '\x7d' (by decide))
    · rfl
  exact isWordChar_iff.2
    ⟨hblank, hne '\n' (by decide), hne '\r' (by decide), hne '#' (by decide), hmark⟩

/-- **A key without quotes is one token**, up to where the word ends. -/
theorem lexTokens_key {key : String} (h : IsBareKey key)
    (hrest : ∀ d ∈ rest.head?, isWordChar d = false) :
    lexTokens (key.toList ++ rest) = (lexTokens rest).map (.word key.toList :: ·) := by
  obtain ⟨hne, hall⟩ := h
  cases hkey : key.toList with
  | nil => exact absurd (String.toList_eq_nil_iff.1 hkey) hne
  | cons c w =>
    rw [hkey] at hall
    have hc := hall c List.mem_cons_self
    have hquote : c ≠ '"' ∧ c ≠ '\'' := by
      refine ⟨?_, ?_⟩
      · rintro rfl
        exact absurd hc (by decide)
      · rintro rfl
        exact absurd hc (by decide)
    exact lexTokens_word (isWordChar_of_bare hc) hquote
      (fun d hd => isWordChar_of_bare (hall d (List.mem_cons_of_mem _ hd))) hrest

theorem head?_lineBreak {p : Char → Prop} (h : p '\n') (rest : List Char) :
    ∀ d ∈ ('\n' :: rest).head?, p d := by
  intro d hd
  obtain rfl := Option.some.inj hd
  exact h

theorem Scalar.lexTokens_chars (value : Scalar) (rest : List Char) :
    lexTokens (value.chars ++ '\n' :: rest) =
      (lexTokens ('\n' :: rest)).map (value.token :: ·) := by
  have hends : ∀ d ∈ ('\n' :: rest).head?, isWordChar d = false := head?_lineBreak (by decide) rest
  match value with
  | .text content =>
    rw [Scalar.chars, List.cons_append, List.append_assoc]
    exact lexTokens_text content (head?_lineBreak (by decide) rest)
  | .flag true =>
    exact lexTokens_word (by decide) (by decide) (List.all_eq_true.1 (by decide)) hends
  | .flag false =>
    exact lexTokens_word (by decide) (by decide) (List.all_eq_true.1 (by decide)) hends

theorem Scalar.exists_cons_chars (value : Scalar) :
    ∃ c w, value.chars = c :: w ∧ isBlank c = false := by
  match value with
  | .text content => exact ⟨'"', _, rfl, by decide⟩
  | .flag true => exact ⟨'t', _, rfl, by decide⟩
  | .flag false => exact ⟨'f', _, rfl, by decide⟩

namespace SettingLine

/-- **The tokens of a line**, with the line break behind it. -/
theorem lexTokens_chars {l : SettingLine} (h : IsBareKey l.key) (rest : List Char) :
    lexTokens (l.chars ++ '\n' :: rest) =
      (lexTokens rest).map (l.tokens ++ .lineBreak :: ·) := by
  cases l with
  | header name =>
    have hopen := @lexTokens_mark '[' (.opening .square) rfl (name.toList ++ ']' :: '\n' :: rest)
    have hname : lexTokens (name.toList ++ ']' :: '\n' :: rest) =
        (lexTokens (']' :: '\n' :: rest)).map (.word name.toList :: ·) := by
      apply lexTokens_key h
      intro d hd
      obtain rfl := Option.some.inj hd
      decide
    have hclose := @lexTokens_mark ']' (.closing .square) rfl ('\n' :: rest)
    rw [chars, List.cons_append, List.append_assoc, List.singleton_append, hopen, hname, hclose,
      lexTokens_lineBreak]
    simp only [Option.map_map]
    rfl
  | entry key value =>
    -- from left to right: key, blank, equals sign, blank, value
    obtain ⟨c, w, hvalue, hblank⟩ := value.exists_cons_chars
    have hkey : lexTokens (key.toList ++ ' ' :: '=' :: ' ' :: (value.chars ++ '\n' :: rest)) =
        (lexTokens (' ' :: '=' :: ' ' :: (value.chars ++ '\n' :: rest))).map
          (.word key.toList :: ·) := by
      apply lexTokens_key h
      intro d hd
      obtain rfl := Option.some.inj hd
      decide
    have hbefore : lexTokens (' ' :: '=' :: ' ' :: (value.chars ++ '\n' :: rest)) =
        (lexTokens ('=' :: ' ' :: (value.chars ++ '\n' :: rest))).map (.blank [' '] :: ·) := by
      apply lexTokens_space
      intro d hd
      obtain rfl := Option.some.inj hd
      decide
    have hequals := @lexTokens_mark '=' .equals rfl (' ' :: (value.chars ++ '\n' :: rest))
    have hbehind : lexTokens (' ' :: (value.chars ++ '\n' :: rest)) =
        (lexTokens (value.chars ++ '\n' :: rest)).map (.blank [' '] :: ·) := by
      apply lexTokens_space
      intro d hd
      rw [hvalue] at hd
      obtain rfl := Option.some.inj hd
      exact hblank
    rw [chars, List.append_assoc, List.cons_append, List.cons_append, List.cons_append, hkey,
      hbefore, hequals, hbehind, Scalar.lexTokens_chars, lexTokens_lineBreak]
    simp only [Option.map_map]
    rfl

end SettingLine

/-- **The tokens of lines**, each with its line break. -/
theorem lexTokens_lines {ls : List SettingLine} (h : ∀ l ∈ ls, IsBareKey l.key) :
    lexTokens (ls.flatMap fun l => l.chars ++ ['\n']) =
      some (ls.flatMap fun l => l.tokens ++ [.lineBreak]) := by
  induction ls with
  | nil => rw [List.flatMap_nil, lexTokens, List.flatMap_nil]
  | cons l ls ih =>
    rw [List.flatMap_cons, List.append_assoc, List.singleton_append,
      SettingLine.lexTokens_chars (h l List.mem_cons_self),
      ih fun m hm => h m (List.mem_cons_of_mem _ hm), List.flatMap_cons]
    simp

/-! ## Pieces -/

/-- A line is gathered as it is: the brackets of a header are a pair, and there are no others. -/
theorem SettingLine.gather_tokens (l : SettingLine) (latest : List Piece) (rest : List Token) :
    gather [] latest (l.tokens ++ .lineBreak :: rest) =
      gather [] (.token .lineBreak :: (l.pieces.reverse ++ latest)) rest := by
  match l with
  | .header name => rfl
  | .entry key (.text content) => rfl
  | .entry key (.flag true) => rfl
  | .entry key (.flag false) => rfl

/-- **The pieces of lines** follow each other. -/
theorem gather_lines (ls : List SettingLine) (latest : List Piece) :
    gather [] latest (ls.flatMap fun l => l.tokens ++ [.lineBreak]) =
      some (latest.reverse ++ ls.flatMap fun l => l.pieces ++ [.token .lineBreak]) := by
  induction ls generalizing latest with
  | nil => simp [gather]
  | cons l ls ih =>
    rw [List.flatMap_cons, List.append_assoc, List.singleton_append, l.gather_tokens, ih,
      List.flatMap_cons]
    simp

theorem SettingLine.isLineBreak_of_mem_pieces {l : SettingLine} :
    ∀ p ∈ l.pieces, p.isLineBreak = false := by
  match l with
  | .header name => simp [pieces, Piece.isLineBreak]
  | .entry key (.text content) => simp [pieces, Scalar.token, Piece.isLineBreak]
  | .entry key (.flag true) => simp [pieces, Scalar.token, Piece.isLineBreak]
  | .entry key (.flag false) => simp [pieces, Scalar.token, Piece.isLineBreak]

/-- **Lines are told apart by their line breaks**, and nothing follows the last one. -/
theorem splitOnP_lines (ls : List SettingLine) :
    (ls.flatMap fun l => l.pieces ++ [.token .lineBreak]).splitOnP Piece.isLineBreak =
      ls.map SettingLine.pieces ++ [[]] := by
  induction ls with
  | nil => rfl
  | cons l ls ih =>
    rw [List.flatMap_cons, List.append_assoc, List.singleton_append,
      List.splitOnP_append_cons_of_forall_mem SettingLine.isLineBreak_of_mem_pieces _ rfl, ih]
    rfl

/-! ## Lines -/

theorem key?_word {key : String} (h : IsBareKey key) :
    key? [.token (.word key.toList)] = some key := by
  have hall : (key.toList.all fun c => c.isAlphanum || c == '_' || c == '-') = true :=
    List.all_eq_true.2 h.2
  show (if _ then some (String.ofList key.toList) else none) = _
  rw [if_pos hall, String.ofList_toList]

theorem keyPath?_word {key : String} (h : IsBareKey key) :
    keyPath? [.token (.word key.toList)] = some [key] := by
  have hsplit : [Part.token (.word key.toList)].splitOnP (Part.isToken .dot) =
      [[.token (.word key.toList)]] := rfl
  rw [keyPath?, hsplit, List.mapM_cons, key?_word h]
  rfl

theorem Scalar.valueOf?_token (value : Scalar) :
    valueOf? [.token (.blank [' ']), .token value.token] = some value.value := by
  match value with
  | .text content => rfl
  | .flag true => rfl
  | .flag false => rfl

theorem keyValue?_entry {key : String} (h : IsBareKey key) (value : Scalar) :
    keyValue? ((SettingLine.entry key value).tokens.map .token) = some ([key], value.value) := by
  have hpath : keyPath? (trim Part.isGap (((SettingLine.entry key value).tokens.map
      Part.token).takeWhile (!Part.isToken .equals ·))) = some [key] := keyPath?_word h
  have hbehind : ((SettingLine.entry key value).tokens.map
      Part.token).dropWhile (!Part.isToken .equals ·) =
        [.token .equals, .token (.blank [' ']), .token value.token] := rfl
  rw [keyValue?, hpath, hbehind]
  show (valueOf? [.token (.blank [' ']), .token value.token]).bind _ = _
  rw [value.valueOf?_token]
  rfl

/-- **What a line holds** is found again. -/
theorem SettingLine.ofPieces?_pieces {l : SettingLine} (h : IsBareKey l.key) :
    Line.ofPieces? l.pieces = some l.line := by
  cases l with
  | header name =>
    have hname : IsBareKey name := h
    show (keyPath? [.token (.word name.toList)]).map (Line.header false) = _
    rw [keyPath?_word hname]
    rfl
  | entry key value =>
    -- the pieces are those of an entry, whatever the value is
    have hparts : Line.ofPieces? (SettingLine.entry key value).pieces =
        (keyValue? ((SettingLine.entry key value).tokens.map .token)).bind fun given =>
          some (.entry given.1 given.2) := by
      match value with
      | .text content => rfl
      | .flag true => rfl
      | .flag false => rfl
    have hkey : IsBareKey key := h
    rw [hparts, keyValue?_entry hkey]
    rfl

theorem mapM_ofPieces? {ls : List SettingLine} (h : ∀ l ∈ ls, IsBareKey l.key) :
    (ls.map SettingLine.pieces ++ [[]]).mapM Line.ofPieces? =
      some (ls.map SettingLine.line ++ [.empty]) := by
  induction ls with
  | nil => rfl
  | cons l ls ih =>
    rw [List.map_cons, List.cons_append, List.mapM_cons,
      SettingLine.ofPieces?_pieces (h l List.mem_cons_self),
      ih fun m hm => h m (List.mem_cons_of_mem _ hm)]
    rfl

/-! ## Tables -/

/-- The section that a table is written as. -/
def SettingTable.section (t : SettingTable) : Section :=
  ⟨false, [t.1], t.2.map fun e => ([e.1], e.2.value)⟩

/-- Entries belong to the header above them. -/
theorem sections_entries (given : List (String × Scalar)) (rest : List Line) :
    sections ((given.map fun e => SettingLine.line (.entry e.1 e.2)) ++ rest) =
      ((given.map fun e => ([e.1], e.2.value)) ++ (sections rest).1, (sections rest).2) := by
  induction given with
  | nil => rfl
  | cons e given ih =>
    rw [List.map_cons, List.cons_append, SettingLine.line, sections, ih]
    rfl

/-- **The lines of tables** make up one section for each. -/
theorem sections_tables (tables : List SettingTable) :
    sections ((tables.flatMap SettingTable.lines).map SettingLine.line ++ [.empty]) =
      ([], tables.map SettingTable.section) := by
  induction tables with
  | nil => rfl
  | cons t tables ih =>
    rw [List.flatMap_cons, List.map_append, List.append_assoc, SettingTable.lines, List.map_cons,
      List.map_map, List.cons_append, SettingLine.line, sections]
    show ([], Section.mk false [t.1]
      (sections ((t.2.map fun e => SettingLine.line (.entry e.1 e.2)) ++ _)).1 ::
        (sections ((t.2.map fun e => SettingLine.line (.entry e.1 e.2)) ++ _)).2) = _
    rw [sections_entries, ih, List.append_nil]
    rfl

theorem lookup_eq_none {entries : Entries} {key : String} (h : key ∉ entries.map Prod.fst) :
    entries.lookup key = none := by
  rw [List.lookup_eq_none_iff]
  intro e he
  simp only [bne_iff_ne, ne_eq]
  rintro rfl
  exact h (List.mem_map_of_mem he)

/-- Distinct keys that are all new stay new when the first of them is added. -/
theorem fresh_behind {β : Type} {entries : Entries} {e : String × β} {given : List (String × β)}
    {value : Value} (hnew : e.1 ∉ given.map Prod.fst)
    (hfresh : ∀ d ∈ e :: given, d.1 ∉ entries.map Prod.fst) :
    ∀ d ∈ given, d.1 ∉ (entries ++ [(e.1, value)]).map Prod.fst := by
  intro d hd hmem
  rw [List.map_append, List.mem_append] at hmem
  rcases hmem with hmem | hmem
  · exact hfresh d (List.mem_cons_of_mem _ hd) hmem
  · have heq : d.1 = e.1 := List.mem_singleton.1 hmem
    exact hnew (heq ▸ List.mem_map_of_mem hd)

/-- Entries with distinct keys are added one after the other. -/
theorem assignAll_of_nodup {given : List (String × Scalar)} {entries : Entries}
    (hnodup : (given.map Prod.fst).Nodup)
    (hfresh : ∀ e ∈ given, e.1 ∉ entries.map Prod.fst) :
    entries.assignAll (given.map fun e => ([e.1], e.2.value)) =
      some (entries ++ given.map fun e => (e.1, e.2.value)) := by
  induction given generalizing entries with
  | nil => simp [Entries.assignAll]
  | cons e given ih =>
    obtain ⟨hnew, hothers⟩ := List.nodup_cons.1 hnodup
    have hadd : Entries.assign [e.1] e.2.value entries = some (entries ++ [(e.1, e.2.value)]) := by
      rw [Entries.assign, Entries.add?, lookup_eq_none (hfresh e List.mem_cons_self)]
    rw [List.map_cons, Entries.assignAll, hadd]
    show Entries.assignAll (entries ++ [(e.1, e.2.value)]) _ = _
    rw [ih hothers (fresh_behind hnew hfresh), List.append_assoc]
    rfl

theorem put_of_fresh {entries : Entries} {key : String} (h : key ∉ entries.map Prod.fst)
    (value : Value) : entries.put key value = entries ++ [(key, value)] := by
  induction entries with
  | nil => rfl
  | cons e entries ih =>
    obtain ⟨k, v⟩ := e
    rw [List.map_cons, List.mem_cons, not_or] at h
    rw [Entries.put, if_neg fun heq => h.1 heq.symm, ih h.2]
    rfl

/-- **A table under a new name is added** with its entries. -/
theorem addSection_of_fresh {t : SettingTable} (ht : t.Plain) {entries : Entries}
    (hfresh : t.1 ∉ entries.map Prod.fst) :
    addSection entries t.section = some (entries ++ [(t.1, .table .header t.entries)]) := by
  have hinner : Entries.assignAll [] (t.2.map fun e => ([e.1], e.2.value)) = some t.entries :=
    assignAll_of_nodup ht.nodup fun e _ hmem => List.not_mem_nil hmem
  show Entries.openTable t.1 (t.2.map fun e => ([e.1], e.2.value)) entries = _
  rw [Entries.openTable, lookup_eq_none hfresh]
  dsimp only
  rw [hinner, Option.map_some, put_of_fresh hfresh]

/-- **Tables with distinct names are put together** in their order. -/
theorem foldlM_addSection {tables : List SettingTable} (h : ∀ t ∈ tables, t.Plain)
    {entries : Entries} (hnodup : (tables.map Prod.fst).Nodup)
    (hfresh : ∀ t ∈ tables, t.1 ∉ entries.map Prod.fst) :
    (tables.map SettingTable.section).foldlM addSection entries =
      some (entries ++ documentEntries tables) := by
  induction tables generalizing entries with
  | nil => simp [documentEntries]
  | cons t tables ih =>
    obtain ⟨hnew, hothers⟩ := List.nodup_cons.1 hnodup
    rw [List.map_cons, List.foldlM_cons,
      addSection_of_fresh (h t List.mem_cons_self) (hfresh t List.mem_cons_self)]
    show List.foldlM addSection (entries ++ [(t.1, .table .header t.entries)]) _ = _
    rw [ih (fun u hu => h u (List.mem_cons_of_mem _ hu)) hothers (fresh_behind hnew hfresh),
      List.append_assoc]
    rfl

/-! ## Documents -/

/-- **A document of tables is read back**: each table under its name, with its entries in the order
    in which they are written. -/
theorem readDocument_documentText {tables : List SettingTable} (h : ∀ t ∈ tables, t.Plain)
    (hnodup : (tables.map Prod.fst).Nodup) :
    readDocument (documentText tables) = some (documentEntries tables) := by
  have hkeys : ∀ l ∈ tables.flatMap SettingTable.lines, IsBareKey l.key := by
    intro l hl
    obtain ⟨t, ht, hl⟩ := List.mem_flatMap.1 hl
    rcases List.mem_cons.1 hl with rfl | hl
    · exact (h t ht).name
    · obtain ⟨e, he, rfl⟩ := List.mem_map.1 hl
      exact (h t ht).keys e he
  have htokens : tokens (documentText tables) =
      some ((tables.flatMap SettingTable.lines).flatMap fun l => l.tokens ++ [.lineBreak]) := by
    have hlex := lexTokens_lines hkeys
    rw [tokens, documentText, String.toList_ofList]
    cases tables with
    | nil => rfl
    | cons t tables =>
      -- the document begins with a bracket, not with a mark of its encoding
      show lexTokens (if '[' = byteOrderMark then _ else _) = _
      rw [if_neg (by decide)]
      exact hlex
  have hpieces : pieces (documentText tables) =
      some ((tables.flatMap SettingTable.lines).flatMap fun l =>
        l.pieces ++ [.token .lineBreak]) := by
    rw [pieces, htokens]
    exact gather_lines _ []
  have hlines := mapM_ofPieces? hkeys
  rw [← splitOnP_lines] at hlines
  rw [readDocument, hpieces]
  show (List.mapM Line.ofPieces? (List.splitOnP Piece.isLineBreak _)).bind _ = _
  rw [hlines]
  show Option.bind (Entries.assignAll [] (sections _).1)
    (fun entries => (sections _).2.foldlM addSection entries) = _
  rw [sections_tables]
  exact foldlM_addSection h hnodup fun t _ hmem => List.not_mem_nil hmem

end QueryPaths.Toml
