import QueryPaths.Proofs.Source.Tokens
import QueryPaths.Source.Item

/-! # Reading items back

    Tokens are grouped into statements: an attribute, a constant, the opening or
    the closing of a module, or an inclusion. Openings and closings then nest the
    items again. Attributes are passed over.

    * **`Statement`** with `statement?`: the statement at the front of some tokens.
    * **`assemble`**: the items that some statements make up.
    * **`read?`**: the items of a text.
    * **`read?_sourceText`**: the text of sound items is read back as these items.
-/

namespace QueryPaths.Source

/-! ## Statements -/

/-- **A statement**: an item, or one end of a module. -/
inductive Statement where
  /-- An attribute, with the tokens between its brackets. -/
  | note (inner : List Token)
  /-- A public string constant. -/
  | constant (name : Ident) (value : String)
  /-- A public module opens. -/
  | opening (name : Ident)
  /-- The innermost module closes. -/
  | closing
  /-- The items of another file. -/
  | inclusion (path : String)
  deriving DecidableEq, Repr

/-- **The tokens of a statement.** -/
def Statement.tokens : Statement → List Token
  | note inner => .mark '#' :: .mark '[' :: (inner ++ [.mark ']'])
  | constant name value =>
    [word "pub", word "const", .ident name, .mark ':', .mark '&', word "str", .mark '=',
      .text value, .mark ';']
  | opening name => [word "pub", word "mod", .ident name, .mark '\x7b']
  | closing => [.mark '\x7d']
  | inclusion path =>
    [word "include", .mark '!', .mark '(', .text path, .mark ')', .mark ';']

/-- Is the identifier a name, and no keyword? -/
def Ident.isName (i : Ident) : Bool := i.raw || !keywords.contains i.name

/-- **Can the statement be told from its tokens?** What it names is no keyword, and an
    attribute ends at its first closing bracket. -/
def Statement.isSound : Statement → Bool
  | note inner => !inner.contains (.mark ']')
  | constant name _ => name.isName
  | opening name => name.isName
  | closing => true
  | inclusion _ => true

/-- The only statement that may stand at the front, by the tokens that tell the kinds
    apart. -/
def candidate? : List Token → Option Statement
  | .mark '#' :: .mark '[' :: rest => some (.note (rest.takeWhile (· ≠ .mark ']')))
  | .mark '\x7d' :: _ => some .closing
  | _ :: _ :: .ident name :: .mark '\x7b' :: _ => some (.opening name)
  | _ :: _ :: .ident name :: _ :: _ :: _ :: _ :: .text value :: _ => some (.constant name value)
  | _ :: _ :: _ :: .text path :: _ => some (.inclusion path)
  | _ => none

/-- **The statement at the front**, if all its tokens stand there, and the tokens
    behind it. -/
def statement? (ts : List Token) : Option (Statement × List Token) :=
  (candidate? ts).bind fun st =>
    if st.isSound ∧ st.tokens <+: ts then some (st, ts.drop st.tokens.length) else none

theorem Statement.length_tokens_pos (st : Statement) : 0 < st.tokens.length := by
  cases st <;> simp [Statement.tokens]

/-- **The reader of statements.** -/
def statements : Reader Token Statement where
  next := statement?
  shorter := by
    intro ts st rest h
    obtain ⟨st', -, h⟩ := Option.bind_eq_some_iff.1 h
    split at h
    · next hcond =>
      obtain ⟨rfl, rfl⟩ := Prod.mk.inj (Option.some.inj h)
      have hpos := st'.length_tokens_pos
      have hle := hcond.2.length_le
      rw [List.length_drop]
      omega
    · cases h

/-- A sound statement is the candidate where its tokens stand. -/
theorem candidate?_tokens {st : Statement} (h : st.isSound = true) (rest : List Token) :
    candidate? (st.tokens ++ rest) = some st := by
  cases st with
  | note inner =>
    have hinner : ∀ t ∈ inner, (t ≠ .mark ']') := by
      rintro t ht rfl
      simp [Statement.isSound, ht] at h
    -- the tokens inside end at the first closing bracket
    have htake : (inner ++ ([Token.mark ']'] ++ rest)).takeWhile (· ≠ Token.mark ']') = inner := by
      rw [List.takeWhile_append_of_pos fun t ht => by simpa using hinner t ht]
      simp
    show some (Statement.note (((inner ++ [Token.mark ']']) ++ rest).takeWhile _)) = _
    rw [List.append_assoc, htake]
  | constant name value => rfl
  | opening name => rfl
  | closing => rfl
  | inclusion path => rfl

/-- **A sound statement is read back** from its tokens. -/
theorem statement?_tokens {st : Statement} (h : st.isSound = true) (rest : List Token) :
    statement? (st.tokens ++ rest) = some (st, rest) := by
  rw [statement?, candidate?_tokens h rest, Option.bind_some,
    if_pos ⟨h, List.prefix_append _ _⟩, List.drop_left]

/-- **Sound statements are read back** one after the other. -/
theorem all_statements {ss : List Statement} (h : ∀ st ∈ ss, st.isSound = true) :
    statements.all (ss.flatMap Statement.tokens) = some ss := by
  induction ss with
  | nil => exact Reader.all_nil statements
  | cons st rest ih =>
    have hnext : statements.next (st.tokens ++ rest.flatMap Statement.tokens) =
        some (st, rest.flatMap Statement.tokens) :=
      statement?_tokens (h st List.mem_cons_self) _
    rw [List.flatMap_cons, Reader.all_of_next hnext,
      ih fun st hst => h st (List.mem_cons_of_mem _ hst)]
    rfl

/-! ## Items -/

/-- **The items that statements make up.** `opened` are the modules that are open,
    innermost first, each with the items in front of it; `items` are those of the
    innermost one so far. -/
def assemble : List (Ident × List Item) → List Item → List Statement → Option (List Item)
  | [], items, [] => some items
  | _ :: _, _, [] => none
  | opened, items, .note _ :: rest => assemble opened items rest
  | opened, items, .constant name value :: rest =>
    assemble opened (items ++ [.constant name value]) rest
  | opened, items, .opening name :: rest => assemble ((name, items) :: opened) [] rest
  | [], _, .closing :: _ => none
  | (name, before) :: opened, items, .closing :: rest =>
    assemble opened (before ++ [.module [] name items]) rest
  | opened, items, .inclusion path :: rest => assemble opened (items ++ [.inclusion path]) rest

/-- **The items of a text**, without their attributes. -/
def read? (text : String) : Option (List Item) :=
  (tokens text.toList).bind fun ts => (statements.all ts).bind (assemble [] [])

/-- The statement of an attribute. -/
def Attribute.statement : Attribute → Statement
  | doc text => .note [word "doc", .mark '=', .text text]
  | allow lint => .note [word "allow", .mark '(', word lint, .mark ')']

mutual

/-- **The statements of an item.** -/
def Item.statements : Item → List Statement
  | .constant ident value => [.constant ident value]
  | .module attributes ident items =>
    attributes.map Attribute.statement ++ .opening ident :: (Item.bodyStatements items ++ [.closing])
  | .inclusion path => [.inclusion path]

/-- The statements of the items of a module. -/
def Item.bodyStatements : List Item → List Statement
  | [] => []
  | item :: rest => item.statements ++ Item.bodyStatements rest

end

mutual

/-- **An item without attributes**, its own and those inside it. -/
def Item.bare : Item → Item
  | .constant ident value => .constant ident value
  | .module _ ident items => .module [] ident (Item.bareItems items)
  | .inclusion path => .inclusion path

/-- The items of a module without attributes. -/
def Item.bareItems : List Item → List Item
  | [] => []
  | item :: rest => item.bare :: Item.bareItems rest

end

theorem Item.bodyStatements_eq_flatMap (items : List Item) :
    Item.bodyStatements items = items.flatMap Item.statements := by
  induction items with
  | nil => rfl
  | cons item rest ih => rw [Item.bodyStatements, ih, List.flatMap_cons]

theorem Item.bareItems_eq_map (items : List Item) : Item.bareItems items = items.map Item.bare := by
  induction items with
  | nil => rfl
  | cons item rest ih => rw [Item.bareItems, ih, List.map_cons]

/-- A lint is a word. -/
def Attribute.IsSound : Attribute → Prop
  | doc _ => True
  | allow lint => IsWord lint.toList

/-- **An item whose text can be read back**: all its names are names. -/
inductive Item.IsSound : Item → Prop where
  /-- A constant with a name. -/
  | constant {ident : Ident} {value : String} (token : ident.IsToken)
      (name : ident.isName = true) : IsSound (.constant ident value)
  /-- A module with a name, and sound items inside. -/
  | module {attributes : List Attribute} {ident : Ident} {items : List Item}
      (noted : ∀ a ∈ attributes, a.IsSound) (token : ident.IsToken) (name : ident.isName = true)
      (inside : ∀ item ∈ items, IsSound item) : IsSound (.module attributes ident items)
  /-- Any inclusion. -/
  | inclusion {path : String} : IsSound (.inclusion path)

/-! ## From text to statements -/

variable {s : List Char} {ts : List Token}

theorem setsOff_space (s : List Char) : SetsOff (' ' :: s) :=
  setsOff_cons (by decide) (by decide) s

theorem Lexes.word_space (name : String) (hname : IsWord name.toList) (h : Lexes s ts) :
    Lexes (name.toList ++ ' ' :: s) (Source.word name :: ts) :=
  Lexes.word name hname (setsOff_space s) h.space

theorem Lexes.attribute {a : Attribute} (ha : a.IsSound) (h : Lexes s ts) :
    Lexes (a.chars ++ s) (a.statement.tokens ++ ts) := by
  -- every attribute ends in a bracket and a space
  have hend : Lexes ("] ".toList ++ s) (.mark ']' :: ts) := Lexes.mark (by decide) h.space
  cases a with
  | doc text =>
    have hvalue := hend.literal text
    have hdoc : Lexes ("doc = ".toList ++ (Source.literal text ++ ("] ".toList ++ s)))
        (Source.word "doc" :: .mark '=' :: .text text :: .mark ']' :: ts) :=
      Lexes.word_space "doc" (by decide) (Lexes.mark (by decide) hvalue.space)
    have hopen := Lexes.mark (c := '#') (by decide) (hdoc.mark (c := '[') (by decide)).space
    simp only [Attribute.chars_doc, List.append_assoc]
    exact hopen
  | allow lint =>
    have hclose : Lexes (")] ".toList ++ s) (.mark ')' :: .mark ']' :: ts) :=
      Lexes.mark (by decide) hend
    have hlint := hclose.word lint ha (setsOff_cons (by decide) (by decide) _)
    have hallow : Lexes ("allow (".toList ++ (lint.toList ++ (")] ".toList ++ s)))
        (Source.word "allow" :: .mark '(' :: Source.word lint :: .mark ')' :: .mark ']' :: ts) :=
      Lexes.word_space "allow" (by decide) (Lexes.mark (by decide) hlint)
    have hopen := Lexes.mark (c := '#') (by decide) (hallow.mark (c := '[') (by decide)).space
    simp only [Attribute.chars_allow, List.append_assoc]
    exact hopen

theorem Lexes.attributes {attributes : List Attribute} (ha : ∀ a ∈ attributes, a.IsSound)
    (h : Lexes s ts) :
    Lexes (attributes.flatMap Attribute.chars ++ s)
      ((attributes.map Attribute.statement).flatMap Statement.tokens ++ ts) := by
  induction attributes with
  | nil => exact h
  | cons a rest ih =>
    have hrest := ih fun a' ha' => ha a' (List.mem_cons_of_mem _ ha')
    rw [List.flatMap_cons, List.map_cons, List.flatMap_cons, List.append_assoc, List.append_assoc]
    exact Lexes.attribute (ha a List.mem_cons_self) hrest

theorem Lexes.constant {ident : Ident} (hi : ident.IsToken) (value : String) (h : Lexes s ts) :
    Lexes ((Item.constant ident value).chars ++ s)
      ((Statement.constant ident value).tokens ++ ts) := by
  -- the tokens are put in front one by one, the last one first
  have hend : Lexes (" ;".toList ++ s) (.mark ';' :: ts) :=
    Lexes.space (Lexes.mark (by decide) h)
  have hvalue := hend.literal value
  have hstr : Lexes ("str = ".toList ++ (Source.literal value ++ (" ;".toList ++ s)))
      (Source.word "str" :: .mark '=' :: .text value :: .mark ';' :: ts) :=
    Lexes.word_space "str" (by decide) (Lexes.mark (by decide) hvalue.space)
  have htype : Lexes (" : & str = ".toList ++ (Source.literal value ++ (" ;".toList ++ s)))
      (.mark ':' :: .mark '&' :: Source.word "str" :: .mark '=' :: .text value :: .mark ';' :: ts) :=
    Lexes.space (Lexes.mark (by decide) (Lexes.space (Lexes.mark (by decide) hstr.space)))
  have hname := htype.ident hi (setsOff_space _)
  have hconst := hname.word_space "const" (by decide)
  have hpub := hconst.word_space "pub" (by decide)
  simp only [Item.chars_constant, List.append_assoc]
  exact hpub

theorem Lexes.opening {ident : Ident} (hi : ident.IsToken) (h : Lexes s ts) :
    Lexes ("pub mod ".toList ++ (ident.chars ++ (" \x7b ".toList ++ s)))
      ((Statement.opening ident).tokens ++ ts) := by
  have hbrace : Lexes (" \x7b ".toList ++ s) (.mark '\x7b' :: ts) :=
    Lexes.space (Lexes.mark (by decide) h.space)
  have hname := hbrace.ident hi (setsOff_space _)
  have hmod := hname.word_space "mod" (by decide)
  exact hmod.word_space "pub" (by decide)

theorem Lexes.inclusion (path : String) (h : Lexes s ts) :
    Lexes ((Item.inclusion path).chars ++ s) ((Statement.inclusion path).tokens ++ ts) := by
  have hend : Lexes (") ;".toList ++ s) (.mark ')' :: .mark ';' :: ts) :=
    Lexes.mark (by decide) (Lexes.space (Lexes.mark (by decide) h))
  have hpath := hend.literal path
  have hopen : Lexes ("! (".toList ++ (Source.literal path ++ (") ;".toList ++ s)))
      (.mark '!' :: .mark '(' :: .text path :: .mark ')' :: .mark ';' :: ts) :=
    Lexes.mark (by decide) (Lexes.space (Lexes.mark (by decide) hpath))
  have hinclude := hopen.word_space "include" (by decide)
  simp only [Item.chars_inclusion, List.append_assoc]
  exact hinclude

/-- The text of a module, given that of what is inside. -/
theorem Lexes.module {attributes : List Attribute} {ident : Ident} {items : List Item}
    (ha : ∀ a ∈ attributes, a.IsSound) (hi : ident.IsToken)
    (hinside : ∀ {s ts}, Lexes s ts → Lexes (Item.bodyChars items ++ s)
      ((Item.bodyStatements items).flatMap Statement.tokens ++ ts))
    (h : Lexes s ts) :
    Lexes ((Item.module attributes ident items).chars ++ s)
      ((Item.module attributes ident items).statements.flatMap Statement.tokens ++ ts) := by
  -- from the closing brace to the attributes in front
  have hend : Lexes ("\x7d".toList ++ s) (Statement.closing.tokens ++ ts) :=
    Lexes.mark (by decide) h
  have hopen := (hinside hend).opening hi
  have hall := hopen.attributes ha
  simp only [Item.chars_module, Item.statements, List.flatMap_append, List.flatMap_cons,
    List.flatMap_nil, List.append_nil, List.append_assoc]
  exact hall

/-- The text of what is inside a module, given that of each item. -/
theorem Lexes.body {items : List Item}
    (hitems : ∀ item ∈ items, ∀ {s ts}, Lexes s ts →
      Lexes (item.chars ++ s) (item.statements.flatMap Statement.tokens ++ ts))
    (h : Lexes s ts) :
    Lexes (Item.bodyChars items ++ s)
      ((Item.bodyStatements items).flatMap Statement.tokens ++ ts) := by
  induction items with
  | nil => exact h
  | cons item rest ih =>
    have hrest := ih fun item' hmem => hitems item' (List.mem_cons_of_mem _ hmem)
    have hfirst := hitems item List.mem_cons_self hrest.space
    simp only [Item.bodyChars_cons, Item.bodyStatements, List.flatMap_append, List.append_assoc,
      List.cons_append]
    exact hfirst

/-- **The text of a sound item is cut into its statements.** -/
theorem Lexes.item {item : Item} (hitem : item.IsSound) :
    ∀ {s ts}, Lexes s ts →
      Lexes (item.chars ++ s) (item.statements.flatMap Statement.tokens ++ ts) := by
  induction hitem with
  | constant token _ =>
    intro s ts h
    simpa [Item.statements] using h.constant token _
  | module noted token _ _ ih => exact Lexes.module noted token (Lexes.body ih)
  | inclusion =>
    intro s ts h
    simpa [Item.statements] using h.inclusion _

/-- **A text of sound items**, with spaces between them, **is cut into their statements.** -/
theorem Lexes.items {items : List Item} (hitems : ∀ item ∈ items, item.IsSound) :
    Lexes ([' '].intercalate (items.map Item.chars))
      ((Item.bodyStatements items).flatMap Statement.tokens) := by
  induction items with
  | nil => exact Lexes.nil
  | cons item rest ih =>
    have hitem := hitems item List.mem_cons_self
    have hrest := ih fun item' hmem => hitems item' (List.mem_cons_of_mem _ hmem)
    simp only [Item.bodyStatements, List.flatMap_append, List.map_cons]
    cases rest with
    | nil =>
      simpa [Item.bodyStatements] using Lexes.item hitem Lexes.nil
    | cons next others =>
      simpa [List.intercalate_cons_cons] using Lexes.item hitem hrest.space

/-! ## From statements to items -/

theorem isSound_statement (a : Attribute) : a.statement.isSound = true := by
  cases a <;> rfl

/-- **The statements of a sound item are sound.** -/
theorem isSound_of_mem_statements {item : Item} (hitem : item.IsSound) :
    ∀ st ∈ item.statements, st.isSound = true := by
  induction hitem with
  | constant _ name =>
    intro st hst
    obtain rfl := List.mem_singleton.1 hst
    exact name
  | module _ _ name _ ih =>
    intro st hst
    simp only [Item.statements, Item.bodyStatements_eq_flatMap, List.mem_append, List.mem_cons,
      List.mem_map, List.mem_flatMap, List.not_mem_nil, or_false] at hst
    -- an attribute, the opening, something inside, or the closing
    rcases hst with ⟨a, -, rfl⟩ | rfl | ⟨item, hmem, hst⟩ | rfl
    · exact isSound_statement a
    · exact name
    · exact ih item hmem st hst
    · rfl
  | inclusion =>
    intro st hst
    obtain rfl := List.mem_singleton.1 hst
    rfl

theorem assemble_attributes (attributes : List Attribute) (opened : List (Ident × List Item))
    (before : List Item) (rest : List Statement) :
    assemble opened before (attributes.map Attribute.statement ++ rest) =
      assemble opened before rest := by
  induction attributes with
  | nil => rfl
  | cons a others ih =>
    rw [List.map_cons, List.cons_append, ← ih]
    cases a with
    | doc text => rw [Attribute.statement, assemble]
    | allow lint => rw [Attribute.statement, assemble]

/-- The statements of several items make up these items, if those of each do. -/
theorem assemble_body {items : List Item}
    (hitems : ∀ item ∈ items, ∀ opened before rest,
      assemble opened before (item.statements ++ rest) =
        assemble opened (before ++ [item.bare]) rest)
    (opened : List (Ident × List Item)) (before : List Item) (rest : List Statement) :
    assemble opened before (Item.bodyStatements items ++ rest) =
      assemble opened (before ++ Item.bareItems items) rest := by
  induction items generalizing before with
  | nil => simp [Item.bodyStatements, Item.bareItems]
  | cons item others ih =>
    rw [Item.bodyStatements, List.append_assoc, hitems item List.mem_cons_self,
      ih fun item' hmem => hitems item' (List.mem_cons_of_mem _ hmem)]
    simp [Item.bareItems]

/-- **The statements of an item make up the item**, wherever they stand. -/
theorem assemble_item {item : Item} (hitem : item.IsSound) :
    ∀ opened before rest, assemble opened before (item.statements ++ rest) =
      assemble opened (before ++ [item.bare]) rest := by
  induction hitem with
  | constant =>
    intro opened before rest
    rw [Item.statements, List.singleton_append, assemble, Item.bare]
  | @module attributes ident items _ _ _ _ ih =>
    intro opened before rest
    rw [Item.statements, List.append_assoc, assemble_attributes, List.cons_append, assemble,
      List.append_assoc, assemble_body ih, List.nil_append, List.singleton_append, assemble,
      Item.bare]
  | inclusion =>
    intro opened before rest
    rw [Item.statements, List.singleton_append, assemble, Item.bare]

/-- **The text of sound items is read back** as these items. -/
theorem read?_sourceText {items : List Item} (hitems : ∀ item ∈ items, item.IsSound) :
    read? (sourceText items) = some (items.map Item.bare) := by
  have htokens : tokens (sourceText items).toList =
      some ((Item.bodyStatements items).flatMap Statement.tokens) := by
    rw [sourceText, String.toList_ofList]
    exact Lexes.items hitems
  have hsound : ∀ st ∈ Item.bodyStatements items, st.isSound = true := by
    rw [Item.bodyStatements_eq_flatMap]
    intro st hst
    obtain ⟨item, hmem, hst⟩ := List.mem_flatMap.1 hst
    exact isSound_of_mem_statements (hitems item hmem) st hst
  -- nothing is open at the top, and nothing comes behind the last item
  have hassemble : assemble [] [] (Item.bodyStatements items ++ []) =
      assemble [] ([] ++ Item.bareItems items) [] :=
    assemble_body (fun item hmem => assemble_item (hitems item hmem)) [] [] []
  rw [List.append_nil, List.nil_append, Item.bareItems_eq_map] at hassemble
  show ((tokens (sourceText items).toList).bind fun ts =>
    (statements.all ts).bind (assemble [] [])) = some (items.map Item.bare)
  rw [htokens, Option.bind_some, all_statements hsound, Option.bind_some, hassemble]
  rfl

end QueryPaths.Source
