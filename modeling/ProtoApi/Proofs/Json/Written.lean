import ProtoApi.Json.Tree
import ProtoApi.Proofs.Json.Scanning

namespace ProtoApi.Json

/-!
# The tokens of a written value

* `Plain` — values all of whose numbers are whole and fit 64 bits;
* `writtenTokens` — the tokens of a value;
* `tokens_write`, `tokens_writePretty` — a plain value has them however it is written, whatever
  follows it;
* `foldl_writtenTokens` — walking over them hands the tree of the value to the container around it;
* `ofText_compact`, `ofText_pretty` — so both texts have that tree, and nothing follows it;
* `skip_toTree` — who passes over a value meets no fault.

Each of these is an induction over values, items and members at once.
-/

/-! ### Values with whole numbers -/

mutual

/-- All numbers are whole and fit 64 bits. -/
def Plain : Json → Prop
  | .number n => ∃ i, n = .integer i ∧ FitsWord i
  | .array items => PlainItems items
  | .object members => PlainMembers members
  | _ => True

/-- All items are plain. -/
def PlainItems : List Json → Prop
  | [] => True
  | v :: rest => v.Plain ∧ PlainItems rest

/-- All members are plain. -/
def PlainMembers : List (String × Json) → Prop
  | [] => True
  | (_, v) :: rest => v.Plain ∧ PlainMembers rest

end

/-- Items are plain if each of them is. -/
theorem plainItems_iff {items : List Json} : PlainItems items ↔ ∀ v ∈ items, v.Plain := by
  induction items with
  | nil => simp [PlainItems]
  | cons v rest ih => rw [PlainItems, ih, List.forall_mem_cons]

/-- Members are plain if each value is; the keys do not matter. -/
theorem plainMembers_iff {members : List (String × Json)} :
    PlainMembers members ↔ ∀ m ∈ members, m.2.Plain := by
  induction members with
  | nil => simp [PlainMembers]
  | cons m rest ih => rw [PlainMembers, ih, List.forall_mem_cons]

/-! ### Tokens -/

mutual

/-- The tokens of a value. -/
def writtenTokens : Json → List Token
  | .null => [.null]
  | .boolean b => [.boolean b]
  | .number n => [.number (.of n)]
  | .string s => [.string (.of s)]
  | .array [] => [.openBracket, .closeBracket]
  | .array (v :: items) =>
    .openBracket :: (writtenTokens v ++ (itemTokens items ++ [.closeBracket]))
  | .object [] => [.openBrace, .closeBrace]
  | .object ((key, v) :: members) =>
    .openBrace :: .string (.of key) :: .colon
      :: (writtenTokens v ++ (memberTokens members ++ [.closeBrace]))

/-- The tokens of the items behind the first one. -/
def itemTokens : List Json → List Token
  | [] => []
  | v :: items => .comma :: (writtenTokens v ++ itemTokens items)

/-- The tokens of the members behind the first one. -/
def memberTokens : List (String × Json) → List Token
  | [] => []
  | (key, v) :: members =>
    .comma :: .string (.of key) :: .colon :: (writtenTokens v ++ memberTokens members)

end

theorem tokens_nil : tokens [] = [] := by rw [tokens]

/-- A token that is scanned is the first one. -/
theorem tokens_of_scanToken {c : Char} (hb : isBlank c = false) {cs rest : List Char} {t : Token}
    (h : scanToken c cs = (t, rest)) : tokens (c :: cs) = t :: tokens rest := by
  rw [tokens, if_neg (Bool.eq_false_iff.1 hb), h]

/-- A blank is no token. -/
theorem tokens_blank {c : Char} (hb : isBlank c = true) (cs : List Char) :
    tokens (c :: cs) = tokens cs := by
  rw [tokens, if_pos hb]

/-- A bracket, a brace, a comma or a colon is a token of its own. -/
theorem tokens_punctuation {c : Char} {t : Token} (hb : isBlank c = false)
    (h : punctuation? c = some t) (rest : List Char) : tokens (c :: rest) = t :: tokens rest := by
  apply tokens_of_scanToken hb
  unfold scanToken
  rw [h]

/-- A line break with its indentation is no token. -/
theorem tokens_newLine (level : Nat) (rest : List Char) :
    tokens (newLine level rest) = tokens rest := by
  unfold newLine
  rw [tokens_blank rfl]
  induction 2 * level with
  | zero => rfl
  | succ n ih => rw [List.replicate_succ, List.cons_append, tokens_blank rfl, ih]

/-- A text in quotes is one token, whatever follows the closing quote. -/
theorem tokens_writeString (s : String) (rest : List Char) :
    tokens (writeString s rest) = .string (.of s) :: tokens rest := by
  unfold writeString
  apply tokens_of_scanToken rfl
  unfold scanToken
  rw [scanString_writeString]
  rfl

/-- A digit begins a number. -/
theorem scanToken_of_isDigit {c : Char} (h : c.isDigit = true) (cs : List Char) :
    isBlank c = false ∧
      scanToken c cs
        = (.number (scanMagnitude false (c :: cs)).1, (scanMagnitude false (c :: cs)).2) := by
  -- A digit differs from each character that begins another token.
  have hne : ∀ d : Char, d.isDigit = false → ¬ c = d := by
    rintro d hd rfl
    rw [h] at hd
    nomatch hd
  have hp : punctuation? c = none := by
    unfold punctuation?
    rw [if_neg (hne _ rfl), if_neg (hne _ rfl), if_neg (hne _ rfl), if_neg (hne _ rfl),
      if_neg (hne _ rfl), if_neg (hne _ rfl)]
  constructor
  · simp [isBlank, hne ' ' rfl, hne '\n' rfl, hne '\t' rfl, hne '\r' rfl]
  · unfold scanToken scanNumber
    rw [hp]
    simp only
    rw [if_neg (hne '"' rfl), if_pos (Or.inr h), if_neg (hne '-' rfl)]

/-- A whole number is a token, if what follows is no part of it. -/
theorem tokens_wholeChars {n : Int} (hn : FitsWord n) {rest : List Char} (h : EndsNumber rest) :
    tokens (wholeChars n ++ rest) = .number (.of (.integer n)) :: tokens rest := by
  have hmagnitude := scanMagnitude_natAbs hn h
  unfold wholeChars
  by_cases hneg : n < 0
  · -- The sign begins the number, and the digits are those of the magnitude.
    rw [decide_eq_true hneg] at hmagnitude
    rw [if_pos hneg]
    apply tokens_of_scanToken rfl
    show (Token.number (scanMagnitude true (Nat.toDigits 10 n.natAbs ++ rest)).1,
      (scanMagnitude true (Nat.toDigits 10 n.natAbs ++ rest)).2) = _
    rw [hmagnitude]
  · rw [decide_eq_false hneg] at hmagnitude
    rw [if_neg hneg]
    -- Without a sign the first digit begins the number.
    obtain ⟨d, ds, hds⟩ :=
      List.exists_cons_of_ne_nil (Nat.toDigits_ne_nil (n := n.natAbs) (b := 10))
    have hd : d.isDigit = true :=
      Nat.isDigit_of_mem_toDigits (b := 10) (n := n.natAbs) (by decide) (by decide)
        (hds ▸ List.mem_cons_self)
    obtain ⟨hblank, hscan⟩ := scanToken_of_isDigit hd (ds ++ rest)
    rw [hds, List.cons_append] at hmagnitude ⊢
    rw [hmagnitude] at hscan
    exact tokens_of_scanToken hblank hscan

/-! ### Texts -/

/-- A line break ends a number. -/
theorem endsNumber_newLine (level : Nat) (rest : List Char) : EndsNumber (newLine level rest) :=
  endsNumber_cons (by decide) _

/-- So do further items, which begin with a comma, or else what follows them. -/
theorem endsNumber_writeItems (items : List Json) {rest : List Char} (h : EndsNumber rest) :
    EndsNumber (writeItems items rest) := by
  cases items with
  | nil => exact h
  | cons v items => rw [writeItems]; exact endsNumber_cons (by decide) _

/-- So do further members. -/
theorem endsNumber_writeMembers (members : List (String × Json)) {rest : List Char}
    (h : EndsNumber rest) : EndsNumber (writeMembers members rest) := by
  cases members with
  | nil => exact h
  | cons m members => rw [writeMembers]; exact endsNumber_cons (by decide) _

mutual

/-- The text without blanks has the tokens of the value, and what follows it has its own. -/
theorem tokens_write : (v : Json) → v.Plain → (rest : List Char) → EndsNumber rest →
    tokens (write v rest) = writtenTokens v ++ tokens rest
  | .null, _, rest, _ => tokens_of_scanToken rfl rfl
  | .boolean true, _, rest, _ => tokens_of_scanToken rfl rfl
  | .boolean false, _, rest, _ => tokens_of_scanToken rfl rfl
  | .number n, hv, rest, hr => by
    obtain ⟨i, rfl, hi⟩ := hv
    exact tokens_wholeChars hi hr
  | .string s, _, rest, _ => tokens_writeString s rest
  | .array [], _, rest, _ => by
    show tokens ('[' :: ']' :: rest) = _
    rw [tokens_punctuation rfl rfl, tokens_punctuation rfl rfl]
    rfl
  | .array (v :: items), hv, rest, hr => by
    rw [Plain, PlainItems] at hv
    -- A comma or the bracket follows the first item, so that a number ends there.
    rw [write, writtenTokens, tokens_punctuation rfl rfl,
      tokens_write v hv.1 _ (endsNumber_writeItems items (endsNumber_cons (by decide) rest)),
      tokens_writeItems items hv.2 _ (endsNumber_cons (by decide) rest), tokens_punctuation rfl rfl]
    simp only [List.cons_append, List.append_assoc, List.nil_append]
  | .object [], _, rest, _ => by
    show tokens ('{' :: '}' :: rest) = _
    rw [tokens_punctuation rfl rfl, tokens_punctuation rfl rfl]
    rfl
  | .object ((key, v) :: members), hv, rest, hr => by
    rw [Plain, PlainMembers] at hv
    -- The key is behind the brace, and a comma or the closing brace behind the first value.
    rw [write, writtenTokens, tokens_punctuation rfl rfl, tokens_writeString,
      tokens_punctuation rfl rfl,
      tokens_write v hv.1 _ (endsNumber_writeMembers members (endsNumber_cons (by decide) rest)),
      tokens_writeMembers members hv.2 _ (endsNumber_cons (by decide) rest),
      tokens_punctuation rfl rfl]
    simp only [List.cons_append, List.append_assoc, List.nil_append]

/-- The step through the items behind the first one. Each begins with a comma, so that a number
    before it ends. -/
theorem tokens_writeItems :
    (items : List Json) → PlainItems items → (rest : List Char) → EndsNumber rest →
    tokens (writeItems items rest) = itemTokens items ++ tokens rest
  | [], _, rest, _ => rfl
  | v :: items, hv, rest, hr => by
    rw [PlainItems] at hv
    rw [writeItems, itemTokens, tokens_punctuation rfl rfl,
      tokens_write v hv.1 _ (endsNumber_writeItems items hr), tokens_writeItems items hv.2 rest hr]
    simp only [List.cons_append, List.append_assoc]

/-- The step through the members behind the first one. -/
theorem tokens_writeMembers :
    (members : List (String × Json)) → PlainMembers members → (rest : List Char) →
    EndsNumber rest → tokens (writeMembers members rest) = memberTokens members ++ tokens rest
  | [], _, rest, _ => rfl
  | (key, v) :: members, hv, rest, hr => by
    rw [PlainMembers] at hv
    rw [writeMembers, memberTokens, tokens_punctuation rfl rfl, tokens_writeString,
      tokens_punctuation rfl rfl, tokens_write v hv.1 _ (endsNumber_writeMembers members hr),
      tokens_writeMembers members hv.2 rest hr]
    simp only [List.cons_append, List.append_assoc]

end

/-- Further items on lines of their own begin with a comma as well. -/
theorem endsNumber_writePrettyItems (level : Nat) (items : List Json) {rest : List Char}
    (h : EndsNumber rest) : EndsNumber (writePrettyItems level items rest) := by
  cases items with
  | nil => exact h
  | cons v items => rw [writePrettyItems]; exact endsNumber_cons (by decide) _

/-- So do further members on lines of their own. -/
theorem endsNumber_writePrettyMembers (level : Nat) (members : List (String × Json))
    {rest : List Char} (h : EndsNumber rest) :
    EndsNumber (writePrettyMembers level members rest) := by
  cases members with
  | nil => exact h
  | cons m members => rw [writePrettyMembers]; exact endsNumber_cons (by decide) _

mutual

/-- The text on several lines has the tokens of the value, at any depth of indentation. -/
theorem tokens_writePretty (level : Nat) :
    (v : Json) → v.Plain → (rest : List Char) → EndsNumber rest →
    tokens (writePretty level v rest) = writtenTokens v ++ tokens rest
  | .null, _, rest, _ => tokens_of_scanToken rfl rfl
  | .boolean true, _, rest, _ => tokens_of_scanToken rfl rfl
  | .boolean false, _, rest, _ => tokens_of_scanToken rfl rfl
  | .number n, hv, rest, hr => by
    obtain ⟨i, rfl, hi⟩ := hv
    exact tokens_wholeChars hi hr
  | .string s, _, rest, _ => tokens_writeString s rest
  | .array [], _, rest, _ => by
    show tokens ('[' :: ']' :: rest) = _
    rw [tokens_punctuation rfl rfl, tokens_punctuation rfl rfl]
    rfl
  | .array (v :: items), hv, rest, hr => by
    rw [Plain, PlainItems] at hv
    -- A line break is no token, but it ends a number.
    rw [writePretty, writtenTokens, tokens_punctuation rfl rfl, tokens_newLine,
      tokens_writePretty (level + 1) v hv.1 _
        (endsNumber_writePrettyItems (level + 1) items (endsNumber_newLine level (']' :: rest))),
      tokens_writePrettyItems (level + 1) items hv.2 _ (endsNumber_newLine level (']' :: rest)),
      tokens_newLine, tokens_punctuation rfl rfl]
    simp only [List.cons_append, List.append_assoc, List.nil_append]
  | .object [], _, rest, _ => by
    show tokens ('{' :: '}' :: rest) = _
    rw [tokens_punctuation rfl rfl, tokens_punctuation rfl rfl]
    rfl
  | .object ((key, v) :: members), hv, rest, hr => by
    rw [Plain, PlainMembers] at hv
    rw [writePretty, writtenTokens, tokens_punctuation rfl rfl, tokens_newLine, tokens_writeString,
      tokens_punctuation rfl rfl, tokens_blank rfl,
      tokens_writePretty (level + 1) v hv.1 _
        (endsNumber_writePrettyMembers (level + 1) members
          (endsNumber_newLine level ('}' :: rest))),
      tokens_writePrettyMembers (level + 1) members hv.2 _ (endsNumber_newLine level ('}' :: rest)),
      tokens_newLine, tokens_punctuation rfl rfl]
    simp only [List.cons_append, List.append_assoc, List.nil_append]

/-- The step through the items behind the first one, where the line breaks are passed over. -/
theorem tokens_writePrettyItems (level : Nat) :
    (items : List Json) → PlainItems items → (rest : List Char) →
    EndsNumber rest → tokens (writePrettyItems level items rest) = itemTokens items ++ tokens rest
  | [], _, rest, _ => rfl
  | v :: items, hv, rest, hr => by
    rw [PlainItems] at hv
    rw [writePrettyItems, itemTokens, tokens_punctuation rfl rfl, tokens_newLine,
      tokens_writePretty level v hv.1 _ (endsNumber_writePrettyItems level items hr),
      tokens_writePrettyItems level items hv.2 rest hr]
    simp only [List.cons_append, List.append_assoc]

/-- The step through the members behind the first one. -/
theorem tokens_writePrettyMembers (level : Nat) :
    (members : List (String × Json)) → PlainMembers members →
    (rest : List Char) → EndsNumber rest →
    tokens (writePrettyMembers level members rest) = memberTokens members ++ tokens rest
  | [], _, rest, _ => rfl
  | (key, v) :: members, hv, rest, hr => by
    rw [PlainMembers] at hv
    rw [writePrettyMembers, memberTokens, tokens_punctuation rfl rfl, tokens_newLine,
      tokens_writeString, tokens_punctuation rfl rfl, tokens_blank rfl,
      tokens_writePretty level v hv.1 _ (endsNumber_writePrettyMembers level members hr),
      tokens_writePrettyMembers level members hv.2 rest hr]
    simp only [List.cons_append, List.append_assoc]

end

/-! ### Trees -/

namespace State

/-- A value begins in a list as it begins anywhere. -/
theorem foldl_itemOrEnd (v : Json) (ts : List Token) (outer : List Frame) (before : List Tree)
    (first : Bool) :
    (writtenTokens v ++ ts).foldl step (.itemOrEnd outer before first)
      = (writtenTokens v ++ ts).foldl step (.value (.array before :: outer)) := by
  match v with
  | .null | .boolean _ | .number _ | .string _ | .array [] | .array (_ :: _) | .object []
    | .object ((_, _) :: _) => rfl

mutual

/-- Walking over the tokens of a value hands its tree to the container around it. The containers are
    kept, which carries the induction into items and members. -/
theorem foldl_writtenTokens : (v : Json) → (ts : List Token) → (outer : List Frame) →
    (writtenTokens v ++ ts).foldl step (.value outer) = ts.foldl step (put v.toTree outer)
  | .null, _, _ => rfl
  | .boolean _, _, _ => rfl
  | .number _, _, _ => rfl
  | .string _, _, _ => rfl
  | .array [], _, _ => rfl
  | .array (v :: items), ts, outer => by
    rw [writtenTokens, List.cons_append, List.append_assoc, List.append_assoc, List.foldl_cons]
    -- Items are kept last first until the bracket closes.
    show List.foldl step (.itemOrEnd outer [] true) _ = _
    rw [foldl_itemOrEnd, foldl_writtenTokens v]
    show List.foldl step (.afterItem outer [v.toTree]) _ = _
    rw [foldl_itemTokens items]
    show List.foldl step
      (put (.array ((itemTrees items).reverse ++ [v.toTree]).reverse .closed) outer) ts = _
    rw [List.reverse_append, List.reverse_reverse]
    rfl
  | .object [], _, _ => rfl
  | .object ((key, v) :: members), ts, outer => by
    rw [writtenTokens, List.cons_append, List.cons_append, List.cons_append, List.append_assoc,
      List.append_assoc]
    -- The key waits in the open object until its value is there.
    show List.foldl step (.value (.member [] (Lexeme.of key) :: outer)) _ = _
    rw [foldl_writtenTokens v]
    show List.foldl step (.afterMember outer [(Lexeme.of key, v.toTree)]) _ = _
    rw [foldl_memberTokens members]
    show List.foldl step
      (put (.object ((memberTrees members).reverse ++ [(Lexeme.of key, v.toTree)]).reverse .closed)
        outer) ts = _
    rw [List.reverse_append, List.reverse_reverse]
    rfl

/-- The items behind the first one are put before those that the open list keeps, last first. -/
theorem foldl_itemTokens :
    (items : List Json) → (ts : List Token) → (outer : List Frame) → (before : List Tree) →
    (itemTokens items ++ ts).foldl step (.afterItem outer before)
      = ts.foldl step (.afterItem outer ((itemTrees items).reverse ++ before))
  | [], _, _, _ => rfl
  | v :: items, ts, outer, before => by
    rw [itemTokens, List.cons_append, List.append_assoc, List.foldl_cons]
    -- Behind a comma another item has to come, and it is put before those that are kept.
    show List.foldl step (.itemOrEnd outer before false) _ = _
    rw [foldl_itemOrEnd, foldl_writtenTokens v]
    show List.foldl step (.afterItem outer (v.toTree :: before)) _ = _
    rw [foldl_itemTokens items, itemTrees, List.reverse_cons, List.append_assoc]
    rfl

/-- The members behind the first one are put before those that the open object keeps, last first. -/
theorem foldl_memberTokens :
    (members : List (String × Json)) → (ts : List Token) → (outer : List Frame) →
    (before : List TreeMember) → (memberTokens members ++ ts).foldl step (.afterMember outer before)
      = ts.foldl step (.afterMember outer ((memberTrees members).reverse ++ before))
  | [], _, _, _ => rfl
  | (key, v) :: members, ts, outer, before => by
    rw [memberTokens, List.cons_append, List.cons_append, List.cons_append, List.append_assoc]
    show List.foldl step (.value (.member before (Lexeme.of key) :: outer)) _ = _
    rw [foldl_writtenTokens v]
    show List.foldl step (.afterMember outer ((Lexeme.of key, v.toTree) :: before)) _ = _
    rw [foldl_memberTokens members, memberTrees, List.reverse_cons, List.append_assoc]
    rfl

end

end State

/-- The tokens of a value make its tree. -/
theorem ofTokens_writtenTokens (v : Json) :
    Document.ofTokens (writtenTokens v) = ⟨v.toTree, false⟩ := by
  have h := State.foldl_writtenTokens v [] []
  rw [List.append_nil] at h
  unfold Document.ofTokens
  rw [h]
  rfl

/-! ### Documents -/

section Documents

variable {v : Json} (h : v.Plain)
include h

/-- The text without blanks has the tree of the value. -/
theorem ofText_compact : Document.ofText v.compact = ⟨v.toTree, false⟩ := by
  unfold Document.ofText compact
  rw [String.toList_ofList, tokens_write v h [] endsNumber_nil, tokens_nil, List.append_nil]
  exact ofTokens_writtenTokens v

/-- So has the text on several lines. -/
theorem ofText_pretty : Document.ofText v.pretty = ⟨v.toTree, false⟩ := by
  unfold Document.ofText pretty
  rw [String.toList_ofList, tokens_writePretty 0 v h [] endsNumber_nil, tokens_nil, List.append_nil]
  exact ofTokens_writtenTokens v

end Documents

/-! ### Passing over values -/

mutual

/-- The tree of a value has no faults. -/
theorem skip_toTree : (v : Json) → v.toTree.skip = none
  | .null => rfl
  | .boolean _ => rfl
  | .number _ => rfl
  | .string _ => rfl
  | .array items => by
    rw [toTree, Tree.skip, skipItems_itemTrees items]
    rfl
  | .object members => by
    rw [toTree, Tree.skip, skipMembers_memberTrees members]
    rfl

/-- Nor have those of its items. -/
theorem skipItems_itemTrees : (items : List Json) → skipItems (itemTrees items) = none
  | [] => rfl
  | v :: rest => by
    rw [itemTrees, skipItems, skip_toTree v, skipItems_itemTrees rest]
    rfl

/-- Nor have those of its members. -/
theorem skipMembers_memberTrees :
    (members : List (String × Json)) → skipMembers (memberTrees members) = none
  | [] => rfl
  | (key, v) :: rest => by
    rw [memberTrees, skipMembers, skip_toTree v, skipMembers_memberTrees rest]
    rfl

end

end ProtoApi.Json
