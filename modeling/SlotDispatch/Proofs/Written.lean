import Mathlib.Data.List.Basic
import Mathlib.Data.List.TakeWhile
import SlotDispatch.Json.Value
import SlotDispatch.Proofs.Numerals

/-!
# Reading what was written

A value is written in one of two layouts, and a reader goes through the text token by token
(`State.after`). What a reader meets in a written value is the value itself, and nothing else:

* `scanText_quote`: a string is met with the value that it was written for;
* `after_number`: so is a whole number of 64 bits, if nothing comes after it that prolongs it;
* `Met.array`, `Met.object`: items and fields are met in their order, whatever the blanks between
  them, so the two layouts need not be told apart (`Listed`);
* `Exact.reading_compact`, `Exact.reading_pretty`: both layouts of a value are met as the value, if
  there are no floating-point numbers in it.

All facts about the reader are stated with what comes after the text that they are about (`Met`).
That must not begin like the rest of a number (`Ends`), which otherwise would have no end.
-/

namespace SlotDispatch.Json

/-! ## Strings -/

theorem hexDigit?_hexChar {n : Nat} (h : n < 16) : hexDigit? (hexChar n) = some n := by
  have : ∀ n : Fin 16, hexDigit? (hexChar n) = some n.val := by decide
  exact this ⟨n, h⟩

theorem hexValue?_hexChar {n : Nat} (h : n < 256) :
    hexValue? ['0', '0', hexChar (n / 16), hexChar (n % 16)] = some n := by
  have h₀ : hexDigit? '0' = some 0 := by decide
  have h₁ := hexDigit?_hexChar (n := n / 16) (by omega)
  have h₂ := hexDigit?_hexChar (n := n % 16) (by omega)
  simp only [hexValue?, List.foldlM_cons, List.foldlM_nil, h₀, h₁, h₂, Option.map_some,
    Option.bind_eq_bind, Option.bind_some, Option.pure_def, Option.some.injEq]
  omega

/-- A piece stands for a character, whatever comes after it. -/
inductive Piece.Means : Piece → Char → Prop
  | char (c : Char) : Means (.char c) c
  /-- The code is not half of another character. -/
  | unit {c : Char} (h : c.toNat < 0xD800) : Means (.unit c.toNat) c

theorem decodePieces_cons {piece : Piece} {c : Char} (h : piece.Means c) (fault : Option Fault)
    (pieces : List Piece) :
    decodePieces fault (piece :: pieces) = (c :: ·) <$> decodePieces fault pieces := by
  cases h with
  | char => simp [decodePieces]
  | unit h =>
    have hl : isLeading c.toNat = false := by
      rw [isLeading, decide_eq_false (by omega), Bool.false_and]
    have ht : isTrailing c.toNat = false := by
      rw [isTrailing, decide_eq_false (by omega), Bool.false_and]
    rcases pieces with _ | ⟨_ | _, pieces⟩ <;> simp [decodePieces, hl, ht]

/-- A character is escaped as one piece that stands for it. -/
theorem scanPieces_escapeChar (c : Char) (rest : List Char) :
    ∃ piece : Piece, piece.Means c ∧
      scanPieces (escapeChar c ++ rest) = addPiece piece (scanPieces rest) := by
  unfold escapeChar
  split_ifs with hq hb h₁ h₂ h₃ h₄ h₅ hc
  -- Seven characters have escapes of their own, which mean just these characters.
  iterate 7 · exact ⟨.char c, .char c, by subst c; rfl⟩
  · -- The number of a control character is far below the halves of others.
    have hlt : c.toNat < 32 := hc
    refine ⟨.unit c.toNat, .unit (by omega), ?_⟩
    simp only [List.cons_append, List.nil_append, scanPieces]
    rw [hexValue?_hexChar (by omega)]
  · -- What is left is written as it is, and neither ends the string nor begins an escape.
    refine ⟨.char c, .char c, ?_⟩
    rw [List.cons_append, List.nil_append, scanPieces, if_neg hc]
    all_goals simp [hq, hb]

/-- A string is met with the value that it was written for. -/
theorem scanText_quote (cs rest : List Char) :
    scanText (cs.flatMap escapeChar ++ '"' :: rest) = (.of (String.ofList cs), rest) := by
  have h : ∃ pieces, scanPieces (cs.flatMap escapeChar ++ '"' :: rest) = (pieces, none, rest) ∧
      decodePieces none pieces = .ok cs := by
    induction cs with
    | nil => exact ⟨[], rfl, rfl⟩
    | cons c cs ih =>
      obtain ⟨pieces, hs, hd⟩ := ih
      obtain ⟨piece, hp, he⟩ := scanPieces_escapeChar c (cs.flatMap escapeChar ++ '"' :: rest)
      refine ⟨piece :: pieces, ?_, ?_⟩
      · rw [List.flatMap_cons, List.append_assoc, he, hs]
        rfl
      · rw [decodePieces_cons hp, hd]
        rfl
  obtain ⟨pieces, hs, hd⟩ := h
  rw [scanText, hs]
  simp only [hd]
  rfl

/-! ## Numbers -/

/-- The characters that prolong a number. -/
def prolongs (c : Char) : Bool := c.isDigit || c = '.' || c = 'e' || c = 'E'

/-- Nothing that begins this text can be a part of a number before it. -/
def Ends (rest : List Char) : Prop := ∀ c ∈ rest.head?, prolongs c = false

theorem head?_toDigits_ne_zero {n : Nat} (h : 0 < n) : (Nat.toDigits 10 n).head? ≠ some '0' := by
  induction n using Nat.strongRecOn with
  | ind n ih =>
    rw [Nat.toDigits_eq_if (by omega)]
    split_ifs with hn
    · simpa using Nat.pos_iff_ne_zero.1 h
    · -- The number begins like the number without its last digit.
      rw [List.head?_append_of_ne_nil _ Nat.toDigits_ne_nil]
      exact ih (n / 10) (by omega) (by omega)

/-- The whole numbers that are met as such: those of 64 bits, with a sign or without. -/
def Whole (value : Int) : Prop := -0x8000000000000000 ≤ value ∧ value < UInt64.size

/-- The whole number that is meant by the digits of a number, with a sign or without. -/
theorem integer?_toDigits (negative : Bool) (n : Nat) :
    Literal.integer? ⟨negative, Nat.toDigits 10 n, none, none⟩ =
      if negative then if 0 < n ∧ n ≤ 0x8000000000000000 then some (-(n : Int)) else none
      else if n < UInt64.size then some (n : Int) else none := by
  have hv : Nat.ofDigitChars 10 (Nat.toDigits 10 n) 0 = n := Nat.ofDigitChars_ten_toDigits
  rw [Literal.integer?, hv, if_neg]
  rintro (h | h) <;> cases h

/-- The digits of a number are taken for what they mean. They do not begin with a zero too many,
    and neither a fraction nor an exponent comes after them. -/
theorem numberToken_toDigits {negative : Bool} {n : Nat} {value : Int} {rest : List Char}
    (hi : Literal.integer? ⟨negative, Nat.toDigits 10 n, none, none⟩ = some value)
    (h : Ends rest) :
    numberToken negative (Nat.toDigits 10 n) rest = (.number (some (.integer value)), rest) := by
  have hz : ¬((Nat.toDigits 10 n).head? = some '0' ∧ 1 < (Nat.toDigits 10 n).length) := by
    rcases Nat.eq_zero_or_pos n with rfl | hn
    · simp
    · exact fun hz => head?_toDigits_ne_zero hn hz.1
  have hf : scanFraction rest = .ok (none, rest) := by
    unfold scanFraction
    split
    · exact absurd (h '.' rfl) (by decide)
    · rfl
  have he : scanExponent rest = .ok (none, rest) := by
    unfold scanExponent
    split
    · rfl
    · rename_i c cs
      rw [if_neg]
      rintro (rfl | rfl)
      · exact absurd (h 'e' rfl) (by decide)
      · exact absurd (h 'E' rfl) (by decide)
  have hs : scanNumber negative (Nat.toDigits 10 n) rest =
      .ok (⟨negative, Nat.toDigits 10 n, none, none⟩, rest) := by
    rw [scanNumber, if_neg Nat.toDigits_ne_nil, if_neg hz, hf]
    simp only [bind, Except.bind, pure, Except.pure, he]
  rw [numberToken, hs]
  simp only [Literal.number?, hi]

theorem span_toDigits (n : Nat) {rest : List Char} (h : Ends rest) :
    (Nat.toDigits 10 n ++ rest).takeWhile Char.isDigit = Nat.toDigits 10 n ∧
    (Nat.toDigits 10 n ++ rest).dropWhile Char.isDigit = rest := by
  refine Text.span_append (Decimal.areDigits_toDigits n) fun c hc => ?_
  have hp : prolongs c = false := h c hc
  simp_all [prolongs]

theorem scanToken_of_isDigit {c : Char} (h : c.isDigit = true) (rest : List Char) :
    scanToken c rest = numberToken false ((c :: rest).takeWhile Char.isDigit)
      ((c :: rest).dropWhile Char.isDigit) := by
  rw [List.takeWhile_cons_of_pos h, List.dropWhile_cons_of_pos h]
  unfold scanToken
  split
  case h_12 => rw [if_pos h]
  all_goals exact absurd h (by decide)

theorem prolongs_of_isBlank {c : Char} (h : isBlank c = true) : prolongs c = false := by
  simp only [isBlank, Bool.or_eq_true, decide_eq_true_eq] at h
  rcases h with ((rfl | rfl) | rfl) | rfl <;> decide

theorem isBlank_of_isDigit {c : Char} (h : c.isDigit = true) : isBlank c = false := by
  rw [Bool.eq_false_iff]
  intro hb
  simpa [prolongs, h] using prolongs_of_isBlank hb

/-! ## The reader -/

/-- There are only blanks in this text. -/
def Blank (gap : List Char) : Prop := ∀ c ∈ gap, isBlank c = true

namespace State

/-- The state of a reader who has gone through a text. -/
def after (state : State) (cs : List Char) : State := (tokens cs).foldl step state

@[simp]
theorem after_nil (state : State) : state.after [] = state := by
  rw [after, tokens, List.foldl_nil]

theorem after_blank {c : Char} (h : isBlank c = true) (state : State) (cs : List Char) :
    state.after (c :: cs) = state.after cs := by
  rw [after, tokens, if_pos h, after]

theorem after_token {c : Char} {cs rest : List Char} {token : Token} (hc : isBlank c = false)
    (h : scanToken c cs = (token, rest)) (state : State) :
    state.after (c :: cs) = (state.step token).after rest := by
  rw [after, tokens, if_neg (by simp [hc]), h, List.foldl_cons, after]

theorem after_blanks {gap : List Char} (h : Blank gap) (state : State)
    (cs : List Char) : state.after (gap ++ cs) = state.after cs := by
  induction gap with
  | nil => rfl
  | cons c gap ih =>
    rw [List.cons_append, after_blank (h c List.mem_cons_self)]
    exact ih fun c hc => h c (List.mem_cons_of_mem _ hc)

theorem after_quote (state : State) (text : String) (cs : List Char) :
    state.after (quote text ++ cs) = (state.step (.text (.of text))).after cs := by
  have hs : scanToken '"' (text.toList.flatMap escapeChar ++ '"' :: cs) =
      (.text (.of text), cs) := by
    simp only [scanToken, scanText_quote, String.ofList_toList]
  rw [quote, List.append_assoc, List.cons_append, List.cons_append, List.nil_append,
    after_token rfl hs]

theorem after_number {value : Int} (h : Whole value) {rest : List Char} (hr : Ends rest)
    (state : State) :
    state.after (Decimal.integerText value ++ rest) =
      (state.step (.number (some (.integer value)))).after rest := by
  cases value with
  | ofNat n =>
    have hi : Literal.integer? ⟨false, Nat.toDigits 10 n, none, none⟩ = some (.ofNat n) := by
      rw [integer?_toDigits, if_neg Bool.false_ne_true, if_pos (Int.ofNat_lt.1 h.2)]
      rfl
    obtain ⟨ht, hd⟩ := span_toDigits n hr
    -- The first digit tells that this is a number, and then is read with the others.
    obtain ⟨c, cs, hc⟩ := List.exists_cons_of_ne_nil (Nat.toDigits_ne_nil (n := n) (b := 10))
    have hdigit : c.isDigit = true :=
      Nat.isDigit_of_mem_toDigits (b := 10) (n := n) (by omega) (by omega) (by simp [hc])
    rw [Decimal.integerText]
    rw [hc, List.cons_append] at ht hd ⊢
    refine after_token (isBlank_of_isDigit hdigit) ?_ state
    rw [scanToken_of_isDigit hdigit, ht, hd, ← hc, numberToken_toDigits hi hr]
  | negSucc n =>
    have hn : n + 1 ≤ 0x8000000000000000 := by
      have := h.1
      omega
    have hi : Literal.integer? ⟨true, Nat.toDigits 10 (n + 1), none, none⟩ =
        some (.negSucc n) := by
      rw [integer?_toDigits, if_pos rfl, if_pos ⟨Nat.succ_pos n, hn⟩]
      rfl
    obtain ⟨ht, hd⟩ := span_toDigits (n + 1) hr
    rw [Decimal.integerText, List.cons_append]
    refine after_token rfl ?_ state
    simp only [scanToken, ht, hd, numberToken_toDigits hi hr]

/-- The states in which a value is expected, inside of these arrays and objects. -/
inductive Awaits : State → List Frame → Prop
  | value (stack : List Frame) : Awaits (value stack) stack
  | firstItem (stack : List Frame) : Awaits (firstItem stack) (.items [] :: stack)
  | nextItem (items : List Tree) (stack : List Frame) :
      Awaits (nextItem items stack) (.items items :: stack)

theorem Awaits.step {state : State} {stack : List Frame} (h : Awaits state stack) (token : Token)
    (ht : token ≠ .endArray) : state.step token = begin token stack := by
  cases h with
  | value => rfl
  | firstItem | nextItem =>
    -- Only a closing bracket would mean something else here than the beginning of a value.
    cases token
    case endArray => exact absurd rfl ht
    all_goals rfl

end State

open State (Awaits deliver)

/-! ## What is met -/

/-- A reader who expects a value finds it in this text: it is `tree`, and the reader goes on with
    what comes after the text. -/
def Met (cs : List Char) (tree : Tree) : Prop :=
  ∀ ⦃state : State⦄ ⦃stack : List Frame⦄ ⦃rest : List Char⦄, Awaits state stack → Ends rest →
    state.after (cs ++ rest) = (deliver tree stack).after rest

/-- A value that is one token. -/
theorem Met.of_token (token : Token) {cs : List Char} {tree : Tree} (ht : token ≠ .endArray)
    (hb : ∀ stack, State.begin token stack = deliver tree stack)
    (h : ∀ (state : State) (rest : List Char), Ends rest →
      state.after (cs ++ rest) = (state.step token).after rest) : Met cs tree := by
  intro state stack rest hs hr
  rw [h state rest hr, hs.step token ht, hb]

theorem met_null : Met ['n', 'u', 'l', 'l'] .null :=
  .of_token (.word .null) nofun (fun _ => rfl) fun state _ _ =>
    State.after_token (c := 'n') rfl rfl state

theorem met_true : Met ['t', 'r', 'u', 'e'] (.bool true) :=
  .of_token (.word (.bool true)) nofun (fun _ => rfl) fun state _ _ =>
    State.after_token (c := 't') rfl rfl state

theorem met_false : Met ['f', 'a', 'l', 's', 'e'] (.bool false) :=
  .of_token (.word (.bool false)) nofun (fun _ => rfl) fun state _ _ =>
    State.after_token (c := 'f') rfl rfl state

theorem met_quote (text : String) : Met (quote text) (.text (.of text)) :=
  .of_token (.text (.of text)) nofun (fun _ => rfl) fun state rest _ =>
    state.after_quote text rest

theorem met_number {value : Int} (h : Whole value) :
    Met (Decimal.integerText value) (.number (some (.integer value))) :=
  .of_token (.number (some (.integer value))) nofun (fun _ => rfl) fun state _ hr =>
    State.after_number h hr state

/-! ## Arrays and objects -/

theorem ends_nil : Ends [] := nofun

theorem ends_cons {c : Char} (h : prolongs c = false) (cs : List Char) : Ends (c :: cs) := by
  rintro _ ⟨⟩
  exact h

/-- How the things after the first one are written: each with a comma and a gap before it, and
    after the last one another gap and a closing mark. -/
structure Listed {α : Type} (gap last : List Char) (mark : Char) (spell : α → List Char)
    (text : List α → List Char) : Prop where
  /-- There are only blanks between the things. -/
  gap_blank : Blank gap
  /-- There are only blanks before the mark. -/
  last_blank : Blank last
  /-- After the last thing comes the mark. -/
  nil : text [] = last ++ [mark]
  /-- Before another thing comes a comma. -/
  cons (a : α) (l : List α) : text (a :: l) = ',' :: gap ++ spell a ++ text l

section Containers

variable {gap last space rest : List Char} {spell : Value → List Char} {stack : List Frame}

theorem Listed.ends {α : Type} {mark : Char} {spell : α → List Char} {text : List α → List Char}
    (hl : Listed gap last mark spell text) (hm : prolongs mark = false) (l : List α)
    (rest : List Char) : Ends (text l ++ rest) := by
  rcases l with _ | ⟨a, l⟩
  · rw [hl.nil]
    rcases last with _ | ⟨c, last⟩
    · exact ends_cons hm rest
    · exact ends_cons (prolongs_of_isBlank (hl.last_blank c List.mem_cons_self)) _
  · rw [hl.cons]
    exact ends_cons rfl _

/-- The items after the first are met in order, up to the end of the array. The items that are
    `done` are in reverse order. -/
theorem after_items {text : List Value → List Char} (hl : Listed gap last ']' spell text)
    {items : List Value} (h : ∀ item ∈ items, Met (spell item) item.tree) (done : List Tree) :
    (State.afterItem done stack).after (text items ++ rest) =
      (deliver (.array (done.reverse ++ Value.treeItems items) .closed) stack).after rest := by
  induction items generalizing done with
  | nil =>
    rw [hl.nil, List.append_assoc, State.after_blanks hl.last_blank, Value.treeItems,
      List.append_nil]
    exact State.after_token rfl rfl _
  | cons item items ih =>
    rw [hl.cons]
    simp only [List.append_assoc, List.cons_append]
    -- The comma, the gap and the item, then the others with one more item done.
    rw [State.after_token (c := ',') rfl rfl, State.step, State.after_blanks hl.gap_blank,
      h item List.mem_cons_self (.nextItem done stack) (hl.ends rfl items rest), deliver,
      ih fun item hi => h item (List.mem_cons_of_mem _ hi)]
    simp [Value.treeItems]

theorem Met.array {text : List Value → List Char} (hl : Listed gap last ']' spell text)
    {item : Value} {items : List Value} (h : ∀ i ∈ item :: items, Met (spell i) i.tree) :
    Met ('[' :: gap ++ spell item ++ text items) (Value.array (item :: items)).tree := by
  intro state stack rest hs hr
  simp only [List.append_assoc, List.cons_append]
  rw [State.after_token (c := '[') rfl rfl, hs.step .beginArray nofun, State.begin,
    State.after_blanks hl.gap_blank,
    h item List.mem_cons_self (.firstItem stack) (hl.ends rfl items rest), deliver,
    after_items hl fun i hi => h i (List.mem_cons_of_mem _ hi)]
  rfl

/-- A field is met by a reader who takes a string for its key. -/
theorem after_field (state : State) {key : String} {cs : List Char} {tree : Tree}
    {fields : List (Text × Tree)}
    (hstep : state.step (.text (.of key)) = .colon fields (.of key) stack)
    (hs : Blank space) (h : Met cs tree) (hr : Ends rest) :
    state.after (quote key ++ ':' :: space ++ cs ++ rest) =
      (State.afterField ((.of key, tree) :: fields) stack).after rest := by
  simp only [List.append_assoc, List.cons_append]
  -- After the colon a value is expected inside of this field.
  rw [State.after_quote, hstep, State.after_token (c := ':') rfl rfl, State.step,
    State.after_blanks hs, h (.value _) hr, deliver]

/-- The fields after the first are met in order, up to the end of the object. The fields that are
    `done` are in reverse order. -/
theorem after_fields {text : List (String × Value) → List Char}
    (hl : Listed gap last '\x7d' (fun field => quote field.1 ++ ':' :: space ++ spell field.2) text)
    (hs : Blank space)
    {fields : List (String × Value)} (h : ∀ field ∈ fields, Met (spell field.2) field.2.tree)
    (done : List (Text × Tree)) :
    (State.afterField done stack).after (text fields ++ rest) =
      (deliver (.object (done.reverse ++ Value.treeFields fields) none) stack).after rest := by
  induction fields generalizing done with
  | nil =>
    rw [hl.nil, List.append_assoc, State.after_blanks hl.last_blank, Value.treeFields,
      List.append_nil]
    exact State.after_token rfl rfl _
  | cons field fields ih =>
    rw [hl.cons, List.append_assoc, List.append_assoc, List.cons_append,
      State.after_token (c := ',') rfl rfl, State.step, State.after_blanks hl.gap_blank,
      after_field (.nextKey done stack) rfl hs (h field List.mem_cons_self)
        (hl.ends rfl fields rest),
      ih fun field hf => h field (List.mem_cons_of_mem _ hf)]
    simp [Value.treeFields]

theorem Met.object {text : List (String × Value) → List Char}
    (hl : Listed gap last '\x7d' (fun field => quote field.1 ++ ':' :: space ++ spell field.2) text)
    (hs : Blank space)
    {field : String × Value} {fields : List (String × Value)}
    (h : ∀ f ∈ field :: fields, Met (spell f.2) f.2.tree) :
    Met ('\x7b' :: gap ++ (quote field.1 ++ ':' :: space ++ spell field.2) ++ text fields)
      (Value.object (field :: fields)).tree := by
  intro state stack rest ha hr
  rw [List.append_assoc, List.append_assoc, List.cons_append,
    State.after_token (c := '\x7b') rfl rfl, ha.step .beginObject nofun, State.begin,
    State.after_blanks hl.gap_blank,
    after_field (.firstKey stack) rfl hs (h field List.mem_cons_self) (hl.ends rfl fields rest),
    after_fields hl hs fun f hf => h f (List.mem_cons_of_mem _ hf)]
  rfl

theorem met_array_nil : Met ['[', ']'] (Value.array []).tree := by
  intro state stack rest hs _
  simp only [List.cons_append, List.nil_append]
  rw [State.after_token (c := '[') rfl rfl, hs.step .beginArray nofun]
  exact State.after_token rfl rfl _

theorem met_object_nil : Met ['\x7b', '\x7d'] (Value.object []).tree := by
  intro state stack rest hs _
  simp only [List.cons_append, List.nil_append]
  rw [State.after_token (c := '\x7b') rfl rfl, hs.step .beginObject nofun]
  exact State.after_token rfl rfl _

end Containers

/-! ## Values -/

/-- The values that hold no number but whole ones of 64 bits. -/
inductive Value.Exact : Value → Prop
  | null : Exact .null
  | bool (value : Bool) : Exact (.bool value)
  | text (value : String) : Exact (.text value)
  | integer {value : Int} (h : Whole value) : Exact (.number (.integer value))
  | array {items : List Value} (h : ∀ item ∈ items, Exact item) : Exact (.array items)
  | object {fields : List (String × Value)} (h : ∀ field ∈ fields, Exact field.2) :
      Exact (.object fields)

namespace Value

theorem listed_compactItems : Listed [] [] ']' compact (compactItems false) where
  gap_blank := nofun
  last_blank := nofun
  nil := rfl
  cons _ _ := rfl

theorem listed_compactFields :
    Listed [] [] '\x7d' (fun field => quote field.1 ++ ':' :: [] ++ compact field.2)
      (compactFields false) where
  gap_blank := nofun
  last_blank := nofun
  nil := rfl
  cons field fields := by simp [compactFields]

theorem blank_newLine (level : Nat) : Blank (newLine level) := by
  intro c hc
  rcases List.mem_cons.1 hc with rfl | hc
  · rfl
  · rw [List.eq_of_mem_replicate hc]
    rfl

theorem listed_prettyItems (level : Nat) :
    Listed (newLine (level + 1)) (newLine level) ']' (prettyAt (level + 1))
      (prettyItems level) where
  gap_blank := blank_newLine (level + 1)
  last_blank := blank_newLine level
  nil := rfl
  cons _ _ := rfl

theorem listed_prettyFields (level : Nat) :
    Listed (newLine (level + 1)) (newLine level) '\x7d'
      (fun field => quote field.1 ++ ':' :: [' '] ++ prettyAt (level + 1) field.2)
      (prettyFields level) where
  gap_blank := blank_newLine (level + 1)
  last_blank := blank_newLine level
  nil := rfl
  cons field fields := by simp [prettyFields]

namespace Exact

variable {value : Value}

theorem met_compact (h : value.Exact) : Met value.compact value.tree := by
  induction h with
  | null => exact met_null
  | bool value =>
    rcases value
    · exact met_false
    · exact met_true
  | text value => exact met_quote value
  | integer h => exact met_number h
  | @array items _ ih =>
    rcases items with _ | ⟨item, items⟩
    · exact met_array_nil
    · exact Met.array listed_compactItems ih
  | @object fields _ ih =>
    rcases fields with _ | ⟨field, fields⟩
    · exact met_object_nil
    · have hm := Met.object listed_compactFields nofun ih
      simpa [compact, compactFields] using hm

/-- The level of nesting only counts for the blanks. -/
theorem met_prettyAt (h : value.Exact) (level : Nat) : Met (value.prettyAt level) value.tree := by
  induction h generalizing level with
  | null => exact met_null
  | bool value =>
    rcases value
    · exact met_false
    · exact met_true
  | text value => exact met_quote value
  | integer h => exact met_number h
  | @array items _ ih =>
    rcases items with _ | ⟨item, items⟩
    · exact met_array_nil
    · exact Met.array (listed_prettyItems level) fun item hi => ih item hi (level + 1)
  | @object fields _ ih =>
    rcases fields with _ | ⟨field, fields⟩
    · exact met_object_nil
    · have hm := Met.object (listed_prettyFields level) (by simp [Blank, isBlank])
        fun field hf => ih field hf (level + 1)
      simpa [prettyAt] using hm

end Exact

theorem treeItems_eq_map (items : List Value) : treeItems items = items.map tree := by
  induction items with
  | nil => rfl
  | cons item items ih => rw [treeItems, ih, List.map_cons]

theorem treeFields_eq_map (fields : List (String × Value)) :
    treeFields fields = fields.map fun field => (.of field.1, field.2.tree) := by
  induction fields with
  | nil => rfl
  | cons field fields ih => rw [treeFields, ih, List.map_cons]

end Value

/-- A reader of a whole text meets a value at its beginning and nothing after it. -/
theorem Met.reading {cs : List Char} {tree : Tree} (h : Met cs tree) :
    Reading.of (String.ofList cs) = ⟨tree, false⟩ := by
  -- Nothing is open around a whole text, so nothing more is expected after the value.
  have hs : (tokens cs).foldl State.step (.value []) = .done tree false := by
    have hm := h (.value []) ends_nil
    rwa [List.append_nil, State.after_nil] at hm
  rw [Reading.of, Reading.ofTokens, String.toList_ofList, hs]
  rfl

namespace Value.Exact

variable {value : Value}

theorem reading_compact (h : value.Exact) : Reading.of value.compactText = ⟨value.tree, false⟩ :=
  h.met_compact.reading

theorem reading_pretty (h : value.Exact) : Reading.of value.prettyText = ⟨value.tree, false⟩ :=
  (h.met_prettyAt 0).reading

end Value.Exact

end SlotDispatch.Json
