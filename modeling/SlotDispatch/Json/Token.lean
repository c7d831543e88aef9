import SlotDispatch.Json.Number

/-!
# The tokens of a JSON text

A JSON text is cut into tokens: marks, words, numbers and strings, with blanks between them. A
text that is not well-formed has tokens too, up to the place where nothing more can be made out of
it. Its faults are kept inside the tokens, since they only count when somebody reads that far.

Two readers look at a string. A reader who wants its value decodes it, and does not accept an
escaped surrogate that stands alone. A reader who only wants to get past it does not mind those.
So a token of a string holds both what its value is (`Text.decoded`) and whether it can be passed
(`Text.ending`). The same holds for numbers: one that is too large has no value but can be passed.
-/

namespace SlotDispatch.Json

/-- What can be wrong with a text. -/
inductive Fault where
  /-- A character cannot stand where it stands. -/
  | malformed
  /-- The text ends too early. -/
  | endOfText
deriving DecidableEq

/-- A string as it was met in a text. -/
structure Text where
  /-- Its value. -/
  decoded : Except Fault String
  /-- What prevents a reader from getting past it. -/
  ending : Option Fault

/-- The string with this value. -/
def Text.of (value : String) : Text := ⟨.ok value, none⟩

/-- The words that are values. -/
inductive Word where
  /-- No value. -/
  | null
  /-- A truth value. -/
  | bool (value : Bool)
deriving DecidableEq

/-- A token. -/
inductive Token where
  /-- An opening brace. -/
  | beginObject
  /-- A closing brace. -/
  | endObject
  /-- An opening bracket. -/
  | beginArray
  /-- A closing bracket. -/
  | endArray
  /-- A colon. -/
  | colon
  /-- A comma. -/
  | comma
  /-- A word. -/
  | word (word : Word)
  /-- A number, or none if it is too large. -/
  | number (value : Option Number)
  /-- A number that breaks off, with the fault that a reader of its value meets. -/
  | badNumber (fault : Fault)
  /-- A string. -/
  | text (text : Text)
  /-- Anything else. -/
  | broken (fault : Fault)

/-! ## Strings -/

/-- A piece of the inside of a string. -/
inductive Piece where
  /-- A character, written as it is or as a short escape. -/
  | char (c : Char)
  /-- An escape by number, of a character or half of one. -/
  | unit (code : Nat)
deriving DecidableEq

/-- The value of a hexadecimal digit. -/
def hexDigit? (c : Char) : Option Nat :=
  if '0' ≤ c ∧ c ≤ '9' then some (c.toNat - '0'.toNat)
  else if 'a' ≤ c ∧ c ≤ 'f' then some (c.toNat - 'a'.toNat + 10)
  else if 'A' ≤ c ∧ c ≤ 'F' then some (c.toNat - 'A'.toNat + 10)
  else none

/-- The number with these hexadecimal digits. -/
def hexValue? (digits : List Char) : Option Nat :=
  digits.foldlM (fun value c => (hexDigit? c).map (16 * value + ·)) 0

/-- The character that is meant by a backslash and `c`. -/
def unescape? : Char → Option Char
  | '"' => some '"'
  | '\\' => some '\\'
  | '/' => some '/'
  | 'b' => some '\x08'
  | 'f' => some '\x0c'
  | 'n' => some '\n'
  | 'r' => some '\r'
  | 't' => some '\t'
  | _ => none

/-- What is wrong with an escape by number whose digits should begin `rest`: the text has ended if
    fewer than four bytes are left. -/
def unitFault (rest : List Char) : Fault :=
  if (String.ofList rest).utf8ByteSize < 4 then .endOfText else .malformed

/-- Adds a piece in front of the result of a scan. -/
def addPiece (piece : Piece) (scan : List Piece × Option Fault × List Char) :
    List Piece × Option Fault × List Char :=
  (piece :: scan.1, scan.2)

/-- The pieces up to the closing quote, what is wrong if there is none, and what is left after it.
    A control character must be escaped. -/
def scanPieces : List Char → List Piece × Option Fault × List Char
  | [] => ([], some .endOfText, [])
  | '"' :: rest => ([], none, rest)
  | ['\\'] => ([], some .endOfText, [])
  | '\\' :: 'u' :: a :: b :: c :: d :: rest =>
    match hexValue? [a, b, c, d] with
    | some code => addPiece (.unit code) (scanPieces rest)
    | none => ([], some .malformed, [])
  | '\\' :: 'u' :: rest => ([], some (unitFault rest), [])
  | '\\' :: c :: rest =>
    match unescape? c with
    | some c => addPiece (.char c) (scanPieces rest)
    | none => ([], some .malformed, [])
  | c :: rest =>
    if c < ' ' then ([], some .malformed, []) else addPiece (.char c) (scanPieces rest)

/-- Whether a code is the first half of a character. -/
def isLeading (code : Nat) : Bool := 0xD800 ≤ code && code < 0xDC00

/-- Whether a code is the second half of a character. -/
def isTrailing (code : Nat) : Bool := 0xDC00 ≤ code && code < 0xE000

/-- The character with these two halves. -/
def joinHalves (leading trailing : Nat) : Char :=
  Char.ofNat (0x10000 + (leading - 0xD800) * 0x400 + (trailing - 0xDC00))

/-- The characters of some pieces. After the pieces comes the closing quote, or else `fault`. -/
def decodePieces (fault : Option Fault) : List Piece → Except Fault (List Char)
  | [] =>
    match fault with
    | none => .ok []
    | some fault => .error fault
  | .char c :: pieces => return c :: (← decodePieces fault pieces)
  | .unit leading :: .unit trailing :: pieces =>
    if isLeading leading then
      if isTrailing trailing then
        return joinHalves leading trailing :: (← decodePieces fault pieces)
      else .error .malformed
    else if isTrailing leading then .error .malformed
    else return Char.ofNat leading :: (← decodePieces fault (.unit trailing :: pieces))
  | .unit code :: pieces =>
    if isLeading code then
      match pieces, fault with
      | [], some fault => .error fault
      | _, _ => .error .malformed
    else if isTrailing code then .error .malformed
    else return Char.ofNat code :: (← decodePieces fault pieces)

/-- The string that begins after an opening quote, and what is left after it. -/
def scanText (cs : List Char) : Text × List Char :=
  let (pieces, fault, rest) := scanPieces cs
  (⟨(decodePieces fault pieces).map String.ofList, fault⟩, rest)

/-! ## Numbers and words -/

/-- At least one digit, and what is left after the digits. -/
def scanDigits (cs : List Char) : Except Fault (List Char × List Char) :=
  match cs.takeWhile Char.isDigit with
  | [] => .error (if cs = [] then .endOfText else .malformed)
  | digits => .ok (digits, cs.dropWhile Char.isDigit)

/-- The part of a number after the point, if there is one, and what is left after it. -/
def scanFraction : List Char → Except Fault (Option (List Char) × List Char)
  | '.' :: cs => do
    let (digits, rest) ← scanDigits cs
    return (some digits, rest)
  | cs => .ok (none, cs)

/-- The sign of an exponent, which is optional, and what is left after it. -/
def scanSign : List Char → Bool × List Char
  | '-' :: cs => (true, cs)
  | '+' :: cs => (false, cs)
  | cs => (false, cs)

/-- The exponent of a number, if there is one, and what is left after it. -/
def scanExponent : List Char → Except Fault (Option (Bool × List Char) × List Char)
  | [] => .ok (none, [])
  | c :: cs =>
    if c = 'e' ∨ c = 'E' then do
      let (negative, cs) := scanSign cs
      let (digits, rest) ← scanDigits cs
      return (some (negative, digits), rest)
    else .ok (none, c :: cs)

/-- The number whose whole part has these digits, and what is left after it. The only number that
    begins with a zero is zero itself. -/
def scanNumber (negative : Bool) (whole rest : List Char) : Except Fault (Literal × List Char) := do
  if whole = [] then throw (if rest = [] then .endOfText else .malformed)
  if whole.head? = some '0' ∧ 1 < whole.length then throw .malformed
  let (fraction, rest) ← scanFraction rest
  let (exponent, rest) ← scanExponent rest
  return (⟨negative, whole, fraction, exponent⟩, rest)

/-- The token of a number, and what is left after it. -/
def numberToken (negative : Bool) (whole rest : List Char) : Token × List Char :=
  match scanNumber negative whole rest with
  | .ok (literal, rest) => (.number literal.number?, rest)
  | .error fault => (.badNumber fault, [])

/-- What is left of a text that begins with `expected`. -/
def scanWord : List Char → List Char → Except Fault (List Char)
  | [], cs => .ok cs
  | _ :: _, [] => .error .endOfText
  | e :: expected, c :: cs => if e = c then scanWord expected cs else .error .malformed

/-- The token of a word, of which the characters `expected` are still to come, and what is left
    after it. -/
def wordToken (word : Word) (expected cs : List Char) : Token × List Char :=
  match scanWord expected cs with
  | .ok rest => (.word word, rest)
  | .error fault => (.broken fault, [])

/-! ## The tokens of a text -/

/-- The blanks that may stand between tokens. -/
def isBlank (c : Char) : Bool := c = ' ' || c = '\n' || c = '\t' || c = '\r'

/-- The token that begins with `c`, and what is left after it. -/
def scanToken (c : Char) (rest : List Char) : Token × List Char :=
  match c with
  | '\x7b' => (.beginObject, rest)
  | '\x7d' => (.endObject, rest)
  | '[' => (.beginArray, rest)
  | ']' => (.endArray, rest)
  | ':' => (.colon, rest)
  | ',' => (.comma, rest)
  | '"' =>
    let (text, rest) := scanText rest
    (.text text, rest)
  | 'n' => wordToken .null ['u', 'l', 'l'] rest
  | 't' => wordToken (.bool true) ['r', 'u', 'e'] rest
  | 'f' => wordToken (.bool false) ['a', 'l', 's', 'e'] rest
  | '-' => numberToken true (rest.takeWhile Char.isDigit) (rest.dropWhile Char.isDigit)
  | c =>
    if c.isDigit then
      numberToken false (c :: rest.takeWhile Char.isDigit) (rest.dropWhile Char.isDigit)
    else (.broken .malformed, [])

theorem length_scanPieces_le (cs : List Char) : (scanPieces cs).2.2.length ≤ cs.length := by
  fun_induction scanPieces cs <;> simp_all [addPiece] <;> omega

theorem length_dropWhile_le {p : Char → Bool} (cs : List Char) :
    (cs.dropWhile p).length ≤ cs.length :=
  (List.dropWhile_suffix p).length_le

theorem length_scanDigits_le {cs digits rest : List Char}
    (h : scanDigits cs = .ok (digits, rest)) : rest.length ≤ cs.length := by
  unfold scanDigits at h
  split at h
  · cases h
  · cases h
    exact length_dropWhile_le cs

theorem length_scanSign_le (cs : List Char) : (scanSign cs).2.length ≤ cs.length := by
  unfold scanSign
  split <;> simp

theorem length_scanFraction_le {cs rest : List Char} {digits : Option (List Char)}
    (h : scanFraction cs = .ok (digits, rest)) : rest.length ≤ cs.length := by
  unfold scanFraction at h
  split at h
  · rename_i cs
    cases hd : scanDigits cs with
    | error => simp [hd, bind, Except.bind] at h
    | ok r =>
      simp only [hd, bind, Except.bind, pure, Except.pure] at h
      cases h
      have := length_scanDigits_le hd
      simp only [List.length_cons]
      omega
  · cases h
    exact Nat.le_refl _

theorem length_scanExponent_le {cs rest : List Char} {exponent : Option (Bool × List Char)}
    (h : scanExponent cs = .ok (exponent, rest)) : rest.length ≤ cs.length := by
  unfold scanExponent at h
  split at h
  · cases h
    exact Nat.le_refl _
  · rename_i c cs
    split at h
    · cases hd : scanDigits (scanSign cs).2 with
      | error => simp [hd, bind, Except.bind] at h
      | ok r =>
        simp only [hd, bind, Except.bind, pure, Except.pure] at h
        cases h
        have := length_scanDigits_le hd
        have := length_scanSign_le cs
        simp only [List.length_cons]
        omega
    · cases h
      exact Nat.le_refl _

theorem length_scanNumber_le {negative : Bool} {whole cs rest : List Char} {literal : Literal}
    (h : scanNumber negative whole cs = .ok (literal, rest)) : rest.length ≤ cs.length := by
  unfold scanNumber at h
  simp only [bind, Except.bind, pure, Except.pure, throw, throwThe, MonadExceptOf.throw] at h
  split at h
  · cases h
  · split at h
    · cases h
    · cases hf : scanFraction cs with
      | error => simp [hf] at h
      | ok f =>
        cases he : scanExponent f.2 with
        | error => simp [hf, he] at h
        | ok e =>
          simp only [hf, he] at h
          cases h
          exact Nat.le_trans (length_scanExponent_le he) (length_scanFraction_le hf)

theorem length_scanWord_le {expected cs rest : List Char}
    (h : scanWord expected cs = .ok rest) : rest.length ≤ cs.length := by
  fun_induction scanWord expected cs with
  | case1 => simp_all
  | case2 => cases h
  | case3 e expected cs ih =>
    have := ih h
    simp only [List.length_cons]
    omega
  | case4 => cases h

theorem length_numberToken_le (negative : Bool) (whole cs : List Char) :
    (numberToken negative whole cs).2.length ≤ cs.length := by
  unfold numberToken
  split
  · exact length_scanNumber_le ‹_›
  · exact Nat.zero_le _

theorem length_wordToken_le (word : Word) (expected cs : List Char) :
    (wordToken word expected cs).2.length ≤ cs.length := by
  unfold wordToken
  split
  · exact length_scanWord_le ‹_›
  · exact Nat.zero_le _

/-- A token takes at least one character. -/
theorem length_scanToken_le (c : Char) (rest : List Char) :
    (scanToken c rest).2.length ≤ rest.length := by
  unfold scanToken
  split
  case h_7 => exact length_scanPieces_le rest
  case h_8 | h_9 | h_10 => exact length_wordToken_le _ _ rest
  case h_11 => exact Nat.le_trans (length_numberToken_le _ _ _) (length_dropWhile_le rest)
  case h_12 =>
    split
    · exact Nat.le_trans (length_numberToken_le _ _ _) (length_dropWhile_le rest)
    · exact Nat.zero_le _
  all_goals exact Nat.le_refl _

/-- The tokens of a text, up to its end or to something that is no token. -/
def tokens : List Char → List Token
  | [] => []
  | c :: rest =>
    if isBlank c then tokens rest
    else (scanToken c rest).1 :: tokens (scanToken c rest).2
termination_by cs => cs.length
decreasing_by
  · simp
  · have := length_scanToken_le c rest
    simp only [List.length_cons]
    omega

end SlotDispatch.Json
