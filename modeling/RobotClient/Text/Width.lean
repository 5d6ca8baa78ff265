import RobotClient.Text.WidthTable

set_option autoImplicit false

/-! # Width on a terminal

How many columns a text takes. A character on its own takes two columns if it is ideographic or an
emoji, none if it combines with the one before it, and one otherwise. Some characters are shown
together and take less, or more, than each on its own: an emoji with its selectors, skin color and
joined emoji, the letters of a flag, the ligatures of some scripts.

What is shown together is decided by its last character, so a text is measured from its end: each
character meets what the characters after it have left to be joined, its `Tail`. -/

namespace RobotClient.Text

/-! ## What is left to be joined -/

/-- A letter that a letter before it may merge with, or be joined to by a joiner. -/
inductive Ligature where
  | lamed
  | ya
  | yaWithVowel
  | coengLetter
  | tifinagh
  | tifinaghJoined
  | toneLetter
  | orkhonI
deriving DecidableEq, Repr

/-- The front of what follows a character, as far as the character may join it. -/
inductive Tail where
  /-- Nothing that can be joined. -/
  | plain
  | lineFeed
  | skinTone
  /-- One letter of a flag. -/
  | indicator
  /-- Two letters of a flag or more. -/
  | indicators
  | emoji
  /-- A joiner and an emoji. -/
  | joinedEmoji
  /-- The frame of a key, before a joiner and an emoji. -/
  | joinedKey
  /-- One letter of a flag, before a joiner and an emoji. -/
  | joinedIndicator
  /-- Letters of flags before a joiner and an emoji: all of them in pairs, or one left over. -/
  | joinedIndicators (inPairs : Bool)
  /-- Tag letters, so many, up to the end of a tag before a joiner and an emoji. -/
  | tagLetters (count : Nat)
  /-- Tag digits, so many, in front of such letters. -/
  | tagDigits (count : Nat)
  | alef
  | kiratVowel
  | kiratLongVowel
  /-- The last letter of a ligature; `joined` if a joiner stands before it. -/
  | ligature (letter : Ligature) (joined : Bool)
deriving DecidableEq, Repr, Inhabited

/-- A character that chooses the form of the one before it. -/
inductive Selector where
  | emoji
  | text
  | wide
deriving DecidableEq, Repr

/-- What follows a character: a selector for it, if one is there, and the tail behind. -/
structure Following where
  tail : Tail
  selector : Option Selector
deriving DecidableEq, Repr, Inhabited

namespace Tail

/-- Whether it is the last letter of a ligature. -/
def isLetter : Tail → Bool
  | .alef | .ligature .. => true
  | _ => false

/-- Whether it stays to be joined when a selector comes before it. -/
def keepsBefore (s : Selector) : Tail → Bool
  | .joinedEmoji | .joinedKey => s = .emoji
  | tail => tail.isLetter

end Tail

namespace Following

/-- The end of a text, or what cannot be joined. -/
def nothing : Following := ⟨.plain, none⟩

/-- A tail with no selector before it. -/
def unselected (tail : Tail) : Following := ⟨tail, none⟩

/-- What is left to be joined once the selector has found nothing to choose for. -/
def tailLeft (f : Following) : Tail :=
  if f.selector.isNone || f.tail.isLetter then f.tail else .plain

/-- A tail after a selector was put before it. -/
def withSelector (s : Selector) (tail : Tail) : Following :=
  ⟨if tail.keepsBefore s then tail else .plain, some s⟩

end Following

/-! ## Characters -/

/-- Whether a character is one of a range of code points. -/
def isBetween (lo hi : Nat) (c : Char) : Bool := lo ≤ c.toNat && c.toNat ≤ hi

/-- Whether a character joins the two around it. -/
def isJoiner (c : Char) : Bool := c.toNat = 0x200D

/-- Whether a character is a letter of a flag. -/
def isIndicator : Char → Bool := isBetween 0x1F1E6 0x1F1FF

/-- Whether a character colors the emoji before it. -/
def isSkinTone : Char → Bool := isBetween 0x1F3FB 0x1F3FF

/-- Whether a character is a letter of a tag. -/
def isTagLetter : Char → Bool := isBetween 0xE0061 0xE007A

/-- Whether a character is a digit of a tag. -/
def isTagDigit : Char → Bool := isBetween 0xE0030 0xE0039

/-- The selector that a character is. -/
def selectorOf? (c : Char) : Option Selector :=
  if c.toNat = 0xFE0F then some .emoji
  else if c.toNat = 0xFE0E then some .text
  else if c.toNat = 0xFE01 then some .wide
  else none

/-- Whether a selector can give an emoji the narrow form of text. The ideographs in squares stay
    wide. -/
def hasNarrowForm (c : Char) : Bool :=
  emojis.contains c && emojiStarts.contains c && !isBetween 0x1F200 0x1F2FF c

/-- Whether a character is a quotation mark that has a wide form. -/
def hasWideForm (c : Char) : Bool := isBetween 0x2018 0x2019 c || isBetween 0x201C 0x201D c

/-- The columns that a character takes on its own. -/
def charWidth (c : Char) : Nat :=
  if c.toNat ≤ 0xA0 then 1
  else if zeroWidths.contains c then 0
  else if c.toNat = 0x17D8 then 3
  else if c.toNat = 0x115F || c.toNat = 0x17A4 then 2
  else if wides.contains c then 2
  else 1

/-- What a character leaves to be joined when it joins nothing itself. -/
def tailOf (c : Char) : Tail :=
  if c = '\n' then .lineFeed
  else if c.toNat ≤ 0xA0 then .plain
  else if isSkinTone c then .skinTone
  else if isIndicator c then .indicator
  else if emojis.contains c then .emoji
  else if alefs.contains c then .alef
  else if tifinaghConsonants.contains c then .ligature .tifinagh false
  else if coengLetters.contains c then .ligature .coengLetter false
  else if c.toNat = 0x05DC then .ligature .lamed false
  else if c.toNat = 0x1A10 then .ligature .ya false
  else if isBetween 0xA4FC 0xA4FD c then .ligature .toneLetter false
  else if c.toNat = 0x10C03 then .ligature .orkhonI false
  else if c.toNat = 0x16D67 then .kiratVowel
  else if c.toNat = 0x16D68 then .kiratLongVowel
  else .plain

/-! ## Joining

Each of these gives the columns that a character adds in front of its tail, and the new tail; the
columns are negative where the two together take less than the tail was counted for. -/

/-- A letter before the last letter of a ligature. -/
def joinLetter? (c : Char) (letter : Ligature) (joined : Bool) : Option (Int × Tail) :=
  if isJoiner c then some (0, .ligature letter true)
  else if hiddenMarks.contains c then some (0, .ligature letter joined)
  else
    match letter with
    | .lamed => if joined && c.toNat = 0x05D0 then some (0, .plain) else none
    | .ya => if joined && c.toNat = 0x1A17 then some (0, .ligature .yaWithVowel true) else none
    | .yaWithVowel => if c.toNat = 0x1A15 then some (0, .plain) else none
    | .coengLetter => if c.toNat = 0x17D2 then some (-1, .plain) else none
    | .tifinagh =>
      if c.toNat = 0x2D7F then some (1, .ligature .tifinaghJoined true)
      else if joined && tifinaghConsonants.contains c then some (0, .plain)
      else none
    | .tifinaghJoined => if tifinaghConsonants.contains c then some (-1, .plain) else none
    | .toneLetter => if isBetween 0xA4F8 0xA4FB c then some (0, .plain) else none
    | .orkhonI => if joined && c.toNat = 0x10C32 then some (0, .plain) else none

/-- A character before a joiner and an emoji. -/
def joinEmoji? (c : Char) : Option (Int × Tail) :=
  if c.toNat = 0x20E3 then some (0, .joinedKey)
  else if isIndicator c then some (1, .joinedIndicator)
  else if isSkinTone c then some (0, .skinTone)
  else if c.toNat = 0xE007F then some (0, .tagLetters 0)
  else if tailOf c = .emoji then some (0, .emoji)
  else none

/-- A character before letters or digits of a tag. A tag ends three letters or more, or three
    digits, after a black flag. -/
def joinTag? (c : Char) (letters digits : Nat) : Option (Int × Tail) :=
  if digits = 0 && isTagLetter c then
    if letters < 6 then some (0, .tagLetters (letters + 1)) else none
  else if isTagDigit c then
    if digits < 3 && letters < 5 then some (0, .tagDigits (digits + 1)) else none
  else if c.toNat = 0x1F3F4 && (digits = 3 || (digits = 0 && 3 ≤ letters)) then some (0, .emoji)
  else none

/-- A character that joins its tail; `none` if it does not. -/
def join? (c : Char) : Tail → Option (Int × Tail)
  | .plain | .lineFeed => none
  | .skinTone =>
    if emojiBases.contains c then some (0, .emoji)
    else if isJoiner c then some (0, .joinedEmoji)
    else none
  | .indicator => if isIndicator c then some (1, .indicators) else none
  | .indicators =>
    if isIndicator c then some (1, .indicators)
    else if isJoiner c then some (0, .joinedEmoji)
    else none
  | .emoji => if isJoiner c then some (0, .joinedEmoji) else none
  | .joinedEmoji => joinEmoji? c
  | .joinedKey => none
  | .joinedIndicator => if isIndicator c then some (-1, .joinedIndicators true) else none
  | .joinedIndicators inPairs =>
    if isIndicator c then some (if inPairs then 3 else -1, .joinedIndicators !inPairs)
    else if isJoiner c then some (0, .joinedEmoji)
    else none
  | .tagLetters count => joinTag? c count 0
  | .tagDigits count => joinTag? c 0 count
  | .alef =>
    if lams.contains c then some (0, .plain)
    else if transparentMarks.contains c then some (0, .alef)
    else none
  | .kiratVowel =>
    if c.toNat = 0x16D63 || c.toNat = 0x16D69 then some (0, .plain)
    else if c.toNat = 0x16D67 then some (0, .kiratLongVowel)
    else if c.toNat = 0x16D68 then some (1, .kiratVowel)
    else none
  | .kiratLongVowel => if c.toNat = 0x16D63 then some (0, .plain) else none
  | .ligature letter joined => joinLetter? c letter joined

/-- A character in the form that the selector behind it chooses; `none` if it has no such form. -/
def select? (c : Char) (f : Following) : Option (Int × Tail) :=
  match f.selector with
  | none => none
  | some .emoji =>
    if emojiStarts.contains c then
      some (if f.tail = .joinedEmoji || f.tail = .joinedKey then 0 else 2, .emoji)
    else none
  | some .text => if hasNarrowForm c then some (1, .plain) else none
  | some .wide => if hasWideForm c then some (2, .plain) else none

/-! ## Measuring -/

/-- The columns that a character adds in front of what follows it, and what it leaves to be
    joined. -/
def measureBefore (c : Char) (f : Following) : Int × Following :=
  match select? c f with
  | some (columns, tail) => (columns, .unselected tail)
  | none =>
    let tail := f.tailLeft
    if c = '\r' && tail = .lineFeed then (0, .nothing)
    else
      match selectorOf? c with
      | some s => (0, .withSelector s tail)
      | none =>
        match if c.toNat ≤ 0xA0 then none else join? c tail with
        | some (columns, tail) => (columns, .unselected tail)
        | none => (charWidth c, .unselected (tailOf c))

/-- The columns of a text, and what it leaves to be joined before it. -/
def measure (cs : List Char) : Int × Following :=
  cs.foldr (fun c (columns, f) =>
    let (more, f) := measureBefore c f
    (columns + more, f)) (0, .nothing)

/-- The columns that a text takes. -/
def width (s : String) : Nat := (measure s.toList).1.toNat

end RobotClient.Text
