import Mathlib
import RobotClient.Error

set_option autoImplicit false

/-! # Tokens can be read off a message

A message lists tokens between brackets, each between quotes, and a token may hold any of these
marks itself. A reader that goes through the characters once knows at each where it stands
(`TokenPlace`), and every place is reached by one text only
(`TokenPlace.foldlM_next?_eq_some_iff`). So a text lists tokens in one way at most, and it can be
told from a message which tokens it is about. Main statement: `tokenList_identifies`. -/

namespace RobotClient

/-! ## Escaping -/

/-- The characters with a backslash in front of each one that is `mark`. -/
def backslashed (mark : Char) (cs : List Char) : List Char :=
  cs.flatMap fun c => if c = mark then ['\\', c] else [c]

/-- To escape a token is to do so with its backslashes, and then with its quotes. -/
theorem flatMap_escapeToken (cs : List Char) :
    cs.flatMap escapeToken = backslashed '\'' (backslashed '\\' cs) := by
  rw [backslashed, backslashed, List.flatMap_assoc]
  refine List.flatMap_congr fun c _ => ?_
  by_cases hbackslash : c = '\\'
  · subst hbackslash
    rfl
  · by_cases hquote : c = '\'' <;> simp [escapeToken, hbackslash, hquote]

theorem toList_quoteToken (token : String) :
    (quoteToken token).toList = '\'' :: token.toList.flatMap escapeToken ++ ['\''] := by
  rw [quoteToken, String.toList_ofList]

/-! ## Places in a list of tokens -/

/-- Where in a list of tokens a reader stands. A separator follows each token of `before`. -/
inductive TokenPlace where
  | start
  /-- Behind the bracket. -/
  | opened
  /-- In a token, of which `held` has been read. -/
  | inside (before : List String) (held : List Char)
  /-- In a token, behind a backslash that escapes the next character. -/
  | escaped (before : List String) (held : List Char)
  /-- Behind the quote that ends a token. -/
  | ended (before : List String) (last : String)
  /-- Behind a token and the comma of a separator. -/
  | comma (before : List String) (last : String)
  /-- Behind a token and the whole separator. -/
  | blank (before : List String) (last : String)
  /-- Behind the bracket that ends the list. -/
  | closed (tokens : List String)

namespace TokenPlace

/-- Where a character leads; `none` if it cannot stand there. -/
def next? (place : TokenPlace) (c : Char) : Option TokenPlace :=
  match place with
  | .start => if c = '[' then some .opened else none
  | .opened =>
    if c = '\'' then some (.inside [] [])
    else if c = ']' then some (.closed [])
    else none
  | .inside before held =>
    if c = '\\' then some (.escaped before held)
    else if c = '\'' then some (.ended before (String.ofList held))
    else some (.inside before (held ++ [c]))
  | .escaped before held =>
    if c = '\\' ∨ c = '\'' then some (.inside before (held ++ [c])) else none
  | .ended before last =>
    if c = ',' then some (.comma before last)
    else if c = ']' then some (.closed (before ++ [last]))
    else none
  | .comma before last => if c = ' ' then some (.blank before last) else none
  | .blank before last => if c = '\'' then some (.inside (before ++ [last]) []) else none
  | .closed _ => none

/-- The bracket and tokens, a separator behind each. -/
def front (before : List String) : List Char :=
  '[' :: before.flatMap fun token => (quoteToken token).toList ++ [',', ' ']

/-- The characters that lead to a place. -/
def shown : TokenPlace → List Char
  | .start => []
  | .opened => ['[']
  | .inside before held => front before ++ '\'' :: held.flatMap escapeToken
  | .escaped before held => front before ++ '\'' :: held.flatMap escapeToken ++ ['\\']
  | .ended before last => front before ++ (quoteToken last).toList
  | .comma before last => front before ++ (quoteToken last).toList ++ [',']
  | .blank before last => front before ++ (quoteToken last).toList ++ [',', ' ']
  | .closed tokens => (tokenList tokens).toList

theorem front_concat (before : List String) (last : String) :
    front (before ++ [last]) = front before ++ (quoteToken last).toList ++ [',', ' '] := by
  simp [front]

theorem toList_tokenList_concat (before : List String) (last : String) :
    (tokenList (before ++ [last])).toList = front before ++ (quoteToken last).toList ++ [']'] := by
  have hbody : (String.intercalate ", " ((before ++ [last]).map quoteToken)).toList
      = (before.flatMap fun token => (quoteToken token).toList ++ [',', ' '])
        ++ (quoteToken last).toList := by
    induction before with
    | nil => simp
    | cons token before ih =>
      rw [List.cons_append, List.map_cons, String.intercalate_cons_of_ne_nil (by simp),
        String.toList_append, String.toList_append, ih]
      simp
  rw [tokenList, String.toList_append, String.toList_append, hbody]
  rfl

/-! ## Reading

Each step adds its character to the characters shown, so what is read is what is shown. The other
way round, what a place shows leads there: by induction on the tokens that have ended, from the
quote that opens a token to the one that opens the next. -/

/-- A character is added to those that led to the place before. -/
theorem shown_of_next? {place place' : TokenPlace} {c : Char} (h : place.next? c = some place') :
    place'.shown = place.shown ++ [c] := by
  -- where several characters can stand, they are taken in the order of `next?`
  cases place <;>
    simp only [next?, ite_eq_iff, Option.some.injEq, reduceCtorEq, and_false, or_false] at h
  case start =>
    obtain ⟨rfl, rfl⟩ := h
    rfl
  case opened =>
    obtain ⟨rfl, rfl⟩ | ⟨-, rfl, rfl⟩ := h <;> rfl
  case inside before held =>
    obtain ⟨rfl, rfl⟩ | ⟨hbackslash, ⟨rfl, rfl⟩ | ⟨hquote, rfl⟩⟩ := h
    · rfl
    · simp [shown, toList_quoteToken]
    · simp [shown, escapeToken, hbackslash, hquote]
  case escaped before held =>
    obtain ⟨rfl | rfl, rfl⟩ := h <;> simp [shown, escapeToken]
  case ended before last =>
    obtain ⟨rfl, rfl⟩ | ⟨-, rfl, rfl⟩ := h
    · rfl
    · exact toList_tokenList_concat before last
  case comma before last =>
    obtain ⟨rfl, rfl⟩ := h
    simp [shown]
  case blank before last =>
    obtain ⟨rfl, rfl⟩ := h
    simp [shown, front_concat]

theorem shown_of_foldlM {place place' : TokenPlace} {cs : List Char}
    (h : cs.foldlM next? place = some place') : place'.shown = place.shown ++ cs := by
  induction cs generalizing place with
  | nil =>
    obtain rfl := Option.some.inj h
    exact (List.append_nil _).symm
  | cons c cs ih =>
    obtain ⟨middle, hstep, hrest⟩ := Option.bind_eq_some_iff.1 h
    rw [ih hrest, shown_of_next? hstep, List.append_assoc]
    rfl

/-- In a token, an escaped character is read as the character. -/
theorem foldlM_escapeToken (before : List String) (held : List Char) (c : Char) :
    (escapeToken c).foldlM next? (inside before held) = some (inside before (held ++ [c])) := by
  rw [escapeToken]
  split
  · next hc => simp [hc, next?]
  split
  · next hc => simp [hc, next?]
  · next hbackslash hquote => simp [next?, hbackslash, hquote]

theorem foldlM_flatMap_escapeToken (before : List String) (held cs : List Char) :
    (cs.flatMap escapeToken).foldlM next? (inside before held)
      = some (inside before (held ++ cs)) := by
  induction cs generalizing held with
  | nil => simp
  | cons c cs ih =>
    rw [List.flatMap_cons, List.foldlM_append, foldlM_escapeToken]
    simp [ih]

/-- The characters that a place shows lead there. -/
def Reached (place : TokenPlace) : Prop := place.shown.foldlM next? start = some place

theorem Reached.foldlM {place place' : TokenPlace} {cs : List Char} (h : place.Reached)
    (hcs : cs.foldlM next? place = some place') : place'.Reached := by
  rw [Reached, shown_of_foldlM hcs, List.foldlM_append, h]
  exact hcs

theorem Reached.next {place place' : TokenPlace} (h : place.Reached) (c : Char)
    (hc : place.next? c = some place') : place'.Reached :=
  h.foldlM (show [c].foldlM next? place = some place' by simp [hc])

theorem reached_inside {before : List String} (h : (inside before []).Reached)
    (held : List Char) : (inside before held).Reached :=
  h.foldlM (foldlM_flatMap_escapeToken before [] held)

theorem reached_ended {before : List String} (h : (inside before []).Reached) (last : String) :
    (ended before last).Reached :=
  (reached_inside h last.toList).next '\'' (by simp [next?])

theorem reached_blank {before : List String} (h : (inside before []).Reached) (last : String) :
    (blank before last).Reached :=
  ((reached_ended h last).next ',' rfl).next ' ' rfl

theorem reached_inside_nil (before : List String) : (inside before []).Reached := by
  induction before using List.reverseRecOn with
  | nil => rfl
  | append_singleton before last ih => exact (reached_blank ih last).next '\'' rfl

theorem reached (place : TokenPlace) : place.Reached := by
  cases place with
  | start => rfl
  | opened => rfl
  | inside before held => exact reached_inside (reached_inside_nil before) held
  | escaped before held => exact (reached_inside (reached_inside_nil before) held).next '\\' rfl
  | ended before last => exact reached_ended (reached_inside_nil before) last
  | comma before last => exact (reached_ended (reached_inside_nil before) last).next ',' rfl
  | blank before last => exact reached_blank (reached_inside_nil before) last
  | closed tokens =>
    rcases List.eq_nil_or_concat tokens with rfl | ⟨before, last, rfl⟩
    · rfl
    · rw [List.concat_eq_append]
      exact (reached_ended (reached_inside_nil before) last).next ']' rfl

/-- A place is reached by one text only. -/
theorem foldlM_next?_eq_some_iff {place : TokenPlace} {cs : List Char} :
    cs.foldlM next? start = some place ↔ cs = place.shown := by
  constructor
  · intro h
    exact (shown_of_foldlM h).symm
  · rintro rfl
    exact place.reached

/-- The tokens of a list that has ended. -/
def tokens? : TokenPlace → Option (List String)
  | .closed tokens => some tokens
  | _ => none

theorem tokens?_eq_some_iff {place : TokenPlace} {tokens : List String} :
    place.tokens? = some tokens ↔ place = .closed tokens := by
  cases place <;> simp [tokens?]

end TokenPlace

/-- The tokens that a text lists. -/
def readTokens? (text : String) : Option (List String) :=
  (text.toList.foldlM TokenPlace.next? .start).bind TokenPlace.tokens?

theorem readTokens?_eq_some_iff {text : String} {tokens : List String} :
    readTokens? text = some tokens ↔ text = tokenList tokens := by
  simp only [readTokens?, Option.bind_eq_some_iff, TokenPlace.tokens?_eq_some_iff,
    exists_eq_right, TokenPlace.foldlM_next?_eq_some_iff, TokenPlace.shown, String.toList_inj]

theorem tokenList_inj {a b : List String} : tokenList a = tokenList b ↔ a = b := by
  refine ⟨fun h => ?_, congrArg tokenList⟩
  have hread : readTokens? (tokenList a) = some b := readTokens?_eq_some_iff.2 h
  rw [readTokens?_eq_some_iff.2 rfl] at hread
  exact Option.some.inj hread

/-! ## Messages -/

theorem ClientError.message_unknownArguments (tokens : List String) :
    (unknownArguments tokens).message = "Found unknown ROS arguments: " ++ tokenList tokens := by
  rw [message.eq_def]

/-- No other message starts as one that lists tokens does. -/
theorem ClientError.eq_unknownArguments_of_start {e : ClientError}
    (h : "Found".toList <+: e.message.toList) : ∃ tokens, e = .unknownArguments tokens := by
  have htoString (s : String) : toString s = s := rfl
  -- opened as a whole: the equations of single errors would compare the wordings letter by letter
  rw [message.eq_def] at h
  cases e with
  | unknownArguments tokens => exact ⟨tokens, rfl⟩
  | undecodable defect =>
    obtain ⟨validUpTo, spoiled⟩ := defect
    cases spoiled <;> simp [Text.Utf8.Defect.message, htoString] at h
  | negativeDomain id => simp [htoString] at h
  | _ => simp at h

theorem ClientError.message_eq_iff {e : ClientError} {tokens : List String} :
    e.message = (unknownArguments tokens).message ↔ e = .unknownArguments tokens := by
  refine ⟨fun h => ?_, congrArg message⟩
  have hstart : "Found".toList <+: e.message.toList := by
    rw [h, message_unknownArguments, String.toList_append]
    simp
  obtain ⟨tokens', rfl⟩ := eq_unknownArguments_of_start hstart
  rw [message_unknownArguments, message_unknownArguments, String.append_right_inj,
    tokenList_inj] at h
  rw [h]

/-- **The tokens that a message lists can be told from it.** A token is written with a backslash in
front of each of its backslashes, and then of each of its quotes. There is a reader that gets any
tokens back from their list, and reads nothing else. So different tokens make different lists, and
no two errors have a message about unknown arguments in common. -/
theorem tokenList_identifies :
    (∀ token : String, (quoteToken token).toList
      = '\'' :: backslashed '\'' (backslashed '\\' token.toList) ++ ['\'']) ∧
    (∀ text tokens, readTokens? text = some tokens ↔ text = tokenList tokens) ∧
    (∀ a b, tokenList a = tokenList b ↔ a = b) ∧
    ∀ (e : ClientError) (tokens : List String),
      e.message = (ClientError.unknownArguments tokens).message ↔ e = .unknownArguments tokens := by
  refine ⟨?_, fun _ _ => readTokens?_eq_some_iff, fun _ _ => tokenList_inj,
    fun _ _ => ClientError.message_eq_iff⟩
  intro token
  rw [toList_quoteToken, flatMap_escapeToken]

example : tokenList ["it's", "a', 'b", "c\\", ""] = "['it\\'s', 'a\\', \\'b', 'c\\\\', '']" ∧
    readTokens? "['it's']" = none ∧ readTokens? "['c\\']" = none := by
  decide

end RobotClient
