import RobotClient.Arguments.Item
import RobotClient.Proofs.Text.Lowercase
import RobotClient.Proofs.Text.Split

set_option autoImplicit false

/-! # The values of flags

What a value may look like after each flag and which setting it writes, as relations between the
text and what it says. Each is shown to be what the reader of that value accepts: an assignment
`[node:]name:=value`, a log level `[logger:=]severity`, or any text at all. -/

namespace RobotClient

open Text (AnyCase SplitsAt splitOnce?_eq_none_iff splitOnce?_eq_some_iff)

/-! ## Severities -/

namespace Severity

/-- The words for a severity. -/
def words : Severity → List String
  | .unset => ["unset"]
  | .debug => ["debug"]
  | .info => ["info"]
  | .warn => ["warn", "warning"]
  | .error => ["error"]
  | .fatal => ["fatal"]

/-- The text is a word for the severity, in any case. -/
def Spelled (s : Severity) (text : String) : Prop := ∃ word ∈ s.words, AnyCase word text

theorem words_lower (s : Severity) : ∀ word ∈ s.words, ∀ c ∈ word.toList, c.toLower = c := by
  cases s <;> simp [words]

theorem words_colon_free (s : Severity) : ∀ word ∈ s.words, ':' ∉ word.toList := by
  cases s <;> decide

theorem ofText?_eq_some_iff_mem {text : String} {s : Severity} :
    ofText? text = some s ↔ Text.asciiLower text ∈ s.words := by
  simp only [ofText?]
  generalize Text.asciiLower text = word
  by_cases h : word ∈ ["unset", "debug", "info", "warn", "warning", "error", "fatal"]
  · simp only [List.mem_cons, List.not_mem_nil, or_false] at h
    rcases h with rfl | rfl | rfl | rfl | rfl | rfl | rfl <;> cases s <;> decide
  · simp only [List.mem_cons, List.not_mem_nil, or_false, not_or] at h
    cases s <;> simp [ofName?, values, name, words, h, eq_comm]

theorem ofText?_eq_some_iff {text : String} {s : Severity} :
    ofText? text = some s ↔ s.Spelled text := by
  rw [ofText?_eq_some_iff_mem]
  constructor
  · intro h
    exact ⟨_, h, (Text.asciiLower_eq_iff (s.words_lower _ h)).1 rfl⟩
  · rintro ⟨word, hword, hcase⟩
    rwa [(Text.asciiLower_eq_iff (s.words_lower word hword)).2 hcase]

/-- A severity leaves no room for the name of a logger. -/
theorem Spelled.splitOnce?_eq_none {s : Severity} {text : String} (h : s.Spelled text) :
    Text.splitOnce? ":=" text = none := by
  rw [splitOnce?_eq_none_iff]
  rintro left right rfl
  -- the colon of the mark survives the folding, and no word has one
  have hword := ofText?_eq_some_iff_mem.1 (ofText?_eq_some_iff.2 h)
  refine s.words_colon_free _ hword ?_
  rw [Text.toList_asciiLower, List.mem_map]
  exact ⟨':', by simp, by decide⟩

end Severity

/-! ## Assignments -/

/-- How an assignment may be written: the mark `:=` ends the name, and a colon before it the
    node. -/
inductive Assignment.Written : Assignment → String → Prop where
  | forAll {text name value : String} : SplitsAt ":=" text name value → ':' ∉ name.toList →
      name ≠ "" → value ≠ "" → Written ⟨none, name, value⟩ text
  | forNode {text node name value : String} : SplitsAt ":=" text (node ++ ":" ++ name) value →
      ':' ∉ node.toList → node ≠ "" → name ≠ "" → value ≠ "" →
      Written ⟨some node, name, value⟩ text

theorem splitOnce?_colon_eq_some_iff {text left right : String} :
    Text.splitOnce? ":" text = some (left, right) ↔
      text = left ++ ":" ++ right ∧ ':' ∉ left.toList := by
  rw [splitOnce?_eq_some_iff, show ":" = String.singleton ':' by decide]
  exact Text.splitsAt_singleton_iff

theorem splitOnce?_colon_eq_none_iff {text : String} :
    Text.splitOnce? ":" text = none ↔ ':' ∉ text.toList := by
  rw [splitOnce?_eq_none_iff]
  constructor
  · intro h hmem
    obtain ⟨left, right, heq⟩ := List.append_of_mem hmem
    exact h (String.ofList left) (String.ofList right) (String.toList_inj.1 (by simp [heq]))
  · rintro h left right rfl
    exact h (by simp)

theorem Assignment.ofText?_eq_some_iff {text : String} {a : Assignment} :
    Assignment.ofText? text = some a ↔ a.Written text := by
  constructor
  · intro h
    obtain ⟨⟨left, value⟩, hmark, h⟩ := Option.bind_eq_some_iff.1 h
    rw [splitOnce?_eq_some_iff] at hmark
    cases hcolon : Text.splitOnce? ":" left with
    | none =>
      simp only [hcolon, Option.ite_none_left_eq_some, not_or, Option.some.injEq] at h
      obtain ⟨⟨-, hname, hvalue⟩, rfl⟩ := h
      exact .forAll hmark (splitOnce?_colon_eq_none_iff.1 hcolon) hname hvalue
    | some parts =>
      obtain ⟨node, name⟩ := parts
      simp only [hcolon, Option.ite_none_left_eq_some, not_or, Option.some.injEq] at h
      obtain ⟨⟨hnode, hname, hvalue⟩, rfl⟩ := h
      obtain ⟨rfl, hfree⟩ := splitOnce?_colon_eq_some_iff.1 hcolon
      exact .forNode hmark hfree hnode hname hvalue
  · intro h
    cases h with
    | forAll hmark hfree hname hvalue =>
      rw [Assignment.ofText?, splitOnce?_eq_some_iff.2 hmark]
      simp [splitOnce?_colon_eq_none_iff.2 hfree, hname, hvalue]
    | forNode hmark hfree hnode hname hvalue =>
      rw [Assignment.ofText?, splitOnce?_eq_some_iff.2 hmark]
      simp [splitOnce?_colon_eq_some_iff.2 ⟨rfl, hfree⟩, hnode, hname, hvalue]

/-! ## Flags -/

/-- What a value says when it follows a flag. -/
inductive Flag.Says : Flag → String → Setting → Prop where
  | remap {text : String} {rule : Assignment} : rule.Written text →
      Says .remap text (.remap rule)
  | parameter {text : String} {assignment : Assignment} : assignment.Written text →
      Says .parameter text (.parameter assignment)
  | parameterFile (path : String) : Says .parameterFile path (.parameterFile path)
  | defaultLevel {text : String} {s : Severity} : s.Spelled text →
      Says .logLevel text (.defaultLevel s)
  | loggerLevel {text logger level : String} {s : Severity} : SplitsAt ":=" text logger level →
      logger ≠ "" → s.Spelled level → Says .logLevel text (.loggerLevel logger s)
  | logConfigFile (path : String) : Says .logConfigFile path (.logConfigFile path)
  | logFileName (name : String) : Says .logFileName name (.logFileName name)
  | enclave (name : String) : Says .enclave name (.enclave name)

theorem Setting.ofLogLevel_eq_ok_iff {text : String} {setting : Setting} :
    Setting.ofLogLevel text = .ok setting ↔ Flag.logLevel.Says text setting := by
  constructor
  · intro h
    rw [Setting.ofLogLevel] at h
    split at h
    · next logger level hmark =>
      rw [splitOnce?_eq_some_iff] at hmark
      split at h
      · simp at h
      · next hlogger =>
        split at h
        · next s hs =>
          obtain rfl := Except.ok.inj h
          exact .loggerLevel hmark hlogger (Severity.ofText?_eq_some_iff.1 hs)
        · simp at h
    · split at h
      · next s hs =>
        obtain rfl := Except.ok.inj h
        exact .defaultLevel (Severity.ofText?_eq_some_iff.1 hs)
      · simp at h
  · intro h
    cases h with
    | defaultLevel hs =>
      simp [Setting.ofLogLevel, hs.splitOnce?_eq_none, Severity.ofText?_eq_some_iff.2 hs]
    | loggerLevel hmark hlogger hs =>
      simp [Setting.ofLogLevel, splitOnce?_eq_some_iff.2 hmark, hlogger,
        Severity.ofText?_eq_some_iff.2 hs]

theorem Assignment.elim_ofText?_eq_ok_iff {text : String} {defect : ArgumentDefect}
    {f : Assignment → Setting} {setting : Setting} :
    (Assignment.ofText? text).elim (Except.error defect) (Except.ok <| f ·) = .ok setting ↔
      ∃ a : Assignment, a.Written text ∧ setting = f a := by
  simp only [← Assignment.ofText?_eq_some_iff]
  cases Assignment.ofText? text <;> simp [eq_comm]

/-- A flag reads exactly the values that say something after it. -/
theorem Flag.read_eq_ok_iff {flag : Flag} {token text : String} {setting : Setting} :
    flag.read token text = .ok setting ↔ flag.Says text setting := by
  cases flag with
  | remap | parameter =>
    rw [Flag.read, Assignment.elim_ofText?_eq_ok_iff]
    constructor
    · rintro ⟨a, ha, rfl⟩
      constructor
      exact ha
    · intro h
      cases h
      exact ⟨_, by assumption, rfl⟩
  | logLevel => exact Setting.ofLogLevel_eq_ok_iff
  | parameterFile | logConfigFile | logFileName | enclave =>
    simp only [Flag.read, Except.ok.injEq]
    constructor
    · rintro rfl
      constructor
    · rintro ⟨⟩
      rfl

end RobotClient
