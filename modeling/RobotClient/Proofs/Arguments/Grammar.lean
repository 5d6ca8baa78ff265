import RobotClient.Proofs.Arguments.Content
import RobotClient.Proofs.Arguments.Value

set_option autoImplicit false

/-! # The grammar of an argument vector

Which vectors are well formed, given as derivations that also tell what is said: the arguments
outside the reserved blocks and the settings inside. The reader accepts exactly the derivable
vectors, whatever the tokens look like. A flag takes the next token as its value before anything
else is made of it, be it another flag or the mark that opens a block; only the mark that closes a
block is never a value. -/

namespace RobotClient

/-! ## Words -/

/-- The spellings of a flag that takes a value. -/
def Flag.spellings : Flag → List String
  | .remap => ["-r", "--remap"]
  | .parameter => ["-p", "--param"]
  | .parameterFile => ["--params-file"]
  | .logLevel => ["--log-level"]
  | .logConfigFile => ["--log-config-file"]
  | .logFileName => ["--log-file-name"]
  | .enclave => ["-e", "--enclave"]

/-- The flags that take no value, with what they set. -/
def Setting.toggles : List (String × Setting) :=
  [("--enable-rosout-logs", .rosoutLogs true), ("--disable-rosout-logs", .rosoutLogs false),
   ("--enable-stdout-logs", .stdoutLogs true), ("--disable-stdout-logs", .stdoutLogs false),
   ("--enable-external-lib-logs", .externalLibLogs true),
   ("--disable-external-lib-logs", .externalLibLogs false)]

theorem Flag.ofToken?_eq_some_iff {token : String} {flag : Flag} :
    Flag.ofToken? token = some flag ↔ token ∈ flag.spellings := by
  constructor
  · intro h
    unfold Flag.ofToken? at h
    split at h
    all_goals cases h
    all_goals decide
  · cases flag <;> simp only [spellings, List.mem_cons, List.not_mem_nil, or_false]
    all_goals rintro (rfl | rfl) <;> rfl

theorem Setting.ofToggle?_eq_some_iff {token : String} {setting : Setting} :
    Setting.ofToggle? token = some setting ↔ (token, setting) ∈ Setting.toggles := by
  constructor
  · intro h
    unfold Setting.ofToggle? at h
    split at h
    all_goals cases h
    all_goals decide
  · simp only [toggles, List.mem_cons, List.not_mem_nil, or_false, Prod.mk.injEq]
    rintro (h | h | h | h | h | h) <;> obtain ⟨rfl, rfl⟩ := h <;> rfl

/-! ## Derivations -/

/-- The vectors that say the given plain arguments and settings when they are read from inside a
    reserved block (`true`) or from outside one. -/
inductive Derives : Bool → List String → List String → List Setting → Prop where
  | done {inBlock : Bool} : Derives inBlock [] [] []
  | plain {token : String} {rest plain : List String} {settings : List Setting} :
      token ≠ "--ros-args" → Derives false rest plain settings →
      Derives false (token :: rest) (token :: plain) settings
  | opens {rest plain : List String} {settings : List Setting} :
      Derives true rest plain settings → Derives false ("--ros-args" :: rest) plain settings
  | closes {rest plain : List String} {settings : List Setting} :
      Derives false rest plain settings → Derives true ("--" :: rest) plain settings
  | opensAgain {rest plain : List String} {settings : List Setting} :
      Derives true rest plain settings → Derives true ("--ros-args" :: rest) plain settings
  | option {flag : Flag} {token value : String} {setting : Setting} {rest plain : List String}
      {settings : List Setting} :
      token ∈ flag.spellings → value ≠ "--" → flag.Says value setting →
      Derives true rest plain settings →
      Derives true (token :: value :: rest) plain (setting :: settings)
  | toggle {token : String} {setting : Setting} {rest plain : List String}
      {settings : List Setting} :
      (token, setting) ∈ Setting.toggles → Derives true rest plain settings →
      Derives true (token :: rest) plain (setting :: settings)

/-! ## Items -/

theorem Flag.not_mark_of_mem_spellings {flag : Flag} {token : String}
    (h : token ∈ flag.spellings) : token ≠ blockClose ∧ token ≠ blockOpen := by
  have hnone : Flag.ofToken? blockClose = none ∧ Flag.ofToken? blockOpen = none := by decide
  rw [← Flag.ofToken?_eq_some_iff] at h
  constructor <;> rintro rfl <;> simp_all

theorem Setting.not_mark_of_mem_toggles {token : String} {setting : Setting}
    (h : (token, setting) ∈ Setting.toggles) :
    token ≠ blockClose ∧ token ≠ blockOpen ∧ Flag.ofToken? token = none := by
  have hall : ∀ entry ∈ Setting.toggles,
      entry.1 ≠ blockClose ∧ entry.1 ≠ blockOpen ∧ Flag.ofToken? entry.1 = none := by decide
  exact hall _ h

theorem items_plain {token : String} (h : token ≠ blockOpen) (rest : List String) :
    items false (token :: rest) = .plain token :: items false rest := by
  simp [items, h]

theorem items_option {flag : Flag} {token value : String} (hflag : token ∈ flag.spellings)
    (hvalue : value ≠ blockClose) (rest : List String) :
    items true (token :: value :: rest)
      = Item.ofResult (flag.read token value) :: items true rest := by
  obtain ⟨hclose, hopen⟩ := Flag.not_mark_of_mem_spellings hflag
  simp [items, hclose, hopen, Flag.ofToken?_eq_some_iff.2 hflag, hvalue]

theorem items_toggle {token : String} {setting : Setting}
    (h : (token, setting) ∈ Setting.toggles) (rest : List String) :
    items true (token :: rest) = .setting setting :: items true rest := by
  obtain ⟨hclose, hopen, hflag⟩ := Setting.not_mark_of_mem_toggles h
  simp [items, hclose, hopen, hflag, Setting.ofToggle?_eq_some_iff.2 h]

/-- A vector whose items are no defects and all known is derivable, and says what they say. -/
theorem derives_items {inBlock : Bool} {tokens : List String}
    (hdefects : Item.defects (items inBlock tokens) = [])
    (hunknowns : Item.unknowns (items inBlock tokens) = []) :
    Derives inBlock tokens (Item.plains (items inBlock tokens))
      (Item.settings (items inBlock tokens)) := by
  fun_induction items inBlock tokens with
  | case1 => exact .done
  | case2 rest ih => exact .opens (ih hdefects hunknowns)
  | case3 token rest hne ih => exact .plain hne (ih hdefects hunknowns)
  | case4 inBlock rest hin ih =>
    obtain rfl : inBlock = true := by simpa using hin
    exact .closes (ih hdefects hunknowns)
  | case5 inBlock rest hin _ ih =>
    obtain rfl : inBlock = true := by simpa using hin
    exact .opensAgain (ih hdefects hunknowns)
  -- a flag stands last, or right before the mark that closes the block
  | case6 => simp [Item.defects] at hdefects
  | case7 => simp [Item.defects] at hdefects
  | case8 inBlock token hin _ _ flag hflag value rest hvalue ih =>
    obtain rfl : inBlock = true := by simpa using hin
    rw [Flag.ofToken?_eq_some_iff] at hflag
    cases hread : flag.read token value with
    | error defect =>
      rw [hread] at hdefects
      simp [Item.ofResult, Item.defects] at hdefects
    | ok setting =>
      rw [hread] at hdefects hunknowns
      exact .option hflag hvalue (Flag.read_eq_ok_iff.1 hread) (ih hdefects hunknowns)
  | case9 inBlock token rest hin _ _ _ setting htoggle ih =>
    obtain rfl : inBlock = true := by simpa using hin
    exact .toggle (Setting.ofToggle?_eq_some_iff.1 htoggle) (ih hdefects hunknowns)
  | case10 => simp [Item.unknowns] at hunknowns

/-- A derivable vector has the items that its derivation tells of, and no others. -/
theorem Derives.items_eq {inBlock : Bool} {tokens plain : List String} {settings : List Setting}
    (h : Derives inBlock tokens plain settings) :
    Item.defects (items inBlock tokens) = [] ∧ Item.unknowns (items inBlock tokens) = [] ∧
      Item.plains (items inBlock tokens) = plain ∧
      Item.settings (items inBlock tokens) = settings := by
  induction h with
  | done => exact ⟨rfl, rfl, rfl, rfl⟩
  | @plain token rest plain settings hne _ ih =>
    obtain ⟨hdefects, hunknowns, hplains, hsettings⟩ := ih
    rw [items_plain hne]
    exact ⟨hdefects, hunknowns, congrArg (token :: ·) hplains, hsettings⟩
  | opens _ ih => simpa [items, blockOpen] using ih
  | closes _ ih => simpa [items, blockClose] using ih
  | opensAgain _ ih => simpa [items, blockOpen, blockClose] using ih
  | @option flag token value setting rest plain settings hflag hvalue hsays _ ih =>
    obtain ⟨hdefects, hunknowns, hplains, hsettings⟩ := ih
    rw [items_option hflag hvalue, Flag.read_eq_ok_iff.2 hsays]
    exact ⟨hdefects, hunknowns, hplains, congrArg (setting :: ·) hsettings⟩
  | @toggle token setting rest plain settings htoggle _ ih =>
    obtain ⟨hdefects, hunknowns, hplains, hsettings⟩ := ih
    rw [items_toggle htoggle]
    exact ⟨hdefects, hunknowns, hplains, congrArg (setting :: ·) hsettings⟩

/-! ## The reader -/

/-- **The reader accepts exactly the derivable vectors**, and what it makes of one is what the
    derivation says: every plain argument, rule, parameter, file and logger in order, and of each
    single value the last. -/
theorem Arguments.parse_eq_ok_iff (tokens : List String) (p : Arguments) :
    Arguments.parse tokens = .ok p ↔
      ∃ plain settings, Derives false tokens plain settings ∧
        p = Arguments.gather plain settings := by
  rw [Arguments.parse, Arguments.ofItems?_eq_ok_iff]
  constructor
  · rintro ⟨hdefects, hunknowns, hp⟩
    exact ⟨_, _, derives_items hdefects hunknowns, hp⟩
  · rintro ⟨plain, settings, hderives, hp⟩
    obtain ⟨hdefects, hunknowns, rfl, rfl⟩ := hderives.items_eq
    exact ⟨hdefects, hunknowns, hp⟩

example : Arguments.parse
      ["--", "--ros-args", "-e", "--ros-args", "--log-level", "n:=WARN", "--", "-r"]
    = .ok { plain := ["--", "-r"], enclave := some "--ros-args",
            logLevels := { loggers := [("n", .warn)] } } := by
  rfl

end RobotClient
