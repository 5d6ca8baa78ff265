import RobotClient.Arguments.Writer
import RobotClient.Proofs.Arguments.Grammar

set_option autoImplicit false

/-! # Writing back what a vector says

What the reader makes of a vector can be written as a vector again (`Arguments.toTokens`), and the
reader makes the same of that one. Not all arguments have this property: a plain argument that opens
a block, a node with a colon, a name with `:=` or a value that closes a block would be read as
something else. The reader never makes any of these, since whatever it reads has a derivation; each
setting in a derivation is `Setting.Readable`, and so it may stand in the written block no matter
what comes after it. Main statement: `Arguments.parse_toTokens`. -/

namespace RobotClient

/-! ## Values -/

/-- An assignment is written in one way only. -/
theorem Assignment.Written.eq_toText {a : Assignment} {text : String} (h : a.Written text) :
    text = a.toText := by
  cases h with
  | forAll hmark _ _ _ => exact hmark.eq_append
  | forNode hmark _ _ _ _ => exact hmark.eq_append

/-- The name of a severity is one of the words for it. -/
theorem Severity.spelled_name (s : Severity) : s.Spelled s.name := by
  refine Severity.ofText?_eq_some_iff.1 ?_
  cases s <;> decide

/-- What is written for the level of a logger is a value. -/
theorem Setting.loggerLevel_ne_blockClose (logger : String) (s : Severity) :
    logger ++ ":=" ++ s.name ≠ "--" := by
  intro h
  have hmem : ':' ∈ (logger ++ ":=" ++ s.name).toList := by simp
  rw [h] at hmem
  exact absurd hmem (by decide)

/-! ## Settings -/

/-- In a block, the tokens of the setting are read as that setting, whatever follows them. -/
def Setting.Readable (s : Setting) : Prop :=
  ∀ {rest plain : List String} {settings : List Setting},
    Derives true rest plain settings → Derives true (s.tokens ++ rest) plain (s :: settings)

/-- A setting that some value says can be written back. The tokens need not be the ones it was read
    from: the flag may have been spelled in another way, and so may a severity. -/
theorem Flag.Says.readable {flag : Flag} {value : String} {s : Setting} (h : flag.Says value s)
    (hvalue : value ≠ "--") : s.Readable := by
  intro rest plain settings hrest
  have hremap : "-r" ∈ Flag.remap.spellings := by decide
  have hparameter : "-p" ∈ Flag.parameter.spellings := by decide
  have hlevel : "--log-level" ∈ Flag.logLevel.spellings := by decide
  cases h with
  | remap hwritten =>
    obtain rfl := hwritten.eq_toText
    exact .option hremap hvalue (.remap hwritten) hrest
  | parameter hwritten =>
    obtain rfl := hwritten.eq_toText
    exact .option hparameter hvalue (.parameter hwritten) hrest
  | parameterFile => exact .option (by decide) hvalue (.parameterFile value) hrest
  | @defaultLevel _ s hs =>
    have hname : s.name ≠ "--" := by cases s <;> decide
    exact .option hlevel hname (.defaultLevel s.spelled_name) hrest
  | @loggerLevel _ logger level s hmark hlogger hs =>
    have hwritten : Flag.logLevel.Says (logger ++ ":=" ++ s.name) (.loggerLevel logger s) :=
      .loggerLevel (hmark.replace_right s.name) hlogger s.spelled_name
    exact .option hlevel (Setting.loggerLevel_ne_blockClose logger s) hwritten hrest
  | logConfigFile => exact .option (by decide) hvalue (.logConfigFile value) hrest
  | logFileName => exact .option (by decide) hvalue (.logFileName value) hrest
  | enclave => exact .option (by decide) hvalue (.enclave value) hrest

theorem Setting.readable_of_mem_toggles {token : String} {s : Setting}
    (h : (token, s) ∈ Setting.toggles) : s.Readable := by
  intro rest plain settings hrest
  have htokens : ∀ entry ∈ Setting.toggles, entry.2.tokens = [entry.1] := by decide
  rw [htokens _ h]
  exact .toggle h hrest

/-- Every setting that a vector gives can be written back. -/
theorem Derives.readable {inBlock : Bool} {tokens plain : List String} {settings : List Setting}
    (h : Derives inBlock tokens plain settings) : ∀ s ∈ settings, s.Readable := by
  induction h with
  | done => simp
  | plain _ _ ih | opens _ ih | closes _ ih | opensAgain _ ih => exact ih
  | option _ hvalue hmeaning _ ih => exact List.forall_mem_cons.2 ⟨hmeaning.readable hvalue, ih⟩
  | toggle htoggle _ ih =>
    exact List.forall_mem_cons.2 ⟨Setting.readable_of_mem_toggles htoggle, ih⟩

/-- No plain argument of a vector opens a block. -/
theorem Derives.plain_ne {inBlock : Bool} {tokens plain : List String} {settings : List Setting}
    (h : Derives inBlock tokens plain settings) : ∀ token ∈ plain, token ≠ "--ros-args" := by
  induction h with
  | done => simp
  | plain hne _ ih => exact List.forall_mem_cons.2 ⟨hne, ih⟩
  | opens _ ih | closes _ ih | opensAgain _ ih | option _ _ _ _ ih | toggle _ _ ih => exact ih

/-! ## Written vectors -/

theorem derives_settings {settings : List Setting} (h : ∀ s ∈ settings, s.Readable) :
    Derives true (settings.flatMap Setting.tokens) [] settings := by
  induction settings with
  | nil => exact .done
  | cons s settings ih =>
    obtain ⟨hs, hsettings⟩ := List.forall_mem_cons.1 h
    rw [List.flatMap_cons]
    exact hs (ih hsettings)

theorem derives_plain {plain block : List String} {settings : List Setting}
    (h : ∀ token ∈ plain, token ≠ "--ros-args") (hblock : Derives true block [] settings) :
    Derives false (plain ++ blockOpen :: block) plain settings := by
  induction plain with
  | nil => exact .opens hblock
  | cons token plain ih =>
    obtain ⟨htoken, hplain⟩ := List.forall_mem_cons.1 h
    exact .plain htoken (ih hplain)

namespace Arguments

/-- The settings of arguments, listed field by field, make the same arguments. -/
theorem gather_settings (p : Arguments) : gather p.plain p.settings = p := by
  have hsingle : ∀ {α : Type} (o : Option α), o.toList.getLast? = o := by
    intro α o
    cases o <;> rfl
  simp only [gather, settings, List.filterMap_append, List.filterMap_map, Function.comp_def]
  simp [hsingle]

/-- What a field of many values holds was found in settings of its own kind. -/
theorem mem_of_mem_map_filterMap {α : Type} {read : Setting → Option α} {write : α → Setting}
    {settings : List Setting} {s : Setting}
    (hwrite : ∀ setting a, read setting = some a → write a = setting)
    (h : s ∈ (settings.filterMap read).map write) : s ∈ settings := by
  obtain ⟨a, ha, rfl⟩ := List.mem_map.1 h
  obtain ⟨setting, hsetting, hread⟩ := List.mem_filterMap.1 ha
  rwa [hwrite setting a hread]

/-- What a field of a single value holds was found in a setting of its own kind. -/
theorem mem_of_mem_map_getLast? {α : Type} {read : Setting → Option α} {write : α → Setting}
    {settings : List Setting} {s : Setting}
    (hwrite : ∀ setting a, read setting = some a → write a = setting)
    (h : s ∈ (settings.filterMap read).getLast?.toList.map write) : s ∈ settings := by
  obtain ⟨a, ha, hs⟩ := List.mem_map.1 h
  have hfound : a ∈ settings.filterMap read := List.mem_of_getLast? (Option.mem_toList.1 ha)
  exact mem_of_mem_map_filterMap hwrite (List.mem_map.2 ⟨a, hfound, hs⟩)

/-- Gathering makes no setting up. -/
theorem mem_of_mem_settings_gather {plain : List String} {settings : List Setting} {s : Setting}
    (h : s ∈ (gather plain settings).settings) : s ∈ settings := by
  simp only [Arguments.settings, List.mem_append, or_assoc] at h
  -- one case for each field
  rcases h with h | h | h | h | h | h | h | h | h | h | h
  all_goals first
    | exact mem_of_mem_map_filterMap (by rintro ⟨⟩ a ⟨⟩; rfl) h
    | exact mem_of_mem_map_getLast? (by rintro ⟨⟩ a ⟨⟩; rfl) h

/-- **What is read can be written back.** Written as a vector, what a vector says is accepted, and
read as the very same: no matter how the first vector spelled its flags and severities, in how many
blocks it gave its settings, and which of them it took back later. -/
theorem parse_toTokens {tokens : List String} {p : Arguments} (h : parse tokens = .ok p) :
    parse p.toTokens = .ok p := by
  obtain ⟨hdefects, hunknowns, hp⟩ := ofItems?_eq_ok_iff.1 h
  have hread := derives_items hdefects hunknowns
  have hreadable : ∀ s ∈ p.settings, s.Readable := by
    intro s hs
    rw [hp] at hs
    exact hread.readable s (mem_of_mem_settings_gather hs)
  have hplain : ∀ token ∈ p.plain, token ≠ "--ros-args" := by
    rw [hp]
    exact hread.plain_ne
  have hwritten : Derives false p.toTokens p.plain p.settings :=
    derives_plain hplain (derives_settings hreadable)
  obtain ⟨hdefects', hunknowns', hplains, hsettings⟩ := hwritten.items_eq
  refine ofItems?_eq_ok_iff.2 ⟨hdefects', hunknowns', ?_⟩
  rw [hplains, hsettings, gather_settings]

/-- Values that look like flags and marks, other spellings, two blocks, a setting that is taken
    back. -/
theorem parse_toTokens_respelled :
    let written := ["--", "--ros-args", "-r", "n:a:b:=:=--", "--log-level", "m:=Warning", "-e", "-r",
      "--disable-stdout-logs", "--", "-r", "--ros-args", "--enclave", "--ros-args"]
    let said : Arguments :=
      { plain := ["--", "-r"], remapRules := [⟨some "n", "a:b", ":=--"⟩],
        logLevels := { loggers := [("m", .warn)] }, enclave := some "--ros-args",
        stdoutLogs := some false }
    parse written = .ok said ∧ said.toTokens ≠ written ∧ parse said.toTokens = .ok said := by
  intro written said
  have hread : parse written = .ok said := by rfl
  exact ⟨hread, by decide, parse_toTokens hread⟩

end Arguments
end RobotClient
