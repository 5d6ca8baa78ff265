import RobotClient.Console.CommandLine
import RobotClient.Proofs.Except
import RobotClient.Proofs.Text.Decoding
import RobotClient.Proofs.Text.Split

set_option autoImplicit false

/-! # The options in front of a command line

Which tokens give options, and where the options end, said apart from the scanner that goes through
them. An option is a name behind two dashes, with a value behind an equality sign or in the next
token, and the next token is a value only if it could not be an option itself (`Bare`). The options
end at two dashes alone, which go, at a bare token, which stays, or with the command line. Main
statement: `OptionTable.read_eq_ok_iff`. -/

namespace RobotClient.Console

open Text.Utf8 (decode encode decode_encode decode_eq_ok_iff)

variable {table : OptionTable} {name : String} {operand : Operand} {token : Token}

/-! ## Long tokens -/

/-- What stands behind a name: nothing, or a value behind an equality sign. -/
def attachment : Option Token → Token
  | none => []
  | some value => equalitySign :: value

/-- A name behind two dashes, with what stands behind it. -/
def longToken (name : String) (attached : Option Token) : Token :=
  dash :: dash :: (encode name ++ attachment attached)

theorem splitLong_append {front : Token} (h : equalitySign ∉ front) (attached : Option Token) :
    splitLong (front ++ attachment attached) = (front, attached) := by
  have hspan : (front ++ attachment attached).span (· ≠ equalitySign)
      = (front, attachment attached) := by
    refine Text.span_append (fun octet hoctet => ?_) (fun octet hoctet => ?_)
    · have hne : octet ≠ equalitySign := ne_of_mem_of_not_mem hoctet h
      simpa using hne
    · cases attached with
      | none => exact absurd hoctet (by simp [attachment])
      | some value =>
        obtain rfl : equalitySign = octet := by simpa [attachment] using hoctet
        simp
  rw [splitLong, hspan]
  cases attached <;> rfl

/-- Any octets are a name, without an equality sign, with what stands behind it. -/
theorem exists_attachment (octets : Token) :
    ∃ front attached, octets = front ++ attachment attached ∧ equalitySign ∉ front := by
  by_cases h : equalitySign ∈ octets
  · obtain ⟨front, value, hsplit, hfront⟩ := List.eq_append_cons_of_mem h
    exact ⟨front, some value, hsplit, hfront⟩
  · exact ⟨octets, none, by simp [attachment], h⟩

theorem encode_ne_nil (h : name ≠ "") : encode name ≠ [] := by
  intro hnil
  have hdecode : decode [] = .ok name := decode_eq_ok_iff.2 hnil.symm
  exact h (Except.ok.inj hdecode).symm

/-- What a name behind two dashes is. -/
theorem OptionTable.shape_longToken {attached : Option Token} (hsign : equalitySign ∉ encode name)
    (hne : name ≠ "" ∨ attached ≠ none) :
    table.shape (longToken name attached) =
      if name = "help" then if attached.isSome then .wrong else .help
      else match table.options.lookup name with
        | some .switch => if attached.isSome then .wrong else .switch name
        | some operand => .option name operand attached
        | none => if table.takesAnything then .plain else .wrong := by
  have hbody : (encode name ++ attachment attached).isEmpty = false := by
    rw [List.isEmpty_eq_false_iff, ne_eq, List.append_eq_nil_iff, not_and_or]
    rcases hne with hname | hattached
    · exact .inl (encode_ne_nil hname)
    · obtain ⟨value, rfl⟩ := Option.ne_none_iff_exists'.1 hattached
      exact .inr (by simp [attachment])
  have hshape : table.shape (longToken name attached)
      = table.longShape (encode name ++ attachment attached) := by
    rw [longToken, shape]
    simp only [ne_eq, not_true_eq_false, if_false, hbody, Bool.false_eq_true]
  rw [hshape, longShape, splitLong_append hsign]
  dsimp only
  split
  · next herror => exact absurd ((decode_encode name).symm.trans herror) (by simp)
  · next hname =>
    obtain rfl := Except.ok.inj ((decode_encode name).symm.trans hname)
    rfl

/-! ## Values -/

theorem Given.put_eq_ok_iff {given g : Given} {value : OptionValue} :
    given.put name value = .ok g ↔ name ∉ given.map Prod.fst ∧ g = given ++ [(name, value)] := by
  have hany : given.any (·.1 = name) = true ↔ name ∈ given.map Prod.fst := by
    simp [List.any_eq_true]
  unfold put
  split
  · next h => simp [hany.1 h]
  · next h => simp [mt hany.2 h, eq_comm]

theorem Given.read_eq_ok_iff {given g : Given} :
    given.read name operand token = .ok g ↔ ∃ value, operand.read? token = some value ∧
      name ∉ given.map Prod.fst ∧ g = given ++ [(name, value)] := by
  unfold read
  split
  · next value hvalue => simp [hvalue, Given.put_eq_ok_iff]
  · next hnone => simp [hnone]

namespace OptionTable

/-! ## Forms of tokens -/

theorem shape_undashed (h : token.head? ≠ some dash) : table.shape token = .plain := by
  cases token with
  | nil => rfl
  | cons first rest =>
    have hfirst : first ≠ dash := by simpa using h
    unfold shape
    exact if_pos hfirst

theorem shape_letters {letters : Token} (hne : letters ≠ []) (h : letters.head? ≠ some dash) :
    table.shape (dash :: letters) = table.shortShape letters := by
  obtain ⟨second, rest, rfl⟩ := List.exists_cons_of_ne_nil hne
  have hsecond : second ≠ dash := by simpa using h
  unfold shape
  simp only [ne_eq, not_true_eq_false, if_false, hsecond, not_false_eq_true, if_true]

/-- The forms of tokens. -/
inductive Form : Token → Prop where
  | undashed {token : Token} : token.head? ≠ some dash → Form token
  | single : Form [dash]
  | letters {letters : Token} : letters ≠ [] → letters.head? ≠ some dash → Form (dash :: letters)
  | separator : Form [dash, dash]
  | long {name : String} {attached : Option Token} : equalitySign ∉ encode name →
      name ≠ "" ∨ attached ≠ none → Form (longToken name attached)
  /-- The name is no text. -/
  | garbled {token : Token} : (∀ table : OptionTable, table.shape token = .wrong) → Form token

/-- Every token has a form. -/
theorem form_of (token : Token) : Form token := by
  by_cases hundashed : token.head? ≠ some dash
  · exact .undashed hundashed
  obtain ⟨rest, rfl⟩ : ∃ rest, token = dash :: rest :=
    ⟨token.tail, (List.cons_head?_tail (Decidable.of_not_not hundashed)).symm⟩
  rcases eq_or_ne rest [] with rfl | hrest
  · exact .single
  by_cases hletters : rest.head? ≠ some dash
  · exact .letters hrest hletters
  obtain ⟨body, rfl⟩ : ∃ body, rest = dash :: body :=
    ⟨rest.tail, (List.cons_head?_tail (Decidable.of_not_not hletters)).symm⟩
  rcases eq_or_ne body [] with rfl | hbody
  · exact .separator
  obtain ⟨front, attached, rfl, hsign⟩ := exists_attachment body
  cases hname : decode front with
  | error defect =>
    refine .garbled fun table => ?_
    have hnonempty : (front ++ attachment attached).isEmpty = false :=
      List.isEmpty_eq_false_iff.2 hbody
    unfold shape
    simp only [ne_eq, not_true_eq_false, if_false, hnonempty, Bool.false_eq_true, longShape,
      splitLong_append hsign, hname]
  | ok name =>
    obtain rfl := decode_eq_ok_iff.1 hname
    refine .long hsign ?_
    by_contra hnone
    obtain ⟨rfl, rfl⟩ : name = "" ∧ attached = none := by simpa using hnone
    exact hbody rfl

/-! ## Bare tokens -/

/-- A token that can be no option. Where a command takes anything, this is also what looks like an
    option but is none of its own; letters that all ask for help are one of its own. -/
inductive Bare (table : OptionTable) : Token → Prop where
  | undashed {token : Token} : token.head? ≠ some dash → Bare table token
  | single : Bare table [dash]
  | letters {letters : Token} : table.takesAnything = true → letters.head? ≠ some dash →
      (∃ letter ∈ letters, letter ≠ helpLetter) → Bare table (dash :: letters)
  | unknown {name : String} {attached : Option Token} : table.takesAnything = true →
      equalitySign ∉ encode name → name ≠ "" ∨ attached ≠ none → name ≠ "help" →
      table.options.lookup name = none → Bare table (longToken name attached)

theorem shape_of_bare (h : table.Bare token) : table.shape token = .plain := by
  cases h with
  | undashed h => exact shape_undashed h
  | single => rfl
  | @letters letters hany hhead hletter =>
    obtain ⟨letter, hmem, hne⟩ := hletter
    have hall : ¬ letters.all (· = helpLetter) := fun hall =>
      hne (by simpa using List.all_eq_true.1 hall letter hmem)
    rw [shape_letters (List.ne_nil_of_mem hmem) hhead, shortShape, if_pos hany, if_neg hall]
  | unknown hany hsign hne hhelp hlookup =>
    rw [shape_longToken hsign hne, if_neg hhelp, hlookup, if_pos hany]

/-! ## Shapes -/

/-- What a token is if it has a shape, as far as it matters. -/
inductive Shaped (table : OptionTable) : Token → Shape → Prop where
  | bare {token : Token} : table.Bare token → Shaped table token .plain
  | separator : Shaped table [dash, dash] .separator
  | switch {name : String} : table.options.lookup name = some .switch →
      Shaped table (longToken name none) (.switch name)
  | option {name : String} {operand : Operand} {attached : Option Token} :
      table.options.lookup name = some operand →
      Shaped table (longToken name attached) (.option name operand attached)
  | help {token : Token} : Shaped table token .help
  | wrong {token : Token} : Shaped table token .wrong

theorem shaped (table : OptionTable) (token : Token) : table.Shaped token (table.shape token) := by
  cases form_of token with
  | undashed hhead =>
    rw [shape_undashed hhead]
    exact .bare (.undashed hhead)
  | single => exact .bare .single
  | separator => exact .separator
  | garbled hwrong =>
    rw [hwrong]
    exact .wrong
  | letters hne hhead =>
    rw [shape_letters hne hhead, shortShape]
    split
    · next hany =>
      split
      · exact .help
      · next hall => exact .bare (.letters hany hhead (by simpa using hall))
    · split
      · exact .help
      · exact .wrong
  | @long name attached hsign hne =>
    rw [shape_longToken hsign hne]
    split
    · split
      · exact .wrong
      · exact .help
    next hhelp =>
    split
    · next hlookup =>
      cases attached with
      | none => exact .switch hlookup
      | some value => exact .wrong
    · next operand _ hlookup => exact .option hlookup
    · next hlookup =>
      split
      · next hany => exact .bare (.unknown hany hsign hne hhelp hlookup)
      · exact .wrong

theorem bare_of_shape (h : table.shape token = .plain) : table.Bare token := by
  have hshaped := shaped table token
  rw [h] at hshaped
  cases hshaped with
  | bare hbare => exact hbare

/-! ## Lists of options -/

/-- What is required of the names of options: none is empty, asks for help or hides a value. -/
def Proper (table : OptionTable) : Prop :=
  ∀ entry ∈ table.options, entry.1 ≠ "" ∧ entry.1 ≠ "help" ∧ equalitySign ∉ encode entry.1

instance : Decidable table.Proper :=
  inferInstanceAs (Decidable (∀ entry ∈ table.options, _))

/-- The tokens that give an option a value. -/
inductive Gives (table : OptionTable) : List Token → String × OptionValue → Prop where
  | switch {name : String} : table.options.lookup name = some .switch →
      Gives table [longToken name none] (name, .on)
  | attached {name : String} {operand : Operand} {token : Token} {value : OptionValue} :
      table.options.lookup name = some operand → operand.read? token = some value →
      Gives table [longToken name (some token)] (name, value)
  | separate {name : String} {operand : Operand} {token : Token} {value : OptionValue} :
      table.options.lookup name = some operand → table.Bare token →
      operand.read? token = some value → Gives table [longToken name none, token] (name, value)

/-- The tokens that give options values, one option after the other. -/
inductive Lists (table : OptionTable) : List Token → Given → Prop where
  | nil : Lists table [] []
  | cons {tokens rest : List Token} {entry : String × OptionValue} {given : Given} :
      Gives table tokens entry → Lists table rest given →
      Lists table (tokens ++ rest) (entry :: given)

/-- The tokens that are valid options of a command: they give each option a value at most once. -/
structure Accepts (table : OptionTable) (tokens : List Token) (given : Given) : Prop where
  lists : table.Lists tokens given
  nodup : (given.map Prod.fst).Nodup

/-- Where the options end, and what stands behind them. -/
inductive Ends (table : OptionTable) : List Token → List Token → Prop where
  | nil : Ends table [] []
  | separator {rest : List Token} : Ends table ([dash, dash] :: rest) rest
  | bare {token : Token} {rest : List Token} : table.Bare token →
      Ends table (token :: rest) (token :: rest)

/-! ## Scanning -/

variable {given g : Given} {pending : Option (String × Operand × Token)}

theorem Proper.shape_of_lookup {attached : Option Token} (hproper : table.Proper)
    (h : table.options.lookup name = some operand) :
    table.shape (longToken name attached) =
      if operand = .switch then if attached.isSome then .wrong else .switch name
      else .option name operand attached := by
  obtain ⟨front, rest, hsplit, -⟩ := List.lookup_eq_some_iff.1 h
  obtain ⟨hne, hhelp, hsign⟩ := hproper (name, operand) (by simp [hsplit])
  rw [shape_longToken hsign (.inl hne), if_neg hhelp, h]
  cases operand <;> rfl

/-- Scanning goes past the tokens that give an option a value. -/
theorem scan_of_gives {tokens : List Token} {entry : String × OptionValue} (hproper : table.Proper)
    (h : table.Gives tokens entry) (hsettle : settle given pending = .ok g)
    (hnew : entry.1 ∉ g.map Prod.fst) :
    ∃ given' pending', settle given' pending' = .ok (g ++ [entry]) ∧
      ∀ tail, table.scan given pending (tokens ++ tail) = table.scan given' pending' tail := by
  cases h with
  | @switch name hlookup =>
    have hput : g.put name .on = .ok (g ++ [(name, .on)]) := Given.put_eq_ok_iff.2 ⟨hnew, rfl⟩
    refine ⟨g ++ [(name, .on)], none, rfl, fun tail => ?_⟩
    rw [List.singleton_append, scan, hproper.shape_of_lookup hlookup]
    simp [hsettle, bind, Except.bind, hput]
  | @attached name operand token value hlookup hvalue =>
    have hswitch : operand ≠ .switch := by
      rintro rfl
      exact absurd hvalue (by simp [Operand.read?])
    have hread : g.read name operand token = .ok (g ++ [(name, value)]) :=
      Given.read_eq_ok_iff.2 ⟨value, hvalue, hnew, rfl⟩
    refine ⟨g ++ [(name, value)], none, rfl, fun tail => ?_⟩
    rw [List.singleton_append, scan, hproper.shape_of_lookup hlookup, if_neg hswitch]
    simp [hsettle, bind, Except.bind, hread]
  | @separate name operand token value hlookup hbare hvalue =>
    have hswitch : operand ≠ .switch := by
      rintro rfl
      exact absurd hvalue (by simp [Operand.read?])
    refine ⟨g, some (name, operand, token), Given.read_eq_ok_iff.2 ⟨value, hvalue, hnew, rfl⟩,
      fun tail => ?_⟩
    rw [List.cons_append, List.singleton_append, scan, hproper.shape_of_lookup hlookup,
      if_neg hswitch]
    simp [hsettle, shape_of_bare hbare]

/-- Scanning goes past a list of options. -/
theorem scan_of_lists {tokens : List Token} {more : Given} (hproper : table.Proper)
    (h : table.Lists tokens more) (hsettle : settle given pending = .ok g)
    (hnodup : ((g ++ more).map Prod.fst).Nodup) :
    ∃ given' pending', settle given' pending' = .ok (g ++ more) ∧
      ∀ tail, table.scan given pending (tokens ++ tail) = table.scan given' pending' tail := by
  induction h generalizing given pending g with
  | nil => exact ⟨given, pending, by simpa using hsettle, fun _ => rfl⟩
  | @cons tokens rest entry more hgives _ ih =>
    have hnew : entry.1 ∉ g.map Prod.fst := by
      rw [List.map_append, List.map_cons] at hnodup
      exact fun hmem => List.disjoint_of_nodup_append hnodup hmem (by simp)
    obtain ⟨given₁, pending₁, hsettle₁, hscan₁⟩ := scan_of_gives hproper hgives hsettle hnew
    obtain ⟨given₂, pending₂, hsettle₂, hscan₂⟩ := ih hsettle₁ (by simpa using hnodup)
    refine ⟨given₂, pending₂, by simpa using hsettle₂, fun tail => ?_⟩
    rw [List.append_assoc, hscan₁, hscan₂]

theorem scan_of_ends {tail rest : List Token} (h : table.Ends tail rest) :
    ∃ separated, table.scan given pending tail = .ok ⟨given, pending, separated, rest⟩ := by
  cases h with
  | nil => exact ⟨false, rfl⟩
  | separator => exact ⟨true, rfl⟩
  | bare hbare =>
    refine ⟨false, ?_⟩
    rw [scan, shape_of_bare hbare]

theorem read_of_accepts {tokens tail rest : List Token} (hproper : table.Proper)
    (h : table.Accepts tokens given) (hends : table.Ends tail rest) :
    table.read (tokens ++ tail) = .ok (given, rest) := by
  have hstart : settle [] none = .ok [] := rfl
  obtain ⟨given', pending', hsettle, hscan⟩ := scan_of_lists hproper h.lists hstart h.nodup
  obtain ⟨separated, htail⟩ :
      ∃ separated, table.scan given' pending' tail = .ok ⟨given', pending', separated, rest⟩ :=
    scan_of_ends hends
  rw [read, hscan, htail]
  simp [bind, Except.bind, hsettle, pure, Except.pure]

/-! ## What was scanned -/

/-- Tokens that are options, beside those given before, with what stands behind them. -/
def Front (table : OptionTable) (before : Given) (tokens : List Token) (all : Given)
    (rest : List Token) : Prop :=
  ∃ options more tail, tokens = options ++ tail ∧ all = before ++ more ∧
    table.Lists options more ∧ table.Ends tail rest ∧
    ((before.map Prod.fst).Nodup → (all.map Prod.fst).Nodup)

theorem Front.of_ends {tail rest : List Token} (h : table.Ends tail rest) :
    table.Front given tail given rest :=
  ⟨[], [], tail, rfl, by simp, .nil, h, id⟩

theorem Front.cons {tokens tail rest : List Token} {entry : String × OptionValue} {all : Given}
    (hgives : table.Gives tokens entry) (hnew : entry.1 ∉ given.map Prod.fst)
    (h : table.Front (given ++ [entry]) tail all rest) :
    table.Front given (tokens ++ tail) all rest := by
  obtain ⟨options, more, tail, rfl, rfl, hlists, hends, hnodup⟩ := h
  refine ⟨tokens ++ options, entry :: more, tail, by simp, by simp, .cons hgives hlists, hends,
    fun hgiven => hnodup ?_⟩
  rw [List.map_append, List.nodup_append_comm]
  simpa using ⟨by simpa using hnew, hgiven⟩

/-- What scanning finds in front of a command line are options. -/
theorem front_of_scan {tokens : List Token} {s : Scan} {all : Given}
    (h : table.scan given pending tokens = .ok s) (hall : settle s.given s.pending = .ok all) :
    ∃ g, settle given pending = .ok g ∧ table.Front g tokens all s.rest := by
  -- the value of the last option is settled when the next one comes: the options found from here
  -- on come after what is settled now
  fun_induction scan table given pending tokens with
  | case1 given pending =>
    obtain rfl := Except.ok.inj h
    exact ⟨all, hall, .of_ends .nil⟩
  | case2 given pending token rest hshape =>
    obtain rfl := Except.ok.inj h
    have hshaped := table.shaped token
    rw [hshape] at hshaped
    cases hshaped with
    | separator => exact ⟨all, hall, .of_ends .separator⟩
  | case3 given pending token rest hshape =>
    obtain rfl := Except.ok.inj h
    exact ⟨all, hall, .of_ends (.bare (bare_of_shape hshape))⟩
  | case7 given pending token rest name hshape g' hput ih =>
    obtain ⟨g, hg, hfront⟩ := ih h
    obtain rfl : g' = g := Except.ok.inj hg
    obtain ⟨before, hbefore, hput⟩ := bind_eq_ok.1 hput
    obtain ⟨hnew, rfl⟩ := Given.put_eq_ok_iff.1 hput
    have hshaped := table.shaped token
    rw [hshape] at hshaped
    cases hshaped with
    | switch hlookup => exact ⟨before, hbefore, .cons (.switch hlookup) hnew hfront⟩
  | case9 given pending token rest name operand value hshape g' hread ih =>
    obtain ⟨g, hg, hfront⟩ := ih h
    obtain rfl : g' = g := Except.ok.inj hg
    obtain ⟨before, hbefore, hread⟩ := bind_eq_ok.1 hread
    obtain ⟨result, hresult, hnew, rfl⟩ := Given.read_eq_ok_iff.1 hread
    have hshaped := table.shaped token
    rw [hshape] at hshaped
    cases hshaped with
    | option hlookup => exact ⟨before, hbefore, .cons (.attached hlookup hresult) hnew hfront⟩
  | case11 given pending token name operand hshape before value rest hbefore hplain ih =>
    obtain ⟨g, hg, hfront⟩ := ih h
    obtain ⟨result, hresult, hnew, rfl⟩ := Given.read_eq_ok_iff.1 hg
    have hshaped := table.shaped token
    rw [hshape] at hshaped
    cases hshaped with
    | option hlookup =>
      exact ⟨before, hbefore,
        .cons (.separate hlookup (bare_of_shape hplain) hresult) hnew hfront⟩
  | case4 | case5 | case6 | case8 | case10 | case12 | case13 | case14 => exact absurd h (by simp)

/-- **Reading options** goes past exactly the valid options in front, and hands over all that
stands behind them. -/
theorem read_eq_ok_iff {tokens rest : List Token} (hproper : table.Proper) :
    table.read tokens = .ok (given, rest) ↔ ∃ options tail, tokens = options ++ tail ∧
      table.Accepts options given ∧ table.Ends tail rest := by
  constructor
  · intro h
    obtain ⟨s, hscan, h⟩ := bind_eq_ok.1 h
    obtain ⟨all, hall, h⟩ := bind_eq_ok.1 h
    obtain ⟨rfl, rfl⟩ := Prod.mk.inj (pure_eq_ok.1 h)
    obtain ⟨g, hg, options, more, tail, rfl, rfl, hlists, hends, hnodup⟩ := front_of_scan hscan hall
    obtain rfl : [] = g := Except.ok.inj hg
    exact ⟨options, tail, rfl, ⟨hlists, hnodup List.nodup_nil⟩, hends⟩
  · rintro ⟨options, tail, rfl, haccepts, hends⟩
    exact read_of_accepts hproper haccepts hends

end OptionTable

theorem argsOptions_proper : argsOptions.Proper := by decide

theorem runOptions_proper : runOptions.Proper := by decide

end RobotClient.Console
