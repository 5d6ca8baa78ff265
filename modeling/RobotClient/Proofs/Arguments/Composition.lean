import RobotClient.Proofs.Arguments.Content

set_option autoImplicit false

/-! # Vectors one after the other

An argument vector that is followed by another one says what the two say on their own, and where
both give a single value the second counts. The first must leave no block open; if it does, the mark
that closes a block has to come between the two (`Arguments.separator`). All of this holds of vectors
with defects, too. A reader that meets a defect knows where the next token stands, so the items of
the whole are those of the parts (`items_append_closing`), and the error that is reported is found
among the items of the parts in the same way (`Arguments.ofItems?_append`). Main statement:
`Arguments.parse_append_separator`. -/

namespace RobotClient

/-! ## Where a vector ends -/

/-- Where a token of an argument vector stands. -/
inductive Arguments.Place where
  | outside
  /-- In a reserved block, where the next flag may stand. -/
  | inside
  /-- In a reserved block, where the value of the last flag should stand. -/
  | atValue
deriving DecidableEq, Repr

namespace Arguments.Place

/-- Where the token after a token stands. The mark that closes a block is never a value. -/
def next : Place → String → Place
  | .outside, token => if token = blockOpen then .inside else .outside
  | .inside, token =>
    if token = blockClose then .outside
    else if (Flag.ofToken? token).isSome then .atValue
    else .inside
  | .atValue, token => if token = blockClose then .outside else .inside

/-- Where the token after a vector would stand. -/
def after (place : Place) (tokens : List String) : Place := tokens.foldl next place

/-- What has to come before a token that is to stand outside. -/
def closing : Place → List String
  | .outside => []
  | .inside | .atValue => [blockClose]

theorem after_nil (place : Place) : place.after [] = place := rfl

theorem after_cons (place : Place) (token : String) (tokens : List String) :
    place.after (token :: tokens) = (place.next token).after tokens := rfl

end Arguments.Place

/-- What has to come between a vector and the next one: the mark that closes a block if the vector
    ends inside a block, where a last flag without its value counts as inside. -/
def Arguments.separator (tokens : List String) : List String :=
  (Arguments.Place.outside.after tokens).closing

open Arguments (Place)

/-- **The items of a whole** are the items of its parts: whatever the first part holds, the second
    is read as if nothing stood before it. -/
theorem items_append_closing (inBlock : Bool) (tokens rest : List String) :
    items inBlock
        (tokens ++ ((if inBlock then Place.inside else .outside).after tokens).closing ++ rest)
      = items inBlock tokens ++ items false rest := by
  fun_induction items inBlock tokens with
  | case1 inBlock => cases inBlock <;> simp [items, Place.after_nil, Place.closing]
  | case2 tokens ih => simpa [items, Place.after_cons, Place.next] using ih
  | case3 token tokens hplain ih => simpa [items, Place.after_cons, Place.next, hplain] using ih
  | case4 inBlock tokens hin ih =>
    obtain rfl : inBlock = true := by simpa using hin
    simpa [items, Place.after_cons, Place.next] using ih
  | case5 inBlock tokens hin hclose ih =>
    obtain rfl : inBlock = true := by simpa using hin
    have hflag : Flag.ofToken? blockOpen = none := by decide
    simpa [items, Place.after_cons, Place.next, hclose, hflag] using ih
  | case6 inBlock token hin hclose hopen flag hflag =>
    -- the mark that comes next is no value, so the flag stays without one
    obtain rfl : inBlock = true := by simpa using hin
    simp [items, Place.after_cons, Place.after_nil, Place.next, Place.closing, hclose, hopen, hflag]
  | case7 inBlock token hin hclose hopen flag hflag tokens ih =>
    -- the flag has no value, and the mark after it closes the block as it does after any token
    obtain rfl : inBlock = true := by simpa using hin
    simpa [items, Place.after_cons, Place.next, hclose, hopen, hflag] using ih
  | case8 inBlock token hin hclose hopen flag hflag value tokens hvalue ih =>
    -- a value is passed over, whether the flag can read it or not
    obtain rfl : inBlock = true := by simpa using hin
    simpa [items, Place.after_cons, Place.next, hclose, hopen, hflag, hvalue] using ih
  | case9 inBlock token tokens hin hclose hopen hflag setting htoggle ih =>
    obtain rfl : inBlock = true := by simpa using hin
    simpa [items, Place.after_cons, Place.next, hclose, hopen, hflag, htoggle] using ih
  | case10 inBlock token tokens hin hclose hopen hflag htoggle ih =>
    obtain rfl : inBlock = true := by simpa using hin
    simpa [items, Place.after_cons, Place.next, hclose, hopen, hflag, htoggle] using ih

/-! ## Putting the parts together -/

namespace Arguments

/-- What two vectors come to together: a defect of the first counts, then one of the second, then
    all tokens that are unknown; without any of these the second adds to the first. -/
def combine : Except ClientError Arguments → Except ClientError Arguments →
    Except ClientError Arguments
  | .error (.invalidArguments detail), _ => .error (.invalidArguments detail)
  | _, .error (.invalidArguments detail) => .error (.invalidArguments detail)
  | .error (.unknownArguments tokens), .error (.unknownArguments tokens') =>
    .error (.unknownArguments (tokens ++ tokens'))
  | .error e, _ => .error e
  | .ok _, .error e => .error e
  | .ok p, .ok q => .ok (p ++ q)

theorem ofItems_append (front back : List Item) :
    ofItems (front ++ back) = ofItems front ++ ofItems back := by
  have hplains : Item.plains (front ++ back) = Item.plains front ++ Item.plains back :=
    List.filterMap_append
  have hsettings : Item.settings (front ++ back) = Item.settings front ++ Item.settings back :=
    List.filterMap_append
  rw [ofItems_eq_gather, hplains, hsettings, gather_append, ← ofItems_eq_gather,
    ← ofItems_eq_gather]

theorem ofItems?_append (front back : List Item) :
    ofItems? (front ++ back) = combine (ofItems? front) (ofItems? back) := by
  have hdefects : Item.defects (front ++ back) = Item.defects front ++ Item.defects back :=
    List.filterMap_append
  have hunknowns : Item.unknowns (front ++ back) = Item.unknowns front ++ Item.unknowns back :=
    List.filterMap_append
  rw [ofItems?, ofItems?, ofItems?, hdefects, hunknowns, ofItems_append]
  cases Item.defects front with
  | cons defect defects => rfl
  | nil =>
    cases Item.defects back with
    | cons defect defects => cases Item.unknowns front <;> rfl
    | nil => cases Item.unknowns front <;> cases Item.unknowns back <;> simp [combine]

/-- The rules that come last are asked first. -/
theorem remapFor_append (p q : Arguments) (node name : String) :
    (p ++ q).remapFor node name = (q.remapFor node name).or (p.remapFor node name) := by
  have hrules : (p ++ q).remapRules = p.remapRules ++ q.remapRules := rfl
  rw [remapFor, hrules, List.reverse_append, List.find?_append, Option.map_or]
  rfl

/-- **Vectors one after the other.** The vector `a`, closed if need be, with the vector `b` after it
comes to what the two come to together: it has the defect of `a`, or else the defect of `b`, or else
the unknown tokens of both, or else it says what `a` and `b` say. The rules of `b` are then asked
before those of `a`. -/
theorem parse_append_separator (a b : List String) :
    parse (a ++ separator a ++ b) = combine (parse a) (parse b) ∧
    ∀ p q, parse a = .ok p → parse b = .ok q → ∃ r, parse (a ++ separator a ++ b) = .ok r ∧
      ∀ node name, r.remapFor node name = (q.remapFor node name).or (p.remapFor node name) := by
  have hparse : parse (a ++ separator a ++ b) = combine (parse a) (parse b) := by
    have hitems := items_append_closing false a b
    rw [parse, parse, parse, ← ofItems?_append, ← hitems]
    rfl
  refine ⟨hparse, ?_⟩
  intro p q hp hq
  refine ⟨p ++ q, ?_, remapFor_append p q⟩
  rw [hparse, hp, hq]
  rfl

example : separator ["--ros-args", "-r"] = ["--"] ∧
    separator ["--ros-args", "-r", "a:=b", "--", "-r"] = [] := by
  decide

end Arguments
end RobotClient
