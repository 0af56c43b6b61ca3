import CodeGauge.Markup.Handler.Reader

/-!
# Parameters of functions

The parameters of a function without a name: first those that go by position only, up to a
slash, then others, then after a star those that go by name only, and after two stars one for
all the rest. From the first default on all parameters up to a star have one.
-/

namespace CodeGauge.Markup.Handler.Parameters

open Pass

/-- The end of a parameter: a comma, or the colon that ends them all. -/
def stop : Pass := (mark ",").orElse (mark ":").ahead

def plain : Pass := name.followedBy stop

section Default

variable (default : Pass)

def withDefault : Pass := sequence [name, default, stop]

def maybeDefault : Pass := sequence [name, default.optional, stop]

/-- Parameters by position only, without defaults and with them. -/
def slashPlain : Pass := sequence [plain.many1, mark "/", stop]

def slashDefault : Pass := sequence [plain.many, (withDefault default).many1, mark "/", stop]

/-! ## What may be wrong -/

/-- What can be said to be wrong with the parameter for the rest. -/
def hintRest : Pass :=
  let after := "arguments cannot follow var-keyword argument"
  oneOf [
    (sequence [mark "**", name, mark "="]).forbidden
      "var-keyword argument cannot have default value",
    (sequence [mark "**", name, mark ",", name]).forbidden after,
    (sequence [mark "**", name, mark ",", anyMark ["*", "**", "/"]]).forbidden after]

/-- What can be said to be wrong after a star. -/
def hintStar : Pass :=
  let bare := (mark ":").orElse ((mark ",").followedBy (anyMark [":", "**"]))
  let one := plain.orElse (mark ",")
  oneOf [
    ((mark "*").followedBy bare).forbidden "named arguments must follow bare *",
    (sequence [mark "*", name, mark "="]).forbidden
      "var-positional argument cannot have default value",
    (sequence [mark "*", one, (maybeDefault default).many, mark "*", one]).forbidden
      "* argument may appear only once"]

/-- What can be said to be wrong with all parameters. -/
def hintAll : Pass :=
  let slashed := slashPlain.orElse (slashDefault default)
  let one := plain.orElse (mark ",")
  oneOf [
    (sequence [plain.many, (slashDefault default).orElse (withDefault default).many1,
      plain]).forbidden "non-default argument follows default argument",
    (sequence [plain.many, mark "(", name, ((mark ",").followedBy name).many,
      (mark ",").optional, mark ")"]).forbidden
      "Lambda expression parameters cannot be parenthesized",
    ((mark "/").followedBy (mark ",")).forbidden "at least one argument must precede /",
    (sequence [slashed, (maybeDefault default).many, mark "/"]).forbidden
      "/ may appear only once",
    (sequence [slashed.optional, (maybeDefault default).many, mark "*", one,
      (maybeDefault default).many, mark "/"]).forbidden "/ must be ahead of *",
    (sequence [(maybeDefault default).many1, mark "/", mark "*"]).forbidden
      "expected comma between / and *"]

/-- With hints, first what they have to say. -/
def hinted (hints : Bool) (hint p : Pass) : Pass := if hints then hint.orElse p else p

/-! ## Parameters -/

/-- The parameter for the rest. -/
def rest (hints : Bool) : Pass := hinted hints hintRest ((mark "**").followedBy plain)

/-- What follows a star, and the star. -/
def star (hints : Bool) : Pass :=
  hinted hints (hintStar default) (oneOf [
    sequence [mark "*", plain, (maybeDefault default).many, (rest hints).optional],
    sequence [mark "*", mark ",", (maybeDefault default).many1, (rest hints).optional],
    rest hints])

/-- All parameters, of which there is at least one. -/
def all (hints : Bool) : Pass :=
  let others := (withDefault default).many.followedBy (star default hints).optional
  hinted hints (hintAll default) (oneOf [
    sequence [slashPlain, plain.many, others],
    (slashDefault default).followedBy others,
    plain.many1.followedBy others,
    (withDefault default).many1.followedBy (star default hints).optional,
    star default hints])

end Default

end CodeGauge.Markup.Handler.Parameters
