/-
Formulary.Expr.Function — the functions and constants that a formula may use.

The table is closed: a name outside of it is not callable, whatever it is. Functions on numbers
follow the rules of the mathematical library: a real function outside its domain fails as a domain
error, a finite argument whose result no double can hold fails as a range error, and an undefined
argument gives an undefined result.
-/
import Formulary.Number.Arithmetic
import Formulary.Number.Reading
import Formulary.Text.Basic

namespace Formulary

/-- The functions of the calculator. -/
inductive Function
  | abs
  | ceil
  | floor
  | round
  | sqrt
  | cbrt
  | exp
  | log
  | log2
  | log10
  | min
  | max
  | pow
  | sign
  | sin
  | cos
  | tan
  | mod
deriving DecidableEq, Repr

/-- Why a function has no value for its arguments. -/
inductive Function.Failure
  | argumentCount (function : Function) (count : Nat)
  | notSeveral
  | domain
  | range
  | zeroLogarithm
  | wholeOfInfinity
  | wholeOfUndefined
  | places (digits : Float)

namespace Function

/-- All functions. -/
def all : List Function :=
  [.abs, .ceil, .floor, .round, .sqrt, .cbrt, .exp, .log, .log2, .log10, .min, .max, .pow, .sign,
    .sin, .cos, .tan, .mod]

/-- The name by which a formula calls the function. -/
def name : Function → String
  | .abs => "abs"
  | .ceil => "ceil"
  | .floor => "floor"
  | .round => "round"
  | .sqrt => "sqrt"
  | .cbrt => "cbrt"
  | .exp => "exp"
  | .log => "log"
  | .log2 => "log2"
  | .log10 => "log10"
  | .min => "min"
  | .max => "max"
  | .pow => "pow"
  | .sign => "sign"
  | .sin => "sin"
  | .cos => "cos"
  | .tan => "tan"
  | .mod => "mod"

/-- The function with the given name. -/
def ofName? (id : Text) : Option Function :=
  all.find? fun f => f.name.toList == id

/-! ## One argument -/

/-- The result of a library function: undefined where the argument was not means that the argument
is outside the domain, infinite where the argument was not that the result is out of range, or, for
functions that cannot overflow, outside the domain too. -/
def checked (canOverflow : Bool) (f : Float → Float) (x : Float) : Except Failure Float :=
  let y := f x
  if y.isNaN && !x.isNaN then throw .domain
  else if y.isInf && x.isFinite then throw (if canOverflow then .range else .domain)
  else pure y

/-- A logarithm: undefined below zero, and zero is outside its domain. -/
def logarithm (f : Float → Float) (x : Float) : Except Failure Float :=
  if x.isNaN then pure x
  else if x > 0 then pure (if x.isInf then x else f x)
  else throw .domain

/-- The whole number that `whole` picks for a finite argument, as a double. -/
def wholeNumber (whole : Binary → Int) (x : Float) : Except Failure Float :=
  match Binary.ofFloat? x with
  | some b => pure (Float.ofInt (whole b))
  | none => throw (if x.isNaN then .wholeOfUndefined else .wholeOfInfinity)

/-- The real cube root, by the sign of the argument. -/
def cubeRoot (x : Float) : Float :=
  Number.withSignOf (Number.power x.abs (1.0 / 3.0)) x

/-- The sign of a number as a number. -/
def signOf (x : Float) : Float :=
  if x.isNaN then Number.undefined
  else if x > 0 then 1.0
  else if x < 0 then -1.0
  else 0.0

/-! ## Several arguments -/

/-- The greatest number of decimal places for rounding. -/
def maxPlaces : Nat := 15

/-- Rounding to a number of decimal places, halves away from zero. The number is scaled up and half
a unit added, both as doubles, before the floor is taken. -/
def roundTo (x places : Float) : Except Failure Float :=
  match Binary.ofFloat? places with
  | none => throw (.places places)
  | some p =>
    if p.isWhole && 0 ≤ p.floor && p.floor ≤ maxPlaces then do
      let factor := Number.ofDecimal 1 p.floor
      let raised := x.abs * factor + 0.5
      let whole ← wholeNumber Binary.floor raised
      pure (Number.withSignOf (whole / factor) x)
    else throw (.places places)

/-- A logarithm to a base. -/
def logarithmTo (x base : Float) : Except Failure Float := do
  let numerator ← logarithm Float.log x
  let denominator ← logarithm Float.log base
  if denominator == 0 then throw .zeroLogarithm else pure (numerator / denominator)

/-- A power with an undefined or infinite argument. -/
def extremePower (base exponent : Float) : Float :=
  if base.isNaN then if exponent == 0 then 1.0 else base
  else if exponent.isNaN then if base == 1 then 1.0 else exponent
  else if base.isInf then
    if exponent == 0 then 1.0
    else
      let size := if exponent > 0 then Number.infinity else 0.0
      if Number.isOdd exponent then Number.withSignOf size base else size
  else if base.abs == 1 then 1.0
  else if (exponent > 0) == (base.abs > 1) then Number.infinity
  else 0.0

/-- The power of finite arguments as a function of reals: zero has no negative power, a negative
number no fractional one, and a power that no double can hold is out of range. -/
def finitePower (base exponent : Float) : Except Failure Float :=
  if exponent == 0 then pure 1.0
  else if base == 0 then
    if exponent < 0 then throw .domain
    else pure (if Number.isOdd exponent then base else 0.0)
  else if base < 0 && !Number.isWhole exponent then throw .domain
  else
    let result := Number.powerOfFinite base exponent
    if result.isInf then throw .range else pure result

/-- A power as a function of reals. -/
def realPower (base exponent : Float) : Except Failure Float :=
  if base.isFinite && exponent.isFinite then finitePower base exponent
  else pure (extremePower base exponent)

/-- The first of the values that no later one exceeds in the given order, going through them from
the left: a later value is taken only if it is strictly better. -/
def best (better : Float → Float → Bool) (first : Float) (others : List Float) : Float :=
  others.foldl (fun chosen x => if better x chosen then x else chosen) first

/-! ## Application -/

/-- A function of one argument. -/
def unaryValue (f : Function) (value : Float → Except Failure Float) (args : List Float) :
    Except Failure Float :=
  match args with
  | [x] => value x
  | _ => throw (.argumentCount f args.length)

/-- A choice among at least two arguments. -/
def choice (f : Function) (better : Float → Float → Bool) (args : List Float) :
    Except Failure Float :=
  match args with
  | [] => throw (.argumentCount f 0)
  | [_] => throw .notSeveral
  | first :: others => pure (best better first others)

/-- The value of a function at its arguments. -/
def apply (f : Function) (args : List Float) : Except Failure Float :=
  match f with
  | .abs => f.unaryValue (fun x => pure x.abs) args
  | .ceil => f.unaryValue (wholeNumber Binary.ceil) args
  | .floor => f.unaryValue (wholeNumber Binary.floor) args
  | .sqrt => f.unaryValue (checked false Float.sqrt) args
  | .cbrt => f.unaryValue (fun x => pure (cubeRoot x)) args
  | .exp => f.unaryValue (checked true Float.exp) args
  | .log2 => f.unaryValue (logarithm Float.log2) args
  | .log10 => f.unaryValue (logarithm Float.log10) args
  | .sign => f.unaryValue (fun x => pure (signOf x)) args
  | .sin => f.unaryValue (checked false Float.sin) args
  | .cos => f.unaryValue (checked false Float.cos) args
  | .tan => f.unaryValue (checked false Float.tan) args
  | .min => f.choice (fun x chosen => x < chosen) args
  | .max => f.choice (fun x chosen => x > chosen) args
  | .round =>
    match args with
    | [x] => roundTo x 0.0
    | [x, places] => roundTo x places
    | _ => throw (.argumentCount f args.length)
  | .log =>
    match args with
    | [x] => logarithm Float.log x
    | [x, base] => logarithmTo x base
    | _ => throw (.argumentCount f args.length)
  | .pow =>
    match args with
    | [base, exponent] => realPower base exponent
    | _ => throw (.argumentCount f args.length)
  | .mod =>
    match args with
    | [a, b] => pure (Number.modulo a b)
    | _ => throw (.argumentCount f args.length)

end Function

/-! ## Constants -/

/-- The named constants, as doubles. -/
def constants : List (String × Float) :=
  [("pi", Float.ofBits 0x400921FB54442D18), ("e", Float.ofBits 0x4005BF0A8B145769),
    ("tau", Float.ofBits 0x401921FB54442D18), ("Infinity", Number.infinity),
    ("inf", Number.infinity), ("NaN", Number.undefined), ("nan", Number.undefined)]

/-- The value of a named constant. -/
def constant? (id : Text) : Option Float :=
  (constants.find? fun entry => entry.1.toList == id).map fun entry => entry.2

end Formulary
