import MapReduce.Sql.Value
import MapReduce.Number.Machine

/-! # Mathematical functions

The store's mathematical functions take numbers: an integer, a binary64 number, or a text that
reads as a number in full. Any other argument, null included, gives null. The functions compute
on the machine's binary64 numbers and give a binary64 number, null when it is NaN.

`ceil`, `ceiling`, `floor` and `trunc` give an integer argument back as it is. `ln`, `log`,
`log10` and `log2` give null for an argument that is not positive; `log(b, x)` is the logarithm
of `x` to the base `b`, null unless `ln b` is positive, and its second argument is read as a
number whatever it is. -/

namespace MapReduce.Sql

/-- The number a value stands for in a mathematical function, none when it stands for none. -/
def Value.numericArg (v : Value) : Option Value :=
  match v.compareForm .numeric with
  | .int i => some (.int i)
  | .real x => some (.real x)
  | _ => none

/-- A machine result as a value; NaN gives null. -/
def machineResult (f : Float) : Value :=
  let x := Float64.ofFloat f
  if x.isNaN then .null else .real x

/-- The machine number of a numeric value. -/
def Value.toFloat (v : Value) : Float := v.toReal.toFloat

/-- A function of one number. -/
def mathOne (f : Float → Float) (v : Value) : Value :=
  match v.numericArg with
  | some w => machineResult (f w.toFloat)
  | none => .null

/-- A function of two numbers. -/
def mathTwo (f : Float → Float → Float) (v w : Value) : Value :=
  match v.numericArg, w.numericArg with
  | some a, some b => machineResult (f a.toFloat b.toFloat)
  | _, _ => .null

/-- A rounding to an integral number: an integer stays as it is. -/
def mathRounding (f : Float → Float) (v : Value) : Value :=
  match v.numericArg with
  | some (.int i) => .int i
  | some w => machineResult (f w.toFloat)
  | none => .null

/-- The integral part of a machine number, toward zero. -/
def truncFloat (f : Float) : Float := if f ≥ 0 then f.floor else f.ceil

/-- The machine number nearest to π. -/
def machinePi : Float := Float.ofBits 0x400921FB54442D18

/-- `ln`, `log`, `log10` and `log2` of one argument, with the logarithm to apply. -/
def logOne (f : Float → Float) (v : Value) : Value :=
  match v.numericArg with
  | some w =>
    let x := w.toFloat
    if x ≤ 0 then .null else machineResult (f x)
  | none => .null

/-- `log(b, x)`. -/
def logTwo (b x : Value) : Value :=
  match b.numericArg with
  | some w =>
    let base := w.toFloat
    if base ≤ 0 then .null
    else
      let lb := base.log
      if lb ≤ 0 then .null
      else
        let y := x.toFloat
        if y ≤ 0 then .null else machineResult (y.log / lb)
  | none => .null

/-- The remainder of a division, as `fmod` computes it. -/
def modValue (v w : Value) : Value :=
  match v.numericArg, w.numericArg with
  | some a, some b =>
    let r := Float64.fmod a.toReal b.toReal
    if r.isNaN then .null else .real r
  | _, _ => .null

/-- The mathematical function of a name and its arguments, none when the name is not one. -/
def mathFunction (fn : String) (args : List Value) : Option Value :=
  match fn, args with
  | "ceil", [x] | "ceiling", [x] => some (mathRounding Float.ceil x)
  | "floor", [x] => some (mathRounding Float.floor x)
  | "trunc", [x] => some (mathRounding truncFloat x)
  | "ln", [x] => some (logOne Float.log x)
  | "log", [x] | "log10", [x] => some (logOne Float.log10 x)
  | "log2", [x] => some (logOne Float.log2 x)
  | "log", [b, x] => some (logTwo b x)
  | "exp", [x] => some (mathOne Float.exp x)
  | "pow", [x, y] | "power", [x, y] => some (mathTwo Float.pow x y)
  | "mod", [x, y] => some (modValue x y)
  | "acos", [x] => some (mathOne Float.acos x)
  | "asin", [x] => some (mathOne Float.asin x)
  | "atan", [x] => some (mathOne Float.atan x)
  | "atan2", [y, x] => some (mathTwo Float.atan2 y x)
  | "cos", [x] => some (mathOne Float.cos x)
  | "sin", [x] => some (mathOne Float.sin x)
  | "tan", [x] => some (mathOne Float.tan x)
  | "cosh", [x] => some (mathOne Float.cosh x)
  | "sinh", [x] => some (mathOne Float.sinh x)
  | "tanh", [x] => some (mathOne Float.tanh x)
  | "acosh", [x] => some (mathOne Float.acosh x)
  | "asinh", [x] => some (mathOne Float.asinh x)
  | "atanh", [x] => some (mathOne Float.atanh x)
  | "sqrt", [x] => some (mathOne Float.sqrt x)
  | "radians", [x] => some (mathOne (· * (machinePi / 180.0)) x)
  | "degrees", [x] => some (mathOne (· * (180.0 / machinePi)) x)
  | "pi", [] => some (.real (Float64.ofFloat machinePi))
  | _, _ => none

/-- The numbers of arguments a mathematical function takes, none when the name is not one. -/
def mathArity (fn : String) (n : Nat) : Option Bool :=
  match fn with
  | "ceil" | "ceiling" | "floor" | "trunc" | "ln" | "log10" | "log2" | "exp" | "acos" | "asin"
  | "atan" | "cos" | "sin" | "tan" | "cosh" | "sinh" | "tanh" | "acosh" | "asinh" | "atanh"
  | "sqrt" | "radians" | "degrees" => some (n = 1)
  | "log" => some (n = 1 || n = 2)
  | "pow" | "power" | "mod" | "atan2" => some (n = 2)
  | "pi" => some (n = 0)
  | _ => none

end MapReduce.Sql
