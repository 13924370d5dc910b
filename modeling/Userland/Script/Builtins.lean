import Userland.Script.Lib.Host
import Userland.Script.Lib.Promise
import Userland.Script.Lib.Function
import Userland.Script.Lib.Global
import Userland.Script.Lib.Object
import Userland.Script.Lib.Array
import Userland.Script.Lib.Collection
import Userland.Script.Lib.Json
import Userland.Script.Lib.Number
import Userland.Script.Lib.String
import Userland.Script.Lib.Date

namespace Userland

/-! # The builtin functions

Every builtin function object names what it does with a `Native`; this
module runs the ones that need nothing of the machine but the callbacks of
object operations. Resuming generators and asynchronous functions needs the
machine itself and happens where calls are made.
-/

namespace Script

namespace Builtins

open Eval

/-- Runs a builtin with its `this`, arguments, and `new.target` when called with `new`. -/
def run (cb : Callbacks) (n : Native) (this : Value) (args : List Value) (newTarget : Option Value) :
    Eval Value := do
  match n with
  | .host f => Host.run cb f args
  | .promise f => Promise.run cb f this args newTarget
  | .function f => Functions.run cb f this args
  | .global f => Global.run cb f args
  | .error k => Global.construct cb k args newTarget
  | .errorToString => Global.errorText cb this
  | .object f => Objects.run cb f this args newTarget
  | .reflect f => Objects.reflect cb f args
  | .proxy f => Objects.proxy f args newTarget
  | .array f => Arrays.run cb f this args newTarget
  | .map f => Collections.mapRun cb f this args newTarget
  | .set f => Collections.setRun cb f this args newTarget
  | .weak f => Collections.weakRun cb f this args newTarget
  | .iter .regexpNext => RegExp.iterNext cb this
  | .iter f => Collections.iterRun cb f this
  | .string f => Strings.run cb f this args newTarget
  | .regexp f => RegExp.run cb f this args newTarget
  | .json f => Json.run cb f args
  | .number f => Numbers.run cb f this args newTarget
  | .boolean f => Numbers.boolean cb f this args newTarget
  | .symbol f => Numbers.symbol cb f this args newTarget
  | .bigint f => Numbers.bigint cb f this args newTarget
  | .math f => Numbers.math cb f args
  | .date f => Dates.run cb f this args newTarget
  | _ => throwType "Not supported"

end Builtins

end Script

end Userland
