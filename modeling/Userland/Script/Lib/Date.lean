import Userland.Script.Calendar
import Userland.Script.Lib.Number

namespace Userland

/-! # Dates

A date object holds one time value, a double that is a whole number of
milliseconds or NaN for an invalid date. `Date` makes one from the machine's
clock, from a time value, from a text in one of the forms the calendar reads,
or from its fields; called without `new` it gives the text of the present
moment. The getters read fields of the time value (local time is universal
time), the setters replace fields from a first one on and compose the time
again, and the texts come from the calendar. An invalid date reads NaN from
every getter and prints as `Invalid Date`, except in the ISO form, where it is
a range error.
-/

namespace Script

namespace Dates

open Eval

/-- The present moment as a time value: the machine's wall clock in milliseconds. -/
def now : Eval Int := do
  let ns ← task (Prog.read fun m => m.clock)
  return wallEpoch * 1000 + (ns / 1000000 : Nat)

/-- A double as a time value: whole milliseconds, NaN beyond the range of times. -/
def timeClip (x : Float) : Float :=
  match Calendar.ofFloat x with
  | some t => Number.ofInt t
  | none => Number.nan

/-- The time value of a date object, for the methods of `Date.prototype`. -/
def thisTime (cb : Callbacks) (this : Value) (method : String) : Eval (Nat × Float) := do
  match this with
  | .obj r =>
    match (← getObj r).kind with
    | .date t => return (r, t)
    | _ =>
      throwType ("Method Date.prototype." ++ method ++ " is called on incompatible receiver " ++
        (← toText cb this))
  | _ =>
    throwType ("Method Date.prototype." ++ method ++ " is called on incompatible receiver " ++
      (← toText cb this))

/-- The time value of fields given as numbers: year, month and on, as many as
given; a year from 0 to 99 is one of the 1900s. NaN when a field is not finite. -/
def ofFields (xs : List Float) : Float :=
  if xs.any fun x => x.isNaN || x.isInf then Number.nan
  else
    let ns := xs.map fun x => (Decimal.truncate x).getD 0
    let field (i : Nat) (dflt : Int) : Int := ns.getD i dflt
    let y := field 0 0
    let y := if 0 ≤ y && y ≤ 99 then 1900 + y else y
    Calendar.clip (Calendar.compose y (field 1 0) (field 2 1) (field 3 0) (field 4 0) (field 5 0) (field 6 0))

/-- Sets a date object's time value and answers it. -/
def setTime (r : Nat) (t : Float) : Eval Value := do
  modifyObj r fun o => { o with kind := .date t }
  return .num t

/-- A text of a date, or `Invalid Date` for an invalid one. -/
def textOf (t : Float) (f : Int → String) : Value :=
  match Calendar.ofFloat t with
  | some ms => Value.ofString (f ms)
  | none => Value.ofString "Invalid Date"

/-- Runs a function of `Date` or `Date.prototype`. -/
def run (cb : Callbacks) (f : DateFn) (this : Value) (args : List Value) (newTarget : Option Value) :
    Eval Value := do
  let a0 := arg args 0
  match f with
  | .ctor =>
    match newTarget with
    | none => return Value.ofString (Calendar.longText (← now))
    | some nt =>
      let t ← match args with
        | [] => pure (Number.ofInt (← now))
        | [v] =>
          let fromObj ← match v with
            | .obj r =>
              match (← getObj r).kind with
              | .date t => pure (some t)
              | _ => pure none
            | _ => pure none
          match fromObj with
          | some t => pure t
          | none =>
            match ← toPrimitive cb v .default with
            | .str s => pure ((Calendar.parse s.lossy).elim Number.nan Number.ofInt)
            | p => pure (timeClip (← toNumber cb p))
        | _ => pure (ofFields (← (args.take 7).mapM (toNumber cb)))
      let proto ← Numbers.protoOf cb nt (← intr).dateProto
      return .obj (← alloc (Obj.ofKind (.date t) (some proto)))
  | .now => return .num (Number.ofInt (← now))
  | .parse =>
    let s ← toStr cb a0
    return .num ((Calendar.parse s.lossy).elim Number.nan Number.ofInt)
  | .utc =>
    if args.isEmpty then return .num Number.nan
    return .num (ofFields (← (args.take 7).mapM (toNumber cb)))
  | .getTime => return .num (← thisTime cb this "getTime").2
  | .valueOf => return .num (← thisTime cb this "valueOf").2
  | .getTimezoneOffset =>
    let (_, t) ← thisTime cb this "getTimezoneOffset"
    return .num (if t.isNaN then t else 0)
  | .getField field _ =>
    let (_, t) ← thisTime cb this "getField"
    match Calendar.ofFloat t with
    | some ms => return .num (Number.ofInt ((Calendar.fields ms).get field))
    | none => return .num Number.nan
  | .getYear =>
    let (_, t) ← thisTime cb this "getYear"
    match Calendar.ofFloat t with
    | some ms => return .num (Number.ofInt ((Calendar.fields ms).year - 1900))
    | none => return .num Number.nan
  | .setFields first count _ =>
    let (r, t) ← thisTime cb this "setFields"
    let given := max 1 (min count args.length)
    let xs ← (List.range given).mapM fun k => toNumber cb (arg args k)
    let base := match Calendar.ofFloat t with
      | some ms => some ms
      | none => if first == 0 then some 0 else none
    match base with
    | none => return .num Number.nan
    | some ms =>
      if xs.any fun x => x.isNaN || x.isInf then setTime r Number.nan
      else
        let fs := Calendar.fields ms
        let now : List Int := (List.range 7).map fs.get
        let ns := xs.map fun x => (Decimal.truncate x).getD 0
        let vals := (List.range 7).map fun i =>
          if first ≤ i && i < first + given then ns.getD (i - first) 0 else now.getD i 0
        let v (i : Nat) : Int := vals.getD i 0
        setTime r (Calendar.clip (Calendar.compose (v 0) (v 1) (v 2) (v 3) (v 4) (v 5) (v 6)))
  | .setTime =>
    let (r, _) ← thisTime cb this "setTime"
    setTime r (timeClip (← toNumber cb a0))
  | .setYear =>
    let (r, t) ← thisTime cb this "setYear"
    let y ← toNumber cb a0
    if y.isNaN || y.isInf then setTime r Number.nan
    else
      let yi := (Decimal.truncate y).getD 0
      let yi := if 0 ≤ yi && yi ≤ 99 then 1900 + yi else yi
      let fs := Calendar.fields ((Calendar.ofFloat t).getD 0)
      setTime r (Calendar.clip (Calendar.compose yi fs.month fs.day fs.hour fs.minute fs.second fs.millisecond))
  | .toISOString =>
    let (_, t) ← thisTime cb this "toISOString"
    match Calendar.ofFloat t with
    | some ms => return Value.ofString (Calendar.isoText ms)
    | none => throwRange "Invalid time value"
  | .toJSON =>
    let o : Value := .obj (← toObject this)
    let tv ← toPrimitive cb o .number
    match tv with
    | .num x => if x.isNaN || x.isInf then return .null
    | _ => pure ()
    match ← getMethod cb o (keyOf "toISOString") with
    | some m => cb.call m o []
    | none => throwType "toISOString is not a function"
  | .toString => return textOf (← thisTime cb this "toString").2 Calendar.longText
  | .toDateString => return textOf (← thisTime cb this "toDateString").2 Calendar.dateText
  | .toTimeString => return textOf (← thisTime cb this "toTimeString").2 Calendar.timeText
  | .toUTCString => return textOf (← thisTime cb this "toUTCString").2 Calendar.mailText
  | .toLocaleString =>
    return textOf (← thisTime cb this "toLocaleString").2 fun ms =>
      Calendar.shortDateText ms ++ ", " ++ Calendar.shortTimeText ms
  | .toLocaleDateString => return textOf (← thisTime cb this "toLocaleDateString").2 Calendar.shortDateText
  | .toLocaleTimeString => return textOf (← thisTime cb this "toLocaleTimeString").2 Calendar.shortTimeText
  | .toPrimitive =>
    match this with
    | .obj r =>
      match a0 with
      | .str s =>
        if s.lossy == "string" || s.lossy == "default" then ordinaryToPrimitive cb r .string
        else if s.lossy == "number" then ordinaryToPrimitive cb r .number
        else throwType ("Invalid hint: " ++ (← toText cb a0))
      | _ => throwType ("Invalid hint: " ++ (← toText cb a0))
    | _ => throwType ("Value is not an object: " ++ (← toText cb this))

end Dates

end Script

end Userland
