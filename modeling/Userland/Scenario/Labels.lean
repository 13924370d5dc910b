import Userland.Json.Basic

namespace Userland

/-! # Terminal labels

Terminal ids are random, so answers show them as labels: `$term1` for the
first id to appear, `$term2` for the next, and so on. Every id in any text of
an answer is replaced by its label, and labels in requests stand for the ids
they were given to.

An id is 36 characters: groups of 8, 4, 4, 4 and 12 lowercase hexadecimal
digits joined by dashes.
-/

namespace Scenario

/-- The ids seen so far, in the order they first appeared. -/
structure Labels where
  ids : List String
  deriving Inhabited, Repr

/-- No ids seen. -/
def Labels.empty : Labels := ⟨[]⟩

/-- Whether characters are an id. -/
def isId (cs : List Char) : Bool :=
  cs.length == 36 &&
    (cs.zipIdx.all fun (c, i) =>
      if i == 8 || i == 13 || i == 18 || i == 23 then c == '-'
      else c.isDigit || ('a' ≤ c && c ≤ 'f'))

namespace Labels

/-- The label of an id, adding it when new. -/
def labelOf (l : Labels) (id : String) : Labels × String :=
  match l.ids.idxOf? id with
  | some i => (l, "$term" ++ toString (i + 1))
  | none => (⟨l.ids ++ [id]⟩, "$term" ++ toString (l.ids.length + 1))

/-- A text with every id replaced by its label. -/
def maskText (l : Labels) (s : String) : Labels × String :=
  let rec go : Nat → List Char → Labels → List Char → Labels × List Char
    | 0, rest, l, acc => (l, acc.reverse ++ rest)
    | _ + 1, [], l, acc => (l, acc.reverse)
    | fuel + 1, c :: rest, l, acc =>
      let front := (c :: rest).take 36
      if isId front then
        let (l, label) := l.labelOf (String.ofList front)
        go fuel ((c :: rest).drop 36) l (label.toList.reverse ++ acc)
      else go fuel rest l (c :: acc)
  let (l, cs) := go (s.length + 1) s.toList l []
  (l, String.ofList cs)

/-- A value with every id in its texts replaced by its label, at most `fuel`
levels deep. -/
def maskJson (l : Labels) : Nat → Json → Labels × Json
  | 0, j => (l, j)
  | _ + 1, .str s =>
    let (l, s) := l.maskText s
    (l, .str s)
  | fuel + 1, .arr xs =>
    let (l, ys) := xs.foldl (fun (acc : Labels × List Json) x =>
      let (l, y) := acc.1.maskJson fuel x
      (l, acc.2 ++ [y])) (l, [])
    (l, .arr ys)
  | fuel + 1, .obj fs =>
    let (l, gs) := fs.foldl (fun (acc : Labels × List (String × Json)) (k, v) =>
      let (l, w) := acc.1.maskJson fuel v
      (l, acc.2 ++ [(k, w)])) (l, [])
    (l, .obj gs)
  | _, j => (l, j)

/-- The id a label stands for. -/
def resolve? (l : Labels) (label : String) : Option String :=
  if label.startsWith "$term" then
    match (label.drop 5).toString.toNat? with
    | some n => if n ≥ 1 then l.ids[n - 1]? else none
    | none => none
  else none

/-- A text with every label that stands for an id replaced by the id. -/
def substitute (l : Labels) (s : String) : String :=
  let rec go : Nat → List Char → List Char → List Char
    | 0, rest, acc => acc.reverse ++ rest
    | _ + 1, [], acc => acc.reverse
    | fuel + 1, c :: rest, acc =>
      if c == '$' && (c :: rest).take 5 == "$term".toList then
        let digits := (rest.drop 4).takeWhile Char.isDigit
        match l.resolve? ("$term" ++ String.ofList digits) with
        | some id =>
          if digits.isEmpty then go fuel rest (c :: acc)
          else go fuel (rest.drop (4 + digits.length)) (id.toList.reverse ++ acc)
        | none => go fuel rest (c :: acc)
      else go fuel rest (c :: acc)
  String.ofList (go (s.length + 1) s.toList [])

end Labels

end Scenario

end Userland
