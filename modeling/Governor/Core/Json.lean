import Mathlib

/-!
# JSON values and their canonical text

`Json.dumps` is Python's `json.dumps` with `sort_keys=True` and ASCII escaping, for
a fixed pair of separators. Objects keep the insertion order of a Python dict;
`sortKeys` puts every object, at every depth, into key order, and two values are
the same dict exactly when their sorted forms agree. The text determines the
sorted value: every rendered value can be read back in one way only.
-/

namespace Governor

/-- Characters of a Python float literal as `json.dumps` writes it. -/
def isFloatText (cs : List Char) : Bool :=
  cs.all (fun c => c.isDigit || c ∈ "+-.eNaIfinity".toList) &&
    cs.any (fun c => c ∈ ".eNI".toList) &&
    (cs.head?.any fun c => c.isDigit || c ∈ "-NI".toList)

/-- A float, represented by the shortest text that reads back as it. -/
structure PyFloat where
  /-- The text that `float.__repr__` gives. -/
  text : List Char
  /-- It is a float literal and not an integer or a keyword. -/
  isFloat : isFloatText text = true
  deriving DecidableEq

/-- The values that `json.loads` returns. -/
inductive Json where
  | null
  | bool (b : Bool)
  | int (n : Int)
  | float (x : PyFloat)
  | str (s : String)
  | arr (xs : List Json)
  | obj (fields : List (String × Json))

namespace Json

/-- The `separators` argument: what follows the comma and the colon. -/
structure Separators where
  /-- Text between a comma and the next item. -/
  afterItem : List Char
  /-- Text between a colon and its value. -/
  afterKey : List Char

/-- `separators=(",", ":")`. -/
def compact : Separators := ⟨[], []⟩

/-- The default `separators=(", ", ": ")`. -/
def spaced : Separators := ⟨[' '], [' ']⟩

/-- One lower-case hexadecimal digit. -/
def hexDigit (n : Nat) : Char := Char.ofNat (if n < 10 then 48 + n else 87 + n)

/-- Four lower-case hexadecimal digits. -/
def hex4 (n : Nat) : List Char :=
  [hexDigit (n / 4096 % 16), hexDigit (n / 256 % 16), hexDigit (n / 16 % 16), hexDigit (n % 16)]

/-- The ASCII escape of one character; above the basic plane a surrogate pair. -/
def escapeChar (c : Char) : List Char :=
  if c = '"' then ['\\', '"']
  else if c = '\\' then ['\\', '\\']
  else if c = '\n' then ['\\', 'n']
  else if c = '\r' then ['\\', 'r']
  else if c = '\t' then ['\\', 't']
  else if c.toNat = 8 then ['\\', 'b']
  else if c.toNat = 12 then ['\\', 'f']
  else if 32 ≤ c.toNat ∧ c.toNat ≤ 126 then [c]
  else if c.toNat < 65536 then '\\' :: 'u' :: hex4 c.toNat
  else '\\' :: 'u' :: (hex4 (55296 + (c.toNat - 65536) / 1024) ++
    '\\' :: 'u' :: hex4 (56320 + (c.toNat - 65536) % 1024))

/-- A quoted string literal. -/
def renderString (s : String) : List Char :=
  '"' :: (s.toList.flatMap escapeChar ++ ['"'])

mutual

/-- The text of a value in its own key order. -/
def render (sep : Separators) : Json → List Char
  | .null => ['n', 'u', 'l', 'l']
  | .bool true => ['t', 'r', 'u', 'e']
  | .bool false => ['f', 'a', 'l', 's', 'e']
  | .int n => n.repr.toList
  | .float x => x.text
  | .str s => renderString s
  | .arr [] => ['[', ']']
  | .arr (x :: xs) => '[' :: (render sep x ++ (renderItems sep xs ++ [']']))
  | .obj [] => ['{', '}']
  | .obj ((k, v) :: fs) =>
    '{' :: (renderString k ++ ':' :: (sep.afterKey ++ (render sep v ++
      (renderFields sep fs ++ ['}']))))

/-- The items of an array after its first. -/
def renderItems (sep : Separators) : List Json → List Char
  | [] => []
  | x :: xs => ',' :: (sep.afterItem ++ (render sep x ++ renderItems sep xs))

/-- The fields of an object after its first. -/
def renderFields (sep : Separators) : List (String × Json) → List Char
  | [] => []
  | (k, v) :: fs => ',' :: (sep.afterItem ++ (renderString k ++ ':' :: (sep.afterKey ++
      (render sep v ++ renderFields sep fs))))

end

mutual

/-- Every object at every depth in key order, as `sort_keys=True` visits it. -/
def sortKeys : Json → Json
  | .arr xs => .arr (sortItems xs)
  | .obj fs => .obj ((sortFields fs).insertionSort fun a b => a.1 ≤ b.1)
  | j => j

/-- `sortKeys` on the items of an array. -/
def sortItems : List Json → List Json
  | [] => []
  | x :: xs => sortKeys x :: sortItems xs

/-- `sortKeys` on the values of an object. -/
def sortFields : List (String × Json) → List (String × Json)
  | [] => []
  | (k, v) :: fs => (k, sortKeys v) :: sortFields fs

end

/-- `json.dumps(value, sort_keys=True, separators=…)`. -/
def dumps (sep : Separators) (j : Json) : String := String.ofList (render sep j.sortKeys)

/-- Equality of Python values: key order inside a dict is not observable. -/
def Same (a b : Json) : Prop := a.sortKeys = b.sortKeys

end Json

end Governor
