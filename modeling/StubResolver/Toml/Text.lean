import StubResolver.Toml.Scalar

/-!
# TOML text

A document is read line by line into its table; a value may run over several lines between
brackets. Dotted keys and nested values are kept short.
-/

namespace StubResolver.Toml

/-- A space or a tab. -/
def isBlank (c : Char) : Bool :=
  c == ' ' || c == '\t'

/-- What is left behind blanks, line breaks and comments. -/
def afterSpace? : List Char → Bool → Option (List Char)
  | [], _ => some []
  | c :: rest, inComment =>
    if c = '\n' then afterSpace? rest false
    else if inComment then (if isPrintable c then afterSpace? rest true else none)
    else if isBlank c then afterSpace? rest false
    else if c = '#' then afterSpace? rest true
    else some (c :: rest)

/-- What is left behind blanks. -/
def afterBlanks (cs : List Char) : List Char :=
  cs.dropWhile isBlank

/-- What is left behind the end of a line, which may hold a comment. -/
def afterLine? (cs : List Char) : Option (List Char) :=
  match afterBlanks cs with
  | [] => some []
  | c :: rest => if c = '\n' ∨ c = '#' then afterSpace? (c :: rest) false else none

/-- A character of a key without quotes. -/
def isKeyChar (c : Char) : Bool :=
  c.isAlphanum || c == '_' || c == '-'

/-- A key, and what is left. -/
def key? (cs : List Char) : Option (String × List Char) :=
  match cs with
  | [] => none
  | c :: rest =>
    if c = '"' ∨ c = '\'' then quotedText? c rest
    else
      let word := cs.takeWhile isKeyChar
      if word.isEmpty then none else some (String.ofList word, cs.drop word.length)

/-- How many keys a dotted key may have, and how many lists and tables may stand one in the other
in a value. -/
def depthLimit : Nat := 79

/-- The last key of a dotted key and those before it, and what is left behind it and blanks. The
number bounds how many keys there are. -/
def path? : Nat → List String → List Char → Option ((List String × String) × List Char)
  | 0, _, _ => none
  | n + 1, before, cs => do
    let (key, rest) ← key? (afterBlanks cs)
    match afterBlanks rest with
    | '.' :: rest => path? n (before ++ [key]) rest
    | rest => return ((before, key), rest)

mutual

/-- A value, and what is left. The first number bounds the depth of the reading, here as below; the
second is how many lists and tables may stand one in the other. -/
def value? : Nat → Nat → List Char → Option (Toml × List Char)
  | 0, _, _ => none
  | depth + 1, nesting, cs =>
    match cs with
    | [] => none
    | c :: rest =>
      if c = '"' ∨ c = '\'' then (text? c cs).map fun (s, rest) => (.text s, rest)
      else if c = '[' then
        if nesting = 0 then none
        else
          (items? depth (nesting - 1) [] rest).map fun (items, rest) => (.list items, rest)
      else if c.toNat = 123 then
        match afterBlanks rest with
        | [] => none
        | d :: rest =>
          if nesting = 0 then none
          else if d.toNat = 125 then some (.table .closed [], rest)
          else
            (members? depth (nesting - 1) [] (d :: rest)).map fun (ms, rest) =>
              (.table .closed ms, rest)
      else do
        let word := wordOf cs
        return (← word? word, cs.drop word.length)

/-- The items between brackets, behind those of `done`, which has the last one first. -/
def items? : Nat → Nat → List Toml → List Char → Option (List Toml × List Char)
  | 0, _, _, _ => none
  | depth + 1, nesting, done, cs => do
    match ← afterSpace? cs false with
    | ']' :: rest => return (done.reverse, rest)
    | cs =>
      let (v, rest) ← value? depth nesting cs
      match ← afterSpace? rest false with
      | ',' :: rest => items? depth nesting (v :: done) rest
      | ']' :: rest => return ((v :: done).reverse, rest)
      | _ => none

/-- The members between braces, behind those of `done`. -/
def members? : Nat → Nat → Members → List Char → Option (Members × List Char)
  | 0, _, _, _ => none
  | depth + 1, nesting, done, cs => do
    let ((path, key), rest) ← path? depthLimit [] cs
    let (v, rest) ← value? depth nesting (afterBlanks (← behind? '=' rest))
    let ms ← define path key v done
    match afterBlanks rest with
    | ',' :: rest => members? depth nesting ms rest
    | c :: rest => if c.toNat = 125 then some (ms, rest) else none
    | [] => none

end

/-- A document under way: its table so far, and the path of the last header. -/
structure Draft where
  document : Members
  header : List String

/-- A header, and what is left. -/
def header? (d : Draft) (cs : List Char) : Option (Draft × List Char) := do
  match cs with
  | '[' :: cs =>
    let ((path, key), rest) ← path? depthLimit [] cs
    let rest ← behind? ']' (← behind? ']' rest)
    return (⟨← appendTable path key d.document, path ++ [key]⟩, rest)
  | cs =>
    let ((path, key), rest) ← path? depthLimit [] cs
    return (⟨← openTable path key d.document, path ++ [key]⟩, ← behind? ']' rest)

/-- A key with its value, and what is left. The number bounds the depth of the reading. -/
def member? (depth : Nat) (d : Draft) (cs : List Char) : Option (Draft × List Char) := do
  let ((path, key), rest) ← path? depthLimit [] cs
  let (v, rest) ← value? depth depthLimit (afterBlanks (← behind? '=' rest))
  return ({ d with document := ← defineIn d.header path key v d.document }, rest)

/-- The table of a document. The number bounds the lines, of which each has at least one
character, and the depth of the reading in each. -/
def document? : Nat → Draft → List Char → Option Members
  | 0, _, _ => none
  | n + 1, d, cs => do
    match ← afterSpace? cs false with
    | [] => return d.document
    | c :: rest =>
      let (d, rest) ← if c = '[' then header? d rest else member? (n + 1) d (c :: rest)
      document? n d (← afterLine? rest)

/-- A text with a line feed for each pair of carriage return and line feed. -/
def withLineFeeds : List Char → List Char
  | [] => []
  | '\r' :: '\n' :: rest => '\n' :: withLineFeeds rest
  | c :: rest => c :: withLineFeeds rest

/-- The table of a text, which may have a byte order mark before it. -/
def ofText? (text : String) : Option Toml := do
  let cs := text.toList
  let body := withLineFeeds (if cs.head?.map Char.toNat = some 0xFEFF then cs.tail else cs)
  return .table .header (← document? (body.length + 1) ⟨[], []⟩ body)

end StubResolver.Toml
