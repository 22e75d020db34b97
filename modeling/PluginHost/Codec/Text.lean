import PluginHost.Codec.Basic

set_option autoImplicit false

namespace PluginHost.Codec

open Json (Cursor Reading)

/-- The fault of a value of another type than the expected one. Words, numbers and strings are read
to their end first; a container is named by its opening bracket. -/
def mismatch {α : Type} (expected : String) (c : Cursor) : Reading α :=
  let named (found : Found) (c : Cursor) : Reading α :=
    .error ⟨.wrongType found expected, some (c.line, c.column)⟩
  match c.rest with
  | 'n' :: _ =>
    match Cursor.literal "ull" .null c with
    | .error e => .error e
    | .ok (_, c) => named .null c
  | 't' :: _ =>
    match Cursor.literal "rue" .null c with
    | .error e => .error e
    | .ok (_, c) => named (.bool true) c
  | 'f' :: _ =>
    match Cursor.literal "alse" .null c with
    | .error e => .error e
    | .ok (_, c) => named (.bool false) c
  | '-' :: _ =>
    match Cursor.number false (c.skip 1) with
    | .error e => .error e
    | .ok (token, c) => named token.found c
  | '"' :: _ =>
    match Cursor.string (c.skip 1) with
    | .error e => .error e
    | .ok (s, c) => named (.string s) c
  | '[' :: _ => named .sequence c
  | '\x7b' :: _ => named .map c
  | letter :: _ =>
    if letter.isDigit then
      match Cursor.number true c with
      | .error e => .error e
      | .ok (token, c) => named token.found c
    else c.failNext .expectedValue
  | [] => c.failNext .expectedValue

/-- Turns what was read into a value, or into a fault where the reading stands. -/
def settle {α β : Type} (convert : α → Except ReadFault β) : Reading α → Reading β
  | .error e => .error e
  | .ok (x, c) =>
    match c.settle (convert x) with
    | .error e => .error e
    | .ok y => .ok (y, c)

def numberToken (expected : String) (c : Cursor) : Reading Json :=
  match c.rest with
  | '-' :: _ => Cursor.numberJson false (c.skip 1)
  | letter :: _ => if letter.isDigit then Cursor.numberJson true c else mismatch expected c
  | [] => mismatch expected c

def stringToken (expected : String) (c : Cursor) : Reading String :=
  match c.rest with
  | '"' :: _ => Cursor.string (c.skip 1)
  | _ => mismatch expected c

def nullToken (expected : String) (c : Cursor) : Reading Unit :=
  match c.rest with
  | 'n' :: _ =>
    match (c.skip 1).word ['u', 'l', 'l'] with
    | .error e => .error e
    | .ok c => .ok ((), c)
  | _ => mismatch expected c

/-- A value needs a character at least. -/
def nonempty {α : Type} (read : Cursor → Reading α) (c : Cursor) : Reading α :=
  let c := c.skipBlanks
  match c.rest with
  | [] => c.fail .endInValue
  | _ => read c

/-- What opens inside one container; none may open beyond the limit. -/
def opening {α : Type} (inside : Nat → Cursor → Reading α) (depth : Nat) (c : Cursor) : Reading α :=
  match depth with
  | 0 => c.failNext .tooDeep
  | depth + 1 => inside depth (c.skip 1)

/-- The two items of a pair and the end of their list. -/
def pairItems {α β : Type} (first : Cursor → Reading α) (second : Cursor → Reading β) (c : Cursor) :
    Reading (α × β) :=
  let short (length : Nat) (c : Cursor) : Reading (α × β) :=
    let c := match c.closeList with
      | .ok c => c
      | .error _ => c
    .error ⟨.wrongLength length "a tuple of size 2", some (c.line, c.column)⟩
  match c.nextItem true with
  | .error e => .error e
  | .ok (false, c) => short 0 c
  | .ok (true, c) =>
    match first c with
    | .error e => .error e
    | .ok (x, c) =>
      match c.nextItem false with
      | .error e => .error e
      | .ok (false, c) => short 1 c
      | .ok (true, c) =>
        match second c with
        | .error e => .error e
        | .ok (y, c) =>
          match c.closeList with
          | .error e => .error e
          | .ok c => .ok ((x, y), c)

/-- Passes over a number, of which only the form matters. -/
def passNumber (c : Cursor) : Except ReadError Cursor :=
  let digits (c : Cursor) : Cursor := c.skip (Json.leadingDigits c.rest).length
  let exponentPart (c : Cursor) : Except ReadError Cursor :=
    match c.rest with
    | 'e' :: rest | 'E' :: rest =>
      let c := c.skip 1
      let c := match rest with
        | '+' :: _ | '-' :: _ => c.skip 1
        | _ => c
      match c.rest with
      | letter :: _ => if letter.isDigit then .ok (digits c) else c.failNext .invalidNumber
      | [] => c.fail .invalidNumber
    | _ => .ok c
  let fractionPart (c : Cursor) : Except ReadError Cursor :=
    match c.rest with
    | '.' :: _ =>
      let c := c.skip 1
      if (Json.leadingDigits c.rest).isEmpty then c.failNext .invalidNumber
      else exponentPart (digits c)
    | _ => exponentPart c
  match c.rest with
  | '0' :: letter :: _ =>
    if letter.isDigit then (c.skip 1).failNext .invalidNumber else fractionPart (c.skip 1)
  | letter :: _ => if letter.isDigit then fractionPart (digits c) else c.failNext .invalidNumber
  | [] => c.fail .invalidNumber

/-- Passes over a value that nobody wants, however deep it is. `opened` lists the containers that
are open, the innermost first: whether each is an object. -/
def passValue : Nat → List Bool → Cursor → Except ReadError Cursor
  | 0, _, c => c.fail .endInValue
  | fuel + 1, opened, c =>
    let c := c.skipBlanks
    /- Behind a value: a comma, the ends of containers, or the end of the whole. -/
    let rec close : Nat → Bool → List Bool → Cursor → Except ReadError (Option (Bool × List Bool) × Cursor)
      | 0, _, _, c => c.fail .endInValue
      | _ + 1, _, [], c => .ok (none, c)
      | rounds + 1, comma, object :: outer, c =>
        let c := c.skipBlanks
        match c.rest with
        | [] => c.fail (if object then .endInObject else .endInList)
        | letter :: _ =>
          if letter = ',' ∧ comma then .ok (some (object, outer), c.skip 1)
          else if letter = (if object then '\x7d' else ']') then close rounds true outer (c.skip 1)
          else if comma then c.failNext (if object then .expectedObjectEnd else .expectedListEnd)
          else .ok (some (object, outer), c)
    let next (opened : List Bool) (comma : Bool) (c : Cursor) : Except ReadError Cursor :=
      match close (opened.length + 1) comma opened c with
      | .error e => .error e
      | .ok (none, c) => .ok c
      | .ok (some (false, outer), c) => passValue fuel (false :: outer) c
      | .ok (some (true, outer), c) =>
        let c := c.skipBlanks
        match c.rest with
        | '"' :: _ =>
          match Cursor.string (c.skip 1) with
          | .error e => .error e
          | .ok (_, c) =>
            match c.colon with
            | .error e => .error e
            | .ok c => passValue fuel (true :: outer) c
        | [] => c.fail .endInObject
        | _ => c.failNext .keyNotString
    let after (read : Except ReadError Cursor) : Except ReadError Cursor :=
      match read with
      | .error e => .error e
      | .ok c => next opened true c
    match c.rest with
    | [] => c.fail .endInValue
    | 'n' :: _ => after ((c.skip 1).word ['u', 'l', 'l'])
    | 't' :: _ => after ((c.skip 1).word ['r', 'u', 'e'])
    | 'f' :: _ => after ((c.skip 1).word ['a', 'l', 's', 'e'])
    | '-' :: _ => after (passNumber (c.skip 1))
    | '"' :: _ => after ((Cursor.string (c.skip 1)).map Prod.snd)
    | '[' :: _ => next (false :: opened) false (c.skip 1)
    | '\x7b' :: _ => next (true :: opened) false (c.skip 1)
    | letter :: _ => if letter.isDigit then after (passNumber c) else c.failNext .expectedValue

def pass (c : Cursor) : Except ReadError Cursor := passValue (c.rest.length + 1) [] c

/-- What a member of a record is for: a field, whose value comes back in written form, or none. -/
abbrev MemberReader := String → Cursor → Option (Reading Json)

/-- The members of a record up to its brace. A field may come once. -/
def recordMembers (member : MemberReader) : Nat → Bool → Members Json → Cursor → Reading (Members Json)
  | 0, _, _, c => c.fail .endInObject
  | fuel + 1, first, found, c =>
    match c.nextKey first with
    | .error e => .error e
    | .ok (false, c) => .ok (found, c)
    | .ok (true, c) =>
      match Cursor.string (c.skip 1) with
      | .error e => .error e
      | .ok (key, c) =>
        if (Members.find? key found).isSome then
          let c := match c.closeObject with
            | .ok c => c
            | .error _ => c.skipBlanks
          .error ⟨.duplicateField key, some (c.line, c.column)⟩
        else
          match c.colon with
          | .error e => .error e
          | .ok c =>
            match member key c with
            | none =>
              match pass c with
              | .error e => .error e
              | .ok c => recordMembers member fuel false found c
            | some (.error e) => .error e
            | some (.ok (value, c)) => recordMembers member fuel false (found.insert key value) c

mutual
/-- Reads a value from where the cursor stands; `depth` is how many containers may still open. -/
def readFrom : {α : Type} → Codec α → Nat → Cursor → Reading α
  | _, .bool, _, c =>
    nonempty (fun c =>
      match c.rest with
      | 't' :: _ => settle (fun _ => .ok true) (Cursor.literal "rue" .null c)
      | 'f' :: _ => settle (fun _ => .ok false) (Cursor.literal "alse" .null c)
      | _ => mismatch "a boolean" c) c
  | _, .int range low high, _, c =>
    nonempty (fun c => settle (readInt range low high) (numberToken range c)) c
  | _, .float, _, c =>
    nonempty (fun c => settle (read .float) (numberToken "f64" c)) c
  | _, .string, _, c => nonempty (stringToken "a string") c
  | _, .char, _, c => nonempty (fun c => settle readChar (stringToken "a character" c)) c
  | _, .unit, _, c => nonempty (nullToken "unit") c
  | _, .any, depth, c => Cursor.value depth c
  | _, .list item, depth, c =>
    nonempty (fun c =>
      match c.rest with
      | '[' :: _ => opening (fun depth c => Cursor.list (readFrom item depth) c) depth c
      | _ => mismatch "a sequence" c) c
  | _, .optional item, depth, c =>
    let c := c.skipBlanks
    match c.rest with
    | 'n' :: _ => settle (fun _ => .ok none) (Cursor.literal "ull" .null c)
    | _ => settle (fun x => .ok (some x)) (readFrom item depth c)
  | _, .table item, depth, c =>
    nonempty (fun c =>
      match c.rest with
      | '\x7b' :: _ => opening (fun depth c => Cursor.object (readFrom item depth) c) depth c
      | _ => mismatch "a map" c) c
  | _, .pair first second, depth, c =>
    nonempty (fun c =>
      match c.rest with
      | '[' :: _ =>
        opening (fun depth c => pairItems (readFrom first depth) (readFrom second depth) c) depth c
      | _ => mismatch "a tuple of size 2" c) c
  | _, .choice _ cases _, depth, c =>
    nonempty (fun c =>
      match c.rest with
      | '"' :: _ => settle (readCase cases) (Cursor.string (c.skip 1))
      | '\x7b' :: _ =>
        opening (fun _ c =>
          match nonempty (fun c => settle (readCase cases) (stringToken "variant identifier" c)) c with
          | .error e => .error e
          | .ok (x, c) =>
            match c.colon with
            | .error e => .error e
            | .ok c =>
              match nonempty (nullToken "unit") c with
              | .error e => .error e
              | .ok (_, c) =>
                let c := c.skipBlanks
                match c.rest with
                | '\x7d' :: _ => .ok (x, c.skip 1)
                | [] => c.fail .endInObject
                | _ => c.fail .expectedValue) depth c
      | _ => c.failNext .expectedValue) c
  | _, .text expected parse _, _, c =>
    nonempty (fun c => settle (readText parse) (stringToken expected c)) c
  | _, .record name fields, depth, c =>
    nonempty (fun c =>
      match c.rest with
      | '[' :: _ =>
        opening (fun depth c =>
          match readItemsFrom name fields.count fields depth 0 c with
          | .error e => .error e
          | .ok (x, c) =>
            match c.closeList with
            | .error e => .error e
            | .ok c => .ok (x, c)) depth c
      | '\x7b' :: _ =>
        opening (fun depth c =>
          match recordMembers (fun key c => readMemberFrom fields depth key c)
              (c.rest.length + 1) true [] c with
          | .error e => .error e
          | .ok (members, c) =>
            match c.closeObject with
            | .error e => .error e
            | .ok c => settle (readMembers fields) (.ok (members, c))) depth c
      | _ => mismatch ("struct " ++ name) c) c
  | _, .via codec into _, depth, c =>
    match readFrom codec depth c with
    | .error e => .error e
    | .ok (x, c) => .ok (into x, c)

/-- Reads the value of a member for the field of its name, if there is one. -/
def readMemberFrom : {α : Type} → Fields α → Nat → String → Cursor → Option (Reading Json)
  | _, .nil, _, _, _ => none
  | _, .cons name codec _ rest, depth, key, c =>
    if key = name then
      match readFrom codec depth c with
      | .error e => some (.error e)
      | .ok (x, c) => some (.ok (codec.write x, c))
    else readMemberFrom rest depth key c

/-- Reads the fields of a record by position. -/
def readItemsFrom (record : String) (count : Nat) :
    {α : Type} → Fields α → Nat → Nat → Cursor → Reading α
  | _, .nil, _, _, c => .ok ((), c)
  | _, .cons _ codec default rest, depth, index, c =>
    match c.nextItem (index = 0) with
    | .error e => .error e
    | .ok (true, c) =>
      match readFrom codec depth c with
      | .error e => .error e
      | .ok (x, c) =>
        match readItemsFrom record count rest depth (index + 1) c with
        | .error e => .error e
        | .ok (xs, c) => .ok ((x, xs), c)
    | .ok (false, c) =>
      match default with
      | some x =>
        match readItemsFrom record count rest depth (index + 1) c with
        | .error e => .error e
        | .ok (xs, c) => .ok ((x, xs), c)
      | none =>
        let c := match c.closeList with
          | .ok c => c
          | .error _ => c
        .error ⟨.wrongLength index (recordLength record count), some (c.line, c.column)⟩
end

def parse {α : Type} (codec : Codec α) (text : String) : Except ReadError α :=
  Cursor.finish (readFrom codec Json.depthLimit (Cursor.ofString text))

end PluginHost.Codec
