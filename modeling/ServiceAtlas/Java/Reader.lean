/-
Reading Java compilation units.

The reader knows the grammar of declarations and no more of statements and expressions than
is needed to find their end: brackets, and the angle brackets of generic types, whose
commas separate nothing.  What it does not recognise it passes over up to the next
semicolon or block.

Recursive readers take a budget of steps.  Every step consumes a token, so a budget of one
more than the number of tokens is never used up.
-/
import ServiceAtlas.Java.Token
import ServiceAtlas.Java.Tree

namespace ServiceAtlas.Java.Reader

/-- The tokens that are still to be read. -/
abbrev Tokens := List Token

/-! ### Passing over brackets -/

/-- The token opens a bracket of any kind. -/
def isOpening (t : Token) : Bool :=
  t.isMark '(' || t.isMark '[' || t.isMark '\x7b'

/-- The token closes a bracket of any kind. -/
def isClosing (t : Token) : Bool :=
  t.isMark ')' || t.isMark ']' || t.isMark '\x7d'

/-- The tokens up to the bracket that closes the one in front of them, and those behind it,
`depth` brackets being open in between. -/
def insideBrackets (depth : Nat) : Tokens → Tokens × Tokens
  | [] => ([], [])
  | t :: ts =>
    if isClosing t then
      match depth with
      | 0 => ([], ts)
      | d + 1 =>
        let (inner, rest) := insideBrackets d ts
        (t :: inner, rest)
    else
      let (inner, rest) := insideBrackets (if isOpening t then depth + 1 else depth) ts
      (t :: inner, rest)

/-- The tokens behind the brace that closes the one in front of them, braces alone being
counted. -/
def afterBraces (depth : Nat) : Tokens → Tokens
  | [] => []
  | t :: ts =>
    if t.isMark '\x7b' then afterBraces (depth + 1) ts
    else if t.isMark '\x7d' then
      match depth with
      | 0 => ts
      | d + 1 => afterBraces d ts
    else afterBraces depth ts

/-- The tokens behind the angle bracket that closes the one in front of them. -/
def afterAngles (depth : Nat) : Tokens → Tokens
  | [] => []
  | t :: ts =>
    if t.isMark '<' then afterAngles (depth + 1) ts
    else if t.isMark '>' then
      match depth with
      | 0 => ts
      | d + 1 => afterAngles d ts
    else afterAngles depth ts

/-- The separators that type arguments are made with, besides angle brackets. -/
def isTypeMark (t : Token) : Bool :=
  t.isMark '.' || t.isMark ',' || t.isMark '?' || t.isMark '[' || t.isMark ']' || t.isMark '@'

/-- The number of tokens up to the angle bracket that closes the one in front of them, if
they look like type arguments, and zero otherwise. -/
def anglesLength (depth : Nat) : Tokens → Nat
  | [] => 0
  | t :: ts =>
    let further (n : Nat) : Nat := if n = 0 then 0 else n + 1
    if t.isMark '<' then further (anglesLength (depth + 1) ts)
    else if t.isMark '>' then
      match depth with
      | 0 => 1
      | d + 1 => further (anglesLength d ts)
    else if t.kind = .word || isTypeMark t then further (anglesLength depth ts)
    else 0

/-- The tokens from the first comma or semicolon on that stands outside brackets and type
arguments, `skip` tokens being passed over unseen. -/
def afterExpression (depth skip : Nat) : Tokens → Tokens
  | [] => []
  | t :: ts =>
    match skip with
    | k + 1 => afterExpression depth k ts
    | 0 =>
      if isOpening t then afterExpression (depth + 1) 0 ts
      else if isClosing t then
        match depth with
        | 0 => t :: ts
        | d + 1 => afterExpression d 0 ts
      else if depth = 0 && (t.isMark ',' || t.isMark ';') then t :: ts
      else if depth = 0 && t.isMark '<' then afterExpression 0 (anglesLength 0 ts) ts
      else afterExpression depth 0 ts

/-- The runs of tokens between the commas outside brackets and type arguments. -/
def betweenCommas (depth skip : Nat) : Tokens → List Tokens
  | [] => [[]]
  | t :: ts =>
    let onto : List Tokens → List Tokens
      | [] => [[t]]
      | p :: ps => (t :: p) :: ps
    match skip with
    | k + 1 => onto (betweenCommas depth k ts)
    | 0 =>
      if isOpening t then onto (betweenCommas (depth + 1) 0 ts)
      else if isClosing t then onto (betweenCommas (depth - 1) 0 ts)
      else if depth = 0 && t.isMark ',' then [] :: betweenCommas 0 0 ts
      else if depth = 0 && t.isMark '<' then onto (betweenCommas 0 (anglesLength 0 ts) ts)
      else onto (betweenCommas depth 0 ts)

/-- The tokens behind the next semicolon or block outside brackets, or from a closing
bracket on that belongs to an enclosing one. -/
def afterStatement : Nat → Tokens → Tokens
  | _, [] => []
  | depth, t :: ts =>
    if depth = 0 && t.isMark ';' then ts
    else if depth = 0 && t.isMark '\x7b' then afterBraces 0 ts
    else if isOpening t then afterStatement (depth + 1) ts
    else if isClosing t then
      match depth with
      | 0 => t :: ts
      | d + 1 => afterStatement d ts
    else afterStatement depth ts

/-- The tokens behind the semicolon that ends a declaration, blocks being passed over. -/
def afterSemicolon : Nat → Tokens → Tokens
  | _, [] => []
  | depth, t :: ts =>
    if depth = 0 && t.isMark ';' then ts
    else if isOpening t then afterSemicolon (depth + 1) ts
    else if isClosing t then
      match depth with
      | 0 => t :: ts
      | d + 1 => afterSemicolon d ts
    else afterSemicolon depth ts

/-! ### Names and annotations -/

/-- The tokens behind the further parts of a qualified name. -/
def afterQualifiedName : Tokens → Tokens
  | dot :: part :: rest =>
    if dot.isMark '.' && part.kind = .word then afterQualifiedName rest else dot :: part :: rest
  | ts => ts

/-- The argument that a run of tokens forms, if it is not empty. -/
def argument? : Tokens → Option ArgumentTree
  | [] => none
  | key :: equals :: rest =>
    let isPair := key.kind = .word && equals.isMark '='
      && !(rest.head?.map fun t => t.isMark '=' && t.isAdjacent).getD true
    if isPair then some (.pair key.text (sourceText rest))
    else some (.value (sourceText (key :: equals :: rest)))
  | ts => some (.value (sourceText ts))

/-- The annotation at the beginning, if there is one. -/
def mark? : Tokens → Option (MarkTree × Tokens)
  | at_ :: first :: rest =>
    if at_.isMark '@' && first.kind = .word && first.text ≠ "interface" then
      let after := afterQualifiedName rest
      let name := textBetween (first :: rest) after
      match after with
      | paren :: inner =>
        if paren.isMark '(' then
          let (inner, rest) := insideBrackets 0 inner
          some (⟨name, (betweenCommas 0 0 inner).filterMap argument?⟩, rest)
        else some (⟨name, []⟩, after)
      | [] => some (⟨name, []⟩, [])
    else none
  | _ => none

/-- The tokens behind the annotations at the beginning. -/
def afterMarks : Nat → Tokens → Tokens
  | 0, ts => ts
  | budget + 1, ts =>
    match mark? ts with
    | some (_, rest) => afterMarks budget rest
    | none => ts

/-- The words that are modifiers wherever a declaration begins. -/
def modifierWords : List String :=
  ["public", "protected", "private", "abstract", "static", "final", "strictfp", "default",
    "synchronized", "native", "transient", "volatile"]

/-- The modifier word at the beginning, if there is one.  Sealing words are modifiers only
in front of another word or an annotation. -/
def modifierWord? : Tokens → Option (String × Tokens)
  | [] => none
  | t :: ts =>
    if t.kind = .word && modifierWords.contains t.text then some (t.text, ts)
    else
      let goesOn : Tokens → Bool
        | next :: _ => next.kind = .word || next.isMark '@'
        | [] => false
      match ts with
      | dash :: sealed :: rest =>
        if t.isWord "non" && dash.isMark '-' && dash.isAdjacent && sealed.isWord "sealed"
            && sealed.isAdjacent && goesOn rest then
          some ("non-sealed", rest)
        else if t.isWord "sealed" && goesOn ts then some ("sealed", ts)
        else none
      | _ => none

/-- The modifiers at the beginning, annotations among them. -/
def modifiers : Nat → Tokens → List ModifierTree × Tokens
  | 0, ts => ([], ts)
  | budget + 1, ts =>
    match modifierWord? ts with
    | some (w, rest) =>
      let (ms, rest) := modifiers budget rest
      (.word w :: ms, rest)
    | none =>
      match mark? ts with
      | some (m, rest) =>
        let (ms, rest) := modifiers budget rest
        (.mark m :: ms, rest)
      | none => ([], ts)

/-! ### Types -/

/-- The tokens behind the dimensions at the beginning, annotated or not. -/
def afterDimensions : Nat → Tokens → Tokens
  | 0, ts => ts
  | budget + 1, ts =>
    match afterMarks budget ts with
    | opening :: closing :: rest =>
      if opening.isMark '[' && closing.isMark ']' then afterDimensions budget rest else ts
    | _ => ts

/-- The number of dimensions at the beginning, and the tokens behind them. -/
def dimensions (budget : Nat) (ts : Tokens) : Nat × Tokens :=
  let rest := afterDimensions budget ts
  ((textBetween ts rest).toList.count '[', rest)

mutual

/-- The type at the beginning. -/
def type? : Nat → Tokens → Option (TypeTree × Tokens)
  | 0, _ => none
  | budget + 1, ts =>
    let ts := afterMarks budget ts
    match namedType? budget ts ts with
    | none => none
    | some (element, rest) =>
      let (count, rest) := dimensions budget rest
      some (if count = 0 then element else .array element count, rest)

/-- The class or primitive type whose name begins at `start` and goes on here. -/
def namedType? : Nat → Tokens → Tokens → Option (TypeTree × Tokens)
  | 0, _, _ => none
  | _, _, [] => none
  | budget + 1, start, part :: rest =>
    if part.kind = .word then
      let name := textBetween start rest
      let (found, after) : TypeTree × Tokens :=
        match typeArguments? budget rest with
        | some (args, after) => (.generic name args, after)
        | none => (.named name, rest)
      match after with
      | dot :: next :: more =>
        if dot.isMark '.' && next.kind = .word then namedType? budget start (next :: more)
        else some (found, after)
      | _ => some (found, after)
    else none

/-- The type arguments at the beginning, in angle brackets. -/
def typeArguments? : Nat → Tokens → Option (List TypeTree × Tokens)
  | 0, _ => none
  | _, [] => none
  | budget + 1, opening :: ts =>
    if opening.isMark '<' then
      match ts with
      | closing :: rest =>
        if closing.isMark '>' then some ([], rest) else typeArgumentList? budget ts
      | [] => none
    else none

/-- The type arguments up to the closing angle bracket. -/
def typeArgumentList? : Nat → Tokens → Option (List TypeTree × Tokens)
  | 0, _ => none
  | budget + 1, ts =>
    match typeArgument? budget ts with
    | none => none
    | some (arg, separator :: rest) =>
      if separator.isMark '>' then some ([arg], rest)
      else if separator.isMark ',' then
        match typeArgumentList? budget rest with
        | none => none
        | some (args, rest) => some (arg :: args, rest)
      else none
    | some (_, []) => none

/-- A type argument: a wildcard with or without a bound, or a type. -/
def typeArgument? : Nat → Tokens → Option (TypeTree × Tokens)
  | 0, _ => none
  | budget + 1, ts =>
    match afterMarks budget ts with
    | [] => none
    | first :: rest =>
      if first.isMark '?' then
        match rest with
        | [] => none
        | relation :: more =>
          if relation.isWord "extends" || relation.isWord "super" then
            match type? budget more with
            | none => none
            | some (bound, rest) => some (.bounded (relation.isWord "extends") bound, rest)
          else some (.wildcard, rest)
      else type? budget ts

end

/-- Types separated by commas. -/
def typeList : Nat → Tokens → List TypeTree × Tokens
  | 0, ts => ([], ts)
  | budget + 1, ts =>
    match type? budget ts with
    | none => ([], ts)
    | some (t, comma :: rest) =>
      if comma.isMark ',' then
        let (more, rest) := typeList budget rest
        (t :: more, rest)
      else ([t], comma :: rest)
    | some (t, []) => ([t], [])

/-! ### Parameters -/

/-- Whether the name of a parameter shows it to stand for the receiver. -/
def isReceiver : Tokens → Bool
  | name :: dot :: rest =>
    name.isWord "this" || (name.kind = .word && dot.isMark '.' && isReceiver rest)
  | [name] => name.isWord "this"
  | [] => false

/-- Three dots at the beginning, and the tokens behind them. -/
def dots : Tokens → Bool × Tokens
  | a :: b :: c :: rest =>
    if a.isMark '.' && b.isMark '.' && c.isMark '.' then (true, rest)
    else (false, a :: b :: c :: rest)
  | ts => (false, ts)

/-- The parameter at the beginning, unless it is the receiver, and the tokens behind it. -/
def parameter? (budget : Nat) (ts : Tokens) : Option ParameterTree × Tokens :=
  let (ms, ts) := modifiers budget ts
  match type? budget ts with
  | none => (none, ts)
  | some (t, rest) =>
    let (variadic, rest) := dots rest
    if isReceiver rest then (none, rest)
    else
      match rest with
      | name :: rest =>
        if name.kind = .word then
          let (count, rest) := dimensions budget rest
          (some ⟨ms, t, variadic, name.text, count⟩, rest)
        else (none, name :: rest)
      | [] => (none, [])

/-- The parameters that the tokens between two parentheses form. -/
def parameters : Nat → Tokens → List ParameterTree
  | 0, _ => []
  | _, [] => []
  | budget + 1, ts =>
    let (p, rest) := parameter? budget ts
    match afterExpression 0 0 rest with
    | [] => p.toList
    | _ :: rest => p.toList ++ parameters budget rest

/-! ### Members -/

/-- The variables declared together, up to the semicolon. -/
def declarators : Nat → Tokens → List Declarator × Tokens
  | 0, ts => ([], ts)
  | _, [] => ([], [])
  | budget + 1, name :: ts =>
    if name.kind = .word then
      let (count, rest) := dimensions budget ts
      let d : Declarator := ⟨name.text, count⟩
      match afterExpression 0 0 rest with
      | separator :: rest =>
        if separator.isMark ',' then
          let (ds, rest) := declarators budget rest
          (d :: ds, rest)
        else if separator.isMark ';' then ([d], rest)
        else ([d], separator :: rest)
      | [] => ([d], [])
    else ([], afterStatement 0 (name :: ts))

/-- The tokens behind what follows the parameters of a method: dimensions, exceptions, a
default value, and a body or a semicolon. -/
def afterMethod : Nat → Tokens → Tokens
  | 0, ts => ts
  | _, [] => []
  | budget + 1, t :: ts =>
    if t.isMark ';' then ts
    else if t.isMark '\x7b' then afterBraces 0 ts
    else if t.isWord "default" then afterSemicolon 0 ts
    else if isOpening t then afterMethod budget (insideBrackets 0 ts).2
    else if isClosing t then t :: ts
    else afterMethod budget ts

/-- The tokens behind the type parameters at the beginning and the annotations that follow
them. -/
def afterTypeParameters (budget : Nat) : Tokens → Tokens
  | opening :: rest =>
    if opening.isMark '<' then afterMarks budget (afterAngles 0 rest) else opening :: rest
  | [] => []

/-- The kind and the name of the type declared here, and the tokens behind them. -/
def declaredType? : Tokens → Option (TypeKind × String × Tokens)
  | first :: second :: rest =>
    if second.kind = .word then
      if first.isWord "class" then some (.plainClass, second.text, rest)
      else if first.isWord "interface" then some (.interface, second.text, rest)
      else if first.isWord "enum" then some (.enumeration, second.text, rest)
      else if first.isMark '@' && second.isWord "interface" then
        match rest with
        | name :: rest =>
          if name.kind = .word then some (.annotationType, name.text, rest) else none
        | [] => none
      else if first.isWord "record" then
        match rest with
        | next :: _ =>
          if next.isMark '(' || next.isMark '<' then some (.record, second.text, rest) else none
        | [] => none
      else none
    else none
  | _ => none

/-- The supertypes named in front of a body: those behind `extends` and those behind
`implements`; and the tokens from the body on. -/
def supertypes : Nat → Tokens → List TypeTree × List TypeTree × Tokens
  | 0, ts => ([], [], ts)
  | _, [] => ([], [], [])
  | budget + 1, t :: ts =>
    if t.isMark '\x7b' || t.isMark ';' || t.isMark '\x7d' then ([], [], t :: ts)
    else if t.isWord "extends" then
      let (named, rest) := typeList budget ts
      let (extended, implemented, rest) := supertypes budget rest
      (named ++ extended, implemented, rest)
    else if t.isWord "implements" then
      let (named, rest) := typeList budget ts
      let (extended, implemented, rest) := supertypes budget rest
      (extended, named ++ implemented, rest)
    else supertypes budget ts

/-- The components of a record at the beginning. -/
def components (budget : Nat) : Tokens → List ParameterTree × Tokens
  | opening :: ts =>
    if opening.isMark '(' then
      let (inner, rest) := insideBrackets 0 ts
      (parameters budget inner, rest)
    else ([], opening :: ts)
  | [] => ([], [])

/-- The head of a type declaration, and the tokens from its body on. -/
def head (budget : Nat) (comments : List String) (ms : List ModifierTree) (kind : TypeKind)
    (name : String) (ts : Tokens) : Head × Tokens :=
  let ts := afterTypeParameters budget ts
  let (parts, ts) := if kind = .record then components budget ts else ([], ts)
  let (extended, implemented, ts) := supertypes budget ts
  ({ comments := comments
     modifiers := ms
     kind := kind
     name := name
     superclass := if kind = .plainClass then extended.head? else none
     interfaces := if kind = .interface then extended else implemented
     components := parts }, ts)

/-- The constants of an enumeration, and the tokens from the semicolon behind them or the
closing brace on.  `pending` holds the comments since the constant before. -/
def constants : Nat → List String → Tokens → List Member × Tokens
  | 0, _, ts => ([], ts)
  | _, _, [] => ([], [])
  | budget + 1, pending, t :: ts =>
    if t.isMark ';' || t.isMark '\x7d' then ([], t :: ts)
    else if t.isMark ',' then constants budget (pending ++ t.comments) ts
    else
      let (ms, rest) := modifiers budget (t :: ts)
      match rest with
      | name :: rest =>
        if name.kind = .word then
          let rest := match rest with
            | opening :: inner =>
              if opening.isMark '(' then (insideBrackets 0 inner).2 else opening :: inner
            | [] => []
          let rest := match rest with
            | opening :: inner =>
              if opening.isMark '\x7b' then afterBraces 0 inner else opening :: inner
            | [] => []
          let (more, rest) := constants budget [] rest
          (.constant ⟨pending ++ t.comments, ms, name.text⟩ :: more, rest)
        else constants budget pending rest
      | [] => ([], [])

/-- The words that begin what declares nothing at the top of a unit. -/
def unitWords : List String :=
  ["package", "import", "module", "open"]

/-- The method, constructor or fields that begin here, or something that declares nothing;
`context` is the kind of the enclosing type. -/
def plainMember (budget : Nat) (context : Option TypeKind) (comments : List String)
    (ms : List ModifierTree) (start : Tokens) : Member × Tokens :=
  let ts := afterTypeParameters budget start
  match ts with
  | [] => (.other, [])
  | first :: rest =>
    if first.isMark '\x7b' then (.other, afterBraces 0 rest)
    else if context = none && first.kind = .word && unitWords.contains first.text then
      (.other, afterStatement 0 rest)
    else
      match rest with
      | [] => (.other, [])
      | second :: inner =>
        if first.kind = .word && second.isMark '(' then
          let (inner, rest) := insideBrackets 0 inner
          (.constructor ⟨comments, ms, parameters budget inner⟩, afterMethod budget rest)
        else if first.kind = .word && second.isMark '\x7b' then (.other, afterBraces 0 inner)
        else
          match type? budget ts with
          | some (t, name :: next :: more) =>
            if name.kind = .word && next.isMark '(' then
              let (inner, rest) := insideBrackets 0 more
              let rest := afterMethod budget rest
              if context = some .annotationType then (.other, rest)
              else (.method ⟨comments, ms, t, name.text, parameters budget inner⟩, rest)
            else if name.kind = .word then
              let (ds, rest) := declarators budget (name :: next :: more)
              let shared := context = some .interface || context = some .annotationType
              (.field ⟨comments, ms, t, ds, shared⟩, rest)
            else (.other, afterStatement 0 (name :: next :: more))
          | _ => (.other, afterStatement 0 rest)

mutual

/-- The members up to the end of a body, and the tokens behind it; `pending` holds the
comments that a lone semicolon does not cut off from the next member. -/
def members : Nat → Option TypeKind → List String → Tokens → List Member × Tokens
  | 0, _, _, ts => ([], ts)
  | _, _, _, [] => ([], [])
  | budget + 1, context, pending, t :: ts =>
    if t.isMark '\x7d' then
      if context.isSome then ([], ts) else members budget context [] ts
    else if t.isMark ';' then members budget context (pending ++ t.comments) ts
    else
      let (m, rest) := member budget context (pending ++ t.comments) (t :: ts)
      let rest := if rest.length < (t :: ts).length then rest else ts
      let (more, rest) := members budget context [] rest
      (m :: more, rest)

/-- The member that begins here. -/
def member : Nat → Option TypeKind → List String → Tokens → Member × Tokens
  | 0, _, _, ts => (.other, ts)
  | budget + 1, context, comments, ts =>
    let (ms, rest) := modifiers budget ts
    match declaredType? rest with
    | some (kind, name, rest) =>
      let (h, rest) := head budget comments ms kind name rest
      match rest with
      | opening :: inner =>
        if opening.isMark '\x7b' then
          let (inside, behind, rest) := body budget kind inner
          (.type h inside behind, rest)
        else (.type h [] [], opening :: inner)
      | [] => (.type h [] [], [])
    | none => plainMember budget context comments ms rest

/-- The members between the braces of a type of the given kind, and those behind the constants
of an enumeration. -/
def body : Nat → TypeKind → Tokens → List Member × List Member × Tokens
  | 0, _, ts => ([], [], ts)
  | budget + 1, kind, ts =>
    if kind = .enumeration then
      let (cs, rest) := constants budget [] ts
      match rest with
      | separator :: rest =>
        if separator.isMark ';' then
          let (ms, rest) := members budget (some kind) [] rest
          (cs, ms, rest)
        else (cs, [], rest)
      | [] => (cs, [], [])
    else
      let (ms, rest) := members budget (some kind) [] ts
      (ms, [], rest)

end

/-- The package that a unit names, as written. -/
def packageName (budget : Nat) (ts : Tokens) : String :=
  match (modifiers budget ts).2 with
  | first :: rest =>
    if first.isWord "package" then
      match rest with
      | name :: more => if name.kind = .word then textBetween rest (afterQualifiedName more) else ""
      | [] => ""
    else ""
  | [] => ""

/-- The compilation unit that tokens form. -/
def unit (ts : Tokens) : CompilationUnit :=
  let budget := 2 * ts.length + 8
  ⟨packageName budget ts, (members budget none [] ts).1⟩

end ServiceAtlas.Java.Reader
