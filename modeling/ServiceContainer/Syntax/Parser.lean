import ServiceContainer.Syntax.Tree

/-!
# Parsers on token trees

A parser reads trees from the front of a list and answers with a value and the trees that are left. A parser looks
ahead by inspecting the trees (the functions `at…`) and then reads what it has seen, so it never has to go back,
except where `<|>` says so.

## Main definitions

* `Parser` — the type of parsers
* `atOperator`, `atWord`, `atIdent`, … — what stands at the front
* `operator!`-like readers: `op`, `word`, `ident`, `lifetime`, `literal`, `inside`
* `separated`, `chained`, `untilEnd` — repetition
* `readSince`, `asWritten` — the trees that were read, as they are written
-/

namespace ServiceContainer.Syntax

/-- A parser reads trees from the front of a list. -/
abbrev Parser := StateT (List Tree) Option

/-- The words that are no identifiers. -/
def reservedWords : List String :=
  ["_", "abstract", "as", "async", "await", "become", "box", "break", "const", "continue", "crate", "do", "dyn",
   "else", "enum", "extern", "false", "final", "fn", "for", "if", "impl", "in", "let", "loop", "macro", "match",
   "mod", "move", "mut", "override", "priv", "pub", "ref", "return", "Self", "self", "static", "struct", "super",
   "trait", "true", "try", "type", "typeof", "unsafe", "unsized", "use", "virtual", "where", "while", "yield"]

/-! ### What stands at the front -/

/-- The trees after the marks, if the trees begin with them and every mark but the last is glued to the next. -/
def afterMarks : List Char → List Tree → Option (List Tree)
  | [], trees => some trees
  | [c], .token (.punct m _) :: trees => if m == c then some trees else none
  | c :: cs, .token (.punct m joint) :: trees => if m == c && joint then afterMarks cs trees else none
  | _, _ => none

/-- The trees begin with the operator. -/
def atOperator (text : String) (trees : List Tree) : Bool := (afterMarks text.toList trees).isSome

/-- The trees begin with one of the operators. -/
def atAnyOperator (texts : List String) (trees : List Tree) : Bool := texts.any (atOperator · trees)

/-- The word or name at the front. -/
def word? : List Tree → Option String
  | .token (.ident text) :: _ => some text
  | _ => none

/-- The trees begin with the word. -/
def atWord (text : String) (trees : List Tree) : Bool := word? trees == some text

/-- The trees begin with one of the words. -/
def atAnyWord (texts : List String) (trees : List Tree) : Bool := (word? trees).any texts.contains

/-- The trees begin with an identifier. -/
def atIdent (trees : List Tree) : Bool := (word? trees).any fun text => !reservedWords.contains text

/-- The trees begin with a lifetime. -/
def atLifetime : List Tree → Bool
  | .token (.lifetime _) :: _ => true
  | _ => false

/-- The trees begin with a group in the given brackets. -/
def atGroup (d : Delimiter) : List Tree → Bool
  | .group e _ :: _ => e == d
  | _ => false

/-- The literal is a number. -/
def isNumeral (text : String) : Bool := text.toList.head?.any Char.isDigit

/-- The trees begin with a literal: `true`, `false`, a literal token, or a minus sign and a number. -/
def atLiteral : List Tree → Bool
  | .token (.literal _) :: _ => true
  | .token (.ident text) :: _ => text == "true" || text == "false"
  | .token (.punct '-' _) :: .token (.literal text) :: _ => isNumeral text
  | _ => false

/-- The trees begin with a string literal. -/
def atString : List Tree → Bool
  | .token (.literal text) :: _ => text.toList.head? == some '\x22' || text.toList.head? == some 'r'
  | _ => false

/-! ### Reading what stands at the front -/

namespace Parser

/-- Nothing is left. -/
def atEnd : Parser Bool := return (← get).isEmpty

/-- Reads one tree. -/
def one : Parser Tree := do
  match ← get with
  | t :: rest => set rest; return t
  | [] => failure

/-- Reads the operator. -/
def op (text : String) : Parser (List Tree) := do
  match afterMarks text.toList (← get) with
  | some rest => set rest; return operator text
  | none => failure

/-- Reads the operator if it is there. -/
def opIf (text : String) : Parser (List Tree) := do
  if atOperator text (← get) then op text else return []

/-- Reads the word. -/
def word (text : String) : Parser (List Tree) := do
  if atWord text (← get) then return [← one] else failure

/-- Reads the word if it is there. -/
def wordIf (text : String) : Parser (List Tree) := do
  if atWord text (← get) then word text else return []

/-- Reads any word or name. -/
def anyWord : Parser (List Tree) := do
  if (word? (← get)).isSome then return [← one] else failure

/-- Reads an identifier. -/
def ident : Parser (List Tree) := do
  if atIdent (← get) then return [← one] else failure

/-- Reads an identifier and answers with its text. -/
def name : Parser String := do
  match word? (← ident) with
  | some text => return text
  | none => failure

/-- Reads a lifetime. -/
def lifetime : Parser (List Tree) := do
  if atLifetime (← get) then return [← one] else failure

/-- Reads a literal. A minus sign before a number stands alone. -/
def literal : Parser (List Tree) := do
  let trees ← get
  if atLiteral trees then
    match ← one with
    | .token (.punct _ _) => return operator "-" ++ [← one]
    | t => return [t]
  else failure

/-- Reads a string literal. -/
def string : Parser (List Tree) := do
  if atString (← get) then return [← one] else failure

/-- Reads a group and answers with what is inside. -/
def groupInner (d : Delimiter) : Parser (List Tree) := do
  match ← one with
  | .group e inner => if e == d then return inner else failure
  | _ => failure

/-- Reads a group in any brackets as it is written. -/
def anyGroup : Parser Tree := do
  match ← one with
  | .group d inner => return .group d inner
  | _ => failure

/-- Runs the parser on some trees, of which none may be left. -/
def onAll (p : Parser α) (trees : List Tree) : Option α := do
  let (x, rest) ← p trees
  if rest.isEmpty then some x else none

/-- Reads a group and its inside with the parser, which must read all of it. -/
def within (d : Delimiter) (p : Parser α) : Parser α := do
  let inner ← groupInner d
  liftM (onAll p inner)

/-- The group of what the parser reads inside the brackets. -/
def inside (d : Delimiter) (p : Parser (List Tree)) : Parser (List Tree) :=
  return [.group d (← within d p)]

/-- The trees that were read since the given ones were in front, as they are written. -/
def readSince (start : List Tree) : Parser (List Tree) :=
  return start.take (start.length - (← get).length)

/-- The trees that the parser reads, as they are written. -/
def asWritten (p : Parser α) : Parser (List Tree) := do
  let start ← get
  let _ ← p
  readSince start

/-- Reads nothing. -/
def nothing : Parser (List Tree) := return []

/-- Both, one after the other. -/
def both (p q : Parser (List Tree)) : Parser (List Tree) := return (← p) ++ (← q)

/-- All, one after the other. -/
def inOrder : List (Parser (List Tree)) → Parser (List Tree)
  | [] => nothing
  | p :: ps => both p (inOrder ps)

/-- Values with a separator between them, each with the separator after it, up to where `stop` holds; the last
separator may be there or not. `fuel` bounds the number of values. -/
def separatedUpTo (p : Parser α) (sep : String) (stop : List Tree → Bool) :
    Nat → Parser (List (α × List Tree))
  | 0 => failure
  | fuel + 1 => do
    if stop (← get) then return []
    let x ← p
    if stop (← get) then return [(x, [])]
    let s ← op sep
    return (x, s) :: (← separatedUpTo p sep stop fuel)

/-- Values with a separator between them up to where `stop` holds. -/
def separated (p : Parser α) (sep : String) (stop : List Tree → Bool) : Parser (List (α × List Tree)) := do
  separatedUpTo p sep stop ((← get).length + 1)

/-- Values up to the end of the trees with commas between them. -/
def commaList (p : Parser α) : Parser (List (α × List Tree)) := separated p "," List.isEmpty

/-- The trees of values with their separators. -/
def flatten (xs : List (List Tree × List Tree)) : List Tree := xs.flatMap fun (x, s) => x ++ s

/-- The trees of a list with commas up to the end. -/
def commaTrees (p : Parser (List Tree)) : Parser (List Tree) := return flatten (← commaList p)

/-- Values with a separator between them up to where `stop` holds or no separator follows. -/
def chainedUpTo (p : Parser α) (sep : String) (stop : List Tree → Bool) :
    Nat → Parser (List (α × List Tree))
  | 0 => failure
  | fuel + 1 => do
    if stop (← get) then return []
    let x ← p
    if !atOperator sep (← get) then return [(x, [])]
    let s ← op sep
    return (x, s) :: (← chainedUpTo p sep stop fuel)

/-- Values with a separator between them up to where `stop` holds or no separator follows. -/
def chained (p : Parser α) (sep : String) (stop : List Tree → Bool) : Parser (List (α × List Tree)) := do
  chainedUpTo p sep stop ((← get).length + 1)

/-- Repeats the parser while the test holds; `fuel` bounds the number of times. -/
def repeatUpTo (p : Parser α) (more : List Tree → Bool) : Nat → Parser (List α)
  | 0 => failure
  | fuel + 1 => do
    if more (← get) then return (← p) :: (← repeatUpTo p more fuel) else return []

/-- Repeats the parser while the test holds. -/
def repeatWhile (p : Parser α) (more : List Tree → Bool) : Parser (List α) := do
  repeatUpTo p more ((← get).length + 1)

/-- Repeats the parser up to the end of the trees. -/
def untilEnd (p : Parser α) : Parser (List α) := repeatWhile p fun trees => !trees.isEmpty

end Parser

end ServiceContainer.Syntax
