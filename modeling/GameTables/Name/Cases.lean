import GameTables.Name.Words
import GameTables.Unicode.CaseMapping
import GameTables.Unicode.Identifier

/-!
# Derived names

Module names are the words of a name in lower case, joined by underscores; type and variant names
are the words with a capital each, written without a gap. `isIdentifier` says which derived names
the generated source may use.
-/

namespace GameTables.Name

/-- A word in lower case. A capital sigma at the end of the word takes its final form. -/
def lowerWord : List Char → List Char
  | [] => []
  | c :: rest =>
    if c = 'Σ' ∧ rest = [] then ['ς'] else Unicode.lowerCase c ++ lowerWord rest

/-- A word with its first character in upper case and the others in lower case. -/
def capitalWord : List Char → List Char
  | [] => []
  | c :: rest => Unicode.upperCase c ++ lowerWord rest

/-- The words in lower case with underscores between them. -/
def snakeCase (name : String) : String :=
  String.ofList (['_'].intercalate ((words name.toList).map lowerWord))

/-- The words with a capital each, written without a gap. -/
def camelCase (name : String) : String :=
  String.ofList ((words name.toList).flatMap capitalWord)

/-- Words of the generated language that are no names. -/
def reservedWords : List String :=
  ["_", "abstract", "as", "async", "await", "become", "box", "break", "const", "continue", "crate",
    "do", "dyn", "else", "enum", "extern", "false", "final", "fn", "for", "if", "impl", "in", "let",
    "loop", "macro", "match", "mod", "move", "mut", "override", "priv", "pub", "ref", "return",
    "Self", "self", "static", "struct", "super", "trait", "true", "try", "type", "typeof", "unsafe",
    "unsized", "use", "virtual", "where", "while", "yield"]

/-- Whether a name can stand for an item of the generated source. -/
def isIdentifier (name : String) : Bool :=
  match name.toList with
  | [] => false
  | c :: rest =>
    (c == '_' || Unicode.isIdentifierStart c) && rest.all Unicode.isIdentifierContinue
      && !reservedWords.contains name

end GameTables.Name
