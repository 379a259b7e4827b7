import GameTables.Unicode.Alphanumeric
import GameTables.Unicode.Case

/-!
# The words of a name

A name such as `PLAY_LOGIN` or `keepAlive2` is read as a sequence of words. Characters that are not
alphanumeric separate words; inside a run of alphanumeric characters a word ends where lower case
meets upper case, and before the last capital of a row of capitals that lower case follows.
-/

namespace GameTables.Name

/-- The case of the letters of a word read so far. Digits leave it as it is. -/
inductive Tone where
  | fresh
  | lower
  | upper
  deriving DecidableEq, Repr

def Tone.after (tone : Tone) (c : Char) : Tone :=
  if Unicode.isLowercase c then .lower else if Unicode.isUppercase c then .upper else tone

/-- Cuts a run of alphanumeric characters into words; `word` holds the characters of the current
word that were read already. -/
def cutRun (tone : Tone) (word : List Char) : List Char → List (List Char)
  | [] => []
  | [c] => [word ++ [c]]
  | c :: d :: rest =>
    if tone.after c = .lower ∧ Unicode.isUppercase d then
      (word ++ [c]) :: cutRun .fresh [] (d :: rest)
    else if tone = .upper ∧ Unicode.isUppercase c ∧ Unicode.isLowercase d then
      word :: cutRun .fresh [c] (d :: rest)
    else cutRun (tone.after c) (word ++ [c]) (d :: rest)

/-- The runs of alphanumeric characters, empty ones included. -/
def runs : List Char → List (List Char)
  | [] => [[]]
  | c :: rest =>
    if Unicode.isAlphanumeric c then
      match runs rest with
      | [] => [[c]]
      | run :: others => (c :: run) :: others
    else [] :: runs rest

/-- The words of a name, in order. None of them is empty. -/
def words (name : List Char) : List (List Char) :=
  (runs name).flatMap (cutRun .fresh [])

end GameTables.Name
