/-
Module: Reshape.Text.Naming
Purpose: names in the usual styles: camelCase, snake_case, kebab-case, PascalCase
  and Title Case.
Main exports: words, NamingStyle, NamingStyle.apply
Trusted boundary: stands for the converter of names that the program is given and that is no part
  of it
-/
import Reshape.Text.Cluster
import Reshape.Text.LetterCase

/-!
# Naming styles

A text is first split into words. Hyphens, underscores and spaces separate words
and are dropped; a word also ends between a small and a capital letter, between a
letter and a digit, and before the last capital of a run of capitals when a small
letter follows. The words are then put together again in the style asked for.
-/

namespace Reshape.Text

/-- A cluster whose capital and small form differ, and which is the capital form. -/
def isUpperCluster (cluster : List Char) : Bool :=
  upper cluster != lower cluster && cluster == upper cluster

/-- A cluster whose capital and small form differ, and which is the small form. -/
def isLowerCluster (cluster : List Char) : Bool :=
  upper cluster != lower cluster && cluster == lower cluster

def isDigitCluster (cluster : List Char) : Bool :=
  cluster.all Char.isDigit

def isSeparator (cluster : List Char) : Bool :=
  cluster == ['-'] || cluster == ['_'] || cluster == [' ']

/-- Whether a word ends between two adjacent clusters. -/
def isBoundary (left right : List Char) : Bool :=
  (isLowerCluster left && isUpperCluster right) ||
  (isDigitCluster left && (isUpperCluster right || isLowerCluster right)) ||
  ((isUpperCluster left || isLowerCluster left) && isDigitCluster right)

/-- Whether `middle` is the capital that begins a word after a run of capitals. -/
def endsAcronym (left middle right : List Char) : Bool :=
  isUpperCluster left && isUpperCluster middle && isLowerCluster right

/-- Put a cluster in front of the first word. -/
def addToWord (cluster : List Char) : List (List (List Char)) → List (List (List Char))
  | [] => [[cluster]]
  | word :: rest => (cluster :: word) :: rest

/-- The words from a cluster on, the first of which continues the word that the
cluster before belongs to. -/
def wordsAfter (before : Option (List Char)) : List (List Char) → List (List (List Char))
  | [] => [[]]
  | cluster :: rest =>
      if isSeparator cluster then [] :: wordsAfter (some cluster) rest
      else
        let breaks := match before with
          | none => false
          | some left =>
              isBoundary left cluster ||
              (match rest with
                | right :: _ => endsAcronym left cluster right
                | [] => false)
        let more := addToWord cluster (wordsAfter (some cluster) rest)
        if breaks then [] :: more else more

/-- The words of a text, as lists of clusters. -/
def words (s : List Char) : List (List (List Char)) :=
  (wordsAfter none (clusters s)).filter (· ≠ [])

/-- How the words of a name are written and joined. -/
inductive NamingStyle where
  | camel
  | snake
  | kebab
  | pascal
  | title
  deriving DecidableEq, Repr

namespace NamingStyle

/-- A word in small letters. -/
def small (word : List (List Char)) : List Char :=
  lower word.flatten

/-- A word with its first letter capital and the others small. -/
def capital : List (List Char) → List Char
  | [] => []
  | first :: rest => upper first ++ lower rest.flatten

/-- Each word in its place. -/
def writeWords : NamingStyle → List (List (List Char)) → List (List Char)
  | .camel, [] => []
  | .camel, first :: rest => small first :: rest.map capital
  | .snake, ws | .kebab, ws => ws.map small
  | .pascal, ws | .title, ws => ws.map capital

/-- What stands between the words. -/
def separator : NamingStyle → List Char
  | .camel | .pascal => []
  | .snake => ['_']
  | .kebab => ['-']
  | .title => [' ']

/-- The text as a name of the style. -/
def apply (style : NamingStyle) (s : List Char) : List Char :=
  style.separator.intercalate (style.writeWords (words s))

end NamingStyle

end Reshape.Text
