import Polyview.Text.Cluster
import Polyview.Text.LetterCase

/-!
# Words and the ways to join them

A name is cut into words at hyphens, low lines and spaces, at changes between lower case, upper case
and digits, and before the last capital of an acronym that a lower-case letter follows. The words
are then joined again in one of two styles.
-/

namespace Polyview.Text

/-- A cluster that changes in lower case but not in upper case. -/
def isUpperCluster (cluster : List Char) : Bool :=
  uppercase cluster != lowercase cluster && cluster == uppercase cluster

/-- A cluster that changes in upper case but not in lower case. -/
def isLowerCluster (cluster : List Char) : Bool :=
  uppercase cluster != lowercase cluster && cluster == lowercase cluster

def isDigitCluster (cluster : List Char) : Bool :=
  cluster.all (fun c => c.isDigit)

def isSeparator (cluster : List Char) : Bool :=
  cluster == ['-'] || cluster == ['_'] || cluster == [' ']

/-- Whether a word ends after the first of two neighbouring clusters. -/
def isTurn (first second : List Char) : Bool :=
  (isLowerCluster first && isUpperCluster second) ||
  (isUpperCluster first && isDigitCluster second) ||
  (isDigitCluster first && isUpperCluster second) ||
  (isDigitCluster first && isLowerCluster second) ||
  (isLowerCluster first && isDigitCluster second)

/-- Whether the second of three clusters starts the word after an acronym. -/
def isAcronymEnd (first second third : List Char) : Bool :=
  isUpperCluster first && isUpperCluster second && isLowerCluster third

/-- Whether a word starts at `current`, given the cluster before it and the clusters after it. -/
def startsWord (before : Option (List Char)) (current : List Char)
    (after : List (List Char)) : Bool :=
  match before, after with
  | none, _ => false
  | some first, [] => isTurn first current
  | some first, third :: _ => isTurn first current || isAcronymEnd first current third

/-- The words of a list of clusters, where the first word has begun with `begun`. -/
def wordsFrom (before : Option (List Char)) (begun : List Char) :
    List (List Char) → List (List Char)
  | [] => [begun]
  | current :: rest =>
      if isSeparator current then
        begun :: wordsFrom (some current) [] rest
      else if startsWord before current rest then
        begun :: wordsFrom (some current) current rest
      else
        wordsFrom (some current) (begun ++ current) rest

/-- The words of a name. -/
def words (name : List Char) : List (List Char) :=
  (wordsFrom none [] (clusters name)).filter (fun word => !word.isEmpty)

/-- A word with a capital first character and the rest in lower case. -/
def capitalized : List Char → List Char
  | [] => []
  | c :: rest => upperOf c ++ lowercase rest

/-- The words of a name in lower case, joined by low lines. -/
def snakeCase (name : List Char) : List Char :=
  List.intercalate ['_'] ((words name).map lowercase)

/-- The capitalized words of a name without anything between them. -/
def pascalCase (name : List Char) : List Char :=
  ((words name).map capitalized).flatten

end Polyview.Text
