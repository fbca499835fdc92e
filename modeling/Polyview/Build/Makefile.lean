import Polyview.Shell.Run

/-!
# Makefiles

Rules with targets, the targets that they need, and recipes. Building a target builds what it needs
first and then runs its recipe line by line. A line is printed before it runs, unless it starts with
an at sign, and the first line that fails ends the whole build.
-/

namespace Polyview.Makefile

open Disk (Machine)

/-- A rule. -/
structure Rule where
  targets : List String
  needs : List String
  recipe : List String
  deriving DecidableEq, Repr

/-- The names of makefiles, in the order in which they are looked for. -/
def fileNames : List String := ["GNUmakefile", "makefile", "Makefile"]

def failedBuild : Nat := 2

def linesOf (text : String) : List String := text.splitOn "\n"

def wordsOf (text : String) : List String :=
  ((text.map (fun c => if c = '\t' then ' ' else c)).splitOn " ").filter (fun word => !word.isEmpty)

def ruleOf? (line : String) : Option Rule :=
  let targets := line.toList.takeWhile (fun c => c != ':')
  match line.toList.dropWhile (fun c => c != ':') with
  | [] => none
  | _ :: needs => some ⟨wordsOf (String.ofList targets), wordsOf (String.ofList needs), []⟩

/-- Rules with one more recipe line for the first of them. -/
def addLine (line : String) : List Rule → Option (List Rule)
  | [] => none
  | rule :: rest => some ({ rule with recipe := rule.recipe ++ [line] } :: rest)

/-- The rules of lines, of which some are known, the latest first. -/
def rulesFrom (known : List Rule) : List String → Option (List Rule)
  | [] => some known.reverse
  | line :: rest =>
      match line.toList with
      | '\t' :: recipe =>
          match addLine (String.ofList recipe) known with
          | some known => rulesFrom known rest
          | none => none
      | '#' :: _ => rulesFrom known rest
      | _ =>
          if (wordsOf line).isEmpty then rulesFrom known rest
          else
            match ruleOf? line with
            | some rule => rulesFrom (rule :: known) rest
            | none => none

def rules? (text : String) : Option (List Rule) := rulesFrom [] (linesOf text)

/-- A recipe line with its references resolved: no variable has a value, and a doubled dollar sign
stands for one. -/
def resolved : List Char → List Char
  | '$' :: '$' :: rest => '$' :: resolved rest
  | '$' :: _ :: rest => resolved rest
  | ['$'] => []
  | c :: rest => c :: resolved rest
  | [] => []

/-- The marks at the start of a recipe line and the command after them. -/
def marked (line : String) : List Char × String :=
  let isMark (c : Char) : Bool := ['@', '-', '+', ' ', '\t'].contains c
  (line.toList.takeWhile isMark, String.ofList (resolved (line.toList.dropWhile isMark)))

/-- The machine after recipe lines, and whether all of them were done. -/
def runRecipe (machine : Machine) : List String → Bool × Machine
  | [] => (true, machine)
  | line :: rest =>
      let (marks, command) := marked line
      let machine := if marks.contains '@' then machine else machine.print (command ++ "\n")
      match Shell.runScript machine command ["/bin/sh"] with
      | (.exit 0, machine) => runRecipe machine rest
      | (_, machine) => if marks.contains '-' then runRecipe machine rest else (false, machine)

mutual

/-- The machine after a target has been built, and whether it was. -/
def build (fuel : Nat) (rules : List Rule) (machine : Machine) (target : String) :
    Bool × Machine :=
  match fuel with
  | 0 => (false, machine)
  | fuel + 1 =>
      match rules.find? (fun rule => rule.targets.contains target) with
      | none => (machine.has target, machine)
      | some rule =>
          match buildAll fuel rules machine rule.needs with
          | (false, machine) => (false, machine)
          | (true, machine) =>
              if machine.has target ∧ rule.needs.isEmpty then (true, machine)
              else runRecipe machine rule.recipe

/-- The machine after targets have been built one after another, and whether all were. -/
def buildAll (fuel : Nat) (rules : List Rule) (machine : Machine) :
    List String → Bool × Machine
  | [] => (true, machine)
  | target :: rest =>
      match fuel with
      | 0 => (false, machine)
      | fuel + 1 =>
          match build fuel rules machine target with
          | (true, machine) => buildAll fuel rules machine rest
          | (false, machine) => (false, machine)

end

/-- What is said where building a target has nothing to do, as there are no recipes or the target
is there and needs nothing. -/
def remark (machine : Machine) (rules : List Rule) (target : String) : String :=
  if rules.all (fun rule => rule.recipe.isEmpty) then
    "make: Nothing to be done for \x27" ++ target ++ "\x27.\n"
  else
    match rules.find? (fun rule => rule.targets.contains target) with
    | some rule =>
        if machine.has target ∧ rule.needs.isEmpty then
          "make: \x27" ++ target ++ "\x27 is up to date.\n"
        else
          ""
    | none => ""

/-- The machine after the first target of a makefile's rules has been built, and how that ends.
Names that start with a point are no such target. -/
def runRules (machine : Machine) (rules : List Rule) : Ending × Machine :=
  match (rules.flatMap Rule.targets).filter (fun target => !target.startsWith ".") with
  | [] => (.exit failedBuild, machine)
  | target :: _ =>
      let steps := 2 * (rules.flatMap Rule.targets).length + (rules.flatMap Rule.needs).length + 2
      match build steps rules machine target with
      | (true, after) => (.exit 0, after.print (remark machine rules target))
      | (false, after) => (.exit failedBuild, after)

/-- The machine after a build in the current folder, and how the build ends. -/
def run (machine : Machine) : Ending × Machine :=
  match fileNames.findSome? (fun name => (machine.readText name).toOption) with
  | none => (.exit failedBuild, machine)
  | some text =>
      match rules? text with
      | none => (.exit failedBuild, machine)
      | some rules => runRules machine rules

end Polyview.Makefile
