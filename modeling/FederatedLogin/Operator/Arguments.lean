import FederatedLogin.Identity
import FederatedLogin.Text.Digit

/-!
# Arguments of the operator command

The command takes three options: help, the principal, and the check of the configuration.  A long
option may be cut short as long as it stays unique, and may carry its value after an equals sign.

Arguments are sorted before anything is done: into options, values, and the mark after which
everything is a value.  Then they are followed from left to right.  Help ends the command at once;
what is not understood is complained about only at the end.
-/

namespace FederatedLogin.Operator

open FederatedLogin.Text

/-- The options. -/
inductive Choice where
  | help
  | principal
  | checkConfig
  deriving DecidableEq, Repr

/-- The long options with their names. -/
def longOptions : List (List Char × Choice) :=
  [("--help".toList, .help), ("--principal".toList, .principal),
   ("--check-config".toList, .checkConfig)]

/-- An argument by its form. -/
inductive Argument where
  | value (source : List Char)
  | option (which : Choice) (attached : Option (List Char))
  /-- The short help option with characters attached to it, which are short options too. -/
  | letters (rest : List Char)
  | unknown
  | endOfOptions
  deriving Repr

/-- Whether an argument is written like a negative number, with a line end or without. -/
def looksNegative (argument : List Char) : Bool :=
  let isDigit (value : Char) : Bool := (digitValue? value).isSome
  let body := match argument.getLast? with
    | some '\n' => argument.dropLast
    | _ => argument
  match body with
  | '-' :: number =>
      let rest := number.dropWhile isDigit
      (rest.isEmpty && !number.isEmpty) ||
        (match rest with
          | '.' :: places => !places.isEmpty && places.all isDigit
          | _ => false)
  | _ => false

/-- What stands before the first equals sign and what stands after it. -/
def splitAttached (argument : List Char) : List Char × Option (List Char) :=
  match argument.dropWhile (· != '=') with
  | _ :: attached => (argument.takeWhile (· != '='), some attached)
  | [] => (argument, none)

/-- The form of an argument that may be an option; several options that fit are none. -/
def formOf? (argument : List Char) : Option Argument :=
  match argument with
  | [] | ['-'] => some (.value argument)
  | ['-', '-'] => some .endOfOptions
  | ['-', 'h'] => some (.option .help none)
  | '-' :: '-' :: _ =>
      let (name, attached) := splitAttached argument
      let fitting := longOptions.filter fun option => name.isPrefixOf option.1
      match fitting.find? (·.1 == name), fitting with
      | some (_, which), _ => some (.option which attached)
      | none, [(_, which)] => some (.option which attached)
      | none, [] => some (if argument.contains ' ' then .value argument else .unknown)
      | none, _ => none
  | '-' :: 'h' :: '=' :: rest => some (.letters rest)
  | '-' :: 'h' :: rest => some (.letters rest)
  | '-' :: _ =>
      some (if looksNegative argument || argument.contains ' ' then .value argument else .unknown)
  | _ => some (.value argument)

/-- The forms of arguments; after the mark everything is a value. -/
def formsOf? : List String → Option (List Argument)
  | [] => some []
  | argument :: rest =>
      match formOf? argument.toList with
      | none => none
      | some .endOfOptions =>
          some (.endOfOptions :: rest.map fun value => .value value.toList)
      | some form => (formsOf? rest).map (form :: ·)

/-- The principal that a value names.  The mark after which everything is a value is no name, even
where it stands for one. -/
def principalOf (source : List Char) : Principal :=
  if source = ['-', '-'] then .unnamed else .named (String.ofList source)

/-- What the arguments ask for. -/
structure Request where
  principal : Principal := .named "cli"
  checksConfig : Bool := false
  deriving DecidableEq, Repr

/-- How reading the arguments ends. -/
inductive Reading where
  | asked (request : Request)
  | helped
  | misused
  deriving DecidableEq, Repr

/-- Whether letters attached to the short help option are short options: there is no other one, and
there has to be one. -/
def areShortOptions (letters : List Char) : Bool :=
  !letters.isEmpty && letters.all (· == 'h')

/-- Follows the arguments; `understood` says whether nothing has been left over so far. -/
def follow (request : Request) (understood : Bool) : List Argument → Reading
  | [] => if understood then .asked request else .misused
  | .option .help none :: _ => .helped
  | .letters rest :: _ => if areShortOptions rest then .helped else .misused
  | .option .checkConfig none :: rest =>
      follow { request with checksConfig := true } understood rest
  | .option .principal (some attached) :: rest =>
      follow { request with principal := principalOf attached } understood rest
  | .option .principal none :: .value source :: rest =>
      follow { request with principal := principalOf source } understood rest
  | .option _ _ :: _ => .misused
  | .value _ :: rest | .unknown :: rest | .endOfOptions :: rest => follow request false rest

/-- Reads the arguments. -/
def readArguments (arguments : List String) : Reading :=
  match formsOf? arguments with
  | some forms => follow {} true forms
  | none => .misused

example : readArguments ["--princ", "al"] = .asked { principal := .named "al" } := by decide +kernel
example : readArguments ["--bogus", "--help"] = .helped := by decide +kernel
example : readArguments ["-hh"] = .helped ∧ readArguments ["-h=h"] = .helped := by decide +kernel
example : readArguments ["-hx"] = .misused ∧ readArguments ["-h="] = .misused := by decide +kernel
example : readArguments ["--principal", "--check-config"] = .misused := by decide +kernel
example : readArguments ["--principal", "-1.5", "--check"] =
    .asked { principal := .named "-1.5", checksConfig := true } := by decide +kernel

end FederatedLogin.Operator
