import Chip8.Decimal.Literal
import Chip8.Settings

/-!
# Options

The arguments of the command line: one file, and options that each take a value, either behind an
equals sign or as the next argument. An argument that begins with a hyphen is never taken for the
value of the option before it. Behind `--` every argument stands for itself.

An argument that has no place, or that asks for something else, is noticed as soon as it is read.
Once all are read, problems are looked for in a fixed order: no file, an option without a value, a
value without the form of its option, an option that is named twice.
-/

namespace Chip8.CommandLine

open Decimal

/-- What the command line asks for. -/
structure Options where
  rate : UInt32
  seed : Option UInt64
  seconds : Binary64
  keys : String
  file : String
  deriving DecidableEq, Repr

/-- Why the arguments do not give options: something else is asked for, or they are refused. -/
inductive Detour where
  | help
  | version
  | unknownArgument
  /-- An option is given twice. -/
  | repeatedOption
  /-- An option without a value has none to fall back on. -/
  | missingValue
  | missingFile
  /-- The value of an option does not have its form. -/
  | invalidValue
  deriving DecidableEq, Repr

/-- The options that take a value. -/
inductive OptionName where
  | rate
  | seed
  | seconds
  | keys
  deriving DecidableEq, Repr

/-- The option with a name. -/
def OptionName.ofName? : String → Option OptionName
  | "ips" => some .rate
  | "seed" => some .seed
  | "seconds" => some .seconds
  | "keys" => some .keys
  | _ => none

/-- What was found in the arguments so far. -/
structure Scan where
  /-- The options that were named, the last one first. -/
  named : List OptionName
  /-- The values that were found, the last one first, each with its option. -/
  values : List (OptionName × String)
  /-- The option whose value the next argument may be. -/
  pending : Option OptionName
  file : Option String
  /-- Whether `--` has been passed. -/
  literal : Bool
  deriving DecidableEq, Repr

namespace Scan

/-- Nothing found yet. -/
def empty : Scan := ⟨[], [], none, none, false⟩

/-- The value of an option is found. -/
def giveValue (scan : Scan) (name : OptionName) (value : String) : Scan :=
  { scan with values := (name, value) :: scan.values, pending := none }

/-- An option is named, perhaps with its value. -/
def nameOption (scan : Scan) (name : OptionName) (value : Option String) : Scan :=
  let mentioned := { scan with named := name :: scan.named, pending := some name }
  match value with
  | some value => mentioned.giveValue name value
  | none => mentioned

/-- An argument that stands for itself: the file, if there is none yet. -/
def giveFile (scan : Scan) (argument : String) : Except Detour Scan :=
  match scan.file with
  | some _ => .error .unknownArgument
  | none => .ok { scan with file := some argument }

/-- The name and the value of an argument that begins with two hyphens. Further hyphens in front
of the name and further equals signs in front of the value do not count. -/
def splitLong (argument : List Char) : String × Option String :=
  let body := argument.dropWhile (· == '-')
  let (name, rest) := body.span (· != '=')
  let value := match rest with
    | [] => none
    | _ :: behind => some (String.ofList (behind.dropWhile (· == '=')))
  (String.ofList name, value)

/-- An argument that begins with two hyphens. -/
def readLong (scan : Scan) (argument : List Char) : Except Detour Scan :=
  let (name, value) := splitLong argument
  match OptionName.ofName? name with
  | some option => .ok (scan.nameOption option value)
  | none =>
      if name == "help" then .error .help
      else if name == "version" then .error .version
      else .error .unknownArgument

/-- An argument that begins with one hyphen: its first letter decides. -/
def readShort (letters : List Char) : Detour :=
  match letters with
  | 'h' :: _ => .help
  | 'V' :: _ => .version
  | _ => .unknownArgument

/-- An argument that names nothing: the value of the pending option, or else the file. -/
def readPlain (scan : Scan) (argument : String) : Except Detour Scan :=
  match scan.pending with
  | some name => .ok (scan.giveValue name argument)
  | none => scan.giveFile argument

/-- The next argument. -/
def read (scan : Scan) (argument : String) : Except Detour Scan :=
  if scan.literal then scan.giveFile argument
  else
    match argument.toList with
    | ['-', '-'] => .ok { scan with literal := true }
    | '-' :: '-' :: _ => scan.readLong argument.toList
    | '-' :: letter :: rest => .error (readShort (letter :: rest))
    | _ => scan.readPlain argument

/-- The values of an option, the last one first. -/
def valuesOf (scan : Scan) (name : OptionName) : List String :=
  (scan.values.filter (·.1 = name)).map (·.2)

/-- The values of an option, or the text it falls back on. -/
def valuesOr (scan : Scan) (name : OptionName) (fallback : String) : List String :=
  match scan.valuesOf name with
  | [] => [fallback]
  | values => values

/-- The options, once all arguments are read. Every value has to have the form of its option, also
one that is not alone. -/
def finish (scan : Scan) : Except Detour Options :=
  match scan.file with
  | none => .error .missingFile
  | some file =>
      if .seed ∈ scan.named ∧ scan.valuesOf .seed = [] then .error .missingValue
      else
        let rates := (scan.valuesOr .rate "700").mapM (natural? UInt32.size ·.toList)
        let seconds := (scan.valuesOr .seconds "3").mapM (binary64? ·.toList)
        let seeds := (scan.valuesOf .seed).mapM (natural? UInt64.size ·.toList)
        match rates, seconds, seeds with
        | some (rate :: _), some (seconds :: _), some seeds =>
            if scan.named.Nodup then
              .ok {
                rate := UInt32.ofNat rate
                seed := seeds.head?.map UInt64.ofNat
                seconds
                keys := (scan.valuesOf .keys).headD ""
                file }
            else .error .repeatedOption
        | _, _, _ => .error .invalidValue

end Scan

/-- The options that the arguments give. -/
def Options.ofArguments (arguments : List String) : Except Detour Options :=
  match arguments.foldlM Scan.read Scan.empty with
  | .ok scan => scan.finish
  | .error detour => .error detour

/-- The settings of a run that the options ask for. -/
def Options.settings (options : Options) : Settings :=
  ⟨options.rate, options.seed⟩

end Chip8.CommandLine
