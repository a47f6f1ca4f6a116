/-!
# Arguments

The options of the command line. Arguments are read from the left, and the first
one that cannot be read, or that asks for help or for the version, ends the reading.
-/

set_option autoImplicit false

namespace OutboundSms.CommandLine

/-- What the arguments ask for. -/
inductive Invocation where
  | simulate (config : Option String)
  | help
  | version
  | refused
  deriving DecidableEq, Repr

/-- An option, with the value that is written together with it. -/
inductive CommandOption where
  | config (value : Option String)
  | help
  | version
  | unknown
  deriving DecidableEq, Repr

def longOption (body : List Char) : CommandOption :=
  let name := String.ofList (body.takeWhile (· != '='))
  let value := body.dropWhile (· != '=')
  match name, value with
  | "config", '=' :: value => .config (some (String.ofList value))
  | "config", _ => .config none
  | "help", [] => .help
  | "version", [] => .version
  | _, _ => .unknown

/-- Reads the first of the options in a short form, without the dash. Whatever
stands behind an option that takes a value is its value. -/
def shortOption : List Char → CommandOption
  | 'c' :: '=' :: value => .config (some (String.ofList value))
  | ['c'] => .config none
  | 'c' :: value => .config (some (String.ofList value))
  | 'h' :: _ => .help
  | 'V' :: _ => .version
  | _ => .unknown

/-- Reads an argument as an option. A single dash is none. -/
def option (argument : String) : CommandOption :=
  match argument.toList with
  | '-' :: '-' :: body => longOption body
  | '-' :: body => shortOption body
  | _ => .unknown

/-- Whether an argument can be the value of the option before it: it is not empty,
and it does not look like an option. -/
def isValue (argument : String) : Bool :=
  match argument.toList with
  | [] => false
  | ['-'] => true
  | '-' :: _ => false
  | _ => true

/-- Reads arguments, where `config` has been given before them. No option may be
given twice, and there are no arguments that are no options. -/
def readArguments (config : Option String) : List String → Invocation
  | [] => .simulate config
  | ["--"] => .simulate config
  | "--" :: _ => .refused
  | argument :: rest =>
      match option argument with
      | .help => .help
      | .version => .version
      | .unknown => .refused
      | .config value =>
          if config.isSome then .refused
          else
            match value, rest with
            | some "", _ => .refused
            | some value, rest => readArguments (some value) rest
            | none, value :: rest =>
                if isValue value then readArguments (some value) rest else .refused
            | none, [] => .refused

def invocation (arguments : List String) : Invocation :=
  readArguments none arguments

end OutboundSms.CommandLine
