import OutlineNav.Language

/-!
# Failures around navigation

Navigation itself never fails. `ServiceError` covers what can go wrong when the symbols of a
document are asked for, `FileError` what can go wrong with files. Three questions are asked of a
failure: whether somebody cancelled the request, whether a later attempt may succeed, and whether
the server has to be started again first.
-/

namespace OutlineNav

/-! ## Files -/

inductive FileError where
  | notFound
  | notDirectory
  | isDirectory
  | invalidText
  | nameTooLong
  | alreadyExists
  | brokenPipe
  | other (message : String)
  deriving DecidableEq, Repr

namespace FileError

def kind : FileError → String
  | .notFound => "NotFound"
  | .notDirectory => "NotADirectory"
  | .isDirectory => "IsADirectory"
  | .invalidText => "InvalidData"
  | .nameTooLong => "InvalidFilename"
  | .alreadyExists => "AlreadyExists"
  | .brokenPipe => "BrokenPipe"
  | .other _ => "Other"

def message : FileError → String
  | .notFound => "No such file or directory (os error 2)"
  | .notDirectory => "Not a directory (os error 20)"
  | .isDirectory => "Is a directory (os error 21)"
  | .invalidText => "stream did not contain valid UTF-8"
  | .nameTooLong => "File name too long (os error 36)"
  | .alreadyExists => "File exists (os error 17)"
  | .brokenPipe => "Broken pipe (os error 32)"
  | .other message => message

/-- The failure that the operating system reports under a number. -/
def ofNumber (number : Nat) (detail : String) : FileError :=
  match number with
  | 2 => .notFound
  | 17 => .alreadyExists
  | 20 => .notDirectory
  | 21 => .isDirectory
  | 32 => .brokenPipe
  | 36 => .nameTooLong
  | _ => .other s!"{detail} (os error {number})"

end FileError

/-! ## Providers of symbols -/

inductive ServiceError where
  | serverStart (reason : String)
  | notConnected
  | unsupportedLanguage (name : String)
  | serverTerminated (language : Language)
  | timeout (message : String)
  | requestCancelled
  | serverError (code : Int) (message : String)
  | protocol (problem : String)
  | fileTooLarge (path : String) (sizeMb limitMb : Nat)
  | file (error : FileError)
  | json (error : Json.DecodeError)
  deriving DecidableEq, Repr

namespace ServiceError

def message : ServiceError → String
  | .serverStart reason => s!"Failed to start server: {reason}"
  | .notConnected => "Server not connected"
  | .unsupportedLanguage name =>
    s!"No language server known for {name}. Configure one under [lsp.servers]."
  | .serverTerminated language => s!"{language.id} language server terminated unexpectedly"
  | .timeout message => message
  | .requestCancelled => "Request cancelled"
  | .serverError code message => s!"Server error [{code}]: {message}"
  | .protocol problem => s!"Protocol error: {problem}"
  | .fileTooLarge path sizeMb limitMb =>
    s!"File too large ({sizeMb}MB > {limitMb}MB limit): {path}"
  | .file error => error.message
  | .json error => error.message

/-- The code that servers use for cancelled requests. -/
def cancelledCode : Int := -32800

def code : ServiceError → Int
  | .serverError code _ => code
  | .serverTerminated _ => -32099
  | .timeout _ => -32001
  | .notConnected => -32003
  | .requestCancelled => cancelledCode
  | _ => -32000

def isCancelled : ServiceError → Bool
  | .requestCancelled => true
  | .serverError code _ => code == cancelledCode
  | _ => false

/-- A later attempt may succeed. -/
def isRecoverable (e : ServiceError) : Bool :=
  match e with
  | .serverTerminated _ | .notConnected | .timeout _ | .requestCancelled => true
  | e => e.isCancelled

/-- The server is gone and has to be started again. -/
def needsRestart : ServiceError → Bool
  | .serverTerminated _ | .notConnected => true
  | _ => false

end ServiceError

/-! ## Configuration -/

inductive ConfigError where
  /-- A file is no configuration text. -/
  | grammar (detail : String)
  /-- The merged tables do not have the form of a configuration. -/
  | form (detail : String)
  | invalidValue (key : String) (detail : String)
  | file (error : FileError)
  deriving DecidableEq, Repr

namespace ConfigError

def message : ConfigError → String
  | .grammar detail => s!"Config parse error: {detail}"
  | .form detail => s!"Config parse error: {detail}"
  | .invalidValue key detail => s!"Invalid value for '{key}': {detail}"
  | .file error => error.message

end ConfigError

end OutlineNav
