import EndpointHooks.Json.Fault
import EndpointHooks.Validation

/-! Why there is no result: the document or the settings cannot be read, an endpoint is invalid, or
a line would have to be indented by more blanks than a string can hold. -/

namespace EndpointHooks

inductive ReadFailure where
  | notFound
  | isDirectory
  | nullInName
  | nameTooLong
  | notText
  deriving DecidableEq

def ReadFailure.message : ReadFailure → String
  | notFound => "No such file or directory (os error 2)"
  | isDirectory => "Is a directory (os error 21)"
  | nullInName => "file name contained an unexpected NUL byte"
  | nameTooLong => "File name too long (os error 36)"
  | notText => "stream did not contain valid UTF-8"

/-- Why a run failed. A settings value of the wrong kind comes with the whole report on it. -/
inductive Error where
  | document (cause : Json.Cause) (place : Text.Position)
  | configUnreadable (path : String) (failure : ReadFailure)
  | configMalformed
  | configInvalid (report : String)
  | invalidEndpoint (issue : Issue)
  | indentTooWide
  deriving DecidableEq

/-- The words for an error; some errors are told by their kind alone. -/
def Error.message? : Error → Option String
  | document cause place =>
    some ("Failed to parse endpoint definitions: " ++ cause.messageAt place)
  | configUnreadable path failure =>
    some ("Failed to read config file " ++ path ++ ": " ++ failure.message)
  | configMalformed => none
  | configInvalid report => some ("Failed to parse config: " ++ report)
  | invalidEndpoint issue => some issue.message
  | indentTooWide => none

end EndpointHooks
