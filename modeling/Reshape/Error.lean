import Reshape.Json.Description

/-!
# Errors

Only a broken template stops a transformation; data that does not fit becomes null.
An error says what is wrong and where in the template it was found.  The parts of the
library that cannot know the place leave it empty, and it is filled in once on the way
out.

Main results:

- Definition `Error.located`: an error with its place filled in.
- Definition `Error.message`: the wording of an error.
-/

namespace Reshape

/-! ## Causes -/

/-- What is wrong with an expression or a template. -/
inductive Malformation where
  | unclosedQuote (quote : Char) (rest : String)
  | missingOperation (prior : String)
  | selectorArguments (selector : String)
  | parametersNotObject (function : String) (found : Json)
  | keyNotString (key : String) (found : Json)
  | missingParameter (function name alternative : String)
deriving DecidableEq

/-- What is wrong with the arguments of an operation. -/
inductive ArgumentFault where
  | count (expected received : Nat)
  | countAbove (most received : Nat)
  | notPath (found : Json)
  | notTable (path : String) (found : Json)
  | other (message : String)
deriving DecidableEq

/-- What is wrong with a path. -/
inductive PathFault where
  | badIndex (level : String)
  | other (message : String)
deriving DecidableEq

/-- The reasons for which a transformation stops. -/
inductive Error where
  | malformed (fault : Malformation) (location : String)
  | unknownOperation (name location : String)
  | unknownFunction (name location : String)
  | invalidArguments (operation location : String) (fault : ArgumentFault)
  | invalidPath (fault : PathFault)
  | unreadableFile (path location : String)
  | invalidJson (location : String)
  | nestedTooDeep (location : String)
deriving DecidableEq

/-! ## Places -/

/-- Fills in a place that is still empty. -/
def fillIn (known new : String) : String :=
  if known.isEmpty then new else known

namespace Error

/-- An error with its place filled in.  A fault of a path has no place. -/
def located (location : String) : Error → Error
  | malformed fault known => malformed fault (fillIn known location)
  | unknownOperation name known => unknownOperation name (fillIn known location)
  | unknownFunction name known => unknownFunction name (fillIn known location)
  | invalidArguments operation known fault =>
    invalidArguments operation (fillIn known location) fault
  | invalidPath fault => invalidPath fault
  | unreadableFile path known => unreadableFile path (fillIn known location)
  | invalidJson known => invalidJson (fillIn known location)
  | nestedTooDeep known => nestedTooDeep (fillIn known location)

/-- An error with the operation that raised it and its place filled in. -/
def raisedBy (name location : String) : Error → Error
  | invalidArguments operation known fault =>
    invalidArguments (fillIn operation name) (fillIn known location) fault
  | error => error.located location

end Error

/-! ## Wording -/

/-- The wording of a fault of an expression or a template. -/
def Malformation.message : Malformation → String
  | unclosedQuote quote rest =>
    "no closing quotation " ++ String.singleton quote ++ " for `" ++ rest ++ "`"
  | missingOperation prior => "missing final operation after `" ++ prior ++ "`"
  | selectorArguments selector =>
    "selector `" ++ selector ++ "` takes no arguments (did you mean to do an operation?)"
  | parametersNotObject function found =>
    "parameters of `" ++ function ++ "` must be an object, found " ++ found.compact
  | keyNotString key found =>
    "`" ++ key ++ "` must be a string, found Some(" ++ String.ofList found.describe ++ ")"
  | missingParameter function name alternative =>
    "`" ++ function ++ "` requires a `" ++ name ++ "` or `" ++ alternative ++ "` parameter"

/-- The wording of a fault of arguments. -/
def ArgumentFault.message : ArgumentFault → String
  | count expected received =>
    "expected " ++ toString expected ++ " argument(s), received " ++ toString received
  | countAbove most received =>
    "expected at most " ++ toString most ++ " argument(s), received " ++ toString received
  | notPath found => "expected a file path, found " ++ found.compact
  | notTable path found =>
    "enum file " ++ path ++ " must hold an object, found " ++ found.compact
  | other message => message

/-- The wording of a fault of a path. -/
def PathFault.message : PathFault → String
  | badIndex level => "`" ++ level ++ "` is not a valid array index"
  | other message => message

/-- The wording of an error. -/
def Error.message : Error → String
  | malformed fault location =>
    "malformed expression in \"" ++ location ++ "\": " ++ fault.message
  | unknownOperation name location =>
    "cannot find operation `" ++ name ++ "` in \"" ++ location ++ "\""
  | unknownFunction name location =>
    "cannot find function `" ++ name ++ "` in \"" ++ location ++ "\""
  | invalidArguments operation location fault =>
    "invalid arguments for `" ++ operation ++ "` in \"" ++ location ++ "\": " ++ fault.message
  | invalidPath fault => "invalid namespace: " ++ fault.message
  | unreadableFile path location => "failed to read " ++ path ++ " in \"" ++ location ++ "\""
  | invalidJson location => "invalid JSON in \"" ++ location ++ "\""
  | nestedTooDeep location => "templates are nested too deep in \"" ++ location ++ "\""

end Reshape
