/-
The methods that host-mode scripts are offered.

A script calls them on a scene that it is given, by their names and with values.  Queries,
`set_it` and `log` take effect at once.  What would navigate, edit the stack, ask the user or
use the network is only noted, as a `Deferred`, to be done in order once the script has ended.
-/
import CardTalk.Scene.Reference

namespace CardTalk.Host

/-- An action that is noted for later. -/
inductive Deferred where
  | go (destination : Value)
  | addCard (name : Option Text)
  | deleteCard
  | alert (message : Text)
  | prompt (message : Text)
  | fetch (url : Text)
  deriving DecidableEq

/-- What a method gives. -/
inductive Result where
  | value (v : Value)
  | entity (r : Reference)
  | entities (rs : List Reference)
  deriving DecidableEq

/-- No result. -/
def nothing : Result := .value .null

/-- The methods. -/
inductive Method where
  | currentCard | currentStack | currentIndex | cards | findObject | getIt | setIt | log
  | go | addCard | deleteCard | alert | fetch | prompt
  deriving DecidableEq, Repr

namespace Method

/-- All methods. -/
def all : List Method :=
  [currentCard, currentStack, currentIndex, cards, findObject, getIt, setIt, log, go, addCard,
    deleteCard, alert, fetch, prompt]

/-- The name that scripts call a method by. -/
def name : Method → Text
  | currentCard => "current_card" | currentStack => "current_stack"
  | currentIndex => "current_index" | cards => "cards" | findObject => "find_object"
  | getIt => "get_it" | setIt => "set_it" | log => "log" | go => "go" | addCard => "add_card"
  | deleteCard => "delete_card" | alert => "alert" | fetch => "fetch" | prompt => "prompt"

/-- The method with a given name. -/
def ofName? (name : Text) : Option Method := all.find? fun m => m.name == name

/-- The parameter of a method that has to be given. -/
def required? : Method → Option Text
  | findObject => some "name_or_id"
  | setIt => some "value"
  | go => some "spec"
  | alert | prompt => some "message"
  | fetch => some "url"
  | _ => none

/-- How many arguments a method takes at most; `log` takes any number. -/
def most? : Method → Option Nat
  | log => none
  | addCard => some 1
  | method => some method.required?.toList.length

/-- Checks the number of arguments of a call.  The scene itself counts as one. -/
def check (method : Method) (args : List Value) : Except Fault Unit :=
  match method.required?, args with
  | some parameter, [] => .error (.missingArgument method.name parameter)
  | required, args =>
    match method.most? with
    | none => .ok ()
    | some most =>
      if args.length ≤ most then .ok ()
      else
        .error (.tooManyArguments method.name (required.toList.length + 1) (most + 1)
          (args.length + 1))

end Method

/-- The method with a given name, where there has to be one. -/
def methodNamed (name : Text) : Except Fault Method :=
  match Method.ofName? name with
  | some method => .ok method
  | none => .error (.unknownMethod name)

end CardTalk.Host
