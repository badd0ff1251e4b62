/-
What can go wrong while a script runs or a definition is read.

A fault is its cause; `Fault.message` gives the words the user sees, and `Fault.kind`
sorts the causes into the few kinds that callers tell apart.
-/
import CardTalk.Text.Quoted

namespace CardTalk

/-- The kinds of fault that callers tell apart. -/
inductive Fault.Kind where
  /-- A script asked for a card that cannot be gone to. -/
  | navigation
  /-- A host-mode script failed. -/
  | hostScript
  /-- A value that cannot be read as what is needed. -/
  | value
  /-- A number too large for what is needed. -/
  | overflow
  | zeroDivision
  /-- Something was asked of a value that its type does not offer. -/
  | missingOperation
  | type
  /-- A collaborator (presenter, network) failed. -/
  | collaborator
  /-- A place that is not there: a position outside a list, or a word outside a table. -/
  | position
  deriving DecidableEq, Repr

/-- The causes of failure. -/
inductive Fault where
  /-- A card number, as it was asked for, outside one to the number of cards. -/
  | cardOutOfRange (asked : Text) (cards : Nat)
  | noHistory
  | atLastCard
  | atFirstCard
  | noSuchCard (name : Text)
  /-- An error inside a host-mode script, with its position in the words. -/
  | hostScript (words : Text)
  /-- An infinite number where a whole number is needed. -/
  | infinityToInteger
  /-- The undefined number where a whole number is needed. -/
  | undefinedToInteger
  /-- The remainder of an infinite number. -/
  | remainderDomain
  /-- A sum of opposite infinities. -/
  | oppositeInfinities
  /-- A sum of finite numbers that leaves the range on the way. -/
  | sumOverflow
  /-- A whole number with no floating-point number near it. -/
  | integerTooLarge
  /-- A quotient of whole numbers with no floating-point number near it. -/
  | quotientTooLarge
  /-- A text that is no whole number where one is needed. -/
  | notAnInteger (t : Text)
  /-- A written whole number with more digits than are read. -/
  | tooManyDigits (most digits : Nat)
  /-- A value of a type that has no whole number. -/
  | noIntegerReading (type : Text)
  /-- A value of a type that has no floating-point number. -/
  | noFloatReading (type : Text)
  /-- A wait in ticks when a second has none; `floating` says that one of the two numbers is
  a floating-point one, which a wait of zero is not. -/
  | noTicks (floating : Bool)
  /-- A comparison, by its sign, of two types that have no order between them. -/
  | notComparable (sign left right : Text)
  /-- A division of two types that cannot be divided. -/
  | notDivisible (left right : Text)
  /-- A value of a type that has no entries where a section of the settings is needed. -/
  | noEntries (type : Text)
  /-- A value of a type that is no text where a text is needed. -/
  | notText (type : Text)
  /-- A kind of object that there is none of; `shown` is the word as it is quoted. -/
  | unknownKind (shown : Text)
  /-- A word for a kind of object that only reads as one; `shown` is the word as it is quoted. -/
  | misspelledKind (shown : Text)
  /-- A value of a type that is no list where a list is needed. -/
  | notAList (type : Text)
  /-- A value of a type that has no length where one is counted. -/
  | noLength (type : Text)
  /-- A method that host scripts are not offered. -/
  | unknownMethod (name : Text)
  /-- A call of a method without the argument for a parameter. -/
  | missingArgument (method parameter : Text)
  /-- A call of a method with more arguments than it takes, the object itself counted. -/
  | tooManyArguments (method : Text) (least most given : Nat)
  /-- A presenter call that failed. -/
  | presenterFailed (call : Text)
  /-- A fetch that failed. -/
  | fetchFailed (words : Text)
  /-- A file that is no mapping. -/
  | fileNotMapping (what path type : Text)
  /-- The current card's position is outside the cards. -/
  | noCurrentCard
  /-- The position to delete at is outside the cards. -/
  | noCardToDelete
  /-- Handlers that send events to each other beyond the nesting limit. -/
  | nestedTooDeep
  /-- Actions of a host-mode script to which more and more are added while they are done. -/
  | endlessActions
  deriving DecidableEq, Repr

namespace Fault

/-- The most characters of a quoted text that is no whole number. -/
def quotedLength : Nat := 200

/-- The words for a value without entries: some types say what their positions are. -/
def entriesMessage (type : Text) : Text :=
  if type = "str" then "string indices must be integers, not 'str'"
  else if type = "list" then "list indices must be integers or slices, not str"
  else ("'" : Text) ++ type ++ "' object is not subscriptable"

/-- The words for a number of positional arguments. -/
def takesMessage (least most : Nat) : Text :=
  if least < most then
    ("from " : Text) ++ Text.ofNat least ++ " to " ++ Text.ofNat most ++ " positional arguments"
  else Text.ofNat most ++ " positional argument" ++ if most = 1 then [] else ['s']

/-- The words that describe a fault. -/
def message : Fault → Text
  | cardOutOfRange asked cards =>
    ("Card index " : Text) ++ asked ++ " is out of range (1 to " ++ Text.ofNat cards ++ ")."
  | noHistory => "No cards in history to go back to."
  | atLastCard => "Already at the last card."
  | atFirstCard => "Already at the first card."
  | noSuchCard name => ("Could not find card named \"" : Text) ++ name ++ "\"."
  | hostScript words => words
  | infinityToInteger => "cannot convert float infinity to integer"
  | undefinedToInteger => "cannot convert float NaN to integer"
  | remainderDomain => "math domain error"
  | oppositeInfinities => "-inf + inf in fsum"
  | sumOverflow => "intermediate overflow in fsum"
  | integerTooLarge => "int too large to convert to float"
  | quotientTooLarge => "integer division result too large for a float"
  | notAnInteger t =>
    ("invalid literal for int() with base 10: " : Text) ++ (Text.quoted t).take quotedLength
  | tooManyDigits most digits =>
    ("Exceeds the limit (" : Text) ++ Text.ofNat most
      ++ " digits) for integer string conversion: value has " ++ Text.ofNat digits
      ++ " digits; use sys.set_int_max_str_digits() to increase the limit"
  | noIntegerReading type =>
    ("int() argument must be a string, a bytes-like object or a real number, not '" : Text)
      ++ type ++ "'"
  | noFloatReading type =>
    ("float() argument must be a string or a real number, not '" : Text) ++ type ++ "'"
  | noTicks floating => if floating then "float division by zero" else "division by zero"
  | notComparable sign left right =>
    ("'" : Text) ++ sign ++ "' not supported between instances of '" ++ left ++ "' and '"
      ++ right ++ "'"
  | notDivisible left right =>
    ("unsupported operand type(s) for /: '" : Text) ++ left ++ "' and '" ++ right ++ "'"
  | noEntries type => entriesMessage type
  | notText type => ("'" : Text) ++ type ++ "' object has no attribute 'strip'"
  | unknownKind shown => shown ++ " is not a valid ObjectKind"
  | misspelledKind shown => shown
  | notAList type => ("'" : Text) ++ type ++ "' object is not iterable"
  | noLength type => ("object of type '" : Text) ++ type ++ "' has no len()"
  | unknownMethod name => ("'HostContext' object has no attribute '" : Text) ++ name ++ "'"
  | missingArgument method parameter =>
    ("HostContext." : Text) ++ method ++ "() missing 1 required positional argument: '"
      ++ parameter ++ "'"
  | tooManyArguments method least most given =>
    ("HostContext." : Text) ++ method ++ "() takes " ++ takesMessage least most ++ " but "
      ++ Text.ofNat given ++ " were given"
  | presenterFailed call => call ++ " failed"
  | fetchFailed words => words
  | fileNotMapping what path type =>
    what ++ " " ++ path ++ " must be a mapping, got " ++ type
  | noCurrentCard => "list index out of range"
  | noCardToDelete => "list assignment index out of range"
  | nestedTooDeep => "handlers are nested too deeply"
  | endlessActions => "a script keeps adding actions"

/-- The kind of a fault. -/
def kind : Fault → Kind
  | cardOutOfRange .. | noHistory | atLastCard | atFirstCard | noSuchCard _ => .navigation
  | hostScript _ => .hostScript
  | undefinedToInteger | remainderDomain | oppositeInfinities | notAnInteger _
  | tooManyDigits .. | unknownKind _ | fileNotMapping .. => .value
  | infinityToInteger | sumOverflow | integerTooLarge | quotientTooLarge => .overflow
  | noTicks _ => .zeroDivision
  | notText _ | unknownMethod _ => .missingOperation
  | noIntegerReading _ | noFloatReading _ | notAList _ | notComparable .. | notDivisible ..
  | noEntries _ | noLength _ | missingArgument .. | tooManyArguments .. => .type
  | presenterFailed _ | fetchFailed _ | nestedTooDeep | endlessActions => .collaborator
  | noCurrentCard | noCardToDelete | misspelledKind _ => .position

end Fault

end CardTalk
