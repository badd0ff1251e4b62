/-
Commands: what a single statement asks for.

Every verb has a form, and a statement is a command of the first verb whose form it has.
An assignment comes first, so that a variable may be named like a verb.  A command keeps
its expressions and targets as they are written, since what they mean depends on when it
is carried out.
-/
import CardTalk.Script.Separator
import CardTalk.Quote

namespace CardTalk

/-- Where a value is put into a container that has one already. -/
inductive Preposition where
  | into | before | after
  deriving DecidableEq, Repr

/-- The word for a preposition. -/
def Preposition.word : Preposition → Text
  | into => "into"
  | before => "before"
  | after => "after"

/-- A command.  Arguments named for a value hold an expression. -/
inductive Command where
  | assign (name value : Text)
  | go (destination : Text)
  /-- `put value`, possibly with a preposition and a container. -/
  | put (value : Text) (place : Option (Preposition × Text))
  | getUrl (url : Text)
  | get (value : Text)
  /-- `set property of target to value`; without a target the card or the stack is meant. -/
  | set (property : Text) (target : Option Text) (value : Text)
  /-- A `set` without `to`. -/
  | setIncomplete (statement : Text)
  /-- `show target` or `hide target`, the verb in lower case as it is spelled. -/
  | appear (verb target : Text)
  | answer (message : Text)
  | ask (message : Text)
  | log (message : Text)
  | beep
  /-- `wait`, in seconds or else in ticks. -/
  | wait (amount : Text) (seconds : Bool)
  | openUrl (url : Text)
  | visual (effect : Text)
  | animate (target effect : Text)
  /-- An `animate` without `with`. -/
  | animateIncomplete (statement : Text)
  | find (term : Text) (field : Option Text)
  | declare (names : List Text)
  /-- `send event to target`; without a target the event goes to the card. -/
  | send (event : Text) (target : Option Text)
  deriving DecidableEq, Repr

namespace Command

open Search

/-! ### Arguments -/

/-- The name of a visual effect: in lower case, unquoted, its words joined by dashes. -/
def effectName (t : Text) : Text :=
  Text.blankRunsTo '-' (Text.lower (Text.trim (Quote.strip t)))

/-- The text without the word for a card before it and without the one after it. -/
def withoutCardWord (t : Text) : Text :=
  let leading : Search Unit := do Search.or (word "card") (word "cd"); blanks1
  let t := (leading.rest? t).getD t
  let trailing : Search (Text × Unit) := upTo (fun _ => true) do
    blanks1
    Search.or (word "card") (word "cd")
    notBefore fun _ => true
  ((trailing.first? t).map Prod.fst).getD t

/-- The first preposition that separates a value from a container, and the two. -/
def splitAtPreposition (t : Text) : Option (Text × Preposition × Text) :=
  let splits := [Preposition.into, .before, .after].filterMap fun p =>
    (Separator.split? p.word t).map fun r => (r.1, p, r.2)
  splits.foldl (fun best s =>
    match best with
    | none => some s
    | some b => if s.1.length < b.1.length then some s else best) none

/-- The command that `put` and its argument make. -/
def ofPut (t : Text) : Command :=
  match splitAtPreposition t with
  | some (value, p, container) => put value (some (p, Text.trim container))
  | none => put t none

/-- The command that `set` and its argument make. -/
def ofSet (statement t : Text) : Command :=
  match Separator.split? "to" t with
  | none => setIncomplete statement
  | some (left, value) =>
    match Separator.split? "of" left with
    | some (property, target) => set property (some target) value
    | none => set left none value

/-- The command that `animate` and its argument make. -/
def ofAnimate (statement t : Text) : Command :=
  match Separator.split? "with" t with
  | none => animateIncomplete statement
  | some (target, effect) => animate target (effectName effect)

/-- The command that `find` and its argument make; a field without a name is none. -/
def ofFind (t : Text) : Command :=
  match Separator.split? "in field" t with
  | none => find t none
  | some (term, field) =>
    let name := Quote.strip field
    find term (if name.isEmpty then none else some name)

/-- Whether a character separates the names of a `global`. -/
def separatesNames (c : Char) : Bool := Text.isBlank c || c == ','

/-- The names after `global`, between blanks and commas. -/
def namesOf : Text → List Text
  | [] => []
  | c :: rest =>
    if separatesNames c then namesOf rest
    else
      match rest, namesOf rest with
      | next :: _, name :: names =>
        if separatesNames next then [c] :: name :: names else (c :: name) :: names
      | _, names => [c] :: names

/-! ### Verbs -/

/-- A statement that consists of words, at least one blank and an argument. -/
def verbForm (words : List Text) : Search Text := do
  words.forM fun w => do word w; blanks1
  let argument ← rest1
  return argument

/-- A letter without marks, in any case, or an underscore. -/
def startsName (c : Char) : Bool :=
  let small := Text.fold c
  ('a' ≤ small && small ≤ 'z') || c == '_'

/-- `name = value`; two equal signs are none. -/
def assignForm : Search Command := do
  let first ← oneOf startsName
  let more ← run Text.isWord
  blanks
  let _ ← oneOf (· == '=')
  notBefore (· == '=')
  blanks
  let value ← rest1
  return assign (first :: more) value

/-- `go` or `go to`, and the destination. -/
def goForm : Search Command := do
  word "go"
  let _ ← optional (do blanks1; word "to")
  blanks1
  let destination ← rest1
  return go (Quote.strip (withoutCardWord (Text.trim destination)))

/-- A statement kept as a whole beside its argument. -/
def wholeForm (verb : Text) (make : Text → Text → Command) : Search Command := do
  let (statement, argument) ← span (verbForm [verb])
  return make statement argument

/-- `show` or `hide`, and the target. -/
def appearForm : Search Command := do
  let (verb, _) ← span (Search.or (word "show") (word "hide"))
  blanks1
  let target ← rest1
  return appear (Text.lower verb) target

/-- The words for the units of time, and whether they mean seconds: those with an `s` in
front do. -/
def unit : Search Bool := do
  let (name, _) ← span (anyOf [("seconds", ()), ("second", ()), ("secs", ()), ("sec", ()),
    ("ticks", ()), ("tick", ())])
  return ("s" : Text).isPrefixOf (Text.lower name)

/-- `wait` or `wait for`, an amount and possibly a unit. -/
def waitForm : Search Command := do
  word "wait"
  blanks1
  let _ ← optional (do word "for"; blanks1)
  let (amount, seconds) ← partUpTo do
    let seconds ← optional (do blanks1; unit)
    ending
    return seconds.getD false
  return wait amount seconds

/-- `visual` or `visual effect`, and the name of the effect. -/
def visualForm : Search Command := do
  word "visual"
  let _ ← optional (do blanks1; word "effect")
  blanks1
  let effect ← rest1
  return visual (effectName effect)

/-- The event of a `send`: one word, or a text between double quotes. -/
def eventName : Search Text :=
  Search.or (run1 fun c => !Text.isBlank c)
    (Prod.fst <$> span do
      let _ ← oneOf (· == '"')
      let _ ← run (· != '"')
      oneOf (· == '"'))

/-- `send`, an event and possibly a target. -/
def sendForm : Search Command := do
  word "send"
  blanks1
  let event ← eventName
  let target ← optional (do blanks1; word "to"; blanks1; rest1)
  ending
  return send (Quote.strip event) target

/-- The verbs with their forms, in the order in which they are tried. -/
def verbs : List (Text × Search Command) := [
  ("assign", assignForm),
  ("go", goForm),
  ("put", do return ofPut (← verbForm ["put"])),
  ("get url", do return getUrl (← verbForm ["get", "url"])),
  ("get", do return get (← verbForm ["get"])),
  ("set", wholeForm "set" ofSet),
  ("show/hide", appearForm),
  ("answer", do return answer (← verbForm ["answer"])),
  ("ask", do return ask (← verbForm ["ask"])),
  ("log", do return log (← verbForm ["log"])),
  ("beep", do word "beep"; ending; return beep),
  ("wait", waitForm),
  ("open url", do return openUrl (← verbForm ["open", "url"])),
  ("visual", visualForm),
  ("animate", wholeForm "animate" ofAnimate),
  ("find", do return ofFind (← verbForm ["find"])),
  ("global", do return declare (namesOf (← verbForm ["global"]))),
  ("send", sendForm)]

/-- The names of the verbs. -/
def verbNames : List Text := verbs.map Prod.fst

/-- The command that a statement is. -/
def ofStatement? (statement : Text) : Option Command :=
  verbs.findSome? fun verb => verb.2.first? statement

/-- Whether a statement is a command. -/
def recognizes (statement : Text) : Bool := (ofStatement? statement).isSome

end Command

end CardTalk
