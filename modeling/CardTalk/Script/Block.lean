/-
Blocks: the tree of commands, conditionals and loops in a list of lines.

Reading takes one line at a time with a stack of open blocks, the innermost first.  A
line closes the innermost block, opens another one or adds a command to it, so reading
ends with the lines; blocks still open then are closed.  Closers that close nothing are
skipped.

An `if` with its command on the same line waits for one more line, which may be its
`else`.  An `else if` opens an `if` within the second part of another.  Such outer ones
are kept as links of the inner `if`; when the inner one has taken an `end if`, that closes
all of them, and otherwise the nearest link that had lines of its own stays open.
-/
import CardTalk.Script.Line

namespace CardTalk.Script

/-- A node of the tree. -/
inductive Node where
  | command (text : Text)
  | ifElse (condition : Text) (thenBody elseBody : List Node)
  | loop (header : Text) (form : Loop) (body : List Node)

/-- An `if` whose second part begins with the `else if` that is being read.  `awaitsEnd`
says that it goes on to an `end if` unless the inner one takes that. -/
structure Link where
  condition : Text
  thenBody : List Node
  awaitsEnd : Bool

/-- An open block, with the nodes read into it so far. -/
inductive Frame where
  | inThen (links : List Link) (condition : Text) (body : List Node)
  | inElse (links : List Link) (condition : Text) (thenBody body : List Node)
  | inLoop (header : Text) (form : Loop) (body : List Node)

/-- An `if` on one line, which is complete unless the next line is its `else`. -/
structure Waiting where
  links : List Link
  condition : Text
  thenBody : List Node

/-- How far reading has come. -/
structure Reader where
  waiting : Option Waiting
  /-- The open blocks, innermost first. -/
  frames : List Frame
  /-- The nodes finished outside of all open blocks. -/
  nodes : List Node

namespace Node

/-- A command that stands on the line of an `if` or `else`: it may be an `if` with a
command of its own.  Each step drops at least one character, so the length of the text is
enough fuel. -/
def ofInline : Nat → Text → Node
  | 0, t => command t
  | fuel + 1, t =>
    match Line.ifForm.first? t with
    | some (condition, inner) =>
      if inner.isEmpty then command t else ifElse condition [ofInline fuel inner] []
    | none => command t

/-- A command that stands on the line of an `if` or `else`. -/
def inline (t : Text) : Node := ofInline t.length t

/-- The node that an `else if` makes together with the links it has. -/
def wrap (links : List Link) (node : Node) : Node :=
  links.foldl (fun inner l => .ifElse l.condition l.thenBody [inner]) node

end Node

namespace Frame

/-- The block with one more node. -/
def add (node : Node) : Frame → Frame
  | inThen links condition body => inThen links condition (body ++ [node])
  | inElse links condition thenBody body => inElse links condition thenBody (body ++ [node])
  | inLoop header form body => inLoop header form (body ++ [node])

/-- The node that a block is. -/
def node : Frame → Node
  | inThen links condition body => Node.wrap links (.ifElse condition body [])
  | inElse links condition thenBody body => Node.wrap links (.ifElse condition thenBody body)
  | inLoop header form body => .loop header form body

end Frame

namespace Reader

/-- Nothing read yet. -/
def start : Reader := ⟨none, [], []⟩

/-- Adds a node to the innermost open block. -/
def add (r : Reader) (node : Node) : Reader :=
  match r.frames with
  | [] => { r with nodes := r.nodes ++ [node] }
  | f :: rest => { r with frames := f.add node :: rest }

/-- Opens a block. -/
def push (r : Reader) (f : Frame) : Reader := { r with frames := f :: r.frames }

/-- Adds an `if` that has ended, with its links.  `closed` says that it took an `end if`,
which then ends all the links too. -/
def closeIf (r : Reader) (node : Node) (closed : Bool) : List Link → Reader
  | [] => r.add node
  | l :: links =>
    if closed || !l.awaitsEnd then r.closeIf (.ifElse l.condition l.thenBody [node]) closed links
    else r.push (.inElse links l.condition l.thenBody [node])

/-- Opens an `if`; one with its command on the same line waits for an `else`. -/
def openIf (r : Reader) (links : List Link) (condition command : Text) : Reader :=
  if command.isEmpty then r.push (.inThen links condition [])
  else { r with waiting := some ⟨links, condition, [.inline command]⟩ }

/-- Goes on to the second part of an `if`; `command` is what stands on the line of the
`else`, and `awaitsEnd` says that the `if` has lines of its own. -/
def openElse (r : Reader) (links : List Link) (condition : Text) (thenBody : List Node)
    (command : Text) (awaitsEnd : Bool) : Reader :=
  if command.isEmpty then r.push (.inElse links condition thenBody [])
  else
    match Line.ifForm.first? command with
    | some (inner, innerCommand) =>
      r.openIf (⟨condition, thenBody, awaitsEnd⟩ :: links) inner innerCommand
    | none =>
      if awaitsEnd then r.push (.inElse links condition thenBody [.inline command])
      else r.closeIf (.ifElse condition thenBody [.inline command]) false links

/-- Takes a line into the innermost open block. -/
def takeIntoBlock (r : Reader) (line : Line) : Reader :=
  match line with
  | .command text => r.add (.command text)
  | .opensIf condition command => r.openIf [] condition command
  | .malformedIf _ => r
  | .opensRepeat header form => r.push (.inLoop header form [])
  | .isElse command =>
    match r.frames with
    | .inThen links condition body :: rest =>
      openElse { r with frames := rest } links condition body command true
    | _ => r
  | .endIf =>
    match r.frames with
    | .inThen links condition body :: rest =>
      closeIf { r with frames := rest } (.ifElse condition body []) true links
    | .inElse links condition thenBody body :: rest =>
      closeIf { r with frames := rest } (.ifElse condition thenBody body) true links
    | _ => r
  | .endRepeat =>
    match r.frames with
    | .inLoop header form body :: rest =>
      add { r with frames := rest } (.loop header form body)
    | _ => r

/-- Takes the next line. -/
def take (r : Reader) (line : Line) : Reader :=
  match r.waiting with
  | none => r.takeIntoBlock line
  | some w =>
    let r := { r with waiting := none }
    match line with
    | .isElse command => r.openElse w.links w.condition w.thenBody command false
    | _ => (r.closeIf (.ifElse w.condition w.thenBody []) false w.links).takeIntoBlock line

/-- The nodes once a node that has ended and the open blocks around it, innermost first,
are closed. -/
def closeAround (nodes : List Node) (node : Node) : List Frame → List Node
  | [] => nodes ++ [node]
  | f :: rest => closeAround nodes (f.add node).node rest

/-- The nodes once the lines have ended. -/
def finish (r : Reader) : List Node :=
  let last := match r.waiting with
    | none => r
    | some w => r.add (.wrap w.links (.ifElse w.condition w.thenBody []))
  match last.frames with
  | [] => last.nodes
  | f :: rest => closeAround last.nodes f.node rest

end Reader

/-- The tree of a list of lines. -/
def blocks (lines : List Text) : List Node :=
  ((lines.map Line.ofText).foldl Reader.take .start).finish

/-- The warnings that reading a list of lines gives, in order. -/
def blockWarnings (lines : List Text) : List Text :=
  lines.filterMap fun line => (Line.ofText line).warning?

end CardTalk.Script
